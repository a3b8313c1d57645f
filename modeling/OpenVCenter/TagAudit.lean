import Mathlib.Data.List.Sort
import OpenVCenter.System
import OpenVCenter.TagLaws

set_option relaxedAutoImplicit false
set_option autoImplicit false

/-!
# The audit trail of the tags

`PUT /vms/{vm_id}/tags` of `api/routes/vms.py`: the tags of a VM are replaced, and an event is
recorded when the names of its tags have changed.

## Main definitions

* `OpenVCenter.changes` — `changes` of `services/audit.py`.
* `OpenVCenter.putVmTags` — the route.
* `OpenVCenter.Renames` — the tags put on a VM are others than those taken off, of the same names.

## Main results

* `OpenVCenter.tags_recorded_iff` — the requests that record an event exactly when the tags change.

## Design

The tables of the tags are a `Catalog`, whose write the request returns; the event is in the
database of the session. The VM is one its caller sees.
-/

namespace OpenVCenter

open Effect

/-! ## The route -/

/-- `changes`: the keys of `after` whose value is new, with both values; none when there are none.
A key that `before` has not reads None. -/
def changes {α : Type} [DecidableEq α] (encode : α → Json) (before after : List (String × α)) :
    Option Json :=
  let get := fun k => (before.find? fun e => decide (e.1 = k)).map Prod.snd
  let changed := after.filter fun e => decide (get e.1 ≠ some e.2)
  if changed.isEmpty then none
  else some (.obj [
    ("before", .obj (changed.map fun e => (e.1, ((get e.1).map encode).getD .null))),
    ("after", .obj (changed.map fun e => (e.1, encode e.2)))])

/-- The tags the VM carries. -/
def carriedTags (s : Catalog) (vmId : String) : List Tag :=
  s.tags.filter fun t => decide (s.Carries vmId t.id)

/-- `sorted(t.name for t in tags)`. -/
def sortedNames (tags : List Tag) : List String :=
  (tags.map fun t => t.name.text).mergeSort fun a b => decide (a ≤ b)

/-- A list of names. -/
def namesJson (names : List String) : Json := .arr (names.map Json.str)

/-- `put_vm_tags`; the VM's tags after the write are what `set_vm_tags` has assigned. -/
def putVmTags (env : Env) (user : User) (s : Catalog) (vm : Vm) (tagIds : List String) :
    M CatalogWrite := do
  let before := sortedNames (carriedTags s vm.id)
  let write ← Prog.ofExcept (setVmTags s vm.id tagIds)
  let after := sortedNames (carriedTags (write.apply s) vm.id)
  (match changes namesJson [("tags", before)] [("tags", after)] with
    | some diff => record env (some user) "vm.tags" vm.ref none diff
    | none => pure ())
  pure write

/-! ## What is recorded -/

/-- The request has recorded a `vm.tags` event of the VM. -/
def TagsRecorded (env : Env) (user : User) (vm : Vm) (w t : World) : Prop :=
  ∃ details, t.db.auditEvents = w.db.auditEvents ++
    [auditEvent (env.uuid w.nextId) w.now (some user) "vm.tags" vm.ref none details]

/-- The VM carries the same tags in both catalogs. -/
def SameTags (vmId : String) (s s' : Catalog) : Prop :=
  ∀ tagId, s.Carries vmId tagId ↔ s'.Carries vmId tagId

/-- The tags that `tagIds` takes off the VM. -/
def takenOff (s : Catalog) (vmId : String) (tagIds : List String) : List Tag :=
  (carriedTags s vmId).filter fun t => decide (t.id ∉ tagIds)

/-- The tags that `tagIds` puts on the VM. -/
def putOn (s : Catalog) (vmId : String) (tagIds : List String) : List Tag :=
  s.tags.filter fun t => decide (t.id ∈ tagIds) && decide (¬ s.Carries vmId t.id)

/-- **The tags put on are others than those taken off, of the same names.** -/
def Renames (s : Catalog) (vmId : String) (tagIds : List String) : Prop :=
  takenOff s vmId tagIds ≠ [] ∧
    ((takenOff s vmId tagIds).map fun t => t.name.text).Perm
      ((putOn s vmId tagIds).map fun t => t.name.text)

section Route

variable {env : Env} {user : User} {s : Catalog} {vm : Vm} {vmId : String} {tagIds : List String}
  {write : CatalogWrite} {w t : World}

/-- The difference of two lists of tags. -/
lemma changes_tags (before after : List String) :
    changes namesJson [("tags", before)] [("tags", after)] =
      if before = after then none
      else some (.obj [("before", .obj [("tags", namesJson before)]),
        ("after", .obj [("tags", namesJson after)])]) := by
  by_cases h : before = after
  · simp [changes, h]
  · simp [changes, h]

/-- Names are sorted alike exactly when they are the same, each as often. -/
lemma sortedNames_inj {tags tags' : List Tag} : sortedNames tags = sortedNames tags' ↔
    (tags.map fun t => t.name.text).Perm (tags'.map fun t => t.name.text) := by
  have hperm : ∀ tags : List Tag, (sortedNames tags).Perm (tags.map fun t => t.name.text) :=
    fun tags => List.mergeSort_perm _ _
  have hsorted : ∀ tags : List Tag, (sortedNames tags).Pairwise (· ≤ ·) :=
    fun tags => List.pairwise_mergeSort' (r := (· ≤ ·)) _
  constructor
  · intro h
    exact ((hperm tags).symm.trans (h ▸ List.Perm.refl _)).trans (hperm tags')
  · intro h
    exact (((hperm tags).trans h).trans (hperm tags').symm).eq_of_pairwise'
      (hsorted tags) (hsorted tags')

/-- What `set_vm_tags` writes. -/
lemma setVmTags_eq_ok (h : setVmTags s vmId tagIds = .ok write) : write =
    diffWrite s vmId ((s.tags.filter fun t => decide (t.id ∈ tagIds.dedup)).map Tag.id) := by
  unfold setVmTags at h
  split_ifs at h with hvm
  dsimp only at h
  split_ifs at h with hlength
  obtain ⟨⟨⟩, -, hwrite⟩ := except_bind_eq_ok.mp h
  exact (Except.ok.inj hwrite).symm

/-- After the write, the VM carries the tags it has been given. -/
lemma carries_iff (h : setVmTags s vmId tagIds = .ok write) {tagId : String} :
    (write.apply s).Carries vmId tagId ↔ tagId ∈ tagIds ∧ tagId ∈ s.tags.map Tag.id := by
  rw [setVmTags_eq_ok h]
  refine mem_diffWrite.trans ?_
  rw [if_pos rfl, List.mem_map, List.mem_map]
  constructor
  · rintro ⟨tag, htag, rfl⟩
    obtain ⟨htag, hid⟩ := List.mem_filter.mp htag
    exact ⟨List.mem_dedup.mp (of_decide_eq_true hid), tag, htag, rfl⟩
  · rintro ⟨hid, tag, htag, rfl⟩
    exact ⟨tag, List.mem_filter.mpr ⟨htag, decide_eq_true (List.mem_dedup.mpr hid)⟩, rfl⟩

/-- The tags a VM carries after an assignment. -/
lemma carriedTags_apply (h : setVmTags s vmId tagIds = .ok write) :
    carriedTags (write.apply s) vmId = s.tags.filter fun t => decide (t.id ∈ tagIds) := by
  have htags : (write.apply s).tags = s.tags := by
    rw [setVmTags_eq_ok h]
    rfl
  unfold carriedTags
  rw [htags]
  refine List.filter_congr fun t ht => ?_
  rw [decide_eq_decide, carries_iff h]
  exact and_iff_left (List.mem_map_of_mem ht)

/-- The names of a VM's tags are the same before and after exactly when those of the tags taken off
and put on are. -/
lemma names_perm_iff (s : Catalog) (vmId : String) (tagIds : List String) :
    ((carriedTags s vmId).map fun t => t.name.text).Perm
      ((s.tags.filter fun t => decide (t.id ∈ tagIds)).map fun t => t.name.text) ↔
    ((takenOff s vmId tagIds).map fun t => t.name.text).Perm
      ((putOn s vmId tagIds).map fun t => t.name.text) := by
  -- the tags that stay are on both sides
  set stays := (carriedTags s vmId).filter fun t => decide (t.id ∈ tagIds) with hstays
  have hbefore : (carriedTags s vmId).Perm (stays ++ takenOff s vmId tagIds) := by
    have hnot : (fun t : Tag => decide (t.id ∉ tagIds)) = fun t => !decide (t.id ∈ tagIds) := by
      funext t
      rw [decide_not]
    rw [hstays, takenOff, hnot]
    exact (List.filter_append_perm _ _).symm
  have hafter : (s.tags.filter fun t => decide (t.id ∈ tagIds)).Perm
      (stays ++ putOn s vmId tagIds) := by
    have hsplit := (List.filter_append_perm (fun t : Tag => decide (s.Carries vmId t.id))
      (s.tags.filter fun t => decide (t.id ∈ tagIds))).symm
    rw [List.filter_filter, List.filter_filter] at hsplit
    rw [hstays, carriedTags, putOn, List.filter_filter]
    have hfirst : (fun t : Tag => decide (s.Carries vmId t.id) && decide (t.id ∈ tagIds)) =
        fun t => decide (t.id ∈ tagIds) && decide (s.Carries vmId t.id) := by
      funext t
      rw [Bool.and_comm]
    have hsecond : (fun t : Tag => !decide (s.Carries vmId t.id) && decide (t.id ∈ tagIds)) =
        fun t => decide (t.id ∈ tagIds) && decide (¬ s.Carries vmId t.id) := by
      funext t
      rw [Bool.and_comm, decide_not]
    rw [hfirst, hsecond] at hsplit
    exact hsplit
  have hnames : ∀ {a b c d : List Tag}, a.Perm c → b.Perm d →
      ((a.map fun t => t.name.text).Perm (b.map fun t => t.name.text) ↔
        (c.map fun t => t.name.text).Perm (d.map fun t => t.name.text)) := by
    intro a b c d hac hbd
    exact ⟨fun h => ((hac.map _).symm.trans h).trans (hbd.map _),
      fun h => ((hac.map _).trans h).trans (hbd.map _).symm⟩
  rw [hnames hbefore hafter, List.map_append, List.map_append, List.perm_append_left_iff]

/-- The VM's tags are the same exactly when none is taken off and none put on. -/
lemma sameTags_iff (hk : s.Keyed) (h : setVmTags s vmId tagIds = .ok write) :
    SameTags vmId s (write.apply s) ↔ takenOff s vmId tagIds = [] ∧ putOn s vmId tagIds = [] := by
  have hoff : takenOff s vmId tagIds = [] ↔
      ∀ t ∈ s.tags, s.Carries vmId t.id → t.id ∈ tagIds := by
    simp only [takenOff, carriedTags, List.filter_eq_nil_iff, List.mem_filter, decide_eq_true_eq,
      and_imp, not_not]
  have hon : putOn s vmId tagIds = [] ↔
      ∀ t ∈ s.tags, t.id ∈ tagIds → s.Carries vmId t.id := by
    simp [putOn, List.filter_eq_nil_iff]
  rw [hoff, hon]
  unfold SameTags
  simp only [carries_iff h]
  constructor
  · intro hsame
    exact ⟨fun t ht hcarries => ((hsame t.id).mp hcarries).1,
      fun t ht hid => (hsame t.id).mpr ⟨hid, List.mem_map_of_mem ht⟩⟩
  · rintro ⟨hoff, hon⟩ tagId
    constructor
    · intro hcarries
      have hmem := hk.vmTagTag _ hcarries
      obtain ⟨t, ht, rfl⟩ := List.mem_map.mp hmem
      exact ⟨hoff t ht hcarries, hmem⟩
    · rintro ⟨hid, hmem⟩
      obtain ⟨t, ht, rfl⟩ := List.mem_map.mp hmem
      exact hon t ht hid

/-- A request that returns has recorded an event exactly when the names have changed. -/
lemma recorded_iff (h : putVmTags env user s vm tagIds w = (.ok write, t)) :
    setVmTags s vm.id tagIds = .ok write ∧ (TagsRecorded env user vm w t ↔
      sortedNames (carriedTags s vm.id) ≠ sortedNames (carriedTags (write.apply s) vm.id)) := by
  unfold putVmTags at h
  obtain ⟨write', w₁, hplan, hrest⟩ := Prog.bind_eq_ok.mp h
  obtain ⟨hset, rfl⟩ := Prog.ofExcept_eq_ok.mp hplan
  obtain ⟨⟨⟩, t', hrecord, hreturn⟩ := Prog.bind_eq_ok.mp hrest
  rw [Prog.pure_run, Prod.mk.injEq, Except.ok.injEq] at hreturn
  obtain ⟨rfl, rfl⟩ := hreturn
  refine ⟨hset, ?_⟩
  rw [changes_tags] at hrecord
  split_ifs at hrecord with hnames
  · dsimp only at hrecord
    rw [Prog.pure_run, Prod.mk.injEq] at hrecord
    obtain ⟨-, rfl⟩ := hrecord
    refine iff_of_false ?_ (not_not_intro hnames)
    rintro ⟨details, hevents⟩
    simpa using congrArg List.length hevents
  · dsimp only at hrecord
    obtain ⟨-, ht⟩ := record_eq_ok hrecord
    exact iff_of_true ⟨_, congrArg (fun t : World => t.db.auditEvents) ht⟩ hnames

/-- A request that leaves the names as they are records nothing. -/
lemma putVmTags_silent (hset : setVmTags s vm.id tagIds = .ok write)
    (hperm : ((takenOff s vm.id tagIds).map fun t => t.name.text).Perm
      ((putOn s vm.id tagIds).map fun t => t.name.text)) :
    putVmTags env user s vm tagIds w = (.ok write, w) := by
  have hnames : sortedNames (carriedTags s vm.id) =
      sortedNames (carriedTags (write.apply s) vm.id) := by
    rw [carriedTags_apply hset]
    exact sortedNames_inj.mpr ((names_perm_iff _ _ _).mpr hperm)
  unfold putVmTags
  rw [hset, Prog.ofExcept_ok, Prog.pure_bind_run, changes_tags, if_pos hnames]
  rfl

/-- **The requests that record an event exactly when the tags change** are those whose new tags are
not others of the same names. -/
theorem tags_recorded_iff (hk : s.Keyed)
    (h : putVmTags env user s vm tagIds w = (.ok write, t)) :
    (TagsRecorded env user vm w t ↔ ¬ SameTags vm.id s (write.apply s)) ↔
      ¬ Renames s vm.id tagIds := by
  obtain ⟨hset, hrecorded⟩ := recorded_iff h
  rw [hrecorded, not_iff_not, carriedTags_apply hset, sortedNames_inj, names_perm_iff,
    sameTags_iff hk hset]
  unfold Renames
  constructor
  · rintro hiff ⟨hne, hperm⟩
    exact hne (hiff.mp hperm).1
  · intro hnot
    constructor
    · intro hperm
      by_cases hoff : takenOff s vm.id tagIds = []
      · rw [hoff, List.map_nil, List.nil_perm, List.map_eq_nil_iff] at hperm
        exact ⟨hoff, hperm⟩
      · exact absurd ⟨hoff, hperm⟩ hnot
    · rintro ⟨hoff, hon⟩
      rw [hoff, hon]

end Route

namespace Demo

/-- Two categories with a tag of one name each; a VM that carries the first. -/
def twoCategories : Catalog where
  categories :=
    [{ id := "c1", name := env }, { id := "c2", name := ⟨"team", by decide +kernel⟩ }]
  tags :=
    [{ id := "t1", categoryId := some "c1", name := ⟨"prod", isTagName_prod⟩, color := .red },
      { id := "t2", categoryId := some "c2", name := ⟨"prod", isTagName_prod⟩, color := .blue }]
  vms := ["v"]
  vmTags := [("v", "t1")]

/-- The VM. -/
def taggedVm : Vm := { id := "v", vmUuid := some "g", hostId := "h", name := .str "vm" }

end Demo

/-- The VM keeps its tag. -/
theorem tags_recorded_kept :
    (TagsRecorded Demo.settings Demo.user Demo.taggedVm Demo.start.world Demo.start.world ↔
      ¬ SameTags "v" Demo.twoCategories
        ((CatalogWrite.setTags "v" [] []).apply Demo.twoCategories)) ↔
      ¬ Renames Demo.twoCategories "v" ["t1"] :=
  @tags_recorded_iff Demo.settings Demo.user Demo.twoCategories Demo.taggedVm ["t1"] _ _ _
    (by decide +kernel) (putVmTags_silent rfl (by decide +kernel))

/-- A tag is replaced by the one of the same name in the other category. -/
theorem tags_recorded_counterexample :
    ¬ ∀ (env : Env) (user : User) (s : Catalog) (vm : Vm) (tagIds : List String)
      (write : CatalogWrite) (w t : World), s.Laws → s.Keyed →
      putVmTags env user s vm tagIds w = (.ok write, t) →
        (TagsRecorded env user vm w t ↔ ¬ SameTags vm.id s (write.apply s)) := by
  intro h
  have hrun : putVmTags Demo.settings Demo.user Demo.twoCategories Demo.taggedVm ["t2"]
      Demo.start.world = (.ok (.setTags "v" ["t1"] ["t2"]), Demo.start.world) :=
    putVmTags_silent rfl (by decide +kernel)
  have hiff := h _ _ _ _ _ _ _ _ (by decide +kernel) (by decide +kernel) hrun
  have hchanged : ¬ SameTags "v" Demo.twoCategories
      ((CatalogWrite.setTags "v" ["t1"] ["t2"]).apply Demo.twoCategories) := by
    intro hsame
    exact absurd ((hsame "t1").mp (by decide +kernel)) (by decide +kernel)
  obtain ⟨details, hevents⟩ := hiff.mpr hchanged
  simpa using congrArg List.length hevents

end OpenVCenter
