import OpenVCenter.TagLaws

set_option relaxedAutoImplicit false
set_option autoImplicit false

/-!
# Two requests for the tags of one VM

A request checks the catalog that is committed when it reads, and writes to the one that is
committed when it commits. No lock is taken and no index of the database stands behind the rule of
one tag per category, so what a write meets may not be what its request has checked.

## Main definitions

* `OpenVCenter.CatalogWrite.commit` — a write on the catalog committed by now.
* `OpenVCenter.TagRace.State`, `OpenVCenter.TagRace.step` — any number of requests in flight.
* `OpenVCenter.CatalogWrite.FitsIn` — the tags that a write brings together fit together.

## Main results

* `OpenVCenter.onePerCategory_apply` — a write keeps the VMs lawful exactly when it fits in.
* `OpenVCenter.TagRace.onePerCategory_iff_fitsIn` — **every VM carries at most one tag per category**,
  in every state of a run, exactly when every write of the run fits in.

## Design

`set_vm_tags` deletes the rows of `vm_tags` that it loaded and does not want, and inserts the ones it
wants and did not load. A row to delete may be gone by then: whether SQLAlchemy raises depends on
whether the driver counts the rows of such a statement, and is a parameter. A row to insert that is
there already violates the key.
-/

namespace OpenVCenter

/-! ## Writes in the catalog committed by now -/

namespace CatalogWrite

/-- The rows of `vm_tags` that the write deletes are there. -/
def RowsExist (s : Catalog) : CatalogWrite → Prop
  | .setTags vmId removed _ => ∀ t ∈ removed, s.Carries vmId t
  | _ => True

/-- Whether the rows of a write exist can be decided. -/
instance (s : Catalog) : DecidablePred (RowsExist s)
  | .setTags vmId removed _ => inferInstanceAs (Decidable (∀ t ∈ removed, s.Carries vmId t))
  | .insertCategory _ | .updateCategory .. | .deleteCategory _ | .insertTag _ | .updateTag ..
  | .deleteTag _ => .isTrue trivial

/-- The write and commit of a request: `flush`, and a rollback where it raises. -/
def commit (countsRows : Bool) (w : CatalogWrite) (s : Catalog) : Catalog :=
  if (countsRows = true → w.RowsExist s) ∧ (w.apply s).Keyed ∧ (w.apply s).UniqueNames then
    w.apply s
  else s

/-- **The tags that a write brings together fit together.** A tag that `set_vm_tags` adds is of no
category of another one that it adds, or that the VM carries by now and keeps; a tag that
`update_tag` moves is on no VM with another one of the new category. -/
def FitsIn (s : Catalog) : CatalogWrite → Prop
  | .setTags vmId removed added =>
    ∀ t ∈ s.tags, ∀ u ∈ s.tags, t.id ∈ added →
      (u.id ∈ added ∨ s.Carries vmId u.id ∧ u.id ∉ removed) →
        t.categoryId.isSome → t.categoryId = u.categoryId → t.id = u.id
  | .updateTag id _ _ categoryId =>
    ∀ tag ∈ s.tags, tag.id = id → NoClash s tag (categoryId.getD tag.categoryId)
  | _ => True

/-- Whether a write fits in can be decided. -/
instance (s : Catalog) : DecidablePred (FitsIn s)
  | .setTags vmId removed added => inferInstanceAs (Decidable (∀ t ∈ s.tags, ∀ u ∈ s.tags,
      t.id ∈ added → (u.id ∈ added ∨ s.Carries vmId u.id ∧ u.id ∉ removed) →
        t.categoryId.isSome → t.categoryId = u.categoryId → t.id = u.id))
  | .updateTag id _ _ categoryId => inferInstanceAs (Decidable (∀ tag ∈ s.tags, tag.id = id →
      NoClash s tag (categoryId.getD tag.categoryId)))
  | .insertCategory _ | .updateCategory .. | .deleteCategory _ | .insertTag _ | .deleteTag _ =>
    .isTrue trivial

end CatalogWrite

section Apply

variable {s : Catalog} {w : CatalogWrite}

/-- Assignments keep one tag of each category exactly if they fit in. -/
private lemma onePerCategory_setTags (hone : s.OnePerCategory) {vmId : String}
    {removed added : List String} :
    ((CatalogWrite.setTags vmId removed added).apply s).OnePerCategory ↔
      (CatalogWrite.setTags vmId removed added).FitsIn s := by
  have hcarries : ∀ vm id, ((CatalogWrite.setTags vmId removed added).apply s).Carries vm id ↔
      (s.Carries vm id ∧ ¬ (vm = vmId ∧ id ∈ removed)) ∨ (vm = vmId ∧ id ∈ added) := by
    intro vm id
    simp only [CatalogWrite.apply, Catalog.Carries, List.mem_append, Table.mem_deleteWhere,
      Bool.and_eq_false_iff, decide_eq_false_iff_not, List.mem_map, Prod.mk.injEq]
    constructor
    · rintro (⟨hold, hkept⟩ | ⟨t, ht, rfl, rfl⟩)
      · exact Or.inl ⟨hold, fun h => hkept.elim (· h.1) (· h.2)⟩
      · exact Or.inr ⟨rfl, ht⟩
    · rintro (⟨hold, hkept⟩ | ⟨rfl, ht⟩)
      · exact Or.inl ⟨hold, not_and_or.mp hkept⟩
      · exact Or.inr ⟨id, ht, rfl, rfl⟩
  constructor
  · intro h t ht u hu hadded hother hsome hcat
    refine h vmId t ht u hu ?_ ?_ hsome hcat
    · exact (hcarries vmId t.id).mpr (Or.inr ⟨rfl, hadded⟩)
    · rcases hother with hother | ⟨hold, hkept⟩
      · exact (hcarries vmId u.id).mpr (Or.inr ⟨rfl, hother⟩)
      · exact (hcarries vmId u.id).mpr (Or.inl ⟨hold, fun h => hkept h.2⟩)
  · intro h vm t ht u hu htc huc hsome hcat
    rcases (hcarries vm t.id).mp htc with ⟨htold, htkept⟩ | ⟨rfl, htnew⟩
    · rcases (hcarries vm u.id).mp huc with ⟨huold, -⟩ | ⟨rfl, hunew⟩
      · exact hone vm t ht u hu htold huold hsome hcat
      · have hsome' : u.categoryId.isSome = true := hcat ▸ hsome
        exact (h u hu t ht hunew (Or.inr ⟨htold, fun h => htkept ⟨rfl, h⟩⟩) hsome' hcat.symm).symm
    · rcases (hcarries vm u.id).mp huc with ⟨huold, hukept⟩ | ⟨-, hunew⟩
      · exact h t ht u hu htnew (Or.inr ⟨huold, fun h => hukept ⟨rfl, h⟩⟩) hsome hcat
      · exact h t ht u hu htnew (Or.inl hunew) hsome hcat

/-- So do updates of a tag. -/
private lemma onePerCategory_updateTag (hone : s.OnePerCategory) (hk : s.Keyed) {id : String}
    {name : Option TagName} {color : Option TagColor} {categoryId : Option (Option String)} :
    ((CatalogWrite.updateTag id name color categoryId).apply s).OnePerCategory ↔
      (CatalogWrite.updateTag id name color categoryId).FitsIn s := by
  by_cases hid : ∃ tag ∈ s.tags, tag.id = id
  · obtain ⟨tag, htag, rfl⟩ := hid
    have happly : (CatalogWrite.updateTag tag.id name color categoryId).apply s =
        retag s tag.id (name.getD tag.name) (color.getD tag.color)
          (categoryId.getD tag.categoryId) := retag_eq hk htag rfl
    rw [happly, onePerCategory_retag hone htag]
    constructor
    · intro h t ht heq
      obtain rfl : t = tag := List.inj_on_of_nodup_map hk.tagIds ht htag heq
      exact h
    · exact fun h => h tag htag rfl
  · have hrows : Table.updateWhere (fun t => decide (t.id = id))
        (fun t => t.update name color categoryId) s.tags = s.tags :=
      Table.updateWhere_eq_self fun t ht heq => absurd ⟨t, ht, of_decide_eq_true heq⟩ hid
    have happly : (CatalogWrite.updateTag id name color categoryId).apply s = s := by
      simp only [CatalogWrite.apply, hrows]
    rw [happly]
    exact ⟨fun _ t ht heq => absurd ⟨t, ht, heq⟩ hid, fun _ => hone⟩

/-- **A write keeps the VMs lawful** exactly when it fits in. -/
theorem onePerCategory_apply (hone : s.OnePerCategory) (hk : s.Keyed) (hk' : (w.apply s).Keyed) :
    (w.apply s).OnePerCategory ↔ w.FitsIn s := by
  have hdelete : ∀ {p q}, { s with
      tags := Table.deleteWhere p s.tags
      vmTags := Table.deleteWhere q s.vmTags : Catalog }.OnePerCategory :=
    fun vmId t ht u hu htc huc => hone vmId t (Table.mem_deleteWhere.mp ht).1 u
      (Table.mem_deleteWhere.mp hu).1 (Table.mem_deleteWhere.mp htc).1
      (Table.mem_deleteWhere.mp huc).1
  cases w with
  | insertCategory category => exact iff_of_true hone trivial
  | updateCategory id name => exact iff_of_true hone trivial
  | deleteCategory id => exact iff_of_true hdelete trivial
  | insertTag tag =>
    exact iff_of_true (onePerCategory_insert hone hk tag (Table.nodup_keys_append.mp hk'.tagIds).2)
      trivial
  | updateTag id name color categoryId => exact onePerCategory_updateTag hone hk
  | deleteTag id => exact iff_of_true hdelete trivial
  | setTags vmId removed added => exact onePerCategory_setTags hone

end Apply

namespace Demo

/-- The catalog before the VM is given a tag. -/
def untagged : Catalog := { catalog with vmTags := [] }

end Demo

namespace TagRace

/-! ## Requests in flight -/

/-- The committed catalog, and the writes of the requests that have read and checked. -/
structure State where
  catalog : Catalog
  flights : List CatalogWrite := []

/-- A request reads and checks, or one that has done so writes and commits. -/
inductive Event where
  | check (r : CatalogRequest)
  | write (i : ℕ)

/-- One step. A request that raises is not in flight. -/
def step (countsRows : Bool) (py : PyStd) (s : State) : Event → State
  | .check r =>
    match r.plan py s.catalog with
    | .ok w => { s with flights := s.flights ++ [w] }
    | .error _ => s
  | .write i =>
    match s.flights[i]? with
    | some w => { catalog := w.commit countsRows s.catalog, flights := s.flights.eraseIdx i }
    | none => s

/-- A write of the step that goes through fits in. -/
def Fits (countsRows : Bool) (s : State) (e : Event) : Prop :=
  ∀ i w, e = .write i → s.flights[i]? = some w →
    (countsRows = true → w.RowsExist s.catalog) → (w.apply s.catalog).Keyed →
    (w.apply s.catalog).UniqueNames → w.FitsIn s.catalog

variable {countsRows : Bool} {py : PyStd} {s : State} {w : CatalogWrite}

/-- A commit keeps the foreign keys. -/
lemma commit_keyed {s : Catalog} (hk : s.Keyed) : (w.commit countsRows s).Keyed := by
  unfold CatalogWrite.commit
  split_ifs with h
  · exact h.2.1
  · exact hk

/-- It keeps one tag of each category exactly if the write fits in. -/
lemma commit_onePerCategory {s : Catalog} (hone : s.OnePerCategory) (hk : s.Keyed) :
    (w.commit countsRows s).OnePerCategory ↔
      ((countsRows = true → w.RowsExist s) → (w.apply s).Keyed → (w.apply s).UniqueNames →
        w.FitsIn s) := by
  unfold CatalogWrite.commit
  split_ifs with h
  · obtain ⟨hrows, hkeyed, hnames⟩ := h
    rw [onePerCategory_apply hone hk hkeyed]
    exact ⟨fun hfits _ _ _ => hfits, fun hfits => hfits hrows hkeyed hnames⟩
  · exact ⟨fun _ hrows hkeyed hnames => absurd ⟨hrows, hkeyed, hnames⟩ h, fun _ => hone⟩

/-- Every step keeps the foreign keys. -/
lemma step_keyed (hk : s.catalog.Keyed) (e : Event) : (step countsRows py s e).catalog.Keyed := by
  cases e with
  | check r =>
    dsimp only [step]
    split
    · exact hk
    · exact hk
  | write i =>
    dsimp only [step]
    split
    · exact commit_keyed hk
    · exact hk

/-- A step keeps the VMs lawful exactly when its write fits in. -/
lemma step_onePerCategory (hone : s.catalog.OnePerCategory) (hk : s.catalog.Keyed) (e : Event) :
    (step countsRows py s e).catalog.OnePerCategory ↔ Fits countsRows s e := by
  unfold Fits
  cases e with
  | check r =>
    have hsame : (step countsRows py s (.check r)).catalog = s.catalog := by
      dsimp only [step]
      split
      · rfl
      · rfl
    rw [hsame]
    exact ⟨fun _ i w he => (by cases he), fun _ => hone⟩
  | write i =>
    rcases hw : s.flights[i]? with _ | w
    · simp only [step, hw]
      refine ⟨fun _ i' w he hsome => ?_, fun _ => hone⟩
      cases he
      rw [hw] at hsome
      cases hsome
    · simp only [step, hw, commit_onePerCategory hone hk]
      constructor
      · rintro h i' w' he hw'
        cases he
        obtain rfl : w = w' := Option.some.inj (hw.symm.trans hw')
        exact h
      · exact fun h => h i w rfl hw

/-- **Every VM carries at most one tag per category**, in every state of a run of requests in
flight, exactly when every write of the run that goes through fits in; and then it is so when all
have committed. -/
theorem onePerCategory_iff_fitsIn (countsRows : Bool) (py : PyStd) (s : Catalog) (es : List Event)
    (hl : s.Laws) (hk : s.Keyed) :
    (Machine.AllSteps (step countsRows py)
        (fun t e => (step countsRows py t e).catalog.OnePerCategory) { catalog := s } es ↔
      Machine.AllSteps (step countsRows py) (Fits countsRows) { catalog := s } es) ∧
    (Machine.AllSteps (step countsRows py) (Fits countsRows) { catalog := s } es →
      (Machine.run (step countsRows py) { catalog := s } es).catalog.OnePerCategory) := by
  have hkeep : ∀ t e, t.catalog.OnePerCategory ∧ t.catalog.Keyed → Fits countsRows t e →
      (step countsRows py t e).catalog.OnePerCategory ∧ (step countsRows py t e).catalog.Keyed :=
    fun t e h hfits => ⟨(step_onePerCategory h.1 h.2 e).mpr hfits, step_keyed h.2 e⟩
  have hstart : s.OnePerCategory ∧ s.Keyed := ⟨hl.onePerCategory, hk⟩
  constructor
  · exact (Machine.AllSteps.congr hkeep
      (fun t e h => (step_onePerCategory h.1 h.2 e).symm) hstart).symm
  · exact fun h => (h.invariant (I := fun t => t.catalog.OnePerCategory ∧ t.catalog.Keyed)
      hkeep hstart).1

/-- Two requests that give one VM a tag of one category each, and one that does so while another
moves a tag of the VM into the category, leave it with two. -/
theorem onePerCategory_iff_fitsIn_counterexample :
    Demo.untagged.Laws ∧ Demo.untagged.Keyed ∧
    (let s := Machine.run (step false Demo.py) { catalog := Demo.untagged }
      [.check (.setVmTags "v1" ["t1"]), .check (.setVmTags "v1" ["t2"]), .write 0, .write 0]
    s.flights.isEmpty ∧ ¬ s.catalog.OnePerCategory) ∧
    (let s := Machine.run (step false Demo.py) { catalog := Demo.untagged }
      [.check (.setVmTags "v1" ["t3"]), .write 0, .check (.setVmTags "v1" ["t1", "t3"]),
        .check (.updateTag "t3" (some "test") (some "c1") true none), .write 0, .write 0]
    s.flights.isEmpty ∧ ¬ s.catalog.OnePerCategory) := by
  decide +kernel

/-- The same two requests one after the other. -/
theorem onePerCategory_iff_fitsIn_serial :
    (Machine.run (step false Demo.py) { catalog := Demo.untagged }
      [.check (.setVmTags "v1" ["t1"]), .write 0, .check (.setVmTags "v1" ["t2"]),
        .write 0]).catalog.OnePerCategory := by
  have hl : Demo.untagged.Laws := by decide +kernel
  have hk : Demo.untagged.Keyed := by decide +kernel
  refine (onePerCategory_iff_fitsIn false Demo.py Demo.untagged _ hl hk).2 ?_
  refine ⟨nofun, ?_, nofun, ?_, trivial⟩
  · rintro i w he hw - - -
    cases he
    obtain rfl := Option.some.inj hw
    decide +kernel
  · rintro i w he hw - - -
    cases he
    obtain rfl := Option.some.inj hw
    decide +kernel

end TagRace

end OpenVCenter
