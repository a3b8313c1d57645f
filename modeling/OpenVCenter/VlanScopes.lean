import OpenVCenter.Vlans
import OpenVCenter.Estate

set_option relaxedAutoImplicit false
set_option autoImplicit false

/-!
# What a host sees of the VLANs

Tags and the default are kept unique in each scope. A host sees its own VLANs and those of its
cluster: one scope, as long as the members of clusters have none of their own.

## Main definitions

* `OpenVCenter.VlansApart` — what a host sees has each tag once, and one default at most.
* `OpenVCenter.VlansScoped` — the invariant of the table.
* `OpenVCenter.JoinsBare` — a host that joins a cluster has no VLANs of its own.

## Main results

* `OpenVCenter.vlansScoped_request`, `OpenVCenter.vlansScoped_organization` — requests on VLANs, and
  all other events, keep the invariant.
* `OpenVCenter.vlansApart_of_allSteps` — **in every run in which hosts join clusters bare, what each
  host sees is apart in every state reached**.
-/

namespace OpenVCenter

open Effect

variable {env : Env}

/-! ## Apart -/

/-- Two rows of one scope have the tag in common, or are both its default. -/
def Vlan.Clash (v w : Vlan) : Prop :=
  v.SameScope w ∧ (v.vlanId = w.vlanId ∨ (v.isDefault = true ∧ w.isDefault = true))

/-- What a host sees has each tag once and at most one default, and a VLAN of a host is of a
standalone one. -/
structure VlansApart (db : Db) (vlans : List Vlan) : Prop where
  visible : ∀ hostId l, listVlans db vlans (some hostId) none = .ok l →
    (l.map Vlan.vlanId).Nodup ∧ l.countP Vlan.isDefault ≤ 1
  standalone : ∀ v ∈ vlans, ∀ host ∈ db.hosts, v.hostId = some host.id → host.clusterId = none

/-- The row is of one scope, and it is not the empty text. -/
def Vlan.isScoped (v : Vlan) : Bool :=
  v.scopedOnce && decide (given v.clusterId = v.clusterId.isSome ∧ given v.hostId = v.hostId.isSome)

/-- The rows are of one scope each, apart in it, and a row of a host is of a standalone one. -/
structure VlansScoped (db : Db) (vlans : List Vlan) : Prop where
  ids : (vlans.map Vlan.id).Nodup
  isScoped : ∀ v ∈ vlans, v.isScoped = true
  apart : vlans.Pairwise fun v w => ¬ v.Clash w
  host : ∀ v ∈ vlans, ∀ h ∈ v.hostId, ∃ host ∈ db.hosts, host.id = h
  standalone : ∀ v ∈ vlans, ∀ host ∈ db.hosts, v.hostId = some host.id → host.clusterId = none

section Scopes

variable {db : Db} {vlans : List Vlan} {v w : Vlan}

/-- A VLAN has one owner: a cluster or a host. -/
lemma isScoped_iff : v.isScoped = true ↔
    (∃ c, v.clusterId = some c ∧ given (some c) = true ∧ v.hostId = none) ∨
    (∃ h, v.hostId = some h ∧ given (some h) = true ∧ v.clusterId = none) := by
  unfold Vlan.isScoped Vlan.scopedOnce
  rcases v.clusterId with _ | c
  · rcases v.hostId with _ | h
    · simp
    · simp [given, nonEmpty]
  · rcases v.hostId with _ | h
    · simp [given, nonEmpty]
    · simp

/-- The filter of a scope finds the rows of the scope. -/
lemma inScope_iff (hv : v.isScoped = true) (hw : w.isScoped = true) :
    inScope v.clusterId v.hostId w = true ↔ w.SameScope v := by
  unfold inScope Vlan.SameScope
  rcases isScoped_iff.mp hv with ⟨c, hc, hgiven, hh⟩ | ⟨h, hh, -, hc⟩
  · rw [hc, hh, if_pos hgiven, decide_eq_true_iff]
    refine ⟨fun hsame => ⟨hsame, ?_⟩, And.left⟩
    rcases isScoped_iff.mp hw with ⟨-, -, -, hnone⟩ | ⟨-, -, -, hnone⟩
    · exact hnone
    · rw [hnone] at hsame
      cases hsame
  · have hnone : given (none : Option String) ≠ true := Bool.false_ne_true
    rw [hc, hh, if_neg hnone, decide_eq_true_iff]
    refine ⟨fun hsame => ⟨?_, hsame⟩, And.right⟩
    rcases isScoped_iff.mp hw with ⟨-, -, -, hother⟩ | ⟨-, -, -, hother⟩
    · rw [hother] at hsame
      cases hsame
    · exact hother

/-- The rows a host sees are of one scope. -/
lemma sameScope_of_visible (h : VlansScoped db vlans) {hostId : String} {visible : Vlan → Bool}
    (hvisible : visibleVlan db (some hostId) none = .ok visible) (hv : v ∈ vlans) (hw : w ∈ vlans)
    (hpv : visible v = true) (hpw : visible w = true) : v.SameScope w := by
  dsimp only [visibleVlan] at hvisible
  rcases hhost : db.host hostId with _ | host
  · rw [hhost] at hvisible
    cases hvisible
  have hmem : host ∈ db.hosts := Table.mem_of_lookup hhost
  have hid : host.id = hostId := Table.key_of_lookup hhost
  rw [hhost] at hvisible
  dsimp only at hvisible
  rcases hcluster : host.clusterId with _ | c
  · rw [hcluster] at hvisible
    obtain rfl := Except.ok.inj hvisible
    have hown : v.hostId = w.hostId := (of_decide_eq_true hpv).trans (of_decide_eq_true hpw).symm
    refine ⟨?_, hown⟩
    rcases isScoped_iff.mp (h.isScoped v hv) with ⟨-, -, -, hnone⟩ | ⟨-, -, -, hv'⟩
    · exact absurd (hnone.symm.trans (of_decide_eq_true hpv)) (by rintro ⟨⟩)
    rcases isScoped_iff.mp (h.isScoped w hw) with ⟨-, -, -, hnone⟩ | ⟨-, -, -, hw'⟩
    · exact absurd (hnone.symm.trans (of_decide_eq_true hpw)) (by rintro ⟨⟩)
    exact hv'.trans hw'.symm
  · -- a member has no VLAN of its own, so both are of the cluster
    have hof : ∀ u ∈ vlans, visible u = true → u.clusterId = some c ∧ u.hostId = none := by
      intro u hu hpu
      rw [hcluster] at hvisible
      obtain rfl := Except.ok.inj hvisible
      have hnot : u.hostId ≠ some hostId := fun hown => by
        have hnone := h.standalone u hu host hmem (hown.trans (congrArg some hid.symm))
        rw [hcluster] at hnone
        cases hnone
      have hcu : u.clusterId = some c := by
        simpa [hnot] using hpu
      refine ⟨hcu, ?_⟩
      rcases isScoped_iff.mp (h.isScoped u hu) with ⟨-, -, -, hnone⟩ | ⟨-, -, -, hnone⟩
      · exact hnone
      · rw [hnone] at hcu
        cases hcu
    exact ⟨(hof v hv hpv).1.trans (hof w hw hpw).1.symm,
      (hof v hv hpv).2.trans (hof w hw hpw).2.symm⟩

/-- Rows that are pairwise apart in one scope have each tag once, and one default at most. -/
lemma countP_isDefault_le_one {l : List Vlan}
    (h : l.Pairwise fun v w => ¬ (v.isDefault = true ∧ w.isDefault = true)) :
    l.countP Vlan.isDefault ≤ 1 := by
  induction h with
  | nil => exact Nat.zero_le 1
  | @cons v l hv _ ih =>
    by_cases hd : v.isDefault = true
    · have hnone : l.countP Vlan.isDefault = 0 :=
        List.countP_eq_zero.mpr fun w hw hdw => hv w hw ⟨hd, hdw⟩
      rw [List.countP_cons_of_pos hd, hnone]
    · rwa [List.countP_cons_of_neg hd]

/-- The invariant gives what a host sees. -/
theorem VlansScoped.vlansApart (h : VlansScoped db vlans) : VlansApart db vlans where
  visible hostId l hl := by
    obtain ⟨visible, hvisible, hl⟩ := Effect.except_bind_eq_ok.mp hl
    obtain rfl := Except.ok.inj hl
    have hperm := List.perm_insertionSort (fun v w : Vlan => v.vlanId ≤ w.vlanId)
      (vlans.filter visible)
    have hapart : (vlans.filter visible).Pairwise fun v w =>
        v.vlanId ≠ w.vlanId ∧ ¬ (v.isDefault = true ∧ w.isDefault = true) := by
      refine (h.apart.filter visible).imp_of_mem fun {v w} hv hw hclash => ?_
      obtain ⟨hv, hpv⟩ := List.mem_filter.mp hv
      obtain ⟨hw, hpw⟩ := List.mem_filter.mp hw
      have hsame := sameScope_of_visible h hvisible hv hw hpv hpw
      exact ⟨fun htag => hclash ⟨hsame, .inl htag⟩, fun hd => hclash ⟨hsame, .inr hd⟩⟩
    constructor
    · rw [(hperm.map Vlan.vlanId).nodup_iff, List.nodup_iff_pairwise_ne, List.pairwise_map]
      exact hapart.imp And.left
    · rw [hperm.countP_eq]
      exact countP_isDefault_le_one (hapart.imp And.right)
  standalone := h.standalone

/-! ## Writes -/

/-- Only the hosts matter. -/
lemma VlansScoped.congr {db' : Db} (h : VlansScoped db vlans) (hhosts : db'.hosts = db.hosts) :
    VlansScoped db' vlans :=
  { h with host := hhosts ▸ h.host, standalone := hhosts ▸ h.standalone }

/-- The row is another one in the columns of the constraints, but may have lost the default. -/
structure Vlan.Tames (v w : Vlan) : Prop where
  id : v.id = w.id
  scope : v.SameScope w
  tag : v.vlanId = w.vlanId
  isDefault : v.isDefault = true → w.isDefault = true

/-- VLANs of one scope are scoped alike. -/
lemma isScoped_congr (h : v.SameScope w) : v.isScoped = w.isScoped := by
  unfold Vlan.isScoped Vlan.scopedOnce
  rw [h.1, h.2]

/-- A change that tames each VLAN keeps the scopes. -/
lemma VlansScoped.map (h : VlansScoped db vlans) {f : Vlan → Vlan}
    (hf : ∀ v ∈ vlans, (f v).Tames v) : VlansScoped db (vlans.map f) where
  ids := by
    have hids : vlans.map (Vlan.id ∘ f) = vlans.map Vlan.id :=
      List.map_congr_left fun v hv => (hf v hv).id
    rw [List.map_map, hids]
    exact h.ids
  isScoped := List.forall_mem_map.mpr fun v hv =>
    (isScoped_congr (hf v hv).scope).trans (h.isScoped v hv)
  apart := by
    rw [List.pairwise_map]
    refine h.apart.imp_of_mem fun {v w} hv hw hapart hclash => hapart ?_
    have hsame : v.SameScope w :=
      ⟨(hf v hv).scope.1.symm.trans (hclash.1.1.trans (hf w hw).scope.1),
        (hf v hv).scope.2.symm.trans (hclash.1.2.trans (hf w hw).scope.2)⟩
    refine ⟨hsame, hclash.2.imp (fun htag => ?_) fun hd => ?_⟩
    · rw [← (hf v hv).tag, htag, (hf w hw).tag]
    · exact ⟨(hf v hv).isDefault hd.1, (hf w hw).isDefault hd.2⟩
  host := List.forall_mem_map.mpr fun v hv => (hf v hv).scope.2 ▸ h.host v hv
  standalone := List.forall_mem_map.mpr fun v hv => (hf v hv).scope.2 ▸ h.standalone v hv

/-- The default of a scope is cleared. -/
lemma VlansScoped.clearDefault (h : VlansScoped db vlans) (clusterId hostId : Option String) :
    VlansScoped db (clearDefault clusterId hostId vlans) := by
  refine h.map fun v _ => ?_
  dsimp only
  split_ifs
  · exact ⟨rfl, ⟨rfl, rfl⟩, rfl, fun hd => absurd hd Bool.false_ne_true⟩
  · exact ⟨rfl, ⟨rfl, rfl⟩, rfl, id⟩

/-- A scope that is cleared has no default. -/
lemma not_default_of_clearDefault (h : VlansScoped db vlans) (hv : v.isScoped = true)
    (hw : w ∈ clearDefault v.clusterId v.hostId vlans) (hsame : w.SameScope v) :
    w.isDefault = false := by
  rcases Table.mem_updateWhere.mp hw with ⟨hw, hout⟩ | ⟨u, -, -, rfl⟩
  · have hin := (inScope_iff hv (h.isScoped w hw)).mpr hsame
    rw [hout] at hin
    cases hin
  · rfl

/-- A new row: admitted, of one scope, of a host that is there and standalone, and the default only
of a scope without one. -/
lemma VlansScoped.append (h : VlansScoped db vlans) (hv : v.isScoped = true)
    (hadmitted : v.admitted vlans = true)
    (hhost : ∀ id ∈ v.hostId, ∃ host ∈ db.hosts, host.id = id)
    (hstandalone : ∀ host ∈ db.hosts, v.hostId = some host.id → host.clusterId = none)
    (hdefault : v.isDefault = true → ∀ w ∈ vlans, w.SameScope v → w.isDefault = false) :
    VlansScoped db (vlans ++ [v]) := by
  have hnew : ∀ w ∈ vlans, w.id ≠ v.id ∧ ¬ (w.SameScope v ∧ w.vlanId = v.vlanId) := fun w hw =>
    of_decide_eq_true (List.all_eq_true.mp (Bool.and_eq_true_iff.mp hadmitted).2 w hw)
  refine ⟨?_, ?_, ?_, ?_, ?_⟩
  · rw [List.map_append]
    refine List.Nodup.append h.ids (List.nodup_singleton _) fun id hid hid' => ?_
    obtain ⟨w, hw, rfl⟩ := List.mem_map.mp hid
    exact (hnew w hw).1 (List.mem_singleton.mp hid')
  · exact List.forall_mem_append.mpr ⟨h.isScoped, List.forall_mem_singleton.mpr hv⟩
  · refine List.pairwise_append.mpr ⟨h.apart, List.pairwise_singleton _ _, fun w hw u hu => ?_⟩
    obtain rfl := List.mem_singleton.mp hu
    rintro ⟨hsame, htag | ⟨hdw, hdu⟩⟩
    · exact (hnew w hw).2 ⟨hsame, htag⟩
    · rw [hdefault hdu w hw hsame] at hdw
      cases hdw
  · exact List.forall_mem_append.mpr ⟨h.host, List.forall_mem_singleton.mpr hhost⟩
  · exact List.forall_mem_append.mpr ⟨h.standalone, List.forall_mem_singleton.mpr hstandalone⟩

/-- A row is written over: its scope and its tag stay, and it becomes the default only of a scope
without one.

**Proof sketch.** The keys, owners and hosts are those of the old rows. For two rows of one scope,
one at most is the row written over (`hrow`); it has the tag of the old row, and if it is the
default now, it was before, or no other of its scope is. -/
lemma VlansScoped.store (h : VlansScoped db vlans) (hw : w ∈ vlans) (hid : v.id = w.id)
    (hscope : v.SameScope w) (htag : v.vlanId = w.vlanId)
    (hdefault : v.isDefault = true → w.isDefault = true ∨
      ∀ u ∈ vlans, u.SameScope w → u.isDefault = false) :
    VlansScoped db (Table.store Vlan.id v vlans) := by
  have hrow : ∀ u ∈ vlans, u.id = v.id → u = w := fun u hu hsame =>
    Table.eq_of_mem_of_key h.ids hu hw (hsame.trans hid)
  have hmem : ∀ u ∈ Table.store Vlan.id v vlans, ∃ old ∈ vlans, u.SameScope old := by
    intro u hu
    rcases Table.mem_store.mp hu with ⟨hu, -⟩ | ⟨rfl, -⟩
    · exact ⟨u, hu, rfl, rfl⟩
    · exact ⟨w, hw, hscope⟩
  refine ⟨?_, fun u hu => ?_, ?_, fun u hu => ?_, fun u hu => ?_⟩
  · rw [Table.map_key_store]
    exact h.ids
  · obtain ⟨old, hold, hsame⟩ := hmem u hu
    exact (isScoped_congr hsame).trans (h.isScoped old hold)
  · unfold Table.store
    rw [List.pairwise_map]
    have hdistinct : vlans.Pairwise fun a b => a.id ≠ b.id := by
      rw [← List.pairwise_map (f := Vlan.id) (R := (· ≠ ·))]
      exact h.ids
    refine (h.apart.and hdistinct).imp_of_mem fun {a b} ha hb hab hclash => ?_
    obtain ⟨hapart, hne⟩ := hab
    -- one of the two at most is the row that is written over
    by_cases hav : a.id = v.id
    · have hbv : b.id ≠ v.id := fun hbv => hne (hav.trans hbv.symm)
      rw [if_pos hav, if_neg hbv] at hclash
      obtain rfl := hrow a ha hav
      have hsame : a.SameScope b :=
        ⟨hscope.1.symm.trans hclash.1.1, hscope.2.symm.trans hclash.1.2⟩
      refine hapart ⟨hsame, hclash.2.imp (fun h => htag.symm.trans h) fun hd => ?_⟩
      rcases hdefault hd.1 with hold | hnone
      · exact ⟨hold, hd.2⟩
      · rw [hnone b hb ⟨hsame.1.symm, hsame.2.symm⟩] at hd
        exact absurd hd.2 Bool.false_ne_true
    · rw [if_neg hav] at hclash
      by_cases hbv : b.id = v.id
      · rw [if_pos hbv] at hclash
        obtain rfl := hrow b hb hbv
        have hsame : a.SameScope b :=
          ⟨hclash.1.1.trans hscope.1, hclash.1.2.trans hscope.2⟩
        refine hapart ⟨hsame, hclash.2.imp (fun h => h.trans htag) fun hd => ?_⟩
        rcases hdefault hd.2 with hold | hnone
        · exact ⟨hd.1, hold⟩
        · rw [hnone a ha hsame] at hd
          exact absurd hd.1 Bool.false_ne_true
      · rw [if_neg hbv] at hclash
        exact hapart hclash
  · obtain ⟨old, hold, hsame⟩ := hmem u hu
    exact hsame.2 ▸ h.host old hold
  · obtain ⟨old, hold, hsame⟩ := hmem u hu
    exact hsame.2 ▸ h.standalone old hold

/-- Rows that stay, on tables where their hosts are still there and standalone. -/
lemma VlansScoped.filter {db' : Db} (h : VlansScoped db vlans) {p : Vlan → Bool}
    (hhost : ∀ v ∈ vlans, p v = true → ∀ id ∈ v.hostId, ∃ host ∈ db'.hosts, host.id = id)
    (hstandalone : ∀ v ∈ vlans, ∀ host ∈ db'.hosts, v.hostId = some host.id →
      host.clusterId = none) : VlansScoped db' (vlans.filter p) where
  ids := h.ids.sublist (List.filter_sublist.map _)
  isScoped v hv := h.isScoped v (List.mem_filter.mp hv).1
  apart := h.apart.filter p
  host v hv := hhost v (List.mem_filter.mp hv).1 (List.mem_filter.mp hv).2
  standalone v hv := hstandalone v (List.mem_filter.mp hv).1

end Scopes

/-! ## Requests -/

section Requests

variable {vlans : List Vlan} {w : World}

/-- What the checks of `create_vlan` let pass: one scope, and a host that is there and standalone. -/
lemma checkVlanScope_eq_ok {db : Db} {clusterId hostId : Option String}
    (h : checkVlanScope db clusterId hostId = .ok ()) :
    given clusterId ≠ given hostId ∧ (clusterId = none →
      ∃ id host, hostId = some id ∧ db.host id = some host ∧ host.clusterId = none) := by
  unfold checkVlanScope at h
  split_ifs at h with hgiven
  refine ⟨hgiven, ?_⟩
  rintro rfl
  rcases hostId with _ | id
  · cases h
  rcases hhost : db.host id with _ | host
  · simp only [Option.bind_some, hhost] at h
    cases h
  · simp only [Option.bind_some, hhost] at h
    rcases hcluster : host.clusterId with _ | c
    · exact ⟨id, host, rfl, hhost, hcluster⟩
    · simp only [hcluster] at h
      cases h

/-- `flush_new` returns exactly if its check passes. -/
lemma flushNew_eq_ok {bindable checked : Bool} {w t : World}
    (h : flushNew bindable checked w = (.ok (), t)) : checked = true ∧ t = w := by
  have hstate := flushNew_state bindable checked w
  rw [h] at hstate
  refine ⟨?_, hstate⟩
  unfold flushNew at h
  split_ifs at h with hb hc
  · cases h
  · cases h
  · simpa using hc

/-- A recording leaves the invariant alone. -/
lemma vlansScoped_record (h : VlansScoped w.db vlans) (user : User) (action : String)
    (target : TargetRef) (details : Json) :
    Ends (fun _ t => VlansScoped t.db vlans) (fun _ => True)
      (record env (some user) action target none details) w :=
  ends_plain (plain_record _ _ _ _ _) fun _ _ ht => h.congr (congrArg Db.hosts ht :)

/-- What `flush` of a new row leaves. -/
lemma ends_flushNew_bind {α : Type} {bindable checked : Bool} {f : Unit → M α}
    {Q : α → World → Prop} (h : checked = true → Ends Q (fun _ => True) (f ()) w) :
    Ends Q (fun _ => True) (flushNew bindable checked >>= f) w := by
  rw [ends_bind]
  rcases hflush : flushNew bindable checked w with ⟨e | _, t⟩
  · exact (ends_of_error hflush).mpr trivial
  · obtain ⟨hchecked, rfl⟩ := flushNew_eq_ok hflush
    exact (ends_of_ok hflush).mpr (h hchecked)

/-- The request that adds a VLAN keeps the scopes.

**Proof sketch.** Follow the checks. The owner that is given is one, by `check_vlan_scope`; a host
that owns it is standalone; and the tag is not taken in its scope. If the new VLAN is the default,
the old default of the scope has been cleared before. -/
lemma vlansScoped_addVlan (h : VlansScoped w.db vlans) (hhosts : (w.db.hosts.map Host.id).Nodup)
    (user : User) (name : String) (vlanId : ℤ) (description : Option String) (isDefault : Bool)
    (clusterId hostId : Option String) :
    Ends (fun vlans t => VlansScoped t.db vlans) (fun _ => True)
      (addVlan env vlans user name vlanId description isDefault clusterId hostId) w := by
  unfold addVlan createVlan
  rw [ends_bind, ends_read_bind]
  refine ends_ofExcept_bind trivial fun _ hcheck => ?_
  refine ends_ofExcept_bind trivial fun _ _ => ?_
  obtain ⟨hgiven, hstandalone⟩ := checkVlanScope_eq_ok hcheck
  refine ends_newId_bind.mpr (ends_flushNew_bind fun hadmitted => ends_pure.mpr ?_)
  rw [ends_bind]
  refine ends_mono (vlansScoped_record (w := { w with nextId := w.nextId + 1 }) ?_ _ _ _ _)
    (fun _ _ _ hrecorded => ends_pure.mpr hrecorded) fun _ => id
  set new : Vlan :=
    { id := env.uuid w.nextId, name := env.py.strip name, vlanId := vlanId
      description := nonEmpty (some (env.py.strip (description.getD ""))), isDefault := isDefault
      clusterId := clusterId, hostId := hostId }
  -- the row has a cluster or a host, not both, and the one it has is not the empty text
  have hnew : new.isScoped = true := by
    have honce : new.scopedOnce = true :=
      (Bool.and_eq_true_iff.mp (Bool.and_eq_true_iff.mp hadmitted).1).1
    unfold Vlan.isScoped
    rw [honce, Bool.true_and, decide_eq_true_iff]
    change (clusterId.isSome != hostId.isSome) = true at honce
    change given clusterId = clusterId.isSome ∧ given hostId = hostId.isSome
    rcases clusterId with _ | c
    · rcases hostId with _ | x
      · cases honce
      · exact ⟨rfl, (Bool.eq_true_of_not_eq_false fun hx => hgiven hx.symm).trans rfl⟩
    · rcases hostId with _ | x
      · exact ⟨(Bool.eq_true_of_not_eq_false fun hx => hgiven hx).trans rfl, rfl⟩
      · cases honce
  have hown : ∀ id, hostId = some id → ∃ host, w.db.host id = some host ∧
      host.clusterId = none := by
    intro id hid
    have hnone : clusterId = none := by
      rcases isScoped_iff.mp hnew with ⟨-, -, -, hother⟩ | ⟨-, -, -, hnone⟩
      · exact absurd (hother.symm.trans hid) (by rintro ⟨⟩)
      · exact hnone
    obtain ⟨id', host, hid', hhost, hcluster⟩ := hstandalone hnone
    obtain rfl : id' = id := Option.some.inj (hid'.symm.trans hid)
    exact ⟨host, hhost, hcluster⟩
  have hcleared : VlansScoped w.db
      (if isDefault = true then clearDefault clusterId hostId vlans else vlans) := by
    split_ifs
    · exact h.clearDefault _ _
    · exact h
  refine hcleared.append hnew hadmitted (fun id hid => ?_) (fun host hhost hid => ?_) ?_
  · obtain ⟨host, hhost, -⟩ := hown id hid
    exact ⟨host, Table.mem_of_lookup hhost, Table.key_of_lookup hhost⟩
  · obtain ⟨found, hfound, hcluster⟩ := hown host.id hid
    obtain rfl : found = host := Table.eq_of_mem_of_key hhosts (Table.mem_of_lookup hfound) hhost
      (Table.key_of_lookup hfound)
    exact hcluster
  · intro hd v hv hsame
    have hd : isDefault = true := hd
    rw [if_pos hd] at hv
    exact not_default_of_clearDefault h hnew hv hsame

/-- The patched row is stored, behind the rows that lose the default to it. -/
lemma vlansScoped_patched (h : VlansScoped w.db vlans) {before : Vlan} (hmem : before ∈ vlans)
    (isDefault : Option Bool) (after : Vlan) (hid : after.id = before.id)
    (hscope : after.SameScope before) (htag : after.vlanId = before.vlanId)
    (hdefault : after.isDefault = isDefault.getD before.isDefault) :
    VlansScoped w.db (Table.store Vlan.id after
      (if isDefault = some true then clearDefault before.clusterId before.hostId vlans
        else vlans)) := by
  split_ifs with hset
  · have hcleared := h.clearDefault before.clusterId before.hostId
    -- the row itself loses the default first
    have hbefore : { before with isDefault := false } ∈
        clearDefault before.clusterId before.hostId vlans :=
      Table.mem_updateWhere.mpr (.inr ⟨before, hmem,
        (inScope_iff (h.isScoped _ hmem) (h.isScoped _ hmem)).mpr ⟨rfl, rfl⟩, rfl⟩)
    refine hcleared.store hbefore hid hscope htag fun _ => .inr fun u hu hsame => ?_
    exact not_default_of_clearDefault h (h.isScoped _ hmem) hu hsame
  · refine h.store hmem hid hscope htag fun hd => .inl ?_
    rw [hdefault] at hd
    rcases isDefault with _ | _ | _
    · exact hd
    · cases hd
    · exact absurd rfl hset

/-- So does the request that changes one. -/
lemma vlansScoped_patchVlan (h : VlansScoped w.db vlans) (user : User) (id : String)
    (name description : Option String) (isDefault : Option Bool) :
    Ends (fun vlans t => VlansScoped t.db vlans) (fun _ => True)
      (patchVlan env vlans user id name description isDefault) w := by
  unfold patchVlan
  rcases hfound : Table.lookup Vlan.id id vlans with _ | before
  · trivial
  have hmem : before ∈ vlans := Table.mem_of_lookup hfound
  change Ends _ _ (updateVlan env vlans before name description isDefault >>= _) w
  unfold updateVlan
  rw [ends_bind]
  refine ends_flushNew_bind fun _ => ends_pure.mpr ?_
  have hstored := vlansScoped_patched h hmem isDefault
  dsimp only
  split
  · rw [ends_bind]
    refine ends_mono (vlansScoped_record (hstored _ ?_ ⟨?_, ?_⟩ ?_ ?_) _ _ _ _)
      (fun _ _ _ hrecorded => ends_pure.mpr hrecorded) (fun _ h => h) <;> rfl
  · refine ends_pure.mpr (hstored _ ?_ ⟨?_, ?_⟩ ?_ ?_) <;> rfl

/-- So does the request that removes one. -/
lemma vlansScoped_removeVlan (h : VlansScoped w.db vlans) (user : User) (id : String) :
    Ends (fun vlans t => VlansScoped t.db vlans) (fun _ => True)
      (removeVlan env vlans user id) w := by
  unfold removeVlan
  rcases Table.lookup Vlan.id id vlans with _ | vlan
  · trivial
  change Ends _ _ (record env (some user) "vlan.delete" vlan.ref none _ >>= _) w
  rw [ends_bind]
  refine ends_mono (vlansScoped_record h _ _ _ _) (fun _ _ _ hrecorded => ?_) fun _ h => h
  unfold deleteVlan
  rw [ends_bind]
  refine ends_plain keeps_flush fun _ u hu => ends_pure.mpr ?_
  have hcongr : VlansScoped u.db vlans := hrecorded.congr (congrArg Db.hosts hu :)
  exact hcongr.filter (fun v hv _ => hcongr.host v hv) hcongr.standalone

/-- **A request on VLANs keeps the invariant.** -/
theorem vlansScoped_request {s : Networking.State} (h : VlansScoped s.committed.world.db s.vlans)
    (request : VlanRequest) :
    VlansScoped (Networking.step env s (.vlan request)).committed.world.db
      (Networking.step env s (.vlan request)).vlans := by
  set w : World := { s.committed.world with txStart := s.committed.world.now } with hw
  have hends : Ends (fun vlans t => VlansScoped t.db vlans) (fun _ => True)
      (request.handler env s.vlans) w := by
    cases request with
    | create user name vlanId description isDefault clusterId hostId =>
      exact vlansScoped_addVlan (w := w) h s.committed.consistent.keyed.hostIds _ _ _ _ _ _ _
    | update user id name description isDefault => exact vlansScoped_patchVlan (w := w) h _ _ _ _ _
    | delete user id => exact vlansScoped_removeVlan (w := w) h _ _
  dsimp only [Networking.step, sessionScope]
  rcases savepoint_cases (request.handler env s.vlans) w with ⟨l, t, hrun, -, hsave⟩ | ⟨e, hsave⟩
  · rw [← hw, hsave]
    exact (ends_of_ok hrun).mp hends
  · rw [← hw, hsave]
    exact h

end Requests

/-! ## Membership -/

section Membership

variable {α : Type}

/-- The frame of what lets no host join a cluster. -/
def noJoinFrame : Frame World where
  rel s t := ∀ host ∈ t.db.hosts, ∀ c, host.clusterId = some c →
    ∃ old ∈ s.db.hosts, old.id = host.id ∧ old.clusterId = some c
  refl _ host hhost _ hc := ⟨host, hhost, rfl, hc⟩
  trans h h' host hhost c hc := by
    obtain ⟨mid, hmid, hid, hc⟩ := h' host hhost c hc
    obtain ⟨old, hold, hid', hc⟩ := h mid hmid c hc
    exact ⟨old, hold, hid'.trans hid, hc⟩

/-- The frame of what only adds hosts. -/
def addsHostsFrame : Frame World where
  rel s t := ∃ new, t.db.hosts = s.db.hosts ++ new
  refl _ := ⟨[], (List.append_nil _).symm⟩
  trans := by
    rintro a b c ⟨l, hl⟩ ⟨m, hm⟩
    exact ⟨l ++ m, by rw [hm, hl, List.append_assoc]⟩

/-- What leaves the hosts alone makes none join. -/
lemma noJoin_of_hosts_eq {s t : World} (h : t.db.hosts = s.db.hosts) : noJoinFrame.rel s t :=
  fun host hhost _ hc => ⟨host, h ▸ hhost, rfl, hc⟩

/-- An operation that creates and moves no host lets none join. -/
lemma noJoin_operation {op : Operation}
    (hcreate : ∀ user name clusterId hypervisor shortId managementUp,
      op ≠ .createHost user name clusterId hypervisor shortId managementUp)
    (hmove : ∀ user hostId clusterId, op ≠ .moveHost user hostId clusterId) :
    Keeps noJoinFrame (op.handler env) := by
  refine keeps_operation (fun _ _ _ => noJoin_of_hosts_eq rfl)
    (fun _ _ => noJoin_of_hosts_eq rfl) op fun w db' hwrites => ?_
  cases op with
  | createCluster user name hypervisor =>
    obtain ⟨cluster, rfl⟩ := hwrites
    exact noJoin_of_hosts_eq rfl
  | deleteCluster user clusterId =>
    obtain ⟨id, rfl⟩ := hwrites
    intro host hhost c hc
    obtain ⟨old, hold, rfl⟩ := List.mem_map.mp hhost
    split_ifs at hc ⊢
    exact ⟨old, hold, rfl, hc⟩
  | createHost user name clusterId hypervisor shortId managementUp =>
    exact absurd rfl (hcreate user name clusterId hypervisor shortId managementUp)
  | moveHost user hostId clusterId => exact absurd rfl (hmove user hostId clusterId)
  | createFolder user name clusterId hostId =>
    obtain ⟨folder, rfl⟩ := hwrites
    exact noJoin_of_hosts_eq rfl
  | deleteFolder user folderId =>
    obtain ⟨p, rfl⟩ := hwrites
    exact noJoin_of_hosts_eq rfl
  | moveVmToFolder user vmId folderId =>
    obtain ⟨vm, rfl⟩ := hwrites
    exact noJoin_of_hosts_eq rfl

/-- A new host is added to the others. -/
lemma addsHosts_createHost (user : User) (name : String) (clusterId : Option String)
    (hypervisor shortId : String) (managementUp : Bool) : Keeps addsHostsFrame
      (Operation.handler env (.createHost user name clusterId hypervisor shortId managementUp)) := by
  refine keeps_operation (fun w _ _ => addsHostsFrame.refl w) (fun w _ => addsHostsFrame.refl w) _ ?_
  rintro w db' ⟨host, rfl⟩
  exact ⟨[host], rfl⟩

/-- The removal of a host makes none join. -/
lemma noJoin_removeHost (user : User) (hostId : String) :
    Keeps noJoinFrame (removeHost env user hostId) := by
  refine keeps_bind keeps_read fun w => keeps_bind (keeps_ofOption _) fun host => ?_
  refine keeps_bind (keeps_record (F := noJoinFrame) (fun _ _ _ => noJoin_of_hosts_eq rfl)
    (fun _ _ => noJoin_of_hosts_eq rfl) _ _ _ _ _) fun _ => ?_
  refine keeps_bind (keeps_settleTaskEvents (F := noJoinFrame)
    (fun _ _ => noJoin_of_hosts_eq rfl) _ _ _) fun _ => ?_
  refine keeps_bind (keeps_modify fun w => ?_) fun _ => keeps_flush
  exact fun host hhost c hc => ⟨host, (Table.mem_deleteWhere.mp hhost).1, rfl, hc⟩

/-- The host was a member before, or is new, or moves into the cluster past its checks. -/
def JoinsBy (env : Env) (db : Db) (e : Organization.Event) (host : Host) (c : String) : Prop :=
  (∃ old ∈ db.hosts, old.id = host.id ∧ old.clusterId = some c) ∨
  (∀ old ∈ db.hosts, old.id ≠ host.id) ∨
  ∃ user found cluster, e = .operation (.moveHost user host.id (some c)) ∧
    db.host host.id = some found ∧ db.cluster c = some cluster ∧
    checkMember env found (some cluster) = .ok () ∧ (db.moveHost found (some c)).Consistent

/-- The audit events aside, tables that pass the flush pass it with the events of others that do. -/
lemma consistent_of_plain {db db' old : Db} (h : db'.Consistent) (hplain : db'.plain = db.plain)
    (hold : old.Consistent) (hevents : db.auditEvents = old.auditEvents) : db.Consistent := by
  obtain rfl : db = { db' with auditEvents := old.auditEvents } := by
    rw [← hevents]
    exact (congrArg (fun d : Db => { d with auditEvents := db.auditEvents }) hplain).symm
  have hfits := Db.fits_iff.mp h.fits
  refine ⟨Db.fits_iff.mpr ⟨hfits.1, hfits.2.1, hfits.2.2.1, hfits.2.2.2.1, hfits.2.2.2.2.1,
    (Db.fits_iff.mp hold.fits).2.2.2.2.2.1, hfits.2.2.2.2.2.2⟩, ?_⟩
  exact { h.keyed with auditIds := hold.keyed.auditIds }

/-- A host in a cluster after a move was there, or is the one that joins. -/
lemma joinsBy_moveHost (s : Committed) (user : User) (hostId : String) (clusterId : Option String)
    {host : Host} {c : String}
    (hhost : host ∈ (Organization.step env s
      (.operation (.moveHost user hostId clusterId))).world.db.hosts)
    (hc : host.clusterId = some c) :
    JoinsBy env s.world.db (.operation (.moveHost user hostId clusterId)) host c := by
  set w : World := { s.world with txStart := s.world.now } with hw
  have hstep : (Organization.step env s (.operation (.moveHost user hostId clusterId))).world =
      (savepoint (updateHost env user hostId clusterId) w).2 := rfl
  rw [hstep] at hhost
  rcases savepoint_cases (updateHost env user hostId clusterId) w with
    ⟨_, t, hrun, hct, hsave⟩ | ⟨e, hsave⟩
  · rw [hsave] at hhost
    have hmoved := (ends_of_ok hrun).mp (ends_updateHost_moved user hostId clusterId)
    rcases hmoved with hplain | ⟨found, hfound, hmember, hplain⟩
    · have hhosts : t.db.hosts = w.db.hosts := (congrArg Db.hosts hplain :)
      exact .inl ⟨host, hhosts ▸ hhost, rfl, hc⟩
    · have hhosts : t.db.hosts = Table.store Host.id { found with clusterId := clusterId }
          w.db.hosts := (congrArg Db.hosts hplain :)
      rw [hhosts] at hhost
      rcases Table.mem_store.mp hhost with ⟨hhost, -⟩ | ⟨rfl, -⟩
      · exact .inl ⟨host, hhost, rfl, hc⟩
      · have hc : clusterId = some c := hc
        subst hc
        obtain ⟨cluster, hcluster, hcheck⟩ := hmember c rfl
        have hid : found.id = hostId := host_id_of_host hfound
        exact .inr (.inr ⟨user, found, cluster, by rw [hid], by rw [hid]; exact hfound,
          hcluster, hcheck, consistent_of_plain hct hplain s.consistent rfl⟩)
  · rw [hsave] at hhost
    exact .inl ⟨host, hhost, rfl, hc⟩

/-- A member of a cluster after a step.

**Proof sketch.** By the event. A new host has an identifier of its own, and a move is
`joinsBy_moveHost`. The other operations and the removal of a host make none join; a heartbeat
writes over its host without moving it, and any other event leaves the stations of the hosts alone.
-/
theorem joinsBy_step {s : Committed} (hdrawn : RowsDrawn env s.world) (e : Organization.Event)
    {host : Host} {c : String} (hhost : host ∈ (Organization.step env s e).world.db.hosts)
    (hc : host.clusterId = some c) : JoinsBy env s.world.db e host c := by
  have hrollback : ∀ s t : World, noJoinFrame.rel s t → noJoinFrame.rel s (rollback s t) :=
    fun s t _ => noJoin_of_hosts_eq rfl
  rcases e with op | e
  · by_cases hcreate : ∃ user name clusterId hypervisor shortId managementUp,
        op = .createHost user name clusterId hypervisor shortId managementUp
    · obtain ⟨user, name, clusterId, hypervisor, shortId, managementUp, rfl⟩ := hcreate
      obtain ⟨new, hnew⟩ := keeps_savepoint (F := addsHostsFrame)
        (fun s _ _ => addsHostsFrame.refl s)
        (@addsHosts_createHost env user name clusterId hypervisor shortId managementUp)
        { s.world with txStart := s.world.now }
      have hids := (Organization.step env s
        (.operation (.createHost user name clusterId hypervisor shortId
          managementUp))).consistent.keyed.hostIds
      have hhosts : (Organization.step env s (.operation (.createHost user name clusterId hypervisor
          shortId managementUp))).world.db.hosts = s.world.db.hosts ++ new := hnew
      rw [hhosts] at hhost hids
      rcases List.mem_append.mp hhost with hold | hadded
      · exact .inl ⟨host, hold, rfl, hc⟩
      · rw [List.map_append] at hids
        exact .inr (.inl fun old hold hsame => List.disjoint_of_nodup_append hids
          (List.mem_map_of_mem hold) (hsame ▸ List.mem_map_of_mem hadded))
    by_cases hmove : ∃ user hostId clusterId, op = .moveHost user hostId clusterId
    · obtain ⟨user, hostId, clusterId, rfl⟩ := hmove
      exact joinsBy_moveHost s user hostId clusterId hhost hc
    · exact .inl (keeps_savepoint hrollback (@noJoin_operation env _
        (fun user name clusterId hypervisor shortId managementUp he =>
          hcreate ⟨user, name, clusterId, hypervisor, shortId, managementUp, he⟩)
        fun user hostId clusterId he => hmove ⟨user, hostId, clusterId, he⟩)
        { s.world with txStart := s.world.now } host hhost c hc)
  by_cases hremove : ∃ user hostId, e = .removeHost user hostId
  · obtain ⟨user, hostId, rfl⟩ := hremove
    exact .inl (keeps_savepoint hrollback (@noJoin_removeHost env user hostId)
      { s.world with txStart := s.world.now - Event.lag _ } host hhost c hc)
  by_cases hstatus : ∃ hostId payload, e = .agentStatus hostId payload
  · obtain ⟨hostId, payload, rfl⟩ := hstatus
    change host ∈ (System.step env s (.agentStatus hostId payload)).world.db.hosts at hhost
    rcases @heartbeat_step env s hostId payload with ⟨found, d, hfound, -, -, hdb⟩ | ⟨hdb, -⟩
    · rw [hdb] at hhost
      rcases Table.mem_store.mp hhost with ⟨hhost, -⟩ | ⟨rfl, -⟩
      · exact .inl ⟨host, hhost, rfl, hc⟩
      · exact .inl ⟨found, Table.mem_of_lookup hfound, rfl, hc⟩
    · exact .inl ⟨host, hdb ▸ hhost, rfl, hc⟩
  have hestate := (rowsOn_step (P := fun _ => True) ⟨fun _ _ _ => trivial, fun _ _ _ => trivial⟩
    hdrawn (fun _ _ => trivial) (fun hostId payload he => hstatus ⟨hostId, payload, he⟩)
    fun user hostId he => hremove ⟨user, hostId, he⟩).estate
  have hstations : (System.step env s e).world.db.hosts.map Host.station =
      s.world.db.hosts.map Host.station := congrArg (fun e => e.2.2) hestate
  obtain ⟨old, hold, hstation⟩ := List.mem_map.mp (hstations ▸ List.mem_map_of_mem hhost)
  exact .inl ⟨old, hold, congrArg Prod.fst hstation,
    (congrArg (fun t => t.2.1) hstation).trans hc⟩

end Membership

/-! ## Runs -/

section Runs

variable {s : Networking.State}

/-- A host that passes the checks of the cluster it moves into, and whose rows the database takes
there, has no VLANs of its own. -/
def JoinsBare (env : Env) (s : Networking.State) : Networking.Event → Prop
  | .organization (.operation (.moveHost _ hostId (some c))) =>
    ∀ host cluster, s.committed.world.db.host hostId = some host →
      s.committed.world.db.cluster c = some cluster → checkMember env host (some cluster) = .ok () →
      (s.committed.world.db.moveHost host (some c)).Consistent →
      ∀ v ∈ s.vlans, v.hostId ≠ some hostId
  | _ => True

/-- **Any other event keeps the invariant, if hosts join clusters bare.** -/
theorem vlansScoped_organization (hdrawn : RowsDrawn env s.committed.world)
    (h : VlansScoped s.committed.world.db s.vlans) {e : Organization.Event}
    (hbare : JoinsBare env s (.organization e)) :
    VlansScoped (Networking.step env s (.organization e)).committed.world.db
      (Networking.step env s (.organization e)).vlans := by
  refine h.filter (fun v hv href id hid => ?_) fun v hv host hhost hid => ?_
  · have hthere := (Bool.and_eq_true_iff.mp href).2
    rw [hid, Option.all_some] at hthere
    obtain ⟨host, hhost⟩ := Option.isSome_iff_exists.mp hthere
    exact ⟨host, Table.mem_of_lookup hhost, Table.key_of_lookup hhost⟩
  · by_contra hne
    obtain ⟨c, hc⟩ := Option.ne_none_iff_exists'.mp hne
    rcases joinsBy_step hdrawn e hhost hc with
      ⟨old, hold, hsame, hcluster⟩ | hnew | ⟨user, found, cluster, rfl, hfound, hcluster, hcheck, hc'⟩
    · have hnone := h.standalone v hv old hold (hid.trans (congrArg some hsame.symm))
      rw [hcluster] at hnone
      cases hnone
    · obtain ⟨old, hold, hsame⟩ := h.host v hv host.id hid
      exact hnew old hold hsame
    · exact hbare found cluster hfound hcluster hcheck hc' v hv hid

/-- A request on VLANs keeps what drawing identifiers and recording do. -/
lemma keeps_request {F : Frame World} (hid : ∀ w n, w.nextId ≤ n → F.rel w { w with nextId := n })
    (hevents : ∀ w es, F.rel w { w with db := { w.db with auditEvents := es } })
    (vlans : List Vlan) (request : VlanRequest) : Keeps F (request.handler env vlans) := by
  have hrecord : ∀ (user : User) action target details,
      Keeps F (record env (some user) action target none details) :=
    fun user action target details => keeps_record hid hevents _ _ _ _ _
  have hflushNew : ∀ bindable checked, Keeps F (flushNew bindable checked) :=
    fun bindable checked => keeps_of_state (flushNew_state bindable checked)
  cases request with
  | create user name vlanId description isDefault clusterId hostId =>
    refine keeps_bind (keeps_bind keeps_read fun w => ?_) fun p =>
      keeps_bind (hrecord _ _ _ _) fun _ => keeps_pure _
    refine keeps_bind (keeps_ofExcept _) fun _ => keeps_bind (keeps_ofExcept _) fun _ => ?_
    exact keeps_bind (keeps_newId hid) fun _ => keeps_bind (hflushNew _ _) fun _ => keeps_pure _
  | update user id name description isDefault =>
    refine keeps_bind (keeps_ofOption _) fun before => ?_
    refine keeps_bind (keeps_bind (hflushNew _ _) fun _ => keeps_pure _) fun p => ?_
    dsimp only
    split
    · exact keeps_bind (hrecord _ _ _ _) fun _ => keeps_pure _
    · exact keeps_pure _
  | delete user id =>
    refine keeps_bind (keeps_ofOption _) fun vlan => keeps_bind (hrecord _ _ _ _) fun _ => ?_
    exact keeps_bind keeps_flush fun _ => keeps_pure _

/-- The identifiers of rows are drawn, after every step. -/
lemma rowsDrawn_networking (h : RowsDrawn env s.committed.world) (e : Networking.Event) :
    RowsDrawn env (Networking.step env s e).committed.world := by
  cases e with
  | organization e => exact rowsDrawn_step h e
  | vlan request =>
    have hplain := keeps_savepoint (F := plainFrame) (fun _ _ _ => rfl)
      (@keeps_request env plainFrame (fun _ _ _ => rfl) (fun _ _ => rfl) s.vlans request)
      { s.committed.world with txStart := s.committed.world.now }
    have hnext := keeps_savepoint (F := drawnFrame) (fun _ _ h => h)
      (@keeps_request env drawnFrame (fun _ _ h => h) (fun _ _ => le_rfl) s.vlans request)
      { s.committed.world with txStart := s.committed.world.now }
    have hvms : (Networking.step env s (.vlan request)).committed.world.db.vms =
        s.committed.world.db.vms := (congrArg Db.vms hplain :)
    intro v hv
    exact (h v (hvms ▸ hv)).mono hnext

/-- **What each host sees is apart** in every state of a run in which hosts join clusters bare. -/
theorem vlansApart_of_allSteps {s₀ : Committed} (h₀ : System.Initial s₀)
    {es : List Networking.Event}
    (h : Machine.AllSteps (Networking.step env) (JoinsBare env) ⟨s₀, []⟩ es) :
    VlansApart (Networking.run env ⟨s₀, []⟩ es).committed.world.db
      (Networking.run env ⟨s₀, []⟩ es).vlans := by
  have hstart : VlansScoped s₀.world.db [] :=
    { ids := List.nodup_nil
      isScoped := fun _ hv => nomatch hv
      apart := List.Pairwise.nil
      host := fun _ hv => nomatch hv
      standalone := fun _ hv => nomatch hv }
  have hrun : RowsDrawn env (Networking.run env ⟨s₀, []⟩ es).committed.world ∧
      VlansScoped (Networking.run env ⟨s₀, []⟩ es).committed.world.db
        (Networking.run env ⟨s₀, []⟩ es).vlans := by
    refine h.invariant (I := fun s : Networking.State => RowsDrawn env s.committed.world ∧
      VlansScoped s.committed.world.db s.vlans) (fun s e hI hbare => ?_)
      ⟨rowsDrawn_of_initial h₀, hstart⟩
    refine ⟨rowsDrawn_networking hI.1 e, ?_⟩
    cases e with
    | vlan request => exact vlansScoped_request hI.2 request
    | organization e => exact vlansScoped_organization hI.1 hI.2 hbare
  exact hrun.2.vlansApart

/-- The host has a VLAN, a cluster has one of the same tag, and the host joins the cluster. -/
def Demo.joins : List Networking.Event :=
  [.vlan (.create Demo.user "own" 10 none true none (some "h")),
    .organization (.operation (.createCluster Demo.user "cluster" "hyperv")),
    .vlan (.create Demo.user "shared" 10 none true (some "xx") none),
    .organization (.operation (.moveHost Demo.user "h" (some "xx")))]

/-- The VLAN of the host is deleted before the host joins the cluster. -/
def Demo.joinsBare : List Networking.Event :=
  Demo.joins.take 3 ++ [.vlan (.delete Demo.user ""),
    .organization (.operation (.moveHost Demo.user "h" (some "xx")))]

/-- A standalone host without VLANs joins a cluster that has one. -/
theorem vlansApart_of_allSteps_joinsBare :
    (∃ host ∈ (Networking.run Demo.settings ⟨Demo.start, []⟩
        Demo.joinsBare).committed.world.db.hosts, host.clusterId = some "xx") ∧
    (Networking.run Demo.settings ⟨Demo.start, []⟩ Demo.joinsBare).vlans.map Vlan.name =
      ["shared"] ∧
    VlansApart (Networking.run Demo.settings ⟨Demo.start, []⟩ Demo.joinsBare).committed.world.db
      (Networking.run Demo.settings ⟨Demo.start, []⟩ Demo.joinsBare).vlans := by
  have hbare : ∀ v ∈ (Networking.run Demo.settings ⟨Demo.start, []⟩
      (Demo.joinsBare.take 4)).vlans, v.hostId ≠ some "h" := by decide +kernel
  refine ⟨by decide +kernel, by decide +kernel, vlansApart_of_allSteps Demo.start_initial ?_⟩
  exact ⟨trivial, trivial, trivial, trivial, fun _ _ _ _ _ _ => hbare, trivial⟩

/-- A standalone host with a VLAN joins a cluster that has one of the same tag. -/
theorem vlansApart_counterexample :
    ¬ ∀ (env : Env) (s₀ : Committed) (es : List Networking.Event), System.Initial s₀ →
      VlansApart (Networking.run env ⟨s₀, []⟩ es).committed.world.db
        (Networking.run env ⟨s₀, []⟩ es).vlans := by
  intro h
  have hapart := h Demo.settings Demo.start Demo.joins Demo.start_initial
  have hbroken : ∃ v ∈ (Networking.run Demo.settings ⟨Demo.start, []⟩ Demo.joins).vlans,
      ∃ host ∈ (Networking.run Demo.settings ⟨Demo.start, []⟩ Demo.joins).committed.world.db.hosts,
        v.hostId = some host.id ∧ host.clusterId = some "xx" := by
    decide +kernel
  obtain ⟨v, hv, host, hhost, hown, hcluster⟩ := hbroken
  have hnone := hapart.standalone v hv host hhost hown
  rw [hcluster] at hnone
  cases hnone

end Runs

end OpenVCenter
