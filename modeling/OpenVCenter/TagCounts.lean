import OpenVCenter.TagAudit
import OpenVCenter.VmListing

set_option relaxedAutoImplicit false
set_option autoImplicit false

/-!
# How many VMs carry a tag

`vm_visible_clause` of `services/rbac.py` is `vm_visible` for a query. `list_tags` and
`tag_vm_count` of `services/tags.py` count with it what `GET /vms` selects with the other.

## Main definitions

* `OpenVCenter.vmVisibleClause` — the condition.
* `OpenVCenter.listTags`, `OpenVCenter.tagVmCount` — the counts.
* `OpenVCenter.Db.withTags` — the rows of the VMs, with the tags they carry.

## Main results

* `OpenVCenter.vmVisibleClause_holds` — the condition holds of the rows that are visible.
* `OpenVCenter.tagVmCount_eq` — what is counted.
* `OpenVCenter.tagCounts_agree` — **the condition selects what is visible, and the three counts
  are one**.
-/

namespace OpenVCenter

/-! ## Queries -/

/-- `vm_visible_clause`. -/
def vmVisibleClause (scope : VisibleScope) (vm : Vm) : Sql.Truth :=
  if scope.all then .true
  else if scope.hostIds.isEmpty && scope.folderIds.isEmpty then .false
  else (Sql.isIn (some vm.hostId) scope.hostIds).or (Sql.isIn vm.folderId scope.folderIds)

section Queries

variable (collation : Collation) (s : Catalog) (db : Db) (scope : VisibleScope)

/-- The columns of the outer join that the tags are ordered by: the category, if there is one, and
the name. -/
def tagKey (t : Tag) : Option Json × Json :=
  ((t.categoryId.bind fun c => Table.lookup TagCategory.id c s.categories).map fun c =>
      .str (String.ofList c.name.lower),
    .str (String.ofList t.name.lower))

/-- Categorized tags first, by category; the others are the last. -/
def tagLe (a b : Tag) : Bool :=
  match tagKey s a, tagKey s b with
  | (some c, x), (some d, y) =>
    collation.le c d && (!collation.le d c || collation.le x y)
  | (some _, _), (none, _) => true
  | (none, _), (some _, _) => false
  | (none, x), (none, y) => collation.le x y

/-- The rows of `vm_tags` with their VMs. -/
def taggedVms : List ((String × String) × Vm) :=
  Sql.join (fun r v => decide (v.id = r.1)) s.vmTags db.vms

/-- `list_tags`. -/
def listTags : List (Tag × ℕ) :=
  let tags := s.tags.mergeSort (tagLe collation s)
  let counts := Sql.groupCount (fun r => r.1.2)
    (Sql.where_ (fun r => vmVisibleClause scope r.2) (taggedVms s db))
  tags.map fun t => (t, (counts.lookup t.id).getD 0)

/-- `tag_vm_count`. -/
def tagVmCount (tagId : String) : ℕ :=
  (Sql.where_ (fun r => vmVisibleClause scope r.2)
    (Sql.where_ (fun r => Sql.equal (some r.1.2) (some tagId)) (taggedVms s db))).length

/-- The rows of `vms`, with `Vm.tags` loaded. -/
def Db.withTags : Db :=
  { db with vms := db.vms.map fun v => { v with tagIds := (carriedTags s v.id).map Tag.id } }

end Queries

/-! ## Counts -/

section Counts

variable {env : Env} {coerce : Coercions} {collation : Collation} {s : Catalog} {db : Db}
  {w : World} {scope : VisibleScope} {vm : Vm} {tagId : String}

/-- **The condition holds** of the rows that are visible. -/
theorem vmVisibleClause_holds : (vmVisibleClause scope vm).holds = vmVisible scope vm := by
  unfold vmVisibleClause vmVisible VisibleScope.seesHost VisibleScope.seesFolder
  by_cases hall : scope.all = true
  · rw [if_pos hall, hall]
    rfl
  rw [if_neg hall, Bool.eq_false_iff.mpr hall, Bool.false_or, Bool.false_or, Bool.false_or]
  split_ifs with hempty
  · simp only [Bool.and_eq_true, List.isEmpty_iff] at hempty
    rw [hempty.1, hempty.2]
    cases vm.folderId <;> rfl
  · rw [Bool.eq_iff_iff, Sql.Truth.holds_iff, Sql.Truth.or_eq_true, Sql.isIn_eq_true,
      Sql.isIn_eq_true]
    cases vm.folderId <;> simp

/-- **What is counted**: the visible VMs that carry the tag. -/
theorem tagVmCount_eq (hk : s.vmTags.Nodup) : tagVmCount s db scope tagId =
    db.vms.countP fun v => vmVisible scope v && decide (s.Carries v.id tagId) := by
  have hrows : tagVmCount s db scope tagId = (taggedVms s db).countP fun r =>
      decide (r.1.2 = tagId) && vmVisible scope r.2 := by
    unfold tagVmCount Sql.where_
    rw [List.filter_filter, ← List.countP_eq_length_filter]
    refine List.countP_congr fun r _ => ?_
    rw [vmVisibleClause_holds, Bool.and_eq_true, Bool.and_eq_true, Sql.Truth.holds_iff,
      Sql.equal_eq_true, Option.some_inj, decide_eq_true_iff, and_comm]
  rw [hrows, taggedVms, Sql.countP_join, ← Sql.sum_map_ite]
  refine congrArg List.sum (List.map_congr_left fun v _ => ?_)
  by_cases hvisible : vmVisible scope v = true
  · -- the primary key of `vm_tags`
    have hcount : (s.vmTags.countP fun r =>
        decide (v.id = r.1) && (decide (r.2 = tagId) && vmVisible scope v)) =
          s.vmTags.count (v.id, tagId) := by
      unfold List.count
      refine List.countP_congr fun r _ => ?_
      rw [hvisible, Bool.and_true, Bool.and_eq_true, decide_eq_true_iff, decide_eq_true_iff,
        beq_iff_eq, Prod.ext_iff, eq_comm]
    rw [hcount, hvisible, Bool.true_and, hk.count]
    simp only [decide_eq_true_eq]
    rfl
  · simp [Bool.eq_false_iff.mpr hvisible]

/-- The grouped count of `list_tags` is the count of each tag. -/
theorem listTags_eq : listTags collation s db scope =
    (s.tags.mergeSort (tagLe collation s)).map fun t => (t, tagVmCount s db scope t.id) := by
  refine List.map_congr_left fun t _ => Prod.ext rfl ?_
  dsimp only
  rw [Sql.lookup_groupCount]
  unfold tagVmCount Sql.where_
  rw [List.filter_filter, List.countP_eq_length_filter, List.filter_filter]
  refine congrArg List.length (List.filter_congr fun r _ => ?_)
  rw [Bool.eq_iff_iff, Bool.and_eq_true, Bool.and_eq_true, Sql.Truth.holds_iff,
    Sql.Truth.holds_iff, Sql.equal_eq_true, Option.some_inj, decide_eq_true_iff, and_comm]

/-- **What is listed**: `GET /vms` shows as many VMs with the tag as are visible and carry it. -/
theorem listVms_countP {out : List Schema.VmOut} (htag : tagId ∈ s.tags.map Tag.id)
    (h : listVms env coerce collation { w with db := db.withTags s } scope none none none =
      .ok out) :
    (out.countP fun v => decide (tagId ∈ v.tagIds)) =
      db.vms.countP fun v => vmVisible scope v && decide (s.Carries v.id tagId) := by
  rw [listVms_eq] at h
  obtain ⟨served, hserved, hout⟩ := Effect.except_bind_eq_ok.mp h
  obtain rfl : served = out := Except.ok.inj hout
  have hcarried := Fallible.mapM_filter (p := fun v => decide (tagId ∈ v.tagIds))
    (q := fun out => decide (tagId ∈ out.tagIds)) (fun v _ out hv => by
      rw [(served_eq_ok hv).2, Bool.eq_iff_iff, decide_eq_true_iff, decide_eq_true_iff,
        List.mem_mergeSort]) hserved
  rw [List.countP_eq_length_filter, Fallible.length_of_mapM_eq_ok hcarried,
    ← List.countP_eq_length_filter, List.countP_filter]
  have hrows : (vmRows collation (db.withTags s) none none none).Perm (db.withTags s).vms := by
    refine (List.mergeSort_perm _ _).trans ?_
    exact List.Perm.of_eq (List.filter_eq_self.mpr fun _ _ => rfl)
  rw [hrows.countP_eq]
  unfold Db.withTags
  rw [List.countP_map]
  refine List.countP_congr fun v _ => ?_
  obtain ⟨tag, hmem, hid⟩ := List.mem_map.mp htag
  have hcarries : tagId ∈ (carriedTags s v.id).map Tag.id ↔ s.Carries v.id tagId := by
    unfold carriedTags
    simp only [List.mem_map, List.mem_filter, decide_eq_true_eq]
    constructor
    · rintro ⟨t, ⟨-, hcarries⟩, rfl⟩
      exact hcarries
    · exact fun hcarries => ⟨tag, ⟨hmem, hid ▸ hcarries⟩, hid⟩
  simp only [Function.comp_apply, Bool.and_eq_true, decide_eq_true_eq, hcarries]
  exact and_comm

/-- **The condition selects what is visible, and the three counts of a tag are one.** -/
theorem tagCounts_agree (hk : s.Keyed) (collation : Collation) (db : Db) (scope : VisibleScope) :
    Sql.where_ (vmVisibleClause scope) db.vms = db.vms.filter (vmVisible scope) ∧
      listTags collation s db scope =
        ((s.tags.mergeSort (tagLe collation s)).map fun t =>
          (t, tagVmCount s db scope t.id)) ∧
      ∀ tag ∈ s.tags, ∀ (env : Env) (coerce : Coercions) (w : World) (out : List Schema.VmOut),
        listVms env coerce collation { w with db := db.withTags s } scope none none none =
            .ok out →
          (out.countP fun v => decide (tag.id ∈ v.tagIds)) = tagVmCount s db scope tag.id := by
  refine ⟨List.filter_congr fun v _ => vmVisibleClause_holds, listTags_eq, ?_⟩
  intro tag htag env coerce w out h
  rw [tagVmCount_eq hk.vmTags, listVms_countP (List.mem_map_of_mem htag) h]

end Counts

/-- The VM carries the first of two tags. -/
def Demo.carrying : Vm := { Demo.lastSeenOff with tagIds := ["t1"] }

/-- One VM, which carries the first of two tags. -/
theorem tagCounts_agree_carried : ∃ out,
    listVms Demo.settings Demo.coerce Demo.collation
        { Demo.silent with db := Demo.silent.db.withTags Demo.twoCategories } { all := true }
        none none none = .ok out ∧
      ∀ tag ∈ Demo.twoCategories.tags, (out.countP fun v => decide (tag.id ∈ v.tagIds)) =
        tagVmCount Demo.twoCategories Demo.silent.db { all := true } tag.id := by
  have hserved : ∃ out, served Demo.settings Demo.coerce
      { Demo.silent with db := Demo.silent.db.withTags Demo.twoCategories } Demo.carrying =
        .ok out := ⟨_, rfl⟩
  obtain ⟨out, hout⟩ := hserved
  have hrows : vmRows Demo.collation (Demo.silent.db.withTags Demo.twoCategories) none none none =
      [Demo.carrying] := List.mergeSort_singleton _
  have hvisible : [Demo.carrying].filter (vmVisible { all := true }) = [Demo.carrying] := rfl
  have hlisted : listVms Demo.settings Demo.coerce Demo.collation
      { Demo.silent with db := Demo.silent.db.withTags Demo.twoCategories } { all := true }
      none none none = .ok [out] := by
    rw [listVms_eq, hrows, hvisible, List.mapM_cons, hout]
    rfl
  have hagree := tagCounts_agree (s := Demo.twoCategories) (by decide +kernel) Demo.collation
    Demo.silent.db { all := true }
  exact ⟨[out], hlisted, fun tag htag => hagree.2.2 tag htag _ _ Demo.silent _ hlisted⟩

example : tagVmCount Demo.twoCategories Demo.silent.db { all := true } "t1" = 1 := by
  decide +kernel

end OpenVCenter
