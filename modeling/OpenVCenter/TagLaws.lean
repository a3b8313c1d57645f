import OpenVCenter.Foundations.Machine
import OpenVCenter.System
import OpenVCenter.Tags

set_option relaxedAutoImplicit false
set_option autoImplicit false

/-!
# The laws of the tag catalog

What a request asks for is the catalog with its change made, whether that is lawful or not. A
request is served exactly when what it asks for is lawful.

## Main definitions

* `OpenVCenter.CatalogAsk`, `OpenVCenter.CatalogAsk.target` — the changes, and the catalog with a
  change made.
* `OpenVCenter.CatalogStep` — requests, new VMs and deleted VMs.

## Main results

* `OpenVCenter.serve_iff_laws` — **a request is served exactly when what it asks for is lawful**,
  and the laws hold after every run.
-/

namespace OpenVCenter

open Effect

/-! ## What a request asks for -/

/-- A change of the catalog: a request whose names and colour are valid. -/
inductive CatalogAsk where
  | createCategory (newId : String) (name : TagName)
  | renameCategory (id : String) (name : TagName)
  | createTag (newId : String) (name : TagName) (categoryId : Option String) (color : TagColor)
  | updateTag (id : String) (name : Option TagName) (categoryId : Option (Option String))
      (color : Option TagColor)
  | setVmTags (vmId : String) (tagIds : List String)

/-- The value that has passed a check. -/
def passed {α : Type} : Except Raised α → Option α
  | .ok a => some a
  | .error _ => none

/-- The value that has passed a check, if there is one to check. -/
def passedOpt {α : Type} (check : String → Except Raised α) : Option String → Option (Option α)
  | some text => (passed (check text)).map some
  | none => some none

/-- The change a request asks for; none for an invalid name or colour, and for a deletion. -/
def CatalogRequest.asks (py : PyStd) : CatalogRequest → Option CatalogAsk
  | .createCategory newId name =>
    (passed (checkTagName py "Category" name)).map (.createCategory newId)
  | .renameCategory id name => (passed (checkTagName py "Category" name)).map (.renameCategory id)
  | .createTag newId name categoryId color => do
    let name ← passed (checkTagName py "Tag" name)
    let color ← passed (checkTagColor color)
    some (.createTag newId name (nonEmpty categoryId) color)
  | .updateTag id name categoryId categoryGiven color => do
    let name ← passedOpt (checkTagName py "Tag") name
    let color ← passedOpt checkTagColor color
    some (.updateTag id name (if categoryGiven then some (nonEmpty categoryId) else none) color)
  | .setVmTags vmId tagIds => some (.setVmTags vmId tagIds)
  | .deleteCategory _ | .deleteTag _ => none

namespace CatalogAsk

variable (s : Catalog)

/-- **The catalog with the change made.** -/
def target : CatalogAsk → Catalog
  | createCategory newId name => { s with categories := s.categories ++ [{ id := newId, name }] }
  | renameCategory id name =>
    { s with categories := s.categories.map fun c => if c.id = id then { c with name } else c }
  | createTag newId name categoryId color =>
    { s with tags := s.tags ++ [{ id := newId, categoryId, name, color }] }
  | updateTag id name categoryId color =>
    { s with
      tags := s.tags.map fun t =>
        if t.id = id then
          { t with
            name := name.getD t.name
            categoryId := categoryId.getD t.categoryId
            color := color.getD t.color }
        else t }
  | setVmTags vmId tagIds =>
    { s with
      vmTags := (s.vmTags.filter fun r => decide (r.1 ≠ vmId)) ++
        tagIds.dedup.map fun t => (vmId, t) }

/-- The rows the change names exist, and its new row has a new identifier. -/
def IdsExist : CatalogAsk → Prop
  | createCategory newId _ => newId ≠ "" ∧ ∀ c ∈ s.categories, c.id ≠ newId
  | renameCategory id _ => ∃ c ∈ s.categories, c.id = id
  | createTag newId _ categoryId _ =>
    (∀ t ∈ s.tags, t.id ≠ newId) ∧ ∀ id ∈ categoryId, ∃ c ∈ s.categories, c.id = id
  | updateTag id _ categoryId _ =>
    (∃ t ∈ s.tags, t.id = id) ∧ ∀ given ∈ categoryId, ∀ id ∈ given, ∃ c ∈ s.categories, c.id = id
  | setVmTags vmId tagIds => vmId ∈ s.vms ∧ ∀ id ∈ tagIds, ∃ t ∈ s.tags, t.id = id

end CatalogAsk

/-- The same rows; the rows of `vm_tags` have no order. -/
structure Catalog.Same (s s' : Catalog) : Prop where
  categories : s.categories = s'.categories
  tags : s.tags = s'.tags
  vms : s.vms = s'.vms
  vmTags : ∀ r, r ∈ s.vmTags ↔ r ∈ s'.vmTags

/-- A catalog is the same as itself. -/
theorem Catalog.Same.refl (s : Catalog) : s.Same s := ⟨rfl, rfl, rfl, fun _ => Iff.rfl⟩

/-- The laws hold of both of two catalogs that are the same. -/
theorem Catalog.Same.laws {s s' : Catalog} (h : s.Same s') : s.Laws ↔ s'.Laws := by
  have hone : s.OnePerCategory ↔ s'.OnePerCategory := by
    unfold Catalog.OnePerCategory Catalog.Carries
    simp only [h.tags, h.vmTags]
  constructor
  · rintro ⟨⟨hcategories, htags⟩, honePer⟩
    exact ⟨⟨h.categories ▸ hcategories, h.tags ▸ htags⟩, hone.mp honePer⟩
  · rintro ⟨⟨hcategories, htags⟩, honePer⟩
    exact ⟨⟨h.categories ▸ hcategories, h.tags ▸ htags⟩, hone.mpr honePer⟩

/-- The checks of a request pass exactly when the target is lawful, and its write makes the
target. -/
def Decides (s : Catalog) (plan : Except Raised CatalogWrite) (target : Catalog) : Prop :=
  (∃ w, plan = .ok w ∧ (w.apply s).Same target ∧ (w.apply s).Keyed ∧ target.Laws) ∨
    ∃ e, plan = .error (.apiError e) ∧ ¬ target.Laws

/-! ## Checks -/

section Checks

variable {s : Catalog}

/-- `_require_unique_category` passes exactly the names that are free. -/
lemma requireUniqueCategory_cases (s : Catalog) (name : TagName) (excludeId : Option String) :
    (requireUniqueCategory s name excludeId = .ok () ∧ ∀ c ∈ s.categories,
      (∀ id ∈ excludeId, c.id ≠ id) → c.name.lower ≠ name.lower) ∨
    ((∃ e, requireUniqueCategory s name excludeId = .error (.apiError e)) ∧ ∃ c ∈ s.categories,
      (∀ id ∈ excludeId, c.id ≠ id) ∧ c.name.lower = name.lower) := by
  unfold requireUniqueCategory
  split_ifs with hclash
  · obtain ⟨c, hc, htest⟩ := List.any_eq_true.mp hclash
    simp only [Bool.and_eq_true, decide_eq_true_eq, Option.all_eq_true] at htest
    exact Or.inr ⟨⟨_, rfl⟩, c, hc, htest.2, htest.1⟩
  · refine Or.inl ⟨rfl, fun c hc hid heq => hclash ?_⟩
    refine List.any_eq_true.mpr ⟨c, hc, ?_⟩
    simp only [Bool.and_eq_true, decide_eq_true_eq, Option.all_eq_true]
    exact ⟨heq, hid⟩

/-- `_require_unique_tag` passes exactly the names that are free in their category. -/
lemma requireUniqueTag_cases (s : Catalog) (name : TagName) (category : Option TagCategory)
    (excludeId : Option String) :
    (requireUniqueTag s name category excludeId = .ok () ∧ ∀ t ∈ s.tags,
      (∀ id ∈ excludeId, t.id ≠ id) →
      (t.categoryId, t.name.lower) ≠ (category.map TagCategory.id, name.lower)) ∨
    ((∃ e, requireUniqueTag s name category excludeId = .error (.apiError e)) ∧ ∃ t ∈ s.tags,
      (∀ id ∈ excludeId, t.id ≠ id) ∧
      (t.categoryId, t.name.lower) = (category.map TagCategory.id, name.lower)) := by
  unfold requireUniqueTag
  split_ifs with hclash
  · obtain ⟨t, ht, htest⟩ := List.any_eq_true.mp hclash
    simp only [Bool.and_eq_true, decide_eq_true_eq, Option.all_eq_true] at htest
    exact Or.inr ⟨⟨_, rfl⟩, t, ht, htest.2, by rw [htest.1.1, htest.1.2]⟩
  · refine Or.inl ⟨rfl, fun t ht hid heq => hclash ?_⟩
    refine List.any_eq_true.mpr ⟨t, ht, ?_⟩
    simp only [Bool.and_eq_true, decide_eq_true_eq, Option.all_eq_true]
    obtain ⟨hcategory, hname⟩ := Prod.mk.injEq .. ▸ heq
    exact ⟨⟨hname, hcategory⟩, hid⟩

/-- `get_category` finds what is there. -/
lemma getCategory_ok (hk : s.Keyed) {c : TagCategory} (hc : c ∈ s.categories) :
    getCategory s c.id = .ok c := by
  unfold getCategory
  rw [(Table.lookup_eq_some hk.categoryIds).mpr ⟨hc, rfl⟩]

/-- `get_tag` finds what is there. -/
lemma getTag_ok (hk : s.Keyed) {t : Tag} (ht : t ∈ s.tags) : getTag s t.id = .ok t := by
  unfold getTag
  rw [(Table.lookup_eq_some hk.tagIds).mpr ⟨ht, rfl⟩]

/-- What `get_tag` finds is there. -/
lemma getTag_mem {id : String} {t : Tag} (h : getTag s id = .ok t) : t ∈ s.tags := by
  unfold getTag at h
  split at h
  · rename_i found hfound
    obtain rfl := Except.ok.inj h
    exact Table.mem_of_lookup hfound
  · cases h

/-- A category that exists is found. -/
lemma categoryOf_ok (hk : s.Keyed) {categoryId : Option String}
    (h : ∀ id ∈ nonEmpty categoryId, ∃ c ∈ s.categories, c.id = id) :
    ∃ category : Option TagCategory, categoryOf s categoryId = .ok category ∧
      category.map TagCategory.id = nonEmpty categoryId ∧ ∀ c ∈ category, c ∈ s.categories := by
  unfold categoryOf
  rcases hid : nonEmpty categoryId with _ | id
  · exact ⟨none, rfl, rfl, nofun⟩
  · obtain ⟨c, hc, rfl⟩ := h id hid
    refine ⟨some c, ?_, rfl, ?_⟩
    · simp only [getCategory_ok hk hc]
      rfl
    · rintro c' hc'
      obtain rfl := Option.some.inj hc'
      exact hc

end Checks

/-! ## The requests of the categories -/

section Categories

variable {py : PyStd} {s : Catalog} {id newId text : String} {name : TagName}

/-- A change of the categories alone keeps the other laws. -/
lemma laws_categories (hl : s.Laws) (categories : List TagCategory) :
    { s with categories := categories : Catalog }.Laws ↔
      Table.Unique TagCategory.id (fun c => c.name.lower) categories :=
  ⟨fun h => h.names.categories, fun h => ⟨⟨h, hl.names.tags⟩, hl.onePerCategory⟩⟩

/-- `create_category` decides its target. -/
lemma createCategory_decides (hl : s.Laws) (hk : s.Keyed)
    (hname : checkTagName py "Category" text = .ok name) (hne : newId ≠ "")
    (hfresh : ∀ c ∈ s.categories, c.id ≠ newId) :
    Decides s (createCategory py s newId text) ((CatalogAsk.createCategory newId name).target s) := by
  have hlaws : ((CatalogAsk.createCategory newId name).target s).Laws ↔
      ∀ c ∈ s.categories, c.name.lower ≠ name.lower := by
    refine (laws_categories hl _).trans ?_
    rw [Table.unique_append hfresh]
    exact and_iff_right hl.names.categories
  unfold createCategory
  rw [hname, except_ok_bind]
  rcases requireUniqueCategory_cases s name none with ⟨hok, hfree⟩ | ⟨⟨e, herror⟩, c, hc, -, heq⟩
  · rw [hok, except_ok_bind]
    refine Or.inl ⟨.insertCategory { id := newId, name }, rfl, Catalog.Same.refl _, ?_,
      hlaws.mpr fun c hc => hfree c hc nofun⟩
    exact { hk with
      categoryIds := Table.nodup_keys_append.mpr ⟨hk.categoryIds, hfresh⟩
      categoryIds_ne := fun c hc => by
        rcases List.mem_append.mp hc with hc | hc
        · exact hk.categoryIds_ne c hc
        · rw [List.mem_singleton.mp hc]
          exact hne
      tagCategory := fun t ht c hc => by
        rw [CatalogWrite.apply, List.map_append]
        exact List.mem_append_left _ (hk.tagCategory t ht c hc) }
  · rw [herror, except_error_bind]
    exact Or.inr ⟨e, rfl, fun h => hlaws.mp h c hc heq⟩

/-- `rename_category` decides its target. -/
lemma renameCategory_decides (hl : s.Laws) (hk : s.Keyed)
    (hname : checkTagName py "Category" text = .ok name) (hid : ∃ c ∈ s.categories, c.id = id) :
    Decides s (renameCategory py s id text) ((CatalogAsk.renameCategory id name).target s) := by
  have hrows : ((CatalogAsk.renameCategory id name).target s).categories =
      Table.updateWhere (fun c => decide (c.id = id)) (fun c => { c with name }) s.categories := by
    simp [CatalogAsk.target, Table.updateWhere]
  have hlaws : ((CatalogAsk.renameCategory id name).target s).Laws ↔
      ∀ c ∈ s.categories, c.id ≠ id → c.name.lower ≠ name.lower := by
    refine (laws_categories hl _).trans ?_
    rw [show (s.categories.map fun c => if c.id = id then { c with name } else c) = _ from hrows]
    exact Table.unique_updateWhere hl.names.categories (fun _ => rfl) hid fun _ _ _ => rfl
  obtain ⟨category, hcategory, rfl⟩ := hid
  unfold renameCategory
  rw [getCategory_ok hk hcategory, except_ok_bind, hname, except_ok_bind]
  rcases requireUniqueCategory_cases s name (some category.id) with
    ⟨hok, hfree⟩ | ⟨⟨e, herror⟩, c, hc, hother, heq⟩
  · rw [hok, except_ok_bind]
    have hids : (Table.updateWhere (fun c => decide (c.id = category.id))
        (fun c => { c with name }) s.categories).map TagCategory.id =
        s.categories.map TagCategory.id := Table.map_key_updateWhere fun _ => rfl
    refine Or.inl ⟨.updateCategory category.id name, rfl, ⟨hrows.symm, rfl, rfl, fun _ => Iff.rfl⟩,
      ?_, hlaws.mpr fun c hc hne => hfree c hc fun id hid => Option.some.inj hid ▸ hne⟩
    exact { hk with
      categoryIds := hids.symm ▸ hk.categoryIds
      categoryIds_ne := fun c hc => by
        have hmem : c.id ∈ s.categories.map TagCategory.id := hids ▸ List.mem_map_of_mem hc
        obtain ⟨c', hc', heq⟩ := List.mem_map.mp hmem
        exact heq ▸ hk.categoryIds_ne c' hc'
      tagCategory := fun t ht c hc => hids.symm ▸ hk.tagCategory t ht c hc }
  · rw [herror, except_error_bind]
    exact Or.inr ⟨e, rfl, fun h => hlaws.mp h c hc (hother category.id rfl) heq⟩

end Categories

/-! ## The requests of the tags -/

section Tags

variable {py : PyStd} {s : Catalog} {id newId text colorText : String} {name : TagName}
  {color : TagColor} {categoryId : Option String}

/-- No VM carries a tag that does not exist. -/
lemma Catalog.Keyed.not_carries (hk : s.Keyed) (hfresh : ∀ t ∈ s.tags, t.id ≠ id)
    (vmId : String) : ¬ s.Carries vmId id := by
  intro hcarries
  obtain ⟨t, ht, heq⟩ := List.mem_map.mp (hk.vmTagTag _ hcarries)
  exact hfresh t ht heq

/-- A new tag is on no VM. -/
lemma onePerCategory_insert (hone : s.OnePerCategory) (hk : s.Keyed) (tag : Tag)
    (hfresh : ∀ t ∈ s.tags, t.id ≠ tag.id) :
    { s with tags := s.tags ++ [tag] : Catalog }.OnePerCategory := by
  intro vmId t ht u hu htc huc hsome hcat
  rw [List.mem_append, List.mem_singleton] at ht hu
  rcases ht with ht | rfl
  · rcases hu with hu | rfl
    · exact hone vmId t ht u hu htc huc hsome hcat
    · exact absurd huc (hk.not_carries hfresh vmId)
  · exact absurd htc (hk.not_carries hfresh vmId)

/-- `create_tag` decides its target. -/
lemma createTag_decides (hl : s.Laws) (hk : s.Keyed)
    (hname : checkTagName py "Tag" text = .ok name) (hcolor : checkTagColor colorText = .ok color)
    (hfresh : ∀ t ∈ s.tags, t.id ≠ newId)
    (hcategory : ∀ id ∈ nonEmpty categoryId, ∃ c ∈ s.categories, c.id = id) :
    Decides s (createTag py s newId text categoryId colorText)
      ((CatalogAsk.createTag newId name (nonEmpty categoryId) color).target s) := by
  have hlaws : ((CatalogAsk.createTag newId name (nonEmpty categoryId) color).target s).Laws ↔
      ∀ t ∈ s.tags, (t.categoryId, t.name.lower) ≠ (nonEmpty categoryId, name.lower) := by
    have hnames := @Table.unique_append _ _ Tag.id s.tags
      { id := newId, categoryId := nonEmpty categoryId, name, color } _
      (fun t => (t.categoryId, t.name.lower)) hfresh
    constructor
    · exact fun h => (hnames.mp h.names.tags).2
    · exact fun h => ⟨⟨hl.names.categories, hnames.mpr ⟨hl.names.tags, h⟩⟩,
        onePerCategory_insert hl.onePerCategory hk _ hfresh⟩
  obtain ⟨category, hfound, hcategoryId, hmem⟩ := categoryOf_ok hk hcategory
  unfold createTag
  rw [hname, except_ok_bind, hcolor, except_ok_bind, hfound, except_ok_bind]
  rw [← hcategoryId] at hlaws ⊢
  rcases requireUniqueTag_cases s name category none with ⟨hok, hfree⟩ | ⟨⟨e, herror⟩, t, ht, -, heq⟩
  · rw [hok, except_ok_bind]
    refine Or.inl ⟨_, rfl, Catalog.Same.refl _, ?_, hlaws.mpr fun t ht => hfree t ht nofun⟩
    exact { hk with
      tagIds := Table.nodup_keys_append.mpr ⟨hk.tagIds, hfresh⟩
      tagCategory := fun t ht c hc => by
        rcases List.mem_append.mp ht with ht | ht
        · exact hk.tagCategory t ht c hc
        · rw [List.mem_singleton.mp ht] at hc
          obtain ⟨c', hc', rfl⟩ := Option.map_eq_some_iff.mp hc
          exact List.mem_map_of_mem (hmem c' hc')
      vmTagTag := fun r hr => by
        rw [CatalogWrite.apply, List.map_append]
        exact List.mem_append_left _ (hk.vmTagTag r hr) }
  · rw [herror, except_error_bind]
    exact Or.inr ⟨e, rfl, fun h => hlaws.mp h t ht heq⟩

/-- A VM carries the tag and another one of the category. -/
lemma mem_clashes {tag : Tag} {categoryId vmId : String} : vmId ∈ clashes s tag categoryId ↔
    s.Carries vmId tag.id ∧ ∃ other ∈ s.tags, other.categoryId = some categoryId ∧
      other.id ≠ tag.id ∧ s.Carries vmId other.id := by
  unfold clashes
  simp only [List.mem_dedup, List.mem_map, List.mem_filter, Bool.and_eq_true, decide_eq_true_eq,
    List.any_eq_true]
  constructor
  · rintro ⟨⟨vm, tagId⟩, ⟨hmine, rfl, other, hother, ⟨hcat, hne⟩, hcarries⟩, rfl⟩
    exact ⟨hmine, other, hother, hcat, hne, hcarries⟩
  · rintro ⟨hmine, other, hother, hcat, hne, hcarries⟩
    exact ⟨(vmId, tag.id), ⟨hmine, rfl, other, hother, ⟨hcat, hne⟩, hcarries⟩, rfl⟩

/-- No VM carries the tag and another one of the category it moves to. -/
def NoClash (s : Catalog) (tag : Tag) (categoryId : Option String) : Prop :=
  ∀ id ∈ categoryId, some id ≠ tag.categoryId → ∀ vmId, ∀ other ∈ s.tags,
    s.Carries vmId tag.id → other.categoryId = some id → s.Carries vmId other.id →
      other.id = tag.id

/-- A move of a tag clashes nowhere if none of the queries of `_require_no_clash` finds a row. -/
lemma noClash_iff {tag : Tag} {categoryId : Option String} : NoClash s tag categoryId ↔
    ∀ id ∈ categoryId, some id ≠ tag.categoryId → clashes s tag id = [] := by
  unfold NoClash
  refine forall₃_congr fun id _ _ => ?_
  simp only [List.eq_nil_iff_forall_not_mem, mem_clashes, not_and, not_exists]
  exact ⟨fun h vmId hmine other hother hcat hne hcarries =>
    hne (h vmId other hother hmine hcat hcarries), fun h vmId other hother hmine hcat hcarries =>
    by_contra fun hne => h vmId hmine other hother hcat hne hcarries⟩

/-- Whether it clashes can be decided. -/
instance (s : Catalog) (tag : Tag) (categoryId : Option String) :
    Decidable (NoClash s tag categoryId) := decidable_of_iff _ noClash_iff.symm

/-- `_require_no_clash` passes exactly the moves that do not clash. -/
lemma requireNoClash_cases (s : Catalog) (tag : Tag) (category : Option TagCategory) :
    (requireNoClash s tag category = .ok () ∧ NoClash s tag (category.map TagCategory.id)) ∨
    ((∃ e, requireNoClash s tag category = .error (.apiError e)) ∧
      ¬ NoClash s tag (category.map TagCategory.id)) := by
  rcases category with _ | category
  · exact Or.inl ⟨rfl, nofun⟩
  · unfold requireNoClash NoClash
    simp only [Option.map_some, Option.mem_some_iff, forall_eq']
    split_ifs with hclash
    · refine Or.inr ⟨⟨_, rfl⟩, fun hnone => ?_⟩
      obtain ⟨vmId, hvm⟩ := List.exists_mem_of_ne_nil _ hclash.2
      obtain ⟨hmine, other, hother, hcat, hne, hcarries⟩ := mem_clashes.mp hvm
      exact hne (hnone hclash.1 vmId other hother hmine hcat hcarries)
    · refine Or.inl ⟨rfl, fun hmoves vmId other hother hmine hcat hcarries => ?_⟩
      by_contra hne
      have hvm : vmId ∈ clashes s tag category.id :=
        mem_clashes.mpr ⟨hmine, other, hother, hcat, hne, hcarries⟩
      exact hclash ⟨hmoves, List.ne_nil_of_mem hvm⟩

/-- The catalog with a tag's columns replaced. -/
def retag (s : Catalog) (id : String) (name : TagName) (color : TagColor)
    (categoryId : Option String) : Catalog :=
  { s with
    tags := Table.updateWhere (fun t => decide (t.id = id))
      (fun t => { t with name, color, categoryId }) s.tags }

/-- The tags after an update. -/
private lemma mem_retag {tag t : Tag} :
    t ∈ (retag s tag.id name color categoryId).tags ↔
      (t ∈ s.tags ∧ t.id ≠ tag.id) ∨
        ∃ t₀ ∈ s.tags, t₀.id = tag.id ∧ { t₀ with name, color, categoryId } = t := by
  unfold retag
  simp only [Table.mem_updateWhere, decide_eq_false_iff_not, decide_eq_true_eq]

/-- **A tag keeps the VMs lawful** when none of its VMs carries a tag of its new category. -/
lemma onePerCategory_retag (hone : s.OnePerCategory) {tag : Tag} (htag : tag ∈ s.tags) :
    (retag s tag.id name color categoryId).OnePerCategory ↔ NoClash s tag categoryId := by
  constructor
  · intro h id hid _ vmId other hother hmine hcat hcarries
    obtain rfl : categoryId = some id := hid
    by_contra hne
    have hnew : other ∈ (retag s tag.id name color (some id)).tags :=
      mem_retag.mpr (Or.inl ⟨hother, hne⟩)
    have hretagged : { tag with name, color, categoryId := some id } ∈
        (retag s tag.id name color (some id)).tags := mem_retag.mpr (Or.inr ⟨tag, htag, rfl, rfl⟩)
    exact hne (h vmId other hnew { tag with name, color, categoryId := some id } hretagged
      hcarries hmine (by rw [hcat]; rfl) hcat)
  · intro hclash vmId t ht u hu htc huc hsome hcat
    -- A tag that stays and the one that changes: its old category, or no clash in the new one.
    have hmixed : ∀ v ∈ s.tags, v.categoryId = categoryId → categoryId.isSome →
        s.Carries vmId tag.id → s.Carries vmId v.id → v.id = tag.id := by
      intro v hv hvcat hnew hmine hcarries
      obtain ⟨c, hc⟩ := Option.isSome_iff_exists.mp hnew
      rw [hc] at hvcat
      by_cases hsame : some c = tag.categoryId
      · exact hone vmId v hv tag htag hcarries hmine (by rw [hvcat]; rfl) (hvcat.trans hsame)
      · exact hclash c hc hsame vmId v hv hmine hvcat hcarries
    rcases mem_retag.mp ht with ⟨ht, htne⟩ | ⟨t₀, -, ht₀, rfl⟩
    · rcases mem_retag.mp hu with ⟨hu, -⟩ | ⟨u₀, -, hu₀, rfl⟩
      · exact hone vmId t ht u hu htc huc hsome hcat
      · have hnew : categoryId.isSome = true := by
          rw [hcat] at hsome
          exact hsome
        exact absurd (hmixed t ht hcat hnew (hu₀ ▸ huc) htc) htne
    · rcases mem_retag.mp hu with ⟨hu, hune⟩ | ⟨u₀, -, hu₀, rfl⟩
      · exact absurd (hmixed u hu hcat.symm hsome (ht₀ ▸ htc) huc) hune
      · exact ht₀.trans hu₀.symm

/-- The laws after an update: the name is free, and no VM has two tags of the category. -/
lemma laws_retag (hl : s.Laws) {tag : Tag} (htag : tag ∈ s.tags) :
    (retag s tag.id name color categoryId).Laws ↔
      (∀ t ∈ s.tags, t.id ≠ tag.id →
        (t.categoryId, t.name.lower) ≠ (categoryId, name.lower)) ∧ NoClash s tag categoryId := by
  have hnames : Table.Unique Tag.id (fun t => (t.categoryId, t.name.lower))
      (retag s tag.id name color categoryId).tags ↔ ∀ t ∈ s.tags, t.id ≠ tag.id →
        (t.categoryId, t.name.lower) ≠ (categoryId, name.lower) :=
    Table.unique_updateWhere hl.names.tags (fun _ => rfl) ⟨tag, htag, rfl⟩ fun _ _ _ => rfl
  have hone : (retag s tag.id name color categoryId).OnePerCategory ↔ NoClash s tag categoryId :=
    onePerCategory_retag hl.onePerCategory htag
  constructor
  · exact fun h => ⟨hnames.mp h.names.tags, hone.mp h.onePerCategory⟩
  · exact fun h => ⟨⟨hl.names.categories, hnames.mpr h.1⟩, hone.mpr h.2⟩

/-- A change that is recorded, or the old value. -/
lemma changed_getD {α : Type} [DecidableEq α] (old new : α) :
    (changed old new).getD old = new := by
  unfold changed
  split_ifs with h
  · exact h
  · rfl

/-- A tag's columns are replaced by what they change to. -/
lemma retag_eq (hk : s.Keyed) {tag : Tag} (htag : tag ∈ s.tags) {f : Tag → Tag}
    (hf : f tag = { tag with name, color, categoryId }) :
    { s with tags := Table.updateWhere (fun t => decide (t.id = tag.id)) f s.tags : Catalog } =
      retag s tag.id name color categoryId := by
  have hrows : Table.updateWhere (fun t => decide (t.id = tag.id)) f s.tags =
      Table.updateWhere (fun t => decide (t.id = tag.id))
        (fun t => { t with name, color, categoryId }) s.tags := by
    unfold Table.updateWhere
    refine List.map_congr_left fun t ht => ?_
    by_cases hid : t.id = tag.id
    · obtain rfl : t = tag := List.inj_on_of_nodup_map hk.tagIds ht htag hid
      simp only [decide_true, if_true, hf]
    · simp only [hid, decide_false, Bool.false_eq_true, if_false]
  unfold retag
  rw [hrows]

/-- The columns that change, written, are the new columns. -/
lemma updateTag_apply (hk : s.Keyed) {tag : Tag} (htag : tag ∈ s.tags) :
    (CatalogWrite.updateTag tag.id (changed tag.name name) (changed tag.color color)
      (changed tag.categoryId categoryId)).apply s = retag s tag.id name color categoryId :=
  @retag_eq s name color categoryId hk tag htag
    (fun t => t.update (changed tag.name name) (changed tag.color color)
      (changed tag.categoryId categoryId)) (by simp only [Tag.update, changed_getD])

/-- An update keeps the foreign keys. -/
lemma Catalog.Keyed.retag (hk : s.Keyed)
    (hcategory : ∀ c ∈ categoryId, c ∈ s.categories.map TagCategory.id) :
    (retag s id name color categoryId).Keyed := by
  have hids : (OpenVCenter.retag s id name color categoryId).tags.map Tag.id =
      s.tags.map Tag.id := Table.map_key_updateWhere fun _ => rfl
  exact { hk with
    tagIds := hids.symm ▸ hk.tagIds
    tagCategory := fun t ht c hc => by
      rcases Table.mem_updateWhere.mp ht with ⟨ht, -⟩ | ⟨t₀, -, -, rfl⟩
      · exact hk.tagCategory t ht c hc
      · exact hcategory c hc
    vmTagTag := fun r hr => hids.symm ▸ hk.vmTagTag r hr }

/-- A tag's category has a key that is no empty text. -/
lemma Catalog.Keyed.nonEmpty_categoryId (hk : s.Keyed) {tag : Tag} (htag : tag ∈ s.tags) :
    nonEmpty tag.categoryId = tag.categoryId := by
  rcases hid : tag.categoryId with _ | id
  · rfl
  · obtain ⟨c, hc, rfl⟩ := List.mem_map.mp (hk.tagCategory tag htag id hid)
    simp [nonEmpty, hk.categoryIds_ne c hc]

/-- A value that has passed its check, or the old one. -/
private lemma checkedOr_passed {α : Type} {check : String → Except Raised α} {text : Option String}
    {value : Option α} (h : passedOpt check text = some value) (old : α) :
    checkedOr check old text = .ok (value.getD old) := by
  rcases text with _ | text
  · obtain rfl : none = value := Option.some.inj h
    rfl
  · unfold passedOpt passed at h
    rcases hcheck : check text with e | a
    · simp [hcheck] at h
    · simp only [hcheck, Option.map_some, Option.some.injEq] at h
      rw [← h]
      exact hcheck

/-- `update_tag` decides its target.

**Proof sketch.** Follow the checks of the route. The tag and its category are there by assumption.
The check of the name and the check for clashes pass exactly where the two conditions of
`laws_retag` hold, so a check that raises refuses a target that breaks the laws, and if both pass
the write is the target. -/
lemma updateTag_decides (hl : s.Laws) (hk : s.Keyed) {nameText colorText : Option String}
    {newName : Option TagName} {newColor : Option TagColor} {categoryGiven : Bool}
    (hname : passedOpt (checkTagName py "Tag") nameText = some newName)
    (hcolor : passedOpt checkTagColor colorText = some newColor) (hid : ∃ t ∈ s.tags, t.id = id)
    (hcategory : ∀ given ∈ (if categoryGiven then some (nonEmpty categoryId) else none),
      ∀ id ∈ given, ∃ c ∈ s.categories, c.id = id) :
    Decides s (updateTag py s id nameText categoryId categoryGiven colorText)
      ((CatalogAsk.updateTag id newName
        (if categoryGiven then some (nonEmpty categoryId) else none) newColor).target s) := by
  obtain ⟨tag, htag, rfl⟩ := hid
  have hold : nonEmpty tag.categoryId = tag.categoryId := hk.nonEmpty_categoryId htag
  obtain ⟨category, hfound, hcategoryId, hmem⟩ : ∃ category : Option TagCategory,
      categoryOf s (if categoryGiven then categoryId else tag.categoryId) = .ok category ∧
      category.map TagCategory.id =
        (if categoryGiven then some (nonEmpty categoryId) else none).getD tag.categoryId ∧
      ∀ c ∈ category, c ∈ s.categories := by
    cases categoryGiven with
    | true => exact categoryOf_ok hk (hcategory _ rfl)
    | false =>
      have hexists : ∀ id ∈ nonEmpty tag.categoryId, ∃ c ∈ s.categories, c.id = id := by
        rw [hold]
        exact fun id hid => List.mem_map.mp (hk.tagCategory tag htag id hid)
      obtain ⟨category, hfound, hcategoryId, hmem⟩ := categoryOf_ok hk hexists
      exact ⟨category, hfound, hcategoryId.trans hold, hmem⟩
  set column := if categoryGiven then some (nonEmpty categoryId) else none with hcolumn
  have htarget : (CatalogAsk.updateTag tag.id newName column newColor).target s =
      retag s tag.id (newName.getD tag.name) (newColor.getD tag.color)
        (category.map TagCategory.id) := by
    rw [← @retag_eq s (newName.getD tag.name) (newColor.getD tag.color)
      (category.map TagCategory.id) hk tag htag
      (fun t => { t with
        name := newName.getD t.name
        categoryId := column.getD t.categoryId
        color := newColor.getD t.color }) (by rw [hcategoryId])]
    simp [CatalogAsk.target, Table.updateWhere]
  have hlaws := @laws_retag s (newName.getD tag.name) (newColor.getD tag.color)
    (category.map TagCategory.id) hl tag htag
  unfold updateTag
  rw [getTag_ok hk htag, except_ok_bind, htarget, checkedOr_passed hname, except_ok_bind,
    checkedOr_passed hcolor, except_ok_bind, hfound, except_ok_bind]
  rcases requireUniqueTag_cases s (newName.getD tag.name) category (some tag.id) with
    ⟨hok, hfree⟩ | ⟨⟨e, herror⟩, t, ht, hother, heq⟩
  · rw [hok, except_ok_bind]
    have hunique : ∀ t ∈ s.tags, t.id ≠ tag.id → (t.categoryId, t.name.lower) ≠
        (category.map TagCategory.id, (newName.getD tag.name).lower) :=
      fun t ht hne => hfree t ht fun id hid => Option.some.inj hid ▸ hne
    rcases requireNoClash_cases s tag category with ⟨hok, hclash⟩ | ⟨⟨e, herror⟩, hclash⟩
    · rw [hok, except_ok_bind]
      refine Or.inl ⟨_, rfl, ?_, ?_, hlaws.mpr ⟨hunique, hclash⟩⟩
      · rw [updateTag_apply hk htag]
        exact Catalog.Same.refl _
      · rw [updateTag_apply hk htag]
        refine hk.retag fun c hc => ?_
        obtain ⟨c', hc', rfl⟩ := Option.map_eq_some_iff.mp hc
        exact List.mem_map_of_mem (hmem c' hc')
    · rw [herror, except_error_bind]
      exact Or.inr ⟨e, rfl, fun h => hclash (hlaws.mp h).2⟩
  · rw [herror, except_error_bind]
    exact Or.inr ⟨e, rfl, fun h => (hlaws.mp h).1 t ht (hother tag.id rfl) heq⟩

end Tags

/-! ## The tags of a VM -/

section VmTags

variable {s : Catalog} {vmId : String} {tagIds : List String}

/-- The tags of one category are one tag. -/
def OneEach (tags : List Tag) : Prop :=
  ∀ t ∈ tags, ∀ u ∈ tags, t.categoryId.isSome → t.categoryId = u.categoryId → t.id = u.id

/-- A list with at most one element. -/
private lemma eq_of_length_le_one {α : Type} {l : List α} {a b : α} (h : ¬ 1 < l.length)
    (ha : a ∈ l) (hb : b ∈ l) : a = b := by
  rcases l with _ | ⟨x, _ | ⟨y, l⟩⟩
  · exact absurd ha List.not_mem_nil
  · rw [List.mem_singleton.mp ha, List.mem_singleton.mp hb]
  · simp at h

/-- `_require_one_per_category` passes exactly one tag of each category. -/
lemma requireOnePerCategory_cases (hk : s.Keyed) {tags : List Tag} (hsub : tags.Sublist s.tags) :
    (requireOnePerCategory s tags = .ok () ∧ OneEach tags) ∨
      ((∃ e, requireOnePerCategory s tags = .error (.apiError e)) ∧ ¬ OneEach tags) := by
  unfold requireOnePerCategory
  split
  · rename_i hfind
    refine Or.inl ⟨rfl, fun t ht u hu hsome hcat => ?_⟩
    have hone := List.find?_eq_none.mp hfind t ht
    simp only [hsome, Bool.true_and, decide_eq_true_eq] at hone
    have heq : t = u := eq_of_length_le_one hone (List.mem_filter.mpr ⟨ht, by simp⟩)
      (List.mem_filter.mpr ⟨hu, by simp [hcat]⟩)
    rw [heq]
  · rename_i t hfind
    have ht : t ∈ tags := List.mem_of_find?_eq_some hfind
    have htest := List.find?_some hfind
    simp only [Bool.and_eq_true, decide_eq_true_eq] at htest
    obtain ⟨hsome, hmany⟩ := htest
    obtain ⟨id, hid⟩ := Option.isSome_iff_exists.mp hsome
    obtain ⟨c, hc, rfl⟩ := List.mem_map.mp (hk.tagCategory t (hsub.subset ht) id hid)
    refine Or.inr ⟨?_, fun hone => ?_⟩
    · simp only [hid, Option.getD_some, getCategory_ok hk hc, except_ok_bind]
      exact ⟨_, rfl⟩
    · have hsame : (tags.filter fun u => decide (u.categoryId = t.categoryId)).map Tag.id =
          List.replicate (tags.filter fun u => decide (u.categoryId = t.categoryId)).length t.id := by
        refine List.eq_replicate_iff.mpr ⟨List.length_map .., fun id hid => ?_⟩
        obtain ⟨u, hu, rfl⟩ := List.mem_map.mp hid
        obtain ⟨hu, hcat⟩ := List.mem_filter.mp hu
        exact (hone t ht u hu hsome (of_decide_eq_true hcat).symm).symm
      have hnodup : ((tags.filter fun u => decide (u.categoryId = t.categoryId)).map Tag.id).Nodup :=
        hk.tagIds.sublist ((List.filter_sublist.trans hsub).map _)
      rw [hsame, List.nodup_replicate] at hnodup
      omega

/-- The tags a VM carries. -/
def tagsOf (s : Catalog) (vmId : String) : List String :=
  (s.vmTags.filter fun r => decide (r.1 = vmId)).map Prod.snd

/-- The tags of a VM are those it carries. -/
lemma mem_tagsOf {tagId : String} : tagId ∈ tagsOf s vmId ↔ s.Carries vmId tagId := by
  unfold tagsOf Catalog.Carries
  simp only [List.mem_map, List.mem_filter, decide_eq_true_eq]
  constructor
  · rintro ⟨⟨vm, id⟩, ⟨hr, rfl⟩, rfl⟩
    exact hr
  · exact fun hr => ⟨(vmId, tagId), ⟨hr, rfl⟩, rfl⟩

/-- The write of the difference between the tags a VM carries and its new ones. -/
def diffWrite (s : Catalog) (vmId : String) (new : List String) : CatalogWrite :=
  .setTags vmId ((tagsOf s vmId).filter fun t => decide (t ∉ new))
    (new.filter fun t => decide (t ∉ tagsOf s vmId))

/-- **The VM carries its new tags**, the others what they carried. -/
lemma mem_diffWrite {new : List String} {r : String × String} :
    r ∈ ((diffWrite s vmId new).apply s).vmTags ↔
      if r.1 = vmId then r.2 ∈ new else r ∈ s.vmTags := by
  obtain ⟨vm, tagId⟩ := r
  unfold diffWrite CatalogWrite.apply
  simp only [List.mem_append, Table.mem_deleteWhere, Bool.and_eq_false_iff,
    decide_eq_false_iff_not, List.mem_filter, decide_eq_true_eq, List.mem_map, Prod.mk.injEq,
    mem_tagsOf, Catalog.Carries]
  by_cases hvm : vm = vmId
  · subst hvm
    simp only [not_true_eq_false, false_or, true_and, exists_eq_right, if_true]
    by_cases hcarries : (vm, tagId) ∈ s.vmTags
    · simp [hcarries]
    · simp [hcarries]
  · simp only [hvm, not_false_eq_true, true_or, and_true, if_false, or_iff_left_iff_imp]
    rintro ⟨t, -, heq, -⟩
    exact absurd heq.symm hvm

/-- The write of a difference keeps the foreign keys. -/
lemma diffWrite_keyed (hk : s.Keyed) (hvm : vmId ∈ s.vms) {new : List String} (hnew : new.Nodup)
    (htags : ∀ t ∈ new, t ∈ s.tags.map Tag.id) : ((diffWrite s vmId new).apply s).Keyed := by
  exact { hk with
    vmTags := by
      refine List.nodup_append.mpr ⟨hk.vmTags.sublist (Table.deleteWhere_sublist _ _), ?_, ?_⟩
      · exact (hnew.filter _).map fun a b h => (Prod.mk.inj h).2
      · rintro r hr r' hr' rfl
        obtain ⟨t, ht, rfl⟩ := List.mem_map.mp hr'
        have hfree := (List.mem_filter.mp ht).2
        rw [decide_eq_true_eq, mem_tagsOf] at hfree
        exact hfree (Table.mem_deleteWhere.mp hr).1
    vmTagVm := fun r hr => by
      have hmem := mem_diffWrite.mp hr
      split_ifs at hmem with h
      · exact h ▸ hvm
      · exact hk.vmTagVm r hmem
    vmTagTag := fun r hr => by
      have hmem := mem_diffWrite.mp hr
      split_ifs at hmem with h
      · exact htags _ hmem
      · exact hk.vmTagTag r hmem }

/-- **The VMs stay lawful** when the new tags are of different categories. -/
lemma onePerCategory_diffWrite (hone : s.OnePerCategory) (hk : s.Keyed) {tags : List Tag}
    (hsub : tags.Sublist s.tags) :
    ((diffWrite s vmId (tags.map Tag.id)).apply s).OnePerCategory ↔ OneEach tags := by
  have hcarries : ∀ vm id, ((diffWrite s vmId (tags.map Tag.id)).apply s).Carries vm id ↔
      if vm = vmId then id ∈ tags.map Tag.id else s.Carries vm id := fun vm id => mem_diffWrite
  have hmem : ∀ t ∈ s.tags, t.id ∈ tags.map Tag.id → t ∈ tags := by
    intro t ht hid
    obtain ⟨u, hu, heq⟩ := List.mem_map.mp hid
    exact List.inj_on_of_nodup_map hk.tagIds (hsub.subset hu) ht heq ▸ hu
  constructor
  · intro h t ht u hu hsome hcat
    refine h vmId t (hsub.subset ht) u (hsub.subset hu) ?_ ?_ hsome hcat
    · rw [hcarries, if_pos rfl]
      exact List.mem_map_of_mem ht
    · rw [hcarries, if_pos rfl]
      exact List.mem_map_of_mem hu
  · intro h vm t ht u hu htc huc hsome hcat
    rw [hcarries] at htc huc
    split_ifs at htc huc
    · exact h t (hmem t ht htc) u (hmem u hu huc) hsome hcat
    · exact hone vm t ht u hu htc huc hsome hcat

/-- `set_vm_tags` decides its target.

**Proof sketch.** The tags that are read are those asked for, each once, so the check on their
number passes. What is written is the target, and the one law it can break is the one that is
checked before. -/
lemma setVmTags_decides (hl : s.Laws) (hk : s.Keyed) (hvm : vmId ∈ s.vms)
    (hids : ∀ id ∈ tagIds, ∃ t ∈ s.tags, t.id = id) :
    Decides s (setVmTags s vmId tagIds) ((CatalogAsk.setVmTags vmId tagIds).target s) := by
  set tags := s.tags.filter fun t => decide (t.id ∈ tagIds.dedup) with htags
  have hsub : tags.Sublist s.tags := List.filter_sublist
  have hnodup : (tags.map Tag.id).Nodup := hk.tagIds.sublist (hsub.map _)
  have hnew : ∀ id, id ∈ tags.map Tag.id ↔ id ∈ tagIds.dedup := by
    intro id
    rw [List.mem_map]
    constructor
    · rintro ⟨t, ht, rfl⟩
      exact of_decide_eq_true (List.mem_filter.mp ht).2
    · intro hid
      obtain ⟨t, ht, rfl⟩ := hids id (List.mem_dedup.mp hid)
      exact ⟨t, List.mem_filter.mpr ⟨ht, decide_eq_true hid⟩, rfl⟩
  have hlength : tags.length = tagIds.dedup.length := by
    rw [← List.length_map Tag.id]
    exact ((List.perm_ext_iff_of_nodup hnodup (List.nodup_dedup tagIds)).mpr hnew).length_eq
  have hsame : ((diffWrite s vmId (tags.map Tag.id)).apply s).Same
      ((CatalogAsk.setVmTags vmId tagIds).target s) := by
    refine ⟨rfl, rfl, rfl, fun r => mem_diffWrite.trans ?_⟩
    obtain ⟨vm, id⟩ := r
    simp only [CatalogAsk.target, List.mem_append, List.mem_filter, decide_eq_true_eq, List.mem_map,
      Prod.mk.injEq, hnew]
    by_cases h : vm = vmId
    · simp [h]
    · simp [h, Ne.symm h]
  have hlaws : ((CatalogAsk.setVmTags vmId tagIds).target s).Laws ↔ OneEach tags := by
    rw [← hsame.laws, ← onePerCategory_diffWrite hl.onePerCategory hk hsub]
    exact ⟨fun h => h.onePerCategory, fun h => ⟨⟨hl.names.categories, hl.names.tags⟩, h⟩⟩
  unfold setVmTags
  rw [if_pos hvm]
  simp only [← htags, hlength, ne_eq, not_true_eq_false, if_false]
  rcases requireOnePerCategory_cases hk hsub with ⟨hok, hone⟩ | ⟨⟨e, herror⟩, hone⟩
  · rw [hok, except_ok_bind]
    refine Or.inl ⟨diffWrite s vmId (tags.map Tag.id), rfl, hsame, ?_, hlaws.mpr hone⟩
    exact diffWrite_keyed hk hvm hnodup fun t ht =>
      (hsub.map Tag.id).subset ht
  · rw [herror, except_error_bind]
    exact Or.inr ⟨e, rfl, fun h => hone (hlaws.mp h)⟩

end VmTags

/-! ## Serving a request -/

section Serve

variable {py : PyStd} {s : Catalog} {r : CatalogRequest} {a : CatalogAsk}

/-- A check that passes. -/
private lemma passed_eq_some {α : Type} {x : Except Raised α} {v : α} :
    passed x = some v ↔ x = .ok v := by
  cases x <;> simp [passed]

/-- **The checks decide** whether what a request asks for is lawful. -/
theorem plan_decides (hl : s.Laws) (hk : s.Keyed) (ha : r.asks py = some a) (he : a.IdsExist s) :
    Decides s (r.plan py s) (a.target s) := by
  cases r with
  | createCategory newId text =>
    simp only [CatalogRequest.asks, Option.map_eq_some_iff] at ha
    obtain ⟨name, hname, rfl⟩ := ha
    exact createCategory_decides hl hk (passed_eq_some.mp hname) he.1 he.2
  | renameCategory id text =>
    simp only [CatalogRequest.asks, Option.map_eq_some_iff] at ha
    obtain ⟨name, hname, rfl⟩ := ha
    exact renameCategory_decides hl hk (passed_eq_some.mp hname) he
  | deleteCategory id => cases ha
  | createTag newId text categoryId colorText =>
    simp only [CatalogRequest.asks, Option.bind_eq_bind, Option.bind_eq_some_iff,
      Option.some.injEq] at ha
    obtain ⟨name, hname, color, hcolor, hask⟩ := ha
    subst hask
    exact createTag_decides hl hk (passed_eq_some.mp hname) (passed_eq_some.mp hcolor) he.1 he.2
  | updateTag id text categoryId categoryGiven colorText =>
    simp only [CatalogRequest.asks, Option.bind_eq_bind, Option.bind_eq_some_iff,
      Option.some.injEq] at ha
    obtain ⟨name, hname, color, hcolor, hask⟩ := ha
    subst hask
    exact updateTag_decides hl hk hname hcolor he.1 he.2
  | deleteTag id => cases ha
  | setVmTags vmId tagIds =>
    obtain rfl := Option.some.inj ha
    exact setVmTags_decides hl hk he.1 he.2

/-- A flush of the catalog returns exactly if its constraints hold. -/
lemma flushCatalog_run (s : Catalog) : flushCatalog s =
    if s.Keyed ∧ s.UniqueNames then (.ok (), s) else (.error .integrityError, s) := by
  unfold flushCatalog
  rw [Prog.read_bind_run]
  split_ifs
  · rfl
  · rfl

/-- A request whose checks raise leaves everything as it was. -/
lemma serve_of_error {e : Raised} (h : r.plan py s = .error e) :
    r.serve py s = (.error e, s) := by
  refine Prog.transact_of_raise (t := s) ?_
  rw [Prog.read_bind_run, h]
  rfl

/-- A request whose checks pass writes, if the flush lets the write pass. -/
lemma serve_of_ok {w : CatalogWrite} (h : r.plan py s = .ok w) : r.serve py s =
    if (w.apply s).Keyed ∧ (w.apply s).UniqueNames then (.ok (), w.apply s)
    else (.error .integrityError, s) := by
  have hbody : (do
      let s ← Prog.read
      let write ← Prog.ofExcept (r.plan py s)
      Prog.modify write.apply : Prog Catalog Raised Unit) s = (.ok (), w.apply s) := by
    rw [Prog.read_bind_run, h]
    rfl
  unfold CatalogRequest.serve Prog.transact Prog.bind
  simp only [hbody]
  rw [flushCatalog_run]
  split_ifs
  · rfl
  · rfl

/-- The write of a request keeps the tags of a VM in different categories.

**Proof sketch.** By the request. New names and deletions put no tag beside another. A tag that
changes its category passes the check for clashes, and an assignment the check for one tag of each
category; both are exact. -/
lemma plan_onePerCategory (hone : s.OnePerCategory) (hk : s.Keyed) {w : CatalogWrite}
    (h : r.plan py s = .ok w) (hk' : (w.apply s).Keyed) : (w.apply s).OnePerCategory := by
  cases r with
  | createCategory newId text =>
    obtain ⟨name, -, h⟩ := except_bind_eq_ok.mp h
    obtain ⟨-, -, h⟩ := except_bind_eq_ok.mp h
    obtain rfl := Except.ok.inj h
    exact hone
  | renameCategory id text =>
    obtain ⟨category, -, h⟩ := except_bind_eq_ok.mp h
    obtain ⟨name, -, h⟩ := except_bind_eq_ok.mp h
    obtain ⟨-, -, h⟩ := except_bind_eq_ok.mp h
    obtain rfl := Except.ok.inj h
    exact hone
  | deleteCategory id =>
    obtain ⟨category, -, h⟩ := except_bind_eq_ok.mp h
    obtain rfl := Except.ok.inj h
    exact fun vmId t ht u hu htc huc => hone vmId t (Table.mem_deleteWhere.mp ht).1 u
      (Table.mem_deleteWhere.mp hu).1 (Table.mem_deleteWhere.mp htc).1
      (Table.mem_deleteWhere.mp huc).1
  | createTag newId text categoryId colorText =>
    obtain ⟨name, -, h⟩ := except_bind_eq_ok.mp h
    obtain ⟨color, -, h⟩ := except_bind_eq_ok.mp h
    obtain ⟨category, -, h⟩ := except_bind_eq_ok.mp h
    obtain ⟨-, -, h⟩ := except_bind_eq_ok.mp h
    obtain rfl := Except.ok.inj h
    exact onePerCategory_insert hone hk _ (Table.nodup_keys_append.mp hk'.tagIds).2
  | updateTag id text categoryId categoryGiven colorText =>
    obtain ⟨tag, hfound, h⟩ := except_bind_eq_ok.mp h
    obtain ⟨name, -, h⟩ := except_bind_eq_ok.mp h
    obtain ⟨color, -, h⟩ := except_bind_eq_ok.mp h
    obtain ⟨category, -, h⟩ := except_bind_eq_ok.mp h
    obtain ⟨_, -, h⟩ := except_bind_eq_ok.mp h
    obtain ⟨_, hclash, h⟩ := except_bind_eq_ok.mp h
    obtain rfl := Except.ok.inj h
    have htag : tag ∈ s.tags := getTag_mem hfound
    rcases requireNoClash_cases s tag category with ⟨-, hnone⟩ | ⟨⟨e, herror⟩, -⟩
    · rw [updateTag_apply hk htag]
      exact (onePerCategory_retag hone htag).mpr hnone
    · rw [herror] at hclash
      cases hclash
  | deleteTag id =>
    obtain ⟨tag, -, h⟩ := except_bind_eq_ok.mp h
    obtain rfl := Except.ok.inj h
    exact fun vmId t ht u hu htc huc => hone vmId t (Table.mem_deleteWhere.mp ht).1 u
      (Table.mem_deleteWhere.mp hu).1 (Table.mem_deleteWhere.mp htc).1
      (Table.mem_deleteWhere.mp huc).1
  | setVmTags vmId tagIds =>
    simp only [CatalogRequest.plan, OpenVCenter.setVmTags] at h
    split_ifs at h
    obtain ⟨_, hcheck, h⟩ := except_bind_eq_ok.mp h
    obtain rfl := Except.ok.inj h
    have hsub : (s.tags.filter fun t => decide (t.id ∈ tagIds.dedup)).Sublist s.tags :=
      List.filter_sublist
    rcases requireOnePerCategory_cases hk hsub with ⟨-, heach⟩ | ⟨⟨e, herror⟩, -⟩
    · exact (onePerCategory_diffWrite hone hk hsub).mpr heach
    · rw [herror] at hcheck
      cases hcheck

/-- A request whose change is lawful makes it, and one whose change is not raises. -/
lemma serve_of_decides {target : Catalog} (h : Decides s (r.plan py s) target) :
    (∃ s', r.serve py s = (.ok (), s') ∧ s'.Same target ∧ target.Laws) ∨
      ∃ e, r.serve py s = (.error (.apiError e), s) ∧ ¬ target.Laws := by
  rcases h with ⟨w, hplan, hsame, hkeyed, hlaws⟩ | ⟨e, hplan, hlaws⟩
  · refine Or.inl ⟨w.apply s, ?_, hsame, hlaws⟩
    rw [serve_of_ok hplan, if_pos ⟨hkeyed, (hsame.laws.mpr hlaws).names⟩]
  · exact Or.inr ⟨e, serve_of_error hplan, hlaws⟩

/-- **A request leaves the catalog lawful**, whatever its names, colours and identifiers. -/
lemma serve_lawful (hl : s.Laws) (hk : s.Keyed) :
    (r.serve py s).2.Laws ∧ (r.serve py s).2.Keyed := by
  rcases hplan : r.plan py s with e | w
  · rw [serve_of_error hplan]
    exact ⟨hl, hk⟩
  · rw [serve_of_ok hplan]
    split_ifs with hflush
    · exact ⟨⟨hflush.2, plan_onePerCategory hl.onePerCategory hk hplan hflush.1⟩, hflush.1⟩
    · exact ⟨hl, hk⟩

end Serve

/-! ## Runs -/

/-- What happens to a catalog: a request, a new VM, or a deleted one. -/
inductive CatalogStep where
  | request (r : CatalogRequest)
  | addVm (vmId : String)
  | deleteVm (vmId : String)

/-- The catalog after a step. The tags of a deleted VM are deleted by the cascade of `vm_tags`. -/
def CatalogStep.apply (py : PyStd) (s : Catalog) : CatalogStep → Catalog
  | .request r => (r.serve py s).2
  | .addVm vmId => { s with vms := s.vms ++ [vmId] }
  | .deleteVm vmId =>
    { s with
      vms := s.vms.filter fun vm => decide (vm ≠ vmId)
      vmTags := Table.deleteWhere (fun r => decide (r.1 = vmId)) s.vmTags }

section Runs

variable {py : PyStd} {s : Catalog}

/-- Every step keeps the laws and the foreign keys. -/
lemma catalogStep_lawful (step : CatalogStep) (h : s.Laws ∧ s.Keyed) :
    (step.apply py s).Laws ∧ (step.apply py s).Keyed := by
  obtain ⟨hl, hk⟩ := h
  cases step with
  | request r => exact serve_lawful hl hk
  | addVm vmId =>
    exact ⟨⟨⟨hl.names.categories, hl.names.tags⟩, hl.onePerCategory⟩,
      { hk with vmTagVm := fun r hr => List.mem_append_left _ (hk.vmTagVm r hr) }⟩
  | deleteVm vmId =>
    refine ⟨⟨⟨hl.names.categories, hl.names.tags⟩, ?_⟩, ?_⟩
    · exact fun vm t ht u hu htc huc => hl.onePerCategory vm t ht u hu
        (Table.mem_deleteWhere.mp htc).1 (Table.mem_deleteWhere.mp huc).1
    · exact { hk with
        vmTags := hk.vmTags.sublist (Table.deleteWhere_sublist _ _)
        vmTagVm := fun r hr => by
          obtain ⟨hmem, hne⟩ := Table.mem_deleteWhere.mp hr
          exact List.mem_filter.mpr ⟨hk.vmTagVm r hmem, decide_eq_true (of_decide_eq_false hne)⟩
        vmTagTag := fun r hr => hk.vmTagTag r (Table.mem_deleteWhere.mp hr).1 }

/-- **A request is served exactly when what it asks for is lawful**, and makes just that; one that
is not raises and leaves the catalog as it was. The laws hold after every run. -/
theorem serve_iff_laws (py : PyStd) :
    (∀ (s : Catalog) (r : CatalogRequest) (a : CatalogAsk), s.Laws → s.Keyed →
      r.asks py = some a → a.IdsExist s →
      ((∃ s', r.serve py s = (.ok (), s')) ↔ (a.target s).Laws) ∧
      ((∃ s', r.serve py s = (.ok (), s')) → (r.serve py s).2.Same (a.target s)) ∧
      (¬ (a.target s).Laws → ∃ e, r.serve py s = (.error e, s))) ∧
    ∀ (s : Catalog) (steps : List CatalogStep), s.Laws → s.Keyed →
      (Machine.run (CatalogStep.apply py) s steps).Laws := by
  constructor
  · intro s r a hl hk ha he
    rcases serve_of_decides (plan_decides hl hk ha he) with
      ⟨s', hserve, hsame, hlaws⟩ | ⟨e, hserve, hlaws⟩
    · rw [hserve]
      exact ⟨⟨fun _ => hlaws, fun _ => ⟨s', rfl⟩⟩, fun _ => hsame, fun h => absurd hlaws h⟩
    · rw [hserve]
      refine ⟨⟨fun ⟨_, h⟩ => ?_, fun h => absurd h hlaws⟩, fun ⟨_, h⟩ => ?_, fun _ => ⟨_, rfl⟩⟩
      · cases h
      · cases h
  · intro s steps hl hk
    have hrun : ∀ s (step : CatalogStep), s.Laws ∧ s.Keyed →
        (step.apply py s).Laws ∧ (step.apply py s).Keyed := fun s step => catalogStep_lawful step
    exact (Machine.run_invariant (I := fun s : Catalog => s.Laws ∧ s.Keyed) hrun ⟨hl, hk⟩).1

end Runs

namespace Demo

/-- `prod` is a name. -/
lemma isTagName_prod : isTagName "prod" = true := by decide +kernel

/-- The names of the categories and the tags. -/
def env : TagName := ⟨"env", by decide +kernel⟩

/-- A category of two tags; one VM, that carries one of them. -/
def catalog : Catalog where
  categories := [{ id := "c1", name := env }]
  tags :=
    [{ id := "t1", categoryId := some "c1", name := ⟨"prod", isTagName_prod⟩, color := .red },
      { id := "t2", categoryId := some "c1", name := ⟨"dev", by decide +kernel⟩, color := .blue },
      { id := "t3", categoryId := none, name := ⟨"Dev", by decide +kernel⟩, color := .gray }]
  vms := ["v1"]
  vmTags := [("v1", "t1")]

end Demo

/-- A VM may swap its tag for the other one of the category, but not carry both; a deleted category
leaves a lawful catalog. -/
theorem serve_iff_laws_catalog :
    (∃ s', (CatalogRequest.setVmTags "v1" ["t2", "t3"]).serve Demo.py Demo.catalog = (.ok (), s')) ∧
    (∃ e, (CatalogRequest.setVmTags "v1" ["t1", "t2"]).serve Demo.py Demo.catalog =
      (.error e, Demo.catalog)) ∧
    (Machine.run (CatalogStep.apply Demo.py) Demo.catalog
      [.request (.setVmTags "v1" ["t2"]), .request (.deleteCategory "c1"), .deleteVm "v1"]).Laws := by
  have hl : Demo.catalog.Laws := by decide +kernel
  have hk : Demo.catalog.Keyed := by decide +kernel
  obtain ⟨hserve, hrun⟩ := serve_iff_laws Demo.py
  refine ⟨?_, ?_, hrun Demo.catalog _ hl hk⟩
  · exact (hserve Demo.catalog _ (.setVmTags "v1" ["t2", "t3"]) hl hk rfl
      ⟨by decide +kernel, by decide +kernel⟩).1.mpr (by decide +kernel)
  · exact (hserve Demo.catalog _ (.setVmTags "v1" ["t1", "t2"]) hl hk rfl
      ⟨by decide +kernel, by decide +kernel⟩).2.2 (by decide +kernel)

end OpenVCenter
