import Mathlib.Data.List.Dedup
import OpenVCenter.Foundations.Table
import OpenVCenter.Vms

set_option relaxedAutoImplicit false
set_option autoImplicit false

/-!
# Tags

`services/tags.py`: categories of mutually exclusive tags, standalone tags, and the tags that each
VM carries. The laws of the catalog are checked by the requests before they write; the database
itself keeps the names apart, not the tags of a VM.

## Main definitions

* `OpenVCenter.TagName`, `OpenVCenter.TagColor` — names and colours that have passed their checks.
* `OpenVCenter.Catalog`, `OpenVCenter.Catalog.Laws` — the tables, and the laws of the catalog.
* `OpenVCenter.CatalogRequest` — the requests; `CatalogRequest.plan` reads and checks,
  `CatalogWrite.apply` writes.

## Design

A request reads and checks everything before it assigns an attribute, and is flushed once, at its
end. It is therefore a read of the catalog that plans one write, and the write: the rows and
columns that SQLAlchemy finds changed.
-/

namespace OpenVCenter

open Effect

/-! ## Names and colours -/

/-- A character of `TAG_NAME_PATTERN`. -/
def isTagChar (c : Char) : Bool := c.isAlphanum || c == '_' || c == '-'

/-- `[A-Za-z0-9_-]{1,64}`. -/
def isTagName (s : String) : Bool :=
  decide (1 ≤ s.length ∧ s.length ≤ 64) && s.toList.all isTagChar

/-- A name that has passed `check_tag_name`. -/
structure TagName where
  text : String
  valid : isTagName text = true
  deriving DecidableEq

/-- `name.lower()`, and PostgreSQL's `lower(name)`. -/
def TagName.lower (name : TagName) : List Char := name.text.toList.map Char.toLower

/-- `check_tag_name`. -/
def checkTagName (py : PyStd) (what name : String) : Except Raised TagName :=
  let name := py.strip name
  if h : isTagName name = true then .ok ⟨name, h⟩
  else .error (.apiError {
    code := "INVALID"
    message := what ++ " names use letters, digits, '_' and '-' only (1-64 characters, no spaces)" })

/-- `TAG_COLORS`. -/
inductive TagColor where
  | gray | red | orange | yellow | green | teal | blue | navy | purple | pink
  deriving DecidableEq

namespace TagColor

/-- The name of a colour. -/
def name : TagColor → String
  | .gray => "gray"
  | .red => "red"
  | .orange => "orange"
  | .yellow => "yellow"
  | .green => "green"
  | .teal => "teal"
  | .blue => "blue"
  | .navy => "navy"
  | .purple => "purple"
  | .pink => "pink"

/-- The palette. -/
def palette : List TagColor :=
  [.gray, .red, .orange, .yellow, .green, .teal, .blue, .navy, .purple, .pink]

end TagColor

/-- `check_tag_color`. -/
def checkTagColor (color : String) : Except Raised TagColor :=
  match TagColor.palette.find? fun c => decide (c.name = color) with
  | some c => .ok c
  | none => .error (.apiError {
      code := "INVALID"
      message := "Tag colors are one of: " ++ ", ".intercalate (TagColor.palette.map TagColor.name) })

/-- `_duplicate`. -/
def duplicate (message : String) : Raised :=
  .apiError { code := "DUPLICATE", message := message, statusCode := 409 }

/-- `_conflict`. -/
def tagConflict (message : String) : Raised :=
  .apiError { code := "TAG_CONFLICT", message := message, statusCode := 409 }

/-! ## The catalog -/

/-- `models/tag.py`, `TagCategory`. -/
structure TagCategory where
  id : String
  name : TagName

/-- `models/tag.py`, `Tag`. -/
structure Tag where
  id : String
  categoryId : Option String
  name : TagName
  color : TagColor

/-- The tables of the tags. `vms` are the keys of the VMs, `vmTags` the rows of `vm_tags`: the VM
and the tag. -/
structure Catalog where
  categories : List TagCategory := []
  tags : List Tag := []
  vms : List String := []
  vmTags : List (String × String) := []

namespace Catalog

variable (s : Catalog)

/-- The VM carries the tag. -/
def Carries (vmId tagId : String) : Prop := (vmId, tagId) ∈ s.vmTags

/-- Whether a VM carries a tag can be decided. -/
instance (vmId tagId : String) : Decidable (s.Carries vmId tagId) :=
  inferInstanceAs (Decidable (_ ∈ _))

/-- Names of categories are unique, and names of tags within a category and among the standalone
ones; `uq_tag_categories_name`, `uq_tags_category_name`, `uq_tags_standalone_name`. -/
structure UniqueNames : Prop where
  categories : Table.Unique TagCategory.id (fun c => c.name.lower) s.categories
  tags : Table.Unique Tag.id (fun t => (t.categoryId, t.name.lower)) s.tags

/-- A VM carries at most one tag of each category. -/
def OnePerCategory : Prop :=
  ∀ vmId, ∀ t ∈ s.tags, ∀ u ∈ s.tags, s.Carries vmId t.id → s.Carries vmId u.id →
    t.categoryId.isSome → t.categoryId = u.categoryId → t.id = u.id

/-- **The laws of the catalog.** -/
structure Laws : Prop where
  names : s.UniqueNames
  onePerCategory : s.OnePerCategory

/-- The keys of the tables. The column of a key holds a UUID, never an empty text. -/
structure Keyed : Prop where
  categoryIds : (s.categories.map TagCategory.id).Nodup
  categoryIds_ne : ∀ c ∈ s.categories, c.id ≠ ""
  tagIds : (s.tags.map Tag.id).Nodup
  vmTags : s.vmTags.Nodup
  tagCategory : ∀ t ∈ s.tags, ∀ c ∈ t.categoryId, c ∈ s.categories.map TagCategory.id
  vmTagVm : ∀ r ∈ s.vmTags, r.1 ∈ s.vms
  vmTagTag : ∀ r ∈ s.vmTags, r.2 ∈ s.tags.map Tag.id

/-- Whether names are unique can be decided. -/
instance : Decidable s.UniqueNames :=
  decidable_of_iff
    (Table.Unique TagCategory.id (fun c => c.name.lower) s.categories ∧
      Table.Unique Tag.id (fun t => (t.categoryId, t.name.lower)) s.tags)
    ⟨fun ⟨a, b⟩ => ⟨a, b⟩, fun ⟨a, b⟩ => ⟨a, b⟩⟩

/-- Whether the foreign keys hold can be decided. -/
instance : Decidable s.Keyed :=
  decidable_of_iff
    ((s.categories.map TagCategory.id).Nodup ∧ (∀ c ∈ s.categories, c.id ≠ "") ∧
      (s.tags.map Tag.id).Nodup ∧ s.vmTags.Nodup ∧
      (∀ t ∈ s.tags, ∀ c ∈ t.categoryId, c ∈ s.categories.map TagCategory.id) ∧
      (∀ r ∈ s.vmTags, r.1 ∈ s.vms) ∧ ∀ r ∈ s.vmTags, r.2 ∈ s.tags.map Tag.id)
    ⟨fun ⟨a, b, c, d, e, f, g⟩ => ⟨a, b, c, d, e, f, g⟩,
      fun ⟨a, b, c, d, e, f, g⟩ => ⟨a, b, c, d, e, f, g⟩⟩

/-- The law of the VMs, over the rows of `vm_tags`. -/
theorem onePerCategory_iff : s.OnePerCategory ↔
    ∀ r ∈ s.vmTags, ∀ t ∈ s.tags, ∀ u ∈ s.tags, t.id = r.2 → s.Carries r.1 u.id →
      t.categoryId.isSome → t.categoryId = u.categoryId → t.id = u.id := by
  constructor
  · rintro h ⟨vmId, tagId⟩ hr t ht u hu rfl hcarries
    exact h vmId t ht u hu hr hcarries
  · intro h vmId t ht u hu hcarries
    exact h (vmId, t.id) hcarries t ht u hu rfl

/-- Whether each VM has one tag of a category can be decided. -/
instance : Decidable s.OnePerCategory := decidable_of_iff _ s.onePerCategory_iff.symm

/-- Whether the laws hold can be decided. -/
instance : Decidable s.Laws :=
  decidable_of_iff (s.UniqueNames ∧ s.OnePerCategory) ⟨fun ⟨a, b⟩ => ⟨a, b⟩, fun ⟨a, b⟩ => ⟨a, b⟩⟩

end Catalog

/-! ## Writes -/

/-- What a request writes. A row that changes is written in the columns that change; the tags of a
VM in the rows that are new or gone. -/
inductive CatalogWrite where
  | insertCategory (category : TagCategory)
  | updateCategory (id : String) (name : TagName)
  | deleteCategory (id : String)
  | insertTag (tag : Tag)
  | updateTag (id : String) (name : Option TagName) (color : Option TagColor)
      (categoryId : Option (Option String))
  | deleteTag (id : String)
  | setTags (vmId : String) (removed added : List String)

/-- The columns that a write of a tag changes. -/
def Tag.update (tag : Tag) (name : Option TagName) (color : Option TagColor)
    (categoryId : Option (Option String)) : Tag where
  id := tag.id
  categoryId := categoryId.getD tag.categoryId
  name := name.getD tag.name
  color := color.getD tag.color

/-- What the database has after a write, cascades included. -/
def CatalogWrite.apply : CatalogWrite → Catalog → Catalog
  | .insertCategory category, s => { s with categories := s.categories ++ [category] }
  | .updateCategory id name, s =>
    { s with
      categories := Table.updateWhere (fun c => decide (c.id = id)) (fun c => { c with name })
        s.categories }
  | .deleteCategory id, s =>
    { s with
      categories := Table.deleteWhere (fun c => decide (c.id = id)) s.categories
      tags := Table.deleteWhere (fun t => decide (t.categoryId = some id)) s.tags
      vmTags := Table.deleteWhere (fun r => s.tags.any fun t =>
        decide (t.id = r.2) && decide (t.categoryId = some id)) s.vmTags }
  | .insertTag tag, s => { s with tags := s.tags ++ [tag] }
  | .updateTag id name color categoryId, s =>
    { s with
      tags := Table.updateWhere (fun t => decide (t.id = id))
        (fun t => t.update name color categoryId) s.tags }
  | .deleteTag id, s =>
    { s with
      tags := Table.deleteWhere (fun t => decide (t.id = id)) s.tags
      vmTags := Table.deleteWhere (fun r => decide (r.2 = id)) s.vmTags }
  | .setTags vmId removed added, s =>
    { s with
      vmTags := Table.deleteWhere (fun r => decide (r.1 = vmId) && decide (r.2 ∈ removed)) s.vmTags ++
        added.map fun t => (vmId, t) }

/-! ## Checks -/

section Checks

variable (s : Catalog)

/-- `_require_unique_category`. -/
def requireUniqueCategory (name : TagName) (excludeId : Option String) : Except Raised Unit :=
  if s.categories.any fun c =>
      decide (c.name.lower = name.lower) && excludeId.all fun id => decide (c.id ≠ id) then
    .error (duplicate ("A category named '" ++ name.text ++ "' already exists"))
  else .ok ()

/-- `_get_category`. -/
def getCategory (id : String) : Except Raised TagCategory :=
  match Table.lookup TagCategory.id id s.categories with
  | some category => .ok category
  | none => .error (notFound "Tag category")

/-- `await _get_category(db, category_id) if category_id else None`. -/
def categoryOf (categoryId : Option String) : Except Raised (Option TagCategory) :=
  match nonEmpty categoryId with
  | some id => (getCategory s id).map some
  | none => .ok none

/-- `_require_unique_tag`. -/
def requireUniqueTag (name : TagName) (category : Option TagCategory)
    (excludeId : Option String) : Except Raised Unit :=
  if s.tags.any fun t => decide (t.name.lower = name.lower) &&
      decide (t.categoryId = category.map TagCategory.id) &&
      excludeId.all fun id => decide (t.id ≠ id) then
    let place := match category with
      | some category => "category '" ++ category.name.text ++ "'"
      | none => "the standalone tags"
    .error (duplicate ("A tag named '" ++ name.text ++ "' already exists in " ++ place))
  else .ok ()

/-- The VMs with the tag that carry another tag of the category as well. -/
def clashes (tag : Tag) (categoryId : String) : List String :=
  ((s.vmTags.filter fun mine => decide (mine.2 = tag.id) && s.tags.any fun other =>
    decide (other.categoryId = some categoryId) && decide (other.id ≠ tag.id) &&
      decide (s.Carries mine.1 other.id)).map Prod.fst).dedup

/-- The last check of `update_tag`: no VM would end with two tags of the category. -/
def requireNoClash (tag : Tag) (category : Option TagCategory) : Except Raised Unit :=
  match category with
  | some category =>
    if some category.id ≠ tag.categoryId ∧ clashes s tag category.id ≠ [] then
      let count := (clashes s tag category.id).length
      .error (tagConflict (toString count ++ " VM(s) with tag '" ++ tag.name.text ++
        "' already have a tag of category '" ++ category.name.text ++
        "' - a VM holds one tag per category"))
    else .ok ()
  | none => .ok ()

/-- The loop of `set_vm_tags` over the categories of the tags. -/
def requireOnePerCategory (tags : List Tag) : Except Raised Unit :=
  match tags.find? fun t => t.categoryId.isSome &&
      decide (1 < (tags.filter fun u => decide (u.categoryId = t.categoryId)).length) with
  | none => .ok ()
  | some t => do
    let category ← getCategory s (t.categoryId.getD "")
    let group := tags.filter fun u => decide (u.categoryId = t.categoryId)
    let names := (group.map fun u => u.name.text).mergeSort fun a b => decide (a ≤ b)
    .error (tagConflict ("A VM holds one tag per category - pick one of " ++
      ", ".intercalate names ++ " (category '" ++ category.name.text ++ "')"))

end Checks

/-! ## Requests -/

/-- The requests of the catalog. A new row brings its identifier. -/
inductive CatalogRequest where
  | createCategory (newId name : String)
  | renameCategory (id name : String)
  | deleteCategory (id : String)
  | createTag (newId name : String) (categoryId : Option String) (color : String)
  | updateTag (id : String) (name : Option String) (categoryId : Option String)
      (categoryGiven : Bool) (color : Option String)
  | deleteTag (id : String)
  | setVmTags (vmId : String) (tagIds : List String)

/-- `check(value) if value is not None else old`. -/
def checkedOr {α : Type} (check : String → Except Raised α) (old : α) :
    Option String → Except Raised α
  | some value => check value
  | none => .ok old

/-- A column that is written when it changes. -/
def changed {α : Type} [DecidableEq α] (old new : α) : Option α :=
  if old = new then none else some new

section Requests

variable (py : PyStd) (s : Catalog)

/-- `db.get(Tag, id)` of the route. -/
def getTag (id : String) : Except Raised Tag :=
  match Table.lookup Tag.id id s.tags with
  | some tag => .ok tag
  | none => .error (notFound "Tag")

/-- `create_category`. -/
def createCategory (newId name : String) : Except Raised CatalogWrite := do
  let name ← checkTagName py "Category" name
  requireUniqueCategory s name none
  pure (.insertCategory { id := newId, name })

/-- `rename_category`. -/
def renameCategory (id name : String) : Except Raised CatalogWrite := do
  let category ← getCategory s id
  let name ← checkTagName py "Category" name
  requireUniqueCategory s name (some category.id)
  pure (.updateCategory category.id name)

/-- `delete_category`. -/
def deleteCategory (id : String) : Except Raised CatalogWrite := do
  let category ← getCategory s id
  pure (.deleteCategory category.id)

/-- `create_tag`. -/
def createTag (newId name : String) (categoryId : Option String) (color : String) :
    Except Raised CatalogWrite := do
  let name ← checkTagName py "Tag" name
  let color ← checkTagColor color
  let category ← categoryOf s categoryId
  requireUniqueTag s name category none
  pure (.insertTag { id := newId, categoryId := category.map TagCategory.id, name, color })

/-- `update_tag`. -/
def updateTag (id : String) (name : Option String) (categoryId : Option String)
    (categoryGiven : Bool) (color : Option String) : Except Raised CatalogWrite := do
  let tag ← getTag s id
  let newName ← checkedOr (checkTagName py "Tag") tag.name name
  let newColor ← checkedOr checkTagColor tag.color color
  let category ← categoryOf s (if categoryGiven then categoryId else tag.categoryId)
  requireUniqueTag s newName category (some tag.id)
  requireNoClash s tag category
  pure (.updateTag tag.id (changed tag.name newName) (changed tag.color newColor)
    (changed tag.categoryId (category.map TagCategory.id)))

/-- `delete_tag`. -/
def deleteTag (id : String) : Except Raised CatalogWrite := do
  let tag ← getTag s id
  pure (.deleteTag tag.id)

/-- `set_vm_tags`. -/
def setVmTags (vmId : String) (tagIds : List String) : Except Raised CatalogWrite := do
  if vmId ∈ s.vms then
    let wanted := tagIds.dedup
    let tags := s.tags.filter fun t => decide (t.id ∈ wanted)
    if tags.length ≠ wanted.length then .error (notFound "Tag")
    else
      requireOnePerCategory s tags
      let current := (s.vmTags.filter fun r => decide (r.1 = vmId)).map Prod.snd
      let new := tags.map Tag.id
      pure (.setTags vmId (current.filter fun t => decide (t ∉ new))
        (new.filter fun t => decide (t ∉ current)))
  else .error (notFound "VM")

/-- What a request reads and checks, up to its write. -/
def CatalogRequest.plan : CatalogRequest → Except Raised CatalogWrite
  | .createCategory newId name => OpenVCenter.createCategory py s newId name
  | .renameCategory id name => OpenVCenter.renameCategory py s id name
  | .deleteCategory id => OpenVCenter.deleteCategory s id
  | .createTag newId name categoryId color => OpenVCenter.createTag py s newId name categoryId color
  | .updateTag id name categoryId categoryGiven color =>
    OpenVCenter.updateTag py s id name categoryId categoryGiven color
  | .deleteTag id => OpenVCenter.deleteTag s id
  | .setVmTags vmId tagIds => OpenVCenter.setVmTags s vmId tagIds

end Requests

/-- The flush: the keys and the unique indexes. -/
def flushCatalog : Prog Catalog Raised Unit := do
  let s ← Prog.read
  if s.Keyed ∧ s.UniqueNames then pure () else Prog.raise .integrityError

/-- **A request**, with nothing in between: the checks, the write, and the flush, undone by a
raise. -/
def CatalogRequest.serve (py : PyStd) (r : CatalogRequest) : Prog Catalog Raised Unit :=
  Prog.transact (fun old _ => old) flushCatalog do
    let s ← Prog.read
    let write ← Prog.ofExcept (r.plan py s)
    Prog.modify write.apply

end OpenVCenter
