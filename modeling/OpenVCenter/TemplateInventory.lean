import OpenVCenter.System
import OpenVCenter.WorkerFrames

set_option relaxedAutoImplicit false
set_option autoImplicit false

/-!
# Replacing the templates of a host

A template inventory deletes the templates of its host and adds one row per item, under the item's
own key. The delete leaves the rows of other hosts and the key is global: the replacement goes
through exactly when every item makes a row that fits, under a key no other host holds.

## Main definitions

* `OpenVCenter.TemplateReport` — a payload whose items carry pairwise distinct keys.
* `OpenVCenter.TemplateOf` — the row an item makes.

## Main results

* `OpenVCenter.addTemplates_eq_ok` — the loop over the items.
* `OpenVCenter.templates_replaced_iff` — when the handler completes with one row per item.
-/

namespace OpenVCenter

open Effect

variable {env : Env} {hostId : String}

/-- A payload whose items are objects with pairwise distinct keys. -/
structure TemplateReport where
  payload : Dict
  items : List Dict
  listed : (payload.getD "items" (.arr [])).iterate = .ok (items.map .obj)
  identified : ∀ item ∈ items, (item.get "id").truthy = true
  distinct : items.Pairwise fun a b => a.get "id" ≠ b.get "id"

/-- The row an item makes under its own key. -/
def TemplateOf (env : Env) (hostId : String) (item : Dict) (row : Template) : Prop :=
  item.get "id" = .str row.id ∧ templateRow env row.id hostId item = .ok row

/-- The world with further templates. -/
def withTemplates (w : World) (rows : List Template) : World :=
  { w with db := { w.db with templates := w.db.templates ++ rows } }

/-! ## The loop -/

/-- A template is added exactly if its row can be made. -/
lemma addTemplate_eq_ok {item : Dict} (hid : (item.get "id").truthy = true) {w t : World} :
    addTemplate env hostId (.obj item) w = (.ok (), t) ↔
      ∃ row, TemplateOf env hostId item row ∧ t = withTemplates w [row] := by
  have hrun : addTemplate env hostId (.obj item) w = (do
      let id ← templateId env item
      let row ← Prog.ofExcept (templateRow env id hostId item)
      modifyDb fun db => { db with templates := db.templates ++ [row] }) w := rfl
  rw [hrun]
  unfold templateId
  rw [if_pos hid]
  constructor
  · intro h
    obtain ⟨id, w₁, hkey, h⟩ := Prog.bind_eq_ok.mp h
    obtain ⟨row, w₂, hconv, hadd⟩ := Prog.bind_eq_ok.mp h
    obtain ⟨hrow, rfl⟩ := Prog.ofExcept_eq_ok.mp hconv
    cases hjson : item.get "id" with
    | str s =>
      rw [hjson] at hkey
      cases hkey
      cases hadd
      obtain ⟨rfl, -⟩ := templateRow_hostId hrow
      exact ⟨row, ⟨hjson, hrow⟩, rfl⟩
    | null | bool _ | int _ | float _ | arr _ | obj _ =>
      rw [hjson] at hkey
      cases hkey
  · rintro ⟨row, ⟨hkey, hrow⟩, rfl⟩
    rw [hkey]
    exact Prog.bind_eq_ok.mpr ⟨row.id, w, rfl, Prog.bind_eq_ok.mpr
      ⟨row, w, Prog.ofExcept_eq_ok.mpr ⟨hrow, rfl⟩, rfl⟩⟩

/-- The loop returns exactly when every item makes a row, and adds these rows. -/
theorem addTemplates_eq_ok {items : List Dict}
    (hid : ∀ item ∈ items, (item.get "id").truthy = true) {w t : World} :
    (items.map Json.obj).foldlM (fun _ raw => addTemplate env hostId raw) () w = (.ok (), t) ↔
      ∃ rows, List.Forall₂ (TemplateOf env hostId) items rows ∧ t = withTemplates w rows := by
  induction items generalizing w with
  | nil =>
    constructor
    · intro h
      cases h
      exact ⟨[], .nil, by simp [withTemplates]⟩
    · rintro ⟨rows, hrows, rfl⟩
      cases hrows
      simp [withTemplates]
  | cons item items ih =>
    have hhead := hid item List.mem_cons_self
    have htail : ∀ x ∈ items, (x.get "id").truthy = true :=
      fun x hx => hid x (List.mem_cons_of_mem _ hx)
    rw [List.map_cons, List.foldlM_cons, Prog.bind_eq_ok]
    constructor
    · rintro ⟨⟨⟩, w₁, hadd, hrest⟩
      obtain ⟨row, hrow, rfl⟩ := (addTemplate_eq_ok hhead).mp hadd
      obtain ⟨rows, hrows, rfl⟩ := (ih htail).mp hrest
      exact ⟨row :: rows, .cons hrow hrows, by simp [withTemplates]⟩
    · rintro ⟨rows, hrows, rfl⟩
      obtain ⟨row, rest, hrow, hrest, rfl⟩ := List.forall₂_cons_left_iff.mp hrows
      refine ⟨(), withTemplates w [row], (addTemplate_eq_ok hhead).mpr ⟨row, hrow, rfl⟩, ?_⟩
      exact (ih htail).mpr ⟨rest, hrest, by simp [withTemplates]⟩

/-! ## The constraints -/

/-- The templates of the other hosts. -/
def Db.otherTemplates (db : Db) (hostId : String) : List Template :=
  Table.deleteWhere (fun t => decide (t.hostId = hostId)) db.templates

/-- The templates of a host. -/
def Db.templatesOf (db : Db) (hostId : String) : List Template :=
  db.templates.filter fun t => decide (t.hostId = hostId)

/-- Its row is of the host. -/
lemma templateOf_hostId {item : Dict} {row : Template} (h : TemplateOf env hostId item row) :
    row.hostId = hostId := (templateRow_hostId h.2).2

/-- Every row of a report comes from one of its items. -/
lemma item_of_row {items : List Dict} {rows : List Template}
    (h : List.Forall₂ (TemplateOf env hostId) items rows) :
    ∀ row ∈ rows, ∃ item ∈ items, TemplateOf env hostId item row := by
  induction h with
  | nil => simp
  | @cons item row items rows hrow hrows ih =>
    intro r hr
    rcases List.mem_cons.mp hr with rfl | hr
    · exact ⟨item, List.mem_cons_self, hrow⟩
    · obtain ⟨other, hother, hof⟩ := ih r hr
      exact ⟨other, List.mem_cons_of_mem _ hother, hof⟩

/-- Every item of a report makes one of its rows. -/
lemma row_of_item {items : List Dict} {rows : List Template}
    (h : List.Forall₂ (TemplateOf env hostId) items rows) :
    ∀ item ∈ items, ∃ row ∈ rows, TemplateOf env hostId item row := by
  induction h with
  | nil => simp
  | @cons item row items rows hrow hrows ih =>
    intro x hx
    rcases List.mem_cons.mp hx with rfl | hx
    · exact ⟨row, List.mem_cons_self, hrow⟩
    · obtain ⟨other, hother, hof⟩ := ih x hx
      exact ⟨other, List.mem_cons_of_mem _ hother, hof⟩

/-- Items that make rows each make a list of them. -/
lemma rows_exist {P : Template → Prop} {items : List Dict}
    (h : ∀ item ∈ items, ∃ row, TemplateOf env hostId item row ∧ P row) :
    ∃ rows, List.Forall₂ (TemplateOf env hostId) items rows ∧ ∀ row ∈ rows, P row := by
  induction items with
  | nil => exact ⟨[], .nil, by simp⟩
  | cons item items ih =>
    obtain ⟨row, hrow, hP⟩ := h item List.mem_cons_self
    obtain ⟨rows, hrows, hPs⟩ := ih fun x hx => h x (List.mem_cons_of_mem _ hx)
    exact ⟨row :: rows, .cons hrow hrows, List.forall_mem_cons.mpr ⟨hP, hPs⟩⟩

/-- The rows of a report have distinct keys. -/
lemma rows_nodup {items : List Dict} {rows : List Template}
    (h : List.Forall₂ (TemplateOf env hostId) items rows)
    (hdistinct : items.Pairwise fun a b => a.get "id" ≠ b.get "id") :
    (rows.map Template.id).Nodup := by
  induction h with
  | nil => exact List.nodup_nil
  | @cons item row items rows hrow hrows ih =>
    obtain ⟨hhead, htail⟩ := List.pairwise_cons.mp hdistinct
    refine List.nodup_cons.mpr ⟨fun hmem => ?_, ih htail⟩
    obtain ⟨r, hr, hid⟩ := List.mem_map.mp hmem
    obtain ⟨other, hother, hof⟩ := item_of_row hrows r hr
    exact hhead other hother (by rw [hrow.1, hof.1, hid])

/-- The templates of a host after their replacement. -/
lemma templatesOf_replaced {db : Db} {rows : List Template}
    (hrows : ∀ row ∈ rows, row.hostId = hostId) :
    { db with templates := db.otherTemplates hostId ++ rows }.templatesOf hostId = rows := by
  have hkept : (db.otherTemplates hostId).filter (fun t => decide (t.hostId = hostId)) = [] := by
    refine List.filter_eq_nil_iff.mpr fun t ht => ?_
    obtain ⟨-, hne⟩ := Table.mem_deleteWhere.mp ht
    simpa using hne
  have hnew : rows.filter (fun t => decide (t.hostId = hostId)) = rows :=
    List.filter_eq_self.mpr fun row hrow => by simpa using hrows row hrow
  unfold Db.templatesOf
  rw [List.filter_append, hkept, hnew, List.nil_append]

/-- The replaced table passes a flush exactly when the new rows fit and no other host holds one of
their keys. -/
lemma replaced_consistent_iff {db : Db} (hc : db.Consistent) {host : Host}
    (hhost : host ∈ db.hosts) {rows : List Template} (hrows : ∀ row ∈ rows, row.hostId = host.id)
    (hnodup : (rows.map Template.id).Nodup) :
    { db with templates := db.otherTemplates host.id ++ rows }.Consistent ↔
      ∀ row ∈ rows, row.bindable = true ∧
        ∀ t ∈ db.templates, t.id = row.id → t.hostId = host.id := by
  have hother : ∀ t ∈ db.otherTemplates host.id, t ∈ db.templates ∧ t.hostId ≠ host.id := by
    intro t ht
    obtain ⟨hmem, hne⟩ := Table.mem_deleteWhere.mp ht
    exact ⟨hmem, by simpa using hne⟩
  constructor
  · intro hc' row hrow
    refine ⟨hc'.template_bindable (List.mem_append_right _ hrow), fun t ht hid => ?_⟩
    by_contra hne
    have hkeys := hc'.keyed.templateIds
    rw [List.map_append] at hkeys
    have hleft : t.id ∈ (db.otherTemplates host.id).map Template.id :=
      List.mem_map_of_mem (Table.mem_deleteWhere.mpr ⟨ht, by simpa using hne⟩)
    exact (List.nodup_append.mp hkeys).2.2 _ hleft _ (List.mem_map_of_mem hrow) hid
  · intro hfit
    refine hc.with_templates ?_ (fun t ht => ?_) fun t ht => ?_
    · rw [List.map_append]
      refine List.nodup_append.mpr ⟨?_, hnodup, fun a ha b hb hab => ?_⟩
      · exact hc.keyed.templateIds.sublist ((Table.deleteWhere_sublist _ _).map _)
      · obtain ⟨t, ht, rfl⟩ := List.mem_map.mp ha
        obtain ⟨row, hrow, rfl⟩ := List.mem_map.mp hb
        exact (hother t ht).2 ((hfit row hrow).2 t (hother t ht).1 hab)
    · rcases List.mem_append.mp ht with ht | ht
      · exact hc.keyed.templateHost t (hother t ht).1
      · rw [hrows t ht]
        exact List.mem_map_of_mem hhost
    · rcases List.mem_append.mp ht with ht | ht
      · exact hc.template_bindable (hother t ht).1
      · exact (hfit t ht).1

/-! ## The handler -/

/-- The handler completes, and the templates of the host are the rows of the items, one each. -/
def TemplatesReplaced (env : Env) (w : World) (hostId : String) (report : TemplateReport) : Prop :=
  ∃ t, sessionScope (applyTemplateInventory env hostId (.obj report.payload)) w = (.ok (), t) ∧
    List.Forall₂ (TemplateOf env hostId) report.items (t.db.templatesOf hostId)

/-- A report replaces the rows of its host by its own. -/
lemma applyTemplateInventory_eq_ok {report : TemplateReport} {w t : World} :
    applyTemplateInventory env hostId (.obj report.payload) w = (.ok (), t) ↔
      ∃ rows, List.Forall₂ (TemplateOf env hostId) report.items rows ∧
        t = { w with db := { w.db with templates := w.db.otherTemplates hostId ++ rows } } := by
  have hrun : applyTemplateInventory env hostId (.obj report.payload) w =
      (Prog.ofExcept (report.payload.getD "items" (.arr [])).iterate >>= fun items =>
        items.foldlM (fun _ raw => addTemplate env hostId raw) ())
        { w with db := { w.db with templates := w.db.otherTemplates hostId } } := rfl
  rw [hrun, report.listed, Prog.ofExcept_ok, Prog.pure_bind_run,
    addTemplates_eq_ok report.identified]
  rfl

/-- **A template inventory of distinct keys goes through, with one row per item**, exactly when each
item has a string for its key, makes a row that fits its columns, and no other host holds its
key. -/
theorem templates_replaced_iff (env : Env) (s : Committed) (host : Host) (report : TemplateReport)
    (hhost : host ∈ s.world.db.hosts) :
    TemplatesReplaced env s.world host.id report ↔
      ∀ item ∈ report.items, ∃ row, TemplateOf env host.id item row ∧ row.bindable = true ∧
        ∀ t ∈ s.world.db.templates, t.id = row.id → t.hostId = host.id := by
  have hmade : ∀ {rows}, List.Forall₂ (TemplateOf env host.id) report.items rows →
      ∀ row ∈ rows, row.hostId = host.id := fun hrows row hrow => by
    obtain ⟨item, -, hof⟩ := item_of_row hrows row hrow
    exact templateOf_hostId hof
  constructor
  · rintro ⟨t, hrun, -⟩ item hitem
    obtain ⟨hbody, hc⟩ := savepoint_eq_ok.mp hrun
    obtain ⟨rows, hrows, rfl⟩ := applyTemplateInventory_eq_ok.mp hbody
    obtain ⟨row, hrow, hof⟩ := row_of_item hrows item hitem
    exact ⟨row, hof, (replaced_consistent_iff s.consistent hhost (hmade hrows)
      (rows_nodup hrows report.distinct)).mp hc row hrow⟩
  · intro hitems
    obtain ⟨rows, hrows, hfit⟩ := rows_exist hitems
    refine ⟨_, savepoint_eq_ok.mpr ⟨applyTemplateInventory_eq_ok.mpr ⟨rows, hrows, rfl⟩, ?_⟩, ?_⟩
    · exact (replaced_consistent_iff s.consistent hhost (hmade hrows)
        (rows_nodup hrows report.distinct)).mpr hfit
    · rw [templatesOf_replaced (hmade hrows)]
      exact hrows

/-- A template of nothing but its key. -/
def Demo.template (hostId id : String) : Template where
  id := id
  hostId := hostId
  name := .str ""
  path := .str ""
  sizeBytes := 0
  diskSizeBytes := 0
  notes := .null
  cpuCount := 0
  memoryMb := 0
  guestOs := .null
  imageCreatedAt := none

/-- The host `"h"`, and a host `"k"` that holds the template `"a"`. -/
def Demo.shared : Committed where
  world := { now := 0, txStart := 0, db := {
    hosts := [Demo.host, { id := "k", shortId := "r", name := "other" }]
    templates := [Demo.template "k" "a"] } }
  consistent := by decide

/-- A report of one template, by its key. -/
def Demo.templateReport (id : String) (h : id.isEmpty = false) : TemplateReport where
  payload := [("items", .arr [.obj [("id", .str id)]])]
  items := [[("id", .str id)]]
  listed := rfl
  identified := by simp [Dict.get, Dict.getD, Json.truthy, h]
  distinct := List.pairwise_singleton _ _

/-- A report of two templates, the first with a name. -/
def Demo.templatePair : TemplateReport where
  payload := [("items", .arr [.obj [("id", .str "b"), ("name", .str "base")],
    .obj [("id", .str "c")]])]
  items := [[("id", .str "b"), ("name", .str "base")], [("id", .str "c")]]
  listed := rfl
  identified := by decide
  distinct := List.pairwise_pair.mpr (by simp [Dict.get, Dict.getD])

/-- The host `"h"` reports two templates, and `"k"` holds another. -/
theorem templates_replaced_own_keys :
    TemplatesReplaced Demo.settings Demo.shared.world "h" Demo.templatePair := by
  refine (templates_replaced_iff Demo.settings Demo.shared Demo.host _ List.mem_cons_self).mpr ?_
  have hfree : ∀ t ∈ Demo.shared.world.db.templates, t.id ≠ "b" ∧ t.id ≠ "c" := by decide
  intro item hitem
  rcases List.mem_pair.mp hitem with rfl | rfl
  · exact ⟨{ Demo.template "h" "b" with name := .str "base" }, ⟨rfl, rfl⟩, by decide +kernel,
      fun t ht hid => absurd hid (hfree t ht).1⟩
  · exact ⟨Demo.template "h" "c", ⟨rfl, rfl⟩, by decide +kernel,
      fun t ht hid => absurd hid (hfree t ht).2⟩

/-- The host `"h"` reports the template that `"k"` holds. -/
theorem templates_replaced_counterexample :
    ¬ ∀ (env : Env) (s : Committed) (host : Host) (report : TemplateReport),
      host ∈ s.world.db.hosts → TemplatesReplaced env s.world host.id report := by
  intro h
  obtain ⟨t, hrun, -⟩ := h Demo.settings Demo.shared Demo.host (Demo.templateReport "a" rfl)
    List.mem_cons_self
  have hraises : (sessionScope (applyTemplateInventory Demo.settings Demo.host.id
      (.obj (Demo.templateReport "a" rfl).payload)) Demo.shared.world).1.toOption.isNone := by
    decide +kernel
  rw [hrun] at hraises
  cases hraises

end OpenVCenter
