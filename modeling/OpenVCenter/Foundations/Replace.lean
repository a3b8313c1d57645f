import OpenVCenter.Foundations.Merge

set_option relaxedAutoImplicit false
set_option autoImplicit false

/-!
# Collections replaced wholesale by two writers

A collection is a table of rows with surrogate keys. A writer loads the keys that are there, and
later commits: it deletes the rows it loaded, a row that is gone already not counting, and
inserts a row under a fresh key for each element of its own list. Two writers may overlap.

## Main definitions

* `Replace.Rows` — a table whose keys are below the next fresh one.
* `Replace.Rows.replace` — the commit of a writer.
* `Replace.Op`, `Replace.Cell`, `Replace.Cell.step` — the steps of two writers of one table.

## Main results

* `Replace.Cell.contents_run` — what two writers leave behind, by the order of their steps.
* `Replace.Cell.replaced_iff` — it is one writer's list exactly when the writers do not overlap
  or one of the lists is empty.
-/

universe u

namespace Replace

/-! ## Tables -/

/-- The rows of a collection under their surrogate keys; the keys from `next` on are fresh. -/
structure Rows (α : Type u) where
  rows : List (ℕ × α)
  next : ℕ
  fresh : ∀ r ∈ rows, r.1 < next

namespace Rows

variable {α : Type u}

/-- The keys that are taken. -/
def keys (c : Rows α) : List ℕ := c.rows.map Prod.fst

/-- The elements, without their keys. -/
def contents (c : Rows α) : List α := c.rows.map Prod.snd

/-- The rows inserted for a list. -/
def inserted (next : ℕ) (new : List α) : List (ℕ × α) :=
  new.zipIdx.map fun e => (next + e.2, e.1)

/-- The keys of inserted rows are the next ones. -/
lemma mem_inserted {next : ℕ} {new : List α} {r : ℕ × α} (h : r ∈ inserted next new) :
    next ≤ r.1 ∧ r.1 < next + new.length := by
  obtain ⟨e, he, rfl⟩ := List.mem_map.mp h
  have hlt := List.snd_lt_of_mem_zipIdx he
  constructor
  · exact Nat.le_add_right _ _
  · omega

/-- The inserted rows are the new ones. -/
@[simp] lemma map_snd_inserted (next : ℕ) (new : List α) :
    (inserted next new).map Prod.snd = new := by
  simp only [inserted, List.map_map]
  exact List.zipIdx_map_fst 0 new

/-- Delete the rows of the keys `loaded`, and insert one for each element of `new`. -/
def replace (loaded : List ℕ) (new : List α) (c : Rows α) : Rows α where
  rows := c.rows.filter (fun r => decide (r.1 ∉ loaded)) ++ inserted c.next new
  next := c.next + new.length
  fresh r hr := by
    rcases List.mem_append.mp hr with h | h
    · have hlt := c.fresh r (List.mem_of_mem_filter h)
      omega
    · exact (mem_inserted h).2

variable {loaded : List ℕ} {new : List α} {c : Rows α}

/-- The rows after a replacement. -/
lemma rows_replace_eq : (c.replace loaded new).rows =
    c.rows.filter (fun r => decide (r.1 ∉ loaded)) ++ inserted c.next new := rfl

/-- A writer that has loaded every row leaves no row but its own. -/
lemma rows_replace (h : ∀ k ∈ c.keys, k ∈ loaded) :
    (c.replace loaded new).rows = inserted c.next new := by
  have hgone : c.rows.filter (fun r => decide (r.1 ∉ loaded)) = [] := by
    rw [List.filter_eq_nil_iff]
    intro r hr
    have hmem := h r.1 (List.mem_map.mpr ⟨r, hr, rfl⟩)
    simp [hmem]
  rw [rows_replace_eq, hgone, List.nil_append]

/-- A replacement of all rows leaves the new ones. -/
theorem contents_replace (h : ∀ k ∈ c.keys, k ∈ loaded) :
    (c.replace loaded new).contents = new := by
  rw [contents, rows_replace h, map_snd_inserted]

/-- Rows inserted after the load stay. -/
theorem contents_replace_replace (h : ∀ k ∈ c.keys, k ∈ loaded) {loaded' : List ℕ}
    (h' : ∀ k ∈ loaded', k < c.next) {new' : List α} :
    ((c.replace loaded new).replace loaded' new').contents = new ++ new' := by
  have hkept : (inserted c.next new).filter (fun r => decide (r.1 ∉ loaded')) =
      inserted c.next new := by
    rw [List.filter_eq_self]
    intro r hr
    have hge := (mem_inserted hr).1
    have hnot : r.1 ∉ loaded' := by
      intro hmem
      have hlt := h' r.1 hmem
      omega
    exact decide_eq_true hnot
  rw [contents, rows_replace_eq, rows_replace h, hkept, List.map_append, map_snd_inserted,
    map_snd_inserted]

/-- Each key has been drawn. -/
lemma lt_next_of_mem_keys {k : ℕ} (h : k ∈ c.keys) : k < c.next := by
  obtain ⟨r, hr, rfl⟩ := List.mem_map.mp h
  exact c.fresh r hr

end Rows

/-! ## Two writers -/

/-- The two writers. -/
inductive Writer where
  | first | second
  deriving DecidableEq

/-- The other writer. -/
def Writer.other : Writer → Writer
  | .first => .second
  | .second => .first

/-- A step of a writer on one table. -/
inductive Op where
  | load (who : Writer)
  | commit (who : Writer)
  deriving DecidableEq

/-- The table, and the keys each writer has loaded. -/
structure Cell (α : Type u) where
  table : Rows α
  loaded : Writer → List ℕ

namespace Cell

variable {α : Type u}

/-- One step, where `written` is what each writer inserts. -/
def step (written : Writer → List α) (s : Cell α) : Op → Cell α
  | .load who => { s with loaded := Function.update s.loaded who s.table.keys }
  | .commit who => { s with table := s.table.replace (s.loaded who) (written who) }

/-- The steps of one writer. -/
def program (who : Writer) : List Op := [.load who, .commit who]

/-- One writer commits before the other loads. -/
def Serial (es : List Op) : Prop :=
  [.commit .first, .load .second].Sublist es ∨ [.commit .second, .load .first].Sublist es

/-- Whether two programs run one after the other can be decided. -/
instance (es : List Op) : Decidable (Serial es) := inferInstanceAs (Decidable (_ ∨ _))

/-- The table holds the elements of `new`, in whatever order. -/
def Holds (s : Cell α) (new : List α) : Prop := s.table.contents.Perm new

variable (written : Writer → List α) {es : List Op}

/-- A writer that loads and commits without the other in between leaves its list behind. -/
lemma contents_alone (s : Cell α) (who : Writer) :
    (Machine.run (step written) s (program who)).table.contents = written who := by
  have hall : ∀ k ∈ s.table.keys, k ∈ Function.update s.loaded who s.table.keys who := by
    intro k hk
    rwa [Function.update_self]
  exact Rows.contents_replace hall

/-- Two writers that both load first have loaded the same rows. -/
lemma loaded_both (s : Cell α) (a who : Writer) :
    (step written (step written s (.load a)) (.load a.other)).loaded who = s.table.keys := by
  cases a <;> cases who <;> rfl

/-- Two writers that both load before either commits leave both lists behind. -/
lemma contents_overlap (s : Cell α) (a c : Writer) :
    (Machine.run (step written) s
      [.load a, .load a.other, .commit c, .commit c.other]).table.contents =
      written c ++ written c.other := by
  have hc := loaded_both written s a c
  have hd := loaded_both written s a c.other
  show ((s.table.replace ((step written (step written s (.load a)) (.load a.other)).loaded c)
    (written c)).replace ((step written (step written s (.load a)) (.load a.other)).loaded
    c.other) (written c.other)).contents = _
  rw [hc, hd]
  exact Rows.contents_replace_replace (fun k hk => hk) fun k hk => Rows.lt_next_of_mem_keys hk

/-- Two writers overlap in one of two ways: both load, then both commit. -/
lemma serial_or_overlap (h : Merge (program .first) (program .second) es) :
    (∃ a, es = program a ++ program a.other) ∨
      ∃ a c, es = [.load a, .load a.other, .commit c, .commit c.other] := by
  unfold program at h
  rcases h with _ | h | h
  · rcases h with _ | h | h
    · cases h with | right h => cases h with | right h => cases h with
      | nil => exact Or.inl ⟨.first, rfl⟩
    · rcases h with _ | h | h
      · cases h with | right h => cases h with
        | nil => exact Or.inr ⟨.first, .first, rfl⟩
      · cases h with | left h => cases h with
        | nil => exact Or.inr ⟨.first, .second, rfl⟩
  · rcases h with _ | h | h
    · rcases h with _ | h | h
      · cases h with | right h => cases h with
        | nil => exact Or.inr ⟨.second, .first, rfl⟩
      · cases h with | left h => cases h with
        | nil => exact Or.inr ⟨.second, .second, rfl⟩
    · cases h with | left h => cases h with | left h => cases h with
      | nil => exact Or.inl ⟨.second, rfl⟩

/-- One program behind the other is serial. -/
lemma serial_append (a : Writer) : Serial (program a ++ program a.other) := by
  cases a <;> decide

/-- Two that both load first are not. -/
lemma not_serial_overlap (a c : Writer) :
    ¬ Serial [.load a, .load a.other, .commit c, .commit c.other] := by
  cases a <;> cases c <;> decide

/-- What two writers leave behind: one list when they do not overlap, both when they do. -/
theorem contents_run (h : Merge (program .first) (program .second) es) (s : Cell α) :
    (Serial es ∧ ∃ a, (Machine.run (step written) s es).table.contents = written a) ∨
      (¬ Serial es ∧ ∃ a, (Machine.run (step written) s es).table.contents =
        written a ++ written a.other) := by
  rcases serial_or_overlap h with ⟨a, rfl⟩ | ⟨a, c, rfl⟩
  · refine Or.inl ⟨serial_append a, a.other, ?_⟩
    rw [Machine.run_append]
    exact contents_alone written _ _
  · exact Or.inr ⟨not_serial_overlap a c, c, contents_overlap written s a c⟩

/-- The table holds one writer's list exactly when the writers do not overlap, or one of them has
nothing to insert. -/
theorem replaced_iff (h : Merge (program .first) (program .second) es) (s : Cell α) :
    (∃ a, (Machine.run (step written) s es).Holds (written a)) ↔
      Serial es ∨ ∃ a, written a = [] := by
  unfold Holds
  rcases contents_run written h s with ⟨hs, a, ha⟩ | ⟨hs, a, ha⟩
  · exact iff_of_true ⟨a, by rw [ha]⟩ (Or.inl hs)
  · rw [ha]
    constructor
    · rintro ⟨b, hb⟩
      have hlen := hb.length_eq
      rw [List.length_append] at hlen
      refine Or.inr ⟨b.other, List.eq_nil_of_length_eq_zero ?_⟩
      cases a <;> cases b <;> simp only [Writer.other] at hlen ⊢ <;> omega
    · rintro (hs' | ⟨b, hb⟩)
      · exact absurd hs' hs
      · refine ⟨b.other, ?_⟩
        cases a <;> cases b <;> simp [Writer.other] at hb ⊢ <;> simp [hb]

end Cell

end Replace
