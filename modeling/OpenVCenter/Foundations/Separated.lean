import Mathlib.Data.List.Basic

set_option relaxedAutoImplicit false
set_option autoImplicit false

/-!
# Separated lists

Words written one after the other with a separator between them, and read back by splitting at the
separator. A word that has the separator in it is read as several; the reader never sees it whole.

## Main results

* `Separated.splitOn_intercalate` — reading what was written reads each word on its own.
* `Separated.mem_splitOn_self` — the words that are read back as they are.
* `Separated.append_sep_inj` — two parts, of which the last has no separator, can be told.
* `Separated.mem_splitOn_intercalate_iff` — when reading neither invents nor loses a word.
* `Separated.words_intercalate` — the non-empty words between separators of several kinds.
-/

namespace Separated

universe u

section Written

variable {α : Type u} [BEq α] [LawfulBEq α] {sep : α} {word : List α} {words : List (List α)}

/-- No word that is read has the separator. -/
theorem not_mem_of_mem_splitOn {text : List α} (h : word ∈ text.splitOn sep) : sep ∉ word := by
  induction text generalizing word with
  | nil =>
    rw [List.splitOn_nil, List.mem_singleton] at h
    rw [h]
    exact List.not_mem_nil
  | cons c text ih =>
    rw [List.splitOn_cons_eq_if_modifyHead] at h
    split_ifs at h with hc
    · rcases List.mem_cons.mp h with h | h
      · rw [h]
        exact List.not_mem_nil
      · exact ih h
    · obtain ⟨first, rest, hsplit⟩ := List.exists_cons_of_ne_nil (List.splitOn_ne_nil sep text)
      rw [hsplit, List.modifyHead_cons] at h
      rw [hsplit] at ih
      rcases List.mem_cons.mp h with h | h
      · rw [h, List.mem_cons, not_or]
        refine ⟨?_, ih List.mem_cons_self⟩
        rintro rfl
        exact hc (beq_self_eq_true sep)
      · exact ih (List.mem_cons_of_mem _ h)

/-- The words that are read back as they are. -/
theorem mem_splitOn_self : word ∈ word.splitOn sep ↔ sep ∉ word := by
  constructor
  · exact not_mem_of_mem_splitOn
  · intro h
    rw [List.splitOn_eq_singleton h]
    exact List.mem_singleton_self word

/-- **Reading what was written** reads each word on its own. -/
theorem splitOn_intercalate (h : words ≠ []) :
    ([sep].intercalate words).splitOn sep = words.flatMap fun w => w.splitOn sep := by
  induction words with
  | nil => exact absurd rfl h
  | cons w words ih =>
    rcases words with _ | ⟨v, words⟩
    · rw [List.intercalate_singleton, List.flatMap_singleton]
    · calc ([sep].intercalate (w :: v :: words)).splitOn sep
          = (w ++ sep :: [sep].intercalate (v :: words)).splitOn sep := by
            rw [List.intercalate_cons_cons, List.append_assoc, List.singleton_append]
        _ = w.splitOn sep ++ ([sep].intercalate (v :: words)).splitOn sep :=
            List.splitOn_append_cons_self _ _
        _ = (w :: v :: words).flatMap fun w => w.splitOn sep := by
            rw [ih (List.cons_ne_nil v words), ← List.flatMap_cons]

omit [BEq α] [LawfulBEq α] in
/-- The empty text is written for no word and for one empty word. -/
theorem intercalate_eq_nil : [sep].intercalate words = [] ↔ words = [] ∨ words = [[]] := by
  rcases words with _ | ⟨w, _ | ⟨v, words⟩⟩
  · simp
  · simp
  · simp [List.intercalate_cons_cons]

omit [BEq α] [LawfulBEq α] in
/-- The last of two parts has no separator: the parts can be told. -/
theorem append_sep_inj {before before' last last' : List α} (h : sep ∉ last) (h' : sep ∉ last') :
    before ++ sep :: last = before' ++ sep :: last' ↔ before = before' ∧ last = last' := by
  constructor
  · intro heq
    rcases List.append_eq_append_iff.mp heq with ⟨more, rfl, hmore⟩ | ⟨more, rfl, hmore⟩
    · cases more with
      | nil => simpa using hmore
      | cons c more =>
        rw [List.cons_append, List.cons.injEq] at hmore
        exact absurd (hmore.2 ▸ List.mem_append_right _ List.mem_cons_self) h
    · cases more with
      | nil => simpa [eq_comm] using hmore
      | cons c more =>
        rw [List.cons_append, List.cons.injEq] at hmore
        exact absurd (hmore.2 ▸ List.mem_append_right _ List.mem_cons_self) h'
  · rintro ⟨rfl, rfl⟩
    rfl

/-- **Reading neither invents nor loses a word** exactly when a written word has no separator in it,
and one that was not written is no part of another. -/
theorem mem_splitOn_intercalate_iff (h : words ≠ []) :
    (word ∈ ([sep].intercalate words).splitOn sep ↔ word ∈ words) ↔
      if word ∈ words then sep ∉ word else ∀ w ∈ words, word ∉ w.splitOn sep := by
  rw [splitOn_intercalate h]
  split_ifs with hword
  · rw [iff_true_right hword, List.mem_flatMap]
    constructor
    · rintro ⟨w, -, hw⟩
      exact not_mem_of_mem_splitOn hw
    · exact fun hsep => ⟨word, hword, mem_splitOn_self.mpr hsep⟩
  · rw [iff_false_right hword, List.mem_flatMap]
    simp only [not_exists, not_and]

end Written

/-! ## Words between separators of several kinds -/

section Words

variable {β : Type u} {p : β → Bool} {c : β} {text : List β}

/-- The non-empty words between the separators. -/
def words (p : β → Bool) (text : List β) : List (List β) :=
  (text.splitOnP p).filter fun w => !w.isEmpty

/-- An empty text has no words. -/
@[simp] theorem words_nil : words p [] = [] := rfl

/-- The words before a separator and those behind it. -/
theorem words_append_cons (before : List β) (hc : p c = true) :
    words p (before ++ c :: text) = words p before ++ words p text := by
  rw [words, List.splitOnP_append_cons _ _ hc, List.filter_append]
  rfl

/-- A separator at the front adds no word. -/
theorem words_sep_cons (hc : p c = true) : words p (c :: text) = words p text :=
  words_append_cons [] hc

/-- A text without separators is one word. -/
theorem words_eq_singleton (h : ∀ c ∈ text, p c = false) (hne : text ≠ []) :
    words p text = [text] := by
  rw [words, List.splitOnP_eq_singleton h]
  simp [hne]

/-- No piece has a separator. -/
theorem not_sep_of_mem_splitOnP {word : List β} (h : word ∈ text.splitOnP p) :
    ∀ c ∈ word, p c = false := by
  induction text generalizing word with
  | nil =>
    rw [List.splitOnP_nil, List.mem_singleton] at h
    rw [h]
    exact fun c hc => absurd hc List.not_mem_nil
  | cons c text ih =>
    rw [List.splitOnP_cons_eq_if_modifyHead] at h
    obtain ⟨first, rest, hsplit⟩ := List.exists_cons_of_ne_nil (List.splitOnP_ne_nil p text)
    rw [hsplit] at h ih
    split_ifs at h with hc
    · rcases List.mem_cons.mp h with rfl | h
      · exact fun c hc => absurd hc List.not_mem_nil
      · exact ih h
    · rw [List.modifyHead_cons] at h
      rcases List.mem_cons.mp h with rfl | h
      · refine List.forall_mem_cons.mpr ⟨?_, ih List.mem_cons_self⟩
        exact Bool.eq_false_iff.mpr hc
      · exact ih (List.mem_cons_of_mem _ h)

/-- No word has a separator. -/
theorem not_sep_of_mem_words {word : List β} (h : word ∈ words p text) :
    ∀ c ∈ word, p c = false :=
  not_sep_of_mem_splitOnP (List.mem_filter.mp h).1

/-- Every character is a word of its own only when there is one at most, and that no separator. -/
theorem words_eq_map_singleton_iff :
    words p text = text.map (fun c => [c]) ↔ text = [] ∨ ∃ c, text = [c] ∧ p c = false := by
  constructor
  · intro h
    have hplain : ∀ c ∈ text, p c = false := by
      intro c hc
      have hword : [c] ∈ words p text := h ▸ List.mem_map_of_mem hc
      exact not_sep_of_mem_words hword c List.mem_cons_self
    rcases text with _ | ⟨c, text⟩
    · exact Or.inl rfl
    · rw [words_eq_singleton hplain (List.cons_ne_nil c text)] at h
      have hlength := congrArg List.length h
      rw [List.length_map, List.length_singleton, List.length_cons] at hlength
      obtain rfl : text = [] := List.length_eq_zero_iff.mp (by omega)
      exact Or.inr ⟨c, rfl, hplain c List.mem_cons_self⟩
  · rintro (rfl | ⟨c, rfl, hc⟩)
    · rfl
    · exact words_eq_singleton (by simpa using hc) (List.cons_ne_nil c [])

/-- Separators at the front add no word. -/
theorem words_sep_append {sep : List β} (hsep : ∀ c ∈ sep, p c = true) :
    words p (sep ++ text) = words p text := by
  induction sep with
  | nil => rfl
  | cons c sep ih =>
    obtain ⟨hc, hsep⟩ := List.forall_mem_cons.mp hsep
    rw [List.cons_append, words_sep_cons hc, ih hsep]

/-- **Reading what was written**, whatever separators stand between the words. -/
theorem words_intercalate {sep : List β} {written : List (List β)} (hne : sep ≠ [])
    (hsep : ∀ c ∈ sep, p c = true) (hwords : ∀ w ∈ written, w ≠ [] ∧ ∀ c ∈ w, p c = false) :
    words p (sep.intercalate written) = written := by
  induction written with
  | nil => rfl
  | cons w rest ih =>
    obtain ⟨⟨hw, hplain⟩, hrest⟩ := List.forall_mem_cons.mp hwords
    rcases rest with _ | ⟨v, rest⟩
    · rw [List.intercalate_singleton, words_eq_singleton hplain hw]
    · obtain ⟨c, sep', rfl⟩ := List.exists_cons_of_ne_nil hne
      obtain ⟨hc, hsep'⟩ := List.forall_mem_cons.mp hsep
      rw [List.intercalate_cons_cons, List.append_assoc, List.cons_append,
        words_append_cons _ hc, words_sep_append hsep', ih hrest, words_eq_singleton hplain hw,
        List.singleton_append]

end Words

end Separated
