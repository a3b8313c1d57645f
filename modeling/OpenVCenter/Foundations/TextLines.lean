import Mathlib.Data.List.Basic

set_option relaxedAutoImplicit false
set_option autoImplicit false

/-!
# Lines of a text

A line ends at a newline, at a carriage return, or at a carriage return with its newline. A text
has one line more than it has line ends; the last one may be empty.

## Main definitions

* `TextLines.lines` — the lines of a text.
* `TextLines.isPlain` — the text has no line end.

## Main results

* `TextLines.lines_append_newline` — texts of which the first ends with its line.
* `TextLines.lines_plain_append` — a text without a line end is of the first line.
* `TextLines.lines_intercalate_append` — lines that are joined with newlines are read back.
-/

namespace TextLines

/-- The lines of a text. -/
def lines : List Char → List (List Char)
  | [] => [[]]
  | c :: cs =>
    if c = '\r' ∧ cs.head? = some '\n' then lines cs
    else if c = '\n' ∨ c = '\r' then [] :: lines cs
    else (lines cs).modifyHead (c :: ·)

/-- The text has no line end. -/
def isPlain (text : List Char) : Bool := text.all fun c => decide (c ≠ '\n' ∧ c ≠ '\r')

variable {x y : List Char} {c : Char}

/-- A plain line, character by character. -/
theorem isPlain_cons : isPlain (c :: x) = true ↔ (c ≠ '\n' ∧ c ≠ '\r') ∧ isPlain x = true := by
  unfold isPlain
  rw [List.all_cons, Bool.and_eq_true, decide_eq_true_iff]

/-- The lines of a text, character by character. -/
theorem lines_cons (c : Char) (x : List Char) : lines (c :: x) =
    if c = '\r' ∧ x.head? = some '\n' then lines x
    else if c = '\n' ∨ c = '\r' then [] :: lines x
    else (lines x).modifyHead (c :: ·) := rfl

/-- A plain character joins the first line. -/
theorem lines_cons_plain (hn : c ≠ '\n') (hr : c ≠ '\r') :
    lines (c :: x) = (lines x).modifyHead (c :: ·) := by
  rw [lines_cons, if_neg (fun h => hr h.1), if_neg (by simp [hn, hr])]

/-- A line break ends a line. -/
theorem lines_newline : lines ('\n' :: x) = [] :: lines x := by
  rw [lines_cons, if_neg (fun h => absurd h.1 (by decide)), if_pos (Or.inl rfl)]

/-- There is one line at least. -/
theorem lines_ne_nil (x : List Char) : lines x ≠ [] := by
  induction x with
  | nil => exact List.cons_ne_nil _ _
  | cons c x ih =>
    rw [lines_cons]
    split_ifs
    · exact ih
    · exact List.cons_ne_nil _ _
    · rwa [ne_eq, List.modifyHead_eq_nil_iff]

/-- **Texts of which the first ends with its line**: the lines of the one, then those of the
other. -/
theorem lines_append_newline (h : x.getLast? ≠ some '\r') :
    lines (x ++ '\n' :: y) = lines x ++ lines y := by
  induction x with
  | nil => exact lines_newline
  | cons c x ih =>
    cases x with
    | nil =>
      have hr : c ≠ '\r' := fun hc => h (by rw [hc]; rfl)
      by_cases hn : c = '\n'
      · subst hn
        rw [List.singleton_append, lines_newline, lines_newline, lines_newline]
        rfl
      · rw [List.singleton_append, lines_cons_plain hn hr, lines_newline, lines_cons_plain hn hr]
        rfl
    | cons d x =>
      have ih := ih (by rwa [List.getLast?_cons_cons] at h)
      rw [List.cons_append] at ih
      rw [List.cons_append, List.cons_append, lines_cons c, lines_cons c, List.head?_cons,
        List.head?_cons, ih]
      split_ifs
      · rfl
      · rfl
      · obtain ⟨l, ls, hl⟩ := List.exists_cons_of_ne_nil (lines_ne_nil (d :: x))
        rw [hl]
        rfl

/-- **A text without a line end** is of the first line. -/
theorem lines_plain_append (h : isPlain x = true) :
    lines (x ++ y) = (lines y).modifyHead (x ++ ·) := by
  induction x with
  | nil =>
    obtain ⟨l, ls, hl⟩ := List.exists_cons_of_ne_nil (lines_ne_nil y)
    rw [List.nil_append, hl]
    rfl
  | cons c x ih =>
    obtain ⟨⟨hn, hr⟩, hx⟩ := isPlain_cons.mp h
    rw [List.cons_append, lines_cons_plain hn hr, ih hx]
    obtain ⟨l, ls, hl⟩ := List.exists_cons_of_ne_nil (lines_ne_nil y)
    rw [hl]
    rfl

/-- A plain text is one line. -/
theorem lines_of_isPlain (h : isPlain x = true) : lines x = [x] := by
  have happend := lines_plain_append (y := []) h
  rw [List.append_nil] at happend
  rw [happend]
  exact congrArg (fun l => [l]) (List.append_nil x)

/-- **Lines that are joined with newlines** are read back; the last one goes on with what follows. -/
theorem lines_intercalate_append {ls : List (List Char)} {last : List Char}
    (h : ∀ l ∈ ls, isPlain l = true) (hlast : isPlain last = true) :
    lines (['\n'].intercalate (ls ++ [last]) ++ y) =
      ls ++ (lines y).modifyHead (last ++ ·) := by
  induction ls with
  | nil => rw [List.nil_append, List.intercalate_singleton, lines_plain_append hlast, List.nil_append]
  | cons l ls ih =>
    obtain ⟨hl, hls⟩ := List.forall_mem_cons.mp h
    have hend : l.getLast? ≠ some '\r' := by
      intro hend
      have hmem := List.mem_of_getLast? hend
      exact (of_decide_eq_true (List.all_eq_true.mp hl _ hmem)).2 rfl
    rw [List.cons_append, List.intercalate_cons_of_ne_nil (by simp), List.append_assoc,
      List.append_assoc, List.singleton_append, lines_append_newline hend, lines_of_isPlain hl,
      ih hls, List.singleton_append, List.cons_append]

/-- What is behind the first line of a text is not behind what is in front of it. -/
theorem tail_lines_plain_append (h : isPlain x = true) :
    (lines (x ++ y)).tail = (lines y).tail := by
  rw [lines_plain_append h]
  obtain ⟨l, ls, hl⟩ := List.exists_cons_of_ne_nil (lines_ne_nil y)
  rw [hl]
  rfl

/-- A text that goes on without a line end does not end with one. -/
theorem getLast?_append_plain (h : isPlain y = true) (hne : y ≠ []) :
    (x ++ y).getLast? ≠ some '\r' := by
  intro hlast
  rw [List.getLast?_append, List.getLast?_eq_some_getLast hne, Option.some_or] at hlast
  have hmem := List.getLast_mem hne
  rw [Option.some_inj.mp hlast] at hmem
  exact (of_decide_eq_true (List.all_eq_true.mp h _ hmem)).2 rfl

end TextLines
