import OpenVCenter.InstallScript
import Mathlib.Data.Bool.AllAny

set_option relaxedAutoImplicit false
set_option autoImplicit false

/-!
# The here-string of the configuration

`_ps_here_string` of `services/hosts.py` embeds the text of `config.ini` in the install script as a
literal that ends at the first line which starts with `'@`. What stands behind that line is run.

## Main definitions

* `OpenVCenter.terminates` — the line closes a here-string.
* `OpenVCenter.defused` — a line of the body as it is embedded.
* `OpenVCenter.readHereString` — a here-string, read from the lines of a script.

## Main results

* `OpenVCenter.readHereString_append` — whatever follows the literal is what is behind it.
* `OpenVCenter.psHereString_exact` — the literal closes on its last line, and reads back as the body.
-/

namespace OpenVCenter

open TextLines

/-! ## Reading a here-string -/

/-- The line closes a here-string. -/
def terminates (line : List Char) : Bool := "'@".toList.isPrefixOf line

/-- A line of the body as it is embedded. -/
def defused (line : List Char) : List Char := if terminates line then ' ' :: line else line

/-- The lines in front of the first that closes the literal, and what is behind it. -/
def upToTerminator : List (List Char) → Option (List (List Char) × List (List Char))
  | [] => none
  | l :: ls =>
    if terminates l then some ([], l.drop 2 :: ls)
    else (upToTerminator ls).map fun read => (l :: read.1, read.2)

/-- A here-string, read from the lines of a script: its own lines, and those behind it. -/
def readHereString : List (List Char) → Option (List (List Char) × List (List Char))
  | [] => none
  | l :: ls => if l = "@'".toList then upToTerminator ls else none

/-- No line that is embedded closes the literal. -/
lemma terminates_defused (line : List Char) : terminates (defused line) = false := by
  unfold defused
  split_ifs with h
  · rfl
  · simpa using h

/-- The body ends at the first line that terminates. -/
lemma upToTerminator_append {ls : List (List Char)} (h : ∀ l ∈ ls, terminates l = false)
    (last : List Char) (rest : List (List Char)) :
    upToTerminator (ls ++ ("'@".toList ++ last) :: rest) = some (ls, last :: rest) := by
  induction ls with
  | nil => rfl
  | cons l ls ih =>
    obtain ⟨hl, hls⟩ := List.forall_mem_cons.mp h
    rw [List.cons_append, upToTerminator, hl, ih hls]
    rfl

/-! ## The lines of the literal -/

/-- No line of a text has a line boundary in it. -/
lemma not_boundary_of_mem_splitlines {text line : List Char} (h : line ∈ splitlines text) :
    ∀ c ∈ line, isLineBoundary c = false := by
  induction text generalizing line with
  | nil => simp [splitlines] at h
  | cons c text ih =>
    rw [splitlines] at h
    split_ifs at h with hcr hboundary
    · exact ih h
    · rcases List.mem_cons.mp h with rfl | h
      · simp
      · exact ih h
    · have hc : isLineBoundary c = false := by simpa using hboundary
      rcases hrest : splitlines text with _ | ⟨first, rest⟩
      · rw [hrest] at h
        obtain rfl := List.mem_singleton.mp h
        simpa using hc
      · rw [hrest] at h ih
        rcases List.mem_cons.mp h with rfl | h
        · exact List.forall_mem_cons.mpr ⟨hc, ih List.mem_cons_self⟩
        · exact ih (List.mem_cons_of_mem _ h)

/-- A text that is not empty has a line. -/
lemma splitlines_ne_nil {text : List Char} (h : text ≠ []) : splitlines text ≠ [] := by
  induction text with
  | nil => exact absurd rfl h
  | cons c text ih =>
    rw [splitlines]
    split_ifs with hcr
    · apply ih
      rintro rfl
      simp at hcr
    · simp
    · split <;> simp

/-- A line without boundaries is plain. -/
lemma isPlain_of_not_boundary {line : List Char} (h : ∀ c ∈ line, isLineBoundary c = false) :
    isPlain line = true := by
  refine List.all_eq_true.mpr fun c hc => ?_
  have hboundary := h c hc
  simp only [isLineBoundary, List.mem_cons, decide_eq_false_iff_not, not_or] at hboundary
  simp [hboundary.1, hboundary.2.1]

/-- A line without a boundary, and what is on the next ones. -/
lemma splitlines_append_newline {line rest : List Char}
    (h : ∀ c ∈ line, isLineBoundary c = false) :
    splitlines (line ++ '\n' :: rest) = line :: splitlines rest := by
  induction line with
  | nil =>
    rw [List.nil_append, splitlines, if_neg (by simp), if_pos (by decide)]
  | cons c line ih =>
    obtain ⟨hc, hline⟩ := List.forall_mem_cons.mp h
    have hcr : c ≠ '\r' := by
      rintro rfl
      exact absurd hc (by decide)
    rw [List.cons_append, splitlines, if_neg (fun hh => hcr hh.1), if_neg (by simp [hc]), ih hline]

/-- It is one line. -/
lemma splitlines_singleton {line : List Char} (h : ∀ c ∈ line, isLineBoundary c = false)
    (hne : line ≠ []) : splitlines line = [line] := by
  induction line with
  | nil => exact absurd rfl hne
  | cons c line ih =>
    obtain ⟨hc, hline⟩ := List.forall_mem_cons.mp h
    have hcr : c ≠ '\r' := by
      rintro rfl
      exact absurd hc (by decide)
    rw [splitlines, if_neg (fun hh => hcr hh.1), if_neg (by simp [hc])]
    rcases line with _ | ⟨d, line⟩
    · rfl
    · rw [ih hline (List.cons_ne_nil d line)]

/-- Lines that are joined with newlines are read back, if the last one is not empty. -/
lemma splitlines_intercalate {ls : List (List Char)}
    (h : ∀ l ∈ ls, ∀ c ∈ l, isLineBoundary c = false) (hlast : ls.getLast? ≠ some []) :
    splitlines (['\n'].intercalate ls) = ls := by
  induction ls with
  | nil => rfl
  | cons l ls ih =>
    obtain ⟨hl, hls⟩ := List.forall_mem_cons.mp h
    rcases ls with _ | ⟨l', ls⟩
    · have hne : l ≠ [] := by
        rintro rfl
        exact hlast rfl
      rw [List.intercalate_singleton, splitlines_singleton hl hne]
    · rw [List.intercalate_cons_cons, List.append_assoc, List.singleton_append,
        splitlines_append_newline hl, ih hls (by rwa [List.getLast?_cons_cons] at hlast)]

section Literal

variable {body : String}

/-- The lines of the body as they are embedded. -/
def safeLines (body : String) : List (List Char) := (splitlines body.toList).map defused

/-- The literal is its lines, joined with newlines. -/
lemma psHereString_toList (h : body ≠ "") : (psHereString body).toList =
    ['\n'].intercalate ("@'".toList :: (safeLines body ++ ["'@".toList])) := by
  have hne : safeLines body ≠ [] := by
    unfold safeLines
    rw [ne_eq, List.map_eq_nil_iff]
    exact splitlines_ne_nil fun hnil => h (String.toList_inj.mp hnil)
  have hsafe : ((splitlines body.toList).map fun l =>
      if "'@".toList.isPrefixOf l then " " ++ String.ofList l else String.ofList l) =
        (safeLines body).map String.ofList := by
    unfold safeLines
    rw [List.map_map]
    refine List.map_congr_left fun l _ => ?_
    rw [Function.comp_apply, defused, terminates]
    split_ifs
    · simp only [← String.toList_inj, String.toList_append, String.toList_ofList]
      rfl
    · rfl
  have hne' : (safeLines body).map String.ofList ≠ [] := mt List.map_eq_nil_iff.mp hne
  have hjoin : psHereString body =
      "\n".intercalate ("@'" :: ((safeLines body).map String.ofList ++ ["'@"])) := by
    unfold psHereString
    rw [hsafe, String.intercalate_cons_of_ne_nil (by simp),
      String.intercalate_append_of_ne_nil hne' (List.cons_ne_nil _ _),
      String.intercalate_singleton]
    simp only [← String.toList_inj, String.toList_append, List.append_assoc]
    rfl
  have hlines : ("@'" :: ((safeLines body).map String.ofList ++ ["'@"])).map String.toList =
      "@'".toList :: (safeLines body ++ ["'@".toList]) := by
    simp [Function.comp_def]
  rw [hjoin, String.toList_intercalate, hlines]
  rfl

/-- The lines of a safe body have no boundaries. -/
lemma not_boundary_of_mem_safeLines {l : List Char} (hl : l ∈ safeLines body) :
    ∀ c ∈ l, isLineBoundary c = false := by
  obtain ⟨line, hline, rfl⟩ := List.mem_map.mp hl
  have hplain := not_boundary_of_mem_splitlines hline
  unfold defused
  split_ifs
  · exact List.forall_mem_cons.mpr ⟨by decide, hplain⟩
  · exact hplain

/-- None of them terminates. -/
lemma terminates_of_mem_safeLines : ∀ l ∈ safeLines body, terminates l = false := by
  intro l hl
  obtain ⟨line, -, rfl⟩ := List.mem_map.mp hl
  exact terminates_defused line

/-- The lines of the literal, of which the last one goes on with what follows. -/
lemma lines_psHereString_append (h : body ≠ "") (rest : String) :
    lines (psHereString body ++ rest).toList = "@'".toList :: (safeLines body ++
      (lines rest.toList).modifyHead ("'@".toList ++ ·)) := by
  have hplain : ∀ l ∈ "@'".toList :: safeLines body, isPlain l = true := by
    refine fun l hl => isPlain_of_not_boundary ?_
    rcases List.mem_cons.mp hl with rfl | hl
    · exact List.all_iff_forall_prop.mp (by decide)
    · exact not_boundary_of_mem_safeLines hl
  rw [String.toList_append, psHereString_toList h, ← List.cons_append,
    lines_intercalate_append hplain (by decide), List.cons_append]

/-- **Whatever follows the literal** is what is behind it when it is read: no body closes the
literal early, so that its remainder would run. -/
theorem readHereString_append (h : body ≠ "") (rest : String) :
    readHereString (lines (psHereString body ++ rest).toList) =
      some (safeLines body, lines rest.toList) := by
  obtain ⟨last, behind, hrest⟩ := List.exists_cons_of_ne_nil (lines_ne_nil rest.toList)
  rw [lines_psHereString_append h, hrest, List.modifyHead_cons, readHereString, if_pos rfl,
    upToTerminator_append terminates_of_mem_safeLines]

/-- **The literal closes on its last line**, which is the only one behind the opening line that
starts with `'@`, and reads back as the lines of the body, with one blank in front of those that
would have closed it. Python and PowerShell see the same lines of it. -/
theorem psHereString_exact (body : String) (h : body ≠ "") :
    (∃ inner, lines (psHereString body).toList = "@'".toList :: (inner ++ ["'@".toList]) ∧
      ∀ l ∈ inner, terminates l = false) ∧
    readHereString (lines (psHereString body).toList) =
      some ((splitlines body.toList).map defused, [[]]) ∧
    splitlines (psHereString body).toList = lines (psHereString body).toList := by
  have hread := readHereString_append h ""
  have hlines : lines (psHereString body).toList =
      "@'".toList :: (safeLines body ++ ["'@".toList]) := by
    have happend := lines_psHereString_append h ""
    rwa [String.append_empty] at happend
  refine ⟨⟨safeLines body, hlines, terminates_of_mem_safeLines⟩, ?_, ?_⟩
  · rwa [String.append_empty] at hread
  · have hlast : ("@'".toList :: (safeLines body ++ ["'@".toList])).getLast? ≠ some [] := by
      rw [← List.cons_append, List.getLast?_concat]
      simp
    rw [hlines, psHereString_toList h]
    refine splitlines_intercalate (fun l hl => ?_) hlast
    rcases List.mem_cons.mp hl with rfl | hl
    · exact List.all_iff_forall_prop.mp (by decide)
    · rcases List.mem_append.mp hl with hl | hl
      · exact not_boundary_of_mem_safeLines hl
      · obtain rfl := List.mem_singleton.mp hl
        exact List.all_iff_forall_prop.mp (by decide)

/-- A body that has the terminator in it. -/
theorem psHereString_exact_evil :
    (∃ inner, lines (psHereString "[agent]\n'@ = evil\n").toList =
      "@'".toList :: (inner ++ ["'@".toList]) ∧ ∀ l ∈ inner, terminates l = false) ∧
    readHereString (lines (psHereString "[agent]\n'@ = evil\n").toList) =
      some ((splitlines "[agent]\n'@ = evil\n".toList).map defused, [[]]) ∧
    splitlines (psHereString "[agent]\n'@ = evil\n").toList =
      lines (psHereString "[agent]\n'@ = evil\n").toList :=
  psHereString_exact "[agent]\n'@ = evil\n" (by decide)

example : (splitlines "[agent]\n'@ = evil\n".toList).map defused =
    ["[agent]".toList, " '@ = evil".toList] := by decide

end Literal

end OpenVCenter
