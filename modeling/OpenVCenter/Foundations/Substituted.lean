import Mathlib.Data.List.Basic

set_option relaxedAutoImplicit false
set_option autoImplicit false

/-!
# Replacing the occurrences of a text

`String.replace` goes through a text from left to right and puts another one in the place of every
occurrence of a pattern that it meets. What it puts there is not looked at again.

## Main definitions

* `Substituted` — a text, and the text after the replacement.

## Main results

* `Substituted.replace` — what `String.replace` returns is the text after the replacement.
* `Substituted.unique` — there is one such text.
* `Substituted.skip` — in front of the first character of the pattern nothing is replaced.
-/

/-- The occurrences of `pat` in the second text, from left to right, are `new` in the third. -/
inductive Substituted (pat new : List Char) : List Char → List Char → Prop
  | nil : Substituted pat new [] []
  | hit {text out : List Char} : Substituted pat new text out →
      Substituted pat new (pat ++ text) (new ++ out)
  | miss {c : Char} {text out : List Char} : ¬ pat <+: c :: text → Substituted pat new text out →
      Substituted pat new (c :: text) (c :: out)

namespace Substituted

variable {pat new text out out' skipped : List Char}

/-- There is one text after the replacement. -/
theorem unique (hpat : pat ≠ []) (h : Substituted pat new text out)
    (h' : Substituted pat new text out') : out = out' := by
  induction h generalizing out' with
  | nil =>
    generalize hnil : ([] : List Char) = empty at h'
    cases h' with
    | nil => rfl
    | hit _ => exact absurd (List.append_eq_nil_iff.mp hnil.symm).1 hpat
    | miss _ _ => cases hnil
  | @hit text out _ ih =>
    generalize hwhole : pat ++ text = whole at h'
    cases h' with
    | nil => exact absurd (List.append_eq_nil_iff.mp hwhole).1 hpat
    | hit h' =>
      obtain rfl := List.append_cancel_left hwhole
      rw [ih h']
    | miss hno _ => exact absurd ⟨text, hwhole⟩ hno
  | @miss c text out hno _ ih =>
    generalize hwhole : c :: text = whole at h'
    cases h' with
    | nil => cases hwhole
    | hit _ => exact absurd ⟨_, hwhole.symm⟩ hno
    | miss _ h' =>
      obtain ⟨rfl, rfl⟩ := List.cons.inj hwhole
      rw [ih h']

/-- **In front of the first character of the pattern** nothing is replaced. -/
theorem skip {c : Char} (hc : pat.head? = some c) (hskipped : c ∉ skipped)
    (h : Substituted pat new text out) :
    Substituted pat new (skipped ++ text) (skipped ++ out) := by
  induction skipped with
  | nil => exact h
  | cons d skipped ih =>
    rw [List.mem_cons, not_or] at hskipped
    refine miss ?_ (ih hskipped.2)
    rintro ⟨rest, hrest⟩
    cases pat with
    | nil => cases hc
    | cons e pat =>
      obtain rfl := Option.some.inj hc
      exact hskipped.1 (List.cons.inj hrest).1

/-- A text without the first character of the pattern stays as it is. -/
theorem self {c : Char} (hc : pat.head? = some c) (htext : c ∉ text) :
    Substituted pat new text text := by
  have hskip : Substituted pat new (text ++ []) (text ++ []) := skip hc htext nil
  rwa [List.append_nil] at hskip

/-- A stretch in which no occurrence starts is kept. -/
private theorem keep (h : Substituted pat new text out)
    (hno : ∀ before after, skipped = before ++ after → after ≠ [] → ¬ pat <+: after ++ text) :
    Substituted pat new (skipped ++ text) (skipped ++ out) := by
  induction skipped with
  | nil => exact h
  | cons c skipped ih =>
    refine miss (hno [] (c :: skipped) rfl (List.cons_ne_nil c skipped)) (ih ?_)
    intro before after hafter hne
    exact hno (c :: before) after (by rw [hafter, List.cons_append]) hne

open String String.Slice.Pattern String.Slice.Pattern.Model

/-- What `String.replace` writes for a step of its search. -/
private def writeStep (new : String) {s : Slice} (sofar : String) : SearchStep s → String
  | .matched .. => sofar ++ new
  | .rejected start stop => sofar ++ (s.slice! start stop).copy

/-- The steps of a search write down the text after the replacement.

**Proof sketch.** Induction on the steps of the search. A match writes the replacement; a stretch
without a match is written as it is, and an occurrence inside it would be a match at a position the
search has passed. -/
private theorem foldl_writeStep {pat : String} (new : String) {s : Slice} {pos : s.Pos}
    {steps : List (SearchStep s)} (h : IsValidSearchFrom pat pos steps) (sofar : String)
    {before after : String} (hpos : pos.Splits before after) :
    ∃ out, steps.foldl (writeStep new) sofar = sofar ++ out ∧
      Substituted pat.toList new.toList after.toList out.toList := by
  induction h generalizing sofar before after with
  | endPos =>
    obtain ⟨-, rfl⟩ := Slice.splits_endPos_iff.mp hpos
    exact ⟨"", by simp, by simpa using nil⟩
  | matched hmatch _ ih =>
    obtain ⟨_, _, hstart, hend⟩ := ForwardStringSearcher.isLongestMatchAt_iff_splits.mp hmatch
    obtain ⟨out, hout, hrest⟩ := ih (sofar ++ new) hend
    refine ⟨new ++ out, ?_, ?_⟩
    · rw [List.foldl_cons, ← String.append_assoc, ← hout, writeStep]
    · rw [hpos.eq_right hstart, String.toList_append, String.toList_append]
      exact hit hrest
  | @mismatched _ start stop hlt hno _ ih =>
    obtain ⟨middle, -, hmiddle, rfl⟩ := (hpos.lt_iff_exists_eq_append stop.splits).mp hlt
    obtain ⟨out, hout, hrest⟩ := ih (sofar ++ middle) stop.splits
    refine ⟨middle ++ out, ?_, ?_⟩
    · have hslice : (s.slice! start stop).copy = middle := by
        obtain ⟨hle, hcopy⟩ := Slice.copy_slice_eq_iff_splits.mpr
          ⟨before, _, hpos, hmiddle ▸ stop.splits⟩
        rw [← hcopy, Slice.slice_eq_slice!]
      rw [List.foldl_cons, ← String.append_assoc, ← hout, writeStep, hslice]
    · rw [String.toList_append, String.toList_append]
      refine keep hrest fun left right hright hne hstart => ?_
      -- an occurrence in the stretch would be a match of the search at its position
      have hmid : middle = String.ofList left ++ String.ofList right := by
        rw [← String.toList_inj, String.toList_append, String.toList_ofList, String.toList_ofList,
          hright]
      have hright' : String.ofList right ≠ "" := by simpa using hne
      rw [hmid, String.append_assoc] at hpos
      obtain ⟨at_, hat⟩ : ∃ q : s.Pos, q.Splits (before ++ String.ofList left)
          (String.ofList right ++ (s.sliceFrom stop).copy) := ⟨_, hpos.splits_rotateRight⟩
      have hle : start ≤ at_ := (hpos.le_iff_exists_eq_append hat).mpr ⟨_, rfl, rfl⟩
      have hbelow : at_ < stop := by
        refine (hat.lt_iff_exists_eq_append stop.splits).mpr ⟨_, hright', ?_, rfl⟩
        rw [String.append_assoc, ← hmid, hmiddle]
      obtain ⟨rest, hrest⟩ := hstart
      have hpat : String.ofList right ++ (s.sliceFrom stop).copy = pat ++ String.ofList rest := by
        rw [← String.toList_inj, String.toList_append, String.toList_append, String.toList_ofList,
          String.toList_ofList, hrest]
      rw [hpat] at hat
      exact hno at_ hle hbelow (ForwardStringSearcher.matchesAt_iff_splits.mpr ⟨_, _, hat⟩)

/-- **What `String.replace` returns** is the text after the replacement. -/
theorem replace {pat : String} (hpat : pat ≠ "") (new s : String) :
    Substituted pat.toList new.toList s.toList (s.replace pat new).toList := by
  have hvalid := (ForwardStringSearcher.lawfulToForwardSearcherModel hpat).isValidSearchFrom_toList
    s.toSlice
  obtain ⟨out, hout, hsub⟩ := foldl_writeStep new hvalid "" s.toSlice.splits_startPos
  have hreplace : s.replace pat new = out := by
    unfold String.replace Slice.replace
    rw [← Std.Iter.foldl_toList, ← String.empty_append (s := out), ← hout]
    congr 1
    funext sofar step
    cases step with
    | rejected start stop => rfl
    | matched start stop => exact congrArg (sofar ++ ·) String.copy_toSlice
  rw [hreplace]
  simpa using hsub

end Substituted
