import OpenVCenter.Foundations.Digits
import OpenVCenter.Foundations.Partition

set_option relaxedAutoImplicit false
set_option autoImplicit false

/-!
# Texts of IP addresses

The texts that are read as an address of version 4, of four decimal numbers, or of version 6, of eight
hexadecimal numbers of which one run of zeros is left out. An address of version 6 may end in one of
version 4, and in a scope.

## Main definitions

* `IpAddress.isV4`, `IpAddress.isV6` — the text is an address.

## Main results

* `IpAddress.colon_mem` — an address of version 6 has a colon.
* `IpAddress.head_isV6` — it starts with a digit or a colon.
-/

namespace IpAddress

/-- A number of 0 to 255, without leading zeros. -/
def isOctet (text : List Char) : Bool :=
  !text.isEmpty && text.all Char.isDigit && decide (text.length ≤ 3) &&
    (decide (text.length = 1) || decide (text.head? ≠ some '0')) &&
    decide (Nat.ofDigitChars 10 text 0 ≤ 255)

/-- An address of version 4. -/
def isV4 (text : List Char) : Bool :=
  decide ((text.splitOn '.').length = 4) && (text.splitOn '.').all isOctet

/-- A number of one to four hexadecimal digits. -/
def isHextet (text : List Char) : Bool :=
  !text.isEmpty && decide (text.length ≤ 4) && text.all fun c => (Digits.value 16 c).isSome

/-- The address of version 4 at the end, as two numbers; none if it is no such address. -/
def expandV4 (parts : List (List Char)) : Option (List (List Char)) :=
  match parts.getLast? with
  | none => none
  | some part =>
    if '.' ∈ part then if isV4 part then some (parts.dropLast ++ [['0'], ['0']]) else none
    else some parts

/-- The numbers of an address: eight of them, or fewer where one run of zeros is left out. At an end
of the address nothing else is left out. -/
def isParts (parts : List (List Char)) : Bool :=
  decide (parts.length ≤ 9) &&
    match ((parts.drop 1).dropLast).count [] with
    | 0 => decide (parts.length = 8) && parts.all isHextet
    | 1 =>
      let before := ((parts.drop 1).dropLast).idxOf [] + 1
      let after := parts.length - before - 1
      let fromStart := if parts.head? = some [] then before - 1 else before
      let toEnd := if parts.getLast? = some [] then after - 1 else after
      (decide (parts.head? ≠ some []) || decide (fromStart = 0)) &&
        (decide (parts.getLast? ≠ some []) || decide (toEnd = 0)) &&
        decide (fromStart + toEnd < 8) && parts.all fun part => part.isEmpty || isHextet part
    | _ => false

/-- An address of version 6. -/
def isV6 (text : List Char) : Bool :=
  let (address, hasScope, scope) := Partition.first '%' text
  (!hasScope || !scope.isEmpty && decide ('%' ∉ scope)) &&
    decide (3 ≤ (address.splitOn ':').length) &&
    match expandV4 (address.splitOn ':') with
    | some parts => isParts parts
    | none => false

/-- **An address of version 6 has a colon.** -/
theorem colon_mem {text : List Char} (h : isV6 text = true) : ':' ∈ text := by
  unfold isV6 at h
  simp only [Bool.and_eq_true, decide_eq_true_eq] at h
  suffices hfirst : ':' ∈ (Partition.first '%' text).1 from Partition.mem_of_mem_first hfirst
  by_contra hnot
  have hparts := h.1.2
  rw [List.splitOn_eq_singleton hnot, List.length_singleton] at hparts
  omega

/-- The numbers of an address are empty or hexadecimal. -/
lemma isParts_part {parts : List (List Char)} (h : isParts parts = true) {part : List Char}
    (hpart : part ∈ parts) : part = [] ∨ isHextet part = true := by
  unfold isParts at h
  rw [Bool.and_eq_true] at h
  have hmatch := h.2
  split at hmatch
  · rw [Bool.and_eq_true] at hmatch
    exact Or.inr (List.all_eq_true.mp hmatch.2 part hpart)
  · simp only [Bool.and_eq_true] at hmatch
    have hall := List.all_eq_true.mp hmatch.2 part hpart
    rw [Bool.or_eq_true, List.isEmpty_iff] at hall
    exact hall
  · cases hmatch

/-- An address of version 6 starts with a digit or a colon.

**Proof sketch.** The scope behind `%` does not change the first character, which then starts the
first part between colons. It is not the last part, which alone may be an IPv4 address, and it is
not empty, so it is a group of hexadecimal digits. -/
theorem head_isV6 {c : Char} {text : List Char} (h : isV6 (c :: text) = true) :
    c = ':' ∨ (Digits.value 16 c).isSome = true := by
  by_cases hcolon : c = ':'
  · exact Or.inl hcolon
  refine Or.inr ?_
  unfold isV6 at h
  simp only [Bool.and_eq_true, decide_eq_true_eq] at h
  obtain ⟨⟨-, hlength⟩, hparts⟩ := h
  -- the address in front of a scope starts with the same character
  obtain ⟨address, haddress⟩ : ∃ address, (Partition.first '%' (c :: text)).1 = c :: address := by
    by_cases hscope : c = '%'
    · rw [hscope, show ('%' :: text) = [] ++ '%' :: text from rfl,
        Partition.first_append List.not_mem_nil] at hlength
      simp at hlength
    · exact ⟨(Partition.first '%' text).1,
        Partition.first_fst_cons hscope⟩
  rw [haddress, List.splitOn_cons_eq_if_modifyHead, if_neg (by simpa using hcolon)] at hlength hparts
  obtain ⟨part, parts, hsplit⟩ := List.exists_cons_of_ne_nil (List.splitOn_ne_nil ':' address)
  rw [hsplit, List.modifyHead_cons] at hlength hparts
  have hhead : ∀ expanded, expandV4 ((c :: part) :: parts) = some expanded →
      (c :: part) ∈ expanded := by
    intro expanded hexpanded
    unfold expandV4 at hexpanded
    cases hlast : ((c :: part) :: parts).getLast? with
    | none => rw [hlast] at hexpanded; cases hexpanded
    | some last =>
      rw [hlast] at hexpanded
      simp only at hexpanded
      split_ifs at hexpanded
      · obtain rfl := Option.some.inj hexpanded
        cases parts with
        | nil => simp at hlength
        | cons part' parts => simp
      · obtain rfl := Option.some.inj hexpanded
        exact List.mem_cons_self
  cases hexpanded : expandV4 ((c :: part) :: parts) with
  | none => rw [hexpanded] at hparts; cases hparts
  | some expanded =>
    rw [hexpanded] at hparts
    rcases isParts_part hparts (hhead expanded hexpanded) with hnil | hhextet
    · cases hnil
    · unfold isHextet at hhextet
      rw [Bool.and_eq_true] at hhextet
      exact List.all_eq_true.mp hhextet.2 c List.mem_cons_self

example : ["::1", "fe80::1%eth0", "1:2:3:4:5:6:7:8", "::ffff:10.0.0.1", "::", "1::"].all
    (fun text => isV6 text.toList) = true := by decide +kernel

example : ["1", ":1:2:3:4:5:6:7", "1::2::3", "1:2:3:4:5:6:7:8:9", "::12345", "10.0.0.1"].any
    (fun text => isV6 text.toList) = false := by decide +kernel

end IpAddress
