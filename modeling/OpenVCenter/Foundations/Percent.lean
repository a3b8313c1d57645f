import OpenVCenter.Foundations.Digits
import Mathlib.Data.UInt

set_option relaxedAutoImplicit false
set_option autoImplicit false

/-!
# Percent-encoding

The bytes of a text in UTF-8, each as an unreserved character or as a percent sign and two
hexadecimal digits.

## Main definitions

* `Percent.quote` — the text in percent-encoding, with no character safe but the unreserved ones.
* `Percent.decode` — the text of a percent-encoding.

## Main results

* `Percent.decode_quote` — decoding gives the text back.
* `Percent.mem_quote` — the characters of a percent-encoding.
-/

namespace Percent

/-- The byte is an ASCII letter, a digit, or one of `_.-~`. -/
def unreserved (b : UInt8) : Bool :=
  let c := Char.ofNat b.toNat
  c.isAlphanum || c == '_' || c == '.' || c == '-' || c == '~'

/-- A hexadecimal digit, in upper case. -/
def hexDigit (v : ℕ) : Char := (Nat.digitChar v).toUpper

/-- The encoding of a byte. -/
def quoteByte (b : UInt8) : List Char :=
  if unreserved b then [Char.ofNat b.toNat]
  else ['%', hexDigit (b.toNat / 16), hexDigit (b.toNat % 16)]

/-- The encoding of a text. -/
def quote (s : String) : List Char := s.toByteArray.data.toList.flatMap quoteByte

/-- The bytes of an encoding; none where a percent sign has no two digits behind it, or where a
character is not ASCII. -/
def decodeBytes : List Char → Option (List UInt8)
  | [] => some []
  | c :: text =>
    if c = '%' then
      match text with
      | a :: b :: text =>
        match Digits.value 16 a, Digits.value 16 b with
        | some high, some low => (decodeBytes text).map (UInt8.ofNat (16 * high + low) :: ·)
        | _, _ => none
      | _ => none
    else if c.toNat < 128 then (decodeBytes text).map (UInt8.ofNat c.toNat :: ·)
    else none

/-- The text of an encoding. -/
def decode (text : List Char) : Option String :=
  (decodeBytes text).bind fun bytes => String.fromUTF8? ⟨bytes.toArray⟩

/-- What the encoding of a byte is. -/
private lemma quoteByte_cases (b : UInt8) :
    (∃ c : Char, quoteByte b = [c] ∧ c ≠ '%' ∧ c.toNat < 128 ∧ UInt8.ofNat c.toNat = b) ∨
      ∃ x y high low, quoteByte b = ['%', x, y] ∧ Digits.value 16 x = some high ∧
        Digits.value 16 y = some low ∧ UInt8.ofNat (16 * high + low) = b := by
  have hbyte : b = UInt8.ofNat b.toNat := (UInt8.ofNat_toNat (x := b)).symm
  have hplain : ∀ n < 256, unreserved (UInt8.ofNat n) = true →
      Char.ofNat n ≠ '%' ∧ (Char.ofNat n).toNat < 128 ∧ (Char.ofNat n).toNat = n := by
    decide +kernel
  have hvalue : ∀ n < 16, Digits.value 16 (hexDigit n) = some n := by decide +kernel
  by_cases h : unreserved b = true
  · obtain ⟨hne, hascii, hchar⟩ := hplain b.toNat (UInt8.toNat_lt b) (hbyte ▸ h)
    refine Or.inl ⟨Char.ofNat b.toNat, if_pos h, hne, hascii, ?_⟩
    rw [hchar]
    exact hbyte.symm
  · refine Or.inr ⟨_, _, b.toNat / 16, b.toNat % 16, if_neg h, hvalue _ ?_, hvalue _ ?_, ?_⟩
    · have hlt := UInt8.toNat_lt b
      omega
    · omega
    · rw [Nat.div_add_mod]
      exact hbyte.symm

/-- A quoted byte is decoded. -/
private lemma decodeBytes_quoteByte (b : UInt8) (text : List Char) :
    decodeBytes (quoteByte b ++ text) = (decodeBytes text).map (b :: ·) := by
  rcases quoteByte_cases b with ⟨c, hquote, hne, hascii, hc⟩ | ⟨x, y, high, low, hquote, hx, hy, hb⟩
  · rw [hquote, List.singleton_append, decodeBytes.eq_def]
    simp only [if_neg hne, if_pos hascii, hc]
  · rw [hquote, List.cons_append, List.cons_append, List.singleton_append, decodeBytes.eq_def]
    simp only [if_true, hx, hy, hb]

/-- **Decoding gives the text back.** -/
theorem decode_quote (s : String) : decode (quote s) = some s := by
  have hbytes : ∀ bytes : List UInt8, decodeBytes (bytes.flatMap quoteByte) = some bytes := by
    intro bytes
    induction bytes with
    | nil => rfl
    | cons b bytes ih => rw [List.flatMap_cons, decodeBytes_quoteByte, ih, Option.map_some]
  unfold decode quote
  rw [hbytes, Option.bind_some]
  unfold String.fromUTF8?
  rw [dif_pos s.isValidUTF8]
  rfl

/-- **The characters of an encoding**: what is checked of the percent sign and of the unreserved
characters holds of them. -/
theorem mem_quote {p : Char → Bool} (hpercent : p '%' = true)
    (hplain : ∀ n < 128, unreserved (UInt8.ofNat n) = true → p (Char.ofNat n) = true) {s : String}
    {c : Char} (h : c ∈ quote s) : p c = true := by
  have hascii : ∀ n < 256, unreserved (UInt8.ofNat n) = true → n < 128 := by decide +kernel
  have hhex : ∀ n < 16, (hexDigit n).toNat < 128 ∧
      unreserved (UInt8.ofNat (hexDigit n).toNat) = true := by decide +kernel
  have hdigit : ∀ n < 16, p (hexDigit n) = true := fun n hn => by
    have := hplain _ (hhex n hn).1 (hhex n hn).2
    rwa [Char.ofNat_toNat] at this
  obtain ⟨b, -, hb⟩ := List.mem_flatMap.mp h
  unfold quoteByte at hb
  have hlt := UInt8.toNat_lt b
  have hbyte : UInt8.ofNat b.toNat = b := UInt8.ofNat_toNat
  split_ifs at hb with hu
  · rw [List.mem_singleton.mp hb]
    rw [← hbyte] at hu
    exact hplain _ (hascii _ hlt hu) hu
  · simp only [List.mem_cons, List.not_mem_nil, or_false] at hb
    rcases hb with rfl | rfl | rfl
    · exact hpercent
    · exact hdigit _ (by omega)
    · exact hdigit _ (by omega)

end Percent
