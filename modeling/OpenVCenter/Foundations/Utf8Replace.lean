import OpenVCenter.Foundations.Utf8

set_option relaxedAutoImplicit false
set_option autoImplicit false

/-!
# UTF-8 with replacements

The reader that is not strict: what is no code point is the replacement character. A code point that
breaks off is one replacement character, however many of its bytes are there.

## Main definitions

* `Utf8.decodeReplace` — the text of any bytes.
* `Utf8.firstChars` — what the first bytes of a text show.

## Main results

* `Utf8.decodeReplace_take` — the first bytes of a text are read as what they show.
-/

namespace Utf8

/-- A code point that is no surrogate. -/
def IsScalar (n : ℕ) : Prop := n < 0xD800 ∨ 0xE000 ≤ n ∧ n < 0x110000

/-- Whether a number is a scalar value can be decided. -/
instance (n : ℕ) : Decidable (IsScalar n) := inferInstanceAs (Decidable (_ ∨ _))

/-- The replacement character. -/
def replacement : ℕ := 0xFFFD

/-- The byte may stand behind a first byte. -/
def isSecond (b c : UInt8) : Bool :=
  isTail c &&
    (if b.toNat = 0xE0 then decide (0xA0 ≤ c.toNat)
     else if b.toNat = 0xED then decide (c.toNat < 0xA0)
     else if b.toNat = 0xF0 then decide (0x90 ≤ c.toNat)
     else if b.toNat = 0xF4 then decide (c.toNat < 0x90)
     else true)

/-- The text of bytes, with a replacement character for what is no code point. -/
def decodeReplace : List UInt8 → List ℕ
  | [] => []
  | b :: bytes =>
    if b.toNat < 0x80 then b.toNat :: decodeReplace bytes
    else if b.toNat < 0xC2 ∨ 0xF5 ≤ b.toNat then replacement :: decodeReplace bytes
    else
      match bytes with
      | [] => [replacement]
      | c :: bytes =>
        if !isSecond b c then replacement :: decodeReplace (c :: bytes)
        else if b.toNat < 0xE0 then
          ((b.toNat - 0xC0) * 64 + tailBits c) :: decodeReplace bytes
        else
          match bytes with
          | [] => [replacement]
          | d :: bytes =>
            if !isTail d then replacement :: decodeReplace (d :: bytes)
            else if b.toNat < 0xF0 then
              ((b.toNat - 0xE0) * 4096 + tailBits c * 64 + tailBits d) :: decodeReplace bytes
            else
              match bytes with
              | [] => [replacement]
              | e :: bytes =>
                if !isTail e then replacement :: decodeReplace (e :: bytes)
                else
                  ((b.toNat - 0xF0) * 262144 + tailBits c * 4096 + tailBits d * 64 + tailBits e) ::
                    decodeReplace bytes

/-- What the first `k` bytes of a text show. A character that they cut is the replacement
character. -/
def firstChars : ℕ → List ℕ → List ℕ
  | _, [] => []
  | k, n :: text =>
    if k = 0 then []
    else if (encodeCode n).length ≤ k then n :: firstChars (k - (encodeCode n).length) text
    else [replacement]

variable {text : List ℕ} {bytes rest : List UInt8} {n : ℕ}

/-- A byte, as a number. -/
lemma toNat_ofNat {k : ℕ} (hk : k < 256) : (UInt8.ofNat k).toNat = k := UInt8.toNat_ofNat_of_lt' hk

/-- The second byte of three. -/
lemma isSecond_three (hn : IsScalar n) (hlow : 0x800 ≤ n) (hhigh : n < 0x10000) :
    isSecond (UInt8.ofNat (0xE0 + n / 4096)) (tailByte (n / 64)) = true := by
  unfold IsScalar at hn
  unfold isSecond
  rw [toNat_ofNat (by omega), isTail_tailByte, toNat_tailByte, Bool.true_and]
  split_ifs <;> first | rfl | exact decide_eq_true (by omega)

/-- The second byte of four. -/
lemma isSecond_four (hlow : 0x10000 ≤ n) (hhigh : n < 0x110000) :
    isSecond (UInt8.ofNat (0xF0 + n / 262144)) (tailByte (n / 4096)) = true := by
  unfold isSecond
  rw [toNat_ofNat (by omega), isTail_tailByte, toNat_tailByte, Bool.true_and]
  split_ifs <;> first | rfl | exact decide_eq_true (by omega)

/-- The second byte of two. -/
lemma isSecond_two (hlow : 0x80 ≤ n) (hhigh : n < 0x800) :
    isSecond (UInt8.ofNat (0xC0 + n / 64)) (tailByte n) = true := by
  unfold isSecond
  rw [toNat_ofNat (by omega), isTail_tailByte, toNat_tailByte, Bool.true_and]
  split_ifs <;> first | rfl | omega

/-- **A code point** is read. -/
lemma decodeReplace_encodeCode (hn : IsScalar n) (rest : List UInt8) :
    decodeReplace (encodeCode n ++ rest) = n :: decodeReplace rest := by
  have hlt : n < 0x110000 := by
    unfold IsScalar at hn
    omega
  unfold encodeCode
  split_ifs with h1 h2 h3
  · rw [List.singleton_append, decodeReplace.eq_def]
    simp only [toNat_ofNat (by omega : n < 256), if_pos h1]
  · rw [List.cons_append, List.singleton_append, decodeReplace.eq_def]
    simp only [isSecond_two (by omega) h2, tailBits_tailByte, Bool.not_true]
    rw [toNat_ofNat (by omega), if_neg (by omega), if_neg (by omega), if_neg Bool.false_ne_true,
      if_pos (by omega), (by omega : (0xC0 + n / 64 - 0xC0) * 64 + n % 64 = n)]
  · rw [List.cons_append, List.cons_append, List.singleton_append, decodeReplace.eq_def]
    have hvalue : (0xE0 + n / 4096 - 0xE0) * 4096 + n / 64 % 64 * 64 + n % 64 = n := by omega
    simp only [isSecond_three hn (by omega) h3, isTail_tailByte, tailBits_tailByte, Bool.not_true]
    rw [toNat_ofNat (by omega), if_neg (by omega), if_neg (by omega), if_neg Bool.false_ne_true,
      if_neg (by omega), if_neg Bool.false_ne_true, if_pos (by omega), hvalue]
  · rw [List.cons_append, List.cons_append, List.cons_append, List.singleton_append,
      decodeReplace.eq_def]
    have hvalue : (0xF0 + n / 262144 - 0xF0) * 262144 + n / 4096 % 64 * 4096 + n / 64 % 64 * 64 +
        n % 64 = n := by omega
    simp only [isSecond_four (by omega) hlt, isTail_tailByte, tailBits_tailByte, Bool.not_true]
    rw [toNat_ofNat (by omega), if_neg (by omega), if_neg (by omega), if_neg Bool.false_ne_true,
      if_neg (by omega), if_neg Bool.false_ne_true, if_neg (by omega), if_neg Bool.false_ne_true,
      hvalue]

/-- **A code point that breaks off** is the replacement character. -/
lemma decodeReplace_cut (hn : IsScalar n) {k : ℕ} (hpos : k ≠ 0) (hk : k < (encodeCode n).length) :
    decodeReplace ((encodeCode n).take k) = [replacement] := by
  have hlt : n < 0x110000 := by
    unfold IsScalar at hn
    omega
  unfold encodeCode at hk ⊢
  split_ifs at hk ⊢ with h1 h2 h3
  · rw [List.length_singleton] at hk
    omega
  · simp only [List.length_cons, List.length_nil] at hk
    obtain rfl : k = 1 := by omega
    simp only [List.take_succ_cons, List.take_zero]
    rw [decodeReplace.eq_def]
    simp only [toNat_ofNat (by omega : 0xC0 + n / 64 < 256)]
    rw [if_neg (by omega), if_neg (by omega)]
  · simp only [List.length_cons, List.length_nil] at hk
    obtain rfl | rfl : k = 1 ∨ k = 2 := by omega
    all_goals
      simp only [List.take_succ_cons, List.take_zero]
      rw [decodeReplace.eq_def]
      simp only [isSecond_three hn (by omega) h3, Bool.not_true]
      rw [toNat_ofNat (by omega), if_neg (by omega), if_neg (by omega)]
    rw [if_neg Bool.false_ne_true, if_neg (by omega)]
  · simp only [List.length_cons, List.length_nil] at hk
    obtain rfl | rfl | rfl : k = 1 ∨ k = 2 ∨ k = 3 := by omega
    all_goals
      simp only [List.take_succ_cons, List.take_zero]
      rw [decodeReplace.eq_def]
      simp only [isSecond_four (by omega) hlt, isTail_tailByte, Bool.not_true]
      rw [toNat_ofNat (by omega), if_neg (by omega), if_neg (by omega)]
    · rw [if_neg Bool.false_ne_true, if_neg (by omega)]
    · rw [if_neg Bool.false_ne_true, if_neg (by omega), if_neg Bool.false_ne_true,
        if_neg (by omega)]

/-- **The first bytes of a text** are read as what they show. -/
theorem decodeReplace_take (htext : ∀ n ∈ text, IsScalar n) (k : ℕ) :
    decodeReplace ((encode text).take k) = firstChars k text := by
  induction text generalizing k with
  | nil =>
    have hnil : (encode []).take k = [] := List.take_nil
    rw [hnil, firstChars, decodeReplace]
  | cons n text ih =>
    have hn := htext n List.mem_cons_self
    show decodeReplace ((encodeCode n ++ encode text).take k) = _
    rw [firstChars]
    split_ifs with hzero hfits
    · rw [hzero, List.take_zero, decodeReplace]
    · rw [List.take_append, List.take_of_length_le hfits, decodeReplace_encodeCode hn,
        ih fun m hm => htext m (List.mem_cons_of_mem _ hm)]
    · rw [List.take_append_of_le_length (by omega), decodeReplace_cut hn hzero (by omega)]

/-- Enough bytes show the text. -/
lemma firstChars_of_le {k : ℕ} (h : (encode text).length ≤ k) : firstChars k text = text := by
  induction text generalizing k with
  | nil => rfl
  | cons n text ih =>
    have hlength : (encode (n :: text)).length = (encodeCode n).length + (encode text).length :=
      List.length_append
    have hpos := List.length_pos_iff.mpr (encodeCode_ne_nil n)
    rw [firstChars, if_neg (by omega), if_pos (by omega), ih (by omega)]

/-- A text whose bytes are shown, and what is shown behind it. -/
lemma firstChars_append {k : ℕ} {before : List ℕ} (h : (encode before).length ≤ k)
    (after : List ℕ) :
    firstChars k (before ++ after) = before ++ firstChars (k - (encode before).length) after := by
  induction before generalizing k with
  | nil => rfl
  | cons n before ih =>
    have hlength : (encode (n :: before)).length = (encodeCode n).length + (encode before).length :=
      List.length_append
    have hpos := List.length_pos_iff.mpr (encodeCode_ne_nil n)
    rw [List.cons_append, firstChars, if_neg (by omega), if_pos (by omega), ih (by omega), hlength,
      Nat.sub_add_eq, List.cons_append]

/-- ASCII characters are shown by their own bytes. -/
lemma firstChars_ascii (h : ∀ n ∈ text, n < 0x80) (k : ℕ) : firstChars k text = text.take k := by
  induction text generalizing k with
  | nil => rw [firstChars, List.take_nil]
  | cons n text ih =>
    have hlength : (encodeCode n).length = 1 := by
      rw [encodeCode, if_pos (h n List.mem_cons_self), List.length_singleton]
    cases k with
    | zero => rw [firstChars, if_pos rfl, List.take_zero]
    | succ k =>
      rw [firstChars, if_neg (by omega), hlength, if_pos (by omega), Nat.add_sub_cancel,
        ih fun m hm => h m (List.mem_cons_of_mem _ hm), List.take_succ_cons]

end Utf8
