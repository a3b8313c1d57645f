import Mathlib.Data.List.GetD
import Mathlib.Data.UInt
import Mathlib.Tactic.Ring
import Mathlib.Tactic.IntervalCases

set_option relaxedAutoImplicit false
set_option autoImplicit false

/-!
# The URL-safe base64 code

Bytes as characters of six bits each, and back. The reader is the lenient one: it skips the
characters outside the alphabet and stops at a padding that completes a group of four.

## Main definitions

* `Base64.encode` — three bytes as four characters, the last group without its padding.
* `Base64.decode` — the bytes of a padded text.

## Main results

* `Base64.decode_encode` — decoding gives the bytes back once the padding is restored.
-/

namespace Base64

/-- The characters of the values 0 to 63. -/
def alphabet : List Char :=
  "ABCDEFGHIJKLMNOPQRSTUVWXYZabcdefghijklmnopqrstuvwxyz0123456789-_".toList

/-- The character of a value. -/
def symbol (v : ℕ) : Char := alphabet.getD v 'A'

/-- The value of a character; the characters of the other alphabet are read as well. -/
def value (c : Char) : Option ℕ :=
  if c = '+' then some 62
  else if c = '/' then some 63
  else if c ∈ alphabet then some (alphabet.idxOf c)
  else none

/-- The alphabet, letter by letter. -/
private lemma alphabet_eq : alphabet =
    ['A', 'B', 'C', 'D', 'E', 'F', 'G', 'H', 'I', 'J', 'K', 'L', 'M', 'N', 'O', 'P', 'Q', 'R', 'S',
      'T', 'U', 'V', 'W', 'X', 'Y', 'Z', 'a', 'b', 'c', 'd', 'e', 'f', 'g', 'h', 'i', 'j', 'k', 'l',
      'm', 'n', 'o', 'p', 'q', 'r', 's', 't', 'u', 'v', 'w', 'x', 'y', 'z', '0', '1', '2', '3', '4',
      '5', '6', '7', '8', '9', '-', '_'] := String.toList_ofList

/-- It has 64 letters. -/
private lemma length_alphabet : alphabet.length = 64 := by
  rw [alphabet_eq]
  rfl

/-- No letter comes twice. -/
private lemma alphabet_nodup : alphabet.Nodup := by
  rw [alphabet_eq]
  decide +kernel

/-- The alphabet is ASCII, and has neither the padding nor what the other alphabet has for 62 and
63. -/
private lemma mem_alphabet {c : Char} (h : c ∈ alphabet) :
    c ≠ '=' ∧ c ≠ '+' ∧ c ≠ '/' ∧ c.toNat < 128 := by
  have hall : (alphabet.all fun c => decide (c ≠ '=' ∧ c ≠ '+' ∧ c ≠ '/' ∧ c.toNat < 128)) =
      true := by
    rw [alphabet_eq]
    rfl
  exact of_decide_eq_true (List.all_eq_true.mp hall c h)

/-- A symbol is a letter of the alphabet. -/
private lemma symbol_eq {v : ℕ} (h : v < 64) :
    symbol v = alphabet.get ⟨v, length_alphabet ▸ h⟩ :=
  List.getD_eq_getElem _ _ (length_alphabet ▸ h)

/-- It is in the alphabet. -/
private lemma symbol_mem {v : ℕ} (h : v < 64) : symbol v ∈ alphabet := by
  rw [symbol_eq h]
  exact List.get_mem _ _

/-- It is not the padding. -/
theorem symbol_ne_pad {v : ℕ} (h : v < 64) : symbol v ≠ '=' := (mem_alphabet (symbol_mem h)).1

/-- It is ASCII. -/
theorem symbol_ascii {v : ℕ} (h : v < 64) : (symbol v).toNat < 128 :=
  (mem_alphabet (symbol_mem h)).2.2.2

/-- A symbol has its value. -/
theorem value_symbol {v : ℕ} (h : v < 64) : value (symbol v) = some v := by
  obtain ⟨-, hplus, hslash, -⟩ := mem_alphabet (symbol_mem h)
  unfold value
  rw [if_neg hplus, if_neg hslash, if_pos (symbol_mem h), symbol_eq h,
    List.get_eq_getElem, alphabet_nodup.idxOf_getElem]

/-- The characters of the bytes, without padding. -/
def encode : List UInt8 → List Char
  | [] => []
  | [a] => [symbol (a.toNat / 4), symbol (a.toNat % 4 * 16)]
  | [a, b] =>
    [symbol (a.toNat / 4), symbol (a.toNat % 4 * 16 + b.toNat / 16), symbol (b.toNat % 16 * 4)]
  | a :: b :: c :: rest =>
    symbol (a.toNat / 4) :: symbol (a.toNat % 4 * 16 + b.toNat / 16) ::
      symbol (b.toNat % 16 * 4 + c.toNat / 64) :: symbol (c.toNat % 64) :: encode rest

/-- The reader, in a group of which `pos` characters are read. `left` is what is left of the bits of
the last one, and `pads` the number of padding characters since. -/
def decodeFrom : ℕ → ℕ → ℕ → List Char → Option (List UInt8)
  | pos, _, _, [] => if pos = 0 then some [] else none
  | pos, left, pads, c :: cs =>
    if c = '=' then
      if 2 ≤ pos then
        if 4 ≤ pos + (pads + 1) then some [] else decodeFrom pos left (pads + 1) cs
      else decodeFrom pos left pads cs
    else
      match value c, pos with
      | none, _ => decodeFrom pos left pads cs
      | some v, 0 => decodeFrom 1 v 0 cs
      | some v, 1 => (decodeFrom 2 (v % 16) 0 cs).map (UInt8.ofNat (left * 4 + v / 16) :: ·)
      | some v, 2 => (decodeFrom 3 (v % 4) 0 cs).map (UInt8.ofNat (left * 16 + v / 4) :: ·)
      | some v, _ => (decodeFrom 0 0 0 cs).map (UInt8.ofNat (left * 64 + v) :: ·)

/-- The bytes of a text; none for an incomplete group, or a character that is not ASCII. -/
def decode (text : List Char) : Option (List UInt8) :=
  if text.all fun c => decide (c.toNat < 128) then decodeFrom 0 0 0 text else none

/-- The padding that completes a text of `length` characters. -/
def padding (length : ℕ) : List Char := List.replicate ((4 - length % 4) % 4) '='

/-! ## Single characters -/

section Step

variable {v left pads : ℕ} {cs : List Char}

/-- The first symbol of a group. -/
@[simp] theorem decodeFrom_zero (h : v < 64) :
    decodeFrom 0 left pads (symbol v :: cs) = decodeFrom 1 v 0 cs := by
  conv_lhs => unfold decodeFrom
  simp only [symbol_ne_pad h, if_false, value_symbol h]

/-- The second gives a byte. -/
@[simp] theorem decodeFrom_one (h : v < 64) : decodeFrom 1 left pads (symbol v :: cs) =
    (decodeFrom 2 (v % 16) 0 cs).map (UInt8.ofNat (left * 4 + v / 16) :: ·) := by
  conv_lhs => unfold decodeFrom
  simp only [symbol_ne_pad h, if_false, value_symbol h]

/-- The third gives a byte. -/
@[simp] theorem decodeFrom_two (h : v < 64) : decodeFrom 2 left pads (symbol v :: cs) =
    (decodeFrom 3 (v % 4) 0 cs).map (UInt8.ofNat (left * 16 + v / 4) :: ·) := by
  conv_lhs => unfold decodeFrom
  simp only [symbol_ne_pad h, if_false, value_symbol h]

/-- The fourth gives the last byte of the group. -/
@[simp] theorem decodeFrom_three (h : v < 64) : decodeFrom 3 left pads (symbol v :: cs) =
    (decodeFrom 0 0 0 cs).map (UInt8.ofNat (left * 64 + v) :: ·) := by
  conv_lhs => unfold decodeFrom
  simp only [symbol_ne_pad h, if_false, value_symbol h]

end Step

/-! ## Texts -/

/-- A byte put together from its parts. -/
private lemma byte_of_parts {a : UInt8} {n : ℕ} (h : n = a.toNat) : UInt8.ofNat n = a := by
  rw [h, UInt8.ofNat_toNat]

/-- The groups of the bytes, read back.

**Proof sketch.** Induction on the bytes, three at a time. Four symbols give three bytes back, each
put together from the parts that `encode` has cut it into; one or two bytes at the end are followed
by their padding. -/
private lemma decodeFrom_encode (bytes : List UInt8) :
    decodeFrom 0 0 0 (encode bytes ++ padding (encode bytes).length) = some bytes := by
  induction bytes using encode.induct with
  | case1 => rfl
  | case2 a =>
    have ha := a.toNat_lt
    have hpad : padding (encode [a]).length = ['=', '='] := rfl
    rw [hpad, encode, List.cons_append, List.cons_append, decodeFrom_zero (by omega),
      decodeFrom_one (by omega)]
    have hfirst : UInt8.ofNat (a.toNat / 4 * 4 + a.toNat % 4 * 16 / 16) = a :=
      byte_of_parts (by omega)
    rw [hfirst]
    rfl
  | case3 a b =>
    have ha := a.toNat_lt
    have hb := b.toNat_lt
    have hpad : padding (encode [a, b]).length = ['='] := rfl
    rw [hpad, encode, List.cons_append, List.cons_append, List.cons_append,
      decodeFrom_zero (by omega), decodeFrom_one (by omega), decodeFrom_two (by omega)]
    have hfirst : UInt8.ofNat (a.toNat / 4 * 4 + (a.toNat % 4 * 16 + b.toNat / 16) / 16) = a :=
      byte_of_parts (by omega)
    have hsecond : UInt8.ofNat ((a.toNat % 4 * 16 + b.toNat / 16) % 16 * 16 +
        b.toNat % 16 * 4 / 4) = b := byte_of_parts (by omega)
    rw [hfirst, hsecond]
    rfl
  | case4 a b c rest ih =>
    have ha := a.toNat_lt
    have hb := b.toNat_lt
    have hc := c.toNat_lt
    have hpad : padding (encode (a :: b :: c :: rest)).length = padding (encode rest).length := by
      unfold padding
      rw [encode]
      simp only [List.length_cons]
      congr 1
      omega
    rw [hpad, encode, List.cons_append, List.cons_append, List.cons_append, List.cons_append,
      decodeFrom_zero (by omega), decodeFrom_one (by omega), decodeFrom_two (by omega),
      decodeFrom_three (by omega), ih]
    have hfirst : UInt8.ofNat (a.toNat / 4 * 4 + (a.toNat % 4 * 16 + b.toNat / 16) / 16) = a :=
      byte_of_parts (by omega)
    have hsecond : UInt8.ofNat ((a.toNat % 4 * 16 + b.toNat / 16) % 16 * 16 +
        (b.toNat % 16 * 4 + c.toNat / 64) / 4) = b := byte_of_parts (by omega)
    have hthird : UInt8.ofNat ((b.toNat % 16 * 4 + c.toNat / 64) % 4 * 64 + c.toNat % 64) = c :=
      byte_of_parts (by omega)
    simp only [Option.map_some, hfirst, hsecond, hthird]

/-- The text of the bytes is made of characters of the alphabet. -/
theorem mem_encode {bytes : List UInt8} {c : Char} (h : c ∈ encode bytes) :
    ∃ v < 64, c = symbol v := by
  induction bytes using encode.induct with
  | case1 => exact absurd h List.not_mem_nil
  | case2 a =>
    have ha := a.toNat_lt
    simp only [encode, List.mem_cons, List.not_mem_nil, or_false] at h
    rcases h with h | h
    · exact ⟨_, by omega, h⟩
    · exact ⟨_, by omega, h⟩
  | case3 a b =>
    have ha := a.toNat_lt
    have hb := b.toNat_lt
    simp only [encode, List.mem_cons, List.not_mem_nil, or_false] at h
    rcases h with h | h | h
    · exact ⟨_, by omega, h⟩
    · exact ⟨_, by omega, h⟩
    · exact ⟨_, by omega, h⟩
  | case4 a b c' rest ih =>
    have ha := a.toNat_lt
    have hb := b.toNat_lt
    have hc := c'.toNat_lt
    simp only [encode, List.mem_cons] at h
    rcases h with h | h | h | h | h
    · exact ⟨_, by omega, h⟩
    · exact ⟨_, by omega, h⟩
    · exact ⟨_, by omega, h⟩
    · exact ⟨_, by omega, h⟩
    · exact ih h

/-- The text of some bytes is not empty. -/
theorem encode_ne_nil {bytes : List UInt8} (h : bytes ≠ []) : encode bytes ≠ [] := by
  induction bytes using encode.induct with
  | case1 => exact absurd rfl h
  | case2 a => exact List.cons_ne_nil _ _
  | case3 a b => exact List.cons_ne_nil _ _
  | case4 a b c rest => exact List.cons_ne_nil _ _

/-- **Decoding gives the bytes back** once the padding is restored. -/
theorem decode_encode (bytes : List UInt8) :
    decode (encode bytes ++ padding (encode bytes).length) = some bytes := by
  unfold decode
  rw [if_pos, decodeFrom_encode]
  refine List.all_eq_true.mpr fun c hc => ?_
  rw [decide_eq_true_eq]
  rcases List.mem_append.mp hc with hc | hc
  · obtain ⟨v, hv, rfl⟩ := mem_encode hc
    exact symbol_ascii hv
  · rw [List.eq_of_mem_replicate hc]
    decide

end Base64
