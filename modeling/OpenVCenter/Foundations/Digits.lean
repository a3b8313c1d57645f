import Mathlib.Data.List.Basic
import Mathlib.Data.Nat.Digits.Defs

set_option relaxedAutoImplicit false
set_option autoImplicit false

/-!
# Numbers of a fixed width

Numbers in a base up to 16, written with leading zeros in a given number of digits, and read back.

## Main definitions

* `Digits.write`, `Digits.read` — a number as digits, and the digits as a number.
* `Digits.take` — read the digits at the start of a text.

## Main results

* `Digits.read_write` — reading a number that fits its width gives it back.
* `Digits.take_write` — the same at the start of a text.
* `Digits.toString_injective` — integers in decimal are told apart by their texts.
-/

namespace Digits

/-- The value of a digit of the base, in lower or upper case. -/
def value (base : ℕ) (c : Char) : Option ℕ :=
  (List.range base).find? fun d => decide (Nat.digitChar d = c.toLower)

/-- The last `width` digits of `n`, with leading zeros. -/
def write (base : ℕ) : ℕ → ℕ → List Char
  | 0, _ => []
  | width + 1, n => write base width (n / base) ++ [Nat.digitChar (n % base)]

/-- The number of the digits; none if a character is no digit. -/
def read (base : ℕ) (digits : List Char) : Option ℕ :=
  digits.foldlM (fun n c => (value base c).map fun d => n * base + d) 0

/-- The number of the first `width` characters, and the rest. -/
def take (base width : ℕ) (text : List Char) : Option (ℕ × List Char) :=
  if text.length < width then none
  else (read base (text.take width)).map fun n => (n, text.drop width)

variable {base width n : ℕ}

/-- A number is written at its width. -/
@[simp] theorem length_write : (write base width n).length = width := by
  induction width generalizing n with
  | zero => rfl
  | succ width ih => rw [write, List.length_append, ih, List.length_singleton]

/-- A digit has its value. -/
theorem value_digitChar {d : ℕ} (hbase : base ≤ 16) (hd : d < base) :
    value base (Nat.digitChar d) = some d := by
  have hlower : ∀ d < 16, (Nat.digitChar d).toLower = Nat.digitChar d := by decide
  have hinj : ∀ d < 16, ∀ e < 16, Nat.digitChar e = Nat.digitChar d → e = d := by decide
  unfold value
  rw [hlower d (hd.trans_le hbase), List.find?_range_eq_some]
  refine ⟨by simp, List.mem_range.mpr hd, fun e he => ?_⟩
  have hne : Nat.digitChar e ≠ Nat.digitChar d := fun heq =>
    absurd (hinj d (hd.trans_le hbase) e (by omega) heq) (by omega)
  simpa using hne

/-- **Reading a number** that fits its width gives it back. -/
theorem read_write (hpos : 0 < base) (hbase : base ≤ 16) (hn : n < base ^ width) :
    read base (write base width n) = some n := by
  induction width generalizing n with
  | zero =>
    have hzero : n = 0 := by simpa using hn
    rw [hzero]
    rfl
  | succ width ih =>
    have hquot : n / base < base ^ width := Nat.div_lt_of_lt_mul (by rwa [← pow_succ'])
    have hprefix : (write base width (n / base)).foldlM
        (fun n c => (value base c).map fun d => n * base + d) 0 = some (n / base) := ih hquot
    unfold read
    rw [write, List.foldlM_append, hprefix]
    simp only [Option.bind_eq_bind, Option.bind_some, List.foldlM_cons, List.foldlM_nil,
      value_digitChar hbase (Nat.mod_lt n hpos), Option.map_some, Option.pure_def]
    rw [Nat.div_add_mod']

/-- The number at the start of a text. -/
theorem take_write (hpos : 0 < base) (hbase : base ≤ 16) (hn : n < base ^ width)
    (rest : List Char) : take base width (write base width n ++ rest) = some (n, rest) := by
  unfold take
  rw [if_neg (by simp), List.take_left' length_write, List.drop_left' length_write,
    read_write hpos hbase hn, Option.map_some]

/-- The characters of a number are digits of the base. -/
theorem mem_write {c : Char} (hpos : 0 < base) (h : c ∈ write base width n) :
    ∃ d < base, c = Nat.digitChar d := by
  induction width generalizing n with
  | zero => exact absurd h List.not_mem_nil
  | succ width ih =>
    rw [write, List.mem_append, List.mem_singleton] at h
    rcases h with h | h
    · exact ih h
    · exact ⟨n % base, Nat.mod_lt n hpos, h⟩

/-! ## Integers in decimal -/

/-- A character of an integer is a digit or the sign. -/
theorem mem_toString {c : Char} {i : ℤ} (h : c ∈ (toString i).toList) :
    c.isDigit = true ∨ c = '-' := by
  have hnat : ∀ {n : ℕ}, c ∈ n.repr.toList → c.isDigit = true := by
    intro n hn
    rw [Nat.toList_repr] at hn
    exact Nat.isDigit_of_mem_toDigits (by decide) (by decide) hn
  cases i with
  | ofNat n => exact Or.inl (hnat h)
  | negSucc n =>
    change c ∈ ("-" ++ n.succ.repr).toList at h
    rw [String.toList_append, List.mem_append] at h
    rcases h with h | h
    · exact Or.inr (List.mem_singleton.mp h)
    · exact Or.inl (hnat h)

/-- Numbers are written apart. -/
lemma repr_injective {m n : ℕ} (h : m.repr.toList = n.repr.toList) : m = n := by
  rw [Nat.toList_repr, Nat.toList_repr] at h
  rw [← Nat.ofDigitChars_ten_toDigits (n := m), h, Nat.ofDigitChars_ten_toDigits]

/-- **Integers in decimal** are told apart by their texts. -/
theorem toString_injective {i j : ℤ} (h : (toString i).toList = (toString j).toList) : i = j := by
  have hsign : ∀ m n : ℕ, m.repr.toList ≠ ("-" ++ n.repr).toList := by
    intro m n heq
    have hmem : '-' ∈ m.repr.toList := by
      rw [heq, String.toList_append]
      exact List.mem_append_left _ (List.mem_singleton_self '-')
    rw [Nat.toList_repr] at hmem
    exact absurd (Nat.isDigit_of_mem_toDigits (by decide) (by decide) hmem) (by decide)
  cases i with
  | ofNat m =>
    cases j with
    | ofNat n => rw [repr_injective (m := m) (n := n) h]
    | negSucc n => exact absurd h (hsign m n.succ)
  | negSucc m =>
    cases j with
    | ofNat n => exact absurd h.symm (hsign n m.succ)
    | negSucc n =>
      change ("-" ++ m.succ.repr).toList = ("-" ++ n.succ.repr).toList at h
      rw [String.toList_append, String.toList_append, List.append_cancel_left_eq] at h
      rw [Nat.succ.inj (repr_injective h)]

end Digits
