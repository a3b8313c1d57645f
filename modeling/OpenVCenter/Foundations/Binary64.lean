import Mathlib.Data.Int.Log
import Mathlib.Data.Rat.Floor
import Mathlib.Tactic.Linarith
import Mathlib.Tactic.NormNum

set_option relaxedAutoImplicit false
set_option autoImplicit false

/-!
# Doubles as rationals

A double is its exact value: an integer of at most 53 bits at a power of two. A rational is rounded
to the nearest double, ties to even.

## Main definitions

* `Binary64.Representable`, `Binary64.Double` — the values of doubles.
* `Binary64.roundHalfEven` — the nearest integer, ties to even.
* `Binary64.round` — the nearest double; none beyond the largest one.

## Main results

* `Binary64.round_value` — a double is its own rounding.
* `Binary64.representable_roundHalfEven` — the nearest integer of a double is a double.
* `Binary64.representable_mul_pow` — a product with a power of two is exact.
-/

namespace Binary64

/-- An integer of at most 53 bits at a power of two, below `2 ^ 1024`. -/
def Representable (q : ℚ) : Prop :=
  ∃ m e : ℤ, |m| ≤ 2 ^ 53 ∧ -1074 ≤ e ∧ q = m * (2 : ℚ) ^ e ∧ |q| < 2 ^ 1024

/-- A finite double. -/
@[ext] structure Double where
  value : ℚ
  representable : Representable value

/-- The integer nearest to `q`, ties to even. -/
def roundHalfEven (q : ℚ) : ℤ :=
  let f := ⌊q⌋
  if q - f < 1 / 2 then f
  else if 1 / 2 < q - f then f + 1
  else if f % 2 = 0 then f else f + 1

/-- The exponent of the last bit of a double near `q`. -/
def lastExponent (q : ℚ) : ℤ := max (Int.log 2 |q| - 52) (-1074)

/-- The nearest double, were there no largest one. -/
def nearest (q : ℚ) : ℚ :=
  if q = 0 then 0 else roundHalfEven (q / 2 ^ lastExponent q) * (2 : ℚ) ^ lastExponent q

/-! ## The nearest integer -/

section RoundHalfEven

variable {q : ℚ}

/-- An integer is rounded to itself. -/
@[simp] theorem roundHalfEven_intCast (n : ℤ) : roundHalfEven n = n := by
  unfold roundHalfEven
  simp only [Int.floor_intCast, sub_self]
  exact if_pos (by norm_num)

/-- The nearest integer is the floor, or the next one above a fraction. -/
theorem roundHalfEven_cases (q : ℚ) :
    roundHalfEven q = ⌊q⌋ ∨ roundHalfEven q = ⌊q⌋ + 1 ∧ (⌊q⌋ : ℚ) < q := by
  have hfraction : ¬ q - ⌊q⌋ < 1 / 2 → (⌊q⌋ : ℚ) < q := fun h => by linarith
  unfold roundHalfEven
  dsimp only
  split_ifs with hbelow habove heven
  · exact Or.inl rfl
  · exact Or.inr ⟨rfl, hfraction hbelow⟩
  · exact Or.inl rfl
  · exact Or.inr ⟨rfl, hfraction hbelow⟩

/-- Rounding does not pass an integer from below. -/
theorem roundHalfEven_le {n : ℤ} (h : q ≤ n) : roundHalfEven q ≤ n := by
  rcases roundHalfEven_cases q with hround | ⟨hround, hlt⟩
  · rw [hround]
    exact_mod_cast (Int.floor_le q).trans h
  · rw [hround]
    have hfloor : ⌊q⌋ < n := by exact_mod_cast hlt.trans_le h
    exact hfloor

/-- Nor from above. -/
theorem le_roundHalfEven {n : ℤ} (h : (n : ℚ) ≤ q) : n ≤ roundHalfEven q := by
  have hfloor : n ≤ ⌊q⌋ := Int.le_floor.mpr h
  rcases roundHalfEven_cases q with hround | ⟨hround, -⟩
  · rwa [hround]
  · rw [hround]
    exact hfloor.trans (by omega)

/-- Nor away from zero. -/
theorem abs_roundHalfEven_le {n : ℤ} (h : |q| ≤ n) : |roundHalfEven q| ≤ n := by
  obtain ⟨hlo, hhi⟩ := abs_le.mp h
  refine abs_le.mpr ⟨le_roundHalfEven ?_, roundHalfEven_le hhi⟩
  exact_mod_cast hlo

/-- Nor towards it. -/
theorem le_abs_roundHalfEven {n : ℤ} (h : n ≤ |q|) : n ≤ |roundHalfEven q| := by
  rcases le_abs.mp h with h | h
  · exact (le_roundHalfEven h).trans (le_abs_self _)
  · have hneg : q ≤ (-n : ℤ) := by
      rw [Int.cast_neg]
      linarith
    have hround := roundHalfEven_le hneg
    exact le_abs.mpr (Or.inr (by omega))

/-- A half and less is rounded to zero. -/
theorem roundHalfEven_eq_zero : roundHalfEven q = 0 ↔ |q| ≤ 1 / 2 := by
  have hlo := Int.floor_le q
  have hhi := Int.lt_floor_add_one q
  rw [abs_le]
  constructor
  · intro h
    unfold roundHalfEven at h
    dsimp only at h
    split_ifs at h with hbelow habove heven
    · rw [h] at hbelow hlo
      norm_num at hbelow hlo
      exact ⟨by linarith, by linarith⟩
    · obtain hfloor : ⌊q⌋ = -1 := by omega
      rw [hfloor] at habove hhi
      norm_num at habove hhi
      exact ⟨by linarith, by linarith⟩
    · rw [h] at hbelow habove
      norm_num at hbelow habove
      exact ⟨by linarith, by linarith⟩
    · obtain hfloor : ⌊q⌋ = -1 := by omega
      rw [hfloor] at hbelow habove
      norm_num at hbelow habove
      exact ⟨by linarith, by linarith⟩
  · rintro ⟨hge, hle⟩
    have hge' : (-1 : ℤ) ≤ ⌊q⌋ := Int.le_floor.mpr (by norm_num; linarith)
    have hlt : ⌊q⌋ < 1 := Int.floor_lt.mpr (by norm_num; linarith)
    unfold roundHalfEven
    dsimp only
    obtain hfloor | hfloor : ⌊q⌋ = 0 ∨ ⌊q⌋ = -1 := by omega
    · rw [hfloor]
      norm_num
      intro h
      linarith
    · rw [hfloor]
      norm_num
      linarith

end RoundHalfEven

/-! ## Representable values -/

section Representable

variable {q : ℚ} {n : ℤ}

/-- Small integers are representable. -/
theorem representable_intCast (h : |n| ≤ 2 ^ 53) : Representable n := by
  refine ⟨n, 0, h, by norm_num, by simp, ?_⟩
  have habs : |(n : ℚ)| ≤ 2 ^ 53 := by exact_mod_cast h
  exact habs.trans_lt (pow_lt_pow_right₀ (by norm_num) (by norm_num))

/-- Zero is representable. -/
theorem representable_zero : Representable 0 := by
  simpa using representable_intCast (n := 0) (by norm_num)

/-- A product with a power of two is exact, unless it is too large. -/
theorem representable_mul_pow (h : Representable q) (k : ℕ) (hrange : |q * 2 ^ k| < 2 ^ 1024) :
    Representable (q * 2 ^ k) := by
  obtain ⟨m, e, hm, he, rfl, -⟩ := h
  refine ⟨m, e + k, hm, by omega, ?_, hrange⟩
  rw [zpow_add₀ (by norm_num), zpow_natCast, mul_assoc]

/-- The nearest integer of a double is a double. -/
theorem representable_roundHalfEven (h : Representable q) :
    Representable (roundHalfEven q : ℤ) := by
  obtain ⟨m, e, hm, he, hq, hrange⟩ := h
  rcases le_or_gt 0 e with hwhole | hfraction
  · -- the double is an integer
    have hint : q = ((m * 2 ^ e.toNat : ℤ) : ℚ) := by
      rw [hq]
      push_cast
      rw [← zpow_natCast, Int.toNat_of_nonneg hwhole]
    rw [hint, roundHalfEven_intCast, ← hint]
    exact ⟨m, e, hm, he, hq, hrange⟩
  · have hpow : (2 : ℚ) ^ e ≤ 1 := zpow_le_one_of_nonpos₀ (by norm_num) hfraction.le
    have hsmall : |q| ≤ ((2 ^ 53 : ℤ) : ℚ) := by
      have hmq : |(m : ℚ)| ≤ ((2 ^ 53 : ℤ) : ℚ) := by exact_mod_cast hm
      have hscale : (0 : ℚ) < 2 ^ e := zpow_pos two_pos e
      calc |q| = |(m : ℚ)| * 2 ^ e := by rw [hq, abs_mul, abs_of_pos hscale]
        _ ≤ |(m : ℚ)| * 1 := mul_le_mul_of_nonneg_left hpow (abs_nonneg _)
        _ ≤ ((2 ^ 53 : ℤ) : ℚ) := by rwa [mul_one]
    exact representable_intCast (abs_roundHalfEven_le hsmall)

end Representable

/-! ## Rounding -/

section Round

variable {q : ℚ}

/-- The significand of the nearest double has at most 53 bits. -/
theorem abs_div_lastExponent_le (q : ℚ) : |q / 2 ^ lastExponent q| ≤ ((2 ^ 53 : ℤ) : ℚ) := by
  have hpos : (0 : ℚ) < 2 ^ lastExponent q := zpow_pos two_pos _
  rw [abs_div, abs_of_pos hpos, div_le_iff₀ hpos]
  have hexp : Int.log 2 |q| + 1 ≤ 53 + lastExponent q := by
    unfold lastExponent
    omega
  calc |q| ≤ (2 : ℚ) ^ (Int.log 2 |q| + 1) := (Int.lt_zpow_succ_log_self (by norm_num) |q|).le
    _ ≤ (2 : ℚ) ^ (53 + lastExponent q) := zpow_le_zpow_right₀ (by norm_num) hexp
    _ = ((2 ^ 53 : ℤ) : ℚ) * 2 ^ lastExponent q := by
      rw [zpow_add₀ (by norm_num)]
      norm_num

/-- So is the nearest double, unless it overflows. -/
theorem representable_nearest (h : |nearest q| < 2 ^ 1024) : Representable (nearest q) := by
  by_cases hq : q = 0
  · rw [nearest, if_pos hq]
    exact representable_zero
  · rw [nearest, if_neg hq] at h ⊢
    exact ⟨_, _, abs_roundHalfEven_le (abs_div_lastExponent_le q), le_max_right _ _, rfl, h⟩

/-- The nearest double; none beyond the largest one. -/
def round (q : ℚ) : Option Double :=
  if h : |nearest q| < 2 ^ 1024 then some ⟨nearest q, representable_nearest h⟩ else none

/-- A representable value is a whole multiple of its last bit.

**Proof sketch.** The value is `m * 2 ^ e` with `|m| ≤ 2 ^ 53`, so its last bit is at most one place
above `e`. Where it is not above, the factor is shifted into `m`; where it is, `m` is `2 ^ 53`
itself and is halved. -/
theorem exists_eq_mul_lastExponent (h : Representable q) :
    ∃ n : ℤ, q = n * (2 : ℚ) ^ lastExponent q := by
  obtain ⟨m, e, hm, he, hq, -⟩ := h
  rcases eq_or_ne q 0 with hzero | hne
  · exact ⟨0, by simpa using hzero⟩
  have hpos : 0 < |q| := abs_pos.mpr hne
  have hlog : (2 : ℚ) ^ Int.log 2 |q| ≤ |q| := Int.zpow_log_le_self (by norm_num) hpos
  have hscale : (0 : ℚ) < 2 ^ e := zpow_pos two_pos e
  have habs : |q| = |(m : ℚ)| * 2 ^ e := by rw [hq, abs_mul, abs_of_pos hscale]
  have hmq : |(m : ℚ)| ≤ (2 : ℚ) ^ (53 : ℤ) := by exact_mod_cast hm
  have hle : Int.log 2 |q| ≤ 53 + e := by
    have hpow : (2 : ℚ) ^ Int.log 2 |q| ≤ 2 ^ (53 + e) := by
      refine hlog.trans ?_
      rw [habs, zpow_add₀ (by norm_num)]
      exact mul_le_mul_of_nonneg_right hmq hscale.le
    exact (zpow_le_zpow_iff_right₀ (by norm_num)).mp hpow
  rcases le_or_gt (lastExponent q) e with hfine | hcoarse
  · -- the last bit of the significand is above that of the double
    refine ⟨m * 2 ^ (e - lastExponent q).toNat, hq.trans ?_⟩
    push_cast
    rw [mul_assoc, ← zpow_natCast, Int.toNat_of_nonneg (by omega), ← zpow_add₀ (by norm_num),
      sub_add_cancel]
  · -- the significand is `2 ^ 53` itself
    have hexp : Int.log 2 |q| = 53 + e ∧ lastExponent q = e + 1 := by
      unfold lastExponent at hcoarse ⊢
      omega
    have hfull : |(m : ℚ)| = 2 ^ (53 : ℤ) := by
      refine le_antisymm hmq ?_
      have hpow : (2 : ℚ) ^ (53 : ℤ) * 2 ^ e ≤ |(m : ℚ)| * 2 ^ e := by
        rw [← zpow_add₀ (by norm_num), ← habs, ← hexp.1]
        exact hlog
      exact le_of_mul_le_mul_right hpow hscale
    have hwhole : |m| = 2 ^ 53 := by exact_mod_cast hfull
    have hdouble : q = (m : ℚ) / 2 * 2 ^ lastExponent q := by
      refine hq.trans ?_
      rw [hexp.2, zpow_add₀ (by norm_num)]
      ring
    rcases (abs_eq (by norm_num)).mp hwhole with rfl | rfl
    · exact ⟨2 ^ 52, hdouble.trans (by norm_num)⟩
    · exact ⟨-2 ^ 52, hdouble.trans (by norm_num)⟩

/-- A representable number is its own nearest. -/
theorem nearest_eq (h : Representable q) : nearest q = q := by
  by_cases hq : q = 0
  · rw [nearest, if_pos hq, hq]
  · obtain ⟨n, hn⟩ := exists_eq_mul_lastExponent h
    have hquot : q / 2 ^ lastExponent q = n :=
      (div_eq_iff (zpow_pos two_pos _).ne').mpr hn
    rw [nearest, if_neg hq, hquot, roundHalfEven_intCast]
    exact hn.symm

/-- It is rounded to itself. -/
theorem round_of_representable (h : Representable q) : round q = some ⟨q, h⟩ := by
  have hrange : |nearest q| < 2 ^ 1024 := by
    rw [nearest_eq h]
    exact h.choose_spec.choose_spec.2.2.2
  rw [round, dif_pos hrange]
  exact congrArg some (Double.ext (nearest_eq h))

/-- **A double is its own rounding.** -/
@[simp] theorem round_value (d : Double) : round d.value = some d :=
  round_of_representable d.representable

/-- The nearest double is not below the last power of two. -/
theorem two_pow_log_le_abs_nearest (h : 1 ≤ |q|) : (2 : ℚ) ^ Int.log 2 |q| ≤ |nearest q| := by
  have hpos : (0 : ℚ) < |q| := by linarith
  have hlog : 0 ≤ Int.log 2 |q| :=
    (Int.zpow_le_iff_le_log (by norm_num) hpos).mp (by simpa using h)
  have hexp : lastExponent q = Int.log 2 |q| - 52 := by
    unfold lastExponent
    omega
  have hlast : (0 : ℚ) < 2 ^ lastExponent q := zpow_pos two_pos _
  have hsignificand : ((2 ^ 52 : ℤ) : ℚ) ≤ |q / 2 ^ lastExponent q| := by
    rw [abs_div, abs_of_pos hlast, le_div_iff₀ hlast, hexp]
    have hbelow : (2 : ℚ) ^ Int.log 2 |q| ≤ |q| :=
      Int.zpow_log_le_self (R := ℚ) (b := 2) (by norm_num) hpos
    refine le_trans (le_of_eq ?_) hbelow
    rw [zpow_sub₀ (by norm_num)]
    norm_num
    ring
  rw [nearest, if_neg (abs_pos.mp hpos), abs_mul, abs_of_pos hlast]
  calc (2 : ℚ) ^ Int.log 2 |q| = ((2 ^ 52 : ℤ) : ℚ) * 2 ^ lastExponent q := by
        rw [hexp, zpow_sub₀ (by norm_num)]
        norm_num
        ring
    _ ≤ |(roundHalfEven (q / 2 ^ lastExponent q) : ℚ)| * 2 ^ lastExponent q := by
      refine mul_le_mul_of_nonneg_right ?_ hlast.le
      exact_mod_cast le_abs_roundHalfEven hsignificand

/-- From `2 ^ 1024` on there is no double. -/
theorem round_eq_none (h : 2 ^ 1024 ≤ |q|) : round q = none := by
  have hone : (1 : ℚ) ≤ |q| := (one_le_pow₀ (by norm_num)).trans h
  have hlog : (1024 : ℤ) ≤ Int.log 2 |q| := by
    refine (Int.zpow_le_iff_le_log (by norm_num) (zero_lt_one.trans_le hone)).mp ?_
    exact_mod_cast h
  have hlarge : (2 : ℚ) ^ (1024 : ℕ) ≤ 2 ^ Int.log 2 |q| := by
    rw [← zpow_natCast]
    exact zpow_le_zpow_right₀ (by norm_num) (by exact_mod_cast hlog)
  rw [round, dif_neg (not_lt.mpr (hlarge.trans (two_pow_log_le_abs_nearest hone)))]

-- the rounding of an open term is never computed
attribute [irreducible] round

end Round

end Binary64
