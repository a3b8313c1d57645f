import OpenVCenter.Foundations.Fallible
import OpenVCenter.Normalize

set_option relaxedAutoImplicit false
set_option autoImplicit false

/-!
# When conversions return

The agent's numbers and lists are read by a few functions of `services/inventory.py`. This file has
when each of them returns, and what it returns for a number that was converted before.

## Main definitions

* `OpenVCenter.beyondDoubles` — an integer that is too large for a double.
* `OpenVCenter.tooLarge` — a number that is too large for a double, as it is or multiplied.
* `OpenVCenter.Json.isTrueScalar` — what `or []` does not make a list.

## Main results

* `OpenVCenter.returns_asInt`, `OpenVCenter.returns_asFloat`, `OpenVCenter.returns_mibToBytes`,
  `OpenVCenter.returns_iterate`.
* `OpenVCenter.asInt_int` — a converted integer is kept.
-/

namespace OpenVCenter

open Binary64 (Representable)
open Fallible (Returns)

variable (env : Env)

/-! ## Doubles -/

namespace PyFloat

/-- An infinity. -/
def isInf : PyFloat → Bool
  | .inf _ => true
  | _ => false

/-- A finite number. -/
def isFinite : PyFloat → Bool
  | .fin _ => true
  | _ => false

/-- A representable rational is its own double. -/
lemma ofRat_of_representable {q : ℚ} (h : Representable q) : ofRat q = .fin ⟨q, h⟩ := by
  unfold ofRat
  rw [Binary64.round_of_representable h]

/-- A scaled double is the double of the product. -/
@[simp] lemma scale_fin (c : ℕ) (d : Binary64.Double) : scale c (.fin d) = ofRat (d.value * c) :=
  rfl

/-- Scaling by one changes nothing. -/
@[simp] lemma scale_one (x : PyFloat) : x.scale 1 = x := by
  rcases x with _ | s | d
  · rfl
  · rfl
  · have hvalue : d.value * (1 : ℕ) = d.value := by rw [Nat.cast_one, mul_one]
    rw [scale_fin, hvalue, ofRat_of_representable d.representable]

/-- Rounding raises on no finite value, and on every other. -/
lemma returns_toIntRound {x : PyFloat} : Returns x.toIntRound ↔ x.isFinite = true := by
  cases x <;> simp [toIntRound, isFinite]

/-- So does cutting off. -/
lemma returns_toIntTrunc {x : PyFloat} : Returns x.toIntTrunc ↔ x.isFinite = true := by
  cases x <;> simp [toIntTrunc, isFinite]

/-- What is converted is a double. -/
lemma representable_of_toIntRound {x : PyFloat} {n : ℤ} (h : x.toIntRound = .ok n) :
    Representable n := by
  rcases x with _ | s | d
  · cases h
  · cases h
  · obtain rfl := Except.ok.inj h
    exact Binary64.representable_roundHalfEven d.representable

end PyFloat

/-! ## Conversions that raise -/

/-- An integer that is too large for a double. -/
def beyondDoubles : Json → Bool
  | .int i => (PyFloat.ofRat i).isInf
  | _ => false

/-- A number that is too large for a double, as it is or multiplied by `c`. -/
def tooLarge (c : ℕ) (v : Json) : Bool :=
  beyondDoubles v || match env.py.float v with
    | .ok x => (x.scale c).isInf
    | .error _ => false

variable {env}

/-- `float` of an integer overflows beyond the doubles. -/
lemma float_int (i : ℤ) : env.py.float (.int i) =
    match PyFloat.ofRat i with
    | .inf _ => .error .overflowError
    | f => .ok f := rfl

/-- `float` of a text parses it. -/
lemma float_str (s : String) : env.py.float (.str s) =
    match env.py.parseFloat s with
    | some f => .ok f
    | none => .error .valueError := rfl

variable (env) in
/-- `float(v)` returns, meets an integer that is too large, or what is no number at all. -/
lemma float_cases (v : Json) :
    (∃ x, env.py.float v = .ok x ∧ beyondDoubles v = false) ∨
      (env.py.float v = .error .overflowError ∧ beyondDoubles v = true) ∨
      ((env.py.float v = .error .typeError ∨ env.py.float v = .error .valueError) ∧
        beyondDoubles v = false) := by
  cases v with
  | int i =>
    have hbeyond : beyondDoubles (.int i) = (PyFloat.ofRat i).isInf := rfl
    rw [float_int, hbeyond]
    generalize PyFloat.ofRat i = x
    rcases x with _ | s | d
    · exact Or.inl ⟨_, rfl, rfl⟩
    · exact Or.inr (Or.inl ⟨rfl, rfl⟩)
    · exact Or.inl ⟨_, rfl, rfl⟩
  | str s =>
    rw [float_str]
    generalize env.py.parseFloat s = x
    rcases x with _ | x
    · exact Or.inr (Or.inr ⟨Or.inr rfl, rfl⟩)
    · exact Or.inl ⟨x, rfl, rfl⟩
  | bool b => exact Or.inl ⟨_, rfl, rfl⟩
  | float f => exact Or.inl ⟨_, rfl, rfl⟩
  | null => exact Or.inr (Or.inr ⟨Or.inl rfl, rfl⟩)
  | arr l => exact Or.inr (Or.inr ⟨Or.inl rfl, rfl⟩)
  | obj d => exact Or.inr (Or.inr ⟨Or.inl rfl, rfl⟩)

/-- `float` under its `except` raises on integers beyond the doubles only. -/
lemma returns_noneOnTypeOrValueError_float {v : Json} :
    Returns (noneOnTypeOrValueError (env.py.float v)) ↔ beyondDoubles v = false := by
  rcases float_cases env v with ⟨x, hx, hb⟩ | ⟨hx, hb⟩ | ⟨hx | hx, hb⟩
  · rw [hx, hb]
    exact iff_of_true ⟨some x, rfl⟩ rfl
  · rw [hx, hb]
    exact iff_of_false (Fallible.not_returns_error _) (by simp)
  · rw [hx, hb]
    exact iff_of_true ⟨none, rfl⟩ rfl
  · rw [hx, hb]
    exact iff_of_true ⟨none, rfl⟩ rfl

/-- A guarded conversion of a number fails on an infinite one only. -/
lemma returns_guarded {c : ℕ} {v : Json} :
    Returns (noneOnTypeOrValueError (env.py.float v >>= fun x => (x.scale c).toIntRound)) ↔
      tooLarge env c v = false := by
  unfold tooLarge
  rcases float_cases env v with ⟨x, hx, hb⟩ | ⟨hx, hb⟩ | ⟨hx | hx, hb⟩
  · rw [hx, hb]
    show Returns (noneOnTypeOrValueError (x.scale c).toIntRound) ↔ (x.scale c).isInf = false
    generalize x.scale c = y
    rcases y with _ | s | d
    · exact iff_of_true ⟨none, rfl⟩ rfl
    · exact iff_of_false (Fallible.not_returns_error _) (by simp [PyFloat.isInf])
    · exact iff_of_true ⟨some _, rfl⟩ rfl
  · rw [hx, hb]
    exact iff_of_false (Fallible.not_returns_error _) (by simp)
  · rw [hx, hb]
    exact iff_of_true ⟨none, rfl⟩ rfl
  · rw [hx, hb]
    exact iff_of_true ⟨none, rfl⟩ rfl

/-- A number that is not 0, or true. -/
def Json.isTrueScalar : Json → Bool
  | .int i => i != 0
  | .float f => (Json.float f).truthy
  | .bool b => b
  | _ => false

/-- Iterating `value or []` raises on a true scalar only. -/
lemma returns_iterate {v : Json} :
    Returns (v.orElse (.arr [])).iterate ↔ v.isTrueScalar = false := by
  cases hv : v.truthy with
  | true =>
    rw [Json.orElse_of_truthy hv]
    cases v <;> simp_all [Json.iterate, Json.isTrueScalar, Json.truthy]
  | false =>
    rw [Json.orElse_of_falsy hv]
    cases v <;> simp_all [Json.iterate, Json.isTrueScalar, Json.truthy]

/-- `v or []` cannot be iterated exactly when `v` is a number that is not 0, or true. -/
lemma iterate_orElse_eq_error {v : Json} {e : Raised} :
    (v.orElse (.arr [])).iterate = .error e ↔ e = .typeError ∧ v.isTrueScalar = true := by
  have hraises : ∀ (w : Json) e', w.iterate = .error e' → e' = .typeError := by
    intro w e' h
    cases w <;> cases h <;> rfl
  rcases h : (v.orElse (.arr [])).iterate with e' | l
  · have hscalar : v.isTrueScalar = true := by
      by_contra hnot
      obtain ⟨l, hl⟩ := returns_iterate.mpr (Bool.not_eq_true _ ▸ hnot)
      rw [h] at hl
      cases hl
    rw [hraises _ _ h, and_iff_left hscalar, Except.error.injEq, eq_comm]
  · refine iff_of_false nofun fun ⟨_, hv⟩ => ?_
    rw [returns_iterate.mp ⟨l, h⟩] at hv
    cases hv

/-- The objects among the elements of a list. -/
def objectsIn : Json → List Dict
  | .arr l => dictsOf l
  | _ => []

/-- The elements of a text and the keys of an object are no objects. -/
lemma dictsOf_iterate {v : Json} {elems : List Json} (h : v.iterate = .ok elems) :
    dictsOf elems = objectsIn v := by
  have htexts : ∀ texts : List String, dictsOf (texts.map .str) = [] := by
    intro texts
    rw [dictsOf, List.filterMap_map]
    exact List.filterMap_eq_nil_iff.mpr fun _ _ => rfl
  cases v with
  | arr l => rw [← Except.ok.inj h, objectsIn]
  | str s =>
    rw [← Except.ok.inj h]
    exact (congrArg dictsOf (List.map_map (g := Json.str)).symm).trans (htexts _)
  | obj entries =>
    rw [← Except.ok.inj h]
    exact (congrArg dictsOf (List.map_map (g := Json.str)).symm).trans (htexts _)
  | _ => cases h

/-- `None` is `null`. -/
lemma Json.isNone_iff {v : Json} : v.isNone = true ↔ v = .null := by
  cases v <;> simp [Json.isNone]

/-- `None` is not too large. -/
@[simp] lemma tooLarge_null (c : ℕ) : tooLarge env c .null = false := rfl

/-- Where `_as_float` returns. -/
lemma returns_asFloat {v : Json} : Returns (asFloat env v) ↔ beyondDoubles v = false := by
  unfold asFloat
  split_ifs with hv
  · obtain rfl := Json.isNone_iff.mp hv
    exact iff_of_true ⟨none, rfl⟩ rfl
  · exact returns_noneOnTypeOrValueError_float

/-- Where `_as_int` returns. -/
lemma returns_asInt {v : Json} : Returns (asInt env v) ↔ tooLarge env 1 v = false := by
  unfold asInt
  split_ifs with hv
  · obtain rfl := Json.isNone_iff.mp hv
    exact iff_of_true ⟨none, rfl⟩ rfl
  · rw [← returns_guarded]
    simp only [PyFloat.scale_one]

/-- Where `_mib_to_bytes` returns. -/
lemma returns_mibToBytes {v : Json} : Returns (mibToBytes env v) ↔ tooLarge env mib v = false := by
  unfold mibToBytes
  split_ifs with hv
  · obtain rfl := Json.isNone_iff.mp hv
    exact iff_of_true ⟨none, rfl⟩ rfl
  · exact returns_guarded

/-! ## Converted numbers -/

/-- `_as_int` keeps `None`. -/
@[simp] lemma asInt_null : asInt env .null = .ok none := rfl

/-- `_as_float` keeps `None`. -/
@[simp] lemma asFloat_null : asFloat env .null = .ok none := rfl

/-- `_as_float` keeps a float. -/
@[simp] lemma asFloat_float (x : PyFloat) : asFloat env (.float x) = .ok (some x) := rfl

/-- `_mib_to_bytes` keeps `None`. -/
@[simp] lemma mibToBytes_null : mibToBytes env .null = .ok none := rfl

/-- `float` of a representable integer. -/
lemma float_int_of_representable {n : ℤ} (h : Representable n) :
    env.py.float (.int n) = .ok (.fin ⟨n, h⟩) := by
  rw [float_int, PyFloat.ofRat_of_representable h]

/-- **A converted integer is kept** by another conversion. -/
lemma asInt_int {n : ℤ} (h : Representable n) : asInt env (.int n) = .ok (some n) := by
  have hround : PyFloat.toIntRound (.fin ⟨n, h⟩) = .ok n :=
    congrArg Except.ok (Binary64.roundHalfEven_intCast n)
  show noneOnTypeOrValueError (env.py.float (.int n) >>= PyFloat.toIntRound) = _
  rw [float_int_of_representable h]
  show noneOnTypeOrValueError (PyFloat.toIntRound (.fin ⟨n, h⟩)) = _
  rw [hround]
  rfl

/-- `_as_int` keeps a representable integer. -/
lemma asInt_ofInt? {o : Option ℤ} (h : ∀ n ∈ o, Representable n) :
    asInt env (.ofInt? o) = .ok o := by
  cases o with
  | none => rfl
  | some n => exact asInt_int (h n rfl)

/-- `_as_float` keeps an optional float. -/
lemma asFloat_ofFloat? (o : Option PyFloat) : asFloat env (.ofFloat? o) = .ok o := by
  cases o <;> rfl

/-- What comes out of a rounding is representable. -/
lemma representable_of_guarded {α : Type} {x : Except Raised α} {f : α → PyFloat} {n : ℤ}
    (h : noneOnTypeOrValueError (x >>= fun a => (f a).toIntRound) = .ok (some n)) :
    Representable n := by
  generalize hy : (x >>= fun a => (f a).toIntRound) = y at h
  rcases y with e | m
  · cases e <;> cases h
  · obtain rfl : m = n := Option.some.inj (Except.ok.inj h)
    obtain ⟨a, -, ha⟩ := Effect.except_bind_eq_ok.mp hy
    exact PyFloat.representable_of_toIntRound ha

/-- What `_mib_to_bytes` returns is a double. -/
lemma representable_of_mibToBytes {v : Json} {o : Option ℤ} (h : mibToBytes env v = .ok o) :
    ∀ n ∈ o, Representable n := by
  rintro n rfl
  unfold mibToBytes at h
  split_ifs at h
  · cases h
  · exact representable_of_guarded h

/-- What `_as_int` returns is a double. -/
lemma representable_of_asInt {v : Json} {o : Option ℤ} (h : asInt env v = .ok o) :
    ∀ n ∈ o, Representable n := by
  rintro n rfl
  unfold asInt at h
  split_ifs at h
  · cases h
  · exact representable_of_guarded (f := id) h

end OpenVCenter
