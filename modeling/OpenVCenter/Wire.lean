import OpenVCenter.Lifecycle

set_option relaxedAutoImplicit false
set_option autoImplicit false

/-!
# JSON as it is received

A string of `json.loads` is a sequence of code points, and an escape of a JSON text may put a
surrogate into it that has no partner. Such a string is equal to no text that the program names, is
true, can be iterated and popped, but neither UTF-8 nor a `jsonb` column takes it. The values of the
other modules are those whose strings are texts; this file has the rest, and what the handler of
responses does to a value before it is stored.

## Main definitions

* `OpenVCenter.PyStr` — a string, which is a text or has a surrogate without a partner.
* `OpenVCenter.Wire`, `OpenVCenter.WireDict` — what `json.loads` returns.
* `OpenVCenter.Wire.json?` — the value, when all its strings are texts.

## Main results

* `OpenVCenter.PyStr.exists_points` — every string that `json.loads` can return is one of these.
* `OpenVCenter.WireDict.stripThumbnails_json` — the thumbnails of an object whose strings are texts
  are stripped as the handler strips them.
-/

namespace OpenVCenter

/-! ## Strings -/

/-- The first half of a pair of surrogates. -/
def IsHighSurrogate (p : ℕ) : Prop := 0xd800 ≤ p ∧ p < 0xdc00

/-- The second half. -/
def IsLowSurrogate (p : ℕ) : Prop := 0xdc00 ≤ p ∧ p < 0xe000

/-- The code points of a string. `json.loads` joins the halves of a pair that are escaped one behind
the other, so that no first half has its second half behind it. -/
structure CodePoints (points : List ℕ) : Prop where
  lt : ∀ p ∈ points, p < 0x110000
  joined : points.IsChain fun p q => ¬ (IsHighSurrogate p ∧ IsLowSurrogate q)

/-- A string with a surrogate, which has no partner. -/
structure Garbled where
  points : List ℕ
  codePoints : CodePoints points
  surrogate : ∃ p ∈ points, IsHighSurrogate p ∨ IsLowSurrogate p

/-- A string of `json.loads`. -/
inductive PyStr where
  | text (s : String)
  | garbled (g : Garbled)

namespace PyStr

/-- Its code points. -/
def points : PyStr → List ℕ
  | text s => s.toList.map Char.toNat
  | garbled g => g.points

/-- The text, when it is one. -/
def text? : PyStr → Option String
  | text s => some s
  | garbled _ => none

/-- The truth value. -/
def truthy : PyStr → Bool
  | text s => !s.isEmpty
  | garbled _ => true

/-- `self == s` for a text `s`. -/
def isText (self : PyStr) (s : String) : Bool := decide (self.text? = some s)

/-- **Every string that `json.loads` can return** is a text or has a surrogate. -/
theorem exists_points {points : List ℕ} (h : CodePoints points) :
    ∃ self : PyStr, self.points = points := by
  by_cases hsurrogate : ∃ p ∈ points, IsHighSurrogate p ∨ IsLowSurrogate p
  · exact ⟨garbled ⟨points, h, hsurrogate⟩, rfl⟩
  · have hvalid : ∀ p ∈ points, p.isValidChar := by
      intro p hp
      have hlt := h.lt p hp
      have hnot : ¬ (IsHighSurrogate p ∨ IsLowSurrogate p) := fun hs => hsurrogate ⟨p, hp, hs⟩
      unfold IsHighSurrogate IsLowSurrogate at hnot
      unfold Nat.isValidChar
      omega
    refine ⟨text (String.ofList (points.map Char.ofNat)), ?_⟩
    show (String.ofList (points.map Char.ofNat)).toList.map Char.toNat = points
    rw [String.toList_ofList, List.map_map]
    have hsame : points.map (Char.toNat ∘ Char.ofNat) = points.map id := by
      refine List.map_congr_left fun p hp => ?_
      rw [Function.comp_apply, Char.ofNat, dif_pos (hvalid p hp)]
      rfl
    rw [hsame, List.map_id]

end PyStr

/-! ## Values -/

/-- What `json.loads` returns. -/
inductive Wire where
  | null
  | bool (b : Bool)
  | int (i : ℤ)
  | float (f : PyFloat)
  | str (s : PyStr)
  | arr (elems : List Wire)
  | obj (entries : List (PyStr × Wire))

/-- An object: its entries in insertion order. -/
abbrev WireDict := List (PyStr × Wire)

/-- An optional field, read where it is given. -/
def readOptional {α β : Type} (read : α → Option β) : Option α → Option (Option β)
  | none => some none
  | some a => (read a).map some

namespace Wire

mutual

/-- The value, when all its strings are texts. -/
def json? : Wire → Option Json
  | null => some .null
  | bool b => some (.bool b)
  | int i => some (.int i)
  | float f => some (.float f)
  | str s => s.text?.map .str
  | arr l => (jsonList? l).map .arr
  | obj d => (jsonDict? d).map .obj

/-- The elements, when all their strings are texts. -/
def jsonList? : List Wire → Option (List Json)
  | [] => some []
  | v :: l => do
    let v ← v.json?
    let l ← jsonList? l
    pure (v :: l)

/-- The entries, when all their strings are texts. -/
def jsonDict? : List (PyStr × Wire) → Option Dict
  | [] => some []
  | (k, v) :: d => do
    let k ← k.text?
    let v ← v.json?
    let d ← jsonDict? d
    pure ((k, v) :: d)

end

/-- The truth value. -/
def truthy : Wire → Bool
  | null => false
  | bool b => b
  | int i => i != 0
  | float f => (Json.float f).truthy
  | str s => s.truthy
  | arr l => !l.isEmpty
  | obj d => !d.isEmpty

/-- A value that can be iterated. -/
def isIterable : Wire → Bool
  | arr _ | str _ | obj _ => true
  | _ => false

end Wire

namespace WireDict

/-- `d.get(k)`. -/
def get (d : WireDict) (k : String) : Wire :=
  match d.find? fun e => e.1.isText k with
  | some e => e.2
  | none => .null

/-- `d.pop(k, None)`, the rest of the object. -/
def erase (d : WireDict) (k : String) : WireDict := d.filter fun e => !e.1.isText k

/-- `v.pop("thumbnail", None)` of the objects of a list. -/
def stripVms : Wire → Wire
  | .arr l => .arr (l.map fun v =>
      match v with
      | .obj d => .obj (erase d "thumbnail")
      | v => v)
  | v => v

/-- One object of `_strip_response_thumbnails` without its thumbnails. -/
def dropThumbnails (src : WireDict) : WireDict :=
  (src.erase "thumbnail").map fun e => if e.1.isText "vms" then (e.1, stripVms e.2) else e

/-- One object of `_strip_response_thumbnails`: `vms` is iterated unless it is false. -/
def stripThumbnails (src : WireDict) : Except Raised WireDict :=
  let vms := (src.erase "thumbnail").get "vms"
  if vms.truthy && !vms.isIterable then .error .typeError else .ok src.dropThumbnails

end WireDict

/-! ## Values whose strings are texts -/

section Texts

open Wire

/-- A text of the wire is a string when it is one without a lone surrogate. -/
lemma PyStr.text?_eq_some {k : PyStr} {s : String} : k.text? = some s ↔ k = .text s := by
  cases k with
  | text t => simp [PyStr.text?]
  | garbled g => simp [PyStr.text?]

/-- A string is compared as a string. -/
@[simp] lemma PyStr.isText_text (s k : String) : (PyStr.text s).isText k = decide (s = k) := by
  simp [PyStr.isText, PyStr.text?]

/-- An entry and its value. -/
def EntryOf (e : PyStr × Wire) (e' : String × Json) : Prop := e.1 = .text e'.1 ∧ e.2.json? = some e'.2

/-- The elements of a list, one by one. -/
lemma jsonList?_eq_some {l : List Wire} {l' : List Json} :
    jsonList? l = some l' ↔ List.Forall₂ (fun v v' => v.json? = some v') l l' := by
  induction l generalizing l' with
  | nil => simp [jsonList?, eq_comm]
  | cons v l ih =>
    rw [jsonList?, List.forall₂_cons_left_iff]
    simp only [Option.bind_eq_bind, Option.bind_eq_some_iff, Option.pure_def, Option.some.injEq, ih]
    constructor
    · rintro ⟨a, ha, m, hm, rfl⟩
      exact ⟨a, m, ha, hm, rfl⟩
    · rintro ⟨a, m, ha, hm, rfl⟩
      exact ⟨a, ha, m, hm, rfl⟩

/-- The entries of an object, one by one. -/
lemma jsonDict?_eq_some {d : WireDict} {d' : Dict} :
    jsonDict? d = some d' ↔ List.Forall₂ EntryOf d d' := by
  induction d generalizing d' with
  | nil => simp [jsonDict?, eq_comm]
  | cons e d ih =>
    obtain ⟨k, v⟩ := e
    rw [jsonDict?, List.forall₂_cons_left_iff]
    simp only [Option.bind_eq_bind, Option.bind_eq_some_iff, Option.pure_def, Option.some.injEq, ih]
    constructor
    · rintro ⟨s, hs, a, ha, m, hm, rfl⟩
      exact ⟨(s, a), m, ⟨PyStr.text?_eq_some.mp hs, ha⟩, hm, rfl⟩
    · rintro ⟨⟨s, a⟩, m, ⟨hs, ha⟩, hm, rfl⟩
      exact ⟨s, PyStr.text?_eq_some.mpr hs, a, ha, m, hm, rfl⟩

variable {v : Wire} {v' : Json} {d : WireDict} {d' : Dict}

/-- A value of the wire is true when the value read of it is. -/
lemma truthy_json (h : v.json? = some v') : v.truthy = v'.truthy := by
  cases v with
  | str s =>
    obtain ⟨t, ht, rfl⟩ := Option.map_eq_some_iff.mp h
    rw [PyStr.text?_eq_some.mp ht]
    rfl
  | arr l =>
    obtain ⟨l', hl, rfl⟩ := Option.map_eq_some_iff.mp h
    cases jsonList?_eq_some.mp hl <;> rfl
  | obj d =>
    obtain ⟨d', hd, rfl⟩ := Option.map_eq_some_iff.mp h
    cases jsonDict?_eq_some.mp hd <;> rfl
  | null | bool | int | float =>
    cases h
    rfl

/-- It can be iterated when the value read of it can. -/
lemma isIterable_json (h : v.json? = some v') : v.isIterable = v'.isIterable := by
  cases v with
  | str s | arr l | obj d =>
    obtain ⟨_, -, rfl⟩ := Option.map_eq_some_iff.mp h
    rfl
  | null | bool | int | float =>
    cases h
    rfl

namespace WireDict

/-- What stands under a key of the wire is read as what stands under the key. -/
lemma get_json (h : List.Forall₂ EntryOf d d') (k : String) : (d.get k).json? = some (d'.get k) := by
  induction h with
  | nil => rfl
  | @cons e e' d d' he _ ih =>
    obtain ⟨key, value⟩ := e
    obtain ⟨s, a⟩ := e'
    obtain ⟨rfl, ha⟩ := he
    unfold WireDict.get at ih ⊢
    rw [Dict.get_cons, List.find?_cons, PyStr.isText_text]
    by_cases hk : s = k
    · rw [if_pos hk, decide_eq_true hk]
      exact ha
    · rw [if_neg hk, decide_eq_false hk]
      exact ih

/-- A key is taken out of both. -/
lemma erase_json (h : List.Forall₂ EntryOf d d') (k : String) :
    List.Forall₂ EntryOf (d.erase k) (d'.erase k) := by
  induction h with
  | nil => exact .nil
  | @cons e e' d d' he _ ih =>
    obtain ⟨key, value⟩ := e
    obtain ⟨s, a⟩ := e'
    obtain ⟨rfl, ha⟩ := he
    unfold WireDict.erase Dict.erase at ih ⊢
    rw [List.filter_cons, List.filter_cons, PyStr.isText_text]
    by_cases hk : s = k
    · simpa [hk] using ih
    · simpa [hk] using List.Forall₂.cons (show EntryOf (.text s, value) (s, a) from ⟨rfl, ha⟩) ih

/-- The images are taken out of both. -/
lemma stripVms_json (h : v.json? = some v') :
    (WireDict.stripVms v).json? = some (OpenVCenter.stripVms v') := by
  cases v with
  | arr l =>
    obtain ⟨l', hl, rfl⟩ := Option.map_eq_some_iff.mp h
    refine Option.map_eq_some_iff.mpr ⟨_, jsonList?_eq_some.mpr ?_, rfl⟩
    rw [List.forall₂_map_left_iff, List.forall₂_map_right_iff]
    refine (jsonList?_eq_some.mp hl).imp fun a a' ha => ?_
    cases a with
    | obj d =>
      obtain ⟨d', hd, rfl⟩ := Option.map_eq_some_iff.mp ha
      exact Option.map_eq_some_iff.mpr
        ⟨_, jsonDict?_eq_some.mpr (erase_json (jsonDict?_eq_some.mp hd) _), rfl⟩
    | str s | arr l =>
      obtain ⟨_, -, rfl⟩ := Option.map_eq_some_iff.mp ha
      exact ha
    | null | bool | int | float =>
      cases ha
      rfl
  | str s | obj d =>
    obtain ⟨_, -, rfl⟩ := Option.map_eq_some_iff.mp h
    exact h
  | null | bool | int | float =>
    cases h
    rfl

/-- **Stripping and reading** an object whose strings are texts commute. -/
theorem stripThumbnails_json (h : jsonDict? d = some d') :
    (hasIterableVms d' = false ∧ stripThumbnails d = .error .typeError) ∨
      (hasIterableVms d' = true ∧ ∃ stripped, stripThumbnails d = .ok stripped ∧
        jsonDict? stripped = some (OpenVCenter.dropThumbnails d')) := by
  have hentries := jsonDict?_eq_some.mp h
  have herased := erase_json hentries "thumbnail"
  have hvms := get_json herased "vms"
  have hcond : hasIterableVms d' = !(((d.erase "thumbnail").get "vms").truthy &&
      !((d.erase "thumbnail").get "vms").isIterable) := by
    rw [truthy_json hvms, isIterable_json hvms, Dict.get_erase_of_ne (by decide)]
    unfold hasIterableVms Json.orElse
    rcases (d'.get "vms").truthy with _ | _
    · rfl
    · rw [if_pos rfl, Bool.true_and, Bool.not_not]
  unfold stripThumbnails
  rcases hiterable : hasIterableVms d' with _ | _
  · rw [hiterable] at hcond
    refine Or.inl ⟨rfl, if_pos ?_⟩
    rw [← Bool.not_not (_ && _), ← hcond]
    rfl
  · rw [hiterable] at hcond
    refine Or.inr ⟨rfl, d.dropThumbnails, if_neg ?_, ?_⟩
    · rw [← Bool.not_not (_ && _), ← hcond]
      decide
    · refine jsonDict?_eq_some.mpr ?_
      unfold dropThumbnails OpenVCenter.dropThumbnails
      rw [List.forall₂_map_left_iff, List.forall₂_map_right_iff]
      refine herased.imp fun e e' he => ?_
      obtain ⟨key, value⟩ := e
      obtain ⟨s, a⟩ := e'
      obtain ⟨rfl, ha⟩ := he
      rw [PyStr.isText_text]
      by_cases hk : s = "vms"
      · simp only [hk, decide_true, if_true]
        exact ⟨rfl, stripVms_json ha⟩
      · simp only [hk, decide_false, if_false, Bool.false_eq_true]
        exact ⟨rfl, ha⟩

end WireDict

end Texts

end OpenVCenter
