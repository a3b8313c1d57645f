import OpenVCenter.Foundations.Binary64
import OpenVCenter.Foundations.Separated

set_option relaxedAutoImplicit false
set_option autoImplicit false

/-!
# Python values

The agent's payloads reach the handlers as what `json.loads` returns, and the handlers read
them with Python's own operators: truth values, `or`, `dict.get`, `float`, `int(round(..))`,
`str`, iteration. This file has the values and those operators, with the exceptions they raise.

A number written with a fraction or an exponent (and `NaN`, `Infinity`) is a double.

## Main definitions

* `OpenVCenter.Json`, `OpenVCenter.Dict` — JSON values and objects.
* `OpenVCenter.PyFloat` — doubles, with `OpenVCenter.PyFloat.ofRat`.
* `OpenVCenter.Raised` — the exceptions.
* `OpenVCenter.PyStd` — the standard-library functions whose tables and algorithms are left
  open: every result of the development holds whatever they compute.
* `OpenVCenter.Json.unstorable` — a value PostgreSQL stores in no `jsonb` column.

## Design

A string is a sequence of Unicode scalar values. The values whose strings hold a lone surrogate are
those of `OpenVCenter.Wire`.
-/

namespace OpenVCenter

open Binary64 (Double roundHalfEven)

/-- An instant, in microseconds (the resolution of `datetime`) from a fixed origin. -/
abbrev Time := ℤ

/-- `timedelta(seconds=n)`. -/
def seconds (n : ℤ) : ℤ := n * 1000000

/-! ## Values -/

/-- A double: not-a-number, an infinity, or a finite one. -/
inductive PyFloat where
  | nan
  | inf (negative : Bool)
  | fin (d : Double)

/-- What `json.loads` returns. -/
inductive Json where
  | null
  | bool (b : Bool)
  | int (i : ℤ)
  | float (f : PyFloat)
  | str (s : String)
  | arr (elems : List Json)
  | obj (entries : List (String × Json))
  deriving Inhabited

/-! ## Exceptions -/

/-- An `ApiError` (`api/errors.py`). -/
structure ApiError where
  code : String
  message : String
  statusCode : ℕ := 400
  details : Json := .null

/-- What a handler raises. -/
inductive Raised where
  | typeError
  | valueError
  | attributeError
  | keyError
  | overflowError
  | assertionError
  | runtimeError
  /-- the database driver rejects a value for its column -/
  | dataError
  /-- a primary key, unique index or foreign key is violated -/
  | integrityError
  /-- `scalar_one_or_none` found more than one row -/
  | multipleResultsFound
  /-- the broker cannot be reached -/
  | connectionError
  | apiError (e : ApiError)

/-! ## Doubles -/

/-- The double nearest to `q`, an infinity from the middle above the largest one on. -/
def PyFloat.ofRat (q : ℚ) : PyFloat :=
  match Binary64.round q with
  | some d => .fin d
  | none => .inf (decide (q < 0))

/-- `x * c` for a positive integer constant `c`. -/
def PyFloat.scale (c : ℕ) : PyFloat → PyFloat
  | .nan => .nan
  | .inf s => .inf s
  | .fin d => .ofRat (d.value * c)

/-- `int(round(x))`. -/
def PyFloat.toIntRound : PyFloat → Except Raised ℤ
  | .nan => .error .valueError
  | .inf _ => .error .overflowError
  | .fin d => .ok (roundHalfEven d.value)

/-- `int(x)`: towards zero. -/
def PyFloat.toIntTrunc : PyFloat → Except Raised ℤ
  | .nan => .error .valueError
  | .inf _ => .error .overflowError
  | .fin d => .ok (if 0 ≤ d.value then ⌊d.value⌋ else ⌈d.value⌉)

/-! ## JSON -/

/-- The string holds the character NUL, which PostgreSQL stores in no column. -/
def hasNul (s : String) : Bool := s.toList.contains '\x00'

/-- A JSON object: its entries in insertion order. -/
abbrev Dict := List (String × Json)

namespace Dict

/-- `k in d`. -/
def has (d : Dict) (k : String) : Bool := d.any fun e => decide (e.1 = k)

/-- `d.get(k, default)`. -/
def getD (d : Dict) (k : String) (default : Json) : Json :=
  match d.find? fun e => decide (e.1 = k) with
  | some e => e.2
  | none => default

/-- `d.get(k)`. -/
def get (d : Dict) (k : String) : Json := d.getD k .null

/-- `d.pop(k, None)`, the rest of the object. -/
def erase (d : Dict) (k : String) : Dict := d.filter fun e => decide (e.1 ≠ k)

/-- `d[k] = v`: the place of a present key is kept. -/
def set (d : Dict) (k : String) (v : Json) : Dict :=
  if d.has k then d.map fun e => if e.1 = k then (k, v) else e else d ++ [(k, v)]

/-- `{**d, **e}`. -/
def merge (d e : Dict) : Dict := e.foldl (fun acc kv => acc.set kv.1 kv.2) d

/-! A dictionary that is written out finds its keys by computation. -/

section Literal

variable {d : Dict} {k k' : String} {v default : Json}

/-- An empty object has the default. -/
@[simp] theorem getD_nil : getD [] k default = default := rfl

/-- An object has its first entry, or one of the others. -/
@[simp] theorem getD_cons :
    getD ((k', v) :: d) k default = if k' = k then v else d.getD k default := by
  unfold getD
  rw [List.find?_cons]
  by_cases h : k' = k <;> simp [h]

/-- An empty object reads as `None`. -/
@[simp] theorem get_nil : get [] k = .null := rfl

/-- An object reads its first entry, or one of the others. -/
@[simp] theorem get_cons : get ((k', v) :: d) k = if k' = k then v else d.get k := getD_cons

/-- An empty object has no key. -/
@[simp] theorem has_nil : has [] k = false := rfl

/-- An object has its first key and those of the others. -/
@[simp] theorem has_cons : has ((k', v) :: d) k = (decide (k' = k) || d.has k) := rfl

end Literal

/-- A change of the value under one key does not change what other keys find. -/
theorem get_map_of_ne {d : Dict} {k k' : String} (f : Json → Json) (h : k' ≠ k) :
    Dict.get (d.map fun e => if e.1 = k then (e.1, f e.2) else e) k' = d.get k' := by
  unfold get getD
  rw [List.find?_map]
  have hkeys : ((fun e : String × Json => decide (e.1 = k')) ∘
      fun e : String × Json => if e.1 = k then (e.1, f e.2) else e) =
      fun e => decide (e.1 = k') := by
    funext e
    by_cases he : e.1 = k <;> simp [he]
  rw [hkeys]
  cases hf : d.find? (fun e => decide (e.1 = k')) with
  | none => rfl
  | some e =>
    have hk : e.1 = k' := by simpa using List.find?_some hf
    have hne : ¬ e.1 = k := fun he => h (hk.symm.trans he)
    simp only [Option.map_some, if_neg hne]

/-- A removed key does not change what other keys find. -/
theorem get_erase_of_ne {d : Dict} {k k' : String} (h : k' ≠ k) : (d.erase k).get k' = d.get k' := by
  have hfind : (d.erase k).find? (fun e => decide (e.1 = k')) =
      d.find? fun e => decide (e.1 = k') := by
    unfold erase
    rw [List.find?_filter]
    congr 1
    funext e
    by_cases he : e.1 = k'
    · simp [he, h]
    · simp [he]
  unfold get getD
  rw [hfind]

/-- A key that is set is there. -/
theorem has_set (d : Dict) (k : String) (v : Json) : (d.set k v).has k = true := by
  unfold set
  split_ifs with h
  · obtain ⟨e, he, hk⟩ := List.any_eq_true.mp h
    refine List.any_eq_true.mpr ⟨_, List.mem_map_of_mem he, ?_⟩
    simp [of_decide_eq_true hk]
  · unfold has
    rw [List.any_append]
    simp

/-- A key that is set is found. -/
theorem get_set (d : Dict) (k : String) (v : Json) : (d.set k v).get k = v := by
  have hfind : (d.set k v).find? (fun e => decide (e.1 = k)) = some (k, v) := by
    unfold set
    split_ifs with h
    · obtain ⟨e, he, hk⟩ := List.any_eq_true.mp h
      rw [List.find?_map]
      have hsome : (d.find? ((fun e => decide (e.1 = k)) ∘
          fun e => if e.1 = k then (k, v) else e)).isSome = true := by
        rw [List.find?_isSome]
        exact ⟨e, he, by simp [of_decide_eq_true hk]⟩
      obtain ⟨e', he'⟩ := Option.isSome_iff_exists.mp hsome
      have hk' := List.find?_some he'
      rw [he', Option.map_some]
      by_cases hkey : e'.1 = k
      · rw [if_pos hkey]
      · simp [hkey] at hk'
    · have hnone : d.find? (fun e => decide (e.1 = k)) = none := by
        rw [List.find?_eq_none]
        exact fun e he hk => h (List.any_eq_true.mpr ⟨e, he, hk⟩)
      rw [List.find?_append, hnone]
      simp
  unfold get getD
  rw [hfind]

/-- Of two values for one key the last one stays. -/
theorem set_set (d : Dict) (k : String) (v v' : Json) : (d.set k v).set k v' = d.set k v' := by
  rw [set, if_pos (has_set d k v)]
  unfold set
  split_ifs with h
  · rw [List.map_map]
    refine List.map_congr_left fun e _ => ?_
    by_cases hk : e.1 = k
    · simp [hk]
    · simp [hk]
  · rw [List.map_append]
    have hsame : d.map (fun e => if e.1 = k then (k, v') else e) = d.map id := by
      refine List.map_congr_left fun e he => if_neg fun hk => h ?_
      exact List.any_eq_true.mpr ⟨e, he, decide_eq_true hk⟩
    rw [hsame, List.map_id]
    simp

end Dict

namespace Json

/-- The truth value. -/
def truthy : Json → Bool
  | .null => false
  | .bool b => b
  | .int i => i != 0
  | .float (.fin d) => d.value != 0
  | .float _ => true
  | .str s => !s.isEmpty
  | .arr l => !l.isEmpty
  | .obj d => !d.isEmpty

/-- `v or w`. -/
def orElse (v w : Json) : Json := if v.truthy then v else w

/-- `v or w`, for a true value. -/
theorem orElse_of_truthy {v w : Json} (h : v.truthy = true) : v.orElse w = v := if_pos h

/-- `v or w`, for a false value. -/
theorem orElse_of_falsy {v w : Json} (h : v.truthy = false) : v.orElse w = w :=
  if_neg (ne_true_of_eq_false h)

/-- `None or w`. -/
@[simp] theorem null_orElse (w : Json) : null.orElse w = w := rfl

/-- `v or v`. -/
@[simp] theorem orElse_self (v : Json) : v.orElse v = v := ite_self v

/-- `v is None`. -/
def isNone : Json → Bool
  | .null => true
  | _ => false

/-- The object itself, when the value is one (`isinstance(v, dict)`). -/
def asDict? : Json → Option Dict
  | .obj d => some d
  | _ => none

/-- The object whose method is called: any other value has no such attribute. -/
def asDict : Json → Except Raised Dict
  | .obj d => .ok d
  | _ => .error .attributeError

/-- `v == s` for a string `s`. -/
def isStr (v : Json) (s : String) : Bool :=
  match v with
  | .str t => decide (t = s)
  | _ => false

/-- A value is a given text exactly if it is that string. -/
lemma isStr_iff {v : Json} {s : String} : v.isStr s = true ↔ v = .str s := by
  cases v <;> simp [isStr]

/-- `isinstance(v, dict)`. -/
def isDict (v : Json) : Bool := v.asDict?.isSome

/-- Iteration: the elements of a list, the characters of a string, the keys of an object. -/
def iterate : Json → Except Raised (List Json)
  | .arr l => .ok l
  | .str s => .ok (s.toList.map fun c => .str (String.singleton c))
  | .obj d => .ok (d.map fun e => .str e.1)
  | _ => .error .typeError

mutual

/-- PostgreSQL rejects the value in a `jsonb` column: a string of it holds the character NUL,
or a double of it is no number. -/
def unstorable : Json → Bool
  | .str s => hasNul s
  | .float .nan => true
  | .float (.inf _) => true
  | .arr l => unstorableList l
  | .obj d => unstorableDict d
  | _ => false

/-- `unstorable` of some element. -/
def unstorableList : List Json → Bool
  | [] => false
  | v :: l => v.unstorable || unstorableList l

/-- `unstorable` of some key or value. -/
def unstorableDict : List (String × Json) → Bool
  | [] => false
  | (k, v) :: d => hasNul k || v.unstorable || unstorableDict d

end

mutual

/-- `model_dump(mode="json")` of an arbitrary value: a double that is no number becomes null. -/
def dump : Json → Json
  | .float .nan => .null
  | .float (.inf _) => .null
  | .arr l => .arr (dumpList l)
  | .obj d => .obj (dumpDict d)
  | v => v

/-- `dump` of every element. -/
def dumpList : List Json → List Json
  | [] => []
  | v :: l => v.dump :: dumpList l

/-- `dump` of every value. -/
def dumpDict : List (String × Json) → List (String × Json)
  | [] => []
  | (k, v) :: d => (k, v.dump) :: dumpDict d

end

/-- `None` or a string. -/
def ofOption : Option String → Json
  | none => .null
  | some s => .str s

end Json

/-! ## The standard library -/

/-- The functions of Python's standard library whose tables and algorithms are not modelled. -/
structure PyStd where
  /-- `str.isspace` of one character, also `\s` in a regular expression -/
  isSpace : Char → Bool
  /-- `str.upper` -/
  upper : String → String
  /-- `str()` of a float, a list or a dict -/
  repr : Json → String
  /-- `float()` of a string; none for `ValueError` -/
  parseFloat : String → Option PyFloat
  /-- `int()` of a string; none for `ValueError` -/
  parseInt : String → Option ℤ
  /-- `datetime.fromisoformat`; none for `ValueError` -/
  fromisoformat : String → Option Time
  /-- `datetime.isoformat` -/
  isoformat : Time → String
  /-- `base64.b64decode(.., validate=True)`; none for an invalid input -/
  b64decode : String → Option (List UInt8)

namespace PyStd

variable (py : PyStd)

/-- `str(v)`. -/
def str : Json → String
  | .str s => s
  | .null => "None"
  | .bool b => if b then "True" else "False"
  | .int i => toString i
  | v => py.repr v

/-- `float(v)`. -/
def float : Json → Except Raised PyFloat
  | .bool b => .ok (.ofRat (if b then 1 else 0))
  | .int i =>
    match PyFloat.ofRat i with
    | .inf _ => .error .overflowError
    | f => .ok f
  | .float f => .ok f
  | .str s =>
    match py.parseFloat s with
    | some f => .ok f
    | none => .error .valueError
  | _ => .error .typeError

/-- `int(v)`. -/
def int : Json → Except Raised ℤ
  | .bool b => .ok (if b then 1 else 0)
  | .int i => .ok i
  | .float f => f.toIntTrunc
  | .str s =>
    match py.parseInt s with
    | some i => .ok i
    | none => .error .valueError
  | _ => .error .typeError

/-- `s.strip()`. -/
def strip (s : String) : String :=
  String.ofList (((s.toList.dropWhile py.isSpace).reverse.dropWhile py.isSpace).reverse)

/-- `[,;\s]`. -/
def isListSep (c : Char) : Bool := c == ',' || c == ';' || py.isSpace c

/-- `re.split(r"[,;\s]+", s)` without the empty pieces. -/
def splitList (s : String) : List String :=
  let sep : Char → Bool := fun c => c == ',' || c == ';' || py.isSpace c
  let step (c : Char) (acc : List (List Char)) : List (List Char) :=
    if sep c then [] :: acc
    else match acc with
      | [] => [[c]]
      | w :: ws => (c :: w) :: ws
  ((s.toList.foldr step [[]]).filter fun w => !w.isEmpty).map String.ofList

/-- The pieces are the words between the separators. -/
theorem splitList_eq (s : String) :
    py.splitList s = (Separated.words py.isListSep s.toList).map String.ofList := by
  unfold splitList Separated.words
  dsimp only
  congr 2
  induction s.toList with
  | nil => rfl
  | cons c text ih =>
    rw [List.foldr_cons, ih, List.splitOnP_cons_eq_if_modifyHead]
    obtain ⟨first, rest, hsplit⟩ :=
      List.exists_cons_of_ne_nil (List.splitOnP_ne_nil py.isListSep text)
    rw [hsplit]
    rfl

end PyStd

/-- `except (TypeError, ValueError): return None`. -/
def noneOnTypeOrValueError {α : Type} : Except Raised α → Except Raised (Option α)
  | .ok a => .ok (some a)
  | .error .typeError => .ok none
  | .error .valueError => .ok none
  | .error e => .error e

end OpenVCenter
