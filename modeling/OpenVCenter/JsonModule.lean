import OpenVCenter.Foundations.JsonText
import OpenVCenter.Foundations.Utf8
import Mathlib.Tactic.Ring

set_option relaxedAutoImplicit false
set_option autoImplicit false

/-!
# Python's `json`

What `json.loads` makes of the bytes of a document, and what `json.dumps` writes with an indentation
and without escapes for other characters than ASCII. An integer of too many digits is a `ValueError`.

## Main definitions

* `OpenVCenter.Loaded` — the values of `json.loads`.
* `OpenVCenter.loads` — `json.loads` of bytes.
* `OpenVCenter.dumps` — `json.dumps` with `indent=2` and `ensure_ascii=False`.

## Main results

* `OpenVCenter.read_dumps` — what `json.dumps` writes is read.
* `OpenVCenter.shortInts_docOf` — no integer in it has too many digits, if none in the value has.
-/

namespace OpenVCenter

open JsonToken JsonText

/-! ## Values -/

/-- A value of `json.loads`. A string may have surrogates. -/
inductive Loaded (φ : Type) where
  | null
  | bool (b : Bool)
  | int (i : ℤ)
  | float (f : φ)
  | str (s : Text)
  | arr (items : List (Loaded φ))
  | obj (members : List (Text × Loaded φ))

/-- The token is written with a fraction or with an exponent, or is one of the constants for no
number. -/
def isFloatToken : Atom → Bool
  | .nan | .infinity | .negInfinity => true
  | .number n => n.frac.isSome || n.exp.isSome
  | _ => false

/-- The floats: what is read of a token, and the token that is written. -/
structure Floats (φ : Type) where
  /-- `float()` of a token -/
  read : Atom → φ
  /-- `float.__repr__`, or a constant for no number -/
  write : φ → Atom
  write_valid : ∀ f, (write f).Valid
  write_float : ∀ f, isFloatToken (write f) = true

/-- The digits of the longest integer that is read. -/
def maxStrDigits : ℕ := 4300

/-- The number of decimal digits. -/
def digitsValue (digits : Text) : ℕ := digits.foldl (fun n c => 10 * n + (c - '0'.toNat)) 0

/-- The number of a hexadecimal digit. -/
def hexValue (c : ℕ) : ℕ :=
  if isDigit c then c - '0'.toNat
  else if c ≤ 'F'.toNat then c - 'A'.toNat + 10
  else c - 'a'.toNat + 10

/-- The code point of four hexadecimal digits. -/
def hexCode (a b c d : ℕ) : ℕ :=
  hexValue a * 4096 + hexValue b * 256 + hexValue c * 16 + hexValue d

/-- `BACKSLASH`. -/
def unescape (c : ℕ) : ℕ :=
  if c = 'b'.toNat then 8
  else if c = 'f'.toNat then 12
  else if c = 'n'.toNat then 10
  else if c = 'r'.toNat then 13
  else if c = 't'.toNat then 9
  else c

/-- The value of a string. Two surrogates that make a pair are one code point. -/
def stringValue : List Piece → Text
  | [] => []
  | .raw c :: pieces => c :: stringValue pieces
  | .escape c :: pieces => unescape c :: stringValue pieces
  | .unicode a b c d :: pieces =>
    let high := hexCode a b c d
    let rest := stringValue pieces
    match pieces with
    | .unicode a b c d :: _ =>
      let low := hexCode a b c d
      if 0xD800 ≤ high ∧ high ≤ 0xDBFF ∧ 0xDC00 ≤ low ∧ low ≤ 0xDFFF then
        (0x10000 + (high - 0xD800) * 1024 + (low - 0xDC00)) :: rest.drop 1
      else high :: rest
    | _ => high :: rest

/-- A key of a dict gets a value; it keeps its place. -/
def setMember {α : Type} (k : Text) (v : α) : List (Text × α) → List (Text × α)
  | [] => [(k, v)]
  | (k', v') :: members => if k' = k then (k', v) :: members else (k', v') :: setMember k v members

/-- `dict(pairs)`. -/
def dictOf {α : Type} (pairs : List (Text × α)) : List (Text × α) :=
  pairs.foldl (fun dict pair => setMember pair.1 pair.2 dict) []

variable {φ : Type} (fl : Floats φ)

/-- The value of a token. -/
def atomValue : Atom → Loaded φ
  | .null => .null
  | .true => .bool true
  | .false => .bool false
  | .nan => .float (fl.read .nan)
  | .infinity => .float (fl.read .infinity)
  | .negInfinity => .float (fl.read .negInfinity)
  | .number n =>
    if isFloatToken (.number n) then .float (fl.read (.number n))
    else if n.neg then .int (-digitsValue n.int)
    else .int (digitsValue n.int)
  | .string pieces => .str (stringValue pieces)

mutual

/-- The value of a document. -/
def docValue : Doc → Loaded φ
  | .atom a => atomValue fl a
  | .emptyArr _ => .arr []
  | .arr elems => .arr (elemsValue elems)
  | .emptyObj _ => .obj []
  | .obj members => .obj (dictOf (membersValue members))

/-- The values of the elements. -/
def elemsValue : Elems → List (Loaded φ)
  | .last _ d _ => [docValue d]
  | .more _ d _ rest => docValue d :: elemsValue rest

/-- The pairs of the members. -/
def membersValue : Members → List (Text × Loaded φ)
  | .last name d _ => [(stringValue name.pieces, docValue d)]
  | .more name d _ rest => (stringValue name.pieces, docValue d) :: membersValue rest

end

/-- An integer has no more digits than are read. -/
def shortInt (a : Atom) : Bool :=
  match a with
  | .number n => isFloatToken a || decide (n.int.length ≤ maxStrDigits)
  | _ => true

mutual

/-- No integer of the document has more digits than are read. -/
def shortInts : Doc → Bool
  | .atom a => shortInt a
  | .emptyArr _ => true
  | .arr elems => shortElems elems
  | .emptyObj _ => true
  | .obj members => shortMembers members

/-- No integer of the elements has more digits than are read. -/
def shortElems : Elems → Bool
  | .last _ d _ => shortInts d
  | .more _ d _ rest => shortInts d && shortElems rest

/-- No integer of the members has more digits than are read. -/
def shortMembers : Members → Bool
  | .last _ d _ => shortInts d
  | .more _ d _ rest => shortInts d && shortMembers rest

end

/-! ## `json.loads` -/

/-- An encoding that `detect_encoding` tells. -/
inductive Encoding where
  | utf8 | utf8Sig | utf16 | utf16be | utf16le | utf32 | utf32be | utf32le
deriving DecidableEq

/-- `detect_encoding`. -/
def detectEncoding (b : List UInt8) : Encoding :=
  if [0, 0, 0xFE, 0xFF] <+: b ∨ [0xFF, 0xFE, 0, 0] <+: b then .utf32
  else if [0xFE, 0xFF] <+: b ∨ [0xFF, 0xFE] <+: b then .utf16
  else if [0xEF, 0xBB, 0xBF] <+: b then .utf8Sig
  else
    match b with
    | b0 :: b1 :: b2 :: b3 :: _ =>
      if b0 = 0 then if b1 = 0 then .utf32be else .utf16be
      else if b1 = 0 then if b2 = 0 ∧ b3 = 0 then .utf32le else .utf16le
      else .utf8
    | [b0, b1] => if b0 = 0 then .utf16be else if b1 = 0 then .utf16le else .utf8
    | _ => .utf8

/-- `b.decode(detect_encoding(b), "surrogatepass")`; `other` are the encodings that are not UTF-8. -/
def decodeBytes (other : Encoding → List UInt8 → Option Text) (b : List UInt8) : Option Text :=
  match detectEncoding b with
  | .utf8 => Utf8.decode b
  | .utf8Sig => Utf8.decode (b.drop 3)
  | encoding => other encoding b

/-- `json.loads`; none for a `ValueError`. -/
def loads (other : Encoding → List UInt8 → Option Text) (b : List UInt8) : Option (Loaded φ) :=
  (decodeBytes other b).bind fun text =>
    (JsonText.read text).bind fun d => if shortInts d then some (docValue fl d) else none

/-- Bytes without a null byte that start with an ASCII character are read as UTF-8. -/
lemma detectEncoding_utf8 {b : List UInt8} (hzero : ∀ x ∈ b, x ≠ 0)
    (hhead : ∀ x ∈ b.head?, x.toNat < 0x80) : detectEncoding b = .utf8 := by
  have hmark : ∀ (x : UInt8) (mark : List UInt8), 0x80 ≤ x.toNat → ¬ (x :: mark) <+: b := by
    rintro x mark hx ⟨more, rfl⟩
    exact absurd (hhead x rfl) (by omega)
  have hnull : ¬ [0, 0, 0xFE, 0xFF] <+: b := by
    rintro ⟨more, rfl⟩
    exact hzero 0 List.mem_cons_self rfl
  unfold detectEncoding
  rw [if_neg (not_or.mpr ⟨hnull, hmark _ _ (by decide)⟩),
    if_neg (not_or.mpr ⟨hmark _ _ (by decide), hmark _ _ (by decide)⟩),
    if_neg (hmark _ _ (by decide))]
  split
  · rw [if_neg (hzero _ (by simp)), if_neg (hzero _ (by simp))]
  · rw [if_neg (hzero _ (by simp)), if_neg (hzero _ (by simp))]
  · rfl

/-! ## `json.dumps` -/

/-- A line break, and two blanks for each level. -/
def newlineIndent (level : ℕ) : Text := 10 :: List.replicate (2 * level) 32

/-- A lower-case hexadecimal digit. -/
def hexDigit (n : ℕ) : ℕ := (Nat.digitChar n).toNat

/-- `ESCAPE_DCT`. -/
def pieceOf (c : ℕ) : Piece :=
  if c = '"'.toNat ∨ c = '\\'.toNat then .escape c
  else if c = 8 then .escape 'b'.toNat
  else if c = 12 then .escape 'f'.toNat
  else if c = 10 then .escape 'n'.toNat
  else if c = 13 then .escape 'r'.toNat
  else if c = 9 then .escape 't'.toNat
  else if c < 0x20 then .unicode '0'.toNat '0'.toNat (hexDigit (c / 16)) (hexDigit (c % 16))
  else .raw c

/-- `int.__repr__`. -/
def numberOf (i : ℤ) : Number where
  neg := decide (i < 0)
  int := (Nat.toDigits 10 i.natAbs).map Char.toNat

/-- The elements on lines of their own. -/
def elemsOf (level : ℕ) (d : Doc) : List Doc → Elems
  | [] => .last (newlineIndent (level + 1)) d (newlineIndent level)
  | d' :: ds => .more (newlineIndent (level + 1)) d [] (elemsOf level d' ds)

/-- The name of a member on a line of its own. -/
def nameOf (level : ℕ) (k : Text) : Name :=
  ⟨newlineIndent (level + 1), k.map pieceOf, [], [32]⟩

/-- The members on lines of their own. -/
def membersOf (level : ℕ) (member : Text × Doc) : List (Text × Doc) → Members
  | [] => .last (nameOf level member.1) member.2 (newlineIndent level)
  | member' :: members =>
    .more (nameOf level member.1) member.2 [] (membersOf level member' members)

mutual

/-- The document that is written for a value. -/
def docOf (level : ℕ) : Loaded φ → Doc
  | .null => .atom .null
  | .bool b => .atom (if b then .true else .false)
  | .int i => .atom (.number (numberOf i))
  | .float f => .atom (fl.write f)
  | .str s => .atom (.string (s.map pieceOf))
  | .arr items =>
    match docsOf (level + 1) items with
    | [] => .emptyArr []
    | d :: ds => .arr (elemsOf level d ds)
  | .obj members =>
    match membersDocs (level + 1) members with
    | [] => .emptyObj []
    | member :: members => .obj (membersOf level member members)

/-- The documents of items. -/
def docsOf (level : ℕ) : List (Loaded φ) → List Doc
  | [] => []
  | v :: items => docOf level v :: docsOf level items

/-- The documents of members. -/
def membersDocs (level : ℕ) : List (Text × Loaded φ) → List (Text × Doc)
  | [] => []
  | (k, v) :: members => (k, docOf level v) :: membersDocs level members

end

/-- `json.dumps(v, indent=2, ensure_ascii=False)`. -/
def dumps (v : Loaded φ) : Text := (docOf fl 0 v).text

/-! ## What is written is a document -/

/-- A character is written as a valid piece. -/
lemma pieceOf_valid (c : ℕ) : (pieceOf c).Valid := by
  have hhex : ∀ n < 16, isHex (hexDigit n) = true := by decide
  unfold pieceOf
  split_ifs with hquote h8 h12 h10 h13 h9 hspace
  · show c ∈ escapes
    rcases hquote with rfl | rfl <;> decide
  · show 'b'.toNat ∈ escapes
    decide
  · show 'f'.toNat ∈ escapes
    decide
  · show 'n'.toNat ∈ escapes
    decide
  · show 'r'.toNat ∈ escapes
    decide
  · show 't'.toNat ∈ escapes
    decide
  · exact ⟨by decide, by decide, hhex _ (by omega), hhex _ (by omega)⟩
  · exact ⟨by omega, fun h => hquote (Or.inl h), fun h => hquote (Or.inr h)⟩

/-- The first digit of a number is no zero, but for 0. -/
lemma toDigits_head {n : ℕ} (hn : n ≠ 0) : ∃ d digits, Nat.toDigits 10 n = d :: digits ∧ d ≠ '0' := by
  induction n using Nat.strong_induction_on with
  | _ n ih =>
    by_cases hlt : n < 10
    · have hzero : ∀ m < 10, m ≠ 0 → Nat.digitChar m ≠ '0' := by decide
      exact ⟨_, [], Nat.toDigits_of_lt_base hlt, hzero n hlt hn⟩
    · obtain ⟨d, digits, hdigits, hd⟩ := ih (n / 10) (by omega) (by omega)
      rw [Nat.toDigits_of_base_le (by decide) (by omega), hdigits]
      exact ⟨d, _, rfl, hd⟩

/-- The digits of Lean are those of JSON. -/
lemma isDigit_toNat {c : Char} (h : c.isDigit = true) : JsonToken.isDigit c.toNat = true := by
  rw [Char.isDigit_iff_toNat] at h
  unfold JsonToken.isDigit
  rw [Bool.and_eq_true, decide_eq_true_eq, decide_eq_true_eq]
  exact h

/-- An integer is written as a valid number. -/
lemma numberOf_valid (i : ℤ) : (numberOf i).Valid := by
  refine ⟨?_, nofun, nofun⟩
  have hall : ∀ c ∈ Nat.toDigits 10 i.natAbs, JsonToken.isDigit c.toNat = true := fun c hc =>
    isDigit_toNat (Nat.isDigit_of_mem_toDigits (by decide) (by decide) hc)
  unfold numberOf
  by_cases hzero : i.natAbs = 0
  · refine Or.inl ?_
    simp [hzero, Nat.toDigits_zero]
  · obtain ⟨d, digits, hdigits, hd⟩ := toDigits_head hzero
    rw [hdigits] at hall ⊢
    refine Or.inr ⟨d.toNat, digits.map Char.toNat, rfl, hall d List.mem_cons_self, ?_, ?_⟩
    · exact fun h => hd (Char.toNat_inj.mp h)
    · intro c hc
      obtain ⟨c', hc', rfl⟩ := List.mem_map.mp hc
      exact hall c' (List.mem_cons_of_mem _ hc')

/-- A line break and its indentation are blanks. -/
lemma blanks_newlineIndent (level : ℕ) : Blanks (newlineIndent level) := by
  intro c hc
  rcases List.mem_cons.mp hc with rfl | hc
  · rfl
  · rw [List.eq_of_mem_replicate hc]
    rfl

/-- Valid elements make a valid list. -/
lemma elemsOf_valid (level : ℕ) {d : Doc} {ds : List Doc} (hd : d.Valid)
    (hds : ∀ d ∈ ds, d.Valid) : (elemsOf level d ds).Valid := by
  induction ds generalizing d with
  | nil =>
    rw [elemsOf, Elems.Valid]
    exact ⟨blanks_newlineIndent _, hd, blanks_newlineIndent _⟩
  | cons d' ds ih =>
    rw [elemsOf, Elems.Valid]
    exact ⟨blanks_newlineIndent _, hd, nofun, ih (hds d' List.mem_cons_self)
      fun d hmem => hds d (List.mem_cons_of_mem _ hmem)⟩

/-- A key is written as a valid name. -/
lemma nameOf_valid (level : ℕ) (k : Text) : (nameOf level k).Valid := by
  refine ⟨blanks_newlineIndent _, fun piece hpiece => ?_, nofun, fun c hc => ?_⟩
  · obtain ⟨c, -, rfl⟩ := List.mem_map.mp hpiece
    exact pieceOf_valid c
  · rw [List.mem_singleton.mp hc]
    rfl

/-- Valid members make a valid object. -/
lemma membersOf_valid (level : ℕ) {member : Text × Doc} {members : List (Text × Doc)}
    (hmember : member.2.Valid) (hmembers : ∀ m ∈ members, m.2.Valid) :
    (membersOf level member members).Valid := by
  induction members generalizing member with
  | nil =>
    rw [membersOf, Members.Valid]
    exact ⟨nameOf_valid _ _, hmember, blanks_newlineIndent _⟩
  | cons member' members ih =>
    rw [membersOf, Members.Valid]
    exact ⟨nameOf_valid _ _, hmember, nofun, ih (hmembers member' List.mem_cons_self)
      fun m hmem => hmembers m (List.mem_cons_of_mem _ hmem)⟩

mutual

/-- What is written for a value is a document.

**Proof sketch.** Structural recursion on the value, together with the two statements on lists
below. The scalars are valid as they are written, and a list or object is valid when its elements
are. -/
theorem docOf_valid (level : ℕ) : ∀ v : Loaded φ, (docOf fl level v).Valid
  | .null => by rw [docOf, Doc.Valid]; trivial
  | .bool b => by
    rw [docOf, Doc.Valid]
    cases b <;> trivial
  | .int i => by
    rw [docOf, Doc.Valid]
    exact numberOf_valid i
  | .float f => by
    rw [docOf, Doc.Valid]
    exact fl.write_valid f
  | .str s => by
    rw [docOf, Doc.Valid]
    intro piece hpiece
    obtain ⟨c, -, rfl⟩ := List.mem_map.mp hpiece
    exact pieceOf_valid c
  | .arr items => by
    have hitems := docsOf_valid (level + 1) items
    rw [docOf]
    cases hdocs : docsOf fl (level + 1) items with
    | nil =>
      rw [Doc.Valid]
      exact nofun
    | cons d ds =>
      rw [hdocs] at hitems
      rw [Doc.Valid]
      exact elemsOf_valid level (hitems d List.mem_cons_self)
        fun d hmem => hitems d (List.mem_cons_of_mem _ hmem)
  | .obj members => by
    have hmembers := membersDocs_valid (level + 1) members
    rw [docOf]
    cases hdocs : membersDocs fl (level + 1) members with
    | nil =>
      rw [Doc.Valid]
      exact nofun
    | cons m ms =>
      rw [hdocs] at hmembers
      rw [Doc.Valid]
      exact membersOf_valid level (hmembers m List.mem_cons_self)
        fun m hmem => hmembers m (List.mem_cons_of_mem _ hmem)

/-- What is written of a list's values is valid. -/
theorem docsOf_valid (level : ℕ) : ∀ items : List (Loaded φ), ∀ d ∈ docsOf fl level items, d.Valid
  | [] => by rw [docsOf]; exact nofun
  | v :: items => by
    rw [docsOf]
    exact List.forall_mem_cons.mpr ⟨docOf_valid level v, docsOf_valid level items⟩

/-- So is what is written of an object's. -/
theorem membersDocs_valid (level : ℕ) : ∀ members : List (Text × Loaded φ),
    ∀ m ∈ membersDocs fl level members, m.2.Valid
  | [] => by rw [membersDocs]; exact nofun
  | (k, v) :: members => by
    rw [membersDocs]
    exact List.forall_mem_cons.mpr ⟨docOf_valid level v, membersDocs_valid level members⟩

end

/-- **What `json.dumps` writes** is read. -/
theorem read_dumps (v : Loaded φ) : JsonText.read (dumps fl v) = some (docOf fl 0 v) := by
  have hblanks : Blanks [] := nofun
  have hread := read_text hblanks (docOf_valid fl 0 v) hblanks
  simpa [dumps] using hread

/-! ## Dicts -/

section Dicts

variable {α β : Type}

/-- A member after an assignment is the new one or an old one. -/
lemma mem_setMember {k : Text} {v : α} {members : List (Text × α)} {m : Text × α}
    (h : m ∈ setMember k v members) : m = (k, v) ∨ m ∈ members := by
  induction members with
  | nil => exact Or.inl (List.mem_singleton.mp h)
  | cons member members ih =>
    rw [setMember] at h
    split_ifs at h with hk
    · rcases List.mem_cons.mp h with rfl | hmem
      · exact Or.inl (by rw [hk])
      · exact Or.inr (List.mem_cons_of_mem _ hmem)
    · rcases List.mem_cons.mp h with rfl | hmem
      · exact Or.inr List.mem_cons_self
      · exact (ih hmem).imp_right (List.mem_cons_of_mem _)

/-- A dict has no other members than its pairs. -/
lemma mem_dictOf {pairs : List (Text × α)} {m : Text × α} (h : m ∈ dictOf pairs) : m ∈ pairs := by
  have hfold : ∀ (pairs dict : List (Text × α)),
      m ∈ pairs.foldl (fun dict pair => setMember pair.1 pair.2 dict) dict → m ∈ dict ∨ m ∈ pairs := by
    intro pairs
    induction pairs with
    | nil => exact fun dict h => Or.inl h
    | cons pair pairs ih =>
      intro dict h
      rcases ih _ h with hmem | hmem
      · rcases mem_setMember hmem with rfl | hmem
        · exact Or.inr List.mem_cons_self
        · exact Or.inl hmem
      · exact Or.inr (List.mem_cons_of_mem _ hmem)
  exact (hfold pairs [] h).resolve_left List.not_mem_nil

/-- A change of the values, by their keys, before the dict is made or after. -/
lemma dictOf_map (f : Text → α → β) (pairs : List (Text × α)) :
    dictOf (pairs.map fun pair => (pair.1, f pair.1 pair.2)) =
      (dictOf pairs).map fun pair => (pair.1, f pair.1 pair.2) := by
  have hset : ∀ (k : Text) (v : α) (dict : List (Text × α)),
      setMember k (f k v) (dict.map fun pair => (pair.1, f pair.1 pair.2)) =
        (setMember k v dict).map fun pair => (pair.1, f pair.1 pair.2) := by
    intro k v dict
    induction dict with
    | nil => rfl
    | cons pair dict ih =>
      rw [List.map_cons, setMember, setMember]
      split_ifs with hk
      · rw [List.map_cons, hk]
      · rw [List.map_cons, ih]
  have hfold : ∀ pairs dict : List (Text × α),
      (pairs.map fun pair => (pair.1, f pair.1 pair.2)).foldl
          (fun dict pair => setMember pair.1 pair.2 dict)
          (dict.map fun pair => (pair.1, f pair.1 pair.2)) =
        (pairs.foldl (fun dict pair => setMember pair.1 pair.2 dict) dict).map
          fun pair => (pair.1, f pair.1 pair.2) := by
    intro pairs
    induction pairs with
    | nil => exact fun dict => rfl
    | cons pair pairs ih =>
      intro dict
      rw [List.map_cons, List.foldl_cons, List.foldl_cons, hset, ih]
  exact hfold pairs []

end Dicts

/-! ## Integers -/

mutual

/-- The integers of a value have no more digits than are read. -/
def SmallInts : Loaded φ → Prop
  | .int i => i.natAbs < 10 ^ maxStrDigits
  | .arr items => SmallItems items
  | .obj members => SmallMembers members
  | _ => True

/-- The integers of items have no more digits than are read. -/
def SmallItems : List (Loaded φ) → Prop
  | [] => True
  | v :: items => SmallInts v ∧ SmallItems items

/-- The integers of members have no more digits than are read. -/
def SmallMembers : List (Text × Loaded φ) → Prop
  | [] => True
  | (_, v) :: members => SmallInts v ∧ SmallMembers members

end

/-- An object has small integers exactly if its members have. -/
lemma smallMembers_iff {members : List (Text × Loaded φ)} :
    SmallMembers members ↔ ∀ m ∈ members, SmallInts m.2 := by
  induction members with
  | nil => rw [SmallMembers]; simp
  | cons m members ih => rw [SmallMembers, List.forall_mem_cons, ih]

/-- A number of `k` digits is less than `10 ^ k`. -/
lemma digitsValue_lt {digits : Text} (h : ∀ c ∈ digits, JsonToken.isDigit c = true) :
    digitsValue digits < 10 ^ digits.length := by
  have hfold : ∀ (digits : Text) (n : ℕ), (∀ c ∈ digits, JsonToken.isDigit c = true) →
      digits.foldl (fun n c => 10 * n + (c - '0'.toNat)) n < (n + 1) * 10 ^ digits.length := by
    intro digits
    induction digits with
    | nil => intro n _; simp
    | cons c digits ih =>
      intro n h
      have hc := h c List.mem_cons_self
      unfold JsonToken.isDigit at hc
      rw [Bool.and_eq_true, decide_eq_true_eq, decide_eq_true_eq] at hc
      have hbounds : '0'.toNat = 48 ∧ '9'.toNat = 57 := by decide
      have hle : 10 * n + (c - '0'.toNat) + 1 ≤ (n + 1) * 10 := by omega
      calc digits.foldl (fun n c => 10 * n + (c - '0'.toNat)) (10 * n + (c - '0'.toNat))
          < (10 * n + (c - '0'.toNat) + 1) * 10 ^ digits.length :=
            ih _ fun d hd => h d (List.mem_cons_of_mem _ hd)
        _ ≤ (n + 1) * 10 * 10 ^ digits.length := Nat.mul_le_mul_right _ hle
        _ = (n + 1) * 10 ^ (c :: digits).length := by
            rw [List.length_cons, pow_succ]
            ring
  have hlt := hfold digits 0 h
  rwa [Nat.zero_add, Nat.one_mul] at hlt

/-- The digits of an integer are digits. -/
lemma validInt_digits {int : Text} (h : ValidInt int) :
    ∀ c ∈ int, JsonToken.isDigit c = true := by
  rcases h with rfl | ⟨d, digits, rfl, hd, -, hdigits⟩
  · intro c hc
    rw [List.mem_singleton.mp hc]
    rfl
  · exact List.forall_mem_cons.mpr ⟨hd, hdigits⟩

/-- An atom that is read has small integers. -/
lemma smallInts_atomValue {a : Atom} (ha : a.Valid) (h : shortInt a = true) :
    SmallInts (atomValue fl a) := by
  cases a with
  | number n =>
    unfold shortInt at h
    rw [atomValue]
    split_ifs with hfloat hneg
    · simp only [SmallInts]
    all_goals
      rw [Bool.or_eq_true, decide_eq_true_eq] at h
      have hlt := digitsValue_lt (validInt_digits ha.int)
      have hle : 10 ^ n.int.length ≤ 10 ^ maxStrDigits :=
        Nat.pow_le_pow_right (by decide) (h.resolve_left hfloat)
      rw [SmallInts]
      omega
  | _ => simp only [atomValue, SmallInts]

mutual

/-- What is read of a document has no longer integers than it. -/
theorem smallInts_docValue : ∀ d : Doc, d.Valid → shortInts d = true → SmallInts (docValue fl d)
  | .atom a, hd, h => by
    rw [Doc.Valid] at hd
    rw [shortInts] at h
    rw [docValue]
    exact smallInts_atomValue fl hd h
  | .emptyArr inside, hd, h => by
    rw [docValue, SmallInts, SmallItems]
    trivial
  | .arr elems, hd, h => by
    rw [Doc.Valid] at hd
    rw [shortInts] at h
    rw [docValue, SmallInts]
    exact smallItems_elemsValue elems hd h
  | .emptyObj inside, hd, h => by
    rw [docValue, SmallInts, SmallMembers]
    trivial
  | .obj members, hd, h => by
    rw [Doc.Valid] at hd
    rw [shortInts] at h
    rw [docValue, SmallInts, smallMembers_iff]
    exact fun m hm => smallInts_membersValue members hd h m (mem_dictOf hm)

/-- So have the elements of a list that is read. -/
theorem smallItems_elemsValue : ∀ elems : Elems, elems.Valid → shortElems elems = true →
    SmallItems (elemsValue fl elems)
  | .last before d after, hvalid, h => by
    rw [Elems.Valid] at hvalid
    rw [shortElems] at h
    rw [elemsValue, SmallItems, SmallItems]
    exact ⟨smallInts_docValue d hvalid.2.1 h, trivial⟩
  | .more before d after rest, hvalid, h => by
    rw [Elems.Valid] at hvalid
    rw [shortElems, Bool.and_eq_true] at h
    rw [elemsValue, SmallItems]
    exact ⟨smallInts_docValue d hvalid.2.1 h.1, smallItems_elemsValue rest hvalid.2.2.2 h.2⟩

/-- And the members of an object. -/
theorem smallInts_membersValue : ∀ members : Members, members.Valid →
    shortMembers members = true → ∀ m ∈ membersValue fl members, SmallInts m.2
  | .last name d after, hvalid, h => by
    rw [Members.Valid] at hvalid
    rw [shortMembers] at h
    rw [membersValue]
    intro m hm
    rw [List.mem_singleton.mp hm]
    exact smallInts_docValue d hvalid.2.1 h
  | .more name d after rest, hvalid, h => by
    rw [Members.Valid] at hvalid
    rw [shortMembers, Bool.and_eq_true] at h
    rw [membersValue]
    exact List.forall_mem_cons.mpr ⟨smallInts_docValue d hvalid.2.1 h.1,
      smallInts_membersValue rest hvalid.2.2.2 h.2⟩

end

/-- An integer with few digits is written shortly. -/
lemma shortInt_numberOf {i : ℤ} (h : i.natAbs < 10 ^ maxStrDigits) :
    shortInt (.number (numberOf i)) = true := by
  unfold shortInt numberOf
  rw [Bool.or_eq_true, decide_eq_true_eq, List.length_map]
  exact Or.inr ((Nat.length_toDigits_le_iff (by decide) (by decide)).mpr h)

/-- A list of such is written so. -/
lemma shortElems_elemsOf (level : ℕ) {d : Doc} {ds : List Doc} (hd : shortInts d = true)
    (hds : ∀ d ∈ ds, shortInts d = true) : shortElems (elemsOf level d ds) = true := by
  induction ds generalizing d with
  | nil => rwa [elemsOf, shortElems]
  | cons d' ds ih =>
    rw [elemsOf, shortElems, Bool.and_eq_true]
    exact ⟨hd, ih (hds d' List.mem_cons_self) fun d hmem => hds d (List.mem_cons_of_mem _ hmem)⟩

/-- So is an object of such. -/
lemma shortMembers_membersOf (level : ℕ) {member : Text × Doc} {members : List (Text × Doc)}
    (hmember : shortInts member.2 = true) (hmembers : ∀ m ∈ members, shortInts m.2 = true) :
    shortMembers (membersOf level member members) = true := by
  induction members generalizing member with
  | nil => rwa [membersOf, shortMembers]
  | cons member' members ih =>
    rw [membersOf, shortMembers, Bool.and_eq_true]
    exact ⟨hmember, ih (hmembers member' List.mem_cons_self)
      fun m hmem => hmembers m (List.mem_cons_of_mem _ hmem)⟩

mutual

/-- **What is written has no longer integers** than the value. -/
theorem shortInts_docOf (level : ℕ) : ∀ v : Loaded φ, SmallInts v →
    shortInts (docOf fl level v) = true
  | .null, _ => by rw [docOf, shortInts]; rfl
  | .bool b, _ => by
    rw [docOf, shortInts]
    cases b <;> rfl
  | .int i, h => by
    rw [SmallInts] at h
    rw [docOf, shortInts]
    exact shortInt_numberOf h
  | .float f, _ => by
    have hfloat := fl.write_float f
    rw [docOf, shortInts]
    unfold shortInt
    split
    · rw [hfloat, Bool.true_or]
    · rfl
  | .str s, _ => by rw [docOf, shortInts]; rfl
  | .arr items, h => by
    rw [SmallInts] at h
    have hitems := shortInts_docsOf (level + 1) items h
    rw [docOf]
    cases hdocs : docsOf fl (level + 1) items with
    | nil => rfl
    | cons d ds =>
      rw [hdocs] at hitems
      exact shortElems_elemsOf level (hitems d List.mem_cons_self)
        fun d hmem => hitems d (List.mem_cons_of_mem _ hmem)
  | .obj members, h => by
    rw [SmallInts] at h
    have hmembers := shortInts_membersDocs (level + 1) members h
    rw [docOf]
    cases hdocs : membersDocs fl (level + 1) members with
    | nil => rfl
    | cons m ms =>
      rw [hdocs] at hmembers
      exact shortMembers_membersOf level (hmembers m List.mem_cons_self)
        fun m hmem => hmembers m (List.mem_cons_of_mem _ hmem)

/-- Lists with small integers are written shortly. -/
theorem shortInts_docsOf (level : ℕ) : ∀ items : List (Loaded φ), SmallItems items →
    ∀ d ∈ docsOf fl level items, shortInts d = true
  | [], _ => by rw [docsOf]; exact nofun
  | v :: items, h => by
    rw [SmallItems] at h
    rw [docsOf]
    exact List.forall_mem_cons.mpr ⟨shortInts_docOf level v h.1,
      shortInts_docsOf level items h.2⟩

/-- So are objects. -/
theorem shortInts_membersDocs (level : ℕ) : ∀ members : List (Text × Loaded φ),
    SmallMembers members → ∀ m ∈ membersDocs fl level members, shortInts m.2 = true
  | [], _ => by rw [membersDocs]; exact nofun
  | (k, v) :: members, h => by
    rw [SmallMembers] at h
    rw [membersDocs]
    exact List.forall_mem_cons.mpr ⟨shortInts_docOf level v h.1,
      shortInts_membersDocs level members h.2⟩

end

end OpenVCenter
