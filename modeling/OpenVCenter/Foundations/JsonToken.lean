import Mathlib.Data.List.TakeWhile
import Mathlib.Data.List.Basic

set_option relaxedAutoImplicit false
set_option autoImplicit false

/-!
# Tokens of JSON

The blanks, numbers, strings and constants of JSON, as texts of code points, and the reader of each.
The constants `NaN` and `Infinity` are read as well. A number is read as far as it goes.

## Main definitions

* `JsonToken.Number`, `JsonToken.Piece`, `JsonToken.Atom` — the tokens, with their texts.
* `JsonToken.readNumber`, `JsonToken.readString`, `JsonToken.readAtom` — the readers.

## Main results

* `JsonToken.readAtom_text` — the text of a token is read as the token.
* `JsonToken.of_readAtom` — what is read as a token is the text of one.
-/

namespace JsonToken

/-- A text, as a list of code points. -/
abbrev Text : Type := List ℕ

/-- The code points of a text. -/
def codes (s : String) : Text := s.toList.map Char.toNat

/-- `[ \t\n\r]`. -/
def isBlank (c : ℕ) : Bool := c == 32 || c == 9 || c == 10 || c == 13

/-- `[0-9]`. -/
def isDigit (c : ℕ) : Bool := decide ('0'.toNat ≤ c) && decide (c ≤ '9'.toNat)

/-- `[0-9A-Fa-f]`. -/
def isHex (c : ℕ) : Bool :=
  isDigit c || decide ('A'.toNat ≤ c) && decide (c ≤ 'F'.toNat) ||
    decide ('a'.toNat ≤ c) && decide (c ≤ 'f'.toNat)

/-- A character with which a number may go on. -/
def inNumber (c : ℕ) : Bool :=
  isDigit c || c == '.'.toNat || c == 'e'.toNat || c == 'E'.toNat

/-- The text does not go on with a character of the kind. -/
def StopsAt (p : ℕ → Bool) (text : Text) : Prop := ∀ c ∈ text.head?, p c = false

variable {t rest : Text} {p : ℕ → Bool}

/-- Every word ends with the text. -/
lemma stopsAt_nil : StopsAt p [] := nofun

/-- A word ends before a character that is none of its own. -/
lemma stopsAt_cons {c : ℕ} (h : p c = false) : StopsAt p (c :: t) := by
  rintro d ⟨⟩
  exact h

/-- It ends as soon for fewer characters. -/
lemma StopsAt.mono {q : ℕ → Bool} (h : StopsAt p t) (hpq : ∀ c, q c = true → p c = true) :
    StopsAt q t := by
  intro c hc
  rw [← Bool.not_eq_true]
  exact fun hq => Bool.false_ne_true ((h c hc).symm.trans (hpq c hq))

/-- Where a number ends, no digit and no fraction follows. -/
lemma StopsAt.digit_dot (h : StopsAt inNumber t) :
    StopsAt isDigit t ∧ StopsAt (· == '.'.toNat) t :=
  ⟨h.mono fun c hc => by simp [inNumber, hc], h.mono fun c hc => by simp_all [inNumber]⟩

/-- A word is taken up to where it ends. -/
lemma takeWhile_stops {word : Text} (hword : ∀ c ∈ word, p c = true) (hrest : StopsAt p rest) :
    (word ++ rest).takeWhile p = word ∧ (word ++ rest).dropWhile p = rest := by
  rw [List.takeWhile_append_of_pos hword, List.dropWhile_append_of_pos hword]
  cases rest with
  | nil => simp
  | cons c rest => simp [hrest c rfl]

/-! ## Numbers -/

/-- The exponent of a number: the letter, the sign and the digits. -/
structure Exponent where
  letter : ℕ
  sign : Text
  digits : Text

/-- A number: the digits of its integer part, of its fraction and of its exponent. -/
structure Number where
  neg : Bool := false
  int : Text
  frac : Option Text := none
  exp : Option Exponent := none

/-- The text of a sign. -/
def signText (neg : Bool) : Text := if neg then ['-'.toNat] else []

/-- The text of a fraction. -/
def fracText (frac : Option Text) : Text := frac.elim [] fun digits => '.'.toNat :: digits

/-- The text of an exponent. -/
def expText (exp : Option Exponent) : Text :=
  exp.elim [] fun e => e.letter :: (e.sign ++ e.digits)

/-- The digits of an integer part: no leading zeros. -/
def ValidInt (int : Text) : Prop :=
  int = ['0'.toNat] ∨ ∃ d digits, int = d :: digits ∧ isDigit d = true ∧ d ≠ '0'.toNat ∧
    ∀ c ∈ digits, isDigit c = true

/-- One digit or more. -/
def ValidDigits (digits : Text) : Prop := digits ≠ [] ∧ ∀ c ∈ digits, isDigit c = true

/-- The parts of an exponent. -/
structure Exponent.Valid (e : Exponent) : Prop where
  letter : e.letter = 'e'.toNat ∨ e.letter = 'E'.toNat
  sign : e.sign = [] ∨ e.sign = ['+'.toNat] ∨ e.sign = ['-'.toNat]
  digits : ValidDigits e.digits

namespace Number

/-- The text of a number. -/
def text (n : Number) : Text := signText n.neg ++ (n.int ++ (fracText n.frac ++ expText n.exp))

/-- The parts of a number. -/
structure Valid (n : Number) : Prop where
  int : ValidInt n.int
  frac : ∀ digits ∈ n.frac, ValidDigits digits
  exp : ∀ e ∈ n.exp, e.Valid

end Number

/-- Read a sign. -/
def readSign : Text → Bool × Text
  | [] => (false, [])
  | c :: rest => if c = '-'.toNat then (true, rest) else (false, c :: rest)

/-- Read an integer part. -/
def readInt : Text → Option (Text × Text)
  | [] => none
  | c :: rest =>
    if c = '0'.toNat then some ([c], rest)
    else if isDigit c then some (c :: rest.takeWhile isDigit, rest.dropWhile isDigit)
    else none

/-- Read a fraction, if there is one. -/
def readFrac : Text → Option Text × Text
  | [] => (none, [])
  | c :: rest =>
    if c = '.'.toNat ∧ rest.takeWhile isDigit ≠ [] then
      (some (rest.takeWhile isDigit), rest.dropWhile isDigit)
    else (none, c :: rest)

/-- Read the sign of an exponent, if there is one. -/
def readExpSign : Text → Text × Text
  | [] => ([], [])
  | c :: rest => if c = '+'.toNat ∨ c = '-'.toNat then ([c], rest) else ([], c :: rest)

/-- Read an exponent, if there is one. -/
def readExp : Text → Option Exponent × Text
  | [] => (none, [])
  | c :: rest =>
    if (c = 'e'.toNat ∨ c = 'E'.toNat) ∧ (readExpSign rest).2.takeWhile isDigit ≠ [] then
      (some ⟨c, (readExpSign rest).1, (readExpSign rest).2.takeWhile isDigit⟩,
        (readExpSign rest).2.dropWhile isDigit)
    else (none, c :: rest)

/-- Read a number, as far as it goes. -/
def readNumber (text : Text) : Option (Number × Text) :=
  (readInt (readSign text).2).map fun (int, rest) =>
    (⟨(readSign text).1, int, (readFrac rest).1, (readExp (readFrac rest).2).1⟩,
      (readExp (readFrac rest).2).2)

/-- `readSign` reads back a sign. -/
lemma readSign_text (neg : Bool) (h : StopsAt (· == '-'.toNat) rest) :
    readSign (signText neg ++ rest) = (neg, rest) := by
  cases neg with
  | true => rfl
  | false =>
    cases rest with
    | nil => rfl
    | cons c rest =>
      have hc : c ≠ '-'.toNat := by simpa using h c rfl
      show readSign (c :: rest) = _
      rw [readSign, if_neg hc]

/-- `readInt` reads back an integer. -/
lemma readInt_text {int : Text} (hint : ValidInt int) (h : StopsAt isDigit rest) :
    readInt (int ++ rest) = some (int, rest) := by
  rcases hint with rfl | ⟨d, digits, rfl, hd, hzero, hdigits⟩
  · rfl
  · obtain ⟨htake, hdrop⟩ := takeWhile_stops hdigits h
    rw [List.cons_append, readInt, if_neg hzero, if_pos hd, htake, hdrop]

/-- `readFrac` reads back a fraction. -/
lemma readFrac_text {frac : Option Text} (hfrac : ∀ digits ∈ frac, ValidDigits digits)
    (hstops : StopsAt isDigit rest ∧ StopsAt (· == '.'.toNat) rest) :
    readFrac (fracText frac ++ rest) = (frac, rest) := by
  cases frac with
  | none =>
    cases rest with
    | nil => rfl
    | cons c rest =>
      have hc : c ≠ '.'.toNat := by simpa using hstops.2 c rfl
      rw [fracText, Option.elim_none, List.nil_append, readFrac, if_neg fun hand => hc hand.1]
  | some digits =>
    obtain ⟨hne, hdigits⟩ := hfrac digits rfl
    obtain ⟨htake, hdrop⟩ := takeWhile_stops hdigits hstops.1
    rw [fracText, Option.elim_some, List.cons_append, readFrac, htake, hdrop, if_pos ⟨rfl, hne⟩]

variable (rest) in
/-- `readExpSign` reads back the sign of an exponent. -/
lemma readExpSign_text {sign digits : Text}
    (hsign : sign = [] ∨ sign = ['+'.toNat] ∨ sign = ['-'.toNat]) (hdigits : ValidDigits digits) :
    readExpSign (sign ++ (digits ++ rest)) = (sign, digits ++ rest) := by
  rcases hsign with rfl | rfl | rfl
  · obtain ⟨c, digits, rfl⟩ := List.exists_cons_of_ne_nil hdigits.1
    have hc := hdigits.2 c List.mem_cons_self
    have hnot : ¬ (c = '+'.toNat ∨ c = '-'.toNat) := by
      rintro (rfl | rfl) <;> exact absurd hc (by decide)
    rw [List.nil_append, List.cons_append, readExpSign, if_neg hnot]
  · rfl
  · rfl

/-- `readExp` reads back an exponent. -/
lemma readExp_text {exp : Option Exponent} (hexp : ∀ e ∈ exp, e.Valid)
    (h : StopsAt inNumber rest) : readExp (expText exp ++ rest) = (exp, rest) := by
  cases exp with
  | none =>
    cases rest with
    | nil => rfl
    | cons c rest =>
      have hc := h c rfl
      have hnot : ¬ (c = 'e'.toNat ∨ c = 'E'.toNat) := by
        rintro (rfl | rfl) <;> exact absurd hc (by decide)
      rw [expText, Option.elim_none, List.nil_append, readExp, if_neg fun hand => hnot hand.1]
  | some e =>
    obtain ⟨hletter, hsign, hdigits⟩ := hexp e rfl
    obtain ⟨htake, hdrop⟩ := takeWhile_stops hdigits.2 h.digit_dot.1
    have hread := readExpSign_text rest hsign hdigits
    rw [expText, Option.elim_some, List.cons_append, List.append_assoc, readExp, hread]
    simp only [htake, hdrop]
    rw [if_pos ⟨hletter, hdigits.1⟩]

/-- What stands behind the integer part of a number. -/
lemma stopsAt_fracText {n : Number} (hn : n.Valid) (h : StopsAt inNumber rest) :
    StopsAt isDigit (fracText n.frac ++ (expText n.exp ++ rest)) ∧
      StopsAt isDigit (expText n.exp ++ rest) ∧
      StopsAt (· == '.'.toNat) (expText n.exp ++ rest) := by
  have hexp : StopsAt isDigit (expText n.exp ++ rest) ∧
      StopsAt (· == '.'.toNat) (expText n.exp ++ rest) := by
    cases hexp : n.exp with
    | none => exact h.digit_dot
    | some e =>
      rcases (hn.exp e hexp).letter with hletter | hletter
      · constructor <;> (refine stopsAt_cons ?_; rw [hletter]; decide)
      · constructor <;> (refine stopsAt_cons ?_; rw [hletter]; decide)
  refine ⟨?_, hexp⟩
  cases n.frac with
  | none => exact hexp.1
  | some digits => exact stopsAt_cons (by decide)

/-- An integer does not begin with a sign. -/
lemma stopsAt_int {int : Text} (hint : ValidInt int) : StopsAt (· == '-'.toNat) (int ++ rest) := by
  rcases hint with rfl | ⟨d, digits, rfl, hd, -, -⟩
  · exact stopsAt_cons (by decide)
  · refine stopsAt_cons (beq_false_of_ne ?_)
    rintro rfl
    exact absurd hd (by decide)

/-- **The text of a number** is read as the number. -/
lemma readNumber_text {n : Number} (hn : n.Valid) (h : StopsAt inNumber rest) :
    readNumber (n.text ++ rest) = some (n, rest) := by
  obtain ⟨hfrac, hexp⟩ := stopsAt_fracText hn h
  have htext : n.text ++ rest =
      signText n.neg ++ (n.int ++ (fracText n.frac ++ (expText n.exp ++ rest))) := by
    simp [Number.text]
  unfold readNumber
  rw [htext, readSign_text n.neg (stopsAt_int hn.int)]
  simp only
  rw [readInt_text hn.int hfrac, Option.map_some]
  simp only
  rw [readFrac_text hn.frac hexp]
  simp only
  rw [readExp_text hn.exp h]

/-- `readSign` splits its text. -/
lemma of_readSign (t : Text) : signText (readSign t).1 ++ (readSign t).2 = t := by
  unfold readSign
  cases t with
  | nil => rfl
  | cons c t =>
    dsimp only
    split_ifs with hc
    · rw [hc]
      rfl
    · rfl

/-- `readInt` splits its text, behind a valid integer. -/
lemma of_readInt {int : Text} (h : readInt t = some (int, rest)) :
    int ++ rest = t ∧ ValidInt int := by
  unfold readInt at h
  cases t with
  | nil => cases h
  | cons c t =>
    dsimp only at h
    split_ifs at h with hzero hdigit
    · cases h
      exact ⟨rfl, Or.inl (by rw [hzero])⟩
    · cases h
      refine ⟨by simp, Or.inr ⟨c, _, rfl, hdigit, hzero, fun d hd => List.mem_takeWhile_imp hd⟩⟩

/-- `readFrac` splits its text, behind a valid fraction. -/
lemma of_readFrac (t : Text) : fracText (readFrac t).1 ++ (readFrac t).2 = t ∧
    ∀ digits ∈ (readFrac t).1, ValidDigits digits := by
  unfold readFrac
  cases t with
  | nil => exact ⟨rfl, nofun⟩
  | cons c t =>
    dsimp only
    split_ifs with hc
    · refine ⟨by simp [fracText, hc.1], ?_⟩
      rintro digits ⟨⟩
      exact ⟨hc.2, fun d hd => List.mem_takeWhile_imp hd⟩
    · exact ⟨rfl, nofun⟩

/-- `readExpSign` splits its text, behind one of the signs. -/
lemma of_readExpSign (t : Text) : (readExpSign t).1 ++ (readExpSign t).2 = t ∧
    ((readExpSign t).1 = [] ∨ (readExpSign t).1 = ['+'.toNat] ∨
      (readExpSign t).1 = ['-'.toNat]) := by
  unfold readExpSign
  cases t with
  | nil => exact ⟨rfl, Or.inl rfl⟩
  | cons c t =>
    dsimp only
    split_ifs with hc
    · exact ⟨rfl, Or.inr (hc.imp (fun h => by rw [h]) fun h => by rw [h])⟩
    · exact ⟨rfl, Or.inl rfl⟩

/-- `readExp` splits its text, behind a valid exponent. -/
lemma of_readExp (t : Text) : expText (readExp t).1 ++ (readExp t).2 = t ∧
    ∀ e ∈ (readExp t).1, e.Valid := by
  unfold readExp
  cases t with
  | nil => exact ⟨rfl, nofun⟩
  | cons c t =>
    obtain ⟨htext, hsign⟩ := of_readExpSign t
    dsimp only
    split_ifs with hc
    · constructor
      · simp only [expText, Option.elim_some, List.cons_append, List.append_assoc,
          List.takeWhile_append_dropWhile, htext]
      · rintro e ⟨⟩
        exact ⟨hc.1, hsign, hc.2, fun d hd => List.mem_takeWhile_imp hd⟩
    · exact ⟨rfl, nofun⟩

/-- **What is read as a number** is the text of one. -/
lemma of_readNumber {n : Number} (h : readNumber t = some (n, rest)) :
    t = n.text ++ rest ∧ n.Valid := by
  unfold readNumber at h
  cases hread : readInt (readSign t).2 with
  | none => rw [hread] at h; cases h
  | some read =>
    obtain ⟨int, r⟩ := read
    rw [hread] at h
    obtain ⟨rfl, rfl⟩ := Prod.mk.inj (Option.some.inj h)
    obtain ⟨htext, hint⟩ := of_readInt hread
    obtain ⟨hfracText, hfrac⟩ := of_readFrac r
    obtain ⟨hexpText, hexp⟩ := of_readExp (readFrac r).2
    refine ⟨?_, hint, hfrac, hexp⟩
    unfold Number.text
    simp only [List.append_assoc]
    rw [hexpText, hfracText, htext, of_readSign]

/-! ## Strings -/

/-- A piece of a string: a character, or an escape of one character or of four hexadecimal digits. -/
inductive Piece where
  | raw (c : ℕ)
  | escape (c : ℕ)
  | unicode (a b c d : ℕ)

/-- `["\\/bfnrt]`. -/
def escapes : Text := codes "\"\\/bfnrt"

namespace Piece

/-- The text of a piece. -/
def text : Piece → Text
  | raw c => [c]
  | escape c => ['\\'.toNat, c]
  | unicode a b c d => ['\\'.toNat, 'u'.toNat, a, b, c, d]

/-- The piece may stand in a string. -/
def Valid : Piece → Prop
  | raw c => 0x20 ≤ c ∧ c ≠ '"'.toNat ∧ c ≠ '\\'.toNat
  | escape c => c ∈ escapes
  | unicode a b c d => isHex a = true ∧ isHex b = true ∧ isHex c = true ∧ isHex d = true

end Piece

/-- The text of a string behind its first quotation mark. -/
def stringText (pieces : List Piece) : Text := pieces.flatMap Piece.text ++ ['"'.toNat]

/-- Read a string behind its first quotation mark. -/
def readString : Text → Option (List Piece × Text)
  | [] => none
  | c :: rest =>
    if c = '"'.toNat then some ([], rest)
    else if c = '\\'.toNat then
      match rest with
      | [] => none
      | e :: rest =>
        if e = 'u'.toNat then
          match rest with
          | a :: b :: c :: d :: rest =>
            if isHex a && isHex b && isHex c && isHex d then
              (readString rest).map fun (pieces, rest) => (.unicode a b c d :: pieces, rest)
            else none
          | _ => none
        else if e ∈ escapes then
          (readString rest).map fun (pieces, rest) => (.escape e :: pieces, rest)
        else none
    else if c < 0x20 then none
    else (readString rest).map fun (pieces, rest) => (.raw c :: pieces, rest)

/-- **The text of a string** is read as the string. -/
lemma readString_text {pieces : List Piece} (h : ∀ piece ∈ pieces, piece.Valid) :
    readString (stringText pieces ++ rest) = some (pieces, rest) := by
  induction pieces with
  | nil =>
    show readString ('"'.toNat :: rest) = _
    rw [readString.eq_def]
    exact if_pos rfl
  | cons piece pieces ih =>
    have hrest := ih fun piece' hmem => h piece' (List.mem_cons_of_mem _ hmem)
    have hvalid := h piece List.mem_cons_self
    have htext : stringText (piece :: pieces) ++ rest =
        piece.text ++ (stringText pieces ++ rest) := by
      simp [stringText]
    rw [htext]
    cases piece with
    | raw c =>
      obtain ⟨hspace, hquote, hslash⟩ := hvalid
      rw [Piece.text, List.singleton_append, readString.eq_def]
      simp only [if_neg hquote, if_neg hslash, if_neg (by omega : ¬ c < 0x20), hrest,
        Option.map_some]
    | escape c =>
      have hu : c ≠ 'u'.toNat := by
        rintro rfl
        exact absurd hvalid (by unfold Piece.Valid; decide)
      rw [Piece.text, List.cons_append, List.singleton_append, readString.eq_def]
      simp only [if_neg hu, if_pos (show c ∈ escapes from hvalid), hrest, Option.map_some]
      rfl
    | unicode a b c d =>
      obtain ⟨ha, hb, hc, hd⟩ := hvalid
      simp only [Piece.text, List.cons_append, List.nil_append]
      rw [readString.eq_def]
      simp only [ha, hb, hc, hd, Bool.and_true, if_true, hrest, Option.map_some]
      rfl

/-- **What is read as a string** is the text of one. -/
lemma of_readString {pieces : List Piece} (h : readString t = some (pieces, rest)) :
    t = stringText pieces ++ rest ∧ ∀ piece ∈ pieces, piece.Valid := by
  -- what one piece more makes of what is read behind it
  have hcons : ∀ {t' rest : Text} {piece : Piece} {pieces : List Piece}, piece.Valid →
      (∀ {pieces rest}, readString t' = some (pieces, rest) →
        t' = stringText pieces ++ rest ∧ ∀ piece ∈ pieces, piece.Valid) →
      ((readString t').map fun (pieces, rest) => (piece :: pieces, rest)) = some (pieces, rest) →
      piece.text ++ t' = stringText pieces ++ rest ∧ ∀ piece ∈ pieces, piece.Valid := by
    intro t' rest piece pieces hvalid ih h
    obtain ⟨⟨pieces', rest'⟩, hread, heq⟩ := Option.map_eq_some_iff.mp h
    obtain ⟨rfl, rfl⟩ := Prod.mk.inj heq
    obtain ⟨rfl, hall⟩ := ih hread
    exact ⟨by simp [stringText], List.forall_mem_cons.mpr ⟨hvalid, hall⟩⟩
  fun_induction readString t generalizing pieces rest with
  | case1 => cases h
  | case2 rest' =>
    cases h
    exact ⟨rfl, nofun⟩
  | case3 => cases h
  | case4 a b c d rest' hhex _ ih =>
    simp only [Bool.and_eq_true] at hhex
    have hvalid : (Piece.unicode a b c d).Valid := ⟨hhex.1.1.1, hhex.1.1.2, hhex.1.2, hhex.2⟩
    exact hcons hvalid ih h
  | case5 => cases h
  | case6 => cases h
  | case7 e rest' _ hescape _ ih =>
    have hvalid : (Piece.escape e).Valid := hescape
    exact hcons hvalid ih h
  | case8 => cases h
  | case9 => cases h
  | case10 c rest' hquote hslash hspace ih =>
    have hvalid : (Piece.raw c).Valid := ⟨by omega, hquote, hslash⟩
    exact hcons hvalid ih h

/-! ## Constants, numbers and strings -/

/-- A value that is no array and no object. -/
inductive Atom where
  | null
  | true
  | false
  | nan
  | infinity
  | negInfinity
  | number (n : Number)
  | string (pieces : List Piece)

/-- The constants. -/
def constants : List (Text × Atom) :=
  [(codes "null", .null), (codes "true", .true), (codes "false", .false), (codes "NaN", .nan),
    (codes "Infinity", .infinity), (codes "-Infinity", .negInfinity)]

namespace Atom

/-- The text of a value. -/
def text : Atom → Text
  | null => codes "null"
  | true => codes "true"
  | false => codes "false"
  | nan => codes "NaN"
  | infinity => codes "Infinity"
  | negInfinity => codes "-Infinity"
  | number n => n.text
  | string pieces => '"'.toNat :: stringText pieces

/-- The parts of a value. -/
def Valid : Atom → Prop
  | number n => n.Valid
  | string pieces => ∀ piece ∈ pieces, piece.Valid
  | _ => True

end Atom

/-- Read a constant. -/
def readConstant (text : Text) : Option (Atom × Text) :=
  constants.findSome? fun (word, atom) =>
    if word.isPrefixOf text then some (atom, text.drop word.length) else none

/-- Read a value that is no array and no object. -/
def readAtom : Text → Option (Atom × Text)
  | [] => none
  | c :: rest =>
    if c = '"'.toNat then (readString rest).map fun (pieces, rest) => (.string pieces, rest)
    else
      match readConstant (c :: rest) with
      | some read => some read
      | none => (readNumber (c :: rest)).map fun (n, rest) => (.number n, rest)

/-- A number starts with a digit, or with a sign and a digit. -/
lemma number_head {n : Number} (hn : n.Valid) : ∃ d rest, isDigit d = Bool.true ∧
    (n.text = d :: rest ∨ n.text = '-'.toNat :: d :: rest) := by
  obtain ⟨d, digits, hint, hd⟩ : ∃ d digits, n.int = d :: digits ∧ isDigit d = Bool.true := by
    rcases hn.int with h | ⟨d, digits, h, hd, -, -⟩
    · exact ⟨_, _, h, by decide⟩
    · exact ⟨d, digits, h, hd⟩
  unfold Number.text
  rw [hint]
  cases n.neg with
  | false => exact ⟨d, _, hd, Or.inl rfl⟩
  | true => exact ⟨d, _, hd, Or.inr rfl⟩

variable (rest) in
/-- No constant starts like a number. -/
lemma readConstant_number {n : Number} (hn : n.Valid) : readConstant (n.text ++ rest) = none := by
  obtain ⟨d, more, hd, htext⟩ := number_head hn
  have hne : ∀ c : ℕ, isDigit c = Bool.false → c ≠ d := by
    rintro c hc rfl
    exact Bool.false_ne_true (hc.symm.trans hd)
  unfold readConstant
  rw [List.findSome?_eq_none_iff]
  intro entry hentry
  simp only [constants, List.mem_cons, List.not_mem_nil, or_false] at hentry
  rcases htext with htext | htext <;> rw [htext] <;>
    rcases hentry with rfl | rfl | rfl | rfl | rfl | rfl <;>
    simp [codes, List.isPrefixOf, hne _ (by decide : isDigit 110 = Bool.false),
      hne _ (by decide : isDigit 116 = Bool.false), hne _ (by decide : isDigit 102 = Bool.false),
      hne _ (by decide : isDigit 78 = Bool.false), hne _ (by decide : isDigit 73 = Bool.false),
      hne _ (by decide : isDigit 45 = Bool.false)]

/-- **The text of a value** is read as the value. -/
theorem readAtom_text {a : Atom} (ha : a.Valid) (h : StopsAt inNumber rest) :
    readAtom (a.text ++ rest) = some (a, rest) := by
  cases a with
  | number n =>
    obtain ⟨d, more, hd, htext⟩ := number_head ha
    have hread := readNumber_text ha h
    have hconstant := readConstant_number rest ha
    obtain ⟨c, text, hcons, hquote⟩ : ∃ c text, n.text ++ rest = c :: text ∧ c ≠ '"'.toNat := by
      rcases htext with htext | htext
      · refine ⟨d, _, by rw [htext]; rfl, ?_⟩
        rintro rfl
        exact absurd hd (by decide)
      · exact ⟨'-'.toNat, _, by rw [htext]; rfl, by decide⟩
    show readAtom (n.text ++ rest) = _
    rw [hcons] at hread hconstant ⊢
    rw [readAtom, if_neg hquote, hconstant, hread]
    rfl
  | string pieces =>
    show readAtom ('"'.toNat :: (stringText pieces ++ rest)) = _
    rw [readAtom, if_pos rfl, readString_text ha]
    rfl
  | _ => rfl

/-- **What is read as a value** is the text of one. -/
theorem of_readAtom {a : Atom} (h : readAtom t = some (a, rest)) :
    t = a.text ++ rest ∧ a.Valid := by
  cases t with
  | nil => cases h
  | cons c t =>
    rw [readAtom] at h
    split_ifs at h with hquote
    · obtain ⟨⟨pieces, rest'⟩, hread, heq⟩ := Option.map_eq_some_iff.mp h
      obtain ⟨rfl, rfl⟩ := Prod.mk.inj heq
      obtain ⟨rfl, hvalid⟩ := of_readString hread
      exact ⟨by rw [hquote]; rfl, hvalid⟩
    · cases hconstant : readConstant (c :: t) with
      | none =>
        rw [hconstant] at h
        obtain ⟨⟨n, rest'⟩, hread, heq⟩ := Option.map_eq_some_iff.mp h
        obtain ⟨rfl, rfl⟩ := Prod.mk.inj heq
        exact of_readNumber hread
      | some read =>
        rw [hconstant] at h
        obtain rfl := Option.some.inj h
        obtain ⟨⟨word, atom⟩, hmem, hfound⟩ := List.exists_of_findSome?_eq_some hconstant
        dsimp only at hfound
        split_ifs at hfound with hstart
        obtain ⟨rfl, rfl⟩ := Prod.mk.inj (Option.some.inj hfound)
        have hword : word = atom.text ∧ atom.Valid := by
          simp only [constants, List.mem_cons, List.not_mem_nil, or_false, Prod.mk.injEq] at hmem
          rcases hmem with ⟨rfl, rfl⟩ | ⟨rfl, rfl⟩ | ⟨rfl, rfl⟩ | ⟨rfl, rfl⟩ | ⟨rfl, rfl⟩ | ⟨rfl, rfl⟩
            <;> exact ⟨rfl, trivial⟩
        obtain ⟨more, hmore⟩ := List.isPrefixOf_iff_prefix.mp hstart
        rw [← hword.1, ← hmore, List.drop_left]
        exact ⟨rfl, hword.2⟩

/-! ## The characters of a token -/

/-- A digit is not NUL. -/
lemma ne_zero_of_isDigit {c : ℕ} (h : isDigit c = Bool.true) : c ≠ 0 := by
  rintro rfl
  exact absurd h (by decide)

/-- Neither is a hexadecimal digit. -/
lemma ne_zero_of_isHex {c : ℕ} (h : isHex c = Bool.true) : c ≠ 0 := by
  rintro rfl
  exact absurd h (by decide)

/-- A number has no NUL.

**Proof sketch.** The parts of the text are taken one by one: a sign, the digits of the whole part,
those of the fraction and those of the exponent. -/
lemma number_ne_zero {n : Number} (hn : n.Valid) : ∀ c ∈ n.text, c ≠ 0 := by
  have hdigits : ∀ digits, ValidDigits digits → ∀ c ∈ digits, c ≠ 0 := fun digits h c hc =>
    ne_zero_of_isDigit (h.2 c hc)
  intro c hc
  unfold Number.text at hc
  simp only [List.mem_append] at hc
  rcases hc with hc | hc | hc | hc
  · unfold signText at hc
    split_ifs at hc
    · rw [List.mem_singleton.mp hc]
      decide
    · cases hc
  · rcases hn.int with h | ⟨d, digits, h, hd, -, hall⟩ <;> rw [h] at hc
    · rw [List.mem_singleton.mp hc]
      decide
    · rcases List.mem_cons.mp hc with rfl | hc
      · exact ne_zero_of_isDigit hd
      · exact ne_zero_of_isDigit (hall c hc)
  · unfold fracText at hc
    cases hfrac : n.frac with
    | none => rw [hfrac] at hc; cases hc
    | some digits =>
      rw [hfrac, Option.elim_some] at hc
      rcases List.mem_cons.mp hc with rfl | hc
      · decide
      · exact hdigits digits (hn.frac digits hfrac) c hc
  · unfold expText at hc
    cases hexp : n.exp with
    | none => rw [hexp] at hc; cases hc
    | some e =>
      obtain ⟨hletter, hsign, he⟩ := hn.exp e hexp
      rw [hexp, Option.elim_some] at hc
      rcases List.mem_cons.mp hc with rfl | hc
      · rcases hletter with h | h <;> rw [h] <;> decide
      · rcases List.mem_append.mp hc with hc | hc
        · rcases hsign with h | h | h <;> rw [h] at hc
          · cases hc
          · rw [List.mem_singleton.mp hc]
            decide
          · rw [List.mem_singleton.mp hc]
            decide
        · exact hdigits _ he c hc

/-- Neither has a string. -/
lemma string_ne_zero {pieces : List Piece} (h : ∀ piece ∈ pieces, piece.Valid) :
    ∀ c ∈ stringText pieces, c ≠ 0 := by
  intro c hc
  unfold stringText at hc
  rcases List.mem_append.mp hc with hc | hc
  · obtain ⟨piece, hpiece, hc⟩ := List.mem_flatMap.mp hc
    have hvalid := h piece hpiece
    cases piece with
    | raw d =>
      obtain ⟨hspace, -, -⟩ := hvalid
      rw [List.mem_singleton.mp hc]
      omega
    | escape d =>
      have hescapes : ∀ e ∈ escapes, e ≠ 0 := by decide
      simp only [Piece.text, List.mem_cons, List.not_mem_nil, or_false] at hc
      rcases hc with rfl | rfl
      · decide
      · exact hescapes _ hvalid
    | unicode a b c' d =>
      obtain ⟨ha, hb, hc', hd⟩ := hvalid
      simp only [Piece.text, List.mem_cons, List.not_mem_nil, or_false] at hc
      rcases hc with rfl | rfl | rfl | rfl | rfl | rfl
      · decide
      · decide
      · exact ne_zero_of_isHex ha
      · exact ne_zero_of_isHex hb
      · exact ne_zero_of_isHex hc'
      · exact ne_zero_of_isHex hd
  · rw [List.mem_singleton.mp hc]
    decide

/-- No token has a null character. -/
theorem atom_ne_zero {a : Atom} (ha : a.Valid) : ∀ c ∈ a.text, c ≠ 0 := by
  cases a with
  | number n => exact number_ne_zero ha
  | string pieces =>
    exact List.forall_mem_cons.mpr ⟨by decide, string_ne_zero ha⟩
  | _ => decide

end JsonToken
