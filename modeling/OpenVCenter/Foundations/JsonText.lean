import OpenVCenter.Foundations.JsonToken

set_option relaxedAutoImplicit false
set_option autoImplicit false

/-!
# Texts of JSON documents

A document with its blanks, the spelling of its numbers and the escapes of its strings, and the reader
of its text. The reader goes one step of its fuel down for each value that it reads.

## Main definitions

* `JsonText.Doc` — a document, with its text.
* `JsonText.read` — the reader of a whole text.

## Main results

* `JsonText.read_text` — the text of a document is read as the document.
* `JsonText.of_read` — what is read is the text of a document.
* `JsonText.read_cut` — a start of an array or an object that lacks something of it is not read.
-/

namespace JsonText

open JsonToken

/-- The name of a member: the blanks in front of it, its string, the blanks in front of the colon, and
the blanks behind it. -/
structure Name where
  before : Text
  pieces : List Piece
  gap : Text
  lead : Text

mutual

/-- A document. -/
inductive Doc where
  | atom (a : Atom)
  | emptyArr (inside : Text)
  | arr (elems : Elems)
  | emptyObj (inside : Text)
  | obj (members : Members)

/-- The elements of an array. -/
inductive Elems where
  | last (before : Text) (d : Doc) (after : Text)
  | more (before : Text) (d : Doc) (after : Text) (rest : Elems)

/-- The members of an object. -/
inductive Members where
  | last (name : Name) (d : Doc) (after : Text)
  | more (name : Name) (d : Doc) (after : Text) (rest : Members)

end

/-! ## Texts -/

/-- The text of a name. -/
def Name.text (name : Name) : Text :=
  name.before ++ '"'.toNat :: (stringText name.pieces ++ (name.gap ++ ':'.toNat :: name.lead))

mutual

/-- The text of a document. -/
def Doc.text : Doc → Text
  | .atom a => a.text
  | .emptyArr inside => '['.toNat :: (inside ++ [']'.toNat])
  | .arr elems => '['.toNat :: elems.text
  | .emptyObj inside => '{'.toNat :: (inside ++ ['}'.toNat])
  | .obj members => '{'.toNat :: members.text

/-- The text of the elements of an array, with its bracket. -/
def Elems.text : Elems → Text
  | .last before d after => before ++ (d.text ++ (after ++ [']'.toNat]))
  | .more before d after rest => before ++ (d.text ++ (after ++ ','.toNat :: rest.text))

/-- The text of the members of an object, with its brace. -/
def Members.text : Members → Text
  | .last name d after => name.text ++ (d.text ++ (after ++ ['}'.toNat]))
  | .more name d after rest => name.text ++ (d.text ++ (after ++ ','.toNat :: rest.text))

end

/-- The text has blanks only. -/
def Blanks (t : Text) : Prop := ∀ c ∈ t, isBlank c = true

/-- The parts of a name. -/
structure Name.Valid (name : Name) : Prop where
  before : Blanks name.before
  pieces : ∀ piece ∈ name.pieces, piece.Valid
  gap : Blanks name.gap
  lead : Blanks name.lead

mutual

/-- The parts of a document are what it may have. -/
def Doc.Valid : Doc → Prop
  | .atom a => a.Valid
  | .emptyArr inside => Blanks inside
  | .arr elems => elems.Valid
  | .emptyObj inside => Blanks inside
  | .obj members => members.Valid

/-- The parts of the elements. -/
def Elems.Valid : Elems → Prop
  | .last before d after => Blanks before ∧ d.Valid ∧ Blanks after
  | .more before d after rest => Blanks before ∧ d.Valid ∧ Blanks after ∧ rest.Valid

/-- The parts of the members. -/
def Members.Valid : Members → Prop
  | .last name d after => name.Valid ∧ d.Valid ∧ Blanks after
  | .more name d after rest => name.Valid ∧ d.Valid ∧ Blanks after ∧ rest.Valid

end

/-- The document is an array or an object. -/
def Doc.isContainer : Doc → Bool
  | .atom _ => false
  | _ => true

/-! ## Reading -/

/-- Read a name, with the blanks around it. -/
def readName (t : Text) : Option (Name × Text) :=
  match t.dropWhile isBlank with
  | [] => none
  | c :: r =>
    if c = '"'.toNat then
      match readString r with
      | none => none
      | some (pieces, r) =>
        match r.dropWhile isBlank with
        | [] => none
        | c :: r' =>
          if c = ':'.toNat then
            some (⟨t.takeWhile isBlank, pieces, r.takeWhile isBlank, r'.takeWhile isBlank⟩,
              r'.dropWhile isBlank)
          else none
    else none

mutual

/-- Read a value. -/
def readDoc : ℕ → Text → Option (Doc × Text)
  | 0, _ => none
  | _ + 1, [] => none
  | n + 1, c :: t =>
    if c = '['.toNat then
      if (t.dropWhile isBlank).head? = some ']'.toNat then
        some (.emptyArr (t.takeWhile isBlank), (t.dropWhile isBlank).drop 1)
      else (readElems n t).map fun (elems, rest) => (.arr elems, rest)
    else if c = '{'.toNat then
      if (t.dropWhile isBlank).head? = some '}'.toNat then
        some (.emptyObj (t.takeWhile isBlank), (t.dropWhile isBlank).drop 1)
      else (readMembers n t).map fun (members, rest) => (.obj members, rest)
    else (readAtom (c :: t)).map fun (a, rest) => (.atom a, rest)

/-- Read elements, behind the bracket or behind a comma. -/
def readElems : ℕ → Text → Option (Elems × Text)
  | 0, _ => none
  | n + 1, t =>
    match readDoc n (t.dropWhile isBlank) with
    | none => none
    | some (d, r) =>
      match r.dropWhile isBlank with
      | [] => none
      | c :: rest =>
        if c = ']'.toNat then some (.last (t.takeWhile isBlank) d (r.takeWhile isBlank), rest)
        else if c = ','.toNat then
          (readElems n rest).map fun (elems, rest) =>
            (.more (t.takeWhile isBlank) d (r.takeWhile isBlank) elems, rest)
        else none

/-- Read members, behind the brace or behind a comma. -/
def readMembers : ℕ → Text → Option (Members × Text)
  | 0, _ => none
  | n + 1, t =>
    match readName t with
    | none => none
    | some (name, t) =>
      match readDoc n t with
      | none => none
      | some (d, r) =>
        match r.dropWhile isBlank with
        | [] => none
        | c :: rest =>
          if c = '}'.toNat then some (.last name d (r.takeWhile isBlank), rest)
          else if c = ','.toNat then
            (readMembers n rest).map fun (members, rest) =>
              (.more name d (r.takeWhile isBlank) members, rest)
          else none

end

/-- Read a whole text. -/
def read (t : Text) : Option Doc :=
  match readDoc (t.length + 1) (t.dropWhile isBlank) with
  | none => none
  | some (d, rest) => if rest.all isBlank then some d else none

/-! ## The fuel -/

mutual

/-- The fuel that reading a document takes. -/
def Doc.fuel : Doc → ℕ
  | .atom _ => 1
  | .emptyArr _ => 1
  | .arr elems => elems.fuel + 1
  | .emptyObj _ => 1
  | .obj members => members.fuel + 1

/-- The fuel that reading elements takes. -/
def Elems.fuel : Elems → ℕ
  | .last _ d _ => d.fuel + 1
  | .more _ d _ rest => max d.fuel rest.fuel + 1

/-- The fuel that reading members takes. -/
def Members.fuel : Members → ℕ
  | .last _ d _ => d.fuel + 1
  | .more _ d _ rest => max d.fuel rest.fuel + 1

end

variable {t rest : Text}

/-- The first character of an atom. -/
lemma atom_head {a : Atom} (ha : a.Valid) : ∃ c t, a.text = c :: t ∧ isBlank c = false ∧
    c ≠ '['.toNat ∧ c ≠ ']'.toNat ∧ c ≠ '{'.toNat ∧ c ≠ '}'.toNat := by
  cases a with
  | number n =>
    obtain ⟨d, more, hd, htext | htext⟩ := number_head ha
    · refine ⟨d, more, htext, ?_⟩
      unfold isDigit at hd
      rw [Bool.and_eq_true, decide_eq_true_eq, decide_eq_true_eq] at hd
      have hbounds : '0'.toNat = 48 ∧ '9'.toNat = 57 ∧ '['.toNat = 91 ∧ ']'.toNat = 93 ∧
          '{'.toNat = 123 ∧ '}'.toNat = 125 := by decide
      refine ⟨?_, by omega, by omega, by omega, by omega⟩
      simp only [isBlank, Bool.or_eq_false_iff, beq_eq_false_iff_ne]
      omega
    · exact ⟨_, _, htext, by decide, by decide, by decide, by decide, by decide⟩
  | string pieces => exact ⟨_, _, rfl, by decide, by decide, by decide, by decide, by decide⟩
  | _ => exact ⟨_, _, rfl, by decide, by decide, by decide, by decide, by decide⟩

/-- The first character of a document. -/
lemma Doc.text_head {d : Doc} (hd : d.Valid) : ∃ c t, d.text = c :: t ∧ isBlank c = false ∧
    c ≠ ']'.toNat ∧ c ≠ '}'.toNat ∧
    (d.isContainer = true ↔ c = '['.toNat ∨ c = '{'.toNat) := by
  cases d with
  | atom a =>
    rw [Doc.Valid] at hd
    obtain ⟨c, t, htext, hblank, hopen, hclose, hopen', hclose'⟩ := atom_head hd
    refine ⟨c, t, by rw [Doc.text, htext], hblank, hclose, hclose', iff_of_false nofun ?_⟩
    rintro (h | h)
    · exact hopen h
    · exact hopen' h
  | emptyArr inside =>
    exact ⟨_, _, by rw [Doc.text], by decide, by decide, by decide, iff_of_true rfl (Or.inl rfl)⟩
  | arr elems =>
    exact ⟨_, _, by rw [Doc.text], by decide, by decide, by decide, iff_of_true rfl (Or.inl rfl)⟩
  | emptyObj inside =>
    exact ⟨_, _, by rw [Doc.text], by decide, by decide, by decide, iff_of_true rfl (Or.inr rfl)⟩
  | obj members =>
    exact ⟨_, _, by rw [Doc.text], by decide, by decide, by decide, iff_of_true rfl (Or.inr rfl)⟩

/-! ## What is written is read -/

variable (rest) in
/-- A document does not begin with a blank. -/
lemma stopsAt_blank {d : Doc} (hd : d.Valid) : StopsAt isBlank (d.text ++ rest) := by
  obtain ⟨c, t, htext, hblank, -⟩ := d.text_head hd
  rw [htext]
  exact stopsAt_cons hblank

/-- A number ends in front of blanks and of what stands behind them. -/
lemma stopsAt_after {after : Text} {c : ℕ} (hafter : Blanks after) (hc : inNumber c = false) :
    StopsAt inNumber (after ++ c :: rest) := by
  cases after with
  | nil => exact stopsAt_cons hc
  | cons b after =>
    refine stopsAt_cons ?_
    have hb := hafter b List.mem_cons_self
    unfold isBlank at hb
    simp only [Bool.or_eq_true, beq_iff_eq] at hb
    rcases hb with ((rfl | rfl) | rfl) | rfl <;> decide

/-- Elements do not start with the bracket. -/
lemma elems_head (elems : Elems) (rest : Text) (h : elems.Valid) :
    ((elems.text ++ rest).dropWhile isBlank).head? ≠ some ']'.toNat := by
  have hdoc : ∀ (before : Text) (d : Doc) (more : Text), Blanks before → d.Valid →
      ((before ++ (d.text ++ more)).dropWhile isBlank).head? ≠ some ']'.toNat := by
    intro before d more hbefore hd
    obtain ⟨c, t, htext, -, hclose, -⟩ := d.text_head hd
    rw [(takeWhile_stops hbefore (stopsAt_blank _ hd)).2, htext]
    exact fun heq => hclose (Option.some.inj heq)
  cases elems with
  | last before d after =>
    rw [Elems.Valid] at h
    rw [Elems.text, List.append_assoc, List.append_assoc]
    exact hdoc before d _ h.1 h.2.1
  | more before d after more =>
    rw [Elems.Valid] at h
    rw [Elems.text, List.append_assoc, List.append_assoc]
    exact hdoc before d _ h.1 h.2.1

/-- Members do not start with the brace. -/
lemma members_head (members : Members) (rest : Text) (h : members.Valid) :
    ((members.text ++ rest).dropWhile isBlank).head? ≠ some '}'.toNat := by
  have hname : ∀ (name : Name) (more : Text), name.Valid →
      ((name.text ++ more).dropWhile isBlank).head? ≠ some '}'.toNat := by
    intro name more hname
    rw [Name.text, List.append_assoc, List.cons_append,
      (takeWhile_stops hname.before (stopsAt_cons (by decide))).2]
    exact nofun
  cases members with
  | last name d after =>
    rw [Members.Valid] at h
    rw [Members.text, List.append_assoc]
    exact hname name _ h.1
  | more name d after more =>
    rw [Members.Valid] at h
    rw [Members.text, List.append_assoc]
    exact hname name _ h.1

/-- The text of a name is read as the name. -/
lemma readName_text {name : Name} (hname : name.Valid) (h : StopsAt isBlank rest) :
    readName (name.text ++ rest) = some (name, rest) := by
  obtain ⟨hbefore, hpieces, hgap, hlead⟩ := hname
  have hquote := takeWhile_stops hbefore (stopsAt_cons (t := stringText name.pieces ++ (name.gap ++
    ':'.toNat :: (name.lead ++ rest))) (by decide : isBlank '"'.toNat = false))
  have hcolon := takeWhile_stops hgap (stopsAt_cons (t := name.lead ++ rest)
    (by decide : isBlank ':'.toNat = false))
  have hvalue := takeWhile_stops hlead h
  have htext : name.text ++ rest = name.before ++ '"'.toNat :: (stringText name.pieces ++
      (name.gap ++ ':'.toNat :: (name.lead ++ rest))) := by
    simp [Name.text]
  unfold readName
  rw [htext, hquote.1, hquote.2]
  simp only [if_true]
  rw [readString_text hpieces]
  simp only
  rw [hcolon.1, hcolon.2]
  simp only [if_true]
  rw [hvalue.1, hvalue.2]

mutual

/-- **The text of a document** is read as the document. -/
theorem readDoc_text : ∀ (d : Doc) {n : ℕ} {rest : Text}, d.Valid →
    (d.isContainer = true ∨ StopsAt inNumber rest) → d.fuel ≤ n →
    readDoc n (d.text ++ rest) = some (d, rest)
  | .atom a, n, rest, hd, hstop, hn => by
    rw [Doc.Valid] at hd
    obtain ⟨n, rfl⟩ : ∃ m, n = m + 1 := ⟨n - 1, by rw [Doc.fuel] at hn; omega⟩
    obtain ⟨c, t, htext, -, hopen, -, hopen', -⟩ := atom_head hd
    have hread := readAtom_text hd (hstop.resolve_left nofun)
    rw [Doc.text]
    rw [htext, List.cons_append] at hread ⊢
    rw [readDoc, if_neg hopen, if_neg hopen', hread, Option.map_some]
  | .emptyArr inside, n, rest, hd, hstop, hn => by
    rw [Doc.Valid] at hd
    obtain ⟨n, rfl⟩ : ∃ m, n = m + 1 := ⟨n - 1, by rw [Doc.fuel] at hn; omega⟩
    obtain ⟨htake, hdrop⟩ := takeWhile_stops hd (stopsAt_cons (t := rest)
      (by decide : isBlank ']'.toNat = false))
    rw [Doc.text, List.cons_append, List.append_assoc, List.singleton_append, readDoc, if_pos rfl,
      htake, hdrop]
    rfl
  | .arr elems, n, rest, hd, hstop, hn => by
    rw [Doc.Valid] at hd
    obtain ⟨n, rfl⟩ : ∃ m, n = m + 1 := ⟨n - 1, by rw [Doc.fuel] at hn; omega⟩
    have hhead := elems_head elems rest hd
    rw [Doc.text, List.cons_append, readDoc, if_pos rfl, if_neg hhead,
      readElems_text elems hd (by rw [Doc.fuel] at hn; omega), Option.map_some]
  | .emptyObj inside, n, rest, hd, hstop, hn => by
    rw [Doc.Valid] at hd
    obtain ⟨n, rfl⟩ : ∃ m, n = m + 1 := ⟨n - 1, by rw [Doc.fuel] at hn; omega⟩
    obtain ⟨htake, hdrop⟩ := takeWhile_stops hd (stopsAt_cons (t := rest)
      (by decide : isBlank '}'.toNat = false))
    rw [Doc.text, List.cons_append, List.append_assoc, List.singleton_append, readDoc,
      if_neg (by decide), if_pos rfl, htake, hdrop]
    rfl
  | .obj members, n, rest, hd, hstop, hn => by
    rw [Doc.Valid] at hd
    obtain ⟨n, rfl⟩ : ∃ m, n = m + 1 := ⟨n - 1, by rw [Doc.fuel] at hn; omega⟩
    have hhead := members_head members rest hd
    rw [Doc.text, List.cons_append, readDoc, if_neg (by decide), if_pos rfl, if_neg hhead,
      readMembers_text members hd (by rw [Doc.fuel] at hn; omega), Option.map_some]

/-- The text of elements is read as the elements. -/
theorem readElems_text : ∀ (elems : Elems) {n : ℕ} {rest : Text}, elems.Valid → elems.fuel ≤ n →
    readElems n (elems.text ++ rest) = some (elems, rest)
  | .last before d after, n, rest, hvalid, hn => by
    rw [Elems.Valid] at hvalid
    obtain ⟨hbefore, hd, hafter⟩ := hvalid
    rw [Elems.fuel] at hn
    obtain ⟨n, rfl⟩ : ∃ m, n = m + 1 := ⟨n - 1, by omega⟩
    obtain ⟨htake, hdrop⟩ := takeWhile_stops hbefore
      (stopsAt_blank (after ++ ']'.toNat :: rest) hd)
    obtain ⟨htake', hdrop'⟩ := takeWhile_stops hafter (stopsAt_cons (t := rest)
      (by decide : isBlank ']'.toNat = false))
    have htext : (Elems.last before d after).text ++ rest =
        before ++ (d.text ++ (after ++ ']'.toNat :: rest)) := by
      simp [Elems.text]
    rw [htext, readElems, htake, hdrop,
      readDoc_text d hd (Or.inr (stopsAt_after hafter (by decide))) (by omega)]
    simp only
    rw [htake', hdrop']
    simp only [if_true]
  | .more before d after more, n, rest, hvalid, hn => by
    rw [Elems.Valid] at hvalid
    obtain ⟨hbefore, hd, hafter, hmore⟩ := hvalid
    rw [Elems.fuel] at hn
    obtain ⟨n, rfl⟩ : ∃ m, n = m + 1 := ⟨n - 1, by omega⟩
    obtain ⟨htake, hdrop⟩ := takeWhile_stops hbefore
      (stopsAt_blank (after ++ ','.toNat :: (more.text ++ rest)) hd)
    obtain ⟨htake', hdrop'⟩ := takeWhile_stops hafter (stopsAt_cons (t := more.text ++ rest)
      (by decide : isBlank ','.toNat = false))
    have htext : (Elems.more before d after more).text ++ rest =
        before ++ (d.text ++ (after ++ ','.toNat :: (more.text ++ rest))) := by
      simp [Elems.text]
    rw [htext, readElems, htake, hdrop,
      readDoc_text d hd (Or.inr (stopsAt_after hafter (by decide))) (by omega)]
    simp only
    rw [htake', hdrop']
    simp only
    rw [if_neg (by decide), if_pos trivial, readElems_text more hmore (by omega), Option.map_some]

/-- The text of members is read as the members. -/
theorem readMembers_text : ∀ (members : Members) {n : ℕ} {rest : Text}, members.Valid →
    members.fuel ≤ n → readMembers n (members.text ++ rest) = some (members, rest)
  | .last name d after, n, rest, hvalid, hn => by
    rw [Members.Valid] at hvalid
    obtain ⟨hname, hd, hafter⟩ := hvalid
    rw [Members.fuel] at hn
    obtain ⟨n, rfl⟩ : ∃ m, n = m + 1 := ⟨n - 1, by omega⟩
    obtain ⟨htake, hdrop⟩ := takeWhile_stops hafter (stopsAt_cons (t := rest)
      (by decide : isBlank '}'.toNat = false))
    have htext : (Members.last name d after).text ++ rest =
        name.text ++ (d.text ++ (after ++ '}'.toNat :: rest)) := by
      simp [Members.text]
    rw [htext, readMembers, readName_text hname (stopsAt_blank _ hd)]
    simp only
    rw [readDoc_text d hd (Or.inr (stopsAt_after hafter (by decide))) (by omega)]
    simp only
    rw [htake, hdrop]
    simp only [if_true]
  | .more name d after more, n, rest, hvalid, hn => by
    rw [Members.Valid] at hvalid
    obtain ⟨hname, hd, hafter, hmore⟩ := hvalid
    rw [Members.fuel] at hn
    obtain ⟨n, rfl⟩ : ∃ m, n = m + 1 := ⟨n - 1, by omega⟩
    obtain ⟨htake, hdrop⟩ := takeWhile_stops hafter (stopsAt_cons (t := more.text ++ rest)
      (by decide : isBlank ','.toNat = false))
    have htext : (Members.more name d after more).text ++ rest =
        name.text ++ (d.text ++ (after ++ ','.toNat :: (more.text ++ rest))) := by
      simp [Members.text]
    rw [htext, readMembers, readName_text hname (stopsAt_blank _ hd)]
    simp only
    rw [readDoc_text d hd (Or.inr (stopsAt_after hafter (by decide))) (by omega)]
    simp only
    rw [htake, hdrop]
    simp only
    rw [if_neg (by decide), if_pos trivial, readMembers_text more hmore (by omega), Option.map_some]

end

mutual

/-- The text of a document is as long as the fuel that it takes. -/
theorem Doc.fuel_le : ∀ d : Doc, d.Valid → d.fuel ≤ d.text.length
  | .atom a, hd => by
    rw [Doc.Valid] at hd
    obtain ⟨c, t, htext, -⟩ := atom_head hd
    rw [Doc.fuel, Doc.text, htext, List.length_cons]
    omega
  | .emptyArr inside, hd => by
    rw [Doc.fuel, Doc.text, List.length_cons]
    omega
  | .arr elems, hd => by
    rw [Doc.Valid] at hd
    have hle := elems.fuel_le hd
    rw [Doc.fuel, Doc.text, List.length_cons]
    omega
  | .emptyObj inside, hd => by
    rw [Doc.fuel, Doc.text, List.length_cons]
    omega
  | .obj members, hd => by
    rw [Doc.Valid] at hd
    have hle := members.fuel_le hd
    rw [Doc.fuel, Doc.text, List.length_cons]
    omega

/-- The fuel of a list is bounded by its text. -/
theorem Elems.fuel_le : ∀ elems : Elems, elems.Valid → elems.fuel ≤ elems.text.length
  | .last before d after, hvalid => by
    rw [Elems.Valid] at hvalid
    have hle := d.fuel_le hvalid.2.1
    rw [Elems.fuel, Elems.text]
    simp only [List.length_append, List.length_singleton]
    omega
  | .more before d after more, hvalid => by
    rw [Elems.Valid] at hvalid
    have hle := d.fuel_le hvalid.2.1
    have hmore := more.fuel_le hvalid.2.2.2
    rw [Elems.fuel, Elems.text]
    simp only [List.length_append, List.length_cons]
    omega

/-- So is that of an object. -/
theorem Members.fuel_le : ∀ members : Members, members.Valid →
    members.fuel ≤ members.text.length
  | .last name d after, hvalid => by
    rw [Members.Valid] at hvalid
    have hle := d.fuel_le hvalid.2.1
    rw [Members.fuel, Members.text]
    simp only [List.length_append, List.length_singleton]
    omega
  | .more name d after more, hvalid => by
    rw [Members.Valid] at hvalid
    have hle := d.fuel_le hvalid.2.1
    have hmore := more.fuel_le hvalid.2.2.2
    rw [Members.fuel, Members.text]
    simp only [List.length_append, List.length_cons]
    omega

end

/-- **The text of a document** with blanks around it is read as the document. -/
theorem read_text {d : Doc} {before after : Text} (hbefore : Blanks before) (hd : d.Valid)
    (hafter : Blanks after) : read (before ++ (d.text ++ after)) = some d := by
  have hfuel := d.fuel_le hd
  have hstop : StopsAt inNumber after := by
    cases after with
    | nil => exact stopsAt_nil
    | cons c after =>
      have hblank : Blanks [c] := fun b hb => hafter b (by simpa using Or.inl hb)
      have hc : StopsAt inNumber ([c] ++ [','.toNat]) := stopsAt_after hblank (by decide)
      exact stopsAt_cons (hc c rfl)
  unfold read
  rw [(takeWhile_stops hbefore (stopsAt_blank _ hd)).2, readDoc_text d hd (Or.inr hstop) (by
    simp only [List.length_append]
    omega)]
  exact if_pos (List.all_eq_true.mpr hafter)

/-! ## What is read is written -/

/-- The blanks before a text are blanks. -/
lemma blanks_takeWhile (t : Text) : Blanks (t.takeWhile isBlank) := fun _ hc =>
  List.mem_takeWhile_imp hc

/-- What is read as a name is the text of one. -/
lemma of_readName {name : Name} (h : readName t = some (name, rest)) :
    t = name.text ++ rest ∧ name.Valid := by
  unfold readName at h
  cases hquote : t.dropWhile isBlank with
  | nil => rw [hquote] at h; cases h
  | cons c r =>
    rw [hquote] at h
    dsimp only at h
    split_ifs at h with hc
    cases hstring : readString r with
    | none => rw [hstring] at h; cases h
    | some read =>
      obtain ⟨pieces, r'⟩ := read
      rw [hstring] at h
      dsimp only at h
      cases hcolon : r'.dropWhile isBlank with
      | nil => rw [hcolon] at h; cases h
      | cons c' r'' =>
        rw [hcolon] at h
        dsimp only at h
        split_ifs at h with hc'
        obtain ⟨rfl, rfl⟩ := Prod.mk.inj (Option.some.inj h)
        obtain ⟨htext, hpieces⟩ := of_readString hstring
        refine ⟨?_, blanks_takeWhile t, hpieces, blanks_takeWhile r', blanks_takeWhile r''⟩
        unfold Name.text
        simp only [List.append_assoc, List.cons_append, List.takeWhile_append_dropWhile]
        rw [← hc', ← hcolon, List.takeWhile_append_dropWhile, ← htext, ← hc, ← hquote,
          List.takeWhile_append_dropWhile]

/-- What stands in front of a bracket, a brace or a comma, and behind it. -/
private lemma eq_of_dropWhile {c : ℕ} {r : Text} (h : t.dropWhile isBlank = c :: r) :
    t.takeWhile isBlank ++ c :: r = t := by
  rw [← h, List.takeWhile_append_dropWhile]

/-- With some fuel, what is read as a value is the text of a document. -/
def DocRead (n : ℕ) : Prop :=
  ∀ t d rest, readDoc n t = some (d, rest) → t = d.text ++ rest ∧ d.Valid

/-- With some fuel, what is read as elements is the text of elements. -/
def ElemsRead (n : ℕ) : Prop :=
  ∀ t elems rest, readElems n t = some (elems, rest) → t = elems.text ++ rest ∧ elems.Valid

/-- With some fuel, what is read as members is the text of members. -/
def MembersRead (n : ℕ) : Prop :=
  ∀ t members rest, readMembers n t = some (members, rest) →
    t = members.text ++ rest ∧ members.Valid

/-- A value is an array, an object or an atom. -/
lemma docRead_succ {n : ℕ} (ihElems : ElemsRead n) (ihMembers : MembersRead n) :
    DocRead (n + 1) := by
  intro t d rest h
  cases t with
  | nil => rw [readDoc] at h; cases h
  | cons c t =>
    rw [readDoc] at h
    split_ifs at h with hopen hclose hopen' hclose'
    · obtain ⟨rfl, rfl⟩ := Prod.mk.inj (Option.some.inj h)
      obtain ⟨r, hr⟩ := List.head?_eq_some_iff.mp hclose
      rw [Doc.text, Doc.Valid, hr, hopen]
      refine ⟨?_, blanks_takeWhile t⟩
      simpa using (eq_of_dropWhile hr).symm
    · obtain ⟨⟨elems, r⟩, hread, heq⟩ := Option.map_eq_some_iff.mp h
      obtain ⟨rfl, rfl⟩ := Prod.mk.inj heq
      obtain ⟨rfl, hvalid⟩ := ihElems _ _ _ hread
      rw [Doc.text, Doc.Valid, hopen]
      exact ⟨rfl, hvalid⟩
    · obtain ⟨rfl, rfl⟩ := Prod.mk.inj (Option.some.inj h)
      obtain ⟨r, hr⟩ := List.head?_eq_some_iff.mp hclose'
      rw [Doc.text, Doc.Valid, hr, hopen']
      refine ⟨?_, blanks_takeWhile t⟩
      simpa using (eq_of_dropWhile hr).symm
    · obtain ⟨⟨members, r⟩, hread, heq⟩ := Option.map_eq_some_iff.mp h
      obtain ⟨rfl, rfl⟩ := Prod.mk.inj heq
      obtain ⟨rfl, hvalid⟩ := ihMembers _ _ _ hread
      rw [Doc.text, Doc.Valid, hopen']
      exact ⟨rfl, hvalid⟩
    · obtain ⟨⟨a, r⟩, hread, heq⟩ := Option.map_eq_some_iff.mp h
      obtain ⟨rfl, rfl⟩ := Prod.mk.inj heq
      obtain ⟨htext, hvalid⟩ := of_readAtom hread
      rw [Doc.text, Doc.Valid]
      exact ⟨htext, hvalid⟩

/-- An element is a value before a comma or the bracket. -/
lemma elemsRead_succ {n : ℕ} (ihDoc : DocRead n) (ihElems : ElemsRead n) : ElemsRead (n + 1) := by
  intro t elems rest h
  rw [readElems] at h
  cases hread : readDoc n (t.dropWhile isBlank) with
  | none => rw [hread] at h; cases h
  | some read =>
    obtain ⟨d, r⟩ := read
    rw [hread] at h
    dsimp only at h
    obtain ⟨htext, hd⟩ := ihDoc _ _ _ hread
    have ht : t.takeWhile isBlank ++ (d.text ++ r) = t := by
      rw [← htext, List.takeWhile_append_dropWhile]
    cases hnext : r.dropWhile isBlank with
    | nil => rw [hnext] at h; cases h
    | cons c r' =>
      have hr := eq_of_dropWhile hnext
      rw [hnext] at h
      dsimp only at h
      split_ifs at h with hc hc
      · obtain ⟨rfl, rfl⟩ := Prod.mk.inj (Option.some.inj h)
        rw [Elems.text, Elems.Valid]
        refine ⟨?_, blanks_takeWhile t, hd, blanks_takeWhile r⟩
        simp only [List.append_assoc, List.singleton_append]
        rw [← hc, hr, ht]
      · obtain ⟨⟨elems', r''⟩, hmore, heq⟩ := Option.map_eq_some_iff.mp h
        obtain ⟨rfl, rfl⟩ := Prod.mk.inj heq
        obtain ⟨rfl, hvalid⟩ := ihElems _ _ _ hmore
        rw [Elems.text, Elems.Valid]
        refine ⟨?_, blanks_takeWhile t, hd, blanks_takeWhile r, hvalid⟩
        simp only [List.append_assoc, List.cons_append]
        rw [← hc, hr, ht]

/-- A member is a name and a value before a comma or the brace. -/
lemma membersRead_succ {n : ℕ} (ihDoc : DocRead n) (ihMembers : MembersRead n) :
    MembersRead (n + 1) := by
  intro t members rest h
  rw [readMembers] at h
  cases hname : readName t with
  | none => rw [hname] at h; cases h
  | some named =>
    obtain ⟨name, t'⟩ := named
    rw [hname] at h
    dsimp only at h
    obtain ⟨htext', hvalid'⟩ := of_readName hname
    cases hread : readDoc n t' with
    | none => rw [hread] at h; cases h
    | some read =>
      obtain ⟨d, r⟩ := read
      rw [hread] at h
      dsimp only at h
      obtain ⟨htext, hd⟩ := ihDoc _ _ _ hread
      cases hnext : r.dropWhile isBlank with
      | nil => rw [hnext] at h; cases h
      | cons c r' =>
        have hr := eq_of_dropWhile hnext
        rw [hnext] at h
        dsimp only at h
        split_ifs at h with hc hc
        · obtain ⟨rfl, rfl⟩ := Prod.mk.inj (Option.some.inj h)
          rw [Members.text, Members.Valid]
          refine ⟨?_, hvalid', hd, blanks_takeWhile r⟩
          simp only [List.append_assoc, List.singleton_append]
          rw [← hc, hr, ← htext, ← htext']
        · obtain ⟨⟨members', r''⟩, hmore, heq⟩ := Option.map_eq_some_iff.mp h
          obtain ⟨rfl, rfl⟩ := Prod.mk.inj heq
          obtain ⟨rfl, hvalid⟩ := ihMembers _ _ _ hmore
          rw [Members.text, Members.Valid]
          refine ⟨?_, hvalid', hd, blanks_takeWhile r, hvalid⟩
          simp only [List.append_assoc, List.cons_append]
          rw [← hc, hr, ← htext, ← htext']

/-- **What is read as a value** is the text of a document; so with elements and members. -/
theorem of_readDoc (n : ℕ) : DocRead n ∧ ElemsRead n ∧ MembersRead n := by
  induction n with
  | zero => exact ⟨nofun, nofun, nofun⟩
  | succ n ih =>
    obtain ⟨ihDoc, ihElems, ihMembers⟩ := ih
    exact ⟨docRead_succ ihElems ihMembers, elemsRead_succ ihDoc ihElems,
      membersRead_succ ihDoc ihMembers⟩

/-- **What is read** is the text of a document with blanks around it. -/
theorem of_read {d : Doc} (h : read t = some d) : ∃ before after, Blanks before ∧ d.Valid ∧
    Blanks after ∧ t = before ++ (d.text ++ after) := by
  unfold read at h
  cases hread : readDoc (t.length + 1) (t.dropWhile isBlank) with
  | none => rw [hread] at h; cases h
  | some read =>
    obtain ⟨d', rest⟩ := read
    rw [hread] at h
    dsimp only at h
    split_ifs at h with hrest
    obtain rfl := Option.some.inj h
    obtain ⟨htext, hvalid⟩ := (of_readDoc _).1 _ _ _ hread
    refine ⟨_, rest, blanks_takeWhile t, hvalid, List.all_eq_true.mp hrest, ?_⟩
    rw [← htext, List.takeWhile_append_dropWhile]

/-- A document is read in one way in front of any text, if it is an array or an object. -/
lemma container_unique {d d' : Doc} {rest' : Text} (hd : d.Valid) (hd' : d'.Valid)
    (hc : d.isContainer = true) (h : d.text ++ rest = d'.text ++ rest') : rest = rest' := by
  have hc' : d'.isContainer = true := by
    obtain ⟨c, t, htext, -, -, -, hiff⟩ := d.text_head hd
    obtain ⟨c', t', htext', -, -, -, hiff'⟩ := d'.text_head hd'
    rw [htext, htext', List.cons_append, List.cons_append] at h
    rw [hiff', ← (List.cons.inj h).1]
    exact hiff.mp hc
  have hread : readDoc _ (d.text ++ rest) = some (d, rest) :=
    readDoc_text d hd (Or.inl hc) (le_max_left d.fuel d'.fuel)
  rw [h, readDoc_text d' hd' (Or.inl hc') (le_max_right d.fuel d'.fuel)] at hread
  exact (Prod.mk.inj (Option.some.inj hread)).2.symm

/-- **A start that lacks something** of an array or an object is not read. -/
theorem read_cut {d : Doc} {before start more : Text} (hbefore : Blanks before) (hd : d.Valid)
    (hc : d.isContainer = true) (hstart : start ++ more = before ++ d.text) (hmore : more ≠ []) :
    read start = none := by
  rw [Option.eq_none_iff_forall_not_mem]
  intro d' hread
  obtain ⟨before', after', hbefore', hd', hafter', rfl⟩ := of_read hread
  have htext : before' ++ (d'.text ++ (after' ++ more)) = before ++ (d.text ++ []) := by
    simpa using hstart
  have hsame := congrArg (List.dropWhile isBlank) htext
  rw [(takeWhile_stops hbefore' (stopsAt_blank _ hd')).2,
    (takeWhile_stops hbefore (stopsAt_blank _ hd)).2] at hsame
  have hnil := container_unique hd hd' hc hsame.symm
  exact hmore (List.append_eq_nil_iff.mp hnil.symm).2

/-! ## The characters of a document -/

/-- A document starts with a character of ASCII. -/
lemma Doc.head_ascii {d : Doc} (hd : d.Valid) : ∀ c ∈ d.text.head?, c < 128 := by
  cases d with
  | atom a =>
    rw [Doc.Valid] at hd
    rw [Doc.text]
    cases a with
    | number n =>
      obtain ⟨e, more, he, htext⟩ := number_head hd
      unfold isDigit at he
      rw [Bool.and_eq_true, decide_eq_true_eq, decide_eq_true_eq] at he
      have hbounds : '9'.toNat = 57 ∧ '-'.toNat = 45 := by decide
      intro c hc
      rw [Atom.text] at hc
      rcases htext with htext | htext <;> rw [htext] at hc <;> cases hc <;> omega
    | string pieces =>
      rintro c ⟨⟩
      decide
    | _ =>
      rintro c ⟨⟩
      decide
  | _ =>
    rw [Doc.text]
    rintro c ⟨⟩
    decide

/-- Blanks have no NUL. -/
lemma ne_zero_of_blanks {t : Text} (h : Blanks t) : ∀ c ∈ t, c ≠ 0 := by
  rintro c hc rfl
  exact absurd (h 0 hc) (by decide)

/-- Nor has a name. -/
lemma Name.Valid.ne_zero {name : Name} (h : name.Valid) : ∀ c ∈ name.text, c ≠ 0 := by
  intro c hc
  unfold Name.text at hc
  simp only [List.mem_append, List.mem_cons] at hc
  rcases hc with hc | rfl | hc | hc | rfl | hc
  · exact ne_zero_of_blanks h.before c hc
  · decide
  · exact string_ne_zero h.pieces c hc
  · exact ne_zero_of_blanks h.gap c hc
  · decide
  · exact ne_zero_of_blanks h.lead c hc

mutual

/-- No document has a null character. -/
theorem Doc.ne_zero : ∀ d : Doc, d.Valid → ∀ c ∈ d.text, c ≠ 0
  | .atom a, hd => by
    rw [Doc.Valid] at hd
    rw [Doc.text]
    exact atom_ne_zero hd
  | .emptyArr inside, hd => by
    rw [Doc.Valid] at hd
    rw [Doc.text, List.forall_mem_cons, List.forall_mem_append]
    exact ⟨by decide, ne_zero_of_blanks hd, by decide⟩
  | .arr elems, hd => by
    rw [Doc.Valid] at hd
    rw [Doc.text, List.forall_mem_cons]
    exact ⟨by decide, elems.ne_zero hd⟩
  | .emptyObj inside, hd => by
    rw [Doc.Valid] at hd
    rw [Doc.text, List.forall_mem_cons, List.forall_mem_append]
    exact ⟨by decide, ne_zero_of_blanks hd, by decide⟩
  | .obj members, hd => by
    rw [Doc.Valid] at hd
    rw [Doc.text, List.forall_mem_cons]
    exact ⟨by decide, members.ne_zero hd⟩

/-- Nor has a list. -/
theorem Elems.ne_zero : ∀ elems : Elems, elems.Valid → ∀ c ∈ elems.text, c ≠ 0
  | .last before d after, hvalid => by
    rw [Elems.Valid] at hvalid
    rw [Elems.text]
    simp only [List.forall_mem_append]
    exact ⟨ne_zero_of_blanks hvalid.1, d.ne_zero hvalid.2.1, ne_zero_of_blanks hvalid.2.2,
      by decide⟩
  | .more before d after rest, hvalid => by
    rw [Elems.Valid] at hvalid
    rw [Elems.text]
    simp only [List.forall_mem_append, List.forall_mem_cons]
    exact ⟨ne_zero_of_blanks hvalid.1, d.ne_zero hvalid.2.1, ne_zero_of_blanks hvalid.2.2.1,
      by decide, rest.ne_zero hvalid.2.2.2⟩

/-- Nor has an object. -/
theorem Members.ne_zero : ∀ members : Members, members.Valid → ∀ c ∈ members.text, c ≠ 0
  | .last name d after, hvalid => by
    rw [Members.Valid] at hvalid
    rw [Members.text]
    simp only [List.forall_mem_append]
    exact ⟨hvalid.1.ne_zero, d.ne_zero hvalid.2.1, ne_zero_of_blanks hvalid.2.2, by decide⟩
  | .more name d after rest, hvalid => by
    rw [Members.Valid] at hvalid
    rw [Members.text]
    simp only [List.forall_mem_append, List.forall_mem_cons]
    exact ⟨hvalid.1.ne_zero, d.ne_zero hvalid.2.1, ne_zero_of_blanks hvalid.2.2.1, by decide,
      rest.ne_zero hvalid.2.2.2⟩

end

end JsonText
