import Mathlib.Computability.Language
import Mathlib.Logic.Relation

set_option relaxedAutoImplicit false
set_option autoImplicit false

/-!
# Patterns

Regular expressions as they are written: characters that stand for themselves, a backslash before
one that does not, `.` for any character but a newline, groups, alternatives, repetition, and the
anchors `^` and `$`. A pattern is read from left to right, with a stack of open groups. A text
matches when the pattern is found somewhere in it.

## Main definitions

* `Regex` — the expressions; `Regex.spans` — what an expression goes over, from one position of a
  text to another.
* `Regex.read` — the expression that a pattern stands for, if it is one.
* `Regex.Denotes` — what an expression goes over is a language.
* `Regex.Found` — the pattern is found in the text.

## Main results

* `Regex.readFrom_plain_append` — a plain text is read as itself.
* `Regex.Denotes.lits`, `Regex.Denotes.any_star`, `Regex.Denotes.seq`, `Regex.Denotes.alt` — what
  expressions go over, by their parts.
* `Regex.found_anchored` — an expression between anchors is found in the texts that it goes over.
-/

/-- Regular expressions. -/
inductive Regex where
  | empty
  | lit (c : Char)
  | any
  | start
  | stop
  | seq (r s : Regex)
  | alt (r s : Regex)
  | star (r : Regex)

namespace Regex

/-! ## What expressions go over -/

/-- A position of a text: what is before it, and what is behind it. -/
abbrev Position := List Char × List Char

/-- The expression goes from the first position to the second. -/
def spans : Regex → Position → Position → Prop
  | empty, p, q => p = q
  | lit c, p, q => p.2 = c :: q.2 ∧ q.1 = p.1 ++ [c]
  | any, p, q => ∃ c, c ≠ '\n' ∧ p.2 = c :: q.2 ∧ q.1 = p.1 ++ [c]
  | start, p, q => p = q ∧ p.1 = []
  | stop, p, q => p = q ∧ p.2 = []
  | seq r s, p, q => ∃ m, spans r p m ∧ spans s m q
  | alt r s, p, q => spans r p q ∨ spans s p q
  | star r, p, q => Relation.ReflTransGen (spans r) p q

/-- The expressions one after the other. -/
def seqs (rs : List Regex) : Regex := rs.foldr seq empty

/-- The characters of a text, one after the other. -/
def lits (text : List Char) : Regex := seqs (text.map lit)

variable {r s : Regex} {p q : Position} {text before behind : List Char}

/-- The empty expression spans no character. -/
@[simp] theorem spans_empty : spans empty p q ↔ p = q := Iff.rfl

/-- A sequence spans what its parts span together. -/
@[simp] theorem spans_seq : spans (seq r s) p q ↔ ∃ m, spans r p m ∧ spans s m q := Iff.rfl

/-- A choice spans what one of its parts spans. -/
@[simp] theorem spans_alt : spans (alt r s) p q ↔ spans r p q ∨ spans s p q := Iff.rfl

/-- A sequence with one expression more. -/
theorem spans_seqs_append {rs : List Regex} {r : Regex} :
    spans (seqs (rs ++ [r])) p q ↔ spans (seq (seqs rs) r) p q := by
  induction rs generalizing p with
  | nil => simp [seqs]
  | cons a rs ih =>
    show (∃ m, spans a p m ∧ spans (seqs (rs ++ [r])) m q) ↔
      ∃ m, (∃ m', spans a p m' ∧ spans (seqs rs) m' m) ∧ spans r m q
    constructor
    · rintro ⟨m, ha, h⟩
      obtain ⟨m', hrs, hr⟩ := ih.mp h
      exact ⟨m', ⟨m, ha, hrs⟩, hr⟩
    · rintro ⟨m', ⟨m, ha, hrs⟩, hr⟩
      exact ⟨m, ha, ih.mpr ⟨m', hrs, hr⟩⟩

/-- The expression goes over the texts of the language, wherever they are. -/
def Denotes (r : Regex) (l : Language Char) : Prop :=
  ∀ before behind q, spans r (before, behind) q ↔
    ∃ w ∈ l, ∃ rest, behind = w ++ rest ∧ q = (before ++ w, rest)

/-- The empty expression denotes the empty word. -/
theorem Denotes.empty : Denotes empty 1 := by
  intro before behind q
  simp [Language.mem_one, eq_comm]

/-- A literal denotes its letter. -/
theorem Denotes.lit (c : Char) : Denotes (lit c) {[c]} := by
  rintro before behind ⟨b, a⟩
  constructor
  · rintro ⟨hbehind, hbefore⟩
    exact ⟨[c], rfl, a, hbehind, Prod.ext hbefore rfl⟩
  · rintro ⟨_, rfl, rest, rfl, hq⟩
    obtain ⟨rfl, rfl⟩ := Prod.mk.inj hq
    exact ⟨rfl, rfl⟩

/-- A choice denotes the union. -/
theorem Denotes.alt {l m : Language Char} (hr : Denotes r l) (hs : Denotes s m) :
    Denotes (alt r s) (l + m) := by
  intro before behind q
  rw [spans_alt, hr, hs]
  simp only [Language.mem_add, or_and_right, exists_or]

/-- A sequence denotes the product. -/
theorem Denotes.seq {l m : Language Char} (hr : Denotes r l) (hs : Denotes s m) :
    Denotes (seq r s) (l * m) := by
  intro before behind q
  constructor
  · rintro ⟨_, h, h'⟩
    obtain ⟨w, hw, rest, rfl, rfl⟩ := (hr _ _ _).mp h
    obtain ⟨w', hw', rest', rfl, rfl⟩ := (hs _ _ _).mp h'
    exact ⟨w ++ w', Language.mem_mul.mpr ⟨w, hw, w', hw', rfl⟩, rest', by simp, by simp⟩
  · rintro ⟨_, hmem, rest, rfl, rfl⟩
    obtain ⟨w, hw, w', hw', rfl⟩ := Language.mem_mul.mp hmem
    exact ⟨(before ++ w, w' ++ rest), (hr _ _ _).mpr ⟨w, hw, w' ++ rest, by simp, rfl⟩,
      (hs _ _ _).mpr ⟨w', hw', rest, rfl, by simp⟩⟩

/-- A plain text goes over itself. -/
theorem Denotes.lits (text : List Char) : Denotes (lits text) {text} := by
  induction text with
  | nil => exact Denotes.empty
  | cons c text ih =>
    intro before behind q
    have hmul : ∀ w : List Char, w ∈ ({[c]} * {text} : Language Char) ↔ w = c :: text := by
      intro w
      rw [Language.mem_mul]
      constructor
      · rintro ⟨_, rfl, _, rfl, rfl⟩
        rfl
      · rintro rfl
        exact ⟨[c], rfl, text, rfl, rfl⟩
    refine (Denotes.seq (Denotes.lit c) ih before behind q).trans ?_
    simp only [hmul]
    rfl

/-- The texts without a newline. -/
def oneLine : Language Char := {w | '\n' ∉ w}

/-- `.*` goes over any text without a newline. -/
theorem Denotes.any_star : Denotes (star any) oneLine := by
  intro before behind q
  constructor
  · intro h
    replace h : Relation.ReflTransGen (spans any) (before, behind) q := h
    induction h with
    | refl => exact ⟨[], List.not_mem_nil, behind, rfl, by simp⟩
    | tail _ hstep ih =>
      obtain ⟨skipped, hnl, rest, rfl, rfl⟩ := ih
      obtain ⟨c, hc, hrest, hbefore⟩ := hstep
      simp only at hrest hbefore
      subst hrest
      refine ⟨skipped ++ [c], ?_, _, by simp, Prod.ext ?_ rfl⟩
      · intro hmem
        rcases List.mem_append.mp hmem with hmem | hmem
        · exact hnl hmem
        · exact hc (List.mem_singleton.mp hmem).symm
      · simpa using hbefore
  · rintro ⟨skipped, hnl, rest, rfl, rfl⟩
    show Relation.ReflTransGen (spans any) _ _
    induction skipped generalizing before with
    | nil => simpa using Relation.ReflTransGen.refl
    | cons c skipped ih =>
      have hc : c ≠ '\n' := fun heq => hnl (heq ▸ List.mem_cons_self)
      have hstep : spans any (before, c :: skipped ++ rest) (before ++ [c], skipped ++ rest) :=
        ⟨c, hc, rfl, rfl⟩
      have hrest := ih (before ++ [c]) fun hmem => hnl (List.mem_cons_of_mem c hmem)
      rw [List.append_assoc] at hrest
      exact Relation.ReflTransGen.head hstep hrest

/-! ## Patterns -/

/-- An open group: the alternatives that are complete, and the one being read, last part first. -/
structure Group where
  complete : Option Regex := none
  parts : List Regex := []

namespace Group

/-- The alternative being read is complete. -/
def close (g : Group) : Regex :=
  let last := seqs g.parts.reverse
  match g.complete with
  | some r => alt r last
  | none => last

/-- One more part. -/
def add (g : Group) (r : Regex) : Group := { g with parts := r :: g.parts }

end Group

/-- What is being read: the innermost group, the groups around it, and whether a backslash has just
been read. -/
structure Reader where
  group : Group := {}
  outer : List Group := []
  escaped : Bool := false

/-- The character stands for itself. -/
def isPlain (c : Char) : Bool := decide (c ∉ ['\\', '^', '$', '.', '|', '(', ')', '*', '+', '?',
  '[', ']', '{', '}'])

/-- One character of a pattern. After a backslash only a character that does not stand for itself
is taken as it is; a letter or digit would mean something else. -/
def readChar (st : Reader) (c : Char) : Option Reader :=
  if st.escaped then
    if isPlain c then none else some { st with group := st.group.add (lit c), escaped := false }
  else match c with
    | '\\' => some { st with escaped := true }
    | '^' => some { st with group := st.group.add start }
    | '$' => some { st with group := st.group.add stop }
    | '.' => some { st with group := st.group.add any }
    | '|' => some { st with group := { complete := some st.group.close } }
    | '(' => some { st with group := {}, outer := st.group :: st.outer }
    | ')' =>
      match st.outer with
      | [] => none
      | g :: outer => some { st with group := g.add st.group.close, outer := outer }
    | '*' =>
      match st.group.parts with
      | [] => none
      | r :: parts => some { st with group := { st.group with parts := star r :: parts } }
    | c => if isPlain c then some { st with group := st.group.add (lit c) } else none

/-- The rest of a pattern. -/
def readFrom (st : Reader) : List Char → Option Regex
  | [] => if st.escaped || !st.outer.isEmpty then none else some st.group.close
  | c :: pattern =>
    match readChar st c with
    | some st => readFrom st pattern
    | none => none

/-- The expression that a pattern stands for. -/
def read (pattern : List Char) : Option Regex := readFrom {} pattern

/-- The pattern is found in the text. -/
def Found (pattern text : String) : Prop :=
  ∃ r, read pattern.toList = some r ∧
    ∃ p q : Position, p.1 ++ p.2 = text.toList ∧ spans r p q

/-- A plain character is read as a literal. -/
theorem readChar_plain {st : Reader} {c : Char} (hc : isPlain c = true)
    (hst : st.escaped = false) :
    readChar st c = some { st with group := st.group.add (lit c) } := by
  have hne : ∀ d ∈ ['\\', '^', '$', '.', '|', '(', ')', '*', '+', '?', '[', ']', '{', '}'],
      c ≠ d := by
    rintro d hd rfl
    exact of_decide_eq_true hc hd
  simp only [List.forall_mem_cons] at hne
  obtain ⟨h₁, h₂, h₃, h₄, h₅, h₆, h₇, h₈, -⟩ := hne
  unfold readChar
  rw [hst, if_neg Bool.false_ne_true]
  split <;> first | contradiction | rw [if_pos hc]

/-- A plain text is read as itself. -/
theorem readFrom_plain_append {st : Reader} (htext : ∀ c ∈ text, isPlain c = true)
    (hst : st.escaped = false) (pattern : List Char) :
    readFrom st (text ++ pattern) = readFrom { st with
      group := { st.group with parts := (text.map lit).reverse ++ st.group.parts } } pattern := by
  induction text generalizing st with
  | nil => rfl
  | cons c text ih =>
    rw [List.forall_mem_cons] at htext
    rw [List.cons_append, readFrom, readChar_plain htext.1 hst]
    dsimp only
    rw [ih htext.2 (by simpa using hst)]
    simp [Group.add]

/-- An expression between anchors is found in the texts that it goes over. -/
theorem found_anchored {pattern text : String} {body : List Regex} {l : Language Char}
    (h : read pattern.toList = some (seqs (start :: (body ++ [stop]))))
    (hbody : Denotes (seqs body) l) : Found pattern text ↔ text.toList ∈ l := by
  constructor
  · rintro ⟨r, hr, ⟨pre, rest⟩, q, htext, hspans⟩
    rw [h] at hr
    obtain rfl := Option.some.inj hr
    obtain ⟨_, ⟨rfl, hpre⟩, hrest⟩ := hspans
    obtain ⟨⟨b, a⟩, hspans, rfl, hstop⟩ := spans_seqs_append.mp hrest
    obtain ⟨w, hw, rest', rfl, heq⟩ := (hbody _ _ _).mp hspans
    obtain ⟨-, rfl⟩ := Prod.mk.inj heq
    simp only at htext hpre hstop
    subst hpre hstop
    simp only [List.append_nil, List.nil_append] at htext
    rwa [← htext]
  · intro hw
    refine ⟨_, h, ([], text.toList), (text.toList, []), rfl, _, ⟨rfl, rfl⟩,
      spans_seqs_append.mpr ⟨_, ?_, rfl, rfl⟩⟩
    exact (hbody _ _ _).mpr ⟨text.toList, hw, [], by simp, rfl⟩

end Regex
