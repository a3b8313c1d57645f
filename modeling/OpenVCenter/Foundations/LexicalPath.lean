import OpenVCenter.Foundations.Separated

set_option relaxedAutoImplicit false
set_option autoImplicit false

/-!
# Paths resolved by their spelling

A path is a list of segments. One dot names the directory it stands in, two dots its parent, and
every other non-empty segment an entry; nothing is looked up, so no entry is a link.

## Main definitions

* `LexicalPath.walk` — the directory a list of segments leads to.
* `LexicalPath.climb`, `LexicalPath.kept` — how far the segments lead above the directory they start
  in, and the names that no later pair of dots takes back.
* `LexicalPath.spell` — a directory as text.
* `LexicalPath.Beside` — a directory in, or below, one whose name extends the name of another.

## Main results

* `LexicalPath.walk_eq` — a walk climbs first and descends then.
* `LexicalPath.spell_prefix_iff` — the text of a directory starts with that of another exactly when
  it is below it, or beside it.
-/

namespace LexicalPath

universe u

variable {α : Type u}

/-! ## Walks -/

section Walk

variable [DecidableEq α] (dot : α)

/-- A segment that names an entry of a directory. -/
def IsName (segment : List α) : Prop := segment ≠ [] ∧ segment ≠ [dot] ∧ segment ≠ [dot, dot]

/-- Whether a segment is a name can be decided. -/
instance (segment : List α) : Decidable (IsName dot segment) :=
  inferInstanceAs (Decidable (_ ∧ _))

/-- The directory one segment leads to. There is nothing above the root. -/
def enter (dir : List (List α)) (segment : List α) : List (List α) :=
  if segment = [] ∨ segment = [dot] then dir
  else if segment = [dot, dot] then dir.dropLast
  else dir ++ [segment]

/-- The directory a list of segments leads to. -/
def walk (dir segments : List (List α)) : List (List α) := segments.foldl (enter dot) dir

/-- The levels a list of segments climbs above the directory it starts in, and the names that no
later pair of dots takes back; the segments are read from the last to the first. -/
def trace : List (List α) → ℕ × List (List α)
  | [] => (0, [])
  | segment :: segments =>
    let (climb, kept) := trace segments
    if segment = [] ∨ segment = [dot] then (climb, kept)
    else if segment = [dot, dot] then (climb + 1, kept)
    else match climb with
      | 0 => (0, segment :: kept)
      | climb + 1 => (climb, kept)

/-- The levels the segments climb above the directory they start in. -/
def climb (segments : List (List α)) : ℕ := (trace dot segments).1

/-- The names that no later pair of dots takes back. -/
def kept (segments : List (List α)) : List (List α) := (trace dot segments).2

variable {dot} {dir segments more : List (List α)} {segment name : List α}

/-- A name is entered below. -/
lemma enter_of_isName (h : IsName dot segment) : enter dot dir segment = dir ++ [segment] := by
  obtain ⟨hne, hdot, hparent⟩ := h
  rw [enter, if_neg (not_or.mpr ⟨hne, hdot⟩), if_neg hparent]

/-- No segment leads nowhere. -/
@[simp] lemma walk_nil : walk dot dir [] = dir := rfl

/-- Segments are entered one after another. -/
@[simp] lemma walk_cons :
    walk dot dir (segment :: segments) = walk dot (enter dot dir segment) segments := rfl

/-- A walk on from a walk. -/
lemma walk_append : walk dot dir (segments ++ more) = walk dot (walk dot dir segments) more :=
  List.foldl_append

/-- A step that names an entry descends; one of one dot or none stays; two dots climb. -/
theorem step_cases (dot : α) (segment : List α) :
    (IsName dot segment ∧ ∀ dir, enter dot dir segment = dir ++ [segment]) ∨
      (segment = [dot, dot] ∧ ∀ dir, enter dot dir segment = dir.dropLast) ∨
      ((segment = [] ∨ segment = [dot]) ∧ ∀ dir, enter dot dir segment = dir) := by
  by_cases hstay : segment = [] ∨ segment = [dot]
  · exact Or.inr (Or.inr ⟨hstay, fun dir => if_pos hstay⟩)
  · by_cases hclimb : segment = [dot, dot]
    · refine Or.inr (Or.inl ⟨hclimb, fun dir => ?_⟩)
      rw [enter, if_neg hstay, if_pos hclimb]
    · obtain ⟨hne, hdot⟩ := not_or.mp hstay
      have hname : IsName dot segment := ⟨hne, hdot, hclimb⟩
      exact Or.inl ⟨hname, fun dir => enter_of_isName hname⟩

/-- Every segment of a directory that is reached was there, or has been named on the way. -/
theorem mem_walk (h : name ∈ walk dot dir segments) :
    name ∈ dir ∨ (name ∈ segments ∧ IsName dot name) := by
  induction segments generalizing dir with
  | nil => exact Or.inl h
  | cons segment segments ih =>
    rw [walk_cons] at h
    rcases ih h with hdir | ⟨hmem, hname⟩
    · rcases step_cases dot segment with ⟨hs, he⟩ | ⟨-, he⟩ | ⟨-, he⟩
      · rw [he, List.mem_append, List.mem_singleton] at hdir
        rcases hdir with hdir | rfl
        · exact Or.inl hdir
        · exact Or.inr ⟨List.mem_cons_self, hs⟩
      · rw [he] at hdir
        exact Or.inl (List.dropLast_subset dir hdir)
      · rw [he] at hdir
        exact Or.inl hdir
    · exact Or.inr ⟨List.mem_cons_of_mem _ hmem, hname⟩

/-- **A walk** climbs first and descends then. -/
theorem walk_eq (dir segments : List (List α)) :
    walk dot dir segments = dir.take (dir.length - climb dot segments) ++ kept dot segments := by
  induction segments generalizing dir with
  | nil => simp [climb, kept, trace]
  | cons segment segments ih =>
    rw [walk_cons, ih]
    obtain ⟨levels, names, htrace⟩ : ∃ levels names, trace dot segments = (levels, names) :=
      ⟨_, _, rfl⟩
    have hclimb : climb dot segments = levels := by rw [climb, htrace]
    have hkept : kept dot segments = names := by rw [kept, htrace]
    rcases step_cases dot segment with ⟨⟨hne, hdot, hparent⟩, he⟩ | ⟨rfl, he⟩ | ⟨hstay, he⟩
    · -- an entry stays unless a later climb takes it back
      have hstay : ¬ (segment = [] ∨ segment = [dot]) := not_or.mpr ⟨hne, hdot⟩
      rw [he, hclimb, hkept, climb, kept, trace, htrace]
      simp only [if_neg hstay, if_neg hparent]
      cases levels with
      | zero =>
        rw [Nat.sub_zero, Nat.sub_zero, List.take_length, List.take_length, List.append_assoc,
          List.singleton_append]
      | succ levels =>
        have hle : (dir ++ [segment]).length - (levels + 1) = dir.length - levels := by
          rw [List.length_append, List.length_singleton]
          omega
        rw [hle, List.take_append_of_le_length (Nat.sub_le _ _)]
    · rw [he, hclimb, hkept, climb, kept, trace, htrace]
      have htwo : ¬ ([dot, dot] = [] ∨ [dot, dot] = [dot]) := by simp
      simp only [if_neg htwo, if_true]
      rw [List.dropLast_eq_take, List.length_take, List.take_take]
      congr 2
      omega
    · rw [he, hclimb, hkept, climb, kept, trace, htrace]
      simp only [if_pos hstay]

/-- A walk from the root. -/
theorem walk_root (segments : List (List α)) : walk dot [] segments = kept dot segments := by
  rw [walk_eq, List.take_nil, List.nil_append]

end Walk

/-! ## Spelling -/

section Spell

variable (sep : α)

/-- Names, each after a separator. -/
def join (names : List (List α)) : List α := names.flatMap fun name => sep :: name

/-- A directory as text: its names, or the separator alone for the root. -/
def spell : List (List α) → List α
  | [] => [sep]
  | name :: names => join sep (name :: names)

/-- A directory in, or below, one that stands beside `root` and has a longer name that starts with
the name of `root`. -/
def Beside (root dir : List (List α)) : Prop :=
  ∃ parent name extra below, extra ≠ [] ∧ root = parent ++ [name] ∧
    dir = parent ++ (name ++ extra) :: below

variable {sep} {root dir names : List (List α)} {name other text rest : List α}

/-- A path begins with a separator. -/
lemma join_cons : join sep (name :: names) = sep :: (name ++ join sep names) := rfl

/-- It is empty, or begins with one. -/
lemma join_cases (names : List (List α)) :
    join sep names = [] ∨ ∃ tail, join sep names = sep :: tail := by
  cases names with
  | nil => exact Or.inl rfl
  | cons name names => exact Or.inr ⟨_, join_cons⟩

/-- Where a name is followed by a separator, the text before the separator is the whole name. -/
lemma name_sep_prefix_iff (hname : sep ∉ name) (hother : sep ∉ other)
    (hrest : rest = [] ∨ ∃ tail, rest = sep :: tail) :
    name ++ sep :: text <+: other ++ rest ↔ name = other ∧ sep :: text <+: rest := by
  induction name generalizing other with
  | nil =>
    cases other with
    | nil => simp
    | cons c other =>
      have hc : sep ≠ c := fun h => hother (h ▸ List.mem_cons_self)
      simp [hc]
  | cons c name ih =>
    have hsep : c ≠ sep := fun h => hname (h ▸ List.mem_cons_self)
    cases other with
    | nil =>
      rcases hrest with rfl | ⟨tail, rfl⟩
      · simp
      · simp [hsep]
    | cons d other =>
      have h := ih (fun h => hname (List.mem_cons_of_mem _ h))
        (fun h => hother (List.mem_cons_of_mem _ h))
      simp only [List.cons_append, List.cons_prefix_cons, h, List.cons.injEq, and_assoc]

/-- A name starts a text exactly when it starts the first name of the text. -/
lemma name_prefix_iff (hname : sep ∉ name) (hrest : rest = [] ∨ ∃ tail, rest = sep :: tail) :
    name <+: other ++ rest ↔ name <+: other := by
  induction name generalizing other with
  | nil => simp
  | cons c name ih =>
    have hsep : c ≠ sep := fun h => hname (h ▸ List.mem_cons_self)
    cases other with
    | nil =>
      rcases hrest with rfl | ⟨tail, rfl⟩
      · simp
      · simp [hsep]
    | cons d other =>
      rw [List.cons_append, List.cons_prefix_cons, List.cons_prefix_cons,
        ih fun h => hname (List.mem_cons_of_mem _ h)]

/-- Beside a single name is what begins with more letters. -/
lemma beside_singleton : Beside [name] dir ↔
    ∃ extra below, extra ≠ [] ∧ dir = (name ++ extra) :: below := by
  constructor
  · rintro ⟨parent, n, extra, below, hextra, hroot, rfl⟩
    obtain ⟨rfl, rfl⟩ : parent = [] ∧ n = name := by
      cases parent with
      | nil => simpa [eq_comm] using hroot
      | cons p parent => simp at hroot
    exact ⟨extra, below, hextra, rfl⟩
  · rintro ⟨extra, below, hextra, rfl⟩
    exact ⟨[], name, extra, below, hextra, rfl, rfl⟩

/-- Beside several names is what agrees with the first. -/
lemma beside_cons (hne : names ≠ []) : Beside (name :: names) (other :: dir) ↔
    name = other ∧ Beside names dir := by
  constructor
  · rintro ⟨parent, n, extra, below, hextra, hroot, hdir⟩
    cases parent with
    | nil =>
      rw [List.nil_append, List.cons.injEq] at hroot
      exact absurd hroot.2 hne
    | cons p parent =>
      rw [List.cons_append, List.cons.injEq] at hroot hdir
      obtain ⟨rfl, rfl⟩ := hroot
      obtain ⟨rfl, rfl⟩ := hdir
      exact ⟨rfl, parent, n, extra, below, hextra, rfl, rfl⟩
  · rintro ⟨rfl, parent, n, extra, below, hextra, rfl, rfl⟩
    exact ⟨name :: parent, n, extra, below, hextra, rfl, rfl⟩

/-- The names of one directory are written at the start of another exactly when it is below it, or
beside it. -/
lemma join_prefix_iff (hne : root ≠ []) (hroot : ∀ n ∈ root, sep ∉ n) (hdir : ∀ n ∈ dir, sep ∉ n) :
    join sep root <+: join sep dir ↔ root <+: dir ∨ Beside root dir := by
  induction root generalizing dir with
  | nil => exact absurd rfl hne
  | cons name names ih =>
    have hname := hroot name List.mem_cons_self
    cases dir with
    | nil =>
      have hbeside : ¬ Beside (name :: names) ([] : List (List α)) := by
        rintro ⟨parent, n, extra, below, -, -, hdir⟩
        simp at hdir
      simp [join, hbeside]
    | cons other dir =>
      have hother := hdir other List.mem_cons_self
      rw [join_cons, join_cons, List.cons_prefix_cons, List.cons_prefix_cons]
      cases names with
      | nil =>
        -- the last name of the root may go on in the name it is compared with
        rw [beside_singleton, show join sep ([] : List (List α)) = [] from rfl, List.append_nil,
          name_prefix_iff hname (join_cases dir)]
        simp only [true_and, List.nil_prefix, and_true]
        constructor
        · rintro ⟨extra, rfl⟩
          by_cases hextra : extra = []
          · exact Or.inl (by rw [hextra, List.append_nil])
          · exact Or.inr ⟨extra, dir, hextra, rfl⟩
        · rintro (rfl | ⟨extra, below, -, hcons⟩)
          · exact List.prefix_rfl
          · rw [List.cons.injEq] at hcons
            rw [hcons.1]
            exact List.prefix_append _ _
      | cons next names =>
        have hih := ih (List.cons_ne_nil next names)
          (fun n hn => hroot n (List.mem_cons_of_mem _ hn))
          (fun n hn => hdir n (List.mem_cons_of_mem _ hn))
        rw [beside_cons (List.cons_ne_nil next names), ← and_or_left, ← hih, join_cons,
          name_sep_prefix_iff hname hother (join_cases dir)]
        simp only [true_and]

/-- **The text of a directory** starts with that of another exactly when it is below it, or beside
it; the text of every directory starts with that of the root. -/
theorem spell_prefix_iff (hroot : ∀ n ∈ root, n ≠ [] ∧ sep ∉ n) (hdir : ∀ n ∈ dir, sep ∉ n) :
    spell sep root <+: spell sep dir ↔ root <+: dir ∨ Beside root dir := by
  cases root with
  | nil =>
    have hstart : [sep] <+: spell sep dir := by
      cases dir with
      | nil => exact List.prefix_rfl
      | cons name dir => exact ⟨name ++ join sep dir, rfl⟩
    exact iff_of_true hstart (Or.inl List.nil_prefix)
  | cons name names =>
    have hjoin := join_prefix_iff (List.cons_ne_nil name names) (fun n hn => (hroot n hn).2) hdir
    cases dir with
    | nil =>
      have hshort : ¬ join sep (name :: names) <+: [sep] := by
        rw [join_cons, List.cons_prefix_cons, List.prefix_nil, List.append_eq_nil_iff]
        exact fun h => (hroot name List.mem_cons_self).1 h.2.1
      have hempty : ¬ join sep (name :: names) <+: join sep ([] : List (List α)) := by
        simp [join]
      rw [← hjoin]
      exact iff_of_false hshort hempty
    | cons other dir => exact hjoin

end Spell

end LexicalPath
