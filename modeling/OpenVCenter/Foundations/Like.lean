import Mathlib.Data.List.Infix

set_option relaxedAutoImplicit false
set_option autoImplicit false

/-!
# The patterns of `LIKE`

A pattern of SQL's `LIKE`: `%` stands for any text, `_` for any character, and a backslash takes the
next character as it is. A pattern that is made of a text between two `%` finds the texts that have
it in them as long as it has none of the three; otherwise it also finds others.

## Main definitions

* `Like.isSpecial`, `Like.isPlain` — the three characters, and the texts without them.
* `Like.tokens` — what a pattern says; none when it ends with a backslash.
* `Like.accepts` — the text matches the pattern.
* `Like.sample` — a text that matches.
* `Like.Folding` — a folding of case, with `Like.Folding.accepts` (`ILIKE`).

## Main results

* `Like.accepts_contains` — a plain text between two `%` finds the texts that have it in them.
* `Like.tokens_contains` — a text between two `%` is a pattern.
* `Like.not_infix_sample` — a text that is not plain is not in its sample.
* `Like.Folding.accepts_iff_contains`, `Like.Folding.exists_found` — the same without regard to case.
-/

namespace Like

/-- A character with a meaning of its own in a pattern. -/
def isSpecial (c : Char) : Bool := decide (c = '%' ∨ c = '_' ∨ c = '\\')

/-- The text has no such character. -/
def isPlain (text : List Char) : Bool := text.all fun c => !isSpecial c

/-- What a pattern is made of: `%`, `_`, and the characters that stand for themselves. -/
inductive Token where
  | text
  | char
  | lit (c : Char)

/-- What a pattern says; `escaped` after a backslash. -/
def tokens (escaped : Bool) : List Char → Option (List Token)
  | [] => if escaped then none else some []
  | c :: pattern =>
    if escaped then (tokens false pattern).map (Token.lit c :: ·)
    else if c = '\\' then tokens true pattern
    else if c = '%' then (tokens false pattern).map (Token.text :: ·)
    else if c = '_' then (tokens false pattern).map (Token.char :: ·)
    else (tokens false pattern).map (Token.lit c :: ·)

/-- The text is one of those that the tokens stand for. -/
def acceptsTokens : List Token → List Char → Bool
  | [], text => text.isEmpty
  | .text :: ts, text => text.tails.any (acceptsTokens ts)
  | .char :: ts, text =>
    match text with
    | [] => false
    | _ :: text => acceptsTokens ts text
  | .lit c :: ts, text =>
    match text with
    | [] => false
    | d :: text => decide (d = c) && acceptsTokens ts text

/-- The text matches the pattern. -/
def accepts (pattern text : List Char) : Bool :=
  match tokens false pattern with
  | some ts => acceptsTokens ts text
  | none => false

/-- A text that the tokens stand for: `%` for nothing, and `_` for `filler`. -/
def sample (filler : Char) : List Token → List Char
  | [] => []
  | .text :: ts => sample filler ts
  | .char :: ts => filler :: sample filler ts
  | .lit c :: ts => c :: sample filler ts

variable {part text : List Char} {ts : List Token} {filler : Char}

/-! ## Plain texts -/

/-- A plain text, character by character. -/
theorem isPlain_cons {c : Char} : isPlain (c :: part) = true ↔
    isSpecial c = false ∧ isPlain part = true := by
  simp [isPlain]

/-- The characters that are not special. -/
theorem isSpecial_eq_false {c : Char} : isSpecial c = false ↔ c ≠ '%' ∧ c ≠ '_' ∧ c ≠ '\\' := by
  simp [isSpecial]

/-- A `%` takes any text before the rest. -/
theorem acceptsTokens_text : acceptsTokens (.text :: ts) text = true ↔
    ∃ before rest, text = before ++ rest ∧ acceptsTokens ts rest = true := by
  rw [acceptsTokens, List.any_eq_true]
  constructor
  · rintro ⟨rest, hrest, haccepts⟩
    obtain ⟨before, rfl⟩ := (List.mem_tails _ _).mp hrest
    exact ⟨before, rest, rfl, haccepts⟩
  · rintro ⟨before, rest, rfl, haccepts⟩
    exact ⟨rest, (List.mem_tails _ _).mpr ⟨before, rfl⟩, haccepts⟩

/-- Literals take their own text. -/
theorem acceptsTokens_lits : acceptsTokens (part.map Token.lit ++ ts) text = true ↔
    ∃ rest, text = part ++ rest ∧ acceptsTokens ts rest = true := by
  induction part generalizing text with
  | nil => simp
  | cons c part ih =>
    rw [List.map_cons, List.cons_append]
    cases text with
    | nil => simp [acceptsTokens]
    | cons d text =>
      simp only [acceptsTokens, Bool.and_eq_true, decide_eq_true_eq, ih, List.cons_append,
        List.cons.injEq]
      constructor
      · rintro ⟨rfl, rest, rfl, h⟩
        exact ⟨rest, ⟨rfl, rfl⟩, h⟩
      · rintro ⟨rest, ⟨rfl, rfl⟩, h⟩
        exact ⟨rfl, rest, rfl, h⟩

/-- A plain text before a pattern stands for itself. -/
theorem tokens_plain_append (hpart : isPlain part = true) (pattern : List Char) :
    tokens false (part ++ pattern) = (tokens false pattern).map (part.map Token.lit ++ ·) := by
  induction part with
  | nil => simp
  | cons c part ih =>
    obtain ⟨hc, hpart⟩ := isPlain_cons.mp hpart
    obtain ⟨hpercent, hunderscore, hbackslash⟩ := isSpecial_eq_false.mp hc
    rw [List.cons_append, tokens, if_neg (by simp), if_neg hbackslash, if_neg hpercent,
      if_neg hunderscore, ih hpart, Option.map_map]
    rfl

/-- **A plain text between two `%`** finds the texts that have it in them. -/
theorem accepts_contains (hpart : isPlain part = true) :
    accepts ('%' :: (part ++ ['%'])) text = true ↔ part <:+: text := by
  have htokens : tokens false ('%' :: (part ++ ['%'])) =
      some (.text :: (part.map Token.lit ++ [.text])) := by
    rw [tokens, if_neg (by simp), if_neg (by decide), if_pos rfl, tokens_plain_append hpart]
    rfl
  have hend : ∀ rest, acceptsTokens [.text] rest = true := fun rest =>
    acceptsTokens_text.mpr ⟨rest, [], (List.append_nil rest).symm, rfl⟩
  unfold accepts
  rw [htokens]
  simp only [acceptsTokens_text, acceptsTokens_lits, hend, and_true]
  constructor
  · rintro ⟨before, _, rfl, rest, rfl⟩
    exact ⟨before, rest, by simp⟩
  · rintro ⟨before, rest, rfl⟩
    exact ⟨before, part ++ rest, by simp, rest, rfl⟩

/-! ## Other texts -/

/-- A sample is accepted. -/
theorem acceptsTokens_sample : acceptsTokens ts (sample filler ts) = true := by
  induction ts with
  | nil => rfl
  | cons t ts ih =>
    cases t with
    | text => exact acceptsTokens_text.mpr ⟨[], sample filler ts, rfl, ih⟩
    | char => exact ih
    | lit c => simpa [sample, acceptsTokens] using ih

/-- A text between two `%` is a pattern: a backslash at its end takes the second one as it is. -/
theorem tokens_contains (escaped : Bool) (part : List Char) :
    ∃ ts, tokens escaped (part ++ ['%']) = some ts := by
  induction part generalizing escaped with
  | nil => cases escaped <;> exact ⟨_, rfl⟩
  | cons c part ih =>
    obtain ⟨ts, hts⟩ := ih false
    obtain ⟨ts', hts'⟩ := ih true
    rw [List.cons_append, tokens, hts, hts']
    split_ifs <;> exact ⟨_, rfl⟩

/-- Of the backslashes of a text its sample has half at most. -/
theorem count_backslash_sample (hfiller : isSpecial filler = false) {escaped : Bool}
    (h : tokens escaped (part ++ ['%']) = some ts) :
    2 * (sample filler ts).count '\\' ≤ part.count '\\' + escaped.toNat := by
  have hslash : filler ≠ '\\' := (isSpecial_eq_false.mp hfiller).2.2
  induction part generalizing escaped ts with
  | nil => cases escaped <;> obtain rfl := Option.some.inj h <;> simp [sample]
  | cons c part ih =>
    rw [List.cons_append, tokens] at h
    rw [List.count_cons]
    split_ifs at h with hescaped hc hpercent hunderscore
    · obtain ⟨rest, hrest, rfl⟩ := Option.map_eq_some_iff.mp h
      have hcount := ih hrest
      rw [sample, List.count_cons, hescaped]
      simp only [Bool.toNat_false, Bool.toNat_true] at hcount ⊢
      split_ifs <;> omega
    · have hcount := ih h
      rw [Bool.eq_false_iff.mpr hescaped, hc]
      simpa using hcount
    · obtain ⟨rest, hrest, rfl⟩ := Option.map_eq_some_iff.mp h
      have hcount := ih hrest
      rw [sample]
      simp only [Bool.toNat_false] at hcount
      omega
    · obtain ⟨rest, hrest, rfl⟩ := Option.map_eq_some_iff.mp h
      have hcount := ih hrest
      rw [sample, List.count_cons_of_ne hslash]
      simp only [Bool.toNat_false] at hcount
      omega
    · obtain ⟨rest, hrest, rfl⟩ := Option.map_eq_some_iff.mp h
      have hcount := ih hrest
      rw [sample, List.count_cons_of_ne hc]
      simp only [Bool.toNat_false] at hcount
      omega

/-- A text without a backslash has a sample without any of the three characters. -/
theorem isPlain_sample (hfiller : isSpecial filler = false) (hpart : '\\' ∉ part)
    (h : tokens false (part ++ ['%']) = some ts) : isPlain (sample filler ts) = true := by
  induction part generalizing ts with
  | nil =>
    obtain rfl := Option.some.inj h
    rfl
  | cons c part ih =>
    rw [List.mem_cons, not_or] at hpart
    rw [List.cons_append, tokens, if_neg (by simp), if_neg (Ne.symm hpart.1)] at h
    split_ifs at h with hpercent hunderscore
    · obtain ⟨rest, hrest, rfl⟩ := Option.map_eq_some_iff.mp h
      rw [sample]
      exact ih hpart.2 hrest
    · obtain ⟨rest, hrest, rfl⟩ := Option.map_eq_some_iff.mp h
      exact isPlain_cons.mpr ⟨hfiller, ih hpart.2 hrest⟩
    · obtain ⟨rest, hrest, rfl⟩ := Option.map_eq_some_iff.mp h
      have hc : isSpecial c = false :=
        isSpecial_eq_false.mpr ⟨hpercent, hunderscore, Ne.symm hpart.1⟩
      exact isPlain_cons.mpr ⟨hc, ih hpart.2 hrest⟩

/-- **A text that is not plain** is not in its sample. -/
theorem not_infix_sample (hfiller : isSpecial filler = false) (hpart : isPlain part = false)
    (h : tokens false (part ++ ['%']) = some ts) : ¬ part <:+: sample filler ts := by
  intro hinside
  by_cases hslash : '\\' ∈ part
  · have hcount := hinside.sublist.count_le '\\'
    have hhalf := count_backslash_sample hfiller h
    have hpos := List.count_pos_iff.mpr hslash
    simp only [Bool.toNat_false] at hhalf
    omega
  · have hsample := isPlain_sample hfiller hslash h
    have hplain : isPlain part = true :=
      List.all_eq_true.mpr fun c hc => List.all_eq_true.mp hsample c (hinside.subset hc)
    rw [hplain] at hpart
    cases hpart

/-! ## Without regard to case -/

/-- A folding of case, which takes the three characters to themselves and no other to them. -/
structure Folding where
  fold : Char → Char
  keeps : ∀ c, isSpecial c = true ∨ isSpecial (fold c) = true → fold c = c

namespace Folding

variable (f : Folding)

/-- `ILIKE`: pattern and text are folded. -/
def accepts (pattern text : List Char) : Bool :=
  Like.accepts (pattern.map f.fold) (text.map f.fold)

/-- The text has the part in it, without regard to case. -/
def Contains (text part : List Char) : Prop := part.map f.fold <:+: text.map f.fold

/-- Whether a text contains a part can be decided. -/
instance (text part : List Char) : Decidable (f.Contains text part) :=
  inferInstanceAs (Decidable (_ <:+: _))

/-- A token folded. -/
def token : Token → Token
  | .lit c => .lit (f.fold c)
  | t => t

/-- A folding keeps which characters are special. -/
theorem isSpecial_fold (c : Char) : isSpecial (f.fold c) = isSpecial c := by
  rw [Bool.eq_iff_iff]
  constructor
  · intro h
    rwa [f.keeps c (Or.inr h)] at h
  · intro h
    rwa [f.keeps c (Or.inl h)]

/-- It keeps plain texts plain. -/
theorem isPlain_map (part : List Char) : isPlain (part.map f.fold) = isPlain part := by
  simp only [isPlain, List.all_map, Function.comp_def, isSpecial_fold]

/-- It sends nothing else to a special character. -/
theorem fold_eq_iff {c d : Char} (hd : isSpecial d = true) : f.fold c = d ↔ c = d := by
  constructor
  · intro h
    rwa [f.keeps c (Or.inr (by rwa [h]))] at h
  · rintro rfl
    exact f.keeps c (Or.inl hd)

/-- It commutes with reading a pattern. -/
theorem tokens_map (escaped : Bool) (pattern : List Char) :
    tokens escaped (pattern.map f.fold) = (tokens escaped pattern).map (List.map f.token) := by
  induction pattern generalizing escaped with
  | nil => cases escaped <;> rfl
  | cons c pattern ih =>
    have hpercent := @fold_eq_iff f c '%' rfl
    have hunderscore := @fold_eq_iff f c '_' rfl
    have hbackslash := @fold_eq_iff f c '\\' rfl
    rw [List.map_cons, tokens, tokens, ih, ih]
    simp only [hpercent, hunderscore, hbackslash]
    split_ifs <;> simp [Option.map_map, Function.comp_def, token]

/-- And with taking samples. -/
theorem sample_map (filler : Char) (ts : List Token) :
    sample (f.fold filler) (ts.map f.token) = (sample filler ts).map f.fold := by
  induction ts with
  | nil => rfl
  | cons t ts ih => cases t <;> simp [sample, token, ih]

/-- The pattern of a part, folded. -/
theorem map_pattern (part : List Char) :
    ('%' :: (part ++ ['%'])).map f.fold = '%' :: (part.map f.fold ++ ['%']) := by
  have hpercent : f.fold '%' = '%' := f.keeps '%' (Or.inl rfl)
  simp [hpercent]

/-- **A plain part** finds the texts that have it in them. -/
theorem accepts_iff_contains {part text : List Char} (hpart : isPlain part = true) :
    f.accepts ('%' :: (part ++ ['%'])) text = true ↔ f.Contains text part := by
  unfold accepts
  rw [map_pattern]
  exact accepts_contains (by rwa [isPlain_map])

/-- A part finds every text that ends with a sample of it. -/
theorem accepts_append_sample {part : List Char} (before : List Char) {ts : List Token}
    (h : tokens false (part ++ ['%']) = some ts) :
    f.accepts ('%' :: (part ++ ['%'])) (before ++ sample 'a' ts) = true := by
  have htokens : tokens false ('%' :: (part.map f.fold ++ ['%'])) =
      some (.text :: ts.map f.token) := by
    have hpart := f.tokens_map false ('%' :: (part ++ ['%']))
    rw [map_pattern] at hpart
    rw [hpart, tokens, if_neg (by simp), if_neg (by decide), if_pos rfl, h]
    rfl
  unfold accepts Like.accepts
  rw [map_pattern, htokens]
  refine acceptsTokens_text.mpr ⟨before.map f.fold, (sample 'a' ts).map f.fold, ?_, ?_⟩
  · rw [List.map_append]
  · rw [← sample_map]
    exact acceptsTokens_sample

/-- **A part that is not plain** also finds a text that does not have it in it. -/
theorem exists_found {part : List Char} (hpart : isPlain part = false) :
    ∃ text, f.accepts ('%' :: (part ++ ['%'])) text = true ∧ ¬ f.Contains text part := by
  obtain ⟨ts, hts⟩ := tokens_contains false part
  refine ⟨sample 'a' ts, f.accepts_append_sample [] hts, ?_⟩
  have hmap := f.tokens_map false (part ++ ['%'])
  have hpercent : f.fold '%' = '%' := f.keeps '%' (Or.inl rfl)
  rw [hts, List.map_append, List.map_singleton, hpercent] at hmap
  unfold Contains
  rw [← sample_map]
  exact not_infix_sample (by rw [isSpecial_fold]; rfl) (by rwa [isPlain_map]) hmap

/-- Any part finds a text that has it in it. -/
theorem exists_found_contains (part : List Char) :
    ∃ text, f.accepts ('%' :: (part ++ ['%'])) text = true ∧ f.Contains text part := by
  obtain ⟨ts, hts⟩ := tokens_contains false part
  refine ⟨part ++ sample 'a' ts, f.accepts_append_sample part hts, ?_⟩
  unfold Contains
  rw [List.map_append]
  exact (List.prefix_append _ _).isInfix

end Folding

end Like
