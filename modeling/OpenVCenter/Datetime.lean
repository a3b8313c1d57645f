import OpenVCenter.Foundations.Digits
import OpenVCenter.Python

set_option relaxedAutoImplicit false
set_option autoImplicit false

/-!
# Timestamps and identifiers as texts

The `datetime` and `UUID` of Python's standard library, with the texts they write and read.

## Main definitions

* `OpenVCenter.Datetime`, `OpenVCenter.Datetime.instant` — a timestamp, and the instant it names.
* `OpenVCenter.Datetime.isoformat`, `OpenVCenter.fromisoformat` — its text.
* `OpenVCenter.Uuid`, `OpenVCenter.Uuid.text`, `OpenVCenter.parseUuid` — an identifier and its text.

## Main results

* `OpenVCenter.fromisoformat_isoformat`, `OpenVCenter.parseUuid_text` — a text that was written is
  read back.
* `OpenVCenter.Datetime.ne_of_mem_isoformat` — the characters a timestamp is written in.

## Design

`datetime.fromisoformat` and `UUID` read more than they write (week dates, braces, prefixes). What
they make of such a text is a parameter, `OpenVCenter.OtherTexts`.
-/

namespace OpenVCenter

/-! ## Timestamps -/

/-- `calendar.isleap`. -/
def isLeap (year : ℕ) : Bool := year % 4 == 0 && (year % 100 != 0 || year % 400 == 0)

/-- The days of a month. -/
def daysInMonth (year month : ℕ) : ℕ :=
  if month = 2 then if isLeap year then 29 else 28
  else if month = 4 ∨ month = 6 ∨ month = 9 ∨ month = 11 then 30
  else 31

/-- The fields of a `datetime` are in their ranges. -/
structure Datetime.Valid (year month day hour minute second microsecond : ℕ)
    (utcoffset : Option ℤ) : Prop where
  year_mem : 1 ≤ year ∧ year ≤ 9999
  month_mem : 1 ≤ month ∧ month ≤ 12
  day_mem : 1 ≤ day ∧ day ≤ daysInMonth year month
  hour_lt : hour < 24
  minute_lt : minute < 60
  second_lt : second < 60
  microsecond_lt : microsecond < 1000000
  utcoffset_lt : ∀ o ∈ utcoffset, o.natAbs < 24 * 60 * 60 * 1000000

/-- `datetime`; without an offset it is naive. The offset is in microseconds. -/
structure Datetime where
  year : ℕ
  month : ℕ
  day : ℕ
  hour : ℕ
  minute : ℕ
  second : ℕ
  microsecond : ℕ
  utcoffset : Option ℤ
  valid : Datetime.Valid year month day hour minute second microsecond utcoffset

/-- Whether a date and time is valid can be decided. -/
instance (year month day hour minute second microsecond : ℕ) (utcoffset : Option ℤ) :
    Decidable (Datetime.Valid year month day hour minute second microsecond utcoffset) :=
  decidable_of_iff
    ((1 ≤ year ∧ year ≤ 9999) ∧ (1 ≤ month ∧ month ≤ 12) ∧
      (1 ≤ day ∧ day ≤ daysInMonth year month) ∧ hour < 24 ∧ minute < 60 ∧ second < 60 ∧
      microsecond < 1000000 ∧ ∀ o ∈ utcoffset, o.natAbs < 24 * 60 * 60 * 1000000)
    ⟨fun ⟨a, b, c, d, e, f, g, h⟩ => ⟨a, b, c, d, e, f, g, h⟩,
      fun ⟨a, b, c, d, e, f, g, h⟩ => ⟨a, b, c, d, e, f, g, h⟩⟩

namespace Datetime

/-- `toordinal`: the days since the end of the year 0. -/
def toordinal (d : Datetime) : ℕ :=
  let y := d.year - 1
  y * 365 + y / 4 - y / 100 + y / 400 +
    ((List.range (d.month - 1)).map fun i => daysInMonth d.year (i + 1)).sum + d.day

/-- The instant, from 1970-01-01 in UTC. A naive timestamp is taken to be in UTC. -/
def instant (d : Datetime) : Time :=
  seconds ((((d.toordinal : ℤ) - 719163) * 24 + d.hour) * 3600 + d.minute * 60 + d.second) +
    d.microsecond - d.utcoffset.getD 0

/-- The fraction of a second, if there is one. -/
def writeMicros (n : ℕ) : List Char := if n = 0 then [] else '.' :: Digits.write 10 6 n

/-- The offset of an aware timestamp. -/
def writeOffset (offset : ℤ) : List Char :=
  let n := offset.natAbs
  (if offset < 0 then '-' else '+') :: Digits.write 10 2 (n / 3600000000) ++
    ':' :: Digits.write 10 2 (n / 60000000 % 60) ++
    if n % 60000000 = 0 then []
    else ':' :: Digits.write 10 2 (n / 1000000 % 60) ++ writeMicros (n % 1000000)

/-- `isoformat`. -/
def isoformat (d : Datetime) : List Char :=
  Digits.write 10 4 d.year ++ '-' :: Digits.write 10 2 d.month ++ '-' :: Digits.write 10 2 d.day ++
    'T' :: Digits.write 10 2 d.hour ++ ':' :: Digits.write 10 2 d.minute ++
    ':' :: Digits.write 10 2 d.second ++ writeMicros d.microsecond ++
    (d.utcoffset.map writeOffset).getD []

/-- The characters that are no digits. -/
def marks : List Char := ['-', 'T', ':', '.', '+']

/-- A character that is no digit and no mark is in no text of a timestamp. -/
theorem ne_of_mem_isoformat (d : Datetime) {x : Char}
    (hx : (∀ e < 10, Nat.digitChar e ≠ x) ∧ x ∉ marks) : ∀ c ∈ d.isoformat, c ≠ x := by
  have hdigits : ∀ width n, ∀ c ∈ Digits.write 10 width n, c ≠ x := by
    intro width n c hc
    obtain ⟨e, he, rfl⟩ := Digits.mem_write (by decide) hc
    exact hx.1 e he
  have hmarks : ∀ c ∈ marks, c ≠ x := fun c hc heq => hx.2 (heq ▸ hc)
  simp only [marks, List.forall_mem_cons] at hmarks
  obtain ⟨hdash, ht, hcolon, hdot, hplus, -⟩ := hmarks
  have hmicros : ∀ n, ∀ c ∈ writeMicros n, c ≠ x := by
    intro n
    unfold writeMicros
    split_ifs
    · exact List.forall_mem_nil _
    · exact List.forall_mem_cons.mpr ⟨hdot, hdigits _ _⟩
  have hoffset : ∀ o, ∀ c ∈ writeOffset o, c ≠ x := by
    intro o
    unfold writeOffset
    simp only [List.forall_mem_append, List.forall_mem_cons]
    refine ⟨⟨⟨?_, hdigits _ _⟩, hcolon, hdigits _ _⟩, ?_⟩
    · split_ifs
      · exact hdash
      · exact hplus
    · split_ifs
      · exact List.forall_mem_nil _
      · simp only [List.forall_mem_append, List.forall_mem_cons]
        exact ⟨⟨hcolon, hdigits _ _⟩, hmicros _⟩
  have hend : ∀ c ∈ (d.utcoffset.map writeOffset).getD [], c ≠ x := by
    rcases d.utcoffset with _ | o
    · exact List.forall_mem_nil _
    · exact hoffset o
  unfold isoformat
  simp only [List.forall_mem_append, List.forall_mem_cons]
  exact ⟨⟨⟨⟨⟨⟨⟨hdigits _ _, hdash, hdigits _ _⟩, hdash, hdigits _ _⟩, ht, hdigits _ _⟩, hcolon,
    hdigits _ _⟩, hcolon, hdigits _ _⟩, hmicros _⟩, hend⟩

/-! ## Reading a timestamp -/

/-- The character at the start of a text. -/
def skip (c : Char) : List Char → Option (List Char)
  | d :: text => if d = c then some text else none
  | [] => none

/-- The fraction of a second at the start of a text. -/
def readMicros : List Char → Option (ℕ × List Char)
  | '.' :: text => Digits.take 10 6 text
  | text => some (0, text)

/-- The seconds and the fraction of an offset, which end the text. -/
def readOffsetSeconds : List Char → Option ℕ
  | [] => some 0
  | text => do
    let text ← skip ':' text
    let (second, text) ← Digits.take 10 2 text
    let (micros, text) ← readMicros text
    if text = [] then some (second * 1000000 + micros) else none

/-- The offset that ends the text. -/
def readOffset : List Char → Option (Option ℤ)
  | [] => some none
  | sign :: text =>
    if sign = '+' ∨ sign = '-' then do
      let (hour, text) ← Digits.take 10 2 text
      let text ← skip ':' text
      let (minute, text) ← Digits.take 10 2 text
      let micros ← readOffsetSeconds text
      let n : ℤ := (hour * 60 + minute) * 60000000 + micros
      if minute < 60 ∧ micros < 60000000 then some (some (if sign = '-' then -n else n)) else none
    else none

/-- A text of the form `isoformat` writes. -/
def read (text : List Char) : Option Datetime := do
  let (year, text) ← Digits.take 10 4 text
  let text ← skip '-' text
  let (month, text) ← Digits.take 10 2 text
  let text ← skip '-' text
  let (day, text) ← Digits.take 10 2 text
  let text ← skip 'T' text
  let (hour, text) ← Digits.take 10 2 text
  let text ← skip ':' text
  let (minute, text) ← Digits.take 10 2 text
  let text ← skip ':' text
  let (second, text) ← Digits.take 10 2 text
  let (microsecond, text) ← readMicros text
  let utcoffset ← readOffset text
  if h : Valid year month day hour minute second microsecond utcoffset then
    some ⟨year, month, day, hour, minute, second, microsecond, utcoffset, h⟩
  else none

end Datetime

/-! ## Identifiers -/

/-- `UUID`: 128 bits. -/
abbrev Uuid : Type := Fin (2 ^ 128)

/-- `str(uuid)`. -/
def Uuid.text (u : Uuid) : List Char :=
  let hex := Digits.write 16 32 u
  hex.take 8 ++ '-' :: (hex.drop 8).take 4 ++ '-' :: (hex.drop 12).take 4 ++
    '-' :: (hex.drop 16).take 4 ++ '-' :: hex.drop 20

/-- What `datetime.fromisoformat` and `UUID` make of the texts that they read but do not write. -/
structure OtherTexts where
  fromisoformat : List Char → Option Datetime
  uuid : List Char → Option Uuid

/-- `datetime.fromisoformat`; none for a `ValueError`. -/
def fromisoformat (other : OtherTexts) (text : List Char) : Option Datetime :=
  (Datetime.read text).or (other.fromisoformat text)

/-- `UUID(text)`; none for a `ValueError`. -/
def parseUuid (other : OtherTexts) (text : List Char) : Option Uuid :=
  if text.all fun c => decide (c = '-') || (Digits.value 16 c).isSome then
    let hex := text.filter fun c => decide (c ≠ '-')
    if hex.length = 32 then
      (Digits.read 16 hex).bind fun n => if h : n < 2 ^ 128 then some ⟨n, h⟩ else none
    else none
  else other.uuid text

/-! ## Reading what was written -/

section ReadWrite

open Digits

variable {n : ℕ} {rest : List Char}

/-- Decimal digits at the start of a text. -/
private lemma take_decimal {width : ℕ} (h : n < 10 ^ width) :
    Digits.take 10 width (write 10 width n ++ rest) = some (n, rest) :=
  take_write (by decide) (by decide) h rest

/-- A bind through a value that is known. -/
private lemma bind_of_eq {α β : Type} {x : Option α} {a : α} {f : α → Option β} {b : Option β}
    (hx : x = some a) (hf : f a = b) : (x >>= f) = b := by
  rw [hx]
  exact hf

/-- A character that is expected is skipped. -/
private lemma skip_cons (c : Char) (text : List Char) :
    Datetime.skip c (c :: text) = some text := if_pos rfl

/-- The microseconds are read back. -/
lemma Datetime.readMicros_write (hn : n < 1000000) (hrest : ∀ t, rest ≠ '.' :: t) :
    readMicros (writeMicros n ++ rest) = some (n, rest) := by
  unfold writeMicros
  split_ifs with hzero
  · rw [List.nil_append, hzero]
    unfold readMicros
    split
    · rename_i text
      exact absurd rfl (hrest text)
    · rfl
  · rw [List.cons_append, readMicros]
    exact take_decimal (by omega)

/-- The seconds and the fraction of an offset are read back. -/
private lemma readOffsetSeconds_write :
    Datetime.readOffsetSeconds (if n % 60000000 = 0 then []
      else ':' :: (write 10 2 (n / 1000000 % 60) ++ Datetime.writeMicros (n % 1000000))) =
      some (n % 60000000) := by
  split_ifs with hzero
  · rw [hzero]
    rfl
  · have hmicros := @Datetime.readMicros_write (n % 1000000) [] (by omega) nofun
    rw [List.append_nil] at hmicros
    have hsecond : n / 1000000 % 60 < 10 ^ 2 := by omega
    rw [Datetime.readOffsetSeconds]
    · simp only [Datetime.skip, if_true, Option.bind_eq_bind, Option.bind_some,
        take_decimal hsecond, hmicros]
      congr 1
      omega
    · exact nofun

/-- The hours, the minutes and the rest of an offset. -/
private lemma offset_parts (n : ℕ) :
    (n / 3600000000 * 60 + n / 60000000 % 60) * 60000000 + n % 60000000 = n := by
  have hhours : n / 3600000000 = n / 60000000 / 60 := by rw [Nat.div_div_eq_div_mul]
  have hminutes : n / 60000000 / 60 * 60 + n / 60000000 % 60 = n / 60000000 :=
    Nat.div_add_mod' _ _
  rw [hhours, hminutes, Nat.div_add_mod']

/-- The offset of a timestamp is read back. -/
lemma Datetime.readOffset_write {offset : ℤ} (h : offset.natAbs < 24 * 60 * 60 * 1000000) :
    readOffset (writeOffset offset) = some (some offset) := by
  have hhour : offset.natAbs / 3600000000 < 10 ^ 2 := by omega
  have hminute : offset.natAbs / 60000000 % 60 < 10 ^ 2 := by omega
  have hparts : (((offset.natAbs / 3600000000 : ℕ) : ℤ) * 60 +
      (offset.natAbs / 60000000 % 60 : ℕ)) * 60000000 + (offset.natAbs % 60000000 : ℕ) =
      offset.natAbs := by exact_mod_cast offset_parts offset.natAbs
  have hranges : offset.natAbs / 60000000 % 60 < 60 ∧ offset.natAbs % 60000000 < 60000000 :=
    ⟨Nat.mod_lt _ (by decide), Nat.mod_lt _ (by decide)⟩
  unfold writeOffset readOffset
  simp only [List.cons_append, List.append_assoc]
  rw [if_pos (by split_ifs <;> simp)]
  simp only [Option.bind_eq_bind, take_decimal hhour, Option.bind_some, skip, if_true,
    take_decimal hminute, readOffsetSeconds_write]
  rw [if_pos hranges, hparts]
  congr 2
  split_ifs with hneg hsign hsign
  · omega
  · exact absurd rfl hsign
  · exact absurd hsign (by decide)
  · omega

/-- A text that `isoformat` wrote has the form of one. -/
theorem Datetime.read_isoformat (d : Datetime) : Datetime.read d.isoformat = some d := by
  obtain ⟨year, month, day, hour, minute, second, microsecond, utcoffset, hv⟩ := d
  have hoffset : Datetime.readOffset ((utcoffset.map Datetime.writeOffset).getD []) =
      some utcoffset := by
    rcases utcoffset with _ | offset
    · rfl
    · exact Datetime.readOffset_write (hv.utcoffset_lt offset rfl)
  have hrest : ∀ t, (utcoffset.map Datetime.writeOffset).getD [] ≠ '.' :: t := by
    rcases utcoffset with _ | offset
    · exact nofun
    · intro t heq
      simp only [Option.map_some, Option.getD_some, Datetime.writeOffset, List.cons_append,
        List.cons.injEq] at heq
      split_ifs at heq <;> exact absurd heq.1 (by decide)
  have hyear := hv.year_mem
  have hmonth := hv.month_mem
  have hday : day < 10 ^ 2 := by
    have hle := hv.day_mem.2
    unfold daysInMonth at hle
    split_ifs at hle <;> omega
  have hhour := hv.hour_lt
  have hminute := hv.minute_lt
  have hsecond := hv.second_lt
  unfold Datetime.isoformat Datetime.read
  simp only [List.append_assoc, List.cons_append]
  refine bind_of_eq (take_decimal (by omega)) ?_
  refine bind_of_eq (skip_cons _ _) ?_
  refine bind_of_eq (take_decimal (by omega)) ?_
  refine bind_of_eq (skip_cons _ _) ?_
  refine bind_of_eq (take_decimal hday) ?_
  refine bind_of_eq (skip_cons _ _) ?_
  refine bind_of_eq (take_decimal (by omega)) ?_
  refine bind_of_eq (skip_cons _ _) ?_
  refine bind_of_eq (take_decimal (by omega)) ?_
  refine bind_of_eq (skip_cons _ _) ?_
  refine bind_of_eq (take_decimal (by omega)) ?_
  refine bind_of_eq (Datetime.readMicros_write hv.microsecond_lt hrest) ?_
  refine bind_of_eq hoffset ?_
  exact dif_pos hv

/-- **A timestamp that was written is read back.** -/
theorem fromisoformat_isoformat (other : OtherTexts) (d : Datetime) :
    fromisoformat other d.isoformat = some d := by
  unfold fromisoformat
  rw [d.read_isoformat, Option.some_or]

/-- The five groups of an identifier, put together. -/
private lemma groups_append (hex : List Char) :
    hex.take 8 ++ ((hex.drop 8).take 4 ++ ((hex.drop 12).take 4 ++ ((hex.drop 16).take 4 ++
      hex.drop 20))) = hex := by
  have hgroup : ∀ k, (hex.drop k).take 4 ++ hex.drop (k + 4) = hex.drop k := fun k => by
    rw [← List.drop_drop, List.take_append_drop]
  rw [hgroup 16, hgroup 12, hgroup 8, List.take_append_drop]

/-- **An identifier that was written is read back.** -/
theorem parseUuid_text (other : OtherTexts) (u : Uuid) : parseUuid other u.text = some u := by
  have hu : (u : ℕ) < 16 ^ 32 := u.isLt.trans_eq (by norm_num)
  have hdigit : ∀ c ∈ write 16 32 u, (value 16 c).isSome = true ∧ c ≠ '-' := by
    intro c hc
    obtain ⟨d, hd, rfl⟩ := mem_write (by decide) hc
    have hdash : ∀ d < 16, Nat.digitChar d ≠ '-' := by decide
    exact ⟨by rw [value_digitChar le_rfl hd]; rfl, hdash d hd⟩
  have hkeep : ∀ part : List Char, (∀ c ∈ part, c ∈ write 16 32 u) →
      part.filter (fun c => decide (c ≠ '-')) = part := fun part hpart =>
    List.filter_eq_self.mpr fun c hc => by simpa using (hdigit c (hpart c hc)).2
  have hdash : ∀ part : List Char, ('-' :: part).filter (fun c => decide (c ≠ '-')) =
      part.filter fun c => decide (c ≠ '-') := fun part => List.filter_cons_of_neg (by simp)
  have hslice : ∀ k, ((((write 16 32 u).drop k).take 4).filter fun c => decide (c ≠ '-')) =
      ((write 16 32 u).drop k).take 4 := fun k =>
    hkeep _ fun c hc => List.mem_of_mem_drop (List.mem_of_mem_take hc)
  have hfirst := hkeep ((write 16 32 u).take 8) fun c hc => List.mem_of_mem_take hc
  have hlast := hkeep ((write 16 32 u).drop 20) fun c hc => List.mem_of_mem_drop hc
  have hhex : (Uuid.text u).filter (fun c => decide (c ≠ '-')) = write 16 32 u := by
    unfold Uuid.text
    simp only [List.append_assoc, List.cons_append, List.filter_append, hdash, hslice, hfirst,
      hlast]
    exact groups_append _
  have hall : ∀ c ∈ Uuid.text u, c = '-' ∨ (value 16 c).isSome = true := by
    intro c hc
    by_cases hc' : c = '-'
    · exact Or.inl hc'
    · have hmem : c ∈ (Uuid.text u).filter fun c => decide (c ≠ '-') :=
        List.mem_filter.mpr ⟨hc, by simpa using hc'⟩
      rw [hhex] at hmem
      exact Or.inr (hdigit c hmem).1
  have hread : read 16 (write 16 32 u) = some (u : ℕ) := read_write (by decide) le_rfl hu
  unfold parseUuid
  rw [if_pos (List.all_eq_true.mpr fun c hc => by simpa using hall c hc)]
  simp only [hhex, length_write, if_true, hread, Option.bind_some, u.isLt, dite_true]

end ReadWrite

end OpenVCenter
