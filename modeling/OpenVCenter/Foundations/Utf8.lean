import Mathlib.Data.UInt
import Mathlib.Data.List.Basic

set_option relaxedAutoImplicit false
set_option autoImplicit false

/-!
# UTF-8 with surrogates

Texts are lists of code points, as in a language whose strings may have a lone surrogate. The reader
is strict: a sequence that is cut off or longer than it has to be is an error.

## Main definitions

* `Utf8.encode`, `Utf8.decode` — the bytes of a text, and the text of bytes.

## Main results

* `Utf8.decode_encode` — decoding gives the text back.
* `Utf8.decode_prefix` — the start of the bytes of a text is an error, or the bytes of a start of it.
-/

namespace Utf8

/-- A byte behind the first one of a code point. -/
def tailByte (n : ℕ) : UInt8 := UInt8.ofNat (0x80 + n % 64)

/-- The bytes of a code point. -/
def encodeCode (n : ℕ) : List UInt8 :=
  if n < 0x80 then [UInt8.ofNat n]
  else if n < 0x800 then [UInt8.ofNat (0xC0 + n / 64), tailByte n]
  else if n < 0x10000 then [UInt8.ofNat (0xE0 + n / 4096), tailByte (n / 64), tailByte n]
  else [UInt8.ofNat (0xF0 + n / 262144), tailByte (n / 4096), tailByte (n / 64), tailByte n]

/-- The bytes of a text. -/
def encode (text : List ℕ) : List UInt8 := text.flatMap encodeCode

/-- The byte stands behind the first one of a code point. -/
def isTail (b : UInt8) : Bool := decide (0x80 ≤ b.toNat) && decide (b.toNat < 0xC0)

/-- What a byte behind the first one says. -/
def tailBits (b : UInt8) : ℕ := b.toNat - 0x80

/-- The text of bytes; none where they are not UTF-8. Surrogates pass. -/
def decode : List UInt8 → Option (List ℕ)
  | [] => some []
  | b :: bytes =>
    if b.toNat < 0x80 then (decode bytes).map (b.toNat :: ·)
    else if b.toNat < 0xC2 then none
    else if b.toNat < 0xE0 then
      match bytes with
      | c :: bytes =>
        if isTail c then (decode bytes).map (((b.toNat - 0xC0) * 64 + tailBits c) :: ·) else none
      | _ => none
    else if b.toNat < 0xF0 then
      match bytes with
      | c :: d :: bytes =>
        let n := (b.toNat - 0xE0) * 4096 + tailBits c * 64 + tailBits d
        if isTail c && isTail d && decide (0x800 ≤ n) then (decode bytes).map (n :: ·) else none
      | _ => none
    else
      match bytes with
      | c :: d :: e :: bytes =>
        let n := (b.toNat - 0xF0) * 262144 + tailBits c * 4096 + tailBits d * 64 + tailBits e
        if isTail c && isTail d && isTail e && decide (0x10000 ≤ n) && decide (n < 0x110000) then
          (decode bytes).map (n :: ·)
        else none
      | _ => none

variable {text : List ℕ} {bytes : List UInt8} {n : ℕ}

/-- A tail byte, as a number. -/
@[simp] lemma toNat_tailByte (n : ℕ) : (tailByte n).toNat = 0x80 + n % 64 :=
  UInt8.toNat_ofNat_of_lt' (by show 0x80 + n % 64 < 256; omega)

/-- It is a tail byte. -/
@[simp] lemma isTail_tailByte (n : ℕ) : isTail (tailByte n) = true := by
  unfold isTail
  rw [toNat_tailByte, Bool.and_eq_true, decide_eq_true_eq, decide_eq_true_eq]
  omega

/-- It carries the last six bits. -/
@[simp] lemma tailBits_tailByte (n : ℕ) : tailBits (tailByte n) = n % 64 := by
  unfold tailBits
  rw [toNat_tailByte, Nat.add_sub_cancel_left]

/-- **A code point** is read back. -/
lemma decode_encodeCode (hn : n < 0x110000) (rest : List UInt8) :
    decode (encodeCode n ++ rest) = (decode rest).map (n :: ·) := by
  have hbyte : ∀ k < 256, (UInt8.ofNat k).toNat = k := fun k hk => UInt8.toNat_ofNat_of_lt' hk
  unfold encodeCode
  split_ifs with h1 h2 h3
  · rw [List.singleton_append, decode.eq_def]
    simp only [hbyte n (by omega), if_pos h1]
  · rw [List.cons_append, List.singleton_append, decode.eq_def]
    simp only [hbyte (0xC0 + n / 64) (by omega), isTail_tailByte, tailBits_tailByte, if_true]
    rw [if_neg (by omega), if_neg (by omega), if_pos (by omega),
      (by omega : (0xC0 + n / 64 - 0xC0) * 64 + n % 64 = n)]
  · rw [List.cons_append, List.cons_append, List.singleton_append, decode.eq_def]
    have hvalue : (0xE0 + n / 4096 - 0xE0) * 4096 + n / 64 % 64 * 64 + n % 64 = n := by omega
    simp only [hbyte (0xE0 + n / 4096) (by omega), isTail_tailByte, tailBits_tailByte, hvalue]
    rw [if_neg (by omega), if_neg (by omega), if_neg (by omega), if_pos (by omega),
      decide_eq_true (by omega : 0x800 ≤ n)]
    rfl
  · rw [List.cons_append, List.cons_append, List.cons_append, List.singleton_append, decode.eq_def]
    have hvalue : (0xF0 + n / 262144 - 0xF0) * 262144 + n / 4096 % 64 * 4096 + n / 64 % 64 * 64 +
        n % 64 = n := by omega
    simp only [hbyte (0xF0 + n / 262144) (by omega), isTail_tailByte, tailBits_tailByte, hvalue]
    rw [if_neg (by omega), if_neg (by omega), if_neg (by omega), if_neg (by omega),
      decide_eq_true (by omega : 0x10000 ≤ n), decide_eq_true hn]
    rfl

/-- How many bytes stand behind a first byte. -/
def tails (b : UInt8) : ℕ := if b.toNat < 0xE0 then 1 else if b.toNat < 0xF0 then 2 else 3

/-- A first byte with too few bytes behind it is an error. -/
lemma decode_short {b : UInt8} (hb : 0xC2 ≤ b.toNat) (h : bytes.length < tails b) :
    decode (b :: bytes) = none := by
  unfold tails at h
  rw [decode.eq_def]
  simp only
  rw [if_neg (by omega), if_neg (by omega)]
  split_ifs at h ⊢
  · obtain rfl : bytes = [] := List.length_eq_zero_iff.mp (by omega)
    rfl
  · match bytes, h with
    | [], _ => rfl
    | [_], _ => rfl
  · match bytes, h with
    | [], _ => rfl
    | [_], _ => rfl
    | [_, _], _ => rfl

/-- **A code point that is cut off** is an error. -/
lemma decode_cut (hn : n < 0x110000) (hstart : bytes <+: encodeCode n) (hne : bytes ≠ [])
    (hcut : bytes ≠ encodeCode n) : decode bytes = none := by
  have hbyte : ∀ k < 256, (UInt8.ofNat k).toNat = k := fun k hk => UInt8.toNat_ofNat_of_lt' hk
  have hlength : bytes.length < (encodeCode n).length :=
    lt_of_le_of_ne hstart.length_le fun heq => hcut (hstart.eq_of_length heq)
  obtain ⟨b, bytes, rfl⟩ := List.exists_cons_of_ne_nil hne
  obtain ⟨more, hmore⟩ := hstart
  rw [List.length_cons] at hlength
  unfold encodeCode at hmore hlength
  split_ifs at hmore hlength with h1 h2 h3
  · rw [List.length_singleton] at hlength
    omega
  all_goals
    obtain rfl := (List.cons.inj hmore).1
    refine decode_short (by rw [hbyte _ (by omega)]; omega) ?_
    unfold tails
    rw [hbyte _ (by omega)]
    simp only [List.length_cons, List.length_nil] at hlength
    split_ifs <;> omega

/-- **Decoding gives the text back.** -/
theorem decode_encode (htext : ∀ n ∈ text, n < 0x110000) : decode (encode text) = some text := by
  induction text with
  | nil => rfl
  | cons n text ih =>
    have hrest := ih fun m hm => htext m (List.mem_cons_of_mem _ hm)
    show decode (encodeCode n ++ encode text) = some (n :: text)
    rw [decode_encodeCode (htext n List.mem_cons_self), hrest, Option.map_some]

/-- A code point has a byte at least. -/
lemma encodeCode_ne_nil (n : ℕ) : encodeCode n ≠ [] := by
  unfold encodeCode
  split_ifs <;> exact List.cons_ne_nil _ _

/-- **The start of the bytes of a text** is an error, or the bytes of a start of the text. -/
theorem decode_prefix (htext : ∀ n ∈ text, n < 0x110000) (h : bytes <+: encode text) :
    decode bytes = none ∨ ∃ start, start <+: text ∧ bytes = encode start := by
  induction text generalizing bytes with
  | nil =>
    obtain rfl : bytes = [] := List.prefix_nil.mp h
    exact Or.inr ⟨[], List.nil_prefix, rfl⟩
  | cons n text ih =>
    have hn := htext n List.mem_cons_self
    have h : bytes <+: encodeCode n ++ encode text := h
    rcases List.prefix_or_prefix_of_prefix h (List.prefix_append _ _) with hshort | ⟨more, hbytes⟩
    · by_cases hwhole : bytes = encodeCode n
      · exact Or.inr ⟨[n], by simp, by simp [hwhole, encode]⟩
      by_cases hnil : bytes = []
      · exact Or.inr ⟨[], List.nil_prefix, hnil⟩
      · exact Or.inl (decode_cut hn hshort hnil hwhole)
    · rw [← hbytes, List.prefix_append_right_inj] at h
      rw [← hbytes, decode_encodeCode hn]
      rcases ih (fun m hm => htext m (List.mem_cons_of_mem _ hm)) h with hnone | ⟨start, hs, he⟩
      · rw [hnone]
        exact Or.inl rfl
      · refine Or.inr ⟨n :: start, List.cons_prefix_cons.mpr ⟨rfl, hs⟩, ?_⟩
        rw [he]
        rfl

/-- Bytes are told apart where the texts are. -/
theorem encode_injective {other : List ℕ} (htext : ∀ n ∈ text, n < 0x110000)
    (hother : ∀ n ∈ other, n < 0x110000) (h : encode text = encode other) : text = other := by
  have hdecoded := decode_encode htext
  rw [h, decode_encode hother] at hdecoded
  exact (Option.some.inj hdecoded).symm

/-- Texts are encoded one after the other. -/
theorem encode_append (before after : List ℕ) :
    encode (before ++ after) = encode before ++ encode after := List.flatMap_append

/-! ## Bytes of a text -/

/-- A text of ASCII characters has a byte for each. -/
theorem encode_ascii (h : ∀ n ∈ text, n < 0x80) : encode text = text.map UInt8.ofNat := by
  induction text with
  | nil => rfl
  | cons n text ih =>
    show encodeCode n ++ encode text = _
    rw [ih fun m hm => h m (List.mem_cons_of_mem _ hm), encodeCode, if_pos (h n List.mem_cons_self)]
    rfl

/-- The start of a text of ASCII characters. -/
theorem take_encode_ascii (h : ∀ n ∈ text, n < 0x80) (k : ℕ) :
    (encode text).take k = encode (text.take k) := by
  rw [encode_ascii h, encode_ascii fun n hn => h n (List.mem_of_mem_take hn), List.map_take]

/-- Only the null character has a null byte. -/
theorem encode_ne_zero (htext : ∀ n ∈ text, n < 0x110000) (h : ∀ n ∈ text, n ≠ 0) :
    ∀ b ∈ encode text, b ≠ 0 := by
  have hbyte : ∀ k, 0 < k → k < 256 → UInt8.ofNat k ≠ 0 := by
    intro k hpos hlt hzero
    have hnat := congrArg UInt8.toNat hzero
    rw [UInt8.toNat_ofNat_of_lt' hlt] at hnat
    exact absurd hnat (by simpa using hpos.ne')
  have htail : ∀ k, tailByte k ≠ 0 := fun k => hbyte _ (by omega) (by omega)
  intro b hb
  obtain ⟨n, hn, hb⟩ := List.mem_flatMap.mp hb
  have hlt := htext n hn
  have hpos := Nat.pos_of_ne_zero (h n hn)
  unfold encodeCode at hb
  split_ifs at hb <;> simp only [List.mem_cons, List.not_mem_nil, or_false] at hb
  · rw [hb]
    exact hbyte _ hpos (by omega)
  · rcases hb with rfl | rfl
    · exact hbyte _ (by omega) (by omega)
    · exact htail _
  · rcases hb with rfl | rfl | rfl
    · exact hbyte _ (by omega) (by omega)
    · exact htail _
    · exact htail _
  · rcases hb with rfl | rfl | rfl | rfl
    · exact hbyte _ (by omega) (by omega)
    · exact htail _
    · exact htail _
    · exact htail _

/-- A text that starts with an ASCII character starts with its byte. -/
theorem head_encode_ascii {n : ℕ} (hn : n < 0x80) :
    encode (n :: text) = UInt8.ofNat n :: encode text := by
  show encodeCode n ++ encode text = _
  rw [encodeCode, if_pos hn]
  rfl

end Utf8
