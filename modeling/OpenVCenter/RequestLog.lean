import OpenVCenter.JsonModule
import OpenVCenter.Foundations.Utf8Replace

set_option relaxedAutoImplicit false
set_option autoImplicit false

/-!
# The log of request bodies

`RequestBodyLogMiddleware._log` of `logging.py` reads the first bytes of a body as JSON, puts stars for
the values of secret keys, and logs what it writes again. What is no JSON is logged as it is, and so is
a body that the cut leaves without its end.

## Main definitions

* `OpenVCenter.redact` — `_redact`.
* `OpenVCenter.LogRequest.log` — `_log`.
* `OpenVCenter.alike` — two documents differ in values of secret keys only.

## Main results

* `OpenVCenter.redact_docValue` — documents that are alike have the same value without secrets.
* `OpenVCenter.requestLog_iff` — **the bodies whose secrets do not show**: both are read whole, or
  the bytes that are read show the same characters.

## Design

The interpreter has no limit of its own for how deep a document is. A body is UTF-8 without a byte
order mark; the other encodings of `json.loads` are a parameter.
-/

namespace OpenVCenter

open JsonToken JsonText

/-! ## Redaction -/

/-- `_REDACT_KEYS`. -/
def redactKeys : List Text :=
  ["password", "secret", "token", "access_token", "refresh_token", "authorization",
    "client_secret", "session_secret", "api_key"].map codes

/-- The log has stars for the values of the key. -/
def isSecret (lower : Text → Text) (k : Text) : Bool := decide (lower k ∈ redactKeys)

variable {φ : Type}

mutual

/-- `_redact`. -/
def redact (lower : Text → Text) : Loaded φ → Loaded φ
  | .obj members => .obj (redactMembers lower members)
  | .arr items => .arr (redactItems lower items)
  | v => v

/-- `_redact` of the items of a list. -/
def redactItems (lower : Text → Text) : List (Loaded φ) → List (Loaded φ)
  | [] => []
  | v :: items => redact lower v :: redactItems lower items

/-- `_redact` of the members of a dict. -/
def redactMembers (lower : Text → Text) : List (Text × Loaded φ) → List (Text × Loaded φ)
  | [] => []
  | (k, v) :: members =>
    (k, if isSecret lower k then .str (codes "***") else redact lower v) ::
      redactMembers lower members

end

/-! ## The log -/

/-- What the standard library gives: `str.lower`, the decoders of UTF-16 and UTF-32, and floats. -/
structure Stdlib (φ : Type) where
  lower : Text → Text
  other : Encoding → List UInt8 → Option Text
  floats : Floats φ

/-- `_MAX_BODY`. -/
def maxBody : ℕ := 16384

/-- What the log has of a request, apart from its body. -/
structure LogRequest where
  method : Text
  path : Text
  query : Text
  contentType : Option Text

/-- The request says that its body is JSON. -/
def LogRequest.IsJson (request : LogRequest) : Prop :=
  codes "application/json" <:+: request.contentType.getD []

/-- Whether a request has a JSON body can be decided. -/
instance (request : LogRequest) : Decidable request.IsJson :=
  inferInstanceAs (Decidable (_ <:+: _))

/-- `rendered`, of the bytes that are kept. -/
def LogRequest.rendered (request : LogRequest) (std : Stdlib φ) (body : List UInt8) : Text :=
  if request.IsJson then
    match loads std.floats std.other body with
    | some v => dumps std.floats (redact std.lower v)
    -- a `ValueError` is passed over
    | none => Utf8.decodeReplace body
  else Utf8.decodeReplace body

/-- `_log`, the text of the record. -/
def LogRequest.log (request : LogRequest) (std : Stdlib φ) (raw : List UInt8) : Text :=
  let body := raw.take maxBody
  let truncated := if maxBody < raw.length then codes " …(truncated)" else []
  let query := if request.query.isEmpty then [] else codes "?" ++ request.query
  request.method ++ codes " " ++ request.path ++ query ++ codes "\n" ++
    request.rendered std body ++ truncated

/-! ## Bodies -/

/-- A body that is JSON: a document in UTF-8, with blanks around it. -/
structure JsonBody where
  before : Text
  doc : Doc
  after : Text
  blanks_before : Blanks before
  doc_valid : doc.Valid
  blanks_after : Blanks after
  doc_scalar : ∀ c ∈ doc.text, Utf8.IsScalar c

namespace JsonBody

/-- The characters of a body. -/
def text (b : JsonBody) : Text := b.before ++ (b.doc.text ++ b.after)

/-- The bytes of a body. -/
def bytes (b : JsonBody) : List UInt8 := Utf8.encode b.text

/-- The document ends within the bytes that are kept. -/
def Fits (b : JsonBody) : Prop := (Utf8.encode (b.before ++ b.doc.text)).length ≤ maxBody

/-- The document ends within the bytes that are kept, and has no integer that is too long. -/
def Parsed (b : JsonBody) : Prop := b.Fits ∧ shortInts b.doc = true

end JsonBody

mutual

/-- The documents differ in values of secret keys only. -/
def alike (lower : Text → Text) : Doc → Doc → Prop
  | .atom a, .atom a' => a = a'
  | .emptyArr inside, .emptyArr inside' => inside = inside'
  | .arr elems, .arr elems' => alikeElems lower elems elems'
  | .emptyObj inside, .emptyObj inside' => inside = inside'
  | .obj members, .obj members' => alikeMembers lower members members'
  | _, _ => False

/-- The elements differ in values of secret keys only. -/
def alikeElems (lower : Text → Text) : Elems → Elems → Prop
  | .last before d after, .last before' d' after' =>
    before = before' ∧ alike lower d d' ∧ after = after'
  | .more before d after rest, .more before' d' after' rest' =>
    before = before' ∧ alike lower d d' ∧ after = after' ∧ alikeElems lower rest rest'
  | _, _ => False

/-- The members differ in values of secret keys only. -/
def alikeMembers (lower : Text → Text) : Members → Members → Prop
  | .last name d after, .last name' d' after' =>
    name = name' ∧ (isSecret lower (stringValue name.pieces) = true ∨ alike lower d d') ∧
      after = after'
  | .more name d after rest, .more name' d' after' rest' =>
    name = name' ∧ (isSecret lower (stringValue name.pieces) = true ∨ alike lower d d') ∧
      after = after' ∧ alikeMembers lower rest rest'
  | _, _ => False

end

/-- The bodies differ in values of secret keys only. -/
structure JsonBody.Alike (lower : Text → Text) (b b' : JsonBody) : Prop where
  before : b.before = b'.before
  doc : alike lower b.doc b'.doc
  after : b.after = b'.after

/-! ## Values without secrets -/

/-- `redact` of an object, member by member. -/
lemma redactMembers_eq (lower : Text → Text) (members : List (Text × Loaded φ)) :
    redactMembers lower members = members.map fun member =>
      (member.1, if isSecret lower member.1 then .str (codes "***") else redact lower member.2) := by
  induction members with
  | nil => rw [redactMembers, List.map_nil]
  | cons member members ih => rw [redactMembers, List.map_cons, ih]

/-- Redaction before the dict is made. -/
lemma redactMembers_dictOf (lower : Text → Text) (members : List (Text × Loaded φ)) :
    redactMembers lower (dictOf members) = dictOf (redactMembers lower members) := by
  rw [redactMembers_eq, redactMembers_eq, dictOf_map fun k v =>
    if isSecret lower k then .str (codes "***") else redact lower v]

section Redaction

variable (lower : Text → Text) (fl : Floats φ)

mutual

/-- **Documents that are alike** have the same value without secrets. -/
theorem redact_docValue : ∀ d d' : Doc, alike lower d d' →
    redact lower (docValue fl d) = redact lower (docValue fl d')
  | .atom a, d', h => by
    cases d' with
    | atom a' =>
      rw [alike] at h
      rw [h]
    | _ => simp only [alike] at h
  | .emptyArr inside, d', h => by
    cases d' with
    | emptyArr inside' => rw [docValue, docValue]
    | _ => simp only [alike] at h
  | .arr elems, d', h => by
    cases d' with
    | arr elems' =>
      rw [alike] at h
      rw [docValue, docValue, redact, redact, redactItems_elemsValue elems elems' h]
    | _ => simp only [alike] at h
  | .emptyObj inside, d', h => by
    cases d' with
    | emptyObj inside' => rw [docValue, docValue]
    | _ => simp only [alike] at h
  | .obj members, d', h => by
    cases d' with
    | obj members' =>
      rw [alike] at h
      rw [docValue, docValue, redact, redact, redactMembers_dictOf, redactMembers_dictOf,
        redactMembers_membersValue members members' h]
    | _ => simp only [alike] at h

/-- Lists that are alike read the same once redacted. -/
theorem redactItems_elemsValue : ∀ elems elems' : Elems, alikeElems lower elems elems' →
    redactItems lower (elemsValue fl elems) = redactItems lower (elemsValue fl elems')
  | .last before d after, elems', h => by
    cases elems' with
    | last before' d' after' =>
      rw [alikeElems] at h
      simp only [elemsValue, redactItems, redact_docValue d d' h.2.1]
    | more => simp only [alikeElems] at h
  | .more before d after rest, elems', h => by
    cases elems' with
    | last => simp only [alikeElems] at h
    | more before' d' after' rest' =>
      rw [alikeElems] at h
      rw [elemsValue, elemsValue, redactItems, redactItems, redact_docValue d d' h.2.1,
        redactItems_elemsValue rest rest' h.2.2.2]

/-- Members that are alike read the same once redacted. -/
theorem redactMembers_membersValue : ∀ members members' : Members,
    alikeMembers lower members members' →
    redactMembers lower (membersValue fl members) = redactMembers lower (membersValue fl members')
  | .last name d after, members', h => by
    cases members' with
    | last name' d' after' =>
      rw [alikeMembers] at h
      obtain ⟨rfl, hd, -⟩ := h
      simp only [membersValue, redactMembers]
      rcases hd with hsecret | hd
      · rw [if_pos hsecret, if_pos hsecret]
      · rw [redact_docValue d d' hd]
    | more => simp only [alikeMembers] at h
  | .more name d after rest, members', h => by
    cases members' with
    | last => simp only [alikeMembers] at h
    | more name' d' after' rest' =>
      rw [alikeMembers] at h
      obtain ⟨rfl, hd, -, hrest⟩ := h
      rw [membersValue, membersValue, redactMembers, redactMembers,
        redactMembers_membersValue rest rest' hrest]
      rcases hd with hsecret | hd
      · rw [if_pos hsecret, if_pos hsecret]
      · rw [redact_docValue d d' hd]

end

mutual

/-- Redaction leaves no longer integers. -/
theorem smallInts_redact : ∀ v : Loaded φ, SmallInts v → SmallInts (redact lower v)
  | .obj members, h => by
    rw [SmallInts] at h
    rw [redact, SmallInts]
    exact smallMembers_redactMembers members h
  | .arr items, h => by
    rw [SmallInts] at h
    rw [redact, SmallInts]
    exact smallItems_redactItems items h
  | .null, h => by rwa [redact] <;> exact nofun
  | .bool b, h => by rwa [redact] <;> exact nofun
  | .int i, h => by rwa [redact] <;> exact nofun
  | .float f, h => by rwa [redact] <;> exact nofun
  | .str s, h => by rwa [redact] <;> exact nofun

/-- A list of small integers has small integers once redacted. -/
theorem smallItems_redactItems : ∀ items : List (Loaded φ), SmallItems items →
    SmallItems (redactItems lower items)
  | [], _ => by rw [redactItems, SmallItems]; trivial
  | v :: items, h => by
    rw [SmallItems] at h
    rw [redactItems, SmallItems]
    exact ⟨smallInts_redact v h.1, smallItems_redactItems items h.2⟩

/-- So have the members of an object. -/
theorem smallMembers_redactMembers : ∀ members : List (Text × Loaded φ), SmallMembers members →
    SmallMembers (redactMembers lower members)
  | [], _ => by rw [redactMembers, SmallMembers]; trivial
  | (k, v) :: members, h => by
    rw [SmallMembers] at h
    rw [redactMembers, SmallMembers]
    refine ⟨?_, smallMembers_redactMembers members h.2⟩
    split_ifs
    · simp only [SmallInts]
    · exact smallInts_redact v h.1

end

end Redaction

/-! ## What is kept of a body -/

/-- Blanks are ASCII. -/
lemma ascii_of_blanks {t : Text} (h : Blanks t) : ∀ c ∈ t, c < 0x80 := by
  intro c hc
  have hblank := h c hc
  unfold isBlank at hblank
  simp only [Bool.or_eq_true, beq_iff_eq] at hblank
  rcases hblank with ((rfl | rfl) | rfl) | rfl <;> decide

namespace JsonBody

variable (b : JsonBody)

/-- A body's text has scalar values only. -/
lemma text_scalar : ∀ c ∈ b.text, Utf8.IsScalar c := by
  have hblanks : ∀ t : Text, Blanks t → ∀ c ∈ t, Utf8.IsScalar c := fun t h c hc =>
    Or.inl (lt_trans (ascii_of_blanks h c hc) (by decide))
  unfold text
  rw [List.forall_mem_append, List.forall_mem_append]
  exact ⟨hblanks _ b.blanks_before, b.doc_scalar, hblanks _ b.blanks_after⟩

/-- They are code points. -/
lemma text_lt : ∀ c ∈ b.text, c < 0x110000 := by
  intro c hc
  have hscalar := b.text_scalar c hc
  unfold Utf8.IsScalar at hscalar
  omega

/-- None of them is NUL. -/
lemma text_ne_zero : ∀ c ∈ b.text, c ≠ 0 := by
  unfold text
  rw [List.forall_mem_append, List.forall_mem_append]
  exact ⟨ne_zero_of_blanks b.blanks_before, b.doc.ne_zero b.doc_valid,
    ne_zero_of_blanks b.blanks_after⟩

/-- A body starts with an ASCII character. -/
lemma text_head : ∃ c rest, b.text = c :: rest ∧ c < 0x80 := by
  unfold text
  cases hbefore : b.before with
  | nil =>
    obtain ⟨c, rest, hdoc, -⟩ := b.doc.text_head b.doc_valid
    have hascii := b.doc.head_ascii b.doc_valid
    rw [hdoc] at hascii ⊢
    exact ⟨c, _, rfl, hascii c rfl⟩
  | cons c before =>
    exact ⟨c, _, rfl, ascii_of_blanks b.blanks_before c (hbefore ▸ List.mem_cons_self)⟩

/-- What is kept of a body is read as UTF-8. -/
lemma detectEncoding_take (k : ℕ) : detectEncoding (b.bytes.take k) = .utf8 := by
  refine detectEncoding_utf8 (fun x hx => ?_) fun x hx => ?_
  · exact Utf8.encode_ne_zero b.text_lt b.text_ne_zero x (List.mem_of_mem_take hx)
  · obtain ⟨c, rest, htext, hc⟩ := b.text_head
    rw [List.head?_take] at hx
    unfold bytes at hx
    rw [htext, Utf8.head_encode_ascii hc] at hx
    split_ifs at hx
    · cases hx
    · cases hx
      rwa [Utf8.toNat_ofNat (by omega)]

variable (fl : Floats φ) (other : Encoding → List UInt8 → Option Text)

/-- The first bytes of a body are decoded, read, and refused for an integer that is too long. -/
lemma loads_take (k : ℕ) :
    loads fl other (b.bytes.take k) = (Utf8.decode (b.bytes.take k)).bind fun text =>
      (JsonText.read text).bind fun d => if shortInts d then some (docValue fl d) else none := by
  unfold loads decodeBytes
  rw [b.detectEncoding_take k]

/-- The characters that are kept, where the document fits. -/
def kept : Text :=
  b.before ++ (b.doc.text ++
    b.after.take (maxBody - (Utf8.encode (b.before ++ b.doc.text)).length))

variable {b}

/-- A body that fits is cut, if at all, behind its document. -/
lemma take_of_fits (h : b.Fits) : b.bytes.take maxBody = Utf8.encode b.kept := by
  unfold bytes text kept
  rw [← List.append_assoc, ← List.append_assoc, Utf8.encode_append _ b.after,
    Utf8.encode_append _ (b.after.take _), List.take_append, List.take_of_length_le h,
    Utf8.take_encode_ascii (ascii_of_blanks b.blanks_after)]

/-- So is its text. -/
lemma firstChars_of_fits (h : b.Fits) : Utf8.firstChars maxBody b.text = b.kept := by
  unfold text kept
  rw [← List.append_assoc, ← List.append_assoc, Utf8.firstChars_append h,
    Utf8.firstChars_ascii (ascii_of_blanks b.blanks_after)]

/-- What is kept of it reads as its document. -/
lemma read_kept : JsonText.read b.kept = some b.doc :=
  read_text b.blanks_before b.doc_valid fun c hc => b.blanks_after c (List.mem_of_mem_take hc)

/-- A document that fits is read, unless an integer of it is too long. -/
lemma loads_of_fits (h : b.Fits) : loads fl other (b.bytes.take maxBody) =
    if shortInts b.doc then some (docValue fl b.doc) else none := by
  have hlt : ∀ c ∈ b.kept, c < 0x110000 := by
    intro c hc
    refine b.text_lt c ?_
    unfold kept at hc
    unfold text
    simp only [List.mem_append] at hc ⊢
    exact hc.imp_right (Or.imp_right List.mem_of_mem_take)
  rw [loads_take, take_of_fits h, Utf8.decode_encode hlt, Option.bind_some, read_kept,
    Option.bind_some]

/-- **An array or an object that is cut** is no JSON. -/
lemma loads_of_cut (hc : b.doc.isContainer = true) (h : ¬ b.Fits) :
    loads fl other (b.bytes.take maxBody) = none := by
  have hlong : maxBody < (Utf8.encode (b.before ++ b.doc.text)).length := not_le.mp h
  have htake : b.bytes.take maxBody = (Utf8.encode (b.before ++ b.doc.text)).take maxBody := by
    unfold bytes text
    rw [← List.append_assoc, Utf8.encode_append, List.take_append_of_le_length hlong.le]
  have hlt : ∀ c ∈ b.before ++ b.doc.text, c < 0x110000 := by
    intro c hc
    refine b.text_lt c ?_
    unfold text
    rw [← List.append_assoc]
    exact List.mem_append_left _ hc
  rw [loads_take, htake]
  rcases Utf8.decode_prefix hlt (List.take_prefix maxBody _) with hnone | ⟨start, hstart, hbytes⟩
  · rw [hnone, Option.bind_none]
  · obtain ⟨more, hmore⟩ := hstart
    rw [hbytes, Utf8.decode_encode fun c hc => hlt c (hmore ▸ List.mem_append_left _ hc),
      Option.bind_some, read_cut b.blanks_before b.doc_valid hc hmore, Option.bind_none]
    rintro rfl
    rw [List.append_nil] at hmore
    have hlength := congrArg List.length hbytes
    rw [hmore, List.length_take] at hlength
    omega

end JsonBody

/-! ## What is logged of a body -/

section Log

variable {request : LogRequest} {std : Stdlib φ} {b b' : JsonBody}

/-- The log of a document that is read. -/
lemma rendered_of_parsed (hjson : request.IsJson) (h : b.Parsed) :
    request.rendered std (b.bytes.take maxBody) =
      dumps std.floats (redact std.lower (docValue std.floats b.doc)) := by
  unfold LogRequest.rendered
  rw [if_pos hjson, JsonBody.loads_of_fits _ _ h.1, if_pos h.2]

/-- The log of what is no JSON. -/
lemma rendered_of_loads (hjson : request.IsJson)
    (h : loads std.floats std.other (b.bytes.take maxBody) = none) :
    request.rendered std (b.bytes.take maxBody) = Utf8.firstChars maxBody b.text := by
  unfold LogRequest.rendered
  rw [if_pos hjson, h]
  exact Utf8.decodeReplace_take b.text_scalar maxBody

/-- A body with an integer that is too long is not read. -/
lemma loads_of_long (h : b.Fits) (hlong : shortInts b.doc ≠ true) :
    loads std.floats std.other (b.bytes.take maxBody) = none := by
  rw [JsonBody.loads_of_fits _ _ h, if_neg hlong]

/-- The log of an array or an object that is not read. -/
lemma rendered_of_not_parsed (hjson : request.IsJson) (hc : b.doc.isContainer = true)
    (h : ¬ b.Parsed) :
    request.rendered std (b.bytes.take maxBody) = Utf8.firstChars maxBody b.text := by
  refine rendered_of_loads hjson ?_
  by_cases hfits : b.Fits
  · exact loads_of_long hfits fun hshort => h ⟨hfits, hshort⟩
  · exact JsonBody.loads_of_cut _ _ hc hfits

/-- The logs of bodies of the same length differ in what is logged of the bodies. -/
lemma log_eq_iff {raw raw' : List UInt8} (hlength : raw.length = raw'.length) :
    request.log std raw = request.log std raw' ↔
      request.rendered std (raw.take maxBody) = request.rendered std (raw'.take maxBody) := by
  unfold LogRequest.log
  rw [hlength, List.append_cancel_right_eq, List.append_cancel_left_eq]

/-- **A document that is read** is not logged like one with an integer that is too long. -/
lemma rendered_ne (hjson : request.IsJson) (h : b.Parsed) (h' : b'.Fits)
    (hlong : shortInts b'.doc ≠ true) :
    request.rendered std (b.bytes.take maxBody) ≠ request.rendered std (b'.bytes.take maxBody) := by
  rw [rendered_of_parsed hjson h, rendered_of_loads hjson (loads_of_long h' hlong),
    JsonBody.firstChars_of_fits h']
  intro heq
  have hread := read_dumps std.floats (redact std.lower (docValue std.floats b.doc))
  rw [heq, JsonBody.read_kept] at hread
  have hsmall := smallInts_redact std.lower _ (smallInts_docValue std.floats _ b.doc_valid h.2)
  exact hlong (Option.some.inj hread ▸ shortInts_docOf std.floats 0 _ hsmall)

/-- A document that is read does not show like one with an integer that is too long. -/
lemma firstChars_ne (h : b.Parsed) (h' : b'.Fits) (hlong : shortInts b'.doc ≠ true) :
    Utf8.firstChars maxBody b.text ≠ Utf8.firstChars maxBody b'.text := by
  rw [JsonBody.firstChars_of_fits h.1, JsonBody.firstChars_of_fits h']
  intro heq
  have hread := b.read_kept
  rw [heq, JsonBody.read_kept] at hread
  exact hlong (Option.some.inj hread ▸ h.2)

/-- Bodies of the same length with the same blanks around the document fit both. -/
lemma JsonBody.Alike.fits_iff {lower : Text → Text} (h : b.Alike lower b')
    (hlength : b.bytes.length = b'.bytes.length) : b.Fits ↔ b'.Fits := by
  have hsame : (Utf8.encode (b.before ++ b.doc.text)).length =
      (Utf8.encode (b'.before ++ b'.doc.text)).length := by
    unfold JsonBody.bytes JsonBody.text at hlength
    rw [← List.append_assoc, ← List.append_assoc, Utf8.encode_append _ b.after,
      Utf8.encode_append _ b'.after, List.length_append, List.length_append, h.after] at hlength
    omega
  unfold JsonBody.Fits
  rw [hsame]

/-- An array is alike to arrays only, and an object to objects. -/
lemma alike_isContainer {lower : Text → Text} {d d' : Doc} (h : alike lower d d')
    (hc : d.isContainer = true) : d'.isContainer = true := by
  cases d with
  | atom a => exact absurd hc Bool.false_ne_true
  | _ =>
    cases d' with
    | atom a => simp only [alike] at h
    | _ => rfl

/-- Documents that are alike are equal where they are no containers. -/
lemma eq_of_alike_atom {lower : Text → Text} {d d' : Doc} (h : alike lower d d')
    (hc : d.isContainer ≠ true) : d = d' := by
  cases d with
  | atom a =>
    cases d' with
    | atom a' =>
      rw [alike] at h
      rw [h]
    | _ => simp only [alike] at h
  | _ => exact absurd rfl hc

/-- **The bodies whose secrets do not show.** Two bodies that differ in values of secret keys only
and that are of the same length have the same log if and only if both documents end within the bytes
that are kept and have no integer that is too long, or the bytes that are kept show the same
characters. -/
theorem requestLog_iff (request : LogRequest) (std : Stdlib φ) (hjson : request.IsJson)
    {b b' : JsonBody} (halike : b.Alike std.lower b')
    (hlength : b.bytes.length = b'.bytes.length) :
    request.log std b.bytes = request.log std b'.bytes ↔
      b.Parsed ∧ b'.Parsed ∨ Utf8.firstChars maxBody b.text = Utf8.firstChars maxBody b'.text := by
  rw [log_eq_iff hlength]
  by_cases hc : b.doc.isContainer = true
  · have hc' := alike_isContainer halike.doc hc
    have hfits := halike.fits_iff hlength
    by_cases hp : b.Parsed
    · by_cases hp' : b'.Parsed
      · refine iff_of_true ?_ (Or.inl ⟨hp, hp'⟩)
        rw [rendered_of_parsed hjson hp, rendered_of_parsed hjson hp',
          redact_docValue std.lower std.floats _ _ halike.doc]
      · have hfits' := hfits.mp hp.1
        have hlong : shortInts b'.doc ≠ true := fun hshort => hp' ⟨hfits', hshort⟩
        refine iff_of_false (rendered_ne hjson hp hfits' hlong) ?_
        rintro (⟨-, hparsed⟩ | hshown)
        · exact hp' hparsed
        · exact firstChars_ne hp hfits' hlong hshown
    · by_cases hp' : b'.Parsed
      · have hfits' := hfits.mpr hp'.1
        have hlong : shortInts b.doc ≠ true := fun hshort => hp ⟨hfits', hshort⟩
        refine iff_of_false (rendered_ne hjson hp' hfits' hlong).symm ?_
        rintro (⟨hparsed, -⟩ | hshown)
        · exact hp hparsed
        · exact firstChars_ne hp' hfits' hlong hshown.symm
      · rw [rendered_of_not_parsed hjson hc hp, rendered_of_not_parsed hjson hc' hp',
          or_iff_right fun h => hp h.1]
  · have htext : b.text = b'.text := by
      unfold JsonBody.text
      rw [halike.before, eq_of_alike_atom halike.doc hc, halike.after]
    refine iff_of_true ?_ (Or.inr (by rw [htext]))
    unfold JsonBody.bytes
    rw [htext]

end Log

/-! ## A body with a password -/

namespace Demo

/-- No floats, and `str.lower` of ASCII characters. -/
def std : Stdlib Unit where
  lower t := t.map fun c => if 'A'.toNat ≤ c ∧ c ≤ 'Z'.toNat then c + 32 else c
  other _ _ := none
  floats := ⟨fun _ => (), fun _ => .nan, fun _ => trivial, fun _ => rfl⟩

/-- A request that says JSON. -/
def request : LogRequest :=
  ⟨codes "POST", codes "/api/v1/auth/login", [], some (codes "application/json")⟩

/-- The example has a JSON body. -/
lemma request_isJson : request.IsJson := List.infix_rfl

/-- Small letters. -/
def Letters (t : Text) : Prop := ∀ c ∈ t, 'a'.toNat ≤ c ∧ c ≤ 'z'.toNat

/-- Whether a text is of letters can be decided. -/
instance (t : Text) : Decidable (Letters t) := inferInstanceAs (Decidable (∀ c ∈ t, _))

/-- A string. -/
def quoted (t : Text) : Doc := .atom (.string (t.map .raw))

/-- A name without blanks. -/
def bareName (t : Text) : Name := ⟨[], t.map .raw, [], []⟩

/-- An object with a password and a note. -/
def passwordDoc (password note : Text) : Doc :=
  .obj (.more (bareName (codes "password")) (quoted password) []
    (.last (bareName (codes "note")) (quoted note) []))

/-- A string without escapes stands in its quotes. -/
lemma stringText_raw (t : Text) : stringText (t.map .raw) = t ++ ['"'.toNat] := by
  unfold stringText
  rw [List.flatMap_map]
  exact congrArg (· ++ _) (List.flatMap_singleton' t)

/-- The text of the example document. -/
lemma passwordDoc_text (password note : Text) : (passwordDoc password note).text =
    codes "\x7b\"password\":\"" ++ (password ++ (codes "\",\"note\":\"" ++ (note ++ codes "\"\x7d"))) := by
  simp only [passwordDoc, quoted, bareName, Doc.text, Members.text, Name.text, Atom.text,
    stringText_raw, List.append_assoc, List.nil_append, List.cons_append]
  rfl

/-- It is a valid document. -/
lemma passwordDoc_valid {password note : Text} (hpassword : Letters password)
    (hnote : Letters note) : (passwordDoc password note).Valid := by
  have hpieces : ∀ t : Text, Letters t → ∀ piece ∈ t.map Piece.raw, piece.Valid := by
    intro t ht piece hpiece
    obtain ⟨c, hc, rfl⟩ := List.mem_map.mp hpiece
    have hbounds : 'a'.toNat = 97 ∧ 'z'.toNat = 122 ∧ '"'.toNat = 34 ∧ '\\'.toNat = 92 := by decide
    have hletter := ht c hc
    exact ⟨by omega, by omega, by omega⟩
  have hnil : Blanks [] := List.forall_mem_nil _
  have hname : ∀ t : Text, Letters t → (bareName t).Valid := fun t ht =>
    ⟨hnil, hpieces t ht, hnil, hnil⟩
  simp only [passwordDoc, quoted, Doc.Valid, Members.Valid]
  exact ⟨hname _ (by decide), hpieces _ hpassword, hnil, hname _ (by decide), hpieces _ hnote,
    hnil⟩

/-- Only characters of ASCII. -/
lemma passwordDoc_ascii {password note : Text} (hpassword : Letters password)
    (hnote : Letters note) : ∀ c ∈ (passwordDoc password note).text, c < 0x80 := by
  have hletters : ∀ t : Text, Letters t → ∀ c ∈ t, c < 0x80 := by
    intro t ht c hc
    have hbounds : 'z'.toNat = 122 := by decide
    have hletter := ht c hc
    omega
  rw [passwordDoc_text]
  simp only [List.forall_mem_append]
  exact ⟨by decide, hletters _ hpassword, by decide, hletters _ hnote, by decide⟩

/-- The body with a password and a note. -/
def passwordBody (password note : Text) (hpassword : Letters password) (hnote : Letters note) :
    JsonBody where
  before := []
  doc := passwordDoc password note
  after := []
  blanks_before := nofun
  doc_valid := passwordDoc_valid hpassword hnote
  blanks_after := nofun
  doc_scalar c hc := Or.inl (lt_trans (passwordDoc_ascii hpassword hnote c hc) (by decide))

/-- Two examples with different passwords are alike. -/
lemma passwordBody_alike {password password' note : Text} (hpassword : Letters password)
    (hpassword' : Letters password') (hnote : Letters note) :
    (passwordBody password note hpassword hnote).Alike std.lower
      (passwordBody password' note hpassword' hnote) where
  before := rfl
  doc := by
    have hnoted : alike std.lower (quoted note) (quoted note) := by
      unfold quoted
      rw [alike]
    simp only [passwordBody, passwordDoc, alike, alikeMembers]
    exact ⟨trivial, Or.inl (by decide), trivial, trivial, Or.inr hnoted, trivial⟩
  after := rfl

/-- The bytes of its text. -/
lemma passwordDoc_length {password note : Text} (hpassword : Letters password)
    (hnote : Letters note) : (Utf8.encode (passwordDoc password note).text).length =
      password.length + note.length + 25 := by
  have hcodes : (codes "\x7b\"password\":\"").length = 13 ∧ (codes "\",\"note\":\"").length = 10 ∧
      (codes "\"\x7d").length = 2 := by decide
  rw [Utf8.encode_ascii (passwordDoc_ascii hpassword hnote), List.length_map, passwordDoc_text]
  simp only [List.length_append]
  omega

/-- The bytes of the body. -/
lemma passwordBody_length {password note : Text} (hpassword : Letters password)
    (hnote : Letters note) : (passwordBody password note hpassword hnote).bytes.length =
      password.length + note.length + 25 := by
  rw [← passwordDoc_length hpassword hnote, ← List.append_nil (passwordDoc password note).text]
  rfl

/-- The body fits for a password and a note that are short enough. -/
lemma passwordBody_fits_iff {password note : Text} (hpassword : Letters password)
    (hnote : Letters note) : (passwordBody password note hpassword hnote).Fits ↔
      password.length + note.length + 25 ≤ maxBody := by
  rw [← passwordDoc_length hpassword hnote]
  rfl

/-- A letter repeated is a text of letters. -/
lemma letters_replicate (n : ℕ) : Letters (List.replicate n 'x'.toNat) := fun c hc =>
  List.eq_of_mem_replicate hc ▸ by decide

/-- The body whose note is longer than what is kept. -/
def longBody (password : Text) (hpassword : Letters password) : JsonBody :=
  passwordBody password (List.replicate maxBody 'x'.toNat) hpassword (letters_replicate maxBody)

/-- The long body is over the limit by its password and its braces. -/
lemma longBody_length {password : Text} (hpassword : Letters password) :
    (longBody password hpassword).bytes.length = password.length + maxBody + 25 := by
  have hlength := passwordBody_length hpassword (letters_replicate maxBody)
  rwa [List.length_replicate] at hlength

/-- A long body is logged as it is. -/
lemma rendered_longBody {password : Text} (hpassword : Letters password) :
    request.rendered std ((longBody password hpassword).bytes.take maxBody) =
      (passwordDoc password (List.replicate maxBody 'x'.toNat)).text.take maxBody := by
  have hcut : ¬ (longBody password hpassword).Fits := by
    intro hfits
    have hle := (passwordBody_fits_iff hpassword (letters_replicate maxBody)).mp hfits
    rw [List.length_replicate] at hle
    omega
  have htext : (longBody password hpassword).text =
      (passwordDoc password (List.replicate maxBody 'x'.toNat)).text := List.append_nil _
  rw [rendered_of_not_parsed request_isJson rfl fun h => hcut h.1, htext,
    Utf8.firstChars_ascii (passwordDoc_ascii hpassword (letters_replicate maxBody))]

end Demo

/-- Two passwords of a letter each. -/
theorem requestLog_iff_password :
    Demo.request.log Demo.std (Demo.passwordBody (codes "a") (codes "n") (by decide)
        (by decide)).bytes =
      Demo.request.log Demo.std (Demo.passwordBody (codes "b") (codes "n") (by decide)
        (by decide)).bytes := by
  have ha : (Demo.passwordBody (codes "a") (codes "n") (by decide) (by decide)).Fits :=
    (Demo.passwordBody_fits_iff _ _).mpr (by decide)
  have hb : (Demo.passwordBody (codes "b") (codes "n") (by decide) (by decide)).Fits :=
    (Demo.passwordBody_fits_iff _ _).mpr (by decide)
  refine (requestLog_iff Demo.request Demo.std Demo.request_isJson
    (Demo.passwordBody_alike _ _ _) ?_).mpr (Or.inl ⟨⟨ha, rfl⟩, hb, rfl⟩)
  rw [Demo.passwordBody_length, Demo.passwordBody_length]
  rfl

/-- The passwords of two long bodies show in their logs. -/
theorem requestLog_counterexample :
    ¬ ∀ b b' : JsonBody, b.Alike Demo.std.lower b' → b.bytes.length = b'.bytes.length →
      Demo.request.log Demo.std b.bytes = Demo.request.log Demo.std b'.bytes := by
  intro hall
  have ha : Demo.Letters (codes "a") := by decide
  have hb : Demo.Letters (codes "b") := by decide
  have hlength : (Demo.longBody _ ha).bytes.length = (Demo.longBody _ hb).bytes.length := by
    rw [Demo.longBody_length ha, Demo.longBody_length hb]
    rfl
  have hlog := hall (Demo.longBody _ ha) (Demo.longBody _ hb)
    (Demo.passwordBody_alike ha hb (Demo.letters_replicate maxBody)) hlength
  rw [log_eq_iff hlength, Demo.rendered_longBody, Demo.rendered_longBody] at hlog
  -- the 14th character of a body is the one of its password
  have hstart := congrArg (List.take 14) hlog
  rw [List.take_take, List.take_take, Demo.passwordDoc_text, Demo.passwordDoc_text] at hstart
  exact absurd hstart (by decide)

end OpenVCenter
