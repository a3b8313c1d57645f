import OpenVCenter.Foundations.Digits
import OpenVCenter.Foundations.Separated
import OpenVCenter.Session

set_option relaxedAutoImplicit false
set_option autoImplicit false

/-!
# Tokens in URLs

The signing half of `services/agent_store.py`: a URL carries an expiry and a token, which is the
keyed digest of the expiry and of what the URL is for, a binary or a scope.

## Main definitions

* `OpenVCenter.Mac` — the keyed digest.
* `OpenVCenter.signDownload`, `OpenVCenter.signScope` — the queries that are handed out.
* `OpenVCenter.verifyDownload`, `OpenVCenter.verifyScope` — the checks of a query.
* `OpenVCenter.Grants` — the expiry has not passed, and the token is the one minted for it.
* `OpenVCenter.TokensExact` — the checks return what the query grants, and nothing minted for
  something else passes.

## Main results

* `OpenVCenter.tokensExact_iff` — the queries for which this holds.

## Design

The secret of the deployment is fixed: a digest is a function of the message. An instant is what
`int(time.time())` returns.
-/

namespace OpenVCenter

/-! ## The digest -/

/-- The string has ASCII characters only. -/
def isAscii (s : String) : Bool := s.toList.all fun c => decide (c.toNat < 128)

/-- `_hmac_hex` under the secret of the deployment. -/
structure Mac where
  hex : String → String
  injective : Function.Injective hex
  hex_ascii : ∀ message, isAscii (hex message) = true
  hex_ne : ∀ message, hex message ≠ ""

/-- `hmac.compare_digest` of two strings: both must be ASCII. -/
def compareDigest (a b : String) : Except Raised Bool :=
  if isAscii a && isAscii b then .ok (decide (a = b)) else .error .typeError

section Tokens

variable (py : PyStd) (mac : Mac)

/-- `_download_mac`. -/
def downloadMac (binaryId : String) (exp : ℤ) : String := mac.hex (binaryId ++ "." ++ toString exp)

/-- The digest of `sign_scope` and `verify_scope`. -/
def scopeMac (scope : String) (exp : ℤ) : String :=
  mac.hex ("scope:" ++ scope ++ "." ++ toString exp)

/-! ## Signing -/

/-- The query of a signed URL. -/
structure SignedQuery where
  exp : String
  token : String

/-- `sign_download`. `defaultTtl` is the setting `agent_download_url_ttl_seconds`. -/
def signDownload (defaultTtl now : ℤ) (binaryId : String) (ttlSeconds : Option ℤ) : SignedQuery :=
  let ttl := match ttlSeconds with
    | some ttl => if ttl = 0 then defaultTtl else ttl
    | none => defaultTtl
  { exp := toString (now + ttl), token := downloadMac mac binaryId (now + ttl) }

/-- `sign_scope`. -/
def signScope (now : ℤ) (scope : String) (ttlSeconds : ℤ) : SignedQuery :=
  { exp := toString (now + ttlSeconds), token := scopeMac mac scope (now + ttlSeconds) }

/-! ## Verification -/

/-- The body of `verify_download` and `verify_scope`; `minted` is the token for an expiry. -/
def verifyToken (minted : ℤ → String) (now : ℤ) (exp token : Option String) : Except Raised Bool :=
  match nonEmpty exp, nonEmpty token with
  | some exp, some token =>
    match py.parseInt exp with
    | none => .ok false
    | some exp => if exp < now then .ok false else compareDigest token (minted exp)
  | _, _ => .ok false

/-- `verify_download`. -/
def verifyDownload (now : ℤ) (binaryId : String) (exp token : Option String) :
    Except Raised Bool :=
  verifyToken py (downloadMac mac binaryId) now exp token

/-- `verify_scope`. -/
def verifyScope (now : ℤ) (scope : String) (exp token : Option String) : Except Raised Bool :=
  verifyToken py (scopeMac mac scope) now exp token

/-! ## What a query grants -/

/-- The query expires at `e`, which has not passed. -/
def ExpiresAt (now : ℤ) (exp : Option String) (e : ℤ) : Prop :=
  ∃ text ∈ nonEmpty exp, py.parseInt text = some e ∧ now ≤ e

/-- The expiry has not passed, and the token is the one minted for it. -/
def Grants (minted : ℤ → String) (now : ℤ) (exp token : Option String) : Prop :=
  ∃ e, ExpiresAt py now exp e ∧ token = some (minted e)

/-- `str(uuid.uuid4())`, the identifier of a binary. -/
def isUuid (s : String) : Bool :=
  decide ((s.toList.splitOn '-').map List.length = [8, 4, 4, 4, 12]) &&
    s.toList.all fun c => c.isDigit || decide (c ∈ "abcdef-".toList)

/-- **The checks are exact**: they return whether the query grants access, and raise nothing; what
they accept was minted for nothing else, and not by the other family. -/
structure TokensExact (now : ℤ) (scope binaryId : String) (exp token : Option String) : Prop where
  scopeExact : ∃ b, verifyScope py mac now scope exp token = .ok b ∧
    (b = true ↔ Grants py (scopeMac mac scope) now exp token)
  downloadExact : ∃ b, verifyDownload py mac now binaryId exp token = .ok b ∧
    (b = true ↔ Grants py (downloadMac mac binaryId) now exp token)
  scopeOwn : ∀ scope' e, token = some (scopeMac mac scope' e) →
    verifyScope py mac now scope exp token = .ok true → scope' = scope ∧ ExpiresAt py now exp e
  downloadOwn : ∀ binaryId' e, token = some (downloadMac mac binaryId' e) →
    verifyDownload py mac now binaryId exp token = .ok true →
      binaryId' = binaryId ∧ ExpiresAt py now exp e
  scopeApart : ∀ defaultTtl now' binaryId' ttl, isUuid binaryId' = true →
    token = some (signDownload mac defaultTtl now' binaryId' ttl).token →
      verifyScope py mac now scope exp token ≠ .ok true
  downloadApart : ∀ now' scope' ttl, token = some (signScope mac now' scope' ttl).token →
    verifyDownload py mac now binaryId exp token ≠ .ok true

/-- The token can be compared with a digest, or need not be: the query has expired, or has no
expiry. -/
def Comparable (now : ℤ) (exp token : Option String) : Prop :=
  ∀ t ∈ nonEmpty token, isAscii t = true ∨ ∀ e, ¬ ExpiresAt py now exp e

/-! ## Framing -/

section Framing

variable {mac} {scope scope' binaryId binaryId' : String} {e e' : ℤ}

/-- An integer has no dot. -/
lemma dot_not_mem (e : ℤ) : '.' ∉ (toString e).toList := by
  intro h
  rcases Digits.mem_toString h with hdigit | hsign
  · exact absurd hdigit (by decide)
  · exact absurd hsign (by decide)

/-- What comes before the last dot, and the expiry after it, are read off a message. -/
lemma framed_inj {a a' : String} : a ++ "." ++ toString e = a' ++ "." ++ toString e' ↔
    a = a' ∧ e = e' := by
  constructor
  · intro h
    have hchars := congrArg String.toList h
    simp only [String.toList_append, List.append_assoc] at hchars
    obtain ⟨ha, he⟩ := (Separated.append_sep_inj (dot_not_mem e) (dot_not_mem e')).mp hchars
    exact ⟨String.toList_inj.mp ha, Digits.toString_injective he⟩
  · rintro ⟨rfl, rfl⟩
    rfl

/-- The message of a download token has its two parts. -/
lemma downloadMac_inj : downloadMac mac binaryId e = downloadMac mac binaryId' e' ↔
    binaryId = binaryId' ∧ e = e' :=
  mac.injective.eq_iff.trans framed_inj

/-- So has that of a scoped token. -/
lemma scopeMac_inj : scopeMac mac scope e = scopeMac mac scope' e' ↔ scope = scope' ∧ e = e' := by
  refine mac.injective.eq_iff.trans (framed_inj.trans (and_congr_left' ?_))
  constructor
  · intro h
    have hchars := congrArg String.toList h
    rw [String.toList_append, String.toList_append, List.append_cancel_left_eq] at hchars
    exact String.toList_inj.mp hchars
  · rintro rfl
    rfl

/-- An identifier has no colon. -/
lemma colon_not_mem (h : isUuid binaryId = true) : ':' ∉ binaryId.toList := by
  intro hmem
  have hchars := (Bool.and_eq_true _ _ ▸ h).2
  have hcolon := List.all_eq_true.mp hchars ':' hmem
  exact absurd hcolon (by decide)

/-- A binary's message starts with no `scope:`. -/
lemma downloadMac_ne_scopeMac (h : isUuid binaryId = true) :
    downloadMac mac binaryId e ≠ scopeMac mac scope e' := by
  intro heq
  have hmessage := framed_inj.mp (mac.injective heq)
  refine colon_not_mem h ?_
  rw [hmessage.1, String.toList_append]
  exact List.mem_append_left _ (by decide)

end Framing

/-! ## The checks -/

section Checks

variable {py} {minted : ℤ → String} {now : ℤ} {exp token : Option String}

/-- A query that names an expiry names one. -/
lemma ExpiresAt.unique {e e' : ℤ} (h : ExpiresAt py now exp e) (h' : ExpiresAt py now exp e') :
    e = e' := by
  obtain ⟨text, htext, hparse, -⟩ := h
  obtain ⟨text', htext', hparse', -⟩ := h'
  rw [Option.mem_def] at htext htext'
  rw [htext, Option.some.injEq] at htext'
  rw [← htext', hparse, Option.some.injEq] at hparse'
  exact hparse'

/-- A query without an expiry in the future is refused. -/
lemma verifyToken_expired (h : ∀ e, ¬ ExpiresAt py now exp e) :
    verifyToken py minted now exp token = .ok false := by
  unfold verifyToken
  split
  · next text t htext ht =>
    split
    · rfl
    · next e hparse =>
      by_cases hpast : e < now
      · rw [if_pos hpast]
      · exact absurd ⟨text, htext, hparse, not_lt.mp hpast⟩ (h e)
  · rfl

/-- A query that has not expired is decided by the comparison of its token. -/
lemma verifyToken_live {e : ℤ} {t : String} (he : ExpiresAt py now exp e)
    (ht : nonEmpty token = some t) :
    verifyToken py minted now exp token = compareDigest t (minted e) := by
  obtain ⟨text, htext, hparse, hnow⟩ := he
  unfold verifyToken
  rw [Option.mem_def] at htext
  rw [htext, ht]
  dsimp only
  rw [hparse]
  dsimp only
  rw [if_neg (not_lt.mpr hnow)]

/-- A token that is not empty is given. -/
lemma nonEmpty_of_ne {t : String} (h : t ≠ "") : nonEmpty (some t) = some t := by
  unfold nonEmpty
  exact if_neg fun hempty => h (String.isEmpty_iff.mp hempty)

/-- A token that is given is that token. -/
lemma eq_some_of_nonEmpty {t : String} (h : nonEmpty token = some t) : token = some t := by
  unfold nonEmpty at h
  split at h
  · split_ifs at h
    exact h
  · cases h

/-- What is accepted is granted. -/
lemma grants_of_accepted (h : verifyToken py minted now exp token = .ok true) :
    Grants py minted now exp token := by
  unfold verifyToken at h
  split at h
  · next text t htext ht =>
    split at h
    · cases h
    · next e hparse =>
      by_cases hpast : e < now
      · rw [if_pos hpast] at h
        cases h
      rw [if_neg hpast, compareDigest] at h
      split_ifs at h
      refine ⟨e, ⟨text, htext, hparse, not_lt.mp hpast⟩, ?_⟩
      rw [eq_some_of_nonEmpty ht, of_decide_eq_true (Except.ok.inj h)]
  · cases h

/-- **A check** returns whether the query grants access exactly when the token can be compared, or
need not be.

**Proof sketch.** Without a live expiry every check returns false, and nothing is granted. With one,
an absent token is refused; a token that is given is compared, which raises exactly if it is not
ASCII, and grants access exactly if it is the one that was minted. -/
lemma verifyToken_exact_iff (hascii : ∀ e, isAscii (minted e) = true)
    (hne : ∀ e, minted e ≠ "") :
    (∃ b, verifyToken py minted now exp token = .ok b ∧
      (b = true ↔ Grants py minted now exp token)) ↔ Comparable py now exp token := by
  by_cases hlive : ∃ e, ExpiresAt py now exp e
  · obtain ⟨e, he⟩ := hlive
    rcases ht : nonEmpty token with _ | t
    · have hrefused : verifyToken py minted now exp token = .ok false := by
        unfold verifyToken
        rw [ht]
        split <;> simp_all
      have hgrants : ¬ Grants py minted now exp token := by
        rintro ⟨e', -, rfl⟩
        rw [nonEmpty_of_ne (hne e')] at ht
        cases ht
      refine iff_of_true ⟨false, hrefused, iff_of_false nofun hgrants⟩ ?_
      unfold Comparable
      rw [ht]
      exact nofun
    · have hrun : verifyToken py minted now exp token = compareDigest t (minted e) :=
        verifyToken_live he ht
      have hgrants : Grants py minted now exp token ↔ t = minted e := by
        rw [eq_some_of_nonEmpty ht]
        constructor
        · rintro ⟨e', he', htoken⟩
          rw [Option.some.inj htoken, he'.unique he]
        · rintro rfl
          exact ⟨e, he, rfl⟩
      have hcomparable : Comparable py now exp token ↔ isAscii t = true := by
        unfold Comparable
        rw [ht]
        constructor
        · intro h
          exact (h t rfl).resolve_right fun hnone => hnone e he
        · rintro h t' ⟨⟩
          exact Or.inl h
      rw [hrun, hgrants, hcomparable, compareDigest, hascii e, Bool.and_true]
      split_ifs with hcompare
      · exact iff_of_true ⟨_, rfl, decide_eq_true_iff⟩ hcompare
      · exact iff_of_false (fun h => nomatch h.choose_spec.1) hcompare
  · rw [not_exists] at hlive
    refine iff_of_true ⟨false, verifyToken_expired hlive, iff_of_false nofun ?_⟩
      fun t _ => Or.inr hlive
    rintro ⟨e, he, -⟩
    exact hlive e he

end Checks

/-! ## Exactness -/

variable {py mac} {now : ℤ} {scope binaryId : String} {exp token : Option String}

/-- **The queries for which the checks are exact** are those whose token is ASCII, or which have no
expiry in the future. -/
theorem tokensExact_iff (hid : isUuid binaryId = true) :
    TokensExact py mac now scope binaryId exp token ↔ Comparable py now exp token := by
  have hscope : (∃ b, verifyScope py mac now scope exp token = .ok b ∧
      (b = true ↔ Grants py (scopeMac mac scope) now exp token)) ↔ Comparable py now exp token :=
    verifyToken_exact_iff (fun _ => mac.hex_ascii _) fun _ => mac.hex_ne _
  have hdownload : (∃ b, verifyDownload py mac now binaryId exp token = .ok b ∧
      (b = true ↔ Grants py (downloadMac mac binaryId) now exp token)) ↔
        Comparable py now exp token :=
    verifyToken_exact_iff (fun _ => mac.hex_ascii _) fun _ => mac.hex_ne _
  constructor
  · intro h
    exact hscope.mp h.scopeExact
  · intro h
    refine ⟨hscope.mpr h, hdownload.mpr h, ?_, ?_, ?_, ?_⟩
    · rintro scope' e rfl haccepted
      obtain ⟨e', he', htoken⟩ := grants_of_accepted haccepted
      obtain ⟨rfl, rfl⟩ := scopeMac_inj.mp (Option.some.inj htoken)
      exact ⟨rfl, he'⟩
    · rintro binaryId' e rfl haccepted
      obtain ⟨e', he', htoken⟩ := grants_of_accepted haccepted
      obtain ⟨rfl, rfl⟩ := downloadMac_inj.mp (Option.some.inj htoken)
      exact ⟨rfl, he'⟩
    · rintro defaultTtl now' binaryId' ttl hid' rfl haccepted
      obtain ⟨e', -, htoken⟩ := grants_of_accepted haccepted
      exact downloadMac_ne_scopeMac hid' (Option.some.inj htoken)
    · rintro now' scope' ttl rfl haccepted
      obtain ⟨e', -, htoken⟩ := grants_of_accepted haccepted
      exact downloadMac_ne_scopeMac hid (Option.some.inj htoken).symm

end Tokens

/-! ## A deployment -/

namespace Demo

/-- The identifier of a host, and the message its install token is the digest of. -/
def installMessage : String := "scope:host-install:3f0c1a52-7d4e-4b8a-9c6f-2e5d8b7a1f04.1790000000"

/-- Its digest under the default secret. -/
def installDigest : String := "a483e13f0d0bbeb3fb960e567c8ec3802bf9698c4f07523752ac9f690dcdcbc9"

/-- The code points of a text, each in six digits, after an `x`. -/
def spellOut (message : String) : String :=
  String.ofList ('x' :: message.toList.flatMap fun c => Digits.write 16 6 c.toNat)

/-- The digests of the other messages are left to be told apart. -/
def hexOf (message : String) : String :=
  if message = installMessage then installDigest else spellOut message

/-- Spelling out loses nothing. -/
lemma spellOut_injective : Function.Injective spellOut := by
  intro a b h
  have hcode : ∀ c : Char, c.toNat < 16 ^ 6 := by
    intro c
    have hvalid : c.toNat.isValidChar := c.valid
    unfold Nat.isValidChar at hvalid
    omega
  have hchars : ∀ l l' : List Char, (l.flatMap fun c => Digits.write 16 6 c.toNat) =
      (l'.flatMap fun c => Digits.write 16 6 c.toNat) → l = l' := by
    intro l
    induction l with
    | nil =>
      rintro (_ | ⟨c, l'⟩) h
      · rfl
      · have hlength := congrArg List.length h
        rw [List.flatMap_cons, List.length_append, Digits.length_write] at hlength
        rw [List.flatMap_nil, List.length_nil] at hlength
        omega
    | cons c l ih =>
      rintro (_ | ⟨c', l'⟩) h
      · exact absurd (congrArg List.length h) (by simp)
      · rw [List.flatMap_cons, List.flatMap_cons] at h
        obtain ⟨hc, hl⟩ := List.append_inj h (by simp)
        have hnat : c.toNat = c'.toNat := by
          have hread := congrArg (Digits.read 16) hc
          rw [Digits.read_write (by decide) (by decide) (hcode c),
            Digits.read_write (by decide) (by decide) (hcode c')] at hread
          exact Option.some.inj hread
        rw [Char.toNat_inj.mp hnat, ih l' hl]
  refine String.toList_inj.mp (hchars _ _ ?_)
  exact (List.cons.inj (String.ofList_injective h)).2

/-- No message spells out the digest. -/
lemma spellOut_ne_digest (message : String) : spellOut message ≠ installDigest := by
  intro h
  have hhead := congrArg (fun s : String => s.toList.head?) h
  rw [spellOut] at hhead
  simp only [String.toList_ofList, List.head?_cons] at hhead
  exact absurd hhead (by decide)

/-- What is spelt out is ASCII. -/
lemma spellOut_ascii (message : String) : isAscii (spellOut message) = true := by
  rw [isAscii, spellOut, String.toList_ofList, List.all_eq_true]
  intro c hc
  rcases List.mem_cons.mp hc with rfl | hc
  · decide
  · obtain ⟨c', -, hc⟩ := List.mem_flatMap.mp hc
    obtain ⟨d, hd, rfl⟩ := Digits.mem_write (by decide) hc
    have hdigits : ∀ d < 16, (Nat.digitChar d).toNat < 128 := by decide
    exact decide_eq_true (hdigits d hd)

/-- The digest of a deployment with the default secret. -/
def mac : Mac where
  hex := hexOf
  injective a b h := by
    unfold hexOf at h
    split_ifs at h with ha hb hb
    · rw [ha, hb]
    · exact absurd h.symm (spellOut_ne_digest b)
    · exact absurd h (spellOut_ne_digest a)
    · exact spellOut_injective h
  hex_ascii message := by
    unfold hexOf
    split_ifs
    · decide +kernel
    · exact spellOut_ascii message
  hex_ne message h := by
    unfold hexOf at h
    split_ifs at h
    · exact absurd h (by decide)
    · exact absurd (congrArg String.toList h) (by simp [spellOut])

/-- A standard library that reads one number. -/
def clockPy : PyStd where
  isSpace c := c.isWhitespace
  upper s := String.ofList (s.toList.map Char.toUpper)
  repr _ := "[]"
  parseFloat _ := none
  parseInt s := if s = "1790000000" then some 1790000000 else none
  fromisoformat _ := none
  isoformat _ := "1970-01-01T00:00:00+00:00"
  b64decode _ := none

end Demo

/-- An hour's install token of a host, checked after a minute. -/
theorem tokensExact_install :
    TokensExact Demo.clockPy Demo.mac 1789996460 "host-install:3f0c1a52-7d4e-4b8a-9c6f-2e5d8b7a1f04"
      "9b1d6c3e-52f0-4a7b-8e21-c04d7f9a3b55" (some "1790000000") (some Demo.installDigest) := by
  refine (tokensExact_iff (by decide +kernel)).mpr fun t ht => Or.inl ?_
  rw [Option.mem_def, nonEmpty_of_ne (by decide), Option.some.injEq] at ht
  rw [← ht]
  decide +kernel

/-- A token that is not ASCII makes the comparison raise. -/
theorem tokensExact_counterexample :
    ¬ ∀ (py : PyStd) (mac : Mac) (now : ℤ) (scope binaryId : String) (exp token : Option String),
      isUuid binaryId = true → TokensExact py mac now scope binaryId exp token := by
  intro h
  obtain ⟨b, hrun, -⟩ := (h Demo.clockPy Demo.mac 1789996460
    "host-install:3f0c1a52-7d4e-4b8a-9c6f-2e5d8b7a1f04" "9b1d6c3e-52f0-4a7b-8e21-c04d7f9a3b55"
    (some "1790000000") (some "é") (by decide +kernel)).scopeExact
  have hparse : Demo.clockPy.parseInt "1790000000" = some 1790000000 := by
    simp [Demo.clockPy]
  have hlive : ExpiresAt Demo.clockPy 1789996460 (some "1790000000") 1790000000 :=
    ⟨"1790000000", nonEmpty_of_ne (by decide), hparse, by decide⟩
  rw [verifyScope, verifyToken_live hlive (nonEmpty_of_ne (by decide)), compareDigest] at hrun
  have hascii : isAscii "é" = false := by decide
  rw [hascii] at hrun
  cases hrun

end OpenVCenter
