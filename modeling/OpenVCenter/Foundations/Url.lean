import OpenVCenter.Foundations.IpAddress

set_option relaxedAutoImplicit false
set_option autoImplicit false

/-!
# Taking a URL apart

`urlsplit` of Python's `urllib.parse`: scheme, network location, path, query and fragment, and the
user, the password, the host and the port of the network location.

## Main definitions

* `Url.urlsplit` — the parts of a URL; none for a `ValueError`.
* `Url.SplitResult.username`, `Url.SplitResult.password`, `Url.SplitResult.hostname`,
  `Url.SplitResult.port` — the parts of the network location.

## Main results

* `Url.urlsplit_written` — a URL that is written from its parts is taken apart into them.
* `Url.userinfo_written`, `Url.hostinfo_written`, `Url.hostinfo_bracketed` — so is its network
  location.
-/

namespace Url

/-- What depends on the tables of Unicode. -/
structure Unicode where
  /-- `str.lower` -/
  lower : List Char → List Char
  /-- `unicodedata.normalize("NFKC", ..)` -/
  nfkc : List Char → List Char

/-- The parts of a URL. -/
structure SplitResult where
  scheme : List Char
  netloc : List Char
  path : List Char
  query : List Char
  fragment : List Char
deriving DecidableEq

/-- A character that a scheme may have. -/
def isSchemeChar (c : Char) : Bool := c.isAlphanum || c == '+' || c == '-' || c == '.'

/-- The text may stand as a scheme. -/
def isScheme (text : List Char) : Bool := text.head?.any Char.isAlpha && text.all isSchemeChar

/-- The end of a network location. -/
def isDelimiter (c : Char) : Bool := c == '/' || c == '?' || c == '#'

/-- `_check_bracketed_host`: a future version, or an address of version 6. -/
def checkBracketedHost (host : List Char) : Bool :=
  match host with
  | 'v' :: rest =>
    let version := rest.takeWhile fun c => (Digits.value 16 c).isSome
    match rest.dropWhile fun c => (Digits.value 16 c).isSome with
    | '.' :: _ :: _ => !version.isEmpty
    | _ => false
  | _ => IpAddress.isV6 host

/-- `_check_bracketed_netloc`. -/
def checkBracketedNetloc (netloc : List Char) : Bool :=
  match Partition.first '[' (Partition.last '@' netloc).2.2 with
  | (before, true, bracketed) =>
    let (host, _, port) := Partition.first ']' bracketed
    before.isEmpty && (port.isEmpty || decide (port.head? = some ':')) && checkBracketedHost host
  | (_, false, _) => checkBracketedHost (Partition.first ':' (Partition.last '@' netloc).2.2).1

/-- The brackets of a network location. -/
def checkBrackets (netloc : List Char) : Bool :=
  decide ('[' ∈ netloc ↔ ']' ∈ netloc) && (decide ('[' ∉ netloc) || checkBracketedNetloc netloc)

/-- `_checknetloc`: no character becomes a delimiter by the normal form. -/
def checkNetloc (u : Unicode) (netloc : List Char) : Bool :=
  let text := netloc.filter fun c => c != '@' && c != ':' && c != '#' && c != '?'
  (netloc.all fun c => decide (c.toNat < 128)) || decide (u.nfkc text = text) ||
    (u.nfkc text).all fun c => !isDelimiter c && c != '@' && c != ':'

/-- The scheme, and what stands behind it. -/
def splitScheme (u : Unicode) (url : List Char) : List Char × List Char :=
  match Partition.first ':' url with
  | (scheme, true, rest) => if isScheme scheme then (u.lower scheme, rest) else ([], url)
  | (_, false, _) => ([], url)

/-- The network location, and what stands behind it. -/
def splitNetloc (url : List Char) : List Char × List Char :=
  match url with
  | '/' :: '/' :: rest =>
    (rest.takeWhile fun c => !isDelimiter c, rest.dropWhile fun c => !isDelimiter c)
  | _ => ([], url)

/-- What is read of a URL: no control character or blank at the start, no tab or line break. -/
def cleaned (url : List Char) : List Char :=
  (url.dropWhile fun c => decide (c.toNat ≤ 32)).filter fun c => c != '\t' && c != '\r' && c != '\n'

/-- `urlsplit`; none for a `ValueError`. -/
def urlsplit (u : Unicode) (url : List Char) : Option SplitResult :=
  let (scheme, url) := splitScheme u (cleaned url)
  let (netloc, url) := splitNetloc url
  let (url, _, fragment) := Partition.first '#' url
  let (path, _, query) := Partition.first '?' url
  if checkBrackets netloc && checkNetloc u netloc then some ⟨scheme, netloc, path, query, fragment⟩
  else none

/-- `int(port)` of a port; none for a `ValueError`. -/
def readPort (text : List Char) : Option (Option ℕ) :=
  if text.isEmpty then some none
  else if text.all Char.isDigit && decide (text.length ≤ 4300) &&
      decide (Nat.ofDigitChars 10 text 0 ≤ 65535) then
    some (some (Nat.ofDigitChars 10 text 0))
  else none

/-- A host in lower case, but for a zone. -/
def lowerHost (u : Unicode) (host : List Char) : List Char :=
  match Partition.first '%' host with
  | (name, true, zone) => u.lower name ++ '%' :: zone
  | (name, false, _) => u.lower name

namespace SplitResult

variable (p : SplitResult)

/-- `_userinfo`: the user and the password. -/
def userinfo : Option (List Char) × Option (List Char) :=
  match Partition.last '@' p.netloc with
  | (info, true, _) =>
    match Partition.first ':' info with
    | (username, true, password) => (some username, some password)
    | (username, false, _) => (some username, none)
  | (_, false, _) => (none, none)

/-- `_hostinfo`: the host, and the text of the port. -/
def hostinfo : List Char × List Char :=
  match Partition.first '[' (Partition.last '@' p.netloc).2.2 with
  | (_, true, bracketed) =>
    let (host, _, port) := Partition.first ']' bracketed
    (host, (Partition.first ':' port).2.2)
  | (_, false, _) =>
    let (host, _, port) := Partition.first ':' (Partition.last '@' p.netloc).2.2
    (host, port)

/-- `SplitResult.username`. -/
def username : Option (List Char) := p.userinfo.1

/-- `SplitResult.password`. -/
def password : Option (List Char) := p.userinfo.2

/-- `SplitResult.hostname`. -/
def hostname (u : Unicode) : Option (List Char) :=
  if p.hostinfo.1.isEmpty then none else some (lowerHost u p.hostinfo.1)

/-- The port; none for a `ValueError`. -/
def port : Option (Option ℕ) := readPort p.hostinfo.2

end SplitResult

/-! ## Writing and reading -/

/-- A visible character of ASCII. -/
def visible (c : Char) : Bool := decide (32 < c.toNat) && decide (c.toNat < 127)

/-- A character that stands for itself in a network location. -/
def plain (c : Char) : Bool :=
  visible c && !isDelimiter c && c != '@' && c != '[' && c != ']'

variable {u : Unicode} {scheme netloc path rest text : List Char}

/-- A plain character delimits nothing. -/
lemma not_delimiter_of_plain {c : Char} (h : plain c = true) : isDelimiter c = false := by
  unfold plain at h
  simp only [Bool.and_eq_true, Bool.not_eq_true'] at h
  exact h.1.1.1.2

/-- It is visible. -/
lemma visible_of_plain {c : Char} (h : plain c = true) : visible c = true := by
  unfold plain at h
  simp only [Bool.and_eq_true] at h
  exact h.1.1.1.1

/-- A character that is not plain is in no plain text. -/
lemma not_mem_of_plain {c : Char} (hc : plain c = false) (h : ∀ d ∈ text, plain d = true) :
    c ∉ text := fun hmem => Bool.false_ne_true (hc.symm.trans (h c hmem))

/-- What holds of every character of ASCII. -/
lemma ascii_forall {P : Char → Prop} (h : ∀ n < 128, P (Char.ofNat n)) {c : Char}
    (hc : c.toNat < 128) : P c := by
  have hn := h c.toNat hc
  rwa [Char.ofNat_toNat] at hn

/-- Visible characters are ASCII. -/
lemma ascii_of_visible {c : Char} (h : visible c = true) : c.toNat < 128 := by
  unfold visible at h
  simp only [Bool.and_eq_true, decide_eq_true_eq] at h
  omega

/-- Those of a scheme are visible. -/
lemma visible_of_schemeChar {c : Char} (h : isSchemeChar c = true) : visible c = true := by
  unfold isSchemeChar at h
  simp only [Bool.or_eq_true, beq_iff_eq] at h
  rcases h with ((h | rfl) | rfl) | rfl
  · unfold visible Char.toNat
    delta Char.isAlphanum Char.isAlpha Char.isUpper Char.isLower Char.isDigit at h
    simp only [Bool.or_eq_true, Bool.and_eq_true, decide_eq_true_eq, UInt32.le_iff_toNat_le,
      ge_iff_le] at h ⊢
    have hbounds : 'A'.val.toNat = 65 ∧ 'Z'.val.toNat = 90 ∧ 'a'.val.toNat = 97 ∧
        'z'.val.toNat = 122 ∧ '0'.val.toNat = 48 ∧ '9'.val.toNat = 57 := by decide
    omega
  · decide
  · decide
  · decide

/-- A URL of visible characters is read as it is. -/
lemma cleaned_of_visible (h : ∀ c ∈ text, visible c = true) : cleaned text = text := by
  have hhead : text.dropWhile (fun c => decide (c.toNat ≤ 32)) = text := by
    cases text with
    | nil => rfl
    | cons c text =>
      have hc := h c List.mem_cons_self
      unfold visible at hc
      simp only [Bool.and_eq_true, decide_eq_true_eq] at hc
      exact List.dropWhile_cons_of_neg (by simpa using hc.1)
  have hblank : ∀ c : Char, visible c = true → (c != '\t' && c != '\r' && c != '\n') = true := by
    intro c hc
    by_contra hnot
    simp only [Bool.and_eq_true, bne_iff_ne, ne_eq, not_and_or, not_not] at hnot
    rcases hnot with (rfl | rfl) | rfl <;> exact absurd hc (by decide)
  unfold cleaned
  rw [hhead, List.filter_eq_self]
  exact fun c hc => hblank c (h c hc)

/-- A scheme and its colon are split off. -/
lemma splitScheme_written (h : isScheme scheme = true) :
    splitScheme u (scheme ++ ':' :: rest) = (u.lower scheme, rest) := by
  have hcolon : ':' ∉ scheme := by
    intro hmem
    unfold isScheme at h
    rw [Bool.and_eq_true] at h
    exact absurd (List.all_eq_true.mp h.2 _ hmem) (by decide)
  unfold splitScheme
  rw [Partition.first_append hcolon]
  exact if_pos h

/-- So is the authority behind two slashes. -/
lemma splitNetloc_written (hnetloc : ∀ c ∈ netloc, isDelimiter c = false)
    (hrest : ∀ c ∈ rest.head?, isDelimiter c = true) :
    splitNetloc ('/' :: '/' :: (netloc ++ rest)) = (netloc, rest) := by
  have hall : ∀ c ∈ netloc, (!isDelimiter c) = true := fun c hc => by rw [hnetloc c hc]; rfl
  unfold splitNetloc
  simp only
  rw [List.takeWhile_append_of_pos hall, List.dropWhile_append_of_pos hall]
  cases rest with
  | nil => simp
  | cons c rest =>
    have hc : (!isDelimiter c) = false := by rw [hrest c rfl]; rfl
    rw [List.takeWhile_cons, List.dropWhile_cons, hc]
    simp

/-- The path ends where the query or the fragment starts. -/
lemma path_written (hquery : '?' ∉ path) (hfragment : '#' ∉ path)
    (hrest : ∀ c ∈ rest.head?, c = '?' ∨ c = '#') :
    (Partition.first '?' (Partition.first '#' (path ++ rest)).1).1 = path := by
  cases rest with
  | nil => rw [List.append_nil, Partition.first_of_not_mem hfragment,
      Partition.first_of_not_mem hquery]
  | cons c rest =>
    rcases hrest c rfl with rfl | rfl
    · rw [Partition.first_fst_append hfragment, Partition.first_fst_cons (by decide),
        Partition.first_append hquery]
    · rw [Partition.first_append hfragment, Partition.first_of_not_mem hquery]

/-- **A URL that is written from its parts** is taken apart into them.

**Proof sketch.** Every character is visible, so nothing is stripped. The scheme ends at the first
colon, the netloc at the first delimiter behind it, and the path at the first question mark or
number sign. -/
theorem urlsplit_written (hscheme : isScheme scheme = true)
    (hnetloc : ∀ c ∈ netloc, visible c = true ∧ isDelimiter c = false)
    (hbrackets : checkBrackets netloc = true)
    (hpath : ∀ c ∈ path, visible c = true ∧ c ≠ '?' ∧ c ≠ '#') (hroot : ∀ c ∈ path.head?, c = '/')
    (hrest : ∀ c ∈ rest, visible c = true) (hmark : ∀ c ∈ rest.head?, c = '?' ∨ c = '#') :
    ∃ query fragment, urlsplit u (scheme ++ ':' :: '/' :: '/' :: (netloc ++ (path ++ rest))) =
      some ⟨u.lower scheme, netloc, path, query, fragment⟩ := by
  have hvisible : ∀ c ∈ scheme ++ ':' :: '/' :: '/' :: (netloc ++ (path ++ rest)),
      visible c = true := by
    unfold isScheme at hscheme
    rw [Bool.and_eq_true, List.all_eq_true] at hscheme
    intro c hc
    simp only [List.mem_append, List.mem_cons] at hc
    rcases hc with hc | rfl | rfl | rfl | hc | hc | hc
    · exact visible_of_schemeChar (hscheme.2 c hc)
    · decide
    · decide
    · decide
    · exact (hnetloc c hc).1
    · exact (hpath c hc).1
    · exact hrest c hc
  have hend : ∀ c ∈ (path ++ rest).head?, isDelimiter c = true := by
    cases path with
    | nil =>
      intro c hc
      rcases hmark c hc with rfl | rfl <;> rfl
    | cons d path =>
      intro c hc
      obtain rfl : d = c := Option.some.inj hc
      rw [hroot d rfl]
      rfl
  have hascii : checkNetloc u netloc = true := by
    have hall : (netloc.all fun c => decide (c.toNat < 128)) = true := by
      exact List.all_eq_true.mpr fun c hc => decide_eq_true (ascii_of_visible (hnetloc c hc).1)
    unfold checkNetloc
    simp only [hall, Bool.true_or]
  have hsplit := path_written (fun h => (hpath _ h).2.1 rfl) (fun h => (hpath _ h).2.2 rfl) hmark
  unfold urlsplit
  rw [cleaned_of_visible hvisible, splitScheme_written hscheme]
  simp only
  rw [splitNetloc_written (fun c hc => (hnetloc c hc).2) hend]
  simp only [hbrackets, hascii, hsplit]
  exact ⟨_, _, rfl⟩

/-- **The user and the password** of a network location. -/
theorem userinfo_written {p : SplitResult} {username password hostinfo : List Char}
    (hnetloc : p.netloc = username ++ ':' :: password ++ '@' :: hostinfo) (huser : ':' ∉ username)
    (hhost : '@' ∉ hostinfo) : p.username = some username ∧ p.password = some password := by
  unfold SplitResult.username SplitResult.password SplitResult.userinfo
  rw [hnetloc, Partition.last_append hhost]
  simp only
  rw [Partition.first_append huser]
  exact ⟨rfl, rfl⟩

/-- The user information in front of a host. -/
def infoText (info : Option (List Char)) : List Char := info.elim [] fun info => info ++ ['@']

/-- The port behind a host. -/
def portText (port : Option (List Char)) : List Char := port.elim [] fun digits => ':' :: digits

/-- What stands behind the user information. -/
lemma last_written {info : Option (List Char)} {hostinfo : List Char} (hhost : '@' ∉ hostinfo) :
    (Partition.last '@' (infoText info ++ hostinfo)).2.2 = hostinfo := by
  unfold infoText
  cases info with
  | none => rw [Option.elim_none, List.nil_append, Partition.last_of_not_mem hhost]
  | some info =>
    rw [Option.elim_some, List.append_assoc, List.singleton_append, Partition.last_append hhost]

/-- A host and its port are parted at the colon. -/
lemma first_portText (port : Option (List Char)) {host : List Char} (hhost : ':' ∉ host) :
    (Partition.first ':' (host ++ portText port)).1 = host ∧
      (Partition.first ':' (host ++ portText port)).2.2 = port.getD [] := by
  unfold portText
  cases port with
  | none =>
    rw [Option.elim_none, List.append_nil, Partition.first_of_not_mem hhost]
    exact ⟨rfl, rfl⟩
  | some digits =>
    rw [Option.elim_some, Partition.first_append hhost]
    exact ⟨rfl, rfl⟩

/-- A port has no character of the set. -/
lemma not_mem_portText {port : Option (List Char)} {c : Char} (hc : c ≠ ':')
    (h : ∀ digits ∈ port, c ∉ digits) : c ∉ portText port := by
  unfold portText
  cases port with
  | none => exact List.not_mem_nil
  | some digits => simpa [hc] using h digits rfl

/-- **The host and the port** of a network location whose host is no literal. -/
theorem hostinfo_written {p : SplitResult} {info port : Option (List Char)} {host : List Char}
    (hnetloc : p.netloc = infoText info ++ (host ++ portText port))
    (hhost : '@' ∉ host ∧ '[' ∉ host ∧ ':' ∉ host)
    (hport : ∀ digits ∈ port, '@' ∉ digits ∧ '[' ∉ digits) :
    p.hostinfo = (host, port.getD []) := by
  have hat : '@' ∉ host ++ portText port := by
    rw [List.mem_append, not_or]
    exact ⟨hhost.1, not_mem_portText (by decide) fun digits hd => (hport digits hd).1⟩
  have hbracket : '[' ∉ host ++ portText port := by
    rw [List.mem_append, not_or]
    exact ⟨hhost.2.1, not_mem_portText (by decide) fun digits hd => (hport digits hd).2⟩
  obtain ⟨hname, hrest⟩ := first_portText port hhost.2.2
  unfold SplitResult.hostinfo
  rw [hnetloc, last_written hat, Partition.first_of_not_mem hbracket]
  simp only
  rw [hname, hrest]

/-- **The host and the port** of a network location whose host is a literal. -/
theorem hostinfo_bracketed {p : SplitResult} {info port : Option (List Char)} {address : List Char}
    (hnetloc : p.netloc = infoText info ++ ('[' :: address ++ ']' :: portText port))
    (haddress : '@' ∉ address ∧ ']' ∉ address) (hport : ∀ digits ∈ port, '@' ∉ digits) :
    p.hostinfo = (address, port.getD []) := by
  have hat : '@' ∉ '[' :: address ++ ']' :: portText port := by
    have hnot := not_mem_portText (c := '@') (by decide) hport
    simp [haddress.1, hnot]
  unfold SplitResult.hostinfo
  rw [hnetloc, last_written hat]
  rw [List.cons_append, Partition.first_cons_self]
  simp only
  rw [Partition.first_append haddress.2]
  have hrest : (Partition.first ':' ([] ++ portText port)).2.2 = port.getD [] :=
    (first_portText port List.not_mem_nil).2
  rw [List.nil_append] at hrest
  simp only [hrest]

/-- Without a bracket, the host that is read has no colon. -/
theorem colon_not_mem_hostinfo {p : SplitResult}
    (h : '[' ∉ (Partition.last '@' p.netloc).2.2) : ':' ∉ p.hostinfo.1 := by
  unfold SplitResult.hostinfo
  rw [Partition.first_of_not_mem h]
  exact Partition.not_mem_first _ _

/-- **A port that is written in decimal** is read back. -/
theorem readPort_written {n : ℕ} (h : n ≤ 65535) : readPort (Nat.toDigits 10 n) = some (some n) := by
  have hdigits : (Nat.toDigits 10 n).all Char.isDigit = true :=
    List.all_eq_true.mpr fun c hc => Nat.isDigit_of_mem_toDigits (by decide) (by decide) hc
  have hlength : (Nat.toDigits 10 n).length ≤ 5 :=
    (Nat.length_toDigits_le_iff (by decide) (by decide)).mpr (by omega)
  have hne : (Nat.toDigits 10 n).isEmpty = false := by simp
  unfold readPort
  rw [hne, hdigits, Nat.ofDigitChars_ten_toDigits, decide_eq_true (by omega : _ ≤ 4300),
    decide_eq_true h]
  rfl

/-- The digits of a port. -/
lemma isDigit_of_readPort {text : List Char} (h : (readPort text).isSome = true) :
    ∀ c ∈ text, c.isDigit = true := by
  intro c hc
  unfold readPort at h
  split_ifs at h with hempty hdigits
  · rw [List.isEmpty_iff.mp hempty] at hc
    cases hc
  · simp only [Bool.and_eq_true] at hdigits
    exact List.all_eq_true.mp hdigits.1.1 c hc
  · cases h

/-- The value of a port. -/
lemma le_of_readPort {text : List Char} {n : ℕ} (h : readPort text = some (some n)) : n ≤ 65535 := by
  unfold readPort at h
  split_ifs at h with hempty hdigits
  · cases h
  · simp only [Bool.and_eq_true, decide_eq_true_eq] at hdigits
    cases h
    exact hdigits.2

/-! ## Lower case -/

/-- `str.lower` of a text of ASCII characters. -/
def Unicode.LowersAscii (u : Unicode) : Prop :=
  ∀ text : List Char, (∀ c ∈ text, c.toNat < 128) → u.lower text = text.map Char.toLower

/-- What lowering an ASCII character keeps. -/
lemma toLower_ascii {c : Char} (h : c.toNat < 128) :
    c.toLower.toNat < 128 ∧ c.toLower.toLower = c.toLower ∧ (c.isAlpha → c.toLower.isAlpha) ∧
      (isSchemeChar c → isSchemeChar c.toLower) ∧ (plain c → plain c.toLower) ∧
      (c.toLower = ':' → c = ':') ∧ (c.toLower = '%' → c = '%') :=
  ascii_forall (P := fun c => c.toLower.toNat < 128 ∧ c.toLower.toLower = c.toLower ∧
    (c.isAlpha → c.toLower.isAlpha) ∧ (isSchemeChar c → isSchemeChar c.toLower) ∧
    (plain c → plain c.toLower) ∧ (c.toLower = ':' → c = ':') ∧ (c.toLower = '%' → c = '%'))
    (by decide +kernel) h

/-- Lower case stays as it is. -/
lemma lower_lower (hu : u.LowersAscii) (h : ∀ c ∈ text, c.toNat < 128) :
    u.lower (u.lower text) = u.lower text := by
  rw [hu text h, hu _ fun c hc => ?_, List.map_map, List.map_inj_left]
  · exact fun c hc => (toLower_ascii (h c hc)).2.1
  · obtain ⟨d, hd, rfl⟩ := List.mem_map.mp hc
    exact (toLower_ascii (h d hd)).1

/-- A host without a zone. -/
lemma lowerHost_of_not_mem (h : '%' ∉ text) : lowerHost u text = u.lower text := by
  unfold lowerHost
  rw [Partition.first_of_not_mem h]

/-- **The characters of a host in lower case.** -/
theorem mem_lowerHost (hu : u.LowersAscii) (h : ∀ c ∈ text, c.toNat < 128) {c : Char}
    (hc : c ∈ lowerHost u text) : ∃ d ∈ text, c = d ∨ c = d.toLower := by
  have hname : ∀ c ∈ u.lower (Partition.first '%' text).1, ∃ d ∈ text, c = d.toLower := by
    intro c hc
    rw [hu _ fun d hd => h d (Partition.mem_of_mem_first hd)] at hc
    obtain ⟨d, hd, rfl⟩ := List.mem_map.mp hc
    exact ⟨d, Partition.mem_of_mem_first hd, rfl⟩
  by_cases hzone : '%' ∈ text
  · have htext := Partition.eq_of_mem hzone
    rw [htext] at hc
    unfold lowerHost at hc
    rw [Partition.first_append (Partition.not_mem_first _ _)] at hc
    rcases List.mem_append.mp hc with hc | hc
    · obtain ⟨d, hd, heq⟩ := hname c hc
      exact ⟨d, hd, Or.inr heq⟩
    · refine ⟨c, ?_, Or.inl rfl⟩
      rw [htext]
      exact List.mem_append_right _ hc
  · rw [lowerHost_of_not_mem hzone] at hc
    rw [Partition.first_of_not_mem hzone] at hname
    obtain ⟨d, hd, heq⟩ := hname c hc
    exact ⟨d, hd, Or.inr heq⟩

/-- A colon stays in a host in lower case. -/
theorem colon_mem_lowerHost (hu : u.LowersAscii) (h : ∀ c ∈ text, c.toNat < 128)
    (hcolon : ':' ∈ text) : ':' ∈ lowerHost u text := by
  have hlower : ∀ name : List Char, (∀ c ∈ name, c.toNat < 128) → ':' ∈ name → ':' ∈ u.lower name :=
    fun name hname hmem => by
      rw [hu name hname]
      exact List.mem_map.mpr ⟨':', hmem, rfl⟩
  by_cases hzone : '%' ∈ text
  · rw [Partition.eq_of_mem hzone] at hcolon
    rw [Partition.eq_of_mem hzone]
    unfold lowerHost
    rw [Partition.first_append (Partition.not_mem_first _ _)]
    rcases List.mem_append.mp hcolon with hmem | hmem
    · exact List.mem_append_left _
        (hlower _ (fun c hc => h c (Partition.mem_of_mem_first hc)) hmem)
    · exact List.mem_append_right _ hmem
  · rw [lowerHost_of_not_mem hzone]
    exact hlower text h hcolon

/-- The lower case of a scheme is a scheme. -/
lemma isScheme_lower (hu : u.LowersAscii) (h : isScheme text = true) :
    isScheme (u.lower text) = true := by
  unfold isScheme at h
  rw [Bool.and_eq_true, List.all_eq_true] at h
  have hascii : ∀ c ∈ text, c.toNat < 128 := fun c hc =>
    ascii_of_visible (visible_of_schemeChar (h.2 c hc))
  unfold isScheme
  rw [hu text hascii, Bool.and_eq_true, List.all_eq_true]
  refine ⟨?_, fun c hc => ?_⟩
  · cases text with
    | nil => exact h.1
    | cons c text => exact (toLower_ascii (hascii c List.mem_cons_self)).2.2.1 h.1
  · obtain ⟨d, hd, rfl⟩ := List.mem_map.mp hc
    exact (toLower_ascii (hascii d hd)).2.2.2.1 (h.2 d hd)

end Url
