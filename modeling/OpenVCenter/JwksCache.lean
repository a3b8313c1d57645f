import OpenVCenter.Foundations.Machine
import OpenVCenter.Foundations.Window
import OpenVCenter.Python

set_option relaxedAutoImplicit false
set_option autoImplicit false

/-!
# The cache of signing keys

`_get_jwks` and `_verify_oidc` of `api/deps.py`. A call reads the cache, and where that is too old
awaits a download; other requests run meanwhile. The clock is read before the download and stored
after it.

## Main definitions

* `OpenVCenter.JwksCache` — the cache, and the downloads that have started.
* `OpenVCenter.JwksCache.step` — a request, the answer to a download, its failure, or time.
* `OpenVCenter.JwksCache.Recorded` — the step starts no download that an earlier one would have made
  unnecessary, had the cache recorded it.

## Main results

* `OpenVCenter.JwksCache.step_eq` — what a step does, by what it starts from.
* `OpenVCenter.jwks_atMostOne_iff` — **no two downloads start within a minute** in a run exactly when
  every step of it is recorded.
-/

namespace OpenVCenter

/-! ## The cache -/

/-- A signing key. -/
structure Jwk where
  keyId : Option String

/-- A JWKS document by its usable keys. -/
abbrev Jwks := List Jwk

/-- `_find_key`. JSON `null` has no keys to look through, and a document without a usable key is
refused by `PyJWKSet`. -/
def findKey (jwks : Option Jwks) (kid : Option String) : Except Unit (Option Jwk) :=
  match jwks, kid with
  | none, _ => .error ()
  | some [], _ => .error ()
  | some [key], none => .ok (some key)
  | some _, none => .ok none
  | some keys, some kid => .ok (keys.find? fun k => decide (k.keyId = some kid))

/-- What has become of a download. `null` is an answer of JSON `null`, which empties the cache. What a
download has stored counts as overwritten once the answer to an older one, or `null`, is stored. -/
inductive Stage where
  | inFlight | failed | null | stored | overwritten
  deriving DecidableEq

/-- A download: the key its request looks for, whether the refresh was forced, the clock before it,
and whether a document had been cached by then. -/
structure Download where
  kid : Option String
  force : Bool
  start : Time
  cached : Bool
  stage : Stage := .inFlight

/-- When a download has started, and whether a document had been cached by then. -/
def Download.times (d : Download) : Time × Bool := (d.start, d.cached)

/-- `_jwks_cache`, with the monotonic clock, and the downloads in the order in which they started.
`everCached` says whether a document has ever been cached. -/
structure JwksCache where
  clock : Time
  storedAt : Time := 0
  doc : Option Jwks := none
  everCached : Bool := false
  downloads : List Download := []

/-- What can happen. A download is named by its place in the order of the starts; the answer to it
is none when it is JSON `null`, which Python reads as `None`. -/
inductive JwksEvent where
  | tick (elapsed : ℕ)
  | request (kid : Option String)
  | respond (i : ℕ) (doc : Option Jwks)
  | fail (i : ℕ)

/-- `_JWKS_MIN_REFRESH_SECONDS`. -/
def jwksMinRefreshSeconds : ℤ := 60

namespace JwksCache

variable (ttlSeconds : ℤ)

/-- How long a document is good for. -/
def ttl (force : Bool) : ℤ := if force then jwksMinRefreshSeconds else ttlSeconds

/-- A document is cached, and young enough. -/
def fresh (force : Bool) (s : JwksCache) : Bool :=
  s.doc.isSome && decide (s.clock - s.storedAt < seconds (ttl ttlSeconds force))

/-- A download starts. -/
def download (force : Bool) (kid : Option String) (s : JwksCache) : JwksCache :=
  { s with downloads := s.downloads ++
      [{ kid, force, start := s.clock, cached := s.everCached }] }

/-- `_get_jwks`, up to its `await`: the cached document, or none when a download has started. -/
def getJwks (force : Bool) (kid : Option String) (s : JwksCache) : Option Jwks × JwksCache :=
  if fresh ttlSeconds force s then (s.doc, s) else (none, s.download force kid)

/-- The rest of `_verify_oidc`, once `_get_jwks` has returned without `force`. -/
def findOrRefresh (doc : Option Jwks) (kid : Option String) (s : JwksCache) : JwksCache :=
  match findKey doc kid with
  | .ok none => (getJwks ttlSeconds true kid s).2
  | _ => s

/-- `_verify_oidc`, up to its first `await`. -/
def verifyOidc (kid : Option String) (s : JwksCache) : JwksCache :=
  match getJwks ttlSeconds false kid s with
  | (some doc, s) => findOrRefresh ttlSeconds (some doc) kid s
  | (none, s) => s

/-- The answer to the download `d`, the `i`-th, is stored, with the clock from before it. -/
def store (i : ℕ) (d : Download) (doc : Option Jwks) (s : JwksCache) : JwksCache :=
  { s with
    doc := doc
    storedAt := d.start
    everCached := s.everCached || doc.isSome
    downloads := (s.downloads.map fun e =>
      if e.stage = .stored ∧ (doc = none ∨ d.start < e.start) then { e with stage := .overwritten }
      else e).set i { d with stage := if doc.isSome then .stored else .null } }

/-- One step: what runs until the next `await`. -/
def step (s : JwksCache) : JwksEvent → JwksCache
  | .tick elapsed => { s with clock := s.clock + elapsed }
  | .request kid => verifyOidc ttlSeconds kid s
  | .respond i doc =>
    match s.downloads[i]? with
    | some d =>
      if d.stage = .inFlight then
        if d.force then s.store i d doc
        else findOrRefresh ttlSeconds doc d.kid (s.store i d doc)
      else s
    | none => s
  | .fail i =>
    match s.downloads[i]? with
    | some d =>
      if d.stage = .inFlight then
        { s with downloads := s.downloads.set i { d with stage := .failed } }
      else s
    | none => s

/-! ## What starts a download -/

/-- The document has no such key, and is not refused. -/
def lacks (doc : Option Jwks) (kid : Option String) : Bool :=
  match findKey doc kid with
  | .ok none => true
  | _ => false

/-- The state that a step asks for the document in: an answer is stored by then. -/
def settled (s : JwksCache) : JwksEvent → JwksCache
  | .tick elapsed => { s with clock := s.clock + elapsed }
  | .request _ => s
  | .respond i doc =>
    match s.downloads[i]? with
    | some d => if d.stage = .inFlight then s.store i d doc else s
    | none => s
  | .fail i =>
    match s.downloads[i]? with
    | some d =>
      if d.stage = .inFlight then
        { s with downloads := s.downloads.set i { d with stage := .failed } }
      else s
    | none => s

/-- The step finds the document too old: the plain call of a request, or the forced one that follows
when the document lacks the key. -/
def starts (s : JwksCache) : JwksEvent → Bool
  | .request kid => !fresh ttlSeconds false s ||
      lacks s.doc kid && !fresh ttlSeconds true s
  | .respond i doc => s.downloads[i]?.any fun d => decide (d.stage = .inFlight) && !d.force &&
      lacks doc d.kid && !fresh ttlSeconds true (s.store i d doc)
  | _ => false

/-- The instants at which downloads have started once a document had been cached. -/
def cachedStarts (s : JwksCache) : List Time :=
  (s.downloads.filter fun d => d.cached).map Download.start

/-- **The step is recorded**: when it starts a download once a document has been cached, none of those
that started so in the last minute is still in flight, has failed, was answered by `null`, or has
been overwritten by `null` or by the answer to an older one. -/
def Recorded (s : JwksCache) (e : JwksEvent) : Prop :=
  starts ttlSeconds s e = true → (s.settled e).everCached = true →
    ∀ d ∈ (s.settled e).downloads, d.cached = true →
      (s.settled e).clock < d.start + seconds jwksMinRefreshSeconds → d.stage = .stored

/-- Whether a step meets the condition can be decided. -/
instance (s : JwksCache) (e : JwksEvent) : Decidable (Recorded ttlSeconds s e) :=
  inferInstanceAs (Decidable (_ → _ → ∀ d ∈ (s.settled e).downloads, _ → _ → _))

section Steps

variable {ttlSeconds} {s : JwksCache} {e : JwksEvent} {force : Bool} {kid : Option String}
  {doc : Option Jwks}

/-- A state, or the state after a download has started in it. -/
def startIf (starts force : Bool) (kid : Option String) (s : JwksCache) : JwksCache :=
  if starts then s.download force kid else s

/-- A look up downloads once more for a key that is lacking in a document that is not fresh. -/
lemma findOrRefresh_eq (doc : Option Jwks) (kid : Option String) (s : JwksCache) :
    findOrRefresh ttlSeconds doc kid s =
      s.startIf (lacks doc kid && !fresh ttlSeconds true s) true kid := by
  unfold findOrRefresh lacks startIf getJwks
  rcases findKey doc kid with _ | _ | key
  · rfl
  · cases fresh ttlSeconds true s <;> rfl
  · rfl

variable (ttlSeconds) in
/-- **What a step does**: it settles, and then starts a download or none. -/
theorem step_eq (s : JwksCache) (e : JwksEvent) : ∃ force kid,
    step ttlSeconds s e = (s.settled e).startIf (starts ttlSeconds s e) force kid := by
  cases e with
  | tick elapsed => exact ⟨false, none, rfl⟩
  | request kid =>
    simp only [step, verifyOidc, getJwks, starts, settled]
    cases hfresh : fresh ttlSeconds false s with
    | false => exact ⟨false, kid, rfl⟩
    | true =>
      have hdoc : s.doc.isSome = true := by
        rw [fresh, Bool.and_eq_true] at hfresh
        exact hfresh.1
      obtain ⟨doc, hdoc⟩ := Option.isSome_iff_exists.mp hdoc
      refine ⟨true, kid, ?_⟩
      simp only [if_true, hdoc]
      exact findOrRefresh_eq doc kid s
  | respond i doc =>
    simp only [step, starts, settled]
    cases hd : s.downloads[i]? with
    | none => exact ⟨false, none, rfl⟩
    | some d =>
      refine ⟨true, d.kid, ?_⟩
      by_cases hstage : d.stage = .inFlight
      · cases hforce : d.force with
        | true => simp [hstage, hforce, startIf]
        | false => simp [hstage, hforce, findOrRefresh_eq]
      · simp [hstage, startIf]
  | fail i => exact ⟨false, none, rfl⟩

/-- A forced download of a cached document finds one that is old. -/
lemma fresh_eq_false (h : starts ttlSeconds s e = true) (httl : jwksMinRefreshSeconds ≤ ttlSeconds)
    (hdoc : (s.settled e).doc.isSome = true) :
    (s.settled e).storedAt + seconds jwksMinRefreshSeconds ≤ (s.settled e).clock := by
  have hold : ∀ (t : JwksCache) (force : Bool), t.doc.isSome = true →
      fresh ttlSeconds force t = false →
      t.storedAt + seconds jwksMinRefreshSeconds ≤ t.clock := by
    intro t force ht hfresh
    have hfloor : jwksMinRefreshSeconds ≤ ttl ttlSeconds force := by
      cases force with
      | true => exact le_rfl
      | false => exact httl
    simp only [fresh, ht, Bool.true_and, decide_eq_false_iff_not, not_lt] at hfresh
    unfold seconds at hfresh ⊢
    linarith
  cases e with
  | tick elapsed => cases h
  | request kid =>
    simp only [starts, Bool.or_eq_true, Bool.and_eq_true, Bool.not_eq_true'] at h
    rcases h with h | ⟨-, h⟩
    · exact hold s false hdoc h
    · exact hold s true hdoc h
  | respond i doc =>
    simp only [starts, settled] at h hdoc ⊢
    cases hd : s.downloads[i]? with
    | none =>
      rw [hd] at h
      cases h
    | some d =>
      rw [hd] at h
      simp only [Option.any_some, Bool.and_eq_true, decide_eq_true_eq, Bool.not_eq_true'] at h
      simp only [hd, h.1.1.1, if_true] at hdoc ⊢
      exact hold _ true hdoc h.2
  | fail i => cases h

end Steps

/-! ## Runs -/

section Runs

variable {ttlSeconds} {s t : JwksCache} {e : JwksEvent} {d : Download} {i : ℕ}

/-- The downloads have started in the order of their list, and what is recorded is a document no
older than what has been stored and not overwritten. -/
structure Ordered (s : JwksCache) : Prop where
  sorted : (s.downloads.map Download.start).Pairwise (· ≤ ·)
  started : ∀ d ∈ s.downloads, d.start ≤ s.clock
  recorded : ∀ d ∈ s.downloads, d.stage = .stored → d.start ≤ s.storedAt ∧ s.doc.isSome = true

/-- A stage changes no time. -/
lemma map_times_set {l : List Download} (h : l[i]? = some d) (stage : Stage) :
    (l.set i { d with stage := stage }).map Download.times = l.map Download.times := by
  have htimes : ({ d with stage := stage } : Download).times = d.times := rfl
  obtain ⟨hi, rfl⟩ := List.getElem?_eq_some_iff.mp h
  have hlength : i < (l.map Download.times).length := by rwa [List.length_map]
  rw [List.map_set, htimes, ← List.getElem_map Download.times (h := hlength)]
  exact List.set_getElem_self _

/-- The starts that count, from the times of the downloads. -/
lemma cachedStarts_eq (s : JwksCache) :
    s.cachedStarts = ((s.downloads.map Download.times).filter Prod.snd).map Prod.fst := by
  unfold cachedStarts
  rw [List.filter_map, List.map_map]
  rfl

/-- Stages are all that settling changes of the downloads. -/
lemma settled_times (s : JwksCache) (e : JwksEvent) :
    (s.settled e).downloads.map Download.times = s.downloads.map Download.times := by
  cases e with
  | tick elapsed => rfl
  | request kid => rfl
  | respond i doc =>
    simp only [settled]
    cases hd : s.downloads[i]? with
    | none => rfl
    | some d =>
      dsimp only
      split_ifs with hstage
      · have hkept : (s.downloads.map fun e =>
            if e.stage = .stored ∧ (doc = none ∨ d.start < e.start) then
              { e with stage := .overwritten }
            else e)[i]? = some d := by
          rw [List.getElem?_map, hd, Option.map_some, if_neg (by simp [hstage])]
        refine (map_times_set hkept (if doc.isSome then .stored else .null)).trans ?_
        rw [List.map_map]
        refine List.map_congr_left fun x _ => ?_
        simp only [Function.comp_apply]
        split_ifs <;> rfl
      · rfl
  | fail i =>
    simp only [settled]
    cases hd : s.downloads[i]? with
    | none => rfl
    | some d =>
      dsimp only
      split_ifs with hstage
      · exact map_times_set hd .failed
      · rfl

/-- A download goes on under its time. -/
lemma settled_mem {d : Download} (h : d ∈ (s.settled e).downloads) :
    ∃ c ∈ s.downloads, c.start = d.start ∧ c.cached = d.cached := by
  have hmem := List.mem_map_of_mem (f := Download.times) h
  rw [settled_times] at hmem
  obtain ⟨c, hc, heq⟩ := List.mem_map.mp hmem
  exact ⟨c, hc, congrArg Prod.fst heq, congrArg Prod.snd heq⟩

/-- The clock goes on. -/
lemma settled_clock (s : JwksCache) (e : JwksEvent) : s.clock ≤ (s.settled e).clock := by
  cases e with
  | tick elapsed =>
    exact le_add_of_nonneg_right (Int.natCast_nonneg elapsed)
  | request kid => exact le_rfl
  | respond i doc =>
    simp only [settled]
    split
    · split_ifs <;> exact le_rfl
    · exact le_rfl
  | fail i =>
    simp only [settled]
    split
    · split_ifs <;> exact le_rfl
    · exact le_rfl

/-- What is recorded stays so: an answer to an older download overwrites the newer ones, and `null`
all of them.

**Proof sketch.** By cases on the event; only an answer and a failure change the downloads. An
answer that is recorded overwrites those that started later, and `null` all, so the ones that stay
recorded are not newer than what is stored. -/
lemma settled_recorded (h : s.Ordered) (e : JwksEvent) :
    ∀ d ∈ (s.settled e).downloads, d.stage = .stored →
      d.start ≤ (s.settled e).storedAt ∧ (s.settled e).doc.isSome = true := by
  cases e with
  | tick elapsed => exact h.recorded
  | request kid => exact h.recorded
  | respond i doc =>
    simp only [settled]
    cases hd : s.downloads[i]? with
    | none => exact h.recorded
    | some c =>
      dsimp only
      split_ifs
      · intro d hdmem hstored
        show d.start ≤ c.start ∧ doc.isSome = true
        rcases List.mem_or_eq_of_mem_set hdmem with hmem | rfl
        · obtain ⟨x, hx, rfl⟩ := List.mem_map.mp hmem
          by_cases hover : x.stage = .stored ∧ (doc = none ∨ c.start < x.start)
          · rw [if_pos hover] at hstored
            cases hstored
          · rw [if_neg hover] at hstored ⊢
            refine ⟨not_lt.mp fun hlt => hover ⟨hstored, Or.inr hlt⟩, ?_⟩
            exact Option.isSome_iff_ne_none.mpr fun hnone => hover ⟨hstored, Or.inl hnone⟩
        · by_cases hdoc : doc.isSome = true
          · exact ⟨le_rfl, hdoc⟩
          · rw [if_neg hdoc] at hstored
            cases hstored
      · exact h.recorded
  | fail i =>
    simp only [settled]
    cases hd : s.downloads[i]? with
    | none => exact h.recorded
    | some c =>
      dsimp only
      split_ifs
      · intro d hdmem hstored
        rcases List.mem_or_eq_of_mem_set hdmem with hmem | rfl
        · exact h.recorded d hmem hstored
        · cases hstored
      · exact h.recorded

/-- The downloads stay in their order. -/
lemma Ordered.settled (h : s.Ordered) (e : JwksEvent) : (s.settled e).Ordered where
  sorted := by
    have hstart : ∀ t : JwksCache, t.downloads.map Download.start =
        (t.downloads.map Download.times).map Prod.fst := fun t => by
      rw [List.map_map]
      rfl
    rw [hstart, settled_times, ← hstart]
    exact h.sorted
  started d hd := by
    obtain ⟨c, hc, hstart, -⟩ := settled_mem hd
    rw [← hstart]
    exact (h.started c hc).trans (settled_clock s e)
  recorded := settled_recorded h e

/-- So they do with one more. -/
lemma Ordered.download (h : s.Ordered) (force : Bool) (kid : Option String) :
    (s.download force kid).Ordered where
  sorted := by
    show ((s.downloads ++ [_]).map Download.start).Pairwise (· ≤ ·)
    rw [List.map_append, List.pairwise_append]
    refine ⟨h.sorted, List.pairwise_singleton _ _, fun a ha b hb => ?_⟩
    obtain ⟨d, hd, rfl⟩ := List.mem_map.mp ha
    obtain rfl := List.mem_singleton.mp hb
    exact h.started d hd
  started d hd := by
    rcases List.mem_append.mp hd with hd | hd
    · exact h.started d hd
    · rw [List.mem_singleton.mp hd]
      exact le_rfl
  recorded d hd hstored := by
    rcases List.mem_append.mp hd with hd | hd
    · exact h.recorded d hd hstored
    · rw [List.mem_singleton.mp hd] at hstored
      cases hstored

/-- **The order is kept** by every step. -/
lemma Ordered.step (h : s.Ordered) (e : JwksEvent) : (s.step ttlSeconds e).Ordered := by
  obtain ⟨force, kid, hstep⟩ := step_eq ttlSeconds s e
  rw [hstep]
  unfold startIf
  split_ifs
  · exact (h.settled e).download force kid
  · exact h.settled e

/-- Any two downloads that start with a document cached are a minute apart. -/
def Spaced (s : JwksCache) : Prop :=
  s.cachedStarts.Pairwise fun a b => a + seconds jwksMinRefreshSeconds ≤ b

/-- Settling an answer starts nothing. -/
lemma spaced_settled (s : JwksCache) (e : JwksEvent) : (s.settled e).Spaced ↔ s.Spaced := by
  unfold Spaced
  rw [cachedStarts_eq, settled_times, ← cachedStarts_eq]

/-- One more download keeps the distance when it is a minute behind all that started before it. -/
lemma spaced_download (force : Bool) (kid : Option String) : (s.download force kid).Spaced ↔
    s.Spaced ∧ (s.everCached = true → ∀ d ∈ s.downloads, d.cached = true →
      d.start + seconds jwksMinRefreshSeconds ≤ s.clock) := by
  unfold Spaced cachedStarts JwksCache.download
  rw [List.filter_append, List.map_append]
  cases hever : s.everCached with
  | false => simp
  | true =>
    show ((s.downloads.filter fun d => d.cached).map Download.start ++ [s.clock]).Pairwise _ ↔ _
    rw [List.pairwise_append]
    simp only [List.pairwise_singleton, List.mem_singleton, List.mem_map, List.mem_filter,
      true_and, forall_const]
    refine and_congr_right fun _ => ?_
    constructor
    · exact fun hnew d hd hcached => hnew _ ⟨d, ⟨hd, hcached⟩, rfl⟩ _ rfl
    · rintro hnew _ ⟨d, ⟨hd, hcached⟩, rfl⟩ _ rfl
      exact hnew d hd hcached

/-- **A step keeps the distance** exactly when it is recorded. -/
lemma spaced_step (httl : jwksMinRefreshSeconds ≤ ttlSeconds) (h : s.Ordered) (e : JwksEvent) :
    (s.step ttlSeconds e).Spaced ↔ s.Spaced ∧ s.Recorded ttlSeconds e := by
  obtain ⟨force, kid, hstep⟩ := step_eq ttlSeconds s e
  rw [hstep]
  unfold startIf Recorded
  cases hstarts : starts ttlSeconds s e with
  | false => simp [spaced_settled]
  | true =>
    rw [if_pos rfl, spaced_download, spaced_settled]
    refine and_congr_right fun _ => ?_
    constructor
    · intro hfar _ hever d hd hcached hnear
      exact absurd (hfar hever d hd hcached) (not_le.mpr hnear)
    · intro hrecorded hever d hd hcached
      by_contra hnear
      -- a stored download is recorded, so the document would have been young enough
      have hstored := hrecorded rfl hever d hd hcached (not_le.mp hnear)
      obtain ⟨hat, hdoc⟩ := (h.settled e).recorded d hd hstored
      have hold := fresh_eq_false hstarts httl hdoc
      linarith

/-- The worker starts with an empty cache. -/
lemma ordered_start (clock : Time) : ({ clock } : JwksCache).Ordered where
  sorted := List.Pairwise.nil
  started _ hd := absurd hd List.not_mem_nil
  recorded _ hd := absurd hd List.not_mem_nil

end Runs

end JwksCache

/-- **No two downloads start within a minute** once a document has been cached, in a run from an empty
cache, exactly when every step of the run is recorded. -/
theorem jwks_atMostOne_iff {ttlSeconds : ℤ} (httl : jwksMinRefreshSeconds ≤ ttlSeconds)
    (clock : Time) (es : List JwksEvent) :
    Window.AtMostOne id (seconds jwksMinRefreshSeconds)
        (Machine.run (JwksCache.step ttlSeconds) { clock } es).cachedStarts ↔
      Machine.AllSteps (JwksCache.step ttlSeconds) (JwksCache.Recorded ttlSeconds) { clock } es := by
  have hordered : (Machine.run (JwksCache.step ttlSeconds) { clock } es).Ordered :=
    Machine.run_invariant (fun s e h => h.step e) (JwksCache.ordered_start clock)
  have hsorted := (hordered.sorted.sublist
    ((List.filter_sublist (p := fun d => d.cached)).map Download.start))
  have hrun : (Machine.run (JwksCache.step ttlSeconds) { clock } es).Spaced ↔ _ :=
    Machine.run_iff_allSteps (fun s e h => JwksCache.Ordered.step h e)
      (fun s e h => JwksCache.spaced_step httl h e) (JwksCache.ordered_start clock)
  have hstart : ({ clock } : JwksCache).Spaced := List.Pairwise.nil
  have hwindow : Window.AtMostOne id (seconds jwksMinRefreshSeconds) _ ↔ _ :=
    Window.atMostOne_iff hsorted
  exact hwindow.trans (hrun.trans (and_iff_right hstart))

namespace Demo

/-- A document is cached; an unknown key starts a download after one minute, and again after two,
when the first has been answered. -/
def spaced : List JwksEvent :=
  [.request (some "k"), .respond 0 (some [⟨some "k"⟩]), .tick 60000000, .request (some "x"),
    .respond 1 (some [⟨some "k"⟩]), .tick 60000000, .request (some "y")]

/-- A document is cached; a minute later two requests with an unknown key overlap. -/
def overlapping : List JwksEvent :=
  [.request (some "k"), .respond 0 (some [⟨some "k"⟩]), .tick 60000000, .request (some "x"),
    .tick 1000000, .request (some "y")]

end Demo

/-- Two downloads a minute apart are one in each minute. -/
theorem jwks_atMostOne_iff_spaced :
    (Machine.run (JwksCache.step 3600) { clock := 0 } Demo.spaced).cachedStarts =
      [seconds 60, seconds 120] ∧
    Window.AtMostOne id (seconds jwksMinRefreshSeconds)
      (Machine.run (JwksCache.step 3600) { clock := 0 } Demo.spaced).cachedStarts :=
  ⟨by decide, (jwks_atMostOne_iff (by decide) 0 Demo.spaced).mpr (by decide)⟩

/-- Two requests that overlap start two downloads within a minute. -/
theorem jwks_atMostOne_counterexample :
    ¬ Window.AtMostOne id (seconds jwksMinRefreshSeconds)
      (Machine.run (JwksCache.step 3600) { clock := 0 } Demo.overlapping).cachedStarts := by
  intro h
  exact absurd (h (seconds 60)) (by decide)

end OpenVCenter
