import RitspLtv.Ltv.CrlCache
import RitspLtv.Ltv.Urls
import RitspLtv.Reference
import Mathlib.Logic.Relation

/-!
# Fetching CRLs

A fetch looks the URL up in the cache, downloads the CRL when there is no
current one, and keeps what it has downloaded.  The cache is shared by all
clones of a client, which may have different settings; a fetch holds its lock
while it looks up and while it stores, and not while it downloads.  So the cache
goes through the steps of many fetches in any order, and what is stored may have
been downloaded long before.

Whatever the order, an entry is stored with the window that its own octets have,
and served only while a fresh look at those octets would find them current.  Of
the distribution points the first current CRL is chosen, or else the first that
was downloaded, unless a look in front of that unwinds.
-/

namespace RitspLtv.Ltv.CrlFetch

open RitspLtv.Foundation.Checks
open RitspLtv.Foundation.OldestFirst
open RitspLtv.RustStd
open RitspLtv.Chrono
open RitspLtv.Ltv.Crl
open RitspLtv.Ltv.CrlCache
open RitspLtv.Ltv.Urls

/-! ## One fetch -/

/-- A client's settings; the timeout is given by its `Debug` form. -/
structure CrlClient where
  timeout : String
  gracePeriod : Nat
  maxBodySize : Nat
  freshness : CrlFreshness

/-- The cache behind its lock. -/
structure SharedCache where
  cache : Cache
  poisoned : Bool

/-- The answer to a request; `failure` ends the chunks of a body that breaks off. -/
structure Response where
  isSuccess : Bool
  status : String
  contentLength : Option Nat
  chunks : List Bytes
  failure : Option String

/-- What the network gives; checking a URL may time out. -/
structure Exchange where
  urlCheck : Option (Except String Unit)
  response : Except String Response

/-- A URL in a message. -/
def urlText (url : Bytes) : String :=
  match scalars url with
  | .ok text => String.ofList (text.map Char.ofNat)
  | .error _ => ""

/-- Read a body chunk by chunk, up to the cap. -/
def readBody (client : CrlClient) (url : Bytes) (failure : Option String) :
    Bytes → List Bytes → Except LtvError Bytes
  | crlBytes, [] =>
      match failure with
      | none => .ok crlBytes
      | some e => .error (.crl s!"failed to read CRL response body: {e}")
  | crlBytes, chunk :: chunks =>
      if chunk.length > client.maxBodySize - crlBytes.length then
        .error
          (.crl
            s!"CRL from {urlText url} exceeds max body size (> {client.maxBodySize})")
      else readBody client url failure (crlBytes ++ chunk) chunks

/-- Check the URL before any egress. -/
def validateUrl (client : CrlClient) :
    Option (Except String Unit) → Except LtvError Unit
  | none =>
      .error (.crl s!"URL validation timed out after {client.timeout}")
  | some check => check.mapError fun e => .crl s!"URL rejected: {e}"

/-- An advertised length above the cap is refused before the body is read. -/
def checkContentLength (client : CrlClient) (url : Bytes) :
    Option Nat → Except LtvError Unit
  | none => .ok ()
  | some len =>
      rejectIf (len > client.maxBodySize)
        (.crl
          s!"CRL from {urlText url} exceeds max body size ({len} > {client.maxBodySize})")

/-- The part of a fetch between its two accesses to the cache. -/
def download (client : CrlClient) (url : Bytes) (exchange : Exchange) :
    Except LtvError Bytes := do
  validateUrl client exchange.urlCheck
  let response ←
    exchange.response.mapError fun e =>
      .crl s!"CRL fetch from {urlText url} failed: {e}"
  rejectIf (response.isSuccess = false)
    (.crl s!"CRL fetch from {urlText url} returned HTTP {response.status}")
  checkContentLength client url response.contentLength
  let crlBytes ← readBody client url response.failure [] response.chunks
  rejectIf (crlBytes.head? ≠ some 0x30)
    (.crl s!"CRL from {urlText url} does not appear to be DER-encoded")
  pure crlBytes

def lockPoisoned : LtvError :=
  .crl "cache lock poisoned: poisoned lock: another task failed inside"

/-- Look the URL up; unwinding with the lock held poisons it. -/
def lookUp (crates : Crates) (client : CrlClient) (shared : SharedCache)
    (url : Bytes) (elapsedSince : Instant → Nat) (utcNow : DateTime)
    (freshness : CrlFreshness) :
    Except LtvError (Option Bytes) × SharedCache :=
  if shared.poisoned then (.error lockPoisoned, shared)
  else
    match
      lookupCache crates shared.cache url elapsedSince client.gracePeriod
        client.maxBodySize utcNow freshness
    with
    | (.error (.panicked message), cache) =>
        (.error (.panicked message), ⟨cache, true⟩)
    | (result, cache) => (result, ⟨cache, false⟩)

/-- Keep what has been downloaded, if it parses. -/
def keep (crates : Crates) (order : IterationOrder) (shared : SharedCache)
    (url crlBytes : Bytes) (fetchedAt : Instant) :
    Except LtvError Unit × SharedCache :=
  match CrlValidity.fromDer crates crlBytes with
  | .error _ => (.ok (), shared)
  | .ok _ =>
      if shared.poisoned then (.error lockPoisoned, shared)
      else
        match cacheFetched crates order shared.cache url crlBytes fetchedAt with
        | .ok cache => (.ok (), ⟨cache, false⟩)
        | .error _ =>
            (.error (.panicked "attempt to subtract with overflow"),
              ⟨shared.cache, true⟩)

/-- What a fetch reads from its surroundings on its way. -/
structure Surroundings where
  elapsedSince : Instant → Nat
  utcNow : DateTime
  exchange : Exchange
  order : IterationOrder
  fetchedAt : Instant

/-- Fetch a CRL, from the cache if it has a current one. -/
def fetchCrlWithFreshness (crates : Crates) (client : CrlClient)
    (shared : SharedCache) (url : Bytes) (freshness : CrlFreshness)
    (around : Surroundings) : Except LtvError Bytes × SharedCache :=
  match
    lookUp crates client shared url around.elapsedSince around.utcNow freshness
  with
  | (.error e, shared) => (.error e, shared)
  | (.ok (some der), shared) => (.ok der, shared)
  | (.ok none, shared) =>
      match download client url around.exchange with
      | .error e => (.error e, shared)
      | .ok crlBytes =>
          match
            keep crates around.order shared url crlBytes around.fetchedAt
          with
          | (.error e, shared) => (.error e, shared)
          | (.ok (), shared) => (.ok crlBytes, shared)

/-- Fetch a CRL under the client's own policy. -/
def fetchCrl (crates : Crates) (client : CrlClient) (shared : SharedCache)
    (url : Bytes) (around : Surroundings) :
    Except LtvError Bytes × SharedCache :=
  fetchCrlWithFreshness crates client shared url client.freshness around

def clearCache (shared : SharedCache) : SharedCache :=
  if shared.poisoned then shared else ⟨∅, false⟩

/-! ## All distribution points -/

/-- Whether a CRL is inside its own window. -/
def crlIsCurrent (crates : Crates) (der : Bytes) (now : DateTime)
    (freshness : CrlFreshness) : Except LtvError Bool :=
  match parseCrl crates der with
  | .error _ => .ok false
  | .ok parsed => do
      let latest ← addOrPanic now freshness.clockSkew
      if latest < parsed.thisUpdate then pure false
      else
        match validateCrlFreshness crates parsed now freshness with
        | .ok () => pure true
        | .error (.panicked message) => .error (.panicked message)
        | .error _ => pure false

/-- How a fetch has ended, and the wall clock when that is looked at. -/
abbrev Outcome := Except LtvError Bytes × DateTime

/-- The loop over distribution points; `staleFallback` is the first stale CRL. -/
def tryDistributionPoints (crates : Crates) (freshness : CrlFreshness) :
    Option Bytes → List Outcome → Except LtvError (List Bytes)
  | staleFallback, [] => .ok staleFallback.toList
  | _, (.error (.panicked message), _) :: _ => .error (.panicked message)
  | staleFallback, (.error _, _) :: outcomes =>
      tryDistributionPoints crates freshness staleFallback outcomes
  | staleFallback, (.ok crl, now) :: outcomes => do
      if ← crlIsCurrent crates crl now freshness then pure [crl]
      else
        tryDistributionPoints crates freshness (staleFallback.or (some crl))
          outcomes

/-- The outcomes of the fetches, in the order of the certificate's URLs. -/
def distributionPointOutcomes (cert : Certificate)
    (awaited : Nat → Bytes → Outcome) : List Outcome :=
  (extractCrlUrls cert).mapIdx awaited

/-- Fetch a usable CRL for a certificate, trying every distribution point. -/
def fetchCrlsForCertWithFreshness (crates : Crates) (cert : Certificate)
    (freshness : CrlFreshness) (awaited : Nat → Bytes → Outcome) :
    Except LtvError (List Bytes) :=
  tryDistributionPoints crates freshness none
    (distributionPointOutcomes cert awaited)

/-! ## Currentness -/

section Currentness

variable {crates : Crates}

/-- The cached window and the octets give the same answer. -/
theorem crlIsCurrent_eq
    (der : Bytes) (now : DateTime) (freshness : CrlFreshness) :
    crlIsCurrent crates der now freshness =
      match CrlValidity.fromDer crates der with
      | .error _ => .ok false
      | .ok validity => validity.isCurrent crates now freshness := by
  rw [crlIsCurrent, CrlValidity.fromDer]
  cases parseCrl crates der with
  | error e => rfl
  | ok parsed => rfl

/-- What is served was found current from its cached window. -/
theorem lookUp_eq_some
    {client : CrlClient} {shared : SharedCache} {url der : Bytes}
    {elapsedSince : Instant → Nat} {utcNow : DateTime}
    {freshness : CrlFreshness}
    (served :
      (lookUp crates client shared url elapsedSince utcNow freshness).1 =
        .ok (some der)) :
    ∃ entry,
      shared.cache.lookup url = some entry ∧ entry.der = der ∧
        elapsedSince entry.fetchedAt < client.gracePeriod ∧
        entry.validity.isCurrent crates utcNow freshness = .ok true := by
  rw [lookUp] at served
  split at served
  · cases served
  · rw [lookupCache] at served
    cases found : shared.cache.lookup url with
    | none => simp [found] at served
    | some entry =>
        simp only [found] at served
        by_cases recent : elapsedSince entry.fetchedAt < client.gracePeriod
        · rw [if_pos recent] at served
          cases current :
            entry.validity.isCurrent crates utcNow freshness with
          | error e =>
              cases e <;> simp [current] at served
          | ok isCurrent =>
              cases isCurrent with
              | false => simp [current] at served
              | true =>
                  simp only [current] at served
                  split at served
                  · next _ _ _ paired =>
                      cases served
                  · next result cache _ paired =>
                      split at paired
                      · cases paired
                        cases served
                      · cases paired
                        cases served
                        exact ⟨entry, rfl, rfl, recent, current⟩
        · rw [if_neg recent] at served
          cases served

end Currentness

/-! ## The cache over all runs -/

/-- A step that a fetch or a caller makes on the shared cache. -/
inductive Step (crates : Crates) : SharedCache → SharedCache → Prop where
  | lookUp (client : CrlClient) (shared : SharedCache) (url : Bytes)
      (elapsedSince : Instant → Nat) (utcNow : DateTime)
      (freshness : CrlFreshness) :
      Step crates shared
        (lookUp crates client shared url elapsedSince utcNow freshness).2
  | keep (client : CrlClient) (order : IterationOrder) (shared : SharedCache)
      (url crlBytes : Bytes) (exchange : Exchange) (fetchedAt : Instant)
      (downloaded : download client url exchange = .ok crlBytes) :
      Step crates shared
        (keep crates order shared url crlBytes fetchedAt).2
  | clear (shared : SharedCache) : Step crates shared (clearCache shared)

/-- Reachable from the empty cache, by the steps of any fetches in any order. -/
def Reachable (crates : Crates) : SharedCache → Prop :=
  Relation.ReflTransGen (Step crates) ⟨∅, false⟩

/-- Every entry has the window of its octets. -/
def FaithfulWindows (crates : Crates) (cache : Cache) : Prop :=
  ∀ url entry, cache.lookup url = some entry →
    CrlValidity.fromDer crates entry.der = .ok entry.validity

section Runs

variable {crates : Crates} {cache : Cache} {url : Bytes}

/-- A fetch makes only steps of the cache, when nothing comes in between. -/
theorem fetchCrlWithFreshness_steps
    (client : CrlClient) (shared : SharedCache) (url : Bytes)
    (freshness : CrlFreshness) (around : Surroundings) :
    Relation.ReflTransGen (Step crates) shared
      (fetchCrlWithFreshness crates client shared url freshness around).2 := by
  have looked :=
    @Step.lookUp crates client shared url around.elapsedSince around.utcNow
      freshness
  rw [fetchCrlWithFreshness]
  split
  · next e next found =>
      rw [found] at looked
      exact .single looked
  · next der next found =>
      rw [found] at looked
      exact .single looked
  · next next found =>
      rw [found] at looked
      cases downloaded : download client url around.exchange with
      | error e => exact .single looked
      | ok crlBytes =>
          have kept :=
            @Step.keep crates client around.order next url crlBytes
              around.exchange around.fetchedAt downloaded
          simp only
          split
          · next e last result =>
              rw [result] at kept
              exact .tail (.single looked) kept
          · next last result =>
              rw [result] at kept
              exact .tail (.single looked) kept

theorem FaithfulWindows.erase
    (faithful : FaithfulWindows crates cache) (url : Bytes) :
    FaithfulWindows crates (cache.erase url) := by
  intro other entry found
  by_cases same : other = url
  · rw [same, Finmap.lookup_erase] at found
    cases found
  · rw [Finmap.lookup_erase_ne same] at found
    exact faithful other entry found

/-- Eviction and insertion keep the windows, if the new entry has its own. -/
theorem FaithfulWindows.insert
    {order : IterationOrder} {entry : CrlCacheEntry} {result : Cache}
    (faithful : FaithfulWindows crates cache)
    (parsed : CrlValidity.fromDer crates entry.der = .ok entry.validity)
    (inserted : insertCacheEntry order cache url entry = .ok result) :
    FaithfulWindows crates result := by
  by_cases oversized : Oversized url entry
  · rw [insertCacheEntry, if_pos oversized, Except.ok.injEq] at inserted
    exact inserted ▸ faithful
  · rcases insertCacheEntry_spec order cache url entry oversized with
      ⟨_, insertedAgain, _, evicted, kept, rfl, parts, _⟩
    rw [inserted, Except.ok.injEq] at insertedAgain
    subst insertedAgain
    intro other held found
    by_cases same : other = url
    · rw [same, Finmap.lookup_insert, Option.some.injEq] at found
      exact found ▸ parsed
    · rw [Finmap.lookup_insert_of_ne _ same] at found
      -- What is kept was in the cache before.
      apply faithful.erase url other held
      apply lookup_of_mem_entries
      rw [parts, entries_of_lookup found]
      exact Multiset.mem_add.mpr (.inr (Multiset.mem_cons_self _ _))

theorem faithfulWindows_lookUp
    {shared : SharedCache}
    (faithful : FaithfulWindows crates shared.cache)
    (client : CrlClient) (url : Bytes) (elapsedSince : Instant → Nat)
    (utcNow : DateTime) (freshness : CrlFreshness) :
    FaithfulWindows crates
      (lookUp crates client shared url elapsedSince utcNow freshness).2.cache := by
  rw [lookUp]
  split
  · exact faithful
  · have kept :
        FaithfulWindows crates
          (lookupCache crates shared.cache url elapsedSince client.gracePeriod
            client.maxBodySize utcNow freshness).2 := by
      rcases lookupCache_eq_apply crates shared.cache url elapsedSince
          client.gracePeriod client.maxBodySize utcNow freshness with
        same | removed
      · rw [same]
        exact faithful
      · rw [Operation.apply, Except.ok.injEq] at removed
        rw [← removed]
        exact faithful.erase url
    split
    · next message cache result =>
        rw [result] at kept
        exact kept
    · next result cache _ paired =>
        rw [paired] at kept
        exact kept

theorem faithfulWindows_keep
    {shared : SharedCache}
    (faithful : FaithfulWindows crates shared.cache)
    (order : IterationOrder) (url crlBytes : Bytes) (fetchedAt : Instant) :
    FaithfulWindows crates
      (keep crates order shared url crlBytes fetchedAt).2.cache := by
  rw [keep]
  cases parsed : CrlValidity.fromDer crates crlBytes with
  | error e => exact faithful
  | ok validity =>
      simp only
      split
      · exact faithful
      · split
        · next cache inserted =>
            rw [cacheFetched, parsed] at inserted
            exact faithful.insert parsed inserted
        · exact faithful

/-- Every step keeps the windows of all entries. -/
theorem faithfulWindows_step
    {shared next : SharedCache}
    (step : Step crates shared next)
    (faithful : FaithfulWindows crates shared.cache) :
    FaithfulWindows crates next.cache := by
  cases step with
  | lookUp client shared url elapsedSince utcNow freshness =>
      exact
        faithfulWindows_lookUp faithful client url elapsedSince utcNow
          freshness
  | keep client order shared url crlBytes exchange fetchedAt downloaded =>
      exact faithfulWindows_keep faithful order url crlBytes fetchedAt
  | clear shared =>
      rw [clearCache]
      split
      · exact faithful
      · intro url entry found
        cases found

/-- In every reachable cache every entry has the window of its octets. -/
theorem faithfulWindows_of_reachable
    {shared : SharedCache}
    (reachable : Reachable crates shared) :
    FaithfulWindows crates shared.cache := by
  induction reachable with
  | refl =>
      intro url entry found
      cases found
  | tail _ step induction => exact faithfulWindows_step step induction

end Runs

/-! ## The choice of a distribution point -/

/-- The fetch or the look at what it has fetched unwinds. -/
def Unwinds (crates : Crates) (freshness : CrlFreshness) (outcome : Outcome) :
    Prop :=
  (∃ message, outcome.1 = .error (.panicked message)) ∨
    ∃ crl e,
      outcome.1 = .ok crl ∧
        crlIsCurrent crates crl outcome.2 freshness = .error e

/-- A CRL was downloaded, and was current when it was looked at. -/
def DownloadedCurrent (crates : Crates) (freshness : CrlFreshness)
    (outcome : Outcome) (crl : Bytes) : Prop :=
  outcome.1 = .ok crl ∧
    crlIsCurrent crates crl outcome.2 freshness = .ok true

/-- The first CRL that was downloaded. -/
def firstDownloaded (outcomes : List Outcome) : Option Bytes :=
  outcomes.findSome? fun outcome => outcome.1.toOption

/--
The first current CRL is returned if one is current, or else the first that was
downloaded, and none only when nothing was.
-/
def Selects (crates : Crates) (freshness : CrlFreshness)
    (outcomes : List Outcome) (result : Except LtvError (List Bytes)) : Prop :=
  ∃ crls,
    result = .ok crls ∧
      ((∃ before outcome after crl,
          outcomes = before ++ outcome :: after ∧
            DownloadedCurrent crates freshness outcome crl ∧
            (∀ earlier ∈ before, ∀ other,
              ¬ DownloadedCurrent crates freshness earlier other) ∧
            crls = [crl]) ∨
        (∀ outcome ∈ outcomes, ∀ crl,
          ¬ DownloadedCurrent crates freshness outcome crl) ∧
          crls = (firstDownloaded outcomes).toList) ∧
      (crls = [] → ∀ outcome ∈ outcomes, ∀ crl, outcome.1 ≠ .ok crl)

/-- An outcome unwinds only behind a current CRL. -/
def UnwindsBehindCurrent (crates : Crates) (freshness : CrlFreshness)
    (outcomes : List Outcome) : Prop :=
  ∀ before outcome after,
    outcomes = before ++ outcome :: after →
      Unwinds crates freshness outcome →
        ∃ earlier ∈ before, ∃ crl,
          DownloadedCurrent crates freshness earlier crl

section Choice

variable {crates : Crates} {freshness : CrlFreshness}

/-- The outcome is neither current nor does it unwind. -/
def PassedOver (crates : Crates) (freshness : CrlFreshness)
    (outcome : Outcome) : Prop :=
  ¬ Unwinds crates freshness outcome ∧
    ∀ crl, ¬ DownloadedCurrent crates freshness outcome crl

/-- The result: the first current CRL, an unwinding, or else the fallback. -/
def Chosen (crates : Crates) (freshness : CrlFreshness)
    (fallback : Option Bytes) (outcomes : List Outcome)
    (result : Except LtvError (List Bytes)) : Prop :=
  (∃ before outcome after crl,
      outcomes = before ++ outcome :: after ∧
        (∀ earlier ∈ before, PassedOver crates freshness earlier) ∧
        DownloadedCurrent crates freshness outcome crl ∧
        result = .ok [crl]) ∨
    (∃ before outcome after e,
      outcomes = before ++ outcome :: after ∧
        (∀ earlier ∈ before, PassedOver crates freshness earlier) ∧
        Unwinds crates freshness outcome ∧ result = .error e) ∨
    (∀ outcome ∈ outcomes, PassedOver crates freshness outcome) ∧
      result = .ok (fallback.or (firstDownloaded outcomes)).toList

/-- Behind an outcome that is passed over the choice is that of the rest. -/
theorem Chosen.cons
    {fallback staleFallback : Option Bytes} {outcome : Outcome}
    {outcomes : List Outcome} {result : Except LtvError (List Bytes)}
    (chosen : Chosen crates freshness fallback outcomes result)
    (passed : PassedOver crates freshness outcome)
    (sameFirst :
      fallback.or (firstDownloaded outcomes) =
        staleFallback.or (firstDownloaded (outcome :: outcomes))) :
    Chosen crates freshness staleFallback (outcome :: outcomes) result := by
  rcases chosen with
    ⟨before, choice, after, crl, rfl, passedBefore, current, returned⟩ |
      ⟨before, choice, after, e, rfl, passedBefore, unwinds, returned⟩ |
      ⟨passedAll, returned⟩
  · left
    refine
      ⟨outcome :: before, choice, after, crl, rfl, ?_, current, returned⟩
    exact List.forall_mem_cons.mpr ⟨passed, passedBefore⟩
  · right
    left
    refine
      ⟨outcome :: before, choice, after, e, rfl, ?_, unwinds, returned⟩
    exact List.forall_mem_cons.mpr ⟨passed, passedBefore⟩
  · right
    right
    refine ⟨List.forall_mem_cons.mpr ⟨passed, passedAll⟩, ?_⟩
    rw [returned, sameFirst]

/-- A failure that does not unwind is passed over. -/
theorem passedOver_error
    {e : LtvError} {now : DateTime}
    (returns : ∀ message, e ≠ .panicked message) :
    PassedOver crates freshness (.error e, now) := by
  constructor
  · rintro (⟨message, same⟩ | ⟨crl, _, impossible, _⟩)
    · cases same
      exact returns message rfl
    · cases impossible
  · rintro crl ⟨impossible, _⟩
    cases impossible

/-- A CRL that is not current is passed over. -/
theorem passedOver_stale
    {crl : Bytes} {now : DateTime}
    (stale : crlIsCurrent crates crl now freshness = .ok false) :
    PassedOver crates freshness (.ok crl, now) := by
  constructor
  · rintro (⟨message, impossible⟩ | ⟨other, e, same, failed⟩)
    · cases impossible
    · cases same
      rw [stale] at failed
      cases failed
  · rintro other ⟨same, found⟩
    cases same
    rw [stale] at found
    cases found

theorem tryDistributionPoints_chosen
    (staleFallback : Option Bytes) (outcomes : List Outcome) :
    Chosen crates freshness staleFallback outcomes
      (tryDistributionPoints crates freshness staleFallback outcomes) := by
  induction outcomes generalizing staleFallback with
  | nil =>
      right
      right
      refine ⟨by simp, ?_⟩
      rw [firstDownloaded, List.findSome?_nil, Option.or_none]
      rfl
  | cons outcome outcomes induction =>
      rcases outcome with ⟨fetched, now⟩
      cases fetched with
      | error e =>
          by_cases isPanic : ∃ message, e = .panicked message
          · rcases isPanic with ⟨message, rfl⟩
            right
            left
            exact
              ⟨[], _, outcomes, .panicked message, rfl, by simp,
                .inl ⟨message, rfl⟩, rfl⟩
          · have returns := not_exists.mp isPanic
            have skipped :
                tryDistributionPoints crates freshness staleFallback
                    ((.error e, now) :: outcomes) =
                  tryDistributionPoints crates freshness staleFallback
                    outcomes := by
              cases e with
              | panicked message => exact absurd rfl (returns message)
              | _ => rfl
            rw [skipped]
            exact (induction staleFallback).cons (passedOver_error returns) rfl
      | ok crl =>
          cases current : crlIsCurrent crates crl now freshness with
          | error e =>
              right
              left
              refine
                ⟨[], _, outcomes, e, rfl, by simp,
                  .inr ⟨crl, e, rfl, current⟩, ?_⟩
              rw [tryDistributionPoints, current]
              rfl
          | ok isCurrent =>
              rw [tryDistributionPoints, current]
              cases isCurrent with
              | true =>
                  left
                  exact
                    ⟨[], _, outcomes, crl, rfl, by simp, ⟨rfl, current⟩, rfl⟩
              | false =>
                  apply
                    (induction (staleFallback.or (some crl))).cons
                      (passedOver_stale current)
                  rw [Option.or_assoc]
                  rfl

/-- Nothing is first exactly when nothing was downloaded. -/
theorem firstDownloaded_eq_none_iff {outcomes : List Outcome} :
    firstDownloaded outcomes = none ↔
      ∀ outcome ∈ outcomes, ∀ crl, outcome.1 ≠ .ok crl := by
  rw [firstDownloaded, List.findSome?_eq_none_iff]
  apply forall₂_congr
  rintro ⟨fetched, now⟩ _
  cases fetched with
  | error e => simp [Except.toOption]
  | ok crl => simp [Except.toOption]

/-- A current CRL has been looked at without unwinding. -/
theorem DownloadedCurrent.not_unwinds
    {outcome : Outcome} {crl : Bytes}
    (current : DownloadedCurrent crates freshness outcome crl) :
    ¬ Unwinds crates freshness outcome := by
  rcases current with ⟨downloaded, isCurrent⟩
  rintro (⟨message, panicked⟩ | ⟨other, e, same, failed⟩)
  · rw [downloaded] at panicked
    cases panicked
  · rw [downloaded, Except.ok.injEq] at same
    rw [← same, isCurrent] at failed
    cases failed

/-- Behind outcomes passed over, a current CRL comes before any unwinding. -/
theorem unwindsBehindCurrent_of_current
    {before after : List Outcome} {outcome : Outcome} {crl : Bytes}
    (passed : ∀ earlier ∈ before, PassedOver crates freshness earlier)
    (current : DownloadedCurrent crates freshness outcome crl) :
    UnwindsBehindCurrent crates freshness (before ++ outcome :: after) := by
  intro front unwound back same unwinds
  rcases List.append_eq_append_iff.mp same with
    ⟨between, rfl, later⟩ | ⟨between, rfl, later⟩
  · cases between with
    | nil =>
        rw [List.nil_append, List.cons.injEq] at later
        exact absurd (later.1 ▸ unwinds) current.not_unwinds
    | cons other others =>
        rw [List.cons_append, List.cons.injEq] at later
        exact ⟨outcome, by simp [later.1], crl, current⟩
  · cases between with
    | nil =>
        rw [List.nil_append, List.cons.injEq] at later
        exact absurd (later.1 ▸ unwinds) current.not_unwinds
    | cons other others =>
        rw [List.cons_append, List.cons.injEq] at later
        exact absurd (later.1 ▸ unwinds) (passed other (by simp)).1

/-- The selection is right exactly when nothing unwinds before a current CRL. -/
theorem selects_tryDistributionPoints_iff (outcomes : List Outcome) :
    Selects crates freshness outcomes
        (tryDistributionPoints crates freshness none outcomes) ↔
      UnwindsBehindCurrent crates freshness outcomes := by
  rcases
    @tryDistributionPoints_chosen crates freshness none outcomes with
    ⟨before, outcome, after, crl, rfl, passed, current, returned⟩ |
      ⟨before, outcome, after, e, rfl, passed, unwinds, returned⟩ |
      ⟨passed, returned⟩
  · refine iff_of_true ?_ (unwindsBehindCurrent_of_current passed current)
    rw [returned]
    refine
      ⟨[crl], rfl,
        .inl ⟨before, outcome, after, crl, rfl, current, ?_, rfl⟩, ?_⟩
    · intro earlier earlierMember
      exact (passed earlier earlierMember).2
    · intro impossible
      cases impossible
  · rw [returned]
    apply iff_of_false
    · rintro ⟨crls, impossible, _⟩
      cases impossible
    · intro behind
      rcases behind before outcome after rfl unwinds with
        ⟨earlier, member, crl, current⟩
      exact (passed earlier member).2 crl current
  · rw [returned, Option.none_or]
    apply iff_of_true
    · refine ⟨_, rfl, .inr ⟨?_, rfl⟩, ?_⟩
      · intro outcome member
        exact (passed outcome member).2
      · intro empty
        rw [Option.toList_eq_nil_iff] at empty
        exact firstDownloaded_eq_none_iff.mp empty
    · intro before outcome after same unwinds
      exact absurd unwinds (passed outcome (by simp [same])).1

end Choice

/--
In every cache that the fetches of any clients can lead to, each entry has the
window of its own octets, and is served only when these are current at that
instant, and a fetch leaves such a cache behind; the cached window and the
octets always give the same answer.  Of the
outcomes of all distribution points the first current CRL is returned, or else
the first that was downloaded, exactly when no outcome unwinds in front of the
first current CRL.
-/
theorem fetchedCrls_current (crates : Crates) :
    (∀ shared, Reachable crates shared →
        (∀ url entry, shared.cache.lookup url = some entry →
          CrlValidity.fromDer crates entry.der = .ok entry.validity) ∧
        ∀ client url elapsedSince utcNow freshness der,
          (lookUp crates client shared url elapsedSince utcNow freshness).1 =
              .ok (some der) →
            crlIsCurrent crates der utcNow freshness = .ok true) ∧
      (∀ client shared url freshness around,
        Reachable crates shared →
          Reachable crates
            (fetchCrlWithFreshness crates client shared url freshness
              around).2) ∧
      (∀ der now freshness,
        crlIsCurrent crates der now freshness =
          match CrlValidity.fromDer crates der with
          | .error _ => .ok false
          | .ok validity => validity.isCurrent crates now freshness) ∧
      ∀ cert freshness awaited,
        Selects crates freshness (distributionPointOutcomes cert awaited)
            (fetchCrlsForCertWithFreshness crates cert freshness awaited) ↔
          UnwindsBehindCurrent crates freshness
            (distributionPointOutcomes cert awaited) := by
  refine ⟨?_, ?_, crlIsCurrent_eq, ?_⟩
  · intro shared reachable
    have faithful := faithfulWindows_of_reachable reachable
    refine ⟨faithful, ?_⟩
    intro client url elapsedSince utcNow freshness der served
    rcases lookUp_eq_some served with ⟨entry, found, rfl, _, current⟩
    rw [crlIsCurrent_eq, faithful url entry found]
    exact current
  · intro client shared url freshness around reachable
    exact
      reachable.trans
        (fetchCrlWithFreshness_steps client shared url freshness around)
  · intro cert freshness awaited
    exact
      selects_tryDistributionPoints_iff (distributionPointOutcomes cert awaited)

/-! ## An age without bound -/

section NoBound

open RitspLtv.DerUtils
open RitspLtv.Reference

/-- A certificate with two CRL distribution points. -/
def twicePublished : Certificate :=
  certificate 2 0xB2 0xA1 "Leaf" "Root"
    [⟨crlDpOid, false,
      encodeSequenceFromParts
        (["http://a.root", "http://b.root"].map fun url =>
          encodeTlv 0x30
            (encodeTlv 0xA0
              (encodeTlv 0xA0 (encodeTlv 0x86 (asciiBytes url)))))⟩]

/-- A CRL of the root that does not say when the next one comes. -/
def openCrl : Bytes :=
  encodeSigned
    (encodeSequenceFromParts
      [encodeTlv 0x02 [1], encodeAlgorithmIdentifier ecdsaWithSha256,
        encodeName root.tbsCertificate.subject,
        encodeTime (.utcTime year2026)])
    ecdsaWithSha256 (publicKey 0xA1)

/-- A CRL of the root, valid from 2026 to 2030. -/
def datedCrl : Bytes :=
  encodeSigned
    (encodeTbsCertList ecdsaWithSha256 root.tbsCertificate.subject
      (.utcTime year2026) (.utcTime year2030) [])
    ecdsaWithSha256 (publicKey 0xA1)

/-- A CRL without a next update may have any age. -/
def anyAge : CrlFreshness :=
  ⟨.minutes 5, .max⟩

/-- Both distribution points answer, the first one with the open CRL. -/
def bothPublished (index : Nat) (_ : Bytes) : Outcome :=
  (.ok (if index = 0 then openCrl else datedCrl), checkedAt)

/-- The look at the first CRL unwinds, and the current one behind it is lost. -/
theorem fetchCrlsForCert_unwinds :
    ∃ early late,
      distributionPointOutcomes twicePublished bothPublished =
          [early, late] ∧
        DownloadedCurrent (Reference.crates known) anyAge late datedCrl ∧
        fetchCrlsForCertWithFreshness (Reference.crates known) twicePublished
            anyAge bothPublished =
          .error (.panicked additionOverflow) ∧
        ¬ Selects (Reference.crates known) anyAge
            (distributionPointOutcomes twicePublished bothPublished)
            (fetchCrlsForCertWithFreshness (Reference.crates known)
              twicePublished anyAge bothPublished) := by
  have unwinds :
      fetchCrlsForCertWithFreshness (Reference.crates known) twicePublished
          anyAge bothPublished =
        .error (.panicked additionOverflow) := by
    decide +kernel
  refine
    ⟨(.ok openCrl, checkedAt), (.ok datedCrl, checkedAt), by decide +kernel,
      ⟨rfl, by decide +kernel⟩, unwinds, ?_⟩
  rintro ⟨crls, returned, _⟩
  rw [unwinds] at returned
  cases returned

end NoBound

end RitspLtv.Ltv.CrlFetch
