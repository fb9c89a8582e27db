import RitspLtv.Foundation.Executions
import RitspLtv.Ltv.CrlDownload
import RitspLtv.Reference

/-!
# One cache for many fetches

All clones of a client share one cache, and any number of fetches are under way
at once, with settings of their own.  A fetch holds the lock while it looks up
and while it keeps what it has downloaded, and not while it talks to the network;
in between the other fetches go on, and the cache may be cleared.

Whatever the order of all this, a fetch returns only octets that the network has
delivered for its own URL, to itself or to a fetch that has kept them shortly
before.
-/

namespace RitspLtv.Ltv.CrlSharing

open RitspLtv.Foundation.Checks
open RitspLtv.Foundation.Conversation
open RitspLtv.Foundation.Executions
open RitspLtv.Foundation.OldestFirst
open RitspLtv.RustStd
open RitspLtv.Chrono
open RitspLtv.Http
open RitspLtv.Ltv.Crl
open RitspLtv.Ltv.CrlCache
open RitspLtv.Ltv.CrlFetch
open RitspLtv.Ltv.CrlDownload

/-! ## Fetches under way -/

/-- A fetch that is called for. -/
structure Fetch where
  client : CrlClient
  url : Bytes
  freshness : CrlFreshness

/-- How far a fetch is. -/
inductive Phase where
  | called
  | missed
  | downloaded (crlBytes : Bytes)
  | returned (result : Except LtvError Bytes)

def Phase.afterLookUp : Except LtvError (Option Bytes) → Phase
  | .error e => .returned (.error e)
  | .ok (some der) => .returned (.ok der)
  | .ok none => .missed

def Phase.afterDownload : Except LtvError Bytes → Phase
  | .error e => .returned (.error e)
  | .ok crlBytes => .downloaded crlBytes

def Phase.afterKeep (crlBytes : Bytes) : Except LtvError Unit → Phase
  | .error e => .returned (.error e)
  | .ok () => .returned (.ok crlBytes)

variable {Session : Type}

/-- What is seen of the fetches, with the readings of the clocks. -/
inductive Event (Session : Type) where
  | lookedUp (session : Session) (instant : Instant) (utcNow : DateTime)
      (found : Except LtvError (Option Bytes))
  | asked (session : Session) (exchanges : List (Exchange network))
      (outcome : Except LtvError Bytes)
  | kept (session : Session) (crlBytes : Bytes) (fetchedAt : Instant)
  | cleared
  | passed (clock : Instant)

/-- The cache, the monotonic clock and all fetches. -/
structure World (Session : Type) where
  shared : SharedCache
  clock : Instant
  phase : Session → Phase

namespace World

/-- Nothing is in the cache, and no fetch has begun. -/
def initial (clock : Instant) : World Session :=
  ⟨⟨∅, false⟩, clock, fun _ => .called⟩

/-- Look up what a fetch is for. -/
def lookUp (crates : Crates) (world : World Session) (fetch : Fetch)
    (utcNow : DateTime) : Except LtvError (Option Bytes) × SharedCache :=
  CrlFetch.lookUp crates fetch.client world.shared fetch.url
    (fun fetchedAt => world.clock - fetchedAt) utcNow fetch.freshness

/-- Keep what a fetch has downloaded. -/
def keep (crates : Crates) (order : IterationOrder) (world : World Session)
    (fetch : Fetch) (crlBytes : Bytes) : Except LtvError Unit × SharedCache :=
  CrlFetch.keep crates order world.shared fetch.url crlBytes world.clock

variable [DecidableEq Session]

/-- One fetch has gone on, and left the cache like this. -/
def goOn (world : World Session) (session : Session) (shared : SharedCache)
    (phase : Phase) : World Session :=
  ⟨shared, world.clock, Function.update world.phase session phase⟩

section GoOn

variable {world : World Session} {session other : Session}
variable {shared : SharedCache} {phase found : Phase}

@[simp]
theorem goOn_shared : (world.goOn session shared phase).shared = shared :=
  rfl

@[simp]
theorem goOn_clock : (world.goOn session shared phase).clock = world.clock :=
  rfl

@[simp]
theorem goOn_phase :
    (world.goOn session shared phase).phase =
      Function.update world.phase session phase :=
  rfl

/-- A fetch is where it was, unless it is the one that has gone on. -/
theorem goOn_phase_eq
    (at_phase : (world.goOn session shared phase).phase other = found) :
    (other = session ∧ phase = found) ∨ world.phase other = found := by
  by_cases same : other = session
  · subst same
    rw [goOn_phase, Function.update_self] at at_phase
    exact .inl ⟨rfl, at_phase⟩
  · rw [goOn_phase, Function.update_of_ne same] at at_phase
    exact .inr at_phase

end GoOn

end World

/-- One step of one fetch, or of the surroundings. -/
inductive Step [DecidableEq Session] (crates : Crates)
    (fetches : Session → Fetch) :
    World Session → Event Session → World Session → Prop where
  | lookUp (world : World Session) (session : Session) (utcNow : DateTime)
      (called : world.phase session = .called) :
      Step crates fetches world
        (.lookedUp session world.clock utcNow
          (world.lookUp crates (fetches session) utcNow).1)
        (world.goOn session (world.lookUp crates (fetches session) utcNow).2
          (.afterLookUp (world.lookUp crates (fetches session) utcNow).1))
  | ask (world : World Session) (session : Session)
      (exchanges : List (Exchange network)) (outcome : Except LtvError Bytes)
      (missed : world.phase session = .missed)
      (returned :
        Task.Returns
          (downloadCrl (fetches session).client (fetches session).url)
          exchanges outcome) :
      Step crates fetches world (.asked session exchanges outcome)
        (world.goOn session world.shared (.afterDownload outcome))
  | keep (world : World Session) (session : Session) (crlBytes : Bytes)
      (order : IterationOrder)
      (downloaded : world.phase session = .downloaded crlBytes) :
      Step crates fetches world (.kept session crlBytes world.clock)
        (world.goOn session
          (world.keep crates order (fetches session) crlBytes).2
          (.afterKeep crlBytes
            (world.keep crates order (fetches session) crlBytes).1))
  | clear (world : World Session) :
      Step crates fetches world .cleared
        { world with shared := clearCache world.shared }
  | pass (world : World Session) (clock : Instant)
      (later : world.clock ≤ clock) :
      Step crates fetches world (.passed clock) { world with clock := clock }

/-! ## What a step does to the cache -/

section Cache

variable {crates : Crates} {cache result : Cache} {shared : SharedCache}
variable {url other crlBytes : Bytes} {held entry : CrlCacheEntry}

theorem lookup_of_erase (found : (cache.erase url).lookup other = some held) :
    cache.lookup other = some held := by
  by_cases same : other = url
  · rw [same, Finmap.lookup_erase] at found
    cases found
  · rwa [Finmap.lookup_erase_ne same] at found

/-- Insertion adds the new entry, and nothing else. -/
theorem lookup_of_insertCacheEntry
    {order : IterationOrder}
    (inserted : insertCacheEntry order cache url entry = .ok result)
    (found : result.lookup other = some held) :
    (other = url ∧ held = entry) ∨ cache.lookup other = some held := by
  by_cases oversized : Oversized url entry
  · rw [insertCacheEntry, if_pos oversized, Except.ok.injEq] at inserted
    exact .inr (inserted ▸ found)
  · rcases insertCacheEntry_spec order cache url entry oversized with
      ⟨_, insertedAgain, _, evicted, kept, rfl, parts, _⟩
    rw [inserted, Except.ok.injEq] at insertedAgain
    subst insertedAgain
    by_cases same : other = url
    · rw [same, Finmap.lookup_insert, Option.some.injEq] at found
      exact .inl ⟨same, found.symm⟩
    · rw [Finmap.lookup_insert_of_ne _ same] at found
      have member : ⟨other, held⟩ ∈ (cache.erase url).entries := by
        rw [parts, entries_of_lookup found]
        exact Multiset.mem_add.mpr (.inr (Multiset.mem_cons_self _ _))
      exact .inr (lookup_of_erase (lookup_of_mem_entries member))

/-- Looking up leaves the cache as it was, or without the URL. -/
theorem lookUp_cache
    (client : CrlClient) (elapsedSince : Instant → Nat) (utcNow : DateTime)
    (freshness : CrlFreshness) :
    (lookUp crates client shared url elapsedSince utcNow freshness).2.cache =
        shared.cache ∨
      (lookUp crates client shared url elapsedSince utcNow freshness).2.cache =
        shared.cache.erase url := by
  have looked :=
    lookupCache_eq_apply crates shared.cache url elapsedSince
      client.gracePeriod client.maxBodySize utcNow freshness
  rw [Operation.apply, Except.ok.injEq] at looked
  rw [lookUp]
  split
  · exact .inl rfl
  · split
    · next message cache paired =>
        rw [paired] at looked
        exact looked.imp_right Eq.symm
    · next result cache _ paired =>
        rw [paired] at looked
        exact looked.imp_right Eq.symm

/-- Keeping leaves the cache as it was, or with an entry for the octets. -/
theorem keep_cache (order : IterationOrder) (fetchedAt : Instant) :
    (keep crates order shared url crlBytes fetchedAt).2.cache = shared.cache ∨
      ∃ validity,
        CrlValidity.fromDer crates crlBytes = .ok validity ∧
          insertCacheEntry order shared.cache url
              ⟨crlBytes, fetchedAt, validity⟩ =
            .ok (keep crates order shared url crlBytes fetchedAt).2.cache := by
  rw [keep]
  cases parsed : CrlValidity.fromDer crates crlBytes with
  | error e => exact .inl rfl
  | ok validity =>
      simp only
      split
      · exact .inl rfl
      · split
        · next cache inserted =>
            rw [cacheFetched, parsed] at inserted
            exact .inr ⟨validity, rfl, inserted⟩
        · exact .inl rfl

/-- A cached CRL that is served is within the cap of the client. -/
theorem length_le_of_lookUp
    {client : CrlClient} {elapsedSince : Instant → Nat} {utcNow : DateTime}
    {freshness : CrlFreshness} {der : Bytes}
    (served :
      (lookUp crates client shared url elapsedSince utcNow freshness).1 =
        .ok (some der)) :
    der.length ≤ client.maxBodySize := by
  rw [lookUp] at served
  split at served
  · cases served
  · split at served
    · cases served
    · next result cache _ paired =>
        rw [lookupCache] at paired
        split at paired
        · cases paired
          cases served
        · split at paired
          · split at paired
            · cases paired
              cases served
            · split at paired
              · cases paired
                cases served
              · next small =>
                  cases paired
                  cases served
                  exact Nat.not_lt.mp small
            · cases paired
              cases served
          · cases paired
            cases served

end Cache

section Steps

variable [DecidableEq Session] {crates : Crates} {fetches : Session → Fetch}
variable {world next : World Session} {event : Event Session}
variable {session : Session}

/-- A step forgets entries, or adds one for what its fetch has downloaded. -/
theorem Step.cache_cases (step : Step crates fetches world event next) :
    world.clock ≤ next.clock ∧
      (next.shared.cache = world.shared.cache ∨
        (∃ url, next.shared.cache = world.shared.cache.erase url) ∨
        next.shared.cache = ∅ ∨
        ∃ session crlBytes order validity,
          event = .kept session crlBytes world.clock ∧
            world.phase session = .downloaded crlBytes ∧
            CrlValidity.fromDer crates crlBytes = .ok validity ∧
            insertCacheEntry order world.shared.cache (fetches session).url
                ⟨crlBytes, world.clock, validity⟩ =
              .ok next.shared.cache) := by
  cases step with
  | lookUp session utcNow called =>
      refine ⟨Nat.le_refl _, ?_⟩
      rcases
        @lookUp_cache crates world.shared (fetches session).url
          (fetches session).client (fun fetchedAt => world.clock - fetchedAt)
          utcNow (fetches session).freshness with
        same | removed
      · exact .inl same
      · exact .inr (.inl ⟨_, removed⟩)
  | ask session exchanges outcome missed returned =>
      exact ⟨Nat.le_refl _, .inl rfl⟩
  | keep session crlBytes order downloaded =>
      refine ⟨Nat.le_refl _, ?_⟩
      rcases
        @keep_cache crates world.shared (fetches session).url crlBytes order
          world.clock with
        same | ⟨validity, parsed, inserted⟩
      · exact .inl same
      · exact
          .inr
            (.inr
              (.inr
                ⟨session, crlBytes, order, validity, rfl, downloaded, parsed,
                  inserted⟩))
  | clear =>
      refine ⟨Nat.le_refl _, ?_⟩
      rw [clearCache]
      split
      · exact .inl rfl
      · exact .inr (.inr (.inl rfl))
  | pass clock later => exact ⟨later, .inl rfl⟩

/-- A fetch is where it was, or where the step that it has made leads. -/
theorem Step.phase_cases
    {found : Phase} (step : Step crates fetches world event next)
    (reached : next.phase session = found) :
    world.phase session = found ∨
      (∃ utcNow result,
        event = .lookedUp session world.clock utcNow result ∧
          found = .afterLookUp result) ∨
      (∃ exchanges outcome,
        event = .asked session exchanges outcome ∧
          Task.Returns
            (downloadCrl (fetches session).client (fetches session).url)
            exchanges outcome ∧
          found = .afterDownload outcome) ∨
      ∃ crlBytes result,
        event = .kept session crlBytes world.clock ∧
          world.phase session = .downloaded crlBytes ∧
          found = .afterKeep crlBytes result := by
  cases step with
  | lookUp other utcNow called =>
      rcases World.goOn_phase_eq reached with ⟨rfl, same⟩ | same
      · exact .inr (.inl ⟨utcNow, _, rfl, same.symm⟩)
      · exact .inl same
  | ask other exchanges outcome missed returned =>
      rcases World.goOn_phase_eq reached with ⟨rfl, same⟩ | same
      · exact
          .inr (.inr (.inl ⟨exchanges, outcome, rfl, returned, same.symm⟩))
      · exact .inl same
  | keep other crlBytes order downloaded =>
      rcases World.goOn_phase_eq reached with ⟨rfl, same⟩ | same
      · exact
          .inr (.inr (.inr ⟨crlBytes, _, rfl, downloaded, same.symm⟩))
      · exact .inl same
  | clear => exact .inl reached
  | pass clock later => exact .inl reached

/-- What is noted of a look into the cache is what it has found. -/
theorem Step.of_lookedUp
    {instant : Instant} {utcNow : DateTime}
    {found : Except LtvError (Option Bytes)}
    (step :
      Step crates fetches world (.lookedUp session instant utcNow found)
        next) :
    instant = world.clock ∧
      (world.lookUp crates (fetches session) utcNow).1 = found := by
  generalize same : Event.lookedUp session instant utcNow found = noted at step
  cases step with
  | lookUp session utcNow called =>
      cases same
      exact ⟨rfl, rfl⟩
  | ask session exchanges outcome missed returned => cases same
  | keep session crlBytes order downloaded => cases same
  | clear => cases same
  | pass clock later => cases same

end Steps

/-! ## Where octets come from -/

section Provenance

variable (fetches : Session → Fetch) (history : List (Event Session))

/-- The network has delivered the octets to a fetch, behind a passed check. -/
def DeliveredTo (session : Session) (crlBytes : Bytes) : Prop :=
  ∃ response,
    .asked session
          [checked (fetches session).url (some (.ok ())),
            sent (get (fetches session).url) (.ok response)]
          (.ok crlBytes) ∈
        history ∧
      response.isSuccess = true ∧
      Delivers response (fetches session).client.maxBodySize crlBytes ∧
      crlBytes.head? = some 0x30

/-- A fetch of the URL has kept what was delivered to it. -/
def KeptFor (url crlBytes : Bytes) (fetchedAt : Instant) : Prop :=
  ∃ source,
    (fetches source).url = url ∧
      DeliveredTo fetches history source crlBytes ∧
      .kept source crlBytes fetchedAt ∈ history

end Provenance

section Extension

variable {fetches : Session → Fetch} {history more : List (Event Session)}

theorem DeliveredTo.append
    {session : Session} {crlBytes : Bytes}
    (delivered : DeliveredTo fetches history session crlBytes) :
    DeliveredTo fetches (history ++ more) session crlBytes := by
  rcases delivered with ⟨response, member, rest⟩
  exact ⟨response, List.mem_append_left _ member, rest⟩

theorem KeptFor.append
    {url crlBytes : Bytes} {fetchedAt : Instant}
    (kept : KeptFor fetches history url crlBytes fetchedAt) :
    KeptFor fetches (history ++ more) url crlBytes fetchedAt := by
  rcases kept with ⟨source, same, delivered, member⟩
  exact ⟨source, same, delivered.append, List.mem_append_left _ member⟩

end Extension

section Runs

variable [DecidableEq Session] {crates : Crates} {fetches : Session → Fetch}
variable {history : List (Event Session)} {world : World Session}
variable {session : Session} {clock : Instant}

/-- What a fetch is about to keep has been delivered to it. -/
theorem deliveredTo_of_downloaded
    (executes :
      Executes (Step crates fetches) (World.initial clock) history world)
    {crlBytes : Bytes} (downloaded : world.phase session = .downloaded crlBytes) :
    DeliveredTo fetches history session crlBytes := by
  induction executes with
  | start => cases downloaded
  | @next history state later event executed stepped induction =>
      rcases stepped.phase_cases downloaded with
        before | ⟨utcNow, result, _, same⟩ |
          ⟨exchanges, outcome, rfl, returned, same⟩ |
          ⟨octets, result, _, _, same⟩
      · exact (induction before).append
      · rcases result with e | _ | der <;> cases same
      · rcases outcome with e | octets
        · cases same
        · cases same
          rcases returns_downloadCrl_ok_iff.mp returned with
            ⟨answer, rfl, download⟩
          rcases download_eq_ok_iff.mp download with
            ⟨response, rfl, success, delivers, starts⟩
          exact ⟨response, by simp, success, delivers, starts⟩
      · rcases result with e | _ <;> cases same

/-- Every entry was kept by a fetch of its URL, at the time that it has. -/
theorem keptFor_of_lookup
    (executes :
      Executes (Step crates fetches) (World.initial clock) history world)
    {url : Bytes} {entry : CrlCacheEntry}
    (found : world.shared.cache.lookup url = some entry) :
    KeptFor fetches history url entry.der entry.fetchedAt ∧
      entry.fetchedAt ≤ world.clock := by
  induction executes with
  | start => cases found
  | @next history state later event executed stepped induction =>
      rcases stepped.cache_cases with ⟨ticked, same | ⟨gone, removed⟩ | empty |
        ⟨source, crlBytes, order, validity, rfl, downloaded, parsed, inserted⟩⟩
      · rw [same] at found
        rcases induction found with ⟨kept, past⟩
        exact ⟨kept.append, past.trans ticked⟩
      · rw [removed] at found
        rcases induction (lookup_of_erase found) with ⟨kept, past⟩
        exact ⟨kept.append, past.trans ticked⟩
      · rw [empty] at found
        cases found
      · rcases lookup_of_insertCacheEntry inserted found with
          ⟨rfl, rfl⟩ | before
        · refine
            ⟨⟨source, rfl,
                (deliveredTo_of_downloaded executed downloaded).append, ?_⟩,
              ticked⟩
          simp
        · rcases induction before with ⟨kept, past⟩
          exact ⟨kept.append, past.trans ticked⟩

/-- The cache is within its bounds, and every entry has its own window. -/
theorem cache_of_executes
    (executes :
      Executes (Step crates fetches) (World.initial clock) history world) :
    Bounded world.shared.cache ∧ FaithfulWindows crates world.shared.cache := by
  induction executes with
  | start =>
      refine ⟨bounded_empty, ?_⟩
      intro url entry found
      cases found
  | @next history state later event executed stepped induction =>
      rcases induction with ⟨bounded, faithful⟩
      rcases stepped.cache_cases with ⟨_, same | ⟨gone, removed⟩ | empty |
        ⟨source, crlBytes, order, validity, rfl, downloaded, parsed, inserted⟩⟩
      · rw [same]
        exact ⟨bounded, faithful⟩
      · rw [removed]
        exact ⟨bounded.erase gone, faithful.erase gone⟩
      · rw [empty]
        refine ⟨bounded_empty, ?_⟩
        intro url entry found
        cases found
      · rcases apply_bounded bounded (.insert order (fetches source).url
            ⟨crlBytes, state.clock, validity⟩) with
          ⟨result, applied, within⟩
        rw [Operation.apply, inserted, Except.ok.injEq] at applied
        exact ⟨applied ▸ within, faithful.insert parsed inserted⟩

/-- What a fetch returns was found in the cache or delivered to it. -/
theorem source_of_returned
    (executes :
      Executes (Step crates fetches) (World.initial clock) history world)
    {der : Bytes} (returned : world.phase session = .returned (.ok der)) :
    DeliveredTo fetches history session der ∨
      ∃ instant utcNow,
        .lookedUp session instant utcNow (.ok (some der)) ∈ history := by
  induction executes with
  | start => cases returned
  | @next history state later event executed stepped induction =>
      rcases stepped.phase_cases returned with
        before | ⟨utcNow, result, rfl, same⟩ |
          ⟨exchanges, outcome, _, _, same⟩ |
          ⟨octets, result, rfl, downloaded, same⟩
      · rcases induction before with delivered | ⟨instant, utcNow, member⟩
        · exact .inl delivered.append
        · exact .inr ⟨instant, utcNow, List.mem_append_left _ member⟩
      · rcases result with e | _ | octets <;> cases same
        exact .inr ⟨state.clock, utcNow, by simp⟩
      · rcases outcome with e | octets <;> cases same
      · rcases result with e | _ <;> cases same
        exact .inl (deliveredTo_of_downloaded executed downloaded).append

end Runs

/-! ## A fetch on its own -/

/-- An event of this fetch, or one of time only. -/
def Event.OfAlone (session : Session) : Event Session → Prop
  | .lookedUp other _ _ _ => other = session
  | .asked other _ _ => other = session
  | .kept other _ _ => other = session
  | .cleared => False
  | .passed _ => True

/-- A fetch from where it has downloaded a CRL. -/
def finish (crates : Crates) (fetch : Fetch) (around : Surroundings)
    (shared : SharedCache) (crlBytes : Bytes) :
    Except LtvError Bytes × SharedCache :=
  match
    keep crates around.order shared fetch.url crlBytes around.fetchedAt
  with
  | (.error e, shared) => (.error e, shared)
  | (.ok (), shared) => (.ok crlBytes, shared)

/-- What a fetch still does from a phase on. -/
def remaining (crates : Crates) (fetch : Fetch) (around : Surroundings)
    (shared : SharedCache) : Phase → Except LtvError Bytes × SharedCache
  | .called =>
      fetchCrlWithFreshness crates fetch.client shared fetch.url
        fetch.freshness around
  | .missed =>
      match download fetch.client fetch.url around.exchange with
      | .error e => (.error e, shared)
      | .ok crlBytes => finish crates fetch around shared crlBytes
  | .downloaded crlBytes => finish crates fetch around shared crlBytes
  | .returned result => (result, shared)

section Alone

variable {crates : Crates} {fetch : Fetch} {around : Surroundings}
variable {shared : SharedCache}

theorem remaining_called :
    remaining crates fetch around shared .called =
      remaining crates fetch around
        (lookUp crates fetch.client shared fetch.url around.elapsedSince
          around.utcNow fetch.freshness).2
        (.afterLookUp
          (lookUp crates fetch.client shared fetch.url around.elapsedSince
            around.utcNow fetch.freshness).1) := by
  rw [remaining, fetchCrlWithFreshness]
  rcases lookUp crates fetch.client shared fetch.url around.elapsedSince
    around.utcNow fetch.freshness with ⟨e | _ | der, shared⟩ <;> rfl

theorem remaining_missed :
    remaining crates fetch around shared .missed =
      remaining crates fetch around shared
        (.afterDownload (download fetch.client fetch.url around.exchange)) := by
  rw [remaining]
  cases download fetch.client fetch.url around.exchange <;> rfl

theorem remaining_downloaded {crlBytes : Bytes} :
    remaining crates fetch around shared (.downloaded crlBytes) =
      remaining crates fetch around
        (keep crates around.order shared fetch.url crlBytes
          around.fetchedAt).2
        (.afterKeep crlBytes
          (keep crates around.order shared fetch.url crlBytes
            around.fetchedAt).1) := by
  rw [remaining, finish]
  rcases keep crates around.order shared fetch.url crlBytes around.fetchedAt
    with ⟨e | _, shared⟩ <;> rfl

/-- A fetch that has looked up does not look at these clocks again. -/
theorem remaining_afterLookUp
    (elapsedSince : Instant → Nat) (utcNow : DateTime)
    (looked : Except LtvError (Option Bytes)) :
    remaining crates fetch
        { around with elapsedSince := elapsedSince, utcNow := utcNow } shared
        (.afterLookUp looked) =
      remaining crates fetch around shared (.afterLookUp looked) := by
  rcases looked with e | _ | der <;> rfl

theorem remaining_afterDownload
    (exchange : CrlFetch.Exchange) (outcome : Except LtvError Bytes) :
    remaining crates fetch { around with exchange := exchange } shared
        (.afterDownload outcome) =
      remaining crates fetch around shared (.afterDownload outcome) := by
  cases outcome <;> rfl

theorem remaining_afterKeep
    (order : IterationOrder) (fetchedAt : Instant) (crlBytes : Bytes)
    (kept : Except LtvError Unit) :
    remaining crates fetch
        { around with order := order, fetchedAt := fetchedAt } shared
        (.afterKeep crlBytes kept) =
      remaining crates fetch around shared (.afterKeep crlBytes kept) := by
  cases kept <;> rfl

variable [DecidableEq Session] {fetches : Session → Fetch}
variable {history : List (Event Session)} {world later : World Session}
variable {session : Session}

/-- A fetch that nothing interferes with does what is left of it. -/
theorem exists_remaining_of_executes
    {result : Except LtvError Bytes}
    (executes : Executes (Step crates fetches) world history later)
    (alone : ∀ event ∈ history, event.OfAlone session)
    (returned : later.phase session = .returned result) :
    ∃ around,
      remaining crates (fetches session) around world.shared
          (world.phase session) =
        (result, later.shared) := by
  induction history generalizing world with
  | nil =>
      rw [Executes.nil_iff] at executes
      subst executes
      have order : Nonempty IterationOrder := inferInstance
      rcases order with ⟨order⟩
      exact
        ⟨⟨fun _ => 0, minUtc, ⟨none, .error ""⟩, order, 0⟩, by
          rw [returned, remaining]⟩
  | cons event history induction =>
      rcases Executes.cons_iff.mp executes with ⟨next, step, rest⟩
      rcases List.forall_mem_cons.mp alone with ⟨own, alone⟩
      rcases induction rest alone with ⟨around, remains⟩
      cases step with
      | lookUp other utcNow called =>
          cases own
          rw [World.goOn_phase, Function.update_self] at remains
          rw [called]
          refine
            ⟨{ around with
                elapsedSince := fun fetchedAt => world.clock - fetchedAt
                utcNow := utcNow }, ?_⟩
          rw [remaining_called, remaining_afterLookUp]
          exact remains
      | ask other exchanges outcome missed asked =>
          cases own
          rcases exists_download_of_returns asked with ⟨exchange, rfl⟩
          rw [World.goOn_phase, Function.update_self] at remains
          rw [missed]
          refine ⟨{ around with exchange := exchange }, ?_⟩
          rw [remaining_missed, remaining_afterDownload]
          exact remains
      | keep other crlBytes order downloaded =>
          cases own
          rw [World.goOn_phase, Function.update_self] at remains
          rw [downloaded]
          refine
            ⟨{ around with order := order, fetchedAt := world.clock }, ?_⟩
          rw [remaining_downloaded, remaining_afterKeep]
          exact remains
      | clear => cases own
      | pass clock later => exact ⟨around, remains⟩

end Alone

/--
Any number of fetches over one cache, in any order of their steps: the cache
stays within its bounds.  What a fetch returns is within its own cap, and was
delivered for its own URL; to itself, or to a fetch that had kept it before,
less than the grace period of this fetch ago, and it was current at the instant
at which it was served.  A fetch that nothing comes in between does what the
sequential fetch does.
-/
theorem sharedFetches_delivered
    [DecidableEq Session] (crates : Crates) (fetches : Session → Fetch)
    (clock : Instant) (history : List (Event Session)) (world : World Session)
    (executes :
      Executes (Step crates fetches) (World.initial clock) history world) :
    Bounded world.shared.cache ∧
      (∀ session der, world.phase session = .returned (.ok der) →
        der.length ≤ (fetches session).client.maxBodySize ∧
          (DeliveredTo fetches history session der ∨
            ∃ past instant utcNow future fetchedAt,
              history =
                  past ++
                    .lookedUp session instant utcNow (.ok (some der)) ::
                      future ∧
                KeptFor fetches past (fetches session).url der fetchedAt ∧
                fetchedAt ≤ instant ∧
                instant - fetchedAt < (fetches session).client.gracePeriod ∧
                crlIsCurrent crates der utcNow (fetches session).freshness =
                  .ok true)) ∧
      ∀ session further later result,
        world.phase session = .called →
          Executes (Step crates fetches) world further later →
            (∀ event ∈ further, event.OfAlone session) →
              later.phase session = .returned result →
                ∃ around,
                  fetchCrlWithFreshness crates (fetches session).client
                      world.shared (fetches session).url
                      (fetches session).freshness around =
                    (result, later.shared) := by
  refine ⟨(cache_of_executes executes).1, ?_, ?_⟩
  · intro session der returned
    rcases source_of_returned executes returned with
      delivered | ⟨instant, utcNow, member⟩
    · refine ⟨?_, .inl delivered⟩
      rcases delivered with ⟨response, _, _, delivers, _⟩
      exact delivers.short
    · rcases executes.of_mem member with
        ⟨past, future, before, after, split, began, looked⟩
      rcases looked.of_lookedUp with ⟨rfl, served⟩
      rcases lookUp_eq_some served with ⟨entry, found, rfl, recent, current⟩
      rcases keptFor_of_lookup began found with ⟨kept, earlier⟩
      refine
        ⟨length_le_of_lookUp served,
          .inr
            ⟨past, before.clock, utcNow, future, entry.fetchedAt, split, kept,
              earlier, recent, ?_⟩⟩
      rw [crlIsCurrent_eq, (cache_of_executes began).2 _ entry found]
      exact current
  · intro session further later result called executes alone returned
    rcases exists_remaining_of_executes executes alone returned with
      ⟨around, remains⟩
    rw [called] at remains
    exact ⟨around, remains⟩

/-! ## Two fetches of one URL -/

section Reference

open RitspLtv.Reference

def sharedUrl : Bytes := asciiBytes "http://ca.test/root.crl"

/-- A CRL of the root, valid from 2026 to 2030. -/
def sharedCrl : Bytes :=
  encodeSigned
    (encodeTbsCertList ecdsaWithSha256 root.tbsCertificate.subject
      (.utcTime year2026) (.utcTime year2030) [([9], .utcTime year2025)])
    ecdsaWithSha256 (publicKey 0xA1)

/-- Two clones of a client; the second one has a smaller cap. -/
def sharedFetches (second : Bool) : Fetch where
  client :=
    { timeout := "10s"
      gracePeriod := 60000000000
      maxBodySize := if second then 400 else 4000
      freshness := .default }
  url := sharedUrl
  freshness := .default

def sharedAnswer : Response where
  isSuccess := true
  status := "200 OK"
  contentLength := some sharedCrl.length
  chunks := [sharedCrl.take 40, sharedCrl.drop 40]
  failure := none

/-- The window of the CRL. -/
def sharedValidity : CrlValidity :=
  ⟨year2026.instant, some year2030.instant⟩

theorem fromDer_sharedCrl :
    CrlValidity.fromDer (Reference.crates known) sharedCrl =
      .ok sharedValidity := by
  decide +kernel

theorem returns_downloadCrl_sharedCrl :
    Task.Returns (downloadCrl (sharedFetches false).client sharedUrl)
      [checked sharedUrl (some (.ok ())),
        sent (get sharedUrl) (.ok sharedAnswer)]
      (.ok sharedCrl) :=
  returns_downloadCrl_ok_iff.mpr ⟨.ok sharedAnswer, rfl, by decide +kernel⟩

/-- What is downloaded is in the cache afterwards. -/
theorem exists_keep_sharedCrl :
    ∃ order cache,
      keep (Reference.crates known) order ⟨∅, false⟩ sharedUrl sharedCrl 0 =
          (.ok (), ⟨cache, false⟩) ∧
        cache.lookup sharedUrl = some ⟨sharedCrl, 0, sharedValidity⟩ := by
  have nonempty : Nonempty IterationOrder := inferInstance
  rcases nonempty with ⟨order⟩
  rcases insertCacheEntry_spec order ∅ sharedUrl
      ⟨sharedCrl, 0, sharedValidity⟩ (by decide +kernel) with
    ⟨_, inserted, _, _, kept, rfl, _⟩
  refine ⟨order, _, ?_, Finmap.lookup_insert kept⟩
  rw [keep, fromDer_sharedCrl, cacheFetched, fromDer_sharedCrl]
  simp only [inserted, Bool.false_eq_true, if_false]

/-- The entry is current, and within the cap of the second client. -/
theorem lookUp_sharedCrl
    {cache : Cache}
    (found : cache.lookup sharedUrl = some ⟨sharedCrl, 0, sharedValidity⟩) :
    lookUp (Reference.crates known) (sharedFetches true).client ⟨cache, false⟩
        sharedUrl (fun fetchedAt => 5000000000 - fetchedAt) checkedAt
        .default =
      (.ok (some sharedCrl), ⟨cache, false⟩) := by
  have recent : 5000000000 - 0 < (sharedFetches true).client.gracePeriod := by
    decide
  have current :
      sharedValidity.isCurrent (Reference.crates known) checkedAt .default =
        .ok true := by
    decide +kernel
  have small :
      ¬ sharedCrl.length > (sharedFetches true).client.maxBodySize := by
    decide +kernel
  simp only [lookUp, lookupCache, found, Bool.false_eq_true, if_false, current,
    if_pos recent, if_neg small]

/-- The first fetch has downloaded the CRL. -/
def downloadedWorld : World Bool :=
  ((World.initial 0).goOn false ⟨∅, false⟩ .missed).goOn false ⟨∅, false⟩
    (.downloaded sharedCrl)

/-- Five seconds after the first fetch has kept the CRL. -/
def keptWorld (cache : Cache) : World Bool :=
  { downloadedWorld.goOn false ⟨cache, false⟩ (.returned (.ok sharedCrl)) with
    clock := 5000000000 }

/-- The second fetch is served what the first one has kept. -/
def sharedHistory : List (Event Bool) :=
  [.lookedUp false 0 checkedAt (.ok none),
    .asked false
      [checked sharedUrl (some (.ok ())),
        sent (get sharedUrl) (.ok sharedAnswer)]
      (.ok sharedCrl),
    .kept false sharedCrl 0, .passed 5000000000,
    .lookedUp true 5000000000 checkedAt (.ok (some sharedCrl))]

theorem executes_sharedHistory :
    ∃ cache,
      Executes (Step (Reference.crates known) sharedFetches) (World.initial 0)
        sharedHistory
        ((keptWorld cache).goOn true ⟨cache, false⟩
          (.returned (.ok sharedCrl))) := by
  rcases exists_keep_sharedCrl with ⟨order, cache, kept, found⟩
  refine ⟨cache, ?_⟩
  have first :=
    @Step.lookUp _ _ (Reference.crates known) sharedFetches (World.initial 0)
      false checkedAt rfl
  have second :=
    @Step.ask _ _ (Reference.crates known) sharedFetches
      ((World.initial 0).goOn false ⟨∅, false⟩ .missed) false _ _ rfl
      returns_downloadCrl_sharedCrl
  have third :=
    @Step.keep _ _ (Reference.crates known) sharedFetches downloadedWorld false
      sharedCrl order rfl
  have fourth :=
    @Step.pass _ _ (Reference.crates known) sharedFetches
      (downloadedWorld.goOn false ⟨cache, false⟩ (.returned (.ok sharedCrl)))
      5000000000 (Nat.zero_le _)
  have fifth :=
    @Step.lookUp _ _ (Reference.crates known) sharedFetches (keptWorld cache)
      true checkedAt rfl
  have stored :
      downloadedWorld.keep (Reference.crates known) order (sharedFetches false)
          sharedCrl =
        (.ok (), ⟨cache, false⟩) :=
    kept
  have served :
      (keptWorld cache).lookUp (Reference.crates known) (sharedFetches true)
          checkedAt =
        (.ok (some sharedCrl), ⟨cache, false⟩) :=
    lookUp_sharedCrl found
  rw [stored] at third
  rw [served] at fifth
  simp only [sharedHistory, Executes.cons_iff, Executes.nil_iff]
  exact
    ⟨_, first, _, second, _, third, _, fourth, _, fifth, rfl⟩

/-- The second fetch has returned what the first one had kept before. -/
theorem sharedFetches_delivered_reference :
    ∃ world,
      Executes (Step (Reference.crates known) sharedFetches) (World.initial 0)
          sharedHistory world ∧
        world.phase true = .returned (.ok sharedCrl) ∧
        sharedCrl.length ≤ 400 := by
  rcases executes_sharedHistory with ⟨cache, executes⟩
  have returned :
      ((keptWorld cache).goOn true ⟨cache, false⟩
          (.returned (.ok sharedCrl))).phase true =
        .returned (.ok sharedCrl) := by
    rw [World.goOn_phase, Function.update_self]
  exact
    ⟨_, executes, returned,
      ((sharedFetches_delivered (Reference.crates known) sharedFetches 0
        sharedHistory _ executes).2.1 true sharedCrl returned).1⟩

end Reference

end RitspLtv.Ltv.CrlSharing
