import Mathlib.Algebra.GroupWithZero.Nat
import Mathlib.Data.List.MinMax
import RitspLtv.Foundation.OldestFirst
import RitspLtv.Ltv.Crl

/-!
# The CRL cache

Fetched CRLs are kept in memory by their URL, at most 64 of them and at most
32 MiB in total.  Inserting one first evicts the oldest ones, until there is room
for it.  The map they are kept in has no order of its own: which of several
equally old entries goes first depends on the order in which it is iterated,
about which nothing is assumed here.
-/

namespace RitspLtv.Ltv.CrlCache

open RitspLtv.Foundation.OldestFirst
open RitspLtv.RustStd
open RitspLtv.Chrono
open RitspLtv.Ltv.Crl

/-! ## Entries -/

/-- A reading of the monotonic clock, in nanoseconds. -/
abbrev Instant := Nat

/-- The window of a CRL. -/
structure CrlValidity where
  thisUpdate : DateTime
  nextUpdate : Option DateTime
  deriving DecidableEq

/-- A cached CRL. -/
structure CrlCacheEntry where
  der : Bytes
  fetchedAt : Instant
  validity : CrlValidity
  deriving DecidableEq

def CrlValidity.fromDer (crates : Crates) (der : Bytes) :
    Except LtvError CrlValidity := do
  let parsed ← parseCrl crates der
  pure ⟨parsed.thisUpdate, parsed.nextUpdate⟩

/-- The window reaches `now`, widened by the skew at both ends. -/
def CrlValidity.isCurrent (crates : Crates) (validity : CrlValidity)
    (now : DateTime) (freshness : CrlFreshness) : Except LtvError Bool := do
  let latest ← addOrPanic now freshness.clockSkew
  if latest < validity.thisUpdate then pure false
  else
    match
      validateCrlDates crates validity.thisUpdate validity.nextUpdate now
        freshness
    with
    | .ok () => pure true
    | .error (.panicked message) => .error (.panicked message)
    | .error _ => pure false

/-- The cache: at most one entry for each URL. -/
abbrev Cache := Map Bytes CrlCacheEntry

def maxCacheBytes : Nat := 32 * 1024 * 1024

def maxCacheEntries : Nat := 64

/-- The total size of the CRLs. -/
def derBytes (cache : Cache) : Nat :=
  totalWeight (fun item => item.der.length) cache

/-- An order in which a map is iterated. -/
structure IterationOrder where
  iter : Cache → List (Entry Bytes CrlCacheEntry)
  complete :
    ∀ cache, (iter cache : Multiset (Entry Bytes CrlCacheEntry)) = cache.entries

instance : Nonempty IterationOrder :=
  ⟨⟨fun cache => cache.entries.toList, fun _ => Multiset.coe_toList _⟩⟩

/-! ## Insertion -/

/-- The cache and its running byte count. -/
structure EvictionState where
  cache : Cache
  bytes : Nat

/-- One round of the eviction loop. -/
inductive Round where
  | again (state : EvictionState)
  | finished
  | underflow

/-- How the eviction loop may fail. -/
inductive LoopFailure where
  | underflow
  | unfinished
  deriving DecidableEq, Repr

/-- A CRL of `incoming` octets does not fit beside the cache. -/
def IsFull (incoming : Nat) (state : EvictionState) : Prop :=
  count state.cache ≥ maxCacheEntries ∨ state.bytes > maxCacheBytes - incoming

instance (incoming : Nat) (state : EvictionState) :
    Decidable (IsFull incoming state) :=
  inferInstanceAs (Decidable (_ ∨ _))

/-- Remove the first of the oldest entries, while the cache is full. -/
def evictRound (order : IterationOrder) (incoming : Nat)
    (state : EvictionState) : Round :=
  if IsFull incoming state then
    match (order.iter state.cache).argmin fun item => item.2.fetchedAt with
    | none => .finished
    | some oldest =>
        match state.cache.lookup oldest.1 with
        | none => .again ⟨state.cache.erase oldest.1, state.bytes⟩
        | some removed =>
            if state.bytes < removed.der.length then .underflow
            else
              .again
                ⟨state.cache.erase oldest.1,
                  state.bytes - removed.der.length⟩
  else .finished

/-- The eviction loop; the count bounds the rounds. -/
def evictLoop (order : IterationOrder) (incoming : Nat) :
    Nat → EvictionState → Except LoopFailure EvictionState
  | 0, _ => .error .unfinished
  | fuel + 1, state =>
      match evictRound order incoming state with
      | .finished => .ok state
      | .underflow => .error .underflow
      | .again next => evictLoop order incoming fuel next

/-- A CRL or a URL of this size is not cached. -/
def Oversized (url : Bytes) (entry : CrlCacheEntry) : Prop :=
  entry.der.length > maxCacheBytes ∨ url.length > 8192

instance (url : Bytes) (entry : CrlCacheEntry) :
    Decidable (Oversized url entry) :=
  inferInstanceAs (Decidable (_ ∨ _))

def insertCacheEntry (order : IterationOrder) (cache : Cache) (url : Bytes)
    (entry : CrlCacheEntry) : Except LoopFailure Cache :=
  if Oversized url entry then .ok cache
  else do
    let cache := cache.erase url
    let state ←
      evictLoop order entry.der.length (count cache + 1)
        ⟨cache, derBytes cache⟩
    pure (state.cache.insert url entry)

/-! ## Using the cache -/

/-- Look a URL up; what is not current is removed. -/
def lookupCache (crates : Crates) (cache : Cache) (url : Bytes)
    (elapsedSince : Instant → Nat) (gracePeriod maxBodySize : Nat)
    (utcNow : DateTime) (freshness : CrlFreshness) :
    Except LtvError (Option Bytes) × Cache :=
  match cache.lookup url with
  | none => (.ok none, cache.erase url)
  | some entry =>
      if elapsedSince entry.fetchedAt < gracePeriod then
        match entry.validity.isCurrent crates utcNow freshness with
        | .error e => (.error e, cache)
        | .ok true =>
            if entry.der.length > maxBodySize then
              (.error (.crl "cached CRL exceeds max body size"), cache)
            else (.ok (some entry.der), cache)
        | .ok false => (.ok none, cache.erase url)
      else (.ok none, cache.erase url)

/-- Keep a fetched CRL, if it parses. -/
def cacheFetched (crates : Crates) (order : IterationOrder) (cache : Cache)
    (url crlBytes : Bytes) (now : Instant) : Except LoopFailure Cache :=
  match CrlValidity.fromDer crates crlBytes with
  | .error _ => .ok cache
  | .ok validity => insertCacheEntry order cache url ⟨crlBytes, now, validity⟩

/-- The operations on the cache. -/
inductive Operation where
  | insert (order : IterationOrder) (url : Bytes) (entry : CrlCacheEntry)
  | remove (url : Bytes)
  | clear

def Operation.apply (cache : Cache) :
    Operation → Except LoopFailure Cache
  | .insert order url entry => insertCacheEntry order cache url entry
  | .remove url => .ok (cache.erase url)
  | .clear => .ok ∅

/-- The cache after operations on an empty one. -/
def run (operations : List Operation) : Except LoopFailure Cache :=
  operations.foldlM Operation.apply ∅

/-! ## The eviction loop -/

/-- A CRL of `incoming` octets does not fit beside these. -/
def Exceeds (incoming : Nat) (cache : Cache) : Prop :=
  IsFull incoming ⟨cache, derBytes cache⟩

/-- The running count is the size of what is stored. -/
def Counted (state : EvictionState) : Prop :=
  state.bytes = derBytes state.cache

section Loop

variable (order : IterationOrder) (incoming : Nat)

theorem not_exceeds_of_iter_nil
    {cache : Cache}
    (none : order.iter cache = []) :
    ¬ Exceeds incoming cache := by
  have empty : cache.entries = 0 := by
    rw [← order.complete, none]
    rfl
  rw [Exceeds, IsFull, count, derBytes, totalWeight, empty]
  simp [maxCacheEntries]

/-- A round ends the loop when there is room, or else removes an oldest entry. -/
theorem evictRound_cases
    {state : EvictionState}
    (counted : Counted state) :
    (evictRound order incoming state = .finished ∧
        ¬ Exceeds incoming state.cache) ∨
      ∃ key value,
        Exceeds incoming state.cache ∧
          state.cache.lookup key = some value ∧
          (∀ other ∈ state.cache.entries,
            value.fetchedAt ≤ other.2.fetchedAt) ∧
          evictRound order incoming state =
            .again ⟨state.cache.erase key, derBytes (state.cache.erase key)⟩ := by
  rcases state with ⟨cache, bytes⟩
  rw [Counted] at counted
  simp only at counted
  subst counted
  by_cases full : IsFull incoming ⟨cache, derBytes cache⟩
  · rw [evictRound, if_pos full]
    cases chosen : (order.iter cache).argmin fun item => item.2.fetchedAt with
    | none =>
        rw [List.argmin_eq_none] at chosen
        exact absurd full (not_exceeds_of_iter_nil order incoming chosen)
    | some oldest =>
        have member : oldest ∈ cache.entries := by
          rw [← order.complete, Multiset.mem_coe]
          exact List.argmin_mem chosen
        have found := lookup_of_mem_entries member
        refine Or.inr ⟨oldest.1, oldest.2, full, found, ?_, ?_⟩
        · intro other otherMember
          rw [← order.complete, Multiset.mem_coe] at otherMember
          exact
            @List.le_of_mem_argmin _ _ _
              (fun item : Entry Bytes CrlCacheEntry => item.2.fetchedAt) _ _ _
              otherMember chosen
        · have weighed :
              derBytes cache =
                oldest.2.der.length + derBytes (cache.erase oldest.1) :=
            totalWeight_of_lookup _ found
          simp only [found]
          rw [if_neg (Nat.not_lt.mpr (weighed ▸ Nat.le_add_right _ _)),
            weighed, Nat.add_sub_cancel_left]
  · rw [evictRound, if_neg full]
    exact Or.inl ⟨rfl, full⟩

/-- The states that the loop goes through. -/
inductive Reaches : EvictionState → EvictionState → Prop where
  | start (state : EvictionState) : Reaches state state
  | round {state next last : EvictionState}
      (again : evictRound order incoming state = .again next)
      (rest : Reaches next last) : Reaches state last

variable {order incoming}

/-- The running count stays right, and never underflows. -/
theorem counted_of_reaches
    {state last : EvictionState}
    (reaches : Reaches order incoming state last)
    (counted : Counted state) :
    Counted last ∧ evictRound order incoming last ≠ .underflow := by
  induction reaches with
  | start state =>
      refine ⟨counted, ?_⟩
      intro underflow
      rcases evictRound_cases order incoming counted with
        ⟨finished, _⟩ | ⟨_, _, _, _, _, again⟩
      · rw [finished] at underflow
        cases underflow
      · rw [again] at underflow
        cases underflow
  | @round state next last again rest induction =>
      apply induction
      rcases evictRound_cases order incoming counted with
        ⟨finished, _⟩ | ⟨_, _, _, _, _, removed⟩
      · rw [finished] at again
        cases again
      · rw [removed] at again
        cases again
        rfl

/-- With a round for each entry the loop makes room, oldest entries first. -/
theorem evictLoop_spec
    {fuel : Nat} {state : EvictionState}
    (counted : Counted state)
    (enough : count state.cache < fuel) :
    ∃ evicted kept,
      evictLoop order incoming fuel state = .ok ⟨kept, derBytes kept⟩ ∧
        Evicts CrlCacheEntry.fetchedAt (Exceeds incoming) state.cache evicted
          kept ∧
        ¬ Exceeds incoming kept := by
  induction fuel generalizing state with
  | zero => exact absurd enough (Nat.not_lt_zero _)
  | succ fuel induction =>
      rw [evictLoop]
      rcases evictRound_cases order incoming counted with
        ⟨finished, room⟩ | ⟨key, value, full, found, oldest, again⟩
      · rw [finished]
        refine ⟨[], state.cache, ?_, .done _, room⟩
        rw [← show state.bytes = derBytes state.cache from counted]
      · rw [again]
        have fewer : count (state.cache.erase key) < fuel := by
          rw [count_of_lookup found] at enough
          exact Nat.lt_of_succ_lt_succ enough
        rcases
          @induction ⟨state.cache.erase key, derBytes (state.cache.erase key)⟩
            rfl fewer with
          ⟨evicted, kept, ran, evicts, room⟩
        exact
          ⟨⟨key, value⟩ :: evicted, kept, ran,
            .evict full found oldest evicts, room⟩

end Loop

/-! ## The bounds -/

/-- The cache is within both bounds. -/
structure Bounded (cache : Cache) : Prop where
  entries : count cache ≤ maxCacheEntries
  bytes : derBytes cache ≤ maxCacheBytes

theorem bounded_empty : Bounded ∅ :=
  ⟨Nat.zero_le _, Nat.zero_le _⟩

theorem Bounded.erase
    {cache : Cache}
    (bounded : Bounded cache) (url : Bytes) :
    Bounded (cache.erase url) := by
  have less := erase_le (fun item => item.der.length) cache url
  exact ⟨less.1.trans bounded.entries, less.2.trans bounded.bytes⟩

/-- The size of some entries. -/
def entryBytes (entries : List (Entry Bytes CrlCacheEntry)) : Nat :=
  (entries.map fun entry => entry.2.der.length).sum

/--
The result of inserting an entry: the entries evicted besides the one of the
same URL are no newer than those kept, and each was evicted when it, those
evicted after it and those kept left no room for the new one.
-/
def MakesRoomFor (cache : Cache) (url : Bytes) (entry : CrlCacheEntry)
    (result : Cache) : Prop :=
  ∃ (evicted : List (Entry Bytes CrlCacheEntry)) (kept : Cache),
    result = kept.insert url entry ∧
      (cache.erase url).entries = ↑evicted + kept.entries ∧
      (∀ gone ∈ evicted, ∀ held ∈ kept.entries,
        gone.2.fetchedAt ≤ held.2.fetchedAt) ∧
      ∀ before gone after, evicted = before ++ gone :: after →
        maxCacheEntries < (gone :: after).length + count kept + 1 ∨
          maxCacheBytes <
            entryBytes (gone :: after) + derBytes kept + entry.der.length

/-- Where the cache was full, one more entry breaks a bound. -/
theorem breaks_of_exceeds
    {cache kept : Cache} {rest : List (Entry Bytes CrlCacheEntry)}
    {incoming : Nat}
    (exceeds : Exceeds incoming cache)
    (parts : cache.entries = ↑rest + kept.entries) :
    maxCacheEntries < rest.length + count kept + 1 ∨
      maxCacheBytes < entryBytes rest + derBytes kept + incoming := by
  have counted : count cache = rest.length + count kept := by
    rw [count, parts, Multiset.card_add, Multiset.coe_card]
    rfl
  have weighed : derBytes cache = entryBytes rest + derBytes kept := by
    rw [derBytes, totalWeight, parts, Multiset.map_add, Multiset.sum_add,
      Multiset.map_coe, Multiset.sum_coe]
    rfl
  rcases exceeds with tooMany | tooLarge
  · rw [counted] at tooMany
    exact Or.inl (Nat.lt_succ_of_le tooMany)
  · simp only [weighed] at tooLarge
    exact Or.inr (by omega)

/-- An admitted entry is inserted, and the bounds hold afterwards. -/
theorem insertCacheEntry_spec
    (order : IterationOrder) (cache : Cache) (url : Bytes)
    (entry : CrlCacheEntry)
    (admitted : ¬ Oversized url entry) :
    ∃ result,
      insertCacheEntry order cache url entry = .ok result ∧
        Bounded result ∧ MakesRoomFor cache url entry result := by
  rcases
    @evictLoop_spec order entry.der.length (count (cache.erase url) + 1)
      ⟨cache.erase url, derBytes (cache.erase url)⟩ rfl (Nat.lt_succ_self _) with
    ⟨evicted, kept, ran, evicts, room⟩
  have parts := evicts.entries
  have absent : url ∉ kept := by
    intro present
    rcases Finmap.mem_iff.mp present with ⟨value, found⟩
    have member : ⟨url, value⟩ ∈ (cache.erase url).entries := by
      rw [parts, entries_of_lookup found]
      exact Multiset.mem_add.mpr (Or.inr (Multiset.mem_cons_self _ _))
    have stillFound := lookup_of_mem_entries member
    rw [Finmap.lookup_erase] at stillFound
    cases stillFound
  refine ⟨kept.insert url entry, ?_, ?_, evicted, kept, rfl, parts, evicts.oldest, ?_⟩
  · rw [insertCacheEntry, if_neg admitted]
    simp only [ran]
    rfl
  · rw [Exceeds, IsFull, not_or] at room
    rw [Oversized, not_or] at admitted
    constructor
    · rw [count_insert entry absent]
      exact Nat.succ_le_of_lt (Nat.not_le.mp room.1)
    · rw [derBytes, totalWeight_insert _ entry absent]
      have small : derBytes kept ≤ maxCacheBytes - entry.der.length :=
        Nat.not_lt.mp room.2
      have fits : entry.der.length ≤ maxCacheBytes := Nat.not_lt.mp admitted.1
      rw [← Nat.add_sub_cancel' fits]
      exact Nat.add_le_add_left small _
  · intro before gone after split
    rcases evicts.needed split with ⟨full, exceeds, fullParts⟩
    exact breaks_of_exceeds exceeds fullParts

theorem apply_bounded
    {cache : Cache}
    (bounded : Bounded cache) (operation : Operation) :
    ∃ result, operation.apply cache = .ok result ∧ Bounded result := by
  cases operation with
  | insert order url entry =>
      by_cases oversized : Oversized url entry
      · exact ⟨cache, if_pos oversized, bounded⟩
      · rcases insertCacheEntry_spec order cache url entry oversized with
          ⟨result, inserted, within, _⟩
        exact ⟨result, inserted, within⟩
  | remove url => exact ⟨cache.erase url, rfl, bounded.erase url⟩
  | clear => exact ⟨∅, rfl, bounded_empty⟩

/-- Operations keep a cache within its bounds. -/
theorem foldlM_apply_bounded
    {cache : Cache}
    (bounded : Bounded cache) (operations : List Operation) :
    ∃ result,
      operations.foldlM Operation.apply cache = .ok result ∧
        Bounded result := by
  induction operations generalizing cache with
  | nil => exact ⟨cache, rfl, bounded⟩
  | cons operation rest induction =>
      rcases apply_bounded bounded operation with ⟨next, applied, within⟩
      rw [List.foldlM_cons, applied]
      exact induction within

/--
Every sequence of operations runs to its end and leaves a cache within its
bounds.  From there an oversized entry changes nothing; for any other, the loop's
running count stays right and never underflows, the loop ends, and the entry is
in the cache afterwards, in which the oldest entries have made room for it.
-/
theorem run_bounded (operations : List Operation) :
    ∃ cache,
      run operations = .ok cache ∧ Bounded cache ∧
        ∀ (order : IterationOrder) (url : Bytes) (entry : CrlCacheEntry),
          (Oversized url entry →
            insertCacheEntry order cache url entry = .ok cache) ∧
          (¬ Oversized url entry →
            (∀ state,
              Reaches order entry.der.length
                  ⟨cache.erase url, derBytes (cache.erase url)⟩ state →
                state.bytes = derBytes state.cache ∧
                  evictRound order entry.der.length state ≠ .underflow) ∧
            ∃ result,
              insertCacheEntry order cache url entry = .ok result ∧
                result.lookup url = some entry ∧
                MakesRoomFor cache url entry result) := by
  rcases foldlM_apply_bounded bounded_empty operations with
    ⟨cache, ran, bounded⟩
  refine ⟨cache, ran, bounded, ?_⟩
  intro order url entry
  constructor
  · intro oversized
    exact if_pos oversized
  · intro admitted
    constructor
    · intro state reaches
      exact counted_of_reaches reaches rfl
    · rcases insertCacheEntry_spec order cache url entry admitted with
        ⟨result, inserted, _, evicted, kept, rfl, makesRoom⟩
      exact
        ⟨_, inserted, Finmap.lookup_insert kept, evicted, kept, rfl,
          makesRoom⟩

/-- Looking up a URL removes its entry, if it changes the cache at all. -/
theorem lookupCache_eq_apply
    (crates : Crates) (cache : Cache) (url : Bytes)
    (elapsedSince : Instant → Nat) (gracePeriod maxBodySize : Nat)
    (utcNow : DateTime) (freshness : CrlFreshness) :
    (lookupCache crates cache url elapsedSince gracePeriod maxBodySize utcNow
        freshness).2 = cache ∨
      (Operation.remove url).apply cache =
        .ok
          (lookupCache crates cache url elapsedSince gracePeriod maxBodySize
            utcNow freshness).2 := by
  rw [lookupCache]
  split
  · exact Or.inr rfl
  · split
    · split
      · exact Or.inl rfl
      · split <;> exact Or.inl rfl
      · exact Or.inr rfl
    · exact Or.inr rfl

end RitspLtv.Ltv.CrlCache
