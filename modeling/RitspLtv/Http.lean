import RitspLtv.FetchGuard
import RitspLtv.Foundation.BoundedRead
import RitspLtv.Foundation.Conversation

/-!
# Requests over the network

The clients of the crate check a URL, draw random octets and send a request,
and whatever they do next depends on the answers.  Every request has to have a
check of its own URL behind the request before it.  Then each connection that a
hardened HTTP client makes for any request of any run is to an address that the
classifier does not refuse; such addresses are called public here.
-/

namespace RitspLtv.Http

open RitspLtv.Foundation.BoundedRead
open RitspLtv.Foundation.Checks
open RitspLtv.Foundation.Conversation
open RitspLtv.RustStd
open RitspLtv.Net
open RitspLtv.FetchGuard
open RitspLtv.Ltv.CrlFetch

/-! ## Questions and answers -/

inductive Method where
  | get
  | post
  deriving DecidableEq

/-- A request as it is handed to the HTTP client. -/
structure Request where
  method : Method
  url : Bytes
  contentType : Option String
  body : Bytes
  deriving DecidableEq

/-- What a client asks of its surroundings. -/
inductive Query where
  | checkUrl (url : Bytes)
  | randomBytes (count : Nat)
  | send (request : Request)

/-- Checking a URL may time out, and everything may fail. -/
def Answer : Query → Type
  | .checkUrl _ => Option (Except UrlGuardError Unit)
  | .randomBytes _ => Except String Bytes
  | .send _ => Except String Response

/-- What surrounds a client: the network and the random source. -/
def network : Port := ⟨Query, Answer⟩

/-- A URL has been checked. -/
def checked (url : Bytes) (answer : Option (Except UrlGuardError Unit)) :
    Exchange network :=
  ⟨.checkUrl url, answer⟩

/-- Random octets have been drawn. -/
def drew (count : Nat) (answer : Except String Bytes) : Exchange network :=
  ⟨.randomBytes count, answer⟩

/-- A request has been sent. -/
def sent (request : Request) (answer : Except String Response) :
    Exchange network :=
  ⟨.send request, answer⟩

section Asking

variable {ε : Type}

def checkUrl (url : Bytes) :
    Task network ε (Option (Except UrlGuardError Unit)) :=
  @Task.request network ε (Query.checkUrl url)

def randomBytes (count : Nat) : Task network ε (Except String Bytes) :=
  @Task.request network ε (Query.randomBytes count)

def send (request : Request) : Task network ε (Except String Response) :=
  @Task.request network ε (Query.send request)

variable {exchanges : List (Exchange network)}

theorem returns_checkUrl_iff
    {url : Bytes} {outcome : Except ε (Option (Except UrlGuardError Unit))} :
    Task.Returns (checkUrl url) exchanges outcome ↔
      ∃ answer, exchanges = [checked url answer] ∧ outcome = .ok answer :=
  @Task.returns_request_iff network ε exchanges (Query.checkUrl url) outcome

theorem returns_randomBytes_iff
    {count : Nat} {outcome : Except ε (Except String Bytes)} :
    Task.Returns (randomBytes count) exchanges outcome ↔
      ∃ answer, exchanges = [drew count answer] ∧ outcome = .ok answer :=
  @Task.returns_request_iff network ε exchanges (Query.randomBytes count)
    outcome

theorem returns_send_iff
    {request : Request} {outcome : Except ε (Except String Response)} :
    Task.Returns (send request) exchanges outcome ↔
      ∃ answer, exchanges = [sent request answer] ∧ outcome = .ok answer :=
  @Task.returns_request_iff network ε exchanges (Query.send request) outcome

end Asking

/-! ## Guarded requests -/

/-- An exchange that leaves the machine. -/
def IsEgress (exchange : Exchange network) : Prop :=
  ∃ request answer, exchange = sent request answer

/-- The URL of a request has been checked and may be fetched. -/
def Permits (permission exchange : Exchange network) : Prop :=
  ∃ request answer,
    exchange = sent request answer ∧
      permission = checked request.url (some (.ok ()))

/-- Every request has a check of its URL of its own. -/
def Guarded (exchanges : List (Exchange network)) : Prop :=
  Permitted IsEgress Permits exchanges

theorem not_isEgress_checked
    (url : Bytes) (answer : Option (Except UrlGuardError Unit)) :
    ¬ IsEgress (checked url answer) := by
  rintro ⟨request, other, same⟩
  cases same

theorem not_isEgress_drew (count : Nat) (answer : Except String Bytes) :
    ¬ IsEgress (drew count answer) := by
  rintro ⟨request, other, same⟩
  cases same

theorem sent_injective
    {request other : Request} {answer otherAnswer : Except String Response}
    (same : sent request answer = sent other otherAnswer) :
    request = other := by
  cases same
  rfl

theorem guarded_nil : Guarded [] :=
  .nil

theorem guarded_append
    (former latter : List (Exchange network))
    (guarded : Guarded former) (later : Guarded latter) :
    Guarded (former ++ latter) :=
  guarded.append later

/-! ## What is requested -/

/-- The request that an exchange sends. -/
def requestOf (exchange : Exchange network) : Option Request :=
  match exchange with
  | ⟨Query.send request, _⟩ => some request
  | _ => none

/-- The URLs that are requested, in their order. -/
def requestedUrls (exchanges : List (Exchange network)) : List Bytes :=
  (exchanges.filterMap requestOf).map Request.url

@[simp]
theorem requestedUrls_nil : requestedUrls [] = [] :=
  rfl

theorem requestedUrls_append (former latter : List (Exchange network)) :
    requestedUrls (former ++ latter) =
      requestedUrls former ++ requestedUrls latter := by
  rw [requestedUrls, List.filterMap_append, List.map_append]
  rfl

theorem requestOf_eq_none {exchange : Exchange network}
    (quiet : ¬ IsEgress exchange) : requestOf exchange = none := by
  rcases exchange with ⟨query, answer⟩
  cases query with
  | checkUrl url => rfl
  | randomBytes count => rfl
  | send request => exact absurd ⟨request, answer, rfl⟩ quiet

/-! ## One request behind its check -/

section GuardedRequest

variable {ε α β : Type}

/--
Check a URL, prepare a request for it and send it.  The clients differ in what
they say about a check that fails, in what they prepare, and in what they make
of the answer.
-/
def guardedRequest (url : Bytes)
    (validate : Option (Except UrlGuardError Unit) → Except ε Unit)
    (prepare : Task network ε α) (request : α → Request)
    (receive : α → Except String Response → Except ε β) :
    Task network ε β := do
  let check ← checkUrl url
  Task.ofExcept (validate check)
  let prepared ← prepare
  let answer ← send (request prepared)
  Task.ofExcept (receive prepared answer)

/-- Nothing is sent on the way. -/
def SendsNothing (exchanges : List (Exchange network)) : Prop :=
  ∀ exchange ∈ exchanges, ¬ IsEgress exchange

theorem sendsNothing_nil : SendsNothing [] := by
  intro exchange member
  cases member

theorem guarded_of_sendsNothing
    {exchanges : List (Exchange network)} (quiet : SendsNothing exchanges) :
    Guarded exchanges :=
  .of_free quiet

theorem sendsNothing_drew (count : Nat) (answer : Except String Bytes) :
    SendsNothing [drew count answer] := by
  intro exchange member
  rw [List.mem_singleton.mp member]
  exact not_isEgress_drew count answer

theorem sendsNothing_append
    (former latter : List (Exchange network))
    (quiet : SendsNothing former) (later : SendsNothing latter) :
    SendsNothing (former ++ latter) := by
  intro exchange member
  rcases List.mem_append.mp member with before | after
  · exact quiet exchange before
  · exact later exchange after

theorem always_sendsNothing_randomBytes (count : Nat) :
    Always SendsNothing (@randomBytes ε count) := by
  intro exchanges outcome returned
  rcases returns_randomBytes_iff.mp returned with ⟨answer, rfl, _⟩
  exact sendsNothing_drew count answer

theorem requestedUrls_of_sendsNothing
    {exchanges : List (Exchange network)} (quiet : SendsNothing exchanges) :
    requestedUrls exchanges = [] := by
  rw [requestedUrls, List.map_eq_nil_iff, List.filterMap_eq_nil_iff]
  intro exchange member
  exact requestOf_eq_none (quiet exchange member)

variable {url : Bytes}
variable {validate : Option (Except UrlGuardError Unit) → Except ε Unit}
variable {prepare : Task network ε α} {request : α → Request}
variable {receive : α → Except String Response → Except ε β}
variable {exchanges : List (Exchange network)}

/-- Behind a check that passes, the run ends with what is made of the answer. -/
theorem returns_guardedRequest_of_answered
    {check : Option (Except UrlGuardError Unit)}
    {between : List (Exchange network)} {prepared : α}
    (valid : validate check = .ok ())
    (began : Task.Returns prepare between (.ok prepared))
    (answer : Except String Response) :
    Task.Returns
      (guardedRequest url validate prepare request receive)
      (checked url check :: (between ++ [sent (request prepared) answer]))
      (receive prepared answer) := by
  have asked :
      Task.Returns (@checkUrl ε url) [checked url check] (.ok check) :=
    returns_checkUrl_iff.mpr ⟨check, rfl, rfl⟩
  have passed :
      @Task.Returns network _ _ (Task.ofExcept (validate check)) []
        (.ok ()) :=
    Task.returns_ofExcept_iff.mpr ⟨rfl, valid.symm⟩
  have answered :
      Task.Returns (@send ε (request prepared))
        [sent (request prepared) answer] (.ok answer) :=
    returns_send_iff.mpr ⟨answer, rfl, rfl⟩
  have ended :
      @Task.Returns network _ _ (Task.ofExcept (receive prepared answer)) []
        (receive prepared answer) :=
    Task.returns_ofExcept_iff.mpr ⟨rfl, rfl⟩
  exact asked.bind (passed.bind (began.bind (answered.bind ended)))

/-- A run that succeeds has gone through all its steps. -/
theorem returns_guardedRequest_ok_iff {result : β} :
    Task.Returns
        (guardedRequest url validate prepare request receive) exchanges
        (.ok result) ↔
      ∃ check between prepared answer,
        exchanges =
            checked url check ::
              (between ++ [sent (request prepared) answer]) ∧
          validate check = .ok () ∧
          Task.Returns prepare between (.ok prepared) ∧
          receive prepared answer = .ok result := by
  constructor
  · intro returned
    simp only [guardedRequest, Task.returns_bind_ok_iff,
      returns_checkUrl_iff, returns_send_iff, Task.returns_ofExcept_iff,
      Except.ok.injEq] at returned
    rcases returned with
      ⟨check, _, _, rfl, ⟨_, rfl, rfl⟩, _, _, _, rfl, ⟨rfl, valid⟩, prepared,
        between, _, rfl, began, answer, _, _, rfl, ⟨_, rfl, rfl⟩, rfl,
        received⟩
    exact
      ⟨check, between, prepared, answer, rfl, valid.symm, began,
        received.symm⟩
  · rintro ⟨check, between, prepared, answer, rfl, valid, began, received⟩
    rw [← received]
    exact returns_guardedRequest_of_answered valid began answer

/-- However a run ends, it sends nothing, or one request behind its check. -/
theorem exchanges_of_guardedRequest
    (passes : ∀ check, validate check = .ok () → check = some (.ok ()))
    {outcome : Except ε β}
    (returned :
      Task.Returns (guardedRequest url validate prepare request receive)
        exchanges outcome) :
    (∃ check between outcome,
      exchanges = checked url check :: between ∧
        (between = [] ∨ Task.Returns prepare between outcome)) ∨
    ∃ between prepared answer,
      exchanges =
          checked url (some (.ok ())) ::
            (between ++ [sent (request prepared) answer]) ∧
        Task.Returns prepare between (.ok prepared) := by
  rw [guardedRequest, Task.returns_bind_iff] at returned
  rcases returned with ⟨error, failed, _⟩ | ⟨check, _, _, rfl, asked, later⟩
  · rcases returns_checkUrl_iff.mp failed with ⟨check, rfl, impossible⟩
    cases impossible
  · rcases returns_checkUrl_iff.mp asked with ⟨_, rfl, same⟩
    cases same
    rw [Task.returns_bind_iff] at later
    rcases later with ⟨error, failed, _⟩ | ⟨_, _, _, rfl, valid, later⟩
    · rcases Task.returns_ofExcept_iff.mp failed with ⟨rfl, same⟩
      exact .inl ⟨check, [], .error error, rfl, .inl rfl⟩
    · rcases Task.returns_ofExcept_iff.mp valid with ⟨rfl, accepted⟩
      have passed := passes check accepted.symm
      subst passed
      rw [Task.returns_bind_iff] at later
      rcases later with
        ⟨error, failed, _⟩ | ⟨prepared, between, _, rfl, began, later⟩
      · exact .inl ⟨_, _, .error error, rfl, .inr failed⟩
      · refine .inr ⟨between, prepared, ?_⟩
        rw [Task.returns_bind_iff] at later
        rcases later with ⟨error, failed, _⟩ | ⟨answer, _, _, rfl, done, ends⟩
        · rcases returns_send_iff.mp failed with ⟨answer, rfl, impossible⟩
          cases impossible
        · rcases returns_send_iff.mp done with ⟨_, rfl, same⟩
          cases same
          rcases Task.returns_ofExcept_iff.mp ends with ⟨rfl, _⟩
          exact ⟨answer, rfl, began⟩

/-- One request behind its check is guarded, whatever comes of it. -/
theorem always_guarded_guardedRequest
    (passes : ∀ check, validate check = .ok () → check = some (.ok ()))
    (quiet : Always SendsNothing prepare)
    (same : ∀ prepared, (request prepared).url = url) :
    Always Guarded (guardedRequest url validate prepare request receive) := by
  intro exchanges outcome returned
  rcases exchanges_of_guardedRequest passes returned with
    ⟨check, between, ending, rfl, nothing⟩ |
      ⟨between, prepared, answer, rfl, began⟩
  · apply Permitted.of_free
    intro exchange member
    rcases List.mem_cons.mp member with rfl | later
    · exact not_isEgress_checked url check
    · rcases nothing with rfl | began
      · cases later
      · exact quiet between ending began exchange later
  · apply Permitted.use
    · exact not_isEgress_checked url _
    · exact quiet between _ began
    · exact ⟨request prepared, answer, rfl, by rw [same]⟩

/-- At most the URL itself is requested, and once. -/
theorem always_requestedUrls_guardedRequest
    (passes : ∀ check, validate check = .ok () → check = some (.ok ()))
    (quiet : Always SendsNothing prepare)
    (same : ∀ prepared, (request prepared).url = url) :
    Always (fun exchanges => (requestedUrls exchanges).Sublist [url])
      (guardedRequest url validate prepare request receive) := by
  intro exchanges outcome returned
  rcases exchanges_of_guardedRequest passes returned with
    ⟨check, between, ending, rfl, nothing⟩ |
      ⟨between, prepared, answer, rfl, began⟩
  · have silent : requestedUrls between = [] := by
      rcases nothing with rfl | began
      · rfl
      · exact requestedUrls_of_sendsNothing (quiet between ending began)
    rw [← List.singleton_append, requestedUrls_append, silent]
    exact List.nil_sublist _
  · have silent := requestedUrls_of_sendsNothing (quiet between _ began)
    rw [← List.singleton_append, requestedUrls_append, requestedUrls_append,
      silent]
    show [(request prepared).url].Sublist [url]
    rw [same]

/-- How a client reads the check of a URL. -/
def readUrlCheck (timedOut : ε) (rejected : String → ε) :
    Option (Except UrlGuardError Unit) → Except ε Unit
  | none => .error timedOut
  | some check => check.mapError fun e => rejected e.display

theorem passes_of_readUrlCheck
    {timedOut : ε} {rejected : String → ε}
    (check : Option (Except UrlGuardError Unit))
    (valid : readUrlCheck timedOut rejected check = .ok ()) :
    check = some (.ok ()) := by
  cases check with
  | none => cases valid
  | some check =>
      rw [readUrlCheck, mapError_eq_ok] at valid
      rw [valid]

/-- A request that needs no preparation. -/
def guardedFetch (timedOut : ε) (rejected : String → ε) (request : Request)
    (receive : Except String Response → Except ε β) : Task network ε β :=
  guardedRequest request.url (readUrlCheck timedOut rejected) (pure ())
    (fun _ => request) (fun _ => receive)

section GuardedFetch

variable {timedOut : ε} {rejected : String → ε} {single : Request}
variable {read : Except String Response → Except ε β}

theorem returns_guardedFetch_ok_iff {result : β} :
    Task.Returns (guardedFetch timedOut rejected single read) exchanges
        (.ok result) ↔
      ∃ answer,
        exchanges = [checked single.url (some (.ok ())), sent single answer] ∧
          read answer = .ok result := by
  rw [guardedFetch, returns_guardedRequest_ok_iff]
  constructor
  · rintro ⟨check, between, _, answer, rfl, valid, prepared, received⟩
    rcases Task.returns_pure_iff.mp prepared with ⟨rfl, _⟩
    rw [passes_of_readUrlCheck check valid]
    exact ⟨answer, rfl, received⟩
  · rintro ⟨answer, rfl, received⟩
    exact
      ⟨some (.ok ()), [], (), answer, rfl, rfl,
        Task.returns_pure_iff.mpr ⟨rfl, rfl⟩, received⟩

theorem always_sendsNothing_pure {value : α} :
    Always SendsNothing (pure value : Task network ε α) := by
  intro exchanges outcome returned
  rw [(Task.returns_pure_iff.mp returned).1]
  exact sendsNothing_nil

theorem always_guarded_guardedFetch :
    Always Guarded (guardedFetch timedOut rejected single read) :=
  always_guarded_guardedRequest passes_of_readUrlCheck
    always_sendsNothing_pure fun _ => rfl

theorem always_requestedUrls_guardedFetch :
    Always
      (fun exchanges => (requestedUrls exchanges).Sublist [single.url])
      (guardedFetch timedOut rejected single read) :=
  always_requestedUrls_guardedRequest passes_of_readUrlCheck
    always_sendsNothing_pure fun _ => rfl

end GuardedFetch

/-- Trying in order requests each URL at most once, and in this order. -/
theorem always_requestedUrls_tryEach
    {κ : Type} {attempt : κ → Task network ε β} (urlOf : κ → Bytes)
    (each :
      ∀ item,
        Always (fun exchanges => (requestedUrls exchanges).Sublist [urlOf item])
          (attempt item))
    (exhausted : ε) (lastError : Option ε) (items : List κ) :
    Always
      (fun exchanges => (requestedUrls exchanges).Sublist (items.map urlOf))
      (tryEach attempt exhausted lastError items) := by
  induction items generalizing lastError with
  | nil =>
      intro exchanges outcome returned
      rw [tryEach, Task.returns_throw_iff] at returned
      rw [returned.1]
      exact List.nil_sublist _
  | cons item rest induction =>
      intro exchanges outcome returned
      rw [List.map_cons, ← List.singleton_append]
      rcases returns_tryEach_cons_iff.mp returned with
        ⟨value, succeeded, _⟩ | ⟨error, former, latter, rfl, failed, later⟩
      · exact
          (each item exchanges _ succeeded).trans
            (List.sublist_append_left _ _)
      · rw [requestedUrls_append]
        exact
          (each item former _ failed).append
            (induction (some error) latter outcome later)

end GuardedRequest

/-! ## Where requests get -/

/-- A check that lets a URL pass was made, whatever its host resolved to. -/
def Honest (crates : UrlCrates) (exchanges : List (Exchange network)) : Prop :=
  ∀ url, checked url (some (.ok ())) ∈ exchanges →
    ∃ lookup, validateFetchUrl crates lookup url = .ok ()

/--
Whatever the network does, a request of a hardened client for the URL connects
only to addresses that the classifier does not refuse.
-/
def StaysPublic (crates : UrlCrates) (url : Bytes) : Prop :=
  ∃ parsed,
    crates.parseUrl url = .ok parsed ∧
      ∀ journey, Journey.Reachable crates parsed journey →
        (∀ ip ∈ journey.connected, isDisallowedIp ip = false) ∧
          journey.requested.length ≤ maxRedirects

section Confinement

variable {crates : UrlCrates} {exchanges : List (Exchange network)}

/-- A URL that has passed the check once stays on public addresses ever after. -/
theorem staysPublic_of_validateFetchUrl
    {lookup : Lookup} {url : Bytes}
    (passed : validateFetchUrl crates lookup url = .ok ()) :
    StaysPublic crates url := by
  rcases public_of_validateFetchUrl passed with ⟨parsed, parse, _, allowed⟩
  refine ⟨parsed, parse, ?_⟩
  intro journey reachable
  have confined := confined_of_reachable reachable
  refine ⟨?_, confined.few⟩
  intro ip member
  rcases confined.connected ip member with isPublic | named
  · exact isPublic
  · exact allowed ip named

/-- Every request of a guarded run stays on public addresses. -/
theorem staysPublic_of_guarded
    (guarded : Guarded exchanges) (honest : Honest crates exchanges)
    {request : Request} {answer : Except String Response}
    (member : sent request answer ∈ exchanges) :
    StaysPublic crates request.url := by
  rcases List.append_of_mem member with ⟨before, after, rfl⟩
  rcases guarded before _ after rfl ⟨request, answer, rfl⟩ with
    ⟨earlier, permission, between, rfl, ⟨other, otherAnswer, same, rfl⟩, _⟩
  have request_eq := sent_injective same
  subst request_eq
  rcases honest request.url (by simp) with ⟨lookup, passed⟩
  exact staysPublic_of_validateFetchUrl passed

end Confinement

/-! ## Reading the body of a response -/

section Body

variable {ε : Type}

/-- How the chunks of a response end. -/
def ended (response : Response) (failed : String → ε) : Except ε Unit :=
  match response.failure with
  | none => .ok ()
  | some e => .error (failed e)

/-- An announced length above the cap is refused before anything is read. -/
def checkAnnounced (cap : Nat) (announcedTooLarge : Nat → ε) :
    Option Nat → Except ε Unit
  | none => .ok ()
  | some len => rejectIf (len > cap) (announcedTooLarge len)

/-- Read a body up to a cap, with the messages of one of the clients. -/
def readBounded (cap : Nat) (refuses : Nat → Nat → Bool)
    (announcedTooLarge : Nat → ε) (tooLarge : ε) (failed : String → ε)
    (response : Response) : Except ε Bytes := do
  checkAnnounced cap announcedTooLarge response.contentLength
  readChunks refuses tooLarge (ended response failed) [] response.chunks

/-- A body that a reader with this cap returns. -/
structure Delivers (response : Response) (cap : Nat) (body : Bytes) : Prop where
  announced : ∀ len ∈ response.contentLength, len ≤ cap
  complete : response.failure = none
  octets : body = response.chunks.flatten
  short : body.length ≤ cap

/-- Responses that differ at most in how their octets are cut into chunks. -/
structure SameOctets (response other : Response) : Prop where
  contentLength : response.contentLength = other.contentLength
  failure : response.failure = other.failure
  octets : response.chunks.flatten = other.chunks.flatten

variable {cap : Nat} {refuses : Nat → Nat → Bool}
variable {announcedTooLarge : Nat → ε} {tooLarge : ε} {failed : String → ε}
variable {response other : Response} {body : Bytes}

theorem ended_eq_ok_iff :
    ended response failed = .ok () ↔ response.failure = none := by
  rw [ended]
  cases response.failure <;> simp

theorem checkAnnounced_eq_ok_iff {announced : Option Nat} :
    checkAnnounced cap announcedTooLarge announced = .ok () ↔
      ∀ len ∈ announced, len ≤ cap := by
  cases announced with
  | none => simp [checkAnnounced]
  | some len => simp [checkAnnounced]

theorem readBounded_eq_ok_iff (caps : Caps cap refuses) :
    readBounded cap refuses announcedTooLarge tooLarge failed response =
        .ok body ↔
      Delivers response cap body := by
  have empty : ([] : Bytes).length ≤ cap := Nat.zero_le cap
  simp only [readBounded, bind_eq_ok, exists_unit_eq_ok,
    checkAnnounced_eq_ok_iff, readChunks_eq_ok_iff caps empty,
    ended_eq_ok_iff, List.nil_append]
  constructor
  · rintro ⟨announced, complete, octets, short⟩
    exact ⟨announced, complete, octets, short⟩
  · intro delivers
    exact
      ⟨delivers.announced, delivers.complete, delivers.octets,
        delivers.short⟩

/-- How a body is cut into chunks changes neither what is read nor the error. -/
theorem readBounded_congr
    (caps : Caps cap refuses) (same : SameOctets response other) :
    readBounded cap refuses announcedTooLarge tooLarge failed response =
      readBounded cap refuses announcedTooLarge tooLarge failed other := by
  have empty : ([] : Bytes).length ≤ cap := Nat.zero_le cap
  rw [readBounded, readBounded, same.contentLength, ended, ended,
    same.failure, readChunks_congr caps empty same.octets]

end Body

end RitspLtv.Http
