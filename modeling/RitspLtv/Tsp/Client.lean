import RitspLtv.Foundation.Sessions
import RitspLtv.Http
import RitspLtv.Tsp.Request
import RitspLtv.Tsp.ResponseValidation

/-!
# The client of a timestamping authority

A client checks the URL of an authority, draws a nonce, posts a request that
carries it and validates what comes back.  A pool of clients goes from one
authority to the next until one of them answers with a token.
-/

namespace RitspLtv.Tsp.Client

open RitspLtv.Foundation.BoundedRead
open RitspLtv.Foundation.Checks
open RitspLtv.Foundation.Conversation
open RitspLtv.RustStd
open RitspLtv.DerUtils
open RitspLtv.Crypto.Algorithm
open RitspLtv.Crypto.Verify
open RitspLtv.Net
open RitspLtv.Http
open RitspLtv.Ltv.CrlFetch
open RitspLtv.Tsp.Cms
open RitspLtv.Tsp.Info
open RitspLtv.Tsp.Token
open RitspLtv.Tsp.Request
open RitspLtv.Tsp.Response
open RitspLtv.Tsp.ResponseValidation

/-! ## One client -/

/-- A client's settings; the timeout is given by its `Debug` form. -/
structure TsaClient where
  url : Bytes
  timeout : String
  digestAlgorithm : DigestAlgorithm
  policyOid : Option ObjectIdentifier
  maxBodySize : Nat
  certReq : Bool
  verificationCerts : List Certificate

/-- `MAX_BODY_SIZE`. -/
def maxBodySize : Nat := 10 * 1024 * 1024

/-- `TSP_REQUEST_CONTENT_TYPE`. -/
def tspRequestContentType : String := "application/timestamp-query"

/-- A client with the default settings. -/
def TsaClient.new (url : Bytes) : TsaClient where
  url := url
  timeout := "30s"
  digestAlgorithm := .sha256
  policyOid := none
  maxBodySize := Client.maxBodySize
  certReq := true
  verificationCerts := []

/-- `u64::from_ne_bytes` on a little-endian machine. -/
def fromNeBytes (buf : Bytes) : UInt64 :=
  UInt64.ofNat (bigEndian buf.reverse)

/-- The nonce in the octets that were drawn. -/
def nonceOf (drawn : Except String Bytes) : Except RequestError UInt64 := do
  let buf ← drawn.mapError fun e => .tsp (.crypto e)
  rejectIf (buf.length ≠ 8)
    (.panicked s!"requested exactly eight random bytes: {debugBytes buf}")
  pure (fromNeBytes buf)

def generateNonce : Task network RequestError UInt64 := do
  let drawn ← randomBytes 8
  Task.ofExcept (nonceOf drawn)

namespace TsaClient

variable (client : TsaClient)

/-- Read the check of the URL. -/
def validateUrl :
    Option (Except UrlGuardError Unit) → Except RequestError Unit :=
  readUrlCheck
    (.httpError
      s!"URL validation for {urlText client.url} timed out after {client.timeout}")
    fun e => .httpError s!"URL rejected: {e}"

/-- What a client asks for, for one nonce. -/
def request (dataHash : Bytes) (nonce : UInt64) : TimestampRequest where
  digestAlgorithm := client.digestAlgorithm
  messageHash := dataHash
  policyOid := client.policyOid
  nonce := some nonce
  certReq := client.certReq

/-- The request as it is posted. -/
def post (reqDer : Bytes) : Http.Request where
  method := .post
  url := client.url
  contentType := some tspRequestContentType
  body := reqDer

/-- Read the body of a response, up to the cap. -/
def readResponseBody (response : Response) : Except RequestError Bytes :=
  readBounded client.maxBodySize (overRemaining client.maxBodySize)
    (fun _ => .httpError "TSA response exceeds max body size")
    (.httpError "TSA response exceeds max body size")
    (fun e => .httpError s!"failed to read TSA response body: {e}") response

section Timestamp

variable (crates : ResponseCrates) (signatures : Signatures)
variable (encoders : RequestEncoders)

/-- Draw a nonce and build the request that carries it. -/
def prepare (dataHash : Bytes) :
    Task network RequestError (UInt64 × Bytes) := do
  let nonce ← generateNonce
  let reqDer ←
    Task.ofExcept
      (((client.request dataHash nonce).build encoders).mapError .tsp)
  pure (nonce, reqDer)

/-- From the answer to the token. -/
def receive (dataHash : Bytes) (nonce : UInt64)
    (answer : Except String Response) : Except RequestError Bytes := do
  let response ←
    answer.mapError fun e =>
      .httpError s!"TSA request to {urlText client.url} failed: {e}"
  rejectIf (response.isSuccess = false)
    (.httpError
      s!"TSA {urlText client.url} returned HTTP {response.status}")
  let respBytes ← client.readResponseBody response
  let resp ← (parseTimestampResponse crates respBytes).mapError .tsp
  validateTimestampResponseForPolicy crates.toCmsCrates signatures resp
    dataHash (some nonce) client.digestAlgorithm client.verificationCerts
    client.policyOid

/-- Request a token for a hash. -/
def timestamp (dataHash : Bytes) : Task network RequestError Bytes :=
  guardedRequest client.url client.validateUrl
    (client.prepare encoders dataHash)
    (fun (_, reqDer) => client.post reqDer)
    (fun (nonce, _) => client.receive crates signatures dataHash nonce)

end Timestamp

end TsaClient

/-! ## A pool of clients -/

/-- Clients in the order in which they are tried, of which there is one. -/
structure TsaClientPool where
  clients : List TsaClient
  clients_ne_nil : clients ≠ []

/-- Request a token from the first client that gets one. -/
def TsaClientPool.timestamp (pool : TsaClientPool)
    (crates : ResponseCrates) (signatures : Signatures)
    (encoders : RequestEncoders) (dataHash : Bytes) :
    Task network RequestError Bytes :=
  tryEach (fun client => client.timestamp crates signatures encoders dataHash)
    (.httpError "no TSA clients configured") none pool.clients

/-! ## What a client accepts -/

/-- The content of a token that is what a client asked for with a nonce. -/
structure Answers (crates : CmsCrates) (signatures : Signatures)
    (client : TsaClient) (dataHash : Bytes) (nonce : UInt64) (token : Bytes)
    (info : TstInfo) : Prop where
  verified :
    ∃ verified,
      verifyTokenCms crates signatures token client.verificationCerts =
        .ok (verified, info)
  nonce : info.nonce = some nonce
  messageHash : info.messageHash = dataHash
  hashAlgorithm : info.hashAlgorithm = client.digestAlgorithm
  policy : HasPolicy info client.policyOid

section Runs

variable {crates : ResponseCrates} {signatures : Signatures}
variable {encoders : RequestEncoders} {client : TsaClient}
variable {dataHash token : Bytes} {nonce : UInt64}
variable {exchanges : List (Exchange network)}

theorem returns_generateNonce_ok_iff :
    Task.Returns generateNonce exchanges (.ok nonce) ↔
      ∃ buf,
        exchanges = [drew 8 (.ok buf)] ∧ buf.length = 8 ∧
          nonce = fromNeBytes buf := by
  simp only [generateNonce, Task.returns_bind_ok_iff,
    returns_randomBytes_iff, Task.returns_ofExcept_iff, Except.ok.injEq]
  constructor
  · rintro ⟨drawn, _, _, rfl, ⟨_, rfl, rfl⟩, rfl, computed⟩
    simp only [nonceOf, bind_eq_ok, mapError_eq_ok, rejectIf_eq_ok,
      exists_const, pure_eq_ok, not_not, @eq_comm _ (Except.ok nonce)]
      at computed
    rcases computed with ⟨buf, rfl, eight, rfl⟩
    exact ⟨buf, rfl, eight, rfl⟩
  · rintro ⟨buf, rfl, eight, rfl⟩
    refine
      ⟨.ok buf, [drew 8 (.ok buf)], [], rfl, ⟨_, rfl, rfl⟩, rfl, ?_⟩
    simp [nonceOf, eight]

theorem returns_prepare_ok_iff {prepared : UInt64 × Bytes} :
    Task.Returns (client.prepare encoders dataHash) exchanges (.ok prepared) ↔
      ∃ buf,
        exchanges = [drew 8 (.ok buf)] ∧ buf.length = 8 ∧
          prepared.1 = fromNeBytes buf ∧
          (client.request dataHash prepared.1).build encoders =
            .ok prepared.2 := by
  rcases prepared with ⟨nonce, reqDer⟩
  simp only [TsaClient.prepare, Task.returns_bind_ok_iff,
    returns_generateNonce_ok_iff, Task.returns_ofExcept_iff,
    Task.returns_pure_iff, Except.ok.injEq, Prod.mk.injEq]
  constructor
  · rintro ⟨_, _, _, rfl, ⟨buf, rfl, eight, rfl⟩, _, _, _, rfl, ⟨rfl, built⟩,
      rfl, rfl, rfl⟩
    exact ⟨buf, rfl, eight, rfl, mapError_eq_ok.mp built.symm⟩
  · rintro ⟨buf, rfl, eight, rfl, built⟩
    exact
      ⟨_, [drew 8 (.ok buf)], [], rfl, ⟨buf, rfl, eight, rfl⟩, reqDer, [], [],
        rfl, ⟨rfl, (mapError_eq_ok.mpr built).symm⟩, rfl, rfl, rfl⟩

/-- Preparing a request draws random octets, and sends nothing. -/
theorem always_sendsNothing_prepare :
    Always SendsNothing (client.prepare encoders dataHash) := by
  apply always_bind sendsNothing_append
  · exact
      always_bind sendsNothing_append (always_sendsNothing_randomBytes 8)
        fun drawn => always_ofExcept sendsNothing_nil _
  · intro nonce
    exact
      always_bind sendsNothing_append (always_ofExcept sendsNothing_nil _)
        fun reqDer => always_ofExcept sendsNothing_nil (.ok (nonce, reqDer))

theorem always_guarded_timestamp :
    Always Guarded (client.timestamp crates signatures encoders dataHash) :=
  always_guarded_guardedRequest passes_of_readUrlCheck
    always_sendsNothing_prepare fun _ => rfl

theorem always_guarded_pool (pool : TsaClientPool) :
    Always Guarded
      (pool.timestamp crates signatures encoders dataHash) :=
  always_tryEach guarded_nil guarded_append
    (fun _ => always_guarded_timestamp) _ _ _

theorem always_requestedUrls_timestamp :
    Always (fun exchanges => (requestedUrls exchanges).Sublist [client.url])
      (client.timestamp crates signatures encoders dataHash) :=
  always_requestedUrls_guardedRequest passes_of_readUrlCheck
    always_sendsNothing_prepare fun _ => rfl

/-- The authorities are asked in order, and each at most once. -/
theorem always_requestedUrls_pool (pool : TsaClientPool) :
    Always
      (fun exchanges =>
        (requestedUrls exchanges).Sublist (pool.clients.map TsaClient.url))
      (pool.timestamp crates signatures encoders dataHash) :=
  always_requestedUrls_tryEach TsaClient.url
    (fun _ => always_requestedUrls_timestamp) _ _ _

/-- What a client makes of an answer it accepts. -/
theorem answers_of_receive
    {answer : Except String Response}
    (received :
      client.receive crates signatures dataHash nonce answer = .ok token) :
    (∃ response respBytes resp,
      answer = .ok response ∧ response.isSuccess = true ∧
        Delivers response client.maxBodySize respBytes ∧
        parseTimestampResponse crates respBytes = .ok resp ∧
        isSuccess resp.status = true ∧ resp.tokenDer = some token) ∧
      ∃ info,
        Answers crates.toCmsCrates signatures client dataHash nonce token
          info := by
  simp only [TsaClient.receive, bind_eq_ok, mapError_eq_ok, rejectIf_eq_ok,
    exists_const, Bool.not_eq_false, TsaClient.readResponseBody,
    readBounded_eq_ok_iff (caps_overRemaining client.maxBodySize),
    validateTimestampResponseForPolicy_eq_ok_iff] at received
  rcases received with
    ⟨response, rfl, success, respBytes, delivers, resp, parsed, granted,
      tokenIs, verified, info, verification, matching, policy⟩
  have imprint := imprint_of_checkTstInfoMatches matching
  exact
    ⟨⟨response, respBytes, resp, rfl, success, delivers, parsed, granted,
        tokenIs⟩,
      info,
      { verified := ⟨verified, verification⟩
        nonce := nonce_of_checkTstInfoMatches matching
        messageHash := imprint.1
        hashAlgorithm := imprint.2
        policy }⟩

/-- A run with a token: the check, the nonce, the request and its answer. -/
theorem returns_timestamp_ok_iff :
    Task.Returns (client.timestamp crates signatures encoders dataHash)
        exchanges (.ok token) ↔
      ∃ buf reqDer answer,
        exchanges =
            [checked client.url (some (.ok ())), drew 8 (.ok buf),
              sent (client.post reqDer) answer] ∧
          buf.length = 8 ∧
          (client.request dataHash (fromNeBytes buf)).build encoders =
            .ok reqDer ∧
          client.receive crates signatures dataHash (fromNeBytes buf) answer =
            .ok token := by
  rw [TsaClient.timestamp, returns_guardedRequest_ok_iff]
  constructor
  · rintro ⟨check, between, ⟨nonce, reqDer⟩, answer, rfl, valid, prepared,
      received⟩
    rcases returns_prepare_ok_iff.mp prepared with
      ⟨buf, rfl, eight, drawn, built⟩
    simp only at drawn built received
    subst drawn
    rw [passes_of_readUrlCheck check valid]
    exact ⟨buf, reqDer, answer, rfl, eight, built, received⟩
  · rintro ⟨buf, reqDer, answer, rfl, eight, built, received⟩
    refine
      ⟨some (.ok ()), [drew 8 (.ok buf)], (fromNeBytes buf, reqDer), answer,
        rfl, rfl, ?_, received⟩
    exact returns_prepare_ok_iff.mpr ⟨buf, rfl, eight, rfl, built⟩

end Runs

end RitspLtv.Tsp.Client
