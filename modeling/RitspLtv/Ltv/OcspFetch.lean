import RitspLtv.Ltv.OcspRequest
import RitspLtv.Ltv.Urls

/-!
# The OCSP client

The client posts one request to the responders of a certificate, one after the
other, until one of them answers with a response that reports success.  The
same request goes to all of them, so they all get the same nonce.
-/

namespace RitspLtv.Ltv.OcspFetch

open RitspLtv.Foundation.BoundedRead
open RitspLtv.Foundation.Checks
open RitspLtv.Foundation.Conversation
open RitspLtv.RustStd
open RitspLtv.DerUtils
open RitspLtv.Http
open RitspLtv.Ltv.CertIds
open RitspLtv.Ltv.CrlFetch
open RitspLtv.Ltv.OcspRequest
open RitspLtv.Ltv.OcspResponse
open RitspLtv.Ltv.Urls

/-! ## The status of a response -/

/-- What has been received must be a response that reports success. -/
def validateOcspResponseStatus (derBytes : Bytes) : Except LtvError Unit := do
  let (tag, body) ←
    (parseTlv derBytes).mapError fun e =>
      .ocsp s!"OCSP response parse error: {e}"
  rejectIf (tag ≠ 0x30)
    (.ocsp s!"OCSP response: expected SEQUENCE, got 0x{hexByte tag}")
  let (statusTag, statusBody, _) ←
    (parseTlvWithRest body).mapError fun e =>
      .ocsp s!"OCSP response parse error: {e}"
  rejectIf (statusTag ≠ 0x0A)
    (.ocsp
      s!"OCSP response: expected ENUMERATED status, got 0x{hexByte statusTag}")
  rejectIf (statusBody = []) (.ocsp "OCSP response: empty status")
  let status := statusBody.headD 0
  rejectIf (status ≠ 0)
    (.ocspResponderStatus
      s!"{ocspResponseStatusName status} ({status.toNat})")

/-! ## The client -/

/-- A client's settings; the timeout is given by its `Debug` form. -/
structure OcspClient where
  timeout : String
  maxBodySize : Nat

/-- `MAX_BODY_SIZE`. -/
def maxBodySize : Nat := 10 * 1024 * 1024

/-- `OCSP_REQUEST_CONTENT_TYPE`. -/
def ocspRequestContentType : String := "application/ocsp-request"

namespace OcspClient

/-- A client with the default settings. -/
def new : OcspClient := ⟨"30s", OcspFetch.maxBodySize⟩

variable (client : OcspClient)

/-- The request as it is posted. -/
def post (requestDer url : Bytes) : Http.Request where
  method := .post
  url := url
  contentType := some ocspRequestContentType
  body := requestDer

/-- Read the body of a response, up to the cap. -/
def readResponseBody (response : Response) (url : Bytes) :
    Except LtvError Bytes :=
  readBounded client.maxBodySize (overRemaining client.maxBodySize)
    (fun len =>
      .ocsp
        s!"OCSP response from {urlText url} exceeds max body size ({len} > {client.maxBodySize})")
    (.ocsp
      s!"OCSP response from {urlText url} exceeds max body size (> {client.maxBodySize})")
    (fun e => .ocsp s!"failed to read OCSP response body: {e}") response

/-- From the answer to the response. -/
def receive (url : Bytes) (answer : Except String Response) :
    Except LtvError Bytes := do
  let response ←
    answer.mapError fun e => .ocsp s!"OCSP request to {urlText url} failed: {e}"
  rejectIf (response.isSuccess = false)
    (.ocsp s!"OCSP responder {urlText url} returned HTTP {response.status}")
  let respBytes ← client.readResponseBody response url
  rejectIf (respBytes = [])
    (.ocsp s!"OCSP responder {urlText url} returned empty response")
  rejectIf (respBytes.head? ≠ some 0x30)
    (.ocsp
      s!"OCSP response from {urlText url} does not appear to be DER-encoded")
  validateOcspResponseStatus respBytes
  pure respBytes

/-- Send a request to one responder. -/
def sendOcspRequest (requestDer url : Bytes) : Task network LtvError Bytes :=
  guardedFetch (.ocsp s!"URL validation timed out after {client.timeout}")
    (fun e => .ocsp s!"URL rejected: {e}") (post requestDer url)
    (client.receive url)

/-- Send a request to each responder until one answers. -/
def sendToEach (requestDer : Bytes) (urls : List Bytes) :
    Task network LtvError Bytes :=
  tryEach (client.sendOcspRequest requestDer)
    (.ocsp "all OCSP responder URLs failed") none urls

/-- A certificate without responders cannot be asked about. -/
def requireResponder (urls : List Bytes) : Except LtvError Unit :=
  rejectIf (urls = [])
    (.ocsp "no OCSP responder URL in certificate AIA extension")

section Fetch

variable (crates : RequestCrates) (cert issuer : Certificate)

/-- Fetch a response without a nonce. -/
def fetchOcspResponse : Task network LtvError Bytes := do
  let urls := extractOcspUrls cert
  Task.ofExcept (requireResponder urls)
  let ocspRequest ← Task.ofExcept (buildOcspRequest crates cert issuer)
  client.sendToEach ocspRequest urls

/-- Fetch a response to a request with a nonce, and return the nonce as well. -/
def fetchOcspResponseWithNonce : Task network LtvError (Bytes × Bytes) := do
  let urls := extractOcspUrls cert
  Task.ofExcept (requireResponder urls)
  let (ocspRequest, nonce) ← buildOcspRequestWithNonce crates cert issuer
  let response ← client.sendToEach ocspRequest urls
  pure (response, nonce)

end Fetch

end OcspClient

/-! ## Runs -/

section Runs

variable {crates : RequestCrates} {client : OcspClient}
variable {cert issuer : Certificate} {requestDer der nonce : Bytes}
variable {urls : List Bytes} {exchanges : List (Exchange network)}

/-- The answer comes from the first responder that does not fail. -/
theorem returns_sendToEach_ok_iff :
    Task.Returns (client.sendToEach requestDer urls) exchanges (.ok der) ↔
      ∃ before url after former errors answer,
        urls = before ++ url :: after ∧
          exchanges =
            former ++
              [checked url (some (.ok ())),
                sent (OcspClient.post requestDer url) answer] ∧
          Failures (client.sendOcspRequest requestDer) before former errors ∧
          client.receive url answer = .ok der := by
  rw [OcspClient.sendToEach, returns_tryEach_ok_iff]
  constructor
  · rintro ⟨before, url, after, former, latter, errors, split, rfl, failures,
      succeeded⟩
    rcases returns_guardedFetch_ok_iff.mp succeeded with
      ⟨answer, rfl, received⟩
    exact
      ⟨before, url, after, former, errors, answer, split, rfl, failures,
        received⟩
  · rintro ⟨before, url, after, former, errors, answer, split, rfl, failures,
      received⟩
    exact
      ⟨before, url, after, former, _, errors, split, rfl, failures,
        returns_guardedFetch_ok_iff.mpr ⟨answer, rfl, received⟩⟩

theorem always_guarded_sendToEach :
    Always Guarded (client.sendToEach requestDer urls) :=
  always_tryEach guarded_nil guarded_append
    (fun _ => always_guarded_guardedFetch) _ _ _

theorem always_guarded_fetchOcspResponse :
    Always Guarded (client.fetchOcspResponse crates cert issuer) := by
  apply always_bind guarded_append (always_ofExcept guarded_nil _)
  intro required
  apply always_bind guarded_append (always_ofExcept guarded_nil _)
  intro request
  exact always_guarded_sendToEach

/-- Building a request draws the nonce, and sends nothing. -/
theorem always_guarded_buildOcspRequestWithNonce :
    Always Guarded (buildOcspRequestWithNonce crates cert issuer) := by
  have drawing : Always Guarded generateNonce := by
    intro exchanges outcome returned
    apply guarded_of_sendsNothing
    exact
      always_bind sendsNothing_append
        (always_sendsNothing_randomBytes nonceSize)
        (fun drawn => always_ofExcept sendsNothing_nil _) exchanges outcome
        returned
  apply always_bind guarded_append (always_ofExcept guarded_nil _)
  intro certId
  apply always_bind guarded_append drawing
  intro nonce
  exact always_ofExcept guarded_nil (.ok _)

theorem always_guarded_fetchOcspResponseWithNonce :
    Always Guarded
      (client.fetchOcspResponseWithNonce crates cert issuer) := by
  apply always_bind guarded_append (always_ofExcept guarded_nil _)
  intro required
  apply always_bind guarded_append always_guarded_buildOcspRequestWithNonce
  intro built
  apply always_bind guarded_append always_guarded_sendToEach
  intro response
  exact always_ofExcept guarded_nil (.ok _)

/-- A response with a nonce: the nonce is drawn once, for all responders. -/
theorem returns_fetchOcspResponseWithNonce_ok_iff :
    Task.Returns (client.fetchOcspResponseWithNonce crates cert issuer)
        exchanges (.ok (der, nonce)) ↔
      ∃ certId later,
        buildCertId crates cert issuer = .ok certId ∧
          exchanges = drew nonceSize (.ok nonce) :: later ∧
          Task.Returns
            (client.sendToEach
              (encodeOcspRequest certId (nonceParts (some nonce)))
              (extractOcspUrls cert))
            later (.ok der) := by
  simp only [OcspClient.fetchOcspResponseWithNonce, Task.returns_bind_ok_iff,
    Task.returns_ofExcept_iff, Prod.exists, Task.returns_pure_iff,
    Except.ok.injEq, Prod.mk.injEq, returns_buildOcspRequestWithNonce_ok_iff]
  constructor
  · rintro ⟨_, _, _, rfl, ⟨rfl, required⟩, _, drawn, _, _, rfl,
      ⟨certId, named, rfl, rfl⟩, response, later, _, rfl, answered, rfl, rfl,
      rfl⟩
    exact
      ⟨certId, later, named, by rw [List.append_nil]; rfl, answered⟩
  · rintro ⟨certId, later, named, rfl, answered⟩
    have nonempty : extractOcspUrls cert ≠ [] := by
      intro empty
      rw [empty, returns_sendToEach_ok_iff] at answered
      rcases answered with ⟨before, url, after, _, _, _, split, _⟩
      simp at split
    have required :
        OcspClient.requireResponder (extractOcspUrls cert) = .ok () :=
      rejectIf_eq_ok.mpr nonempty
    exact
      ⟨(), [], _, rfl, ⟨rfl, required.symm⟩, _, nonce, [_], later, rfl,
        ⟨certId, named, rfl, rfl⟩, der, later, [], (List.append_nil _).symm,
        answered, rfl, rfl, rfl⟩

end Runs

end RitspLtv.Ltv.OcspFetch
