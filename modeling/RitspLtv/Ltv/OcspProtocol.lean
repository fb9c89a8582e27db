import RitspLtv.Foundation.Sessions
import RitspLtv.Ltv.OcspFetch
import RitspLtv.Ltv.Revocation

/-!
# Asking for a status over a hostile network

Many sessions ask responders for the status of certificates at once, under the
strict nonce policy, and the network does what it likes with their messages.  As
nonces are fresh and signed data cannot be forged, a status that a session takes
was signed after the session had drawn its nonce, and is taken by no other.
-/

namespace RitspLtv.Ltv.OcspProtocol

open RitspLtv.Foundation.Checks
open RitspLtv.Foundation.Conversation
open RitspLtv.Foundation.Sessions
open RitspLtv.RustStd
open RitspLtv.Chrono
open RitspLtv.DerUtils
open RitspLtv.TlvElements
open RitspLtv.Crypto.Verify
open RitspLtv.Http
open RitspLtv.Ltv.CertIds
open RitspLtv.Ltv.CrlFetch
open RitspLtv.Ltv.NonceFormats
open RitspLtv.Ltv.Ocsp
open RitspLtv.Ltv.OcspFetch
open RitspLtv.Ltv.OcspRequest
open RitspLtv.Ltv.OcspResponse
open RitspLtv.Ltv.OcspSoundness
open RitspLtv.Ltv.Revocation
open RitspLtv.Ltv.SignedBytes
open RitspLtv.Ltv.Urls

/-! ## Sessions -/

/-- What a session asks for, and the policy under which it takes an answer. -/
structure OcspSession where
  client : OcspClient
  cert : Certificate
  issuer : Certificate
  config : RevocationConfig
  validationTime : Option DateTime
  context : OcspValidationContext
  strict : context.requireNonce = true

/-- Check what the session has fetched. -/
def OcspSession.check (crates : Crates) (signatures : Signatures)
    (session : OcspSession) (utcNow : DateTime) (der nonce : Bytes) :
    Except LtvError OcspCheckOutcome :=
  checkOcspResponse crates signatures session.config session.validationTime
    session.context session.issuer session.cert utcNow der (some nonce)

/-- The octets that an exchange draws. -/
def drawnNonce (exchange : Exchange network) : Option Bytes :=
  match exchange with
  | ⟨Query.randomBytes _, answer⟩ =>
      match (answer : Except String Bytes) with
      | .ok buf => some buf
      | .error _ => none
  | _ => none

/-- The nonce of a request that is echoed, as it is or in an OCTET STRING. -/
def echoed (nonce : Bytes) : Bytes :=
  if nonce.length = nonceSize then nonce else nonceOfValue nonce

/-- The nonce in signed response data. -/
def signedNonce (crates : Crates) (tbsResponseData : Bytes) : Option Bytes :=
  match parseTlvWithRest tbsResponseData with
  | .error _ => none
  | .ok (_, value, _) =>
      match parseResponseData crates value with
      | .error _ => none
      | .ok data => data.nonce.map echoed

/--
A session fetches a response with a nonce.  What comes into being somewhere is
signed response data; a session takes the data of a response that passes its
check at some instant.
-/
def askingStatus {Session : Type} (crates : RequestCrates)
    (signatures : Signatures) (sessions : Session → OcspSession) :
    Protocol network Session Bytes Bytes
      (Except LtvError (Bytes × Bytes)) where
  program := fun session =>
    ((sessions session).client.fetchOcspResponseWithNonce crates
      (sessions session).cert (sessions session).issuer).run
  drawn := drawnNonce
  carried := signedNonce crates.toCrates
  accepts := fun session value tbsResponseData =>
    ∃ der nonce utcNow outcome parsed,
      value = .ok (der, nonce) ∧ nonce.length = nonceSize ∧
        (sessions session).check crates.toCrates signatures utcNow der nonce =
          .ok outcome ∧
        parseOcspResponse crates.toCrates der = .ok parsed ∧
        parsed.tbsResponseData = tbsResponseData

/-! ## What a check rests on -/

section Check

variable {crates : Crates} {signatures : Signatures} {session : OcspSession}
variable {utcNow : DateTime} {der nonce : Bytes} {outcome : OcspCheckOutcome}

/-- Both ways of checking are the same check, behind that of the path's start. -/
theorem inner_of_check
    (checked : session.check crates signatures utcNow der nonce = .ok outcome) :
    (∀ chain store, session.context.issuerPath = some (chain, store) →
      chain.head? = some session.issuer) ∧
      checkRevocationDetailedInner crates signatures utcNow der session.cert
          session.issuer (some nonce) session.validationTime
          session.config.signaturePolicy session.config.ocspFreshness
          session.context.issuerPath true = .ok outcome := by
  rw [OcspSession.check, checkOcspResponse, session.strict] at checked
  cases path : session.context.issuerPath with
  | none =>
      rw [path] at checked
      refine ⟨?_, checked⟩
      intro chain store impossible
      cases impossible
  | some pair =>
      rcases pair with ⟨chain, store⟩
      rw [path] at checked
      simp only [checkRevocationDetailedWithIssuerPath, bind_eq_ok,
        rejectIf_eq_ok, exists_const, ne_eq, not_not] at checked
      refine ⟨?_, checked.2⟩
      rintro _ _ ⟨⟩
      exact checked.1

/-- What is checked has a nonce, which is that of the request. -/
theorem nonce_of_check
    (checked : session.check crates signatures utcNow der nonce = .ok outcome) :
    ∃ parsed responseNonce,
      parseOcspResponse crates der = .ok parsed ∧
        parsed.nonce = some responseNonce ∧
        validateNonce nonce responseNonce = .ok () := by
  have inner := (inner_of_check checked).2
  simp only [checkRevocationDetailedInner, checkParsedResponse, bind_eq_ok,
    rejectIf_eq_ok, exists_const, exists_unit_eq_ok] at inner
  rcases inner with ⟨_, parsed, parses, _, _, _, _, nonceChecked, _⟩
  cases received : parsed.nonce with
  | none => simp [checkResponseNonce, received] at nonceChecked
  | some responseNonce =>
      simp only [checkResponseNonce, received] at nonceChecked
      exact ⟨parsed, responseNonce, parses, received, nonceChecked⟩

/-- A nonce of the right size is recognised in both of its forms. -/
theorem echoed_of_validateNonce
    {responseNonce : Bytes} (sized : nonce.length = nonceSize)
    (valid : validateNonce nonce responseNonce = .ok ()) :
    echoed responseNonce = nonce := by
  rcases validateNonce_eq_ok_iff.mp valid with rfl | rfl
  · exact if_pos sized
  · have longer := length_lt_octetString nonce
    rw [echoed, if_neg]
    · apply nonceOfValue_octetString
      rw [sized]
      decide
    · omega

/-- The signed data of what is checked carries the nonce of the request. -/
theorem signedNonce_of_check
    {parsed : ParsedBasicOcspResponse} (sized : nonce.length = nonceSize)
    (checked : session.check crates signatures utcNow der nonce = .ok outcome)
    (parses : parseOcspResponse crates der = .ok parsed) :
    signedNonce crates parsed.tbsResponseData = some nonce := by
  rcases nonce_of_check checked with
    ⟨_, responseNonce, otherParses, received, valid⟩
  rw [parses] at otherParses
  cases otherParses
  rcases responseData_of_parseOcspResponse parses with
    ⟨value, data, element, parsedData, _, _, _, nonces⟩
  rw [signedNonce, element]
  simp only [parsedData]
  rw [← nonces, received, Option.map_some,
    echoed_of_validateNonce sized valid]

end Check

/-! ## Many sessions -/

section Sessions

variable {Session : Type} [DecidableEq Session]
variable {crates : RequestCrates} {signatures : Signatures}
variable {sessions : Session → OcspSession}

omit [DecidableEq Session] in
/-- A session takes data only with the nonce that it has drawn. -/
theorem challenges_askingStatus :
    (askingStatus crates signatures sessions).Challenges := by
  rintro session exchanges value tbsResponseData returned
    ⟨der, nonce, utcNow, outcome, parsed, rfl, sized, checked, parses, rfl⟩
  rcases returns_fetchOcspResponseWithNonce_ok_iff.mp returned with
    ⟨certId, later, _, rfl, _⟩
  exact
    ⟨drew nonceSize (.ok nonce), List.mem_cons_self, nonce, rfl,
      signedNonce_of_check sized checked parses⟩

/-- The random source draws as many octets as it is asked for. -/
def Sized (history : List (Moment Session network Bytes)) : Prop :=
  ∀ session count buf,
    .exchanged session (drew count (.ok buf)) ∈ history → buf.length = count

theorem length_of_sized
    {history : List (Moment Session network Bytes)} (sized : Sized history)
    {session : Session} {der nonce : Bytes}
    (completed :
      (askingStatus crates signatures sessions).Completed history session
        (.ok (der, nonce))) :
    nonce.length = nonceSize := by
  rcases returns_fetchOcspResponseWithNonce_ok_iff.mp completed with
    ⟨certId, later, _, split, _⟩
  apply sized session
  rw [← mem_heard_iff, split]
  exact List.mem_cons_self

/--
In every history of any sessions under the strict nonce policy, with nonces that
are fresh and data that is not forged: a session that ends with a verdict has
been vouched for by response data about its own certificate, signed after the
session had drawn its nonce and not before; and no two sessions take the same
signed data.
-/
theorem askingStatus_safe
    (history : List (Moment Session network Bytes)) (sized : Sized history)
    (fresh : (askingStatus crates signatures sessions).Fresh history)
    (genuine : (askingStatus crates signatures sessions).Genuine history) :
    (∀ session der nonce utcNow outcome,
      (askingStatus crates signatures sessions).Completed history session
          (.ok (der, nonce)) →
        (sessions session).check crates.toCrates signatures utcNow der nonce =
            .ok outcome →
          outcome.status.isValid = true ∨ outcome.status.isRevoked = true →
            ∃ parsed responder,
              parseOcspResponse crates.toCrates der = .ok parsed ∧
                Vouched crates.toCrates signatures (sessions session).cert
                  (sessions session).issuer (some nonce)
                  ((sessions session).validationTime.getD utcNow)
                  (sessions session).config.signaturePolicy
                  (sessions session).config.ocspFreshness
                  (sessions session).context.issuerPath true parsed responder
                  outcome ∧
                ∃ past drawing future,
                  history = past ++ .exchanged session drawing :: future ∧
                    drawnNonce drawing = some nonce ∧
                    .produced parsed.tbsResponseData ∉ past ∧
                    .produced parsed.tbsResponseData ∈ future) ∧
      ∀ session other value otherValue tbsResponseData,
        (askingStatus crates signatures sessions).Completed history session
            value →
          (askingStatus crates signatures sessions).Completed history other
              otherValue →
            (askingStatus crates signatures sessions).accepts session value
                tbsResponseData →
              (askingStatus crates signatures sessions).accepts other
                  otherValue tbsResponseData →
                session = other := by
  constructor
  · intro session der nonce utcNow outcome completed checked established
    have length := length_of_sized sized completed
    rcases inner_of_check checked with ⟨startsWithIssuer, inner⟩
    rcases vouched_of_checkRevocationDetailedInner startsWithIssuer inner
        established with
      ⟨parsed, responder, parses, vouched⟩
    rcases Protocol.produced_after_drawn challenges_askingStatus fresh genuine
        completed
        ⟨der, nonce, utcNow, outcome, parsed, rfl, length, checked, parses,
          rfl⟩ with
      ⟨past, drawing, future, challenge, split, drawn, carried, notBefore,
        later⟩
    have same : some nonce = some challenge :=
      (signedNonce_of_check length checked parses).symm.trans carried
    rw [← same] at drawn
    exact
      ⟨parsed, responder, parses, vouched, past, drawing, future, split, drawn,
        notBefore, later⟩
  · intro session other value otherValue tbsResponseData completed
      otherCompleted accepted otherAccepted
    exact
      Protocol.eq_of_accepts challenges_askingStatus fresh completed accepted
        otherCompleted otherAccepted

end Sessions

/-! ## Two reference sessions -/

section Reference

open RitspLtv.Reference

def responderUrl : Bytes := asciiBytes "http://ocsp.test/"

/-- An access description that names the responder. -/
def responderAccess : Extension :=
  ⟨aiaOid, false,
    encodeSequenceFromParts
      [encodeSequenceFromParts
        [encodeOid AiaAccessMethod.ocsp.oid, encodeTlv 0x86 responderUrl]]⟩

/-- The leaf, with the URL of a responder. -/
def statusLeaf : Certificate :=
  certificate 2 0xB2 0xA1 "Leaf" "Root" [responderAccess]

/-- The nonces of two sessions; one of them looks like an OCTET STRING. -/
def statusNonce (session : Bool) : Bytes :=
  if session then List.replicate nonceSize 0x43 else leafNonce

/-- The echo of a nonce, as it stands in the request. -/
def nonceEcho (session : Bool) : List Extension :=
  [⟨nonceOid, false, octetString (statusNonce session)⟩]

/-- The crates, with a decoder for the echoes. -/
def statusCrates : RequestCrates :=
  { requestCrates with
    extensionsFromDer :=
      decodeKnown encodeExtensions [nonceEcho false, nonceEcho true] }

def statusRequest (session : Bool) : Bytes :=
  encodeOcspRequest (rootCertId [2]) (nonceParts (some (statusNonce session)))

/-- Response data about the leaf, with the nonce of a request. -/
def statusData (session : Bool) : Bytes :=
  encodeSequenceFromParts
    [encodeTlv 0xA1 (encodeName root.tbsCertificate.subject),
      encodeTime (.generalTime year2026),
      encodeSequenceFromParts
        [encodeSequenceFromParts
          [rootCertId [2], encodeElements goodFields]],
      encodeTlv 0xA1 (encodeExtensions (nonceEcho session))]

/-- The response that the root signs. -/
def statusResponse (session : Bool) : Bytes :=
  encodeOcspResponse (statusData session) ecdsaWithSha256 (publicKey 0xA1) []

def statusAnswer (session : Bool) : Response where
  isSuccess := true
  status := "200 OK"
  contentLength := some (statusResponse session).length
  chunks :=
    [(statusResponse session).take 64, (statusResponse session).drop 64]
  failure := none

def statusSession : OcspSession where
  client := .new
  cert := statusLeaf
  issuer := root
  config := .default
  validationTime := none
  context := ⟨none, true⟩
  strict := rfl

/-- The exchanges behind the drawing of the nonce. -/
def statusExchanges (session : Bool) : List (Exchange network) :=
  [checked responderUrl (some (.ok ())),
    sent (OcspClient.post (statusRequest session) responderUrl)
      (.ok (statusAnswer session))]

theorem receive_statusAnswer (session : Bool) :
    OcspClient.new.receive responderUrl (.ok (statusAnswer session)) =
      .ok (statusResponse session) := by
  revert session
  decide +kernel

theorem extractOcspUrls_statusLeaf :
    extractOcspUrls statusLeaf = [responderUrl] := by
  decide +kernel

theorem buildCertId_statusLeaf :
    buildCertId statusCrates statusLeaf root = .ok (rootCertId [2]) := by
  decide +kernel

theorem returns_statusSession (session : Bool) :
    Task.Returns
      (OcspClient.new.fetchOcspResponseWithNonce statusCrates statusLeaf root)
      (drew nonceSize (.ok (statusNonce session)) :: statusExchanges session)
      (.ok (statusResponse session, statusNonce session)) := by
  refine
    returns_fetchOcspResponseWithNonce_ok_iff.mpr
      ⟨rootCertId [2], statusExchanges session, buildCertId_statusLeaf, rfl,
        ?_⟩
  rw [extractOcspUrls_statusLeaf]
  exact
    returns_sendToEach_ok_iff.mpr
      ⟨[], responderUrl, [], [], [], .ok (statusAnswer session), rfl, rfl,
        .nil, receive_statusAnswer session⟩

theorem check_statusSession (session : Bool) :
    statusSession.check statusCrates.toCrates Reference.signatures checkedAt
        (statusResponse session) (statusNonce session) =
      .ok ⟨.valid .ocsp checkedAt, none⟩ := by
  revert session
  decide +kernel

theorem parse_statusResponse (session : Bool) :
    (parseOcspResponse statusCrates.toCrates (statusResponse session)).map
        ParsedBasicOcspResponse.tbsResponseData =
      .ok (statusData session) := by
  revert session
  decide +kernel

def statusProtocol :
    Protocol network Bool Bytes Bytes (Except LtvError (Bytes × Bytes)) :=
  askingStatus statusCrates Reference.signatures fun _ => statusSession

/-- Both draw their nonces first, and are answered in the other order. -/
def statusHistory : List (Moment Bool network Bytes) :=
  [.exchanged false (drew nonceSize (.ok (statusNonce false))),
    .exchanged true (drew nonceSize (.ok (statusNonce true))),
    .produced (statusData true), .produced (statusData false)] ++
      ((statusExchanges true).map (.exchanged true) ++
        (statusExchanges false).map (.exchanged false))

theorem completed_statusHistory (session : Bool) :
    statusProtocol.Completed statusHistory session
      (.ok (statusResponse session, statusNonce session)) := by
  have heardAs :
      heard statusHistory session =
        drew nonceSize (.ok (statusNonce session)) ::
          statusExchanges session := by
    cases session <;> rfl
  rw [Protocol.Completed, heardAs]
  exact returns_statusSession session

theorem fresh_statusHistory : statusProtocol.Fresh statusHistory := by
  apply Protocol.fresh_of_pairwise
  decide +kernel

theorem eq_of_accepts_statusResponse
    {session : Bool} {tbsResponseData : Bytes}
    (accepted :
      statusProtocol.accepts session
        (.ok (statusResponse session, statusNonce session))
        tbsResponseData) :
    tbsResponseData = statusData session := by
  rcases accepted with
    ⟨der, nonce, utcNow, outcome, parsed, same, _, _, parses, rfl⟩
  cases same
  have data := parse_statusResponse session
  rw [parses] at data
  exact Except.ok.inj data

theorem genuine_statusHistory : statusProtocol.Genuine statusHistory := by
  apply Protocol.genuine_of_completed completed_statusHistory
  intro session tbsResponseData accepted
  rw [eq_of_accepts_statusResponse accepted]
  cases session with
  | false =>
      exact
        ⟨statusHistory.take 7, _, [], rfl, by simp [statusHistory]⟩
  | true =>
      exact
        ⟨statusHistory.take 5, _, statusHistory.drop 6, rfl,
          by simp [statusHistory]⟩

theorem sized_statusHistory : Sized statusHistory := by
  intro session count buf member
  simp only [statusHistory, statusExchanges, List.map_cons, List.map_nil,
    List.cons_append, List.nil_append, List.mem_cons, List.not_mem_nil,
    or_false] at member
  rcases member with
    same | same | same | same | same | same | same | same
  · cases same
    rfl
  · cases same
    rfl
  all_goals cases same

/--
The status of the leaf was signed for each session after it had drawn its nonce,
and neither session takes the data of the other.
-/
theorem askingStatus_safe_reference :
    (∀ session, ∃ parsed past drawing future,
      parseOcspResponse statusCrates.toCrates (statusResponse session) =
          .ok parsed ∧
        statusHistory = past ++ .exchanged session drawing :: future ∧
        drawnNonce drawing = some (statusNonce session) ∧
        .produced parsed.tbsResponseData ∉ past ∧
        .produced parsed.tbsResponseData ∈ future) ∧
      ∀ tbsResponseData,
        statusProtocol.accepts false
            (.ok (statusResponse false, statusNonce false))
            tbsResponseData →
          ¬ statusProtocol.accepts true
              (.ok (statusResponse true, statusNonce true))
              tbsResponseData := by
  have safe :=
    askingStatus_safe statusHistory sized_statusHistory fresh_statusHistory
      genuine_statusHistory
  constructor
  · intro session
    rcases safe.1 session _ _ checkedAt ⟨.valid .ocsp checkedAt, none⟩
        (completed_statusHistory session) (check_statusSession session)
        (.inl rfl) with
      ⟨parsed, responder, parses, _, past, drawing, future, found⟩
    exact ⟨parsed, past, drawing, future, parses, found⟩
  · intro tbsResponseData accepted otherAccepted
    have same :=
      safe.2 false true _ _ tbsResponseData (completed_statusHistory false)
        (completed_statusHistory true) accepted otherAccepted
    cases same

end Reference

end RitspLtv.Ltv.OcspProtocol
