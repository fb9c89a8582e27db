import RitspLtv.Ltv.Status
import RitspLtv.DerUtils
import RitspLtv.Error

/-!
# OCSP responses

Parsing an OCSP response down to its list of `SingleResponse`s.  The part that
the responder signs is kept as it was received, and parsed by
`parseResponseData`.
-/

namespace RitspLtv.Ltv.OcspResponse

open RitspLtv.Foundation.Checks
open RitspLtv.Foundation.Consume
open RitspLtv.RustStd
open RitspLtv.Chrono
open RitspLtv.DerUtils
open RitspLtv.Ltv.Status

/-! ## The parsed response -/

/-- Certificate status in a response. -/
inductive CertStatus where
  | good
  | revoked (revocationTime : DateTime) (reason : RevocationReason)
  | unknown
  deriving DecidableEq, Repr

/-- The status of one certificate. -/
structure SingleResponse where
  hashAlgorithmOid : Bytes
  issuerNameHash : Bytes
  issuerKeyHash : Bytes
  serialNumber : Bytes
  certStatus : CertStatus
  thisUpdate : DateTime
  nextUpdate : Option DateTime
  deriving DecidableEq, Repr

/-- The identity the responder claims. -/
inductive ResponderId where
  | byName (nameDer : Bytes)
  | byKeyHash (keyHash : Bytes)
  deriving DecidableEq, Repr

/-- The fields of the signed part. -/
structure ResponseData where
  responderId : ResponderId
  producedAt : DateTime
  responses : List SingleResponse
  nonce : Option Bytes
  deriving DecidableEq, Repr

/-- A parsed basic response. -/
structure ParsedBasicOcspResponse where
  tbsResponseData : Bytes
  signatureAlgorithm : AlgorithmIdentifier
  signatureBytes : Bytes
  responderId : ResponderId
  producedAt : DateTime
  responses : List SingleResponse
  nonce : Option Bytes
  embeddedCertsDer : List Bytes
  deriving DecidableEq, Repr

/-- `id-pkix-ocsp-basic`, as the body of an OBJECT IDENTIFIER. -/
def ocspBasicResponseOid : Bytes :=
  [0x2B, 0x06, 0x01, 0x05, 0x05, 0x07, 0x30, 0x01, 0x01]

/-- SHA-1, as the body of an OBJECT IDENTIFIER. -/
def certIdHashAlgorithmOid : Bytes := [0x2B, 0x0E, 0x03, 0x02, 0x1A]

/-! ## Extensions -/

/-- The nonce in an extension value: unwrapped when it is one OCTET STRING. -/
def nonceOfValue (value : Bytes) : Bytes :=
  match parseTlvWithRest value with
  | .ok (0x04, body, []) => body
  | _ => value

/-- One response extension, behind those already seen. -/
def ocspExtensionStep (responseLevel : Bool)
    (state : List ObjectIdentifier × Option Bytes) (extension : Extension) :
    Except LtvError (List ObjectIdentifier × Option Bytes) := do
  let (seen, nonce) := state
  rejectIf (extension.extnId ∈ seen)
    (.ocsp s!"duplicate OCSP extension {extension.extnId.toString}")
  if extension.extnId = .newUnwrap [1, 3, 6, 1, 5, 5, 7, 48, 1, 2] then
    rejectIf (responseLevel = false)
      (.ocsp "nonce is not permitted in singleExtensions")
    pure (extension.extnId :: seen, some (nonceOfValue extension.extnValue))
  else
    rejectIf (extension.critical = true)
      (.ocsp
        s!"unsupported critical OCSP extension {extension.extnId.toString}")
    pure (extension.extnId :: seen, nonce)

/-- Check response extensions and extract the nonce. -/
def parseOcspExtensions (crates : Crates) (extArea : Bytes)
    (responseLevel : Bool) : Except LtvError (Option Bytes) := do
  let extensions ←
    (crates.extensionsFromDer extArea).mapError fun e =>
      .ocsp s!"OCSP extensions: {e}"
  rejectIf (extensions = []) (.ocsp "empty OCSP Extensions")
  let (_, nonce) ← extensions.foldlM (ocspExtensionStep responseLevel) ([], none)
  pure nonce

/-! ## `SingleResponse` -/

/-- Parse a TLV that must have a given tag. -/
def expectTlv (tag : UInt8) (label expected : String) (pos : Bytes) :
    Except LtvError (Bytes × Bytes) := do
  let (found, body, rest) ←
    (parseTlvWithRest pos).mapError fun e => .ocsp s!"{label}: {e}"
  rejectIf (found ≠ tag) (.ocsp expected)
  pure (body, rest)

/-- Parse a TLV that must have a given tag, naming the tag found otherwise. -/
def expectTagged (tag : UInt8) (label expected : String) (pos : Bytes) :
    Except LtvError (Bytes × Bytes) := do
  let (found, body, rest) ←
    (parseTlvWithRest pos).mapError fun e => .ocsp s!"{label}: {e}"
  rejectIf (found ≠ tag) (.ocsp s!"expected {expected}, got 0x{hexByte found}")
  pure (body, rest)

/-- The optional reason of a revocation; a reason that cannot be read is dropped. -/
def parseRevocationReason (rest : Bytes) :
    Except LtvError RevocationReason :=
  if rest.head? = some 0xA0 then do
    let (_, reasonInner, _) ←
      (parseTlvWithRest rest).mapError fun e =>
        .ocsp s!"revocationReason: {e}"
    match findTaggedValue reasonInner 0x0A with
    | some (code :: _) => pure (.fromCode code)
    | _ => pure .unspecified
  else pure .unspecified

/-- Parse a `RevokedInfo`. -/
def parseRevokedInfo (body : Bytes) : Except LtvError CertStatus := do
  let (timeBody, rest) ←
    expectTagged 0x18 "revocationTime" "revocationTime GeneralizedTime" body
  let revocationTime ←
    (parseGeneralizedTime timeBody).mapError fun e =>
      .ocsp s!"revocationTime parse: {e}"
  let reason ← parseRevocationReason rest
  pure (.revoked revocationTime reason)

/-- The certificate status in an element with a given tag. -/
def parseCertStatus (tag : UInt8) (body : Bytes) :
    Except LtvError CertStatus :=
  if tag = 0x80 then .ok .good
  else if tag = 0xA1 then parseRevokedInfo body
  else if tag = 0x82 then .ok .unknown
  else .error (.ocsp s!"unknown certStatus tag: 0x{hexByte tag}")

/-- The fields of a `CertID`: hash algorithm, name hash, key hash, serial number. -/
def parseCertId (body : Bytes) :
    Except LtvError (Bytes × Bytes × Bytes × Bytes) := do
  let (algBody, rest) ←
    expectTlv 0x30 "CertID hashAlgorithm" "expected hashAlgorithm SEQUENCE"
      body
  let (oidBody, _) ←
    expectTlv 0x06 "hashAlgorithm OID" "expected OID in hashAlgorithm" algBody
  let (nameHash, rest) ←
    expectTlv 0x04 "issuerNameHash" "expected issuerNameHash OCTET STRING" rest
  let (keyHash, rest) ←
    expectTlv 0x04 "issuerKeyHash" "expected issuerKeyHash OCTET STRING" rest
  let (serialBody, _) ←
    expectTlv 0x02 "serialNumber" "expected serialNumber INTEGER" rest
  pure (oidBody, nameHash, keyHash, parseIntegerBody serialBody)

/-- The optional `nextUpdate` of an entry, and what follows it. -/
def parseSingleNextUpdate (pos : Bytes) :
    Except LtvError (Option DateTime × Bytes) :=
  if pos.head? = some 0xA0 then do
    let (_, inner, rest) ←
      (parseTlvWithRest pos).mapError fun e => .ocsp s!"nextUpdate [0]: {e}"
    let (tag, body, _) ←
      (parseTlvWithRest inner).mapError fun e =>
        .ocsp s!"nextUpdate GeneralizedTime: {e}"
    if tag = 0x18 then
      let nextUpdate ←
        (parseGeneralizedTime body).mapError fun e =>
          .ocsp s!"nextUpdate parse: {e}"
      pure (some nextUpdate, rest)
    else pure (none, rest)
  else pure (none, pos)

/-- The optional extensions at the end of a sequence, and the nonce in them. -/
def parseTrailingExtensions (crates : Crates) (field : String)
    (responseLevel : Bool) (pos : Bytes) : Except LtvError (Option Bytes) :=
  if pos ≠ [] then do
    let (tag, extensions, trailing) ←
      (parseTlvWithRest pos).mapError fun e => .ocsp s!"{field}: {e}"
    rejectIf (tag ≠ 0xA1 ∨ trailing ≠ [])
      (.ocsp s!"unexpected or duplicate {field} fields")
    parseOcspExtensions crates extensions responseLevel
  else pure none

/-- Parse a `SingleResponse` from the body of its SEQUENCE. -/
def parseSingleResponse (crates : Crates) (body : Bytes) :
    Except LtvError SingleResponse := do
  let (certIdBody, pos) ← expectTagged 0x30 "CertID" "CertID SEQUENCE" body
  let (hashAlgorithmOid, issuerNameHash, issuerKeyHash, serialNumber) ←
    parseCertId certIdBody
  let (statusTag, statusBody, pos) ←
    (parseTlvWithRest pos).mapError fun e => .ocsp s!"certStatus: {e}"
  let certStatus ← parseCertStatus statusTag statusBody
  let (timeBody, pos) ←
    expectTagged 0x18 "thisUpdate" "thisUpdate GeneralizedTime" pos
  let thisUpdate ←
    (parseGeneralizedTime timeBody).mapError fun e =>
      .ocsp s!"thisUpdate parse: {e}"
  let (nextUpdate, pos) ← parseSingleNextUpdate pos
  let _ ← parseTrailingExtensions crates "singleExtensions" false pos
  pure
    { hashAlgorithmOid, issuerNameHash, issuerKeyHash, serialNumber
      certStatus, thisUpdate, nextUpdate }

/-! ## The signed part -/

/-- The optional version; returns what follows it. -/
def parseResponseVersion (pos : Bytes) : Except LtvError Bytes :=
  if pos.head? = some 0xA0 then do
    let (_, _, rest) ←
      (parseTlvWithRest pos).mapError fun e => .ocsp s!"version: {e}"
    pure rest
  else pure pos

/-- The responder identity, and what follows it. -/
def parseResponderId (pos : Bytes) : Except LtvError (ResponderId × Bytes) :=
  if pos.head? = some 0xA1 then do
    let (_, nameBody, rest) ←
      (parseTlvWithRest pos).mapError fun e =>
        .ocsp s!"responderID byName: {e}"
    pure (.byName nameBody, rest)
  else if pos.head? = some 0xA2 then do
    let (_, hashWrapper, rest) ←
      (parseTlvWithRest pos).mapError fun e =>
        .ocsp s!"responderID byKeyHash: {e}"
    let (keyHash, _) ←
      expectTagged 0x04 "responderID keyHash OCTET STRING"
        "OCTET STRING in byKeyHash" hashWrapper
    pure (.byKeyHash keyHash, rest)
  else .error (.ocsp "missing or unknown responderID")

/-- Read one entry off the list of responses; other elements are skipped. -/
def singleResponseStep (crates : Crates) :
    Step LtvError (List SingleResponse) UInt8 :=
  fun responses pos => do
    let (tag, body, rest) ←
      (parseTlvWithRest pos).mapError fun e => .ocsp s!"SingleResponse: {e}"
    if tag = 0x30 then
      let response ← parseSingleResponse crates body
      pure (responses ++ [response], rest)
    else pure (responses, rest)

/-- Parse the body of the part that is signed. -/
def parseResponseData (crates : Crates) (tbsValue : Bytes) :
    Except LtvError ResponseData := do
  let pos ← parseResponseVersion tbsValue
  let (responderId, pos) ← parseResponderId pos
  let (timeBody, pos) ←
    expectTagged 0x18 "producedAt" "producedAt GeneralizedTime (0x18)" pos
  let producedAt ←
    (parseGeneralizedTime timeBody).mapError fun e =>
      .ocsp s!"producedAt parse: {e}"
  let (responsesBody, pos) ←
    expectTagged 0x30 "responses SEQUENCE" "responses SEQUENCE" pos
  let responses ← consume (singleResponseStep crates) [] responsesBody
  let nonce ← parseTrailingExtensions crates "responseExtensions" true pos
  pure { responderId, producedAt, responses, nonce }

/-! ## The response -/

/-- Read one embedded certificate; other elements are skipped. -/
def embeddedCertStep : Step LtvError (List Bytes) UInt8 :=
  fun certs pos => do
    let (tag, _, rest) ←
      (parseTlvWithRest pos).mapError fun e => .ocsp s!"embedded cert: {e}"
    if tag = 0x30 then
      pure (certs ++ [pos.take (pos.length - rest.length)], rest)
    else pure (certs, rest)

/-- The embedded certificates behind the signature. -/
def parseEmbeddedCerts (pos : Bytes) : Except LtvError (List Bytes) :=
  if pos ≠ [] then do
    let (certsTag, certsBody, _) ←
      (parseTlvWithRest pos).mapError fun e => .ocsp s!"certs [0]: {e}"
    if certsTag = 0xA0 then
      let (seqTag, seqBody) ←
        (parseTlv certsBody).mapError fun e => .ocsp s!"certs SEQUENCE: {e}"
      if seqTag = 0x30 then consume embeddedCertStep [] seqBody
      else pure []
    else pure []
  else pure []

/-- Parse a `BasicOCSPResponse`. -/
def parseBasicOcspResponse (crates : Crates) (der : Bytes) :
    Except LtvError ParsedBasicOcspResponse := do
  let (tag, body) ←
    (parseTlv der).mapError fun e => .ocsp s!"BasicOCSPResponse: {e}"
  rejectIf (tag ≠ 0x30)
    (.ocsp s!"expected BasicOCSPResponse SEQUENCE, got 0x{hexByte tag}")
  let (tbsValue, afterTbs) ←
    expectTagged 0x30 "tbsResponseData" "tbsResponseData SEQUENCE" body
  let tbsResponseData := body.take (body.length - afterTbs.length)
  let (_, afterSigAlg) ←
    expectTagged 0x30 "signatureAlgorithm" "signatureAlgorithm SEQUENCE"
      afterTbs
  let signatureAlgorithm ←
    (crates.algorithmIdentifierFromDer
      (afterTbs.take (afterTbs.length - afterSigAlg.length))).mapError fun e =>
        .ocsp s!"signatureAlgorithm decode: {e}"
  let (sigBody, rest) ←
    expectTagged 0x03 "signature BIT STRING" "signature BIT STRING" afterSigAlg
  rejectIf (sigBody = []) (.ocsp "empty signature BIT STRING")
  let embeddedCertsDer ← parseEmbeddedCerts rest
  let data ← parseResponseData crates tbsValue
  pure
    { tbsResponseData, signatureAlgorithm
      signatureBytes := sigBody.drop 1
      responderId := data.responderId
      producedAt := data.producedAt
      responses := data.responses
      nonce := data.nonce
      embeddedCertsDer }

/-- Human-readable name of a response status code. -/
def ocspResponseStatusName (status : UInt8) : String :=
  if status = 0 then "successful"
  else if status = 1 then "malformedRequest"
  else if status = 2 then "internalError"
  else if status = 3 then "tryLater"
  else if status = 5 then "sigRequired"
  else if status = 6 then "unauthorized"
  else "unknown"

/-- The response status must be successful; returns what follows it. -/
def parseResponseStatus (outerBody : Bytes) : Except LtvError Bytes := do
  let (tag, body, rest) ←
    (parseTlvWithRest outerBody).mapError fun e =>
      .ocsp s!"responseStatus: {e}"
  rejectIf (tag ≠ 0x0A ∨ body = []) (.ocsp "invalid responseStatus")
  let status := body.headD 0
  rejectIf (status ≠ 0)
    (.ocspResponderStatus
      s!"{ocspResponseStatusName status} ({status.toNat})")
  pure rest

/-- Parse an OCSP response. -/
def parseOcspResponse (crates : Crates) (responseDer : Bytes) :
    Except LtvError ParsedBasicOcspResponse := do
  let (outerTag, outerBody) ←
    (parseTlv responseDer).mapError fun e => .ocsp s!"OCSPResponse outer: {e}"
  rejectIf (outerTag ≠ 0x30)
    (.ocsp s!"expected OCSPResponse SEQUENCE, got 0x{hexByte outerTag}")
  let rest ← parseResponseStatus outerBody
  rejectIf (rest = []) (.ocsp "OCSP response successful but no responseBytes")
  let (wrapped, _) ←
    expectTagged 0xA0 "responseBytes" "responseBytes [0]" rest
  let (seqTag, seqBody) ←
    (parseTlv wrapped).mapError fun e => .ocsp s!"ResponseBytes SEQUENCE: {e}"
  rejectIf (seqTag ≠ 0x30)
    (.ocsp s!"expected ResponseBytes SEQUENCE, got 0x{hexByte seqTag}")
  let (oidBody, rest) ←
    expectTlv 0x06 "responseType OID" "expected responseType OID" seqBody
  rejectIf (oidBody ≠ ocspBasicResponseOid)
    (.ocsp "responseType is not id-pkix-ocsp-basic")
  let (response, _) ←
    expectTlv 0x04 "response OCTET STRING" "expected response OCTET STRING"
      rest
  parseBasicOcspResponse crates response

end RitspLtv.Ltv.OcspResponse
