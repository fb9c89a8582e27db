import RitspLtv.Ltv.OcspResponse
import RitspLtv.Trust.Store

/-!
# OCSP checking

Verifying the signature of a response, deciding whether its signer may vouch
for the certificate, and looking the certificate up among the responses.
-/

namespace RitspLtv.Ltv.Ocsp

open RitspLtv.Foundation.Checks
open RitspLtv.RustStd
open RitspLtv.Chrono
open RitspLtv.DerUtils
open RitspLtv.Crypto.Verify
open RitspLtv.Ltv.Status
open RitspLtv.Ltv.NameConstraints
open RitspLtv.Ltv.X509Ext
open RitspLtv.Ltv.OcspResponse
open RitspLtv.Trust.Store

/-- `id-pkix-ocsp-nocheck`. -/
def nocheckOid : ObjectIdentifier :=
  .newUnwrap [1, 3, 6, 1, 5, 5, 7, 48, 1, 5]

/-- DER NULL, the value of the nocheck extension. -/
def derNull : Bytes := [0x05, 0x00]

/-! ## Signature -/

/-- Direct-issuer authorisation binds both the name and the public key. -/
def certsHaveSameIdentity (a b : Certificate) : Bool :=
  a.tbsCertificate.subject == b.tbsCertificate.subject &&
    a.tbsCertificate.subjectPublicKeyInfo ==
      b.tbsCertificate.subjectPublicKeyInfo

section Signature

variable (crates : Crates) (signatures : Signatures)

/-- The signature of the response verifies under a candidate's key. -/
def signsResponse (parsed : ParsedBasicOcspResponse)
    (policy : SignaturePolicy) (candidate : Certificate) : Bool :=
  match
    crates.spkiToDer candidate.tbsCertificate.subjectPublicKeyInfo
  with
  | .error _ => false
  | .ok spkiDer =>
      decide
        (Accepts
          (signatures.verifySignatureByAlgidWithPolicy parsed.tbsResponseData
            parsed.signatureBytes spkiDer parsed.signatureAlgorithm policy))

/-- The embedded certificates that can be decoded, and the issuer behind them. -/
def signatureCandidates (parsed : ParsedBasicOcspResponse)
    (issuer : Certificate) : List Certificate :=
  (parsed.embeddedCertsDer.filterMap fun certDer =>
    match crates.certificateFromDer certDer with
    | .ok cert => some cert
    | .error _ => none) ++ [issuer]

/-- Verify the signature of a response; returns the responder's certificate. -/
def verifyOcspResponseSignature (parsed : ParsedBasicOcspResponse)
    (issuer : Certificate) (policy : SignaturePolicy) :
    Except LtvError Certificate :=
  match
    (signatureCandidates crates parsed issuer).find?
      (signsResponse crates signatures parsed policy)
  with
  | none =>
      .error
        (.ocsp
          "OCSP response signature could not be verified against any candidate certificate")
  | some candidate =>
      -- embedded fields never replace those of the caller's issuer
      .ok (if certsHaveSameIdentity candidate issuer then issuer else candidate)

end Signature

/-! ## Responder trust -/

/-- `sha1_hash`. -/
def sha1Hash (crates : Crates) (data : Bytes) : Except LtvError Bytes :=
  (crates.digest .sha1 data).mapError .crypto

/-- Whether the responder's own revocation status must still be checked. -/
inductive ResponderRevocationCheck where
  | notRequired
  | required
  deriving DecidableEq, Repr

/-- Whether a certificate carries the nocheck extension. -/
def hasOcspNocheckExtension (cert : Certificate) : Bool :=
  cert.extensions.any fun ext =>
    ext.extnId == nocheckOid && ext.extnValue == derNull

section ResponderTrust

variable (crates : Crates) (signatures : Signatures)

/-- Bind the responder's certificate to the identity in the response. -/
def responderMatchesResponderId (responder : Certificate) :
    ResponderId → Except LtvError Unit
  | .byName nameDer => do
      let subjectDer ←
        (crates.nameToDer responder.tbsCertificate.subject).mapError fun e =>
          .ocsp s!"responder subject encode: {e}"
      rejectIf (subjectDer ≠ nameDer)
        (.ocsp
          "OCSP responder certificate subject does not match responderID (byName)")
  | .byKeyHash keyHash => do
      let computed ←
        sha1Hash crates
          responder.tbsCertificate.subjectPublicKeyInfo.subjectPublicKey.rawBytes
      rejectIf (computed ≠ keyHash)
        (.ocsp
          "OCSP responder certificate key hash does not match responderID (byKeyHash)")

/-- Check an extension that delegated signing restricts; says whether it is one. -/
def processResponderExtension (cert : Certificate) (ext : Extension) :
    Except LtvError Bool :=
  if ext.extnId = keyUsageOid then do
    let _ ← checkKeyUsage cert
    let ku ←
      (crates.keyUsageFromDer ext.extnValue).mapError fun e =>
        .ocsp s!"responder keyUsage: {e}"
    rejectIf (ku.digitalSignature = false ∧ ku.nonRepudiation = false)
      (.ocsp "OCSP responder certificate keyUsage does not permit signing")
    pure true
  else if ext.extnId = basicConstraintsOid then do
    (crates.basicConstraintsFromDer ext.extnValue).mapError fun e =>
      LtvError.ocsp s!"responder basicConstraints: {e}"
    pure true
  else if ext.extnId = ekuOid then do
    let _ ←
      (crates.extendedKeyUsageFromDer ext.extnValue).mapError fun e =>
        LtvError.ocsp s!"responder extendedKeyUsage: {e}"
    pure true
  else if ext.extnId = sanOid then do
    (crates.subjectAltNameFromDer ext.extnValue).mapError fun e =>
      LtvError.ocsp s!"responder subjectAltName: {e}"
    pure true
  else if ext.extnId = nocheckOid then do
    rejectIf (ext.extnValue ≠ derNull)
      (.ocsp "OCSP responder nocheck extension is not DER NULL")
    pure true
  else pure false

/-- One extension of a delegated responder, behind those already seen. -/
def responderExtensionStep (cert : Certificate) (seen : List ObjectIdentifier)
    (ext : Extension) : Except LtvError (List ObjectIdentifier) := do
  rejectIf (ext.extnId ∈ seen)
    (.ocsp
      s!"OCSP responder certificate has duplicate extension {ext.extnId.toString}")
  let processed ← processResponderExtension crates cert ext
  rejectIf (ext.critical = true ∧ processed = false)
    (.ocsp
      s!"OCSP responder certificate has an unprocessed critical extension {ext.extnId.toString}")
  pure (seen ++ [ext.extnId])

/-- Enforce the restrictions on delegated signing. -/
def validateDelegatedResponderExtensions (cert : Certificate) :
    Except LtvError Unit := do
  let _ ← cert.extensions.foldlM (responderExtensionStep crates cert) []
  (validateExtensionsForRole crates cert .ocspResponder).mapError fun e =>
    .ocsp s!"OCSP responder certificate profile: {e.display}"

/-- The constraints of the authorising CA apply to its delegated signer. -/
def checkResponderNameConstraints (issuer responder : Certificate) :
    Except LtvError Unit :=
  (NameConstraintState.default.addFromCert issuer >>= fun constraints =>
    constraints.checkCert crates responder).mapError fun e =>
      .ocsp s!"delegated OCSP responder name constraints: {e.display}"

/-- The responder's certificate is inside its validity at an instant. -/
def checkResponderValidity (responder : Certificate) (now : DateTime) :
    Except LtvError Unit := do
  let notBefore := responder.tbsCertificate.validity.notBefore.toDateTime.instant
  let notAfter := responder.tbsCertificate.validity.notAfter.toDateTime.instant
  rejectIf (now < notBefore)
    (.ocsp
      s!"OCSP responder certificate is not yet valid (notBefore: {crates.instantToString notBefore})")
  rejectIf (now > notAfter)
    (.ocsp
      s!"OCSP responder certificate is expired (notAfter: {crates.instantToString notAfter})")

/-- A delegated signer is named, signed and constrained by the issuer. -/
def validateDelegatedResponder (responder issuer : Certificate)
    (policy : SignaturePolicy) : Except LtvError ResponderRevocationCheck := do
  rejectIf (responder.tbsCertificate.issuer ≠ issuer.tbsCertificate.subject)
    (.ocsp "OCSP responder issuer name does not match the expected CA")
  (signatures.verifyCertificateSignatureWithPolicy responder issuer
    policy).mapError fun _ =>
      .ocsp "OCSP responder certificate is not issued by the expected CA"
  validateDelegatedResponderExtensions crates responder
  checkResponderNameConstraints crates issuer responder
  if hasOcspNocheckExtension responder then pure .notRequired
  else pure .required

/-- Whether the responder may vouch for the issuer's certificates. -/
def validateResponderTrust (responder issuer : Certificate)
    (parsed : ParsedBasicOcspResponse) (policy : SignaturePolicy)
    (now : DateTime) : Except LtvError ResponderRevocationCheck := do
  checkResponderValidity crates responder now
  responderMatchesResponderId crates responder parsed.responderId
  if certsHaveSameIdentity responder issuer then pure .notRequired
  else validateDelegatedResponder crates signatures responder issuer policy

/-! ### The certificate path -/

/-- The validation time of a path, as certificates represent it. -/
def ocspPathTime (now : DateTime) : Except LtvError Der.DateTime := do
  let (year, month, day) := DateTime.date now
  rejectIf (year < 0 ∨ 2 ^ 16 ≤ year)
    (.ocsp "OCSP validation year is outside DER DateTime range")
  match
    Der.DateTime.new year.toNat month day (DateTime.hour now)
      (DateTime.minute now) (DateTime.second now)
  with
  | none => .error (.ocsp "OCSP path validation time: date/time error")
  | some time => pure time

/-- Weak digests are accepted only when both policies accept them. -/
def effectivePolicy (policy storePolicy : SignaturePolicy) : SignaturePolicy :=
  if policy.legacyAllowed && storePolicy.legacyAllowed then .legacy
  else .strict

/-- Verify a path in a store for a role, under the stricter of the two policies. -/
def validateOcspCertificatePath (chain : List Certificate)
    (store : TrustStore) (role : CertRole) (policy : SignaturePolicy)
    (now : DateTime) : Except LtvError Unit := do
  let time ← ocspPathTime now
  let effective := effectivePolicy policy store.signaturePolicy
  let scopedStore :=
    if effective = store.signaturePolicy then store
    else store.withSignaturePolicy effective
  let _ ←
    (scopedStore.verifyChainForPurposeWithFraction crates signatures chain time
      role (decide (DateTime.nanosecond now ≠ 0))).mapError fun e =>
        LtvError.ocsp s!"OCSP certificate issuer path: {e.display}"

end ResponderTrust

/-! ## Nonce and freshness -/

/-- The nonce of a response, raw or wrapped, is the one of the request. -/
def validateNonce (requestNonce responseNonce : Bytes) :
    Except LtvError Unit :=
  if responseNonce = requestNonce then .ok ()
  else if responseNonce = encodeTlv 0x04 requestNonce then .ok ()
  else if
    parseTlvWithRest responseNonce = .ok (0x04, requestNonce, [])
  then .ok ()
  else .error (.ocsp "OCSP response nonce mismatch")

/-- Compare the nonces when both sides have one. -/
def checkResponseNonce (nonce : Option Bytes)
    (parsed : ParsedBasicOcspResponse) (requireNonce : Bool) :
    Except LtvError Unit :=
  match nonce, parsed.nonce with
  | none, _ => .ok ()
  | some requestNonce, some responseNonce =>
      validateNonce requestNonce responseNonce
  | some _, none =>
      rejectIf (requireNonce = true)
        (.ocsp "OCSP response is missing the required nonce")

/-- Freshness policy for OCSP responses. -/
structure OcspFreshness where
  clockSkew : Duration
  maxAgeWithoutNextUpdate : Duration
  deriving DecidableEq

/-- Five minutes of skew, and a day for a response without `nextUpdate`. -/
def OcspFreshness.default : OcspFreshness :=
  ⟨.minutes 5, .hours 24⟩

/-- An entry's window is not behind the validation instant. -/
def validateResponseFreshness (crates : Crates) (sr : SingleResponse)
    (now : DateTime) (freshness : OcspFreshness) : Except LtvError Unit :=
  match sr.nextUpdate with
  | some nextUpdate => do
      rejectIf (nextUpdate < sr.thisUpdate)
        (.ocsp
          s!"OCSP response has nextUpdate ({crates.instantToString nextUpdate}) before thisUpdate ({crates.instantToString sr.thisUpdate})")
      let latest ← addOrPanic nextUpdate freshness.clockSkew
      rejectIf (now > latest)
        (.ocsp
          s!"OCSP response is stale: nextUpdate ({crates.instantToString nextUpdate}) is before validation time ({crates.instantToString now})")
  | none => do
      let aged ← addOrPanic sr.thisUpdate freshness.maxAgeWithoutNextUpdate
      let maxValid ← addOrPanic aged freshness.clockSkew
      rejectIf (now > maxValid)
        (.ocsp
          s!"OCSP response without nextUpdate is too old: thisUpdate ({crates.instantToString sr.thisUpdate}), validation time ({crates.instantToString now}), max age {crates.durationToString freshness.maxAgeWithoutNextUpdate}")

/-! ## Looking a certificate up -/

/-- The hashes and the serial number by which a response names a certificate. -/
structure CertKey where
  issuerNameHash : Bytes
  issuerKeyHash : Bytes
  serialNumber : Bytes
  deriving DecidableEq, Repr

/-- The expected name of a certificate in a response. -/
def expectedCertKey (crates : Crates) (cert issuer : Certificate) :
    Except LtvError CertKey := do
  let issuerNameDer ←
    (crates.nameToDer issuer.tbsCertificate.subject).mapError fun e =>
      .ocsp s!"issuer name encode: {e}"
  let issuerNameHash ← sha1Hash crates issuerNameDer
  let issuerKeyHash ←
    sha1Hash crates
      issuer.tbsCertificate.subjectPublicKeyInfo.subjectPublicKey.rawBytes
  pure
    ⟨issuerNameHash, issuerKeyHash,
      parseIntegerBody cert.tbsCertificate.serialNumber⟩

/-- The hashes and the serial number of an entry are those of a certificate. -/
def CertKey.names (key : CertKey) (response : SingleResponse) : Bool :=
  response.issuerNameHash == key.issuerNameHash &&
    response.issuerKeyHash == key.issuerKeyHash &&
    integerBodiesEqual response.serialNumber key.serialNumber

/-- The first entry that names the certificate; it must use SHA-1. -/
def findMatchingResponse (responses : List SingleResponse) (key : CertKey) :
    Except LtvError (Option SingleResponse) :=
  match responses.find? key.names with
  | none => .ok none
  | some response => do
      rejectIf (response.hashAlgorithmOid ≠ certIdHashAlgorithmOid)
        (.ocsp
          "matching OCSP CertID declares an unsupported hash algorithm (expected SHA-1)")
      pure (some response)

/-- The validation status that an entry reports at an instant. -/
def statusOfResponse (sr : SingleResponse) (now : DateTime) :
    ValidationStatus :=
  match sr.certStatus with
  | .good => .valid .ocsp now
  | .revoked revocationTime reason =>
      if revocationTime > now then .valid .ocsp now
      else .revoked .ocsp reason revocationTime
  | .unknown =>
      .unknown "OCSP responder reported certificate status as unknown"

/-! ## The check -/

/-- The status, and the delegated responder whose own status must be checked. -/
structure OcspCheckOutcome where
  status : ValidationStatus
  delegatedResponder : Option Certificate
  deriving DecidableEq

section Check

variable (crates : Crates) (signatures : Signatures)

/-- The issuer path, if there is one, verifies as a path of CAs. -/
def checkIssuerPath (issuerPath : Option (List Certificate × TrustStore))
    (policy : SignaturePolicy) (now : DateTime) : Except LtvError Unit :=
  match issuerPath with
  | none => .ok ()
  | some (chain, store) =>
      validateOcspCertificatePath crates signatures chain store
        .intermediateCa policy now

/-- A delegated responder in front of the issuer path verifies as a responder. -/
def checkResponderPath (responder issuer : Certificate)
    (issuerPath : Option (List Certificate × TrustStore))
    (policy : SignaturePolicy) (now : DateTime) : Except LtvError Unit :=
  if certsHaveSameIdentity responder issuer then .ok ()
  else
    match issuerPath with
    | none =>
        .error
          (.ocsp
            "delegated OCSP responder requires complete issuer path validation; use check_revocation_detailed_with_issuer_path")
    | some (chain, store) =>
        validateOcspCertificatePath crates signatures (responder :: chain)
          store .ocspResponder policy now

/-- Authorise the responder; returns it when its own status must be checked. -/
def authoriseResponder (parsed : ParsedBasicOcspResponse)
    (responder issuer : Certificate) (policy : SignaturePolicy)
    (now : DateTime) (issuerPath : Option (List Certificate × TrustStore)) :
    Except LtvError (Option Certificate) := do
  checkIssuerPath crates signatures issuerPath policy now
  let responderCheck ←
    validateResponderTrust crates signatures responder issuer parsed policy now
  checkResponderPath crates signatures responder issuer issuerPath policy now
  match responderCheck with
  | .required => pure (some responder)
  | .notRequired => pure none

/-- Look the certificate up among the entries of a response. -/
def lookupResponse (responses : List SingleResponse)
    (cert issuer : Certificate) (now : DateTime) (freshness : OcspFreshness)
    (delegatedResponder : Option Certificate) :
    Except LtvError OcspCheckOutcome := do
  let key ← expectedCertKey crates cert issuer
  match ← findMatchingResponse responses key with
  | none => pure ⟨.unknown "certificate not found in OCSP response", none⟩
  | some sr =>
      validateResponseFreshness crates sr now freshness
      pure ⟨statusOfResponse sr now, delegatedResponder⟩

/-- The check behind parsing. -/
def checkParsedResponse (parsed : ParsedBasicOcspResponse)
    (cert issuer : Certificate) (nonce : Option Bytes) (now : DateTime)
    (policy : SignaturePolicy) (freshness : OcspFreshness)
    (issuerPath : Option (List Certificate × TrustStore))
    (requireNonce : Bool) : Except LtvError OcspCheckOutcome := do
  let responder ←
    verifyOcspResponseSignature crates signatures parsed issuer policy
  let delegatedResponder ←
    authoriseResponder crates signatures parsed responder issuer policy now
      issuerPath
  checkResponseNonce nonce parsed requireNonce
  lookupResponse crates parsed.responses cert issuer now freshness
    delegatedResponder

/-- Check a certificate against a response; the wall clock is `utcNow`. -/
def checkRevocationDetailedInner (utcNow : DateTime) (responseDer : Bytes)
    (cert issuer : Certificate) (nonce : Option Bytes)
    (validationTime : Option DateTime) (policy : SignaturePolicy)
    (freshness : OcspFreshness)
    (issuerPath : Option (List Certificate × TrustStore))
    (requireNonce : Bool) : Except LtvError OcspCheckOutcome := do
  let now := validationTime.getD utcNow
  rejectIf (requireNonce = true ∧ nonce.getD [] = [])
    (.ocsp "strict OCSP nonce policy requires a nonempty request nonce")
  let parsed ← parseOcspResponse crates responseDer
  checkParsedResponse crates signatures parsed cert issuer nonce now policy
    freshness issuerPath requireNonce

/-- The check without an issuer path. -/
def checkRevocationDetailedWithNoncePolicy (utcNow : DateTime)
    (responseDer : Bytes) (cert issuer : Certificate) (nonce : Option Bytes)
    (validationTime : Option DateTime) (policy : SignaturePolicy)
    (freshness : OcspFreshness) (requireNonce : Bool) :
    Except LtvError OcspCheckOutcome :=
  checkRevocationDetailedInner crates signatures utcNow responseDer cert issuer
    nonce validationTime policy freshness none requireNonce

/-- The check with the issuer's certificate path, which starts with the issuer. -/
def checkRevocationDetailedWithIssuerPath (utcNow : DateTime)
    (responseDer : Bytes) (cert issuer : Certificate) (nonce : Option Bytes)
    (validationTime : Option DateTime) (policy : SignaturePolicy)
    (freshness : OcspFreshness) (issuerChain : List Certificate)
    (trustStore : TrustStore) (requireNonce : Bool) :
    Except LtvError OcspCheckOutcome := do
  rejectIf (issuerChain.head? ≠ some issuer)
    (.ocsp "OCSP issuer path does not start with the expected issuer")
  checkRevocationDetailedInner crates signatures utcNow responseDer cert issuer
    nonce validationTime policy freshness (some (issuerChain, trustStore))
    requireNonce

end Check

end RitspLtv.Ltv.Ocsp
