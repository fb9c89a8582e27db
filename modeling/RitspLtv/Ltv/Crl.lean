import RitspLtv.Ltv.Status
import RitspLtv.Ltv.X509Ext
import RitspLtv.DerUtils
import RitspLtv.Crypto.Verify

/-!
# CRL checking

Parsing a complete direct CRL, verifying its signature and freshness, and
looking a certificate up in its list of revoked entries.
-/

namespace RitspLtv.Ltv.Crl

open RitspLtv.Foundation.Checks
open RitspLtv.Foundation.Consume
open RitspLtv.RustStd
open RitspLtv.Chrono
open RitspLtv.DerUtils
open RitspLtv.Crypto.Verify
open RitspLtv.Ltv.Status
open RitspLtv.Ltv.X509Ext

/-! ## The parsed list -/

/-- One entry of the list of revoked certificates. -/
structure RevokedEntry where
  serialNumber : Bytes
  revocationTime : DateTime
  reason : RevocationReason
  deriving DecidableEq, Repr

/-- A parsed CRL. -/
structure ParsedCrl where
  tbsBytes : Bytes
  signatureAlgorithm : AlgorithmIdentifier
  signatureBytes : Bytes
  issuerDer : Bytes
  thisUpdate : DateTime
  nextUpdate : Option DateTime
  revokedEntries : List RevokedEntry
  deriving DecidableEq, Repr

/-- `2.5.29.27`. -/
def deltaCrlIndicatorOid : Bytes := [0x55, 0x1D, 0x1B]

/-- `2.5.29.28`. -/
def issuingDistPointOid : Bytes := [0x55, 0x1D, 0x1C]

/-- `2.5.29.21`, as the body of an OBJECT IDENTIFIER. -/
def reasonOidBytes : Bytes := [0x55, 0x1D, 0x15]

/-! ## Extensions -/

/-- Whether an extension list has an identifier; what follows it is not read. -/
def extensionsContainOidWithin : Nat → Bytes → Bytes → Except String Bool
  | _, [], _ => .ok false
  | 0, _ :: _, _ => .ok false
  | fuel + 1, head :: tail, targetOid => do
      let (extTag, extValue, rest) ← parseTlvWithRest (head :: tail)
      rejectIf (extTag ≠ 0x30)
        s!"expected Extension SEQUENCE (0x30), got 0x{hexByte extTag}"
      let (oidTag, oidBody, _) ← parseTlvWithRest extValue
      if oidTag = 0x06 ∧ oidBody = targetOid then pure true
      else extensionsContainOidWithin fuel rest targetOid

def extensionsContainOid (extensionsBody targetOid : Bytes) :
    Except String Bool :=
  extensionsContainOidWithin extensionsBody.length extensionsBody targetOid

/-- The value of a reason-code extension is one a full CRL may contain. -/
def checkReasonCode (extnValue : Bytes) : Except LtvError Unit := do
  let (tag, value, rest) ← (parseTlvWithRest extnValue).mapError .crl
  rejectIf
    (tag ≠ 0x0A ∨ value.length ≠ 1 ∨ rest ≠ [] ∨ value.headD 0 > 10 ∨
      value.headD 0 = 7 ∨ value.headD 0 = 8)
    (.crl "invalid or unsupported full-CRL reason code")

/-- One extension of a CRL or of an entry, behind those already seen. -/
def validateCrlExtension (seen : List ObjectIdentifier)
    (extension : Extension) : Except LtvError (List ObjectIdentifier) := do
  rejectIf (extension.extnId ∈ seen) (.crl "duplicate CRL extension")
  rejectIf (extension.critical = true)
    (.crl s!"unsupported critical CRL extension {extension.extnId.toString}")
  rejectIf (extension.extnId = .newUnwrap [2, 5, 29, 29])
    (.crl "indirect CRL certificateIssuer extension is unsupported")
  if extension.extnId = .newUnwrap [2, 5, 29, 21] then
    checkReasonCode extension.extnValue
  pure (extension.extnId :: seen)

/-- Unknown critical extensions can change the scope of a CRL. -/
def validateCrlExtensions (crates : Crates) (encoded : Bytes) :
    Except LtvError Unit := do
  let extensions ←
    (crates.extensionsFromDer encoded).mapError fun e =>
      .crl s!"CRL extensions: {e}"
  rejectIf (extensions = []) (.crl "empty CRL Extensions sequence")
  let _ ← extensions.foldlM validateCrlExtension []

/-! ## Revoked entries -/

/-- The reason code of one extension, if it is a readable reason code. -/
def reasonOfExtension (extValue : Bytes) : Option RevocationReason := do
  let oidBody ← findTaggedValue extValue 0x06
  if oidBody = reasonOidBytes then
    let octetBody ← findTaggedValue extValue 0x04
    let enumBody ← findTaggedValue octetBody 0x0A
    enumBody.head?.map RevocationReason.fromCode
  else none

def parseRevocationReasonWithin : Nat → Bytes → RevocationReason
  | _, [] => .unspecified
  | 0, _ :: _ => .unspecified
  | fuel + 1, head :: tail =>
      match parseTlvWithRest (head :: tail) with
      | .error _ => .unspecified
      | .ok (extTag, extValue, rest) =>
          match if extTag = 0x30 then reasonOfExtension extValue else none with
          | some reason => reason
          | none => parseRevocationReasonWithin fuel rest

/-- The reason code among the extensions of an entry. -/
def parseRevocationReason (extensionsArea : Bytes) : RevocationReason :=
  match parseTlvWithRest extensionsArea with
  | .error _ => .unspecified
  | .ok (tag, extBody, _) =>
      if tag = 0x30 then parseRevocationReasonWithin extBody.length extBody
      else .unspecified

/-- Read one revoked entry off the list. -/
def revokedCertificateStep (crates : Crates) :
    Step LtvError (List RevokedEntry) UInt8 :=
  fun entries pos => do
    let (entryTag, entryBody, rest) ←
      (parseTlvWithRest pos).mapError fun e => .crl s!"revoked entry: {e}"
    rejectIf (entryTag ≠ 0x30)
      (.crl s!"expected revoked entry SEQUENCE, got 0x{hexByte entryTag}")
    let (serialTag, serialBody, entryRest) ←
      (parseTlvWithRest entryBody).mapError fun e =>
        .crl s!"revoked serial: {e}"
    rejectIf (serialTag ≠ 0x02)
      (.crl s!"expected serial INTEGER (0x02), got 0x{hexByte serialTag}")
    let (timeTag, timeBody, entryRest) ←
      (parseTlvWithRest entryRest).mapError fun e =>
        .crl s!"revocation date: {e}"
    let revocationTime ←
      (parseX509Time timeTag timeBody).mapError fun e =>
        .crl s!"revocation date parse: {e}"
    if entryRest ≠ [] then validateCrlExtensions crates entryRest
    pure
      (entries ++
          [{ serialNumber := parseIntegerBody serialBody
             revocationTime
             reason := parseRevocationReason entryRest }],
        rest)

/-- Parse the body of `revokedCertificates`. -/
def parseRevokedCertificates (crates : Crates) (body : Bytes) :
    Except LtvError (List RevokedEntry) :=
  consume (revokedCertificateStep crates) [] body

/-! ## The list -/

/-- The optional version; returns what follows it. -/
def parseCrlVersion (tbsPos : Bytes) : Except LtvError Bytes :=
  if tbsPos.head? = some 0x02 then do
    let (_, version, rest) ←
      (parseTlvWithRest tbsPos).mapError fun e => .crl s!"CRL version: {e}"
    rejectIf (version ≠ [1]) (.crl "explicit CRL version must be v2 (1)")
    pure rest
  else pure tbsPos

/-- The signed algorithm is the one declared outside. -/
def parseInnerAlgorithm (crates : Crates)
    (signatureAlgorithm : AlgorithmIdentifier) (tbsPos : Bytes) :
    Except LtvError Bytes := do
  let (tag, _, rest) ←
    (parseTlvWithRest tbsPos).mapError fun e => .crl s!"CRL inner sigAlg: {e}"
  rejectIf (tag ≠ 0x30) (.crl "CRL inner signatureAlgorithm is not a SEQUENCE")
  let innerAlgorithm ←
    (crates.algorithmIdentifierFromDer
      (tbsPos.take (tbsPos.length - rest.length))).mapError fun e =>
        .crl s!"CRL inner signatureAlgorithm: {e}"
  rejectIf (innerAlgorithm ≠ signatureAlgorithm)
    (.crl "CRL inner and outer signatureAlgorithm differ")
  pure rest

/-- The issuer name with its header, and what follows it. -/
def parseCrlIssuer (tbsPos : Bytes) : Except LtvError (Bytes × Bytes) := do
  let (issuerTag, _, rest) ←
    (parseTlvWithRest tbsPos).mapError fun e => .crl s!"CRL issuer: {e}"
  rejectIf (issuerTag ≠ 0x30)
    (.crl s!"expected issuer SEQUENCE, got 0x{hexByte issuerTag}")
  pure (tbsPos.take (tbsPos.length - rest.length), rest)

/-- `thisUpdate`, and what follows it. -/
def parseThisUpdate (tbsPos : Bytes) : Except LtvError (DateTime × Bytes) := do
  let (timeTag, timeBody, rest) ←
    (parseTlvWithRest tbsPos).mapError fun e => .crl s!"CRL thisUpdate: {e}"
  let thisUpdate ←
    (parseX509Time timeTag timeBody).mapError fun e =>
      .crl s!"CRL thisUpdate parse: {e}"
  pure (thisUpdate, rest)

/-- The optional `nextUpdate`, and what follows it. -/
def parseNextUpdate (tbsPos : Bytes) :
    Except LtvError (Option DateTime × Bytes) :=
  if tbsPos.head? = some 0x17 ∨ tbsPos.head? = some 0x18 then do
    let (timeTag, timeBody, rest) ←
      (parseTlvWithRest tbsPos).mapError fun e => .crl s!"CRL nextUpdate: {e}"
    let nextUpdate ←
      (parseX509Time timeTag timeBody).mapError fun e =>
        .crl s!"CRL nextUpdate parse: {e}"
    pure (some nextUpdate, rest)
  else pure (none, tbsPos)

/-- The optional `revokedCertificates`, and what follows them. -/
def parseRevokedField (crates : Crates) (tbsPos : Bytes) :
    Except LtvError (List RevokedEntry × Bytes) :=
  if tbsPos.head? = some 0x30 then do
    let (_, body, rest) ←
      (parseTlvWithRest tbsPos).mapError fun e =>
        .crl s!"CRL revokedCertificates: {e}"
    let entries ← parseRevokedCertificates crates body
    pure (entries, rest)
  else pure ([], tbsPos)

/-- The optional `crlExtensions`, which exclude delta and partitioned CRLs. -/
def parseCrlExtensionsField (crates : Crates) (tbsPos : Bytes) :
    Except LtvError Bytes :=
  if tbsPos.head? = some 0xA0 then do
    let (_, wrapBody, afterExtensions) ←
      (parseTlvWithRest tbsPos).mapError fun e => .crl s!"crlExtensions: {e}"
    rejectIf (afterExtensions ≠ [])
      (.crl "trailing fields after crlExtensions")
    let (seqTag, extensionsBody, afterSequence) ←
      (parseTlvWithRest wrapBody).mapError fun e =>
        .crl s!"crlExtensions SEQUENCE: {e}"
    rejectIf (afterSequence ≠ []) (.crl "trailing data inside crlExtensions")
    rejectIf (seqTag ≠ 0x30)
      (.crl
        s!"crlExtensions: expected Extensions SEQUENCE (0x30), got 0x{hexByte seqTag}")
    let hasDelta ←
      (extensionsContainOid extensionsBody deltaCrlIndicatorOid).mapError
        fun e => .crl s!"crlExtensions scan: {e}"
    rejectIf (hasDelta = true)
      (.crl
        "delta CRL (2.5.29.27) not supported; only full CRLs are accepted")
    let hasIdp ←
      (extensionsContainOid extensionsBody issuingDistPointOid).mapError
        fun e => .crl s!"crlExtensions scan: {e}"
    rejectIf (hasIdp = true)
      (.crl
        "partitioned CRL (IssuingDistributionPoint) not supported; only full CRLs are accepted")
    validateCrlExtensions crates wrapBody
    pure afterExtensions
  else pure tbsPos

/-- The three parts of a `CertificateList`, as the outer layer splits them. -/
structure CertificateList where
  tbsValue : Bytes
  tbsBytes : Bytes
  signatureAlgorithm : AlgorithmIdentifier
  signatureBytes : Bytes

/-- Parse the outer layer of a CRL. -/
def parseCertificateList (crates : Crates) (crlDer : Bytes) :
    Except LtvError CertificateList := do
  let (outerTag, outerBody, outerRest) ←
    (parseTlvWithRest crlDer).mapError fun e =>
      .crl s!"CRL outer SEQUENCE: {e}"
  rejectIf (outerRest ≠ []) (.crl "trailing data after CRL")
  rejectIf (outerTag ≠ 0x30)
    (.crl s!"expected CRL SEQUENCE (0x30), got 0x{hexByte outerTag}")
  let (tbsTag, tbsValue, afterTbs) ←
    (parseTlvWithRest outerBody).mapError fun e =>
      .crl s!"CRL tbsCertList: {e}"
  rejectIf (tbsTag ≠ 0x30)
    (.crl s!"expected tbsCertList SEQUENCE, got 0x{hexByte tbsTag}")
  let tbsStart := crlDer.length - outerBody.length
  let tbsEnd := tbsStart + (outerBody.length - afterTbs.length)
  let tbsBytes := (crlDer.drop tbsStart).take (tbsEnd - tbsStart)
  let (sigAlgTag, _, afterSigAlg) ←
    (parseTlvWithRest afterTbs).mapError fun e => .crl s!"CRL sigAlg: {e}"
  rejectIf (sigAlgTag ≠ 0x30)
    (.crl s!"expected signatureAlgorithm SEQUENCE, got 0x{hexByte sigAlgTag}")
  let signatureAlgorithm ←
    (crates.algorithmIdentifierFromDer
      (afterTbs.take (afterTbs.length - afterSigAlg.length))).mapError fun e =>
        .crl s!"CRL signatureAlgorithm decode: {e}"
  let (sigValTag, sigValBody, afterSignature) ←
    (parseTlvWithRest afterSigAlg).mapError fun e => .crl s!"CRL sigValue: {e}"
  rejectIf (afterSignature ≠ []) (.crl "trailing fields after CRL signature")
  rejectIf (sigValTag ≠ 0x03)
    (.crl
      s!"expected signatureValue BIT STRING (0x03), got 0x{hexByte sigValTag}")
  rejectIf (sigValBody.length < 2 ∨ sigValBody.headD 0 ≠ 0)
    (.crl
      "signature BIT STRING must contain octet-aligned signature bytes")
  pure
    { tbsValue, tbsBytes, signatureAlgorithm
      signatureBytes := sigValBody.drop 1 }

/-- Parse a CRL. -/
def parseCrl (crates : Crates) (crlDer : Bytes) :
    Except LtvError ParsedCrl := do
  let list ← parseCertificateList crates crlDer
  let tbsPos ← parseCrlVersion list.tbsValue
  let tbsPos ← parseInnerAlgorithm crates list.signatureAlgorithm tbsPos
  let (issuerDer, tbsPos) ← parseCrlIssuer tbsPos
  let (thisUpdate, tbsPos) ← parseThisUpdate tbsPos
  let (nextUpdate, tbsPos) ← parseNextUpdate tbsPos
  let (revokedEntries, tbsPos) ← parseRevokedField crates tbsPos
  let tbsPos ← parseCrlExtensionsField crates tbsPos
  rejectIf (tbsPos ≠ []) (.crl "unexpected trailing TBSCertList fields")
  pure
    { tbsBytes := list.tbsBytes
      signatureAlgorithm := list.signatureAlgorithm
      signatureBytes := list.signatureBytes
      issuerDer, thisUpdate, nextUpdate, revokedEntries }

/-! ## Signature -/

/-- A key usage, when there is one, lets the issuer sign CRLs. -/
def requireCrlSign (issuer : Certificate) : Except LtvError Unit := do
  match ← checkKeyUsage issuer with
  | none => pure ()
  | some ku =>
      rejectIf (ku.crlSign = false)
        (.crl
          s!"CRL issuer certificate keyUsage does not assert cRLSign (has: {ku.display})")

/-- Verify the signature of a CRL under the issuer's key. -/
def verifyCrlSignatureWithPolicy (crates : Crates) (signatures : Signatures)
    (parsedCrl : ParsedCrl) (issuer : Certificate)
    (policy : SignaturePolicy) : Except LtvError Unit := do
  requireCrlSign issuer
  let spkiDer ←
    (crates.spkiToDer issuer.tbsCertificate.subjectPublicKeyInfo).mapError
      fun e => .crl s!"issuer SPKI encode failed: {e}"
  let subjectDer ←
    (crates.nameToDer issuer.tbsCertificate.subject).mapError fun e =>
      .crl s!"CRL signer name: {e}"
  rejectIf (subjectDer ≠ parsedCrl.issuerDer)
    (.crl "CRL issuer does not match signing certificate subject")
  (signatures.verifySignatureByAlgidWithPolicy parsedCrl.tbsBytes
    parsedCrl.signatureBytes spkiDer parsedCrl.signatureAlgorithm
    policy).mapError fun e =>
      .crl s!"CRL signature verification failed: {e.display}"

/-! ## Freshness -/

/-- Freshness policy for CRLs. -/
structure CrlFreshness where
  clockSkew : Duration
  maxAgeWithoutNextUpdate : Duration
  deriving DecidableEq

/-- Five minutes of skew, and a day for a CRL without `nextUpdate`. -/
def CrlFreshness.default : CrlFreshness :=
  ⟨.minutes 5, .hours 24⟩

/-- A CRL's window is not behind the validation instant. -/
def validateCrlDates (crates : Crates) (thisUpdate : DateTime)
    (nextUpdate : Option DateTime) (now : DateTime)
    (freshness : CrlFreshness) : Except LtvError Unit :=
  match nextUpdate with
  | some nextUpdate => do
      rejectIf (nextUpdate < thisUpdate)
        (.crl
          s!"CRL has nextUpdate ({crates.instantToString nextUpdate}) before thisUpdate ({crates.instantToString thisUpdate})")
      let latest ← addOrPanic nextUpdate freshness.clockSkew
      rejectIf (now > latest)
        (.crl
          s!"CRL is stale: nextUpdate ({crates.instantToString nextUpdate}) is before validation time ({crates.instantToString now})")
  | none => do
      let aged ← addOrPanic thisUpdate freshness.maxAgeWithoutNextUpdate
      let maxValid ← addOrPanic aged freshness.clockSkew
      rejectIf (now > maxValid)
        (.crl
          s!"CRL without nextUpdate is too old: thisUpdate ({crates.instantToString thisUpdate}), validation time ({crates.instantToString now}), max age {crates.durationToString freshness.maxAgeWithoutNextUpdate}")

def validateCrlFreshness (crates : Crates) (parsed : ParsedCrl)
    (now : DateTime) (freshness : CrlFreshness) : Except LtvError Unit :=
  validateCrlDates crates parsed.thisUpdate parsed.nextUpdate now freshness

/-! ## Looking a certificate up -/

/-- The encoding of a certificate's issuer name. -/
def getCertIssuerDer (crates : Crates) (cert : Certificate) :
    Except LtvError Bytes :=
  (crates.nameToDer cert.tbsCertificate.issuer).mapError fun e =>
    .crl s!"cert issuer DER encode failed: {e}"

/-- The serial number of a certificate, without leading zero padding. -/
def getCertSerialBody (cert : Certificate) : Bytes :=
  parseIntegerBody cert.tbsCertificate.serialNumber

/-- The status that a list of entries gives: that of the first matching entry. -/
def lookupRevoked (entries : List RevokedEntry) (certSerial : Bytes)
    (now : DateTime) : ValidationStatus :=
  match
    entries.find? fun entry =>
      integerBodiesEqual entry.serialNumber certSerial
  with
  | none => .valid .crl now
  | some entry =>
      if entry.revocationTime > now then .valid .crl now
      else .revoked .crl entry.reason entry.revocationTime

/-- The checks on a parsed CRL, and the status of the certificate in it. -/
def checkParsedCrl (crates : Crates) (signatures : Signatures)
    (parsed : ParsedCrl) (cert issuer : Certificate) (now : DateTime)
    (policy : SignaturePolicy) (freshness : CrlFreshness) :
    Except LtvError ValidationStatus := do
  verifyCrlSignatureWithPolicy crates signatures parsed issuer policy
  validateCrlFreshness crates parsed now freshness
  let certIssuerDer ← getCertIssuerDer crates cert
  rejectIf (parsed.issuerDer ≠ certIssuerDer)
    (.crl "CRL issuer does not match certificate issuer")
  pure (lookupRevoked parsed.revokedEntries (getCertSerialBody cert) now)

/-- Check a certificate against a CRL; the wall clock is `utcNow`. -/
def checkRevocationWithOptions (crates : Crates) (signatures : Signatures)
    (utcNow : DateTime) (crlDer : Bytes) (cert issuer : Certificate)
    (validationTime : Option DateTime) (policy : SignaturePolicy)
    (freshness : CrlFreshness) : Except LtvError ValidationStatus := do
  let now := validationTime.getD utcNow
  let parsed ← parseCrl crates crlDer
  checkParsedCrl crates signatures parsed cert issuer now policy freshness

end RitspLtv.Ltv.Crl
