import RitspLtv.Tsp.Ess
import RitspLtv.Tsp.SignerProfile
import RitspLtv.Trust.Store

/-!
# Timestamp tokens

Verification of a timestamp token: the single signature over its attributes,
the certificate it is made with, the content it covers, and the path from that
certificate to an anchor.
-/

namespace RitspLtv.Tsp.Token

open RitspLtv.Foundation.Checks
open RitspLtv.RustStd
open RitspLtv.DerUtils
open RitspLtv.Crypto.Algorithm
open RitspLtv.Crypto.Verify
open RitspLtv.Trust.Store
open RitspLtv.Tsp.Cms
open RitspLtv.Tsp.Info
open RitspLtv.Tsp.Ess
open RitspLtv.Tsp.SignerProfile

/-! ## Identifiers -/

/-- `id-ct-TSTInfo`. -/
def idCtTstInfo : ObjectIdentifier :=
  .newUnwrap [1, 2, 840, 113549, 1, 9, 16, 1, 4]

/-- `id-signedData`. -/
def idSignedData : ObjectIdentifier :=
  .newUnwrap [1, 2, 840, 113549, 1, 7, 2]

/-- `id-contentType`. -/
def idContentTypeAttr : ObjectIdentifier :=
  .newUnwrap [1, 2, 840, 113549, 1, 9, 3]

/-- `id-messageDigest`. -/
def idMessageDigestAttr : ObjectIdentifier :=
  .newUnwrap [1, 2, 840, 113549, 1, 9, 4]

/-- `id-ce-subjectKeyIdentifier`. -/
def skiOid : ObjectIdentifier := .newUnwrap [2, 5, 29, 14]

/-- `id-ce-subjectAltName`. -/
def sanOid : ObjectIdentifier := .newUnwrap [2, 5, 29, 17]

/-- `rsaEncryption`, an algorithm that names no digest. -/
def oidRsaEncryption : ObjectIdentifier :=
  .newUnwrap [1, 2, 840, 113549, 1, 1, 1]

/-- `id-ecPublicKey`, an algorithm that names no digest. -/
def oidEcPublicKey : ObjectIdentifier :=
  .newUnwrap [1, 2, 840, 10045, 2, 1]

/-- `id-RSASSA-PSS`. -/
def oidRsassaPss : ObjectIdentifier :=
  .newUnwrap [1, 2, 840, 113549, 1, 1, 10]

/-- `sha256WithRSAEncryption` and its siblings, by digest. -/
def rsaWithDigest : DigestAlgorithm → Option ObjectIdentifier
  | .sha256 => some (.newUnwrap [1, 2, 840, 113549, 1, 1, 11])
  | .sha384 => some (.newUnwrap [1, 2, 840, 113549, 1, 1, 12])
  | .sha512 => some (.newUnwrap [1, 2, 840, 113549, 1, 1, 13])
  | _ => none

/-- `ecdsa-with-SHA256` and its siblings, by digest. -/
def ecdsaWithDigest : DigestAlgorithm → Option ObjectIdentifier
  | .sha256 => some (.newUnwrap [1, 2, 840, 10045, 4, 3, 2])
  | .sha384 => some (.newUnwrap [1, 2, 840, 10045, 4, 3, 3])
  | .sha512 => some (.newUnwrap [1, 2, 840, 10045, 4, 3, 4])
  | _ => none

/-! ## Decoding -/

section Decoding

variable (crates : CmsCrates)

/-- The `SignedData` of a token. -/
def parseSignedData (tokenDer : Bytes) : Except TspError SignedData := do
  let ci ←
    (crates.contentInfoFromDer tokenDer).mapError fun e =>
      .invalidResponse s!"failed to parse ContentInfo: {e}"
  rejectIf (ci.contentType ≠ idSignedData)
    (.invalidResponse
      s!"ContentInfo contentType is not id-signedData (got {ci.contentType.toString})")
  (crates.signedDataFromAny ci.content).mapError fun e =>
    .invalidResponse s!"failed to parse SignedData: {e}"

/-- The octets of the encapsulated `TSTInfo`. -/
def tstInfoDer (signedData : SignedData) : Except TspError Bytes := do
  let eci := signedData.encapContentInfo
  rejectIf (eci.econtentType ≠ idCtTstInfo)
    (.invalidResponse
      s!"encapContentInfo eContentType is not id-ct-TSTInfo (got {eci.econtentType.toString})")
  match eci.econtent with
  | none =>
      .error (.invalidResponse "SignedData has no encapsulated content")
  | some econtent => pure econtent.value

/-- The only `SignerInfo`. -/
def singleSignerInfo (signedData : SignedData) :
    Except TspError SignerInfo :=
  match signedData.signerInfos with
  | [signerInfo] => .ok signerInfo
  | signerInfos =>
      .error
        (.invalidResponse
          s!"expected exactly one SignerInfo, found {signerInfos.length}")

/-- The signed attributes, which are mandatory. -/
def requireSignedAttrs (signerInfo : SignerInfo) :
    Except TspError (List Attribute) :=
  match signerInfo.signedAttrs with
  | none => .error (.verificationFailed "SignerInfo has no signedAttrs")
  | some signedAttrs => .ok signedAttrs

/-- The certificate of a choice that has one. -/
def CertificateChoices.toCertificate :
    CertificateChoices → Option Certificate
  | .certificate cert => some cert
  | .other => none

/-- The certificates of the token, then those supplied that it does not have. -/
def candidateCerts (signedData : SignedData)
    (extraCerts : List Certificate) : List Certificate :=
  extraCerts.foldl
    (fun embedded cert =>
      if cert ∈ embedded then embedded else embedded ++ [cert])
    ((signedData.certificates.getD []).filterMap
      CertificateChoices.toCertificate)

end Decoding

/-! ## The signer -/

section Signer

variable (crates : CmsCrates)

/-- The subject key identifier of a certificate. -/
def certSki (cert : Certificate) : Option Bytes :=
  match cert.findExtension skiOid with
  | none => none
  | some ext =>
      match parseTlv ext.extnValue with
      | .ok (0x04, body) => some body
      | _ => none

/-- Whether a certificate matches a signer identifier. -/
def signerIdentifierMatches (sid : SignerIdentifier)
    (cert : Certificate) : Bool :=
  match sid with
  | .issuerAndSerialNumber issuer serialNumber =>
      cert.tbsCertificate.issuer == issuer &&
        cert.tbsCertificate.serialNumber == serialNumber
  | .subjectKeyIdentifier keyIdentifier =>
      certSki cert == some keyIdentifier

/-- Bindings count only when they are signed. -/
def rejectUnsignedBindings (signerInfo : SignerInfo) :
    Except TspError Unit :=
  rejectIf
    (∃ attr ∈ signerInfo.unsignedAttrs.getD [],
      attr.oid = idSigningCertificate ∨ attr.oid = idSigningCertificateV2)
    (.verificationFailed "ESS signing-certificate attribute must be signed")

/-- Whether every binding names a certificate; stops at the first that does not. -/
def bindingsMatch (cert : Certificate) :
    List EssBinding → Except TspError Bool
  | [] => .ok true
  | binding :: bindings => do
      if ← binding.matches crates cert then bindingsMatch cert bindings
      else pure false

/-- The first certificate that matches the identifier and every binding. -/
def findSigner (sid : SignerIdentifier) (bindings : List EssBinding) :
    List Certificate → Except TspError Certificate
  | [] =>
      .error
        (.verificationFailed
          "no signing certificate matches SignerInfo and ESS certificate bindings")
  | cert :: embedded =>
      if signerIdentifierMatches sid cert then do
        if ← bindingsMatch crates cert bindings then pure cert
        else findSigner sid bindings embedded
      else findSigner sid bindings embedded

/-- The digest algorithm of a signer. -/
def signerDigest (signerInfo : SignerInfo) :
    Except TspError DigestAlgorithm :=
  match DigestAlgorithm.fromOid signerInfo.digestAlg.oid with
  | some digestAlg => .ok digestAlg
  | none =>
      .error
        (.verificationFailed
          s!"unsupported SignerInfo digestAlgorithm OID: {signerInfo.digestAlg.oid.toString}")

/-- The certificate that signed, found through the signed bindings. -/
def selectSigner (signerInfo : SignerInfo) (signedAttrs : List Attribute)
    (embedded : List Certificate) : Except TspError Certificate := do
  rejectIf (embedded = [])
    (.invalidResponse
      "timestamp token contains no certificates and no extra_certs were supplied; request the token with certReq=true, or pass the TSA certificate via extra_certs")
  let bindings ← signingCertificateBindings crates signedAttrs
  rejectUnsignedBindings signerInfo
  findSigner crates signerInfo.sid bindings embedded

end Signer

/-! ## What is signed -/

section Signed

variable (crates : CmsCrates) (signatures : Signatures)

/-- The signed content type must be `id-ct-TSTInfo`. -/
def checkContentType (signedAttrs : List Attribute) :
    Except TspError Unit := do
  match ← findAttribute signedAttrs idContentTypeAttr with
  | none =>
      .error
        (.verificationFailed "signedAttrs missing content-type attribute")
  | some contentTypeAttr =>
      let signedContentType ←
        (crates.oidFromAny contentTypeAttr).mapError fun e =>
          .verificationFailed s!"invalid content-type attribute: {e}"
      rejectIf (signedContentType ≠ idCtTstInfo)
        (.verificationFailed
          s!"signed content-type is not id-ct-TSTInfo (got {signedContentType.toString})")

/-- The signed digest must be that of the content. -/
def checkMessageDigest (signedAttrs : List Attribute)
    (digestAlg : DigestAlgorithm) (content : Bytes) :
    Except TspError Unit := do
  match ← findAttribute signedAttrs idMessageDigestAttr with
  | none =>
      .error
        (.verificationFailed "signedAttrs missing message-digest attribute")
  | some messageDigestAttr =>
      let signedDigest ←
        (crates.octetStringFromAny messageDigestAttr).mapError fun e =>
          .verificationFailed
            s!"message-digest attribute is not an OCTET STRING: {e}"
      let computedDigest ←
        (crates.digest digestAlg.hashAlgorithm content).mapError .crypto
      rejectIf (signedDigest ≠ computedDigest)
        (.verificationFailed
          "message-digest signed attribute does not match the TSTInfo content")

/-- The digest that a combined signature algorithm names. -/
def combinedOidDigest (oid : ObjectIdentifier) : Option DigestAlgorithm :=
  [DigestAlgorithm.sha256, .sha384, .sha512].find? fun digestAlg =>
    rsaWithDigest digestAlg == some oid ||
      ecdsaWithDigest digestAlg == some oid

/-- A combined algorithm must agree with the signer's digest. -/
def rejectDigestDisagreement (oid : ObjectIdentifier)
    (digestAlg : DigestAlgorithm) : Except TrustError Unit :=
  match combinedOidDigest oid with
  | none => .ok ()
  | some embedded =>
      rejectIf (embedded ≠ digestAlg)
        (.signatureVerification
          s!"signatureAlgorithm hash ({embedded.name}) disagrees with SignerInfo.digestAlgorithm ({digestAlg.name})")

/-- The algorithm to verify with; an algorithm without a digest is completed. -/
def resolveSignatureOid (oid : ObjectIdentifier)
    (digestAlg : DigestAlgorithm) : Except TrustError ObjectIdentifier :=
  if oid = oidRsaEncryption then .ok ((rsaWithDigest digestAlg).getD oid)
  else if oid = oidEcPublicKey then
    .ok ((ecdsaWithDigest digestAlg).getD oid)
  else do
    rejectDigestDisagreement oid digestAlg
    pure oid

/-- Verify an RSASSA-PSS signature, whose digest must be the signer's. -/
def verifyPssSignature (signedAttrsDer signature spkiDer : Bytes)
    (signatureAlgorithm : AlgorithmIdentifier)
    (digestAlg : DigestAlgorithm) : Except TrustError Unit := do
  let pssHash ←
    signatures.verifyRsaPssSignatureStrict signedAttrsDer signature spkiDer
      signatureAlgorithm.parameters
  rejectIf (pssHash ≠ digestAlg)
    (.signatureVerification
      s!"RSASSA-PSS hashAlgorithm ({pssHash.name}) disagrees with SignerInfo.digestAlgorithm ({digestAlg.name})")

/-- Verify the signature over the encoded signed attributes. -/
def verifyCmsSignature (signedAttrsDer signature spkiDer : Bytes)
    (signatureAlgorithm : AlgorithmIdentifier)
    (digestAlg : DigestAlgorithm) : Except TrustError Unit :=
  if signatureAlgorithm.oid = oidRsassaPss then
    verifyPssSignature signatures signedAttrsDer signature spkiDer
      signatureAlgorithm digestAlg
  else do
    let resolved ← resolveSignatureOid signatureAlgorithm.oid digestAlg
    signatures.verifySignatureByOid signedAttrsDer signature spkiDer resolved

/-- The signature over the signed attributes verifies under the signer's key. -/
def checkSignature (signerInfo : SignerInfo) (signedAttrs : List Attribute)
    (signer : Certificate) (digestAlg : DigestAlgorithm) :
    Except TspError Unit := do
  let signedAttrsDer ←
    (crates.attributesToDer signedAttrs).mapError fun e =>
      .verificationFailed s!"failed to re-encode signedAttrs: {e}"
  let spkiDer ←
    (crates.spkiToDer signer.tbsCertificate.subjectPublicKeyInfo).mapError
      fun e => .verificationFailed s!"failed to encode signer SPKI: {e}"
  (verifyCmsSignature signatures signedAttrsDer signerInfo.signature spkiDer
      signerInfo.signatureAlgorithm digestAlg).mapError fun e =>
    .verificationFailed s!"TSA signature verification failed: {e.display}"

end Signed

/-! ## The content -/

section Content

variable (crates : CmsCrates)

/-- Two names are equal; DNS names are compared without case. -/
def sameGeneralName (name candidate : GeneralName) : Bool :=
  match name, candidate with
  | .dnsName a, .dnsName b => toAsciiLowercase a == toAsciiLowercase b
  | _, _ => name == candidate

/-- The alternative names of a signer; a repeated extension is rejected. -/
def signerAltNames (signer : Certificate) :
    Except TspError (List GeneralName) :=
  match signer.extensionsWith sanOid with
  | [] => .ok []
  | [san] =>
      (crates.subjectAltNamesFromDer san.extnValue).mapError fun e =>
        .verificationFailed s!"TSA subjectAltName: {e}"
  | _ :: _ :: _ =>
      .error
        (.verificationFailed "TSA certificate has duplicate subjectAltName")

/-- A TSA name must be the subject of the signer or one of its other names. -/
def checkTsaName (name : GeneralName) (signer : Certificate) :
    Except TspError Unit :=
  if name = .directoryName signer.tbsCertificate.subject then .ok ()
  else do
    let san ← signerAltNames crates signer
    rejectIf (san.any (sameGeneralName name) = false)
      (.verificationFailed
        "TSTInfo tsa does not match signer subject or subjectAltName")

/-- Look for the TSA field among the remaining fields, and check its name. -/
def checkTsaField (signer : Certificate) :
    Nat → Bytes → Except TspError Unit
  | _, [] => .ok ()
  -- never reached from `checkTsaIdentity`: every field shortens the input
  | 0, _ :: _ => .ok ()
  | fuel + 1, tag :: following => do
      let (field, rest) ←
        parseTstField crates (tag :: following) tag "TSTInfo identity"
      if tag = 0xA0 then
        let name ←
          (crates.generalNameFromDer field.value).mapError fun e =>
            .verificationFailed
              s!"TSTInfo tsa name is malformed or unsupported: {e}"
        checkTsaName crates name signer
      else checkTsaField signer fuel rest

/-- An optional TSA name must be one of the signer's. -/
def checkTsaIdentity (tstDer : Bytes) (signer : Certificate) :
    Except TspError Unit := do
  let (sequence, _) ← parseTstField crates tstDer 0x30 "TSTInfo"
  checkTsaField crates signer sequence.value.length sequence.value

/-- `genTime` must fall into the validity of the signer. -/
def checkGenTimeWithinValidity (signer : Certificate) (tstInfo : TstInfo) :
    Except TspError Unit := do
  let (genTime, fractional) ← genTimeParts crates tstInfo
  let validity := signer.tbsCertificate.validity
  let notBefore := validity.notBefore.toDateTime
  let notAfter := validity.notAfter.toDateTime
  rejectIf
    (genTime < notBefore ∨ notAfter < genTime ∨
      fractional = true ∧ genTime = notAfter)
    (.verificationFailed
      s!"timestamp genTime {genTime.display} is outside the TSA certificate validity ({notBefore.display} .. {notAfter.display})")

/-- An expected nonce must be present and equal. -/
def checkNonce (expected : Option UInt64) (actual : Option UInt64) :
    Except TspError Unit :=
  match expected, actual with
  | none, _ => .ok ()
  | some expected, some actual =>
      rejectIf (actual ≠ expected)
        (.invalidResponse
          s!"nonce mismatch: expected {expected.toNat}, got {actual.toNat}")
  | some _, none =>
      .error
        (.invalidResponse "expected nonce in TSTInfo but none present")

/-- The content must be about the expected hash, with an expected nonce. -/
def checkTstInfoMatches (tstInfo : TstInfo) (expectedHash : Bytes)
    (expectedNonce : Option UInt64) (digestAlgorithm : DigestAlgorithm) :
    Except TspError Unit := do
  rejectIf (tstInfo.messageHash ≠ expectedHash)
    (.invalidResponse "TSTInfo messageImprint hash does not match request")
  rejectIf (tstInfo.hashAlgorithm ≠ digestAlgorithm)
    (.invalidResponse
      s!"TSTInfo hash algorithm mismatch: expected {digestAlgorithm.debug}, got {tstInfo.hashAlgorithm.debug}")
  checkNonce expectedNonce tstInfo.nonce

end Content

/-! ## The token -/

/-- A token whose signature has been verified. -/
structure VerifiedToken where
  signer : Certificate
  embedded : List Certificate

section Verification

variable (crates : CmsCrates) (signatures : Signatures)

/-- Verify the signature of a token, and parse what it covers. -/
def verifyTokenCms (tokenDer : Bytes) (extraCerts : List Certificate) :
    Except TspError (VerifiedToken × TstInfo) := do
  let signedData ← parseSignedData crates tokenDer
  let content ← tstInfoDer signedData
  let signerInfo ← singleSignerInfo signedData
  let signedAttrs ← requireSignedAttrs signerInfo
  let embedded := candidateCerts signedData extraCerts
  let signer ← selectSigner crates signerInfo signedAttrs embedded
  let digestAlg ← signerDigest signerInfo
  checkContentType crates signedAttrs
  checkMessageDigest crates signedAttrs digestAlg content
  checkSignature crates signatures signerInfo signedAttrs signer digestAlg
  requireTimestampingEku crates.toCrates signer
  requireNotCa signer
  requireTimestampSigningKeyUsage crates.toCrates signer
  let tstInfo ← parseTstInfoBody crates content
  checkTsaIdentity crates content signer
  checkGenTimeWithinValidity crates signer tstInfo
  pure (⟨signer, embedded⟩, tstInfo)

/-! ### The chain -/

/-- The certificates that could have issued `current` and are not in the chain. -/
def issuerCandidates (embedded chain : List Certificate)
    (current : Certificate) : List Certificate :=
  embedded.filter fun cert =>
    cert.tbsCertificate.subject == current.tbsCertificate.issuer &&
      !chain.any fun existing =>
        existing.tbsCertificate == cert.tbsCertificate

/-- The first candidate whose key verifies `current`, else the first one. -/
def chooseIssuer (policy : SignaturePolicy) (current : Certificate)
    (candidates : List Certificate) : Option Certificate :=
  (candidates.find? fun cert =>
      (signatures.verifyCertificateSignatureWithPolicy current cert
        policy).isOk).or candidates.head?

/-- Append at most `steps` issuers to a chain that ends in `current`. -/
def extendChain (policy : SignaturePolicy) (embedded : List Certificate) :
    Nat → List Certificate → Certificate → List Certificate
  | 0, chain, _ => chain
  | steps + 1, chain, current =>
      if current.tbsCertificate.issuer = current.tbsCertificate.subject then
        chain
      else
        match
          chooseIssuer signatures policy current
            (issuerCandidates embedded chain current)
        with
        | none => chain
        | some next => extendChain policy embedded steps (chain ++ [next]) next

/-- Order the certificates of a token into a chain from its signer. -/
def orderChain (signer : Certificate) (embedded : List Certificate)
    (policy : SignaturePolicy) : List Certificate :=
  extendChain signatures policy embedded 16 [signer] signer

/-- The time of chain validation: the given one, else `genTime`. -/
def effectiveTime (validationTime : Option Der.DateTime)
    (tstInfo : TstInfo) : Except TspError Der.DateTime :=
  match validationTime with
  | some time => .ok time
  | none => genTimeDatetime crates tstInfo

/-- Only a `genTime` can carry a fraction of a second. -/
def effectiveFraction (validationTime : Option Der.DateTime)
    (tstInfo : TstInfo) : Except TspError Bool :=
  match validationTime with
  | some _ => .ok false
  | none => do
      let (_, fractional) ← genTimeParts crates tstInfo
      pure fractional

/-- The chain of a signer must reach an anchor of the store. -/
def checkSignerChain (store : TrustStore) (verified : VerifiedToken)
    (tstInfo : TstInfo) (validationTime : Option Der.DateTime) :
    Except TspError Unit := do
  let chain :=
    orderChain signatures verified.signer verified.embedded
      store.signaturePolicy
  let time ← effectiveTime crates validationTime tstInfo
  let positiveFraction ← effectiveFraction crates validationTime tstInfo
  let _ ←
    (store.verifyTimestampChain crates.toCrates signatures chain time
        positiveFraction).mapError fun e =>
      TspError.verificationFailed
        s!"TSA certificate chain validation failed: {e.display}"

/-- Verify a timestamp token, and its signer's chain when a store is given. -/
def verifyTimestampToken (tokenDer expectedHash : Bytes)
    (digestAlgorithm : DigestAlgorithm) (expectedNonce : Option UInt64)
    (trustStore : Option TrustStore)
    (validationTime : Option Der.DateTime)
    (extraCerts : List Certificate) : Except TspError TstInfo := do
  let (verified, tstInfo) ←
    verifyTokenCms crates signatures tokenDer extraCerts
  checkTstInfoMatches tstInfo expectedHash expectedNonce digestAlgorithm
  match trustStore with
  | none => pure tstInfo
  | some store =>
      checkSignerChain crates signatures store verified tstInfo validationTime
      pure tstInfo

end Verification

end RitspLtv.Tsp.Token
