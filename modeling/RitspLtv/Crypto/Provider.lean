import RitspLtv.Crypto.Verify
import RitspLtv.Foundation.Checks

/-!
# Signature verification over a provider

Verification down to the provider that does the arithmetic: which key algorithm,
which signature algorithm and which salt length the provider is asked for.  An
algorithm identifier comes down to at most one such check, and the signature is
accepted exactly when the provider passes it; RSASSA-PSS without parameters is
the exception, for which several digests are tried.
-/

namespace RitspLtv.Crypto.Provider

open RitspLtv.Foundation.Checks
open RitspLtv.RustStd
open RitspLtv.Crypto.Algorithm
open RitspLtv.Crypto.Verify

/-! ## The provider -/

/-- The digests that signatures are made with. -/
inductive SignatureHash where
  | md5
  | sha1
  | sha224
  | sha256
  | sha384
  | sha512
  deriving DecidableEq, Repr

inductive EcCurve where
  | p256
  | p384
  | p521
  deriving DecidableEq, Repr

inductive KeyAlgorithm where
  | rsa
  | dsa
  | ec (curve : EcCurve)
  | ed25519
  deriving DecidableEq, Repr

inductive SignatureAlgorithm where
  | rsaPkcs1v15 (hash : SignatureHash)
  | rsaPss (hash : SignatureHash)
  | dsa (hash : SignatureHash)
  | ecdsa (curve : EcCurve) (hash : SignatureHash)
  | ed25519
  deriving DecidableEq, Repr

/-- The digest an algorithm is used with; Ed25519 has none of its own. -/
def SignatureAlgorithm.hash : SignatureAlgorithm → Option SignatureHash
  | .rsaPkcs1v15 hash => some hash
  | .rsaPss hash => some hash
  | .dsa hash => some hash
  | .ecdsa _ hash => some hash
  | .ed25519 => none

/-- An error of the provider, with its `Display` form. -/
inductive BackendError where
  | unsupportedAlgorithm (message : String)
  | other (message : String)

/-- The provider, as oracles. -/
structure Backend (Key Verifier : Type) where
  /-- `SoftwareKey::from_spki_der`. -/
  fromSpkiDer : KeyAlgorithm → Bytes → Except BackendError Key
  /-- `SoftwareVerifier::new_rsa_pss_with_salt`. -/
  newRsaPssWithSalt : SignatureHash → Nat → Key → Except BackendError Verifier
  /-- `SoftwareVerifier::new`. -/
  new : SignatureAlgorithm → Key → Except BackendError Verifier
  /-- `SoftwareVerifier::verify_der_signature`. -/
  verifyDerSignature : Verifier → Bytes → Bytes → Except BackendError Bool
  /-- The `Debug` form of a signature algorithm. -/
  debugAlgorithm : SignatureAlgorithm → String

/-- The four fields of `RSASSA-PSS-params`, each of which may be absent. -/
structure RsaPssFields where
  hash : Option AlgorithmIdentifier
  maskGen : Option (ObjectIdentifier × Option AlgorithmIdentifier)
  saltLen : Option UInt64
  trailerField : Option UInt64

/-- The decoders and encoders that verification uses. -/
structure VerifyCrates extends Crates where
  /-- `SubjectPublicKeyInfoRef::from_der`. -/
  spkiFromDer : Bytes → Except String SubjectPublicKeyInfo
  /-- `AnyRef::decode_as::<ObjectIdentifier>`. -/
  namedCurveFromAny : Any → Except String ObjectIdentifier
  /-- `Any::to_der`. -/
  anyToDer : Any → Except String Bytes
  /-- The optional fields of a parameter sequence. -/
  rsaPssFieldsFromDer : Bytes → Except String RsaPssFields
  /-- `TbsCertificate::to_der`. -/
  tbsToDer : TbsCertificate → Except String Bytes
  /-- The `Debug` form of optional parameters. -/
  debugParameters : Option Any → String

/-! ## Identifiers -/

/-- `id-mgf1`. -/
def oidMgf1 : ObjectIdentifier := .newUnwrap [1, 2, 840, 113549, 1, 1, 8]

/-- `id-ecPublicKey`. -/
def oidEcPublicKey : ObjectIdentifier := .newUnwrap [1, 2, 840, 10045, 2, 1]

/-- `secp256r1`. -/
def oidCurveP256 : ObjectIdentifier := .newUnwrap [1, 2, 840, 10045, 3, 1, 7]

/-- `secp384r1`. -/
def oidCurveP384 : ObjectIdentifier := .newUnwrap [1, 3, 132, 0, 34]

/-- `secp521r1`. -/
def oidCurveP521 : ObjectIdentifier := .newUnwrap [1, 3, 132, 0, 35]

/-- `id-sha1`. -/
def oidSha1 : ObjectIdentifier := .newUnwrap [1, 3, 14, 3, 2, 26]

def oidRsassaPss : ObjectIdentifier :=
  .newUnwrap [1, 2, 840, 113549, 1, 1, 10]

def oidEd25519 : ObjectIdentifier := .newUnwrap [1, 3, 101, 112]

def oidMd5WithRsa : ObjectIdentifier :=
  .newUnwrap [1, 2, 840, 113549, 1, 1, 4]

def oidSha1WithRsa : ObjectIdentifier :=
  .newUnwrap [1, 2, 840, 113549, 1, 1, 5]

def oidSha224WithRsa : ObjectIdentifier :=
  .newUnwrap [1, 2, 840, 113549, 1, 1, 14]

def oidEcdsaWithSha1 : ObjectIdentifier := .newUnwrap [1, 2, 840, 10045, 4, 1]

def oidDsaWithSha1 : ObjectIdentifier := .newUnwrap [1, 2, 840, 10040, 4, 3]

def oidDsaWithSha256 : ObjectIdentifier :=
  .newUnwrap [2, 16, 840, 1, 101, 3, 4, 3, 2]

/-- Signatures over a broken or deprecated digest. -/
def isWeakSignatureOid (oid : ObjectIdentifier) : Bool :=
  oid == oidMd5WithRsa || oid == oidSha1WithRsa || oid == oidSha224WithRsa ||
    oid == oidEcdsaWithSha1 || oid == oidDsaWithSha1

/-- The digest that an ECDSA identifier declares. -/
inductive EcdsaHash where
  | sha1
  | sha256
  | sha384
  | sha512
  deriving DecidableEq, Repr

/-- The `Debug` form. -/
def EcdsaHash.debug : EcdsaHash → String
  | .sha1 => "Sha1"
  | .sha256 => "Sha256"
  | .sha384 => "Sha384"
  | .sha512 => "Sha512"

/-- The `Debug` form. -/
def EcCurve.debug : EcCurve → String
  | .p256 => "P256"
  | .p384 => "P384"
  | .p521 => "P521"

/-- What a signature algorithm identifier stands for. -/
inductive Scheme where
  | rsaPkcs1v15 (hash : SignatureHash)
  | rsaPss
  | ecdsa (hash : EcdsaHash)
  | dsa (hash : SignatureHash)
  | ed25519
  deriving DecidableEq, Repr

/-- The identifiers, in the order in which they are compared. -/
def schemes : List (ObjectIdentifier × Scheme) :=
  [(oidMd5WithRsa, .rsaPkcs1v15 .md5),
    (oidSha1WithRsa, .rsaPkcs1v15 .sha1),
    (oidSha224WithRsa, .rsaPkcs1v15 .sha224),
    (.newUnwrap [1, 2, 840, 113549, 1, 1, 11], .rsaPkcs1v15 .sha256),
    (.newUnwrap [1, 2, 840, 113549, 1, 1, 12], .rsaPkcs1v15 .sha384),
    (.newUnwrap [1, 2, 840, 113549, 1, 1, 13], .rsaPkcs1v15 .sha512),
    (oidRsassaPss, .rsaPss),
    (oidEcdsaWithSha1, .ecdsa .sha1),
    (oidDsaWithSha1, .dsa .sha1),
    (oidDsaWithSha256, .dsa .sha256),
    (.newUnwrap [1, 2, 840, 10045, 4, 3, 2], .ecdsa .sha256),
    (.newUnwrap [1, 2, 840, 10045, 4, 3, 3], .ecdsa .sha384),
    (.newUnwrap [1, 2, 840, 10045, 4, 3, 4], .ecdsa .sha512),
    (oidEd25519, .ed25519)]

def schemeOfOid (oid : ObjectIdentifier) : Option Scheme :=
  schemes.lookup oid

/-! ## Verification -/

def mapBackendError : BackendError → TrustError
  | .unsupportedAlgorithm message => .unsupportedAlgorithm message
  | .other message => .signatureVerification message

/-- What the provider is asked for. -/
structure Check where
  keyAlgorithm : KeyAlgorithm
  signatureAlgorithm : SignatureAlgorithm
  rsaPssSaltLen : Option Nat
  deriving DecidableEq, Repr

section Verification

variable {Key Verifier : Type}
-- Whether the feature `legacy-algorithms` is enabled.
variable (legacyAlgorithms : Bool)
variable (crates : VerifyCrates) (backend : Backend Key Verifier)

/-- The verifier of a check; a salt length is used for RSASSA-PSS only. -/
def Backend.verifier (check : Check) (key : Key) :
    Except BackendError Verifier :=
  match check.signatureAlgorithm, check.rsaPssSaltLen with
  | .rsaPss hash, some saltLen => backend.newRsaPssWithSalt hash saltLen key
  | signatureAlgorithm, _ => backend.new signatureAlgorithm key

def verifyWithBackend (tbs signature spkiDer : Bytes) (check : Check) :
    Except TrustError Unit := do
  let key ←
    (backend.fromSpkiDer check.keyAlgorithm spkiDer).mapError mapBackendError
  let verifier ← (backend.verifier check key).mapError mapBackendError
  let valid ←
    (backend.verifyDerSignature verifier tbs signature).mapError
      mapBackendError
  rejectIf (valid = false)
    (.signatureVerification
      s!"{backend.debugAlgorithm check.signatureAlgorithm} signature is invalid")

/-- The curve of a public key, from its named-curve parameter. -/
def ecNamedCurve (spki : SubjectPublicKeyInfo) : Except TrustError EcCurve := do
  rejectIf (spki.algorithm.oid ≠ oidEcPublicKey)
    (.signatureVerification
      s!"ECDSA signature but SPKI algorithm is not id-ecPublicKey (got {spki.algorithm.oid.toString})")
  let params ←
    match spki.algorithm.parameters with
    | none =>
        .error
          (.signatureVerification
            "EC SPKI is missing its namedCurve parameter")
    | some params => .ok params
  let curveOid ←
    (crates.namedCurveFromAny params).mapError fun e =>
      .signatureVerification s!"EC namedCurve parameter is not an OID: {e}"
  if curveOid = oidCurveP256 then pure .p256
  else if curveOid = oidCurveP384 then pure .p384
  else if curveOid = oidCurveP521 then pure .p521
  else
    .error
      (.signatureVerification
        s!"unsupported EC named curve OID: {curveOid.toString}")

/-- The pairings of a curve with a declared digest that are accepted. -/
def ecdsaPairing : EcCurve → EcdsaHash → Option SignatureHash
  | .p256, .sha256 => some .sha256
  | .p384, .sha384 => some .sha384
  | .p521, .sha512 => some .sha512
  | .p521, .sha256 => some .sha256
  | .p521, .sha384 => some .sha384
  | .p256, .sha1 => some .sha1
  | .p384, .sha1 => some .sha1
  | _, _ => none

/-- The check that an ECDSA identifier and a public key stand for. -/
def ecdsaCheck (spkiDer : Bytes) (hash : EcdsaHash) :
    Except TrustError Check := do
  let spki ←
    (crates.spkiFromDer spkiDer).mapError fun e =>
      .signatureVerification s!"SPKI decode failed: {e}"
  let curve ← ecNamedCurve crates spki
  match ecdsaPairing curve hash with
  | some hash => pure ⟨.ec curve, .ecdsa curve hash, none⟩
  | none =>
      .error
        (.signatureVerification
          s!"ECDSA curve {curve.debug} is not a supported pairing with the declared {hash.debug} hash")

def verifyEcdsaBound (tbs signature spkiDer : Bytes) (hash : EcdsaHash) :
    Except TrustError Unit := do
  let check ← ecdsaCheck crates spkiDer hash
  verifyWithBackend backend tbs signature spkiDer check

def verifyLegacyMd5Rsa (tbs signature spkiDer : Bytes) :
    Except TrustError Unit :=
  if legacyAlgorithms then
    verifyWithBackend backend tbs signature spkiDer
      ⟨.rsa, .rsaPkcs1v15 .md5, none⟩
  else
    .error (.unsupportedAlgorithm "MD5 with RSA requires legacy-algorithms")

def verifyDsa (tbs signature spkiDer : Bytes) (hash : SignatureHash) :
    Except TrustError Unit :=
  if legacyAlgorithms then
    verifyWithBackend backend tbs signature spkiDer ⟨.dsa, .dsa hash, none⟩
  else
    .error (.unsupportedAlgorithm "DSA verification requires legacy-algorithms")

/-- RSASSA-PSS of which only the identifier is known. -/
def verifyAnyRsaPss (tbs signature spkiDer : Bytes) :
    Except TrustError Unit :=
  let verified :=
    [SignatureHash.sha256, .sha384, .sha512].findSome? fun hash =>
      (verifyWithBackend backend tbs signature spkiDer
        ⟨.rsa, .rsaPss hash, none⟩).toOption
  match verified with
  | some () => .ok ()
  | none =>
      .error
        (.signatureVerification
          "RSA-PSS signature is invalid for every supported digest")

def verifyScheme (tbs signature spkiDer : Bytes) :
    Scheme → Except TrustError Unit
  | .rsaPkcs1v15 .md5 =>
      verifyLegacyMd5Rsa legacyAlgorithms backend tbs signature spkiDer
  | .rsaPkcs1v15 hash =>
      verifyWithBackend backend tbs signature spkiDer
        ⟨.rsa, .rsaPkcs1v15 hash, none⟩
  | .rsaPss => verifyAnyRsaPss backend tbs signature spkiDer
  | .ecdsa hash => verifyEcdsaBound crates backend tbs signature spkiDer hash
  | .dsa hash => verifyDsa legacyAlgorithms backend tbs signature spkiDer hash
  | .ed25519 =>
      verifyWithBackend backend tbs signature spkiDer
        ⟨.ed25519, .ed25519, none⟩

def verifySignatureByOidWithPolicy
    (tbsBytes signatureBytes spkiDer : Bytes) (sigAlgOid : ObjectIdentifier)
    (policy : SignaturePolicy) : Except TrustError Unit := do
  rejectIf
    (policy.allowLegacy = false ∧ isWeakSignatureOid sigAlgOid = true)
    (.weakAlgorithm
      s!"signature algorithm OID {sigAlgOid.toString} relies on a weak digest (MD5/SHA-1/SHA-224); pass SignaturePolicy::allow_legacy() to accept it")
  match schemeOfOid sigAlgOid with
  | some scheme =>
      verifyScheme legacyAlgorithms crates backend tbsBytes signatureBytes
        spkiDer scheme
  | none =>
      .error
        (.unsupportedAlgorithm
          s!"signature algorithm OID: {sigAlgOid.toString}")

def verifySignatureByOid
    (tbsBytes signatureBytes spkiDer : Bytes)
    (sigAlgOid : ObjectIdentifier) : Except TrustError Unit :=
  verifySignatureByOidWithPolicy legacyAlgorithms crates backend tbsBytes
    signatureBytes spkiDer sigAlgOid .strict

/-- `RSASSA-PSS-params`, with the defaults of absent fields. -/
structure RsaPssParams where
  hash : AlgorithmIdentifier
  maskGen : ObjectIdentifier × Option AlgorithmIdentifier
  saltLen : UInt64
  trailerField : UInt64

def RsaPssFields.withDefaults (fields : RsaPssFields) : RsaPssParams :=
  let defaultHash : AlgorithmIdentifier := ⟨oidSha1, some ⟨0x05, []⟩⟩
  { hash := fields.hash.getD defaultHash
    maskGen := fields.maskGen.getD (oidMgf1, some defaultHash)
    saltLen := fields.saltLen.getD 20
    trailerField := fields.trailerField.getD 1 }

/-- Decode the parameters of an RSASSA-PSS identifier. -/
def decodeRsaPssParams (parameters : Option Any) :
    Except TrustError RsaPssParams := do
  let paramsAny ←
    match parameters with
    | none =>
        .error
          (.unsupportedAlgorithm
            "RSASSA-PSS signatureAlgorithm is missing its required parameters")
    | some paramsAny => .ok paramsAny
  let paramsDer ←
    (crates.anyToDer paramsAny).mapError fun e =>
      .signatureVerification
        s!"failed to re-encode RSASSA-PSS parameters: {e}"
  let fields ←
    (crates.rsaPssFieldsFromDer paramsDer).mapError fun e =>
      .signatureVerification s!"failed to decode RSASSA-PSS parameters: {e}"
  pure fields.withDefaults

/-- The digest of the parameters, as the provider has it. -/
def pssBackendHash : DigestAlgorithm → Except TrustError SignatureHash
  | .sha256 => .ok .sha256
  | .sha384 => .ok .sha384
  | .sha512 => .ok .sha512
  | other =>
      .error (.unsupportedAlgorithm s!"RSASSA-PSS with digest {other.debug}")

/-- The check that parameters stand for, and the digest they select. -/
def rsaPssCheck (parameters : Option Any) :
    Except TrustError (DigestAlgorithm × Check) := do
  let params ← decodeRsaPssParams crates parameters
  let hash ←
    match DigestAlgorithm.fromOid params.hash.oid with
    | none =>
        .error
          (.unsupportedAlgorithm
            s!"unsupported RSASSA-PSS hashAlgorithm OID: {params.hash.oid.toString}")
    | some hash => .ok hash
  rejectIf (params.maskGen.1 ≠ oidMgf1)
    (.unsupportedAlgorithm
      s!"unsupported RSASSA-PSS maskGenAlgorithm OID: {params.maskGen.1.toString}")
  let mgf1HashOid := params.maskGen.2.map AlgorithmIdentifier.oid
  let mgf1HashText := (mgf1HashOid.map ObjectIdentifier.toString).getD "absent"
  rejectIf (mgf1HashOid ≠ some params.hash.oid)
    (.unsupportedAlgorithm
      s!"RSASSA-PSS MGF1 hash ({mgf1HashText}) differs from the message hash ({params.hash.oid.toString}); not supported")
  rejectIf (params.trailerField ≠ 1)
    (.unsupportedAlgorithm
      s!"unsupported RSASSA-PSS trailerField: {params.trailerField}")
  let backendHash ← pssBackendHash hash
  pure (hash, ⟨.rsa, .rsaPss backendHash, some params.saltLen.toNat⟩)

def verifyRsaPssSignatureStrict (tbs signature spkiDer : Bytes)
    (parameters : Option Any) : Except TrustError DigestAlgorithm := do
  let (hash, check) ← rsaPssCheck crates parameters
  verifyWithBackend backend tbs signature spkiDer check
  pure hash

def verifySignatureByAlgidWithPolicy
    (tbsBytes signatureBytes spkiDer : Bytes) (sigAlg : AlgorithmIdentifier)
    (policy : SignaturePolicy) : Except TrustError Unit :=
  if sigAlg.oid = oidRsassaPss then
    (verifyRsaPssSignatureStrict crates backend tbsBytes signatureBytes
      spkiDer sigAlg.parameters).map fun _ => ()
  else
    verifySignatureByOidWithPolicy legacyAlgorithms crates backend tbsBytes
      signatureBytes spkiDer sigAlg.oid policy

/-- Verify a certificate against its issuer's public key. -/
def verifyCertificateSignatureWithPolicy (cert issuer : Certificate)
    (policy : SignaturePolicy) : Except TrustError Unit := do
  let outer := cert.signatureAlgorithm
  let inner := cert.tbsCertificate.signature
  rejectIf (outer ≠ inner)
    (.signatureVerification
      s!"certificate outer signatureAlgorithm (oid={outer.oid.toString}, params={crates.debugParameters outer.parameters}) does not match the signed tbsCertificate.signature (oid={inner.oid.toString}, params={crates.debugParameters inner.parameters})")
  let tbsBytes ←
    (crates.tbsToDer cert.tbsCertificate).mapError fun e =>
      .signatureVerification s!"TBS encoding failed: {e}"
  let spkiDer ←
    (crates.spkiToDer issuer.tbsCertificate.subjectPublicKeyInfo).mapError
      fun e => .signatureVerification s!"SPKI encoding failed: {e}"
  verifySignatureByAlgidWithPolicy legacyAlgorithms crates backend tbsBytes
    cert.signature.rawBytes spkiDer outer policy

/-- The verification entry points over a provider. -/
def signatures : Signatures where
  verifyCertificateSignatureWithPolicy :=
    verifyCertificateSignatureWithPolicy legacyAlgorithms crates backend
  verifySignatureByAlgidWithPolicy :=
    verifySignatureByAlgidWithPolicy legacyAlgorithms crates backend
  verifySignatureByOid := verifySignatureByOid legacyAlgorithms crates backend
  verifyRsaPssSignatureStrict := verifyRsaPssSignatureStrict crates backend

end Verification

/-! ## The check behind an identifier -/

theorem mem_schemes_of_schemeOfOid
    {oid : ObjectIdentifier} {scheme : Scheme}
    (found : schemeOfOid oid = some scheme) :
    (oid, scheme) ∈ schemes := by
  rcases List.lookup_eq_some_iff.mp found with ⟨before, after, split, -⟩
  rw [split]
  exact List.mem_append_right before List.mem_cons_self

section Passes

variable {Key Verifier : Type}
variable {legacyAlgorithms : Bool}
variable {crates : VerifyCrates} {backend : Backend Key Verifier}
variable {tbs signature spkiDer : Bytes}

/-- The provider has a key and a verifier for the check, and is satisfied. -/
def Backend.Passes (backend : Backend Key Verifier) (check : Check)
    (tbs signature spkiDer : Bytes) : Prop :=
  ∃ key verifier,
    backend.fromSpkiDer check.keyAlgorithm spkiDer = .ok key ∧
    backend.verifier check key = .ok verifier ∧
    backend.verifyDerSignature verifier tbs signature = .ok true

theorem verifyWithBackend_eq_ok_iff {check : Check} :
    verifyWithBackend backend tbs signature spkiDer check = .ok () ↔
      backend.Passes check tbs signature spkiDer := by
  simp [verifyWithBackend, Backend.Passes]

/-- A provider that is satisfied with everything. -/
def acceptAll : Backend Unit Unit where
  fromSpkiDer _ _ := .ok ()
  newRsaPssWithSalt _ _ _ := .ok ()
  new _ _ := .ok ()
  verifyDerSignature _ _ _ := .ok true
  debugAlgorithm _ := ""

theorem acceptAll_passes (check : Check) (tbs signature : Bytes) :
    acceptAll.Passes check tbs signature spkiDer := by
  refine ⟨(), (), rfl, ?_, rfl⟩
  unfold Backend.verifier
  split <;> rfl

/-- The digest that an ECDSA identifier declares, as the provider has it. -/
def EcdsaHash.signatureHash : EcdsaHash → SignatureHash
  | .sha1 => .sha1
  | .sha256 => .sha256
  | .sha384 => .sha384
  | .sha512 => .sha512

/-- A curve is never paired with another digest than the declared one. -/
theorem signatureHash_of_ecdsaPairing
    {curve : EcCurve} {declared : EcdsaHash} {hash : SignatureHash}
    (paired : ecdsaPairing curve declared = some hash) :
    hash = declared.signatureHash := by
  cases curve <;> cases declared <;>
    simp_all [ecdsaPairing, EcdsaHash.signatureHash]

theorem hash_of_ecdsaCheck
    {declared : EcdsaHash} {check : Check}
    (chosen : ecdsaCheck crates spkiDer declared = .ok check) :
    check.signatureAlgorithm.hash = some declared.signatureHash := by
  simp only [ecdsaCheck, bind_eq_ok, mapError_eq_ok] at chosen
  rcases chosen with ⟨spki, spkiDecoded, curve, curveNamed, chosen⟩
  cases paired : ecdsaPairing curve declared with
  | none => simp [paired] at chosen
  | some hash =>
      simp only [paired, pure_eq_ok] at chosen
      subst chosen
      exact congrArg some (signatureHash_of_ecdsaPairing paired)

/-- The digest a scheme is used with, when the identifier alone decides it. -/
def Scheme.hash : Scheme → Option SignatureHash
  | .rsaPkcs1v15 hash => some hash
  | .rsaPss => none
  | .ecdsa declared => some declared.signatureHash
  | .dsa hash => some hash
  | .ed25519 => none

variable (legacyAlgorithms crates spkiDer) in
/-- The one check that a scheme comes down to, if any. -/
def schemeCheck : Scheme → Option Check
  | .rsaPkcs1v15 .md5 =>
      if legacyAlgorithms then some ⟨.rsa, .rsaPkcs1v15 .md5, none⟩ else none
  | .rsaPkcs1v15 hash => some ⟨.rsa, .rsaPkcs1v15 hash, none⟩
  | .rsaPss => none
  | .ecdsa declared => (ecdsaCheck crates spkiDer declared).toOption
  | .dsa hash =>
      if legacyAlgorithms then some ⟨.dsa, .dsa hash, none⟩ else none
  | .ed25519 => some ⟨.ed25519, .ed25519, none⟩

/-- The check of a scheme uses the digest of the scheme. -/
theorem hash_of_schemeCheck
    {scheme : Scheme} {check : Check}
    (chosen : schemeCheck legacyAlgorithms crates spkiDer scheme = some check) :
    check.signatureAlgorithm.hash = scheme.hash := by
  cases scheme with
  | rsaPkcs1v15 hash =>
      cases hash <;> simp [schemeCheck] at chosen
      case md5 => rw [← chosen.2]; rfl
      all_goals rw [← chosen]; rfl
  | rsaPss => simp [schemeCheck] at chosen
  | ecdsa declared =>
      rw [schemeCheck, toOption_eq_some_iff] at chosen
      exact hash_of_ecdsaCheck chosen
  | dsa hash =>
      simp [schemeCheck] at chosen
      rw [← chosen.2]
      rfl
  | ed25519 =>
      simp [schemeCheck] at chosen
      rw [← chosen]
      rfl

/-- Except for RSASSA-PSS, a scheme accepts exactly when its check passes. -/
theorem verifyScheme_eq_ok_iff
    {scheme : Scheme} (notPss : scheme ≠ .rsaPss) :
    verifyScheme legacyAlgorithms crates backend tbs signature spkiDer scheme =
        .ok () ↔
      ∃ check,
        schemeCheck legacyAlgorithms crates spkiDer scheme = some check ∧
        backend.Passes check tbs signature spkiDer := by
  cases scheme with
  | rsaPkcs1v15 hash =>
      cases hash <;> cases legacyAlgorithms <;>
        simp [verifyScheme, verifyLegacyMd5Rsa, schemeCheck,
          verifyWithBackend_eq_ok_iff]
  | rsaPss => exact absurd rfl notPss
  | ecdsa declared =>
      simp [verifyScheme, verifyEcdsaBound, schemeCheck,
        verifyWithBackend_eq_ok_iff]
  | dsa hash =>
      cases legacyAlgorithms <;>
        simp [verifyScheme, verifyDsa, schemeCheck,
          verifyWithBackend_eq_ok_iff]
  | ed25519 => simp [verifyScheme, schemeCheck, verifyWithBackend_eq_ok_iff]

/-- The parameters, the digest and the check of RSASSA-PSS. -/
theorem params_of_rsaPssCheck
    {parameters : Option Any} {hash : DigestAlgorithm} {check : Check}
    (selected : rsaPssCheck crates parameters = .ok (hash, check)) :
    ∃ params backendHash,
      decodeRsaPssParams crates parameters = .ok params ∧
      DigestAlgorithm.fromOid params.hash.oid = some hash ∧
      pssBackendHash hash = .ok backendHash ∧
      check = ⟨.rsa, .rsaPss backendHash, some params.saltLen.toNat⟩ := by
  unfold rsaPssCheck at selected
  rw [bind_eq_ok] at selected
  rcases selected with ⟨params, decoded, selected⟩
  cases known : DigestAlgorithm.fromOid params.hash.oid with
  | none => simp [known] at selected
  | some digest =>
      simp only [known, ok_bind, bind_eq_ok, exists_unit_eq_ok,
        pure_eq_ok, Prod.mk.injEq] at selected
      rcases selected with ⟨-, -, -, backendHash, supported, rfl, rfl⟩
      exact ⟨params, backendHash, decoded, known, supported, rfl⟩

theorem verifyRsaPssSignatureStrict_eq_ok_iff
    {parameters : Option Any} {hash : DigestAlgorithm} :
    verifyRsaPssSignatureStrict crates backend tbs signature spkiDer
        parameters = .ok hash ↔
      ∃ check, rsaPssCheck crates parameters = .ok (hash, check) ∧
        backend.Passes check tbs signature spkiDer := by
  simp only [verifyRsaPssSignatureStrict, bind_eq_ok, exists_unit_eq_ok,
    verifyWithBackend_eq_ok_iff, pure_eq_ok, Prod.exists]
  constructor
  · rintro ⟨chosen, check, selected, passes, rfl⟩
    exact ⟨check, selected, passes⟩
  · rintro ⟨check, selected, passes⟩
    exact ⟨hash, check, selected, passes, rfl⟩

end Passes

end RitspLtv.Crypto.Provider
