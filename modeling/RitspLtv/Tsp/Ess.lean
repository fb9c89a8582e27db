import RitspLtv.Tsp.Info

/-!
# ESS certificate bindings

The signed attributes of a token name the certificate that signed it by its
digest.  An attribute is found only when it is unique and has one value; a
binding that also restricts the certificate path is rejected.
-/

namespace RitspLtv.Tsp.Ess

open RitspLtv.Foundation.Checks
open RitspLtv.RustStd
open RitspLtv.Tsp.Cms
open RitspLtv.Tsp.Info

/-- `id-aa-signingCertificate`. -/
def idSigningCertificate : ObjectIdentifier :=
  .newUnwrap [1, 2, 840, 113549, 1, 9, 16, 2, 12]

/-- `id-aa-signingCertificateV2`. -/
def idSigningCertificateV2 : ObjectIdentifier :=
  .newUnwrap [1, 2, 840, 113549, 1, 9, 16, 2, 47]

/-- `id-sha1`. -/
def idSha1 : ObjectIdentifier := .newUnwrap [1, 3, 14, 3, 2, 26]

/-! ## Attributes -/

/-- The value of the attribute with an identifier; repetitions are rejected. -/
def findAttribute (attrs : List Attribute) (oid : ObjectIdentifier) :
    Except TspError (Option Any) :=
  match attrs.filter fun attr => attr.oid == oid with
  | [] => .ok none
  | _ :: _ :: _ =>
      .error
        (.verificationFailed s!"duplicate signed attribute {oid.toString}")
  | [attr] =>
      match attr.values with
      | [value] => .ok (some value)
      | values =>
          .error
            (.verificationFailed
              s!"signed attribute {oid.toString} must have exactly one value (has {values.length})")

/-! ## Bindings -/

/-- The identity of one certificate. -/
structure EssBinding where
  digest : HashAlgorithm
  hash : Bytes
  issuerSerial : Option (Name × Bytes)
  deriving DecidableEq

section Parsing

variable (crates : CmsCrates)

/-- Whether a binding names a certificate. -/
def EssBinding.matches (binding : EssBinding) (cert : Certificate) :
    Except TspError Bool :=
  if ∃ issuerSerial ∈ binding.issuerSerial,
      issuerSerial.1 ≠ cert.tbsCertificate.issuer ∨
        issuerSerial.2 ≠ cert.tbsCertificate.serialNumber
  then .ok false
  else do
    let der ←
      (crates.certificateToDer cert).mapError fun e =>
        .verificationFailed s!"ESS certificate encoding: {e}"
    let hash ← (crates.digest binding.digest der).mapError .crypto
    pure (hash == binding.hash)

/-- The output size of a digest. -/
def expectedLen : HashAlgorithm → Nat
  | .sha1 => 20
  | .sha256 | .sha3_256 => 32
  | .sha384 | .sha3_384 => 48
  | .sha512 | .sha3_512 => 64

/-- The digest an ESS algorithm identifier names; SHA-1 is allowed here. -/
def essDigest (oid : ObjectIdentifier) : Except TspError HashAlgorithm :=
  if oid = idSha1 then .ok .sha1
  else do
    let algorithm ← oidToDigestAlgorithm oid
    pure algorithm.hashAlgorithm

/-- The digest of a binding and what follows; only version 2 can name one. -/
def parseEssDigest (pos : Bytes) (v2 : Bool) :
    Except TspError (HashAlgorithm × Bytes) :=
  if v2 = true ∧ pos.head? = some 0x30 then do
    let (alg, rest) ← parseTstField crates pos 0x30 "ESS hashAlgorithm"
    let alg ←
      (crates.algorithmIdentifierFromAny alg).mapError fun e =>
        .invalidResponse s!"ESS hashAlgorithm: {e}"
    rejectIf (∃ params ∈ alg.parameters, params ≠ anyNull)
      (.invalidResponse "ESS hash parameters must be absent or NULL")
    let digest ← essDigest alg.oid
    pure (digest, rest)
  else .ok (if v2 then .sha256 else .sha1, pos)

/-- The only name of an issuer, which must be a directory name. -/
def essIssuer (names : List GeneralName) : Except TspError Name :=
  match names with
  | [.directoryName name] => .ok name
  | _ =>
      .error
        (.invalidResponse "ESS issuer must be exactly one directoryName")

/-- The issuer and serial number of a binding, if it has them. -/
def parseEssIssuerSerial (rest : Bytes) :
    Except TspError (Option (Name × Bytes)) :=
  if rest = [] then .ok none
  else do
    let (issuerSerial, trailing) ←
      parseTstField crates rest 0x30 "ESS issuerSerial"
    rejectIf (trailing ≠ [])
      (.invalidResponse "ESS certificate ID trailing fields")
    let (names, rest) ←
      parseTstField crates issuerSerial.value 0x30 "ESS issuer names"
    let names ←
      (crates.generalNamesFromAny names).mapError fun e =>
        .invalidResponse s!"ESS issuer names: {e}"
    let issuer ← essIssuer names
    let (serial, trailing) ←
      parseTstField crates rest 0x02 "ESS serialNumber"
    rejectIf (trailing ≠ [])
      (.invalidResponse "ESS issuerSerial trailing fields")
    let serial ←
      (crates.serialNumberFromAny serial).mapError fun e =>
        .invalidResponse s!"ESS serialNumber: {e}"
    pure (some (issuer, serial))

/-- Parse the value of a signing-certificate attribute. -/
def parseEssBinding (value : Any) (v2 : Bool) :
    Except TspError EssBinding := do
  let encoded ←
    (crates.anyToDer value).mapError fun e => .invalidResponse s!"ESS: {e}"
  let (attr, trailing) ←
    parseTstField crates encoded 0x30 "ESS signing certificate"
  rejectIf (trailing ≠ []) (.invalidResponse "ESS trailing data")
  let (certs, policies) ← parseTstField crates attr.value 0x30 "ESS certs"
  rejectIf (policies ≠ [])
    (.verificationFailed
      "ESS certificate policy restrictions are unsupported")
  let (id, more) ←
    parseTstField crates certs.value 0x30 "ESS certificate ID"
  rejectIf (more ≠ [])
    (.verificationFailed
      "ESS multiple certificate restrictions are unsupported")
  let (digest, pos) ← parseEssDigest crates id.value v2
  let (hash, rest) ← parseTstField crates pos 0x04 "ESS certHash"
  rejectIf (hash.value.length ≠ expectedLen digest)
    (.invalidResponse "ESS certHash has incorrect length")
  let issuerSerial ← parseEssIssuerSerial crates rest
  pure ⟨digest, hash.value, issuerSerial⟩

/-- The identifiers of a signing-certificate attribute, with their version. -/
def essVersions : List (ObjectIdentifier × Bool) :=
  [(idSigningCertificate, false), (idSigningCertificateV2, true)]

/-- The bindings in attributes of the given versions. -/
def bindingsOf (attrs : List Attribute) :
    List (ObjectIdentifier × Bool) → Except TspError (List EssBinding)
  | [] => .ok []
  | (oid, v2) :: versions => do
      match ← findAttribute attrs oid with
      | none => bindingsOf attrs versions
      | some value =>
          let binding ← parseEssBinding crates value v2
          let bindings ← bindingsOf attrs versions
          pure (binding :: bindings)

/-- The bindings of a signer; there is at least one. -/
def signingCertificateBindings (attrs : List Attribute) :
    Except TspError (List EssBinding) := do
  let bindings ← bindingsOf crates attrs essVersions
  rejectIf (bindings = [])
    (.verificationFailed
      "timestamp signedAttrs lacks ESS SigningCertificate/SigningCertificateV2")
  pure bindings

end Parsing

end RitspLtv.Tsp.Ess
