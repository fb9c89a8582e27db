import RitspLtv.Tsp.SignerProfile

/-!
# X.509 extension parsing and role validation

Readers for the basic constraints, key usage and extended key usage of a
certificate, and the profile each certificate role must satisfy.
-/

namespace RitspLtv.Ltv.X509Ext

open RitspLtv.Foundation.Checks
open RitspLtv.Foundation.Consume
open RitspLtv.RustStd
open RitspLtv.DerUtils
open RitspLtv.Tsp.SignerProfile

/-! ## Identifiers -/

def basicConstraintsOid : ObjectIdentifier := .newUnwrap [2, 5, 29, 19]

def keyUsageOid : ObjectIdentifier := .newUnwrap [2, 5, 29, 15]

def ekuOid : ObjectIdentifier := .newUnwrap [2, 5, 29, 37]

/-- `id-kp-OCSPSigning`. -/
def ocspSigningEkuOid : ObjectIdentifier :=
  .newUnwrap [1, 3, 6, 1, 5, 5, 7, 3, 9]

/-- `id-kp-timeStamping`. -/
def timestampingEkuOid : ObjectIdentifier :=
  .newUnwrap [1, 3, 6, 1, 5, 5, 7, 3, 8]

/-! ## Key usage and roles -/

/-- The bits of a key-usage extension. -/
structure KeyUsageBits where
  digitalSignature : Bool
  contentCommitment : Bool
  keyEncipherment : Bool
  dataEncipherment : Bool
  keyAgreement : Bool
  keyCertSign : Bool
  crlSign : Bool
  encipherOnly : Bool
  decipherOnly : Bool
  deriving DecidableEq, Repr

/-- The names of the asserted bits. -/
def KeyUsageBits.display (bits : KeyUsageBits) : String :=
  let names :=
    [(bits.digitalSignature, "digitalSignature"),
      (bits.contentCommitment, "contentCommitment"),
      (bits.keyEncipherment, "keyEncipherment"),
      (bits.dataEncipherment, "dataEncipherment"),
      (bits.keyAgreement, "keyAgreement"),
      (bits.keyCertSign, "keyCertSign"),
      (bits.crlSign, "cRLSign"),
      (bits.encipherOnly, "encipherOnly"),
      (bits.decipherOnly, "decipherOnly")].filterMap
      fun (asserted, name) => if asserted then some name else none
  if names = [] then "(none)" else ", ".intercalate names

/-- The role a certificate plays in the PKI. -/
inductive CertRole where
  | endEntity
  | intermediateCa
  | crlSigner
  | ocspResponder
  | timestampSigner
  deriving DecidableEq, Repr

/-- The `Display` form of a role. -/
def CertRole.display : CertRole → String
  | .endEntity => "EndEntity"
  | .intermediateCa => "IntermediateCa"
  | .crlSigner => "CrlSigner"
  | .ocspResponder => "OcspResponder"
  | .timestampSigner => "TimestampSigner"

/-! ## Readers -/

/-- The value of the extension with a given identifier; repeated ones are rejected. -/
def findExtensionValue (cert : Certificate) (oid : ObjectIdentifier) :
    Except LtvError (Option Bytes) :=
  match cert.extensionsWith oid with
  | [] => .ok none
  | [ext] => .ok (some ext.extnValue)
  | _ :: _ :: _ => .error (.x509Extension s!"duplicate extension {oid.toString}")

/-- The CA flag and the path length, which must fit in 32 bits. -/
def checkBasicConstraints (cert : Certificate) :
    Except LtvError (Bool × Option Nat) := do
  match ← findExtensionValue cert basicConstraintsOid with
  | none => pure (false, none)
  | some extValue =>
      let (isCa, pathLen) ←
        (parseBasicConstraints extValue).mapError .x509Extension
      match pathLen with
      | none => pure (isCa, none)
      | some length =>
          rejectIf (length ≥ 2 ^ 32)
            (.x509Extension s!"pathLenConstraint {length} exceeds u32 range")
          pure (isCa, some length)

/-- Bit `index` of a BIT STRING, most significant bit of each octet first. -/
def bitSet (bitBytes : Bytes) (index : Nat) : Bool :=
  match bitBytes[index / 8]? with
  | none => false
  | some octet => (octet >>> UInt8.ofNat (7 - index % 8)) &&& 1 == 1

/-- The content octets of a well-padded key-usage BIT STRING that asserts a bit. -/
def keyUsageBytes (extValue : Bytes) : Except LtvError Bytes := do
  let (tag, body, rest) ←
    (parseTlvWithRest extValue).mapError fun e =>
      .x509Extension s!"keyUsage: {e}"
  rejectIf (rest ≠ []) (.x509Extension "keyUsage: trailing data after BIT STRING")
  rejectIf (tag ≠ 0x03)
    (.x509Extension
      s!"keyUsage: expected BIT STRING (0x03), got 0x{hexByte tag}")
  match body with
  | [] => .error (.x509Extension "keyUsage: empty BIT STRING")
  | unusedBits :: bitBytes =>
      rejectIf (unusedBits > 7)
        (.x509Extension
          s!"keyUsage: invalid unused-bits count {unusedBits.toNat} (must be 0..=7)")
      rejectIf (bitBytes.all (· = 0))
        (.x509Extension
          "keyUsage: BIT STRING must assert at least one key-usage bit")
      rejectIf
        (unusedBits > 0 ∧
          bitBytes.getLastD 0 &&& paddingMask unusedBits ≠ 0)
        (.x509Extension "keyUsage: BIT STRING has non-zero unused bits")
      pure bitBytes

/-- The key usage of a certificate, when the extension is present. -/
def checkKeyUsage (cert : Certificate) :
    Except LtvError (Option KeyUsageBits) := do
  match ← findExtensionValue cert keyUsageOid with
  | none => pure none
  | some extValue =>
      let bitBytes ← keyUsageBytes extValue
      pure
        (some
          { digitalSignature := bitSet bitBytes 0
            contentCommitment := bitSet bitBytes 1
            keyEncipherment := bitSet bitBytes 2
            dataEncipherment := bitSet bitBytes 3
            keyAgreement := bitSet bitBytes 4
            keyCertSign := bitSet bitBytes 5
            crlSign := bitSet bitBytes 6
            encipherOnly := bitSet bitBytes 7
            decipherOnly := bitSet bitBytes 8 })

/-- Read one purpose off the front of an extended-key-usage sequence. -/
def ekuStep (crates : Crates) :
    Step LtvError (List ObjectIdentifier) UInt8 :=
  fun oids pos => do
    let (oidTag, oidBody, rest) ←
      (parseTlvWithRest pos).mapError fun e =>
        .x509Extension s!"extKeyUsage OID: {e}"
    rejectIf (oidTag ≠ 0x06)
      (.x509Extension
        s!"extKeyUsage: expected OID (0x06), got 0x{hexByte oidTag}")
    let oid ←
      (crates.oidFromBytes oidBody).mapError fun e =>
        .x509Extension s!"extKeyUsage: invalid OID encoding: {e}"
    pure (oids ++ [oid], rest)

/-- The extended key usages of a certificate; none when the extension is absent. -/
def checkExtendedKeyUsage (crates : Crates) (cert : Certificate) :
    Except LtvError (List ObjectIdentifier) := do
  match ← findExtensionValue cert ekuOid with
  | none => pure []
  | some extValue =>
      let (tag, seqBody) ←
        (parseTlv extValue).mapError fun e =>
          .x509Extension s!"extKeyUsage: {e}"
      rejectIf (tag ≠ 0x30)
        (.x509Extension
          s!"extKeyUsage: expected SEQUENCE (0x30), got 0x{hexByte tag}")
      consume (ekuStep crates) [] seqBody

/-- A list of purposes in an error message. -/
def ekusToString (ekus : List ObjectIdentifier) : String :=
  if ekus = [] then "(none)"
  else ", ".intercalate (ekus.map ObjectIdentifier.toString)

/-! ## Roles -/

def validateEndEntity (cert : Certificate) : Except LtvError Unit := do
  let (isCa, _) ← checkBasicConstraints cert
  rejectIf (isCa = true)
    (.x509Extension "EndEntity certificate has basicConstraints CA:TRUE")
  match ← checkKeyUsage cert with
  | none => pure ()
  | some ku =>
      rejectIf (ku.digitalSignature = false ∧ ku.contentCommitment = false)
        (.x509Extension
          s!"EndEntity certificate missing digitalSignature or contentCommitment key usage (has: {ku.display})")

def validateIntermediateCa (cert : Certificate) : Except LtvError Unit := do
  let (isCa, _) ← checkBasicConstraints cert
  rejectIf (isCa = false)
    (.x509Extension "IntermediateCa certificate missing basicConstraints CA:TRUE")
  match ← checkKeyUsage cert with
  | none => pure ()
  | some ku =>
      rejectIf (ku.keyCertSign = false)
        (.x509Extension
          s!"IntermediateCa certificate missing keyCertSign key usage (has: {ku.display})")

def validateCrlSigner (cert : Certificate) : Except LtvError Unit := do
  match ← checkKeyUsage cert with
  | none =>
      .error
        (.x509Extension "CrlSigner certificate missing keyUsage extension")
  | some ku =>
      rejectIf (ku.crlSign = false)
        (.x509Extension
          s!"CrlSigner certificate missing cRLSign key usage (has: {ku.display})")

def validateTimestampSigner (crates : Crates) (cert : Certificate) :
    Except LtvError Unit := do
  let (isCa, _) ← checkBasicConstraints cert
  rejectIf (isCa = true)
    (.x509Extension "TimestampSigner certificate has basicConstraints CA:TRUE")
  (requireTimestampSigningKeyUsage crates cert).mapError fun e =>
    .x509Extension s!"TimestampSigner: {e.display}"
  match cert.findExtension ekuOid with
  | none =>
      .error
        (.x509Extension
          "TimestampSigner certificate missing extendedKeyUsage extension")
  | some ext =>
      rejectIf (ext.critical = false)
        (.x509Extension
          "TimestampSigner extendedKeyUsage extension must be critical (RFC 3161 §2.3)")
      let ekus ← checkExtendedKeyUsage crates cert
      rejectIf (ekus ≠ [timestampingEkuOid])
        (.x509Extension
          s!"TimestampSigner certificate missing id-kp-timeStamping EKU (has: {ekusToString ekus})")

def validateOcspResponder (crates : Crates) (cert : Certificate) :
    Except LtvError Unit := do
  let ekus ← checkExtendedKeyUsage crates cert
  rejectIf (ocspSigningEkuOid ∉ ekus)
    (.x509Extension
      s!"OcspResponder certificate missing id-kp-OCSPSigning EKU (has: {ekusToString ekus})")

/-- Check that a certificate's extensions fit the role it plays. -/
def validateExtensionsForRole
    (crates : Crates) (cert : Certificate) (role : CertRole) :
    Except LtvError Unit := do
  match firstDuplicate [] cert.extensions with
  | some ext =>
      .error
        (.x509Extension s!"duplicate extension {ext.extnId.toString}")
  | none =>
      match role with
      | .endEntity => validateEndEntity cert
      | .intermediateCa => validateIntermediateCa cert
      | .crlSigner => validateCrlSigner cert
      | .ocspResponder => validateOcspResponder crates cert
      | .timestampSigner => validateTimestampSigner crates cert

end RitspLtv.Ltv.X509Ext
