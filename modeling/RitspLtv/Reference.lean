import RitspLtv.Ltv.Ocsp

/-!
# A reference instance

Everything else in the development holds for all implementations of the
third-party crates.  This module gives one that behaves as they do on a small
PKI: names, keys and certificates are encoded in DER, and decoding is the
inverse of encoding on the certificates that are known.  Signatures are those
of a toy scheme in which a certificate carries the key of its signer, and a
digest is the data itself.
-/

namespace RitspLtv.Reference

open RitspLtv.RustStd
open RitspLtv.DerUtils
open RitspLtv.Crypto.Verify
open RitspLtv.Ltv.OcspResponse
open RitspLtv.Trust.Store

/-! ## Encoding -/

def encodeOid (oid : ObjectIdentifier) : Bytes :=
  encodeTlv 0x06 oid.body

def encodeAny (value : Any) : Bytes :=
  encodeTlv value.tag value.value

def encodeBitString (bits : BitString) : Bytes :=
  encodeTlv 0x03 (bits.unusedBits :: bits.rawBytes)

def encodeAlgorithmIdentifier (algorithm : AlgorithmIdentifier) : Bytes :=
  encodeSequenceFromParts
    [encodeOid algorithm.oid, (algorithm.parameters.map encodeAny).getD []]

def encodeName (name : Name) : Bytes :=
  encodeSequenceFromParts
    (name.map fun rdn =>
      encodeTlv 0x31
        (rdn.flatMap fun atv =>
          encodeSequenceFromParts [encodeOid atv.oid, encodeAny atv.value]))

def encodeSpki (spki : SubjectPublicKeyInfo) : Bytes :=
  encodeSequenceFromParts
    [encodeAlgorithmIdentifier spki.algorithm,
      encodeBitString spki.subjectPublicKey]

/-- The decimal digits of a number, padded to a width. -/
def decimal (width value : Nat) : Bytes :=
  asciiBytes (Der.DateTime.padded width value)

def encodeTime (time : Time) : Bytes :=
  let fields (date : Der.DateTime) :=
    decimal 2 date.month ++ decimal 2 date.day ++ decimal 2 date.hour ++
      decimal 2 date.minutes ++ decimal 2 date.seconds ++ [0x5A]
  match time with
  | .utcTime date => encodeTlv 0x17 (decimal 2 (date.year % 100) ++ fields date)
  | .generalTime date => encodeTlv 0x18 (decimal 4 date.year ++ fields date)

def encodeExtension (ext : Extension) : Bytes :=
  encodeSequenceFromParts
    [encodeOid ext.extnId,
      if ext.critical then encodeTlv 0x01 [0xFF] else [],
      encodeTlv 0x04 ext.extnValue]

def encodeExtensions (extensions : List Extension) : Bytes :=
  encodeSequenceFromParts (extensions.map encodeExtension)

/-- An optional field in a context-specific wrapper. -/
def encodeOptional {α : Type} (tag : UInt8) (encode : α → Bytes) :
    Option α → Bytes
  | none => []
  | some value => encodeTlv tag (encode value)

def encodeTbsCertificate (tbs : TbsCertificate) : Bytes :=
  encodeSequenceFromParts
    [encodeTlv 0xA0 (encodeTlv 0x02 [UInt8.ofNat tbs.version]),
      encodeTlv 0x02 tbs.serialNumber,
      encodeAlgorithmIdentifier tbs.signature,
      encodeName tbs.issuer,
      encodeSequenceFromParts
        [encodeTime tbs.validity.notBefore, encodeTime tbs.validity.notAfter],
      encodeName tbs.subject,
      encodeSpki tbs.subjectPublicKeyInfo,
      encodeOptional 0x81
        (fun bits : BitString => bits.unusedBits :: bits.rawBytes)
        tbs.issuerUniqueId,
      encodeOptional 0x82
        (fun bits : BitString => bits.unusedBits :: bits.rawBytes)
        tbs.subjectUniqueId,
      encodeOptional 0xA3 encodeExtensions tbs.extensions]

/-- Data with its signature. -/
def encodeSigned (tbs : Bytes) (algorithm : AlgorithmIdentifier)
    (signature : BitString) : Bytes :=
  encodeSequenceFromParts
    [tbs, encodeAlgorithmIdentifier algorithm, encodeBitString signature]

def encodeCertificate (cert : Certificate) : Bytes :=
  encodeSigned (encodeTbsCertificate cert.tbsCertificate)
    cert.signatureAlgorithm cert.signature

/-- One entry of a CRL: a serial number and a revocation time. -/
def encodeRevokedEntry (entry : Bytes × Time) : Bytes :=
  encodeSequenceFromParts [encodeTlv 0x02 entry.1, encodeTime entry.2]

/-- The signed part of a CRL with a window and entries. -/
def encodeTbsCertList (algorithm : AlgorithmIdentifier) (issuer : Name)
    (thisUpdate nextUpdate : Time) (entries : List (Bytes × Time)) : Bytes :=
  encodeSequenceFromParts
    [encodeTlv 0x02 [1], encodeAlgorithmIdentifier algorithm,
      encodeName issuer, encodeTime thisUpdate, encodeTime nextUpdate,
      encodeSequenceFromParts (entries.map encodeRevokedEntry)]

/-- The status element of an OCSP entry; a revocation gives its time. -/
def encodeGood : Bytes := encodeTlv 0x80 []

def encodeRevoked (time : Der.DateTime) : Bytes :=
  encodeTlv 0xA1 (encodeTime (.generalTime time))

/-- One entry of an OCSP response, with SHA-1 hashes. -/
def encodeSingleResponse (nameHash keyHash serial status : Bytes)
    (thisUpdate nextUpdate : Der.DateTime) : Bytes :=
  encodeSequenceFromParts
    [encodeSequenceFromParts
        [encodeSequenceFromParts [encodeTlv 0x06 certIdHashAlgorithmOid],
          encodeTlv 0x04 nameHash, encodeTlv 0x04 keyHash,
          encodeTlv 0x02 serial],
      status, encodeTime (.generalTime thisUpdate),
      encodeTlv 0xA0 (encodeTime (.generalTime nextUpdate))]

/-- The signed part of an OCSP response of a responder named by its subject. -/
def encodeResponseData (responder : Name) (producedAt : Der.DateTime)
    (responses : List Bytes) : Bytes :=
  encodeSequenceFromParts
    [encodeTlv 0xA1 (encodeName responder),
      encodeTime (.generalTime producedAt),
      encodeSequenceFromParts responses]

/-- A successful OCSP response with embedded certificates. -/
def encodeOcspResponse (responseData : Bytes)
    (algorithm : AlgorithmIdentifier) (signature : BitString)
    (certs : List Bytes) : Bytes :=
  encodeSequenceFromParts
    [encodeTlv 0x0A [0],
      encodeTlv 0xA0
        (encodeSequenceFromParts
          [encodeTlv 0x06 ocspBasicResponseOid,
            encodeTlv 0x04
              (encodeSequenceFromParts
                [responseData, encodeAlgorithmIdentifier algorithm,
                  encodeBitString signature,
                  encodeTlv 0xA0 (encodeSequenceFromParts certs)])])]

/-! ## Base64 -/

/-- The value of a symbol of the standard alphabet. -/
def base64Value (symbol : UInt8) : Option Nat :=
  if 0x41 ≤ symbol ∧ symbol ≤ 0x5A then some (symbol.toNat - 0x41)
  else if 0x61 ≤ symbol ∧ symbol ≤ 0x7A then some (symbol.toNat - 0x61 + 26)
  else if 0x30 ≤ symbol ∧ symbol ≤ 0x39 then some (symbol.toNat - 0x30 + 52)
  else if symbol = 0x2B then some 62
  else if symbol = 0x2F then some 63
  else none

/-- The symbol of a value below 64. -/
def base64Symbol (value : Nat) : UInt8 :=
  if value < 26 then UInt8.ofNat (value + 0x41)
  else if value < 52 then UInt8.ofNat (value - 26 + 0x61)
  else if value < 62 then UInt8.ofNat (value - 52 + 0x30)
  else if value = 62 then 0x2B
  else 0x2F

def base64Encode : Bytes → Bytes
  | first :: second :: third :: rest =>
      let value := first.toNat * 65536 + second.toNat * 256 + third.toNat
      base64Symbol (value / 262144) :: base64Symbol (value / 4096 % 64) ::
        base64Symbol (value / 64 % 64) :: base64Symbol (value % 64) ::
        base64Encode rest
  | [first, second] =>
      let value := first.toNat * 1024 + second.toNat * 4
      [base64Symbol (value / 4096), base64Symbol (value / 64 % 64),
        base64Symbol (value % 64), 0x3D]
  | [first] =>
      let value := first.toNat * 16
      [base64Symbol (value / 64), base64Symbol (value % 64), 0x3D, 0x3D]
  | [] => []

/-- Canonical decoding: full quanta, and zero bits under the padding. -/
def base64Decode (offset : Nat) : Bytes → Except String Bytes
  | [] => .ok []
  | [a, b, 0x3D, 0x3D] =>
      match base64Value a, base64Value b with
      | none, _ => .error s!"Invalid symbol {a.toNat}, offset {offset}."
      | _, none => .error s!"Invalid symbol {b.toNat}, offset {offset + 1}."
      | some a, some value =>
          if value % 16 = 0 then .ok [UInt8.ofNat (a * 4 + value / 16)]
          else .error s!"Invalid last symbol {b.toNat}, offset {offset + 1}."
  | [a, b, c, 0x3D] =>
      match base64Value a, base64Value b, base64Value c with
      | none, _, _ => .error s!"Invalid symbol {a.toNat}, offset {offset}."
      | _, none, _ => .error s!"Invalid symbol {b.toNat}, offset {offset + 1}."
      | _, _, none => .error s!"Invalid symbol {c.toNat}, offset {offset + 2}."
      | some a, some b, some value =>
          if value % 4 = 0 then
            .ok
              [UInt8.ofNat (a * 4 + b / 16),
                UInt8.ofNat (b % 16 * 16 + value / 4)]
          else .error s!"Invalid last symbol {c.toNat}, offset {offset + 2}."
  | a :: b :: c :: d :: rest =>
      match base64Value a, base64Value b, base64Value c, base64Value d with
      | none, _, _, _ => .error s!"Invalid symbol {a.toNat}, offset {offset}."
      | _, none, _, _ =>
          .error s!"Invalid symbol {b.toNat}, offset {offset + 1}."
      | _, _, none, _ =>
          .error s!"Invalid symbol {c.toNat}, offset {offset + 2}."
      | _, _, _, none =>
          .error s!"Invalid symbol {d.toNat}, offset {offset + 3}."
      | some a, some b, some c, some d => do
          let decoded ← base64Decode (offset + 4) rest
          pure
            (UInt8.ofNat (a * 4 + b / 16) ::
              UInt8.ofNat (b % 16 * 16 + c / 4) ::
              UInt8.ofNat (c % 4 * 64 + d) :: decoded)
  | _ => .error "Invalid padding"

/-! ## The crates -/

/-- Decoding as the inverse of an encoding on known values. -/
def decodeKnown {α : Type} (encode : α → Bytes) (known : List α)
    (octets : Bytes) : Except String α :=
  match known.find? fun value => encode value == octets with
  | none => .error "unexpected ASN.1 DER tag"
  | some value => .ok value

theorem decodeKnown_eq_ok
    {α : Type} {encode : α → Bytes} {known : List α} {octets : Bytes}
    {value : α}
    (decoded : decodeKnown encode known octets = .ok value) :
    value ∈ known ∧ encode value = octets := by
  rw [decodeKnown] at decoded
  split at decoded
  · cases decoded
  · next first found =>
      cases decoded
      have matched := List.find?_some found
      simp only [beq_iff_eq] at matched
      exact ⟨List.mem_of_find?_eq_some found, matched⟩

/-- The texts of a name's attributes. -/
def nameToString (name : Name) : String :=
  ",".intercalate
    (name.flatten.map fun atv => asciiString atv.value.value)

/-- The values that the reference decoders know. -/
structure Known where
  certificates : List Certificate
  algorithms : List AlgorithmIdentifier
  extensions : List (List Extension)

/-- The crates, with decoders for the known values. -/
def crates (known : Known) : Crates where
  certificateFromDer := decodeKnown encodeCertificate known.certificates
  certificateToDer := fun cert => .ok (encodeCertificate cert)
  nameToDer := fun name => .ok (encodeName name)
  nameToString := nameToString
  spkiToDer := fun spki => .ok (encodeSpki spki)
  algorithmIdentifierFromDer :=
    decodeKnown encodeAlgorithmIdentifier known.algorithms
  extensionsFromDer := decodeKnown encodeExtensions known.extensions
  oidFromBytes := fun body => .ok ⟨body⟩
  ia5StringFromAny := fun value =>
    if value.tag = 0x16 ∧ isAscii value.value then .ok value.value
    else .error "malformed ASN.1 DER value for IA5String"
  bitStringFromDer := fun octets =>
    match parseTlvWithRest octets with
    | .ok (0x03, unusedBits :: rawBytes, []) => .ok ⟨unusedBits, rawBytes⟩
    | _ => .error "malformed ASN.1 DER value for BIT STRING"
  keyUsageFromDer := fun octets =>
    match parseTlvWithRest octets with
    | .ok (0x03, _ :: first :: _, []) =>
        .ok ⟨first &&& 0x80 ≠ 0, first &&& 0x40 ≠ 0⟩
    | _ => .error "malformed ASN.1 DER value for BIT STRING"
  basicConstraintsFromDer := fun octets =>
    (parseBasicConstraints octets).map fun _ => ()
  extendedKeyUsageFromDer := fun octets =>
    match parseTlvWithRest octets with
    | .ok (0x30, body, []) =>
        match parseTlvWithRest body with
        | .ok (0x06, oid, []) => .ok [⟨oid⟩]
        | _ => .error "malformed ASN.1 DER value for OBJECT IDENTIFIER"
    | _ => .error "malformed ASN.1 DER value for SEQUENCE"
  subjectAltNameFromDer := fun octets => (parseTlv octets).map fun _ => ()
  digest := fun _ data => .ok data
  base64Decode := base64Decode 0
  instantToString := fun instant => s!"{instant} ns"
  durationToString := fun duration => s!"{duration} ns"
  toLowercase := fun scalar =>
    if 0x41 ≤ scalar ∧ scalar ≤ 0x5A then [scalar + 0x20] else [scalar]

/-- The toy scheme: a signature is the key that verifies it. -/
def signatures : Signatures where
  verifyCertificateSignatureWithPolicy := fun cert issuer _ =>
    if cert.signature = issuer.tbsCertificate.subjectPublicKeyInfo.subjectPublicKey
    then .ok ()
    else .error (.signatureVerification "certificate signature is invalid")
  verifySignatureByAlgidWithPolicy := fun _ signature spkiDer _ _ =>
    if (0x00 :: signature).isSuffixOf spkiDer then .ok ()
    else .error (.signatureVerification "signature is invalid")
  verifySignatureByOid := fun _ signature spkiDer _ =>
    if (0x00 :: signature).isSuffixOf spkiDer then .ok ()
    else .error (.signatureVerification "signature is invalid")
  verifyRsaPssSignatureStrict := fun _ _ _ _ =>
    .error (.unsupportedAlgorithm "RSASSA-PSS")

/-! ## A small PKI -/

/-- `ecdsa-with-SHA256`. -/
def ecdsaWithSha256 : AlgorithmIdentifier :=
  ⟨.newUnwrap [1, 2, 840, 10045, 4, 3, 2], none⟩

/-- A name with one common name. -/
def commonName (text : String) : Name :=
  [[⟨.newUnwrap [2, 5, 4, 3], ⟨0x0C, asciiBytes text⟩⟩]]

/-- A public key, reduced to one octet. -/
def publicKey (key : UInt8) : BitString :=
  ⟨0, [key]⟩

/-- `basicConstraints` with `cA:TRUE`. -/
def caConstraints : Extension :=
  ⟨.newUnwrap [2, 5, 29, 19], true, [0x30, 0x03, 0x01, 0x01, 0xFF]⟩

/-- `extendedKeyUsage` with `id-kp-OCSPSigning` only. -/
def ocspSigning : Extension :=
  ⟨.newUnwrap [2, 5, 29, 37], false,
    encodeSequenceFromParts
      [encodeOid (.newUnwrap [1, 3, 6, 1, 5, 5, 7, 3, 9])]⟩

/-- Midnight on the first day of a year. -/
def newYear (year : Nat)
    (valid : Der.IsDateTime year 1 1 0 0 0) : Der.DateTime :=
  ⟨year, 1, 1, 0, 0, 0, valid⟩

def year2020 : Der.DateTime := newYear 2020 (by decide)

def year2025 : Der.DateTime := newYear 2025 (by decide)

def year2026 : Der.DateTime := newYear 2026 (by decide)

def year2028 : Der.DateTime := newYear 2028 (by decide)

def year2030 : Der.DateTime := newYear 2030 (by decide)

def year2040 : Der.DateTime := newYear 2040 (by decide)

/-- The first day of 2027. -/
def checkedAt : Chrono.DateTime :=
  (newYear 2027 (by decide)).instant

/-- A certificate valid from 2020 to 2040. -/
def certificate (serial key issuerKey : UInt8) (subject issuer : String)
    (extensions : List Extension) : Certificate where
  tbsCertificate :=
    { version := 2
      serialNumber := [serial]
      signature := ecdsaWithSha256
      issuer := commonName issuer
      validity :=
        { notBefore := .utcTime year2020
          notAfter := .utcTime year2040 }
      subject := commonName subject
      subjectPublicKeyInfo :=
        ⟨⟨.newUnwrap [1, 2, 840, 10045, 2, 1], none⟩, publicKey key⟩
      issuerUniqueId := none
      subjectUniqueId := none
      extensions := some extensions }
  signatureAlgorithm := ecdsaWithSha256
  signature := publicKey issuerKey

/-- A self-signed root. -/
def root : Certificate :=
  certificate 1 0xA1 0xA1 "Root" "Root" [caConstraints]

/-- An end-entity certificate issued by the root. -/
def leaf : Certificate :=
  certificate 2 0xB2 0xA1 "Leaf" "Root" []

/-- A self-issued rollover certificate: the root's next key, signed by its first. -/
def rollover : Certificate :=
  certificate 3 0xC3 0xA1 "Root" "Root" [caConstraints]

/-- A certificate by which the root delegates OCSP signing. -/
def responder : Certificate :=
  certificate 4 0xD4 0xA1 "Responder" "Root" [ocspSigning]

/-- The root as a trust anchor. -/
def rootAnchor : TrustAnchor :=
  ⟨root, encodeCertificate root⟩

/-- The rollover certificate as a trust anchor. -/
def rolloverAnchor : TrustAnchor :=
  ⟨rollover, encodeCertificate rollover⟩

/-- A store that trusts the root. -/
def rootStore : TrustStore :=
  { TrustStore.new with anchors := [rootAnchor] }

/-- The certificates of the PKI. -/
def known : Known :=
  ⟨[root, leaf, rollover, responder], [ecdsaWithSha256], []⟩

end RitspLtv.Reference
