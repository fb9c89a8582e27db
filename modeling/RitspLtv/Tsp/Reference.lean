import RitspLtv.Tsp.Token
import RitspLtv.Reference

/-!
# A reference token

The small PKI with a timestamping certificate, one token it signed, and CMS
decoders for that token.  Here a digest is the last octets of the data.
-/

namespace RitspLtv.Tsp.Reference

open RitspLtv.RustStd
open RitspLtv.DerUtils
open RitspLtv.Reference
open RitspLtv.Crypto.Algorithm
open RitspLtv.Tsp.Cms
open RitspLtv.Tsp.Ess
open RitspLtv.Tsp.SignerProfile
open RitspLtv.Tsp.Token

/-! ## Encoding -/

def encodeAttribute (attr : Attribute) : Bytes :=
  encodeSequenceFromParts
    [encodeOid attr.oid, encodeTlv 0x31 (attr.values.flatMap encodeAny)]

def encodeSignerIdentifier : SignerIdentifier → Bytes
  | .issuerAndSerialNumber issuer serialNumber =>
      encodeSequenceFromParts
        [encodeName issuer, encodeTlv 0x02 serialNumber]
  | .subjectKeyIdentifier keyIdentifier => encodeTlv 0x80 keyIdentifier

def encodeSignerInfo (signerInfo : SignerInfo) : Bytes :=
  encodeSequenceFromParts
    [encodeTlv 0x02 [1], encodeSignerIdentifier signerInfo.sid,
      encodeAlgorithmIdentifier signerInfo.digestAlg,
      encodeOptional 0xA0 (List.flatMap encodeAttribute)
        signerInfo.signedAttrs,
      encodeAlgorithmIdentifier signerInfo.signatureAlgorithm,
      encodeTlv 0x04 signerInfo.signature,
      encodeOptional 0xA1 (List.flatMap encodeAttribute)
        signerInfo.unsignedAttrs]

def encodeCertificateChoices : CertificateChoices → Bytes
  | .certificate cert => encodeCertificate cert
  | .other => encodeTlv 0xA3 []

/-- A `SignedData` as an element of a `ContentInfo`. -/
def signedDataToAny (signedData : SignedData) : Any where
  tag := 0x30
  value :=
    [encodeTlv 0x02 [3],
      encodeTlv 0x31
        (signedData.signerInfos.flatMap fun signerInfo =>
          encodeAlgorithmIdentifier signerInfo.digestAlg),
      encodeSequenceFromParts
        [encodeOid signedData.encapContentInfo.econtentType,
          encodeOptional 0xA0 encodeAny signedData.encapContentInfo.econtent],
      encodeOptional 0xA0 (List.flatMap encodeCertificateChoices)
        signedData.certificates,
      encodeTlv 0x31
        (signedData.signerInfos.flatMap encodeSignerInfo)].flatten

def encodeContentInfo (ci : ContentInfo) : Bytes :=
  encodeSequenceFromParts
    [encodeOid ci.contentType, encodeTlv 0xA0 (encodeAny ci.content)]

/-! ## The token -/

/-- `extendedKeyUsage` with `id-kp-timeStamping` only. -/
def timeStamping : Extension :=
  ⟨idCeExtKeyUsage, true,
    encodeSequenceFromParts [encodeOid idKpTimeStamping]⟩

/-- The timestamping certificate, issued by the root. -/
def tsa : Certificate :=
  certificate 5 0xE5 0xA1 "TSA" "Root" [timeStamping]

/-- `id-sha256`. -/
def sha256 : AlgorithmIdentifier :=
  ⟨DigestAlgorithm.sha256.oid, none⟩

/-- The last octets of the data, as many as the digest has. -/
def digest (algorithm : HashAlgorithm) (data : Bytes) : Bytes :=
  let size := expectedLen algorithm
  ((data.reverse ++ List.replicate size 0).take size).reverse

/-- The digest that was timestamped. -/
def messageHash : Bytes := List.replicate 32 0x5A

/-- When the token was issued. -/
def issuedAt : Der.DateTime := year2026

/-- The signed content: half a second into 2026, in answer to nonce 42. -/
def tstInfo : Bytes :=
  encodeSequenceFromParts
    [encodeTlv 0x02 [1], encodeOid (.newUnwrap [1, 2, 3, 4]),
      encodeSequenceFromParts
        [encodeAlgorithmIdentifier sha256, encodeTlv 0x04 messageHash],
      encodeTlv 0x02 [7], encodeTlv 0x18 (asciiBytes "20260101000000.5Z"),
      encodeTlv 0x02 [42]]

/-- What the content parses to. -/
def parsed : Info.TstInfo where
  hashAlgorithm := .sha256
  messageHash := messageHash
  serialNumber := [7]
  genTimeDer := asciiBytes "20260101000000.5Z"
  nonce := some 42
  policyOid := some "1.2.3.4"

/-- The only certificate named by a version 2 attribute, by its digest. -/
def signingCertificateV2 (cert : Certificate) : Any :=
  ⟨0x30,
    encodeSequenceFromParts
      [encodeSequenceFromParts
        [encodeTlv 0x04 (digest .sha256 (encodeCertificate cert))]]⟩

def signedAttrs : List Attribute :=
  [⟨idContentTypeAttr, [⟨0x06, idCtTstInfo.body⟩]⟩,
    ⟨idMessageDigestAttr, [⟨0x04, digest .sha256 tstInfo⟩]⟩,
    ⟨idSigningCertificateV2, [signingCertificateV2 tsa]⟩]

def signedData : SignedData where
  encapContentInfo := ⟨idCtTstInfo, some ⟨0x04, tstInfo⟩⟩
  certificates := some [.certificate tsa]
  signerInfos :=
    [{ sid := .issuerAndSerialNumber (commonName "Root") [5]
       digestAlg := sha256
       signedAttrs := some signedAttrs
       signatureAlgorithm := ecdsaWithSha256
       signature := [0xE5]
       unsignedAttrs := none }]

def contentInfo : ContentInfo :=
  ⟨idSignedData, signedDataToAny signedData⟩

def token : Bytes := encodeContentInfo contentInfo

/-! ## The decoders -/

/-- The value of an element with an expected tag. -/
def valueOf (tag : UInt8) (value : Any) : Except String Bytes :=
  if value.tag = tag then .ok value.value else .error "unexpected ASN.1 DER tag"

/-- A non-negative INTEGER up to a bound. -/
def natOf (bound : Nat) (value : Any) : Except String Nat := do
  let body ← valueOf 0x02 value
  let number ← decodeIntegerU64 body
  if number ≤ bound then pure number else .error "ASN.1 DER value overflow"

/-- The crates on the reference token. -/
def crates : CmsCrates where
  toCrates :=
    { RitspLtv.Reference.crates { known with certificates := [root, tsa] } with
      digest := fun algorithm data => .ok (digest algorithm data) }
  contentInfoFromDer := decodeKnown encodeContentInfo [contentInfo]
  signedDataFromAny := fun value =>
    decodeKnown (fun known => encodeAny (signedDataToAny known)) [signedData]
      (encodeAny value)
  attributesToDer := fun attrs =>
    .ok (encodeTlv 0x31 (attrs.flatMap encodeAttribute))
  anyToDer := fun value => .ok (encodeAny value)
  anyFromDer := fun octets =>
    match parseTlvWithRest octets with
    | .ok (tag, value, []) => .ok ⟨tag, value⟩
    | .ok _ => .error "trailing data at end of DER message"
    | .error e => .error e
  oidFromAny := fun value => (valueOf 0x06 value).map .mk
  octetStringFromAny := valueOf 0x04
  u64FromAny := fun value => (natOf (2 ^ 64 - 1) value).map UInt64.ofNat
  u16FromAny := fun value => (natOf (2 ^ 16 - 1) value).map UInt16.ofNat
  boolFromAny := fun value => (valueOf 0x01 value).map fun body => body == [0xFF]
  intFromAny := valueOf 0x02
  uintFromAny := valueOf 0x02
  algorithmIdentifierFromAny := fun value =>
    decodeKnown encodeAlgorithmIdentifier [sha256] (encodeAny value)
  extensionFromAny := fun value =>
    decodeKnown encodeExtension [timeStamping] (encodeAny value)
  generalNamesFromAny := fun _ => .error "unexpected ASN.1 DER tag"
  serialNumberFromAny := valueOf 0x02
  generalNameFromDer := fun _ => .error "unexpected ASN.1 DER tag"
  subjectAltNamesFromDer := fun _ => .error "unexpected ASN.1 DER tag"
  generalizedTimeFromDer :=
    decodeKnown (fun time => encodeTime (.generalTime time)) [issuedAt]

end RitspLtv.Tsp.Reference
