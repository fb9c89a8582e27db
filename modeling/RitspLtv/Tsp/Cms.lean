import RitspLtv.Certificate

/-!
# CMS data

The decoded parts of a timestamp token as the CMS crate presents them, and
`CmsCrates`: the decoders for them, which are left open like those of `Crates`.
-/

namespace RitspLtv.Tsp.Cms

open RitspLtv.RustStd

/-- An attribute: an identifier and its values. -/
structure Attribute where
  oid : ObjectIdentifier
  values : List Any
  deriving DecidableEq, Repr

/-- How a signer is identified. -/
inductive SignerIdentifier where
  | issuerAndSerialNumber (issuer : Name) (serialNumber : Bytes)
  | subjectKeyIdentifier (keyIdentifier : Bytes)
  deriving DecidableEq, Repr

structure SignerInfo where
  sid : SignerIdentifier
  digestAlg : AlgorithmIdentifier
  signedAttrs : Option (List Attribute)
  signatureAlgorithm : AlgorithmIdentifier
  signature : Bytes
  unsignedAttrs : Option (List Attribute)
  deriving DecidableEq, Repr

/-- A certificate of the token, or another choice that carries none. -/
inductive CertificateChoices where
  | certificate (cert : Certificate)
  | other
  deriving DecidableEq

structure EncapsulatedContentInfo where
  econtentType : ObjectIdentifier
  econtent : Option Any
  deriving DecidableEq, Repr

structure SignedData where
  encapContentInfo : EncapsulatedContentInfo
  certificates : Option (List CertificateChoices)
  signerInfos : List SignerInfo
  deriving DecidableEq

structure ContentInfo where
  contentType : ObjectIdentifier
  content : Any
  deriving DecidableEq, Repr

/-- `x509_cert::ext::pkix::name::GeneralName`, told apart as far as names are compared. -/
inductive GeneralName where
  | directoryName (name : Name)
  | dnsName (name : Bytes)
  | other (tag : UInt8) (value : Bytes)
  deriving DecidableEq, Repr

/-- The operations of third-party crates that only timestamp verification calls. -/
structure CmsCrates extends Crates where
  /-- `ContentInfo::from_der`. -/
  contentInfoFromDer : Bytes → Except String ContentInfo
  /-- `Any::decode_as::<SignedData>`. -/
  signedDataFromAny : Any → Except String SignedData
  /-- `Attributes::to_der`, as a SET OF. -/
  attributesToDer : List Attribute → Except String Bytes
  /-- `Any::to_der`. -/
  anyToDer : Any → Except String Bytes
  /-- `AnyRef::from_der`. -/
  anyFromDer : Bytes → Except String Any
  /-- `decode_as::<ObjectIdentifier>`. -/
  oidFromAny : Any → Except String ObjectIdentifier
  /-- `decode_as::<OctetString>`. -/
  octetStringFromAny : Any → Except String Bytes
  /-- `decode_as::<u64>`. -/
  u64FromAny : Any → Except String UInt64
  /-- `decode_as::<u16>`. -/
  u16FromAny : Any → Except String UInt16
  /-- `decode_as::<bool>`. -/
  boolFromAny : Any → Except String Bool
  /-- `decode_as::<IntRef>`. -/
  intFromAny : Any → Except String Bytes
  /-- `decode_as::<UintRef>`. -/
  uintFromAny : Any → Except String Bytes
  /-- `decode_as::<AlgorithmIdentifierRef>`. -/
  algorithmIdentifierFromAny : Any → Except String AlgorithmIdentifier
  /-- `decode_as::<Extension>`. -/
  extensionFromAny : Any → Except String Extension
  /-- `decode_as::<GeneralNames>`. -/
  generalNamesFromAny : Any → Except String (List GeneralName)
  /-- `decode_as::<SerialNumber>`. -/
  serialNumberFromAny : Any → Except String Bytes
  /-- `GeneralName::from_der`. -/
  generalNameFromDer : Bytes → Except String GeneralName
  /-- The names of `SubjectAltName::from_der`. -/
  subjectAltNamesFromDer : Bytes → Except String (List GeneralName)
  /-- `GeneralizedTime::from_der`. -/
  generalizedTimeFromDer : Bytes → Except String Der.DateTime

/-- DER NULL, which `is_null` recognises. -/
def anyNull : Any := ⟨0x05, []⟩

end RitspLtv.Tsp.Cms
