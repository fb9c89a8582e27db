import RitspLtv.RustStd
import RitspLtv.Chrono
import Mathlib.Data.List.Lex
import Mathlib.Order.Lattice

/-!
# Certificates

The decoded certificate the validator works on, field by field as the X.509
crate presents it, and `Crates`: the operations of third-party crates the
validator calls.  Nothing in the development depends on how those operations
are implemented, so every theorem holds for all of them.
-/

namespace RitspLtv

open RitspLtv.RustStd
open RitspLtv.Chrono

/-! ## Object identifiers -/

/-- A `const_oid::ObjectIdentifier`: the octets of its DER body. -/
structure ObjectIdentifier where
  body : Bytes
  deriving DecidableEq, Repr

namespace ObjectIdentifier

/-- Base-128 octets of one arc, continuation bits set on all but the last. -/
def encodeArc (arc : Nat) : Bytes :=
  let count := (Nat.toDigits 128 arc).length
  (List.range count).map fun index =>
    let digit := arc / 128 ^ (count - 1 - index) % 128
    UInt8.ofNat (if index + 1 = count then digit else digit + 128)

/-- `ObjectIdentifier::new_unwrap` on the arcs of a dotted literal. -/
def newUnwrap : List Nat → ObjectIdentifier
  | first :: second :: arcs =>
      ⟨UInt8.ofNat (first * 40 + second) :: arcs.flatMap encodeArc⟩
  | _ => ⟨[]⟩

/-- Decode base-128 arcs; `value` holds the bits of the current arc. -/
def arcsFrom : Nat → Bytes → List Nat
  | _, [] => []
  | value, octet :: octets =>
      let value := value * 128 + octet.toNat % 128
      if octet < 0x80 then value :: arcsFrom 0 octets
      else arcsFrom value octets

/-- The arcs of an identifier. -/
def arcs (oid : ObjectIdentifier) : List Nat :=
  match oid.body with
  | [] => []
  | root :: octets =>
      root.toNat / 40 :: root.toNat % 40 :: arcsFrom 0 octets

/-- The dotted form. -/
def toString (oid : ObjectIdentifier) : String :=
  ".".intercalate (oid.arcs.map Nat.repr)

example : (newUnwrap [1, 2, 840, 113549]).body =
      [0x2A, 0x86, 0x48, 0x86, 0xF7, 0x0D] ∧
    (newUnwrap [1, 2, 840, 113549]).toString = "1.2.840.113549" := by
  decide

end ObjectIdentifier

/-! ## Certificate time -/

namespace Der

/-- The fields of a civil date and time between 1970 and 9999. -/
def IsDateTime (year month day hour minutes seconds : Nat) : Prop :=
  1970 ≤ year ∧ year ≤ 9999 ∧ 1 ≤ day ∧ day ≤ daysInMonth year month ∧
    hour < 24 ∧ minutes < 60 ∧ seconds < 60

instance (year month day hour minutes seconds : Nat) :
    Decidable (IsDateTime year month day hour minutes seconds) :=
  inferInstanceAs (Decidable (_ ∧ _))

/-- `der::DateTime`, whose fields always form a valid date. -/
structure DateTime where
  year : Nat
  month : Nat
  day : Nat
  hour : Nat
  minutes : Nat
  seconds : Nat
  valid : IsDateTime year month day hour minutes seconds
  deriving DecidableEq

namespace DateTime

/-- The fields in order of significance. -/
def fields (time : DateTime) : List Nat :=
  [time.year, time.month, time.day, time.hour, time.minutes, time.seconds]

theorem fields_injective : Function.Injective fields := by
  intro left right equal
  cases left
  cases right
  simp only [fields, List.cons.injEq, and_true] at equal
  simpa only [DateTime.mk.injEq] using equal

/-- Times are compared field by field, as the derived order does. -/
instance : LinearOrder DateTime :=
  LinearOrder.lift' fields fields_injective

/-- `DateTime::new`. -/
def new (year month day hour minutes seconds : Nat) : Option DateTime :=
  if valid : IsDateTime year month day hour minutes seconds then
    some ⟨year, month, day, hour, minutes, seconds, valid⟩
  else none

/-- A number with leading zeros. -/
def padded (width value : Nat) : String :=
  let digits := value.repr
  String.ofList (List.replicate (width - digits.length) '0') ++ digits

/-- The `Display` form: an RFC 3339 time. -/
def display (time : DateTime) : String :=
  s!"{padded 2 time.year}-{padded 2 time.month}-{padded 2 time.day}T{padded 2 time.hour}:{padded 2 time.minutes}:{padded 2 time.seconds}Z"

/-- The same time as an instant. -/
def instant (time : DateTime) : Chrono.DateTime :=
  utcFromDateTime (daysFromCivil time.year time.month time.day)
    (time.hour * 3600 + time.minutes * 60 + time.seconds)

end DateTime

end Der

/-- `x509_cert::time::Time`. -/
inductive Time where
  | utcTime (time : Der.DateTime)
  | generalTime (time : Der.DateTime)
  deriving DecidableEq

/-- `Time::to_date_time`. -/
def Time.toDateTime : Time → Der.DateTime
  | .utcTime time => time
  | .generalTime time => time

/-! ## The certificate -/

/-- An ASN.1 value of any type. -/
structure Any where
  tag : UInt8
  value : Bytes
  deriving DecidableEq, Repr

/-- A BIT STRING. -/
structure BitString where
  unusedBits : UInt8
  rawBytes : Bytes
  deriving DecidableEq, Repr

structure AlgorithmIdentifier where
  oid : ObjectIdentifier
  parameters : Option Any
  deriving DecidableEq, Repr

structure SubjectPublicKeyInfo where
  algorithm : AlgorithmIdentifier
  subjectPublicKey : BitString
  deriving DecidableEq, Repr

structure AttributeTypeAndValue where
  oid : ObjectIdentifier
  value : Any
  deriving DecidableEq, Repr

/-- A distinguished name: a sequence of sets of attributes. -/
abbrev Name := List (List AttributeTypeAndValue)

structure Validity where
  notBefore : Time
  notAfter : Time
  deriving DecidableEq

structure Extension where
  extnId : ObjectIdentifier
  critical : Bool
  extnValue : Bytes
  deriving DecidableEq, Repr

structure TbsCertificate where
  version : Nat
  serialNumber : Bytes
  signature : AlgorithmIdentifier
  issuer : Name
  validity : Validity
  subject : Name
  subjectPublicKeyInfo : SubjectPublicKeyInfo
  issuerUniqueId : Option BitString
  subjectUniqueId : Option BitString
  extensions : Option (List Extension)
  deriving DecidableEq

structure Certificate where
  tbsCertificate : TbsCertificate
  signatureAlgorithm : AlgorithmIdentifier
  signature : BitString
  deriving DecidableEq

namespace Certificate

/-- The extensions of a certificate, in order; none when the field is absent. -/
def extensions (cert : Certificate) : List Extension :=
  cert.tbsCertificate.extensions.getD []

/-- The first extension with a given identifier, if the certificate has one. -/
def findExtension (cert : Certificate) (oid : ObjectIdentifier) :
    Option Extension :=
  cert.extensions.find? fun ext => ext.extnId == oid

/-- Every extension with a given identifier. -/
def extensionsWith (cert : Certificate) (oid : ObjectIdentifier) :
    List Extension :=
  cert.extensions.filter fun ext => ext.extnId == oid

end Certificate

/-- The first extension whose identifier occurs before it, if any. -/
def firstDuplicate : List ObjectIdentifier → List Extension → Option Extension
  | _, [] => none
  | seen, ext :: extensions =>
      if ext.extnId ∈ seen then some ext
      else firstDuplicate (ext.extnId :: seen) extensions

/-- No identifier is found twice exactly when the identifiers are distinct. -/
theorem firstDuplicate_eq_none_iff
    {seen : List ObjectIdentifier} {extensions : List Extension} :
    firstDuplicate seen extensions = none ↔
      (extensions.map Extension.extnId).Nodup ∧
        ∀ ext ∈ extensions, ext.extnId ∉ seen := by
  induction extensions generalizing seen with
  | nil => simp [firstDuplicate]
  | cons ext extensions induction =>
      unfold firstDuplicate
      split
      · next repeated => simp [repeated]
      · next fresh =>
          rw [induction]
          simp only [List.map_cons, List.nodup_cons, List.mem_map, not_exists,
            not_and, List.mem_cons, not_or, forall_eq_or_imp]
          constructor
          · rintro ⟨distinct, unseen⟩
            exact ⟨⟨fun later member => (unseen later member).1, distinct⟩,
              fresh, fun later member => (unseen later member).2⟩
          · rintro ⟨⟨different, distinct⟩, _, unseen⟩
            exact ⟨distinct,
              fun later member =>
                ⟨different later member, unseen later member⟩⟩

/-! ## Third-party crates -/

/-- The key-usage flags read from the typed `KeyUsage`. -/
structure KeyUsageFlags where
  digitalSignature : Bool
  nonRepudiation : Bool
  deriving DecidableEq, Repr

/-- `riptering::HashAlgorithm`, as far as the validator uses it. -/
inductive HashAlgorithm where
  | sha1
  | sha256
  | sha384
  | sha512
  | sha3_256
  | sha3_384
  | sha3_512
  deriving DecidableEq, Repr

/--
The operations of third-party crates that the validator calls.  An error is
represented by its `Display` text.
-/
structure Crates where
  /-- `Certificate::from_der`. -/
  certificateFromDer : Bytes → Except String Certificate
  /-- `Certificate::to_der`. -/
  certificateToDer : Certificate → Except String Bytes
  /-- `Name::to_der`. -/
  nameToDer : Name → Except String Bytes
  /-- The `Display` form of a name. -/
  nameToString : Name → String
  /-- `SubjectPublicKeyInfo::to_der`. -/
  spkiToDer : SubjectPublicKeyInfo → Except String Bytes
  /-- `AlgorithmIdentifierOwned::from_der`. -/
  algorithmIdentifierFromDer : Bytes → Except String AlgorithmIdentifier
  /-- `Extensions::from_der`. -/
  extensionsFromDer : Bytes → Except String (List Extension)
  /-- `ObjectIdentifier::from_bytes`. -/
  oidFromBytes : Bytes → Except String ObjectIdentifier
  /-- `Any::decode_as::<Ia5StringRef>`. -/
  ia5StringFromAny : Any → Except String Bytes
  /-- `der::asn1::BitStringRef::from_der`. -/
  bitStringFromDer : Bytes → Except String BitString
  /-- `x509_cert::ext::pkix::KeyUsage::from_der`. -/
  keyUsageFromDer : Bytes → Except String KeyUsageFlags
  /-- Whether `x509_cert::ext::pkix::BasicConstraints::from_der` succeeds. -/
  basicConstraintsFromDer : Bytes → Except String Unit
  /-- `x509_cert::ext::pkix::ExtendedKeyUsage::from_der`. -/
  extendedKeyUsageFromDer : Bytes → Except String (List ObjectIdentifier)
  /-- Whether `x509_cert::ext::pkix::SubjectAltName::from_der` succeeds. -/
  subjectAltNameFromDer : Bytes → Except String Unit
  /-- `riptering::digest::digest`. -/
  digest : HashAlgorithm → Bytes → Except String Bytes
  /-- The standard base64 engine's `decode`. -/
  base64Decode : Bytes → Except String Bytes
  /-- The `Display` form of a `chrono::DateTime<Utc>`. -/
  instantToString : Chrono.DateTime → String
  /-- The `Display` form of a `chrono::Duration`. -/
  durationToString : Chrono.Duration → String
  /-- `char::to_lowercase`, from the Unicode tables. -/
  toLowercase : Nat → List Nat

end RitspLtv
