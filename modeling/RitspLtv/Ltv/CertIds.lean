import RitspLtv.IntegerCodec
import RitspLtv.Ltv.OcspCompleteness
import RitspLtv.Ltv.OcspVerdict

/-!
# The names of certificates in requests and responses

A request names a certificate by hashes of its issuer's name and key and by its
serial number.  An entry of a response that has the same octets for a name is
read back as this name and taken for the certificate, whatever it reports.  An
entry with the name of another certificate of the issuer is not.
-/

namespace RitspLtv.Ltv.CertIds

open RitspLtv.Foundation.Checks
open RitspLtv.RustStd
open RitspLtv.Chrono
open RitspLtv.DerUtils
open RitspLtv.IntegerBodies
open RitspLtv.IntegerCodec
open RitspLtv.TlvElements
open RitspLtv.TlvRoundTrip
open RitspLtv.Ltv.OcspCompleteness
open RitspLtv.Ltv.OcspResponse
open RitspLtv.Ltv.OcspSoundness
open RitspLtv.Ltv.OcspVerdict
open RitspLtv.Ltv.Ocsp

/-! ## Building a name -/

/-- The crates, with the encoders that a request is built with. -/
structure RequestCrates extends Crates where
  /-- `SerialNumber::to_der`. -/
  serialNumberToDer : Bytes → Except String Bytes
  /-- `ObjectIdentifier::to_der`. -/
  oidToDer : ObjectIdentifier → Except String Bytes

/-- The `AlgorithmIdentifier` of SHA-1: its identifier and NULL. -/
def buildSha1AlgorithmIdentifier (crates : RequestCrates) :
    Except LtvError Bytes := do
  let sha1Oid := ObjectIdentifier.newUnwrap [1, 3, 14, 3, 2, 26]
  let oidDer ←
    (crates.oidToDer sha1Oid).mapError fun e =>
      .ocsp s!"failed to encode SHA-1 OID: {e}"
  let nullDer : Bytes := [0x05, 0x00]
  pure (encodeSequenceFromParts [oidDer, nullDer])

/-- The `CertID` of a certificate in a request. -/
def buildCertId (crates : RequestCrates) (cert issuer : Certificate) :
    Except LtvError Bytes := do
  let issuerNameDer ←
    (crates.nameToDer issuer.tbsCertificate.subject).mapError fun e =>
      .ocsp s!"failed to encode issuer name: {e}"
  let issuerNameHash ← sha1Hash crates.toCrates issuerNameDer
  let issuerKeyHash ←
    sha1Hash crates.toCrates
      issuer.tbsCertificate.subjectPublicKeyInfo.subjectPublicKey.rawBytes
  let serialDer ←
    (crates.serialNumberToDer cert.tbsCertificate.serialNumber).mapError
      fun e => .ocsp s!"failed to encode serial number: {e}"
  let sha1AlgId ← buildSha1AlgorithmIdentifier crates
  pure
    (encodeSequenceFromParts
      [sha1AlgId, encodeTlv 0x04 issuerNameHash, encodeTlv 0x04 issuerKeyHash,
        serialDer])

/--
What is relied on of the crates: an encoder writes one element and refuses one
that is too long to count, and SHA-1 has twenty octets.
-/
structure Standard (crates : RequestCrates) : Prop where
  serialNumber :
    ∀ {body der}, crates.serialNumberToDer body = .ok der →
      der = encodeTlv 0x02 body ∧ der.length < 2 ^ 28
  oid :
    ∀ {oid der}, crates.oidToDer oid = .ok der →
      der = encodeTlv 0x06 oid.body
  sha1 :
    ∀ {data hash}, crates.digest .sha1 data = .ok hash → hash.length = 20

/-! ## The elements of a name -/

/-- The identifier of the hash algorithm, and NULL. -/
def algorithmElements : List Element :=
  [(0x06, certIdHashAlgorithmOid), (0x05, [])]

/-- The elements of a `CertID`. -/
def certIdElements (nameHash keyHash serial : Bytes) : List Element :=
  [(0x30, encodeElements algorithmElements), (0x04, nameHash),
    (0x04, keyHash), (0x02, serial)]

/-- The octets of a `CertID`, with room for its length. -/
structure IsCertId (certId nameHash keyHash serial : Bytes) : Prop where
  octets :
    certId =
      encodeElement
        (0x30, encodeElements (certIdElements nameHash keyHash serial))
  name : nameHash.length = 20
  key : keyHash.length = 20
  serial : (encodeElement (0x02, serial)).length < 2 ^ 28

variable {crates : RequestCrates} {cert issuer : Certificate}
variable {certId nameHash keyHash serial rest : Bytes}

/-- What is built is the name under which the certificate is looked up. -/
theorem isCertId_of_buildCertId
    (standard : Standard crates)
    (built : buildCertId crates cert issuer = .ok certId) :
    ∃ nameHash keyHash,
      expectedCertKey crates.toCrates cert issuer =
          .ok
            ⟨nameHash, keyHash,
              parseIntegerBody cert.tbsCertificate.serialNumber⟩ ∧
        IsCertId certId nameHash keyHash cert.tbsCertificate.serialNumber := by
  simp only [buildCertId, buildSha1AlgorithmIdentifier, bind_eq_ok,
    mapError_eq_ok, pure_eq_ok] at built
  rcases built with
    ⟨nameDer, named, nameHash, nameHashed, keyHash, keyHashed, serialDer,
      serialWritten, algorithm, ⟨oidDer, oidWritten, rfl⟩, rfl⟩
  have twenty :
      ∀ {data hash}, sha1Hash crates.toCrates data = .ok hash →
        hash.length = 20 := by
    intro data hash hashed
    exact standard.sha1 (mapError_eq_ok.mp hashed)
  rcases standard.serialNumber serialWritten with ⟨rfl, short⟩
  cases standard.oid oidWritten
  refine ⟨nameHash, keyHash, ?_, ?_, twenty nameHashed, twenty keyHashed, short⟩
  · simp only [expectedCertKey, bind_eq_ok, mapError_eq_ok, pure_eq_ok]
    exact
      ⟨nameDer, named, nameHash, nameHashed, keyHash, keyHashed, rfl⟩
  · have oidIs :
        (ObjectIdentifier.newUnwrap [1, 3, 14, 3, 2, 26]).body =
          certIdHashAlgorithmOid := by
      decide
    rw [oidIs]
    rfl

theorem IsCertId.consists
    (isCertId : IsCertId certId nameHash keyHash serial) :
    Consists (encodeElements (certIdElements nameHash keyHash serial))
      (certIdElements nameHash keyHash serial) := by
  refine ⟨rfl, ?_⟩
  intro element member
  simp only [certIdElements, List.mem_cons, List.not_mem_nil, or_false]
    at member
  rcases member with rfl | rfl | rfl | rfl
  · decide
  · apply readable_of_lowTag (by decide)
    rw [isCertId.name]
    decide
  · apply readable_of_lowTag (by decide)
    rw [isCertId.key]
    decide
  · apply readable_of_lowTag (by decide)
    exact
      (length_lt_encodeElement _).trans
        (isCertId.serial.trans (by decide))

/-- A `CertID` is read where it stands in front of other fields. -/
theorem IsCertId.parse
    (isCertId : IsCertId certId nameHash keyHash serial) (rest : Bytes) :
    parseTlvWithRest (certId ++ rest) =
      .ok
        (0x30, encodeElements (certIdElements nameHash keyHash serial), rest) := by
  have readable :
      Readable
        (0x30, encodeElements (certIdElements nameHash keyHash serial)) := by
    apply readable_of_lowTag (by decide)
    have algorithm :
        (encodeElement (0x30, encodeElements algorithmElements)).length = 11 :=
      rfl
    have name := length_encodeElement_le (0x04, nameHash)
    have key := length_encodeElement_le (0x04, keyHash)
    have small := isCertId.serial
    simp only [isCertId.name] at name
    simp only [isCertId.key] at key
    simp only [certIdElements, encodeElements_cons, encodeElements_nil,
      List.length_append, List.length_nil, algorithm]
    omega
  rw [isCertId.octets]
  exact readable.parse rest

/-- What is read from a `CertID` is what it was built from. -/
theorem IsCertId.parseCertId
    (isCertId : IsCertId certId nameHash keyHash serial) :
    parseCertId (encodeElements (certIdElements nameHash keyHash serial)) =
      .ok
        (certIdHashAlgorithmOid, nameHash, keyHash,
          parseIntegerBody serial) := by
  rcases Consists.cons_iff.mp isCertId.consists with
    ⟨afterAlgorithm, algorithm, hashes⟩
  rcases Consists.cons_iff.mp hashes with ⟨afterName, name, keyAndSerial⟩
  rcases Consists.cons_iff.mp keyAndSerial with ⟨afterKey, key, last⟩
  rcases Consists.cons_iff.mp last with ⟨afterSerial, number, _⟩
  have oid :
      parseTlvWithRest (encodeElements algorithmElements) =
        .ok (0x06, certIdHashAlgorithmOid, [0x05, 0x00]) := by
    decide
  simp only [OcspResponse.parseCertId, bind_eq_ok, expectTlv_eq_ok, Prod.exists,
    pure_eq_ok]
  exact
    ⟨_, _, algorithm, _, _, oid, _, _, name, _, _, key, _, _, number, rfl⟩

/-! ## The other fields of an entry -/

/-- An optional `nextUpdate`, as its element and its instant. -/
inductive NextUpdateField : List Element → Option DateTime → Prop where
  | absent : NextUpdateField [] none
  | present (body : Bytes) (instant : DateTime)
      (time : parseGeneralizedTime body = .ok instant) :
      NextUpdateField [(0xA0, encodeElement (0x18, body))] (some instant)

/-- Optional extensions that are accepted in an entry. -/
inductive ExtensionsField (crates : Crates) : List Element → Prop where
  | absent : ExtensionsField crates []
  | present (body : Bytes)
      (accepted : Accepts (parseOcspExtensions crates body false)) :
      ExtensionsField crates [(0xA1, body)]

/-- The octets behind a `CertID` are the other fields of an entry. -/
def Remainder (crates : Crates) (octets : Bytes) (certStatus : CertStatus)
    (thisUpdate : DateTime) (nextUpdate : Option DateTime) : Prop :=
  ∃ statusTag statusBody timeBody next extensions,
    Consists octets
        ((statusTag, statusBody) :: (0x18, timeBody) ::
          (next ++ extensions)) ∧
      parseCertStatus statusTag statusBody = .ok certStatus ∧
      parseGeneralizedTime timeBody = .ok thisUpdate ∧
      NextUpdateField next nextUpdate ∧ ExtensionsField crates extensions

/-- Where there are extensions their tag is not that of a `nextUpdate`. -/
theorem ExtensionsField.head?_ne
    {extensions : List Element}
    (field : ExtensionsField crates.toCrates extensions) :
    extensions.head?.map Prod.fst ≠ some 0xA0 := by
  cases field with
  | absent => simp
  | present => simp

/-- A `nextUpdate` is read where nothing behind it is announced as one. -/
theorem parseSingleNextUpdate_of_field
    {next others : List Element} {nextUpdate : Option DateTime}
    {octets : Bytes}
    (field : NextUpdateField next nextUpdate)
    (notAnnounced : others.head?.map Prod.fst ≠ some 0xA0)
    (consists : Consists octets (next ++ others)) :
    ∃ after,
      parseSingleNextUpdate octets = .ok (nextUpdate, after) ∧
        Consists after others := by
  cases field with
  | absent =>
      have absent : octets.head? ≠ some 0xA0 := by
        rw [consists.head?_eq]
        exact notAnnounced
      rw [parseSingleNextUpdate, if_neg absent]
      exact ⟨octets, rfl, consists⟩
  | present body instant time =>
      rcases Consists.field consists with ⟨after, starts, wrapped, later⟩
      have inner := parse_of_wrapped consists (by decide)
      refine ⟨after, ?_, later⟩
      rw [parseSingleNextUpdate, if_pos starts]
      simp only [bind_eq_ok, mapError_eq_ok, Prod.exists]
      refine ⟨_, _, _, wrapped, _, _, _, inner, ?_⟩
      rw [if_pos rfl, time]
      rfl

/-- Extensions at the end are read as what stands in them. -/
theorem parseTrailingExtensions_of_read
    {crates : Crates} {responseLevel : Bool} {body octets : Bytes}
    {nonce : Option Bytes}
    (read : parseOcspExtensions crates body responseLevel = .ok nonce)
    (field : String) (consists : Consists octets [(0xA1, body)]) :
    parseTrailingExtensions crates field responseLevel octets =
      .ok nonce := by
  rcases Consists.cons_iff.mp consists with ⟨after, parsed, later⟩
  have nonempty : octets ≠ [] := by
    rintro rfl
    cases parsed
  simp only [parseTrailingExtensions, if_pos nonempty, bind_eq_ok,
    mapError_eq_ok, rejectIf_eq_ok, exists_const, Prod.exists, not_or,
    ne_eq, not_not]
  exact ⟨0xA1, body, after, parsed, ⟨rfl, Consists.nil_iff.mp later⟩, read⟩

theorem parseTrailingExtensions_of_field
    {extensions : List Element} {octets : Bytes}
    (field : ExtensionsField crates.toCrates extensions)
    (consists : Consists octets extensions) :
    Accepts
      (parseTrailingExtensions crates.toCrates "singleExtensions" false
        octets) := by
  cases field with
  | absent =>
      rw [Consists.nil_iff] at consists
      subst consists
      exact ⟨none, rfl⟩
  | present body accepted =>
      rcases accepted with ⟨nonce, read⟩
      exact ⟨nonce, parseTrailingExtensions_of_read read _ consists⟩

/-! ## Reading a name back -/

section Entries

variable {certStatus : CertStatus} {thisUpdate : DateTime}
variable {nextUpdate : Option DateTime}

/-- An entry with the name and well-formed other fields is read. -/
theorem parseSingleResponse_of_isCertId
    (isCertId : IsCertId certId nameHash keyHash serial)
    (remainder :
      Remainder crates.toCrates rest certStatus thisUpdate nextUpdate) :
    parseSingleResponse crates.toCrates (certId ++ rest) =
      .ok
        ⟨certIdHashAlgorithmOid, nameHash, keyHash, parseIntegerBody serial,
          certStatus, thisUpdate, nextUpdate⟩ := by
  rcases remainder with
    ⟨statusTag, statusBody, timeBody, next, extensions, consists, status, time,
      nextField, extensionsField⟩
  rcases Consists.cons_iff.mp consists with ⟨afterStatus, statusRead, times⟩
  rcases Consists.cons_iff.mp times with ⟨afterTime, timeRead, later⟩
  rcases
      parseSingleNextUpdate_of_field nextField extensionsField.head?_ne
        later with
    ⟨afterNext, nextRead, last⟩
  rcases parseTrailingExtensions_of_field extensionsField last with
    ⟨nonce, extensionsRead⟩
  simp only [parseSingleResponse, bind_eq_ok, mapError_eq_ok, pure_eq_ok,
    Prod.exists, expectTagged_eq_ok]
  exact
    ⟨_, _, isCertId.parse rest, _, _, _, _, isCertId.parseCertId, _, _, _,
      statusRead, _, status, _, _, timeRead, _, time, _, _, nextRead, _,
      extensionsRead, rfl⟩

/-- Whatever else an entry says, the name in front is the name it has. -/
theorem named_of_parseSingleResponse
    {response : SingleResponse}
    (isCertId : IsCertId certId nameHash keyHash serial)
    (read :
      parseSingleResponse crates.toCrates (certId ++ rest) = .ok response) :
    response.serialNumber = parseIntegerBody serial := by
  simp only [parseSingleResponse, bind_eq_ok, mapError_eq_ok, pure_eq_ok,
    Prod.exists, expectTagged_eq_ok] at read
  rcases read with
    ⟨body, after, front, oid, name, key, number, fields, _, _, _, _, _, _, _,
      _, _, _, _, _, _, _, _, _, rfl⟩
  rw [isCertId.parse rest] at front
  cases front
  rw [isCertId.parseCertId] at fields
  cases fields
  rfl

end Entries

/-- A serial number compares as equal with itself. -/
theorem integerBodiesEqual_self (body : Bytes) :
    integerBodiesEqual body body = true := by
  rw [integerBodiesEqual, beq_iff_eq]

/-- Numbers that are not negative and differ do not compare as equal. -/
theorem integerBodiesEqual_of_ne
    {left right : Bytes}
    (leftNonnegative : 0 ≤ integerValue left)
    (rightNonnegative : 0 ≤ integerValue right)
    (different : integerValue left ≠ integerValue right) :
    integerBodiesEqual (parseIntegerBody left) (parseIntegerBody right) =
      false := by
  rw [Bool.eq_false_iff]
  intro equal
  have same := bigEndian_eq_of_integerBodiesEqual equal
  apply different
  rw [(integerValue_nonneg_iff left).mp leftNonnegative, same,
    (integerValue_nonneg_iff right).mp rightNonnegative]

/-- The first entry that has the name, with SHA-1 hashes, is selected. -/
theorem findMatchingResponse_append
    {key : CertKey} {earlier : List SingleResponse}
    (others : ∀ other ∈ earlier, key.names other = false)
    (response : SingleResponse)
    (names : key.names response = true)
    (algorithm : response.hashAlgorithmOid = certIdHashAlgorithmOid)
    (later : List SingleResponse) :
    findMatchingResponse (earlier ++ response :: later) key =
      .ok (some response) := by
  have skipped : earlier.find? key.names = none := by
    rw [List.find?_eq_none]
    intro other member
    rw [others other member]
    exact Bool.false_ne_true
  rw [findMatchingResponse, List.find?_append, skipped, Option.none_or,
    List.find?_cons_of_pos names]
  simp [algorithm, rejectIf, pure, Except.pure]

theorem lookupResponse_of_found
    {key : CertKey} {responses : List SingleResponse}
    {response : SingleResponse}
    (expected : expectedCertKey crates.toCrates cert issuer = .ok key)
    (found : findMatchingResponse responses key = .ok (some response))
    (now : DateTime) (freshness : OcspFreshness)
    (delegatedResponder : Option Certificate) :
    lookupResponse crates.toCrates responses cert issuer now freshness
        delegatedResponder =
      (validateResponseFreshness crates.toCrates response now freshness).map
        fun _ => ⟨statusOfResponse response now, delegatedResponder⟩ := by
  rw [lookupResponse, expected, ok_bind, found, ok_bind]
  simp only
  cases validateResponseFreshness crates.toCrates response now freshness <;>
    rfl

/--
A `CertID` that is built is the name under which its certificate is looked up.
An entry that starts with it is read when its other fields are well formed, and
taken for the certificate if none before it has the name; an entry that starts
with the `CertID` of a certificate with another serial number never is.
-/
theorem certIds_agree
    (crates : RequestCrates)
    (standard : Standard crates)
    (cert issuer : Certificate)
    (certId : Bytes)
    (built : buildCertId crates cert issuer = .ok certId) :
    ∃ key,
      expectedCertKey crates.toCrates cert issuer = .ok key ∧
        (∀ rest certStatus thisUpdate nextUpdate,
          Remainder crates.toCrates rest certStatus thisUpdate nextUpdate →
            ∃ response,
              parseSingleResponse crates.toCrates (certId ++ rest) =
                  .ok response ∧
                response.certStatus = certStatus ∧
                response.thisUpdate = thisUpdate ∧
                response.nextUpdate = nextUpdate ∧
                ∀ earlier later,
                  (∀ other ∈ earlier, key.names other = false) →
                    findMatchingResponse (earlier ++ response :: later) key =
                        .ok (some response) ∧
                      ∀ now freshness delegatedResponder,
                        lookupResponse crates.toCrates
                            (earlier ++ response :: later) cert issuer now
                            freshness delegatedResponder =
                          (validateResponseFreshness crates.toCrates response
                              now freshness).map fun _ =>
                            ⟨statusOfResponse response now,
                              delegatedResponder⟩) ∧
        ∀ other otherId,
          buildCertId crates other issuer = .ok otherId →
            0 ≤ integerValue cert.tbsCertificate.serialNumber →
            0 ≤ integerValue other.tbsCertificate.serialNumber →
            integerValue cert.tbsCertificate.serialNumber ≠
                integerValue other.tbsCertificate.serialNumber →
              ∀ rest response,
                parseSingleResponse crates.toCrates (otherId ++ rest) =
                    .ok response →
                  ∀ responses selected,
                    findMatchingResponse responses key =
                        .ok (some selected) →
                      selected ≠ response := by
  rcases isCertId_of_buildCertId standard built with
    ⟨nameHash, keyHash, expected, isCertId⟩
  refine ⟨_, expected, ?_, ?_⟩
  · intro rest certStatus thisUpdate nextUpdate remainder
    refine
      ⟨_, parseSingleResponse_of_isCertId isCertId remainder, rfl, rfl, rfl, ?_⟩
    intro earlier later others
    have found :=
      findMatchingResponse_append others
        ⟨certIdHashAlgorithmOid, nameHash, keyHash,
          parseIntegerBody cert.tbsCertificate.serialNumber, certStatus,
          thisUpdate, nextUpdate⟩
        (by simp [CertKey.names, integerBodiesEqual_self]) rfl later
    exact ⟨found, lookupResponse_of_found expected found⟩
  · intro other otherId otherBuilt nonnegative otherNonnegative different rest
      response read responses selected found same
    rcases isCertId_of_buildCertId standard otherBuilt with
      ⟨otherName, otherKey, _, otherIsCertId⟩
    have names := List.find?_some (findMatchingResponse_eq_some found).1
    rw [same] at names
    simp only [CertKey.names, Bool.and_eq_true] at names
    have equal := names.2
    rw [named_of_parseSingleResponse otherIsCertId read,
      integerBodiesEqual_of_ne otherNonnegative nonnegative different.symm]
      at equal
    cases equal

/-! ### Entries about the leaf -/

section Leaf

open RitspLtv.Reference

/-- SHA-1 of the root's name. -/
def rootNameHash : Bytes :=
  [0x6E, 0xE4, 0xBF, 0x4E, 0xA7, 0x79, 0x25, 0xDB, 0x15, 0x2E,
    0x52, 0xAD, 0x2C, 0x69, 0xD2, 0xE3, 0xE8, 0x78, 0x54, 0x6A]

/-- SHA-1 of the root's key. -/
def rootKeyHash : Bytes :=
  [0xEB, 0x6B, 0x0E, 0x71, 0x65, 0xA8, 0x11, 0x8B, 0x4B, 0xD2,
    0xDE, 0x93, 0xFB, 0xE8, 0x18, 0x2D, 0xC5, 0x0F, 0xE8, 0xDE]

/-- The crates, with the encoders, and with SHA-1 where it is asked for. -/
def requestCrates : RequestCrates :=
  { Reference.crates known with
    digest := fun _ data =>
      if data = encodeName root.tbsCertificate.subject then .ok rootNameHash
      else if data = [0xA1] then .ok rootKeyHash
      else .error "digest is not known"
    serialNumberToDer := fun body =>
      if (encodeTlv 0x02 body).length < 2 ^ 28 then
        .ok (encodeTlv 0x02 body)
      else .error "ASN.1 DER message is too long"
    oidToDer := fun oid => .ok (encodeTlv 0x06 oid.body) }

theorem standard_requestCrates : Standard requestCrates where
  serialNumber := by
    intro body der written
    simp only [requestCrates] at written
    split at written
    · next short =>
        cases written
        exact ⟨rfl, short⟩
    · cases written
  oid := by
    intro oid der written
    cases written
    rfl
  sha1 := by
    intro data hash hashed
    simp only [requestCrates] at hashed
    split at hashed
    · cases hashed
      rfl
    · split at hashed
      · cases hashed
        rfl
      · cases hashed

/-- The `CertID` of a certificate of the root. -/
def rootCertId (serial : Bytes) : Bytes :=
  encodeElement
    (0x30, encodeElements (certIdElements rootNameHash rootKeyHash serial))

/-- A good status from 2026 to 2030. -/
def goodFields : List Element :=
  [(0x80, []), (0x18, asciiBytes "20260101000000Z"),
    (0xA0, encodeElement (0x18, asciiBytes "20300101000000Z"))]

/-- An entry about the leaf is found, and one about the responder is not. -/
theorem certIds_agree_leaf :
    ∃ key response,
      expectedCertKey requestCrates.toCrates leaf root = .ok key ∧
        parseSingleResponse requestCrates.toCrates
            (rootCertId [2] ++ encodeElements goodFields) =
          .ok response ∧
        findMatchingResponse [response] key = .ok (some response) ∧
        ∀ rest other,
          parseSingleResponse requestCrates.toCrates
              (rootCertId [4] ++ rest) =
              .ok other →
            findMatchingResponse [other] key ≠ .ok (some other) := by
  have remainder :
      Remainder requestCrates.toCrates (encodeElements goodFields) .good
        (utcFromDateTime (daysFromCivil 2026 1 1) 0)
        (some (utcFromDateTime (daysFromCivil 2030 1 1) 0)) :=
    ⟨0x80, [], asciiBytes "20260101000000Z", _, [],
      ⟨rfl, by decide +kernel⟩, rfl, by decide +kernel,
      .present (asciiBytes "20300101000000Z") _ (by decide +kernel), .absent⟩
  rcases
      certIds_agree requestCrates standard_requestCrates leaf root
        (rootCertId [2]) (by decide +kernel) with
    ⟨key, expected, selects, distinguishes⟩
  rcases selects _ _ _ _ remainder with ⟨response, read, _, _, _, selected⟩
  have alone := (selected [] [] (fun _ member => by cases member)).1
  refine ⟨key, response, expected, read, alone, ?_⟩
  intro rest other otherRead found
  exact
    distinguishes responder (rootCertId [4]) (by decide +kernel)
      (by decide +kernel) (by decide +kernel) (by decide +kernel) rest other
      otherRead [other] other found rfl

end Leaf

end RitspLtv.Ltv.CertIds
