import RitspLtv.Http
import RitspLtv.Ltv.CertIds
import RitspLtv.Ltv.NonceFormats

/-!
# OCSP requests

A request names one certificate and may carry a nonce.  Its octets leave no
doubt about either: the name is the one under which the certificate is looked up
in the response, and a responder that repeats the nonce extension as it stands
is understood, whatever the octets of the nonce look like.
-/

namespace RitspLtv.Ltv.OcspRequest

open RitspLtv.Foundation.Checks
open RitspLtv.Foundation.Conversation
open RitspLtv.RustStd
open RitspLtv.DerUtils
open RitspLtv.Http
open RitspLtv.TlvElements
open RitspLtv.TlvRoundTrip
open RitspLtv.Ltv.CertIds
open RitspLtv.Ltv.NonceFormats
open RitspLtv.Ltv.Ocsp
open RitspLtv.Ltv.OcspResponse

/-! ## Building a request -/

/-- `NONCE_SIZE`. -/
def nonceSize : Nat := 30

/-- `OCSP_NONCE_OID_BYTES`. -/
def ocspNonceOidBytes : Bytes :=
  [0x2B, 0x06, 0x01, 0x05, 0x05, 0x07, 0x30, 0x01, 0x02]

/-- An `OCSPRequest` for one certificate, behind it the extensions. -/
def encodeOcspRequest (certId : Bytes) (requestExtensions : List Bytes) :
    Bytes :=
  let request := encodeSequenceFromParts [certId]
  let requestList := encodeSequenceFromParts [request]
  let tbsRequest := encodeSequenceFromParts (requestList :: requestExtensions)
  encodeSequenceFromParts [tbsRequest]

/-- The `requestExtensions` with a nonce. -/
def nonceRequestExtensions (nonce : Bytes) : Bytes :=
  let nonceOidTlv := encodeTlv 0x06 ocspNonceOidBytes
  let nonceInner := encodeTlv 0x04 nonce
  let nonceOuter := encodeTlv 0x04 nonceInner
  let nonceExt := encodeSequenceFromParts [nonceOidTlv, nonceOuter]
  let extensionsSeq := encodeSequenceFromParts [nonceExt]
  encodeTlv 0xA2 extensionsSeq

section Building

variable (crates : RequestCrates)

/-- A request without a nonce. -/
def buildOcspRequest (cert issuer : Certificate) : Except LtvError Bytes := do
  let certId ← buildCertId crates cert issuer
  pure (encodeOcspRequest certId [])

def generateNonce : Task network LtvError Bytes := do
  let drawn ← randomBytes nonceSize
  Task.ofExcept (drawn.mapError .crypto)

/-- A request with a nonce that is drawn for it. -/
def buildOcspRequestWithNonce (cert issuer : Certificate) :
    Task network LtvError (Bytes × Bytes) := do
  let certId ← Task.ofExcept (buildCertId crates cert issuer)
  let nonce ← generateNonce
  pure (encodeOcspRequest certId [nonceRequestExtensions nonce], nonce)

end Building

/-! ## Layers -/

/-- Inside layers of one element each, with these tags, stands the content. -/
def Nests : List UInt8 → Bytes → Bytes → Prop
  | [], octets, content => octets = content
  | tag :: tags, octets, content =>
      ∃ body, Consists octets [(tag, body)] ∧ Nests tags body content

theorem Nests.unique
    {tags : List UInt8} {octets content other : Bytes}
    (nests : Nests tags octets content) (otherNests : Nests tags octets other) :
    content = other := by
  induction tags generalizing octets with
  | nil => exact nests.symm.trans otherNests
  | cons tag tags induction =>
      rcases nests with ⟨body, consists, inner⟩
      rcases otherNests with ⟨otherBody, otherConsists, otherInner⟩
      have same := List.singleton_injective (consists.unique otherConsists)
      cases same
      exact induction inner otherInner

theorem Nests.wrap
    {tag : UInt8} {tags : List UInt8} {body content : Bytes}
    (readable : Readable (tag, body)) (inner : Nests tags body content) :
    Nests (tag :: tags) (encodeElement (tag, body)) content :=
  ⟨body, Consists.singleton_iff.mpr ⟨readable, rfl⟩, inner⟩

/-! ## Reading a request -/

/-- The optional `requestExtensions`, as its elements and the nonce in it. -/
inductive NonceField : List Element → Option Bytes → Prop where
  | absent : NonceField [] none
  | present (body extension value nonce : Bytes)
      (extensions : Nests [0x30, 0x30] body extension)
      (fields :
        Consists extension [(0x06, ocspNonceOidBytes), (0x04, value)])
      (inner : Nests [0x04] value nonce) :
      NonceField [(0xA2, body)] (some nonce)

/-- The octets ask about one certificate, with a nonce if they have one. -/
def Asks (der nameHash keyHash serial : Bytes) (nonce : Option Bytes) : Prop :=
  ∃ tbs requestList certId extensions,
    Nests [0x30, 0x30] der tbs ∧
      Consists tbs ((0x30, requestList) :: extensions) ∧
      Nests [0x30, 0x30] requestList certId ∧
      Consists certId (certIdElements nameHash keyHash serial) ∧
      NonceField extensions nonce

theorem NonceField.unique
    {extensions : List Element} {nonce other : Option Bytes}
    (field : NonceField extensions nonce)
    (otherField : NonceField extensions other) : nonce = other := by
  cases field with
  | absent =>
      cases otherField
      rfl
  | present body extension value nonce nests fields inner =>
      cases otherField with
      | present _ otherExtension otherValue otherNonce otherNests otherFields
          otherInner =>
          have same := nests.unique otherNests
          subst same
          have values := fields.unique otherFields
          simp only [List.cons.injEq, Prod.mk.injEq, true_and, and_true]
            at values
          subst values
          rw [inner.unique otherInner]

/-- The octets determine the certificate and the nonce. -/
theorem Asks.unique
    {der nameHash keyHash serial otherName otherKey otherSerial : Bytes}
    {nonce otherNonce : Option Bytes}
    (asks : Asks der nameHash keyHash serial nonce)
    (otherAsks : Asks der otherName otherKey otherSerial otherNonce) :
    nameHash = otherName ∧ keyHash = otherKey ∧ serial = otherSerial ∧
      nonce = otherNonce := by
  rcases asks with
    ⟨tbs, requestList, certId, extensions, outer, fields, list, names, field⟩
  rcases otherAsks with
    ⟨_, _, _, _, otherOuter, otherFields, otherList, otherNames, otherField⟩
  have same := outer.unique otherOuter
  subst same
  have parts := fields.unique otherFields
  simp only [List.cons.injEq, Prod.mk.injEq, true_and] at parts
  rcases parts with ⟨rfl, rfl⟩
  have certIds := list.unique otherList
  subst certIds
  have elements := names.unique otherNames
  simp only [certIdElements, List.cons.injEq, Prod.mk.injEq, true_and,
    and_true] at elements
  exact
    ⟨elements.1, elements.2.1, elements.2.2, field.unique otherField⟩

/-! ## What is built is what is read -/

section Codec

variable {crates : RequestCrates} {cert issuer : Certificate}
variable {certId nameHash keyHash serial : Bytes}

/-- The octets of an optional nonce. -/
def nonceParts (nonce : Option Bytes) : List Bytes :=
  nonce.toList.map nonceRequestExtensions

theorem nonceParts_none : nonceParts none = [] :=
  rfl

theorem encodeSequenceFromParts_singleton (part : Bytes) :
    encodeSequenceFromParts [part] = encodeElement (0x30, part) := by
  rw [encodeSequenceFromParts, List.flatten_singleton]
  rfl

theorem readable_sequence
    {tag : UInt8} {body : Bytes} (low : LowTag tag)
    (short : body.length < 2 ^ 31) : Readable (tag, body) :=
  readable_of_lowTag low (short.trans (by decide))

/-- A nonce that is short enough is read from the octets of its extension. -/
theorem nonceField_of_length
    {nonce : Bytes} (short : nonce.length < 2 ^ 28) :
    ∃ body,
      nonceRequestExtensions nonce = encodeElement (0xA2, body) ∧
        body.length < 2 ^ 29 ∧ NonceField [(0xA2, body)] (some nonce) := by
  have inner := length_encodeElement_le (0x04, nonce)
  have outer := length_encodeElement_le (0x04, encodeElement (0x04, nonce))
  let fields : List Element :=
    [(0x06, ocspNonceOidBytes), (0x04, encodeElement (0x04, nonce))]
  have identifier :
      (encodeElement (0x06, ocspNonceOidBytes)).length = 11 :=
    rfl
  have extension : (encodeElements fields).length < 2 ^ 28 + 64 := by
    simp only [fields, encodeElements_cons, encodeElements_nil,
      List.length_append, List.length_nil, identifier] at inner outer ⊢
    omega
  have sequence := length_encodeElement_le (0x30, encodeElements fields)
  have list :=
    length_encodeElement_le
      (0x30, encodeElement (0x30, encodeElements fields))
  simp only at inner outer sequence list
  refine
    ⟨encodeElement (0x30, encodeElement (0x30, encodeElements fields)), ?_, ?_,
      .present _ (encodeElements fields) (encodeElement (0x04, nonce)) nonce
        ?_ ?_ ?_⟩
  · rw [nonceRequestExtensions, encodeSequenceFromParts_singleton,
      encodeSequenceFromParts]
    simp only [fields, encodeElements_cons, encodeElements_nil,
      List.flatten_cons, List.flatten_nil]
    rfl
  · omega
  · refine .wrap (readable_sequence (by decide) ?_) (.wrap ?_ rfl)
    · omega
    · exact readable_sequence (by decide) (by omega)
  · apply Consists.encode
    intro element member
    simp only [fields, List.mem_cons, List.not_mem_nil, or_false] at member
    rcases member with rfl | rfl
    · decide
    · exact readable_sequence (by decide) (by omega)
  · exact .wrap (readable_sequence (by decide) (by omega)) rfl

theorem length_certIdElements_lt
    (isCertId : IsCertId certId nameHash keyHash serial) :
    (encodeElements (certIdElements nameHash keyHash serial)).length <
      2 ^ 28 + 64 := by
  have algorithm :
      (encodeElement (0x30, encodeElements algorithmElements)).length = 11 :=
    rfl
  have name := length_encodeElement_le (0x04, nameHash)
  have key := length_encodeElement_le (0x04, keyHash)
  have small := isCertId.serial
  simp only [isCertId.name] at name
  simp only [isCertId.key] at key
  simp only [certIdElements, encodeElements_cons, encodeElements_nil,
    List.length_append, List.length_nil, algorithm]
  omega

/-- A request is read back, with the nonce if there is one. -/
theorem asks_of_isCertId
    {nonce : Option Bytes}
    (isCertId : IsCertId certId nameHash keyHash serial)
    (short : ∀ value ∈ nonce, value.length < 2 ^ 28) :
    Asks (encodeOcspRequest certId (nonceParts nonce)) nameHash keyHash serial
      nonce := by
  have names := length_certIdElements_lt isCertId
  have request :=
    length_encodeElement_le
      (0x30, encodeElements (certIdElements nameHash keyHash serial))
  rw [← isCertId.octets] at request
  have list := length_encodeElement_le (0x30, certId)
  have whole := length_encodeElement_le (0x30, encodeElement (0x30, certId))
  simp only at request list whole
  have extensions :
      ∃ fields,
        (nonceParts nonce).flatten = encodeElements fields ∧
          (encodeElements fields).length < 2 ^ 30 ∧
          (∀ element ∈ fields, Readable element) ∧
          NonceField fields nonce := by
    cases nonce with
    | none => exact ⟨[], rfl, by decide, by simp, .absent⟩
    | some value =>
        rcases nonceField_of_length (short value rfl) with
          ⟨body, octets, bounded, field⟩
        have header := length_encodeElement_le (0xA2, body)
        refine ⟨[(0xA2, body)], ?_, ?_, ?_, field⟩
        · rw [nonceParts, Option.toList_some, List.map_singleton,
            List.flatten_singleton, octets, encodeElements_cons,
            encodeElements_nil, List.append_nil]
        · rw [encodeElements_cons, encodeElements_nil, List.append_nil]
          simp only at header
          omega
        · intro element member
          rw [List.mem_singleton.mp member]
          exact readable_sequence (by decide) (by omega)
  rcases extensions with ⟨fields, octets, bounded, readable, field⟩
  have tbs :
      encodeOcspRequest certId (nonceParts nonce) =
        encodeElement
          (0x30,
            encodeElement
              (0x30,
                encodeElements
                  ((0x30, encodeElement (0x30, certId)) :: fields))) := by
    rw [encodeOcspRequest, encodeSequenceFromParts_singleton,
      encodeSequenceFromParts_singleton, encodeSequenceFromParts_singleton,
      encodeSequenceFromParts, List.flatten_cons, octets]
    rfl
  have body :
      (encodeElements
          ((0x30, encodeElement (0x30, certId)) :: fields)).length <
        2 ^ 30 + 2 ^ 29 := by
    rw [encodeElements_cons, List.length_append]
    omega
  have outer :=
    length_encodeElement_le
      (0x30, encodeElements ((0x30, encodeElement (0x30, certId)) :: fields))
  simp only at outer
  refine
    ⟨encodeElements ((0x30, encodeElement (0x30, certId)) :: fields),
      encodeElement (0x30, certId),
      encodeElements (certIdElements nameHash keyHash serial), fields, ?_, ?_,
      ?_, isCertId.consists, field⟩
  · rw [tbs]
    refine .wrap (readable_sequence (by decide) ?_) (.wrap ?_ rfl)
    · omega
    · exact readable_sequence (by decide) (by omega)
  · apply Consists.encode
    intro element member
    rcases List.mem_cons.mp member with rfl | later
    · exact readable_sequence (by decide) (by omega)
    · exact readable element later
  · refine .wrap (readable_sequence (by decide) (by omega)) ?_
    rw [isCertId.octets]
    exact .wrap (readable_sequence (by decide) (by omega)) rfl

/-- A nonce that is repeated as it was sent is recognised. -/
theorem echoAccepted_of_sent
    {nonce extArea : Bytes} (short : nonce.length < 2 ^ 32)
    (carries : CarriesNonce crates.toCrates extArea (octetString nonce)) :
    EchoAccepted crates.toCrates nonce extArea :=
  ⟨nonce, carries.parse.trans (by rw [nonceOfValue_octetString short]),
    validateNonce_eq_ok_iff.mpr (.inl rfl)⟩

theorem returns_generateNonce_ok_iff
    {exchanges : List (Exchange network)} {nonce : Bytes} :
    Task.Returns generateNonce exchanges (.ok nonce) ↔
      exchanges = [drew nonceSize (.ok nonce)] := by
  simp only [generateNonce, Task.returns_bind_ok_iff,
    returns_randomBytes_iff, Task.returns_ofExcept_iff, Except.ok.injEq]
  constructor
  · rintro ⟨drawn, _, _, rfl, ⟨_, rfl, rfl⟩, rfl, same⟩
    rw [mapError_eq_ok.mp same.symm]
    rfl
  · rintro rfl
    exact ⟨.ok nonce, _, [], rfl, ⟨_, rfl, rfl⟩, rfl, rfl⟩

theorem returns_buildOcspRequestWithNonce_ok_iff
    {exchanges : List (Exchange network)} {der nonce : Bytes} :
    Task.Returns (buildOcspRequestWithNonce crates cert issuer) exchanges
        (.ok (der, nonce)) ↔
      ∃ certId,
        buildCertId crates cert issuer = .ok certId ∧
          exchanges = [drew nonceSize (.ok nonce)] ∧
          der = encodeOcspRequest certId (nonceParts (some nonce)) := by
  simp only [buildOcspRequestWithNonce, Task.returns_bind_ok_iff,
    Task.returns_ofExcept_iff, Task.returns_pure_iff, Except.ok.injEq,
    returns_generateNonce_ok_iff, Prod.mk.injEq]
  constructor
  · rintro ⟨certId, _, _, rfl, ⟨rfl, built⟩, _, _, _, rfl, rfl, rfl, rfl, rfl⟩
    exact ⟨certId, built.symm, rfl, rfl⟩
  · rintro ⟨certId, built, rfl, rfl⟩
    exact
      ⟨certId, [], _, rfl, ⟨rfl, built.symm⟩, nonce, _, [], rfl, rfl, rfl, rfl,
        rfl⟩

end Codec

/-- What is asked is about the certificate, under the name it is looked up by. -/
def AsksAbout (crates : RequestCrates) (cert issuer : Certificate)
    (der : Bytes) (nonce : Option Bytes) : Prop :=
  ∃ nameHash keyHash,
    expectedCertKey crates.toCrates cert issuer =
        .ok
          ⟨nameHash, keyHash,
            parseIntegerBody cert.tbsCertificate.serialNumber⟩ ∧
      Asks der nameHash keyHash cert.tbsCertificate.serialNumber nonce

/--
A request is read back as the name under which its certificate is looked up in
the response and as the nonce that was drawn for it, and requests with the same
octets have the same of both.  A responder that repeats the extension of the
request is understood, whatever the nonce.
-/
theorem ocspRequest_codec
    (crates : RequestCrates) (standard : Standard crates) :
    (∀ cert issuer der,
      buildOcspRequest crates cert issuer = .ok der →
        AsksAbout crates cert issuer der none) ∧
      (∀ cert issuer exchanges der nonce,
        Task.Returns (buildOcspRequestWithNonce crates cert issuer) exchanges
            (.ok (der, nonce)) →
          nonce.length = nonceSize →
            exchanges = [drew nonceSize (.ok nonce)] ∧
              AsksAbout crates cert issuer der (some nonce) ∧
              ∀ extArea,
                CarriesNonce crates.toCrates extArea (octetString nonce) →
                  EchoAccepted crates.toCrates nonce extArea) ∧
      ∀ cert issuer otherCert otherIssuer der nonce otherNonce,
        AsksAbout crates cert issuer der nonce →
          AsksAbout crates otherCert otherIssuer der otherNonce →
            expectedCertKey crates.toCrates cert issuer =
                expectedCertKey crates.toCrates otherCert otherIssuer ∧
              cert.tbsCertificate.serialNumber =
                otherCert.tbsCertificate.serialNumber ∧
              nonce = otherNonce := by
  refine ⟨?_, ?_, ?_⟩
  · intro cert issuer der built
    simp only [buildOcspRequest, bind_eq_ok, pure_eq_ok] at built
    rcases built with ⟨certId, named, rfl⟩
    rcases isCertId_of_buildCertId standard named with
      ⟨nameHash, keyHash, expected, isCertId⟩
    have asks :
        Asks (encodeOcspRequest certId (nonceParts none)) nameHash keyHash
          cert.tbsCertificate.serialNumber none := by
      apply asks_of_isCertId isCertId
      intro value impossible
      cases impossible
    rw [nonceParts_none] at asks
    exact ⟨nameHash, keyHash, expected, asks⟩
  · intro cert issuer exchanges der nonce returned sized
    rcases returns_buildOcspRequestWithNonce_ok_iff.mp returned with
      ⟨certId, named, drawn, rfl⟩
    rcases isCertId_of_buildCertId standard named with
      ⟨nameHash, keyHash, expected, isCertId⟩
    have short : nonce.length < 2 ^ 28 := by
      rw [sized]
      decide
    refine ⟨drawn, ⟨nameHash, keyHash, expected, ?_⟩, ?_⟩
    · apply asks_of_isCertId isCertId
      intro value same
      rw [← Option.mem_some_iff.mp same]
      exact short
    · intro extArea carries
      exact echoAccepted_of_sent (short.trans (by decide)) carries
  · rintro cert issuer otherCert otherIssuer der nonce otherNonce
      ⟨nameHash, keyHash, expected, asks⟩
      ⟨otherName, otherKey, otherExpected, otherAsks⟩
    rcases asks.unique otherAsks with ⟨rfl, rfl, serial, nonces⟩
    rw [expected, otherExpected, serial]
    exact ⟨rfl, rfl, nonces⟩

/-! ### A request about the leaf -/

section Leaf

open RitspLtv.Reference

/-- A nonce that looks like an OCTET STRING. -/
def leafNonce : Bytes :=
  ambiguousNonce

/-- The request about the leaf, with this nonce. -/
def leafRequest : Bytes :=
  encodeOcspRequest (rootCertId [2]) (nonceParts (some leafNonce))

theorem buildCertId_leaf :
    buildCertId requestCrates leaf root = .ok (rootCertId [2]) := by
  decide +kernel

theorem returns_leafRequest :
    Task.Returns (buildOcspRequestWithNonce requestCrates leaf root)
      [drew nonceSize (.ok leafNonce)] (.ok (leafRequest, leafNonce)) :=
  returns_buildOcspRequestWithNonce_ok_iff.mpr
    ⟨rootCertId [2], buildCertId_leaf, rfl, rfl⟩

/-- The request about the leaf asks for it, also with a nonce like this. -/
theorem ocspRequest_codec_leaf :
    AsksAbout requestCrates leaf root leafRequest (some leafNonce) ∧
      ∀ extArea,
        CarriesNonce requestCrates.toCrates extArea (octetString leafNonce) →
          EchoAccepted requestCrates.toCrates leafNonce extArea :=
  ((ocspRequest_codec requestCrates standard_requestCrates).2.1 leaf root
    [drew nonceSize (.ok leafNonce)] leafRequest leafNonce returns_leafRequest
    (by decide)).2

end Leaf

end RitspLtv.Ltv.OcspRequest
