import RitspLtv.Ltv.CertIds
import RitspLtv.Ltv.NonceFormats

/-!
# The octets of an OCSP response

Which octets are a response of the documented form, and what they say, stated
without the parser.  Every one of them is accepted, and read as what it says.
-/

namespace RitspLtv.Ltv.OcspCodec

open RitspLtv.Foundation.Checks
open RitspLtv.Foundation.Consume
open RitspLtv.RustStd
open RitspLtv.Chrono
open RitspLtv.DerUtils
open RitspLtv.TlvElements
open RitspLtv.TlvRoundTrip
open RitspLtv.Ltv.CertIds
open RitspLtv.Ltv.NonceFormats
open RitspLtv.Ltv.OcspCompleteness
open RitspLtv.Ltv.OcspResponse
open RitspLtv.Ltv.OcspSoundness
open RitspLtv.Ltv.Status

variable {crates : Crates}

/-! ## Fields of an entry -/

/-- The contents of a `CertID`: a hash algorithm, two hashes, and a serial number. -/
def CertIdForm (body oid nameHash keyHash serial : Bytes) : Prop :=
  ∃ algorithm parameters,
    Consists body
        [(0x30, algorithm), (0x04, nameHash), (0x04, keyHash),
          (0x02, serial)] ∧
      Consists algorithm ((0x06, oid) :: parameters)

/-- An optional reason of a revocation. -/
inductive ReasonField : List Element → RevocationReason → Prop where
  | absent : ReasonField [] .unspecified
  | present (code : UInt8) :
      ReasonField [(0xA0, encodeElement (0x0A, [code]))] (.fromCode code)

/-- The status of a certificate. -/
inductive StatusField : Element → CertStatus → Prop where
  | good : StatusField (0x80, []) .good
  | unknown : StatusField (0x82, []) .unknown
  | revoked (body timeBody : Bytes) (instant : DateTime)
      (reasons : List Element) (reason : RevocationReason)
      (consists : Consists body ((0x18, timeBody) :: reasons))
      (time : parseGeneralizedTime timeBody = .ok instant)
      (field : ReasonField reasons reason) :
      StatusField (0xA1, body) (.revoked instant reason)

/-- Optional extensions, and the nonce among them. -/
inductive OcspExtensions (crates : Crates) (responseLevel : Bool) :
    List Element → Option Bytes → Prop where
  | absent : OcspExtensions crates responseLevel [] none
  | present (body : Bytes) (extensions : List Extension)
      (decoded : crates.extensionsFromDer body = .ok extensions)
      (nonempty : extensions ≠ [])
      (distinct : (extensions.map Extension.extnId).Nodup)
      (each : ∀ extension ∈ extensions, Permitted responseLevel extension) :
      OcspExtensions crates responseLevel [(0xA1, body)]
        (nonceAmong none extensions)

/-- An entry about one certificate. -/
def EntryForm (crates : Crates) (entry : Element)
    (response : SingleResponse) : Prop :=
  entry.1 = 0x30 ∧
    ∃ certId serial status timeBody next extensions nonce,
      Consists entry.2
          ((0x30, certId) :: status :: (0x18, timeBody) ::
            (next ++ extensions)) ∧
        CertIdForm certId response.hashAlgorithmOid response.issuerNameHash
          response.issuerKeyHash serial ∧
        response.serialNumber = parseIntegerBody serial ∧
        StatusField status response.certStatus ∧
        parseGeneralizedTime timeBody = .ok response.thisUpdate ∧
        NextUpdateField next response.nextUpdate ∧
        OcspExtensions crates false extensions nonce

theorem CertIdForm.parse
    {body oid nameHash keyHash serial : Bytes}
    (form : CertIdForm body oid nameHash keyHash serial) :
    parseCertId body =
      .ok (oid, nameHash, keyHash, parseIntegerBody serial) := by
  rcases form with ⟨algorithm, parameters, consists, identified⟩
  rcases Consists.cons_iff.mp consists with
    ⟨afterAlgorithm, algorithmRead, hashes⟩
  rcases Consists.cons_iff.mp hashes with ⟨afterName, name, keyAndSerial⟩
  rcases Consists.cons_iff.mp keyAndSerial with ⟨afterKey, key, last⟩
  rcases Consists.cons_iff.mp last with ⟨afterSerial, number, _⟩
  rcases Consists.cons_iff.mp identified with ⟨afterOid, oidRead, _⟩
  simp only [parseCertId, bind_eq_ok, expectTlv_eq_ok, Prod.exists,
    pure_eq_ok]
  exact
    ⟨_, _, algorithmRead, _, _, oidRead, _, _, name, _, _, key, _, _, number,
      rfl⟩

theorem ReasonField.parse
    {reasons : List Element} {reason : RevocationReason} {rest : Bytes}
    (field : ReasonField reasons reason)
    (consists : Consists rest reasons) :
    OcspResponse.parseRevocationReason rest = .ok reason := by
  cases field with
  | absent =>
      rw [Consists.nil_iff.mp consists]
      rfl
  | present code =>
      rcases Consists.field consists with ⟨after, starts, parsed, _⟩
      have inner : Consists (encodeElement (0x0A, [code])) [(0x0A, [code])] :=
        Consists.singleton_iff.mpr
          ⟨⟨show LowTag 0x0A by decide, by simp⟩, rfl⟩
      have found :
          findTaggedValue (encodeElement (0x0A, [code])) 0x0A =
            some [code] := by
        rw [findTaggedValue_of_consists 0x0A inner]
        rfl
      rw [OcspResponse.parseRevocationReason, if_pos starts, parsed,
        mapError_ok, ok_bind]
      simp only [found]
      rfl

theorem StatusField.parse
    {status : Element} {certStatus : CertStatus}
    (field : StatusField status certStatus) :
    parseCertStatus status.1 status.2 = .ok certStatus := by
  cases field with
  | good => rfl
  | unknown => rfl
  | revoked body timeBody instant reasons reason consists time field =>
      rcases Consists.cons_iff.mp consists with ⟨rest, timeRead, later⟩
      show parseRevokedInfo body = _
      simp only [parseRevokedInfo, bind_eq_ok, mapError_eq_ok, pure_eq_ok,
        Prod.exists, expectTagged_eq_ok]
      exact
        ⟨timeBody, rest, timeRead, instant, time, reason, field.parse later,
          rfl⟩

theorem OcspExtensions.parse
    {responseLevel : Bool} {extensions : List Element}
    {nonce : Option Bytes} {pos : Bytes}
    (form : OcspExtensions crates responseLevel extensions nonce)
    (field : String) (consists : Consists pos extensions) :
    parseTrailingExtensions crates field responseLevel pos = .ok nonce := by
  cases form with
  | absent =>
      rw [Consists.nil_iff.mp consists]
      rfl
  | present body extensions decoded nonempty distinct each =>
      have read : parseOcspExtensions crates body responseLevel =
          .ok (nonceAmong none extensions) :=
        parseOcspExtensions_eq_ok_iff.mpr
          ⟨extensions, decoded, nonempty, distinct, each, rfl⟩
      exact parseTrailingExtensions_of_read read field consists

/-- Extensions are not announced as a `nextUpdate`. -/
theorem OcspExtensions.head?_ne
    {responseLevel : Bool} {extensions : List Element}
    {nonce : Option Bytes}
    (form : OcspExtensions crates responseLevel extensions nonce) :
    extensions.head?.map Prod.fst ≠ some 0xA0 := by
  cases form with
  | absent => simp
  | present => simp

/-- An entry of the documented form is read as what it says. -/
theorem parseSingleResponse_reads
    {entry : Element} {response : SingleResponse}
    (form : EntryForm crates entry response) :
    parseSingleResponse crates entry.2 = .ok response := by
  rcases form with
    ⟨_, certId, serial, status, timeBody, next, extensions, nonce, consists,
      named, serialIs, statusForm, time, nextForm, extensionsForm⟩
  rcases Consists.cons_iff.mp consists with ⟨afterCertId, certIdRead, fields⟩
  rcases Consists.cons_iff.mp fields with ⟨afterStatus, statusRead, times⟩
  rcases Consists.cons_iff.mp times with ⟨afterTime, timeRead, later⟩
  rcases
      parseSingleNextUpdate_of_field nextForm extensionsForm.head?_ne
        later with
    ⟨afterNext, nextRead, last⟩
  have extensionsRead := extensionsForm.parse "singleExtensions" last
  simp only [parseSingleResponse, bind_eq_ok, mapError_eq_ok, pure_eq_ok,
    Prod.exists, expectTagged_eq_ok]
  refine
    ⟨_, _, certIdRead, _, _, _, _, named.parse, _, _, _, statusRead, _,
      statusForm.parse, _, _, timeRead, _, time, _, _, nextRead, _,
      extensionsRead, ?_⟩
  rw [← serialIs]

/-! ## The signed part -/

/-- An optional version. -/
inductive VersionField : List Element → Prop where
  | absent : VersionField []
  | present (body : Bytes) : VersionField [(0xA0, body)]

/-- The identity of the responder: its name, or the hash of its key. -/
inductive ResponderField : Element → ResponderId → Prop where
  | byName (nameDer : Bytes) :
      ResponderField (0xA1, nameDer) (.byName nameDer)
  | byKeyHash (keyHash : Bytes) :
      ResponderField (0xA2, encodeElement (0x04, keyHash))
        (.byKeyHash keyHash)

/-- The contents of the signed part. -/
def DataForm (crates : Crates) (body : Bytes) (data : ResponseData) : Prop :=
  ∃ version responder timeBody entriesBody entries extensions,
    Consists body
        (version ++
          (responder :: (0x18, timeBody) :: (0x30, entriesBody) ::
            extensions)) ∧
      VersionField version ∧
      ResponderField responder data.responderId ∧
      parseGeneralizedTime timeBody = .ok data.producedAt ∧
      Consists entriesBody entries ∧
      List.Forall₂ (EntryForm crates) entries data.responses ∧
      OcspExtensions crates true extensions data.nonce

theorem parseResponseVersion_reads
    {version others : List Element} {responder : Element}
    {responderId : ResponderId} {pos : Bytes}
    (field : VersionField version)
    (responderField : ResponderField responder responderId)
    (consists : Consists pos (version ++ (responder :: others))) :
    ∃ rest,
      parseResponseVersion pos = .ok rest ∧
        Consists rest (responder :: others) := by
  cases field with
  | absent =>
      have absent : pos.head? ≠ some 0xA0 := by
        rw [consists.head?_eq]
        cases responderField <;> simp
      rw [parseResponseVersion, if_neg absent]
      exact ⟨pos, rfl, consists⟩
  | present body =>
      rcases Consists.field consists with ⟨rest, starts, parsed, later⟩
      rw [parseResponseVersion, if_pos starts, parsed]
      exact ⟨rest, rfl, later⟩

theorem parseResponderId_reads
    {responder : Element} {responderId : ResponderId}
    {others : List Element} {pos : Bytes}
    (field : ResponderField responder responderId)
    (consists : Consists pos (responder :: others)) :
    ∃ rest,
      parseResponderId pos = .ok (responderId, rest) ∧
        Consists rest others := by
  cases field with
  | byName nameDer =>
      rcases Consists.field consists with ⟨rest, starts, parsed, later⟩
      rw [parseResponderId, if_pos starts, parsed]
      exact ⟨rest, rfl, later⟩
  | byKeyHash keyHash =>
      rcases Consists.field consists with ⟨rest, starts, parsed, later⟩
      have inner := parse_of_wrapped consists (by decide)
      have notName : pos.head? ≠ some 0xA1 := by
        rw [starts]
        decide
      refine ⟨rest, ?_, later⟩
      simp only [parseResponderId, if_neg notName, if_pos starts, bind_eq_ok,
        mapError_eq_ok, pure_eq_ok, Prod.exists, Prod.mk.injEq,
        expectTagged_eq_ok]
      exact ⟨_, _, rest, parsed, keyHash, [], inner, rfl, rfl⟩

/-- The list of entries is read one for one. -/
theorem responses_of_entries
    {entriesBody : Bytes} {entries : List Element}
    {responses : List SingleResponse}
    (consists : Consists entriesBody entries)
    (forms : List.Forall₂ (EntryForm crates) entries responses) :
    consume (singleResponseStep crates) [] entriesBody = .ok responses := by
  apply (consume_select_iff handles_singleResponseStep).mpr
  refine ⟨entries, consists, ?_⟩
  have sequences :
      (entries.filter fun entry => decide (entry.1 = 0x30)) = entries := by
    rw [List.filter_eq_self]
    intro entry member
    rcases List.mem_iff_get.mp member with ⟨index, rfl⟩
    have inside : index.1 < responses.length := forms.length_eq ▸ index.2
    exact decide_eq_true (forms.get index.2 inside).1
  rw [sequences]
  exact forms.imp fun entry response form => parseSingleResponse_reads form

theorem parseResponseData_reads
    {body : Bytes} {data : ResponseData}
    (form : DataForm crates body data) :
    parseResponseData crates body = .ok data := by
  rcases form with
    ⟨version, responder, timeBody, entriesBody, entries, extensions, consists,
      versionForm, responderForm, time, entriesConsist, forms,
      extensionsForm⟩
  rcases parseResponseVersion_reads versionForm responderForm consists with
    ⟨afterVersion, versionRead, fields⟩
  rcases parseResponderId_reads responderForm fields with
    ⟨afterResponder, responderRead, times⟩
  rcases Consists.cons_iff.mp times with ⟨afterTime, timeRead, lists⟩
  rcases Consists.cons_iff.mp lists with ⟨afterEntries, entriesRead, last⟩
  have looped := responses_of_entries entriesConsist forms
  have extensionsRead := extensionsForm.parse "responseExtensions" last
  simp only [parseResponseData, bind_eq_ok, mapError_eq_ok, pure_eq_ok,
    Prod.exists, expectTagged_eq_ok]
  exact
    ⟨_, versionRead, _, _, responderRead, _, _, timeRead, _, time, _, _,
      entriesRead, _, looped, _, extensionsRead, rfl⟩

/-! ## The response -/

/-- Optional embedded certificates, each with its header. -/
inductive CertsField : List Element → List Bytes → Prop where
  | absent : CertsField [] []
  | present (body : Bytes) (certs : List Bytes)
      (consists : Consists body (certs.map fun cert => (0x30, cert))) :
      CertsField [(0xA0, encodeElement (0x30, body))]
        (certs.map fun cert => encodeElement (0x30, cert))

/-- The contents of a basic response. -/
def BasicForm (crates : Crates) (body : Bytes)
    (parsed : ParsedBasicOcspResponse) : Prop :=
  ∃ signed algorithm unused certs,
    Consists body
        ((0x30, signed) :: (0x30, algorithm) ::
          (0x03, unused :: parsed.signatureBytes) :: certs) ∧
      parsed.tbsResponseData = encodeElement (0x30, signed) ∧
      crates.algorithmIdentifierFromDer (encodeElement (0x30, algorithm)) =
        .ok parsed.signatureAlgorithm ∧
      DataForm crates signed
        ⟨parsed.responderId, parsed.producedAt, parsed.responses,
          parsed.nonce⟩ ∧
      CertsField certs parsed.embeddedCertsDer

/-- The octets of a successful response, layer by layer. -/
def ResponseForm (crates : Crates) (der : Bytes)
    (parsed : ParsedBasicOcspResponse) : Prop :=
  ∃ response responseBytes typed basicDer basic,
    Consists der [(0x30, response)] ∧
      Consists response [(0x0A, [0]), (0xA0, responseBytes)] ∧
      Consists responseBytes [(0x30, typed)] ∧
      Consists typed [(0x06, ocspBasicResponseOid), (0x04, basicDer)] ∧
      Consists basicDer [(0x30, basic)] ∧
      BasicForm crates basic parsed

/-- The loop over the certificates keeps every SEQUENCE with its header. -/
theorem handles_embeddedCertStep :
    Handles embeddedCertStep fun certs element next =>
      if decide (element.1 = 0x30) then
        ∃ cert, cert = encodeElement element ∧ next = certs ++ [cert]
      else next = certs := by
  intro certs input next rest
  simp only [embeddedCertStep, bind_eq_ok, mapError_eq_ok, Prod.exists,
    decide_eq_true_eq, exists_eq_left]
  constructor
  · rintro ⟨tag, body, after, parsed, read⟩
    split at read
    · next isSequence =>
        simp only [pure_eq_ok, Prod.mk.injEq] at read
        rcases read with ⟨rfl, rfl⟩
        refine ⟨tag, body, parsed, ?_⟩
        rw [if_pos isSequence, take_eq_encodeTlv parsed]
        rfl
    · next other =>
        cases read
        refine ⟨tag, body, parsed, ?_⟩
        rw [if_neg other]
  · rintro ⟨tag, body, parsed, handled⟩
    refine ⟨tag, body, rest, parsed, ?_⟩
    split at handled
    · next isSequence =>
        rw [if_pos isSequence, take_eq_encodeTlv parsed, handled]
        rfl
    · next other =>
        rw [if_neg other, handled]
        rfl

theorem parseEmbeddedCerts_reads
    {field : List Element} {certs : List Bytes} {pos : Bytes}
    (form : CertsField field certs) (consists : Consists pos field) :
    parseEmbeddedCerts pos = .ok certs := by
  cases form with
  | absent =>
      rw [Consists.nil_iff.mp consists]
      rfl
  | present body certs certsConsist =>
      rcases Consists.field consists with ⟨rest, starts, parsed, _⟩
      have inner := parse_of_wrapped consists (by decide)
      have nonempty : pos ≠ [] := by
        rintro rfl
        cases starts
      have sequences :
          ((certs.map fun cert => ((0x30, cert) : Element)).filter
            fun element => decide (element.1 = 0x30)) =
            certs.map fun cert => (0x30, cert) := by
        rw [List.filter_eq_self]
        intro element member
        rcases List.mem_map.mp member with ⟨cert, _, rfl⟩
        rfl
      have looped :
          consume embeddedCertStep [] body =
            .ok (certs.map fun cert => encodeElement (0x30, cert)) := by
        apply (consume_select_iff handles_embeddedCertStep).mpr
        refine ⟨_, certsConsist, ?_⟩
        rw [sequences, List.forall₂_map_left_iff, List.forall₂_map_right_iff,
          List.forall₂_same]
        intro cert _
        rfl
      simp only [parseEmbeddedCerts, if_pos nonempty, bind_eq_ok,
        mapError_eq_ok, Prod.exists]
      refine ⟨0xA0, _, rest, parsed, ?_⟩
      simp only [if_true, bind_eq_ok, mapError_eq_ok, Prod.exists,
        parseTlv_eq_ok_iff]
      refine ⟨0x30, body, ⟨[], inner⟩, ?_⟩
      rw [if_pos rfl]
      exact looped

theorem parseBasicOcspResponse_reads
    {der body : Bytes} {parsed : ParsedBasicOcspResponse}
    (outer : Consists der [(0x30, body)])
    (form : BasicForm crates body parsed) :
    parseBasicOcspResponse crates der = .ok parsed := by
  rcases form with
    ⟨signed, algorithm, unused, certs, consists, tbsIs, decoded, dataForm,
      certsForm⟩
  rcases Consists.cons_iff.mp outer with ⟨afterOuter, outerRead, _⟩
  rcases Consists.cons_iff.mp consists with ⟨afterTbs, tbsRead, fields⟩
  rcases Consists.cons_iff.mp fields with
    ⟨afterAlgorithm, algorithmRead, signatures⟩
  rcases Consists.cons_iff.mp signatures with
    ⟨afterSignature, signatureRead, last⟩
  have certsRead := parseEmbeddedCerts_reads certsForm last
  have dataRead := parseResponseData_reads dataForm
  simp only [parseBasicOcspResponse, bind_eq_ok, mapError_eq_ok,
    rejectIf_eq_ok, exists_const, pure_eq_ok, Prod.exists,
    expectTagged_eq_ok, parseTlv_eq_ok_iff, ne_eq, not_not]
  refine
    ⟨_, _, ⟨_, outerRead⟩, rfl, _, _, tbsRead, _, _, algorithmRead,
      parsed.signatureAlgorithm, ?_, _, _, signatureRead,
      List.cons_ne_nil _ _, _, certsRead, _, dataRead, ?_⟩
  · rw [take_eq_encodeTlv algorithmRead]
    exact decoded
  · rw [take_eq_encodeTlv tbsRead, List.drop_one, List.tail_cons]
    cases parsed
    simp only at tbsIs
    rw [tbsIs]
    rfl

theorem ResponseForm.parse
    {responseDer : Bytes} {parsed : ParsedBasicOcspResponse}
    (form : ResponseForm crates responseDer parsed) :
    parseOcspResponse crates responseDer = .ok parsed := by
  rcases form with
    ⟨response, responseBytes, typed, basicDer, basic, outer, layers, wrapped,
      typedForm, basicOuter, basicForm⟩
  rcases Consists.cons_iff.mp outer with ⟨afterOuter, outerRead, _⟩
  rcases Consists.cons_iff.mp layers with ⟨afterStatus, statusRead, later⟩
  rcases Consists.cons_iff.mp later with ⟨afterBytes, bytesRead, _⟩
  rcases Consists.cons_iff.mp wrapped with ⟨afterWrapped, wrappedRead, _⟩
  rcases Consists.cons_iff.mp typedForm with ⟨afterType, typeRead, basicField⟩
  rcases Consists.cons_iff.mp basicField with ⟨afterBasic, basicRead, _⟩
  have nonempty : afterStatus ≠ [] := by
    rintro rfl
    cases bytesRead
  have read := parseBasicOcspResponse_reads basicOuter basicForm
  simp only [parseOcspResponse, parseResponseStatus, bind_eq_ok,
    mapError_eq_ok, rejectIf_eq_ok, exists_const, pure_eq_ok, Prod.exists,
    expectTagged_eq_ok, expectTlv_eq_ok, parseTlv_eq_ok_iff, ne_eq, not_or,
    not_not]
  exact
    ⟨_, _, ⟨_, outerRead⟩, rfl, _,
      ⟨_, _, _, statusRead, ⟨rfl, List.cons_ne_nil _ _⟩, rfl, rfl⟩, nonempty,
      _, _, bytesRead, _, _, ⟨_, wrappedRead⟩, rfl, _, _, typeRead, rfl, _, _,
      basicRead, read⟩

/--
Every OCSP response of the documented form is accepted, and is read as what it
says: its responder, its instant, its entries one for one, each with its name,
status and times, its nonce and its certificates.  Its octets say nothing else.
-/
theorem parseOcspResponse_reads
    (crates : Crates)
    (responseDer : Bytes)
    (parsed : ParsedBasicOcspResponse)
    (form : ResponseForm crates responseDer parsed) :
    parseOcspResponse crates responseDer = .ok parsed ∧
      ∀ other, ResponseForm crates responseDer other → other = parsed := by
  have read := form.parse
  refine ⟨read, ?_⟩
  intro other otherForm
  have otherRead := otherForm.parse
  rw [read, Except.ok.injEq] at otherRead
  exact otherRead.symm

/-! ### An answer of the root -/

section Answer

open RitspLtv.Reference

/-- What the root says about the leaf. -/
def leafAnswer : SingleResponse :=
  ⟨certIdHashAlgorithmOid, rootNameHash, rootKeyHash, [2], .good,
    utcFromDateTime (daysFromCivil 2026 1 1) 0,
    some (utcFromDateTime (daysFromCivil 2030 1 1) 0)⟩

/-- The fields of the signed part, with this one entry. -/
def answerFields : List Element :=
  [(0xA1, encodeName root.tbsCertificate.subject),
    (0x18, asciiBytes "20260101000000Z"),
    (0x30,
      encodeElements
        [(0x30,
          encodeElements
            ((0x30, encodeElements (certIdElements rootNameHash rootKeyHash [2]))
              :: goodFields))])]

/-- The fields of the basic response. -/
def basicFields : List Element :=
  [(0x30, encodeElements answerFields),
    (0x30, encodeElements [(0x06, ecdsaWithSha256.oid.body)]),
    (0x03, [0x00, 0xA1])]

/-- The octets of the response. -/
def rootResponse : Bytes :=
  encodeElement
    (0x30,
      encodeElements
        [(0x0A, [0]),
          (0xA0,
            encodeElement
              (0x30,
                encodeElements
                  [(0x06, ocspBasicResponseOid),
                    (0x04,
                      encodeElement (0x30, encodeElements basicFields))]))])

/-- What they say. -/
def rootAnswer : ParsedBasicOcspResponse where
  tbsResponseData := encodeElement (0x30, encodeElements answerFields)
  signatureAlgorithm := ecdsaWithSha256
  signatureBytes := [0xA1]
  responderId := .byName (encodeName root.tbsCertificate.subject)
  producedAt := utcFromDateTime (daysFromCivil 2026 1 1) 0
  responses := [leafAnswer]
  nonce := none
  embeddedCertsDer := []

theorem responseForm_rootResponse :
    ResponseForm requestCrates.toCrates rootResponse rootAnswer := by
  have entry :
      EntryForm requestCrates.toCrates
        (0x30,
          encodeElements
            ((0x30,
                encodeElements (certIdElements rootNameHash rootKeyHash [2])) ::
              goodFields))
        leafAnswer :=
    ⟨rfl, _, [2], (0x80, []), asciiBytes "20260101000000Z", _, [], none,
      ⟨rfl, by decide +kernel⟩,
      ⟨encodeElements algorithmElements, [(0x05, [])],
        ⟨rfl, by decide +kernel⟩, ⟨rfl, by decide +kernel⟩⟩,
      rfl, .good, by decide +kernel,
      .present (asciiBytes "20300101000000Z") _ (by decide +kernel), .absent⟩
  have data :
      DataForm requestCrates.toCrates (encodeElements answerFields)
        ⟨rootAnswer.responderId, rootAnswer.producedAt, rootAnswer.responses,
          rootAnswer.nonce⟩ :=
    ⟨[], _, asciiBytes "20260101000000Z", _, _, [],
      ⟨rfl, by decide +kernel⟩, .absent, .byName _, by decide +kernel,
      ⟨rfl, by decide +kernel⟩, .cons entry .nil, .absent⟩
  exact
    ⟨_, _, _, _, _, ⟨List.append_nil _ |>.symm, by decide +kernel⟩,
      ⟨rfl, by decide +kernel⟩,
      ⟨List.append_nil _ |>.symm, by decide +kernel⟩,
      ⟨rfl, by decide +kernel⟩,
      ⟨List.append_nil _ |>.symm, by decide +kernel⟩,
      _, _, 0x00, [], ⟨rfl, by decide +kernel⟩, rfl, by decide +kernel, data,
      .absent⟩

/-- The response is accepted, and read as what it says. -/
theorem parseOcspResponse_reads_root :
    parseOcspResponse requestCrates.toCrates rootResponse = .ok rootAnswer ∧
      ∀ other,
        ResponseForm requestCrates.toCrates rootResponse other →
          other = rootAnswer :=
  parseOcspResponse_reads requestCrates.toCrates rootResponse rootAnswer
    responseForm_rootResponse

end Answer

end RitspLtv.Ltv.OcspCodec
