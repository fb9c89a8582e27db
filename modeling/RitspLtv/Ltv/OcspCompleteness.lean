import RitspLtv.Ltv.SignedBytes
import RitspLtv.TlvElements

/-!
# What an OCSP response is read to say

The signed part of a response holds a SEQUENCE of entries.  Reading it skips an
entry with another tag than that of a SEQUENCE, drops a `nextUpdate` that holds
something else than a GeneralizedTime, and drops what follows the
GeneralizedTime in one that does.  A response is read completely exactly when it
has none of these.
-/

namespace RitspLtv.Ltv.OcspCompleteness

open RitspLtv.Foundation.Checks
open RitspLtv.RustStd
open RitspLtv.DerUtils
open RitspLtv.TlvElements
open RitspLtv.TlvRoundTrip
open RitspLtv.Ltv.OcspResponse
open RitspLtv.Ltv.OcspSoundness

variable {crates : Crates}

/-! ## The signed entries -/

/-- The contents of the element in front if it has a given tag, and what follows it. -/
def front (tag : UInt8) (octets : Bytes) : Option (Bytes × Bytes) :=
  match parseTlvWithRest octets with
  | .ok (found, value, rest) => if found = tag then some (value, rest) else none
  | .error _ => none

@[simp]
theorem front_eq_some_iff
    {tag : UInt8} {octets value rest : Bytes} :
    front tag octets = some (value, rest) ↔
      parseTlvWithRest octets = .ok (tag, value, rest) := by
  unfold front
  split
  · next found other after parsed =>
      rw [parsed, Except.ok.injEq, Prod.mk.injEq]
      split
      · next same => simp [same]
      · next different => simp [different]
  · next parsed => simp [parsed]

/-- The contents of the `ResponseData` of a response. -/
def signedData (responseDer : Bytes) : Option Bytes := do
  let (response, _) ← front 0x30 responseDer
  let (_, afterStatus) ← front 0x0A response
  let (responseBytes, _) ← front 0xA0 afterStatus
  let (typed, _) ← front 0x30 responseBytes
  let (_, afterType) ← front 0x06 typed
  let (basic, _) ← front 0x04 afterType
  let (signed, _) ← front 0x30 basic
  let (data, _) ← front 0x30 signed
  pure data

/-- The elements of the SEQUENCE among the fields of the signed part. -/
def Entries (responseDer : Bytes) (entries : List Element) : Prop :=
  ∃ data fields body,
    signedData responseDer = some data ∧ Consists data fields ∧
      fields.find? (fun field => field.1 = 0x30) = some (0x30, body) ∧
      Consists body entries

theorem Entries.unique
    {responseDer : Bytes} {entries others : List Element}
    (left : Entries responseDer entries)
    (right : Entries responseDer others) :
    entries = others := by
  rcases left with ⟨data, fields, body, signed, parts, found, consists⟩
  rcases right with
    ⟨_, _, _, sameSigned, sameParts, sameFound, sameConsists⟩
  rw [signed, Option.some.injEq] at sameSigned
  subst sameSigned
  rw [← parts.unique sameParts, found, Option.some.injEq, Prod.mk.injEq]
    at sameFound
  rw [← sameFound.2] at sameConsists
  exact consists.unique sameConsists

/-- The contents of the `nextUpdate` among the fields of an entry. -/
def NextUpdate (body inner : Bytes) : Prop :=
  ∃ fields, Consists body fields ∧ (0xA0, inner) ∈ fields

/-- The octets are one GeneralizedTime, of this instant, and nothing else. -/
def IsTime (octets : Bytes) (instant : Chrono.DateTime) : Prop :=
  ∃ time,
    Consists octets [(0x18, time)] ∧ parseGeneralizedTime time = .ok instant

/-- What is read from an entry, with the whole of its `nextUpdate`. -/
structure Reports (crates : Crates) (entry : Element)
    (response : SingleResponse) : Prop where
  isSequence : entry.1 = 0x30
  read : parseSingleResponse crates entry.2 = .ok response
  present :
    response.nextUpdate.isSome = true ↔ ∃ inner, NextUpdate entry.2 inner
  whole :
    ∀ inner, NextUpdate entry.2 inner →
      ∃ instant, response.nextUpdate = some instant ∧ IsTime inner instant

/-- An entry is a SEQUENCE; its `nextUpdate` holds one GeneralizedTime alone. -/
def Expected (entry : Element) : Prop :=
  entry.1 = 0x30 ∧
    ∀ inner, NextUpdate entry.2 inner →
      ∃ time, Consists inner [(0x18, time)]

/-! ## One entry -/

theorem nextUpdate_iff_mem
    {body inner : Bytes} {fields : List Element}
    (consists : Consists body fields) :
    NextUpdate body inner ↔ (0xA0, inner) ∈ fields := by
  constructor
  · rintro ⟨others, otherwise, member⟩
    rw [consists.unique otherwise]
    exact member
  · intro member
    exact ⟨fields, consists, member⟩

/-- What is reported of a `nextUpdate`: the time in front of it, if it is one. -/
inductive TimeInFront (inner : Bytes) : Option Chrono.DateTime → Prop where
  | time {body rest : Bytes} {instant : Chrono.DateTime} :
      parseTlvWithRest inner = .ok (0x18, body, rest) →
      parseGeneralizedTime body = .ok instant →
      TimeInFront inner (some instant)
  | dropped {tag : UInt8} {body rest : Bytes} :
      parseTlvWithRest inner = .ok (tag, body, rest) →
      tag ≠ 0x18 →
      TimeInFront inner none

/-- The contents are reported as a whole when they are one GeneralizedTime. -/
theorem TimeInFront.isTime_iff
    {inner : Bytes} {nextUpdate : Option Chrono.DateTime}
    (reported : TimeInFront inner nextUpdate) :
    (∃ instant, nextUpdate = some instant ∧ IsTime inner instant) ↔
      ∃ time, Consists inner [(0x18, time)] := by
  constructor
  · rintro ⟨_, _, time, alone, _⟩
    exact ⟨time, alone⟩
  · rintro ⟨time, alone⟩
    rcases Consists.cons_iff.mp alone with ⟨_, front, _⟩
    cases reported with
    | time parsed read =>
        rw [parsed, Except.ok.injEq, Prod.mk.injEq, Prod.mk.injEq] at front
        rcases front with ⟨_, rfl, _⟩
        exact ⟨_, rfl, _, alone, read⟩
    | dropped parsed notTime =>
        rw [parsed, Except.ok.injEq, Prod.mk.injEq] at front
        exact absurd front.1 notTime

/-- A `nextUpdate` is absent, or read as far as the time in front of it. -/
theorem parseSingleNextUpdate_cases
    {pos rest : Bytes} {nextUpdate : Option Chrono.DateTime}
    (read : parseSingleNextUpdate pos = .ok (nextUpdate, rest)) :
    (nextUpdate = none ∧ Precede [] pos rest) ∨
      ∃ inner,
        Precede [(0xA0, inner)] pos rest ∧ TimeInFront inner nextUpdate := by
  unfold parseSingleNextUpdate at read
  split at read
  · next starts =>
      simp only [bind_eq_ok, mapError_eq_ok, Prod.exists] at read
      rcases read with
        ⟨tag, inner, after, field, found, body, _, content, read⟩
      rw [tag_of_head? starts field] at field
      refine Or.inr ⟨inner, ?_⟩
      split at read
      · next isTime =>
          simp only [bind_eq_ok, mapError_eq_ok, pure_eq_ok, Prod.mk.injEq]
            at read
          rcases read with ⟨instant, timeRead, rfl, rfl⟩
          rw [isTime] at content
          exact
            ⟨Precede.cons field Precede.nil,
              TimeInFront.time content timeRead⟩
      · next notTime =>
          cases read
          exact
            ⟨Precede.cons field Precede.nil,
              TimeInFront.dropped content notTime⟩
  · cases read
    exact Or.inl ⟨rfl, Precede.nil⟩

theorem parseTrailingExtensions_fields
    {field : String} {responseLevel : Bool} {pos : Bytes}
    {nonce : Option Bytes}
    (read :
      parseTrailingExtensions crates field responseLevel pos = .ok nonce) :
    ∃ fields, Consists pos fields ∧ ∀ other ∈ fields, other.1 = 0xA1 := by
  unfold parseTrailingExtensions at read
  split at read
  · simp only [bind_eq_ok, mapError_eq_ok, rejectIf_eq_ok, exists_const,
      Prod.exists, not_or, ne_eq, not_not] at read
    rcases read with ⟨tag, value, rest, parsed, ⟨rfl, rfl⟩, _⟩
    exact
      ⟨[(0xA1, value)], Consists.single parsed, fun other member => by
        rw [List.mem_singleton.mp member]⟩
  · next empty =>
      rw [not_not] at empty
      exact ⟨[], Consists.nil_iff.mpr empty, fun _ member => by cases member⟩

theorem parseCertStatus_tag_ne
    {tag : UInt8} {body : Bytes} {status : CertStatus}
    (read : parseCertStatus tag body = .ok status) :
    tag ≠ 0xA0 := by
  rintro rfl
  cases read

/-- An entry has one `nextUpdate` or none, and what is said about it follows from it. -/
theorem parseSingleResponse_nextUpdate
    {body : Bytes} {response : SingleResponse}
    (read : parseSingleResponse crates body = .ok response) :
    (response.nextUpdate = none ∧ ∀ inner, ¬ NextUpdate body inner) ∨
      ∃ inner,
        (∀ other, NextUpdate body other ↔ other = inner) ∧
          TimeInFront inner response.nextUpdate := by
  simp only [parseSingleResponse, bind_eq_ok, mapError_eq_ok, pure_eq_ok,
    Prod.exists, expectTagged_eq_ok] at read
  rcases read with
    ⟨certId, _, certIdField, _, _, _, _, _, statusTag, statusBody, _,
      statusField, _, status, time, _, timeField, _, _, nextUpdate, afterNext,
      nextRead, _, extensions, rfl⟩
  have former :
      Precede [(0x30, certId), (statusTag, statusBody), (0x18, time)] body _ :=
    Precede.cons certIdField
      (Precede.cons statusField (Precede.cons timeField Precede.nil))
  have notStatus := parseCertStatus_tag_ne status
  rcases parseTrailingExtensions_fields extensions with
    ⟨others, consists, tagged⟩
  have notOthers : ∀ inner, (0xA0, inner) ∉ others := by
    intro inner member
    have same : (0xA0 : UInt8) = 0xA1 := tagged _ member
    exact absurd same (by decide)
  rcases parseSingleNextUpdate_cases nextRead with
    ⟨isNone, later⟩ | ⟨inner, later, reported⟩
  · refine Or.inl ⟨isNone, ?_⟩
    intro inner
    rw [nextUpdate_iff_mem ((former.append later) others consists)]
    simp [notOthers, notStatus.symm]
  · refine Or.inr ⟨inner, ?_, reported⟩
    intro other
    rw [nextUpdate_iff_mem ((former.append later) others consists)]
    simp [notOthers, notStatus.symm]

/-- An entry that is read is reported as it stands exactly when it is as expected. -/
theorem reports_iff_expected
    {entry : Element} {response : SingleResponse}
    (isSequence : entry.1 = 0x30)
    (read : parseSingleResponse crates entry.2 = .ok response) :
    Reports crates entry response ↔ Expected entry := by
  rcases parseSingleResponse_nextUpdate read with
    ⟨isNone, absent⟩ | ⟨inner, only, reported⟩
  · constructor
    · intro _
      exact ⟨isSequence, fun inner present => absurd present (absent inner)⟩
    · intro _
      refine ⟨isSequence, read, ?_, ?_⟩
      · simp [isNone, absent]
      · intro inner present
        exact absurd present (absent inner)
  · have present : ∃ inner, NextUpdate entry.2 inner :=
      ⟨inner, (only inner).mpr rfl⟩
    constructor
    · intro report
      refine ⟨isSequence, ?_⟩
      intro other isOther
      rw [(only other).mp isOther]
      exact reported.isTime_iff.mp (report.whole inner ((only inner).mpr rfl))
    · rintro ⟨_, expected⟩
      have whole :=
        reported.isTime_iff.mpr (expected inner ((only inner).mpr rfl))
      refine ⟨isSequence, read, ?_, ?_⟩
      · rcases whole with ⟨instant, isSome, _⟩
        simp [isSome, present]
      · intro other isOther
        rw [(only other).mp isOther]
        exact whole

/-! ## The list of entries -/

/-- The loop reads every SEQUENCE as an entry, and skips every other element. -/
theorem handles_singleResponseStep :
    Handles (singleResponseStep crates) fun responses entry next =>
      if decide (entry.1 = 0x30) then
        ∃ response,
          parseSingleResponse crates entry.2 = .ok response ∧
            next = responses ++ [response]
      else next = responses := by
  intro responses input next rest
  simp only [singleResponseStep, bind_eq_ok, mapError_eq_ok, Prod.exists,
    decide_eq_true_eq]
  constructor
  · rintro ⟨tag, body, after, parsed, read⟩
    split at read
    · next isSequence =>
        simp only [bind_eq_ok, pure_eq_ok, Prod.mk.injEq] at read
        rcases read with ⟨response, entryRead, rfl, rfl⟩
        refine ⟨tag, body, parsed, ?_⟩
        rw [if_pos isSequence]
        exact ⟨response, entryRead, rfl⟩
    · next other =>
        cases read
        refine ⟨tag, body, parsed, ?_⟩
        rw [if_neg other]
  · rintro ⟨tag, body, parsed, handled⟩
    refine ⟨tag, body, rest, parsed, ?_⟩
    split at handled
    · next isSequence =>
        rcases handled with ⟨response, entryRead, rfl⟩
        rw [if_pos isSequence, entryRead]
        rfl
    · next other =>
        rw [if_neg other, handled]
        rfl

/-- Only fields that are no SEQUENCE stand in front of the rest. -/
def LeadsTo (input rest : Bytes) : Prop :=
  ∃ fields, Precede fields input rest ∧ ∀ field ∈ fields, field.1 ≠ 0x30

theorem LeadsTo.refl (input : Bytes) : LeadsTo input input :=
  ⟨[], Precede.nil, fun _ member => by cases member⟩

theorem LeadsTo.trans
    {input middle rest : Bytes}
    (former : LeadsTo input middle) (later : LeadsTo middle rest) :
    LeadsTo input rest := by
  rcases former with ⟨fields, precede, noSequence⟩
  rcases later with ⟨others, laterPrecede, otherwise⟩
  refine ⟨fields ++ others, precede.append laterPrecede, ?_⟩
  intro field member
  rcases List.mem_append.mp member with former | later
  · exact noSequence field former
  · exact otherwise field later

theorem LeadsTo.field
    {tag : UInt8} {value input rest : Bytes}
    (parsed : parseTlvWithRest input = .ok (tag, value, rest))
    (noSequence : tag ≠ 0x30) :
    LeadsTo input rest := by
  refine ⟨[(tag, value)], Precede.cons parsed Precede.nil, ?_⟩
  intro field member
  rw [List.mem_singleton.mp member]
  exact noSequence

theorem leadsTo_of_parseResponseVersion
    {pos rest : Bytes} (read : parseResponseVersion pos = .ok rest) :
    LeadsTo pos rest := by
  unfold parseResponseVersion at read
  split at read
  · next starts =>
      simp only [bind_eq_ok, mapError_eq_ok, pure_eq_ok, Prod.exists] at read
      rcases read with ⟨tag, value, _, parsed, rfl⟩
      apply LeadsTo.field parsed
      rw [tag_of_head? starts parsed]
      decide
  · cases read
    exact LeadsTo.refl pos

theorem leadsTo_of_parseResponderId
    {pos rest : Bytes} {responderId : ResponderId}
    (read : parseResponderId pos = .ok (responderId, rest)) :
    LeadsTo pos rest := by
  unfold parseResponderId at read
  split at read
  · next starts =>
      simp only [bind_eq_ok, mapError_eq_ok, pure_eq_ok, Prod.exists,
        Prod.mk.injEq] at read
      rcases read with ⟨tag, value, _, parsed, _, rfl⟩
      apply LeadsTo.field parsed
      rw [tag_of_head? starts parsed]
      decide
  · split at read
    · next starts =>
        simp only [bind_eq_ok, mapError_eq_ok, pure_eq_ok, Prod.exists,
          Prod.mk.injEq] at read
        rcases read with ⟨tag, value, _, parsed, _, _, _, _, rfl⟩
        apply LeadsTo.field parsed
        rw [tag_of_head? starts parsed]
        decide
    · cases read

/-- The entries are read from the one SEQUENCE among the fields of the signed part. -/
theorem entries_of_parseResponseData
    {data : Bytes} {fields : ResponseData}
    (read : parseResponseData crates data = .ok fields) :
    ∃ elements body entries,
      Consists data elements ∧
        elements.find? (fun field => field.1 = 0x30) = some (0x30, body) ∧
        Consists body entries ∧
        List.Forall₂
          (fun entry response =>
            parseSingleResponse crates entry.2 = .ok response)
          (entries.filter fun entry => entry.1 = 0x30) fields.responses := by
  simp only [parseResponseData, bind_eq_ok, mapError_eq_ok, pure_eq_ok,
    Prod.exists, expectTagged_eq_ok] at read
  rcases read with
    ⟨_, version, _, _, responder, _, _, producedAt, _, _, body, _, responses,
      list, looped, _, extensions, rfl⟩
  rcases
    ((leadsTo_of_parseResponseVersion version).trans
      (leadsTo_of_parseResponderId responder)).trans
      (LeadsTo.field producedAt (by decide)) with
    ⟨former, precede, noSequence⟩
  rcases parseTrailingExtensions_fields extensions with ⟨later, consists, _⟩
  rcases (consume_select_iff handles_singleResponseStep).mp looped with
    ⟨entries, entriesConsist, entriesRead⟩
  refine
    ⟨former ++ (0x30, body) :: later, body, entries,
      precede _ (Consists.cons responses consists), ?_, entriesConsist,
      entriesRead⟩
  have noneFormer :
      former.find? (fun field => field.1 = 0x30) = none := by
    rw [List.find?_eq_none]
    intro field member
    simp [noSequence field member]
  rw [List.find?_append, noneFormer, Option.none_or]
  exact List.find?_cons_of_pos rfl

theorem expectTlv_eq_ok
    {tag : UInt8} {label expected : String} {pos body rest : Bytes} :
    expectTlv tag label expected pos = .ok (body, rest) ↔
      parseTlvWithRest pos = .ok (tag, body, rest) := by
  simp only [expectTlv, bind_eq_ok, mapError_eq_ok, rejectIf_eq_ok,
    exists_const, pure_eq_ok, Prod.exists, Prod.mk.injEq, ne_eq, not_not]
  constructor
  · rintro ⟨_, _, _, parsed, rfl, rfl, rfl⟩
    exact parsed
  · intro parsed
    exact ⟨tag, body, rest, parsed, rfl, rfl, rfl⟩

/-- What is accepted has been read from the part that the responder signs. -/
theorem signedData_of_parseOcspResponse
    {responseDer : Bytes} {parsed : ParsedBasicOcspResponse}
    (accepted : parseOcspResponse crates responseDer = .ok parsed) :
    ∃ data fields,
      signedData responseDer = some data ∧
        parsed.tbsResponseData = encodeTlv 0x30 data ∧
        parseResponseData crates data = .ok fields ∧
        parsed.responses = fields.responses := by
  simp only [parseOcspResponse, parseBasicOcspResponse, parseResponseStatus,
    bind_eq_ok, mapError_eq_ok, rejectIf_eq_ok, exists_const, pure_eq_ok,
    Prod.exists, expectTagged_eq_ok, expectTlv_eq_ok, parseTlv_eq_ok_iff,
    ne_eq, not_or, not_not] at accepted
  rcases accepted with
    ⟨_, _, ⟨_, response⟩, rfl, _, ⟨_, _, _, status, ⟨rfl, _⟩, _, rfl⟩, _, _,
      _, responseBytes, _, _, ⟨_, typed⟩, rfl, _, _, type, _, _, _, basic, _,
      signed, ⟨_, outer⟩, rfl, data, afterData, tbs, _, _, _, _, _, _, _, _, _,
      _, _, fields, read, rfl⟩
  refine ⟨data, fields, ?_, take_eq_encodeTlv tbs, read, rfl⟩
  simp only [signedData, front_eq_some_iff.mpr response,
    front_eq_some_iff.mpr status, front_eq_some_iff.mpr responseBytes,
    front_eq_some_iff.mpr typed, front_eq_some_iff.mpr type,
    front_eq_some_iff.mpr basic, front_eq_some_iff.mpr outer,
    front_eq_some_iff.mpr tbs, Option.bind_eq_bind, Option.bind_some]
  rfl

/-- The entries of an accepted response, and what has been read from them. -/
theorem exists_entries
    {responseDer : Bytes} {parsed : ParsedBasicOcspResponse}
    (accepted : parseOcspResponse crates responseDer = .ok parsed) :
    ∃ entries,
      Entries responseDer entries ∧
        List.Forall₂
          (fun entry response =>
            parseSingleResponse crates entry.2 = .ok response)
          (entries.filter fun entry => entry.1 = 0x30) parsed.responses := by
  rcases signedData_of_parseOcspResponse accepted with
    ⟨data, fields, signed, _, read, same⟩
  rcases entries_of_parseResponseData read with
    ⟨elements, body, entries, parts, found, consists, entriesRead⟩
  rw [same]
  exact
    ⟨entries, ⟨data, elements, body, signed, parts, found, consists⟩,
      entriesRead⟩

/-- Entries that are reported one for one are all as expected. -/
theorem expected_of_reports
    {entries : List Element} {responses : List SingleResponse}
    (reported : List.Forall₂ (Reports crates) entries responses) :
    ∀ entry ∈ entries, Expected entry := by
  intro entry member
  rcases List.forall₂_iff_get.mp reported with ⟨sameLength, reports⟩
  rcases List.mem_iff_get.mp member with ⟨index, rfl⟩
  have inside : index.1 < responses.length := sameLength ▸ index.2
  have report := reports index.1 index.2 inside
  exact (reports_iff_expected report.isSequence report.read).mp report

/-! ## What is lost -/

/--
An accepted response is reported completely, its entries one for one and in
their order, each with a `nextUpdate` exactly when it has one and with all that
this holds, if and only if every entry is a SEQUENCE and every `nextUpdate` in
one holds a GeneralizedTime and nothing else.
-/
theorem parseOcspResponse_complete_iff
    (crates : Crates)
    (responseDer : Bytes)
    (parsed : ParsedBasicOcspResponse)
    (accepted : parseOcspResponse crates responseDer = .ok parsed) :
    (∃ entries,
        Entries responseDer entries ∧
          List.Forall₂ (Reports crates) entries parsed.responses) ↔
      ∀ entries, Entries responseDer entries →
        ∀ entry ∈ entries, Expected entry := by
  constructor
  · rintro ⟨entries, signed, reported⟩ others otherwise
    rw [otherwise.unique signed]
    exact expected_of_reports reported
  · intro expected
    rcases exists_entries accepted with ⟨entries, signed, read⟩
    have all := expected entries signed
    have allSequences :
        (entries.filter fun entry => entry.1 = 0x30) = entries := by
      rw [List.filter_eq_self]
      intro entry member
      exact decide_eq_true (all entry member).1
    rw [allSequences] at read
    refine ⟨entries, signed, ?_⟩
    have both := (List.forall₂_and_left entries _).mpr ⟨all, read⟩
    apply both.imp
    rintro entry response ⟨isExpected, entryRead⟩
    exact (reports_iff_expected isExpected.1 entryRead).mpr isExpected

/-! ### Responses -/

section Responses

open RitspLtv.Reference

/-- The delegated response is reported completely if its entry is as expected. -/
theorem parseOcspResponse_complete_iff_delegated :
    ∃ parsed,
      parseOcspResponse (Reference.crates known) delegatedResponse =
          .ok parsed ∧
        ((∃ entries,
            Entries delegatedResponse entries ∧
              List.Forall₂ (Reports (Reference.crates known)) entries
                parsed.responses) ↔
          ∀ entries, Entries delegatedResponse entries →
            ∀ entry ∈ entries, Expected entry) := by
  have accepted :
      Accepts
        (parseOcspResponse (Reference.crates known) delegatedResponse) := by
    decide +kernel
  rcases accepted with ⟨parsed, accepted⟩
  exact
    ⟨parsed, accepted,
      parseOcspResponse_complete_iff (Reference.crates known)
        delegatedResponse parsed accepted⟩

/-- Two entries about the leaf, of which the first, that it is revoked, is a SET. -/
def strayEntries : Bytes :=
  0x31 :: (leafEntry (encodeRevoked year2025)).drop 1 ++ leafEntry encodeGood

def strayFields : List Element :=
  [(0xA1, encodeName responder.tbsCertificate.subject),
    (0x18, asciiBytes "20260101000000Z"), (0x30, strayEntries)]

/-- A response with these entries. -/
def strayResponse : Bytes :=
  encodeOcspResponse (encodeTlv 0x30 (encodeElements strayFields))
    ecdsaWithSha256 (publicKey 0xD4) [encodeCertificate responder]

/-- The revocation is lost, and nothing is reported about it. -/
theorem parseOcspResponse_not_complete :
    ¬ ∀ responseDer parsed,
      parseOcspResponse (Reference.crates known) responseDer = .ok parsed →
        ∃ entries,
          Entries responseDer entries ∧
            List.Forall₂ (Reports (Reference.crates known)) entries
              parsed.responses := by
  intro complete
  have accepted :
      Accepts (parseOcspResponse (Reference.crates known) strayResponse) := by
    decide +kernel
  rcases accepted with ⟨parsed, accepted⟩
  rcases complete strayResponse parsed accepted with
    ⟨entries, ⟨data, fields, body, signed, parts, found, consists⟩, reported⟩
  have dataIs : signedData strayResponse = some (encodeElements strayFields) := by
    decide +kernel
  rw [dataIs, Option.some.injEq] at signed
  have fieldsRead : Consists data strayFields :=
    ⟨signed.symm, by decide +kernel⟩
  rw [parts.unique fieldsRead] at found
  have bodyIs : strayEntries = body :=
    (Prod.mk.inj (Option.some.inj found)).2
  cases entries with
  | nil =>
      rw [Consists.nil_iff, ← bodyIs] at consists
      cases consists
  | cons entry others =>
      have isSequence :=
        (expected_of_reports reported entry List.mem_cons_self).1
      rcases Consists.cons_iff.mp consists with ⟨rest, first, _⟩
      have announced := headD_of_parse first
      rw [← bodyIs, isSequence] at announced
      exact absurd announced (by decide)

end Responses

end RitspLtv.Ltv.OcspCompleteness
