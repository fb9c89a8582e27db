import RitspLtv.Ltv.CrlCompleteness

/-!
# The octets of a CRL

Which octets are a complete direct CRL, and what they say, stated without the
parser.  The parser accepts exactly these, and reports what they say.
-/

namespace RitspLtv.Ltv.CrlCodec

open RitspLtv.Foundation.Checks
open RitspLtv.Foundation.Consume
open RitspLtv.RustStd
open RitspLtv.DerUtils
open RitspLtv.TlvElements
open RitspLtv.TlvRoundTrip
open RitspLtv.Ltv.Crl
open RitspLtv.Ltv.CrlCompleteness
open RitspLtv.Ltv.SignedBytes
open RitspLtv.Ltv.Status

variable {crates : Crates}

/-! ## Extensions -/

theorem checkReasonCode_eq_ok_iff {extnValue : Bytes} :
    checkReasonCode extnValue = .ok () ↔
      ∃ code ∈ fullReasonCodes, extnValue = encodeElement (0x0A, [code]) := by
  constructor
  · exact reasonCode_of_check
  · rintro ⟨code, full, rfl⟩
    have supported :
        ∀ code ∈ fullReasonCodes, ¬ code > 10 ∧ code ≠ 7 ∧ code ≠ 8 := by
      decide +kernel
    have parsed :=
      @Readable.parse (0x0A, [code])
        ⟨show LowTag 0x0A by decide, by simp⟩ []
    rw [List.append_nil] at parsed
    rw [checkReasonCode, parsed, mapError_ok, ok_bind, rejectIf_eq_ok]
    simpa using supported code full

theorem validateCrlExtension_eq_ok_iff
    {seen next : List ObjectIdentifier} {extension : Extension} :
    validateCrlExtension seen extension = .ok next ↔
      extension.extnId ∉ seen ∧ Permitted extension ∧
        next = extension.extnId :: seen := by
  simp only [validateCrlExtension, bind_eq_ok, rejectIf_eq_ok, exists_const,
    Bool.not_eq_true]
  constructor
  · rintro ⟨fresh, notCritical, direct, validated⟩
    split at validated
    · simp only [bind_eq_ok, exists_unit_eq_ok, pure_eq_ok] at validated
      rcases validated with ⟨checked, rfl⟩
      exact
        ⟨fresh, ⟨notCritical, direct, fun _ => reasonCode_of_check checked⟩,
          rfl⟩
    · next other =>
        rw [pure_eq_ok] at validated
        exact
          ⟨fresh, ⟨notCritical, direct, fun same => absurd same other⟩,
            validated.symm⟩
  · rintro ⟨fresh, permitted, rfl⟩
    refine ⟨fresh, permitted.notCritical, permitted.direct, ?_⟩
    split
    · next isReason =>
        rw [checkReasonCode_eq_ok_iff.mpr (permitted.reason isReason)]
        rfl
    · rfl

theorem validateCrlExtensions_eq_ok_iff {encoded : Bytes} :
    validateCrlExtensions crates encoded = .ok () ↔
      ∃ extensions,
        crates.extensionsFromDer encoded = .ok extensions ∧
          extensions ≠ [] ∧ AllPermitted extensions := by
  have walks (extensions : List Extension) :
      (∃ final, extensions.foldlM validateCrlExtension [] = .ok final) ↔
        AllPermitted extensions := by
    have distinct :=
      @accepts_foldlM_iff_distinct _ _ _ validateCrlExtension
        Extension.extnId Permitted
        (fun _ _ _ => validateCrlExtension_eq_ok_iff) extensions []
    rw [Accepts] at distinct
    rw [distinct]
    constructor
    · rintro ⟨distinct, _, each⟩
      exact ⟨distinct, each⟩
    · rintro ⟨distinct, each⟩
      exact ⟨distinct, fun _ _ => List.not_mem_nil, each⟩
  simp only [validateCrlExtensions, bind_eq_ok, mapError_eq_ok,
    rejectIf_eq_ok, exists_const, pure_eq_ok, and_true, walks, ne_eq]

/-- The extensions in an optional field: decoded, written there, and permitted. -/
structure CarriesExtensions (crates : Crates)
    (field : Option (List Element)) (extensions : List Extension) :
    Prop where
  decoded :
    ∀ elements ∈ field,
      crates.extensionsFromDer
          (encodeElement (0x30, encodeElements elements)) =
        .ok extensions
  nonempty : field ≠ some []
  written : List.Forall₂ Written (field.getD []) extensions
  permitted : AllPermitted extensions

theorem carriesExtensions_none : CarriesExtensions crates none [] := by
  constructor
  · intro elements member
    cases member
  · intro impossible
    cases impossible
  · exact .nil
  · exact allPermitted_nil

/-- What is validated is a list of permitted extensions that is written so. -/
theorem validateCrlExtensions_iff_carries
    (strict : StrictExtensions crates) {encoded : Bytes} :
    validateCrlExtensions crates encoded = .ok () ↔
      ∃ elements extensions,
        encoded = encodeElement (0x30, encodeElements elements) ∧
          CarriesExtensions crates (some elements) extensions := by
  rw [validateCrlExtensions_eq_ok_iff]
  constructor
  · rintro ⟨extensions, decoded, nonempty, permitted⟩
    rcases strict encoded extensions decoded with
      ⟨elements, rfl, written⟩
    refine ⟨elements, extensions, rfl, ?_, ?_, written, permitted⟩
    · rintro others member
      cases member
      exact decoded
    · intro empty
      cases empty
      cases written
      exact nonempty rfl
  · rintro ⟨elements, extensions, rfl, carries⟩
    refine
      ⟨extensions, carries.decoded elements rfl, ?_, carries.permitted⟩
    rintro rfl
    have written := carries.written
    rw [Option.getD_some, List.forall₂_nil_right_iff] at written
    exact carries.nonempty (congrArg some written)

/-- The reported reason is determined by the extensions. -/
theorem ReasonOf.unique
    {extensions : List Extension} {reason other : RevocationReason}
    (left : ReasonOf extensions reason) (right : ReasonOf extensions other) :
    reason = other := by
  by_cases present :
      ∃ extension ∈ extensions, extension.extnId = .newUnwrap [2, 5, 29, 21]
  · rcases present with ⟨extension, member, isReason⟩
    rcases left.present extension member isReason with
      ⟨code, _, value, rfl, _⟩
    rcases right.present extension member isReason with
      ⟨otherCode, _, otherValue, rfl, _⟩
    have octets (number : UInt8) :
        encodeElement (0x0A, [number]) = [0x0A, 0x01, number] :=
      rfl
    rw [value, octets, octets] at otherValue
    cases otherValue
    rfl
  · have absent :
        ∀ extension ∈ extensions,
          extension.extnId ≠ .newUnwrap [2, 5, 29, 21] := by
      intro extension member same
      exact present ⟨extension, member, same⟩
    rw [left.absent absent, right.absent absent]

/-! ## Revoked entries -/

/-- The element of an entry: what is reported, and permitted extensions. -/
def EntryWritten (crates : Crates) (element : Element)
    (entry : RevokedEntry) : Prop :=
  element.1 = 0x30 ∧
    ∃ serial time field extensions,
      Consists element.2
          ((0x02, serial) :: time :: extensionsElement 0x30 field) ∧
        entry.serialNumber = parseIntegerBody serial ∧
        parseX509Time time.1 time.2 = .ok entry.revocationTime ∧
        CarriesExtensions crates field extensions ∧
        ReasonOf extensions entry.reason

/-- What follows the date of an entry: nothing, or one list of extensions. -/
theorem entryExtensions_iff
    (strict : StrictExtensions crates)
    {entryRest : Bytes} (bounded : entryRest.length < 2 ^ 32) :
    (entryRest ≠ [] → validateCrlExtensions crates entryRest = .ok ()) ↔
      ∃ field extensions,
        Consists entryRest (extensionsElement 0x30 field) ∧
          CarriesExtensions crates field extensions := by
  constructor
  · intro checked
    by_cases empty : entryRest = []
    · exact ⟨none, [], Consists.nil_iff.mpr empty, carriesExtensions_none⟩
    · rcases (validateCrlExtensions_iff_carries strict).mp (checked empty) with
        ⟨elements, extensions, octets, carries⟩
      have inner := length_lt_encodeElement (0x30, encodeElements elements)
      rw [← octets] at inner
      exact
        ⟨some elements, extensions,
          Consists.singleton_iff.mpr
            ⟨⟨show LowTag 0x30 by decide, inner.trans bounded⟩, octets⟩,
          carries⟩
  · rintro ⟨_ | elements, extensions, consists, carries⟩ nonempty
    · exact absurd (Consists.nil_iff.mp consists) nonempty
    · exact
        (validateCrlExtensions_iff_carries strict).mpr
          ⟨elements, extensions, (Consists.singleton_iff.mp consists).2,
            carries⟩

/-- The reason found behind the date is that of the extensions there. -/
theorem reasonOf_parseRevocationReason
    {entryRest : Bytes} {field : Option (List Element)}
    {extensions : List Extension}
    (consists : Consists entryRest (extensionsElement 0x30 field))
    (carries : CarriesExtensions crates field extensions) :
    ReasonOf extensions (parseRevocationReason entryRest) := by
  cases field with
  | none =>
      have none : extensions = [] :=
        List.forall₂_nil_left_iff.mp carries.written
      rw [Consists.nil_iff.mp consists, none]
      constructor
      · intro extension member
        cases member
      · intro _
        rfl
  | some elements =>
      rcases Consists.cons_iff.mp consists with ⟨rest, parsed, _⟩
      have bounded : (encodeElements elements).length < 2 ^ 32 :=
        (Consists.singleton_iff.mp consists).1.2
      rw [parseRevocationReason, parsed]
      exact
        reasonOf_parseRevocationReasonWithin carries.written bounded
          carries.permitted

/-- What follows the serial number and the date of an entry is short. -/
theorem length_lt_behind_date
    {input body after afterSerial entryRest serial time : Bytes}
    {tag serialTag timeTag : UInt8}
    (parsed : parseTlvWithRest input = .ok (tag, body, after))
    (serialRead :
      parseTlvWithRest body = .ok (serialTag, serial, afterSerial))
    (timeRead :
      parseTlvWithRest afterSerial = .ok (timeTag, time, entryRest)) :
    entryRest.length < 2 ^ 32 := by
  have whole : body.length < 2 ^ 32 := (parseTlvWithRest_eq_ok_iff.mp parsed).2.1
  have first := parseTlvWithRest_shrinks serialRead
  have second := parseTlvWithRest_shrinks timeRead
  omega

theorem handles_revokedCertificateStep
    (strict : StrictExtensions crates) :
    Handles (revokedCertificateStep crates) fun entries element next =>
      ∃ entry, EntryWritten crates element entry ∧
        next = entries ++ [entry] := by
  intro entries input next rest
  simp only [revokedCertificateStep, bind_eq_ok, mapError_eq_ok,
    rejectIf_eq_ok, exists_const, Prod.exists, when_eq_ok, pure_eq_ok,
    Prod.mk.injEq, ne_eq, not_not]
  constructor
  · rintro
      ⟨tag, body, after, parsed, rfl, serialTag, serial, afterSerial,
        serialRead, rfl, timeTag, time, entryRest, timeRead, revocationTime,
        instant, checked, rfl, rfl⟩
    have bounded := length_lt_behind_date parsed serialRead timeRead
    rcases (entryExtensions_iff strict bounded).mp checked with
      ⟨field, extensions, consists, carries⟩
    exact
      ⟨0x30, body, parsed, _,
        ⟨rfl, serial, (timeTag, time), field, extensions,
          Consists.cons serialRead (Consists.cons timeRead consists), rfl,
          instant, carries, reasonOf_parseRevocationReason consists carries⟩,
        rfl⟩
  · rintro
      ⟨tag, body, parsed, entry,
        ⟨isSequence, serial, time, field, extensions, consists, serialIs,
          instant, carries, reason⟩, rfl⟩
    rcases Consists.cons_iff.mp consists with ⟨afterSerial, serialRead, later⟩
    rcases Consists.cons_iff.mp later with ⟨entryRest, timeRead, last⟩
    have bounded := length_lt_behind_date parsed serialRead timeRead
    have sameReason :=
      ReasonOf.unique (reasonOf_parseRevocationReason last carries) reason
    refine
      ⟨tag, body, rest, parsed, isSequence, 0x02, serial, afterSerial,
        serialRead, rfl, time.1, time.2, entryRest, timeRead,
        entry.revocationTime, instant,
        (entryExtensions_iff strict bounded).mpr
          ⟨field, extensions, last, carries⟩, ?_, rfl⟩
    rw [sameReason, ← serialIs]

/-- The list is parsed into its entries, one for one. -/
theorem parseRevokedCertificates_eq_ok_iff
    (strict : StrictExtensions crates)
    {body : Bytes} {entries : List RevokedEntry} :
    parseRevokedCertificates crates body = .ok entries ↔
      ∃ elements,
        Consists body elements ∧
          List.Forall₂ (EntryWritten crates) elements entries :=
  consume_collect_iff (handles_revokedCertificateStep strict)

/-! ## Fields in front of others -/

section Fields

variable {pos : Bytes} {others : List Element}

/-- The next element has none of these tags, if there is one. -/
def NotAnnounced (tags : List UInt8) (others : List Element) : Prop :=
  ∀ element ∈ others.head?, element.1 ∉ tags

theorem NotAnnounced.head?_ne
    {tags : List UInt8} {tag : UInt8}
    (notAnnounced : NotAnnounced tags others) (member : tag ∈ tags)
    (consists : Consists pos others) :
    pos.head? ≠ some tag := by
  rw [consists.head?_eq]
  intro starts
  rcases Option.map_eq_some_iff.mp starts with ⟨element, first, rfl⟩
  exact notAnnounced element first member

theorem parseCrlVersion_reads
    {version : Option Bytes} (isTwo : ∀ octets ∈ version, octets = [1])
    (consists :
      Consists pos
        ((version.map fun version => (0x02, version)).toList ++ others))
    (behind : NotAnnounced [0x02] others) :
    ∃ rest, parseCrlVersion pos = .ok rest ∧ Consists rest others := by
  cases version with
  | none =>
      have absent := behind.head?_ne List.mem_cons_self consists
      rw [parseCrlVersion, if_neg absent]
      exact ⟨pos, rfl, consists⟩
  | some octets =>
      rcases consists.field with ⟨rest, starts, parsed, later⟩
      refine ⟨rest, ?_, later⟩
      simp only [parseCrlVersion, if_pos starts, bind_eq_ok, mapError_eq_ok,
        rejectIf_eq_ok, exists_const, pure_eq_ok, Prod.exists, ne_eq, not_not]
      exact ⟨0x02, octets, rest, parsed, isTwo octets rfl, rfl⟩

theorem parseInnerAlgorithm_reads
    {algorithm : AlgorithmIdentifier} {body : Bytes}
    (decoded :
      crates.algorithmIdentifierFromDer (encodeElement (0x30, body)) =
        .ok algorithm)
    (consists : Consists pos ([(0x30, body)] ++ others)) :
    ∃ rest,
      parseInnerAlgorithm crates algorithm pos = .ok rest ∧
        Consists rest others := by
  rcases consists.field with ⟨rest, _, parsed, later⟩
  refine ⟨rest, ?_, later⟩
  simp only [parseInnerAlgorithm, bind_eq_ok, mapError_eq_ok, rejectIf_eq_ok,
    exists_const, pure_eq_ok, Prod.exists, ne_eq, not_not]
  refine ⟨0x30, body, rest, parsed, rfl, algorithm, ?_, rfl, rfl⟩
  rw [take_eq_encodeTlv parsed]
  exact decoded

theorem parseCrlIssuer_reads
    {body : Bytes} (consists : Consists pos ([(0x30, body)] ++ others)) :
    ∃ rest,
      parseCrlIssuer pos = .ok (encodeElement (0x30, body), rest) ∧
        Consists rest others := by
  rcases consists.field with ⟨rest, _, parsed, later⟩
  refine ⟨rest, ?_, later⟩
  simp only [parseCrlIssuer, bind_eq_ok, mapError_eq_ok, rejectIf_eq_ok,
    exists_const, pure_eq_ok, Prod.exists, Prod.mk.injEq, ne_eq, not_not]
  exact
    ⟨0x30, body, rest, parsed, rfl, take_eq_encodeTlv parsed, rfl⟩

theorem parseThisUpdate_reads
    {tag : UInt8} {body : Bytes} {thisUpdate : Chrono.DateTime}
    (instant : parseX509Time tag body = .ok thisUpdate)
    (consists : Consists pos ([(tag, body)] ++ others)) :
    ∃ rest,
      parseThisUpdate pos = .ok (thisUpdate, rest) ∧
        Consists rest others := by
  rcases consists.field with ⟨rest, _, parsed, later⟩
  refine ⟨rest, ?_, later⟩
  simp only [parseThisUpdate, bind_eq_ok, mapError_eq_ok, pure_eq_ok,
    Prod.exists, Prod.mk.injEq]
  exact ⟨tag, body, rest, parsed, thisUpdate, instant, rfl, rfl⟩

/-- What is read as a time has the tag of one. -/
theorem tag_of_parseX509Time
    {tag : UInt8} {body : Bytes} {instant : Chrono.DateTime}
    (read : parseX509Time tag body = .ok instant) :
    tag = 0x17 ∨ tag = 0x18 := by
  rw [parseX509Time] at read
  split at read
  · next isUtc => exact .inl isUtc
  · split at read
    · next isGeneralized => exact .inr isGeneralized
    · cases read

theorem parseNextUpdate_reads
    {element : Option Element} {nextUpdate : Option Chrono.DateTime}
    (instant :
      Option.Rel
        (fun element time => parseX509Time element.1 element.2 = .ok time)
        element nextUpdate)
    (consists : Consists pos (element.toList ++ others))
    (behind : NotAnnounced [0x17, 0x18] others) :
    ∃ rest,
      parseNextUpdate pos = .ok (nextUpdate, rest) ∧
        Consists rest others := by
  cases instant with
  | none =>
      have absent : ¬ (pos.head? = some 0x17 ∨ pos.head? = some 0x18) := by
        rw [not_or]
        exact
          ⟨behind.head?_ne (by simp) consists,
            behind.head?_ne (by simp) consists⟩
      rw [parseNextUpdate, if_neg absent]
      exact ⟨pos, rfl, consists⟩
  | @some element time instant =>
      rcases consists.field with ⟨rest, starts, parsed, later⟩
      have announced : pos.head? = some 0x17 ∨ pos.head? = some 0x18 := by
        rw [starts, Option.some.injEq, Option.some.injEq]
        exact tag_of_parseX509Time instant
      refine ⟨rest, ?_, later⟩
      simp only [parseNextUpdate, if_pos announced, bind_eq_ok,
        mapError_eq_ok, pure_eq_ok, Prod.exists, Prod.mk.injEq]
      exact ⟨_, _, rest, parsed, time, instant, rfl, rfl⟩

theorem parseRevokedField_reads
    (strict : StrictExtensions crates)
    {elements : Option (List Element)} {entries : List RevokedEntry}
    (readable : ∀ list ∈ elements, ∀ element ∈ list, Readable element)
    (written :
      List.Forall₂ (EntryWritten crates) (elements.getD []) entries)
    (consists : Consists pos (extensionsElement 0x30 elements ++ others))
    (behind : NotAnnounced [0x30] others) :
    ∃ rest,
      parseRevokedField crates pos = .ok (entries, rest) ∧
        Consists rest others := by
  cases elements with
  | none =>
      have absent := behind.head?_ne List.mem_cons_self consists
      rw [Option.getD_none, List.forall₂_nil_left_iff] at written
      rw [parseRevokedField, if_neg absent, written]
      exact ⟨pos, rfl, consists⟩
  | some list =>
      rcases consists.field with ⟨rest, starts, parsed, later⟩
      have listRead :
          parseRevokedCertificates crates (encodeElements list) =
            .ok entries :=
        (parseRevokedCertificates_eq_ok_iff strict).mpr
          ⟨list, Consists.encode (readable list rfl), written⟩
      refine ⟨rest, ?_, later⟩
      simp only [parseRevokedField, if_pos starts, bind_eq_ok,
        mapError_eq_ok, pure_eq_ok, Prod.exists, Prod.mk.injEq]
      exact ⟨0x30, _, rest, parsed, entries, listRead, rfl, rfl⟩

/-- A search for one identifier among extensions of which none has it. -/
theorem extensionsContainOid_eq_false
    {elements : List Element} {extensions : List Extension}
    {targetOid : Bytes}
    (written : List.Forall₂ Written elements extensions)
    (bounded : (encodeElements elements).length < 2 ^ 32)
    (absent : ∀ extension ∈ extensions, extension.extnId ≠ ⟨targetOid⟩) :
    extensionsContainOid (encodeElements elements) targetOid = .ok false := by
  rw [extensionsContainOid_of_written written bounded, Except.ok.injEq,
    List.any_eq_false]
  intro extension member same
  apply absent extension member
  rw [← eq_of_beq same]

/-- The wrapper of the CRL extensions holds one SEQUENCE. -/
theorem wrapped_crlExtensions
    {elements : List Element}
    (consists : Consists pos (crlExtensionsElement (some elements))) :
    (encodeElements elements).length < 2 ^ 32 ∧
      Consists (encodeElement (0x30, encodeElements elements))
        [(0x30, encodeElements elements)] := by
  have readable :
      Readable (0xA0, encodeElement (0x30, encodeElements elements)) :=
    (Consists.singleton_iff.mp consists).1
  have inner := length_lt_encodeElement (0x30, encodeElements elements)
  have bounded : (encodeElements elements).length < 2 ^ 32 :=
    inner.trans readable.2
  exact
    ⟨bounded,
      Consists.singleton_iff.mpr
        ⟨⟨show LowTag 0x30 by decide, bounded⟩, rfl⟩⟩

/-- The last field is nothing, or one list of permitted extensions. -/
theorem parseCrlExtensionsField_iff (strict : StrictExtensions crates) :
    parseCrlExtensionsField crates pos = .ok [] ↔
      ∃ field extensions,
        Consists pos (crlExtensionsElement field) ∧
          CarriesExtensions crates field extensions ∧
          Undivided extensions := by
  constructor
  · intro read
    unfold parseCrlExtensionsField at read
    split at read
    · next starts =>
        simp only [bind_eq_ok, mapError_eq_ok, rejectIf_eq_ok, exists_const,
          exists_unit_eq_ok, pure_eq_ok, Prod.exists, ne_eq, not_not,
          Bool.not_eq_true] at read
        rcases read with
          ⟨tag, wrapBody, after, wrapper, rfl, seqTag, body, afterSequence,
            sequence, rfl, rfl, hasDelta, delta, noDelta, hasIdp, idp, noIdp,
            validated, _⟩
        rw [tag_of_head? starts wrapper] at wrapper
        rcases (validateCrlExtensions_iff_carries strict).mp validated with
          ⟨elements, extensions, octets, carries⟩
        have consists : Consists pos (crlExtensionsElement (some elements)) := by
          rw [octets] at wrapper
          exact Consists.single wrapper
        have inner : Consists wrapBody [(0x30, body)] :=
          Consists.single sequence
        rcases wrapped_crlExtensions consists with ⟨bounded, sameInner⟩
        rw [octets] at inner
        have same := inner.unique sameInner
        cases same
        exact
          ⟨some elements, extensions, consists, carries,
            undivided_of_search carries.written bounded delta idp noDelta
              noIdp⟩
    · cases read
      exact
        ⟨none, [], Consists.nil_iff.mpr rfl, carriesExtensions_none,
          fun _ member => absurd member List.not_mem_nil⟩
  · rintro ⟨_ | elements, extensions, consists, carries, undivided⟩
    · rw [Consists.nil_iff.mp consists]
      rfl
    · rcases wrapped_crlExtensions consists with ⟨bounded, inner⟩
      rcases Consists.field consists with ⟨rest, starts, wrapper, later⟩
      rcases Consists.field inner with ⟨innerRest, _, sequence, innerLater⟩
      have noDelta :=
        extensionsContainOid_eq_false carries.written bounded
          fun extension member => (undivided extension member).1
      have noIdp :=
        extensionsContainOid_eq_false carries.written bounded
          fun extension member => (undivided extension member).2
      have validated :=
        (validateCrlExtensions_iff_carries strict).mpr
          ⟨elements, extensions, rfl, carries⟩
      simp only [parseCrlExtensionsField, if_pos starts, bind_eq_ok,
        mapError_eq_ok, rejectIf_eq_ok, exists_const, exists_unit_eq_ok,
        pure_eq_ok, Prod.exists, ne_eq, not_not, Bool.not_eq_true]
      exact
        ⟨0xA0, _, rest, wrapper, Consists.nil_iff.mp later, 0x30, _,
          innerRest, sequence, Consists.nil_iff.mp innerLater, rfl, false,
          noDelta, rfl, false, noIdp, rfl, validated,
          Consists.nil_iff.mp later⟩

end Fields

/-! ## The signed part -/

/-- What the fields of the signed part say is what is reported. -/
structure FieldsSay (crates : Crates) (fields : TbsFields)
    (parsed : ParsedCrl) : Prop where
  version : ∀ octets ∈ fields.version, octets = [1]
  algorithm :
    crates.algorithmIdentifierFromDer
        (encodeElement (0x30, fields.algorithm)) =
      .ok parsed.signatureAlgorithm
  issuer : parsed.issuerDer = encodeElement (0x30, fields.issuer)
  thisUpdate :
    parseX509Time fields.thisUpdate.1 fields.thisUpdate.2 =
      .ok parsed.thisUpdate
  nextUpdate :
    Option.Rel
      (fun element time => parseX509Time element.1 element.2 = .ok time)
      fields.nextUpdate parsed.nextUpdate
  entries :
    List.Forall₂ (EntryWritten crates)
      (fields.revokedCertificates.getD []) parsed.revokedEntries
  extensions :
    ∃ extensions,
      CarriesExtensions crates fields.crlExtensions extensions ∧
        Undivided extensions

/-- The parser of the fields, behind the outer layer. -/
def parseTbs (crates : Crates) (list : CertificateList) :
    Except LtvError ParsedCrl := do
  let tbsPos ← parseCrlVersion list.tbsValue
  let tbsPos ← parseInnerAlgorithm crates list.signatureAlgorithm tbsPos
  let (issuerDer, tbsPos) ← parseCrlIssuer tbsPos
  let (thisUpdate, tbsPos) ← parseThisUpdate tbsPos
  let (nextUpdate, tbsPos) ← parseNextUpdate tbsPos
  let (revokedEntries, tbsPos) ← parseRevokedField crates tbsPos
  let tbsPos ← parseCrlExtensionsField crates tbsPos
  rejectIf (tbsPos ≠ []) (.crl "unexpected trailing TBSCertList fields")
  pure
    { tbsBytes := list.tbsBytes
      signatureAlgorithm := list.signatureAlgorithm
      signatureBytes := list.signatureBytes
      issuerDer, thisUpdate, nextUpdate, revokedEntries }

theorem parseCrl_eq_parseTbs (crlDer : Bytes) :
    parseCrl crates crlDer =
      parseCertificateList crates crlDer >>= parseTbs crates :=
  rfl

theorem precede_of_parseRevokedField
    (strict : StrictExtensions crates)
    {pos rest : Bytes} {entries : List RevokedEntry}
    (read : parseRevokedField crates pos = .ok (entries, rest)) :
    ∃ elements : Option (List Element),
      List.Forall₂ (EntryWritten crates) (elements.getD []) entries ∧
        Precede (extensionsElement 0x30 elements) pos rest := by
  unfold parseRevokedField at read
  split at read
  · next starts =>
      simp only [bind_eq_ok, mapError_eq_ok, pure_eq_ok, Prod.exists,
        Prod.mk.injEq] at read
      rcases read with ⟨tag, body, after, parsed, entries, list, rfl, rfl⟩
      rw [tag_of_head? starts parsed] at parsed
      rcases (parseRevokedCertificates_eq_ok_iff strict).mp list with
        ⟨elements, consists, reported⟩
      rw [consists.octets] at parsed
      exact ⟨some elements, reported, Precede.cons parsed Precede.nil⟩
  · cases read
    exact ⟨none, .nil, Precede.nil⟩

/-- The entries in the list of revoked certificates are read where they stand. -/
theorem readable_entries
    {value : Bytes} {fields : TbsFields} {entries : List RevokedEntry}
    (consists : Consists value fields.elements)
    (written :
      List.Forall₂ (EntryWritten crates)
        (fields.revokedCertificates.getD []) entries) :
    ∀ list ∈ fields.revokedCertificates, ∀ element ∈ list,
      Readable element := by
  intro list listed
  rw [listed, Option.getD_some] at written
  have member : (0x30, encodeElements list) ∈ fields.elements := by
    simp [TbsFields.elements, extensionsElement, Option.mem_def.mp listed]
  have readable : Readable (0x30, encodeElements list) :=
    consists.readable _ member
  have low : ∀ element ∈ list, LowTag element.1 := by
    intro element inList
    rcases List.mem_iff_get.mp inList with ⟨index, rfl⟩
    have inside : index.1 < entries.length :=
      written.length_eq ▸ index.2
    have isSequence := (written.get index.2 inside).1
    rw [List.get_eq_getElem] at isSequence ⊢
    rw [isSequence]
    decide
  exact (consists_encodeElements low readable.2).readable

/-- The parser of the fields accepts exactly those that say what it reports. -/
theorem parseTbs_eq_ok_iff
    (strict : StrictExtensions crates)
    {list : CertificateList} {parsed : ParsedCrl} :
    parseTbs crates list = .ok parsed ↔
      parsed.tbsBytes = list.tbsBytes ∧
        parsed.signatureAlgorithm = list.signatureAlgorithm ∧
        parsed.signatureBytes = list.signatureBytes ∧
        ∃ fields,
          Consists list.tbsValue fields.elements ∧
            FieldsSay crates fields parsed := by
  simp only [parseTbs, bind_eq_ok, rejectIf_eq_ok, exists_const, pure_eq_ok,
    Prod.exists, ne_eq, not_not]
  constructor
  · rintro
      ⟨_, version, _, inner, issuerDer, _, issuer, thisUpdate, _, this,
        nextUpdate, _, next, entries, _, revoked, _, extensions, rfl, rfl⟩
    rcases precede_of_parseCrlVersion version with
      ⟨versionOctets, isTwo, versionFirst⟩
    rcases precede_of_parseInnerAlgorithm inner with
      ⟨innerBody, decoded, algorithmFirst⟩
    rcases precede_of_parseCrlIssuer issuer with
      ⟨issuerBody, issuerIs, issuerFirst⟩
    rcases precede_of_parseThisUpdate this with
      ⟨thisElement, thisRead, thisFirst⟩
    rcases precede_of_parseNextUpdate next with
      ⟨nextElement, nextRead, nextFirst⟩
    rcases precede_of_parseRevokedField strict revoked with
      ⟨revokedElements, written, revokedFirst⟩
    rcases (parseCrlExtensionsField_iff strict).mp extensions with
      ⟨field, carried, last, carries, undivided⟩
    have former :=
      versionFirst.append (algorithmFirst.append (issuerFirst.append
        (thisFirst.append (nextFirst.append revokedFirst))))
    have consists := former _ last
    simp only [List.append_assoc] at consists
    exact
      ⟨rfl, rfl, rfl,
        ⟨versionOctets, innerBody, issuerBody, thisElement, nextElement,
          revokedElements, field⟩,
        consists,
        ⟨isTwo, decoded, issuerIs, thisRead, nextRead, written, carried,
          carries, undivided⟩⟩
  · rintro ⟨sameTbs, sameAlgorithm, sameSignature, fields, consists, meaning⟩
    have readable := readable_entries consists meaning.entries
    rcases meaning.extensions with ⟨carried, carries, undivided⟩
    have behindNext :
        NotAnnounced [0x17, 0x18]
          (extensionsElement 0x30 fields.revokedCertificates ++
            crlExtensionsElement fields.crlExtensions) := by
      cases fields.revokedCertificates <;> cases fields.crlExtensions <;>
        simp [NotAnnounced, extensionsElement, crlExtensionsElement]
    have behindRevoked :
        NotAnnounced [0x30] (crlExtensionsElement fields.crlExtensions) := by
      cases fields.crlExtensions <;>
        simp [NotAnnounced, crlExtensionsElement]
    rcases parseCrlVersion_reads meaning.version consists
        (by simp [NotAnnounced]) with
      ⟨pos, version, consists⟩
    rcases parseInnerAlgorithm_reads meaning.algorithm consists with
      ⟨pos, algorithm, consists⟩
    rcases parseCrlIssuer_reads consists with ⟨pos, issuer, consists⟩
    rcases parseThisUpdate_reads meaning.thisUpdate consists with
      ⟨pos, thisUpdate, consists⟩
    rcases parseNextUpdate_reads meaning.nextUpdate consists behindNext with
      ⟨pos, nextUpdate, consists⟩
    rcases parseRevokedField_reads strict readable meaning.entries consists
        behindRevoked with
      ⟨pos, revoked, consists⟩
    have last :=
      (parseCrlExtensionsField_iff strict).mpr
        ⟨fields.crlExtensions, carried, consists, carries, undivided⟩
    rw [sameAlgorithm] at algorithm
    refine
      ⟨_, version, _, algorithm, _, _, issuer, _, _, thisUpdate, _, _,
        nextUpdate, _, _, revoked, [], last, rfl, ?_⟩
    rw [← sameTbs, ← sameAlgorithm, ← sameSignature, ← meaning.issuer]

theorem lowTag_of_parseX509Time
    {tag : UInt8} {body : Bytes} {instant : Chrono.DateTime}
    (read : parseX509Time tag body = .ok instant) :
    LowTag tag := by
  rcases tag_of_parseX509Time read with rfl | rfl <;> decide

/-- No field has a tag of more than one octet. -/
theorem FieldsSay.lowTag
    {fields : TbsFields} {parsed : ParsedCrl}
    (meaning : FieldsSay crates fields parsed) :
    ∀ element ∈ fields.elements, LowTag element.1 := by
  have constant :
      ∀ tag ∈ [(0x02 : UInt8), 0x30, 0xA0], LowTag tag := by
    decide +kernel
  intro element member
  simp only [TbsFields.elements, extensionsElement, crlExtensionsElement,
    List.mem_append, List.mem_singleton, Option.mem_toList,
    Option.map_eq_some_iff] at member
  rcases member with
    ⟨_, _, rfl⟩ | rfl | rfl | rfl | next | ⟨_, _, rfl⟩ | ⟨_, _, rfl⟩
  · exact constant _ (by simp)
  · exact constant _ (by simp)
  · exact constant _ (by simp)
  · exact lowTag_of_parseX509Time meaning.thisUpdate
  · have instant := meaning.nextUpdate
    rw [next] at instant
    generalize parsed.nextUpdate = time at instant
    cases instant with
    | some read => exact lowTag_of_parseX509Time read
  · exact constant _ (by simp)
  · exact constant _ (by simp)

/-! ## The list -/

/-- The octets of the three parts of a CRL. -/
def signedParts (tbsBytes algorithm signature : Bytes) : Bytes :=
  tbsBytes ++ encodeTlv 0x30 algorithm ++ encodeTlv 0x03 (0x00 :: signature)

/-- The outer layer of a CRL, with an algorithm and a signature that are read. -/
structure Wraps (crates : Crates) (crlDer : Bytes) (list : CertificateList)
    (algorithm : Bytes) : Prop where
  octets :
    crlDer =
      encodeTlv 0x30
        (signedParts list.tbsBytes algorithm list.signatureBytes)
  bounded :
    (signedParts list.tbsBytes algorithm list.signatureBytes).length < 2 ^ 32
  tbs : list.tbsBytes = encodeTlv 0x30 list.tbsValue
  decoded :
    crates.algorithmIdentifierFromDer (encodeTlv 0x30 algorithm) =
      .ok list.signatureAlgorithm
  signed : list.signatureBytes ≠ []

/-- A BIT STRING of whole octets: a zero, and one octet at least. -/
theorem octets_of_bitString
    {body : Bytes} (aligned : ¬ (body.length < 2 ∨ ¬ body.headD 0 = 0)) :
    ∃ octets, body = 0x00 :: octets ∧ octets ≠ [] := by
  rw [not_or, not_not] at aligned
  cases body with
  | nil => exact absurd (Nat.succ_pos 1) aligned.1
  | cons unused octets =>
      have zero : unused = 0x00 := aligned.2
      refine ⟨octets, by rw [zero], ?_⟩
      rintro rfl
      exact aligned.1 (Nat.lt_succ_self 1)

/-- The three parts are read one behind the other. -/
theorem parses_signedParts
    {tbsValue algorithm signature : Bytes}
    (bounded :
      (signedParts (encodeTlv 0x30 tbsValue) algorithm signature).length <
        2 ^ 32) :
    parseTlvWithRest
          (signedParts (encodeTlv 0x30 tbsValue) algorithm signature) =
        .ok
          (0x30, tbsValue,
            encodeTlv 0x30 algorithm ++ encodeTlv 0x03 (0x00 :: signature)) ∧
      parseTlvWithRest
          (encodeTlv 0x30 algorithm ++ encodeTlv 0x03 (0x00 :: signature)) =
        .ok (0x30, algorithm, encodeTlv 0x03 (0x00 :: signature)) ∧
      parseTlvWithRest (encodeTlv 0x03 (0x00 :: signature)) =
        .ok (0x03, 0x00 :: signature, []) := by
  have first := length_lt_encodeElement (0x30, tbsValue)
  have second := length_lt_encodeElement (0x30, algorithm)
  have third := length_lt_encodeElement (0x03, 0x00 :: signature)
  simp only [encodeElement] at first second third
  rw [signedParts, List.length_append, List.length_append] at bounded
  refine ⟨?_, ?_, ?_⟩
  · rw [signedParts, List.append_assoc]
    exact parseTlvWithRest_encodeTlv (by decide) (by omega) _
  · exact parseTlvWithRest_encodeTlv (by decide) (by omega) _
  · have read :=
      @parseTlvWithRest_encodeTlv 0x03 (0x00 :: signature) (by decide)
        (by omega) []
    rw [List.append_nil] at read
    exact read

theorem parseCertificateList_eq_ok_iff
    {crlDer : Bytes} {list : CertificateList} :
    parseCertificateList crates crlDer = .ok list ↔
      ∃ algorithm, Wraps crates crlDer list algorithm := by
  constructor
  · intro parsed
    simp only [parseCertificateList, bind_eq_ok, mapError_eq_ok,
      rejectIf_eq_ok, exists_const, pure_eq_ok, Prod.exists, ne_eq, not_not]
      at parsed
    rcases parsed with
      ⟨_, outerBody, _, outer, rfl, rfl, _, tbsValue, afterTbs, tbs, rfl, _,
        algorithm, afterSigAlg, sigAlg, rfl, signatureAlgorithm, decoded, _,
        sigValue, _, signature, rfl, rfl, unused, rfl⟩
    have outerIs := eq_encodeTlv_of_parse outer
    rw [List.append_nil] at outerIs
    have signatureIs := eq_encodeTlv_of_parse signature
    rw [List.append_nil] at signatureIs
    rw [take_eq_encodeTlv sigAlg] at decoded
    rw [drop_header outer, Nat.add_sub_cancel_left, take_eq_encodeTlv tbs]
    rcases octets_of_bitString unused with ⟨octets, rfl, nonempty⟩
    have parts :
        outerBody = signedParts (encodeTlv 0x30 tbsValue) algorithm octets := by
      rw [eq_encodeTlv_of_parse tbs, eq_encodeTlv_of_parse sigAlg,
        signatureIs, signedParts, List.append_assoc]
    have bounded := (parseTlvWithRest_eq_ok_iff.mp outer).2.1
    rw [parts] at outerIs bounded
    exact ⟨algorithm, ⟨outerIs, bounded, rfl, decoded, nonempty⟩⟩
  · rintro ⟨algorithm, wraps⟩
    rcases list with ⟨tbsValue, tbsBytes, signatureAlgorithm, signature⟩
    rcases wraps with ⟨rfl, bounded, isTbs, decoded, nonempty⟩
    simp only at isTbs bounded decoded nonempty ⊢
    subst isTbs
    have outer :=
      parseTlvWithRest_encodeTlv (by decide : LowTag 0x30) bounded []
    rw [List.append_nil] at outer
    rcases parses_signedParts bounded with ⟨tbs, sigAlg, signatureRead⟩
    simp only [parseCertificateList, bind_eq_ok, mapError_eq_ok,
      rejectIf_eq_ok, exists_const, pure_eq_ok, Prod.exists, ne_eq, not_not]
    refine
      ⟨0x30, _, [], outer, rfl, rfl, 0x30, tbsValue, _, tbs, rfl, 0x30,
        algorithm, _, sigAlg, rfl, signatureAlgorithm, ?_, 0x03, _, [],
        signatureRead, rfl, rfl, ?_, ?_⟩
    · rw [take_eq_encodeTlv sigAlg]
      exact decoded
    · rw [not_or, not_not]
      cases signature with
      | nil => exact absurd rfl nonempty
      | cons first others =>
          refine ⟨?_, rfl⟩
          simp
    · rw [drop_header outer, Nat.add_sub_cancel_left, take_eq_encodeTlv tbs]
      rfl

/-- The three parts, with these fields in the signed one. -/
def listOf (parsed : ParsedCrl) (fields : TbsFields) : CertificateList :=
  { tbsValue := encodeElements fields.elements
    tbsBytes := parsed.tbsBytes
    signatureAlgorithm := parsed.signatureAlgorithm
    signatureBytes := parsed.signatureBytes }

/--
The octets accepted as a CRL are exactly those of a complete direct CRL: a signed
part that consists of its fields in their order, the same algorithm inside and
outside, and a signature of whole octets.  What is reported is what the fields
say: the entries of the list one for one, each with its serial number, date and
reason, and extensions that the decoder reads, of which none is critical,
repeated, or one that limits the scope of the CRL.
-/
theorem parseCrl_eq_ok_iff
    (crates : Crates)
    (strict : StrictExtensions crates)
    (crlDer : Bytes)
    (parsed : ParsedCrl) :
    parseCrl crates crlDer = .ok parsed ↔
      ∃ fields algorithm,
        Wraps crates crlDer (listOf parsed fields) algorithm ∧
          FieldsSay crates fields parsed := by
  rw [parseCrl_eq_parseTbs, bind_eq_ok]
  simp only [parseCertificateList_eq_ok_iff, parseTbs_eq_ok_iff strict]
  constructor
  · rintro
      ⟨list, ⟨algorithm, wraps⟩, sameTbs, sameAlgorithm, sameSignature, fields,
        consists, meaning⟩
    have sameList : listOf parsed fields = list := by
      rw [listOf, sameTbs, sameAlgorithm, sameSignature, ← consists.octets]
    rw [← sameList] at wraps
    exact ⟨fields, algorithm, wraps, meaning⟩
  · rintro ⟨fields, algorithm, wraps, meaning⟩
    have short : (encodeElements fields.elements).length < 2 ^ 32 := by
      have bounded := wraps.bounded
      have inner :=
        length_lt_encodeElement (0x30, encodeElements fields.elements)
      rw [wraps.tbs, signedParts, List.length_append, List.length_append]
        at bounded
      simp only [encodeElement, listOf] at inner bounded
      omega
    exact
      ⟨listOf parsed fields, ⟨algorithm, wraps⟩, rfl, rfl, rfl, fields,
        consists_encodeElements meaning.lowTag short, meaning⟩

/-! ### A list with reasons -/

section Reference

open RitspLtv.Reference

/-- The reference CRL is one, and the entries say what is reported of them. -/
theorem parseCrl_eq_ok_iff_reason :
    ∃ parsed,
      parsed.revokedEntries.map RevokedEntry.reason =
          [.keyCompromise, .unspecified] ∧
        ∃ fields algorithm,
          Wraps (Reference.crates knownExtensions) reasonCrl
              (listOf parsed fields) algorithm ∧
            FieldsSay (Reference.crates knownExtensions) fields parsed := by
  have accepted :
      ((parseCrl (Reference.crates knownExtensions) reasonCrl).toOption.map
          fun parsed => parsed.revokedEntries.map RevokedEntry.reason) =
        some [.keyCompromise, .unspecified] := by
    decide +kernel
  rcases Option.map_eq_some_iff.mp accepted with ⟨parsed, read, reasons⟩
  rw [toOption_eq_some_iff] at read
  exact
    ⟨parsed, reasons,
      (parseCrl_eq_ok_iff (Reference.crates knownExtensions)
        (strictExtensions_crates knownExtensions) reasonCrl parsed).mp read⟩

end Reference

end RitspLtv.Ltv.CrlCodec
