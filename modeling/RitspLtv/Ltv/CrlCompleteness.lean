import RitspLtv.ParserWalks
import RitspLtv.Tsp.StrictDer
import RitspLtv.Ltv.SignedBytes

/-!
# What a CRL is read to say

An accepted CRL is a complete direct one: its signed part consists of the fields
that have been read and of nothing else, every element of its list of revoked
certificates is reported, and no extension limits or extends what it says.
-/

namespace RitspLtv.Ltv.CrlCompleteness

open RitspLtv.Foundation.Checks
open RitspLtv.Foundation.Consume
open RitspLtv.RustStd
open RitspLtv.DerUtils
open RitspLtv.TlvElements
open RitspLtv.TlvRoundTrip
open RitspLtv.Ltv.Crl
open RitspLtv.Ltv.SignedBytes
open RitspLtv.Ltv.Status
open RitspLtv.Tsp.StrictDer

variable {crates : Crates}

/-! ## Extensions -/

/-- The element of an extension, with its flag as far as it is written. -/
def Written (element : Element) (extension : Extension) : Prop :=
  ∃ flag, flag.getD false = extension.critical ∧
    element = (0x30, encodeElements (extensionElements extension flag))

/-- The decoder of extensions is strict: what it accepts is the form of what it returns. -/
def StrictExtensions (crates : Crates) : Prop :=
  ∀ octets extensions,
    crates.extensionsFromDer octets = .ok extensions →
      ∃ elements,
        octets = encodeElement (0x30, encodeElements elements) ∧
          List.Forall₂ Written elements extensions

/-- The reason codes of a full CRL. -/
def fullReasonCodes : List UInt8 := [0, 1, 2, 3, 4, 5, 6, 9, 10]

/-- An extension that leaves a CRL complete and direct. -/
structure Permitted (extension : Extension) : Prop where
  notCritical : extension.critical = false
  direct : extension.extnId ≠ .newUnwrap [2, 5, 29, 29]
  reason :
    extension.extnId = .newUnwrap [2, 5, 29, 21] →
      ∃ code ∈ fullReasonCodes,
        extension.extnValue = encodeElement (0x0A, [code])

/-- Extensions that are permitted, each once. -/
structure AllPermitted (extensions : List Extension) : Prop where
  distinct : (extensions.map Extension.extnId).Nodup
  each : ∀ extension ∈ extensions, Permitted extension

theorem mem_fullReasonCodes
    {code : UInt8} (bounded : ¬ code > 10) (notSeven : code ≠ 7)
    (notEight : code ≠ 8) :
    code ∈ fullReasonCodes := by
  have small : code.toNat < 11 :=
    Nat.lt_succ_of_le
      (UInt8.le_iff_toNat_le.mp (UInt8.not_lt.mp bounded))
  have all :
      ∀ number < 11,
        UInt8.ofNat number ≠ 7 → UInt8.ofNat number ≠ 8 →
          UInt8.ofNat number ∈ fullReasonCodes := by
    decide
  have ofCode := all code.toNat small
  rw [UInt8.ofNat_toNat] at ofCode
  exact ofCode notSeven notEight

theorem reasonCode_of_check
    {extnValue : Bytes} (checked : checkReasonCode extnValue = .ok ()) :
    ∃ code ∈ fullReasonCodes, extnValue = encodeElement (0x0A, [code]) := by
  simp only [checkReasonCode, bind_eq_ok, mapError_eq_ok, rejectIf_eq_ok,
    Prod.exists, not_or, not_not] at checked
  rcases checked with
    ⟨tag, value, rest, parsed, rfl, single, rfl, bounded, notSeven, notEight⟩
  rcases List.length_eq_one_iff.mp single with ⟨code, rfl⟩
  refine ⟨code, ?_, ?_⟩
  · exact mem_fullReasonCodes bounded notSeven notEight
  · have encoded := eq_encodeTlv_of_parse parsed
    rw [List.append_nil] at encoded
    exact encoded

theorem permitted_of_validateCrlExtension
    (seen : List ObjectIdentifier) (extension : Extension)
    (next : List ObjectIdentifier)
    (validated : validateCrlExtension seen extension = .ok next) :
    extension.extnId ∉ seen ∧ Permitted extension ∧
      extension.extnId ∈ next ∧ seen ⊆ next := by
  simp only [validateCrlExtension, bind_eq_ok, rejectIf_eq_ok, exists_const,
    Bool.not_eq_true] at validated
  rcases validated with ⟨fresh, notCritical, direct, validated⟩
  split at validated
  · simp only [bind_eq_ok, exists_unit_eq_ok, pure_eq_ok] at validated
    rcases validated with ⟨checked, rfl⟩
    exact
      ⟨fresh, ⟨notCritical, direct, fun _ => reasonCode_of_check checked⟩,
        List.mem_cons_self, List.subset_cons_self _ seen⟩
  · next other =>
      rw [pure_eq_ok] at validated
      subst validated
      exact
        ⟨fresh, ⟨notCritical, direct, fun same => absurd same other⟩,
          List.mem_cons_self, List.subset_cons_self _ seen⟩

/-- What is validated is permitted, and is written in the octets. -/
theorem allPermitted_of_validateCrlExtensions
    (strict : StrictExtensions crates)
    {encoded : Bytes}
    (validated : validateCrlExtensions crates encoded = .ok ()) :
    ∃ elements extensions,
      encoded = encodeElement (0x30, encodeElements elements) ∧
        List.Forall₂ Written elements extensions ∧
        AllPermitted extensions := by
  simp only [validateCrlExtensions, bind_eq_ok, mapError_eq_ok,
    rejectIf_eq_ok, exists_const] at validated
  rcases validated with ⟨extensions, decoded, _, final, walked, _⟩
  rcases strict encoded extensions decoded with ⟨elements, octets, written⟩
  rcases distinct_of_foldlM permitted_of_validateCrlExtension walked with
    ⟨distinct, _, each⟩
  exact ⟨elements, extensions, octets, written, distinct, each⟩

/-! ## Walks over written extensions -/

section Walks

variable {elements : List Element} {extensions : List Extension}

theorem lowTag_of_mem_extensionElements
    {extension : Extension} {flag : Option Bool} {element : Element}
    (member : element ∈ extensionElements extension flag) :
    LowTag element.1 := by
  cases flag with
  | none =>
      simp only [extensionElements, Option.toList_none, List.map_nil,
        List.cons_append, List.nil_append, List.mem_cons, List.not_mem_nil,
        or_false] at member
      rcases member with rfl | rfl
      · show LowTag 0x06
        decide
      · show LowTag 0x04
        decide
  | some critical =>
      simp only [extensionElements, Option.toList_some, List.map_cons,
        List.map_nil, List.cons_append, List.nil_append, List.mem_cons,
        List.not_mem_nil, or_false] at member
      rcases member with rfl | rfl | rfl
      · show LowTag 0x06
        decide
      · show LowTag 0x01
        decide
      · show LowTag 0x04
        decide

/-- A written extension consists of its identifier, its flag and its value. -/
theorem Written.consists
    {element : Element} {extension : Extension}
    (written : Written element extension)
    (bounded : element.2.length < 2 ^ 32) :
    element.1 = 0x30 ∧
      ∃ flag, Consists element.2 (extensionElements extension flag) := by
  rcases written with ⟨flag, _, rfl⟩
  exact
    ⟨rfl, flag,
      consists_encodeElements
        (fun _ member => lowTag_of_mem_extensionElements member) bounded⟩

/-- Written extensions in front of others are read one by one. -/
theorem Written.parse
    {element : Element} {extension : Extension} {rest : Bytes}
    (written : Written element extension)
    (bounded : element.2.length < 2 ^ 32) :
    parseTlvWithRest (encodeElement element ++ rest) =
      .ok (0x30, element.2, rest) := by
  rcases written with ⟨flag, _, rfl⟩
  exact Readable.parse ⟨show LowTag 0x30 by decide, bounded⟩ rest

theorem bounds_of_cons
    {element : Element}
    (bounded : (encodeElements (element :: elements)).length < 2 ^ 32) :
    element.2.length < 2 ^ 32 ∧
      (encodeElements elements).length < 2 ^ 32 := by
  have first := length_lt_encodeElement element
  rw [encodeElements_cons, List.length_append] at bounded
  omega

/-- One round of the search for an identifier. -/
theorem extensionsContainOid_eq
    {body extValue rest oidBody oidRest : Bytes} {targetOid : Bytes}
    (parsed : parseTlvWithRest body = .ok (0x30, extValue, rest))
    (identified : parseTlvWithRest extValue = .ok (0x06, oidBody, oidRest)) :
    extensionsContainOid body targetOid =
      if oidBody = targetOid then .ok true
      else extensionsContainOid rest targetOid := by
  cases body with
  | nil => cases parsed
  | cons head tail =>
      have shorter := parseTlvWithRest_shrinks parsed
      rw [List.length_cons] at shorter
      rw [extensionsContainOid, List.length_cons, extensionsContainOidWithin,
        parsed]
      simp only [ok_bind, identified, true_and]
      rw [ParserWalks.extensionsContainOidWithin_eq
        (Nat.le_of_lt_succ shorter)]
      rfl

/-- The search tells whether one of the extensions has the identifier. -/
theorem extensionsContainOid_of_written
    {targetOid : Bytes}
    (written : List.Forall₂ Written elements extensions)
    (bounded : (encodeElements elements).length < 2 ^ 32) :
    extensionsContainOid (encodeElements elements) targetOid =
      .ok (extensions.any fun extension =>
        extension.extnId.body == targetOid) := by
  induction written with
  | nil => rfl
  | @cons element extension elements extensions head tail induction =>
      rcases bounds_of_cons bounded with ⟨headBounded, tailBounded⟩
      rcases head.consists headBounded with ⟨_, flag, consists⟩
      rcases Consists.cons_iff.mp consists with ⟨_, identified, _⟩
      rw [encodeElements_cons,
        extensionsContainOid_eq (head.parse headBounded) identified,
        induction tailBounded, List.any_cons]
      by_cases same : extension.extnId.body = targetOid
      · simp [same]
      · simp [same]

/-- The number of a reason in a reason code. -/
def reasonNumber : RevocationReason → UInt8
  | .unspecified => 0
  | .keyCompromise => 1
  | .caCompromise => 2
  | .affiliationChanged => 3
  | .superseded => 4
  | .cessationOfOperation => 5
  | .certificateHold => 6
  | .removeFromCrl => 8
  | .privilegeWithdrawn => 9
  | .aaCompromise => 10
  | .unknown code => code

theorem reasonNumber_fromCode (code : UInt8) :
    reasonNumber (.fromCode code) = code := by
  unfold RevocationReason.fromCode
  split_ifs <;> simp_all [reasonNumber]

/-- What is reported as the reason, given the extensions of an entry. -/
structure ReasonOf (extensions : List Extension) (reason : RevocationReason) :
    Prop where
  present :
    ∀ extension ∈ extensions, extension.extnId = .newUnwrap [2, 5, 29, 21] →
      ∃ code ∈ fullReasonCodes,
        extension.extnValue = encodeElement (0x0A, [code]) ∧
          reason = .fromCode code ∧ reasonNumber reason = code
  absent :
    (∀ extension ∈ extensions,
        extension.extnId ≠ .newUnwrap [2, 5, 29, 21]) →
      reason = .unspecified

theorem extnId_eq_iff
    {extension : Extension} :
    extension.extnId = .newUnwrap [2, 5, 29, 21] ↔
      extension.extnId.body = reasonOidBytes := by
  rcases extension with ⟨⟨body⟩, critical, value⟩
  exact ObjectIdentifier.mk.injEq _ _ ▸ Iff.rfl

/-- The reason of a written extension: its code, if it is a reason code. -/
theorem reasonOfExtension_of_consists
    {extValue : Bytes} {extension : Extension} {flag : Option Bool}
    (consists : Consists extValue (extensionElements extension flag)) :
    reasonOfExtension extValue =
      if extension.extnId.body = reasonOidBytes then
        (findTaggedValue extension.extnValue 0x0A).bind fun enumBody =>
          enumBody.head?.map RevocationReason.fromCode
      else none := by
  have identifier :
      findTaggedValue extValue 0x06 = some extension.extnId.body := by
    rw [findTaggedValue_of_consists 0x06 consists]
    rfl
  have value : findTaggedValue extValue 0x04 = some extension.extnValue := by
    rw [findTaggedValue_of_consists 0x04 consists]
    cases flag <;> rfl
  rw [reasonOfExtension, identifier, Option.bind_eq_bind, Option.bind_some]
  split
  · rw [value]
    rfl
  · rfl

/-- One round of the search for a reason. -/
theorem parseRevocationReasonWithin_cons
    {body extValue rest : Bytes}
    (parsed : parseTlvWithRest body = .ok (0x30, extValue, rest)) :
    parseRevocationReasonWithin body.length body =
      (reasonOfExtension extValue).getD
        (parseRevocationReasonWithin rest.length rest) := by
  cases body with
  | nil => cases parsed
  | cons head tail =>
      have shorter := parseTlvWithRest_shrinks parsed
      rw [List.length_cons] at shorter
      rw [List.length_cons, parseRevocationReasonWithin, parsed]
      simp only [if_true]
      rw [ParserWalks.parseRevocationReasonWithin_eq
        (Nat.le_of_lt_succ shorter)]
      cases reasonOfExtension extValue <;> rfl

/-- The search finds the one reason code among permitted extensions. -/
theorem reasonOf_parseRevocationReasonWithin
    (written : List.Forall₂ Written elements extensions)
    (bounded : (encodeElements elements).length < 2 ^ 32)
    (permitted : AllPermitted extensions) :
    ReasonOf extensions
      (parseRevocationReasonWithin (encodeElements elements).length
        (encodeElements elements)) := by
  induction written with
  | nil =>
      constructor
      · intro extension member
        cases member
      · intro _
        rfl
  | @cons element extension elements extensions head tail induction =>
      rcases bounds_of_cons bounded with ⟨headBounded, tailBounded⟩
      rcases head.consists headBounded with ⟨_, flag, consists⟩
      rcases permitted with ⟨distinct, each⟩
      rw [List.map_cons, List.nodup_cons] at distinct
      rw [List.forall_mem_cons] at each
      have later :=
        induction tailBounded ⟨distinct.2, each.2⟩
      rw [encodeElements_cons,
        parseRevocationReasonWithin_cons (head.parse headBounded),
        reasonOfExtension_of_consists consists]
      by_cases isReason : extension.extnId = .newUnwrap [2, 5, 29, 21]
      · rcases each.1.reason isReason with ⟨code, full, value⟩
        have others :
            ∀ other ∈ extensions,
              other.extnId ≠ .newUnwrap [2, 5, 29, 21] := by
          intro other member same
          apply distinct.1
          rw [isReason, ← same]
          exact List.mem_map_of_mem member
        have single : Consists extension.extnValue [(0x0A, [code])] :=
          Consists.singleton_iff.mpr
            ⟨⟨show LowTag 0x0A by decide, by simp⟩, value⟩
        have found : findTaggedValue extension.extnValue 0x0A = some [code] := by
          rw [findTaggedValue_of_consists 0x0A single]
          rfl
        rw [if_pos (extnId_eq_iff.mp isReason), found]
        constructor
        · intro other member same
          rcases List.mem_cons.mp member with rfl | isOther
          · exact ⟨code, full, value, rfl, reasonNumber_fromCode code⟩
          · exact absurd same (others other isOther)
        · intro none
          exact absurd isReason (none extension List.mem_cons_self)
      · rw [if_neg (mt extnId_eq_iff.mpr isReason), Option.getD_none]
        constructor
        · intro other member same
          rcases List.mem_cons.mp member with rfl | isOther
          · exact absurd same isReason
          · exact later.present other isOther same
        · intro none
          apply later.absent
          intro other member
          exact none other (List.mem_cons_of_mem _ member)

end Walks

/-! ## Revoked entries -/

/-- The element of an extension list, if there is one. -/
def extensionsElement (tag : UInt8) (elements : Option (List Element)) :
    List Element :=
  (elements.map fun elements => (tag, encodeElements elements)).toList

/-- An entry consists of what is reported about it, and of permitted extensions. -/
def EntrySays (element : Element) (entry : RevokedEntry) : Prop :=
  element.1 = 0x30 ∧
    ∃ serial time written extensions,
      Consists element.2
          ((0x02, serial) :: time :: extensionsElement 0x30 written) ∧
        entry.serialNumber = parseIntegerBody serial ∧
        parseX509Time time.1 time.2 = .ok entry.revocationTime ∧
        List.Forall₂ Written (written.getD []) extensions ∧
        AllPermitted extensions ∧
        ReasonOf extensions entry.reason

theorem allPermitted_nil : AllPermitted [] := by
  constructor
  · exact List.nodup_nil
  · intro extension member
    cases member

/-- The extensions of an entry are permitted, and give its reason. -/
theorem entryExtensions_of_checked
    (strict : StrictExtensions crates)
    {entryRest : Bytes} (bounded : entryRest.length < 2 ^ 32)
    (checked :
      entryRest ≠ [] → validateCrlExtensions crates entryRest = .ok ()) :
    ∃ written extensions,
      Consists entryRest (extensionsElement 0x30 written) ∧
        List.Forall₂ Written (written.getD []) extensions ∧
        AllPermitted extensions ∧
        ReasonOf extensions (parseRevocationReason entryRest) := by
  by_cases empty : entryRest = []
  · subst empty
    refine ⟨none, [], Consists.nil_iff.mpr rfl, .nil, allPermitted_nil, ?_⟩
    constructor
    · intro extension member
      cases member
    · intro _
      rfl
  · rcases allPermitted_of_validateCrlExtensions strict (checked empty) with
      ⟨elements, extensions, octets, written, permitted⟩
    have inner := length_lt_encodeElement (0x30, encodeElements elements)
    rw [← octets] at inner
    have within : (encodeElements elements).length < 2 ^ 32 :=
      inner.trans bounded
    have single : Consists entryRest [(0x30, encodeElements elements)] :=
      Consists.singleton_iff.mpr
        ⟨⟨show LowTag 0x30 by decide, within⟩, octets⟩
    refine ⟨some elements, extensions, single, written, permitted, ?_⟩
    rcases Consists.cons_iff.mp single with ⟨rest, parsed, _⟩
    rw [parseRevocationReason, parsed]
    exact reasonOf_parseRevocationReasonWithin written within permitted

theorem reads_revokedCertificateStep
    (strict : StrictExtensions crates) :
    Reads (revokedCertificateStep crates) fun entries element next =>
      ∃ entry, EntrySays element entry ∧ next = entries ++ [entry] := by
  intro entries input next rest stepped
  simp only [revokedCertificateStep, bind_eq_ok, mapError_eq_ok,
    rejectIf_eq_ok, exists_const, Prod.exists, ne_eq, not_not] at stepped
  rcases stepped with
    ⟨tag, body, after, parsed, rfl, serialTag, serial, afterSerial, serialRead,
      rfl, timeTag, time, entryRest, timeRead, revocationTime, instant,
      stepped⟩
  have bounded : entryRest.length < 2 ^ 32 := by
    have readable : Readable (0x30, body) := (parse_iff.mp parsed).1
    have whole : body.length < 2 ^ 32 := readable.2
    have first := parseTlvWithRest_shrinks serialRead
    have second := parseTlvWithRest_shrinks timeRead
    omega
  have checked :
      entryRest ≠ [] → validateCrlExtensions crates entryRest = .ok () := by
    intro nonempty
    rw [if_pos nonempty] at stepped
    rcases bind_eq_ok.mp stepped with ⟨⟨⟩, validated, _⟩
    exact validated
  have pushed :
      (entries ++
          [{ serialNumber := parseIntegerBody serial
             revocationTime
             reason := parseRevocationReason entryRest }], after) =
        (next, rest) := by
    split at stepped
    · rcases bind_eq_ok.mp stepped with ⟨_, _, returned⟩
      exact pure_eq_ok.mp returned
    · exact pure_eq_ok.mp stepped
  cases pushed
  rcases entryExtensions_of_checked strict bounded checked with
    ⟨written, extensions, consists, form, permitted, reason⟩
  exact
    ⟨(0x30, body), parsed, _,
      ⟨rfl, serial, (timeTag, time), written, extensions,
        Consists.cons serialRead (Consists.cons timeRead consists), rfl,
        instant, form, permitted, reason⟩,
      rfl⟩

/-- The entries reported are the elements of the list, one for one. -/
theorem entries_of_parseRevokedCertificates
    (strict : StrictExtensions crates)
    {body : Bytes} {entries : List RevokedEntry}
    (read : parseRevokedCertificates crates body = .ok entries) :
    ∃ elements,
      Consists body elements ∧ List.Forall₂ EntrySays elements entries := by
  rcases visits_of_consume (reads_revokedCertificateStep strict) read with
    ⟨elements, consists, visits⟩
  rcases visits_collect_iff.mp visits with ⟨values, reported, rfl⟩
  exact ⟨elements, consists, reported⟩

/-! ## The signed part -/

/-- The fields of the signed part of a CRL. -/
structure TbsFields where
  version : Option Bytes
  algorithm : Bytes
  issuer : Bytes
  thisUpdate : Element
  nextUpdate : Option Element
  revokedCertificates : Option (List Element)
  crlExtensions : Option (List Element)

/-- The field of the CRL extensions: a wrapper around their list. -/
def crlExtensionsElement (elements : Option (List Element)) : List Element :=
  (elements.map fun elements =>
    (0xA0, encodeElement (0x30, encodeElements elements))).toList

/-- The fields, one behind the other. -/
def TbsFields.elements (fields : TbsFields) : List Element :=
  (fields.version.map fun version => (0x02, version)).toList ++
    ([(0x30, fields.algorithm)] ++
      ([(0x30, fields.issuer)] ++
        ([fields.thisUpdate] ++
          (fields.nextUpdate.toList ++
            (extensionsElement 0x30 fields.revokedCertificates ++
              crlExtensionsElement fields.crlExtensions)))))

theorem precede_of_parseCrlVersion
    {pos rest : Bytes} (read : parseCrlVersion pos = .ok rest) :
    ∃ version : Option Bytes,
      (∀ octets ∈ version, octets = [1]) ∧
        Precede (version.map fun version => (0x02, version)).toList pos
          rest := by
  unfold parseCrlVersion at read
  split at read
  · next starts =>
      simp only [bind_eq_ok, mapError_eq_ok, rejectIf_eq_ok, exists_const,
        pure_eq_ok, Prod.exists, ne_eq, not_not] at read
      rcases read with ⟨tag, version, after, parsed, isTwo, rfl⟩
      rw [tag_of_head? starts parsed] at parsed
      refine ⟨some version, ?_, Precede.cons parsed Precede.nil⟩
      intro octets member
      rw [← Option.mem_some.mp member, isTwo]
  · cases read
    refine ⟨none, ?_, Precede.nil⟩
    intro octets member
    cases member

theorem precede_of_parseInnerAlgorithm
    {algorithm : AlgorithmIdentifier} {pos rest : Bytes}
    (read : parseInnerAlgorithm crates algorithm pos = .ok rest) :
    ∃ body,
      crates.algorithmIdentifierFromDer (encodeElement (0x30, body)) =
          .ok algorithm ∧
        Precede [(0x30, body)] pos rest := by
  simp only [parseInnerAlgorithm, bind_eq_ok, mapError_eq_ok, rejectIf_eq_ok,
    exists_const, pure_eq_ok, Prod.exists, ne_eq, not_not] at read
  rcases read with ⟨tag, body, after, parsed, rfl, inner, decoded, rfl, rfl⟩
  rw [take_eq_encodeTlv parsed] at decoded
  exact ⟨body, decoded, Precede.cons parsed Precede.nil⟩

theorem precede_of_parseCrlIssuer
    {pos rest issuerDer : Bytes}
    (read : parseCrlIssuer pos = .ok (issuerDer, rest)) :
    ∃ body,
      issuerDer = encodeElement (0x30, body) ∧
        Precede [(0x30, body)] pos rest := by
  simp only [parseCrlIssuer, bind_eq_ok, mapError_eq_ok, rejectIf_eq_ok,
    exists_const, pure_eq_ok, Prod.exists, Prod.mk.injEq, ne_eq, not_not]
    at read
  rcases read with ⟨tag, body, after, parsed, rfl, rfl, rfl⟩
  exact ⟨body, take_eq_encodeTlv parsed, Precede.cons parsed Precede.nil⟩

theorem precede_of_parseThisUpdate
    {pos rest : Bytes} {thisUpdate : Chrono.DateTime}
    (read : parseThisUpdate pos = .ok (thisUpdate, rest)) :
    ∃ element : Element,
      parseX509Time element.1 element.2 = .ok thisUpdate ∧
        Precede [element] pos rest := by
  simp only [parseThisUpdate, bind_eq_ok, mapError_eq_ok, pure_eq_ok,
    Prod.exists, Prod.mk.injEq] at read
  rcases read with ⟨tag, body, after, parsed, instant, time, rfl, rfl⟩
  exact ⟨(tag, body), time, Precede.cons parsed Precede.nil⟩

theorem precede_of_parseNextUpdate
    {pos rest : Bytes} {nextUpdate : Option Chrono.DateTime}
    (read : parseNextUpdate pos = .ok (nextUpdate, rest)) :
    ∃ element : Option Element,
      Option.Rel
          (fun element time => parseX509Time element.1 element.2 = .ok time)
          element nextUpdate ∧
        Precede element.toList pos rest := by
  unfold parseNextUpdate at read
  split at read
  · simp only [bind_eq_ok, mapError_eq_ok, pure_eq_ok, Prod.exists,
      Prod.mk.injEq] at read
    rcases read with ⟨tag, body, after, parsed, instant, time, rfl, rfl⟩
    exact
      ⟨some (tag, body), .some time, Precede.cons parsed Precede.nil⟩
  · cases read
    exact ⟨none, .none, Precede.nil⟩

theorem precede_of_parseRevokedField
    (strict : StrictExtensions crates)
    {pos rest : Bytes} {entries : List RevokedEntry}
    (read : parseRevokedField crates pos = .ok (entries, rest)) :
    ∃ elements : Option (List Element),
      List.Forall₂ EntrySays (elements.getD []) entries ∧
        Precede (extensionsElement 0x30 elements) pos rest := by
  unfold parseRevokedField at read
  split at read
  · next starts =>
      simp only [bind_eq_ok, mapError_eq_ok, pure_eq_ok, Prod.exists,
        Prod.mk.injEq] at read
      rcases read with ⟨tag, body, after, parsed, entries, list, rfl, rfl⟩
      rw [tag_of_head? starts parsed] at parsed
      rcases entries_of_parseRevokedCertificates strict list with
        ⟨elements, consists, reported⟩
      rw [consists.octets] at parsed
      exact ⟨some elements, reported, Precede.cons parsed Precede.nil⟩
  · cases read
    exact ⟨none, .nil, Precede.nil⟩

/-- No extension makes a CRL partial: it is no delta CRL, and not partitioned. -/
def Undivided (extensions : List Extension) : Prop :=
  ∀ extension ∈ extensions,
    extension.extnId ≠ .newUnwrap [2, 5, 29, 27] ∧
      extension.extnId ≠ .newUnwrap [2, 5, 29, 28]

theorem undivided_of_search
    {elements : List Element} {extensions : List Extension}
    (written : List.Forall₂ Written elements extensions)
    (bounded : (encodeElements elements).length < 2 ^ 32)
    {hasDelta hasIdp : Bool}
    (delta :
      extensionsContainOid (encodeElements elements) deltaCrlIndicatorOid =
        .ok hasDelta)
    (idp :
      extensionsContainOid (encodeElements elements) issuingDistPointOid =
        .ok hasIdp)
    (noDelta : hasDelta = false) (noIdp : hasIdp = false) :
    Undivided extensions := by
  rw [extensionsContainOid_of_written written bounded, noDelta,
    Except.ok.injEq, List.any_eq_false] at delta
  rw [extensionsContainOid_of_written written bounded, noIdp,
    Except.ok.injEq, List.any_eq_false] at idp
  intro extension member
  constructor
  · intro same
    apply delta extension member
    rw [same]
    rfl
  · intro same
    apply idp extension member
    rw [same]
    rfl

theorem precede_of_parseCrlExtensionsField
    (strict : StrictExtensions crates)
    {pos rest : Bytes}
    (read : parseCrlExtensionsField crates pos = .ok rest) :
    ∃ (elements : Option (List Element)) (extensions : List Extension),
      List.Forall₂ Written (elements.getD []) extensions ∧
        AllPermitted extensions ∧ Undivided extensions ∧
        Precede (crlExtensionsElement elements) pos rest := by
  unfold parseCrlExtensionsField at read
  split at read
  · next starts =>
      simp only [bind_eq_ok, mapError_eq_ok, rejectIf_eq_ok, exists_const,
        exists_unit_eq_ok, pure_eq_ok, Prod.exists, ne_eq, not_not,
        Bool.not_eq_true] at read
      rcases read with
        ⟨tag, wrapBody, after, wrapper, rfl, seqTag, body, afterSequence,
          sequence, rfl, rfl, hasDelta, delta, noDelta, hasIdp, idp, noIdp,
          validated, rfl⟩
      rw [tag_of_head? starts wrapper] at wrapper
      rcases allPermitted_of_validateCrlExtensions strict validated with
        ⟨elements, extensions, octets, written, permitted⟩
      have wrapReadable : Readable (0xA0, wrapBody) :=
        (parse_iff.mp wrapper).1
      have bounded : wrapBody.length < 2 ^ 32 := wrapReadable.2
      have within : (encodeElements elements).length < 2 ^ 32 := by
        have inner := length_lt_encodeElement (0x30, encodeElements elements)
        rw [← octets] at inner
        exact inner.trans bounded
      have content := parse_of_short (by decide) (octets ▸ bounded)
      rw [← octets, sequence, Except.ok.injEq, Prod.mk.injEq,
        Prod.mk.injEq] at content
      rw [content.2.1] at delta idp
      rw [octets] at wrapper
      exact
        ⟨some elements, extensions, written, permitted,
          undivided_of_search written within delta idp noDelta noIdp,
          Precede.cons wrapper Precede.nil⟩
  · cases read
    refine ⟨none, [], .nil, allPermitted_nil, ?_, Precede.nil⟩
    intro extension member
    cases member

/-! ## The list -/

/-- A CRL says what its signed fields say, and they are all there is. -/
structure CompleteCrl (crates : Crates) (parsed : ParsedCrl)
    (fields : TbsFields) : Prop where
  nothingElse :
    parsed.tbsBytes = encodeElement (0x30, encodeElements fields.elements)
  version : ∀ octets ∈ fields.version, octets = [1]
  algorithm :
    crates.algorithmIdentifierFromDer
        (encodeElement (0x30, fields.algorithm)) =
      .ok parsed.signatureAlgorithm
  issuer : parsed.issuerDer = encodeElement (0x30, fields.issuer)
  thisUpdate :
    parseX509Time fields.thisUpdate.1 fields.thisUpdate.2 =
      .ok parsed.thisUpdate
  nextUpdate :
    Option.Rel
      (fun element time => parseX509Time element.1 element.2 = .ok time)
      fields.nextUpdate parsed.nextUpdate
  entries :
    List.Forall₂ EntrySays (fields.revokedCertificates.getD [])
      parsed.revokedEntries
  extensions :
    ∃ extensions,
      List.Forall₂ Written (fields.crlExtensions.getD []) extensions ∧
        AllPermitted extensions ∧ Undivided extensions

/--
An accepted CRL is a complete direct CRL with nothing lost.  Its signed part
consists of the fields read, its entries are the elements of the list of revoked
certificates, one for one and in their order, and no extension of the CRL or of
an entry is critical or repeated, or makes it a delta, partitioned or indirect
CRL; a reason code is one octet that a full CRL may contain, and is reported.
-/
theorem parseCrl_complete
    (crates : Crates)
    (strict : StrictExtensions crates)
    (crlDer : Bytes)
    (parsed : ParsedCrl)
    (accepted : parseCrl crates crlDer = .ok parsed) :
    ∃ fields algorithm,
      crlDer =
          encodeTlv 0x30
            (parsed.tbsBytes ++ encodeTlv 0x30 algorithm ++
              encodeTlv 0x03 (0x00 :: parsed.signatureBytes)) ∧
        CompleteCrl crates parsed fields := by
  rcases parseCrl_layout accepted with ⟨_, algorithm, _, _, whole⟩
  simp only [parseCrl, bind_eq_ok, rejectIf_eq_ok, exists_const, pure_eq_ok,
    Prod.exists, ne_eq, not_not] at accepted
  rcases accepted with
    ⟨list, outer, _, version, _, inner, issuerDer, _, issuer, thisUpdate, _,
      this, nextUpdate, _, next, entries, _, revoked, _, extensions, rfl,
      rfl⟩
  rcases precede_of_parseCrlVersion version with
    ⟨versionOctets, isTwo, versionFirst⟩
  rcases precede_of_parseInnerAlgorithm inner with
    ⟨innerBody, decoded, algorithmFirst⟩
  rcases precede_of_parseCrlIssuer issuer with
    ⟨issuerBody, issuerIs, issuerFirst⟩
  rcases precede_of_parseThisUpdate this with
    ⟨thisElement, thisRead, thisFirst⟩
  rcases precede_of_parseNextUpdate next with
    ⟨nextElement, nextRead, nextFirst⟩
  rcases precede_of_parseRevokedField strict revoked with
    ⟨revokedElements, reported, revokedFirst⟩
  rcases precede_of_parseCrlExtensionsField strict extensions with
    ⟨extensionElements, written, form, permitted, undivided, extensionsFirst⟩
  have all :=
    versionFirst.append (algorithmFirst.append (issuerFirst.append
      (thisFirst.append (nextFirst.append
        (revokedFirst.append extensionsFirst)))))
  refine
    ⟨⟨versionOctets, innerBody, issuerBody, thisElement, nextElement,
        revokedElements, extensionElements⟩,
      algorithm, whole, ?_⟩
  constructor
  · have consists := all [] (Consists.nil_iff.mpr rfl)
    rw [List.append_nil] at consists
    show list.tbsBytes = _
    rw [(outerLayer_of_parseCertificateList outer).tbs, consists.octets]
    rfl
  · exact isTwo
  · exact decoded
  · exact issuerIs
  · exact thisRead
  · exact nextRead
  · exact reported
  · exact ⟨written, form, permitted, undivided⟩

/-! ### A complete list -/

section Reference

open RitspLtv.Reference

/-- The element that an extension is encoded as. -/
def extensionElement (extension : Extension) : Element :=
  (0x30,
    encodeElements
      (extensionElements extension
        (if extension.critical then some true else none)))

theorem encodeExtension_eq (extension : Extension) :
    encodeExtension extension =
      encodeElement (extensionElement extension) := by
  rcases extension with ⟨oid, critical, value⟩
  cases critical <;> rfl

theorem strictExtensions_crates (known : Known) :
    StrictExtensions (Reference.crates known) := by
  intro octets extensions decoded
  refine ⟨extensions.map extensionElement, ?_, ?_⟩
  · have same : encodeExtension = encodeElement ∘ extensionElement :=
      funext encodeExtension_eq
    rw [← (decodeKnown_eq_ok decoded).2, encodeExtensions, same,
      ← List.map_map, encodeSequenceFromParts, ← List.flatMap_def]
    rfl
  · rw [List.forall₂_map_left_iff, List.forall₂_same]
    intro extension _
    refine ⟨_, ?_, rfl⟩
    cases extension.critical <;> rfl

/-- The reason code `keyCompromise`. -/
def keyCompromise : Extension :=
  ⟨.newUnwrap [2, 5, 29, 21], false, encodeTlv 0x0A [1]⟩

/-- A CRL number. -/
def crlNumber : Extension :=
  ⟨.newUnwrap [2, 5, 29, 20], false, encodeTlv 0x02 [7]⟩

/-- The known encodings, with these extensions. -/
def knownExtensions : Known :=
  { known with extensions := [[keyCompromise], [crlNumber]] }

/-- A CRL of the root with an entry that gives a reason, and one that gives none. -/
def reasonCrl : Bytes :=
  encodeSigned
    (encodeSequenceFromParts
      [encodeTlv 0x02 [1], encodeAlgorithmIdentifier ecdsaWithSha256,
        encodeName root.tbsCertificate.subject, encodeTime (.utcTime year2026),
        encodeTime (.utcTime year2030),
        encodeSequenceFromParts
          [encodeSequenceFromParts
              [encodeTlv 0x02 [5], encodeTime (.utcTime year2025),
                encodeExtensions [keyCompromise]],
            encodeRevokedEntry ([6], .utcTime year2025)],
        encodeTlv 0xA0 (encodeExtensions [crlNumber])])
    ecdsaWithSha256 (publicKey 0xA1)

/-- The CRL is complete, and reports both entries. -/
theorem parseCrl_complete_reason :
    ∃ parsed,
      parseCrl (Reference.crates knownExtensions) reasonCrl = .ok parsed ∧
        parsed.revokedEntries.map RevokedEntry.reason =
          [.keyCompromise, .unspecified] ∧
        ∃ fields algorithm,
          reasonCrl =
              encodeTlv 0x30
                (parsed.tbsBytes ++ encodeTlv 0x30 algorithm ++
                  encodeTlv 0x03 (0x00 :: parsed.signatureBytes)) ∧
            CompleteCrl (Reference.crates knownExtensions) parsed fields := by
  have accepted :
      ((parseCrl (Reference.crates knownExtensions) reasonCrl).toOption.map
          fun parsed => parsed.revokedEntries.map RevokedEntry.reason) =
        some [.keyCompromise, .unspecified] := by
    decide +kernel
  rcases Option.map_eq_some_iff.mp accepted with ⟨parsed, read, reasons⟩
  rw [toOption_eq_some_iff] at read
  exact
    ⟨parsed, read, reasons,
      parseCrl_complete (Reference.crates knownExtensions)
        (strictExtensions_crates knownExtensions) reasonCrl parsed read⟩

end Reference

end RitspLtv.Ltv.CrlCompleteness
