import Mathlib.Data.List.Nodup
import RitspLtv.Tsp.StrictReference
import RitspLtv.Tsp.Token

/-!
# The form of a `TSTInfo`

What is accepted as a `TSTInfo` is one SEQUENCE with its mandatory fields and
optional ones, each at most once and in their order.  The check of the TSA name
walks over the same octets again; it arrives at the same optional fields, so the
name it judges is the one that was accepted.
-/

namespace RitspLtv.Tsp.InfoGrammar

open RitspLtv.Foundation.Checks
open RitspLtv.Foundation.Consume
open RitspLtv.RustStd
open RitspLtv.DerUtils
open RitspLtv.TlvRoundTrip
open RitspLtv.TlvElements
open RitspLtv.Crypto.Algorithm
open RitspLtv.Tsp.Cms
open RitspLtv.Tsp.Info
open RitspLtv.Tsp.Token
open RitspLtv.Tsp.StrictDer

/-! ## Forms of the fields -/

/-- The elements of a `MessageImprint`. -/
def imprintElements (algorithm : AlgorithmIdentifier) (hash : Bytes) :
    List Element :=
  [(0x30, encodeElements (algorithmElements algorithm)), (0x04, hash)]

/-- The tags of the components of an `Accuracy`, in their order. -/
def accuracyTags : List UInt8 := [0x02, 0x80, 0x81]

/-- Seconds, milliseconds and microseconds, each at most once. -/
def AccuracyForm (body : Bytes) : Prop :=
  ∃ components,
    Consists body components ∧
    (components.map Prod.fst).Sublist accuracyTags ∧
    ∀ component ∈ components, ∃ number,
      Denotes component.2 number ∧
      (component.1 ≠ 0x02 → 1 ≤ number ∧ number ≤ 999)

/-- One element with the tag of a `GeneralName`. -/
def NameForm (body : Bytes) : Prop :=
  ∃ name, Consists body [name] ∧ name.1 ∈ generalNameTags

/-- An extension as an element. -/
def ExtensionForm (element : Element) (extension : Extension) : Prop :=
  element.1 = 0x30 ∧
    ∃ flag, flag.getD false = extension.critical ∧
      element.2 = encodeElements (extensionElements extension flag)

/-- Extensions of which none is critical and none is repeated. -/
def ExtensionsForm (body : Bytes) : Prop :=
  ∃ elements extensions,
    extensions ≠ [] ∧
    Consists body elements ∧
    List.Forall₂ ExtensionForm elements extensions ∧
    (∀ extension ∈ extensions, extension.critical = false) ∧
    (extensions.map Extension.extnId).Nodup

/-- The tags of the optional fields, in their order. -/
def optionalTags : List UInt8 := [0x30, 0x01, 0x02, 0xA0, 0xA1]

/-- The forms of the optional fields. -/
inductive OptionalForm : Element → Prop
  | accuracy {body} : AccuracyForm body → OptionalForm (0x30, body)
  | ordering (truth) : OptionalForm (0x01, booleanBody truth)
  | nonce {body} {number : UInt64} :
      Denotes body number.toNat → OptionalForm (0x02, body)
  | tsa {body} : NameForm body → OptionalForm (0xA0, body)
  | extensions {body} : ExtensionsForm body → OptionalForm (0xA1, body)

/-! ## Reading the fields -/

section Fields

variable {crates : CmsCrates} {maxLength : Nat} {body : Bytes}

theorem oid_of_oidToDigestAlgorithm
    {oid : ObjectIdentifier} {digest : DigestAlgorithm}
    (known : oidToDigestAlgorithm oid = .ok digest) :
    oid = digest.oid := by
  unfold oidToDigestAlgorithm at known
  split at known
  · next algorithm found =>
      cases known
      exact DigestAlgorithm.oid_of_fromOid found
  · cases known

theorem imprint_of_parseMessageImprint
    (strict : Strict crates maxLength)
    {digest : DigestAlgorithm} {hash : Bytes}
    (parsed : parseMessageImprint crates body = .ok (digest, hash)) :
    ∃ algorithm,
      Consists body (imprintElements algorithm hash) ∧
      algorithm.oid = digest.oid ∧
      (∀ parameters ∈ algorithm.parameters, parameters = anyNull) ∧
      hash.length = digest.outputSize := by
  simp only [parseMessageImprint, bind_eq_ok, mapError_eq_ok,
    rejectIf_eq_ok, exists_const, pure_eq_ok, Prod.exists,
    Prod.mk.injEq, not_not] at parsed
  rcases parsed with
    ⟨first, rest, firstParsed, algorithm, decoded, found, digestFound,
      parameters, second, trailing, secondParsed, rfl, size, rfl, rfl⟩
  rcases element_of_parseTstField strict firstParsed with
    ⟨⟨_, algorithmBody⟩, firstRead, rfl, rfl, _⟩
  rcases element_of_parseTstField strict secondParsed with
    ⟨⟨_, hash⟩, secondRead, rfl, rfl, _⟩
  have octets : algorithmBody = encodeElements (algorithmElements algorithm) :=
    (strict.algorithmIdentifier decoded).2
  refine ⟨algorithm, ?_, ?_, ?_, size⟩
  · rw [imprintElements, ← octets]
    exact .cons firstRead (.single secondRead)
  · exact oid_of_oidToDigestAlgorithm digestFound
  · intro other member
    by_contra different
    exact parameters ⟨other, member, different⟩

/-! ### Accuracy -/

theorem accuracyTags_of_accuracyRank
    {tag : UInt8} {rank : Nat}
    (known : accuracyRank tag = .ok rank) :
    accuracyTags[rank - 1]? = some tag := by
  unfold accuracyRank at known
  split_ifs at known with seconds millis micros
  all_goals
    cases known
    simp_all [accuracyTags]

/-- What a round of the loop over an `Accuracy` establishes. -/
def AccuracyRound (crates : CmsCrates) (last : Nat) (component : Element)
    (rank : Nat) : Prop :=
  accuracyRank component.1 = .ok rank ∧ last < rank ∧
    checkAccuracyComponent crates rank ⟨0x02, component.2⟩ = .ok ()

theorem reads_accuracyStep
    (strict : Strict crates maxLength) :
    Reads (accuracyStep crates) (AccuracyRound crates) := by
  intro last input next rest stepped
  simp only [accuracyStep, bind_eq_ok, rejectIf_eq_ok, exists_const,
    exists_unit_eq_ok, pure_eq_ok, Prod.exists, Prod.mk.injEq] at stepped
  rcases stepped with
    ⟨rank, known, behind, field, after, parsed, checked, rfl, rfl⟩
  rcases element_of_parseTstField strict parsed with
    ⟨component, read, tag, rfl, _⟩
  exact ⟨component, read, tag ▸ known, Nat.not_le.mp behind, checked⟩

theorem component_of_accuracyRound
    (strict : Strict crates maxLength)
    {last rank : Nat} {component : Element}
    (round : AccuracyRound crates last component rank) :
    ∃ number, Denotes component.2 number ∧
      (component.1 ≠ 0x02 → 1 ≤ number ∧ number ≤ 999) := by
  rcases round with ⟨known, _, checked⟩
  unfold checkAccuracyComponent at checked
  by_cases first : rank = 1
  · subst first
    have seconds : some 0x02 = some component.1 :=
      accuracyTags_of_accuracyRank known
    simp only [if_pos, bind_eq_ok, mapError_eq_ok, pure_eq_ok] at checked
    rcases checked with ⟨_, decoded, _⟩
    rcases (strict.uint decoded).2 with ⟨number, denotes⟩
    refine ⟨number, denotes, ?_⟩
    intro other
    exact absurd (Option.some.inj seconds).symm other
  · simp only [if_neg first, bind_eq_ok, mapError_eq_ok,
      rejectIf_eq_ok] at checked
    rcases checked with ⟨fraction, decoded, bounds⟩
    refine ⟨fraction.toNat, (strict.u16 decoded).2, fun _ => ?_⟩
    rw [UInt16.lt_iff_toNat_lt, UInt16.lt_iff_toNat_lt] at bounds
    change ¬ (fraction.toNat < 1 ∨ 999 < fraction.toNat) at bounds
    omega

theorem accuracyForm_of_validateTstAccuracy
    (strict : Strict crates maxLength)
    (valid : validateTstAccuracy crates body = .ok ()) :
    AccuracyForm body := by
  simp only [validateTstAccuracy, bind_eq_ok, pure_eq_ok] at valid
  rcases valid with ⟨final, looped, _⟩
  rcases visits_of_consume (reads_accuracyStep strict) looped with
    ⟨components, consists, visits⟩
  refine ⟨components, consists, ?_, ?_⟩
  · have ordered :=
      @sublist_of_visits _ _ accuracyTags id
        (fun _ _ _ round =>
          ⟨round.2.1, accuracyTags_of_accuracyRank round.1⟩)
        _ _ _ visits
    exact ordered
  · exact
      forall_of_visits
        (fun _ _ _ round => component_of_accuracyRound strict round) visits

/-! ### Name and extensions -/

theorem nameForm_of_validateTstTsaName
    (strict : Strict crates maxLength)
    (valid : validateTstTsaName crates body = .ok ()) :
    NameForm body := by
  cases body with
  | nil => cases valid
  | cons tag following =>
      simp only [validateTstTsaName, bind_eq_ok, rejectIf_eq_ok,
        exists_const, Prod.exists, not_not] at valid
      rcases valid with ⟨known, field, rest, parsed, rfl⟩
      rcases element_of_parseTstField strict parsed with
        ⟨name, read, rfl, _, _⟩
      exact ⟨name, .single read, known⟩

/-- What a round of the loop over extensions establishes. -/
def ExtensionRound (seen : List ObjectIdentifier) (element : Element)
    (next : List ObjectIdentifier) : Prop :=
  ∃ extension,
    ExtensionForm element extension ∧ extension.critical = false ∧
      extension.extnId ∉ seen ∧ next = extension.extnId :: seen

theorem reads_tstExtensionStep
    (strict : Strict crates maxLength) :
    Reads (tstExtensionStep crates) ExtensionRound := by
  intro seen input next rest stepped
  simp only [tstExtensionStep, bind_eq_ok, mapError_eq_ok, rejectIf_eq_ok,
    exists_const, pure_eq_ok, Prod.exists, Prod.mk.injEq] at stepped
  rcases stepped with
    ⟨field, after, parsed, extension, decoded, fresh, uncritical, rfl, rfl⟩
  rcases element_of_parseTstField strict parsed with
    ⟨element, read, tag, rfl, _⟩
  refine
    ⟨element, read, extension, ⟨tag, (strict.extension decoded).2⟩, ?_,
      fresh, rfl⟩
  exact Bool.eq_false_of_not_eq_true uncritical

/-- Extensions that were read are new, and different from each other. -/
theorem extensions_of_visits
    {seen final : List ObjectIdentifier} {elements : List Element}
    (visits : Visits ExtensionRound seen elements final) :
    ∃ extensions,
      List.Forall₂ ExtensionForm elements extensions ∧
      (∀ extension ∈ extensions, extension.critical = false) ∧
      (∀ extension ∈ extensions, extension.extnId ∉ seen) ∧
      (extensions.map Extension.extnId).Nodup := by
  induction elements generalizing seen with
  | nil => exact ⟨[], .nil, by simp, by simp, List.nodup_nil⟩
  | cons element elements induction =>
      rcases visits with
        ⟨next, ⟨extension, form, uncritical, fresh, rfl⟩, visits⟩
      rcases induction visits with
        ⟨extensions, forms, uncriticals, later, distinct⟩
      refine ⟨extension :: extensions, .cons form forms, ?_, ?_, ?_⟩
      · exact List.forall_mem_cons.mpr ⟨uncritical, uncriticals⟩
      · refine List.forall_mem_cons.mpr ⟨fresh, ?_⟩
        intro other member
        exact List.not_mem_of_not_mem_cons (later other member)
      · rw [List.map_cons, List.nodup_cons]
        refine ⟨?_, distinct⟩
        intro repeated
        rcases List.mem_map.mp repeated with ⟨other, member, same⟩
        exact later other member (same ▸ List.mem_cons_self)

theorem extensionsForm_of_validateTstExtensions
    (strict : Strict crates maxLength)
    (valid : validateTstExtensions crates body = .ok ()) :
    ExtensionsForm body := by
  simp only [validateTstExtensions, bind_eq_ok, rejectIf_eq_ok,
    exists_const, pure_eq_ok] at valid
  rcases valid with ⟨nonempty, final, looped, _⟩
  rcases visits_of_consume (reads_tstExtensionStep strict) looped with
    ⟨elements, consists, visits⟩
  rcases extensions_of_visits visits with
    ⟨extensions, forms, uncritical, _, distinct⟩
  refine ⟨elements, extensions, ?_, consists, forms, uncritical, distinct⟩
  rintro rfl
  cases forms
  exact nonempty (Consists.nil_iff.mp consists)

/-! ### Optional fields -/

theorem optionalTags_of_optionalField
    {tag : UInt8} {rank : Nat} {context : String}
    (known : optionalField tag = .ok (rank, context)) :
    optionalTags[rank - 1]? = some tag := by
  unfold optionalField at known
  split_ifs at known
  all_goals
    cases known
    simp_all [optionalTags]

/-- What a round of the loop over optional fields establishes. -/
def OptionalRound (crates : CmsCrates) (state : Nat × Option UInt64)
    (field : Element) (next : Nat × Option UInt64) : Prop :=
  Decodes crates field ∧
    ∃ context,
      optionalField field.1 = .ok (next.1, context) ∧ state.1 < next.1 ∧
        checkOptionalField crates next.1 context state.2 (ofElement field) =
          .ok next.2

theorem reads_optionalFieldStep
    (strict : Strict crates maxLength) :
    Reads (optionalFieldStep crates) (OptionalRound crates) := by
  intro state input next rest stepped
  simp only [optionalFieldStep, bind_eq_ok, rejectIf_eq_ok, exists_const,
    pure_eq_ok, Prod.exists, Prod.mk.injEq] at stepped
  rcases stepped with
    ⟨rank, context, known, behind, field, after, parsed, nonce, checked,
      rfl, rfl⟩
  rcases element_of_parseTstField strict parsed with
    ⟨element, read, tag, rfl, decodes⟩
  exact
    ⟨element, read, decodes, context, tag ▸ known, Nat.not_le.mp behind,
      checked⟩

/-- Only the nonce is kept. -/
def Keeps (field : Element) (before after : Option UInt64) : Prop :=
  (field.1 = 0x02 →
    ∃ number, after = some number ∧ Denotes field.2 number.toNat) ∧
  (field.1 ≠ 0x02 → after = before)

theorem keeps_of_other
    {tag : UInt8} {body : Bytes} {nonce : Option UInt64} (other : tag ≠ 0x02) :
    Keeps (tag, body) nonce nonce :=
  ⟨fun isNonce => absurd isNonce other, fun _ => rfl⟩

theorem form_of_optionalRound
    (strict : Strict crates maxLength)
    {state next : Nat × Option UInt64} {field : Element}
    (round : OptionalRound crates state field next) :
    OptionalForm field ∧ Keeps field state.2 next.2 := by
  rcases round with ⟨_, context, known, _, checked⟩
  rcases next with ⟨rank, nonce⟩
  rcases field with ⟨tag, body⟩
  unfold optionalField at known
  simp only at checked known ⊢
  split_ifs at known with accuracy ordering isNonce tsa extensions
  all_goals
    cases known
    simp only [checkOptionalField, ofElement, Nat.reduceEqDiff, reduceIte,
      OfNat.ofNat_ne_one, bind_eq_ok, mapError_eq_ok, pure_eq_ok,
      exists_unit_eq_ok] at checked
  · rcases checked with ⟨valid, rfl⟩
    subst accuracy
    exact
      ⟨.accuracy (accuracyForm_of_validateTstAccuracy strict valid),
        keeps_of_other (by decide)⟩
  · rcases checked with ⟨truth, decoded, rfl⟩
    subst ordering
    have octets : body = booleanBody truth := (strict.bool decoded).2
    rw [octets]
    exact ⟨.ordering truth, keeps_of_other (by decide)⟩
  · rcases checked with ⟨number, decoded, rfl⟩
    subst isNonce
    have denotes : Denotes body number.toNat := (strict.u64.mp decoded).2
    exact
      ⟨.nonce denotes, fun _ => ⟨number, rfl, denotes⟩,
        fun other => absurd rfl other⟩
  · rcases checked with ⟨valid, rfl⟩
    subst tsa
    exact
      ⟨.tsa (nameForm_of_validateTstTsaName strict valid),
        keeps_of_other (by decide)⟩
  · rcases checked with ⟨valid, rfl⟩
    subst extensions
    exact
      ⟨.extensions (extensionsForm_of_validateTstExtensions strict valid),
        keeps_of_other (by decide)⟩

/-- The nonce that is kept is that of the last field with its tag. -/
theorem nonce_of_visits
    (strict : Strict crates maxLength)
    {state final : Nat × Option UInt64} {fields : List Element}
    (visits : Visits (OptionalRound crates) state fields final) :
    (∃ body number, (0x02, body) ∈ fields ∧ final.2 = some number ∧
        Denotes body number.toNat) ∨
      ((∀ body, (0x02, body) ∉ fields) ∧ final.2 = state.2) := by
  induction fields generalizing state with
  | nil =>
      refine .inr ⟨fun body => List.not_mem_nil, ?_⟩
      exact congrArg Prod.snd visits
  | cons field fields induction =>
      rcases visits with ⟨next, round, visits⟩
      have keeps := (form_of_optionalRound strict round).2
      rcases induction visits with
        ⟨body, number, member, kept, denotes⟩ | ⟨absent, kept⟩
      · exact
          .inl
            ⟨body, number, List.mem_cons_of_mem field member, kept, denotes⟩
      · by_cases isNonce : field.1 = 0x02
        · rcases keeps.1 isNonce with ⟨number, replaced, denotes⟩
          refine .inl ⟨field.2, number, ?_, kept.trans replaced, denotes⟩
          rw [← isNonce]
          exact List.mem_cons_self
        · refine .inr ⟨?_, kept.trans (keeps.2 isNonce)⟩
          intro body member
          rcases List.mem_cons.mp member with rfl | later
          · exact isNonce rfl
          · exact absent body later

end Fields

/-! ## The sequence -/

/-- The fields in front of the optional ones. -/
def mandatoryFields (version policy imprint serialNumber genTime : Bytes) :
    List Element :=
  [(0x02, version), (0x06, policy), (0x30, imprint), (0x02, serialNumber),
    (0x18, genTime)]

theorem not_mem_mandatoryFields
    {version policy imprint serialNumber genTime name : Bytes} :
    ((0xA0, name) : Element) ∉
      mandatoryFields version policy imprint serialNumber genTime := by
  simp [mandatoryFields]

/-- The octets of a `TSTInfo`, with its optional fields. -/
structure Layout (derBytes : Bytes) (info : TstInfo)
    (optional : List Element) : Prop where
  fields :
    ∃ (version : Bytes) (policy : ObjectIdentifier)
        (algorithm : AlgorithmIdentifier),
      Denotes version 1 ∧
      info.policyOid = some policy.toString ∧
      algorithm.oid = info.hashAlgorithm.oid ∧
      (∀ parameters ∈ algorithm.parameters, parameters = anyNull) ∧
      ∃ body, Consists derBytes [(0x30, body)] ∧
        Consists body
          (mandatoryFields version policy.body
              (encodeElements (imprintElements algorithm info.messageHash))
              info.serialNumber info.genTimeDer ++
            optional)
  messageHash : info.messageHash.length = info.hashAlgorithm.outputSize
  serialNumber : IsInteger info.serialNumber
  inOrder : (optional.map Prod.fst).Sublist optionalTags
  forms : ∀ field ∈ optional, OptionalForm field
  nonce :
    ∀ number, info.nonce = some number ↔
      ∃ body, (0x02, body) ∈ optional ∧ Denotes body number.toNat

section Sequence

variable {crates : CmsCrates} {maxLength : Nat}
variable {derBytes : Bytes} {info : TstInfo} {optional : List Element}

/-- Fields that are in order have different tags. -/
theorem eq_of_mem_optional
    (inOrder : (optional.map Prod.fst).Sublist optionalTags)
    {tag : UInt8} {body other : Bytes}
    (member : (tag, body) ∈ optional) (otherMember : (tag, other) ∈ optional) :
    body = other := by
  have distinct : (optional.map Prod.fst).Nodup := inOrder.nodup (by decide)
  have same :=
    List.inj_on_of_nodup_map distinct member otherMember rfl
  exact (Prod.mk.inj same).2

theorem Denotes.unique
    {body : Bytes} {left right : Nat}
    (first : Denotes body left) (second : Denotes body right) :
    left = right := by
  have same := first.2.symm.trans second.2
  exact Int.ofNat.inj same

/-- The nonce is that of the field with its tag. -/
theorem nonce_iff_of_visits
    (strict : Strict crates maxLength)
    {last : Nat} {nonce : Option UInt64}
    (inOrder : (optional.map Prod.fst).Sublist optionalTags)
    (visits :
      Visits (OptionalRound crates) (0, none) optional (last, nonce))
    (number : UInt64) :
    nonce = some number ↔
      ∃ body, (0x02, body) ∈ optional ∧ Denotes body number.toNat := by
  rcases nonce_of_visits strict visits with
    ⟨found, value, member, kept, denotes⟩ | ⟨absent, kept⟩
  · have kept : nonce = some value := kept
    rw [kept, Option.some.injEq]
    constructor
    · rintro rfl
      exact ⟨found, member, denotes⟩
    · rintro ⟨body, otherMember, otherDenotes⟩
      rw [eq_of_mem_optional inOrder otherMember member] at otherDenotes
      exact UInt64.toNat_inj.mp (Denotes.unique denotes otherDenotes)
  · have kept : nonce = none := kept
    rw [kept]
    constructor
    · intro impossible
      cases impossible
    · rintro ⟨body, member, _⟩
      exact absurd member (absent body)

/-- What both readers of a `TSTInfo` walk over. -/
structure Walk (crates : CmsCrates) (derBytes body : Bytes)
    (fields : List Element) : Prop where
  sequence : Consists derBytes [(0x30, body)]
  decodesSequence : Decodes crates (0x30, body)
  consists : Consists body fields
  decodes : ∀ field ∈ fields, Decodes crates field

/-- An accepted `TSTInfo` has its fields and nothing else. -/
theorem layout_of_parseTstInfoBody
    (strict : Strict crates maxLength)
    (parsed : parseTstInfoBody crates derBytes = .ok info) :
    ∃ body mandatory optional,
      Layout derBytes info optional ∧
      (∀ name, ((0xA0, name) : Element) ∉ mandatory) ∧
      Walk crates derBytes body (mandatory ++ optional) := by
  simp only [parseTstInfoBody, bind_eq_ok, mapError_eq_ok, rejectIf_eq_ok,
    exists_const, pure_eq_ok, Prod.exists, not_not] at parsed
  rcases parsed with
    ⟨sequence, trailing, sequenceParsed, rfl, versionField, afterVersion,
      versionParsed, version, versionDecoded, rfl, policyField, afterPolicy,
      policyParsed, policy, policyDecoded, imprintField, afterImprint,
      imprintParsed, digest, hash, imprintValid, serialField, afterSerial,
      serialParsed, serial, serialDecoded, genTimeField, afterGenTime,
      genTimeParsed, lastOptional, nonce, looped, rfl⟩
  rcases element_of_parseTstField strict sequenceParsed with
    ⟨⟨_, body⟩, sequenceRead, rfl, rfl, sequenceDecodes⟩
  rcases element_of_parseTstField strict versionParsed with
    ⟨⟨_, versionBody⟩, versionRead, rfl, rfl, versionDecodes⟩
  rcases element_of_parseTstField strict policyParsed with
    ⟨⟨_, policyBody⟩, policyRead, rfl, rfl, policyDecodes⟩
  rcases element_of_parseTstField strict imprintParsed with
    ⟨⟨_, imprintBody⟩, imprintRead, rfl, rfl, imprintDecodes⟩
  rcases element_of_parseTstField strict serialParsed with
    ⟨⟨_, serialBody⟩, serialRead, rfl, rfl, serialDecodes⟩
  rcases element_of_parseTstField strict genTimeParsed with
    ⟨⟨_, genTimeBody⟩, genTimeRead, rfl, rfl, genTimeDecodes⟩
  rcases visits_of_consume (reads_optionalFieldStep strict) looped with
    ⟨optional, consists, visits⟩
  rcases imprint_of_parseMessageImprint strict imprintValid with
    ⟨algorithm, imprintConsists, algorithmOid, parameters, size⟩
  have inOrder : (optional.map Prod.fst).Sublist optionalTags := by
    apply @sublist_of_visits _ _ optionalTags Prod.fst ?_ _ _ _ visits
    rintro _ _ _ ⟨_, _, known, behind, _⟩
    exact ⟨behind, optionalTags_of_optionalField known⟩
  have policyOctets : policyBody = policy.body := (strict.oid policyDecoded).2
  have imprintOctets := imprintConsists.octets
  simp only [ofElement] at imprintOctets
  subst policyOctets imprintOctets
  have fields :
      Consists body
        (mandatoryFields versionBody policy.body
            (encodeElements (imprintElements algorithm hash)) serialBody
            genTimeBody ++
          optional) :=
    .cons versionRead
      (.cons policyRead
        (.cons imprintRead (.cons serialRead (.cons genTimeRead consists))))
  have forms : ∀ field ∈ optional, OptionalForm field :=
    @forall_of_visits _ _ OptionalForm
      (fun _ _ _ round => (form_of_optionalRound strict round).1) _ _ _ visits
  have decodes : ∀ field ∈ optional, Decodes crates field :=
    @forall_of_visits _ _ (Decodes crates) (fun _ _ _ round => round.1)
      _ _ _ visits
  refine
    ⟨body, _, optional,
      ⟨⟨versionBody, policy, algorithm, (strict.u64.mp versionDecoded).2,
          rfl, algorithmOid, parameters, body, .single sequenceRead, fields⟩,
        size, (strict.int serialDecoded).2, inOrder, forms, ?_⟩,
      fun name => not_mem_mandatoryFields,
      .single sequenceRead, sequenceDecodes, fields, ?_⟩
  · exact nonce_iff_of_visits strict inOrder visits
  · intro field member
    rcases List.mem_append.mp member with mandatory | member
    · simp only [mandatoryFields, List.mem_cons, List.not_mem_nil,
        or_false] at mandatory
      rcases mandatory with rfl | rfl | rfl | rfl | rfl
      · exact versionDecodes
      · exact policyDecodes
      · exact imprintDecodes
      · exact serialDecodes
      · exact genTimeDecodes
    · exact decodes field member

end Sequence

/-! ## The name of the TSA -/

/-- Equal names; DNS names are equal without regard to ASCII case. -/
def SameName (name candidate : GeneralName) : Prop :=
  name = candidate ∨
    ∃ left right, name = .dnsName left ∧ candidate = .dnsName right ∧
      toAsciiLowercase left = toAsciiLowercase right

/-- The signer has one `subjectAltName` extension, with such a name. -/
def HasAltName (crates : CmsCrates) (signer : Certificate)
    (name : GeneralName) : Prop :=
  ∃ san names, signer.extensionsWith sanOid = [san] ∧
    crates.subjectAltNamesFromDer san.extnValue = .ok names ∧
    ∃ candidate ∈ names, SameName name candidate

/-- The body of a TSA field names the signer. -/
def NamesSigner (crates : CmsCrates) (signer : Certificate) (body : Bytes) :
    Prop :=
  ∃ name, crates.generalNameFromDer body = .ok name ∧
    (name = .directoryName signer.tbsCertificate.subject ∨
      HasAltName crates signer name)

section Identity

variable {crates : CmsCrates} {maxLength : Nat} {signer : Certificate}

theorem sameGeneralName_iff {name candidate : GeneralName} :
    sameGeneralName name candidate = true ↔ SameName name candidate := by
  unfold SameName
  cases name <;> cases candidate <;> simp [sameGeneralName]
  case dnsName.dnsName left right => exact congrArg toAsciiLowercase

theorem checkTsaName_eq_ok_iff {name : GeneralName} :
    checkTsaName crates name signer = .ok () ↔
      name = .directoryName signer.tbsCertificate.subject ∨
        HasAltName crates signer name := by
  unfold checkTsaName signerAltNames HasAltName
  by_cases subject : name = .directoryName signer.tbsCertificate.subject
  · simp [subject]
  · rw [if_neg subject, bind_eq_ok]
    rcases signer.extensionsWith sanOid with _ | ⟨san, _ | ⟨other, others⟩⟩
    · simp [subject]
    · simp [subject, sameGeneralName_iff]
    · simp [subject]

/-- The walk arrives at the first field with the tag of the TSA name. -/
theorem checkTsaField_eq_ok_iff
    (strict : Strict crates maxLength)
    {fuel : Nat} {body : Bytes} {fields : List Element}
    (consists : Consists body fields)
    (decodes : ∀ field ∈ fields, Decodes crates field)
    (enough : body.length ≤ fuel) :
    checkTsaField crates signer fuel body = .ok () ↔
      ∀ field ∈ fields.find? (fun field => field.1 == 0xA0),
        NamesSigner crates signer field.2 := by
  induction fields generalizing fuel body with
  | nil =>
      rw [Consists.nil_iff.mp consists, checkTsaField]
      simp
  | cons field fields induction =>
      rcases Consists.cons_iff.mp consists with ⟨rest, read, later⟩
      have octets := (parse_iff.mp read).2
      have shorter := parseTlvWithRest_shrinks read
      have parsed :
          parseTstField crates body field.1 "TSTInfo identity" =
            .ok (ofElement field, rest) :=
        parseTstField_of_element strict read
          (decodes field List.mem_cons_self)
      cases body with
      | nil => cases read
      | cons tag following =>
          have tagRead : tag = field.1 := (List.cons.inj octets).1
          subst tagRead
          cases fuel with
          | zero => cases enough
          | succ fuel =>
              rw [checkTsaField, parsed, ok_bind]
              by_cases isTsa : field.1 = 0xA0
              · simp [isTsa, ofElement, NamesSigner, checkTsaName_eq_ok_iff]
              · have others : ∀ other ∈ fields, Decodes crates other :=
                  fun other member =>
                    decodes other (List.mem_cons_of_mem field member)
                have enough : rest.length ≤ fuel := by
                  rw [List.length_cons] at enough shorter
                  omega
                simpa [isTsa] using induction later others enough

theorem checkTsaIdentity_eq_ok_iff
    (strict : Strict crates maxLength)
    {derBytes body : Bytes} {fields : List Element}
    (walk : Walk crates derBytes body fields) :
    checkTsaIdentity crates derBytes signer = .ok () ↔
      ∀ field ∈ fields.find? (fun field => field.1 == 0xA0),
        NamesSigner crates signer field.2 := by
  rcases Consists.cons_iff.mp walk.sequence with ⟨rest, read, _⟩
  have parsed :
      parseTstField crates derBytes 0x30 "TSTInfo" =
        .ok (ofElement (0x30, body), rest) :=
    parseTstField_of_element strict read walk.decodesSequence
  rw [checkTsaIdentity, parsed, ok_bind]
  exact
    checkTsaField_eq_ok_iff strict walk.consists walk.decodes
      (Nat.le_refl body.length)

/-- The first name field is the only one. -/
theorem find?_name_iff
    {mandatory optional : List Element} {field : Element}
    (inOrder : (optional.map Prod.fst).Sublist optionalTags)
    (absent : ∀ name, ((0xA0, name) : Element) ∉ mandatory) :
    (mandatory ++ optional).find? (fun field => field.1 == 0xA0) =
        some field ↔
      field.1 = 0xA0 ∧ field ∈ optional := by
  have skipped :
      mandatory.find? (fun field => field.1 == 0xA0) = none := by
    rw [List.find?_eq_none]
    rintro ⟨tag, name⟩ member isName
    rw [beq_iff_eq] at isName
    exact absent name (isName ▸ member)
  rw [List.find?_append, skipped, Option.none_or]
  constructor
  · intro found
    have isName := List.find?_some found
    exact ⟨eq_of_beq isName, List.mem_of_find?_eq_some found⟩
  · rintro ⟨isName, member⟩
    have exists_found :
        (optional.find? fun field => field.1 == 0xA0).isSome = true :=
      List.find?_isSome.mpr ⟨field, member, beq_iff_eq.mpr isName⟩
    rcases Option.isSome_iff_exists.mp exists_found with ⟨⟨tag, name⟩, found⟩
    have foundIsName := List.find?_some found
    have foundMember := List.mem_of_find?_eq_some found
    have tagName : tag = 0xA0 := eq_of_beq foundIsName
    rcases field with ⟨fieldTag, fieldName⟩
    subst isName
    subst tagName
    rw [found, eq_of_mem_optional inOrder foundMember member]

theorem Layout.unique
    {derBytes : Bytes} {info other : TstInfo}
    {optional otherOptional : List Element}
    (layout : Layout derBytes info optional)
    (otherLayout : Layout derBytes other otherOptional) :
    optional = otherOptional := by
  rcases layout.fields with
    ⟨_, _, _, _, _, _, _, body, sequence, fields⟩
  rcases otherLayout.fields with
    ⟨_, _, _, _, _, _, _, otherBody, otherSequence, otherFields⟩
  have same := sequence.unique otherSequence
  cases same
  exact (List.append_inj (fields.unique otherFields) rfl).2

/--
What is accepted as a `TSTInfo` has its fields in their one order and nothing
else, and the check of the TSA name is about the name among these fields: it
succeeds exactly when there is none, or it is the subject of the signer or an
entry of its only `subjectAltName` extension.
-/
theorem parseTstInfoBody_layout
    (crates : CmsCrates) (maxLength : Nat)
    (strict : Strict crates maxLength)
    (derBytes : Bytes) (info : TstInfo)
    (parsed : parseTstInfoBody crates derBytes = .ok info) :
    ∃ optional,
      Layout derBytes info optional ∧
      (∀ other, Layout derBytes info other → other = optional) ∧
      ∀ signer,
        checkTsaIdentity crates derBytes signer = .ok () ↔
          ∀ name, ((0xA0, name) : Element) ∈ optional →
            NamesSigner crates signer name := by
  rcases layout_of_parseTstInfoBody strict parsed with
    ⟨body, mandatory, optional, layout, absent, walk⟩
  refine
    ⟨optional, layout, fun other otherLayout => otherLayout.unique layout, ?_⟩
  intro signer
  rw [checkTsaIdentity_eq_ok_iff strict walk]
  constructor
  · intro named name member
    exact
      named (0xA0, name)
        ((find?_name_iff layout.inOrder absent).mpr ⟨rfl, member⟩)
  · rintro named ⟨tag, name⟩ found
    rcases (find?_name_iff layout.inOrder absent).mp found with
      ⟨isName, member⟩
    exact named name (isName ▸ member)

end Identity

/-! ## A signer with two lists of names -/

section Example

open RitspLtv.Tsp.StrictReference

/-- The name of the TSA, as a field. -/
def nameField : Bytes := encodeTlv 0x82 (asciiBytes "TSA.example")

/-- An extension that says nothing. -/
def noteExtension : Extension := ⟨.newUnwrap [1, 2, 3, 5], false, []⟩

/-- The mandatory fields of the reference content. -/
def exampleMandatory : List Element :=
  mandatoryFields [1] (ObjectIdentifier.newUnwrap [1, 2, 3, 4]).body
    (encodeElements
      (imprintElements Reference.sha256 Reference.messageHash))
    [7] (asciiBytes "20260101000000.5Z")

/-- All five optional fields. -/
def exampleOptional : List Element :=
  [(0x30, encodeElements [(0x02, [1]), (0x80, [0x01, 0xF4])]),
    (0x01, [0xFF]), (0x02, [42]), (0xA0, nameField),
    (0xA1,
      encodeElements
        [(0x30, encodeElements (extensionElements noteExtension none))])]

def exampleInfo : Bytes :=
  encodeElement (0x30, encodeElements (exampleMandatory ++ exampleOptional))

/-- The alternative name, in lower case. -/
def altNames : List GeneralName := [.dnsName (asciiBytes "tsa.example")]

def exampleCrates : CmsCrates := crates [noteExtension] [altNames]

/-- The alternative name as an extension. -/
def altNameExtension : Extension :=
  ⟨sanOid, false, encodeAltNames altNames⟩

/-- A signer that has some extensions. -/
def signerWith (extensions : List Extension) : Certificate :=
  RitspLtv.Reference.certificate 5 0xE5 0xA1 "TSA" "Root" extensions

theorem parseTstInfoBody_layout_example :
    ∃ optional,
      Layout exampleInfo Reference.parsed optional ∧
      (∀ other,
        Layout exampleInfo Reference.parsed other → other = optional) ∧
      ∀ signer,
        checkTsaIdentity exampleCrates exampleInfo signer = .ok () ↔
          ∀ name, ((0xA0, name) : Element) ∈ optional →
            NamesSigner exampleCrates signer name :=
  parseTstInfoBody_layout exampleCrates maxLength
    (strict_crates [noteExtension] [altNames]) exampleInfo Reference.parsed
    (by decide +kernel)

example :
    checkTsaIdentity exampleCrates exampleInfo
      (signerWith [altNameExtension]) = .ok () := by
  decide +kernel

/-- A field with the tag of the TSA name. -/
def HasNameField (derBytes name : Bytes) : Prop :=
  ∃ body fields, Consists derBytes [(0x30, body)] ∧
    Consists body fields ∧ ((0xA0, name) : Element) ∈ fields

/-- The name is in some `subjectAltName` extension of the signer. -/
def HasSomeAltName (crates : CmsCrates) (signer : Certificate)
    (name : GeneralName) : Prop :=
  ∃ san ∈ signer.extensionsWith sanOid, ∃ names,
    crates.subjectAltNamesFromDer san.extnValue = .ok names ∧
    ∃ candidate ∈ names, SameName name candidate

theorem consists_exampleInfo :
    Consists exampleInfo
        [(0x30, encodeElements (exampleMandatory ++ exampleOptional))] ∧
      Consists (encodeElements (exampleMandatory ++ exampleOptional))
        (exampleMandatory ++ exampleOptional) := by
  constructor
  · exact ⟨by simp [encodeElements, exampleInfo], by decide +kernel⟩
  · exact .encode (by decide +kernel)

theorem eq_nameField_of_hasNameField
    {name : Bytes} (present : HasNameField exampleInfo name) :
    name = nameField := by
  rcases present with ⟨body, fields, sequence, consists, member⟩
  have same := sequence.unique consists_exampleInfo.1
  cases same
  rw [consists.unique consists_exampleInfo.2] at member
  simp [exampleMandatory, exampleOptional, mandatoryFields] at member
  exact member

/-- A repeated extension is refused, even though both name the TSA. -/
theorem checkTsaIdentity_repeated :
    parseTstInfoBody exampleCrates exampleInfo = .ok Reference.parsed ∧
      checkTsaIdentity exampleCrates exampleInfo
          (signerWith [altNameExtension, altNameExtension]) =
        .error
          (.verificationFailed
            "TSA certificate has duplicate subjectAltName") ∧
      ¬ ∀ derBytes info signer,
        parseTstInfoBody exampleCrates derBytes = .ok info →
          (checkTsaIdentity exampleCrates derBytes signer = .ok () ↔
            ∀ body, HasNameField derBytes body →
              ∃ name, exampleCrates.generalNameFromDer body = .ok name ∧
                (name = .directoryName signer.tbsCertificate.subject ∨
                  HasSomeAltName exampleCrates signer name)) := by
  have accepted :
      parseTstInfoBody exampleCrates exampleInfo = .ok Reference.parsed := by
    decide +kernel
  have refused :
      checkTsaIdentity exampleCrates exampleInfo
          (signerWith [altNameExtension, altNameExtension]) =
        .error
          (.verificationFailed
            "TSA certificate has duplicate subjectAltName") := by
    decide +kernel
  refine ⟨accepted, refused, ?_⟩
  intro claimed
  have identified :=
    (claimed exampleInfo Reference.parsed
      (signerWith [altNameExtension, altNameExtension]) accepted).mpr
  rw [refused] at identified
  have impossible := identified ?_
  · cases impossible
  · intro body present
    rw [eq_nameField_of_hasNameField present]
    refine
      ⟨.dnsName (asciiBytes "TSA.example"), by decide +kernel, .inr ?_⟩
    refine
      ⟨altNameExtension, by decide +kernel, altNames, by decide +kernel,
        .dnsName (asciiBytes "tsa.example"), List.mem_singleton_self _, ?_⟩
    exact .inr ⟨_, _, rfl, rfl, by decide +kernel⟩

end Example

end RitspLtv.Tsp.InfoGrammar
