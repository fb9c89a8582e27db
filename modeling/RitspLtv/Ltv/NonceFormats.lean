import RitspLtv.TlvRoundTrip
import RitspLtv.Reference
import RitspLtv.Ltv.OcspSoundness

/-!
# Nonce formats

A responder may echo the nonce of a request as it is, in one OCTET STRING, or in
two.  The parser unwraps a value that is one complete OCTET STRING, and the
comparison unwraps once more.  Together they recognise the three formats, except
when the raw nonce reads as an OCTET STRING itself, or when its encoding is too
long for the reader.
-/

namespace RitspLtv.Ltv.NonceFormats

open RitspLtv.Foundation.Checks
open RitspLtv.RustStd
open RitspLtv.DerUtils
open RitspLtv.TlvRoundTrip
open RitspLtv.Ltv.OcspResponse
open RitspLtv.Ltv.Ocsp
open RitspLtv.Ltv.OcspSoundness

/-! ## The extensions of a response -/

/-- `id-pkix-ocsp-nonce`. -/
def nonceOid : ObjectIdentifier :=
  .newUnwrap [1, 3, 6, 1, 5, 5, 7, 48, 1, 2]

/-- Only a response may have a nonce, and no other extension may be critical. -/
def Permitted (responseLevel : Bool) (extension : Extension) : Prop :=
  if extension.extnId = nonceOid then responseLevel = true
  else extension.critical = false

instance (responseLevel : Bool) (extension : Extension) :
    Decidable (Permitted responseLevel extension) :=
  inferInstanceAs
    (Decidable
      (if extension.extnId = nonceOid then responseLevel = true
        else extension.critical = false))

/-- The nonce among extensions, or the one that was there before them. -/
def nonceAmong (before : Option Bytes) (extensions : List Extension) :
    Option Bytes :=
  ((extensions.find? fun extension => extension.extnId = nonceOid).map
    fun extension => nonceOfValue extension.extnValue).or before

theorem nonceAmong_cons_of_nonce
    {before : Option Bytes} {extension : Extension} {rest : List Extension}
    (isNonce : extension.extnId = nonceOid) :
    nonceAmong before (extension :: rest) =
      some (nonceOfValue extension.extnValue) := by
  have found :
      ((extension :: rest).find? fun other => other.extnId = nonceOid) =
        some extension :=
    List.find?_cons_of_pos (decide_eq_true isNonce)
  rw [nonceAmong, found]
  rfl

theorem nonceAmong_cons_of_other
    {before : Option Bytes} {extension : Extension} {rest : List Extension}
    (other : extension.extnId ≠ nonceOid) :
    nonceAmong before (extension :: rest) = nonceAmong before rest := by
  have passed :
      ((extension :: rest).find? fun other => other.extnId = nonceOid) =
        rest.find? fun other => other.extnId = nonceOid :=
    List.find?_cons_of_neg (by simpa using other)
  rw [nonceAmong, passed]
  rfl

theorem nonceAmong_of_notMem
    {before : Option Bytes} {extensions : List Extension}
    (absent : nonceOid ∉ extensions.map Extension.extnId) :
    nonceAmong before extensions = before := by
  have notFound :
      (extensions.find? fun extension => extension.extnId = nonceOid) =
        none := by
    rw [List.find?_eq_none]
    intro extension member isNonce
    apply absent
    rw [← of_decide_eq_true isNonce]
    exact List.mem_map_of_mem member
  rw [nonceAmong, notFound]
  rfl

theorem ocspExtensionStep_eq_ok_iff
    {responseLevel : Bool} {seen : List ObjectIdentifier}
    {nonce : Option Bytes} {extension : Extension}
    {next : List ObjectIdentifier × Option Bytes} :
    ocspExtensionStep responseLevel (seen, nonce) extension = .ok next ↔
      extension.extnId ∉ seen ∧ Permitted responseLevel extension ∧
        next = (extension.extnId :: seen, nonceAmong nonce [extension]) := by
  simp only [ocspExtensionStep, bind_eq_ok, rejectIf_eq_ok, exists_const]
  apply and_congr_right
  intro _
  by_cases isNonce : extension.extnId = nonceOid
  · rw [nonceAmong_cons_of_nonce isNonce, Permitted, if_pos isNonce]
    rw [nonceOid] at isNonce
    rw [if_pos isNonce]
    simp only [bind_eq_ok, rejectIf_eq_ok, exists_const, pure_eq_ok,
      Bool.not_eq_false, @eq_comm _ next]
  · rw [nonceAmong_cons_of_other isNonce, Permitted, if_neg isNonce]
    rw [nonceOid] at isNonce
    rw [if_neg isNonce]
    simp only [bind_eq_ok, rejectIf_eq_ok, exists_const, pure_eq_ok,
      Bool.not_eq_true, @eq_comm _ next]
    rfl

/-- No extension may occur twice, and every one must be permitted. -/
theorem foldlM_ocspExtensionStep_eq_ok_iff
    {responseLevel : Bool} {extensions : List Extension}
    {seen : List ObjectIdentifier} {before : Option Bytes}
    {result : List ObjectIdentifier × Option Bytes} :
    extensions.foldlM (ocspExtensionStep responseLevel) (seen, before) =
        .ok result ↔
      (extensions.map Extension.extnId).Nodup ∧
        (∀ extension ∈ extensions,
          extension.extnId ∉ seen ∧ Permitted responseLevel extension) ∧
        result =
          ((extensions.map Extension.extnId).reverse ++ seen,
            nonceAmong before extensions) := by
  induction extensions generalizing seen before with
  | nil => simp [nonceAmong, eq_comm, pure, Except.pure]
  | cons extension rest induction =>
      have carried :
          extension.extnId ∉ rest.map Extension.extnId →
            nonceAmong (nonceAmong before [extension]) rest =
              nonceAmong before (extension :: rest) := by
        intro unique
        by_cases isNonce : extension.extnId = nonceOid
        · rw [nonceAmong_cons_of_nonce isNonce,
            nonceAmong_cons_of_nonce isNonce]
          exact nonceAmong_of_notMem (isNonce ▸ unique)
        · rw [nonceAmong_cons_of_other isNonce,
            nonceAmong_cons_of_other isNonce]
          rfl
      rw [List.foldlM_cons, bind_eq_ok]
      simp only [ocspExtensionStep_eq_ok_iff]
      constructor
      · rintro ⟨next, ⟨fresh, permitted, rfl⟩, folded⟩
        rw [induction] at folded
        rcases folded with ⟨nodup, each, rfl⟩
        have unique : extension.extnId ∉ rest.map Extension.extnId := by
          intro repeated
          rcases List.mem_map.mp repeated with ⟨other, member, same⟩
          exact (each other member).1 (same ▸ List.mem_cons_self)
        refine ⟨List.nodup_cons.mpr ⟨unique, nodup⟩, ?_, ?_⟩
        · intro other member
          rcases List.mem_cons.mp member with rfl | member
          · exact ⟨fresh, permitted⟩
          · exact
              ⟨fun mem => (each other member).1 (List.mem_cons_of_mem _ mem),
                (each other member).2⟩
        · rw [carried unique, List.map_cons, List.reverse_cons,
            List.append_assoc]
          rfl
      · rintro ⟨nodup, each, rfl⟩
        rw [List.map_cons, List.nodup_cons] at nodup
        have first := each extension List.mem_cons_self
        refine ⟨_, ⟨first.1, first.2, rfl⟩, ?_⟩
        rw [induction]
        refine ⟨nodup.2, ?_, ?_⟩
        · intro other member
          have behind := each other (List.mem_cons_of_mem _ member)
          refine ⟨?_, behind.2⟩
          intro seenOther
          rcases List.mem_cons.mp seenOther with same | seenOther
          · exact nodup.1 (same ▸ List.mem_map_of_mem member)
          · exact behind.1 seenOther
        · rw [carried nodup.1, List.map_cons, List.reverse_cons,
            List.append_assoc]
          rfl

/-- Extensions parse to the nonce among them. -/
theorem parseOcspExtensions_eq_ok_iff
    {crates : Crates} {extArea : Bytes} {responseLevel : Bool}
    {nonce : Option Bytes} :
    parseOcspExtensions crates extArea responseLevel = .ok nonce ↔
      ∃ extensions,
        crates.extensionsFromDer extArea = .ok extensions ∧
          extensions ≠ [] ∧
          (extensions.map Extension.extnId).Nodup ∧
          (∀ extension ∈ extensions, Permitted responseLevel extension) ∧
          nonce = nonceAmong none extensions := by
  simp only [parseOcspExtensions, bind_eq_ok, mapError_eq_ok, rejectIf_eq_ok,
    exists_const, foldlM_ocspExtensionStep_eq_ok_iff, pure_eq_ok]
  apply exists_congr
  intro extensions
  apply and_congr_right
  intro _
  apply and_congr_right
  intro _
  constructor
  · rintro ⟨_, ⟨nodup, each, rfl⟩, rfl⟩
    exact ⟨nodup, fun extension member => (each extension member).2, rfl⟩
  · rintro ⟨nodup, each, rfl⟩
    exact
      ⟨_, ⟨nodup, fun extension member =>
        ⟨List.not_mem_nil, each extension member⟩, rfl⟩, rfl⟩

/-! ## OCTET STRINGs -/

/-- The encoding of an OCTET STRING. -/
def octetString (content : Bytes) : Bytes :=
  encodeTlv 0x04 content

/-- The reader sees one OCTET STRING and nothing after it. -/
def IsOctetString (value : Bytes) : Prop :=
  ∃ content, parseTlvWithRest value = .ok (0x04, content, [])

theorem parseTlvWithRest_eq_octetString_iff {value content : Bytes} :
    parseTlvWithRest value = .ok (0x04, content, []) ↔
      content.length < 2 ^ 32 ∧ value = octetString content := by
  rw [parseTlvWithRest_eq_ok_iff, List.append_nil]
  constructor
  · intro read
    exact read.2
  · intro encoded
    exact ⟨by decide, encoded⟩

theorem length_encodeDerLength_le
    {short long : Nat}
    (notLonger : short ≤ long) :
    (encodeDerLength short).length ≤ (encodeDerLength long).length := by
  simp only [encodeDerLength]
  split_ifs <;> simp only [List.length_cons, List.length_nil] <;> omega

theorem length_lt_octetString (content : Bytes) :
    content.length < (octetString content).length := by
  rw [octetString, encodeTlv, List.length_cons, List.length_append]
  omega

theorem octetString_ne_self (content : Bytes) :
    octetString content ≠ content := by
  intro same
  exact
    Nat.lt_irrefl _ (same ▸ length_lt_octetString content)

theorem octetString_octetString_ne_self (content : Bytes) :
    octetString (octetString content) ≠ content := by
  intro same
  have longer :=
    (length_lt_octetString content).trans
      (length_lt_octetString (octetString content))
  rw [same] at longer
  exact Nat.lt_irrefl _ longer

/-- An encoding has one content, of whatever length. -/
theorem octetString_injective : Function.Injective octetString := by
  intro left right same
  have sameOctets := (List.cons.inj same).2
  have sameTotal := congrArg List.length sameOctets
  rw [List.length_append, List.length_append] at sameTotal
  have sameLength : left.length = right.length := by
    rcases Nat.le_total left.length right.length with shorter | longer
    · have header := length_encodeDerLength_le shorter
      omega
    · have header := length_encodeDerLength_le longer
      omega
  rw [sameLength] at sameOctets
  exact List.append_cancel_left sameOctets

/-! ## The three formats -/

/-- The parser unwraps what is one OCTET STRING. -/
theorem nonceOfValue_octetString
    {content : Bytes}
    (bounded : content.length < 2 ^ 32) :
    nonceOfValue (octetString content) = content := by
  rw [nonceOfValue,
    parseTlvWithRest_eq_octetString_iff.mpr ⟨bounded, rfl⟩]
  rfl

/-- The parser keeps any other value. -/
theorem nonceOfValue_raw
    {value : Bytes}
    (raw : ¬ IsOctetString value) :
    nonceOfValue value = value := by
  rw [nonceOfValue]
  split
  · next content parsed => exact absurd ⟨content, parsed⟩ raw
  · rfl

/-- The comparison accepts the nonce itself and its encoding. -/
theorem validateNonce_eq_ok_iff {requestNonce responseNonce : Bytes} :
    validateNonce requestNonce responseNonce = .ok () ↔
      responseNonce = requestNonce ∨
        responseNonce = octetString requestNonce := by
  rw [validateNonce_eq_ok, NonceMatches, parseTlvWithRest_eq_octetString_iff]
  constructor
  · rintro (raw | wrapped | ⟨_, wrapped⟩)
    · exact Or.inl raw
    · exact Or.inr wrapped
    · exact Or.inr wrapped
  · rintro (raw | wrapped)
    · exact Or.inl raw
    · exact Or.inr (Or.inl wrapped)

/-- A value in which a responder may echo a nonce. -/
def EchoFormat (requestNonce value : Bytes) : Prop :=
  value = requestNonce ∨ value = octetString requestNonce ∨
    value = octetString (octetString requestNonce)

/-- The parser misreads the echo of a nonce. -/
def Misread (requestNonce value : Bytes) : Prop :=
  (value = requestNonce ∧ IsOctetString requestNonce) ∨
    (value = octetString (octetString requestNonce) ∧
      2 ^ 32 ≤ (octetString requestNonce).length)

/-- Exactly the echoes that are not misread are recognised as what they are. -/
theorem validateNonce_nonceOfValue_iff (requestNonce value : Bytes) :
    ((validateNonce requestNonce (nonceOfValue value) = .ok () ↔
        EchoFormat requestNonce value) ↔
      ¬ Misread requestNonce value) := by
  rw [validateNonce_eq_ok_iff, EchoFormat, Misread]
  by_cases wrapped : IsOctetString value
  · rcases wrapped with ⟨content, parsed⟩
    have encoded := parseTlvWithRest_eq_octetString_iff.mp parsed
    rcases encoded with ⟨bounded, rfl⟩
    rw [nonceOfValue_octetString bounded, octetString_injective.eq_iff,
      octetString_injective.eq_iff]
    constructor
    · rintro recognised (⟨raw, _⟩ | ⟨rfl, tooLong⟩)
      · rcases recognised.mpr (Or.inl raw) with rfl | rfl
        · exact octetString_ne_self content raw
        · exact octetString_octetString_ne_self requestNonce raw
      · exact Nat.not_le.mpr bounded tooLong
    · intro wellRead
      constructor
      · exact Or.inr
      · rintro (raw | recognised)
        · exact
            absurd (Or.inl ⟨raw, ⟨content, raw ▸ parsed⟩⟩) wellRead
        · exact recognised
  · rw [nonceOfValue_raw wrapped]
    constructor
    · rintro recognised (⟨rfl, isOctetString⟩ | ⟨twice, tooLong⟩)
      · exact wrapped isOctetString
      · rcases recognised.mpr (Or.inr (Or.inr twice)) with raw | once
        · exact octetString_octetString_ne_self requestNonce (twice ▸ raw)
        · exact octetString_ne_self _ (twice ▸ once)
    · intro wellRead
      constructor
      · rintro (raw | once)
        · exact Or.inl raw
        · exact Or.inr (Or.inl once)
      · rintro (raw | once | twice)
        · exact Or.inl raw
        · exact Or.inr once
        · rcases Nat.lt_or_ge (octetString requestNonce).length (2 ^ 32) with
            bounded | tooLong
          · exact
              absurd
                ⟨_, parseTlvWithRest_eq_octetString_iff.mpr
                  ⟨bounded, twice⟩⟩
                wrapped
          · exact absurd (Or.inr ⟨twice, tooLong⟩) wellRead

/-! ## From the extensions to the verdict -/

/-- The extensions of a response have a nonce that matches the request. -/
def EchoAccepted (crates : Crates) (requestNonce extArea : Bytes) : Prop :=
  ∃ nonce,
    parseOcspExtensions crates extArea true = .ok (some nonce) ∧
      validateNonce requestNonce nonce = .ok ()

/-- Well-formed response extensions, of which the nonce has a given value. -/
def CarriesNonce (crates : Crates) (extArea value : Bytes) : Prop :=
  ∃ extensions,
    crates.extensionsFromDer extArea = .ok extensions ∧
      (extensions.map Extension.extnId).Nodup ∧
      (∀ extension ∈ extensions, Permitted true extension) ∧
      ∃ extension ∈ extensions,
        extension.extnId = nonceOid ∧ extension.extnValue = value

theorem nonceAmong_of_mem
    {before : Option Bytes} {extensions : List Extension}
    {extension : Extension}
    (distinct : (extensions.map Extension.extnId).Nodup)
    (member : extension ∈ extensions)
    (isNonce : extension.extnId = nonceOid) :
    nonceAmong before extensions =
      some (nonceOfValue extension.extnValue) := by
  induction extensions with
  | nil => cases member
  | cons first rest induction =>
      rw [List.map_cons, List.nodup_cons] at distinct
      rcases List.mem_cons.mp member with rfl | behind
      · exact nonceAmong_cons_of_nonce isNonce
      · have other : first.extnId ≠ nonceOid := by
          intro same
          apply distinct.1
          rw [same, ← isNonce]
          exact List.mem_map_of_mem behind
        rw [nonceAmong_cons_of_other other]
        exact induction distinct.2 behind

theorem CarriesNonce.parse
    {crates : Crates} {extArea value : Bytes}
    (carries : CarriesNonce crates extArea value) :
    parseOcspExtensions crates extArea true =
      .ok (some (nonceOfValue value)) := by
  rcases carries with
    ⟨extensions, decoded, distinct, permitted, extension, member, isNonce,
      rfl⟩
  rw [parseOcspExtensions_eq_ok_iff]
  refine
    ⟨extensions, decoded, List.ne_nil_of_mem member, distinct, permitted, ?_⟩
  exact (nonceAmong_of_mem distinct member isNonce).symm

/--
A response is accepted for echoing the nonce in one of the formats, and for
nothing else, exactly when its parser does not misread the echo.
-/
theorem echoAccepted_iff_echoFormat_iff
    (crates : Crates) (requestNonce extArea value : Bytes)
    (carries : CarriesNonce crates extArea value) :
    ((EchoAccepted crates requestNonce extArea ↔
        EchoFormat requestNonce value) ↔
      ¬ Misread requestNonce value) := by
  have accepted :
      EchoAccepted crates requestNonce extArea ↔
        validateNonce requestNonce (nonceOfValue value) = .ok () := by
    rw [EchoAccepted, carries.parse]
    simp
  rw [accepted]
  exact validateNonce_nonceOfValue_iff requestNonce value

/-- A request's nonce of 30 octets that reads as an OCTET STRING of 28. -/
def ambiguousNonce : Bytes :=
  0x04 :: 0x1C :: List.replicate 28 0xAB

/-- Response extensions that echo a nonce as it is. -/
def rawEcho : List Extension :=
  [⟨nonceOid, false, ambiguousNonce⟩]

/-- A nonce that reads as nothing else. -/
def plainNonce : Bytes :=
  List.replicate 32 0x5C

/-- Response extensions that echo it in an OCTET STRING. -/
def wrappedEcho : List Extension :=
  [⟨nonceOid, false, octetString plainNonce⟩]

/-- The crates, with a decoder for the echoes. -/
def echoCrates : Crates :=
  Reference.crates ⟨[], [], [rawEcho, wrappedEcho]⟩

theorem carriesNonce_rawEcho :
    CarriesNonce echoCrates (Reference.encodeExtensions rawEcho)
      ambiguousNonce :=
  ⟨rawEcho, by decide +kernel, by decide, by decide, _,
    List.mem_singleton_self _, rfl, rfl⟩

theorem carriesNonce_wrappedEcho :
    CarriesNonce echoCrates (Reference.encodeExtensions wrappedEcho)
      (octetString plainNonce) :=
  ⟨wrappedEcho, by decide +kernel, by decide, by decide, _,
    List.mem_singleton_self _, rfl, rfl⟩

/-- The echo in an OCTET STRING is accepted, and the echo of another nonce not. -/
theorem echoAccepted_iff_echoFormat_iff_wrappedEcho :
    EchoAccepted echoCrates plainNonce
        (Reference.encodeExtensions wrappedEcho) ∧
      ¬ EchoAccepted echoCrates plainNonce
          (Reference.encodeExtensions rawEcho) := by
  have wellRead : ¬ Misread plainNonce (octetString plainNonce) := by
    rintro (⟨raw, _⟩ | ⟨twice, _⟩)
    · exact absurd raw (by decide)
    · exact absurd twice (by decide)
  have otherWellRead : ¬ Misread plainNonce ambiguousNonce := by
    rintro (⟨raw, _⟩ | ⟨twice, _⟩)
    · exact absurd raw (by decide)
    · exact absurd twice (by decide)
  have exactly :=
    (echoAccepted_iff_echoFormat_iff echoCrates plainNonce
      (Reference.encodeExtensions wrappedEcho) (octetString plainNonce)
      carriesNonce_wrappedEcho).mpr wellRead
  have otherExactly :=
    (echoAccepted_iff_echoFormat_iff echoCrates plainNonce
      (Reference.encodeExtensions rawEcho) ambiguousNonce
      carriesNonce_rawEcho).mpr otherWellRead
  rw [exactly, otherExactly]
  refine ⟨.inr (.inl rfl), ?_⟩
  rintro (raw | once | twice)
  · exact absurd raw (by decide)
  · exact absurd once (by decide)
  · exact absurd twice (by decide)

/-- The raw echo of an ambiguous nonce is refused. -/
theorem rawEcho_refused :
    ¬ ∀ (crates : Crates) (requestNonce extArea value : Bytes),
      CarriesNonce crates extArea value →
        (EchoAccepted crates requestNonce extArea ↔
          EchoFormat requestNonce value) := by
  intro exactly
  have accepted :=
    (exactly echoCrates ambiguousNonce (Reference.encodeExtensions rawEcho)
      ambiguousNonce carriesNonce_rawEcho).mpr (Or.inl rfl)
  rcases accepted with ⟨nonce, parsed, validated⟩
  rw [carriesNonce_rawEcho.parse] at parsed
  cases parsed
  exact absurd validated (by decide)

end RitspLtv.Ltv.NonceFormats
