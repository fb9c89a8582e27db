import RitspLtv.Tsp.Response
import RitspLtv.Tsp.StrictReference

/-!
# The form of a response

`parseTimestampResponse` accepts the encodings of responses and nothing else,
and returns what was encoded.  Each of its loops is brought to a statement about
elements first; the lengths that decoders count to are the only other limit.
-/

namespace RitspLtv.Tsp.ResponseGrammar

open RitspLtv.Foundation.Checks
open RitspLtv.Foundation.Consume
open RitspLtv.RustStd
open RitspLtv.DerUtils
open RitspLtv.TlvRoundTrip
open RitspLtv.TlvElements
open RitspLtv.Tsp.Cms
open RitspLtv.Tsp.Info
open RitspLtv.Tsp.Response
open RitspLtv.Tsp.StrictDer

/-! ## Responses -/

/-- The bits behind the last one that is used are zero. -/
def ZeroPadded (unusedBits : UInt8) (rawBytes : Bytes) : Prop :=
  ∀ byte ∈ rawBytes.getLast?, byte.toNat % 2 ^ unusedBits.toNat = 0

/-- The body of a BIT STRING: the number of unused bits, and the octets. -/
def BitStringForm (bits : BitString) (body : Bytes) : Prop :=
  body = bits.unusedBits :: bits.rawBytes ∧ bits.unusedBits ≤ 7 ∧
    (bits.rawBytes = [] → bits.unusedBits = 0)

/-- The fields of a response, with the bodies that are left as they are. -/
structure Syntax where
  status : Bytes
  statusString : Option (List Bytes)
  failureInfo : Option Bytes
  token : Option Bytes

/-- Texts as elements. -/
def textElements (texts : List Bytes) : List Element :=
  texts.map fun text => (0x0C, text)

/-- The elements of a `PKIStatusInfo` behind the status. -/
def optionalElements (statusString : Option (List Bytes))
    (failureInfo : Option Bytes) : List Element :=
  (statusString.toList.map fun texts =>
      (0x30, encodeElements (textElements texts))) ++
    failureInfo.toList.map fun body => (0x03, body)

/-- The elements of the `PKIStatusInfo`. -/
def Syntax.infoElements (response : Syntax) : List Element :=
  (0x02, response.status) ::
    optionalElements response.statusString response.failureInfo

/-- The `PKIStatusInfo`, and the token if there is one. -/
def Syntax.elements (response : Syntax) : List Element :=
  (0x30, encodeElements response.infoElements) ::
    response.token.toList.map fun body => (0x30, body)

/-- The octets of a response. -/
def Syntax.encode (response : Syntax) : Bytes :=
  encodeElement (0x30, encodeElements response.elements)

/-- One or more texts in UTF-8. -/
def FreeText (texts : List Bytes) : Prop :=
  texts ≠ [] ∧ ∀ text ∈ texts, Accepts (fromUtf8 text)

/-- A BIT STRING whose padding is zero. -/
def FailureInfo (body : Bytes) : Prop :=
  ∃ bits, BitStringForm bits body ∧ ZeroPadded bits.unusedBits bits.rawBytes

/-- The response is well formed, and its status is a number. -/
structure WellFormed (response : Syntax) (status : UInt64) : Prop where
  status : Denotes response.status status.toNat
  statusString : ∀ texts ∈ response.statusString, FreeText texts
  failureInfo : ∀ body ∈ response.failureInfo, FailureInfo body

/-- What a response is parsed to. -/
def Syntax.parsed (response : Syntax) (status : UInt64) : TimeStampResp where
  status := PkiStatus.fromU64 status
  statusString := response.statusString.bind List.head?
  failureInfo := response.failureInfo
  tokenDer := response.token.map fun body => encodeElement (0x30, body)

/-- The decoders of a response are strict. -/
structure StrictResponse (crates : ResponseCrates) (maxLength : Nat) : Prop
    extends Strict crates.toCmsCrates maxLength where
  bitString :
    ∀ {value bits}, crates.bitStringFromAny value = .ok bits ↔
      value.tag = 0x03 ∧ BitStringForm bits value.value

/-! ## Texts -/

section Texts

variable {crates : ResponseCrates} {maxLength : Nat}

/-- An element is decoded when its length can be counted. -/
theorem decodes_iff
    (strict : StrictResponse crates maxLength)
    {element : Element} (known : element.1 ∈ fieldTags) :
    Decodes crates.toCmsCrates element ↔
      (encodeElement element).length ≤ maxLength := by
  constructor
  · intro decodes
    exact (strict.any decodes).2
  · intro short
    exact strict.anyComplete known short

/-- What a round of the loop over texts establishes. -/
def TextRound (crates : ResponseCrates) (before : Option Bytes)
    (element : Element) (after : Option Bytes) : Prop :=
  element.1 = 0x0C ∧ Decodes crates.toCmsCrates element ∧
    Accepts (fromUtf8 element.2) ∧ after = (before <|> some element.2)

theorem handles_statusStringStep
    (strict : StrictResponse crates maxLength) :
    Handles (statusStringStep crates) (TextRound crates) := by
  intro before input after rest
  simp only [statusStringStep, bind_eq_ok, mapError_eq_ok, rejectIf_eq_ok,
    exists_const, pure_eq_ok, Prod.exists, Prod.mk.injEq, not_not]
  constructor
  · rintro ⟨tag, field, behind, parsed, text, valid, rfl, rfl⟩
    rcases element_of_parseTstField strict.toStrict parsed with
      ⟨element, read, isText, rfl, decodes⟩
    have same : text = element.2 := eq_of_fromUtf8 valid
    subst same
    exact ⟨element.1, element.2, read, isText, decodes, ⟨_, valid⟩, rfl⟩
  · rintro ⟨tag, text, read, rfl, decodes, ⟨result, valid⟩, rfl⟩
    have announced : input.headD 0 = 0x0C :=
      @headD_of_parse input rest (0x0C, text) read
    have parsed :
        parseTstField crates.toCmsCrates input 0x0C "statusString" =
          .ok (ofElement (0x0C, text), rest) :=
      @parseTstField_of_element _ _ _ _ _ strict.toStrict (0x0C, text)
        read decodes
    have same : result = text := eq_of_fromUtf8 valid
    subst same
    exact ⟨announced, _, rest, parsed, result, valid, rfl, rfl⟩

/-- The texts that were read, of which the first is kept. -/
theorem visits_textRound_iff
    {before after : Option Bytes} {elements : List Element} :
    Visits (TextRound crates) before elements after ↔
      ∃ texts, elements = textElements texts ∧
        (∀ text ∈ texts, Decodes crates.toCmsCrates (0x0C, text)) ∧
        (∀ text ∈ texts, Accepts (fromUtf8 text)) ∧
        after = (before <|> texts.head?) := by
  induction elements generalizing before with
  | nil =>
      rw [Visits]
      constructor
      · rintro rfl
        exact ⟨[], rfl, by simp, by simp, by simp⟩
      · rintro ⟨texts, empty, _, _, rfl⟩
        rw [List.map_eq_nil_iff.mp empty.symm]
        simp
  | cons element elements induction =>
      rw [Visits]
      constructor
      · rintro ⟨next, ⟨tag, decodes, valid, rfl⟩, visits⟩
        rcases element with ⟨_, text⟩
        subst tag
        rcases induction.mp visits with
          ⟨texts, rfl, otherDecodes, others, rfl⟩
        refine
          ⟨text :: texts, rfl, List.forall_mem_cons.mpr ⟨decodes, otherDecodes⟩,
            List.forall_mem_cons.mpr ⟨valid, others⟩, ?_⟩
        cases before <;> rfl
      · rintro ⟨texts, same, decodes, valid, rfl⟩
        cases texts with
        | nil => cases same
        | cons text texts =>
            rcases List.cons.inj same with ⟨rfl, rfl⟩
            rcases List.forall_mem_cons.mp decodes with ⟨first, decodes⟩
            rcases List.forall_mem_cons.mp valid with ⟨firstValid, valid⟩
            refine
              ⟨_, ⟨rfl, first, firstValid, rfl⟩,
                induction.mpr ⟨texts, rfl, decodes, valid, ?_⟩⟩
            cases before <;> rfl

/-- The body of a `PKIFreeText`. -/
def TextsForm (crates : ResponseCrates) (body : Bytes)
    (texts : List Bytes) : Prop :=
  FreeText texts ∧ Consists body (textElements texts) ∧
    ∀ text ∈ texts, Decodes crates.toCmsCrates (0x0C, text)

theorem parseStatusString_eq_ok_iff
    (strict : StrictResponse crates maxLength)
    {statusString failureInfo result : Option Bytes} {body : Bytes} :
    parseStatusString crates statusString failureInfo body = .ok result ↔
      statusString = none ∧ failureInfo = none ∧
        ∃ texts, TextsForm crates body texts ∧ result = texts.head? := by
  simp only [parseStatusString, bind_eq_ok, rejectIf_eq_ok, exists_const,
    not_or, Bool.not_eq_true, Option.isSome_eq_false_iff,
    Option.isNone_iff_eq_none,
    consume_eq_ok_iff (handles_statusStringStep strict),
    visits_textRound_iff]
  constructor
  · rintro ⟨⟨rfl, rfl⟩, nonempty, elements, consists, texts, rfl, decodes,
      valid, rfl⟩
    refine
      ⟨rfl, rfl, texts, ⟨⟨?_, valid⟩, consists, decodes⟩, by simp⟩
    rintro rfl
    exact nonempty (Consists.nil_iff.mp consists)
  · rintro ⟨rfl, rfl, texts, ⟨⟨nonempty, valid⟩, consists, decodes⟩, rfl⟩
    refine
      ⟨⟨rfl, rfl⟩, ?_, _, consists, texts, rfl, decodes, valid, by simp⟩
    rintro rfl
    have none := consists.unique (Consists.nil_iff.mpr rfl)
    exact nonempty (List.map_eq_nil_iff.mp none)

/-! ## Failure bits -/

theorem toNat_mask :
    ∀ unused : Fin 8,
      (((1 : UInt8) <<< UInt8.ofNat unused.val) - 1).toNat =
        2 ^ unused.val - 1 := by
  decide

/-- Masking an octet leaves its last bits. -/
theorem and_mask_eq_zero_iff
    {byte unused : UInt8} (small : unused ≤ 7) :
    byte &&& ((1 <<< unused) - 1) = 0 ↔
      byte.toNat % 2 ^ unused.toNat = 0 := by
  have bounded : unused.toNat < 8 := Nat.lt_succ_of_le small
  have mask := toNat_mask ⟨unused.toNat, bounded⟩
  rw [UInt8.ofNat_toNat] at mask
  rw [← UInt8.toNat_inj, UInt8.toNat_and, mask,
    Nat.and_two_pow_sub_one_eq_mod]
  rfl

theorem parseFailureInfo_eq_ok_iff
    (strict : StrictResponse crates maxLength)
    {failureInfo result : Option Bytes} {field : Any} :
    parseFailureInfo crates failureInfo field = .ok result ↔
      failureInfo = none ∧ field.tag = 0x03 ∧ FailureInfo field.value ∧
        result = some field.value := by
  simp only [parseFailureInfo, bind_eq_ok, mapError_eq_ok, rejectIf_eq_ok,
    exists_const, Bool.not_eq_true, Option.isSome_eq_false_iff,
    Option.isNone_iff_eq_none, pure_eq_ok, strict.bitString]
  constructor
  · rintro ⟨rfl, bits, ⟨tag, form⟩, padded, rfl⟩
    refine ⟨rfl, tag, ⟨bits, form, ?_⟩, rfl⟩
    intro byte last
    by_contra nonzero
    exact
      padded
        ⟨byte, last, mt (and_mask_eq_zero_iff form.2.1).mp nonzero⟩
  · rintro ⟨rfl, tag, ⟨bits, form, padded⟩, rfl⟩
    refine ⟨rfl, bits, ⟨tag, form⟩, ?_, rfl⟩
    rintro ⟨byte, last, nonzero⟩
    exact nonzero ((and_mask_eq_zero_iff form.2.1).mpr (padded byte last))

end Texts

/-! ## The status -/

section Status

variable {crates : ResponseCrates} {maxLength : Nat}

/-- What a round of the loop behind the status establishes. -/
inductive StatusRound (crates : ResponseCrates) :
    Option Bytes × Option Bytes → Element →
      Option Bytes × Option Bytes → Prop
  | statusString {body texts} :
      Decodes crates.toCmsCrates (0x30, body) →
      TextsForm crates body texts →
      StatusRound crates (none, none) (0x30, body) (texts.head?, none)
  | failureInfo {statusString body} :
      Decodes crates.toCmsCrates (0x03, body) →
      FailureInfo body →
      StatusRound crates (statusString, none) (0x03, body)
        (statusString, some body)

theorem handles_statusFieldStep
    (strict : StrictResponse crates maxLength) :
    Handles (statusFieldStep crates) (StatusRound crates) := by
  rintro ⟨statusString, failureInfo⟩ input ⟨nextString, nextInfo⟩ rest
  simp only [statusFieldStep, bind_eq_ok, Prod.exists]
  constructor
  · rintro ⟨field, behind, parsed, handled⟩
    rcases element_of_parseTstField strict.toStrict parsed with
      ⟨⟨stag, body⟩, read, tag, rfl, decodes⟩
    rw [← tag] at handled
    by_cases isString : stag = 0x30
    · subst isString
      rw [if_pos rfl] at handled
      simp only [bind_eq_ok, parseStatusString_eq_ok_iff strict, pure_eq_ok,
        Prod.mk.injEq] at handled
      rcases handled with
        ⟨_, ⟨rfl, rfl, texts, form, rfl⟩, ⟨rfl, rfl⟩, rfl⟩
      exact ⟨0x30, body, read, .statusString decodes form⟩
    · by_cases isInfo : stag = 0x03
      · subst isInfo
        rw [if_neg isString, if_pos rfl] at handled
        simp only [bind_eq_ok, parseFailureInfo_eq_ok_iff strict, pure_eq_ok,
          Prod.mk.injEq] at handled
        rcases handled with ⟨_, ⟨rfl, _, form, rfl⟩, ⟨rfl, rfl⟩, rfl⟩
        exact ⟨0x03, body, read, .failureInfo decodes form⟩
      · rw [if_neg isString, if_neg isInfo] at handled
        cases handled
  · rintro ⟨stag, body, read, round⟩
    have announced : input.headD 0 = stag :=
      @headD_of_parse input rest (stag, body) read
    have parsed :
        Decodes crates.toCmsCrates (stag, body) →
          parseTstField crates.toCmsCrates input stag "PKIStatusInfo field" =
            .ok (ofElement (stag, body), rest) :=
      @parseTstField_of_element _ _ _ _ _ strict.toStrict (stag, body) read
    rw [announced]
    cases round with
    | statusString decodes form =>
        refine ⟨_, rest, parsed decodes, ?_⟩
        rw [if_pos rfl]
        apply bind_eq_ok.mpr
        exact
          ⟨_, (parseStatusString_eq_ok_iff strict).mpr
              ⟨rfl, rfl, _, form, rfl⟩, rfl⟩
    | failureInfo decodes form =>
        refine ⟨_, rest, parsed decodes, ?_⟩
        rw [if_neg (by decide), if_pos rfl]
        apply bind_eq_ok.mpr
        exact
          ⟨_, (parseFailureInfo_eq_ok_iff strict).mpr
              ⟨rfl, rfl, form, rfl⟩, rfl⟩

/-- Behind the failure bits there is nothing. -/
theorem visits_behind_failureInfo
    {statusString : Option Bytes} {final : Option Bytes × Option Bytes}
    {body : Bytes} {fields : List Element}
    (visits : Visits (StatusRound crates) (statusString, some body) fields
      final) :
    fields = [] ∧ final = (statusString, some body) := by
  cases fields with
  | nil => exact ⟨rfl, visits⟩
  | cons field fields =>
      rcases visits with ⟨next, round, _⟩
      cases round

/-- Failure bits, if they are there, and how they are decoded. -/
def InfoForm (crates : ResponseCrates) (failureInfo : Option Bytes) : Prop :=
  ∀ body ∈ failureInfo,
    FailureInfo body ∧ Decodes crates.toCmsCrates (0x03, body)

/-- Behind a text there are at most the failure bits. -/
theorem failureInfo_of_visits
    {text : Bytes} {final : Option Bytes × Option Bytes}
    {fields : List Element}
    (visits : Visits (StatusRound crates) (some text, none) fields final) :
    ∃ failureInfo, fields = optionalElements none failureInfo ∧
      InfoForm crates failureInfo ∧ final = (some text, failureInfo) := by
  cases fields with
  | nil => exact ⟨none, rfl, nofun, visits⟩
  | cons field fields =>
      rcases visits with ⟨next, round, visits⟩
      cases round with
      | failureInfo decodes form =>
          rcases visits_behind_failureInfo visits with ⟨rfl, rfl⟩
          refine ⟨some _, rfl, ?_, rfl⟩
          rintro _ ⟨⟩
          exact ⟨form, decodes⟩

/-- Texts, if they are there, and how they are decoded. -/
def StringForm (crates : ResponseCrates)
    (statusString : Option (List Bytes)) : Prop :=
  ∀ texts ∈ statusString,
    TextsForm crates (encodeElements (textElements texts)) texts ∧
      Decodes crates.toCmsCrates
        (0x30, encodeElements (textElements texts))

/-- Behind the status there are texts and failure bits, or one, or none. -/
theorem visits_statusRound_iff
    {final : Option Bytes × Option Bytes} {fields : List Element} :
    Visits (StatusRound crates) (none, none) fields final ↔
      ∃ statusString failureInfo,
        fields = optionalElements statusString failureInfo ∧
        StringForm crates statusString ∧ InfoForm crates failureInfo ∧
        final = (statusString.bind List.head?, failureInfo) := by
  constructor
  · intro visits
    cases fields with
    | nil => exact ⟨none, none, rfl, nofun, nofun, visits⟩
    | cons field fields =>
        rcases visits with ⟨next, round, visits⟩
        cases round with
        | @statusString body texts decodes form =>
            rcases texts with _ | ⟨text, texts⟩
            · exact absurd rfl form.1.1
            · rcases failureInfo_of_visits visits with
                ⟨failureInfo, rfl, infos, rfl⟩
              have octets := form.2.1.octets
              subst octets
              refine ⟨some (text :: texts), failureInfo, rfl, ?_, infos, rfl⟩
              rintro _ ⟨⟩
              exact ⟨form, decodes⟩
        | failureInfo decodes form =>
            rcases visits_behind_failureInfo visits with ⟨rfl, rfl⟩
            refine ⟨none, some _, rfl, nofun, ?_, rfl⟩
            rintro _ ⟨⟩
            exact ⟨form, decodes⟩
  · rintro ⟨statusString, failureInfo, rfl, strings, infos, rfl⟩
    have info : ∀ kept : Option Bytes,
        Visits (StatusRound crates) (kept, none)
          (optionalElements none failureInfo) (kept, failureInfo) := by
      intro kept
      cases failureInfo with
      | none => rfl
      | some body =>
          rcases infos body rfl with ⟨form, decodes⟩
          exact ⟨_, .failureInfo decodes form, rfl⟩
    cases statusString with
    | none => exact info none
    | some texts =>
        rcases strings texts rfl with ⟨form, decodes⟩
        exact ⟨_, .statusString decodes form, info texts.head?⟩

end Status

/-! ## The response -/

section Response

variable {crates : ResponseCrates} {maxLength : Nat}

theorem forall_mem_toList_map
    {α β : Type} {value : Option α} {f : α → β} {holds : β → Prop}
    (present : ∀ item ∈ value, holds (f item)) :
    ∀ item ∈ value.toList.map f, holds item := by
  intro item member
  rcases List.mem_map.mp member with ⟨original, listed, rfl⟩
  exact present original (Option.mem_toList.mp listed)

theorem parseToken_eq_ok_iff
    (strict : StrictResponse crates maxLength)
    {rest : Bytes} {tokenDer : Option Bytes} :
    parseToken crates rest = .ok tokenDer ↔
      ∃ token : Option Bytes,
        Consists rest (token.toList.map fun body => (0x30, body)) ∧
        (∀ body ∈ token, Decodes crates.toCmsCrates (0x30, body)) ∧
        tokenDer = token.map fun body => encodeElement (0x30, body) := by
  unfold parseToken
  by_cases empty : rest = []
  · rw [if_pos empty, Except.ok.injEq]
    constructor
    · rintro rfl
      exact ⟨none, Consists.nil_iff.mpr empty, nofun, rfl⟩
    · rintro ⟨token, consists, _, rfl⟩
      cases token with
      | none => rfl
      | some body =>
          have none := consists.unique (Consists.nil_iff.mpr empty)
          cases none
  · rw [if_neg empty]
    simp only [bind_eq_ok, rejectIf_eq_ok, exists_const, pure_eq_ok,
      Prod.exists, not_not]
    constructor
    · rintro ⟨field, behind, parsed, rfl, rfl⟩
      rcases element_of_parseTstField strict.toStrict parsed with
        ⟨⟨_, body⟩, read, rfl, _, decodes⟩
      have consists := Consists.single read
      refine ⟨some body, consists, ?_, ?_⟩
      · rintro _ ⟨⟩
        exact decodes
      · have octets := consists.octets
        simpa [encodeElements] using congrArg some octets
    · rintro ⟨token, consists, decodes, rfl⟩
      cases token with
      | none => exact absurd (Consists.nil_iff.mp consists) empty
      | some body =>
          rcases Consists.cons_iff.mp consists with ⟨behind, read, nothing⟩
          have nothing := Consists.nil_iff.mp nothing
          subst nothing
          refine
            ⟨ofElement (0x30, body), [],
              parseTstField_of_element strict.toStrict read
                (decodes body rfl), rfl, ?_⟩
          have octets := consists.octets
          simpa [encodeElements] using congrArg some octets

/-- The octets are those of the response, and every element is decoded. -/
structure ReadAs (crates : ResponseCrates) (derBytes : Bytes)
    (response : Syntax) : Prop where
  whole : Consists derBytes [(0x30, encodeElements response.elements)]
  wholeDecodes :
    Decodes crates.toCmsCrates (0x30, encodeElements response.elements)
  elements : Consists (encodeElements response.elements) response.elements
  elementsDecode :
    ∀ element ∈ response.elements, Decodes crates.toCmsCrates element
  info :
    Consists (encodeElements response.infoElements) response.infoElements
  infoDecode :
    ∀ element ∈ response.infoElements, Decodes crates.toCmsCrates element
  texts :
    ∀ texts ∈ response.statusString,
      Consists (encodeElements (textElements texts)) (textElements texts) ∧
        ∀ text ∈ texts, Decodes crates.toCmsCrates (0x0C, text)

/-- Elements that are short together are read and decoded one by one. -/
theorem reads_of_short
    (strict : StrictResponse crates maxLength)
    {elements : List Element}
    (known : ∀ element ∈ elements, element.1 ∈ fieldTags)
    (short : (encodeElements elements).length ≤ maxLength) :
    Consists (encodeElements elements) elements ∧
      ∀ element ∈ elements, Decodes crates.toCmsCrates element := by
  constructor
  · apply consists_encodeElements
    · exact fun element member => lowTag_of_mem_fieldTags _ (known element member)
    · exact short.trans_lt strict.countable
  · intro element member
    apply (decodes_iff strict (known element member)).mpr
    exact (encodeElement_length_le_of_mem member).trans short

theorem tag_of_mem_elements
    {response : Syntax} {element : Element}
    (member : element ∈ response.elements) :
    element.1 ∈ fieldTags := by
  rcases List.mem_cons.mp member with rfl | later
  · show 0x30 ∈ fieldTags
    decide
  · rcases List.mem_map.mp later with ⟨body, _, rfl⟩
    show 0x30 ∈ fieldTags
    decide

theorem tag_of_mem_infoElements
    {response : Syntax} {element : Element}
    (member : element ∈ response.infoElements) :
    element.1 ∈ fieldTags := by
  rcases List.mem_cons.mp member with rfl | later
  · show 0x02 ∈ fieldTags
    decide
  · rcases List.mem_append.mp later with string | info
    · rcases List.mem_map.mp string with ⟨texts, _, rfl⟩
      show 0x30 ∈ fieldTags
      decide
    · rcases List.mem_map.mp info with ⟨body, _, rfl⟩
      show 0x03 ∈ fieldTags
      decide

theorem mem_infoElements_of_texts
    {response : Syntax} {texts : List Bytes}
    (present : texts ∈ response.statusString) :
    (0x30, encodeElements (textElements texts)) ∈ response.infoElements := by
  apply List.mem_cons_of_mem
  apply List.mem_append_left
  exact List.mem_map.mpr ⟨texts, Option.mem_toList.mpr present, rfl⟩

theorem readAs_iff
    (strict : StrictResponse crates maxLength)
    {derBytes : Bytes} {response : Syntax} :
    ReadAs crates derBytes response ↔
      derBytes.length ≤ maxLength ∧ derBytes = response.encode := by
  constructor
  · intro read
    have octets : derBytes = response.encode := by
      rw [read.whole.octets, encodeElements_cons, encodeElements_nil,
        List.append_nil]
      rfl
    rw [octets]
    exact ⟨(strict.any read.wholeDecodes).2, rfl⟩
  · rintro ⟨short, rfl⟩
    have single :
        encodeElements [(0x30, encodeElements response.elements)] =
          response.encode := by
      rw [encodeElements_cons, encodeElements_nil, List.append_nil]
      rfl
    have sequence :
        ∀ element ∈ [((0x30, encodeElements response.elements) : Element)],
          element.1 ∈ fieldTags := by
      intro element member
      rw [List.mem_singleton.mp member]
      show 0x30 ∈ fieldTags
      decide
    have elements : (encodeElements response.elements).length ≤ maxLength :=
      (length_lt_encodeElement _).le.trans short
    have info : (encodeElements response.infoElements).length ≤ maxLength :=
      (@length_le_of_mem (0x30, encodeElements response.infoElements) _
        List.mem_cons_self).trans elements
    have wholeRead := reads_of_short strict sequence (single ▸ short)
    have elementsRead :=
      reads_of_short strict (fun _ => tag_of_mem_elements) elements
    have infoRead :=
      reads_of_short strict (fun _ => tag_of_mem_infoElements) info
    refine
      ⟨?_, ?_, elementsRead.1, elementsRead.2, infoRead.1, infoRead.2, ?_⟩
    · rw [← single]
      exact wholeRead.1
    · exact wholeRead.2 _ List.mem_cons_self
    · intro texts present
      have short :
          (encodeElements (textElements texts)).length ≤ maxLength :=
        (length_le_of_mem (mem_infoElements_of_texts present)).trans info
      have known : ∀ element ∈ textElements texts, element.1 ∈ fieldTags := by
        intro element member
        rcases List.mem_map.mp member with ⟨text, _, rfl⟩
        show 0x0C ∈ fieldTags
        decide
      have textsRead := reads_of_short strict known short
      refine ⟨textsRead.1, fun text member => ?_⟩
      exact textsRead.2 _ (List.mem_map_of_mem member)

/-- Parsing succeeds exactly on what is read as a well-formed response. -/
theorem parseTimestampResponse_eq_ok_iff_readAs
    (strict : StrictResponse crates maxLength)
    {derBytes : Bytes} {resp : TimeStampResp} :
    parseTimestampResponse crates derBytes = .ok resp ↔
      ∃ response status, WellFormed response status ∧
        ReadAs crates derBytes response ∧ resp = response.parsed status := by
  simp only [parseTimestampResponse, bind_eq_ok, mapError_eq_ok,
    rejectIf_eq_ok, exists_const, pure_eq_ok, Prod.exists, not_not,
    parseToken_eq_ok_iff strict,
    consume_eq_ok_iff (handles_statusFieldStep strict),
    visits_statusRound_iff]
  constructor
  · rintro ⟨field, behind, parsed, rfl, infoField, rest, infoParsed,
      statusField, statusRest, statusParsed, status, statusDecoded,
      statusString, failureInfo, ⟨fields, consists, texts, info, rfl,
        strings, infos, kept⟩, tokenDer, ⟨token, tokenConsists, tokenDecodes,
        rfl⟩, rfl⟩
    rcases element_of_parseTstField strict.toStrict parsed with
      ⟨⟨_, body⟩, read, rfl, rfl, decodes⟩
    rcases element_of_parseTstField strict.toStrict infoParsed with
      ⟨⟨_, infoBody⟩, infoRead, rfl, rfl, infoDecodes⟩
    rcases element_of_parseTstField strict.toStrict statusParsed with
      ⟨⟨_, statusBody⟩, statusRead, rfl, rfl, statusDecodes⟩
    have infoConsists :
        Consists infoBody
          (Syntax.infoElements ⟨statusBody, texts, info, token⟩) :=
      .cons statusRead consists
    have infoOctets := infoConsists.octets
    subst infoOctets
    have consists :
        Consists body (Syntax.elements ⟨statusBody, texts, info, token⟩) :=
      .cons infoRead tokenConsists
    have octets := consists.octets
    subst octets
    cases kept
    refine
      ⟨⟨statusBody, texts, failureInfo, token⟩, status,
        ⟨(strict.u64.mp statusDecoded).2, ?_, ?_⟩,
        ⟨.single read, decodes, consists, ?_, infoConsists, ?_, ?_⟩, rfl⟩
    · exact fun texts present => (strings texts present).1.1
    · exact fun body present => (infos body present).1
    · exact List.forall_mem_cons.mpr
        ⟨infoDecodes, forall_mem_toList_map tokenDecodes⟩
    · refine List.forall_mem_cons.mpr ⟨statusDecodes, ?_⟩
      refine List.forall_mem_append.mpr ⟨?_, ?_⟩
      · exact forall_mem_toList_map fun texts present =>
          (strings texts present).2
      · exact forall_mem_toList_map fun body present =>
          (infos body present).2
    · exact fun texts present => (strings texts present).1.2
  · rintro ⟨response, status, wellFormed, read, rfl⟩
    rcases Consists.cons_iff.mp read.whole with ⟨behind, whole, nothing⟩
    have nothing := Consists.nil_iff.mp nothing
    subst nothing
    rcases Consists.cons_iff.mp read.elements with ⟨rest, info, token⟩
    rcases Consists.cons_iff.mp read.info with ⟨statusRest, number, fields⟩
    have infoDecodes := read.elementsDecode _ List.mem_cons_self
    have statusDecodes := read.infoDecode _ List.mem_cons_self
    refine
      ⟨_, [], parseTstField_of_element strict.toStrict whole
          read.wholeDecodes, rfl,
        _, rest, parseTstField_of_element strict.toStrict info infoDecodes,
        _, statusRest,
        parseTstField_of_element strict.toStrict number statusDecodes,
        status, strict.u64.mpr ⟨rfl, wellFormed.status⟩,
        _, _, ⟨_, fields, response.statusString, response.failureInfo, rfl,
          ?_, ?_, rfl⟩,
        _, ⟨response.token, token, ?_, rfl⟩, rfl⟩
    · intro texts present
      rcases read.texts texts present with ⟨consists, decodes⟩
      exact
        ⟨⟨wellFormed.statusString texts present, consists, decodes⟩,
          read.infoDecode _ (mem_infoElements_of_texts present)⟩
    · intro body present
      refine ⟨wellFormed.failureInfo body present, read.infoDecode _ ?_⟩
      apply List.mem_cons_of_mem
      apply List.mem_append_right
      exact List.mem_map.mpr ⟨body, Option.mem_toList.mpr present, rfl⟩
    · intro body present
      apply read.elementsDecode
      apply List.mem_cons_of_mem
      exact List.mem_map.mpr ⟨body, Option.mem_toList.mpr present, rfl⟩

/--
A response is accepted exactly when it is the encoding of a well-formed one,
no longer than the decoders can count, and it is parsed to what was encoded.
-/
theorem parseTimestampResponse_eq_ok_iff
    (crates : ResponseCrates) (maxLength : Nat)
    (strict : StrictResponse crates maxLength)
    (derBytes : Bytes) (resp : TimeStampResp) :
    parseTimestampResponse crates derBytes = .ok resp ↔
      derBytes.length ≤ maxLength ∧
        ∃ response status, WellFormed response status ∧
          derBytes = response.encode ∧ resp = response.parsed status := by
  rw [parseTimestampResponse_eq_ok_iff_readAs strict]
  constructor
  · rintro ⟨response, status, wellFormed, read, parsed⟩
    rcases (readAs_iff strict).mp read with ⟨short, octets⟩
    exact ⟨short, response, status, wellFormed, octets, parsed⟩
  · rintro ⟨short, response, status, wellFormed, octets, parsed⟩
    exact
      ⟨response, status, wellFormed,
        (readAs_iff strict).mpr ⟨short, octets⟩, parsed⟩

end Response

/-! ## A rejection -/

section Example

open RitspLtv.Tsp.StrictReference

/-- A strict decoder of BIT STRINGs. -/
def bitStringFromAny (value : Any) : Except String BitString :=
  match value.value with
  | [] => .error "malformed ASN.1 DER value for BIT STRING"
  | unusedBits :: rawBytes =>
      accept
        (value.tag = 0x03 ∧ unusedBits ≤ 7 ∧
          (rawBytes = [] → unusedBits = 0))
        ⟨unusedBits, rawBytes⟩

/-- The strict crates, with a decoder of BIT STRINGs. -/
def exampleCrates : ResponseCrates where
  toCmsCrates := crates [] []
  bitStringFromAny := bitStringFromAny

theorem strictResponse_exampleCrates :
    StrictResponse exampleCrates maxLength where
  toStrict := strict_crates [] []
  bitString := by
    rintro ⟨tag, body⟩ ⟨unusedBits, rawBytes⟩
    show bitStringFromAny ⟨tag, body⟩ = _ ↔ _
    cases body with
    | nil => simp [bitStringFromAny, BitStringForm]
    | cons first following =>
        simp only [bitStringFromAny, accept_eq_ok, BitStringForm,
          BitString.mk.injEq, List.cons.injEq]
        constructor
        · rintro ⟨⟨isBits, small, empty⟩, rfl, rfl⟩
          exact ⟨isBits, ⟨rfl, rfl⟩, small, empty⟩
        · rintro ⟨isBits, ⟨rfl, rfl⟩, small, empty⟩
          exact ⟨⟨isBits, small, empty⟩, rfl, rfl⟩

/-- A rejection with two texts and one failure bit. -/
def rejection : Syntax where
  status := [2]
  statusString := some [asciiBytes "bad request", asciiBytes "try again"]
  failureInfo := some [0x05, 0x20]
  token := none

theorem parseTimestampResponse_rejection :
    parseTimestampResponse exampleCrates rejection.encode =
      .ok
        { status := .rejection
          statusString := some (asciiBytes "bad request")
          failureInfo := some [0x05, 0x20]
          tokenDer := none } := by
  apply
    (parseTimestampResponse_eq_ok_iff exampleCrates maxLength
      strictResponse_exampleCrates rejection.encode _).mpr
  refine ⟨by decide +kernel, rejection, 2, ⟨by decide, ?_, ?_⟩, rfl, rfl⟩
  · rintro texts ⟨⟩
    exact ⟨by decide, by decide +kernel⟩
  · rintro body ⟨⟩
    refine ⟨⟨0x05, [0x20]⟩, ⟨rfl, by decide, by decide⟩, ?_⟩
    rintro byte ⟨⟩
    rfl

end Example

end RitspLtv.Tsp.ResponseGrammar
