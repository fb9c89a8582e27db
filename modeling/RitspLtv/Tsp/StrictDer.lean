import RitspLtv.IntegerBodies
import RitspLtv.TlvElements
import RitspLtv.Tsp.Info

/-!
# Strict decoders

The hand-written walks over a token split it into elements and leave the
contents of each to a decoder of the `der` crate.  This module states what the
development relies on when those decoders are strict: an element has one form
only, and so has what it denotes.
-/

namespace RitspLtv.Tsp.StrictDer

open RitspLtv.Foundation.Checks
open RitspLtv.RustStd
open RitspLtv.DerUtils
open RitspLtv.IntegerBodies
open RitspLtv.TlvRoundTrip
open RitspLtv.TlvElements
open RitspLtv.Tsp.Cms
open RitspLtv.Tsp.Info

/-! ## Forms -/

/-- An INTEGER body without a redundant first octet. -/
def IsInteger : Bytes → Prop
  | [] => False
  | [_] => True
  | first :: second :: _ =>
      ¬ (first = 0x00 ∧ second < 0x80) ∧ ¬ (first = 0xFF ∧ 0x80 ≤ second)

instance : DecidablePred IsInteger
  | [] => inferInstanceAs (Decidable False)
  | [_] => inferInstanceAs (Decidable True)
  | _ :: _ :: _ => inferInstanceAs (Decidable (_ ∧ _))

/-- An INTEGER body of a number that is not negative. -/
def Denotes (body : Bytes) (number : Nat) : Prop :=
  IsInteger body ∧ integerValue body = number

instance (body : Bytes) (number : Nat) : Decidable (Denotes body number) :=
  inferInstanceAs (Decidable (_ ∧ _))

/-- The body of a BOOLEAN. -/
def booleanBody (value : Bool) : Bytes :=
  [if value then 0xFF else 0x00]

/-- An element as the decoders present it. -/
def ofElement (element : Element) : Any :=
  ⟨element.1, element.2⟩

/-- The elements of an algorithm identifier. -/
def algorithmElements (algorithm : AlgorithmIdentifier) : List Element :=
  (0x06, algorithm.oid.body) ::
    algorithm.parameters.toList.map fun parameters =>
      (parameters.tag, parameters.value)

/-- The elements of an extension, with its flag as far as it is written. -/
def extensionElements (extension : Extension) (flag : Option Bool) :
    List Element :=
  (0x06, extension.extnId.body) ::
    (flag.toList.map fun critical => (0x01, booleanBody critical)) ++
    [(0x04, extension.extnValue)]

/-- The tags of the fields that are decoded as one element. -/
def fieldTags : List UInt8 :=
  [0x01, 0x02, 0x03, 0x04, 0x06, 0x0C, 0x18, 0x30, 0x80, 0x81, 0xA0, 0xA1]

theorem lowTag_of_mem_fieldTags : ∀ tag ∈ fieldTags, LowTag tag := by
  decide +kernel

/--
The decoders are strict: what they accept is the only form of what they
return, and no longer than they can count.
-/
structure Strict (crates : CmsCrates) (maxLength : Nat) : Prop where
  countable : maxLength < 2 ^ 32
  any :
    ∀ {octets value}, crates.anyFromDer octets = .ok value →
      octets = encodeElement (value.tag, value.value) ∧
        octets.length ≤ maxLength
  anyComplete :
    ∀ {element : Element}, element.1 ∈ fieldTags →
      (encodeElement element).length ≤ maxLength →
        crates.anyFromDer (encodeElement element) = .ok (ofElement element)
  u64 :
    ∀ {value number}, crates.u64FromAny value = .ok number ↔
      value.tag = 0x02 ∧ Denotes value.value number.toNat
  u16 :
    ∀ {value number}, crates.u16FromAny value = .ok number →
      value.tag = 0x02 ∧ Denotes value.value number.toNat
  uint :
    ∀ {value body}, crates.uintFromAny value = .ok body →
      value.tag = 0x02 ∧ ∃ number, Denotes value.value number
  int :
    ∀ {value body}, crates.intFromAny value = .ok body →
      value.tag = 0x02 ∧ IsInteger value.value
  bool :
    ∀ {value truth}, crates.boolFromAny value = .ok truth →
      value.tag = 0x01 ∧ value.value = booleanBody truth
  oid :
    ∀ {value oid}, crates.oidFromAny value = .ok oid →
      value.tag = 0x06 ∧ value.value = oid.body
  algorithmIdentifier :
    ∀ {value algorithm},
      crates.algorithmIdentifierFromAny value = .ok algorithm →
        value.tag = 0x30 ∧
          value.value = encodeElements (algorithmElements algorithm)
  extension :
    ∀ {value extension}, crates.extensionFromAny value = .ok extension →
      value.tag = 0x30 ∧
        ∃ flag, flag.getD false = extension.critical ∧
          value.value = encodeElements (extensionElements extension flag)

/-! ## Fields -/

section Fields

variable {crates : CmsCrates} {maxLength : Nat}
variable {input rest : Bytes} {tag : UInt8} {context : String} {field : Any}

/-- The element is one that the decoders take. -/
def Decodes (crates : CmsCrates) (element : Element) : Prop :=
  crates.anyFromDer (encodeElement element) = .ok (ofElement element)

/-- What is decoded from an element that was read is this element. -/
theorem eq_ofElement_of_anyFromDer
    (strict : Strict crates maxLength)
    {element : Element} {value : Any}
    (readable : Readable element)
    (decoded : crates.anyFromDer (encodeElement element) = .ok value) :
    value = ofElement element := by
  rcases strict.any decoded with ⟨same, short⟩
  have bounded :
      (encodeElement (value.tag, value.value)).length < 2 ^ 32 :=
    same ▸ short.trans_lt strict.countable
  have equal := eq_of_encodeElement readable bounded same
  rw [equal]
  rfl

/-- A field is one element with its tag, whatever it is called in errors. -/
theorem parseTstField_eq_ok_iff
    (strict : Strict crates maxLength) :
    parseTstField crates input tag context = .ok (field, rest) ↔
      field.tag = tag ∧ Decodes crates (tag, field.value) ∧
        parseTlvWithRest input = .ok (tag, field.value, rest) := by
  simp only [parseTstField, bind_eq_ok, mapError_eq_ok, rejectIf_eq_ok,
    exists_const, pure_eq_ok, Prod.exists, Prod.mk.injEq, not_not]
  constructor
  · rintro ⟨found, body, after, parsed, rfl, value, decoded, rfl, rfl⟩
    rw [take_eq_encodeTlv parsed] at decoded
    have readable : Readable (found, body) := (parse_iff.mp parsed).1
    have same := eq_ofElement_of_anyFromDer strict readable decoded
    subst same
    exact ⟨rfl, decoded, parsed⟩
  · rintro ⟨rfl, decodes, parsed⟩
    refine ⟨field.tag, field.value, rest, parsed, rfl, field, ?_, rfl, rfl⟩
    rw [take_eq_encodeTlv parsed]
    exact decodes

/-- What a field is read from. -/
theorem element_of_parseTstField
    (strict : Strict crates maxLength)
    (parsed : parseTstField crates input tag context = .ok (field, rest)) :
    ∃ element : Element,
      parseTlvWithRest input = .ok (element.1, element.2, rest) ∧
        element.1 = tag ∧ field = ofElement element ∧
        Decodes crates element := by
  rcases (parseTstField_eq_ok_iff strict).mp parsed with
    ⟨rfl, decodes, read⟩
  exact ⟨(field.tag, field.value), read, rfl, rfl, decodes⟩

/-- An element that is decoded is read as a field. -/
theorem parseTstField_of_element
    (strict : Strict crates maxLength)
    {element : Element}
    (read : parseTlvWithRest input = .ok (element.1, element.2, rest))
    (decodes : Decodes crates element) :
    parseTstField crates input element.1 context =
      .ok (ofElement element, rest) :=
  (parseTstField_eq_ok_iff strict).mpr ⟨rfl, decodes, read⟩

end Fields

end RitspLtv.Tsp.StrictDer
