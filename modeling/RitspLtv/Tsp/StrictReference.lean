import RitspLtv.Tsp.Reference
import RitspLtv.Tsp.StrictDer

/-!
# Strict reference decoders

The reference instance with decoders that accept the one form of each value
only, as strict decoders do; algorithm identifiers and extensions are decoded
from those that are known.
-/

namespace RitspLtv.Tsp.StrictReference

open RitspLtv.Foundation.Checks
open RitspLtv.RustStd
open RitspLtv.DerUtils
open RitspLtv.IntegerBodies
open RitspLtv.TlvRoundTrip
open RitspLtv.TlvElements
open RitspLtv.Reference
open RitspLtv.Tsp.Cms
open RitspLtv.Tsp.Info
open RitspLtv.Tsp.StrictDer

/-! ## The decoders -/

/-- The greatest length that the decoders count to. -/
def maxLength : Nat := 2 ^ 28 - 1

/-- A value, provided that its octets have the right form. -/
def accept {α : Type} (condition : Prop) [Decidable condition] (value : α) :
    Except String α :=
  if condition then .ok value else .error "malformed ASN.1 DER value"

@[simp]
theorem accept_eq_ok
    {α : Type} {condition : Prop} [Decidable condition] {value result : α} :
    accept condition value = .ok result ↔ condition ∧ value = result := by
  unfold accept
  by_cases holds : condition <;> simp [holds]

def anyFromDer (octets : Bytes) : Except String Any :=
  match parseTlvWithRest octets with
  | .ok (tag, value, []) => accept (octets.length ≤ maxLength) ⟨tag, value⟩
  | .ok _ => .error "trailing data at end of DER message"
  | .error e => .error e

/-- A number below a bound. -/
def natFromAny (bound : Nat) (value : Any) : Except String Nat :=
  accept
    (value.tag = 0x02 ∧ IsInteger value.value ∧
      0 ≤ integerValue value.value ∧ integerValue value.value < bound)
    (integerValue value.value).toNat

def boolFromAny (value : Any) : Except String Bool :=
  accept
    (value.tag = 0x01 ∧
      (value.value = booleanBody true ∨ value.value = booleanBody false))
    (value.value == booleanBody true)

def intFromAny (value : Any) : Except String Bytes :=
  accept (value.tag = 0x02 ∧ IsInteger value.value) value.value

def uintFromAny (value : Any) : Except String Bytes :=
  accept
    (value.tag = 0x02 ∧ IsInteger value.value ∧
      0 ≤ integerValue value.value)
    value.value

def oidFromAny (value : Any) : Except String ObjectIdentifier :=
  accept (value.tag = 0x06) ⟨value.value⟩

def algorithmIdentifierFromAny (value : Any) :
    Except String AlgorithmIdentifier := do
  let algorithm ←
    decodeKnown (fun known => encodeElements (algorithmElements known))
      [Reference.sha256] value.value
  accept (value.tag = 0x30) algorithm

/-- An extension that is known, without its flag when it is not critical. -/
def extensionFromAny (known : List Extension) (value : Any) :
    Except String Extension := do
  let extension ←
    decodeKnown
      (fun known =>
        encodeElements
          (extensionElements known
            (if known.critical then some true else none)))
      known value.value
  accept (value.tag = 0x30) extension

/-- A `dNSName`. -/
def generalNameFromDer (octets : Bytes) : Except String GeneralName :=
  match parseTlvWithRest octets with
  | .ok (0x82, name, []) => .ok (.dnsName name)
  | _ => .error "unexpected ASN.1 DER tag"

/-- Names as `subjectAltName` has them; only those of DNS are known. -/
def encodeAltNames (names : List GeneralName) : Bytes :=
  encodeTlv 0x30
    (names.flatMap fun name =>
      match name with
      | .dnsName name => encodeTlv 0x82 name
      | .directoryName _ => []
      | .other _ _ => [])

/-- The crates, with strict decoders. -/
def crates (known : List Extension) (altNames : List (List GeneralName)) :
    CmsCrates :=
  { Reference.crates with
    anyFromDer := anyFromDer
    u64FromAny := fun value => (natFromAny (2 ^ 64) value).map UInt64.ofNat
    u16FromAny := fun value => (natFromAny (2 ^ 16) value).map UInt16.ofNat
    uintFromAny := uintFromAny
    intFromAny := intFromAny
    boolFromAny := boolFromAny
    oidFromAny := oidFromAny
    algorithmIdentifierFromAny := algorithmIdentifierFromAny
    extensionFromAny := extensionFromAny known
    generalNameFromDer := generalNameFromDer
    subjectAltNamesFromDer :=
      decodeKnown encodeAltNames altNames }

/-! ## They are strict -/

theorem anyFromDer_eq_ok_iff {octets : Bytes} {value : Any} :
    anyFromDer octets = .ok value ↔
      parseTlvWithRest octets = .ok (value.tag, value.value, []) ∧
        octets.length ≤ maxLength := by
  unfold anyFromDer
  rcases parseTlvWithRest octets with _ | ⟨tag, body, _ | ⟨head, tail⟩⟩
  · simp
  · cases value
    simp [and_comm]
  · simp

theorem denotes_of_natFromAny
    {bound number : Nat} {value : Any}
    (decoded : natFromAny bound value = .ok number) :
    value.tag = 0x02 ∧ Denotes value.value number ∧ number < bound := by
  rw [natFromAny, accept_eq_ok] at decoded
  rcases decoded with ⟨⟨tag, form, nonnegative, bounded⟩, rfl⟩
  have same := Int.toNat_of_nonneg nonnegative
  exact ⟨tag, ⟨form, same.symm⟩, by omega⟩

theorem natFromAny_of_denotes
    {bound number : Nat} {value : Any}
    (tag : value.tag = 0x02) (denotes : Denotes value.value number)
    (bounded : number < bound) :
    natFromAny bound value = .ok number := by
  rcases denotes with ⟨form, same⟩
  rw [natFromAny, accept_eq_ok, same]
  exact
    ⟨⟨tag, form, Int.natCast_nonneg number, Int.ofNat_lt.mpr bounded⟩,
      Int.toNat_natCast number⟩

/-- The reference decoders are strict. -/
theorem strict_crates
    (known : List Extension) (altNames : List (List GeneralName)) :
    Strict (crates known altNames) maxLength where
  countable := by decide
  any := by
    intro octets value decoded
    rcases anyFromDer_eq_ok_iff.mp decoded with ⟨read, short⟩
    rcases (@parse_iff octets [] (value.tag, value.value)).mp read with
      ⟨_, same⟩
    exact ⟨by rw [same, List.append_nil], short⟩
  anyComplete := by
    intro element member short
    have countable : maxLength < 2 ^ 32 := by decide
    have read :=
      parse_of_short (lowTag_of_mem_fieldTags element.1 member)
        (short.trans_lt countable)
    exact anyFromDer_eq_ok_iff.mpr ⟨read, short⟩
  u64 := by
    intro value number
    rw [show (crates known altNames).u64FromAny value =
      (natFromAny (2 ^ 64) value).map UInt64.ofNat from rfl, map_eq_ok_iff]
    constructor
    · rintro ⟨number, decoded, rfl⟩
      rcases denotes_of_natFromAny decoded with ⟨tag, denotes, bounded⟩
      rw [UInt64.toNat_ofNat_of_lt' bounded]
      exact ⟨tag, denotes⟩
    · rintro ⟨tag, denotes⟩
      exact
        ⟨number.toNat, natFromAny_of_denotes tag denotes number.toNat_lt,
          UInt64.ofNat_toNat.symm⟩
  u16 := by
    intro value number decoded
    rcases map_eq_ok_iff.mp decoded with ⟨number, checked, rfl⟩
    rcases denotes_of_natFromAny checked with ⟨tag, denotes, bounded⟩
    rw [UInt16.toNat_ofNat_of_lt' bounded]
    exact ⟨tag, denotes⟩
  uint := by
    intro value body decoded
    rcases accept_eq_ok.mp decoded with ⟨⟨tag, form, nonnegative⟩, _⟩
    exact
      ⟨tag, (integerValue value.value).toNat, form,
        (Int.toNat_of_nonneg nonnegative).symm⟩
  int := by
    intro value body decoded
    exact (accept_eq_ok.mp decoded).1
  bool := by
    intro value truth decoded
    rcases accept_eq_ok.mp decoded with ⟨⟨tag, octets⟩, rfl⟩
    refine ⟨tag, ?_⟩
    rcases octets with same | same <;> rw [same] <;> rfl
  oid := by
    intro value oid decoded
    rcases accept_eq_ok.mp decoded with ⟨tag, rfl⟩
    exact ⟨tag, rfl⟩
  algorithmIdentifier := by
    intro value algorithm decoded
    rcases bind_eq_ok.mp decoded with ⟨found, listed, tagged⟩
    rcases accept_eq_ok.mp tagged with ⟨tag, rfl⟩
    exact ⟨tag, (decodeKnown_eq_ok listed).2.symm⟩
  extension := by
    intro value extension decoded
    rcases bind_eq_ok.mp decoded with ⟨found, listed, tagged⟩
    rcases accept_eq_ok.mp tagged with ⟨tag, rfl⟩
    refine ⟨tag, _, ?_, (decodeKnown_eq_ok listed).2.symm⟩
    cases found.critical <;> rfl

end RitspLtv.Tsp.StrictReference
