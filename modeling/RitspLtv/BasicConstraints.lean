import RitspLtv.IntegerCodec

/-!
# What is accepted as `basicConstraints`

The parser reads the encoding of every `BasicConstraints` value as this value.
It also reads values that are not encoded as DER has it: octets behind the
SEQUENCE, a `cA` that is neither `0x00` nor `0xFF`, and a path length with a
redundant zero octet.
-/

namespace RitspLtv.BasicConstraints

open RitspLtv.Foundation.Checks
open RitspLtv.RustStd
open RitspLtv.DerUtils
open RitspLtv.IntegerBodies
open RitspLtv.IntegerCodec
open RitspLtv.TlvElements
open RitspLtv.TlvRoundTrip
open RitspLtv.Tsp.StrictDer

variable {extValue : Bytes} {isCa : Bool} {pathLen : Option Nat}
variable {fields : List Element}

/-! ## The fields -/

/-- Fields that the parser reads, and what it reads from them. -/
inductive Reads : List Element → Bool → Option Nat → Prop where
  | empty : Reads [] false none
  | flag (octet : UInt8) : Reads [(0x01, [octet])] (octet != 0x00) none
  | flagAndPathLen (octet : UInt8) (body : Bytes) (maxDepth : Nat)
      (asserted : octet ≠ 0x00)
      (decoded : decodeIntegerU64 body = .ok maxDepth) :
      Reads [(0x01, [octet]), (0x02, body)] true (some maxDepth)

theorem parseCaFlag_eq_ok_iff {pos rest : Bytes} :
    parseCaFlag pos = .ok (isCa, rest) ↔
      (pos = [] ∧ isCa = false ∧ rest = []) ∨
        (∃ octet,
          parseTlvWithRest pos = .ok (0x01, [octet], rest) ∧
            isCa = (octet != 0x00)) ∨
        (∃ tag value after,
          parseTlvWithRest pos = .ok (tag, value, after) ∧ tag ≠ 0x01 ∧
            isCa = false ∧ rest = pos) := by
  cases pos with
  | nil => simp [parseCaFlag, parseTlvWithRest, eq_comm]
  | cons head tail =>
      simp only [parseCaFlag, bind_eq_ok, mapError_eq_ok, Prod.exists,
        reduceCtorEq, false_and, false_or]
      constructor
      · rintro ⟨tag, value, after, parsed, read⟩
        by_cases isBoolean : tag = 0x01
        · subst isBoolean
          left
          match value, read with
          | [octet], read =>
              cases read
              exact ⟨octet, parsed, rfl⟩
        · right
          rw [if_neg isBoolean] at read
          cases read
          exact ⟨tag, value, after, parsed, isBoolean, rfl, rfl⟩
      · rintro (⟨octet, parsed, rfl⟩ | ⟨tag, value, after, parsed, other, rfl, rfl⟩)
        · exact ⟨0x01, [octet], rest, parsed, rfl⟩
        · refine ⟨tag, value, after, parsed, ?_⟩
          rw [if_neg other]
          rfl

theorem parsePathLen_eq_ok_iff {pos : Bytes} :
    parsePathLen isCa pos = .ok pathLen ↔
      (pos = [] ∧ pathLen = none) ∨
        ∃ body maxDepth,
          parseTlvWithRest pos = .ok (0x02, body, []) ∧ isCa = true ∧
            decodeIntegerU64 body = .ok maxDepth ∧
            pathLen = some maxDepth := by
  cases pos with
  | nil => simp [parsePathLen, parseTlvWithRest, eq_comm]
  | cons head tail =>
      simp only [parsePathLen, bind_eq_ok, mapError_eq_ok, rejectIf_eq_ok,
        exists_const, pure_eq_ok, Prod.exists, reduceCtorEq, false_and,
        false_or, ne_eq, not_not, Bool.not_eq_false]
      constructor
      · rintro ⟨tag, body, rest, parsed, rfl, ca, maxDepth, decoded, rfl, rfl⟩
        exact ⟨body, maxDepth, parsed, ca, decoded, rfl⟩
      · rintro ⟨body, maxDepth, parsed, ca, decoded, rfl⟩
        exact
          ⟨0x02, body, [], parsed, rfl, ca, maxDepth, decoded, rfl, rfl⟩

/-- The parser reads the fields of one SEQUENCE, whatever follows it. -/
theorem parseBasicConstraints_eq_ok_iff :
    parseBasicConstraints extValue = .ok (isCa, pathLen) ↔
      ∃ body fields trailing,
        parseTlvWithRest extValue = .ok (0x30, body, trailing) ∧
          Consists body fields ∧ Reads fields isCa pathLen := by
  simp only [parseBasicConstraints, bind_eq_ok, rejectIf_eq_ok, exists_const,
    pure_eq_ok, Prod.exists, Prod.mk.injEq, parseTlv_eq_ok_iff, not_not,
    parseCaFlag_eq_ok_iff, parsePathLen_eq_ok_iff]
  constructor
  · rintro
      ⟨tag, body, ⟨trailing, parsed⟩, rfl, ca, rest, flag, length, read,
        rfl, rfl⟩
    rcases flag with
      ⟨rfl, rfl, rfl⟩ | ⟨octet, flagParsed, rfl⟩ |
        ⟨tag, value, after, otherParsed, _, rfl, rfl⟩
    · rcases read with ⟨_, rfl⟩ | ⟨_, _, impossible, _⟩
      · exact ⟨[], [], trailing, parsed, Consists.nil_iff.mpr rfl, .empty⟩
      · cases impossible
    · rcases read with
        ⟨rfl, rfl⟩ | ⟨lengthBody, maxDepth, lengthParsed, ca, decoded, rfl⟩
      · exact
          ⟨body, _, trailing, parsed, Consists.single flagParsed, .flag octet⟩
      · rw [ca]
        refine
          ⟨body, _, trailing, parsed,
            Consists.cons flagParsed (Consists.single lengthParsed),
            .flagAndPathLen octet lengthBody maxDepth ?_ decoded⟩
        exact bne_iff_ne.mp ca
    · rcases read with ⟨rfl, _⟩ | ⟨_, _, _, impossible, _⟩
      · cases otherParsed
      · cases impossible
  · rintro ⟨body, fields, trailing, parsed, consists, reads⟩
    refine ⟨0x30, body, ⟨trailing, parsed⟩, rfl, isCa, ?_⟩
    cases reads with
    | empty =>
        rw [Consists.nil_iff] at consists
        exact
          ⟨[], Or.inl ⟨consists, rfl, rfl⟩, none, Or.inl ⟨rfl, rfl⟩, rfl, rfl⟩
    | flag octet =>
        rcases Consists.cons_iff.mp consists with ⟨rest, flagParsed, later⟩
        rw [Consists.nil_iff] at later
        subst later
        exact
          ⟨[], Or.inr (Or.inl ⟨octet, flagParsed, rfl⟩), none,
            Or.inl ⟨rfl, rfl⟩, rfl, rfl⟩
    | flagAndPathLen octet lengthBody maxDepth asserted decoded =>
        rcases Consists.cons_iff.mp consists with ⟨rest, flagParsed, later⟩
        rcases Consists.cons_iff.mp later with ⟨after, lengthParsed, last⟩
        rw [Consists.nil_iff] at last
        subst last
        refine
          ⟨rest, Or.inr (Or.inl ⟨octet, flagParsed, ?_⟩), some maxDepth,
            Or.inr ⟨lengthBody, maxDepth, lengthParsed, rfl, decoded, rfl⟩,
            rfl, rfl⟩
        exact (bne_iff_ne.mpr asserted).symm

/-! ## Encodings -/

/--
The fields of the DER encoding of a value.  A flag that is not set is left out;
that it is written all the same is the one deviation allowed for.
-/
inductive Fields : List Element → Bool → Option Nat → Prop where
  | omitted : Fields [] false none
  | notCa : Fields [(0x01, [0x00])] false none
  | ca : Fields [(0x01, [0xFF])] true none
  | pathLen (body : Bytes) (maxDepth : Nat)
      (denotes : Denotes body maxDepth) (small : maxDepth < 2 ^ 64) :
      Fields [(0x01, [0xFF]), (0x02, body)] true (some maxDepth)

/-- The octets are the DER encoding of the value. -/
def Encodes (extValue : Bytes) (isCa : Bool) (pathLen : Option Nat) : Prop :=
  ∃ fields,
    Fields fields isCa pathLen ∧
      extValue = encodeElement (0x30, encodeElements fields)

theorem Fields.reads (written : Fields fields isCa pathLen) :
    Reads fields isCa pathLen := by
  cases written with
  | omitted => exact .empty
  | notCa => exact .flag 0x00
  | ca => exact .flag 0xFF
  | pathLen body maxDepth denotes small =>
      exact
        .flagAndPathLen 0xFF body maxDepth (by decide)
          (decodeIntegerU64_of_denotes denotes small)

/-! ## Deviations -/

/--
Fields of which the parser makes sense: at most a flag and, behind a flag that
is set, a path length of at most eight octets and one zero in front of them.
-/
inductive Legible : List Element → Prop where
  | empty : Legible []
  | flag (octet : UInt8) : Legible [(0x01, [octet])]
  | flagAndPathLen (octet : UInt8) (body : Bytes)
      (asserted : octet ≠ 0x00) (nonempty : body ≠ [])
      (nonnegative : 0 ≤ integerValue body)
      (short : (parseIntegerBody body).length ≤ 8) :
      Legible [(0x01, [octet]), (0x02, body)]

/-- A flag with neither of the two octets DER has for it. -/
def HasOddFlag (fields : List Element) : Prop :=
  ∃ octet, (0x01, [octet]) ∈ fields ∧ octet ≠ 0x00 ∧ octet ≠ 0xFF

/-- A path length with a zero octet in front that its sign does not need. -/
def HasPaddedLength (fields : List Element) : Prop :=
  ∃ second rest,
    ((0x02, 0x00 :: second :: rest) : Element) ∈ fields ∧ second < 0x80

/-- The octets are read although DER has no such encoding. -/
def Lenient (extValue : Bytes) : Prop :=
  ∃ body fields trailing,
    parseTlvWithRest extValue = .ok (0x30, body, trailing) ∧
      Consists body fields ∧ Legible fields ∧
      (trailing ≠ [] ∨ HasOddFlag fields ∨ HasPaddedLength fields)

theorem legible_iff :
    Legible fields ↔ ∃ isCa pathLen, Reads fields isCa pathLen := by
  constructor
  · intro legible
    cases legible with
    | empty => exact ⟨false, none, .empty⟩
    | flag octet => exact ⟨octet != 0x00, none, .flag octet⟩
    | flagAndPathLen octet body asserted nonempty nonnegative short =>
        have decoded :=
          decodeIntegerU64_eq_ok_iff.mpr
            ⟨nonempty, (Int.toNat_of_nonneg nonnegative).symm, short⟩
        exact ⟨true, _, .flagAndPathLen octet body _ asserted decoded⟩
  · rintro ⟨isCa, pathLen, reads⟩
    cases reads with
    | empty => exact .empty
    | flag octet => exact .flag octet
    | flagAndPathLen octet body maxDepth asserted decoded =>
        rcases decodeIntegerU64_eq_ok_iff.mp decoded with
          ⟨nonempty, same, short⟩
        refine .flagAndPathLen octet body asserted nonempty ?_ short
        rw [same]
        exact Int.natCast_nonneg maxDepth

/-- A path length that is decoded and has no needless zero is in the one form. -/
theorem denotes_of_decodeIntegerU64
    {body : Bytes} {maxDepth : Nat}
    (decoded : decodeIntegerU64 body = .ok maxDepth)
    (unpadded :
      ∀ second rest, body = 0x00 :: second :: rest → ¬ second < 0x80) :
    Denotes body maxDepth := by
  rcases decodeIntegerU64_eq_ok_iff.mp decoded with ⟨nonempty, same, _⟩
  refine ⟨?_, same⟩
  match body with
  | [] => exact nonempty rfl
  | [_] => trivial
  | first :: second :: rest =>
      constructor
      · rintro ⟨rfl, low⟩
        exact unpadded second rest rfl low
      · rintro ⟨rfl, _⟩
        have negative : integerValue (0xFF :: second :: rest) < 0 :=
          integerValue_neg_of_high (by decide) (second :: rest)
        rw [same] at negative
        exact absurd negative (Int.natCast_nonneg maxDepth).not_gt

/-- Fields that are read are those of the encoding, unless they are odd. -/
theorem fields_of_reads
    (reads : Reads fields isCa pathLen)
    (oddFlag : ¬ HasOddFlag fields) (paddedLength : ¬ HasPaddedLength fields) :
    Fields fields isCa pathLen := by
  have canonical :
      ∀ octet, ((0x01, [octet]) : Element) ∈ fields →
        octet = 0x00 ∨ octet = 0xFF := by
    intro octet member
    by_contra odd
    exact oddFlag ⟨octet, member, not_or.mp odd⟩
  cases reads with
  | empty => exact .omitted
  | flag octet =>
      rcases canonical octet List.mem_cons_self with rfl | rfl
      · exact .notCa
      · exact .ca
  | flagAndPathLen octet body maxDepth asserted decoded =>
      rcases canonical octet List.mem_cons_self with rfl | rfl
      · exact absurd rfl asserted
      · refine .pathLen body maxDepth ?_ (lt_of_decodeIntegerU64 decoded)
        apply denotes_of_decodeIntegerU64 decoded
        rintro second rest rfl low
        exact paddedLength ⟨second, rest, by simp, low⟩

theorem Fields.not_hasOddFlag (written : Fields fields isCa pathLen) :
    ¬ HasOddFlag fields := by
  rintro ⟨octet, member, notFalse, notTrue⟩
  cases written with
  | omitted => cases member
  | notCa => exact notFalse (by simpa using member)
  | ca => exact notTrue (by simpa using member)
  | pathLen body maxDepth denotes small =>
      exact notTrue (by simpa using member)

theorem Fields.not_hasPaddedLength (written : Fields fields isCa pathLen) :
    ¬ HasPaddedLength fields := by
  rintro ⟨second, rest, member, low⟩
  cases written with
  | omitted => cases member
  | notCa => simp at member
  | ca => simp at member
  | pathLen body maxDepth denotes small =>
      have same : 0x00 :: second :: rest = body := by simpa using member
      subst same
      exact denotes.1.1 ⟨rfl, low⟩

/-- The encodings of the fields are short. -/
theorem Fields.readable (written : Fields fields isCa pathLen) :
    Readable (0x30, encodeElements fields) ∧
      ∀ field ∈ fields, Readable field := by
  cases written with
  | omitted => exact ⟨by decide, by simp⟩
  | notCa => exact ⟨by decide, by decide⟩
  | ca => exact ⟨by decide, by decide⟩
  | pathLen body maxDepth denotes small =>
      have decoded := decodeIntegerU64_of_denotes denotes small
      have short := (decodeIntegerU64_eq_ok_iff.mp decoded).2.2
      have bodyShort : body.length ≤ 9 := by
        rw [parseIntegerBody_eq_drop, List.length_drop] at short
        omega
      have header :
          (encodeElement (0x02, body)).length ≤ body.length + 6 :=
        length_encodeElement_le (0x02, body)
      constructor
      · apply readable_of_lowTag (by decide)
        have flag : (encodeElement (0x01, [0xFF])).length = 3 := rfl
        simp only [encodeElements_cons, encodeElements_nil,
          List.length_append, List.length_nil, flag]
        omega
      · intro field member
        rcases List.mem_pair.mp member with rfl | rfl
        · decide
        · apply readable_of_lowTag (by decide)
          exact bodyShort.trans_lt (by decide)

/-- The encoding of a value is one SEQUENCE of its fields, and ends with it. -/
theorem parse_of_fields (written : Fields fields isCa pathLen) :
    parseTlvWithRest (encodeElement (0x30, encodeElements fields)) =
        .ok (0x30, encodeElements fields, []) ∧
      Consists (encodeElements fields) fields := by
  rcases written.readable with ⟨sequence, each⟩
  refine ⟨?_, rfl, each⟩
  rw [← List.append_nil (encodeElement _)]
  exact sequence.parse []

theorem Encodes.parsed (encodes : Encodes extValue isCa pathLen) :
    parseBasicConstraints extValue = .ok (isCa, pathLen) := by
  rcases encodes with ⟨fields, written, rfl⟩
  rcases parse_of_fields written with ⟨parsed, consists⟩
  exact
    parseBasicConstraints_eq_ok_iff.mpr
      ⟨_, fields, [], parsed, consists, written.reads⟩

/-- An encoding is not read in a lenient way. -/
theorem Encodes.not_lenient (encodes : Encodes extValue isCa pathLen) :
    ¬ Lenient extValue := by
  rcases encodes with ⟨fields, written, rfl⟩
  rcases parse_of_fields written with ⟨parsed, consists⟩
  rintro ⟨body, others, trailing, otherParsed, otherConsists, _, deviation⟩
  rw [parsed] at otherParsed
  cases otherParsed
  cases consists.unique otherConsists
  rcases deviation with nonempty | oddFlag | paddedLength
  · exact nonempty rfl
  · exact written.not_hasOddFlag oddFlag
  · exact written.not_hasPaddedLength paddedLength

/-- What is read, and not in a lenient way, is an encoding. -/
theorem encodes_of_parsed
    (parsed : parseBasicConstraints extValue = .ok (isCa, pathLen))
    (strict : ¬ Lenient extValue) :
    Encodes extValue isCa pathLen := by
  rcases parseBasicConstraints_eq_ok_iff.mp parsed with
    ⟨body, fields, trailing, sequence, consists, reads⟩
  have plain :
      ¬ (trailing ≠ [] ∨ HasOddFlag fields ∨ HasPaddedLength fields) := by
    intro deviation
    have legible := legible_iff.mpr ⟨isCa, pathLen, reads⟩
    exact
      strict ⟨body, fields, trailing, sequence, consists, legible, deviation⟩
  rcases not_or.mp plain with ⟨ends, canonical⟩
  rcases not_or.mp canonical with ⟨oddFlag, paddedLength⟩
  refine ⟨fields, fields_of_reads reads oddFlag paddedLength, ?_⟩
  have octets := octets_of_parse sequence
  rw [not_not.mp ends, List.append_nil] at octets
  rw [octets, consists.octets]

/--
The parser reads exactly the encodings of `BasicConstraints`, each as its
value, where the octets are not of one of the three kinds it is lenient with:
a legible SEQUENCE with octets behind it, with an odd flag or with a padded
path length.  On each of these it returns a value that they do not encode.
-/
theorem parseBasicConstraints_iff_encodes (extValue : Bytes) :
    (∀ isCa pathLen,
        parseBasicConstraints extValue = .ok (isCa, pathLen) ↔
          Encodes extValue isCa pathLen) ↔
      ¬ Lenient extValue := by
  constructor
  · rintro agrees ⟨body, fields, trailing, parsed, consists, legible, deviation⟩
    rcases legible_iff.mp legible with ⟨isCa, pathLen, reads⟩
    have read :=
      parseBasicConstraints_eq_ok_iff.mpr
        ⟨body, fields, trailing, parsed, consists, reads⟩
    exact
      ((agrees isCa pathLen).mp read).not_lenient
        ⟨body, fields, trailing, parsed, consists, legible, deviation⟩
  · intro strict isCa pathLen
    constructor
    · intro parsed
      exact encodes_of_parsed parsed strict
    · exact Encodes.parsed

/-- Octets behind the SEQUENCE, a flag `0x01`, and a path length `00 01`. -/
theorem parseBasicConstraints_lenient :
    (parseBasicConstraints [0x30, 0x00, 0x05, 0x00] = .ok (false, none) ∧
      ¬ Encodes [0x30, 0x00, 0x05, 0x00] false none) ∧
    (parseBasicConstraints [0x30, 0x03, 0x01, 0x01, 0x01] = .ok (true, none) ∧
      ¬ Encodes [0x30, 0x03, 0x01, 0x01, 0x01] true none) ∧
    parseBasicConstraints
        [0x30, 0x07, 0x01, 0x01, 0xFF, 0x02, 0x02, 0x00, 0x01] =
      .ok (true, some 1) ∧
    ¬ Encodes [0x30, 0x07, 0x01, 0x01, 0xFF, 0x02, 0x02, 0x00, 0x01]
        true (some 1) := by
  refine ⟨⟨by decide, ?_⟩, ⟨by decide, ?_⟩, by decide, ?_⟩
  · rintro ⟨fields, written, octets⟩
    cases written <;> exact absurd octets (by decide)
  · rintro ⟨fields, written, octets⟩
    cases written
    exact absurd octets (by decide)
  · rintro ⟨fields, written, octets⟩
    cases written with
    | pathLen body maxDepth denotes small =>
        have body_eq : body = [0x01] :=
          eq_of_denotes denotes (by decide)
        subst body_eq
        exact absurd octets (by decide)

end RitspLtv.BasicConstraints
