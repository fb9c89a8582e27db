import RitspLtv.Foundation.Consume
import RitspLtv.RustStd
import RitspLtv.Chrono

/-!
# Shared DER parsing utilities

The byte-level readers under every parser of the crate: TLV splitting with
canonical definite lengths, INTEGER bodies, `BasicConstraints`, and the two
X.509 time formats.  `parseTlvWithRest_eq_ok` is the only thing the rest of the
development needs to know about TLV splitting.
-/

namespace RitspLtv.DerUtils

open RitspLtv.Foundation.Checks
open RitspLtv.Foundation.Consume
open RitspLtv.RustStd
open RitspLtv.Chrono

/-! ## TLV splitting -/

/-- The big-endian value of an octet string. -/
def bigEndian (octets : Bytes) : Nat :=
  octets.foldl (fun value octet => value * 256 + octet.toNat) 0

/-- Parse a definite-form DER length; returns the length and the octets consumed. -/
def parseDerLength : Bytes → Except String (Nat × Nat)
  | [] => .error "empty length"
  | first :: following =>
      if first < 0x80 then
        .ok (first.toNat, 1)
      else if first = 0x80 then
        .error "indefinite length not supported"
      else do
        let numBytes := (first &&& 0x7F).toNat
        rejectIf (numBytes > 4) s!"length too large: {numBytes} bytes"
        rejectIf (1 + numBytes > (first :: following).length)
          "insufficient data for length"
        rejectIf (following.head? = some 0)
          "non-canonical DER length: leading zero"
        let length := bigEndian (following.take numBytes)
        rejectIf (length < 128)
          "non-canonical DER length: unnecessary long form"
        pure (length, 1 + numBytes)

/-- Parse one TLV; returns its tag, its value and the octets after it. -/
def parseTlvWithRest : Bytes → Except String (UInt8 × Bytes × Bytes)
  | [] => .error "empty input"
  | tag :: following => do
      rejectIf (tag &&& 0x1F = 0x1F) "high-tag-number form is not supported"
      let (length, headerLength) ← parseDerLength following
      let totalHeader := 1 + headerLength
      let data := tag :: following
      rejectIf (length > data.length - totalHeader)
        s!"TLV length exceeds data: header={totalHeader}, len={length}, available={data.length}"
      pure
        (tag, (data.drop totalHeader).take length,
          data.drop (totalHeader + length))

/-- Parse one TLV and ignore what follows it. -/
def parseTlv (data : Bytes) : Except String (UInt8 × Bytes) := do
  let (tag, body, _) ← parseTlvWithRest data
  pure (tag, body)

/-- A parsed length field is not empty. -/
theorem parseDerLength_pos
    {data : Bytes} {length headerLength : Nat}
    (parsed : parseDerLength data = .ok (length, headerLength)) :
    0 < headerLength := by
  cases data with
  | nil => cases parsed
  | cons first following =>
      simp only [parseDerLength] at parsed
      split at parsed
      · cases parsed
        exact Nat.one_pos
      · split at parsed
        · cases parsed
        · simp only [bind_eq_ok, rejectIf_eq_ok, pure_eq_ok,
            Prod.mk.injEq] at parsed
          omega

/-- The octets of a TLV are its header, its value and the rest, in this order. -/
theorem parseTlvWithRest_eq_ok
    {data value rest : Bytes} {tag : UInt8}
    (parsed : parseTlvWithRest data = .ok (tag, value, rest)) :
    ∃ header, header ≠ [] ∧ data = header ++ value ++ rest := by
  cases data with
  | nil => cases parsed
  | cons first following =>
      simp only [parseTlvWithRest, bind_eq_ok, rejectIf_eq_ok,
        exists_const, pure_eq_ok, Prod.exists, Prod.mk.injEq] at parsed
      rcases parsed with ⟨_, length, headerLength, _, _, _, rfl, rfl⟩
      refine ⟨(first :: following).take (1 + headerLength), ?_, ?_⟩
      · rw [Nat.add_comm]
        exact List.cons_ne_nil _ _
      · rw [List.append_assoc, ← @List.drop_drop _ length,
          List.take_append_drop, List.take_append_drop]

/-- What follows a TLV is shorter than the input. -/
theorem parseTlvWithRest_shrinks
    {data value rest : Bytes} {tag : UInt8}
    (parsed : parseTlvWithRest data = .ok (tag, value, rest)) :
    rest.length < data.length := by
  rcases parseTlvWithRest_eq_ok parsed with ⟨header, nonempty, rfl⟩
  have := List.length_pos_of_ne_nil nonempty
  simp only [List.length_append]
  omega

/-- Octets behind a length field do not change what it says. -/
theorem parseDerLength_take
    {data : Bytes} {length headerLength count : Nat}
    (parsed : parseDerLength data = .ok (length, headerLength))
    (enough : headerLength ≤ count) :
    parseDerLength (data.take count) = .ok (length, headerLength) ∧
      headerLength ≤ data.length := by
  cases data with
  | nil => cases parsed
  | cons first following =>
      have positive := parseDerLength_pos parsed
      rcases Nat.exists_eq_add_of_lt (Nat.lt_of_lt_of_le positive enough) with
        ⟨behind, rfl⟩
      simp only [Nat.zero_add, List.take_succ_cons]
      rw [parseDerLength] at parsed ⊢
      split at parsed
      · next short =>
          rw [if_pos short]
          cases parsed
          exact ⟨rfl, Nat.succ_le_of_lt (Nat.succ_pos _)⟩
      · next long =>
          rw [if_neg long]
          split at parsed
          · cases parsed
          · next definite =>
              rw [if_neg definite]
              simp only [bind_eq_ok, rejectIf_eq_ok, exists_const,
                pure_eq_ok, Prod.mk.injEq] at parsed ⊢
              rcases parsed with
                ⟨small, available, noZero, canonical, rfl, rfl⟩
              have within : (first &&& 0x7F).toNat ≤ behind := by omega
              have sameLength :
                  (following.take behind).take (first &&& 0x7F).toNat =
                    following.take (first &&& 0x7F).toNat := by
                rw [List.take_take, Nat.min_eq_left within]
              rw [sameLength]
              refine
                ⟨⟨small, ?_, ?_, canonical, rfl, rfl⟩, Nat.not_lt.mp available⟩
              · simp only [List.length_cons, List.length_take] at available ⊢
                omega
              · cases behind with
                | zero => simp
                | succ behind => rwa [List.head?_take]

/-- A TLV parses in the same way without what follows it. -/
theorem parseTlvWithRest_take
    {data value rest : Bytes} {tag : UInt8}
    (parsed : parseTlvWithRest data = .ok (tag, value, rest)) :
    parseTlvWithRest (data.take (data.length - rest.length)) =
      .ok (tag, value, []) := by
  cases data with
  | nil => cases parsed
  | cons first following =>
      simp only [parseTlvWithRest, bind_eq_ok, rejectIf_eq_ok,
        exists_const, pure_eq_ok, Prod.exists, Prod.mk.injEq] at parsed
      rcases parsed with
        ⟨lowTag, length, headerLength, header, fits, rfl, rfl, rfl⟩
      have shorter := parseDerLength_take header (Nat.le_add_right _ length)
      have behindHeader : 1 + headerLength ≤ (first :: following).length := by
        rw [List.length_cons, Nat.add_comm]
        exact Nat.succ_le_succ shorter.2
      have whole :
          1 + (headerLength + length) ≤ (first :: following).length := by
        omega
      have counted :
          (first :: following).length -
              ((first :: following).drop (1 + headerLength + length)).length =
            headerLength + length + 1 := by
        rw [List.length_drop]
        omega
      rw [counted, List.take_succ_cons, parseTlvWithRest, shorter.1]
      simp only [bind_eq_ok, rejectIf_eq_ok, exists_const, pure_eq_ok,
        Prod.exists, Prod.mk.injEq, Except.ok.injEq]
      refine ⟨lowTag, length, headerLength, ⟨rfl, rfl⟩, ?_, trivial, ?_, ?_⟩
      · simp only [List.length_cons, List.length_take] at fits whole ⊢
        omega
      · rw [← List.take_succ_cons, List.drop_take, List.take_take]
        congr 1
        omega
      · rw [← List.take_succ_cons]
        exact List.drop_of_length_le (by rw [List.length_take]; omega)

/-! ## TLV encoding -/

/-- Encode a DER definite-form length. -/
def encodeDerLength (length : Nat) : Bytes :=
  if length < 0x80 then [UInt8.ofNat length]
  else if length ≤ 0xFF then [0x81, UInt8.ofNat length]
  else if length ≤ 0xFFFF then
    [0x82, UInt8.ofNat (length / 2 ^ 8), UInt8.ofNat length]
  else if length ≤ 0xFFFFFF then
    [0x83, UInt8.ofNat (length / 2 ^ 16), UInt8.ofNat (length / 2 ^ 8),
      UInt8.ofNat length]
  else
    [0x84, UInt8.ofNat (length / 2 ^ 24), UInt8.ofNat (length / 2 ^ 16),
      UInt8.ofNat (length / 2 ^ 8), UInt8.ofNat length]

def encodeTlv (tag : UInt8) (value : Bytes) : Bytes :=
  tag :: (encodeDerLength value.length ++ value)

def encodeSequenceFromParts (parts : List Bytes) : Bytes :=
  encodeTlv 0x30 parts.flatten

/-- Encode a SEQUENCE from an assembled body. -/
def encodeSequenceRaw (body : Bytes) : Bytes :=
  encodeTlv 0x30 body

def encodeBoolean (val : Bool) : Bytes :=
  encodeTlv 0x01 [if val then 0xFF else 0x00]

/-! ## Searching -/

/-- The first child element with `targetTag`; a malformed child ends the search. -/
def findTaggedValueWithin : Nat → UInt8 → Bytes → Option Bytes
  | _, _, [] => none
  | 0, _, _ :: _ => none
  | fuel + 1, targetTag, head :: tail =>
      match parseTlvWithRest (head :: tail) with
      | .error _ => none
      | .ok (tag, value, rest) =>
          if tag = targetTag then some value
          else findTaggedValueWithin fuel targetTag rest

/-- Search the immediate children of a SEQUENCE body for a tag. -/
def findTaggedValue (body : Bytes) (targetTag : UInt8) : Option Bytes :=
  findTaggedValueWithin body.length targetTag body

/-- Update a state with every child element; a malformed child ends the walk. -/
def forEachTlvWithin {σ : Type} (f : σ → UInt8 → Bytes → σ) :
    Nat → σ → Bytes → σ
  | _, state, [] => state
  | 0, state, _ :: _ => state
  | fuel + 1, state, head :: tail =>
      match parseTlvWithRest (head :: tail) with
      | .error _ => state
      | .ok (tag, value, rest) =>
          forEachTlvWithin f fuel (f state tag value) rest

/-- Visit the immediate children of a SEQUENCE body. -/
def forEachTlv {σ : Type} (f : σ → UInt8 → Bytes → σ) (state : σ)
    (body : Bytes) : σ :=
  forEachTlvWithin f body.length state body

/-! ## INTEGER bodies -/

/-- Strip the leading zero of a positive INTEGER body. -/
def parseIntegerBody : Bytes → Bytes
  | 0x00 :: second :: rest => second :: rest
  | body => body

/-- Compare two INTEGER bodies, ignoring leading zero padding. -/
def integerBodiesEqual (left right : Bytes) : Bool :=
  parseIntegerBody left == parseIntegerBody right

/-- The octets of a number from its first significant one, and at least one octet. -/
def significantOctets (value : UInt64) : Bytes :=
  let beBytes := toBeBytes 8 value.toNat
  beBytes.drop ((beBytes.findIdx? (· ≠ 0)).getD 7)

/-- Significant octets behind a zero, where the sign bit would be set or nothing is left. -/
def signPadded : Bytes → Bytes
  | [] => [0x00]
  | first :: following =>
      if first &&& 0x80 ≠ 0 then 0x00 :: first :: following
      else first :: following

/-- Encode a non-negative integer as DER INTEGER. -/
def encodeIntegerU64 (value : UInt64) : Bytes :=
  encodeTlv 0x02 (signPadded (significantOctets value))

/-- Decode a non-negative INTEGER body of at most 64 bits. -/
def decodeIntegerU64 (octets : Bytes) : Except String Nat :=
  match octets with
  | [] => .error "empty INTEGER body"
  | first :: following => do
      let significant ←
        if following ≠ [] ∧ first = 0x00 then .ok following
        else if first &&& 0x80 ≠ 0 then
          .error
            s!"negative INTEGER body not representable as u64: 0x{hexByte first}..."
        else .ok (first :: following)
      rejectIf (significant.length > 8)
        s!"INTEGER body too large for u64: {significant.length} significant bytes"
      pure (bigEndian significant)

/-! ## `BasicConstraints` -/

/-- The optional leading `cA BOOLEAN`; returns the flag and the remaining fields. -/
def parseCaFlag (fields : Bytes) : Except String (Bool × Bytes) :=
  match fields with
  | [] => .ok (false, [])
  | _ :: _ => do
      let (tag, value, rest) ←
        (parseTlvWithRest fields).mapError fun e => s!"basicConstraints cA: {e}"
      if tag = 0x01 then
        match value with
        | [octet] => pure (octet != 0x00, rest)
        | _ =>
            .error
              s!"basicConstraints cA: BOOLEAN must be 1 byte, got {value.length}"
      else pure (false, fields)

/-- The optional trailing `pathLenConstraint INTEGER`. -/
def parsePathLen (isCa : Bool) (fields : Bytes) :
    Except String (Option Nat) :=
  match fields with
  | [] => .ok none
  | _ :: _ => do
      let (tag, value, rest) ←
        (parseTlvWithRest fields).mapError fun e =>
          s!"basicConstraints pathLenConstraint: {e}"
      rejectIf (tag ≠ 0x02)
        s!"basicConstraints: unexpected element 0x{hexByte tag} (expected pathLenConstraint INTEGER)"
      rejectIf (isCa = false)
        "basicConstraints: pathLenConstraint present without cA:TRUE"
      let pathLen ←
        (decodeIntegerU64 value).mapError fun e => s!"pathLenConstraint: {e}"
      rejectIf (rest ≠ [])
        "basicConstraints: trailing data after pathLenConstraint"
      pure (some pathLen)

/-- Parse a `BasicConstraints` extension value into its flag and path length. -/
def parseBasicConstraints (extValue : Bytes) :
    Except String (Bool × Option Nat) := do
  let (tag, fields) ← parseTlv extValue
  rejectIf (tag ≠ 0x30)
    s!"basicConstraints: expected SEQUENCE (0x30), got 0x{hexByte tag}"
  let (isCa, fields) ← parseCaFlag fields
  let pathLen ← parsePathLen isCa fields
  pure (isCa, pathLen)

example : parseBasicConstraints [0x30, 0x06, 0x01, 0x01, 0xFF, 0x02, 0x01, 0x02] =
    .ok (true, some 2) := by
  decide

/-! ## Times -/

/-- A decimal field of a time, labelled in its error. -/
def timeField (label : String) (text : Bytes) (first count : Nat) :
    Except String Nat :=
  (parseU32 ((text.drop first).take count)).mapError fun e =>
    s!"{label}: {e.display}"

/-- The fields after the year, which start at `offset`, combined with it. -/
def timeFromFields (year : Int) (text : Bytes) (offset : Nat) :
    Except String DateTime := do
  let month ← timeField "month" text offset 2
  let day ← timeField "day" text (offset + 2) 2
  let hour ← timeField "hour" text (offset + 4) 2
  let minute ← timeField "minute" text (offset + 6) 2
  let second ← timeField "second" text (offset + 8) 2
  match fromYmdOpt year month day with
  | none => .error s!"invalid date: {year}-{month}-{day}"
  | some date =>
      match fromHmsOpt hour minute second with
      | none => .error s!"invalid time: {hour}:{minute}:{second}"
      | some time => pure (utcFromDateTime date time)

/-- The ASCII text of a time body, without its trailing `Z`. -/
def timeText (kind : String) (body : Bytes) : Except String Bytes := do
  let text ←
    (fromUtf8 body).mapError fun e => s!"{kind}: invalid UTF-8: {e.display}"
  rejectIf (isAscii text = false) s!"{kind}: non-ASCII characters"
  pure ((stripSuffix 0x5A text).getD text)

/-- Parse a GeneralizedTime body; fractional seconds are dropped. -/
def parseGeneralizedTime (body : Bytes) : Except String DateTime := do
  let text ← timeText "GeneralizedTime" body
  let text := text.takeWhile (· ≠ 0x2E)
  rejectIf (text.length < 14) s!"GeneralizedTime too short: {asciiString text}"
  let year ← (parseI32 (text.take 4)).mapError fun e => s!"year: {e.display}"
  timeFromFields year text 4

/-- Parse a UTCTime body; years 50 to 99 are in the twentieth century. -/
def parseUtcTime (body : Bytes) : Except String DateTime := do
  let text ← timeText "UTCTime" body
  rejectIf (text.length < 12) s!"UTCTime too short: {asciiString text}"
  let yy ← (parseI32 (text.take 2)).mapError fun e => s!"year: {e.display}"
  let year := if yy ≥ 50 then 1900 + yy else 2000 + yy
  timeFromFields year text 2

/-- Parse a time of either X.509 type. -/
def parseX509Time (tag : UInt8) (body : Bytes) : Except String DateTime :=
  if tag = 0x17 then parseUtcTime body
  else if tag = 0x18 then parseGeneralizedTime body
  else
    .error
      s!"expected UTCTime (0x17) or GeneralizedTime (0x18), got 0x{hexByte tag}"

example : parseX509Time 0x17 (asciiBytes "260303120000Z") =
    .ok (utcFromDateTime (daysFromCivil 2026 3 3) 43200) := by
  decide +kernel

end RitspLtv.DerUtils
