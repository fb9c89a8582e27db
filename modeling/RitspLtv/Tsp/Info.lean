import RitspLtv.Tsp.Cms
import RitspLtv.Crypto.Algorithm
import RitspLtv.DerUtils
import RitspLtv.Error

/-!
# The content of a token

Parsing a `TSTInfo`: every field is read with its expected tag, and optional
fields occur at most once and in their order.
-/

namespace RitspLtv.Tsp.Info

open RitspLtv.Foundation.Checks
open RitspLtv.Foundation.Consume
open RitspLtv.RustStd
open RitspLtv.DerUtils
open RitspLtv.Crypto.Algorithm
open RitspLtv.Tsp.Cms

/-- The fields of a parsed `TSTInfo`. -/
structure TstInfo where
  hashAlgorithm : DigestAlgorithm
  messageHash : Bytes
  serialNumber : Bytes
  genTimeDer : Bytes
  nonce : Option UInt64
  policyOid : Option String
  deriving DecidableEq, Repr

/-! ## Fields -/

/-- `oid_to_digest_algorithm`. -/
def oidToDigestAlgorithm (oid : ObjectIdentifier) :
    Except TspError DigestAlgorithm :=
  match DigestAlgorithm.fromOid oid with
  | some algorithm => .ok algorithm
  | none =>
      .error (.invalidResponse s!"unsupported hash algorithm OID: {oid.toString}")

section Fields

variable (crates : CmsCrates)

/-- Parse one field that must have a given tag; returns what follows it. -/
def parseTstField (input : Bytes) (expectedTag : UInt8) (context : String) :
    Except TspError (Any × Bytes) := do
  let (tag, _, rest) ←
    (parseTlvWithRest input).mapError fun e =>
      .invalidResponse s!"{context}: {e}"
  rejectIf (tag ≠ expectedTag)
    (.invalidResponse
      s!"{context}: expected tag 0x{hexByte expectedTag}, got 0x{hexByte tag}")
  let value ←
    (crates.anyFromDer (input.take (input.length - rest.length))).mapError
      fun e => .invalidResponse s!"{context}: {e}"
  pure (value, rest)

/-- Parse a `MessageImprint`. -/
def parseMessageImprint (body : Bytes) :
    Except TspError (DigestAlgorithm × Bytes) := do
  let (algorithm, rest) ←
    parseTstField crates body 0x30 "messageImprint hashAlgorithm"
  let algorithm ←
    (crates.algorithmIdentifierFromAny algorithm).mapError fun e =>
      .invalidResponse s!"messageImprint hashAlgorithm: {e}"
  let digestAlg ← oidToDigestAlgorithm algorithm.oid
  rejectIf (∃ params ∈ algorithm.parameters, params ≠ anyNull)
    (.invalidResponse
      "messageImprint hashAlgorithm parameters must be absent or NULL")
  let (hash, trailing) ←
    parseTstField crates rest 0x04 "messageImprint hashedMessage"
  rejectIf (trailing ≠ [])
    (.invalidResponse "messageImprint: trailing data after hashedMessage")
  rejectIf (hash.value.length ≠ digestAlg.outputSize)
    (.invalidResponse
      s!"messageImprint: {digestAlg.name} hash must contain {digestAlg.outputSize} bytes, got {hash.value.length}")
  pure (digestAlg, hash.value)

/-! ### Accuracy -/

/-- The position of an accuracy component in their order. -/
def accuracyRank (tag : UInt8) : Except TspError Nat :=
  if tag = 0x02 then .ok 1
  else if tag = 0x80 then .ok 2
  else if tag = 0x81 then .ok 3
  else
    .error
      (.invalidResponse
        s!"TSTInfo accuracy: unexpected field 0x{hexByte tag}")

/-- The value of an accuracy component; sub-second ones are between 1 and 999. -/
def checkAccuracyComponent (rank : Nat) (integer : Any) :
    Except TspError Unit :=
  if rank = 1 then do
    let _ ←
      (crates.uintFromAny integer).mapError fun e =>
        TspError.invalidResponse s!"TSTInfo accuracy seconds: {e}"
  else do
    let fraction ←
      (crates.u16FromAny integer).mapError fun e =>
        .invalidResponse s!"TSTInfo accuracy millis/micros: {e}"
    rejectIf (fraction < 1 ∨ 999 < fraction)
      (.invalidResponse "TSTInfo accuracy millis/micros must be in 1..=999")

/-- Read one component behind the one of rank `last`. -/
def accuracyStep : Step TspError Nat UInt8 :=
  fun last pos => do
    let tag := pos.headD 0
    let rank ← accuracyRank tag
    rejectIf (rank ≤ last)
      (.invalidResponse
        "TSTInfo accuracy: duplicate or out-of-order component")
    let (field, rest) ← parseTstField crates pos tag "TSTInfo accuracy"
    checkAccuracyComponent crates rank ⟨0x02, field.value⟩
    pure (rank, rest)

def validateTstAccuracy (body : Bytes) : Except TspError Unit := do
  let _ ← consume (accuracyStep crates) 0 body

/-! ### Name and extensions -/

/-- The tags of the `GeneralName` choices. -/
def generalNameTags : List UInt8 :=
  [0xA0, 0x81, 0x82, 0xA3, 0xA4, 0xA5, 0x86, 0x87, 0x88]

def validateTstTsaName (body : Bytes) : Except TspError Unit :=
  match body with
  | [] => .error (.invalidResponse "TSTInfo tsa: missing GeneralName")
  | tag :: _ => do
      rejectIf (tag ∉ generalNameTags)
        (.invalidResponse
          s!"TSTInfo tsa: invalid GeneralName tag 0x{hexByte tag}")
      let (_, rest) ←
        parseTstField crates body tag "TSTInfo tsa GeneralName"
      rejectIf (rest ≠ [])
        (.invalidResponse "TSTInfo tsa: trailing data after GeneralName")

/-- Read one extension behind those already seen; none is interpreted. -/
def tstExtensionStep : Step TspError (List ObjectIdentifier) UInt8 :=
  fun seen pos => do
    let (field, rest) ← parseTstField crates pos 0x30 "TSTInfo extension"
    let extension ←
      (crates.extensionFromAny field).mapError fun e =>
        .invalidResponse s!"TSTInfo extension: {e}"
    rejectIf (extension.extnId ∈ seen)
      (.invalidResponse
        s!"TSTInfo extension: duplicate OID {extension.extnId.toString}")
    rejectIf (extension.critical = true)
      (.invalidResponse
        s!"TSTInfo extension: unsupported critical extension {extension.extnId.toString}")
    pure (extension.extnId :: seen, rest)

def validateTstExtensions (body : Bytes) : Except TspError Unit := do
  rejectIf (body = [])
    (.invalidResponse "TSTInfo extensions: empty Extensions")
  let _ ← consume (tstExtensionStep crates) [] body

/-! ## The sequence -/

/-- The position of an optional field in their order, and its name. -/
def optionalField (tag : UInt8) : Except TspError (Nat × String) :=
  if tag = 0x30 then .ok (1, "TSTInfo accuracy")
  else if tag = 0x01 then .ok (2, "TSTInfo ordering")
  else if tag = 0x02 then .ok (3, "TSTInfo nonce")
  else if tag = 0xA0 then .ok (4, "TSTInfo tsa")
  else if tag = 0xA1 then .ok (5, "TSTInfo extensions")
  else
    .error
      (.invalidResponse
        s!"TSTInfo: unexpected optional field 0x{hexByte tag}")

/-- Check an optional field by its position; only the nonce is kept. -/
def checkOptionalField (rank : Nat) (context : String)
    (nonce : Option UInt64) (field : Any) :
    Except TspError (Option UInt64) :=
  if rank = 1 then do
    validateTstAccuracy crates field.value
    pure nonce
  else if rank = 2 then do
    let _ ←
      (crates.boolFromAny field).mapError fun e =>
        TspError.invalidResponse s!"{context}: {e}"
    pure nonce
  else if rank = 3 then do
    let value ←
      (crates.u64FromAny field).mapError fun e =>
        .invalidResponse s!"{context}: {e}"
    pure (some value)
  else if rank = 4 then do
    validateTstTsaName crates field.value
    pure nonce
  else do
    validateTstExtensions crates field.value
    pure nonce

/-- Read one optional field behind the one of rank `lastOptional`. -/
def optionalFieldStep : Step TspError (Nat × Option UInt64) UInt8 :=
  fun (lastOptional, nonce) pos => do
    let tag := pos.headD 0
    let (rank, context) ← optionalField tag
    rejectIf (rank ≤ lastOptional)
      (.invalidResponse s!"{context}: duplicate or out-of-order field")
    let (field, rest) ← parseTstField crates pos tag context
    let nonce ← checkOptionalField crates rank context nonce field
    pure ((rank, nonce), rest)

/-- Parse a `TSTInfo`. -/
def parseTstInfoBody (derBytes : Bytes) : Except TspError TstInfo := do
  let (sequence, trailing) ← parseTstField crates derBytes 0x30 "TSTInfo"
  rejectIf (trailing ≠ [])
    (.invalidResponse "TSTInfo: trailing data after SEQUENCE")
  let (version, pos) ←
    parseTstField crates sequence.value 0x02 "TSTInfo version"
  let version ←
    (crates.u64FromAny version).mapError fun e =>
      .invalidResponse s!"TSTInfo version: {e}"
  rejectIf (version ≠ 1)
    (.invalidResponse
      s!"TSTInfo: unsupported version {version.toNat} (expected 1)")
  let (policy, pos) ← parseTstField crates pos 0x06 "TSTInfo policy"
  let policyOid ←
    (crates.oidFromAny policy).mapError fun e =>
      .invalidResponse s!"TSTInfo policy: {e}"
  let (messageImprint, pos) ←
    parseTstField crates pos 0x30 "TSTInfo messageImprint"
  let (hashAlgorithm, messageHash) ←
    parseMessageImprint crates messageImprint.value
  let (serial, pos) ← parseTstField crates pos 0x02 "TSTInfo serialNumber"
  let _ ←
    (crates.intFromAny serial).mapError fun e =>
      TspError.invalidResponse s!"TSTInfo serialNumber: {e}"
  let (genTime, pos) ← parseTstField crates pos 0x18 "TSTInfo genTime"
  let (_, nonce) ← consume (optionalFieldStep crates) (0, none) pos
  pure
    { hashAlgorithm, messageHash
      serialNumber := serial.value
      genTimeDer := genTime.value
      nonce
      policyOid := some policyOid.toString }

end Fields

/-! ## `genTime` -/

/-- An ASCII digit. -/
def isDigit (octet : UInt8) : Bool :=
  decide (0x30 ≤ octet ∧ octet ≤ 0x39)

/-- Whether a `genTime` has a fraction; DER allows no other form. -/
def genTimeFraction (octets : Bytes) : Except TspError Bool :=
  if octets.length = 15 ∧ octets[14]? = some 0x5A then .ok false
  else if
    17 ≤ octets.length ∧ octets[14]? = some 0x2E ∧
      octets.getLast? = some 0x5A ∧
      ((octets.drop 15).take (octets.length - 1 - 15)).all isDigit = true ∧
      octets[octets.length - 2]? ≠ some 0x30
  then .ok true
  else
    .error
      (.verificationFailed
        "invalid DER genTime fractional/UTC encoding")

/-- The whole-second `genTime`, and whether a positive fraction follows. -/
def genTimeParts (crates : CmsCrates) (tstInfo : TstInfo) :
    Except TspError (Der.DateTime × Bool) := do
  let fractional ← genTimeFraction tstInfo.genTimeDer
  let seconds := tstInfo.genTimeDer.take 14 ++ [0x5A]
  let time ←
    (crates.generalizedTimeFromDer (encodeTlv 0x18 seconds)).mapError fun e =>
      .verificationFailed s!"invalid genTime: {e}"
  pure (time, fractional)

def genTimeDatetime (crates : CmsCrates) (tstInfo : TstInfo) :
    Except TspError Der.DateTime := do
  let (time, _) ← genTimeParts crates tstInfo
  pure time

end RitspLtv.Tsp.Info
