import RitspLtv.Tsp.Info

/-!
# Responses of a timestamping authority

Parsing a `TimeStampResp`: the status with its optional text and failure bits,
and the token, which is left as it is.
-/

namespace RitspLtv.Tsp.Response

open RitspLtv.Foundation.Checks
open RitspLtv.Foundation.Consume
open RitspLtv.RustStd
open RitspLtv.Tsp.Cms
open RitspLtv.Tsp.Info

/-- The status of a response. -/
inductive PkiStatus where
  | granted
  | grantedWithMods
  | rejection
  | waiting
  | revocationWarning
  | revocationNotification
  | unknown (value : UInt64)
  deriving DecidableEq, Repr

def PkiStatus.fromU64 (v : UInt64) : PkiStatus :=
  match v with
  | 0 => .granted
  | 1 => .grantedWithMods
  | 2 => .rejection
  | 3 => .waiting
  | 4 => .revocationWarning
  | 5 => .revocationNotification
  | _ => .unknown v

/-- A parsed `TimeStampResp`. -/
structure TimeStampResp where
  status : PkiStatus
  statusString : Option Bytes
  failureInfo : Option Bytes
  tokenDer : Option Bytes
  deriving DecidableEq, Repr

/-- The decoders that a response needs besides those of its token. -/
structure ResponseCrates extends CmsCrates where
  /-- `decode_as::<BitStringRef>`. -/
  bitStringFromAny : Any → Except String BitString

section Parsing

variable (crates : ResponseCrates)

/-- Read one text; the first is the one that is kept. -/
def statusStringStep : Step TspError (Option Bytes) UInt8 :=
  fun statusString elems => do
    rejectIf (elems.headD 0 ≠ 0x0C)
      (.invalidResponse
        s!"statusString element is not a UTF8String (tag 0x0c), got 0x{hexByte (elems.headD 0)}")
    let (textField, innerRest) ←
      parseTstField crates.toCmsCrates elems 0x0C "statusString"
    let text ←
      (fromUtf8 textField.value).mapError fun e =>
        .invalidResponse s!"statusString is not valid UTF-8: {e.display}"
    pure (statusString <|> some text, innerRest)

/-- Read the texts of a `PKIFreeText`, which is not empty. -/
def parseStatusString (statusString failureInfo : Option Bytes)
    (sbody : Bytes) : Except TspError (Option Bytes) := do
  rejectIf (statusString.isSome = true ∨ failureInfo.isSome = true)
    (.invalidResponse
      "PKIStatusInfo: duplicate or out-of-order statusString")
  rejectIf (sbody = [])
    (.invalidResponse
      "statusString PKIFreeText SEQUENCE is empty (violates SIZE (1..MAX))")
  consume (statusStringStep crates) statusString sbody

/-- Read the failure bits, whose unused bits are zero. -/
def parseFailureInfo (failureInfo : Option Bytes) (field : Any) :
    Except TspError (Option Bytes) := do
  rejectIf (failureInfo.isSome = true)
    (.invalidResponse "PKIStatusInfo: duplicate failureInfo")
  let bits ←
    (crates.bitStringFromAny field).mapError fun e =>
      .invalidResponse s!"PKIStatusInfo failureInfo: {e}"
  rejectIf
    (∃ byte ∈ bits.rawBytes.getLast?,
      byte &&& ((1 <<< bits.unusedBits) - 1) ≠ 0)
    (.invalidResponse "PKIStatusInfo failureInfo: nonzero unused bits")
  pure (some field.value)

/-- Read one field behind the status. -/
def statusFieldStep : Step TspError (Option Bytes × Option Bytes) UInt8 :=
  fun (statusString, failureInfo) remaining => do
    let stag := remaining.headD 0
    let (field, srest) ←
      parseTstField crates.toCmsCrates remaining stag "PKIStatusInfo field"
    if stag = 0x30 then
      let statusString ←
        parseStatusString crates statusString failureInfo field.value
      pure ((statusString, failureInfo), srest)
    else if stag = 0x03 then
      let failureInfo ← parseFailureInfo crates failureInfo field
      pure ((statusString, failureInfo), srest)
    else
      .error
        (.invalidResponse
          s!"PKIStatusInfo: unexpected field 0x{hexByte stag}")

/-- What follows the status is the token, if there is anything. -/
def parseToken (rest : Bytes) : Except TspError (Option Bytes) :=
  if rest = [] then .ok none
  else do
    let (_, after) ←
      parseTstField crates.toCmsCrates rest 0x30 "TimeStampToken SEQUENCE"
    rejectIf (after ≠ [])
      (.invalidResponse
        "trailing data after TimeStampToken in TimeStampResp")
    pure (some rest)

/-- Parse a `TimeStampResp`. -/
def parseTimestampResponse (derBytes : Bytes) :
    Except TspError TimeStampResp := do
  let (response, trailing) ←
    parseTstField crates.toCmsCrates derBytes 0x30 "TimeStampResp"
  rejectIf (trailing ≠ [])
    (.invalidResponse "trailing data after TimeStampResp")
  let (statusInfo, rest) ←
    parseTstField crates.toCmsCrates response.value 0x30 "PKIStatusInfo"
  let (statusField, statusRest) ←
    parseTstField crates.toCmsCrates statusInfo.value 0x02 "PKIStatus"
  let statusVal ←
    (crates.u64FromAny statusField).mapError fun e =>
      .invalidResponse s!"PKIStatus: {e}"
  let (statusString, failureInfo) ←
    consume (statusFieldStep crates) (none, none) statusRest
  let tokenDer ← parseToken crates rest
  pure
    { status := PkiStatus.fromU64 statusVal
      statusString, failureInfo, tokenDer }

end Parsing

end RitspLtv.Tsp.Response
