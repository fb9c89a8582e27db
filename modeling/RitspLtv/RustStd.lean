import Mathlib.Algebra.Group.Nat.Defs
import Mathlib.Data.List.Basic

/-!
# Bytes, text and numbers

The standard-library operations the validator is written with, in the form in
which it uses them.  A Rust `&str` is represented by its UTF-8 octets, so a
search for an ASCII marker inside it is a search in a byte list; `fromUtf8` is
the gate between the two.  Texts that only ever reach an error message are Lean
strings.
-/

namespace RitspLtv.RustStd

/-- An octet string: `Vec<u8>`, `&[u8]`, and the octets of a `&str`. -/
abbrev Bytes := List UInt8

instance lawfulBEqBytes : LawfulBEq Bytes :=
  inferInstance

/-! ## Formatting -/

/-- One lower-case hexadecimal digit. -/
def hexDigit (value : Nat) : Char :=
  Nat.digitChar value

/-- `{byte:02x}`. -/
def hexByte (byte : UInt8) : String :=
  String.ofList [hexDigit (byte.toNat / 16), hexDigit (byte.toNat % 16)]

/-- The text of an octet string known to be ASCII. -/
def asciiString (octets : Bytes) : String :=
  String.ofList (octets.map fun octet => Char.ofNat octet.toNat)

/-- The octets of an ASCII literal. -/
def asciiBytes (text : String) : Bytes :=
  text.toList.map fun char => UInt8.ofNat char.toNat

/-- The `Debug` form of a `Vec<u8>`. -/
def debugBytes (octets : Bytes) : String :=
  "[" ++ ", ".intercalate (octets.map fun octet => toString octet.toNat) ++ "]"

/-- The `Debug` form of one ASCII character inside a string literal. -/
def debugAsciiChar (octet : UInt8) : String :=
  if octet = 0x00 then "\\0"
  else if octet = 0x09 then "\\t"
  else if octet = 0x0A then "\\n"
  else if octet = 0x0D then "\\r"
  else if octet = 0x22 then "\\\""
  else if octet = 0x5C then "\\\\"
  else if octet < 0x20 ∨ octet = 0x7F then
    "\\u\x7b" ++ String.ofList (Nat.toDigits 16 octet.toNat) ++ "\x7d"
  else asciiString [octet]

/-- The `Debug` form of an ASCII string. -/
def debugAscii (octets : Bytes) : String :=
  "\"" ++ String.join (octets.map debugAsciiChar) ++ "\""

/-! ## ASCII -/

/-- `u8::is_ascii_whitespace`. -/
def isAsciiWhitespace (octet : UInt8) : Bool :=
  octet == 0x20 || octet == 0x09 || octet == 0x0A || octet == 0x0C ||
    octet == 0x0D

/-- `[u8]::trim_ascii_start`. -/
def trimAsciiStart (octets : Bytes) : Bytes :=
  octets.dropWhile isAsciiWhitespace

/-- `[u8]::is_ascii`. -/
def isAscii (octets : Bytes) : Bool :=
  octets.all (· < 0x80)

/-- `str::to_ascii_lowercase`. -/
def toAsciiLowercase (octets : Bytes) : Bytes :=
  octets.map fun octet =>
    if 0x41 ≤ octet ∧ octet ≤ 0x5A then octet + 0x20 else octet

/-- `str::strip_suffix` for a one-octet suffix. -/
def stripSuffix (suffix : UInt8) (text : Bytes) : Option Bytes :=
  if text.getLast? = some suffix then some text.dropLast else none

/-- `str::strip_prefix` for a one-octet prefix. -/
def stripPrefix : UInt8 → Bytes → Option Bytes
  | _, [] => none
  | expected, head :: tail => if head = expected then some tail else none

/-- The part of a text after the last `separator`, as `str::rsplit_once` gives it. -/
def afterLast (separator : UInt8) (text : Bytes) : Option Bytes :=
  if separator ∈ text then
    some (text.reverse.takeWhile (· ≠ separator)).reverse
  else
    none

/-! ## Lines -/

/-- Split after every line feed, as `str::split_inclusive` does. -/
def splitInclusive : Bytes → List Bytes
  | [] => []
  | head :: tail =>
      if head = 0x0A then
        [head] :: splitInclusive tail
      else
        match splitInclusive tail with
        | [] => [[head]]
        | line :: lines => (head :: line) :: lines

/-- Remove a line's terminator: `"\n"` or `"\r\n"`. -/
def stripLineEnding (line : Bytes) : Bytes :=
  match stripSuffix 0x0A line with
  | none => line
  | some body => (stripSuffix 0x0D body).getD body

/-- `str::lines`. -/
def lines (text : Bytes) : List Bytes :=
  (splitInclusive text).map stripLineEnding

/-! ## UTF-8 -/

/-- `core::str::Utf8Error`. -/
structure Utf8Error where
  validUpTo : Nat
  errorLen : Option Nat
  deriving DecidableEq, Repr

/-- The `Display` form of a UTF-8 error. -/
def Utf8Error.display (error : Utf8Error) : String :=
  match error.errorLen with
  | some length =>
      s!"invalid utf-8 sequence of {length} bytes from index {error.validUpTo}"
  | none => s!"incomplete utf-8 byte sequence from index {error.validUpTo}"

/-- `10xxxxxx`. -/
def isContinuation (octet : UInt8) : Bool :=
  0x80 ≤ octet && octet ≤ 0xBF

/-- The payload bits of a continuation octet. -/
def continuationBits (octet : UInt8) : Nat :=
  octet.toNat % 64

/-- The second octets allowed after a three-octet lead. -/
def secondOfThree (lead second : UInt8) : Bool :=
  (lead == 0xE0 && 0xA0 ≤ second && second ≤ 0xBF) ||
    (0xE1 ≤ lead && lead ≤ 0xEC && isContinuation second) ||
    (lead == 0xED && 0x80 ≤ second && second ≤ 0x9F) ||
    (0xEE ≤ lead && lead ≤ 0xEF && isContinuation second)

/-- The second octets allowed after a four-octet lead. -/
def secondOfFour (lead second : UInt8) : Bool :=
  (lead == 0xF0 && 0x90 ≤ second && second ≤ 0xBF) ||
    (0xF1 ≤ lead && lead ≤ 0xF3 && isContinuation second) ||
    (lead == 0xF4 && 0x80 ≤ second && second ≤ 0x8F)

/-- Read one scalar value off the front, or report the length of the bad sequence. -/
def nextScalar : Bytes → Except (Option Nat) (Nat × Bytes)
  | [] => .error none
  | lead :: rest =>
      if lead < 0x80 then
        .ok (lead.toNat, rest)
      else if 0xC2 ≤ lead ∧ lead ≤ 0xDF then
        match rest with
        | [] => .error none
        | second :: rest =>
            if isContinuation second then
              .ok (lead.toNat % 32 * 64 + continuationBits second, rest)
            else .error (some 1)
      else if 0xE0 ≤ lead ∧ lead ≤ 0xEF then
        match rest with
        | [] => .error none
        | second :: rest =>
            if secondOfThree lead second then
              match rest with
              | [] => .error none
              | third :: rest =>
                  if isContinuation third then
                    .ok
                      ((lead.toNat % 16 * 64 + continuationBits second) * 64 +
                        continuationBits third, rest)
                  else .error (some 2)
            else .error (some 1)
      else if 0xF0 ≤ lead ∧ lead ≤ 0xF4 then
        match rest with
        | [] => .error none
        | second :: rest =>
            if secondOfFour lead second then
              match rest with
              | [] => .error none
              | third :: rest =>
                  if isContinuation third then
                    match rest with
                    | [] => .error none
                    | fourth :: rest =>
                        if isContinuation fourth then
                          .ok
                            (((lead.toNat % 8 * 64 +
                                continuationBits second) * 64 +
                                continuationBits third) * 64 +
                              continuationBits fourth, rest)
                        else .error (some 3)
                  else .error (some 2)
            else .error (some 1)
      else .error (some 1)

/-- Decode scalar values from `position` on; the count bounds the iterations. -/
def scalarsFrom : Nat → Nat → Bytes → Except Utf8Error (List Nat)
  | _, _, [] => .ok []
  | 0, _, _ :: _ => .ok []
  | fuel + 1, position, head :: tail =>
      match nextScalar (head :: tail) with
      | .error length => .error ⟨position, length⟩
      | .ok (scalar, rest) => do
          let scalars ←
            scalarsFrom fuel (position + ((head :: tail).length - rest.length))
              rest
          pure (scalar :: scalars)

/-- The scalar values of an octet string, when it is well-formed UTF-8. -/
def scalars (octets : Bytes) : Except Utf8Error (List Nat) :=
  scalarsFrom octets.length 0 octets

/-- `std::str::from_utf8`: the same octets, now known to be a `&str`. -/
def fromUtf8 (octets : Bytes) : Except Utf8Error Bytes :=
  match scalars octets with
  | .ok _ => .ok octets
  | .error error => .error error

/-- A successful conversion does not change the octets. -/
theorem eq_of_fromUtf8 {octets text : Bytes}
    (valid : fromUtf8 octets = .ok text) : text = octets := by
  unfold fromUtf8 at valid
  cases decoded : scalars octets with
  | ok scalars =>
      rw [decoded] at valid
      cases valid
      rfl
  | error error =>
      rw [decoded] at valid
      cases valid

/-- `char::is_whitespace`. -/
def isWhitespace (scalar : Nat) : Bool :=
  (0x09 ≤ scalar && scalar ≤ 0x0D) || scalar == 0x20 || scalar == 0x85 ||
    scalar == 0xA0 || scalar == 0x1680 ||
    (0x2000 ≤ scalar && scalar ≤ 0x200A) || scalar == 0x2028 ||
    scalar == 0x2029 || scalar == 0x202F || scalar == 0x205F ||
    scalar == 0x3000

/-! ## Numbers in octets -/

/-- `to_be_bytes` of a number that is kept in `count` octets. -/
def toBeBytes : Nat → Nat → Bytes
  | 0, _ => []
  | count + 1, value => toBeBytes count (value / 256) ++ [UInt8.ofNat value]

/-! ## Parsing numbers -/

/-- `core::num::ParseIntError`; the texts parsed here are too short to overflow. -/
inductive ParseIntError where
  | empty
  | invalidDigit
  deriving DecidableEq, Repr

/-- The `Display` form of a number-parsing error. -/
def ParseIntError.display : ParseIntError → String
  | .empty => "cannot parse integer from empty string"
  | .invalidDigit => "invalid digit found in string"

/-- Decimal digits, most significant first. -/
def parseDigits : Nat → Bytes → Except ParseIntError Nat
  | value, [] => .ok value
  | value, digit :: digits =>
      if 0x30 ≤ digit ∧ digit ≤ 0x39 then
        parseDigits (value * 10 + (digit.toNat - 0x30)) digits
      else .error .invalidDigit

/-- `str::parse::<u32>`: one leading `+` is allowed. -/
def parseU32 : Bytes → Except ParseIntError Nat
  | [] => .error .empty
  | [digit] => parseDigits 0 [digit]
  | head :: tail =>
      if head = 0x2B then parseDigits 0 tail else parseDigits 0 (head :: tail)

/-- `str::parse::<i32>`: one leading sign is allowed. -/
def parseI32 : Bytes → Except ParseIntError Int
  | [] => .error .empty
  | [digit] => (parseDigits 0 [digit]).map Int.ofNat
  | head :: tail =>
      if head = 0x2B then (parseDigits 0 tail).map Int.ofNat
      else if head = 0x2D then
        (parseDigits 0 tail).map fun magnitude => -Int.ofNat magnitude
      else (parseDigits 0 (head :: tail)).map Int.ofNat

end RitspLtv.RustStd
