import RitspLtv.DerUtils

/-!
# The time formats of X.509

A GeneralizedTime is documented as fourteen digits, an optional fraction and a
`Z`; a UTCTime as twelve digits and a `Z`.  The parsers read the fields at their
fixed offsets with the number parsers of the standard library, which also take
signs, and look no further.  They agree with the documented formats exactly on
the bodies in which this makes no difference.
-/

namespace RitspLtv.TimeFormats

open RitspLtv.Foundation.Checks
open RitspLtv.RustStd
open RitspLtv.Chrono
open RitspLtv.DerUtils

/-! ## ASCII text -/

theorem nextScalar_of_ascii
    {head : UInt8} {tail : Bytes}
    (ascii : head < 0x80) :
    nextScalar (head :: tail) = .ok (head.toNat, tail) := by
  rw [nextScalar.eq_def]
  exact if_pos ascii

theorem scalarsFrom_of_isAscii
    {fuel position : Nat} {octets : Bytes}
    (ascii : isAscii octets = true) :
    ∃ scalars, scalarsFrom fuel position octets = .ok scalars := by
  induction fuel generalizing position octets with
  | zero => cases octets <;> exact ⟨[], rfl⟩
  | succ fuel induction =>
      cases octets with
      | nil => exact ⟨[], rfl⟩
      | cons head tail =>
          rw [isAscii, List.all_cons, Bool.and_eq_true] at ascii
          rcases
            @induction (position + ((head :: tail).length - tail.length)) tail
              ascii.2 with
            ⟨scalars, decoded⟩
          refine ⟨head.toNat :: scalars, ?_⟩
          rw [scalarsFrom, nextScalar_of_ascii (of_decide_eq_true ascii.1)]
          simp only [decoded]
          rfl

/-- ASCII text is UTF-8. -/
theorem fromUtf8_of_isAscii
    {octets : Bytes}
    (ascii : isAscii octets = true) :
    fromUtf8 octets = .ok octets := by
  rcases @scalarsFrom_of_isAscii octets.length 0 octets ascii with
    ⟨scalars, decoded⟩
  rw [fromUtf8, RustStd.scalars, decoded]

/-! ## Numbers -/

def IsDigit (octet : UInt8) : Prop :=
  0x30 ≤ octet ∧ octet ≤ 0x39

instance (octet : UInt8) : Decidable (IsDigit octet) :=
  inferInstanceAs (Decidable (_ ∧ _))

/-- The value of decimal digits, behind digits of a given value. -/
def decimalFrom (value : Nat) (digits : Bytes) : Nat :=
  digits.foldl (fun value digit => value * 10 + (digit.toNat - 0x30)) value

/-- One or more digits, and nothing else. -/
def IsDecimal (text : Bytes) : Prop :=
  text ≠ [] ∧ ∀ octet ∈ text, IsDigit octet

instance (text : Bytes) : Decidable (IsDecimal text) :=
  inferInstanceAs (Decidable (_ ∧ _))

/-- Digits that denote a number. -/
def Decimal (text : Bytes) (value : Nat) : Prop :=
  IsDecimal text ∧ value = decimalFrom 0 text

instance (text : Bytes) (value : Nat) : Decidable (Decimal text value) :=
  inferInstanceAs (Decidable (_ ∧ _))

/-- Digits, possibly behind a plus sign. -/
def Unsigned (text : Bytes) (value : Nat) : Prop :=
  Decimal text value ∨ ∃ digits, text = 0x2B :: digits ∧ Decimal digits value

/-- Digits, possibly behind a sign. -/
def Signed (text : Bytes) (value : Int) : Prop :=
  (∃ magnitude : Nat, Unsigned text magnitude ∧ value = magnitude) ∨
    ∃ digits magnitude,
      text = 0x2D :: digits ∧ Decimal digits magnitude ∧
        value = -(magnitude : Int)

theorem parseDigits_eq_ok_iff
    {start value : Nat} {text : Bytes} :
    parseDigits start text = .ok value ↔
      (∀ octet ∈ text, IsDigit octet) ∧ value = decimalFrom start text := by
  induction text generalizing start with
  | nil => simp [parseDigits, decimalFrom, eq_comm]
  | cons digit digits induction =>
      rw [parseDigits]
      split
      · next isDigit =>
          rw [induction, List.forall_mem_cons]
          exact
            and_congr_left fun _ => (and_iff_right isDigit).symm
      · next notDigit =>
          constructor
          · intro parsed
            cases parsed
          · intro digits
            exact absurd (digits.1 digit List.mem_cons_self) notDigit

theorem parseDigits_eq_ok_iff_decimal
    {text : Bytes} {value : Nat}
    (nonempty : text ≠ []) :
    parseDigits 0 text = .ok value ↔ Decimal text value := by
  rw [parseDigits_eq_ok_iff, Decimal, IsDecimal, and_iff_right nonempty]

/-- A sign is not a digit. -/
theorem not_decimal_cons
    {sign : UInt8} {tail : Bytes} {value : Nat}
    (notDigit : ¬ IsDigit sign) :
    ¬ Decimal (sign :: tail) value := by
  intro decimal
  exact notDigit (decimal.1.2 sign List.mem_cons_self)

theorem not_decimal_nil {value : Nat} : ¬ Decimal [] value := by
  intro decimal
  exact decimal.1.1 rfl

theorem parseU32_eq_ok_iff {text : Bytes} {value : Nat} :
    parseU32 text = .ok value ↔ Unsigned text value := by
  match text with
  | [] =>
      constructor
      · intro parsed
        cases parsed
      · rintro (decimal | ⟨_, behind, _⟩)
        · exact absurd decimal not_decimal_nil
        · cases behind
  | [digit] =>
      rw [parseU32, parseDigits_eq_ok_iff_decimal (List.cons_ne_nil _ _)]
      constructor
      · exact Or.inl
      · rintro (decimal | ⟨_, behind, decimal⟩)
        · exact decimal
        · cases behind
          exact absurd decimal not_decimal_nil
  | head :: second :: rest =>
      rw [parseU32]
      · split
        · next plus =>
            rw [parseDigits_eq_ok_iff_decimal (List.cons_ne_nil _ _)]
            constructor
            · intro decimal
              exact Or.inr ⟨second :: rest, by rw [plus], decimal⟩
            · rintro (decimal | ⟨_, behind, decimal⟩)
              · exact
                  absurd decimal (not_decimal_cons (plus ▸ by decide))
              · cases behind
                exact decimal
        · next notPlus =>
            rw [parseDigits_eq_ok_iff_decimal (List.cons_ne_nil _ _)]
            constructor
            · exact Or.inl
            · rintro (decimal | ⟨_, behind, _⟩)
              · exact decimal
              · exact absurd (List.cons.inj behind).1 notPlus
      · intro same
        cases same

/-- Without a minus sign a signed number is read as an unsigned one. -/
theorem parseI32_eq_map_parseU32
    {text : Bytes}
    (notMinus : ¬ ∃ digit digits, text = 0x2D :: digit :: digits) :
    parseI32 text = (parseU32 text).map Int.ofNat := by
  match text with
  | [] => rfl
  | [digit] => rfl
  | head :: second :: rest =>
      simp only [parseI32, parseU32]
      split
      · rfl
      · split
        · next minus => exact absurd ⟨second, rest, by rw [minus]⟩ notMinus
        · rfl

theorem parseI32_eq_ok_iff {text : Bytes} {value : Int} :
    parseI32 text = .ok value ↔ Signed text value := by
  by_cases minus : ∃ digit digits, text = 0x2D :: digit :: digits
  · rcases minus with ⟨digit, digits, rfl⟩
    have read :
        parseI32 (0x2D :: digit :: digits) =
          (parseDigits 0 (digit :: digits)).map
            fun magnitude => -Int.ofNat magnitude := by
      rw [parseI32]
      · rfl
      · intro same
        cases same
    rw [read, map_eq_ok_iff]
    simp only [parseDigits_eq_ok_iff_decimal (List.cons_ne_nil _ _)]
    constructor
    · rintro ⟨magnitude, decimal, rfl⟩
      exact Or.inr ⟨digit :: digits, magnitude, rfl, decimal, rfl⟩
    · rintro (⟨_, unsigned, _⟩ | ⟨_, magnitude, behind, decimal, rfl⟩)
      · rcases unsigned with decimal | ⟨_, plus, _⟩
        · exact absurd decimal (not_decimal_cons (by decide))
        · exact absurd (List.cons.inj plus).1 (by decide)
      · cases behind
        exact ⟨magnitude, decimal, rfl⟩
  · rw [parseI32_eq_map_parseU32 minus, map_eq_ok_iff]
    simp only [parseU32_eq_ok_iff]
    constructor
    · exact Or.inl
    · rintro (unsigned | ⟨digits, _, rfl, decimal, _⟩)
      · exact unsigned
      · cases digits with
        | nil => exact absurd decimal not_decimal_nil
        | cons digit digits => exact absurd ⟨digit, digits, rfl⟩ minus

/-- A digit or a sign. -/
def IsNumeral (octet : UInt8) : Prop :=
  IsDigit octet ∨ octet = 0x2B ∨ octet = 0x2D

instance (octet : UInt8) : Decidable (IsNumeral octet) :=
  inferInstanceAs (Decidable (_ ∨ _))

theorem Unsigned.isNumeral
    {text : Bytes} {value : Nat}
    (unsigned : Unsigned text value) :
    ∀ octet ∈ text, IsNumeral octet := by
  intro octet member
  rcases unsigned with decimal | ⟨digits, rfl, decimal⟩
  · exact Or.inl (decimal.1.2 octet member)
  · rcases List.mem_cons.mp member with plus | member
    · exact Or.inr (Or.inl plus)
    · exact Or.inl (decimal.1.2 octet member)

theorem Signed.isNumeral
    {text : Bytes} {value : Int}
    (signed : Signed text value) :
    ∀ octet ∈ text, IsNumeral octet := by
  intro octet member
  rcases signed with ⟨_, unsigned, _⟩ | ⟨digits, _, rfl, decimal, _⟩
  · exact unsigned.isNumeral octet member
  · rcases List.mem_cons.mp member with minus | member
    · exact Or.inr (Or.inr minus)
    · exact Or.inl (decimal.1.2 octet member)

theorem Unsigned.decimal
    {text : Bytes} {value : Nat}
    (unsigned : Unsigned text value)
    (digits : ∀ octet ∈ text, IsDigit octet) :
    Decimal text value := by
  rcases unsigned with decimal | ⟨_, rfl, _⟩
  · exact decimal
  · exact absurd (digits 0x2B List.mem_cons_self) (by decide)

theorem Signed.decimal
    {text : Bytes} {value : Int}
    (signed : Signed text value)
    (digits : ∀ octet ∈ text, IsDigit octet) :
    ∃ magnitude : Nat, Decimal text magnitude ∧ value = magnitude := by
  rcases signed with ⟨magnitude, unsigned, same⟩ | ⟨_, _, rfl, _, _⟩
  · exact ⟨magnitude, unsigned.decimal digits, same⟩
  · exact absurd (digits 0x2D List.mem_cons_self) (by decide)

/-! ## Fields -/

/-- How the year and the other fields of a time are written. -/
structure FieldFormat where
  year : Bytes → Int → Prop
  field : Bytes → Nat → Prop

/-- Fields of digits only. -/
def digitFields : FieldFormat where
  year text value := ∃ magnitude : Nat, Decimal text magnitude ∧ value = magnitude
  field := Decimal

/-- Fields as the number parsers read them. -/
def numberFields : FieldFormat where
  year := Signed
  field := Unsigned

/-- A year of `width` octets and five fields of two octets denote an instant. -/
def FieldsDenote (format : FieldFormat) (century : Int → Int) (width : Nat)
    (text : Bytes) (instant : DateTime) : Prop :=
  ∃ year month day hour minute second date time,
    format.year (text.take width) year ∧
      format.field ((text.drop width).take 2) month ∧
      format.field ((text.drop (width + 2)).take 2) day ∧
      format.field ((text.drop (width + 4)).take 2) hour ∧
      format.field ((text.drop (width + 6)).take 2) minute ∧
      format.field ((text.drop (width + 8)).take 2) second ∧
      fromYmdOpt (century year) month day = some date ∧
      fromHmsOpt hour minute second = some time ∧
      instant = utcFromDateTime date time

/-- The fields one after the other. -/
theorem take_eq_fields (width : Nat) (text : Bytes) :
    text.take (width + 10) =
      text.take width ++ (text.drop width).take 2 ++
        (text.drop (width + 2)).take 2 ++ (text.drop (width + 4)).take 2 ++
        (text.drop (width + 6)).take 2 ++ (text.drop (width + 8)).take 2 := by
  have next : ∀ count, text.take (count + 2) =
      text.take count ++ (text.drop count).take 2 := by
    intro count
    exact List.take_add
  rw [← next width, ← next (width + 2), ← next (width + 4),
    ← next (width + 6), ← next (width + 8)]

/-- What stands behind the fields does not matter. -/
theorem fieldsDenote_take_iff
    {format : FieldFormat} {century : Int → Int} {width : Nat}
    {text : Bytes} {instant : DateTime} :
    FieldsDenote format century width (text.take (width + 10)) instant ↔
      FieldsDenote format century width text instant := by
  have inside :
      ∀ first, first + 2 ≤ width + 10 →
        ((text.take (width + 10)).drop first).take 2 =
          (text.drop first).take 2 := by
    intro first within
    rw [List.drop_take, List.take_take]
    congr 1
    omega
  rw [FieldsDenote, FieldsDenote, List.take_take,
    Nat.min_eq_left (Nat.le_add_right _ _), inside width (by omega),
    inside (width + 2) (by omega), inside (width + 4) (by omega),
    inside (width + 6) (by omega), inside (width + 8) (by omega)]

theorem FieldsDenote.isNumeral
    {century : Int → Int} {width : Nat} {text : Bytes} {instant : DateTime}
    (denotes : FieldsDenote numberFields century width text instant) :
    ∀ octet ∈ text.take (width + 10), IsNumeral octet := by
  rcases denotes with
    ⟨_, _, _, _, _, _, _, _, year, month, day, hour, minute, second, _⟩
  intro octet member
  rw [take_eq_fields] at member
  simp only [List.mem_append] at member
  rcases member with ((((member | member) | member) | member) | member) | member
  · exact year.isNumeral octet member
  · exact month.isNumeral octet member
  · exact day.isNumeral octet member
  · exact hour.isNumeral octet member
  · exact minute.isNumeral octet member
  · exact second.isNumeral octet member

/-- Without signs the number parsers read digits only. -/
theorem fieldsDenote_digitFields_iff
    {century : Int → Int} {width : Nat} {text : Bytes} {instant : DateTime}
    (digits : ∀ octet ∈ text.take (width + 10), IsDigit octet) :
    FieldsDenote digitFields century width text instant ↔
      FieldsDenote numberFields century width text instant := by
  rw [take_eq_fields] at digits
  simp only [List.mem_append, or_imp, forall_and] at digits
  rcases digits with ⟨⟨⟨⟨⟨inYear, inMonth⟩, inDay⟩, inHour⟩, inMinute⟩, inSecond⟩
  constructor
  · rintro ⟨year, month, day, hour, minute, second, date, time, ⟨magnitude, isYear, rfl⟩,
      isMonth, isDay, isHour, isMinute, isSecond, valid⟩
    exact
      ⟨magnitude, month, day, hour, minute, second, date, time,
        Or.inl ⟨magnitude, Or.inl isYear, rfl⟩, Or.inl isMonth, Or.inl isDay,
        Or.inl isHour, Or.inl isMinute, Or.inl isSecond, valid⟩
  · rintro ⟨year, month, day, hour, minute, second, date, time, isYear,
      isMonth, isDay, isHour, isMinute, isSecond, valid⟩
    exact
      ⟨year, month, day, hour, minute, second, date, time,
        isYear.decimal inYear, isMonth.decimal inMonth, isDay.decimal inDay,
        isHour.decimal inHour, isMinute.decimal inMinute,
        isSecond.decimal inSecond, valid⟩

theorem timeField_eq_ok_iff
    {label : String} {text : Bytes} {first count value : Nat} :
    timeField label text first count = .ok value ↔
      Unsigned ((text.drop first).take count) value := by
  rw [timeField, mapError_eq_ok, parseU32_eq_ok_iff]

/-- A year and the fields behind it are read as an instant. -/
theorem readFields_eq_ok_iff
    {century : Int → Int} {width : Nat} {text : Bytes} {instant : DateTime} :
    (∃ year,
        parseI32 (text.take width) = .ok year ∧
          timeFromFields (century year) text width = .ok instant) ↔
      FieldsDenote numberFields century width text instant := by
  simp only [timeFromFields, bind_eq_ok, timeField_eq_ok_iff,
    parseI32_eq_ok_iff]
  constructor
  · rintro ⟨year, isYear, month, isMonth, day, isDay, hour, isHour, minute,
      isMinute, second, isSecond, read⟩
    split at read
    · cases read
    · next date isDate =>
        split at read
        · cases read
        · next time isTime =>
            exact
              ⟨year, month, day, hour, minute, second, date, time, isYear,
                isMonth, isDay, isHour, isMinute, isSecond, isDate, isTime,
                (pure_eq_ok.mp read).symm⟩
  · rintro ⟨year, month, day, hour, minute, second, date, time, isYear,
      isMonth, isDay, isHour, isMinute, isSecond, isDate, isTime, rfl⟩
    refine
      ⟨year, isYear, month, isMonth, day, isDay, hour, isHour, minute,
        isMinute, second, isSecond, ?_⟩
    rw [isDate]
    simp only [isTime]
    rfl

/-! ## What the parsers read -/

/-- The text without its last octet, when this is a `Z`. -/
def withoutZ (body : Bytes) : Bytes :=
  (stripSuffix 0x5A body).getD body

theorem timeText_eq_ok_iff
    {kind : String} {body text : Bytes} :
    timeText kind body = .ok text ↔
      isAscii body = true ∧ text = withoutZ body := by
  simp only [timeText, bind_eq_ok, mapError_eq_ok, rejectIf_eq_ok,
    exists_const, pure_eq_ok, Bool.not_eq_false]
  constructor
  · rintro ⟨text, valid, ascii, rfl⟩
    rw [eq_of_fromUtf8 valid] at ascii ⊢
    exact ⟨ascii, rfl⟩
  · rintro ⟨ascii, rfl⟩
    exact ⟨body, fromUtf8_of_isAscii ascii, ascii, rfl⟩

theorem withoutZ_isPrefix (body : Bytes) : withoutZ body <+: body := by
  rw [withoutZ, stripSuffix]
  split
  · exact List.dropLast_prefix body
  · exact List.prefix_rfl

/-- Octets that are not a `Z` are not stripped. -/
theorem le_length_withoutZ
    {body : Bytes} {count : Nat}
    (enough : count ≤ body.length)
    (notZ : 0x5A ∉ body.take count) :
    count ≤ (withoutZ body).length := by
  rw [withoutZ, stripSuffix]
  split
  · next last =>
      rw [Option.getD_some, List.length_dropLast]
      apply Nat.le_sub_one_of_lt
      apply Nat.lt_of_le_of_ne enough
      intro whole
      apply notZ
      rw [whole, List.take_length]
      exact List.mem_of_getLast? last
  · exact enough

/-- Octets that are not a point are not cut off. -/
theorem le_length_takeWhile
    {text : Bytes} {count : Nat}
    (enough : count ≤ text.length)
    (notPoint : 0x2E ∉ text.take count) :
    count ≤ (text.takeWhile (· ≠ 0x2E)).length := by
  have kept :
      ∀ octet ∈ text.take count, decide (octet ≠ 0x2E) = true := by
    intro octet member
    apply decide_eq_true
    intro same
    exact notPoint (same ▸ member)
  have parts :
      text.takeWhile (· ≠ 0x2E) =
        text.take count ++ (text.drop count).takeWhile (· ≠ 0x2E) := by
    rw [← List.takeWhile_append_of_pos kept, List.take_append_drop]
  rw [parts, List.length_append, List.length_take, Nat.min_eq_left enough]
  exact Nat.le_add_right _ _

theorem take_eq_of_isPrefix
    {text body : Bytes} {count : Nat}
    (isPrefix : text <+: body)
    (enough : count ≤ text.length) :
    text.take count = body.take count := by
  rcases isPrefix with ⟨rest, rfl⟩
  rw [List.take_append_of_le_length enough]

/--
A body as the parsers read it: ASCII text whose first octets denote an instant,
field by field, whatever stands behind them.
-/
def ReadsAs (century : Int → Int) (width : Nat) (body : Bytes)
    (instant : DateTime) : Prop :=
  isAscii body = true ∧ width + 10 ≤ body.length ∧
    FieldsDenote numberFields century width body instant

/-- What is cut off behind the fields does not change what is read. -/
theorem readsAs_iff_of_isPrefix
    {century : Int → Int} {width : Nat} {body text : Bytes}
    {instant : DateTime}
    (isPrefix : text <+: body)
    (kept :
      width + 10 ≤ body.length →
        (∀ octet ∈ body.take (width + 10), IsNumeral octet) →
        width + 10 ≤ text.length) :
    (isAscii body = true ∧ width + 10 ≤ text.length ∧
        FieldsDenote numberFields century width text instant) ↔
      ReadsAs century width body instant := by
  rw [ReadsAs]
  apply and_congr_right
  intro _
  constructor
  · rintro ⟨enough, denotes⟩
    refine ⟨enough.trans isPrefix.length_le, ?_⟩
    rw [← fieldsDenote_take_iff, ← take_eq_of_isPrefix isPrefix enough,
      fieldsDenote_take_iff]
    exact denotes
  · rintro ⟨enough, denotes⟩
    have textEnough := kept enough denotes.isNumeral
    refine ⟨textEnough, ?_⟩
    rw [← fieldsDenote_take_iff, take_eq_of_isPrefix isPrefix textEnough,
      fieldsDenote_take_iff]
    exact denotes

theorem notMem_of_isNumeral
    {octets : Bytes} {octet : UInt8}
    (numerals : ∀ octet ∈ octets, IsNumeral octet)
    (other : ¬ IsNumeral octet) :
    octet ∉ octets := by
  intro member
  exact other (numerals octet member)

/-- The century of a two-digit year. -/
def utcCentury (yy : Int) : Int :=
  if yy ≥ 50 then 1900 + yy else 2000 + yy

theorem parseGeneralizedTime_eq_ok_iff
    {body : Bytes} {instant : DateTime} :
    parseGeneralizedTime body = .ok instant ↔ ReadsAs id 4 body instant := by
  have cut : (withoutZ body).takeWhile (· ≠ 0x2E) <+: body :=
    (List.takeWhile_prefix _).trans (withoutZ_isPrefix body)
  rw [← readsAs_iff_of_isPrefix cut]
  · simp only [parseGeneralizedTime, bind_eq_ok, timeText_eq_ok_iff,
      rejectIf_eq_ok, exists_const, mapError_eq_ok, Nat.not_lt]
    rw [← readFields_eq_ok_iff]
    constructor
    · rintro ⟨text, ⟨ascii, rfl⟩, enough, read⟩
      exact ⟨ascii, enough, read⟩
    · rintro ⟨ascii, enough, read⟩
      exact ⟨_, ⟨ascii, rfl⟩, enough, read⟩
  · intro enough numerals
    have textEnough :=
      le_length_withoutZ enough (notMem_of_isNumeral numerals (by decide))
    apply le_length_takeWhile textEnough
    rw [take_eq_of_isPrefix (withoutZ_isPrefix body) textEnough]
    exact notMem_of_isNumeral numerals (by decide)

theorem parseUtcTime_eq_ok_iff
    {body : Bytes} {instant : DateTime} :
    parseUtcTime body = .ok instant ↔ ReadsAs utcCentury 2 body instant := by
  rw [← readsAs_iff_of_isPrefix (withoutZ_isPrefix body)]
  · simp only [parseUtcTime, bind_eq_ok, timeText_eq_ok_iff, rejectIf_eq_ok,
      exists_const, mapError_eq_ok, Nat.not_lt]
    rw [← readFields_eq_ok_iff]
    constructor
    · rintro ⟨text, ⟨ascii, rfl⟩, enough, read⟩
      exact ⟨ascii, enough, read⟩
    · rintro ⟨ascii, enough, read⟩
      exact ⟨_, ⟨ascii, rfl⟩, enough, read⟩
  · intro enough numerals
    exact
      le_length_withoutZ enough
        (notMem_of_isNumeral numerals (by decide))

/-! ## The documented formats -/

/-- Digits in the number of the fields, and behind them what the format allows. -/
def WellFormed (width : Nat) (Tail : Bytes → Prop) (body : Bytes) : Prop :=
  ∃ digits tail,
    body = digits ++ tail ∧ digits.length = width + 10 ∧ IsDecimal digits ∧
      Tail tail

/-- A well-formed body that denotes an instant. -/
def Documented (century : Int → Int) (width : Nat) (Tail : Bytes → Prop)
    (body : Bytes) (instant : DateTime) : Prop :=
  ∃ digits tail,
    body = digits ++ tail ∧ digits.length = width + 10 ∧ IsDecimal digits ∧
      Tail tail ∧ FieldsDenote digitFields century width digits instant

/-- An optional fraction of a second, and `Z`. -/
def GeneralizedTail (tail : Bytes) : Prop :=
  tail = [0x5A] ∨
    ∃ fraction, tail = 0x2E :: (fraction ++ [0x5A]) ∧ IsDecimal fraction

/-- `Z`. -/
def UtcTail (tail : Bytes) : Prop :=
  tail = [0x5A]

/-- `YYYYMMDDHHMMSSZ` or `YYYYMMDDHHMMSS.fracZ`. -/
def GeneralizedTime : Bytes → DateTime → Prop :=
  Documented id 4 GeneralizedTail

/-- `YYMMDDHHMMSSZ`. -/
def UtcTime : Bytes → DateTime → Prop :=
  Documented utcCentury 2 UtcTail

theorem isAscii_iff {octets : Bytes} :
    isAscii octets = true ↔ ∀ octet ∈ octets, octet < 0x80 := by
  simp [isAscii]

theorem IsDecimal.isAscii
    {text : Bytes}
    (decimal : IsDecimal text) :
    ∀ octet ∈ text, octet < 0x80 := by
  intro octet member
  exact UInt8.lt_of_le_of_lt (decimal.2 octet member).2 (by decide)

theorem GeneralizedTail.isAscii
    {tail : Bytes}
    (allowed : GeneralizedTail tail) :
    ∀ octet ∈ tail, octet < 0x80 := by
  rcases allowed with rfl | ⟨fraction, rfl, decimal⟩
  · intro octet member
    rw [List.mem_singleton.mp member]
    decide
  · intro octet member
    rcases List.mem_cons.mp member with rfl | member
    · decide
    · rcases List.mem_append.mp member with member | member
      · exact decimal.isAscii octet member
      · rw [List.mem_singleton.mp member]
        decide

theorem UtcTail.isAscii
    {tail : Bytes}
    (allowed : UtcTail tail) :
    ∀ octet ∈ tail, octet < 0x80 := by
  rw [UtcTail] at allowed
  rw [allowed]
  intro octet member
  rw [List.mem_singleton.mp member]
  decide

section Formats

variable {century : Int → Int} {width : Nat} {Tail : Bytes → Prop}

/-- The digits of a well-formed body are its first octets. -/
theorem fieldsDenote_append_iff
    {digits tail : Bytes} {instant : DateTime}
    (counted : digits.length = width + 10)
    (decimal : IsDecimal digits) :
    FieldsDenote numberFields century width (digits ++ tail) instant ↔
      FieldsDenote digitFields century width digits instant := by
  have front : (digits ++ tail).take (width + 10) = digits :=
    List.take_left' counted
  rw [← fieldsDenote_take_iff, front, fieldsDenote_digitFields_iff]
  rw [← counted, List.take_length]
  exact decimal.2

/-- A documented time is read as what it denotes. -/
theorem Documented.readsAs
    {body : Bytes} {instant : DateTime}
    (ascii : ∀ {tail}, Tail tail → ∀ octet ∈ tail, octet < 0x80)
    (documented : Documented century width Tail body instant) :
    ReadsAs century width body instant := by
  rcases documented with ⟨digits, tail, rfl, counted, decimal, allowed, denotes⟩
  refine ⟨?_, ?_, (fieldsDenote_append_iff counted decimal).mpr denotes⟩
  · rw [isAscii_iff]
    intro octet member
    rcases List.mem_append.mp member with member | member
    · exact decimal.isAscii octet member
    · exact ascii allowed octet member
  · rw [List.length_append, counted]
    exact Nat.le_add_right _ _

/-- What is read from a well-formed body is documented. -/
theorem ReadsAs.documented
    {body : Bytes} {instant : DateTime}
    (reads : ReadsAs century width body instant)
    (wellFormed : WellFormed width Tail body) :
    Documented century width Tail body instant := by
  rcases wellFormed with ⟨digits, tail, rfl, counted, decimal, allowed⟩
  exact
    ⟨digits, tail, rfl, counted, decimal, allowed,
      (fieldsDenote_append_iff counted decimal).mp reads.2.2⟩

/--
A parser reads exactly the documented times from a body, when it reads nothing
from it or the body is well-formed.
-/
theorem readsAs_iff_documented_iff
    (ascii : ∀ {tail}, Tail tail → ∀ octet ∈ tail, octet < 0x80)
    (body : Bytes) :
    (∀ instant,
        ReadsAs century width body instant ↔
          Documented century width Tail body instant) ↔
      ((∃ instant, ReadsAs century width body instant) →
        WellFormed width Tail body) := by
  constructor
  · rintro exactly ⟨instant, reads⟩
    rcases (exactly instant).mp reads with
      ⟨digits, tail, rfl, counted, decimal, allowed, _⟩
    exact ⟨digits, tail, rfl, counted, decimal, allowed⟩
  · intro wellFormed instant
    constructor
    · intro reads
      exact reads.documented (wellFormed ⟨instant, reads⟩)
    · exact Documented.readsAs ascii

end Formats

/--
Each parser returns exactly the documented times of a body, if and only if the
body is well-formed or its first octets are no fields of numbers that denote an
instant.
-/
theorem parseTimes_iff_documented_iff (body : Bytes) :
    ((∀ instant,
        parseGeneralizedTime body = .ok instant ↔
          GeneralizedTime body instant) ↔
      ((∃ instant, ReadsAs id 4 body instant) →
        WellFormed 4 GeneralizedTail body)) ∧
    ((∀ instant,
        parseUtcTime body = .ok instant ↔ UtcTime body instant) ↔
      ((∃ instant, ReadsAs utcCentury 2 body instant) →
        WellFormed 2 UtcTail body)) := by
  simp only [parseGeneralizedTime_eq_ok_iff, parseUtcTime_eq_ok_iff]
  constructor
  · exact readsAs_iff_documented_iff GeneralizedTail.isAscii body
  · exact readsAs_iff_documented_iff UtcTail.isAscii body

/-- A time with a zone offset is read as if it were in UTC. -/
theorem parseTimes_not_documented :
    ¬ ∀ body : Bytes,
      (∀ instant,
          parseGeneralizedTime body = .ok instant ↔
            GeneralizedTime body instant) ∧
        (∀ instant,
          parseUtcTime body = .ok instant ↔ UtcTime body instant) := by
  intro exactly
  have read :
      parseGeneralizedTime (asciiBytes "20260303120000+0530") =
        .ok (utcFromDateTime (daysFromCivil 2026 3 3) 43200) := by
    decide +kernel
  rcases ((exactly _).1 _).mp read with
    ⟨digits, tail, parts, counted, _, allowed, _⟩
  have tailIs : asciiBytes "+0530" = tail :=
    calc
      asciiBytes "+0530" =
          (asciiBytes "20260303120000+0530").drop 14 := by decide
      _ = (digits ++ tail).drop 14 := by rw [parts]
      _ = tail := List.drop_left' counted
  rw [← tailIs] at allowed
  rcases allowed with same | ⟨fraction, same, _⟩
  · exact absurd same (by decide)
  · exact absurd (List.cons.inj same).1 (by decide)

end RitspLtv.TimeFormats
