import Mathlib.Algebra.Group.Int.Defs
import Mathlib.Data.Int.Order.Basic
import Mathlib.Order.Lattice

/-!
# Instants and the civil calendar

An instant of `chrono::DateTime<Utc>` is its number of nanoseconds since the
Unix epoch, and a `chrono::Duration` a number of nanoseconds.  The conversions
use the proleptic Gregorian calendar.  Adding a duration can leave the range of
instants, and then the addition unwinds instead of returning, so it is an
`Option` here.
-/

namespace RitspLtv.Chrono

/-- `chrono::DateTime<Utc>`: nanoseconds since 1970-01-01T00:00:00Z. -/
abbrev DateTime := Int

/-- `chrono::Duration`: a signed number of nanoseconds. -/
abbrev Duration := Int

/-- Nanoseconds in one second. -/
def nanosPerSecond : Int := 1000000000

/-- Seconds in one day. -/
def secondsPerDay : Int := 86400

/-- `chrono::Duration::minutes`. -/
def Duration.minutes (count : Int) : Duration :=
  count * 60 * nanosPerSecond

/-- `chrono::Duration::hours`. -/
def Duration.hours (count : Int) : Duration :=
  count * 3600 * nanosPerSecond

/-- `chrono::Duration::MAX`: as many milliseconds as 63 bits can count. -/
def Duration.max : Duration :=
  (2 ^ 63 - 1) * 1000000

/-! ## The calendar -/

def isLeapYear (year : Int) : Bool :=
  year % 4 == 0 && (year % 100 != 0 || year % 400 == 0)

/-- The length of a month; `0` when there is no such month. -/
def daysInMonth (year : Int) (month : Nat) : Nat :=
  match month with
  | 1 | 3 | 5 | 7 | 8 | 10 | 12 => 31
  | 4 | 6 | 9 | 11 => 30
  | 2 => if isLeapYear year then 29 else 28
  | _ => 0

/--
Days from 1970-01-01 to a civil date.  Years are counted from 1 March, so that
the leap day is the last day of a year, in eras of 400 years.
-/
def daysFromCivil (year : Int) (month day : Nat) : Int :=
  let shifted := if month ≤ 2 then year - 1 else year
  let era := shifted / 400
  let yearOfEra := shifted - era * 400
  let dayOfYear : Int := (153 * ((month + 9) % 12) + 2) / 5 + day - 1
  era * 146097 +
      (yearOfEra * 365 + yearOfEra / 4 - yearOfEra / 100 + dayOfYear) -
    719468

/-- The civil date `(year, month, day)` of a day number. -/
def civilFromDays (days : Int) : Int × Nat × Nat :=
  let shifted := days + 719468
  let era := shifted / 146097
  let dayOfEra := shifted - era * 146097
  let yearOfEra :=
    (dayOfEra - dayOfEra / 1460 + dayOfEra / 36524 - dayOfEra / 146096) / 365
  let dayOfYear :=
    dayOfEra - (365 * yearOfEra + yearOfEra / 4 - yearOfEra / 100)
  let marchMonth := ((5 * dayOfYear + 2) / 153).toNat
  let day := (dayOfYear - (153 * marchMonth + 2) / 5 + 1).toNat
  let month := if marchMonth < 10 then marchMonth + 3 else marchMonth - 9
  (yearOfEra + era * 400 + (if month ≤ 2 then 1 else 0), month, day)

example : daysFromCivil 2026 3 3 = 20515 ∧
    civilFromDays 20515 = (2026, 3, 3) := by
  decide

/-- `NaiveDate::from_ymd_opt`: the day number of a valid date in range. -/
def fromYmdOpt (year : Int) (month day : Nat) : Option Int :=
  if -262143 ≤ year ∧ year ≤ 262142 ∧ 1 ≤ day ∧
      day ≤ daysInMonth year month then
    some (daysFromCivil year month day)
  else none

/-- `NaiveTime::from_hms_opt`: the second of the day. -/
def fromHmsOpt (hour minute second : Nat) : Option Nat :=
  if hour < 24 ∧ minute < 60 ∧ second < 60 then
    some (hour * 3600 + minute * 60 + second)
  else none

/-- The instant at `second` of day `days`. -/
def utcFromDateTime (days : Int) (second : Nat) : DateTime :=
  (days * secondsPerDay + second) * nanosPerSecond

/-! ## Reading an instant -/

namespace DateTime

/-- Whole seconds since the epoch, rounded down. -/
def seconds (instant : DateTime) : Int :=
  instant / nanosPerSecond

/-- `Timelike::nanosecond`. -/
def nanosecond (instant : DateTime) : Nat :=
  (instant % nanosPerSecond).toNat

/-- `Datelike::{year, month, day}`. -/
def date (instant : DateTime) : Int × Nat × Nat :=
  civilFromDays (seconds instant / secondsPerDay)

/-- The second of the day. -/
def secondOfDay (instant : DateTime) : Nat :=
  (seconds instant % secondsPerDay).toNat

/-- `Timelike::hour`. -/
def hour (instant : DateTime) : Nat :=
  secondOfDay instant / 3600

/-- `Timelike::minute`. -/
def minute (instant : DateTime) : Nat :=
  secondOfDay instant / 60 % 60

/-- `Timelike::second`. -/
def second (instant : DateTime) : Nat :=
  secondOfDay instant % 60

end DateTime

/-! ## Adding a duration -/

/-- The first instant of the supported range. -/
def minUtc : DateTime :=
  utcFromDateTime (daysFromCivil (-262143) 1 1) 0

/-- The last instant of the supported range. -/
def maxUtc : DateTime :=
  utcFromDateTime (daysFromCivil 262142 12 31) 86399 + (nanosPerSecond - 1)

/-- `DateTime + Duration`; `none` when the sum is out of range and the code unwinds. -/
def addDuration (instant : DateTime) (duration : Duration) :
    Option DateTime :=
  if minUtc ≤ instant + duration ∧ instant + duration ≤ maxUtc then
    some (instant + duration)
  else none

/-- The text with which an overflowing addition unwinds. -/
def additionOverflow : String :=
  "`DateTime + TimeDelta` overflowed"

end RitspLtv.Chrono
