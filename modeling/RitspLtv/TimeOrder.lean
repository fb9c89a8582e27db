import Mathlib.Algebra.Order.SuccPred
import Mathlib.Tactic.IntervalCases
import RitspLtv.Certificate

/-!
# The order of civil times

Certificate times are compared field by field.  This is the order of the instants
they denote: months follow each other without gaps, so a later date has a
greater day number.
-/

namespace RitspLtv.TimeOrder

open RitspLtv.Chrono

/-! ## Months -/

/-- The number of a month, counted from March of the year 0. -/
def monthNumber (year : Int) (month : Nat) : Int :=
  12 * year + month - 3

/-- The day number of the first day of a month. -/
def firstOfMonth (number : Int) : Int :=
  365 * (number / 12) + number / 12 / 4 - number / 12 / 100 +
    number / 12 / 400 + (153 * (number % 12) + 2) / 5 - 719468

/-- Days are counted from the first of their month. -/
theorem daysFromCivil_eq
    {year : Int} {month day : Nat} (first : 1 ≤ month) (last : month ≤ 12) :
    daysFromCivil year month day =
      firstOfMonth (monthNumber year month) + day - 1 := by
  unfold daysFromCivil firstOfMonth monthNumber
  interval_cases month <;> simp <;> omega

/-- A month ends where the next one begins. -/
theorem firstOfMonth_succ
    {year : Int} {month : Nat} (first : 1 ≤ month) (last : month ≤ 12) :
    firstOfMonth (monthNumber year month + 1) =
      firstOfMonth (monthNumber year month) + daysInMonth year month := by
  unfold firstOfMonth monthNumber daysInMonth
  interval_cases month <;> simp [isLeapYear] <;> omega

/-- There is no month outside the year. -/
theorem month_of_daysInMonth_pos
    {year : Int} {month : Nat} (days : 0 < daysInMonth year month) :
    1 ≤ month ∧ month ≤ 12 := by
  unfold daysInMonth at days
  split at days <;> omega

theorem firstOfMonth_le
    {number later : Int} (inOrder : number ≤ later) :
    firstOfMonth number ≤ firstOfMonth later := by
  have increasing : StrictMono firstOfMonth := by
    apply strictMono_int_of_lt_succ
    intro number
    unfold firstOfMonth
    omega
  exact increasing.monotone inOrder

/-- A day of an earlier month comes before a day of a later one. -/
theorem daysFromCivil_lt_of_monthNumber_lt
    {year otherYear : Int} {month otherMonth day otherDay : Nat}
    (inMonth : day ≤ daysInMonth year month)
    (first : 1 ≤ month) (last : month ≤ 12)
    (otherFirst : 1 ≤ otherMonth) (otherLast : otherMonth ≤ 12)
    (otherDayFirst : 1 ≤ otherDay)
    (earlier : monthNumber year month < monthNumber otherYear otherMonth) :
    daysFromCivil year month day <
      daysFromCivil otherYear otherMonth otherDay := by
  have next :
      firstOfMonth (monthNumber year month + 1) ≤
        firstOfMonth (monthNumber otherYear otherMonth) :=
    firstOfMonth_le earlier
  rw [firstOfMonth_succ first last] at next
  rw [daysFromCivil_eq first last, daysFromCivil_eq otherFirst otherLast]
  omega

/-! ## Times -/

/-- Seconds from the epoch to a time. -/
def epochSeconds (time : Der.DateTime) : Int :=
  daysFromCivil time.year time.month time.day * secondsPerDay +
    ((time.hour * 3600 + time.minutes * 60 + time.seconds : Nat) : Int)

theorem month_bounds (time : Der.DateTime) :
    1 ≤ time.month ∧ time.month ≤ 12 := by
  rcases time.valid with ⟨_, _, positive, inMonth, _⟩
  exact month_of_daysInMonth_pos (positive.trans inMonth)

theorem lt_iff {left right : Der.DateTime} :
    left < right ↔
      left.year < right.year ∨ left.year = right.year ∧
        (left.month < right.month ∨ left.month = right.month ∧
          (left.day < right.day ∨ left.day = right.day ∧
            (left.hour < right.hour ∨ left.hour = right.hour ∧
              (left.minutes < right.minutes ∨
                left.minutes = right.minutes ∧
                  left.seconds < right.seconds)))) := by
  show left.fields < right.fields ↔ _
  simp [Der.DateTime.fields, List.cons_lt_cons_iff]

/-- A later time is a later instant. -/
theorem epochSeconds_lt
    {left right : Der.DateTime} (earlier : left < right) :
    epochSeconds left < epochSeconds right := by
  rcases left.valid with ⟨_, _, _, leftDay, leftHour, leftMinutes, leftSeconds⟩
  rcases right.valid with ⟨_, _, rightDay, _, _, _, _⟩
  rcases month_bounds left with ⟨leftFirst, leftLast⟩
  rcases month_bounds right with ⟨rightFirst, rightLast⟩
  have ofDays :
      daysFromCivil left.year left.month left.day <
          daysFromCivil right.year right.month right.day →
        epochSeconds left < epochSeconds right := by
    intro days
    unfold epochSeconds secondsPerDay
    omega
  have ofMonths :
      monthNumber left.year left.month < monthNumber right.year right.month →
        epochSeconds left < epochSeconds right := by
    intro months
    apply ofDays
    exact
      daysFromCivil_lt_of_monthNumber_lt leftDay leftFirst leftLast rightFirst
        rightLast rightDay months
  rcases lt_iff.mp earlier with year | ⟨sameYear, month | ⟨sameMonth, within⟩⟩
  · apply ofMonths
    unfold monthNumber
    omega
  · apply ofMonths
    unfold monthNumber
    omega
  · rcases within with day | ⟨sameDay, within⟩
    · apply ofDays
      rw [sameYear, sameMonth, daysFromCivil_eq rightFirst rightLast,
        daysFromCivil_eq rightFirst rightLast]
      omega
    · unfold epochSeconds
      rw [sameYear, sameMonth, sameDay]
      omega

theorem epochSeconds_lt_iff {left right : Der.DateTime} :
    epochSeconds left < epochSeconds right ↔ left < right := by
  have increasing : StrictMono epochSeconds := fun _ _ => epochSeconds_lt
  exact increasing.lt_iff_lt

theorem epochSeconds_le_iff {left right : Der.DateTime} :
    epochSeconds left ≤ epochSeconds right ↔ left ≤ right := by
  have increasing : StrictMono epochSeconds := fun _ _ => epochSeconds_lt
  exact increasing.le_iff_le

end RitspLtv.TimeOrder
