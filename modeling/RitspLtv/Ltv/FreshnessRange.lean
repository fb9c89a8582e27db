import RitspLtv.Ltv.CrlFetch
import RitspLtv.Ltv.Ocsp
import RitspLtv.Reference

/-!
# Durations that freshness checks can add

The freshness of a CRL or a response is looked at by adding durations, which
the caller sets, to instants, which the signer sets.  An addition that leaves
the range of instants unwinds.  So a check returns exactly when every duration
leads from its instant to another one in the range.
-/

namespace RitspLtv.Ltv.FreshnessRange

open RitspLtv.Foundation.Checks
open RitspLtv.RustStd
open RitspLtv.Chrono
open RitspLtv.DerUtils
open RitspLtv.Ltv.Crl
open RitspLtv.Ltv.CrlCache
open RitspLtv.Ltv.CrlFetch
open RitspLtv.Ltv.OcspResponse
open RitspLtv.Ltv.Ocsp

variable {α : Type}
variable {instant : DateTime} {duration : Duration}
variable {condition : Prop} [Decidable condition] {error : LtvError}

/-! ## Returning -/

/-- The call returns, with a result or an error, and does not unwind. -/
def Returns (outcome : Except LtvError α) : Prop :=
  ∀ message, outcome ≠ .error (.panicked message)

/-- The duration leads from the instant to one in the range. -/
def Fits (instant : DateTime) (duration : Duration) : Prop :=
  minUtc - instant ≤ duration ∧ duration ≤ maxUtc - instant

instance (instant : DateTime) (duration : Duration) :
    Decidable (Fits instant duration) :=
  inferInstanceAs (Decidable (_ ∧ _))

theorem returns_ok (value : α) : Returns (.ok value) := by
  intro message unwinds
  cases unwinds

theorem add_within_iff (low high left right : Int) :
    low ≤ left + right ∧ left + right ≤ high ↔
      low - left ≤ right ∧ right ≤ high - left := by
  omega

theorem addOrPanic_eq (instant : DateTime) (duration : Duration) :
    addOrPanic instant duration =
      if Fits instant duration then .ok (instant + duration)
      else .error (.panicked additionOverflow) := by
  have range :
      minUtc ≤ instant + duration ∧ instant + duration ≤ maxUtc ↔
        Fits instant duration :=
    add_within_iff minUtc maxUtc instant duration
  rw [addOrPanic, addDuration]
  by_cases fits : Fits instant duration
  · rw [if_pos (range.mpr fits), if_pos fits]
  · rw [if_neg (mt range.mp fits), if_neg fits]

theorem addOrPanic_eq_ok_iff {sum : DateTime} :
    addOrPanic instant duration = .ok sum ↔
      Fits instant duration ∧ instant + duration = sum := by
  rw [addOrPanic_eq]
  by_cases fits : Fits instant duration
  · rw [if_pos fits, Except.ok.injEq, and_iff_right fits]
  · rw [if_neg fits]
    exact iff_of_false nofun (fun both => fits both.1)

/-- An addition returns when the duration fits, and then what follows it must. -/
theorem returns_addOrPanic_bind {next : DateTime → Except LtvError α} :
    Returns (addOrPanic instant duration >>= next) ↔
      Fits instant duration ∧ Returns (next (instant + duration)) := by
  rw [addOrPanic_eq]
  by_cases fits : Fits instant duration
  · rw [if_pos fits, ok_bind, and_iff_right fits]
  · rw [if_neg fits, error_bind]
    exact iff_of_false (fun returns => returns _ rfl) (fun both => fits both.1)

/-- An error that is not a panic is a return. -/
theorem returns_rejectIf_bind
    (notPanic : ∀ message, error ≠ .panicked message)
    {next : Unit → Except LtvError α} :
    Returns (rejectIf condition error >>= next) ↔
      (¬ condition → Returns (next ())) := by
  by_cases holds : condition
  · rw [rejectIf_true holds, error_bind]
    refine iff_of_true ?_ (fun absent => absurd holds absent)
    intro message same
    exact notPanic message (Except.error.inj same)
  · rw [rejectIf, if_neg holds, ok_bind]
    exact ⟨fun returns _ => returns, fun returns => returns holds⟩

theorem returns_rejectIf
    (notPanic : ∀ message, error ≠ .panicked message) :
    Returns (rejectIf condition error) := by
  intro message same
  by_cases holds : condition
  · rw [rejectIf_true holds] at same
    exact notPanic message (Except.error.inj same)
  · rw [rejectIf, if_neg holds] at same
    cases same

/-! ## The two checks of dates -/

/--
The two settings fit the dates of a window: the skew the end of a window that
does not end before it starts, and otherwise the age, alone and with the skew,
the start.
-/
def SettingsFit (clockSkew maxAge : Duration) (thisUpdate : DateTime) :
    Option DateTime → Prop
  | some nextUpdate => thisUpdate ≤ nextUpdate → Fits nextUpdate clockSkew
  | none =>
      Fits thisUpdate maxAge ∧ Fits (thisUpdate + maxAge) clockSkew

variable (crates : Crates) (now : DateTime)

theorem returns_validateCrlDates_iff
    (thisUpdate : DateTime) (nextUpdate : Option DateTime)
    (freshness : CrlFreshness) :
    Returns (validateCrlDates crates thisUpdate nextUpdate now freshness) ↔
      SettingsFit freshness.clockSkew freshness.maxAgeWithoutNextUpdate
        thisUpdate nextUpdate := by
  have notPanic :
      ∀ text message, LtvError.crl text ≠ .panicked message := by
    intro text message same
    cases same
  cases nextUpdate with
  | some nextUpdate =>
      rw [validateCrlDates, returns_rejectIf_bind (notPanic _),
        returns_addOrPanic_bind, and_iff_left (returns_rejectIf (notPanic _)),
        SettingsFit, not_lt]
  | none =>
      rw [validateCrlDates, returns_addOrPanic_bind, returns_addOrPanic_bind,
        and_iff_left (returns_rejectIf (notPanic _)), SettingsFit]

theorem returns_validateResponseFreshness_iff
    (sr : SingleResponse) (freshness : OcspFreshness) :
    Returns (validateResponseFreshness crates sr now freshness) ↔
      SettingsFit freshness.clockSkew freshness.maxAgeWithoutNextUpdate
        sr.thisUpdate sr.nextUpdate := by
  have notPanic :
      ∀ text message, LtvError.ocsp text ≠ .panicked message := by
    intro text message same
    cases same
  rw [validateResponseFreshness]
  cases sr.nextUpdate with
  | some nextUpdate =>
      simp only
      rw [returns_rejectIf_bind (notPanic _), returns_addOrPanic_bind,
        and_iff_left (returns_rejectIf (notPanic _)), SettingsFit, not_lt]
  | none =>
      simp only
      rw [returns_addOrPanic_bind, returns_addOrPanic_bind,
        and_iff_left (returns_rejectIf (notPanic _)), SettingsFit]

/-! ## The two looks at a window -/

/-- A look at a window first moves the clock, and stops in front of the window. -/
def LookFits (now : DateTime) (freshness : CrlFreshness)
    (thisUpdate : DateTime) (nextUpdate : Option DateTime) : Prop :=
  Fits now freshness.clockSkew ∧
    (thisUpdate ≤ now + freshness.clockSkew →
      SettingsFit freshness.clockSkew freshness.maxAgeWithoutNextUpdate
        thisUpdate nextUpdate)

theorem returns_isCurrent_iff
    (validity : CrlValidity) (freshness : CrlFreshness) :
    Returns (validity.isCurrent crates now freshness) ↔
      LookFits now freshness validity.thisUpdate validity.nextUpdate := by
  rw [CrlValidity.isCurrent, returns_addOrPanic_bind, LookFits]
  apply and_congr_right
  intro _
  by_cases ahead : now + freshness.clockSkew < validity.thisUpdate
  · rw [if_pos ahead]
    refine iff_of_true (returns_ok false) ?_
    intro reached
    exact absurd ahead reached.not_gt
  · rw [if_neg ahead, forall_prop_of_true (not_lt.mp ahead),
      ← returns_validateCrlDates_iff crates now]
    cases validateCrlDates crates validity.thisUpdate validity.nextUpdate now
        freshness with
    | ok done => exact iff_of_true (returns_ok true) (returns_ok done)
    | error error =>
        cases error with
        | panicked message =>
            exact
              iff_of_false (fun returns => returns message rfl)
                (fun returns => returns message rfl)
        | _ =>
            refine iff_of_true (returns_ok false) ?_
            intro message same
            cases same

theorem returns_crlIsCurrent_iff (der : Bytes) (freshness : CrlFreshness) :
    Returns (crlIsCurrent crates der now freshness) ↔
      ∀ parsed, parseCrl crates der = .ok parsed →
        LookFits now freshness parsed.thisUpdate parsed.nextUpdate := by
  rw [crlIsCurrent_eq, CrlValidity.fromDer]
  cases parseCrl crates der with
  | error error =>
      refine iff_of_true (returns_ok false) ?_
      intro parsed impossible
      cases impossible
  | ok parsed =>
      rw [ok_bind]
      simp only [Except.ok.injEq, forall_eq']
      exact returns_isCurrent_iff crates now ⟨_, _⟩ freshness

/--
The four checks of freshness return exactly when the settings fit the dates and,
where a CRL is looked at as the current one, the clock.
-/
theorem freshness_returns_iff
    (thisUpdate : DateTime) (nextUpdate : Option DateTime)
    (validity : CrlValidity) (der : Bytes) (freshness : CrlFreshness)
    (sr : SingleResponse) (ocspFreshness : OcspFreshness) :
    (Returns (validateCrlDates crates thisUpdate nextUpdate now freshness) ↔
        SettingsFit freshness.clockSkew freshness.maxAgeWithoutNextUpdate
          thisUpdate nextUpdate) ∧
      (Returns (validity.isCurrent crates now freshness) ↔
        LookFits now freshness validity.thisUpdate validity.nextUpdate) ∧
      (Returns (crlIsCurrent crates der now freshness) ↔
        ∀ parsed, parseCrl crates der = .ok parsed →
          LookFits now freshness parsed.thisUpdate parsed.nextUpdate) ∧
      (Returns (validateResponseFreshness crates sr now ocspFreshness) ↔
        SettingsFit ocspFreshness.clockSkew
          ocspFreshness.maxAgeWithoutNextUpdate sr.thisUpdate
          sr.nextUpdate) := by
  refine ⟨?_, ?_, ?_, ?_⟩
  · exact returns_validateCrlDates_iff crates now thisUpdate nextUpdate freshness
  · exact returns_isCurrent_iff crates now validity freshness
  · exact returns_crlIsCurrent_iff crates now der freshness
  · exact returns_validateResponseFreshness_iff crates now sr ocspFreshness

/-- Noon on 3 March 2026. -/
def noon : DateTime :=
  utcFromDateTime (daysFromCivil 2026 3 3) 43200

/-- An age without bound, or a skew without bound, and a time that is parsed. -/
theorem freshness_unwinds :
    parseX509Time 0x17 (asciiBytes "260303120000Z") = .ok noon ∧
      minUtc ≤ noon ∧ noon ≤ maxUtc ∧
      validateCrlDates (Reference.crates ⟨[], [], []⟩) noon none noon
          ⟨.minutes 5, .max⟩ =
        .error (.panicked additionOverflow) ∧
      validateCrlDates (Reference.crates ⟨[], [], []⟩) noon (some noon) noon
          ⟨.max, .hours 24⟩ =
        .error (.panicked additionOverflow) ∧
      CrlValidity.isCurrent (Reference.crates ⟨[], [], []⟩) ⟨noon, none⟩ noon
          ⟨.minutes 5, .max⟩ =
        .error (.panicked additionOverflow) ∧
      validateResponseFreshness (Reference.crates ⟨[], [], []⟩)
          ⟨[], [], [], [], .good, noon, none⟩ noon ⟨.minutes 5, .max⟩ =
        .error (.panicked additionOverflow) := by
  decide +kernel

end RitspLtv.Ltv.FreshnessRange
