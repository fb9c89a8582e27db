import RitspLtv.Foundation.PollingEvents
import RitspLtv.Ltv.RevocationUnwinding
import RitspLtv.Reference

/-!
# The orchestrator fails closed

For every sequence of wakes, hence for every order in which fetches, timers and
deadlines come to an end at every nesting level:

* a status that is returned under the strict policy is never unknown;
* it is revoked exactly when a source completes with a revoked status before
  the deadline;
* it is valid only if a source completes with a valid status and none with a
  revoked one, and then a delegated responder has been found valid in the same
  way;
* a check performs at most one OCSP check more than the recursion budget, and
  is over when its deadline has passed; and
* it returns a status when it is over, exactly if no fetch that it awaits and no
  check of what it has fetched panics.
-/

namespace RitspLtv.Ltv.RevocationSoundness

open RitspLtv.Foundation.Polling
open RitspLtv.Foundation.Polling.Task
open RitspLtv.RustStd
open RitspLtv.Chrono
open RitspLtv.DerUtils
open RitspLtv.Crypto.Verify
open RitspLtv.Ltv.Status
open RitspLtv.Ltv.Ocsp
open RitspLtv.Ltv.Crl
open RitspLtv.Ltv.Urls
open RitspLtv.Ltv.Revocation
open RitspLtv.Ltv.RevocationUnwinding

/-! ## Merging -/

section Merging

variable {ocsp crl status : ValidationStatus} {preferOcsp required : Bool}

theorem resolvePriority_isRevoked (a b : ValidationStatus) :
    (resolvePriority a b).isRevoked = (a.isRevoked || b.isRevoked) := by
  cases a <;> cases b <;> rfl

theorem resolvePriority_isValid (a b : ValidationStatus) :
    (resolvePriority a b).isValid =
      ((a.isValid || b.isValid) && !(a.isRevoked || b.isRevoked)) := by
  cases a <;> cases b <;> rfl

/-- The preference decides only between statuses of one kind. -/
theorem mergePreferred_isRevoked :
    (mergePreferred ocsp crl preferOcsp).isRevoked =
      (ocsp.isRevoked || crl.isRevoked) := by
  rw [mergePreferred]
  split
  · exact resolvePriority_isRevoked ocsp crl
  · rw [resolvePriority_isRevoked, Bool.or_comm]

theorem mergePreferred_isValid :
    (mergePreferred ocsp crl preferOcsp).isValid =
      ((ocsp.isValid || crl.isValid) &&
        !(ocsp.isRevoked || crl.isRevoked)) := by
  rw [mergePreferred]
  split
  · exact resolvePriority_isValid ocsp crl
  · rw [resolvePriority_isValid, Bool.or_comm crl.isValid,
      Bool.or_comm crl.isRevoked]

theorem enforceRevocationPolicy_isRevoked :
    (enforceRevocationPolicy status required).isRevoked =
      status.isRevoked := by
  cases required <;> cases status <;> rfl

theorem enforceRevocationPolicy_isValid :
    (enforceRevocationPolicy status required).isValid = status.isValid := by
  cases required <;> cases status <;> rfl

theorem enforceRevocationPolicy_isUnknown :
    (enforceRevocationPolicy status true).isUnknown = false := by
  cases status <;> rfl

/-- A status that is of no other kind is valid. -/
theorem isValid_of_not
    (notUnknown : status.isUnknown = false)
    (notRevoked : status.isRevoked = false)
    (notInvalid : status.isInvalid = false) :
    status.isValid = true := by
  cases status with
  | valid source checkedAt => rfl
  | revoked source reason time => cases notRevoked
  | invalid reason => cases notInvalid
  | unknown reason => cases notUnknown

end Merging

/-! ## Two sources under a deadline -/

section Sources

variable {config : RevocationConfig} {ocsp crl : StatusTask} {level : Nat}
variable {wakes : List Wake} {status : ValidationStatus}

/-- A source of a level completes with a status before the deadline of the level. -/
def Completes (source : StatusTask) (level : Nat) (wakes : List Wake)
    (status : ValidationStatus) : Prop :=
  source.CompletesBefore (fun wake => wake.deadline level) wakes status

/-- Either source completes with a status of a kind before the deadline. -/
def SomeCompletes (kind : ValidationStatus → Bool) (ocsp crl : StatusTask)
    (level : Nat) (wakes : List Wake) : Prop :=
  ∃ status,
    kind status = true ∧
      (Completes ocsp level wakes status ∨ Completes crl level wakes status)

/-- What is merged is what the sources complete with before the deadline. -/
theorem mergedRevocation_result
    (returned :
      (mergedRevocation config ocsp crl level).result? wakes = some status) :
    ∃ x y,
      (∀ s, x = some s ↔ Completes ocsp level wakes s) ∧
        (∀ s, y = some s ↔ Completes crl level wakes s) ∧
        status =
          enforceRevocationPolicy
            (mergePreferred (x.getD (.unknown "OCSP check timed out"))
              (y.getD (.unknown "CRL check timed out")) config.preferOcsp)
            config.requireRevocationCheck := by
  rcases result?_map_eq_some returned with ⟨pair, collected, rfl⟩
  rcases result?_map_eq_some collected with ⟨⟨x, y⟩, completed, rfl⟩
  exact
    ⟨x, y, collect_left_iff completed, collect_right_iff completed, rfl⟩

/-- A kind that a timeout is not of is that of a completed status. -/
theorem kind_getD_iff
    {kind : ValidationStatus → Bool} {kept : Option ValidationStatus}
    {source : StatusTask} {reason : String}
    (timeout : kind (.unknown reason) = false)
    (isKept : ∀ s, kept = some s ↔ Completes source level wakes s) :
    kind (kept.getD (.unknown reason)) = true ↔
      ∃ s, kind s = true ∧ Completes source level wakes s := by
  cases kept with
  | none =>
      rw [Option.getD_none, timeout]
      simp only [Bool.false_eq_true, false_iff, not_exists, not_and]
      intro s _ completes
      cases (isKept s).2 completes
  | some s =>
      rw [Option.getD_some]
      constructor
      · intro isKind
        exact ⟨s, isKind, (isKept s).1 rfl⟩
      · rintro ⟨other, isKind, completes⟩
        have same := (isKept other).2 completes
        rw [Option.some.injEq] at same
        rw [same]
        exact isKind

theorem kind_or_iff
    {kind : ValidationStatus → Bool} {x y : Option ValidationStatus}
    (timeout : ∀ reason, kind (.unknown reason) = false)
    (isOcsp : ∀ s, x = some s ↔ Completes ocsp level wakes s)
    (isCrl : ∀ s, y = some s ↔ Completes crl level wakes s)
    (left right : String) :
    (kind (x.getD (.unknown left)) || kind (y.getD (.unknown right))) =
        true ↔
      SomeCompletes kind ocsp crl level wakes := by
  rw [Bool.or_eq_true, kind_getD_iff (timeout left) isOcsp,
    kind_getD_iff (timeout right) isCrl, SomeCompletes, ← exists_or]
  apply exists_congr
  intro s
  rw [and_or_left]

/-- A returned status is revoked exactly when a source completes with a revoked one. -/
theorem mergedRevocation_isRevoked_iff
    (returned :
      (mergedRevocation config ocsp crl level).result? wakes = some status) :
    status.isRevoked = true ↔
      SomeCompletes ValidationStatus.isRevoked ocsp crl level wakes := by
  rcases mergedRevocation_result returned with ⟨x, y, isOcsp, isCrl, rfl⟩
  rw [enforceRevocationPolicy_isRevoked, mergePreferred_isRevoked]
  exact kind_or_iff (fun _ => rfl) isOcsp isCrl _ _

/-- It is valid exactly when one completes with a valid status, and none with a revoked one. -/
theorem mergedRevocation_isValid_iff
    (returned :
      (mergedRevocation config ocsp crl level).result? wakes = some status) :
    status.isValid = true ↔
      SomeCompletes ValidationStatus.isValid ocsp crl level wakes ∧
        ¬ SomeCompletes ValidationStatus.isRevoked ocsp crl level wakes := by
  rcases mergedRevocation_result returned with ⟨x, y, isOcsp, isCrl, rfl⟩
  rw [enforceRevocationPolicy_isValid, mergePreferred_isValid,
    Bool.and_eq_true, Bool.not_eq_true', ← Bool.not_eq_true,
    kind_or_iff (fun _ => rfl) isOcsp isCrl,
    kind_or_iff (fun _ => rfl) isOcsp isCrl]

/-- Under the strict policy it is not unknown. -/
theorem mergedRevocation_isUnknown
    (required : config.requireRevocationCheck = true)
    (returned :
      (mergedRevocation config ocsp crl level).result? wakes = some status) :
    status.isUnknown = false := by
  rcases mergedRevocation_result returned with ⟨x, y, _, _, rfl⟩
  rw [required]
  exact enforceRevocationPolicy_isUnknown

/-- Once its deadline has passed, the check of a level is over. -/
theorem mergedRevocation_finishes
    {wake : Wake}
    (member : wake ∈ wakes)
    (passed : wake.deadline level = true)
    (last : (mergedRevocation config ocsp crl level).State) :
    (mergedRevocation config ocsp crl level).run wakes ≠ .pending last := by
  intro pending
  have collecting := run_map_eq_pending (run_map_eq_pending pending)
  exact collect_finishes member passed last collecting

end Sources

/-! ## What a valid status rests on -/

section Readings

variable {crates : Crates} {signatures : Signatures}
variable {config : RevocationConfig} {validationTime : Option DateTime}
variable {context : OcspValidationContext} {issuer : Certificate}
variable {checkDelegated : Option (Certificate → StatusTask)}
variable {budget level : Nat} {cert : Certificate}
variable {wakes : List Wake} {status : ValidationStatus}

variable (crates signatures config validationTime context issuer) in
/--
A response that was fetched and accepted with a status.  What is required of a
delegated responder is required at the wakes from its acceptance on.
-/
def Accepted (required : Certificate → List Wake → Prop) (level : Nat)
    (cert : Certificate) (wakes : List Wake) (status : ValidationStatus) :
    Prop :=
  ∃ before wake after fetched responseDer nonce outcome,
    wakes = before ++ wake :: after ∧
      fetchedOcsp config level wake = some fetched ∧
      fetched.result = .ok (responseDer, nonce) ∧
      checkOcspResponse crates signatures config validationTime context issuer
          cert fetched.utcNow responseDer nonce = .ok outcome ∧
      outcome.status = status ∧
      ∀ responder,
        outcome.delegatedResponder = some responder →
          required responder (wake :: after)

/-- What is accepted over some wakes is accepted over more of them. -/
theorem Accepted.mono
    {required weaker : Certificate → List Wake → Prop}
    {earlier later : List Wake}
    (accepted :
      Accepted crates signatures config validationTime context issuer required
        level cert wakes status)
    (implies :
      ∀ responder part,
        required responder part → weaker responder (part ++ later)) :
    Accepted crates signatures config validationTime context issuer weaker
      level cert (earlier ++ wakes ++ later) status := by
  rcases accepted with
    ⟨before, wake, after, fetched, responseDer, nonce, outcome, rfl, arrived,
      succeeded, checked, isStatus, delegated⟩
  refine
    ⟨earlier ++ before, wake, after ++ later, fetched, responseDer, nonce,
      outcome, by simp, arrived, succeeded, checked, isStatus, ?_⟩
  intro responder isDelegated
  exact implies responder (wake :: after) (delegated responder isDelegated)

/-- An error never settles as valid. -/
theorem settleError_isValid
    {e : LtvError} {classify : LtvError → ValidationStatus}
    (classified : ∀ e, (classify e).isValid = false)
    (settled : (settleError e classify).result? wakes = some status) :
    status.isValid = false := by
  rw [settleError.eq_def] at settled
  split at settled
  · rw [result?_unwind_eq_none] at settled
    cases settled
  · rw [result?_now_eq_some settled]
    exact classified _

theorem ocspCheckErrorToStatus_isValid (e : LtvError) :
    (ocspCheckErrorToStatus e).isValid = false := by
  rw [ocspCheckErrorToStatus.eq_def]
  split <;> rfl

/-- A valid status is that of the response, whose responder is neither revoked nor invalid. -/
theorem afterResponder_isValid
    {responderStatus : ValidationStatus}
    (valid :
      (afterResponder crates status responderStatus).isValid = true) :
    afterResponder crates status responderStatus = status ∧
      responderStatus.isRevoked = false ∧
      responderStatus.isInvalid = false := by
  rw [afterResponder] at valid ⊢
  split at valid
  · cases valid
  · next blocks =>
      rw [if_neg blocks]
      rw [Bool.or_eq_true, not_or, Bool.not_eq_true, Bool.not_eq_true]
        at blocks
      exact ⟨rfl, blocks.1, blocks.2⟩

/-- What is required of a responder: its own check, if there is one, does not block. -/
def ResponderPasses (checkDelegated : Option (Certificate → StatusTask))
    (responder : Certificate) (wakes : List Wake) : Prop :=
  ∃ check responderStatus,
    checkDelegated = some check ∧
      (check responder).result? wakes = some responderStatus ∧
      responderStatus.isRevoked = false ∧
      responderStatus.isInvalid = false

theorem checkResponder_valid
    {outcome : OcspCheckOutcome}
    (completed :
      (checkResponder crates checkDelegated outcome).result? wakes =
        some status)
    (valid : status.isValid = true) :
    outcome.status = status ∧
      ∀ responder,
        outcome.delegatedResponder = some responder →
          ResponderPasses checkDelegated responder wakes := by
  rw [checkResponder] at completed
  split at completed
  · next notDelegated =>
      rw [result?_now_eq_some completed, notDelegated]
      refine ⟨rfl, ?_⟩
      intro responder isDelegated
      cases isDelegated
  · next responder isDelegated =>
      split at completed
      · rw [result?_now_eq_some completed] at valid
        cases valid
      · next check =>
          rcases result?_map_eq_some completed with
            ⟨responderStatus, checked, rfl⟩
          rcases afterResponder_isValid valid with
            ⟨same, notRevoked, notInvalid⟩
          refine ⟨same.symm, ?_⟩
          intro other isOther
          rw [isDelegated, Option.some.injEq] at isOther
          rw [← isOther]
          exact
            ⟨check, responderStatus, rfl, checked, notRevoked, notInvalid⟩

theorem classifyOcsp_valid
    {fetched : Fetched (Bytes × Option Bytes)}
    (completed :
      (classifyOcsp crates signatures config validationTime context issuer
        checkDelegated cert fetched).result? wakes = some status)
    (valid : status.isValid = true) :
    ∃ responseDer nonce outcome,
      fetched.result = .ok (responseDer, nonce) ∧
        checkOcspResponse crates signatures config validationTime context
            issuer cert fetched.utcNow responseDer nonce = .ok outcome ∧
        outcome.status = status ∧
        ∀ responder,
          outcome.delegatedResponder = some responder →
            ResponderPasses checkDelegated responder wakes := by
  rw [classifyOcsp] at completed
  split at completed
  · have notValid := settleError_isValid (fun _ => rfl) completed
    rw [valid] at notValid
    cases notValid
  · next responseDer nonce succeeded =>
      split at completed
      · have notValid :=
          settleError_isValid ocspCheckErrorToStatus_isValid completed
        rw [valid] at notValid
        cases notValid
      · next outcome checked =>
          have passes := checkResponder_valid completed valid
          exact ⟨responseDer, nonce, outcome, succeeded, checked, passes⟩

theorem withTimeout_valid
    {elapsed : Wake → Bool} {timedOut : String} {check : StatusTask}
    (completed :
      (withTimeout elapsed timedOut check).result? wakes = some status)
    (valid : status.isValid = true) :
    check.result? wakes = some status := by
  rcases result?_map_eq_some completed with ⟨result, ended, rfl⟩
  cases result with
  | none => cases valid
  | some status => exact result?_timeout_eq_some ended

/-- A valid OCSP check has accepted a response, and its delegated responder passes. -/
theorem ocspCheck_valid
    (completed :
      (ocspCheck crates signatures config validationTime context issuer
        checkDelegated level cert).result? wakes = some status)
    (valid : status.isValid = true) :
    Accepted crates signatures config validationTime context issuer
      (ResponderPasses checkDelegated) level cert wakes status := by
  rw [ocspCheck] at completed
  split at completed
  · rw [result?_now_eq_some completed] at valid
    cases valid
  · split at completed
    · rw [result?_now_eq_some completed] at valid
      cases valid
    · have behind := withTimeout_valid completed valid
      rcases result?_andThen_eq_some behind with
        ⟨before, wake, after, last, fetched, split, _, arrived, classified⟩
      rcases classifyOcsp_valid classified valid with
        ⟨responseDer, nonce, outcome, succeeded, checked, passes⟩
      exact
        ⟨before, wake, after, fetched, responseDer, nonce, outcome, split,
          poll_arrival_eq_ready arrived, succeeded, checked, passes⟩

end Readings

/-! ## Every level -/

section Levels

variable (crates : Crates) (signatures : Signatures)
variable (config : RevocationConfig) (validationTime : Option DateTime)
variable (context : OcspValidationContext) (issuer : Certificate)

/-- What a valid status of two sources rests on. -/
structure ValidThrough (ocsp crl : StatusTask)
    (required : Certificate → List Wake → Prop) (level : Nat)
    (cert : Certificate) (wakes : List Wake) : Prop where
  someValid : SomeCompletes ValidationStatus.isValid ocsp crl level wakes
  noneRevoked :
    ¬ SomeCompletes ValidationStatus.isRevoked ocsp crl level wakes
  accepted :
    ∀ status,
      Completes ocsp level wakes status →
        status.isValid = true →
        Accepted crates signatures config validationTime context issuer
          required level cert wakes status

/--
What a valid status rests on at every level: without budget no delegated
responder is relied on, and with budget one that is valid by the same rule.
-/
def ValidBy : Nat → Nat → Certificate → List Wake → Prop
  | 0, level, cert, wakes =>
      ValidThrough crates signatures config validationTime context issuer
        (runOcspCheck crates signatures config validationTime context issuer 0
          level cert)
        (runCrlCheck crates signatures config validationTime issuer level cert)
        (fun _ _ => False) level cert wakes
  | budget + 1, level, cert, wakes =>
      ValidThrough crates signatures config validationTime context issuer
        (runOcspCheck crates signatures config validationTime context issuer
          (budget + 1) level cert)
        (runCrlCheck crates signatures config validationTime issuer level cert)
        (fun responder later =>
          (∃ status,
              (checkDelegatedResponderRevocation crates signatures config
                  validationTime issuer
                  (runOcspCheck crates signatures config validationTime context
                    issuer budget (level + 1) responder)
                  (level + 1) responder).result? later = some status ∧
                status.isValid = true) ∧
            ValidBy budget (level + 1) responder later)
        level cert wakes

variable {crates signatures config validationTime context issuer}
variable {budget level : Nat} {cert : Certificate}
variable {wakes : List Wake} {status : ValidationStatus}

/-- A valid OCSP check of a level has accepted a response there. -/
theorem runOcspCheck_valid
    {required : Certificate → List Wake → Prop}
    (completes :
      Completes
        (runOcspCheck crates signatures config validationTime context issuer
          budget level cert)
        level wakes status)
    (valid : status.isValid = true)
    (implied :
      ∀ responder later,
        ResponderPasses
            (delegatedCheck crates signatures config validationTime context
              issuer budget level)
            responder later →
          required responder later) :
    Accepted crates signatures config validationTime context issuer required
      level cert wakes status := by
  rcases completes with ⟨before, wake, ⟨later, rfl⟩, _, completed⟩
  rw [runOcspCheck_eq] at completed
  rcases result?_andThen_eq_some completed with
    ⟨earlier, first, rest, _, _, split, _, _, completed⟩
  rw [split]
  apply (ocspCheck_valid completed valid).mono
  rintro responder part ⟨check, responderStatus, isCheck, checked, passes⟩
  apply implied
  have longer := result?_mono (List.prefix_append part later) checked
  exact ⟨check, responderStatus, isCheck, longer, passes⟩

/-- Under the strict policy a valid status rests, at every level, on valid ones. -/
theorem mergedRevocation_validBy
    (required : config.requireRevocationCheck = true)
    (returned :
      (mergedRevocation config
        (runOcspCheck crates signatures config validationTime context issuer
          budget level cert)
        (runCrlCheck crates signatures config validationTime issuer level
          cert)
        level).result? wakes = some status)
    (valid : status.isValid = true) :
    ValidBy crates signatures config validationTime context issuer budget level
      cert wakes := by
  induction budget generalizing level cert wakes status with
  | zero =>
      rcases (mergedRevocation_isValid_iff returned).1 valid with
        ⟨someValid, noneRevoked⟩
      refine ⟨someValid, noneRevoked, ?_⟩
      intro other completes isValid
      apply runOcspCheck_valid completes isValid
      rintro responder later ⟨check, _, isCheck, _⟩
      cases isCheck
  | succ budget induction =>
      rcases (mergedRevocation_isValid_iff returned).1 valid with
        ⟨someValid, noneRevoked⟩
      refine ⟨someValid, noneRevoked, ?_⟩
      intro other completes isValid
      apply runOcspCheck_valid completes isValid
      rintro responder later
        ⟨check, responderStatus, isCheck, checked, notRevoked, notInvalid⟩
      cases isCheck
      have notUnknown := mergedRevocation_isUnknown required checked
      have responderValid :=
        isValid_of_not notUnknown notRevoked notInvalid
      exact
        ⟨⟨responderStatus, checked, responderValid⟩,
          induction checked responderValid⟩

/-! ## How many checks there are -/

/-- A source without nested checks emits nothing. -/
theorem emitsAtMost_settleError
    {e : LtvError} {classify : LtvError → ValidationStatus} :
    EmitsAtMost 0 (settleError e classify) := by
  rw [settleError.eq_def]
  split
  · exact emitsAtMost_unwind
  · exact emitsAtMost_now

theorem emitsAtMost_withTimeout
    {elapsed : Wake → Bool} {timedOut : String} {check : StatusTask}
    {bound : Nat}
    (atMost : EmitsAtMost bound check) :
    EmitsAtMost bound (withTimeout elapsed timedOut check) :=
  emitsAtMost_map (emitsAtMost_timeout atMost)

theorem emitsAtMost_mergedRevocation
    {ocsp crl : StatusTask} {bound : Nat}
    (ocspAtMost : EmitsAtMost bound ocsp)
    (crlAtMost : EmitsAtMost 0 crl) :
    EmitsAtMost bound (mergedRevocation config ocsp crl level) :=
  emitsAtMost_map
    (emitsAtMost_map (emitsAtMost_collect ocspAtMost crlAtMost))

theorem emitsAtMost_classifyCrl {fetched : Fetched (List Bytes)} :
    EmitsAtMost 0
      (classifyCrl crates signatures config validationTime issuer cert
        fetched) := by
  rw [classifyCrl.eq_def]
  split
  · exact emitsAtMost_settleError
  · exact emitsAtMost_now
  · split
    · exact emitsAtMost_now
    · exact emitsAtMost_settleError

theorem emitsAtMost_runCrlCheck :
    EmitsAtMost 0
      (runCrlCheck crates signatures config validationTime issuer level
        cert) := by
  rw [runCrlCheck]
  split
  · exact emitsAtMost_now
  · exact
      emitsAtMost_withTimeout
        (emitsAtMost_andThen emitsAtMost_arrival fun _ =>
          emitsAtMost_classifyCrl)

theorem emitsAtMost_checkResponder
    {checkDelegated : Option (Certificate → StatusTask)}
    {outcome : OcspCheckOutcome} {bound : Nat}
    (atMost :
      ∀ check responder,
        checkDelegated = some check → EmitsAtMost bound (check responder)) :
    EmitsAtMost bound (checkResponder crates checkDelegated outcome) := by
  rw [checkResponder]
  split
  · exact emitsAtMost_now.mono (Nat.zero_le bound)
  · next responder _ =>
      split
      · exact emitsAtMost_now.mono (Nat.zero_le bound)
      · next check => exact emitsAtMost_map (atMost check responder rfl)

theorem emitsAtMost_classifyOcsp
    {checkDelegated : Option (Certificate → StatusTask)}
    {fetched : Fetched (Bytes × Option Bytes)} {bound : Nat}
    (atMost :
      ∀ check responder,
        checkDelegated = some check → EmitsAtMost bound (check responder)) :
    EmitsAtMost bound
      (classifyOcsp crates signatures config validationTime context issuer
        checkDelegated cert fetched) := by
  rw [classifyOcsp]
  split
  · exact emitsAtMost_settleError.mono (Nat.zero_le bound)
  · split
    · exact emitsAtMost_settleError.mono (Nat.zero_le bound)
    · exact emitsAtMost_checkResponder atMost

theorem emitsAtMost_ocspCheck
    {checkDelegated : Option (Certificate → StatusTask)} {bound : Nat}
    (atMost :
      ∀ check responder,
        checkDelegated = some check → EmitsAtMost bound (check responder)) :
    EmitsAtMost bound
      (ocspCheck crates signatures config validationTime context issuer
        checkDelegated level cert) := by
  rw [ocspCheck]
  split
  · exact emitsAtMost_now.mono (Nat.zero_le bound)
  · split
    · exact emitsAtMost_now.mono (Nat.zero_le bound)
    · have behind :
          EmitsAtMost (0 + bound)
            (andThen (arrival (fetchedOcsp config level))
              (classifyOcsp crates signatures config validationTime context
                issuer checkDelegated cert)) :=
        emitsAtMost_andThen emitsAtMost_arrival fun _ =>
          emitsAtMost_classifyOcsp atMost
      rw [Nat.zero_add] at behind
      exact emitsAtMost_withTimeout behind

/-- The checks below a level are bounded by its budget, and the check of the level is one more. -/
theorem emitsAtMost_runOcspCheck :
    EmitsAtMost (budget + 1)
      (runOcspCheck crates signatures config validationTime context issuer
        budget level cert) := by
  rw [Nat.add_comm]
  induction budget generalizing level cert with
  | zero =>
      rw [runOcspCheck_eq]
      apply emitsAtMost_andThen emitsAtMost_emit
      intro _
      apply emitsAtMost_ocspCheck
      intro check responder isCheck
      cases isCheck
  | succ budget induction =>
      rw [runOcspCheck_eq]
      apply emitsAtMost_andThen emitsAtMost_emit
      intro _
      apply emitsAtMost_ocspCheck
      intro check responder isCheck
      cases isCheck
      rw [Nat.add_comm budget 1]
      exact emitsAtMost_mergedRevocation induction emitsAtMost_runCrlCheck

end Levels

/-! ## Failing closed -/

section FailClosed

variable (crates : Crates) (signatures : Signatures)
variable (config : RevocationConfig) (validationTime : Option DateTime)
variable (context : OcspValidationContext) (issuer cert : Certificate)

/-- The OCSP check of the certificate itself. -/
def topOcsp : StatusTask :=
  runOcspCheck crates signatures config validationTime context issuer
    config.maxOcspRecursion 0 cert

/-- The CRL check of the certificate itself. -/
def topCrl : StatusTask :=
  runCrlCheck crates signatures config validationTime issuer 0 cert

/--
What the check of a certificate guarantees over some wakes.  It is over when its
deadline has passed, and when it is over it has returned a status, which is
revoked if either source has completed with a revoked one.
-/
structure FailClosed (wakes : List Wake) : Prop where
  neverUnknown :
    ∀ status,
      (checkCertificateRevocationWithOcspContext crates signatures config
          validationTime context issuer cert).result? wakes = some status →
        status.isUnknown = false
  finishes :
    ∀ wake ∈ wakes,
      wake.deadline 0 = true →
        ∀ last,
          (checkCertificateRevocationWithOcspContext crates signatures config
            validationTime context issuer cert).run wakes ≠ .pending last
  returns :
    (∀ last,
        (checkCertificateRevocationWithOcspContext crates signatures config
          validationTime context issuer cert).run wakes ≠ .pending last) →
      ∃ status,
        (checkCertificateRevocationWithOcspContext crates signatures config
            validationTime context issuer cert).result? wakes = some status ∧
          (status.isRevoked = true ↔
            SomeCompletes ValidationStatus.isRevoked
              (topOcsp crates signatures config validationTime context issuer
                cert)
              (topCrl crates signatures config validationTime issuer cert)
              0 wakes)
  valid :
    ∀ status,
      (checkCertificateRevocationWithOcspContext crates signatures config
          validationTime context issuer cert).result? wakes = some status →
        status.isValid = true →
        ValidBy crates signatures config validationTime context issuer
          config.maxOcspRecursion 0 cert wakes
  bounded :
    ((checkCertificateRevocationWithOcspContext crates signatures config
        validationTime context issuer cert).log wakes).length ≤
      config.maxOcspRecursion + 1

variable {crates signatures config validationTime context issuer cert}

/-- A check that does not unwind fails closed. -/
theorem failClosed_of_not_unwinds
    {wakes : List Wake}
    (required : config.requireRevocationCheck = true)
    (safe :
      ¬ (checkCertificateRevocationWithOcspContext crates signatures config
          validationTime context issuer cert).Unwinds wakes) :
    FailClosed crates signatures config validationTime context issuer cert
      wakes where
  neverUnknown := by
    intro status returned
    exact mergedRevocation_isUnknown required returned
  finishes := by
    intro wake member passed
    exact mergedRevocation_finishes member passed
  returns := by
    intro isOver
    rcases not_pending_iff.mp isOver with ⟨status, returned⟩ | unwinds
    · exact ⟨status, returned, mergedRevocation_isRevoked_iff returned⟩
    · exact absurd unwinds safe
  valid := by
    intro status returned isValid
    exact mergedRevocation_validBy required returned isValid
  bounded :=
    length_log_le
      (emitsAtMost_mergedRevocation emitsAtMost_runOcspCheck
        emitsAtMost_runCrlCheck)

/-- A check that has unwound is over, and has returned nothing. -/
theorem FailClosed.not_unwinds
    {wakes : List Wake}
    (closed :
      FailClosed crates signatures config validationTime context issuer cert
        wakes) :
    ¬ (checkCertificateRevocationWithOcspContext crates signatures config
        validationTime context issuer cert).Unwinds wakes := by
  intro unwinds
  rcases closed.returns (not_pending_iff.mpr (.inr unwinds)) with
    ⟨status, returned, _⟩
  exact not_unwinds_of_result? returned unwinds

variable (crates signatures config validationTime context issuer cert)

/--
Under the strict policy the check of a certificate fails closed, whatever the
network delivers and whichever timers elapse, at every nesting level and in any
order, exactly if no fetch that it gets and no check of what it has fetched
panics.
-/
theorem checkCertificateRevocation_failClosed_iff
    (required : config.requireRevocationCheck = true)
    (wakes : List Wake) :
    FailClosed crates signatures config validationTime context issuer cert
        wakes ↔
      ¬ Panics crates signatures config validationTime context issuer cert
          wakes := by
  rw [← unwinds_check_iff]
  exact ⟨FailClosed.not_unwinds, failClosed_of_not_unwinds required⟩

end FailClosed

/-! ## Two runs with a delegated responder -/

section DelegatedRuns

open RitspLtv.Reference

/-- A URI as a general name. -/
def uri (text : String) : Bytes :=
  encodeTlv 0x86 (asciiBytes text)

/-- `authorityInfoAccess` with one OCSP responder. -/
def ocspAccess : Extension :=
  ⟨aiaOid, false,
    encodeSequenceFromParts
      [encodeSequenceFromParts
        [encodeOid AiaAccessMethod.ocsp.oid, uri "http://ocsp.root"]]⟩

/-- `cRLDistributionPoints` with one full name. -/
def crlPoint : Extension :=
  ⟨crlDpOid, false,
    encodeSequenceFromParts
      [encodeSequenceFromParts
        [encodeTlv 0xA0 (encodeTlv 0xA0 (uri "http://crl.root"))]]⟩

/-- A certificate that can be checked by OCSP and by CRL. -/
def monitored : Certificate :=
  certificate 5 0xB5 0xA1 "Monitored" "Root" [ocspAccess, crlPoint]

/-- A delegated responder that is to be checked by CRL itself. -/
def delegate : Certificate :=
  certificate 6 0xD6 0xA1 "Responder" "Root" [ocspSigning, crlPoint]

/-- The crates on a PKI with these two certificates. -/
def delegatedCrates : Crates :=
  Reference.crates ⟨[root, monitored, delegate], [ecdsaWithSha256], []⟩

/-- The certificate is good, says the delegated responder. -/
def goodResponse : Bytes :=
  encodeOcspResponse
    (encodeResponseData delegate.tbsCertificate.subject
      year2026
      [encodeSingleResponse (encodeName root.tbsCertificate.subject) [0xA1]
        [5] encodeGood year2026 year2030])
    ecdsaWithSha256 (publicKey 0xD6) [encodeCertificate delegate]

/-- A CRL of the root that revokes one serial number. -/
def crlRevoking (serial : UInt8) : Bytes :=
  encodeSigned
    (encodeTbsCertList ecdsaWithSha256 root.tbsCertificate.subject
      (.utcTime year2026)
      (.utcTime year2030)
      [([serial], .utcTime year2025)])
    ecdsaWithSha256 (publicKey 0xA1)

/-- The OCSP response has arrived, and the CRLs of some levels. -/
def wakeWith (crls : Nat → Option Bytes) (deadline : Bool) : Wake where
  ocspResponse := fun _ => none
  ocspResponseWithNonce := fun level =>
    if level = 0 then some ⟨.ok (goodResponse, [1]), checkedAt⟩ else none
  ocspElapsed := fun _ => false
  crls := fun level => (crls level).map fun crl => ⟨.ok [crl], checkedAt⟩
  crlElapsed := fun _ => false
  deadline := fun level => level == 0 && deadline

/-- The check of the certificate along the path of the root. -/
def monitoredCheck : StatusTask :=
  checkCertificateRevocationWithOcspContext delegatedCrates
    Reference.signatures .default none ⟨some ([root], rootStore), false⟩ root
    monitored

/-- The responder is being checked when a CRL revokes the certificate and the deadline passes. -/
def revokedWakes : List Wake :=
  [wakeWith (fun _ => none) false,
    wakeWith (fun level => if level = 0 then some (crlRevoking 5) else none)
      false,
    wakeWith (fun _ => none) true]

/-- A CRL that does not revoke the responder arrives, and the deadline passes. -/
def validWakes : List Wake :=
  [wakeWith (fun _ => none) false,
    wakeWith (fun level => if level = 1 then some (crlRevoking 9) else none)
      false,
    wakeWith (fun _ => none) true]

/-- A check that has returned has met no panic. -/
theorem not_panics_of_result?
    {wakes : List Wake} {kind : ValidationStatus → Bool}
    (returned : (monitoredCheck.result? wakes).map kind = some true) :
    ¬ Panics delegatedCrates Reference.signatures .default none
        ⟨some ([root], rootStore), false⟩ root monitored wakes := by
  rw [← unwinds_check_iff]
  rcases Option.map_eq_some_iff.mp returned with ⟨status, isStatus, _⟩
  exact not_unwinds_of_result? isStatus

/-- Both runs fail closed: one is revoked by CRL alone, the other valid by OCSP alone. -/
theorem checkCertificateRevocation_failClosed_iff_delegated :
    (monitoredCheck.result? revokedWakes).map ValidationStatus.isRevoked =
        some true ∧
      (monitoredCheck.result? validWakes).map ValidationStatus.isValid =
        some true ∧
      (monitoredCheck.log validWakes).length = 2 ∧
      ∀ wakes ∈ [revokedWakes, validWakes],
        FailClosed delegatedCrates Reference.signatures .default none
          ⟨some ([root], rootStore), false⟩ root monitored wakes := by
  have isRevoked :
      (monitoredCheck.result? revokedWakes).map ValidationStatus.isRevoked =
        some true := by
    decide +kernel
  have isValid :
      (monitoredCheck.result? validWakes).map ValidationStatus.isValid =
        some true := by
    decide +kernel
  refine ⟨isRevoked, isValid, by decide +kernel, ?_⟩
  intro wakes member
  apply
    (checkCertificateRevocation_failClosed_iff delegatedCrates
      Reference.signatures .default none ⟨some ([root], rootStore), false⟩ root
      monitored rfl wakes).mpr
  rw [List.mem_cons, List.mem_singleton] at member
  rcases member with rfl | rfl
  · exact not_panics_of_result? isRevoked
  · exact not_panics_of_result? isValid

/-! ### A skew without bound -/

/-- CRLs are looked at with a clock skew without bound. -/
def boundless : RevocationConfig :=
  { RevocationConfig.default with crlFreshness := ⟨.max, .hours 24⟩ }

/-- The certificate is revoked, says the root. -/
def revokedResponse : Bytes :=
  encodeOcspResponse
    (encodeResponseData root.tbsCertificate.subject year2026
      [encodeSingleResponse (encodeName root.tbsCertificate.subject) [0xA1]
        [5] (encodeRevoked year2025) year2026 year2030])
    ecdsaWithSha256 (publicKey 0xA1) []

/-- The OCSP response of the root arrives. -/
def revokedWake : Wake :=
  { wakeWith (fun _ => none) false with
    ocspResponseWithNonce := fun _ =>
      some ⟨.ok (revokedResponse, [1]), checkedAt⟩ }

/-- Behind it a CRL arrives, and then the deadline passes. -/
def lostWakes : List Wake :=
  [revokedWake, wakeWith (fun _ => some (crlRevoking 9)) false,
    wakeWith (fun _ => none) true]

/-- The revocation is lost: the check of the CRL unwinds, with no result. -/
theorem checkCertificateRevocation_unwinds :
    boundless.requireRevocationCheck = true ∧
      SomeCompletes ValidationStatus.isRevoked
        (topOcsp delegatedCrates Reference.signatures boundless none
          ⟨some ([root], rootStore), false⟩ root monitored)
        (topCrl delegatedCrates Reference.signatures boundless none root
          monitored)
        0 lostWakes ∧
      (checkCertificateRevocationWithOcspContext delegatedCrates
          Reference.signatures boundless none
          ⟨some ([root], rootStore), false⟩ root monitored).result?
        lostWakes = none ∧
      ¬ FailClosed delegatedCrates Reference.signatures boundless none
          ⟨some ([root], rootStore), false⟩ root monitored lostWakes := by
  have nothing :
      (checkCertificateRevocationWithOcspContext delegatedCrates
          Reference.signatures boundless none
          ⟨some ([root], rootStore), false⟩ root monitored).result?
        lostWakes = none := by
    decide +kernel
  have completes :
      ((topOcsp delegatedCrates Reference.signatures boundless none
          ⟨some ([root], rootStore), false⟩ root monitored).result?
        [revokedWake]).map ValidationStatus.isRevoked = some true := by
    decide +kernel
  refine ⟨rfl, ?_, nothing, ?_⟩
  · rcases Option.map_eq_some_iff.mp completes with
      ⟨status, isStatus, isRevoked⟩
    exact
      ⟨status, isRevoked,
        .inl ⟨[], revokedWake, ⟨_, rfl⟩, by simp, isStatus⟩⟩
  · intro closed
    have isOver :=
      closed.finishes (wakeWith (fun _ => none) true) (by simp [lostWakes]) rfl
    rcases closed.returns isOver with ⟨status, returned, _⟩
    rw [nothing] at returned
    cases returned

end DelegatedRuns

end RitspLtv.Ltv.RevocationSoundness
