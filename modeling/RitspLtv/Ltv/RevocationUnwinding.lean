import RitspLtv.Foundation.PollingRules
import RitspLtv.Ltv.Revocation

/-!
# Why a check unwinds

A fetch may panic, and so may the check of what it has fetched.  The two checks
of a certificate run in one task, so either takes the whole with it; and a check
waits for no more than its timers and the deadline of its level let it.  A check
therefore unwinds exactly when something that it comes to panics: a fetch that
it gets in time, the check of that response or of the first of those CRLs, or,
while there is budget, the same for a delegated responder.
-/

namespace RitspLtv.Ltv.RevocationUnwinding

open RitspLtv.Foundation.Polling.Task
open RitspLtv.RustStd
open RitspLtv.Chrono
open RitspLtv.Crypto.Verify
open RitspLtv.Ltv.Status
open RitspLtv.Ltv.Ocsp
open RitspLtv.Ltv.Crl
open RitspLtv.Ltv.Urls
open RitspLtv.Ltv.Revocation

/-- The check of a delegated responder that is left to an OCSP check. -/
def delegatedCheck (crates : Crates) (signatures : Signatures)
    (config : RevocationConfig) (validationTime : Option DateTime)
    (context : OcspValidationContext) (issuer : Certificate) :
    Nat → Nat → Option (Certificate → StatusTask)
  | 0, _ => none
  | budget + 1, level =>
      some fun responder =>
        checkDelegatedResponderRevocation crates signatures config
          validationTime issuer
          (runOcspCheck crates signatures config validationTime context issuer
            budget (level + 1) responder)
          (level + 1) responder

/-! ## What a check comes to -/

variable (crates : Crates) (signatures : Signatures)
variable (config : RevocationConfig) (validationTime : Option DateTime)
variable (context : OcspValidationContext) (issuer : Certificate)

/-- The CRL check of a certificate awaits its CRLs, and gets them in time. -/
def GetsCrls (level : Nat) (cert : Certificate) (wakes : List Wake)
    (fetched : Fetched (List Bytes)) : Prop :=
  extractCrlUrls cert ≠ [] ∧
    ∃ rest,
      firstArrival (fun wake => wake.crls level)
          (upTo (fun wake => wake.crlElapsed level) wakes) =
        some (fetched, rest)

/-- The CRL check panics: the fetch does, or the check of the first CRL. -/
inductive CrlPanics (level : Nat) (cert : Certificate) (wakes : List Wake) :
    Prop where
  | fetch (fetched : Fetched (List Bytes)) (message : String)
      (gets : GetsCrls level cert wakes fetched)
      (panicked : fetched.result = .error (.panicked message))
  | check (fetched : Fetched (List Bytes)) (crl : Bytes)
      (others : List Bytes) (message : String)
      (gets : GetsCrls level cert wakes fetched)
      (succeeded : fetched.result = .ok (crl :: others))
      (panicked :
        checkRevocationWithOptions crates signatures fetched.utcNow crl cert
            issuer validationTime config.signaturePolicy config.crlFreshness =
          .error (.panicked message))

/--
The OCSP check of a certificate awaits a response and gets it in time; what is
behind it runs at the wakes from there on.
-/
def GetsOcsp (level : Nat) (cert : Certificate) (wakes : List Wake)
    (fetched : Fetched (Bytes × Option Bytes)) (rest : List Wake) : Prop :=
  ¬ (context.requireNonce = true ∧ config.useOcspNonce = false) ∧
    extractOcspUrls cert ≠ [] ∧
    firstArrival (fetchedOcsp config level)
        (upTo (fun wake => wake.ocspElapsed level) wakes) =
      some (fetched, rest)

/-- The response is accepted, and signed by a responder that is to be checked. -/
def Delegates (level : Nat) (cert : Certificate) (wakes : List Wake)
    (responder : Certificate) (rest : List Wake) : Prop :=
  ∃ fetched responseDer nonce outcome,
    GetsOcsp config context level cert wakes fetched rest ∧
      fetched.result = .ok (responseDer, nonce) ∧
      checkOcspResponse crates signatures config validationTime context issuer
          cert fetched.utcNow responseDer nonce = .ok outcome ∧
      outcome.delegatedResponder = some responder

/--
The OCSP check of a certificate panics: its fetch does, or the check of the
response, or, while there is budget, a check of the delegated responder before
the deadline of its level.
-/
inductive OcspPanics : Nat → Nat → Certificate → List Wake → Prop where
  | fetch {budget level : Nat} {cert : Certificate} {wakes rest : List Wake}
      (fetched : Fetched (Bytes × Option Bytes)) (message : String)
      (gets : GetsOcsp config context level cert wakes fetched rest)
      (panicked : fetched.result = .error (.panicked message)) :
      OcspPanics budget level cert wakes
  | check {budget level : Nat} {cert : Certificate} {wakes rest : List Wake}
      (fetched : Fetched (Bytes × Option Bytes)) (responseDer : Bytes)
      (nonce : Option Bytes) (message : String)
      (gets : GetsOcsp config context level cert wakes fetched rest)
      (succeeded : fetched.result = .ok (responseDer, nonce))
      (panicked :
        checkOcspResponse crates signatures config validationTime context
            issuer cert fetched.utcNow responseDer nonce =
          .error (.panicked message)) :
      OcspPanics budget level cert wakes
  | responderOcsp {budget level : Nat} {cert : Certificate}
      {wakes rest : List Wake} (responder : Certificate)
      (delegates :
        Delegates crates signatures config validationTime context issuer level
          cert wakes responder rest)
      (panics :
        OcspPanics budget (level + 1) responder
          (upTo (fun wake => wake.deadline (level + 1)) rest)) :
      OcspPanics (budget + 1) level cert wakes
  | responderCrl {budget level : Nat} {cert : Certificate}
      {wakes rest : List Wake} (responder : Certificate)
      (delegates :
        Delegates crates signatures config validationTime context issuer level
          cert wakes responder rest)
      (panics :
        CrlPanics crates signatures config validationTime issuer (level + 1)
          responder (upTo (fun wake => wake.deadline (level + 1)) rest)) :
      OcspPanics (budget + 1) level cert wakes

/-- A check of the certificate at the top level panics before its deadline. -/
def Panics (cert : Certificate) (wakes : List Wake) : Prop :=
  OcspPanics crates signatures config validationTime context issuer
      config.maxOcspRecursion 0 cert
      (upTo (fun wake => wake.deadline 0) wakes) ∨
    CrlPanics crates signatures config validationTime issuer 0 cert
      (upTo (fun wake => wake.deadline 0) wakes)

variable {crates signatures config validationTime context issuer}
variable {budget level : Nat} {cert : Certificate} {wakes rest : List Wake}

/-! ## When it unwinds -/

theorem unwinds_settleError_iff
    {e : LtvError} {classify : LtvError → ValidationStatus} :
    (settleError e classify).Unwinds wakes ↔
      wakes ≠ [] ∧ ∃ message, e = .panicked message := by
  cases e with
  | panicked text =>
      rw [settleError, unwinds_unwind_iff]
      simp
  | _ =>
      apply iff_of_false not_unwinds_now
      rintro ⟨_, message, impossible⟩
      cases impossible

theorem unwinds_withTimeout_iff
    {elapsed : Wake → Bool} {timedOut : String} {check : StatusTask} :
    (withTimeout elapsed timedOut check).Unwinds wakes ↔
      check.Unwinds (upTo elapsed wakes) := by
  rw [withTimeout, unwinds_map_iff, unwinds_timeout_iff]

theorem unwinds_mergedRevocation_iff
    {ocsp crl : StatusTask} :
    (mergedRevocation config ocsp crl level).Unwinds wakes ↔
      ocsp.Unwinds (upTo (fun wake => wake.deadline level) wakes) ∨
        crl.Unwinds (upTo (fun wake => wake.deadline level) wakes) := by
  rw [mergedRevocation, unwinds_map_iff, collectRevocationResults,
    unwinds_map_iff, unwinds_collect_iff]

theorem unwinds_classifyCrl_iff
    {fetched : Fetched (List Bytes)} (some : rest ≠ []) :
    (classifyCrl crates signatures config validationTime issuer cert
        fetched).Unwinds rest ↔
      (∃ message, fetched.result = .error (.panicked message)) ∨
        ∃ crl others message,
          fetched.result = .ok (crl :: others) ∧
            checkRevocationWithOptions crates signatures fetched.utcNow crl
                cert issuer validationTime config.signaturePolicy
                config.crlFreshness = .error (.panicked message) := by
  rw [classifyCrl.eq_def]
  split
  · next e failed =>
      rw [unwinds_settleError_iff, failed]
      simp [some]
  · next succeeded =>
      rw [succeeded]
      exact iff_of_false not_unwinds_now (by simp)
  · next crl others succeeded =>
      rw [succeeded]
      split
      · next status checked =>
          apply iff_of_false not_unwinds_now
          simp [checked]
      · next e checked =>
          rw [unwinds_settleError_iff]
          simp [some, checked]

/-- A CRL check unwinds exactly when the fetch or the first CRL's check does. -/
theorem unwinds_runCrlCheck_iff :
    (runCrlCheck crates signatures config validationTime issuer level
        cert).Unwinds wakes ↔
      CrlPanics crates signatures config validationTime issuer level cert
        wakes := by
  rw [runCrlCheck]
  split
  · next noUrls =>
      apply iff_of_false not_unwinds_now
      rintro (⟨_, _, gets, _⟩ | ⟨_, _, _, _, gets, _⟩)
      · exact gets.1 noUrls
      · exact gets.1 noUrls
  · next someUrls =>
      rw [unwinds_withTimeout_iff, unwinds_andThen_arrival_iff]
      constructor
      · rintro ⟨fetched, rest, first, unwinds⟩
        rcases
          (unwinds_classifyCrl_iff (firstArrival_ne_nil first)).mp unwinds with
          ⟨message, panicked⟩ | ⟨crl, others, message, succeeded, panicked⟩
        · exact .fetch fetched message ⟨someUrls, rest, first⟩ panicked
        · exact
            .check fetched crl others message ⟨someUrls, rest, first⟩ succeeded
              panicked
      · rintro
          (⟨fetched, message, ⟨_, rest, first⟩, panicked⟩ |
            ⟨fetched, crl, others, message, ⟨_, rest, first⟩, succeeded,
              panicked⟩)
        · refine ⟨fetched, rest, first, ?_⟩
          rw [unwinds_classifyCrl_iff (firstArrival_ne_nil first)]
          exact .inl ⟨message, panicked⟩
        · refine ⟨fetched, rest, first, ?_⟩
          rw [unwinds_classifyCrl_iff (firstArrival_ne_nil first)]
          exact .inr ⟨crl, others, message, succeeded, panicked⟩

/-- Behind a response that is accepted, only the responder is checked. -/
theorem unwinds_checkResponder_iff
    {checkDelegated : Option (Certificate → StatusTask)}
    {outcome : OcspCheckOutcome} :
    (checkResponder crates checkDelegated outcome).Unwinds rest ↔
      ∃ responder check,
        outcome.delegatedResponder = some responder ∧
          checkDelegated = some check ∧ (check responder).Unwinds rest := by
  rw [checkResponder]
  cases outcome.delegatedResponder with
  | none => exact iff_of_false not_unwinds_now (by simp)
  | some responder =>
      cases checkDelegated with
      | none => exact iff_of_false not_unwinds_now (by simp)
      | some check =>
          rw [unwinds_map_iff]
          simp

theorem unwinds_classifyOcsp_iff
    {checkDelegated : Option (Certificate → StatusTask)}
    {fetched : Fetched (Bytes × Option Bytes)} (some : rest ≠ []) :
    (classifyOcsp crates signatures config validationTime context issuer
        checkDelegated cert fetched).Unwinds rest ↔
      (∃ message, fetched.result = .error (.panicked message)) ∨
        ∃ responseDer nonce,
          fetched.result = .ok (responseDer, nonce) ∧
            ((∃ message,
                checkOcspResponse crates signatures config validationTime
                    context issuer cert fetched.utcNow responseDer nonce =
                  .error (.panicked message)) ∨
              ∃ outcome,
                checkOcspResponse crates signatures config validationTime
                    context issuer cert fetched.utcNow responseDer nonce =
                  .ok outcome ∧
                (checkResponder crates checkDelegated outcome).Unwinds
                  rest) := by
  rw [classifyOcsp]
  split
  · next e failed =>
      rw [unwinds_settleError_iff, failed]
      simp [some]
  · next responseDer nonce succeeded =>
      rw [succeeded]
      split
      · next e checked =>
          rw [unwinds_settleError_iff]
          simp [some, checked]
      · next outcome checked => simp [checked]

/-- An OCSP check unwinds exactly when a step or the responder's check does. -/
theorem unwinds_ocspCheck_iff
    {checkDelegated : Option (Certificate → StatusTask)} :
    (ocspCheck crates signatures config validationTime context issuer
        checkDelegated level cert).Unwinds wakes ↔
      ∃ fetched rest,
        GetsOcsp config context level cert wakes fetched rest ∧
          (classifyOcsp crates signatures config validationTime context issuer
            checkDelegated cert fetched).Unwinds rest := by
  rw [ocspCheck]
  split
  · next refused =>
      apply iff_of_false not_unwinds_now
      rintro ⟨_, _, gets, _⟩
      exact gets.1 refused
  · next allowed =>
      split
      · next noUrls =>
          apply iff_of_false not_unwinds_now
          rintro ⟨_, _, gets, _⟩
          exact gets.2.1 noUrls
      · next someUrls =>
          rw [unwinds_withTimeout_iff, unwinds_andThen_arrival_iff]
          constructor
          · rintro ⟨fetched, rest, first, unwinds⟩
            exact ⟨fetched, rest, ⟨allowed, someUrls, first⟩, unwinds⟩
          · rintro ⟨fetched, rest, ⟨_, _, first⟩, unwinds⟩
            exact ⟨fetched, rest, first, unwinds⟩

/-- With a delegated responder, an OCSP check may unwind below the level too. -/
theorem unwinds_delegatedCheck_iff
    {responder : Certificate} :
    (∃ check,
        delegatedCheck crates signatures config validationTime context issuer
            budget level = some check ∧
          (check responder).Unwinds rest) ↔
      ∃ less,
        budget = less + 1 ∧
          ((runOcspCheck crates signatures config validationTime context issuer
                less (level + 1) responder).Unwinds
              (upTo (fun wake => wake.deadline (level + 1)) rest) ∨
            CrlPanics crates signatures config validationTime issuer
              (level + 1) responder
              (upTo (fun wake => wake.deadline (level + 1)) rest)) := by
  cases budget with
  | zero => simp [delegatedCheck]
  | succ less =>
      simp only [delegatedCheck, Option.some.injEq, exists_eq_left',
        checkDelegatedResponderRevocation, unwinds_mergedRevocation_iff,
        unwinds_runCrlCheck_iff, Nat.add_right_cancel_iff]

/-- The check of a responder that is come to takes the OCSP check with it. -/
theorem exists_unwinds_of_delegates
    {checkDelegated : Option (Certificate → StatusTask)}
    {responder : Certificate} {check : Certificate → StatusTask}
    (delegates :
      Delegates crates signatures config validationTime context issuer level
        cert wakes responder rest)
    (isCheck : checkDelegated = some check)
    (below : (check responder).Unwinds rest) :
    ∃ fetched later,
      GetsOcsp config context level cert wakes fetched later ∧
        (classifyOcsp crates signatures config validationTime context issuer
          checkDelegated cert fetched).Unwinds later := by
  rcases delegates with
    ⟨fetched, responseDer, nonce, outcome, gets, succeeded, checked,
      isDelegated⟩
  refine ⟨fetched, rest, gets, ?_⟩
  rw [unwinds_classifyOcsp_iff (firstArrival_ne_nil gets.2.2)]
  refine .inr ⟨responseDer, nonce, succeeded, .inr ⟨outcome, checked, ?_⟩⟩
  rw [unwinds_checkResponder_iff]
  exact ⟨responder, check, isDelegated, isCheck, below⟩

theorem runOcspCheck_eq :
    runOcspCheck crates signatures config validationTime context issuer budget
        level cert =
      .andThen (.emit ⟨level⟩) fun _ =>
        ocspCheck crates signatures config validationTime context issuer
          (delegatedCheck crates signatures config validationTime context
            issuer budget level)
          level cert := by
  cases budget <;> rfl

/-- The OCSP check unwinds exactly when something that it comes to panics. -/
theorem unwinds_runOcspCheck_iff :
    (runOcspCheck crates signatures config validationTime context issuer
        budget level cert).Unwinds wakes ↔
      OcspPanics crates signatures config validationTime context issuer budget
        level cert wakes := by
  induction budget using Nat.strong_induction_on generalizing level cert wakes
    with
  | _ budget induction =>
      rw [runOcspCheck_eq, unwinds_andThen_emit_iff, unwinds_ocspCheck_iff]
      constructor
      · rintro ⟨fetched, rest, gets, unwinds⟩
        have some := firstArrival_ne_nil gets.2.2
        rcases (unwinds_classifyOcsp_iff some).mp unwinds with
          ⟨message, panicked⟩ |
            ⟨responseDer, nonce, succeeded, ⟨message, panicked⟩ |
              ⟨outcome, checked, unwinds⟩⟩
        · exact .fetch fetched message gets panicked
        · exact
            .check fetched responseDer nonce message gets succeeded panicked
        · rcases unwinds_checkResponder_iff.mp unwinds with
            ⟨responder, check, isDelegated, below⟩
          have delegates :
              Delegates crates signatures config validationTime context issuer
                level cert wakes responder rest :=
            ⟨fetched, responseDer, nonce, outcome, gets, succeeded, checked,
              isDelegated⟩
          rcases unwinds_delegatedCheck_iff.mp ⟨check, below⟩ with
            ⟨less, rfl, ocsp | crl⟩
          · exact
              .responderOcsp responder delegates
                ((induction less (Nat.lt_succ_self less)).mp ocsp)
          · exact .responderCrl responder delegates crl
      · intro panics
        cases panics with
        | fetch fetched message gets panicked =>
            refine ⟨fetched, _, gets, ?_⟩
            rw [unwinds_classifyOcsp_iff (firstArrival_ne_nil gets.2.2)]
            exact .inl ⟨message, panicked⟩
        | check fetched responseDer nonce message gets succeeded panicked =>
            refine ⟨fetched, _, gets, ?_⟩
            rw [unwinds_classifyOcsp_iff (firstArrival_ne_nil gets.2.2)]
            exact .inr ⟨responseDer, nonce, succeeded, .inl ⟨message, panicked⟩⟩
        | @responderOcsp less _ _ _ rest responder delegates panics =>
            have ocsp := (induction less (Nat.lt_succ_self less)).mpr panics
            rcases unwinds_delegatedCheck_iff.mpr ⟨less, rfl, .inl ocsp⟩ with
              ⟨check, isCheck, below⟩
            exact exists_unwinds_of_delegates delegates isCheck below
        | @responderCrl less _ _ _ rest responder delegates panics =>
            rcases unwinds_delegatedCheck_iff.mpr ⟨less, rfl, .inr panics⟩ with
              ⟨check, isCheck, below⟩
            exact exists_unwinds_of_delegates delegates isCheck below

/-- A certificate's check unwinds exactly when something that it comes to does. -/
theorem unwinds_check_iff :
    (checkCertificateRevocationWithOcspContext crates signatures config
        validationTime context issuer cert).Unwinds wakes ↔
      Panics crates signatures config validationTime context issuer cert
        wakes := by
  rw [checkCertificateRevocationWithOcspContext, unwinds_mergedRevocation_iff,
    unwinds_runOcspCheck_iff, unwinds_runCrlCheck_iff, Panics]

end RitspLtv.Ltv.RevocationUnwinding
