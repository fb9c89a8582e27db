import RitspLtv.Foundation.Polling
import RitspLtv.Ltv.Crl
import RitspLtv.Ltv.Ocsp
import RitspLtv.Ltv.Urls

/-!
# The revocation orchestrator

A certificate is checked by OCSP and by CRL concurrently, under a deadline, and
a delegated OCSP responder is checked in the same way one nesting level below.
What the network delivers, and which timers have elapsed, is part of the wake
at which the check is polled.
-/

namespace RitspLtv.Ltv.Revocation

open RitspLtv.Foundation.Polling
open RitspLtv.RustStd
open RitspLtv.Chrono
open RitspLtv.Crypto.Verify
open RitspLtv.Trust.Store
open RitspLtv.Ltv.Status
open RitspLtv.Ltv.Ocsp
open RitspLtv.Ltv.Crl
open RitspLtv.Ltv.Urls

/-! ## Configuration -/

/-- `std::time::Duration`: a number of nanoseconds. -/
abbrev StdDuration := Nat

namespace StdDuration

/-- The digits of a fraction, without trailing zeros. -/
def fraction (width value : Nat) : String :=
  let digits := value.repr.toList
  let padded := List.replicate (width - digits.length) '0' ++ digits
  let significant := (padded.reverse.dropWhile (· == '0')).reverse
  if significant = [] then "" else "." ++ String.ofList significant

/-- The `Debug` form of a duration. -/
def debug (duration : StdDuration) : String :=
  if 1000000000 ≤ duration then
    (duration / 1000000000).repr ++
      fraction 9 (duration % 1000000000) ++ "s"
  else if 1000000 ≤ duration then
    (duration / 1000000).repr ++ fraction 6 (duration % 1000000) ++ "ms"
  else if 1000 ≤ duration then
    (duration / 1000).repr ++ fraction 3 (duration % 1000) ++ "µs"
  else duration.repr ++ "ns"

/-- `Duration::from_secs`. -/
def fromSecs (count : Nat) : StdDuration := count * 1000000000

end StdDuration

/-- Configuration for revocation checking. -/
structure RevocationConfig where
  preferOcsp : Bool
  requireRevocationCheck : Bool
  ocspTimeout : StdDuration
  crlTimeout : StdDuration
  useOcspNonce : Bool
  maxOcspRecursion : Nat
  perCertTimeout : StdDuration
  signaturePolicy : SignaturePolicy
  ocspFreshness : OcspFreshness
  crlFreshness : CrlFreshness

namespace RevocationConfig

def default : RevocationConfig where
  preferOcsp := true
  requireRevocationCheck := true
  ocspTimeout := .fromSecs 3
  crlTimeout := .fromSecs 7
  useOcspNonce := true
  maxOcspRecursion := 1
  perCertTimeout := .fromSecs 10
  signaturePolicy := .strict
  ocspFreshness := .default
  crlFreshness := .default

/-- Revocation checking is best effort. -/
def disabled : RevocationConfig :=
  { default with requireRevocationCheck := false }

/-- Shorter timeouts. -/
def strict : RevocationConfig :=
  { default with
    ocspTimeout := .fromSecs 2
    crlTimeout := .fromSecs 5
    perCertTimeout := .fromSecs 8 }

end RevocationConfig

/-- Additional OCSP validation policy. -/
structure OcspValidationContext where
  issuerPath : Option (List Certificate × TrustStore)
  requireNonce : Bool

/-! ## What a wake finds -/

/-- What a fetch has come to, and the wall clock when it is looked at. -/
structure Fetched (α : Type) where
  result : Except LtvError α
  utcNow : DateTime

/-- Relabel what has been fetched. -/
def Fetched.map {α β : Type} (transform : α → β) (fetched : Fetched α) :
    Fetched β :=
  ⟨fetched.result.map transform, fetched.utcNow⟩

/--
What there is at one wake of the executor, at every nesting level: the fetches
that have come to an end and the timers that have elapsed.
-/
structure Wake where
  ocspResponse : Nat → Option (Fetched Bytes)
  ocspResponseWithNonce : Nat → Option (Fetched (Bytes × Bytes))
  ocspElapsed : Nat → Bool
  crls : Nat → Option (Fetched (List Bytes))
  crlElapsed : Nat → Bool
  deadline : Nat → Bool

/-- An OCSP check is performed at a nesting level. -/
structure OcspChecked where
  level : Nat
  deriving DecidableEq, Repr

/-- A check of one source, or of a certificate. -/
abbrev StatusTask := Task OcspChecked Wake ValidationStatus

/-! ## Merging and policy -/

def mergePreferred (ocsp crl : ValidationStatus) (preferOcsp : Bool) :
    ValidationStatus :=
  if preferOcsp then resolvePriority ocsp crl else resolvePriority crl ocsp

/-- Under a strict policy a status that is not known is invalid. -/
def enforceRevocationPolicy (status : ValidationStatus)
    (requireRevocationCheck : Bool) : ValidationStatus :=
  if requireRevocationCheck = false then status
  else
    match status with
    | .unknown reason =>
        .invalid
          s!"revocation check required but status could not be established: {reason}"
    | other => other

/-- A responder that is unavailable decides nothing; any other failure does. -/
def ocspCheckErrorToStatus (e : LtvError) : ValidationStatus :=
  match e with
  | .ocspResponderStatus _ =>
      .unknown s!"OCSP responder unavailable: {e.display}"
  | other =>
      .invalid s!"OCSP response failed validation: {other.display}"

/-- A status for an error, unless the call has unwound. -/
def settleError (e : LtvError) (status : LtvError → ValidationStatus) :
    StatusTask :=
  match e with
  | .panicked message => .unwind message
  | e => .now (status e)

section Checks

variable (crates : Crates) (signatures : Signatures)
variable (config : RevocationConfig)
variable (validationTime : Option DateTime)
variable (context : OcspValidationContext)
variable (issuer : Certificate)

/-! ## Collecting -/

/-- What both sources have completed with when the deadline of a level passes. -/
def collectRevocationResults (ocsp crl : StatusTask) (level : Nat) :
    Task OcspChecked Wake (ValidationStatus × ValidationStatus) :=
  .map
    (fun (ocspStatus, crlStatus) =>
      (ocspStatus.getD (.unknown "OCSP check timed out"),
        crlStatus.getD (.unknown "CRL check timed out")))
    (.collect (fun wake => wake.deadline level) ocsp crl)

/-- The merged result of two sources, under the policy. -/
def mergedRevocation (ocsp crl : StatusTask) (level : Nat) : StatusTask :=
  .map
    (fun (ocspStatus, crlStatus) =>
      enforceRevocationPolicy
        (mergePreferred ocspStatus crlStatus config.preferOcsp)
        config.requireRevocationCheck)
    (collectRevocationResults ocsp crl level)

/-- The value of a check, or a status when its timer has elapsed. -/
def withTimeout (elapsed : Wake → Bool) (timedOut : String)
    (check : StatusTask) : StatusTask :=
  .map (fun result => result.getD (.unknown timedOut))
    (.timeout elapsed check)

/-! ## The OCSP check -/

/-- The OCSP response of a level, with the nonce of its request if it has one. -/
def fetchedOcsp (level : Nat) (wake : Wake) :
    Option (Fetched (Bytes × Option Bytes)) :=
  if config.useOcspNonce then
    (wake.ocspResponseWithNonce level).map
      (.map fun (der, nonce) => (der, some nonce))
  else
    (wake.ocspResponse level).map (.map fun der => (der, none))

/-- Check a response, behind the issuer's path when there is one. -/
def checkOcspResponse (cert : Certificate) (utcNow : DateTime)
    (responseDer : Bytes) (nonce : Option Bytes) :
    Except LtvError OcspCheckOutcome :=
  match context.issuerPath with
  | some (path, store) =>
      checkRevocationDetailedWithIssuerPath crates signatures utcNow
        responseDer cert issuer nonce validationTime config.signaturePolicy
        config.ocspFreshness path store context.requireNonce
  | none =>
      checkRevocationDetailedWithNoncePolicy crates signatures utcNow
        responseDer cert issuer nonce validationTime config.signaturePolicy
        config.ocspFreshness context.requireNonce

/-- A responder that is revoked or invalid invalidates its response. -/
def afterResponder (status responderStatus : ValidationStatus) :
    ValidationStatus :=
  if responderStatus.isRevoked || responderStatus.isInvalid then
    .invalid
      s!"delegated OCSP responder certificate could not be confirmed unrevoked: {responderStatus.display crates}"
  else status

/-- The status of a response, once its delegated responder has been checked. -/
def checkResponder (checkDelegated : Option (Certificate → StatusTask))
    (outcome : OcspCheckOutcome) : StatusTask :=
  match outcome.delegatedResponder with
  | none => .now outcome.status
  | some responder =>
      match checkDelegated with
      | none =>
          .now
            (.invalid
              "delegated OCSP responder lacks id-pkix-ocsp-nocheck and responder-revocation checking is disabled (max_ocsp_recursion = 0)")
      | some check =>
          .map (afterResponder crates outcome.status) (check responder)

/-- The status of a response that has been fetched, or of a failure to fetch one. -/
def classifyOcsp (checkDelegated : Option (Certificate → StatusTask))
    (cert : Certificate) (fetched : Fetched (Bytes × Option Bytes)) :
    StatusTask :=
  match fetched.result with
  | .error e =>
      settleError e fun e => .unknown s!"OCSP fetch failed: {e.display}"
  | .ok (responseDer, nonce) =>
      match
        checkOcspResponse crates signatures config validationTime context
          issuer cert fetched.utcNow responseDer nonce
      with
      | .error e => settleError e ocspCheckErrorToStatus
      | .ok outcome => checkResponder crates checkDelegated outcome

/-- The OCSP check of a level, given the check of a delegated responder if there is budget for one. -/
def ocspCheck (checkDelegated : Option (Certificate → StatusTask))
    (level : Nat) (cert : Certificate) : StatusTask :=
  if context.requireNonce = true ∧ config.useOcspNonce = false then
    .now (.invalid "strict OCSP nonce policy requires use_ocsp_nonce")
  else if extractOcspUrls cert = [] then
    .now (.unknown "no OCSP responder URL available")
  else
    withTimeout (fun wake => wake.ocspElapsed level)
      s!"OCSP check timed out after {config.ocspTimeout.debug}"
      (.andThen (.arrival (fetchedOcsp config level))
        (classifyOcsp crates signatures config validationTime context issuer
          checkDelegated cert))

/-! ## The CRL check -/

/-- The status of the CRLs that have been fetched; the first one is checked. -/
def classifyCrl (cert : Certificate) (fetched : Fetched (List Bytes)) :
    StatusTask :=
  match fetched.result with
  | .error e =>
      settleError e fun e => .unknown s!"CRL fetch failed: {e.display}"
  | .ok [] => .now (.unknown "no CRLs could be fetched")
  | .ok (crl :: _) =>
      match
        checkRevocationWithOptions crates signatures fetched.utcNow crl cert
          issuer validationTime config.signaturePolicy config.crlFreshness
      with
      | .ok status => .now status
      | .error e =>
          settleError e fun e =>
            .invalid s!"CRL validation failed: {e.display}"

def runCrlCheck (level : Nat) (cert : Certificate) : StatusTask :=
  if extractCrlUrls cert = [] then
    .now (.unknown "no CRL distribution points available")
  else
    withTimeout (fun wake => wake.crlElapsed level)
      s!"CRL check timed out after {config.crlTimeout.debug}"
      (.andThen (.arrival fun wake => wake.crls level)
        (classifyCrl crates signatures config validationTime issuer cert))

/-! ## Recursion -/

/-- The check of a delegated responder at a level, given its OCSP check. -/
def checkDelegatedResponderRevocation (ocspFut : StatusTask) (level : Nat)
    (responder : Certificate) : StatusTask :=
  mergedRevocation config ocspFut
    (runCrlCheck crates signatures config validationTime issuer level
      responder)
    level

/--
The OCSP check of a level, with the recursion budget that is left.  A delegated
responder is checked against the same issuer, one level below and with one less.
-/
def runOcspCheck : Nat → Nat → Certificate → StatusTask
  | 0, level, cert =>
      .andThen (.emit ⟨level⟩) fun _ =>
        ocspCheck crates signatures config validationTime context issuer none
          level cert
  | budget + 1, level, cert =>
      .andThen (.emit ⟨level⟩) fun _ =>
        ocspCheck crates signatures config validationTime context issuer
          (some fun responder =>
            checkDelegatedResponderRevocation crates signatures config
              validationTime issuer (runOcspCheck budget (level + 1) responder)
              (level + 1) responder)
          level cert

/-- Check a certificate's revocation status by OCSP and CRL. -/
def checkCertificateRevocationWithOcspContext (cert : Certificate) :
    StatusTask :=
  mergedRevocation config
    (runOcspCheck crates signatures config validationTime context issuer
      config.maxOcspRecursion 0 cert)
    (runCrlCheck crates signatures config validationTime issuer 0 cert) 0

end Checks

end RitspLtv.Ltv.Revocation
