import RitspLtv.Certificate

/-!
# Errors

The error values of the trust store, of revocation checking and of timestamp
verification, with their texts.  A `panicked` value is not an error of the
crate: it stands for a call that unwinds instead of returning.
-/

namespace RitspLtv

/-- Errors from trust store management. -/
inductive TrustError where
  | certificateParse (message : String)
  | notADirectory (path : String)
  | emptyChain
  | chainBroken (index : Nat) (expectedIssuer foundSubject : String)
  | notYetValid (index : Nat) (notBefore : Der.DateTime)
  | expired (index : Nat) (notAfter : Der.DateTime)
  | untrustedRoot (issuer : String)
  | signatureVerification (message : String)
  | profileViolation (message : String)
  | unsupportedAlgorithm (message : String)
  | weakAlgorithm (message : String)
  | io (message : String)
  deriving DecidableEq

/-- The `Display` form of a trust error. -/
def TrustError.display : TrustError → String
  | .certificateParse message => s!"certificate parse error: {message}"
  | .notADirectory path => s!"path is not a directory: {path}"
  | .emptyChain => "certificate chain is empty"
  | .chainBroken index expectedIssuer foundSubject =>
      s!"chain broken at index {index}: expected issuer {expectedIssuer}, found subject {foundSubject}"
  | .notYetValid index notBefore =>
      s!"certificate at index {index} is not yet valid (not_before: {notBefore.display})"
  | .expired index notAfter =>
      s!"certificate at index {index} is expired (not_after: {notAfter.display})"
  | .untrustedRoot issuer =>
      s!"untrusted root: no trust anchor found for issuer {issuer}"
  | .signatureVerification message =>
      s!"signature verification failed: {message}"
  | .profileViolation message => s!"certificate profile violation: {message}"
  | .unsupportedAlgorithm message =>
      s!"unsupported signature algorithm: {message}"
  | .weakAlgorithm message =>
      s!"weak/disabled signature algorithm rejected by policy: {message}"
  | .io message => s!"I/O error: {message}"

/-- Errors from OCSP, CRL and extension checks. -/
inductive LtvError where
  | crypto (message : String)
  | httpClient (message : String)
  | ocsp (message : String)
  | ocspResponderStatus (message : String)
  | crl (message : String)
  | x509Extension (message : String)
  | panicked (message : String)
  deriving DecidableEq

/-- The `Display` form of a revocation-checking error. -/
def LtvError.display : LtvError → String
  | .crypto message => message
  | .httpClient message => message
  | .ocsp message => s!"OCSP error: {message}"
  | .ocspResponderStatus message =>
      s!"OCSP responder returned non-successful status: {message}"
  | .crl message => s!"CRL error: {message}"
  | .x509Extension message =>
      s!"X.509 extension validation error: {message}"
  | .panicked message => message

/-- `DateTime + Duration` inside a revocation check. -/
def addOrPanic (instant : Chrono.DateTime) (duration : Chrono.Duration) :
    Except LtvError Chrono.DateTime :=
  match Chrono.addDuration instant duration with
  | some sum => .ok sum
  | none => .error (.panicked Chrono.additionOverflow)

/-- Errors from timestamp verification. -/
inductive TspError where
  | crypto (message : String)
  | invalidResponse (message : String)
  | verificationFailed (message : String)
  deriving DecidableEq

/-- The `Display` form of a timestamping error. -/
def TspError.display : TspError → String
  | .crypto message => message
  | .invalidResponse message => s!"invalid timestamp response: {message}"
  | .verificationFailed message =>
      s!"timestamp token verification failed: {message}"

end RitspLtv
