import RitspLtv.Certificate

/-!
# Certificate validation status

The four-valued status every revocation check reports, and the order in which
the statuses of two sources are resolved.
-/

namespace RitspLtv.Ltv.Status

open RitspLtv.Chrono

/-- Source of a revocation check result. -/
inductive RevocationSource where
  | crl
  | ocsp
  deriving DecidableEq, Repr

/-- The `Display` form of a source. -/
def RevocationSource.display : RevocationSource → String
  | .crl => "CRL"
  | .ocsp => "OCSP"

/-- Revocation reason code. -/
inductive RevocationReason where
  | unspecified
  | keyCompromise
  | caCompromise
  | affiliationChanged
  | superseded
  | cessationOfOperation
  | certificateHold
  | removeFromCrl
  | privilegeWithdrawn
  | aaCompromise
  | unknown (code : UInt8)
  deriving DecidableEq, Repr

namespace RevocationReason

/-- Parse a reason code from its integer value. -/
def fromCode (code : UInt8) : RevocationReason :=
  if code = 0 then .unspecified
  else if code = 1 then .keyCompromise
  else if code = 2 then .caCompromise
  else if code = 3 then .affiliationChanged
  else if code = 4 then .superseded
  else if code = 5 then .cessationOfOperation
  else if code = 6 then .certificateHold
  else if code = 8 then .removeFromCrl
  else if code = 9 then .privilegeWithdrawn
  else if code = 10 then .aaCompromise
  else .unknown code

/-- The `Display` form of a reason. -/
def display : RevocationReason → String
  | .unspecified => "unspecified"
  | .keyCompromise => "keyCompromise"
  | .caCompromise => "cACompromise"
  | .affiliationChanged => "affiliationChanged"
  | .superseded => "superseded"
  | .cessationOfOperation => "cessationOfOperation"
  | .certificateHold => "certificateHold"
  | .removeFromCrl => "removeFromCRL"
  | .privilegeWithdrawn => "privilegeWithdrawn"
  | .aaCompromise => "aACompromise"
  | .unknown code => s!"unknown({code.toNat})"

end RevocationReason

/-- Four-valued certificate validation status. -/
inductive ValidationStatus where
  | valid (source : RevocationSource) (checkedAt : DateTime)
  | revoked (source : RevocationSource) (reason : RevocationReason)
      (revocationTime : DateTime)
  | invalid (reason : String)
  | unknown (reason : String)
  deriving DecidableEq, Repr

namespace ValidationStatus

def isValid : ValidationStatus → Bool
  | .valid _ _ => true
  | _ => false

def isRevoked : ValidationStatus → Bool
  | .revoked _ _ _ => true
  | _ => false

def isInvalid : ValidationStatus → Bool
  | .invalid _ => true
  | _ => false

def isUnknown : ValidationStatus → Bool
  | .unknown _ => true
  | _ => false

/-- Priority in conflict resolution; higher takes precedence. -/
def priority : ValidationStatus → Nat
  | .revoked _ _ _ => 3
  | .valid _ _ => 2
  | .invalid _ => 1
  | .unknown _ => 0

/-- The `Display` form of a status. -/
def display (crates : Crates) : ValidationStatus → String
  | .valid source checkedAt =>
      s!"VALID (via {source.display}, checked at {crates.instantToString checkedAt})"
  | .revoked source reason revocationTime =>
      s!"REVOKED (via {source.display}, reason={reason.display}, time={crates.instantToString revocationTime})"
  | .invalid reason => s!"INVALID ({reason})"
  | .unknown reason => s!"UNKNOWN ({reason})"

end ValidationStatus

/-- Resolve two statuses by priority; the first one wins a tie. -/
def resolvePriority (a b : ValidationStatus) : ValidationStatus :=
  if a.priority ≥ b.priority then a else b

end RitspLtv.Ltv.Status
