import RitspLtv.Tsp.Response
import RitspLtv.Tsp.TokenSoundness

/-!
# Accepting a response

A client accepts a response that reports success, whose token verifies without
a trust store, and whose content is what was asked for.  Whoever verifies the
token later goes through the same checks and then the chain, so what a client
has accepted fails later only for its chain.
-/

namespace RitspLtv.Tsp.ResponseValidation

open RitspLtv.Foundation.Checks
open RitspLtv.RustStd
open RitspLtv.Crypto.Algorithm
open RitspLtv.Crypto.Verify
open RitspLtv.Trust.Store
open RitspLtv.Tsp.Cms
open RitspLtv.Tsp.Info
open RitspLtv.Tsp.Token
open RitspLtv.Tsp.Response

/-- `TspError` with the variants that only requests can end in. -/
inductive RequestError where
  | httpError (message : String)
  | tsaError (message : String)
  | tsp (error : TspError)
  | panicked (message : String)
  deriving DecidableEq

/-- Whether a token was issued. -/
def isSuccess : PkiStatus → Bool
  | .granted | .grantedWithMods => true
  | _ => false

/-- The `Display` form of a status. -/
def displayStatus : PkiStatus → String
  | .granted => "granted (0)"
  | .grantedWithMods => "grantedWithMods (1)"
  | .rejection => "rejection (2)"
  | .waiting => "waiting (3)"
  | .revocationWarning => "revocationWarning (4)"
  | .revocationNotification => "revocationNotification (5)"
  | .unknown v => s!"unknown ({v.toNat})"

/-- A status text in a message. -/
def statusText (s : Bytes) : String :=
  match scalars s with
  | .ok text => String.ofList (text.map Char.ofNat)
  | .error _ => ""

/-- What an authority says about a request it does not grant. -/
def refusal (resp : TimeStampResp) : String :=
  match resp.statusString with
  | some s =>
      s!"status={displayStatus resp.status}, message={statusText s}"
  | none => s!"status={displayStatus resp.status}"

/-- A requested policy must be that of the token. -/
def checkTstPolicy (actual : Option String)
    (expected : Option ObjectIdentifier) : Except TspError Unit :=
  match expected with
  | none => .ok ()
  | some expected =>
      rejectIf (actual ≠ some expected.toString)
        (.verificationFailed
          "timestamp policy does not match requested policy")

section Validation

variable (crates : CmsCrates) (signatures : Signatures)

/-- Check the token of a granted response against what was asked for. -/
def checkResponseToken (tokenDer expectedHash : Bytes)
    (expectedNonce : Option UInt64) (digestAlgorithm : DigestAlgorithm)
    (extraCerts : List Certificate)
    (expectedPolicy : Option ObjectIdentifier) : Except TspError Bytes := do
  let (_, tstInfo) ← verifyTokenCms crates signatures tokenDer extraCerts
  checkTstInfoMatches tstInfo expectedHash expectedNonce digestAlgorithm
  checkTstPolicy tstInfo.policyOid expectedPolicy
  pure tokenDer

/-- Validate a response to a request that may have asked for a policy. -/
def validateTimestampResponseForPolicy (resp : TimeStampResp)
    (expectedHash : Bytes) (expectedNonce : Option UInt64)
    (digestAlgorithm : DigestAlgorithm) (extraCerts : List Certificate)
    (expectedPolicy : Option ObjectIdentifier) :
    Except RequestError Bytes := do
  rejectIf (isSuccess resp.status = false) (.tsaError (refusal resp))
  match resp.tokenDer with
  | none =>
      .error
        (.tsp
          (.invalidResponse "no token in response despite success status"))
  | some tokenDer =>
      (checkResponseToken crates signatures tokenDer expectedHash expectedNonce
        digestAlgorithm extraCerts expectedPolicy).mapError .tsp

/-- Validate a response to a request without a policy. -/
def validateTimestampResponse (resp : TimeStampResp) (expectedHash : Bytes)
    (expectedNonce : Option UInt64) (digestAlgorithm : DigestAlgorithm)
    (extraCerts : List Certificate) : Except RequestError Bytes :=
  validateTimestampResponseForPolicy crates signatures resp expectedHash
    expectedNonce digestAlgorithm extraCerts none

end Validation

/-! ## What is accepted -/

/-- A policy that was asked for is that of the content. -/
def HasPolicy (info : TstInfo) (expected : Option ObjectIdentifier) : Prop :=
  ∀ policy ∈ expected, info.policyOid = some policy.toString

theorem checkTstPolicy_eq_ok_iff
    {info : TstInfo} {expected : Option ObjectIdentifier} :
    checkTstPolicy info.policyOid expected = .ok () ↔
      HasPolicy info expected := by
  cases expected with
  | none => simp [checkTstPolicy, HasPolicy]
  | some policy => simp [checkTstPolicy, HasPolicy]

section Acceptance

variable {crates : CmsCrates} {signatures : Signatures}
variable {resp : TimeStampResp} {expectedHash token : Bytes}
variable {expectedNonce : Option UInt64} {digestAlgorithm : DigestAlgorithm}
variable {extraCerts : List Certificate}
variable {expectedPolicy : Option ObjectIdentifier}

theorem checkResponseToken_eq_ok_iff {tokenDer : Bytes} :
    checkResponseToken crates signatures tokenDer expectedHash expectedNonce
        digestAlgorithm extraCerts expectedPolicy = .ok token ↔
      token = tokenDer ∧ ∃ verified info,
        verifyTokenCms crates signatures tokenDer extraCerts =
            .ok (verified, info) ∧
          checkTstInfoMatches info expectedHash expectedNonce
              digestAlgorithm = .ok () ∧
          HasPolicy info expectedPolicy := by
  simp only [checkResponseToken, bind_eq_ok, Prod.exists, exists_unit_eq_ok,
    checkTstPolicy_eq_ok_iff, pure_eq_ok]
  constructor
  · rintro ⟨verified, info, verification, matching, policy, rfl⟩
    exact ⟨rfl, verified, info, verification, matching, policy⟩
  · rintro ⟨rfl, verified, info, verification, matching, policy⟩
    exact ⟨verified, info, verification, matching, policy, rfl⟩

/-- The response is a success, and its token is what was asked for. -/
theorem validateTimestampResponseForPolicy_eq_ok_iff :
    validateTimestampResponseForPolicy crates signatures resp expectedHash
        expectedNonce digestAlgorithm extraCerts expectedPolicy = .ok token ↔
      isSuccess resp.status = true ∧ resp.tokenDer = some token ∧
        ∃ verified info,
          verifyTokenCms crates signatures token extraCerts =
              .ok (verified, info) ∧
            checkTstInfoMatches info expectedHash expectedNonce
                digestAlgorithm = .ok () ∧
            HasPolicy info expectedPolicy := by
  simp only [validateTimestampResponseForPolicy, bind_eq_ok,
    rejectIf_eq_ok, exists_const, Bool.not_eq_false]
  apply and_congr_right
  intro _
  cases resp.tokenDer with
  | none => simp
  | some tokenDer =>
      simp only [mapError_eq_ok, checkResponseToken_eq_ok_iff,
        Option.some.injEq]
      constructor
      · rintro ⟨rfl, accepted⟩
        exact ⟨rfl, accepted⟩
      · rintro ⟨rfl, accepted⟩
        exact ⟨rfl, accepted⟩

/-- Without a store, verification is the checks that a client makes. -/
theorem verifyTimestampToken_none_eq_ok_iff
    {time : Option Der.DateTime} {info : TstInfo} :
    verifyTimestampToken crates signatures token expectedHash digestAlgorithm
        expectedNonce none time extraCerts = .ok info ↔
      ∃ verified,
        verifyTokenCms crates signatures token extraCerts =
            .ok (verified, info) ∧
          checkTstInfoMatches info expectedHash expectedNonce
              digestAlgorithm = .ok () := by
  simp only [verifyTimestampToken, bind_eq_ok, Prod.exists,
    exists_unit_eq_ok, pure_eq_ok]
  constructor
  · rintro ⟨verified, _, verification, matching, rfl⟩
    exact ⟨verified, verification, matching⟩
  · rintro ⟨verified, verification, matching⟩
    exact ⟨verified, info, verification, matching, rfl⟩

/-- An expected nonce is that of the content. -/
theorem nonce_of_checkTstInfoMatches
    {info : TstInfo} {nonce : UInt64}
    (matching :
      checkTstInfoMatches info expectedHash (some nonce) digestAlgorithm =
        .ok ()) :
    info.nonce = some nonce := by
  simp only [checkTstInfoMatches, bind_eq_ok, rejectIf_eq_ok, exists_const]
    at matching
  have same := matching.2.2
  cases carried : info.nonce with
  | none => simp [carried, checkNonce] at same
  | some actual =>
      simp only [carried, checkNonce, rejectIf_eq_ok, not_not] at same
      rw [same]

/-- The content is about the hash, under the algorithm. -/
theorem imprint_of_checkTstInfoMatches
    {info : TstInfo}
    (matching :
      checkTstInfoMatches info expectedHash expectedNonce digestAlgorithm =
        .ok ()) :
    info.messageHash = expectedHash ∧
      info.hashAlgorithm = digestAlgorithm := by
  simp only [checkTstInfoMatches, bind_eq_ok, rejectIf_eq_ok, exists_const,
    not_not] at matching
  exact ⟨matching.1, matching.2.1⟩

/-- A verifier that knows less about the request accepts as well. -/
theorem checkTstInfoMatches_none
    {info : TstInfo}
    (matching :
      checkTstInfoMatches info expectedHash expectedNonce digestAlgorithm =
        .ok ()) :
    checkTstInfoMatches info expectedHash none digestAlgorithm = .ok () := by
  simp only [checkTstInfoMatches, bind_eq_ok, rejectIf_eq_ok, exists_const]
    at matching ⊢
  exact ⟨matching.1, matching.2.1, rfl⟩

/--
A client accepts exactly what reports success and verifies without a trust
store, under the policy that was asked for.  Verifying what it has accepted
against any store and at any time, with the nonce or without it, then comes down
to the chain of the signer.
-/
theorem validateTimestampResponse_agrees :
    (∀ token,
      validateTimestampResponseForPolicy crates signatures resp expectedHash
          expectedNonce digestAlgorithm extraCerts expectedPolicy =
          .ok token ↔
        isSuccess resp.status = true ∧ resp.tokenDer = some token ∧
          ∃ info,
            verifyTimestampToken crates signatures token expectedHash
                digestAlgorithm expectedNonce none none extraCerts =
                .ok info ∧
              HasPolicy info expectedPolicy) ∧
      ∀ token,
        validateTimestampResponseForPolicy crates signatures resp expectedHash
            expectedNonce digestAlgorithm extraCerts expectedPolicy =
            .ok token →
          ∃ verified info,
            verifyTokenCms crates signatures token extraCerts =
                .ok (verified, info) ∧
              ∀ nonce, nonce = expectedNonce ∨ nonce = none →
                ∀ store time,
                  verifyTimestampToken crates signatures token expectedHash
                      digestAlgorithm nonce (some store) time extraCerts =
                    (checkSignerChain crates signatures store verified info
                      time).map fun _ => info := by
  constructor
  · intro token
    rw [validateTimestampResponseForPolicy_eq_ok_iff]
    apply and_congr_right
    intro _
    apply and_congr_right
    intro _
    simp only [verifyTimestampToken_none_eq_ok_iff]
    constructor
    · rintro ⟨verified, info, verification, matching, policy⟩
      exact ⟨info, ⟨verified, verification, matching⟩, policy⟩
    · rintro ⟨info, ⟨verified, verification, matching⟩, policy⟩
      exact ⟨verified, info, verification, matching, policy⟩
  · intro token accepted
    rcases validateTimestampResponseForPolicy_eq_ok_iff.mp accepted with
      ⟨_, _, verified, info, verification, matching, _⟩
    refine ⟨verified, info, verification, ?_⟩
    intro nonce known store time
    have matches_nonce :
        checkTstInfoMatches info expectedHash nonce digestAlgorithm =
          .ok () := by
      rcases known with rfl | rfl
      · exact matching
      · exact checkTstInfoMatches_none matching
    simp only [verifyTimestampToken, verification, matches_nonce, ok_bind]
    cases checkSignerChain crates signatures store verified info time with
    | error error => rfl
    | ok done => rfl

end Acceptance

end RitspLtv.Tsp.ResponseValidation
