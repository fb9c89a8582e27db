import RitspLtv.Crypto.WeakDigests
import RitspLtv.Ltv.OcspSoundness
import RitspLtv.Trust.ChainSoundness

/-!
# Weak digests on an OCSP certificate path

The signatures that a path rests on are those between a certificate and the next
one, and that of a root which the chain brings with it.  The path check verifies
all of them under one policy, the stricter of the caller's and the store's; so
one over a weak digest is accepted only when both allow it.
-/

namespace RitspLtv.Ltv.OcspPathPolicy

open RitspLtv.Foundation.Checks
open RitspLtv.RustStd
open RitspLtv.Chrono
open RitspLtv.Crypto.Verify
open RitspLtv.Crypto.Provider
open RitspLtv.Crypto.WeakDigests
open RitspLtv.Ltv.Ocsp
open RitspLtv.Ltv.OcspSoundness
open RitspLtv.Ltv.X509Ext
open RitspLtv.Trust.Store
open RitspLtv.Trust.ChainSoundness

/-! ## The stricter of two policies -/

theorem legacyAllowed_effectivePolicy (policy storePolicy : SignaturePolicy) :
    (effectivePolicy policy storePolicy).legacyAllowed = true ↔
      policy.legacyAllowed = true ∧ storePolicy.legacyAllowed = true := by
  rw [effectivePolicy, ← Bool.and_eq_true]
  split
  · next both =>
      rw [both]
      exact iff_of_true rfl rfl
  · next notBoth => exact iff_of_false Bool.false_ne_true notBoth

/-- The path check accepts a chain, under the stricter policy, at this anchor. -/
def AcceptedAt (crates : Crates) (signatures : Signatures)
    (chain : List Certificate) (store : TrustStore) (role : CertRole)
    (policy : SignaturePolicy) (now : DateTime) (anchor : Certificate) : Prop :=
  ∃ time,
    ocspPathTime now = .ok time ∧
      (store.withSignaturePolicy
          (effectivePolicy policy
            store.signaturePolicy)).verifyChainForPurposeWithFraction
        crates signatures chain time role
        (decide (DateTime.nanosecond now ≠ 0)) = .ok anchor

theorem exists_acceptedAt_of_validate
    {crates : Crates} {signatures : Signatures} {chain : List Certificate}
    {store : TrustStore} {role : CertRole} {policy : SignaturePolicy}
    {now : DateTime}
    (validated :
      validateOcspCertificatePath crates signatures chain store role policy
        now = .ok ()) :
    ∃ anchor,
      AcceptedAt crates signatures chain store role policy now anchor := by
  rcases pathVerifies_of_validate validated with ⟨time, atTime, anchor, verified⟩
  exact ⟨anchor, time, atTime, verified⟩

/-! ## The signatures of a path -/

/-- A signature that the path of a chain to an anchor rests on. -/
inductive PathSignature (crates : Crates) (store : TrustStore)
    (chain : List Certificate) (anchor : Certificate) :
    Certificate → Certificate → Prop where
  /-- A certificate of the full path is signed by the next one. -/
  | link (i : Nat) (child issuer : Certificate)
      (childPresent : (fullPath crates store chain anchor)[i]? = some child)
      (issuerPresent :
        (fullPath crates store chain anchor)[i + 1]? = some issuer) :
      PathSignature crates store chain anchor child issuer
  /-- A root of the store that ends the chain is signed by itself. -/
  | root (last : Certificate)
      (lastPresent : chain.getLast? = some last)
      (ends : endsInStore crates store chain = true) :
      PathSignature crates store chain anchor last last

section Path

variable {Key Verifier : Type}
variable {legacyAlgorithms : Bool}
variable {crates : VerifyCrates} {backend : Backend Key Verifier}

variable (legacyAlgorithms crates backend) in
/-- One check decides, under a policy, on a certificate's signature, and passes. -/
def SignedBy (policy : SignaturePolicy) (child issuer : Certificate)
    (check : Check) : Prop :=
  ∃ tbs spkiDer,
    crates.tbsToDer child.tbsCertificate = .ok tbs ∧
    crates.spkiToDer issuer.tbsCertificate.subjectPublicKeyInfo =
      .ok spkiDer ∧
    DecidedBy legacyAlgorithms crates spkiDer child.signatureAlgorithm policy
      check ∧
    backend.Passes check tbs child.signature.rawBytes spkiDer

theorem signedBy_of_sigOk
    {policy : SignaturePolicy} {child issuer : Certificate}
    (signed :
      (Crypto.Provider.signatures legacyAlgorithms crates backend).SigOk policy
        child issuer) :
    ∃ check,
      SignedBy legacyAlgorithms crates backend policy child issuer check ∧
        (policy.legacyAllowed = true ∨ Strong check) := by
  simp only [Signatures.SigOk, Crypto.Provider.signatures,
    verifyCertificateSignatureWithPolicy, bind_eq_ok, rejectIf_eq_ok,
    exists_const, mapError_eq_ok] at signed
  rcases signed with ⟨_, tbs, encoded, spkiDer, keyEncoded, accepted⟩
  rcases decidedBy_of_accepted accepted with ⟨check, decided, passes, strong⟩
  exact ⟨check, ⟨tbs, spkiDer, encoded, keyEncoded, decided, passes⟩, strong⟩

/-- Every signature of an accepted chain verifies under the store's policy. -/
theorem sigOk_of_verifyChainInner
    {crates : Crates} {signatures : Signatures} {store : TrustStore}
    {chain : List Certificate} {validationTime : Option Der.DateTime}
    {leafPurpose : Option CertRole} {positiveFraction : Bool}
    {anchor : Certificate}
    (accepted :
      store.verifyChainInner crates signatures chain validationTime
          leafPurpose positiveFraction = .ok anchor)
    {child issuer : Certificate}
    (among : PathSignature crates store chain anchor child issuer) :
    signatures.SigOk store.signaturePolicy child issuer := by
  rcases exit_of_verifyChainInner accepted with
    ⟨leaf, last, _, lastPresent, certs, exit⟩
  cases among with
  | link i child issuer childPresent issuerPresent =>
      have valid := validPath_of_exit lastPresent certs exit
      exact valid.signed i child issuer childPresent issuerPresent
  | root _ sameLast ends =>
      rw [lastPresent, Option.some.injEq] at sameLast
      subst sameLast
      exact selfSigned_of_exit lastPresent ends exit

/-- The signatures of a path depend on the store through its anchors only. -/
theorem pathSignature_withSignaturePolicy
    {crates : Crates} {store : TrustStore} {policy : SignaturePolicy}
    {chain : List Certificate} {anchor child issuer : Certificate}
    (among : PathSignature crates store chain anchor child issuer) :
    PathSignature crates (store.withSignaturePolicy policy) chain anchor child
      issuer := by
  cases among with
  | link i child issuer childPresent issuerPresent =>
      exact .link i child issuer childPresent issuerPresent
  | root _ lastPresent ends => exact .root child lastPresent ends

/-- The signatures of an accepted path are strong, unless both policies are legacy. -/
theorem strong_of_acceptedAt
    {chain : List Certificate} {store : TrustStore} {role : CertRole}
    {policy : SignaturePolicy} {now : DateTime}
    {anchor child issuer : Certificate}
    (accepted :
      AcceptedAt crates.toCrates
        (Crypto.Provider.signatures legacyAlgorithms crates backend) chain
        store role policy now anchor)
    (among : PathSignature crates.toCrates store chain anchor child issuer) :
    ∃ check,
      SignedBy legacyAlgorithms crates backend
        (effectivePolicy policy store.signaturePolicy) child issuer check ∧
      (policy.legacyAllowed = true ∧
          store.signaturePolicy.legacyAllowed = true ∨
        Strong check) := by
  rcases accepted with ⟨time, _, verified⟩
  rw [TrustStore.verifyChainForPurposeWithFraction] at verified
  have signed :=
    sigOk_of_verifyChainInner verified (pathSignature_withSignaturePolicy among)
  rcases signedBy_of_sigOk signed with ⟨check, decided, strong⟩
  refine ⟨check, decided, ?_⟩
  rw [← legacyAllowed_effectivePolicy]
  exact strong

end Path

/-! ## Weak digests -/

/--
Weak digests are accepted only by opting in.  What the strict policy accepts is
decided by one check of the provider, which is strong and passes, and the legacy
policy accepts it too.  When a certificate path is accepted for an OCSP check, one
check decides on every signature it rests on, and passes; unless it is strong, the
caller's policy and the store's policy both allow legacy signatures.
-/
theorem weak_digests_opt_in
    {Key Verifier : Type}
    (legacyAlgorithms : Bool)
    (crates : VerifyCrates)
    (backend : Backend Key Verifier) :
    (∀ tbs signature spkiDer algorithm,
      verifySignatureByAlgidWithPolicy legacyAlgorithms crates backend tbs
          signature spkiDer algorithm .strict = .ok () →
        (∃ check,
          DecidedBy legacyAlgorithms crates spkiDer algorithm .strict check ∧
            Strong check ∧ backend.Passes check tbs signature spkiDer) ∧
          verifySignatureByAlgidWithPolicy legacyAlgorithms crates backend tbs
              signature spkiDer algorithm .legacy = .ok ()) ∧
      ∀ chain store role policy now,
        validateOcspCertificatePath crates.toCrates
            (Crypto.Provider.signatures legacyAlgorithms crates backend) chain
            store role policy now = .ok () →
          ∃ anchor,
            AcceptedAt crates.toCrates
                (Crypto.Provider.signatures legacyAlgorithms crates backend)
                chain store role policy now anchor ∧
              ∀ child issuer,
                PathSignature crates.toCrates store chain anchor child
                    issuer →
                  ∃ check,
                    SignedBy legacyAlgorithms crates backend
                      (effectivePolicy policy store.signaturePolicy) child
                      issuer check ∧
                    (policy.legacyAllowed = true ∧
                        store.signaturePolicy.legacyAllowed = true ∨
                      Strong check) := by
  constructor
  · intro tbs signature spkiDer algorithm accepted
    exact ⟨strong_of_strict accepted, legacy_of_accepted accepted⟩
  · intro chain store role policy now validated
    rcases exists_acceptedAt_of_validate validated with ⟨anchor, accepted⟩
    refine ⟨anchor, accepted, ?_⟩
    intro child issuer among
    exact strong_of_acceptedAt accepted among

/-- `sha256WithRSAEncryption`. -/
def sha256WithRsa : AlgorithmIdentifier :=
  ⟨.newUnwrap [1, 2, 840, 113549, 1, 1, 11], none⟩

/-- A certificate of the reference PKI, signed with RSA. -/
def rsaSigned (cert : Certificate) : Certificate where
  tbsCertificate := { cert.tbsCertificate with signature := sha256WithRsa }
  signatureAlgorithm := sha256WithRsa
  signature := cert.signature

def rsaRoot : Certificate :=
  rsaSigned Reference.root

def rsaResponder : Certificate :=
  rsaSigned Reference.responder

/-- A store that trusts this root, and would accept legacy signatures. -/
def rsaStore : TrustStore where
  anchors := [⟨rsaRoot, Reference.encodeCertificate rsaRoot⟩]
  label := none
  signaturePolicy := .legacy

/-- The reference crates, which can encode what a certificate is signed over. -/
def rsaCrates : VerifyCrates where
  toCrates := Reference.crates Reference.known
  spkiFromDer _ := .error "not an SPKI"
  namedCurveFromAny _ := .error "not an OBJECT IDENTIFIER"
  anyToDer value := .ok (Reference.encodeAny value)
  rsaPssFieldsFromDer _ := .error "not RSASSA-PSS-params"
  tbsToDer tbs := .ok (Reference.encodeTbsCertificate tbs)
  debugParameters _ := "None"

/-- A responder and its root, for a caller that accepts no legacy signatures. -/
theorem weak_digests_opt_in_responder :
    ∃ anchor,
      AcceptedAt rsaCrates.toCrates
          (Crypto.Provider.signatures false rsaCrates acceptAll)
          [rsaResponder, rsaRoot] rsaStore .ocspResponder .strict
          Reference.checkedAt anchor ∧
        ∀ child issuer,
          PathSignature rsaCrates.toCrates rsaStore [rsaResponder, rsaRoot]
              anchor child issuer →
            ∃ check,
              SignedBy false rsaCrates acceptAll
                (effectivePolicy .strict rsaStore.signaturePolicy) child
                issuer check ∧
              (SignaturePolicy.strict.legacyAllowed = true ∧
                  rsaStore.signaturePolicy.legacyAllowed = true ∨
                Strong check) :=
  (weak_digests_opt_in false rsaCrates acceptAll).2 [rsaResponder, rsaRoot]
    rsaStore .ocspResponder .strict Reference.checkedAt (by decide +kernel)

end RitspLtv.Ltv.OcspPathPolicy
