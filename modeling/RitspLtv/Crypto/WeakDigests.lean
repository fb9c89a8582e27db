import RitspLtv.Crypto.Provider

/-!
# Weak digests under a policy

An algorithm identifier comes down to one check of the provider, or to none, and
the policy only decides whether an identifier with a weak digest gets that far.
So what is accepted under the strict policy is a check with a strong digest, and
the legacy policy accepts it as well.
-/

namespace RitspLtv.Crypto.WeakDigests

open RitspLtv.Foundation.Checks
open RitspLtv.RustStd
open RitspLtv.Crypto.Verify
open RitspLtv.Crypto.Provider

/-- The check uses SHA-256, SHA-384 or SHA-512, or is one of Ed25519. -/
def Strong (check : Check) : Prop :=
  check.signatureAlgorithm = .ed25519 ∨
    ∃ hash ∈ [SignatureHash.sha256, .sha384, .sha512],
      check.signatureAlgorithm.hash = some hash

section Check

variable (legacyAlgorithms : Bool) (crates : VerifyCrates) (spkiDer : Bytes)
variable (algorithm : AlgorithmIdentifier) (policy : SignaturePolicy)

/-- The one check that an algorithm identifier comes down to, if any. -/
def algidCheck : Option Check :=
  if algorithm.oid = oidRsassaPss then
    (rsaPssCheck crates algorithm.parameters).toOption.map Prod.snd
  else
    (schemeOfOid algorithm.oid).bind
      (schemeCheck legacyAlgorithms crates spkiDer)

/-- With every provider, a signature is accepted when this check passes. -/
def DecidedBy (check : Check) : Prop :=
  ∀ (Key Verifier : Type) (backend : Backend Key Verifier)
    (tbs signature : Bytes),
    verifySignatureByAlgidWithPolicy legacyAlgorithms crates backend tbs
        signature spkiDer algorithm policy = .ok () ↔
      backend.Passes check tbs signature spkiDer

end Check

section Policy

variable {Key Verifier : Type}
variable {legacyAlgorithms : Bool}
variable {crates : VerifyCrates} {backend : Backend Key Verifier}
variable {tbs signature spkiDer : Bytes}
variable {algorithm : AlgorithmIdentifier} {policy : SignaturePolicy}
variable {check : Check}

/-- The dispatcher and the list of weak identifiers cover every entry. -/
theorem schemes_weak_or_strong :
    ∀ entry ∈ schemes,
      (entry.2 = .rsaPss → entry.1 = oidRsassaPss) ∧
        (isWeakSignatureOid entry.1 = true ∨ entry.2 = .rsaPss ∨
          entry.2 = .ed25519 ∨
          ∃ hash ∈ [SignatureHash.sha256, .sha384, .sha512],
            entry.2.hash = some hash) := by
  decide

theorem verifySignatureByOidWithPolicy_eq_ok_iff
    {oid : ObjectIdentifier} (notPss : oid ≠ oidRsassaPss) :
    verifySignatureByOidWithPolicy legacyAlgorithms crates backend tbs
        signature spkiDer oid policy = .ok () ↔
      (policy.allowLegacy = true ∨ isWeakSignatureOid oid = false) ∧
        ∃ check,
          (schemeOfOid oid).bind
              (schemeCheck legacyAlgorithms crates spkiDer) =
            some check ∧
          backend.Passes check tbs signature spkiDer := by
  have permitted :
      ¬ (policy.allowLegacy = false ∧ isWeakSignatureOid oid = true) ↔
        policy.allowLegacy = true ∨ isWeakSignatureOid oid = false := by
    cases policy.allowLegacy <;> simp
  simp only [verifySignatureByOidWithPolicy, bind_eq_ok, rejectIf_eq_ok,
    exists_const, permitted]
  apply and_congr_right
  intro _
  cases found : schemeOfOid oid with
  | none => simp
  | some scheme =>
      have table :=
        schemes_weak_or_strong _ (mem_schemes_of_schemeOfOid found)
      simp only [Option.bind_some]
      exact verifyScheme_eq_ok_iff (fun pss => notPss (table.1 pss))

/-- A signature is accepted when its identifier may be used and its check passes. -/
theorem verifySignatureByAlgidWithPolicy_eq_ok_iff :
    verifySignatureByAlgidWithPolicy legacyAlgorithms crates backend tbs
        signature spkiDer algorithm policy = .ok () ↔
      (policy.allowLegacy = true ∨
          isWeakSignatureOid algorithm.oid = false) ∧
        ∃ check,
          algidCheck legacyAlgorithms crates spkiDer algorithm = some check ∧
            backend.Passes check tbs signature spkiDer := by
  rw [verifySignatureByAlgidWithPolicy, algidCheck]
  by_cases pss : algorithm.oid = oidRsassaPss
  · have notWeak : isWeakSignatureOid algorithm.oid = false := by
      rw [pss]
      decide
    rw [if_pos pss, if_pos pss, and_iff_right (Or.inr notWeak), map_eq_ok_iff]
    simp only [verifyRsaPssSignatureStrict_eq_ok_iff, and_true,
      Option.map_eq_some_iff, toOption_eq_some_iff, Prod.exists]
    constructor
    · rintro ⟨hash, check, selected, passes⟩
      exact ⟨check, ⟨hash, check, selected, rfl⟩, passes⟩
    · rintro ⟨check, ⟨hash, other, selected, rfl⟩, passes⟩
      exact ⟨hash, other, selected, passes⟩
  · rw [if_neg pss, if_neg pss]
    exact verifySignatureByOidWithPolicy_eq_ok_iff pss

/-- The check of an identifier without a weak digest is strong. -/
theorem strong_of_algidCheck
    (notWeak : isWeakSignatureOid algorithm.oid = false)
    (chosen :
      algidCheck legacyAlgorithms crates spkiDer algorithm = some check) :
    Strong check := by
  rw [algidCheck] at chosen
  by_cases pss : algorithm.oid = oidRsassaPss
  · rw [if_pos pss, Option.map_eq_some_iff] at chosen
    rcases chosen with ⟨⟨hash, found⟩, selected, rfl⟩
    rw [toOption_eq_some_iff] at selected
    rcases params_of_rsaPssCheck selected with
      ⟨params, backendHash, _, _, supported, rfl⟩
    refine Or.inr ⟨backendHash, ?_, rfl⟩
    cases hash <;> cases supported <;> decide
  · rw [if_neg pss, Option.bind_eq_some_iff] at chosen
    rcases chosen with ⟨scheme, found, chosen⟩
    have table := schemes_weak_or_strong _ (mem_schemes_of_schemeOfOid found)
    rcases table.2 with weak | isPss | isEd25519 | ⟨hash, strong, same⟩
    · rw [notWeak] at weak
      cases weak
    · exact absurd (table.1 isPss) pss
    · simp only at isEd25519
      subst isEd25519
      cases chosen
      exact Or.inl rfl
    · exact Or.inr ⟨hash, strong, (hash_of_schemeCheck chosen).trans same⟩

/-- What a policy accepts is decided by one check, strong unless weak ones are allowed. -/
theorem decidedBy_of_accepted
    (accepted :
      verifySignatureByAlgidWithPolicy legacyAlgorithms crates backend tbs
          signature spkiDer algorithm policy = .ok ()) :
    ∃ check,
      DecidedBy legacyAlgorithms crates spkiDer algorithm policy check ∧
        backend.Passes check tbs signature spkiDer ∧
        (policy.legacyAllowed = true ∨ Strong check) := by
  rcases verifySignatureByAlgidWithPolicy_eq_ok_iff.mp accepted with
    ⟨permitted, check, chosen, passes⟩
  refine ⟨check, ?_, passes, ?_⟩
  · intro Key Verifier backend tbs signature
    rw [verifySignatureByAlgidWithPolicy_eq_ok_iff, and_iff_right permitted,
      chosen]
    simp
  · rcases permitted with allowed | notWeak
    · exact Or.inl allowed
    · exact Or.inr (strong_of_algidCheck notWeak chosen)

/-- What the strict policy accepts is decided by one check, which is strong. -/
theorem strong_of_strict
    (accepted :
      verifySignatureByAlgidWithPolicy legacyAlgorithms crates backend tbs
          signature spkiDer algorithm .strict = .ok ()) :
    ∃ check,
      DecidedBy legacyAlgorithms crates spkiDer algorithm .strict check ∧
        Strong check ∧ backend.Passes check tbs signature spkiDer := by
  rcases decidedBy_of_accepted accepted with
    ⟨check, decided, passes, allowed | strong⟩
  · cases allowed
  · exact ⟨check, decided, strong, passes⟩

/-- The legacy policy accepts what any policy accepts. -/
theorem legacy_of_accepted
    (accepted :
      verifySignatureByAlgidWithPolicy legacyAlgorithms crates backend tbs
          signature spkiDer algorithm policy = .ok ()) :
    verifySignatureByAlgidWithPolicy legacyAlgorithms crates backend tbs
        signature spkiDer algorithm .legacy = .ok () := by
  rw [verifySignatureByAlgidWithPolicy_eq_ok_iff] at accepted ⊢
  exact ⟨Or.inl rfl, accepted.2⟩

end Policy

end RitspLtv.Crypto.WeakDigests
