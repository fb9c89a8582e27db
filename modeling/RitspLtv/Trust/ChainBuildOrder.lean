import RitspLtv.Trust.ChainBuild

/-!
# The order of the pool

The pool of `build_chain_from_pool` is documented as unordered, and a failure
as there being no valid chain.  But the walk keeps the first certificate of the
pool that verifies, and does not come back to the others when it leads nowhere.
With several certificates of one issuer for one key, the order of the pool can
decide whether a chain is found.

It does so exactly when, among the certificates of the pool, there is a chain
that is complete and another one that the walk cannot continue.
-/

namespace RitspLtv.Trust.ChainBuildOrder

open RitspLtv.Foundation.Checks
open RitspLtv.Foundation.GreedyWalk
open RitspLtv.RustStd
open RitspLtv.Crypto.Verify
open RitspLtv.Trust.ChainBuild

/--
A chain that the walk cannot continue: it is not complete, and no certificate
of the pool prolongs it, or one with the name of its issuer has no encoding.
-/
def DeadEnd (crates : Crates) (signatures : Signatures)
    (policy : SignaturePolicy) (anchorSubjects : List Bytes)
    (leaf : Certificate) (pool : List Certificate) (maxDepth : Nat)
    (chain : List Certificate) : Prop :=
  ¬ Complete crates anchorSubjects maxDepth chain ∧
    chain.length ≤ maxDepth ∧
    ((∃ last candidate,
        chain.getLast? = some last ∧ candidate ∈ pool ∧
          candidate.tbsCertificate.subject = last.tbsCertificate.issuer ∧
          ¬ Accepts (crates.certificateToDer candidate)) ∨
      ∀ candidate,
        ¬ PoolChain crates signatures policy anchorSubjects leaf pool
          (chain ++ [candidate]))

section Order

variable {crates : Crates} {signatures : Signatures}
variable {policy : SignaturePolicy} {anchorSubjects : List Bytes}
variable {leaf : Certificate} {pool items : List Certificate}
variable {maxDepth : Nat}

/-- A chain within the depth is complete when its last certificate ends it. -/
theorem complete_iff_endsAt
    {chain : List Certificate} {current : Certificate}
    (last : chain.getLast? = some current)
    (short : chain.length ≤ maxDepth) :
    Complete crates anchorSubjects maxDepth chain ↔
      EndsAt crates anchorSubjects current := by
  simp only [Complete, last, Option.some.injEq, exists_eq_left']
  constructor
  · rintro ⟨_, ends | full⟩
    · exact ends
    · omega
  · intro ends
    exact ⟨Nat.le_succ_of_le short, .inl ends⟩

/-- A dead end of the walk is a chain that it cannot continue. -/
theorem deadEnd_iff
    (built :
      PoolChain crates signatures policy anchorSubjects leaf pool
        (leaf :: items)) :
    (chainWalker crates signatures policy anchorSubjects).DeadEnd pool
        maxDepth [leaf] items ↔
      DeadEnd crates signatures policy anchorSubjects leaf pool maxDepth
        (leaf :: items) := by
  have last := List.getLast?_eq_some_getLast (List.cons_ne_nil leaf items)
  generalize (leaf :: items).getLast _ = current at last
  rw [Walker.DeadEnd, DeadEnd, List.singleton_append,
    chainWalker_finished last, decide_eq_false_iff_not]
  change items.length < maxDepth ∧ _ ↔ _ ∧ items.length + 1 ≤ maxDepth ∧ _
  rw [and_left_comm (a := ¬ Complete _ _ _ _)]
  apply and_congr_right
  intro short
  rw [complete_iff_endsAt last short]
  apply and_congr_right
  intro unfinished
  simp only [last, Option.some.injEq, exists_and_left, exists_eq_left']
  constructor
  · rintro (⟨candidate, member, refusal⟩ | passed)
    · rcases (offerOf_eq_refuse_iff last built.encoded).mp refusal with
        ⟨named, unencoded⟩
      exact .inl ⟨candidate, member, named, unencoded⟩
    · right
      intro candidate longer
      rcases (poolChain_concat_iff last).mp longer with
        ⟨_, _, member, issued, encoded, fresh⟩
      have taken :=
        (offerOf_eq_take_iff last).mpr ⟨issued, encoded, fresh⟩
      have skipped := passed candidate member
      simp only [chainWalker] at skipped
      rw [taken] at skipped
      cases skipped
  · rintro (⟨candidate, member, named, unencoded⟩ | stuck)
    · left
      exact
        ⟨candidate, member,
          (offerOf_eq_refuse_iff last built.encoded).mpr ⟨named, unencoded⟩⟩
    · by_cases refused :
        ∃ candidate ∈ pool,
          offerOf crates signatures policy (leaf :: items) candidate = .refuse
      · exact .inl refused
      · right
        intro candidate member
        show offerOf crates signatures policy (leaf :: items) candidate = _
        cases offered :
          offerOf crates signatures policy (leaf :: items) candidate with
        | pass => rfl
        | refuse => exact absurd ⟨candidate, member, offered⟩ refused
        | take =>
            rcases (offerOf_eq_take_iff last).mp offered with
              ⟨issued, encoded, fresh⟩
            have longer :=
              (poolChain_concat_iff last).mpr
                ⟨built, unfinished, member, issued, encoded, fresh⟩
            exact absurd longer (stuck candidate)

/-- Chains with a property are the trails whose chains have it. -/
theorem exists_trail_iff
    (encoded : Accepts (crates.certificateToDer leaf))
    (property : List Certificate → Prop) :
    (∃ items,
        (chainWalker crates signatures policy anchorSubjects).Trail pool
            [leaf] items ∧
          property (leaf :: items)) ↔
      ∃ chain,
        PoolChain crates signatures policy anchorSubjects leaf pool chain ∧
          property chain := by
  constructor
  · rintro ⟨items, trail, holds⟩
    have built := (trail_iff_poolChain (poolChain_leaf encoded pool)).mp trail
    exact ⟨leaf :: items, built, holds⟩
  · rintro ⟨chain, built, holds⟩
    cases chain with
    | nil => cases built.startsAtLeaf
    | cons first items =>
        cases built.startsAtLeaf
        have trail :=
          (trail_iff_poolChain (poolChain_leaf encoded pool)).mpr built
        exact ⟨items, trail, holds⟩

theorem exists_deadEnd_iff
    (encoded : Accepts (crates.certificateToDer leaf)) :
    (∃ items,
        (chainWalker crates signatures policy anchorSubjects).Trail pool
            [leaf] items ∧
          (chainWalker crates signatures policy anchorSubjects).DeadEnd pool
            maxDepth [leaf] items) ↔
      ∃ chain,
        PoolChain crates signatures policy anchorSubjects leaf pool chain ∧
          DeadEnd crates signatures policy anchorSubjects leaf pool maxDepth
            chain := by
  rw [← exists_trail_iff encoded]
  apply exists_congr
  intro items
  apply and_congr_right
  intro trail
  exact
    deadEnd_iff
      ((trail_iff_poolChain (poolChain_leaf encoded pool)).mp trail)

theorem exists_complete_iff
    (encoded : Accepts (crates.certificateToDer leaf)) :
    (∃ items,
        (chainWalker crates signatures policy anchorSubjects).Trail pool
            [leaf] items ∧
          (chainWalker crates signatures policy anchorSubjects).Complete
            maxDepth [leaf] items) ↔
      ∃ chain,
        PoolChain crates signatures policy anchorSubjects leaf pool chain ∧
          Complete crates anchorSubjects maxDepth chain := by
  rw [← exists_trail_iff encoded]
  simp only [complete_iff]

theorem accepts_buildChain_iff
    (encoded : Accepts (crates.certificateToDer leaf))
    (pool : List Certificate) (depth : Option Nat) :
    Accepts
        (buildChainFromPoolWithPolicy crates signatures policy leaf pool
          anchorSubjects depth) ↔
      ((chainWalker crates signatures policy anchorSubjects).run pool
        (depth.getD 10) [leaf]).isSome = true := by
  rw [← buildChain_toOption encoded, isSome_toOption_iff]

end Order

/--
Whether a chain is found does not depend on the order of the pool exactly when
no certificate of the pool leads into a dead end while others lead to a complete
chain.
-/
theorem buildChainFromPoolWithPolicy_order_iff
    (crates : Crates) (signatures : Signatures) (policy : SignaturePolicy)
    (leaf : Certificate) (pool : List Certificate)
    (anchorSubjects : List Bytes) (maxDepth : Option Nat) :
    (∀ ordered : List Certificate,
        ordered.Perm pool →
          (Accepts
              (buildChainFromPoolWithPolicy crates signatures policy leaf
                ordered anchorSubjects maxDepth) ↔
            ∀ other : List Certificate,
              other.Perm ordered →
                Accepts
                  (buildChainFromPoolWithPolicy crates signatures policy leaf
                    other anchorSubjects maxDepth))) ↔
      ((∃ chain,
          PoolChain crates signatures policy anchorSubjects leaf pool chain ∧
            DeadEnd crates signatures policy anchorSubjects leaf pool
              (maxDepth.getD 10) chain) →
        ¬ ∃ chain,
          PoolChain crates signatures policy anchorSubjects leaf pool chain ∧
            Complete crates anchorSubjects (maxDepth.getD 10) chain) := by
  by_cases encoded : Accepts (crates.certificateToDer leaf)
  · simp only [accepts_buildChain_iff encoded]
    rw [← exists_deadEnd_iff encoded, ← exists_complete_iff encoded]
    exact Walker.order_irrelevant_iff
  · -- Without an encoding of the leaf there is no chain, in whatever order.
    have refused (ordered : List Certificate) :
        ¬ Accepts
          (buildChainFromPoolWithPolicy crates signatures policy leaf ordered
            anchorSubjects maxDepth) := by
      rintro ⟨chain, returned⟩
      exact encoded (encoded_of_buildChain returned)
    constructor
    · rintro _ _ ⟨chain, built, _⟩
      apply encoded
      exact
        built.encoded leaf (List.mem_of_head? built.startsAtLeaf)
    · intro _ ordered _
      constructor
      · intro accepted
        exact absurd accepted (refused ordered)
      · intro all
        exact all ordered (List.Perm.refl ordered)

/-- Another certificate of the intermediate, from an issuer that is not known. -/
def strandedCa : Certificate :=
  Reference.certificate 8 0xF6 0x99 "Issuing CA" "Elsewhere"
    [Reference.caConstraints]

/-- A certificate that leads nowhere hides the one that leads to the root. -/
theorem buildChainFromPoolWithPolicy_order :
    ¬ (Accepts
          (buildChainFromPoolWithPolicy (Reference.crates Reference.known)
            Reference.signatures .strict subscriber [issuingCa, strandedCa]
            rootSubjects none) ↔
        ∀ other : List Certificate,
          other.Perm [issuingCa, strandedCa] →
            Accepts
              (buildChainFromPoolWithPolicy
                (Reference.crates Reference.known) Reference.signatures
                .strict subscriber other rootSubjects none)) := by
  intro same
  have accepted := same.mp (by decide +kernel) [strandedCa, issuingCa]
    (List.Perm.swap issuingCa strandedCa [])
  exact absurd accepted (by decide +kernel)

end RitspLtv.Trust.ChainBuildOrder
