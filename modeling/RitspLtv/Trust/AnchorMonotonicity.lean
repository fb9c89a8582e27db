import RitspLtv.Trust.ChainSoundness

/-!
# Adding a trust anchor

A chain accepted by a store is still accepted when an anchor is added, with one
exception: the new anchor is the chain's last certificate itself, which is
self-issued but does not verify under its own key.  Such an anchor takes the
chain out of the candidate loop, in which another anchor completes the path.
-/

namespace RitspLtv.Trust.AnchorMonotonicity

open RitspLtv.Foundation.Checks
open RitspLtv.RustStd
open RitspLtv.Crypto.Verify
open RitspLtv.Ltv.X509Ext
open RitspLtv.Ltv.NameConstraintSemantics
open RitspLtv.Trust.Store
open RitspLtv.Trust.ChainSoundness

/-! ## Reaching an exit -/

section Reaching

variable {crates : Crates} {signatures : Signatures} {store : TrustStore}
variable {chain : List Certificate} {validationTime : Option Der.DateTime}
variable {leafPurpose : Option CertRole} {positiveFraction : Bool}
variable {leaf last : Certificate}

/-- A chain that passes its own checks is accepted when it ends in a root that verifies. -/
theorem accepts_of_inChainRoot
    {anchor : TrustAnchor}
    (found : store.findInChainRoot crates last = .ok (some anchor))
    (leafPresent : chain.head? = some leaf)
    (lastPresent : chain.getLast? = some last)
    (certs :
      verifyChainCerts crates signatures store.signaturePolicy chain leaf
          validationTime leafPurpose positiveFraction = .ok ())
    (constraints : enforceNameConstraintsPath crates chain = .ok ()) :
    Accepts
        (store.verifyChainInner crates signatures chain validationTime
          leafPurpose positiveFraction) ↔
      signatures.SigOk store.signaturePolicy last last := by
  have unfolded :
      store.verifyChainInner crates signatures chain validationTime
          leafPurpose positiveFraction =
        (signatures.verifyCertificateSignatureWithPolicy last last
            store.signaturePolicy >>= fun _ => .ok anchor.cert) := by
    simp only [TrustStore.verifyChainInner, leafPresent, lastPresent, certs,
      found, constraints, ok_bind]
    rfl
  rw [unfolded, Signatures.SigOk]
  cases signatures.verifyCertificateSignatureWithPolicy last last
      store.signaturePolicy with
  | ok done => simp
  | error error => simp

/-- A chain that passes its own checks is accepted when some candidate completes it. -/
theorem accepts_of_candidate
    {anchor : Certificate}
    (absent : store.findInChainRoot crates last = .ok none)
    (leafPresent : chain.head? = some leaf)
    (lastPresent : chain.getLast? = some last)
    (certs :
      verifyChainCerts crates signatures store.signaturePolicy chain leaf
          validationTime leafPurpose positiveFraction = .ok ())
    (member : anchor ∈ store.findAllIssuers last)
    (verified :
      Accepts
        (verifyCandidate crates signatures store.signaturePolicy chain last
          validationTime positiveFraction anchor)) :
    Accepts
      (store.verifyChainInner crates signatures chain validationTime
        leafPurpose positiveFraction) := by
  simp only [TrustStore.verifyChainInner, leafPresent, lastPresent, certs,
    absent, ok_bind]
  cases candidates : store.findAllIssuers last with
  | nil =>
      rw [candidates] at member
      cases member
  | cons first rest =>
      rw [candidates] at member
      exact accepts_firstOk_iff.2 ⟨anchor, member, verified⟩

end Reaching

/-! ## Inserting an anchor -/

section Inserting

variable (crates : Crates) (signatures : Signatures)
variable (label : Option String) (policy : SignaturePolicy)
variable (front back : List TrustAnchor) (anchor : TrustAnchor)

/--
The new anchor shadows the candidates: it is the self-issued last certificate of
the chain, no anchor of the store was, and it does not verify under its own key.
-/
def Shadows (chain : List Certificate) : Prop :=
  ∃ last,
    chain.getLast? = some last ∧
      last.tbsCertificate.issuer = last.tbsCertificate.subject ∧
      crates.certificateToDer last = .ok anchor.der ∧
      (∀ other ∈ front ++ back, other.der ≠ anchor.der) ∧
      ¬ signatures.SigOk policy last last

/-- What the root lookup finds after an anchor has been inserted. -/
theorem findInChainRoot_insert
    {last : Certificate} {root : Option TrustAnchor}
    (found :
      TrustStore.findInChainRoot crates ⟨front ++ back, label, policy⟩ last =
        .ok root) :
    ∃ inserted,
      TrustStore.findInChainRoot crates
          ⟨front ++ anchor :: back, label, policy⟩ last = .ok inserted ∧
        (inserted.isSome = true ↔
          root.isSome = true ∨
            last.tbsCertificate.issuer = last.tbsCertificate.subject ∧
              crates.certificateToDer last = .ok anchor.der) := by
  simp only [TrustStore.findInChainRoot] at found ⊢
  split at found
  · next selfIssued =>
      simp only [bind_eq_ok, mapError_eq_ok, pure_eq_ok] at found
      rcases found with ⟨der, encoded, rfl⟩
      rw [if_pos selfIssued, encoded]
      refine ⟨_, rfl, ?_⟩
      simp only [List.find?_isSome, List.mem_append, List.mem_cons,
        beq_iff_eq, Except.ok.injEq]
      constructor
      · intro some
        rcases some with ⟨other, member, same⟩
        rcases member with inFront | rfl | inBack
        · exact .inl ⟨other, .inl inFront, same⟩
        · exact .inr ⟨selfIssued, same.symm⟩
        · exact .inl ⟨other, .inr inBack, same⟩
      · intro some
        rcases some with ⟨other, inFront | inBack, same⟩ | ⟨_, same⟩
        · exact ⟨other, .inl inFront, same⟩
        · exact ⟨other, .inr (.inr inBack), same⟩
        · exact ⟨anchor, .inr (.inl rfl), same.symm⟩
  · next notSelfIssued =>
      cases found
      rw [if_neg notSelfIssued]
      exact ⟨none, rfl, by simp [notSelfIssued]⟩

theorem mem_findAllIssuers_insert
    {last candidate : Certificate}
    (member :
      candidate ∈
        TrustStore.findAllIssuers ⟨front ++ back, label, policy⟩ last) :
    candidate ∈
      TrustStore.findAllIssuers ⟨front ++ anchor :: back, label, policy⟩
        last := by
  simp only [TrustStore.findAllIssuers, List.mem_filter, List.mem_map,
    List.mem_append, List.mem_cons] at member ⊢
  rcases member with ⟨⟨other, inFront | inBack, same⟩, subject⟩
  · exact ⟨⟨other, .inl inFront, same⟩, subject⟩
  · exact ⟨⟨other, .inr (.inr inBack), same⟩, subject⟩

/-- An anchor that shadows the candidates is the last certificate of the chain. -/
theorem last_of_shadows
    {chain : List Certificate} {last : Certificate}
    (lastPresent : chain.getLast? = some last)
    (shadows : Shadows crates signatures policy front back anchor chain) :
    last.tbsCertificate.issuer = last.tbsCertificate.subject ∧
      crates.certificateToDer last = .ok anchor.der ∧
      ¬ signatures.SigOk policy last last := by
  rcases shadows with ⟨other, otherPresent, selfIssued, encoded, _, invalid⟩
  rw [lastPresent, Option.some.injEq] at otherPresent
  subst otherPresent
  exact ⟨selfIssued, encoded, invalid⟩

/-- When the root lookup finds nothing, no anchor has the octets looked for. -/
theorem der_ne_of_findInChainRoot
    {store : TrustStore} {last : Certificate} {der : Bytes}
    (absent : store.findInChainRoot crates last = .ok none)
    (selfIssued : last.tbsCertificate.issuer = last.tbsCertificate.subject)
    (encoded : crates.certificateToDer last = .ok der) :
    ∀ other ∈ store.anchors, other.der ≠ der := by
  intro other member same
  rw [TrustStore.findInChainRoot, if_pos selfIssued, encoded] at absent
  simp only [mapError_ok, ok_bind, pure_eq_ok] at absent
  have differs := List.find?_eq_none.mp absent other member
  simp [same] at differs

/--
A chain accepted by a store is accepted after an anchor has been inserted
anywhere, exactly when the new anchor does not shadow the candidates.
-/
theorem accepts_verifyChain_insert_iff
    (chain : List Certificate)
    (validationTime : Option Der.DateTime)
    (accepted :
      Accepts
        (TrustStore.verifyChain crates signatures
          ⟨front ++ back, label, policy⟩ chain validationTime)) :
    Accepts
        (TrustStore.verifyChain crates signatures
          ⟨front ++ anchor :: back, label, policy⟩ chain validationTime) ↔
      ¬ Shadows crates signatures policy front back anchor chain := by
  rcases accepted with ⟨result, accepted⟩
  rcases exit_of_verifyChainInner accepted with
    ⟨leaf, last, leafPresent, lastPresent, certs, exit⟩
  have shadowsLast :=
    @last_of_shadows crates signatures policy front back anchor chain last
      lastPresent
  cases exit with
  | inChainRoot root found selfSigned constraints returned =>
      rcases
          findInChainRoot_insert crates label policy front back anchor
            found with
        ⟨inserted, insertedFound, isSome⟩
      have present : inserted.isSome = true := isSome.2 (.inl rfl)
      rcases Option.isSome_iff_exists.mp present with ⟨newRoot, rfl⟩
      have reached :=
        accepts_of_inChainRoot insertedFound leafPresent lastPresent certs
          constraints
      refine iff_of_true (reached.2 selfSigned) ?_
      intro shadows
      exact (shadowsLast shadows).2.2 selfSigned
  | candidate candidate absent member verified =>
      rcases
          findInChainRoot_insert crates label policy front back anchor
            absent with
        ⟨inserted, insertedFound, isSome⟩
      cases inserted with
      | none =>
          have reached :=
            accepts_of_candidate insertedFound leafPresent lastPresent certs
              (mem_findAllIssuers_insert label policy front back anchor
                member)
              ⟨result, verified⟩
          refine iff_of_true reached ?_
          intro shadows
          have selected := shadowsLast shadows
          have present := isSome.2 (.inr ⟨selected.1, selected.2.1⟩)
          cases present
      | some newRoot =>
          rcases isSome.1 rfl with impossible | ⟨selfIssued, encoded⟩
          · cases impossible
          · rw [TrustStore.findAllIssuers, List.mem_filter,
              beq_iff_eq] at member
            have constraints :=
              (accepted_of_verifyCandidate member.2.symm verified).2.2.2
            have reached :=
              accepts_of_inChainRoot insertedFound leafPresent lastPresent
                certs
                (enforceNameConstraintsPath_of_concat crates constraints)
            rw [TrustStore.verifyChain, reached]
            constructor
            · intro selfSigned shadows
              exact (shadowsLast shadows).2.2 selfSigned
            · intro notShadowed
              by_contra invalid
              apply notShadowed
              have different :=
                der_ne_of_findInChainRoot crates absent selfIssued encoded
              exact
                ⟨last, lastPresent, selfIssued, encoded, different, invalid⟩

end Inserting

/-- Trusting the rollover certificate as well leaves a chain from the root's leaf accepted. -/
theorem accepts_verifyChain_insert_leaf :
    Accepts
        (TrustStore.verifyChain (Reference.crates Reference.known)
          Reference.signatures
          ⟨[Reference.rootAnchor] ++ Reference.rolloverAnchor :: [], none,
            .strict⟩
          [Reference.leaf] none) ↔
      ¬ Shadows (Reference.crates Reference.known) Reference.signatures
        .strict [Reference.rootAnchor] [] Reference.rolloverAnchor
        [Reference.leaf] :=
  accepts_verifyChain_insert_iff (Reference.crates Reference.known)
    Reference.signatures none .strict [Reference.rootAnchor] []
    Reference.rolloverAnchor [Reference.leaf] none (by decide +kernel)

/--
The rollover certificate verifies against a store that trusts the root, and no
longer does once the rollover certificate is trusted as well.
-/
theorem verifyChain_rollover_lost :
    Accepts
        (TrustStore.verifyChain (Reference.crates Reference.known)
          Reference.signatures ⟨[Reference.rootAnchor], none, .strict⟩
          [Reference.rollover] none) ∧
      ¬ Accepts
        (TrustStore.verifyChain (Reference.crates Reference.known)
          Reference.signatures
          ⟨[Reference.rootAnchor, Reference.rolloverAnchor], none, .strict⟩
          [Reference.rollover] none) := by
  decide +kernel

end RitspLtv.Trust.AnchorMonotonicity
