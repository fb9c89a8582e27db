import RitspLtv.Reference
import RitspLtv.Foundation.GreedyWalk
import Mathlib.Data.List.Chain

/-!
# Building a chain from a pool

`build_chain_from_pool` walks from a leaf towards a trust anchor.  Its loop
keeps the chain so far, its last certificate and the DER encodings of what it
has visited.  The three always agree, so the loop is a greedy walk whose only
state is the chain, and a chain it returns has the shape that its consumers
assume.
-/

namespace RitspLtv.Trust.ChainBuild

open RitspLtv.Foundation.Checks
open RitspLtv.Foundation.GreedyWalk
open RitspLtv.RustStd
open RitspLtv.Crypto.Verify
open RitspLtv.Trust.Store

/-! ## The builder -/

section Builder

variable (crates : Crates) (signatures : Signatures)
variable (policy : SignaturePolicy)

/-- The encoding of a certificate, with the builder's error. -/
def encodedDer (cert : Certificate) : Except TrustError Bytes :=
  (crates.certificateToDer cert).mapError fun e =>
    .certificateParse s!"DER encode failed: {e}"

/-- The encoding of a name, empty when it has none. -/
def nameDer (name : Name) : Bytes :=
  match crates.nameToDer name with
  | .ok der => der
  | .error _ => []

/-- What one search of the pool ends with. -/
inductive IssuerSearch where
  | found (candidate : Certificate) (candidateDer : Bytes)
  | missing (matchingIssuerError : Option TrustError)
  deriving DecidableEq

/-- Search the pool for an issuer of `current` that has not been visited. -/
def searchPool (current : Certificate) (visited : List Bytes) :
    Option TrustError → List Certificate → Except TrustError IssuerSearch
  | matchingIssuerError, [] => .ok (.missing matchingIssuerError)
  | matchingIssuerError, candidate :: pool =>
      if candidate.tbsCertificate.subject ≠ current.tbsCertificate.issuer then
        searchPool current visited matchingIssuerError pool
      else do
        let candidateDer ← encodedDer crates candidate
        if candidateDer ∈ visited then
          searchPool current visited matchingIssuerError pool
        else
          match signatures.verifyCertificateSignatureWithPolicy current
              candidate policy with
          | .ok () => pure (.found candidate candidateDer)
          | .error error => searchPool current visited (some error) pool

/-- The loop: at most `steps` more certificates above `current`. -/
def walkUp (pool : List Certificate) (trustAnchorSubjects : List Bytes) :
    Nat → List Certificate → Certificate → List Bytes →
      Except TrustError (List Certificate)
  | 0, chain, _, _ => .ok chain
  | steps + 1, chain, current, visited =>
      let issuerNameDer := nameDer crates current.tbsCertificate.issuer
      let subjectNameDer := nameDer crates current.tbsCertificate.subject
      if issuerNameDer = subjectNameDer then .ok chain
      else if issuerNameDer ∈ trustAnchorSubjects then .ok chain
      else do
        match ← searchPool crates signatures policy current visited none
            pool with
        | .found candidate candidateDer =>
            walkUp pool trustAnchorSubjects steps (chain ++ [candidate])
              candidate (visited ++ [candidateDer])
        | .missing (some error) => .error error
        | .missing none =>
            .error
              (.chainBroken (chain.length - 1)
                (crates.nameToString current.tbsCertificate.issuer)
                "no matching certificate in pool")

/-- Build an ordered chain from a leaf, under an explicit signature policy. -/
def buildChainFromPoolWithPolicy (leaf : Certificate)
    (pool : List Certificate) (trustAnchorSubjects : List Bytes)
    (maxDepth : Option Nat) : Except TrustError (List Certificate) := do
  let leafDer ← encodedDer crates leaf
  walkUp crates signatures policy pool trustAnchorSubjects
    (maxDepth.getD 10) [leaf] leaf [leafDer]

end Builder

/-- Build an ordered chain from a leaf, under the default policy. -/
def buildChainFromPool (crates : Crates) (signatures : Signatures)
    (leaf : Certificate) (pool : List Certificate)
    (trustAnchorSubjects : List Bytes) (maxDepth : Option Nat) :
    Except TrustError (List Certificate) :=
  buildChainFromPoolWithPolicy crates signatures .strict leaf pool
    trustAnchorSubjects maxDepth

/-- The encoded subjects of a store's anchors. -/
def trustAnchorSubjects (crates : Crates) (store : TrustStore) : List Bytes :=
  store.anchors.filterMap fun anchor =>
    (crates.nameToDer anchor.cert.tbsCertificate.subject).toOption

/-! ## The chains it builds -/

section Chains

variable (crates : Crates) (signatures : Signatures)
variable (policy : SignaturePolicy) (trustAnchorSubjects : List Bytes)

/-- The certificate names itself as its issuer. -/
def SelfIssued (cert : Certificate) : Prop :=
  nameDer crates cert.tbsCertificate.issuer =
    nameDer crates cert.tbsCertificate.subject

/-- The certificate names the subject of a trust anchor as its issuer. -/
def IssuedByAnchor (cert : Certificate) : Prop :=
  nameDer crates cert.tbsCertificate.issuer ∈ trustAnchorSubjects

/-- The walk goes no further than this certificate. -/
def EndsAt (cert : Certificate) : Prop :=
  SelfIssued crates cert ∨ IssuedByAnchor crates trustAnchorSubjects cert

instance (cert : Certificate) :
    Decidable (EndsAt crates trustAnchorSubjects cert) :=
  inferInstanceAs (Decidable (_ = _ ∨ _ ∈ _))

/-- The second certificate is named as the issuer of the first, and signed it. -/
def IssuedBy (cert issuer : Certificate) : Prop :=
  issuer.tbsCertificate.subject = cert.tbsCertificate.issuer ∧
    signatures.SigOk policy cert issuer

/-- A chain from the leaf through certificates of the pool. -/
structure PoolChain (leaf : Certificate) (pool : List Certificate)
    (chain : List Certificate) : Prop where
  startsAtLeaf : chain.head? = some leaf
  fromPool : ∀ cert ∈ chain.tail, cert ∈ pool
  encoded : ∀ cert ∈ chain, Accepts (crates.certificateToDer cert)
  distinct : (chain.map crates.certificateToDer).Nodup
  linked : chain.IsChain (IssuedBy signatures policy)
  goesOn : ∀ cert ∈ chain.dropLast, ¬ EndsAt crates trustAnchorSubjects cert

/-- The walk has a reason to stop with this chain. -/
def Complete (maxDepth : Nat) (chain : List Certificate) : Prop :=
  chain.length ≤ maxDepth + 1 ∧
    ((∃ last, chain.getLast? = some last ∧
        EndsAt crates trustAnchorSubjects last) ∨
      chain.length = maxDepth + 1)

end Chains

section Walk

variable {crates : Crates} {signatures : Signatures}
variable {policy : SignaturePolicy} {anchorSubjects : List Bytes}
variable {leaf current candidate : Certificate}
variable {pool chain : List Certificate} {visited : List Bytes}

theorem PoolChain.ne_nil
    (built :
      PoolChain crates signatures policy anchorSubjects leaf pool chain) :
    chain ≠ [] := by
  rintro rfl
  cases built.startsAtLeaf

/-- The leaf alone is a chain. -/
theorem poolChain_leaf
    (encoded : Accepts (crates.certificateToDer leaf))
    (pool : List Certificate) :
    PoolChain crates signatures policy anchorSubjects leaf pool [leaf] where
  startsAtLeaf := rfl
  fromPool := by simp
  encoded := by simpa using encoded
  distinct := List.nodup_singleton _
  linked := List.isChain_singleton leaf
  goesOn := by simp

/-- What one more certificate at the end of a chain must satisfy. -/
theorem poolChain_concat_iff
    (last : chain.getLast? = some current) :
    PoolChain crates signatures policy anchorSubjects leaf pool
        (chain ++ [candidate]) ↔
      PoolChain crates signatures policy anchorSubjects leaf pool chain ∧
        ¬ EndsAt crates anchorSubjects current ∧ candidate ∈ pool ∧
        IssuedBy signatures policy current candidate ∧
        Accepts (crates.certificateToDer candidate) ∧
        crates.certificateToDer candidate ∉
          chain.map crates.certificateToDer := by
  have nonempty : chain ≠ [] := by
    rintro rfl
    cases last
  have currentMember : current ∈ chain := List.mem_of_getLast? last
  constructor
  · intro built
    have linked := List.isChain_append.mp built.linked
    have distinct := built.distinct
    rw [List.map_append, List.nodup_append] at distinct
    have goesOn := built.goesOn
    rw [List.dropLast_concat] at goesOn
    have fromPool := built.fromPool
    rw [List.tail_append_of_ne_nil nonempty] at fromPool
    refine ⟨⟨?_, ?_, ?_, distinct.1, linked.1, ?_⟩, ?_, ?_, ?_, ?_, ?_⟩
    · rw [← built.startsAtLeaf, List.head?_append_of_ne_nil _ nonempty]
    · intro cert member
      exact fromPool cert (List.mem_append_left [candidate] member)
    · intro cert member
      exact built.encoded cert (List.mem_append_left [candidate] member)
    · intro cert member
      exact goesOn cert (List.mem_of_mem_dropLast member)
    · exact goesOn current currentMember
    · exact fromPool candidate (by simp)
    · exact linked.2.2 current last candidate rfl
    · exact built.encoded candidate (by simp)
    · intro repeated
      exact distinct.2.2 _ repeated _ (by simp) rfl
  · rintro ⟨built, unfinished, member, issued, encoded, fresh⟩
    refine ⟨?_, ?_, ?_, ?_, ?_, ?_⟩
    · rw [List.head?_append_of_ne_nil _ nonempty]
      exact built.startsAtLeaf
    · rw [List.tail_append_of_ne_nil nonempty]
      simpa [or_imp, forall_and] using ⟨built.fromPool, member⟩
    · simpa [or_imp, forall_and] using ⟨built.encoded, encoded⟩
    · rw [List.map_append, List.nodup_append]
      refine ⟨built.distinct, List.nodup_singleton _, ?_⟩
      rintro der repeated other isLast rfl
      rw [List.map_singleton, List.mem_singleton] at isLast
      exact fresh (isLast ▸ repeated)
    · apply List.isChain_append.mpr
      refine ⟨built.linked, List.isChain_singleton candidate, ?_⟩
      intro before isBefore after isAfter
      rw [last, Option.mem_some_iff] at isBefore
      rw [List.head?_singleton, Option.mem_some_iff] at isAfter
      exact isBefore ▸ isAfter ▸ issued
    · rw [List.dropLast_concat]
      intro cert certMember
      rw [← List.dropLast_append_getLast? current last] at certMember
      rcases List.mem_append.mp certMember with before | isLast
      · exact built.goesOn cert before
      · rw [List.mem_singleton] at isLast
        exact isLast ▸ unfinished

theorem PoolChain.of_append
    {items : List Certificate} (nonempty : chain ≠ [])
    (built :
      PoolChain crates signatures policy anchorSubjects leaf pool
        (chain ++ items)) :
    PoolChain crates signatures policy anchorSubjects leaf pool chain := by
  induction items using List.reverseRecOn with
  | nil => simpa using built
  | append_singleton items candidate induction =>
      have longer : chain ++ items ≠ [] :=
        List.append_ne_nil_of_left_ne_nil nonempty items
      rw [← List.append_assoc] at built
      exact
        induction
          ((poolChain_concat_iff (List.getLast?_eq_some_getLast longer)).mp
            built).1

/-! ### The loop as a greedy walk -/

/-- What the loop does with a certificate of the pool that it comes to. -/
def offerOf (crates : Crates) (signatures : Signatures)
    (policy : SignaturePolicy) (chain : List Certificate)
    (candidate : Certificate) : Offer :=
  match chain.getLast? with
  | none => .pass
  | some current =>
      if candidate.tbsCertificate.subject ≠ current.tbsCertificate.issuer then
        .pass
      else if crates.certificateToDer candidate ∈
          chain.map crates.certificateToDer then
        .pass
      else
        match crates.certificateToDer candidate with
        | .error _ => .refuse
        | .ok _ =>
            if signatures.verifyCertificateSignatureWithPolicy current
                candidate policy = .ok () then
              .take
            else .pass

/-- The loop's rules, as those of a greedy walk whose path is the chain. -/
def chainWalker (crates : Crates) (signatures : Signatures)
    (policy : SignaturePolicy) (anchorSubjects : List Bytes) :
    Walker Certificate where
  finished := fun chain =>
    match chain.getLast? with
    | none => false
    | some current => decide (EndsAt crates anchorSubjects current)
  offer := offerOf crates signatures policy
  passes_taken := by
    intro chain candidate member
    have repeated :
        crates.certificateToDer candidate ∈
          chain.map crates.certificateToDer :=
      List.mem_map_of_mem member
    unfold offerOf
    cases chain.getLast? with
    | none => rfl
    | some current => simp [repeated]

theorem chainWalker_finished
    (last : chain.getLast? = some current) :
    (chainWalker crates signatures policy anchorSubjects).finished chain =
      decide (EndsAt crates anchorSubjects current) := by
  simp [chainWalker, last]

/-- A certificate is taken when it issued the last one and is not there yet. -/
theorem offerOf_eq_take_iff
    (last : chain.getLast? = some current) :
    offerOf crates signatures policy chain candidate = .take ↔
      IssuedBy signatures policy current candidate ∧
        Accepts (crates.certificateToDer candidate) ∧
        crates.certificateToDer candidate ∉
          chain.map crates.certificateToDer := by
  unfold offerOf IssuedBy Signatures.SigOk
  rw [last]
  by_cases named :
    candidate.tbsCertificate.subject = current.tbsCertificate.issuer
  · by_cases repeated :
      crates.certificateToDer candidate ∈
        chain.map crates.certificateToDer
    · simp only [named, ne_eq, not_true_eq_false, if_false, repeated, if_true,
        and_false, reduceCtorEq]
    · simp only [named, ne_eq, not_true_eq_false, if_false, repeated,
        not_false_eq_true, true_and, and_true]
      cases crates.certificateToDer candidate with
      | error e => simp
      | ok der => simp
  · simp [named]

/-- A certificate stops the walk when it has the right name but no encoding. -/
theorem offerOf_eq_refuse_iff
    (last : chain.getLast? = some current)
    (encodedChain : ∀ cert ∈ chain, Accepts (crates.certificateToDer cert)) :
    offerOf crates signatures policy chain candidate = .refuse ↔
      candidate.tbsCertificate.subject = current.tbsCertificate.issuer ∧
        ¬ Accepts (crates.certificateToDer candidate) := by
  unfold offerOf
  rw [last]
  by_cases named :
    candidate.tbsCertificate.subject = current.tbsCertificate.issuer
  · cases encoded : crates.certificateToDer candidate with
    | error e =>
        have fresh :
            (.error e : Except String Bytes) ∉
              chain.map crates.certificateToDer := by
          intro repeated
          rcases List.mem_map.mp repeated with ⟨cert, member, failed⟩
          have accepted := encodedChain cert member
          rw [failed] at accepted
          exact not_accepts_error accepted
        simp only [named, ne_eq, not_true_eq_false, if_false, fresh, true_and,
          not_accepts_error, not_false_eq_true]
    | ok der =>
        simp only [named, ne_eq, not_true_eq_false, if_false, true_and,
          accepts_ok, iff_false]
        split
        · simp
        · split <;> simp
  · simp [named]

/-- The loop's state is a chain: its last certificate, and all encodings. -/
structure Represents (crates : Crates) (chain : List Certificate)
    (current : Certificate) (visited : List Bytes) : Prop where
  last : chain.getLast? = some current
  encodings : chain.map crates.certificateToDer = visited.map .ok

theorem Represents.mem_visited_iff
    (represents : Represents crates chain current visited) (der : Bytes) :
    (.ok der : Except String Bytes) ∈ chain.map crates.certificateToDer ↔
      der ∈ visited := by
  rw [represents.encodings]
  simp

theorem Represents.concat
    {der : Bytes}
    (represents : Represents crates chain current visited)
    (encoded : crates.certificateToDer candidate = .ok der) :
    Represents crates (chain ++ [candidate]) candidate (visited ++ [der]) where
  last := List.getLast?_concat
  encodings := by
    rw [List.map_append, List.map_append, represents.encodings,
      List.map_singleton, List.map_singleton, encoded]

section Search

variable (represents : Represents crates chain current visited)
variable (matchingIssuerError : Option TrustError)
include represents

/-- A search goes on behind a certificate that the walk passes over. -/
theorem searchPool_of_pass
    (passed : offerOf crates signatures policy chain candidate = .pass)
    (pool : List Certificate) :
    ∃ issuerError,
      searchPool crates signatures policy current visited matchingIssuerError
          (candidate :: pool) =
        searchPool crates signatures policy current visited issuerError
          pool := by
  rw [searchPool]
  by_cases named :
    candidate.tbsCertificate.subject = current.tbsCertificate.issuer
  · rw [if_neg (not_not.mpr named)]
    simp only [offerOf, represents.last, named, ne_eq, not_true_eq_false,
      if_false] at passed
    cases encoded : crates.certificateToDer candidate with
    | error e =>
        simp only [encoded, represents.encodings] at passed
        simp at passed
    | ok der =>
        simp only [encoded, represents.mem_visited_iff] at passed
        simp only [encodedDer, encoded, mapError_ok, ok_bind]
        by_cases seen : der ∈ visited
        · rw [if_pos seen]
          exact ⟨matchingIssuerError, rfl⟩
        · rw [if_neg seen] at passed ⊢
          cases verified :
            signatures.verifyCertificateSignatureWithPolicy current candidate
              policy with
          | ok done => simp [verified] at passed
          | error error => exact ⟨some error, rfl⟩
  · rw [if_pos named]
    exact ⟨matchingIssuerError, rfl⟩

/-- A search ends at a certificate that the walk takes. -/
theorem searchPool_of_take
    (taken : offerOf crates signatures policy chain candidate = .take)
    (pool : List Certificate) :
    ∃ der,
      crates.certificateToDer candidate = .ok der ∧
        searchPool crates signatures policy current visited
            matchingIssuerError (candidate :: pool) =
          .ok (.found candidate der) := by
  rcases (offerOf_eq_take_iff represents.last).mp taken with
    ⟨⟨named, signed⟩, ⟨der, encoded⟩, fresh⟩
  rw [encoded, represents.mem_visited_iff] at fresh
  refine ⟨der, encoded, ?_⟩
  rw [searchPool, if_neg (not_not.mpr named), encodedDer, encoded,
    mapError_ok, ok_bind, if_neg fresh]
  rw [Signatures.SigOk] at signed
  rw [signed]
  rfl

/-- A search fails at a certificate that stops the walk. -/
theorem searchPool_of_refuse
    (refused : offerOf crates signatures policy chain candidate = .refuse)
    (pool : List Certificate) :
    ¬ Accepts
      (searchPool crates signatures policy current visited
        matchingIssuerError (candidate :: pool)) := by
  have encodedChain :
      ∀ cert ∈ chain, Accepts (crates.certificateToDer cert) := by
    intro cert member
    have listed := List.mem_map_of_mem (f := crates.certificateToDer) member
    rw [represents.encodings] at listed
    rcases List.mem_map.mp listed with ⟨der, _, encoded⟩
    exact ⟨der, encoded.symm⟩
  rcases (offerOf_eq_refuse_iff represents.last encodedChain).mp refused with
    ⟨named, unencoded⟩
  rw [searchPool, if_neg (not_not.mpr named), encodedDer]
  cases encoded : crates.certificateToDer candidate with
  | error e => simp
  | ok der => exact absurd ⟨der, encoded⟩ unencoded

/-- A search of the pool ends where the walk's scan does. -/
theorem searchPool_cases (anchorSubjects : List Bytes)
    (signatures : Signatures) (policy : SignaturePolicy)
    (pool : List Certificate) :
    match (chainWalker crates signatures policy anchorSubjects).scan chain
        pool with
    | none =>
        ∃ issuerError,
          searchPool crates signatures policy current visited
              matchingIssuerError pool =
            .ok (.missing issuerError)
    | some candidate =>
        if offerOf crates signatures policy chain candidate = .take then
          ∃ der,
            crates.certificateToDer candidate = .ok der ∧
              searchPool crates signatures policy current visited
                  matchingIssuerError pool =
                .ok (.found candidate der)
        else
          ¬ Accepts
            (searchPool crates signatures policy current visited
              matchingIssuerError pool) := by
  induction pool generalizing matchingIssuerError with
  | nil => exact ⟨matchingIssuerError, rfl⟩
  | cons candidate pool induction =>
      cases offered : offerOf crates signatures policy chain candidate with
      | pass =>
          rw [Walker.scan,
            List.find?_cons_of_neg (by simp [chainWalker, offered])]
          rcases searchPool_of_pass represents matchingIssuerError offered
              pool with
            ⟨issuerError, skipped⟩
          rw [skipped]
          exact induction issuerError
      | refuse =>
          rw [Walker.scan,
            List.find?_cons_of_pos (by simp [chainWalker, offered])]
          simp only [offered, reduceCtorEq, if_false]
          exact searchPool_of_refuse represents matchingIssuerError offered pool
      | take =>
          rw [Walker.scan,
            List.find?_cons_of_pos (by simp [chainWalker, offered])]
          simp only [offered, if_true]
          exact searchPool_of_take represents matchingIssuerError offered pool

end Search

/-- The loop succeeds exactly when the walk does, with the path for its chain. -/
theorem walkUp_toOption
    (represents : Represents crates chain current visited)
    (steps : Nat) :
    (walkUp crates signatures policy pool anchorSubjects steps chain current
        visited).toOption =
      (chainWalker crates signatures policy anchorSubjects).run pool steps
        chain := by
  induction steps generalizing chain current visited with
  | zero => rfl
  | succ steps induction =>
      rw [walkUp, Walker.run, chainWalker_finished represents.last]
      by_cases selfIssued : SelfIssued crates current
      · rw [if_pos (decide_eq_true (.inl selfIssued))]
        simp only [SelfIssued] at selfIssued
        simp [selfIssued, Except.toOption]
      by_cases anchored : IssuedByAnchor crates anchorSubjects current
      · rw [if_pos (decide_eq_true (.inr anchored))]
        simp only [IssuedByAnchor] at anchored
        simp [anchored, Except.toOption]
      have unfinished : ¬ EndsAt crates anchorSubjects current :=
        not_or.mpr ⟨selfIssued, anchored⟩
      simp only [unfinished, decide_false, Bool.false_eq_true, if_false]
      simp only [SelfIssued] at selfIssued
      simp only [IssuedByAnchor] at anchored
      simp only [selfIssued, anchored, if_false]
      have searched :=
        searchPool_cases represents none anchorSubjects signatures policy pool
      cases scanned :
        (chainWalker crates signatures policy anchorSubjects).scan chain
          pool with
      | none =>
          rw [scanned] at searched
          rcases searched with ⟨issuerError, searched⟩
          rw [searched]
          cases issuerError <;> rfl
      | some candidate =>
          rw [scanned] at searched
          show _ =
            if offerOf crates signatures policy chain candidate = .take then
              _
            else none
          by_cases taken :
            offerOf crates signatures policy chain candidate = .take
          · simp only [taken, if_true] at searched ⊢
            rcases searched with ⟨der, encoded, searched⟩
            rw [searched, ok_bind]
            exact induction (represents.concat encoded)
          · simp only [taken, if_false] at searched ⊢
            cases failed :
              searchPool crates signatures policy current visited none
                pool with
            | ok result =>
                rw [failed] at searched
                exact absurd accepts_ok searched
            | error error => rfl

/-! ### The chains a walk can build -/

/-- A trail of the walk is a chain that goes on from the one it starts with. -/
theorem trail_iff_poolChain
    {items : List Certificate}
    (built :
      PoolChain crates signatures policy anchorSubjects leaf pool chain) :
    (chainWalker crates signatures policy anchorSubjects).Trail pool chain
        items ↔
      PoolChain crates signatures policy anchorSubjects leaf pool
        (chain ++ items) := by
  induction items generalizing chain with
  | nil => simpa [Walker.Trail] using built
  | cons candidate items induction =>
      have last := List.getLast?_eq_some_getLast built.ne_nil
      rw [Walker.Trail, chainWalker_finished last, decide_eq_false_iff_not,
        List.append_cons chain candidate items]
      constructor
      · rintro ⟨unfinished, member, taken, later⟩
        rcases (offerOf_eq_take_iff last).mp taken with
          ⟨issued, encoded, fresh⟩
        have longer :=
          (poolChain_concat_iff last).mpr
            ⟨built, unfinished, member, issued, encoded, fresh⟩
        exact (induction longer).mp later
      · intro whole
        have longer :=
          whole.of_append (List.concat_ne_nil candidate chain)
        rcases (poolChain_concat_iff last).mp longer with
          ⟨_, unfinished, member, issued, encoded, fresh⟩
        exact
          ⟨unfinished, member,
            (offerOf_eq_take_iff last).mpr ⟨issued, encoded, fresh⟩,
            (induction longer).mpr whole⟩

/-- A trail is complete when its chain is. -/
theorem complete_iff
    {items : List Certificate} {maxDepth : Nat} :
    (chainWalker crates signatures policy anchorSubjects).Complete maxDepth
        [leaf] items ↔
      Complete crates anchorSubjects maxDepth (leaf :: items) := by
  have last :=
    List.getLast?_eq_some_getLast (List.cons_ne_nil leaf items)
  simp only [Walker.Complete, Complete, List.singleton_append, last,
    chainWalker_finished last, decide_eq_true_eq, List.length_cons,
    Nat.add_le_add_iff_right, Nat.add_right_cancel_iff, Option.some.injEq,
    exists_eq_left']

/-- The builder's loop, started at a leaf that has an encoding. -/
theorem buildChain_toOption
    (encoded : Accepts (crates.certificateToDer leaf))
    (signatures : Signatures) (policy : SignaturePolicy)
    (pool : List Certificate) (anchorSubjects : List Bytes)
    (maxDepth : Option Nat) :
    (buildChainFromPoolWithPolicy crates signatures policy leaf pool
        anchorSubjects maxDepth).toOption =
      (chainWalker crates signatures policy anchorSubjects).run pool
        (maxDepth.getD 10) [leaf] := by
  rcases encoded with ⟨der, encoded⟩
  rw [buildChainFromPoolWithPolicy, encodedDer, encoded, mapError_ok, ok_bind]
  exact walkUp_toOption ⟨rfl, by simp [encoded]⟩ (maxDepth.getD 10)

theorem encoded_of_buildChain
    {maxDepth : Option Nat}
    (returned :
      buildChainFromPoolWithPolicy crates signatures policy leaf pool
          anchorSubjects maxDepth =
        .ok chain) :
    Accepts (crates.certificateToDer leaf) := by
  rw [buildChainFromPoolWithPolicy, bind_eq_ok] at returned
  rcases returned with ⟨der, encoded, _⟩
  rw [encodedDer, mapError_eq_ok] at encoded
  exact ⟨der, encoded⟩

end Walk

/--
A chain built from a pool starts with the leaf and goes on through distinct
certificates of the pool, each of which is named as the issuer of the one below
it and signed it.  It stops, after `max_depth` certificates at the latest, at
the first certificate that is self-issued or issued by a trust anchor.
-/
theorem buildChainFromPoolWithPolicy_wellFormed
    (crates : Crates) (signatures : Signatures) (policy : SignaturePolicy)
    (leaf : Certificate) (pool chain : List Certificate)
    (anchorSubjects : List Bytes) (maxDepth : Option Nat)
    (returned :
      buildChainFromPoolWithPolicy crates signatures policy leaf pool
          anchorSubjects maxDepth =
        .ok chain) :
    PoolChain crates signatures policy anchorSubjects leaf pool chain ∧
      Complete crates anchorSubjects (maxDepth.getD 10) chain := by
  have encoded := encoded_of_buildChain returned
  have followed :=
    buildChain_toOption encoded signatures policy pool anchorSubjects
      maxDepth
  rw [returned] at followed
  rcases Walker.exists_trail_of_run followed.symm with
    ⟨items, rfl, trail, complete⟩
  constructor
  · exact (trail_iff_poolChain (poolChain_leaf encoded pool)).mp trail
  · exact complete_iff.mp complete

/-- A certificate issued by the intermediate below. -/
def subscriber : Certificate :=
  Reference.certificate 7 0x17 0xF6 "Subscriber" "Issuing CA" []

/-- An intermediate issued by the reference root. -/
def issuingCa : Certificate :=
  Reference.certificate 6 0xF6 0xA1 "Issuing CA" "Root"
    [Reference.caConstraints]

/-- The encoded subject of the reference root. -/
def rootSubjects : List Bytes :=
  trustAnchorSubjects (Reference.crates Reference.known) Reference.rootStore

theorem buildChainFromPoolWithPolicy_wellFormed_issuingCa :
    PoolChain (Reference.crates Reference.known) Reference.signatures .strict
        rootSubjects subscriber [Reference.responder, issuingCa]
        [subscriber, issuingCa] ∧
      Complete (Reference.crates Reference.known) rootSubjects 10
        [subscriber, issuingCa] :=
  buildChainFromPoolWithPolicy_wellFormed (Reference.crates Reference.known)
    Reference.signatures .strict subscriber
    [Reference.responder, issuingCa] [subscriber, issuingCa] rootSubjects
    none (by decide +kernel)

end RitspLtv.Trust.ChainBuild
