import RitspLtv.Trust.AnchorMonotonicity

/-!
# Completeness of chain verification

Soundness says what an accepted chain satisfies.  Here every check is read as an
equivalence, so that acceptance is nothing but the existence of an acceptable
path: the chain itself when it ends in an anchor, and otherwise the chain with
an anchor appended.  The anchor that is returned is the first one, in the order
of the store, that makes the path acceptable.

Beside the conditions of a valid path there are three that stem from how the
checks read a certificate: under a path length everything below must have a
readable CA flag, a critical extended key usage is only for end entities, and
the name constraints of every issuer must be readable on their own.
-/

namespace RitspLtv.Trust.ChainCompleteness

open RitspLtv.Foundation.Checks
open RitspLtv.RustStd
open RitspLtv.DerUtils
open RitspLtv.Crypto.Verify
open RitspLtv.Ltv.X509Ext
open RitspLtv.Ltv.NameConstraintSemantics
open RitspLtv.Trust.Store
open RitspLtv.Trust.ChainSoundness

/-! ## Single checks as equivalences -/

/-- The CA flag and the path length of the certificate can be read. -/
def HasReadableConstraints (cert : Certificate) : Prop :=
  ∃ fields, basicConstraints cert = .ok fields

/-- A critical extended key usage stands in an end-entity certificate only. -/
def RestrictsNoCa (cert : Certificate) : Prop :=
  ∀ ext ∈ cert.extensions, ext.critical = true →
    ext.extnId.toString = "2.5.29.37" →
      ∃ pathLen, basicConstraints cert = .ok (false, pathLen)

theorem accepts_countSubordinateCas_iff
    {label : String} {count : Nat} {below : List Certificate} :
    Accepts (countSubordinateCas label count below) ↔
      ∀ cert ∈ below, HasReadableConstraints cert := by
  induction below generalizing count with
  | nil => simp [countSubordinateCas]
  | cons cert below induction =>
      rw [List.forall_mem_cons, countSubordinateCas]
      cases read : basicConstraints cert with
      | error error => simp [HasReadableConstraints, read]
      | ok fields =>
          simp only [mapError_ok, ok_bind]
          rw [induction]
          simp [HasReadableConstraints, read]

theorem countSubordinateCas_eq_ok_iff
    {label : String} {count total : Nat} {below : List Certificate} :
    countSubordinateCas label count below = .ok total ↔
      (∀ cert ∈ below, HasReadableConstraints cert) ∧
        total = count + below.countP isSubordinateCa := by
  constructor
  · intro counted
    exact
      ⟨accepts_countSubordinateCas_iff.1 ⟨total, counted⟩,
        countSubordinateCas_eq_ok counted⟩
  · intro both
    rcases both with ⟨readable, exact⟩
    have accepted : Accepts (countSubordinateCas label count below) :=
      accepts_countSubordinateCas_iff.2 readable
    rcases accepted with ⟨value, counted⟩
    rw [counted, exact, countSubordinateCas_eq_ok counted]

theorem enforcePathLen_eq_ok_iff
    {issuer : Certificate} {below : List Certificate} {label : String} :
    enforcePathLen issuer below label = .ok () ↔
      HasReadableConstraints issuer ∧
        ∀ maxDepth, HasPathLen issuer maxDepth →
          (∀ cert ∈ below, HasReadableConstraints cert) ∧
            below.countP isSubordinateCa ≤ maxDepth := by
  rw [enforcePathLen]
  cases read : basicConstraints issuer with
  | error error => simp [HasReadableConstraints, read]
  | ok fields =>
      rcases fields with ⟨isCa, _ | maxDepth⟩
      · simp [HasReadableConstraints, HasPathLen, read]
      · simp only [mapError_ok, ok_bind, bind_eq_ok, rejectIf_eq_ok,
          countSubordinateCas_eq_ok_iff, HasReadableConstraints, HasPathLen,
          read, Except.ok.injEq, Prod.mk.injEq, Option.some.injEq,
          exists_eq', exists_eq_left', true_and, forall_eq', not_lt]
        simp

theorem rejectUnknownCriticalExtensions_eq_ok_iff
    {cert : Certificate} {label : String} :
    rejectUnknownCriticalExtensions cert label = .ok () ↔
      RestrictsNoCa cert ∧ CriticalExtensionsRecognized cert := by
  rw [rejectUnknownCriticalExtensions, forM_eq_ok, RestrictsNoCa,
    CriticalExtensionsRecognized, ← forall₂_and]
  apply forall₂_congr
  intro ext _
  rw [rejectUnknownCriticalExtension]
  cases ext.critical with
  | false => simp
  | true =>
      simp only [Bool.true_eq_false, if_false, bind_eq_ok, rejectIf_eq_ok,
        exists_unit_eq_ok, forall_const]
      refine and_congr ?_ (by tauto)
      rw [rejectCriticalCaEku]
      split
      · next extendedKeyUsage =>
          simp only [bind_eq_ok, rejectIf_eq_ok, Prod.exists,
            Bool.not_eq_true, extendedKeyUsage, forall_const]
          constructor
          · intro passed
            rcases passed with ⟨isCa, pathLen, read, notCa⟩
            exact ⟨pathLen, notCa ▸ read⟩
          · intro passed
            rcases passed with ⟨pathLen, read⟩
            exact ⟨false, pathLen, read, rfl⟩
      · next otherwise => simp [otherwise]

/-! ## Acceptable paths -/

/-- The obligations of an issuer, with what must be readable below it. -/
structure IssuerChecked (signatures : Signatures) (policy : SignaturePolicy)
    (below : List Certificate) (child issuer : Certificate) : Prop
    extends IssuerAccepted signatures policy below child issuer where
  readable :
    ∀ maxDepth, HasPathLen issuer maxDepth →
      ∀ cert ∈ below, HasReadableConstraints cert

/-- The obligations of a certificate on its own. -/
structure CertChecked (validationTime : Option Der.DateTime)
    (positiveFraction : Bool) (cert : Certificate) : Prop
    extends CertAccepted validationTime positiveFraction cert where
  restrictsNoCa : RestrictsNoCa cert

/-- A path in which every link and every certificate meets its obligations. -/
structure PathChecked (signatures : Signatures) (policy : SignaturePolicy)
    (validationTime : Option Der.DateTime) (positiveFraction : Bool)
    (path : List Certificate) : Prop where
  issuers :
    ∀ i child issuer, path[i]? = some child → path[i + 1]? = some issuer →
      IssuerChecked signatures policy (path.take (i + 1)) child issuer
  certs :
    ∀ cert ∈ path, CertChecked validationTime positiveFraction cert

/-- A checked path whose leaf fits its role and whose issuers permit all names below. -/
structure AcceptablePath (crates : Crates) (signatures : Signatures)
    (policy : SignaturePolicy) (validationTime : Option Der.DateTime)
    (leafPurpose : Option CertRole) (positiveFraction : Bool)
    (path : List Certificate) : Prop
    extends
      PathChecked signatures policy validationTime positiveFraction path where
  leafFits :
    ∀ leaf role, path.head? = some leaf → leafPurpose = some role →
      validateExtensionsForRole crates leaf role = .ok ()
  constraints :
    ∀ top issuer, 1 ≤ top → path[top]? = some issuer →
      IssuerPermits crates issuer (path.take top)

section Paths

variable {crates : Crates} {signatures : Signatures}
variable {policy : SignaturePolicy} {validationTime : Option Der.DateTime}
variable {leafPurpose : Option CertRole} {positiveFraction : Bool}
variable {chain : List Certificate} {leaf last : Certificate}

theorem verifyLink_eq_ok_iff
    {i : Nat} {child issuer : Certificate}
    (childPresent : chain[i]? = some child)
    (issuerPresent : chain[i + 1]? = some issuer) :
    verifyLink crates signatures policy chain i = .ok () ↔
      IssuerChecked signatures policy (chain.take (i + 1)) child issuer := by
  simp only [verifyLink, childPresent, issuerPresent, bind_eq_ok,
    rejectIf_eq_ok, exists_const, not_not, exists_unit_eq_ok,
    validateIntermediateCaExtensions_eq_ok_iff, enforcePathLen_eq_ok_iff]
  constructor
  · intro passed
    rcases passed with ⟨name, signed, profile, _, depth⟩
    exact
      ⟨⟨name, signed, profile, fun maxDepth has => (depth maxDepth has).2⟩,
        fun maxDepth has => (depth maxDepth has).1⟩
  · intro checked
    rcases checked.caProfile.1 with ⟨pathLen, read⟩
    refine
      ⟨checked.name, checked.signed, checked.caProfile, ⟨_, read⟩, ?_⟩
    intro maxDepth has
    exact ⟨checked.readable maxDepth has, checked.pathLen maxDepth has⟩

theorem checkLeafPurpose_eq_ok_iff :
    checkLeafPurpose crates leafPurpose leaf = .ok () ↔
      ∀ role, leafPurpose = some role →
        validateExtensionsForRole crates leaf role = .ok () := by
  cases leafPurpose <;> simp [checkLeafPurpose]

/-- The checks on the chain itself are its links, its certificates and its leaf's role. -/
theorem verifyChainCerts_eq_ok_iff :
    verifyChainCerts crates signatures policy chain leaf validationTime
        leafPurpose positiveFraction = .ok () ↔
      PathChecked signatures policy validationTime positiveFraction chain ∧
        ∀ role, leafPurpose = some role →
          validateExtensionsForRole crates leaf role = .ok () := by
  simp only [verifyChainCerts, bind_eq_ok, forM_eq_ok, exists_const,
    exists_unit_eq_ok, rejectDuplicateExtensions_eq_ok_iff,
    rejectUnknownCriticalExtensions_eq_ok_iff, checkValidity_eq_ok_iff,
    checkLeafPurpose_eq_ok_iff]
  constructor
  · intro passed
    rcases passed with ⟨extensions, fits, inTime, links⟩
    refine ⟨⟨?_, ?_⟩, fits⟩
    · intro i child issuer childPresent issuerPresent
      have bounded : i + 1 < chain.length :=
        (List.getElem?_eq_some_iff.mp issuerPresent).1
      exact
        (verifyLink_eq_ok_iff childPresent issuerPresent).1
          (links i (List.mem_range.mpr (by omega)))
    · intro cert member
      rcases List.getElem?_of_mem member with ⟨index, present⟩
      have indexed : (cert, index) ∈ chain.zipIdx :=
        List.mk_mem_zipIdx_iff_getElem?.mpr present
      rcases extensions (cert, index) indexed with ⟨distinct, noCa, known⟩
      exact ⟨⟨distinct, known, inTime (cert, index) indexed⟩, noCa⟩
  · intro both
    rcases both with ⟨checked, fits⟩
    refine ⟨?_, fits, ?_, ?_⟩
    · intro indexed member
      have cert := checked.certs indexed.1 (List.fst_mem_of_mem_zipIdx member)
      exact
        ⟨cert.distinctExtensions, cert.restrictsNoCa,
          cert.criticalExtensions⟩
    · intro indexed member
      exact
        (checked.certs indexed.1
          (List.fst_mem_of_mem_zipIdx member)).inTime
    · intro i member
      rw [List.mem_range] at member
      have childPresent : chain[i]? = some chain[i] :=
        List.getElem?_eq_getElem (by omega)
      have issuerPresent : chain[i + 1]? = some chain[i + 1] :=
        List.getElem?_eq_getElem (by omega)
      rw [verifyLink_eq_ok_iff childPresent issuerPresent]
      exact checked.issuers i _ _ childPresent issuerPresent

/-- A path is acceptable when it passes the chain's checks and the name constraints. -/
theorem acceptablePath_iff
    (leafPresent : chain.head? = some leaf) :
    AcceptablePath crates signatures policy validationTime leafPurpose
        positiveFraction chain ↔
      verifyChainCerts crates signatures policy chain leaf validationTime
          leafPurpose positiveFraction = .ok () ∧
        enforceNameConstraintsPath crates chain = .ok () := by
  rw [verifyChainCerts_eq_ok_iff, enforceNameConstraintsPath_eq_ok_iff]
  constructor
  · intro acceptable
    refine
      ⟨⟨acceptable.toPathChecked, ?_⟩, acceptable.constraints⟩
    intro role purpose
    exact acceptable.leafFits leaf role leafPresent purpose
  · intro all
    rcases all with ⟨⟨checked, fits⟩, constraints⟩
    refine ⟨checked, ?_, constraints⟩
    intro other role otherPresent purpose
    rw [leafPresent, Option.some.injEq] at otherPresent
    exact otherPresent ▸ fits role purpose

/-- Appending an issuer adds its obligations over the whole chain. -/
theorem pathChecked_concat_iff
    {anchor : Certificate} (lastPresent : chain.getLast? = some last) :
    PathChecked signatures policy validationTime positiveFraction
        (chain ++ [anchor]) ↔
      PathChecked signatures policy validationTime positiveFraction chain ∧
        IssuerChecked signatures policy chain last anchor ∧
        CertChecked validationTime positiveFraction anchor := by
  have nonempty : chain ≠ [] := by
    rintro rfl
    cases lastPresent
  have positive := List.length_pos_iff.mpr nonempty
  have topPresent :
      (chain ++ [anchor])[chain.length]? = some anchor := by
    simp
  have lastIndex : chain[chain.length - 1]? = some last := by
    rw [← List.getLast?_eq_getElem?, lastPresent]
  constructor
  · intro checked
    refine ⟨⟨?_, ?_⟩, ?_, ?_⟩
    · intro i child issuer childPresent issuerPresent
      have bounded : i + 1 < chain.length :=
        (List.getElem?_eq_some_iff.mp issuerPresent).1
      have inside :=
        checked.issuers i child issuer
          (by rwa [List.getElem?_append_left (by omega)])
          (by rwa [List.getElem?_append_left bounded])
      rwa [List.take_append_of_le_length (by omega)] at inside
    · intro cert member
      exact checked.certs cert (List.mem_append_left _ member)
    · have top :=
        checked.issuers (chain.length - 1) last anchor
          (by rwa [List.getElem?_append_left (by omega)])
          (by rwa [Nat.sub_add_cancel positive])
      rwa [Nat.sub_add_cancel positive, List.take_left] at top
    · exact checked.certs anchor (by simp)
  · intro all
    rcases all with ⟨checked, issuerChecked, certChecked⟩
    constructor
    · intro i child issuer childPresent issuerPresent
      have bounded : i + 1 < (chain ++ [anchor]).length :=
        (List.getElem?_eq_some_iff.mp issuerPresent).1
      rw [List.length_append, List.length_singleton] at bounded
      rw [List.getElem?_append_left (by omega)] at childPresent
      rcases Nat.lt_or_ge (i + 1) chain.length with inside | atEnd
      · rw [List.getElem?_append_left inside] at issuerPresent
        rw [List.take_append_of_le_length (by omega)]
        exact checked.issuers i child issuer childPresent issuerPresent
      · have length : chain.length = i + 1 := by omega
        rw [← length, topPresent, Option.some.injEq] at issuerPresent
        rw [length, Nat.add_sub_cancel, childPresent,
          Option.some.injEq] at lastIndex
        subst issuerPresent
        subst lastIndex
        rwa [← length, List.take_left]
    · intro cert member
      rcases List.mem_append.mp member with inChain | isAnchor
      · exact checked.certs cert inChain
      · rw [List.mem_singleton.mp isAnchor]
        exact certChecked

/-- A chain with a last certificate has a first one. -/
theorem exists_head?_of_getLast?
    (lastPresent : chain.getLast? = some last) :
    ∃ leaf, chain.head? = some leaf := by
  cases chain with
  | nil => cases lastPresent
  | cons leaf rest => exact ⟨leaf, rfl⟩

/-- Below an acceptable path's top the chain passes its own checks. -/
theorem verifyChainCerts_of_concat
    {anchor : Certificate}
    (leafPresent : chain.head? = some leaf)
    (lastPresent : chain.getLast? = some last)
    (acceptable :
      AcceptablePath crates signatures policy validationTime leafPurpose
        positiveFraction (chain ++ [anchor])) :
    verifyChainCerts crates signatures policy chain leaf validationTime
        leafPurpose positiveFraction = .ok () := by
  have headPresent : (chain ++ [anchor]).head? = some leaf := by
    rw [List.head?_append, leafPresent, Option.some_or]
  have checked :=
    (pathChecked_concat_iff lastPresent).1 acceptable.toPathChecked
  rw [verifyChainCerts_eq_ok_iff]
  refine ⟨checked.1, ?_⟩
  intro role purpose
  exact acceptable.leafFits leaf role headPresent purpose

/-- A candidate is taken exactly when it makes the path acceptable. -/
theorem verifyCandidate_eq_ok_iff
    {anchor result : Certificate}
    (leafPresent : chain.head? = some leaf)
    (lastPresent : chain.getLast? = some last)
    (certs :
      verifyChainCerts crates signatures policy chain leaf validationTime
          leafPurpose positiveFraction = .ok ()) :
    (last.tbsCertificate.issuer = anchor.tbsCertificate.subject ∧
        verifyCandidate crates signatures policy chain last validationTime
            positiveFraction anchor = .ok result) ↔
      result = anchor ∧
        AcceptablePath crates signatures policy validationTime leafPurpose
          positiveFraction (chain ++ [anchor]) := by
  have headPresent : (chain ++ [anchor]).head? = some leaf := by
    rw [List.head?_append, leafPresent, Option.some_or]
  rw [verifyChainCerts_eq_ok_iff] at certs
  rw [acceptablePath_iff headPresent, verifyChainCerts_eq_ok_iff,
    pathChecked_concat_iff lastPresent]
  simp only [certs.1, true_and, verifyCandidate, bind_eq_ok,
    exists_unit_eq_ok, pure_eq_ok, rejectDuplicateExtensions_eq_ok_iff,
    rejectUnknownCriticalExtensions_eq_ok_iff, checkValidity_eq_ok_iff,
    validateIntermediateCaExtensions_eq_ok_iff, enforcePathLen_eq_ok_iff]
  constructor
  · intro passed
    rcases passed with
      ⟨name, signed, distinct, ⟨noCa, known⟩, profile, ⟨_, depth⟩, inTime,
        constraints, rfl⟩
    refine
      ⟨rfl,
        ⟨⟨⟨⟨name, signed, profile, ?_⟩, ?_⟩,
            ⟨⟨distinct, known, inTime⟩, noCa⟩⟩,
          certs.2⟩,
        constraints⟩
    · exact fun maxDepth has => (depth maxDepth has).2
    · exact fun maxDepth has => (depth maxDepth has).1
  · intro all
    rcases all with ⟨rfl, ⟨⟨issuer, cert⟩, _⟩, constraints⟩
    rcases issuer.caProfile.1 with ⟨pathLen, read⟩
    refine
      ⟨issuer.name, issuer.signed, cert.distinctExtensions,
        ⟨cert.restrictsNoCa, cert.criticalExtensions⟩, issuer.caProfile,
        ⟨⟨_, read⟩, ?_⟩, cert.inTime, constraints, rfl⟩
    intro maxDepth has
    exact ⟨issuer.readable maxDepth has, issuer.pathLen maxDepth has⟩

end Paths

/-! ## The two exits -/

section Exits

variable {crates : Crates} {signatures : Signatures} {store : TrustStore}
variable {chain : List Certificate} {leaf last : Certificate}

/-- A self-issued certificate whose octets are, first in the store, those of `root`. -/
structure IsInStore (crates : Crates) (store : TrustStore)
    (cert : Certificate) (root : TrustAnchor) : Prop where
  selfIssued : cert.tbsCertificate.issuer = cert.tbsCertificate.subject
  encoded : crates.certificateToDer cert = .ok root.der
  first :
    ∃ before after,
      store.anchors = before ++ root :: after ∧
        ∀ earlier ∈ before, earlier.der ≠ root.der

/-- A certificate that is not self-issued, or can be encoded and is not in the store. -/
def IsNotInStore (crates : Crates) (store : TrustStore)
    (cert : Certificate) : Prop :=
  cert.tbsCertificate.issuer = cert.tbsCertificate.subject →
    ∃ der,
      crates.certificateToDer cert = .ok der ∧
        ∀ anchor ∈ store.anchors, anchor.der ≠ der

theorem findInChainRoot_eq_ok_some_iff
    {root : TrustAnchor} :
    store.findInChainRoot crates last = .ok (some root) ↔
      IsInStore crates store last root := by
  rw [TrustStore.findInChainRoot]
  split
  · next selfIssued =>
      simp only [bind_eq_ok, mapError_eq_ok, pure_eq_ok,
        List.find?_eq_some_iff_append, beq_iff_eq, Bool.not_eq_true',
        beq_eq_false_iff_ne]
      constructor
      · intro found
        rcases found with ⟨der, encoded, same, before, after, split, first⟩
        subst same
        exact ⟨selfIssued, encoded, before, after, split, first⟩
      · intro inStore
        rcases inStore.first with ⟨before, after, split, first⟩
        exact ⟨root.der, inStore.encoded, rfl, before, after, split, first⟩
  · next notSelfIssued =>
      refine iff_of_false (by simp) ?_
      intro inStore
      exact notSelfIssued inStore.selfIssued

theorem findInChainRoot_eq_ok_none_iff :
    store.findInChainRoot crates last = .ok none ↔
      IsNotInStore crates store last := by
  rw [TrustStore.findInChainRoot, IsNotInStore]
  split
  · next selfIssued =>
      simp only [bind_eq_ok, mapError_eq_ok, pure_eq_ok,
        List.find?_eq_none, beq_iff_eq, selfIssued, forall_const]
  · next notSelfIssued => simp [notSelfIssued]

variable {validationTime : Option Der.DateTime}
variable {leafPurpose : Option CertRole} {positiveFraction : Bool}

/-- The candidate loop returns the first anchor that makes the path acceptable. -/
theorem verifyChainInner_eq_ok_iff_of_notInStore
    {result : Certificate}
    (leafPresent : chain.head? = some leaf)
    (lastPresent : chain.getLast? = some last)
    (certs :
      verifyChainCerts crates signatures store.signaturePolicy chain leaf
          validationTime leafPurpose positiveFraction = .ok ())
    (absent : store.findInChainRoot crates last = .ok none) :
    store.verifyChainInner crates signatures chain validationTime leafPurpose
        positiveFraction = .ok result ↔
      ∃ before after,
        store.anchors.map TrustAnchor.cert = before ++ result :: after ∧
          AcceptablePath crates signatures store.signaturePolicy
            validationTime leafPurpose positiveFraction
            (chain ++ [result]) ∧
          ∀ earlier ∈ before,
            ¬ AcceptablePath crates signatures store.signaturePolicy
              validationTime leafPurpose positiveFraction
              (chain ++ [earlier]) := by
  have candidate :
      ∀ anchor,
        ((anchor.tbsCertificate.subject == last.tbsCertificate.issuer) =
              true ∧
            Accepts
              (verifyCandidate crates signatures store.signaturePolicy
                chain last validationTime positiveFraction anchor)) ↔
          AcceptablePath crates signatures store.signaturePolicy
            validationTime leafPurpose positiveFraction
            (chain ++ [anchor]) := by
    intro anchor
    rw [beq_iff_eq, eq_comm, Accepts, ← exists_and_left]
    simp only [verifyCandidate_eq_ok_iff leafPresent lastPresent certs,
      exists_eq_left]
  have searched :
      store.verifyChainInner crates signatures chain validationTime
          leafPurpose positiveFraction = .ok result ↔
        (store.findAllIssuers last).find?
            (fun anchor =>
              decide
                (Accepts
                  (verifyCandidate crates signatures store.signaturePolicy
                    chain last validationTime positiveFraction anchor))) =
          some result := by
    simp only [TrustStore.verifyChainInner, leafPresent, lastPresent, certs,
      absent, ok_bind]
    cases candidates : store.findAllIssuers last with
    | nil => simp
    | cons first rest =>
        apply firstOk_eq_ok_iff
        intro anchor value verified
        simp only [verifyCandidate, bind_eq_ok, pure_eq_ok] at verified
        grind
  rw [searched, TrustStore.findAllIssuers, List.find?_filter,
    List.find?_eq_some_iff_append]
  simp only [Bool.not_eq_true', decide_eq_true_iff, decide_eq_false_iff_not,
    candidate]
  constructor
  · intro found
    rcases found with ⟨acceptable, before, after, split, refused⟩
    exact ⟨before, after, split, acceptable, refused⟩
  · intro found
    rcases found with ⟨before, after, split, acceptable, refused⟩
    exact ⟨acceptable, before, after, split, refused⟩

/-- A chain that ends in the store is accepted as it is, under its own key. -/
theorem verifyChainInner_eq_ok_iff_of_inStore
    {root : TrustAnchor} {result : Certificate}
    (leafPresent : chain.head? = some leaf)
    (lastPresent : chain.getLast? = some last)
    (found : store.findInChainRoot crates last = .ok (some root)) :
    store.verifyChainInner crates signatures chain validationTime leafPurpose
        positiveFraction = .ok result ↔
      root.cert = result ∧
        signatures.SigOk store.signaturePolicy last last ∧
        AcceptablePath crates signatures store.signaturePolicy
          validationTime leafPurpose positiveFraction chain := by
  simp only [TrustStore.verifyChainInner, leafPresent, lastPresent, found,
    bind_eq_ok, exists_unit_eq_ok, pure_eq_ok, Except.ok.injEq,
    exists_eq_left', acceptablePath_iff leafPresent, Signatures.SigOk]
  tauto

/--
Chain verification accepts exactly the acceptable paths.  It returns an anchor
when the chain ends in that anchor, is acceptable and verifies under its own
key, or when the chain does not end in the store and the anchor is the first
one that makes the chain acceptable by being appended.
-/
theorem verifyChainInner_eq_ok_iff
    (crates : Crates)
    (signatures : Signatures)
    (store : TrustStore)
    (chain : List Certificate)
    (validationTime : Option Der.DateTime)
    (leafPurpose : Option CertRole)
    (positiveFraction : Bool)
    (result : Certificate) :
    store.verifyChainInner crates signatures chain validationTime leafPurpose
        positiveFraction = .ok result ↔
      ∃ last,
        chain.getLast? = some last ∧
          ((∃ root,
              IsInStore crates store last root ∧ root.cert = result ∧
                signatures.SigOk store.signaturePolicy last last ∧
                AcceptablePath crates signatures store.signaturePolicy
                  validationTime leafPurpose positiveFraction chain) ∨
            IsNotInStore crates store last ∧
              ∃ before after,
                store.anchors.map TrustAnchor.cert =
                    before ++ result :: after ∧
                  AcceptablePath crates signatures store.signaturePolicy
                    validationTime leafPurpose positiveFraction
                    (chain ++ [result]) ∧
                  ∀ earlier ∈ before,
                    ¬ AcceptablePath crates signatures store.signaturePolicy
                      validationTime leafPurpose positiveFraction
                      (chain ++ [earlier])) := by
  simp only [← findInChainRoot_eq_ok_some_iff,
    ← findInChainRoot_eq_ok_none_iff]
  constructor
  · intro accepted
    rcases exit_of_verifyChainInner accepted with
      ⟨leaf, last, leafPresent, lastPresent, certs, exit⟩
    refine ⟨last, lastPresent, ?_⟩
    cases exit with
    | inChainRoot root found selfSigned constraints returned =>
        left
        rw [verifyChainInner_eq_ok_iff_of_inStore leafPresent lastPresent
          found] at accepted
        exact ⟨root, found, accepted⟩
    | candidate anchor absent member verified =>
        right
        rw [verifyChainInner_eq_ok_iff_of_notInStore leafPresent lastPresent
          certs absent] at accepted
        exact ⟨absent, accepted⟩
  · intro acceptable
    rcases acceptable with ⟨last, lastPresent, inStore | notInStore⟩
    · rcases inStore with ⟨root, found, rest⟩
      rcases exists_head?_of_getLast? lastPresent with ⟨leaf, leafPresent⟩
      rw [verifyChainInner_eq_ok_iff_of_inStore leafPresent lastPresent found]
      exact rest
    · rcases notInStore with
        ⟨absent, before, after, split, path, refused⟩
      rcases exists_head?_of_getLast? lastPresent with ⟨leaf, leafPresent⟩
      have certs := verifyChainCerts_of_concat leafPresent lastPresent path
      rw [verifyChainInner_eq_ok_iff_of_notInStore leafPresent lastPresent
        certs absent]
      exact ⟨before, after, split, path, refused⟩

end Exits

end RitspLtv.Trust.ChainCompleteness
