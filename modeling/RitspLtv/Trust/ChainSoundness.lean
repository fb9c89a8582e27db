import RitspLtv.Ltv.NameConstraintSemantics
import RitspLtv.Reference

/-!
# Soundness of chain verification

What a certification path must satisfy is stated once, as `ValidPath`, for any
list of certificates from a leaf up to its issuer, its issuer's issuer, and so
on.  The checks on the chain itself make the chain a valid path; the checks on
a candidate anchor extend a valid path by one issuer.  The two exits of chain
verification then differ only in which of these paths they have built.
-/

namespace RitspLtv.Trust.ChainSoundness

open RitspLtv.Foundation.Checks
open RitspLtv.RustStd
open RitspLtv.DerUtils
open RitspLtv.Crypto.Verify
open RitspLtv.Ltv.X509Ext
open RitspLtv.Ltv.NameConstraints
open RitspLtv.Trust.Store

/-! ## Valid paths -/

/-- The certificate asserts `cA:TRUE`. -/
def AssertsCa (cert : Certificate) : Prop :=
  ∃ pathLen, basicConstraints cert = .ok (true, pathLen)

/-- A key usage, when present, asserts `keyCertSign`. -/
def KeyUsageAllowsCertSign (cert : Certificate) : Prop :=
  keyCertSign cert = .ok none ∨ keyCertSign cert = .ok (some true)

/-- The certificate carries a `pathLenConstraint`. -/
def HasPathLen (cert : Certificate) (maxDepth : Nat) : Prop :=
  ∃ isCa, basicConstraints cert = .ok (isCa, some maxDepth)

/-- A CA certificate that is not self-issued. -/
def isSubordinateCa (cert : Certificate) : Bool :=
  match basicConstraints cert with
  | .ok (true, _) => !isSelfIssued cert
  | _ => false

/-- Every critical extension is one the validator recognises. -/
def CriticalExtensionsRecognized (cert : Certificate) : Prop :=
  ∀ ext ∈ cert.extensions, ext.critical = true →
    ext.extnId.toString ∈ recognizedCriticalExtOids ∨
      ext.extnId.toString ∈ recognizedCriticalExtOidsLtv

/-- The time is inside the validity window, strictly before its end when it has a fraction. -/
def InsideValidity (time : Der.DateTime) (positiveFraction : Bool)
    (cert : Certificate) : Prop :=
  cert.tbsCertificate.validity.notBefore.toDateTime ≤ time ∧
    time ≤ cert.tbsCertificate.validity.notAfter.toDateTime ∧
    (positiveFraction = true →
      time < cert.tbsCertificate.validity.notAfter.toDateTime)

/-- A path `[leaf, …, top]` in which every certificate is issued by the next. -/
structure ValidPath (signatures : Signatures) (policy : SignaturePolicy)
    (validationTime : Option Der.DateTime) (positiveFraction : Bool)
    (path : List Certificate) : Prop where
  names :
    ∀ i child issuer, path[i]? = some child → path[i + 1]? = some issuer →
      child.tbsCertificate.issuer = issuer.tbsCertificate.subject
  signed :
    ∀ i child issuer, path[i]? = some child → path[i + 1]? = some issuer →
      signatures.SigOk policy child issuer
  caProfile :
    ∀ j issuer, 1 ≤ j → path[j]? = some issuer →
      AssertsCa issuer ∧ KeyUsageAllowsCertSign issuer
  pathLen :
    ∀ j issuer maxDepth, 1 ≤ j → path[j]? = some issuer →
      HasPathLen issuer maxDepth →
        (path.take j).countP isSubordinateCa ≤ maxDepth
  distinctExtensions :
    ∀ cert ∈ path, (cert.extensions.map Extension.extnId).Nodup
  criticalExtensions :
    ∀ cert ∈ path, CriticalExtensionsRecognized cert
  inTime :
    ∀ time, validationTime = some time →
      ∀ cert ∈ path, InsideValidity time positiveFraction cert

/-! ## What one check establishes -/

theorem rejectDuplicateExtensions_eq_ok_iff
    {cert : Certificate} {label : String} :
    rejectDuplicateExtensions cert label = .ok () ↔
      (cert.extensions.map Extension.extnId).Nodup := by
  have distinct :
      firstDuplicate [] cert.extensions = none ↔
        (cert.extensions.map Extension.extnId).Nodup := by
    rw [firstDuplicate_eq_none_iff]
    simp
  rw [← distinct, rejectDuplicateExtensions]
  cases firstDuplicate [] cert.extensions <;> simp

theorem criticalExtensionsRecognized_of_accepted
    {cert : Certificate} {label : String}
    (accepted : rejectUnknownCriticalExtensions cert label = .ok ()) :
    CriticalExtensionsRecognized cert := by
  rw [rejectUnknownCriticalExtensions, forM_eq_ok] at accepted
  intro ext member critical
  have passed := accepted ext member
  rw [rejectUnknownCriticalExtension, critical] at passed
  simp only [Bool.true_eq_false, if_false, bind_eq_ok,
    rejectIf_eq_ok] at passed
  rcases passed with ⟨_, _, recognized⟩
  tauto

theorem checkValidity_eq_ok_iff
    {validationTime : Option Der.DateTime} {positiveFraction : Bool}
    {index : Nat} {cert : Certificate} :
    checkValidity validationTime positiveFraction index cert = .ok () ↔
      ∀ time, validationTime = some time →
        InsideValidity time positiveFraction cert := by
  cases validationTime with
  | none => simp [checkValidity]
  | some time =>
      simp only [checkValidity, bind_eq_ok, rejectIf_eq_ok, exists_const,
        InsideValidity, Option.some.injEq, forall_eq', not_lt, not_or,
        not_and]
      apply and_congr_right
      intro _
      apply and_congr_right
      intro notAfter
      apply imp_congr_right
      intro _
      exact ⟨lt_of_le_of_ne notAfter, ne_of_lt⟩

theorem validateIntermediateCaExtensions_eq_ok_iff
    {cert : Certificate} {label : String} :
    validateIntermediateCaExtensions cert label = .ok () ↔
      AssertsCa cert ∧ KeyUsageAllowsCertSign cert := by
  simp only [validateIntermediateCaExtensions, bind_eq_ok, rejectIf_eq_ok,
    exists_const, Prod.exists, AssertsCa, KeyUsageAllowsCertSign]
  constructor
  · intro accepted
    rcases accepted with ⟨isCa, pathLen, read, isCaTrue, bit, usage, notFalse⟩
    rw [Bool.not_eq_false] at isCaTrue
    subst isCaTrue
    refine ⟨⟨pathLen, read⟩, ?_⟩
    rcases bit with _ | _ | _
    · exact .inl usage
    · exact absurd rfl notFalse
    · exact .inr usage
  · intro both
    rcases both with ⟨⟨pathLen, read⟩, usage⟩
    refine ⟨true, pathLen, read, by simp, ?_⟩
    rcases usage with absent | asserted
    · exact ⟨none, absent, by simp⟩
    · exact ⟨some true, asserted, by simp⟩

/-- The loop counts the subordinate CAs below the issuer. -/
theorem countSubordinateCas_eq_ok
    {label : String} {count total : Nat} {below : List Certificate}
    (counted : countSubordinateCas label count below = .ok total) :
    total = count + below.countP isSubordinateCa := by
  induction below generalizing count with
  | nil =>
      cases counted
      rfl
  | cons cert below induction =>
      simp only [countSubordinateCas, bind_eq_ok, mapError_eq_ok,
        Prod.exists] at counted
      rcases counted with ⟨isCa, pathLen, read, counted⟩
      have rest := induction counted
      have classified :
          isSubordinateCa cert = (isCa && !isSelfIssued cert) := by
        rw [isSubordinateCa, read]
        cases isCa <;> rfl
      rw [List.countP_cons, classified, rest]
      cases isCa <;> cases isSelfIssued cert <;> simp
      omega

theorem countP_le_of_enforcePathLen
    {issuer : Certificate} {below : List Certificate} {label : String}
    (enforced : enforcePathLen issuer below label = .ok ())
    {maxDepth : Nat} (constrained : HasPathLen issuer maxDepth) :
    below.countP isSubordinateCa ≤ maxDepth := by
  rcases constrained with ⟨isCa, read⟩
  simp only [enforcePathLen, read, mapError_ok, ok_bind, bind_eq_ok,
    rejectIf_eq_ok] at enforced
  rcases enforced with ⟨total, counted, bounded⟩
  have exact := countSubordinateCas_eq_ok counted
  omega

/-! ## Building a valid path -/

section Paths

variable {signatures : Signatures} {policy : SignaturePolicy}
variable {validationTime : Option Der.DateTime} {positiveFraction : Bool}

/-- The obligations of an issuer over the certificates below it. -/
structure IssuerAccepted (signatures : Signatures) (policy : SignaturePolicy)
    (below : List Certificate) (child issuer : Certificate) : Prop where
  name : child.tbsCertificate.issuer = issuer.tbsCertificate.subject
  signed : signatures.SigOk policy child issuer
  caProfile : AssertsCa issuer ∧ KeyUsageAllowsCertSign issuer
  pathLen :
    ∀ maxDepth, HasPathLen issuer maxDepth →
      below.countP isSubordinateCa ≤ maxDepth

/-- The obligations of a certificate on its own. -/
structure CertAccepted (validationTime : Option Der.DateTime)
    (positiveFraction : Bool) (cert : Certificate) : Prop where
  distinctExtensions : (cert.extensions.map Extension.extnId).Nodup
  criticalExtensions : CriticalExtensionsRecognized cert
  inTime :
    ∀ time, validationTime = some time →
      InsideValidity time positiveFraction cert

/-- A path is valid when each certificate and each issuer in it is accepted. -/
theorem validPath_of_accepted
    {path : List Certificate}
    (issuers :
      ∀ i child issuer, path[i]? = some child → path[i + 1]? = some issuer →
        IssuerAccepted signatures policy (path.take (i + 1)) child issuer)
    (certs :
      ∀ cert ∈ path, CertAccepted validationTime positiveFraction cert) :
    ValidPath signatures policy validationTime positiveFraction path := by
  -- every position above the leaf has a certificate below it
  have below :
      ∀ j issuer, 1 ≤ j → path[j]? = some issuer →
        ∃ child,
          IssuerAccepted signatures policy (path.take j) child issuer := by
    intro j issuer positive present
    rcases Nat.exists_eq_add_of_le' positive with ⟨i, rfl⟩
    have bounded : i + 1 < path.length :=
      (List.getElem?_eq_some_iff.mp present).1
    have childPresent : path[i]? = some path[i] :=
      List.getElem?_eq_getElem (by omega)
    exact ⟨path[i], issuers i _ issuer childPresent present⟩
  constructor
  · intro i child issuer childPresent issuerPresent
    exact (issuers i child issuer childPresent issuerPresent).name
  · intro i child issuer childPresent issuerPresent
    exact (issuers i child issuer childPresent issuerPresent).signed
  · intro j issuer positive present
    rcases below j issuer positive present with ⟨child, accepted⟩
    exact accepted.caProfile
  · intro j issuer maxDepth positive present constrained
    rcases below j issuer positive present with ⟨child, accepted⟩
    exact accepted.pathLen maxDepth constrained
  · intro cert member
    exact (certs cert member).distinctExtensions
  · intro cert member
    exact (certs cert member).criticalExtensions
  · intro time given cert member
    exact (certs cert member).inTime time given

variable {crates : Crates}

/-- A verified link makes the next certificate an accepted issuer. -/
theorem issuerAccepted_of_verifyLink
    {chain : List Certificate} {i : Nat} {child issuer : Certificate}
    (childPresent : chain[i]? = some child)
    (issuerPresent : chain[i + 1]? = some issuer)
    (verified : verifyLink crates signatures policy chain i = .ok ()) :
    IssuerAccepted signatures policy (chain.take (i + 1)) child issuer := by
  simp only [verifyLink, childPresent, issuerPresent, bind_eq_ok,
    rejectIf_eq_ok, exists_const, not_not, exists_unit_eq_ok] at verified
  rcases verified with ⟨name, signed, profile, enforced⟩
  constructor
  · exact name
  · exact signed
  · exact validateIntermediateCaExtensions_eq_ok_iff.1 profile
  · intro maxDepth constrained
    exact countP_le_of_enforcePathLen enforced constrained

/-- The checks on the chain itself make the chain a valid path. -/
theorem accepted_of_verifyChainCerts
    {chain : List Certificate} {leaf : Certificate}
    {leafPurpose : Option CertRole}
    (verified :
      verifyChainCerts crates signatures policy chain leaf validationTime
          leafPurpose positiveFraction = .ok ()) :
    (∀ i child issuer, chain[i]? = some child → chain[i + 1]? = some issuer →
        IssuerAccepted signatures policy (chain.take (i + 1)) child issuer) ∧
      ∀ cert ∈ chain, CertAccepted validationTime positiveFraction cert := by
  simp only [verifyChainCerts, bind_eq_ok, forM_eq_ok, exists_const,
    exists_unit_eq_ok] at verified
  rcases verified with ⟨extensions, _, inTime, links⟩
  constructor
  · intro i child issuer childPresent issuerPresent
    have bounded : i + 1 < chain.length :=
      (List.getElem?_eq_some_iff.mp issuerPresent).1
    exact
      issuerAccepted_of_verifyLink childPresent issuerPresent
        (links i (List.mem_range.mpr (by omega)))
  · intro cert member
    rcases List.getElem?_of_mem member with ⟨index, present⟩
    have indexed : (cert, index) ∈ chain.zipIdx :=
      List.mk_mem_zipIdx_iff_getElem?.mpr present
    rcases extensions (cert, index) indexed with ⟨distinct, known⟩
    constructor
    · exact rejectDuplicateExtensions_eq_ok_iff.1 distinct
    · exact criticalExtensionsRecognized_of_accepted known
    · exact checkValidity_eq_ok_iff.1 (inTime (cert, index) indexed)

/-- An accepted candidate anchor satisfies the obligations of an issuer of the chain. -/
theorem accepted_of_verifyCandidate
    {chain : List Certificate} {last anchor result : Certificate}
    (name : last.tbsCertificate.issuer = anchor.tbsCertificate.subject)
    (verified :
      verifyCandidate crates signatures policy chain last validationTime
          positiveFraction anchor = .ok result) :
    result = anchor ∧
      IssuerAccepted signatures policy chain last anchor ∧
      CertAccepted validationTime positiveFraction anchor ∧
      enforceNameConstraintsPath crates (chain ++ [anchor]) = .ok () := by
  simp only [verifyCandidate, bind_eq_ok, exists_unit_eq_ok,
    pure_eq_ok] at verified
  rcases verified with
    ⟨signed, distinct, known, profile, enforced, inTime, constraints, rfl⟩
  refine ⟨rfl, ?_, ?_, constraints⟩
  · constructor
    · exact name
    · exact signed
    · exact validateIntermediateCaExtensions_eq_ok_iff.1 profile
    · intro maxDepth constrained
      exact countP_le_of_enforcePathLen enforced constrained
  · constructor
    · exact rejectDuplicateExtensions_eq_ok_iff.1 distinct
    · exact criticalExtensionsRecognized_of_accepted known
    · exact checkValidity_eq_ok_iff.1 inTime

/-- Extending an accepted chain by an accepted issuer of its last certificate. -/
theorem validPath_concat
    {chain : List Certificate} {last anchor : Certificate}
    (issuers :
      ∀ i child issuer, chain[i]? = some child → chain[i + 1]? = some issuer →
        IssuerAccepted signatures policy (chain.take (i + 1)) child issuer)
    (certs :
      ∀ cert ∈ chain, CertAccepted validationTime positiveFraction cert)
    (lastPresent : chain.getLast? = some last)
    (issuerAccepted : IssuerAccepted signatures policy chain last anchor)
    (certAccepted : CertAccepted validationTime positiveFraction anchor) :
    ValidPath signatures policy validationTime positiveFraction
      (chain ++ [anchor]) := by
  apply validPath_of_accepted
  · intro i child issuer childPresent issuerPresent
    have bounded : i + 1 < (chain ++ [anchor]).length :=
      (List.getElem?_eq_some_iff.mp issuerPresent).1
    rw [List.length_append, List.length_singleton] at bounded
    rcases Nat.lt_or_ge (i + 1) chain.length with inside | atEnd
    · rw [List.getElem?_append_left (by omega)] at childPresent
      rw [List.getElem?_append_left inside] at issuerPresent
      rw [List.take_append_of_le_length (by omega)]
      exact issuers i child issuer childPresent issuerPresent
    · have length : chain.length = i + 1 := by omega
      rw [List.getElem?_append_right (by omega), length, Nat.sub_self,
        List.getElem?_cons_zero, Option.some.injEq] at issuerPresent
      rw [List.getElem?_append_left (by omega)] at childPresent
      rw [List.getLast?_eq_getElem?, length, Nat.add_sub_cancel,
        childPresent, Option.some.injEq] at lastPresent
      subst issuerPresent
      subst lastPresent
      rw [← length, List.take_left]
      exact issuerAccepted
  · intro cert member
    rcases List.mem_append.mp member with inChain | isAnchor
    · exact certs cert inChain
    · rw [List.mem_singleton.mp isAnchor]
      exact certAccepted

end Paths

/-! ## The two exits -/

section Exits

variable {crates : Crates} {signatures : Signatures} {store : TrustStore}
variable {chain : List Certificate} {validationTime : Option Der.DateTime}
variable {leafPurpose : Option CertRole} {positiveFraction : Bool}

/-- What has been established when a chain is accepted. -/
inductive Exit (crates : Crates) (signatures : Signatures)
    (store : TrustStore) (chain : List Certificate)
    (validationTime : Option Der.DateTime) (positiveFraction : Bool)
    (last result : Certificate) : Prop where
  /-- The last certificate is an anchor and verifies under its own key. -/
  | inChainRoot (anchor : TrustAnchor)
      (found : store.findInChainRoot crates last = .ok (some anchor))
      (selfSigned : signatures.SigOk store.signaturePolicy last last)
      (constraints : enforceNameConstraintsPath crates chain = .ok ())
      (returned : anchor.cert = result)
  /-- A candidate anchor completes the path. -/
  | candidate (anchor : Certificate)
      (absent : store.findInChainRoot crates last = .ok none)
      (member : anchor ∈ store.findAllIssuers last)
      (verified :
        verifyCandidate crates signatures store.signaturePolicy chain last
            validationTime positiveFraction anchor = .ok result)

/-- An accepted chain has passed its own checks and left through one of the exits. -/
theorem exit_of_verifyChainInner
    {result : Certificate}
    (accepted :
      store.verifyChainInner crates signatures chain validationTime
          leafPurpose positiveFraction = .ok result) :
    ∃ leaf last,
      chain.head? = some leaf ∧ chain.getLast? = some last ∧
        verifyChainCerts crates signatures store.signaturePolicy chain leaf
            validationTime leafPurpose positiveFraction = .ok () ∧
        Exit crates signatures store chain validationTime positiveFraction
          last result := by
  rw [TrustStore.verifyChainInner] at accepted
  cases leafPresent : chain.head? with
  | none => simp [leafPresent] at accepted
  | some leaf =>
      cases lastPresent : chain.getLast? with
      | none => simp [leafPresent, lastPresent] at accepted
      | some last =>
          simp only [leafPresent, lastPresent, bind_eq_ok,
            exists_unit_eq_ok] at accepted
          rcases accepted with ⟨certs, root, found, accepted⟩
          refine ⟨leaf, last, rfl, rfl, certs, ?_⟩
          cases root with
          | some anchor =>
              simp only [bind_eq_ok, exists_unit_eq_ok,
                pure_eq_ok] at accepted
              rcases accepted with ⟨selfSigned, constraints, returned⟩
              exact .inChainRoot anchor found selfSigned constraints returned
          | none =>
              cases candidates : store.findAllIssuers last with
              | nil => simp [candidates] at accepted
              | cons first rest =>
                  simp only [candidates] at accepted
                  rcases exists_attempt_of_firstOk accepted with
                    ⟨anchor, member, verified⟩
                  rw [← candidates] at member
                  exact .candidate anchor found member verified

/-- Whether the chain ends in a self-issued certificate whose DER is in the store. -/
def endsInStore (crates : Crates) (store : TrustStore)
    (chain : List Certificate) : Bool :=
  match chain.getLast? with
  | none => false
  | some last =>
      last.tbsCertificate.issuer == last.tbsCertificate.subject &&
        match crates.certificateToDer last with
        | .error _ => false
        | .ok der => store.containsDer der

/-- The full path: the chain itself when it ends in the store, else with the anchor appended. -/
def fullPath (crates : Crates) (store : TrustStore)
    (chain : List Certificate) (anchor : Certificate) : List Certificate :=
  if endsInStore crates store chain then chain else chain ++ [anchor]

theorem findInChainRoot_eq_ok_some
    {last : Certificate} {anchor : TrustAnchor}
    (found : store.findInChainRoot crates last = .ok (some anchor)) :
    last.tbsCertificate.issuer = last.tbsCertificate.subject ∧
      crates.certificateToDer last = .ok anchor.der ∧
      anchor ∈ store.anchors := by
  rw [TrustStore.findInChainRoot] at found
  split at found
  · next selfIssued =>
      simp only [bind_eq_ok, mapError_eq_ok, pure_eq_ok] at found
      rcases found with ⟨der, encoded, found⟩
      have matched := List.find?_some found
      simp only [beq_iff_eq] at matched
      exact
        ⟨selfIssued, matched ▸ encoded, List.mem_of_find?_eq_some found⟩
  · cases found

/-- The root lookup finds an anchor exactly when the chain ends in the store. -/
theorem endsInStore_eq
    {last : Certificate} {root : Option TrustAnchor}
    (lastPresent : chain.getLast? = some last)
    (found : store.findInChainRoot crates last = .ok root) :
    endsInStore crates store chain = root.isSome := by
  simp only [endsInStore, lastPresent]
  rw [TrustStore.findInChainRoot] at found
  split at found
  · next selfIssued =>
      simp only [bind_eq_ok, mapError_eq_ok, pure_eq_ok] at found
      rcases found with ⟨der, encoded, rfl⟩
      rw [encoded, selfIssued, beq_self_eq_true, Bool.true_and,
        List.isSome_find?]
      rfl
  · next notSelfIssued =>
      cases found
      simp [notSelfIssued]

/-- The anchor returned is one of the store. -/
theorem mem_anchors_of_exit
    {last result : Certificate}
    (exit :
      Exit crates signatures store chain validationTime positiveFraction
        last result) :
    result ∈ store.anchors.map TrustAnchor.cert := by
  cases exit with
  | inChainRoot root found selfSigned constraints returned =>
      rw [← returned]
      exact List.mem_map_of_mem (findInChainRoot_eq_ok_some found).2.2
  | candidate candidate absent member verified =>
      rw [TrustStore.findAllIssuers, List.mem_filter, beq_iff_eq] at member
      rcases accepted_of_verifyCandidate member.2.symm verified with
        ⟨rfl, _⟩
      exact member.1

theorem mem_anchors_of_verifyChainInner
    {anchor : Certificate}
    (accepted :
      store.verifyChainInner crates signatures chain validationTime
          leafPurpose positiveFraction = .ok anchor) :
    anchor ∈ store.anchors.map TrustAnchor.cert := by
  rcases exit_of_verifyChainInner accepted with ⟨_, _, _, _, _, exit⟩
  exact mem_anchors_of_exit exit

/-- Through either exit the full path is valid. -/
theorem validPath_of_exit
    {leaf last result : Certificate}
    (lastPresent : chain.getLast? = some last)
    (certs :
      verifyChainCerts crates signatures store.signaturePolicy chain leaf
          validationTime leafPurpose positiveFraction = .ok ())
    (exit :
      Exit crates signatures store chain validationTime positiveFraction
        last result) :
    ValidPath signatures store.signaturePolicy validationTime
      positiveFraction (fullPath crates store chain result) := by
  rcases accepted_of_verifyChainCerts certs with ⟨issuers, certsAccepted⟩
  cases exit with
  | inChainRoot root found selfSigned constraints returned =>
      have inStore := endsInStore_eq lastPresent found
      rw [fullPath, inStore, Option.isSome_some, if_pos rfl]
      exact validPath_of_accepted issuers certsAccepted
  | candidate candidate absent member verified =>
      have notInStore := endsInStore_eq lastPresent absent
      rw [fullPath, notInStore, Option.isSome_none, if_neg (by decide)]
      rw [TrustStore.findAllIssuers, List.mem_filter, beq_iff_eq] at member
      rcases accepted_of_verifyCandidate member.2.symm verified with
        ⟨rfl, issuerAccepted, certAccepted, _⟩
      exact
        validPath_concat issuers certsAccepted lastPresent issuerAccepted
          certAccepted

/-- A chain that ends in the store leaves through its last certificate. -/
theorem selfSigned_of_exit
    {last result : Certificate}
    (lastPresent : chain.getLast? = some last)
    (ends : endsInStore crates store chain = true)
    (exit :
      Exit crates signatures store chain validationTime positiveFraction
        last result) :
    signatures.SigOk store.signaturePolicy last last := by
  cases exit with
  | inChainRoot root found selfSigned constraints returned => exact selfSigned
  | candidate candidate absent member verified =>
      rw [endsInStore_eq lastPresent absent] at ends
      cases ends

/--
Soundness of chain verification.  When a chain is accepted, its full path is
valid under the store's signature policy at the given time, and the returned
anchor is in the store.
-/
theorem verifyChainInner_sound
    (crates : Crates)
    (signatures : Signatures)
    (store : TrustStore)
    (chain : List Certificate)
    (validationTime : Option Der.DateTime)
    (leafPurpose : Option CertRole)
    (positiveFraction : Bool)
    (anchor : Certificate)
    (accepted :
      store.verifyChainInner crates signatures chain validationTime
          leafPurpose positiveFraction = .ok anchor) :
    ValidPath signatures store.signaturePolicy validationTime
        positiveFraction (fullPath crates store chain anchor) ∧
      anchor ∈ store.anchors.map TrustAnchor.cert := by
  rcases exit_of_verifyChainInner accepted with
    ⟨leaf, last, _, lastPresent, certs, exit⟩
  exact ⟨validPath_of_exit lastPresent certs exit, mem_anchors_of_exit exit⟩

/-- A leaf issued by the root verifies against a store that trusts the root. -/
theorem verifyChainInner_sound_leaf :
    ValidPath Reference.signatures .strict
        (some ⟨2026, 6, 1, 0, 0, 0, by decide⟩) true
        (fullPath (Reference.crates Reference.known) Reference.rootStore
          [Reference.leaf] Reference.root) ∧
      Reference.root ∈ Reference.rootStore.anchors.map TrustAnchor.cert :=
  verifyChainInner_sound (Reference.crates Reference.known)
    Reference.signatures Reference.rootStore [Reference.leaf]
    (some ⟨2026, 6, 1, 0, 0, 0, by decide⟩) none true Reference.root
    (by decide +kernel)

end Exits

end RitspLtv.Trust.ChainSoundness
