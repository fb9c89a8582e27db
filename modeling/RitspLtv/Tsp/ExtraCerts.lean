import RitspLtv.Tsp.ClimbedChains
import RitspLtv.Tsp.TokenSoundness
import Mathlib.Data.List.Perm.Subperm

/-!
# Extra certificates

What the certificates supplied with a token can change.  They are an unsigned
bag, and may come in any order: behind the certificates of the token itself,
each of them may become the signer, or the issuer that a chain climbs to.  The
chain is ordered without the store, and goes on from every certificate that is
not self-issued as long as some candidate has the name of its issuer.

An accepted token is therefore accepted with a bag in every order exactly when
every signer that may be found in it passes, and every chain that may be
climbed from there is one that the store verifies.
-/

namespace RitspLtv.Tsp.ExtraCerts

open RitspLtv.Foundation.Checks
open RitspLtv.RustStd
open RitspLtv.Crypto.Algorithm
open RitspLtv.Crypto.Verify
open RitspLtv.Trust.Store
open RitspLtv.Tsp.Cms
open RitspLtv.Tsp.Info
open RitspLtv.Tsp.Ess
open RitspLtv.Tsp.SignerProfile
open RitspLtv.Tsp.Token
open RitspLtv.Tsp.TokenSoundness
open RitspLtv.Tsp.ClimbedChains

/-! ## The candidates -/

section Candidates

/-- The certificates that a token holds. -/
def ownCerts (signedData : SignedData) : List Certificate :=
  (signedData.certificates.getD []).filterMap
    CertificateChoices.toCertificate

variable {signedData : SignedData} {extraCerts : List Certificate}

/-- Certificates supplied later come behind the candidates there are. -/
theorem candidateCerts_append
    (signedData : SignedData)
    (extraCerts added : List Certificate) :
    ∃ rest,
      candidateCerts signedData (extraCerts ++ added) =
          candidateCerts signedData extraCerts ++ rest ∧
        ∀ cert ∈ rest, cert ∈ added := by
  rw [candidateCerts, candidateCerts, List.foldl_append]
  generalize
    extraCerts.foldl
      (fun embedded cert =>
        if cert ∈ embedded then embedded else embedded ++ [cert])
      ((signedData.certificates.getD []).filterMap
        CertificateChoices.toCertificate) = embedded
  induction added generalizing embedded with
  | nil => exact ⟨[], by simp, by simp⟩
  | cons extra added induction =>
      rw [List.foldl_cons]
      split
      · rcases induction embedded with ⟨rest, extended, members⟩
        refine ⟨rest, extended, ?_⟩
        intro cert member
        exact List.mem_cons_of_mem extra (members cert member)
      · rcases induction (embedded ++ [extra]) with ⟨rest, extended, members⟩
        refine ⟨extra :: rest, ?_, ?_⟩
        · rw [extended, List.append_assoc, List.singleton_append]
        · intro cert member
          rcases List.mem_cons.mp member with rfl | later
          · exact List.mem_cons_self
          · exact List.mem_cons_of_mem extra (members cert later)

/-- A certificate that is not yet a candidate becomes the last one. -/
theorem candidateCerts_concat
    {cert : Certificate}
    (absent : cert ∉ candidateCerts signedData extraCerts) :
    candidateCerts signedData (extraCerts ++ [cert]) =
      candidateCerts signedData extraCerts ++ [cert] := by
  rw [candidateCerts, List.foldl_append, List.foldl_cons, List.foldl_nil]
  exact if_neg absent

theorem mem_candidateCerts_iff_own
    {cert : Certificate} :
    cert ∈ candidateCerts signedData extraCerts ↔
      cert ∈ ownCerts signedData ∨ cert ∈ extraCerts := by
  have isOwn :
      cert ∈ candidateCerts signedData [] ↔ cert ∈ ownCerts signedData :=
    Iff.rfl
  rw [mem_candidateCerts_iff, ← isOwn, mem_candidateCerts_iff]
  simp

/-- In every order the candidates are the token's own, and then the bag's. -/
theorem exists_enumerates
    {bag inserted : List Certificate}
    (signedData : SignedData)
    (permuted : inserted.Perm bag) :
    ∃ rest,
      candidateCerts signedData inserted = ownCerts signedData ++ rest ∧
        Enumerates (ownCerts signedData) bag rest := by
  rcases candidateCerts_append signedData [] inserted with
    ⟨rest, extended, members⟩
  rw [List.nil_append] at extended
  refine ⟨rest, extended, ?_, ?_⟩
  · intro cert member
    exact permuted.mem_iff.mp (members cert member)
  · intro cert member
    have isCandidate : cert ∈ candidateCerts signedData inserted :=
      mem_candidateCerts_iff_own.mpr (.inr (permuted.mem_iff.mpr member))
    rw [extended] at isCandidate
    exact List.mem_append.mp isCandidate

/-- Certificates that the token does not hold are candidates in their order. -/
theorem candidateCerts_of_nodup
    {front : List Certificate}
    (nodup : front.Nodup)
    (notOwn : ∀ cert ∈ front, cert ∉ ownCerts signedData) :
    candidateCerts signedData front = ownCerts signedData ++ front := by
  induction front using List.reverseRecOn with
  | nil => exact (List.append_nil _).symm
  | append_singleton front cert induction =>
      have earlier : front.Nodup := (List.nodup_append.mp nodup).1
      have absent : cert ∉ candidateCerts signedData front := by
        rw [mem_candidateCerts_iff_own, not_or]
        refine ⟨notOwn cert List.mem_concat_self, ?_⟩
        intro member
        exact (List.nodup_append.mp nodup).2.2 cert member cert
          (List.mem_singleton_self cert) rfl
      rw [candidateCerts_concat absent,
        induction earlier fun other member =>
          notOwn other (List.mem_append_left [cert] member),
        List.append_assoc]

/-- Some order of a bag has given certificates of it in front. -/
theorem exists_order
    {front bag : List Certificate}
    (nodup : front.Nodup)
    (notOwn : ∀ cert ∈ front, cert ∉ ownCerts signedData)
    (inside : ∀ cert ∈ front, cert ∈ bag) :
    ∃ inserted rest,
      inserted.Perm bag ∧
        candidateCerts signedData inserted =
          ownCerts signedData ++ front ++ rest ∧
        ∀ cert ∈ rest, cert ∈ bag := by
  have counted := List.subperm_ext_iff.mp (nodup.subperm inside)
  have permuted := List.subperm_append_diff_self_of_count_le counted
  rcases candidateCerts_append signedData front (bag.diff front) with
    ⟨rest, extended, members⟩
  rw [candidateCerts_of_nodup nodup notOwn] at extended
  refine ⟨front ++ bag.diff front, rest, permuted, extended, ?_⟩
  intro cert member
  exact
    permuted.mem_iff.mp (List.mem_append_right front (members cert member))

end Candidates

/-! ## What a token says of itself -/

/-- What is read from a token, whatever certificates are supplied with it. -/
structure Parts where
  signedData : SignedData
  content : Bytes
  signerInfo : SignerInfo
  signedAttrs : List Attribute
  bindings : List EssBinding
  digestAlg : DigestAlgorithm
  tstInfo : TstInfo

namespace Parts

variable {crates : CmsCrates} {signatures : Signatures}
variable {tokenDer : Bytes} {parts other : Parts}

/-- The parts are read from a token, and pass the checks before the signer's. -/
structure ReadFrom (crates : CmsCrates) (parts : Parts)
    (tokenDer : Bytes) : Prop where
  signedData : parseSignedData crates tokenDer = .ok parts.signedData
  content : tstInfoDer parts.signedData = .ok parts.content
  signerInfo : singleSignerInfo parts.signedData = .ok parts.signerInfo
  signedAttrs : requireSignedAttrs parts.signerInfo = .ok parts.signedAttrs
  bindings :
    signingCertificateBindings crates parts.signedAttrs = .ok parts.bindings
  signedOnly : rejectUnsignedBindings parts.signerInfo = .ok ()
  digestAlg : signerDigest parts.signerInfo = .ok parts.digestAlg
  contentType : checkContentType crates parts.signedAttrs = .ok ()
  messageDigest :
    checkMessageDigest crates parts.signedAttrs parts.digestAlg
      parts.content = .ok ()
  tstInfo : parseTstInfoBody crates parts.content = .ok parts.tstInfo

theorem ReadFrom.unique
    (left : parts.ReadFrom crates tokenDer)
    (right : other.ReadFrom crates tokenDer) :
    parts = other := by
  rcases parts with ⟨a, b, c, d, e, f, g⟩
  rcases other with ⟨a', b', c', d', e', f', g'⟩
  have sameData := left.signedData.symm.trans right.signedData
  cases sameData
  have sameContent := left.content.symm.trans right.content
  cases sameContent
  have sameSigner := left.signerInfo.symm.trans right.signerInfo
  cases sameSigner
  have sameAttrs := left.signedAttrs.symm.trans right.signedAttrs
  cases sameAttrs
  have sameBindings := left.bindings.symm.trans right.bindings
  cases sameBindings
  have sameDigest := left.digestAlg.symm.trans right.digestAlg
  cases sameDigest
  have sameInfo := left.tstInfo.symm.trans right.tstInfo
  cases sameInfo
  rfl

/-- A certificate passes the checks that are made of the signer. -/
structure SignedBy (crates : CmsCrates) (signatures : Signatures)
    (parts : Parts) (signer : Certificate) : Prop where
  signature :
    checkSignature crates signatures parts.signerInfo parts.signedAttrs
      signer parts.digestAlg = .ok ()
  timestamping : requireTimestampingEku crates.toCrates signer = .ok ()
  notCa : requireNotCa signer = .ok ()
  keyUsage : requireTimestampSigningKeyUsage crates.toCrates signer = .ok ()
  identity : checkTsaIdentity crates parts.content signer = .ok ()
  genTime :
    checkGenTimeWithinValidity crates signer parts.tstInfo = .ok ()

end Parts

/-- A token is authentic when its parts are read, and their signer is found. -/
theorem verifyTokenCms_eq_ok_iff
    {crates : CmsCrates} {signatures : Signatures} {tokenDer : Bytes}
    {extraCerts : List Certificate} {verified : VerifiedToken}
    {info : TstInfo} :
    verifyTokenCms crates signatures tokenDer extraCerts =
        .ok (verified, info) ↔
      ∃ parts : Parts,
        parts.ReadFrom crates tokenDer ∧
          findSigner crates parts.signerInfo.sid parts.bindings
              (candidateCerts parts.signedData extraCerts) =
            .ok verified.signer ∧
          candidateCerts parts.signedData extraCerts = verified.embedded ∧
          parts.SignedBy crates signatures verified.signer ∧
          parts.tstInfo = info := by
  simp only [verifyTokenCms, selectSigner, bind_eq_ok, rejectIf_eq_ok,
    exists_const, exists_unit_eq_ok, pure_eq_ok, Prod.mk.injEq]
  constructor
  · rintro
      ⟨signedData, decoded, content, encapsulated, signerInfo, single,
        signedAttrs, attributes, signer,
        ⟨_, bindings, read, signedOnly, found⟩, digestAlg, algorithm,
        contentType, messageDigest, signature, timestamping, notCa, keyUsage,
        tstInfo, parsed, identity, genTime, rfl, rfl⟩
    exact
      ⟨⟨signedData, content, signerInfo, signedAttrs, bindings, digestAlg,
          tstInfo⟩,
        ⟨decoded, encapsulated, single, attributes, read, signedOnly,
          algorithm, contentType, messageDigest, parsed⟩,
        found, rfl,
        ⟨signature, timestamping, notCa, keyUsage, identity, genTime⟩, rfl⟩
  · rintro ⟨parts, read, found, isEmbedded, signed, rfl⟩
    have nonempty : candidateCerts parts.signedData extraCerts ≠ [] := by
      intro empty
      rw [empty] at found
      cases found
    exact
      ⟨parts.signedData, read.signedData, parts.content, read.content,
        parts.signerInfo, read.signerInfo, parts.signedAttrs,
        read.signedAttrs, verified.signer,
        ⟨nonempty, parts.bindings, read.bindings, read.signedOnly, found⟩,
        parts.digestAlg, read.digestAlg, read.contentType, read.messageDigest,
        signed.signature, signed.timestamping, signed.notCa, signed.keyUsage,
        parts.tstInfo, read.tstInfo, signed.identity, signed.genTime,
        congrArg (VerifiedToken.mk verified.signer) isEmbedded, rfl⟩

/-! ## The signer -/

section Signer

variable {crates : CmsCrates} {sid : SignerIdentifier}
variable {bindings : List EssBinding}
variable {signer : Certificate} {own rest : List Certificate}

/-- The certificate matches the signer identifier and every binding. -/
def Fits (crates : CmsCrates) (sid : SignerIdentifier)
    (bindings : List EssBinding) (cert : Certificate) : Prop :=
  signerIdentifierMatches sid cert = true ∧
    bindingsMatch crates cert bindings = .ok true

/-- The certificate does not match the identifier, or not every binding. -/
def PassedOver (crates : CmsCrates) (sid : SignerIdentifier)
    (bindings : List EssBinding) (cert : Certificate) : Prop :=
  signerIdentifierMatches sid cert = true →
    bindingsMatch crates cert bindings = .ok false

theorem Fits.not_passedOver
    (fits : Fits crates sid bindings signer) :
    ¬ PassedOver crates sid bindings signer := by
  intro passed
  have notBound := passed fits.1
  rw [fits.2] at notBound
  cases notBound

theorem findSigner_cons_of_passedOver
    (passed : PassedOver crates sid bindings signer) :
    findSigner crates sid bindings (signer :: rest) =
      findSigner crates sid bindings rest := by
  rw [findSigner]
  split
  · next identified =>
      rw [passed identified]
      rfl
  · rfl

theorem findSigner_cons_of_fits
    (fits : Fits crates sid bindings signer) :
    findSigner crates sid bindings (signer :: rest) = .ok signer := by
  rw [findSigner, if_pos fits.1, fits.2]
  rfl

/-- The first certificate is found, or it is passed over. -/
theorem findSigner_cons_cases
    {cert : Certificate}
    (found :
      findSigner crates sid bindings (cert :: rest) = .ok signer) :
    Fits crates sid bindings cert ∧ signer = cert ∨
      PassedOver crates sid bindings cert ∧
        findSigner crates sid bindings rest = .ok signer := by
  rw [findSigner] at found
  split at found
  · next identified =>
      rw [bind_eq_ok] at found
      rcases found with ⟨matched, bound, found⟩
      cases matched with
      | true =>
          cases found
          exact .inl ⟨⟨identified, bound⟩, rfl⟩
      | false => exact .inr ⟨fun _ => bound, found⟩
  · next differs =>
      exact .inr ⟨fun identified => absurd identified differs, found⟩

/-- The signer that is found fits. -/
theorem fits_of_findSigner
    (found : findSigner crates sid bindings rest = .ok signer) :
    signer ∈ rest ∧ Fits crates sid bindings signer := by
  induction rest with
  | nil => cases found
  | cons cert rest induction =>
      rcases findSigner_cons_cases found with ⟨fits, rfl⟩ | ⟨_, found⟩
      · exact ⟨List.mem_cons_self, fits⟩
      · rcases induction found with ⟨member, fits⟩
        exact ⟨List.mem_cons_of_mem cert member, fits⟩

/-- Certificates that are passed over change nothing. -/
theorem findSigner_of_passedOver
    (passed : ∀ cert ∈ own, PassedOver crates sid bindings cert) :
    findSigner crates sid bindings (own ++ rest) =
      findSigner crates sid bindings rest := by
  induction own with
  | nil => rfl
  | cons cert own induction =>
      rw [List.forall_mem_cons] at passed
      rw [List.cons_append, findSigner_cons_of_passedOver passed.1]
      exact induction passed.2

/-- A signer that is found stays found, whatever follows. -/
theorem findSigner_append
    (found : findSigner crates sid bindings own = .ok signer)
    (rest : List Certificate) :
    findSigner crates sid bindings (own ++ rest) = .ok signer := by
  induction own with
  | nil => cases found
  | cons cert own induction =>
      rw [List.cons_append]
      rcases findSigner_cons_cases found with ⟨fits, rfl⟩ | ⟨passed, found⟩
      · exact findSigner_cons_of_fits fits
      · rw [findSigner_cons_of_passedOver passed]
        exact induction found

/-- The signer is found in front, or everything in front is passed over. -/
theorem findSigner_append_cases
    (found : findSigner crates sid bindings (own ++ rest) = .ok signer) :
    findSigner crates sid bindings own = .ok signer ∨
      (∀ cert ∈ own, PassedOver crates sid bindings cert) ∧
        findSigner crates sid bindings rest = .ok signer := by
  induction own with
  | nil => exact .inr ⟨by simp, found⟩
  | cons cert own induction =>
      rw [List.cons_append] at found
      rcases findSigner_cons_cases found with ⟨fits, rfl⟩ | ⟨passed, found⟩
      · exact .inl (findSigner_cons_of_fits fits)
      · rcases induction found with inOwn | ⟨passedAll, later⟩
        · left
          rw [findSigner_cons_of_passedOver passed]
          exact inOwn
        · exact .inr ⟨List.forall_mem_cons.mpr ⟨passed, passedAll⟩, later⟩

/-- Where every certificate can be decided and one fits, one is found. -/
theorem exists_findSigner
    (decided :
      ∀ cert ∈ rest,
        Fits crates sid bindings cert ∨ PassedOver crates sid bindings cert)
    (some : ∃ cert ∈ rest, Fits crates sid bindings cert) :
    ∃ signer, findSigner crates sid bindings rest = .ok signer := by
  induction rest with
  | nil =>
      rcases some with ⟨cert, member, _⟩
      cases member
  | cons first rest induction =>
      rw [List.forall_mem_cons] at decided
      rcases decided.1 with fits | passed
      · exact ⟨first, findSigner_cons_of_fits fits⟩
      · rw [findSigner_cons_of_passedOver passed]
        apply induction decided.2
        rcases some with ⟨cert, member, fits⟩
        rcases List.mem_cons.mp member with rfl | later
        · exact absurd passed fits.not_passedOver
        · exact ⟨cert, later, fits⟩

variable (crates sid bindings) in
/--
A certificate that is taken for the signer in some order of a bag: the first of
the token's own that fits, or, if these are all passed over, any of the bag.
-/
inductive MaySign (own bag : List Certificate) (signer : Certificate) :
    Prop where
  | own (found : findSigner crates sid bindings own = .ok signer)
  | supplied
      (passed : ∀ cert ∈ own, PassedOver crates sid bindings cert)
      (member : signer ∈ bag)
      (fits : Fits crates sid bindings signer)

end Signer

/-! ## Acceptance -/

section Acceptance

variable (crates : CmsCrates) (signatures : Signatures)
variable (tokenDer expectedHash : Bytes)
variable (digestAlgorithm : DigestAlgorithm)
variable (expectedNonce : Option UInt64)
variable (trustStore : Option TrustStore)
variable (validationTime : Option Der.DateTime)

/-- Whether a token is accepted with the certificates supplied. -/
def accepts (extraCerts : List Certificate) : Bool :=
  (verifyTimestampToken crates signatures tokenDer expectedHash
    digestAlgorithm expectedNonce trustStore validationTime extraCerts).isOk

/-- A chain verifies against a store at the time of the token. -/
def ChainVerifies (info : TstInfo) (store : TrustStore)
    (chain : List Certificate) : Prop :=
  ∃ time positiveFraction anchor,
    effectiveTime crates validationTime info = .ok time ∧
      effectiveFraction crates validationTime info = .ok positiveFraction ∧
      store.verifyTimestampChain crates.toCrates signatures chain time
          positiveFraction = .ok anchor

/--
A token withstands a bag of certificates.  If none of its own is the signer,
every certificate of the bag can be decided to be it or not; and whichever may
be taken for the signer passes the signer's checks, and all that may be climbed
behind it is a chain that the store verifies.
-/
structure Withstands (parts : Parts) (bag : List Certificate) : Prop where
  decided :
    (∀ cert ∈ ownCerts parts.signedData,
        PassedOver crates parts.signerInfo.sid parts.bindings cert) →
      ∀ cert ∈ bag,
        Fits crates parts.signerInfo.sid parts.bindings cert ∨
          PassedOver crates parts.signerInfo.sid parts.bindings cert
  signers :
    ∀ signer,
      MaySign crates parts.signerInfo.sid parts.bindings
          (ownCerts parts.signedData) bag signer →
        parts.SignedBy crates signatures signer ∧
          ∀ store tail,
            trustStore = some store →
              Climbs signatures store.signaturePolicy
                  (ownCerts parts.signedData) bag 16 [signer] signer tail →
                ChainVerifies crates signatures validationTime parts.tstInfo
                  store ([signer] ++ tail)

variable {crates signatures tokenDer expectedHash digestAlgorithm}
variable {expectedNonce trustStore validationTime}

theorem checkSignerChain_eq_ok_iff
    {store : TrustStore} {verified : VerifiedToken} {info : TstInfo} :
    checkSignerChain crates signatures store verified info validationTime =
        .ok () ↔
      ChainVerifies crates signatures validationTime info store
        (orderChain signatures verified.signer verified.embedded
          store.signaturePolicy) := by
  simp only [checkSignerChain, ChainVerifies, bind_eq_ok, mapError_eq_ok,
    pure_eq_ok, exists_and_left, and_true]

/-- A token is accepted for the signer that is found, and for its chain. -/
theorem accepts_iff
    {extraCerts : List Certificate} :
    accepts crates signatures tokenDer expectedHash digestAlgorithm
        expectedNonce trustStore validationTime extraCerts = true ↔
      ∃ parts : Parts,
        parts.ReadFrom crates tokenDer ∧
          checkTstInfoMatches parts.tstInfo expectedHash expectedNonce
            digestAlgorithm = .ok () ∧
          ∃ signer,
            findSigner crates parts.signerInfo.sid parts.bindings
                (candidateCerts parts.signedData extraCerts) = .ok signer ∧
              parts.SignedBy crates signatures signer ∧
              ∀ store, trustStore = some store →
                ChainVerifies crates signatures validationTime parts.tstInfo
                  store
                  (orderChain signatures signer
                    (candidateCerts parts.signedData extraCerts)
                    store.signaturePolicy) := by
  have isOk_iff {result : Except TspError TstInfo} :
      result.isOk = true ↔ ∃ info, result = .ok info := by
    cases result with
    | error e => simp [Except.isOk, Except.toBool]
    | ok info => simp [Except.isOk, Except.toBool]
  rw [accepts, isOk_iff]
  simp only [verifyTimestampToken_eq_ok_iff, checkSignerChain_eq_ok_iff,
    verifyTokenCms_eq_ok_iff]
  constructor
  · rintro
      ⟨_, ⟨signer, _⟩, ⟨parts, read, found, rfl, signed, rfl⟩, about, verifies⟩
    exact ⟨parts, read, about, signer, found, signed, verifies⟩
  · rintro ⟨parts, read, about, signer, found, signed, verifies⟩
    exact
      ⟨parts.tstInfo, ⟨signer, _⟩, ⟨parts, read, found, rfl, signed, rfl⟩,
        about, verifies⟩

/-! ### What is withstood -/

section Bag

variable {parts : Parts} {bag inserted : List Certificate}

/-- Every order of a bag that is withstood is accepted, if a signer is there. -/
theorem accepts_of_withstands
    (read : parts.ReadFrom crates tokenDer)
    (about :
      checkTstInfoMatches parts.tstInfo expectedHash expectedNonce
        digestAlgorithm = .ok ())
    (withstands :
      Withstands crates signatures trustStore validationTime parts bag)
    (some :
      (∃ signer,
          findSigner crates parts.signerInfo.sid parts.bindings
            (ownCerts parts.signedData) = .ok signer) ∨
        (∀ cert ∈ ownCerts parts.signedData,
            PassedOver crates parts.signerInfo.sid parts.bindings cert) ∧
          ∃ cert ∈ bag,
            Fits crates parts.signerInfo.sid parts.bindings cert)
    (permuted : inserted.Perm bag) :
    accepts crates signatures tokenDer expectedHash digestAlgorithm
      expectedNonce trustStore validationTime inserted = true := by
  rcases exists_enumerates parts.signedData permuted with
    ⟨rest, candidates, enumerates⟩
  have found :
      ∃ signer,
        findSigner crates parts.signerInfo.sid parts.bindings
            (ownCerts parts.signedData ++ rest) = .ok signer ∧
          MaySign crates parts.signerInfo.sid parts.bindings
            (ownCerts parts.signedData) bag signer := by
    rcases some with ⟨signer, found⟩ | ⟨passed, cert, inBag, fits⟩
    · exact ⟨signer, findSigner_append found rest, .own found⟩
    · have decided := withstands.decided passed
      have inRest : cert ∈ rest := by
        rcases enumerates.covers cert inBag with isOwn | inRest
        · exact absurd (passed cert isOwn) fits.not_passedOver
        · exact inRest
      rcases
        exists_findSigner
          (fun other member => decided other (enumerates.inside other member))
          ⟨cert, inRest, fits⟩ with
        ⟨signer, found⟩
      rcases fits_of_findSigner found with ⟨member, signerFits⟩
      refine
        ⟨signer, ?_,
          .supplied passed (enumerates.inside signer member) signerFits⟩
      rw [findSigner_of_passedOver passed]
      exact found
  rcases found with ⟨signer, found, maySign⟩
  rcases withstands.signers signer maySign with ⟨signed, verifies⟩
  rw [accepts_iff]
  refine ⟨parts, read, about, signer, ?_, signed, ?_⟩
  · rw [candidates]
    exact found
  · intro store given
    rcases
      @exists_climbs_extendChain signatures store.signaturePolicy
        (ownCerts parts.signedData) bag rest enumerates 16 [signer] signer with
      ⟨tail, climbs, extended⟩
    rw [candidates, orderChain, extended]
    exact verifies store tail given climbs

/-! ### What is accepted in every order -/

/-- What may be climbed behind a signer is climbed behind it in some order. -/
theorem exists_order_of_climbs
    {policy : SignaturePolicy} {signer : Certificate}
    {tail : List Certificate}
    (maySign :
      MaySign crates parts.signerInfo.sid parts.bindings
        (ownCerts parts.signedData) bag signer)
    (climbs :
      Climbs signatures policy (ownCerts parts.signedData) bag 16 [signer]
        signer tail) :
    ∃ order,
      order.Perm bag ∧
        findSigner crates parts.signerInfo.sid parts.bindings
            (candidateCerts parts.signedData order) = .ok signer ∧
        orderChain signatures signer
            (candidateCerts parts.signedData order) policy =
          [signer] ++ tail := by
  rcases climbs.of_bag with ⟨nodup, ofBag⟩
  have notOwn := fun cert member => (ofBag cert member).2.1
  have inBag := fun cert member => (ofBag cert member).2.2
  cases maySign with
  | own found =>
      rcases exists_order nodup notOwn inBag with
        ⟨order, rest, permuted, candidates, inside⟩
      have built :=
        @extendChain_of_climbs signatures policy _ bag rest [signer] tail []
          signer 16 climbs (List.forall_mem_nil _) inside
      refine ⟨order, permuted, ?_, ?_⟩
      · rw [candidates, List.append_assoc]
        exact findSigner_append found _
      · rw [candidates]
        exact built
  | supplied passed member fits =>
      -- the signer comes first, and what is climbed behind it
      have signerNotOwn : signer ∉ ownCerts parts.signedData := by
        intro isOwn
        exact fits.not_passedOver (passed signer isOwn)
      have signerNew :
          signer ∉
            tail.filter fun cert => cert ∉ ownCerts parts.signedData := by
        intro inTail
        exact (ofBag signer inTail).1 (List.mem_singleton_self signer)
      rcases
        exists_order (List.nodup_cons.mpr ⟨signerNew, nodup⟩)
          (List.forall_mem_cons.mpr ⟨signerNotOwn, notOwn⟩)
          (List.forall_mem_cons.mpr ⟨member, inBag⟩) with
        ⟨order, rest, permuted, candidates, inside⟩
      have inChain : ∀ cert ∈ [signer], cert ∈ [signer] :=
        fun _ same => same
      have built :=
        @extendChain_of_climbs signatures policy _ bag rest [signer] tail
          [signer] signer 16 climbs inChain inside
      refine ⟨order, permuted, ?_, ?_⟩
      · rw [candidates, List.append_assoc, findSigner_of_passedOver passed,
          List.cons_append]
        exact findSigner_cons_of_fits fits
      · rw [candidates]
        exact built

/-- What an accepted order says, about the parts that are read. -/
theorem exists_signer_of_accepts
    (read : parts.ReadFrom crates tokenDer)
    (accepted :
      accepts crates signatures tokenDer expectedHash digestAlgorithm
        expectedNonce trustStore validationTime inserted = true) :
    ∃ signer,
      findSigner crates parts.signerInfo.sid parts.bindings
          (candidateCerts parts.signedData inserted) = .ok signer ∧
        parts.SignedBy crates signatures signer ∧
        ∀ store, trustStore = some store →
          ChainVerifies crates signatures validationTime parts.tstInfo store
            (orderChain signatures signer
              (candidateCerts parts.signedData inserted)
              store.signaturePolicy) := by
  rcases accepts_iff.mp accepted with ⟨_, otherRead, _, signer, found⟩
  cases otherRead.unique read
  exact ⟨signer, found⟩

/-- With a certificate of the bag in front, it is decided whether it signs. -/
theorem decided_of_accepts
    (read : parts.ReadFrom crates tokenDer)
    (all :
      ∀ inserted, inserted.Perm bag →
        accepts crates signatures tokenDer expectedHash digestAlgorithm
          expectedNonce trustStore validationTime inserted = true)
    (passed :
      ∀ cert ∈ ownCerts parts.signedData,
        PassedOver crates parts.signerInfo.sid parts.bindings cert)
    {cert : Certificate} (inBag : cert ∈ bag) :
    Fits crates parts.signerInfo.sid parts.bindings cert ∨
      PassedOver crates parts.signerInfo.sid parts.bindings cert := by
  by_cases isOwn : cert ∈ ownCerts parts.signedData
  · exact .inr (passed cert isOwn)
  · rcases
      @exists_order parts.signedData [cert] bag (List.pairwise_singleton _ cert)
        (by simpa using isOwn) (by simpa using inBag) with
      ⟨order, rest, permuted, candidates, _⟩
    rcases exists_signer_of_accepts read (all order permuted) with
      ⟨signer, found, _⟩
    rw [candidates, List.append_assoc, findSigner_of_passedOver passed,
      List.singleton_append] at found
    rcases findSigner_cons_cases found with ⟨fits, _⟩ | ⟨notFits, _⟩
    · exact .inl fits
    · exact .inr notFits

/-- A signer passes, and what may be climbed behind it is verified. -/
theorem passes_of_accepts
    {policy : SignaturePolicy} {signer : Certificate}
    {tail : List Certificate}
    (read : parts.ReadFrom crates tokenDer)
    (all :
      ∀ inserted, inserted.Perm bag →
        accepts crates signatures tokenDer expectedHash digestAlgorithm
          expectedNonce trustStore validationTime inserted = true)
    (maySign :
      MaySign crates parts.signerInfo.sid parts.bindings
        (ownCerts parts.signedData) bag signer)
    (climbs :
      Climbs signatures policy (ownCerts parts.signedData) bag 16 [signer]
        signer tail) :
    parts.SignedBy crates signatures signer ∧
      ∀ store, trustStore = some store → store.signaturePolicy = policy →
        ChainVerifies crates signatures validationTime parts.tstInfo store
          ([signer] ++ tail) := by
  rcases exists_order_of_climbs maySign climbs with
    ⟨order, permuted, found, built⟩
  rcases exists_signer_of_accepts read (all order permuted) with
    ⟨other, otherFound, signed, verifies⟩
  rw [found, Except.ok.injEq] at otherFound
  subst otherFound
  refine ⟨signed, ?_⟩
  rintro store given rfl
  rw [← built]
  exact verifies store given

/-- A bag that is accepted in every order is withstood. -/
theorem withstands_of_accepts
    (read : parts.ReadFrom crates tokenDer)
    (all :
      ∀ inserted, inserted.Perm bag →
        accepts crates signatures tokenDer expectedHash digestAlgorithm
          expectedNonce trustStore validationTime inserted = true) :
    Withstands crates signatures trustStore validationTime parts bag := by
  constructor
  · intro passed cert
    exact decided_of_accepts read all passed
  · intro signer maySign
    constructor
    · -- with no store to reach, any climb shows that the signer passes
      rcases exists_enumerates parts.signedData (List.Perm.refl bag) with
        ⟨rest, _, enumerates⟩
      rcases
        @exists_climbs_extendChain signatures .strict
          (ownCerts parts.signedData) bag rest enumerates 16 [signer]
          signer with
        ⟨tail, climbs, _⟩
      exact (passes_of_accepts read all maySign climbs).1
    · intro store tail given climbs
      exact
        (passes_of_accepts read all maySign climbs).2 store given rfl

end Bag

end Acceptance

/--
What further certificates can break.  A token that is accepted with some
certificates is accepted with more of them, in every order, exactly when it
withstands the bag that they form; and it stays accepted whatever is inserted
exactly when it withstands every bag with these certificates in it.
-/
theorem accepts_insert_iff
    (crates : CmsCrates)
    (signatures : Signatures)
    (tokenDer expectedHash : Bytes)
    (digestAlgorithm : DigestAlgorithm)
    (expectedNonce : Option UInt64)
    (trustStore : Option TrustStore)
    (validationTime : Option Der.DateTime)
    (extraCerts : List Certificate)
    (accepted :
      accepts crates signatures tokenDer expectedHash digestAlgorithm
        expectedNonce trustStore validationTime extraCerts = true) :
    ∃ parts : Parts,
      parts.ReadFrom crates tokenDer ∧
        (∀ bag, extraCerts.Subperm bag →
          ((∀ inserted, inserted.Perm bag →
              accepts crates signatures tokenDer expectedHash digestAlgorithm
                expectedNonce trustStore validationTime inserted = true) ↔
            Withstands crates signatures trustStore validationTime parts bag)) ∧
        ((∀ inserted, extraCerts.Subperm inserted →
            accepts crates signatures tokenDer expectedHash digestAlgorithm
              expectedNonce trustStore validationTime inserted = true) ↔
          ∀ bag, extraCerts.Subperm bag →
            Withstands crates signatures trustStore validationTime parts
              bag) := by
  rcases accepts_iff.mp accepted with
    ⟨parts, read, about, signer, found, _⟩
  have each :
      ∀ bag, extraCerts.Subperm bag →
        ((∀ inserted, inserted.Perm bag →
            accepts crates signatures tokenDer expectedHash digestAlgorithm
              expectedNonce trustStore validationTime inserted = true) ↔
          Withstands crates signatures trustStore validationTime parts
            bag) := by
    intro bag more
    refine ⟨withstands_of_accepts read, ?_⟩
    intro withstands inserted permuted
    apply accepts_of_withstands read about withstands _ permuted
    rcases exists_enumerates parts.signedData (List.Perm.refl extraCerts) with
      ⟨rest, candidates, enumerates⟩
    rw [candidates] at found
    rcases findSigner_append_cases found with inOwn | ⟨passed, later⟩
    · exact .inl ⟨signer, inOwn⟩
    · rcases fits_of_findSigner later with ⟨member, fits⟩
      exact
        .inr
          ⟨passed, signer, more.subset (enumerates.inside signer member), fits⟩
  refine ⟨parts, read, each, ?_⟩
  constructor
  · intro all bag more
    apply (each bag more).mp
    intro inserted permuted
    exact all inserted (more.trans permuted.symm.subperm)
  · intro withstands inserted more
    exact (each inserted more).mpr (withstands inserted more) inserted (.refl _)

/-- A certificate by which another authority certifies the root's key. -/
def crossCertificate : Certificate :=
  RitspLtv.Reference.certificate 6 0xA1 0xF6 "Root" "Other"
    [RitspLtv.Reference.caConstraints]

/-- The reference token withstands the root, but not the cross-certificate. -/
theorem accepts_insert_iff_reference :
    ∃ parts : Parts,
      parts.ReadFrom Reference.crates Reference.token ∧
        Withstands Reference.crates RitspLtv.Reference.signatures
          (some RitspLtv.Reference.rootStore) none parts
          [RitspLtv.Reference.root] ∧
        ¬ Withstands Reference.crates RitspLtv.Reference.signatures
            (some RitspLtv.Reference.rootStore) none parts
            [RitspLtv.Reference.root, crossCertificate] := by
  have withRoot :
      accepts Reference.crates RitspLtv.Reference.signatures Reference.token
        Reference.messageHash .sha256 (some 42)
        (some RitspLtv.Reference.rootStore) none [RitspLtv.Reference.root] =
        true := by
    decide +kernel
  have notCrossed :
      accepts Reference.crates RitspLtv.Reference.signatures Reference.token
        Reference.messageHash .sha256 (some 42)
        (some RitspLtv.Reference.rootStore) none
        [crossCertificate, RitspLtv.Reference.root] = false := by
    decide +kernel
  rcases
    accepts_insert_iff Reference.crates RitspLtv.Reference.signatures
      Reference.token Reference.messageHash .sha256 (some 42)
      (some RitspLtv.Reference.rootStore) none [RitspLtv.Reference.root]
      withRoot with
    ⟨parts, read, bags, _⟩
  refine ⟨parts, read, ?_, ?_⟩
  · apply (bags _ (List.Subperm.refl _)).mp
    intro inserted permuted
    rw [List.perm_singleton.mp permuted]
    exact withRoot
  · intro crossing
    have more :
        [RitspLtv.Reference.root].Subperm
          [RitspLtv.Reference.root, crossCertificate] :=
      (List.sublist_append_left [_] [crossCertificate]).subperm
    have crossed :=
      (bags _ more).mpr crossing _ (List.Perm.swap _ crossCertificate [])
    rw [notCrossed] at crossed
    cases crossed

/--
The reference token is accepted by itself and with the root, and not with a
cross-certificate, nor with one in front of the root.
-/
theorem accepts_crossCertificate :
    accepts Reference.crates RitspLtv.Reference.signatures Reference.token
        Reference.messageHash .sha256 (some 42)
        (some RitspLtv.Reference.rootStore) none [] = true ∧
      accepts Reference.crates RitspLtv.Reference.signatures Reference.token
        Reference.messageHash .sha256 (some 42)
        (some RitspLtv.Reference.rootStore) none [crossCertificate] = false ∧
      accepts Reference.crates RitspLtv.Reference.signatures Reference.token
        Reference.messageHash .sha256 (some 42)
        (some RitspLtv.Reference.rootStore) none [RitspLtv.Reference.root] =
        true ∧
      accepts Reference.crates RitspLtv.Reference.signatures Reference.token
        Reference.messageHash .sha256 (some 42)
        (some RitspLtv.Reference.rootStore) none
        [crossCertificate, RitspLtv.Reference.root] = false := by
  decide +kernel

end RitspLtv.Tsp.ExtraCerts
