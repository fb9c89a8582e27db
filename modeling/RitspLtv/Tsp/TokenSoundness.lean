import RitspLtv.Tsp.Reference
import RitspLtv.Trust.ChainSoundness

/-!
# Soundness of timestamp verification

What an accepted timestamp token establishes.  One certificate is named by the
signed bindings, verifies the signature, has the profile of a timestamp signer,
is valid at `genTime` and heads the chain; and the parsed fields are those of
the octets whose digest is signed.
-/

namespace RitspLtv.Tsp.TokenSoundness

open RitspLtv.Foundation.Checks
open RitspLtv.RustStd
open RitspLtv.DerUtils
open RitspLtv.Crypto.Algorithm
open RitspLtv.Crypto.Verify
open RitspLtv.Trust.Store
open RitspLtv.Trust.ChainSoundness
open RitspLtv.Tsp.Cms
open RitspLtv.Tsp.Info
open RitspLtv.Tsp.Ess
open RitspLtv.Tsp.SignerProfile
open RitspLtv.Tsp.Token

/-! ## Attributes -/

/-- There is one attribute with an identifier, and it has one value. -/
def SingleValued (attrs : List Attribute) (oid : ObjectIdentifier)
    (value : Any) : Prop :=
  (attrs.filter fun attr => attr.oid == oid) = [⟨oid, [value]⟩]

theorem findAttribute_eq_some_iff
    {attrs : List Attribute} {oid : ObjectIdentifier} {value : Any} :
    findAttribute attrs oid = .ok (some value) ↔
      SingleValued attrs oid value := by
  rw [findAttribute, SingleValued]
  split
  · next none => simp [none]
  · next first second rest several => simp [several]
  · next attr single =>
      -- the attribute found has the identifier it was looked up by
      have member : attr ∈ attrs.filter fun attr => attr.oid == oid := by
        rw [single]
        exact List.mem_singleton_self attr
      have named : attr.oid = oid := by
        simpa using (List.mem_filter.mp member).2
      rw [single, ← named]
      cases attr with
      | mk oid values =>
          split
          · next only unique =>
              simp only at unique
              simp [unique]
          · next several =>
              simp only [List.cons.injEq, Attribute.mk.injEq, and_true,
                true_and, reduceCtorEq, false_iff]
              intro unique
              exact several value unique

theorem findAttribute_eq_none_iff
    {attrs : List Attribute} {oid : ObjectIdentifier} :
    findAttribute attrs oid = .ok none ↔
      ∀ attr ∈ attrs, attr.oid ≠ oid := by
  rw [findAttribute]
  split
  · next none =>
      rw [List.filter_eq_nil_iff] at none
      simpa using none
  · next first second rest several =>
      have member : first ∈ attrs.filter fun attr => attr.oid == oid := by
        rw [several]
        exact List.mem_cons_self
      rw [List.mem_filter, beq_iff_eq] at member
      simp only [reduceCtorEq, false_iff]
      intro absent
      exact absent first member.1 member.2
  · next attr single =>
      have member : attr ∈ attrs.filter fun attr => attr.oid == oid := by
        rw [single]
        exact List.mem_cons_self
      rw [List.mem_filter, beq_iff_eq] at member
      split <;>
        simp only [Except.ok.injEq, reduceCtorEq, false_iff] <;>
        exact fun absent => absent attr member.1 member.2

/-! ## The decoded token -/

/-- A token decodes to one signer's attributes and the octets they are about. -/
structure Decodes (crates : CmsCrates) (tokenDer : Bytes)
    (signedData : SignedData) (signerInfo : SignerInfo)
    (signedAttrs : List Attribute) (content : Bytes) : Prop where
  decoded :
    ∃ ci,
      crates.contentInfoFromDer tokenDer = .ok ci ∧
        ci.contentType = idSignedData ∧
        crates.signedDataFromAny ci.content = .ok signedData
  singleSigner : signedData.signerInfos = [signerInfo]
  attributes : signerInfo.signedAttrs = some signedAttrs
  contentType : signedData.encapContentInfo.econtentType = idCtTstInfo
  content :
    ∃ econtent,
      signedData.encapContentInfo.econtent = some econtent ∧
        econtent.value = content

theorem parseSignedData_eq_ok_iff
    {crates : CmsCrates} {tokenDer : Bytes} {signedData : SignedData} :
    parseSignedData crates tokenDer = .ok signedData ↔
      ∃ ci,
        crates.contentInfoFromDer tokenDer = .ok ci ∧
          ci.contentType = idSignedData ∧
          crates.signedDataFromAny ci.content = .ok signedData := by
  simp only [parseSignedData, bind_eq_ok, mapError_eq_ok, rejectIf_eq_ok,
    exists_const, ne_eq, not_not]

theorem tstInfoDer_eq_ok_iff
    {signedData : SignedData} {content : Bytes} :
    tstInfoDer signedData = .ok content ↔
      signedData.encapContentInfo.econtentType = idCtTstInfo ∧
        ∃ econtent,
          signedData.encapContentInfo.econtent = some econtent ∧
            econtent.value = content := by
  simp only [tstInfoDer, bind_eq_ok, rejectIf_eq_ok, exists_const, ne_eq,
    not_not]
  apply and_congr_right
  intro _
  split
  · next none => simp [none]
  · next econtent present => simp [present]

theorem singleSignerInfo_eq_ok_iff
    {signedData : SignedData} {signerInfo : SignerInfo} :
    singleSignerInfo signedData = .ok signerInfo ↔
      signedData.signerInfos = [signerInfo] := by
  rw [singleSignerInfo]
  split
  · next only single => simp [single]
  · next several =>
      simp only [reduceCtorEq, false_iff]
      exact several signerInfo

theorem requireSignedAttrs_eq_ok_iff
    {signerInfo : SignerInfo} {signedAttrs : List Attribute} :
    requireSignedAttrs signerInfo = .ok signedAttrs ↔
      signerInfo.signedAttrs = some signedAttrs := by
  rw [requireSignedAttrs]
  split
  · next none => simp [none]
  · next present => simp [present]

/-- A candidate is a certificate of the token or one that was supplied. -/
theorem mem_candidateCerts_iff
    {signedData : SignedData} {extraCerts : List Certificate}
    {cert : Certificate} :
    cert ∈ candidateCerts signedData extraCerts ↔
      .certificate cert ∈ signedData.certificates.getD [] ∨
        cert ∈ extraCerts := by
  have inToken :
      cert ∈ (signedData.certificates.getD []).filterMap
          CertificateChoices.toCertificate ↔
        .certificate cert ∈ signedData.certificates.getD [] := by
    rw [List.mem_filterMap]
    constructor
    · rintro ⟨choice, member, isCert⟩
      cases choice with
      | certificate other =>
          cases isCert
          exact member
      | other => cases isCert
    · intro member
      exact ⟨.certificate cert, member, rfl⟩
  rw [candidateCerts, ← inToken]
  generalize
    (signedData.certificates.getD []).filterMap
      CertificateChoices.toCertificate = embedded
  induction extraCerts generalizing embedded with
  | nil => simp
  | cons extra extraCerts induction =>
      rw [List.foldl_cons, List.mem_cons]
      split
      · next present =>
          apply (induction embedded).trans
          constructor
          · rintro (member | member)
            · exact .inl member
            · exact .inr (.inr member)
          · rintro (member | rfl | member)
            · exact .inl member
            · exact .inl present
            · exact .inr member
      · apply (induction (embedded ++ [extra])).trans
        rw [List.mem_append, List.mem_singleton, or_assoc]

/-! ## The signer -/

section Signer

variable {crates : CmsCrates} {signerInfo : SignerInfo}
variable {signedAttrs : List Attribute} {cert signer : Certificate}

/-- A signer identifier identifies a certificate. -/
def Identifies : SignerIdentifier → Certificate → Prop
  | .issuerAndSerialNumber issuer serialNumber, cert =>
      cert.tbsCertificate.issuer = issuer ∧
        cert.tbsCertificate.serialNumber = serialNumber
  | .subjectKeyIdentifier keyIdentifier, cert =>
      ∃ ext,
        cert.findExtension skiOid = some ext ∧
          parseTlv ext.extnValue = .ok (0x04, keyIdentifier)

theorem signerIdentifierMatches_iff {sid : SignerIdentifier} :
    signerIdentifierMatches sid cert = true ↔ Identifies sid cert := by
  cases sid with
  | issuerAndSerialNumber issuer serialNumber =>
      simp [signerIdentifierMatches, Identifies]
  | subjectKeyIdentifier keyIdentifier =>
      rw [signerIdentifierMatches, Identifies, beq_iff_eq, certSki]
      cases cert.findExtension skiOid with
      | none => simp
      | some ext =>
          simp only [Option.some.injEq, exists_eq_left']
          split
          · next body parsed => simp [parsed]
          · next notKeyIdentifier =>
              simp only [reduceCtorEq, false_iff]
              exact notKeyIdentifier keyIdentifier

/-- A binding names a certificate by its digest, and its issuer and serial if given. -/
structure Binds (crates : CmsCrates) (binding : EssBinding)
    (cert : Certificate) : Prop where
  issuerSerial :
    ∀ issuer serial, binding.issuerSerial = some (issuer, serial) →
      issuer = cert.tbsCertificate.issuer ∧
        serial = cert.tbsCertificate.serialNumber
  digest :
    ∃ der,
      crates.certificateToDer cert = .ok der ∧
        crates.digest binding.digest der = .ok binding.hash

theorem matches_eq_true_iff {binding : EssBinding} :
    binding.matches crates cert = .ok true ↔ Binds crates binding cert := by
  rw [EssBinding.matches]
  split
  · next differs =>
      simp only [Except.ok.injEq, Bool.false_eq_true, false_iff]
      intro binds
      rcases differs with ⟨⟨issuer, serial⟩, given, differs⟩
      rcases binds.issuerSerial issuer serial given with ⟨rfl, rfl⟩
      simp at differs
  · next agrees =>
      simp only [bind_eq_ok, mapError_eq_ok, pure_eq_ok, beq_iff_eq]
      constructor
      · rintro ⟨der, encoded, hash, hashed, rfl⟩
        constructor
        · intro issuer serial given
          by_contra different
          apply agrees
          refine ⟨(issuer, serial), given, ?_⟩
          by_contra same
          rw [not_or, not_not, not_not] at same
          exact different same
        · exact ⟨der, encoded, hashed⟩
      · intro binds
        rcases binds.digest with ⟨der, encoded, hashed⟩
        exact ⟨der, encoded, binding.hash, hashed, rfl⟩

theorem bindingsMatch_eq_true_iff {bindings : List EssBinding} :
    bindingsMatch crates cert bindings = .ok true ↔
      ∀ binding ∈ bindings, Binds crates binding cert := by
  induction bindings with
  | nil => simp [bindingsMatch]
  | cons binding bindings induction =>
      rw [bindingsMatch, bind_eq_ok, List.forall_mem_cons,
        ← matches_eq_true_iff, ← induction]
      constructor
      · rintro ⟨matched, first, following⟩
        cases matched with
        | true => exact ⟨first, following⟩
        | false => cases following
      · rintro ⟨first, following⟩
        exact ⟨true, first, following⟩

/-- The signer found is a candidate that the identifier and every binding name. -/
theorem named_of_findSigner
    {sid : SignerIdentifier} {bindings : List EssBinding}
    {embedded : List Certificate}
    (found : findSigner crates sid bindings embedded = .ok signer) :
    signer ∈ embedded ∧ Identifies sid signer ∧
      ∀ binding ∈ bindings, Binds crates binding signer := by
  induction embedded with
  | nil => cases found
  | cons cert embedded induction =>
      have later
          (found : findSigner crates sid bindings embedded = .ok signer) :
          signer ∈ cert :: embedded ∧ Identifies sid signer ∧
            ∀ binding ∈ bindings, Binds crates binding signer := by
        rcases induction found with ⟨member, named⟩
        exact ⟨List.mem_cons_of_mem cert member, named⟩
      rw [findSigner] at found
      split at found
      · next identified =>
          rw [bind_eq_ok] at found
          rcases found with ⟨matched, bound, found⟩
          cases matched with
          | true =>
              cases found
              exact
                ⟨List.mem_cons_self, signerIdentifierMatches_iff.1 identified,
                  bindingsMatch_eq_true_iff.1 bound⟩
          | false => exact later found
      · exact later found

/-- The bindings read are those of the attributes present, one for each version. -/
theorem mem_of_bindingsOf
    {versions : List (ObjectIdentifier × Bool)} {bindings : List EssBinding}
    (read : bindingsOf crates signedAttrs versions = .ok bindings)
    {version : ObjectIdentifier × Bool} (member : version ∈ versions)
    (present : ∃ attr ∈ signedAttrs, attr.oid = version.1) :
    ∃ value,
      SingleValued signedAttrs version.1 value ∧
        ∃ binding ∈ bindings,
          parseEssBinding crates value version.2 = .ok binding := by
  induction versions generalizing bindings with
  | nil => cases member
  | cons head versions induction =>
      rcases head with ⟨oid, v2⟩
      rw [bindingsOf, bind_eq_ok] at read
      rcases read with ⟨found, lookup, read⟩
      rcases List.mem_cons.mp member with rfl | later
      · cases found with
        | none =>
            rw [findAttribute_eq_none_iff] at lookup
            rcases present with ⟨attr, attrMember, named⟩
            exact absurd named (lookup attr attrMember)
        | some value =>
            simp only [bind_eq_ok, pure_eq_ok] at read
            rcases read with ⟨binding, parsed, others, _, rfl⟩
            exact
              ⟨value, findAttribute_eq_some_iff.1 lookup, binding,
                List.mem_cons_self, parsed⟩
      · cases found with
        | none => exact induction read later
        | some value =>
            simp only [bind_eq_ok, pure_eq_ok] at read
            rcases read with ⟨binding, _, others, read, rfl⟩
            rcases induction read later with
              ⟨value, single, other, otherMember, parsed⟩
            exact
              ⟨value, single, other,
                List.mem_cons_of_mem binding otherMember, parsed⟩

/-- Without a signing-certificate attribute there are no bindings. -/
theorem bindingsOf_eq_nil
    {versions : List (ObjectIdentifier × Bool)} {bindings : List EssBinding}
    (read : bindingsOf crates signedAttrs versions = .ok bindings)
    (absent :
      ∀ version ∈ versions, ∀ attr ∈ signedAttrs, attr.oid ≠ version.1) :
    bindings = [] := by
  induction versions with
  | nil =>
      cases read
      rfl
  | cons head versions induction =>
      rcases head with ⟨oid, v2⟩
      rw [List.forall_mem_cons] at absent
      rw [bindingsOf, findAttribute_eq_none_iff.2 absent.1] at read
      exact induction read absent.2

/-- The certificate is named by the signer identifier and by signed bindings only. -/
structure Named (crates : CmsCrates) (signerInfo : SignerInfo)
    (signedAttrs : List Attribute) (signer : Certificate) : Prop where
  identified : Identifies signerInfo.sid signer
  bound :
    ∀ version ∈ essVersions,
      (∃ attr ∈ signedAttrs, attr.oid = version.1) →
        ∃ value binding,
          SingleValued signedAttrs version.1 value ∧
            parseEssBinding crates value version.2 = .ok binding ∧
            Binds crates binding signer
  present :
    ∃ version ∈ essVersions, ∃ attr ∈ signedAttrs, attr.oid = version.1
  signedOnly :
    ∀ attr ∈ signerInfo.unsignedAttrs.getD [],
      attr.oid ∉ essVersions.map Prod.fst

theorem named_of_selectSigner
    {embedded : List Certificate}
    (selected :
      selectSigner crates signerInfo signedAttrs embedded = .ok signer) :
    signer ∈ embedded ∧ Named crates signerInfo signedAttrs signer := by
  simp only [selectSigner, signingCertificateBindings,
    rejectUnsignedBindings, bind_eq_ok, rejectIf_eq_ok, exists_const,
    pure_eq_ok] at selected
  rcases selected with
    ⟨_, bindings, ⟨_, read, nonempty, rfl⟩, signedOnly, found⟩
  rcases named_of_findSigner found with ⟨member, identified, bound⟩
  refine ⟨member, identified, ?_, ?_, ?_⟩
  · intro version versionMember present
    rcases mem_of_bindingsOf read versionMember present with
      ⟨value, single, binding, bindingMember, parsed⟩
    exact ⟨value, binding, single, parsed, bound binding bindingMember⟩
  · by_contra absent
    apply nonempty
    apply bindingsOf_eq_nil read
    intro version versionMember attr attrMember named
    exact absent ⟨version, versionMember, attr, attrMember, named⟩
  · intro attr attrMember
    simp only [essVersions, List.map_cons, List.map_nil, List.mem_cons,
      List.not_mem_nil, or_false]
    intro named
    exact signedOnly ⟨attr, attrMember, named⟩

end Signer

/-! ## What is signed -/

section Signed

variable {crates : CmsCrates} {signatures : Signatures}
variable {signerInfo : SignerInfo} {signedAttrs : List Attribute}
variable {signer : Certificate} {digestAlg : DigestAlgorithm}

/-- A signature verifies in one of the two ways, with the signer's digest. -/
inductive Verifies (signatures : Signatures)
    (signedAttrsDer signature spkiDer : Bytes)
    (signatureAlgorithm : AlgorithmIdentifier)
    (digestAlg : DigestAlgorithm) : Prop where
  | pss
      (isPss : signatureAlgorithm.oid = oidRsassaPss)
      (verified :
        signatures.verifyRsaPssSignatureStrict signedAttrsDer signature
            spkiDer signatureAlgorithm.parameters = .ok digestAlg)
  | byOid (resolved : ObjectIdentifier)
      (notPss : signatureAlgorithm.oid ≠ oidRsassaPss)
      (resolves :
        resolveSignatureOid signatureAlgorithm.oid digestAlg = .ok resolved)
      (verified :
        signatures.verifySignatureByOid signedAttrsDer signature spkiDer
            resolved = .ok ())

theorem verifies_of_verifyCmsSignature
    {signedAttrsDer signature spkiDer : Bytes}
    {signatureAlgorithm : AlgorithmIdentifier}
    (verified :
      verifyCmsSignature signatures signedAttrsDer signature spkiDer
          signatureAlgorithm digestAlg = .ok ()) :
    Verifies signatures signedAttrsDer signature spkiDer signatureAlgorithm
      digestAlg := by
  rw [verifyCmsSignature] at verified
  split at verified
  · next isPss =>
      simp only [verifyPssSignature, bind_eq_ok, rejectIf_eq_ok, ne_eq,
        not_not] at verified
      rcases verified with ⟨pssHash, verified, rfl⟩
      exact .pss isPss verified
  · next notPss =>
      rw [bind_eq_ok] at verified
      rcases verified with ⟨resolved, resolves, verified⟩
      exact .byOid resolved notPss resolves verified

/-- The signer's key signs the attributes, and the attributes the content. -/
structure Covers (crates : CmsCrates) (signatures : Signatures)
    (signerInfo : SignerInfo) (signedAttrs : List Attribute)
    (signer : Certificate) (content : Bytes)
    (digestAlg : DigestAlgorithm) : Prop where
  algorithm : DigestAlgorithm.fromOid signerInfo.digestAlg.oid = some digestAlg
  contentType :
    ∃ value,
      SingleValued signedAttrs idContentTypeAttr value ∧
        crates.oidFromAny value = .ok idCtTstInfo
  messageDigest :
    ∃ value digest,
      SingleValued signedAttrs idMessageDigestAttr value ∧
        crates.octetStringFromAny value = .ok digest ∧
        crates.digest digestAlg.hashAlgorithm content = .ok digest
  signature :
    ∃ signedAttrsDer spkiDer,
      crates.attributesToDer signedAttrs = .ok signedAttrsDer ∧
        crates.spkiToDer signer.tbsCertificate.subjectPublicKeyInfo =
          .ok spkiDer ∧
        Verifies signatures signedAttrsDer signerInfo.signature spkiDer
          signerInfo.signatureAlgorithm digestAlg

theorem signerDigest_eq_ok_iff :
    signerDigest signerInfo = .ok digestAlg ↔
      DigestAlgorithm.fromOid signerInfo.digestAlg.oid = some digestAlg := by
  rw [signerDigest]
  split
  · next supported => simp [supported]
  · next unsupported => simp [unsupported]

theorem contentType_of_check
    (checked : checkContentType crates signedAttrs = .ok ()) :
    ∃ value,
      SingleValued signedAttrs idContentTypeAttr value ∧
        crates.oidFromAny value = .ok idCtTstInfo := by
  rw [checkContentType, bind_eq_ok] at checked
  rcases checked with ⟨found, lookup, checked⟩
  cases found with
  | none => cases checked
  | some value =>
      simp only [bind_eq_ok, mapError_eq_ok, rejectIf_eq_ok, ne_eq,
        not_not] at checked
      rcases checked with ⟨oid, decoded, rfl⟩
      exact ⟨value, findAttribute_eq_some_iff.1 lookup, decoded⟩

theorem messageDigest_of_check
    {content : Bytes}
    (checked :
      checkMessageDigest crates signedAttrs digestAlg content = .ok ()) :
    ∃ value digest,
      SingleValued signedAttrs idMessageDigestAttr value ∧
        crates.octetStringFromAny value = .ok digest ∧
        crates.digest digestAlg.hashAlgorithm content = .ok digest := by
  rw [checkMessageDigest, bind_eq_ok] at checked
  rcases checked with ⟨found, lookup, checked⟩
  cases found with
  | none => cases checked
  | some value =>
      simp only [bind_eq_ok, mapError_eq_ok, rejectIf_eq_ok, ne_eq,
        not_not] at checked
      rcases checked with ⟨signed, decoded, computed, hashed, rfl⟩
      exact
        ⟨value, signed, findAttribute_eq_some_iff.1 lookup, decoded, hashed⟩

theorem signature_of_check
    (checked :
      checkSignature crates signatures signerInfo signedAttrs signer
          digestAlg = .ok ()) :
    ∃ signedAttrsDer spkiDer,
      crates.attributesToDer signedAttrs = .ok signedAttrsDer ∧
        crates.spkiToDer signer.tbsCertificate.subjectPublicKeyInfo =
          .ok spkiDer ∧
        Verifies signatures signedAttrsDer signerInfo.signature spkiDer
          signerInfo.signatureAlgorithm digestAlg := by
  simp only [checkSignature, bind_eq_ok, mapError_eq_ok] at checked
  rcases checked with
    ⟨signedAttrsDer, attrsEncoded, spkiDer, spkiEncoded, verified⟩
  exact
    ⟨signedAttrsDer, spkiDer, attrsEncoded, spkiEncoded,
      verifies_of_verifyCmsSignature verified⟩

end Signed

/-! ## The profile of the signer -/

section Profile

variable {crates : Crates} {signer : Certificate}

/-- A certificate is one for timestamping, and only for that. -/
structure SignerProfile (crates : Crates) (signer : Certificate) : Prop where
  timestamping :
    ∃ ext,
      signer.extensionsWith idCeExtKeyUsage = [ext] ∧
        ext.critical = true ∧
        crates.extendedKeyUsageFromDer ext.extnValue =
          .ok [idKpTimeStamping]
  notCa :
    ∀ ext ∈ signer.extensionsWith idCeBasicConstraints,
      signer.extensionsWith idCeBasicConstraints = [ext] ∧
        ∃ pathLen, parseBasicConstraints ext.extnValue = .ok (false, pathLen)
  permitsSigning :
    ∀ ext ∈ signer.extensionsWith idCeKeyUsage,
      signer.extensionsWith idCeKeyUsage = [ext] ∧
        ∃ bits first,
          crates.bitStringFromDer ext.extnValue = .ok bits ∧
            bits.rawBytes.head? = some first ∧ first &&& 0xC0 ≠ 0

theorem timestamping_of_require
    (required : requireTimestampingEku crates signer = .ok ()) :
    ∃ ext,
      signer.extensionsWith idCeExtKeyUsage = [ext] ∧
        ext.critical = true ∧
        crates.extendedKeyUsageFromDer ext.extnValue =
          .ok [idKpTimeStamping] := by
  simp only [requireTimestampingEku, bind_eq_ok, rejectIf_eq_ok,
    exists_const] at required
  rcases required with ⟨_, required⟩
  split at required
  · cases required
  · cases required
  · next ext single =>
      simp only [bind_eq_ok, rejectIf_eq_ok, exists_const, mapError_eq_ok,
        ne_eq, not_not, Bool.not_eq_false] at required
      rcases required with ⟨critical, eku, decoded, rfl⟩
      exact ⟨ext, single, critical, decoded⟩

theorem notCa_of_require
    (required : requireNotCa signer = .ok ()) :
    ∀ ext ∈ signer.extensionsWith idCeBasicConstraints,
      signer.extensionsWith idCeBasicConstraints = [ext] ∧
        ∃ pathLen,
          parseBasicConstraints ext.extnValue = .ok (false, pathLen) := by
  rw [requireNotCa] at required
  split at required
  · next none =>
      intro ext member
      rw [none] at member
      cases member
  · cases required
  · next only single =>
      intro ext member
      rw [single] at member ⊢
      rcases List.mem_singleton.mp member with rfl
      simp only [bind_eq_ok, mapError_eq_ok, rejectIf_eq_ok, Prod.exists,
        Bool.not_eq_true] at required
      rcases required with ⟨isCa, pathLen, parsed, rfl⟩
      exact ⟨rfl, pathLen, parsed⟩

theorem permitsSigning_of_require
    (required : requireTimestampSigningKeyUsage crates signer = .ok ()) :
    ∀ ext ∈ signer.extensionsWith idCeKeyUsage,
      signer.extensionsWith idCeKeyUsage = [ext] ∧
        ∃ bits first,
          crates.bitStringFromDer ext.extnValue = .ok bits ∧
            bits.rawBytes.head? = some first ∧ first &&& 0xC0 ≠ 0 := by
  rw [requireTimestampSigningKeyUsage] at required
  split at required
  · next none =>
      intro ext member
      rw [none] at member
      cases member
  · cases required
  · next only single =>
      intro ext member
      rw [single] at member ⊢
      rcases List.mem_singleton.mp member with rfl
      simp only [bind_eq_ok, mapError_eq_ok] at required
      rcases required with ⟨bits, decoded, required⟩
      split at required
      · cases required
      · next first following octets =>
          simp only [bind_eq_ok, rejectIf_eq_ok, exists_const] at required
          rcases required with ⟨_, permits⟩
          refine ⟨rfl, bits, first, decoded, ?_, permits⟩
          rw [octets, List.head?_cons]

end Profile

/-! ## The content -/

section Content

variable {crates : CmsCrates} {signer : Certificate} {info : TstInfo}

/-- The content is about the expected hash, and answers the expected nonce. -/
structure IsAbout (info : TstInfo) (expectedHash : Bytes)
    (digestAlgorithm : DigestAlgorithm)
    (expectedNonce : Option UInt64) : Prop where
  hash : info.messageHash = expectedHash
  algorithm : info.hashAlgorithm = digestAlgorithm
  nonce :
    ∀ nonce, expectedNonce = some nonce → info.nonce = some nonce

theorem isAbout_of_check
    {expectedHash : Bytes} {digestAlgorithm : DigestAlgorithm}
    {expectedNonce : Option UInt64}
    (checked :
      checkTstInfoMatches info expectedHash expectedNonce digestAlgorithm =
        .ok ()) :
    IsAbout info expectedHash digestAlgorithm expectedNonce := by
  simp only [checkTstInfoMatches, bind_eq_ok, rejectIf_eq_ok, exists_const,
    ne_eq, not_not] at checked
  rcases checked with ⟨hash, algorithm, nonceChecked⟩
  refine ⟨hash, algorithm, ?_⟩
  rintro nonce rfl
  rw [checkNonce.eq_def] at nonceChecked
  cases actual : info.nonce with
  | none =>
      rw [actual] at nonceChecked
      cases nonceChecked
  | some value =>
      simp only [actual, rejectIf_eq_ok, ne_eq, not_not] at nonceChecked
      rw [nonceChecked]

/-- `genTime` is inside the validity of the signer, to the fraction of a second. -/
def GenTimeInValidity (crates : CmsCrates) (signer : Certificate)
    (info : TstInfo) : Prop :=
  ∃ genTime fractional,
    genTimeParts crates info = .ok (genTime, fractional) ∧
      signer.tbsCertificate.validity.notBefore.toDateTime ≤ genTime ∧
      genTime ≤ signer.tbsCertificate.validity.notAfter.toDateTime ∧
      (fractional = true →
        genTime < signer.tbsCertificate.validity.notAfter.toDateTime)

theorem genTimeInValidity_of_check
    (checked : checkGenTimeWithinValidity crates signer info = .ok ()) :
    GenTimeInValidity crates signer info := by
  simp only [checkGenTimeWithinValidity, bind_eq_ok, Prod.exists,
    rejectIf_eq_ok, not_or, not_lt, not_and] at checked
  rcases checked with
    ⟨genTime, fractional, read, notEarly, notLate, notAtEnd⟩
  refine ⟨genTime, fractional, read, notEarly, notLate, ?_⟩
  intro fraction
  exact lt_of_le_of_ne notLate (notAtEnd fraction)

end Content

/-! ## The chain -/

section Chain

variable {crates : CmsCrates} {signatures : Signatures}
variable {policy : SignaturePolicy} {signer : Certificate}
variable {embedded : List Certificate}

/-- An issuer is chosen among the candidates. -/
theorem mem_of_chooseIssuer
    {current next : Certificate} {candidates : List Certificate}
    (chosen : chooseIssuer signatures policy current candidates = some next) :
    next ∈ candidates := by
  rw [chooseIssuer, Option.or_eq_some_iff] at chosen
  rcases chosen with found | ⟨_, first⟩
  · exact List.mem_of_find?_eq_some found
  · exact List.mem_of_head? first

/-- Extending a chain keeps its head, and adds only candidates. -/
theorem extendChain_spec
    {steps : Nat} {chain : List Certificate} {current : Certificate}
    (nonempty : chain ≠ []) :
    (extendChain signatures policy embedded steps chain current).head? =
        chain.head? ∧
      ∀ cert ∈ extendChain signatures policy embedded steps chain current,
        cert ∈ chain ∨ cert ∈ embedded := by
  induction steps generalizing chain current with
  | zero => exact ⟨rfl, fun cert member => .inl member⟩
  | succ steps induction =>
      rw [extendChain]
      split
      · exact ⟨rfl, fun cert member => .inl member⟩
      · split
        · exact ⟨rfl, fun cert member => .inl member⟩
        · next next chosen =>
            have isEmbedded : next ∈ embedded :=
              (List.mem_filter.mp (mem_of_chooseIssuer chosen)).1
            rcases
              @induction (chain ++ [next]) next (by simp) with
              ⟨sameHead, members⟩
            constructor
            · rw [sameHead, List.head?_append_of_ne_nil chain nonempty]
            · intro cert member
              rcases members cert member with inChain | isCandidate
              · rcases List.mem_append.mp inChain with before | isNext
                · exact .inl before
                · rw [List.mem_singleton.mp isNext]
                  exact .inr isEmbedded
              · exact .inr isCandidate

/-- The ordered chain starts at the signer. -/
theorem head?_orderChain :
    (orderChain signatures signer embedded policy).head? = some signer :=
  (extendChain_spec (List.cons_ne_nil signer [])).1

/-- The ordered chain consists of candidates. -/
theorem mem_of_mem_orderChain
    (isCandidate : signer ∈ embedded)
    {cert : Certificate}
    (member : cert ∈ orderChain signatures signer embedded policy) :
    cert ∈ embedded := by
  rcases (extendChain_spec (List.cons_ne_nil signer [])).2 cert member with
    isSigner | inEmbedded
  · rw [List.mem_singleton.mp isSigner]
    exact isCandidate
  · exact inEmbedded

/-- The time at which a chain is validated, and whether a fraction follows it. -/
def ValidatedAt (crates : CmsCrates) (validationTime : Option Der.DateTime)
    (info : TstInfo) (time : Der.DateTime) (positiveFraction : Bool) :
    Prop :=
  match validationTime with
  | some given => time = given ∧ positiveFraction = false
  | none => genTimeParts crates info = .ok (time, positiveFraction)

/-- The signer's chain, built from the candidates, verifies to an anchor. -/
def ReachesAnchor (crates : CmsCrates) (signatures : Signatures)
    (store : TrustStore) (validationTime : Option Der.DateTime)
    (signer : Certificate) (embedded : List Certificate)
    (info : TstInfo) : Prop :=
  ∃ chain time positiveFraction anchor,
    chain = orderChain signatures signer embedded store.signaturePolicy ∧
      chain.head? = some signer ∧
      (∀ cert ∈ chain, cert ∈ embedded) ∧
      ValidatedAt crates validationTime info time positiveFraction ∧
      store.verifyTimestampChain crates.toCrates signatures chain time
          positiveFraction = .ok anchor ∧
      anchor ∈ store.anchors.map TrustAnchor.cert

theorem mem_anchors_of_verifyTimestampChain
    {store : TrustStore} {chain : List Certificate} {time : Der.DateTime}
    {positiveFraction : Bool} {anchor : Certificate}
    (verified :
      store.verifyTimestampChain crates.toCrates signatures chain time
          positiveFraction = .ok anchor) :
    anchor ∈ store.anchors.map TrustAnchor.cert := by
  rw [TrustStore.verifyTimestampChain] at verified
  exact mem_anchors_of_verifyChainInner verified

theorem reachesAnchor_of_checkSignerChain
    {store : TrustStore} {validationTime : Option Der.DateTime}
    {info : TstInfo}
    (isCandidate : signer ∈ embedded)
    (checked :
      checkSignerChain crates signatures store ⟨signer, embedded⟩ info
          validationTime = .ok ()) :
    ReachesAnchor crates signatures store validationTime signer embedded
      info := by
  simp only [checkSignerChain, bind_eq_ok, mapError_eq_ok] at checked
  rcases checked with
    ⟨time, atTime, positiveFraction, withFraction, anchor, verified, _⟩
  refine
    ⟨_, time, positiveFraction, anchor, rfl, head?_orderChain,
      fun cert member => mem_of_mem_orderChain isCandidate member, ?_,
      verified, mem_anchors_of_verifyTimestampChain verified⟩
  cases validationTime with
  | some given =>
      cases atTime
      cases withFraction
      exact ⟨rfl, rfl⟩
  | none =>
      simp only [effectiveTime, genTimeDatetime, bind_eq_ok, Prod.exists,
        pure_eq_ok] at atTime
      simp only [effectiveFraction, bind_eq_ok, Prod.exists,
        pure_eq_ok] at withFraction
      rcases atTime with ⟨genTime, fractional, read, rfl⟩
      rcases withFraction with ⟨genTime', fractional', read', rfl⟩
      rw [read, Except.ok.injEq, Prod.mk.injEq] at read'
      rw [read'.2] at read
      exact read

end Chain

/-! ## Soundness -/

section Soundness

variable {crates : CmsCrates} {signatures : Signatures}

/-- What the verification of the signature of a token establishes. -/
structure Authentic (crates : CmsCrates) (signatures : Signatures)
    (tokenDer : Bytes) (extraCerts : List Certificate)
    (verified : VerifiedToken) (info : TstInfo)
    (signedData : SignedData) (signerInfo : SignerInfo)
    (signedAttrs : List Attribute) (content : Bytes)
    (digestAlg : DigestAlgorithm) : Prop where
  decodes : Decodes crates tokenDer signedData signerInfo signedAttrs content
  candidates : verified.embedded = candidateCerts signedData extraCerts
  candidate : verified.signer ∈ verified.embedded
  named : Named crates signerInfo signedAttrs verified.signer
  covers :
    Covers crates signatures signerInfo signedAttrs verified.signer content
      digestAlg
  profile : SignerProfile crates.toCrates verified.signer
  parsed : parseTstInfoBody crates content = .ok info
  genTime : GenTimeInValidity crates verified.signer info

theorem authentic_of_verifyTokenCms
    {tokenDer : Bytes} {extraCerts : List Certificate}
    {verified : VerifiedToken} {info : TstInfo}
    (accepted :
      verifyTokenCms crates signatures tokenDer extraCerts =
        .ok (verified, info)) :
    ∃ signedData signerInfo signedAttrs content digestAlg,
      Authentic crates signatures tokenDer extraCerts verified info
        signedData signerInfo signedAttrs content digestAlg := by
  simp only [verifyTokenCms, bind_eq_ok, exists_unit_eq_ok, pure_eq_ok,
    Prod.mk.injEq] at accepted
  rcases accepted with
    ⟨signedData, decoded, content, encapsulated, signerInfo, single,
      signedAttrs, attributes, signer, selected, digestAlg, algorithm,
      contentType, messageDigest, signature, timestamping, notCa, keyUsage,
      tstInfo, parsed, _, genTime, rfl, rfl⟩
  rcases tstInfoDer_eq_ok_iff.1 encapsulated with ⟨wraps, octets⟩
  rcases named_of_selectSigner selected with ⟨candidate, named⟩
  refine ⟨signedData, signerInfo, signedAttrs, content, digestAlg, ?_⟩
  constructor
  · constructor
    · exact parseSignedData_eq_ok_iff.1 decoded
    · exact singleSignerInfo_eq_ok_iff.1 single
    · exact requireSignedAttrs_eq_ok_iff.1 attributes
    · exact wraps
    · exact octets
  · rfl
  · exact candidate
  · exact named
  · constructor
    · exact signerDigest_eq_ok_iff.1 algorithm
    · exact contentType_of_check contentType
    · exact messageDigest_of_check messageDigest
    · exact signature_of_check signature
  · constructor
    · exact timestamping_of_require timestamping
    · exact notCa_of_require notCa
    · exact permitsSigning_of_require keyUsage
  · exact parsed
  · exact genTimeInValidity_of_check genTime

/-- A token is accepted by its signature, its content, and its chain if a store is given. -/
theorem verifyTimestampToken_eq_ok_iff
    {tokenDer expectedHash : Bytes} {digestAlgorithm : DigestAlgorithm}
    {expectedNonce : Option UInt64} {trustStore : Option TrustStore}
    {validationTime : Option Der.DateTime} {extraCerts : List Certificate}
    {info : TstInfo} :
    verifyTimestampToken crates signatures tokenDer expectedHash
          digestAlgorithm expectedNonce trustStore validationTime
          extraCerts = .ok info ↔
      ∃ verified,
        verifyTokenCms crates signatures tokenDer extraCerts =
            .ok (verified, info) ∧
          checkTstInfoMatches info expectedHash expectedNonce
            digestAlgorithm = .ok () ∧
          ∀ store, trustStore = some store →
            checkSignerChain crates signatures store verified info
              validationTime = .ok () := by
  simp only [verifyTimestampToken, bind_eq_ok, Prod.exists,
    exists_unit_eq_ok]
  constructor
  · rintro ⟨verified, parsed, authentic, about, accepted⟩
    cases trustStore with
    | none =>
        cases accepted
        refine ⟨verified, authentic, about, ?_⟩
        intro store given
        cases given
    | some store =>
        simp only [bind_eq_ok, exists_unit_eq_ok, pure_eq_ok] at accepted
        rcases accepted with ⟨checked, rfl⟩
        refine ⟨verified, authentic, about, ?_⟩
        rintro _ ⟨⟩
        exact checked
  · rintro ⟨verified, authentic, about, checked⟩
    refine ⟨verified, info, authentic, about, ?_⟩
    cases trustStore with
    | none => rfl
    | some store =>
        simp only [checked store rfl, ok_bind]
        rfl

/--
Soundness of timestamp verification.  An accepted token has one signer, and one
certificate carries its identity, key, purpose, validity and chain; the result
is read from the octets that the signature covers.
-/
theorem verifyTimestampToken_sound
    (crates : CmsCrates)
    (signatures : Signatures)
    (tokenDer expectedHash : Bytes)
    (digestAlgorithm : DigestAlgorithm)
    (expectedNonce : Option UInt64)
    (trustStore : Option TrustStore)
    (validationTime : Option Der.DateTime)
    (extraCerts : List Certificate)
    (info : TstInfo)
    (accepted :
      verifyTimestampToken crates signatures tokenDer expectedHash
          digestAlgorithm expectedNonce trustStore validationTime
          extraCerts = .ok info) :
    ∃ signedData signerInfo signedAttrs content digestAlg signer,
      Decodes crates tokenDer signedData signerInfo signedAttrs content ∧
        (.certificate signer ∈ signedData.certificates.getD [] ∨
          signer ∈ extraCerts) ∧
        Named crates signerInfo signedAttrs signer ∧
        Covers crates signatures signerInfo signedAttrs signer content
          digestAlg ∧
        SignerProfile crates.toCrates signer ∧
        parseTstInfoBody crates content = .ok info ∧
        IsAbout info expectedHash digestAlgorithm expectedNonce ∧
        GenTimeInValidity crates signer info ∧
        ∀ store, trustStore = some store →
          ReachesAnchor crates signatures store validationTime signer
            (candidateCerts signedData extraCerts) info := by
  rw [verifyTimestampToken_eq_ok_iff] at accepted
  rcases accepted with ⟨⟨signer, embedded⟩, cms, about, chainChecked⟩
  rcases authentic_of_verifyTokenCms cms with
    ⟨signedData, signerInfo, signedAttrs, content, digestAlg, authentic⟩
  have candidates := authentic.candidates
  have candidate := authentic.candidate
  simp only at candidates candidate
  refine
    ⟨signedData, signerInfo, signedAttrs, content, digestAlg, signer,
      authentic.decodes, ?_, authentic.named, authentic.covers,
      authentic.profile, authentic.parsed, isAbout_of_check about,
      authentic.genTime, ?_⟩
  · rw [candidates] at candidate
    exact mem_candidateCerts_iff.1 candidate
  · intro store given
    rw [← candidates]
    exact
      reachesAnchor_of_checkSignerChain candidate (chainChecked store given)

/-- The reference token verifies against the root, with its nonce. -/
theorem verifyTimestampToken_sound_reference :
    ∃ signedData signerInfo signedAttrs content digestAlg signer,
      Decodes Reference.crates Reference.token signedData signerInfo
          signedAttrs content ∧
        (.certificate signer ∈ signedData.certificates.getD [] ∨
          signer ∈ []) ∧
        Named Reference.crates signerInfo signedAttrs signer ∧
        Covers Reference.crates RitspLtv.Reference.signatures signerInfo
          signedAttrs signer content digestAlg ∧
        SignerProfile Reference.crates.toCrates signer ∧
        parseTstInfoBody Reference.crates content = .ok Reference.parsed ∧
        IsAbout Reference.parsed Reference.messageHash .sha256 (some 42) ∧
        GenTimeInValidity Reference.crates signer Reference.parsed ∧
        ∀ store, some RitspLtv.Reference.rootStore = some store →
          ReachesAnchor Reference.crates RitspLtv.Reference.signatures store
            none signer (candidateCerts signedData []) Reference.parsed :=
  verifyTimestampToken_sound Reference.crates RitspLtv.Reference.signatures
    Reference.token Reference.messageHash .sha256 (some 42)
    (some RitspLtv.Reference.rootStore) none [] Reference.parsed
    (by decide +kernel)

end Soundness

end RitspLtv.Tsp.TokenSoundness
