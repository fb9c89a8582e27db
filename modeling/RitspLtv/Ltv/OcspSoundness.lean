import RitspLtv.Ltv.Ocsp
import RitspLtv.Reference

/-!
# What an accepted OCSP response establishes

Every check on the way to a verdict is read backwards once, as a fact about the
response, its signer, or the issuer path.  `checkRevocationDetailed_sound`
assembles them: a verdict of `Valid` or `Revoked` has been vouched for, in
signed data, by a responder that the issuer of the certificate authorised.
-/

namespace RitspLtv.Ltv.OcspSoundness

open RitspLtv.Foundation.Checks
open RitspLtv.RustStd
open RitspLtv.Chrono
open RitspLtv.DerUtils
open RitspLtv.Crypto.Verify
open RitspLtv.Ltv.Status
open RitspLtv.Ltv.NameConstraints
open RitspLtv.Ltv.X509Ext
open RitspLtv.Ltv.OcspResponse
open RitspLtv.Ltv.Ocsp
open RitspLtv.Trust.Store

/-! ## The signed data -/

section SignedData

variable (crates : Crates)

/--
What a response says is what the signed octets say: they are one SEQUENCE, and
its body parses to the responder identity, the entries and the nonce.
-/
structure SaysSigned (parsed : ParsedBasicOcspResponse)
    (data : ResponseData) : Prop where
  signedBody :
    ∃ value,
      parseTlvWithRest parsed.tbsResponseData = .ok (0x30, value, []) ∧
        parseResponseData crates value = .ok data
  responderId : parsed.responderId = data.responderId
  responses : parsed.responses = data.responses
  nonce : parsed.nonce = data.nonce

variable {crates}

theorem expectTagged_eq_ok
    {tag : UInt8} {label expected : String} {pos body rest : Bytes} :
    expectTagged tag label expected pos = .ok (body, rest) ↔
      parseTlvWithRest pos = .ok (tag, body, rest) := by
  simp only [expectTagged, bind_eq_ok, mapError_eq_ok, rejectIf_eq_ok,
    exists_const, pure_eq_ok, Prod.exists, Prod.mk.injEq, ne_eq, not_not]
  constructor
  · intro parsed
    rcases parsed with ⟨_, _, _, parsed, rfl, rfl, rfl⟩
    exact parsed
  · intro parsed
    exact ⟨tag, body, rest, parsed, rfl, rfl, rfl⟩

theorem saysSigned_of_parseBasicOcspResponse
    {der : Bytes} {parsed : ParsedBasicOcspResponse}
    (parses : parseBasicOcspResponse crates der = .ok parsed) :
    ∃ data, SaysSigned crates parsed data := by
  simp only [parseBasicOcspResponse, bind_eq_ok, mapError_eq_ok,
    rejectIf_eq_ok, exists_const, pure_eq_ok, Prod.exists] at parses
  rcases parses with
    ⟨_, body, _, _, value, afterTbs, tbs, _, _, _, _, _, _, _, _, _, _, _,
      data, parsedData, rfl⟩
  refine ⟨data, ⟨⟨value, ?_, parsedData⟩, rfl, rfl, rfl⟩⟩
  exact parseTlvWithRest_take (expectTagged_eq_ok.1 tbs)

theorem saysSigned_of_parseOcspResponse
    {responseDer : Bytes} {parsed : ParsedBasicOcspResponse}
    (parses : parseOcspResponse crates responseDer = .ok parsed) :
    ∃ data, SaysSigned crates parsed data := by
  simp only [parseOcspResponse, bind_eq_ok, mapError_eq_ok, rejectIf_eq_ok,
    exists_const, Prod.exists] at parses
  rcases parses with
    ⟨_, _, _, _, _, _, _, _, _, _, _, _, _, _, _, _, _, _, _, _, basic⟩
  exact saysSigned_of_parseBasicOcspResponse basic.2

end SignedData

/-! ## The responder -/

section Responder

variable {crates : Crates} {signatures : Signatures}
variable {parsed : ParsedBasicOcspResponse}
variable {responder issuer : Certificate} {policy : SignaturePolicy}
variable {now : DateTime}

/-- A certificate's key verifies the signature over the signed octets. -/
def SignedUnder (crates : Crates) (signatures : Signatures)
    (policy : SignaturePolicy) (parsed : ParsedBasicOcspResponse)
    (responder : Certificate) : Prop :=
  ∃ spkiDer,
    crates.spkiToDer responder.tbsCertificate.subjectPublicKeyInfo =
        .ok spkiDer ∧
      signatures.verifySignatureByAlgidWithPolicy parsed.tbsResponseData
          parsed.signatureBytes spkiDer parsed.signatureAlgorithm policy =
        .ok ()

/-- The certificate has the identity that the response claims. -/
def HasResponderId (crates : Crates) (responder : Certificate) :
    ResponderId → Prop
  | .byName nameDer =>
      crates.nameToDer responder.tbsCertificate.subject = .ok nameDer
  | .byKeyHash keyHash =>
      crates.digest .sha1
          responder.tbsCertificate.subjectPublicKeyInfo.subjectPublicKey.rawBytes =
        .ok keyHash

/-- The certificate is inside its validity at an instant. -/
def ValidAt (now : DateTime) (cert : Certificate) : Prop :=
  cert.tbsCertificate.validity.notBefore.toDateTime.instant ≤ now ∧
    now ≤ cert.tbsCertificate.validity.notAfter.toDateTime.instant

/-- Two certificates have the same subject and the same public key. -/
def SameIdentity (left right : Certificate) : Prop :=
  left.tbsCertificate.subject = right.tbsCertificate.subject ∧
    left.tbsCertificate.subjectPublicKeyInfo =
      right.tbsCertificate.subjectPublicKeyInfo

theorem certsHaveSameIdentity_iff {left right : Certificate} :
    certsHaveSameIdentity left right = true ↔ SameIdentity left right := by
  simp [certsHaveSameIdentity, SameIdentity]

theorem signedUnder_of_signsResponse
    (signs : signsResponse crates signatures parsed policy responder = true) :
    SignedUnder crates signatures policy parsed responder := by
  rw [signsResponse] at signs
  split at signs
  · cases signs
  · next spkiDer encoded =>
      exact ⟨spkiDer, encoded, accepts_unit_iff.1 (of_decide_eq_true signs)⟩

/-- Replacing a signer by an issuer of the same identity keeps the key. -/
theorem signedUnder_of_verifyOcspResponseSignature
    (verified :
      verifyOcspResponseSignature crates signatures parsed issuer policy =
        .ok responder) :
    SignedUnder crates signatures policy parsed responder := by
  rw [verifyOcspResponseSignature] at verified
  split at verified
  · cases verified
  · next candidate found =>
      have signed := signedUnder_of_signsResponse (List.find?_some found)
      cases verified
      split
      · next same =>
          rw [SignedUnder, ← (certsHaveSameIdentity_iff.1 same).2]
          exact signed
      · exact signed

theorem checkResponderValidity_eq_ok :
    checkResponderValidity crates responder now = .ok () ↔
      ValidAt now responder := by
  simp [checkResponderValidity, ValidAt]

theorem sha1Hash_eq_ok {data hash : Bytes} :
    sha1Hash crates data = .ok hash ↔ crates.digest .sha1 data = .ok hash :=
  mapError_eq_ok

theorem responderMatchesResponderId_eq_ok {responderId : ResponderId} :
    responderMatchesResponderId crates responder responderId = .ok () ↔
      HasResponderId crates responder responderId := by
  cases responderId with
  | byName nameDer =>
      simp [responderMatchesResponderId, HasResponderId]
  | byKeyHash keyHash =>
      simp [responderMatchesResponderId, HasResponderId, sha1Hash_eq_ok]

/-! ### Delegated signing -/

/-- The extensions that restrict delegated signing, and are therefore processed. -/
def processedOids : List ObjectIdentifier :=
  [keyUsageOid, basicConstraintsOid, ekuOid, sanOid, nocheckOid]

/-- A certificate that is fit to sign OCSP responses on behalf of its issuer. -/
structure OcspSigningProfile (crates : Crates) (cert : Certificate) :
    Prop where
  ocspSigning :
    ∃ ekus,
      checkExtendedKeyUsage crates cert = .ok ekus ∧ ocspSigningEkuOid ∈ ekus
  distinct : (cert.extensions.map Extension.extnId).Nodup
  processed :
    ∀ ext ∈ cert.extensions, ext.critical = true →
      ext.extnId ∈ processedOids
  permitsSigning :
    ∀ ext ∈ cert.extensions, ext.extnId = keyUsageOid →
      ∃ usage,
        crates.keyUsageFromDer ext.extnValue = .ok usage ∧
          (usage.digitalSignature = true ∨ usage.nonRepudiation = true)
  nocheckIsNull :
    ∀ ext ∈ cert.extensions, ext.extnId = nocheckOid →
      ext.extnValue = derNull

/-- What processing one extension establishes about it. -/
structure ProcessedAs (crates : Crates) (ext : Extension)
    (processed : Bool) : Prop where
  known : processed = true → ext.extnId ∈ processedOids
  permitsSigning :
    ext.extnId = keyUsageOid →
      ∃ usage,
        crates.keyUsageFromDer ext.extnValue = .ok usage ∧
          (usage.digitalSignature = true ∨ usage.nonRepudiation = true)
  nocheckIsNull : ext.extnId = nocheckOid → ext.extnValue = derNull

/-- An extension that is neither key usage nor nocheck only has to be known. -/
theorem processedAs_of_ne
    {ext : Extension} {processed : Bool}
    (known : processed = true → ext.extnId ∈ processedOids)
    (notKeyUsage : ext.extnId ≠ keyUsageOid)
    (notNocheck : ext.extnId ≠ nocheckOid) :
    ProcessedAs crates ext processed where
  known := known
  permitsSigning := fun isKeyUsage => absurd isKeyUsage notKeyUsage
  nocheckIsNull := fun isNocheck => absurd isNocheck notNocheck

theorem processedAs_of_processResponderExtension
    {ext : Extension} {processed : Bool}
    (checked :
      processResponderExtension crates responder ext = .ok processed) :
    ProcessedAs crates ext processed := by
  have knownOf :
      ∀ oid ∈ processedOids, ext.extnId = oid →
        processed = true → ext.extnId ∈ processedOids := by
    intro oid member isOid _
    rw [isOid]
    exact member
  rw [processResponderExtension] at checked
  split at checked
  · next isKeyUsage =>
      simp only [bind_eq_ok, mapError_eq_ok, rejectIf_eq_ok,
        exists_const] at checked
      rcases checked with ⟨_, _, usage, decoded, permits, _⟩
      refine ⟨knownOf keyUsageOid (by decide) isKeyUsage, ?_, ?_⟩
      · intro _
        refine ⟨usage, decoded, ?_⟩
        simpa only [not_and_or, Bool.not_eq_false] using permits
      · intro isNocheck
        exact absurd (isKeyUsage.symm.trans isNocheck) (by decide)
  · next notKeyUsage =>
      split at checked
      · next isConstraints =>
          exact
            processedAs_of_ne (knownOf _ (by decide) isConstraints)
              notKeyUsage (by rw [isConstraints]; decide)
      · split at checked
        · next isEku =>
            exact
              processedAs_of_ne (knownOf _ (by decide) isEku) notKeyUsage
                (by rw [isEku]; decide)
        · split at checked
          · next isSan =>
              exact
                processedAs_of_ne (knownOf _ (by decide) isSan) notKeyUsage
                  (by rw [isSan]; decide)
          · split at checked
            · next isNocheck =>
                simp only [bind_eq_ok, rejectIf_eq_ok, exists_const, ne_eq,
                  not_not] at checked
                refine ⟨knownOf _ (by decide) isNocheck, ?_, ?_⟩
                · intro isKeyUsage
                  exact absurd isKeyUsage notKeyUsage
                · intro _
                  exact checked.1
            · next notNocheck =>
                cases checked
                refine processedAs_of_ne ?_ notKeyUsage notNocheck
                intro impossible
                cases impossible

/-- What the walk over the extensions establishes about each of them. -/
theorem responderExtensions_of_foldlM
    {extensions : List Extension} {seen final : List ObjectIdentifier}
    (walked :
      extensions.foldlM (responderExtensionStep crates responder) seen =
        .ok final) :
    (extensions.map Extension.extnId).Nodup ∧
      (∀ ext ∈ extensions, ext.extnId ∉ seen) ∧
      ∀ ext ∈ extensions,
        ∃ processed,
          ProcessedAs crates ext processed ∧
            (ext.critical = true → processed = true) := by
  apply distinct_of_foldlM _ walked
  intro seen ext next stepped
  simp only [responderExtensionStep, bind_eq_ok, rejectIf_eq_ok, exists_const,
    pure_eq_ok] at stepped
  rcases stepped with ⟨fresh, processed, checked, critical, rfl⟩
  refine
    ⟨fresh, ⟨processed, ?_, ?_⟩, List.mem_concat_self,
      List.subset_append_left seen _⟩
  · exact processedAs_of_processResponderExtension checked
  · intro isCritical
    simpa [isCritical] using critical

theorem ocspSigningProfile_of_validate
    (validated :
      validateDelegatedResponderExtensions crates responder = .ok ()) :
    OcspSigningProfile crates responder := by
  simp only [validateDelegatedResponderExtensions, bind_eq_ok,
    mapError_eq_ok] at validated
  rcases validated with ⟨final, walked, role⟩
  rcases responderExtensions_of_foldlM walked with ⟨distinct, _, each⟩
  have purpose : validateOcspResponder crates responder = .ok () := by
    rw [validateExtensionsForRole] at role
    split at role
    · cases role
    · exact role
  simp only [validateOcspResponder, bind_eq_ok, rejectIf_eq_ok,
    not_not] at purpose
  constructor
  · exact purpose
  · exact distinct
  · intro ext member isCritical
    rcases each ext member with ⟨processed, as, critical⟩
    exact as.known (critical isCritical)
  · intro ext member isKeyUsage
    rcases each ext member with ⟨processed, as, _⟩
    exact as.permitsSigning isKeyUsage
  · intro ext member isNocheck
    rcases each ext member with ⟨processed, as, _⟩
    exact as.nocheckIsNull isNocheck

/-- The issuer authorised the responder by a certificate of its own. -/
structure DelegatedBy (crates : Crates) (signatures : Signatures)
    (policy : SignaturePolicy) (responder issuer : Certificate) : Prop where
  named :
    responder.tbsCertificate.issuer = issuer.tbsCertificate.subject
  signed : signatures.SigOk policy responder issuer
  profile : OcspSigningProfile crates responder

theorem delegatedBy_of_validate
    {responderCheck : ResponderRevocationCheck}
    (validated :
      validateDelegatedResponder crates signatures responder issuer policy =
        .ok responderCheck) :
    DelegatedBy crates signatures policy responder issuer ∧
      (responderCheck = .notRequired →
        hasOcspNocheckExtension responder = true) := by
  simp only [validateDelegatedResponder, bind_eq_ok, mapError_eq_ok,
    rejectIf_eq_ok, exists_const, exists_unit_eq_ok, ne_eq,
    not_not] at validated
  rcases validated with ⟨named, signed, profile, _, chosen⟩
  refine
    ⟨⟨named, signed, ocspSigningProfile_of_validate profile⟩, ?_⟩
  intro notRequired
  by_contra lacking
  rw [if_neg lacking, notRequired] at chosen
  cases chosen

/-! ### The certificate path -/

theorem scopedStore_eq (store : TrustStore) :
    (if effectivePolicy policy store.signaturePolicy =
          store.signaturePolicy then store
      else
        store.withSignaturePolicy
          (effectivePolicy policy store.signaturePolicy)) =
      store.withSignaturePolicy
        (effectivePolicy policy store.signaturePolicy) := by
  split
  · next same =>
      rw [same]
      rfl
  · rfl

/-- A path verifies in a store, under the stricter of two policies, at an instant. -/
def PathVerifies (crates : Crates) (signatures : Signatures)
    (policy : SignaturePolicy) (now : DateTime) (role : CertRole)
    (store : TrustStore) (path : List Certificate) : Prop :=
  ∃ time,
    ocspPathTime now = .ok time ∧
      Accepts
        ((store.withSignaturePolicy
            (effectivePolicy policy
              store.signaturePolicy)).verifyChainForPurposeWithFraction
          crates signatures path time role
          (decide (DateTime.nanosecond now ≠ 0)))

theorem pathVerifies_of_validate
    {chain : List Certificate} {store : TrustStore} {role : CertRole}
    (validated :
      validateOcspCertificatePath crates signatures chain store role policy
        now = .ok ()) :
    PathVerifies crates signatures policy now role store chain := by
  simp only [validateOcspCertificatePath, bind_eq_ok, mapError_eq_ok,
    scopedStore_eq] at validated
  rcases validated with ⟨time, atTime, anchor, verified, _⟩
  exact ⟨time, atTime, anchor, verified⟩

end Responder

/-! ## Nonce and freshness -/

/-- The nonce of a response is that of the request, raw or in an OCTET STRING. -/
def NonceMatches (requestNonce responseNonce : Bytes) : Prop :=
  responseNonce = requestNonce ∨
    responseNonce = encodeTlv 0x04 requestNonce ∨
    parseTlvWithRest responseNonce = .ok (0x04, requestNonce, [])

theorem validateNonce_eq_ok {requestNonce responseNonce : Bytes} :
    validateNonce requestNonce responseNonce = .ok () ↔
      NonceMatches requestNonce responseNonce := by
  rw [validateNonce, NonceMatches]
  split
  · next raw => simp [raw]
  · next notRaw =>
      split
      · next wrapped => simp [wrapped]
      · next notWrapped =>
          split
          · next unwrapped => simp [unwrapped]
          · next notUnwrapped => simp [notRaw, notWrapped, notUnwrapped]

/-- An entry's window, widened by the skew, reaches the instant. -/
def NotStale (freshness : OcspFreshness) (now : DateTime)
    (sr : SingleResponse) : Prop :=
  match sr.nextUpdate with
  | some nextUpdate => now ≤ nextUpdate + freshness.clockSkew
  | none =>
      now ≤
        sr.thisUpdate + freshness.maxAgeWithoutNextUpdate +
          freshness.clockSkew

theorem addOrPanic_eq_ok
    {instant sum : DateTime} {duration : Duration}
    (added : addOrPanic instant duration = .ok sum) :
    sum = instant + duration := by
  rw [addOrPanic, addDuration] at added
  split at added
  · next selected =>
      cases added
      split at selected
      · cases selected
        rfl
      · cases selected
  · cases added

theorem notStale_of_validate
    {crates : Crates} {sr : SingleResponse} {now : DateTime}
    {freshness : OcspFreshness}
    (validated :
      validateResponseFreshness crates sr now freshness = .ok ()) :
    NotStale freshness now sr := by
  rw [validateResponseFreshness] at validated
  rw [NotStale]
  cases window : sr.nextUpdate with
  | some nextUpdate =>
      rw [window] at validated
      simp only [bind_eq_ok, rejectIf_eq_ok, exists_const,
        not_lt] at validated
      rcases validated with ⟨_, latest, added, reached⟩
      rw [addOrPanic_eq_ok added] at reached
      exact reached
  | none =>
      rw [window] at validated
      simp only [bind_eq_ok, rejectIf_eq_ok, not_lt] at validated
      rcases validated with ⟨aged, aging, maxValid, added, reached⟩
      rw [addOrPanic_eq_ok aging] at added
      rw [addOrPanic_eq_ok added] at reached
      exact reached

/-! ## The entry -/

/-- An entry is about a certificate: it names SHA-1, the issuer and the serial. -/
structure NamesCert (crates : Crates) (cert issuer : Certificate)
    (sr : SingleResponse) : Prop where
  algorithm : sr.hashAlgorithmOid = certIdHashAlgorithmOid
  nameHash :
    ∃ nameDer,
      crates.nameToDer issuer.tbsCertificate.subject = .ok nameDer ∧
        crates.digest .sha1 nameDer = .ok sr.issuerNameHash
  keyHash :
    crates.digest .sha1
        issuer.tbsCertificate.subjectPublicKeyInfo.subjectPublicKey.rawBytes =
      .ok sr.issuerKeyHash
  serial :
    integerBodiesEqual sr.serialNumber
        (parseIntegerBody cert.tbsCertificate.serialNumber) = true

section Entry

variable {crates : Crates} {cert issuer : Certificate} {key : CertKey}

theorem namesCert_of_names
    {sr : SingleResponse}
    (expected : expectedCertKey crates cert issuer = .ok key)
    (names : key.names sr = true)
    (algorithm : sr.hashAlgorithmOid = certIdHashAlgorithmOid) :
    NamesCert crates cert issuer sr := by
  simp only [expectedCertKey, bind_eq_ok, mapError_eq_ok, sha1Hash_eq_ok,
    pure_eq_ok] at expected
  rcases expected with
    ⟨nameDer, encoded, nameHash, hashed, keyHash, keyHashed, rfl⟩
  simp only [CertKey.names, Bool.and_eq_true, beq_iff_eq] at names
  rcases names with ⟨⟨rfl, rfl⟩, serial⟩
  exact ⟨algorithm, ⟨nameDer, encoded, hashed⟩, keyHashed, serial⟩

/-- The entry found is the first that names the certificate, and uses SHA-1. -/
theorem findMatchingResponse_eq_some
    {responses : List SingleResponse} {sr : SingleResponse}
    (found : findMatchingResponse responses key = .ok (some sr)) :
    responses.find? key.names = some sr ∧
      sr.hashAlgorithmOid = certIdHashAlgorithmOid := by
  rw [findMatchingResponse] at found
  split at found
  · cases found
  · next first isFirst =>
      simp only [bind_eq_ok, rejectIf_eq_ok, exists_const, pure_eq_ok,
        Option.some.injEq, ne_eq, not_not] at found
      rcases found with ⟨algorithm, rfl⟩
      exact ⟨isFirst, algorithm⟩

end Entry

/-! ## The verdict -/

section Verdict

variable (crates : Crates) (signatures : Signatures)
variable (cert issuer : Certificate) (nonce : Option Bytes)
variable (now : DateTime) (policy : SignaturePolicy)
variable (freshness : OcspFreshness)
variable (issuerPath : Option (List Certificate × TrustStore))
variable (requireNonce : Bool)

/--
The responder may vouch for the issuer's certificates: it has the issuer's
identity, or the issuer authorised it and its path verifies behind the issuer's.
-/
def Authorised (responder : Certificate) : Prop :=
  SameIdentity responder issuer ∨
    ∃ chain store,
      issuerPath = some (chain, store) ∧
        chain.head? = some issuer ∧
        DelegatedBy crates signatures policy responder issuer ∧
        PathVerifies crates signatures policy now .ocspResponder store
          (responder :: chain)

/-- What stands behind a verdict on a certificate. -/
structure Vouched (parsed : ParsedBasicOcspResponse)
    (responder : Certificate) (outcome : OcspCheckOutcome) : Prop where
  saysSigned : ∃ data, SaysSigned crates parsed data
  signed : SignedUnder crates signatures policy parsed responder
  responderId : HasResponderId crates responder parsed.responderId
  validity : ValidAt now responder
  entry :
    ∃ sr ∈ parsed.responses,
      NamesCert crates cert issuer sr ∧ NotStale freshness now sr ∧
        outcome.status = statusOfResponse sr now
  authorised :
    Authorised crates signatures issuer now policy issuerPath responder
  delegated :
    ¬ SameIdentity responder issuer →
      hasOcspNocheckExtension responder = false →
      outcome.delegatedResponder = some responder
  nonceMatches :
    ∀ requestNonce, nonce = some requestNonce →
      ∀ responseNonce, parsed.nonce = some responseNonce →
        NonceMatches requestNonce responseNonce
  noncePresent :
    requireNonce = true →
      ∃ requestNonce responseNonce,
        nonce = some requestNonce ∧ requestNonce ≠ [] ∧
          parsed.nonce = some responseNonce

variable {crates signatures cert issuer nonce now policy freshness}
variable {issuerPath requireNonce}
variable {parsed : ParsedBasicOcspResponse} {responder : Certificate}
variable {delegatedResponder : Option Certificate}
variable {outcome : OcspCheckOutcome}

theorem authorised_of_authoriseResponder
    (startsWithIssuer :
      ∀ chain store, issuerPath = some (chain, store) →
        chain.head? = some issuer)
    (authorised :
      authoriseResponder crates signatures parsed responder issuer policy now
        issuerPath = .ok delegatedResponder) :
    ValidAt now responder ∧
      HasResponderId crates responder parsed.responderId ∧
      Authorised crates signatures issuer now policy issuerPath responder ∧
      (¬ SameIdentity responder issuer →
        hasOcspNocheckExtension responder = false →
        delegatedResponder = some responder) := by
  simp only [authoriseResponder, validateResponderTrust, bind_eq_ok,
    exists_unit_eq_ok, checkResponderValidity_eq_ok,
    responderMatchesResponderId_eq_ok] at authorised
  rcases authorised with
    ⟨_, responderCheck, ⟨validity, hasId, chosen⟩, path, returned⟩
  refine ⟨validity, hasId, ?_⟩
  split at chosen
  · next same =>
      have identity := certsHaveSameIdentity_iff.1 same
      exact ⟨.inl identity, fun different => absurd identity different⟩
  · next different =>
      rcases delegatedBy_of_validate chosen with ⟨delegatedBy, noCheck⟩
      cases supplied : issuerPath with
      | none =>
          simp only [supplied, checkResponderPath, if_neg different] at path
          cases path
      | some pair =>
          rcases pair with ⟨chain, store⟩
          simp only [supplied, checkResponderPath, if_neg different] at path
          refine ⟨.inr ⟨chain, store, rfl, ?_, delegatedBy, ?_⟩, ?_⟩
          · exact startsWithIssuer chain store supplied
          · exact pathVerifies_of_validate path
          · intro _ lacking
            cases responderCheck with
            | required =>
                cases returned
                rfl
            | notRequired =>
                rw [noCheck rfl] at lacking
                cases lacking

/-- A verdict comes from an entry about the certificate that is not stale. -/
theorem entry_of_lookupResponse
    {responses : List SingleResponse}
    (looked :
      lookupResponse crates responses cert issuer now freshness
        delegatedResponder = .ok outcome)
    (established :
      outcome.status.isValid = true ∨ outcome.status.isRevoked = true) :
    (∃ sr ∈ responses,
        NamesCert crates cert issuer sr ∧ NotStale freshness now sr ∧
          outcome.status = statusOfResponse sr now) ∧
      outcome.delegatedResponder = delegatedResponder := by
  simp only [lookupResponse, bind_eq_ok] at looked
  rcases looked with ⟨key, expected, found, searched, looked⟩
  cases found with
  | none =>
      cases looked
      rcases established with impossible | impossible <;> cases impossible
  | some sr =>
      simp only [bind_eq_ok, exists_unit_eq_ok, pure_eq_ok] at looked
      rcases looked with ⟨fresh, rfl⟩
      rcases findMatchingResponse_eq_some searched with ⟨first, algorithm⟩
      refine ⟨⟨sr, List.mem_of_find?_eq_some first, ?_, ?_, rfl⟩, rfl⟩
      · exact namesCert_of_names expected (List.find?_some first) algorithm
      · exact notStale_of_validate fresh

theorem nonceMatches_of_checkResponseNonce
    (checked : checkResponseNonce nonce parsed requireNonce = .ok ()) :
    (∀ requestNonce, nonce = some requestNonce →
        ∀ responseNonce, parsed.nonce = some responseNonce →
          NonceMatches requestNonce responseNonce) ∧
      (requireNonce = true → nonce.isSome = true →
        parsed.nonce.isSome = true) := by
  cases nonce with
  | none => simp
  | some requestNonce =>
      cases received : parsed.nonce with
      | none =>
          simp only [checkResponseNonce, received, rejectIf_eq_ok] at checked
          simp [checked]
      | some responseNonce =>
          simp only [checkResponseNonce, received] at checked
          simp [validateNonce_eq_ok.1 checked]

theorem vouched_of_checkRevocationDetailedInner
    {utcNow : DateTime} {responseDer : Bytes}
    {validationTime : Option DateTime}
    (startsWithIssuer :
      ∀ chain store, issuerPath = some (chain, store) →
        chain.head? = some issuer)
    (checked :
      checkRevocationDetailedInner crates signatures utcNow responseDer cert
        issuer nonce validationTime policy freshness issuerPath
        requireNonce = .ok outcome)
    (established :
      outcome.status.isValid = true ∨ outcome.status.isRevoked = true) :
    ∃ parsed responder,
      parseOcspResponse crates responseDer = .ok parsed ∧
        Vouched crates signatures cert issuer nonce
          (validationTime.getD utcNow) policy freshness issuerPath
          requireNonce parsed responder outcome := by
  simp only [checkRevocationDetailedInner, checkParsedResponse, bind_eq_ok,
    rejectIf_eq_ok, exists_const, exists_unit_eq_ok] at checked
  rcases checked with
    ⟨requested, parsed, parses, responder, verified, delegatedResponder,
      authorised, nonceChecked, looked⟩
  rcases authorised_of_authoriseResponder startsWithIssuer authorised with
    ⟨validity, responderId, authorised, delegated⟩
  rcases entry_of_lookupResponse looked established with ⟨entry, carried⟩
  rcases nonceMatches_of_checkResponseNonce nonceChecked with
    ⟨nonceMatches, nonceReceived⟩
  refine ⟨parsed, responder, parses, ?_⟩
  constructor
  · exact saysSigned_of_parseOcspResponse parses
  · exact signedUnder_of_verifyOcspResponseSignature verified
  · exact responderId
  · exact validity
  · exact entry
  · exact authorised
  · rw [carried]
    exact delegated
  · exact nonceMatches
  · intro required
    cases nonce with
    | none => exact absurd ⟨required, rfl⟩ requested
    | some requestNonce =>
        rcases Option.isSome_iff_exists.mp (nonceReceived required rfl) with
          ⟨responseNonce, received⟩
        refine ⟨requestNonce, responseNonce, rfl, ?_, received⟩
        intro empty
        exact requested ⟨required, empty⟩

end Verdict

/--
A verdict of `Valid` or `Revoked` has been vouched for, both without an issuer
path or with one that starts with the issuer, and by the entry point that
checks that it does.
-/
theorem checkRevocationDetailed_sound
    (crates : Crates) (signatures : Signatures)
    (utcNow : DateTime) (responseDer : Bytes)
    (cert issuer : Certificate) (nonce : Option Bytes)
    (validationTime : Option DateTime) (policy : SignaturePolicy)
    (freshness : OcspFreshness) (requireNonce : Bool)
    (outcome : OcspCheckOutcome)
    (established :
      outcome.status.isValid = true ∨ outcome.status.isRevoked = true) :
    (∀ issuerPath,
        (∀ chain store, issuerPath = some (chain, store) →
          chain.head? = some issuer) →
        checkRevocationDetailedInner crates signatures utcNow responseDer
            cert issuer nonce validationTime policy freshness issuerPath
            requireNonce = .ok outcome →
        ∃ parsed responder,
          parseOcspResponse crates responseDer = .ok parsed ∧
            Vouched crates signatures cert issuer nonce
              (validationTime.getD utcNow) policy freshness issuerPath
              requireNonce parsed responder outcome) ∧
      ∀ chain store,
        checkRevocationDetailedWithIssuerPath crates signatures utcNow
            responseDer cert issuer nonce validationTime policy freshness
            chain store requireNonce = .ok outcome →
        ∃ parsed responder,
          parseOcspResponse crates responseDer = .ok parsed ∧
            Vouched crates signatures cert issuer nonce
              (validationTime.getD utcNow) policy freshness
              (some (chain, store)) requireNonce parsed responder
              outcome := by
  constructor
  · intro issuerPath startsWithIssuer checked
    exact
      vouched_of_checkRevocationDetailedInner startsWithIssuer checked
        established
  · intro chain store checked
    simp only [checkRevocationDetailedWithIssuerPath, bind_eq_ok,
      rejectIf_eq_ok, exists_const, ne_eq, not_not] at checked
    rcases checked with ⟨starts, checked⟩
    refine
      vouched_of_checkRevocationDetailedInner ?_ checked established
    intro path trustStore supplied
    cases supplied
    exact starts

/-! ## A delegated response -/

section DelegatedResponse

open RitspLtv.Reference

/-- An entry about the leaf, valid from 2026 to 2030. -/
def leafEntry (status : Bytes) : Bytes :=
  encodeSingleResponse (encodeName root.tbsCertificate.subject) [0xA1] [2]
    status year2026 year2030

/-- A response about the leaf, signed by the root's delegated responder. -/
def delegatedResponse : Bytes :=
  encodeOcspResponse
    (encodeResponseData responder.tbsCertificate.subject
      year2026 [leafEntry encodeGood])
    ecdsaWithSha256 (publicKey 0xD4) [encodeCertificate responder]

/-- The delegated responder vouches for the leaf along the path of the root. -/
theorem checkRevocationDetailed_sound_delegated :
    ∃ parsed signer,
      parseOcspResponse (Reference.crates known) delegatedResponse =
          .ok parsed ∧
        Vouched (Reference.crates known) Reference.signatures leaf root none
          checkedAt .strict .default (some ([root], rootStore)) false parsed
          signer ⟨.valid .ocsp checkedAt, some responder⟩ :=
  (checkRevocationDetailed_sound (Reference.crates known)
    Reference.signatures checkedAt delegatedResponse leaf root none none
    .strict .default false ⟨.valid .ocsp checkedAt, some responder⟩
    (.inl rfl)).2 [root] rootStore (by decide +kernel)

end DelegatedResponse

end RitspLtv.Ltv.OcspSoundness
