import RitspLtv.Foundation.FirstMatch
import RitspLtv.Ltv.OcspSoundness

/-!
# The verdict of an OCSP response

A response may contain several entries about one certificate.  The lookup
decides by the first of them, so a later entry that revokes the certificate can
be hidden.  The module says for which accepted responses it is, and for which
the verdict depends on the order of the entries.
-/

namespace RitspLtv.Ltv.OcspVerdict

open RitspLtv.Foundation.Checks
open RitspLtv.Foundation.FirstMatch
open RitspLtv.RustStd
open RitspLtv.Chrono
open RitspLtv.Crypto.Verify
open RitspLtv.Ltv.Status
open RitspLtv.Ltv.OcspResponse
open RitspLtv.Ltv.Ocsp
open RitspLtv.Ltv.OcspSoundness
open RitspLtv.Trust.Store

/-! ## Entries about a certificate -/

/-- The entry reports a revocation that is in effect at an instant. -/
def RevokedAt (now : DateTime) (sr : SingleResponse) : Prop :=
  ∃ revocationTime reason,
    sr.certStatus = .revoked revocationTime reason ∧ revocationTime ≤ now

/-- The entry reports the certificate as good, or its revocation as ahead. -/
def ClearsAt (now : DateTime) (sr : SingleResponse) : Prop :=
  sr.certStatus = .good ∨
    ∃ revocationTime reason,
      sr.certStatus = .revoked revocationTime reason ∧ now < revocationTime

theorem isValid_statusOfResponse_iff
    {sr : SingleResponse} {now : DateTime} :
    (statusOfResponse sr now).isValid = true ↔ ClearsAt now sr := by
  rw [statusOfResponse, ClearsAt]
  cases sr.certStatus with
  | good => simp [ValidationStatus.isValid]
  | unknown => simp [ValidationStatus.isValid]
  | revoked revocationTime reason =>
      by_cases ahead : revocationTime > now
      · simp [ahead, ValidationStatus.isValid]
      · simp [ahead, ValidationStatus.isValid]

section Entries

variable (crates : Crates) (cert issuer : Certificate) (now : DateTime)

/-- Some entry about the certificate reports a revocation in effect. -/
def RevokedBy (responses : List SingleResponse) : Prop :=
  ∃ sr ∈ responses, NamesCert crates cert issuer sr ∧ RevokedAt now sr

/-- The first entry with the certificate's hashes and serial number clears it. -/
def FirstClears (responses : List SingleResponse) : Prop :=
  ∃ key first,
    expectedCertKey crates cert issuer = .ok key ∧
      responses.find? key.names = some first ∧ ClearsAt now first

/-- The entry has the certificate's hashes and serial number. -/
def ListsCert (sr : SingleResponse) : Prop :=
  ∃ key, expectedCertKey crates cert issuer = .ok key ∧ key.names sr = true

/--
Every entry with the certificate's hashes and serial number can be used, and all
of them report the same kind of status.
-/
structure Unanimous (freshness : OcspFreshness)
    (responses : List SingleResponse) : Prop where
  algorithm :
    ∀ sr ∈ responses, ListsCert crates cert issuer sr →
      sr.hashAlgorithmOid = certIdHashAlgorithmOid
  fresh :
    ∀ sr ∈ responses, ListsCert crates cert issuer sr →
      validateResponseFreshness crates sr now freshness = .ok ()
  sameKind :
    ∀ left ∈ responses, ∀ right ∈ responses,
      ListsCert crates cert issuer left → ListsCert crates cert issuer right →
        (statusOfResponse left now).priority =
          (statusOfResponse right now).priority

variable {crates cert issuer now}
variable {freshness : OcspFreshness} {responses : List SingleResponse}
variable {delegatedResponder : Option Certificate}
variable {outcome : OcspCheckOutcome} {key : CertKey}

theorem listsCert_iff
    (expected : expectedCertKey crates cert issuer = .ok key)
    {sr : SingleResponse} :
    ListsCert crates cert issuer sr ↔ key.names sr = true := by
  constructor
  · rintro ⟨other, otherExpected, names⟩
    rw [expected, Except.ok.injEq] at otherExpected
    exact otherExpected ▸ names
  · intro names
    exact ⟨key, expected, names⟩

/-! ## The lookup as a decision -/

variable (crates now freshness delegatedResponder)

/-- What the lookup returns when an entry is the first about the certificate. -/
def entryOutcome (sr : SingleResponse) :
    Except LtvError OcspCheckOutcome := do
  rejectIf (sr.hashAlgorithmOid ≠ certIdHashAlgorithmOid)
    (.ocsp
      "matching OCSP CertID declares an unsupported hash algorithm (expected SHA-1)")
  validateResponseFreshness crates sr now freshness
  pure ⟨statusOfResponse sr now, delegatedResponder⟩

variable {crates now freshness delegatedResponder}

theorem lookupResponse_eq_firstVerdict
    (expected : expectedCertKey crates cert issuer = .ok key) :
    lookupResponse crates responses cert issuer now freshness
        delegatedResponder =
      firstVerdict key.names
        (entryOutcome crates now freshness delegatedResponder)
        (.ok ⟨.unknown "certificate not found in OCSP response", none⟩)
        responses := by
  rw [lookupResponse, expected, ok_bind, findMatchingResponse, firstVerdict]
  cases responses.find? key.names with
  | none => rfl
  | some first =>
      simp only [entryOutcome]
      by_cases sha1 : first.hashAlgorithmOid = certIdHashAlgorithmOid
      · simp [sha1, rejectIf, pure, Except.pure]
      · simp [sha1, rejectIf]

theorem entryOutcome_eq_ok {sr : SingleResponse} :
    entryOutcome crates now freshness delegatedResponder sr = .ok outcome ↔
      sr.hashAlgorithmOid = certIdHashAlgorithmOid ∧
        validateResponseFreshness crates sr now freshness = .ok () ∧
        (⟨statusOfResponse sr now, delegatedResponder⟩ :
          OcspCheckOutcome) = outcome := by
  simp only [entryOutcome, bind_eq_ok, rejectIf_eq_ok, exists_const,
    exists_unit_eq_ok, pure_eq_ok, ne_eq, not_not]

/-- The kind of status in a result, if it is one; priorities tell the kinds apart. -/
def verdictOf : Except LtvError OcspCheckOutcome → Option Nat
  | .ok outcome => some outcome.status.priority
  | .error _ => none

theorem verdictOf_eq_some_iff
    {result : Except LtvError OcspCheckOutcome} {verdict : Nat} :
    verdictOf result = some verdict ↔
      ∃ outcome, result = .ok outcome ∧ outcome.status.priority = verdict := by
  cases result <;> simp [verdictOf]

theorem verdictOf_entryOutcome
    {sr : SingleResponse}
    (algorithm : sr.hashAlgorithmOid = certIdHashAlgorithmOid)
    (fresh : validateResponseFreshness crates sr now freshness = .ok ()) :
    verdictOf (entryOutcome crates now freshness delegatedResponder sr) =
      some (statusOfResponse sr now).priority :=
  verdictOf_eq_some_iff.2
    ⟨_, entryOutcome_eq_ok.2 ⟨algorithm, fresh, rfl⟩, rfl⟩

theorem usable_of_verdictOf
    {sr : SingleResponse}
    (isSome :
      (verdictOf
        (entryOutcome crates now freshness delegatedResponder
          sr)).isSome = true) :
    sr.hashAlgorithmOid = certIdHashAlgorithmOid ∧
      validateResponseFreshness crates sr now freshness = .ok () := by
  rcases Option.isSome_iff_exists.mp isSome with ⟨verdict, decided⟩
  rcases verdictOf_eq_some_iff.1 decided with ⟨outcome, returned, _⟩
  rcases entryOutcome_eq_ok.1 returned with ⟨algorithm, fresh, _⟩
  exact ⟨algorithm, fresh⟩

/-- The verdict of the lookup is the one on the first entry about the certificate. -/
theorem verdictOf_lookupResponse
    (expected : expectedCertKey crates cert issuer = .ok key)
    (list : List SingleResponse) :
    firstVerdict key.names
        (verdictOf ∘ entryOutcome crates now freshness delegatedResponder)
        (verdictOf
          (.ok ⟨.unknown "certificate not found in OCSP response", none⟩))
        list =
      verdictOf
        (lookupResponse crates list cert issuer now freshness
          delegatedResponder) := by
  rw [firstVerdict_map, lookupResponse_eq_firstVerdict expected]

/-- Entries are unanimous when all verdicts agree with an accepted one. -/
theorem unanimous_iff_verdictOf
    (expected : expectedCertKey crates cert issuer = .ok key)
    (looked :
      lookupResponse crates responses cert issuer now freshness
        delegatedResponder = .ok outcome) :
    Unanimous crates cert issuer now freshness responses ↔
      ∀ left ∈ responses, ∀ right ∈ responses,
        key.names left = true → key.names right = true →
          verdictOf
              (entryOutcome crates now freshness delegatedResponder left) =
            verdictOf
              (entryOutcome crates now freshness delegatedResponder
                right) := by
  constructor
  · intro unanimous left leftMember right rightMember leftMatch rightMatch
    have leftLists := (listsCert_iff expected).mpr leftMatch
    have rightLists := (listsCert_iff expected).mpr rightMatch
    rw [verdictOf_entryOutcome (unanimous.algorithm left leftMember leftLists)
        (unanimous.fresh left leftMember leftLists),
      verdictOf_entryOutcome
        (unanimous.algorithm right rightMember rightLists)
        (unanimous.fresh right rightMember rightLists),
      unanimous.sameKind left leftMember right rightMember leftLists
        rightLists]
  · intro agree
    -- the first match has been accepted, so every match is
    have usable :
        ∀ sr ∈ responses, ListsCert crates cert issuer sr →
          sr.hashAlgorithmOid = certIdHashAlgorithmOid ∧
            validateResponseFreshness crates sr now freshness = .ok () := by
      intro sr member lists
      have isMatch := (listsCert_iff expected).mp lists
      rw [lookupResponse_eq_firstVerdict expected] at looked
      rcases firstVerdict_cases key.names responses
          (entryOutcome crates now freshness delegatedResponder)
          (.ok ⟨.unknown "certificate not found in OCSP response", none⟩) with
        ⟨noMatch, _⟩ | ⟨first, firstMember, _, firstMatch, decided⟩
      · rw [noMatch sr member] at isMatch
        cases isMatch
      · rw [decided] at looked
        apply @usable_of_verdictOf crates now freshness delegatedResponder
        rw [agree sr member first firstMember isMatch firstMatch, looked]
        rfl
    refine ⟨fun sr member lists => (usable sr member lists).1,
      fun sr member lists => (usable sr member lists).2, ?_⟩
    intro left leftMember right rightMember leftLists rightLists
    have same :=
      agree left leftMember right rightMember
        ((listsCert_iff expected).mp leftLists)
        ((listsCert_iff expected).mp rightLists)
    rcases usable left leftMember leftLists with ⟨leftSha1, leftFresh⟩
    rcases usable right rightMember rightLists with ⟨rightSha1, rightFresh⟩
    rw [verdictOf_entryOutcome leftSha1 leftFresh,
      verdictOf_entryOutcome rightSha1 rightFresh] at same
    exact Option.some.inj same

/-- The verdict survives reordering exactly when the entries are unanimous. -/
theorem lookupResponse_perm_iff
    (expected : expectedCertKey crates cert issuer = .ok key)
    (looked :
      lookupResponse crates responses cert issuer now freshness
        delegatedResponder = .ok outcome) :
    (∀ reordered, reordered.Perm responses →
        ∃ other,
          lookupResponse crates reordered cert issuer now freshness
              delegatedResponder = .ok other ∧
            other.status.priority = outcome.status.priority) ↔
      Unanimous crates cert issuer now freshness responses := by
  have agree :=
    @firstVerdict_perm_iff _ _ key.names responses
      (verdictOf ∘ entryOutcome crates now freshness delegatedResponder)
      (verdictOf
        (.ok ⟨.unknown "certificate not found in OCSP response", none⟩))
  simp only [verdictOf_lookupResponse expected, looked,
    Function.comp_apply] at agree
  rw [unanimous_iff_verdictOf expected looked, ← agree]
  simp only [← verdictOf_eq_some_iff]
  rfl

/-- A valid status comes from a first entry that clears the certificate. -/
theorem isValid_lookupResponse_iff
    (looked :
      lookupResponse crates responses cert issuer now freshness
        delegatedResponder = .ok outcome) :
    outcome.status.isValid = true ↔
      FirstClears crates cert issuer now responses := by
  rw [lookupResponse, bind_eq_ok] at looked
  rcases looked with ⟨key, expected, looked⟩
  rw [bind_eq_ok] at looked
  rcases looked with ⟨found, searched, looked⟩
  cases found with
  | none =>
      cases looked
      refine iff_of_false (by decide) ?_
      intro clears
      rcases clears with ⟨otherKey, first, otherExpected, isFirst, _⟩
      rw [expected, Except.ok.injEq] at otherExpected
      subst otherExpected
      rw [findMatchingResponse, isFirst] at searched
      simp only [bind_eq_ok, rejectIf_eq_ok, exists_const,
        pure_eq_ok] at searched
      cases searched.2
  | some sr =>
      simp only [bind_eq_ok, exists_unit_eq_ok, pure_eq_ok] at looked
      rcases looked with ⟨_, rfl⟩
      have isFirst := (findMatchingResponse_eq_some searched).1
      rw [isValid_statusOfResponse_iff]
      constructor
      · intro clears
        exact ⟨key, sr, expected, isFirst, clears⟩
      · intro clears
        rcases clears with ⟨otherKey, first, otherExpected, found, clears⟩
        rw [expected, Except.ok.injEq] at otherExpected
        subst otherExpected
        rw [isFirst, Option.some.injEq] at found
        exact found ▸ clears

end Entries

/-! ## The verdict of the check -/

section Check

variable {crates : Crates} {signatures : Signatures}
variable {utcNow : DateTime} {responseDer : Bytes}
variable {cert issuer : Certificate} {nonce : Option Bytes}
variable {validationTime : Option DateTime} {policy : SignaturePolicy}
variable {freshness : OcspFreshness}
variable {issuerPath : Option (List Certificate × TrustStore)}
variable {requireNonce : Bool} {parsed : ParsedBasicOcspResponse}
variable {outcome : OcspCheckOutcome}

/--
On an accepted response, a `Valid` status contradicts no entry exactly when the
first entry about the certificate does not clear it in front of one that revokes
it, and every order of the entries is accepted with the same kind of status
exactly when all entries with the certificate's hashes and serial number can be
used and report the same kind of status.
-/
theorem checkRevocationDetailedInner_verdict
    (parses : parseOcspResponse crates responseDer = .ok parsed)
    (checked :
      checkRevocationDetailedInner crates signatures utcNow responseDer cert
        issuer nonce validationTime policy freshness issuerPath
        requireNonce = .ok outcome) :
    ((outcome.status.isValid = true →
          ¬ RevokedBy crates cert issuer (validationTime.getD utcNow)
            parsed.responses) ↔
        ¬ (FirstClears crates cert issuer (validationTime.getD utcNow)
              parsed.responses ∧
            RevokedBy crates cert issuer (validationTime.getD utcNow)
              parsed.responses)) ∧
      ((∀ reordered, reordered.Perm parsed.responses →
          ∃ other,
            checkParsedResponse crates signatures
                { parsed with responses := reordered } cert issuer nonce
                (validationTime.getD utcNow) policy freshness issuerPath
                requireNonce = .ok other ∧
              other.status.priority = outcome.status.priority) ↔
        Unanimous crates cert issuer (validationTime.getD utcNow) freshness
          parsed.responses) := by
  rw [checkRevocationDetailedInner, parses] at checked
  simp only [bind_eq_ok, rejectIf_eq_ok, exists_const, Except.ok.injEq,
    exists_eq_left', checkParsedResponse, exists_unit_eq_ok] at checked
  rcases checked with
    ⟨_, responder, verified, delegatedResponder, authorised, nonceChecked,
      looked⟩
  -- the checks in front of the lookup do not read the entries
  have reorderedCheck :
      ∀ reordered,
        checkParsedResponse crates signatures
            { parsed with responses := reordered } cert issuer nonce
            (validationTime.getD utcNow) policy freshness issuerPath
            requireNonce =
          lookupResponse crates reordered cert issuer
            (validationTime.getD utcNow) freshness delegatedResponder := by
    intro reordered
    have sameSigner :
        verifyOcspResponseSignature crates signatures
            { parsed with responses := reordered } issuer policy =
          .ok responder :=
      verified
    have sameAuthority :
        authoriseResponder crates signatures
            { parsed with responses := reordered } responder issuer policy
            (validationTime.getD utcNow) issuerPath =
          .ok delegatedResponder :=
      authorised
    have sameNonce :
        checkResponseNonce nonce { parsed with responses := reordered }
            requireNonce = .ok () :=
      nonceChecked
    rw [checkParsedResponse, sameSigner, ok_bind, sameAuthority, ok_bind,
      sameNonce, ok_bind]
  constructor
  · rw [isValid_lookupResponse_iff looked, not_and]
  · simp only [reorderedCheck]
    have keyed := looked
    rw [lookupResponse, bind_eq_ok] at keyed
    rcases keyed with ⟨key, expected, _⟩
    exact lookupResponse_perm_iff expected looked

end Check

/-! ## A good entry in front -/

section GoodEntry

open RitspLtv.Reference

/-- The signed part of a response of the root: the leaf is good, and revoked in 2025. -/
def conflictingData : Bytes :=
  encodeResponseData root.tbsCertificate.subject year2026
    [leafEntry encodeGood, leafEntry (encodeRevoked year2025)]

/-- A response of the root with two entries about the leaf. -/
def conflictingResponse : Bytes :=
  encodeOcspResponse conflictingData ecdsaWithSha256 (publicKey 0xA1) []

/-- An entry about the leaf, as it is parsed. -/
def leafResponse (status : CertStatus) : SingleResponse where
  hashAlgorithmOid := certIdHashAlgorithmOid
  issuerNameHash := encodeName root.tbsCertificate.subject
  issuerKeyHash := [0xA1]
  serialNumber := [2]
  certStatus := status
  thisUpdate := year2026.instant
  nextUpdate := some year2030.instant

/-- The entry that revokes the leaf in 2025. -/
def leafRevoked : SingleResponse :=
  leafResponse (.revoked year2025.instant .unspecified)

/-- What the response parses to. -/
def conflictingParsed : ParsedBasicOcspResponse where
  tbsResponseData := conflictingData
  signatureAlgorithm := ecdsaWithSha256
  signatureBytes := [0xA1]
  responderId := .byName (encodeName root.tbsCertificate.subject)
  producedAt := year2026.instant
  responses := [leafResponse .good, leafRevoked]
  nonce := none
  embeddedCertsDer := []

/-- The verdict on the leaf, of a response whose first entry for it is good. -/
theorem checkRevocationDetailedInner_verdict_conflicting :
    (((⟨.valid .ocsp checkedAt, none⟩ : OcspCheckOutcome).status.isValid =
            true →
          ¬ RevokedBy (Reference.crates known) leaf root checkedAt
            conflictingParsed.responses) ↔
        ¬ (FirstClears (Reference.crates known) leaf root checkedAt
              conflictingParsed.responses ∧
            RevokedBy (Reference.crates known) leaf root checkedAt
              conflictingParsed.responses)) ∧
      ((∀ reordered, reordered.Perm conflictingParsed.responses →
          ∃ other,
            checkParsedResponse (Reference.crates known)
                Reference.signatures
                { conflictingParsed with responses := reordered } leaf root
                none checkedAt .strict .default none false = .ok other ∧
              other.status.priority =
                (⟨.valid .ocsp checkedAt, none⟩ :
                  OcspCheckOutcome).status.priority) ↔
        Unanimous (Reference.crates known) leaf root checkedAt .default
          conflictingParsed.responses) :=
  @checkRevocationDetailedInner_verdict (Reference.crates known)
    Reference.signatures checkedAt conflictingResponse leaf root none none
    .strict .default none false conflictingParsed
    ⟨.valid .ocsp checkedAt, none⟩ (by decide +kernel) (by decide +kernel)

/-- The good entry hides the revocation: the leaf is reported as valid. -/
theorem checkRevocationDetailedInner_conflicting :
    parseOcspResponse (Reference.crates known) conflictingResponse =
        .ok conflictingParsed ∧
      RevokedBy (Reference.crates known) leaf root checkedAt
        conflictingParsed.responses ∧
      checkRevocationDetailedInner (Reference.crates known)
          Reference.signatures checkedAt conflictingResponse leaf root none
          none .strict .default none false =
        .ok ⟨.valid .ocsp checkedAt, none⟩ := by
  refine ⟨by decide +kernel, ⟨leafRevoked, ?_, ?_, ?_⟩, by decide +kernel⟩
  · exact List.mem_cons_of_mem _ (List.mem_singleton.mpr rfl)
  · refine ⟨rfl, ⟨_, rfl, rfl⟩, rfl, by decide +kernel⟩
  · exact
      ⟨year2025.instant, .unspecified, rfl,
        by decide +kernel⟩

end GoodEntry

end RitspLtv.Ltv.OcspVerdict
