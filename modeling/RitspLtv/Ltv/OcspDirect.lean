import RitspLtv.Foundation.FirstMatch
import RitspLtv.Ltv.FreshnessRange
import RitspLtv.Ltv.OcspCodec
import RitspLtv.Ltv.ResponderHints

/-!
# A response of the issuer

Without a path of the issuer no one else may vouch for a certificate.  The
module says which responses the check then believes, and what it reports.
-/

namespace RitspLtv.Ltv.OcspDirect

open RitspLtv.Foundation.Checks
open RitspLtv.Foundation.FirstMatch
open RitspLtv.RustStd
open RitspLtv.Chrono
open RitspLtv.Crypto.Verify
open RitspLtv.Ltv.Status
open RitspLtv.Ltv.FreshnessRange
open RitspLtv.Ltv.OcspResponse
open RitspLtv.Ltv.Ocsp
open RitspLtv.Ltv.OcspCodec
open RitspLtv.Ltv.OcspSoundness
open RitspLtv.Ltv.ResponderHints

section Direct

variable (crates : Crates) (signatures : Signatures)
variable (parsed : ParsedBasicOcspResponse)
variable (cert issuer : Certificate) (nonce : Option Bytes)
variable (now : DateTime) (policy : SignaturePolicy)
variable (freshness : OcspFreshness) (requireNonce : Bool)

/-- The first candidate whose key made the signature is the issuer by name and key. -/
def SignedByIssuer : Prop :=
  ∃ earlier first later,
    signatureCandidates crates parsed issuer = earlier ++ first :: later ∧
      SignedUnder crates signatures policy parsed first ∧
      (∀ candidate ∈ earlier,
        ¬ SignedUnder crates signatures policy parsed candidate) ∧
      SameIdentity first issuer

/-- The response carries the nonce of the request, as far as it has to. -/
def AnswersNonce : Prop :=
  ∀ requestNonce, nonce = some requestNonce →
    (∀ responseNonce, parsed.nonce = some responseNonce →
        NonceMatches requestNonce responseNonce) ∧
      (requireNonce = true → parsed.nonce.isSome = true)

/-- The settings can be added to the window, which is in order and reaches the instant. -/
structure Fresh (sr : SingleResponse) : Prop where
  fits :
    SettingsFit freshness.clockSkew freshness.maxAgeWithoutNextUpdate
      sr.thisUpdate sr.nextUpdate
  ordered :
    ∀ nextUpdate, sr.nextUpdate = some nextUpdate → sr.thisUpdate ≤ nextUpdate
  notStale : NotStale freshness now sr

/-- What the entries say about the certificate. -/
inductive EntriesSay (key : CertKey) :
    List SingleResponse → ValidationStatus → Prop where
  | absent (responses : List SingleResponse)
      (unnamed : ∀ sr ∈ responses, key.names sr = false) :
      EntriesSay key responses
        (.unknown "certificate not found in OCSP response")
  | present (earlier later : List SingleResponse) (sr : SingleResponse)
      (unnamed : ∀ other ∈ earlier, key.names other = false)
      (named : key.names sr = true)
      (algorithm : sr.hashAlgorithmOid = certIdHashAlgorithmOid)
      (fresh : Fresh now freshness sr) :
      EntriesSay key (earlier ++ sr :: later) (statusOfResponse sr now)

/-- A response that the issuer itself makes at an instant, and its status. -/
structure Believed (status : ValidationStatus) : Prop where
  signed : SignedByIssuer crates signatures parsed issuer policy
  current : ValidAt now issuer
  identified : HasResponderId crates issuer parsed.responderId
  answers : AnswersNonce parsed nonce requireNonce
  entries :
    ∃ key,
      expectedCertKey crates cert issuer = .ok key ∧
        EntriesSay now freshness key parsed.responses status

variable {crates signatures parsed cert issuer nonce now policy freshness}
variable {requireNonce : Bool}

/-! ## The checks -/

theorem validateResponseFreshness_eq_ok_iff {sr : SingleResponse} :
    validateResponseFreshness crates sr now freshness = .ok () ↔
      Fresh now freshness sr := by
  constructor
  · intro validated
    have returns :
        Returns (validateResponseFreshness crates sr now freshness) := by
      rw [validated]
      exact returns_ok ()
    refine
      ⟨(returns_validateResponseFreshness_iff crates now sr freshness).mp
          returns, ?_, notStale_of_validate validated⟩
    intro nextUpdate window
    rw [validateResponseFreshness, window] at validated
    simp only [bind_eq_ok, rejectIf_eq_ok, exists_const, not_lt] at validated
    exact validated.1
  · rintro ⟨fits, ordered, notStale⟩
    rw [validateResponseFreshness]
    rw [NotStale] at notStale
    cases window : sr.nextUpdate with
    | some nextUpdate =>
        rw [window] at fits notStale
        have inOrder := ordered nextUpdate window
        simp only [bind_eq_ok, rejectIf_eq_ok, exists_const, not_lt,
          addOrPanic_eq_ok_iff]
        exact ⟨inOrder, _, ⟨fits inOrder, rfl⟩, notStale⟩
    | none =>
        rw [window] at fits notStale
        simp only [bind_eq_ok, rejectIf_eq_ok, not_lt, addOrPanic_eq_ok_iff]
        exact ⟨_, ⟨fits.1, rfl⟩, _, ⟨fits.2, rfl⟩, notStale⟩

theorem checkResponseNonce_eq_ok_iff :
    checkResponseNonce nonce parsed requireNonce = .ok () ↔
      AnswersNonce parsed nonce requireNonce := by
  cases nonce with
  | none => simp [checkResponseNonce, AnswersNonce]
  | some requestNonce =>
      cases received : parsed.nonce with
      | none =>
          simp [checkResponseNonce, AnswersNonce, received]
      | some responseNonce =>
          simp [checkResponseNonce, AnswersNonce, received,
            validateNonce_eq_ok]

/-- The signer that is found stands for the issuer exactly when it has its identity. -/
theorem signedByIssuer_iff :
    SignedByIssuer crates signatures parsed issuer policy ↔
      ∃ first,
        (signatureCandidates crates parsed issuer).find?
              (signsResponse crates signatures parsed policy) = some first ∧
          SameIdentity first issuer := by
  simp only [SignedByIssuer, List.find?_eq_some_iff_append, signsResponse_iff,
    Bool.not_eq_true', ← Bool.not_eq_true]
  constructor
  · rintro ⟨earlier, first, later, parts, signed, unsigned, same⟩
    exact ⟨first, ⟨signed, earlier, later, parts, unsigned⟩, same⟩
  · rintro ⟨first, ⟨signed, earlier, later, parts, unsigned⟩, same⟩
    exact ⟨earlier, first, later, parts, signed, unsigned, same⟩

/-- Without a path, the signer is authorised when it is the issuer, current and named. -/
theorem authorises_iff {delegated : Option Certificate} :
    (∃ responder,
        verifyOcspResponseSignature crates signatures parsed issuer policy =
            .ok responder ∧
          authoriseResponder crates signatures parsed responder issuer policy
              now none = .ok delegated) ↔
      delegated = none ∧
        SignedByIssuer crates signatures parsed issuer policy ∧
        ValidAt now issuer ∧
        HasResponderId crates issuer parsed.responderId := by
  rw [signedByIssuer_iff, verifyOcspResponseSignature]
  have itself : certsHaveSameIdentity issuer issuer = true :=
    certsHaveSameIdentity_iff.mpr ⟨rfl, rfl⟩
  cases (signatureCandidates crates parsed issuer).find?
      (signsResponse crates signatures parsed policy) with
  | none => simp
  | some first =>
      by_cases same : certsHaveSameIdentity first issuer = true
      · have identical := certsHaveSameIdentity_iff.mp same
        simp only [same, if_true, Except.ok.injEq, exists_eq_left',
          authoriseResponder, checkIssuerPath, ok_bind, checkResponderPath,
          itself, validateResponderTrust, bind_eq_ok, exists_unit_eq_ok,
          checkResponderValidity_eq_ok, responderMatchesResponderId_eq_ok,
          pure_eq_ok, Option.some.injEq, identical, true_and]
        constructor
        · rintro ⟨check, ⟨current, identified, rfl⟩, returned⟩
          cases returned
          exact ⟨rfl, current, identified⟩
        · rintro ⟨rfl, current, identified⟩
          exact ⟨.notRequired, ⟨current, identified, rfl⟩, rfl⟩
      · have differs := mt certsHaveSameIdentity_iff.mpr same
        simp only [same, Except.ok.injEq, exists_eq_left', authoriseResponder,
          checkIssuerPath, ok_bind, checkResponderPath,
          bind_eq_ok, Option.some.injEq, differs, false_and, and_false,
          reduceCtorEq, exists_false, if_false, Bool.false_eq_true]

theorem lookupResponse_eq_ok_iff {outcome : OcspCheckOutcome} :
    lookupResponse crates parsed.responses cert issuer now freshness none =
        .ok outcome ↔
      outcome.delegatedResponder = none ∧
        ∃ key,
          expectedCertKey crates cert issuer = .ok key ∧
            EntriesSay now freshness key parsed.responses outcome.status := by
  simp only [lookupResponse, bind_eq_ok]
  constructor
  · rintro ⟨key, expected, found, searched, returned⟩
    rw [findMatchingResponse] at searched
    cases isFirst : parsed.responses.find? key.names with
    | none =>
        rw [isFirst] at searched
        cases searched
        cases returned
        refine ⟨rfl, key, expected, .absent _ ?_⟩
        simpa using isFirst
    | some sr =>
        rw [isFirst] at searched
        simp only [bind_eq_ok, rejectIf_eq_ok, exists_const, pure_eq_ok,
          ne_eq, not_not] at searched
        rcases searched with ⟨algorithm, rfl⟩
        simp only [bind_eq_ok, exists_unit_eq_ok, pure_eq_ok,
          validateResponseFreshness_eq_ok_iff] at returned
        rcases returned with ⟨fresh, rfl⟩
        rcases List.find?_eq_some_iff_append.mp isFirst with
          ⟨named, earlier, later, parts, unnamed⟩
        refine ⟨rfl, key, expected, ?_⟩
        rw [parts]
        exact
          .present earlier later sr (by simpa using unnamed) named algorithm
            fresh
  · rintro ⟨isNone, key, expected, told⟩
    rcases outcome with ⟨status, delegated⟩
    simp only at isNone told
    subst isNone
    refine ⟨key, expected, ?_⟩
    generalize parsed.responses = responses at told
    cases told with
    | absent _ unnamed =>
        have isFirst : responses.find? key.names = none := by
          simpa using unnamed
        exact ⟨none, by rw [findMatchingResponse, isFirst], rfl⟩
    | present earlier later sr unnamed named algorithm fresh =>
        have isFirst :
            (earlier ++ sr :: later).find? key.names = some sr :=
          find?_of_first unnamed named
        refine ⟨some sr, ?_, ?_⟩
        · simp only [findMatchingResponse, isFirst, bind_eq_ok,
            rejectIf_eq_ok, exists_const, pure_eq_ok, ne_eq, not_not]
          exact ⟨algorithm, trivial⟩
        · simp only [bind_eq_ok, exists_unit_eq_ok, pure_eq_ok,
            validateResponseFreshness_eq_ok_iff]
          exact ⟨fresh, trivial⟩

theorem checkParsedResponse_eq_ok_iff {outcome : OcspCheckOutcome} :
    checkParsedResponse crates signatures parsed cert issuer nonce now policy
          freshness none requireNonce = .ok outcome ↔
      outcome.delegatedResponder = none ∧
        Believed crates signatures parsed cert issuer nonce now policy
          freshness requireNonce outcome.status := by
  simp only [checkParsedResponse, bind_eq_ok, exists_unit_eq_ok,
    checkResponseNonce_eq_ok_iff]
  constructor
  · rintro ⟨responder, verified, delegated, authorised, answers, looked⟩
    rcases authorises_iff.mp ⟨responder, verified, authorised⟩ with
      ⟨rfl, signed, current, identified⟩
    rcases lookupResponse_eq_ok_iff.mp looked with ⟨isNone, entries⟩
    exact ⟨isNone, signed, current, identified, answers, entries⟩
  · rintro ⟨isNone, signed, current, identified, answers, entries⟩
    rcases
        authorises_iff.mpr ⟨rfl, signed, current, identified⟩ with
      ⟨responder, verified, authorised⟩
    exact
      ⟨responder, verified, none, authorised, answers,
        lookupResponse_eq_ok_iff.mpr ⟨isNone, entries⟩⟩

end Direct

/--
The check without an issuer path returns an outcome exactly when the octets
parse and the issuer itself made the response, and never one with a delegated
responder.  Octets of the documented form do parse, so for them it is enough
that the issuer made them.
-/
theorem checkRevocation_direct_iff
    (crates : Crates) (signatures : Signatures)
    (utcNow : DateTime) (responseDer : Bytes) (cert issuer : Certificate)
    (nonce : Option Bytes) (validationTime : Option DateTime)
    (policy : SignaturePolicy) (freshness : OcspFreshness)
    (requireNonce : Bool) :
    (∀ outcome,
        checkRevocationDetailedWithNoncePolicy crates signatures utcNow
              responseDer cert issuer nonce validationTime policy freshness
              requireNonce = .ok outcome ↔
          (requireNonce = true → nonce.getD [] ≠ []) ∧
            outcome.delegatedResponder = none ∧
            ∃ parsed,
              parseOcspResponse crates responseDer = .ok parsed ∧
                Believed crates signatures parsed cert issuer nonce
                  (validationTime.getD utcNow) policy freshness requireNonce
                  outcome.status) ∧
      ∀ parsed status,
        ResponseForm crates responseDer parsed →
          (requireNonce = true → nonce.getD [] ≠ []) →
          Believed crates signatures parsed cert issuer nonce
              (validationTime.getD utcNow) policy freshness requireNonce
              status →
          checkRevocationDetailedWithNoncePolicy crates signatures utcNow
              responseDer cert issuer nonce validationTime policy freshness
              requireNonce = .ok ⟨status, none⟩ := by
  have accepted :
      ∀ outcome : OcspCheckOutcome,
        checkRevocationDetailedWithNoncePolicy crates signatures utcNow
              responseDer cert issuer nonce validationTime policy freshness
              requireNonce = .ok outcome ↔
          (requireNonce = true → nonce.getD [] ≠ []) ∧
            outcome.delegatedResponder = none ∧
            ∃ parsed,
              parseOcspResponse crates responseDer = .ok parsed ∧
                Believed crates signatures parsed cert issuer nonce
                  (validationTime.getD utcNow) policy freshness requireNonce
                  outcome.status := by
    intro outcome
    simp only [checkRevocationDetailedWithNoncePolicy,
      checkRevocationDetailedInner, bind_eq_ok, rejectIf_eq_ok, exists_const,
      checkParsedResponse_eq_ok_iff, not_and, ne_eq]
    apply and_congr_right
    intro _
    constructor
    · rintro ⟨parsed, parses, isNone, believed⟩
      exact ⟨isNone, parsed, parses, believed⟩
    · rintro ⟨isNone, parsed, parses, believed⟩
      exact ⟨parsed, parses, isNone, believed⟩
  refine ⟨accepted, ?_⟩
  intro parsed status form requested believed
  exact
    (accepted ⟨status, none⟩).mpr
      ⟨requested, rfl, parsed, form.parse, believed⟩

/-! ### The root's own answer -/

section Answer

open RitspLtv.Reference
open RitspLtv.Ltv.CertIds

/-- The root's answer about the leaf is believed, and its status reported. -/
theorem checkRevocation_direct_iff_root :
    checkRevocationDetailedWithNoncePolicy requestCrates.toCrates
        Reference.signatures checkedAt rootResponse leaf root none none
        .strict .default false = .ok ⟨.valid .ocsp checkedAt, none⟩ := by
  have validated :
      validateResponseFreshness requestCrates.toCrates leafAnswer checkedAt
        .default = .ok () := by
    decide +kernel
  have fresh := validateResponseFreshness_eq_ok_iff.mp validated
  have found :
      (signatureCandidates requestCrates.toCrates rootAnswer root).find?
          (signsResponse requestCrates.toCrates Reference.signatures
            rootAnswer .strict) = some root := by
    decide +kernel
  have signed := signedByIssuer_iff.mpr ⟨root, found, rfl, rfl⟩
  have current : ValidAt checkedAt root :=
    ⟨by decide +kernel, by decide +kernel⟩
  have believed :
      Believed requestCrates.toCrates Reference.signatures rootAnswer leaf
        root none checkedAt .strict .default false
        (.valid .ocsp checkedAt) :=
    ⟨signed, current, rfl, nofun, ⟨rootNameHash, rootKeyHash, [2]⟩,
      by decide +kernel,
      .present [] [] leafAnswer nofun (by decide +kernel) rfl fresh⟩
  exact
    (checkRevocation_direct_iff requestCrates.toCrates Reference.signatures
      checkedAt rootResponse leaf root none none .strict .default false).2
      rootAnswer _ responseForm_rootResponse nofun believed

end Answer

end RitspLtv.Ltv.OcspDirect
