import RitspLtv.Ltv.OcspSoundness
import Mathlib.Data.List.Perm.Subperm

/-!
# Certificates embedded in an OCSP response

The embedded certificates are not signed.  They only suggest whose key made the
signature: the first one whose key verifies is taken for the responder, the
issuer behind them, and what else is asked of a responder is asked of that
certificate alone.

So a list of hints is harmless in every order exactly when each certificate in
it that has a verifying key may respond.
-/

namespace RitspLtv.Ltv.ResponderHints

open RitspLtv.Foundation.Checks
open RitspLtv.RustStd
open RitspLtv.Chrono
open RitspLtv.Crypto.Verify
open RitspLtv.Ltv.Status
open RitspLtv.Ltv.OcspResponse
open RitspLtv.Ltv.Ocsp
open RitspLtv.Ltv.OcspSoundness
open RitspLtv.Trust.Store

/-- The same signed data and signature with other embedded certificates. -/
def withEmbedded (parsed : ParsedBasicOcspResponse)
    (embedded : List Bytes) : ParsedBasicOcspResponse :=
  { parsed with embeddedCertsDer := embedded }

section Hints

variable (crates : Crates) (signatures : Signatures)
variable (parsed : ParsedBasicOcspResponse)
variable (cert issuer : Certificate) (nonce : Option Bytes)
variable (now : DateTime) (policy : SignaturePolicy)
variable (freshness : OcspFreshness)
variable (issuerPath : Option (List Certificate × TrustStore))
variable (requireNonce : Bool)

/-- A certificate is embedded, and can be decoded. -/
def Embeds (embedded : List Bytes) (hint : Certificate) : Prop :=
  ∃ certDer ∈ embedded, crates.certificateFromDer certDer = .ok hint

/-- The certificate a candidate stands for: one of the issuer's identity is the issuer. -/
def responderFor (candidate : Certificate) : Certificate :=
  if certsHaveSameIdentity candidate issuer then issuer else candidate

/-- The first candidate whose key verifies the signature. -/
def firstSigner (embedded : List Bytes) : Option Certificate :=
  (signatureCandidates crates (withEmbedded parsed embedded) issuer).find?
    (signsResponse crates signatures parsed policy)

/-- A candidate stands for a responder that the issuer lets respond. -/
structure MayRespond (candidate : Certificate) : Prop where
  trusted :
    ∃ responderCheck,
      validateResponderTrust crates signatures
          (responderFor issuer candidate) issuer parsed policy now =
        .ok responderCheck
  path :
    checkResponderPath crates signatures (responderFor issuer candidate)
        issuer issuerPath policy now = .ok ()

/-- What the check asks without regard to the responder, and its status. -/
structure Establishes (status : ValidationStatus) : Prop where
  path : checkIssuerPath crates signatures issuerPath policy now = .ok ()
  nonceChecked : checkResponseNonce nonce parsed requireNonce = .ok ()
  entry :
    ∃ outcome,
      lookupResponse crates parsed.responses cert issuer now freshness none =
          .ok outcome ∧
        outcome.status = status

/-- The check of a response with some embedded certificates ends with a status. -/
def Reports (embedded : List Bytes) (status : ValidationStatus) : Prop :=
  ∃ outcome,
    checkParsedResponse crates signatures (withEmbedded parsed embedded) cert
        issuer nonce now policy freshness issuerPath requireNonce =
      .ok outcome ∧
      outcome.status = status

/-- The check of the octets of a response ends with a status. -/
def ReportsDer (utcNow : DateTime) (responseDer : Bytes)
    (validationTime : Option DateTime) (status : ValidationStatus) : Prop :=
  ∃ outcome,
    checkRevocationDetailedInner crates signatures utcNow responseDer cert
        issuer nonce validationTime policy freshness issuerPath
        requireNonce = .ok outcome ∧
      outcome.status = status

variable {crates signatures parsed cert issuer nonce now policy freshness}
variable {issuerPath requireNonce}
variable {embedded inserted : List Bytes} {status : ValidationStatus}

/-! ## Candidates -/

/-- The issuer stands behind the certificates that are embedded. -/
theorem exists_hints
    (crates : Crates) (parsed : ParsedBasicOcspResponse)
    (issuer : Certificate) (embedded : List Bytes) :
    ∃ hints,
      signatureCandidates crates (withEmbedded parsed embedded) issuer =
          hints ++ [issuer] ∧
        ∀ hint, hint ∈ hints ↔ Embeds crates embedded hint := by
  refine ⟨_, rfl, ?_⟩
  intro hint
  rw [List.mem_filterMap]
  apply exists_congr
  intro certDer
  apply and_congr_right
  intro _
  split
  · next decoded isDecoded =>
      rw [isDecoded, Option.some.injEq, Except.ok.injEq]
  · next fails =>
      rw [fails]
      simp

theorem signsResponse_iff
    {candidate : Certificate} :
    signsResponse crates signatures parsed policy candidate = true ↔
      SignedUnder crates signatures policy parsed candidate := by
  constructor
  · exact signedUnder_of_signsResponse
  · rintro ⟨spkiDer, encoded, verified⟩
    simp only [signsResponse, encoded, decide_eq_true_eq]
    exact accepts_unit_iff.2 verified

theorem signedUnder_of_firstSigner
    {first : Certificate}
    (found :
      firstSigner crates signatures parsed issuer policy embedded =
        some first) :
    SignedUnder crates signatures policy parsed first :=
  signsResponse_iff.1 (List.find?_some found)

/-- The issuer decides only when no embedded certificate has a verifying key. -/
theorem firstSigner_cases
    {first : Certificate}
    (found :
      firstSigner crates signatures parsed issuer policy embedded =
        some first) :
    Embeds crates embedded first ∨
      first = issuer ∧
        ∀ hint, Embeds crates embedded hint →
          ¬ SignedUnder crates signatures policy parsed hint := by
  rcases exists_hints crates parsed issuer embedded with
    ⟨hints, candidates, members⟩
  rw [firstSigner, candidates, List.find?_append,
    Option.or_eq_some_iff] at found
  rcases found with hintFound | ⟨noneFound, issuerFound⟩
  · exact .inl ((members first).1 (List.mem_of_find?_eq_some hintFound))
  · have isIssuer :=
      List.mem_singleton.mp (List.mem_of_find?_eq_some issuerFound)
    refine .inr ⟨isIssuer, ?_⟩
    intro hint embeds signed
    have member := (members hint).2 embeds
    have fails := List.find?_eq_none.mp noneFound hint member
    exact fails (signsResponse_iff.2 signed)

/-- A response that has a signer keeps one when certificates are inserted. -/
theorem exists_firstSigner_of_subperm
    {first : Certificate}
    (subperm : embedded.Subperm inserted)
    (found :
      firstSigner crates signatures parsed issuer policy embedded =
        some first) :
    ∃ other,
      firstSigner crates signatures parsed issuer policy inserted =
        some other := by
  have signs := signsResponse_iff.2 (signedUnder_of_firstSigner found)
  rcases exists_hints crates parsed issuer inserted with
    ⟨hints, candidates, members⟩
  rw [firstSigner, candidates, ← Option.isSome_iff_exists, List.find?_isSome]
  refine ⟨first, ?_, signs⟩
  rw [List.mem_append, List.mem_singleton]
  rcases firstSigner_cases found with
    ⟨certDer, isEmbedded, decoded⟩ | ⟨isIssuer, _⟩
  · left
    rw [members]
    exact ⟨certDer, subperm.subset isEmbedded, decoded⟩
  · exact .inr isIssuer

theorem signatureCandidates_cons
    {certDer : Bytes} {hint : Certificate}
    (decoded : crates.certificateFromDer certDer = .ok hint) :
    signatureCandidates crates (withEmbedded parsed (certDer :: embedded))
        issuer =
      hint ::
        signatureCandidates crates (withEmbedded parsed embedded) issuer := by
  simp [signatureCandidates, withEmbedded, decoded]

/-- A certificate with a verifying key decides when it is embedded first. -/
theorem firstSigner_cons
    {certDer : Bytes} {hint : Certificate}
    (decoded : crates.certificateFromDer certDer = .ok hint)
    (signed : SignedUnder crates signatures policy parsed hint) :
    firstSigner crates signatures parsed issuer policy
        (certDer :: embedded) = some hint := by
  rw [firstSigner, signatureCandidates_cons decoded]
  exact List.find?_cons_of_pos (signsResponse_iff.2 signed)

/-! ## The check -/

/-- The entry decides the status, whoever the delegated responder is. -/
theorem lookupResponse_status_of
    {responses : List SingleResponse}
    {delegatedResponder : Option Certificate}
    (other : Option Certificate)
    (looked :
      ∃ outcome,
        lookupResponse crates responses cert issuer now freshness
            delegatedResponder = .ok outcome ∧
          outcome.status = status) :
    ∃ outcome,
      lookupResponse crates responses cert issuer now freshness other =
          .ok outcome ∧
        outcome.status = status := by
  rcases looked with ⟨outcome, looked, rfl⟩
  simp only [lookupResponse, bind_eq_ok] at looked ⊢
  rcases looked with ⟨key, expected, found, searched, looked⟩
  cases found with
  | none =>
      cases looked
      exact ⟨_, ⟨key, expected, none, searched, rfl⟩, rfl⟩
  | some sr =>
      simp only [bind_eq_ok, exists_unit_eq_ok, pure_eq_ok] at looked
      rcases looked with ⟨fresh, rfl⟩
      refine ⟨⟨statusOfResponse sr now, other⟩, ?_, rfl⟩
      refine ⟨key, expected, some sr, searched, ?_⟩
      simp only [fresh, ok_bind]
      rfl

/-- The signature is verified by the first signer, read as the issuer if it is that. -/
theorem verifyOcspResponseSignature_eq_ok_iff
    {responder : Certificate} :
    verifyOcspResponseSignature crates signatures
          (withEmbedded parsed embedded) issuer policy = .ok responder ↔
      ∃ first,
        firstSigner crates signatures parsed issuer policy embedded =
            some first ∧
          responderFor issuer first = responder := by
  have search :
      (signatureCandidates crates (withEmbedded parsed embedded)
          issuer).find?
          (signsResponse crates signatures (withEmbedded parsed embedded)
            policy) =
        firstSigner crates signatures parsed issuer policy embedded :=
    rfl
  rw [verifyOcspResponseSignature, search]
  cases firstSigner crates signatures parsed issuer policy embedded with
  | none => simp
  | some candidate => simp [responderFor]

/-- Authorising fails only in the checks on the issuer's path and the responder. -/
theorem exists_authoriseResponder_iff
    {responder : Certificate} :
    (∃ delegated,
        authoriseResponder crates signatures (withEmbedded parsed embedded)
          responder issuer policy now issuerPath = .ok delegated) ↔
      checkIssuerPath crates signatures issuerPath policy now = .ok () ∧
        (∃ responderCheck,
          validateResponderTrust crates signatures responder issuer parsed
            policy now = .ok responderCheck) ∧
        checkResponderPath crates signatures responder issuer issuerPath
          policy now = .ok () := by
  simp only [authoriseResponder, bind_eq_ok, exists_unit_eq_ok]
  constructor
  · rintro ⟨delegated, issuerPathOk, responderCheck, trusted, path, _⟩
    exact ⟨issuerPathOk, ⟨responderCheck, trusted⟩, path⟩
  · rintro ⟨issuerPathOk, ⟨responderCheck, trusted⟩, path⟩
    cases responderCheck with
    | required =>
        exact ⟨some responder, issuerPathOk, .required, trusted, path, rfl⟩
    | notRequired =>
        exact ⟨none, issuerPathOk, .notRequired, trusted, path, rfl⟩

/-- A status is reported when the first signer may respond, and it is established. -/
theorem reports_iff :
    Reports crates signatures parsed cert issuer nonce now policy freshness
        issuerPath requireNonce embedded status ↔
      (∃ first,
          firstSigner crates signatures parsed issuer policy embedded =
              some first ∧
            MayRespond crates signatures parsed issuer now policy issuerPath
              first) ∧
        Establishes crates signatures parsed cert issuer nonce now policy
          freshness issuerPath requireNonce status := by
  simp only [Reports, checkParsedResponse, bind_eq_ok, exists_unit_eq_ok,
    verifyOcspResponseSignature_eq_ok_iff]
  constructor
  · rintro
      ⟨outcome,
        ⟨_, ⟨first, found, rfl⟩, delegated, authorised, nonceOk, looked⟩,
        isStatus⟩
    rcases exists_authoriseResponder_iff.1 ⟨delegated, authorised⟩ with
      ⟨issuerPathOk, trusted, path⟩
    refine ⟨⟨first, found, trusted, path⟩, issuerPathOk, nonceOk, ?_⟩
    exact lookupResponse_status_of none ⟨outcome, looked, isStatus⟩
  · rintro ⟨⟨first, found, trusted, path⟩, issuerPathOk, nonceOk, entry⟩
    rcases
      exists_authoriseResponder_iff.2 ⟨issuerPathOk, trusted, path⟩ with
      ⟨delegated, authorised⟩
    rcases lookupResponse_status_of delegated entry with
      ⟨outcome, looked, isStatus⟩
    exact
      ⟨outcome,
        ⟨_, ⟨first, found, rfl⟩, delegated, authorised, nonceOk, looked⟩,
        isStatus⟩

/-- Octets that parse are checked behind the request for a nonce. -/
theorem reportsDer_iff
    {utcNow : DateTime} {responseDer : Bytes}
    {validationTime : Option DateTime}
    (parses :
      parseOcspResponse crates responseDer =
        .ok (withEmbedded parsed embedded)) :
    ReportsDer crates signatures cert issuer nonce policy freshness
        issuerPath requireNonce utcNow responseDer validationTime status ↔
      ¬ (requireNonce = true ∧ nonce.getD [] = []) ∧
        Reports crates signatures parsed cert issuer nonce
          (validationTime.getD utcNow) policy freshness issuerPath
          requireNonce embedded status := by
  simp only [ReportsDer, Reports, checkRevocationDetailedInner, parses,
    ok_bind, bind_eq_ok, rejectIf_eq_ok, exists_const]
  constructor
  · rintro ⟨outcome, ⟨requested, checked⟩, isStatus⟩
    exact ⟨requested, outcome, checked, isStatus⟩
  · rintro ⟨requested, outcome, checked, isStatus⟩
    exact ⟨outcome, ⟨requested, checked⟩, isStatus⟩

/-! ## Inserting and reordering -/

/-- With certificates inserted the status stays when the first signer may respond. -/
theorem reports_subperm_iff
    (subperm : embedded.Subperm inserted)
    (reports :
      Reports crates signatures parsed cert issuer nonce now policy freshness
        issuerPath requireNonce embedded status) :
    Reports crates signatures parsed cert issuer nonce now policy freshness
        issuerPath requireNonce inserted status ↔
      ∀ first,
        firstSigner crates signatures parsed issuer policy inserted =
            some first →
          MayRespond crates signatures parsed issuer now policy issuerPath
            first := by
  rw [reports_iff] at reports ⊢
  rcases reports with ⟨⟨signer, found, _⟩, establishes⟩
  constructor
  · rintro ⟨⟨first, isFirst, mayRespond⟩, _⟩ other isOther
    rw [isFirst, Option.some.injEq] at isOther
    rw [← isOther]
    exact mayRespond
  · intro mayRespond
    rcases exists_firstSigner_of_subperm subperm found with ⟨first, isFirst⟩
    exact ⟨⟨first, isFirst, mayRespond first isFirst⟩, establishes⟩

/-- Every order keeps the status when every certificate with a verifying key may respond. -/
theorem reports_perm_iff
    {added : List Bytes}
    (reports :
      Reports crates signatures parsed cert issuer nonce now policy freshness
        issuerPath requireNonce embedded status) :
    (∀ inserted, inserted.Perm (embedded ++ added) →
        Reports crates signatures parsed cert issuer nonce now policy
          freshness issuerPath requireNonce inserted status) ↔
      ∀ hint, Embeds crates (embedded ++ added) hint →
        SignedUnder crates signatures policy parsed hint →
          MayRespond crates signatures parsed issuer now policy issuerPath
            hint := by
  constructor
  · rintro everyOrder hint ⟨certDer, member, decoded⟩ signed
    rcases List.append_of_mem member with ⟨before, after, split⟩
    have reported :=
      everyOrder (certDer :: (before ++ after))
        (split ▸ List.perm_middle.symm)
    rw [reports_iff] at reported
    rcases reported with ⟨⟨first, found, mayRespond⟩, _⟩
    rw [firstSigner_cons decoded signed, Option.some.injEq] at found
    rw [found]
    exact mayRespond
  · intro mayRespond inserted permuted
    have subperm : embedded.Subperm inserted :=
      (List.sublist_append_left embedded added).subperm.trans
        permuted.symm.subperm
    rw [reports_subperm_iff subperm reports]
    intro first found
    rcases firstSigner_cases found with
      ⟨certDer, isEmbedded, decoded⟩ | ⟨rfl, noHint⟩
    · exact
        mayRespond first ⟨certDer, permuted.subset isEmbedded, decoded⟩
          (signedUnder_of_firstSigner found)
    · -- the issuer is tried last, so it was the signer before as well
      rw [reports_iff] at reports
      rcases reports with ⟨⟨signer, wasFound, signerMayRespond⟩, _⟩
      rcases firstSigner_cases wasFound with
        ⟨certDer, wasEmbedded, decoded⟩ | ⟨rfl, _⟩
      · have signed := signedUnder_of_firstSigner wasFound
        exact
          absurd signed
            (noHint signer ⟨certDer, subperm.subset wasEmbedded, decoded⟩)
      · exact signerMayRespond

end Hints

/--
What unsigned hints can change.  When certificates are inserted into a response
and reordered, the check ends with the same status exactly when the first of
them whose key verifies the signature may respond; and it does so in every
order exactly when each of them whose key verifies the signature may.
-/
theorem reports_hints_iff
    (crates : Crates)
    (signatures : Signatures)
    (parsed : ParsedBasicOcspResponse)
    (cert issuer : Certificate)
    (nonce : Option Bytes)
    (utcNow : DateTime)
    (validationTime : Option DateTime)
    (policy : SignaturePolicy)
    (freshness : OcspFreshness)
    (issuerPath : Option (List Certificate × TrustStore))
    (requireNonce : Bool)
    (embedded : List Bytes)
    (status : ValidationStatus) :
    (∀ responseDer insertedDer inserted,
        parseOcspResponse crates responseDer =
            .ok (withEmbedded parsed embedded) →
          parseOcspResponse crates insertedDer =
            .ok (withEmbedded parsed inserted) →
          embedded.Subperm inserted →
          ReportsDer crates signatures cert issuer nonce policy freshness
            issuerPath requireNonce utcNow responseDer validationTime
            status →
          (ReportsDer crates signatures cert issuer nonce policy freshness
              issuerPath requireNonce utcNow insertedDer validationTime
              status ↔
            ∀ first,
              firstSigner crates signatures parsed issuer policy inserted =
                  some first →
                MayRespond crates signatures parsed issuer
                  (validationTime.getD utcNow) policy issuerPath first)) ∧
      ∀ added,
        Reports crates signatures parsed cert issuer nonce
            (validationTime.getD utcNow) policy freshness issuerPath
            requireNonce embedded status →
          ((∀ inserted, inserted.Perm (embedded ++ added) →
              Reports crates signatures parsed cert issuer nonce
                (validationTime.getD utcNow) policy freshness issuerPath
                requireNonce inserted status) ↔
            ∀ hint, Embeds crates (embedded ++ added) hint →
              SignedUnder crates signatures policy parsed hint →
                MayRespond crates signatures parsed issuer
                  (validationTime.getD utcNow) policy issuerPath hint) := by
  constructor
  · intro responseDer insertedDer inserted parses insertedParses subperm
      reports
    rw [reportsDer_iff parses] at reports
    rw [reportsDer_iff insertedParses, reports_subperm_iff subperm reports.2]
    exact and_iff_right reports.1
  · intro added reports
    exact reports_perm_iff reports

/-! ## A copy of the issuer's key -/

section KeyCopy

open RitspLtv.Reference

/-- A certificate that has only the key of the root. -/
def keyCopy : Certificate :=
  certificate 6 0xA1 0xA1 "Copy" "Root" []

/-- The PKI with the copy. -/
def knownWithCopy : Known :=
  { known with certificates := known.certificates ++ [keyCopy] }

/-- What the root signs about the leaf. -/
def directData : Bytes :=
  encodeResponseData root.tbsCertificate.subject year2026
    [leafEntry encodeGood]

/-- The root's own response about the leaf, with embedded certificates. -/
def directResponse (embedded : List Certificate) : Bytes :=
  encodeOcspResponse directData ecdsaWithSha256 (publicKey 0xA1)
    (embedded.map encodeCertificate)

/-- What the response parses to. -/
def directParsed (embedded : List Certificate) : ParsedBasicOcspResponse where
  tbsResponseData := directData
  signatureAlgorithm := ecdsaWithSha256
  signatureBytes := [0xA1]
  responderId := .byName (encodeName root.tbsCertificate.subject)
  producedAt := year2026.instant
  responses :=
    [{ hashAlgorithmOid := certIdHashAlgorithmOid
       issuerNameHash := encodeName root.tbsCertificate.subject
       issuerKeyHash := [0xA1]
       serialNumber := [2]
       certStatus := .good
       thisUpdate := year2026.instant
       nextUpdate := some year2030.instant }]
  nonce := none
  embeddedCertsDer := embedded.map encodeCertificate

/-- The response is good without the copy, and rejected with it. -/
theorem directResponse_keyCopy :
    parseOcspResponse (Reference.crates knownWithCopy)
          (directResponse []) = .ok (directParsed []) ∧
      parseOcspResponse (Reference.crates knownWithCopy)
          (directResponse [keyCopy]) =
        .ok
          (withEmbedded (directParsed []) [encodeCertificate keyCopy]) ∧
      checkRevocationDetailedInner (Reference.crates knownWithCopy)
          Reference.signatures checkedAt (directResponse []) leaf root none
          none .strict .default none false =
        .ok ⟨.valid .ocsp checkedAt, none⟩ ∧
      checkRevocationDetailedInner (Reference.crates knownWithCopy)
          Reference.signatures checkedAt (directResponse [keyCopy]) leaf root
          none none .strict .default none false =
        .error
          (.ocsp
            "OCSP responder certificate subject does not match responderID (byName)") := by
  decide +kernel

end KeyCopy

end RitspLtv.Ltv.ResponderHints
