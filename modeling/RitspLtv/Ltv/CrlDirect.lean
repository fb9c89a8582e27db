import RitspLtv.Ltv.CrlVerdict
import RitspLtv.Ltv.FreshnessRange

/-!
# What a CRL check returns

A CRL is believed when its issuer may sign it, did sign it, and is the issuer of
the certificate.  The module says for which octets the check then returns which
status.
-/

namespace RitspLtv.Ltv.CrlDirect

open RitspLtv.Foundation.Checks
open RitspLtv.Foundation.FirstMatch
open RitspLtv.RustStd
open RitspLtv.Chrono
open RitspLtv.DerUtils
open RitspLtv.Crypto.Verify
open RitspLtv.Ltv.Status
open RitspLtv.Ltv.X509Ext
open RitspLtv.Ltv.Crl
open RitspLtv.Ltv.CrlVerdict
open RitspLtv.Ltv.FreshnessRange

section Direct

variable (crates : Crates) (signatures : Signatures)
variable (parsed : ParsedCrl) (cert issuer : Certificate)
variable (now : DateTime) (policy : SignaturePolicy)
variable (freshness : CrlFreshness)

/-- A key usage, when there is one, allows signing CRLs. -/
def MaySignCrls : Prop :=
  ∃ usage,
    checkKeyUsage issuer = .ok usage ∧
      ∀ bits, usage = some bits → bits.crlSign = true

/-- The last instant that a window reaches, widened by the skew. -/
def lastInstant (thisUpdate : DateTime) : Option DateTime → DateTime
  | some nextUpdate => nextUpdate + freshness.clockSkew
  | none =>
      thisUpdate + freshness.maxAgeWithoutNextUpdate + freshness.clockSkew

/-- The settings can be added to the window, which is in order and reaches the instant. -/
structure Fresh (thisUpdate : DateTime) (nextUpdate : Option DateTime) :
    Prop where
  fits :
    SettingsFit freshness.clockSkew freshness.maxAgeWithoutNextUpdate
      thisUpdate nextUpdate
  ordered : ∀ later, nextUpdate = some later → thisUpdate ≤ later
  reaches : now ≤ lastInstant freshness thisUpdate nextUpdate

/-- What the entries say about the certificate. -/
inductive EntriesSay :
    List RevokedEntry → ValidationStatus → Prop where
  | absent (entries : List RevokedEntry)
      (unnamed : ∀ entry ∈ entries, matchesCert cert entry = false) :
      EntriesSay entries (.valid .crl now)
  | ahead (earlier later : List RevokedEntry) (entry : RevokedEntry)
      (unnamed : ∀ other ∈ earlier, matchesCert cert other = false)
      (named : matchesCert cert entry = true)
      (notYet : ¬ InEffect now entry) :
      EntriesSay (earlier ++ entry :: later) (.valid .crl now)
  | inEffect (earlier later : List RevokedEntry) (entry : RevokedEntry)
      (unnamed : ∀ other ∈ earlier, matchesCert cert other = false)
      (named : matchesCert cert entry = true)
      (already : InEffect now entry) :
      EntriesSay (earlier ++ entry :: later)
        (.revoked .crl entry.reason entry.revocationTime)

/-- A CRL that the issuer made about its certificates, and the status in it. -/
structure Believed (status : ValidationStatus) : Prop where
  maySign : MaySignCrls issuer
  signed :
    ∃ spkiDer,
      crates.spkiToDer issuer.tbsCertificate.subjectPublicKeyInfo =
          .ok spkiDer ∧
        signatures.verifySignatureByAlgidWithPolicy parsed.tbsBytes
            parsed.signatureBytes spkiDer parsed.signatureAlgorithm policy =
          .ok ()
  named : crates.nameToDer issuer.tbsCertificate.subject = .ok parsed.issuerDer
  issued : crates.nameToDer cert.tbsCertificate.issuer = .ok parsed.issuerDer
  fresh : Fresh now freshness parsed.thisUpdate parsed.nextUpdate
  entries : EntriesSay cert now parsed.revokedEntries status

variable {crates signatures parsed cert issuer now policy freshness}

/-! ## The checks -/

theorem requireCrlSign_eq_ok_iff :
    requireCrlSign issuer = .ok () ↔ MaySignCrls issuer := by
  rw [requireCrlSign, bind_eq_ok, MaySignCrls]
  apply exists_congr
  intro usage
  apply and_congr_right
  intro _
  cases usage with
  | none => simp
  | some bits => simp

theorem validateCrlDates_eq_ok_iff
    {thisUpdate : DateTime} {nextUpdate : Option DateTime} :
    validateCrlDates crates thisUpdate nextUpdate now freshness = .ok () ↔
      Fresh now freshness thisUpdate nextUpdate := by
  cases nextUpdate with
  | some nextUpdate =>
      simp only [validateCrlDates, bind_eq_ok, rejectIf_eq_ok, exists_const,
        not_lt, addOrPanic_eq_ok_iff]
      constructor
      · rintro ⟨inOrder, latest, ⟨fits, rfl⟩, reaches⟩
        refine ⟨fun _ => fits, ?_, reaches⟩
        intro later same
        cases same
        exact inOrder
      · rintro ⟨fits, ordered, reaches⟩
        have inOrder := ordered nextUpdate rfl
        exact ⟨inOrder, _, ⟨fits inOrder, rfl⟩, reaches⟩
  | none =>
      simp only [validateCrlDates, bind_eq_ok, rejectIf_eq_ok, not_lt,
        addOrPanic_eq_ok_iff]
      constructor
      · rintro ⟨aged, ⟨ageFits, rfl⟩, maxValid, ⟨skewFits, rfl⟩, reaches⟩
        refine ⟨⟨ageFits, skewFits⟩, ?_, reaches⟩
        intro later same
        cases same
      · rintro ⟨fits, _, reaches⟩
        exact ⟨_, ⟨fits.1, rfl⟩, _, ⟨fits.2, rfl⟩, reaches⟩

theorem lookupRevoked_eq_iff
    {entries : List RevokedEntry} {status : ValidationStatus} :
    lookupRevoked entries (getCertSerialBody cert) now = status ↔
      EntriesSay cert now entries status := by
  have search :
      (entries.find? fun entry =>
          integerBodiesEqual entry.serialNumber (getCertSerialBody cert)) =
        entries.find? (matchesCert cert) :=
    rfl
  rw [lookupRevoked, search]
  constructor
  · rintro rfl
    cases isFirst : entries.find? (matchesCert cert) with
    | none => exact .absent entries (by simpa using isFirst)
    | some entry =>
        rcases List.find?_eq_some_iff_append.mp isFirst with
          ⟨named, earlier, later, rfl, others⟩
        have unnamed :
            ∀ other ∈ earlier, matchesCert cert other = false := by
          simpa using others
        by_cases notYet : entry.revocationTime > now
        · simp only [if_pos notYet]
          exact .ahead earlier later entry unnamed named (not_le.mpr notYet)
        · simp only [if_neg notYet]
          exact .inEffect earlier later entry unnamed named (not_lt.mp notYet)
  · intro told
    cases told with
    | absent _ unnamed =>
        have isFirst : entries.find? (matchesCert cert) = none := by
          simpa using unnamed
        rw [isFirst]
    | ahead earlier later entry unnamed named notYet =>
        have isFirst :
            (earlier ++ entry :: later).find? (matchesCert cert) =
              some entry :=
          find?_of_first unnamed named
        rw [isFirst]
        exact if_pos (not_le.mp notYet)
    | inEffect earlier later entry unnamed named already =>
        have isFirst :
            (earlier ++ entry :: later).find? (matchesCert cert) =
              some entry :=
          find?_of_first unnamed named
        rw [isFirst]
        exact if_neg (not_lt.mpr already)

theorem checkParsedCrl_eq_ok_iff {status : ValidationStatus} :
    checkParsedCrl crates signatures parsed cert issuer now policy freshness =
        .ok status ↔
      Believed crates signatures parsed cert issuer now policy freshness
        status := by
  simp only [checkParsedCrl, verifyCrlSignatureWithPolicy, bind_eq_ok,
    exists_unit_eq_ok, mapError_eq_ok, rejectIf_eq_ok, exists_const,
    pure_eq_ok, validateCrlFreshness, validateCrlDates_eq_ok_iff,
    requireCrlSign_eq_ok_iff, getCertIssuerDer, lookupRevoked_eq_iff, ne_eq,
    not_not]
  constructor
  · rintro
      ⟨_, ⟨maySign, spkiDer, encoded, _, named, rfl, verified⟩, fresh, _, issued,
        rfl, told⟩
    exact ⟨maySign, ⟨spkiDer, encoded, verified⟩, named, issued, fresh, told⟩
  · rintro ⟨maySign, ⟨spkiDer, encoded, verified⟩, named, issued, fresh, told⟩
    exact
      ⟨(), ⟨maySign, spkiDer, encoded, _, named, rfl, verified⟩, fresh, _, issued,
        rfl, told⟩

end Direct

/--
The check against a CRL returns a status exactly when the octets are those of a
CRL that the issuer of the certificate may sign and signed, whose window is in
order and not past, and the status is what the first entry with the certificate's
serial number says.
-/
theorem checkRevocation_crl_iff
    (crates : Crates) (signatures : Signatures)
    (utcNow : DateTime) (crlDer : Bytes) (cert issuer : Certificate)
    (validationTime : Option DateTime) (policy : SignaturePolicy)
    (freshness : CrlFreshness) (status : ValidationStatus) :
    checkRevocationWithOptions crates signatures utcNow crlDer cert issuer
          validationTime policy freshness = .ok status ↔
      ∃ parsed,
        parseCrl crates crlDer = .ok parsed ∧
          Believed crates signatures parsed cert issuer
            (validationTime.getD utcNow) policy freshness status := by
  rw [checkRevocationWithOptions, bind_eq_ok]
  apply exists_congr
  intro parsed
  rw [checkParsedCrl_eq_ok_iff]

end RitspLtv.Ltv.CrlDirect
