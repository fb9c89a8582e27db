import RitspLtv.Foundation.FirstMatch
import RitspLtv.Ltv.Crl
import RitspLtv.Reference

/-!
# The verdict of a CRL

A certificate is revoked when some entry of the list carries its serial number
and is in effect.  The lookup stops at the first entry with the serial number,
and nothing makes serial numbers unique.  The module says for which lists the
verdict is the right one, and for which it does not depend on their order.
-/

namespace RitspLtv.Ltv.CrlVerdict

open RitspLtv.Foundation.Checks
open RitspLtv.Foundation.FirstMatch
open RitspLtv.RustStd
open RitspLtv.Chrono
open RitspLtv.DerUtils
open RitspLtv.Crypto.Verify
open RitspLtv.Ltv.Status
open RitspLtv.Ltv.Crl

/-! ## The verdict on a list of entries -/

/-- The entry carries the serial number of the certificate. -/
def matchesCert (cert : Certificate) (entry : RevokedEntry) : Bool :=
  integerBodiesEqual entry.serialNumber (getCertSerialBody cert)

/-- The entry is in effect at an instant. -/
def InEffect (now : DateTime) (entry : RevokedEntry) : Prop :=
  entry.revocationTime ≤ now

instance (now : DateTime) (entry : RevokedEntry) :
    Decidable (InEffect now entry) :=
  inferInstanceAs (Decidable (_ ≤ _))

/-- Some entry of the list revokes the certificate at an instant. -/
def RevokedBy (entries : List RevokedEntry) (cert : Certificate)
    (now : DateTime) : Prop :=
  ∃ entry ∈ entries, matchesCert cert entry = true ∧ InEffect now entry

/-- A status is right when it is `Revoked` on a revoked certificate and else `Valid`. -/
def Correct (entries : List RevokedEntry) (cert : Certificate)
    (now : DateTime) (status : ValidationStatus) : Prop :=
  (status.isRevoked = true ↔ RevokedBy entries cert now) ∧
    (status.isValid = true ↔ ¬ RevokedBy entries cert now)

/-- The lookup decides by the first matching entry. -/
theorem isRevoked_lookupRevoked
    (entries : List RevokedEntry) (cert : Certificate) (now : DateTime) :
    (lookupRevoked entries (getCertSerialBody cert) now).isRevoked =
      firstVerdict (matchesCert cert) (fun entry => decide (InEffect now entry))
        false entries := by
  rw [firstVerdict]
  cases found : entries.find? (matchesCert cert) with
  | none =>
      unfold matchesCert at found
      rw [lookupRevoked, found]
      rfl
  | some entry =>
      unfold matchesCert at found
      rw [lookupRevoked, found]
      by_cases future : entry.revocationTime > now
      · simp only [if_pos future, ValidationStatus.isRevoked]
        exact (decide_eq_false (not_le.mpr future)).symm
      · simp [future, InEffect, ValidationStatus.isRevoked, not_lt.mp future]

/-- The lookup reports nothing but `Valid` and `Revoked`. -/
theorem isValid_lookupRevoked
    (entries : List RevokedEntry) (certSerial : Bytes) (now : DateTime) :
    (lookupRevoked entries certSerial now).isValid =
      !(lookupRevoked entries certSerial now).isRevoked := by
  rw [lookupRevoked]
  split
  · rfl
  · split
    · rfl
    · rfl

theorem isRevoked_lookupRevoked_iff_find
    (entries : List RevokedEntry) (cert : Certificate) (now : DateTime) :
    (lookupRevoked entries (getCertSerialBody cert) now).isRevoked = true ↔
      ∃ entry,
        entries.find? (matchesCert cert) = some entry ∧
          InEffect now entry := by
  rw [isRevoked_lookupRevoked, firstVerdict]
  cases entries.find? (matchesCert cert) with
  | none => simp
  | some entry => simp

/--
The lookup is right exactly when the first matching entry is in effect, or no
matching entry is.
-/
theorem correct_lookupRevoked_iff
    (entries : List RevokedEntry) (cert : Certificate) (now : DateTime) :
    Correct entries cert now
        (lookupRevoked entries (getCertSerialBody cert) now) ↔
      ∀ first, entries.find? (matchesCert cert) = some first →
        InEffect now first ∨
          ∀ entry ∈ entries, matchesCert cert entry = true →
            ¬ InEffect now entry := by
  rw [← find?_iff_exists_match_iff, Correct, isValid_lookupRevoked,
    isRevoked_lookupRevoked_iff_find, Bool.not_eq_true', ← Bool.not_eq_true,
    isRevoked_lookupRevoked_iff_find]
  constructor
  · intro both
    exact both.1
  · intro same
    exact ⟨same, not_congr same⟩

/-- All matching entries are in effect, or none of them is. -/
def Unanimous (entries : List RevokedEntry) (cert : Certificate)
    (now : DateTime) : Prop :=
  (∀ entry ∈ entries, matchesCert cert entry = true → InEffect now entry) ∨
    ∀ entry ∈ entries, matchesCert cert entry = true → ¬ InEffect now entry

/-- The verdict survives every reordering exactly when the entries are unanimous. -/
theorem isRevoked_lookupRevoked_perm_iff
    (entries : List RevokedEntry) (cert : Certificate) (now : DateTime) :
    (∀ reordered, reordered.Perm entries →
        (lookupRevoked reordered (getCertSerialBody cert) now).isRevoked =
          (lookupRevoked entries (getCertSerialBody cert) now).isRevoked) ↔
      Unanimous entries cert now := by
  simp only [isRevoked_lookupRevoked]
  have agree :=
    @firstVerdict_perm_iff RevokedEntry Bool (matchesCert cert) entries
      (fun entry => decide (InEffect now entry)) false
  simp only [decide_eq_decide] at agree
  rw [agree]
  constructor
  · intro agree
    by_cases revoked : RevokedBy entries cert now
    · left
      rcases revoked with ⟨witness, witnessMember, witnessMatch, inEffect⟩
      intro entry member isMatch
      exact
        (agree witness witnessMember entry member witnessMatch isMatch).1
          inEffect
    · right
      intro entry member isMatch inEffect
      exact revoked ⟨entry, member, isMatch, inEffect⟩
  · intro unanimous left leftMember right rightMember leftMatch rightMatch
    rcases unanimous with all | none
    · exact
        iff_of_true (all left leftMember leftMatch)
          (all right rightMember rightMatch)
    · exact
        iff_of_false (none left leftMember leftMatch)
          (none right rightMember rightMatch)

/-! ## The verdict of the check -/

section Check

variable (crates : Crates) (signatures : Signatures)

/-- A CRL parses, and passes every check in front of the lookup. -/
structure Passes (crlDer : Bytes) (parsed : ParsedCrl)
    (cert issuer : Certificate) (now : DateTime) (policy : SignaturePolicy)
    (freshness : CrlFreshness) : Prop where
  parses : parseCrl crates crlDer = .ok parsed
  signed :
    verifyCrlSignatureWithPolicy crates signatures parsed issuer policy =
      .ok ()
  fresh : validateCrlFreshness crates parsed now freshness = .ok ()
  issued : getCertIssuerDer crates cert = .ok parsed.issuerDer

variable {crates signatures}
variable {crlDer : Bytes} {parsed : ParsedCrl} {cert issuer : Certificate}
variable {policy : SignaturePolicy} {freshness : CrlFreshness}

/-- The checks in front of the lookup do not read the entries. -/
theorem checkParsedCrl_eq
    {now : DateTime}
    (passes :
      Passes crates signatures crlDer parsed cert issuer now policy freshness)
    (entries : List RevokedEntry) :
    checkParsedCrl crates signatures { parsed with revokedEntries := entries }
        cert issuer now policy freshness =
      .ok (lookupRevoked entries (getCertSerialBody cert) now) := by
  have signed :
      verifyCrlSignatureWithPolicy crates signatures
          { parsed with revokedEntries := entries } issuer policy = .ok () :=
    passes.signed
  have fresh :
      validateCrlFreshness crates { parsed with revokedEntries := entries }
          now freshness = .ok () :=
    passes.fresh
  rw [checkParsedCrl, signed, fresh, passes.issued]
  simp [rejectIf, pure, Except.pure]

/--
On a CRL that passes its checks, the verdict is right exactly when the first
matching entry is in effect or no matching entry is, and it is independent of
the order of the entries exactly when they are unanimous.
-/
theorem checkRevocationWithOptions_verdict
    (utcNow : DateTime) (validationTime : Option DateTime)
    (passes :
      Passes crates signatures crlDer parsed cert issuer
        (validationTime.getD utcNow) policy freshness) :
    ((∃ status,
        checkRevocationWithOptions crates signatures utcNow crlDer cert issuer
            validationTime policy freshness = .ok status ∧
          Correct parsed.revokedEntries cert (validationTime.getD utcNow)
            status) ↔
      ∀ first,
        parsed.revokedEntries.find? (matchesCert cert) = some first →
          InEffect (validationTime.getD utcNow) first ∨
            ∀ entry ∈ parsed.revokedEntries, matchesCert cert entry = true →
              ¬ InEffect (validationTime.getD utcNow) entry) ∧
      ((∀ reordered, reordered.Perm parsed.revokedEntries →
          ∃ status other,
            checkRevocationWithOptions crates signatures utcNow crlDer cert
                issuer validationTime policy freshness = .ok status ∧
              checkParsedCrl crates signatures
                  { parsed with revokedEntries := reordered } cert issuer
                  (validationTime.getD utcNow) policy freshness =
                .ok other ∧
              other.isRevoked = status.isRevoked) ↔
        Unanimous parsed.revokedEntries cert
          (validationTime.getD utcNow)) := by
  have checked :
      checkRevocationWithOptions crates signatures utcNow crlDer cert issuer
          validationTime policy freshness =
        .ok
          (lookupRevoked parsed.revokedEntries (getCertSerialBody cert)
            (validationTime.getD utcNow)) := by
    rw [checkRevocationWithOptions, passes.parses]
    exact checkParsedCrl_eq passes parsed.revokedEntries
  constructor
  · rw [← correct_lookupRevoked_iff, checked]
    simp
  · rw [← isRevoked_lookupRevoked_perm_iff, checked]
    simp [checkParsedCrl_eq passes]

end Check

/-! ## A future-dated entry in front -/

section FutureEntry

open RitspLtv.Reference

/-- Two entries for the leaf: one that takes effect in 2028, and one of 2025. -/
def maskedEntries : List (Bytes × Time) :=
  [([2], .utcTime year2028),
    ([2], .utcTime year2025)]

/-- The signed part of a CRL of the root, valid from 2026 to 2030. -/
def maskedTbs : Bytes :=
  encodeTbsCertList ecdsaWithSha256 root.tbsCertificate.subject
    (.utcTime year2026)
    (.utcTime year2030) maskedEntries

/-- A CRL of the root. -/
def maskedCrl : Bytes :=
  encodeSigned maskedTbs ecdsaWithSha256 (publicKey 0xA1)

/-- What the CRL parses to. -/
def maskedParsed : ParsedCrl where
  tbsBytes := maskedTbs
  signatureAlgorithm := ecdsaWithSha256
  signatureBytes := [0xA1]
  issuerDer := encodeName root.tbsCertificate.subject
  thisUpdate := year2026.instant
  nextUpdate := some year2030.instant
  revokedEntries :=
    maskedEntries.map fun entry =>
      ⟨entry.1, entry.2.toDateTime.instant, .unspecified⟩

theorem passes_maskedCrl :
    Passes (Reference.crates known) Reference.signatures maskedCrl
      maskedParsed leaf root checkedAt .strict .default where
  parses := by decide +kernel
  signed := by decide +kernel
  fresh := by decide +kernel
  issued := by decide +kernel

/-- The verdict on the leaf, of a CRL whose first entry for it is dated ahead. -/
theorem checkRevocationWithOptions_verdict_masked :
    ((∃ status,
        checkRevocationWithOptions (Reference.crates known)
            Reference.signatures checkedAt maskedCrl leaf root none .strict
            .default = .ok status ∧
          Correct maskedParsed.revokedEntries leaf checkedAt status) ↔
      ∀ first,
        maskedParsed.revokedEntries.find? (matchesCert leaf) = some first →
          InEffect checkedAt first ∨
            ∀ entry ∈ maskedParsed.revokedEntries,
              matchesCert leaf entry = true → ¬ InEffect checkedAt entry) ∧
      ((∀ reordered, reordered.Perm maskedParsed.revokedEntries →
          ∃ status other,
            checkRevocationWithOptions (Reference.crates known)
                Reference.signatures checkedAt maskedCrl leaf root none
                .strict .default = .ok status ∧
              checkParsedCrl (Reference.crates known) Reference.signatures
                  { maskedParsed with revokedEntries := reordered } leaf root
                  checkedAt .strict .default = .ok other ∧
              other.isRevoked = status.isRevoked) ↔
        Unanimous maskedParsed.revokedEntries leaf checkedAt) :=
  checkRevocationWithOptions_verdict checkedAt none passes_maskedCrl

/-- The entry of 2028 hides the one of 2025: the leaf is reported as valid. -/
theorem checkRevocationWithOptions_masked :
    Passes (Reference.crates known) Reference.signatures maskedCrl
        maskedParsed leaf root checkedAt .strict .default ∧
      RevokedBy maskedParsed.revokedEntries leaf checkedAt ∧
      checkRevocationWithOptions (Reference.crates known)
          Reference.signatures checkedAt maskedCrl leaf root none .strict
          .default = .ok (.valid .crl checkedAt) := by
  refine ⟨passes_maskedCrl, ?_, by decide +kernel⟩
  exact
    ⟨⟨[2], year2025.instant, .unspecified⟩,
      by decide +kernel, by decide +kernel, by decide +kernel⟩

end FutureEntry

end RitspLtv.Ltv.CrlVerdict
