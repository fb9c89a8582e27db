import RitspLtv.Crypto.Provider
import RitspLtv.Reference
import RitspLtv.Tsp.Token

/-!
# The digest a token is signed with

A signed token states a digest twice: once for its content and once, through
the signature algorithm or its parameters, for the signature.  This module
compares the two for every signature algorithm.  Every algorithm comes down to at
most one check of the provider (`verifyCmsSignature_eq_ok_iff`), and the check
uses the digest of the content, except for DSA (`boundToDigest_iff`).
-/

namespace RitspLtv.Tsp.SignatureBinding

open RitspLtv.Foundation.Checks
open RitspLtv.RustStd
open RitspLtv.DerUtils
open RitspLtv.Crypto.Algorithm
open RitspLtv.Crypto.Verify
open RitspLtv.Crypto.Provider
open RitspLtv.Tsp.Token

/-! ## The three tables -/

/-- The provider's name for a digest, where it has one. -/
def signatureHash : DigestAlgorithm → Option SignatureHash
  | .sha256 => some .sha256
  | .sha384 => some .sha384
  | .sha512 => some .sha512
  | _ => none

/-- Every entry of the dispatcher, against the tables of the token. -/
theorem schemes_tables :
    ∀ entry ∈ schemes,
      entry.1 ≠ oidRsaEncryption ∧ entry.1 ≠ Token.oidEcPublicKey ∧
      (entry.2 = .rsaPss ↔ entry.1 = Token.oidRsassaPss) ∧
      (isWeakSignatureOid entry.1 = true ∨ entry.1 = Token.oidRsassaPss ∨
        entry.1 = oidEd25519 ∨
        entry = (oidDsaWithSha256, .dsa .sha256) ∨
        entry.2.hash.isSome = true ∧
        (combinedOidDigest entry.1).bind signatureHash =
          entry.2.hash) := by
  decide

/-- The identifiers whose digest is not in the table of the token. -/
def unlisted : List ObjectIdentifier :=
  [Token.oidRsassaPss, oidEd25519, oidDsaWithSha256]

/-- A completed algorithm names the digest it was completed with. -/
theorem completed_tables (digestAlg : DigestAlgorithm) :
    ∀ oid ∈
      [(rsaWithDigest digestAlg).getD oidRsaEncryption,
        (ecdsaWithDigest digestAlg).getD Token.oidEcPublicKey],
      (combinedOidDigest oid = none ∨ combinedOidDigest oid = some digestAlg) ∧
      oid ∉ unlisted := by
  cases digestAlg <;> decide

/--
The algorithm to verify with names no other digest, and it is an unlisted one
only if it was so before.
-/
theorem resolveSignatureOid_cases
    {oid resolved : ObjectIdentifier} {digestAlg : DigestAlgorithm}
    (completed : resolveSignatureOid oid digestAlg = .ok resolved) :
    (combinedOidDigest resolved = none ∨
      combinedOidDigest resolved = some digestAlg) ∧
    (resolved = oid ∨ resolved ∉ unlisted) := by
  unfold resolveSignatureOid at completed
  by_cases rsa : oid = oidRsaEncryption
  · rw [if_pos rsa, Except.ok.injEq, rsa] at completed
    have tables := completed_tables digestAlg resolved (by simp [completed])
    exact ⟨tables.1, .inr tables.2⟩
  · by_cases ec : oid = Token.oidEcPublicKey
    · rw [if_neg rsa, if_pos ec, Except.ok.injEq, ec] at completed
      have tables := completed_tables digestAlg resolved (by simp [completed])
      exact ⟨tables.1, .inr tables.2⟩
    · rw [if_neg rsa, if_neg ec, bind_eq_ok, exists_unit_eq_ok,
        pure_eq_ok] at completed
      rcases completed with ⟨agrees, rfl⟩
      refine ⟨?_, .inl rfl⟩
      unfold rejectDigestDisagreement at agrees
      cases named : combinedOidDigest oid with
      | none => exact .inl rfl
      | some embedded =>
          simp only [named, rejectIf_eq_ok, not_not] at agrees
          exact .inr (congrArg some agrees)

/-! ## The check behind a signature algorithm -/

section Check

variable {Key Verifier : Type}
variable {legacyAlgorithms : Bool}
variable {crates : VerifyCrates} {backend : Backend Key Verifier}
variable {tbs signature spkiDer : Bytes}
variable {algorithm : AlgorithmIdentifier} {digestAlg : DigestAlgorithm}

variable (crates) in
/-- The check that RSASSA-PSS comes down to, for content with a digest. -/
def pssCheck (parameters : Option Any) (digestAlg : DigestAlgorithm) :
    Option Check :=
  match rsaPssCheck crates parameters with
  | .ok (hash, check) => if hash = digestAlg then some check else none
  | .error _ => none

variable (legacyAlgorithms crates spkiDer) in
/-- The check that any other identifier comes down to. -/
def oidCheck (oid : ObjectIdentifier) : Option Check :=
  if isWeakSignatureOid oid then none
  else (schemeOfOid oid).bind (schemeCheck legacyAlgorithms crates spkiDer)

variable (legacyAlgorithms crates spkiDer algorithm digestAlg) in
/-- The one check that the signature of a token comes down to, if any. -/
def cmsCheck : Option Check :=
  if algorithm.oid = Token.oidRsassaPss then
    pssCheck crates algorithm.parameters digestAlg
  else
    (resolveSignatureOid algorithm.oid digestAlg).toOption.bind
      (oidCheck legacyAlgorithms crates spkiDer)

theorem verifyPssSignature_eq_ok_iff :
    verifyPssSignature (signatures legacyAlgorithms crates backend) tbs
        signature spkiDer algorithm digestAlg = .ok () ↔
      ∃ check,
        pssCheck crates algorithm.parameters digestAlg = some check ∧
        backend.Passes check tbs signature spkiDer := by
  simp only [verifyPssSignature, signatures, bind_eq_ok, rejectIf_eq_ok,
    not_not, verifyRsaPssSignatureStrict_eq_ok_iff]
  unfold pssCheck
  cases selected : rsaPssCheck crates algorithm.parameters with
  | error error => simp
  | ok chosen =>
      rcases chosen with ⟨hash, check⟩
      by_cases same : hash = digestAlg
      · simp [same]
      · simp [same]

/-- The scheme of an identifier other than RSASSA-PSS is another one, too. -/
theorem scheme_ne_rsaPss
    {oid : ObjectIdentifier} {scheme : Scheme}
    (notPss : oid ≠ Token.oidRsassaPss)
    (found : schemeOfOid oid = some scheme) :
    scheme ≠ .rsaPss := by
  intro pss
  have tables := schemes_tables _ (mem_schemes_of_schemeOfOid found)
  exact notPss (tables.2.2.1.mp pss)

theorem verifySignatureByOid_eq_ok_iff
    {oid : ObjectIdentifier} (notPss : oid ≠ Token.oidRsassaPss) :
    verifySignatureByOid legacyAlgorithms crates backend tbs signature spkiDer
        oid = .ok () ↔
      ∃ check,
        oidCheck legacyAlgorithms crates spkiDer oid = some check ∧
        backend.Passes check tbs signature spkiDer := by
  unfold verifySignatureByOid verifySignatureByOidWithPolicy oidCheck
  by_cases weak : isWeakSignatureOid oid = true
  · simp [weak, SignaturePolicy.strict]
  · cases found : schemeOfOid oid with
    | none => simp [weak]
    | some scheme =>
        simpa [weak] using
          verifyScheme_eq_ok_iff (scheme_ne_rsaPss notPss found)

/-- A signature is accepted exactly when the one check behind it passes. -/
theorem verifyCmsSignature_eq_ok_iff :
    verifyCmsSignature (signatures legacyAlgorithms crates backend) tbs
        signature spkiDer algorithm digestAlg = .ok () ↔
      ∃ check,
        cmsCheck legacyAlgorithms crates spkiDer algorithm digestAlg =
          some check ∧
        backend.Passes check tbs signature spkiDer := by
  unfold verifyCmsSignature cmsCheck
  by_cases pss : algorithm.oid = Token.oidRsassaPss
  · rw [if_pos pss, if_pos pss]
    exact verifyPssSignature_eq_ok_iff
  · rw [if_neg pss, if_neg pss, bind_eq_ok]
    cases completed : resolveSignatureOid algorithm.oid digestAlg with
    | error error => simp [Except.toOption]
    | ok resolved =>
        have notPss : resolved ≠ Token.oidRsassaPss := by
          rcases (resolveSignatureOid_cases completed).2 with rfl | listed
          · exact pss
          · exact List.ne_of_not_mem_cons listed
        simpa [Except.toOption, signatures] using
          verifySignatureByOid_eq_ok_iff notPss

/-! ## The digest of the check -/

theorem signatureHash_of_pssBackendHash
    {hash : SignatureHash}
    (known : pssBackendHash digestAlg = .ok hash) :
    signatureHash digestAlg = some hash := by
  cases digestAlg <;> simp_all [pssBackendHash, signatureHash]

theorem rsaPssCheck_of_pssCheck
    {parameters : Option Any} {check : Check}
    (chosen : pssCheck crates parameters digestAlg = some check) :
    rsaPssCheck crates parameters = .ok (digestAlg, check) := by
  unfold pssCheck at chosen
  cases selected : rsaPssCheck crates parameters with
  | error error => simp [selected] at chosen
  | ok found =>
      rcases found with ⟨hash, foundCheck⟩
      simp only [selected, Option.ite_none_right_eq_some,
        Option.some.injEq] at chosen
      rw [chosen.1, chosen.2]

theorem hash_of_pssCheck
    {parameters : Option Any} {check : Check}
    (chosen : pssCheck crates parameters digestAlg = some check) :
    ∃ hash, check.signatureAlgorithm.hash = some hash ∧
      signatureHash digestAlg = some hash := by
  have selected := rsaPssCheck_of_pssCheck chosen
  rcases params_of_rsaPssCheck selected with
    ⟨params, hash, -, -, known, rfl⟩
  exact ⟨hash, rfl, signatureHash_of_pssBackendHash known⟩

/-- Whatever identifier is verified with, its check uses the listed digest. -/
theorem hash_of_oidCheck
    {oid : ObjectIdentifier} {check : Check}
    (listed : oid ∉ unlisted)
    (chosen : oidCheck legacyAlgorithms crates spkiDer oid = some check) :
    ∃ named hash, combinedOidDigest oid = some named ∧
      check.signatureAlgorithm.hash = some hash ∧
      signatureHash named = some hash := by
  unfold oidCheck at chosen
  by_cases weak : isWeakSignatureOid oid = true
  · simp [weak] at chosen
  · rw [if_neg weak, Option.bind_eq_some_iff] at chosen
    rcases chosen with ⟨scheme, found, chosen⟩
    have used := hash_of_schemeCheck chosen
    have tables := schemes_tables _ (mem_schemes_of_schemeOfOid found)
    simp only [unlisted, List.mem_cons, List.not_mem_nil, or_false,
      not_or] at listed
    rcases tables.2.2.2 with bad | pss | ed25519 | dsa | ⟨isSome, same⟩
    · exact absurd bad weak
    · exact absurd pss listed.1
    · exact absurd ed25519 listed.2.1
    · exact absurd (congrArg Prod.fst dsa) listed.2.2
    · rcases Option.isSome_iff_exists.mp isSome with ⟨hash, schemeHash⟩
      rw [schemeHash, Option.bind_eq_some_iff] at same
      rcases same with ⟨named, names, same⟩
      exact ⟨named, hash, names, used.trans schemeHash, same⟩

/-- Apart from Ed25519 and DSA, the check of a token uses its digest. -/
theorem hash_of_cmsCheck
    {check : Check}
    (notEd25519 : algorithm.oid ≠ oidEd25519)
    (notDsa : algorithm.oid ≠ oidDsaWithSha256)
    (chosen :
      cmsCheck legacyAlgorithms crates spkiDer algorithm digestAlg =
        some check) :
    ∃ hash, check.signatureAlgorithm.hash = some hash ∧
      signatureHash digestAlg = some hash := by
  unfold cmsCheck at chosen
  by_cases pss : algorithm.oid = Token.oidRsassaPss
  · rw [if_pos pss] at chosen
    exact hash_of_pssCheck chosen
  · rw [if_neg pss, Option.bind_eq_some_iff] at chosen
    rcases chosen with ⟨resolved, completed, chosen⟩
    rw [toOption_eq_some_iff] at completed
    have cases := resolveSignatureOid_cases completed
    have listed : resolved ∉ unlisted := by
      rcases cases.2 with rfl | listed
      · simp [unlisted, pss, notEd25519, notDsa]
      · exact listed
    rcases hash_of_oidCheck listed chosen with ⟨named, hash, names, used, same⟩
    rcases cases.1 with none | agrees
    · rw [none] at names
      cases names
    · rw [names, Option.some.injEq] at agrees
      exact ⟨hash, used, agrees ▸ same⟩

end Check

/-! ## The binding -/

/-- The object identifier of a digest. -/
def SignatureHash.oid : SignatureHash → ObjectIdentifier
  | .md5 => .newUnwrap [1, 2, 840, 113549, 2, 5]
  | .sha1 => oidSha1
  | .sha224 => .newUnwrap [2, 16, 840, 1, 101, 3, 4, 2, 4]
  | .sha256 => DigestAlgorithm.sha256.oid
  | .sha384 => DigestAlgorithm.sha384.oid
  | .sha512 => DigestAlgorithm.sha512.oid

section Binding

variable (legacyAlgorithms : Bool) (crates : VerifyCrates) (spkiDer : Bytes)
variable (algorithm : AlgorithmIdentifier) (digestAlg : DigestAlgorithm)

/-- The digest that the identifier or its parameters fix. -/
def fixedDigestOid : Option ObjectIdentifier :=
  if algorithm.oid = Token.oidRsassaPss then
    (decodeRsaPssParams crates algorithm.parameters).toOption.map
      fun params => params.hash.oid
  else
    ((schemeOfOid algorithm.oid).bind Scheme.hash).map SignatureHash.oid

/-- No provider makes the signature be accepted. -/
def Rejected : Prop :=
  ∀ (Key Verifier : Type) (backend : Backend Key Verifier)
    (tbs signature : Bytes),
    verifyCmsSignature (signatures legacyAlgorithms crates backend) tbs
      signature spkiDer algorithm digestAlg ≠ .ok ()

/-- With every provider, the signature is accepted when this check passes. -/
def DecidedBy (check : Check) : Prop :=
  ∀ (Key Verifier : Type) (backend : Backend Key Verifier)
    (tbs signature : Bytes),
    verifyCmsSignature (signatures legacyAlgorithms crates backend) tbs
        signature spkiDer algorithm digestAlg = .ok () ↔
      backend.Passes check tbs signature spkiDer

/-- The signature of a token is bound to the digest of its content. -/
structure BoundToDigest : Prop where
  /-- What the provider is asked for uses the digest of the content. -/
  usesDigest :
    algorithm.oid ≠ oidEd25519 →
      Rejected legacyAlgorithms crates spkiDer algorithm digestAlg ∨
      ∃ check hash,
        DecidedBy legacyAlgorithms crates spkiDer algorithm digestAlg check ∧
        check.signatureAlgorithm.hash = some hash ∧
        signatureHash digestAlg = some hash
  /-- An algorithm that fixes another digest is rejected. -/
  rejectsOther :
    ∀ fixed, fixedDigestOid crates algorithm = some fixed →
      fixed ≠ digestAlg.oid →
      Rejected legacyAlgorithms crates spkiDer algorithm digestAlg

variable {legacyAlgorithms crates spkiDer algorithm digestAlg}

theorem decidedBy_of_cmsCheck
    {check : Check}
    (chosen :
      cmsCheck legacyAlgorithms crates spkiDer algorithm digestAlg =
        some check) :
    DecidedBy legacyAlgorithms crates spkiDer algorithm digestAlg check := by
  intro Key Verifier backend tbs signature
  simp [verifyCmsSignature_eq_ok_iff, chosen]

theorem rejected_iff :
    Rejected legacyAlgorithms crates spkiDer algorithm digestAlg ↔
      cmsCheck legacyAlgorithms crates spkiDer algorithm digestAlg = none := by
  constructor
  · intro rejected
    cases chosen :
        cmsCheck legacyAlgorithms crates spkiDer algorithm digestAlg with
    | none => rfl
    | some check =>
        have accepted :=
          (decidedBy_of_cmsCheck chosen Unit Unit acceptAll [] []).mpr
            (acceptAll_passes check [] [])
        exact absurd accepted (rejected Unit Unit acceptAll [] [])
  · intro unchosen Key Verifier backend tbs signature
    simp [verifyCmsSignature_eq_ok_iff, unchosen]

/-! ## Digests fixed by the algorithm -/

theorem oid_of_signatureHash
    {hash : SignatureHash}
    (known : signatureHash digestAlg = some hash) :
    SignatureHash.oid hash = digestAlg.oid := by
  cases digestAlg <;> simp [signatureHash] at known <;>
    subst known <;> rfl

/-- DSA names a digest that the tables of the token do not know. -/
theorem cmsCheck_of_dsa
    (dsa : algorithm.oid = oidDsaWithSha256) :
    cmsCheck legacyAlgorithms crates spkiDer algorithm digestAlg =
      if legacyAlgorithms then some ⟨.dsa, .dsa .sha256, none⟩ else none := by
  have notPss : oidDsaWithSha256 ≠ Token.oidRsassaPss := by decide
  have resolved :
      resolveSignatureOid oidDsaWithSha256 digestAlg =
        .ok oidDsaWithSha256 := rfl
  unfold cmsCheck
  rw [dsa, if_neg notPss, resolved]
  rfl

/-- The scheme of a check, when the identifier itself has one. -/
theorem schemeCheck_of_cmsCheck
    {scheme : Scheme} {check : Check}
    (notPss : algorithm.oid ≠ Token.oidRsassaPss)
    (found : schemeOfOid algorithm.oid = some scheme)
    (chosen :
      cmsCheck legacyAlgorithms crates spkiDer algorithm digestAlg =
        some check) :
    schemeCheck legacyAlgorithms crates spkiDer scheme = some check := by
  have tables := schemes_tables _ (mem_schemes_of_schemeOfOid found)
  unfold cmsCheck at chosen
  rw [if_neg notPss, Option.bind_eq_some_iff] at chosen
  rcases chosen with ⟨resolved, completed, chosen⟩
  rw [toOption_eq_some_iff, resolveSignatureOid, if_neg tables.1,
    if_neg tables.2.1, bind_eq_ok, exists_unit_eq_ok, pure_eq_ok] at completed
  rcases completed with ⟨-, rfl⟩
  unfold oidCheck at chosen
  by_cases weak : isWeakSignatureOid algorithm.oid = true
  · simp [weak] at chosen
  · simpa [weak, found] using chosen

/-- Apart from DSA, a digest that is fixed is that of the content. -/
theorem fixedDigestOid_of_cmsCheck
    {check : Check} {fixed : ObjectIdentifier}
    (notDsa : algorithm.oid ≠ oidDsaWithSha256)
    (chosen :
      cmsCheck legacyAlgorithms crates spkiDer algorithm digestAlg =
        some check)
    (fixes : fixedDigestOid crates algorithm = some fixed) :
    fixed = digestAlg.oid := by
  unfold fixedDigestOid at fixes
  by_cases pss : algorithm.oid = Token.oidRsassaPss
  · rw [if_pos pss] at fixes
    unfold cmsCheck at chosen
    rw [if_pos pss] at chosen
    rcases params_of_rsaPssCheck (rsaPssCheck_of_pssCheck chosen) with
      ⟨params, hash, decoded, known, -, -⟩
    simp only [decoded, Except.toOption, Option.map_some,
      Option.some.injEq] at fixes
    exact fixes ▸ DigestAlgorithm.oid_of_fromOid known
  · rw [if_neg pss, Option.map_eq_some_iff] at fixes
    rcases fixes with ⟨hash, fixes, rfl⟩
    rw [Option.bind_eq_some_iff] at fixes
    rcases fixes with ⟨scheme, found, schemeHash⟩
    have notEd25519 : algorithm.oid ≠ oidEd25519 := by
      intro ed25519
      rw [ed25519] at found
      cases found
      cases schemeHash
    have used :=
      (hash_of_schemeCheck (schemeCheck_of_cmsCheck pss found chosen)).trans
        schemeHash
    rcases hash_of_cmsCheck notEd25519 notDsa chosen with
      ⟨other, otherUsed, known⟩
    have same : hash = other := Option.some.inj (used.symm.trans otherUsed)
    exact same ▸ oid_of_signatureHash known

/-- Where DSA is supported, the digest of its content is compared with nothing. -/
theorem not_boundToDigest_of_dsa
    (enabled : legacyAlgorithms = true)
    (dsa : algorithm.oid = oidDsaWithSha256)
    (other : digestAlg ≠ .sha256) :
    ¬ BoundToDigest legacyAlgorithms crates spkiDer algorithm digestAlg := by
  intro bound
  have fixes :
      fixedDigestOid crates algorithm = some DigestAlgorithm.sha256.oid := by
    unfold fixedDigestOid
    rw [dsa]
    rfl
  have differs : DigestAlgorithm.sha256.oid ≠ digestAlg.oid := by
    cases digestAlg <;> first | decide | exact absurd rfl other
  have unchosen := rejected_iff.mp (bound.rejectsOther _ fixes differs)
  rw [cmsCheck_of_dsa dsa, enabled] at unchosen
  cases unchosen

/-- DSA itself is used with SHA-256. -/
theorem boundToDigest_of_dsa
    (dsa : algorithm.oid = oidDsaWithSha256) :
    BoundToDigest true crates spkiDer algorithm .sha256 := by
  have chosen : cmsCheck true crates spkiDer algorithm .sha256 = _ :=
    cmsCheck_of_dsa dsa
  have decided := decidedBy_of_cmsCheck chosen
  refine
    ⟨fun _ => .inr ⟨_, _, decided, rfl, rfl⟩,
      fun fixed fixes differs => absurd ?_ differs⟩
  unfold fixedDigestOid at fixes
  rw [dsa] at fixes
  exact (Option.some.inj fixes).symm

/--
A signature is bound to the digest of the content for every algorithm but
DSA, which is bound to it only where its own digest happens to be the same.
-/
theorem boundToDigest_iff :
    BoundToDigest legacyAlgorithms crates spkiDer algorithm digestAlg ↔
      ¬ (legacyAlgorithms = true ∧ algorithm.oid = oidDsaWithSha256 ∧
        digestAlg ≠ .sha256) := by
  constructor
  · rintro bound ⟨enabled, dsa, other⟩
    exact not_boundToDigest_of_dsa enabled dsa other bound
  · intro supported
    cases chosen :
        cmsCheck legacyAlgorithms crates spkiDer algorithm digestAlg with
    | none =>
        have rejected := rejected_iff.mpr chosen
        exact ⟨fun _ => .inl rejected, fun _ _ _ => rejected⟩
    | some check =>
        by_cases dsa : algorithm.oid = oidDsaWithSha256
        · rw [cmsCheck_of_dsa dsa, Option.ite_none_right_eq_some] at chosen
          have enabled := chosen.1
          have same : digestAlg = .sha256 := by
            by_contra other
            exact supported ⟨enabled, dsa, other⟩
          subst enabled same
          exact boundToDigest_of_dsa dsa
        · constructor
          · intro notEd25519
            rcases hash_of_cmsCheck notEd25519 dsa chosen with
              ⟨hash, used, known⟩
            exact
              .inr ⟨check, hash, decidedBy_of_cmsCheck chosen, used, known⟩
          · intro fixed fixes differs
            exact absurd (fixedDigestOid_of_cmsCheck dsa chosen fixes) differs

end Binding

/-! ## A signature over another digest -/

/-- A provider that knows DSA with SHA-256 only, and finds it valid. -/
def dsaOnly : Backend Unit Unit where
  fromSpkiDer _ _ := .ok ()
  newRsaPssWithSalt _ _ _ := .error (.unsupportedAlgorithm "RSASSA-PSS")
  new signatureAlgorithm _ :=
    if signatureAlgorithm = .dsa .sha256 then .ok ()
    else .error (.unsupportedAlgorithm "not DSA with SHA-256")
  verifyDerSignature _ _ _ := .ok true
  debugAlgorithm _ := "Dsa(Sha256)"

/-- No decoder is used on the way to a DSA signature. -/
def verifyCrates : VerifyCrates where
  toCrates := RitspLtv.Reference.crates RitspLtv.Reference.known
  spkiFromDer _ := .error "not an SPKI"
  namedCurveFromAny _ := .error "not an OBJECT IDENTIFIER"
  anyToDer value := .ok (encodeTlv value.tag value.value)
  rsaPssFieldsFromDer _ := .error "not RSASSA-PSS-params"
  tbsToDer _ := .error "not a TBSCertificate"
  debugParameters _ := "None"

/-- The signature algorithm of a signer that uses DSA with SHA-256. -/
def dsaWithSha256 : AlgorithmIdentifier := ⟨oidDsaWithSha256, none⟩

/-- A DSA signature over SHA-256 is accepted for content under SHA-512. -/
theorem dsa_accepted_under_sha512 :
    verifyCmsSignature (signatures true verifyCrates dsaOnly) [0x31, 0x00]
        [0x30, 0x00] [0x30, 0x00] dsaWithSha256 .sha512 = .ok () ∧
      dsaOnly.Passes ⟨.dsa, .dsa .sha256, none⟩ [0x31, 0x00] [0x30, 0x00]
        [0x30, 0x00] ∧
      fixedDigestOid verifyCrates dsaWithSha256 =
        some DigestAlgorithm.sha256.oid ∧
      ¬ BoundToDigest true verifyCrates [0x30, 0x00] dsaWithSha256
        .sha512 := by
  refine ⟨rfl, ⟨(), (), rfl, rfl, rfl⟩, rfl, ?_⟩
  apply not_boundToDigest_of_dsa
  · rfl
  · rfl
  · decide

end RitspLtv.Tsp.SignatureBinding
