import RitspLtv.Reference
import RitspLtv.Trust.ChainSoundness

/-!
# The two profiles of a certification authority

The trust store and the validator of certificate roles each check that a
certificate may sign certificates, and each has its own reader for the key
usage.  On a certificate without repeated extensions they decide the same,
except that the second also refuses a path length that does not fit in 32 bits.
-/

namespace RitspLtv.Trust.CaProfiles

open RitspLtv.Foundation.Checks
open RitspLtv.RustStd
open RitspLtv.DerUtils
open RitspLtv.Tsp.SignerProfile
open RitspLtv.Ltv.X509Ext
open RitspLtv.Trust.Store
open RitspLtv.Trust.ChainSoundness

/-! ## Key usage -/

/-- The value is one well-padded BIT STRING with the given content octets. -/
def BitStringValue (extValue bitBytes : Bytes) : Prop :=
  ∃ unusedBits,
    parseTlvWithRest extValue = .ok (0x03, unusedBits :: bitBytes, []) ∧
      unusedBits ≤ 7 ∧
      (0 < unusedBits → bitBytes.getLastD 0 &&& paddingMask unusedBits = 0)

/-- The role validator's reader wants a bit to be asserted. -/
theorem keyUsageBytes_eq_ok_iff
    {extValue bitBytes : Bytes} :
    keyUsageBytes extValue = .ok bitBytes ↔
      BitStringValue extValue bitBytes ∧ bitBytes.all (· = 0) = false := by
  simp only [keyUsageBytes, bind_eq_ok, mapError_eq_ok, rejectIf_eq_ok,
    exists_const, Prod.exists, ne_eq, not_not]
  constructor
  · rintro ⟨tag, body, rest, parsed, rfl, rfl, read⟩
    cases body with
    | nil => cases read
    | cons unusedBits octets =>
        simp only [bind_eq_ok, rejectIf_eq_ok, exists_const, pure_eq_ok,
          not_and, not_not, Bool.not_eq_true] at read
        rcases read with ⟨few, asserted, padded, rfl⟩
        exact ⟨⟨unusedBits, parsed, UInt8.not_lt.mp few, padded⟩, asserted⟩
  · rintro ⟨⟨unusedBits, parsed, few, padded⟩, asserted⟩
    refine ⟨_, _, _, parsed, rfl, rfl, ?_⟩
    simp only [bind_eq_ok, rejectIf_eq_ok, exists_const, pure_eq_ok,
      not_and, not_not, Bool.not_eq_true]
    exact ⟨UInt8.not_lt.mpr few, asserted, padded, trivial⟩

/-- The store's reader wants a content octet. -/
theorem parseKeyCertSignBit_eq_ok_iff
    {extValue : Bytes} {bit : Bool} :
    parseKeyCertSignBit extValue = .ok bit ↔
      ∃ bitBytes,
        BitStringValue extValue bitBytes ∧ bitBytes ≠ [] ∧
          bit = bitSet bitBytes 5 := by
  simp only [parseKeyCertSignBit, bind_eq_ok, mapError_eq_ok, rejectIf_eq_ok,
    exists_const, Prod.exists, ne_eq, not_not]
  constructor
  · rintro ⟨tag, body, rest, parsed, rfl, rfl, read⟩
    cases body with
    | nil => cases read
    | cons unusedBits bitBytes =>
        cases bitBytes with
        | nil =>
            simp only [bind_eq_ok, reduceCtorEq, and_false,
              exists_const] at read
        | cons first following =>
            simp only [bind_eq_ok, rejectIf_eq_ok, exists_const, pure_eq_ok,
              not_and, not_not] at read
            rcases read with ⟨few, padded, rfl⟩
            exact
              ⟨first :: following,
                ⟨unusedBits, parsed, UInt8.not_lt.mp few, padded⟩,
                List.cons_ne_nil _ _, rfl⟩
  · rintro ⟨bitBytes, ⟨unusedBits, parsed, few, padded⟩, nonempty, rfl⟩
    refine ⟨_, _, _, parsed, rfl, rfl, ?_⟩
    cases bitBytes with
    | nil => exact absurd rfl nonempty
    | cons first following =>
        simp only [bind_eq_ok, rejectIf_eq_ok, exists_const, pure_eq_ok,
          not_and, not_not]
        exact ⟨UInt8.not_lt.mpr few, padded, rfl⟩

/-- Where both readers accept a value, they read the same `keyCertSign`. -/
theorem parseKeyCertSignBit_of_keyUsageBytes
    {extValue bitBytes : Bytes}
    (read : keyUsageBytes extValue = .ok bitBytes) :
    parseKeyCertSignBit extValue = .ok (bitSet bitBytes 5) := by
  rw [keyUsageBytes_eq_ok_iff] at read
  rw [parseKeyCertSignBit_eq_ok_iff]
  refine ⟨bitBytes, read.1, ?_, rfl⟩
  rintro rfl
  exact absurd read.2 (by decide)

/-- A value in which `keyCertSign` is set is accepted by both readers. -/
theorem parseKeyCertSignBit_eq_true_iff {extValue : Bytes} :
    parseKeyCertSignBit extValue = .ok true ↔
      ∃ bitBytes,
        keyUsageBytes extValue = .ok bitBytes ∧ bitSet bitBytes 5 = true := by
  constructor
  · intro read
    rw [parseKeyCertSignBit_eq_ok_iff] at read
    rcases read with ⟨bitBytes, isValue, nonempty, isSet⟩
    refine ⟨bitBytes, keyUsageBytes_eq_ok_iff.mpr ⟨isValue, ?_⟩, isSet.symm⟩
    rw [Bool.eq_false_iff]
    intro allZero
    cases bitBytes with
    | nil => exact nonempty rfl
    | cons first following =>
        have firstZero : first = 0 :=
          of_decide_eq_true
            (List.all_eq_true.mp allZero first List.mem_cons_self)
        have notSet : bitSet (0 :: following) 5 = false := rfl
        rw [firstZero, notSet] at isSet
        cases isSet
  · rintro ⟨bitBytes, read, isSet⟩
    rw [parseKeyCertSignBit_of_keyUsageBytes read, isSet]

/-! ## Extensions that occur once -/

theorem filter_eq_toList_find?
    {extensions : List Extension} (oid : ObjectIdentifier)
    (distinct : (extensions.map Extension.extnId).Nodup) :
    (extensions.filter fun ext => ext.extnId == oid) =
      (extensions.find? fun ext => ext.extnId == oid).toList := by
  induction extensions with
  | nil => rfl
  | cons first rest induction =>
      rw [List.map_cons, List.nodup_cons] at distinct
      by_cases same : (first.extnId == oid) = true
      · have noOther :
            (rest.filter fun ext => ext.extnId == oid) = [] := by
          rw [List.filter_eq_nil_iff]
          intro other member otherSame
          apply distinct.1
          rw [beq_iff_eq.mp same, ← beq_iff_eq.mp otherSame]
          exact List.mem_map_of_mem member
        have found :
            ((first :: rest).find? fun ext => ext.extnId == oid) =
              some first :=
          List.find?_cons_of_pos same
        rw [List.filter_cons, if_pos same, found, noOther]
        rfl
      · have passed :
            ((first :: rest).find? fun ext => ext.extnId == oid) =
              rest.find? fun ext => ext.extnId == oid :=
          List.find?_cons_of_neg same
        rw [List.filter_cons, if_neg same, passed]
        exact induction distinct.2

/-- The role validator's search finds the extension that the store finds. -/
theorem findExtensionValue_eq
    {cert : Certificate} (oid : ObjectIdentifier)
    (distinct : (cert.extensions.map Extension.extnId).Nodup) :
    findExtensionValue cert oid =
      .ok ((cert.findExtension oid).map Extension.extnValue) := by
  rw [findExtensionValue, Certificate.extensionsWith,
    filter_eq_toList_find? oid distinct, Certificate.findExtension]
  cases cert.extensions.find? fun ext => ext.extnId == oid <;> rfl

/-! ## The profiles -/

section Distinct

variable {cert : Certificate}
variable (distinct : (cert.extensions.map Extension.extnId).Nodup)

include distinct

/-- The role validator reads what the store reads, if it fits. -/
theorem checkBasicConstraints_eq_ok_iff
    {isCa : Bool} {pathLen : Option Nat} :
    checkBasicConstraints cert = .ok (isCa, pathLen) ↔
      basicConstraints cert = .ok (isCa, pathLen) ∧
        ∀ maxDepth, pathLen = some maxDepth → maxDepth < 2 ^ 32 := by
  rw [checkBasicConstraints, findExtensionValue_eq _ distinct, ok_bind,
    basicConstraints]
  cases cert.findExtension basicConstraintsOid with
  | none =>
      constructor
      · intro read
        cases read
        refine ⟨rfl, ?_⟩
        intro maxDepth same
        cases same
      · rintro ⟨read, _⟩
        cases read
        rfl
  | some ext =>
      simp only [Option.map_some, bind_eq_ok, mapError_eq_ok, Prod.exists]
      constructor
      · rintro ⟨flag, length, parsed, read⟩
        cases length with
        | none =>
            cases read
            refine ⟨parsed, ?_⟩
            intro maxDepth same
            cases same
        | some length =>
            simp only [bind_eq_ok, rejectIf_eq_ok, exists_const, pure_eq_ok,
              Prod.mk.injEq] at read
            rcases read with ⟨fits, rfl, rfl⟩
            refine ⟨parsed, ?_⟩
            intro maxDepth same
            cases same
            exact Nat.not_le.mp fits
      · rintro ⟨parsed, fits⟩
        refine ⟨isCa, pathLen, parsed, ?_⟩
        cases pathLen with
        | none => rfl
        | some length =>
            simp only [bind_eq_ok, rejectIf_eq_ok, exists_const, pure_eq_ok,
              and_true]
            exact Nat.not_le.mpr (fits length rfl)

/-- A key usage, when there is one, allows signing certificates. -/
theorem checkKeyUsage_allows_iff :
    (∃ usage,
        checkKeyUsage cert = .ok usage ∧
          ∀ bits, usage = some bits → bits.keyCertSign = true) ↔
      KeyUsageAllowsCertSign cert := by
  rw [checkKeyUsage, findExtensionValue_eq _ distinct, ok_bind,
    KeyUsageAllowsCertSign, keyCertSign]
  cases cert.findExtension keyUsageOid with
  | none =>
      constructor
      · intro _
        exact Or.inl rfl
      · intro _
        refine ⟨none, rfl, ?_⟩
        intro bits same
        cases same
  | some ext =>
      simp only [Option.map_some, bind_eq_ok, pure_eq_ok, Option.some.injEq,
        reduceCtorEq, and_false, exists_false, false_or,
        exists_eq_right, parseKeyCertSignBit_eq_true_iff]
      constructor
      · rintro ⟨_, ⟨bitBytes, read, rfl⟩, allows⟩
        exact ⟨bitBytes, read, allows _ rfl⟩
      · rintro ⟨bitBytes, read, isSet⟩
        refine ⟨_, ⟨bitBytes, read, rfl⟩, ?_⟩
        intro bits same
        cases same
        exact isSet

/-- The path length of a certificate, if it has one, fits in 32 bits. -/
def PathLenFits (cert : Certificate) : Prop :=
  ∀ maxDepth, HasPathLen cert maxDepth → maxDepth < 2 ^ 32

omit distinct in
theorem validateIntermediateCa_eq_ok_iff :
    validateIntermediateCa cert = .ok () ↔
      (∃ pathLen, checkBasicConstraints cert = .ok (true, pathLen)) ∧
        ∃ usage,
          checkKeyUsage cert = .ok usage ∧
            ∀ bits, usage = some bits → bits.keyCertSign = true := by
  simp only [validateIntermediateCa, bind_eq_ok, rejectIf_eq_ok, exists_const,
    Prod.exists, Bool.not_eq_false]
  constructor
  · rintro ⟨isCa, pathLen, read, rfl, usage, usageRead, allowed⟩
    refine ⟨⟨pathLen, read⟩, usage, usageRead, ?_⟩
    rintro bits rfl
    exact (Bool.not_eq_false _).mp (rejectIf_eq_ok.mp allowed)
  · rintro ⟨⟨pathLen, read⟩, usage, usageRead, allows⟩
    refine ⟨true, pathLen, read, rfl, usage, usageRead, ?_⟩
    cases usage with
    | none => rfl
    | some bits =>
        apply rejectIf_eq_ok.mpr
        rw [Bool.not_eq_false]
        exact allows bits rfl

/-- The role validator asks what the store asks, and that the path length fits. -/
theorem validateIntermediateCa_iff :
    validateIntermediateCa cert = .ok () ↔
      AssertsCa cert ∧ KeyUsageAllowsCertSign cert ∧ PathLenFits cert := by
  rw [validateIntermediateCa_eq_ok_iff, checkKeyUsage_allows_iff distinct]
  simp only [checkBasicConstraints_eq_ok_iff distinct]
  constructor
  · rintro ⟨⟨pathLen, read, fits⟩, allows⟩
    refine ⟨⟨pathLen, read⟩, allows, ?_⟩
    rintro maxDepth ⟨isCa, constrained⟩
    rw [read] at constrained
    cases constrained
    exact fits maxDepth rfl
  · rintro ⟨⟨pathLen, read⟩, allows, fits⟩
    refine ⟨⟨pathLen, read, ?_⟩, allows⟩
    rintro maxDepth rfl
    exact fits maxDepth ⟨true, read⟩

end Distinct

/--
The two profiles decide the same on a certificate without repeated extensions
whose path length, if it has one, fits in 32 bits, and the store's alone accepts
one that does not fit.  The two key-usage readers find `keyCertSign` set in the
same values, and do not differ in a value that both accept.
-/
theorem caProfiles_agree
    (crates : Crates) (cert : Certificate) (label : String)
    (distinct : (cert.extensions.map Extension.extnId).Nodup) :
    (validateExtensionsForRole crates cert .intermediateCa = .ok () ↔
        validateIntermediateCaExtensions cert label = .ok () ∧
          PathLenFits cert) ∧
      (∀ extValue,
        parseKeyCertSignBit extValue = .ok true ↔
          ∃ bitBytes,
            keyUsageBytes extValue = .ok bitBytes ∧
              bitSet bitBytes 5 = true) ∧
      (∀ extValue bitBytes bit,
        keyUsageBytes extValue = .ok bitBytes →
          parseKeyCertSignBit extValue = .ok bit →
          bit = bitSet bitBytes 5) := by
  have noDuplicate : firstDuplicate [] cert.extensions = none := by
    rw [firstDuplicate_eq_none_iff]
    exact ⟨distinct, fun _ _ => List.not_mem_nil⟩
  refine ⟨?_, fun _ => parseKeyCertSignBit_eq_true_iff, ?_⟩
  · rw [validateExtensionsForRole, noDuplicate,
      validateIntermediateCaExtensions_eq_ok_iff, and_assoc]
    exact validateIntermediateCa_iff distinct
  · intro extValue bitBytes bit read otherRead
    rw [parseKeyCertSignBit_of_keyUsageBytes read] at otherRead
    exact (Except.ok.inj otherRead).symm

/-- `basicConstraints` with a path length of `2 ^ 32`. -/
def wideConstraints : Extension :=
  ⟨basicConstraintsOid, true,
    [0x30, 0x0A, 0x01, 0x01, 0xFF, 0x02, 0x05, 0x01, 0x00, 0x00, 0x00, 0x00]⟩

/-- A root with such a path length. -/
def wideRoot : Certificate :=
  Reference.certificate 5 0xE5 0xE5 "Wide" "Wide" [wideConstraints]

theorem caProfiles_agree_root :
    validateExtensionsForRole (Reference.crates Reference.known) Reference.root
        .intermediateCa = .ok () ↔
      validateIntermediateCaExtensions Reference.root "issuer" = .ok () ∧
        PathLenFits Reference.root :=
  (caProfiles_agree (Reference.crates Reference.known) Reference.root "issuer"
    (by decide)).1

/-- The store accepts a path length that the role validator refuses. -/
theorem caProfiles_disagree :
    ¬ ∀ (crates : Crates) (cert : Certificate) (label : String),
      (cert.extensions.map Extension.extnId).Nodup →
        (validateIntermediateCaExtensions cert label = .ok () ↔
          validateExtensionsForRole crates cert .intermediateCa = .ok ()) := by
  intro agree
  have accepted :=
    (agree (Reference.crates Reference.known) wideRoot "issuer"
      (by decide)).mp (by decide +kernel)
  exact absurd accepted (by decide +kernel)

end RitspLtv.Trust.CaProfiles
