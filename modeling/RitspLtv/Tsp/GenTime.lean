import Mathlib.Data.Rat.Floor
import RitspLtv.TimeFormats
import RitspLtv.TimeOrder
import RitspLtv.Trust.ChainSoundness
import RitspLtv.Tsp.StrictReference
import RitspLtv.Tsp.Token

/-!
# The exact time of a token

A `genTime` is a time in whole seconds and any number of digits behind the
point, so it denotes a rational instant.  The code keeps the whole seconds and
whether a fraction follows, and compares with certificate times in whole
seconds.  Every one of these comparisons is the comparison of the exact
instant.
-/

namespace RitspLtv.Tsp.GenTime

open RitspLtv.Foundation.Checks
open RitspLtv.RustStd
open RitspLtv.DerUtils
open RitspLtv.Chrono
open RitspLtv.Crypto.Verify
open RitspLtv.Ltv.X509Ext
open RitspLtv.TimeFormats
open RitspLtv.TimeOrder
open RitspLtv.TlvElements
open RitspLtv.TlvRoundTrip
open RitspLtv.Trust.ChainSoundness
open RitspLtv.Trust.Store
open RitspLtv.Tsp.Cms
open RitspLtv.Tsp.Info
open RitspLtv.Tsp.Token

/-! ## Digits behind the point -/

/-- What digits behind the point denote. -/
def secondFraction (digits : Bytes) : ℚ :=
  decimalFrom 0 digits / 10 ^ digits.length

/-- Digits that end in no zero; there may be none. -/
def IsFraction (digits : Bytes) : Prop :=
  (∀ octet ∈ digits, IsDigit octet) ∧ digits.getLast? ≠ some 0x30

instance (digits : Bytes) : Decidable (IsFraction digits) :=
  inferInstanceAs (Decidable (_ ∧ _))

theorem isFraction_nil : IsFraction [] := by
  constructor
  · intro octet member
    cases member
  · intro last
    cases last

theorem digit_lt
    {octet : UInt8} (digit : IsDigit octet) :
    octet.toNat - 0x30 < 10 := by
  have last : octet.toNat ≤ 0x39 := UInt8.le_iff_toNat_le.mp digit.2
  omega

theorem decimalFrom_lt
    {value : Nat} {digits : Bytes}
    (isDigits : ∀ octet ∈ digits, IsDigit octet) :
    decimalFrom value digits < (value + 1) * 10 ^ digits.length := by
  induction digits generalizing value with
  | nil =>
      show value < (value + 1) * 10 ^ 0
      omega
  | cons digit digits induction =>
      rw [List.forall_mem_cons] at isDigits
      have small := digit_lt isDigits.1
      have following :=
        @induction (value * 10 + (digit.toNat - 0x30)) isDigits.2
      apply following.trans_le
      rw [List.length_cons, pow_succ', ← Nat.mul_assoc]
      apply Nat.mul_le_mul_right
      omega

/-- A last digit that is not zero makes the number positive. -/
theorem decimalFrom_pos
    {digits : Bytes} (fraction : IsFraction digits) (nonempty : digits ≠ []) :
    0 < decimalFrom 0 digits := by
  rcases List.eq_nil_or_concat' digits with rfl | ⟨front, last, rfl⟩
  · exact absurd rfl nonempty
  · rcases fraction with ⟨isDigits, notZero⟩
    rw [List.getLast?_concat] at notZero
    have digit := isDigits last (List.mem_append_right _ List.mem_cons_self)
    have first : 0x30 ≤ last.toNat := UInt8.le_iff_toNat_le.mp digit.1
    have other : last.toNat ≠ 0x30 := by
      intro same
      apply notZero
      rw [@UInt8.toNat_inj last 0x30 |>.mp same]
    rw [decimalFrom, List.foldl_append]
    show 0 < decimalFrom 0 front * 10 + (last.toNat - 0x30)
    omega

theorem secondFraction_nonneg (digits : Bytes) :
    0 ≤ secondFraction digits := by
  unfold secondFraction
  positivity

theorem secondFraction_lt_one
    {digits : Bytes} (fraction : IsFraction digits) :
    secondFraction digits < 1 := by
  have bounded := @decimalFrom_lt 0 digits fraction.1
  rw [Nat.zero_add, Nat.one_mul] at bounded
  rw [secondFraction, div_lt_one (by positivity)]
  exact_mod_cast bounded

theorem secondFraction_pos
    {digits : Bytes} (fraction : IsFraction digits) (nonempty : digits ≠ []) :
    0 < secondFraction digits := by
  have positive := decimalFrom_pos fraction nonempty
  unfold secondFraction
  positivity

/-! ## The exact instant -/

/-- Seconds from the epoch to a time with a fraction. -/
def exactInstant (time : Der.DateTime) (fraction : Bytes) : ℚ :=
  epochSeconds time + secondFraction fraction

/-- The instant is inside the validity window, both ends included. -/
def InsideExactly (instant : ℚ) (cert : Certificate) : Prop :=
  epochSeconds cert.tbsCertificate.validity.notBefore.toDateTime ≤ instant ∧
    instant ≤ epochSeconds cert.tbsCertificate.validity.notAfter.toDateTime

instance (instant : ℚ) (cert : Certificate) :
    Decidable (InsideExactly instant cert) :=
  inferInstanceAs (Decidable (_ ∧ _))

theorem floor_exactInstant
    {time : Der.DateTime} {fraction : Bytes} (isFraction : IsFraction fraction) :
    ⌊exactInstant time fraction⌋ = epochSeconds time := by
  rw [exactInstant, Int.floor_intCast_add, add_eq_left, Int.floor_eq_zero_iff]
  exact ⟨secondFraction_nonneg fraction, secondFraction_lt_one isFraction⟩

theorem ceil_exactInstant
    {time : Der.DateTime} {fraction : Bytes}
    (isFraction : IsFraction fraction) (nonempty : fraction ≠ []) :
    ⌈exactInstant time fraction⌉ = epochSeconds time + 1 := by
  rw [exactInstant, Int.ceil_intCast_add, add_right_inj, Int.ceil_eq_iff]
  simp only [Int.cast_one, sub_self]
  exact
    ⟨secondFraction_pos isFraction nonempty,
      (secondFraction_lt_one isFraction).le⟩

/-- A whole second is not after an instant when it is not after its whole part. -/
theorem le_exactInstant_iff
    {bound time : Der.DateTime} {fraction : Bytes}
    (isFraction : IsFraction fraction) :
    epochSeconds bound ≤ exactInstant time fraction ↔ bound ≤ time := by
  rw [← Int.le_floor, floor_exactInstant isFraction,
    epochSeconds_le_iff]

/-- With a fraction an instant is not after a whole second that its whole part is before. -/
theorem exactInstant_le_iff
    {bound time : Der.DateTime} {fraction : Bytes}
    (isFraction : IsFraction fraction) :
    exactInstant time fraction ≤ epochSeconds bound ↔
      time ≤ bound ∧ (fraction ≠ [] → time < bound) := by
  by_cases empty : fraction = []
  · subst empty
    simp [exactInstant, secondFraction, decimalFrom,
      epochSeconds_le_iff]
  · rw [← Int.ceil_le, ceil_exactInstant isFraction empty,
      Int.add_one_le_iff, epochSeconds_lt_iff]
    constructor
    · intro before
      exact ⟨before.le, fun _ => before⟩
    · intro bounded
      exact bounded.2 empty

/-- The comparisons in whole seconds are those of the exact instant. -/
theorem insideValidity_iff
    {time : Der.DateTime} {fraction : Bytes} {cert : Certificate}
    (isFraction : IsFraction fraction) :
    InsideValidity time (decide (fraction ≠ [])) cert ↔
      InsideExactly (exactInstant time fraction) cert := by
  rw [InsideValidity, InsideExactly, le_exactInstant_iff isFraction,
    exactInstant_le_iff isFraction, decide_eq_true_iff]

/-! ## How it is written -/

/-- Fourteen digits, and the fields they denote. -/
@[mk_iff]
structure Spells (digits : Bytes) (time : Der.DateTime) : Prop where
  counted : digits.length = 14
  year : Decimal (digits.take 4) time.year
  month : Decimal ((digits.drop 4).take 2) time.month
  day : Decimal ((digits.drop 6).take 2) time.day
  hour : Decimal ((digits.drop 8).take 2) time.hour
  minutes : Decimal ((digits.drop 10).take 2) time.minutes
  seconds : Decimal ((digits.drop 12).take 2) time.seconds

instance (digits : Bytes) (time : Der.DateTime) :
    Decidable (Spells digits time) :=
  decidable_of_iff _ (spells_iff digits time).symm

/-- What stands behind the whole seconds. -/
def fractionTail (fraction : Bytes) : Bytes :=
  if fraction = [] then [0x5A] else 0x2E :: (fraction ++ [0x5A])

/-- `YYYYMMDDHHMMSSZ`, or `YYYYMMDDHHMMSS.fracZ` without trailing zeros. -/
def IsGenTime (octets : Bytes) (time : Der.DateTime) (fraction : Bytes) : Prop :=
  ∃ digits,
    Spells digits time ∧ IsFraction fraction ∧
      octets = digits ++ fractionTail fraction

/-- At least seventeen octets are fourteen, one, some, and one. -/
theorem exists_parts
    {octets : Bytes} (enough : 17 ≤ octets.length) :
    ∃ digits point fraction last,
      digits.length = 14 ∧ fraction ≠ [] ∧
        octets = digits ++ point :: (fraction ++ [last]) := by
  have nonempty : octets.drop 15 ≠ [] := by
    rw [← List.length_pos_iff, List.length_drop]
    omega
  refine
    ⟨octets.take 14, octets[14], (octets.drop 15).dropLast,
      (octets.drop 15).getLast nonempty, ?_, ?_, ?_⟩
  · rw [List.length_take]
    omega
  · rw [← List.length_pos_iff, List.length_dropLast, List.length_drop]
    omega
  · rw [List.dropLast_append_getLast, ← List.drop_eq_getElem_cons,
      List.take_append_drop]

theorem all_isDigit_iff {digits : Bytes} :
    digits.all isDigit = true ↔ ∀ octet ∈ digits, IsDigit octet := by
  simp only [List.all_eq_true, isDigit, decide_eq_true_iff, IsDigit]

/-- What is read off octets in four parts. -/
theorem genTimeFraction_append
    {digits fraction : Bytes} {point last : UInt8} {fractional : Bool}
    (counted : digits.length = 14) (nonempty : fraction ≠ []) :
    genTimeFraction (digits ++ point :: (fraction ++ [last])) =
        .ok fractional ↔
      point = 0x2E ∧ last = 0x5A ∧ IsFraction fraction ∧
        fractional = true := by
  have positive : 0 < fraction.length := List.length_pos_iff.mpr nonempty
  have length :
      (digits ++ point :: (fraction ++ [last])).length =
        fraction.length + 16 := by
    simp only [List.length_append, List.length_cons, counted, List.length_nil]
    omega
  have atPoint :
      (digits ++ point :: (fraction ++ [last]))[14]? = some point := by
    rw [List.getElem?_append_right counted.le, counted]
    rfl
  have atEnd :
      (digits ++ point :: (fraction ++ [last])).getLast? = some last := by
    rw [← List.cons_append, ← List.append_assoc, List.getLast?_concat]
  have behindPoint :
      (digits ++ point :: (fraction ++ [last])).drop 15 =
        fraction ++ [last] := by
    rw [List.append_cons, List.drop_left']
    rw [List.length_append, counted, List.length_singleton]
  have beforeEnd :
      (digits ++ point :: (fraction ++ [last]))[fraction.length + 16 - 2]? =
        fraction.getLast? := by
    rw [List.append_cons, List.getElem?_append_right, List.length_append,
      counted, List.length_singleton, List.getElem?_append_left,
      List.getLast?_eq_getElem?]
    · congr 1
    · omega
    · rw [List.length_append, counted, List.length_singleton]
      omega
  have digitsOnly :
      (fraction.length + 16 - 1 - 15) = fraction.length := by
    omega
  unfold genTimeFraction
  simp only [length, atPoint, atEnd, behindPoint, beforeEnd, digitsOnly,
    List.take_left, all_isDigit_iff, Option.some.injEq]
  rw [if_neg (by omega)]
  split
  · next accepted =>
      rcases accepted with ⟨_, isPoint, isZ, isFraction⟩
      constructor
      · intro accepted
        cases accepted
        exact ⟨isPoint, isZ, isFraction, rfl⟩
      · rintro ⟨_, _, _, rfl⟩
        rfl
  · next refused =>
      constructor
      · intro accepted
        cases accepted
      · rintro ⟨isPoint, isZ, isFraction, _⟩
        exact absurd ⟨by omega, isPoint, isZ, isFraction⟩ refused

/-- The fraction flag is read exactly off the documented forms. -/
theorem genTimeFraction_eq_ok_iff
    {octets : Bytes} {fractional : Bool} :
    genTimeFraction octets = .ok fractional ↔
      ∃ digits fraction,
        digits.length = 14 ∧ IsFraction fraction ∧
          octets = digits ++ fractionTail fraction ∧
          fractional = decide (fraction ≠ []) := by
  constructor
  · intro read
    by_cases enough : 17 ≤ octets.length
    · rcases exists_parts enough with
        ⟨digits, point, fraction, last, counted, nonempty, rfl⟩
      rcases (genTimeFraction_append counted nonempty).mp read with
        ⟨rfl, rfl, isFraction, rfl⟩
      refine ⟨digits, fraction, counted, isFraction, ?_, ?_⟩
      · rw [fractionTail, if_neg nonempty]
      · exact (decide_eq_true nonempty).symm
    · unfold genTimeFraction at read
      split at read
      · next short =>
          cases read
          refine ⟨octets.take 14, [], ?_, isFraction_nil, ?_, rfl⟩
          · rw [List.length_take]
            omega
          · have last : octets.drop 14 = [0x5A] := by
              rw [List.drop_eq_getElem_cons (by omega),
                List.drop_eq_nil_of_le (by omega),
                (List.getElem?_eq_some_iff.mp short.2).2]
            rw [fractionTail, if_pos rfl, ← last, List.take_append_drop]
      · rw [if_neg (by tauto)] at read
        cases read
  · rintro ⟨digits, fraction, counted, isFraction, rfl, rfl⟩
    by_cases empty : fraction = []
    · subst empty
      rw [genTimeFraction, fractionTail, if_pos rfl]
      apply if_pos
      constructor
      · rw [List.length_append, counted, List.length_singleton]
      · rw [List.getElem?_append_right counted.le, counted]
        rfl
    · rw [fractionTail, if_neg empty, genTimeFraction_append counted empty]
      exact ⟨rfl, rfl, isFraction, decide_eq_true empty⟩

/-! ## Reading a `genTime` -/

/--
The decoder of whole seconds is strict: it reads fourteen digits that are a
time, and `Z`.
-/
def StrictSeconds (crates : CmsCrates) : Prop :=
  ∀ body time,
    crates.generalizedTimeFromDer (encodeTlv 0x18 body) = .ok time ↔
      ∃ digits, Spells digits time ∧ body = digits ++ [0x5A]

/-- What is read is exactly what the documented forms denote. -/
theorem genTimeParts_eq_ok_iff
    {crates : CmsCrates} (strict : StrictSeconds crates)
    {info : TstInfo} {time : Der.DateTime} {fractional : Bool} :
    genTimeParts crates info = .ok (time, fractional) ↔
      ∃ fraction,
        IsGenTime info.genTimeDer time fraction ∧
          fractional = decide (fraction ≠ []) := by
  simp only [genTimeParts, bind_eq_ok, mapError_eq_ok, pure_eq_ok,
    Prod.mk.injEq, strict _ _, genTimeFraction_eq_ok_iff]
  constructor
  · rintro ⟨_, ⟨digits, fraction, counted, isFraction, octets, rfl⟩, _,
      ⟨written, spells, same⟩, rfl, rfl⟩
    rw [octets, List.take_left' counted] at same
    rw [List.append_cancel_right same] at octets
    exact ⟨fraction, ⟨written, spells, isFraction, octets⟩, rfl⟩
  · rintro ⟨fraction, ⟨digits, spells, isFraction, octets⟩, rfl⟩
    refine
      ⟨_, ⟨digits, fraction, spells.counted, isFraction, octets, rfl⟩, time,
        ⟨digits, spells, ?_⟩, rfl, rfl⟩
    rw [octets, List.take_left' spells.counted]

/-! ## The comparisons -/

section Comparisons

variable {crates : CmsCrates} {signatures : Signatures}
variable {info : TstInfo} {time : Der.DateTime} {fraction : Bytes}

/-- A `genTime` is accepted exactly inside the validity of its signer. -/
theorem checkGenTimeWithinValidity_eq_ok_iff
    (strict : StrictSeconds crates)
    (stamp : IsGenTime info.genTimeDer time fraction)
    {signer : Certificate} :
    checkGenTimeWithinValidity crates signer info = .ok () ↔
      InsideExactly (exactInstant time fraction) signer := by
  have parts :
      genTimeParts crates info = .ok (time, decide (fraction ≠ [])) :=
    (genTimeParts_eq_ok_iff strict).mpr ⟨fraction, stamp, rfl⟩
  rcases stamp with ⟨_, _, isFraction, _⟩
  rw [← insideValidity_iff isFraction, checkGenTimeWithinValidity, parts,
    ok_bind]
  simp only [rejectIf_eq_ok, not_or, not_lt, not_and, InsideValidity]
  apply and_congr_right
  intro _
  apply and_congr_right
  intro notAfter
  apply imp_congr_right
  intro _
  exact ⟨lt_of_le_of_ne notAfter, ne_of_lt⟩

/-- So is a certificate of a chain, or an anchor. -/
theorem checkValidity_exact
    (isFraction : IsFraction fraction) {index : Nat} {cert : Certificate} :
    checkValidity (some time) (decide (fraction ≠ [])) index cert = .ok () ↔
      InsideExactly (exactInstant time fraction) cert := by
  rw [checkValidity_eq_ok_iff, ← insideValidity_iff isFraction]
  simp only [Option.some.injEq, forall_eq']

theorem forall_mem_zipIdx
    {α : Type} {items : List α} {holds : α → Prop} :
    (∀ entry ∈ items.zipIdx, holds entry.1) ↔ ∀ item ∈ items, holds item := by
  conv_rhs => rw [← List.zipIdx_map_fst 0 items]
  rw [List.forall_mem_map]

end Comparisons

/-! ## Chain verification at an exact instant -/

section Chains

variable {crates : Crates} {signatures : Signatures} {store : TrustStore}
variable {chain : List Certificate} {leafPurpose : Option CertRole}
variable {time : Der.DateTime} {fraction : Bytes}

/-- The time only adds that every certificate of the chain is inside. -/
theorem verifyChainCerts_exact
    (isFraction : IsFraction fraction)
    {policy : SignaturePolicy} {leaf : Certificate} :
    verifyChainCerts crates signatures policy chain leaf (some time)
        leafPurpose (decide (fraction ≠ [])) = .ok () ↔
      verifyChainCerts crates signatures policy chain leaf none leafPurpose
          false = .ok () ∧
        ∀ cert ∈ chain, InsideExactly (exactInstant time fraction) cert := by
  simp only [verifyChainCerts, bind_eq_ok, exists_unit_eq_ok, exists_const,
    forM_eq_ok, checkValidity_exact isFraction]
  rw [forall_mem_zipIdx]
  constructor
  · rintro ⟨extensions, purpose, inside, links⟩
    exact ⟨⟨extensions, purpose, fun _ _ => rfl, links⟩, inside⟩
  · rintro ⟨⟨extensions, purpose, _, links⟩, inside⟩
    exact ⟨extensions, purpose, inside, links⟩

/-- The time only adds that the anchor is inside. -/
theorem verifyCandidate_exact
    (isFraction : IsFraction fraction)
    {policy : SignaturePolicy} {last anchor result : Certificate} :
    verifyCandidate crates signatures policy chain last (some time)
        (decide (fraction ≠ [])) anchor = .ok result ↔
      verifyCandidate crates signatures policy chain last none false
          anchor = .ok result ∧
        InsideExactly (exactInstant time fraction) anchor := by
  simp only [verifyCandidate, bind_eq_ok, exists_unit_eq_ok, exists_const,
    checkValidity_exact isFraction]
  constructor
  · rintro ⟨signed, distinct, known, profile, depth, inside, constraints⟩
    exact
      ⟨⟨signed, distinct, known, profile, depth, rfl, constraints⟩, inside⟩
  · rintro ⟨⟨signed, distinct, known, profile, depth, _, constraints⟩, inside⟩
    exact ⟨signed, distinct, known, profile, depth, inside, constraints⟩

theorem verifyCandidate_own
    {policy : SignaturePolicy} {last anchor result : Certificate}
    {validationTime : Option Der.DateTime} {positiveFraction : Bool}
    (verified :
      verifyCandidate crates signatures policy chain last validationTime
          positiveFraction anchor = .ok result) :
    result = anchor := by
  simp only [verifyCandidate, bind_eq_ok, exists_unit_eq_ok,
    pure_eq_ok] at verified
  rcases verified with ⟨_, _, _, _, _, _, _, same⟩
  exact same.symm

theorem accepts_verifyCandidate_exact
    (isFraction : IsFraction fraction)
    {policy : SignaturePolicy} {last anchor : Certificate} :
    Accepts
        (verifyCandidate crates signatures policy chain last (some time)
          (decide (fraction ≠ [])) anchor) ↔
      Accepts
          (verifyCandidate crates signatures policy chain last none false
            anchor) ∧
        InsideExactly (exactInstant time fraction) anchor := by
  simp only [Accepts, verifyCandidate_exact isFraction, exists_and_right]

/-- The first issuer that completes the path and is inside ends it. -/
theorem firstIssuer_exact
    (isFraction : IsFraction fraction)
    {policy : SignaturePolicy} {last anchor : Certificate}
    {issuers : List Certificate} {refusal : TrustError} :
    (match issuers with
      | [] => Except.error refusal
      | first :: rest =>
          firstOk
            (verifyCandidate crates signatures policy chain last (some time)
              (decide (fraction ≠ []))) first rest) =
        .ok anchor ↔
      issuers.find? (fun candidate =>
          Accepts
              (verifyCandidate crates signatures policy chain last none
                false candidate) ∧
            InsideExactly (exactInstant time fraction) candidate) =
        some anchor := by
  cases issuers with
  | nil => simp
  | cons first rest =>
      simp only [← accepts_verifyCandidate_exact isFraction]
      apply firstOk_eq_ok_iff
      intro candidate result verified
      exact verifyCandidate_own verified

/--
Chain verification in which time is a condition of its own: every certificate
of the chain meets it, and of the anchors that complete the path the first that
meets it is returned.
-/
def VerifiesInside (inside : Certificate → Prop) [DecidablePred inside]
    (crates : Crates) (signatures : Signatures) (store : TrustStore)
    (chain : List Certificate) (leafPurpose : Option CertRole)
    (anchor : Certificate) : Prop :=
  ∃ leaf last,
    chain.head? = some leaf ∧ chain.getLast? = some last ∧
      verifyChainCerts crates signatures store.signaturePolicy chain leaf none
          leafPurpose false = .ok () ∧
      (∀ cert ∈ chain, inside cert) ∧
      ((∃ root,
          store.findInChainRoot crates last = .ok (some root) ∧
            signatures.SigOk store.signaturePolicy last last ∧
            enforceNameConstraintsPath crates chain = .ok () ∧
            root.cert = anchor) ∨
        store.findInChainRoot crates last = .ok none ∧
          (store.findAllIssuers last).find? (fun candidate =>
              Accepts
                  (verifyCandidate crates signatures store.signaturePolicy
                    chain last none false candidate) ∧
                inside candidate) =
            some anchor)

/-- A chain is verified at the exact instant. -/
theorem verifyChainInner_exact
    (isFraction : IsFraction fraction) {anchor : Certificate} :
    store.verifyChainInner crates signatures chain (some time) leafPurpose
        (decide (fraction ≠ [])) = .ok anchor ↔
      VerifiesInside (InsideExactly (exactInstant time fraction)) crates
        signatures store chain leafPurpose anchor := by
  unfold TrustStore.verifyChainInner VerifiesInside
  cases chain.head? with
  | none => simp
  | some leaf =>
      cases chain.getLast? with
      | none => simp
      | some last =>
          simp only [bind_eq_ok, exists_const,
            verifyChainCerts_exact isFraction, Option.some.injEq,
            exists_and_left, exists_eq_left', and_assoc]
          apply and_congr_right
          intro _
          apply and_congr_right
          intro _
          constructor
          · rintro ⟨root, found, returned⟩
            cases root with
            | some root =>
                simp only [bind_eq_ok, exists_unit_eq_ok,
                  pure_eq_ok] at returned
                exact Or.inl ⟨root, found, returned⟩
            | none =>
                exact Or.inr ⟨found, (firstIssuer_exact isFraction).mp returned⟩
          · rintro (⟨root, found, returned⟩ | ⟨found, first⟩)
            · refine ⟨some root, found, ?_⟩
              simp only [bind_eq_ok, exists_unit_eq_ok, pure_eq_ok]
              exact returned
            · exact ⟨none, found, (firstIssuer_exact isFraction).mpr first⟩

end Chains

/-! ## Every boundary is exact -/

section Boundaries

variable {crates : CmsCrates} {signatures : Signatures}
variable {info : TstInfo} {time : Der.DateTime} {fraction : Bytes}

/-- Without a validation time the chain of a signer is verified at `genTime`. -/
theorem checkSignerChain_exact
    (strict : StrictSeconds crates)
    (stamp : IsGenTime info.genTimeDer time fraction)
    {store : TrustStore} {verified : VerifiedToken} :
    checkSignerChain crates signatures store verified info none = .ok () ↔
      ∃ anchor,
        VerifiesInside (InsideExactly (exactInstant time fraction))
          crates.toCrates signatures store
          (orderChain signatures verified.signer verified.embedded
            store.signaturePolicy)
          (some .timestampSigner) anchor := by
  have parts :
      genTimeParts crates info = .ok (time, decide (fraction ≠ [])) :=
    (genTimeParts_eq_ok_iff strict).mpr ⟨fraction, stamp, rfl⟩
  rcases stamp with ⟨_, _, isFraction, _⟩
  simp only [checkSignerChain, effectiveTime, effectiveFraction,
    genTimeDatetime, parts, ok_bind, bind_eq_ok, mapError_eq_ok, pure_eq_ok,
    TrustStore.verifyTimestampChain, exists_eq_left', and_true,
    verifyChainInner_exact isFraction]

/--
The boundaries of a `genTime` are exact.  It is read from the documented forms
only, and at the instant that it denotes, with however many digits behind the
point, the signer, every certificate of its chain and an external anchor are
accepted as inside exactly when they are.
-/
theorem genTime_boundaries_exact
    (crates : CmsCrates)
    (signatures : Signatures)
    (strict : StrictSeconds crates)
    (info : TstInfo) :
    (∀ time fractional,
        genTimeParts crates info = .ok (time, fractional) ↔
          ∃ fraction,
            IsGenTime info.genTimeDer time fraction ∧
              fractional = decide (fraction ≠ [])) ∧
      ∀ time fraction,
        IsGenTime info.genTimeDer time fraction →
          (∀ signer,
              checkGenTimeWithinValidity crates signer info = .ok () ↔
                InsideExactly (exactInstant time fraction) signer) ∧
            (∀ store chain leafPurpose anchor,
              TrustStore.verifyChainInner crates.toCrates signatures store
                  chain (some time) leafPurpose (decide (fraction ≠ [])) =
                  .ok anchor ↔
                VerifiesInside (InsideExactly (exactInstant time fraction))
                  crates.toCrates signatures store chain leafPurpose
                  anchor) ∧
            ∀ store verified,
              checkSignerChain crates signatures store verified info none =
                  .ok () ↔
                ∃ anchor,
                  VerifiesInside (InsideExactly (exactInstant time fraction))
                    crates.toCrates signatures store
                    (orderChain signatures verified.signer verified.embedded
                      store.signaturePolicy)
                    (some .timestampSigner) anchor := by
  constructor
  · intro time fractional
    exact genTimeParts_eq_ok_iff strict
  · intro time fraction stamp
    refine ⟨?_, ?_, ?_⟩
    · intro signer
      exact checkGenTimeWithinValidity_eq_ok_iff strict stamp
    · intro store chain leafPurpose anchor
      rcases stamp with ⟨_, _, isFraction, _⟩
      exact verifyChainInner_exact isFraction
    · intro store verified
      exact checkSignerChain_exact strict stamp

end Boundaries

/-! ## A strict decoder -/

/-- The time whose fields are read off fourteen digits. -/
def timeOfDigits (digits : Bytes) : Option Der.DateTime :=
  Der.DateTime.new (decimalFrom 0 (digits.take 4))
    (decimalFrom 0 ((digits.drop 4).take 2))
    (decimalFrom 0 ((digits.drop 6).take 2))
    (decimalFrom 0 ((digits.drop 8).take 2))
    (decimalFrom 0 ((digits.drop 10).take 2))
    (decimalFrom 0 ((digits.drop 12).take 2))

theorem Spells.timeOfDigits_eq
    {digits : Bytes} {time : Der.DateTime} (spells : Spells digits time) :
    timeOfDigits digits = some time := by
  rw [timeOfDigits, ← spells.year.2, ← spells.month.2, ← spells.day.2,
    ← spells.hour.2, ← spells.minutes.2, ← spells.seconds.2]
  exact dif_pos time.valid

/-- `GeneralizedTime::from_der`, which reads whole seconds in the one form. -/
def generalizedTimeFromDer (octets : Bytes) : Except String Der.DateTime :=
  let digits := (octets.drop 2).take 14
  match timeOfDigits digits with
  | none => .error "malformed ASN.1 DER value"
  | some time =>
      StrictReference.accept
        (octets = encodeTlv 0x18 (digits ++ [0x5A]) ∧ Spells digits time)
        time

/-- The reference decoders, with whole seconds read strictly. -/
def strictCrates : CmsCrates :=
  { Tsp.Reference.crates with generalizedTimeFromDer }

theorem strictSeconds_strictCrates : StrictSeconds strictCrates := by
  intro body time
  show generalizedTimeFromDer (encodeTlv 0x18 body) = .ok time ↔ _
  have written :
      ∀ digits : Bytes,
        digits.length = 14 →
          encodeTlv 0x18 (digits ++ [0x5A]) =
            0x18 :: 0x0F :: (digits ++ [0x5A]) := by
    intro digits counted
    rw [encodeTlv, List.length_append, counted]
    rfl
  constructor
  · intro decoded
    simp only [generalizedTimeFromDer] at decoded
    split at decoded
    · cases decoded
    · rw [StrictReference.accept_eq_ok] at decoded
      rcases decoded with ⟨⟨octets, spells⟩, rfl⟩
      have encoded := written _ spells.counted
      revert octets spells encoded
      generalize ((encodeTlv 0x18 body).drop 2).take 14 = digits
      intro octets spells encoded
      have short : (encodeElement (0x18, body)).length < 2 ^ 32 := by
        show (encodeTlv 0x18 body).length < 2 ^ 32
        rw [octets, encoded]
        simp [spells.counted]
      have readable : Readable (0x18, digits ++ [0x5A]) :=
        ⟨show LowTag 0x18 by decide, by simp [spells.counted]⟩
      have same := eq_of_encodeElement readable short octets.symm
      exact ⟨digits, spells, (Prod.mk.inj same).2.symm⟩
  · rintro ⟨digits, spells, rfl⟩
    have digitsRead :
        ((encodeTlv 0x18 (digits ++ [0x5A])).drop 2).take 14 = digits := by
      rw [written digits spells.counted]
      exact List.take_left' spells.counted
    simp only [generalizedTimeFromDer, digitsRead, spells.timeOfDigits_eq,
      StrictReference.accept_eq_ok, true_and, and_true]
    exact spells

/-- A tenth of a second behind the end of a validity is outside of it. -/
theorem genTime_boundaries_exact_end :
    let info : TstInfo :=
      { Tsp.Reference.parsed with
        genTimeDer := asciiBytes "20400101000000.1Z" }
    genTimeParts strictCrates info = .ok (RitspLtv.Reference.year2040, true) ∧
      checkGenTimeWithinValidity strictCrates RitspLtv.Reference.root info ≠
        .ok () ∧
      ¬ ∃ anchor,
        RitspLtv.Reference.rootStore.verifyChainInner strictCrates.toCrates
            RitspLtv.Reference.signatures [RitspLtv.Reference.leaf]
            (some RitspLtv.Reference.year2040) none true = .ok anchor := by
  intro info
  have stamp :
      IsGenTime info.genTimeDer RitspLtv.Reference.year2040 [0x31] :=
    ⟨asciiBytes "20400101000000", by decide +kernel, by decide +kernel,
      rfl⟩
  rcases
    genTime_boundaries_exact strictCrates RitspLtv.Reference.signatures
      strictSeconds_strictCrates info with
    ⟨parts, boundaries⟩
  rcases boundaries RitspLtv.Reference.year2040 [0x31] stamp with
    ⟨signers, chains, _⟩
  refine ⟨(parts _ _).mpr ⟨[0x31], stamp, rfl⟩, ?_, ?_⟩
  · intro accepted
    exact absurd ((signers _).mp accepted) (by decide +kernel)
  · rintro ⟨anchor, accepted⟩
    rcases (chains _ _ _ _).mp accepted with ⟨_, _, _, _, _, inside, _⟩
    exact absurd (inside _ List.mem_cons_self) (by decide +kernel)

end RitspLtv.Tsp.GenTime
