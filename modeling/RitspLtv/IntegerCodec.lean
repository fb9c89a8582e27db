import RitspLtv.TlvRoundTrip
import RitspLtv.Tsp.StrictDer

/-!
# Numbers as INTEGERs

The encoder writes the one body of a number without a redundant octet, the
decoder returns the number a body denotes, and it refuses every body that
denotes none below `2 ^ 64`.
-/

namespace RitspLtv.IntegerCodec

open RitspLtv.Foundation.Checks
open RitspLtv.RustStd
open RitspLtv.BigEndian
open RitspLtv.DerUtils
open RitspLtv.IntegerBodies
open RitspLtv.TlvRoundTrip
open RitspLtv.Tsp.StrictDer

/-! ## Octets of a number -/

/-- The first octet that is not zero stands behind the padding. -/
theorem findIdx?_ne_zero_getD
    {octets : Bytes} (nonempty : octets ≠ []) :
    (octets.findIdx? (· ≠ 0)).getD (octets.length - 1) =
      zeroPadding octets := by
  induction octets with
  | nil => exact absurd rfl nonempty
  | cons first following induction =>
      rw [List.findIdx?_cons]
      cases following with
      | nil => by_cases zero : first = 0 <;> simp [zero, zeroPadding]
      | cons second rest =>
          have later := induction (List.cons_ne_nil second rest)
          rw [zeroPadding]
          by_cases zero : first = 0
          · rw [if_pos zero, ← later, if_neg (by simp [zero])]
            cases (second :: rest).findIdx? (· ≠ 0) <;> rfl
          · rw [if_neg zero, if_pos (by simp [zero])]
            rfl

theorem significantOctets_eq_drop (value : UInt64) :
    significantOctets value =
      (toBeBytes 8 value.toNat).drop
        (zeroPadding (toBeBytes 8 value.toNat)) := by
  have nonempty : toBeBytes 8 value.toNat ≠ [] := by
    rw [← List.length_pos_iff, length_toBeBytes]
    exact Nat.zero_lt_succ 7
  have start := findIdx?_ne_zero_getD nonempty
  rw [length_toBeBytes] at start
  rw [significantOctets, ← start]

theorem significantOctets_ne_nil (value : UInt64) :
    significantOctets value ≠ [] := by
  have shorter :=
    @zeroPadding_lt (toBeBytes 8 value.toNat)
      (List.ne_nil_of_length_eq_add_one (length_toBeBytes 8 value.toNat))
  rw [significantOctets_eq_drop, ne_eq, List.drop_eq_nil_iff]
  exact Nat.not_le.mpr shorter

theorem zeroPadding_significantOctets (value : UInt64) :
    zeroPadding (significantOctets value) = 0 := by
  rw [significantOctets_eq_drop, zeroPadding_drop (Nat.le_refl _),
    Nat.sub_self]

theorem length_significantOctets_le (value : UInt64) :
    (significantOctets value).length ≤ 8 := by
  rw [significantOctets_eq_drop, List.length_drop, length_toBeBytes]
  exact Nat.sub_le _ _

/-- Leaving out leading zeros leaves the number as it is. -/
theorem bigEndian_significantOctets (value : UInt64) :
    bigEndian (significantOctets value) = value.toNat := by
  rw [significantOctets_eq_drop, bigEndian_drop (Nat.le_refl _),
    bigEndian_toBeBytes]
  exact Nat.mod_eq_of_lt value.toNat_lt

/-! ## Sign bits -/

theorem and_sign_eq_zero_iff (octet : UInt8) :
    octet &&& 0x80 = 0 ↔ octet < 0x80 := by
  have low : ∀ value < 256, value &&& 0x80 = 0 ↔ value < 0x80 := by
    decide +kernel
  rw [← UInt8.toNat_inj, UInt8.toNat_and, UInt8.lt_iff_toNat_lt]
  exact low octet.toNat octet.toNat_lt

theorem signPadded_of_low
    {first : UInt8} {following : Bytes} (low : first < 0x80) :
    signPadded (first :: following) = first :: following := by
  rw [signPadded, if_neg]
  exact not_not.mpr ((and_sign_eq_zero_iff first).mpr low)

theorem signPadded_of_high
    {first : UInt8} {following : Bytes} (high : ¬ first < 0x80) :
    signPadded (first :: following) = 0x00 :: first :: following := by
  rw [signPadded, if_pos]
  exact mt (and_sign_eq_zero_iff first).mp high

/-- A leading zero leaves the number as it is, and its sign bit is clear. -/
theorem integerValue_zero_cons (following : Bytes) :
    integerValue (0x00 :: following) = bigEndian following := by
  rw [integerValue, if_pos (by decide), bigEndian_cons]
  simp

theorem integerValue_of_low
    {first : UInt8} {following : Bytes} (low : first < 0x80) :
    integerValue (first :: following) = bigEndian (first :: following) := by
  rw [integerValue, if_pos low]

theorem integerValue_neg_of_high
    {first : UInt8} (high : ¬ first < 0x80) (following : Bytes) :
    integerValue (first :: following) < 0 := by
  have bounded := bigEndian_lt (first :: following)
  rw [integerValue, if_neg high]
  omega

/-- A body that denotes a number starts with a clear sign bit. -/
theorem low_of_denotes
    {first : UInt8} {following : Bytes} {number : Nat}
    (denotes : Denotes (first :: following) number) : first < 0x80 := by
  by_contra high
  have negative := integerValue_neg_of_high high following
  rw [denotes.2] at negative
  exact absurd negative (Int.natCast_nonneg number).not_gt

/-! ## The body of a number -/

/-- Octets without leading zeros, behind a zero if need be, denote their number. -/
theorem denotes_signPadded
    {octets : Bytes} (nonempty : octets ≠ [])
    (unpadded : zeroPadding octets = 0) :
    Denotes (signPadded octets) (bigEndian octets) := by
  cases octets with
  | nil => exact absurd rfl nonempty
  | cons first following =>
      by_cases low : first < 0x80
      · rw [signPadded_of_low low]
        refine ⟨?_, integerValue_of_low low⟩
        cases following with
        | nil => trivial
        | cons second rest =>
            have nonzero : first ≠ 0x00 := by
              intro zero
              rw [zeroPadding, if_pos zero] at unpadded
              cases unpadded
            have notOnes : first ≠ 0xFF := by
              rintro rfl
              exact absurd low (by decide)
            exact ⟨fun redundant => nonzero redundant.1,
              fun redundant => notOnes redundant.1⟩
      · rw [signPadded_of_high low]
        refine ⟨⟨?_, ?_⟩, integerValue_zero_cons _⟩
        · exact fun redundant => low redundant.2
        · exact fun redundant => absurd redundant.1 (by decide)

/-- A body that denotes a number is its significant octets, padded for the sign. -/
theorem eq_signPadded_of_denotes
    {body : Bytes} {number : Nat} (denotes : Denotes body number) :
    body = signPadded (parseIntegerBody body) ∧
      zeroPadding (parseIntegerBody body) = 0 := by
  match body, denotes with
  | [first], denotes =>
      have unchanged : parseIntegerBody [first] = [first] := by
        rw [parseIntegerBody]
        intro second rest same
        cases same
      rw [unchanged, signPadded_of_low (low_of_denotes denotes)]
      exact ⟨rfl, rfl⟩
  | first :: second :: rest, denotes =>
      by_cases zero : first = 0x00
      · subst zero
        have high : ¬ second < 0x80 := fun low => denotes.1.1 ⟨rfl, low⟩
        rw [parseIntegerBody, signPadded_of_high high]
        refine ⟨rfl, ?_⟩
        cases rest with
        | nil => rfl
        | cons third others =>
            rw [zeroPadding, if_neg]
            rintro rfl
            exact high (by decide)
      · have unchanged :
            parseIntegerBody (first :: second :: rest) =
              first :: second :: rest := by
          rw [parseIntegerBody]
          intro _ _ same
          exact zero (List.cons.inj same).1
        rw [unchanged, signPadded_of_low (low_of_denotes denotes),
          zeroPadding, if_neg zero]
        exact ⟨rfl, rfl⟩

theorem bigEndian_parseIntegerBody (body : Bytes) :
    bigEndian (parseIntegerBody body) = bigEndian body := by
  rw [parseIntegerBody_eq_drop, bigEndian_drop (Nat.min_le_right 1 _)]

theorem parseIntegerBody_ne_nil
    {body : Bytes} (nonempty : body ≠ []) : parseIntegerBody body ≠ [] := by
  have shorter := zeroPadding_lt nonempty
  rw [parseIntegerBody_eq_drop, ne_eq, List.drop_eq_nil_iff]
  omega

/-- A number has one body without a redundant octet. -/
theorem eq_of_denotes
    {left right : Bytes} {number : Nat}
    (leftDenotes : Denotes left number)
    (rightDenotes : Denotes right number) :
    left = right := by
  have nonempty :
      ∀ {body : Bytes}, Denotes body number → parseIntegerBody body ≠ [] := by
    intro body denotes
    apply parseIntegerBody_ne_nil
    rintro rfl
    exact denotes.1
  have unsigned :
      ∀ {body : Bytes}, Denotes body number →
        bigEndian (parseIntegerBody body) = number := by
    intro body denotes
    have nonnegative : 0 ≤ integerValue body :=
      denotes.2 ▸ Int.natCast_nonneg number
    have same := (integerValue_nonneg_iff body).mp nonnegative
    rw [denotes.2, Nat.cast_inj] at same
    rw [bigEndian_parseIntegerBody, same]
  rcases eq_signPadded_of_denotes leftDenotes with ⟨leftShape, leftUnpadded⟩
  rcases eq_signPadded_of_denotes rightDenotes with
    ⟨rightShape, rightUnpadded⟩
  have sameOctets :=
    eq_of_bigEndian_of_unpadded (nonempty leftDenotes)
      (nonempty rightDenotes) leftUnpadded rightUnpadded
      ((unsigned leftDenotes).trans (unsigned rightDenotes).symm)
  rw [leftShape, rightShape, sameOctets]

/-- The octets that are encoded denote the number. -/
theorem denotes_significantOctets (value : UInt64) :
    Denotes (signPadded (significantOctets value)) value.toNat := by
  have denotes :=
    denotes_signPadded (significantOctets_ne_nil value)
      (zeroPadding_significantOctets value)
  rw [bigEndian_significantOctets] at denotes
  exact denotes

/-! ## The decoder -/

/-- The number of at most eight octets, behind one octet of padding. -/
theorem decodeIntegerU64_eq_ok_iff {body : Bytes} {value : Nat} :
    decodeIntegerU64 body = .ok value ↔
      body ≠ [] ∧ integerValue body = value ∧
        (parseIntegerBody body).length ≤ 8 := by
  cases body with
  | nil => simp [decodeIntegerU64]
  | cons first following =>
      rw [decodeIntegerU64, and_iff_right (List.cons_ne_nil _ _)]
      by_cases padded : following ≠ [] ∧ first = 0x00
      · rcases padded with ⟨nonempty, rfl⟩
        cases following with
        | nil => exact absurd rfl nonempty
        | cons second rest =>
            rw [if_pos ⟨nonempty, rfl⟩, integerValue_zero_cons,
              parseIntegerBody, Nat.cast_inj]
            simp only [ok_bind, bind_eq_ok, exists_const, rejectIf_eq_ok,
              pure_eq_ok, not_lt, and_comm]
      · have unchanged :
            parseIntegerBody (first :: following) = first :: following := by
          rw [parseIntegerBody]
          intro second rest same
          cases same
          exact padded ⟨List.cons_ne_nil second rest, rfl⟩
        rw [if_neg padded, unchanged]
        by_cases low : first < 0x80
        · rw [if_neg (not_not.mpr ((and_sign_eq_zero_iff first).mpr low)),
            integerValue_of_low low, Nat.cast_inj]
          simp only [ok_bind, bind_eq_ok, exists_const, rejectIf_eq_ok,
            pure_eq_ok, not_lt, and_comm]
        · rw [if_pos (mt (and_sign_eq_zero_iff first).mp low)]
          have negative := integerValue_neg_of_high low following
          simp only [error_bind, reduceCtorEq, false_iff, not_and]
          intro same
          omega

/-- What is decoded fits in 64 bits. -/
theorem lt_of_decodeIntegerU64
    {body : Bytes} {value : Nat}
    (decoded : decodeIntegerU64 body = .ok value) :
    value < 2 ^ 64 := by
  rcases decodeIntegerU64_eq_ok_iff.mp decoded with ⟨_, same, short⟩
  have nonnegative : 0 ≤ integerValue body := same ▸ Int.natCast_nonneg value
  have unsigned := (integerValue_nonneg_iff body).mp nonnegative
  rw [same, Nat.cast_inj] at unsigned
  calc
    value = bigEndian (parseIntegerBody body) := by
        rw [unsigned, bigEndian_parseIntegerBody]
    _ < 256 ^ (parseIntegerBody body).length := bigEndian_lt _
    _ ≤ 256 ^ 8 := Nat.pow_le_pow_right (by decide) short
    _ = 2 ^ 64 := by decide

/-- The body of a number is not longer than its padded significant octets. -/
theorem length_signPadded_le (octets : Bytes) :
    (signPadded octets).length ≤ octets.length + 1 := by
  cases octets with
  | nil => exact Nat.le_refl 1
  | cons first following =>
      by_cases low : first < 0x80
      · rw [signPadded_of_low low]
        exact Nat.le_succ _
      · rw [signPadded_of_high low]
        exact Nat.le_refl _

theorem parseIntegerBody_signPadded
    {octets : Bytes} (unpadded : zeroPadding octets = 0) :
    (parseIntegerBody (signPadded octets)).length ≤ max 1 octets.length := by
  cases octets with
  | nil => exact Nat.le_refl 1
  | cons first following =>
      apply le_max_of_le_right
      by_cases low : first < 0x80
      · rw [signPadded_of_low low, parseIntegerBody_eq_drop, unpadded]
        exact Nat.le_refl _
      · rw [signPadded_of_high low]
        exact Nat.le_refl _

theorem decodeIntegerU64_significantOctets (value : UInt64) :
    decodeIntegerU64 (signPadded (significantOctets value)) =
      .ok value.toNat := by
  have denotes := denotes_significantOctets value
  have short := length_significantOctets_le value
  rw [decodeIntegerU64_eq_ok_iff]
  refine ⟨?_, denotes.2, ?_⟩
  · intro empty
    rw [empty] at denotes
    exact denotes.1
  · have stripped :=
      parseIntegerBody_signPadded (zeroPadding_significantOctets value)
    omega

/-- The body of a number below `2 ^ 64` is decoded to the number. -/
theorem decodeIntegerU64_of_denotes
    {body : Bytes} {number : Nat}
    (denotes : Denotes body number) (small : number < 2 ^ 64) :
    decodeIntegerU64 body = .ok number := by
  have same : (UInt64.ofNat number).toNat = number :=
    UInt64.toNat_ofNat_of_lt' small
  have written := denotes_significantOctets (UInt64.ofNat number)
  have decoded := decodeIntegerU64_significantOctets (UInt64.ofNat number)
  rw [same] at written decoded
  rw [eq_of_denotes denotes written]
  exact decoded

/--
The encoder writes the one INTEGER of a number that has no redundant octet, and
its body is decoded to the number.  What is decoded from any body is the number
it denotes in two's complement, and a body of another number is refused.
-/
theorem integerU64_codec :
    (∀ value : UInt64, ∃ body,
        Denotes body value.toNat ∧
          (∀ other, Denotes other value.toNat → other = body) ∧
          encodeIntegerU64 value = encodeTlv 0x02 body ∧
          (∀ rest,
            parseTlvWithRest (encodeIntegerU64 value ++ rest) =
              .ok (0x02, body, rest)) ∧
          decodeIntegerU64 body = .ok value.toNat) ∧
      (∀ body value,
        decodeIntegerU64 body = .ok value → integerValue body = value) ∧
      ∀ body,
        integerValue body < 0 ∨ 2 ^ 64 ≤ integerValue body →
          ∃ error, decodeIntegerU64 body = .error error := by
  refine ⟨?_, ?_, ?_⟩
  · intro value
    have denotes := denotes_significantOctets value
    have short := length_significantOctets_le value
    refine
      ⟨_, denotes, fun other same => eq_of_denotes same denotes, rfl, ?_,
        decodeIntegerU64_significantOctets value⟩
    apply parseTlvWithRest_encodeTlv (by decide)
    exact (length_signPadded_le _).trans_lt (by omega)
  · intro body value decoded
    exact (decodeIntegerU64_eq_ok_iff.mp decoded).2.1
  · intro body outside
    cases decoded : decodeIntegerU64 body with
    | error error => exact ⟨error, rfl⟩
    | ok value =>
        have same := (decodeIntegerU64_eq_ok_iff.mp decoded).2.1
        have bounded := lt_of_decodeIntegerU64 decoded
        omega

end RitspLtv.IntegerCodec
