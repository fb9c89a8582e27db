import Mathlib.Data.Nat.Bitwise

/-!
# Numbers under a mask

Two numbers agree under a mask when they have the same bits where the mask has
one.  Agreement can be decided in parts, high bits and low bits apart; and under
a mask of leading ones it says that both numbers lie in the same block of
consecutive numbers.
-/

namespace RitspLtv.Foundation.Masks

/-- The numbers have the same bits where the mask has one. -/
def AgreesUnder (mask left right : Nat) : Prop :=
  left &&& mask = right &&& mask

variable {mask left right width bits : Nat}

theorem agreesUnder_iff_testBit :
    AgreesUnder mask left right ↔
      ∀ index, mask.testBit index = true →
        left.testBit index = right.testBit index := by
  constructor
  · intro agrees index inMask
    have same := congrArg (fun number => number.testBit index) agrees
    simpa only [Nat.testBit_and, inMask, Bool.and_true] using same
  · intro agrees
    apply Nat.eq_of_testBit_eq
    intro index
    rw [Nat.testBit_and, Nat.testBit_and]
    cases inMask : mask.testBit index with
    | false => rw [Bool.and_false, Bool.and_false]
    | true => rw [agrees index inMask]

/-- Agreement is agreement of the high bits and of the low bits. -/
theorem agreesUnder_split (bits : Nat) :
    AgreesUnder mask left right ↔
      AgreesUnder (mask / 2 ^ bits) (left / 2 ^ bits) (right / 2 ^ bits) ∧
        AgreesUnder (mask % 2 ^ bits) (left % 2 ^ bits)
          (right % 2 ^ bits) := by
  rw [AgreesUnder, AgreesUnder, AgreesUnder, ← Nat.and_div_two_pow,
    ← Nat.and_div_two_pow, ← Nat.and_mod_two_pow, ← Nat.and_mod_two_pow]
  constructor
  · intro agrees
    rw [agrees]
    exact ⟨rfl, rfl⟩
  · intro both
    rw [← Nat.div_add_mod (left &&& mask) (2 ^ bits), both.1, both.2,
      Nat.div_add_mod]

/-- The mask of the leading bits of numbers of a width. -/
def leadingOnes (width bits : Nat) : Nat :=
  2 ^ width - 2 ^ (width - bits)

theorem testBit_leadingOnes (index : Nat) :
    (leadingOnes width bits).testBit index =
      (decide (width - bits ≤ index) && decide (index < width)) := by
  have positive : 0 < 2 ^ (width - bits) := Nat.two_pow_pos _
  have fits : 2 ^ (width - bits) - 1 < 2 ^ width := by
    have bounded : 2 ^ (width - bits) ≤ 2 ^ width :=
      Nat.pow_le_pow_right (by decide) (Nat.sub_le width bits)
    omega
  have complement :
      leadingOnes width bits = 2 ^ width - (2 ^ (width - bits) - 1 + 1) := by
    rw [leadingOnes, Nat.sub_add_cancel positive]
  rw [complement, Nat.testBit_two_pow_sub_succ fits,
    Nat.testBit_two_pow_sub_one, Bool.and_comm, ← decide_not]
  simp only [Nat.not_lt]

/-- Under a mask of leading ones, numbers agree when they are in the same block. -/
theorem agreesUnder_leadingOnes
    (leftFits : left < 2 ^ width) (rightFits : right < 2 ^ width) :
    AgreesUnder (leadingOnes width bits) left right ↔
      left / 2 ^ (width - bits) = right / 2 ^ (width - bits) := by
  rw [agreesUnder_iff_testBit]
  constructor
  · intro agrees
    apply Nat.eq_of_testBit_eq
    intro index
    rw [Nat.testBit_div_two_pow, Nat.testBit_div_two_pow]
    rcases Nat.lt_or_ge (index + (width - bits)) width with inside | beyond
    · apply agrees
      simp [testBit_leadingOnes, inside]
    · have bound : 2 ^ width ≤ 2 ^ (index + (width - bits)) :=
        Nat.pow_le_pow_right (by decide) beyond
      rw [Nat.testBit_lt_two_pow (leftFits.trans_le bound),
        Nat.testBit_lt_two_pow (rightFits.trans_le bound)]
  · intro same index inMask
    rw [testBit_leadingOnes, Bool.and_eq_true, decide_eq_true_eq] at inMask
    have shifted :=
      congrArg (fun number => number.testBit (index - (width - bits))) same
    simpa only [Nat.testBit_div_two_pow, Nat.sub_add_cancel inMask.1]
      using shifted

end RitspLtv.Foundation.Masks
