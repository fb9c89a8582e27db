import Mathlib.Data.List.Induction
import Mathlib.Data.Nat.Digits.Defs
import RitspLtv.DerUtils

/-!
# Big-endian values

Two octet strings of one length have different values, and a string that does
not start with a zero has a value that tells how long it is.  Everything is read
off `Nat.ofDigits` in base 256.
-/

namespace RitspLtv.BigEndian

open RitspLtv.RustStd
open RitspLtv.DerUtils

/-- The digits of an octet string, least significant first. -/
def digits (octets : Bytes) : List Nat :=
  octets.reverse.map UInt8.toNat

@[simp]
theorem length_digits (octets : Bytes) :
    (digits octets).length = octets.length := by
  rw [digits, List.length_map, List.length_reverse]

theorem lt_of_mem_digits
    {octets : Bytes} {digit : Nat}
    (member : digit ∈ digits octets) :
    digit < 256 := by
  rw [digits, List.mem_map] at member
  rcases member with ⟨octet, _, rfl⟩
  exact octet.toNat_lt

theorem bigEndian_concat (octets : Bytes) (last : UInt8) :
    bigEndian (octets ++ [last]) = bigEndian octets * 256 + last.toNat := by
  rw [bigEndian, List.foldl_append]
  rfl

theorem bigEndian_eq_ofDigits (octets : Bytes) :
    bigEndian octets = Nat.ofDigits 256 (digits octets) := by
  induction octets using List.reverseRecOn with
  | nil => rfl
  | append_singleton octets last induction =>
      rw [bigEndian_concat, induction, digits, digits, List.reverse_append,
        List.reverse_singleton, List.singleton_append, List.map_cons,
        Nat.ofDigits_cons, Nat.mul_comm, Nat.add_comm]

theorem bigEndian_append (high low : Bytes) :
    bigEndian (high ++ low) =
      bigEndian high * 256 ^ low.length + bigEndian low := by
  rw [bigEndian_eq_ofDigits, bigEndian_eq_ofDigits, bigEndian_eq_ofDigits,
    digits, List.reverse_append, List.map_append, Nat.ofDigits_append,
    List.length_map, List.length_reverse, Nat.mul_comm, Nat.add_comm]
  rfl

theorem bigEndian_cons (head : UInt8) (tail : Bytes) :
    bigEndian (head :: tail) =
      head.toNat * 256 ^ tail.length + bigEndian tail := by
  have single : bigEndian [head] = head.toNat := by
    rw [← List.nil_append [head], bigEndian_concat]
    exact Nat.zero_add _
  rw [← List.singleton_append, bigEndian_append, single]

theorem bigEndian_lt (octets : Bytes) :
    bigEndian octets < 256 ^ octets.length := by
  rw [bigEndian_eq_ofDigits, ← length_digits]
  exact
    Nat.ofDigits_lt_base_pow_length (by decide) fun _ => lt_of_mem_digits

@[simp]
theorem length_toBeBytes (count value : Nat) :
    (toBeBytes count value).length = count := by
  induction count generalizing value with
  | zero => rfl
  | succ count induction =>
      rw [toBeBytes, List.length_append, induction, List.length_singleton]

theorem bigEndian_toBeBytes (count value : Nat) :
    bigEndian (toBeBytes count value) = value % 256 ^ count := by
  induction count generalizing value with
  | zero => exact (Nat.mod_one value).symm
  | succ count induction =>
      have octet : (UInt8.ofNat value).toNat = value % 256 :=
        UInt8.toNat_ofNat'
      rw [toBeBytes, bigEndian_concat, induction, octet, Nat.pow_succ,
        Nat.mul_comm (256 ^ count), Nat.mod_mul]
      omega

/-- Octet strings of one length are told apart by their values. -/
theorem eq_of_bigEndian
    {left right : Bytes}
    (sameLength : left.length = right.length)
    (sameValue : bigEndian left = bigEndian right) :
    left = right := by
  rw [bigEndian_eq_ofDigits, bigEndian_eq_ofDigits] at sameValue
  have sameDigits : digits left = digits right := by
    apply Nat.ofDigits_inj_of_len_eq (by decide : 1 < 256) _
      (fun _ => lt_of_mem_digits) (fun _ => lt_of_mem_digits) sameValue
    rw [length_digits, length_digits, sameLength]
  have sameReversed :=
    List.map_injective_iff.mpr
      (fun _ _ same => UInt8.toNat_inj.mp same) sameDigits
  exact List.reverse_injective sameReversed

/-- An octet string without a leading zero is as long as its value needs. -/
theorem le_bigEndian
    {head : UInt8} {tail : Bytes}
    (nonzero : head ≠ 0) :
    256 ^ tail.length ≤ bigEndian (head :: tail) := by
  have positive : 1 ≤ head.toNat := by
    rw [Nat.one_le_iff_ne_zero]
    intro zero
    exact nonzero (UInt8.toNat_inj.mp zero)
  rw [bigEndian_cons]
  calc
    256 ^ tail.length = 1 * 256 ^ tail.length := (Nat.one_mul _).symm
    _ ≤ head.toNat * 256 ^ tail.length :=
        Nat.mul_le_mul_right _ positive
    _ ≤ head.toNat * 256 ^ tail.length + bigEndian tail :=
        Nat.le_add_right _ _

/-- Octet strings without leading zeros are told apart by their values. -/
theorem eq_of_bigEndian_of_head
    {left right : Bytes}
    (leftHead : left.head? ≠ some 0)
    (rightHead : right.head? ≠ some 0)
    (sameValue : bigEndian left = bigEndian right) :
    left = right := by
  have notLonger :
      ∀ {longer shorter : Bytes},
        longer.head? ≠ some 0 → bigEndian longer = bigEndian shorter →
          longer.length ≤ shorter.length := by
    intro longer shorter nonzero same
    cases longer with
    | nil => exact Nat.zero_le _
    | cons head tail =>
        have headNonzero : head ≠ 0 := by
          intro zero
          rw [zero] at nonzero
          exact nonzero rfl
        have bounded :=
          (same ▸ le_bigEndian headNonzero).trans_lt (bigEndian_lt shorter)
        exact (Nat.pow_lt_pow_iff_right (by decide)).mp bounded
  exact
    eq_of_bigEndian
      (Nat.le_antisymm (notLonger leftHead sameValue)
        (notLonger rightHead sameValue.symm))
      sameValue

end RitspLtv.BigEndian
