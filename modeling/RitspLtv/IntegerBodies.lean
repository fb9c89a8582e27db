import RitspLtv.BigEndian

/-!
# Comparing INTEGER bodies

A serial number is stored without one leading zero octet, and comparing two
stored serial numbers removes one more.  The sign goes with the first of them,
so what a comparison tells apart is the unsigned value of a body.  It never
identifies two bodies of different unsigned values, and up to two octets of
padding do not keep equal ones apart.
-/

namespace RitspLtv.IntegerBodies

open RitspLtv.RustStd
open RitspLtv.DerUtils
open RitspLtv.BigEndian

/-! ## The integer a body denotes -/

/-- The two's-complement value of an INTEGER body. -/
def integerValue : Bytes → Int
  | [] => 0
  | first :: following =>
      if first < 0x80 then
        bigEndian (first :: following)
      else
        bigEndian (first :: following) -
          (256 ^ (first :: following).length : Nat)

/-- A body denotes its unsigned value unless its sign bit is set. -/
theorem integerValue_nonneg_iff (body : Bytes) :
    0 ≤ integerValue body ↔ integerValue body = bigEndian body := by
  constructor
  · intro nonnegative
    cases body with
    | nil => rfl
    | cons first following =>
        rw [integerValue] at nonnegative ⊢
        split at nonnegative
        · next positive => rw [if_pos positive]
        · have bounded := bigEndian_lt (first :: following)
          omega
  · intro same
    rw [same]
    exact Int.natCast_nonneg _

/-! ## Padding -/

/-- The number of leading zero octets a body has besides its last octet. -/
def zeroPadding : Bytes → Nat
  | first :: second :: rest =>
      if first = 0x00 then zeroPadding (second :: rest) + 1 else 0
  | _ => 0

/-- Removing padding leaves the unsigned value as it is. -/
theorem bigEndian_drop
    {body : Bytes} {count : Nat}
    (padding : count ≤ zeroPadding body) :
    bigEndian (body.drop count) = bigEndian body := by
  induction count generalizing body with
  | zero => rfl
  | succ count induction =>
      match body, padding with
      | first :: second :: rest, padding =>
          rw [zeroPadding] at padding
          split at padding
          · next zero =>
              rw [List.drop_succ_cons,
                induction (Nat.le_of_succ_le_succ padding),
                bigEndian_cons first, zero]
              exact ((Nat.zero_mul _).symm ▸ Nat.zero_add _).symm
          · exact absurd padding (Nat.not_succ_le_zero _)

theorem zeroPadding_drop
    {body : Bytes} {count : Nat}
    (padding : count ≤ zeroPadding body) :
    zeroPadding (body.drop count) = zeroPadding body - count := by
  induction count generalizing body with
  | zero => rfl
  | succ count induction =>
      match body, padding with
      | first :: second :: rest, padding =>
          rw [zeroPadding] at padding ⊢
          split at padding
          · next zero =>
              rw [List.drop_succ_cons, if_pos zero, Nat.add_sub_add_right]
              exact induction (Nat.le_of_succ_le_succ padding)
          · exact absurd padding (Nat.not_succ_le_zero _)

/-- Padding never is the whole body. -/
theorem zeroPadding_lt
    {body : Bytes}
    (nonempty : body ≠ []) :
    zeroPadding body < body.length := by
  induction body with
  | nil => exact absurd rfl nonempty
  | cons first following induction =>
      cases following with
      | nil => exact Nat.one_pos
      | cons second rest =>
          rw [zeroPadding]
          split
          · exact
              Nat.succ_lt_succ (induction (List.cons_ne_nil second rest))
          · exact Nat.succ_pos _

/-- Only the body `[0]` starts with a zero and has no padding. -/
theorem eq_zero_or_head_ne_zero
    {body : Bytes}
    (nonempty : body ≠ [])
    (unpadded : zeroPadding body = 0) :
    body = [0x00] ∨ body.head? ≠ some 0x00 := by
  match body, nonempty with
  | [first], _ =>
      by_cases zero : first = 0x00
      · exact Or.inl (zero ▸ rfl)
      · exact Or.inr (mt Option.some.inj zero)
  | first :: second :: rest, _ =>
      rw [zeroPadding] at unpadded
      split at unpadded
      · exact absurd unpadded (Nat.succ_ne_zero _)
      · next nonzero => exact Or.inr (mt Option.some.inj nonzero)

/-- A body that starts with another octet than zero has not the value zero. -/
theorem bigEndian_ne_zero
    {body : Bytes}
    (nonempty : body ≠ [])
    (nonzero : body.head? ≠ some 0x00) :
    bigEndian body ≠ 0 := by
  cases body with
  | nil => exact absurd rfl nonempty
  | cons first following =>
      have headNonzero : first ≠ 0x00 := mt (congrArg some) nonzero
      have bounded :
          256 ^ following.length ≤ bigEndian (first :: following) :=
        le_bigEndian headNonzero
      exact Nat.ne_of_gt ((Nat.pow_pos (by decide)).trans_le bounded)

/-- Bodies without padding are told apart by their unsigned values. -/
theorem eq_of_bigEndian_of_unpadded
    {left right : Bytes}
    (leftNonempty : left ≠ [])
    (rightNonempty : right ≠ [])
    (leftUnpadded : zeroPadding left = 0)
    (rightUnpadded : zeroPadding right = 0)
    (sameValue : bigEndian left = bigEndian right) :
    left = right := by
  rcases eq_zero_or_head_ne_zero leftNonempty leftUnpadded with
    rfl | leftHead
  · rcases eq_zero_or_head_ne_zero rightNonempty rightUnpadded with
      rfl | rightHead
    · rfl
    · exact
        absurd sameValue.symm (bigEndian_ne_zero rightNonempty rightHead)
  · rcases eq_zero_or_head_ne_zero rightNonempty rightUnpadded with
      rfl | rightHead
    · exact absurd sameValue (bigEndian_ne_zero leftNonempty leftHead)
    · exact eq_of_bigEndian_of_head leftHead rightHead sameValue

/-! ## What the comparison removes -/

/-- One octet of padding is removed, when there is one. -/
theorem parseIntegerBody_eq_drop (body : Bytes) :
    parseIntegerBody body = body.drop (min 1 (zeroPadding body)) := by
  match body with
  | [] => rfl
  | [first] =>
      rw [parseIntegerBody]
      · rfl
      · intro _ _ same
        cases same
  | first :: second :: rest =>
      rw [zeroPadding]
      split
      · next zero =>
          rw [zero, parseIntegerBody, Nat.min_eq_left (Nat.le_add_left 1 _)]
          rfl
      · next nonzero =>
          rw [parseIntegerBody]
          · rfl
          · intro _ _ same
            exact nonzero (List.cons.inj same).1

/-- A stored serial number is compared without two octets of its padding. -/
theorem integerBodiesEqual_parseIntegerBody_iff (left right : Bytes) :
    integerBodiesEqual (parseIntegerBody left) (parseIntegerBody right) =
        true ↔
      left.drop (min 2 (zeroPadding left)) =
        right.drop (min 2 (zeroPadding right)) := by
  have removed :
      ∀ body : Bytes,
        parseIntegerBody (parseIntegerBody body) =
          body.drop (min 2 (zeroPadding body)) := by
    intro body
    rw [parseIntegerBody_eq_drop (parseIntegerBody body),
      parseIntegerBody_eq_drop body,
      zeroPadding_drop (Nat.min_le_right _ _), List.drop_drop]
    congr 1
    omega
  rw [integerBodiesEqual, beq_iff_eq, removed, removed]

/-- Serial numbers of different unsigned values never compare as equal. -/
theorem bigEndian_eq_of_integerBodiesEqual
    {left right : Bytes}
    (equal :
      integerBodiesEqual (parseIntegerBody left) (parseIntegerBody right) =
        true) :
    bigEndian left = bigEndian right := by
  rw [integerBodiesEqual_parseIntegerBody_iff] at equal
  rw [← bigEndian_drop (Nat.min_le_right 2 (zeroPadding left)), equal,
    bigEndian_drop (Nat.min_le_right 2 (zeroPadding right))]

/-- Two octets of padding do not keep serial numbers of one value apart. -/
theorem integerBodiesEqual_of_bigEndian_eq
    {left right : Bytes}
    (leftNonempty : left ≠ [])
    (rightNonempty : right ≠ [])
    (leftPadding : zeroPadding left ≤ 2)
    (rightPadding : zeroPadding right ≤ 2)
    (sameValue : bigEndian left = bigEndian right) :
    integerBodiesEqual (parseIntegerBody left) (parseIntegerBody right) =
      true := by
  have unpadded :
      ∀ body : Bytes, zeroPadding (body.drop (zeroPadding body)) = 0 := by
    intro body
    rw [zeroPadding_drop (Nat.le_refl _), Nat.sub_self]
  have nonempty :
      ∀ {body : Bytes},
        body ≠ [] → body.drop (zeroPadding body) ≠ [] := by
    intro body nonempty dropped
    exact
      Nat.not_le.mpr (zeroPadding_lt nonempty)
        (List.drop_eq_nil_iff.mp dropped)
  rw [integerBodiesEqual_parseIntegerBody_iff,
    Nat.min_eq_right leftPadding, Nat.min_eq_right rightPadding]
  apply
    eq_of_bigEndian_of_unpadded (nonempty leftNonempty)
      (nonempty rightNonempty) (unpadded left) (unpadded right)
  rw [bigEndian_drop (Nat.le_refl _), bigEndian_drop (Nat.le_refl _),
    sameValue]

/--
Serial numbers that compare as equal have one unsigned value, whatever their
padding; with at most two octets of padding each, those of one unsigned value
compare as equal.  For bodies that are not negative this is equality of the
integers.
-/
theorem integerBodiesEqual_parseIntegerBody_unsigned
    (left right : Bytes)
    (leftNonempty : left ≠ [])
    (rightNonempty : right ≠ []) :
    (integerBodiesEqual (parseIntegerBody left) (parseIntegerBody right) =
          true →
        bigEndian left = bigEndian right) ∧
      (zeroPadding left ≤ 2 → zeroPadding right ≤ 2 →
        (integerBodiesEqual (parseIntegerBody left) (parseIntegerBody right) =
              true ↔
            bigEndian left = bigEndian right) ∧
          (0 ≤ integerValue left → 0 ≤ integerValue right →
            (integerBodiesEqual (parseIntegerBody left)
                (parseIntegerBody right) = true ↔
              integerValue left = integerValue right))) := by
  refine ⟨bigEndian_eq_of_integerBodiesEqual, ?_⟩
  intro leftPadding rightPadding
  have unsigned :
      integerBodiesEqual (parseIntegerBody left) (parseIntegerBody right) =
          true ↔
        bigEndian left = bigEndian right := by
    constructor
    · exact bigEndian_eq_of_integerBodiesEqual
    · exact
        integerBodiesEqual_of_bigEndian_eq leftNonempty rightNonempty
          leftPadding rightPadding
  refine ⟨unsigned, ?_⟩
  intro leftNonneg rightNonneg
  rw [unsigned, (integerValue_nonneg_iff left).mp leftNonneg,
    (integerValue_nonneg_iff right).mp rightNonneg]
  exact Int.natCast_inj.symm

theorem integerBodiesEqual_parseIntegerBody_unsigned_padded :
    integerBodiesEqual (parseIntegerBody [0x00, 0x00, 0x8F])
        (parseIntegerBody [0x00, 0x8F]) = true :=
  (((integerBodiesEqual_parseIntegerBody_unsigned [0x00, 0x00, 0x8F]
    [0x00, 0x8F] (by decide) (by decide)).2 (by decide) (by decide)).2
      (by decide) (by decide)).mpr (by decide)

/-- The serial numbers 128 and -128 compare as equal. -/
theorem integerBodiesEqual_ne_integerValue :
    ¬ ∀ left right : Bytes, left ≠ [] → right ≠ [] →
      (integerBodiesEqual (parseIntegerBody left) (parseIntegerBody right) =
          true ↔
        integerValue left = integerValue right) := by
  intro equality
  have conflated := equality [0x00, 0x80] [0x80] (by decide) (by decide)
  exact absurd (conflated.mp (by decide)) (by decide)

end RitspLtv.IntegerBodies
