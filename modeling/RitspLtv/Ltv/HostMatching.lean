import RitspLtv.Foundation.Labels
import RitspLtv.Ltv.NameConstraints

/-!
# Host names and their labels

Host names are compared octet by octet from the end, with one look at the octet
in front of the common part.  On the labels of the names this is a comparison
of suffixes: a name lies in a subtree when the labels of the base are the last
ones of its own.  The look never goes beyond the name.
-/

namespace RitspLtv.Ltv.HostMatching

open RitspLtv.Foundation.Labels
open RitspLtv.RustStd
open RitspLtv.Ltv.NameConstraints

variable {base name host suffix : Bytes}

/-- `str::split('.')`. -/
def labels (name : Bytes) : List Bytes :=
  name.splitOn 0x2E

/-! ## The index of the octet in front -/

/-- The difference of two lengths, which panics when it is negative. -/
def checkedSub (left right : Nat) : Option Nat :=
  if right ≤ left then some (left - right) else none

/-- `name.as_bytes()[name.len() - suffix.len() - 1]`, and `none` for a panic. -/
def octetBefore (suffix name : Bytes) : Option UInt8 := do
  let front ← checkedSub name.length suffix.length
  let index ← checkedSub front 1
  name[index]?

/-- The comparison with the index as it is taken, behind the two other tests. -/
def endsOnLabelIndexed (suffix name : Bytes) : Option Bool :=
  if name.length > suffix.length && suffix.isSuffixOf name then do
    let octet ← octetBefore suffix name
    some (octet == 0x2E)
  else
    some false

/-- dNSName matching with the index as it is taken. -/
def dnsMatchesIndexed (base name : Bytes) : Option Bool :=
  if base = [] then some true
  else
    match stripPrefix 0x2E base with
    | some suffix => endsOnLabelIndexed suffix name
    | none =>
        if name == base then some true else endsOnLabelIndexed base name

/-- rfc822Name matching with the index as it is taken. -/
def rfc822MatchesIndexed (base name : Bytes) : Option Bool :=
  if base = [] then some true
  else
    let host := (afterLast 0x40 name).getD name
    match stripPrefix 0x2E base with
    | some suffix => endsOnLabelIndexed suffix host
    | none =>
        some (if 0x40 ∈ base then name == base else host == base)

/-- Behind the comparison of the lengths there is an octet in front. -/
theorem octetBefore_eq (shorter : suffix.length < name.length) :
    octetBefore suffix name = name[name.length - suffix.length - 1]? := by
  have front : suffix.length ≤ name.length := shorter.le
  have octet : 1 ≤ name.length - suffix.length := by omega
  simp only [octetBefore, checkedSub, if_pos front, Option.bind_eq_bind,
    Option.bind_some, if_pos octet]

theorem endsOnLabelIndexed_eq (suffix name : Bytes) :
    endsOnLabelIndexed suffix name = some (endsOnLabel suffix name) := by
  rw [endsOnLabelIndexed, endsOnLabel]
  by_cases shorter : suffix.length < name.length
  · have inside : name.length - suffix.length - 1 < name.length := by omega
    rw [octetBefore_eq shorter, List.getElem?_eq_getElem inside]
    cases suffix.isSuffixOf name <;> simp [shorter]
  · simp [shorter]

theorem dnsMatchesIndexed_eq (base name : Bytes) :
    dnsMatchesIndexed base name = some (dnsMatches base name) := by
  by_cases empty : base = []
  · rw [dnsMatchesIndexed, dnsMatches, if_pos empty, if_pos empty]
  · rw [dnsMatchesIndexed, dnsMatches, if_neg empty, if_neg empty]
    cases stripPrefix 0x2E base with
    | some suffix => exact endsOnLabelIndexed_eq suffix name
    | none =>
        simp only [endsOnLabelIndexed_eq]
        cases name == base <;> rfl

theorem rfc822MatchesIndexed_eq (base name : Bytes) :
    rfc822MatchesIndexed base name = some (rfc822Matches base name) := by
  by_cases empty : base = []
  · rw [rfc822MatchesIndexed, rfc822Matches, if_pos empty, if_pos empty]
  · rw [rfc822MatchesIndexed, rfc822Matches, if_neg empty, if_neg empty]
    cases stripPrefix 0x2E base with
    | some suffix => exact endsOnLabelIndexed_eq suffix _
    | none => rfl

/-! ## Suffixes of labels -/

/-- A suffix behind a dot. -/
theorem endsOnLabel_iff :
    endsOnLabel suffix name = true ↔ Below 0x2E suffix name := by
  simp only [endsOnLabel, Bool.and_eq_true, decide_eq_true_eq,
    List.isSuffixOf_iff_suffix, beq_iff_eq]
  constructor
  · rintro ⟨⟨shorter, front, rfl⟩, dot⟩
    rw [List.length_append] at shorter dot
    have nonempty : front ≠ [] := by
      rintro rfl
      simp at shorter
    have last : front.length + suffix.length - suffix.length - 1 =
        front.length - 1 := by omega
    have inside : front.length - 1 < front.length := by
      have := List.length_pos_of_ne_nil nonempty
      omega
    rw [last, List.getElem?_append_left inside,
      ← List.getLast?_eq_getElem?] at dot
    rcases List.getLast?_eq_some_iff.mp dot with ⟨before, rfl⟩
    exact ⟨before, by rw [List.append_assoc]; rfl⟩
  · rintro ⟨before, rfl⟩
    refine ⟨⟨?_, ?_⟩, ?_⟩
    · rw [List.length_append, List.length_cons]
      omega
    · exact ⟨before ++ [0x2E], by rw [List.append_assoc]; rfl⟩
    · have index :
          (before ++ 0x2E :: suffix).length - suffix.length - 1 =
            before.length := by
        rw [List.length_append, List.length_cons]
        omega
      rw [index, List.getElem?_append_right (Nat.le_refl _), Nat.sub_self]
      rfl

theorem stripPrefix_eq_some_iff {expected : UInt8} {text rest : Bytes} :
    stripPrefix expected text = some rest ↔ text = expected :: rest := by
  cases text with
  | nil => simp [stripPrefix]
  | cons head tail =>
      by_cases same : head = expected
      · simp [stripPrefix, same]
      · simp [stripPrefix, same]

/-- A base that does not start with a dot is not stripped of one. -/
theorem stripPrefix_eq_none_iff {expected : UInt8} {text : Bytes} :
    stripPrefix expected text = none ↔ text.head? ≠ some expected := by
  cases text with
  | nil => simp [stripPrefix]
  | cons head tail => simp [stripPrefix]

/-- A base that is not stripped of a dot has no form that starts with one. -/
theorem not_exists_of_stripPrefix_eq_none
    {expected : UInt8} {text : Bytes} {Condition : Bytes → Prop}
    (stripped : stripPrefix expected text = none) :
    ¬ ∃ rest, text = expected :: rest ∧ Condition rest := by
  rintro ⟨rest, rfl, _⟩
  exact stripPrefix_eq_none_iff.mp stripped rfl

/-- The name is the base or lies below it, at a dot of its own if it has one. -/
theorem dnsMatches_iff_below :
    dnsMatches base name = true ↔
      base = [] ∨
        (base.head? ≠ some 0x2E ∧ (name = base ∨ Below 0x2E base name)) ∨
        ∃ suffix, base = 0x2E :: suffix ∧ Below 0x2E suffix name := by
  by_cases empty : base = []
  · rw [dnsMatches, if_pos empty]
    exact iff_of_true rfl (Or.inl empty)
  · rw [dnsMatches, if_neg empty, or_iff_right empty]
    cases stripped : stripPrefix 0x2E base with
    | some suffix =>
        rw [stripPrefix_eq_some_iff] at stripped
        subst stripped
        simp [endsOnLabel_iff]
    | none =>
        have noDot := stripPrefix_eq_none_iff.mp stripped
        rw [or_iff_left (not_exists_of_stripPrefix_eq_none stripped),
          and_iff_right noDot, Bool.or_eq_true, beq_iff_eq, endsOnLabel_iff]

/-! ## Mail hosts -/

/-- The part behind the last `@`, or all of a name without one. -/
def IsHostPart (name host : Bytes) : Prop :=
  (0x40 ∉ name ∧ host = name) ∨
    ∃ mailbox, name = mailbox ++ 0x40 :: host ∧ 0x40 ∉ host

theorem afterLast_append_cons
    {separator : UInt8} {before after : Bytes} (last : separator ∉ after) :
    afterLast separator (before ++ separator :: after) = some after := by
  have member : separator ∈ before ++ separator :: after := by simp
  have others : ∀ octet ∈ after.reverse, decide (octet ≠ separator) = true := by
    intro octet inside
    rw [decide_eq_true_eq]
    rintro rfl
    exact last (List.mem_reverse.mp inside)
  rw [afterLast, if_pos member, List.reverse_append, List.reverse_cons,
    List.append_assoc, List.singleton_append,
    List.takeWhile_append_of_pos others, List.takeWhile_cons_of_neg (by simp),
    List.append_nil, List.reverse_reverse]

/-- The host part is what the code takes for it. -/
theorem isHostPart_iff :
    IsHostPart name host ↔ host = (afterLast 0x40 name).getD name := by
  constructor
  · rintro (⟨absent, rfl⟩ | ⟨mailbox, rfl, last⟩)
    · rw [afterLast, if_neg absent]
      rfl
    · rw [afterLast_append_cons last]
      rfl
  · rintro rfl
    by_cases present : 0x40 ∈ name
    · rcases List.eq_append_cons_of_mem (List.mem_reverse.mpr present) with
        ⟨after, before, split, last⟩
      have parts : name = before.reverse ++ 0x40 :: after.reverse := by
        rw [← List.reverse_reverse name, split]
        simp
      have lastReversed : 0x40 ∉ after.reverse := mt List.mem_reverse.mp last
      right
      refine ⟨before.reverse, ?_⟩
      rw [parts, afterLast_append_cons lastReversed]
      exact ⟨rfl, lastReversed⟩
    · left
      rw [afterLast, if_neg present]
      exact ⟨present, rfl⟩

theorem rfc822Matches_iff_below :
    rfc822Matches base name = true ↔
      base = [] ∨
        (∃ suffix, base = 0x2E :: suffix ∧
          Below 0x2E suffix ((afterLast 0x40 name).getD name)) ∨
        (base.head? ≠ some 0x2E ∧
          ((0x40 ∈ base ∧ base = name) ∨
            (0x40 ∉ base ∧ base = (afterLast 0x40 name).getD name))) := by
  by_cases empty : base = []
  · rw [rfc822Matches, if_pos empty]
    exact iff_of_true rfl (Or.inl empty)
  · rw [rfc822Matches, if_neg empty, or_iff_right empty]
    cases stripped : stripPrefix 0x2E base with
    | some suffix =>
        rw [stripPrefix_eq_some_iff] at stripped
        subst stripped
        simp [endsOnLabel_iff]
    | none =>
        have noDot := stripPrefix_eq_none_iff.mp stripped
        rw [or_iff_right (not_exists_of_stripPrefix_eq_none stripped),
          and_iff_right noDot]
        simp only
        by_cases mailbox : 0x40 ∈ base
        · rw [if_pos mailbox, beq_iff_eq, and_iff_right mailbox,
            or_iff_left (not_and_of_not_left _ (not_not.mpr mailbox))]
          exact eq_comm
        · rw [if_neg mailbox, beq_iff_eq, and_iff_right mailbox,
            or_iff_right (not_and_of_not_left _ mailbox)]
          exact eq_comm

/-! ## Subtrees in subtrees -/

/-- What lies below a name in turn lies below what the name is below. -/
theorem below_of_dnsMatches {narrow : Bytes}
    (upper : Below 0x2E base narrow) (lower : dnsMatches narrow name = true) :
    Below 0x2E base name := by
  rcases dnsMatches_iff_below.mp lower with
    rfl | ⟨_, rfl | below⟩ | ⟨suffix, rfl, below⟩
  · exact absurd upper.length_lt (Nat.not_lt_zero _)
  · exact upper
  · exact upper.trans below
  · rcases below_separator_cons_iff.mp upper with rfl | between
    · exact below
    · exact between.trans below

/-- The names of a narrower subtree are names of the broader one. -/
theorem dnsMatches_trans {narrow : Bytes}
    (broader : dnsMatches base narrow = true)
    (narrower : dnsMatches narrow name = true) :
    dnsMatches base name = true := by
  rw [dnsMatches_iff_below]
  rcases dnsMatches_iff_below.mp broader with
    empty | ⟨noDot, same | below⟩ | ⟨suffix, leadingDot, below⟩
  · exact Or.inl empty
  · subst same
    exact dnsMatches_iff_below.mp narrower
  · exact Or.inr (Or.inl ⟨noDot, Or.inr (below_of_dnsMatches below narrower)⟩)
  · exact
      Or.inr (Or.inr ⟨suffix, leadingDot, below_of_dnsMatches below narrower⟩)

/--
Both kinds of host names are matched at the boundaries of their labels, for
every base and every name, an octet in front of the suffix is always there, and
subtrees of DNS names are nested.
-/
theorem hosts_match_on_labels :
    (∀ base name,
        dnsMatches base name = true ↔
          base = [] ∨
            (base.head? ≠ some 0x2E ∧ labels base <:+ labels name) ∨
            ∃ suffix, base = 0x2E :: suffix ∧
              ProperSuffix (labels suffix) (labels name)) ∧
      (∀ name, ∃ host,
        (∀ part, IsHostPart name part ↔ part = host) ∧
          ∀ base,
            rfc822Matches base name = true ↔
              base = [] ∨
                (∃ suffix, base = 0x2E :: suffix ∧
                  ProperSuffix (labels suffix) (labels host)) ∨
                (base.head? ≠ some 0x2E ∧
                  ((0x40 ∈ base ∧ base = name) ∨
                    (0x40 ∉ base ∧ base = host)))) ∧
      (∀ base name,
        dnsMatchesIndexed base name = some (dnsMatches base name) ∧
          rfc822MatchesIndexed base name =
            some (rfc822Matches base name)) ∧
      ∀ base narrow name,
        dnsMatches base narrow = true → dnsMatches narrow name = true →
          dnsMatches base name = true := by
  refine ⟨?_, ?_, ?_, ?_⟩
  · intro base name
    simp only [labels, suffix_splitOn_iff, ← below_iff_properSuffix]
    exact dnsMatches_iff_below
  · intro name
    refine ⟨(afterLast 0x40 name).getD name, fun part => isHostPart_iff, ?_⟩
    intro base
    simp only [labels, ← below_iff_properSuffix]
    exact rfc822Matches_iff_below
  · intro base name
    exact ⟨dnsMatchesIndexed_eq base name, rfc822MatchesIndexed_eq base name⟩
  · intro base narrow name broader narrower
    exact dnsMatches_trans broader narrower

end RitspLtv.Ltv.HostMatching
