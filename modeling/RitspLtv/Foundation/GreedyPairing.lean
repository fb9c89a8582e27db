import Mathlib.Data.List.Perm.Subperm

/-!
# Pairing items greedily

Every item of one list is paired with the first item of another that matches it
and has not been used.  When matching is having the same key, the order of the
choices does not matter: the pairing succeeds exactly when the keys of the first
list are among those of the second, with multiplicity.
-/

namespace RitspLtv.Foundation.GreedyPairing

variable {α κ : Type}

/-- The items left unused after the first match of `base` has been used. -/
def useFirst (same : α → α → Bool) (base : α) : List α → Option (List α)
  | [] => none
  | item :: unused =>
      if same base item then some unused
      else (useFirst same base unused).map (item :: ·)

/-- Pair every base with an item of its own. -/
def pairGreedily (same : α → α → Bool) : List α → List α → Bool
  | [], _ => true
  | base :: bases, unused =>
      match useFirst same base unused with
      | none => false
      | some unused => pairGreedily same bases unused

section Keys

variable {same : α → α → Bool} {key : α → κ} {bases items unused : List α}
variable {base : α}

/-- Using an item removes one occurrence of its key. -/
theorem perm_of_useFirst
    (sameKey : ∀ item ∈ items, same base item = true ↔ key base = key item)
    (used : useFirst same base items = some unused) :
    (key base :: unused.map key).Perm (items.map key) ∧ unused ⊆ items := by
  induction items generalizing unused with
  | nil => cases used
  | cons item items induction =>
      rw [useFirst] at used
      by_cases isMatch : same base item = true
      · rw [if_pos isMatch, Option.some.injEq] at used
        subst used
        have equal := (sameKey item List.mem_cons_self).mp isMatch
        rw [equal, List.map_cons]
        exact ⟨List.Perm.refl _, List.subset_cons_self item items⟩
      · rw [if_neg isMatch, Option.map_eq_some_iff] at used
        rcases used with ⟨others, used, rfl⟩
        have later :=
          induction
            (fun other member =>
              sameKey other (List.mem_cons_of_mem item member))
            used
        constructor
        · rw [List.map_cons, List.map_cons]
          exact
            (List.Perm.swap (key item) (key base) (others.map key)).trans
              (later.1.cons (key item))
        · exact List.cons_subset_cons item later.2

/-- There is an item to use exactly when the key occurs. -/
theorem useFirst_eq_none_iff
    (sameKey : ∀ item ∈ items, same base item = true ↔ key base = key item) :
    useFirst same base items = none ↔ key base ∉ items.map key := by
  induction items with
  | nil => simp [useFirst]
  | cons item items induction =>
      have isMatch := sameKey item List.mem_cons_self
      have later :=
        induction fun other member =>
          sameKey other (List.mem_cons_of_mem item member)
      rw [useFirst, List.map_cons, List.mem_cons, not_or]
      by_cases matched : same base item = true
      · rw [if_pos matched]
        simp [isMatch.mp matched]
      · rw [if_neg matched, Option.map_eq_none_iff, later]
        exact (and_iff_right (mt isMatch.mpr matched)).symm

/-- Greedy pairing is inclusion of the keys with multiplicity. -/
theorem pairGreedily_iff_subperm
    (sameKey :
      ∀ base ∈ bases, ∀ item ∈ items,
        same base item = true ↔ key base = key item) :
    pairGreedily same bases items = true ↔
      (bases.map key).Subperm (items.map key) := by
  induction bases generalizing items with
  | nil =>
      rw [pairGreedily, List.map_nil]
      exact iff_of_true rfl (List.nil_subperm)
  | cons base bases induction =>
      have first := sameKey base List.mem_cons_self
      have others :
          ∀ other ∈ bases, ∀ item ∈ items,
            same other item = true ↔ key other = key item := by
        intro other member
        exact sameKey other (List.mem_cons_of_mem base member)
      rw [pairGreedily, List.map_cons]
      cases used : useFirst same base items with
      | none =>
          have absent := (useFirst_eq_none_iff first).mp used
          constructor
          · intro impossible
            cases impossible
          · intro included
            exact absurd (included.subset List.mem_cons_self) absent
      | some unused =>
          rcases perm_of_useFirst first used with ⟨reordered, included⟩
          show pairGreedily same bases unused = true ↔ _
          rw [induction fun other member item itemMember =>
            others other member item (included itemMember)]
          rw [← reordered.subperm_left, List.subperm_cons]

/-- Pairing all of as many items is equality of the keys with multiplicity. -/
theorem pairGreedily_iff_perm
    (sameKey :
      ∀ base ∈ bases, ∀ item ∈ items,
        same base item = true ↔ key base = key item) :
    bases.length = items.length ∧ pairGreedily same bases items = true ↔
      (bases.map key).Perm (items.map key) := by
  rw [pairGreedily_iff_subperm sameKey]
  constructor
  · rintro ⟨sameLength, included⟩
    apply included.perm_of_length_le
    rw [List.length_map, List.length_map]
    exact Nat.le_of_eq sameLength.symm
  · intro reordered
    have sameLength := reordered.length_eq
    rw [List.length_map, List.length_map] at sameLength
    exact ⟨sameLength, reordered.subperm⟩

end Keys

end RitspLtv.Foundation.GreedyPairing
