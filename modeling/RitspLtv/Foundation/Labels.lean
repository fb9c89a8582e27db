import Mathlib.Data.List.Basic
import Mathlib.Data.List.Infix

/-!
# Texts as labels between separators

Splitting a text at a separator gives its labels.  A text stands below another
one when it ends with it and a separator in front of it.  This is the case
exactly when the labels of the other text are a proper suffix of its own, so
that an order on label lists can be decided on the texts themselves.
-/

namespace RitspLtv.Foundation.Labels

variable {α : Type} [BEq α] [LawfulBEq α]
variable {separator : α} {base name other : List α} {labels : List (List α)}

/-- The first list ends the second and is shorter. -/
def ProperSuffix (short long : List (List α)) : Prop :=
  short <:+ long ∧ short ≠ long

/-- `name` is `base` behind further labels and a separator. -/
def Below (separator : α) (base name : List α) : Prop :=
  ∃ before, name = before ++ separator :: base

omit [BEq α] [LawfulBEq α] in
theorem intercalate_append_cons
    (nonempty : labels ≠ []) (label : List α) (labels' : List (List α)) :
    [separator].intercalate (labels ++ label :: labels') =
      [separator].intercalate labels ++
        separator :: [separator].intercalate (label :: labels') := by
  induction labels with
  | nil => exact absurd rfl nonempty
  | cons first following induction =>
      cases following with
      | nil =>
          simp [List.intercalate_cons_cons, List.intercalate_singleton]
      | cons second rest =>
          rw [List.cons_append, List.cons_append, List.intercalate_cons_cons,
            ← List.cons_append, induction (List.cons_ne_nil second rest),
            List.intercalate_cons_cons]
          simp only [List.append_assoc]

/-- A text is made of its labels. -/
theorem splitOn_inj
    (same : base.splitOn separator = name.splitOn separator) :
    base = name := by
  calc
    base = [separator].intercalate (base.splitOn separator) :=
        (List.intercalate_splitOn separator).symm
    _ = name := by
        rw [same, List.intercalate_splitOn]

theorem suffix_splitOn_iff :
    base.splitOn separator <:+ name.splitOn separator ↔
      name = base ∨ Below separator base name := by
  constructor
  · rintro ⟨before, split⟩
    cases before with
    | nil => exact Or.inl (splitOn_inj split).symm
    | cons first following =>
        right
        cases labels : base.splitOn separator with
        | nil => exact absurd labels (List.splitOn_ne_nil separator base)
        | cons label rest =>
            refine ⟨[separator].intercalate (first :: following), ?_⟩
            rw [labels] at split
            calc
              name = [separator].intercalate (name.splitOn separator) :=
                  (List.intercalate_splitOn separator).symm
              _ = [separator].intercalate (first :: following) ++
                    separator :: [separator].intercalate (label :: rest) := by
                  rw [← split]
                  exact intercalate_append_cons (List.cons_ne_nil _ _) _ _
              _ = [separator].intercalate (first :: following) ++
                    separator :: base := by
                  rw [← labels, List.intercalate_splitOn]
  · rintro (rfl | ⟨before, rfl⟩)
    · exact List.suffix_rfl
    · rw [List.splitOn_append_cons_self]
      exact List.suffix_append _ _

omit [BEq α] [LawfulBEq α] in
theorem Below.length_lt (below : Below separator base name) :
    base.length < name.length := by
  rcases below with ⟨before, rfl⟩
  rw [List.length_append, List.length_cons]
  omega

/-- A text is below another one when its labels go on in front. -/
theorem below_iff_properSuffix :
    Below separator base name ↔
      ProperSuffix (base.splitOn separator) (name.splitOn separator) := by
  rw [ProperSuffix, suffix_splitOn_iff]
  constructor
  · intro below
    refine ⟨Or.inr below, ?_⟩
    intro same
    have shorter := below.length_lt
    rw [splitOn_inj same] at shorter
    exact Nat.lt_irrefl _ shorter
  · rintro ⟨rfl | below, different⟩
    · exact absurd rfl different
    · exact below

omit [BEq α] [LawfulBEq α] in
theorem Below.trans
    (upper : Below separator base name) (lower : Below separator name other) :
    Below separator base other := by
  rcases upper with ⟨before, rfl⟩
  rcases lower with ⟨front, rfl⟩
  refine ⟨front ++ separator :: before, ?_⟩
  rw [List.append_assoc, List.cons_append]

omit [BEq α] [LawfulBEq α] in
/-- Below a text with a separator in front is the text itself, or further up. -/
theorem below_separator_cons_iff :
    Below separator base (separator :: name) ↔
      name = base ∨ Below separator base name := by
  constructor
  · rintro ⟨before, split⟩
    cases before with
    | nil => exact Or.inl (List.cons.inj split).2
    | cons first following =>
        exact Or.inr ⟨following, (List.cons.inj split).2⟩
  · rintro (rfl | ⟨before, rfl⟩)
    · exact ⟨[], rfl⟩
    · exact ⟨separator :: before, rfl⟩

end RitspLtv.Foundation.Labels
