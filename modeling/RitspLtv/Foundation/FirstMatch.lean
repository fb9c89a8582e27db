import Mathlib.Data.List.Perm.Basic

/-!
# Deciding by the first match

A search stops at the first item that matches, and what is decided depends on
that item alone.  For arbitrary items, matches and verdicts this module says
when such a decision is the one a search through all items would make, and when
it does not depend on the order of the items.
-/

namespace RitspLtv.Foundation.FirstMatch

variable {α β γ : Type} {matching : α → Bool} {items : List α}

/-- The verdict on the first item that matches; `absent` when none does. -/
def firstVerdict (matching : α → Bool) (verdict : α → β) (absent : β)
    (items : List α) : β :=
  match items.find? matching with
  | none => absent
  | some item => verdict item

@[simp]
theorem firstVerdict_cons_of_pos
    {verdict : α → β} {absent : β} {item : α}
    (isMatch : matching item = true) :
    firstVerdict matching verdict absent (item :: items) =
      verdict item := by
  simp [firstVerdict, isMatch]

/-- An item that matches is found when nothing in front of it does. -/
theorem find?_of_first
    {earlier later : List α} {item : α}
    (others : ∀ other ∈ earlier, matching other = false)
    (isMatch : matching item = true) :
    (earlier ++ item :: later).find? matching = some item := by
  rw [List.find?_eq_some_iff_append]
  refine ⟨isMatch, earlier, later, rfl, ?_⟩
  intro other member
  rw [others other member]
  rfl

/-- Nothing matches, or the first match is one of the items. -/
theorem firstVerdict_cases
    (matching : α → Bool) (items : List α) (verdict : α → β) (absent : β) :
    (∀ item ∈ items, matching item = false) ∧
        firstVerdict matching verdict absent items = absent ∨
      ∃ item ∈ items,
        items.find? matching = some item ∧ matching item = true ∧
          firstVerdict matching verdict absent items = verdict item := by
  rw [firstVerdict]
  cases found : items.find? matching with
  | none =>
      left
      simpa using found
  | some item =>
      right
      exact
        ⟨item, List.mem_of_find?_eq_some found, rfl,
          List.find?_some found, rfl⟩

/--
Looking at the first match finds a property exactly when some match has it, as
long as the first match has it whenever any match does.
-/
theorem find?_iff_exists_match_iff
    (property : α → Prop) :
    ((∃ item, items.find? matching = some item ∧ property item) ↔
        ∃ item ∈ items, matching item = true ∧ property item) ↔
      ∀ first, items.find? matching = some first →
        property first ∨
          ∀ item ∈ items, matching item = true → ¬ property item := by
  constructor
  · intro same first found
    by_cases some : ∃ item ∈ items, matching item = true ∧ property item
    · rcases same.2 some with ⟨item, itemFound, holds⟩
      rw [found, Option.some.injEq] at itemFound
      exact .inl (itemFound ▸ holds)
    · right
      intro item member isMatch holds
      exact some ⟨item, member, isMatch, holds⟩
  · intro decisive
    constructor
    · intro first
      rcases first with ⟨item, found, holds⟩
      exact
        ⟨item, List.mem_of_find?_eq_some found, List.find?_some found, holds⟩
    · intro some
      rcases some with ⟨item, member, isMatch, holds⟩
      cases found : items.find? matching with
      | none =>
          have differs := List.find?_eq_none.mp found item member
          exact absurd isMatch differs
      | some first =>
          rcases decisive first found with firstHolds | noneHolds
          · exact ⟨first, rfl, firstHolds⟩
          · exact absurd holds (noneHolds item member isMatch)

/-- A map on verdicts can be applied to every item or to the decision. -/
theorem firstVerdict_map
    (transform : β → γ) (verdict : α → β) (absent : β) :
    firstVerdict matching (transform ∘ verdict) (transform absent) items =
      transform (firstVerdict matching verdict absent items) := by
  rw [firstVerdict, firstVerdict]
  cases items.find? matching with
  | none => rfl
  | some item => rfl

/--
The decision does not depend on the order of the items exactly when the verdicts
on all matches agree.
-/
theorem firstVerdict_perm_iff
    {verdict : α → β} {absent : β} :
    (∀ other, other.Perm items →
        firstVerdict matching verdict absent other =
          firstVerdict matching verdict absent items) ↔
      ∀ left ∈ items, ∀ right ∈ items,
        matching left = true → matching right = true →
          verdict left = verdict right := by
  constructor
  · intro unordered
    -- a match is decisive in the order in which it comes first
    have decisive :
        ∀ item ∈ items, matching item = true →
          verdict item = firstVerdict matching verdict absent items := by
      intro item member isMatch
      rcases List.append_of_mem member with ⟨before, after, rfl⟩
      have same :=
        unordered (item :: (before ++ after)) List.perm_middle.symm
      rw [firstVerdict_cons_of_pos isMatch] at same
      exact same
    intro left leftMember right rightMember leftMatch rightMatch
    rw [decisive left leftMember leftMatch,
      decisive right rightMember rightMatch]
  · intro agree other permuted
    rcases firstVerdict_cases matching items verdict absent with
      ⟨noMatch, isAbsent⟩ | ⟨item, member, _, isMatch, decided⟩
    · rcases firstVerdict_cases matching other verdict absent with
        ⟨_, otherAbsent⟩ | ⟨item, member, _, isMatch, _⟩
      · rw [isAbsent, otherAbsent]
      · have differs := noMatch item (permuted.mem_iff.mp member)
        rw [differs] at isMatch
        cases isMatch
    · rcases firstVerdict_cases matching other verdict absent with
        ⟨noMatch, _⟩ | ⟨otherItem, otherMember, _, otherMatch, otherDecided⟩
      · have differs := noMatch item (permuted.mem_iff.mpr member)
        rw [differs] at isMatch
        cases isMatch
      · rw [decided, otherDecided]
        exact
          agree otherItem (permuted.mem_iff.mp otherMember) item member
            otherMatch isMatch

end RitspLtv.Foundation.FirstMatch
