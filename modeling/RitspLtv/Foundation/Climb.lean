import Mathlib.Data.List.Chain

/-!
# Climbing from item to item

A climb starts from an item and goes on to a next one until an item halts it or
its steps are used up.  What comes next may be a function of the item, or it may
be up to somebody else; so the steps are a relation here.
-/

namespace RitspLtv.Foundation.Climb

variable {α : Type}

/-- The items that are visited in at most so many steps. -/
inductive Climbs (goesTo : α → α → Prop) (halts : α → Prop) :
    Nat → α → List α → Prop where
  | spent (item : α) : Climbs goesTo halts 0 item []
  | halt (steps : Nat) (item : α) (halted : halts item) :
      Climbs goesTo halts (steps + 1) item [item]
  | step {steps : Nat} {item next : α} {items : List α}
      (goes : goesTo item next) (later : Climbs goesTo halts steps next items) :
      Climbs goesTo halts (steps + 1) item (item :: items)

namespace Climbs

variable {goesTo others : α → α → Prop} {halts stops : α → Prop}
variable {steps : Nat} {start : α} {items : List α}

theorem length_le (climb : Climbs goesTo halts steps start items) :
    items.length ≤ steps := by
  induction climb with
  | spent item => exact Nat.le_refl 0
  | halt steps item halted => exact Nat.succ_le_succ (Nat.zero_le steps)
  | step goes later induction => exact Nat.succ_le_succ induction

/-- The first item is the one that the climb starts from. -/
theorem exists_eq_cons (climb : Climbs goesTo halts (steps + 1) start items) :
    ∃ rest, items = start :: rest := by
  cases climb with
  | halt steps item halted => exact ⟨[], rfl⟩
  | step goes later => exact ⟨_, rfl⟩

/-- Every item but the first is one that the item before it goes to. -/
theorem isChain (climb : Climbs goesTo halts steps start items) :
    List.IsChain goesTo items := by
  induction climb with
  | spent item => exact .nil
  | halt steps item halted => exact .singleton item
  | @step steps item next items goes later induction =>
      cases later with
      | spent item => exact .singleton _
      | halt steps item halted => exact .cons_cons goes induction
      | step furtherGoes further => exact .cons_cons goes induction

/-- A climb that has steps left ends at an item that halts it. -/
theorem halted (climb : Climbs goesTo halts steps start items)
    (left : items.length < steps) :
    ∃ last, items.getLast? = some last ∧ halts last := by
  induction climb with
  | spent item => exact absurd left (Nat.not_lt_zero _)
  | halt steps item halted => exact ⟨item, rfl, halted⟩
  | @step steps item next items goes later induction =>
      rcases induction (Nat.lt_of_succ_lt_succ left) with
        ⟨last, isLast, halted⟩
      refine ⟨last, ?_, halted⟩
      rw [List.getLast?_cons, isLast]
      rfl

/-- What holds of the start and is kept by the steps may be relied on. -/
theorem mono_of {kept : α → Prop}
    (climb : Climbs goesTo halts steps start items) (starts : kept start)
    (keeps : ∀ item next, kept item → goesTo item next → kept next)
    (goes : ∀ item next, kept item → goesTo item next → others item next)
    (halt : ∀ item, kept item → halts item → stops item) :
    Climbs others stops steps start items := by
  induction climb with
  | spent item => exact .spent item
  | halt steps item halted => exact .halt steps item (halt item starts halted)
  | step gone later induction =>
      exact .step (goes _ _ starts gone) (induction (keeps _ _ starts gone))

theorem mono (climb : Climbs goesTo halts steps start items)
    (goes : ∀ item next, goesTo item next → others item next)
    (halt : ∀ item, halts item → stops item) :
    Climbs others stops steps start items :=
  climb.mono_of trivial (fun _ _ _ _ => trivial)
    (fun item next _ => goes item next) fun item _ => halt item

/-- Where everything is decided by the item, there is one climb only. -/
theorem unique
    (decided :
      ∀ item next other, goesTo item next → goesTo item other → next = other)
    (exclusive : ∀ item next, goesTo item next → ¬ halts item)
    {otherItems : List α}
    (climb : Climbs goesTo halts steps start items)
    (other : Climbs goesTo halts steps start otherItems) :
    items = otherItems := by
  induction climb generalizing otherItems with
  | spent item =>
      cases other
      rfl
  | halt steps item halted =>
      cases other with
      | halt steps item otherHalted => rfl
      | step goes later => exact absurd halted (exclusive _ _ goes)
  | step goes later induction =>
      cases other with
      | halt steps item halted => exact absurd halted (exclusive _ _ goes)
      | step otherGoes otherLater =>
          cases decided _ _ _ goes otherGoes
          rw [induction otherLater]

end Climbs

end RitspLtv.Foundation.Climb
