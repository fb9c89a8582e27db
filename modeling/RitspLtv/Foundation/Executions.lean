import Mathlib.Data.List.Induction

/-!
# Executions with a history

A system goes from state to state, and every step of it leaves an event behind.
What holds of all histories and the states they lead to is shown by induction on
the steps; and whatever an event says, it says about the state in which the
history had come to it.
-/

namespace RitspLtv.Foundation.Executions

variable {σ ε : Type}

/-- The system gets from `start` to a state with these events. -/
inductive Executes (step : σ → ε → σ → Prop) (start : σ) :
    List ε → σ → Prop where
  | start : Executes step start [] start
  | next {history : List ε} {state later : σ} {event : ε}
      (executed : Executes step start history state)
      (stepped : step state event later) :
      Executes step start (history ++ [event]) later

namespace Executes

variable {step : σ → ε → σ → Prop} {start state later : σ}
variable {history former latter : List ε} {event : ε}

@[simp]
theorem nil_iff : Executes step start [] state ↔ state = start := by
  constructor
  · intro executed
    generalize same : ([] : List ε) = history at executed
    cases executed with
    | start => rfl
    | next executed stepped => exact absurd same (by simp)
  · rintro rfl
    exact .start

theorem concat_iff :
    Executes step start (history ++ [event]) later ↔
      ∃ state,
        Executes step start history state ∧ step state event later := by
  constructor
  · intro executed
    generalize same : history ++ [event] = whole at executed
    cases executed with
    | start => exact absurd same (by simp)
    | next executed stepped =>
        rcases List.append_inj' same rfl with ⟨rfl, sameEvent⟩
        cases sameEvent
        exact ⟨_, executed, stepped⟩
  · rintro ⟨state, executed, stepped⟩
    exact .next executed stepped

/-- An execution goes through a state between any two parts of its history. -/
theorem append_iff :
    Executes step start (former ++ latter) later ↔
      ∃ state,
        Executes step start former state ∧
          Executes step state latter later := by
  induction latter using List.reverseRecOn generalizing later with
  | nil =>
      rw [List.append_nil]
      constructor
      · intro executed
        exact ⟨later, executed, .start⟩
      · rintro ⟨state, executed, rest⟩
        rw [nil_iff] at rest
        exact rest ▸ executed
  | append_singleton latter event induction =>
      rw [← List.append_assoc, concat_iff]
      constructor
      · rintro ⟨last, executed, stepped⟩
        rcases induction.mp executed with ⟨state, began, rest⟩
        exact ⟨state, began, .next rest stepped⟩
      · rintro ⟨state, began, rest⟩
        rcases concat_iff.mp rest with ⟨last, rest, stepped⟩
        exact ⟨last, induction.mpr ⟨state, began, rest⟩, stepped⟩

theorem singleton_iff :
    Executes step start [event] later ↔ step start event later := by
  rw [← List.nil_append [event], concat_iff]
  simp

theorem cons_iff :
    Executes step start (event :: history) later ↔
      ∃ state, step start event state ∧ Executes step state history later := by
  rw [← List.singleton_append, append_iff]
  simp only [singleton_iff]

/-- An event was left by a step from where the history before it had led to. -/
theorem of_mem (executed : Executes step start history later)
    (member : event ∈ history) :
    ∃ past future before after,
      history = past ++ event :: future ∧ Executes step start past before ∧
        step before event after := by
  rcases List.append_of_mem member with ⟨past, future, rfl⟩
  rcases append_iff.mp executed with ⟨before, began, rest⟩
  rcases cons_iff.mp rest with ⟨after, stepped, _⟩
  exact ⟨past, future, before, after, rfl, began, stepped⟩

end Executes

end RitspLtv.Foundation.Executions
