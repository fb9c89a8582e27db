import RitspLtv.Foundation.Checks

/-!
# Loops that consume their input

A parser loop reads one element off the front of the remaining input, updates
an accumulator, and repeats until nothing is left.  `consume` is that loop for
an arbitrary step.  The loop counts down from the length of the input, and
`consumeWithin_eq_consume` shows that the count is never what stops it as long
as every step shortens the input.
-/

namespace RitspLtv.Foundation.Consume

open RitspLtv.Foundation.Checks

variable {ε σ τ : Type}

/-- One iteration: read an element off the input and update the accumulator. -/
abbrev Step (ε σ τ : Type) := σ → List τ → Except ε (σ × List τ)

/-- At most `fuel` iterations of the loop. -/
def consumeWithin (step : Step ε σ τ) :
    Nat → σ → List τ → Except ε σ
  | _, state, [] => .ok state
  -- never reached from `consume` when every step shortens its input
  | 0, state, _ :: _ => .ok state
  | fuel + 1, state, head :: tail => do
      let (next, rest) ← step state (head :: tail)
      consumeWithin step fuel next rest

/-- Iterate `step` until the whole input has been read. -/
def consume (step : Step ε σ τ) (state : σ) (input : List τ) :
    Except ε σ :=
  consumeWithin step input.length state input

/-- Every successful iteration reads at least one symbol. -/
def Shrinks (step : Step ε σ τ) : Prop :=
  ∀ {state input next rest},
    step state input = .ok (next, rest) → rest.length < input.length

/-- Fuel beyond the length of the input changes nothing. -/
theorem consumeWithin_eq_consume
    {step : Step ε σ τ} (shrinks : Shrinks step)
    {fuel : Nat} {state : σ} {input : List τ}
    (enough : input.length ≤ fuel) :
    consumeWithin step fuel state input = consume step state input := by
  induction fuel using Nat.strongRecOn generalizing state input with
  | ind fuel induction =>
      cases input with
      | nil => cases fuel <;> rfl
      | cons head tail =>
          obtain ⟨fuel, rfl⟩ : ∃ smaller, fuel = smaller + 1 :=
            ⟨fuel - 1, by simp only [List.length_cons] at enough; omega⟩
          simp only [consume, List.length_cons, consumeWithin]
          cases stepped : step state (head :: tail) with
          | error error => rfl
          | ok result =>
              rcases result with ⟨next, rest⟩
              have shorter := shrinks stepped
              simp only [List.length_cons] at enough shorter
              simp only [ok_bind]
              rw [induction fuel (by omega) (by omega)]
              by_cases same : tail.length < fuel + 1
              · rcases Nat.lt_or_ge tail.length fuel with less | greater
                · rw [induction tail.length (by omega) (by omega)]
                · rw [show tail.length = fuel by omega,
                    induction fuel (by omega) (by omega)]
              · omega

@[simp]
theorem consume_nil (step : Step ε σ τ) (state : σ) :
    consume step state [] = .ok state :=
  rfl

/-- The loop runs one iteration, and then itself on what is left. -/
theorem consume_cons
    {step : Step ε σ τ} (shrinks : Shrinks step)
    (state : σ) (head : τ) (tail : List τ) :
    consume step state (head :: tail) =
      (step state (head :: tail)).bind fun result =>
        consume step result.1 result.2 := by
  rw [consume, List.length_cons, consumeWithin]
  cases stepped : step state (head :: tail) with
  | error error => rfl
  | ok result =>
      have shorter := shrinks stepped
      rw [List.length_cons] at shorter
      exact consumeWithin_eq_consume shrinks (Nat.le_of_lt_succ shorter)

/--
A map on accumulators that commutes with every iteration commutes with the
loop.
-/
theorem consume_map
    {step : Step ε σ τ} {transform : σ → σ}
    (commutes :
      ∀ state input,
        step (transform state) input =
          (step state input).map (Prod.map transform id))
    (state : σ) (input : List τ) :
    consume step (transform state) input =
      (consume step state input).map transform := by
  unfold consume
  generalize input.length = fuel
  induction fuel generalizing state input with
  | zero => cases input <;> rfl
  | succ fuel induction =>
      cases input with
      | nil => rfl
      | cons head tail =>
          simp only [consumeWithin, commutes]
          cases step state (head :: tail) with
          | error error => rfl
          | ok result => exact induction result.1 result.2

end RitspLtv.Foundation.Consume
