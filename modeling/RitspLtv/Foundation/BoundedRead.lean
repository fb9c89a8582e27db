import RitspLtv.Foundation.Checks

/-!
# Reading a stream up to a cap

A body arrives in chunks of any size and may break off.  A reader appends chunk
after chunk to what it holds and gives up at the first that would take it past
its cap.  What it returns depends on the octets and on how they end, and not on
how they were cut into chunks; and it never holds more than its cap.
-/

namespace RitspLtv.Foundation.BoundedRead

open RitspLtv.Foundation.Checks

variable {ε τ : Type}

/-- Append chunks to what is held, until one is refused or there are no more. -/
def readChunks (refuses : Nat → Nat → Bool) (tooLarge : ε)
    (ended : Except ε Unit) : List τ → List (List τ) → Except ε (List τ)
  | held, [] => ended.map fun _ => held
  | held, chunk :: chunks =>
      if refuses held.length chunk.length then .error tooLarge
      else readChunks refuses tooLarge ended (held ++ chunk) chunks

/-- What is held after some of the chunks. -/
def Holds (refuses : Nat → Nat → Bool) (chunks : List (List τ))
    (buffer : List τ) : Prop :=
  ∃ former latter,
    chunks = former ++ latter ∧
      readChunks refuses () (.ok ()) [] former = .ok buffer

/-- A chunk is refused when it is larger than what is left of the cap. -/
def overRemaining (cap held incoming : Nat) : Bool :=
  decide (incoming > cap - held)

/-- A chunk is refused when it takes the total past the cap. -/
def overTotal (cap held incoming : Nat) : Bool :=
  decide (held + incoming > cap)

/-- Below the cap, a chunk is refused exactly when it does not fit any more. -/
def Caps (cap : Nat) (refuses : Nat → Nat → Bool) : Prop :=
  ∀ held incoming, held ≤ cap →
    (refuses held incoming = true ↔ cap < held + incoming)

theorem caps_overRemaining (cap : Nat) : Caps cap (overRemaining cap) := by
  intro held incoming below
  rw [overRemaining, decide_eq_true_iff]
  omega

theorem caps_overTotal (cap : Nat) : Caps cap (overTotal cap) := by
  intro held incoming below
  rw [overTotal, decide_eq_true_iff]

section Reading

variable {cap : Nat} {refuses : Nat → Nat → Bool} {tooLarge : ε}
variable {ended : Except ε Unit} {held : List τ} {chunks : List (List τ)}

/-- The outcome, from all the octets and how they end. -/
theorem readChunks_eq
    (caps : Caps cap refuses) (below : held.length ≤ cap) :
    readChunks refuses tooLarge ended held chunks =
      if (held ++ chunks.flatten).length ≤ cap then
        ended.map fun _ => held ++ chunks.flatten
      else .error tooLarge := by
  induction chunks generalizing held with
  | nil =>
      rw [readChunks, List.flatten_nil, List.append_nil, if_pos below]
  | cons chunk chunks induction =>
      rw [readChunks, List.flatten_cons, ← List.append_assoc]
      by_cases refused : refuses held.length chunk.length = true
      · have exceeds := (caps _ _ below).mp refused
        rw [if_pos refused, if_neg]
        rw [List.length_append, List.length_append]
        omega
      · have fits := mt (caps _ _ below).mpr refused
        rw [if_neg refused, induction]
        rw [List.length_append]
        omega

/-- Everything is read, or there is too much, or it breaks off. -/
theorem readChunks_eq_ok_iff
    {whole : List τ} (caps : Caps cap refuses) (below : held.length ≤ cap) :
    readChunks refuses tooLarge ended held chunks = .ok whole ↔
      ended = .ok () ∧ whole = held ++ chunks.flatten ∧
        whole.length ≤ cap := by
  rw [readChunks_eq caps below]
  constructor
  · intro read
    split at read
    · next fits =>
        rcases map_eq_ok_iff.mp read with ⟨done, finished, rfl⟩
        exact ⟨finished, rfl, fits⟩
    · cases read
  · rintro ⟨rfl, rfl, fits⟩
    rw [if_pos fits]
    rfl

/-- How the octets are cut into chunks makes no difference. -/
theorem readChunks_congr
    {others : List (List τ)} (caps : Caps cap refuses)
    (below : held.length ≤ cap)
    (same : chunks.flatten = others.flatten) :
    readChunks refuses tooLarge ended held chunks =
      readChunks refuses tooLarge ended held others := by
  rw [readChunks_eq caps below, readChunks_eq caps below, same]

/-- What is held never exceeds the cap, and always is a part of what arrives. -/
theorem buffer_bounded
    {buffer : List τ} (caps : Caps cap refuses)
    (holds : Holds refuses chunks buffer) :
    buffer.length ≤ cap ∧ buffer <+: chunks.flatten := by
  rcases holds with ⟨former, latter, rfl, read⟩
  have empty : ([] : List τ).length ≤ cap := Nat.zero_le cap
  rcases (readChunks_eq_ok_iff caps empty).mp read with ⟨_, rfl, short⟩
  refine ⟨short, ?_⟩
  rw [List.nil_append, List.flatten_append]
  exact List.prefix_append _ _

end Reading

end RitspLtv.Foundation.BoundedRead
