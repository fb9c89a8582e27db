import RitspLtv.Foundation.PollingRules

/-!
# How many events a task emits

A task emits events while it is polled.  `EmitsAtMost` bounds the events of
every run by a rank of the task's states that no polling exceeds; the bound of a
combined task comes from those of its parts.
-/

namespace RitspLtv.Foundation.Polling

namespace Task

variable {ε ω α β : Type}

/-- The bound that is left after polling. -/
def Poll.left {σ : Type} (rank : σ → Nat) : Poll σ α → Nat
  | .pending state => rank state
  | .ready _ => 0
  | .unwound _ => 0

theorem Poll.left_mapPoll
    {transform : α → β} {σ : Type} {rank : σ → Nat} {outcome : Poll σ α} :
    Poll.left rank (mapPoll transform outcome) = Poll.left rank outcome := by
  cases outcome <;> rfl

theorem Poll.left_timeoutPoll_le
    {elapsed : ω → Bool} {task : Task ε ω α} {rank : task.State → Nat}
    {wake : ω} {state : task.State} :
    Poll.left rank (timeoutPoll elapsed task wake state) ≤
      Poll.left rank (task.poll wake state) := by
  rw [timeoutPoll]
  cases task.poll wake state with
  | ready value => exact Nat.le_refl _
  | unwound message => exact Nat.le_refl _
  | pending later =>
      simp only
      split
      · exact Nat.zero_le _
      · exact Nat.le_refl _

/-- A bound on the events of every run: no polling spends more than it uses up. -/
def EmitsAtMost (bound : Nat) (task : Task ε ω α) : Prop :=
  ∃ rank : task.State → Nat,
    rank task.initial ≤ bound ∧
      ∀ wake state,
        (task.emits wake state).length +
            Poll.left rank (task.poll wake state) ≤ rank state

theorem length_log_le
    {task : Task ε ω α} {bound : Nat} {wakes : List ω}
    (atMost : EmitsAtMost bound task) :
    (task.log wakes).length ≤ bound := by
  rcases atMost with ⟨rank, initial, spends⟩
  have fromState :
      ∀ state, (task.logFrom state wakes).length ≤ rank state := by
    induction wakes with
    | nil =>
        intro state
        exact Nat.zero_le _
    | cons wake wakes induction =>
        intro state
        have once := spends wake state
        rw [logFrom, List.length_append]
        cases polled : task.poll wake state with
        | pending later =>
            rw [polled] at once
            exact
              Nat.le_trans (Nat.add_le_add_left (induction later) _) once
        | ready value =>
            rw [polled] at once
            exact once
        | unwound message =>
            rw [polled] at once
            exact once
  exact Nat.le_trans (fromState task.initial) initial

theorem EmitsAtMost.mono
    {task : Task ε ω α} {bound more : Nat}
    (atMost : EmitsAtMost bound task) (le : bound ≤ more) :
    EmitsAtMost more task := by
  rcases atMost with ⟨rank, initial, spends⟩
  exact ⟨rank, Nat.le_trans initial le, spends⟩

theorem emitsAtMost_now {value : α} :
    EmitsAtMost 0 (now value : Task ε ω α) :=
  ⟨fun _ => 0, Nat.le_refl 0, fun _ _ => Nat.le_refl 0⟩

theorem emitsAtMost_unwind {message : String} :
    EmitsAtMost 0 (unwind message : Task ε ω α) :=
  ⟨fun _ => 0, Nat.le_refl 0, fun _ _ => Nat.le_refl 0⟩

theorem emitsAtMost_emit {event : ε} :
    EmitsAtMost 1 (emit event : Task ε ω Unit) :=
  ⟨fun _ => 1, Nat.le_refl 1, fun _ _ => Nat.le_refl 1⟩

theorem emitsAtMost_arrival {arrives : ω → Option α} :
    EmitsAtMost 0 (arrival arrives : Task ε ω α) := by
  refine ⟨fun _ => 0, Nat.le_refl 0, ?_⟩
  intro wake state
  change 0 + Poll.left _ (arrivalPoll arrives wake) ≤ 0
  rw [arrivalPoll]
  cases arrives wake <;> exact Nat.le_refl 0

theorem emitsAtMost_map
    {transform : α → β} {task : Task ε ω α} {bound : Nat}
    (atMost : EmitsAtMost bound task) :
    EmitsAtMost bound (map transform task) := by
  rcases atMost with ⟨rank, initial, spends⟩
  refine ⟨rank, initial, ?_⟩
  intro wake state
  calc
    (task.emits wake state).length +
          Poll.left rank (mapPoll transform (task.poll wake state))
      = (task.emits wake state).length +
          Poll.left rank (task.poll wake state) :=
        congrArg _ Poll.left_mapPoll
    _ ≤ rank state := spends wake state

theorem emitsAtMost_timeout
    {elapsed : ω → Bool} {task : Task ε ω α} {bound : Nat}
    (atMost : EmitsAtMost bound task) :
    EmitsAtMost bound (timeout elapsed task) := by
  rcases atMost with ⟨rank, initial, spends⟩
  refine ⟨rank, initial, ?_⟩
  intro wake state
  calc
    (task.emits wake state).length +
          Poll.left rank (timeoutPoll elapsed task wake state)
      ≤ (task.emits wake state).length +
          Poll.left rank (task.poll wake state) :=
        Nat.add_le_add_left Poll.left_timeoutPoll_le _
    _ ≤ rank state := spends wake state

theorem emitsAtMost_andThen
    {first : Task ε ω α} {next : α → Task ε ω β} {bound more : Nat}
    (atMostFirst : EmitsAtMost bound first)
    (atMostNext : ∀ value, EmitsAtMost more (next value)) :
    EmitsAtMost (bound + more) (andThen first next) := by
  rcases atMostFirst with ⟨rankFirst, initialFirst, spendsFirst⟩
  choose rankNext initialNext spendsNext using atMostNext
  let rank : AndThenState first next → Nat
    | .inl state => rankFirst state + more
    | .inr state => rankNext state.1 state.2
  have second :
      ∀ wake value state,
        ((next value).emits wake state).length +
            Poll.left rank (pollSecond first next wake value state) ≤
          rankNext value state := by
    intro wake value state
    have once := spendsNext value wake state
    rw [pollSecond]
    cases polled : (next value).poll wake state with
    | pending later =>
        rw [polled] at once
        exact once
    | ready result =>
        rw [polled] at once
        exact once
    | unwound message =>
        rw [polled] at once
        exact once
  refine ⟨rank, Nat.add_le_add_right initialFirst more, ?_⟩
  intro wake state
  cases state with
  | inr state => exact second wake state.1 state.2
  | inl state =>
      have once := spendsFirst wake state
      change
        (andThenEmits first next wake (.inl state)).length +
            Poll.left rank (andThenPoll first next wake (.inl state)) ≤
          rankFirst state + more
      rw [andThenEmits, andThenPoll, List.length_append]
      cases polled : first.poll wake state with
      | pending later =>
          rw [polled, Poll.left] at once
          change
            (first.emits wake state).length + 0 + (rankFirst later + more) ≤ _
          omega
      | unwound message =>
          rw [polled, Poll.left] at once
          exact Nat.le_add_right_of_le once
      | ready value =>
          rw [polled, Poll.left] at once
          have following :=
            Nat.le_trans (second wake value (next value).initial)
              (initialNext value)
          simp only
          omega

/-- The bound of a task that is being collected. -/
def Progress.rank {task : Task ε ω α} (rank : task.State → Nat) :
    Progress task → Nat
  | .running state => rank state
  | .completed _ => 0

@[simp]
theorem Progress.rank_completed
    {task : Task ε ω α} {rank : task.State → Nat} {value : α} :
    (completed value : Progress task).rank rank = 0 :=
  rfl

theorem Progress.spends
    {task : Task ε ω α} {rank : task.State → Nat}
    (spends :
      ∀ wake state,
        (task.emits wake state).length +
            Poll.left rank (task.poll wake state) ≤ rank state)
    (wake : ω) (progress : Progress task) :
    (progress.emits wake).length +
        Poll.left (Progress.rank rank) (progress.poll wake) ≤
      progress.rank rank := by
  cases progress with
  | completed value => exact Nat.le_refl 0
  | running state =>
      have once := spends wake state
      rw [Progress.emits, Progress.poll, Progress.rank]
      cases polled : task.poll wake state with
      | pending later =>
          rw [polled] at once
          exact once
      | ready value =>
          rw [polled] at once
          exact once
      | unwound message =>
          rw [polled] at once
          exact once

theorem emitsAtMost_collect
    {deadline : ω → Bool} {left : Task ε ω α} {right : Task ε ω β}
    {bound more : Nat}
    (atMostLeft : EmitsAtMost bound left)
    (atMostRight : EmitsAtMost more right) :
    EmitsAtMost (bound + more) (collect deadline left right) := by
  rcases atMostLeft with ⟨rankLeft, initialLeft, spendsLeft⟩
  rcases atMostRight with ⟨rankRight, initialRight, spendsRight⟩
  let rank : CollectState left right → Nat := fun state =>
    state.1.rank rankLeft + state.2.rank rankRight
  refine ⟨rank, Nat.add_le_add initialLeft initialRight, ?_⟩
  intro wake state
  rcases state with ⟨l, r⟩
  change
    (collectLoopEmits left right wake (l.count + r.count) l r).length +
        Poll.left rank
          (collectLoop deadline left right wake (l.count + r.count) l r) ≤
      l.rank rankLeft + r.rank rankRight
  generalize l.count + r.count = count
  induction count generalizing l r with
  | zero => exact Nat.zero_le _
  | succ count induction =>
      have onceLeft := Progress.spends spendsLeft wake l
      have onceRight := Progress.spends spendsRight wake r
      rw [collectLoop, collectLoopEmits, List.length_append]
      cases polledLeft : l.poll wake with
      | unwound message =>
          rw [polledLeft] at onceLeft
          exact Nat.le_add_right_of_le onceLeft
      | ready value =>
          rw [polledLeft, Poll.left] at onceLeft
          have following := induction (.completed value) r
          rw [Progress.rank_completed] at following
          simp only
          omega
      | pending l =>
          rw [polledLeft, Poll.left] at onceLeft
          simp only [List.length_append]
          cases polledRight : r.poll wake with
          | unwound message =>
              rw [polledRight, Poll.left] at onceRight
              simp only [List.length_nil, Poll.left]
              omega
          | ready value =>
              rw [polledRight, Poll.left] at onceRight
              have following := induction l (.completed value)
              rw [Progress.rank_completed] at following
              simp only
              omega
          | pending r =>
              rw [polledRight, Poll.left] at onceRight
              have pendingRank :
                  Poll.left rank
                      (.pending (l, r) : Poll _ (Option α × Option β)) =
                    l.rank rankLeft + r.rank rankRight :=
                rfl
              simp only [List.length_nil]
              split
              · rw [Poll.left]
                omega
              · omega

end Task

end RitspLtv.Foundation.Polling
