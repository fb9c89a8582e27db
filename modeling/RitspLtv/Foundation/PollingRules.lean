import RitspLtv.Foundation.Polling

/-!
# Runs of combined tasks

The rules by which a run of a combined task is reduced to runs of its parts:

* `result?_map_eq_some`, `result?_andThen_eq_some` and
  `result?_timeout_eq_some` read a completed run backwards;
* `collect_left_iff` and `collect_right_iff` say that what `collect` keeps of a
  task is exactly what the task completes with before the deadline, whatever
  the other one does; and
* the `unwinds_*_iff` rules say exactly when a combined task unwinds: when the
  part that it is running does, at a wake at which it still runs it.
-/

namespace RitspLtv.Foundation.Polling

namespace Task

variable {ε ω α β : Type}

/-! ## Completed runs -/

/-- A run that completes has the same result over more wakes. -/
theorem result?_mono
    {task : Task ε ω α} {wakes more : List ω} {value : α}
    (isPrefix : wakes <+: more)
    (completed : task.result? wakes = some value) :
    task.result? more = some value := by
  rcases isPrefix with ⟨after, rfl⟩
  rw [result?_eq_some_iff] at completed ⊢
  exact runFrom_append_of_ready completed

theorem result?_now_eq_some
    {value result : α} {wakes : List ω}
    (completed : (now value : Task ε ω α).result? wakes = some result) :
    result = value := by
  cases wakes with
  | nil => cases completed
  | cons wake wakes =>
      cases completed
      rfl

theorem result?_unwind_eq_none
    {message : String} {wakes : List ω} :
    (unwind message : Task ε ω α).result? wakes = none := by
  cases wakes <;> rfl

theorem poll_arrival_eq_ready
    {arrives : ω → Option α} {wake : ω} {value : α}
    {state : (arrival arrives : Task ε ω α).State}
    (ready :
      (arrival arrives : Task ε ω α).poll wake state = .ready value) :
    arrives wake = some value := by
  change arrivalPoll arrives wake = _ at ready
  rw [arrivalPoll] at ready
  split at ready
  · next present =>
      cases ready
      exact present
  · cases ready

/-! ### `map` -/

theorem runFrom_map
    {transform : α → β} {task : Task ε ω α} {state : task.State}
    {wakes : List ω} {result : β}
    (completed :
      (map transform task).runFrom state wakes = .ready result) :
    ∃ value,
      task.runFrom state wakes = .ready value ∧
        transform value = result := by
  induction wakes generalizing state with
  | nil => cases completed
  | cons wake wakes induction =>
      rcases runFrom_cons_eq_ready_iff.1 completed with
        ready | ⟨next, pending, completed⟩
      · rcases mapPoll_eq_ready ready with ⟨value, polled, same⟩
        exact ⟨value, runFrom_cons_eq_ready_iff.2 (.inl polled), same⟩
      · have polled := mapPoll_eq_pending pending
        rcases induction completed with ⟨value, later, same⟩
        exact ⟨value, (runFrom_cons_of_pending polled).trans later, same⟩

theorem result?_map_eq_some
    {transform : α → β} {task : Task ε ω α} {wakes : List ω} {result : β}
    (completed : (map transform task).result? wakes = some result) :
    ∃ value, task.result? wakes = some value ∧ transform value = result := by
  rcases runFrom_map (result?_eq_some_iff.1 completed) with
    ⟨value, ready, same⟩
  exact ⟨value, result?_eq_some_iff.2 ready, same⟩

/-- A mapped task is pending no longer than the task. -/
theorem run_map_eq_pending
    {transform : α → β} {task : Task ε ω α} {state last : task.State}
    {wakes : List ω}
    (pending :
      (map transform task).runFrom state wakes = .pending last) :
    task.runFrom state wakes = .pending last := by
  induction wakes generalizing state with
  | nil =>
      cases pending
      rfl
  | cons wake wakes induction =>
      rcases runFrom_cons_eq_pending_iff.1 pending with
        ⟨next, polled, pending⟩
      exact
        (runFrom_cons_of_pending (mapPoll_eq_pending polled)).trans
          (induction pending)

/-! ### `andThen` -/

section AndThen

variable {first : Task ε ω α} {next : α → Task ε ω β}

/-- Once the first task is ready, only the second one is polled. -/
theorem runFrom_andThen_second
    {value : α} {state : (next value).State} {wakes : List ω} {result : β}
    (completed :
      (andThen first next).runFrom (.inr ⟨value, state⟩) wakes =
        .ready result) :
    (next value).runFrom state wakes = .ready result := by
  induction wakes generalizing state with
  | nil => cases completed
  | cons wake wakes induction =>
      rw [runFrom_cons_eq_ready_iff]
      rcases runFrom_cons_eq_ready_iff.1 completed with
        ready | ⟨later, pending, completed⟩
      · exact .inl (pollSecond_eq_ready ready)
      · rcases pollSecond_eq_pending pending with ⟨after, rfl, polled⟩
        exact .inr ⟨after, polled, induction completed⟩

theorem runFrom_andThen_first
    {state : first.State} {wakes : List ω} {result : β}
    (completed :
      (andThen first next).runFrom (.inl state) wakes = .ready result) :
    ∃ before wake after last value,
      wakes = before ++ wake :: after ∧
        first.runFrom state before = .pending last ∧
        first.poll wake last = .ready value ∧
        (next value).run (wake :: after) = .ready result := by
  induction wakes generalizing state with
  | nil => cases completed
  | cons wake wakes induction =>
      rcases runFrom_cons_eq_ready_iff.1 completed with
        ready | ⟨later, pending, completed⟩
      · rcases andThenPoll_first_eq_ready ready with ⟨value, polled, second⟩
        exact
          ⟨[], wake, wakes, state, value, rfl, rfl, polled,
            runFrom_cons_eq_ready_iff.2 (.inl second)⟩
      · rcases andThenPoll_first_eq_pending pending with
          ⟨after, rfl, polled⟩ | ⟨value, after, rfl, polled, second⟩
        · rcases induction completed with
            ⟨before, next, rest, last, value, rfl, waits, ready, second⟩
          have longer := (runFrom_cons_of_pending polled).trans waits
          exact
            ⟨wake :: before, next, rest, last, value, rfl, longer, ready,
              second⟩
        · -- the second task is polled at the wake that made the first ready
          have later := runFrom_andThen_second completed
          exact
            ⟨[], wake, wakes, state, value, rfl, rfl, polled,
              (runFrom_cons_of_pending second).trans later⟩

/-- The second task runs from the wake at which the first completes. -/
theorem result?_andThen_eq_some
    {wakes : List ω} {result : β}
    (completed : (andThen first next).result? wakes = some result) :
    ∃ before wake after last value,
      wakes = before ++ wake :: after ∧
        first.run before = .pending last ∧
        first.poll wake last = .ready value ∧
        (next value).result? (wake :: after) = some result := by
  rw [result?_eq_some_iff] at completed
  rcases runFrom_andThen_first completed with
    ⟨before, wake, after, last, value, split, waits, ready, second⟩
  exact
    ⟨before, wake, after, last, value, split, waits, ready,
      result?_eq_some_iff.2 second⟩

end AndThen

/-! ### `timeout` -/

theorem runFrom_timeout
    {elapsed : ω → Bool} {task : Task ε ω α} {state : task.State}
    {wakes : List ω} {value : α}
    (completed :
      (timeout elapsed task).runFrom state wakes = .ready (some value)) :
    task.runFrom state wakes = .ready value := by
  induction wakes generalizing state with
  | nil => cases completed
  | cons wake wakes induction =>
      rw [runFrom_cons_eq_ready_iff]
      rcases runFrom_cons_eq_ready_iff.1 completed with
        ready | ⟨later, pending, completed⟩
      · exact .inl (timeoutPoll_eq_ready ready)
      · exact
          .inr ⟨later, (timeoutPoll_eq_pending pending).1, induction completed⟩

/-- What a task completes with before its timer is what it completes with. -/
theorem result?_timeout_eq_some
    {elapsed : ω → Bool} {task : Task ε ω α} {wakes : List ω} {value : α}
    (completed :
      (timeout elapsed task).result? wakes = some (some value)) :
    task.result? wakes = some value := by
  rw [result?_eq_some_iff] at completed ⊢
  exact runFrom_timeout completed

/-! ## Unwinding -/

section Unwinding

variable {task : Task ε ω α} {state : task.State}
variable {wake : ω} {wakes : List ω}

/-- The task, in a state, unwinds at one of the wakes. -/
def UnwindsFrom (task : Task ε ω α) (state : task.State)
    (wakes : List ω) : Prop :=
  ∃ message, task.runFrom state wakes = .unwound message

/-- The task unwinds at one of the wakes. -/
def Unwinds (task : Task ε ω α) (wakes : List ω) : Prop :=
  task.UnwindsFrom task.initial wakes

theorem not_unwindsFrom_nil : ¬ task.UnwindsFrom state [] := by
  rintro ⟨message, impossible⟩
  cases impossible

theorem unwindsFrom_of_pending
    {next : task.State}
    (polled : task.poll wake state = .pending next) :
    task.UnwindsFrom state (wake :: wakes) ↔ task.UnwindsFrom next wakes := by
  rw [UnwindsFrom, runFrom_cons_of_pending polled, UnwindsFrom]

theorem not_unwindsFrom_of_ready
    {value : α} (polled : task.poll wake state = .ready value) :
    ¬ task.UnwindsFrom state (wake :: wakes) := by
  rintro ⟨message, unwound⟩
  rw [runFrom, polled] at unwound
  cases unwound

theorem unwindsFrom_of_unwound
    {message : String}
    (polled : task.poll wake state = .unwound message) :
    task.UnwindsFrom state (wake :: wakes) := by
  refine ⟨message, ?_⟩
  rw [runFrom, polled]

/-- Only what the first polling finds matters of a state. -/
theorem unwindsFrom_congr
    {other : task.State}
    (same : task.poll wake state = task.poll wake other) :
    task.UnwindsFrom state (wake :: wakes) ↔
      task.UnwindsFrom other (wake :: wakes) := by
  simp only [UnwindsFrom, runFrom, same]

/-- Behind wakes at which it is pending, a task unwinds as from there on. -/
theorem unwindsFrom_append
    {next : task.State} {before after : List ω}
    (pending : task.runFrom state before = .pending next) :
    task.UnwindsFrom state (before ++ after) ↔
      task.UnwindsFrom next after := by
  rw [UnwindsFrom, runFrom_append pending, UnwindsFrom]

/-- A run that has unwound stays as it is. -/
theorem UnwindsFrom.append
    (unwinds : task.UnwindsFrom state wakes) (after : List ω) :
    task.UnwindsFrom state (wakes ++ after) := by
  induction wakes generalizing state with
  | nil => exact absurd unwinds not_unwindsFrom_nil
  | cons wake wakes induction =>
      rw [List.cons_append]
      cases polled : task.poll wake state with
      | pending next =>
          rw [unwindsFrom_of_pending polled] at unwinds ⊢
          exact induction unwinds
      | ready value => exact absurd unwinds (not_unwindsFrom_of_ready polled)
      | unwound message => exact unwindsFrom_of_unwound polled

theorem not_unwinds_of_result?
    {value : α} (completed : task.result? wakes = some value) :
    ¬ task.Unwinds wakes := by
  rw [result?_eq_some_iff] at completed
  rintro ⟨message, unwound⟩
  cases unwound.symm.trans completed

/-- A run that is over has a result, or has unwound. -/
theorem not_pending_iff :
    (∀ last, task.run wakes ≠ .pending last) ↔
      (∃ value, task.result? wakes = some value) ∨ task.Unwinds wakes := by
  have unwinds :
      task.Unwinds wakes ↔ ∃ message, task.run wakes = .unwound message :=
    Iff.rfl
  simp only [result?_eq_some_iff, unwinds]
  cases task.run wakes <;> simp

theorem not_unwinds_now {value : α} :
    ¬ (now value : Task ε ω α).Unwinds wakes := by
  cases wakes with
  | nil => exact not_unwindsFrom_nil
  | cons wake wakes => exact not_unwindsFrom_of_ready rfl

theorem unwinds_unwind_iff {message : String} :
    (unwind message : Task ε ω α).Unwinds wakes ↔ wakes ≠ [] := by
  cases wakes with
  | nil => exact iff_of_false not_unwindsFrom_nil (by simp)
  | cons wake wakes =>
      exact
        iff_of_true
          (@unwindsFrom_of_unwound _ _ _ (unwind message : Task ε ω α) () wake
            wakes message rfl)
          (by simp)

/-! ### `map` -/

theorem unwinds_map_iff {transform : α → β} :
    (map transform task).Unwinds wakes ↔ task.Unwinds wakes := by
  rw [Unwinds, Unwinds]
  change
    (map transform task).UnwindsFrom task.initial wakes ↔
      task.UnwindsFrom task.initial wakes
  generalize task.initial = state
  induction wakes generalizing state with
  | nil => exact iff_of_false not_unwindsFrom_nil not_unwindsFrom_nil
  | cons wake wakes induction =>
      have wraps :
          (map transform task).poll wake state =
            mapPoll transform (task.poll wake state) :=
        rfl
      cases polled : task.poll wake state with
      | pending next =>
          rw [polled] at wraps
          rw [unwindsFrom_of_pending polled, unwindsFrom_of_pending wraps]
          exact induction next
      | ready value =>
          rw [polled] at wraps
          exact
            iff_of_false (not_unwindsFrom_of_ready wraps)
              (not_unwindsFrom_of_ready polled)
      | unwound message =>
          rw [polled] at wraps
          exact
            iff_of_true (unwindsFrom_of_unwound wraps)
              (unwindsFrom_of_unwound polled)

/-! ### `timeout` -/

/-- The wakes up to the first at which something stops, and that one. -/
def upTo (stops : ω → Bool) : List ω → List ω
  | [] => []
  | wake :: wakes => if stops wake then [wake] else wake :: upTo stops wakes

theorem upTo_cons_of_pos
    {stops : ω → Bool} (isStop : stops wake = true) :
    upTo stops (wake :: wakes) = [wake] :=
  if_pos isStop

theorem upTo_cons_of_neg
    {stops : ω → Bool} (notStop : stops wake = false) :
    upTo stops (wake :: wakes) = wake :: upTo stops wakes := by
  rw [upTo, notStop]
  exact if_neg Bool.false_ne_true

/-- The first wake is among them. -/
theorem exists_upTo_cons (stops : ω → Bool) (wake : ω) (wakes : List ω) :
    ∃ rest, upTo stops (wake :: wakes) = wake :: rest := by
  rw [upTo]
  split
  · exact ⟨[], rfl⟩
  · exact ⟨upTo stops wakes, rfl⟩

/-- A task with a timer unwinds until the timer has elapsed, or not at all. -/
theorem unwinds_timeout_iff {elapsed : ω → Bool} :
    (timeout elapsed task).Unwinds wakes ↔
      task.Unwinds (upTo elapsed wakes) := by
  rw [Unwinds, Unwinds]
  change
    (timeout elapsed task).UnwindsFrom task.initial wakes ↔
      task.UnwindsFrom task.initial (upTo elapsed wakes)
  generalize task.initial = state
  induction wakes generalizing state with
  | nil => exact iff_of_false not_unwindsFrom_nil not_unwindsFrom_nil
  | cons wake wakes induction =>
      have wraps :
          (timeout elapsed task).poll wake state =
            timeoutPoll elapsed task wake state :=
        rfl
      rw [timeoutPoll] at wraps
      rcases exists_upTo_cons elapsed wake wakes with ⟨rest, isRest⟩
      cases polled : task.poll wake state with
      | pending next =>
          rw [polled] at wraps
          by_cases hasElapsed : elapsed wake = true
          · simp only [if_pos hasElapsed] at wraps
            rw [upTo_cons_of_pos hasElapsed, unwindsFrom_of_pending polled]
            exact
              iff_of_false (not_unwindsFrom_of_ready wraps) not_unwindsFrom_nil
          · simp only [if_neg hasElapsed] at wraps
            rw [upTo_cons_of_neg (Bool.eq_false_iff.mpr hasElapsed),
              unwindsFrom_of_pending polled, unwindsFrom_of_pending wraps]
            exact induction next
      | ready value =>
          rw [polled] at wraps
          rw [isRest]
          exact
            iff_of_false (not_unwindsFrom_of_ready wraps)
              (not_unwindsFrom_of_ready polled)
      | unwound message =>
          rw [polled] at wraps
          rw [isRest]
          exact
            iff_of_true (unwindsFrom_of_unwound wraps)
              (unwindsFrom_of_unwound polled)

/-! ### `andThen` -/

/-- What a task completes with, and the wakes from there on. -/
def completionFrom (task : Task ε ω α) :
    task.State → List ω → Option (α × List ω)
  | _, [] => none
  | state, wake :: wakes =>
      match task.poll wake state with
      | .pending next => task.completionFrom next wakes
      | .ready value => some (value, wake :: wakes)
      | .unwound _ => none

def completion (task : Task ε ω α) (wakes : List ω) :
    Option (α × List ω) :=
  task.completionFrom task.initial wakes

/-- What arrives first, and the wakes from the one on at which it does. -/
def firstArrival (arrives : ω → Option α) : List ω → Option (α × List ω)
  | [] => none
  | wake :: wakes =>
      match arrives wake with
      | some value => some (value, wake :: wakes)
      | none => firstArrival arrives wakes

theorem firstArrival_ne_nil
    {arrives : ω → Option α} {value : α} {rest : List ω}
    (first : firstArrival arrives wakes = some (value, rest)) :
    rest ≠ [] := by
  induction wakes with
  | nil => cases first
  | cons wake wakes induction =>
      rw [firstArrival] at first
      split at first
      · cases first
        exact List.cons_ne_nil wake wakes
      · exact induction first

theorem completion_arrival (arrives : ω → Option α) (wakes : List ω) :
    (arrival arrives : Task ε ω α).completion wakes =
      firstArrival arrives wakes := by
  rw [completion]
  generalize (arrival arrives : Task ε ω α).initial = state
  induction wakes generalizing state with
  | nil => rfl
  | cons wake wakes induction =>
      have wraps :
          (arrival arrives : Task ε ω α).poll wake state =
            arrivalPoll arrives wake :=
        rfl
      rw [completionFrom, wraps, arrivalPoll, firstArrival]
      cases arrives wake with
      | none => exact induction ()
      | some value => rfl

theorem not_unwinds_arrival {arrives : ω → Option α} :
    ¬ (arrival arrives : Task ε ω α).Unwinds wakes := by
  rw [Unwinds]
  generalize (arrival arrives : Task ε ω α).initial = state
  induction wakes generalizing state with
  | nil => exact not_unwindsFrom_nil
  | cons wake wakes induction =>
      have wraps :
          (arrival arrives : Task ε ω α).poll wake state =
            arrivalPoll arrives wake :=
        rfl
      rw [arrivalPoll] at wraps
      split at wraps
      · exact not_unwindsFrom_of_ready wraps
      · rw [unwindsFrom_of_pending wraps]
        exact induction ()

section AndThen

variable {first : Task ε ω α} {next : α → Task ε ω β}

theorem unwindsFrom_andThen_second_iff
    {value : α} {state : (next value).State} :
    (andThen first next).UnwindsFrom (.inr ⟨value, state⟩) wakes ↔
      (next value).UnwindsFrom state wakes := by
  induction wakes generalizing state with
  | nil => exact iff_of_false not_unwindsFrom_nil not_unwindsFrom_nil
  | cons wake wakes induction =>
      have wraps :
          (andThen first next).poll wake (.inr ⟨value, state⟩) =
            pollSecond first next wake value state :=
        rfl
      rw [pollSecond] at wraps
      cases polled : (next value).poll wake state with
      | pending later =>
          rw [polled] at wraps
          rw [unwindsFrom_of_pending polled, unwindsFrom_of_pending wraps]
          exact induction
      | ready result =>
          rw [polled] at wraps
          exact
            iff_of_false (not_unwindsFrom_of_ready wraps)
              (not_unwindsFrom_of_ready polled)
      | unwound message =>
          rw [polled] at wraps
          exact
            iff_of_true (unwindsFrom_of_unwound wraps)
              (unwindsFrom_of_unwound polled)

/-- The first task unwinds, or the second one does from where it completes. -/
theorem unwinds_andThen_iff :
    (andThen first next).Unwinds wakes ↔
      first.Unwinds wakes ∨
        ∃ value rest,
          first.completion wakes = some (value, rest) ∧
            (next value).Unwinds rest := by
  rw [Unwinds, Unwinds, completion]
  change
    (andThen first next).UnwindsFrom (.inl first.initial) wakes ↔ _
  generalize first.initial = state
  induction wakes generalizing state with
  | nil =>
      refine iff_of_false not_unwindsFrom_nil ?_
      rintro (impossible | ⟨value, rest, impossible, _⟩)
      · exact not_unwindsFrom_nil impossible
      · cases impossible
  | cons wake wakes induction =>
      have wraps :
          (andThen first next).poll wake (.inl state) =
            andThenPoll first next wake (.inl state) :=
        rfl
      rw [andThenPoll] at wraps
      rw [completionFrom]
      cases polled : first.poll wake state with
      | pending later =>
          rw [polled] at wraps
          rw [unwindsFrom_of_pending polled, unwindsFrom_of_pending wraps]
          exact induction later
      | ready value =>
          rw [polled] at wraps
          -- the second task is polled at the wake that made the first ready
          have same :
              (andThen first next).poll wake (.inl state) =
                (andThen first next).poll wake
                  (.inr ⟨value, (next value).initial⟩) :=
            wraps
          rw [unwindsFrom_congr same, unwindsFrom_andThen_second_iff,
            or_iff_right (not_unwindsFrom_of_ready polled)]
          constructor
          · intro unwinds
            exact ⟨value, wake :: wakes, rfl, unwinds⟩
          · rintro ⟨_, _, completed, unwinds⟩
            cases completed
            exact unwinds
      | unwound message =>
          rw [polled] at wraps
          exact
            iff_of_true (unwindsFrom_of_unwound wraps)
              (.inl (unwindsFrom_of_unwound polled))

/-- Behind an event, a task unwinds as it does alone. -/
theorem unwinds_andThen_emit_iff
    {event : ε} {next : Unit → Task ε ω β} :
    (andThen (emit event) next).Unwinds wakes ↔ (next ()).Unwinds wakes := by
  have quiet : ¬ (emit event : Task ε ω Unit).Unwinds wakes := by
    cases wakes with
    | nil => exact not_unwindsFrom_nil
    | cons wake wakes => exact not_unwindsFrom_of_ready rfl
  rw [unwinds_andThen_iff, or_iff_right quiet]
  cases wakes with
  | nil =>
      refine iff_of_false ?_ not_unwindsFrom_nil
      rintro ⟨_, _, impossible, _⟩
      cases impossible
  | cons wake wakes =>
      constructor
      · rintro ⟨_, _, completed, unwinds⟩
        cases completed
        exact unwinds
      · intro unwinds
        exact ⟨(), wake :: wakes, rfl, unwinds⟩

/-- Behind an arrival, the task that is run on what has arrived unwinds. -/
theorem unwinds_andThen_arrival_iff {arrives : ω → Option α} :
    (andThen (arrival arrives) next).Unwinds wakes ↔
      ∃ value rest,
        firstArrival arrives wakes = some (value, rest) ∧
          (next value).Unwinds rest := by
  rw [unwinds_andThen_iff, or_iff_right not_unwinds_arrival,
    completion_arrival]

end AndThen

end Unwinding

/-! ## Collecting -/

section Collect

variable {deadline : ω → Bool} {left : Task ε ω α} {right : Task ε ω β}

/-- How far a task is after it has been polled at some wakes. -/
def Progress.After {task : Task ε ω α} (wakes : List ω) :
    Progress task → Prop
  | .running state => task.run wakes = .pending state
  | .completed value => task.run wakes = .ready value

namespace Progress

variable {task : Task ε ω α} {progress next : Progress task}
variable {wakes : List ω} {wake : ω}

theorem value?_of_after (after : progress.After wakes) :
    progress.value? = task.result? wakes := by
  rw [result?]
  cases progress with
  | running state =>
      rw [show task.run wakes = .pending state from after]
      rfl
  | completed value =>
      rw [show task.run wakes = .ready value from after]
      rfl

theorem after_completed
    {value : α} {before : List ω} {wake : ω}
    (after : (completed value : Progress task).After before) :
    (completed value : Progress task).After (before ++ [wake]) :=
  runFrom_append_of_ready after

/-- Nothing has been polled initially. -/
theorem after_initial :
    (running task.initial : Progress task).After [] :=
  rfl

/-- Polling at a wake, for the first time or again, brings a task behind that wake. -/
theorem after_of_pending
    (either : progress.After wakes ∨ progress.After (wakes ++ [wake]))
    (pending : progress.poll wake = .pending next) :
    next.After (wakes ++ [wake]) := by
  cases progress with
  | completed value =>
      cases pending
      rcases either with before | after
      · exact after_completed before
      · exact after
  | running state =>
      rw [poll] at pending
      split at pending
      · next later polled =>
          cases pending
          rcases either with before | after
          · change task.runFrom task.initial (wakes ++ [wake]) = .pending later
            rw [runFrom_append before, runFrom_cons_of_pending polled,
              runFrom_nil]
          · have again := poll_of_runFrom_concat after
            rw [again] at polled
            cases polled
            exact after
      · cases pending
      · cases pending

theorem after_of_ready
    {value : α}
    (either : progress.After wakes ∨ progress.After (wakes ++ [wake]))
    (ready : progress.poll wake = .ready value) :
    (completed value : Progress task).After (wakes ++ [wake]) := by
  cases progress with
  | completed other => cases ready
  | running state =>
      rw [poll] at ready
      split at ready
      · cases ready
      · next result polled =>
          cases ready
          rcases either with before | after
          · change task.runFrom task.initial (wakes ++ [wake]) = .ready value
            rw [runFrom_append before, runFrom_cons_eq_ready_iff]
            exact .inl polled
          · have again := poll_of_runFrom_concat after
            rw [again] at polled
            cases polled
      · cases ready

theorem unwinds_of_unwound
    {message : String}
    (either : progress.After wakes ∨ progress.After (wakes ++ [wake]))
    (unwound : progress.poll wake = .unwound message) :
    task.Unwinds (wakes ++ [wake]) := by
  cases progress with
  | completed value => cases unwound
  | running state =>
      rw [poll] at unwound
      split at unwound
      · cases unwound
      · cases unwound
      · next text polled =>
          rcases either with earlier | after
          · rw [Unwinds, unwindsFrom_append earlier]
            exact unwindsFrom_of_unwound polled
          · have again := poll_of_runFrom_concat after
            rw [again] at polled
            cases polled

/-- A task that is this far has not unwound. -/
theorem not_unwinds_of_after (after : progress.After wakes) :
    ¬ task.Unwinds wakes := by
  rintro ⟨message, unwound⟩
  cases progress with
  | running state => cases unwound.symm.trans after
  | completed value => cases unwound.symm.trans after

end Progress

/-- What the loop at one wake gives, in terms of runs of the two tasks alone. -/
def LoopOutcome (deadline : ω → Bool) (left : Task ε ω α)
    (right : Task ε ω β) (wakes : List ω) (wake : ω) :
    Poll (CollectState left right) (Option α × Option β) → Prop
  | .pending (l, r) =>
      l.After (wakes ++ [wake]) ∧ r.After (wakes ++ [wake]) ∧
        deadline wake = false
  | .ready (x, y) =>
      x = left.result? (wakes ++ [wake]) ∧
        y = right.result? (wakes ++ [wake]) ∧
        (deadline wake = true ∨ x.isSome = true ∧ y.isSome = true) ∧
        ¬ left.Unwinds (wakes ++ [wake]) ∧ ¬ right.Unwinds (wakes ++ [wake])
  | .unwound _ =>
      left.Unwinds (wakes ++ [wake]) ∨ right.Unwinds (wakes ++ [wake])

theorem loopOutcome_collectLoop
    {wakes : List ω} {wake : ω} {count : Nat}
    {l : Progress left} {r : Progress right}
    (running : count = l.count + r.count)
    (leftEither : l.After wakes ∨ l.After (wakes ++ [wake]))
    (rightEither : r.After wakes ∨ r.After (wakes ++ [wake])) :
    LoopOutcome deadline left right wakes wake
      (collectLoop deadline left right wake count l r) := by
  induction count generalizing l r with
  | zero =>
      cases l with
      | running state =>
          rw [Progress.count_running] at running
          omega
      | completed leftValue =>
          cases r with
          | running state =>
              rw [Progress.count_running] at running
              omega
          | completed rightValue =>
              have leftAfter :
                  (Progress.completed leftValue : Progress left).After
                    (wakes ++ [wake]) :=
                leftEither.elim Progress.after_completed id
              have rightAfter :
                  (Progress.completed rightValue : Progress right).After
                    (wakes ++ [wake]) :=
                rightEither.elim Progress.after_completed id
              exact
                ⟨Progress.value?_of_after leftAfter,
                  Progress.value?_of_after rightAfter, .inr ⟨rfl, rfl⟩,
                  Progress.not_unwinds_of_after leftAfter,
                  Progress.not_unwinds_of_after rightAfter⟩
  | succ count induction =>
      rw [collectLoop]
      cases polledLeft : l.poll wake with
      | unwound message =>
          exact .inl (Progress.unwinds_of_unwound leftEither polledLeft)
      | ready value =>
          have wasRunning := Progress.count_of_ready polledLeft
          apply induction
          · rw [Progress.count_completed]
            omega
          · exact .inr (Progress.after_of_ready leftEither polledLeft)
          · exact rightEither
      | pending l =>
          have leftAfter := Progress.after_of_pending leftEither polledLeft
          have sameLeft := (Progress.settled polledLeft).2.2
          simp only
          cases polledRight : r.poll wake with
          | unwound message =>
              exact .inr (Progress.unwinds_of_unwound rightEither polledRight)
          | ready value =>
              have wasRunning := Progress.count_of_ready polledRight
              apply induction
              · rw [Progress.count_completed]
                omega
              · exact .inr leftAfter
              · exact .inr (Progress.after_of_ready rightEither polledRight)
          | pending r =>
              have rightAfter :=
                Progress.after_of_pending rightEither polledRight
              simp only
              split
              · next passed =>
                  exact
                    ⟨Progress.value?_of_after leftAfter,
                      Progress.value?_of_after rightAfter, .inl passed,
                      Progress.not_unwinds_of_after leftAfter,
                      Progress.not_unwinds_of_after rightAfter⟩
              · next notPassed =>
                  exact
                    ⟨leftAfter, rightAfter, Bool.not_eq_true _ ▸ notPassed⟩

/-- The same of a poll of the collection, behind what the two tasks have done. -/
theorem loopOutcome_poll
    {wakes : List ω} {wake : ω} {l : Progress left} {r : Progress right}
    {outcome : Poll (CollectState left right) (Option α × Option β)}
    (leftAfter : l.After wakes)
    (rightAfter : r.After wakes)
    (polled : (collect deadline left right).poll wake (l, r) = outcome) :
    LoopOutcome deadline left right wakes wake outcome :=
  polled ▸
    loopOutcome_collectLoop rfl (.inl leftAfter) (.inl rightAfter)

/-- While both tasks are collected, they are as far as they are alone, in front of the deadline. -/
theorem collect_pending
    {before wakes : List ω} {l l' : Progress left} {r r' : Progress right}
    (leftAfter : l.After before)
    (rightAfter : r.After before)
    (notPassed : ∀ wake ∈ before, deadline wake = false)
    (pending :
      (collect deadline left right).runFrom (l, r) wakes =
        .pending (l', r')) :
    l'.After (before ++ wakes) ∧ r'.After (before ++ wakes) ∧
      ∀ wake ∈ before ++ wakes, deadline wake = false := by
  induction wakes generalizing before l r with
  | nil =>
      cases pending
      rw [List.append_nil]
      exact ⟨leftAfter, rightAfter, notPassed⟩
  | cons wake wakes induction =>
      rcases runFrom_cons_eq_pending_iff.1 pending with
        ⟨⟨nextLeft, nextRight⟩, polled, pending⟩
      rcases loopOutcome_poll leftAfter rightAfter polled with
        ⟨leftNext, rightNext, notNow⟩
      rw [List.append_cons]
      apply induction leftNext rightNext
      · intro earlier member
        rcases List.mem_append.mp member with before | now
        · exact notPassed earlier before
        · rw [List.mem_singleton.mp now]
          exact notNow
      · exact pending

/-- The task completes with a value, in front of the deadline or at the wake at which it passes. -/
def CompletesBefore (task : Task ε ω α) (deadline : ω → Bool)
    (wakes : List ω) (value : α) : Prop :=
  ∃ before wake,
    before ++ [wake] <+: wakes ∧
      (∀ earlier ∈ before, deadline earlier = false) ∧
      task.result? (before ++ [wake]) = some value

/-- Where collecting ends, and what it keeps. -/
theorem collect_result
    {wakes : List ω} {x : Option α} {y : Option β}
    (completed :
      (collect deadline left right).result? wakes = some (x, y)) :
    ∃ before wake,
      before ++ [wake] <+: wakes ∧
        (∀ earlier ∈ before, deadline earlier = false) ∧
        x = left.result? (before ++ [wake]) ∧
        y = right.result? (before ++ [wake]) ∧
        (deadline wake = true ∨ x.isSome = true ∧ y.isSome = true) := by
  rw [result?_eq_some_iff] at completed
  rcases exists_wake_of_runFrom completed with
    ⟨before, wake, after, ⟨l, r⟩, rfl, pending, polled⟩
  rcases
    collect_pending Progress.after_initial Progress.after_initial (by simp)
      pending with
    ⟨leftAfter, rightAfter, notPassed⟩
  rw [List.nil_append] at leftAfter rightAfter notPassed
  rcases loopOutcome_poll leftAfter rightAfter polled with
    ⟨leftResult, rightResult, ended, _⟩
  exact
    ⟨before, wake, ⟨after, by simp⟩, notPassed, leftResult, rightResult,
      ended⟩

/-- What is kept of a task is what it completes with before the deadline. -/
theorem kept_iff_completesBefore
    {task : Task ε ω α} {before wakes : List ω} {wake : ω}
    {kept : Option α}
    (isPrefix : before ++ [wake] <+: wakes)
    (notPassed : ∀ earlier ∈ before, deadline earlier = false)
    (result : kept = task.result? (before ++ [wake]))
    (ended : deadline wake = true ∨ kept.isSome = true)
    (value : α) :
    kept = some value ↔ task.CompletesBefore deadline wakes value := by
  constructor
  · intro isKept
    exact ⟨before, wake, isPrefix, notPassed, result.symm.trans isKept⟩
  · rintro ⟨early, last, earlyPrefix, earlyNotPassed, completed⟩
    rcases List.prefix_or_prefix_of_prefix earlyPrefix isPrefix with
      sooner | later
    · exact result.trans (result?_mono sooner completed)
    · cases keptIs : kept with
      | some other =>
          rw [keptIs] at result
          have same := result?_mono later result.symm
          exact same.symm.trans completed
      | none =>
          rw [keptIs] at result
          rcases List.prefix_concat_iff.mp later with sameWakes | earlier
          · rw [← sameWakes, ← result] at completed
            cases completed
          · -- the deadline that ended the collecting is in front of `last`
            have member : wake ∈ early :=
              earlier.subset (by simp)
            rw [keptIs, earlyNotPassed wake member] at ended
            simp at ended

theorem collect_left_iff
    {wakes : List ω} {x : Option α} {y : Option β}
    (completed :
      (collect deadline left right).result? wakes = some (x, y))
    (value : α) :
    x = some value ↔ left.CompletesBefore deadline wakes value := by
  rcases collect_result completed with
    ⟨before, wake, isPrefix, notPassed, leftResult, _, ended⟩
  exact
    kept_iff_completesBefore isPrefix notPassed leftResult
      (ended.imp_right And.left) value

theorem collect_right_iff
    {wakes : List ω} {x : Option α} {y : Option β}
    (completed :
      (collect deadline left right).result? wakes = some (x, y))
    (value : β) :
    y = some value ↔ right.CompletesBefore deadline wakes value := by
  rcases collect_result completed with
    ⟨before, wake, isPrefix, notPassed, _, rightResult, ended⟩
  exact
    kept_iff_completesBefore isPrefix notPassed rightResult
      (ended.imp_right And.right) value

/-- Collecting is over once the deadline has passed. -/
theorem collect_finishes
    {wakes : List ω} {wake : ω}
    (member : wake ∈ wakes)
    (passed : deadline wake = true)
    (state : (collect deadline left right).State) :
    (collect deadline left right).run wakes ≠ .pending state := by
  intro pending
  rcases state with ⟨l, r⟩
  have notPassed :=
    (collect_pending Progress.after_initial Progress.after_initial (by simp)
      pending).2.2
  rw [List.nil_append] at notPassed
  rw [notPassed wake member] at passed
  cases passed

/-- Where collecting ends, neither task unwinds up to the deadline. -/
theorem not_unwinds_of_collected
    {before wakes : List ω} {wake : ω} {kept : Option α × Option β}
    (outcome : LoopOutcome deadline left right before wake (.ready kept)) :
    ¬ (left.Unwinds (before ++ upTo deadline (wake :: wakes)) ∨
        right.Unwinds (before ++ upTo deadline (wake :: wakes))) := by
  rcases kept with ⟨x, y⟩
  rcases outcome with
    ⟨leftResult, rightResult, ended, notLeft, notRight⟩
  rcases ended with passed | ⟨leftSome, rightSome⟩
  · rw [upTo_cons_of_pos passed]
    exact not_or_intro notLeft notRight
  · rcases exists_upTo_cons deadline wake wakes with ⟨rest, isRest⟩
    rw [isRest, List.append_cons]
    rcases Option.isSome_iff_exists.mp leftSome with ⟨value, rfl⟩
    rcases Option.isSome_iff_exists.mp rightSome with ⟨other, rfl⟩
    have longer := List.prefix_append (before ++ [wake]) rest
    exact
      not_or_intro
        (not_unwinds_of_result? (result?_mono longer leftResult.symm))
        (not_unwinds_of_result? (result?_mono longer rightResult.symm))

/-- Collecting unwinds exactly when a task does, no later than the deadline. -/
theorem unwinds_collect_iff {wakes : List ω} :
    (collect deadline left right).Unwinds wakes ↔
      left.Unwinds (upTo deadline wakes) ∨
        right.Unwinds (upTo deadline wakes) := by
  have fromState :
      ∀ before l r,
        Progress.After before l → Progress.After before r →
          ((collect deadline left right).UnwindsFrom (l, r) wakes ↔
            left.Unwinds (before ++ upTo deadline wakes) ∨
              right.Unwinds (before ++ upTo deadline wakes)) := by
    induction wakes with
    | nil =>
        intro before l r leftAfter rightAfter
        rw [upTo, List.append_nil]
        refine iff_of_false not_unwindsFrom_nil ?_
        exact
          not_or_intro (Progress.not_unwinds_of_after leftAfter)
            (Progress.not_unwinds_of_after rightAfter)
    | cons wake wakes induction =>
        intro before l r leftAfter rightAfter
        rcases exists_upTo_cons deadline wake wakes with ⟨rest, isRest⟩
        cases polled :
          (collect deadline left right).poll wake (l, r) with
        | pending next =>
            rcases loopOutcome_poll leftAfter rightAfter polled with
              ⟨leftNext, rightNext, notNow⟩
            rw [unwindsFrom_of_pending polled, upTo_cons_of_neg notNow,
              List.append_cons]
            exact induction _ next.1 next.2 leftNext rightNext
        | ready kept =>
            have outcome := loopOutcome_poll leftAfter rightAfter polled
            exact
              iff_of_false (not_unwindsFrom_of_ready polled)
                (not_unwinds_of_collected outcome)
        | unwound message =>
            have outcome := loopOutcome_poll leftAfter rightAfter polled
            refine iff_of_true (unwindsFrom_of_unwound polled) ?_
            rw [isRest, List.append_cons]
            exact
              outcome.imp (fun unwinds => unwinds.append rest)
                (fun unwinds => unwinds.append rest)
  exact
    fromState [] _ _ Progress.after_initial Progress.after_initial

end Collect

end Task

end RitspLtv.Foundation.Polling
