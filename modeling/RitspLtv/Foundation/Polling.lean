import Mathlib.Data.List.Basic

/-!
# Tasks that are polled

A task is polled at every wake-up of its executor, and what it finds depends on
the wake.  It is pending, ready with a value, or has unwound.  This module
gives tasks over arbitrary wakes, values and events, the ways in which they are
combined, and what a combined task has in common with its parts in *every* run:

* `andThen` runs a second task behind a first;
* `timeout` gives up a task at a wake at which a timer has elapsed; and
* `collect` keeps what two concurrent tasks have completed when a deadline
  passes, looking at both of them before the deadline.
-/

namespace RitspLtv.Foundation.Polling

variable {ε ω α β γ : Type}

/-! ## Tasks -/

/-- The outcome of polling. -/
inductive Poll (σ α : Type) where
  | pending (state : σ)
  | ready (value : α)
  | unwound (message : String)
  deriving DecidableEq, Repr

/-- The value of a task that is ready. -/
def Poll.value? {σ : Type} : Poll σ α → Option α
  | .ready value => some value
  | _ => none

/--
A task with the wakes it is polled at, the events it emits and the value it
completes with.  Polling a pending task again at the same wake does nothing.
-/
structure Task (ε ω α : Type) where
  State : Type
  initial : State
  poll : ω → State → Poll State α
  emits : ω → State → List ε
  settled :
    ∀ {wake state next}, poll wake state = .pending next →
      poll wake next = .pending next ∧ emits wake next = []

namespace Task

/-- Poll a task in a state at every wake until it is no longer pending. -/
def runFrom (task : Task ε ω α) : task.State → List ω → Poll task.State α
  | state, [] => .pending state
  | state, wake :: wakes =>
      match task.poll wake state with
      | .pending next => task.runFrom next wakes
      | .ready value => .ready value
      | .unwound message => .unwound message

/-- The events of polling a task in a state until it is no longer pending. -/
def logFrom (task : Task ε ω α) : task.State → List ω → List ε
  | _, [] => []
  | state, wake :: wakes =>
      task.emits wake state ++
        match task.poll wake state with
        | .pending next => task.logFrom next wakes
        | _ => []

/-- Run a task. -/
def run (task : Task ε ω α) (wakes : List ω) : Poll task.State α :=
  task.runFrom task.initial wakes

/-- The events of a run. -/
def log (task : Task ε ω α) (wakes : List ω) : List ε :=
  task.logFrom task.initial wakes

/-- The value a run completes with, if it does. -/
def result? (task : Task ε ω α) (wakes : List ω) : Option α :=
  (task.run wakes).value?

theorem result?_eq_some_iff
    {task : Task ε ω α} {wakes : List ω} {value : α} :
    task.result? wakes = some value ↔ task.run wakes = .ready value := by
  rw [result?]
  cases task.run wakes <;> simp [Poll.value?]

section Runs

variable {task : Task ε ω α} {state : task.State} {value : α}

@[simp]
theorem runFrom_nil : task.runFrom state [] = .pending state :=
  rfl

theorem runFrom_cons_eq_ready_iff
    {wake : ω} {wakes : List ω} :
    task.runFrom state (wake :: wakes) = .ready value ↔
      task.poll wake state = .ready value ∨
        ∃ next,
          task.poll wake state = .pending next ∧
            task.runFrom next wakes = .ready value := by
  rw [runFrom]
  cases task.poll wake state <;> simp

theorem runFrom_cons_eq_pending_iff
    {wake : ω} {wakes : List ω} {last : task.State} :
    task.runFrom state (wake :: wakes) = .pending last ↔
      ∃ next,
        task.poll wake state = .pending next ∧
          task.runFrom next wakes = .pending last := by
  rw [runFrom]
  cases task.poll wake state <;> simp

theorem runFrom_cons_of_pending
    {wake : ω} {wakes : List ω} {next : task.State}
    (polled : task.poll wake state = .pending next) :
    task.runFrom state (wake :: wakes) = task.runFrom next wakes := by
  rw [runFrom, polled]

/-- A run over more wakes goes on where the run over the first of them is pending. -/
theorem runFrom_append
    {next : task.State} {before after : List ω}
    (pending : task.runFrom state before = .pending next) :
    task.runFrom state (before ++ after) = task.runFrom next after := by
  induction before generalizing state with
  | nil =>
      cases pending
      rfl
  | cons wake before induction =>
      rcases runFrom_cons_eq_pending_iff.1 pending with
        ⟨later, polled, pending⟩
      rw [List.cons_append, runFrom_cons_of_pending polled]
      exact induction pending

/-- A run that is over stays as it is. -/
theorem runFrom_append_of_ready
    {before after : List ω}
    (ready : task.runFrom state before = .ready value) :
    task.runFrom state (before ++ after) = .ready value := by
  induction before generalizing state with
  | nil => cases ready
  | cons wake before induction =>
      rw [List.cons_append, runFrom_cons_eq_ready_iff]
      rcases runFrom_cons_eq_ready_iff.1 ready with
        polled | ⟨later, polled, ready⟩
      · exact .inl polled
      · exact .inr ⟨later, polled, induction ready⟩

/-- A completed run completes at one of its wakes. -/
theorem exists_wake_of_runFrom
    {wakes : List ω}
    (ready : task.runFrom state wakes = .ready value) :
    ∃ before wake after last,
      wakes = before ++ wake :: after ∧
        task.runFrom state before = .pending last ∧
        task.poll wake last = .ready value := by
  induction wakes generalizing state with
  | nil => cases ready
  | cons wake wakes induction =>
      rcases runFrom_cons_eq_ready_iff.1 ready with
        polled | ⟨next, polled, ready⟩
      · exact ⟨[], wake, wakes, state, rfl, rfl, polled⟩
      · rcases induction ready with
          ⟨before, later, after, last, rfl, pending, completes⟩
        have longer :=
          (runFrom_cons_of_pending polled).trans pending
        exact ⟨wake :: before, later, after, last, rfl, longer, completes⟩

/-- Polling once more at the last wake changes nothing. -/
theorem poll_of_runFrom_concat
    {before : List ω} {wake : ω} {next : task.State}
    (pending : task.runFrom state (before ++ [wake]) = .pending next) :
    task.poll wake next = .pending next := by
  induction before generalizing state with
  | nil =>
      rcases runFrom_cons_eq_pending_iff.1 pending with ⟨later, polled, same⟩
      cases same
      exact (task.settled polled).1
  | cons first before induction =>
      rcases runFrom_cons_eq_pending_iff.1 pending with
        ⟨later, polled, pending⟩
      exact induction pending

end Runs

/-! ## Simple tasks -/

/-- A task that is ready at once. -/
def now (value : α) : Task ε ω α where
  State := Unit
  initial := ()
  poll := fun _ _ => .ready value
  emits := fun _ _ => []
  settled := by
    intro wake state next pending
    cases pending

/-- Emit an event. -/
def emit (event : ε) : Task ε ω Unit where
  State := Unit
  initial := ()
  poll := fun _ _ => .ready ()
  emits := fun _ _ => [event]
  settled := by
    intro wake state next pending
    cases pending

/-- A task that unwinds at once. -/
def unwind (message : String) : Task ε ω α where
  State := Unit
  initial := ()
  poll := fun _ _ => .unwound message
  emits := fun _ _ => []
  settled := by
    intro wake state next pending
    cases pending

/-- What is ready at a wake. -/
def arrivalPoll (arrives : ω → Option α) (wake : ω) : Poll Unit α :=
  match arrives wake with
  | some value => .ready value
  | none => .pending ()

/-- Wait for a value to arrive. -/
def arrival (arrives : ω → Option α) : Task ε ω α where
  State := Unit
  initial := ()
  poll := fun wake _ => arrivalPoll arrives wake
  emits := fun _ _ => []
  settled := fun pending => ⟨pending, rfl⟩

/-! ## One task behind another -/

section AndThen

variable (first : Task ε ω α) (next : α → Task ε ω β)

/-- Either task is running. -/
abbrev AndThenState : Type :=
  first.State ⊕ (Σ value, (next value).State)

/-- Poll the second task. -/
def pollSecond (wake : ω) (value : α) (state : (next value).State) :
    Poll (AndThenState first next) β :=
  match (next value).poll wake state with
  | .pending later => .pending (.inr ⟨value, later⟩)
  | .ready result => .ready result
  | .unwound message => .unwound message

/-- Poll the task that is running, and the second one as soon as the first is ready. -/
def andThenPoll (wake : ω) :
    AndThenState first next → Poll (AndThenState first next) β
  | .inl state =>
      match first.poll wake state with
      | .pending later => .pending (.inl later)
      | .ready value =>
          pollSecond first next wake value (next value).initial
      | .unwound message => .unwound message
  | .inr ⟨value, state⟩ => pollSecond first next wake value state

def andThenEmits (wake : ω) : AndThenState first next → List ε
  | .inl state =>
      first.emits wake state ++
        match first.poll wake state with
        | .ready value => (next value).emits wake (next value).initial
        | _ => []
  | .inr ⟨value, state⟩ => (next value).emits wake state

theorem pollSecond_eq_pending
    {first : Task ε ω α} {next : α → Task ε ω β} {wake : ω} {value : α}
    {state : (next value).State} {later : AndThenState first next}
    (pending : pollSecond first next wake value state = .pending later) :
    ∃ after,
      later = .inr ⟨value, after⟩ ∧
        (next value).poll wake state = .pending after := by
  rw [pollSecond] at pending
  split at pending
  · next after polled =>
      cases pending
      exact ⟨after, rfl, polled⟩
  · cases pending
  · cases pending

theorem pollSecond_eq_ready
    {first : Task ε ω α} {next : α → Task ε ω β} {wake : ω} {value : α}
    {state : (next value).State} {result : β}
    (ready : pollSecond first next wake value state = .ready result) :
    (next value).poll wake state = .ready result := by
  rw [pollSecond] at ready
  split at ready
  · cases ready
  · next other polled =>
      cases ready
      exact polled
  · cases ready

theorem settled_second
    {first : Task ε ω α} {next : α → Task ε ω β} {wake : ω} {value : α}
    {state : (next value).State} {later : AndThenState first next}
    (pending : pollSecond first next wake value state = .pending later) :
    andThenPoll first next wake later = .pending later ∧
      andThenEmits first next wake later = [] := by
  rcases pollSecond_eq_pending pending with ⟨after, rfl, polled⟩
  rcases (next value).settled polled with ⟨again, quiet⟩
  constructor
  · rw [andThenPoll, pollSecond, again]
  · exact quiet

theorem andThenPoll_first_eq_ready
    {first : Task ε ω α} {next : α → Task ε ω β} {wake : ω}
    {state : first.State} {result : β}
    (ready : andThenPoll first next wake (.inl state) = .ready result) :
    ∃ value,
      first.poll wake state = .ready value ∧
        (next value).poll wake (next value).initial = .ready result := by
  rw [andThenPoll] at ready
  split at ready
  · cases ready
  · next value polled => exact ⟨value, polled, pollSecond_eq_ready ready⟩
  · cases ready

theorem andThenPoll_first_eq_pending
    {first : Task ε ω α} {next : α → Task ε ω β} {wake : ω}
    {state : first.State} {later : AndThenState first next}
    (pending : andThenPoll first next wake (.inl state) = .pending later) :
    (∃ after,
        later = .inl after ∧ first.poll wake state = .pending after) ∨
      ∃ value after,
        later = .inr ⟨value, after⟩ ∧
          first.poll wake state = .ready value ∧
          (next value).poll wake (next value).initial = .pending after := by
  rw [andThenPoll] at pending
  split at pending
  · next after polled =>
      cases pending
      exact .inl ⟨after, rfl, polled⟩
  · next value polled =>
      rcases pollSecond_eq_pending pending with ⟨after, isSecond, second⟩
      exact .inr ⟨value, after, isSecond, polled, second⟩
  · cases pending

/-- Run a second task on the value of a first. -/
def andThen : Task ε ω β where
  State := AndThenState first next
  initial := .inl first.initial
  poll := andThenPoll first next
  emits := andThenEmits first next
  settled := by
    intro wake state later pending
    cases state with
    | inl state =>
        rw [andThenPoll] at pending
        split at pending
        · next after polled =>
            cases pending
            rcases first.settled polled with ⟨again, quiet⟩
            constructor
            · rw [andThenPoll, again]
            · rw [andThenEmits, again, quiet]
              rfl
        · exact settled_second pending
        · cases pending
    | inr state => exact settled_second pending

end AndThen

/-! ## Giving a task up -/

section Timeout

variable (elapsed : ω → Bool) (task : Task ε ω α)

/-- Poll the task, and give it up if it is pending and the timer has elapsed. -/
def timeoutPoll (wake : ω) (state : task.State) :
    Poll task.State (Option α) :=
  match task.poll wake state with
  | .pending later => if elapsed wake then .ready none else .pending later
  | .ready value => .ready (some value)
  | .unwound message => .unwound message

theorem timeoutPoll_eq_pending
    {elapsed : ω → Bool} {task : Task ε ω α} {wake : ω}
    {state later : task.State}
    (pending : timeoutPoll elapsed task wake state = .pending later) :
    task.poll wake state = .pending later ∧ elapsed wake = false := by
  rw [timeoutPoll] at pending
  split at pending
  · next after polled =>
      split at pending
      · cases pending
      · next notElapsed =>
          cases pending
          exact ⟨polled, Bool.not_eq_true _ ▸ notElapsed⟩
  · cases pending
  · cases pending

theorem timeoutPoll_eq_ready
    {elapsed : ω → Bool} {task : Task ε ω α} {wake : ω}
    {state : task.State} {value : α}
    (ready : timeoutPoll elapsed task wake state = .ready (some value)) :
    task.poll wake state = .ready value := by
  rw [timeoutPoll] at ready
  split at ready
  · split at ready
    · cases ready
    · cases ready
  · next other polled =>
      cases ready
      exact polled
  · cases ready

/-- Run a task until a timer elapses. -/
def timeout : Task ε ω (Option α) where
  State := task.State
  initial := task.initial
  poll := timeoutPoll elapsed task
  emits := task.emits
  settled := by
    intro wake state later pending
    rcases timeoutPoll_eq_pending pending with ⟨polled, notElapsed⟩
    rcases task.settled polled with ⟨again, quiet⟩
    constructor
    · simp [timeoutPoll, again, notElapsed]
    · exact quiet

end Timeout

/-! ## A function of the value -/

section Map

variable (transform : α → β)

/-- Apply a function to a value that is ready. -/
def mapPoll {σ : Type} : Poll σ α → Poll σ β
  | .pending state => .pending state
  | .ready value => .ready (transform value)
  | .unwound message => .unwound message

theorem mapPoll_eq_pending
    {transform : α → β} {σ : Type} {outcome : Poll σ α} {state : σ}
    (pending : mapPoll transform outcome = .pending state) :
    outcome = .pending state := by
  cases outcome with
  | pending other =>
      cases pending
      rfl
  | ready value => cases pending
  | unwound message => cases pending

theorem mapPoll_eq_ready
    {transform : α → β} {σ : Type} {outcome : Poll σ α} {result : β}
    (ready : mapPoll transform outcome = .ready result) :
    ∃ value, outcome = .ready value ∧ transform value = result := by
  cases outcome with
  | pending other => cases ready
  | ready value =>
      cases ready
      exact ⟨value, rfl, rfl⟩
  | unwound message => cases ready

/-- Run a task, and apply a function to its value. -/
def map (task : Task ε ω α) : Task ε ω β where
  State := task.State
  initial := task.initial
  poll := fun wake state => mapPoll transform (task.poll wake state)
  emits := task.emits
  settled := by
    intro wake state later pending
    rcases task.settled (mapPoll_eq_pending pending) with ⟨again, quiet⟩
    exact ⟨congrArg (mapPoll transform) again, quiet⟩

end Map

/-! ## Two tasks and a deadline -/

/-- A task that is being collected. -/
inductive Progress (task : Task ε ω α) where
  | running (state : task.State)
  | completed (value : α)

namespace Progress

variable {task : Task ε ω α}

/-- The value of a task that has completed. -/
def value? : Progress task → Option α
  | .running _ => none
  | .completed value => some value

/-- How many tasks are running. -/
def count : Progress task → Nat
  | .running _ => 1
  | .completed _ => 0

@[simp]
theorem count_running (state : task.State) :
    (running state : Progress task).count = 1 :=
  rfl

@[simp]
theorem count_completed (value : α) :
    (completed value : Progress task).count = 0 :=
  rfl

/-- Poll a task that is running; one that has completed is not looked at. -/
def poll (wake : ω) : Progress task → Poll (Progress task) α
  | .running state =>
      match task.poll wake state with
      | .pending next => .pending (.running next)
      | .ready value => .ready value
      | .unwound message => .unwound message
  | .completed value => .pending (.completed value)

def emits (wake : ω) : Progress task → List ε
  | .running state => task.emits wake state
  | .completed _ => []

variable {wake : ω} {progress next : Progress task}

theorem settled (pending : progress.poll wake = .pending next) :
    next.poll wake = .pending next ∧ next.emits wake = [] ∧
      next.count = progress.count := by
  cases progress with
  | running state =>
      rw [poll] at pending
      split at pending
      · next later polled =>
          cases pending
          rcases task.settled polled with ⟨again, quiet⟩
          refine ⟨?_, quiet, rfl⟩
          rw [poll, again]
      · cases pending
      · cases pending
  | completed value =>
      cases pending
      exact ⟨rfl, rfl, rfl⟩

/-- Only a running task becomes ready. -/
theorem count_of_ready
    {value : α} (ready : progress.poll wake = .ready value) :
    progress.count = 1 := by
  cases progress with
  | running state => rfl
  | completed value => cases ready

end Progress

section Collect

variable (deadline : ω → Bool) (left : Task ε ω α) (right : Task ε ω β)

/-- How far both tasks are. -/
abbrev CollectState : Type := Progress left × Progress right

/--
The loop at one wake, with `count` tasks running: take what the left task has
ready, else what the right task has, and only then look at the deadline.
-/
def collectLoop (wake : ω) :
    Nat → Progress left → Progress right →
      Poll (CollectState left right) (Option α × Option β)
  | 0, l, r => .ready (l.value?, r.value?)
  | count + 1, l, r =>
      match l.poll wake with
      | .ready value => collectLoop wake count (.completed value) r
      | .unwound message => .unwound message
      | .pending l =>
          match r.poll wake with
          | .ready value => collectLoop wake count l (.completed value)
          | .unwound message => .unwound message
          | .pending r =>
              if deadline wake then .ready (l.value?, r.value?)
              else .pending (l, r)

def collectLoopEmits (wake : ω) :
    Nat → Progress left → Progress right → List ε
  | 0, _, _ => []
  | count + 1, l, r =>
      l.emits wake ++
        match l.poll wake with
        | .ready value => collectLoopEmits wake count (.completed value) r
        | .unwound _ => []
        | .pending l =>
            r.emits wake ++
              match r.poll wake with
              | .ready value => collectLoopEmits wake count l (.completed value)
              | _ => []

variable {deadline left right}

/-- Where the loop is pending, neither task has more to do and the deadline has not passed. -/
theorem collectLoop_eq_pending
    {wake : ω} {count : Nat} {l l' : Progress left} {r r' : Progress right}
    (running : count = l.count + r.count)
    (pending :
      collectLoop deadline left right wake count l r = .pending (l', r')) :
    l'.poll wake = .pending l' ∧ l'.emits wake = [] ∧
      r'.poll wake = .pending r' ∧ r'.emits wake = [] ∧
      deadline wake = false ∧ ∃ fewer, l'.count + r'.count = fewer + 1 := by
  induction count generalizing l r with
  | zero => cases pending
  | succ count induction =>
      rw [collectLoop] at pending
      split at pending
      · next value polled =>
          have wasRunning := Progress.count_of_ready polled
          exact induction (by rw [Progress.count_completed]; omega) pending
      · cases pending
      · next l polledLeft =>
          rcases Progress.settled polledLeft with
            ⟨againLeft, quietLeft, sameLeft⟩
          split at pending
          · next value polled =>
              have wasRunning := Progress.count_of_ready polled
              exact induction (by rw [Progress.count_completed]; omega) pending
          · cases pending
          · next r polledRight =>
              rcases Progress.settled polledRight with
                ⟨againRight, quietRight, sameRight⟩
              split at pending
              · cases pending
              · next notPassed =>
                  cases pending
                  refine
                    ⟨againLeft, quietLeft, againRight, quietRight, ?_,
                      count, ?_⟩
                  · exact Bool.not_eq_true _ ▸ notPassed
                  · omega

variable (deadline left right)

/-- Collect what two tasks complete with before a deadline. -/
def collect : Task ε ω (Option α × Option β) where
  State := CollectState left right
  initial := (.running left.initial, .running right.initial)
  poll := fun wake state =>
    collectLoop deadline left right wake (state.1.count + state.2.count)
      state.1 state.2
  emits := fun wake state =>
    collectLoopEmits left right wake (state.1.count + state.2.count) state.1
      state.2
  settled := by
    intro wake state next pending
    rcases next with ⟨l, r⟩
    rcases collectLoop_eq_pending rfl pending with
      ⟨againLeft, quietLeft, againRight, quietRight, notPassed, fewer, some⟩
    simp [some, collectLoop, collectLoopEmits, againLeft, againRight,
      quietLeft, quietRight, notPassed]

end Collect

end Task

end RitspLtv.Foundation.Polling
