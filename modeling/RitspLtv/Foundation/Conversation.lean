import RitspLtv.Foundation.Checks

/-!
# Programs that ask their surroundings

A client validates a URL, draws random octets and sends a request; what it is
answered is up to the network.  A dialogue is such a program: it is done, or it
asks a question and goes on with whatever the answer is.  Its runs are all the
exchanges that some surroundings make possible, so what holds of every run holds
against every network.
-/

namespace RitspLtv.Foundation.Conversation

/-- The questions that can be asked, and the type of the answers to each. -/
structure Port where
  Query : Type
  Answer : Query → Type

/-- A question that has been answered. -/
structure Exchange (port : Port) where
  query : port.Query
  answer : port.Answer query

/-- A program that asks questions one after the other. -/
inductive Dialogue (port : Port) (α : Type) where
  | done (value : α)
  | ask (query : port.Query) (next : port.Answer query → Dialogue port α)

variable {port : Port} {ε α β : Type}

namespace Dialogue

/-- Go on with another dialogue when the first is done. -/
def bind : Dialogue port α → (α → Dialogue port β) → Dialogue port β
  | done value, following => following value
  | ask query next, following =>
      ask query fun answer => (next answer).bind following

instance : Monad (Dialogue port) where
  pure := done
  bind := bind

/-- Ask one question. -/
def question (query : port.Query) : Dialogue port (port.Answer query) :=
  ask query done

end Dialogue

open Dialogue

/-- A program that may fail. -/
abbrev Task (port : Port) (ε α : Type) := ExceptT ε (Dialogue port) α

/-! ## Runs -/

/-- The dialogue is done with `value` after these exchanges. -/
inductive Runs : Dialogue port α → List (Exchange port) → α → Prop where
  | done (value : α) : Runs (.done value) [] value
  | ask (query : port.Query) (next : port.Answer query → Dialogue port α)
      (answer : port.Answer query) {exchanges : List (Exchange port)}
      {value : α} (later : Runs (next answer) exchanges value) :
      Runs (.ask query next) (⟨query, answer⟩ :: exchanges) value

section Runs

variable {exchanges : List (Exchange port)} {value : α} {result : β}

@[simp]
theorem runs_done_iff {other : α} :
    Runs (.done value) exchanges other ↔ exchanges = [] ∧ other = value := by
  constructor
  · intro runs
    cases runs
    exact ⟨rfl, rfl⟩
  · rintro ⟨rfl, rfl⟩
    exact .done other

@[simp]
theorem runs_pure_iff {other : α} :
    Runs (pure value : Dialogue port α) exchanges other ↔
      exchanges = [] ∧ other = value :=
  runs_done_iff

theorem runs_ask_iff
    {query : port.Query} {next : port.Answer query → Dialogue port α} :
    Runs (.ask query next) exchanges value ↔
      ∃ answer later,
        exchanges = ⟨query, answer⟩ :: later ∧
          Runs (next answer) later value := by
  constructor
  · intro runs
    cases runs with
    | ask query next answer later => exact ⟨answer, _, rfl, later⟩
  · rintro ⟨answer, later, rfl, runs⟩
    exact .ask query next answer runs

@[simp]
theorem runs_question_iff
    {query : port.Query} {answer : port.Answer query} :
    Runs (question query) exchanges answer ↔
      exchanges = [⟨query, answer⟩] := by
  rw [question, runs_ask_iff]
  constructor
  · rintro ⟨_, later, rfl, runs⟩
    rw [runs_done_iff] at runs
    rcases runs with ⟨rfl, rfl⟩
    rfl
  · rintro rfl
    exact ⟨answer, [], rfl, .done answer⟩

/-- A run of two dialogues is a run of the first and then one of the second. -/
theorem runs_bind_iff
    {first : Dialogue port α} {following : α → Dialogue port β} :
    Runs (first >>= following) exchanges result ↔
      ∃ value former latter,
        exchanges = former ++ latter ∧ Runs first former value ∧
          Runs (following value) latter result := by
  change Runs (first.bind following) exchanges result ↔ _
  induction first generalizing exchanges with
  | done value =>
      rw [Dialogue.bind]
      constructor
      · intro runs
        exact ⟨value, [], exchanges, rfl, .done value, runs⟩
      · rintro ⟨_, former, latter, rfl, start, runs⟩
        cases start
        exact runs
  | ask query next induction =>
      rw [Dialogue.bind, runs_ask_iff]
      constructor
      · rintro ⟨answer, later, rfl, runs⟩
        rcases (induction answer).mp runs with
          ⟨value, former, latter, rfl, start, runs⟩
        exact
          ⟨value, ⟨query, answer⟩ :: former, latter, rfl,
            .ask query next answer start, runs⟩
      · rintro ⟨value, former, latter, rfl, start, runs⟩
        rcases runs_ask_iff.mp start with ⟨answer, later, rfl, answered⟩
        exact
          ⟨answer, later ++ latter, rfl,
            (induction answer).mpr
              ⟨value, later, latter, rfl, answered, runs⟩⟩

/-- A run that is done does not go on. -/
theorem Runs.whole
    {first : Dialogue port α} {further : List (Exchange port)} {other : α}
    (runs : Runs first exchanges value)
    (longer : Runs first (exchanges ++ further) other) :
    further = [] ∧ other = value := by
  induction runs with
  | done value =>
      rw [List.nil_append] at longer
      exact runs_done_iff.mp longer
  | ask query next answer later induction =>
      rw [List.cons_append] at longer
      rcases runs_ask_iff.mp longer with ⟨_, _, same, otherLater⟩
      cases same
      exact induction otherLater

/-- The same exchanges end in the same value. -/
theorem Runs.unique
    {first : Dialogue port α} {other : α}
    (runs : Runs first exchanges value)
    (otherRuns : Runs first exchanges other) : value = other := by
  rw [← List.append_nil exchanges] at otherRuns
  exact (runs.whole otherRuns).2.symm

end Runs

/-! ## Tasks -/

namespace Task

/-- A computation without questions. -/
def ofExcept (computed : Except ε α) : Task port ε α :=
  Dialogue.done computed

/-- Ask a question that has no failures of its own. -/
def request (query : port.Query) : Task port ε (port.Answer query) :=
  ExceptT.lift (question query)

section Runs

variable {exchanges : List (Exchange port)} {value : α} {result : β}

/-- The runs of a task as those of the dialogue it is. -/
def Returns (task : Task port ε α) (exchanges : List (Exchange port))
    (outcome : Except ε α) : Prop :=
  Runs task.run exchanges outcome

@[simp]
theorem returns_ofExcept_iff {computed outcome : Except ε α} :
    Returns (ofExcept computed : Task port ε α) exchanges outcome ↔
      exchanges = [] ∧ outcome = computed :=
  runs_done_iff

@[simp]
theorem returns_pure_iff {outcome : Except ε α} :
    Returns (pure value : Task port ε α) exchanges outcome ↔
      exchanges = [] ∧ outcome = .ok value :=
  runs_done_iff

@[simp]
theorem returns_throw_iff {error : ε} {outcome : Except ε α} :
    Returns (throw error : Task port ε α) exchanges outcome ↔
      exchanges = [] ∧ outcome = .error error :=
  runs_done_iff

@[simp]
theorem returns_request_iff
    {query : port.Query} {outcome : Except ε (port.Answer query)} :
    Returns (request query : Task port ε _) exchanges outcome ↔
      ∃ answer, exchanges = [⟨query, answer⟩] ∧ outcome = .ok answer := by
  change Runs (Dialogue.ask query fun answer => _) _ _ ↔ _
  rw [runs_ask_iff]
  constructor
  · rintro ⟨answer, later, rfl, runs⟩
    rcases runs_done_iff.mp runs with ⟨rfl, rfl⟩
    exact ⟨answer, rfl, rfl⟩
  · rintro ⟨answer, rfl, rfl⟩
    exact ⟨answer, [], rfl, .done _⟩

/-- The first task fails, or both follow each other. -/
theorem returns_bind_iff
    {first : Task port ε α} {following : α → Task port ε β}
    {outcome : Except ε β} :
    Returns (first >>= following) exchanges outcome ↔
      (∃ error, Returns first exchanges (.error error) ∧
        outcome = .error error) ∨
      ∃ value former latter,
        exchanges = former ++ latter ∧ Returns first former (.ok value) ∧
          Returns (following value) latter outcome := by
  change Runs (first.run >>= ExceptT.bindCont following) exchanges outcome ↔ _
  rw [runs_bind_iff]
  constructor
  · rintro ⟨computed, former, latter, rfl, start, runs⟩
    cases computed with
    | error error =>
        rcases runs_done_iff.mp runs with ⟨rfl, rfl⟩
        rw [List.append_nil]
        exact .inl ⟨error, start, rfl⟩
    | ok value => exact .inr ⟨value, former, latter, rfl, start, runs⟩
  · rintro (⟨error, start, rfl⟩ | ⟨value, former, latter, rfl, start, runs⟩)
    · exact
        ⟨.error error, exchanges, [], (List.append_nil _).symm, start,
          .done _⟩
    · exact ⟨.ok value, former, latter, rfl, start, runs⟩

/-- A task goes on when its first part succeeds. -/
theorem Returns.bind
    {first : Task port ε α} {following : α → Task port ε β}
    {former latter : List (Exchange port)} {outcome : Except ε β}
    (start : Returns first former (.ok value))
    (rest : Returns (following value) latter outcome) :
    Returns (first >>= following) (former ++ latter) outcome :=
  returns_bind_iff.mpr (.inr ⟨value, former, latter, rfl, start, rest⟩)

/-- A task succeeds when both of its parts do. -/
theorem returns_bind_ok_iff
    {first : Task port ε α} {following : α → Task port ε β} :
    Returns (first >>= following) exchanges (.ok result) ↔
      ∃ value former latter,
        exchanges = former ++ latter ∧ Returns first former (.ok value) ∧
          Returns (following value) latter (.ok result) := by
  rw [returns_bind_iff, or_iff_right]
  rintro ⟨error, _, impossible⟩
  cases impossible

end Runs

end Task

/-! ## What every run has in common -/

/-- The exchanges of every run satisfy a condition, however it ends. -/
def Always (condition : List (Exchange port) → Prop)
    (task : Task port ε α) : Prop :=
  ∀ exchanges outcome, Task.Returns task exchanges outcome → condition exchanges

theorem always_bind
    {condition : List (Exchange port) → Prop}
    {first : Task port ε α} {following : α → Task port ε β}
    (joined :
      ∀ former latter, condition former → condition latter →
        condition (former ++ latter))
    (former : Always condition first)
    (latter : ∀ value, Always condition (following value)) :
    Always condition (first >>= following) := by
  intro exchanges outcome returned
  rcases Task.returns_bind_iff.mp returned with
    ⟨error, failed, _⟩ | ⟨value, front, back, rfl, began, ended⟩
  · exact former exchanges _ failed
  · exact
      joined front back (former front _ began)
        (latter value back outcome ended)

theorem always_ofExcept
    {condition : List (Exchange port) → Prop}
    (empty : condition []) (computed : Except ε α) :
    Always condition (Task.ofExcept computed) := by
  intro exchanges outcome returned
  rw [(Task.returns_ofExcept_iff.mp returned).1]
  exact empty

/-! ## Trying in order -/

section TryEach

variable {κ : Type} (attempt : κ → Task port ε α)

/-- Attempt each in turn until one succeeds; the last failure is reported. -/
def tryEach (exhausted : ε) : Option ε → List κ → Task port ε α
  | lastError, [] => throw (lastError.getD exhausted)
  | _, item :: rest =>
      ExceptT.mk <|
        (attempt item).run >>= fun
          | .ok value => pure (.ok value)
          | .error error => (tryEach exhausted (some error) rest).run

/-- Each of these fails, and these are the exchanges and the failures. -/
inductive Failures : List κ → List (Exchange port) → List ε → Prop where
  | nil : Failures [] [] []
  | cons {item : κ} {rest : List κ} {former latter : List (Exchange port)}
      {error : ε} {errors : List ε}
      (failed : Task.Returns (attempt item) former (.error error))
      (later : Failures rest latter errors) :
      Failures (item :: rest) (former ++ latter) (error :: errors)

variable {attempt}

theorem returns_tryEach_cons_iff
    {exhausted : ε} {lastError : Option ε} {item : κ} {rest : List κ}
    {exchanges : List (Exchange port)} {outcome : Except ε α} :
    Task.Returns (tryEach attempt exhausted lastError (item :: rest))
        exchanges outcome ↔
      (∃ value, Task.Returns (attempt item) exchanges (.ok value) ∧
        outcome = .ok value) ∨
      ∃ error former latter,
        exchanges = former ++ latter ∧
          Task.Returns (attempt item) former (.error error) ∧
          Task.Returns (tryEach attempt exhausted (some error) rest) latter
            outcome := by
  rw [Task.Returns, tryEach]
  change Runs ((attempt item).run >>= _) exchanges outcome ↔ _
  rw [runs_bind_iff]
  constructor
  · rintro ⟨computed, former, latter, rfl, began, ended⟩
    cases computed with
    | error error => exact .inr ⟨error, former, latter, rfl, began, ended⟩
    | ok value =>
        rcases runs_done_iff.mp ended with ⟨rfl, rfl⟩
        rw [List.append_nil]
        exact .inl ⟨value, began, rfl⟩
  · rintro (⟨value, began, rfl⟩ | ⟨error, former, latter, rfl, began, ended⟩)
    · exact
        ⟨.ok value, exchanges, [], (List.append_nil _).symm, began, .done _⟩
    · exact ⟨.error error, former, latter, rfl, began, ended⟩

/-- A success is that of the first that does not fail. -/
theorem returns_tryEach_ok_iff
    {exhausted : ε} {lastError : Option ε} {items : List κ}
    {exchanges : List (Exchange port)} {value : α} :
    Task.Returns (tryEach attempt exhausted lastError items) exchanges
        (.ok value) ↔
      ∃ before item after former latter errors,
        items = before ++ item :: after ∧ exchanges = former ++ latter ∧
          Failures attempt before former errors ∧
          Task.Returns (attempt item) latter (.ok value) := by
  induction items generalizing lastError exchanges with
  | nil =>
      rw [tryEach, Task.returns_throw_iff]
      constructor
      · rintro ⟨_, impossible⟩
        cases impossible
      · rintro ⟨before, item, after, _, _, _, same, _⟩
        simp at same
  | cons item rest induction =>
      rw [returns_tryEach_cons_iff]
      constructor
      · rintro (⟨result, returned, same⟩ |
          ⟨error, former, latter, rfl, failed, returned⟩)
        · cases same
          exact ⟨[], item, rest, [], exchanges, [], rfl, rfl, .nil, returned⟩
        · rcases induction.mp returned with
            ⟨before, chosen, after, front, back, errors, rfl, rfl, failures,
              succeeded⟩
          exact
            ⟨item :: before, chosen, after, former ++ front, back,
              error :: errors, rfl, (List.append_assoc _ _ _).symm,
              .cons failed failures, succeeded⟩
      · rintro ⟨before, chosen, after, former, latter, errors, same, rfl,
          failures, succeeded⟩
        cases failures with
        | nil =>
            cases same
            exact .inl ⟨value, succeeded, rfl⟩
        | @cons first others front back error errors failed failures =>
            cases same
            refine
              .inr
                ⟨error, front, back ++ latter, List.append_assoc _ _ _,
                  failed, ?_⟩
            exact
              induction.mpr
                ⟨others, chosen, after, back, latter, errors, rfl, rfl,
                  failures, succeeded⟩

/-- The last of several failures does not depend on one before them. -/
theorem getLast?_cons_or (first : ε) (errors : List ε) (lastError : Option ε) :
    (first :: errors).getLast?.or lastError =
      errors.getLast?.or (some first) := by
  rw [List.getLast?_cons]
  cases errors.getLast? <;> rfl

/-- Without a success every one has failed, and the last failure is reported. -/
theorem returns_tryEach_error_iff
    {exhausted error : ε} {lastError : Option ε} {items : List κ}
    {exchanges : List (Exchange port)} :
    Task.Returns (tryEach attempt exhausted lastError items) exchanges
        (.error error) ↔
      ∃ errors,
        Failures attempt items exchanges errors ∧
          error = (errors.getLast?.or lastError).getD exhausted := by
  induction items generalizing lastError exchanges with
  | nil =>
      rw [tryEach, Task.returns_throw_iff]
      constructor
      · rintro ⟨rfl, same⟩
        cases same
        exact ⟨[], .nil, rfl⟩
      · rintro ⟨errors, failures, rfl⟩
        cases failures
        exact ⟨rfl, rfl⟩
  | cons item rest induction =>
      rw [returns_tryEach_cons_iff]
      constructor
      · rintro (⟨value, _, impossible⟩ |
          ⟨first, former, latter, rfl, failed, returned⟩)
        · cases impossible
        · rcases induction.mp returned with ⟨errors, failures, rfl⟩
          refine ⟨first :: errors, .cons failed failures, ?_⟩
          rw [getLast?_cons_or]
      · rintro ⟨errors, failures, rfl⟩
        cases failures with
        | @cons _ _ former latter first errors failed failures =>
            refine
              .inr
                ⟨first, former, latter, rfl, failed,
                  induction.mpr ⟨errors, failures, ?_⟩⟩
            rw [getLast?_cons_or]

theorem always_tryEach
    {condition : List (Exchange port) → Prop}
    (empty : condition [])
    (joined :
      ∀ former latter, condition former → condition latter →
        condition (former ++ latter))
    (each : ∀ item, Always condition (attempt item))
    (exhausted : ε) (lastError : Option ε) (items : List κ) :
    Always condition (tryEach attempt exhausted lastError items) := by
  induction items generalizing lastError with
  | nil =>
      intro exchanges outcome returned
      rw [tryEach, Task.returns_throw_iff] at returned
      rw [returned.1]
      exact empty
  | cons item rest induction =>
      intro exchanges outcome returned
      rcases returns_tryEach_cons_iff.mp returned with
        ⟨value, succeeded, _⟩ | ⟨error, former, latter, rfl, failed, later⟩
      · exact each item exchanges _ succeeded
      · exact
          joined former latter (each item former _ failed)
            (induction (some error) latter outcome later)

/-- Attempt each in turn until one succeeds; failures are dropped. -/
def firstSuccess {ζ : Type} (attempt : κ → Task port ε α) :
    List κ → Task port ζ (Option α)
  | [] => pure none
  | item :: rest =>
      ExceptT.mk <|
        (attempt item).run >>= fun
          | .ok value => pure (.ok (some value))
          | .error _ => (firstSuccess attempt rest).run

/-- It is a matter of the report only whether failures are dropped. -/
theorem returns_firstSuccess_iff
    {ζ : Type} (exhausted : ε) (lastError : Option ε) {items : List κ}
    {exchanges : List (Exchange port)} {outcome : Except ζ (Option α)} :
    Task.Returns (firstSuccess attempt items) exchanges outcome ↔
      ∃ result,
        Task.Returns (tryEach attempt exhausted lastError items) exchanges
            result ∧
          outcome = .ok result.toOption := by
  induction items generalizing lastError exchanges with
  | nil =>
      rw [firstSuccess, Task.returns_pure_iff]
      constructor
      · rintro ⟨rfl, rfl⟩
        exact ⟨_, Task.returns_throw_iff.mpr ⟨rfl, rfl⟩, rfl⟩
      · rintro ⟨result, returned, rfl⟩
        rw [tryEach, Task.returns_throw_iff] at returned
        rcases returned with ⟨rfl, rfl⟩
        exact ⟨rfl, rfl⟩
  | cons item rest induction =>
      rw [Task.Returns, firstSuccess]
      change Runs ((attempt item).run >>= _) exchanges outcome ↔ _
      simp only [returns_tryEach_cons_iff, runs_bind_iff]
      constructor
      · rintro ⟨computed, former, latter, rfl, began, ended⟩
        cases computed with
        | error error =>
            rcases (induction (some error)).mp ended with
              ⟨result, returned, rfl⟩
            exact
              ⟨result,
                .inr ⟨error, former, latter, rfl, began, returned⟩, rfl⟩
        | ok value =>
            rcases runs_done_iff.mp ended with ⟨rfl, rfl⟩
            rw [List.append_nil]
            exact ⟨.ok value, .inl ⟨value, began, rfl⟩, rfl⟩
      · rintro ⟨result, ⟨value, began, rfl⟩ |
          ⟨error, former, latter, rfl, began, returned⟩, rfl⟩
        · exact
            ⟨.ok value, exchanges, [], (List.append_nil _).symm, began,
              .done _⟩
        · exact
            ⟨.error error, former, latter, rfl, began,
              (induction (some error)).mpr ⟨result, returned, rfl⟩⟩

theorem always_firstSuccess
    {ζ : Type} {condition : List (Exchange port) → Prop} {items : List κ}
    (exhausted : ε)
    (each : Always condition (tryEach attempt exhausted none items)) :
    Always condition (firstSuccess attempt items : Task port ζ (Option α)) := by
  intro exchanges outcome returned
  rcases (returns_firstSuccess_iff exhausted none).mp returned with
    ⟨result, tried, _⟩
  exact each exchanges result tried

end TryEach

/-! ## Exchanges that need permission -/

/--
Every exchange that needs a permission has one of its own: nothing else that
needs one comes in between.
-/
def Permitted (needs : Exchange port → Prop)
    (allows : Exchange port → Exchange port → Prop)
    (exchanges : List (Exchange port)) : Prop :=
  ∀ before exchange after,
    exchanges = before ++ exchange :: after → needs exchange →
      ∃ earlier permission between,
        before = earlier ++ permission :: between ∧
          allows permission exchange ∧ ∀ other ∈ between, ¬ needs other

section Permitted

variable {needs : Exchange port → Prop}
variable {allows : Exchange port → Exchange port → Prop}
variable {exchanges others : List (Exchange port)}

theorem Permitted.of_free
    (free : ∀ exchange ∈ exchanges, ¬ needs exchange) :
    Permitted needs allows exchanges := by
  rintro before exchange after rfl needed
  exact absurd needed (free exchange (by simp))

theorem Permitted.nil : Permitted needs allows [] :=
  .of_free (by simp)

theorem Permitted.append
    (former : Permitted needs allows exchanges)
    (latter : Permitted needs allows others) :
    Permitted needs allows (exchanges ++ others) := by
  intro before exchange after same needed
  rw [List.append_eq_append_iff] at same
  rcases same with ⟨middle, rfl, same⟩ | ⟨middle, rfl, same⟩
  · rcases latter _ _ _ same needed with
      ⟨earlier, permission, between, rfl, allowed⟩
    exact
      ⟨exchanges ++ earlier, permission, between,
        (List.append_assoc _ _ _).symm, allowed⟩
  · cases middle with
    | nil =>
        rw [List.nil_append] at same
        rcases latter [] exchange after same.symm needed with
          ⟨earlier, permission, between, impossible, _⟩
        simp at impossible
    | cons first middle =>
        rw [List.cons_append, List.cons.injEq] at same
        rcases same with ⟨rfl, rfl⟩
        exact former _ _ _ rfl needed

/-- A permission is used, with nothing in between that needs one. -/
theorem Permitted.use
    {permission exchange : Exchange port}
    (free : ¬ needs permission)
    (between : ∀ other ∈ exchanges, ¬ needs other)
    (allowed : allows permission exchange) :
    Permitted needs allows (permission :: (exchanges ++ [exchange])) := by
  intro before other after same needed
  rw [← List.cons_append, List.append_eq_append_iff] at same
  rcases same with ⟨middle, rfl, same⟩ | ⟨middle, split, same⟩
  · rw [List.singleton_eq_append_iff] at same
    rcases same with ⟨rfl, same⟩ | ⟨rfl, same⟩
    · cases same
      exact
        ⟨[], permission, exchanges, List.append_nil _, allowed, between⟩
    · cases same
  · cases middle with
    | nil =>
        rw [List.append_nil] at split
        cases same
        exact ⟨[], permission, exchanges, split.symm, allowed, between⟩
    | cons first middle =>
        rw [List.cons_append, List.cons.injEq] at same
        rcases same with ⟨rfl, rfl⟩
        have member : other ∈ permission :: exchanges := by
          rw [split]
          simp
        rcases List.mem_cons.mp member with rfl | inside
        · exact absurd needed free
        · exact absurd needed (between other inside)

end Permitted

end RitspLtv.Foundation.Conversation
