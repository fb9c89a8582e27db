import RitspLtv.Foundation.Conversation

/-!
# Sessions with fresh challenges

Any number of sessions run at once over a network that delays, repeats and
invents messages, while somewhere products come into being that answer
challenges.  A session draws a challenge and accepts only products that carry
it.  When no challenge is drawn twice or before its time, and nothing is
accepted that was never produced, then whatever a session accepts was produced
after it had drawn its challenge, and no other session accepts it.
-/

namespace RitspLtv.Foundation.Sessions

open RitspLtv.Foundation.Conversation

variable {port : Port} {Session Product Challenge α : Type}

/-- A moment of a history. -/
inductive Moment (Session : Type) (port : Port) (Product : Type) where
  | exchanged (session : Session) (exchange : Exchange port)
  | produced (product : Product)

section Heard

variable [DecidableEq Session]

/-- What a session notices of a moment. -/
def Moment.heardBy (session : Session) :
    Moment Session port Product → Option (Exchange port)
  | .exchanged other exchange =>
      if other = session then some exchange else none
  | .produced _ => none

/-- The exchanges of one session in a history of all of them. -/
def heard (history : List (Moment Session port Product))
    (session : Session) : List (Exchange port) :=
  history.filterMap (Moment.heardBy session)

theorem mem_heard_iff
    {history : List (Moment Session port Product)} {session : Session}
    {exchange : Exchange port} :
    exchange ∈ heard history session ↔
      .exchanged session exchange ∈ history := by
  rw [heard, List.mem_filterMap]
  constructor
  · rintro ⟨moment, member, noticed⟩
    cases moment with
    | produced product => cases noticed
    | exchanged other exchanged =>
        rw [Moment.heardBy, Option.ite_none_right_eq_some] at noticed
        rcases noticed with ⟨rfl, same⟩
        cases same
        exact member
  · intro member
    exact ⟨_, member, if_pos rfl⟩

end Heard

/-- The sessions' programs, and what makes their challenges. -/
structure Protocol (port : Port) (Session Product Challenge α : Type) where
  program : Session → Dialogue port α
  /-- The challenge that an exchange draws. -/
  drawn : Exchange port → Option Challenge
  /-- The challenge that a product carries. -/
  carried : Product → Option Challenge
  /-- The session takes the product when it is done with the value. -/
  accepts : Session → α → Product → Prop

namespace Protocol

variable [DecidableEq Session]
variable (protocol : Protocol port Session Product Challenge α)
variable (history : List (Moment Session port Product))

/-- The session is done, and its exchanges are those of the history. -/
def Completed (session : Session) (value : α) : Prop :=
  Runs (protocol.program session) (heard history session) value

/-- A session accepts only what carries a challenge it has drawn. -/
def Challenges : Prop :=
  ∀ session exchanges value product,
    Runs (protocol.program session) exchanges value →
      protocol.accepts session value product →
        ∃ exchange ∈ exchanges, ∃ challenge,
          protocol.drawn exchange = some challenge ∧
            protocol.carried product = some challenge

/-- No challenge is carried before it is drawn, or drawn twice. -/
structure Fresh : Prop where
  unforeseen :
    ∀ past session exchange future challenge product,
      history = past ++ .exchanged session exchange :: future →
        protocol.drawn exchange = some challenge →
          .produced product ∈ past →
            protocol.carried product ≠ some challenge
  unrepeated :
    ∀ past session exchange middle other repeated future challenge,
      history =
          past ++ .exchanged session exchange ::
            (middle ++ .exchanged other repeated :: future) →
        protocol.drawn exchange = some challenge →
          protocol.drawn repeated ≠ some challenge

/-- Nothing is accepted that has not been produced. -/
def Genuine : Prop :=
  ∀ past future session value product,
    history = past ++ future → protocol.Completed past session value →
      protocol.accepts session value product → .produced product ∈ past

variable {protocol history}

/-- What is accepted was produced between the challenge and the acceptance. -/
theorem produced_after_drawn
    (challenges : protocol.Challenges)
    (fresh : protocol.Fresh history) (genuine : protocol.Genuine history)
    {session : Session} {value : α} {product : Product}
    (completed : protocol.Completed history session value)
    (accepted : protocol.accepts session value product) :
    ∃ past exchange future challenge,
      history = past ++ .exchanged session exchange :: future ∧
        protocol.drawn exchange = some challenge ∧
        protocol.carried product = some challenge ∧
        .produced product ∉ past ∧ .produced product ∈ future := by
  rcases challenges session _ value product completed accepted with
    ⟨exchange, heard, challenge, drawn, carried⟩
  rcases List.append_of_mem (mem_heard_iff.mp heard) with
    ⟨past, future, split⟩
  have notBefore : .produced product ∉ past := by
    intro before
    exact
      fresh.unforeseen past session exchange future challenge product split
        drawn before carried
  have produced :=
    genuine history [] session value product (List.append_nil _).symm
      completed accepted
  refine
    ⟨past, exchange, future, challenge, split, drawn, carried, notBefore, ?_⟩
  rw [split, List.mem_append, List.mem_cons] at produced
  rcases produced with before | same | after
  · exact absurd before notBefore
  · cases same
  · exact after

/-- No two sessions accept the same product. -/
theorem eq_of_accepts
    (challenges : protocol.Challenges) (fresh : protocol.Fresh history)
    {session other : Session} {value otherValue : α} {product : Product}
    (completed : protocol.Completed history session value)
    (accepted : protocol.accepts session value product)
    (otherCompleted : protocol.Completed history other otherValue)
    (otherAccepted : protocol.accepts other otherValue product) :
    session = other := by
  rcases challenges session _ value product completed accepted with
    ⟨exchange, heard, challenge, drawn, carried⟩
  rcases challenges other _ otherValue product otherCompleted
      otherAccepted with
    ⟨repeated, otherHeard, _, otherDrawn, otherCarried⟩
  rw [carried, Option.some.injEq] at otherCarried
  subst otherCarried
  rcases List.append_of_mem (mem_heard_iff.mp heard) with
    ⟨past, future, split⟩
  have member := mem_heard_iff.mp otherHeard
  rw [split, List.mem_append, List.mem_cons] at member
  rcases member with before | same | after
  · rcases List.append_of_mem before with ⟨start, middle, rfl⟩
    rw [List.append_assoc, List.cons_append] at split
    exact
      absurd drawn
        (fresh.unrepeated start other repeated middle session exchange future
          challenge split otherDrawn)
  · cases same
    rfl
  · rcases List.append_of_mem after with ⟨middle, last, rfl⟩
    exact
      absurd otherDrawn
        (fresh.unrepeated past session exchange middle other repeated last
          challenge split drawn)

/-! ## Fresh and genuine histories -/

section Histories

variable (protocol) in
/-- The challenge that a moment draws. -/
def drawnIn : Moment Session port Product → Option Challenge
  | .exchanged _ exchange => protocol.drawn exchange
  | .produced _ => none

variable (protocol) in
/-- The challenge that a moment carries. -/
def carriedIn : Moment Session port Product → Option Challenge
  | .exchanged _ _ => none
  | .produced product => protocol.carried product

variable (protocol) in
/-- What the later moment draws is neither drawn nor carried in the earlier one. -/
def Apart (earlier later : Moment Session port Product) : Prop :=
  ∀ challenge ∈ protocol.drawnIn later,
    protocol.drawnIn earlier ≠ some challenge ∧
      protocol.carriedIn earlier ≠ some challenge

omit [DecidableEq Session] in
instance [DecidableEq Challenge] : DecidableRel protocol.Apart :=
  fun earlier later =>
    inferInstanceAs
      (Decidable (∀ challenge ∈ protocol.drawnIn later,
        protocol.drawnIn earlier ≠ some challenge ∧
          protocol.carriedIn earlier ≠ some challenge))

omit [DecidableEq Session] in
/-- A history is fresh when its moments are apart. -/
theorem fresh_of_pairwise
    (apart : history.Pairwise protocol.Apart) :
    protocol.Fresh history where
  unforeseen := by
    intro past session exchange future challenge product split drawn before
      carried
    rw [split, List.pairwise_append] at apart
    exact
      (apart.2.2 _ before _ List.mem_cons_self challenge drawn).2 carried
  unrepeated := by
    intro past session exchange middle other repeated future challenge split
      drawn again
    rw [split, List.pairwise_append, List.pairwise_cons] at apart
    have later :
        .exchanged other repeated ∈
          middle ++ .exchanged other repeated :: future :=
      List.mem_append_right middle List.mem_cons_self
    exact (apart.2.1.1 _ later challenge again).1 drawn

/--
A history is genuine when every session is done in it, and has some exchange
behind the production of whatever it accepts.
-/
theorem genuine_of_completed
    {value : Session → α}
    (completed :
      ∀ session, protocol.Completed history session (value session))
    (produced :
      ∀ session product, protocol.accepts session (value session) product →
        ∃ before exchange after,
          history = before ++ .exchanged session exchange :: after ∧
            .produced product ∈ before) :
    protocol.Genuine history := by
  intro past future session other product split earlier accepted
  have whole := completed session
  rw [Completed, split, heard, List.filterMap_append] at whole
  rcases Runs.whole earlier whole with ⟨silent, same⟩
  rw [← same] at accepted
  rcases produced session product accepted with
    ⟨before, exchange, after, place, member⟩
  rw [split, List.append_eq_append_iff] at place
  rcases place with ⟨middle, rfl, rest⟩ | ⟨middle, rfl, _⟩
  · -- the session would still be heard behind its last exchange
    have heardLater : exchange ∈ heard future session := by
      rw [mem_heard_iff, rest]
      exact List.mem_append_right middle List.mem_cons_self
    rw [heard, silent] at heardLater
    cases heardLater
  · exact List.mem_append_left middle member

end Histories

end Protocol

end RitspLtv.Foundation.Sessions
