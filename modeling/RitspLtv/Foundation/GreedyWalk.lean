import Mathlib.Data.List.Perm.Subperm
import Mathlib.Data.List.Nodup

/-!
# Greedy walks through a pool

A walk grows a path one item at a time.  At each step it scans a pool, given as
a list, and the first item that is not passed over decides: the item is taken,
or the walk is refused.  A choice is never taken back.

This module is about arbitrary items.  It says which paths such a walk can
take when the pool is put in a suitable order, and from that when the order of
the pool decides whether the walk succeeds:

* a `Trail` is a path whose every step takes some item of the pool;
* every trail is the walk through some ordering of the pool; hence
* the walk succeeds for all orderings or for none exactly when there are not
  both a trail that is complete and a trail that is a dead end.
-/

namespace RitspLtv.Foundation.GreedyWalk

variable {α : Type}

/-- What becomes of an item that a scan of the pool comes to. -/
inductive Offer where
  | pass
  | refuse
  | take
  deriving DecidableEq, Repr

/-- The rules of a walk; no item is taken twice. -/
structure Walker (α : Type) where
  finished : List α → Bool
  offer : List α → α → Offer
  passes_taken :
    ∀ {path : List α} {item : α}, item ∈ path → offer path item = .pass

namespace Walker

variable {walker : Walker α}

/-- The first item of the pool that is not passed over. -/
def scan (walker : Walker α) (path : List α) (pool : List α) : Option α :=
  pool.find? fun item => walker.offer path item ≠ .pass

/-- At most `steps` steps from a path; `none` when the walk fails. -/
def run (walker : Walker α) (pool : List α) :
    Nat → List α → Option (List α)
  | 0, path => some path
  | steps + 1, path =>
      if walker.finished path then some path
      else
        match walker.scan path pool with
        | none => none
        | some item =>
            if walker.offer path item = .take then
              walker.run pool steps (path ++ [item])
            else none

/-! ## Trails -/

/-- Each item is taken from the pool in turn, and none after the path is finished. -/
def Trail (walker : Walker α) (pool : List α) : List α → List α → Prop
  | _, [] => True
  | path, item :: items =>
      walker.finished path = false ∧ item ∈ pool ∧
        walker.offer path item = .take ∧
        walker.Trail pool (path ++ [item]) items

/-- A path after which the walk does not fail. -/
def Complete (walker : Walker α) (steps : Nat) (path items : List α) : Prop :=
  items.length ≤ steps ∧
    (walker.finished (path ++ items) = true ∨ items.length = steps)

/-- A path after which the walk can fail: by a refusal, or for want of an item. -/
def DeadEnd (walker : Walker α) (pool : List α) (steps : Nat)
    (path items : List α) : Prop :=
  items.length < steps ∧ walker.finished (path ++ items) = false ∧
    ((∃ item ∈ pool, walker.offer (path ++ items) item = .refuse) ∨
      ∀ item ∈ pool, walker.offer (path ++ items) item = .pass)

/-- Only what is in the pool matters to a trail. -/
theorem Trail.of_subset
    {pool larger path items : List α}
    (trail : walker.Trail pool path items)
    (included : pool ⊆ larger) :
    walker.Trail larger path items := by
  induction items generalizing path with
  | nil => exact True.intro
  | cons item items induction =>
      rcases trail with ⟨unfinished, member, taken, later⟩
      exact ⟨unfinished, included member, taken, induction later⟩

theorem Trail.mem_pool
    {pool path items : List α}
    (trail : walker.Trail pool path items) :
    ∀ item ∈ items, item ∈ pool := by
  induction items generalizing path with
  | nil => simp
  | cons item items induction =>
      rcases trail with ⟨_, member, _, later⟩
      intro other otherMember
      rcases List.mem_cons.mp otherMember with rfl | tailMember
      · exact member
      · exact induction later other tailMember

/-- What a trail takes is not on the path already. -/
theorem Trail.not_mem_path
    {pool path items : List α}
    (trail : walker.Trail pool path items) :
    ∀ item ∈ items, item ∉ path := by
  induction items generalizing path with
  | nil => simp
  | cons item items induction =>
      rcases trail with ⟨_, _, taken, later⟩
      intro other otherMember onPath
      rcases List.mem_cons.mp otherMember with rfl | tailMember
      · rw [walker.passes_taken onPath] at taken
        cases taken
      · apply induction later other tailMember
        exact List.mem_append_left [item] onPath

theorem Trail.nodup
    {pool path items : List α}
    (trail : walker.Trail pool path items) :
    items.Nodup := by
  induction items generalizing path with
  | nil => exact List.nodup_nil
  | cons item items induction =>
      rcases trail with ⟨_, _, _, later⟩
      apply List.nodup_cons.mpr
      constructor
      · intro repeated
        apply later.not_mem_path item repeated
        simp
      · exact induction later

/-- A dead end of one ordering of the pool is one of every ordering. -/
theorem DeadEnd.of_perm
    {pool ordered path items : List α} {steps : Nat}
    (deadEnd : walker.DeadEnd pool steps path items)
    (reordered : ordered.Perm pool) :
    walker.DeadEnd ordered steps path items := by
  rcases deadEnd with ⟨short, unfinished, refused | passed⟩
  · rcases refused with ⟨item, member, refusal⟩
    exact
      ⟨short, unfinished, .inl ⟨item, reordered.mem_iff.mpr member, refusal⟩⟩
  · exact
      ⟨short, unfinished,
        .inr fun item member => passed item (reordered.mem_iff.mp member)⟩

/-! ## A run follows a trail -/

theorem scan_eq_none_iff {path pool : List α} :
    walker.scan path pool = none ↔
      ∀ item ∈ pool, walker.offer path item = .pass := by
  simp [scan]

/-- What a scan stops at is in the pool and not passed over. -/
theorem mem_of_scan
    {path pool : List α} {item : α}
    (found : walker.scan path pool = some item) :
    item ∈ pool ∧ walker.offer path item ≠ .pass := by
  constructor
  · exact List.mem_of_find?_eq_some found
  · simpa using List.find?_some found

/-- A scan passes over the items already taken. -/
theorem scan_append_of_taken
    {path taken rest : List α} {item : α}
    (onPath : ∀ earlier ∈ taken, earlier ∈ path)
    (decides : walker.offer path item ≠ .pass) :
    walker.scan path (taken ++ item :: rest) = some item := by
  induction taken with
  | nil => simp [scan, decides]
  | cons earlier taken induction =>
      have passed := walker.passes_taken (onPath earlier List.mem_cons_self)
      rw [List.cons_append, scan, List.find?_cons_of_neg (by simp [passed])]
      apply induction
      intro other member
      exact onPath other (List.mem_cons_of_mem earlier member)

/-- A run that succeeds follows a complete trail. -/
theorem exists_trail_of_run
    {pool path result : List α} {steps : Nat}
    (succeeded : walker.run pool steps path = some result) :
    ∃ items,
      result = path ++ items ∧ walker.Trail pool path items ∧
        walker.Complete steps path items := by
  induction steps generalizing path with
  | zero =>
      rw [run, Option.some.injEq] at succeeded
      subst succeeded
      exact ⟨[], by simp, True.intro, Nat.le_refl 0, .inr rfl⟩
  | succ steps induction =>
      rw [run] at succeeded
      by_cases finished : walker.finished path = true
      · rw [if_pos finished, Option.some.injEq] at succeeded
        subst succeeded
        refine ⟨[], by simp, True.intro, Nat.zero_le _, .inl ?_⟩
        rw [List.append_nil]
        exact finished
      · rw [if_neg finished] at succeeded
        cases found : walker.scan path pool with
        | none => simp [found] at succeeded
        | some item =>
            simp only [found] at succeeded
            by_cases taken : walker.offer path item = .take
            · rw [if_pos taken] at succeeded
              rcases induction succeeded with
                ⟨items, rfl, trail, short, ended⟩
              refine
                ⟨item :: items, List.append_cons path item items ▸ rfl,
                  ⟨by simpa using finished, (mem_of_scan found).1, taken,
                    trail⟩,
                  Nat.succ_le_succ short, ?_⟩
              rw [List.append_cons, List.length_cons, Nat.add_right_cancel_iff]
              exact ended
            · rw [if_neg taken] at succeeded
              cases succeeded

/-- A run that fails follows a trail into a dead end. -/
theorem exists_deadEnd_of_run
    {pool path : List α} {steps : Nat}
    (failed : walker.run pool steps path = none) :
    ∃ items,
      walker.Trail pool path items ∧
        walker.DeadEnd pool steps path items := by
  induction steps generalizing path with
  | zero => cases failed
  | succ steps induction =>
      rw [run] at failed
      by_cases finished : walker.finished path = true
      · rw [if_pos finished] at failed
        cases failed
      · rw [if_neg finished] at failed
        have unfinished : walker.finished (path ++ []) = false := by
          rw [List.append_nil]
          simpa using finished
        cases found : walker.scan path pool with
        | none =>
            refine
              ⟨[], True.intro, Nat.succ_pos steps, unfinished, .inr ?_⟩
            rw [List.append_nil]
            exact scan_eq_none_iff.mp found
        | some item =>
            have decides := mem_of_scan found
            simp only [found] at failed
            by_cases taken : walker.offer path item = .take
            · rw [if_pos taken] at failed
              rcases induction failed with ⟨items, trail, short, open', stuck⟩
              refine
                ⟨item :: items,
                  ⟨by simpa using finished, decides.1, taken, trail⟩,
                  Nat.succ_lt_succ short, ?_⟩
              rw [List.append_cons]
              exact ⟨open', stuck⟩
            · refine
                ⟨[], True.intro, Nat.succ_pos steps, unfinished,
                  .inl ⟨item, decides.1, ?_⟩⟩
              rw [List.append_nil]
              cases offered : walker.offer path item with
              | pass => exact absurd offered decides.2
              | refuse => rfl
              | take => exact absurd offered taken

/-! ## A trail is a run -/

/-- A run through a pool that starts with a trail follows that trail. -/
theorem run_of_trail
    {pool path items : List α} {steps : Nat}
    (trail : walker.Trail pool path items)
    (short : items.length ≤ steps)
    (taken rest : List α)
    (onPath : ∀ earlier ∈ taken, earlier ∈ path) :
    walker.run (taken ++ items ++ rest) steps path =
      walker.run (taken ++ items ++ rest) (steps - items.length)
        (path ++ items) := by
  induction items generalizing path taken steps with
  | nil => simp
  | cons item items induction =>
      rcases trail with ⟨unfinished, _, isTaken, later⟩
      cases steps with
      | zero => cases short
      | succ steps =>
          have found :
              walker.scan path (taken ++ item :: items ++ rest) =
                some item := by
            rw [List.append_assoc, List.cons_append]
            apply scan_append_of_taken onPath
            rw [isTaken]
            decide
          have stillOnPath :
              ∀ earlier ∈ taken ++ [item], earlier ∈ path ++ [item] := by
            intro earlier member
            rcases List.mem_append.mp member with before | last
            · exact List.mem_append_left [item] (onPath earlier before)
            · exact List.mem_append_right path last
          rw [run, if_neg (by simp [unfinished]), found]
          show (if walker.offer path item = .take then _ else none) = _
          rw [if_pos isTaken, List.append_cons taken item items]
          rw [induction later (Nat.le_of_succ_le_succ short) (taken ++ [item])
            stillOnPath]
          rw [← List.append_cons path item items, List.length_cons,
            Nat.add_sub_add_right]

/-- Distinct items of a pool can be put first. -/
theorem exists_perm_append
    {pool items : List α}
    (distinct : items.Nodup) (included : items ⊆ pool) :
    ∃ rest, (items ++ rest).Perm pool := by
  rcases distinct.subperm included with ⟨front, reordered, sublist⟩
  rcases sublist.exists_perm_append with ⟨rest, whole⟩
  exact ⟨rest, (reordered.symm.append_right rest).trans whole.symm⟩

/-- Some ordering of the pool makes a complete trail the walk. -/
theorem exists_perm_run_of_complete
    {pool path items : List α} {steps : Nat}
    (trail : walker.Trail pool path items)
    (complete : walker.Complete steps path items) :
    ∃ ordered,
      ordered.Perm pool ∧
        walker.run ordered steps path = some (path ++ items) := by
  rcases complete with ⟨short, ended⟩
  rcases exists_perm_append trail.nodup trail.mem_pool with
    ⟨rest, reordered⟩
  refine ⟨items ++ rest, reordered, ?_⟩
  have followed :=
    run_of_trail trail short [] rest (by simp)
  rw [List.nil_append] at followed
  rw [followed]
  rcases ended with finished | exhausted
  · cases steps - items.length with
    | zero => rfl
    | succ left => rw [run, if_pos finished]
  · rw [exhausted, Nat.sub_self, run]

/-- Some ordering of the pool makes a dead end the walk. -/
theorem exists_perm_run_of_deadEnd
    {pool path items : List α} {steps : Nat}
    (trail : walker.Trail pool path items)
    (deadEnd : walker.DeadEnd pool steps path items) :
    ∃ ordered,
      ordered.Perm pool ∧ walker.run ordered steps path = none := by
  rcases deadEnd with ⟨short, unfinished, stuck⟩
  have left : ∃ later, steps - items.length = later + 1 :=
    Nat.exists_eq_succ_of_ne_zero (Nat.sub_ne_zero_of_lt short)
  rcases left with ⟨later, stepsLeft⟩
  rcases stuck with ⟨item, member, refusal⟩ | passed
  · -- The refused item is put right behind the trail.
    have fresh : item ∉ items := by
      intro onTrail
      rw [walker.passes_taken (List.mem_append_right path onTrail)] at refusal
      cases refusal
    have distinct : (items ++ [item]).Nodup := by
      rw [List.nodup_append]
      refine ⟨trail.nodup, List.nodup_singleton item, ?_⟩
      rintro other onTrail last isLast rfl
      rw [List.mem_singleton] at isLast
      exact fresh (isLast ▸ onTrail)
    have included : items ++ [item] ⊆ pool := by
      intro other otherMember
      rcases List.mem_append.mp otherMember with onTrail | isLast
      · exact trail.mem_pool other onTrail
      · rw [List.mem_singleton] at isLast
        exact isLast ▸ member
    rcases exists_perm_append distinct included with ⟨rest, reordered⟩
    rw [List.append_assoc, List.singleton_append] at reordered
    refine ⟨items ++ item :: rest, reordered, ?_⟩
    have followed :=
      run_of_trail trail (Nat.le_of_lt short) [] (item :: rest) (by simp)
    rw [List.nil_append] at followed
    have found :
        walker.scan (path ++ items) (items ++ item :: rest) = some item := by
      apply scan_append_of_taken
      · intro earlier onTrail
        exact List.mem_append_right path onTrail
      · rw [refusal]
        decide
    rw [followed, stepsLeft, run, if_neg (by simp [unfinished]), found]
    exact if_neg (by simp [refusal])
  · rcases exists_perm_append trail.nodup trail.mem_pool with
      ⟨rest, reordered⟩
    refine ⟨items ++ rest, reordered, ?_⟩
    have followed :=
      run_of_trail trail (Nat.le_of_lt short) [] rest (by simp)
    rw [List.nil_append] at followed
    have nothing :
        walker.scan (path ++ items) (items ++ rest) = none := by
      apply scan_eq_none_iff.mpr
      intro item member
      exact passed item (reordered.mem_iff.mp member)
    rw [followed, stepsLeft, run, if_neg (by simp [unfinished]), nothing]

/-! ## The order of the pool -/

/-- Some ordering succeeds exactly when there is a complete trail. -/
theorem exists_perm_isSome_iff
    {pool path : List α} {steps : Nat} :
    (∃ ordered,
        ordered.Perm pool ∧ (walker.run ordered steps path).isSome = true) ↔
      ∃ items,
        walker.Trail pool path items ∧ walker.Complete steps path items := by
  constructor
  · rintro ⟨ordered, reordered, succeeded⟩
    rcases Option.isSome_iff_exists.mp succeeded with ⟨result, returned⟩
    rcases exists_trail_of_run returned with ⟨items, _, trail, complete⟩
    exact ⟨items, trail.of_subset reordered.subset, complete⟩
  · rintro ⟨items, trail, complete⟩
    rcases exists_perm_run_of_complete trail complete with
      ⟨ordered, reordered, returned⟩
    exact ⟨ordered, reordered, by rw [returned]; rfl⟩

/-- Some ordering fails exactly when there is a trail into a dead end. -/
theorem exists_perm_isNone_iff
    {pool path : List α} {steps : Nat} :
    (∃ ordered,
        ordered.Perm pool ∧ ¬ (walker.run ordered steps path).isSome = true) ↔
      ∃ items,
        walker.Trail pool path items ∧
          walker.DeadEnd pool steps path items := by
  constructor
  · rintro ⟨ordered, reordered, failed⟩
    rw [Option.not_isSome_iff_eq_none] at failed
    rcases exists_deadEnd_of_run failed with ⟨items, trail, deadEnd⟩
    exact
      ⟨items, trail.of_subset reordered.subset, deadEnd.of_perm reordered.symm⟩
  · rintro ⟨items, trail, deadEnd⟩
    rcases exists_perm_run_of_deadEnd trail deadEnd with
      ⟨ordered, reordered, failed⟩
    exact ⟨ordered, reordered, by rw [failed]; simp⟩

/--
The order of the pool does not decide whether the walk succeeds exactly when
no complete trail exists beside a dead end.
-/
theorem order_irrelevant_iff
    {pool path : List α} {steps : Nat} :
    (∀ ordered : List α,
        ordered.Perm pool →
          ((walker.run ordered steps path).isSome = true ↔
            ∀ other : List α,
              other.Perm ordered →
                (walker.run other steps path).isSome = true)) ↔
      ((∃ items,
          walker.Trail pool path items ∧
            walker.DeadEnd pool steps path items) →
        ¬ ∃ items,
          walker.Trail pool path items ∧
            walker.Complete steps path items) := by
  rw [← exists_perm_isSome_iff, ← exists_perm_isNone_iff]
  constructor
  · rintro same ⟨failing, failingPerm, failed⟩ ⟨ordered, reordered, succeeded⟩
    apply failed
    exact
      (same ordered reordered).mp succeeded failing
        (failingPerm.trans reordered.symm)
  · intro exclusive ordered reordered
    constructor
    · intro succeeded other otherPerm
      by_contra failed
      exact
        exclusive ⟨other, otherPerm.trans reordered, failed⟩
          ⟨ordered, reordered, succeeded⟩
    · intro all
      exact all ordered (List.Perm.refl ordered)

end Walker

end RitspLtv.Foundation.GreedyWalk
