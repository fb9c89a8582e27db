import Mathlib.Data.List.Basic

/-!
# Sequenced checks that may refuse

A validator is a sequence of checks in `Except`: each one either refuses with
an error or lets the next one run.  This module states what a *successful*
sequence establishes, for arbitrary error and value types:

* `rejectIf` is one guarded early return;
* `bind_eq_ok`, `rejectIf_eq_ok`, `mapError_eq_ok` and `forM_eq_ok` read a
  successful sequence backwards, one step at a time; and
* `firstOk` tries alternatives in order and keeps the first that succeeds.
-/

namespace RitspLtv.Foundation.Checks

variable {ε ε' α β : Type}

/-! ## Reading a successful sequence backwards -/

/-- Refuse with `error` when `condition` holds; otherwise let the next check run. -/
def rejectIf (condition : Prop) [Decidable condition] (error : ε) :
    Except ε Unit :=
  if condition then .error error else .ok ()

@[simp]
theorem rejectIf_eq_ok
    {condition : Prop} [Decidable condition] {error : ε} {done : Unit} :
    rejectIf condition error = .ok done ↔ ¬ condition := by
  by_cases holds : condition <;> simp [rejectIf, holds]

@[simp]
theorem rejectIf_false {error : ε} :
    rejectIf False error = .ok () := by
  simp

theorem rejectIf_true
    {condition : Prop} [Decidable condition] {error : ε}
    (holds : condition) :
    rejectIf condition error = .error error := by
  simp [rejectIf, holds]

/-- A sequenced computation succeeds exactly when both of its halves do. -/
@[simp]
theorem bind_eq_ok
    {first : Except ε α} {next : α → Except ε β} {result : β} :
    (first >>= next) = .ok result ↔
      ∃ value, first = .ok value ∧ next value = .ok result := by
  cases first <;> simp [bind, Except.bind]

@[simp]
theorem pure_eq_ok {value result : α} :
    (pure value : Except ε α) = .ok result ↔ value = result := by
  simp [pure, Except.pure]

@[simp]
theorem ok_bind {value : α} {next : α → Except ε β} :
    (Except.ok value >>= next) = next value :=
  rfl

@[simp]
theorem error_bind {error : ε} {next : α → Except ε β} :
    ((Except.error error : Except ε α) >>= next) = .error error :=
  rfl

/-- Relabelling the error of a check changes no success. -/
@[simp]
theorem mapError_eq_ok
    {check : Except ε α} {relabel : ε → ε'} {value : α} :
    check.mapError relabel = .ok value ↔ check = .ok value := by
  cases check <;> simp [Except.mapError]

@[simp]
theorem mapError_ok {relabel : ε → ε'} {value : α} :
    (Except.ok value : Except ε α).mapError relabel = .ok value :=
  rfl

@[simp]
theorem mapError_error {relabel : ε → ε'} {error : ε} :
    (Except.error error : Except ε α).mapError relabel =
      .error (relabel error) :=
  rfl

/-- A unit-valued check has only one way to succeed. -/
@[simp]
theorem exists_unit_eq_ok {check : Except ε Unit} {rest : Prop} :
    (∃ done, check = .ok done ∧ rest) ↔ check = .ok () ∧ rest :=
  ⟨fun ⟨(), holds⟩ => holds, fun holds => ⟨(), holds⟩⟩

theorem when_eq_ok
    {condition : Prop} [Decidable condition] {check : Except ε Unit}
    {next : Except ε α} {result : α} :
    (if condition then check >>= fun _ => next else next) = .ok result ↔
      (condition → check = .ok ()) ∧ next = .ok result := by
  by_cases holds : condition
  · rw [if_pos holds, bind_eq_ok, exists_unit_eq_ok]
    simp only [holds, forall_const]
  · rw [if_neg holds]
    simp only [holds, false_implies, true_and]

theorem map_eq_ok_iff
    {f : α → β} {check : Except ε α} {result : β} :
    check.map f = .ok result ↔
      ∃ value, check = .ok value ∧ result = f value := by
  cases check <;> simp [Except.map, eq_comm]

/-- A loop of checks succeeds exactly when every one of its checks does. -/
theorem forM_eq_ok
    {check : α → Except ε Unit} {items : List α} {done : Unit} :
    items.forM check = .ok done ↔
      ∀ item ∈ items, check item = .ok () := by
  induction items with
  | nil => simp [List.forM]
  | cons head tail induction =>
      change (check head >>= fun _ => tail.forM check) = _ ↔ _
      rw [bind_eq_ok, exists_unit_eq_ok, induction]
      simp only [List.mem_cons, forall_eq_or_imp]

/-- A walk that refuses what it has seen establishes its condition of distinct items. -/
theorem distinct_of_foldlM
    {κ : Type} {step : List κ → α → Except ε (List κ)} {key : α → κ}
    {holds : α → Prop}
    (rounds :
      ∀ seen item next, step seen item = .ok next →
        key item ∉ seen ∧ holds item ∧ key item ∈ next ∧ seen ⊆ next)
    {items : List α} {seen final : List κ}
    (walked : items.foldlM step seen = .ok final) :
    (items.map key).Nodup ∧ (∀ item ∈ items, key item ∉ seen) ∧
      ∀ item ∈ items, holds item := by
  induction items generalizing seen with
  | nil => simp
  | cons head tail induction =>
      rw [List.foldlM_cons, bind_eq_ok] at walked
      rcases walked with ⟨next, stepped, walked⟩
      rcases rounds seen head next stepped with
        ⟨fresh, condition, added, kept⟩
      rcases induction walked with ⟨distinct, unseen, others⟩
      have different :
          ∀ item ∈ tail, key item ≠ key head ∧ key item ∉ seen := by
        intro item member
        constructor
        · intro same
          exact unseen item member (same ▸ added)
        · intro before
          exact unseen item member (kept before)
      refine ⟨?_, ?_, ?_⟩
      · rw [List.map_cons, List.nodup_cons, List.mem_map]
        refine ⟨?_, distinct⟩
        rintro ⟨item, member, same⟩
        exact (different item member).1 same
      · rw [List.forall_mem_cons]
        exact ⟨fresh, fun item member => (different item member).2⟩
      · rw [List.forall_mem_cons]
        exact ⟨condition, others⟩

/-- Every result of a successful mapping comes from one of the items. -/
theorem exists_of_mem_mapM
    {transform : α → Except ε β} {items : List α} {results : List β}
    (mapped : items.mapM transform = .ok results)
    {result : β} (member : result ∈ results) :
    ∃ item ∈ items, transform item = .ok result := by
  induction items generalizing results with
  | nil =>
      rw [List.mapM_nil, pure_eq_ok] at mapped
      subst mapped
      cases member
  | cons head tail induction =>
      rw [List.mapM_cons, bind_eq_ok] at mapped
      rcases mapped with ⟨first, headMapped, tailMapped⟩
      rw [bind_eq_ok] at tailMapped
      rcases tailMapped with ⟨others, tailMapped, joined⟩
      rw [pure_eq_ok] at joined
      subst joined
      rcases List.mem_cons.mp member with rfl | later
      · exact ⟨head, List.mem_cons_self, headMapped⟩
      · rcases induction tailMapped later with ⟨item, itemMember, success⟩
        exact ⟨item, List.mem_cons_of_mem head itemMember, success⟩

/-- A fold fails exactly where a step fails behind steps that succeed. -/
theorem foldlM_eq_error_iff
    {σ : Type} {step : σ → α → Except ε σ} {items : List α} {state : σ}
    {error : ε} :
    items.foldlM step state = .error error ↔
      ∃ before item after reached,
        items = before ++ item :: after ∧
          before.foldlM step state = .ok reached ∧
          step reached item = .error error := by
  induction items generalizing state with
  | nil =>
      refine iff_of_false (by simp [pure, Except.pure]) ?_
      intro failed
      rcases failed with ⟨before, item, after, _, split, _⟩
      exact absurd split.symm (by simp)
  | cons head tail induction =>
      rw [List.foldlM_cons]
      cases stepped : step state head with
      | error headError =>
          rw [error_bind, Except.error.injEq]
          constructor
          · intro same
            exact ⟨[], head, tail, state, rfl, rfl, same ▸ stepped⟩
          · intro failed
            rcases failed with ⟨_ | ⟨first, before⟩, item, after, reached,
              split, passed, failed⟩
            · cases split
              cases passed
              rw [stepped, Except.error.injEq] at failed
              exact failed
            · cases split
              rw [List.foldlM_cons, stepped] at passed
              cases passed
      | ok next =>
          rw [ok_bind, induction]
          constructor
          · intro failed
            rcases failed with
              ⟨before, item, after, reached, rfl, passed, failed⟩
            refine
              ⟨head :: before, item, after, reached, rfl, ?_, failed⟩
            rw [List.foldlM_cons, stepped, ok_bind]
            exact passed
          · intro failed
            rcases failed with ⟨_ | ⟨first, before⟩, item, after, reached,
              split, passed, failed⟩
            · cases split
              cases passed
              rw [stepped] at failed
              cases failed
            · cases split
              rw [List.foldlM_cons, stepped, ok_bind] at passed
              exact ⟨before, item, after, reached, rfl, passed, failed⟩

/-- Collecting the results of an enumeration succeeds when each of them did. -/
theorem mapM_id_eq_ok_iff
    {results : List (Except ε α)} {items : List α} :
    results.mapM id = .ok items ↔ results = items.map .ok := by
  induction results generalizing items with
  | nil =>
      rw [List.mapM_nil, pure_eq_ok, List.nil_eq, List.nil_eq,
        List.map_eq_nil_iff]
  | cons result results induction =>
      rw [List.mapM_cons, bind_eq_ok]
      constructor
      · intro collected
        rcases collected with ⟨first, isOk, collected⟩
        rw [bind_eq_ok] at collected
        rcases collected with ⟨others, collected, joined⟩
        rw [pure_eq_ok] at joined
        subst joined
        rw [List.map_cons, induction.mp collected]
        exact congrArg (· :: _) isOk
      · intro split
        cases items with
        | nil => cases split
        | cons first others =>
            rw [List.map_cons, List.cons.injEq] at split
            refine ⟨first, split.1, ?_⟩
            rw [bind_eq_ok]
            exact ⟨others, induction.mpr split.2, rfl⟩

/-! ## Verdicts -/

/-- The check did not refuse. -/
def Accepts (check : Except ε α) : Prop :=
  ∃ value, check = .ok value

instance (check : Except ε α) : Decidable (Accepts check) :=
  match check with
  | .ok value => isTrue ⟨value, rfl⟩
  | .error _ => isFalse (by rintro ⟨value, equal⟩; cases equal)

@[simp]
theorem accepts_ok {value : α} :
    Accepts (.ok value : Except ε α) :=
  ⟨value, rfl⟩

@[simp]
theorem not_accepts_error {error : ε} :
    ¬ Accepts (.error error : Except ε α) := by
  rintro ⟨value, equal⟩
  cases equal

theorem accepts_unit_iff {check : Except ε Unit} :
    Accepts check ↔ check = .ok () :=
  ⟨fun ⟨(), equal⟩ => equal, fun equal => ⟨(), equal⟩⟩

@[simp]
theorem toOption_eq_some_iff {check : Except ε α} {value : α} :
    check.toOption = some value ↔ check = .ok value := by
  cases check <;> simp [Except.toOption]

/-- A walk that refuses exactly what it has seen accepts distinct items that hold. -/
theorem accepts_foldlM_iff_distinct
    {κ : Type} {step : List κ → α → Except ε (List κ)} {key : α → κ}
    {holds : α → Prop}
    (rounds :
      ∀ seen item next, step seen item = .ok next ↔
        key item ∉ seen ∧ holds item ∧ next = key item :: seen)
    {items : List α} {seen : List κ} :
    Accepts (items.foldlM step seen) ↔
      (items.map key).Nodup ∧ (∀ item ∈ items, key item ∉ seen) ∧
        ∀ item ∈ items, holds item := by
  constructor
  · rintro ⟨final, walked⟩
    apply distinct_of_foldlM _ walked
    intro seen item next stepped
    rcases (rounds seen item next).mp stepped with ⟨fresh, condition, rfl⟩
    exact
      ⟨fresh, condition, List.mem_cons_self, List.subset_cons_self _ seen⟩
  · rintro ⟨distinct, unseen, each⟩
    induction items generalizing seen with
    | nil => exact ⟨seen, rfl⟩
    | cons head tail induction =>
        rw [List.map_cons, List.nodup_cons, List.mem_map] at distinct
        rw [List.forall_mem_cons] at unseen each
        have stepped : step seen head = .ok (key head :: seen) :=
          (rounds seen head _).mpr ⟨unseen.1, each.1, rfl⟩
        rw [List.foldlM_cons, stepped, ok_bind]
        apply induction distinct.2 _ each.2
        intro item member
        rw [List.mem_cons, not_or]
        refine ⟨?_, unseen.2 item member⟩
        intro same
        exact distinct.1 ⟨item, member, same⟩

theorem isSome_toOption_iff {check : Except ε α} :
    check.toOption.isSome = true ↔ Accepts check := by
  cases check with
  | error error => simp [Except.toOption]
  | ok value => simp [Except.toOption]

/-! ## Trying alternatives in order -/

/--
Attempt `first`, then each of `rest`, and keep the first success.  When every
attempt refuses, the error of the last one is reported.
-/
def firstOk (attempt : α → Except ε β) : α → List α → Except ε β
  | first, [] => attempt first
  | first, second :: rest =>
      match attempt first with
      | .ok value => .ok value
      | .error _ => firstOk attempt second rest

/-- A success of `firstOk` is a success of one of the alternatives. -/
theorem exists_attempt_of_firstOk
    {attempt : α → Except ε β} {first : α} {rest : List α} {value : β}
    (succeeded : firstOk attempt first rest = .ok value) :
    ∃ item ∈ first :: rest, attempt item = .ok value := by
  induction rest generalizing first with
  | nil => exact ⟨first, by simp, succeeded⟩
  | cons second rest induction =>
      unfold firstOk at succeeded
      cases attempted : attempt first with
      | ok result =>
          rw [attempted] at succeeded
          exact ⟨first, by simp, attempted.trans succeeded⟩
      | error error =>
          rw [attempted] at succeeded
          rcases induction succeeded with ⟨item, member, success⟩
          exact ⟨item, List.mem_cons_of_mem first member, success⟩

/-- `firstOk` accepts exactly when some alternative does, in whatever order. -/
theorem accepts_firstOk_iff
    {attempt : α → Except ε β} {first : α} {rest : List α} :
    Accepts (firstOk attempt first rest) ↔
      ∃ item ∈ first :: rest, Accepts (attempt item) := by
  constructor
  · rintro ⟨value, succeeded⟩
    rcases exists_attempt_of_firstOk succeeded with
      ⟨item, member, success⟩
    exact ⟨item, member, value, success⟩
  · induction rest generalizing first with
    | nil =>
        rintro ⟨item, member, accepted⟩
        cases List.mem_singleton.mp member
        exact accepted
    | cons second rest induction =>
        rintro ⟨item, member, accepted⟩
        unfold firstOk
        cases attempted : attempt first with
        | ok result => exact accepts_ok
        | error error =>
            rcases List.mem_cons.mp member with rfl | later
            · rw [attempted] at accepted
              exact absurd accepted not_accepts_error
            · exact induction ⟨item, later, accepted⟩

/-- When an attempt returns its own item, `firstOk` returns the first accepted. -/
theorem firstOk_eq_ok_iff
    {attempt : α → Except ε α} {first value : α} {rest : List α}
    (own : ∀ item result, attempt item = .ok result → result = item) :
    firstOk attempt first rest = .ok value ↔
      (first :: rest).find? (fun item => decide (Accepts (attempt item))) =
        some value := by
  induction rest generalizing first with
  | nil =>
      show attempt first = .ok value ↔ _
      cases attempted : attempt first with
      | ok result => simp [attempted, own first result attempted]
      | error error => simp [attempted]
  | cons second rest induction =>
      unfold firstOk
      cases attempted : attempt first with
      | ok result => simp [attempted, own first result attempted]
      | error error =>
          rw [List.find?_cons_of_neg (by simp [attempted])]
          exact induction

/-! ## Effects that outlive a failure -/

/--
Attempt the items in order and keep every success in front of the first
failure, together with that failure.
-/
def keepUntilError (attempt : α → Except ε β) :
    List α → List β × Option ε
  | [] => ([], none)
  | item :: rest =>
      match attempt item with
      | .error error => ([], some error)
      | .ok value =>
          let (values, failure) := keepUntilError attempt rest
          (value :: values, failure)

/-- There is no failure exactly when every attempt succeeds. -/
theorem keepUntilError_eq_none_iff
    {attempt : α → Except ε β} {items : List α} :
    (keepUntilError attempt items).2 = none ↔
      ∀ item ∈ items, Accepts (attempt item) := by
  induction items with
  | nil => simp [keepUntilError]
  | cons item rest induction =>
      rw [List.forall_mem_cons, ← induction, keepUntilError]
      cases attempt item with
      | error error => simp
      | ok value => simp

/-- Nothing is kept exactly when there is nothing or the first attempt fails. -/
theorem keepUntilError_eq_nil_iff
    {attempt : α → Except ε β} {items : List α} :
    (keepUntilError attempt items).1 = [] ↔
      ∀ item, items.head? = some item → ¬ Accepts (attempt item) := by
  cases items with
  | nil => simp [keepUntilError]
  | cons item rest =>
      simp only [keepUntilError, List.head?_cons, Option.some.injEq,
        forall_eq']
      cases attempt item with
      | error error => simp
      | ok value => simp

/-- Without a failure, the successes are kept in the order of their items. -/
theorem keepUntilError_getElem?
    {attempt : α → Except ε β} {items : List α}
    (succeeded : (keepUntilError attempt items).2 = none)
    {index : Nat} {item : α} (present : items[index]? = some item) :
    ∃ value,
      attempt item = .ok value ∧
        (keepUntilError attempt items).1[index]? = some value := by
  induction items generalizing index with
  | nil => simp at present
  | cons head rest induction =>
      rw [keepUntilError] at succeeded ⊢
      cases attempted : attempt head with
      | error error => simp [attempted] at succeeded
      | ok value =>
          simp only [attempted] at succeeded
          cases index with
          | zero =>
              rw [List.getElem?_cons_zero, Option.some.injEq] at present
              subst present
              exact ⟨value, attempted, rfl⟩
          | succ index =>
              rw [List.getElem?_cons_succ] at present
              exact induction succeeded present

end RitspLtv.Foundation.Checks
