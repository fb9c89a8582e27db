import RitspLtv.Foundation.Restriction
import RitspLtv.Trust.Store

/-!
# What name constraints over a path mean

The state of name-constraints processing collects the fields of several
issuers.  Here it is read as a restriction on certificates: `permits` is the set
of certificates it accepts, appending states intersects these sets, and folding
an extension value into a state appends what that value says alone.  From this
follow the pairwise meaning of a path and its independence of issuer order.
-/

namespace RitspLtv.Ltv.NameConstraintSemantics

open RitspLtv.Foundation.Checks
open RitspLtv.Foundation.Consume
open RitspLtv.Foundation
open RitspLtv.RustStd
open RitspLtv.DerUtils
open RitspLtv.Ltv.NameConstraints
open RitspLtv.Trust.Store

variable (crates : Crates)

/-! ## Appending states -/

/-- The fields of two states together. -/
def append (first second : NameConstraintState) : NameConstraintState :=
  ⟨first.permitted ++ second.permitted, first.excluded ++ second.excluded⟩

@[simp]
theorem append_default (state : NameConstraintState) :
    append state .default = state := by
  simp [append, NameConstraintState.default]

@[simp]
theorem isEmpty_append (first second : NameConstraintState) :
    (append first second).isEmpty = (first.isEmpty && second.isEmpty) := by
  rcases first with ⟨_ | _, _ | _⟩ <;> rcases second with ⟨_ | _, _ | _⟩ <;>
    rfl

@[simp]
theorem constrainsRfc822_append (first second : NameConstraintState) :
    (append first second).constrainsRfc822 =
      (first.constrainsRfc822 || second.constrainsRfc822) := by
  simp only [append, NameConstraintState.constrainsRfc822,
    List.flatten_append, List.any_append]
  grind

/-! ## Checking one name -/

/-- A name passes a state when no excluded base matches and every group permits it. -/
theorem checkName_eq_ok_iff
    (state : NameConstraintState) (name : AssertedName) :
    state.checkName crates name = .ok () ↔
      (∀ base ∈ state.excluded,
          NameConstraintState.checkExcluded crates name base = .ok ()) ∧
        ∀ group ∈ state.permitted,
          NameConstraintState.checkGroup crates name group = .ok () := by
  unfold NameConstraintState.checkName
  rw [bind_eq_ok, exists_unit_eq_ok, forM_eq_ok, forM_eq_ok]

theorem checkName_append
    (first second : NameConstraintState) (name : AssertedName) :
    (append first second).checkName crates name = .ok () ↔
      first.checkName crates name = .ok () ∧
        second.checkName crates name = .ok () := by
  simp only [checkName_eq_ok_iff, append, List.forall_mem_append]
  tauto

/-- A base that is not of the name's type does not match it. -/
theorem baseMatches_of_not_sameType
    {base : GeneralNameBase} {name : AssertedName}
    (different : sameType base name = false) :
    baseMatches crates base name = .ok false := by
  cases base <;> cases name <;>
    first
      | rfl
      | simp [sameType] at different

theorem searchGroup_of_not_sameType
    {name : AssertedName} {group : List GeneralNameBase}
    (different : ∀ base ∈ group, sameType base name = false)
    (hasPermittedOfType : Bool) :
    NameConstraintState.searchGroup crates name hasPermittedOfType group =
      .ok (hasPermittedOfType, false) := by
  induction group with
  | nil => rfl
  | cons base group induction =>
      rw [List.forall_mem_cons] at different
      unfold NameConstraintState.searchGroup
      rw [different.1]
      exact induction different.2

/-- A name of a type that a state does not constrain passes it. -/
theorem checkName_of_unconstrained
    {state : NameConstraintState} {name : AssertedName}
    (unconstrained :
      ∀ base ∈ state.excluded ++ state.permitted.flatten,
        sameType base name = false) :
    state.checkName crates name = .ok () := by
  rw [checkName_eq_ok_iff]
  constructor
  · intro base member
    have different :=
      unconstrained base (List.mem_append_left _ member)
    unfold NameConstraintState.checkExcluded
    rw [baseMatches_of_not_sameType crates different]
    rfl
  · intro group member
    have different :
        ∀ base ∈ group, sameType base name = false := by
      intro base baseMember
      exact
        unconstrained base
          (List.mem_append_right _
            (List.mem_flatten_of_mem member baseMember))
    unfold NameConstraintState.checkGroup
    rw [searchGroup_of_not_sameType crates different]
    rfl

/-- Without a mail base, a mail address passes. -/
theorem checkName_rfc822_of_not_constrainsRfc822
    {state : NameConstraintState}
    (unconstrained : state.constrainsRfc822 = false) (email : Bytes) :
    state.checkName crates (.rfc822 email) = .ok () := by
  apply checkName_of_unconstrained
  intro base member
  unfold NameConstraintState.constrainsRfc822 at unconstrained
  have notRfc822 := List.any_eq_false.mp unconstrained base member
  cases base <;> simp_all [sameType]

/-! ## Checking a certificate -/

/-- Every legacy e-mail address is a mail name. -/
theorem rfc822_of_mem_legacyEmails
    {subject : Name} {emails : List AssertedName}
    (collected : legacyEmails crates subject = .ok emails)
    {name : AssertedName} (member : name ∈ emails) :
    ∃ email, name = .rfc822 email := by
  rcases exists_of_mem_mapM collected member with ⟨atv, _, read⟩
  simp only [legacyEmail, bind_eq_ok, pure_eq_ok] at read
  rcases read with ⟨email, _, _, _, rfl⟩
  exact ⟨toAsciiLowercase email, rfl⟩

/-- Collecting mail addresses as well only adds mail names. -/
theorem collectAssertedNames_true
    {cert : Certificate} {names : List AssertedName}
    (collected : collectAssertedNames crates cert true = .ok names) :
    ∃ others emails,
      collectAssertedNames crates cert false = .ok others ∧
        names = others ++ emails ∧
        ∀ name ∈ emails, ∃ email, name = .rfc822 email := by
  simp only [collectAssertedNames, bind_eq_ok] at collected
  rcases collected with ⟨subjectDer, encoded, collected⟩
  simp only [collectAssertedNames, encoded, ok_bind]
  cases found : cert.findExtension sanOid with
  | some ext =>
      rw [found] at collected
      exact ⟨names, [], collected, by simp, by simp⟩
  | none =>
      simp only [found, if_true, bind_eq_ok, pure_eq_ok] at collected
      rcases collected with ⟨emails, read, rfl⟩
      exact
        ⟨_, emails, rfl, rfl,
          fun name member => rfc822_of_mem_legacyEmails crates read member⟩

/--
A certificate passes a state when all the names collected from it do, even if
more names were collected than the state itself asks for.
-/
theorem checkCert_eq_ok_iff_of_collect
    {state : NameConstraintState} {cert : Certificate}
    {constrainRfc822 : Bool} {names : List AssertedName}
    (enough : state.constrainsRfc822 = true → constrainRfc822 = true)
    (collected :
      collectAssertedNames crates cert constrainRfc822 = .ok names) :
    state.checkCert crates cert = .ok () ↔
      ∀ name ∈ names, state.checkName crates name = .ok () := by
  rw [NameConstraintState.checkCert]
  cases empty : state.isEmpty with
  | true =>
      have unconstrained :
          state.excluded ++ state.permitted.flatten = [] := by
        simp only [NameConstraintState.isEmpty, Bool.and_eq_true,
          List.isEmpty_iff] at empty
        simp [empty]
      simp only [if_true, true_iff]
      intro name _
      apply checkName_of_unconstrained
      simp [unconstrained]
  | false =>
      simp only [Bool.false_eq_true, if_false]
      cases constrained : state.constrainsRfc822 with
      | true =>
          rw [enough constrained] at collected
          rw [collected, ok_bind, forM_eq_ok]
      | false =>
          cases constrainRfc822 with
          | false => rw [collected, ok_bind, forM_eq_ok]
          | true =>
              rcases collectAssertedNames_true crates collected with
                ⟨others, emails, read, rfl, mail⟩
              rw [read, ok_bind, forM_eq_ok, List.forall_mem_append]
              refine ⟨fun all => ⟨all, ?_⟩, fun all => all.1⟩
              intro name member
              rcases mail name member with ⟨email, rfl⟩
              exact
                checkName_rfc822_of_not_constrainsRfc822 crates
                  constrained email

/-- A state with constraints refuses a certificate whose names cannot be read. -/
theorem checkCert_ne_ok_of_collect
    {state : NameConstraintState} {cert : Certificate}
    {error : NameConstraintError}
    (nonempty : state.isEmpty = false)
    (failed :
      collectAssertedNames crates cert state.constrainsRfc822 =
        .error error) :
    state.checkCert crates cert ≠ .ok () := by
  simp [NameConstraintState.checkCert, nonempty, failed]

theorem isEmpty_eq_false_of_constrainsRfc822
    {state : NameConstraintState}
    (constrained : state.constrainsRfc822 = true) :
    state.isEmpty = false := by
  rw [Bool.eq_false_iff]
  intro empty
  simp only [NameConstraintState.isEmpty, Bool.and_eq_true,
    List.isEmpty_iff] at empty
  simp [NameConstraintState.constrainsRfc822, empty] at constrained

/-- An appended state accepts exactly what both of its parts accept. -/
theorem checkCert_append
    (first second : NameConstraintState) (cert : Certificate) :
    (append first second).checkCert crates cert = .ok () ↔
      first.checkCert crates cert = .ok () ∧
        second.checkCert crates cert = .ok () := by
  cases collected :
      collectAssertedNames crates cert
        (append first second).constrainsRfc822 with
  | ok names =>
      have firstEnough :
          first.constrainsRfc822 = true →
            (append first second).constrainsRfc822 = true := by
        intro constrained
        simp [constrained]
      have secondEnough :
          second.constrainsRfc822 = true →
            (append first second).constrainsRfc822 = true := by
        intro constrained
        simp [constrained]
      rw [checkCert_eq_ok_iff_of_collect crates id collected,
        checkCert_eq_ok_iff_of_collect crates firstEnough collected,
        checkCert_eq_ok_iff_of_collect crates secondEnough collected]
      simp only [checkName_append]
      exact forall₂_and
  | error error =>
      -- the part whose mail constraints or fields are responsible refuses, too
      cases empty : (append first second).isEmpty with
      | true =>
          have bothEmpty := empty
          rw [isEmpty_append, Bool.and_eq_true] at bothEmpty
          simp [NameConstraintState.checkCert, empty, bothEmpty]
      | false =>
          have refused := checkCert_ne_ok_of_collect crates empty collected
          refine iff_of_false refused ?_
          intro accepted
          rw [constrainsRfc822_append] at collected
          cases firstConstrained : first.constrainsRfc822 with
          | true =>
              rw [firstConstrained, Bool.true_or,
                ← firstConstrained] at collected
              exact
                checkCert_ne_ok_of_collect crates
                  (isEmpty_eq_false_of_constrainsRfc822 firstConstrained)
                  collected accepted.1
          | false =>
              rw [firstConstrained, Bool.false_or] at collected
              cases secondEmpty : second.isEmpty with
              | false =>
                  exact
                    checkCert_ne_ok_of_collect crates secondEmpty collected
                      accepted.2
              | true =>
                  have secondUnconstrained :
                      second.constrainsRfc822 = false := by
                    rw [Bool.eq_false_iff]
                    intro constrained
                    rw [isEmpty_eq_false_of_constrainsRfc822
                      constrained] at secondEmpty
                    cases secondEmpty
                  rw [secondUnconstrained, ← firstConstrained] at collected
                  rw [isEmpty_append, secondEmpty, Bool.and_true] at empty
                  exact
                    checkCert_ne_ok_of_collect crates empty collected
                      accepted.1

/-- The certificates a state accepts. -/
def permits (state : NameConstraintState) : Set Certificate :=
  { cert | state.checkCert crates cert = .ok () }

/-- Name constraints are a restriction on certificates. -/
def restriction : Restriction NameConstraintState Certificate where
  empty := .default
  append := append
  admits := permits crates
  admits_empty := Set.eq_univ_of_forall fun _ => rfl
  admits_append := by
    intro first second
    ext cert
    exact checkCert_append crates first second cert

/-! ## Folding an extension value -/

theorem fieldStep_append
    (first second : NameConstraintState) (pos : Bytes) :
    NameConstraintState.fieldStep (append first second) pos =
      (NameConstraintState.fieldStep second pos).map
        (Prod.map (append first) id) := by
  simp only [NameConstraintState.fieldStep]
  cases (parseTlvWithRest pos).mapError fun e =>
      NameConstraintError.parse s!"subtrees: {e}" with
  | error error => rfl
  | ok field =>
      rcases field with ⟨tag, subBody, rest⟩
      simp only [ok_bind]
      split
      · cases parseGeneralSubtrees subBody with
        | error error => rfl
        | ok bases =>
            simp [append, pure, Except.pure, Except.map]
      · split
        · cases parseGeneralSubtrees subBody with
          | error error => rfl
          | ok bases =>
              simp [append, pure, Except.pure, Except.map]
        · rfl

/-- What an extension value adds to a state does not depend on the state. -/
theorem addFromExtensionValue_eq_map
    (state : NameConstraintState) (value : Bytes) :
    state.addFromExtensionValue value =
      (NameConstraintState.default.addFromExtensionValue value).map
        (append state) := by
  simp only [NameConstraintState.addFromExtensionValue]
  cases (parseTlv value).mapError fun e =>
      NameConstraintError.parse s!"outer: {e}" with
  | error error => rfl
  | ok outer =>
      rcases outer with ⟨tag, body⟩
      simp only [ok_bind]
      by_cases sequence : tag = 0x30
      · have folded :=
          consume_map (fieldStep_append state) .default body
        rw [append_default] at folded
        simp only [sequence, ne_eq, not_true_eq_false, rejectIf_false,
          ok_bind]
        exact folded
      · rw [rejectIf_true sequence]
        rfl

/-- What an issuer adds to a state does not depend on the state. -/
theorem addFromCert_eq_map
    (state : NameConstraintState) (issuer : Certificate) :
    state.addFromCert issuer =
      (NameConstraintState.default.addFromCert issuer).map (append state) := by
  simp only [NameConstraintState.addFromCert]
  cases issuer.findExtension nameConstraintsOid with
  | none => simp [Except.map]
  | some ext => exact addFromExtensionValue_eq_map state ext.extnValue

/-- The certificates accepted after folding a sequence of extension values. -/
def acceptedBy (values : List Bytes) : Set Certificate :=
  { cert |
    ∃ state,
      values.foldlM NameConstraintState.addFromExtensionValue .default =
          .ok state ∧
        state.checkCert crates cert = .ok () }

/-- Folding extension values accumulates the restrictions they describe. -/
theorem acceptedBy_eq_admittedBy (values : List Bytes) :
    acceptedBy crates values =
      (restriction crates).admittedBy
        NameConstraintState.default.addFromExtensionValue values := by
  have sameStep :
      NameConstraintState.addFromExtensionValue =
        fun state value =>
          (NameConstraintState.default.addFromExtensionValue value).map
            ((restriction crates).append state) := by
    funext state value
    exact addFromExtensionValue_eq_map state value
  unfold acceptedBy Restriction.admittedBy Restriction.accumulate
  rw [← sameStep]
  rfl

/-! ## Walking a path -/

/-- The issuer's constraints alone can be read, and every given certificate passes them. -/
def IssuerPermits (issuer : Certificate) (below : List Certificate) : Prop :=
  ∃ sole,
    NameConstraintState.default.addFromCert issuer = .ok sole ∧
      ∀ sub ∈ below, sole.checkCert crates sub = .ok ()

/-- One step of the walk reads the issuer alone and checks the appended state. -/
theorem enforceNameConstraintsAt_eq_ok_iff
    {path : List Certificate} {state next : NameConstraintState}
    {top : Nat} {issuer : Certificate}
    (present : path[top]? = some issuer) :
    enforceNameConstraintsAt crates path state top = .ok next ↔
      ∃ sole,
        NameConstraintState.default.addFromCert issuer = .ok sole ∧
          next = append state sole ∧
          ∀ sub ∈ path.take top, next.checkCert crates sub = .ok () := by
  simp only [enforceNameConstraintsAt, present]
  rw [addFromCert_eq_map]
  cases NameConstraintState.default.addFromCert issuer with
  | error error => simp [Except.map, Except.mapError]
  | ok sole =>
      simp only [Except.map, mapError_ok, ok_bind, Except.ok.injEq,
        exists_eq_left']
      cases empty : (append state sole).isEmpty with
      | true =>
          simp only [if_true, pure_eq_ok]
          constructor
          · intro same
            subst same
            refine ⟨rfl, ?_⟩
            intro sub _
            simp [NameConstraintState.checkCert, empty]
          · intro both
            exact both.1.symm
      | false =>
          simp only [Bool.false_eq_true, if_false, bind_eq_ok,
            exists_const, forM_eq_ok, mapError_eq_ok, pure_eq_ok]
          constructor
          · intro both
            rcases both with ⟨checked, same⟩
            subst same
            exact ⟨rfl, checked⟩
          · intro both
            rcases both with ⟨same, checked⟩
            subst same
            exact ⟨checked, rfl⟩

/--
The walk from a state over decreasing positions succeeds exactly when every
issuer alone, and the state itself, permit all the certificates below.
-/
theorem foldlM_enforceNameConstraintsAt_iff
    (path : List Certificate) (tops : List Nat)
    (decreasing : tops.Pairwise (· > ·))
    (inside : ∀ top ∈ tops, top < path.length)
    (state : NameConstraintState) :
    (∃ final,
        tops.foldlM (enforceNameConstraintsAt crates path) state =
          .ok final) ↔
      (∀ top ∈ tops, ∀ issuer, path[top]? = some issuer →
          IssuerPermits crates issuer (path.take top)) ∧
        ∀ top ∈ tops, ∀ sub ∈ path.take top,
          state.checkCert crates sub = .ok () := by
  induction tops generalizing state with
  | nil => simp
  | cons top tops induction =>
      rw [List.pairwise_cons] at decreasing
      rw [List.forall_mem_cons] at inside
      have present : path[top]? = some path[top] :=
        List.getElem?_eq_getElem inside.1
      -- what is below a later position is below this one
      have nested :
          ∀ later ∈ tops, ∀ sub ∈ path.take later, sub ∈ path.take top := by
        intro later member sub subMember
        have smaller : later < top := decreasing.1 later member
        exact
          (List.take_prefix_take_left (Nat.le_of_lt smaller)).subset
            subMember
      rw [List.foldlM_cons]
      simp only [bind_eq_ok]
      constructor
      · intro walked
        rcases walked with ⟨final, next, stepped, walked⟩
        rcases
            (enforceNameConstraintsAt_eq_ok_iff crates present).1 stepped with
          ⟨sole, read, rfl, checked⟩
        have rest :=
          (induction decreasing.2 inside.2 (append state sole)).1
            ⟨final, walked⟩
        have apart :
            ∀ sub ∈ path.take top,
              state.checkCert crates sub = .ok () ∧
                sole.checkCert crates sub = .ok () := by
          intro sub member
          exact (checkCert_append crates state sole sub).1 (checked sub member)
        constructor
        · intro position member issuer issuerPresent
          rcases List.mem_cons.mp member with rfl | later
          · rw [present, Option.some.injEq] at issuerPresent
            subst issuerPresent
            exact ⟨sole, read, fun sub subMember => (apart sub subMember).2⟩
          · exact rest.1 position later issuer issuerPresent
        · intro position member sub subMember
          rcases List.mem_cons.mp member with rfl | later
          · exact (apart sub subMember).1
          · exact (apart sub (nested position later sub subMember)).1
      · intro permitted
        rcases permitted with ⟨issuers, initial⟩
        rcases issuers top List.mem_cons_self _ present with
          ⟨sole, read, solePermits⟩
        have checked :
            ∀ sub ∈ path.take top,
              (append state sole).checkCert crates sub = .ok () := by
          intro sub member
          exact
            (checkCert_append crates state sole sub).2
              ⟨initial top List.mem_cons_self sub member,
                solePermits sub member⟩
        have stepped :
            enforceNameConstraintsAt crates path state top =
              .ok (append state sole) :=
          (enforceNameConstraintsAt_eq_ok_iff crates present).2
            ⟨sole, read, rfl, checked⟩
        have rest :=
          (induction decreasing.2 inside.2 (append state sole)).2
            ⟨fun later member => issuers later (List.mem_cons_of_mem top member),
              fun later member sub subMember =>
                checked sub (nested later member sub subMember)⟩
        rcases rest with ⟨final, walked⟩
        exact ⟨final, append state sole, stepped, walked⟩

/-- A path is accepted when every issuer alone permits everything below it. -/
theorem enforceNameConstraintsPath_eq_ok_iff (path : List Certificate) :
    enforceNameConstraintsPath crates path = .ok () ↔
      ∀ top issuer, 1 ≤ top → path[top]? = some issuer →
        IssuerPermits crates issuer (path.take top) := by
  have walk :=
    foldlM_enforceNameConstraintsAt_iff crates path
      (List.range' 1 (path.length - 1)).reverse
      (by
        rw [List.pairwise_reverse]
        exact List.pairwise_lt_range')
      (by
        intro top member
        rw [List.mem_reverse, List.mem_range'_1] at member
        omega)
      .default
  have accepted :
      enforceNameConstraintsPath crates path = .ok () ↔
        ∃ final,
          (List.range' 1 (path.length - 1)).reverse.foldlM
              (enforceNameConstraintsAt crates path) .default =
            .ok final := by
    simp only [enforceNameConstraintsPath, bind_eq_ok, pure_eq_ok, and_true]
  rw [accepted, walk]
  constructor
  · intro permitted top issuer positive present
    refine permitted.1 top ?_ issuer present
    have bounded : top < path.length :=
      (List.getElem?_eq_some_iff.mp present).1
    rw [List.mem_reverse, List.mem_range'_1]
    omega
  · intro permitted
    constructor
    · intro top member issuer present
      rw [List.mem_reverse, List.mem_range'_1] at member
      exact permitted top issuer member.1 present
    · intro _ _ _ _
      rfl

/-- Taking the top issuer off an accepted path leaves an accepted path. -/
theorem enforceNameConstraintsPath_of_concat
    {path : List Certificate} {top : Certificate}
    (accepted : enforceNameConstraintsPath crates (path ++ [top]) = .ok ()) :
    enforceNameConstraintsPath crates path = .ok () := by
  rw [enforceNameConstraintsPath_eq_ok_iff] at accepted ⊢
  intro position issuer positive present
  have bounded : position < path.length :=
    (List.getElem?_eq_some_iff.mp present).1
  have permits :=
    accepted position issuer positive
      (by rw [List.getElem?_append_left bounded]; exact present)
  rw [List.take_append_of_le_length (Nat.le_of_lt bounded)] at permits
  exact permits

/--
Name constraints over a path are the pairwise constraints of its issuers, and a
sequence of extension values accepts exactly what each of them accepts alone:
in any order, and never more for a longer sequence.
-/
theorem nameConstraints_pairwise :
    (∀ path : List Certificate,
        enforceNameConstraintsPath crates path = .ok () ↔
          ∀ j issuer, 1 ≤ j → path[j]? = some issuer →
            ∃ sole,
              NameConstraintState.default.addFromCert issuer = .ok sole ∧
                ∀ i sub, i < j → path[i]? = some sub →
                  sole.checkCert crates sub = .ok ()) ∧
      (∀ values : List Bytes,
        acceptedBy crates values =
          ⋂ value ∈ values, acceptedBy crates [value]) ∧
      (∀ values reordered : List Bytes, values.Perm reordered →
        acceptedBy crates values = acceptedBy crates reordered) ∧
      ∀ values subordinate : List Bytes,
        acceptedBy crates (values ++ subordinate) ⊆
          acceptedBy crates values := by
  refine ⟨?_, ?_, ?_, ?_⟩
  · intro path
    rw [enforceNameConstraintsPath_eq_ok_iff]
    apply forall₄_congr
    intro j issuer _ _
    apply exists_congr
    intro sole
    apply and_congr_right
    intro _
    constructor
    · intro all i sub below present
      refine all sub (List.mem_take_iff_getElem.mpr ?_)
      rcases List.getElem?_eq_some_iff.mp present with ⟨bounded, same⟩
      exact ⟨i, by omega, same⟩
    · intro all sub member
      rcases List.mem_take_iff_getElem.mp member with ⟨i, bounded, same⟩
      exact
        all i sub (by omega)
          (List.getElem?_eq_some_iff.mpr ⟨by omega, same⟩)
  · intro values
    simp only [acceptedBy_eq_admittedBy]
    exact (restriction crates).admittedBy_eq_iInter _ values
  · intro values reordered permuted
    simp only [acceptedBy_eq_admittedBy]
    exact (restriction crates).admittedBy_perm _ permuted
  · intro values subordinate
    simp only [acceptedBy_eq_admittedBy]
    exact (restriction crates).admittedBy_append_subset _ values subordinate

end RitspLtv.Ltv.NameConstraintSemantics
