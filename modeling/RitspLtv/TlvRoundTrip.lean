import RitspLtv.BigEndian

/-!
# TLV encoding and decoding are inverse

`LengthOctets` says which octets are the definite form of a length.  There is
exactly one such form of each length below `2 ^ 32`; the encoder writes it, and
the decoder reads nothing else.  An element that is read is therefore the
encoding of what was read, and a walk from one element to the next ends.
-/

namespace RitspLtv.TlvRoundTrip

open RitspLtv.Foundation.Checks
open RitspLtv.Foundation.Consume
open RitspLtv.RustStd
open RitspLtv.BigEndian
open RitspLtv.DerUtils

/-! ## Length octets -/

/-- The definite, minimal form of a length, in at most five octets. -/
inductive LengthOctets : Nat → Bytes → Prop where
  | short (octet : UInt8) (low : octet < 0x80) :
      LengthOctets octet.toNat [octet]
  | long (octets : Bytes) (nonempty : octets ≠ []) (few : octets.length ≤ 4)
      (noZero : octets.head? ≠ some 0)
      (needed : 128 ≤ bigEndian octets) :
      LengthOctets (bigEndian octets)
        (UInt8.ofNat (128 + octets.length) :: octets)

theorem LengthOctets.lt
    {length : Nat} {octets : Bytes}
    (form : LengthOctets length octets) :
    length < 2 ^ 32 := by
  cases form with
  | short octet low =>
      have small := octet.toNat_lt
      omega
  | long octets nonempty few noZero needed =>
      calc
        bigEndian octets < 256 ^ octets.length := bigEndian_lt octets
        _ ≤ 256 ^ 4 := Nat.pow_le_pow_right (by decide) few
        _ = 2 ^ 32 := by decide

/-- A length has only one form. -/
theorem LengthOctets.unique
    {length : Nat} {left right : Bytes}
    (leftForm : LengthOctets length left)
    (rightForm : LengthOctets length right) :
    left = right := by
  cases leftForm with
  | short octet low =>
      have small : octet.toNat < 128 := low
      generalize valueIs : octet.toNat = value at rightForm
      cases rightForm with
      | short other otherLow =>
          rw [UInt8.toNat_inj] at valueIs
          rw [valueIs]
      | long octets nonempty few noZero needed => omega
  | long octets nonempty few noZero needed =>
      generalize valueIs : bigEndian octets = value at rightForm
      cases rightForm with
      | short other otherLow =>
          have small : other.toNat < 128 := otherLow
          omega
      | long others otherNonempty otherFew otherNoZero otherNeeded =>
          rw [eq_of_bigEndian_of_head noZero otherNoZero valueIs]

/-- The long form of a length that needs its first octet. -/
theorem LengthOctets.of_toBeBytes
    (count : Nat) {length : Nat}
    (few : count < 4)
    (low : 256 ^ count ≤ length)
    (high : length < 256 ^ (count + 1))
    (needed : 128 ≤ length) :
    LengthOctets length
      (UInt8.ofNat (128 + (count + 1)) :: toBeBytes (count + 1) length) := by
  have octets := length_toBeBytes (count + 1) length
  have value : bigEndian (toBeBytes (count + 1) length) = length := by
    rw [bigEndian_toBeBytes, Nat.mod_eq_of_lt high]
  have noZero : (toBeBytes (count + 1) length).head? ≠ some 0 := by
    intro zero
    rcases List.head?_eq_some_iff.mp zero with ⟨tail, split⟩
    rw [split] at octets value
    have bounded := bigEndian_lt tail
    rw [Nat.succ.inj octets] at bounded
    rw [bigEndian_cons, UInt8.toNat_zero, Nat.zero_mul, Nat.zero_add] at value
    omega
  have form :=
    LengthOctets.long (toBeBytes (count + 1) length)
      (List.ne_nil_of_length_eq_add_one octets) (by rw [octets]; exact few)
      noZero (by rw [value]; exact needed)
  rw [value, octets] at form
  exact form

/-- The encoder writes the form of a length. -/
theorem lengthOctets_encodeDerLength
    {length : Nat} (bounded : length < 2 ^ 32) :
    LengthOctets length (encodeDerLength length) := by
  rw [encodeDerLength]
  split
  · next short =>
      have value : (UInt8.ofNat length).toNat = length := by
        rw [UInt8.toNat_ofNat']
        omega
      have form :=
        LengthOctets.short (UInt8.ofNat length)
          (UInt8.lt_iff_toNat_lt.mpr (by rw [value]; exact short))
      rw [value] at form
      exact form
  · next notShort =>
      have needed : 128 ≤ length := Nat.not_lt.mp notShort
      split
      · next one =>
          exact .of_toBeBytes 0 (by decide) (by omega) (by omega) needed
      · next notOne =>
          split
          · next two =>
              exact .of_toBeBytes 1 (by decide) (by omega) (by omega) needed
          · next notTwo =>
              split
              · next three =>
                  have form :=
                    LengthOctets.of_toBeBytes 2 (by decide) (by omega)
                      (by omega) needed
                  simp only [toBeBytes, Nat.div_div_eq_div_mul] at form
                  exact form
              · next notThree =>
                  have form :=
                    LengthOctets.of_toBeBytes 3 (by decide) (by omega)
                      (by omega) needed
                  simp only [toBeBytes, Nat.div_div_eq_div_mul] at form
                  exact form

/-! ## Reading a length -/

/-- The count in the first octet of a long form. -/
theorem toNat_and_count (first : UInt8) :
    (first &&& 0x7F).toNat = first.toNat % 128 := by
  rw [UInt8.toNat_and]
  exact Nat.and_two_pow_sub_one_eq_mod first.toNat 7

/-- The decoder reads the form of a length, whatever follows it. -/
theorem parseDerLength_append
    {length : Nat} {octets : Bytes}
    (form : LengthOctets length octets) (rest : Bytes) :
    parseDerLength (octets ++ rest) = .ok (length, octets.length) := by
  cases form with
  | short octet low =>
      rw [List.singleton_append, parseDerLength, if_pos low]
      rfl
  | long octets nonempty few noZero needed =>
      have first : (UInt8.ofNat (128 + octets.length)).toNat =
          128 + octets.length := by
        rw [UInt8.toNat_ofNat']
        omega
      have positive := List.length_pos_iff.mpr nonempty
      have count :
          (UInt8.ofNat (128 + octets.length) &&& 0x7F).toNat =
            octets.length := by
        rw [toNat_and_count, first]
        omega
      have notShort : ¬ UInt8.ofNat (128 + octets.length) < 0x80 := by
        rw [UInt8.lt_iff_toNat_lt, first]
        exact Nat.not_lt.mpr (Nat.le_add_right 128 _)
      have definite : UInt8.ofNat (128 + octets.length) ≠ 0x80 := by
        intro same
        have sameValue := congrArg UInt8.toNat same
        rw [first] at sameValue
        change 128 + octets.length = 128 at sameValue
        omega
      have head : (octets ++ rest).head? = octets.head? := by
        cases octets with
        | nil => exact absurd rfl nonempty
        | cons head tail => rfl
      rw [List.cons_append, parseDerLength, if_neg notShort,
        if_neg definite, count]
      simp only [List.take_left, head, bind_eq_ok, rejectIf_eq_ok,
        exists_const, pure_eq_ok, Prod.mk.injEq, List.length_cons,
        List.length_append]
      refine
        ⟨Nat.not_lt.mpr few, by omega, noZero, Nat.not_lt.mpr needed,
          trivial, ?_⟩
      exact Nat.add_comm 1 _

/-- What is read as a length is its form. -/
theorem lengthOctets_of_parseDerLength
    {data : Bytes} {length headerLength : Nat}
    (parsed : parseDerLength data = .ok (length, headerLength)) :
    ∃ octets rest,
      data = octets ++ rest ∧ headerLength = octets.length ∧
        LengthOctets length octets := by
  cases data with
  | nil => cases parsed
  | cons first following =>
      rw [parseDerLength] at parsed
      split at parsed
      · next low =>
          cases parsed
          exact ⟨[first], following, rfl, rfl, .short first low⟩
      · next notShort =>
          split at parsed
          · cases parsed
          · next definite =>
              simp only [bind_eq_ok, rejectIf_eq_ok, exists_const,
                pure_eq_ok, Prod.mk.injEq, toNat_and_count] at parsed
              rcases parsed with
                ⟨few, available, noZero, needed, rfl, rfl⟩
              have high : 128 ≤ first.toNat := by
                rw [UInt8.lt_iff_toNat_lt] at notShort
                exact Nat.not_lt.mp notShort
              have bounded := first.toNat_lt
              have notZeroCount : first.toNat ≠ 128 := by
                intro same
                exact definite (UInt8.toNat_inj.mp same)
              rw [List.length_cons] at available
              have counted :
                  (following.take (first.toNat % 128)).length =
                    first.toNat % 128 := by
                rw [List.length_take]
                omega
              refine
                ⟨first :: following.take (first.toNat % 128),
                  following.drop (first.toNat % 128), ?_, ?_, ?_⟩
              · rw [List.cons_append, List.take_append_drop]
              · rw [List.length_cons, counted, Nat.add_comm]
              · have isFirst :
                    first =
                      UInt8.ofNat
                        (128 +
                          (following.take (first.toNat % 128)).length) := by
                  rw [counted, ← UInt8.toNat_inj, UInt8.toNat_ofNat']
                  omega
                have form :=
                  LengthOctets.long (following.take (first.toNat % 128))
                    (List.ne_nil_of_length_pos (by omega)) (by omega)
                    (by
                      rw [List.head?_take, if_neg (by omega)]
                      exact noZero)
                    (Nat.not_lt.mp needed)
                rw [← isFirst] at form
                exact form

/-! ## Elements -/

/-- The tag number of an element fits the tag octet. -/
def LowTag (tag : UInt8) : Prop :=
  tag &&& 0x1F ≠ 0x1F

instance (tag : UInt8) : Decidable (LowTag tag) :=
  inferInstanceAs (Decidable (tag &&& 0x1F ≠ 0x1F))

/-- An element is read exactly where its encoding stands. -/
theorem parseTlvWithRest_eq_ok_iff
    {data value rest : Bytes} {tag : UInt8} :
    parseTlvWithRest data = .ok (tag, value, rest) ↔
      LowTag tag ∧ value.length < 2 ^ 32 ∧
        data = encodeTlv tag value ++ rest := by
  constructor
  · intro parsed
    cases data with
    | nil => cases parsed
    | cons first following =>
        simp only [parseTlvWithRest, bind_eq_ok, rejectIf_eq_ok,
          exists_const, pure_eq_ok, Prod.exists, Prod.mk.injEq] at parsed
        rcases parsed with
          ⟨lowTag, length, headerLength, header, fits, rfl, rfl, rfl⟩
        rcases lengthOctets_of_parseDerLength header with
          ⟨octets, behind, rfl, rfl, form⟩
        have dropped :
            (first :: (octets ++ behind)).drop (1 + octets.length) =
              behind := by
          rw [Nat.add_comm, List.drop_succ_cons, List.drop_left]
        rw [List.length_cons, List.length_append] at fits
        have whole : (behind.take length).length = length := by
          rw [List.length_take]
          omega
        have droppedBoth :
            (first :: (octets ++ behind)).drop (1 + octets.length + length) =
              behind.drop length := by
          rw [← List.drop_drop, dropped]
        rw [dropped, droppedBoth, whole]
        refine ⟨lowTag, form.lt, ?_⟩
        have encoded :=
          (lengthOctets_encodeDerLength form.lt).unique form
        rw [encodeTlv, whole, encoded, List.cons_append, List.append_assoc,
          List.take_append_drop]
  · rintro ⟨lowTag, bounded, rfl⟩
    have form := lengthOctets_encodeDerLength bounded
    rw [encodeTlv, List.cons_append, List.append_assoc]
    simp only [parseTlvWithRest, parseDerLength_append form, bind_eq_ok,
      rejectIf_eq_ok, exists_const, pure_eq_ok, Prod.exists, Prod.mk.injEq,
      Except.ok.injEq, List.length_cons, List.length_append]
    have dropped :
        (tag :: (encodeDerLength value.length ++ (value ++ rest))).drop
            (1 + (encodeDerLength value.length).length) =
          value ++ rest := by
      rw [Nat.add_comm, List.drop_succ_cons, List.drop_left]
    refine
      ⟨lowTag, value.length, _, ⟨rfl, rfl⟩, by omega, trivial, ?_, ?_⟩
    · rw [dropped, List.take_left]
    · rw [← List.drop_drop, dropped, List.drop_left]

theorem parseTlvWithRest_encodeTlv
    {tag : UInt8} {value : Bytes}
    (lowTag : LowTag tag) (bounded : value.length < 2 ^ 32) (rest : Bytes) :
    parseTlvWithRest (encodeTlv tag value ++ rest) = .ok (tag, value, rest) :=
  parseTlvWithRest_eq_ok_iff.2 ⟨lowTag, bounded, rfl⟩

theorem eq_encodeTlv_of_parse
    {data value rest : Bytes} {tag : UInt8}
    (parsed : parseTlvWithRest data = .ok (tag, value, rest)) :
    data = encodeTlv tag value ++ rest :=
  (parseTlvWithRest_eq_ok_iff.1 parsed).2.2

/-- The octets in front of what follows an element are its encoding. -/
theorem take_eq_encodeTlv
    {data value rest : Bytes} {tag : UInt8}
    (parsed : parseTlvWithRest data = .ok (tag, value, rest)) :
    data.take (data.length - rest.length) = encodeTlv tag value := by
  rw [eq_encodeTlv_of_parse parsed, List.length_append,
    Nat.add_sub_cancel, List.take_left]

/-- Without the rest, the element in front is read. -/
theorem parseTlv_eq_ok_iff
    {data value : Bytes} {tag : UInt8} :
    parseTlv data = .ok (tag, value) ↔
      ∃ rest, parseTlvWithRest data = .ok (tag, value, rest) := by
  simp only [parseTlv, bind_eq_ok, pure_eq_ok, Prod.exists, Prod.mk.injEq]
  constructor
  · rintro ⟨_, _, rest, parsed, rfl, rfl⟩
    exact ⟨rest, parsed⟩
  · rintro ⟨rest, parsed⟩
    exact ⟨tag, value, rest, parsed, rfl, rfl⟩

/-! ## Walks -/

/-- One element behind another. -/
def Follows (rest data : Bytes) : Prop :=
  ∃ tag value, parseTlvWithRest data = .ok (tag, value, rest)

/-- No walk from element to element goes on for ever. -/
theorem wellFounded_follows : WellFounded Follows := by
  apply Subrelation.wf _ (measure List.length).wf
  rintro rest data ⟨tag, value, parsed⟩
  exact parseTlvWithRest_shrinks parsed

/--
A walk that counts down from the length of its input: the count does not matter
when it is enough, as long as each round goes on behind the element it has read.
-/
theorem walk_eq
    {α : Type} {walk : Nat → Bytes → α}
    (empty : ∀ fuel other, walk fuel [] = walk other [])
    (round :
      ∀ fuel other head tail,
        (∀ rest, Follows rest (head :: tail) →
          walk fuel rest = walk other rest) →
        walk (fuel + 1) (head :: tail) = walk (other + 1) (head :: tail))
    {fuel other : Nat} {data : Bytes}
    (enough : data.length ≤ fuel)
    (otherEnough : data.length ≤ other) :
    walk fuel data = walk other data := by
  induction fuel generalizing other data with
  | zero =>
      cases data with
      | nil => exact empty 0 other
      | cons head tail => cases enough
  | succ fuel induction =>
      cases data with
      | nil => exact empty (fuel + 1) other
      | cons head tail =>
          cases other with
          | zero => cases otherEnough
          | succ other =>
              apply round
              rintro rest ⟨tag, value, parsed⟩
              have shorter := parseTlvWithRest_shrinks parsed
              exact
                induction (by omega) (by omega)

theorem findTaggedValueWithin_eq
    {targetTag : UInt8} {fuel : Nat} {body : Bytes}
    (enough : body.length ≤ fuel) :
    findTaggedValueWithin fuel targetTag body =
      findTaggedValue body targetTag := by
  apply
    @walk_eq _ (fun fuel body => findTaggedValueWithin fuel targetTag body)
      _ _ fuel body.length body enough (Nat.le_refl _)
  · intro fuel other
    cases fuel <;> cases other <;> rfl
  · intro fuel other head tail same
    simp only [findTaggedValueWithin]
    split
    · rfl
    · next tag value rest parsed =>
        rw [same rest ⟨tag, value, parsed⟩]

/-- The search goes from element to element until it finds the tag or an error. -/
theorem findTaggedValue_eq (body : Bytes) (targetTag : UInt8) :
    findTaggedValue body targetTag =
      match parseTlvWithRest body with
      | .error _ => none
      | .ok (tag, value, rest) =>
          if tag = targetTag then some value
          else findTaggedValue rest targetTag := by
  cases body with
  | nil => rfl
  | cons head tail =>
      rw [findTaggedValue, List.length_cons, findTaggedValueWithin]
      cases parsed : parseTlvWithRest (head :: tail) with
      | error e => rfl
      | ok element =>
          have shorter := parseTlvWithRest_shrinks parsed
          rw [List.length_cons] at shorter
          simp only
          rw [findTaggedValueWithin_eq (Nat.le_of_lt_succ shorter)]

theorem forEachTlvWithin_eq
    {σ : Type} {f : σ → UInt8 → Bytes → σ} {fuel : Nat} {state : σ}
    {body : Bytes}
    (enough : body.length ≤ fuel) :
    forEachTlvWithin f fuel state body = forEachTlv f state body := by
  have same :=
    @walk_eq _ (fun fuel body => fun state => forEachTlvWithin f fuel state body)
      (by
        intro fuel other
        funext state
        cases fuel <;> cases other <;> rfl)
      (by
        intro fuel other head tail same
        funext state
        simp only [forEachTlvWithin]
        split
        · rfl
        · next tag value rest parsed =>
            exact congrFun (same rest ⟨tag, value, parsed⟩) _)
      fuel body.length body enough (Nat.le_refl _)
  exact congrFun same state

/-- The visit goes from element to element until there is none or an error. -/
theorem forEachTlv_eq
    {σ : Type} (f : σ → UInt8 → Bytes → σ) (state : σ) (body : Bytes) :
    forEachTlv f state body =
      match parseTlvWithRest body with
      | .error _ => state
      | .ok (tag, value, rest) => forEachTlv f (f state tag value) rest := by
  cases body with
  | nil => rfl
  | cons head tail =>
      rw [forEachTlv, List.length_cons, forEachTlvWithin]
      cases parsed : parseTlvWithRest (head :: tail) with
      | error e => rfl
      | ok element =>
          have shorter := parseTlvWithRest_shrinks parsed
          rw [List.length_cons] at shorter
          exact forEachTlvWithin_eq (Nat.le_of_lt_succ shorter)

/-- Every round of the loop goes on behind the element it has read. -/
def ReadsTlv {ε σ : Type} (step : Step ε σ UInt8) : Prop :=
  ∀ {state next : σ} {input rest : Bytes},
    step state input = .ok (next, rest) → Follows rest input

theorem ReadsTlv.shrinks
    {ε σ : Type} {step : Step ε σ UInt8} (reads : ReadsTlv step) :
    Shrinks step := by
  intro state input next rest stepped
  rcases reads stepped with ⟨tag, value, parsed⟩
  exact parseTlvWithRest_shrinks parsed

end RitspLtv.TlvRoundTrip
