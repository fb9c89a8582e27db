import RitspLtv.TlvRoundTrip
import Mathlib.Data.List.Forall2

/-!
# Bodies as lists of elements

The body of a constructed value is the encodings of its elements, one behind
the other, and determines them.  A loop that reads a body succeeds exactly when
the body consists of elements and every one of them is handled in turn; so what
a parser loop does can be said about elements, without the loop.
-/

namespace RitspLtv.TlvElements

open RitspLtv.Foundation.Checks
open RitspLtv.Foundation.Consume
open RitspLtv.RustStd
open RitspLtv.DerUtils
open RitspLtv.TlvRoundTrip

/-! ## Elements -/

/-- An element: its tag and its contents. -/
abbrev Element := UInt8 × Bytes

/-- An element that is read where its encoding stands. -/
def Readable (element : Element) : Prop :=
  LowTag element.1 ∧ element.2.length < 2 ^ 32

instance (element : Element) : Decidable (Readable element) :=
  inferInstanceAs (Decidable (_ ∧ _))

theorem readable_of_lowTag
    {tag : UInt8} {value : Bytes}
    (low : LowTag tag) (short : value.length < 2 ^ 32) :
    Readable (tag, value) :=
  ⟨low, short⟩

def encodeElement (element : Element) : Bytes :=
  encodeTlv element.1 element.2

/-- The encodings of elements, one behind the other. -/
def encodeElements (elements : List Element) : Bytes :=
  elements.flatMap encodeElement

@[simp]
theorem encodeElements_nil : encodeElements [] = [] :=
  rfl

theorem encodeElements_cons (element : Element) (elements : List Element) :
    encodeElements (element :: elements) =
      encodeElement element ++ encodeElements elements :=
  rfl

theorem length_lt_encodeElement (element : Element) :
    element.2.length < (encodeElement element).length := by
  rw [encodeElement, encodeTlv, List.length_cons, List.length_append]
  omega

/-- A header is at most a tag and five octets of length. -/
theorem length_encodeElement_le (element : Element) :
    (encodeElement element).length ≤ element.2.length + 6 := by
  have header : (encodeDerLength element.2.length).length ≤ 5 := by
    simp only [encodeDerLength]
    split_ifs <;> simp
  rw [encodeElement, encodeTlv, List.length_cons, List.length_append]
  omega

/-- The body consists of these elements. -/
structure Consists (body : Bytes) (elements : List Element) : Prop where
  octets : body = encodeElements elements
  readable : ∀ element ∈ elements, Readable element

/-- What the decoder reads is an element in front of the rest. -/
theorem parse_iff
    {data rest : Bytes} {element : Element} :
    parseTlvWithRest data = .ok (element.1, element.2, rest) ↔
      Readable element ∧ data = encodeElement element ++ rest := by
  rw [parseTlvWithRest_eq_ok_iff, ← and_assoc]
  rfl

theorem octets_of_parse
    {data value rest : Bytes} {tag : UInt8}
    (parsed : parseTlvWithRest data = .ok (tag, value, rest)) :
    data = encodeElement (tag, value) ++ rest := by
  have both : Readable (tag, value) ∧ data = encodeElement (tag, value) ++ rest :=
    parse_iff.mp parsed
  exact both.2

/-- An element is announced by its tag. -/
theorem headD_of_parse
    {data rest : Bytes} {element : Element}
    (parsed : parseTlvWithRest data = .ok (element.1, element.2, rest)) :
    data.headD 0 = element.1 := by
  rw [octets_of_parse parsed]
  rfl

theorem Readable.parse
    {element : Element} (readable : Readable element) (rest : Bytes) :
    parseTlvWithRest (encodeElement element ++ rest) =
      .ok (element.1, element.2, rest) :=
  parse_iff.mpr ⟨readable, rfl⟩

namespace Consists

variable {body : Bytes} {element : Element} {elements others : List Element}

@[simp]
theorem nil_iff : Consists body [] ↔ body = [] := by
  constructor
  · intro consists
    exact consists.octets
  · intro empty
    exact ⟨empty, by simp⟩

theorem cons_iff :
    Consists body (element :: elements) ↔
      ∃ rest,
        parseTlvWithRest body = .ok (element.1, element.2, rest) ∧
          Consists rest elements := by
  constructor
  · intro consists
    refine
      ⟨encodeElements elements, parse_iff.mpr ⟨?_, consists.octets⟩,
        rfl, ?_⟩
    · exact consists.readable element List.mem_cons_self
    · intro other member
      exact consists.readable other (List.mem_cons_of_mem element member)
  · rintro ⟨rest, parsed, later⟩
    rcases parse_iff.mp parsed with ⟨readable, rfl⟩
    constructor
    · rw [encodeElements_cons, ← later.octets]
    · intro other member
      rcases List.mem_cons.mp member with rfl | laterMember
      · exact readable
      · exact later.readable other laterMember

theorem cons
    {rest : Bytes}
    (parsed : parseTlvWithRest body = .ok (element.1, element.2, rest))
    (later : Consists rest elements) :
    Consists body (element :: elements) :=
  cons_iff.mpr ⟨rest, parsed, later⟩

theorem single
    (parsed : parseTlvWithRest body = .ok (element.1, element.2, [])) :
    Consists body [element] :=
  cons parsed (nil_iff.mpr rfl)

/-- A body consists of one list of elements only. -/
theorem unique
    (left : Consists body elements) (right : Consists body others) :
    elements = others := by
  induction elements generalizing body others with
  | nil =>
      cases others with
      | nil => rfl
      | cons other others =>
          rw [nil_iff] at left
          rcases cons_iff.mp right with ⟨rest, parsed, _⟩
          rw [left] at parsed
          cases parsed
  | cons element elements induction =>
      rcases cons_iff.mp left with ⟨rest, parsed, later⟩
      cases others with
      | nil =>
          rw [nil_iff] at right
          rw [right] at parsed
          cases parsed
      | cons other others =>
          rcases cons_iff.mp right with ⟨otherRest, otherParsed, otherLater⟩
          rw [parsed, Except.ok.injEq, Prod.mk.injEq, Prod.mk.injEq]
            at otherParsed
          rcases otherParsed with ⟨sameTag, sameValue, rfl⟩
          rw [Prod.ext sameTag sameValue, induction later otherLater]

/-- The first octet of a body is the tag of its first element. -/
theorem head?_eq (consists : Consists body elements) :
    body.head? = elements.head?.map Prod.fst := by
  rw [consists.octets]
  cases elements <;> rfl

theorem encode
    (readable : ∀ element ∈ elements, Readable element) :
    Consists (encodeElements elements) elements :=
  ⟨rfl, readable⟩

/-- A field that is announced by its tag and parsed, and what follows it. -/
theorem field
    {tag : UInt8} {value : Bytes}
    (consists : Consists body ([(tag, value)] ++ others)) :
    ∃ rest,
      body.head? = some tag ∧
        parseTlvWithRest body = .ok (tag, value, rest) ∧
        Consists rest others := by
  rcases cons_iff.mp consists with ⟨rest, parsed, later⟩
  exact ⟨rest, consists.head?_eq, parsed, later⟩

/-- A body that consists of one element is its encoding. -/
theorem singleton_iff :
    Consists body [element] ↔
      Readable element ∧ body = encodeElement element := by
  rw [cons_iff]
  constructor
  · rintro ⟨rest, parsed, later⟩
    rw [nil_iff] at later
    rw [later, parse_iff, List.append_nil] at parsed
    exact parsed
  · intro encoded
    refine ⟨[], ?_, nil_iff.mpr rfl⟩
    rw [parse_iff, List.append_nil]
    exact encoded

end Consists

/-- A short encoding, alone, is parsed as its element. -/
theorem parse_of_short
    {tag : UInt8} {value : Bytes}
    (low : LowTag tag)
    (short : (encodeElement (tag, value)).length < 2 ^ 32) :
    parseTlvWithRest (encodeElement (tag, value)) = .ok (tag, value, []) := by
  have readable : Readable (tag, value) :=
    ⟨low, (length_lt_encodeElement (tag, value)).trans short⟩
  have parsed := readable.parse []
  rw [List.append_nil] at parsed
  exact parsed

/-- An element that stands alone inside another one is parsed. -/
theorem parse_of_wrapped
    {body value : Bytes} {outer tag : UInt8} {others : List Element}
    (consists :
      Consists body ((outer, encodeElement (tag, value)) :: others))
    (low : LowTag tag) :
    parseTlvWithRest (encodeElement (tag, value)) = .ok (tag, value, []) :=
  parse_of_short low (consists.readable _ List.mem_cons_self).2

/-- An element among others is not longer than all of them. -/
theorem encodeElement_length_le_of_mem
    {element : Element} {elements : List Element}
    (member : element ∈ elements) :
    (encodeElement element).length ≤ (encodeElements elements).length := by
  have part : (encodeElement element).Sublist (encodeElements elements) := by
    rw [encodeElements, List.flatMap_def]
    exact List.sublist_flatten_of_mem (List.mem_map_of_mem member)
  exact part.length_le

theorem length_le_of_mem
    {element : Element} {elements : List Element}
    (member : element ∈ elements) :
    element.2.length ≤ (encodeElements elements).length :=
  (length_lt_encodeElement element).le.trans
    (encodeElement_length_le_of_mem member)

/-- Elements whose tags are low consist of what they encode. -/
theorem consists_encodeElements
    {elements : List Element}
    (low : ∀ element ∈ elements, LowTag element.1)
    (bounded : (encodeElements elements).length < 2 ^ 32) :
    Consists (encodeElements elements) elements := by
  apply Consists.encode
  intro element member
  exact
    ⟨low element member,
      Nat.lt_of_le_of_lt (length_le_of_mem member) bounded⟩

/-- Different elements have different encodings, if those are short enough. -/
theorem eq_of_encodeElement
    {left right : Element}
    (readable : Readable left)
    (bounded : (encodeElement right).length < 2 ^ 32)
    (same : encodeElement left = encodeElement right) :
    left = right := by
  have sameTag : left.1 = right.1 := (List.cons.inj same).1
  have rightReadable : Readable right :=
    ⟨sameTag ▸ readable.1, (length_lt_encodeElement right).trans bounded⟩
  have lists : [left] = [right] :=
    Consists.unique (Consists.singleton_iff.mpr ⟨readable, rfl⟩)
      (Consists.singleton_iff.mpr ⟨rightReadable, same⟩)
  exact List.singleton_injective lists

/-! ## Elements in front of others -/

/-- Elements stand in front of the rest. -/
def Precede (elements : List Element) (input rest : Bytes) : Prop :=
  ∀ others, Consists rest others → Consists input (elements ++ others)

theorem Precede.nil {input : Bytes} : Precede [] input input := by
  intro others consists
  exact consists

theorem Precede.cons
    {element : Element} {fields : List Element} {input middle rest : Bytes}
    (parsed : parseTlvWithRest input = .ok (element.1, element.2, middle))
    (later : Precede fields middle rest) :
    Precede (element :: fields) input rest := by
  intro others consists
  exact Consists.cons parsed (later others consists)

theorem Precede.append
    {fields others : List Element} {input middle rest : Bytes}
    (former : Precede fields input middle)
    (later : Precede others middle rest) :
    Precede (fields ++ others) input rest := by
  intro following consists
  rw [List.append_assoc]
  exact former _ (later following consists)

theorem tag_of_head?
    {input value rest : Bytes} {tag expected : UInt8}
    (starts : input.head? = some expected)
    (parsed : parseTlvWithRest input = .ok (tag, value, rest)) :
    tag = expected := by
  have head := @headD_of_parse input rest (tag, value) parsed
  rw [List.headD_eq_head?_getD, starts] at head
  exact head.symm

/-! ## Searching -/

/-- The search returns the first element with the tag. -/
theorem findTaggedValue_of_consists
    {body : Bytes} {elements : List Element} (tag : UInt8)
    (consists : Consists body elements) :
    findTaggedValue body tag =
      (elements.find? fun element => element.1 = tag).map Prod.snd := by
  induction elements generalizing body with
  | nil =>
      rw [Consists.nil_iff.mp consists]
      rfl
  | cons element elements induction =>
      rcases Consists.cons_iff.mp consists with ⟨rest, parsed, later⟩
      rw [findTaggedValue_eq, parsed, List.find?_cons]
      by_cases found : element.1 = tag
      · simp [found]
      · simp [found, induction later]

/-! ## Loops over elements -/

variable {ε σ τ : Type}

/-- Every element is handled in turn, from one state to the next. -/
def Visits (handles : σ → Element → σ → Prop) :
    σ → List Element → σ → Prop
  | state, [], final => final = state
  | state, element :: elements, final =>
      ∃ next,
        handles state element next ∧ Visits handles next elements final

/-- What a round of the loop reads is one element that it handles. -/
def Reads (step : Step ε σ UInt8) (handles : σ → Element → σ → Prop) :
    Prop :=
  ∀ state input next rest,
    step state input = .ok (next, rest) →
      ∃ element : Element,
        parseTlvWithRest input = .ok (element.1, element.2, rest) ∧
          handles state element next

theorem Reads.shrinks
    {step : Step ε σ UInt8} {handles : σ → Element → σ → Prop}
    (rounds : Reads step handles) : Shrinks step := by
  intro state input next rest stepped
  rcases rounds state input next rest stepped with ⟨element, parsed, _⟩
  exact parseTlvWithRest_shrinks parsed

/-- A loop that succeeds has read elements, and handled every one of them. -/
theorem visits_of_consume
    {step : Step ε σ UInt8} {handles : σ → Element → σ → Prop}
    (rounds : Reads step handles)
    {state final : σ} {input : Bytes}
    (looped : consume step state input = .ok final) :
    ∃ elements,
      Consists input elements ∧ Visits handles state elements final := by
  generalize size : input.length = length
  induction length using Nat.strongRecOn generalizing state input with
  | ind length induction =>
      cases input with
      | nil =>
          rw [consume_nil, Except.ok.injEq] at looped
          exact ⟨[], Consists.nil_iff.mpr rfl, looped.symm⟩
      | cons head tail =>
          rw [consume_cons rounds.shrinks] at looped
          rcases bind_eq_ok.mp looped with ⟨⟨next, rest⟩, stepped, later⟩
          rcases rounds _ _ _ _ stepped with ⟨element, parsed, handled⟩
          have shorter : rest.length < length := by
            rw [← size]
            exact parseTlvWithRest_shrinks parsed
          rcases induction rest.length shorter later rfl with
            ⟨elements, consists, visits⟩
          exact
            ⟨element :: elements, Consists.cons parsed consists, next,
              handled, visits⟩

/-- A round of the loop reads exactly the elements it handles. -/
def Handles (step : Step ε σ UInt8) (handles : σ → Element → σ → Prop) :
    Prop :=
  ∀ state input next rest,
    step state input = .ok (next, rest) ↔
      ∃ element : Element,
        parseTlvWithRest input = .ok (element.1, element.2, rest) ∧
          handles state element next

theorem Handles.reads
    {step : Step ε σ UInt8} {handles : σ → Element → σ → Prop}
    (rounds : Handles step handles) : Reads step handles :=
  fun state input next rest => (rounds state input next rest).mp

/-- A loop succeeds on elements that it handles. -/
theorem consume_of_visits
    {step : Step ε σ UInt8} {handles : σ → Element → σ → Prop}
    (rounds : Handles step handles)
    {state final : σ} {input : Bytes} {elements : List Element}
    (consists : Consists input elements)
    (visits : Visits handles state elements final) :
    consume step state input = .ok final := by
  induction elements generalizing state input with
  | nil =>
      rw [Consists.nil_iff.mp consists, consume_nil]
      exact congrArg Except.ok visits.symm
  | cons element elements induction =>
      rcases Consists.cons_iff.mp consists with ⟨rest, parsed, later⟩
      rcases visits with ⟨next, handled, visits⟩
      have stepped :=
        (rounds state input next rest).mpr ⟨element, parsed, handled⟩
      cases input with
      | nil => cases parsed
      | cons head tail =>
          rw [consume_cons rounds.reads.shrinks]
          exact bind_eq_ok.mpr ⟨(next, rest), stepped, induction later visits⟩

/-- A loop succeeds exactly when its input consists of elements it handles. -/
theorem consume_eq_ok_iff
    {step : Step ε σ UInt8} {handles : σ → Element → σ → Prop}
    (rounds : Handles step handles)
    {state final : σ} {input : Bytes} :
    consume step state input = .ok final ↔
      ∃ elements,
        Consists input elements ∧ Visits handles state elements final := by
  constructor
  · exact visits_of_consume rounds.reads
  · rintro ⟨elements, consists, visits⟩
    exact consume_of_visits rounds consists visits

/-! ### Loops that collect -/

/-- Each element that is selected is handled by adding one item for it at the end. -/
theorem visits_select_iff
    {selects : Element → Bool} {item : Element → τ → Prop}
    {elements : List Element} {collected final : List τ} :
    Visits (fun state element next =>
        if selects element then
          ∃ value, item element value ∧ next = state ++ [value]
        else next = state)
        collected elements final ↔
      ∃ values, List.Forall₂ item (elements.filter selects) values ∧
        final = collected ++ values := by
  induction elements generalizing collected with
  | nil =>
      rw [Visits]
      constructor
      · rintro rfl
        exact ⟨[], .nil, (List.append_nil final).symm⟩
      · rintro ⟨values, read, rfl⟩
        cases read
        exact List.append_nil collected
  | cons element elements induction =>
      rw [Visits]
      by_cases selected : selects element = true
      · rw [List.filter_cons_of_pos selected]
        simp only [if_pos selected]
        constructor
        · rintro ⟨next, ⟨value, read, rfl⟩, visits⟩
          rcases induction.mp visits with ⟨values, others, rfl⟩
          exact
            ⟨value :: values, .cons read others, List.append_assoc _ _ _⟩
        · rintro ⟨values, read, rfl⟩
          cases read with
          | cons first others =>
              refine ⟨_, ⟨_, first, rfl⟩, induction.mpr ⟨_, others, ?_⟩⟩
              exact List.append_cons _ _ _
      · rw [List.filter_cons_of_neg selected]
        simp only [if_neg selected, exists_eq_left]
        exact induction

/-- A loop that selects returns one item for each element selected. -/
theorem consume_select_iff
    {step : Step ε (List τ) UInt8} {selects : Element → Bool}
    {item : Element → τ → Prop}
    (rounds :
      Handles step fun state element next =>
        if selects element then
          ∃ value, item element value ∧ next = state ++ [value]
        else next = state)
    {input : Bytes} {values : List τ} :
    consume step [] input = .ok values ↔
      ∃ elements,
        Consists input elements ∧
          List.Forall₂ item (elements.filter selects) values := by
  rw [consume_eq_ok_iff rounds]
  simp only [visits_select_iff, List.nil_append, exists_eq_right']

/-- Each element is handled by adding one item for it at the end. -/
theorem visits_collect_iff
    {item : Element → τ → Prop} {elements : List Element}
    {collected final : List τ} :
    Visits (fun state element next =>
        ∃ value, item element value ∧ next = state ++ [value])
        collected elements final ↔
      ∃ values, List.Forall₂ item elements values ∧
        final = collected ++ values := by
  have selecting :=
    @visits_select_iff τ (fun _ => true) item elements collected final
  simp only [if_true, List.filter_true] at selecting
  exact selecting

/-- A collecting loop returns one item for each element of its input. -/
theorem consume_collect_iff
    {step : Step ε (List τ) UInt8} {item : Element → τ → Prop}
    (rounds :
      Handles step fun state element next =>
        ∃ value, item element value ∧ next = state ++ [value])
    {input : Bytes} {values : List τ} :
    consume step [] input = .ok values ↔
      ∃ elements,
        Consists input elements ∧ List.Forall₂ item elements values := by
  rw [consume_eq_ok_iff rounds]
  simp only [visits_collect_iff, List.nil_append, exists_eq_right']

/-- Each element is handled by adding a list of items for it at the end. -/
theorem visits_concat_iff
    {items : Element → List τ → Prop} {elements : List Element}
    {collected final : List τ} :
    Visits (fun state element next =>
        ∃ values, items element values ∧ next = state ++ values)
        collected elements final ↔
      ∃ lists, List.Forall₂ items elements lists ∧
        final = collected ++ lists.flatten := by
  induction elements generalizing collected with
  | nil =>
      rw [Visits]
      constructor
      · rintro rfl
        exact ⟨[], .nil, (List.append_nil final).symm⟩
      · rintro ⟨lists, read, rfl⟩
        cases read
        exact List.append_nil collected
  | cons element elements induction =>
      rw [Visits]
      constructor
      · rintro ⟨next, ⟨values, read, rfl⟩, visits⟩
        rcases induction.mp visits with ⟨lists, others, rfl⟩
        exact ⟨values :: lists, .cons read others, List.append_assoc _ _ _⟩
      · rintro ⟨lists, read, rfl⟩
        cases read with
        | cons first others =>
            refine ⟨_, ⟨_, first, rfl⟩, induction.mpr ⟨_, others, ?_⟩⟩
            exact (List.append_assoc _ _ _).symm

/-- Such a loop returns the items of the elements of its input, in their order. -/
theorem consume_concat_iff
    {step : Step ε (List τ) UInt8} {items : Element → List τ → Prop}
    (rounds :
      Handles step fun state element next =>
        ∃ values, items element values ∧ next = state ++ values)
    {input : Bytes} {values : List τ} :
    consume step [] input = .ok values ↔
      ∃ elements lists,
        Consists input elements ∧ List.Forall₂ items elements lists ∧
          values = lists.flatten := by
  rw [consume_eq_ok_iff rounds]
  simp only [visits_concat_iff, List.nil_append, exists_and_left]

/-! ### Loops in a fixed order -/

/-- A field, and fields behind it, are fields behind the ones before it. -/
theorem cons_sublist_drop
    {order later : List UInt8} {first : UInt8} {last rank : Nat}
    (behind : last < rank) (found : order[rank - 1]? = some first)
    (others : later.Sublist (order.drop rank)) :
    (first :: later).Sublist (order.drop last) := by
  rcases List.getElem?_eq_some_iff.mp found with ⟨inside, rfl⟩
  have here : order.drop (rank - 1) = order[rank - 1] :: order.drop rank := by
    rw [List.drop_eq_getElem_cons inside]
    congr 2
    omega
  have whole := others.cons_cons order[rank - 1]
  rw [← here] at whole
  exact whole.trans (List.drop_sublist_drop_left order (by omega))

/-- Fields whose ranks increase are among those of the order, each once. -/
theorem sublist_of_visits
    {handles : σ → Element → σ → Prop} {order : List UInt8} {rank : σ → Nat}
    (increases :
      ∀ state element next, handles state element next →
        rank state < rank next ∧ order[rank next - 1]? = some element.1)
    {state final : σ} {elements : List Element}
    (visits : Visits handles state elements final) :
    (elements.map Prod.fst).Sublist (order.drop (rank state)) := by
  induction elements generalizing state with
  | nil => exact List.nil_sublist _
  | cons element elements induction =>
      rcases visits with ⟨next, handled, visits⟩
      rcases increases state element next handled with ⟨behind, found⟩
      exact cons_sublist_drop behind found (induction visits)

/-- What every round establishes about its element holds of all elements. -/
theorem forall_of_visits
    {handles : σ → Element → σ → Prop} {holds : Element → Prop}
    (establishes :
      ∀ state element next, handles state element next → holds element)
    {state final : σ} {elements : List Element}
    (visits : Visits handles state elements final) :
    ∀ element ∈ elements, holds element := by
  induction elements generalizing state with
  | nil =>
      intro element member
      cases member
  | cons first elements induction =>
      rcases visits with ⟨next, handled, visits⟩
      intro element member
      rcases List.mem_cons.mp member with rfl | later
      · exact establishes state element next handled
      · exact induction visits element later

end RitspLtv.TlvElements
