import RitspLtv.TlvElements
import RitspLtv.TimeFormats
import RitspLtv.Foundation.GreedyPairing
import RitspLtv.Reference
import Mathlib.Data.Multiset.MapFold

/-!
# directoryName constraints

A directory name is a list of RDNs, and an RDN a set of attributes.  A base
matches a name when each of its RDNs is, as a multiset of attributes, that of
the name at the same place.  Attributes are compared by a key: for the
interchangeable string types the words of the text without regard to case, and
for other types the tag and the octets.

The comparison pairs attributes greedily.  Having the same key is an
equivalence, so the pairing finds what there is to find, and what a name is
written like does not matter.
-/

namespace RitspLtv.Ltv.DirectoryNames

open RitspLtv.Foundation.Checks
open RitspLtv.Foundation.Consume
open RitspLtv.Foundation.GreedyPairing
open RitspLtv.RustStd
open RitspLtv.DerUtils
open RitspLtv.TlvRoundTrip
open RitspLtv.TlvElements
open RitspLtv.TimeFormats
open RitspLtv.Ltv.NameConstraints

/-! ## Texts -/

/-- The words of a text: what stands between its white space. -/
def words (text : List Nat) : List (List Nat) :=
  (text.splitOnP isWhitespace).filter fun word => !word.isEmpty

/-- Put a word behind others, with a space in between. -/
def appendWord (out word : List Nat) : List Nat :=
  (if out.isEmpty then out else out ++ [0x20]) ++ word

/-- A word without regard to case. -/
def foldCase (crates : Crates) (word : List Nat) : List Nat :=
  word.flatMap crates.toLowercase

/-- The words of a text without regard to case. -/
def foldedWords (crates : Crates) (text : List Nat) : List (List Nat) :=
  (words text).map (foldCase crates)

section Texts

variable {crates : Crates}

/-- What the scan of a text adds to its output: a word begun, then whole words. -/
theorem foldl_normalizeChar
    (text out : List Nat) (pendingSpace : Bool) :
    (text.foldl (normalizeChar crates) (out, pendingSpace)).1 =
      match text.splitOnP isWhitespace with
      | [] => out
      | word :: rest =>
          ((rest.filter fun word => !word.isEmpty).map
              (foldCase crates)).foldl
            appendWord
            (if word.isEmpty then out
              else
                (if pendingSpace then out ++ [0x20] else out) ++
                  foldCase crates word) := by
  induction text generalizing out pendingSpace with
  | nil => rfl
  | cons scalar text induction =>
      rw [List.foldl_cons, List.splitOnP_cons_eq_if_modifyHead]
      have nonempty := List.splitOnP_ne_nil isWhitespace text
      cases split : text.splitOnP isWhitespace with
      | nil => exact absurd split nonempty
      | cons word rest =>
          by_cases white : isWhitespace scalar = true
          · rw [normalizeChar, if_pos white, if_pos white, induction, split]
            cases word with
            | nil => rfl
            | cons first word =>
                cases out <;> simp [appendWord]
          · rw [normalizeChar, if_neg white, if_neg white, induction, split]
            cases word with
            | nil => simp [foldCase]
            | cons first word => simp [foldCase]

/-- A normalized text is its words without regard to case. -/
def normalText (crates : Crates) (text : List Nat) : List Nat :=
  (foldedWords crates text).foldl appendWord []

theorem foldl_normalizeChar_eq_normalText (text : List Nat) :
    (text.foldl (normalizeChar crates) ([], false)).1 =
      normalText crates text := by
  rw [foldl_normalizeChar, normalText, foldedWords, words]
  cases text.splitOnP isWhitespace with
  | nil => rfl
  | cons word rest =>
      cases word with
      | nil => rfl
      | cons first word => rfl

theorem normalizeDirectoryString_of_scalars
    {octets : Bytes} {text : List Nat}
    (decoded : scalars octets = .ok text) :
    normalizeDirectoryString crates octets =
      some (normalText crates text) := by
  rw [normalizeDirectoryString, decoded]
  exact congrArg some (foldl_normalizeChar_eq_normalText text)

/-- A value that fits its string type is a text. -/
theorem exists_scalars_of_wellFormed
    {tag : UInt8} {octets : Bytes}
    (isText : tag ∈ directoryStringTags)
    (wellFormed : directoryStringWellFormed tag octets = true) :
    ∃ text, scalars octets = .ok text := by
  rw [directoryStringWellFormed] at wellFormed
  split at wellFormed
  · rw [fromUtf8] at wellFormed
    cases decoded : scalars octets with
    | ok text => exact ⟨text, rfl⟩
    | error e => simp [decoded] at wellFormed
  · next notUtf8 =>
      split at wellFormed
      · exact scalarsFrom_of_isAscii wellFormed
      · next notAscii =>
          simp [directoryStringTags, notUtf8] at isText
          exact absurd isText notAscii

end Texts

/-! ## Attributes -/

/--
The same type, and the same normalized text in string types, or else the same
tag and octets.
-/
def SameAttribute (crates : Crates) (base name : Atv) : Prop :=
  base.1 = name.1 ∧
    if base.2.1 ∈ directoryStringTags ∧ name.2.1 ∈ directoryStringTags then
      ∃ baseText nameText,
        scalars base.2.2 = .ok baseText ∧ scalars name.2.2 = .ok nameText ∧
          normalText crates baseText = normalText crates nameText
    else base.2 = name.2

/-- What attributes are compared by. -/
def atvKey (crates : Crates) (atv : Atv) :
    Bytes × (Option (List Nat) ⊕ (UInt8 × Bytes)) :=
  (atv.1,
    if atv.2.1 ∈ directoryStringTags then
      .inl (normalizeDirectoryString crates atv.2.2)
    else .inr atv.2)

/-- The test with which an attribute is paired. -/
def atvMatches (crates : Crates) (base name : Atv) : Bool :=
  name.1 = base.1 ∧
    atvValueMatches crates base.2.1 base.2.2 name.2.1 name.2.2 = true

/-- An attribute that is read where its encoding stands. -/
def WellFormedAtv (atv : Atv) : Prop :=
  LowTag atv.2.1 ∧ directoryStringWellFormed atv.2.1 atv.2.2 = true

instance (atv : Atv) : Decidable (WellFormedAtv atv) :=
  inferInstanceAs (Decidable (_ ∧ _))

section Attributes

variable {crates : Crates} {base name : Atv} {bases names : List Atv}

theorem pairAll_eq_pairGreedily (bases names : List Atv) :
    pairAll crates bases names =
      pairGreedily (atvMatches crates) bases names := by
  have used (base : Atv) (names : List Atv) :
      useMatch crates base names =
        useFirst (atvMatches crates) base names := by
    induction names with
    | nil => rfl
    | cons name names induction =>
        rw [useMatch, useFirst, induction]
        simp only [atvMatches, decide_eq_true_eq]
  induction bases generalizing names with
  | nil => rfl
  | cons base bases induction =>
      rw [pairAll, pairGreedily, used]
      cases useFirst (atvMatches crates) base names with
      | none => rfl
      | some unused => exact induction unused

/-- Well-formed attributes are the same exactly when their keys are. -/
theorem sameAttribute_iff_atvKey
    (baseWellFormed : directoryStringWellFormed base.2.1 base.2.2 = true)
    (nameWellFormed : directoryStringWellFormed name.2.1 name.2.2 = true) :
    SameAttribute crates base name ↔
      atvKey crates base = atvKey crates name := by
  have keys :
      atvKey crates base = atvKey crates name ↔
        base.1 = name.1 ∧ (atvKey crates base).2 = (atvKey crates name).2 :=
    Prod.ext_iff
  rw [keys, SameAttribute]
  apply and_congr_right
  intro _
  rw [atvKey, atvKey]
  by_cases baseText : base.2.1 ∈ directoryStringTags
  · rcases exists_scalars_of_wellFormed baseText baseWellFormed with
      ⟨text, decoded⟩
    rw [normalizeDirectoryString_of_scalars decoded, if_pos baseText]
    by_cases nameText : name.2.1 ∈ directoryStringTags
    · rcases exists_scalars_of_wellFormed nameText nameWellFormed with
        ⟨other, otherDecoded⟩
      rw [normalizeDirectoryString_of_scalars otherDecoded, if_pos nameText,
        if_pos ⟨baseText, nameText⟩, decoded, otherDecoded]
      simp
    · rw [if_neg nameText, if_neg fun both => nameText both.2]
      constructor
      · intro same
        rw [same] at baseText
        exact absurd baseText nameText
      · intro impossible
        cases impossible
  · rw [if_neg baseText, if_neg fun both => baseText both.1]
    by_cases nameText : name.2.1 ∈ directoryStringTags
    · rw [if_pos nameText]
      constructor
      · intro same
        rw [same] at baseText
        exact absurd nameText baseText
      · intro impossible
        cases impossible
    · rw [if_neg nameText, Sum.inr.injEq]

/-- The code's comparison finds the same attributes. -/
theorem atvMatches_iff_sameAttribute
    (baseWellFormed : directoryStringWellFormed base.2.1 base.2.2 = true)
    (nameWellFormed : directoryStringWellFormed name.2.1 name.2.2 = true) :
    atvMatches crates base name = true ↔ SameAttribute crates base name := by
  rw [atvMatches, SameAttribute, decide_eq_true_eq, atvValueMatches,
    eq_comm (a := name.1)]
  apply and_congr_right
  intro _
  split
  · next both =>
      rcases exists_scalars_of_wellFormed both.1 baseWellFormed with
        ⟨text, decoded⟩
      rcases exists_scalars_of_wellFormed both.2 nameWellFormed with
        ⟨other, otherDecoded⟩
      rw [normalizeDirectoryString_of_scalars decoded,
        normalizeDirectoryString_of_scalars otherDecoded, decoded,
        otherDecoded]
      simp
  · rw [Bool.and_eq_true, beq_iff_eq, beq_iff_eq, Prod.ext_iff]

/-- Attributes that fit their string types. -/
abbrev Fit (atvs : List Atv) : Prop :=
  ∀ atv ∈ atvs, directoryStringWellFormed atv.2.1 atv.2.2 = true

/-- Pairing compares attributes as multisets of keys. -/
theorem pairAll_iff_perm
    (basesFit : Fit bases) (namesFit : Fit names) :
    (bases.length == names.length && pairAll crates bases names) = true ↔
      (bases.map (atvKey crates)).Perm (names.map (atvKey crates)) := by
  rw [Bool.and_eq_true, beq_iff_eq, pairAll_eq_pairGreedily]
  apply pairGreedily_iff_perm
  intro base baseMember name nameMember
  rw [atvMatches_iff_sameAttribute (basesFit base baseMember)
    (namesFit name nameMember)]
  exact
    sameAttribute_iff_atvKey (basesFit base baseMember)
      (namesFit name nameMember)

/-- Equal multisets of keys are multisets of the same attributes. -/
theorem perm_iff_rel
    (basesFit : Fit bases) (namesFit : Fit names) :
    (bases.map (atvKey crates)).Perm (names.map (atvKey crates)) ↔
      Multiset.Rel (SameAttribute crates) bases names := by
  rw [← Multiset.coe_eq_coe, ← Multiset.map_coe, ← Multiset.map_coe,
    ← Multiset.rel_eq, Multiset.rel_map]
  constructor
  · intro related
    apply related.mono
    intro base baseMember name nameMember same
    exact
      (sameAttribute_iff_atvKey (basesFit base baseMember)
        (namesFit name nameMember)).mpr same
  · intro related
    apply related.mono
    intro base baseMember name nameMember same
    exact
      (sameAttribute_iff_atvKey (basesFit base baseMember)
        (namesFit name nameMember)).mp same

end Attributes

/-! ## Encoded names -/

/-- The elements of an attribute: its type and its value. -/
def atvElements (atv : Atv) : List Element :=
  [(0x06, atv.1), (atv.2.1, atv.2.2)]

def encodeAtv (atv : Atv) : Element :=
  (0x30, encodeElements (atvElements atv))

def encodeRdn (rdn : List Atv) : Element :=
  (0x31, encodeElements (rdn.map encodeAtv))

def encodeRdns (rdns : List (List Atv)) : Element :=
  (0x30, encodeElements (rdns.map encodeRdn))

/-- The octets are a directory name, bare or in its `[4]` wrapper. -/
inductive IsName : Bytes → List (List Atv) → Prop where
  | bare (rdns : List (List Atv))
      (wellFormed : ∀ rdn ∈ rdns, ∀ atv ∈ rdn, WellFormedAtv atv)
      (bounded : (encodeRdns rdns).2.length < 2 ^ 32) :
      IsName (encodeElement (encodeRdns rdns)) rdns
  | wrapped (rdns : List (List Atv))
      (wellFormed : ∀ rdn ∈ rdns, ∀ atv ∈ rdn, WellFormedAtv atv)
      (bounded : (encodeElement (encodeRdns rdns)).length < 2 ^ 32) :
      IsName
        (encodeElement (gnDirectory, encodeElement (encodeRdns rdns))) rdns

section Reading

/-- What a round over an RDN reads an attribute from. -/
def ReadsAtv (element : Element) (atv : Atv) : Prop :=
  element.1 = 0x30 ∧ Consists element.2 (atvElements atv) ∧
    directoryStringWellFormed atv.2.1 atv.2.2 = true

theorem handles_atvStep :
    Handles atvStep fun state element next =>
      ∃ atv, ReadsAtv element atv ∧ next = state ++ [atv] := by
  intro state input next rest
  simp only [atvStep, bind_eq_ok, mapError_eq_ok, rejectIf_eq_ok,
    exists_const, pure_eq_ok, Prod.exists, Prod.mk.injEq, ne_eq, not_not,
    Bool.not_eq_false, ReadsAtv, atvElements, Consists.cons_iff,
    Consists.nil_iff]
  constructor
  · rintro
      ⟨tag, body, _, parsed, rfl, _, oid, valRest, oidParsed, rfl, valTag,
        value, _, valueParsed, rfl, fits, rfl, rfl⟩
    exact
      ⟨0x30, body, parsed, oid, valTag, value,
        ⟨rfl, ⟨valRest, oidParsed, [], valueParsed, rfl⟩, fits⟩, rfl⟩
  · rintro
      ⟨_, body, parsed, oid, valTag, value,
        ⟨rfl, ⟨valRest, oidParsed, _, valueParsed, rfl⟩, fits⟩, rfl⟩
    exact
      ⟨0x30, body, rest, parsed, rfl, 0x06, oid, valRest, oidParsed, rfl,
        valTag, value, [], valueParsed, rfl, fits, rfl, rfl⟩

theorem handles_rdnStep :
    Handles rdnStep fun state element next =>
      ∃ rdn, (element.1 = 0x31 ∧ rdn = encodeElement element) ∧
        next = state ++ [rdn] := by
  intro state input next rest
  simp only [rdnStep, bind_eq_ok, mapError_eq_ok, rejectIf_eq_ok,
    exists_const, pure_eq_ok, Prod.exists, Prod.mk.injEq, ne_eq, not_not]
  constructor
  · rintro ⟨tag, body, after, parsed, isSet, rfl, rfl⟩
    refine ⟨tag, body, parsed, _, ⟨isSet, rfl⟩, ?_⟩
    rw [take_eq_encodeTlv parsed]
    rfl
  · rintro ⟨tag, body, parsed, _, ⟨isSet, rfl⟩, rfl⟩
    refine ⟨tag, body, rest, parsed, isSet, ?_, rfl⟩
    rw [take_eq_encodeTlv parsed]
    rfl

/-- The attributes of an accepted RDN fit their string types. -/
theorem fit_of_rdnAtvs
    {der : Bytes} {atvs : List Atv}
    (read : rdnAtvs der = .ok atvs) : Fit atvs := by
  simp only [rdnAtvs, bind_eq_ok, mapError_eq_ok, rejectIf_eq_ok,
    exists_const, Prod.exists, consume_collect_iff handles_atvStep] at read
  rcases read with ⟨tag, body, parsed, isSet, elements, consists, all⟩
  intro atv member
  rcases List.forall₂_iff_get.mp all with ⟨sameLength, reads⟩
  rcases List.mem_iff_get.mp member with ⟨index, rfl⟩
  exact (reads index.1 (by rw [sameLength]; exact index.2) index.2).2.2

/-- The decoder reads a bounded element that stands alone. -/
theorem parseTlv_encodeElement
    {element : Element} (low : LowTag element.1)
    (bounded : element.2.length < 2 ^ 32) :
    parseTlv (encodeElement element) = .ok (element.1, element.2) := by
  have parsed := Readable.parse ⟨low, bounded⟩ []
  rw [List.append_nil] at parsed
  exact parseTlv_eq_ok_iff.mpr ⟨[], parsed⟩

theorem reads_encodeAtv
    {atv : Atv} (wellFormed : WellFormedAtv atv)
    (bounded : (encodeAtv atv).2.length < 2 ^ 32) :
    ReadsAtv (encodeAtv atv) atv := by
  refine ⟨rfl, consists_encodeElements ?_ bounded, wellFormed.2⟩
  intro element member
  rcases List.mem_cons.mp member with rfl | later
  · show LowTag 0x06
    decide
  · rw [List.mem_singleton] at later
    rw [later]
    exact wellFormed.1

/-- The attributes of an encoded RDN are read back. -/
theorem rdnAtvs_encodeRdn
    {rdn : List Atv} (wellFormed : ∀ atv ∈ rdn, WellFormedAtv atv)
    (bounded : (encodeRdn rdn).2.length < 2 ^ 32) :
    rdnAtvs (encodeElement (encodeRdn rdn)) = .ok rdn := by
  have low : LowTag (encodeRdn rdn).1 := by
    show LowTag 0x31
    decide
  simp only [rdnAtvs, parseTlv_encodeElement low bounded, bind_eq_ok,
    mapError_eq_ok, rejectIf_eq_ok, exists_const, Prod.exists,
    Except.ok.injEq, Prod.mk.injEq, consume_collect_iff handles_atvStep]
  refine
    ⟨_, _, ⟨rfl, rfl⟩, not_not.mpr rfl, rdn.map encodeAtv,
      consists_encodeElements ?_ bounded, ?_⟩
  · intro element member
    rcases List.mem_map.mp member with ⟨atv, _, rfl⟩
    show LowTag 0x30
    decide
  · rw [List.forall₂_map_left_iff, List.forall₂_same]
    intro atv member
    apply reads_encodeAtv (wellFormed atv member)
    exact
      Nat.lt_of_le_of_lt (length_le_of_mem (List.mem_map_of_mem member))
        bounded

/-- The RDNs of the body of an encoded name are read back. -/
theorem consume_rdnStep_encodeRdns
    {rdns : List (List Atv)}
    (bounded : (encodeRdns rdns).2.length < 2 ^ 32) :
    consume rdnStep [] (encodeRdns rdns).2 =
      .ok (rdns.map fun rdn => encodeElement (encodeRdn rdn)) := by
  rw [consume_collect_iff handles_rdnStep]
  refine
    ⟨rdns.map encodeRdn, consists_encodeElements ?_ bounded, ?_⟩
  · intro element member
    rcases List.mem_map.mp member with ⟨rdn, _, rfl⟩
    show LowTag 0x31
    decide
  · rw [List.forall₂_map_left_iff, List.forall₂_map_right_iff,
      List.forall₂_same]
    intro rdn _
    exact ⟨rfl, rfl⟩

namespace IsName

variable {der : Bytes} {rdns : List (List Atv)}

theorem wellFormed
    (isName : IsName der rdns) :
    ∀ rdn ∈ rdns, ∀ atv ∈ rdn, WellFormedAtv atv := by
  cases isName with
  | bare _ wellFormed _ => exact wellFormed
  | wrapped _ wellFormed _ => exact wellFormed

theorem body_bounded
    (isName : IsName der rdns) : (encodeRdns rdns).2.length < 2 ^ 32 := by
  cases isName with
  | bare _ _ bounded => exact bounded
  | wrapped _ _ bounded =>
      apply Nat.lt_of_le_of_lt _ bounded
      have part : encodeRdns rdns ∈ [encodeRdns rdns] := List.mem_singleton_self _
      simpa [encodeElements_cons] using length_le_of_mem part

/-- The RDNs of a name are the encodings of its RDNs. -/
theorem innerNameRdns_eq
    (isName : IsName der rdns) :
    innerNameRdns der =
      .ok (rdns.map fun rdn => encodeElement (encodeRdn rdn)) := by
  have bounded := isName.body_bounded
  have low : LowTag (encodeRdns rdns).1 := by
    show LowTag 0x30
    decide
  have inner := parseTlv_encodeElement low bounded
  cases isName with
  | bare _ _ _ =>
      rw [innerNameRdns, inner, mapError_ok, ok_bind]
      exact consume_rdnStep_encodeRdns bounded
  | wrapped _ _ wrapperBounded =>
      have outer :
          parseTlv
              (encodeElement
                (gnDirectory, encodeElement (encodeRdns rdns))) =
            .ok (gnDirectory, encodeElement (encodeRdns rdns)) :=
        parseTlv_encodeElement (show LowTag gnDirectory by decide)
          wrapperBounded
      simp only [innerNameRdns, outer, inner, mapError_ok, ok_bind, if_true]
      exact consume_rdnStep_encodeRdns bounded

/-- Every RDN of a name is read back. -/
theorem rdnAtvs_eq
    (isName : IsName der rdns) {rdn : List Atv} (member : rdn ∈ rdns) :
    rdnAtvs (encodeElement (encodeRdn rdn)) = .ok rdn := by
  apply rdnAtvs_encodeRdn (isName.wellFormed rdn member)
  exact
    Nat.lt_of_le_of_lt (length_le_of_mem (List.mem_map_of_mem member))
      isName.body_bounded

end IsName

end Reading

/-! ## Matching -/

/-- The same attributes, as multisets. -/
def SameRdn (crates : Crates) (base name : List Atv) : Prop :=
  Multiset.Rel (SameAttribute crates) base name

/-- Each RDN of the base is that of the name at the same place. -/
def IsPrefixOf (crates : Crates) (base name : List (List Atv)) : Prop :=
  base.length ≤ name.length ∧
    ∀ (index : Nat) (baseRdn nameRdn : List Atv),
      base[index]? = some baseRdn → name[index]? = some nameRdn →
        SameRdn crates baseRdn nameRdn

/--
The same attribute, but perhaps re-cased, with other white space, or in another
string type.
-/
inductive Respelled (crates : Crates) : Atv → Atv → Prop where
  | unchanged (atv : Atv) : Respelled crates atv atv
  | text (oid : Bytes) {tag otherTag : UInt8} {octets otherOctets : Bytes}
      {text otherText : List Nat}
      (isText : tag ∈ directoryStringTags)
      (otherIsText : otherTag ∈ directoryStringTags)
      (decoded : scalars octets = .ok text)
      (otherDecoded : scalars otherOctets = .ok otherText)
      (sameWords : foldedWords crates text = foldedWords crates otherText) :
      Respelled crates (oid, tag, octets) (oid, otherTag, otherOctets)

/-- The same RDN, but perhaps respelled and in another order. -/
def Rewritten (crates : Crates) (rdn other : List Atv) : Prop :=
  ∃ reordered : List Atv,
    reordered.Perm rdn ∧ List.Forall₂ (Respelled crates) reordered other

section Matching

variable {crates : Crates} {base name mid other : List Atv}

theorem sameRdn_iff_perm
    (baseFit : Fit base) (nameFit : Fit name) :
    SameRdn crates base name ↔
      (base.map (atvKey crates)).Perm (name.map (atvKey crates)) :=
  (perm_iff_rel baseFit nameFit).symm

theorem SameRdn.refl (fit : Fit base) : SameRdn crates base base :=
  (sameRdn_iff_perm fit fit).mpr (List.Perm.refl _)

theorem SameRdn.trans
    (baseFit : Fit base) (midFit : Fit mid) (nameFit : Fit name)
    (first : SameRdn crates base mid) (second : SameRdn crates mid name) :
    SameRdn crates base name := by
  rw [sameRdn_iff_perm baseFit midFit] at first
  rw [sameRdn_iff_perm midFit nameFit] at second
  exact (sameRdn_iff_perm baseFit nameFit).mpr (first.trans second)

/-- Respelling an attribute does not change its key. -/
theorem Respelled.atvKey_eq
    {atv respelled : Atv} (same : Respelled crates atv respelled) :
    atvKey crates atv = atvKey crates respelled := by
  cases same with
  | unchanged => rfl
  | text oid isText otherIsText decoded otherDecoded sameWords =>
      rw [atvKey, atvKey, if_pos isText, if_pos otherIsText,
        normalizeDirectoryString_of_scalars decoded,
        normalizeDirectoryString_of_scalars otherDecoded, normalText,
        normalText, sameWords]

/-- Rewriting an RDN does not change its multiset of keys. -/
theorem Rewritten.perm
    (rewritten : Rewritten crates name other) :
    (name.map (atvKey crates)).Perm (other.map (atvKey crates)) := by
  rcases rewritten with ⟨reordered, isPerm, respelled⟩
  have sameKeys :
      reordered.map (atvKey crates) = other.map (atvKey crates) := by
    rw [← List.forall₂_eq_eq_eq, List.forall₂_map_left_iff,
      List.forall₂_map_right_iff]
    exact respelled.imp fun _ _ => Respelled.atvKey_eq
  rw [← sameKeys]
  exact (isPerm.map (atvKey crates)).symm

/-- The verdict on two RDNs whose attributes are read. -/
theorem rdnMatches_of_read
    {baseDer nameDer : Bytes}
    (baseRead : rdnAtvs baseDer = .ok base)
    (nameRead : rdnAtvs nameDer = .ok name) :
    rdnMatches crates baseDer nameDer =
      .ok (base.length == name.length && pairAll crates base name) := by
  rw [rdnMatches, baseRead, nameRead]
  rfl

/-- A rewritten RDN matches whatever the RDN does. -/
theorem rdnMatches_congr
    {nameDer otherDer : Bytes}
    (nameRead : rdnAtvs nameDer = .ok name)
    (otherRead : rdnAtvs otherDer = .ok other)
    (rewritten : Rewritten crates name other) (baseDer : Bytes) :
    rdnMatches crates baseDer nameDer = rdnMatches crates baseDer otherDer := by
  cases baseRead : rdnAtvs baseDer with
  | error e =>
      rw [rdnMatches, rdnMatches, baseRead]
      rfl
  | ok base =>
      have baseFit := fit_of_rdnAtvs baseRead
      rw [rdnMatches_of_read baseRead nameRead,
        rdnMatches_of_read baseRead otherRead, Except.ok.injEq,
        Bool.eq_iff_iff, pairAll_iff_perm baseFit (fit_of_rdnAtvs nameRead),
        pairAll_iff_perm baseFit (fit_of_rdnAtvs otherRead)]
      exact rewritten.perm.congr_right _

/-- The verdict on RDNs that are all read. -/
theorem rdnsMatch_of_read
    {pairs : List (List Atv × List Atv)} {encode : List Atv → Bytes}
    (reads :
      ∀ pair ∈ pairs,
        rdnAtvs (encode pair.1) = .ok pair.1 ∧
          rdnAtvs (encode pair.2) = .ok pair.2) :
    rdnsMatch crates (pairs.map (Prod.map encode encode)) =
      .ok
        (pairs.all fun pair =>
          pair.1.length == pair.2.length &&
            pairAll crates pair.1 pair.2) := by
  induction pairs with
  | nil => rfl
  | cons pair pairs induction =>
      rcases reads pair List.mem_cons_self with ⟨baseRead, nameRead⟩
      have later :=
        induction fun other member =>
          reads other (List.mem_cons_of_mem pair member)
      rw [List.map_cons, Prod.map, rdnsMatch,
        rdnMatches_of_read baseRead nameRead, ok_bind, later, List.all_cons]
      cases (pair.1.length == pair.2.length &&
        pairAll crates pair.1 pair.2) <;> rfl

section Names

variable {baseDer nameDer midDer otherDer : Bytes}
variable {baseRdns nameRdns midRdns otherRdns : List (List Atv)}

theorem IsName.fit
    (isName : IsName nameDer nameRdns) (member : name ∈ nameRdns) :
    Fit name := by
  intro atv atvMember
  exact (isName.wellFormed name member atv atvMember).2

/-- Names are compared without failing, and a base matches as a prefix does. -/
theorem directoryMatches_eq (crates : Crates)
    (isBase : IsName baseDer baseRdns) (isName : IsName nameDer nameRdns) :
    ∃ verdict,
      directoryMatches crates baseDer nameDer = .ok verdict ∧
        (verdict = true ↔ IsPrefixOf crates baseRdns nameRdns) := by
  rw [directoryMatches, isBase.innerNameRdns_eq, isName.innerNameRdns_eq,
    ok_bind, ok_bind, List.length_map, List.length_map]
  by_cases tooLong : baseRdns.length > nameRdns.length
  · refine ⟨false, if_pos tooLong, ?_⟩
    constructor
    · intro impossible
      cases impossible
    · intro isPrefix
      exact absurd isPrefix.1 (Nat.not_le.mpr tooLong)
  · rw [if_neg tooLong, List.zip_map, rdnsMatch_of_read]
    · refine ⟨_, rfl, ?_⟩
      rw [List.all_eq_true, IsPrefixOf,
        and_iff_right (Nat.not_lt.mp tooLong)]
      constructor
      · intro all index baseRdn nameRdn basePresent namePresent
        have baseFit := isBase.fit (List.mem_of_getElem? basePresent)
        have nameFit := isName.fit (List.mem_of_getElem? namePresent)
        have member : (baseRdn, nameRdn) ∈ baseRdns.zip nameRdns := by
          apply List.mem_of_getElem? (i := index)
          rw [List.getElem?_zip_eq_some]
          exact ⟨basePresent, namePresent⟩
        rw [sameRdn_iff_perm baseFit nameFit,
          ← pairAll_iff_perm baseFit nameFit]
        exact all _ member
      · rintro same ⟨baseRdn, nameRdn⟩ member
        rcases List.mem_iff_getElem?.mp member with ⟨index, present⟩
        rw [List.getElem?_zip_eq_some] at present
        have baseFit := isBase.fit (List.mem_of_getElem? present.1)
        have nameFit := isName.fit (List.mem_of_getElem? present.2)
        rw [pairAll_iff_perm baseFit nameFit,
          ← sameRdn_iff_perm baseFit nameFit]
        exact same index baseRdn nameRdn present.1 present.2
    · rintro ⟨baseRdn, nameRdn⟩ member
      have members := List.of_mem_zip member
      exact ⟨isBase.rdnAtvs_eq members.1, isName.rdnAtvs_eq members.2⟩

theorem directoryMatches_eq_true_iff
    (isBase : IsName baseDer baseRdns) (isName : IsName nameDer nameRdns) :
    directoryMatches crates baseDer nameDer = .ok true ↔
      IsPrefixOf crates baseRdns nameRdns := by
  rcases directoryMatches_eq crates isBase isName with
    ⟨verdict, matched, meaning⟩
  rw [matched, Except.ok.injEq]
  exact meaning

theorem IsName.isPrefixOf_self
    (isName : IsName nameDer nameRdns) :
    IsPrefixOf crates nameRdns nameRdns := by
  refine ⟨Nat.le_refl _, ?_⟩
  intro index left right leftPresent rightPresent
  rw [leftPresent, Option.some.injEq] at rightPresent
  subst rightPresent
  exact SameRdn.refl (isName.fit (List.mem_of_getElem? leftPresent))

theorem IsPrefixOf.trans
    (isBase : IsName baseDer baseRdns) (isMid : IsName midDer midRdns)
    (isName : IsName nameDer nameRdns)
    (first : IsPrefixOf crates baseRdns midRdns)
    (second : IsPrefixOf crates midRdns nameRdns) :
    IsPrefixOf crates baseRdns nameRdns := by
  refine ⟨Nat.le_trans first.1 second.1, ?_⟩
  intro index baseRdn nameRdn basePresent namePresent
  rcases List.getElem?_eq_some_iff.mp basePresent with ⟨low, _⟩
  have midPresent :=
    List.getElem?_eq_getElem (Nat.lt_of_lt_of_le low first.1)
  apply
    SameRdn.trans (isBase.fit (List.mem_of_getElem? basePresent))
      (isMid.fit (List.mem_of_getElem? midPresent))
      (isName.fit (List.mem_of_getElem? namePresent))
  · exact first.2 index _ _ basePresent midPresent
  · exact second.2 index _ _ midPresent namePresent

/-- A rewritten name matches whatever the name does, for any octets as a base. -/
theorem directoryMatches_rewritten
    (isName : IsName nameDer nameRdns) (isOther : IsName otherDer otherRdns)
    (rewritten : List.Forall₂ (Rewritten crates) nameRdns otherRdns)
    (baseDer : Bytes) :
    directoryMatches crates baseDer nameDer =
      directoryMatches crates baseDer otherDer := by
  rw [directoryMatches, directoryMatches, isName.innerNameRdns_eq,
    isOther.innerNameRdns_eq]
  cases innerNameRdns baseDer with
  | error e => rfl
  | ok bases =>
      have sameLength := rewritten.length_eq
      simp only [ok_bind, List.length_map, sameLength]
      have nameReads (rdn : List Atv) (member : rdn ∈ nameRdns) :=
        isName.rdnAtvs_eq member
      have otherReads (rdn : List Atv) (member : rdn ∈ otherRdns) :=
        isOther.rdnAtvs_eq member
      congr 1
      clear isName isOther sameLength
      induction rewritten generalizing bases with
      | nil => rfl
      | @cons name other names others first later induction =>
          cases bases with
          | nil => rfl
          | cons base bases =>
              have sameVerdict :=
                rdnMatches_congr (nameReads name List.mem_cons_self)
                  (otherReads other List.mem_cons_self) first base
              have sameLater :=
                induction bases
                  (fun rdn member =>
                    nameReads rdn (List.mem_cons_of_mem name member))
                  (fun rdn member =>
                    otherReads rdn (List.mem_cons_of_mem other member))
              simp only [List.map_cons, List.zip_cons_cons, rdnsMatch,
                sameVerdict, sameLater]

end Names

end Matching

/--
A base matches a name exactly when its RDNs are a prefix of those of the name,
as multisets of attributes.  Matching is therefore reflexive and transitive, and
a name that is respelled or whose sets are reordered is matched by the same
bases.
-/
theorem directoryMatches_prefix (crates : Crates) :
    (∀ baseDer nameDer baseRdns nameRdns,
        IsName baseDer baseRdns → IsName nameDer nameRdns →
          Accepts (directoryMatches crates baseDer nameDer) ∧
            (directoryMatches crates baseDer nameDer = .ok true ↔
              IsPrefixOf crates baseRdns nameRdns)) ∧
      (∀ leftDer rightDer rdns,
        IsName leftDer rdns → IsName rightDer rdns →
          directoryMatches crates leftDer rightDer = .ok true) ∧
      (∀ baseDer midDer nameDer baseRdns midRdns nameRdns,
        IsName baseDer baseRdns → IsName midDer midRdns →
          IsName nameDer nameRdns →
          directoryMatches crates baseDer midDer = .ok true →
          directoryMatches crates midDer nameDer = .ok true →
          directoryMatches crates baseDer nameDer = .ok true) ∧
      ∀ nameDer otherDer nameRdns otherRdns,
        IsName nameDer nameRdns → IsName otherDer otherRdns →
          List.Forall₂ (Rewritten crates) nameRdns otherRdns →
          ∀ baseDer,
            directoryMatches crates baseDer nameDer =
              directoryMatches crates baseDer otherDer := by
  refine ⟨?_, ?_, ?_, ?_⟩
  · intro baseDer nameDer baseRdns nameRdns isBase isName
    rcases directoryMatches_eq crates isBase isName with ⟨verdict, matched, _⟩
    exact ⟨⟨verdict, matched⟩, directoryMatches_eq_true_iff isBase isName⟩
  · intro leftDer rightDer rdns isLeft isRight
    exact
      (directoryMatches_eq_true_iff isLeft isRight).mpr
        isLeft.isPrefixOf_self
  · intro baseDer midDer nameDer baseRdns midRdns nameRdns isBase isMid isName
      first second
    rw [directoryMatches_eq_true_iff isBase isMid] at first
    rw [directoryMatches_eq_true_iff isMid isName] at second
    rw [directoryMatches_eq_true_iff isBase isName]
    exact first.trans isBase isMid isName second
  · intro nameDer otherDer nameRdns otherRdns isName isOther rewritten
    exact directoryMatches_rewritten isName isOther rewritten

/-- A name of one organisation, as a UTF8String. -/
def organisation : List (List Atv) :=
  [[([0x55, 0x04, 0x0A], 0x0C, asciiBytes "Big Org")]]

/-- The same name with other letters and white space, as a PrintableString. -/
def respelledOrganisation : List (List Atv) :=
  [[([0x55, 0x04, 0x0A], 0x13, asciiBytes " BIG   org")]]

theorem directoryMatches_prefix_organisation :
    directoryMatches (Reference.crates Reference.known)
        (encodeElement (encodeRdns organisation))
        (encodeElement
          (gnDirectory, encodeElement (encodeRdns respelledOrganisation))) =
      .ok true := by
  have isName : IsName _ organisation :=
    .bare organisation (by decide) (by decide)
  have isRespelled : IsName _ respelledOrganisation :=
    .wrapped respelledOrganisation (by decide) (by decide)
  have respelled :
      List.Forall₂ (Rewritten (Reference.crates Reference.known))
        organisation respelledOrganisation := by
    refine .cons ⟨_, List.Perm.refl _, .cons ?_ .nil⟩ .nil
    exact .text _ (by decide) (by decide) rfl rfl (by decide)
  have matching := directoryMatches_prefix (Reference.crates Reference.known)
  rw [← matching.2.2.2 _ _ _ _ isName isRespelled respelled]
  exact matching.2.1 _ _ _ isName isName

end RitspLtv.Ltv.DirectoryNames
