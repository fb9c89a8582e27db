import RitspLtv.TlvElements
import RitspLtv.Ltv.ChainDiscovery

/-!
# The URLs a certificate names

An authority information access extension is a sequence of access descriptions,
and a CRL distribution points extension one of distribution points.  From
extensions of these forms exactly their URIs are extracted, in their order; and
from any extension at all, only octets that stand in it as the URI of a
description with the access method asked for.
-/

namespace RitspLtv.Ltv.UrlGrammar

open RitspLtv.Foundation.Checks
open RitspLtv.RustStd
open RitspLtv.DerUtils
open RitspLtv.TlvRoundTrip
open RitspLtv.TlvElements
open RitspLtv.Ltv.Urls

/-! ## Sequences -/

/-- A short SEQUENCE of elements is parsed into these elements. -/
theorem consists_of_sequence
    {value : Bytes} {elements : List Element}
    (octets : value = encodeElement (0x30, encodeElements elements))
    (short : value.length < 2 ^ 32)
    (low : ∀ element ∈ elements, LowTag element.1) :
    parseTlv value = .ok (0x30, encodeElements elements) ∧
      Consists (encodeElements elements) elements ∧
      (encodeElements elements).length < 2 ^ 32 := by
  have inner : (encodeElements elements).length < 2 ^ 32 := by
    have outer := length_lt_encodeElement (0x30, encodeElements elements)
    rw [← octets] at outer
    exact outer.trans short
  have parsed := parse_of_short (by decide) (octets ▸ short)
  rw [← octets] at parsed
  refine ⟨?_, consists_encodeElements low inner, inner⟩
  rw [parseTlv, parsed]
  rfl

/-- The elements of a SEQUENCE OF SEQUENCE have a low tag. -/
theorem lowTag_of_mem_map_sequence
    {τ : Type} {contents : τ → Bytes} {items : List τ} :
    ∀ element ∈ items.map fun item => ((0x30, contents item) : Element),
      LowTag element.1 := by
  intro element member
  rcases List.mem_map.mp member with ⟨item, _, rfl⟩
  show LowTag 0x30
  decide

/-! ## General names -/

/-- The URI of a general name, when it is one and is UTF-8. -/
def locationUris (name : Element) : List Bytes :=
  if name.1 = 0x86 then uriOf name.2 else []

theorem mem_uriOf {body uri : Bytes} (member : uri ∈ uriOf body) :
    uri = body := by
  rw [uriOf] at member
  split at member
  · next valid =>
      rw [List.mem_singleton.mp member, eq_of_fromUtf8 valid]
  · cases member

/-- The names of a list are read to its end, given enough fuel. -/
theorem generalNameUrisWithin_eq
    {fuel : Nat} {body : Bytes} {names : List Element}
    (consists : Consists body names) (enough : body.length ≤ fuel) :
    generalNameUrisWithin fuel body = names.flatMap locationUris := by
  induction names generalizing fuel body with
  | nil =>
      rw [Consists.nil_iff.mp consists, generalNameUrisWithin]
      rfl
  | cons name names induction =>
      rcases Consists.cons_iff.mp consists with ⟨rest, parsed, later⟩
      have shorter := parseTlvWithRest_shrinks parsed
      cases body with
      | nil => cases parsed
      | cons head tail =>
          cases fuel with
          | zero => cases Nat.le_zero.mp enough
          | succ fuel =>
              have restUris := induction later (by omega : rest.length ≤ fuel)
              rw [generalNameUrisWithin, parsed, List.flatMap_cons]
              simp only [restUris, locationUris]

/-! ## Authority information access -/

/-- An access method and where it is accessed. -/
structure AccessDescription where
  accessMethod : ObjectIdentifier
  accessLocation : Element

namespace AccessDescription

/-- The fields of a description. -/
def fields (description : AccessDescription) : List Element :=
  [(0x06, description.accessMethod.body), description.accessLocation]

def element (description : AccessDescription) : Element :=
  (0x30, encodeElements description.fields)

/-- The URI of a description with an access method. -/
def uris (target : ObjectIdentifier) (description : AccessDescription) :
    List Bytes :=
  if description.accessMethod = target then
    locationUris description.accessLocation
  else []

end AccessDescription

/-- The value of an extension is the SEQUENCE of these descriptions. -/
structure IsAia (value : Bytes) (descriptions : List AccessDescription) :
    Prop where
  octets :
    value =
      encodeElement
        (0x30, encodeElements (descriptions.map AccessDescription.element))
  short : value.length < 2 ^ 32
  low :
    ∀ description ∈ descriptions, LowTag description.accessLocation.1

/-- What a round of the loop adds for an element. -/
theorem handles_aiaStep (target : ObjectIdentifier) :
    Handles (aiaStep target) fun state element next =>
      ∃ uris,
        accessDescription target element.1 element.2 = .ok uris ∧
          next = state ++ uris := by
  intro state input next rest
  simp only [aiaStep, bind_eq_ok, pure_eq_ok, Prod.exists, Prod.mk.injEq]
  constructor
  · intro stepped
    rcases stepped with ⟨tag, body, _, parsed, found, described, added, rfl⟩
    exact ⟨tag, body, parsed, found, described, added.symm⟩
  · intro handled
    rcases handled with ⟨tag, body, parsed, found, described, added⟩
    exact ⟨tag, body, _, parsed, found, described, added.symm, rfl⟩

/-- Parsing for one access method, by elements. -/
theorem parseAiaExtension_eq_ok_iff
    {value : Bytes} {target : ObjectIdentifier} {urls : List Bytes} :
    parseAiaExtension value target = .ok urls ↔
      ∃ body elements lists,
        parseTlv value = .ok (0x30, body) ∧ Consists body elements ∧
          List.Forall₂
            (fun element uris =>
              accessDescription target element.1 element.2 = .ok uris)
            elements lists ∧
          urls = lists.flatten := by
  simp only [parseAiaExtension, bind_eq_ok, rejectIf_eq_ok, exists_const,
    Prod.exists, ne_eq, not_not, consume_concat_iff (handles_aiaStep target)]
  constructor
  · intro parsed
    rcases parsed with ⟨_, body, outer, rfl, elements, lists, rest⟩
    exact ⟨body, elements, lists, outer, rest⟩
  · intro parsed
    rcases parsed with ⟨body, elements, lists, outer, rest⟩
    exact ⟨_, body, outer, rfl, elements, lists, rest⟩

/-- From a description its URI is read, if it has the access method. -/
theorem accessDescription_element
    {description : AccessDescription} (target : ObjectIdentifier)
    (low : LowTag description.accessLocation.1)
    (short : (encodeElements description.fields).length < 2 ^ 32) :
    accessDescription target description.element.1 description.element.2 =
      .ok (description.uris target) := by
  have consists :
      Consists (encodeElements description.fields) description.fields := by
    apply consists_encodeElements _ short
    intro field member
    rcases List.mem_cons.mp member with rfl | member
    · show LowTag 0x06
      decide
    · rw [List.mem_singleton.mp member]
      exact low
  rcases Consists.cons_iff.mp consists with ⟨afterMethod, method, later⟩
  rcases Consists.cons_iff.mp later with ⟨rest, location, _⟩
  have nonempty : afterMethod ≠ [] := by
    rintro rfl
    cases location
  have sameMethod :
      encodeTlv 0x06 description.accessMethod.body =
          encodeTlv 0x06 target.body ↔
        description.accessMethod = target := by
    constructor
    · intro same
      have bounded :
          (encodeElement (0x06, description.accessMethod.body)).length <
            2 ^ 32 :=
        Nat.lt_of_le_of_lt
          (encodeElement_length_le_of_mem
            (List.mem_cons_self : _ ∈ description.fields))
          short
      have sameElement :
          ((0x06, description.accessMethod.body) : Element) =
            (0x06, target.body) :=
        eq_of_encodeElement
          (consists.readable _ List.mem_cons_self)
          (show (encodeElement (0x06, target.body)).length < 2 ^ 32 from
            (congrArg List.length same).symm.trans_lt bounded)
          same
      cases description with
      | mk accessMethod accessLocation =>
          cases accessMethod
          cases target
          cases sameElement
          rfl
    · intro same
      rw [same]
  simp only [AccessDescription.element, accessDescription, ne_eq,
    not_true_eq_false, if_false, method, ok_bind, true_and, sameMethod,
    AccessDescription.uris]
  split
  · simp only [accessLocation, if_neg nonempty, location, ok_bind]
    rfl
  · rfl

/-- From a well-formed extension the URIs with the access method are read, in order. -/
theorem parseAiaExtension_of_isAia
    {value : Bytes} {descriptions : List AccessDescription}
    (isAia : IsAia value descriptions) (target : ObjectIdentifier) :
    parseAiaExtension value target =
      .ok (descriptions.flatMap (AccessDescription.uris target)) := by
  rcases
      consists_of_sequence isAia.octets isAia.short
        lowTag_of_mem_map_sequence with
    ⟨outer, consists, short⟩
  rw [parseAiaExtension_eq_ok_iff]
  refine
    ⟨_, _, descriptions.map (AccessDescription.uris target), outer, consists,
      ?_, List.flatMap_def⟩
  rw [List.forall₂_map_left_iff, List.forall₂_map_right_iff,
    List.forall₂_same]
  intro description member
  apply accessDescription_element target (isAia.low description member)
  have part :=
    length_le_of_mem
      (List.mem_map_of_mem (f := AccessDescription.element) member)
  exact part.trans_lt short

/-! ## CRL distribution points -/

/-- The name of a distribution point. -/
inductive DistributionPointName where
  | fullName (names : List Element)
  | nameRelativeToCrlIssuer (rdn : Bytes)

/-- A distribution point: its name, and its reasons and CRL issuer. -/
structure DistributionPoint where
  distributionPoint : Option DistributionPointName
  others : List Element

namespace DistributionPointName

/-- The alternative that was chosen. -/
def choice : DistributionPointName → Element
  | .fullName names => (0xA0, encodeElements names)
  | .nameRelativeToCrlIssuer rdn => (0xA1, rdn)

def element (name : DistributionPointName) : Element :=
  (0xA0, encodeElement name.choice)

def uris : DistributionPointName → List Bytes
  | .fullName names => names.flatMap locationUris
  | .nameRelativeToCrlIssuer _ => []

end DistributionPointName

namespace DistributionPoint

def fields (point : DistributionPoint) : List Element :=
  point.distributionPoint.toList.map DistributionPointName.element ++
    point.others

def element (point : DistributionPoint) : Element :=
  (0x30, encodeElements point.fields)

/-- The URIs of a point's full name. -/
def uris (point : DistributionPoint) : List Bytes :=
  point.distributionPoint.toList.flatMap DistributionPointName.uris

/-- The tags are those of `reasons` and `cRLIssuer`, and the names can be read. -/
structure WellFormed (point : DistributionPoint) : Prop where
  others : ∀ field ∈ point.others, field.1 = 0x81 ∨ field.1 = 0xA2
  names :
    ∀ names, point.distributionPoint = some (.fullName names) →
      ∀ name ∈ names, LowTag name.1

end DistributionPoint

/-- The value of an extension is the SEQUENCE of these distribution points. -/
structure IsCrlDp (value : Bytes) (points : List DistributionPoint) :
    Prop where
  octets :
    value =
      encodeElement
        (0x30, encodeElements (points.map DistributionPoint.element))
  short : value.length < 2 ^ 32
  wellFormed : ∀ point ∈ points, point.WellFormed

theorem handles_crlDpStep :
    Handles crlDpStep fun state element next =>
      ∃ uris,
        uris =
            (if element.1 = 0x30 then distributionPointUris element.2
              else []) ∧
          next = state ++ uris := by
  intro state input next rest
  simp only [crlDpStep, bind_eq_ok, pure_eq_ok, Prod.exists, Prod.mk.injEq,
    exists_eq_left]
  constructor
  · intro stepped
    rcases stepped with ⟨tag, body, _, parsed, added, rfl⟩
    exact ⟨tag, body, parsed, added.symm⟩
  · intro handled
    rcases handled with ⟨tag, body, parsed, added⟩
    exact ⟨tag, body, _, parsed, added.symm, rfl⟩

/-- The contents of a `[0]` in front of others. -/
theorem firstContextZero_of_consists
    {body inner : Bytes} {others : List Element}
    (consists : Consists body ((0xA0, inner) :: others)) :
    firstContextZero body = some inner := by
  rcases Consists.cons_iff.mp consists with ⟨rest, parsed, _⟩
  rw [firstContextZero, parsed]
  rfl

theorem firstContextZero_of_ne
    {body : Bytes} {fields : List Element}
    (consists : Consists body fields)
    (differs : ∀ field ∈ fields, field.1 ≠ 0xA0) :
    firstContextZero body = none := by
  cases fields with
  | nil =>
      rw [Consists.nil_iff.mp consists]
      rfl
  | cons field fields =>
      rcases Consists.cons_iff.mp consists with ⟨rest, parsed, _⟩
      rw [firstContextZero, parsed]
      have first := differs field List.mem_cons_self
      rcases field with ⟨tag, contents⟩
      split
      · next same =>
          cases same
          exact absurd rfl first
      · rfl

/-- From a distribution point the URIs of its full name are read. -/
theorem distributionPointUris_fields
    {point : DistributionPoint} (wellFormed : point.WellFormed)
    (short : (encodeElements point.fields).length < 2 ^ 32) :
    distributionPointUris (encodeElements point.fields) = point.uris := by
  have consists :
      Consists (encodeElements point.fields) point.fields := by
    apply consists_encodeElements _ short
    intro field member
    rcases List.mem_append.mp member with isName | isOther
    · rcases List.mem_map.mp isName with ⟨name, _, rfl⟩
      show LowTag 0xA0
      decide
    · rcases wellFormed.others field isOther with isReasons | isIssuer
      · rw [isReasons]
        decide
      · rw [isIssuer]
        decide
  rcases point with ⟨_ | name, others⟩
  · have noName : firstContextZero (encodeElements others) = none := by
      apply firstContextZero_of_ne consists
      intro field member isZero
      rcases wellFormed.others field member with isReasons | isIssuer
      · rw [isZero] at isReasons
        exact absurd isReasons (by decide)
      · rw [isZero] at isIssuer
        exact absurd isIssuer (by decide)
    show distributionPointUris (encodeElements others) = []
    rw [distributionPointUris, noName]
    rfl
  · have outer := firstContextZero_of_consists consists
    have readable := consists.readable _ List.mem_cons_self
    have inside :
        Consists (encodeElement name.choice) [name.choice] := by
      rw [Consists.singleton_iff]
      refine ⟨⟨?_, ?_⟩, rfl⟩
      · cases name with
        | fullName names => exact (by decide : LowTag 0xA0)
        | nameRelativeToCrlIssuer rdn => exact (by decide : LowTag 0xA1)
      · exact (length_lt_encodeElement name.choice).trans readable.2
    rw [distributionPointUris, outer, Option.bind_some]
    cases name with
    | fullName names =>
        rw [firstContextZero_of_consists inside]
        have low := wellFormed.names names rfl
        have namesConsist :
            Consists (encodeElements names) names := by
          apply consists_encodeElements low
          exact (inside.readable _ List.mem_cons_self).2
        simp only
        rw [generalNameUrisWithin_eq namesConsist le_rfl]
        simp [DistributionPoint.uris, DistributionPointName.uris]
    | nameRelativeToCrlIssuer rdn =>
        rw [firstContextZero_of_ne inside]
        · rfl
        · intro field member
          rw [List.mem_singleton.mp member]
          show (0xA1 : UInt8) ≠ 0xA0
          decide

/-- From well-formed distribution points the URIs are read, in order. -/
theorem parseCrlDpExtension_of_isCrlDp
    {value : Bytes} {points : List DistributionPoint}
    (isCrlDp : IsCrlDp value points) :
    parseCrlDpExtension value =
      .ok (points.flatMap DistributionPoint.uris) := by
  rcases
      consists_of_sequence isCrlDp.octets isCrlDp.short
        lowTag_of_mem_map_sequence with
    ⟨outer, consists, short⟩
  have walked :=
    (consume_concat_iff handles_crlDpStep).mpr
      ⟨points.map DistributionPoint.element,
        points.map DistributionPoint.uris, consists, ?_, List.flatMap_def⟩
  · rw [parseCrlDpExtension, outer, ok_bind]
    simp only [ne_eq, not_true_eq_false, rejectIf_false, ok_bind]
    exact walked
  · rw [List.forall₂_map_left_iff, List.forall₂_map_right_iff,
      List.forall₂_same]
    intro point member
    have part :=
      length_le_of_mem
        (List.mem_map_of_mem (f := DistributionPoint.element) member)
    have uris :=
      distributionPointUris_fields (isCrlDp.wellFormed point member)
        (part.trans_lt short)
    show point.uris = distributionPointUris (encodeElements point.fields)
    exact uris.symm

/-! ## The URLs of a certificate -/

/-- The value of a URI that stands in a description with an access method. -/
def NamesUrl (target : ObjectIdentifier) (description url : Bytes) : Prop :=
  ∃ method location rest,
    parseTlvWithRest description = .ok (0x06, method, location) ∧
      encodeTlv 0x06 method = encodeTlv 0x06 target.body ∧
      parseTlvWithRest location = .ok (0x86, url, rest)

theorem namesUrl_of_accessDescription
    {target : ObjectIdentifier} {tag : UInt8} {body url : Bytes}
    {uris : List Bytes}
    (described : accessDescription target tag body = .ok uris)
    (member : url ∈ uris) :
    tag = 0x30 ∧ NamesUrl target body url := by
  rw [accessDescription] at described
  split at described
  · cases described
    cases member
  · next isSequence =>
      simp only [bind_eq_ok, Prod.exists] at described
      rcases described with ⟨oidTag, method, location, parsed, described⟩
      split at described
      · next same =>
          rcases same with ⟨rfl, sameMethod⟩
          rw [accessLocation] at described
          split at described
          · cases described
            cases member
          · simp only [bind_eq_ok, Prod.exists, pure_eq_ok] at described
            rcases described with ⟨gnTag, gnBody, rest, nameParsed, rfl⟩
            split at member
            · next isUri =>
                subst isUri
                rw [mem_uriOf member]
                exact
                  ⟨not_not.mp isSequence, method, location, rest, parsed,
                    sameMethod, nameParsed⟩
            · cases member
      · cases described
        cases member

/--
The URLs of a certificate.  When its extensions are well formed, those for an
access method are exactly the URIs of the descriptions with this method, and
those of its CRLs exactly the URIs in the full names of its distribution points,
in the order of the certificate.  Whatever its extensions are, a URL for an
access method stands as a URI in a description with this method.
-/
theorem extractUrls_exact (cert : Certificate) :
    (∀ descriptions,
        List.Forall₂ (fun ext => IsAia ext.extnValue)
            (cert.extensionsWith aiaOid) descriptions →
          ∀ method,
            extractAiaUrls cert method =
              descriptions.flatten.flatMap
                (AccessDescription.uris method.oid)) ∧
      (∀ points,
        List.Forall₂ (fun ext => IsCrlDp ext.extnValue)
            (cert.extensionsWith crlDpOid) points →
          extractCrlUrls cert =
            points.flatten.flatMap DistributionPoint.uris) ∧
      ∀ method, ∀ url ∈ extractAiaUrls cert method,
        ∃ ext ∈ cert.extensionsWith aiaOid, ∃ body elements description,
          parseTlv ext.extnValue = .ok (0x30, body) ∧
            Consists body elements ∧ (0x30, description) ∈ elements ∧
            NamesUrl method.oid description url := by
  refine ⟨?_, ?_, ?_⟩
  · intro descriptions wellFormed method
    rw [extractAiaUrls]
    generalize cert.extensionsWith aiaOid = extensions at wellFormed ⊢
    induction wellFormed with
    | nil => rfl
    | cons isAia _ induction =>
        rw [List.flatMap_cons, induction, List.flatten_cons,
          List.flatMap_append, parseAiaExtension_of_isAia isAia]
  · intro points wellFormed
    rw [extractCrlUrls]
    generalize cert.extensionsWith crlDpOid = extensions at wellFormed ⊢
    induction wellFormed with
    | nil => rfl
    | cons isCrlDp _ induction =>
        rw [List.flatMap_cons, induction, List.flatten_cons,
          List.flatMap_append, parseCrlDpExtension_of_isCrlDp isCrlDp]
  · intro method url member
    rw [extractAiaUrls, List.mem_flatMap] at member
    rcases member with ⟨ext, extMember, member⟩
    split at member
    · next urls parsed =>
        rcases parseAiaExtension_eq_ok_iff.mp parsed with
          ⟨body, elements, lists, outer, consists, described, rfl⟩
        rcases List.mem_flatten.mp member with ⟨uris, listMember, member⟩
        rcases List.getElem_of_mem listMember with ⟨index, inside, rfl⟩
        have inElements : index < elements.length := by
          rw [described.length_eq]
          exact inside
        have here := described.get inElements inside
        rcases namesUrl_of_accessDescription here member with
          ⟨isSequence, names⟩
        refine
          ⟨ext, extMember, body, elements, elements[index].2, outer, consists,
            ?_, names⟩
        rw [← isSequence]
        exact List.getElem_mem inElements
    · cases member

/-- The description of where the leaf's issuer is fetched. -/
def issuerDescription : AccessDescription :=
  ⟨AiaAccessMethod.caIssuers.oid, (0x86, ChainDiscovery.issuerUrl)⟩

/-- The URL of the CRL of the leaf's issuer. -/
def crlUrl : Bytes := asciiBytes "http://ca.test/root.crl"

/-- One point with a host and a URL as its full name, and one without a name. -/
def leafPoints : List DistributionPoint :=
  [⟨some (.fullName [(0x82, asciiBytes "ca.test"), (0x86, crlUrl)]), []⟩,
    ⟨none, [(0x81, [0x06, 0x40])]⟩]

/-- The leaf, with the URLs of its issuer and of the issuer's CRL. -/
def locatedLeaf : Certificate :=
  Reference.certificate 2 0xB2 0xA1 "Leaf" "Root"
    [ChainDiscovery.issuerAccess,
      ⟨crlDpOid, false,
        encodeElement
          (0x30, encodeElements (leafPoints.map DistributionPoint.element))⟩]

theorem isAia_locatedLeaf :
    List.Forall₂ (fun ext => IsAia ext.extnValue)
      (locatedLeaf.extensionsWith aiaOid) [[issuerDescription]] := by
  have only :
      locatedLeaf.extensionsWith aiaOid = [ChainDiscovery.issuerAccess] := by
    decide +kernel
  rw [only]
  refine .cons ⟨?_, ?_, ?_⟩ .nil
  · decide +kernel
  · decide +kernel
  · decide +kernel

theorem isCrlDp_locatedLeaf :
    List.Forall₂ (fun ext => IsCrlDp ext.extnValue)
      (locatedLeaf.extensionsWith crlDpOid) [leafPoints] := by
  refine .cons ⟨rfl, by decide +kernel, ?_⟩ .nil
  intro point member
  rcases List.mem_cons.mp member with rfl | member
  · refine ⟨by simp, ?_⟩
    rintro names ⟨⟩
    decide
  · rw [List.mem_singleton.mp member]
    refine ⟨?_, by simp⟩
    intro field isField
    exact .inl (congrArg Prod.fst (List.mem_singleton.mp isField))

/-- The leaf names the URLs of its issuer and of one CRL, and no responder. -/
theorem extractUrls_exact_locatedLeaf :
    (∀ method,
        extractAiaUrls locatedLeaf method =
          [[issuerDescription]].flatten.flatMap
            (AccessDescription.uris method.oid)) ∧
      extractCrlUrls locatedLeaf = [crlUrl] :=
  ⟨(extractUrls_exact locatedLeaf).1 _ isAia_locatedLeaf,
    (extractUrls_exact locatedLeaf).2.1 _ isCrlDp_locatedLeaf⟩

end RitspLtv.Ltv.UrlGrammar
