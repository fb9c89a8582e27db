import RitspLtv.BigEndian
import RitspLtv.Foundation.Masks
import RitspLtv.Ltv.DirectoryNames
import RitspLtv.Ltv.HostMatching
import RitspLtv.Ltv.NameConstraintSemantics

/-!
# The name spaces of a path

A base denotes a subtree of names: hosts by their labels, mailboxes by their
host, addresses by a block, directory names by a prefix of RDNs.  A CA admits a
name that is in none of its excluded subtrees, and in one of its permitted
subtrees wherever there are any for names of this type.  On well-formed names
the walk over a path accepts exactly when every CA admits all names below it.
-/

namespace RitspLtv.Ltv.NameSpaces

open RitspLtv.Foundation.Checks
open RitspLtv.Foundation.Labels
open RitspLtv.Foundation.Masks
open RitspLtv.RustStd
open RitspLtv.DerUtils
open RitspLtv.BigEndian
open RitspLtv.TlvElements
open RitspLtv.Ltv.NameConstraints
open RitspLtv.Ltv.NameConstraintSemantics
open RitspLtv.Ltv.HostMatching
open RitspLtv.Ltv.DirectoryNames
open RitspLtv.Trust.Store

/-! ## Address blocks -/

theorem two_pow_eight_mul (count : Nat) : 2 ^ (8 * count) = 256 ^ count :=
  Nat.pow_mul 2 8 count

/-- The first octet of a number is its high part. -/
theorem bigEndian_cons_div
    (first : UInt8) {rest : Bytes} {count : Nat}
    (length : rest.length = count) :
    bigEndian (first :: rest) / 2 ^ (8 * count) = first.toNat := by
  subst length
  rw [bigEndian_cons, two_pow_eight_mul, Nat.mul_comm,
    Nat.mul_add_div (Nat.pow_pos (by decide)),
    Nat.div_eq_of_lt (bigEndian_lt rest), Nat.add_zero]

/-- The octets behind the first one are the low part. -/
theorem bigEndian_cons_mod
    (first : UInt8) {rest : Bytes} {count : Nat}
    (length : rest.length = count) :
    bigEndian (first :: rest) % 2 ^ (8 * count) = bigEndian rest := by
  subst length
  rw [bigEndian_cons, two_pow_eight_mul, Nat.mul_comm, Nat.mul_add_mod,
    Nat.mod_eq_of_lt (bigEndian_lt rest)]

/-- Octet by octet, two addresses agree under a mask as numbers. -/
theorem all_zip_iff_agreesUnder
    {address mask name : Bytes}
    (maskLength : mask.length = address.length)
    (nameLength : name.length = address.length) :
    (((address.zip mask).zip name).all fun ((a, m), n) =>
        (a &&& m) == (n &&& m)) = true ↔
      AgreesUnder (bigEndian mask) (bigEndian name) (bigEndian address) := by
  induction address generalizing mask name with
  | nil =>
      rw [List.length_nil, List.length_eq_zero_iff] at maskLength nameLength
      subst maskLength
      subst nameLength
      exact iff_of_true rfl rfl
  | cons a address induction =>
      cases mask with
      | nil => cases maskLength
      | cons m mask =>
          cases name with
          | nil => cases nameLength
          | cons n name =>
              rw [List.length_cons, List.length_cons,
                Nat.add_right_cancel_iff] at maskLength nameLength
              have later := induction maskLength nameLength
              have head :
                  ((a &&& m) == (n &&& m)) = true ↔
                    AgreesUnder m.toNat n.toNat a.toNat := by
                rw [beq_iff_eq, AgreesUnder, ← UInt8.toNat_and,
                  ← UInt8.toNat_and, UInt8.toNat_inj]
                exact eq_comm
              have whole :
                  AgreesUnder (bigEndian (m :: mask)) (bigEndian (n :: name))
                      (bigEndian (a :: address)) ↔
                    AgreesUnder m.toNat n.toNat a.toNat ∧
                      AgreesUnder (bigEndian mask) (bigEndian name)
                        (bigEndian address) := by
                rw [agreesUnder_split (8 * address.length),
                  bigEndian_cons_div m maskLength,
                  bigEndian_cons_mod m maskLength,
                  bigEndian_cons_div n nameLength,
                  bigEndian_cons_mod n nameLength, bigEndian_cons_div a rfl,
                  bigEndian_cons_mod a rfl]
              rw [List.zip_cons_cons, List.zip_cons_cons, List.all_cons,
                Bool.and_eq_true, head, later, whole]

/-- The address lies in the block that a base and a mask describe. -/
structure InBlock (address mask name : Bytes) : Prop where
  maskLength : mask.length = address.length
  nameLength : name.length = address.length
  agrees : AgreesUnder (bigEndian mask) (bigEndian name) (bigEndian address)

theorem ipMatches_iff_inBlock {address mask name : Bytes} :
    ipMatches address mask name = true ↔ InBlock address mask name := by
  rw [ipMatches]
  split
  · next differ =>
      refine iff_of_false (by simp) ?_
      intro inBlock
      rcases differ with nameDiffers | maskDiffers
      · exact nameDiffers inBlock.nameLength
      · exact maskDiffers inBlock.maskLength
  · next same =>
      rw [not_or, not_ne_iff, not_ne_iff] at same
      rw [all_zip_iff_agreesUnder same.2 same.1]
      exact
        ⟨fun agrees => ⟨same.2, same.1, agrees⟩,
          fun inBlock => inBlock.agrees⟩

/-- Under a mask of leading ones the block is one of consecutive addresses. -/
theorem inBlock_leadingOnes_iff
    {address mask name : Bytes} {bits : Nat}
    (maskLength : mask.length = address.length)
    (leading : bigEndian mask = leadingOnes (8 * address.length) bits) :
    InBlock address mask name ↔
      name.length = address.length ∧
        bigEndian name / 2 ^ (8 * address.length - bits) =
          bigEndian address / 2 ^ (8 * address.length - bits) := by
  have fits :
      ∀ octets : Bytes, octets.length = address.length →
        bigEndian octets < 2 ^ (8 * address.length) := by
    intro octets length
    rw [two_pow_eight_mul, ← length]
    exact bigEndian_lt octets
  constructor
  · intro inBlock
    have agrees := inBlock.agrees
    rw [leading,
      agreesUnder_leadingOnes (fits name inBlock.nameLength)
        (fits address rfl)] at agrees
    exact ⟨inBlock.nameLength, agrees⟩
  · intro both
    rcases both with ⟨nameLength, same⟩
    refine ⟨maskLength, nameLength, ?_⟩
    rw [leading,
      agreesUnder_leadingOnes (fits name nameLength) (fits address rfl)]
    exact same

/-! ## Subtrees -/

/-- The labels of a host end with those of the base, properly after a leading dot. -/
def InDomain (base name : Bytes) : Prop :=
  base = [] ∨
    (base.head? ≠ some 0x2E ∧ labels base <:+ labels name) ∨
    ∃ suffix, base = 0x2E :: suffix ∧
      ProperSuffix (labels suffix) (labels name)

/-- The mailbox is the base, or is at the host that is, or at one below it. -/
def InMailDomain (base name : Bytes) : Prop :=
  ∃ host, IsHostPart name host ∧
    (base = [] ∨
      (∃ suffix, base = 0x2E :: suffix ∧
        ProperSuffix (labels suffix) (labels host)) ∨
      (base.head? ≠ some 0x2E ∧
        ((0x40 ∈ base ∧ base = name) ∨ (0x40 ∉ base ∧ base = host))))

/-- The name lies in the subtree of the base, which is of the same type. -/
inductive InSubtree (crates : Crates) :
    GeneralNameBase → AssertedName → Prop where
  | dns {base name : Bytes} (inDomain : InDomain base name) :
      InSubtree crates (.dns base) (.dns name)
  | rfc822 {base name : Bytes} (inDomain : InMailDomain base name) :
      InSubtree crates (.rfc822 base) (.rfc822 name)
  | ip {address mask name : Bytes} (inBlock : InBlock address mask name) :
      InSubtree crates (.ip address mask) (.ip name)
  | directory {base name : Bytes} {baseRdns nameRdns : List (List Atv)}
      (isBase : IsName base baseRdns) (isName : IsName name nameRdns)
      (isPrefix : IsPrefixOf crates baseRdns nameRdns) :
      InSubtree crates (.directory base) (.directory name)

/-- A base whose directory name, if it is one, is well formed. -/
def WellFormedBase : GeneralNameBase → Prop
  | .directory der => ∃ rdns, IsName der rdns
  | _ => True

/-- A name that, if it is a directory name, is well formed. -/
def WellFormedName : AssertedName → Prop
  | .directory der => ∃ rdns, IsName der rdns
  | _ => True

theorem dnsMatches_iff_inDomain {base name : Bytes} :
    dnsMatches base name = true ↔ InDomain base name := by
  rw [dnsMatches_iff_below, InDomain]
  simp only [labels, suffix_splitOn_iff, ← below_iff_properSuffix]

theorem rfc822Matches_iff_inMailDomain {base name : Bytes} :
    rfc822Matches base name = true ↔ InMailDomain base name := by
  rw [rfc822Matches_iff_below, InMailDomain]
  simp only [isHostPart_iff, exists_eq_left, labels,
    ← below_iff_properSuffix]

/-- On well-formed names the comparison decides whether a name is in the subtree. -/
theorem baseMatches_iff_inSubtree
    {crates : Crates} {base : GeneralNameBase} {name : AssertedName}
    (wellFormedBase : WellFormedBase base)
    (wellFormedName : WellFormedName name) :
    ∃ verdict,
      baseMatches crates base name = .ok verdict ∧
        (verdict = true ↔ InSubtree crates base name) := by
  cases different : sameType base name with
  | false =>
      refine ⟨false, baseMatches_of_not_sameType crates different, ?_⟩
      refine iff_of_false (by simp) ?_
      intro inSubtree
      cases inSubtree <;> cases different
  | true =>
      cases base with
      | dns base =>
          cases name with
          | dns name =>
              refine ⟨_, rfl, ?_⟩
              rw [dnsMatches_iff_inDomain]
              exact ⟨.dns, fun | .dns inDomain => inDomain⟩
          | _ => cases different
      | rfc822 base =>
          cases name with
          | rfc822 name =>
              refine ⟨_, rfl, ?_⟩
              rw [rfc822Matches_iff_inMailDomain]
              exact ⟨.rfc822, fun | .rfc822 inDomain => inDomain⟩
          | _ => cases different
      | ip address mask =>
          cases name with
          | ip name =>
              refine ⟨_, rfl, ?_⟩
              rw [ipMatches_iff_inBlock]
              exact ⟨.ip, fun | .ip inBlock => inBlock⟩
          | _ => cases different
      | directory base =>
          cases name with
          | directory name =>
              rcases wellFormedBase with ⟨baseRdns, isBase⟩
              rcases wellFormedName with ⟨nameRdns, isName⟩
              rcases directoryMatches_eq crates isBase isName with
                ⟨verdict, matched, meaning⟩
              refine ⟨verdict, matched, ?_⟩
              constructor
              · intro isTrue
                exact .directory isBase isName (meaning.mp isTrue)
              · intro inSubtree
                cases inSubtree with
                | directory otherBase otherName isPrefix =>
                    have isTrue :=
                      (directoryMatches_eq_true_iff otherBase
                        otherName).mpr isPrefix
                    rw [matched, Except.ok.injEq] at isTrue
                    exact isTrue
          | _ => cases different

/-! ## What a CA admits -/

section Admitting

variable (crates : Crates)

/-- The names outside all excluded subtrees and inside those permitted for their type. -/
structure Admits (state : NameConstraintState) (name : AssertedName) :
    Prop where
  notExcluded : ∀ base ∈ state.excluded, ¬ InSubtree crates base name
  permitted :
    ∀ group ∈ state.permitted,
      (∃ base ∈ group, sameType base name = true) →
        ∃ base ∈ group, InSubtree crates base name

/-- The directory names among the bases of a state are well formed. -/
def WellFormedState (state : NameConstraintState) : Prop :=
  ∀ base ∈ state.excluded ++ state.permitted.flatten, WellFormedBase base

variable {crates}

theorem checkExcluded_eq_ok_iff
    {base : GeneralNameBase} {name : AssertedName}
    (wellFormedBase : WellFormedBase base)
    (wellFormedName : WellFormedName name) :
    NameConstraintState.checkExcluded crates name base = .ok () ↔
      ¬ InSubtree crates base name := by
  rcases baseMatches_iff_inSubtree wellFormedBase wellFormedName with
    ⟨verdict, matched, meaning⟩
  rw [NameConstraintState.checkExcluded, matched, ok_bind, rejectIf_eq_ok,
    meaning]

theorem sameType_of_inSubtree
    {base : GeneralNameBase} {name : AssertedName}
    (inSubtree : InSubtree crates base name) : sameType base name = true := by
  cases inSubtree <;> rfl

/-- The search says whether a base has the name's type, and whether one matches. -/
theorem searchGroup_eq
    {group : List GeneralNameBase} {name : AssertedName}
    (wellFormedGroup : ∀ base ∈ group, WellFormedBase base)
    (wellFormedName : WellFormedName name) (hasPermittedOfType : Bool) :
    ∃ ofType found,
      NameConstraintState.searchGroup crates name hasPermittedOfType group =
          .ok (ofType, found) ∧
        (found = true ↔ ∃ base ∈ group, InSubtree crates base name) ∧
        (ofType = true ↔
          hasPermittedOfType = true ∨
            ∃ base ∈ group, sameType base name = true) := by
  induction group generalizing hasPermittedOfType with
  | nil => exact ⟨hasPermittedOfType, false, rfl, by simp, by simp⟩
  | cons base group induction =>
      rw [List.forall_mem_cons] at wellFormedGroup
      have later := induction wellFormedGroup.2
      rcases @baseMatches_iff_inSubtree crates base name wellFormedGroup.1
          wellFormedName with
        ⟨verdict, matched, meaning⟩
      rw [NameConstraintState.searchGroup]
      simp only [List.exists_mem_cons_iff]
      cases typed : sameType base name with
      | false =>
          have outside : ¬ InSubtree crates base name := by
            intro inSubtree
            rw [sameType_of_inSubtree inSubtree] at typed
            cases typed
          simpa [outside] using later hasPermittedOfType
      | true =>
          rw [if_pos rfl, matched, ok_bind]
          cases verdict with
          | true =>
              refine ⟨true, true, rfl, ?_, by simp⟩
              exact iff_of_true rfl (.inl (meaning.mp rfl))
          | false =>
              have outside : ¬ InSubtree crates base name := by
                rw [← meaning]
                exact Bool.false_ne_true
              simpa [outside] using later true

theorem checkGroup_eq_ok_iff
    {group : List GeneralNameBase} {name : AssertedName}
    (wellFormedGroup : ∀ base ∈ group, WellFormedBase base)
    (wellFormedName : WellFormedName name) :
    NameConstraintState.checkGroup crates name group = .ok () ↔
      ((∃ base ∈ group, sameType base name = true) →
        ∃ base ∈ group, InSubtree crates base name) := by
  rcases @searchGroup_eq crates group name wellFormedGroup wellFormedName
      false with
    ⟨ofType, found, searched, foundMeaning, typeMeaning⟩
  rw [NameConstraintState.checkGroup, searched, ok_bind, rejectIf_eq_ok,
    ← foundMeaning]
  simp only [Bool.false_eq_true, false_or] at typeMeaning
  rw [← typeMeaning, not_and, Bool.not_eq_false]

/-- A state accepts the names it admits. -/
theorem checkName_eq_ok_iff_admits
    {state : NameConstraintState} {name : AssertedName}
    (wellFormedState : WellFormedState state)
    (wellFormedName : WellFormedName name) :
    state.checkName crates name = .ok () ↔ Admits crates state name := by
  have excludedWellFormed :
      ∀ base ∈ state.excluded, WellFormedBase base := by
    intro base member
    exact wellFormedState base (List.mem_append_left _ member)
  have groupWellFormed :
      ∀ group ∈ state.permitted, ∀ base ∈ group, WellFormedBase base := by
    intro group groupMember base member
    exact
      wellFormedState base
        (List.mem_append_right _ (List.mem_flatten_of_mem groupMember member))
  rw [checkName_eq_ok_iff]
  constructor
  · intro checked
    constructor
    · intro base member
      exact
        (checkExcluded_eq_ok_iff (excludedWellFormed base member)
          wellFormedName).mp (checked.1 base member)
    · intro group member
      exact
        (checkGroup_eq_ok_iff (groupWellFormed group member)
          wellFormedName).mp (checked.2 group member)
  · intro admits
    constructor
    · intro base member
      exact
        (checkExcluded_eq_ok_iff (excludedWellFormed base member)
          wellFormedName).mpr (admits.notExcluded base member)
    · intro group member
      exact
        (checkGroup_eq_ok_iff (groupWellFormed group member)
          wellFormedName).mpr (admits.permitted group member)

end Admitting

/-! ## Paths -/

/-- The names below the top of a path and the constraints above its leaf can be read. -/
structure Reading (crates : Crates) (path : List Certificate)
    (names : Certificate → List AssertedName)
    (constraints : Certificate → NameConstraintState) : Prop where
  asserted :
    ∀ cert ∈ path.dropLast,
      collectAssertedNames crates cert true = .ok (names cert)
  imposed :
    ∀ issuer ∈ path.tail,
      NameConstraintState.default.addFromCert issuer =
        .ok (constraints issuer)
  wellFormedNames :
    ∀ cert ∈ path.dropLast, ∀ name ∈ names cert, WellFormedName name
  wellFormedStates :
    ∀ issuer ∈ path.tail, WellFormedState (constraints issuer)

/-- Of two positions of a path the lower is below the top and the other above the leaf. -/
theorem mem_of_lt
    {path : List Certificate} {i j : Nat} {cert issuer : Certificate}
    (below : i < j) (certPresent : path[i]? = some cert)
    (issuerPresent : path[j]? = some issuer) :
    cert ∈ path.dropLast ∧ issuer ∈ path.tail := by
  have bounded : j < path.length :=
    (List.getElem?_eq_some_iff.mp issuerPresent).1
  have inside : i < path.length - 1 := by omega
  constructor
  · apply List.mem_of_getElem?
    rw [List.getElem?_dropLast, if_pos inside]
    exact certPresent
  · apply List.mem_of_getElem?
    rw [List.getElem?_tail, Nat.sub_add_cancel (by omega : 1 ≤ j)]
    exact issuerPresent

/--
The name constraints of a path.  Where names and constraints can be read, a path
is accepted exactly when every CA admits every name that a certificate below it
asserts; and a block of addresses under a mask of leading ones consists of the
addresses that agree with its base in that many leading bits.
-/
theorem enforceNameConstraintsPath_admits (crates : Crates) :
    (∀ path names constraints,
        Reading crates path names constraints →
          (enforceNameConstraintsPath crates path = .ok () ↔
            ∀ (i j : Nat) cert issuer, i < j → path[i]? = some cert →
              path[j]? = some issuer →
                ∀ name ∈ names cert,
                  Admits crates (constraints issuer) name)) ∧
      ∀ address mask name bits,
        mask.length = address.length →
          bigEndian mask = leadingOnes (8 * address.length) bits →
            (InSubtree crates (.ip address mask) (.ip name) ↔
              name.length = address.length ∧
                bigEndian name / 2 ^ (8 * address.length - bits) =
                  bigEndian address /
                    2 ^ (8 * address.length - bits)) := by
  constructor
  · intro path names constraints reading
    have permits :
        ∀ cert ∈ path.dropLast, ∀ issuer ∈ path.tail,
          (constraints issuer).checkCert crates cert = .ok () ↔
            ∀ name ∈ names cert, Admits crates (constraints issuer) name := by
      intro cert certMember issuer issuerMember
      rw [checkCert_eq_ok_iff_of_collect crates (fun _ => rfl)
        (reading.asserted cert certMember)]
      apply forall₂_congr
      intro name member
      exact
        checkName_eq_ok_iff_admits
          (reading.wellFormedStates issuer issuerMember)
          (reading.wellFormedNames cert certMember name member)
    rw [enforceNameConstraintsPath_eq_ok_iff]
    constructor
    · intro permitted i j cert issuer below certPresent issuerPresent
      rcases permitted j issuer (by omega) issuerPresent with
        ⟨sole, imposed, checked⟩
      rcases mem_of_lt below certPresent issuerPresent with
        ⟨certMember, issuerMember⟩
      rw [reading.imposed issuer issuerMember, Except.ok.injEq] at imposed
      subst imposed
      apply (permits cert certMember issuer issuerMember).mp
      apply checked cert
      rcases List.getElem?_eq_some_iff.mp certPresent with ⟨inside, same⟩
      exact List.mem_take_iff_getElem.mpr ⟨i, by omega, same⟩
    · intro admitted top issuer positive issuerPresent
      have issuerMember : issuer ∈ path.tail := by
        apply List.mem_of_getElem?
        rw [List.getElem?_tail, Nat.sub_add_cancel positive]
        exact issuerPresent
      refine ⟨_, reading.imposed issuer issuerMember, ?_⟩
      intro cert member
      rcases List.mem_take_iff_getElem.mp member with ⟨i, bounded, same⟩
      have certPresent : path[i]? = some cert :=
        List.getElem?_eq_some_iff.mpr ⟨by omega, same⟩
      have below : i < top := by omega
      have certMember := (mem_of_lt below certPresent issuerPresent).1
      apply (permits cert certMember issuer issuerMember).mpr
      exact admitted i top cert issuer below certPresent issuerPresent
  · intro address mask name bits maskLength leading
    rw [← inBlock_leadingOnes_iff maskLength leading]
    exact ⟨fun | .ip inBlock => inBlock, .ip⟩

/-! ## A constrained CA -/

section Constrained

open RitspLtv.Reference

/-- A subtree with a name of some type as its base. -/
def subtree (tag : UInt8) (base : Bytes) : Bytes :=
  encodeSequenceFromParts [encodeTlv tag base]

/-- A CA for hosts in `corp.test` and 10.0.0.0/8, but not in `lab.corp.test`. -/
def corpCa : Certificate :=
  certificate 7 0xE5 0xA1 "Corp" "Root"
    [caConstraints,
      ⟨nameConstraintsOid, true,
        encodeSequenceFromParts
          [encodeTlv 0xA0
            (subtree gnDns (asciiBytes "corp.test") ++
              subtree gnIp [10, 0, 0, 0, 255, 0, 0, 0]),
            encodeTlv 0xA1 (subtree gnDns (asciiBytes "lab.corp.test"))]⟩]

/-- What the CA imposes. -/
def corpState : NameConstraintState where
  permitted :=
    [[.dns (asciiBytes "corp.test"), .ip [10, 0, 0, 0] [255, 0, 0, 0]]]
  excluded := [.dns (asciiBytes "lab.corp.test")]

/-- A host that the CA has certified under its name and address. -/
def corpHost (name : String) (address : Bytes) : Certificate :=
  certificate 8 0xF6 0xE5 "Host" "Corp"
    [⟨sanOid, false,
      encodeSequenceFromParts
        [encodeTlv gnDns (asciiBytes name), encodeTlv gnIp address]⟩]

/-- The names that a host asserts. -/
def hostNames (name : String) (address : Bytes) : List AssertedName :=
  [.directory (encodeName (commonName "Host")), .dns (asciiBytes name),
    .ip address]

theorem reading_corpHost
    {name : String} {address : Bytes}
    (asserted :
      collectAssertedNames (crates known) (corpHost name address) true =
        .ok (hostNames name address)) :
    Reading (crates known) [corpHost name address, corpCa]
      (fun _ => hostNames name address) (fun _ => corpState) := by
  have hostName :
      IsName (encodeName (commonName "Host"))
        [[([0x55, 0x04, 0x03], 0x0C, asciiBytes "Host")]] :=
    .bare [[([0x55, 0x04, 0x03], 0x0C, asciiBytes "Host")]] (by decide)
      (by decide)
  constructor
  · intro cert member
    rw [List.mem_singleton.mp member]
    exact asserted
  · intro issuer member
    rw [List.mem_singleton.mp member]
    decide +kernel
  · intro cert _ name member
    rcases List.mem_cons.mp member with rfl | member
    · exact ⟨_, hostName⟩
    · rcases List.mem_cons.mp member with rfl | member
      · trivial
      · rw [List.mem_singleton.mp member]
        trivial
  · intro issuer _ base member
    simp only [corpState, List.singleton_append, List.flatten_cons,
      List.flatten_nil, List.append_nil, List.mem_cons, List.not_mem_nil,
      or_false] at member
    rcases member with rfl | rfl | rfl <;> trivial

/--
The CA admits a host of its domain in its block, and neither one of the excluded
domain nor one whose address is outside the block.
-/
theorem enforceNameConstraintsPath_admits_corpHost :
    (∀ name ∈ hostNames "www.corp.test" [10, 1, 2, 3],
      Admits (crates known) corpState name) ∧
      ¬ (∀ name ∈ hostNames "db.lab.corp.test" [10, 1, 2, 3],
        Admits (crates known) corpState name) ∧
      ¬ (∀ name ∈ hostNames "www.corp.test" [11, 1, 2, 3],
        Admits (crates known) corpState name) ∧
      InSubtree (crates known) (.ip [10, 0, 0, 0] [255, 0, 0, 0])
        (.ip [10, 1, 2, 3]) ∧
      ¬ InSubtree (crates known) (.ip [10, 0, 0, 0] [255, 0, 0, 0])
          (.ip [11, 1, 2, 3]) := by
  have admits {name : String} {address : Bytes}
      (asserted :
        collectAssertedNames (crates known) (corpHost name address) true =
          .ok (hostNames name address)) :
      enforceNameConstraintsPath (crates known)
          [corpHost name address, corpCa] = .ok () ↔
        ∀ other ∈ hostNames name address,
          Admits (crates known) corpState other := by
    rw [(enforceNameConstraintsPath_admits (crates known)).1 _ _ _
      (reading_corpHost asserted)]
    constructor
    · intro admitted
      exact admitted 0 1 _ _ Nat.zero_lt_one rfl rfl
    · intro admitted _ _ _ _ _ _ _
      exact admitted
  have block (name : Bytes) :=
    (enforceNameConstraintsPath_admits (crates known)).2 [10, 0, 0, 0]
      [255, 0, 0, 0] name 8 rfl (by decide)
  refine ⟨?_, ?_, ?_, ?_, ?_⟩
  · exact (admits (by decide +kernel)).mp (by decide +kernel)
  · rw [← admits (by decide +kernel)]
    decide +kernel
  · rw [← admits (by decide +kernel)]
    decide +kernel
  · rw [block]
    decide
  · rw [block]
    decide

end Constrained

end RitspLtv.Ltv.NameSpaces
