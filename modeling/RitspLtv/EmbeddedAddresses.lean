import RitspLtv.Net

/-!
# IPv4 addresses inside IPv6 addresses

An IPv6 address can stand for an IPv4 address in several ways, and a gateway or
the host itself delivers to the IPv4 address.  The classifier takes the mapped
form apart.  In the other forms it looks at the IPv6 address alone and refuses
the unspecified and the loopback address only.
-/

namespace RitspLtv.EmbeddedAddresses

open RitspLtv.Foundation.Checks
open RitspLtv.RustStd
open RitspLtv.Net

variable {v4 : Ipv4Addr} {v6 : Ipv6Addr}

/-! ## Forms -/

/-- The forms in which an IPv4 address is carried. -/
inductive Embedding where
  /-- `::ffff:v` -/
  | mapped
  /-- `::v` -/
  | compatible
  /-- `64:ff9b::v` -/
  | nat64
  /-- `2002:v::/48` -/
  | sixToFour
  deriving DecidableEq

/-- The IPv6 address has the IPv4 address as its destination. -/
def Embedding.Carries :
    Embedding → Ipv6Addr → Ipv4Addr → Prop
  | .mapped, v6, v4 => v6.octets = Ipv6Addr.mappedPrefix ++ v4.octets
  | .compatible, v6, v4 => v6.octets = List.replicate 12 0x00 ++ v4.octets
  | .nat64, v6, v4 =>
      v6.octets =
        [0x00, 0x64, 0xFF, 0x9B] ++ List.replicate 8 0x00 ++ v4.octets
  | .sixToFour, v6, v4 =>
      ∃ remaining, v6.octets = [0x20, 0x02] ++ v4.octets ++ remaining

/-- A connection to the address ends at the IPv4 address. -/
def Reaches : IpAddr → Ipv4Addr → Prop
  | .v4 address, v4 => address = v4
  | .v6 address, v4 => ∃ form : Embedding, form.Carries address v4

/--
A refused IPv4 address stands in the address in a form other than the mapped
one, and the address is neither the unspecified nor the loopback address.
-/
def Hides (v6 : Ipv6Addr) : Prop :=
  v6 ≠ Ipv6Addr.localhost ∧ v6 ≠ Ipv6Addr.unspecified ∧
    ∃ form : Embedding, form ≠ .mapped ∧
      ∃ v4, form.Carries v6 v4 ∧ isDisallowedIpv4 v4 = true

/-- An IPv4 address hides nothing. -/
def HidesIp : IpAddr → Prop
  | .v4 _ => False
  | .v6 v6 => Hides v6

/-! ## The mapped form -/

theorem toIpv4Mapped_eq_some_iff :
    v6.toIpv4Mapped = some v4 ↔ Embedding.mapped.Carries v6 v4 := by
  constructor
  · intro mapped
    simp only [Ipv6Addr.toIpv4Mapped] at mapped
    split at mapped
    · next first second third fourth parts =>
        split at mapped
        · next front =>
            cases mapped
            simp only [Embedding.Carries]
            calc
              v6.octets = v6.octets.take 12 ++ v6.octets.drop 12 :=
                  (List.take_append_drop 12 v6.octets).symm
              _ = Ipv6Addr.mappedPrefix ++ [first, second, third, fourth] := by
                  rw [front, parts]
        · cases mapped
    · cases mapped
  · intro carries
    simp only [Embedding.Carries] at carries
    rw [Ipv6Addr.toIpv4Mapped, carries]
    rfl

/-- The mapped form is refused with the address it carries. -/
theorem isDisallowedIp_of_mapped (mapped : Embedding.mapped.Carries v6 v4) :
    isDisallowedIp (.v6 v6) = isDisallowedIpv4 v4 := by
  rw [isDisallowedIp, toIpv4Mapped_eq_some_iff.mpr mapped]

/-! ## The other forms -/

/-- The segment with which the addresses of a form start. -/
def Embedding.firstSegment : Embedding → UInt16
  | .mapped => 0x0000
  | .compatible => 0x0000
  | .nat64 => 0x0064
  | .sixToFour => 0x2002

theorem segment_zero
    (first second : UInt8) {following : Bytes}
    (octets : v6.octets = first :: second :: following) :
    v6.segment 0 = first.toUInt16 <<< 8 ||| second.toUInt16 := by
  rw [Ipv6Addr.segment, octets]
  rfl

theorem segment_zero_of_carries
    {form : Embedding} (carries : form.Carries v6 v4) :
    v6.segment 0 = form.firstSegment := by
  cases form with
  | mapped =>
      rw [segment_zero 0x00 0x00 carries]
      decide
  | compatible =>
      rw [segment_zero 0x00 0x00 carries]
      decide
  | nat64 =>
      rw [segment_zero 0x00 0x64 carries]
      decide
  | sixToFour =>
      rcases carries with ⟨remaining, carries⟩
      rw [segment_zero 0x20 0x02 carries]
      decide

/-- An address in another form is not taken apart. -/
theorem toIpv4Mapped_of_other
    {form : Embedding} (other : form ≠ .mapped) (carries : form.Carries v6 v4) :
    v6.toIpv4Mapped = none := by
  rw [Option.eq_none_iff_forall_ne_some]
  intro embedded mapped
  have front : v6.octets = Ipv6Addr.mappedPrefix ++ embedded.octets :=
    toIpv4Mapped_eq_some_iff.mp mapped
  cases form with
  | mapped => exact other rfl
  | compatible =>
      simp only [Embedding.Carries] at carries
      rw [front] at carries
      cases carries
  | nat64 =>
      simp only [Embedding.Carries] at carries
      rw [front] at carries
      cases carries
  | sixToFour =>
      rcases carries with ⟨remaining, carries⟩
      rw [front] at carries
      cases carries

/-- No block but two single addresses lies where a form starts. -/
theorem isDisallowedIp_iff_of_segment
    {form : Embedding} (unmapped : v6.toIpv4Mapped = none)
    (first : v6.segment 0 = form.firstSegment) :
    isDisallowedIp (.v6 v6) = true ↔
      v6 = Ipv6Addr.localhost ∨ v6 = Ipv6Addr.unspecified := by
  have outside :
      form.firstSegment &&& 0xFF00 ≠ 0xFF00 ∧
        form.firstSegment &&& 0xFE00 ≠ 0xFC00 ∧
        form.firstSegment &&& 0xFFC0 ≠ 0xFE80 ∧
        form.firstSegment &&& 0xFFC0 ≠ 0xFEC0 ∧
        form.firstSegment ≠ 0x2001 ∧ form.firstSegment ≠ 0x3FFF ∧
        form.firstSegment ≠ 0x0100 := by
    cases form <;> decide
  rcases outside with
    ⟨multicast, uniqueLocal, linkLocal, siteLocal, documentation, others,
      discard⟩
  simp only [isDisallowedIp, unmapped, first, Ipv6Addr.isLoopback,
    Ipv6Addr.isUnspecified, Ipv6Addr.isMulticast, Bool.or_eq_true,
    Bool.and_eq_true, beq_iff_eq, multicast, uniqueLocal, linkLocal, siteLocal,
    documentation, others, discard, false_and, or_false]

/-- In the other forms two addresses are refused, whatever they carry. -/
theorem isDisallowedIp_iff_of_carries
    {form : Embedding} (other : form ≠ .mapped) (carries : form.Carries v6 v4) :
    isDisallowedIp (.v6 v6) = true ↔
      v6 = Ipv6Addr.localhost ∨ v6 = Ipv6Addr.unspecified :=
  isDisallowedIp_iff_of_segment (toIpv4Mapped_of_other other carries)
    (segment_zero_of_carries carries)

/-- Nothing is refused that hides an address, and what hides none is. -/
theorem refused_iff_not_hides (v6 : Ipv6Addr) :
    (∀ (form : Embedding) v4,
        isDisallowedIpv4 v4 = true → form.Carries v6 v4 →
          isDisallowedIp (.v6 v6) = true) ↔
      ¬ Hides v6 := by
  constructor
  · rintro seen ⟨notLocalhost, notUnspecified, form, other, v4, carries, refused⟩
    rcases (isDisallowedIp_iff_of_carries other carries).mp
        (seen form v4 refused carries) with same | same
    · exact notLocalhost same
    · exact notUnspecified same
  · intro plain form v4 refused carries
    by_cases mapped : form = .mapped
    · subst mapped
      rw [isDisallowedIp_of_mapped carries]
      exact refused
    · rw [isDisallowedIp_iff_of_carries mapped carries]
      by_contra neither
      rcases not_or.mp neither with ⟨notLocalhost, notUnspecified⟩
      exact
        plain
          ⟨notLocalhost, notUnspecified, form, mapped, v4, carries, refused⟩

/-! ## Lists of addresses -/

theorem validateResolvedAddresses_eq_ok_iff
    {host : String} {addrs checked : List SocketAddr} :
    validateResolvedAddresses host addrs = .ok checked ↔
      addrs ≠ [] ∧ (∀ addr ∈ addrs, ¬ isDisallowedIp addr.ip = true) ∧
        addrs = checked := by
  simp only [validateResolvedAddresses, bind_eq_ok, rejectIf_eq_ok,
    exists_const, pure_eq_ok, forM_eq_ok, checkResolvedAddress]

/--
What the filter refuses covers every refused IPv4 address that an IPv6 address
carries, exactly when the address does not hide it; and a list that is returned
gives no way to such an address, exactly when one of the list is refused anyway
or none of it hides one.
-/
theorem filter_covers_embedded
    (v6 : Ipv6Addr) (host : String) (addrs : List SocketAddr) :
    ((∀ (form : Embedding) v4,
          isDisallowedIpv4 v4 = true → form.Carries v6 v4 →
            isDisallowedIp (.v6 v6) = true) ↔
        ¬ Hides v6) ∧
      ((∀ checked,
          validateResolvedAddresses host addrs = .ok checked →
            ∀ addr ∈ checked, ∀ v4,
              isDisallowedIpv4 v4 = true → ¬ Reaches addr.ip v4) ↔
        (∃ addr ∈ addrs, isDisallowedIp addr.ip = true) ∨
          ∀ addr ∈ addrs, ¬ HidesIp addr.ip) := by
  refine ⟨refused_iff_not_hides v6, ?_⟩
  by_cases refused : ∃ addr ∈ addrs, isDisallowedIp addr.ip = true
  · refine iff_of_true ?_ (Or.inl refused)
    intro checked validated
    rcases refused with ⟨addr, member, disallowed⟩
    rcases validateResolvedAddresses_eq_ok_iff.mp validated with ⟨_, all, _⟩
    exact absurd disallowed (all addr member)
  · rw [or_iff_right refused]
    have unrefused : ∀ addr ∈ addrs, ¬ isDisallowedIp addr.ip = true := by
      intro addr member disallowed
      exact refused ⟨addr, member, disallowed⟩
    constructor
    · intro unreached addr member hides
      have validated : validateResolvedAddresses host addrs = .ok addrs :=
        validateResolvedAddresses_eq_ok_iff.mpr
          ⟨List.ne_nil_of_mem member, unrefused, rfl⟩
      cases addr with
      | v4 ip port => exact hides
      | v6 ip port flowinfo scopeId =>
          rcases hides with ⟨_, _, form, _, v4, carries, disallowed⟩
          exact unreached addrs validated _ member v4 disallowed ⟨form, carries⟩
    · rintro plain checked validated addr member v4 disallowed reaches
      rcases validateResolvedAddresses_eq_ok_iff.mp validated with ⟨_, _, rfl⟩
      cases addr with
      | v4 ip port =>
          cases reaches
          exact unrefused _ member disallowed
      | v6 ip port flowinfo scopeId =>
          rcases reaches with ⟨form, carries⟩
          have covered := (refused_iff_not_hides ip).mpr (plain _ member)
          exact unrefused _ member (covered form v4 disallowed carries)

/-- `64:ff9b::169.254.169.254`, `2002:7f00:1::` and `::10.0.0.1`. -/
theorem filter_misses_embedded :
    (isDisallowedIpv4 ⟨169, 254, 169, 254⟩ = true ∧
      Embedding.nat64.Carries
        ⟨[0x00, 0x64, 0xFF, 0x9B, 0, 0, 0, 0, 0, 0, 0, 0, 169, 254, 169, 254],
          rfl⟩
        ⟨169, 254, 169, 254⟩ ∧
      isDisallowedIp
          (.v6
            ⟨[0x00, 0x64, 0xFF, 0x9B, 0, 0, 0, 0, 0, 0, 0, 0,
                169, 254, 169, 254],
              rfl⟩) =
        false) ∧
    (isDisallowedIpv4 ⟨127, 0, 0, 1⟩ = true ∧
      Embedding.sixToFour.Carries
        ⟨[0x20, 0x02, 127, 0, 0, 1, 0, 0, 0, 0, 0, 0, 0, 0, 0, 0], rfl⟩
        ⟨127, 0, 0, 1⟩ ∧
      isDisallowedIp
          (.v6
            ⟨[0x20, 0x02, 127, 0, 0, 1, 0, 0, 0, 0, 0, 0, 0, 0, 0, 0], rfl⟩) =
        false) ∧
    isDisallowedIpv4 ⟨10, 0, 0, 1⟩ = true ∧
    Embedding.compatible.Carries
      ⟨[0, 0, 0, 0, 0, 0, 0, 0, 0, 0, 0, 0, 10, 0, 0, 1], rfl⟩
      ⟨10, 0, 0, 1⟩ ∧
    validateResolvedAddresses "fixture.test"
        [.v6 ⟨[0, 0, 0, 0, 0, 0, 0, 0, 0, 0, 0, 0, 10, 0, 0, 1], rfl⟩ 80 0 0] =
      .ok
        [.v6 ⟨[0, 0, 0, 0, 0, 0, 0, 0, 0, 0, 0, 0, 10, 0, 0, 1], rfl⟩ 80 0 0] := by
  refine ⟨⟨?_, rfl, ?_⟩, ⟨?_, ⟨_, rfl⟩, ?_⟩, ?_, rfl, ?_⟩ <;> decide

end RitspLtv.EmbeddedAddresses
