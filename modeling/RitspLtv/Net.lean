import RitspLtv.Foundation.Checks
import RitspLtv.RustStd
import Mathlib.Data.List.Range

/-!
# Addresses that may be fetched from

The host of a URL in a certificate is chosen by whoever made the certificate.
Before a connection is made every address it resolves to is classified, and an
address that is not public is refused.
-/

namespace RitspLtv.Net

open RitspLtv.Foundation.Checks
open RitspLtv.RustStd

/-! ## Addresses -/

/-- `Ipv4Addr`: its four octets. -/
structure Ipv4Addr where
  first : UInt8
  second : UInt8
  third : UInt8
  fourth : UInt8
  deriving DecidableEq, Repr

/-- `Ipv6Addr`: its sixteen octets. -/
structure Ipv6Addr where
  octets : Bytes
  length_octets : octets.length = 16
  deriving DecidableEq, Repr

inductive IpAddr where
  | v4 (address : Ipv4Addr)
  | v6 (address : Ipv6Addr)
  deriving DecidableEq, Repr

inductive SocketAddr where
  | v4 (ip : Ipv4Addr) (port : UInt16)
  | v6 (ip : Ipv6Addr) (port : UInt16) (flowinfo scopeId : UInt32)
  deriving DecidableEq, Repr

/-- `SocketAddr::ip`. -/
def SocketAddr.ip : SocketAddr → IpAddr
  | .v4 ip _ => .v4 ip
  | .v6 ip _ _ _ => .v6 ip

namespace Ipv4Addr

def octets (v4 : Ipv4Addr) : Bytes :=
  [v4.first, v4.second, v4.third, v4.fourth]

def isLoopback (v4 : Ipv4Addr) : Bool :=
  v4.first == 127

def isPrivate (v4 : Ipv4Addr) : Bool :=
  v4.first == 10 ||
    (v4.first == 172 && 16 ≤ v4.second && v4.second ≤ 31) ||
    (v4.first == 192 && v4.second == 168)

def isLinkLocal (v4 : Ipv4Addr) : Bool :=
  v4.first == 169 && v4.second == 254

def isUnspecified (v4 : Ipv4Addr) : Bool :=
  v4 == ⟨0, 0, 0, 0⟩

def isBroadcast (v4 : Ipv4Addr) : Bool :=
  v4 == ⟨255, 255, 255, 255⟩

def isDocumentation (v4 : Ipv4Addr) : Bool :=
  (v4.first == 192 && v4.second == 0 && v4.third == 2) ||
    (v4.first == 198 && v4.second == 51 && v4.third == 100) ||
    (v4.first == 203 && v4.second == 0 && v4.third == 113)

def isMulticast (v4 : Ipv4Addr) : Bool :=
  224 ≤ v4.first && v4.first ≤ 239

/-- The `Display` form: four decimal numbers. -/
def display (v4 : Ipv4Addr) : String :=
  ".".intercalate (v4.octets.map fun octet => toString octet.toNat)

end Ipv4Addr

namespace Ipv6Addr

/-- The octets in front of an embedded IPv4 address in `::ffff:0:0/96`. -/
def mappedPrefix : Bytes :=
  List.replicate 10 0x00 ++ [0xFF, 0xFF]

/-- `Ipv6Addr::UNSPECIFIED`. -/
def unspecified : Ipv6Addr :=
  ⟨List.replicate 16 0x00, rfl⟩

/-- `Ipv6Addr::LOCALHOST`. -/
def localhost : Ipv6Addr :=
  ⟨List.replicate 15 0x00 ++ [0x01], rfl⟩

/-- One of the eight groups of sixteen bits. -/
def segment (v6 : Ipv6Addr) (index : Nat) : UInt16 :=
  (v6.octets.getD (2 * index) 0).toUInt16 <<< 8 |||
    (v6.octets.getD (2 * index + 1) 0).toUInt16

def segments (v6 : Ipv6Addr) : List UInt16 :=
  (List.range 8).map v6.segment

/-- `Ipv6Addr::to_ipv4_mapped`. -/
def toIpv4Mapped (v6 : Ipv6Addr) : Option Ipv4Addr :=
  match v6.octets.drop 12 with
  | [first, second, third, fourth] =>
      if v6.octets.take 12 = mappedPrefix then
        some ⟨first, second, third, fourth⟩
      else
        none
  | _ => none

def isLoopback (v6 : Ipv6Addr) : Bool :=
  v6 == localhost

def isUnspecified (v6 : Ipv6Addr) : Bool :=
  v6 == unspecified

def isMulticast (v6 : Ipv6Addr) : Bool :=
  v6.segment 0 &&& 0xFF00 == 0xFF00

/-- A run of zero segments: where it starts and how long it is. -/
structure Span where
  start : Nat
  len : Nat

/-- The first of the longest runs of zero segments. -/
def longestZeros (v6 : Ipv6Addr) : Span :=
  (v6.segments.zipIdx.foldl
    (fun (longest, current) (segment, index) =>
      if segment = 0 then
        let grown : Span :=
          ⟨if current.len = 0 then index else current.start, current.len + 1⟩
        (if grown.len > longest.len then grown else longest, grown)
      else
        (longest, ⟨0, 0⟩))
    ((⟨0, 0⟩, ⟨0, 0⟩) : Span × Span)).1

/-- Segments in hexadecimal, with colons between them. -/
def displaySegments (segments : List UInt16) : String :=
  ":".intercalate
    (segments.map fun segment =>
      String.ofList (Nat.toDigits 16 segment.toNat))

/-- The `Display` form, with the longest run of zeros left out. -/
def display (v6 : Ipv6Addr) : String :=
  match v6.toIpv4Mapped with
  | some v4 => "::ffff:" ++ v4.display
  | none =>
      let zeros := v6.longestZeros
      if zeros.len > 1 then
        displaySegments (v6.segments.take zeros.start) ++ "::" ++
          displaySegments (v6.segments.drop (zeros.start + zeros.len))
      else
        displaySegments v6.segments

end Ipv6Addr

/-- The `Display` form of an address. -/
def IpAddr.display : IpAddr → String
  | .v4 address => address.display
  | .v6 address => address.display

/-! ## The classifier -/

/-- An IPv4 address outside the blocks that are globally routable. -/
def isDisallowedIpv4 (v4 : Ipv4Addr) : Bool :=
  v4.isLoopback || v4.isPrivate || v4.isLinkLocal || v4.isUnspecified ||
    v4.isBroadcast || v4.isDocumentation || v4.isMulticast ||
    v4.first == 0 ||
    (v4.first == 100 && v4.second &&& 0xC0 == 0x40) ||
    (v4.first == 192 && v4.second == 0 && v4.third == 0) ||
    (v4.first == 198 && v4.second &&& 0xFE == 18) ||
    240 ≤ v4.first

/-- An address that must not be fetched from. -/
def isDisallowedIp : IpAddr → Bool
  | .v4 v4 => isDisallowedIpv4 v4
  | .v6 v6 =>
      match v6.toIpv4Mapped with
      | some v4 => isDisallowedIpv4 v4
      | none =>
          let first := v6.segment 0
          v6.isLoopback || v6.isUnspecified || v6.isMulticast ||
            first &&& 0xFE00 == 0xFC00 ||
            first &&& 0xFFC0 == 0xFE80 ||
            first &&& 0xFFC0 == 0xFEC0 ||
            (first == 0x2001 && v6.segment 1 == 0x0DB8) ||
            (first == 0x3FFF && v6.segment 1 &&& 0xF000 == 0) ||
            (first == 0x0100 && v6.segment 1 == 0 && v6.segment 2 == 0 &&
              v6.segment 3 == 0)

/-! ## Resolved addresses -/

/-- Why a URL must not be fetched. -/
inductive UrlGuardError where
  | parse (message : String)
  | scheme (scheme : String)
  | noHost
  | resolution (message : String)
  | noAddresses (host : String)
  | nonPublic (message : String)
  deriving DecidableEq

/-- The `Display` form of the reason. -/
def UrlGuardError.display : UrlGuardError → String
  | .parse message => s!"invalid URL: {message}"
  | .scheme other =>
      s!"URL scheme not allowed: {other} (only http/https are supported)"
  | .noHost => "URL has no host"
  | .resolution message => s!"failed to resolve host: {message}"
  | .noAddresses host => s!"host {host} resolved to no addresses"
  | .nonPublic message =>
      s!"host {message} is a non-public address (SSRF guard)"

/-- Refuse an address that is not public. -/
def checkResolvedAddress (host : String) (addr : SocketAddr) :
    Except UrlGuardError Unit :=
  rejectIf (isDisallowedIp addr.ip = true)
    (.nonPublic (host ++ " resolved to " ++ addr.ip.display))

/-- The addresses a host resolves to, unless one of them is refused. -/
def validateResolvedAddresses (host : String) (addrs : List SocketAddr) :
    Except UrlGuardError (List SocketAddr) := do
  rejectIf (addrs = []) (.noAddresses host)
  addrs.forM (checkResolvedAddress host)
  pure addrs

end RitspLtv.Net
