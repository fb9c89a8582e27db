import RitspLtv.EmbeddedAddresses
import RitspLtv.Ltv.CrlFetch

/-!
# Guarded fetches

A URL from a certificate is checked before any request: its scheme, and the
address it names or every address its host resolves to.  The host may resolve to
something else a moment later, and the server may redirect anywhere; so the
client resolves through the same filter whenever it connects, and asks a policy
before it follows a redirect.

The HTTP client itself is left open: it connects to the literal address of a
requested URL or to an address its resolver has returned, and it requests a URL
behind the first only where the policy lets it.
-/

namespace RitspLtv.FetchGuard

open RitspLtv.Foundation.Checks
open RitspLtv.RustStd
open RitspLtv.Net
open RitspLtv.EmbeddedAddresses
open RitspLtv.Ltv.CrlFetch

/-! ## The check before a request -/

/-- The parts of a parsed URL that are looked at. -/
structure Url where
  scheme : String
  host : Option Bytes
  portOrKnownDefault : Option UInt16
  deriving DecidableEq

/-- The operations on URLs and addresses of the HTTP crate and the standard library. -/
structure UrlCrates where
  /-- `reqwest::Url::parse`. -/
  parseUrl : Bytes → Except String Url
  /-- `str::parse::<IpAddr>`. -/
  parseIpAddr : Bytes → Option IpAddr

/-- What a lookup of a host and a port gives; the task or the lookup may fail. -/
abbrev Lookup :=
  Bytes → UInt16 → Except String (Except String (List SocketAddr))

/-- Strip the brackets around an IPv6 literal. -/
def unbracket (host : Bytes) : Bytes :=
  ((stripPrefix 0x5B host).bind (stripSuffix 0x5D)).getD host

/-- Resolve a host and refuse it when one of its addresses is not public. -/
def resolvePublicHost (lookup : Lookup) (host : Bytes) (port : UInt16) :
    Except UrlGuardError (List SocketAddr) := do
  let looked ←
    (lookup host port).mapError fun e =>
      .resolution s!"DNS resolution task failed: {e}"
  let addrs ←
    looked.mapError fun e => .resolution s!"{asciiString host}: {e}"
  validateResolvedAddresses (asciiString host) addrs

/-- Only `http` and `https` are fetched. -/
def checkScheme (scheme : String) : Except UrlGuardError Unit :=
  rejectIf (scheme ≠ "http" ∧ scheme ≠ "https") (.scheme scheme)

section Guard

variable (crates : UrlCrates)

/-- Check the address a host names, or all that it resolves to. -/
def checkHost (lookup : Lookup) (hostBare : Bytes) (port : UInt16) :
    Except UrlGuardError Unit :=
  match crates.parseIpAddr hostBare with
  | some ip =>
      rejectIf (isDisallowedIp ip = true) (.nonPublic (asciiString hostBare))
  | none => do
      let _ ← resolvePublicHost lookup hostBare port

/-- Check that a URL is safe to fetch, before any egress. -/
def validateFetchUrl (lookup : Lookup) (url : Bytes) :
    Except UrlGuardError Unit := do
  let parsed ←
    (crates.parseUrl url).mapError fun e => .parse s!"{urlText url}: {e}"
  checkScheme parsed.scheme
  match parsed.host with
  | none => .error .noHost
  | some host =>
      checkHost crates lookup (unbracket host)
        (parsed.portOrKnownDefault.getD 0)

/-- The literal address in a URL. -/
def literalAddress (url : Url) : Option IpAddr :=
  url.host.bind fun host => crates.parseIpAddr (unbracket host)

end Guard

/-! ## The client -/

/-- `MAX_REDIRECTS`. -/
def maxRedirects : Nat := 5

/-- What the policy says about a redirect. -/
inductive Action where
  | follow
  | stop
  | error (message : String)
  deriving DecidableEq

section Client

variable (crates : UrlCrates)

/-- The redirect policy of a hardened client. -/
def redirectPolicy (previous : List Url) (url : Url) : Action :=
  if previous.length ≥ maxRedirects then .error "too many redirects"
  else
    match literalAddress crates url with
    | some ip => if isDisallowedIp ip then .stop else .follow
    | none => .follow

/-- The resolver of a hardened client. -/
def publicDnsResolve (lookup : Lookup) (name : Bytes) :
    Except UrlGuardError (List SocketAddr) :=
  resolvePublicHost lookup name 0

/-- A request under way: the URLs requested so far and the addresses reached. -/
structure Journey where
  previous : List Url
  current : Url
  connected : List IpAddr

/-- The URLs that have been requested, the first one first. -/
def Journey.requested (journey : Journey) : List Url :=
  journey.previous ++ [journey.current]

/-- A request that has not connected to anything. -/
def Journey.start (url : Url) : Journey := ⟨[], url, []⟩

/--
What the client may do.  Which address it picks, what a host resolves to at
that moment and where a server redirects to are all up to the network.
-/
inductive Journey.Step : Journey → Journey → Prop where
  | literal (journey : Journey) (ip : IpAddr)
      (named : literalAddress crates journey.current = some ip) :
      Journey.Step journey { journey with connected := journey.connected ++ [ip] }
  | resolved (journey : Journey) (host : Bytes) (lookup : Lookup)
      (addrs : List SocketAddr) (addr : SocketAddr)
      (hostIs : journey.current.host = some host)
      (unnamed : literalAddress crates journey.current = none)
      (answered : publicDnsResolve lookup (unbracket host) = .ok addrs)
      (chosen : addr ∈ addrs) :
      Journey.Step journey
        { journey with connected := journey.connected ++ [addr.ip] }
  | redirected (journey : Journey) (next : Url)
      (allowed : redirectPolicy crates journey.requested next = .follow) :
      Journey.Step journey ⟨journey.requested, next, journey.connected⟩

/-- Reachable by a request for a URL. -/
def Journey.Reachable (url : Url) : Journey → Prop :=
  Relation.ReflTransGen (Journey.Step crates) (.start url)

end Client

/-! ## Where a request can get -/

section Confinement

variable {crates : UrlCrates} {lookup : Lookup} {url : Bytes}

theorem public_of_resolvePublicHost
    {host : Bytes} {port : UInt16} {addrs : List SocketAddr}
    (resolved : resolvePublicHost lookup host port = .ok addrs)
    {addr : SocketAddr} (member : addr ∈ addrs) :
    isDisallowedIp addr.ip = false := by
  simp only [resolvePublicHost, bind_eq_ok, mapError_eq_ok] at resolved
  rcases resolved with ⟨_, _, found, _, validated⟩
  rcases validateResolvedAddresses_eq_ok_iff.mp validated with
    ⟨_, allowed, rfl⟩
  exact Bool.eq_false_iff.mpr (allowed addr member)

/-- A URL that passes the check parses, and an address in it is public. -/
theorem public_of_validateFetchUrl
    (checked : validateFetchUrl crates lookup url = .ok ()) :
    ∃ parsed,
      crates.parseUrl url = .ok parsed ∧
        (parsed.scheme = "http" ∨ parsed.scheme = "https") ∧
        ∀ ip, literalAddress crates parsed = some ip →
          isDisallowedIp ip = false := by
  simp only [validateFetchUrl, bind_eq_ok, mapError_eq_ok, exists_unit_eq_ok]
    at checked
  rcases checked with ⟨parsed, parse, scheme, rest⟩
  refine ⟨parsed, parse, ?_, ?_⟩
  · rw [checkScheme, rejectIf_eq_ok] at scheme
    by_contra neither
    rw [not_or] at neither
    exact scheme neither
  · intro ip literal
    rw [literalAddress] at literal
    cases hostIs : parsed.host with
    | none => simp [hostIs] at literal
    | some host =>
        simp only [hostIs, Option.bind_some] at literal rest
        rw [checkHost, literal] at rest
        simpa using rest

/-- What holds at every moment of a request. -/
structure Confined (crates : UrlCrates) (url : Url) (journey : Journey) :
    Prop where
  /-- Only the address named in the first URL may be one that is not public. -/
  connected :
    ∀ ip ∈ journey.connected,
      isDisallowedIp ip = false ∨ literalAddress crates url = some ip
  current :
    ∀ ip, literalAddress crates journey.current = some ip →
      isDisallowedIp ip = false ∨ literalAddress crates url = some ip
  few : journey.requested.length ≤ maxRedirects

theorem confined_start (crates : UrlCrates) (url : Url) :
    Confined crates url (.start url) where
  connected := by
    intro ip member
    cases member
  current := by
    intro ip literal
    exact .inr literal
  few := Nat.le_of_ble_eq_true rfl

theorem Confined.step
    {initial : Url} {journey next : Journey}
    (confined : Confined crates initial journey)
    (step : journey.Step crates next) :
    Confined crates initial next := by
  cases step with
  | literal ip named =>
      refine ⟨?_, confined.current, confined.few⟩
      intro other member
      rcases List.mem_append.mp member with before | now
      · exact confined.connected other before
      · rw [List.mem_singleton.mp now]
        exact confined.current ip named
  | resolved host lookup addrs addr hostIs unnamed answered chosen =>
      refine ⟨?_, confined.current, confined.few⟩
      intro other member
      rcases List.mem_append.mp member with before | now
      · exact confined.connected other before
      · rw [List.mem_singleton.mp now]
        exact .inl (public_of_resolvePublicHost answered chosen)
  | redirected url allowed =>
      rw [redirectPolicy] at allowed
      by_cases many : journey.requested.length ≥ maxRedirects
      · rw [if_pos many] at allowed
        cases allowed
      · rw [if_neg many] at allowed
        refine ⟨confined.connected, ?_, ?_⟩
        · intro ip literal
          simp only [literal] at allowed
          by_cases disallowed : isDisallowedIp ip = true
          · rw [if_pos disallowed] at allowed
            cases allowed
          · exact .inl (Bool.eq_false_iff.mpr disallowed)
        · rw [Journey.requested, List.length_append, List.length_singleton]
          exact Nat.not_le.mp many

theorem confined_of_reachable
    {initial : Url} {journey : Journey}
    (reachable : Journey.Reachable crates initial journey) :
    Confined crates initial journey := by
  induction reachable with
  | refl => exact confined_start crates initial
  | tail _ step induction => exact induction.step step

end Confinement

end RitspLtv.FetchGuard
