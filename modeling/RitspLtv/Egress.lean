import RitspLtv.Ltv.ChainDiscovery
import RitspLtv.Ltv.CrlDownload
import RitspLtv.Ltv.OcspFetch
import RitspLtv.Tsp.Client

/-!
# All clients of the crate

The crate talks to timestamping authorities, OCSP responders, CRL distribution
points and the servers of issuer certificates, at URLs of which most come out of
certificates.  Wherever these point, no request of an HTTP client that the crate
has built connects to an address that the classifier refuses, and no server
makes a client hold more than its cap.  An HTTP client that the caller brings
along unverified has its own resolver and redirect policy, and is left out.
-/

namespace RitspLtv.Egress

open RitspLtv.Foundation.BoundedRead
open RitspLtv.Foundation.Checks
open RitspLtv.Foundation.Conversation
open RitspLtv.RustStd
open RitspLtv.Crypto.Verify
open RitspLtv.FetchGuard
open RitspLtv.Http
open RitspLtv.Ltv.CertIds
open RitspLtv.Ltv.ChainDiscovery
open RitspLtv.Ltv.CrlDownload
open RitspLtv.Ltv.CrlFetch
open RitspLtv.Ltv.OcspFetch
open RitspLtv.Net
open RitspLtv.Trust.Store
open RitspLtv.Tsp.Client
open RitspLtv.Tsp.Request
open RitspLtv.Tsp.Response

/-! ## Requests -/

/-- The exchanges of one run of a client, however it ends. -/
inductive ClientRun : List (Exchange network) → Prop where
  | timestamp (crates : ResponseCrates) (signatures : Signatures)
      (encoders : RequestEncoders) (pool : TsaClientPool) (dataHash : Bytes)
      {exchanges : List (Exchange network)}
      {outcome : Except Tsp.ResponseValidation.RequestError Bytes}
      (returned :
        Task.Returns (pool.timestamp crates signatures encoders dataHash)
          exchanges outcome) :
      ClientRun exchanges
  | ocsp (crates : RequestCrates) (client : OcspClient)
      (cert issuer : Certificate) {exchanges : List (Exchange network)}
      {outcome : Except LtvError Bytes}
      (returned :
        Task.Returns (client.fetchOcspResponse crates cert issuer) exchanges
          outcome) :
      ClientRun exchanges
  | ocspWithNonce (crates : RequestCrates) (client : OcspClient)
      (cert issuer : Certificate) {exchanges : List (Exchange network)}
      {outcome : Except LtvError (Bytes × Bytes)}
      (returned :
        Task.Returns (client.fetchOcspResponseWithNonce crates cert issuer)
          exchanges outcome) :
      ClientRun exchanges
  | crl (client : CrlClient) (url : Bytes)
      {exchanges : List (Exchange network)} {outcome : Except LtvError Bytes}
      (returned :
        Task.Returns (downloadCrl client url) exchanges outcome) :
      ClientRun exchanges
  | chain (crates : DiscoveryCrates) (builder : ChainBuilder)
      (leaf : Certificate) (trustStore : TrustStore)
      {exchanges : List (Exchange network)}
      {outcome : Except ChainError (List Bytes)}
      (returned :
        Task.Returns (builder.buildChain crates leaf trustStore) exchanges
          outcome) :
      ClientRun exchanges

theorem guarded_of_clientRun
    {exchanges : List (Exchange network)} (run : ClientRun exchanges) :
    Guarded exchanges := by
  cases run with
  | timestamp crates signatures encoders pool dataHash returned =>
      exact always_guarded_pool pool exchanges _ returned
  | ocsp crates client cert issuer returned =>
      exact always_guarded_fetchOcspResponse exchanges _ returned
  | ocspWithNonce crates client cert issuer returned =>
      exact always_guarded_fetchOcspResponseWithNonce exchanges _ returned
  | crl client url returned =>
      exact always_guarded_guardedFetch exchanges _ returned
  | chain crates builder leaf trustStore returned =>
      exact always_guarded_climbUp maxChainDepth [] leaf exchanges _ returned

/--
In every run of every client, each request has a check of its own URL behind the
request before it.  Where such a check has passed for whatever the host resolved
to at that moment, the request connects only to addresses that the classifier
does not refuse, and goes over at most five URLs, whatever the host resolves to
later and wherever the servers redirect.
-/
theorem clientRun_staysPublic
    (crates : UrlCrates) (exchanges : List (Exchange network))
    (run : ClientRun exchanges) (honest : Honest crates exchanges)
    (request : Http.Request) (answer : Except String Response)
    (member : sent request answer ∈ exchanges) :
    (∃ earlier between later,
      exchanges =
          earlier ++ checked request.url (some (.ok ())) ::
            (between ++ sent request answer :: later) ∧
        SendsNothing between) ∧
      StaysPublic crates request.url := by
  have guarded := guarded_of_clientRun run
  refine ⟨?_, staysPublic_of_guarded guarded honest member⟩
  rcases List.append_of_mem member with ⟨before, later, rfl⟩
  rcases guarded before _ later rfl ⟨request, answer, rfl⟩ with
    ⟨earlier, permission, between, rfl, ⟨other, otherAnswer, same, rfl⟩,
      quiet⟩
  rw [sent_injective same]
  exact ⟨earlier, between, later, by simp, quiet⟩

section Reference

/-- The URL of the root's certificate, and a host that is a name. -/
def issuerUrlCrates : UrlCrates where
  parseUrl _ := .ok ⟨"http", some (asciiBytes "ca.test"), some 80⟩
  parseIpAddr _ := none

/-- The host resolves to one public address. -/
def issuerLookup : Lookup :=
  fun _ port => .ok (.ok [.v4 ⟨93, 184, 216, 34⟩ port])

theorem honest_discoveryExchanges :
    Honest issuerUrlCrates discoveryExchanges := by
  intro url member
  refine ⟨issuerLookup, ?_⟩
  rw [discoveryExchanges, List.mem_cons, List.mem_singleton] at member
  rcases member with same | same
  · cases same
    decide +kernel
  · cases same

/-- The certificate of the root is fetched from addresses that may be used. -/
theorem clientRun_staysPublic_reference :
    StaysPublic issuerUrlCrates issuerUrl :=
  (clientRun_staysPublic issuerUrlCrates discoveryExchanges
    (.chain discoveryCrates ChainBuilder.new linkedLeaf TrustStore.new
      returns_buildChain_linkedLeaf)
    honest_discoveryExchanges (ChainBuilder.get issuerUrl) (.ok issuerAnswer)
    (by simp [discoveryExchanges])).2

end Reference

/-! ## Answers -/

/--
All clients read a body in the same way: all of it when it ends properly and is
within the cap, also by what was announced, and else nothing.  How the server
cuts it into chunks makes no difference, to the error either; and what is held
on the way is a part of it within the cap, however large the chunks are.
-/
theorem bodies_bounded
    (tsa : TsaClient) (ocsp : OcspClient) (crl : CrlClient)
    (builder : ChainBuilder) (url : Bytes) (response : Response) :
    (∀ body,
      (tsa.readResponseBody response = .ok body ↔
        Delivers response tsa.maxBodySize body) ∧
      (ocsp.readResponseBody response url = .ok body ↔
        Delivers response ocsp.maxBodySize body) ∧
      (readCrlBody crl url response = .ok body ↔
        Delivers response crl.maxBodySize body) ∧
      (builder.readCertBody response url = .ok body ↔
        Delivers response builder.maxBodySize body)) ∧
      (∀ other, SameOctets response other →
        tsa.readResponseBody response = tsa.readResponseBody other ∧
          ocsp.readResponseBody response url =
            ocsp.readResponseBody other url ∧
          readCrlBody crl url response = readCrlBody crl url other ∧
          builder.readCertBody response url =
            builder.readCertBody other url) ∧
      ∀ cap, ∀ refuses ∈ [overRemaining cap, overTotal cap],
        ∀ buffer, Holds refuses response.chunks buffer →
          buffer.length ≤ cap ∧ buffer <+: response.chunks.flatten := by
  refine ⟨?_, ?_, ?_⟩
  · intro body
    rw [readCrlBody_eq]
    exact
      ⟨readBounded_eq_ok_iff (caps_overRemaining _),
        readBounded_eq_ok_iff (caps_overRemaining _),
        readBounded_eq_ok_iff (caps_overRemaining _),
        readBounded_eq_ok_iff (caps_overTotal _)⟩
  · intro other same
    rw [readCrlBody_eq, readCrlBody_eq]
    exact
      ⟨readBounded_congr (caps_overRemaining _) same,
        readBounded_congr (caps_overRemaining _) same,
        readBounded_congr (caps_overRemaining _) same,
        readBounded_congr (caps_overTotal _) same⟩
  · intro cap refuses member buffer holds
    rcases List.mem_pair.mp member with rfl | rfl
    · exact buffer_bounded (caps_overRemaining cap) holds
    · exact buffer_bounded (caps_overTotal cap) holds

end RitspLtv.Egress
