import RitspLtv.Foundation.Climb
import RitspLtv.Http
import RitspLtv.Ltv.Urls
import RitspLtv.Reference
import RitspLtv.Trust.Store

/-!
# Discovering a chain

A chain builder climbs from a leaf towards an anchor.  It finds the next
certificate behind the URLs that the current one names for its issuer, or among
certificates that are there already.  What it returns is not verified: a climb
over the network follows URLs and does not even compare names, a climb among
given certificates follows names only.
-/

namespace RitspLtv.Ltv.ChainDiscovery

open RitspLtv.Foundation.BoundedRead
open RitspLtv.Foundation.Checks
open RitspLtv.Foundation.Climb
open RitspLtv.Foundation.Conversation
open RitspLtv.RustStd
open RitspLtv.DerUtils
open RitspLtv.Http
open RitspLtv.Ltv.CrlFetch
open RitspLtv.Ltv.Urls
open RitspLtv.Trust.Store

/-- The crates, with the PEM decoder of downloaded certificates. -/
structure DiscoveryCrates extends Crates where
  /-- `pem_rfc7468::decode_vec`: a label and the octets under it. -/
  pemDecodeVec : Bytes → Except String (String × Bytes)

/-- The variant of `LtvError` that discovery ends in. -/
inductive ChainError where
  | chain (message : String)
  deriving DecidableEq

/-- `MAX_CHAIN_DEPTH`. -/
def maxChainDepth : Nat := 10

/-- `MAX_CERT_BODY_SIZE`. -/
def maxCertBodySize : Nat := 1024 * 1024

/-- The subject and the issuer of a certificate are the same name. -/
def isSelfSigned (cert : Certificate) : Bool :=
  decide (cert.tbsCertificate.subject = cert.tbsCertificate.issuer)

/-! ## The builder -/

/-- A builder's settings; the timeout is given by its `Debug` form. -/
structure ChainBuilder where
  timeout : String
  maxBodySize : Nat

namespace ChainBuilder

/-- A builder with the default settings. -/
def new : ChainBuilder := ⟨"30s", maxCertBodySize⟩

variable (builder : ChainBuilder) (crates : DiscoveryCrates)

/-- The request for a certificate. -/
def get (url : Bytes) : Http.Request where
  method := .get
  url := url
  contentType := none
  body := []

/-- Read the body of a response, up to the cap. -/
def readCertBody (response : Response) (url : Bytes) :
    Except ChainError Bytes :=
  readBounded builder.maxBodySize (overTotal builder.maxBodySize)
    (fun len =>
      .chain
        s!"cert from {urlText url} exceeds max body size ({len} > {builder.maxBodySize})")
    (.chain
      s!"cert from {urlText url} exceeds max body size (> {builder.maxBodySize})")
    (fun e => .chain s!"failed to read cert response: {e}") response

/-- A certificate in DER, or else in PEM. -/
def parseFetched (url certBytes : Bytes) : Except ChainError Certificate :=
  let unparsed :=
    ChainError.chain
      s!"could not parse certificate from {urlText url} (tried DER and PEM)"
  match crates.certificateFromDer certBytes with
  | .ok cert => .ok cert
  | .error _ =>
      match crates.pemDecodeVec certBytes with
      | .error _ => .error unparsed
      | .ok (_, der) =>
          match crates.certificateFromDer der with
          | .ok cert => .ok cert
          | .error _ => .error unparsed

/-- From the answer to the certificate. -/
def receive (url : Bytes) (answer : Except String Response) :
    Except ChainError Certificate := do
  let response ←
    answer.mapError fun e =>
      .chain s!"failed to fetch cert from {urlText url}: {e}"
  rejectIf (response.isSuccess = false)
    (.chain s!"cert fetch from {urlText url} returned HTTP {response.status}")
  let certBytes ← builder.readCertBody response url
  parseFetched crates url certBytes

/-- Fetch a certificate from a URL. -/
def fetchCertificate (url : Bytes) : Task network ChainError Certificate :=
  guardedFetch
    (.chain s!"AIA caIssuers URL validation timed out after {builder.timeout}")
    (fun e => .chain s!"AIA caIssuers {e}") (get url)
    (builder.receive crates url)

/-- Fetch the issuer from the first URL that gives a certificate. -/
def fetchIssuer (urls : List Bytes) :
    Task network ChainError (Option Certificate) :=
  firstSuccess (builder.fetchCertificate crates) urls

/-- The loop: at most `steps` more certificates, the first of them `current`. -/
def climbUp (trustStore : TrustStore) :
    Nat → List Bytes → Certificate → Task network ChainError (List Bytes)
  | 0, chain, _ => pure chain
  | steps + 1, chain, current => do
      let currentDer ←
        Task.ofExcept
          ((crates.certificateToDer current).mapError fun e =>
            .chain s!"failed to encode certificate: {e}")
      let chain := chain ++ [currentDer]
      if (trustStore.findIssuer current).isSome then pure chain
      else if isSelfSigned current then pure chain
      else
        let caIssuerUrls := extractAiaUrls current .caIssuers
        if caIssuerUrls = [] then pure chain
        else
          match ← builder.fetchIssuer crates caIssuerUrls with
          | none => pure chain
          | some issuer => climbUp trustStore steps chain issuer

/-- Build a chain by following the URLs of issuers. -/
def buildChain (leaf : Certificate) (trustStore : TrustStore) :
    Task network ChainError (List Bytes) :=
  builder.climbUp crates trustStore maxChainDepth [] leaf

end ChainBuilder

/-- The loop over certificates that are there already. -/
def orderCerts (crates : Crates) (availableCerts : List Certificate)
    (trustStore : TrustStore) : Nat → List Bytes → Certificate → List Bytes
  | 0, chain, _ => chain
  | steps + 1, chain, current =>
      match crates.certificateToDer current with
      | .error _ => chain
      | .ok currentDer =>
          let chain := chain ++ [currentDer]
          if (trustStore.findIssuer current).isSome then chain
          else if isSelfSigned current then chain
          else
            match
              availableCerts.find? fun c =>
                c.tbsCertificate.subject = current.tbsCertificate.issuer
            with
            | some issuer =>
                orderCerts crates availableCerts trustStore steps chain issuer
            | none => chain

/-- Order certificates into a chain. -/
def buildChainFromCerts (crates : Crates) (leaf : Certificate)
    (availableCerts : List Certificate) (trustStore : TrustStore) :
    List Bytes :=
  orderCerts crates availableCerts trustStore maxChainDepth [] leaf

/-! ## Climbs over the network -/

/-- The URLs that a certificate names for its issuer. -/
def issuerUrls (cert : Certificate) : List Bytes :=
  extractAiaUrls cert .caIssuers

/-- Discovery ends here: an anchor has the issuer's name, or it is its own. -/
def Settled (trustStore : TrustStore) (cert : Certificate) : Prop :=
  (trustStore.findIssuer cert).isSome = true ∨ isSelfSigned cert = true

/-- The octets are the encoding of the certificate. -/
def Encodes (crates : Crates) (cert : Certificate) (der : Bytes) : Prop :=
  crates.certificateToDer cert = .ok der

section Network

variable (builder : ChainBuilder) (crates : DiscoveryCrates)
variable (trustStore : TrustStore) (exchanges : List (Exchange network))

/-- The issuer was delivered from a URL that the certificate names for it. -/
def Follows (cert issuer : Certificate) : Prop :=
  ¬ Settled trustStore cert ∧
    ∃ url ∈ issuerUrls cert, ∃ answer,
      sent (ChainBuilder.get url) answer ∈ exchanges ∧
        builder.receive crates url answer = .ok issuer

/-- None of the URLs that the certificate names has given a certificate. -/
def Unanswered (cert : Certificate) : Prop :=
  ∃ tried errors,
    tried <:+: exchanges ∧
      Failures (builder.fetchCertificate crates) (issuerUrls cert) tried
        errors

/-- Discovery ends here, or does not lead on. -/
def Halts (cert : Certificate) : Prop :=
  Settled trustStore cert ∨ Unanswered builder crates exchanges cert

end Network

section Runs

variable {builder : ChainBuilder} {crates : DiscoveryCrates}
variable {trustStore : TrustStore} {exchanges : List (Exchange network)}

theorem Follows.mono
    {others : List (Exchange network)} (inside : exchanges <:+: others)
    (cert issuer : Certificate)
    (follows : Follows builder crates trustStore exchanges cert issuer) :
    Follows builder crates trustStore others cert issuer := by
  rcases follows with ⟨unsettled, url, member, answer, delivered, received⟩
  exact
    ⟨unsettled, url, member, answer, inside.subset delivered, received⟩

theorem Halts.mono
    {others : List (Exchange network)} (inside : exchanges <:+: others)
    (cert : Certificate)
    (halts : Halts builder crates trustStore exchanges cert) :
    Halts builder crates trustStore others cert := by
  rcases halts with settled | ⟨tried, errors, part, failures⟩
  · exact .inl settled
  · exact .inr ⟨tried, errors, part.trans inside, failures⟩

/-- An issuer comes from a URL, or every URL has failed. -/
theorem returns_fetchIssuer_iff
    {urls : List Bytes} {outcome : Except ChainError (Option Certificate)} :
    Task.Returns (builder.fetchIssuer crates urls) exchanges outcome ↔
      (∃ before url after former errors answer issuer,
        urls = before ++ url :: after ∧
          exchanges =
            former ++
              [checked url (some (.ok ())),
                sent (ChainBuilder.get url) answer] ∧
          Failures (builder.fetchCertificate crates) before former errors ∧
          builder.receive crates url answer = .ok issuer ∧
          outcome = .ok (some issuer)) ∨
      ∃ errors,
        Failures (builder.fetchCertificate crates) urls exchanges errors ∧
          outcome = .ok none := by
  rw [ChainBuilder.fetchIssuer, returns_firstSuccess_iff (.chain "") none]
  constructor
  · rintro ⟨result, tried, rfl⟩
    cases result with
    | error error =>
        rcases returns_tryEach_error_iff.mp tried with ⟨errors, failures, _⟩
        exact .inr ⟨errors, failures, rfl⟩
    | ok issuer =>
        rcases returns_tryEach_ok_iff.mp tried with
          ⟨before, url, after, former, latter, errors, split, rfl, failures,
            succeeded⟩
        rcases returns_guardedFetch_ok_iff.mp succeeded with
          ⟨answer, rfl, received⟩
        exact
          .inl
            ⟨before, url, after, former, errors, answer, issuer, split, rfl,
              failures, received, rfl⟩
  · rintro (⟨before, url, after, former, errors, answer, issuer, split, rfl,
      failures, received, rfl⟩ | ⟨errors, failures, rfl⟩)
    · refine
        ⟨.ok issuer,
          returns_tryEach_ok_iff.mpr
            ⟨before, url, after, former, _, errors, split, rfl, failures, ?_⟩,
          rfl⟩
      exact returns_guardedFetch_ok_iff.mpr ⟨answer, rfl, received⟩
    · exact
        ⟨.error _, returns_tryEach_error_iff.mpr ⟨errors, failures, rfl⟩, rfl⟩

theorem always_requestedUrls_fetchIssuer {urls : List Bytes} :
    Always (fun exchanges => (requestedUrls exchanges).Sublist urls)
      (builder.fetchIssuer crates urls) := by
  have each :=
    @always_requestedUrls_tryEach ChainError Certificate Bytes
      (builder.fetchCertificate crates) id
      (fun _ => always_requestedUrls_guardedFetch) (.chain "") none urls
  rw [List.map_id] at each
  exact always_firstSuccess (.chain "") each

theorem always_guarded_fetchIssuer {urls : List Bytes} :
    Always Guarded (builder.fetchIssuer crates urls) :=
  always_firstSuccess (.chain "")
    (always_tryEach guarded_nil guarded_append
      (fun _ => always_guarded_guardedFetch) _ _ _)

/-- The rounds of the loop, from the one that starts with `current`. -/
theorem climbs_of_returns
    {steps : Nat} {chain result : List Bytes} {current : Certificate}
    (returned :
      Task.Returns (builder.climbUp crates trustStore steps chain current)
        exchanges (.ok result)) :
    ∃ certs ders,
      Climbs (Follows builder crates trustStore exchanges)
          (Halts builder crates trustStore exchanges) steps current certs ∧
        List.Forall₂ (Encodes crates.toCrates) certs ders ∧
        result = chain ++ ders ∧
        (requestedUrls exchanges).Sublist (certs.flatMap issuerUrls) := by
  induction steps generalizing chain current exchanges with
  | zero =>
      rw [ChainBuilder.climbUp, Task.returns_pure_iff] at returned
      rcases returned with ⟨rfl, same⟩
      cases same
      exact
        ⟨[], [], .spent current, .nil, (List.append_nil _).symm,
          List.Sublist.refl _⟩
  | succ steps induction =>
      rw [ChainBuilder.climbUp, Task.returns_bind_ok_iff] at returned
      rcases returned with ⟨currentDer, _, latter, rfl, encoded, returned⟩
      rcases Task.returns_ofExcept_iff.mp encoded with ⟨rfl, same⟩
      have encodes : Encodes crates.toCrates current currentDer :=
        mapError_eq_ok.mp same.symm
      rw [List.nil_append]
      -- Nothing is requested any more where the loop ends.
      have ends :
          Halts builder crates trustStore latter current →
            (requestedUrls latter).Sublist (issuerUrls current) →
              result = chain ++ [currentDer] →
                ∃ certs ders,
                  Climbs (Follows builder crates trustStore latter)
                      (Halts builder crates trustStore latter) (steps + 1)
                      current certs ∧
                    List.Forall₂ (Encodes crates.toCrates) certs ders ∧
                    result = chain ++ ders ∧
                    (requestedUrls latter).Sublist
                      (certs.flatMap issuerUrls) := by
        intro halts requested resultIs
        refine
          ⟨[current], [currentDer], .halt steps current halts,
            .cons encodes .nil, resultIs, ?_⟩
        rw [List.flatMap_singleton]
        exact requested
      simp only at returned
      split at returned
      · next anchored =>
          rcases Task.returns_pure_iff.mp returned with ⟨rfl, same⟩
          cases same
          exact ends (.inl (.inl anchored)) (List.nil_sublist _) rfl
      · next unanchored =>
          split at returned
          · next selfSigned =>
              rcases Task.returns_pure_iff.mp returned with ⟨rfl, same⟩
              cases same
              exact ends (.inl (.inr selfSigned)) (List.nil_sublist _) rfl
          · next issued =>
              split at returned
              · next empty =>
                  rcases Task.returns_pure_iff.mp returned with ⟨rfl, same⟩
                  cases same
                  refine ends (.inr ⟨[], [], List.nil_infix, ?_⟩) ?_ rfl
                  · rw [issuerUrls, empty]
                    exact .nil
                  · exact List.nil_sublist _
              · rw [Task.returns_bind_ok_iff] at returned
                rcases returned with
                  ⟨found, former, later, rfl, fetched, returned⟩
                have requested :=
                  always_requestedUrls_fetchIssuer former _ fetched
                rcases returns_fetchIssuer_iff.mp fetched with
                  ⟨before, url, after, tried, errors, answer, issuer, split,
                    rfl, failures, received, same⟩ |
                    ⟨errors, failures, same⟩
                · cases same
                  rcases induction returned with
                    ⟨certs, ders, climb, encodings, rfl, urls⟩
                  refine
                    ⟨current :: certs, currentDer :: ders,
                      .step ⟨?_, url, ?_, answer, ?_, received⟩ ?_,
                      .cons encodes encodings, ?_, ?_⟩
                  · rintro (anchored | selfSigned)
                    · exact unanchored anchored
                    · exact issued selfSigned
                  · rw [issuerUrls, split]
                    simp
                  · simp
                  · exact
                      climb.mono (Follows.mono (List.suffix_append _ _).isInfix)
                        (Halts.mono (List.suffix_append _ _).isInfix)
                  · rw [List.append_assoc]
                    rfl
                  · rw [requestedUrls_append, List.flatMap_cons]
                    exact requested.append urls
                · cases same
                  rcases Task.returns_pure_iff.mp returned with ⟨rfl, same⟩
                  cases same
                  simp only [List.append_nil] at ends ⊢
                  exact
                    ends (.inr ⟨former, errors, List.infix_rfl, failures⟩)
                      requested trivial

/-- Discovery fails only where a certificate has no encoding. -/
theorem error_of_returns
    {steps : Nat} {chain : List Bytes} {current : Certificate}
    {error : ChainError}
    (returned :
      Task.Returns (builder.climbUp crates trustStore steps chain current)
        exchanges (.error error)) :
    ∃ cert e,
      crates.certificateToDer cert = .error e ∧
        error = .chain s!"failed to encode certificate: {e}" := by
  induction steps generalizing chain current exchanges with
  | zero =>
      rw [ChainBuilder.climbUp, Task.returns_pure_iff] at returned
      cases returned.2
  | succ steps induction =>
      rw [ChainBuilder.climbUp, Task.returns_bind_iff] at returned
      rcases returned with
        ⟨e, failed, same⟩ | ⟨currentDer, _, latter, rfl, _, returned⟩
      · rcases Task.returns_ofExcept_iff.mp failed with ⟨rfl, unencoded⟩
        cases same
        cases encoded : crates.certificateToDer current with
        | ok der =>
            rw [encoded] at unencoded
            cases unencoded
        | error e =>
            rw [encoded] at unencoded
            cases unencoded
            exact ⟨current, e, encoded, rfl⟩
      · simp only at returned
        split at returned
        · cases (Task.returns_pure_iff.mp returned).2
        · split at returned
          · cases (Task.returns_pure_iff.mp returned).2
          · split at returned
            · cases (Task.returns_pure_iff.mp returned).2
            · rw [Task.returns_bind_iff] at returned
              rcases returned with
                ⟨e, fetched, _⟩ | ⟨found, _, later, rfl, fetched, returned⟩
              · rcases returns_fetchIssuer_iff.mp fetched with
                  ⟨_, _, _, _, _, _, _, _, _, _, _, impossible⟩ |
                    ⟨_, _, impossible⟩
                · cases impossible
                · cases impossible
              · cases found with
                | none => cases (Task.returns_pure_iff.mp returned).2
                | some issuer => exact induction returned

theorem always_guarded_climbUp
    (steps : Nat) (chain : List Bytes) (current : Certificate) :
    Always Guarded (builder.climbUp crates trustStore steps chain current) := by
  have still {value : List Bytes} :
      Always Guarded (pure value : Task network ChainError (List Bytes)) :=
    always_ofExcept guarded_nil (.ok value)
  induction steps generalizing chain current with
  | zero => exact still
  | succ steps induction =>
      rw [ChainBuilder.climbUp]
      apply always_bind guarded_append (always_ofExcept guarded_nil _)
      intro currentDer
      simp only
      split
      · exact still
      · split
        · exact still
        · split
          · exact still
          · apply always_bind guarded_append always_guarded_fetchIssuer
            intro found
            cases found with
            | none => exact still
            | some issuer => exact induction _ _

end Runs

/--
Every run of a chain builder is guarded, and fails only where a certificate has
no encoding.  What it returns is the encodings of at most ten certificates, the
first of them the leaf and every other one delivered from a URL that the one
before it names for its issuer; and it ends early only where the issuer is an
anchor's subject, at a self-issued certificate, or where none of these URLs has
given a certificate.
-/
theorem buildChain_discovers
    (builder : ChainBuilder) (crates : DiscoveryCrates)
    (trustStore : TrustStore) (leaf : Certificate)
    (exchanges : List (Exchange network))
    (outcome : Except ChainError (List Bytes))
    (returned :
      Task.Returns (builder.buildChain crates leaf trustStore) exchanges
        outcome) :
    Guarded exchanges ∧
      (∀ chain, outcome = .ok chain →
        ∃ certs rest,
          certs = leaf :: rest ∧ certs.length ≤ maxChainDepth ∧
            List.Forall₂ (Encodes crates.toCrates) certs chain ∧
            List.IsChain (Follows builder crates trustStore exchanges)
              certs ∧
            (certs.length < maxChainDepth →
              ∃ last,
                certs.getLast? = some last ∧
                  Halts builder crates trustStore exchanges last) ∧
            (requestedUrls exchanges).Sublist (certs.flatMap issuerUrls)) ∧
      ∀ error, outcome = .error error →
        ∃ cert e,
          crates.certificateToDer cert = .error e ∧
            error = .chain s!"failed to encode certificate: {e}" := by
  refine
    ⟨always_guarded_climbUp maxChainDepth [] leaf exchanges outcome returned,
      ?_, ?_⟩
  · rintro chain rfl
    rcases climbs_of_returns returned with
      ⟨certs, ders, climb, encodings, rfl, urls⟩
    rcases climb.exists_eq_cons with ⟨rest, started⟩
    exact
      ⟨certs, rest, started, climb.length_le, encodings, climb.isChain,
        climb.halted, urls⟩
  · rintro error rfl
    exact error_of_returns returned

/-! ## Climbs among given certificates -/

/-- The first of the given certificates that has the issuer's name. -/
def firstNamed (availableCerts : List Certificate) (cert : Certificate) :
    Option Certificate :=
  availableCerts.find? fun c =>
    c.tbsCertificate.subject = cert.tbsCertificate.issuer

theorem named_of_firstNamed
    {availableCerts : List Certificate} {cert issuer : Certificate}
    (found : firstNamed availableCerts cert = some issuer) :
    issuer ∈ availableCerts ∧
      issuer.tbsCertificate.subject = cert.tbsCertificate.issuer := by
  refine ⟨List.mem_of_find?_eq_some found, ?_⟩
  have named := List.find?_some found
  exact of_decide_eq_true named

/-- The issuer is the first that has the name. -/
def GoesTo (availableCerts : List Certificate) (trustStore : TrustStore)
    (cert issuer : Certificate) : Prop :=
  ¬ Settled trustStore cert ∧ firstNamed availableCerts cert = some issuer

/-- Ordering ends here, or does not lead on. -/
def Ends (availableCerts : List Certificate) (trustStore : TrustStore)
    (cert : Certificate) : Prop :=
  Settled trustStore cert ∨ firstNamed availableCerts cert = none

/-- The encodings of certificates, up to the first that has none. -/
def encodings (crates : Crates) : List Certificate → List Bytes
  | [] => []
  | cert :: certs =>
      match crates.certificateToDer cert with
      | .error _ => []
      | .ok der => der :: encodings crates certs

theorem encodings_of_forall₂
    {crates : Crates} {certs : List Certificate} {ders : List Bytes}
    (encoded : List.Forall₂ (Encodes crates) certs ders) :
    encodings crates certs = ders := by
  induction encoded with
  | nil => rfl
  | cons encodes later induction =>
      rw [Encodes] at encodes
      simp only [encodings, encodes, induction]

section Ordering

variable {crates : Crates} {availableCerts : List Certificate}
variable {trustStore : TrustStore}

theorem exists_climbs (steps : Nat) (current : Certificate) :
    ∃ certs,
      Climbs (GoesTo availableCerts trustStore)
        (Ends availableCerts trustStore) steps current certs := by
  induction steps generalizing current with
  | zero => exact ⟨[], .spent current⟩
  | succ steps induction =>
      by_cases settled : Settled trustStore current
      · exact ⟨[current], .halt steps current (.inl settled)⟩
      · cases named : firstNamed availableCerts current with
        | none => exact ⟨[current], .halt steps current (.inr named)⟩
        | some issuer =>
            rcases induction issuer with ⟨certs, climb⟩
            exact ⟨current :: certs, .step ⟨settled, named⟩ climb⟩

/-- The loop climbs, and keeps the encodings. -/
theorem climbs_orderCerts
    (steps : Nat) (chain : List Bytes) (current : Certificate) :
    ∃ certs,
      Climbs (GoesTo availableCerts trustStore)
          (Ends availableCerts trustStore) steps current certs ∧
        orderCerts crates availableCerts trustStore steps chain current =
          chain ++ encodings crates certs := by
  induction steps generalizing chain current with
  | zero => exact ⟨[], .spent current, (List.append_nil chain).symm⟩
  | succ steps induction =>
      cases encoded : crates.certificateToDer current with
      | error e =>
          rcases @exists_climbs availableCerts trustStore (steps + 1) current
            with ⟨certs, climb⟩
          rcases climb.exists_eq_cons with ⟨rest, rfl⟩
          refine ⟨current :: rest, climb, ?_⟩
          simp only [orderCerts, encodings, encoded, List.append_nil]
      | ok der =>
          simp only [orderCerts, encoded]
          split
          · next anchored =>
              refine ⟨[current], .halt steps current (.inl (.inl anchored)), ?_⟩
              simp only [encodings, encoded]
          · next unanchored =>
              split
              · next selfSigned =>
                  refine
                    ⟨[current], .halt steps current (.inl (.inr selfSigned)),
                      ?_⟩
                  simp only [encodings, encoded]
              · next issued =>
                  have unsettled : ¬ Settled trustStore current := by
                    rintro (anchored | selfSigned)
                    · exact unanchored anchored
                    · exact issued selfSigned
                  split
                  · next issuer found =>
                      rcases induction (chain ++ [der]) issuer with
                        ⟨certs, climb, ordered⟩
                      refine
                        ⟨current :: certs, .step ⟨unsettled, found⟩ climb, ?_⟩
                      rw [ordered, List.append_assoc]
                      simp only [encodings, encoded, List.singleton_append]
                  · next found =>
                      refine
                        ⟨[current], .halt steps current (.inr found), ?_⟩
                      simp only [encodings, encoded]

/-- Given certificates and a store leave one climb only. -/
theorem climbs_unique
    {steps : Nat} {current : Certificate} {certs others : List Certificate}
    (climb :
      Climbs (GoesTo availableCerts trustStore)
        (Ends availableCerts trustStore) steps current certs)
    (other :
      Climbs (GoesTo availableCerts trustStore)
        (Ends availableCerts trustStore) steps current others) :
    certs = others := by
  apply climb.unique _ _ other
  · rintro item next another ⟨_, found⟩ ⟨_, foundAgain⟩
    rw [found] at foundAgain
    exact Option.some.inj foundAgain
  · rintro item next ⟨unsettled, found⟩ (settled | nothing)
    · exact unsettled settled
    · rw [found] at nothing
      cases nothing

end Ordering

/--
Ordering given certificates climbs over at most ten of them, the first of them
the leaf and every other one with the name that the one before it gives its
issuer; and it ends early only where the issuer is an anchor's subject, at a
self-issued certificate, or where no certificate has the name.  It returns the
encodings, up to the first certificate that has none.  A climb over a network
that serves these certificates returns the same.
-/
theorem buildChainFromCerts_orders
    (crates : DiscoveryCrates) (leaf : Certificate)
    (availableCerts : List Certificate) (trustStore : TrustStore) :
    (∃ certs rest,
      certs = leaf :: rest ∧ certs.length ≤ maxChainDepth ∧
        buildChainFromCerts crates.toCrates leaf availableCerts trustStore =
          encodings crates.toCrates certs ∧
        List.IsChain
          (fun cert issuer =>
            issuer ∈ availableCerts ∧
              issuer.tbsCertificate.subject = cert.tbsCertificate.issuer)
          certs ∧
        (certs.length < maxChainDepth →
          ∃ last,
            certs.getLast? = some last ∧
              Ends availableCerts trustStore last)) ∧
      ∀ builder exchanges chain,
        Task.Returns (builder.buildChain crates leaf trustStore) exchanges
            (.ok chain) →
          (∀ cert ∈ leaf :: availableCerts, ∀ issuer,
            Follows builder crates trustStore exchanges cert issuer →
              firstNamed availableCerts cert = some issuer) →
            (∀ cert ∈ leaf :: availableCerts,
              ¬ Settled trustStore cert →
                Unanswered builder crates exchanges cert →
                  firstNamed availableCerts cert = none) →
              chain =
                buildChainFromCerts crates.toCrates leaf availableCerts
                  trustStore := by
  rcases @climbs_orderCerts crates.toCrates availableCerts trustStore
      maxChainDepth [] leaf with
    ⟨certs, climb, ordered⟩
  constructor
  · rcases climb.exists_eq_cons with ⟨rest, started⟩
    refine
      ⟨certs, rest, started, climb.length_le, ordered,
        climb.isChain.imp ?_, climb.halted⟩
    rintro cert issuer ⟨_, found⟩
    exact named_of_firstNamed found
  · intro builder exchanges chain returned serves silent
    rcases climbs_of_returns returned with
      ⟨visited, ders, networkClimb, encoded, rfl, _⟩
    have sameClimb :
        Climbs (GoesTo availableCerts trustStore)
          (Ends availableCerts trustStore) maxChainDepth leaf visited := by
      apply networkClimb.mono_of List.mem_cons_self
      · intro cert issuer member follows
        have found := serves cert member issuer follows
        exact List.mem_cons_of_mem leaf (named_of_firstNamed found).1
      · intro cert issuer member follows
        exact ⟨follows.1, serves cert member issuer follows⟩
      · rintro cert member (settled | unanswered)
        · exact .inl settled
        · by_cases settled : Settled trustStore cert
          · exact .inl settled
          · exact .inr (silent cert member settled unanswered)
    rw [buildChainFromCerts, ordered, climbs_unique climb sameClimb,
      encodings_of_forall₂ encoded, List.nil_append]

/-! ## A reference chain -/

section Reference

open RitspLtv.Reference

def issuerUrl : Bytes := asciiBytes "http://ca.test/root.crt"

/-- An access description that names the certificate of the root. -/
def issuerAccess : Extension :=
  ⟨aiaOid, false,
    encodeSequenceFromParts
      [encodeSequenceFromParts
        [encodeOid AiaAccessMethod.caIssuers.oid,
          encodeTlv 0x86 issuerUrl]]⟩

/-- The leaf, with the URL of its issuer. -/
def linkedLeaf : Certificate :=
  certificate 2 0xB2 0xA1 "Leaf" "Root" [issuerAccess]

/-- The crates, without PEM. -/
def discoveryCrates : DiscoveryCrates :=
  { Reference.crates known with
    pemDecodeVec := fun _ => .error "PEM preamble contains invalid data" }

/-- The root in two chunks. -/
def issuerAnswer : Response where
  isSuccess := true
  status := "200 OK"
  contentLength := none
  chunks :=
    [(encodeCertificate root).take 64, (encodeCertificate root).drop 64]
  failure := none

def discoveryExchanges : List (Exchange network) :=
  [checked issuerUrl (some (.ok ())),
    sent (ChainBuilder.get issuerUrl) (.ok issuerAnswer)]

theorem issuerUrls_linkedLeaf : issuerUrls linkedLeaf = [issuerUrl] := by
  decide +kernel

theorem receive_issuerAnswer :
    ChainBuilder.new.receive discoveryCrates issuerUrl (.ok issuerAnswer) =
      .ok root := by
  decide +kernel

theorem returns_fetchIssuer_linkedLeaf :
    Task.Returns
      (ChainBuilder.new.fetchIssuer discoveryCrates (issuerUrls linkedLeaf))
      discoveryExchanges (.ok (some root)) := by
  rw [issuerUrls_linkedLeaf, returns_fetchIssuer_iff]
  exact
    .inl
      ⟨[], issuerUrl, [], [], [], .ok issuerAnswer, root, rfl, rfl, .nil,
        receive_issuerAnswer, rfl⟩

/-- The encodings of the leaf and of the root. -/
def discoveredChain : List Bytes :=
  [encodeCertificate linkedLeaf, encodeCertificate root]

theorem returns_buildChain_linkedLeaf :
    Task.Returns
      (ChainBuilder.new.buildChain discoveryCrates linkedLeaf TrustStore.new)
      discoveryExchanges (.ok discoveredChain) := by
  rw [ChainBuilder.buildChain, maxChainDepth, ChainBuilder.climbUp,
    Task.returns_bind_ok_iff]
  refine
    ⟨encodeCertificate linkedLeaf, [], discoveryExchanges, rfl,
      Task.returns_ofExcept_iff.mpr ⟨rfl, rfl⟩, ?_⟩
  have urls : extractAiaUrls linkedLeaf .caIssuers = [issuerUrl] :=
    issuerUrls_linkedLeaf
  simp only
  rw [if_neg (by decide), if_neg (by decide), urls, if_neg (by decide), ← urls,
    Task.returns_bind_ok_iff]
  refine
    ⟨some root, discoveryExchanges, [], (List.append_nil _).symm,
      returns_fetchIssuer_linkedLeaf, ?_⟩
  simp only
  rw [ChainBuilder.climbUp, Task.returns_bind_ok_iff]
  refine
    ⟨encodeCertificate root, [], [], rfl,
      Task.returns_ofExcept_iff.mpr ⟨rfl, rfl⟩, ?_⟩
  simp only
  rw [if_neg (by decide), if_pos (by decide)]
  exact Task.returns_pure_iff.mpr ⟨rfl, rfl⟩

/-- The network has answered for the leaf. -/
theorem not_unanswered_linkedLeaf :
    ¬ Unanswered ChainBuilder.new discoveryCrates discoveryExchanges
        linkedLeaf := by
  rintro ⟨tried, errors, inside, failures⟩
  have fetched :
      Task.Returns
        (ChainBuilder.new.fetchCertificate discoveryCrates issuerUrl)
        discoveryExchanges (.ok root) :=
    returns_guardedFetch_ok_iff.mpr
      ⟨.ok issuerAnswer, rfl, receive_issuerAnswer⟩
  rw [issuerUrls_linkedLeaf] at failures
  cases failures with
  | @cons _ _ former latter error errors failed later =>
      cases later
      rw [List.append_nil] at inside
      rcases exchanges_of_guardedRequest passes_of_readUrlCheck failed with
        ⟨check, between, outcome, rfl, nothing⟩ |
          ⟨between, prepared, answer, rfl, began⟩
      · have quiet : between = [] := by
          rcases nothing with empty | began
          · exact empty
          · exact (Task.returns_pure_iff.mp began).1
        subst quiet
        have member := inside.subset (List.mem_singleton_self _)
        rw [discoveryExchanges, List.mem_cons, List.mem_singleton] at member
        rcases member with same | same
        · rw [ChainBuilder.get] at same
          rw [ChainBuilder.fetchCertificate] at failed
          rw [discoveryExchanges, ← same] at fetched
          cases (Runs.whole failed fetched).1
        · cases same
      · rcases Task.returns_pure_iff.mp began with ⟨rfl, _⟩
        have whole := inside.eq_of_length rfl
        rw [whole] at failed
        cases Runs.unique failed fetched

/-- Ordering the root behind the leaf gives the chain that is discovered. -/
theorem buildChainFromCerts_orders_linkedLeaf :
    discoveredChain =
      buildChainFromCerts discoveryCrates.toCrates linkedLeaf [root]
        TrustStore.new := by
  apply (buildChainFromCerts_orders discoveryCrates linkedLeaf [root]
    TrustStore.new).2 ChainBuilder.new discoveryExchanges discoveredChain
    returns_buildChain_linkedLeaf
  · intro cert member issuer follows
    rcases List.mem_pair.mp member with rfl | rfl
    · rcases follows with ⟨_, url, named, answer, delivered, received⟩
      rw [issuerUrls_linkedLeaf, List.mem_singleton] at named
      subst named
      rw [discoveryExchanges, List.mem_cons, List.mem_singleton] at delivered
      rcases delivered with same | same
      · cases same
      · cases same
        rw [receive_issuerAnswer] at received
        cases received
        decide
    · exact absurd (.inr (by decide)) follows.1
  · intro cert member unsettled unanswered
    rcases List.mem_pair.mp member with rfl | rfl
    · exact absurd unanswered not_unanswered_linkedLeaf
    · exact absurd (.inr (by decide)) unsettled

/-- The chain of the leaf is discovered behind its URL. -/
theorem buildChain_discovers_linkedLeaf :
    Guarded discoveryExchanges ∧
      ∃ certs rest,
        certs = linkedLeaf :: rest ∧
          List.Forall₂ (Encodes discoveryCrates.toCrates) certs
            discoveredChain := by
  have discovers :=
    buildChain_discovers ChainBuilder.new discoveryCrates TrustStore.new
      linkedLeaf discoveryExchanges (.ok discoveredChain)
      returns_buildChain_linkedLeaf
  rcases discovers.2.1 discoveredChain rfl with
    ⟨certs, rest, started, _, encoded, _⟩
  exact ⟨discovers.1, certs, rest, started, encoded⟩

end Reference

end RitspLtv.Ltv.ChainDiscovery
