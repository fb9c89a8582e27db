import RitspLtv.Http

/-!
# Downloading a CRL

The part of a fetch between its accesses to the cache, as a dialogue with the
network.  It comes to what the fetch makes of the answers.
-/

namespace RitspLtv.Ltv.CrlDownload

open RitspLtv.Foundation.BoundedRead
open RitspLtv.Foundation.Checks
open RitspLtv.Foundation.Conversation
open RitspLtv.RustStd
open RitspLtv.Net
open RitspLtv.Http
open RitspLtv.Ltv.CrlFetch

/-- The request for a CRL. -/
def get (url : Bytes) : Http.Request where
  method := .get
  url := url
  contentType := none
  body := []

/-- Download a CRL from a URL. -/
def downloadCrl (client : CrlClient) (url : Bytes) :
    Task network LtvError Bytes :=
  guardedFetch (.crl s!"URL validation timed out after {client.timeout}")
    (fun e => .crl s!"URL rejected: {e}") (get url)
    (fun answer => download client url ⟨some (.ok ()), answer⟩)

section Body

variable {client : CrlClient} {url : Bytes} {response : Response}

/-- The body of a CRL, as the fetch reads it. -/
def readCrlBody (client : CrlClient) (url : Bytes) (response : Response) :
    Except LtvError Bytes := do
  checkContentLength client url response.contentLength
  readBody client url response.failure [] response.chunks

/-- The loop of the fetch is a bounded reader. -/
theorem readBody_eq (held : Bytes) (chunks : List Bytes) :
    readBody client url response.failure held chunks =
      readChunks (overRemaining client.maxBodySize)
        (.crl
          s!"CRL from {urlText url} exceeds max body size (> {client.maxBodySize})")
        (ended response fun e => .crl s!"failed to read CRL response body: {e}")
        held chunks := by
  induction chunks generalizing held with
  | nil =>
      rw [readChunks, ended]
      cases response.failure <;> rfl
  | cons chunk chunks induction =>
      rw [readBody, readChunks, induction]
      simp only [overRemaining, decide_eq_true_eq]

theorem readCrlBody_eq :
    readCrlBody client url response =
      readBounded client.maxBodySize (overRemaining client.maxBodySize)
        (fun len =>
          .crl
            s!"CRL from {urlText url} exceeds max body size ({len} > {client.maxBodySize})")
        (.crl
          s!"CRL from {urlText url} exceeds max body size (> {client.maxBodySize})")
        (fun e => .crl s!"failed to read CRL response body: {e}")
        response := by
  rw [readCrlBody, readBounded, readBody_eq]
  cases response.contentLength <;> rfl

end Body

section Runs

variable {client : CrlClient} {url crlBytes : Bytes}
variable {exchanges : List (Exchange network)}

/-- What a dialogue downloads is what the fetch makes of the answer. -/
theorem returns_downloadCrl_ok_iff :
    Task.Returns (downloadCrl client url) exchanges (.ok crlBytes) ↔
      ∃ answer,
        exchanges = [checked url (some (.ok ())), sent (get url) answer] ∧
          download client url ⟨some (.ok ()), answer⟩ = .ok crlBytes :=
  returns_guardedFetch_ok_iff

/-- However a dialogue ends, the fetch comes to that with some exchange. -/
theorem exists_download_of_returns
    {outcome : Except LtvError Bytes}
    (returned : Task.Returns (downloadCrl client url) exchanges outcome) :
    ∃ exchange, download client url exchange = outcome := by
  rw [downloadCrl, guardedFetch, guardedRequest, Task.returns_bind_iff]
    at returned
  rcases returned with ⟨e, failed, _⟩ | ⟨check, _, _, _, _, later⟩
  · rcases returns_checkUrl_iff.mp failed with ⟨_, _, impossible⟩
    cases impossible
  · rw [Task.returns_bind_iff] at later
    rcases later with ⟨e, failed, rfl⟩ | ⟨_, _, _, _, valid, later⟩
    · have refused := (Task.returns_ofExcept_iff.mp failed).2
      refine ⟨⟨check.map (.mapError UrlGuardError.display), .error ""⟩, ?_⟩
      rcases check with _ | _ | ⟨⟨⟩⟩
      · cases refused
        rfl
      · cases refused
        rfl
      · cases refused
    · simp only [Task.returns_bind_iff, Task.returns_pure_iff,
        returns_send_iff, Task.returns_ofExcept_iff] at later
      rcases later with ⟨e, ⟨_, impossible⟩, _⟩ |
        ⟨_, _, _, _, _, ⟨e, ⟨_, _, impossible⟩, _⟩ |
          ⟨answer, _, _, _, ⟨_, _, same⟩, _, rfl⟩⟩
      · cases impossible
      · cases impossible
      · exact ⟨⟨some (.ok ()), answer⟩, rfl⟩

/-- A CRL that is downloaded is a bounded body that starts a SEQUENCE. -/
theorem download_eq_ok_iff {answer : Except String Response} :
    download client url ⟨some (.ok ()), answer⟩ = .ok crlBytes ↔
      ∃ response,
        answer = .ok response ∧ response.isSuccess = true ∧
          Delivers response client.maxBodySize crlBytes ∧
          crlBytes.head? = some 0x30 := by
  have bounded (response : Response) :
      readCrlBody client url response = .ok crlBytes ↔
        Delivers response client.maxBodySize crlBytes := by
    rw [readCrlBody_eq]
    exact readBounded_eq_ok_iff (caps_overRemaining client.maxBodySize)
  simp only [readCrlBody, bind_eq_ok, exists_unit_eq_ok] at bounded
  simp only [download, validateUrl, bind_eq_ok, mapError_eq_ok,
    rejectIf_eq_ok, exists_const, Bool.not_eq_false, exists_unit_eq_ok, ne_eq,
    not_not, pure_eq_ok]
  constructor
  · rintro ⟨_, response, rfl, success, announced, _, read, starts, rfl⟩
    exact
      ⟨response, rfl, success, (bounded response).mp ⟨announced, read⟩,
        starts⟩
  · rintro ⟨response, rfl, success, delivers, starts⟩
    rcases (bounded response).mpr delivers with ⟨announced, read⟩
    exact
      ⟨trivial, response, rfl, success, announced, crlBytes, read, starts, rfl⟩

end Runs

end RitspLtv.Ltv.CrlDownload
