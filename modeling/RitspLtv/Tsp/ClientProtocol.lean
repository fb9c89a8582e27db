import RitspLtv.Tsp.Client
import RitspLtv.Tsp.ResponseGrammar

/-!
# Timestamping over a hostile network

Many clients ask many authorities at once, and the network does what it likes
with their messages.  A client that ends with a token has posted a request for
its hash with a nonce of its own, and the signed content of the token answers
exactly that request.  As nonces are fresh and content cannot be forged, this
content was signed after the nonce was drawn, and no other session has it.
-/

namespace RitspLtv.Tsp.ClientProtocol

open RitspLtv.Foundation.Checks
open RitspLtv.Foundation.Conversation
open RitspLtv.Foundation.Sessions
open RitspLtv.RustStd
open RitspLtv.DerUtils
open RitspLtv.IntegerCodec
open RitspLtv.TlvElements
open RitspLtv.Crypto.Algorithm
open RitspLtv.Crypto.Verify
open RitspLtv.Http
open RitspLtv.Ltv.CrlFetch
open RitspLtv.Tsp.Cms
open RitspLtv.Tsp.Info
open RitspLtv.Tsp.InfoGrammar
open RitspLtv.Tsp.StrictDer
open RitspLtv.Tsp.Token
open RitspLtv.Tsp.Request
open RitspLtv.Tsp.Response
open RitspLtv.Tsp.ResponseValidation
open RitspLtv.Tsp.Client

/-! ## Request and token -/

section Content

variable {crates : CmsCrates} {signatures : Signatures} {token : Bytes}
variable {certs otherCerts : List Certificate}
variable {verified otherVerified : VerifiedToken} {info otherInfo : TstInfo}

/-- The content of a token, as far as it can be read at all. -/
def HasContent (crates : CmsCrates) (token content : Bytes)
    (info : TstInfo) : Prop :=
  ∃ signedData,
    parseSignedData crates token = .ok signedData ∧
      tstInfoDer signedData = .ok content ∧
      parseTstInfoBody crates content = .ok info

theorem hasContent_of_verifyTokenCms
    (verification :
      verifyTokenCms crates signatures token certs = .ok (verified, info)) :
    ∃ content, HasContent crates token content info := by
  simp only [verifyTokenCms, bind_eq_ok, exists_unit_eq_ok, pure_eq_ok,
    Prod.mk.injEq] at verification
  rcases verification with
    ⟨signedData, parsed, content, contentIs, _, _, _, _, _, _, _, _, _, _, _,
      _, _, _, found, body, _, _, _, rfl⟩
  exact ⟨content, signedData, parsed, contentIs, body⟩

/-- The content does not depend on the certificates supplied. -/
theorem info_eq_of_verifyTokenCms
    (verification :
      verifyTokenCms crates signatures token certs = .ok (verified, info))
    (otherVerification :
      verifyTokenCms crates signatures token otherCerts =
        .ok (otherVerified, otherInfo)) :
    info = otherInfo := by
  rcases hasContent_of_verifyTokenCms verification with
    ⟨content, signedData, parsed, contentIs, body⟩
  rcases hasContent_of_verifyTokenCms otherVerification with
    ⟨otherContent, otherData, otherParsed, otherContentIs, otherBody⟩
  rw [parsed, Except.ok.injEq] at otherParsed
  subst otherParsed
  rw [contentIs, Except.ok.injEq] at otherContentIs
  subst otherContentIs
  rw [body, Except.ok.injEq] at otherBody
  exact otherBody

/-- A signed nonce is the one INTEGER of its number, and the hash has its size. -/
theorem nonceElement_mem_of_layout
    {content : Bytes} {optional : List Element} {nonce : UInt64}
    (layout : Layout content info optional)
    (nonceIs : info.nonce = some nonce) :
    integerElement nonce ∈ optional := by
  rcases (layout.nonce nonce).mp nonceIs with ⟨body, member, denotes⟩
  rw [eq_of_denotes denotes (denotes_significantOctets nonce)] at member
  exact member

end Content

section Exchange

variable {crates : ResponseCrates} {signatures : Signatures}
variable {encoders : RequestEncoders}

/--
Whatever the network answers, a client that ends with a token has checked its
URL, drawn a nonce and posted one request, which is the SEQUENCE of what it asks
for.  The signed content of the token is about the same hash and policy and has
the INTEGER of the nonce in the very octets that were posted; and a hash that
does not have the size of its algorithm never gets a token.
-/
theorem timestamp_agreement
    (standard : Standard encoders) {maxLength : Nat}
    (strict : Strict crates.toCmsCrates maxLength)
    (client : TsaClient) (dataHash token : Bytes)
    (exchanges : List (Exchange network))
    (returned :
      Task.Returns (client.timestamp crates signatures encoders dataHash)
        exchanges (.ok token)) :
    ∃ buf reqDer answer body content info optional,
      exchanges =
          [checked client.url (some (.ok ())), drew 8 (.ok buf),
            sent (client.post reqDer) answer] ∧
        Consists reqDer [(0x30, body)] ∧
        Consists body (client.request dataHash (fromNeBytes buf)).elements ∧
        integerElement (fromNeBytes buf) ∈
          (client.request dataHash (fromNeBytes buf)).elements ∧
        Answers crates.toCmsCrates signatures client dataHash (fromNeBytes buf)
          token info ∧
        HasContent crates.toCmsCrates token content info ∧
        Layout content info optional ∧
        integerElement (fromNeBytes buf) ∈ optional ∧
        dataHash.length = client.digestAlgorithm.outputSize := by
  rcases returns_timestamp_ok_iff.mp returned with
    ⟨buf, reqDer, answer, rfl, _, built, received⟩
  rcases octets_of_build standard built with ⟨octets, short⟩
  rcases (answers_of_receive received).2 with ⟨info, answers⟩
  rcases answers.verified with ⟨verified, verification⟩
  rcases hasContent_of_verifyTokenCms verification with ⟨content, hasContent⟩
  rcases hasContent with ⟨signedData, parsed, contentIs, bodyParsed⟩
  rcases layout_of_parseTstInfoBody strict bodyParsed with
    ⟨_, _, optional, layout, _, _⟩
  refine
    ⟨buf, reqDer, answer, _, content, info, optional, rfl, ?_,
      consists_elements short, ?_, answers,
      ⟨signedData, parsed, contentIs, bodyParsed⟩, layout,
      nonceElement_mem_of_layout layout answers.nonce, ?_⟩
  · rw [Consists.singleton_iff]
    exact ⟨readable_of_lowTag (by decide) short.1, octets⟩
  · simp [TimestampRequest.elements, optionalElements, TsaClient.request]
  · rw [← answers.messageHash, ← answers.hashAlgorithm]
    exact layout.messageHash

end Exchange

/-! ## Many sessions -/

section Sessions

variable {Session : Type} [DecidableEq Session]

/-- The nonce that an exchange draws. -/
def drawnNonce (exchange : Exchange network) : Option UInt64 :=
  match exchange with
  | ⟨Query.randomBytes _, answer⟩ =>
      match (answer : Except String Bytes) with
      | .ok buf => some (fromNeBytes buf)
      | .error _ => none
  | _ => none

/--
Every session asks the authorities of a pool to stamp a hash.  What comes into
being somewhere is signed content; a session accepts the content of its token.
-/
def timestamping (crates : ResponseCrates) (signatures : Signatures)
    (encoders : RequestEncoders)
    (sessions : Session → TsaClientPool × Bytes) :
    Protocol network Session TstInfo UInt64 (Except RequestError Bytes) where
  program := fun session =>
    ((sessions session).1.timestamp crates signatures encoders
      (sessions session).2).run
  drawn := drawnNonce
  carried := TstInfo.nonce
  accepts := fun session value info =>
    ∃ token client verified,
      value = .ok token ∧ client ∈ (sessions session).1.clients ∧
        verifyTokenCms crates.toCmsCrates signatures token
            client.verificationCerts = .ok (verified, info)

variable {crates : ResponseCrates} {signatures : Signatures}
variable {encoders : RequestEncoders}
variable {sessions : Session → TsaClientPool × Bytes}

/-- A pool ends with the token of one of its clients, behind others that failed. -/
theorem returns_pool_ok_iff
    {pool : TsaClientPool} {dataHash token : Bytes}
    {exchanges : List (Exchange network)} :
    Task.Returns (pool.timestamp crates signatures encoders dataHash)
        exchanges (.ok token) ↔
      ∃ before client after former errors buf reqDer answer,
        pool.clients = before ++ client :: after ∧
          exchanges =
            former ++
              [checked client.url (some (.ok ())), drew 8 (.ok buf),
                sent (client.post reqDer) answer] ∧
          Failures
            (fun client =>
              client.timestamp crates signatures encoders dataHash)
            before former errors ∧
          buf.length = 8 ∧
          (client.request dataHash (fromNeBytes buf)).build encoders =
            .ok reqDer ∧
          client.receive crates signatures dataHash (fromNeBytes buf) answer =
            .ok token := by
  rw [TsaClientPool.timestamp, returns_tryEach_ok_iff]
  constructor
  · rintro ⟨before, client, after, former, latter, errors, split, rfl,
      failures, succeeded⟩
    rcases returns_timestamp_ok_iff.mp succeeded with
      ⟨buf, reqDer, answer, rfl, eight, built, received⟩
    exact
      ⟨before, client, after, former, errors, buf, reqDer, answer, split, rfl,
        failures, eight, built, received⟩
  · rintro ⟨before, client, after, former, errors, buf, reqDer, answer, split,
      rfl, failures, eight, built, received⟩
    exact
      ⟨before, client, after, former, _, errors, split, rfl, failures,
        returns_timestamp_ok_iff.mpr
          ⟨buf, reqDer, answer, rfl, eight, built, received⟩⟩

/-- A pool fails when all of its clients do, with the error of the last one. -/
theorem returns_pool_error_iff
    {pool : TsaClientPool} {dataHash : Bytes} {error : RequestError}
    {exchanges : List (Exchange network)} :
    Task.Returns (pool.timestamp crates signatures encoders dataHash)
        exchanges (.error error) ↔
      ∃ errors,
        Failures
            (fun client =>
              client.timestamp crates signatures encoders dataHash)
            pool.clients exchanges errors ∧
          errors.getLast? = some error := by
  rw [TsaClientPool.timestamp, returns_tryEach_error_iff]
  apply exists_congr
  intro errors
  apply and_congr_right
  intro failures
  have nonempty : errors ≠ [] := by
    rintro rfl
    have none : pool.clients = [] := by
      generalize pool.clients = clients at failures
      cases failures
      rfl
    exact pool.clients_ne_nil none
  rw [List.getLast?_eq_some_getLast nonempty, Option.some_or,
    Option.getD_some, Option.some.injEq]
  exact eq_comm

omit [DecidableEq Session] in
/-- A session accepts content only with a nonce that it has drawn. -/
theorem challenges_timestamping :
    (timestamping crates signatures encoders sessions).Challenges := by
  rintro session exchanges value info returned
    ⟨token, client, verified, rfl, _, verification⟩
  rcases returns_pool_ok_iff.mp returned with
    ⟨before, chosen, after, former, errors, buf, reqDer, answer, _, rfl, _, _,
      _, received⟩
  rcases (answers_of_receive received).2 with ⟨answered, answers⟩
  rcases answers.verified with ⟨_, answeredVerification⟩
  have same := info_eq_of_verifyTokenCms verification answeredVerification
  subst same
  exact
    ⟨drew 8 (.ok buf), by simp, fromNeBytes buf, rfl, answers.nonce⟩

/--
In every history of any sessions, with nonces that are fresh and content that
is not forged: a session that is done with a token has content for its own hash
and policy, whose signature verifies under a certificate that one of its clients
accepts, and which was signed after the session had drawn the nonce in it and
not before; and no two sessions are done with the same content.
-/
theorem timestamping_safe
    (history : List (Moment Session network TstInfo))
    (fresh :
      (timestamping crates signatures encoders sessions).Fresh history)
    (genuine :
      (timestamping crates signatures encoders sessions).Genuine history) :
    (∀ session token,
      (timestamping crates signatures encoders sessions).Completed history
          session (.ok token) →
        ∃ client ∈ (sessions session).1.clients, ∃ nonce info,
          Answers crates.toCmsCrates signatures client (sessions session).2
              nonce token info ∧
            ∃ past drawing future,
              history = past ++ .exchanged session drawing :: future ∧
                drawnNonce drawing = some nonce ∧
                .produced info ∉ past ∧ .produced info ∈ future) ∧
      ∀ session other value otherValue info,
        (timestamping crates signatures encoders sessions).Completed history
            session value →
          (timestamping crates signatures encoders sessions).Completed history
            other otherValue →
          (timestamping crates signatures encoders sessions).accepts session
            value info →
          (timestamping crates signatures encoders sessions).accepts other
            otherValue info →
          session = other := by
  constructor
  · intro session token completed
    rcases returns_pool_ok_iff.mp completed with
      ⟨before, client, after, former, errors, buf, reqDer, answer, split, _,
        _, _, _, received⟩
    have member : client ∈ (sessions session).1.clients := by
      rw [split]
      simp
    rcases (answers_of_receive received).2 with ⟨info, answers⟩
    rcases answers.verified with ⟨verified, verification⟩
    rcases Protocol.produced_after_drawn challenges_timestamping fresh genuine
        completed ⟨token, client, verified, rfl, member, verification⟩ with
      ⟨past, drawing, future, nonce, historyIs, drawn, carried, notBefore,
        later⟩
    have nonceIs : some (fromNeBytes buf) = some nonce :=
      answers.nonce.symm.trans carried
    rw [← nonceIs] at drawn
    exact
      ⟨client, member, fromNeBytes buf, info, answers, past, drawing, future,
        historyIs, drawn, notBefore, later⟩
  · intro session other value otherValue info completed otherCompleted accepted
      otherAccepted
    exact
      Protocol.eq_of_accepts challenges_timestamping fresh completed accepted
        otherCompleted otherAccepted

/--
A pool ends with the token of the first client that gets one, behind clients
that have all failed, or else with the error of the last client.  Every run
checks each URL before it posts to it, and posts to the authorities in the order
of the pool and to each at most once.
-/
theorem pool_fallback (pool : TsaClientPool) (dataHash : Bytes)
    (exchanges : List (Exchange network))
    (outcome : Except RequestError Bytes)
    (returned :
      Task.Returns (pool.timestamp crates signatures encoders dataHash)
        exchanges outcome) :
    Guarded exchanges ∧
      (requestedUrls exchanges).Sublist (pool.clients.map TsaClient.url) ∧
      (∀ token, outcome = .ok token →
        ∃ before client after former errors latter,
          pool.clients = before ++ client :: after ∧
            exchanges = former ++ latter ∧
            Failures
              (fun client =>
                client.timestamp crates signatures encoders dataHash)
              before former errors ∧
            Task.Returns
              (client.timestamp crates signatures encoders dataHash) latter
              (.ok token)) ∧
      ∀ error, outcome = .error error →
        ∃ errors,
          Failures
              (fun client =>
                client.timestamp crates signatures encoders dataHash)
              pool.clients exchanges errors ∧
            errors.getLast? = some error := by
  refine
    ⟨always_guarded_pool pool exchanges outcome returned,
      always_requestedUrls_pool pool exchanges outcome returned, ?_, ?_⟩
  · rintro token rfl
    rcases returns_tryEach_ok_iff.mp returned with
      ⟨before, client, after, former, latter, errors, split, joined,
        failures, succeeded⟩
    exact
      ⟨before, client, after, former, errors, latter, split, joined,
        failures, succeeded⟩
  · rintro error rfl
    exact returns_pool_error_iff.mp returned

end Sessions

/-! ## A reference run -/

section Reference

open ResponseGrammar

/-- A client that asks for the policy of the reference token. -/
def referenceClient : TsaClient :=
  { TsaClient.new (asciiBytes "http://tsa.test/") with
    policyOid := some (.newUnwrap [1, 2, 3, 4]) }

/-- The octets of nonce 42. -/
def referenceBuf : Bytes := [42, 0, 0, 0, 0, 0, 0, 0]

/-- The request for the reference token. -/
def referenceReqDer : Bytes :=
  ((referenceClient.request Reference.messageHash 42).build
    referenceEncoders).toOption.getD []

/-- A response that grants the reference token. -/
def referenceRespDer : Bytes :=
  encodeSequenceFromParts
    [encodeSequenceFromParts [encodeTlv 0x02 [0]], Reference.token]

/-- The response, in two chunks. -/
def referenceAnswer : Response where
  isSuccess := true
  status := "200 OK"
  contentLength := none
  chunks := [referenceRespDer.take 100, referenceRespDer.drop 100]
  failure := none

def referenceExchanges : List (Exchange network) :=
  [checked referenceClient.url (some (.ok ())), drew 8 (.ok referenceBuf),
    sent (referenceClient.post referenceReqDer) (.ok referenceAnswer)]

theorem receive_referenceAnswer :
    referenceClient.receive exampleCrates RitspLtv.Reference.signatures
        Reference.messageHash (fromNeBytes referenceBuf)
        (.ok referenceAnswer) = .ok Reference.token := by
  decide +kernel

theorem build_referenceReqDer :
    (referenceClient.request Reference.messageHash
        (fromNeBytes referenceBuf)).build referenceEncoders =
      .ok referenceReqDer := by
  decide +kernel

/-- The response as it is read. -/
def referenceResp : TimeStampResp where
  status := .granted
  statusString := none
  failureInfo := none
  tokenDer := some Reference.token

/-- The reference token is accepted, and verifies up to the chain. -/
theorem validateTimestampResponse_agrees_reference :
    ∃ verified info,
      verifyTokenCms exampleCrates.toCmsCrates RitspLtv.Reference.signatures
          Reference.token [] = .ok (verified, info) ∧
        ∀ store time,
          verifyTimestampToken exampleCrates.toCmsCrates
              RitspLtv.Reference.signatures Reference.token
              Reference.messageHash .sha256 (some 42) (some store) time [] =
            (checkSignerChain exampleCrates.toCmsCrates
              RitspLtv.Reference.signatures store verified info time).map
              fun _ => info := by
  have accepted :
      validateTimestampResponseForPolicy exampleCrates.toCmsCrates
          RitspLtv.Reference.signatures referenceResp Reference.messageHash
          (some 42) .sha256 [] (some (.newUnwrap [1, 2, 3, 4])) =
        .ok Reference.token := by
    decide +kernel
  rcases validateTimestampResponse_agrees.2 Reference.token accepted with
    ⟨verified, info, verification, chains⟩
  exact ⟨verified, info, verification, chains (some 42) (.inl rfl)⟩

theorem returns_referenceExchanges :
    Task.Returns
      (referenceClient.timestamp exampleCrates RitspLtv.Reference.signatures
        referenceEncoders Reference.messageHash)
      referenceExchanges (.ok Reference.token) :=
  returns_timestamp_ok_iff.mpr
    ⟨referenceBuf, referenceReqDer, .ok referenceAnswer, rfl, by decide,
      build_referenceReqDer, receive_referenceAnswer⟩

/-- What the reference token says, in answer to the request that was posted. -/
theorem timestamp_agreement_reference :
    ∃ content info optional,
      HasContent exampleCrates.toCmsCrates Reference.token content info ∧
        Layout content info optional ∧
        ∃ nonce, integerElement nonce ∈ optional := by
  rcases timestamp_agreement standard_referenceEncoders
      (StrictReference.strict_crates [] []) referenceClient
      Reference.messageHash Reference.token referenceExchanges
      returns_referenceExchanges with
    ⟨buf, _, _, _, content, info, optional, _, _, _, _, _, hasContent, layout,
      member, _⟩
  exact ⟨content, info, optional, hasContent, layout, fromNeBytes buf, member⟩

/-! ### A pool whose first authority fails -/

/-- A client of an authority that is overloaded. -/
def busyClient : TsaClient :=
  TsaClient.new (asciiBytes "http://busy.test/")

/-- The octets of nonce 41. -/
def busyBuf : Bytes := [41, 0, 0, 0, 0, 0, 0, 0]

def busyReqDer : Bytes :=
  ((busyClient.request Reference.messageHash 41).build
    referenceEncoders).toOption.getD []

def busyAnswer : Response where
  isSuccess := false
  status := "503 Service Unavailable"
  contentLength := none
  chunks := []
  failure := none

def busyError : RequestError :=
  .httpError "TSA http://busy.test/ returned HTTP 503 Service Unavailable"

def busyExchanges : List (Exchange network) :=
  [checked busyClient.url (some (.ok ())), drew 8 (.ok busyBuf),
    sent (busyClient.post busyReqDer) (.ok busyAnswer)]

theorem returns_busyExchanges :
    Task.Returns
      (busyClient.timestamp exampleCrates RitspLtv.Reference.signatures
        referenceEncoders Reference.messageHash)
      busyExchanges (.error busyError) := by
  have received :
      busyClient.receive exampleCrates RitspLtv.Reference.signatures
          Reference.messageHash 41 (.ok busyAnswer) = .error busyError := by
    decide +kernel
  have prepared :
      Task.Returns
        (busyClient.prepare referenceEncoders Reference.messageHash)
        [drew 8 (.ok busyBuf)] (.ok (41, busyReqDer)) :=
    returns_prepare_ok_iff.mpr
      ⟨busyBuf, rfl, by decide, by decide, by decide +kernel⟩
  rw [← received]
  exact returns_guardedRequest_of_answered rfl prepared (.ok busyAnswer)

/-- The overloaded authority is asked first. -/
def fallbackPool : TsaClientPool :=
  ⟨[busyClient, referenceClient], List.cons_ne_nil _ _⟩

theorem returns_fallbackPool :
    Task.Returns
      (fallbackPool.timestamp exampleCrates RitspLtv.Reference.signatures
        referenceEncoders Reference.messageHash)
      (busyExchanges ++ referenceExchanges) (.ok Reference.token) := by
  have failed :
      Failures
        (fun client =>
          client.timestamp exampleCrates RitspLtv.Reference.signatures
            referenceEncoders Reference.messageHash)
        [busyClient] (busyExchanges ++ []) [busyError] := by
    refine .cons ?_ .nil
    exact returns_busyExchanges
  exact
    returns_pool_ok_iff.mpr
      ⟨[busyClient], referenceClient, [], busyExchanges, [busyError],
        referenceBuf, referenceReqDer, .ok referenceAnswer, rfl, rfl, failed,
        by decide, build_referenceReqDer, receive_referenceAnswer⟩

/-- The pool ends with the token of its second authority, behind the first. -/
theorem pool_fallback_reference :
    Guarded (busyExchanges ++ referenceExchanges) ∧
      (requestedUrls (busyExchanges ++ referenceExchanges)).Sublist
        [busyClient.url, referenceClient.url] ∧
      ∃ before client after former errors latter,
        [busyClient, referenceClient] = before ++ client :: after ∧
          busyExchanges ++ referenceExchanges = former ++ latter ∧
          Failures
            (fun client =>
              client.timestamp exampleCrates RitspLtv.Reference.signatures
                referenceEncoders Reference.messageHash)
            before former errors ∧
          Task.Returns
            (client.timestamp exampleCrates RitspLtv.Reference.signatures
              referenceEncoders Reference.messageHash)
            latter (.ok Reference.token) := by
  rcases pool_fallback fallbackPool Reference.messageHash
      (busyExchanges ++ referenceExchanges) (.ok Reference.token)
      returns_fallbackPool with
    ⟨guarded, inOrder, succeeds, _⟩
  exact ⟨guarded, inOrder, succeeds Reference.token rfl⟩

/-! ### Two sessions at once -/

def referencePool : TsaClientPool :=
  ⟨[referenceClient], List.cons_ne_nil _ _⟩

/-- The nonce of a session. -/
def sessionNonce (session : Bool) : UInt8 :=
  if session then 43 else 42

def sessionBuf (session : Bool) : Bytes :=
  [sessionNonce session, 0, 0, 0, 0, 0, 0, 0]

def sessionSerial (session : Bool) : UInt8 :=
  if session then 8 else 7

/-- Content like that of the reference token, in answer to a session. -/
def sessionTstInfo (session : Bool) : Bytes :=
  encodeSequenceFromParts
    [encodeTlv 0x02 [1],
      RitspLtv.Reference.encodeOid (.newUnwrap [1, 2, 3, 4]),
      encodeSequenceFromParts
        [RitspLtv.Reference.encodeAlgorithmIdentifier Reference.sha256,
          encodeTlv 0x04 Reference.messageHash],
      encodeTlv 0x02 [sessionSerial session],
      encodeTlv 0x18 (asciiBytes "20260101000000.5Z"),
      encodeTlv 0x02 [sessionNonce session]]

def sessionParsed (session : Bool) : TstInfo :=
  { Reference.parsed with
    serialNumber := [sessionSerial session]
    nonce := some (sessionNonce session).toUInt64 }

def sessionAttrs (session : Bool) : List Attribute :=
  [⟨idContentTypeAttr, [⟨0x06, idCtTstInfo.body⟩]⟩,
    ⟨idMessageDigestAttr,
      [⟨0x04, Reference.digest .sha256 (sessionTstInfo session)⟩]⟩,
    ⟨Ess.idSigningCertificateV2,
      [Reference.signingCertificateV2 Reference.tsa]⟩]

def sessionSignedData (session : Bool) : SignedData where
  encapContentInfo := ⟨idCtTstInfo, some ⟨0x04, sessionTstInfo session⟩⟩
  certificates := some [.certificate Reference.tsa]
  signerInfos :=
    Reference.signedData.signerInfos.map fun signerInfo =>
      { signerInfo with signedAttrs := some (sessionAttrs session) }

def sessionContentInfo (session : Bool) : ContentInfo :=
  ⟨idSignedData, Reference.signedDataToAny (sessionSignedData session)⟩

def sessionToken (session : Bool) : Bytes :=
  Reference.encodeContentInfo (sessionContentInfo session)

/-- The crates, with decoders for the tokens of both sessions. -/
def sessionCrates : ResponseCrates :=
  { ResponseGrammar.exampleCrates with
    contentInfoFromDer :=
      RitspLtv.Reference.decodeKnown Reference.encodeContentInfo
        [sessionContentInfo false, sessionContentInfo true]
    signedDataFromAny := fun value =>
      RitspLtv.Reference.decodeKnown
        (fun known =>
          RitspLtv.Reference.encodeAny (Reference.signedDataToAny known))
        [sessionSignedData false, sessionSignedData true]
        (RitspLtv.Reference.encodeAny value) }

def sessionReqDer (session : Bool) : Bytes :=
  ((referenceClient.request Reference.messageHash
    (fromNeBytes (sessionBuf session))).build
      referenceEncoders).toOption.getD []

def sessionAnswer (session : Bool) : Response :=
  { referenceAnswer with
    chunks :=
      [encodeSequenceFromParts
        [encodeSequenceFromParts [encodeTlv 0x02 [0]],
          sessionToken session]] }

theorem receive_sessionAnswer (session : Bool) :
    referenceClient.receive sessionCrates RitspLtv.Reference.signatures
        Reference.messageHash (fromNeBytes (sessionBuf session))
        (.ok (sessionAnswer session)) = .ok (sessionToken session) := by
  revert session
  decide +kernel

theorem build_sessionReqDer (session : Bool) :
    (referenceClient.request Reference.messageHash
        (fromNeBytes (sessionBuf session))).build referenceEncoders =
      .ok (sessionReqDer session) := by
  revert session
  decide +kernel

/-- The protocol with two sessions that ask for the same. -/
def referenceProtocol :
    Protocol network Bool TstInfo UInt64 (Except RequestError Bytes) :=
  timestamping sessionCrates RitspLtv.Reference.signatures referenceEncoders
    fun _ => (referencePool, Reference.messageHash)

/-- Both draw their nonces first, and are answered in the other order. -/
def referenceHistory : List (Moment Bool network TstInfo) :=
  [.exchanged false (checked referenceClient.url (some (.ok ()))),
    .exchanged true (checked referenceClient.url (some (.ok ()))),
    .exchanged false (drew 8 (.ok (sessionBuf false))),
    .exchanged true (drew 8 (.ok (sessionBuf true))),
    .produced (sessionParsed true), .produced (sessionParsed false),
    .exchanged true
      (sent (referenceClient.post (sessionReqDer true))
        (.ok (sessionAnswer true))),
    .exchanged false
      (sent (referenceClient.post (sessionReqDer false))
        (.ok (sessionAnswer false)))]

theorem verifyTokenCms_sessionToken (session : Bool) :
    ∃ verified,
      verifyTokenCms sessionCrates.toCmsCrates RitspLtv.Reference.signatures
          (sessionToken session) [] =
        .ok (verified, sessionParsed session) := by
  have content :
      (verifyTokenCms sessionCrates.toCmsCrates RitspLtv.Reference.signatures
          (sessionToken session) []).map Prod.snd =
        .ok (sessionParsed session) := by
    revert session
    decide +kernel
  rcases map_eq_ok_iff.mp content with ⟨⟨verified, info⟩, accepted, same⟩
  simp only at same
  subst same
  exact ⟨verified, accepted⟩

theorem completed_referenceHistory (session : Bool) :
    referenceProtocol.Completed referenceHistory session
      (.ok (sessionToken session)) := by
  have heardAs :
      heard referenceHistory session =
        [checked referenceClient.url (some (.ok ())),
          drew 8 (.ok (sessionBuf session)),
          sent (referenceClient.post (sessionReqDer session))
            (.ok (sessionAnswer session))] := by
    cases session <;> rfl
  rw [Protocol.Completed, heardAs]
  exact
    returns_pool_ok_iff.mpr
      ⟨[], referenceClient, [], [], [], sessionBuf session,
        sessionReqDer session, .ok (sessionAnswer session), rfl, rfl, .nil,
        rfl, build_sessionReqDer session, receive_sessionAnswer session⟩

theorem fresh_referenceHistory :
    referenceProtocol.Fresh referenceHistory := by
  apply Protocol.fresh_of_pairwise
  decide +kernel

/-- A session accepts the content of its own token, and no other. -/
theorem accepts_sessionToken_iff {session : Bool} {info : TstInfo} :
    referenceProtocol.accepts session (.ok (sessionToken session)) info ↔
      info = sessionParsed session := by
  rcases verifyTokenCms_sessionToken session with ⟨known, accepted⟩
  constructor
  · rintro ⟨token, client, verified, same, member, verification⟩
    cases same
    rcases List.mem_singleton.mp member with rfl
    exact info_eq_of_verifyTokenCms verification accepted
  · rintro rfl
    exact
      ⟨_, referenceClient, known, rfl, List.mem_singleton_self _, accepted⟩

theorem genuine_referenceHistory :
    referenceProtocol.Genuine referenceHistory := by
  apply Protocol.genuine_of_completed completed_referenceHistory
  intro session info accepted
  rw [accepts_sessionToken_iff.mp accepted]
  cases session with
  | false =>
      exact
        ⟨referenceHistory.take 7, _, [], rfl, by simp [referenceHistory]⟩
  | true =>
      exact
        ⟨referenceHistory.take 6, _, referenceHistory.drop 7, rfl,
          by simp [referenceHistory]⟩

/--
Each of the two sessions has content that was signed after its own nonce, and
neither accepts the content of the other.
-/
theorem timestamping_safe_reference :
    (∀ session, ∃ nonce info past drawing future,
      Answers sessionCrates.toCmsCrates RitspLtv.Reference.signatures
          referenceClient Reference.messageHash nonce (sessionToken session)
          info ∧
        referenceHistory = past ++ .exchanged session drawing :: future ∧
        drawnNonce drawing = some nonce ∧
        .produced info ∉ past ∧ .produced info ∈ future) ∧
      ∀ info,
        referenceProtocol.accepts false (.ok (sessionToken false)) info →
          ¬ referenceProtocol.accepts true (.ok (sessionToken true)) info := by
  have safe :=
    timestamping_safe referenceHistory fresh_referenceHistory
      genuine_referenceHistory
  constructor
  · intro session
    rcases safe.1 session _ (completed_referenceHistory session) with
      ⟨client, member, nonce, info, answers, past, drawing, future, found⟩
    rcases List.mem_singleton.mp member with rfl
    exact ⟨nonce, info, past, drawing, future, answers, found⟩
  · intro info accepted otherAccepted
    have same :=
      safe.2 false true _ _ info (completed_referenceHistory false)
        (completed_referenceHistory true) accepted otherAccepted
    cases same

end Reference

end RitspLtv.Tsp.ClientProtocol
