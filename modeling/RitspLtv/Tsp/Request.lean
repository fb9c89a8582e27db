import RitspLtv.IntegerCodec
import RitspLtv.Tsp.InfoGrammar

/-!
# Requests to a timestamping authority

A `TimeStampReq` is assembled field by field: the version, the imprint of what
is to be stamped, and as far as they are asked for a policy, a nonce and the
certificates of the authority.  The octets are one SEQUENCE of these fields and
nothing else, so they say exactly what was asked: two requests with the same
octets are the same request.
-/

namespace RitspLtv.Tsp.Request

open RitspLtv.Foundation.Checks
open RitspLtv.RustStd
open RitspLtv.DerUtils
open RitspLtv.TlvRoundTrip
open RitspLtv.TlvElements
open RitspLtv.IntegerCodec
open RitspLtv.Crypto.Algorithm
open RitspLtv.Tsp.Info
open RitspLtv.Tsp.InfoGrammar
open RitspLtv.Tsp.StrictDer

/-! ## Building a request -/

/-- What is asked of an authority. -/
structure TimestampRequest where
  digestAlgorithm : DigestAlgorithm
  messageHash : Bytes
  policyOid : Option ObjectIdentifier
  nonce : Option UInt64
  certReq : Bool
  deriving DecidableEq

/-- The encoders of the `der` crate that a request is built with. -/
structure RequestEncoders where
  /-- `AlgorithmIdentifierOwned::to_der`. -/
  algorithmIdentifierToDer : AlgorithmIdentifier → Except String Bytes
  /-- `OctetString::new`. -/
  octetStringNew : Bytes → Except String Bytes
  /-- `OctetString::to_der`. -/
  octetStringToDer : Bytes → Except String Bytes
  /-- `ObjectIdentifier::to_der`. -/
  oidToDer : ObjectIdentifier → Except String Bytes

/-- A digest algorithm without parameters. -/
def digestAlgorithmIdentifier (alg : DigestAlgorithm) : AlgorithmIdentifier :=
  ⟨alg.oid, none⟩

section Building

variable (encoders : RequestEncoders)

/-- The `MessageImprint` of a hash. -/
def buildMessageImprint (digestAlgorithm : DigestAlgorithm)
    (messageHash : Bytes) : Except TspError Bytes := do
  let hashAlgDer ←
    (encoders.algorithmIdentifierToDer
        (digestAlgorithmIdentifier digestAlgorithm)).mapError fun e =>
      .invalidResponse s!"failed to encode hash algorithm: {e}"
  let hashedMessage ←
    (encoders.octetStringNew messageHash).mapError fun e =>
      .invalidResponse s!"failed to create hash octet string: {e}"
  let hashedMessageDer ←
    (encoders.octetStringToDer hashedMessage).mapError fun e =>
      .invalidResponse s!"failed to encode hash: {e}"
  pure (encodeSequenceFromParts [hashAlgDer, hashedMessageDer])

/-- The policy, if one is asked for. -/
def buildReqPolicy : Option ObjectIdentifier → Except TspError (List Bytes)
  | none => .ok []
  | some oid => do
      let oidDer ←
        (encoders.oidToDer oid).mapError fun e =>
          .invalidResponse s!"failed to encode policy OID: {e}"
      pure [oidDer]

/-- Build a `TimeStampReq`; `certReq` is written only when it is set. -/
def buildTimestampRequest (digestAlgorithm : DigestAlgorithm)
    (messageHash : Bytes) (policyOid : Option ObjectIdentifier)
    (nonce : Option UInt64) (certReq : Bool) : Except TspError Bytes := do
  let msgImprint ← buildMessageImprint encoders digestAlgorithm messageHash
  let reqPolicy ← buildReqPolicy encoders policyOid
  let parts :=
    [encodeIntegerU64 1, msgImprint] ++ reqPolicy ++
      nonce.toList.map encodeIntegerU64 ++
      if certReq then [encodeBoolean true] else []
  pure (encodeSequenceRaw parts.flatten)

/-- The octets of a request. -/
def TimestampRequest.build (request : TimestampRequest) :
    Except TspError Bytes :=
  buildTimestampRequest encoders request.digestAlgorithm request.messageHash
    request.policyOid request.nonce request.certReq

end Building

/--
What is relied on of the encoders: they write one element, and refuse one that
is too long to count.
-/
structure Standard (encoders : RequestEncoders) : Prop where
  algorithmIdentifier :
    ∀ {algorithm der},
      encoders.algorithmIdentifierToDer algorithm = .ok der →
        der = encodeElement (0x30, encodeElements (algorithmElements algorithm)) ∧
          der.length < 2 ^ 28
  octetStringNew :
    ∀ {octets value}, encoders.octetStringNew octets = .ok value →
      value = octets
  octetString :
    ∀ {octets der}, encoders.octetStringToDer octets = .ok der →
      der = encodeElement (0x04, octets) ∧ der.length < 2 ^ 28
  oid :
    ∀ {oid der}, encoders.oidToDer oid = .ok der →
      der = encodeElement (0x06, oid.body) ∧ der.length < 2 ^ 28

/-! ## The fields of a request -/

/-- The one INTEGER of a number. -/
def integerElement (value : UInt64) : Element :=
  (0x02, signPadded (significantOctets value))

theorem encodeElement_integerElement (value : UInt64) :
    encodeElement (integerElement value) = encodeIntegerU64 value :=
  rfl

theorem integerElement_injective : Function.Injective integerElement := by
  intro left right same
  have first := denotes_significantOctets left
  rw [(Prod.mk.inj same).2] at first
  have numbers := Denotes.unique first (denotes_significantOctets right)
  exact UInt64.toNat_inj.mp numbers

/-- The fields behind the imprint. -/
def optionalElements (policyOid : Option ObjectIdentifier)
    (nonce : Option UInt64) (certReq : Bool) : List Element :=
  policyOid.toList.map (fun oid => (0x06, oid.body)) ++
    nonce.toList.map integerElement ++
    if certReq then [(0x01, booleanBody true)] else []

/-- The fields of a request, in their order. -/
def TimestampRequest.elements (request : TimestampRequest) : List Element :=
  integerElement 1 ::
    (0x30,
      encodeElements
        (imprintElements (digestAlgorithmIdentifier request.digestAlgorithm)
          request.messageHash)) ::
    optionalElements request.policyOid request.nonce request.certReq

/-- The optional fields are told apart by their tags. -/
theorem eq_of_optionalElements
    {policyOid otherPolicy : Option ObjectIdentifier}
    {nonce otherNonce : Option UInt64} {certReq otherCertReq : Bool}
    (same :
      optionalElements policyOid nonce certReq =
        optionalElements otherPolicy otherNonce otherCertReq) :
    policyOid = otherPolicy ∧ nonce = otherNonce ∧ certReq = otherCertReq := by
  have certs : certReq = otherCertReq := by
    have lasts :=
      congrArg (fun fields => decide ((0x01, booleanBody true) ∈ fields)) same
    simpa [optionalElements, integerElement] using lasts
  subst certs
  rw [optionalElements, optionalElements, List.append_left_inj] at same
  cases policyOid with
  | none =>
      cases otherPolicy with
      | none =>
          refine ⟨rfl, ?_, rfl⟩
          cases nonce <;> cases otherNonce <;>
            simp_all [integerElement_injective.eq_iff]
      | some other => cases nonce <;> simp [integerElement] at same
  | some oid =>
      cases otherPolicy with
      | none => cases otherNonce <;> simp [integerElement] at same
      | some other =>
          simp only [Option.toList_some, List.map_cons, List.map_nil,
            List.cons_append, List.nil_append, List.cons.injEq, Prod.mk.injEq,
            true_and] at same
          refine ⟨?_, ?_, rfl⟩
          · cases oid
            cases other
            exact congrArg (some ∘ ObjectIdentifier.mk) same.1
          · have nonces := same.2
            cases nonce <;> cases otherNonce <;>
              simp_all [integerElement_injective.eq_iff]

/-- A request that is short enough to be counted. -/
def TimestampRequest.Short (request : TimestampRequest) : Prop :=
  (encodeElements request.elements).length < 2 ^ 32 ∧
    (encodeElements
        (imprintElements (digestAlgorithmIdentifier request.digestAlgorithm)
          request.messageHash)).length < 2 ^ 32

section Codec

variable {encoders : RequestEncoders} {request other : TimestampRequest}
variable {der : Bytes}

theorem lowTag_of_mem_elements :
    ∀ element ∈ request.elements, LowTag element.1 := by
  intro element member
  have tags : element.1 ∈ [0x02, 0x30, 0x06, 0x01] := by
    simp only [TimestampRequest.elements, optionalElements, integerElement,
      List.mem_cons, List.mem_append, List.mem_map] at member
    rcases member with rfl | rfl | (⟨_, _, rfl⟩ | ⟨_, _, rfl⟩) | last
    · simp
    · simp
    · simp
    · simp
    · split at last
      · rw [List.mem_singleton] at last
        simp [last]
      · cases last
  have low : ∀ tag ∈ ([0x02, 0x30, 0x06, 0x01] : Bytes), LowTag tag := by
    decide +kernel
  exact low element.1 tags

theorem lowTag_of_mem_imprintElements
    {algorithm : AlgorithmIdentifier} {hash : Bytes} :
    ∀ element ∈ imprintElements algorithm hash, LowTag element.1 := by
  intro element member
  apply lowTag_of_mem_fieldTags
  simp only [imprintElements, List.mem_cons, List.not_mem_nil, or_false]
    at member
  rcases member with rfl | rfl <;> simp [fieldTags]

theorem consists_elements (short : request.Short) :
    Consists (encodeElements request.elements) request.elements :=
  consists_encodeElements lowTag_of_mem_elements short.1

theorem consists_imprint (short : request.Short) :
    Consists
      (encodeElements
        (imprintElements (digestAlgorithmIdentifier request.digestAlgorithm)
          request.messageHash))
      (imprintElements (digestAlgorithmIdentifier request.digestAlgorithm)
        request.messageHash) :=
  consists_encodeElements lowTag_of_mem_imprintElements short.2

theorem eq_of_algorithmElements
    {left right : DigestAlgorithm}
    (same :
      encodeElements (algorithmElements (digestAlgorithmIdentifier left)) =
        encodeElements (algorithmElements (digestAlgorithmIdentifier right))) :
    left = right := by
  cases left <;> cases right <;> first | rfl | exact absurd same (by decide)

/-- The fields of a request determine it. -/
theorem eq_of_elements
    (short : request.Short) (otherShort : other.Short)
    (same : request.elements = other.elements) :
    request = other := by
  rw [TimestampRequest.elements, TimestampRequest.elements] at same
  have fields := (List.cons.inj same).2
  have imprints := (Prod.mk.inj (List.cons.inj fields).1).2
  rcases eq_of_optionalElements (List.cons.inj fields).2 with
    ⟨policy, nonce, certReq⟩
  have otherImprint := consists_imprint otherShort
  rw [← imprints] at otherImprint
  have imprint := Consists.unique (consists_imprint short) otherImprint
  rw [imprintElements, imprintElements, List.cons.injEq, List.cons.injEq,
    Prod.mk.injEq, Prod.mk.injEq] at imprint
  rcases imprint with ⟨⟨_, algorithms⟩, ⟨_, hash⟩, _⟩
  have algorithm := eq_of_algorithmElements algorithms
  cases request
  cases other
  simp only at policy nonce certReq hash algorithm
  subst policy nonce certReq hash algorithm
  rfl

/-- The octets of an imprint. -/
theorem imprint_of_build
    (standard : Standard encoders)
    {alg : DigestAlgorithm} {hash : Bytes}
    (built : buildMessageImprint encoders alg hash = .ok der) :
    der =
        encodeElement
          (0x30,
            encodeElements
              (imprintElements (digestAlgorithmIdentifier alg) hash)) ∧
      (encodeElements
          (imprintElements (digestAlgorithmIdentifier alg) hash)).length <
        2 ^ 29 := by
  simp only [buildMessageImprint, bind_eq_ok, mapError_eq_ok, pure_eq_ok]
    at built
  rcases built with
    ⟨hashAlgDer, algorithmWritten, hashedMessage, created,
      hashedMessageDer, hashWritten, rfl⟩
  rcases standard.algorithmIdentifier algorithmWritten with
    ⟨rfl, algorithmShort⟩
  have sameHash := standard.octetStringNew created
  subst sameHash
  rcases standard.octetString hashWritten with ⟨rfl, hashShort⟩
  refine ⟨rfl, ?_⟩
  rw [imprintElements, encodeElements_cons, encodeElements_cons,
    encodeElements_nil, List.append_nil, List.length_append]
  omega

/-- The octets of a policy. -/
theorem policy_of_build
    (standard : Standard encoders)
    {policyOid : Option ObjectIdentifier} {parts : List Bytes}
    (built : buildReqPolicy encoders policyOid = .ok parts) :
    parts =
        (policyOid.toList.map fun oid => (0x06, oid.body)).map encodeElement ∧
      parts.flatten.length < 2 ^ 28 := by
  cases policyOid with
  | none =>
      rw [buildReqPolicy, Except.ok.injEq] at built
      subst built
      exact ⟨rfl, by decide⟩
  | some oid =>
      simp only [buildReqPolicy, bind_eq_ok, mapError_eq_ok, pure_eq_ok]
        at built
      rcases built with ⟨oidDer, written, rfl⟩
      rcases standard.oid written with ⟨rfl, short⟩
      refine ⟨rfl, ?_⟩
      rw [List.flatten_singleton]
      exact short

theorem length_encodeIntegerU64_le (value : UInt64) :
    (encodeIntegerU64 value).length ≤ 15 := by
  have header := length_encodeElement_le (integerElement value)
  have padded := length_signPadded_le (significantOctets value)
  have short := length_significantOctets_le value
  rw [encodeElement_integerElement] at header
  simp only [integerElement] at header
  omega

/-- What is built is one SEQUENCE of the fields. -/
theorem octets_of_build
    (standard : Standard encoders)
    (built : request.build encoders = .ok der) :
    der = encodeElement (0x30, encodeElements request.elements) ∧
      request.Short := by
  simp only [TimestampRequest.build, buildTimestampRequest, bind_eq_ok,
    pure_eq_ok] at built
  rcases built with ⟨msgImprint, imprintBuilt, reqPolicy, policyBuilt, rfl⟩
  rcases imprint_of_build standard imprintBuilt with ⟨rfl, imprintShort⟩
  rcases policy_of_build standard policyBuilt with ⟨rfl, policyShort⟩
  have nonces :
      request.nonce.toList.map encodeIntegerU64 =
        (request.nonce.toList.map integerElement).map encodeElement := by
    rw [List.map_map]
    rfl
  have certs :
      (if request.certReq = true then [encodeBoolean true] else []) =
        (if request.certReq = true then [((0x01 : UInt8), booleanBody true)]
          else []).map encodeElement := by
    split <;> rfl
  have parts :
      [encodeIntegerU64 1,
            encodeElement
              (0x30,
                encodeElements
                  (imprintElements
                    (digestAlgorithmIdentifier request.digestAlgorithm)
                    request.messageHash))] ++
          (request.policyOid.toList.map fun oid =>
              (0x06, oid.body)).map encodeElement ++
          request.nonce.toList.map encodeIntegerU64 ++
          (if request.certReq = true then [encodeBoolean true] else []) =
        request.elements.map encodeElement := by
    rw [nonces, certs, TimestampRequest.elements, optionalElements,
      List.map_cons, List.map_cons, List.map_append, List.map_append,
      encodeElement_integerElement, List.append_assoc, List.append_assoc,
      List.cons_append, List.cons_append, List.nil_append, List.append_assoc]
  refine ⟨?_, ?_, imprintShort.trans (by decide)⟩
  · rw [parts, ← List.flatMap_def]
    rfl
  · rw [encodeElements, List.flatMap_def, ← parts]
    have version := length_encodeIntegerU64_le 1
    have imprint :=
      length_encodeElement_le
        (0x30,
          encodeElements
            (imprintElements
              (digestAlgorithmIdentifier request.digestAlgorithm)
              request.messageHash))
    simp only [List.flatten_append, List.flatten_cons, List.flatten_nil,
      List.append_nil, List.length_append] at policyShort imprint ⊢
    have nonce :
        (request.nonce.toList.map encodeIntegerU64).flatten.length ≤ 15 := by
      cases request.nonce with
      | none => exact Nat.zero_le 15
      | some value =>
          rw [Option.toList_some, List.map_singleton, List.flatten_singleton]
          exact length_encodeIntegerU64_le value
    have cert :
        (if request.certReq = true then [encodeBoolean true]
          else []).flatten.length ≤ 3 := by
      split <;> decide
    omega

/--
A request is one SEQUENCE of exactly the fields that were asked for, wherever it
stands, and its octets leave no doubt about any of them.
-/
theorem buildTimestampRequest_codec (standard : Standard encoders) :
    (∀ (request : TimestampRequest) (der : Bytes),
      request.build encoders = .ok der →
        ∃ body,
          (∀ rest, parseTlvWithRest (der ++ rest) = .ok (0x30, body, rest)) ∧
            Consists body request.elements) ∧
      ∀ (request other : TimestampRequest) (der : Bytes),
        request.build encoders = .ok der → other.build encoders = .ok der →
          request = other := by
  constructor
  · intro request der built
    rcases octets_of_build standard built with ⟨rfl, short⟩
    refine ⟨_, ?_, consists_elements short⟩
    intro rest
    have readable : Readable (0x30, encodeElements request.elements) :=
      readable_of_lowTag (by decide) short.1
    exact readable.parse rest
  · intro request other der built otherBuilt
    rcases octets_of_build standard built with ⟨octets, short⟩
    rcases octets_of_build standard otherBuilt with ⟨otherOctets, otherShort⟩
    have bodies : Consists der [(0x30, encodeElements request.elements)] :=
      Consists.singleton_iff.mpr
        ⟨readable_of_lowTag (by decide) short.1, octets⟩
    have otherBodies : Consists der [(0x30, encodeElements other.elements)] :=
      Consists.singleton_iff.mpr
        ⟨readable_of_lowTag (by decide) otherShort.1, otherOctets⟩
    have same := List.cons.inj (Consists.unique bodies otherBodies)
    have elements := consists_elements otherShort
    rw [← (Prod.mk.inj same.1).2] at elements
    exact
      eq_of_elements short otherShort
        (Consists.unique (consists_elements short) elements)

end Codec

/-! ## Encoders of the reference instance -/

/-- An element, unless it is too long to count. -/
def counted (der : Bytes) : Except String Bytes :=
  if der.length < 2 ^ 28 then .ok der else .error "length overflow"

def referenceEncoders : RequestEncoders where
  algorithmIdentifierToDer := fun algorithm =>
    counted (encodeElement (0x30, encodeElements (algorithmElements algorithm)))
  octetStringNew := .ok
  octetStringToDer := fun octets => counted (encodeElement (0x04, octets))
  oidToDer := fun oid => counted (encodeElement (0x06, oid.body))

theorem counted_eq_ok
    {octets der : Bytes} (written : counted octets = .ok der) :
    der = octets ∧ der.length < 2 ^ 28 := by
  rw [counted] at written
  split at written
  · next short =>
      cases written
      exact ⟨rfl, short⟩
  · cases written

theorem standard_referenceEncoders : Standard referenceEncoders where
  algorithmIdentifier := counted_eq_ok
  octetStringNew := by
    intro octets value created
    cases created
    rfl
  octetString := counted_eq_ok
  oid := counted_eq_ok

/-- A request for everything that can be asked for. -/
def referenceRequest : TimestampRequest where
  digestAlgorithm := .sha256
  messageHash := Reference.messageHash
  policyOid := some (.newUnwrap [1, 2, 3, 4])
  nonce := some 42
  certReq := true

theorem buildTimestampRequest_codec_reference :
    ∃ der,
      referenceRequest.build referenceEncoders = .ok der ∧
        ∃ body,
          (∀ rest, parseTlvWithRest (der ++ rest) = .ok (0x30, body, rest)) ∧
            Consists body referenceRequest.elements := by
  have built :
      ∃ der, referenceRequest.build referenceEncoders = .ok der := by
    rw [← Accepts]
    decide +kernel
  rcases built with ⟨der, built⟩
  exact
    ⟨der, built,
      (buildTimestampRequest_codec standard_referenceEncoders).1 _ der built⟩

end RitspLtv.Tsp.Request
