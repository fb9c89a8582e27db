import RitspLtv.Ltv.Crl
import RitspLtv.Ltv.OcspSoundness
import RitspLtv.TlvRoundTrip

/-!
# Signed octets determine meaning

A parsed CRL is the encoding of its signed part, of an algorithm and of its
signature, and its fields are read from the signed part alone.  So are those of
a parsed OCSP response.  Octets outside the signed part cannot change what is
said under a signature.
-/

namespace RitspLtv.Ltv.SignedBytes

open RitspLtv.Foundation.Checks
open RitspLtv.RustStd
open RitspLtv.DerUtils
open RitspLtv.TlvRoundTrip
open RitspLtv.Ltv.Crl
open RitspLtv.Ltv.OcspResponse
open RitspLtv.Ltv.OcspSoundness

variable {crates : Crates}

/-! ## CRLs -/

/-- The octets behind the header of an element that fills its input. -/
theorem drop_header
    {data body : Bytes} {tag : UInt8}
    (parsed : parseTlvWithRest data = .ok (tag, body, [])) :
    data.drop (data.length - body.length) = body := by
  have encoded := eq_encodeTlv_of_parse parsed
  rw [List.append_nil] at encoded
  rw [encoded, encodeTlv, ← List.cons_append, List.length_append,
    Nat.add_sub_cancel, List.drop_left]

/-- The outer layer of a CRL: its three parts, and nothing else. -/
structure OuterLayer (crates : Crates) (crlDer : Bytes)
    (list : CertificateList) : Prop where
  tbs : list.tbsBytes = encodeTlv 0x30 list.tbsValue
  bounded : list.tbsValue.length < 2 ^ 32
  whole :
    ∃ algorithm,
      crates.algorithmIdentifierFromDer (encodeTlv 0x30 algorithm) =
          .ok list.signatureAlgorithm ∧
        crlDer =
          encodeTlv 0x30
            (list.tbsBytes ++ encodeTlv 0x30 algorithm ++
              encodeTlv 0x03 (0x00 :: list.signatureBytes))

theorem outerLayer_of_parseCertificateList
    {crlDer : Bytes} {list : CertificateList}
    (parsed : parseCertificateList crates crlDer = .ok list) :
    OuterLayer crates crlDer list := by
  simp only [parseCertificateList, bind_eq_ok, mapError_eq_ok,
    rejectIf_eq_ok, exists_const, pure_eq_ok, Prod.exists, ne_eq, not_not]
    at parsed
  rcases parsed with
    ⟨_, outerBody, _, outer, rfl, rfl, _, tbsValue, afterTbs, tbs, rfl, _,
      algorithm, afterSigAlg, sigAlg, rfl, signatureAlgorithm, decoded, _,
      sigValue, _, signature, rfl, rfl, unused, rfl⟩
  have outerIs := eq_encodeTlv_of_parse outer
  rw [List.append_nil] at outerIs
  have tbsIs := eq_encodeTlv_of_parse tbs
  have sigAlgIs := eq_encodeTlv_of_parse sigAlg
  have signatureIs := eq_encodeTlv_of_parse signature
  rw [List.append_nil] at signatureIs
  rw [take_eq_encodeTlv sigAlg] at decoded
  rw [drop_header outer, Nat.add_sub_cancel_left, take_eq_encodeTlv tbs]
  constructor
  · rfl
  · exact (parseTlvWithRest_eq_ok_iff.1 tbs).2.1
  · refine ⟨algorithm, decoded, ?_⟩
    cases sigValue with
    | nil => exact absurd (.inl (Nat.succ_pos 1)) unused
    | cons count octets =>
        rw [not_or, not_not] at unused
        have octetAligned : count = 0x00 := unused.2
        rw [outerIs, tbsIs, sigAlgIs, signatureIs, octetAligned,
          List.append_assoc]
        rfl

/-- The inner algorithm is read from the signed part. -/
theorem algorithm_of_parseInnerAlgorithm
    {left right : AlgorithmIdentifier} {tbsPos leftRest rightRest : Bytes}
    (leftParsed : parseInnerAlgorithm crates left tbsPos = .ok leftRest)
    (rightParsed : parseInnerAlgorithm crates right tbsPos = .ok rightRest) :
    left = right ∧ leftRest = rightRest := by
  simp only [parseInnerAlgorithm, bind_eq_ok, mapError_eq_ok, rejectIf_eq_ok,
    exists_const, pure_eq_ok, Prod.exists, ne_eq, not_not]
    at leftParsed rightParsed
  rcases leftParsed with ⟨_, _, _, element, _, _, decoded, rfl, rfl⟩
  rcases rightParsed with ⟨_, _, _, sameElement, _, _, sameDecoded, rfl, rfl⟩
  rw [element] at sameElement
  cases sameElement
  rw [decoded] at sameDecoded
  cases sameDecoded
  exact ⟨rfl, rfl⟩

/-- The fields of a CRL that are read from its signed part. -/
theorem parseCrl_of_tbsBytes
    {leftDer rightDer : Bytes} {left right : ParsedCrl}
    (leftParsed : parseCrl crates leftDer = .ok left)
    (rightParsed : parseCrl crates rightDer = .ok right)
    (sameTbs : left.tbsBytes = right.tbsBytes) :
    left.issuerDer = right.issuerDer ∧
      left.thisUpdate = right.thisUpdate ∧
      left.nextUpdate = right.nextUpdate ∧
      left.revokedEntries = right.revokedEntries ∧
      left.signatureAlgorithm = right.signatureAlgorithm := by
  simp only [parseCrl, bind_eq_ok, rejectIf_eq_ok, exists_const, pure_eq_ok,
    Prod.exists] at leftParsed rightParsed
  rcases leftParsed with
    ⟨leftList, leftOuter, _, version, _, inner, _, _, issuer, _, _,
      thisUpdate, _, _, nextUpdate, _, _, entries, _, _, _, rfl⟩
  rcases rightParsed with
    ⟨rightList, rightOuter, _, sameVersion, _, sameInner, _, _, sameIssuer, _,
      _, sameThisUpdate, _, _, sameNextUpdate, _, _, sameEntries, _, _, _,
      rfl⟩
  have leftLayer := outerLayer_of_parseCertificateList leftOuter
  have rightLayer := outerLayer_of_parseCertificateList rightOuter
  have sameValue : leftList.tbsValue = rightList.tbsValue := by
    simp only [leftLayer.tbs, rightLayer.tbs] at sameTbs
    have read :=
      parseTlvWithRest_encodeTlv (by decide : LowTag 0x30) leftLayer.bounded []
    rw [sameTbs,
      parseTlvWithRest_encodeTlv (by decide) rightLayer.bounded,
      Except.ok.injEq, Prod.mk.injEq, Prod.mk.injEq] at read
    exact read.2.1.symm
  rw [← sameValue, version] at sameVersion
  cases sameVersion
  rcases algorithm_of_parseInnerAlgorithm inner sameInner with
    ⟨sameAlgorithm, rfl⟩
  rw [issuer] at sameIssuer
  cases sameIssuer
  rw [thisUpdate] at sameThisUpdate
  cases sameThisUpdate
  rw [nextUpdate] at sameNextUpdate
  cases sameNextUpdate
  rw [entries] at sameEntries
  cases sameEntries
  exact ⟨rfl, rfl, rfl, rfl, sameAlgorithm⟩

/-- An accepted CRL consists of its signed part, an algorithm and a signature. -/
theorem parseCrl_layout
    {crlDer : Bytes} {parsed : ParsedCrl}
    (accepted : parseCrl crates crlDer = .ok parsed) :
    ∃ tbsValue algorithm,
      parsed.tbsBytes = encodeTlv 0x30 tbsValue ∧
        crates.algorithmIdentifierFromDer (encodeTlv 0x30 algorithm) =
          .ok parsed.signatureAlgorithm ∧
        crlDer =
          encodeTlv 0x30
            (parsed.tbsBytes ++ encodeTlv 0x30 algorithm ++
              encodeTlv 0x03 (0x00 :: parsed.signatureBytes)) := by
  simp only [parseCrl, bind_eq_ok, rejectIf_eq_ok, exists_const, pure_eq_ok,
    Prod.exists] at accepted
  rcases accepted with
    ⟨list, outer, _, _, _, _, _, _, _, _, _, _, _, _, _, _, _, _, _, _, _,
      rfl⟩
  have layer := outerLayer_of_parseCertificateList outer
  rcases layer.whole with ⟨algorithm, decoded, whole⟩
  exact ⟨list.tbsValue, algorithm, layer.tbs, decoded, whole⟩

/-! ## OCSP responses -/

/-- The fields of a response are those that its signed part parses to. -/
theorem responseData_of_parseOcspResponse
    {responseDer : Bytes} {parsed : ParsedBasicOcspResponse}
    (accepted : parseOcspResponse crates responseDer = .ok parsed) :
    ∃ value data,
      parseTlvWithRest parsed.tbsResponseData = .ok (0x30, value, []) ∧
        parseResponseData crates value = .ok data ∧
        parsed.responderId = data.responderId ∧
        parsed.producedAt = data.producedAt ∧
        parsed.responses = data.responses ∧
        parsed.nonce = data.nonce := by
  simp only [parseOcspResponse, parseBasicOcspResponse, bind_eq_ok,
    mapError_eq_ok, rejectIf_eq_ok, exists_const, pure_eq_ok, Prod.exists]
    at accepted
  rcases accepted with
    ⟨_, _, _, _, _, _, _, _, _, _, _, _, _, _, _, _, _, _, _, _, _, _, body, _,
      _, value, afterTbs, tbs, _, _, _, _, _, _, _, _, _, _, _, data,
      parsedData, rfl⟩
  have element := parseTlvWithRest_take (expectTagged_eq_ok.1 tbs)
  exact ⟨value, data, element, parsedData, rfl, rfl, rfl, rfl⟩

theorem parseOcspResponse_of_tbsResponseData
    {leftDer rightDer : Bytes} {left right : ParsedBasicOcspResponse}
    (leftParsed : parseOcspResponse crates leftDer = .ok left)
    (rightParsed : parseOcspResponse crates rightDer = .ok right)
    (sameTbs : left.tbsResponseData = right.tbsResponseData) :
    left.responderId = right.responderId ∧
      left.producedAt = right.producedAt ∧
      left.responses = right.responses ∧
      left.nonce = right.nonce := by
  rcases responseData_of_parseOcspResponse leftParsed with
    ⟨value, data, element, parsedData, responderId, producedAt, responses,
      nonce⟩
  rcases responseData_of_parseOcspResponse rightParsed with
    ⟨_, _, sameElement, sameData, rightResponderId, rightProducedAt,
      rightResponses, rightNonce⟩
  rw [← sameTbs, element] at sameElement
  cases sameElement
  rw [parsedData] at sameData
  cases sameData
  rw [responderId, producedAt, responses, nonce, rightResponderId,
    rightProducedAt, rightResponses, rightNonce]
  exact ⟨rfl, rfl, rfl, rfl⟩

/-! ## Both formats -/

/--
The signed octets of a CRL and of an OCSP response determine all that is read
from them, and the octets of a CRL are those of its parts.
-/
theorem signedBytes_determine (crates : Crates) :
    (∀ leftDer rightDer left right,
        parseCrl crates leftDer = .ok left →
          parseCrl crates rightDer = .ok right →
          left.tbsBytes = right.tbsBytes →
          left.issuerDer = right.issuerDer ∧
            left.thisUpdate = right.thisUpdate ∧
            left.nextUpdate = right.nextUpdate ∧
            left.revokedEntries = right.revokedEntries ∧
            left.signatureAlgorithm = right.signatureAlgorithm) ∧
      (∀ crlDer parsed,
        parseCrl crates crlDer = .ok parsed →
          ∃ tbsValue algorithm,
            parsed.tbsBytes = encodeTlv 0x30 tbsValue ∧
              crates.algorithmIdentifierFromDer (encodeTlv 0x30 algorithm) =
                .ok parsed.signatureAlgorithm ∧
              crlDer =
                encodeTlv 0x30
                  (parsed.tbsBytes ++ encodeTlv 0x30 algorithm ++
                    encodeTlv 0x03 (0x00 :: parsed.signatureBytes))) ∧
      ∀ leftDer rightDer left right,
        parseOcspResponse crates leftDer = .ok left →
          parseOcspResponse crates rightDer = .ok right →
          left.tbsResponseData = right.tbsResponseData →
          left.responderId = right.responderId ∧
            left.producedAt = right.producedAt ∧
            left.responses = right.responses ∧
            left.nonce = right.nonce := by
  refine ⟨?_, ?_, ?_⟩
  · intro leftDer rightDer left right leftParsed rightParsed sameTbs
    exact parseCrl_of_tbsBytes leftParsed rightParsed sameTbs
  · intro crlDer parsed accepted
    exact parseCrl_layout accepted
  · intro leftDer rightDer left right leftParsed rightParsed sameTbs
    exact
      parseOcspResponse_of_tbsResponseData leftParsed rightParsed sameTbs

end RitspLtv.Ltv.SignedBytes
