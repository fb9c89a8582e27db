import RitspLtv.TlvRoundTrip
import RitspLtv.Tsp.TokenSoundness

/-!
# Inspecting a token without verifying it

`extractTstInfo` walks the elements of a token by hand, where verification
decodes it and takes the value of the content without its tag.  Strict decoders
and the walk see the same elements, so the two can only differ in what they ask
of the content: the walk asks for an OCTET STRING.
-/

namespace RitspLtv.Tsp.Extract

open RitspLtv.Foundation.Checks
open RitspLtv.RustStd
open RitspLtv.DerUtils
open RitspLtv.TlvRoundTrip
open RitspLtv.Crypto.Algorithm
open RitspLtv.Crypto.Verify
open RitspLtv.Trust.Store
open RitspLtv.Tsp.Cms
open RitspLtv.Tsp.Info
open RitspLtv.Tsp.Token
open RitspLtv.Tsp.TokenSoundness

/-- Parse the `TSTInfo` of a token, without any verification. -/
def extractTstInfo (crates : CmsCrates) (tokenDer : Bytes) :
    Except TspError TstInfo := do
  let (tag, ciBody) ←
    (parseTlv tokenDer).mapError fun e =>
      .invalidResponse s!"failed to parse ContentInfo: {e}"
  rejectIf (tag ≠ 0x30) (.invalidResponse "ContentInfo: expected SEQUENCE")
  let (_, _, ciRest) ←
    (parseTlvWithRest ciBody).mapError fun e =>
      .invalidResponse s!"failed to parse contentType: {e}"
  let (ctxTag, sdInner, _) ←
    (parseTlvWithRest ciRest).mapError fun e =>
      .invalidResponse s!"failed to parse content [0]: {e}"
  rejectIf (ctxTag ≠ 0xA0)
    (.invalidResponse
      s!"expected [0] EXPLICIT tag 0xA0, got 0x{hexByte ctxTag}")
  let (sdTag, sdBody) ←
    (parseTlv sdInner).mapError fun e =>
      .invalidResponse s!"failed to parse SignedData: {e}"
  rejectIf (sdTag ≠ 0x30) (.invalidResponse "SignedData: expected SEQUENCE")
  let (_, _, sdRest) ←
    (parseTlvWithRest sdBody).mapError fun e =>
      .invalidResponse s!"failed to parse SD version: {e}"
  let (_, _, sdRest) ←
    (parseTlvWithRest sdRest).mapError fun e =>
      .invalidResponse s!"failed to parse digestAlgorithms: {e}"
  let (_, eciBody, _) ←
    (parseTlvWithRest sdRest).mapError fun e =>
      .invalidResponse s!"failed to parse encapContentInfo: {e}"
  let (_, _, eciRest) ←
    (parseTlvWithRest eciBody).mapError fun e =>
      .invalidResponse s!"failed to parse eContentType: {e}"
  let (ecTag, ecInner, _) ←
    (parseTlvWithRest eciRest).mapError fun e =>
      .invalidResponse s!"failed to parse eContent [0]: {e}"
  rejectIf (ecTag ≠ 0xA0)
    (.invalidResponse
      s!"expected eContent [0] tag 0xA0, got 0x{hexByte ecTag}")
  let (osTag, tstInfoDer, _) ←
    (parseTlvWithRest ecInner).mapError fun e =>
      .invalidResponse s!"failed to parse eContent OCTET STRING: {e}"
  rejectIf (osTag ≠ 0x04)
    (.invalidResponse
      s!"expected OCTET STRING 0x04 for eContent, got 0x{hexByte osTag}")
  parseTstInfoBody crates tstInfoDer

/-! ## Strict decoders -/

/-- A value with its tag in DER. -/
def anyOctets (value : Any) : Bytes :=
  encodeTlv value.tag value.value

/-- A `ContentInfo` in DER. -/
def contentInfoOctets (ci : ContentInfo) : Bytes :=
  encodeTlv 0x30
    (encodeTlv 0x06 ci.contentType.body ++
      encodeTlv 0xA0 (anyOctets ci.content))

/-- An `EncapsulatedContentInfo` in DER; the content is any element. -/
def encapContentInfoOctets (eci : EncapsulatedContentInfo) : Bytes :=
  encodeTlv 0x30
    (encodeTlv 0x06 eci.econtentType.body ++
      (eci.econtent.map fun econtent =>
        encodeTlv 0xA0 (anyOctets econtent)).getD [])

/--
The decoders of CMS are strict: what they decode is the DER form of the result,
short enough for four length octets and with tags of one octet.
-/
structure StrictDecoders (crates : CmsCrates) : Prop where
  contentInfo :
    ∀ {tokenDer ci}, crates.contentInfoFromDer tokenDer = .ok ci →
      tokenDer = contentInfoOctets ci ∧ tokenDer.length < 2 ^ 32
  signedData :
    ∀ {value signedData}, crates.signedDataFromAny value = .ok signedData →
      value.tag = 0x30 ∧
        ∃ version digestAlgorithms following,
          value.value =
            encodeTlv 0x02 version ++
              (encodeTlv 0x31 digestAlgorithms ++
                (encapContentInfoOctets signedData.encapContentInfo ++
                  following))
  lowTag :
    ∀ {value signedData econtent},
      crates.signedDataFromAny value = .ok signedData →
        signedData.encapContentInfo.econtent = some econtent →
        LowTag econtent.tag

/-! ## The walk -/

section Walk

variable {crates : CmsCrates} {tokenDer : Bytes} {econtent : Any}

/-- In front of octets short enough, an element is read as it was written. -/
theorem parse_of_bounded
    {tag : UInt8} {value rest : Bytes}
    (lowTag : LowTag tag)
    (bounded : (encodeTlv tag value ++ rest).length < 2 ^ 32) :
    parseTlvWithRest (encodeTlv tag value ++ rest) = .ok (tag, value, rest) ∧
      value.length < 2 ^ 32 ∧ rest.length < 2 ^ 32 := by
  have total :
      (encodeTlv tag value ++ rest).length =
        (encodeDerLength value.length).length + value.length + 1 +
          rest.length := by
    rw [encodeTlv, List.length_append, List.length_cons, List.length_append]
  have valueBounded : value.length < 2 ^ 32 := by omega
  have restBounded : rest.length < 2 ^ 32 := by omega
  exact
    ⟨parseTlvWithRest_encodeTlv lowTag valueBounded rest, valueBounded,
      restBounded⟩

/-- The same for an element that nothing follows. -/
theorem parse_of_bounded_nil
    {tag : UInt8} {value : Bytes}
    (lowTag : LowTag tag) (bounded : (encodeTlv tag value).length < 2 ^ 32) :
    parseTlvWithRest (encodeTlv tag value) = .ok (tag, value, []) ∧
      value.length < 2 ^ 32 := by
  rw [← List.append_nil (encodeTlv tag value)] at bounded ⊢
  rcases parse_of_bounded lowTag bounded with ⟨parsed, valueBounded, _⟩
  exact ⟨parsed, valueBounded⟩

theorem parseTlv_of_parse
    {data value rest : Bytes} {tag : UInt8}
    (parsed : parseTlvWithRest data = .ok (tag, value, rest)) :
    parseTlv data = .ok (tag, value) :=
  parseTlv_eq_ok_iff.mpr ⟨rest, parsed⟩

/-- A token decodes, and encapsulates some content. -/
def HasEcontent (crates : CmsCrates) (tokenDer : Bytes) (econtent : Any) :
    Prop :=
  ∃ signedData,
    parseSignedData crates tokenDer = .ok signedData ∧
      signedData.encapContentInfo.econtent = some econtent

/-- The elements of a token around its content. -/
theorem exists_octets_of_hasEcontent
    (strict : StrictDecoders crates)
    (hasEcontent : HasEcontent crates tokenDer econtent) :
    LowTag econtent.tag ∧
      tokenDer.length < 2 ^ 32 ∧
      ∃ contentType version digestAlgorithms econtentType following,
        tokenDer =
          encodeTlv 0x30
            (encodeTlv 0x06 contentType ++
              encodeTlv 0xA0
                (encodeTlv 0x30
                  (encodeTlv 0x02 version ++
                    (encodeTlv 0x31 digestAlgorithms ++
                      (encodeTlv 0x30
                          (encodeTlv 0x06 econtentType ++
                            encodeTlv 0xA0
                              (encodeTlv econtent.tag econtent.value)) ++
                        following))))) := by
  rcases hasEcontent with ⟨signedData, parsed, present⟩
  rcases parseSignedData_eq_ok_iff.1 parsed with ⟨ci, decoded, _, signed⟩
  rcases strict.contentInfo decoded with ⟨octets, bounded⟩
  rcases strict.signedData signed with
    ⟨sequence, version, digestAlgorithms, following, body⟩
  refine
    ⟨strict.lowTag signed present, bounded, ci.contentType.body, version,
      digestAlgorithms, signedData.encapContentInfo.econtentType.body,
      following, ?_⟩
  rw [octets, contentInfoOctets, anyOctets, sequence, body,
    encapContentInfoOctets, present]
  rfl

/-- The walk arrives at the content, and asks for an OCTET STRING. -/
theorem extractTstInfo_of_hasEcontent
    (strict : StrictDecoders crates)
    (hasEcontent : HasEcontent crates tokenDer econtent) :
    extractTstInfo crates tokenDer =
      if econtent.tag = 0x04 then parseTstInfoBody crates econtent.value
      else
        .error
          (.invalidResponse
            s!"expected OCTET STRING 0x04 for eContent, got 0x{hexByte econtent.tag}") := by
  rcases exists_octets_of_hasEcontent strict hasEcontent with
    ⟨lowTag, bounded, contentType, version, digestAlgorithms, econtentType,
      following, rfl⟩
  rcases parse_of_bounded_nil (by decide) bounded with
    ⟨contentInfo, bounded⟩
  rcases parse_of_bounded (by decide) bounded with
    ⟨contentTypeRead, _, bounded⟩
  rcases parse_of_bounded_nil (by decide) bounded with ⟨content, bounded⟩
  rcases parse_of_bounded_nil (by decide) bounded with
    ⟨signedData, bounded⟩
  rcases parse_of_bounded (by decide) bounded with
    ⟨versionRead, _, bounded⟩
  rcases parse_of_bounded (by decide) bounded with
    ⟨digestAlgorithmsRead, _, bounded⟩
  rcases parse_of_bounded (by decide) bounded with
    ⟨encapContentInfo, bounded, _⟩
  rcases parse_of_bounded (by decide) bounded with
    ⟨econtentTypeRead, _, bounded⟩
  rcases parse_of_bounded_nil (by decide) bounded with
    ⟨wrapped, bounded⟩
  rcases parse_of_bounded_nil lowTag bounded with ⟨octets, _⟩
  simp only [extractTstInfo, parseTlv_of_parse contentInfo, contentTypeRead,
    content, parseTlv_of_parse signedData, versionRead, digestAlgorithmsRead,
    encapContentInfo, econtentTypeRead, wrapped, octets, mapError_ok, ok_bind,
    ne_eq, not_true_eq_false, rejectIf_false]
  by_cases octetString : econtent.tag = 0x04
  · rw [if_pos octetString]
    simp only [octetString, not_true_eq_false, rejectIf_false, ok_bind]
  · rw [if_neg octetString, rejectIf_true octetString]
    rfl

variable {signatures : Signatures} {expectedHash : Bytes}
variable {digestAlgorithm : DigestAlgorithm} {expectedNonce : Option UInt64}
variable {trustStore : Option TrustStore}
variable {validationTime : Option Der.DateTime}
variable {extraCerts : List Certificate} {info : TstInfo}

/-- What verification returns is parsed from the content, whatever its tag. -/
theorem exists_econtent_of_verifyTimestampToken
    (accepted :
      verifyTimestampToken crates signatures tokenDer expectedHash
          digestAlgorithm expectedNonce trustStore validationTime
          extraCerts = .ok info) :
    ∃ econtent,
      HasEcontent crates tokenDer econtent ∧
        parseTstInfoBody crates econtent.value = .ok info := by
  rcases verifyTimestampToken_eq_ok_iff.1 accepted with
    ⟨verified, authentic, _, _⟩
  rcases authentic_of_verifyTokenCms authentic with
    ⟨signedData, signerInfo, signedAttrs, content, digestAlg, authentic⟩
  rcases authentic.decodes.content with ⟨econtent, present, rfl⟩
  have decoded :=
    parseSignedData_eq_ok_iff.2 authentic.decodes.decoded
  exact ⟨econtent, ⟨signedData, decoded, present⟩, authentic.parsed⟩

end Walk

/--
Parsing a token agrees with verifying it exactly when the content of an
accepted token is an OCTET STRING.
-/
theorem extractTstInfo_verified_iff
    (crates : CmsCrates)
    (strict : StrictDecoders crates)
    (signatures : Signatures)
    (tokenDer expectedHash : Bytes)
    (digestAlgorithm : DigestAlgorithm)
    (expectedNonce : Option UInt64)
    (trustStore : Option TrustStore)
    (validationTime : Option Der.DateTime)
    (extraCerts : List Certificate) :
    (∀ info,
        verifyTimestampToken crates signatures tokenDer expectedHash
            digestAlgorithm expectedNonce trustStore validationTime
            extraCerts = .ok info →
          extractTstInfo crates tokenDer = .ok info) ↔
      ∀ info econtent,
        verifyTimestampToken crates signatures tokenDer expectedHash
            digestAlgorithm expectedNonce trustStore validationTime
            extraCerts = .ok info →
          HasEcontent crates tokenDer econtent → econtent.tag = 0x04 := by
  constructor
  · intro agree info econtent accepted hasEcontent
    have extracted := agree info accepted
    rw [extractTstInfo_of_hasEcontent strict hasEcontent] at extracted
    by_contra otherTag
    rw [if_neg otherTag] at extracted
    cases extracted
  · intro octetString info accepted
    rcases exists_econtent_of_verifyTimestampToken accepted with
      ⟨econtent, hasEcontent, parsed⟩
    rw [extractTstInfo_of_hasEcontent strict hasEcontent,
      if_pos (octetString info econtent accepted hasEcontent)]
    exact parsed

/-! ## A token with another tag -/

section Retagged

open RitspLtv.Tsp.Reference

/-- The content with the tag of a UTF8String; nothing that is signed changes. -/
def retaggedData : SignedData :=
  { signedData with
    encapContentInfo := ⟨idCtTstInfo, some ⟨0x0C, tstInfo⟩⟩ }

/-- A token around some data. -/
def tokenInfo (data : SignedData) : ContentInfo :=
  ⟨idSignedData, signedDataToAny data⟩

/-- The reference token with the other tag. -/
def retaggedToken : Bytes :=
  encodeContentInfo (tokenInfo retaggedData)

/-- The crates, with decoders for the tokens around some data. -/
def cratesFor (known : List SignedData) : CmsCrates :=
  { Reference.crates with
    contentInfoFromDer :=
      RitspLtv.Reference.decodeKnown encodeContentInfo
        (known.map tokenInfo)
    signedDataFromAny := fun value =>
      RitspLtv.Reference.decodeKnown
        (fun data => anyOctets (signedDataToAny data)) known
        (anyOctets value) }

/-- An element that is short enough has only one tag and one value. -/
theorem anyOctets_inj
    {left right : Any}
    (lowTag : LowTag left.tag) (bounded : (anyOctets left).length < 2 ^ 32)
    (same : anyOctets left = anyOctets right) :
    left = right := by
  have sameTag : left.tag = right.tag := (List.cons.inj same).1
  have rightBounded : (anyOctets right).length < 2 ^ 32 := same ▸ bounded
  rcases parse_of_bounded_nil lowTag bounded with ⟨leftRead, _⟩
  rcases parse_of_bounded_nil (sameTag ▸ lowTag) rightBounded with
    ⟨rightRead, _⟩
  rw [anyOctets, anyOctets] at same
  rw [same, rightRead] at leftRead
  cases left
  cases right
  cases leftRead
  rfl

/-- Decoders of known data are strict when the data is short and its tags low. -/
theorem strictDecoders_cratesFor
    {known : List SignedData}
    (short :
      ∀ data ∈ known, (encodeContentInfo (tokenInfo data)).length < 2 ^ 32)
    (lowTags :
      ∀ data ∈ known, ∀ econtent,
        data.encapContentInfo.econtent = some econtent →
          LowTag econtent.tag) :
    StrictDecoders (cratesFor known) := by
  have decodes
      {value : Any} {data : SignedData}
      (decoded : (cratesFor known).signedDataFromAny value = .ok data) :
      data ∈ known ∧ value = signedDataToAny data := by
    rcases RitspLtv.Reference.decodeKnown_eq_ok decoded with ⟨member, same⟩
    have lowTag : LowTag 0x30 := by decide
    have inside :
        (anyOctets (signedDataToAny data)).length ≤
          (encodeContentInfo (tokenInfo data)).length := by
      simp only [encodeContentInfo, encodeSequenceFromParts, tokenInfo,
        RitspLtv.Reference.encodeAny, anyOctets, encodeTlv,
        List.flatten_cons, List.length_cons, List.length_append]
      omega
    have bounded := Nat.lt_of_le_of_lt inside (short data member)
    exact ⟨member, (anyOctets_inj lowTag bounded same).symm⟩
  constructor
  · intro tokenDer ci decoded
    rcases RitspLtv.Reference.decodeKnown_eq_ok decoded with ⟨member, rfl⟩
    rcases List.mem_map.mp member with ⟨data, dataMember, rfl⟩
    refine ⟨?_, short data dataMember⟩
    simp [encodeContentInfo, contentInfoOctets, encodeSequenceFromParts,
      RitspLtv.Reference.encodeOid, RitspLtv.Reference.encodeAny, anyOctets]
  · intro value data decoded
    rcases decodes decoded with ⟨member, rfl⟩
    refine
      ⟨rfl, [3],
        data.signerInfos.flatMap fun signerInfo =>
          RitspLtv.Reference.encodeAlgorithmIdentifier signerInfo.digestAlg,
        RitspLtv.Reference.encodeOptional 0xA0
            (List.flatMap encodeCertificateChoices) data.certificates ++
          encodeTlv 0x31 (data.signerInfos.flatMap encodeSignerInfo),
        ?_⟩
    rw [signedDataToAny, encapContentInfoOctets]
    cases data.encapContentInfo.econtent <;>
      simp [encodeSequenceFromParts, RitspLtv.Reference.encodeOid,
        RitspLtv.Reference.encodeAny, RitspLtv.Reference.encodeOptional,
        anyOctets]
  · intro value data econtent decoded present
    exact lowTags data (decodes decoded).1 econtent present

/-- The reference token is accepted and inspected; the other is only accepted. -/
theorem retaggedToken_differs :
    StrictDecoders (cratesFor [signedData, retaggedData]) ∧
      verifyTimestampToken (cratesFor [signedData, retaggedData])
          RitspLtv.Reference.signatures retaggedToken messageHash .sha256
          (some 42) (some RitspLtv.Reference.rootStore) none [] =
        .ok Reference.parsed ∧
      extractTstInfo (cratesFor [signedData, retaggedData]) retaggedToken =
        .error
          (.invalidResponse
            "expected OCTET STRING 0x04 for eContent, got 0x0c") ∧
      extractTstInfo (cratesFor [signedData, retaggedData]) token =
        .ok Reference.parsed := by
  constructor
  · exact
      strictDecoders_cratesFor (by decide +kernel) (by decide +kernel)
  · decide +kernel

/-- The two paths differ on the token whose content has another tag. -/
theorem extractTstInfo_verified_iff_retagged :
    (∀ info,
        verifyTimestampToken (cratesFor [signedData, retaggedData])
            RitspLtv.Reference.signatures retaggedToken messageHash .sha256
            (some 42) (some RitspLtv.Reference.rootStore) none [] =
            .ok info →
          extractTstInfo (cratesFor [signedData, retaggedData])
            retaggedToken = .ok info) ↔
      ∀ info econtent,
        verifyTimestampToken (cratesFor [signedData, retaggedData])
            RitspLtv.Reference.signatures retaggedToken messageHash .sha256
            (some 42) (some RitspLtv.Reference.rootStore) none [] =
            .ok info →
          HasEcontent (cratesFor [signedData, retaggedData]) retaggedToken
              econtent →
            econtent.tag = 0x04 :=
  extractTstInfo_verified_iff (cratesFor [signedData, retaggedData])
    (strictDecoders_cratesFor (by decide +kernel) (by decide +kernel))
    RitspLtv.Reference.signatures retaggedToken messageHash .sha256
    (some 42) (some RitspLtv.Reference.rootStore) none []

end Retagged

end RitspLtv.Tsp.Extract
