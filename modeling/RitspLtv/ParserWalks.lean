import RitspLtv.Ltv.Crl
import RitspLtv.Ltv.NameConstraints
import RitspLtv.Ltv.OcspResponse
import RitspLtv.Ltv.Urls
import RitspLtv.TlvRoundTrip
import RitspLtv.Tsp.Response
import RitspLtv.Tsp.Token

/-!
# Every parser loop ends

The loops of the parsers go from one element to the next.  Each of them reads
one element per round and goes on behind it, so none of them is ever stopped by
the count that its definition counts down.
-/

namespace RitspLtv.ParserWalks

open RitspLtv.Foundation.Checks
open RitspLtv.Foundation.Consume
open RitspLtv.RustStd
open RitspLtv.DerUtils
open RitspLtv.TlvRoundTrip

/-! ## Loops over an accumulator -/

theorem readsTlv_revokedCertificateStep (crates : Crates) :
    ReadsTlv (Ltv.Crl.revokedCertificateStep crates) := by
  intro state next input rest stepped
  simp only [Ltv.Crl.revokedCertificateStep, bind_eq_ok, mapError_eq_ok,
    rejectIf_eq_ok, exists_const, Prod.exists] at stepped
  rcases stepped with
    ⟨tag, value, after, parsed, _, _, _, _, _, _, _, _, _, _, _, _, stepped⟩
  split at stepped
  · simp only [bind_eq_ok, pure_eq_ok, Prod.mk.injEq] at stepped
    rcases stepped with ⟨_, _, _, rfl⟩
    exact ⟨tag, value, parsed⟩
  · cases stepped
    exact ⟨tag, value, parsed⟩

theorem readsTlv_singleResponseStep (crates : Crates) :
    ReadsTlv (Ltv.OcspResponse.singleResponseStep crates) := by
  intro state next input rest stepped
  simp only [Ltv.OcspResponse.singleResponseStep, bind_eq_ok,
    mapError_eq_ok, Prod.exists] at stepped
  rcases stepped with ⟨tag, value, after, parsed, stepped⟩
  split at stepped
  · simp only [bind_eq_ok, pure_eq_ok, Prod.mk.injEq] at stepped
    rcases stepped with ⟨response, _, _, rfl⟩
    exact ⟨tag, value, parsed⟩
  · cases stepped
    exact ⟨tag, value, parsed⟩

theorem readsTlv_embeddedCertStep :
    ReadsTlv Ltv.OcspResponse.embeddedCertStep := by
  intro state next input rest stepped
  simp only [Ltv.OcspResponse.embeddedCertStep, bind_eq_ok, mapError_eq_ok,
    Prod.exists] at stepped
  rcases stepped with ⟨tag, value, after, parsed, stepped⟩
  split at stepped <;>
    · cases stepped
      exact ⟨tag, value, parsed⟩

theorem readsTlv_aiaStep (target : ObjectIdentifier) :
    ReadsTlv (Ltv.Urls.aiaStep target) := by
  intro state next input rest stepped
  simp only [Ltv.Urls.aiaStep, bind_eq_ok, pure_eq_ok, Prod.exists,
    Prod.mk.injEq] at stepped
  rcases stepped with ⟨tag, value, after, parsed, found, _, _, rfl⟩
  exact ⟨tag, value, parsed⟩

theorem readsTlv_crlDpStep : ReadsTlv Ltv.Urls.crlDpStep := by
  intro state next input rest stepped
  simp only [Ltv.Urls.crlDpStep, bind_eq_ok, pure_eq_ok, Prod.exists,
    Prod.mk.injEq] at stepped
  rcases stepped with ⟨tag, value, after, parsed, _, rfl⟩
  exact ⟨tag, value, parsed⟩

theorem readsTlv_ekuStep (crates : Crates) :
    ReadsTlv (Ltv.X509Ext.ekuStep crates) := by
  intro state next input rest stepped
  simp only [Ltv.X509Ext.ekuStep, bind_eq_ok, mapError_eq_ok,
    rejectIf_eq_ok, exists_const, pure_eq_ok, Prod.exists, Prod.mk.injEq]
    at stepped
  rcases stepped with ⟨tag, value, after, parsed, _, oid, _, _, rfl⟩
  exact ⟨tag, value, parsed⟩

/-! ### Name constraints -/

theorem readsTlv_atvStep : ReadsTlv Ltv.NameConstraints.atvStep := by
  intro state next input rest stepped
  simp only [Ltv.NameConstraints.atvStep, bind_eq_ok, mapError_eq_ok,
    rejectIf_eq_ok, exists_const, pure_eq_ok, Prod.exists, Prod.mk.injEq]
    at stepped
  rcases stepped with
    ⟨tag, value, after, parsed, _, _, _, _, _, _, _, _, _, _, _, _, _, rfl⟩
  exact ⟨tag, value, parsed⟩

theorem readsTlv_rdnStep : ReadsTlv Ltv.NameConstraints.rdnStep := by
  intro state next input rest stepped
  simp only [Ltv.NameConstraints.rdnStep, bind_eq_ok, mapError_eq_ok,
    rejectIf_eq_ok, exists_const, pure_eq_ok, Prod.exists, Prod.mk.injEq]
    at stepped
  rcases stepped with ⟨tag, value, after, parsed, _, _, rfl⟩
  exact ⟨tag, value, parsed⟩

theorem readsTlv_minMaxStep : ReadsTlv Ltv.NameConstraints.minMaxStep := by
  intro state next input rest stepped
  simp only [Ltv.NameConstraints.minMaxStep, bind_eq_ok, mapError_eq_ok,
    Prod.exists] at stepped
  rcases stepped with ⟨tag, value, after, parsed, stepped⟩
  split at stepped
  · simp only [bind_eq_ok, rejectIf_eq_ok, exists_const, pure_eq_ok,
      Prod.mk.injEq] at stepped
    rcases stepped with ⟨_, _, rfl⟩
    exact ⟨tag, value, parsed⟩
  · split at stepped <;> cases stepped

theorem readsTlv_subtreeStep : ReadsTlv Ltv.NameConstraints.subtreeStep := by
  intro state next input rest stepped
  simp only [Ltv.NameConstraints.subtreeStep, bind_eq_ok, mapError_eq_ok,
    rejectIf_eq_ok, exists_const, exists_unit_eq_ok, pure_eq_ok, Prod.exists,
    Prod.mk.injEq] at stepped
  rcases stepped with
    ⟨tag, value, after, parsed, _, _, _, _, _, _, base, _, _, rfl⟩
  exact ⟨tag, value, parsed⟩

theorem readsTlv_fieldStep :
    ReadsTlv Ltv.NameConstraints.NameConstraintState.fieldStep := by
  intro state next input rest stepped
  simp only [Ltv.NameConstraints.NameConstraintState.fieldStep, bind_eq_ok,
    mapError_eq_ok, Prod.exists] at stepped
  rcases stepped with ⟨tag, value, after, parsed, stepped⟩
  split at stepped
  · simp only [bind_eq_ok, pure_eq_ok, Prod.mk.injEq] at stepped
    rcases stepped with ⟨bases, _, _, rfl⟩
    exact ⟨tag, value, parsed⟩
  · split at stepped
    · simp only [bind_eq_ok, pure_eq_ok, Prod.mk.injEq] at stepped
      rcases stepped with ⟨bases, _, _, rfl⟩
      exact ⟨tag, value, parsed⟩
    · cases stepped

theorem readsTlv_sanStep : ReadsTlv Ltv.NameConstraints.sanStep := by
  intro state next input rest stepped
  simp only [Ltv.NameConstraints.sanStep, bind_eq_ok, mapError_eq_ok,
    Prod.exists] at stepped
  rcases stepped with ⟨tag, value, after, parsed, stepped⟩
  split at stepped
  · simp only [bind_eq_ok, pure_eq_ok, Prod.mk.injEq] at stepped
    rcases stepped with ⟨name, _, _, rfl⟩
    exact ⟨tag, value, parsed⟩
  · split at stepped
    · simp only [bind_eq_ok, pure_eq_ok, Prod.mk.injEq] at stepped
      rcases stepped with ⟨name, _, _, rfl⟩
      exact ⟨tag, value, parsed⟩
    · split at stepped
      · simp only [bind_eq_ok, rejectIf_eq_ok, exists_const, pure_eq_ok,
          Prod.mk.injEq] at stepped
        rcases stepped with ⟨_, _, rfl⟩
        exact ⟨tag, value, parsed⟩
      · split at stepped <;>
          · cases stepped
            exact ⟨tag, value, parsed⟩

/-! ### Timestamp tokens -/

/-- A field is one element, and what follows it is what follows the element. -/
theorem follows_of_parseTstField
    {crates : Tsp.Cms.CmsCrates} {input rest : Bytes} {tag : UInt8}
    {context : String} {field : Any}
    (parsed :
      Tsp.Info.parseTstField crates input tag context = .ok (field, rest)) :
    Follows rest input := by
  simp only [Tsp.Info.parseTstField, bind_eq_ok, mapError_eq_ok,
    rejectIf_eq_ok, exists_const, pure_eq_ok, Prod.exists, Prod.mk.injEq]
    at parsed
  rcases parsed with ⟨found, value, after, element, _, _, _, _, rfl⟩
  exact ⟨found, value, element⟩

theorem readsTlv_accuracyStep (crates : Tsp.Cms.CmsCrates) :
    ReadsTlv (Tsp.Info.accuracyStep crates) := by
  intro state next input rest stepped
  simp only [Tsp.Info.accuracyStep, bind_eq_ok, rejectIf_eq_ok,
    exists_const, exists_unit_eq_ok, pure_eq_ok, Prod.exists, Prod.mk.injEq]
    at stepped
  rcases stepped with ⟨rank, _, _, field, after, parsed, _, _, rfl⟩
  exact follows_of_parseTstField parsed

theorem readsTlv_tstExtensionStep (crates : Tsp.Cms.CmsCrates) :
    ReadsTlv (Tsp.Info.tstExtensionStep crates) := by
  intro state next input rest stepped
  simp only [Tsp.Info.tstExtensionStep, bind_eq_ok, mapError_eq_ok,
    rejectIf_eq_ok, exists_const, pure_eq_ok, Prod.exists, Prod.mk.injEq]
    at stepped
  rcases stepped with ⟨field, after, parsed, extension, _, _, _, _, rfl⟩
  exact follows_of_parseTstField parsed

theorem readsTlv_optionalFieldStep (crates : Tsp.Cms.CmsCrates) :
    ReadsTlv (Tsp.Info.optionalFieldStep crates) := by
  intro state next input rest stepped
  simp only [Tsp.Info.optionalFieldStep, bind_eq_ok, rejectIf_eq_ok,
    exists_const, pure_eq_ok, Prod.exists, Prod.mk.injEq] at stepped
  rcases stepped with ⟨rank, context, _, _, field, after, parsed, _, _, _, rfl⟩
  exact follows_of_parseTstField parsed

theorem readsTlv_statusStringStep (crates : Tsp.Response.ResponseCrates) :
    ReadsTlv (Tsp.Response.statusStringStep crates) := by
  intro state next input rest stepped
  simp only [Tsp.Response.statusStringStep, bind_eq_ok, mapError_eq_ok,
    rejectIf_eq_ok, exists_const, pure_eq_ok, Prod.exists, Prod.mk.injEq]
    at stepped
  rcases stepped with ⟨_, field, after, parsed, text, _, _, rfl⟩
  exact follows_of_parseTstField parsed

theorem readsTlv_statusFieldStep (crates : Tsp.Response.ResponseCrates) :
    ReadsTlv (Tsp.Response.statusFieldStep crates) := by
  rintro ⟨statusString, failureInfo⟩ next input rest stepped
  simp only [Tsp.Response.statusFieldStep, bind_eq_ok, Prod.exists]
    at stepped
  rcases stepped with ⟨field, after, parsed, stepped⟩
  have follows := follows_of_parseTstField parsed
  split at stepped
  · simp only [bind_eq_ok, pure_eq_ok, Prod.mk.injEq] at stepped
    rcases stepped with ⟨text, _, _, rfl⟩
    exact follows
  · split at stepped
    · simp only [bind_eq_ok, pure_eq_ok, Prod.mk.injEq] at stepped
      rcases stepped with ⟨bits, _, _, rfl⟩
      exact follows
    · cases stepped

/-! ## Loops that end early -/

theorem extensionsContainOidWithin_eq
    {fuel : Nat} {body targetOid : Bytes}
    (enough : body.length ≤ fuel) :
    Ltv.Crl.extensionsContainOidWithin fuel body targetOid =
      Ltv.Crl.extensionsContainOid body targetOid := by
  apply
    @walk_eq _
      (fun fuel body => Ltv.Crl.extensionsContainOidWithin fuel body targetOid)
      _ _ fuel body.length body enough (Nat.le_refl _)
  · intro fuel other
    cases fuel <;> cases other <;> rfl
  · intro fuel other head tail same
    simp only [Ltv.Crl.extensionsContainOidWithin]
    cases parsed : parseTlvWithRest (head :: tail) with
    | error e => rfl
    | ok element =>
        simp only [ok_bind]
        rw [same element.2.2 ⟨element.1, element.2.1, parsed⟩]

theorem parseRevocationReasonWithin_eq
    {fuel : Nat} {body : Bytes}
    (enough : body.length ≤ fuel) :
    Ltv.Crl.parseRevocationReasonWithin fuel body =
      Ltv.Crl.parseRevocationReasonWithin body.length body := by
  apply walk_eq _ _ enough (Nat.le_refl _)
  · intro fuel other
    cases fuel <;> cases other <;> rfl
  · intro fuel other head tail same
    simp only [Ltv.Crl.parseRevocationReasonWithin]
    cases parsed : parseTlvWithRest (head :: tail) with
    | error e => rfl
    | ok element =>
        simp only
        rw [same element.2.2 ⟨element.1, element.2.1, parsed⟩]

theorem generalNameUrisWithin_eq
    {fuel : Nat} {body : Bytes}
    (enough : body.length ≤ fuel) :
    Ltv.Urls.generalNameUrisWithin fuel body =
      Ltv.Urls.generalNameUrisWithin body.length body := by
  apply walk_eq _ _ enough (Nat.le_refl _)
  · intro fuel other
    cases fuel <;> cases other <;> rfl
  · intro fuel other head tail same
    simp only [Ltv.Urls.generalNameUrisWithin]
    cases parsed : parseTlvWithRest (head :: tail) with
    | error e => rfl
    | ok element =>
        simp only
        rw [same element.2.2 ⟨element.1, element.2.1, parsed⟩]

theorem checkTsaField_eq
    {crates : Tsp.Cms.CmsCrates} {signer : Certificate} {fuel : Nat}
    {body : Bytes} (enough : body.length ≤ fuel) :
    Tsp.Token.checkTsaField crates signer fuel body =
      Tsp.Token.checkTsaField crates signer body.length body := by
  apply walk_eq _ _ enough (Nat.le_refl _)
  · intro fuel other
    cases fuel <;> cases other <;> rfl
  · intro fuel other head tail same
    simp only [Tsp.Token.checkTsaField]
    cases parsed :
        Tsp.Info.parseTstField crates (head :: tail) head
          "TSTInfo identity" with
    | error e => rfl
    | ok field =>
        simp only [ok_bind]
        rw [same field.2 (follows_of_parseTstField parsed)]

/-! ## Both directions, and every loop -/

/-- No loop of a parser is ended by its count. -/
structure LoopsEnd (crates : Crates) (cmsCrates : Tsp.Cms.CmsCrates) :
    Prop where
  revokedCertificates : ReadsTlv (Ltv.Crl.revokedCertificateStep crates)
  singleResponses : ReadsTlv (Ltv.OcspResponse.singleResponseStep crates)
  embeddedCerts : ReadsTlv Ltv.OcspResponse.embeddedCertStep
  accessDescriptions : ∀ target, ReadsTlv (Ltv.Urls.aiaStep target)
  distributionPoints : ReadsTlv Ltv.Urls.crlDpStep
  keyPurposes : ReadsTlv (Ltv.X509Ext.ekuStep crates)
  attributes : ReadsTlv Ltv.NameConstraints.atvStep
  distinguishedNames : ReadsTlv Ltv.NameConstraints.rdnStep
  minMax : ReadsTlv Ltv.NameConstraints.minMaxStep
  subtrees : ReadsTlv Ltv.NameConstraints.subtreeStep
  nameConstraints : ReadsTlv Ltv.NameConstraints.NameConstraintState.fieldStep
  alternativeNames : ReadsTlv Ltv.NameConstraints.sanStep
  accuracy : ReadsTlv (Tsp.Info.accuracyStep cmsCrates)
  tstExtensions : ReadsTlv (Tsp.Info.tstExtensionStep cmsCrates)
  optionalFields : ReadsTlv (Tsp.Info.optionalFieldStep cmsCrates)
  statusTexts :
    ∀ responseCrates, ReadsTlv (Tsp.Response.statusStringStep responseCrates)
  statusFields :
    ∀ responseCrates, ReadsTlv (Tsp.Response.statusFieldStep responseCrates)
  crlExtensions :
    ∀ fuel body targetOid, body.length ≤ fuel →
      Ltv.Crl.extensionsContainOidWithin fuel body targetOid =
        Ltv.Crl.extensionsContainOid body targetOid
  revocationReasons :
    ∀ fuel body, body.length ≤ fuel →
      Ltv.Crl.parseRevocationReasonWithin fuel body =
        Ltv.Crl.parseRevocationReasonWithin body.length body
  generalNames :
    ∀ fuel body, body.length ≤ fuel →
      Ltv.Urls.generalNameUrisWithin fuel body =
        Ltv.Urls.generalNameUrisWithin body.length body
  tsaFields :
    ∀ signer fuel body, body.length ≤ fuel →
      Tsp.Token.checkTsaField cmsCrates signer fuel body =
        Tsp.Token.checkTsaField cmsCrates signer body.length body

/--
Encoding and reading an element are inverse, in both directions; so an element
has one encoding, and a walk over elements ends: the two of the utilities, every
loop that reads an element per round, and those of the parsers in particular.
-/
theorem parseTlvWithRest_encodeTlv_inverse :
    (∀ tag value rest, LowTag tag → value.length < 2 ^ 32 →
        parseTlvWithRest (encodeTlv tag value ++ rest) =
          .ok (tag, value, rest)) ∧
      (∀ data tag value rest,
        parseTlvWithRest data = .ok (tag, value, rest) →
          data = encodeTlv tag value ++ rest ∧
            rest.length < data.length ∧
            ∀ other, parseTlvWithRest other = .ok (tag, value, rest) →
              other = data) ∧
      WellFounded Follows ∧
      (∀ body targetTag,
        findTaggedValue body targetTag =
          match parseTlvWithRest body with
          | .error _ => none
          | .ok (tag, value, rest) =>
              if tag = targetTag then some value
              else findTaggedValue rest targetTag) ∧
      (∀ (σ : Type) (f : σ → UInt8 → Bytes → σ) state body,
        forEachTlv f state body =
          match parseTlvWithRest body with
          | .error _ => state
          | .ok (tag, value, rest) => forEachTlv f (f state tag value) rest) ∧
      (∀ (ε σ : Type) (step : Step ε σ UInt8), ReadsTlv step →
        ∀ fuel state input, input.length ≤ fuel →
          consumeWithin step fuel state input = consume step state input) ∧
      ∀ crates cmsCrates, LoopsEnd crates cmsCrates := by
  refine
    ⟨?_, ?_, wellFounded_follows, findTaggedValue_eq, ?_, ?_, ?_⟩
  · intro tag value rest lowTag bounded
    exact parseTlvWithRest_encodeTlv lowTag bounded rest
  · intro data tag value rest parsed
    refine
      ⟨eq_encodeTlv_of_parse parsed, parseTlvWithRest_shrinks parsed, ?_⟩
    intro other otherParsed
    rw [eq_encodeTlv_of_parse parsed, eq_encodeTlv_of_parse otherParsed]
  · intro σ f state body
    exact forEachTlv_eq f state body
  · intro ε σ step reads fuel state input enough
    exact consumeWithin_eq_consume reads.shrinks enough
  · intro crates cmsCrates
    constructor
    · exact readsTlv_revokedCertificateStep crates
    · exact readsTlv_singleResponseStep crates
    · exact readsTlv_embeddedCertStep
    · exact readsTlv_aiaStep
    · exact readsTlv_crlDpStep
    · exact readsTlv_ekuStep crates
    · exact readsTlv_atvStep
    · exact readsTlv_rdnStep
    · exact readsTlv_minMaxStep
    · exact readsTlv_subtreeStep
    · exact readsTlv_fieldStep
    · exact readsTlv_sanStep
    · exact readsTlv_accuracyStep cmsCrates
    · exact readsTlv_tstExtensionStep cmsCrates
    · exact readsTlv_optionalFieldStep cmsCrates
    · exact readsTlv_statusStringStep
    · exact readsTlv_statusFieldStep
    · intro fuel body targetOid
      exact extensionsContainOidWithin_eq
    · intro fuel body
      exact parseRevocationReasonWithin_eq
    · intro fuel body
      exact generalNameUrisWithin_eq
    · intro signer fuel body
      exact checkTsaField_eq

end RitspLtv.ParserWalks
