import RitspLtv.Tsp.Token

/-!
# Climbed chains

The chains that a signer can be given.  At each certificate the issuer is
looked for among the token's own certificates and those supplied with it, of
which nobody fixes the order.  Which certificate becomes the issuer in some
order is described here, and so are the chains that come of it: every chain
that is built may be climbed, and every chain that may be climbed is built when
what it climbs is supplied in front.
-/

namespace RitspLtv.Tsp.ClimbedChains

open RitspLtv.Crypto.Verify
open RitspLtv.Tsp.Token

/-- The rest of the candidates are what a bag adds to the token's own. -/
structure Enumerates (own bag rest : List Certificate) : Prop where
  inside : ∀ cert ∈ rest, cert ∈ bag
  covers : ∀ cert ∈ bag, cert ∈ own ∨ cert ∈ rest

/-! ## What may be climbed -/

variable (signatures : Signatures) (policy : SignaturePolicy)
variable (own bag : List Certificate)

/--
A certificate that becomes the issuer in some order of a bag: the first of the
token's own that verifies, else any of the bag that does; and, if none does, the
first of the token's own that has the name, else any of the bag that has it.
-/
inductive MayIssue (chain : List Certificate) (current : Certificate) :
    Certificate → Prop where
  | own {next : Certificate}
      (found :
        (issuerCandidates own chain current).find?
            (fun cert =>
              (signatures.verifyCertificateSignatureWithPolicy current cert
                policy).isOk) =
          some next) :
      MayIssue chain current next
  | supplied {next : Certificate}
      (noOwn :
        ∀ cert ∈ issuerCandidates own chain current,
          ¬ signatures.SigOk policy current cert)
      (candidate : next ∈ issuerCandidates bag chain current)
      (signed : signatures.SigOk policy current next) :
      MayIssue chain current next
  | ownByName {next : Certificate}
      (noneVerifies :
        ∀ cert ∈ issuerCandidates (own ++ bag) chain current,
          ¬ signatures.SigOk policy current cert)
      (first : (issuerCandidates own chain current).head? = some next) :
      MayIssue chain current next
  | suppliedByName {next : Certificate}
      (noneVerifies :
        ∀ cert ∈ issuerCandidates (own ++ bag) chain current,
          ¬ signatures.SigOk policy current cert)
      (noOwn : issuerCandidates own chain current = [])
      (candidate : next ∈ issuerCandidates bag chain current) :
      MayIssue chain current next

/--
What may be climbed in at most `steps` steps behind a chain that ends in
`current`: up to a self-issued certificate, or one whose issuer is nowhere.
-/
inductive Climbs :
    Nat → List Certificate → Certificate → List Certificate → Prop where
  | spent (chain : List Certificate) (current : Certificate) :
      Climbs 0 chain current []
  | selfIssued {steps : Nat} {chain : List Certificate}
      {current : Certificate}
      (selfIssued :
        current.tbsCertificate.issuer = current.tbsCertificate.subject) :
      Climbs steps chain current []
  | noIssuer {steps : Nat} {chain : List Certificate} {current : Certificate}
      (none : issuerCandidates (own ++ bag) chain current = []) :
      Climbs steps chain current []
  | step {steps : Nat} {chain tail : List Certificate}
      {current next : Certificate}
      (notSelfIssued :
        current.tbsCertificate.issuer ≠ current.tbsCertificate.subject)
      (issues :
        MayIssue signatures policy own bag chain current next)
      (later : Climbs steps (chain ++ [next]) next tail) :
      Climbs (steps + 1) chain current (next :: tail)

variable {signatures} {policy} {own} {bag}
variable {rest chain tail used : List Certificate}
variable {current next cert : Certificate} {steps : Nat}

theorem mem_issuerCandidates_iff
    {embedded : List Certificate} :
    cert ∈ issuerCandidates embedded chain current ↔
      cert ∈ embedded ∧
        cert.tbsCertificate.subject = current.tbsCertificate.issuer ∧
        ∀ existing ∈ chain,
          existing.tbsCertificate ≠ cert.tbsCertificate := by
  simp [issuerCandidates, List.mem_filter]

theorem issuerCandidates_append
    (embedded rest chain : List Certificate)
    (current : Certificate) :
    issuerCandidates (embedded ++ rest) chain current =
      issuerCandidates embedded chain current ++
        issuerCandidates rest chain current :=
  List.filter_append embedded rest

/-- Certificates of the chain are no candidates. -/
theorem issuerCandidates_of_subset
    (inChain : ∀ cert ∈ used, cert ∈ chain) :
    issuerCandidates used chain current = [] := by
  rw [List.eq_nil_iff_forall_not_mem]
  intro cert member
  rw [mem_issuerCandidates_iff] at member
  exact member.2.2 cert (inChain cert member.1) rfl

theorem issuerCandidates_mono
    {embedded : List Certificate}
    (inside : ∀ cert ∈ rest, cert ∈ embedded)
    (member : cert ∈ issuerCandidates rest chain current) :
    cert ∈ issuerCandidates embedded chain current := by
  rw [mem_issuerCandidates_iff] at member ⊢
  exact ⟨inside cert member.1, member.2⟩

theorem isOk_iff_sigOk :
    (signatures.verifyCertificateSignatureWithPolicy current cert
        policy).isOk = true ↔
      signatures.SigOk policy current cert := by
  rw [Signatures.SigOk]
  cases
    signatures.verifyCertificateSignatureWithPolicy current cert policy with
  | error e => simp [Except.isOk, Except.toBool]
  | ok done => simp [Except.isOk, Except.toBool]

/-- None verifies, so the search for one that does finds nothing. -/
theorem find?_eq_none_of_not_sigOk
    {candidates : List Certificate}
    (noneVerifies :
      ∀ cert ∈ candidates, ¬ signatures.SigOk policy current cert) :
    candidates.find?
        (fun cert =>
          (signatures.verifyCertificateSignatureWithPolicy current cert
            policy).isOk) =
      none := by
  rw [List.find?_eq_none]
  intro cert member isOk
  exact noneVerifies cert member (isOk_iff_sigOk.mp isOk)

theorem not_sigOk_of_find?_eq_none
    {candidates : List Certificate}
    (none :
      candidates.find?
          (fun cert =>
            (signatures.verifyCertificateSignatureWithPolicy current cert
              policy).isOk) =
        none) :
    ∀ cert ∈ candidates, ¬ signatures.SigOk policy current cert := by
  intro cert member signed
  exact List.find?_eq_none.mp none cert member (isOk_iff_sigOk.mpr signed)

/-! ## What is built is climbed -/

/-- The issuer that is chosen among the candidates is one that may be. -/
theorem mayIssue_of_chooseIssuer
    (enumerates : Enumerates own bag rest)
    (chosen :
      chooseIssuer signatures policy current
          (issuerCandidates (own ++ rest) chain current) = some next) :
    MayIssue signatures policy own bag chain current next := by
  rw [issuerCandidates_append, chooseIssuer, List.find?_append,
    Option.or_assoc, Option.or_eq_some_iff] at chosen
  rcases chosen with found | ⟨noOwn, chosen⟩
  · exact .own found
  · have ownFail := not_sigOk_of_find?_eq_none noOwn
    rw [Option.or_eq_some_iff] at chosen
    rcases chosen with found | ⟨noRest, first⟩
    · have member := List.mem_of_find?_eq_some found
      have isOk := List.find?_some found
      exact
        .supplied ownFail (issuerCandidates_mono enumerates.inside member)
          (isOk_iff_sigOk.mp isOk)
    · have restFail := not_sigOk_of_find?_eq_none noRest
      have noneVerifies :
          ∀ cert ∈ issuerCandidates (own ++ bag) chain current,
            ¬ signatures.SigOk policy current cert := by
        intro cert member
        rw [mem_issuerCandidates_iff, List.mem_append] at member
        rcases member with ⟨isOwn | inBag, candidate⟩
        · exact ownFail cert (mem_issuerCandidates_iff.mpr ⟨isOwn, candidate⟩)
        · rcases enumerates.covers cert inBag with isOwn | inRest
          · exact
              ownFail cert (mem_issuerCandidates_iff.mpr ⟨isOwn, candidate⟩)
          · exact
              restFail cert (mem_issuerCandidates_iff.mpr ⟨inRest, candidate⟩)
      cases isOwn : issuerCandidates own chain current with
      | nil =>
          rw [isOwn, List.nil_append] at first
          exact
            .suppliedByName noneVerifies isOwn
              (issuerCandidates_mono enumerates.inside
                (List.mem_of_head? first))
      | cons head others =>
          rw [isOwn, List.cons_append, List.head?_cons] at first
          refine .ownByName noneVerifies ?_
          rw [isOwn, List.head?_cons, first]

theorem chooseIssuer_eq_none_iff
    {candidates : List Certificate} :
    chooseIssuer signatures policy current candidates = none ↔
      candidates = [] := by
  rw [chooseIssuer, Option.or_eq_none_iff, List.head?_eq_none_iff]
  constructor
  · exact And.right
  · rintro rfl
    exact ⟨rfl, rfl⟩

/-- Whatever the order of a bag, the chain that is built may be climbed. -/
theorem exists_climbs_extendChain
    (enumerates : Enumerates own bag rest)
    (steps : Nat)
    (chain : List Certificate)
    (current : Certificate) :
    ∃ tail,
      Climbs signatures policy own bag steps chain current tail ∧
        extendChain signatures policy (own ++ rest) steps chain current =
          chain ++ tail := by
  induction steps generalizing chain current with
  | zero =>
      exact ⟨[], .spent chain current, (List.append_nil chain).symm⟩
  | succ steps induction =>
      rw [extendChain]
      split
      · next selfIssued =>
          exact ⟨[], .selfIssued selfIssued, (List.append_nil chain).symm⟩
      · next notSelfIssued =>
          split
          · next none =>
              rw [chooseIssuer_eq_none_iff] at none
              refine ⟨[], .noIssuer ?_, (List.append_nil chain).symm⟩
              rw [List.eq_nil_iff_forall_not_mem] at none ⊢
              intro cert member
              apply none cert
              apply issuerCandidates_mono _ member
              intro cert member
              rw [List.mem_append] at member ⊢
              exact member.elim .inl (enumerates.covers cert)
          · next next chosen =>
              rcases induction (chain ++ [next]) next with
                ⟨tail, climbs, extended⟩
              refine
                ⟨next :: tail,
                  .step notSelfIssued
                    (mayIssue_of_chooseIssuer enumerates chosen) climbs, ?_⟩
              rw [extended, List.append_assoc, List.singleton_append]

/-! ## What may be climbed is built -/

/-- An issuer is a candidate, of the token or of the bag. -/
theorem MayIssue.candidate
    (issues : MayIssue signatures policy own bag chain current next) :
    next ∈ issuerCandidates (own ++ bag) chain current := by
  rw [issuerCandidates_append, List.mem_append]
  cases issues with
  | own found => exact .inl (List.mem_of_find?_eq_some found)
  | supplied _ candidate _ => exact .inr candidate
  | ownByName _ first => exact .inl (List.mem_of_head? first)
  | suppliedByName _ _ candidate => exact .inr candidate

/-- What is climbed is new to the chain, without repetition. -/
theorem Climbs.fresh
    (climbs : Climbs signatures policy own bag steps chain current tail) :
    tail.Nodup ∧
      ∀ cert ∈ tail, cert ∉ chain ∧ (cert ∈ own ∨ cert ∈ bag) := by
  induction climbs with
  | spent chain current => simp
  | selfIssued selfIssued => simp
  | noIssuer none => simp
  | @step steps chain tail current next notSelfIssued issues later induction =>
      rcases induction with ⟨nodup, fresh⟩
      have candidate := mem_issuerCandidates_iff.mp issues.candidate
      have notInTail : next ∉ tail := by
        intro member
        exact (fresh next member).1 List.mem_concat_self
      refine ⟨List.nodup_cons.mpr ⟨notInTail, nodup⟩, ?_⟩
      rw [List.forall_mem_cons]
      constructor
      · refine ⟨?_, List.mem_append.mp candidate.1⟩
        intro member
        exact candidate.2.2 next member rfl
      · intro cert member
        rcases fresh cert member with ⟨notIn, source⟩
        exact ⟨fun inside => notIn (List.mem_append_left [next] inside), source⟩

/-- What is climbed of the bag is new, and not the token's own. -/
theorem Climbs.of_bag
    (climbs : Climbs signatures policy own bag steps chain current tail) :
    (tail.filter fun cert => cert ∉ own).Nodup ∧
      ∀ cert ∈ tail.filter fun cert => cert ∉ own,
        cert ∉ chain ∧ cert ∉ own ∧ cert ∈ bag := by
  rcases climbs.fresh with ⟨nodup, fresh⟩
  refine ⟨nodup.filter _, ?_⟩
  intro cert member
  rcases List.mem_filter.mp member with ⟨inTail, outside⟩
  have notOwn : cert ∉ own := by simpa using outside
  rcases fresh cert inTail with ⟨notIn, source⟩
  exact ⟨notIn, notOwn, source.resolve_left notOwn⟩

/-- The candidates with what is climbed in front of the rest of the bag. -/
def arranged (own used tail rest : List Certificate) : List Certificate :=
  own ++ (used ++ tail.filter fun cert => cert ∉ own) ++ rest

/-- What has been climbed is no candidate any more. -/
theorem issuerCandidates_arranged
    (usedBefore : ∀ cert ∈ used, cert ∈ chain) :
    issuerCandidates (arranged own used tail rest) chain current =
      issuerCandidates own chain current ++
        (issuerCandidates (tail.filter fun cert => cert ∉ own) chain current ++
          issuerCandidates rest chain current) := by
  simp only [arranged, issuerCandidates_append,
    issuerCandidates_of_subset usedBefore, List.nil_append, List.append_assoc]

/-- What is left to choose from is the token's own, or in the bag. -/
theorem mem_issuerCandidates_of_arranged
    (usedBefore : ∀ cert ∈ used, cert ∈ chain)
    (inside : ∀ cert ∈ rest, cert ∈ bag)
    (tailInside : ∀ cert ∈ tail, cert ∈ own ∨ cert ∈ bag)
    (member :
      cert ∈ issuerCandidates (arranged own used tail rest) chain current) :
    cert ∈ issuerCandidates (own ++ bag) chain current := by
  rw [issuerCandidates_arranged usedBefore, List.mem_append,
    List.mem_append] at member
  rw [mem_issuerCandidates_iff, List.mem_append]
  rcases member with isOwn | ahead | later
  · rw [mem_issuerCandidates_iff] at isOwn
    exact ⟨.inl isOwn.1, isOwn.2⟩
  · rw [mem_issuerCandidates_iff, List.mem_filter] at ahead
    exact ⟨tailInside cert ahead.1.1, ahead.2⟩
  · rw [mem_issuerCandidates_iff] at later
    exact ⟨.inr (inside cert later.1), later.2⟩

/-- A candidate that the token does not hold is the first that is climbed. -/
theorem exists_issuerCandidates_ahead
    (notOwn : next ∉ own)
    (candidate : next ∈ issuerCandidates bag chain current) :
    ∃ others,
      issuerCandidates ((next :: tail).filter fun cert => cert ∉ own) chain
          current =
        next :: others := by
  rw [mem_issuerCandidates_iff] at candidate
  have isCandidate : next ∈ issuerCandidates [next] chain current :=
    mem_issuerCandidates_iff.mpr
      ⟨List.mem_singleton_self next, candidate.2⟩
  have alone : issuerCandidates [next] chain current = [next] := by
    rw [issuerCandidates, List.filter_eq_self]
    intro cert member
    rw [List.mem_singleton.mp member]
    exact (List.mem_filter.mp isCandidate).2
  refine
    ⟨issuerCandidates (tail.filter fun cert => cert ∉ own) chain current, ?_⟩
  rw [List.filter_cons_of_pos (by simpa using notOwn),
    ← List.singleton_append, issuerCandidates_append, alone,
    List.singleton_append]

/-- A candidate that is none of the token's candidates is not its own. -/
theorem not_mem_own_of_candidate
    (candidate : next ∈ issuerCandidates bag chain current)
    (notCandidate : next ∉ issuerCandidates own chain current) :
    next ∉ own := by
  rw [mem_issuerCandidates_iff] at candidate notCandidate
  intro isOwn
  exact notCandidate ⟨isOwn, candidate.2⟩

/-- The issuer that is chosen of the arranged candidates is the climb's. -/
theorem chooseIssuer_of_mayIssue
    (issues : MayIssue signatures policy own bag chain current next)
    (usedBefore : ∀ cert ∈ used, cert ∈ chain)
    (inside : ∀ cert ∈ rest, cert ∈ bag)
    (tailInside : ∀ cert ∈ tail, cert ∈ own ∨ cert ∈ bag) :
    chooseIssuer signatures policy current
        (issuerCandidates (arranged own used (next :: tail) rest) chain
          current) =
      some next := by
  have withNext : ∀ cert ∈ next :: tail, cert ∈ own ∨ cert ∈ bag := by
    rw [List.forall_mem_cons]
    refine ⟨?_, tailInside⟩
    exact List.mem_append.mp (mem_issuerCandidates_iff.mp issues.candidate).1
  have split :=
    @issuerCandidates_arranged own rest chain (next :: tail) used current
      usedBefore
  have noneFound
      (noneVerifies :
        ∀ cert ∈ issuerCandidates (own ++ bag) chain current,
          ¬ signatures.SigOk policy current cert) :=
    find?_eq_none_of_not_sigOk fun cert member =>
      noneVerifies cert
        (mem_issuerCandidates_of_arranged usedBefore inside withNext member)
  rw [chooseIssuer]
  cases issues with
  | own found =>
      rw [split, List.find?_append, found]
      rfl
  | supplied noOwn candidate signed =>
      have notOwn :=
        not_mem_own_of_candidate candidate fun isOwn =>
          noOwn next isOwn signed
      rcases
        @exists_issuerCandidates_ahead own bag chain tail current next notOwn
          candidate with
        ⟨others, isAhead⟩
      rw [split, List.find?_append, find?_eq_none_of_not_sigOk noOwn,
        Option.none_or, isAhead, List.cons_append, List.find?_cons,
        isOk_iff_sigOk.mpr signed]
      rfl
  | ownByName noneVerifies first =>
      rw [noneFound noneVerifies, Option.none_or, split, List.head?_append,
        first]
      rfl
  | suppliedByName noneVerifies noOwn candidate =>
      have notCandidate : next ∉ issuerCandidates own chain current := by
        rw [noOwn]
        exact List.not_mem_nil
      have notOwn := not_mem_own_of_candidate candidate notCandidate
      rcases
        @exists_issuerCandidates_ahead own bag chain tail current next notOwn
          candidate with
        ⟨others, isAhead⟩
      rw [noneFound noneVerifies, Option.none_or, split, noOwn, isAhead]
      rfl

/-- What has been climbed now is in front of the bag as it was before. -/
theorem exists_arranged_cons
    (usedBefore : ∀ cert ∈ used, cert ∈ chain) :
    ∃ usedNow,
      (∀ cert ∈ usedNow, cert ∈ chain ++ [next]) ∧
        arranged own used (next :: tail) rest =
          arranged own usedNow tail rest := by
  by_cases isOwn : next ∈ own
  · refine ⟨used, ?_, ?_⟩
    · intro cert member
      exact List.mem_append_left [next] (usedBefore cert member)
    · rw [arranged, List.filter_cons_of_neg (by simpa using isOwn), arranged]
  · refine ⟨used ++ [next], ?_, ?_⟩
    · intro cert member
      rcases List.mem_append.mp member with before | isNext
      · exact List.mem_append_left [next] (usedBefore cert before)
      · exact List.mem_append_right chain isNext
    · rw [arranged, List.filter_cons_of_pos (by simpa using isOwn), arranged,
        List.append_assoc used, List.singleton_append]

/-- With what is climbed in front of the bag, it is what is built. -/
theorem extendChain_of_climbs
    (climbs : Climbs signatures policy own bag steps chain current tail)
    (usedBefore : ∀ cert ∈ used, cert ∈ chain)
    (inside : ∀ cert ∈ rest, cert ∈ bag) :
    extendChain signatures policy (arranged own used tail rest) steps chain
        current =
      chain ++ tail := by
  induction climbs generalizing used with
  | spent chain current => exact (List.append_nil chain).symm
  | @selfIssued steps chain current selfIssued =>
      cases steps with
      | zero => exact (List.append_nil chain).symm
      | succ steps =>
          rw [extendChain, if_pos selfIssued, List.append_nil]
  | @noIssuer steps chain current none =>
      cases steps with
      | zero => exact (List.append_nil chain).symm
      | succ steps =>
          have noCandidate :
              chooseIssuer signatures policy current
                  (issuerCandidates (arranged own used [] rest) chain
                    current) =
                Option.none := by
            rw [chooseIssuer_eq_none_iff, List.eq_nil_iff_forall_not_mem]
            intro cert member
            have within :=
              mem_issuerCandidates_of_arranged usedBefore inside
                (List.forall_mem_nil _) member
            rw [none] at within
            cases within
          rw [extendChain, noCandidate, List.append_nil, ite_self]
  | @step steps chain tail current next notSelfIssued issues later induction =>
      rcases
        @exists_arranged_cons own rest chain tail used next usedBefore with
        ⟨usedNow, usedNowBefore, same⟩
      have chosen :=
        chooseIssuer_of_mayIssue issues usedBefore inside
          fun cert member => (later.fresh.2 cert member).2
      rw [extendChain, if_neg notSelfIssued, chosen]
      simp only
      rw [same, induction usedNowBefore, List.append_assoc,
        List.singleton_append]

end RitspLtv.Tsp.ClimbedChains
