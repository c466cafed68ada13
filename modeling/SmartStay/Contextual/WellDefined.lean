import SmartStay.Contextual.StayValue

/-!
# When the value of stays is well defined

1. `candidateIssues_nil`, `validate_evaluated`: what is evaluated is valid.
2. `AddsUnusable`, `shownScores_eq`: evidence that is not usable changes no score.
3. `WellDefined`, `stayValue_wellDefined_iff`.
-/

namespace SmartStay.Contextual

open Contract JsSort

variable {rt : Runtime} {context : StayContext} {candidate candidate' : CandidateInput}

/-! ## 1. Validation -/

theorem issueIf_false {issue : String} : issueIf false issue = [] := rfl

theorem location_unavailable
    (h : (evaluateLocation rt context candidate).status = .unavailable) :
    (evaluateLocation rt context candidate).locationScore = none ∧
      (evaluateLocation rt context candidate).weightedTravelTimeMinutes = none := by
  unfold evaluateLocation at h ⊢
  split at h
  · exact ⟨rfl, rfl⟩
  · cases h

theorem convenience_notUsable (h : (evaluateConvenience rt candidate).status ≠ .usable) :
    (evaluateConvenience rt candidate).convenienceIndex = none ∧
      (evaluateConvenience rt candidate).decisionFrictionScore = none := by
  unfold evaluateConvenience at h ⊢
  dsimp only at h ⊢
  split at h
  · next hcount =>
    rw [if_pos hcount]
    exact ⟨rfl, rfl⟩
  · exact absurd rfl h

theorem finiteIfAny_map {x : Option ℚ} : FiniteIfAny (x.map .finite) := by
  intro y hy
  obtain ⟨q, -, rfl⟩ := Option.map_eq_some_iff.mp hy
  rfl

theorem validatedNumbers_finite {found : CandidateEvaluation}
    (h : ∀ number ∈ quotients found.toCandidateFindings, FiniteIfAny number) :
    (validatedNumbers found).any (fun value => !value.isFinite) = false := by
  simp only [quotients, List.forall_mem_cons, List.not_mem_nil, false_implies, implies_true,
    and_true] at h
  obtain ⟨hminutes, hlocation, hprotection, hindex, hfriction⟩ := h
  have hall : ∀ number ∈ [found.location.weightedTravelTimeMinutes, found.location.locationScore,
      found.roomUpgrade.premiumRatio.map .finite,
      found.roomUpgrade.maximumPremiumRatio.map .finite,
      found.flexibility.cancellationProtectionScore, found.convenience.convenienceIndex,
      found.convenience.decisionFrictionScore], FiniteIfAny number := by
    simp only [List.forall_mem_cons]
    exact ⟨hminutes, hlocation, finiteIfAny_map, finiteIfAny_map, hprotection, hindex, hfriction,
      List.forall_mem_nil _⟩
  rw [List.any_eq_false]
  intro x hx
  obtain ⟨number, hnumber, hsome⟩ := List.mem_filterMap.mp hx
  simp [hall number hnumber x hsome]

/-- A candidate that was evaluated has no issues. -/
theorem candidateIssues_nil {found : CandidateEvaluation}
    (h : evaluateCandidate rt context candidate = .ok found) :
    candidateIssues rt found = .ok [] := by
  have hpaid := evaluateCandidate_exists.mp ⟨found, h⟩
  obtain ⟨heq, hfingerprint⟩ := evaluateCandidate_ok.mp h
  have hnumbers : (validatedNumbers found).any (fun value => !value.isFinite) = false :=
    validatedNumbers_finite (heq ▸ quotients_finite hpaid)
  have hlocation : (found.location.status = .unavailable && (found.location.locationScore.isSome ||
      found.location.weightedTravelTimeMinutes.isSome)) = false := by
    by_cases hstatus : found.location.status = .unavailable
    · have hnone := @location_unavailable rt context candidate
      rw [show evaluateLocation rt context candidate = found.location by rw [heq]; rfl] at hnone
      simp [hnone hstatus]
    · simp [hstatus]
  have hconvenience : (found.convenience.status ≠ .usable &&
      (found.convenience.convenienceIndex.isSome ||
        found.convenience.decisionFrictionScore.isSome)) = false := by
    by_cases hstatus : found.convenience.status = .usable
    · simp [hstatus]
    · have hnone := @convenience_notUsable rt candidate
      rw [show evaluateConvenience rt candidate = found.convenience by rw [heq]; rfl] at hnone
      simp [hnone hstatus]
  unfold candidateIssues
  refine Fallible.bind_ok.mpr ⟨found.fingerprint, hfingerprint, ?_⟩
  rw [hnumbers, hlocation, hconvenience]
  simp [issueIf, pure, Except.pure]

theorem isStableHash_hashValue {value : Value} {namespaceName fingerprint : String}
    (h : hashValue rt value namespaceName = .ok fingerprint) : isStableHash fingerprint = true := by
  obtain ⟨json, -, hhash⟩ := Fallible.bind_ok.mp h
  cases hhash
  exact isStableHash_createStableHash rt json namespaceName

theorem evaluated_ids {input : StayValueInput} {evaluation : StayValueEvaluation}
    (h : evaluateContextualStayValue rt input = .ok evaluation) :
    (evaluation.candidates.map fun found => found.hotelId).Perm
      (input.candidates.map CandidateInput.hotelId) := by
  have hids : evaluation.candidates.map (fun found => found.hotelId) =
      (sortedCandidates rt input).map CandidateInput.hotelId :=
    Fallible.mapM_map_eq (fun candidate _ found hfound => by
      rw [(evaluateCandidate_ok.mp hfound).1]
      rfl) (evaluate_ok.mp h).1
  rw [hids]
  exact (sortBy_perm _ _).map _

/-- What is evaluated of candidates with ids of their own is valid. -/
theorem validate_evaluated {input : StayValueInput} {evaluation : StayValueEvaluation}
    (hids : (input.candidates.map CandidateInput.hotelId).Nodup)
    (hblank : ∀ candidate ∈ input.candidates, (JsText.trim candidate.hotelId).length ≠ 0)
    (h : evaluateContextualStayValue rt input = .ok evaluation) :
    validateContextualStayValue rt evaluation = .ok [] := by
  obtain ⟨hcandidates, hfindings, hfingerprint, hid⟩ := evaluate_ok.mp h
  have hissues : evaluation.candidates.mapM (candidateIssues rt) =
      .ok (evaluation.candidates.map fun _ => []) :=
    Fallible.mapM_eq_ok fun found hfound => by
      obtain ⟨candidate, -, hok⟩ := evaluated_candidate h hfound
      exact candidateIssues_nil hok
  have hgate : rolloutGateInvalid evaluation = false := by
    unfold rolloutGateInvalid
    rw [hfindings]
    simp [stayValueFindings]
  have hformat : (!isStableHash evaluation.evaluationId || !isStableHash evaluation.fingerprint) =
      false := by
    rw [hid, createEvaluationId, isStableHash_createStableHash,
      isStableHash_hashValue hfingerprint]
    rfl
  have hidentity : candidateIdentityInvalid evaluation = false := by
    have hperm := evaluated_ids h
    have hnodup : (evaluation.candidates.map fun found => found.hotelId).Nodup :=
      hperm.nodup_iff.mpr hids
    have hnonblank : (evaluation.candidates.map fun found => found.hotelId).any
        (fun hotelId => (JsText.trim hotelId).length = 0) = false := by
      rw [List.any_eq_false]
      intro hotelId hmem
      obtain ⟨candidate, hcandidate, rfl⟩ := List.mem_map.mp (hperm.mem_iff.mp hmem)
      simpa using hblank candidate hcandidate
    unfold candidateIdentityInvalid
    dsimp only
    rw [hnonblank, decide_eq_true hnodup]
    rfl
  have hcounts : evaluation.usableCandidateCount = (evaluation.candidates.filter
      fun found => found.status = .usable).length ∧ evaluation.activeSignalCount =
        (evaluation.candidates.map fun found => found.activeSignals.length).sum := by
    rw [hfindings]
    exact ⟨rfl, rfl⟩
  unfold validateContextualStayValue
  refine Fallible.bind_ok.mpr ⟨_, hissues, Fallible.bind_ok.mpr ⟨_, hfingerprint, ?_⟩⟩
  rw [hgate, hformat, hidentity, hcounts.1, hcounts.2, hid]
  simp [issueIf, pure, Except.pure]

/-! ## 2. Evidence that is not usable -/

/-- The scores of a candidate. -/
structure StayScores where
  location : Option JsFloat
  protection : Option JsFloat
  convenience : Option JsFloat
  friction : Option JsFloat
  utilityDelta : Option ℚ

def CandidateFindings.scores (findings : CandidateFindings) : StayScores where
  location := findings.location.locationScore
  protection := findings.flexibility.cancellationProtectionScore
  convenience := findings.convenience.convenienceIndex
  friction := findings.convenience.decisionFrictionScore
  utilityDelta := findings.contextInteractions.utilityDelta

/-- The second candidate has one more travel point, capability or friction signal than the first,
    somewhere, and its evidence is not usable. -/
inductive AddsUnusable : CandidateInput → CandidateInput → Prop
  | travelPoint {candidate : CandidateInput} {before after : List TravelPoint}
      {point : TravelPoint} : candidate.travelPoints = before ++ after →
      hasUsableEvidence point.toEvidence = false →
      AddsUnusable candidate { candidate with travelPoints := before ++ point :: after }
  | capability {candidate : CandidateInput} {before after : List Capability}
      {capability : Capability} : candidate.capabilities = before ++ after →
      hasUsableEvidence capability.toEvidence = false →
      AddsUnusable candidate { candidate with capabilities := before ++ capability :: after }
  | frictionSignal {candidate : CandidateInput} {before after : List FrictionSignal}
      {signal : FrictionSignal} : candidate.frictionSignals = before ++ after →
      hasUsableEvidence signal.toEvidence = false →
      AddsUnusable candidate { candidate with frictionSignals := before ++ signal :: after }

theorem filter_insert {α : Type} {p : α → Bool} {before after : List α} {x : α}
    (h : p x = false) : (before ++ x :: after).filter p = (before ++ after).filter p := by
  rw [List.filter_append, List.filter_cons_of_neg (by simp [h]), List.filter_append]

/-- The score of a location depends only on the usable points. -/
theorem locationScore_congr
    (h : usableTravelPoints rt candidate' = usableTravelPoints rt candidate) :
    (evaluateLocation rt context candidate').locationScore =
      (evaluateLocation rt context candidate).locationScore := by
  unfold evaluateLocation
  rw [h]
  cases usableTravelPoints rt candidate <;> rfl

theorem convenience_congr (h : usableSignals rt candidate' = usableSignals rt candidate) :
    (evaluateConvenience rt candidate').convenienceIndex =
        (evaluateConvenience rt candidate).convenienceIndex ∧
      (evaluateConvenience rt candidate').decisionFrictionScore =
        (evaluateConvenience rt candidate).decisionFrictionScore := by
  unfold evaluateConvenience
  dsimp only
  rw [h]
  constructor <;> split <;> rfl

theorem interactions_congr (h : usableCapabilities candidate' = usableCapabilities candidate) :
    evaluateContextInteractions rt context candidate' =
      evaluateContextInteractions rt context candidate := by
  unfold evaluateContextInteractions
  rw [h]

theorem AddsUnusable.scores_eq (h : AddsUnusable candidate candidate') :
    (candidateFindings rt context candidate').scores =
      (candidateFindings rt context candidate).scores := by
  -- the evaluations that do not read the changed list are the same
  cases h with
  | @travelPoint before after point hlist hunusable =>
    have hpoint : isUsableTravelPoint point = false := by simp [isUsableTravelPoint, hunusable]
    have husable : usableTravelPoints rt
        { candidate with travelPoints := before ++ point :: after } =
          usableTravelPoints rt candidate := by
      unfold usableTravelPoints
      rw [filter_insert hpoint, ← hlist]
    exact congrArg (fun score => StayScores.mk score _ _ _ _) (locationScore_congr husable)
  | @capability before after capability hlist hunusable =>
    have husable : usableCapabilities
        { candidate with capabilities := before ++ capability :: after } =
          usableCapabilities candidate := by
      refine (filter_insert (p := fun item : Capability => hasUsableEvidence item.toEvidence)
        hunusable).trans ?_
      rw [← hlist]
      rfl
    exact congrArg (fun found : InteractionEvaluation => StayScores.mk _ _ _ _ found.utilityDelta)
      (interactions_congr husable)
  | @frictionSignal before after signal hlist hunusable =>
    have hsignal : isUsableSignal signal = false := by simp [isUsableSignal, hunusable]
    have husable : usableSignals rt
        { candidate with frictionSignals := before ++ signal :: after } =
          usableSignals rt candidate := by
      unfold usableSignals
      rw [filter_insert hsignal, ← hlist]
    exact congrArg₂ (fun index friction => StayScores.mk _ _ index friction _)
      (convenience_congr husable).1 (convenience_congr husable).2

theorem AddsUnusable.hotelId_eq (h : AddsUnusable candidate candidate') :
    candidate'.hotelId = candidate.hotelId := by
  cases h <;> rfl

theorem AddsUnusable.protectsFreeStay_eq (h : AddsUnusable candidate candidate') :
    protectsFreeStay rt candidate' = protectsFreeStay rt candidate := by
  cases h <;> rfl

/-- The scores that an evaluation shows, with the ids of the candidates. -/
def shownScores (evaluation : StayValueEvaluation) : List (String × StayScores) :=
  evaluation.candidates.map fun found => (found.hotelId, found.scores)

theorem shownScores_eq {input : StayValueInput} {evaluation : StayValueEvaluation}
    (h : evaluateContextualStayValue rt input = .ok evaluation) :
    shownScores evaluation = sortBy (byText rt Prod.fst) (input.candidates.map fun candidate =>
      (candidate.hotelId, (candidateFindings rt input.context candidate).scores)) := by
  have hshown : shownScores evaluation = (sortedCandidates rt input).map fun candidate =>
      (candidate.hotelId, (candidateFindings rt input.context candidate).scores) :=
    Fallible.mapM_map_eq (fun candidate _ found hfound => by
      rw [(evaluateCandidate_ok.mp hfound).1]
      rfl) (evaluate_ok.mp h).1
  rw [hshown, sortedCandidates]
  exact (@sortBy_map _ _ (byText rt CandidateInput.hotelId) input.candidates (byText rt Prod.fst)
    _ fun _ _ _ _ => rfl).symm

/-- A candidate of the second input has what is not usable. -/
inductive AddsUnusableTo : StayValueInput → StayValueInput → Prop
  | candidate {context : StayContext} {before after : List CandidateInput}
      {candidate candidate' : CandidateInput} : AddsUnusable candidate candidate' →
      AddsUnusableTo ⟨context, before ++ candidate :: after⟩
        ⟨context, before ++ candidate' :: after⟩

theorem AddsUnusableTo.shownScores_eq {input input' : StayValueInput}
    (h : AddsUnusableTo input input') {evaluation evaluation' : StayValueEvaluation}
    (hok : evaluateContextualStayValue rt input = .ok evaluation)
    (hok' : evaluateContextualStayValue rt input' = .ok evaluation') :
    shownScores evaluation' = shownScores evaluation := by
  obtain ⟨hadds⟩ := h
  rw [Contextual.shownScores_eq hok, Contextual.shownScores_eq hok', List.map_append,
    List.map_append, List.map_cons, List.map_cons, hadds.hotelId_eq, hadds.scores_eq]

theorem AddsUnusableTo.evaluates {input input' : StayValueInput} (h : AddsUnusableTo input input')
    (hpaid : ∀ candidate ∈ input.candidates, protectsFreeStay rt candidate = false) :
    ∃ evaluation', evaluateContextualStayValue rt input' = .ok evaluation' := by
  obtain ⟨hadds⟩ := h
  refine evaluate_ok_iff.mpr fun candidate hcandidate => ?_
  rcases List.mem_append.mp hcandidate with hmem | hmem
  · exact hpaid candidate (List.mem_append_left _ hmem)
  · rcases List.mem_cons.mp hmem with rfl | hmem
    · rw [hadds.protectsFreeStay_eq]
      exact hpaid _ (List.mem_append_right _ List.mem_cons_self)
    · exact hpaid candidate (List.mem_append_right _ (List.mem_cons_of_mem _ hmem))

/-! ## 3. Well-defined values -/

/-- The ranges of the scores. -/
structure StayScores.WithinRange (scores : StayScores) : Prop where
  location : IsScore scores.location
  protection : IsScore scores.protection
  convenience : IsScore scores.convenience
  friction : IsScore scores.friction
  utilityDelta : ∀ delta, scores.utilityDelta = some delta → -20 ≤ delta ∧ delta ≤ 20

theorem scores_withinRange (hpaid : protectsFreeStay rt candidate = false) :
    (candidateFindings rt context candidate).scores.WithinRange where
  location := locationScore_isScore
  protection := protectionScore_isScore hpaid
  convenience := evaluateConvenience_scores.1
  friction := evaluateConvenience_scores.2
  utilityDelta _ := utilityDelta_within

/-- The evaluation returns, all its numbers are finite, it is valid, its scores keep their ranges
    and no evidence that is not usable changes them. -/
def WellDefined (rt : Runtime) (input : StayValueInput) : Prop :=
  ∃ evaluation, evaluateContextualStayValue rt input = .ok evaluation ∧
    evaluation.toValue.accepted = true ∧ validateContextualStayValue rt evaluation = .ok [] ∧
    (∀ found ∈ evaluation.candidates, found.scores.WithinRange) ∧
    ∀ input', AddsUnusableTo input input' → ∃ evaluation',
      evaluateContextualStayValue rt input' = .ok evaluation' ∧
      shownScores evaluation' = shownScores evaluation

/-- The value of stays with ids of their own is well defined if and only if no stay that costs
    nothing has a refundable cancellation of a recognised share. -/
theorem stayValue_wellDefined_iff (rt : Runtime) (input : StayValueInput)
    (hids : (input.candidates.map CandidateInput.hotelId).Nodup)
    (hblank : ∀ candidate ∈ input.candidates, (JsText.trim candidate.hotelId).length ≠ 0) :
    WellDefined rt input ↔
      ∀ candidate ∈ input.candidates, protectsFreeStay rt candidate = false := by
  constructor
  · rintro ⟨evaluation, hok, -⟩
    exact evaluate_ok_iff.mp ⟨evaluation, hok⟩
  · intro hpaid
    obtain ⟨evaluation, hok⟩ := evaluate_ok_iff.mpr hpaid
    refine ⟨evaluation, hok, ?_, validate_evaluated hids hblank hok, ?_, ?_⟩
    · have haccepted : evaluation.toStayValueFindings.toValue.accepted = true :=
        (hashValue_ok rt _ _).mp ⟨_, (evaluate_ok.mp hok).2.2.1⟩
      simpa [StayValueEvaluation.toValue, StayValueFindings.toValue, Value.accepted,
        Value.acceptedFields, Value.str] using haccepted
    · intro found hfound
      obtain ⟨candidate, hcandidate, hcandidateOk⟩ := evaluated_candidate hok hfound
      rw [(evaluateCandidate_ok.mp hcandidateOk).1]
      exact scores_withinRange (hpaid candidate hcandidate)
    · intro input' hadds
      obtain ⟨evaluation', hok'⟩ := hadds.evaluates hpaid
      exact ⟨evaluation', hok', hadds.shownScores_eq hok hok'⟩

/-- A context without a destination. -/
def plainContext : StayContext := ⟨.balanced, .leisure, some 2, some 2, some 0, some 1, none, none⟩

/-- A stay of a cost that may be cancelled for free. -/
def cancellableStay (totalCost : ℚ) : CandidateInput where
  hotelId := "h1"
  totalCost := some totalCost
  currency := some "EUR"
  straightLineDistanceKm := none
  straightLineEvidenceIds := []
  travelPoints := []
  selectedRoom := none
  roomAlternatives := []
  cancellation := some
    { source := .providerStructured, confidence := 1, evidenceIds := ["e1"], policyKnown := true
      refundable := some true, freeCancellationUntil := some "2026-05-01", penaltyAmount := none
      penaltyCurrency := none, changeProbability := none }
  payment := none
  capabilities := []
  frictionSignals := []

/-- A stay of a hundred euros has a value. -/
theorem stayValue_wellDefined_hundred :
    WellDefined plainRuntime ⟨plainContext, [cancellableStay 100]⟩ :=
  (stayValue_wellDefined_iff plainRuntime ⟨plainContext, [cancellableStay 100]⟩ (by decide)
    (by decide)).mpr (by decide +kernel)

/-- A free stay is divided by its cost, and the hash of its findings throws. -/
theorem freeStay_throws : (∀ evaluation, evaluateContextualStayValue plainRuntime
      ⟨plainContext, [cancellableStay 0]⟩ ≠ .ok evaluation) ∧
    ¬ WellDefined plainRuntime ⟨plainContext, [cancellableStay 0]⟩ := by
  have hfree : protectsFreeStay plainRuntime (cancellableStay 0) = true := by decide +kernel
  have hthrows : ∀ evaluation, evaluateContextualStayValue plainRuntime
      ⟨plainContext, [cancellableStay 0]⟩ ≠ .ok evaluation := fun evaluation h => by
    have hpaid := evaluate_ok_iff.mp ⟨evaluation, h⟩ _ List.mem_cons_self
    rw [hfree] at hpaid
    cases hpaid
  exact ⟨hthrows, fun ⟨evaluation, hok, _⟩ => hthrows evaluation hok⟩

end SmartStay.Contextual
