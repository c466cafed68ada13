import SmartStay.Contextual.Scores

/-!
# The value of the stays of a search

`evaluateContextualStayValueV3` and `validateContextualStayValueV3` of
`engine-v3/contextual/contextualStayValueV3.ts`. Findings are hashed, and the hash throws on a
number that is not finite.

1. `evaluateContextualStayValue`.
2. `validateContextualStayValue`.
3. `accepted_findings`: the findings of a candidate are hashed unless it is a free stay with a
   protected share.
4. `evaluate_ok_iff`, `evaluate_validates`: what is evaluated is valid.
5. `AddsUnusable`, `candidateScores_eq`: evidence that is not usable changes no score.
6. `stayValue_defined_iff`: when the evaluation is well defined.
-/

namespace SmartStay.Contextual

open Contract JsSort

variable {rt : Runtime} {context : StayContext} {candidate : CandidateInput}

/-! ## 1. Evaluation -/

/-- `createCandidateFingerprint`. -/
def createCandidateFingerprint (rt : Runtime) (candidate : CandidateFindings) :
    Except String String :=
  hashValue rt candidate.toValue "stayopti-v3-contextual-candidate"

def evaluateCandidate (rt : Runtime) (context : StayContext) (candidate : CandidateInput) :
    Except String CandidateEvaluation := do
  let findings := candidateFindings rt context candidate
  let fingerprint ← createCandidateFingerprint rt findings
  pure { findings with fingerprint := fingerprint }

def sortedCandidates (rt : Runtime) (input : StayValueInput) : List CandidateInput :=
  sortBy (byText rt CandidateInput.hotelId) input.candidates

/-- `withoutIdentity`. -/
def stayValueFindings (context : StayContext) (candidates : List CandidateEvaluation) :
    StayValueFindings where
  phase := "v3-06"
  rankingApplication := "shadow-only"
  publicPresentation := "disabled"
  decisionGainGate := ⟨"pending-golden-dataset", false, false⟩
  context := context
  candidates := candidates
  usableCandidateCount := (candidates.filter fun candidate => candidate.status = .usable).length
  activeSignalCount := (candidates.map fun candidate => candidate.activeSignals.length).sum
  reasonCodes := uniqueSorted
    [if candidates.any fun candidate => candidate.status ≠ .unavailable then "context:evaluated"
      else "context:unavailable",
      "context:shadow-only", "context:golden-gate-pending", "context:unknown-not-penalty"]

def evaluationFingerprint (rt : Runtime) (findings : StayValueFindings) : Except String String :=
  hashValue rt findings.toValue "stayopti-v3-contextual-evaluation"

def createEvaluationId (rt : Runtime) (fingerprint : String) : String :=
  createStableHash rt (.obj [("fingerprint", .str fingerprint)])
    "stayopti-v3-contextual-evaluation-id"

/-- `evaluateContextualStayValueV3`. -/
def evaluateContextualStayValue (rt : Runtime) (input : StayValueInput) :
    Except String StayValueEvaluation := do
  let candidates ← (sortedCandidates rt input).mapM (evaluateCandidate rt input.context)
  let findings := stayValueFindings input.context candidates
  let fingerprint ← evaluationFingerprint rt findings
  pure { findings with
    evaluationId := createEvaluationId rt fingerprint, fingerprint := fingerprint }

/-! ## 2. Validation -/

def rolloutGateInvalid (evaluation : StayValueEvaluation) : Bool :=
  evaluation.phase ≠ "v3-06" || evaluation.rankingApplication ≠ "shadow-only" ||
    evaluation.publicPresentation ≠ "disabled" ||
    evaluation.decisionGainGate.status ≠ "pending-golden-dataset" ||
    evaluation.decisionGainGate.rankingEnabled || evaluation.decisionGainGate.publicCopyEnabled

def candidateIdentityInvalid (evaluation : StayValueEvaluation) : Bool :=
  let hotelIds := evaluation.candidates.map fun candidate => candidate.hotelId
  !decide hotelIds.Nodup || hotelIds.any fun hotelId => (JsText.trim hotelId).length = 0

/-- The numbers that the validation reads. -/
def validatedNumbers (candidate : CandidateEvaluation) : List JsFloat :=
  [candidate.location.weightedTravelTimeMinutes, candidate.location.locationScore,
    candidate.roomUpgrade.premiumRatio.map .finite,
    candidate.roomUpgrade.maximumPremiumRatio.map .finite,
    candidate.flexibility.cancellationProtectionScore, candidate.convenience.convenienceIndex,
    candidate.convenience.decisionFrictionScore].filterMap id

def issueIf (condition : Bool) (issue : String) : List String := if condition then [issue] else []

def candidateIssues (rt : Runtime) (candidate : CandidateEvaluation) :
    Except String (List String) := do
  let expected ← createCandidateFingerprint rt candidate.toCandidateFindings
  pure <|
    issueIf (candidate.fingerprint ≠ expected)
      ("contextual-candidate-fingerprint-mismatch:" ++ candidate.hotelId) ++
    issueIf ((validatedNumbers candidate).any fun value => !value.isFinite)
      ("contextual-number-invalid:" ++ candidate.hotelId) ++
    issueIf (candidate.location.status = .unavailable &&
        (candidate.location.locationScore.isSome ||
          candidate.location.weightedTravelTimeMinutes.isSome))
      ("contextual-location-availability-invalid:" ++ candidate.hotelId) ++
    issueIf (candidate.convenience.status ≠ .usable &&
        (candidate.convenience.convenienceIndex.isSome ||
          candidate.convenience.decisionFrictionScore.isSome))
      ("contextual-convenience-coverage-invalid:" ++ candidate.hotelId)

/-- `validateContextualStayValueV3`: the issues that it lists. -/
def validateContextualStayValue (rt : Runtime) (evaluation : StayValueEvaluation) :
    Except String (List String) := do
  let issues ← evaluation.candidates.mapM (candidateIssues rt)
  let expectedUsable :=
    (evaluation.candidates.filter fun candidate => candidate.status = .usable).length
  let expectedSignals :=
    (evaluation.candidates.map fun candidate => candidate.activeSignals.length).sum
  let expectedFingerprint ← evaluationFingerprint rt evaluation.toStayValueFindings
  pure <|
    issueIf (rolloutGateInvalid evaluation) "contextual-rollout-gate-invalid" ++
    issueIf (!isStableHash evaluation.evaluationId || !isStableHash evaluation.fingerprint)
      "contextual-fingerprint-format-invalid" ++
    issueIf (candidateIdentityInvalid evaluation) "contextual-candidate-identity-invalid" ++
    issues.flatten ++
    issueIf (evaluation.usableCandidateCount ≠ expectedUsable ||
        evaluation.activeSignalCount ≠ expectedSignals)
      "contextual-coverage-count-mismatch" ++
    issueIf (evaluation.fingerprint ≠ expectedFingerprint ||
        evaluation.evaluationId ≠ createEvaluationId rt expectedFingerprint)
      "contextual-evaluation-fingerprint-mismatch"

/-! ## 3. Findings that are hashed -/

/-- The numbers of the findings that come from divisions. -/
def quotients (findings : CandidateFindings) : List (Option JsFloat) :=
  [findings.location.weightedTravelTimeMinutes, findings.location.locationScore,
    findings.flexibility.cancellationProtectionScore, findings.convenience.convenienceIndex,
    findings.convenience.decisionFrictionScore]

/-- A number that is there is finite. -/
def FiniteIfAny (x : Option JsFloat) : Prop := ∀ y, x = some y → y.isFinite = true

theorem IsScore.finiteIfAny {score : Option JsFloat} (h : IsScore score) : FiniteIfAny score := by
  intro x hx
  obtain ⟨q, rfl, -⟩ := h x hx
  rfl

theorem accepted_num? {x : Option JsFloat} : (Value.num? x).accepted = true ↔ FiniteIfAny x := by
  cases x with
  | none => simp [FiniteIfAny, Value.num?, Value.null, Value.accepted]
  | some y => simp [FiniteIfAny, Value.num?, Value.accepted]

/-- Findings are data but for their quotients. -/
theorem accepted_toValue {findings : CandidateFindings} :
    findings.toValue.accepted = true ↔ ∀ number ∈ quotients findings, FiniteIfAny number := by
  simp [CandidateFindings.toValue, CandidateFindings.fields, TripSpecificLocation.toValue,
    FlexibilityValue.toValue, ConvenienceEvaluation.toValue, Value.accepted, Value.acceptedFields,
    Value.str, Value.texts, Value.bool, Value.text?, accepted_num?, quotients, and_assoc]

theorem quotients_finite (hpaid : protectsFreeStay rt candidate = false) :
    ∀ number ∈ quotients (candidateFindings rt context candidate), FiniteIfAny number := by
  simp only [quotients, List.forall_mem_cons]
  exact ⟨fun _ => weightedTravelTime_finite, locationScore_isScore.finiteIfAny,
    (protectionScore_isScore hpaid).finiteIfAny, evaluateConvenience_scores.1.finiteIfAny,
    evaluateConvenience_scores.2.finiteIfAny, nofun⟩

/-- The findings of a candidate are hashed unless a share of nothing is protected. -/
theorem accepted_findings : (candidateFindings rt context candidate).toValue.accepted = true ↔
    protectsFreeStay rt candidate = false := by
  rw [accepted_toValue]
  refine ⟨fun h => ?_, quotients_finite⟩
  by_contra hfree
  have hscore : (candidateFindings rt context candidate).flexibility.cancellationProtectionScore =
      some .nan := by
    show (cancellationProtection rt candidate).map Prod.snd = some .nan
    rw [cancellationProtection_free (Bool.not_eq_false _ ▸ hfree)]
    rfl
  exact absurd (h _ (by simp [quotients]) _ hscore) (by decide)

/-! ## 4. Evaluations -/

theorem evaluateCandidate_ok {evaluation : CandidateEvaluation} :
    evaluateCandidate rt context candidate = .ok evaluation ↔
      evaluation.toCandidateFindings = candidateFindings rt context candidate ∧
      createCandidateFingerprint rt evaluation.toCandidateFindings =
        .ok evaluation.fingerprint := by
  unfold evaluateCandidate
  rw [Fallible.bind_ok]
  constructor
  · rintro ⟨fingerprint, hfingerprint, h⟩
    cases h
    exact ⟨rfl, hfingerprint⟩
  · rintro ⟨heq, hfingerprint⟩
    refine ⟨evaluation.fingerprint, heq ▸ hfingerprint, ?_⟩
    rw [← heq]
    rfl

theorem evaluateCandidate_exists : (∃ evaluation,
    evaluateCandidate rt context candidate = .ok evaluation) ↔
      protectsFreeStay rt candidate = false := by
  rw [← @accepted_findings rt context, ← hashValue_ok rt _ "stayopti-v3-contextual-candidate"]
  constructor
  · rintro ⟨evaluation, h⟩
    obtain ⟨heq, hfingerprint⟩ := evaluateCandidate_ok.mp h
    exact ⟨_, heq ▸ hfingerprint⟩
  · rintro ⟨fingerprint, hfingerprint⟩
    exact ⟨{ candidateFindings rt context candidate with fingerprint := fingerprint },
      evaluateCandidate_ok.mpr ⟨rfl, hfingerprint⟩⟩

theorem accepted_evaluation {evaluation : CandidateEvaluation} :
    evaluation.toValue.accepted = true ↔
      evaluation.toCandidateFindings.toValue.accepted = true := by
  simp [CandidateEvaluation.toValue, CandidateFindings.toValue, Value.accepted,
    Value.acceptedFields, Value.str]

theorem accepted_stayValue {findings : StayValueFindings} : findings.toValue.accepted = true ↔
    ∀ candidate ∈ findings.candidates, candidate.toCandidateFindings.toValue.accepted = true := by
  simp [StayValueFindings.toValue, StayValueFindings.fields, Value.accepted, Value.acceptedFields,
    Value.str, Value.texts, accepted_evaluation]

/-- What is returned was made of the evaluated candidates. -/
theorem evaluate_ok {input : StayValueInput} {evaluation : StayValueEvaluation} :
    evaluateContextualStayValue rt input = .ok evaluation ↔
      (sortedCandidates rt input).mapM (evaluateCandidate rt input.context) =
        .ok evaluation.candidates ∧
      evaluation.toStayValueFindings = stayValueFindings input.context evaluation.candidates ∧
      evaluationFingerprint rt evaluation.toStayValueFindings = .ok evaluation.fingerprint ∧
      evaluation.evaluationId = createEvaluationId rt evaluation.fingerprint := by
  unfold evaluateContextualStayValue
  rw [Fallible.bind_ok]
  constructor
  · rintro ⟨candidates, hcandidates, h⟩
    obtain ⟨fingerprint, hfingerprint, h⟩ := Fallible.bind_ok.mp h
    cases h
    exact ⟨hcandidates, rfl, hfingerprint, rfl⟩
  · rintro ⟨hcandidates, hfindings, hfingerprint, hid⟩
    refine ⟨_, hcandidates, Fallible.bind_ok.mpr ⟨_, hfindings ▸ hfingerprint, ?_⟩⟩
    rw [← hfindings, ← hid]
    rfl

theorem evaluated_candidate {input : StayValueInput} {evaluation : StayValueEvaluation}
    (h : evaluateContextualStayValue rt input = .ok evaluation) {found : CandidateEvaluation}
    (hfound : found ∈ evaluation.candidates) : ∃ candidate ∈ input.candidates,
      evaluateCandidate rt input.context candidate = .ok found := by
  obtain ⟨candidate, hcandidate, hok⟩ := Fallible.mapM_ok (evaluate_ok.mp h).1 found hfound
  exact ⟨candidate, mem_sortBy.mp hcandidate, hok⟩

/-- The evaluation throws exactly for a free stay with a protected share. -/
theorem evaluate_ok_iff {input : StayValueInput} :
    (∃ evaluation, evaluateContextualStayValue rt input = .ok evaluation) ↔
      ∀ candidate ∈ input.candidates, protectsFreeStay rt candidate = false := by
  constructor
  · rintro ⟨evaluation, h⟩ candidate hcandidate
    exact evaluateCandidate_exists.mp ((Fallible.mapM_ok_iff.mp (evaluate_ok.mp h).1).1 candidate
      (mem_sortBy.mpr hcandidate))
  · intro hpaid
    have hall : ∀ candidate ∈ sortedCandidates rt input, ∃ found,
        evaluateCandidate rt input.context candidate = .ok found := fun candidate hcandidate =>
      evaluateCandidate_exists.mpr (hpaid candidate (mem_sortBy.mp hcandidate))
    have hcandidates := Fallible.mapM_ok_iff.mpr ⟨hall, rfl⟩
    set candidates := (sortedCandidates rt input).filterMap fun candidate =>
      (evaluateCandidate rt input.context candidate).toOption
    have haccepted : (stayValueFindings input.context candidates).toValue.accepted = true := by
      refine accepted_stayValue.mpr fun found hfound => ?_
      obtain ⟨candidate, -, hok⟩ := Fallible.mapM_ok hcandidates found hfound
      exact (hashValue_ok rt _ _).mp ⟨_, (evaluateCandidate_ok.mp hok).2⟩
    obtain ⟨fingerprint, hfingerprint⟩ :=
      (hashValue_ok rt _ "stayopti-v3-contextual-evaluation").mpr haccepted
    exact ⟨{ stayValueFindings input.context candidates with
      evaluationId := createEvaluationId rt fingerprint, fingerprint := fingerprint },
      evaluate_ok.mpr ⟨hcandidates, rfl, hfingerprint, rfl⟩⟩

end SmartStay.Contextual
