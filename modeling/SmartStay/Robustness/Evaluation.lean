import SmartStay.Robustness.Scenarios

/-!
# The robustness of a decision

`evaluateDecisionRobustnessV3` and `validateDecisionRobustnessV3` of
`engine-v3/robustness/decisionRobustnessV3.ts`.

1. `detectNearTie`, `detectNoGoodOption`, `resolveAbstention`.
2. `evaluateConstraintRelaxation`.
3. `evaluateDecisionRobustness`.
4. `validateDecisionRobustness`, `assertDecisionRobustness`.
-/

namespace SmartStay.Robustness

open Contract JsSort PersonalUtility
open Policy (TieClassification TieResolution resolveDecisionTie compareDecisionTieProjection)

/-! ## 1. Abstention -/

/-- `StayOptiNearTieV3`. -/
structure NearTie where
  status : String
  hotelIds : List String
  riskAdjustedUtilityDelta : Option ℚ
  indistinguishable : Bool

def NearTie.toJson (n : NearTie) : Json :=
  .obj [("status", .str n.status), ("hotelIds", .texts n.hotelIds),
    ("riskAdjustedUtilityDelta", .num? n.riskAdjustedUtilityDelta),
    ("indistinguishable", .bool n.indistinguishable)]

/-- The distance of the robust-choice scores of two members; infinite without one of them. -/
def robustDelta (candidateRegret : List CandidateRegret) (first second : String) : Option ℚ := do
  let firstRobust ← candidateRegret.find? fun candidate => candidate.hotelId = first
  let secondRobust ← candidateRegret.find? fun candidate => candidate.hotelId = second
  some |firstRobust.robustChoiceScore - secondRobust.robustChoiceScore|

def detectNearTie (baseline : Option RobustnessScenario) (candidateRegret : List CandidateRegret)
    (options : ResolvedOptions) : NearTie :=
  match (baseline.filter RobustnessScenario.evaluated).map RobustnessScenario.candidateScores with
  | some (first :: second :: _) =>
    let delta := round (first.riskAdjustedUtility - second.riskAdjustedUtility) 6
    { status := if delta ≤ options.nearTieTolerance then "detected" else "not-detected"
      hotelIds := if delta ≤ options.nearTieTolerance then
        sortedTexts [first.hotelId, second.hotelId] else []
      riskAdjustedUtilityDelta := some delta
      indistinguishable := delta ≤ options.indistinguishableTolerance &&
        (robustDelta candidateRegret first.hotelId second.hotelId).any (· ≤ 3) }
  | _ => ⟨"unavailable", [], none, false⟩

/-- `StayOptiNoGoodOptionV3`. -/
structure NoGoodOption where
  status : String
  bestRiskAdjustedUtility : Option ℚ
  bestDownsideUtility : Option ℚ

def NoGoodOption.toJson (n : NoGoodOption) : Json :=
  .obj [("status", .str n.status), ("bestRiskAdjustedUtility", .num? n.bestRiskAdjustedUtility),
    ("bestDownsideUtility", .num? n.bestDownsideUtility)]

def detectNoGoodOption (robustChoice : Option CandidateEvaluation) (options : ResolvedOptions) :
    NoGoodOption :=
  match robustChoice.bind fun choice => do
    let utility ← choice.riskAdjustedUtility
    let downside ← choice.downsideUtility
    some (choice, utility, downside) with
  | none => ⟨"unavailable", none, none⟩
  | some (choice, utility, downside) =>
    let strongCandidate := 60 ≤ utility && 65 / 100 ≤ choice.evidenceStrength &&
      choice.choiceRiskScore < 60
    let detected := !strongCandidate && (utility < options.noGoodUtilityThreshold ||
      (downside < 40 && 60 ≤ choice.choiceRiskScore))
    ⟨if detected then "detected" else "not-detected", some utility, some downside⟩

/-- `StayOptiAbstentionCodeV3`. -/
inductive AbstentionCode
  | noFeasibleSolution | insufficientEvidence | noGoodOption | indistinguishableOptions
  | unstableChoice
deriving DecidableEq

def AbstentionCode.text : AbstentionCode → String
  | .noFeasibleSolution => "no-feasible-solution"
  | .insufficientEvidence => "insufficient-evidence"
  | .noGoodOption => "no-good-option"
  | .indistinguishableOptions => "indistinguishable-options"
  | .unstableChoice => "unstable-choice"

/-- The anchor is rarely best and much less robust than the choice. -/
def choiceIsUnstable (anchorHotelId : Option String) (robustChoice : CandidateRegret)
    (candidateRegret : List CandidateRegret) : Bool :=
  anchorHotelId.any fun anchorId => robustChoice.hotelId ≠ anchorId &&
    (candidateRegret.find? fun candidate => candidate.hotelId = anchorId).any fun anchorRegret =>
      anchorRegret.winRate < 4 / 10 &&
        8 ≤ robustChoice.robustChoiceScore - anchorRegret.robustChoiceScore

def resolveAbstention (anchorHotelId : Option String) (robustChoice : Option CandidateRegret)
    (candidateRegret : List CandidateRegret) (robustChoiceEvaluation : Option CandidateEvaluation)
    (nearTie : NearTie) (noGoodOption : NoGoodOption) (options : ResolvedOptions) :
    Option AbstentionCode :=
  match robustChoice, robustChoiceEvaluation with
  | some choice, some evaluation =>
    if evaluation.evidenceStrength < options.minimumEvidenceStrength then
      some .insufficientEvidence
    else if noGoodOption.status = "detected" then some .noGoodOption
    else if nearTie.indistinguishable then some .indistinguishableOptions
    else if choiceIsUnstable anchorHotelId choice candidateRegret then some .unstableChoice
    else none
  | _, _ => some .noFeasibleSolution

/-! ## 2. Relaxations -/

/-- `StayOptiConstraintRelaxationCandidateV3`. -/
structure RelaxationCandidate where
  relaxationId : String
  kind : String
  changeAmount : ℚ
  changeUnit : String
  normalizedChange : ℚ
  expectedRiskAdjustedUtility : ℚ
  newlyEligibleHotelIds : List String
  evidenceStatus : String

def RelaxationCandidate.toJson (r : RelaxationCandidate) : Json :=
  .obj [("relaxationId", .str r.relaxationId), ("kind", .str r.kind),
    ("changeAmount", .num r.changeAmount), ("changeUnit", .str r.changeUnit),
    ("normalizedChange", .num r.normalizedChange),
    ("expectedRiskAdjustedUtility", .num r.expectedRiskAdjustedUtility),
    ("newlyEligibleHotelIds", .texts r.newlyEligibleHotelIds),
    ("evidenceStatus", .str r.evidenceStatus)]

def validateRelaxationCandidate (candidate : RelaxationCandidate) : Bool :=
  0 < (JsText.trim candidate.relaxationId).length && 0 < candidate.changeAmount &&
    0 < candidate.normalizedChange && 0 ≤ candidate.expectedRiskAdjustedUtility &&
    candidate.expectedRiskAdjustedUtility ≤ 100

inductive RelaxationStatus
  | recommended | notNeeded | unavailable
deriving DecidableEq

def RelaxationStatus.text : RelaxationStatus → String
  | .recommended => "recommended"
  | .notNeeded => "not-needed"
  | .unavailable => "unavailable"

/-- `StayOptiConstraintRelaxationEvaluationV3`. -/
structure RelaxationEvaluation where
  status : RelaxationStatus
  selected : Option RelaxationCandidate
  consideredRelaxationIds : List String
  reasonCodes : List String

def RelaxationEvaluation.toJson (r : RelaxationEvaluation) : Json :=
  .obj [("status", .str r.status.text),
    ("selected", (r.selected.map RelaxationCandidate.toJson).getD .null),
    ("consideredRelaxationIds", .texts r.consideredRelaxationIds),
    ("reasonCodes", .texts r.reasonCodes)]

/-- The larger gain for its change first, then the smaller change. -/
def compareRelaxations (rt : Runtime) (baseline : ℚ) :
    RelaxationCandidate → RelaxationCandidate → Ordering :=
  let efficiency := fun candidate : RelaxationCandidate =>
    (candidate.expectedRiskAdjustedUtility - baseline) / candidate.normalizedChange
  compareLex (fun first second => compare (efficiency second) (efficiency first)) <|
    compareLex (fun first second => compare first.normalizedChange second.normalizedChange)
      (Contextual.byText rt RelaxationCandidate.relaxationId)

def evaluateConstraintRelaxation (rt : Runtime) (abstentionCode : Option AbstentionCode)
    (currentBestUtility : Option ℚ) (candidates : List RelaxationCandidate)
    (options : ResolvedOptions) : RelaxationEvaluation :=
  if abstentionCode = none then ⟨.notNeeded, none, [], ["relaxation:not-needed"]⟩
  else
    let baseline := currentBestUtility.getD 0
    match sortBy (compareRelaxations rt baseline) (candidates.filter fun candidate =>
        validateRelaxationCandidate candidate && candidate.evidenceStatus = "verified" &&
          options.minimumRelaxationGain ≤ candidate.expectedRiskAdjustedUtility - baseline) with
    | [] => ⟨.unavailable, none, sortedTexts ((candidates.filter validateRelaxationCandidate).map
        RelaxationCandidate.relaxationId), ["relaxation:unavailable"]⟩
    | first :: rest => ⟨.recommended, some first,
        (first :: rest).map RelaxationCandidate.relaxationId, ["relaxation:recommended"]⟩

/-! ## 3. Evaluation -/

/-- `StayOptiDecisionGeometryV3`, as far as it is read. -/
structure DecisionGeometry where
  candidateHotelIds : List String
  fingerprint : String

structure RobustnessInput where
  candidates : List CandidateInput
  decisionGeometry : DecisionGeometry
  anchorHotelId : Option String := none
  constraintRelaxations : List RelaxationCandidate := []
  options : RobustnessOptions := {}

inductive RobustnessStatus
  | usable | partly | unavailable
deriving DecidableEq

def RobustnessStatus.text : RobustnessStatus → String
  | .usable => "usable"
  | .partly => "partial"
  | .unavailable => "unavailable"

inductive RecommendationPolicy
  | recommend | abstain
deriving DecidableEq

def RecommendationPolicy.text : RecommendationPolicy → String
  | .recommend => "recommend"
  | .abstain => "abstain"

/-- `StayOptiDecisionRobustnessV3` without its fingerprint. -/
structure RobustnessFindings where
  evaluationId : String
  phase : String
  rankingApplication : String
  status : RobustnessStatus
  anchorHotelId : Option String
  comparisonCohortHotelIds : List String
  candidates : List CandidateEvaluation
  scenarios : List RobustnessScenario
  candidateRegret : List CandidateRegret
  robustChoiceHotelId : Option String
  decisionTieClassification : TieClassification
  decisionallyEquivalentHotelIds : List String
  presentationRepresentativeHotelId : Option String
  robustChoiceScore : Option ℚ
  expectedRegret : Option ℚ
  maximumRegret : Option ℚ
  nearTie : NearTie
  noGoodOption : NoGoodOption
  recommendationPolicy : RecommendationPolicy
  policyPreferredHotelId : Option String
  abstentionCode : Option AbstentionCode
  constraintRelaxation : RelaxationEvaluation
  reasonCodes : List String

structure DecisionRobustness extends RobustnessFindings where
  fingerprint : String

def RobustnessFindings.toJson (r : RobustnessFindings) : Json :=
  .obj [("evaluationId", .str r.evaluationId), ("phase", .str r.phase),
    ("rankingApplication", .str r.rankingApplication), ("status", .str r.status.text),
    ("anchorHotelId", .text? r.anchorHotelId),
    ("comparisonCohortHotelIds", .texts r.comparisonCohortHotelIds),
    ("candidates", .arr (r.candidates.map CandidateEvaluation.toJson)),
    ("scenarios", .arr (r.scenarios.map RobustnessScenario.toJson)),
    ("candidateRegret", .arr (r.candidateRegret.map CandidateRegret.toJson)),
    ("robustChoiceHotelId", .text? r.robustChoiceHotelId),
    ("decisionTieClassification", .str r.decisionTieClassification.text),
    ("decisionallyEquivalentHotelIds", .texts r.decisionallyEquivalentHotelIds),
    ("presentationRepresentativeHotelId", .text? r.presentationRepresentativeHotelId),
    ("robustChoiceScore", .num? r.robustChoiceScore), ("expectedRegret", .num? r.expectedRegret),
    ("maximumRegret", .num? r.maximumRegret), ("nearTie", r.nearTie.toJson),
    ("noGoodOption", r.noGoodOption.toJson),
    ("recommendationPolicy", .str r.recommendationPolicy.text),
    ("policyPreferredHotelId", .text? r.policyPreferredHotelId),
    ("abstentionCode", .text? (r.abstentionCode.map AbstentionCode.text)),
    ("constraintRelaxation", r.constraintRelaxation.toJson),
    ("reasonCodes", .texts r.reasonCodes)]

def createFingerprint (rt : Runtime) (evaluation : RobustnessFindings) : String :=
  createStableHash rt evaluation.toJson "stayopti-v3-decision-robustness"

def createEvaluationId (rt : Runtime) (input : RobustnessInput) (options : ResolvedOptions) :
    String :=
  createStableHash rt (.obj [("geometryFingerprint", .str input.decisionGeometry.fingerprint),
    ("utilityFingerprints", .texts
      (sortedTexts (input.candidates.map fun candidate => candidate.utility.fingerprint))),
    ("sourceRisk", .arr ((sortBy (Contextual.byText rt CandidateInput.hotelId)
      input.candidates).map fun candidate =>
        .obj [("hotelId", .str candidate.hotelId),
          ("sourceRiskScore", .num? candidate.sourceRiskScore),
          ("sourceRiskLevel", .text? candidate.sourceRiskLevel),
          ("snapshotId", .text? (candidate.offerSnapshot.map fun snapshot =>
            snapshot.snapshotId))])),
    ("anchorHotelId", .text? input.anchorHotelId), ("options", options.toJson),
    ("constraintRelaxations", .arr (input.constraintRelaxations.map RelaxationCandidate.toJson))])
    "stayopti-v3-decision-robustness-evaluation"

/-- The tied members of a cohort. -/
def robustChoiceResolution (rt : Runtime) (candidateRegret : List CandidateRegret) :
    TieResolution CandidateRegret :=
  resolveDecisionTie rt candidateRegret compareRegret fun candidate =>
    .obj [("scenarioCount", .num candidate.scenarioCount), ("winRate", .num candidate.winRate),
      ("expectedRegret", .num candidate.expectedRegret),
      ("maximumRegret", .num candidate.maximumRegret),
      ("robustChoiceScore", .num candidate.robustChoiceScore)]

/-- The tied candidates when no one is usable. -/
def unavailableTieResolution (rt : Runtime) (candidates : List CandidateEvaluation) :
    TieResolution CandidateEvaluation :=
  resolveDecisionTie rt candidates (fun first second =>
    compareDecisionTieProjection rt (evaluationProjection first) (evaluationProjection second))
    evaluationProjection

/-- A resolution in terms of hotel ids. -/
structure EffectiveTie where
  classification : TieClassification
  hotelIds : List String
  representativeHotelId : Option String

def effectiveTie (rt : Runtime) (candidateRegret : List CandidateRegret)
    (candidates : List CandidateEvaluation) : EffectiveTie :=
  if 0 < candidateRegret.length then
    let resolution := robustChoiceResolution rt candidateRegret
    ⟨resolution.classification, resolution.leaders.map CandidateRegret.hotelId,
      resolution.presentationRepresentative.map CandidateRegret.hotelId⟩
  else
    let resolution := unavailableTieResolution rt candidates
    ⟨resolution.classification, resolution.leaders.map CandidateEvaluation.hotelId,
      resolution.presentationRepresentative.map CandidateEvaluation.hotelId⟩

def abstentionReason : Option AbstentionCode → String
  | none => "abstention:not-required"
  | some code => "abstention:" ++ code.text

def robustnessReasons (usableCount : Nat) (nearTie : NearTie) (tie : TieClassification)
    (noGoodOption : NoGoodOption) (robustChoice : Option CandidateRegret)
    (abstentionCode : Option AbstentionCode) (relaxation : RelaxationEvaluation) : List String :=
  uniqueSorted (["risk:shadow-only", "robustness:shadow-only"] ++
    (if 0 < usableCount then ["risk:evaluated", "robustness:evaluated", "regret:evaluated"]
      else []) ++
    (if nearTie.status = "detected" then ["robustness:near-tie"] else []) ++
    (if tie = .decisionallyEquivalent then ["robustness:decisionally-equivalent"] else []) ++
    (if noGoodOption.status = "detected" then ["robustness:no-good-option"] else []) ++
    (if robustChoice.any fun choice => 7 / 10 ≤ choice.winRate then ["robustness:scenario-stable"]
      else if 0 < usableCount then ["robustness:scenario-unstable"] else []) ++
    [abstentionReason abstentionCode] ++ relaxation.reasonCodes)

/-- The representative of the best members, or the first of them. -/
def robustChoice (rt : Runtime) (candidateRegret : List CandidateRegret) : Option CandidateRegret :=
  (robustChoiceResolution rt candidateRegret).presentationRepresentative.or
    (robustChoiceResolution rt candidateRegret).leaders.head?

/-- What is found of a cohort in its scenarios. -/
def cohortFindings (rt : Runtime) (input : RobustnessInput) (options : ResolvedOptions)
    (candidates : List CandidateEvaluation) (cohort : ComparisonCohort)
    (scenarios : List RobustnessScenario) (candidateRegret : List CandidateRegret) :
    RobustnessFindings :=
  let tie := effectiveTie rt candidateRegret candidates
  let choice := robustChoice rt candidateRegret
  let choiceEvaluation := choice.bind fun choice => findEvaluation candidates choice.hotelId
  let baseline := scenarios.find? fun scenario => scenario.scenarioId = .baseline
  let nearTie := detectNearTie baseline candidateRegret options
  let noGoodOption := detectNoGoodOption choiceEvaluation options
  let abstentionCode :=
    if 0 < candidateRegret.length ∧ tie.classification = .decisionallyEquivalent then
      some .indistinguishableOptions
    else resolveAbstention cohort.anchorHotelId choice candidateRegret choiceEvaluation nearTie
      noGoodOption options
  let policy : RecommendationPolicy := if abstentionCode = none then .recommend else .abstain
  let relaxation := evaluateConstraintRelaxation rt abstentionCode
    (choiceEvaluation.bind CandidateEvaluation.riskAdjustedUtility) input.constraintRelaxations
    options
  let usableCount := (usableCandidates candidates).length
  { evaluationId := createEvaluationId rt input options
    phase := "v3-05"
    rankingApplication := "shadow-only"
    status := if usableCount = 0 then .unavailable
      else if usableCount = candidates.length then .usable else .partly
    anchorHotelId := cohort.anchorHotelId
    comparisonCohortHotelIds := cohort.hotelIds
    candidates := candidates
    scenarios := scenarios
    candidateRegret := candidateRegret
    robustChoiceHotelId := if tie.classification = .decisionallyEquivalent then none
      else choice.map CandidateRegret.hotelId
    decisionTieClassification := tie.classification
    decisionallyEquivalentHotelIds := if tie.classification = .decisionallyEquivalent then
      uniqueSorted tie.hotelIds else []
    presentationRepresentativeHotelId := tie.representativeHotelId
    robustChoiceScore := choice.map CandidateRegret.robustChoiceScore
    expectedRegret := choice.map CandidateRegret.expectedRegret
    maximumRegret := choice.map CandidateRegret.maximumRegret
    nearTie := nearTie
    noGoodOption := noGoodOption
    recommendationPolicy := policy
    policyPreferredHotelId := if tie.classification = .decisionallyEquivalent then none
      else if policy = .recommend then choice.map CandidateRegret.hotelId else none
    abstentionCode := abstentionCode
    constraintRelaxation := relaxation
    reasonCodes := robustnessReasons usableCount nearTie tie.classification noGoodOption choice
      abstentionCode relaxation }

/-- What is found of evaluated candidates. -/
def robustnessFindings (rt : Runtime) (input : RobustnessInput) (options : ResolvedOptions)
    (candidates : List CandidateEvaluation) (sources : List ScenarioScoreInput) :
    RobustnessFindings :=
  let cohort := createComparisonCohort rt candidates input.anchorHotelId
  let scenarios := createScenarios rt sources cohort.hotelIds options
  cohortFindings rt input options candidates cohort scenarios
    (createCandidateRegret cohort.hotelIds scenarios candidates)

/-- `sourceByHotelId`. -/
def sourceOf (candidates : List CandidateEvaluation) (candidate : CandidateInput) :
    Except String ScenarioScoreInput :=
  match findEvaluation candidates candidate.hotelId with
  | none => .error ("Missing V3-05 candidate evaluation for " ++ candidate.hotelId ++ ".")
  | some evaluation => .ok ⟨candidate, evaluation⟩

/-- `evaluateDecisionRobustnessV3`. -/
def evaluateDecisionRobustness (rt : NumericRuntime) (input : RobustnessInput) :
    Except String DecisionRobustness := do
  let options ← resolveOptions input.options
  let hotelIds := input.candidates.map CandidateInput.hotelId
  if ¬ hotelIds.Nodup then .error "V3-05 robustness requires unique hotel IDs."
  else if sortedTexts hotelIds ≠ sortedTexts input.decisionGeometry.candidateHotelIds then
    .error "V3-05 robustness candidates must exactly cover Decision Geometry."
  else do
    let evaluated ← input.candidates.mapM fun candidate =>
      createCandidateEvaluation rt candidate options
    let candidates := sortBy (Contextual.byText rt.toRuntime CandidateEvaluation.hotelId) evaluated
    let sources ← input.candidates.mapM (sourceOf candidates)
    let findings := robustnessFindings rt.toRuntime input options candidates sources
    pure { findings with fingerprint := createFingerprint rt.toRuntime findings }

/-! ## 4. Validation -/

def candidateIds (evaluation : DecisionRobustness) : List String :=
  evaluation.candidates.map CandidateEvaluation.hotelId

def isWithinHundred (value : Option ℚ) : Bool := value.all fun x => 0 ≤ x && x ≤ 100

def candidateIsValid (candidate : CandidateEvaluation) : Bool :=
  0 < (JsText.trim candidate.hotelId).length &&
    0 ≤ candidate.choiceRiskScore && candidate.choiceRiskScore ≤ 100 &&
    0 ≤ candidate.evidenceStrength && candidate.evidenceStrength ≤ 1 &&
    0 ≤ candidate.riskPenalty && 0 ≤ candidate.uncertaintyWidth &&
    isWithinHundred candidate.riskAdjustedUtility && isWithinHundred candidate.downsideUtility

def scenarioIsValid (ids : List String) (scenario : RobustnessScenario) : Bool :=
  (scenario.candidateScores.all fun score => ids.contains score.hotelId &&
    0 ≤ score.riskAdjustedUtility && score.riskAdjustedUtility ≤ 100) &&
  scenario.winnerHotelIds.all fun hotelId =>
    scenario.candidateScores.any fun score => score.hotelId = hotelId

def robustChoiceIsValid (evaluation : DecisionRobustness) : Bool :=
  if evaluation.decisionTieClassification = .decisionallyEquivalent then
    evaluation.robustChoiceHotelId.isNone &&
      (if evaluation.status = .unavailable then
        evaluation.robustChoiceScore.isNone && evaluation.expectedRegret.isNone
      else evaluation.robustChoiceScore.isSome && evaluation.expectedRegret.isSome) &&
      2 ≤ evaluation.decisionallyEquivalentHotelIds.length &&
      (evaluation.decisionallyEquivalentHotelIds.all fun hotelId =>
        (candidateIds evaluation).contains hotelId) &&
      evaluation.presentationRepresentativeHotelId.all fun hotelId =>
        (candidateIds evaluation).contains hotelId
  else
    evaluation.decisionallyEquivalentHotelIds.length = 0 &&
      match evaluation.robustChoiceHotelId with
      | none => evaluation.robustChoiceScore.isNone && evaluation.expectedRegret.isNone
      | some hotelId => (candidateIds evaluation).contains hotelId &&
          evaluation.robustChoiceScore.any (fun score => 0 ≤ score && score ≤ 100) &&
          evaluation.expectedRegret.any (0 ≤ ·)

def policyIsValid (evaluation : DecisionRobustness) : Bool :=
  if evaluation.recommendationPolicy = .recommend then
    evaluation.abstentionCode.isNone &&
      evaluation.policyPreferredHotelId = evaluation.robustChoiceHotelId &&
      evaluation.policyPreferredHotelId.isSome
  else evaluation.abstentionCode.isSome && evaluation.policyPreferredHotelId.isNone

def relaxationIsValid (relaxation : RelaxationEvaluation) : Bool :=
  if relaxation.status = .recommended then relaxation.selected.isSome
  else relaxation.selected.isNone

/-- `validateDecisionRobustnessV3(evaluation).valid`. -/
def validateDecisionRobustness (rt : Runtime) (evaluation : DecisionRobustness) : Bool :=
  evaluation.phase = "v3-05" && evaluation.rankingApplication = "shadow-only" &&
    decide (candidateIds evaluation).Nodup &&
    (evaluation.comparisonCohortHotelIds.all fun hotelId =>
      (candidateIds evaluation).contains hotelId) &&
    evaluation.candidates.all candidateIsValid &&
    evaluation.scenarios.all (scenarioIsValid (candidateIds evaluation)) &&
    robustChoiceIsValid evaluation && policyIsValid evaluation &&
    relaxationIsValid evaluation.constraintRelaxation &&
    evaluation.fingerprint = createFingerprint rt evaluation.toRobustnessFindings

def assertDecisionRobustness (rt : Runtime) (evaluation : DecisionRobustness) :
    Except String DecisionRobustness :=
  if validateDecisionRobustness rt evaluation then .ok evaluation
  else .error "Invalid StayOpti V3-05 Decision Robustness evaluation."

end SmartStay.Robustness
