import SmartStay.Upgrade.Candidates

/-!
# The upgrade curve

Points above the budget, compared with a baseline within it. The marginal evaluations describe the
points of the frontier and change neither their status nor which upgrades are worthwhile; they are not
fields of a point here. The fields of a point that only show it are left out.

1. `UpgradePoint`, `createEmptyPoint`, `createBaselinePoint`.
2. `compareDimensions`, `createUpgradePoint`.
3. `dominates`, `applyEfficientFrontier`.
4. `createPoints`, `evaluateSmartUpgradeCurveV2`.
-/

namespace SmartStay.Upgrade

open Contract (round)
open JsSort
open Pareto (ParetoStatus)

/-! ## 1. Points -/

/-- `SmartStayUpgradePointStatusV2`. -/
inductive PointStatus
  | baseline | worthwhile | weak | notJustified | excluded
deriving DecidableEq, Repr

/-- `SmartStayUpgradeDimensionComparisonV2`. -/
structure DimensionComparison where
  dimension : BenefitDimension
  baselineScore : ℚ
  candidateScore : ℚ
  gain : ℚ
  baselineConfidence : ℚ
  candidateConfidence : ℚ
  normalizedWeight : ℚ

/-- `SmartStayUpgradeCurvePointV2`. -/
structure UpgradePoint where
  hotelId : String
  status : PointStatus
  curveEligible : Bool
  paretoStatus : ParetoStatus
  totalCost : Option ℚ
  budgetOverageRatio : Option ℚ
  utilityGain : Option ℚ
  dimensionComparisons : List DimensionComparison
  experienceGain : Option ℚ
  strongestGain : Option ℚ
  strongestLoss : Option ℚ
  confidenceFactor : ℚ
  adjustedBenefit : Option ℚ
  efficiencyPerBudgetPercent : Option ℚ
  efficientFrontier : Bool
  dominatedByHotelIds : List String
  reasonCodes : List String

def createEmptyPoint (candidate : NormalizedCandidate) (reasonCodes : List String) : UpgradePoint where
  hotelId := candidate.hotelId
  status := .excluded
  curveEligible := false
  paretoStatus := candidate.source.paretoStatus
  totalCost := candidate.cost.map fun cost => round cost.amount 2
  budgetOverageRatio := candidate.cost.map fun cost => round cost.overageRatio 4
  utilityGain := none
  dimensionComparisons := []
  experienceGain := none
  strongestGain := none
  strongestLoss := none
  confidenceFactor := 0
  adjustedBenefit := none
  efficiencyPerBudgetPercent := none
  efficientFrontier := false
  dominatedByHotelIds := []
  reasonCodes := JsText.uniqueSorted (candidate.exclusionReasonCodes ++ reasonCodes)

def createBaselinePoint (baseline : NormalizedCandidate) (cost : ComparableCost) : UpgradePoint :=
  { createEmptyPoint baseline
      ["upgrade-curve-baseline", "upgrade-curve-baseline-within-budget"] with
    status := .baseline
    curveEligible := true
    totalCost := some (round cost.amount 2)
    budgetOverageRatio := some 0
    utilityGain := some 0
    confidenceFactor := round (min baseline.scoreConfidence baseline.evidenceCoverage) 4
    adjustedBenefit := some 0
    efficiencyPerBudgetPercent := none
    efficientFrontier := true }

/-! ## 2. Upgrades -/

/-- The comparisons of the dimensions that the baseline has, all of which the candidate has too. -/
def compareDimensions (candidate baseline : NormalizedCandidate) : List DimensionComparison :=
  let signals := (dimensionCodes baseline).filterMap fun dimension =>
    match baseline.dimensions dimension, candidate.dimensions dimension with
    | some baselineDimension, some candidateDimension =>
      some (dimension, baselineDimension, candidateDimension)
    | _, _ => none
  let totalConfiguredWeight := (signals.map fun signal => signal.2.1.configuredWeight).sum
  signals.map fun (dimension, baselineDimension, candidateDimension) =>
    { dimension
      baselineScore := round baselineDimension.score 2
      candidateScore := round candidateDimension.score 2
      gain := round (candidateDimension.score - baselineDimension.score) 2
      baselineConfidence := round baselineDimension.confidence 4
      candidateConfidence := round candidateDimension.confidence 4
      normalizedWeight := round (baselineDimension.configuredWeight / totalConfiguredWeight) 6 }

/-- The sum of a value of the comparisons, each with its weight. -/
def weighted (comparisons : List DimensionComparison) (value : DimensionComparison → ℚ) : ℚ :=
  (comparisons.map fun comparison => value comparison * comparison.normalizedWeight).sum

/-- The largest value of a comparison, and zero at least. -/
def strongest (comparisons : List DimensionComparison) (value : DimensionComparison → ℚ) : ℚ :=
  ((comparisons.map value).max?.map fun largest => max largest 0).getD 0

/-- A reason for a check that holds, or the other for one that fails. -/
def reasonOf (check : Bool) (reason otherwise : String) : String := if check then reason else otherwise

/-- The point of a candidate whose dimensions can be compared. -/
def createComparedPoint (candidate baseline : NormalizedCandidate) (cost : ComparableCost)
    (options : ResolvedOptions) : UpgradePoint :=
  let comparisons := compareDimensions candidate baseline
  let experienceGain := weighted comparisons (·.gain)
  let strongestGain := strongest comparisons (·.gain)
  let strongestLoss := strongest comparisons (-·.gain)
  let weightedPairConfidence :=
    weighted comparisons fun comparison =>
      min comparison.baselineConfidence comparison.candidateConfidence
  let confidenceFactor := min (min (min (min baseline.scoreConfidence baseline.evidenceCoverage)
    candidate.scoreConfidence) candidate.evidenceCoverage) weightedPairConfidence
  let adjustedBenefit := max experienceGain 0 * confidenceFactor
  let budgetOveragePercent := cost.overageRatio * 100
  let efficiencyPerBudgetPercent :=
    if 0 < budgetOveragePercent then some (adjustedBenefit / budgetOveragePercent) else none
  let utilityGain := candidate.utilityScore.getD 0 - baseline.utilityScore.getD 0
  let meaningfulGain := options.minimumExperienceGain ≤ experienceGain ||
    options.minimumStrongDimensionGain ≤ strongestGain
  let utilityLossWithinLimit : Bool := -options.maximumUtilityLoss ≤ utilityGain
  let dimensionLossWithinLimit : Bool := strongestLoss ≤ options.maximumSingleDimensionLoss
  let adjustedBenefitSufficient : Bool := options.minimumAdjustedBenefit ≤ adjustedBenefit
  let efficiencySufficient := efficiencyPerBudgetPercent.any fun efficiency =>
    options.minimumEfficiencyPerBudgetPercent ≤ efficiency
  let paretoStatus := candidate.source.paretoStatus
  let reasonCodes :=
    ["upgrade-above-budget", "upgrade-same-currency-comparison",
      "upgrade-comparable-dimensions-verified",
      reasonOf meaningfulGain "upgrade-meaningful-experience-gain"
        "upgrade-experience-gain-too-small",
      reasonOf utilityLossWithinLimit "upgrade-utility-loss-within-limit"
        "upgrade-utility-loss-excessive",
      reasonOf dimensionLossWithinLimit "upgrade-dimension-loss-within-limit"
        "upgrade-dimension-loss-excessive",
      reasonOf adjustedBenefitSufficient "upgrade-confidence-adjusted-benefit-sufficient"
        "upgrade-confidence-adjusted-benefit-low",
      reasonOf efficiencySufficient "upgrade-cost-efficiency-sufficient"
        "upgrade-cost-efficiency-low"] ++
    match paretoStatus with
    | .frontier => []
    | .dominated => ["upgrade-pareto-dominated"]
    | .unknown => ["upgrade-pareto-unverified"]
  { hotelId := candidate.hotelId
    status :=
      if meaningfulGain && utilityLossWithinLimit && dimensionLossWithinLimit &&
          adjustedBenefitSufficient && efficiencySufficient && paretoStatus = .frontier then
        .worthwhile
      else if 0 < experienceGain && utilityLossWithinLimit && dimensionLossWithinLimit &&
          paretoStatus ≠ .dominated then .weak
      else .notJustified
    curveEligible := true
    paretoStatus
    totalCost := some (round cost.amount 2)
    budgetOverageRatio := some (round cost.overageRatio 4)
    utilityGain := some (round utilityGain 2)
    dimensionComparisons := comparisons
    experienceGain := some (round experienceGain 4)
    strongestGain := some (round strongestGain 2)
    strongestLoss := some (round strongestLoss 2)
    confidenceFactor := round confidenceFactor 4
    adjustedBenefit := some (round adjustedBenefit 4)
    efficiencyPerBudgetPercent := efficiencyPerBudgetPercent.map fun efficiency => round efficiency 4
    efficientFrontier := false
    dominatedByHotelIds := []
    reasonCodes := JsText.uniqueSorted (candidate.exclusionReasonCodes ++ reasonCodes) }

def createUpgradePoint (baseline : NormalizedCandidate) (baselineCost : ComparableCost)
    (options : ResolvedOptions) (candidate : NormalizedCandidate) : UpgradePoint :=
  if !candidate.baseEligible then createEmptyPoint candidate ["upgrade-candidate-not-eligible"]
  else
    match candidate.cost with
    | none => createEmptyPoint candidate ["upgrade-comparable-cost-unavailable"]
    | some cost =>
      let baselineDimensionCodes := dimensionCodes baseline
      let missingDimensionCodes := baselineDimensionCodes.filter fun dimension =>
        (candidate.dimensions dimension).isNone
      let totalConfiguredWeight := (baselineDimensionCodes.map fun dimension =>
        ((baseline.dimensions dimension).map (·.configuredWeight)).getD 0).sum
      if cost.currency ≠ baselineCost.currency then
        createEmptyPoint candidate ["upgrade-currency-mismatch"]
      else if 2 / 100 < |cost.budgetTotal - baselineCost.budgetTotal| then
        createEmptyPoint candidate ["upgrade-budget-context-mismatch"]
      else if cost.withinBudget || cost.overageRatio ≤ 0 then
        createEmptyPoint candidate ["upgrade-candidate-not-above-budget"]
      else if options.maximumBudgetOverageRatio < cost.overageRatio then
        { createEmptyPoint candidate ["upgrade-budget-overage-excessive"] with
          status := .notJustified }
      else if baselineDimensionCodes.length < options.minimumComparableDimensions ||
          0 < missingDimensionCodes.length then
        createEmptyPoint candidate
          ((if baselineDimensionCodes.length < options.minimumComparableDimensions then
              "upgrade-baseline-comparable-data-insufficient"
            else "upgrade-candidate-comparable-data-insufficient") ::
            missingDimensionCodes.map fun dimension =>
              "upgrade-dimension-unavailable:" ++ dimension.code.text)
      else if totalConfiguredWeight ≤ 0 then
        createEmptyPoint candidate ["upgrade-dimension-weights-unavailable"]
      else createComparedPoint candidate baseline cost options

/-! ## 3. The frontier -/

/-- `0.000001`, less than two different rounded numbers differ by. -/
def frontierTolerance : ℚ := 1 / 1000000

/-- A point that the frontier compares. -/
def isComparable (point : UpgradePoint) : Bool :=
  (point.status = .worthwhile || point.status = .weak) && point.paretoStatus = .frontier &&
    point.budgetOverageRatio.isSome && point.adjustedBenefit.isSome

/-- The filter of the dominators of `point`. -/
def dominates (other point : UpgradePoint) : Bool :=
  match other.budgetOverageRatio, other.adjustedBenefit, point.budgetOverageRatio,
    point.adjustedBenefit with
  | some otherOverage, some otherBenefit, some pointOverage, some pointBenefit =>
    other.hotelId ≠ point.hotelId && otherOverage ≤ pointOverage + frontierTolerance &&
      pointBenefit - frontierTolerance ≤ otherBenefit &&
      (otherOverage < pointOverage - frontierTolerance ||
        pointBenefit + frontierTolerance < otherBenefit)
  | _, _, _, _ => false

/-- What the loop makes of a point. It changes no field that `dominates` reads. -/
def markPoint (comparablePoints : List UpgradePoint) (point : UpgradePoint) : UpgradePoint :=
  let dominators := comparablePoints.filter (dominates · point)
  { point with
    dominatedByHotelIds := JsText.uniqueSorted (dominators.map (·.hotelId))
    efficientFrontier := dominators.length = 0
    reasonCodes := JsText.uniqueSorted (point.reasonCodes ++
      [if 0 < dominators.length then "upgrade-dominated-on-curve" else "upgrade-efficient-frontier"])
    status := if 0 < dominators.length && point.status = .worthwhile then .notJustified
      else point.status }

def applyEfficientFrontier (points : List UpgradePoint) : List UpgradePoint :=
  let comparablePoints := points.filter isComparable
  points.map fun point => if isComparable point then markPoint comparablePoints point else point

/-! ## 4. The curve -/

def compareStrings (first second : String) : Ordering :=
  compare (JsText.utf16 first) (JsText.utf16 second)

/-- The points before `applyEfficientFrontier` runs. -/
def createPoints (toUpperCase : String → String) (input : UpgradeInput) (options : UpgradeOptions) :
    Except String (List UpgradePoint) := do
  let baselineHotelId := JsText.trim input.baselineHotelId
  if baselineHotelId = "" then throw "Smart Upgrade Curve requires a baselineHotelId."
  let resolvedOptions := resolveOptions options
  let candidates ← input.candidates.mapM (normalizeCandidate toUpperCase resolvedOptions)
  let normalizedCandidates :=
    sortBy (fun first second => compareStrings first.hotelId second.hotelId) candidates
  if ¬ (normalizedCandidates.map (·.hotelId)).Nodup then
    throw "Smart Upgrade Curve received duplicate hotelIds."
  let some baseline := normalizedCandidates.find? fun c => c.hotelId = baselineHotelId
    | throw "Smart Upgrade Curve baseline candidate was not found."
  if 1 < normalizedCandidates.length && normalizedCandidates.any fun c =>
      createPreferenceSignature c.source.utility ≠ createPreferenceSignature baseline.source.utility then
    throw "Smart Upgrade Curve candidates must use the same utility preference and weights."
  let some baselineCost := baseline.cost.filter fun cost => baseline.baseEligible &&
      cost.withinBudget && cost.amount ≤ cost.budgetTotal &&
      resolvedOptions.minimumComparableDimensions ≤ (dimensionCodes baseline).length
    | throw "Smart Upgrade Curve baseline must be an eligible, verified within-budget candidate with sufficient comparable dimensions."
  return createBaselinePoint baseline baselineCost ::
    (normalizedCandidates.filter fun c => c.hotelId ≠ baseline.hotelId).map
      (createUpgradePoint baseline baselineCost resolvedOptions)

/-- The order of the points: the baseline first, then by cost. -/
def comparePoints : UpgradePoint → UpgradePoint → Ordering :=
  compareLex (compareOn fun point => !decide (point.status = .baseline)) <|
  compareLex (compareOn fun point => (show WithTop ℚ from point.totalCost))
    (compareOn fun point => JsText.utf16 point.hotelId)

/-- The order of the worthwhile points: the most efficient first. -/
def compareWorthwhile : UpgradePoint → UpgradePoint → Ordering :=
  compareLex (fun first second => compareOn (·.efficiencyPerBudgetPercent.getD (-1)) second first) <|
  compareLex (fun first second => compareOn (·.adjustedBenefit.getD (-1)) second first) <|
  compareLex (compareOn fun point => (show WithTop ℚ from point.budgetOverageRatio))
    (compareOn fun point => JsText.utf16 point.hotelId)

/-- What the roles read of `SmartStayUpgradeCurveEvaluationV2`. -/
structure UpgradeCurve where
  points : List UpgradePoint
  worthwhileUpgradeHotelIds : List String
  bestValueUpgradeHotelId : Option String

def isWorthwhile (point : UpgradePoint) : Bool := point.status = .worthwhile && point.efficientFrontier

def evaluateSmartUpgradeCurveV2 (toUpperCase : String → String) (input : UpgradeInput)
    (options : UpgradeOptions) : Except String UpgradeCurve := do
  let created ← createPoints toUpperCase input options
  let points := sortBy comparePoints (applyEfficientFrontier created)
  let worthwhilePoints := sortBy compareWorthwhile (points.filter isWorthwhile)
  return {
    points
    worthwhileUpgradeHotelIds := worthwhilePoints.map (·.hotelId)
    bestValueUpgradeHotelId := worthwhilePoints.head?.map (·.hotelId) }

end SmartStay.Upgrade
