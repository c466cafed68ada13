import SmartStay.Contract.StableHash
import SmartStay.Lib.Fallible
import SmartStay.Pareto.Frontier

/-!
# Candidates of the upgrade curve

The input of `engine-v2/upgrade/smartUpgradeCurveEngine.ts`. Numbers are rationals; `none` stands for a
number that is missing or not finite. Evidence ids are left out: nothing depends on them.

1. `Candidate`, `UpgradeOptions`, `resolveOptions`.
2. `extractCost`, `extractDimensions`, `normalizeCandidate`.
-/

namespace SmartStay.Upgrade

open Pareto (DimensionCode ParetoStatus UtilityPreference UtilityStatus normalizeNonNegativeNumber
  normalizeRatio)

/-! ## 1. Input -/

/-- `SmartStayUpgradeBenefitDimensionV2`. -/
inductive BenefitDimension
  | quality | location | comfort | flexibility
deriving DecidableEq, Repr

/-- `BENEFIT_DIMENSIONS`. -/
def benefitDimensions : List BenefitDimension := [.quality, .location, .comfort, .flexibility]

def BenefitDimension.code : BenefitDimension → DimensionCode
  | .quality => .quality
  | .location => .location
  | .comfort => .comfort
  | .flexibility => .flexibility

/-- What the engine reads of `SmartStayUtilityContributionV2`. -/
structure UtilityContribution where
  dimension : DimensionCode
  available : Bool
  score : Option ℚ
  confidence : Option ℚ
  configuredWeight : Option ℚ

/-- What the engine reads of `SmartStayUserUtilityEvaluationV2`. -/
structure UtilityEvaluation where
  hotelId : String
  status : UtilityStatus
  eligibleForPrimaryRanking : Bool
  preference : UtilityPreference
  utilityScore : Option ℚ
  scoreConfidence : Option ℚ
  evidenceCoverage : Option ℚ
  contributions : List UtilityContribution

structure BudgetEvaluation where
  provided : Bool
  total : Option ℚ
  withinBudget : Option Bool
  overageAmount : Option ℚ
  overageRatio : Option ℚ

/-- What the engine reads of `SmartStayPriceValueEvaluationV2`. -/
structure PriceValueEvaluation where
  hotelId : String
  status : UtilityStatus
  eligibleForPrimaryRanking : Bool
  totalCost : Option ℚ
  currency : Option String
  costCompleteness : Option String
  budget : BudgetEvaluation
  confidence : Option ℚ

inductive RiskLevel
  | low | medium | high
deriving DecidableEq, Repr

structure RiskAssessment where
  score : Option ℚ
  level : RiskLevel

/-- `SmartStayUpgradeCurveCandidateV2`; absent reason codes are an empty list. -/
structure Candidate where
  hotelId : String
  eligibleForPrimaryRanking : Bool
  utility : UtilityEvaluation
  priceValue : PriceValueEvaluation
  risk : RiskAssessment
  paretoStatus : ParetoStatus
  exclusionReasonCodes : List String := []

/-- `SmartStayUpgradeCurveInputV2`. -/
structure UpgradeInput where
  baselineHotelId : String
  candidates : List Candidate

/-- The options that points depend on; those of the marginal evaluations are left out. -/
structure UpgradeOptions where
  minimumScoreConfidence : Option ℚ := none
  minimumEvidenceCoverage : Option ℚ := none
  minimumPriceConfidence : Option ℚ := none
  requireReportedCompleteCost : Option Bool := none
  minimumDimensionConfidence : Option ℚ := none
  minimumComparableDimensions : Option ℚ := none
  maximumBudgetOverageRatio : Option ℚ := none
  minimumExperienceGain : Option ℚ := none
  minimumStrongDimensionGain : Option ℚ := none
  maximumUtilityLoss : Option ℚ := none
  maximumSingleDimensionLoss : Option ℚ := none
  minimumAdjustedBenefit : Option ℚ := none
  minimumEfficiencyPerBudgetPercent : Option ℚ := none

structure ResolvedOptions where
  minimumScoreConfidence : ℚ
  minimumEvidenceCoverage : ℚ
  minimumPriceConfidence : ℚ
  requireReportedCompleteCost : Bool
  minimumDimensionConfidence : ℚ
  minimumComparableDimensions : ℕ
  maximumBudgetOverageRatio : ℚ
  minimumExperienceGain : ℚ
  minimumStrongDimensionGain : ℚ
  maximumUtilityLoss : ℚ
  maximumSingleDimensionLoss : ℚ
  minimumAdjustedBenefit : ℚ
  minimumEfficiencyPerBudgetPercent : ℚ

def normalizePositiveInteger (value : Option ℚ) (fallback maximum : ℕ) : ℕ :=
  match value with
  | none => fallback
  | some value =>
    if value < 1 then fallback else min (max (JsNumber.round value).toNat 1) maximum

def resolveOptions (options : UpgradeOptions) : ResolvedOptions where
  minimumScoreConfidence := normalizeRatio options.minimumScoreConfidence (55 / 100)
  minimumEvidenceCoverage := normalizeRatio options.minimumEvidenceCoverage (55 / 100)
  minimumPriceConfidence := normalizeRatio options.minimumPriceConfidence (6 / 10)
  requireReportedCompleteCost := options.requireReportedCompleteCost.getD true
  minimumDimensionConfidence := normalizeRatio options.minimumDimensionConfidence (6 / 10)
  minimumComparableDimensions :=
    normalizePositiveInteger options.minimumComparableDimensions 3 benefitDimensions.length
  maximumBudgetOverageRatio := normalizeRatio options.maximumBudgetOverageRatio (25 / 100)
  minimumExperienceGain := normalizeNonNegativeNumber options.minimumExperienceGain 4
  minimumStrongDimensionGain := normalizeNonNegativeNumber options.minimumStrongDimensionGain 8
  maximumUtilityLoss := normalizeNonNegativeNumber options.maximumUtilityLoss 6
  maximumSingleDimensionLoss := normalizeNonNegativeNumber options.maximumSingleDimensionLoss 12
  minimumAdjustedBenefit := normalizeNonNegativeNumber options.minimumAdjustedBenefit 3
  minimumEfficiencyPerBudgetPercent :=
    normalizeNonNegativeNumber options.minimumEfficiencyPerBudgetPercent (25 / 100)

/-! ## 2. Normalization -/

structure ComparableCost where
  amount : ℚ
  currency : String
  budgetTotal : ℚ
  withinBudget : Bool
  overageAmount : ℚ
  overageRatio : ℚ

structure DimensionSignal where
  score : ℚ
  confidence : ℚ
  configuredWeight : ℚ

structure NormalizedCandidate where
  hotelId : String
  source : Candidate
  baseEligible : Bool
  utilityScore : Option ℚ
  scoreConfidence : ℚ
  evidenceCoverage : ℚ
  riskScore : ℚ
  cost : Option ComparableCost
  dimensions : BenefitDimension → Option DimensionSignal
  exclusionReasonCodes : List String

section
variable (toUpperCase : String → String)

def normalizeCurrency (value : Option String) : Option String :=
  (value.map fun text => toUpperCase (JsText.trim text)).filter fun normalized =>
    normalized.length = 3 && normalized.toList.all fun c => 'A' ≤ c && c ≤ 'Z'

def normalizeUtilityScore (value : Option ℚ) : Option ℚ :=
  value.filter fun value => 0 ≤ value && value ≤ 100

def extractCost (evaluation : PriceValueEvaluation) (options : ResolvedOptions) :
    Option ComparableCost := do
  let currency ← normalizeCurrency toUpperCase evaluation.currency
  let totalCost ← evaluation.totalCost
  let confidence ← evaluation.confidence
  let budget := evaluation.budget
  let budgetTotal ← budget.total
  let withinBudget ← budget.withinBudget
  if evaluation.status = .invalid || evaluation.status = .unavailable ||
      !evaluation.eligibleForPrimaryRanking || totalCost ≤ 0 ||
      confidence < options.minimumPriceConfidence ||
      (options.requireReportedCompleteCost &&
        evaluation.costCompleteness ≠ some "reported-complete") ||
      !budget.provided || budgetTotal ≤ 0 then none else
  let computedOverageAmount := max (totalCost - budgetTotal) 0
  let computedOverageRatio := computedOverageAmount / budgetTotal
  if budget.overageAmount.any fun amount => 2 / 100 < |amount - computedOverageAmount| then none else
  if budget.overageRatio.any fun ratio => 2 / 10000 < |ratio - computedOverageRatio| then none else
  if withinBudget ≠ (totalCost ≤ budgetTotal : Bool) then none else
  some
    { amount := totalCost
      currency
      budgetTotal
      withinBudget
      overageAmount := computedOverageAmount
      overageRatio := computedOverageRatio }

/-- The signal of a contribution that counts. -/
def dimensionSignal (minimumDimensionConfidence : ℚ) (contribution : UtilityContribution) :
    Option DimensionSignal := do
  let score ← contribution.score
  let confidence ← contribution.confidence
  let configuredWeight ← contribution.configuredWeight
  if !contribution.available || score < 0 || 100 < score ||
      confidence < minimumDimensionConfidence || configuredWeight ≤ 0 then none
  else some ⟨score, confidence, configuredWeight⟩

/-- The last contribution of a dimension that counts. -/
def extractDimensions (contributions : List UtilityContribution) (minimumDimensionConfidence : ℚ)
    (dimension : BenefitDimension) : Option DimensionSignal :=
  (contributions.filter fun contribution => contribution.dimension = dimension.code).reverse.findSome?
    (dimensionSignal minimumDimensionConfidence)

/-- `dimensions.keys()`, sorted. -/
def dimensionCodes (candidate : NormalizedCandidate) : List BenefitDimension :=
  (benefitDimensions.filter fun dimension => (candidate.dimensions dimension).isSome).insertionSort
    fun first second => JsText.Le first.code.text second.code.text

def createPreferenceSignature (utility : UtilityEvaluation) : String :=
  let weights := "|".intercalate ((Pareto.uniqueSortedCodes Pareto.defaultDimensionCodes).map
    fun dimension => dimension.text ++ ":" ++
      match utility.preference.weights dimension with
      | some weight => JsNumber.toFixed6 weight
      | none => "NaN")
  "::".intercalate [utility.preference.id.text, weights]

def normalizeCandidate (options : ResolvedOptions) (candidate : Candidate) :
    Except String NormalizedCandidate :=
  let hotelId := JsText.trim candidate.hotelId
  if hotelId = "" then .error "Smart Upgrade Curve candidate requires a hotelId."
  else if candidate.utility.hotelId ≠ hotelId || candidate.priceValue.hotelId ≠ hotelId then
    .error ("Smart Upgrade Curve candidate hotelId mismatch: " ++ hotelId)
  else
    let utilityScore := normalizeUtilityScore candidate.utility.utilityScore
    let scoreConfidence := normalizeRatio candidate.utility.scoreConfidence 0
    let evidenceCoverage := normalizeRatio candidate.utility.evidenceCoverage 0
    let riskScore := JsNumber.clamp (candidate.risk.score.getD 100) 0 100
    .ok
      { hotelId
        source := candidate
        baseEligible := candidate.eligibleForPrimaryRanking &&
          candidate.utility.eligibleForPrimaryRanking && candidate.utility.status ≠ .invalid &&
          candidate.utility.status ≠ .unavailable && utilityScore.isSome &&
          options.minimumScoreConfidence ≤ scoreConfidence &&
          options.minimumEvidenceCoverage ≤ evidenceCoverage && candidate.risk.level ≠ .high &&
          riskScore < 60
        utilityScore
        scoreConfidence
        evidenceCoverage
        riskScore
        cost := extractCost toUpperCase candidate.priceValue options
        dimensions :=
          extractDimensions candidate.utility.contributions options.minimumDimensionConfidence
        exclusionReasonCodes := JsText.uniqueSorted candidate.exclusionReasonCodes }

end

end SmartStay.Upgrade
