import SmartStay.Contract.StableHash
import SmartStay.Lib.Fallible
import SmartStay.Lib.JsFloat
import SmartStay.Lib.WeightedMean
import SmartStay.Pareto.Frontier

/-!
# The user utility engine

`engine-v2/utility/userUtilityEngine.ts`: the utility of a hotel is the mean of its known dimension
scores, weighted by what the traveller prefers.

1. `UserUtilityInput`, `UserUtilityOptions`, `UserUtilityEvaluation`.
2. `resolvePreference`, `createWeights`, `normalizeDimension`.
3. `availableDimensions`, `rawUtilityScore`, `evidenceCoverage`, `scoreConfidence`.
4. `evaluateUserUtilityV2`.
-/

namespace SmartStay.Utility

open Contract WeightedMean
open Pareto (DimensionCode PreferenceId UtilityStatus defaultDimensionCodes uniqueSortedCodes)

/-! ## 1. Input and output -/

/-- `SmartStayUtilityPreferenceSourceV2`. -/
inductive PreferenceSource
  | automatic | manual | default
deriving DecidableEq, Repr

/-- `SmartStayReliabilityGateStatus`. -/
inductive ReliabilityGateStatus
  | invalid | lowConfidence | usable | strongData
deriving DecidableEq, Repr

/-- `SmartStayDimensionScoreV2`. -/
structure DimensionScore where
  score : Option JsFloat
  confidence : JsFloat
  signalCodes : List String
  evidenceIds : List String

/-- What the engine reads of `SmartStayReliabilityGateV2`. -/
structure ReliabilityGate where
  status : ReliabilityGateStatus
  eligible : Bool
  evidenceIds : List String

/-- `SmartStayUserUtilityInputV2`. -/
structure UserUtilityInput where
  targetHotelId : String
  scores : DimensionCode → DimensionScore
  reliabilityGate : ReliabilityGate
  preferenceId : Option String := none
  selectedIndex : Option JsFloat := none
  preferenceSource : Option PreferenceSource := none

/-- `SmartStayUserUtilityOptionsV2`; the custom weights are the record's own properties. -/
structure UserUtilityOptions where
  customWeights : DimensionCode → Option JsFloat := fun _ => none
  minimumStrongCoverage : Option JsFloat := none
  minimumStrongConfidence : Option JsFloat := none
  lowCoverageThreshold : Option JsFloat := none
  lowConfidenceThreshold : Option JsFloat := none

/-- `SmartStayUtilityPreferenceV2`. -/
structure UtilityPreference where
  id : PreferenceId
  selectedIndex : ℕ
  source : PreferenceSource
  weights : DimensionCode → ℚ

/-- `SmartStayUtilityContributionV2`. -/
structure UtilityContribution where
  dimension : DimensionCode
  available : Bool
  score : Option ℚ
  confidence : ℚ
  configuredWeight : ℚ
  normalizedAvailableWeight : ℚ
  weightedValue : ℚ
  signalCodes : List String
  evidenceIds : List String

/-- `SmartStayUserUtilityEvaluationV2`. -/
structure UserUtilityEvaluation where
  hotelId : String
  status : UtilityStatus
  eligibleForPrimaryRanking : Bool
  preference : UtilityPreference
  rawUtilityScore : Option ℚ
  utilityScore : Option ℚ
  scoreConfidence : ℚ
  evidenceCoverage : ℚ
  availableDimensionCodes : List DimensionCode
  unavailableDimensionCodes : List DimensionCode
  contributions : List UtilityContribution
  warningCodes : List String
  evidenceIds : List String

/-! ## 2. Preferences, weights, dimensions -/

/-- `PREFERENCE_IDS`. -/
def preferenceIds : List PreferenceId :=
  [.maximumComfort, .comfort, .balanced, .savings, .maximumSavings]

/-- `BASE_WEIGHTS`. -/
def baseWeights : PreferenceId → DimensionCode → ℚ
  | .maximumComfort => fun
    | .priceValue => 10 / 100
    | .quality => 28 / 100
    | .location => 20 / 100
    | .comfort => 20 / 100
    | .flexibility => 10 / 100
    | .categoryFit => 5 / 100
    | .userFit => 7 / 100
  | .comfort => fun
    | .priceValue => 16 / 100
    | .quality => 26 / 100
    | .location => 20 / 100
    | .comfort => 17 / 100
    | .flexibility => 9 / 100
    | .categoryFit => 5 / 100
    | .userFit => 7 / 100
  | .balanced => fun
    | .priceValue => 26 / 100
    | .quality => 22 / 100
    | .location => 18 / 100
    | .comfort => 13 / 100
    | .flexibility => 8 / 100
    | .categoryFit => 5 / 100
    | .userFit => 8 / 100
  | .savings => fun
    | .priceValue => 40 / 100
    | .quality => 18 / 100
    | .location => 14 / 100
    | .comfort => 9 / 100
    | .flexibility => 7 / 100
    | .categoryFit => 4 / 100
    | .userFit => 8 / 100
  | .maximumSavings => fun
    | .priceValue => 52 / 100
    | .quality => 15 / 100
    | .location => 10 / 100
    | .comfort => 6 / 100
    | .flexibility => 5 / 100
    | .categoryFit => 3 / 100
    | .userFit => 9 / 100

def normalizeRatio (value : Option JsFloat) (fallback : ℚ) : ℚ :=
  match value with
  | some (.finite x) => JsNumber.clamp x 0 1
  | _ => fallback

structure ResolvedPreference where
  id : PreferenceId
  selectedIndex : ℕ
  source : PreferenceSource
  warningCodes : List String

def resolvePreference (input : UserUtilityInput) : ResolvedPreference :=
  let named := input.preferenceId.any (· ≠ "")
  let source := input.preferenceSource.getD
    (if named || input.selectedIndex.isSome then .automatic else .default)
  match input.preferenceId.bind fun value => preferenceIds.find? fun id => id.text = value,
      input.selectedIndex with
  | some id, _ => { id, selectedIndex := preferenceIds.idxOf id, source, warningCodes := [] }
  | none, some (.finite index) =>
    let roundedIndex := JsNumber.round index
    let selectedIndex := (min (max roundedIndex 0) 4).toNat
    { id := preferenceIds.getD selectedIndex .balanced
      selectedIndex
      source
      warningCodes := if roundedIndex = selectedIndex then [] else ["preference-index-clamped"] }
  | none, _ =>
    { id := .balanced
      selectedIndex := 2
      source := .default
      warningCodes := if named then ["preference-id-invalid-defaulted"]
        else ["preference-defaulted-balanced"] }

/-- The check of one own property of the custom weights. -/
def checkWeight (customWeights : DimensionCode → Option JsFloat) (dimension : DimensionCode) :
    Except String Unit :=
  match customWeights dimension with
  | none => .ok ()
  | some (.finite x) =>
    if x < 0 then .error ("Invalid utility weight: " ++ dimension.text) else .ok ()
  | some _ => .error ("Invalid utility weight: " ++ dimension.text)

/-- The weight before it is divided by the total. -/
def configuredWeight (preferenceId : PreferenceId) (customWeights : DimensionCode → Option JsFloat)
    (dimension : DimensionCode) : ℚ :=
  match customWeights dimension with
  | some (.finite x) => x
  | _ => baseWeights preferenceId dimension

def createWeights (preferenceId : PreferenceId) (customWeights : DimensionCode → Option JsFloat) :
    Except String (DimensionCode → ℚ) := do
  defaultDimensionCodes.forM (checkWeight customWeights)
  let weights := configuredWeight preferenceId customWeights
  let totalWeight := (defaultDimensionCodes.map weights).sum
  if totalWeight ≤ 0 then
    .error "User Utility Engine requires at least one positive weight."
  else
    .ok fun dimension => weights dimension / totalWeight

structure NormalizedDimension where
  score : Option ℚ
  confidence : ℚ
  signalCodes : List String
  evidenceIds : List String
  invalid : Bool

def normalizeDimension (dimension : DimensionScore) : NormalizedDimension :=
  let unknown := fun invalid : Bool =>
    { score := none
      confidence := 0
      signalCodes := JsText.uniqueSorted dimension.signalCodes
      evidenceIds := JsText.uniqueSorted dimension.evidenceIds
      invalid : NormalizedDimension }
  match dimension.score with
  | none => unknown false
  | some (.finite score) =>
    if score < 0 ∨ 100 < score then unknown true
    else
      { unknown false with
        score := some (round score 2)
        confidence := round (normalizeRatio (some dimension.confidence) 0) 4 }
  | some _ => unknown true

/-! ## 3. The mean -/

section
variable (weights : DimensionCode → ℚ) (dimensions : DimensionCode → NormalizedDimension)

def available (dimension : DimensionCode) : Bool :=
  (dimensions dimension).score.isSome && 0 < weights dimension

def availableDimensions : List DimensionCode :=
  defaultDimensionCodes.filter (available weights dimensions)

def unavailableDimensions : List DimensionCode :=
  defaultDimensionCodes.filter fun dimension =>
    dimension ∉ availableDimensions weights dimensions && 0 < weights dimension

def availableWeight : ℚ := ((availableDimensions weights dimensions).map weights).sum

def totalConfiguredWeight : ℚ := (defaultDimensionCodes.map weights).sum

def rawUtilityScore : Option ℚ :=
  if 0 < availableWeight weights dimensions then
    some (weightedMean (availableDimensions weights dimensions)
      (fun dimension => (dimensions dimension).score.getD 0) weights)
  else none

def evidenceCoverage : ℚ :=
  if 0 < totalConfiguredWeight weights then
    availableWeight weights dimensions / totalConfiguredWeight weights
  else 0

def scoreConfidence : ℚ :=
  if 0 < totalConfiguredWeight weights then
    weightedMean defaultDimensionCodes (fun dimension =>
      if (dimensions dimension).score.isSome then (dimensions dimension).confidence else 0) weights
  else 0

def normalizedAvailableWeight (dimension : DimensionCode) : ℚ :=
  if available weights dimensions dimension && 0 < availableWeight weights dimensions then
    weights dimension / availableWeight weights dimensions
  else 0

/-- The contribution of a dimension before it is rounded. -/
def weightedValue (dimension : DimensionCode) : ℚ :=
  if available weights dimensions dimension then
    (dimensions dimension).score.getD 0 * normalizedAvailableWeight weights dimensions dimension
  else 0

def contribution (dimension : DimensionCode) : UtilityContribution where
  dimension
  available := available weights dimensions dimension
  score := (dimensions dimension).score
  confidence := (dimensions dimension).confidence
  configuredWeight := round (weights dimension) 4
  normalizedAvailableWeight := round (normalizedAvailableWeight weights dimensions dimension) 4
  weightedValue := round (weightedValue weights dimensions dimension) 4
  signalCodes := (dimensions dimension).signalCodes
  evidenceIds := (dimensions dimension).evidenceIds

end

/-! ## 4. The engine -/

/-- `DEFAULT_MINIMUM_STRONG_COVERAGE` and `DEFAULT_MINIMUM_STRONG_CONFIDENCE`. -/
def defaultMinimumStrong : ℚ := 8 / 10

/-- `DEFAULT_LOW_COVERAGE_THRESHOLD` and `DEFAULT_LOW_CONFIDENCE_THRESHOLD`. -/
def defaultLowThreshold : ℚ := 55 / 100

def warningCodes (input : UserUtilityInput) (options : UserUtilityOptions)
    (weights : DimensionCode → ℚ) (dimensions : DimensionCode → NormalizedDimension) :
    List String :=
  (resolvePreference input).warningCodes ++
  (defaultDimensionCodes.filter fun dimension => (dimensions dimension).invalid).map
    (fun dimension => "dimension-score-invalid:" ++ dimension.text) ++
  (unavailableDimensions weights dimensions).map
    (fun dimension => "utility-dimension-unavailable:" ++ dimension.text) ++
  (if evidenceCoverage weights dimensions <
      normalizeRatio options.lowCoverageThreshold defaultLowThreshold
    then ["utility-evidence-coverage-low"] else []) ++
  (if scoreConfidence weights dimensions <
      normalizeRatio options.lowConfidenceThreshold defaultLowThreshold
    then ["utility-score-confidence-low"] else []) ++
  (if input.reliabilityGate.eligible then [] else ["target-not-eligible-for-primary-ranking"])

def utilityScore (gate : ReliabilityGate) (rawUtilityScore : Option ℚ) : Option ℚ :=
  if gate.status = .invalid then none else rawUtilityScore.map (round · 2)

def utilityStatus (gate : ReliabilityGate) (options : UserUtilityOptions)
    (utilityScore : Option ℚ) (evidenceCoverage scoreConfidence : ℚ) : UtilityStatus :=
  if gate.status = .invalid then .invalid
  else if utilityScore.isNone then .unavailable
  else if gate.status = .strongData ∧ gate.eligible ∧
      normalizeRatio options.minimumStrongCoverage defaultMinimumStrong ≤ evidenceCoverage ∧
      normalizeRatio options.minimumStrongConfidence defaultMinimumStrong ≤ scoreConfidence
    then .strongData
  else .usable

/-- What `evaluateUserUtilityV2` returns once the weights are accepted. -/
def utilityEvaluation (input : UserUtilityInput) (options : UserUtilityOptions)
    (weights : DimensionCode → ℚ) : UserUtilityEvaluation :=
  let preference := resolvePreference input
  let dimensions := fun dimension => normalizeDimension (input.scores dimension)
  let raw := rawUtilityScore weights dimensions
  let score := utilityScore input.reliabilityGate raw
  let contributions := defaultDimensionCodes.map (contribution weights dimensions)
  { hotelId := JsText.trim input.targetHotelId
    status := utilityStatus input.reliabilityGate options score
      (evidenceCoverage weights dimensions) (scoreConfidence weights dimensions)
    eligibleForPrimaryRanking := input.reliabilityGate.eligible && score.isSome
    preference :=
      { id := preference.id
        selectedIndex := preference.selectedIndex
        source := preference.source
        weights := fun dimension => round (weights dimension) 4 }
    rawUtilityScore := raw.map (round · 4)
    utilityScore := score
    scoreConfidence := round (scoreConfidence weights dimensions) 4
    evidenceCoverage := round (evidenceCoverage weights dimensions) 4
    availableDimensionCodes := uniqueSortedCodes (availableDimensions weights dimensions)
    unavailableDimensionCodes := uniqueSortedCodes (unavailableDimensions weights dimensions)
    contributions
    warningCodes := JsText.uniqueSorted (warningCodes input options weights dimensions)
    evidenceIds := JsText.uniqueSorted
      (contributions.flatMap (·.evidenceIds) ++ input.reliabilityGate.evidenceIds) }

def evaluateUserUtilityV2 (input : UserUtilityInput) (options : UserUtilityOptions) :
    Except String UserUtilityEvaluation := do
  if JsText.trim input.targetHotelId = "" then
    throw "User Utility Engine requires a targetHotelId."
  let weights ← createWeights (resolvePreference input).id options.customWeights
  return utilityEvaluation input options weights

end SmartStay.Utility
