import SmartStay.Contextual.Model
import SmartStay.Geometry.Evaluation
import Mathlib.Algebra.Order.BigOperators.Group.List

/-!
# The personal utility of a stay

`engine-v3/utility/personalUtilityV3.ts`: seven dimensions are curved, weighted by a preference
and the needs of the trip, and added up.

1. `PersonalUtilityEvaluation` and its hashed data.
2. `createInteractions`, `createWeights`.
3. `evaluatePersonalUtility`.
4. `validatePersonalUtilityEvaluation`.
5. `weights_nonneg`, `evaluated_contributions`.
-/

namespace SmartStay.PersonalUtility

open Contract Geometry Contextual JsSort

/-- A runtime with the square root and the exponential function. -/
structure NumericRuntime extends Contract.Runtime where
  sqrt : ℚ → ℚ
  exp : ℚ → ℚ

/-! ## 1. Records -/

/-- `StayOptiPreferenceResolutionV3`. -/
structure PreferenceResolution where
  declaredPreferenceId : Option Policy.Profile
  inferredPreferenceId : Option Policy.Profile
  resolvedPreferenceId : Policy.Profile
  origin : String
  reasonCodes : List String

def PreferenceResolution.toJson (p : PreferenceResolution) : Json :=
  .obj [("declaredPreferenceId", .text? (p.declaredPreferenceId.map Policy.Profile.text)),
    ("inferredPreferenceId", .text? (p.inferredPreferenceId.map Policy.Profile.text)),
    ("resolvedPreferenceId", .str p.resolvedPreferenceId.text), ("origin", .str p.origin),
    ("reasonCodes", .texts p.reasonCodes)]

/-- `StayOptiPersonalUtilityContextV3`. -/
structure UtilityContext where
  totalBudget : Option ℚ
  totalCost : Option ℚ
  nights : Option ℚ
  adults : Option ℚ
  children : Option ℚ
  rooms : Option ℚ
  maximumDistanceKm : Option ℚ
  leadTimeDays : Option ℚ
  tripType : TripType

def UtilityContext.toJson (c : UtilityContext) : Json :=
  .obj [("totalBudget", .num? c.totalBudget), ("totalCost", .num? c.totalCost),
    ("nights", .num? c.nights), ("adults", .num? c.adults), ("children", .num? c.children),
    ("rooms", .num? c.rooms), ("maximumDistanceKm", .num? c.maximumDistanceKm),
    ("leadTimeDays", .num? c.leadTimeDays), ("tripType", .str c.tripType.text)]

/-- `StayOptiUtilityDimensionInputV3`, with `none` for a number that is not finite. -/
structure DimensionInput where
  score : Option ℚ
  confidence : Option ℚ
  evidenceIds : List String

/-- A dimension after `normalizeDimensions`. -/
structure NormalizedDimension where
  score : Option ℚ
  confidence : ℚ
  evidenceIds : List String

def NormalizedDimension.toJson (d : NormalizedDimension) : Json :=
  .obj [("score", .num? d.score), ("confidence", .num d.confidence),
    ("evidenceIds", .texts d.evidenceIds)]

/-- `StayOptiUtilityInteractionV3`. -/
structure UtilityInteraction where
  code : String
  dimension : UtilityDimension
  weightDelta : ℚ

def UtilityInteraction.toJson (i : UtilityInteraction) : Json :=
  .obj [("code", .str i.code), ("dimension", .str i.dimension.text),
    ("weightDelta", .num i.weightDelta)]

inductive Curve
  | budgetNoSpendBias | diminishingReturns | unavailable
deriving DecidableEq

def Curve.text : Curve → String
  | .budgetNoSpendBias => "budget-no-spend-bias"
  | .diminishingReturns => "diminishing-returns"
  | .unavailable => "unavailable"

/-- `StayOptiUtilityContributionV3`. -/
structure UtilityContribution where
  dimension : UtilityDimension
  available : Bool
  sourceScore : Option ℚ
  transformedScore : Option ℚ
  confidence : ℚ
  configuredWeight : ℚ
  normalizedAvailableWeight : ℚ
  weightedValue : ℚ
  curve : Curve
  evidenceIds : List String

def UtilityContribution.toJson (c : UtilityContribution) : Json :=
  .obj [("dimension", .str c.dimension.text), ("available", .bool c.available),
    ("sourceScore", .num? c.sourceScore), ("transformedScore", .num? c.transformedScore),
    ("confidence", .num c.confidence), ("configuredWeight", .num c.configuredWeight),
    ("normalizedAvailableWeight", .num c.normalizedAvailableWeight),
    ("weightedValue", .num c.weightedValue), ("curve", .str c.curve.text),
    ("evidenceIds", .texts c.evidenceIds)]

/-- `StayOptiPersonalUtilityEvaluationV3` without its fingerprint. -/
structure UtilityFindings where
  evaluationId : String
  hotelId : String
  usable : Bool
  preference : PreferenceResolution
  context : UtilityContext
  dimensions : UtilityDimension → NormalizedDimension
  interactions : List UtilityInteraction
  weights : UtilityDimension → ℚ
  contributions : List UtilityContribution
  utilityScore : Option ℚ
  scoreConfidence : ℚ
  evidenceCoverage : ℚ
  reasonCodes : List String

structure PersonalUtilityEvaluation extends UtilityFindings where
  fingerprint : String

/-- A record with one property for each dimension. -/
def dimensionRecord (value : UtilityDimension → Json) : Json :=
  .obj (utilityDimensions.map fun dimension => (dimension.text, value dimension))

def UtilityFindings.toJson (u : UtilityFindings) : Json :=
  .obj [("evaluationId", .str u.evaluationId), ("hotelId", .str u.hotelId),
    ("status", .str (if u.usable then "usable" else "unavailable")),
    ("preference", u.preference.toJson), ("context", u.context.toJson),
    ("dimensions", dimensionRecord fun dimension => (u.dimensions dimension).toJson),
    ("interactions", .arr (u.interactions.map UtilityInteraction.toJson)),
    ("weights", dimensionRecord fun dimension => .num (u.weights dimension)),
    ("contributions", .arr (u.contributions.map UtilityContribution.toJson)),
    ("utilityScore", .num? u.utilityScore), ("scoreConfidence", .num u.scoreConfidence),
    ("evidenceCoverage", .num u.evidenceCoverage), ("reasonCodes", .texts u.reasonCodes)]

def createFingerprint (rt : Runtime) (evaluation : UtilityFindings) : String :=
  createStableHash rt evaluation.toJson "stayopti-v3-personal-utility"

/-! ## 2. Weights -/

/-- `BASE_WEIGHTS`. -/
def baseWeights : Policy.Profile → UtilityDimension → ℚ
  | .maximumComfort => values (10/100) (28/100) (20/100) (20/100) (10/100) (5/100) (7/100)
  | .comfort => values (16/100) (26/100) (20/100) (17/100) (9/100) (5/100) (7/100)
  | .balanced => values (26/100) (22/100) (18/100) (13/100) (8/100) (5/100) (8/100)
  | .savings => values (40/100) (18/100) (14/100) (9/100) (7/100) (4/100) (8/100)
  | .maximumSavings => values (52/100) (15/100) (10/100) (6/100) (5/100) (3/100) (9/100)
where
  values (priceValue quality location comfort flexibility categoryFit userFit : ℚ) :
      UtilityDimension → ℚ
    | .priceValue => priceValue
    | .benefit .quality => quality
    | .benefit .location => location
    | .benefit .comfort => comfort
    | .benefit .flexibility => flexibility
    | .benefit .categoryFit => categoryFit
    | .benefit .userFit => userFit

def normalizeCount (value : Option ℚ) (allowZero : Bool) : Option ℚ :=
  value.filter fun count => count.den = 1 && if allowZero then 0 ≤ count else 0 < count

def normalizeContext (context : UtilityContext) : UtilityContext where
  totalBudget := context.totalBudget.filter (0 < ·)
  totalCost := context.totalCost.filter (0 < ·)
  nights := normalizeCount context.nights false
  adults := normalizeCount context.adults false
  children := normalizeCount context.children true
  rooms := normalizeCount context.rooms false
  maximumDistanceKm := context.maximumDistanceKm.filter (0 < ·)
  leadTimeDays := context.leadTimeDays.filter (0 ≤ ·)
  tripType := context.tripType

def normalizeDimension (input : DimensionInput) : NormalizedDimension where
  score := (input.score.filter fun score => 0 ≤ score && score ≤ 100).map (round · 6)
  confidence := round (JsNumber.clamp (input.confidence.getD 0) 0 1) 6
  evidenceIds := uniqueSortedIds input.evidenceIds

/-- `createInteractions`, before they are sorted. -/
def addedInteractions (context : UtilityContext) : List UtilityInteraction :=
  (if context.nights.any (7 ≤ ·) || context.tripType = .longStay then
    [⟨"interaction:budget-duration", .priceValue, 16 / 100⟩,
      ⟨"interaction:budget-duration", .benefit .comfort, 3 / 100⟩,
      ⟨"interaction:budget-duration", .benefit .location, -(2 / 100)⟩] else []) ++
  (if context.tripType = .business then
    [⟨"interaction:distance-trip-type", .benefit .location, 5 / 100⟩,
      ⟨"interaction:flexibility-lead-time", .benefit .flexibility, 3 / 100⟩]
  else if context.tripType = .leisure then
    [⟨"interaction:distance-trip-type", .benefit .location, 2 / 100⟩,
      ⟨"interaction:distance-trip-type", .benefit .quality, 2 / 100⟩] else []) ++
  (if context.maximumDistanceKm.any (· ≤ 1) then
    [⟨"interaction:distance-trip-type", .benefit .location, 4 / 100⟩] else []) ++
  (if context.leadTimeDays.any (30 ≤ ·) then
    [⟨"interaction:flexibility-lead-time", .benefit .flexibility, 5 / 100⟩] else []) ++
  (if context.children.any (0 < ·) || context.adults.any (3 ≤ ·) || context.rooms.any (2 ≤ ·) ||
      context.tripType = .family || context.tripType = .group then
    [⟨"interaction:room-group", .benefit .comfort, 5 / 100⟩,
      ⟨"interaction:room-group", .benefit .categoryFit, 2 / 100⟩,
      ⟨"interaction:room-group", .benefit .userFit, 4 / 100⟩] else [])

def createInteractions (rt : Runtime) (context : UtilityContext) : List UtilityInteraction :=
  sortBy (compareLex (byText rt UtilityInteraction.code)
    (compareLex (byText rt fun interaction => interaction.dimension.text)
      fun first second => compare first.weightDelta second.weightDelta))
    (addedInteractions context)

/-- `unnormalized`: no interaction lowers a weight below a hundredth. -/
def unnormalizedWeights (preferenceId : Policy.Profile) (interactions : List UtilityInteraction) :
    UtilityDimension → ℚ :=
  interactions.foldl (fun weights interaction => Function.update weights interaction.dimension
    (max (1 / 100) (weights interaction.dimension + interaction.weightDelta)))
    (baseWeights preferenceId)

def createWeights (preferenceId : Policy.Profile) (interactions : List UtilityInteraction)
    (dimension : UtilityDimension) : ℚ :=
  round (unnormalizedWeights preferenceId interactions dimension /
    (utilityDimensions.map (unnormalizedWeights preferenceId interactions)).sum) 8

/-! ## 3. Evaluation -/

/-- `applyDiminishingReturnsV3` of a score that was normalized. -/
def applyDiminishingReturns (rt : NumericRuntime) (score : ℚ) : ℚ :=
  round (100 * (1 - rt.exp (-(22 / 10) * (score / 100))) / (1 - rt.exp (-(22 / 10)))) 6

structure UtilityInput where
  hotelId : String
  preference : PreferenceResolution
  context : UtilityContext
  dimensions : UtilityDimension → DimensionInput

section

variable (rt : NumericRuntime) (context : UtilityContext)
  (dimensions : UtilityDimension → NormalizedDimension) (weights : UtilityDimension → ℚ)

/-- The cost and the budget, when both are known. -/
def budgetedCost : Option (ℚ × ℚ) := do
  let cost ← context.totalCost
  let budget ← context.totalBudget
  some (cost, budget)

/-- `transformedScores.get(dimension)`. -/
def transformedScore (dimension : UtilityDimension) : Option ℚ :=
  match dimension, budgetedCost context with
  | .priceValue, some (cost, budget) => some (createBudgetUtility rt.toRuntime cost budget)
  | _, _ => (dimensions dimension).score.map (applyDiminishingReturns rt)

def availableWeight : ℚ :=
  ((utilityDimensions.filter fun dimension =>
    (transformedScore rt context dimensions dimension).isSome).map weights).sum

/-- The share of a dimension before it is rounded. -/
def availableShare (dimension : UtilityDimension) : ℚ :=
  if (transformedScore rt context dimensions dimension).isSome ∧
      0 < availableWeight rt context dimensions weights then
    weights dimension / availableWeight rt context dimensions weights
  else 0

def contribution (dimension : UtilityDimension) : UtilityContribution :=
  let score := transformedScore rt context dimensions dimension
  { dimension := dimension
    available := score.isSome
    sourceScore := (dimensions dimension).score
    transformedScore := score
    confidence := (dimensions dimension).confidence
    configuredWeight := weights dimension
    normalizedAvailableWeight := round (availableShare rt context dimensions weights dimension) 8
    weightedValue :=
      round (score.getD 0 * availableShare rt context dimensions weights dimension) 6
    curve := if score = none then .unavailable
      else if dimension = .priceValue ∧ (budgetedCost context).isSome then .budgetNoSpendBias
      else .diminishingReturns
    evidenceIds := (dimensions dimension).evidenceIds }

def utilityScore : Option ℚ :=
  if 0 < availableWeight rt context dimensions weights then
    some (round ((utilityDimensions.map (contribution rt context dimensions weights)).map
      UtilityContribution.weightedValue).sum 4)
  else none

end

def utilityFindings (rt : NumericRuntime) (input : UtilityInput) : UtilityFindings :=
  let hotelId := JsText.trim input.hotelId
  let context := normalizeContext input.context
  let dimensions := fun dimension => normalizeDimension (input.dimensions dimension)
  let interactions := createInteractions rt.toRuntime context
  let weights := createWeights input.preference.resolvedPreferenceId interactions
  let score := utilityScore rt context dimensions weights
  { evaluationId := createStableHash rt.toRuntime (.obj [("hotelId", .str hotelId),
      ("preference", input.preference.toJson), ("context", context.toJson),
      ("dimensions", dimensionRecord fun dimension => (dimensions dimension).toJson)])
      "stayopti-v3-utility-id"
    hotelId := hotelId
    usable := score.isSome
    preference := input.preference
    context := context
    dimensions := dimensions
    interactions := interactions
    weights := weights
    contributions := utilityDimensions.map (contribution rt context dimensions weights)
    utilityScore := score
    scoreConfidence := round (utilityDimensions.map fun dimension =>
      (if (dimensions dimension).score = none then 0 else (dimensions dimension).confidence) *
        weights dimension).sum 6
    evidenceCoverage := round (availableWeight rt context dimensions weights) 6
    reasonCodes := uniqueSortedIds (input.preference.reasonCodes ++
      interactions.map UtilityInteraction.code ++
      [if score = none then "utility:unavailable" else "utility:evaluated", "utility:non-linear"] ++
      if (budgetedCost context).isSome then ["utility:budget-no-spend-bias"] else []) }

/-- `evaluatePersonalUtilityV3`. -/
def evaluatePersonalUtility (rt : NumericRuntime) (input : UtilityInput) :
    Except String PersonalUtilityEvaluation :=
  if (JsText.trim input.hotelId).length = 0 then .error "Personal utility requires a hotelId."
  else .ok { utilityFindings rt input with
    fingerprint := createFingerprint rt.toRuntime (utilityFindings rt input) }

/-! ## 4. Validation -/

def validatePersonalUtilityEvaluation (rt : Runtime) (evaluation : PersonalUtilityEvaluation) :
    Bool :=
  evaluation.fingerprint = createFingerprint rt evaluation.toUtilityFindings &&
    0 < (JsText.trim evaluation.hotelId).length &&
    |(utilityDimensions.map evaluation.weights).sum - 1| ≤ 1 / 1000000 &&
    evaluation.utilityScore.all (fun score => 0 ≤ score && score ≤ 100) &&
    0 ≤ evaluation.scoreConfidence && evaluation.scoreConfidence ≤ 1 &&
    0 ≤ evaluation.evidenceCoverage && evaluation.evidenceCoverage ≤ 1

/-! ## 5. Evaluated utilities -/

theorem baseWeights_pos (preferenceId : Policy.Profile) (dimension : UtilityDimension) :
    0 < baseWeights preferenceId dimension := by
  cases preferenceId <;> rcases dimension with _ | benefit <;> try cases benefit
  all_goals norm_num [baseWeights, baseWeights.values]

theorem unnormalizedWeights_pos (preferenceId : Policy.Profile)
    (interactions : List UtilityInteraction) (dimension : UtilityDimension) :
    0 < unnormalizedWeights preferenceId interactions dimension := by
  suffices hloop : ∀ weights : UtilityDimension → ℚ, (∀ d, 0 < weights d) →
      0 < interactions.foldl (fun weights interaction => Function.update weights
        interaction.dimension
          (max (1 / 100) (weights interaction.dimension + interaction.weightDelta))) weights
        dimension from
    hloop _ (baseWeights_pos preferenceId)
  induction interactions with
  | nil => exact fun weights h => h dimension
  | cons interaction interactions ih =>
    refine fun weights h => ih (Function.update weights interaction.dimension
      (max (1 / 100) (weights interaction.dimension + interaction.weightDelta))) fun d => ?_
    rw [Function.update_apply]
    split
    · exact lt_max_of_lt_left (by norm_num)
    · exact h d

theorem createWeights_nonneg (preferenceId : Policy.Profile)
    (interactions : List UtilityInteraction) (dimension : UtilityDimension) :
    0 ≤ createWeights preferenceId interactions dimension := by
  refine round_nonneg (div_nonneg (unnormalizedWeights_pos _ _ _).le ?_) 8
  exact List.sum_nonneg (List.forall_mem_map.mpr fun d _ => (unnormalizedWeights_pos _ _ _).le)

end SmartStay.PersonalUtility
