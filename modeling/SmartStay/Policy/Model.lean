import SmartStay.Policy.DecisionTie

/-!
# Candidates of the role policy

`engine-v3/policy/personalUtilityRolePolicyV3.ts`: the solutions of a case, the settings of a
profile, and what the policy computes about each solution. Numbers are rationals; `none` is
`null`. The search of `assertInput` for commercial field names is left out: an input of these
fields has none of them as a key.

1. Inputs.
2. `cloneSettings`.
3. `canonicalInput`, `assertInput`.
4. `evaluateCandidate`, `dominates`, `withDominance`.
-/

namespace SmartStay.Policy

open Contract JsSort

/-! ## 1. Inputs -/

/-- `StayOptiRolePolicyProfileV3`. -/
inductive Profile
  | maximumComfort | comfort | balanced | savings | maximumSavings
deriving DecidableEq, Repr

def Profile.text : Profile → String
  | .maximumComfort => "maximum-comfort"
  | .comfort => "comfort"
  | .balanced => "balanced"
  | .savings => "savings"
  | .maximumSavings => "maximum-savings"

/-- `StayOptiRolePolicyExperienceDimensionV3`. -/
inductive ExperienceDimension
  | quality | comfort | location | room | flexibility | longStays
deriving DecidableEq, Repr

def ExperienceDimension.text : ExperienceDimension → String
  | .quality => "quality"
  | .comfort => "comfort"
  | .location => "location"
  | .room => "room"
  | .flexibility => "flexibility"
  | .longStays => "long-stays"

/-- `STAYOPTI_ROLE_POLICY_EXPERIENCE_DIMENSIONS_V3`. -/
def experienceDimensions : List ExperienceDimension :=
  [.quality, .comfort, .location, .room, .flexibility, .longStays]

theorem mem_experienceDimensions (d : ExperienceDimension) : d ∈ experienceDimensions := by
  cases d <;> decide

inductive SolutionType
  | singleStay | splitStay
deriving DecidableEq, Repr

def SolutionType.text : SolutionType → String
  | .singleStay => "single-stay"
  | .splitStay => "split-stay"

inductive OfferIntegrity
  | verified | incomplete | invalid
deriving DecidableEq, Repr

def OfferIntegrity.text : OfferIntegrity → String
  | .verified => "verified"
  | .incomplete => "partial"
  | .invalid => "invalid"

structure DimensionInput where
  score : Option ℚ
  evidenceIds : List String := []

/-- `StayOptiRolePolicySolutionInputV3`. -/
structure SolutionInput where
  solutionId : String
  solutionType : SolutionType
  totalCost : Option ℚ
  currency : String
  hardConstraintsSatisfied : Option Bool
  offerIntegrity : OfferIntegrity
  dimensions : ExperienceDimension → DimensionInput
  evidenceIds : List String := []

/-- `RunStayOptiPersonalUtilityRolePolicyInputV3`. -/
structure PolicyInput where
  caseId : String
  profile : Profile
  totalBudget : ℚ
  currency : String
  nights : ℚ
  solutions : List SolutionInput

/-! ## 2. Settings -/

inductive BudgetTreatment
  | hardCeilingExperienceFirst | softOpportunityCost | hardCeilingPricePriority
deriving DecidableEq, Repr

def BudgetTreatment.text : BudgetTreatment → String
  | .hardCeilingExperienceFirst => "hard-ceiling-experience-first"
  | .softOpportunityCost => "soft-opportunity-cost"
  | .hardCeilingPricePriority => "hard-ceiling-price-priority"

/-- `StayOptiRolePolicyProfileSettingsV3`. -/
structure ProfileSettings where
  budgetTreatment : BudgetTreatment
  dimensionWeights : ExperienceDimension → ℚ
  choiceExperienceLossTolerance : ℚ
  opportunityCostPointsPerBudgetRatio : ℚ
  maximumBudgetOverrunRatio : ℚ
  minimumQualityScore : ℚ
  minimumExperienceScore : ℚ
  savingQualityLossTolerance : ℚ
  savingExperienceLossTolerance : ℚ
  upgradeMinimumExperienceGain : ℚ
  upgradeMinimumMarginalValuePer100 : ℚ

/-- Weights in hundredths, in the order of the dimensions. -/
def weights (quality comfort location room flexibility longStays : ℚ) : ExperienceDimension → ℚ
  | .quality => quality / 100
  | .comfort => comfort / 100
  | .location => location / 100
  | .room => room / 100
  | .flexibility => flexibility / 100
  | .longStays => longStays / 100

/-- `PROFILE_SETTINGS`. -/
def profileSettings : Profile → ProfileSettings
  | .maximumComfort =>
    { budgetTreatment := .hardCeilingExperienceFirst
      dimensionWeights := weights 32 25 16 17 7 3
      choiceExperienceLossTolerance := 1 / 2
      opportunityCostPointsPerBudgetRatio := 0
      maximumBudgetOverrunRatio := 0
      minimumQualityScore := 70
      minimumExperienceScore := 65
      savingQualityLossTolerance := 3
      savingExperienceLossTolerance := 4
      upgradeMinimumExperienceGain := 2
      upgradeMinimumMarginalValuePer100 := 1 }
  | .comfort =>
    { budgetTreatment := .hardCeilingExperienceFirst
      dimensionWeights := weights 28 24 18 18 8 4
      choiceExperienceLossTolerance := 3
      opportunityCostPointsPerBudgetRatio := 4
      maximumBudgetOverrunRatio := 0
      minimumQualityScore := 65
      minimumExperienceScore := 60
      savingQualityLossTolerance := 6
      savingExperienceLossTolerance := 7
      upgradeMinimumExperienceGain := 3
      upgradeMinimumMarginalValuePer100 := 3 / 2 }
  | .balanced =>
    { budgetTreatment := .softOpportunityCost
      dimensionWeights := weights 25 17 22 16 10 10
      choiceExperienceLossTolerance := 0
      opportunityCostPointsPerBudgetRatio := 24
      maximumBudgetOverrunRatio := 15 / 100
      minimumQualityScore := 60
      minimumExperienceScore := 55
      savingQualityLossTolerance := 10
      savingExperienceLossTolerance := 12
      upgradeMinimumExperienceGain := 4
      upgradeMinimumMarginalValuePer100 := 2 }
  | .savings =>
    { budgetTreatment := .hardCeilingPricePriority
      dimensionWeights := weights 22 13 18 12 10 25
      choiceExperienceLossTolerance := 0
      opportunityCostPointsPerBudgetRatio := 70
      maximumBudgetOverrunRatio := 0
      minimumQualityScore := 58
      minimumExperienceScore := 52
      savingQualityLossTolerance := 18
      savingExperienceLossTolerance := 20
      upgradeMinimumExperienceGain := 5
      upgradeMinimumMarginalValuePer100 := 3 }
  | .maximumSavings =>
    { budgetTreatment := .hardCeilingPricePriority
      dimensionWeights := weights 20 12 16 12 8 32
      choiceExperienceLossTolerance := 0
      opportunityCostPointsPerBudgetRatio := 100
      maximumBudgetOverrunRatio := 0
      minimumQualityScore := 55
      minimumExperienceScore := 50
      savingQualityLossTolerance := 25
      savingExperienceLossTolerance := 30
      upgradeMinimumExperienceGain := 6
      upgradeMinimumMarginalValuePer100 := 4 }

/-- The settings of a profile, in which long stays count from seven nights on. -/
def cloneSettings (profile : Profile) (nights : ℚ) : ProfileSettings :=
  { profileSettings profile with
    dimensionWeights := fun d =>
      if d = .longStays ∧ nights < 7 then 0 else (profileSettings profile).dimensionWeights d }

/-! ## 3. The canonical input -/

/-- `uniqueSorted`: without blank texts. -/
def uniqueSortedTexts (values : List String) : List String :=
  uniqueSorted (values.filter fun value => 0 < (JsText.trim value).length)

@[simp] theorem mem_uniqueSortedTexts {values : List String} {v : String} :
    v ∈ uniqueSortedTexts values ↔ v ∈ values ∧ 0 < (JsText.trim v).length := by
  simp [uniqueSortedTexts]

/-- The listed texts are determined by which texts there are. -/
theorem uniqueSortedTexts_congr {values values' : List String} (h : ∀ v, v ∈ values ↔ v ∈ values') :
    uniqueSortedTexts values = uniqueSortedTexts values' := by
  refine JsText.insertionSort_eq_of_perm
    ((List.perm_ext_iff_of_nodup (List.nodup_dedup _) (List.nodup_dedup _)).mpr fun v => ?_)
  simp [h v]

@[simp] theorem uniqueSortedTexts_singleton {v : String} (h : 0 < (JsText.trim v).length) :
    uniqueSortedTexts [v] = [v] := by
  simp [uniqueSortedTexts, uniqueSorted, h]

@[simp] theorem uniqueSortedTexts_nil : uniqueSortedTexts [] = [] := rfl

def boolOrNull : Option Bool → Json
  | none => .null
  | some b => .bool b

/-- What `canonicalInput` sorts solutions by: neither their ids nor their evidence. -/
def solutionProjection (s : SolutionInput) : Json :=
  .obj [("solutionType", .str s.solutionType.text), ("totalCost", .num? s.totalCost),
    ("currency", .str s.currency), ("hardConstraintsSatisfied", boolOrNull s.hardConstraintsSatisfied),
    ("offerIntegrity", .str s.offerIntegrity.text),
    ("dimensions", .obj (experienceDimensions.map fun d => (d.text, .num? (s.dimensions d).score)))]

def compareSolutions (rt : Runtime) (left right : SolutionInput) : Ordering :=
  compareDecisionTieProjection rt (solutionProjection left) (solutionProjection right)

/-- A solution with its evidence sorted. -/
def canonicalSolution (s : SolutionInput) : SolutionInput :=
  { s with
    dimensions := fun d => ⟨(s.dimensions d).score, uniqueSortedTexts (s.dimensions d).evidenceIds⟩
    evidenceIds := uniqueSortedTexts s.evidenceIds }

def canonicalInput (rt : Runtime) (input : PolicyInput) : PolicyInput :=
  { input with solutions := sortBy (compareSolutions rt) (input.solutions.map canonicalSolution) }

/-- The checks on one solution, given the ids before it. -/
def assertSolution (input : PolicyInput) (ids : List String) (s : SolutionInput) :
    Except String Unit :=
  if (JsText.trim s.solutionId).length = 0 || ids.contains s.solutionId ||
      s.currency ≠ input.currency || s.totalCost.any (· < 0) then
    .error ("Invalid role policy solution: " ++ s.solutionId ++ ".")
  else
    match experienceDimensions.find? fun d => (s.dimensions d).score.any fun v => v < 0 || 100 < v with
    | some d => .error ("Invalid " ++ d.text ++ " evidence for " ++ s.solutionId ++ ".")
    | none => .ok ()

def assertSolutions (input : PolicyInput) : List String → List SolutionInput → Except String Unit
  | _, [] => .ok ()
  | ids, s :: rest => do
    assertSolution input ids s
    assertSolutions input (s.solutionId :: ids) rest

def assertInput (input : PolicyInput) : Except String Unit :=
  if (JsText.trim input.caseId).length = 0 || input.totalBudget ≤ 0 ||
      (JsText.trim input.currency).length = 0 || input.nights.den ≠ 1 || input.nights ≤ 0 ||
      input.solutions.length < 2 then
    .error "Role policy input metadata is invalid."
  else assertSolutions input [] input.solutions

/-! ## 4. Candidates -/

inductive ContributionAvailability
  | available | missingNeutral | notApplicable
deriving DecidableEq, Repr

def ContributionAvailability.text : ContributionAvailability → String
  | .available => "available"
  | .missingNeutral => "missing-neutral"
  | .notApplicable => "not-applicable"

structure DimensionContribution where
  dimension : ExperienceDimension
  availability : ContributionAvailability
  sourceScore : Option ℚ
  configuredWeight : ℚ
  normalizedAvailableWeight : ℚ
  weightedValue : Option ℚ
  evidenceIds : List String
  transform : String

inductive CandidateStatus
  | comparable | ineligible | incomplete | splitDisabled
deriving DecidableEq, Repr

def CandidateStatus.text : CandidateStatus → String
  | .comparable => "comparable"
  | .ineligible => "ineligible"
  | .incomplete => "incomplete"
  | .splitDisabled => "split-disabled"

inductive BudgetStatus
  | within | softOverrun | overCeiling | unknown
deriving DecidableEq, Repr

def BudgetStatus.text : BudgetStatus → String
  | .within => "within"
  | .softOverrun => "soft-overrun"
  | .overCeiling => "over-ceiling"
  | .unknown => "unknown"

/-- `StayOptiRolePolicyCandidateEvaluationV3`. -/
structure CandidateEvaluation where
  solutionId : String
  solutionType : SolutionType
  status : CandidateStatus
  totalCost : Option ℚ
  currency : String
  budgetStatus : BudgetStatus
  qualityScore : Option ℚ
  minimumQualityMet : Option Bool
  experienceScore : Option ℚ
  opportunityCostPoints : Option ℚ
  personalUtilityScore : Option ℚ
  evidenceCoverage : ℚ
  availableDimensions : List ExperienceDimension
  missingDimensions : List ExperienceDimension
  contributions : List DimensionContribution
  dominatedBySolutionIds : List String
  reasonCodes : List String

def sumOver (f : ExperienceDimension → ℚ) : ℚ := (experienceDimensions.map f).sum

/-- The weight of the dimensions that have a score. -/
def availableWeight (settings : ProfileSettings) (s : SolutionInput) : ℚ :=
  sumOver fun d => if (s.dimensions d).score.isNone then 0 else settings.dimensionWeights d

def dimensionContribution (settings : ProfileSettings) (s : SolutionInput)
    (d : ExperienceDimension) : DimensionContribution :=
  let source := s.dimensions d
  let configuredWeight := settings.dimensionWeights d
  let evidenceIds := uniqueSortedTexts source.evidenceIds
  if configuredWeight = 0 then
    ⟨d, .notApplicable, source.score, configuredWeight, 0, none, evidenceIds, "none"⟩
  else
    match source.score with
    | none => ⟨d, .missingNeutral, none, configuredWeight, 0, none, evidenceIds, "none"⟩
    | some score =>
      let weight := availableWeight settings s
      let normalizedAvailableWeight := if weight = 0 then 0 else configuredWeight / weight
      ⟨d, .available, some score, configuredWeight, round normalizedAvailableWeight 6,
        some (round (score * normalizedAvailableWeight) 6), evidenceIds,
        "identity-premium-preserving"⟩

def experienceScore (settings : ProfileSettings) (s : SolutionInput) : Option ℚ :=
  if availableWeight settings s = 0 then none
  else some (round ((sumOver fun d =>
    match (s.dimensions d).score with
    | none => 0
    | some score => score * settings.dimensionWeights d) / availableWeight settings s) 6)

def budgetStatus (settings : ProfileSettings) (ratio : Option ℚ) : BudgetStatus :=
  match ratio with
  | none => .unknown
  | some ratio =>
    if ratio ≤ 1 then .within
    else if settings.budgetTreatment = .softOpportunityCost ∧
        ratio ≤ 1 + settings.maximumBudgetOverrunRatio then .softOverrun
    else .overCeiling

/-- The points for a ratio of the cost to the budget. -/
def opportunityCost (settings : ProfileSettings) (ratio : ℚ) : ℚ :=
  round (ratio * settings.opportunityCostPointsPerBudgetRatio +
    if budgetStatus settings (some ratio) = .softOverrun then (ratio - 1) * 40 else 0) 6

def evaluateCandidate (input : PolicyInput) (settings : ProfileSettings) (s : SolutionInput) :
    CandidateEvaluation :=
  let activeWeight := sumOver settings.dimensionWeights
  let contributions := experienceDimensions.map (dimensionContribution settings s)
  let experience := experienceScore settings s
  let evidenceCoverage :=
    if activeWeight = 0 then 0 else round (availableWeight settings s / activeWeight) 6
  let qualityScore := (s.dimensions .quality).score
  let minimumQualityMet := qualityScore.map fun q => decide (settings.minimumQualityScore ≤ q)
  let ratio := s.totalCost.map (· / input.totalBudget)
  let budget := budgetStatus settings ratio
  let opportunityCostPoints := ratio.map (opportunityCost settings)
  let personalUtilityScore := do
    let e ← experience
    let o ← opportunityCostPoints
    some (round (e - o) 6)
  let belowExperience := experience.any (· < settings.minimumExperienceScore)
  let reasonCodes :=
    (if s.solutionType = .splitStay then ["policy:split-disabled"] else []) ++
    (if s.hardConstraintsSatisfied ≠ some true then ["policy:hard-constraint-unresolved"] else []) ++
    (if s.offerIntegrity ≠ .verified then ["policy:offer-not-verified"] else []) ++
    (if budget = .overCeiling then ["policy:budget-ceiling-exceeded"] else []) ++
    (if minimumQualityMet = some false then ["policy:minimum-quality-not-met"] else []) ++
    (if belowExperience then ["policy:minimum-experience-not-met"] else []) ++
    (if evidenceCoverage < 1 then ["policy:missing-evidence-neutral"] else []) ++
    [if settings.opportunityCostPointsPerBudgetRatio = 0 then "policy:no-unused-budget-reward"
      else "policy:profile-calibrated-opportunity-cost"]
  let status : CandidateStatus :=
    if s.solutionType = .splitStay then .splitDisabled
    else if s.hardConstraintsSatisfied = some false || s.offerIntegrity = .invalid ||
        budget = .overCeiling || minimumQualityMet = some false || belowExperience then .ineligible
    else if s.hardConstraintsSatisfied.isNone || s.offerIntegrity = .incomplete ||
        s.totalCost.isNone || qualityScore.isNone || experience.isNone ||
        evidenceCoverage < 1 / 2 then .incomplete
    else .comparable
  { solutionId := s.solutionId
    solutionType := s.solutionType
    status
    totalCost := s.totalCost
    currency := s.currency
    budgetStatus := budget
    qualityScore
    minimumQualityMet
    experienceScore := experience
    opportunityCostPoints
    personalUtilityScore
    evidenceCoverage
    availableDimensions :=
      (contributions.filter (·.availability = .available)).map (·.dimension)
    missingDimensions :=
      (contributions.filter (·.availability = .missingNeutral)).map (·.dimension)
    contributions
    dominatedBySolutionIds := []
    reasonCodes := uniqueSortedTexts reasonCodes }

/-- The source score of a contribution to a dimension, `none` also where there is none. -/
def sourceScore (c : CandidateEvaluation) (d : ExperienceDimension) : Option ℚ :=
  (c.contributions.find? (·.dimension = d)).bind (·.sourceScore)

def activeDimensions (c : CandidateEvaluation) : List ExperienceDimension :=
  (c.contributions.filter (0 < ·.configuredWeight)).map (·.dimension)

def dominates (first second : CandidateEvaluation) : Bool :=
  first.status = .comparable && second.status = .comparable &&
  match first.totalCost, second.totalCost with
  | some firstCost, some secondCost =>
    let active := activeDimensions first
    firstCost ≤ secondCost &&
    active.all (fun d =>
      match sourceScore first d, sourceScore second d with
      | some firstScore, some secondScore => secondScore ≤ firstScore
      | _, _ => false) &&
    (firstCost < secondCost || active.any fun d =>
      match sourceScore first d, sourceScore second d with
      | some firstScore, some secondScore => secondScore < firstScore
      | _, _ => false)
  | _, _ => false

def withDominance (candidates : List CandidateEvaluation) : List CandidateEvaluation :=
  candidates.map fun candidate =>
    { candidate with
      dominatedBySolutionIds := ((candidates.filter fun other =>
        other.solutionId ≠ candidate.solutionId && dominates other candidate).map
          (·.solutionId)).insertionSort JsText.Le }

end SmartStay.Policy
