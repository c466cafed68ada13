import SmartStay.Policy.Model

/-!
# The roles of the policy

1. Comparators, `chooseBestChoice`.
2. Selections: `choiceRole`, `savingRole`, `upgradeRole`.
-/

namespace SmartStay.Policy

open Contract JsSort

/-! ## 1. The best choice -/

/-- A missing number counts as negative infinity. The source answers `NaN` for two missing
    numbers, but compares none: the candidates it compares have all of theirs. -/
def compareNumberDescending (left right : Option ℚ) : Ordering :=
  compare (α := WithBot ℚ) right left

/-- A missing number counts as positive infinity. -/
def compareNumberAscending (left right : Option ℚ) : Ordering :=
  compare (α := WithTop ℚ) left right

/-- `compareNumberDescending` on a field. -/
def descending {α : Type} (f : α → Option ℚ) (left right : α) : Ordering :=
  compareNumberDescending (f left) (f right)

/-- `compareNumberAscending` on a field. -/
def ascending {α : Type} (f : α → Option ℚ) (left right : α) : Ordering :=
  compareNumberAscending (f left) (f right)

instance {α : Type} (f : α → Option ℚ) : Std.TransCmp (descending f) :=
  let key : α → WithBot ℚ := f
  inferInstanceAs (Std.TransCmp fun a b => compareOn key b a)

instance {α : Type} (f : α → Option ℚ) : Std.TransCmp (ascending f) :=
  let key : α → WithTop ℚ := f
  inferInstanceAs (Std.TransCmp (compareOn key))

theorem descending_some {α : Type} {f : α → Option ℚ} {a b : α} {x y : ℚ} (ha : f a = some x)
    (hb : f b = some y) : descending f a b ≠ .gt ↔ y ≤ x := by
  simp only [descending, compareNumberDescending, ha, hb]
  exact (compare_le_iff_le (α := WithBot ℚ)).trans WithBot.coe_le_coe

theorem ascending_some {α : Type} {f : α → Option ℚ} {a b : α} {x y : ℚ} (ha : f a = some x)
    (hb : f b = some y) : ascending f a b ≠ .gt ↔ x ≤ y := by
  simp only [ascending, compareNumberAscending, ha, hb]
  exact (compare_le_iff_le (α := WithTop ℚ)).trans WithTop.coe_le_coe

def DimensionContribution.projection (c : DimensionContribution) : Json :=
  .obj [("dimension", .str c.dimension.text), ("availability", .str c.availability.text),
    ("sourceScore", .num? c.sourceScore), ("configuredWeight", .num c.configuredWeight),
    ("normalizedAvailableWeight", .num c.normalizedAvailableWeight),
    ("weightedValue", .num? c.weightedValue), ("transform", .str c.transform)]

def dimensionTexts (dimensions : List ExperienceDimension) : Json :=
  .texts (dimensions.map (·.text))

def candidatePresentationProjection (c : CandidateEvaluation) : Json :=
  .obj [("solutionType", .str c.solutionType.text), ("status", .str c.status.text),
    ("totalCost", .num? c.totalCost), ("currency", .str c.currency),
    ("budgetStatus", .str c.budgetStatus.text), ("qualityScore", .num? c.qualityScore),
    ("minimumQualityMet", boolOrNull c.minimumQualityMet),
    ("experienceScore", .num? c.experienceScore),
    ("opportunityCostPoints", .num? c.opportunityCostPoints),
    ("personalUtilityScore", .num? c.personalUtilityScore),
    ("evidenceCoverage", .num c.evidenceCoverage),
    ("availableDimensions", dimensionTexts c.availableDimensions),
    ("missingDimensions", dimensionTexts c.missingDimensions),
    ("contributions", .arr (c.contributions.map (·.projection)))]

/-- `compare` of `chooseBestChoice`. -/
def compareChoices : Profile → CandidateEvaluation → CandidateEvaluation → Ordering
  | .maximumComfort => compareLex (descending (·.experienceScore)) (ascending (·.totalCost))
  | .maximumSavings => compareLex (ascending (·.totalCost)) (descending (·.experienceScore))
  | .comfort | .balanced | .savings =>
    compareLex (descending (·.personalUtilityScore))
      (compareLex (descending (·.experienceScore)) (ascending (·.totalCost)))

instance (profile : Profile) : Std.TransCmp (compareChoices profile) := by
  cases profile <;> exact inferInstanceAs (Std.TransCmp (compareLex _ _))

/-- `Math.max(...values)`, with negative infinity for no values. -/
def maximumExperience : List CandidateEvaluation → WithBot ℚ
  | [] => ⊥
  | c :: rest =>
    match c.experienceScore with
    | none => maximumExperience rest
    | some e => max (e : WithBot ℚ) (maximumExperience rest)

theorem maximumExperience_le {l : List CandidateEvaluation} {x : WithBot ℚ} :
    maximumExperience l ≤ x ↔
      ∀ c ∈ l, ∀ e : ℚ, c.experienceScore = some e → (e : WithBot ℚ) ≤ x := by
  induction l with
  | nil => simp [maximumExperience]
  | cons c l ih =>
    rw [List.forall_mem_cons, ← ih, maximumExperience]
    cases c.experienceScore with
    | none => simp
    | some e => simp

/-- The candidates whose experience is within the tolerance of the best one. -/
def experienceBand (settings : ProfileSettings) (candidates : List CandidateEvaluation) :
    List CandidateEvaluation :=
  candidates.filter fun c =>
    match c.experienceScore with
    | none => false
    | some e => maximumExperience candidates ≤
        ((e + settings.choiceExperienceLossTolerance : ℚ) : WithBot ℚ)

theorem mem_experienceBand {settings : ProfileSettings} {l : List CandidateEvaluation}
    {c : CandidateEvaluation} : c ∈ experienceBand settings l ↔ c ∈ l ∧
      ∃ e, c.experienceScore = some e ∧ ∀ o ∈ l, ∀ e', o.experienceScore = some e' →
        e' ≤ e + settings.choiceExperienceLossTolerance := by
  rw [experienceBand, List.mem_filter]
  refine and_congr_right fun _ => ?_
  cases c.experienceScore with
  | none => simp
  | some e => simp [maximumExperience_le, -WithBot.coe_add]

/-- A comparable candidate that none dominates. -/
def undominated (c : CandidateEvaluation) : Bool :=
  c.status = .comparable && c.dominatedBySolutionIds.length = 0

def chooseBestChoice (rt : Runtime) (candidates : List CandidateEvaluation) (profile : Profile)
    (settings : ProfileSettings) : Option (TieResolution CandidateEvaluation) :=
  let eligible := candidates.filter undominated
  if eligible.length = 0 then none
  else
    let considered := if profile = .comfort then experienceBand settings eligible else eligible
    some (resolveDecisionTie rt considered (compareChoices profile) candidatePresentationProjection)

/-! ## 2. Selections -/

/-- `StayOptiRolePolicyRoleV3`. -/
inductive Role
  | bestChoice | bestSensibleSaving | worthwhileComfortUpgrade | split
deriving DecidableEq, Repr

def Role.text : Role → String
  | .bestChoice => "best-choice"
  | .bestSensibleSaving => "best-sensible-saving"
  | .worthwhileComfortUpgrade => "worthwhile-comfort-upgrade"
  | .split => "split"

/-- `StayOptiRolePolicySelectionStatusV3`. -/
inductive SelectionStatus
  | selected | decisionallyEquivalent | notApplicable | abstained | disabled
deriving DecidableEq, Repr

def SelectionStatus.text : SelectionStatus → String
  | .selected => "selected"
  | .decisionallyEquivalent => "decisionally-equivalent"
  | .notApplicable => "not-applicable"
  | .abstained => "abstained"
  | .disabled => "disabled"

/-- `StayOptiRolePolicyMetricsV3`; the defaults are `emptyMetrics()`. -/
structure Metrics where
  totalCost : Option ℚ := none
  experienceScore : Option ℚ := none
  qualityScore : Option ℚ := none
  opportunityCostPoints : Option ℚ := none
  savingAmount : Option ℚ := none
  qualityLoss : Option ℚ := none
  experienceLoss : Option ℚ := none
  qualityLossTolerance : Option ℚ := none
  experienceLossTolerance : Option ℚ := none
  upgradePremium : Option ℚ := none
  experienceGain : Option ℚ := none
  marginalValuePer100 : Option ℚ := none
  marginalValueThreshold : Option ℚ := none

structure Explanation where
  headlineKey : String
  mainSacrifice : String
  decisiveVariable : String
  choiceChangingCounterfactual : String
  evidenceIds : List String
  uncertaintyCodes : List String

/-- `StayOptiRolePolicySelectionV3`. -/
structure Selection where
  role : Role
  status : SelectionStatus
  solutionId : Option String
  decisionTieClassification : TieClassification
  equivalentSolutionIds : List String
  presentationRepresentativeSolutionId : Option String
  metrics : Metrics
  explanation : Explanation
  reasonCodes : List String

def evidenceFor (input : PolicyInput) (solutionId : String) (dimension : Option ExperienceDimension) :
    List String :=
  match input.solutions.find? (·.solutionId = solutionId) with
  | none => []
  | some s => uniqueSortedTexts (s.evidenceIds ++
      match dimension with
      | none => []
      | some d => (s.dimensions d).evidenceIds)

/-- The loop of `decisiveDimension`: the first dimension with the greatest weighted gain. -/
def bestGain (comparison : CandidateEvaluation) :
    Option (ExperienceDimension × ℚ) → List DimensionContribution → Option (ExperienceDimension × ℚ)
  | best, [] => best
  | best, c :: rest =>
    match c.sourceScore, sourceScore comparison c.dimension with
    | some score, some other =>
      if c.configuredWeight = 0 then bestGain comparison best rest
      else
        let value := (score - other) * c.configuredWeight
        match best with
        | none => bestGain comparison (some (c.dimension, value)) rest
        | some previous =>
          if previous.2 < value then bestGain comparison (some (c.dimension, value)) rest
          else bestGain comparison best rest
    | _, _ => bestGain comparison best rest

def decisiveDimension (selected : CandidateEvaluation) (comparison : Option CandidateEvaluation) :
    Option ExperienceDimension :=
  match comparison with
  | none => selected.availableDimensions.head?
  | some comparison => (bestGain comparison none selected.contributions).map Prod.fst

def unavailableRole (role : Role) (status : SelectionStatus) (reasonCode : String) : Selection where
  role
  status
  solutionId := none
  decisionTieClassification := .decisionallyDistinct
  equivalentSolutionIds := []
  presentationRepresentativeSolutionId := none
  metrics := {}
  explanation :=
    { headlineKey := role.text ++ ":" ++ status.text
      mainSacrifice := "none"
      decisiveVariable := "insufficient-applicable-evidence"
      choiceChangingCounterfactual := "counterfactual:provide-applicable-evidence"
      evidenceIds := []
      uncertaintyCodes := [reasonCode] }
  reasonCodes := [reasonCode]

/-- `presentationRepresentative ?? leaders[0]`. -/
def TieResolution.selected {α : Type} (r : TieResolution α) : Option α :=
  r.presentationRepresentative.or r.leaders.head?

def equivalentChoice (profile : Profile) (resolution : TieResolution CandidateEvaluation) :
    Selection where
  role := .bestChoice
  status := .decisionallyEquivalent
  solutionId := none
  decisionTieClassification := .decisionallyEquivalent
  equivalentSolutionIds := uniqueSortedTexts (resolution.leaders.map (·.solutionId))
  presentationRepresentativeSolutionId :=
    resolution.presentationRepresentative.map (·.solutionId)
  metrics := {}
  explanation :=
    { headlineKey := "best-choice:" ++ profile.text ++ ":decisionally-equivalent"
      mainSacrifice := "none-material"
      decisiveVariable := "decisionally-equivalent"
      choiceChangingCounterfactual := "counterfactual:material-decision-evidence-breaks-equivalence"
      evidenceIds := []
      uncertaintyCodes := ["decision:decisionally-equivalent"] }
  reasonCodes := ["decision:decisionally-equivalent"]

def uncertaintyCodes (c : CandidateEvaluation) : List String :=
  if c.evidenceCoverage < 1 then ["uncertainty:missing-evidence"] else []

/-- The comparable candidates but the choice. -/
def alternativesTo (choice : CandidateEvaluation) (candidates : List CandidateEvaluation) :
    List CandidateEvaluation :=
  candidates.filter fun c => c.solutionId ≠ choice.solutionId && c.status = .comparable

/-- The text of `higher-total-cost`, when another candidate is cheapest. -/
def choiceSacrifice (rt : Runtime) (choice : CandidateEvaluation)
    (alternatives : List CandidateEvaluation) : String :=
  match (sortBy (ascending (·.totalCost)) (alternatives.filter fun c =>
      c.status = .comparable && c.totalCost.isSome)).head? with
  | none => "none-material"
  | some cheapest =>
    match cheapest.totalCost, choice.totalCost with
    | some cheapestCost, some choiceCost =>
      if cheapest.solutionId = choice.solutionId then "none-material"
      else "higher-total-cost:" ++ rt.numberText (round (choiceCost - cheapestCost) 6)
    | _, _ => "none-material"

/-- `choiceRole` for a choice without a tie. -/
def distinctChoice (rt : Runtime) (choice : CandidateEvaluation)
    (alternatives : List CandidateEvaluation) (input : PolicyInput) (settings : ProfileSettings) :
    Selection :=
  let resolution := resolveDecisionTie rt (alternativesTo choice alternatives)
    (descending (·.personalUtilityScore)) candidatePresentationProjection
  let comparison := resolution.presentationRepresentative.or
    (if resolution.classification = .decisionallyDistinct then resolution.leaders.head? else none)
  let decisive := decisiveDimension choice comparison
  let experienceFirst : Bool := settings.budgetTreatment = .hardCeilingExperienceFirst
  { role := .bestChoice
    status := .selected
    solutionId := some choice.solutionId
    decisionTieClassification := .decisionallyDistinct
    equivalentSolutionIds := [choice.solutionId]
    presentationRepresentativeSolutionId := some choice.solutionId
    metrics :=
      { totalCost := choice.totalCost
        experienceScore := choice.experienceScore
        qualityScore := choice.qualityScore
        opportunityCostPoints := choice.opportunityCostPoints }
    explanation :=
      { headlineKey := "best-choice:" ++ input.profile.text
        mainSacrifice := choiceSacrifice rt choice alternatives
        decisiveVariable :=
          if input.profile = .maximumSavings then "total-cost"
          else (decisive.map (·.text)).getD "experience-fit"
        choiceChangingCounterfactual :=
          if experienceFirst then "counterfactual:experience-or-hard-budget-ceiling-changes"
          else "counterfactual:marginal-value-balance-changes"
        evidenceIds := evidenceFor input choice.solutionId decisive
        uncertaintyCodes := uncertaintyCodes choice }
    reasonCodes := uniqueSortedTexts ["role:best-choice-independent",
      if experienceFirst then "budget:ceiling-before-choice" else "budget:profile-opportunity-cost",
      "quality:identity-premium-preserving"] }

def choiceRole (rt : Runtime) (resolution : TieResolution CandidateEvaluation)
    (choice : CandidateEvaluation) (alternatives : List CandidateEvaluation) (input : PolicyInput)
    (settings : ProfileSettings) : Selection :=
  match resolution.classification with
  | .decisionallyEquivalent => equivalentChoice input.profile resolution
  | .decisionallyDistinct => distinctChoice rt choice alternatives input settings

/-- An alternative with what it saves and loses. -/
structure Saving where
  candidate : CandidateEvaluation
  savingAmount : ℚ
  qualityLoss : ℚ
  experienceLoss : ℚ

def saving? (choice candidate : CandidateEvaluation) : Option Saving := do
  let choiceCost ← choice.totalCost
  let choiceExperience ← choice.experienceScore
  let choiceQuality ← choice.qualityScore
  let cost ← candidate.totalCost
  let experience ← candidate.experienceScore
  let quality ← candidate.qualityScore
  if candidate.status = .comparable && candidate.solutionId ≠ choice.solutionId &&
      cost < choiceCost && 6 / 10 ≤ candidate.evidenceCoverage then
    some
      { candidate
        savingAmount := round (choiceCost - cost) 6
        qualityLoss := round (max 0 (choiceQuality - quality)) 6
        experienceLoss := round (max 0 (choiceExperience - experience)) 6 }
  else none

def compareSavings : Saving → Saving → Ordering :=
  compareLex (descending fun s => some s.savingAmount) (ascending fun s => some s.experienceLoss)

def Saving.projection (s : Saving) : Json :=
  .obj [("candidate", candidatePresentationProjection s.candidate),
    ("savingAmount", .num s.savingAmount), ("qualityLoss", .num s.qualityLoss),
    ("experienceLoss", .num s.experienceLoss)]

/-- A role that is not given because of a tie. -/
def tiedRole (role : Role) (reasonCode : String) (leaders : List CandidateEvaluation)
    (representative : Option CandidateEvaluation) : Selection :=
  { unavailableRole role .notApplicable reasonCode with
    decisionTieClassification := .decisionallyEquivalent
    equivalentSolutionIds := uniqueSortedTexts (leaders.map (·.solutionId))
    presentationRepresentativeSolutionId := representative.map (·.solutionId) }

def savingSelection (rt : Runtime) (selected : Saving) (input : PolicyInput)
    (settings : ProfileSettings) : Selection where
  role := .bestSensibleSaving
  status := .selected
  solutionId := some selected.candidate.solutionId
  decisionTieClassification := .decisionallyDistinct
  equivalentSolutionIds := [selected.candidate.solutionId]
  presentationRepresentativeSolutionId := some selected.candidate.solutionId
  metrics :=
    { totalCost := selected.candidate.totalCost
      experienceScore := selected.candidate.experienceScore
      qualityScore := selected.candidate.qualityScore
      opportunityCostPoints := selected.candidate.opportunityCostPoints
      savingAmount := some selected.savingAmount
      qualityLoss := some selected.qualityLoss
      experienceLoss := some selected.experienceLoss
      qualityLossTolerance := some settings.savingQualityLossTolerance
      experienceLossTolerance := some settings.savingExperienceLossTolerance }
  explanation :=
    { headlineKey := "best-sensible-saving:bounded-loss"
      mainSacrifice := "experience-loss:" ++ rt.numberText selected.experienceLoss
      decisiveVariable := "total-cost-saving-within-quality-loss-tolerance"
      choiceChangingCounterfactual := "counterfactual:quality-loss-exceeds-profile-tolerance"
      evidenceIds := evidenceFor input selected.candidate.solutionId none
      uncertaintyCodes := uncertaintyCodes selected.candidate }
  reasonCodes := ["role:saving-separated-from-choice", "saving:quality-loss-explicit",
    "saving:experience-loss-within-profile-tolerance"]

def savingRole (rt : Runtime) (choice : CandidateEvaluation) (candidates : List CandidateEvaluation)
    (input : PolicyInput) (settings : ProfileSettings) : Selection :=
  if choice.totalCost.isNone || choice.experienceScore.isNone || choice.qualityScore.isNone then
    unavailableRole .bestSensibleSaving .notApplicable "saving:choice-incomplete"
  else
    let eligible := (candidates.filterMap (saving? choice)).filter fun s =>
      s.qualityLoss ≤ settings.savingQualityLossTolerance &&
        s.experienceLoss ≤ settings.savingExperienceLossTolerance
    let resolution := resolveDecisionTie rt eligible compareSavings (·.projection)
    match resolution.selected, resolution.classification with
    | none, _ => unavailableRole .bestSensibleSaving .notApplicable
        "saving:no-cheaper-option-within-loss-tolerance"
    | some _, .decisionallyEquivalent => tiedRole .bestSensibleSaving
        "saving:decisionally-equivalent" (resolution.leaders.map (·.candidate))
        (resolution.presentationRepresentative.map (·.candidate))
    | some selected, .decisionallyDistinct => savingSelection rt selected input settings

/-- An alternative with what it costs and gains. -/
structure Upgrade where
  candidate : CandidateEvaluation
  upgradePremium : ℚ
  experienceGain : ℚ
  marginalValuePer100 : ℚ

def upgrade? (choice candidate : CandidateEvaluation) : Option Upgrade := do
  let choiceCost ← choice.totalCost
  let choiceExperience ← choice.experienceScore
  let cost ← candidate.totalCost
  let experience ← candidate.experienceScore
  if candidate.status = .comparable && candidate.solutionId ≠ choice.solutionId &&
      choiceCost < cost && 6 / 10 ≤ candidate.evidenceCoverage then
    let upgradePremium := round (cost - choiceCost) 6
    let experienceGain := round (experience - choiceExperience) 6
    some
      { candidate
        upgradePremium
        experienceGain
        marginalValuePer100 :=
          if upgradePremium = 0 then 0 else round (experienceGain / upgradePremium * 100) 6 }
  else none

def compareUpgrades : Upgrade → Upgrade → Ordering :=
  compareLex (descending fun u => some u.experienceGain)
    (descending fun u => some u.marginalValuePer100)

def Upgrade.projection (u : Upgrade) : Json :=
  .obj [("candidate", candidatePresentationProjection u.candidate),
    ("upgradePremium", .num u.upgradePremium), ("experienceGain", .num u.experienceGain),
    ("marginalValuePer100", .num u.marginalValuePer100)]

def upgradeSelection (rt : Runtime) (selected : Upgrade) (input : PolicyInput)
    (settings : ProfileSettings) : Selection where
  role := .worthwhileComfortUpgrade
  status := .selected
  solutionId := some selected.candidate.solutionId
  decisionTieClassification := .decisionallyDistinct
  equivalentSolutionIds := [selected.candidate.solutionId]
  presentationRepresentativeSolutionId := some selected.candidate.solutionId
  metrics :=
    { totalCost := selected.candidate.totalCost
      experienceScore := selected.candidate.experienceScore
      qualityScore := selected.candidate.qualityScore
      opportunityCostPoints := selected.candidate.opportunityCostPoints
      upgradePremium := some selected.upgradePremium
      experienceGain := some selected.experienceGain
      marginalValuePer100 := some selected.marginalValuePer100
      marginalValueThreshold := some settings.upgradeMinimumMarginalValuePer100 }
  explanation :=
    { headlineKey := "worthwhile-comfort-upgrade:marginal-value-proven"
      mainSacrifice := "additional-cost:" ++ rt.numberText selected.upgradePremium
      decisiveVariable := "experience-gain-per-100-currency"
      choiceChangingCounterfactual := "counterfactual:marginal-value-below-profile-threshold"
      evidenceIds := evidenceFor input selected.candidate.solutionId none
      uncertaintyCodes := uncertaintyCodes selected.candidate }
  reasonCodes := ["role:upgrade-separated-from-choice", "upgrade:premium-explicit",
    "upgrade:marginal-value-threshold-met"]

def upgradeRole (rt : Runtime) (choice : CandidateEvaluation) (candidates : List CandidateEvaluation)
    (input : PolicyInput) (settings : ProfileSettings) : Selection :=
  if choice.totalCost.isNone || choice.experienceScore.isNone then
    unavailableRole .worthwhileComfortUpgrade .notApplicable "upgrade:choice-incomplete"
  else
    let eligible := (candidates.filterMap (upgrade? choice)).filter fun u =>
      settings.upgradeMinimumExperienceGain ≤ u.experienceGain &&
        settings.upgradeMinimumMarginalValuePer100 ≤ u.marginalValuePer100
    let resolution := resolveDecisionTie rt eligible compareUpgrades (·.projection)
    match resolution.selected, resolution.classification with
    | none, _ => unavailableRole .worthwhileComfortUpgrade .notApplicable
        "upgrade:no-option-meets-marginal-value-threshold"
    | some _, .decisionallyEquivalent => tiedRole .worthwhileComfortUpgrade
        "upgrade:decisionally-equivalent" (resolution.leaders.map (·.candidate))
        (resolution.presentationRepresentative.map (·.candidate))
    | some selected, .decisionallyDistinct => upgradeSelection rt selected input settings

end SmartStay.Policy
