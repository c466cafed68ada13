import SmartStay.Lib.Optional
import SmartStay.Robustness.Soundness

/-!
# Better candidates

A member of a cohort that is at least as good as another one in all that its evaluation reads does
at least as well in every scenario.

1. `Dominates`: the comparison of two evaluated utilities, and its decision.
2. `BetterUtility`: what the scenarios read of them.
3. `contribution_better`, `Dominates.betterUtility`: evaluated utilities.
4. `scenarioUtility_mono`.
5. `wins_of_winner`, `expectedRegret_anti`, `robustChoiceScore_mono`.
6. `robustChoice_respects`.
7. `price_unjudged`: without a budget, the price is scored on its own.
-/

namespace SmartStay.Robustness

open Contract PersonalUtility Optional
open Geometry (UtilityDimension createBudgetUtility utilityDimensions)

/-! ## 1. Dominance -/

/-- A utility is at least as good as another one of the same weights, availability and budget: it
    costs no more, and no confidence and no score, that of the price apart, is less. -/
structure DominatesBenefits (better worse : PersonalUtilityEvaluation) : Prop where
  weights : better.weights = worse.weights
  budget : better.context.totalBudget = worse.context.totalBudget
  cost : AtMost better.context.totalCost worse.context.totalCost
  available : ∀ a ∈ better.contributions, ∀ b ∈ worse.contributions, a.dimension = b.dimension →
    a.available = b.available
  score : ∀ a ∈ better.contributions, ∀ b ∈ worse.contributions, a.dimension = b.dimension →
    a.dimension ≠ .priceValue → AtMost b.transformedScore a.transformedScore
  confidence : ∀ a ∈ better.contributions, ∀ b ∈ worse.contributions, a.dimension = b.dimension →
    b.confidence ≤ a.confidence

/-- Where no budget judges the cost, the score of the price is not less either. -/
structure Dominates (better worse : PersonalUtilityEvaluation) : Prop extends
    DominatesBenefits better worse where
  price : budgetedCost better.context = none → ∀ a ∈ better.contributions,
    ∀ b ∈ worse.contributions, a.dimension = .priceValue → b.dimension = .priceValue →
      AtMost b.transformedScore a.transformedScore

theorem mem_utilityDimensions (d : UtilityDimension) : d ∈ utilityDimensions := by
  rcases d with _ | benefit
  · decide
  · cases benefit <;> decide

theorem dominatesBenefits_iff {better worse : PersonalUtilityEvaluation} :
    DominatesBenefits better worse ↔
      (∀ d ∈ utilityDimensions, better.weights d = worse.weights d) ∧
        better.context.totalBudget = worse.context.totalBudget ∧
        AtMost better.context.totalCost worse.context.totalCost ∧
        ∀ a ∈ better.contributions, ∀ b ∈ worse.contributions, a.dimension = b.dimension →
          a.available = b.available ∧
            (a.dimension ≠ .priceValue → AtMost b.transformedScore a.transformedScore) ∧
            b.confidence ≤ a.confidence := by
  constructor
  · rintro ⟨hweights, hbudget, hcost, havailable, hscore, hconfidence⟩
    exact ⟨fun d _ => congrFun hweights d, hbudget, hcost, fun a ha b hb hd =>
      ⟨havailable a ha b hb hd, hscore a ha b hb hd, hconfidence a ha b hb hd⟩⟩
  · rintro ⟨hweights, hbudget, hcost, hall⟩
    exact ⟨funext fun d => hweights d (mem_utilityDimensions d), hbudget, hcost,
      fun a ha b hb hd => (hall a ha b hb hd).1, fun a ha b hb hd => (hall a ha b hb hd).2.1,
      fun a ha b hb hd => (hall a ha b hb hd).2.2⟩

theorem dominates_iff {better worse : PersonalUtilityEvaluation} :
    Dominates better worse ↔ DominatesBenefits better worse ∧
      (budgetedCost better.context = none → ∀ a ∈ better.contributions,
        ∀ b ∈ worse.contributions, a.dimension = .priceValue → b.dimension = .priceValue →
          AtMost b.transformedScore a.transformedScore) :=
  ⟨fun h => ⟨h.toDominatesBenefits, h.price⟩, fun h => ⟨h.1, h.2⟩⟩

instance (better worse : PersonalUtilityEvaluation) : Decidable (DominatesBenefits better worse) :=
  decidable_of_iff _ dominatesBenefits_iff.symm

instance (better worse : PersonalUtilityEvaluation) : Decidable (Dominates better worse) :=
  decidable_of_iff _ dominates_iff.symm

/-- A stay that costs more is worth no more to a budget. -/
def BudgetAntitone (rt : Runtime) : Prop :=
  ∀ budget cost cost', 0 < budget → 0 < cost → cost ≤ cost' →
    createBudgetUtility rt cost' budget ≤ createBudgetUtility rt cost budget

/-! ## 2. Contributions -/

/-- A contribution that is summed. -/
def isSummed (contribution : UtilityContribution) : Bool :=
  contribution.available && contribution.transformedScore.isSome

/-- The contributions of two utilities, dimension by dimension. -/
structure BetterContributions (worse better : UtilityDimension → UtilityContribution) : Prop where
  dimension : ∀ d, (worse d).dimension = d ∧ (better d).dimension = d
  summed : ∀ d, isSummed (worse d) = isSummed (better d)
  configured : ∀ d, (worse d).configuredWeight = (better d).configuredWeight
  configured_nonneg : ∀ d, 0 ≤ (better d).configuredWeight
  share : ∀ d, (worse d).normalizedAvailableWeight = (better d).normalizedAvailableWeight
  share_nonneg : ∀ d, 0 ≤ (better d).normalizedAvailableWeight
  score : ∀ d, scoreOf (worse d) ≤ scoreOf (better d)
  confidence : ∀ d, (worse d).confidence ≤ (better d).confidence

/-- What the scenarios read of two utilities. -/
structure BetterUtility (worse better : PersonalUtilityEvaluation) : Prop where
  contributions : ∃ w b, worse.contributions = utilityDimensions.map w ∧
    better.contributions = utilityDimensions.map b ∧ BetterContributions w b
  score : AtMost worse.utilityScore better.utilityScore
  budget : better.context.totalBudget = worse.context.totalBudget
  cost : AtMost better.context.totalCost worse.context.totalCost
  cost_pos : ∀ cost, better.context.totalCost = some cost → 0 < cost

section

variable {rt : NumericRuntime} {worse better : UtilityDimension → UtilityContribution}
  {u v : PersonalUtilityEvaluation}

/-- The dimensions of the contributions that are summed. -/
def summedDimensions (contributions : UtilityDimension → UtilityContribution) :
    List UtilityDimension :=
  utilityDimensions.filter fun d => isSummed (contributions d)

theorem availableContributions_eq {contributions : UtilityDimension → UtilityContribution}
    (h : u.contributions = utilityDimensions.map contributions) :
    availableContributions u = (summedDimensions contributions).map contributions := by
  rw [availableContributions, h, List.filter_map]
  rfl

theorem BetterContributions.summedDimensions (h : BetterContributions worse better) :
    summedDimensions worse = summedDimensions better :=
  List.filter_congr fun d _ => h.summed d

/-- Sums over the contributions of two utilities compare like their terms. -/
theorem BetterContributions.sum_le (h : BetterContributions worse better)
    (hu : u.contributions = utilityDimensions.map worse)
    (hv : v.contributions = utilityDimensions.map better) {f g : UtilityContribution → ℚ}
    (hfg : ∀ d, f (worse d) ≤ g (better d)) :
    ((availableContributions u).map f).sum ≤ ((availableContributions v).map g).sum := by
  rw [availableContributions_eq hu, availableContributions_eq hv, h.summedDimensions, List.map_map,
    List.map_map]
  exact List.sum_le_sum fun d _ => hfg d

theorem BetterContributions.sum_eq (h : BetterContributions worse better)
    (hu : u.contributions = utilityDimensions.map worse)
    (hv : v.contributions = utilityDimensions.map better) {f g : UtilityContribution → ℚ}
    (hfg : ∀ d, f (worse d) = g (better d)) :
    ((availableContributions u).map f).sum = ((availableContributions v).map g).sum := by
  rw [availableContributions_eq hu, availableContributions_eq hv, h.summedDimensions, List.map_map,
    List.map_map]
  exact congrArg List.sum (List.map_congr_left fun d _ => hfg d)

end

/-! ## 3. Evaluated utilities -/

section

variable {rt : NumericRuntime} {context context' : UtilityContext}
  {dimensions dimensions' : UtilityDimension → NormalizedDimension}
  {weights : UtilityDimension → ℚ}

theorem availableWeight_congr (h : ∀ d, (transformedScore rt context dimensions d).isSome =
      (transformedScore rt context' dimensions' d).isSome) :
    availableWeight rt context dimensions weights =
      availableWeight rt context' dimensions' weights := by
  rw [availableWeight, availableWeight, List.filter_congr fun d _ => h d]

theorem availableShare_congr (h : ∀ d, (transformedScore rt context dimensions d).isSome =
      (transformedScore rt context' dimensions' d).isSome) (d : UtilityDimension) :
    availableShare rt context dimensions weights d =
      availableShare rt context' dimensions' weights d := by
  rw [availableShare, availableShare, availableWeight_congr h, h]

theorem availableShare_nonneg (hweights : ∀ d, 0 ≤ weights d) (d : UtilityDimension) :
    0 ≤ availableShare rt context dimensions weights d := by
  unfold availableShare
  split
  next hshared => exact div_nonneg (hweights d) hshared.2.le
  · exact le_rfl

section

variable (hscore : ∀ d, AtMost (transformedScore rt context dimensions d)
    (transformedScore rt context' dimensions' d)) (hweights : ∀ d, 0 ≤ weights d)
include hscore hweights

theorem contribution_better
    (hconfidence : ∀ d, (dimensions d).confidence ≤ (dimensions' d).confidence) :
    BetterContributions (contribution rt context dimensions weights)
      (contribution rt context' dimensions' weights) where
  dimension _ := ⟨rfl, rfl⟩
  summed d := congrArg (fun known => known && known) (hscore d).isSome_eq
  configured _ := rfl
  configured_nonneg := hweights
  share d := congrArg (round · 8) (availableShare_congr (fun d => (hscore d).isSome_eq) d)
  share_nonneg d := round_nonneg (availableShare_nonneg hweights d) 8
  score d := (hscore d).getD_le 0
  confidence := hconfidence

theorem utilityScore_mono : AtMost (utilityScore rt context dimensions weights)
    (utilityScore rt context' dimensions' weights) := by
  have hsome := fun d => (hscore d).isSome_eq
  rw [utilityScore, utilityScore, availableWeight_congr hsome, List.map_map, List.map_map]
  split
  · refine .some (round_mono (List.sum_le_sum fun d _ => round_mono ?_ 6) 4)
    rw [availableShare_congr hsome]
    exact mul_le_mul_of_nonneg_right ((hscore d).getD_le 0) (availableShare_nonneg hweights d)
  · exact .none

end

end

/-- What an evaluation returns for a stay with an id. -/
theorem evaluatePersonalUtility_ok {rt : NumericRuntime} {stay : UtilityInput}
    {utility : PersonalUtilityEvaluation} (h : evaluatePersonalUtility rt stay = .ok utility) :
    utility = evaluatedUtility rt stay :=
  (Except.ok.inj (Fallible.errorIf_ok.mp h).2).symm

theorem normalizeContext_pos {context : UtilityContext} {value : ℚ}
    (h : (normalizeContext context).totalCost = some value ∨
      (normalizeContext context).totalBudget = some value) : 0 < value := by
  rcases h with h | h
  · exact of_decide_eq_true (Option.filter_eq_some_iff.mp h).2
  · exact of_decide_eq_true (Option.filter_eq_some_iff.mp h).2

theorem budgetedCost_eq_some {context : UtilityContext} {cost budget : ℚ} :
    budgetedCost context = some (cost, budget) ↔
      context.totalCost = some cost ∧ context.totalBudget = some budget := by
  unfold budgetedCost
  cases context.totalCost <;> cases context.totalBudget <;> simp

/-- The scores of a price that a budget judges compare like the costs. -/
theorem transformedPrice_mono {rt : NumericRuntime} {context context' : UtilityContext}
    {dimensions dimensions' : UtilityDimension → NormalizedDimension} {cost' budget : ℚ}
    (hantitone : BudgetAntitone rt.toRuntime)
    (hjudged : budgetedCost context' = some (cost', budget)) (hpositive : 0 < cost' ∧ 0 < budget)
    (hbudget : context'.totalBudget = context.totalBudget)
    (hcost : AtMost context'.totalCost context.totalCost) :
    AtMost (transformedScore rt context dimensions .priceValue)
      (transformedScore rt context' dimensions' .priceValue) := by
  obtain ⟨hcost', hbudget'⟩ := budgetedCost_eq_some.mp hjudged
  rw [hcost'] at hcost
  obtain ⟨cost, hknown, hle⟩ := hcost.exists_le
  have hworse : budgetedCost context = some (cost, budget) :=
    budgetedCost_eq_some.mpr ⟨hknown, hbudget ▸ hbudget'⟩
  dsimp only [transformedScore]
  rw [hjudged, hworse]
  exact .some (hantitone budget cost' cost hpositive.2 hpositive.1 hle)

/-- Of evaluated utilities, the better one is better in all that the scenarios read. -/
theorem Dominates.betterUtility {rt : NumericRuntime} (hantitone : BudgetAntitone rt.toRuntime)
    {stay stay' : UtilityInput}
    (h : Dominates (evaluatedUtility rt stay') (evaluatedUtility rt stay)) :
    BetterUtility (evaluatedUtility rt stay) (evaluatedUtility rt stay') := by
  have hmem : ∀ (stay : UtilityInput) d, contribution rt (evaluatedUtility rt stay).context
      (evaluatedUtility rt stay).dimensions (evaluatedUtility rt stay).weights d ∈
        (evaluatedUtility rt stay).contributions :=
    fun stay d => List.mem_map_of_mem (mem_utilityDimensions d)
  have hscore : ∀ d, AtMost (transformedScore rt (evaluatedUtility rt stay).context
      (evaluatedUtility rt stay).dimensions d) (transformedScore rt
        (evaluatedUtility rt stay').context (evaluatedUtility rt stay').dimensions d) := by
    intro d
    by_cases hprice : d = .priceValue
    · subst hprice
      cases hjudged : budgetedCost (evaluatedUtility rt stay').context with
      | none => exact h.price hjudged _ (hmem stay' _) _ (hmem stay _) rfl rfl
      | some judged =>
        obtain ⟨hcost, hbudget⟩ := budgetedCost_eq_some.mp hjudged
        exact transformedPrice_mono hantitone hjudged ⟨normalizeContext_pos (.inl hcost),
          normalizeContext_pos (.inr hbudget)⟩ h.budget h.cost
    · exact h.score _ (hmem stay' d) _ (hmem stay d) rfl hprice
  have hconfidence : ∀ d, ((evaluatedUtility rt stay).dimensions d).confidence ≤
      ((evaluatedUtility rt stay').dimensions d).confidence :=
    fun d => h.confidence _ (hmem stay' d) _ (hmem stay d) rfl
  have hweights : ∀ d, 0 ≤ (evaluatedUtility rt stay).weights d := createWeights_nonneg _ _
  refine ⟨⟨_, contribution rt (evaluatedUtility rt stay').context
    (evaluatedUtility rt stay').dimensions (evaluatedUtility rt stay').weights, rfl, rfl, ?_⟩, ?_,
    h.budget, h.cost, fun cost hcost => normalizeContext_pos (.inl hcost)⟩
  · rw [h.weights]
    exact contribution_better hscore hweights hconfidence
  · have hown : (evaluatedUtility rt stay').utilityScore = utilityScore rt
        (evaluatedUtility rt stay').context (evaluatedUtility rt stay').dimensions
        (evaluatedUtility rt stay').weights := rfl
    rw [hown, h.weights]
    exact utilityScore_mono hscore hweights

/-! ## 4. Scenario utilities -/

section

variable {rt : NumericRuntime} {u v : PersonalUtilityEvaluation}

theorem scoreWithPerturbedWeight_mono (h : BetterUtility u v) (dimension : UtilityDimension)
    {multiplier : ℚ} (hmultiplier : 0 ≤ multiplier) :
    AtMost (scoreWithPerturbedWeight u dimension multiplier)
      (scoreWithPerturbedWeight v dimension multiplier) := by
  obtain ⟨worse, better, hu, hv, hbetter⟩ := h.contributions
  have hweight : ∀ d, perturbedWeight dimension multiplier (worse d) =
      perturbedWeight dimension multiplier (better d) := by
    intro d
    rw [perturbedWeight, perturbedWeight, hbetter.configured, (hbetter.dimension d).1,
      (hbetter.dimension d).2]
  have hnonneg : ∀ d, 0 ≤ perturbedWeight dimension multiplier (better d) := by
    intro d
    refine mul_nonneg (hbetter.configured_nonneg d) ?_
    split
    · exact hmultiplier
    · exact zero_le_one
  have htotal := hbetter.sum_eq hu hv hweight
  dsimp only [scoreWithPerturbedWeight]
  rw [htotal]
  split
  · exact .none
  next hpositive =>
    refine .some (round_mono (hbetter.sum_le hu hv fun d => ?_) 6)
    rw [hweight]
    exact div_le_div_of_nonneg_right (mul_le_mul_of_nonneg_right (hbetter.score d) (hnonneg d))
      (not_le.mp hpositive).le

/-- The score of a contribution in a budget, where that of the price is replaced. -/
def budgetedScore (replacement : ℚ) (contribution : UtilityContribution) : ℚ :=
  (if contribution.dimension = .priceValue then replacement else scoreOf contribution) *
    contribution.normalizedAvailableWeight

theorem scoreWithBudget_eq {cost budget multiplier : ℚ} (hcost : u.context.totalCost = some cost)
    (hbudget : u.context.totalBudget = some budget) (hpositive : ¬ (cost ≤ 0 ∨ budget ≤ 0)) :
    scoreWithBudget rt.toRuntime u multiplier = some (round ((availableContributions u).map
      (budgetedScore (createBudgetUtility rt.toRuntime cost (budget * multiplier)))).sum 6) := by
  rw [scoreWithBudget, hcost, hbudget]
  exact if_neg hpositive

theorem scoreWithBudget_mono (hantitone : BudgetAntitone rt.toRuntime) (h : BetterUtility u v)
    {multiplier : ℚ} (hmultiplier : 0 < multiplier) :
    AtMost (scoreWithBudget rt.toRuntime u multiplier)
      (scoreWithBudget rt.toRuntime v multiplier) := by
  obtain ⟨worse, better, hu, hv, hbetter⟩ := h.contributions
  have hcost := h.cost
  cases hvcost : v.context.totalCost with
  | none =>
    have hucost : u.context.totalCost = none := by simpa [hvcost] using hcost.isSome_eq.symm
    rw [scoreWithBudget, scoreWithBudget, hucost, hvcost]
    exact .none
  | some cost =>
    rw [hvcost] at hcost
    obtain ⟨cost', hucost, hle⟩ := hcost.exists_le
    have hpos := h.cost_pos cost hvcost
    cases hvbudget : v.context.totalBudget with
    | none =>
      rw [scoreWithBudget, scoreWithBudget, ← h.budget, hucost, hvcost, hvbudget]
      exact .none
    | some budget =>
      have hubudget : u.context.totalBudget = some budget := h.budget.symm.trans hvbudget
      by_cases hempty : budget ≤ 0
      · rw [scoreWithBudget, scoreWithBudget, hucost, hvcost, hubudget, hvbudget]
        simp [hempty]
      · rw [scoreWithBudget_eq hucost hubudget (not_or.mpr ⟨(hpos.trans_le hle).not_ge, hempty⟩),
          scoreWithBudget_eq hvcost hvbudget (not_or.mpr ⟨hpos.not_ge, hempty⟩)]
        refine .some (round_mono (hbetter.sum_le hu hv fun d => ?_) 6)
        rw [budgetedScore, budgetedScore, hbetter.share, (hbetter.dimension d).1,
          (hbetter.dimension d).2]
        refine mul_le_mul_of_nonneg_right ?_ (hbetter.share_nonneg d)
        split
        · exact hantitone _ _ _ (mul_pos (not_le.mp hempty) hmultiplier) hpos hle
        · exact hbetter.score d

theorem scoreEvidenceDownside_mono (h : BetterUtility u v) :
    AtMost (scoreEvidenceDownside u) (scoreEvidenceDownside v) := by
  obtain ⟨worse, better, hu, hv, hbetter⟩ := h.contributions
  have hlength : (availableContributions u).length = (availableContributions v).length := by
    rw [availableContributions_eq hu, availableContributions_eq hv, List.length_map,
      List.length_map, hbetter.summedDimensions]
  dsimp only [scoreEvidenceDownside]
  rw [hlength]
  split
  · exact .none
  next =>
    refine .some (round_mono (hbetter.sum_le hu hv fun d => ?_) 6)
    rw [hbetter.share]
    refine mul_le_mul_of_nonneg_right ?_ (hbetter.share_nonneg d)
    exact JsNumber.clamp_mono (by linarith [hbetter.score d, hbetter.confidence d])

end

/-- What the evaluations of two candidates read of them. -/
structure BetterCandidate (rt : NumericRuntime) (worse better : CandidateInput) : Prop where
  usable : candidateStatus worse = .usable ∧ candidateStatus better = .usable
  utility : BetterUtility worse.utility better.utility
  risk : choiceRiskScore rt better ≤ choiceRiskScore rt worse
  strength : evidenceStrength rt worse ≤ evidenceStrength rt better

section

variable {rt : NumericRuntime} {worse better : CandidateInput} {options : ResolvedOptions}

theorem rawScenarioUtility_mono (hantitone : BudgetAntitone rt.toRuntime)
    (h : BetterUtility worse.utility better.utility) (scenarioId : ScenarioId) :
    AtMost (rawScenarioUtility rt.toRuntime worse.utility worse.utility.utilityScore scenarioId)
      (rawScenarioUtility rt.toRuntime better.utility better.utility.utilityScore scenarioId) := by
  cases scenarioId with
  | baseline => exact h.score
  | budgetTight => exact scoreWithBudget_mono hantitone h (by norm_num)
  | budgetRelaxed => exact scoreWithBudget_mono hantitone h (by norm_num)
  | savingsPriority => exact scoreWithPerturbedWeight_mono h _ (by norm_num)
  | qualityPriority => exact scoreWithPerturbedWeight_mono h _ (by norm_num)
  | locationPriority => exact scoreWithPerturbedWeight_mono h _ (by norm_num)
  | comfortPriority => exact scoreWithPerturbedWeight_mono h _ (by norm_num)
  | flexibilityPriority => exact scoreWithPerturbedWeight_mono h _ (by norm_num)
  | evidenceDownside => exact scoreEvidenceDownside_mono h

theorem scenarioUtility_of_usable {candidate : CandidateInput} {scenarioId : ScenarioId}
    (h : candidateStatus candidate = .usable) :
    scenarioUtility rt.toRuntime ⟨candidate, candidateEvaluation rt candidate options⟩ scenarioId =
      (rawScenarioUtility rt.toRuntime candidate.utility candidate.utility.utilityScore
        scenarioId).map fun rawUtility =>
          round (JsNumber.clamp (rawUtility - riskPenalty rt candidate options -
            uncertaintyPenalty (candidateEvaluation rt candidate options) scenarioId) 0 100) 6 := by
  have hscore := (candidateStatus_usable.mp h).2.2.1
  refine if_neg (not_or.mpr ⟨not_not.mpr h, fun hnone => ?_⟩)
  rw [show candidate.utility.utilityScore = none from hnone] at hscore
  cases hscore

theorem riskPenalty_anti (hmaximum : 0 ≤ options.riskPenaltyMaximum)
    (h : choiceRiskScore rt better ≤ choiceRiskScore rt worse) :
    riskPenalty rt better options ≤ riskPenalty rt worse options :=
  round_mono (mul_le_mul_of_nonneg_right (div_le_div_of_nonneg_right h (by norm_num)) hmaximum) 6

theorem uncertaintyPenalty_anti (hmaximum : 0 ≤ options.uncertaintyWidthMaximum)
    (h : evidenceStrength rt worse ≤ evidenceStrength rt better) (scenarioId : ScenarioId) :
    uncertaintyPenalty (candidateEvaluation rt better options) scenarioId ≤
      uncertaintyPenalty (candidateEvaluation rt worse options) scenarioId := by
  unfold uncertaintyPenalty
  split
  · exact round_mono (mul_le_mul_of_nonneg_right (sub_le_sub_left h 1) hmaximum) 6
  · exact le_rfl

/-- A better candidate scores at least as high in every scenario. -/
theorem scenarioUtility_mono (hantitone : BudgetAntitone rt.toRuntime)
    (hoptions : 0 ≤ options.riskPenaltyMaximum ∧ 0 ≤ options.uncertaintyWidthMaximum)
    (h : BetterCandidate rt worse better) (scenarioId : ScenarioId) :
    AtMost (scenarioUtility rt.toRuntime ⟨worse, candidateEvaluation rt worse options⟩ scenarioId)
      (scenarioUtility rt.toRuntime ⟨better, candidateEvaluation rt better options⟩
        scenarioId) := by
  have hrisk := riskPenalty_anti hoptions.1 h.risk
  have huncertainty := uncertaintyPenalty_anti hoptions.2 h.strength scenarioId
  rw [scenarioUtility_of_usable h.usable.1, scenarioUtility_of_usable h.usable.2]
  refine (rawScenarioUtility_mono hantitone h.utility scenarioId).map fun raw raw' hle => ?_
  exact round_mono (JsNumber.clamp_mono (by linarith)) 6

end

/-! ## 5. Scores and regrets -/

/-- What a member of a cohort scores in a scenario. -/
def memberUtility (scenario : RobustnessScenario) (hotelId : String) : Option ℚ :=
  (scenario.candidateScores.find? fun score => score.hotelId = hotelId).map
    CandidateScore.riskAdjustedUtility

section

variable {runtime : Runtime} {sources : List ScenarioScoreInput} {cohortHotelIds : List String}
  {options : ResolvedOptions} {scenarioId : ScenarioId} {hotelId worse better : String}

theorem find?_scenarioScores (hmem : hotelId ∈ cohortHotelIds) :
    (scenarioScores runtime sources cohortHotelIds scenarioId).find?
      (fun score => score.hotelId = hotelId) = memberScore runtime sources scenarioId hotelId := by
  cases hfind : (scenarioScores runtime sources cohortHotelIds scenarioId).find?
      (fun score => score.hotelId = hotelId) with
  | some score =>
    obtain rfl : score.hotelId = hotelId := by simpa using List.find?_some hfind
    exact (mem_scenarioScores.mp (List.mem_of_find?_eq_some hfind)).2.symm
  | none =>
    cases hmember : memberScore runtime sources scenarioId hotelId with
    | none => rfl
    | some score =>
      obtain rfl := (memberScore_eq.mp hmember).1
      have habsent := List.find?_eq_none.mp hfind score (mem_scenarioScores.mpr ⟨hmem, hmember⟩)
      simp at habsent

theorem memberUtility_eq {source : ScenarioScoreInput} (hmem : hotelId ∈ cohortHotelIds)
    (hsource : findSource sources hotelId = some source) :
    memberUtility (createScenario runtime sources cohortHotelIds options scenarioId) hotelId =
      scenarioUtility runtime source scenarioId := by
  rw [memberUtility, createScenario_scores, find?_scenarioScores hmem, memberScore, hsource]
  cases hutility : scenarioUtility runtime source scenarioId <;> simp [hutility]

/-- Who scores at least as high as a winner wins. -/
theorem wins_of_winner (hmem : worse ∈ cohortHotelIds)
    (hscore : AtMost
      (memberUtility (createScenario runtime sources cohortHotelIds options scenarioId) worse)
      (memberUtility (createScenario runtime sources cohortHotelIds options scenarioId) better))
    (hwinner : worse ∈
      (createScenario runtime sources cohortHotelIds options scenarioId).winnerHotelIds) :
    better ∈ (createScenario runtime sources cohortHotelIds options scenarioId).winnerHotelIds := by
  obtain ⟨best, hbest, score, hlisted, rfl, htied⟩ := mem_winners.mp hwinner
  have hown : memberUtility (createScenario runtime sources cohortHotelIds options scenarioId)
      score.hotelId = some score.riskAdjustedUtility := by
    rw [memberUtility, createScenario_scores, find?_scenarioScores hmem,
      (mem_scenarioScores.mp hlisted).2]
    rfl
  rw [hown] at hscore
  obtain ⟨utility, hutility, hle⟩ := hscore.exists_le
  obtain ⟨score', hfind, rfl⟩ := Option.map_eq_some_iff.mp hutility
  rw [createScenario_scores] at hfind
  exact mem_winners.mpr ⟨best, hbest, score', List.mem_of_find?_eq_some hfind,
    by simpa using List.find?_some hfind, (sub_le_sub_left hle _).trans htied⟩

theorem scenarioRegret_eq (scenario : RobustnessScenario) (hotelId : String) :
    scenarioRegret hotelId scenario = scenario.candidateScores.head?.bind fun best =>
      (memberUtility scenario hotelId).map fun utility =>
        round (best.riskAdjustedUtility - utility) 6 := by
  rw [scenarioRegret, memberUtility]
  cases scenario.candidateScores.find? (fun score => score.hotelId = hotelId) <;>
    cases scenario.candidateScores.head? <;> rfl

theorem scenarioRegret_anti {scenario : RobustnessScenario}
    (h : AtMost (memberUtility scenario worse) (memberUtility scenario better)) :
    AtMost (scenarioRegret better scenario) (scenarioRegret worse scenario) := by
  rw [scenarioRegret_eq, scenarioRegret_eq]
  cases scenario.candidateScores.head? with
  | none => exact .none
  | some best =>
    generalize memberUtility scenario worse = utility, memberUtility scenario better = utility' at h
    cases h with
    | none => exact .none
    | some hle => exact .some (round_mono (sub_le_sub_left hle _) 6)

end

section

variable {scenarios : List RobustnessScenario} {evaluations : List CandidateEvaluation}
  {worse better : String}

theorem expectedRegret_anti (h : ∀ scenario ∈ scenarios,
      AtMost (memberUtility scenario worse) (memberUtility scenario better)) :
    expectedRegret scenarios better ≤ expectedRegret scenarios worse := by
  have hregrets : List.Forall₂ (· ≤ ·) (regrets scenarios better) (regrets scenarios worse) :=
    forall₂_filterMap fun scenario hscenario =>
      scenarioRegret_anti (h scenario (List.mem_of_mem_filter hscenario))
  rw [expectedRegret, expectedRegret, hregrets.length_eq]
  split
  · exact le_rfl
  · exact round_mono (div_le_div_of_nonneg_right hregrets.sum_le_sum (Nat.cast_nonneg _)) 6

theorem winRate_mono (h : ∀ scenario ∈ scenarios,
      worse ∈ scenario.winnerHotelIds → better ∈ scenario.winnerHotelIds) :
    winRate scenarios worse ≤ winRate scenarios better := by
  have hwins : wins scenarios worse ≤ wins scenarios better := by
    unfold wins
    rw [← List.countP_eq_length_filter, ← List.countP_eq_length_filter]
    refine List.countP_mono_left fun scenario hscenario hwinner => ?_
    rw [List.contains_iff_mem] at hwinner ⊢
    exact h scenario (List.mem_of_mem_filter hscenario) hwinner
  unfold winRate
  split
  · exact le_rfl
  · exact round_mono
      (div_le_div_of_nonneg_right (Nat.cast_le.mpr hwins) (Nat.cast_nonneg _)) 6

/-- Winning more, regretting less and knowing more make a choice more robust. -/
theorem robustChoiceScore_mono (hwins : winRate scenarios worse ≤ winRate scenarios better)
    (hregret : expectedRegret scenarios better ≤ expectedRegret scenarios worse)
    (hstrength : strengthOf evaluations worse ≤ strengthOf evaluations better) :
    robustChoiceScore scenarios evaluations worse ≤
      robustChoiceScore scenarios evaluations better := by
  have hlost : JsNumber.clamp (expectedRegret scenarios better / 10) 0 1 ≤
      JsNumber.clamp (expectedRegret scenarios worse / 10) 0 1 :=
    JsNumber.clamp_mono (div_le_div_of_nonneg_right hregret (by norm_num))
  exact round_mono (by linarith) 4

end

/-! ## 6. Cohorts -/

/-- Of two members of a cohort, the first one does at least as well as the second one. -/
structure DoesAsWell (evaluation : DecisionRobustness) (better worse : String) : Prop where
  members : (evaluation.candidateRegret.map CandidateRegret.hotelId).Perm
    evaluation.comparisonCohortHotelIds
  scores : ∀ scenario ∈ evaluation.scenarios,
    AtMost (memberUtility scenario worse) (memberUtility scenario better)
  wins : ∀ scenario ∈ evaluation.scenarios,
    worse ∈ scenario.winnerHotelIds → better ∈ scenario.winnerHotelIds
  regret : ∀ first ∈ evaluation.candidateRegret, ∀ second ∈ evaluation.candidateRegret,
    first.hotelId = better → second.hotelId = worse →
      first.expectedRegret ≤ second.expectedRegret ∧
        second.robustChoiceScore ≤ first.robustChoiceScore
  choice : evaluation.robustChoiceHotelId = some worse →
    ∀ score, evaluation.robustChoiceScore = some score →
      ∀ first ∈ evaluation.candidateRegret, first.hotelId = better →
        score ≤ first.robustChoiceScore

section

variable {rt : NumericRuntime} {input : RobustnessInput} {options : ResolvedOptions}
  {worse better candidate : CandidateInput}

theorem findSource_evaluated (hids : (input.candidates.map CandidateInput.hotelId).Nodup)
    (hmem : candidate ∈ input.candidates) :
    findSource (evaluatedSources rt input options) candidate.hotelId =
      some ⟨candidate, candidateEvaluation rt candidate options⟩ := by
  have hkeys : ((evaluatedSources rt input options).map fun source =>
      source.candidate.hotelId).Nodup := by
    rw [evaluatedSources, List.map_map]
    exact hids
  exact (Distinct.find?_key_iff hkeys).mpr ⟨List.mem_map_of_mem hmem, rfl⟩

theorem strengthOf_evaluated (hids : (input.candidates.map CandidateInput.hotelId).Nodup)
    (hmem : candidate ∈ input.candidates) :
    strengthOf (evaluatedCandidates rt input options) candidate.hotelId =
      evidenceStrength rt candidate := by
  have hfind : findEvaluation (evaluatedCandidates rt input options) candidate.hotelId =
      some (candidateEvaluation rt candidate options) :=
    (findEvaluation_iff (evaluatedCandidates_ids.nodup_iff.mpr hids)).mpr
      ⟨mem_evaluatedCandidates.mpr ⟨candidate, hmem, rfl⟩, rfl⟩
  rw [strengthOf, hfind]
  rfl

theorem usable_of_mem_cohort (hids : (input.candidates.map CandidateInput.hotelId).Nodup)
    (hmem : candidate ∈ input.candidates) (hcohort : candidate.hotelId ∈
      (evaluatedFindings rt input options).comparisonCohortHotelIds) :
    candidateStatus candidate = .usable := by
  obtain ⟨c, hc, hid, hstatus⟩ := mem_cohort hcohort
  have heq : c = candidateEvaluation rt candidate options :=
    List.inj_on_of_nodup_map (evaluatedCandidates_ids.nodup_iff.mpr hids) hc
      (mem_evaluatedCandidates.mpr ⟨candidate, hmem, rfl⟩) hid
  rwa [heq] at hstatus

/-- The robust choice is one of the members. -/
theorem robustChoice_mem {runtime : Runtime} {candidateRegret : List CandidateRegret}
    {choice : CandidateRegret} (h : robustChoice runtime candidateRegret = some choice) :
    choice ∈ candidateRegret := by
  have hne : candidateRegret ≠ [] := by
    rintro rfl
    cases h
  obtain ⟨choice', hmem, hchoice, -⟩ := @robustChoice_cases runtime candidateRegret hne
  rwa [← Option.some.inj (hchoice.symm.trans h)]

theorem evaluated_doesAsWell (hantitone : BudgetAntitone rt.toRuntime)
    (hoptions : 0 ≤ options.riskPenaltyMaximum ∧ 0 ≤ options.uncertaintyWidthMaximum)
    (hids : (input.candidates.map CandidateInput.hotelId).Nodup)
    (hworse : worse ∈ input.candidates) (hbetter : better ∈ input.candidates)
    (hcohort : worse.hotelId ∈ (evaluatedFindings rt input options).comparisonCohortHotelIds ∧
      better.hotelId ∈ (evaluatedFindings rt input options).comparisonCohortHotelIds)
    (h : BetterCandidate rt worse better) (fingerprint : String) :
    DoesAsWell ⟨evaluatedFindings rt input options, fingerprint⟩ better.hotelId
      worse.hotelId := by
  have hscores : ∀ scenario ∈ (evaluatedFindings rt input options).scenarios,
      AtMost (memberUtility scenario worse.hotelId) (memberUtility scenario better.hotelId) := by
    intro scenario hscenario
    obtain ⟨scenarioId, -, rfl⟩ := List.mem_map.mp hscenario
    have hscore := scenarioUtility_mono hantitone hoptions h scenarioId
    rwa [← memberUtility_eq hcohort.1 (findSource_evaluated hids hworse),
      ← memberUtility_eq hcohort.2 (findSource_evaluated hids hbetter)] at hscore
  have hwins : ∀ scenario ∈ (evaluatedFindings rt input options).scenarios,
      worse.hotelId ∈ scenario.winnerHotelIds → better.hotelId ∈ scenario.winnerHotelIds := by
    intro scenario hscenario
    have hscore := hscores scenario hscenario
    obtain ⟨scenarioId, -, rfl⟩ := List.mem_map.mp hscenario
    exact wins_of_winner hcohort.1 hscore
  have hstrength : strengthOf (evaluatedCandidates rt input options) worse.hotelId ≤
      strengthOf (evaluatedCandidates rt input options) better.hotelId := by
    rw [strengthOf_evaluated hids hworse, strengthOf_evaluated hids hbetter]
    exact h.strength
  have hregret : ∀ first ∈ (evaluatedFindings rt input options).candidateRegret,
      ∀ second ∈ (evaluatedFindings rt input options).candidateRegret,
        first.hotelId = better.hotelId → second.hotelId = worse.hotelId →
          first.expectedRegret ≤ second.expectedRegret ∧
            second.robustChoiceScore ≤ first.robustChoiceScore := by
    intro first hfirst second hsecond hid hid'
    obtain ⟨_, -, rfl⟩ := mem_candidateRegret.mp hfirst
    obtain ⟨_, -, rfl⟩ := mem_candidateRegret.mp hsecond
    obtain rfl := hid
    obtain rfl := hid'
    exact ⟨expectedRegret_anti hscores,
      robustChoiceScore_mono (winRate_mono hwins) (expectedRegret_anti hscores) hstrength⟩
  refine ⟨candidateRegret_ids, hscores, hwins, hregret, fun hchosen score hscore first hfirst hid =>
    ?_⟩
  obtain ⟨choice, hchoice, rfl⟩ := Option.map_eq_some_iff.mp hscore
  refine (hregret first hfirst choice (robustChoice_mem hchoice) hid ?_).2
  change (if _ then none else _) = _ at hchosen
  split at hchosen
  · cases hchosen
  · rw [hchoice] at hchosen
    exact Option.some.inj hchosen

end

/-- Two members of the cohort of an evaluated input: the first one risks no more, and no less is
    known of it. -/
structure ComparedMembers (rt : NumericRuntime) (input : RobustnessInput)
    (evaluation : DecisionRobustness) (better worse : CandidateInput) : Prop where
  evaluated : evaluateDecisionRobustness rt input = .ok evaluation
  better_mem : better ∈ input.candidates
  worse_mem : worse ∈ input.candidates
  better_cohort : better.hotelId ∈ evaluation.comparisonCohortHotelIds
  worse_cohort : worse.hotelId ∈ evaluation.comparisonCohortHotelIds
  risk : choiceRiskScore rt better ≤ choiceRiskScore rt worse
  strength : evidenceStrength rt worse ≤ evidenceStrength rt better

/-- A member that is at least as good as another one does at least as well. -/
theorem robustChoice_respects (rt : NumericRuntime) (hantitone : BudgetAntitone rt.toRuntime)
    (input : RobustnessInput) (evaluation : DecisionRobustness) (better worse : CandidateInput)
    (h : ComparedMembers rt input evaluation better worse)
    (hevaluated : ∃ stay stay', evaluatePersonalUtility rt stay = .ok better.utility ∧
      evaluatePersonalUtility rt stay' = .ok worse.utility)
    (hutility : Dominates better.utility worse.utility) :
    DoesAsWell evaluation better.hotelId worse.hotelId := by
  obtain ⟨hok, hbetter, hworse, hbetterCohort, hworseCohort, hrisk, hstrength⟩ := h
  obtain ⟨options, hoptions, hids, -, hfindings, -⟩ := evaluate_ok hok
  obtain ⟨hpenalty, hwidth, -⟩ := resolveOptions_ok hoptions
  obtain ⟨findings, fingerprint⟩ := evaluation
  dsimp only at hfindings hbetterCohort hworseCohort
  subst hfindings
  obtain ⟨stay, stay', hstay, hstay'⟩ := hevaluated
  have hbetterUtility : BetterUtility worse.utility better.utility := by
    rw [evaluatePersonalUtility_ok hstay, evaluatePersonalUtility_ok hstay'] at hutility ⊢
    exact hutility.betterUtility hantitone
  exact evaluated_doesAsWell hantitone ⟨hpenalty, hwidth⟩ hids hworse hbetter
    ⟨hworseCohort, hbetterCohort⟩ ⟨⟨usable_of_mem_cohort hids hworse hworseCohort,
      usable_of_mem_cohort hids hbetter hbetterCohort⟩, hbetterUtility, hrisk, hstrength⟩
    fingerprint

theorem plainRuntime_budgetAntitone : BudgetAntitone plainRuntime := by
  intro budget cost cost' hbudget _ hle
  have hratio : cost / budget ≤ cost' / budget := div_le_div_of_nonneg_right hle hbudget.le
  unfold createBudgetUtility
  dsimp only [plainRuntime]
  split
  next hcost' =>
    rw [if_pos (hratio.trans hcost')]
    exact round_mono (by linarith) 6
  next hcost' =>
    have hfloor : max 0 (65 - 100 * (cost' / budget - 1)) ≤ 65 :=
      max_le (by norm_num) (by linarith [not_le.mp hcost'])
    split
    · exact round_mono (hfloor.trans (by linarith)) 6
    · exact round_mono (max_le_max le_rfl (by linarith)) 6

/-- A bookable candidate with a peer. -/
def peerCandidate (hotelId peerHotelId : String) (utility : PersonalUtilityEvaluation) :
    CandidateInput :=
  { bookableCandidate hotelId (knownContext (some 300) none) 100 with
    utility := utility
    geometry := ⟨hotelId, [peerHotelId]⟩ }

def twoStays (first second : PersonalUtilityEvaluation) : RobustnessInput where
  candidates := [peerCandidate "h1" "h2" first, peerCandidate "h2" "h1" second]
  decisionGeometry := ⟨["h1", "h2"], "geometry-1"⟩

theorem twoStays_evaluated {first second : PersonalUtilityEvaluation}
    (hids : first.hotelId = "h1" ∧ second.hotelId = "h2")
    (hfirst : validatePersonalUtilityEvaluation numericRuntime.toRuntime first = true)
    (hsecond : validatePersonalUtilityEvaluation numericRuntime.toRuntime second = true) :
    ∃ evaluation, evaluateDecisionRobustness numericRuntime (twoStays first second) =
        .ok evaluation ∧ evaluation.toRobustnessFindings =
          evaluatedFindings numericRuntime (twoStays first second) (withDefaults {}) := by
  have hoptions : resolveOptions (twoStays first second).options = .ok (withDefaults {}) := by
    norm_num [resolveOptions, twoStays, withDefaults, positiveOptions]
  have hnodup : ((twoStays first second).candidates.map CandidateInput.hotelId).Nodup :=
    show ["h1", "h2"].Nodup by decide
  refine evaluate_of_valid hoptions hnodup rfl (List.forall_mem_cons.mpr
    ⟨?_, List.forall_mem_singleton.mpr ?_⟩)
  · exact withUtility_valid (by decide) (by decide) rfl hids.1 hfirst
  · exact withUtility_valid (by decide) (by decide) rfl hids.2 hsecond

/-- The two stays are members of one cohort that differ in their utilities only. -/
theorem twoStays_compared {first second : PersonalUtilityEvaluation}
    (hids : first.hotelId = "h1" ∧ second.hotelId = "h2")
    (hfirst : validatePersonalUtilityEvaluation numericRuntime.toRuntime first = true)
    (hsecond : validatePersonalUtilityEvaluation numericRuntime.toRuntime second = true)
    (hcohort : (evaluatedFindings numericRuntime (twoStays first second)
      (withDefaults {})).comparisonCohortHotelIds = ["h1", "h2"])
    (hstrength : evidenceStrength numericRuntime (peerCandidate "h2" "h1" second) ≤
      evidenceStrength numericRuntime (peerCandidate "h1" "h2" first)) :
    ∃ evaluation, ComparedMembers numericRuntime (twoStays first second) evaluation
        (peerCandidate "h1" "h2" first) (peerCandidate "h2" "h1" second) ∧
      evaluation.toRobustnessFindings =
        evaluatedFindings numericRuntime (twoStays first second) (withDefaults {}) := by
  obtain ⟨evaluation, hok, hfindings⟩ := twoStays_evaluated hids hfirst hsecond
  rw [← hfindings] at hcohort
  refine ⟨evaluation, ⟨hok, List.mem_cons_self, List.mem_cons_of_mem _ List.mem_cons_self, ?_, ?_,
    le_of_eq rfl, hstrength⟩, hfindings⟩
  · rw [hcohort]
    exact List.mem_cons_self
  · rw [hcohort]
    exact List.mem_cons_of_mem _ List.mem_cons_self

/-- A stay of a known cost within a budget. -/
def budgetedStay (hotelId : String) (totalCost quality : ℚ) : UtilityInput :=
  knownStay hotelId (knownContext (some totalCost) (some 1000)) quality

theorem budgetedStay_asWell : ∃ evaluation,
    evaluateDecisionRobustness numericRuntime
      (twoStays (evaluatedUtility numericRuntime (budgetedStay "h1" 300 100))
        (evaluatedUtility numericRuntime (budgetedStay "h2" 400 0))) = .ok evaluation ∧
      DoesAsWell evaluation "h1" "h2" := by
  have hcomputed : numbersValid (evaluatedUtility numericRuntime (budgetedStay "h1" 300 100)) =
        true ∧
      numbersValid (evaluatedUtility numericRuntime (budgetedStay "h2" 400 0)) = true ∧
      (evaluatedFindings numericRuntime
        (twoStays (evaluatedUtility numericRuntime (budgetedStay "h1" 300 100))
          (evaluatedUtility numericRuntime (budgetedStay "h2" 400 0)))
        (withDefaults {})).comparisonCohortHotelIds = ["h1", "h2"] ∧
      evidenceStrength numericRuntime (peerCandidate "h2" "h1"
          (evaluatedUtility numericRuntime (budgetedStay "h2" 400 0))) ≤
        evidenceStrength numericRuntime (peerCandidate "h1" "h2"
          (evaluatedUtility numericRuntime (budgetedStay "h1" 300 100))) ∧
      Dominates (evaluatedUtility numericRuntime (budgetedStay "h1" 300 100))
        (evaluatedUtility numericRuntime (budgetedStay "h2" 400 0)) := by
    decide +kernel
  obtain ⟨hbetter, hworse, hcohort, hstrength, hdominates⟩ := hcomputed
  obtain ⟨evaluation, hcompared, -⟩ := twoStays_compared ⟨rfl, rfl⟩
    (evaluatedUtility_valid hbetter) (evaluatedUtility_valid hworse) hcohort hstrength
  exact ⟨evaluation, hcompared.evaluated, robustChoice_respects numericRuntime
    plainRuntime_budgetAntitone _ evaluation _ _ hcompared
    ⟨budgetedStay "h1" 300 100, budgetedStay "h2" 400 0, if_neg (by decide), if_neg (by decide)⟩
    hdominates⟩

/-! ## 7. Prices that no budget judges -/

/-- A stay without a budget, of a price that is scored. -/
def pricedStay (hotelId : String) (price : ℚ) : UtilityInput :=
  { knownStay hotelId (knownContext (some 300) none) 100 with
    dimensions := fun d => ⟨some (if d = .priceValue then price else 100), some 1, []⟩ }

/-- A utility whose score is not that of its contributions. -/
def handMade (hotelId : String) (score : ℚ) : PersonalUtilityEvaluation :=
  let findings : UtilityFindings := { utilityFindings numericRuntime (pricedStay hotelId 100) with
    utilityScore := some score }
  ⟨findings, PersonalUtility.createFingerprint numericRuntime.toRuntime findings⟩

theorem twoStays_notAsWell {first second : PersonalUtilityEvaluation}
    (hids : first.hotelId = "h1" ∧ second.hotelId = "h2")
    (hfirst : validatePersonalUtilityEvaluation numericRuntime.toRuntime first = true)
    (hsecond : validatePersonalUtilityEvaluation numericRuntime.toRuntime second = true)
    (hcohort : (evaluatedFindings numericRuntime (twoStays first second)
      (withDefaults {})).comparisonCohortHotelIds = ["h1", "h2"])
    (hstrength : evidenceStrength numericRuntime (peerCandidate "h2" "h1" second) ≤
      evidenceStrength numericRuntime (peerCandidate "h1" "h2" first))
    (hscore : ∃ scenario ∈ (evaluatedFindings numericRuntime (twoStays first second)
      (withDefaults {})).scenarios,
        ¬ AtMost (memberUtility scenario "h2") (memberUtility scenario "h1")) :
    ∃ evaluation, ComparedMembers numericRuntime (twoStays first second) evaluation
        (peerCandidate "h1" "h2" first) (peerCandidate "h2" "h1" second) ∧
      ¬ DoesAsWell evaluation "h1" "h2" := by
  obtain ⟨evaluation, hcompared, hfindings⟩ := twoStays_compared hids hfirst hsecond hcohort
    hstrength
  obtain ⟨scenario, hscenario, hnot⟩ := hscore
  rw [← hfindings] at hscenario
  exact ⟨evaluation, hcompared, fun h => hnot (h.scores scenario hscenario)⟩

/-- Without a budget a price can be scored worse than one that costs as much, and a utility that is
    made by hand can be scored below its contributions. -/
theorem price_unjudged : BudgetAntitone numericRuntime.toRuntime ∧
    (∃ input evaluation better worse,
      ComparedMembers numericRuntime input evaluation better worse ∧
      (∃ stay stay', evaluatePersonalUtility numericRuntime stay = .ok better.utility ∧
        evaluatePersonalUtility numericRuntime stay' = .ok worse.utility) ∧
      DominatesBenefits better.utility worse.utility ∧
      ¬ DoesAsWell evaluation better.hotelId worse.hotelId) ∧
    ∃ input evaluation better worse,
      ComparedMembers numericRuntime input evaluation better worse ∧
      Dominates better.utility worse.utility ∧
      ¬ DoesAsWell evaluation better.hotelId worse.hotelId := by
  have hcomputed : Dominates (handMade "h1" 0) (handMade "h2" 100) ∧ ∀ utilities ∈
      [(evaluatedUtility numericRuntime (pricedStay "h1" 0),
        evaluatedUtility numericRuntime (pricedStay "h2" 100)),
        (handMade "h1" 0, handMade "h2" 100)],
      numbersValid utilities.1 = true ∧ numbersValid utilities.2 = true ∧
      (evaluatedFindings numericRuntime (twoStays utilities.1 utilities.2)
        (withDefaults {})).comparisonCohortHotelIds = ["h1", "h2"] ∧
      evidenceStrength numericRuntime (peerCandidate "h2" "h1" utilities.2) ≤
        evidenceStrength numericRuntime (peerCandidate "h1" "h2" utilities.1) ∧
      (∃ scenario ∈ (evaluatedFindings numericRuntime (twoStays utilities.1 utilities.2)
        (withDefaults {})).scenarios,
          ¬ AtMost (memberUtility scenario "h2") (memberUtility scenario "h1")) ∧
      DominatesBenefits utilities.1 utilities.2 := by
    decide +kernel
  obtain ⟨hdominates, hcomputed⟩ := hcomputed
  refine ⟨plainRuntime_budgetAntitone, ?_, ?_⟩
  · obtain ⟨hfirst, hsecond, hcohort, hstrength, hscore, hbenefits⟩ :=
      hcomputed _ List.mem_cons_self
    obtain ⟨evaluation, hcompared, hnot⟩ := twoStays_notAsWell ⟨rfl, rfl⟩
      (evaluatedUtility_valid hfirst) (evaluatedUtility_valid hsecond) hcohort hstrength hscore
    exact ⟨_, evaluation, _, _, hcompared, ⟨pricedStay "h1" 0, pricedStay "h2" 100,
      if_neg (by decide), if_neg (by decide)⟩, hbenefits, hnot⟩
  · obtain ⟨hfirst, hsecond, hcohort, hstrength, hscore, -⟩ :=
      hcomputed _ (List.mem_cons_of_mem _ List.mem_cons_self)
    obtain ⟨evaluation, hcompared, hnot⟩ := twoStays_notAsWell ⟨rfl, rfl⟩
      (fingerprinted_valid hfirst) (fingerprinted_valid hsecond) hcohort hstrength hscore
    exact ⟨_, evaluation, _, _, hcompared, hdominates, hnot⟩

end SmartStay.Robustness
