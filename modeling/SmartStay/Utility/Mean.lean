import SmartStay.Utility.UserUtility
import Mathlib.Algebra.Order.BigOperators.Group.List
import Mathlib.Tactic.Linarith

/-!
# Utility as a weighted mean

1. `createWeights_ok`, `createWeights_scale`: the weights are shares of one.
2. `rawUtilityScore_between`, `rawUtilityScore_mono`, `sum_weightedValue`: the utility as a mean of
   the available scores.
3. `evidenceCoverage_mem`, `scoreConfidence_mem`: shares of the weights.
4. `evaluateUserUtilityV2_law`: what holds of every evaluation.
-/

namespace SmartStay.Utility

open Contract Fallible WeightedMean
open Pareto (DimensionCode PreferenceId defaultDimensionCodes)

/-! ## 1. Weights -/

section
variable {preferenceId : PreferenceId} {customWeights : DimensionCode → Option JsFloat}
  {weights : DimensionCode → ℚ}

theorem mem_defaultDimensionCodes (dimension : DimensionCode) :
    dimension ∈ defaultDimensionCodes := by
  cases dimension <;> decide

theorem baseWeights_nonneg (preferenceId : PreferenceId) (dimension : DimensionCode) :
    0 ≤ baseWeights preferenceId dimension := by
  cases preferenceId <;> cases dimension <;> norm_num [baseWeights]

theorem configuredWeight_nonneg {dimension : DimensionCode}
    (h : checkWeight customWeights dimension = .ok ()) :
    0 ≤ configuredWeight preferenceId customWeights dimension := by
  unfold checkWeight at h
  unfold configuredWeight
  cases hcustom : customWeights dimension with
  | none => exact baseWeights_nonneg preferenceId dimension
  | some value =>
    rw [hcustom] at h
    cases value with
    | finite x =>
      obtain ⟨hneg, -⟩ := errorIf_ok.mp h
      exact not_lt.mp hneg
    | posInfinity => cases h
    | negInfinity => cases h
    | nan => cases h

theorem createWeights_ok : createWeights preferenceId customWeights = .ok weights ↔
    (∀ dimension ∈ defaultDimensionCodes, checkWeight customWeights dimension = .ok ()) ∧
      0 < (defaultDimensionCodes.map (configuredWeight preferenceId customWeights)).sum ∧
      weights = fun dimension => configuredWeight preferenceId customWeights dimension /
        (defaultDimensionCodes.map (configuredWeight preferenceId customWeights)).sum := by
  unfold createWeights
  rw [bind_ok]
  constructor
  · rintro ⟨_, hchecks, hrest⟩
    obtain ⟨htotal, hweights⟩ := errorIf_ok.mp hrest
    exact ⟨forM_ok.mp hchecks, not_le.mp htotal, (Except.ok.inj hweights).symm⟩
  · rintro ⟨hchecks, htotal, rfl⟩
    exact ⟨(), forM_ok.mpr hchecks, errorIf_ok.mpr ⟨not_le.mpr htotal, rfl⟩⟩

theorem weights_nonneg (h : createWeights preferenceId customWeights = .ok weights)
    (dimension : DimensionCode) : 0 ≤ weights dimension := by
  obtain ⟨hchecks, htotal, rfl⟩ := createWeights_ok.mp h
  exact div_nonneg
    (configuredWeight_nonneg (hchecks dimension (mem_defaultDimensionCodes dimension))) htotal.le

theorem weights_sum (h : createWeights preferenceId customWeights = .ok weights) :
    (defaultDimensionCodes.map weights).sum = 1 := by
  obtain ⟨-, htotal, rfl⟩ := createWeights_ok.mp h
  simp only [div_eq_mul_inv]
  rw [List.sum_map_mul_right]
  exact mul_inv_cancel₀ htotal.ne'

/-- Custom weights for all dimensions count only in proportion. -/
theorem createWeights_scale (preferenceId : PreferenceId) (custom : DimensionCode → ℚ) {factor : ℚ}
    (hfactor : 0 < factor) :
    createWeights preferenceId (fun dimension => some (.finite (factor * custom dimension))) =
      createWeights preferenceId fun dimension => some (.finite (custom dimension)) := by
  have hneg : ∀ x : ℚ, factor * x < 0 ↔ x < 0 := fun x => by
    rw [← not_le, ← not_le, mul_nonneg_iff_of_pos_left hfactor]
  have hnonpos : ∀ x : ℚ, factor * x ≤ 0 ↔ x ≤ 0 := fun x => by
    rw [← not_lt, ← not_lt, mul_pos_iff_of_pos_left hfactor]
  have hcheck : checkWeight (fun dimension => some (.finite (factor * custom dimension))) =
      checkWeight fun dimension => some (.finite (custom dimension)) := by
    funext dimension
    unfold checkWeight
    simp only [hneg]
  have hsum : (defaultDimensionCodes.map fun dimension => factor * custom dimension).sum =
      factor * (defaultDimensionCodes.map custom).sum :=
    List.sum_map_mul_left _ _ _
  have hdiv : ∀ dimension, factor * custom dimension /
      (factor * (defaultDimensionCodes.map custom).sum) =
        custom dimension / (defaultDimensionCodes.map custom).sum :=
    fun dimension => mul_div_mul_left _ _ hfactor.ne'
  unfold createWeights configuredWeight
  simp only [hcheck, hsum, hdiv, hnonpos]

end

/-! ## 2. The mean of the available scores -/

section
variable {weights : DimensionCode → ℚ} {raw : ℚ}
  {dimensions dimensions' : DimensionCode → NormalizedDimension}

theorem available_spec {dimension : DimensionCode} : available weights dimensions dimension = true ↔
    (∃ score, (dimensions dimension).score = some score) ∧ 0 < weights dimension := by
  rw [available, Bool.and_eq_true, Option.isSome_iff_exists, decide_eq_true_iff]

theorem mem_availableDimensions {dimension : DimensionCode} :
    dimension ∈ availableDimensions weights dimensions ↔
      available weights dimensions dimension = true := by
  rw [availableDimensions, List.mem_filter]
  exact and_iff_right (mem_defaultDimensionCodes dimension)

theorem availableDimensions_weight : ∀ dimension ∈ availableDimensions weights dimensions,
    0 < weights dimension :=
  fun _ hmem => (available_spec.mp (mem_availableDimensions.mp hmem)).2

theorem rawUtilityScore_spec (h : rawUtilityScore weights dimensions = some raw) :
    0 < availableWeight weights dimensions ∧
      raw = weightedMean (availableDimensions weights dimensions)
        (fun dimension => (dimensions dimension).score.getD 0) weights := by
  unfold rawUtilityScore at h
  split at h
  · next hpos => exact ⟨hpos, (Option.some.inj h).symm⟩
  · cases h

/-- A mean lies between two of the available scores. -/
theorem rawUtilityScore_between (h : rawUtilityScore weights dimensions = some raw) :
    ∃ low ∈ availableDimensions weights dimensions, ∃ high ∈ availableDimensions weights dimensions,
      (dimensions low).score.getD 0 ≤ raw ∧ raw ≤ (dimensions high).score.getD 0 := by
  obtain ⟨hpos, rfl⟩ := rawUtilityScore_spec h
  have hweight : ∀ dimension ∈ availableDimensions weights dimensions, 0 ≤ weights dimension :=
    fun dimension hmem => (availableDimensions_weight dimension hmem).le
  obtain ⟨low, hlow, hle⟩ := exists_le_weightedMean hweight hpos
  obtain ⟨high, hhigh, hge⟩ := exists_weightedMean_le hweight hpos
  exact ⟨low, hlow, high, hhigh, hle, hge⟩

/-- Higher scores of the same dimensions have a higher mean. -/
theorem rawUtilityScore_mono
    (hsame : ∀ dimension,
      (dimensions dimension).score.isSome = (dimensions' dimension).score.isSome)
    (hle : ∀ dimension,
      (dimensions dimension).score.getD 0 ≤ (dimensions' dimension).score.getD 0) :
    Option.Rel (· ≤ ·) (rawUtilityScore weights dimensions)
      (rawUtilityScore weights dimensions') := by
  have havailable :
      availableDimensions weights dimensions' = availableDimensions weights dimensions := by
    unfold availableDimensions available
    simp only [hsame]
  unfold rawUtilityScore availableWeight
  rw [havailable]
  split
  · exact .some (weightedMean_mono
      (fun dimension hmem => (availableDimensions_weight dimension hmem).le) fun _ _ => hle _)
  · exact .none

/-- The contributions, before they are rounded, sum to the utility. -/
theorem sum_weightedValue (h : rawUtilityScore weights dimensions = some raw) :
    (defaultDimensionCodes.map (weightedValue weights dimensions)).sum = raw := by
  obtain ⟨hpos, rfl⟩ := rawUtilityScore_spec h
  have hvalue : ∀ dimension, weightedValue weights dimensions dimension =
      if available weights dimensions dimension = true then
        (dimensions dimension).score.getD 0 * weights dimension *
          (availableWeight weights dimensions)⁻¹
      else 0 := by
    intro dimension
    unfold weightedValue normalizedAvailableWeight
    split
    · next havailable =>
      rw [havailable, decide_eq_true hpos, Bool.and_self, if_pos rfl, div_eq_mul_inv, mul_assoc]
    · rfl
  rw [List.map_congr_left fun dimension _ => hvalue dimension, List.sum_map_ite,
    List.sum_map_mul_right]
  simp [weightedMean, availableWeight, availableDimensions, div_eq_mul_inv]

end

/-! ## 3. Shares of the weights -/

section
variable {weights : DimensionCode → ℚ} {dimensions : DimensionCode → NormalizedDimension}

theorem round_mem {x : ℚ} (h : 0 ≤ x ∧ x ≤ 1) : 0 ≤ round x 4 ∧ round x 4 ≤ 1 := by
  have hone : round 1 4 = 1 := by
    have hdecimal : round ((10000 : ℤ) / 10 ^ 4) 4 = (10000 : ℤ) / 10 ^ 4 :=
      round_of_decimal (by decide)
    norm_num at hdecimal
    exact hdecimal
  exact ⟨round_nonneg h.1 4, hone ▸ round_mono h.2 4⟩

theorem normalizeDimension_confidence (dimension : DimensionScore) :
    0 ≤ (normalizeDimension dimension).confidence ∧
      (normalizeDimension dimension).confidence ≤ 1 := by
  have hratio : 0 ≤ normalizeRatio (some dimension.confidence) 0 ∧
      normalizeRatio (some dimension.confidence) 0 ≤ 1 := by
    unfold normalizeRatio
    split
    · exact JsNumber.clamp_mem zero_le_one
    · exact ⟨le_rfl, zero_le_one⟩
  have hzero : (0 : ℚ) ≤ 0 ∧ (0 : ℚ) ≤ 1 := ⟨le_rfl, zero_le_one⟩
  unfold normalizeDimension
  split
  · exact hzero
  · split
    · exact hzero
    · exact round_mem hratio
  · exact hzero

theorem evidenceCoverage_mem (hweights : ∀ dimension, 0 ≤ weights dimension) :
    0 ≤ evidenceCoverage weights dimensions ∧ evidenceCoverage weights dimensions ≤ 1 := by
  unfold evidenceCoverage
  split
  · next hpos =>
    have hsum : availableWeight weights dimensions ≤ totalConfiguredWeight weights := by
      refine List.Sublist.sum_le_sum (List.Sublist.map _ List.filter_sublist) ?_
      exact List.forall_mem_map.mpr fun dimension _ => hweights dimension
    have hnonneg : 0 ≤ availableWeight weights dimensions :=
      List.sum_nonneg (List.forall_mem_map.mpr fun dimension _ => hweights dimension)
    exact ⟨div_nonneg hnonneg hpos.le, (div_le_one hpos).mpr hsum⟩
  · exact ⟨le_rfl, zero_le_one⟩

theorem scoreConfidence_mem (hweights : ∀ dimension, 0 ≤ weights dimension)
    (hconfidence : ∀ dimension,
      0 ≤ (dimensions dimension).confidence ∧ (dimensions dimension).confidence ≤ 1) :
    0 ≤ scoreConfidence weights dimensions ∧ scoreConfidence weights dimensions ≤ 1 := by
  have hvalue : ∀ dimension ∈ defaultDimensionCodes,
      0 ≤ (if (dimensions dimension).score.isSome then (dimensions dimension).confidence else 0) ∧
        (if (dimensions dimension).score.isSome then (dimensions dimension).confidence else 0) ≤
          1 := by
    intro dimension _
    split
    · exact hconfidence dimension
    · exact ⟨le_rfl, zero_le_one⟩
  unfold scoreConfidence
  split
  · next hpos =>
    exact ⟨le_weightedMean (fun dimension _ => hweights dimension) hpos fun d hd => (hvalue d hd).1,
      weightedMean_le (fun dimension _ => hweights dimension) hpos fun d hd => (hvalue d hd).2⟩
  · exact ⟨le_rfl, zero_le_one⟩

end

/-! ## 4. Every evaluation -/

/-- The dimensions of an input as the engine uses them. -/
def UserUtilityInput.dimensions (input : UserUtilityInput) (dimension : DimensionCode) :
    NormalizedDimension :=
  normalizeDimension (input.scores dimension)

/-- The input with another score for one dimension. -/
def UserUtilityInput.rescore (input : UserUtilityInput) (dimension : DimensionCode) (score : ℚ) :
    UserUtilityInput :=
  { input with
    scores := Function.update input.scores dimension
      { input.scores dimension with score := some (.finite score) } }

/-- What holds of an evaluation and of the weights behind it. -/
structure UtilityLaw (input : UserUtilityInput) (options : UserUtilityOptions)
    (weights : DimensionCode → ℚ) (evaluation : UserUtilityEvaluation) : Prop where
  weights_nonneg : ∀ dimension, 0 ≤ weights dimension
  weights_sum : (defaultDimensionCodes.map weights).sum = 1
  /-- The returned utility lies between two available scores. -/
  between : ∀ raw ∈ evaluation.rawUtilityScore,
    ∃ low ∈ evaluation.contributions, ∃ high ∈ evaluation.contributions,
      low.available = true ∧ high.available = true ∧
        (∃ score ∈ low.score, score ≤ raw) ∧ ∃ score ∈ high.score, raw ≤ score
  /-- The exact contributions sum to the exact utility, and both are returned rounded. -/
  contributions : ∀ raw ∈ rawUtilityScore weights input.dimensions,
    (defaultDimensionCodes.map (weightedValue weights input.dimensions)).sum = raw
  rounded : evaluation.rawUtilityScore =
      (rawUtilityScore weights input.dimensions).map (round · 4) ∧
    evaluation.contributions.map (·.weightedValue) =
      defaultDimensionCodes.map fun dimension =>
        round (weightedValue weights input.dimensions dimension) 4
  coverage : 0 ≤ evaluation.evidenceCoverage ∧ evaluation.evidenceCoverage ≤ 1
  confidence : 0 ≤ evaluation.scoreConfidence ∧ evaluation.scoreConfidence ≤ 1
  /-- Raising a score, within 0 to 100, does not lower the utility. -/
  raising : ∀ dimension score score', (input.scores dimension).score = some (.finite score) →
    0 ≤ score → score ≤ score' → score' ≤ 100 →
      ∃ evaluation', evaluateUserUtilityV2 (input.rescore dimension score') options =
          .ok evaluation' ∧
        Option.Rel (· ≤ ·) evaluation.utilityScore evaluation'.utilityScore
  /-- Seven custom weights count only in proportion. -/
  scaling : ∀ (custom : DimensionCode → ℚ) (factor : ℚ),
    options.customWeights = (fun dimension => some (.finite (custom dimension))) → 0 < factor →
      evaluateUserUtilityV2 input { options with
        customWeights := fun dimension => some (.finite (factor * custom dimension)) } =
          .ok evaluation

theorem normalizeDimension_finite {dimension : DimensionScore} {score : ℚ}
    (hscore : dimension.score = some (.finite score)) (h0 : 0 ≤ score) (h100 : score ≤ 100) :
    (normalizeDimension dimension).score = some (round score 2) := by
  unfold normalizeDimension
  rw [hscore]
  dsimp only
  rw [if_neg (not_or.mpr ⟨not_lt.mpr h0, not_lt.mpr h100⟩)]

/-- A known score has two decimals. -/
theorem normalizeDimension_rounded {dimension : DimensionScore} {score : ℚ}
    (h : (normalizeDimension dimension).score = some score) : round score 4 = score := by
  unfold normalizeDimension at h
  split at h
  · cases h
  · next x _ =>
    split at h
    · cases h
    · obtain rfl := Option.some.inj h
      have hfour : round x 2 =
          ((JsNumber.round ((x + 1 / 2 ^ 52) * 10 ^ 2) * 100 : ℤ) : ℚ) / 10 ^ 4 := by
        unfold Contract.round
        push_cast
        ring
      rw [hfour]
      exact round_of_decimal (by decide)
  · cases h

section
variable {input : UserUtilityInput} {options : UserUtilityOptions}
  {evaluation : UserUtilityEvaluation} {weights : DimensionCode → ℚ}

theorem evaluateUserUtilityV2_ok : evaluateUserUtilityV2 input options = .ok evaluation ↔
    JsText.trim input.targetHotelId ≠ "" ∧ ∃ weights,
      createWeights (resolvePreference input).id options.customWeights = .ok weights ∧
        evaluation = utilityEvaluation input options weights := by
  unfold evaluateUserUtilityV2
  rw [throwIf_bind_ok, bind_ok]
  refine and_congr_right fun _ => exists_congr fun weights => and_congr_right fun _ => ?_
  exact ⟨fun h => (Except.ok.inj h).symm, fun h => congrArg Except.ok h.symm⟩

/-- A raised score leaves the other dimensions. -/
theorem rescore_dimensions {dimension : DimensionCode} {score score' : ℚ}
    (hscore : (input.scores dimension).score = some (.finite score)) (h0 : 0 ≤ score)
    (hle : score ≤ score') (h100 : score' ≤ 100) (other : DimensionCode) :
    (input.dimensions other).score.isSome =
        ((input.rescore dimension score').dimensions other).score.isSome ∧
      (input.dimensions other).score.getD 0 ≤
        ((input.rescore dimension score').dimensions other).score.getD 0 := by
  by_cases hother : other = dimension
  · subst hother
    have hraised : ((input.rescore other score').scores other).score = some (.finite score') := by
      show (Function.update input.scores other _ other).score = _
      rw [Function.update_self]
    rw [UserUtilityInput.dimensions, UserUtilityInput.dimensions,
      normalizeDimension_finite hscore h0 (hle.trans h100),
      normalizeDimension_finite hraised (h0.trans hle) h100]
    exact ⟨rfl, round_mono hle 2⟩
  · have hsame : (input.rescore dimension score').scores other = input.scores other :=
      Function.update_of_ne hother _ _
    rw [UserUtilityInput.dimensions, UserUtilityInput.dimensions, hsame]
    exact ⟨rfl, le_rfl⟩

theorem utilityScore_mono {raw raw' : Option ℚ} (gate : ReliabilityGate)
    (h : Option.Rel (· ≤ ·) raw raw') :
    Option.Rel (· ≤ ·) (utilityScore gate raw) (utilityScore gate raw') := by
  unfold utilityScore
  split
  · exact .none
  · cases h with
    | none => exact .none
    | some h => exact .some (round_mono h 2)

theorem utilityEvaluation_between {raw : ℚ}
    (hraw : raw ∈ (utilityEvaluation input options weights).rawUtilityScore) :
    ∃ low ∈ (utilityEvaluation input options weights).contributions,
      ∃ high ∈ (utilityEvaluation input options weights).contributions,
        low.available = true ∧ high.available = true ∧
          (∃ score ∈ low.score, score ≤ raw) ∧ ∃ score ∈ high.score, raw ≤ score := by
  obtain ⟨exact, hexact, rfl⟩ := Option.map_eq_some_iff.mp hraw
  obtain ⟨low, hlow, high, hhigh, hle, hge⟩ := rawUtilityScore_between hexact
  rw [mem_availableDimensions] at hlow hhigh
  obtain ⟨⟨lowScore, hlowScore⟩, -⟩ := available_spec.mp hlow
  obtain ⟨⟨highScore, hhighScore⟩, -⟩ := available_spec.mp hhigh
  rw [hlowScore, Option.getD_some] at hle
  rw [hhighScore, Option.getD_some] at hge
  refine ⟨_, List.mem_map_of_mem (mem_defaultDimensionCodes low), _,
    List.mem_map_of_mem (mem_defaultDimensionCodes high), hlow, hhigh, ⟨lowScore, hlowScore, ?_⟩,
    highScore, hhighScore, ?_⟩
  · have hround := round_mono hle 4
    rwa [normalizeDimension_rounded hlowScore] at hround
  · have hround := round_mono hge 4
    rwa [normalizeDimension_rounded hhighScore] at hround

/-- The utility is a weighted mean, from the weights to the returned numbers. -/
theorem evaluateUserUtilityV2_law (h : evaluateUserUtilityV2 input options = .ok evaluation) :
    ∃ weights, createWeights (resolvePreference input).id options.customWeights = .ok weights ∧
      UtilityLaw input options weights evaluation := by
  obtain ⟨hid, weights, hweights, rfl⟩ := evaluateUserUtilityV2_ok.mp h
  refine ⟨weights, hweights, ?_⟩
  constructor
  · exact weights_nonneg hweights
  · exact weights_sum hweights
  · exact fun raw hraw => utilityEvaluation_between hraw
  · exact fun raw hraw => sum_weightedValue hraw
  · refine ⟨rfl, ?_⟩
    show (defaultDimensionCodes.map (contribution weights input.dimensions)).map _ = _
    rw [List.map_map]
    rfl
  · exact round_mem (evidenceCoverage_mem (weights_nonneg hweights))
  · exact round_mem (scoreConfidence_mem (weights_nonneg hweights)
      fun dimension => normalizeDimension_confidence _)
  · intro dimension score score' hscore h0 hle h100
    refine ⟨_, evaluateUserUtilityV2_ok.mpr ⟨hid, weights, hweights, rfl⟩, ?_⟩
    have hdimensions := rescore_dimensions hscore h0 hle h100
    exact utilityScore_mono _ (rawUtilityScore_mono (fun other => (hdimensions other).1)
      fun other => (hdimensions other).2)
  · intro custom factor hcustom hfactor
    rw [hcustom, ← createWeights_scale _ _ hfactor] at hweights
    exact evaluateUserUtilityV2_ok.mpr ⟨hid, weights, hweights, rfl⟩

/-- A hotel with a known quality and a known price. -/
def partlyKnownInput : UserUtilityInput where
  targetHotelId := "hotel"
  scores
    | .quality => ⟨some (.finite 80), .finite 1, [], []⟩
    | .priceValue => ⟨some (.finite 60), .finite 1, [], []⟩
    | _ => ⟨none, .finite 0, [], []⟩
  reliabilityGate := ⟨.usable, true, []⟩

/-- 80 and 60 with the weights 0.22 and 0.26. -/
theorem partlyKnown_law : ∃ weights evaluation,
    evaluateUserUtilityV2 partlyKnownInput {} = .ok evaluation ∧
      UtilityLaw partlyKnownInput {} weights evaluation := by
  have hrun : ((evaluateUserUtilityV2 partlyKnownInput {}).toOption.map fun evaluation =>
      decide (evaluation.rawUtilityScore = some (691667 / 10000))) = some true := by
    decide +kernel
  obtain ⟨evaluation, hevaluation, -⟩ := exists_ok hrun
  obtain ⟨weights, -, hlaw⟩ := evaluateUserUtilityV2_law hevaluation
  exact ⟨weights, evaluation, hevaluation, hlaw⟩

end

end SmartStay.Utility
