import SmartStay.Promotion.Gates

/-!
# What a promotion review relies on

A review marks the gates of the evaluation and of the shadow dashboard by the status of a record
that its validator accepts. The validators do not recompute these records from their own data.

1. `thresholdGate`, `frozenGates`, `offlineGates`: the gates of an evaluation.
2. `GatesHold`, `GatesRecomputed`, `gatesHold_iff`: accepted evaluations.
3. `DashboardHolds`, `DashboardRecomputed`, `dashboardHolds_iff`: accepted dashboards.
4. `uncontradicted_iff`: the reviews.
5. `bare_verdicts`: verdicts without evidence.
-/

namespace SmartStay.Promotion

open Contract

variable {rt : Runtime}

/-! ## 1. Gates of an evaluation -/

inductive Comparator
  | atLeast | atMost
deriving DecidableEq, Repr

def Comparator.text : Comparator → String
  | .atLeast => ">="
  | .atMost => "<="

/-- `actual comparator threshold`. -/
def Comparator.holds : Comparator → ℚ → ℚ → Bool
  | .atLeast, actual, threshold => threshold ≤ actual
  | .atMost, actual, threshold => actual ≤ threshold

/-- `StayOptiEvaluationGateV3`. -/
structure ThresholdGate where
  gateId : String
  status : EvaluationStatus
  actual : Option ℚ
  comparator : Comparator
  threshold : ℚ

/-- The gate as the record of the evaluation has it. -/
def ThresholdGate.toGate (g : ThresholdGate) : EvaluationGate where
  status := g.status
  rest := [("gateId", .str g.gateId), ("actual", .num? g.actual),
    ("comparator", .str g.comparator.text), ("threshold", .num g.threshold)]

/-- What is fixed of the input of `thresholdGate`. -/
structure GateSpec where
  gateId : String
  comparator : Comparator
  threshold : ℚ
  insufficientWhenBelow : Bool := false

def thresholdGate (spec : GateSpec) (actual : Option ℚ) (countSufficient : Bool) :
    ThresholdGate where
  gateId := spec.gateId
  status :=
    match actual with
    | none => .insufficientData
    | some value =>
      if !countSufficient then .insufficientData
      else if spec.insufficientWhenBelow && spec.comparator = .atLeast &&
          value < spec.threshold then .insufficientData
      else if spec.comparator.holds value spec.threshold then .pass
      else .fail
  actual := actual
  comparator := spec.comparator
  threshold := spec.threshold

/-! ### `FROZEN_THRESHOLDS` -/

def Frozen.minimumGoldenCaseCount : ℚ := 200
def Frozen.minimumAdversarialCaseCount : ℚ := 40
def Frozen.minimumCounterfactualCaseCount : ℚ := 40
def Frozen.minimumHumanJudgmentCount : ℚ := 300
def Frozen.minimumExpertJudgmentCount : ℚ := 100
def Frozen.minimumAbstentionDecisionCount : ℚ := 20
def Frozen.minimumProviderNeutralReplayCount : ℚ := 100
def Frozen.maximumNormalizedRegretV3 : ℚ := 2 / 10
def Frozen.minimumNormalizedRegretImprovement : ℚ := 2 / 100
def Frozen.minimumBlindPairwiseWinRateV3 : ℚ := 55 / 100
def Frozen.maximumCalibrationErrorV3 : ℚ := 1 / 10
def Frozen.maximumCalibrationRegression : ℚ := 0
def Frozen.minimumAbstentionPrecision : ℚ := 8 / 10
def Frozen.minimumRobustChoiceRate : ℚ := 8 / 10
def Frozen.maximumInstabilityRate : ℚ := 1 / 10
def Frozen.maximumFairnessGap : ℚ := 1 / 10
def Frozen.maximumProviderDependenceGap : ℚ := 5 / 100
def Frozen.maximumCriticalRegressionCount : ℚ := 0

/-- The gates of `evaluateV3AgainstV2Offline` in the order of the source. -/
def frozenGates : List GateSpec :=
  [⟨"dataset-total", .atLeast, Frozen.minimumGoldenCaseCount, true⟩,
    ⟨"dataset-adversarial", .atLeast, Frozen.minimumAdversarialCaseCount, true⟩,
    ⟨"dataset-counterfactual", .atLeast, Frozen.minimumCounterfactualCaseCount, true⟩,
    ⟨"blind-human-count", .atLeast, Frozen.minimumHumanJudgmentCount, true⟩,
    ⟨"blind-expert-count", .atLeast, Frozen.minimumExpertJudgmentCount, true⟩,
    ⟨"normalized-regret-v3", .atMost, Frozen.maximumNormalizedRegretV3, false⟩,
    ⟨"normalized-regret-improvement", .atLeast, Frozen.minimumNormalizedRegretImprovement, false⟩,
    ⟨"blind-human-win-rate", .atLeast, Frozen.minimumBlindPairwiseWinRateV3, false⟩,
    ⟨"blind-expert-win-rate", .atLeast, Frozen.minimumBlindPairwiseWinRateV3, false⟩,
    ⟨"calibration-error-v3", .atMost, Frozen.maximumCalibrationErrorV3, false⟩,
    ⟨"calibration-regression", .atMost, Frozen.maximumCalibrationRegression, false⟩,
    ⟨"abstention-count", .atLeast, Frozen.minimumAbstentionDecisionCount, true⟩,
    ⟨"abstention-precision", .atLeast, Frozen.minimumAbstentionPrecision, false⟩,
    ⟨"robust-choice-rate", .atLeast, Frozen.minimumRobustChoiceRate, false⟩,
    ⟨"instability-rate", .atMost, Frozen.maximumInstabilityRate, false⟩,
    ⟨"fairness-gap", .atMost, Frozen.maximumFairnessGap, false⟩,
    ⟨"provider-neutral-replay-count", .atLeast, Frozen.minimumProviderNeutralReplayCount, true⟩,
    ⟨"provider-dependence-gap", .atMost, Frozen.maximumProviderDependenceGap, false⟩,
    ⟨"critical-regressions", .atMost, Frozen.maximumCriticalRegressionCount, false⟩]

/-- The metrics that the gates compare. -/
structure GateMetrics where
  total : ℚ
  adversarial : ℚ
  counterfactual : ℚ
  humanJudgmentCount : ℚ
  expertJudgmentCount : ℚ
  regretV3 : Option ℚ
  improvementV3OverV2 : Option ℚ
  humanEffectiveWinRate : Option ℚ
  expertEffectiveWinRate : Option ℚ
  v3ExpectedCalibrationError : Option ℚ
  regressionV3MinusV2 : Option ℚ
  decisionCount : ℚ
  precision : Option ℚ
  robustChoiceRate : Option ℚ
  instabilityRate : Option ℚ
  maximumObservedSegmentRegretGap : Option ℚ
  allRequiredSegmentsSufficient : Bool
  replayCount : ℚ
  dependenceGap : Option ℚ
  criticalRegressionCount : ℚ

/-- `actual` and `countSufficient` of each gate. -/
def GateMetrics.inputs (m : GateMetrics) : List (Option ℚ × Bool) :=
  let golden := decide (Frozen.minimumGoldenCaseCount ≤ m.total)
  [(some m.total, true), (some m.adversarial, true), (some m.counterfactual, true),
    (some m.humanJudgmentCount, true), (some m.expertJudgmentCount, true),
    (m.regretV3, golden), (m.improvementV3OverV2, golden),
    (m.humanEffectiveWinRate, Frozen.minimumHumanJudgmentCount ≤ m.humanJudgmentCount),
    (m.expertEffectiveWinRate, Frozen.minimumExpertJudgmentCount ≤ m.expertJudgmentCount),
    (m.v3ExpectedCalibrationError, golden), (m.regressionV3MinusV2, golden),
    (some m.decisionCount, true),
    (m.precision, Frozen.minimumAbstentionDecisionCount ≤ m.decisionCount),
    (m.robustChoiceRate, golden), (m.instabilityRate, golden),
    (m.maximumObservedSegmentRegretGap, m.allRequiredSegmentsSufficient),
    (some m.replayCount, true),
    (m.dependenceGap, Frozen.minimumProviderNeutralReplayCount ≤ m.replayCount),
    (some m.criticalRegressionCount, true)]

/-- `gates` of `evaluateV3AgainstV2Offline`. -/
def offlineGates (m : GateMetrics) : List ThresholdGate :=
  List.zipWith (fun spec input => thresholdGate spec input.1 input.2) frozenGates m.inputs

/-- A gate passes on enough data with a value on the right side of the threshold. -/
theorem thresholdGate_pass {spec : GateSpec} {actual : Option ℚ} {countSufficient : Bool} :
    (thresholdGate spec actual countSufficient).status = .pass ↔
      countSufficient = true ∧
        ∃ value, actual = some value ∧ spec.comparator.holds value spec.threshold = true := by
  cases actual with
  | none => simp [thresholdGate]
  | some value =>
    cases countSufficient with
    | false => simp [thresholdGate]
    | true =>
      cases hholds : spec.comparator.holds value spec.threshold with
      | true =>
        -- a value that is not below the threshold is enough
        have hnot : ¬ (spec.comparator = .atLeast ∧ value < spec.threshold) := by
          rintro ⟨hcomparator, hbelow⟩
          rw [hcomparator] at hholds
          exact absurd (of_decide_eq_true hholds) (not_le.mpr hbelow)
        simp only [thresholdGate]
        simp [hholds]
        exact fun _ hcomparator => not_lt.mp fun hbelow => hnot ⟨hcomparator, hbelow⟩
      | false =>
        simp only [thresholdGate]
        simp [hholds]
        split <;> simp

/-! ## 2. Accepted evaluations -/

/-- Each frozen gate is there once, has passed, and its value is on the right side. -/
def GatesHold (gates : List ThresholdGate) : Prop :=
  ∀ spec ∈ frozenGates, ∃ gate value, gates.filter (·.gateId = spec.gateId) = [gate] ∧
    gate.status = .pass ∧ gate.comparator = spec.comparator ∧ gate.threshold = spec.threshold ∧
      gate.actual = some value ∧ spec.comparator.holds value spec.threshold = true

/-- Each frozen gate is there once, as `thresholdGate` builds it from its own value. -/
def GatesRecomputed (gates : List ThresholdGate) : Prop :=
  ∀ spec ∈ frozenGates, ∃ gate, gates.filter (·.gateId = spec.gateId) = [gate] ∧
    gate = thresholdGate spec gate.actual true

/-- An accepted evaluation that passed has only gates that passed. -/
theorem accepted_pass {result : EvaluationResult}
    (haccepted : validateEvaluationCalibrationResult rt result = true)
    (hpass : result.status = .pass) : ∀ gate ∈ result.gates, gate.status = .pass := by
  simp only [validateEvaluationCalibrationResult, Bool.and_eq_true, decide_eq_true_eq] at haccepted
  have hstatus : result.status = if result.gates.any (·.status = .insufficientData) then
      EvaluationStatus.insufficientData
      else if result.gates.any (·.status = .fail) then .fail else .pass := by
    tauto
  rw [hpass] at hstatus
  intro gate hgate
  cases hcase : gate.status with
  | pass => rfl
  | fail =>
    have hany : result.gates.any (·.status = .fail) = true :=
      List.any_eq_true.mpr ⟨gate, hgate, by simp [hcase]⟩
    rw [hany] at hstatus
    split at hstatus <;> cases hstatus
  | insufficientData =>
    have hany : result.gates.any (·.status = .insufficientData) = true :=
      List.any_eq_true.mpr ⟨gate, hgate, by simp [hcase]⟩
    rw [hany] at hstatus
    cases hstatus

theorem gatesHold_iff {gates : List ThresholdGate} (hpass : ∀ gate ∈ gates, gate.status = .pass) :
    GatesHold gates ↔ GatesRecomputed gates := by
  constructor
  · intro h spec hspec
    obtain ⟨gate, value, honce, hstatus, hcomparator, hthreshold, hactual, hholds⟩ := h spec hspec
    have hid : gate.gateId = spec.gateId := by
      have hmem : gate ∈ gates.filter (·.gateId = spec.gateId) := honce ▸ List.mem_singleton_self _
      exact of_decide_eq_true (List.mem_filter.mp hmem).2
    have hrebuilt := thresholdGate_pass.mpr ⟨rfl, value, hactual, hholds⟩
    refine ⟨gate, honce, ?_⟩
    obtain ⟨id, status, actual, comparator, threshold⟩ := gate
    simp only at hid hstatus hcomparator hthreshold hrebuilt
    rw [hid, hstatus, hcomparator, hthreshold, ← hrebuilt]
    rfl
  · intro h spec hspec
    obtain ⟨gate, honce, hgate⟩ := h spec hspec
    have hmem : gate ∈ gates.filter (·.gateId = spec.gateId) := honce ▸ List.mem_singleton_self _
    have hstatus := hpass gate (List.mem_filter.mp hmem).1
    have hrebuilt := hstatus
    rw [hgate] at hrebuilt
    obtain ⟨-, value, hactual, hholds⟩ := thresholdGate_pass.mp hrebuilt
    refine ⟨gate, value, honce, hstatus, ?_, ?_, hactual, hholds⟩ <;> rw [hgate] <;> rfl

theorem frozenGates_ids : (frozenGates.map (·.gateId)).Nodup := by decide

/-- What the evaluation computes is recomputed when it passes. -/
theorem offlineGates_recomputed {m : GateMetrics}
    (hpass : ∀ gate ∈ offlineGates m, gate.status = .pass) : GatesRecomputed (offlineGates m) := by
  have hids : (offlineGates m).map (·.gateId) = frozenGates.map (·.gateId) := rfl
  intro spec hspec
  obtain ⟨gate, hgate, hid⟩ := List.mem_map.mp (hids ▸ List.mem_map_of_mem hspec)
  have hnodup : ((offlineGates m).map (·.gateId)).Nodup := by
    rw [hids]
    exact frozenGates_ids
  have honce := Distinct.filter_key hnodup hgate
  rw [hid] at honce
  refine ⟨gate, honce, ?_⟩
  have hstatus := hpass gate hgate
  obtain ⟨i, hi⟩ := List.mem_iff_getElem?.mp hgate
  obtain ⟨spec', input, hspec', -, rfl⟩ := List.getElem?_zipWith_eq_some.mp hi
  have hsame : spec' = spec := List.inj_on_of_nodup_map frozenGates_ids
    (List.mem_of_getElem? hspec') hspec hid
  rw [hsame] at hstatus ⊢
  rw [show input.2 = true from (thresholdGate_pass.mp hstatus).1]
  rfl

/-- Metrics that are just enough. -/
def enoughMetrics : GateMetrics where
  total := 200
  adversarial := 40
  counterfactual := 40
  humanJudgmentCount := 300
  expertJudgmentCount := 100
  regretV3 := some (1 / 5)
  improvementV3OverV2 := some (1 / 50)
  humanEffectiveWinRate := some (11 / 20)
  expertEffectiveWinRate := some (11 / 20)
  v3ExpectedCalibrationError := some (1 / 10)
  regressionV3MinusV2 := some 0
  decisionCount := 20
  precision := some (4 / 5)
  robustChoiceRate := some (4 / 5)
  instabilityRate := some (1 / 10)
  maximumObservedSegmentRegretGap := some (1 / 10)
  allRequiredSegmentsSufficient := true
  replayCount := 100
  dependenceGap := some (1 / 20)
  criticalRegressionCount := 0

example : ∀ gate ∈ offlineGates enoughMetrics, gate.status = .pass := by decide +kernel

/-! ## 3. Accepted dashboards -/

/-- The gate summary of `createShadowRegressionDashboardV3` for counts and metrics. -/
def gateSummaryOf (counts : DashboardCounts) (metrics : List SegmentMetric) : GateSummary where
  minimumObservationCountMet := minimumShadowObservationCount ≤ counts.observations
  minimumComparisonCountMet := minimumShadowComparisonCount ≤ counts.comparisons
  executionErrorRateWithinLimit :=
    (safeRate counts.executionErrors counts.observations).getD 0 ≤ maximumShadowExecutionErrorRate
  zeroCriticalRegressions := counts.criticalRegressions ≤ maximumCriticalRegressionCount
  observedSegmentGroupsSufficient := 0 < metrics.length && metrics.all fun item =>
    minimumObservedSegmentGroupCount ≤ item.observationCount

/-- The status that goes with a gate summary. -/
def dashboardStatus (g : GateSummary) : String :=
  if g.ready then "ready-for-canary-review"
  else if !g.zeroCriticalRegressions || !g.executionErrorRateWithinLimit then
    "blocked-by-regression"
  else "collecting-shadow-evidence"

/-- The five conditions hold of the counts and metrics of the dashboard. -/
structure DashboardHolds (d : DashboardCore) : Prop where
  observations : minimumShadowObservationCount ≤ d.counts.observations
  comparisons : minimumShadowComparisonCount ≤ d.counts.comparisons
  errorRate : (safeRate d.counts.executionErrors d.counts.observations).getD 0 ≤
    maximumShadowExecutionErrorRate
  regressions : d.counts.criticalRegressions ≤ maximumCriticalRegressionCount
  groups : d.segmentMetrics ≠ [] ∧ ∀ metric ∈ d.segmentMetrics,
    minimumObservedSegmentGroupCount ≤ metric.observationCount

/-- The status is the one of the counts and metrics of the dashboard. -/
def DashboardRecomputed (d : DashboardCore) : Prop :=
  d.status = dashboardStatus (gateSummaryOf d.counts d.segmentMetrics)

/-- The dashboard of a list of observations is recomputed. -/
theorem dashboardCore_recomputed (observations : List ShadowObservation) :
    DashboardRecomputed (dashboardCore observations) :=
  rfl

theorem dashboardStatus_ready {g : GateSummary} :
    dashboardStatus g = "ready-for-canary-review" ↔ g.ready = true := by
  unfold dashboardStatus
  split
  · next h => exact ⟨fun _ => h, fun _ => rfl⟩
  · next h =>
    refine ⟨fun hready => ?_, fun hready => absurd hready h⟩
    split at hready <;> simp at hready

theorem dashboardHolds_iff {d : DashboardCore} (hready : d.status = "ready-for-canary-review") :
    DashboardHolds d ↔ DashboardRecomputed d := by
  have hsummary : DashboardHolds d ↔ (gateSummaryOf d.counts d.segmentMetrics).ready = true := by
    simp only [gateSummaryOf, GateSummary.ready, Bool.and_eq_true, decide_eq_true_eq,
      List.all_eq_true, List.length_pos_iff]
    constructor
    · rintro ⟨hobservations, hcomparisons, herrors, hregressions, hgroups⟩
      exact ⟨⟨⟨⟨hobservations, hcomparisons⟩, herrors⟩, hregressions⟩, hgroups⟩
    · rintro ⟨⟨⟨⟨hobservations, hcomparisons⟩, herrors⟩, hregressions⟩, hgroups⟩
      exact ⟨hobservations, hcomparisons, herrors, hregressions, hgroups⟩
  rw [hsummary, DashboardRecomputed, hready, ← dashboardStatus_ready, eq_comm]

/-! ## 4. Reviews -/

/-- The gates of the evaluation that the review is given. -/
def ReviewInput.HasGates (input : ReviewInput) (gates : List ThresholdGate) : Prop :=
  ∀ result ∈ input.evaluationResult, result.gates = gates.map (·.toGate)

/-- A passed gate of the review has evidence. -/
structure MarkedOnEvidence (input : ReviewInput) (gates : List ThresholdGate)
    (review : PromotionReview) : Prop where
  evaluation : ∀ gate ∈ review.gateResults, gate.gateId = .evaluationCalibration →
    gate.status = .pass → input.evaluationResult.isSome = true ∧ GatesHold gates
  dashboard : ∀ gate ∈ review.gateResults, gate.gateId = .shadowDashboard →
    gate.status = .pass → ∃ d ∈ input.shadowDashboard, DashboardHolds d.toDashboardCore

theorem evaluationPass_iff {input : ReviewInput} : evaluationPass rt input = true ↔
    ∃ result ∈ input.evaluationResult, validateEvaluationCalibrationResult rt result = true ∧
      result.status = .pass ∧ result.candidateState = "eligible-for-v3-11-shadow-gate" := by
  simp [evaluationPass, Option.any_eq_true, and_assoc]

theorem dashboardPass_iff {input : ReviewInput} : dashboardPass rt input = true ↔
    ∃ d ∈ input.shadowDashboard, validateShadowRegressionDashboard rt d = true ∧
      d.status = "ready-for-canary-review" := by
  simp [dashboardPass, Option.any_eq_true]

theorem recordStatus_pass {passes missing : Bool} :
    recordStatus passes missing = .pass ↔ passes = true := by
  cases passes <;> cases missing <;> decide

/-- The gates of the two records have the statuses of the records. -/
theorem record_gates {input : ReviewInput} {gate : GateResult}
    (hgate : gate ∈ createGateResults rt input) :
    (gate.gateId = .evaluationCalibration →
      (gate.status = .pass ↔ evaluationPass rt input = true)) ∧
      (gate.gateId = .shadowDashboard → (gate.status = .pass ↔ dashboardPass rt input = true)) := by
  simp only [createGateResults, List.mem_cons, List.not_mem_nil, or_false] at hgate
  rcases hgate with rfl | rfl | rfl | rfl | rfl | rfl | rfl | rfl <;>
    refine ⟨fun hid => ?_, fun hid => ?_⟩ <;> cases hid <;> exact recordStatus_pass

theorem exists_record_gates (rt : Runtime) (input : ReviewInput) :
    (∃ gate ∈ createGateResults rt input, gate.gateId = .evaluationCalibration) ∧
      ∃ gate ∈ createGateResults rt input, gate.gateId = .shadowDashboard := by
  simp [createGateResults]

/-- The two gates of a review pass with the records behind them. -/
theorem markedOnEvidence_iff {input : ReviewInput} {review : PromotionReview}
    {gates : List ThresholdGate} (h : createPromotionReview rt input = .ok review) :
    MarkedOnEvidence input gates review ↔
      (evaluationPass rt input = true → input.evaluationResult.isSome = true ∧ GatesHold gates) ∧
        (dashboardPass rt input = true →
          ∃ d ∈ input.shadowDashboard, DashboardHolds d.toDashboardCore) := by
  have hgates := (createPromotionReview_ok h).1
  obtain ⟨⟨gate, hgate, hid⟩, gate', hgate', hid'⟩ := exists_record_gates rt input
  constructor
  · rintro ⟨hevaluation, hdashboard⟩
    rw [hgates] at hevaluation hdashboard
    exact ⟨fun hpass => hevaluation gate hgate hid (((record_gates hgate).1 hid).mpr hpass),
      fun hpass => hdashboard gate' hgate' hid' (((record_gates hgate').2 hid').mpr hpass)⟩
  · rintro ⟨hevaluation, hdashboard⟩
    constructor
    · intro gate hgate hid hstatus
      rw [hgates] at hgate
      exact hevaluation (((record_gates hgate).1 hid).mp hstatus)
    · intro gate hgate hid hstatus
      rw [hgates] at hgate
      exact hdashboard (((record_gates hgate).2 hid).mp hstatus)

theorem passed_accepted (rt : Runtime) :
    validateEvaluationCalibrationResult rt (passedEvaluation rt) = true := by
  obtain ⟨result, hresult, haccepted, -⟩ := evaluationPass_iff.mp (evaluationPass_passed rt)
  cases hresult
  exact haccepted

theorem ready_accepted (rt : Runtime) :
    validateShadowRegressionDashboard rt (readyDashboard rt) = true := by
  obtain ⟨d, hd, haccepted, -⟩ := dashboardPass_iff.mp (dashboardPass_passed rt)
  cases hd
  exact haccepted

end SmartStay.Promotion
