import SmartStay.Promotion.Observations

/-!
# The shadow regression dashboard

`createShadowRegressionDashboardV3` counts what a list of valid observations with distinct ids
says, per kind of divergence, per reason and per segment.

1. Counts, rates, metrics.
2. The record and its ids.
3. `createShadowRegressionDashboard`.
-/

namespace SmartStay.Promotion

open Contract

/-! ## 1. Metrics -/

/-- `Math.round(value * factor) / factor` with six digits. -/
def roundRate (value : ℚ) : ℚ := JsNumber.round (value * 10 ^ 6) / 10 ^ 6

def safeRate (numerator denominator : ℚ) : Option ℚ :=
  if denominator = 0 then none else some (roundRate (numerator / denominator))

/-- `item.recordType === "shadow-comparison"`. -/
def ShadowObservation.comparison? : ShadowObservation → Option ShadowComparison
  | .comparison record => some record
  | .error _ => none

/-- The critical regressions of all comparisons. -/
def criticalRegressionTotal (comparisons : List ShadowComparison) : Nat :=
  (comparisons.map (·.criticalRegressions.length)).sum

/-- `StayOptiShadowSegmentMetricV3`. -/
structure SegmentMetric where
  dimension : String
  value : String
  observationCount : Nat
  comparisonCount : Nat
  executionErrorCount : Nat
  selectionDivergenceCount : Nat
  statusDivergenceCount : Nat
  criticalRegressionCount : Nat

def SegmentMetric.toJson (m : SegmentMetric) : Json :=
  .obj [("dimension", .str m.dimension), ("value", .str m.value),
    ("observationCount", .num m.observationCount), ("comparisonCount", .num m.comparisonCount),
    ("executionErrorCount", .num m.executionErrorCount),
    ("selectionDivergenceCount", .num m.selectionDivergenceCount),
    ("statusDivergenceCount", .num m.statusDivergenceCount),
    ("criticalRegressionCount", .num m.criticalRegressionCount)]

/-- The dimensions of a segment with the texts of their values. -/
def segmentDimensions : List (String × (EvaluationSegment → String)) :=
  [("profile", (·.profile.text)), ("destination", (·.destination.text)),
    ("leadTime", (·.leadTime.text)), ("duration", (·.duration.text)),
    ("coverage", (·.coverage.text))]

/-- The metric of the observations with one value on one dimension. -/
def segmentMetric (dimension value : String) (group : List ShadowObservation) : SegmentMetric :=
  let groupComparisons := group.filterMap (·.comparison?)
  { dimension
    value
    observationCount := group.length
    comparisonCount := groupComparisons.length
    executionErrorCount := group.length - groupComparisons.length
    selectionDivergenceCount := (groupComparisons.filter (!·.diff.selectionAgreement)).length
    statusDivergenceCount := (groupComparisons.filter (!·.diff.statusAgreement)).length
    criticalRegressionCount := criticalRegressionTotal groupComparisons }

def segmentMetrics (observations : List ShadowObservation) : List SegmentMetric :=
  segmentDimensions.flatMap fun dimension =>
    (uniqueSorted (observations.map fun o => dimension.2 o.header.segment)).map fun value =>
      segmentMetric dimension.1 value
        (observations.filter fun o => dimension.2 o.header.segment = value)

/-- `StayOptiShadowReasonDiffCountV3`. -/
structure ReasonDiffCount where
  reasonCode : String
  addedInV3Count : Nat
  missingFromV3Count : Nat

def ReasonDiffCount.toJson (c : ReasonDiffCount) : Json :=
  .obj [("reasonCode", .str c.reasonCode), ("addedInV3Count", .num c.addedInV3Count),
    ("missingFromV3Count", .num c.missingFromV3Count)]

def reasonDiffCounts (comparisons : List ShadowComparison) : List ReasonDiffCount :=
  (uniqueSorted (comparisons.flatMap fun c =>
    c.diff.reasonDiff.addedInV3 ++ c.diff.reasonDiff.missingFromV3)).map fun reasonCode =>
      ⟨reasonCode, (comparisons.filter (·.diff.reasonDiff.addedInV3.contains reasonCode)).length,
        (comparisons.filter (·.diff.reasonDiff.missingFromV3.contains reasonCode)).length⟩

def criticalRegressionCounts (comparisons : List ShadowComparison) :
    List (CriticalRegression × Nat) :=
  (criticalRegressionOrder.map fun code =>
    (code, (comparisons.filter fun c => code ∈ c.criticalRegressions).length)).filter fun item =>
      0 < item.2

/-- `STAYOPTI_PROMOTION_THRESHOLDS_V3`, as far as the dashboard reads it. -/
def minimumShadowObservationCount : Nat := 1000
def minimumShadowComparisonCount : Nat := 990
def minimumObservedSegmentGroupCount : Nat := 30
def maximumShadowExecutionErrorRate : ℚ := 5 / 1000
def maximumCriticalRegressionCount : Nat := 0

structure GateSummary where
  minimumObservationCountMet : Bool
  minimumComparisonCountMet : Bool
  executionErrorRateWithinLimit : Bool
  zeroCriticalRegressions : Bool
  observedSegmentGroupsSufficient : Bool

def GateSummary.toJson (g : GateSummary) : Json :=
  .obj [("minimumObservationCountMet", .bool g.minimumObservationCountMet),
    ("minimumComparisonCountMet", .bool g.minimumComparisonCountMet),
    ("executionErrorRateWithinLimit", .bool g.executionErrorRateWithinLimit),
    ("zeroCriticalRegressions", .bool g.zeroCriticalRegressions),
    ("observedSegmentGroupsSufficient", .bool g.observedSegmentGroupsSufficient)]

/-- `Object.values(gateSummary).every(Boolean)`. -/
def GateSummary.ready (g : GateSummary) : Bool :=
  g.minimumObservationCountMet && g.minimumComparisonCountMet && g.executionErrorRateWithinLimit &&
    g.zeroCriticalRegressions && g.observedSegmentGroupsSufficient

/-! ## 2. The record -/

/-- `counts` of the dashboard. -/
structure DashboardCounts where
  observations : Nat
  comparisons : Nat
  executionErrors : Nat
  exactDecisionAgreements : Nat
  selectionDivergences : Nat
  statusDivergences : Nat
  abstentionDivergences : Nat
  criticalRegressions : Nat

def DashboardCounts.toJson (c : DashboardCounts) : Json :=
  .obj [("observations", .num c.observations), ("comparisons", .num c.comparisons),
    ("executionErrors", .num c.executionErrors),
    ("exactDecisionAgreements", .num c.exactDecisionAgreements),
    ("selectionDivergences", .num c.selectionDivergences),
    ("statusDivergences", .num c.statusDivergences),
    ("abstentionDivergences", .num c.abstentionDivergences),
    ("criticalRegressions", .num c.criticalRegressions)]

/-- `rates` of the dashboard. -/
structure DashboardRates where
  executionErrorRate : ℚ
  exactDecisionAgreementRate : Option ℚ
  selectionAgreementRate : Option ℚ
  statusAgreementRate : Option ℚ
  exactReasonAgreementRate : Option ℚ

def DashboardRates.toJson (r : DashboardRates) : Json :=
  .obj [("executionErrorRate", .num r.executionErrorRate),
    ("exactDecisionAgreementRate", .num? r.exactDecisionAgreementRate),
    ("selectionAgreementRate", .num? r.selectionAgreementRate),
    ("statusAgreementRate", .num? r.statusAgreementRate),
    ("exactReasonAgreementRate", .num? r.exactReasonAgreementRate)]

/-- `core` of the dashboard. -/
structure DashboardCore where
  version : String
  application : String
  publicServingEngine : String
  rawDecisionPayloadStored : Bool
  piiAllowed : Bool
  commercialFieldsAllowed : Bool
  counts : DashboardCounts
  rates : DashboardRates
  criticalRegressionCounts : List (CriticalRegression × Nat)
  reasonDiffCounts : List ReasonDiffCount
  segmentMetrics : List SegmentMetric
  gateSummary : GateSummary
  status : String
  audit : AuditIdentity

def DashboardCore.fields (d : DashboardCore) : List (String × Json) :=
  [("version", .str d.version), ("application", .str d.application),
    ("publicServingEngine", .str d.publicServingEngine),
    ("rawDecisionPayloadStored", .bool d.rawDecisionPayloadStored),
    ("piiAllowed", .bool d.piiAllowed),
    ("commercialFieldsAllowed", .bool d.commercialFieldsAllowed), ("counts", d.counts.toJson),
    ("rates", d.rates.toJson),
    ("criticalRegressionCounts", .arr (d.criticalRegressionCounts.map fun item =>
      .obj [("code", .str item.1.text), ("count", .num item.2)])),
    ("reasonDiffCounts", .arr (d.reasonDiffCounts.map (·.toJson))),
    ("segmentMetrics", .arr (d.segmentMetrics.map (·.toJson))),
    ("gateSummary", d.gateSummary.toJson), ("status", .str d.status), ("audit", d.audit.toJson)]

/-- `StayOptiShadowRegressionDashboardV3`. -/
structure ShadowRegressionDashboard extends DashboardCore where
  dashboardId : String
  fingerprint : String

/-! ## 3. The dashboard -/

/-- The counts and rates of the accepted observations. -/
def dashboardCore (observations : List ShadowObservation) : DashboardCore :=
  let comparisons := observations.filterMap (·.comparison?)
  let errors := observations.filter (·.comparison?.isNone)
  let exactDecisionAgreements := (comparisons.filter fun c => c.diff.kind = .none).length
  let selectionDivergences := (comparisons.filter (!·.diff.selectionAgreement)).length
  let statusDivergences := (comparisons.filter (!·.diff.statusAgreement)).length
  let criticalRegressions := criticalRegressionTotal comparisons
  let metrics := segmentMetrics observations
  let executionErrorRate := (safeRate errors.length observations.length).getD 0
  let gateSummary : GateSummary :=
    { minimumObservationCountMet := minimumShadowObservationCount ≤ observations.length
      minimumComparisonCountMet := minimumShadowComparisonCount ≤ comparisons.length
      executionErrorRateWithinLimit := executionErrorRate ≤ maximumShadowExecutionErrorRate
      zeroCriticalRegressions := criticalRegressions ≤ maximumCriticalRegressionCount
      observedSegmentGroupsSufficient := 0 < metrics.length && metrics.all fun item =>
        minimumObservedSegmentGroupCount ≤ item.observationCount }
  { version := shadowPromotionVersionV3
    application := "internal-promotion-dashboard"
    publicServingEngine := "v2"
    rawDecisionPayloadStored := false
    piiAllowed := false
    commercialFieldsAllowed := false
    counts :=
      { observations := observations.length
        comparisons := comparisons.length
        executionErrors := errors.length
        exactDecisionAgreements
        selectionDivergences
        statusDivergences
        abstentionDivergences := (comparisons.filter fun c => c.diff.kind = .abstention).length
        criticalRegressions }
    rates :=
      { executionErrorRate
        exactDecisionAgreementRate := safeRate exactDecisionAgreements comparisons.length
        selectionAgreementRate :=
          safeRate (comparisons.length - selectionDivergences) comparisons.length
        statusAgreementRate := safeRate (comparisons.length - statusDivergences) comparisons.length
        exactReasonAgreementRate :=
          safeRate (comparisons.filter (·.diff.exactReasonAgreement)).length comparisons.length }
    criticalRegressionCounts := criticalRegressionCounts comparisons
    reasonDiffCounts := reasonDiffCounts comparisons
    segmentMetrics := metrics
    gateSummary
    status :=
      if gateSummary.ready then "ready-for-canary-review"
      else if !gateSummary.zeroCriticalRegressions || !gateSummary.executionErrorRateWithinLimit then
        "blocked-by-regression"
      else "collecting-shadow-evidence"
    audit := createAuditIdentity }

def createShadowRegressionDashboard (rt : Runtime) (observations : List ShadowObservation) :
    Except String ShadowRegressionDashboard :=
  if observations.any fun o => !(validateShadowObservation rt o).valid then
    .error "Shadow dashboard requires valid immutable observations."
  else if ¬ (observations.map (·.comparisonId)).Nodup then
    .error "Shadow dashboard observation IDs must be unique."
  else
    let core := dashboardCore observations
    let dashboardId := createStableHash rt (.obj
      [("observationFingerprints",
        .texts ((observations.map (·.fingerprint)).insertionSort JsText.Le)),
      ("core", .obj core.fields)]) "stayopti-v3-shadow-dashboard-id"
    .ok { core with
      dashboardId
      fingerprint := createStableHash rt
        (.obj (("dashboardId", .str dashboardId) :: core.fields)) "stayopti-v3-shadow-dashboard" }

/-- The dashboard is made exactly of valid observations with distinct ids. -/
theorem createShadowRegressionDashboard_ok {rt : Runtime} {observations : List ShadowObservation} :
    (∃ d, createShadowRegressionDashboard rt observations = .ok d) ↔
      (∀ o ∈ observations, (validateShadowObservation rt o).valid = true) ∧
        (observations.map (·.comparisonId)).Nodup := by
  unfold createShadowRegressionDashboard
  split
  · next hinvalid =>
    obtain ⟨o, ho, hinvalid⟩ := List.any_eq_true.mp hinvalid
    constructor
    · rintro ⟨d, hd⟩
      cases hd
    · rintro ⟨hvalid, -⟩
      simp [hvalid o ho] at hinvalid
  · next hvalid =>
    have hvalid : ∀ o ∈ observations, (validateShadowObservation rt o).valid = true := by
      simpa using hvalid
    split
    · next hdup =>
      constructor
      · rintro ⟨d, hd⟩
        cases hd
      · exact fun h => absurd h.2 hdup
    · next hnodup => exact ⟨fun _ => ⟨hvalid, not_not.mp hnodup⟩, fun _ => ⟨_, rfl⟩⟩

end SmartStay.Promotion
