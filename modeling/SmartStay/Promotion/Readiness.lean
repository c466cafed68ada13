import SmartStay.Lib.Tally
import SmartStay.Promotion.HashedIds

/-!
# When a dashboard is ready

`createShadowRegressionDashboardV3` decides on counts of observations, but on the rate of errors
only after it is rounded to six digits. A little more than half a percent of errors is rounded
into the limit.

1. `dashboardCore_perm`, `createShadowRegressionDashboard_perm`: the order of the observations
   does not matter.
2. `Counted`, `dashboardCore_counted`: what the counts of a dashboard add up to.
3. `ready_iff`: the gates of the dashboard on the observations themselves.
4. `GateExact`, `gateExact_iff`: the gate is exact unless the rate is rounded into the limit.
5. `shadowRun`: as many valid observations as wanted, and a run that is rounded into the limit.
-/

namespace SmartStay.Promotion

open Contract

variable {rt : Runtime} {observations observations' : List ShadowObservation}

/-! ## 1. Permutations -/

theorem criticalRegressionTotal_perm {cs cs' : List ShadowComparison} (h : cs.Perm cs') :
    criticalRegressionTotal cs = criticalRegressionTotal cs' :=
  (h.map _).sum_eq

theorem segmentMetric_perm (dimension value : String) (h : observations.Perm observations') :
    segmentMetric dimension value observations = segmentMetric dimension value observations' := by
  have hcomparisons := h.filterMap (·.comparison?)
  simp only [segmentMetric, h.length_eq, hcomparisons.length_eq, (hcomparisons.filter _).length_eq,
    criticalRegressionTotal_perm hcomparisons]

theorem segmentMetrics_perm (h : observations.Perm observations') :
    segmentMetrics observations = segmentMetrics observations' := by
  unfold segmentMetrics
  refine List.flatMap_congr fun dimension _ => ?_
  rw [uniqueSorted_congr fun _ => (h.map _).mem_iff]
  exact List.map_congr_left fun value _ => segmentMetric_perm _ _ (h.filter _)

theorem reasonDiffCounts_perm {cs cs' : List ShadowComparison} (h : cs.Perm cs') :
    reasonDiffCounts cs = reasonDiffCounts cs' := by
  unfold reasonDiffCounts
  rw [uniqueSorted_congr fun _ => (h.flatMap_right _).mem_iff]
  refine List.map_congr_left fun code _ => ?_
  rw [(h.filter _).length_eq, (h.filter _).length_eq]

theorem criticalRegressionCounts_perm {cs cs' : List ShadowComparison} (h : cs.Perm cs') :
    criticalRegressionCounts cs = criticalRegressionCounts cs' := by
  unfold criticalRegressionCounts
  refine congrArg _ (List.map_congr_left fun code _ => ?_)
  rw [(h.filter _).length_eq]

theorem dashboardCore_perm (h : observations.Perm observations') :
    dashboardCore observations = dashboardCore observations' := by
  have hcomparisons := h.filterMap (·.comparison?)
  have hfilter : ∀ p, ((observations.filterMap (·.comparison?)).filter p).length =
      ((observations'.filterMap (·.comparison?)).filter p).length :=
    fun p => (hcomparisons.filter p).length_eq
  simp only [dashboardCore, h.length_eq, hcomparisons.length_eq, (h.filter _).length_eq, hfilter,
    criticalRegressionTotal_perm hcomparisons, segmentMetrics_perm h,
    reasonDiffCounts_perm hcomparisons, criticalRegressionCounts_perm hcomparisons]

/-- Every order of the observations makes the same dashboard, or is refused for the same reason. -/
theorem createShadowRegressionDashboard_perm (rt : Runtime)
    (h : observations.Perm observations') : createShadowRegressionDashboard rt observations =
      createShadowRegressionDashboard rt observations' := by
  unfold createShadowRegressionDashboard
  simp only [dashboardCore_perm h, JsText.insertionSort_eq_of_perm (h.map _), h.any_eq,
    (h.map _).nodup_iff]

/-! ## 2. Counts -/

/-- The observations that are execution errors. -/
def executionErrors (observations : List ShadowObservation) : Nat :=
  (observations.filter (·.comparison?.isNone)).length

/-- Comparisons and errors are the observations, and the metrics of every dimension add up to
    the same totals. -/
structure Counted (observations : List ShadowObservation) (d : DashboardCore) : Prop where
  all : d.counts.observations = observations.length
  kinds : d.counts.comparisons + d.counts.executionErrors = d.counts.observations
  dimensions : ∀ dimension ∈ segmentDimensions,
    let metrics := d.segmentMetrics.filter (·.dimension = dimension.1)
    (metrics.map (·.observationCount)).sum = d.counts.observations ∧
      (metrics.map (·.comparisonCount)).sum = d.counts.comparisons ∧
      (metrics.map (·.executionErrorCount)).sum = d.counts.executionErrors

theorem comparisons_add_errors (observations : List ShadowObservation) :
    (observations.filterMap (·.comparison?)).length + executionErrors observations =
      observations.length := by
  induction observations with
  | nil => rfl
  | cons o rest ih =>
    unfold executionErrors at ih ⊢
    cases o with
    | comparison record =>
      simp [ShadowObservation.comparison?] at ih ⊢
      omega
    | error record =>
      simp [ShadowObservation.comparison?] at ih ⊢
      omega

/-- The metrics with the name of a dimension are those of its values. -/
theorem metrics_of_dimension {dimension : String × (EvaluationSegment → String)}
    (h : dimension ∈ segmentDimensions) (observations : List ShadowObservation) :
    (segmentMetrics observations).filter (·.dimension = dimension.1) =
      (uniqueSorted (observations.map fun o => dimension.2 o.header.segment)).map fun value =>
        segmentMetric dimension.1 value
          (observations.filter fun o => dimension.2 o.header.segment = value) := by
  simp only [segmentDimensions, List.mem_cons, List.not_mem_nil, or_false] at h
  rcases h with rfl | rfl | rfl | rfl | rfl <;>
    simp [segmentMetrics, segmentDimensions, List.filter_map, Function.comp_def, segmentMetric]

theorem dashboardCore_counted (observations : List ShadowObservation) :
    Counted observations (dashboardCore observations) where
  all := rfl
  kinds := comparisons_add_errors observations
  dimensions := by
    intro dimension hdimension
    show (((segmentMetrics observations).filter _).map _).sum = observations.length ∧
      (((segmentMetrics observations).filter _).map _).sum =
        (observations.filterMap (·.comparison?)).length ∧
      (((segmentMetrics observations).filter _).map _).sum = executionErrors observations
    have hkeys := nodup_uniqueSorted (observations.map fun o => dimension.2 o.header.segment)
    have hmem : ∀ o ∈ observations, dimension.2 o.header.segment ∈
        uniqueSorted (observations.map fun o => dimension.2 o.header.segment) :=
      fun o ho => mem_uniqueSorted.mpr (List.mem_map_of_mem ho)
    have herrors : ∀ group : List ShadowObservation,
        group.length - (group.filterMap (·.comparison?)).length = executionErrors group := by
      intro group
      have hall := comparisons_add_errors group
      omega
    simp only [metrics_of_dimension hdimension, List.map_map, Function.comp_def, segmentMetric,
      herrors]
    exact ⟨Tally.sum_groups Tally.additive_length hkeys hmem,
      Tally.sum_groups (Tally.additive_filterMap _) hkeys hmem,
      Tally.sum_groups (Tally.additive_filter _) hkeys hmem⟩

/-! ## 3. The gates -/

/-- Enough observations and comparisons, in all and in each observed group, and no critical
    regression. -/
structure EvidenceSuffices (observations : List ShadowObservation) : Prop where
  enoughObservations : 1000 ≤ observations.length
  enoughComparisons : 990 ≤ (observations.filterMap (·.comparison?)).length
  noRegressions : ∀ c ∈ observations.filterMap (·.comparison?), c.criticalRegressions = []
  groups : ∀ dimension ∈ segmentDimensions, ∀ o ∈ observations, 30 ≤ (observations.filter fun o' =>
    dimension.2 o'.header.segment = dimension.2 o.header.segment).length

theorem criticalRegressionTotal_le_iff {cs : List ShadowComparison} :
    criticalRegressionTotal cs ≤ maximumCriticalRegressionCount ↔
      ∀ c ∈ cs, c.criticalRegressions = [] := by
  simp [criticalRegressionTotal, maximumCriticalRegressionCount, List.sum_eq_zero_iff]

theorem groups_iff (hne : observations ≠ []) :
    (0 < (segmentMetrics observations).length ∧ ∀ item ∈ segmentMetrics observations,
      minimumObservedSegmentGroupCount ≤ item.observationCount) ↔
    ∀ dimension ∈ segmentDimensions, ∀ o ∈ observations, 30 ≤ (observations.filter fun o' =>
      dimension.2 o'.header.segment = dimension.2 o.header.segment).length := by
  have hitems : (∀ item ∈ segmentMetrics observations,
      minimumObservedSegmentGroupCount ≤ item.observationCount) ↔
      ∀ dimension ∈ segmentDimensions, ∀ o ∈ observations, 30 ≤ (observations.filter fun o' =>
        dimension.2 o'.header.segment = dimension.2 o.header.segment).length := by
    constructor
    · intro h dimension hdimension o ho
      refine h _ (List.mem_flatMap.mpr ⟨dimension, hdimension, List.mem_map.mpr
        ⟨dimension.2 o.header.segment, mem_uniqueSorted.mpr ?_, rfl⟩⟩)
      exact List.mem_map.mpr ⟨o, ho, rfl⟩
    · intro h item hitem
      obtain ⟨dimension, hdimension, hitem⟩ := List.mem_flatMap.mp hitem
      obtain ⟨value, hvalue, rfl⟩ := List.mem_map.mp hitem
      obtain ⟨o, ho, rfl⟩ := List.mem_map.mp (mem_uniqueSorted.mp hvalue)
      exact h dimension hdimension o ho
  refine (and_iff_right ?_).trans hitems
  obtain ⟨o, ho⟩ := List.exists_mem_of_ne_nil _ hne
  have hdimension : ("profile", fun s : EvaluationSegment => s.profile.text) ∈ segmentDimensions :=
    List.mem_cons_self
  refine List.length_pos_of_mem (List.mem_flatMap.mpr ⟨_, hdimension, List.mem_map.mpr
    ⟨o.header.segment.profile.text, mem_uniqueSorted.mpr ?_, rfl⟩⟩)
  exact List.mem_map.mpr ⟨o, ho, rfl⟩

/-- Half a unit of the sixth digit above the limit is rounded into it. -/
theorem roundRate_le_iff {value : ℚ} :
    roundRate value ≤ maximumShadowExecutionErrorRate ↔ value < 50005 / 10 ^ 7 := by
  have hfloor : JsNumber.round (value * 10 ^ 6) ≤ 5000 ↔ value * 10 ^ 6 + 1 / 2 < 5001 := by
    rw [JsNumber.round, ← Int.lt_add_one_iff, Int.floor_lt]
    norm_num
  have hscale : roundRate value ≤ maximumShadowExecutionErrorRate ↔
      JsNumber.round (value * 10 ^ 6) ≤ 5000 := by
    rw [roundRate, maximumShadowExecutionErrorRate, div_le_iff₀ (by positivity)]
    norm_num
    exact_mod_cast Iff.rfl
  rw [hscale, hfloor]
  constructor <;> intro h <;> linarith

/-- The dashboard is ready when the evidence suffices and the rounded rate is within the limit. -/
theorem ready_iff : (dashboardCore observations).status = "ready-for-canary-review" ↔
    EvidenceSuffices observations ∧
      (executionErrors observations : ℚ) < 50005 / 10 ^ 7 * observations.length := by
  have hstatus : (dashboardCore observations).status = "ready-for-canary-review" ↔
      (dashboardCore observations).gateSummary.ready = true := by
    show (if (dashboardCore observations).gateSummary.ready then _ else _) = _ ↔ _
    split
    · next h => simp [h]
    · next h =>
      split <;> simp [h]
  have hready : (dashboardCore observations).gateSummary.ready = true ↔
      minimumShadowObservationCount ≤ observations.length ∧
      minimumShadowComparisonCount ≤ (observations.filterMap (·.comparison?)).length ∧
      (safeRate (executionErrors observations) observations.length).getD 0 ≤
        maximumShadowExecutionErrorRate ∧
      criticalRegressionTotal (observations.filterMap (·.comparison?)) ≤
        maximumCriticalRegressionCount ∧
      0 < (segmentMetrics observations).length ∧ ∀ item ∈ segmentMetrics observations,
        minimumObservedSegmentGroupCount ≤ item.observationCount := by
    simp [GateSummary.ready, dashboardCore, executionErrors, and_assoc]
  have hrate : 1000 ≤ observations.length →
      ((safeRate (executionErrors observations) observations.length).getD 0 ≤
        maximumShadowExecutionErrorRate ↔
      (executionErrors observations : ℚ) < 50005 / 10 ^ 7 * observations.length) := by
    intro hlength
    have hpos : (0 : ℚ) < observations.length := by
      exact_mod_cast Nat.lt_of_lt_of_le (by norm_num) hlength
    rw [safeRate, if_neg hpos.ne', Option.getD_some, roundRate_le_iff, div_lt_iff₀ hpos]
  rw [hstatus, hready]
  constructor
  · rintro ⟨(hlength : 1000 ≤ _), hcomparisons, herrors, hregressions, hgroups⟩
    have hne : observations ≠ [] := List.ne_nil_of_length_pos (by omega)
    exact ⟨⟨hlength, hcomparisons, criticalRegressionTotal_le_iff.mp hregressions,
      (groups_iff hne).mp hgroups⟩, (hrate hlength).mp herrors⟩
  · rintro ⟨⟨hlength, hcomparisons, hregressions, hgroups⟩, herrors⟩
    have hne : observations ≠ [] := List.ne_nil_of_length_pos (by omega)
    exact ⟨hlength, hcomparisons, (hrate hlength).mpr herrors,
      criticalRegressionTotal_le_iff.mpr hregressions, (groups_iff hne).mpr hgroups⟩

/-! ## 4. Exactness -/

/-- What the gate promises of a list of observations. -/
structure GateExact (rt : Runtime) (observations : List ShadowObservation) : Prop where
  permuted : ∀ observations' : List ShadowObservation, observations'.Perm observations →
    createShadowRegressionDashboard rt observations' =
      createShadowRegressionDashboard rt observations
  counted : ∀ d, createShadowRegressionDashboard rt observations = .ok d →
    Counted observations d.toDashboardCore
  ready : ∀ d, createShadowRegressionDashboard rt observations = .ok d →
    d.status = "ready-for-canary-review" → EvidenceSuffices observations ∧
      (executionErrors observations : ℚ) ≤ 5 / 1000 * observations.length

/-- The evidence suffices but for the errors, of which there are less than half a unit of the
    sixth digit too many. -/
def RoundedIntoLimit (observations : List ShadowObservation) : Prop :=
  EvidenceSuffices observations ∧
    5 / 1000 * observations.length < (executionErrors observations : ℚ) ∧
    (executionErrors observations : ℚ) < 50005 / 10 ^ 7 * observations.length

theorem createShadowRegressionDashboard_core {d : ShadowRegressionDashboard}
    (h : createShadowRegressionDashboard rt observations = .ok d) :
    d.toDashboardCore = dashboardCore observations := by
  unfold createShadowRegressionDashboard at h
  split at h
  · cases h
  · split at h
    · cases h
    · cases h
      rfl

/-- The gate is exact for the observations unless their error rate is rounded into the limit. -/
theorem gateExact_iff (hvalid : ∀ o ∈ observations, (validateShadowObservation rt o).valid = true)
    (hids : (observations.map (·.comparisonId)).Nodup) :
    GateExact rt observations ↔ ¬ RoundedIntoLimit observations := by
  constructor
  · rintro ⟨-, -, hready⟩ ⟨hevidence, hmore, hless⟩
    obtain ⟨d, hd⟩ := createShadowRegressionDashboard_ok.mpr ⟨hvalid, hids⟩
    have hcore := createShadowRegressionDashboard_core hd
    have hstatus : d.status = "ready-for-canary-review" := by
      rw [hcore]
      exact ready_iff.mpr ⟨hevidence, hless⟩
    exact absurd (hready d hd hstatus).2 (not_le.mpr hmore)
  · intro hnot
    refine ⟨fun _ h => createShadowRegressionDashboard_perm rt h, ?_, ?_⟩
    · intro d hd
      rw [createShadowRegressionDashboard_core hd]
      exact dashboardCore_counted observations
    · intro d hd hstatus
      rw [createShadowRegressionDashboard_core hd] at hstatus
      obtain ⟨hevidence, hless⟩ := ready_iff.mp hstatus
      refine ⟨hevidence, not_lt.mp fun hmore => hnot ⟨hevidence, hmore, hless⟩⟩

/-! ## 5. A run that is rounded into the limit -/

/-- The id of an observation with a number. -/
def runId (n : Nat) : String := "fnv1a32-" ++ hex8 n

/-- Both engines abstain. -/
def quietComparison (rt : Runtime) (n : Nat) : ShadowComparison :=
  let core : ComparisonCore :=
    { createHeader (runId n) (quietInput "").segment with
      v2 := quietDecision .v2
      v3 := quietDecision .v3
      safety := (quietInput "").safety
      diff := ⟨.none, true, true, true, true, [], [], []⟩
      criticalRegressions := []
      audit := createAuditIdentity }
  { core with fingerprint := createComparisonFingerprint rt core }

def failedRun (rt : Runtime) (n : Nat) : ShadowError :=
  let core : ErrorCore :=
    { createHeader (runId n) (quietInput "").segment with
      errorCode := "v3-shadow-execution-failed"
      audit := createAuditIdentity }
  { core with fingerprint := createShadowErrorFingerprint rt core }

/-- Failed runs and then comparisons. -/
def shadowRun (rt : Runtime) (errors comparisons : Nat) : List ShadowObservation :=
  (List.range errors).map (fun n => .error (failedRun rt n)) ++
    (List.range comparisons).map fun n => .comparison (quietComparison rt (errors + n))

@[simp] theorem length_shadowRun (rt : Runtime) (errors comparisons : Nat) :
    (shadowRun rt errors comparisons).length = errors + comparisons := by
  simp [shadowRun]

theorem comparisons_shadowRun (rt : Runtime) (errors comparisons : Nat) :
    (shadowRun rt errors comparisons).filterMap (·.comparison?) =
      (List.range comparisons).map fun n => quietComparison rt (errors + n) := by
  simp [shadowRun, List.filterMap_map, ShadowObservation.comparison?]

theorem executionErrors_shadowRun (rt : Runtime) (errors comparisons : Nat) :
    executionErrors (shadowRun rt errors comparisons) = errors := by
  have hall := comparisons_add_errors (shadowRun rt errors comparisons)
  rw [comparisons_shadowRun, length_shadowRun, List.length_map, List.length_range] at hall
  omega

theorem mem_shadowRun {errors comparisons : Nat} {o : ShadowObservation}
    (h : o ∈ shadowRun rt errors comparisons) :
    (∃ n, o = .error (failedRun rt n)) ∨ ∃ n, o = .comparison (quietComparison rt n) := by
  rcases List.mem_append.mp h with h | h
  · obtain ⟨n, -, rfl⟩ := List.mem_map.mp h
    exact .inl ⟨n, rfl⟩
  · obtain ⟨n, -, rfl⟩ := List.mem_map.mp h
    exact .inr ⟨_, rfl⟩

theorem shadowRun_valid {errors comparisons : Nat} {o : ShadowObservation}
    (h : o ∈ shadowRun rt errors comparisons) : (validateShadowObservation rt o).valid = true := by
  rcases mem_shadowRun h with ⟨n, rfl⟩ | ⟨n, rfl⟩
  · refine valid_of_noIssues (validShape_of_created rfl rfl (isStableHash_hex8 n)) ?_
    simp [recordIssues, failedRun, pure, Except.pure]
  · refine valid_of_noIssues (validShape_of_created rfl rfl (isStableHash_hex8 n)) ?_
    have haccepted2 : validateComparableDecision (quietDecision .v2) .v2 = .ok () :=
      validateComparableDecision_ok.mpr (quietDecision_accepted .v2)
    have haccepted3 : validateComparableDecision (quietDecision .v3) .v3 = .ok () :=
      validateComparableDecision_ok.mpr (quietDecision_accepted .v3)
    have hdiff : createDecisionDiff (quietDecision .v2) (quietDecision .v3) =
        .ok ⟨.none, true, true, true, true, [], [], []⟩ := rfl
    have hnone : createCriticalRegressions (quietInput "").safety = [] := rfl
    simp only [recordIssues, quietComparison, haccepted2, haccepted3, hdiff, hnone, bind,
      Except.bind]
    simp [pure, Except.pure]

theorem shadowRun_ids (rt : Runtime) {errors comparisons : Nat}
    (h : errors + comparisons ≤ 2 ^ 32) :
    ((shadowRun rt errors comparisons).map (·.comparisonId)).Nodup := by
  have hids : (shadowRun rt errors comparisons).map (·.comparisonId) =
      (List.range (errors + comparisons)).map runId := by
    rw [List.range_add, List.map_append, List.map_map]
    simp [shadowRun, Function.comp_def, ShadowObservation.comparisonId, ShadowObservation.header,
      failedRun, quietComparison, createHeader]
  rw [hids]
  refine List.Nodup.map_on ?_ List.nodup_range
  intro m hm n hn heq
  rw [List.mem_range] at hm hn
  exact hex8_inj (lt_of_lt_of_le hm h) (lt_of_lt_of_le hn h) ((String.append_right_inj _).mp heq)

theorem shadowRun_segment {errors comparisons : Nat} {o : ShadowObservation}
    (h : o ∈ shadowRun rt errors comparisons) : o.header.segment = (quietInput "").segment := by
  rcases mem_shadowRun h with ⟨n, rfl⟩ | ⟨n, rfl⟩ <;> rfl

theorem shadowRun_evidence (rt : Runtime) {errors comparisons : Nat}
    (h : 990 ≤ comparisons) (hall : 1000 ≤ errors + comparisons) :
    EvidenceSuffices (shadowRun rt errors comparisons) where
  enoughObservations := by rwa [length_shadowRun]
  enoughComparisons := by rwa [comparisons_shadowRun, List.length_map, List.length_range]
  noRegressions := by
    rw [comparisons_shadowRun]
    intro c hc
    obtain ⟨n, -, rfl⟩ := List.mem_map.mp hc
    rfl
  groups := by
    intro dimension _ o ho
    have hsame : ((shadowRun rt errors comparisons).filter fun o' =>
        dimension.2 o'.header.segment = dimension.2 o.header.segment) =
        shadowRun rt errors comparisons :=
      List.filter_eq_self.mpr fun o' ho' => decide_eq_true
        (by rw [shadowRun_segment ho, shadowRun_segment ho'])
    rw [hsame, length_shadowRun]
    omega

/-- The theorem for one error and two comparisons. -/
theorem gateExact_three : GateExact plainRuntime (shadowRun plainRuntime 1 2) ↔
    ¬ RoundedIntoLimit (shadowRun plainRuntime 1 2) :=
  gateExact_iff (fun _ => shadowRun_valid) (shadowRun_ids _ (by norm_num))

/-- With 51 errors among 10199 observations a dashboard is ready, at more than half a percent. -/
theorem rounded_into_limit : ¬ ∀ (rt : Runtime) (observations : List ShadowObservation),
    (∀ o ∈ observations, (validateShadowObservation rt o).valid = true) →
      (observations.map (·.comparisonId)).Nodup → GateExact rt observations := by
  intro h
  have hvalid : ∀ o ∈ shadowRun plainRuntime 51 10148,
      (validateShadowObservation plainRuntime o).valid = true := fun _ => shadowRun_valid
  have hids : ((shadowRun plainRuntime 51 10148).map (·.comparisonId)).Nodup :=
    shadowRun_ids _ (by norm_num)
  have hevidence : EvidenceSuffices (shadowRun plainRuntime 51 10148) :=
    shadowRun_evidence _ (by norm_num) (by norm_num)
  have hready : (dashboardCore (shadowRun plainRuntime 51 10148)).status =
      "ready-for-canary-review" := by
    refine ready_iff.mpr ⟨hevidence, ?_⟩
    rw [executionErrors_shadowRun, length_shadowRun]
    norm_num
  obtain ⟨d, hd⟩ := createShadowRegressionDashboard_ok.mpr ⟨hvalid, hids⟩
  rw [← createShadowRegressionDashboard_core hd] at hready
  have hfew := ((h _ _ hvalid hids).ready d hd hready).2
  rw [executionErrors_shadowRun, length_shadowRun] at hfew
  norm_num at hfew

end SmartStay.Promotion
