import SmartStay.Upgrade.Frontier

/-!
# Marginal evaluations

`applyMarginalEvaluations` of `engine-v2/upgrade/smartUpgradeCurveEngine.ts` walks along the
efficient points. It sorts them by their costs in cents, while the frontier compares overages of four
decimals that are taken of the costs before they are rounded: two costs of the same cents can have
different overages, and are then sorted by hotel id.

1. `MarginalEvaluation`, `applyMarginalEvaluations`.
2. `marginals_walkPoints`, `map_points_walkPoints`: what the walk makes of the points.
3. `PricedPoints`: the points of candidates with one budget.
4. `CentsInOrder`, `PricedPoints.ascending_iff`.
5. `pricedPoints_of_createPoints`.
6. `frontier_law_iff`, `sameCents_descend`.
-/

namespace SmartStay.Upgrade

open Contract (round round_mono round_nonneg round_of_decimal)
open Dominance JsSort
open Pareto (normalizeRatio normalizeNonNegativeNumber)

/-! ## 1. The walk -/

/-- The options that only the marginal evaluations read. -/
structure MarginalOptions where
  minimumDiminishingReturnEfficiency : Option ℚ := none
  diminishingReturnRelativeDrop : Option ℚ := none

structure ResolvedMarginalOptions where
  minimumDiminishingReturnEfficiency : ℚ
  diminishingReturnRelativeDrop : ℚ

def resolveMarginalOptions (options : MarginalOptions) : ResolvedMarginalOptions where
  minimumDiminishingReturnEfficiency :=
    normalizeNonNegativeNumber options.minimumDiminishingReturnEfficiency (2 / 10)
  diminishingReturnRelativeDrop := normalizeRatio options.diminishingReturnRelativeDrop (1 / 2)

/-- `marginalFromPreviousEfficientPoint`. -/
structure MarginalEvaluation where
  previousHotelId : String
  incrementalCost : ℚ
  incrementalBudgetOverageRatio : ℚ
  incrementalAdjustedBenefit : ℚ
  marginalBenefitPerBudgetPercent : Option ℚ
  marginalBenefitPer100Currency : Option ℚ

def costOf (point : UpgradePoint) : ℚ := point.totalCost.getD 0

/-- The benefit for each percent of the budget, not rounded. -/
def marginalBenefit (previous point : UpgradePoint) : Option ℚ :=
  let incrementalBudgetOverageRatio := overageOf point - overageOf previous
  if 0 < incrementalBudgetOverageRatio then
    some ((benefitOf point - benefitOf previous) / (incrementalBudgetOverageRatio * 100))
  else none

def marginalFrom (previous point : UpgradePoint) : MarginalEvaluation :=
  let incrementalCost := costOf point - costOf previous
  let incrementalAdjustedBenefit := benefitOf point - benefitOf previous
  { previousHotelId := previous.hotelId
    incrementalCost := round incrementalCost 2
    incrementalBudgetOverageRatio := round (overageOf point - overageOf previous) 4
    incrementalAdjustedBenefit := round incrementalAdjustedBenefit 4
    marginalBenefitPerBudgetPercent := (marginalBenefit previous point).map fun benefit =>
      round benefit 4
    marginalBenefitPer100Currency :=
      if 0 < incrementalCost then
        some (round (incrementalAdjustedBenefit / incrementalCost * 100) 4)
      else none }

/-- A point of the walk with its marginal evaluation. -/
structure MarginalPoint where
  point : UpgradePoint
  marginal : MarginalEvaluation

/-- The variables of the loop. -/
structure Walk where
  previousPoint : UpgradePoint
  bestPreviousEfficiency : ℚ
  diminishingReturnsStartHotelId : Option String

/-- Whether the returns diminish from a point on, which is not the first. -/
def diminishes (options : ResolvedMarginalOptions) (walk : Walk) (point : UpgradePoint) : Bool :=
  (marginalBenefit walk.previousPoint point).any fun benefit =>
    benefit < options.minimumDiminishingReturnEfficiency ||
      (0 < walk.bestPreviousEfficiency &&
        benefit < walk.bestPreviousEfficiency * options.diminishingReturnRelativeDrop)

def walkStep (options : ResolvedMarginalOptions) (index : ℕ) (walk : Walk) (point : UpgradePoint) :
    Walk × MarginalPoint :=
  let starts :=
    0 < index && walk.diminishingReturnsStartHotelId.isNone && diminishes options walk point
  ({ previousPoint := point
     bestPreviousEfficiency := ((marginalBenefit walk.previousPoint point).map fun benefit =>
       max walk.bestPreviousEfficiency benefit).getD walk.bestPreviousEfficiency
     diminishingReturnsStartHotelId :=
       if starts then some point.hotelId else walk.diminishingReturnsStartHotelId },
    { point := if starts then
        { point with
          reasonCodes :=
            JsText.uniqueSorted (point.reasonCodes ++ ["upgrade-diminishing-returns-start"]) }
        else point
      marginal := marginalFrom walk.previousPoint point })

def walkPoints (options : ResolvedMarginalOptions) :
    ℕ → Walk → List UpgradePoint → Walk × List MarginalPoint
  | _, walk, [] => (walk, [])
  | index, walk, point :: rest =>
    let (next, marginal) := walkStep options index walk point
    let (last, marginals) := walkPoints options (index + 1) next rest
    (last, marginal :: marginals)

def isEfficient (point : UpgradePoint) : Bool :=
  isComparable point && point.efficientFrontier && point.totalCost.isSome

def compareCosts : UpgradePoint → UpgradePoint → Ordering :=
  compareLex (compareOn costOf) (compareOn fun point => JsText.utf16 point.hotelId)

def efficientPoints (points : List UpgradePoint) : List UpgradePoint :=
  sortBy compareCosts (points.filter isEfficient)

structure MarginalCurve where
  efficientPoints : List MarginalPoint
  diminishingReturnsStartHotelId : Option String

def applyMarginalEvaluations (baselinePoint : UpgradePoint) (points : List UpgradePoint)
    (options : ResolvedMarginalOptions) : MarginalCurve :=
  let (walk, marginals) := walkPoints options 0 ⟨baselinePoint, 0, none⟩ (efficientPoints points)
  ⟨marginals, walk.diminishingReturnsStartHotelId⟩

/-- The part of `evaluateSmartUpgradeCurveV2` after the points are created. The baseline is the
first of them. -/
def evaluateMarginalCurve (toUpperCase : String → String) (input : UpgradeInput)
    (options : UpgradeOptions) (marginalOptions : MarginalOptions) :
    Except String (List UpgradePoint × MarginalCurve) := do
  match ← createPoints toUpperCase input options with
  | [] => return ([], ⟨[], none⟩)  -- never taken, there is a baseline
  | baselinePoint :: rest =>
    let points := applyEfficientFrontier (baselinePoint :: rest)
    return (points, applyMarginalEvaluations baselinePoint points
      (resolveMarginalOptions marginalOptions))

/-! ## 2. The walk along points -/

/-- The marginal evaluations are those of neighbours. -/
theorem marginals_walkPoints (options : ResolvedMarginalOptions) (points : List UpgradePoint) :
    ∀ index walk, (walkPoints options index walk points).2.map (·.marginal) =
      List.zipWith marginalFrom (walk.previousPoint :: points) points := by
  induction points with
  | nil => exact fun _ _ => rfl
  | cons point rest ih =>
    intro index walk
    rw [List.zipWith_cons_cons]
    exact congrArg _ (ih _ _)

/-- The walk changes the reasons of a point only. -/
theorem map_points_walkPoints {α : Type} {f : UpgradePoint → α}
    (hf : ∀ point reasonCodes, f { point with reasonCodes } = f point)
    (options : ResolvedMarginalOptions) (points : List UpgradePoint) :
    ∀ index walk,
      ((walkPoints options index walk points).2.map (·.point)).map f = points.map f := by
  induction points with
  | nil => exact fun _ _ => rfl
  | cons point rest ih =>
    intro index walk
    have hpoint : f (walkStep options index walk point).2.point = f point := by
      unfold walkStep
      dsimp only
      split
      · exact hf ..
      · rfl
    rw [List.map_cons, ← ih (index + 1) (walkStep options index walk point).1, ← hpoint]
    rfl

/-! ## 3. Priced points -/

/-- The overage of an amount as a share of the budget. -/
def overageRatio (budget amount : ℚ) : ℚ := max (amount - budget) 0 / budget

theorem overageRatio_mono {budget amount amount' : ℚ} (hbudget : 0 < budget)
    (h : amount ≤ amount') : overageRatio budget amount ≤ overageRatio budget amount' := by
  unfold overageRatio
  gcongr

/-- The points of candidates with one budget. -/
structure PricedPoints (budget : ℚ) (points : List UpgradePoint) : Prop
    extends CurvePoints points where
  budget_pos : 0 < budget
  priced : ∀ point ∈ points, isComparable point = true → ∃ amount,
    point.totalCost = some (round amount 2) ∧
      overageOf point = round (overageRatio budget amount) 4
  benefit_nonneg : ∀ point ∈ points, isComparable point = true → 0 ≤ benefitOf point

variable {budget : ℚ} {points : List UpgradePoint} {point other : UpgradePoint}

theorem PricedPoints.exists_amount (h : PricedPoints budget points)
    (hpoint : point ∈ comparablePoints points) : ∃ amount, costOf point = round amount 2 ∧
      overageOf point = round (overageRatio budget amount) 4 := by
  obtain ⟨hmem, hcomparable⟩ := mem_comparablePoints.mp hpoint
  obtain ⟨amount, hcost, hoverage⟩ := h.priced point hmem hcomparable
  exact ⟨amount, by rw [costOf, hcost]; rfl, hoverage⟩

/-- A smaller cost has no larger overage. -/
theorem PricedPoints.overage_le (h : PricedPoints budget points)
    (hpoint : point ∈ comparablePoints points) (hother : other ∈ comparablePoints points)
    (hlt : costOf point < costOf other) : overageOf point ≤ overageOf other := by
  obtain ⟨amount, hcost, hoverage⟩ := h.exists_amount hpoint
  obtain ⟨amount', hcost', hoverage'⟩ := h.exists_amount hother
  rw [hcost, hcost'] at hlt
  have hamount : amount ≤ amount' := by
    by_contra hnot
    exact absurd (round_mono (not_le.mp hnot).le 2) (not_le.mpr hlt)
  rw [hoverage, hoverage']
  exact round_mono (overageRatio_mono h.budget_pos hamount) 4

/-- What domination compares: no larger overage, no smaller benefit, and one of the two better. -/
def Better (other point : UpgradePoint) : Prop :=
  overageOf other ≤ overageOf point ∧ benefitOf point ≤ benefitOf other ∧
    (overageOf other < overageOf point ∨ benefitOf point < benefitOf other)

theorem not_better_self (point : UpgradePoint) : ¬ Better point point :=
  fun h => h.2.2.elim (lt_irrefl _) (lt_irrefl _)

theorem CurvePoints.dominates_iff_better (h : CurvePoints points)
    (hother : other ∈ comparablePoints points) (hpoint : point ∈ comparablePoints points) :
    dominates other point = true ↔ Better other point := by
  obtain ⟨hmem, hcomparable⟩ := mem_comparablePoints.mp hother
  obtain ⟨hmem', hcomparable'⟩ := mem_comparablePoints.mp hpoint
  rw [dominates_iff hcomparable hcomparable' (h.rounded other hmem hcomparable)
    (h.rounded point hmem' hcomparable')]
  refine and_iff_right_of_imp fun hbetter hid => ?_
  obtain rfl := List.inj_on_of_nodup_map h.nodup hmem hmem' hid
  exact not_better_self other hbetter

theorem CurvePoints.strictOn_better (h : CurvePoints points) :
    StrictOn Better (comparablePoints points) where
  irrefl point _ := not_better_self point
  trans a ha b hb c hc hab hbc := by
    rw [← h.dominates_iff_better ha hb] at hab
    rw [← h.dominates_iff_better hb hc] at hbc
    exact (h.dominates_iff_better ha hc).mp (h.strictOn.trans a ha b hb c hc hab hbc)

/-- No competing point is better. -/
def Efficient (points : List UpgradePoint) (point : UpgradePoint) : Prop :=
  point ∈ comparablePoints points ∧ UndominatedIn Better (comparablePoints points) point

theorem CurvePoints.efficient_iff (h : CurvePoints points)
    (hpoint : point ∈ comparablePoints points) :
    (markPoint (comparablePoints points) point).efficientFrontier = true ↔
      Efficient points point := by
  rw [markPoint_frontier_iff, Efficient, and_iff_right hpoint]
  exact forall₂_congr fun other hother => not_congr (h.dominates_iff_better hother hpoint)

/-! ## 4. The order of the walk -/

instance : Std.TransCmp compareCosts := inferInstanceAs (Std.TransCmp (compareLex _ _))

instance : Std.TransCmp compareStrings := inferInstanceAs (Std.TransCmp (compareOn JsText.utf16))

theorem compareCosts_ne_gt : compareCosts point other ≠ .gt ↔ costOf point ≤ costOf other ∧
    (costOf point = costOf other → compareStrings point.hotelId other.hotelId ≠ .gt) := by
  unfold compareCosts
  rw [compareLex_ne_gt]
  simp only [compareOn, compareStrings, ne_eq, compare_gt_iff_gt, compare_eq_iff_eq, not_lt]

/-- Texts that neither follow nor precede each other are the same. -/
theorem eq_of_compareStrings {first second : String} (h : compareStrings first second ≠ .gt)
    (h' : compareStrings second first ≠ .gt) : first = second := by
  cases hcmp : compareStrings first second with
  | lt => exact absurd (Std.OrientedCmp.gt_of_lt hcmp) h'
  | eq => exact JsText.utf16_injective (Std.LawfulEqOrd.eq_of_compare hcmp)
  | gt => exact absurd hcmp h

/-- The points that the walk goes along, before they are marked. -/
def frontierPoints (points : List UpgradePoint) : List UpgradePoint :=
  (comparablePoints points).filter fun point =>
    (markPoint (comparablePoints points) point).efficientFrontier

theorem byCosts_frontierPoints (points : List UpgradePoint) :
    (sortBy compareCosts (frontierPoints points)).Pairwise fun point next =>
      compareCosts point next ≠ .gt :=
  pairwise_sortBy _

theorem CurvePoints.mem_frontierPoints (h : CurvePoints points) :
    point ∈ frontierPoints points ↔ Efficient points point := by
  rw [frontierPoints, List.mem_filter]
  constructor
  · exact fun ⟨hpoint, hmark⟩ => (h.efficient_iff hpoint).mp hmark
  · exact fun hefficient => ⟨hefficient.1, (h.efficient_iff hefficient.1).mpr hefficient⟩

/-- A point without dominators keeps its status. -/
theorem isComparable_markPoint
    (hmark : (markPoint (comparablePoints points) point).efficientFrontier = true) :
    isComparable (markPoint (comparablePoints points) point) = isComparable point := by
  have hnone : (comparablePoints points).filter (dominates · point) = [] :=
    List.filter_eq_nil_iff.mpr (markPoint_frontier_iff.mp hmark)
  simp only [isComparable, markPoint, hnone, List.length_nil, lt_irrefl, decide_false,
    Bool.false_and, Bool.false_eq_true, if_false]

theorem PricedPoints.efficientPoints_eq (h : PricedPoints budget points) :
    efficientPoints (applyEfficientFrontier points) =
      (sortBy compareCosts (frontierPoints points)).map (markPoint (comparablePoints points)) := by
  have hefficient : ∀ point ∈ points, isEfficient (if isComparable point then
      markPoint (comparablePoints points) point else point) =
      (isComparable point && (markPoint (comparablePoints points) point).efficientFrontier) := by
    intro point hpoint
    cases hcomparable : isComparable point with
    | false => simp [isEfficient, hcomparable]
    | true =>
      obtain ⟨amount, hcost, -⟩ := h.priced point hpoint hcomparable
      have htotal : (markPoint (comparablePoints points) point).totalCost = some (round amount 2) :=
        hcost
      rw [if_pos rfl, isEfficient, htotal, Option.isSome_some, Bool.and_true, Bool.true_and]
      cases hmark : (markPoint (comparablePoints points) point).efficientFrontier with
      | false => rw [Bool.and_false]
      | true => rw [isComparable_markPoint hmark, hcomparable, Bool.and_true]
  have hfilter : (applyEfficientFrontier points).filter isEfficient =
      (frontierPoints points).map (markPoint (comparablePoints points)) := by
    have hkept := List.filter_congr hefficient
    rw [applyEfficientFrontier, List.filter_map]
    refine (congrArg _ hkept).trans ?_
    rw [frontierPoints, comparablePoints, List.filter_filter]
    simp only [Bool.and_comm]
    refine List.map_congr_left fun point hpoint => if_pos ?_
    simp only [List.mem_filter, Bool.and_eq_true] at hpoint
    exact hpoint.2.1
  rw [efficientPoints, hfilter]
  exact sortBy_map fun _ _ _ _ => rfl

/-- A point and one after it. -/
def Ascends (point next : UpgradePoint) : Prop :=
  overageOf point ≤ overageOf next ∧ benefitOf point ≤ benefitOf next

/-- Efficient points whose costs are the same in cents do not descend when sorted by hotel. -/
def CentsInOrder (points : List UpgradePoint) : Prop :=
  ∀ point next, Efficient points point → Efficient points next → costOf point = costOf next →
    compareStrings point.hotelId next.hotelId = .lt → overageOf point ≤ overageOf next

/-- Of two efficient points, the one with no larger overage has no larger benefit. -/
theorem Efficient.ascends (hother : Efficient points other) (hpoint : Efficient points point)
    (hle : overageOf point ≤ overageOf other) : Ascends point other := by
  refine ⟨hle, not_lt.mp fun hlt => hother.2 point hpoint.1 ⟨hle, hlt.le, .inr hlt⟩⟩

theorem PricedPoints.ascending_iff (h : PricedPoints budget points) :
    (sortBy compareCosts (frontierPoints points)).Pairwise Ascends ↔ CentsInOrder points := by
  have hmem : ∀ {point}, point ∈ sortBy compareCosts (frontierPoints points) ↔
      Efficient points point := fun {_} => mem_sortBy.trans h.mem_frontierPoints
  have hsorted := byCosts_frontierPoints points
  have hsame : ∀ {point next}, Efficient points point → Efficient points next →
      point.hotelId = next.hotelId → point = next := fun hpoint hnext =>
    List.inj_on_of_nodup_map h.nodup (mem_comparablePoints.mp hpoint.1).1
      (mem_comparablePoints.mp hnext.1).1
  constructor
  · intro hascends point next hpoint hnext hcost hid
    have hne : point ≠ next := by
      rintro rfl
      have hself : compareStrings point.hotelId point.hotelId = .eq := Std.ReflCmp.compare_self
      exact nomatch hid.symm.trans hself
    -- one of the two comes first, and the ids decide which
    let Follows (a b : UpgradePoint) : Prop := compareCosts a b ≠ .gt ∧ Ascends a b
    have : Std.Symm fun a b => Follows a b ∨ Follows b a := ⟨fun _ _ => Or.symm⟩
    have hpairs : (sortBy compareCosts (frontierPoints points)).Pairwise fun a b =>
        Follows a b ∨ Follows b a := (hsorted.and hascends).imp Or.inl
    rcases hpairs.forall (hmem.mpr hpoint) (hmem.mpr hnext) hne with ⟨-, hascends⟩ | ⟨hcmp, -⟩
    · exact hascends.1
    · have hid' := (compareCosts_ne_gt.mp hcmp).2 hcost.symm
      exact absurd (hsame hpoint hnext (eq_of_compareStrings (by rw [hid]; nofun) hid')) hne
  · intro hcents
    refine hsorted.imp_of_mem fun {point next} hpoint hnext hcmp => ?_
    rw [hmem] at hpoint hnext
    obtain ⟨hle, hid⟩ := compareCosts_ne_gt.mp hcmp
    refine hnext.ascends hpoint ?_
    rcases hle.lt_or_eq with hlt | heq
    · exact h.overage_le hpoint.1 hnext.1 hlt
    · cases hcompare : compareStrings point.hotelId next.hotelId with
      | lt => exact hcents point next hpoint hnext heq hcompare
      | eq =>
        have hid := JsText.utf16_injective (Std.LawfulEqOrd.eq_of_compare hcompare)
        rw [hsame hpoint hnext hid]
      | gt => exact absurd hcompare (hid heq)

/-! ## 5. Priced candidates -/

/-- What the engine checked of a candidate with a budget. -/
structure PricedCandidate (budget : ℚ) (candidate : NormalizedCandidate) : Prop where
  priced : ∀ cost, candidate.cost = some cost →
    0 < budget ∧ cost.overageRatio = overageRatio budget cost.amount
  scoreConfidence_nonneg : 0 ≤ candidate.scoreConfidence
  evidenceCoverage_nonneg : 0 ≤ candidate.evidenceCoverage
  signal_nonneg : ∀ dimension signal, candidate.dimensions dimension = some signal →
    0 ≤ signal.confidence ∧ 0 ≤ signal.configuredWeight

theorem normalizeRatio_nonneg {value : Option ℚ} {fallback : ℚ} (h : 0 ≤ fallback) :
    0 ≤ normalizeRatio value fallback := by
  cases value with
  | none => exact h
  | some value => exact (JsNumber.clamp_mem zero_le_one).1

theorem extractCost_spec {toUpperCase : String → String} {evaluation : PriceValueEvaluation}
    {options : ResolvedOptions} {cost : ComparableCost}
    (hbudget : evaluation.budget.total = some budget)
    (h : extractCost toUpperCase evaluation options = some cost) :
    0 < budget ∧ cost.overageRatio = overageRatio budget cost.amount := by
  simp only [extractCost, hbudget, Option.bind_eq_bind, Option.bind_eq_some_iff,
    Option.some.injEq] at h
  obtain ⟨currency, -, totalCost, -, confidence, -, _, rfl, withinBudget, -, h⟩ := h
  simp only [Option.ite_none_left_eq_some, Bool.or_eq_true, decide_eq_true_eq, not_or, not_le] at h
  obtain ⟨hchecks, -, -, -, h⟩ := h
  obtain rfl := Option.some.inj h
  exact ⟨hchecks.2, rfl⟩

theorem dimensionSignal_spec {minimumDimensionConfidence : ℚ} {contribution : UtilityContribution}
    {signal : DimensionSignal} (hminimum : 0 ≤ minimumDimensionConfidence)
    (h : dimensionSignal minimumDimensionConfidence contribution = some signal) :
    0 ≤ signal.confidence ∧ 0 ≤ signal.configuredWeight := by
  simp only [dimensionSignal, Option.bind_eq_bind, Option.bind_eq_some_iff,
    Option.ite_none_left_eq_some, Bool.or_eq_true, decide_eq_true_eq, not_or, not_le, not_lt] at h
  obtain ⟨score, -, confidence, -, configuredWeight, -, hchecks, h⟩ := h
  obtain rfl := Option.some.inj h
  exact ⟨hminimum.trans hchecks.1.2, hchecks.2.le⟩

theorem pricedCandidate_of_normalize {toUpperCase : String → String} {options : UpgradeOptions}
    {candidate : Candidate} {normalized : NormalizedCandidate}
    (hbudget : candidate.priceValue.budget.total = some budget)
    (h : normalizeCandidate toUpperCase (resolveOptions options) candidate = .ok normalized) :
    PricedCandidate budget normalized := by
  unfold normalizeCandidate at h
  dsimp only at h
  split at h
  · exact nomatch h
  split at h
  · exact nomatch h
  obtain rfl := Except.ok.inj h
  refine ⟨fun cost hcost => extractCost_spec hbudget hcost, normalizeRatio_nonneg le_rfl,
    normalizeRatio_nonneg le_rfl, fun dimension signal hsignal => ?_⟩
  obtain ⟨contribution, -, hsignal⟩ := List.exists_of_findSome?_eq_some hsignal
  exact dimensionSignal_spec (normalizeRatio_nonneg (by norm_num)) hsignal

theorem weighted_nonneg {comparisons : List DimensionComparison} {value : DimensionComparison → ℚ}
    (h : ∀ comparison ∈ comparisons, 0 ≤ value comparison ∧ 0 ≤ comparison.normalizedWeight) :
    0 ≤ weighted comparisons value := by
  refine List.sum_nonneg fun x hx => ?_
  obtain ⟨comparison, hmem, rfl⟩ := List.mem_map.mp hx
  exact mul_nonneg (h comparison hmem).1 (h comparison hmem).2

theorem compareDimensions_nonneg {candidate baseline : NormalizedCandidate}
    (hcandidate : PricedCandidate budget candidate) (hbaseline : PricedCandidate budget baseline) :
    ∀ comparison ∈ compareDimensions candidate baseline,
      0 ≤ min comparison.baselineConfidence comparison.candidateConfidence ∧
        0 ≤ comparison.normalizedWeight := by
  intro comparison hcomparison
  unfold compareDimensions at hcomparison
  dsimp only at hcomparison
  generalize hlist : (dimensionCodes baseline).filterMap _ = signals at hcomparison
  obtain ⟨⟨dimension, first, second⟩, hmem, rfl⟩ := List.mem_map.mp hcomparison
  have hsignals : ∀ signal ∈ signals,
      (0 ≤ signal.2.1.confidence ∧ 0 ≤ signal.2.1.configuredWeight) ∧
        0 ≤ signal.2.2.confidence := by
    intro signal hsignal
    rw [← hlist] at hsignal
    obtain ⟨dimension, -, hsome⟩ := List.mem_filterMap.mp hsignal
    split at hsome
    next hfirst hsecond =>
      obtain rfl := Option.some.inj hsome
      exact ⟨hbaseline.signal_nonneg _ _ hfirst, (hcandidate.signal_nonneg _ _ hsecond).1⟩
    next => cases hsome
  obtain ⟨⟨hconfidence, hweight⟩, hconfidence'⟩ := hsignals _ hmem
  refine ⟨le_min (round_nonneg hconfidence 4) (round_nonneg hconfidence' 4),
    round_nonneg (div_nonneg hweight (List.sum_nonneg fun x hx => ?_)) 6⟩
  obtain ⟨signal, hsignal, rfl⟩ := List.mem_map.mp hx
  exact (hsignals signal hsignal).1.2

theorem benefitOf_createComparedPoint_nonneg {candidate baseline : NormalizedCandidate}
    (hcandidate : PricedCandidate budget candidate) (hbaseline : PricedCandidate budget baseline)
    (cost : ComparableCost) (options : ResolvedOptions) :
    0 ≤ benefitOf (createComparedPoint candidate baseline cost options) := by
  refine round_nonneg (mul_nonneg (le_max_right _ _) ?_) 4
  exact le_min (le_min (le_min (le_min hbaseline.scoreConfidence_nonneg
    hbaseline.evidenceCoverage_nonneg) hcandidate.scoreConfidence_nonneg)
    hcandidate.evidenceCoverage_nonneg)
    (weighted_nonneg (compareDimensions_nonneg hcandidate hbaseline))

/-- Where the walk starts. -/
structure StartsAt (baselinePoint : UpgradePoint) : Prop where
  overage : overageOf baselinePoint = 0
  benefit : benefitOf baselinePoint = 0
  cost : ∃ amount, costOf baselinePoint = round amount 2

theorem pricedPoints_of_createPoints {toUpperCase : String → String} {input : UpgradeInput}
    {options : UpgradeOptions} (h : createPoints toUpperCase input options = .ok points)
    (hbudget : ∀ candidate ∈ input.candidates, candidate.priceValue.budget.total = some budget) :
    PricedPoints budget points ∧ ∃ baselinePoint rest, points = baselinePoint :: rest ∧
      StartsAt baselinePoint := by
  have hcurve := curvePoints_of_createPoints h
  unfold createPoints at h
  simp only [Fallible.throwIf_bind_ok, Fallible.bind_ok] at h
  obtain ⟨-, candidates, hcandidates, -, h⟩ := h
  have hpriced : ∀ candidate ∈ sortBy (fun first second =>
      compareStrings first.hotelId second.hotelId) candidates,
      PricedCandidate budget candidate := by
    intro candidate hcandidate
    obtain ⟨source, hsource, hnormalize⟩ :=
      Fallible.mapM_ok hcandidates candidate (mem_sortBy.mp hcandidate)
    exact pricedCandidate_of_normalize (hbudget source hsource) hnormalize
  split at h
  next baseline hfind =>
    have hbaseline := hpriced baseline (List.mem_of_find?_eq_some hfind)
    obtain ⟨-, h⟩ := Fallible.throwIf_bind_ok.mp h
    split at h
    next baselineCost hcost =>
      obtain rfl := Except.ok.inj h
      refine ⟨⟨hcurve, (hbaseline.priced _ (Option.filter_eq_some_iff.mp hcost).1).1, ?_, ?_⟩,
        _, _, rfl, rfl, rfl, baselineCost.amount, rfl⟩
      all_goals
        intro point hpoint hcomparable
        rcases List.mem_cons.mp hpoint with rfl | hpoint
        · exact nomatch hcomparable
        obtain ⟨c, hc, rfl⟩ := List.mem_map.mp hpoint
        have hc := hpriced c (List.mem_filter.mp hc).1
        rcases createUpgradePoint_cases baseline baselineCost (resolveOptions options) c with
          ⟨cost, hcost, h⟩ | ⟨h, h', -⟩
        · rw [h]
          first
            | exact ⟨cost.amount, rfl, congrArg (round · 4) (hc.priced cost hcost).2⟩
            | exact benefitOf_createComparedPoint_nonneg hc hbaseline cost _
        · rw [not_comparable_of_status h h'] at hcomparable
          exact nomatch hcomparable
    next => exact nomatch h
  next => exact nomatch h

/-! ## 6. The law of the frontier -/

/-- The ratios of an evaluation are those of its increments, and no divisor is zero. -/
structure DividesIncrements (marginal : MarginalEvaluation) : Prop where
  perBudgetPercent : marginal.marginalBenefitPerBudgetPercent =
    if 0 < marginal.incrementalBudgetOverageRatio then
      some (round (marginal.incrementalAdjustedBenefit /
        (marginal.incrementalBudgetOverageRatio * 100)) 4)
    else none
  per100Currency : marginal.marginalBenefitPer100Currency =
    if 0 < marginal.incrementalCost then
      some (round (marginal.incrementalAdjustedBenefit / marginal.incrementalCost * 100) 4)
    else none

/-- The frontier is exact, and the walk along it ascends. -/
structure FrontierLaw (created points : List UpgradePoint) (curve : MarginalCurve) : Prop where
  marked : List.Forall₂ (fun point marked => marked.hotelId = point.hotelId ∧
    (isComparable point = true → (marked.efficientFrontier = true ↔
      ∀ other ∈ created, isComparable other = true → other.hotelId ≠ point.hotelId →
        ¬ Better other point))) created points
  strict : StrictOn Better (comparablePoints created)
  nonempty : (∃ point ∈ created, isComparable point = true) → curve.efficientPoints ≠ []
  walked : ∀ hotelId, hotelId ∈ curve.efficientPoints.map (·.point.hotelId) ↔
    ∃ point, Efficient created point ∧ point.hotelId = hotelId
  byCost : (curve.efficientPoints.map (·.point)).Pairwise fun point next =>
    costOf point ≤ costOf next
  ascends : (curve.efficientPoints.map (·.point)).Pairwise Ascends
  benefits : ∀ marginalPoint ∈ curve.efficientPoints,
    0 ≤ marginalPoint.marginal.incrementalAdjustedBenefit
  ratios : ∀ marginalPoint ∈ curve.efficientPoints, DividesIncrements marginalPoint.marginal

/-- A difference of decimals is not changed by rounding. -/
theorem round_sub_decimal {x y : ℚ} {digits : ℕ} (hdigits : digits ≤ 15)
    (hx : ∃ m : ℤ, x = m / 10 ^ digits) (hy : ∃ n : ℤ, y = n / 10 ^ digits) :
    round (x - y) digits = x - y := by
  obtain ⟨m, rfl⟩ := hx
  obtain ⟨n, rfl⟩ := hy
  rw [← sub_div, ← Int.cast_sub]
  exact round_of_decimal hdigits

theorem Rounded.decimal {x : ℚ} (h : Rounded x) : ∃ n : ℤ, x = n / 10 ^ 4 := by
  obtain ⟨n, rfl⟩ := h
  exact ⟨n, by norm_num⟩

/-- What a marginal evaluation needs of a point. -/
structure DecimalPoint (point : UpgradePoint) : Prop where
  overage : Rounded (overageOf point)
  benefit : Rounded (benefitOf point)
  cost : ∃ amount, costOf point = round amount 2

theorem dividesIncrements_marginalFrom (hprevious : DecimalPoint other)
    (hpoint : DecimalPoint point) : DividesIncrements (marginalFrom other point) := by
  have hoverage : round (overageOf point - overageOf other) 4 = overageOf point - overageOf other :=
    round_sub_decimal (by norm_num) hpoint.overage.decimal hprevious.overage.decimal
  have hbenefit : round (benefitOf point - benefitOf other) 4 = benefitOf point - benefitOf other :=
    round_sub_decimal (by norm_num) hpoint.benefit.decimal hprevious.benefit.decimal
  have hcost : round (costOf point - costOf other) 2 = costOf point - costOf other := by
    obtain ⟨amount, hamount⟩ := hpoint.cost
    obtain ⟨amount', hamount'⟩ := hprevious.cost
    rw [hamount, hamount']
    exact round_sub_decimal (by norm_num) ⟨_, rfl⟩ ⟨_, rfl⟩
  constructor
  · simp only [marginalFrom, marginalBenefit, hoverage, hbenefit]
    split <;> rfl
  · simp only [marginalFrom, hcost, hbenefit]

theorem marginalFrom_nonneg (h : benefitOf other ≤ benefitOf point) :
    0 ≤ (marginalFrom other point).incrementalAdjustedBenefit :=
  round_nonneg (sub_nonneg.mpr h) 4

/-- What holds of every element and its neighbour holds of the marginal evaluations. -/
theorem forall_zipWith_neighbours {α β : Type} {f : α → α → β} {r : α → α → Prop} {p : β → Prop}
    (hp : ∀ a b, r a b → p (f a b)) {a : α} {l : List α} (h : (a :: l).IsChain r) :
    ∀ y ∈ List.zipWith f (a :: l) l, p y := by
  induction l generalizing a with
  | nil => exact fun _ h => nomatch h
  | cons b l ih =>
    rw [List.zipWith_cons_cons, List.forall_mem_cons]
    obtain ⟨hab, hchain⟩ := List.isChain_cons_cons.mp h
    exact ⟨hp a b hab, ih hchain⟩

/-- What the law says of a point, besides its ratios. -/
def measuresOf (point : UpgradePoint) : String × ℚ × ℚ × ℚ :=
  (point.hotelId, costOf point, overageOf point, benefitOf point)

/-- The walked points have the measures of the frontier, in the order of their costs. -/
theorem PricedPoints.measures_walked (h : PricedPoints budget points) (baselinePoint : UpgradePoint)
    (options : ResolvedMarginalOptions) :
    ((applyMarginalEvaluations baselinePoint (applyEfficientFrontier points)
      options).efficientPoints.map (·.point)).map measuresOf =
      (sortBy compareCosts (frontierPoints points)).map measuresOf := by
  have hwalk := map_points_walkPoints (f := measuresOf) (fun _ _ => rfl) options
    (efficientPoints (applyEfficientFrontier points)) 0 ⟨baselinePoint, 0, none⟩
  refine hwalk.trans ?_
  rw [h.efficientPoints_eq, List.map_map]
  rfl

theorem pairwise_iff_of_measures {l l' : List UpgradePoint} {r : UpgradePoint → UpgradePoint → Prop}
    {s : String × ℚ × ℚ × ℚ → String × ℚ × ℚ × ℚ → Prop}
    (hr : ∀ a b, r a b ↔ s (measuresOf a) (measuresOf b))
    (h : l.map measuresOf = l'.map measuresOf) : l.Pairwise r ↔ l'.Pairwise r := by
  have hmap : ∀ l : List UpgradePoint, l.Pairwise r ↔ (l.map measuresOf).Pairwise s := fun l => by
    rw [List.pairwise_map]
    exact ⟨.imp fun {_ _} => (hr _ _).mp, .imp fun {_ _} => (hr _ _).mpr⟩
  rw [hmap l, hmap l', h]

theorem PricedPoints.decimal_of_comparable (h : PricedPoints budget points)
    (hpoint : point ∈ comparablePoints points) : DecimalPoint point := by
  obtain ⟨hmem, hcomparable⟩ := mem_comparablePoints.mp hpoint
  obtain ⟨amount, hcost, -⟩ := h.exists_amount hpoint
  exact ⟨(h.rounded point hmem hcomparable).1, (h.rounded point hmem hcomparable).2, amount, hcost⟩

theorem StartsAt.decimal {baselinePoint : UpgradePoint} (h : StartsAt baselinePoint) :
    DecimalPoint baselinePoint :=
  ⟨⟨0, by rw [h.overage]; norm_num⟩, ⟨0, by rw [h.benefit]; norm_num⟩, h.cost⟩

/-- Every marginal evaluation compares a point with one before it, or with the baseline. -/
theorem PricedPoints.forall_marginals (h : PricedPoints budget points)
    {baselinePoint : UpgradePoint} (options : ResolvedMarginalOptions)
    {r : UpgradePoint → UpgradePoint → Prop}
    {p : MarginalEvaluation → Prop} (hp : ∀ a b, r a b → p (marginalFrom a b))
    (hmark : ∀ a b, r a b → r (markPoint (comparablePoints points) a)
      (markPoint (comparablePoints points) b))
    (hfirst : ∀ point, Efficient points point →
      r baselinePoint (markPoint (comparablePoints points) point))
    (hrest : (sortBy compareCosts (frontierPoints points)).Pairwise r) :
    ∀ marginalPoint ∈ (applyMarginalEvaluations baselinePoint (applyEfficientFrontier points)
      options).efficientPoints, p marginalPoint.marginal := by
  have hmarginals := marginals_walkPoints options
    (efficientPoints (applyEfficientFrontier points)) 0 ⟨baselinePoint, 0, none⟩
  rw [h.efficientPoints_eq] at hmarginals
  have hchain : (baselinePoint :: (sortBy compareCosts (frontierPoints points)).map
      (markPoint (comparablePoints points))).Pairwise r := by
    rw [List.pairwise_cons, List.pairwise_map]
    refine ⟨fun marked hmarked => ?_, hrest.imp fun {_ _} => hmark _ _⟩
    obtain ⟨point, hpoint, rfl⟩ := List.mem_map.mp hmarked
    exact hfirst point (h.mem_frontierPoints.mp (mem_sortBy.mp hpoint))
  have hall := forall_zipWith_neighbours hp hchain.isChain
  rw [← hmarginals, ← h.efficientPoints_eq] at hall
  exact fun marginalPoint hmem => hall _ (List.mem_map_of_mem hmem)

/-- The law holds exactly if efficient points whose costs are the same in cents have their overages
in the order of their hotels. -/
theorem frontier_law_iff {toUpperCase : String → String} {input : UpgradeInput}
    {options : UpgradeOptions} {marginalOptions : MarginalOptions} {budget : ℚ}
    {points : List UpgradePoint} {curve : MarginalCurve}
    (hbudget : ∀ candidate ∈ input.candidates, candidate.priceValue.budget.total = some budget)
    (h : evaluateMarginalCurve toUpperCase input options marginalOptions = .ok (points, curve)) :
    ∃ created, createPoints toUpperCase input options = .ok created ∧
      (FrontierLaw created points curve ↔ CentsInOrder created) := by
  obtain ⟨created, hcreated, h⟩ := Fallible.bind_ok.mp h
  refine ⟨created, hcreated, ?_⟩
  obtain ⟨hpriced, baselinePoint, rest, hcons, hstart⟩ :=
    pricedPoints_of_createPoints hcreated hbudget
  have hresult : points = applyEfficientFrontier created ∧
      curve = applyMarginalEvaluations baselinePoint (applyEfficientFrontier created)
        (resolveMarginalOptions marginalOptions) := by
    rw [hcons] at h ⊢
    obtain ⟨rfl, rfl⟩ := Prod.mk.inj (Except.ok.inj h)
    exact ⟨rfl, rfl⟩
  obtain ⟨rfl, rfl⟩ := hresult
  have hmeasures := hpriced.measures_walked baselinePoint (resolveMarginalOptions marginalOptions)
  have hascends := pairwise_iff_of_measures (r := Ascends)
    (s := fun first second => first.2.2.1 ≤ second.2.2.1 ∧ first.2.2.2 ≤ second.2.2.2)
    (fun _ _ => Iff.rfl) hmeasures
  constructor
  · exact fun hlaw => hpriced.ascending_iff.mp (hascends.mp hlaw.ascends)
  intro hcents
  have hsorted := hpriced.ascending_iff.mpr hcents
  refine
    { marked := ?_
      strict := hpriced.strictOn_better
      nonempty := ?_
      walked := fun hotelId => ?_
      byCost := ?_
      ascends := hascends.mpr hsorted
      benefits := ?_
      ratios := ?_ }
  · rw [applyEfficientFrontier, List.forall₂_map_right_iff, List.forall₂_same]
    intro point hpoint
    cases hcomparable : isComparable point with
    | false => exact ⟨rfl, nofun⟩
    | true =>
      rw [if_pos rfl]
      have hmem := mem_comparablePoints.mpr ⟨hpoint, hcomparable⟩
      refine ⟨rfl, fun _ => (hpriced.efficient_iff hmem).trans ?_⟩
      constructor
      · exact fun hefficient other hother hcompetes _ =>
          hefficient.2 other (mem_comparablePoints.mpr ⟨hother, hcompetes⟩)
      · refine fun hbest => ⟨hmem, fun other hother hbetter => ?_⟩
        obtain ⟨hmem, hcompetes⟩ := mem_comparablePoints.mp hother
        refine hbest other hmem hcompetes (fun hid => ?_) hbetter
        obtain rfl := List.inj_on_of_nodup_map hpriced.nodup hmem hpoint hid
        exact not_better_self other hbetter
  · rintro ⟨point, hpoint, hcomparable⟩ hnil
    have hmem := mem_comparablePoints.mpr ⟨hpoint, hcomparable⟩
    obtain ⟨top, htop⟩ : ∃ top, Efficient created top := by
      rcases hpriced.strictOn_better.exists_undominated hmem with hbest | ⟨top, htop, hbest, -⟩
      · exact ⟨point, hmem, hbest⟩
      · exact ⟨top, htop, hbest⟩
    rw [hnil, List.map_nil, List.map_nil, eq_comm, List.map_eq_nil_iff] at hmeasures
    exact List.not_mem_nil (hmeasures ▸ mem_sortBy.mpr (hpriced.mem_frontierPoints.mpr htop))
  · have hids := congrArg (List.map Prod.fst) hmeasures
    rw [List.map_map, List.map_map, List.map_map] at hids
    have hmem : hotelId ∈ _ ↔ hotelId ∈ _ := iff_of_eq (congrArg (hotelId ∈ ·) hids)
    refine hmem.trans (List.mem_map.trans (exists_congr fun point => and_congr_left fun _ => ?_))
    exact mem_sortBy.trans hpriced.mem_frontierPoints
  · refine (pairwise_iff_of_measures (r := fun point next => costOf point ≤ costOf next)
      (s := fun first second => first.2.1 ≤ second.2.1) (fun _ _ => Iff.rfl) hmeasures).mpr ?_
    exact (byCosts_frontierPoints created).imp fun {_ _} hcmp => (compareCosts_ne_gt.mp hcmp).1
  · refine hpriced.forall_marginals _ (r := fun point next => benefitOf point ≤ benefitOf next)
      (p := fun marginal => 0 ≤ marginal.incrementalAdjustedBenefit)
      (fun _ _ hle => marginalFrom_nonneg hle) (fun _ _ hle => hle) (fun point hefficient => ?_)
      (hsorted.imp fun {_ _} hascends => hascends.2)
    obtain ⟨hmem, hcomparable⟩ := mem_comparablePoints.mp hefficient.1
    rw [hstart.benefit]
    exact hpriced.benefit_nonneg point hmem hcomparable
  · refine hpriced.forall_marginals _
      (r := fun point next => DecimalPoint point ∧ DecimalPoint next)
      (fun _ _ hdecimal => dividesIncrements_marginalFrom hdecimal.1 hdecimal.2)
      (fun _ _ hdecimal => ⟨⟨hdecimal.1.1, hdecimal.1.2, hdecimal.1.3⟩,
        ⟨hdecimal.2.1, hdecimal.2.2, hdecimal.2.3⟩⟩) (fun point hefficient => ?_) ?_
    · have hdecimal := hpriced.decimal_of_comparable hefficient.1
      exact ⟨hstart.decimal, ⟨hdecimal.1, hdecimal.2, hdecimal.3⟩⟩
    · refine List.pairwise_of_forall_mem_list fun point hpoint next hnext => ?_
      rw [mem_sortBy, hpriced.mem_frontierPoints] at hpoint hnext
      exact ⟨hpriced.decimal_of_comparable hpoint.1, hpriced.decimal_of_comparable hnext.1⟩

/-- A sample candidate for a budget of 50. -/
def fiftyCandidate (hotelId : String) (totalCost gain : ℚ) : Candidate :=
  let candidate := sampleCandidate hotelId 1 totalCost gain
  { candidate with
    priceValue :=
      { candidate.priceValue with budget := ⟨true, some 50, some (totalCost ≤ 50), none, none⟩ } }

/-- Two upgrades that cost 55.00 in cents: the better one has the larger overage and comes first. -/
def sameCentsInput : UpgradeInput where
  baselineHotelId := "base"
  candidates :=
    [fiftyCandidate "base" 50 0, fiftyCandidate "a" (550025 / 10000) 8,
      fiftyCandidate "b" (550024 / 10000) 6]

theorem frontier_law_sample : ∃ created points curve,
    evaluateMarginalCurve id sameCentsInput {} {} = .ok (points, curve) ∧
    createPoints id sameCentsInput {} = .ok created ∧
    (FrontierLaw created points curve ↔ CentsInOrder created) ∧
    curve.efficientPoints.map (·.point.hotelId) = ["a", "b"] := by
  obtain ⟨⟨points, curve⟩, hcurve, hids⟩ := Fallible.exists_ok
    (x := evaluateMarginalCurve id sameCentsInput {} {})
    (p := fun result => decide (result.2.efficientPoints.map (·.point.hotelId) = ["a", "b"]))
    (by decide +kernel)
  have hbudget : ∀ candidate ∈ sameCentsInput.candidates,
      candidate.priceValue.budget.total = some 50 := by decide +kernel
  obtain ⟨created, hcreated, hlaw⟩ := frontier_law_iff hbudget hcurve
  exact ⟨created, points, curve, hcurve, hcreated, hlaw, of_decide_eq_true hids⟩

/-- The walk goes from the better upgrade to the cheaper one and reports a negative benefit. -/
theorem sameCents_descend :
    (∀ candidate ∈ sameCentsInput.candidates, candidate.priceValue.budget.total = some 50) ∧
    ∃ points curve, evaluateMarginalCurve id sameCentsInput {} {} = .ok (points, curve) ∧
      ∃ marginalPoint ∈ curve.efficientPoints,
        marginalPoint.marginal.incrementalAdjustedBenefit < 0 := by
  refine ⟨by decide +kernel, ?_⟩
  obtain ⟨⟨points, curve⟩, hcurve, hbenefit⟩ := Fallible.exists_ok
    (x := evaluateMarginalCurve id sameCentsInput {} {})
    (p := fun result => decide (∃ marginalPoint ∈ result.2.efficientPoints,
      marginalPoint.marginal.incrementalAdjustedBenefit < 0))
    (by decide +kernel)
  exact ⟨points, curve, hcurve, of_decide_eq_true hbenefit⟩

end SmartStay.Upgrade
