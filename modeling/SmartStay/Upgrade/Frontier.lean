import SmartStay.Lib.Dominance
import SmartStay.Upgrade.Curve

/-!
# The frontier of the upgrade curve

Worthwhile and weak points compete on one frontier, for a small overage and a large benefit. What
makes a point worthwhile instead of weak is not measured there, so a weak point can take a worthwhile
one off the curve.

1. `Rounded`, `dominates_iff`: on rounded numbers the tolerance plays no part.
2. `CurvePoints`, `CurvePoints.strictOn`: domination is a strict order.
3. `exists_worthwhile_iff`, `exists_frontier_dominator`.
4. `frontier_keeps_worthwhile`, `weak_point_removes_all`.
-/

namespace SmartStay.Upgrade

open Contract (round)
open Dominance JsSort

/-! ## 1. Rounded numbers -/

/-- A number with four decimals. -/
def Rounded (x : ℚ) : Prop := ∃ n : ℤ, x = n / 10000

theorem rounded_round (x : ℚ) : Rounded (round x 4) :=
  ⟨JsNumber.round ((x + 1 / 2 ^ 52) * 10 ^ 4), by rw [Contract.round]; norm_num⟩

theorem rounded_le_add {x y : ℚ} (hx : Rounded x) (hy : Rounded y) :
    x ≤ y + frontierTolerance ↔ x ≤ y := by
  obtain ⟨m, rfl⟩ := hx
  obtain ⟨n, rfl⟩ := hy
  constructor
  · intro h
    by_contra hlt
    have hlt' : (n : ℚ) < m := by
      rw [not_le] at hlt
      linarith
    have hstep : (n : ℚ) + 1 ≤ m := by exact_mod_cast Int.add_one_le_of_lt (by exact_mod_cast hlt')
    rw [frontierTolerance] at h
    linarith
  · intro h
    rw [frontierTolerance]
    linarith

theorem rounded_lt_sub {x y : ℚ} (hx : Rounded x) (hy : Rounded y) :
    x < y - frontierTolerance ↔ x < y := by
  have h := not_congr (rounded_le_add hy hx)
  rw [not_le, not_le] at h
  rw [← h, lt_sub_iff_add_lt]

def overageOf (point : UpgradePoint) : ℚ := point.budgetOverageRatio.getD 0

def benefitOf (point : UpgradePoint) : ℚ := point.adjustedBenefit.getD 0

/-- A point with rounded measures. -/
def RoundedPoint (point : UpgradePoint) : Prop := Rounded (overageOf point) ∧ Rounded (benefitOf point)

theorem comparable_measures {point : UpgradePoint} (h : isComparable point = true) :
    point.budgetOverageRatio = some (overageOf point) ∧
      point.adjustedBenefit = some (benefitOf point) := by
  simp only [isComparable, Bool.and_eq_true] at h
  obtain ⟨x, hx⟩ := Option.isSome_iff_exists.mp h.1.2
  obtain ⟨y, hy⟩ := Option.isSome_iff_exists.mp h.2
  simp [overageOf, benefitOf, hx, hy]

/-- The dominating point costs no more, brings no less, and one of the two is better. -/
theorem dominates_iff {other point : UpgradePoint} (hother : isComparable other = true)
    (hpoint : isComparable point = true) (hrounded : RoundedPoint other)
    (hrounded' : RoundedPoint point) :
    dominates other point = true ↔ other.hotelId ≠ point.hotelId ∧
      overageOf other ≤ overageOf point ∧ benefitOf point ≤ benefitOf other ∧
      (overageOf other < overageOf point ∨ benefitOf point < benefitOf other) := by
  obtain ⟨hoverage, hbenefit⟩ := comparable_measures hother
  obtain ⟨hoverage', hbenefit'⟩ := comparable_measures hpoint
  rw [dominates, hoverage, hbenefit, hoverage', hbenefit']
  simp only [Bool.and_eq_true, Bool.or_eq_true, decide_eq_true_eq, and_assoc,
    rounded_le_add hrounded.1 hrounded'.1, rounded_lt_sub hrounded.1 hrounded'.1,
    sub_le_iff_le_add, ← lt_sub_iff_add_lt, rounded_le_add hrounded'.2 hrounded.2,
    rounded_lt_sub hrounded'.2 hrounded.2]

/-! ## 2. The order -/

/-- The points of a curve before the frontier is applied. -/
structure CurvePoints (points : List UpgradePoint) : Prop where
  nodup : (points.map (·.hotelId)).Nodup
  rounded : ∀ point ∈ points, isComparable point = true → RoundedPoint point
  comparable : ∀ point ∈ points, point.status = .worthwhile → isComparable point = true
  unmarked : ∀ point ∈ points, isComparable point = false → isWorthwhile point = false

variable {points : List UpgradePoint}

/-- The points that compete. -/
def comparablePoints (points : List UpgradePoint) : List UpgradePoint := points.filter isComparable

theorem mem_comparablePoints {point : UpgradePoint} :
    point ∈ comparablePoints points ↔ point ∈ points ∧ isComparable point = true := List.mem_filter

theorem CurvePoints.strictOn (h : CurvePoints points) :
    StrictOn (fun other point => dominates other point = true) (comparablePoints points) where
  irrefl a ha hself := by
    obtain ⟨ha, hcomparable⟩ := mem_comparablePoints.mp ha
    have hrounded := h.rounded a ha hcomparable
    exact ((dominates_iff hcomparable hcomparable hrounded hrounded).mp hself).1 rfl
  trans a ha b hb c hc hab hbc := by
    obtain ⟨ha, hca⟩ := mem_comparablePoints.mp ha
    obtain ⟨hb, hcb⟩ := mem_comparablePoints.mp hb
    obtain ⟨hc, hcc⟩ := mem_comparablePoints.mp hc
    have hra := h.rounded a ha hca
    have hrb := h.rounded b hb hcb
    have hrc := h.rounded c hc hcc
    obtain ⟨-, hcost, hbenefit, hstrict⟩ := (dominates_iff hca hcb hra hrb).mp hab
    obtain ⟨-, hcost', hbenefit', hstrict'⟩ := (dominates_iff hcb hcc hrb hrc).mp hbc
    refine (dominates_iff hca hcc hra hrc).mpr
      ⟨fun hid => ?_, hcost.trans hcost', hbenefit'.trans hbenefit, ?_⟩
    · obtain rfl := List.inj_on_of_nodup_map h.nodup ha hc hid
      rcases hstrict with hlt | hlt
      · exact (hlt.trans_le hcost').false
      · exact (hlt.trans_le hbenefit').false
    · rcases hstrict with hlt | hlt
      · exact .inl (hlt.trans_le hcost')
      · exact .inr (hbenefit'.trans_lt hlt)

/-! ## 3. What the frontier keeps -/

/-- No competing point dominates this one. -/
def OnFrontier (points : List UpgradePoint) (point : UpgradePoint) : Prop :=
  UndominatedIn (fun other point => dominates other point = true) (comparablePoints points) point

theorem markPoint_frontier_iff {point : UpgradePoint} :
    (markPoint (comparablePoints points) point).efficientFrontier = true ↔ OnFrontier points point := by
  simp [markPoint, OnFrontier, UndominatedIn, List.filter_eq_nil_iff]

theorem markPoint_worthwhile_iff {point : UpgradePoint} :
    isWorthwhile (markPoint (comparablePoints points) point) = true ↔
      point.status = .worthwhile ∧ OnFrontier points point := by
  rw [isWorthwhile, Bool.and_eq_true, markPoint_frontier_iff, decide_eq_true_eq]
  refine and_congr_left fun hfrontier => ?_
  have hnone : (comparablePoints points).filter (dominates · point) = [] :=
    List.filter_eq_nil_iff.mpr hfrontier
  simp [markPoint, hnone]

/-- The points that stay worthwhile. -/
theorem CurvePoints.mem_worthwhile (h : CurvePoints points) {hotelId : String} :
    (∃ point ∈ applyEfficientFrontier points, isWorthwhile point = true ∧ point.hotelId = hotelId) ↔
      ∃ point ∈ points, point.hotelId = hotelId ∧ point.status = .worthwhile ∧
        OnFrontier points point := by
  constructor
  · rintro ⟨_, hmem, hworthwhile, hid⟩
    obtain ⟨point, hpoint, rfl⟩ := List.mem_map.mp hmem
    cases hcomparable : isComparable point with
    | true =>
      rw [hcomparable, if_pos rfl] at hworthwhile hid
      exact ⟨point, hpoint, hid, markPoint_worthwhile_iff.mp hworthwhile⟩
    | false =>
      rw [hcomparable, if_neg nofun, h.unmarked point hpoint hcomparable] at hworthwhile
      exact nomatch hworthwhile
  · rintro ⟨point, hpoint, hid, hworthwhile, hfrontier⟩
    refine ⟨markPoint (comparablePoints points) point, List.mem_map.mpr ⟨point, hpoint, ?_⟩,
      markPoint_worthwhile_iff.mpr ⟨hworthwhile, hfrontier⟩, hid⟩
    rw [h.comparable point hpoint hworthwhile, if_pos rfl]
    rfl

/-- A dominated point is dominated by one on the frontier. -/
theorem CurvePoints.exists_frontier_dominator (h : CurvePoints points) {point : UpgradePoint}
    (hpoint : point ∈ comparablePoints points) (hnot : ¬ OnFrontier points point) :
    ∃ other ∈ comparablePoints points, OnFrontier points other ∧ dominates other point = true :=
  (h.strictOn.exists_undominated hpoint).resolve_left hnot

/-- A worthwhile point stays exactly if one of them is dominated by no weak point. -/
theorem CurvePoints.exists_worthwhile_iff (h : CurvePoints points) :
    (∃ point ∈ points, point.status = .worthwhile ∧ OnFrontier points point) ↔
      ∃ point ∈ points, point.status = .worthwhile ∧
        ∀ other ∈ points, isComparable other = true → other.status = .weak →
          dominates other point = false := by
  constructor
  · rintro ⟨point, hpoint, hworthwhile, hfrontier⟩
    refine ⟨point, hpoint, hworthwhile, fun other hother hcomparable _ => ?_⟩
    exact Bool.eq_false_iff.mpr (hfrontier other (mem_comparablePoints.mpr ⟨hother, hcomparable⟩))
  · rintro ⟨point, hpoint, hworthwhile, hnoweak⟩
    have hmem := mem_comparablePoints.mpr ⟨hpoint, h.comparable point hpoint hworthwhile⟩
    rcases h.strictOn.exists_undominated hmem with hfrontier | ⟨top, htop, hfrontier, hdominates⟩
    · exact ⟨point, hpoint, hworthwhile, hfrontier⟩
    · -- what dominates the point is not weak
      obtain ⟨htopmem, hcomparable⟩ := mem_comparablePoints.mp htop
      refine ⟨top, htopmem, ?_, hfrontier⟩
      by_contra hstatus
      have hweak : top.status = .weak := by
        simp only [isComparable, Bool.and_eq_true, Bool.or_eq_true, decide_eq_true_eq] at hcomparable
        exact hcomparable.1.1.1.resolve_left hstatus
      rw [hnoweak top htopmem hcomparable hweak] at hdominates
      exact nomatch hdominates

/-! ## 4. Curves -/

/-- A point that competes has been compared with the baseline. -/
theorem createUpgradePoint_cases (baseline : NormalizedCandidate) (baselineCost : ComparableCost)
    (options : ResolvedOptions) (candidate : NormalizedCandidate) :
    (∃ cost, candidate.cost = some cost ∧ createUpgradePoint baseline baselineCost options candidate =
      createComparedPoint candidate baseline cost options) ∨
    ((createUpgradePoint baseline baselineCost options candidate).status ≠ .worthwhile ∧
      (createUpgradePoint baseline baselineCost options candidate).status ≠ .weak ∧
      (createUpgradePoint baseline baselineCost options candidate).hotelId = candidate.hotelId) := by
  unfold createUpgradePoint
  split
  · exact .inr ⟨nofun, nofun, rfl⟩
  split
  · exact .inr ⟨nofun, nofun, rfl⟩
  next cost hcost =>
    dsimp only
    split
    · exact .inr ⟨nofun, nofun, rfl⟩
    split
    · exact .inr ⟨nofun, nofun, rfl⟩
    split
    · exact .inr ⟨nofun, nofun, rfl⟩
    split
    · exact .inr ⟨nofun, nofun, rfl⟩
    split
    · exact .inr ⟨nofun, nofun, rfl⟩
    split
    · exact .inr ⟨nofun, nofun, rfl⟩
    · exact .inl ⟨cost, hcost, rfl⟩

theorem hotelId_createUpgradePoint (baseline : NormalizedCandidate) (baselineCost : ComparableCost)
    (options : ResolvedOptions) (candidate : NormalizedCandidate) :
    (createUpgradePoint baseline baselineCost options candidate).hotelId = candidate.hotelId := by
  rcases createUpgradePoint_cases baseline baselineCost options candidate with ⟨cost, -, h⟩ | h
  · rw [h]
    rfl
  · exact h.2.2

theorem not_comparable_of_status {point : UpgradePoint} (h : point.status ≠ .worthwhile)
    (h' : point.status ≠ .weak) : isComparable point = false := by
  simp [isComparable, h, h']

/-- A compared point has rounded measures, is not marked yet, and competes when it is worthwhile. -/
theorem createComparedPoint_spec (candidate baseline : NormalizedCandidate) (cost : ComparableCost)
    (options : ResolvedOptions) :
    RoundedPoint (createComparedPoint candidate baseline cost options) ∧
      (createComparedPoint candidate baseline cost options).efficientFrontier = false ∧
      ((createComparedPoint candidate baseline cost options).status = .worthwhile →
        isComparable (createComparedPoint candidate baseline cost options) = true) := by
  refine ⟨⟨rounded_round _, rounded_round _⟩, rfl, fun hstatus => ?_⟩
  have hpareto : candidate.source.paretoStatus = .frontier := by
    by_contra hpareto
    simp only [createComparedPoint, hpareto, decide_false, Bool.and_false, Bool.false_eq_true,
      if_false] at hstatus
    split at hstatus <;> exact nomatch hstatus
  rw [isComparable, hstatus]
  exact Bool.and_eq_true_iff.mpr ⟨Bool.and_eq_true_iff.mpr ⟨decide_eq_true hpareto, rfl⟩, rfl⟩

/-- The points of candidates with different ids are points of a curve. -/
theorem curvePoints_of_candidates {candidates : List NormalizedCandidate}
    (hids : (candidates.map (·.hotelId)).Nodup) {baseline : NormalizedCandidate}
    (baselineCost : ComparableCost) (options : ResolvedOptions) :
    CurvePoints (createBaselinePoint baseline baselineCost ::
      (candidates.filter fun c => c.hotelId ≠ baseline.hotelId).map
        (createUpgradePoint baseline baselineCost options)) where
  nodup := by
    have hself : ((candidates.filter fun c => c.hotelId ≠ baseline.hotelId).map
        (createUpgradePoint baseline baselineCost options)).map (·.hotelId) =
        (candidates.filter fun c => c.hotelId ≠ baseline.hotelId).map (·.hotelId) := by
      rw [List.map_map]
      exact List.map_congr_left fun c _ => hotelId_createUpgradePoint ..
    rw [List.map_cons, hself, List.nodup_cons]
    refine ⟨fun hmem => ?_, hids.sublist (List.filter_sublist.map _)⟩
    obtain ⟨c, hc, hid⟩ := List.mem_map.mp hmem
    exact of_decide_eq_true (List.mem_filter.mp hc).2 hid
  rounded point hpoint hcomparable := by
    rcases List.mem_cons.mp hpoint with rfl | hpoint
    · exact nomatch hcomparable
    obtain ⟨c, -, rfl⟩ := List.mem_map.mp hpoint
    rcases createUpgradePoint_cases baseline baselineCost options c with ⟨cost, -, h⟩ | ⟨h, h', -⟩
    · rw [h]
      exact (createComparedPoint_spec c baseline cost options).1
    · rw [not_comparable_of_status h h'] at hcomparable
      exact nomatch hcomparable
  comparable point hpoint hstatus := by
    rcases List.mem_cons.mp hpoint with rfl | hpoint
    · exact nomatch hstatus
    obtain ⟨c, -, rfl⟩ := List.mem_map.mp hpoint
    rcases createUpgradePoint_cases baseline baselineCost options c with ⟨cost, -, h⟩ | ⟨h, -, -⟩
    · rw [h] at hstatus ⊢
      exact (createComparedPoint_spec c baseline cost options).2.2 hstatus
    · exact absurd hstatus h
  unmarked point hpoint _ := by
    rcases List.mem_cons.mp hpoint with rfl | hpoint
    · rfl
    obtain ⟨c, -, rfl⟩ := List.mem_map.mp hpoint
    rcases createUpgradePoint_cases baseline baselineCost options c with ⟨cost, -, h⟩ | ⟨h, -, -⟩
    · rw [h, isWorthwhile, (createComparedPoint_spec c baseline cost options).2.1, Bool.and_false]
    · rw [isWorthwhile, decide_eq_false h, Bool.false_and]

theorem curvePoints_of_createPoints {toUpperCase : String → String} {input : UpgradeInput}
    {options : UpgradeOptions} {points : List UpgradePoint}
    (h : createPoints toUpperCase input options = .ok points) : CurvePoints points := by
  unfold createPoints at h
  simp only [Fallible.throwIf_bind_ok, Fallible.bind_ok] at h
  obtain ⟨-, candidates, -, hids, h⟩ := h
  split at h
  next baseline _ =>
    obtain ⟨-, h⟩ := Fallible.throwIf_bind_ok.mp h
    split at h
    next baselineCost _ =>
      obtain rfl := Except.ok.inj h
      exact curvePoints_of_candidates (not_not.mp hids) baselineCost (resolveOptions options)
    next => exact nomatch h
  next => exact nomatch h

/-- Some upgrade is worthwhile in the end exactly if some point that was worthwhile is dominated by no
weak point, and what takes a worthwhile point off the curve is on the frontier itself. -/
theorem frontier_keeps_worthwhile {toUpperCase : String → String} {input : UpgradeInput}
    {options : UpgradeOptions} {curve : UpgradeCurve}
    (h : evaluateSmartUpgradeCurveV2 toUpperCase input options = .ok curve) :
    ∃ created, createPoints toUpperCase input options = .ok created ∧
      (curve.worthwhileUpgradeHotelIds ≠ [] ↔ ∃ point ∈ created, point.status = .worthwhile ∧
        ∀ other ∈ created, isComparable other = true → other.status = .weak →
          dominates other point = false) ∧
      ∀ point ∈ created, point.status = .worthwhile →
        point.hotelId ∉ curve.worthwhileUpgradeHotelIds →
        ∃ other ∈ created, isComparable other = true ∧ dominates other point = true ∧
          markPoint (comparablePoints created) other ∈ curve.points ∧
          (markPoint (comparablePoints created) other).efficientFrontier = true := by
  obtain ⟨created, hcreated, h⟩ := Fallible.bind_ok.mp h
  obtain rfl := Except.ok.inj h
  have hcurve := curvePoints_of_createPoints hcreated
  have hids : ∀ hotelId, hotelId ∈ (sortBy compareWorthwhile ((sortBy comparePoints
      (applyEfficientFrontier created)).filter isWorthwhile)).map (·.hotelId) ↔
      ∃ point ∈ created, point.hotelId = hotelId ∧ point.status = .worthwhile ∧
        OnFrontier created point := by
    intro hotelId
    rw [← hcurve.mem_worthwhile]
    simp only [List.mem_map, mem_sortBy, List.mem_filter, and_assoc]
  refine ⟨created, hcreated, ?_, fun point hpoint hworthwhile hnot => ?_⟩
  · rw [← hcurve.exists_worthwhile_iff]
    constructor
    · intro hne
      obtain ⟨hotelId, hmem⟩ := List.exists_mem_of_ne_nil _ hne
      obtain ⟨point, hpoint, -, hworthwhile⟩ := (hids hotelId).mp hmem
      exact ⟨point, hpoint, hworthwhile⟩
    · rintro ⟨point, hpoint, hworthwhile⟩
      exact List.ne_nil_of_mem ((hids point.hotelId).mpr ⟨point, hpoint, rfl, hworthwhile⟩)
  · have hcomparable := hcurve.comparable point hpoint hworthwhile
    have hfrontier : ¬ OnFrontier created point := fun hfrontier =>
      hnot ((hids point.hotelId).mpr ⟨point, hpoint, rfl, hworthwhile, hfrontier⟩)
    obtain ⟨other, hother, htop, hdominates⟩ := hcurve.exists_frontier_dominator
      (mem_comparablePoints.mpr ⟨hpoint, hcomparable⟩) hfrontier
    obtain ⟨hmem, hcompetes⟩ := mem_comparablePoints.mp hother
    refine ⟨other, hmem, hcompetes, hdominates, ?_, markPoint_frontier_iff.mpr htop⟩
    refine mem_sortBy.mpr (List.mem_map.mpr ⟨other, hmem, ?_⟩)
    rw [hcompetes, if_pos rfl]
    rfl

/-- A candidate for a budget of 100 that is better than the baseline by `gain` on each dimension. -/
def sampleCandidate (hotelId : String) (scoreConfidence totalCost gain : ℚ) : Candidate where
  hotelId := hotelId
  eligibleForPrimaryRanking := true
  utility :=
    { hotelId
      status := .usable
      eligibleForPrimaryRanking := true
      preference := ⟨.comfort, fun _ => none⟩
      utilityScore := some 70
      scoreConfidence := some scoreConfidence
      evidenceCoverage := some 1
      contributions := [.quality, .location, .comfort].map fun dimension =>
        ⟨dimension, true, some (60 + gain), some 1, some 1⟩ }
  priceValue :=
    { hotelId
      status := .usable
      eligibleForPrimaryRanking := true
      totalCost := some totalCost
      currency := some "EUR"
      costCompleteness := some "reported-complete"
      budget := ⟨true, some 100, some (totalCost ≤ 100), none, none⟩
      confidence := some 1 }
  risk := ⟨some 0, .low⟩
  paretoStatus := .frontier

/-- A worthwhile upgrade of little confidence, and a cheaper one that gains a little too little. -/
def sampleInput : UpgradeInput where
  baselineHotelId := "base"
  candidates :=
    [sampleCandidate "base" 1 100 0, sampleCandidate "a" (6 / 10) 110 6,
      sampleCandidate "b" 1 105 (39 / 10)]

theorem frontier_keeps_worthwhile_sample : ∃ curve created,
    evaluateSmartUpgradeCurveV2 id { sampleInput with candidates := sampleInput.candidates.take 2 } {} =
      .ok curve ∧
    createPoints id { sampleInput with candidates := sampleInput.candidates.take 2 } {} = .ok created ∧
    curve.worthwhileUpgradeHotelIds = ["a"] := by
  obtain ⟨curve, hcurve, hids⟩ := Fallible.exists_ok
    (x := evaluateSmartUpgradeCurveV2 id
      { sampleInput with candidates := sampleInput.candidates.take 2 } {})
    (p := fun curve => decide (curve.worthwhileUpgradeHotelIds = ["a"])) (by decide +kernel)
  obtain ⟨created, hcreated, -⟩ := frontier_keeps_worthwhile hcurve
  exact ⟨curve, created, hcurve, hcreated, of_decide_eq_true hids⟩

/-- The only worthwhile point is dominated by a weak one, and no upgrade is worthwhile in the end. -/
theorem weak_point_removes_all : ∃ created curve,
    createPoints id sampleInput {} = .ok created ∧
      evaluateSmartUpgradeCurveV2 id sampleInput {} = .ok curve ∧
      (∃ point ∈ created, point.status = .worthwhile) ∧ curve.worthwhileUpgradeHotelIds = [] := by
  obtain ⟨created, hcreated, hpoint⟩ := Fallible.exists_ok (x := createPoints id sampleInput {})
    (p := fun created => decide (∃ point ∈ created, point.status = .worthwhile)) (by decide +kernel)
  obtain ⟨curve, hcurve, hids⟩ := Fallible.exists_ok
    (x := evaluateSmartUpgradeCurveV2 id sampleInput {})
    (p := fun curve => decide (curve.worthwhileUpgradeHotelIds = [])) (by decide +kernel)
  exact ⟨created, curve, hcreated, hcurve, of_decide_eq_true hpoint, of_decide_eq_true hids⟩

end SmartStay.Upgrade
