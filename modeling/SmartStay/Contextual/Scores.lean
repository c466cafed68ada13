import SmartStay.Contextual.Evaluation
import SmartStay.Lib.WeightedMean

/-!
# The scores of a candidate

1. `IsScore`: numbers from nothing to a hundred.
2. `locationScore_isScore`, `weightedTravelTime_finite`.
3. `protectionScore_isScore`, `cancellationProtection_free`: the share of a cost of nothing is not
   a number.
4. `utilityDelta_within`.
5. `evaluateConvenience_scores`.
-/

namespace SmartStay.Contextual

open Contract JsSort WeightedMean

variable {rt : Runtime} {context : StayContext} {candidate : CandidateInput}

/-! ## 1. Scores -/

/-- A number from nothing to a hundred. -/
def InHundred (x : JsFloat) : Prop := ∃ q, x = .finite q ∧ 0 ≤ q ∧ q ≤ 100

/-- A score, where there is one. -/
def IsScore (score : Option JsFloat) : Prop := ∀ x, score = some x → InHundred x

theorem isScore_none : IsScore none := nofun

theorem round_hundred {q : ℚ} (hlow : 0 ≤ q) (hhigh : q ≤ 100) :
    0 ≤ round q 2 ∧ round q 2 ≤ 100 := by
  refine ⟨round_nonneg hlow 2, (round_mono hhigh 2).trans ?_⟩
  have hexact : round ((10000 : Int) / 10 ^ 2) 2 = (10000 : Int) / 10 ^ 2 :=
    round_of_decimal (by norm_num)
  norm_num at hexact
  exact hexact.le

theorem inHundred_round {q : ℚ} (hlow : 0 ≤ q) (hhigh : q ≤ 100) :
    InHundred ((JsFloat.finite q).map (round · 2)) :=
  ⟨round q 2, rfl, round_hundred hlow hhigh⟩

/-! ## 2. Location -/

theorem mem_usableTravelPoints {point : TravelPoint} :
    point ∈ usableTravelPoints rt candidate ↔
      point ∈ candidate.travelPoints ∧ isUsableTravelPoint point = true := by
  rw [usableTravelPoints, mem_sortBy, List.mem_filter]

theorem isUsableTravelPoint_bounds {point : TravelPoint} (h : isUsableTravelPoint point = true) :
    0 ≤ travelMinutes point ∧ 0 < point.importance := by
  simp only [isUsableTravelPoint, Bool.and_eq_true, decide_eq_true_eq] at h
  obtain ⟨⟨⟨-, hminutes⟩, himportance⟩, -⟩ := h
  refine ⟨?_, himportance⟩
  unfold travelMinutes
  cases htime : point.travelTimeMinutes with
  | none => exact le_rfl
  | some minutes => simpa [htime] using hminutes

theorem travelPointWeight_pos {point : TravelPoint} (h : isUsableTravelPoint point = true) :
    0 < travelPointWeight context point :=
  mul_pos (mul_pos (isUsableTravelPoint_bounds h).2 (tripPointWeights_pos _ _))
    (weightWithin_pos _)

/-- The score of a point without the rounding of its representation. -/
def travelScore (point : TravelPoint) : ℚ := 100 / (1 + travelMinutes point / 20)

theorem travelScore_bounds {point : TravelPoint} (h : 0 ≤ travelMinutes point) :
    0 ≤ travelScore point ∧ travelScore point ≤ 100 := by
  have hdivisor : 1 ≤ 1 + travelMinutes point / 20 := by
    have : 0 ≤ travelMinutes point / 20 := by positivity
    linarith
  exact ⟨by unfold travelScore; positivity, div_le_self (by norm_num) hdivisor⟩

theorem travelPointScore_eq {point : TravelPoint} (h : 0 ≤ travelMinutes point) :
    travelPointScore point = .finite (travelScore point) := by
  refine JsFloat.div_finite (ne_of_gt ?_)
  positivity

/-- The loop adds up finite numbers. -/
theorem weightedScore_eq {points : List TravelPoint}
    (h : ∀ point ∈ points, isUsableTravelPoint point = true) :
    weightedScore context points = .finite (points.map fun point =>
      travelScore point * travelPointWeight context point).sum := by
  suffices hloop : ∀ total : ℚ, points.foldl (fun (total : JsFloat) point => total.add
      ((travelPointScore point).times (travelPointWeight context point))) (.finite total) =
        .finite (total + (points.map fun point =>
          travelScore point * travelPointWeight context point).sum) by
    rw [weightedScore, hloop, zero_add]
  induction points with
  | nil => simp
  | cons point points ih =>
    intro total
    have hpoint := (isUsableTravelPoint_bounds (h point List.mem_cons_self)).1
    rw [List.foldl_cons, travelPointScore_eq hpoint, List.map_cons, List.sum_cons, ← add_assoc]
    exact ih (fun other hother => h other (List.mem_cons_of_mem _ hother)) _

theorem totalWeight_pos {points : List TravelPoint}
    (h : ∀ point ∈ points, isUsableTravelPoint point = true) (hne : points ≠ []) :
    0 < totalWeight context points := by
  refine List.sum_pos _ (List.forall_mem_map.mpr fun point hpoint => ?_) (by simpa using hne)
  exact travelPointWeight_pos (h point hpoint)

/-- The location of a candidate is not scored, or its scores are means over usable points. -/
theorem evaluateLocation_scores :
    ((evaluateLocation rt context candidate).locationScore = none ∧
      (evaluateLocation rt context candidate).weightedTravelTimeMinutes = none) ∨
    ∃ minutes score, 0 ≤ score ∧ score ≤ 100 ∧
      (evaluateLocation rt context candidate).weightedTravelTimeMinutes = some (.finite minutes) ∧
      (evaluateLocation rt context candidate).locationScore =
        some ((JsFloat.finite score).map (round · 2)) := by
  have husable : ∀ point ∈ usableTravelPoints rt candidate, isUsableTravelPoint point = true :=
    fun point hpoint => (mem_usableTravelPoints.mp hpoint).2
  unfold evaluateLocation
  cases hpoints : usableTravelPoints rt candidate with
  | nil => exact .inl ⟨rfl, rfl⟩
  | cons first rest =>
    rw [hpoints] at husable
    have htotal : 0 < totalWeight context (first :: rest) :=
      totalWeight_pos husable (List.cons_ne_nil first rest)
    have hweight : ∀ point ∈ first :: rest, 0 ≤ travelPointWeight context point :=
      fun point hpoint => (travelPointWeight_pos (husable point hpoint)).le
    have hscore : ∀ point ∈ first :: rest, 0 ≤ travelScore point ∧ travelScore point ≤ 100 :=
      fun point hpoint => travelScore_bounds (isUsableTravelPoint_bounds (husable point hpoint)).1
    refine .inr ⟨round (weightedMinutes context (first :: rest) /
      totalWeight context (first :: rest)) 2,
      weightedMean (first :: rest) travelScore (travelPointWeight context),
      le_weightedMean hweight htotal fun point hpoint => (hscore point hpoint).1,
      weightedMean_le hweight htotal fun point hpoint => (hscore point hpoint).2, ?_, ?_⟩
    · simp only [JsFloat.div_finite htotal.ne']
      rfl
    · simp only [weightedScore_eq husable, JsFloat.div_finite htotal.ne']
      rfl

theorem locationScore_isScore : IsScore (evaluateLocation rt context candidate).locationScore := by
  rcases @evaluateLocation_scores rt context candidate with
    ⟨hnone, -⟩ | ⟨minutes, score, hlow, hhigh, -, hscore⟩
  · rw [hnone]
    exact isScore_none
  · rw [hscore]
    rintro _ ⟨⟩
    exact inHundred_round hlow hhigh

theorem weightedTravelTime_finite {x : JsFloat}
    (h : (evaluateLocation rt context candidate).weightedTravelTimeMinutes = some x) :
    x.isFinite = true := by
  rcases @evaluateLocation_scores rt context candidate with
    ⟨-, hnone⟩ | ⟨minutes, score, -, -, hminutes, -⟩
  · rw [hnone] at h
    cases h
  · rw [hminutes] at h
    cases h
    rfl

/-! ## 3. Cancellation -/

/-- A share of a cost of nothing: a refundable cancellation of a stay that costs nothing, in a
    recognised currency, with a free window or a penalty that is not negative. -/
def protectsFreeStay (rt : Runtime) (candidate : CandidateInput) : Bool :=
  candidate.totalCost = some 0 && (usableCancellation candidate).any fun cancellation =>
    cancellation.refundable = some true && (normalizeCurrency rt candidate.currency).any
      fun currency => hasFreeWindow cancellation || cancellation.penaltyAmount.any fun penalty =>
        0 ≤ penalty && normalizeCurrency rt cancellation.penaltyCurrency = some currency

theorem refundableAmount_spec {cancellation : Cancellation} {totalCost : ℚ} {currency : String}
    {amount : ℚ} (hcost : 0 ≤ totalCost)
    (h : refundableAmount rt cancellation totalCost currency = some amount) :
    0 ≤ amount ∧ amount ≤ totalCost ∧ (hasFreeWindow cancellation || cancellation.penaltyAmount.any
      fun penalty => 0 ≤ penalty &&
        normalizeCurrency rt cancellation.penaltyCurrency = some currency) = true := by
  unfold refundableAmount at h
  split at h
  · next hwindow =>
    cases h
    exact ⟨hcost, le_rfl, by rw [hwindow, Bool.true_or]⟩
  · obtain ⟨penalty, hpenalty, rfl⟩ := Option.map_eq_some_iff.mp h
    obtain ⟨hsome, hvalid⟩ := Option.filter_eq_some_iff.mp hpenalty
    have hpos : 0 ≤ penalty := by
      rw [Bool.and_eq_true, decide_eq_true_eq] at hvalid
      exact hvalid.1
    refine ⟨le_max_left _ _, max_le hcost (sub_le_self _ hpos), ?_⟩
    rw [hsome, Option.any_some, hvalid, Bool.or_true]

/-- What a refundable cancellation saves is between nothing and the cost, so its share is a score
    unless the cost is nothing. -/
theorem cancellationProtection_inHundred {found : ℚ × JsFloat}
    (hpaid : protectsFreeStay rt candidate = false)
    (h : cancellationProtection rt candidate = some found) : InHundred found.2 := by
  unfold cancellationProtection at h
  obtain ⟨cancellation, hcancellation, h⟩ := Option.bind_eq_some_iff.mp h
  obtain ⟨totalCost, hcost, h⟩ := Option.bind_eq_some_iff.mp h
  obtain ⟨hsome, hnonneg⟩ := Option.filter_eq_some_iff.mp hcost
  rw [decide_eq_true_eq] at hnonneg
  split at h
  · cases h
    exact ⟨0, rfl, le_rfl, by norm_num⟩
  · next hrefundable =>
    obtain ⟨currency, hcurrency, h⟩ := Option.bind_eq_some_iff.mp h
    obtain ⟨amount, hamount, h⟩ := Option.bind_eq_some_iff.mp h
    cases h
    obtain ⟨hlow, hhigh, hfree⟩ := refundableAmount_spec hnonneg hamount
    have hne : totalCost ≠ 0 := by
      rintro rfl
      simp [protectsFreeStay, hsome, hcancellation, hrefundable, hcurrency, hfree] at hpaid
    have hshare : amount / totalCost ≤ 1 := div_le_one_of_le₀ hhigh hnonneg
    have hpos : 0 ≤ amount / totalCost := div_nonneg hlow hnonneg
    rw [JsFloat.div_finite hne]
    show InHundred ((JsFloat.finite (min (max (amount / totalCost) 0) 1 * 100)).map (round · 2))
    rw [max_eq_left hpos, min_eq_left hshare]
    exact inHundred_round (by positivity) (by linarith)
  · cases h

/-- The share of a cost of nothing is not a number. -/
theorem cancellationProtection_free (h : protectsFreeStay rt candidate = true) :
    cancellationProtection rt candidate = some (0, .nan) := by
  simp only [protectsFreeStay, Bool.and_eq_true, decide_eq_true_eq] at h
  obtain ⟨hcost, hany⟩ := h
  obtain ⟨cancellation, hcancellation, hrest⟩ := Option.any_eq_true _ _ |>.mp hany
  rw [Bool.and_eq_true, decide_eq_true_eq] at hrest
  obtain ⟨hrefundable, hany⟩ := hrest
  obtain ⟨currency, hcurrency, hfree⟩ := Option.any_eq_true _ _ |>.mp hany
  have hamount : refundableAmount rt cancellation 0 currency = some 0 := by
    unfold refundableAmount
    cases hwindow : hasFreeWindow cancellation with
    | true => rfl
    | false =>
      rw [hwindow, Bool.false_or] at hfree
      obtain ⟨penalty, hpenalty, hvalid⟩ := Option.any_eq_true _ _ |>.mp hfree
      have hfilter : cancellation.penaltyAmount.filter (fun penalty => 0 ≤ penalty &&
          normalizeCurrency rt cancellation.penaltyCurrency = some currency) = some penalty :=
        Option.filter_eq_some_iff.mpr ⟨hpenalty, hvalid⟩
      have hpos : 0 ≤ penalty := by
        rw [Bool.and_eq_true, decide_eq_true_eq] at hvalid
        exact hvalid.1
      simp [hfilter, hpos]
  have husable : usableTotalCost candidate = some 0 :=
    Option.filter_eq_some_iff.mpr ⟨hcost, by simp⟩
  simp only [cancellationProtection, hcancellation, husable, hrefundable, hcurrency, hamount,
    Option.bind_eq_bind, Option.bind_some]
  rfl

theorem protectionScore_isScore (hpaid : protectsFreeStay rt candidate = false) :
    IsScore (evaluateFlexibility rt candidate).cancellationProtectionScore := by
  intro x hx
  obtain ⟨found, hfound, rfl⟩ := Option.map_eq_some_iff.mp hx
  exact cancellationProtection_inHundred hpaid hfound

/-! ## 4. Interactions -/

theorem utilityDelta_within {delta : ℚ}
    (h : (evaluateContextInteractions rt context candidate).utilityDelta = some delta) :
    -20 ≤ delta ∧ delta ≤ 20 := by
  unfold evaluateContextInteractions at h
  split at h
  · cases h
  · cases h
    have hexact : ∀ n : Int, round ((n : ℚ) * 100 / 10 ^ 2) 2 = n * 100 / 10 ^ 2 := fun n => by
      exact_mod_cast @round_of_decimal (n * 100) 2 (by norm_num)
    have hlow := hexact (-20)
    have hhigh := hexact 20
    norm_num at hlow hhigh
    have hclamp : ∀ value, -20 ≤ JsNumber.clamp value (-20) 20 ∧
        JsNumber.clamp value (-20) 20 ≤ 20 := fun value => JsNumber.clamp_mem (by norm_num)
    exact ⟨hlow.symm.le.trans (round_mono (hclamp _).1 2),
      (round_mono (hclamp _).2 2).trans hhigh.le⟩

/-! ## 5. Convenience -/

theorem mem_usableSignals {signal : FrictionSignal} : signal ∈ usableSignals rt candidate ↔
    signal ∈ candidate.frictionSignals ∧ isUsableSignal signal = true := by
  rw [usableSignals, mem_sortBy, List.mem_filter]

theorem isUsableSignal_bounds {signal : FrictionSignal} (h : isUsableSignal signal = true) :
    -1 ≤ signal.convenienceImpact ∧ signal.convenienceImpact ≤ 1 ∧ 0 < signal.weight := by
  simp only [isUsableSignal, Bool.and_eq_true, decide_eq_true_eq] at h
  exact ⟨h.1.1.1.2, h.1.1.2, h.1.2⟩

/-- The index of usable signals lies fifty around fifty. -/
theorem convenienceIndex_eq {signals : List FrictionSignal} (hne : signals ≠ [])
    (h : ∀ signal ∈ signals, isUsableSignal signal = true) : ∃ index, 0 ≤ index ∧ index ≤ 100 ∧
      convenienceIndex signals = .finite (round index 2) := by
  have hweight : ∀ signal ∈ signals, 0 ≤ signal.weight := fun signal hsignal =>
    (isUsableSignal_bounds (h signal hsignal)).2.2.le
  have htotal : 0 < (signals.map FrictionSignal.weight).sum := by
    refine List.sum_pos _ (List.forall_mem_map.mpr fun signal hsignal => ?_) (by simpa using hne)
    exact (isUsableSignal_bounds (h signal hsignal)).2.2
  have hlow : -1 ≤ weightedMean signals FrictionSignal.convenienceImpact FrictionSignal.weight :=
    le_weightedMean hweight htotal fun signal hsignal =>
      (isUsableSignal_bounds (h signal hsignal)).1
  have hhigh : weightedMean signals FrictionSignal.convenienceImpact FrictionSignal.weight ≤ 1 :=
    weightedMean_le hweight htotal fun signal hsignal =>
      (isUsableSignal_bounds (h signal hsignal)).2.1
  refine ⟨50 + weightedMean signals FrictionSignal.convenienceImpact FrictionSignal.weight * 50,
    by linarith, by linarith, ?_⟩
  unfold convenienceIndex weightedImpact
  rw [JsFloat.div_finite htotal.ne']
  rfl

/-- The convenience of a candidate is not evaluated, or its index and friction are scores. -/
theorem evaluateConvenience_scores :
    IsScore (evaluateConvenience rt candidate).convenienceIndex ∧
      IsScore (evaluateConvenience rt candidate).decisionFrictionScore := by
  unfold evaluateConvenience
  dsimp only
  split
  · exact ⟨isScore_none, isScore_none⟩
  · next hcount =>
    have hne : usableSignals rt candidate ≠ [] := by
      rintro hnil
      rw [hnil] at hcount
      exact hcount (by decide)
    obtain ⟨index, hlow, hhigh, hindex⟩ := convenienceIndex_eq hne fun signal hsignal =>
      (mem_usableSignals.mp hsignal).2
    have hround := round_hundred hlow hhigh
    constructor
    · rintro _ ⟨⟩
      exact ⟨_, hindex, hround⟩
    · rintro _ ⟨⟩
      rw [hindex]
      exact inHundred_round (q := 100 + -round index 2) (by linarith) (by linarith)

end SmartStay.Contextual
