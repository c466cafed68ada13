import SmartStay.Geometry.Soundness
import SmartStay.Lib.Bisection
import SmartStay.Robustness.Dominance

/-!
# What a maximum sensible price says

`solveMaximumSensiblePrice` looks for the price at which a candidate is as useful as a reference. A
dearer stay is worth no more, so that the utilities on both sides of its answer are known.

1. `HypotheticalUtility`: the utility as a function of the price.
2. `bisect_bracket`: what the rounds find.
3. `SearchSound`, `sensible_price_sound`: the answer, and the verdict on an actual price.
-/

namespace SmartStay.Geometry

open Contract Bisection
open Robustness (BudgetAntitone plainRuntime_budgetAntitone)

variable {rt : Runtime} {candidate reference : NormalizedCandidate}

/-! ## 1. Utility and price -/

/-- The utility of a candidate with a budget at every price. -/
structure HypotheticalUtility (rt : Runtime) (candidate : NormalizedCandidate) (budget : ℚ)
    (utilityAt : ℚ → ℚ) : Prop where
  has_budget : normalizeFinitePositive candidate.source.utility.totalBudget = some budget
  budget_pos : 0 < budget
  at_price : ∀ price, utilityAtHypotheticalPrice rt candidate price = some (utilityAt price)
  anti : ∀ {price price'}, 0 < price → price ≤ price' → utilityAt price' ≤ utilityAt price

theorem hypotheticalUtility_of_some (hbudget : BudgetAntitone rt) {price utility : ℚ}
    (h : utilityAtHypotheticalPrice rt candidate price = some utility) :
    ∃ budget utilityAt, HypotheticalUtility rt candidate budget utilityAt := by
  simp only [utilityAtHypotheticalPrice, Option.bind_eq_bind, Option.bind_eq_some_iff] at h
  obtain ⟨budget, hcandidate, contribution, hprice, hutility⟩ := h
  split at hutility
  · cases hutility
  next husable =>
    simp only [Bool.or_eq_true, Bool.not_eq_true', decide_eq_true_eq, not_or, not_le] at husable
    have hpositive : 0 < budget := by
      have hfilter := (Option.filter_eq_some_iff.mp hcandidate).2
      exact of_decide_eq_true hfilter
    refine ⟨budget, fun price => ((candidate.source.utility.contributions.filter fun c =>
      c.dimension ≠ .priceValue).map (·.weightedValue)).sum +
        createBudgetUtility rt price budget * contribution.normalizedAvailableWeight,
      hcandidate, hpositive, fun price => ?_, fun hpos hle => ?_⟩
    · simp only [utilityAtHypotheticalPrice, hcandidate, hprice, Option.bind_eq_bind,
        Option.bind_some]
      rw [if_neg (by simpa using husable)]
    · exact add_le_add_right (mul_le_mul_of_nonneg_right
        (hbudget budget _ _ hpositive hpos hle) husable.2.le) _

/-! ## 2. The rounds -/

theorem bisect_bracket {utilityAt : ℚ → ℚ} {utilityAt? : ℚ → Option ℚ} {referenceUtility : ℚ}
    (hat : ∀ price, utilityAt? price = some (utilityAt price)) (rounds : ℕ) {start width low high : ℚ}
    (h : Bracket (fun price => referenceUtility ≤ utilityAt price) start width low high) :
    ∃ low' high', bisect utilityAt? referenceUtility rounds low high = some low' ∧
      Bracket (fun price => referenceUtility ≤ utilityAt price) start (width / 2 ^ rounds) low'
        high' := by
  induction rounds generalizing low high width with
  | zero => exact ⟨low, high, rfl, by rwa [pow_zero, div_one]⟩
  | succ rounds ih =>
    have hwidth : width / 2 ^ (rounds + 1) = width / 2 / 2 ^ rounds := by
      rw [pow_succ', div_div]
    rw [bisect, hat, hwidth]
    show ∃ low' high', (if referenceUtility ≤ utilityAt ((low + high) / 2) then _ else _) = _ ∧ _
    split
    next hgood => exact ih (h.right hgood)
    next hbad => exact ih (h.left hbad)

/-! ## 3. The answer -/

/-- The data of a search, and its outcome. -/
theorem solve_cases (h : (solveMaximumSensiblePrice rt candidate reference).status ≠ .unavailable) :
    ∃ budget referenceUtility, normalizeFinitePositive candidate.source.utility.totalBudget =
        some budget ∧ reference.utilityScore = some referenceUtility ∧
      searchSensiblePrice rt candidate budget referenceUtility =
        some ((solveMaximumSensiblePrice rt candidate reference).status,
          (solveMaximumSensiblePrice rt candidate reference).amount) := by
  rw [solveMaximumSensiblePrice] at h ⊢
  dsimp only at h ⊢
  generalize houtcome : (do
    let candidateBudget ← normalizeFinitePositive candidate.source.utility.totalBudget
    let referenceBudget ← normalizeFinitePositive reference.source.utility.totalBudget
    let referenceUtility ← reference.utilityScore
    if !comparable candidate reference || 1 / 100 < |candidateBudget - referenceBudget| ||
        candidate.currency.isNone || candidate.currency ≠ reference.currency then none
    else searchSensiblePrice rt candidate candidateBudget referenceUtility :
      Option (ThresholdStatus × Option ℚ)) = outcome at h ⊢
  cases outcome with
  | none => exact absurd rfl h
  | some found =>
    simp only [Option.bind_eq_bind, Option.bind_eq_some_iff] at houtcome
    obtain ⟨budget, hbudget, _, -, referenceUtility, hreference, hsearch⟩ := houtcome
    split at hsearch
    · cases hsearch
    · exact ⟨budget, referenceUtility, hbudget, hreference, hsearch⟩

/-- What each outcome of a search says about the utilities. -/
structure SearchSound (budget referenceUtility : ℚ) (utilityAt : ℚ → ℚ) (status : ThresholdStatus)
    (amount : Option ℚ) : Prop where
  unattainable : status = .unattainable → ∀ price, max (1 / 1000000) (budget * (1 / 1000000)) ≤ price →
    utilityAt price + 1 / 1000000 < referenceUtility
  unbounded : status = .unboundedByUtility → ∀ price, 0 < price → price ≤ budget * 2 →
    referenceUtility ≤ utilityAt price + 1 / 1000000
  available : status = .available → ∃ sensible, amount = some sensible ∧
    (∀ price, 0 < price → price ≤ sensible - 1 / 100 →
      referenceUtility ≤ utilityAt price + 1 / 1000000) ∧
    ∀ price, sensible + 1 / 100 + budget / 2 ^ 79 ≤ price → utilityAt price < referenceUtility

theorem searchSound {budget referenceUtility : ℚ} {utilityAt : ℚ → ℚ} {status : ThresholdStatus}
    {amount : Option ℚ} (hutility : HypotheticalUtility rt candidate budget utilityAt)
    (h : searchSensiblePrice rt candidate budget referenceUtility = some (status, amount)) :
    SearchSound budget referenceUtility utilityAt status amount := by
  have hpos := hutility.budget_pos
  have hlower : (0 : ℚ) < max (1 / 1000000) (budget * (1 / 1000000)) :=
    lt_max_of_lt_left (by norm_num)
  simp only [searchSensiblePrice, hutility.at_price, Option.bind_eq_bind, Option.bind_some] at h
  split at h
  next hlow =>
    obtain ⟨rfl, rfl⟩ := Prod.mk.inj (Option.some.inj h)
    refine ⟨fun _ price hprice => ?_, by simp, by simp⟩
    exact (add_le_add_left (hutility.anti hlower hprice) _).trans_lt hlow
  next hlow =>
    split at h
    next hhigh =>
      obtain ⟨rfl, rfl⟩ := Prod.mk.inj (Option.some.inj h)
      refine ⟨by simp, fun _ price hprice hle => ?_, by simp⟩
      exact hhigh.trans (add_le_add_left (hutility.anti hprice hle) _)
    next hhigh =>
      have hwidth : (0 : ℚ) < budget * 2 - max (1 / 1000000) (budget * (1 / 1000000)) := by
        by_contra hle
        have hanti := hutility.anti (mul_pos hpos two_pos) (sub_nonpos.mp (not_lt.mp hle))
        linarith
      obtain ⟨low, high, hbisect, hbracket⟩ := bisect_bracket hutility.at_price 80
        (⟨rfl, hwidth, le_rfl, .inl rfl, fun hgood => hhigh (hgood.trans (by linarith))⟩ :
          Bracket (fun price => referenceUtility ≤ utilityAt price)
            (max (1 / 1000000) (budget * (1 / 1000000))) _ _ (budget * 2))
      rw [hbisect] at h
      obtain ⟨rfl, rfl⟩ := Prod.mk.inj (Option.some.inj h)
      refine ⟨by simp, by simp, fun _ =>
        ⟨_, rfl, fun price hprice hle => ?_, fun price hge => ?_⟩⟩
      · have hnear := (abs_le.mp (round_near low 2)).2
        norm_num at hnear
        have hanti := hutility.anti hprice (show price ≤ low by linarith)
        rcases hbracket.good_low with hstart | hgood
        · rw [hstart] at hanti
          linarith
        · linarith
      · have hnear := (abs_le.mp (round_near low 2)).1
        norm_num at hnear
        have hhighest : high ≤ price := by
          have hends := hbracket.width_eq
          have hsmall : (budget * 2 - max (1 / 1000000) (budget * (1 / 1000000))) / 2 ^ 80 ≤
              budget / 2 ^ 79 := by
            rw [div_le_div_iff₀ (by positivity) (by positivity)]
            linarith
          linarith
        have hstart := hbracket.from_start
        have hanti := hutility.anti (hlower.trans_le (hstart.trans
          (sub_nonneg.mp (hbracket.width_eq ▸ hbracket.pos.le)))) hhighest
        exact hanti.trans_lt (not_le.mp hbracket.not_good_high)

/-- A verdict on a price of the searched range holds up to two cents. -/
def VerdictSound (budget referenceUtility : ℚ) (utilityAt : ℚ → ℚ) (maximum : MaximumSensiblePrice) :
    Prop :=
  ∀ actualPrice, max (1 / 1000000) (budget * (1 / 1000000)) ≤ actualPrice →
    actualPrice ≤ budget * 2 →
    (thresholdVerdict maximum actualPrice = .worthwhile → ∀ price, 0 < price →
      price ≤ actualPrice - 1 / 50 → referenceUtility ≤ utilityAt price + 1 / 1000000) ∧
    (thresholdVerdict maximum actualPrice = .notJustified → ∀ price,
      actualPrice + budget / 2 ^ 79 ≤ price → utilityAt price < referenceUtility)

theorem SearchSound.verdict {budget referenceUtility : ℚ} {utilityAt : ℚ → ℚ}
    {maximum : MaximumSensiblePrice}
    (h : SearchSound budget referenceUtility utilityAt maximum.status maximum.amount)
    (hbudget : 0 < budget) : VerdictSound budget referenceUtility utilityAt maximum := by
  intro actualPrice hlow hhigh
  have hslack : 0 < budget / 2 ^ 79 := by positivity
  rw [thresholdVerdict]
  cases hstatus : maximum.status <;> dsimp only
  case unavailable => exact ⟨by simp, by simp⟩
  case unattainable =>
    refine ⟨by simp, fun _ price hprice => ?_⟩
    linarith [h.unattainable hstatus price (hlow.trans (by linarith))]
  case unboundedByUtility =>
    refine ⟨fun _ price hpos hprice => ?_, by simp⟩
    exact h.unbounded hstatus price hpos (by linarith)
  case available =>
    obtain ⟨sensible, hsensible, hbelow, habove⟩ := h.available hstatus
    rw [hsensible, Option.getD_some]
    split
    next hle => exact ⟨fun _ price hpos hprice => hbelow price hpos (by linarith), by simp⟩
    next hgt =>
      exact ⟨by simp, fun _ price hprice => habove price (by linarith [not_le.mp hgt])⟩

/-- The outcome of a search says on which side of the reference the utilities of the candidate lie,
and so does a verdict on an actual price. -/
theorem sensible_price_sound (hbudget : BudgetAntitone rt)
    (h : (solveMaximumSensiblePrice rt candidate reference).status ≠ .unavailable) :
    ∃ budget referenceUtility utilityAt, HypotheticalUtility rt candidate budget utilityAt ∧
      reference.utilityScore = some referenceUtility ∧
      SearchSound budget referenceUtility utilityAt
        (solveMaximumSensiblePrice rt candidate reference).status
        (solveMaximumSensiblePrice rt candidate reference).amount ∧
      VerdictSound budget referenceUtility utilityAt
        (solveMaximumSensiblePrice rt candidate reference) := by
  obtain ⟨budget, referenceUtility, hcandidate, hreference, hsearch⟩ := solve_cases h
  have hsearch' := hsearch
  simp only [searchSensiblePrice, Option.bind_eq_bind, Option.bind_eq_some_iff] at hsearch'
  obtain ⟨utility, hutility, -⟩ := hsearch'
  obtain ⟨budget', utilityAt, hhypothetical⟩ := hypotheticalUtility_of_some hbudget hutility
  obtain rfl := Option.some.inj (hcandidate.symm.trans hhypothetical.has_budget)
  have hsound := searchSound hhypothetical hsearch
  exact ⟨budget, referenceUtility, utilityAt, hhypothetical, hreference, hsound,
    hsound.verdict hhypothetical.budget_pos⟩

/-- A candidate that is worth what its price is worth to a budget of 100. -/
def pricedCandidate (hotelId : String) : NormalizedCandidate :=
  let candidate := normalizedCandidate plainRuntime (circleHotel hotelId 0) hotelId
  { candidate with
    source := { candidate.source with
      utility := { candidate.source.utility with
        totalBudget := some 100
        contributions := [⟨.priceValue, true, some 80, 1, 1, 80, []⟩] } } }

theorem solve_pricedCandidate :
    (solveMaximumSensiblePrice plainRuntime (pricedCandidate "a") (pricedCandidate "b")).status =
        .available ∧
      (solveMaximumSensiblePrice plainRuntime (pricedCandidate "a") (pricedCandidate "b")).amount =
        some 115 :=
  ⟨by decide +kernel, by decide +kernel⟩

theorem sensible_price_sound_sample : ∃ budget utilityAt,
    HypotheticalUtility plainRuntime (pricedCandidate "a") budget utilityAt ∧
      (pricedCandidate "b").utilityScore = some 50 ∧
      ∀ price, 0 < price → price ≤ 115 - 1 / 100 → 50 ≤ utilityAt price + 1 / 1000000 := by
  obtain ⟨hstatus, hamount⟩ := solve_pricedCandidate
  obtain ⟨budget, referenceUtility, utilityAt, hutility, hreference, hsound⟩ := sensible_price_sound
    plainRuntime_budgetAntitone (by rw [hstatus]; exact (by decide))
  have hscore : (pricedCandidate "b").utilityScore = some 50 := by decide +kernel
  obtain rfl := Option.some.inj (hscore.symm.trans hreference)
  obtain ⟨sensible, hsensible, hbelow, -⟩ := hsound.1.available hstatus
  obtain rfl := Option.some.inj (hamount.symm.trans hsensible)
  exact ⟨budget, utilityAt, hutility, hscore, hbelow⟩

end SmartStay.Geometry
