import SmartStay.Lib.Dominance
import SmartStay.Policy.Run

/-!
# Pruning dominated solutions

The policy leaves out dominated candidates before it optimises the objective of the profile.

1. `dominates_evaluateCandidate`: dominance in terms of the solutions.
2. `experienceScore_mono`, `personalUtilityScore_mono`: scores along dominance.
3. `strictOn_dominates`: dominance is a strict order on the candidates of a result.
4. `bestChoice_optimal`: what is chosen is optimal among all comparable candidates.
-/

namespace SmartStay.Policy

open Contract JsSort Dominance

variable {input : PolicyInput} {settings : ProfileSettings} {s t u : SolutionInput}
  {d : ExperienceDimension}

/-! ## 1. Dominance of solutions -/

@[simp] theorem dimension_dimensionContribution :
    (dimensionContribution settings s d).dimension = d := by
  simp only [dimensionContribution]
  split
  · rfl
  · split <;> rfl

@[simp] theorem sourceScore_dimensionContribution :
    (dimensionContribution settings s d).sourceScore = (s.dimensions d).score := by
  simp only [dimensionContribution]
  split
  · rfl
  · split
    · next hnone => exact hnone.symm
    · next score hscore => exact hscore.symm

@[simp] theorem configuredWeight_dimensionContribution :
    (dimensionContribution settings s d).configuredWeight = settings.dimensionWeights d := by
  simp only [dimensionContribution]
  split
  · rfl
  · split <;> rfl

@[simp] theorem sourceScore_evaluateCandidate :
    sourceScore (evaluateCandidate input settings s) d = (s.dimensions d).score := by
  cases d <;> simp [sourceScore, evaluateCandidate, experienceDimensions]

theorem activeDimensions_evaluateCandidate : activeDimensions (evaluateCandidate input settings s) =
    experienceDimensions.filter fun d => 0 < settings.dimensionWeights d := by
  simp only [activeDimensions, evaluateCandidate, List.filter_map, List.map_map]
  refine (List.map_congr_left fun d _ => ?_).trans ((List.map_id _).trans ?_)
  · simp
  · exact List.filter_congr fun d _ => by simp

/-- On every dimension that counts both solutions have a score, and the first one's is at least
    the second one's. -/
def NonWorse (settings : ProfileSettings) (s t : SolutionInput) : Prop :=
  ∀ d, 0 < settings.dimensionWeights d →
    ∃ x y, (s.dimensions d).score = some x ∧ (t.dimensions d).score = some y ∧ y ≤ x

/-- Some dimension that counts has a greater score. -/
def Better (settings : ProfileSettings) (s t : SolutionInput) : Prop :=
  ∃ d, 0 < settings.dimensionWeights d ∧
    ∃ x y, (s.dimensions d).score = some x ∧ (t.dimensions d).score = some y ∧ y < x

/-- `dominates` for two evaluated solutions. -/
structure Above (input : PolicyInput) (settings : ProfileSettings) (s t : SolutionInput) : Prop where
  first : (evaluateCandidate input settings s).status = .comparable
  second : (evaluateCandidate input settings t).status = .comparable
  costs : ∃ x y, s.totalCost = some x ∧ t.totalCost = some y ∧ x ≤ y ∧
    (x < y ∨ Better settings s t)
  scores : NonWorse settings s t

theorem dominates_evaluateCandidate :
    dominates (evaluateCandidate input settings s) (evaluateCandidate input settings t) = true ↔
      Above input settings s t := by
  have hcost : (evaluateCandidate input settings s).totalCost = s.totalCost := rfl
  have hcost' : (evaluateCandidate input settings t).totalCost = t.totalCost := rfl
  simp only [dominates, hcost, hcost', activeDimensions_evaluateCandidate,
    sourceScore_evaluateCandidate, Bool.and_eq_true, decide_eq_true_eq]
  constructor
  · rintro ⟨⟨hs, ht⟩, h⟩
    cases hx : s.totalCost with
    | none => simp [hx] at h
    | some x =>
      cases hy : t.totalCost with
      | none => simp [hx, hy] at h
      | some y =>
        simp only [hx, hy, Bool.and_eq_true, Bool.or_eq_true, decide_eq_true_eq, List.all_eq_true,
          List.any_eq_true, List.mem_filter, mem_experienceDimensions, true_and] at h
        obtain ⟨⟨hle, hall⟩, hstrict⟩ := h
        refine ⟨hs, ht, ⟨x, y, hx, hy, hle, hstrict.imp_right ?_⟩, fun d hd => ?_⟩
        · rintro ⟨d, hd, hlt⟩
          split at hlt
          next hfirst hsecond => exact ⟨d, hd, _, _, hfirst, hsecond, of_decide_eq_true hlt⟩
          next => cases hlt
        · have hscores := hall d hd
          split at hscores
          next hfirst hsecond => exact ⟨_, _, hfirst, hsecond, of_decide_eq_true hscores⟩
          next => cases hscores
  · rintro ⟨hs, ht, ⟨x, y, hx, hy, hle, hstrict⟩, hall⟩
    refine ⟨⟨hs, ht⟩, ?_⟩
    simp only [hx, hy, Bool.and_eq_true, Bool.or_eq_true, decide_eq_true_eq, List.all_eq_true,
      List.any_eq_true, List.mem_filter, mem_experienceDimensions, true_and]
    refine ⟨⟨hle, fun d hd => ?_⟩, hstrict.imp_right ?_⟩
    · obtain ⟨_, _, hfirst, hsecond, hscores⟩ := hall d hd
      simp [hfirst, hsecond, hscores]
    · rintro ⟨d, hd, _, _, hfirst, hsecond, hlt⟩
      exact ⟨d, hd, by simp [hfirst, hsecond, hlt]⟩

theorem Above.irrefl : ¬ Above input settings s s := by
  rintro ⟨-, -, ⟨x, y, hx, hy, -, hstrict⟩, -⟩
  obtain rfl : x = y := Option.some.inj (hx.symm.trans hy)
  rcases hstrict with h | ⟨d, -, v, w, hv, hw, h⟩
  · exact lt_irrefl x h
  · exact absurd (Option.some.inj (hw.symm.trans hv)) h.ne

theorem NonWorse.trans (h : NonWorse settings s t) (h' : NonWorse settings t u) :
    NonWorse settings s u := by
  intro d hd
  obtain ⟨x, y, hx, hy, hxy⟩ := h d hd
  obtain ⟨y', z, hy', hz, hyz⟩ := h' d hd
  obtain rfl : y = y' := Option.some.inj (hy.symm.trans hy')
  exact ⟨x, z, hx, hz, hyz.trans hxy⟩

theorem Above.trans (h : Above input settings s t) (h' : Above input settings t u) :
    Above input settings s u := by
  obtain ⟨hs, -, ⟨x, y, hx, hy, hxy, hstrict⟩, hscores⟩ := h
  obtain ⟨-, hu, ⟨y', z, hy', hz, hyz, hstrict'⟩, hscores'⟩ := h'
  obtain rfl : y = y' := Option.some.inj (hy.symm.trans hy')
  refine ⟨hs, hu, ⟨x, z, hx, hz, hxy.trans hyz, ?_⟩, hscores.trans hscores'⟩
  rcases hstrict with hlt | ⟨d, hd, v, w, hv, hw, hlt⟩
  · exact .inl (hlt.trans_le hyz)
  rcases hstrict' with hlt' | ⟨d', hd', v', w', hv', hw', hlt'⟩
  · exact .inl (hxy.trans_lt hlt')
  · obtain ⟨a, b, ha, hb, hba⟩ := hscores' d hd
    obtain rfl : w = a := Option.some.inj (hw.symm.trans ha)
    exact .inr ⟨d, hd, v, b, hv, hb, hba.trans_lt hlt⟩

/-! ## 2. Scores along dominance -/

theorem sumOver_mono {f g : ExperienceDimension → ℚ} (h : ∀ d, f d ≤ g d) :
    sumOver f ≤ sumOver g := by
  unfold sumOver
  exact List.sum_le_sum fun d _ => h d

/-- Solutions that have every score that counts weigh the same. -/
theorem NonWorse.availableWeight (h : NonWorse settings s t)
    (hweights : ∀ d, 0 ≤ settings.dimensionWeights d) :
    availableWeight settings s = availableWeight settings t := by
  simp only [Policy.availableWeight]
  refine congrArg sumOver (funext fun d => ?_)
  rcases (hweights d).lt_or_eq with hpos | hzero
  · obtain ⟨x, y, hx, hy, -⟩ := h d hpos
    simp [hx, hy]
  · simp [← hzero]

theorem experienceScore_mono (h : NonWorse settings s t)
    (hweights : ∀ d, 0 ≤ settings.dimensionWeights d) {e e' : ℚ}
    (hs : experienceScore settings s = some e) (ht : experienceScore settings t = some e') :
    e' ≤ e := by
  unfold experienceScore at hs ht
  rw [h.availableWeight hweights] at hs
  split at hs
  · cases hs
  · next hne =>
    rw [if_neg hne] at ht
    cases hs
    cases ht
    have hpos : 0 ≤ availableWeight settings t :=
      List.sum_nonneg fun w hw => by
        obtain ⟨d, -, rfl⟩ := List.mem_map.mp hw
        split
        · exact le_refl 0
        · exact hweights d
    refine round_mono (div_le_div_of_nonneg_right (sumOver_mono fun d => ?_) hpos) 6
    rcases (hweights d).lt_or_eq with hd | hd
    · obtain ⟨x, y, hx, hy, hyx⟩ := h d hd
      simp only [hx, hy]
      exact mul_le_mul_of_nonneg_right hyx hd.le
    · simp only [← hd, mul_zero]
      split <;> split <;> exact le_refl 0

/-- A higher cost that stays below the ceiling has no lower opportunity cost. -/
theorem opportunityCost_mono {x y : ℚ} (hxy : x ≤ y)
    (hpoints : 0 ≤ settings.opportunityCostPointsPerBudgetRatio)
    (hceiling : budgetStatus settings (some y) ≠ .overCeiling) :
    opportunityCost settings x ≤ opportunityCost settings y := by
  refine round_mono (add_le_add (mul_le_mul_of_nonneg_right hxy hpoints) ?_) 6
  by_cases hx : budgetStatus settings (some x) = .softOverrun
  · have hone : 1 < x := by
      by_contra hle
      simp [budgetStatus, not_lt.mp hle] at hx
    have hy : budgetStatus settings (some y) = .softOverrun := by
      simp only [budgetStatus, not_le.mpr (hone.trans_le hxy), if_false] at hceiling ⊢
      split
      · rfl
      · next hover => simp [hover] at hceiling
    simp only [hx, hy, if_true]
    linarith
  · rw [if_neg hx]
    split
    · next hy =>
      have hone : 1 < y := by
        by_contra hle
        simp [budgetStatus, not_lt.mp hle] at hy
      linarith
    · exact le_refl 0

/-- The scores of a comparable candidate. -/
structure Scored (settings : ProfileSettings) (budget : ℚ) (c : CandidateEvaluation)
    (cost e points : ℚ) : Prop where
  totalCost : c.totalCost = some cost
  experienceScore : c.experienceScore = some e
  personalUtilityScore : c.personalUtilityScore = some (round (e - points) 6)
  points_eq : points = opportunityCost settings (cost / budget)
  ceiling : budgetStatus settings (some (cost / budget)) ≠ .overCeiling

theorem comparable_scored (h : (evaluateCandidate input settings s).status = .comparable) :
    ∃ cost e points,
      Scored settings input.totalBudget (evaluateCandidate input settings s) cost e points := by
  simp only [evaluateCandidate] at h
  generalize (if sumOver settings.dimensionWeights = 0 then (0 : ℚ)
    else round (availableWeight settings s / sumOver settings.dimensionWeights) 6) = coverage at h
  split at h
  · cases h
  split at h
  · cases h
  · next hinel =>
    split at h
    · cases h
    · next hcomplete =>
      simp only [Bool.or_eq_true, decide_eq_true_eq, not_or, Option.isNone_iff_eq_none] at hinel hcomplete
      obtain ⟨cost, hcost⟩ := Option.ne_none_iff_exists'.mp hcomplete.1.1.1.2
      obtain ⟨e, he⟩ := Option.ne_none_iff_exists'.mp hcomplete.1.2
      refine ⟨cost, e, opportunityCost settings (cost / input.totalBudget), hcost, he, ?_, rfl, ?_⟩
      · simp [evaluateCandidate, hcost, he]
      · simpa [hcost] using hinel.1.1.2

/-- A dominating candidate costs no more, and has no less experience and no less utility. -/
theorem Above.scores_mono (h : Above input settings s t) (hbudget : 0 < input.totalBudget)
    (hweights : ∀ d, 0 ≤ settings.dimensionWeights d)
    (hpoints : 0 ≤ settings.opportunityCostPointsPerBudgetRatio) {cost e points cost' e' points' : ℚ}
    (hs : Scored settings input.totalBudget (evaluateCandidate input settings s) cost e points)
    (ht : Scored settings input.totalBudget (evaluateCandidate input settings t) cost' e' points') :
    cost ≤ cost' ∧ e' ≤ e ∧ round (e' - points') 6 ≤ round (e - points) 6 := by
  obtain ⟨x, y, hx, hy, hxy, -⟩ := h.costs
  obtain rfl : x = cost := Option.some.inj (hx.symm.trans hs.totalCost)
  obtain rfl : y = cost' := Option.some.inj (hy.symm.trans ht.totalCost)
  have he : e' ≤ e := experienceScore_mono h.scores hweights hs.experienceScore ht.experienceScore
  have hratio : x / input.totalBudget ≤ y / input.totalBudget :=
    div_le_div_of_nonneg_right hxy hbudget.le
  have hle : points ≤ points' := by
    rw [hs.points_eq, ht.points_eq]
    exact opportunityCost_mono hratio hpoints ht.ceiling
  exact ⟨hxy, he, round_mono (sub_le_sub he hle) 6⟩

theorem cloneSettings_weights_nonneg (profile : Profile) (nights : ℚ) (d : ExperienceDimension) :
    0 ≤ (cloneSettings profile nights).dimensionWeights d := by
  simp only [cloneSettings]
  split
  · exact le_refl 0
  · cases profile <;> cases d <;> norm_num [profileSettings, weights]

theorem cloneSettings_points_nonneg (profile : Profile) (nights : ℚ) :
    0 ≤ (cloneSettings profile nights).opportunityCostPointsPerBudgetRatio := by
  cases profile <;> norm_num [cloneSettings, profileSettings]

theorem cloneSettings_tolerance_nonneg (profile : Profile) (nights : ℚ) :
    0 ≤ (cloneSettings profile nights).choiceExperienceLossTolerance := by
  cases profile <;> norm_num [cloneSettings, profileSettings]

/-! ## 3. The candidates of a result -/

variable {c o : CandidateEvaluation} {id : String}

theorem mem_evaluateCandidates (h : c ∈ evaluateCandidates input settings) :
    ∃ s ∈ input.solutions, ∃ ids,
      c = { evaluateCandidate input settings s with dominatedBySolutionIds := ids } := by
  simp only [evaluateCandidates, withDominance, List.map_map, List.mem_map] at h
  obtain ⟨s, hs, rfl⟩ := h
  exact ⟨s, hs, _, rfl⟩

theorem mem_dominatedBySolutionIds (h : c ∈ evaluateCandidates input settings) :
    id ∈ c.dominatedBySolutionIds ↔ ∃ o ∈ evaluateCandidates input settings,
      o.solutionId = id ∧ o.solutionId ≠ c.solutionId ∧ dominates o c = true := by
  simp only [evaluateCandidates, withDominance, List.mem_map] at h ⊢
  obtain ⟨c₀, hc₀, rfl⟩ := h
  simp only [List.mem_insertionSort, List.mem_map, List.mem_filter, Bool.and_eq_true,
    decide_eq_true_eq]
  constructor
  · rintro ⟨o₀, ⟨ho₀, hne, hdom⟩, rfl⟩
    exact ⟨_, ⟨o₀, ho₀, rfl⟩, rfl, hne, hdom⟩
  · rintro ⟨o, ⟨o₀, ho₀, rfl⟩, rfl, hne, hdom⟩
    exact ⟨o₀, ⟨ho₀, hne, hdom⟩, rfl⟩

/-- The candidates that the policy compares. -/
def comparable (candidates : List CandidateEvaluation) : List CandidateEvaluation :=
  candidates.filter (·.status = .comparable)

theorem mem_comparable {l : List CandidateEvaluation} :
    c ∈ comparable l ↔ c ∈ l ∧ c.status = .comparable := by
  simp [comparable]

theorem dominates_comparable (h : dominates o c = true) :
    o.status = .comparable ∧ c.status = .comparable := by
  simp only [dominates, Bool.and_eq_true, decide_eq_true_eq] at h
  exact h.1

/-- Dominance is a strict order on the candidates of an input. -/
theorem strictOn_dominates (input : PolicyInput) (settings : ProfileSettings) :
    StrictOn (fun a b => dominates a b = true)
      (comparable (evaluateCandidates input settings)) where
  irrefl a ha := by
    obtain ⟨s, -, ids, rfl⟩ := mem_evaluateCandidates (mem_comparable.mp ha).1
    exact fun h => Above.irrefl (dominates_evaluateCandidate.mp h)
  trans a ha b hb c hc hab hbc := by
    obtain ⟨s, -, ids, rfl⟩ := mem_evaluateCandidates (mem_comparable.mp ha).1
    obtain ⟨t, -, ids, rfl⟩ := mem_evaluateCandidates (mem_comparable.mp hb).1
    obtain ⟨u, -, ids, rfl⟩ := mem_evaluateCandidates (mem_comparable.mp hc).1
    exact dominates_evaluateCandidate.mpr
      ((dominates_evaluateCandidate.mp hab).trans (dominates_evaluateCandidate.mp hbc))

/-- The listed ids are those of the comparable candidates that dominate. -/
theorem mem_dominatedBy (hnodup : (input.solutions.map (·.solutionId)).Nodup)
    (h : c ∈ evaluateCandidates input settings) :
    id ∈ c.dominatedBySolutionIds ↔ ∃ o ∈ comparable (evaluateCandidates input settings),
      o.solutionId = id ∧ dominates o c = true := by
  rw [mem_dominatedBySolutionIds h]
  constructor
  · rintro ⟨o, ho, hid, -, hdom⟩
    exact ⟨o, mem_comparable.mpr ⟨ho, (dominates_comparable hdom).1⟩, hid, hdom⟩
  · rintro ⟨o, ho, hid, hdom⟩
    obtain ⟨ho, -⟩ := mem_comparable.mp ho
    refine ⟨o, ho, hid, fun heq => ?_, hdom⟩
    -- the same id is the same solution, which does not dominate itself
    obtain ⟨s, hs, ids, rfl⟩ := mem_evaluateCandidates ho
    obtain ⟨t, ht, ids', rfl⟩ := mem_evaluateCandidates h
    obtain rfl : s = t := List.inj_on_of_nodup_map hnodup hs ht heq
    exact Above.irrefl (dominates_evaluateCandidate.mp hdom)

theorem undominated_iff (hnodup : (input.solutions.map (·.solutionId)).Nodup)
    (h : c ∈ evaluateCandidates input settings) :
    undominated c = true ↔ c.status = .comparable ∧
      UndominatedIn (fun a b => dominates a b = true)
        (comparable (evaluateCandidates input settings)) c := by
  simp only [undominated, Bool.and_eq_true, decide_eq_true_eq, List.length_eq_zero_iff]
  refine and_congr_right fun _ => ?_
  rw [List.eq_nil_iff_forall_not_mem]
  constructor
  · intro hnone o ho hdom
    exact hnone o.solutionId ((mem_dominatedBy hnodup h).mpr ⟨o, ho, rfl, hdom⟩)
  · intro hund id hid
    obtain ⟨o, ho, -, hdom⟩ := (mem_dominatedBy hnodup h).mp hid
    exact hund o ho hdom

/-! ## 4. The optimum -/

/-- `c` satisfies `P` and has the greatest value of `f` among what does. -/
def MaximumAmong (f : CandidateEvaluation → Option ℚ) (P : CandidateEvaluation → Prop)
    (c : CandidateEvaluation) : Prop :=
  P c ∧ ∃ v, f c = some v ∧ ∀ o, P o → ∃ w, f o = some w ∧ w ≤ v

/-- `c` satisfies `P` and has the least value of `f` among what does. -/
def MinimumAmong (f : CandidateEvaluation → Option ℚ) (P : CandidateEvaluation → Prop)
    (c : CandidateEvaluation) : Prop :=
  P c ∧ ∃ v, f c = some v ∧ ∀ o, P o → ∃ w, f o = some w ∧ v ≤ w

/-- The experience of `c` is within the tolerance of the best one in `l`. -/
def WithinTolerance (settings : ProfileSettings) (l : List CandidateEvaluation)
    (c : CandidateEvaluation) : Prop :=
  c ∈ l ∧ ∃ e, c.experienceScore = some e ∧ ∀ o ∈ l, ∃ e', o.experienceScore = some e' ∧
    e' - e ≤ settings.choiceExperienceLossTolerance

/-- What a profile is for. -/
def AttainsObjective (profile : Profile) (settings : ProfileSettings)
    (l : List CandidateEvaluation) (c : CandidateEvaluation) : Prop :=
  match profile with
  | .maximumComfort => MaximumAmong (·.experienceScore) (· ∈ l) c
  | .maximumSavings => MinimumAmong (·.totalCost) (· ∈ l) c ∧
      MaximumAmong (·.experienceScore) (fun o => o ∈ l ∧ o.totalCost = c.totalCost) c
  | .balanced | .savings => MaximumAmong (·.personalUtilityScore) (· ∈ l) c
  | .comfort => MaximumAmong (·.personalUtilityScore) (WithinTolerance settings l) c

section Optimal

variable {a b : CandidateEvaluation} {cost e points cost' e' points' budget : ℚ}
  {rt : Runtime} {profile : Profile}

theorem mem_comparable_scored (h : c ∈ comparable (evaluateCandidates input settings)) :
    ∃ cost e points, Scored settings input.totalBudget c cost e points := by
  obtain ⟨hc, hstatus⟩ := mem_comparable.mp h
  obtain ⟨s, -, ids, rfl⟩ := mem_evaluateCandidates hc
  obtain ⟨cost, e, points, hs⟩ := comparable_scored hstatus
  exact ⟨cost, e, points, hs.1, hs.2, hs.3, hs.4, hs.5⟩

/-- No comparison of a profile prefers what costs no less and has no more experience and no more
    utility. -/
theorem compareChoices_ne_gt (ha : Scored settings budget a cost e points)
    (hb : Scored settings budget b cost' e' points') (hcost : cost ≤ cost') (he : e' ≤ e)
    (hu : round (e' - points') 6 ≤ round (e - points) 6) : compareChoices profile a b ≠ .gt := by
  have hcosts : ascending (·.totalCost) a b ≠ .gt :=
    (ascending_some ha.totalCost hb.totalCost).mpr hcost
  have hexperience : descending (·.experienceScore) a b ≠ .gt :=
    (descending_some ha.experienceScore hb.experienceScore).mpr he
  have hutility : descending (·.personalUtilityScore) a b ≠ .gt :=
    (descending_some ha.personalUtilityScore hb.personalUtilityScore).mpr hu
  cases profile with
  | maximumComfort => exact compareLex_ne_gt.mpr ⟨hexperience, fun _ => hcosts⟩
  | maximumSavings => exact compareLex_ne_gt.mpr ⟨hcosts, fun _ => hexperience⟩
  | comfort | balanced | savings =>
    exact compareLex_ne_gt.mpr ⟨hutility, fun _ => compareLex_ne_gt.mpr
      ⟨hexperience, fun _ => hcosts⟩⟩

/-- The settings under which dominance respects the scores. -/
structure Monotone (input : PolicyInput) (settings : ProfileSettings) : Prop where
  budget : 0 < input.totalBudget
  ids_nodup : (input.solutions.map (·.solutionId)).Nodup
  weights : ∀ d, 0 ≤ settings.dimensionWeights d
  points : 0 ≤ settings.opportunityCostPointsPerBudgetRatio
  tolerance : 0 ≤ settings.choiceExperienceLossTolerance

theorem Monotone.scores (h : Monotone input settings)
    (ha : a ∈ comparable (evaluateCandidates input settings))
    (hb : b ∈ comparable (evaluateCandidates input settings)) (hab : dominates a b = true)
    (sa : Scored settings input.totalBudget a cost e points)
    (sb : Scored settings input.totalBudget b cost' e' points') :
    cost ≤ cost' ∧ e' ≤ e ∧ round (e' - points') 6 ≤ round (e - points) 6 := by
  obtain ⟨s, -, ids, rfl⟩ := mem_evaluateCandidates (mem_comparable.mp ha).1
  obtain ⟨t, -, ids', rfl⟩ := mem_evaluateCandidates (mem_comparable.mp hb).1
  exact (dominates_evaluateCandidate.mp hab).scores_mono h.budget h.weights h.points
    ⟨sa.1, sa.2, sa.3, sa.4, sa.5⟩ ⟨sb.1, sb.2, sb.3, sb.4, sb.5⟩

theorem Monotone.compareChoices (h : Monotone input settings)
    (ha : a ∈ comparable (evaluateCandidates input settings))
    (hb : b ∈ comparable (evaluateCandidates input settings)) (hab : dominates a b = true) :
    compareChoices profile a b ≠ .gt := by
  obtain ⟨cost, e, points, sa⟩ := mem_comparable_scored ha
  obtain ⟨cost', e', points', sb⟩ := mem_comparable_scored hb
  obtain ⟨hcost, he, hu⟩ := h.scores ha hb hab sa sb
  exact compareChoices_ne_gt sa sb hcost he hu

/-- The candidates that `chooseBestChoice` considers, but for the band of `comfort`. -/
theorem mem_eligible (h : Monotone input settings) :
    c ∈ (evaluateCandidates input settings).filter undominated ↔
      c ∈ comparable (evaluateCandidates input settings) ∧
        UndominatedIn (fun a b => dominates a b = true)
          (comparable (evaluateCandidates input settings)) c := by
  rw [List.mem_filter, mem_comparable, and_assoc]
  exact and_congr_right fun hc => undominated_iff h.ids_nodup hc

theorem exists_eligible (h : Monotone input settings)
    (hc : c ∈ comparable (evaluateCandidates input settings)) :
    ∃ u ∈ (evaluateCandidates input settings).filter undominated,
      u = c ∨ dominates u c = true := by
  rcases (strictOn_dominates input settings).exists_undominated hc with hund | ⟨u, hu, hund, huc⟩
  · exact ⟨c, (mem_eligible h).mpr ⟨hc, hund⟩, .inl rfl⟩
  · exact ⟨u, (mem_eligible h).mpr ⟨hu, hund⟩, .inr huc⟩

/-- The band around the best undominated experience is the one around the best of all. -/
theorem mem_experienceBand_eligible (h : Monotone input settings) :
    c ∈ experienceBand settings ((evaluateCandidates input settings).filter undominated) ↔
      c ∈ (evaluateCandidates input settings).filter undominated ∧
        WithinTolerance settings (comparable (evaluateCandidates input settings)) c := by
  rw [mem_experienceBand]
  refine and_congr_right fun hc => ⟨?_, ?_⟩
  · rintro ⟨e, he, hmax⟩
    refine ⟨((mem_eligible h).mp hc).1, e, he, fun o ho => ?_⟩
    obtain ⟨cost', e', points', so⟩ := mem_comparable_scored ho
    refine ⟨e', so.experienceScore, ?_⟩
    obtain ⟨u, hu, rfl | huo⟩ := exists_eligible h ho
    · have := hmax u hu e' so.experienceScore
      linarith
    · have hucomparable := ((mem_eligible h).mp hu).1
      obtain ⟨cost'', e'', points'', su⟩ := mem_comparable_scored hucomparable
      have := hmax u hu e'' su.experienceScore
      have := (h.scores hucomparable ho huo su so).2.1
      linarith
  · rintro ⟨-, e, he, hbest⟩
    refine ⟨e, he, fun o ho e' he' => ?_⟩
    obtain ⟨e'', he'', hle⟩ := hbest o ((mem_eligible h).mp ho).1
    obtain rfl : e' = e'' := Option.some.inj (he'.symm.trans he'')
    linarith

/-- What comes first among the undominated candidates of the band has the greatest utility of the
    whole band. -/
theorem comfort_optimal (h : Monotone input settings)
    (hc : c ∈ experienceBand settings ((evaluateCandidates input settings).filter undominated))
    (hfirst : ∀ b ∈ experienceBand settings
      ((evaluateCandidates input settings).filter undominated),
        Policy.compareChoices .comfort c b ≠ .gt) :
    AttainsObjective .comfort settings (comparable (evaluateCandidates input settings)) c := by
  obtain ⟨heligible, hwithin⟩ := (mem_experienceBand_eligible h).mp hc
  obtain ⟨cost, e, points, sc⟩ := mem_comparable_scored hwithin.1
  refine ⟨hwithin, _, sc.personalUtilityScore, fun o ho => ?_⟩
  obtain ⟨cost', e', points', so⟩ := mem_comparable_scored ho.1
  refine ⟨_, so.personalUtilityScore, ?_⟩
  suffices hle : Policy.compareChoices .comfort c o ≠ .gt from
    (descending_some sc.personalUtilityScore so.personalUtilityScore).mp (compareLex_ne_gt.mp hle).1
  obtain ⟨u, hu, rfl | huo⟩ := exists_eligible h ho.1
  · exact hfirst u ((mem_experienceBand_eligible h).mpr ⟨hu, ho⟩)
  -- a dominating candidate has no less experience, so it is in the band as well
  have hucomparable := ((mem_eligible h).mp hu).1
  obtain ⟨cost'', e'', points'', su⟩ := mem_comparable_scored hucomparable
  have huwithin : WithinTolerance settings (comparable (evaluateCandidates input settings)) u := by
    have hle' := (h.scores hucomparable ho.1 huo su so).2.1
    obtain ⟨-, eo, heo, hbest⟩ := ho
    refine ⟨hucomparable, e'', su.experienceScore, fun b hb => ?_⟩
    obtain ⟨eb, heb, hle⟩ := hbest b hb
    obtain rfl : e' = eo := Option.some.inj (so.experienceScore.symm.trans heo)
    exact ⟨eb, heb, by linarith⟩
  exact IsTrans.trans (r := fun a b => Policy.compareChoices .comfort a b ≠ .gt) _ _ _
    (hfirst u ((mem_experienceBand_eligible h).mpr ⟨hu, huwithin⟩))
    (h.compareChoices hucomparable ho.1 huo)

/-- What comes before every comparable candidate attains the objective. -/
theorem attainsObjective_of_first (hprofile : profile ≠ .comfort)
    (hc : c ∈ comparable (evaluateCandidates input settings))
    (hfirst : ∀ b ∈ comparable (evaluateCandidates input settings),
      Policy.compareChoices profile c b ≠ .gt) :
    AttainsObjective profile settings (comparable (evaluateCandidates input settings)) c := by
  obtain ⟨cost, e, points, sc⟩ := mem_comparable_scored hc
  have hutility : ∀ o ∈ comparable (evaluateCandidates input settings),
      descending (·.personalUtilityScore) c o ≠ .gt →
        ∃ w, o.personalUtilityScore = some w ∧ w ≤ round (e - points) 6 := by
    intro o ho hle
    obtain ⟨cost', e', points', so⟩ := mem_comparable_scored ho
    exact ⟨_, so.personalUtilityScore,
      (descending_some sc.personalUtilityScore so.personalUtilityScore).mp hle⟩
  have hexperience : ∀ o ∈ comparable (evaluateCandidates input settings),
      descending (·.experienceScore) c o ≠ .gt → ∃ w, o.experienceScore = some w ∧ w ≤ e := by
    intro o ho hle
    obtain ⟨cost', e', points', so⟩ := mem_comparable_scored ho
    exact ⟨_, so.experienceScore, (descending_some sc.experienceScore so.experienceScore).mp hle⟩
  cases profile with
  | comfort => exact absurd rfl hprofile
  | balanced | savings =>
    exact ⟨hc, _, sc.personalUtilityScore, fun o ho =>
      hutility o ho (compareLex_ne_gt.mp (hfirst o ho)).1⟩
  | maximumComfort =>
    exact ⟨hc, _, sc.experienceScore, fun o ho =>
      hexperience o ho (compareLex_ne_gt.mp (hfirst o ho)).1⟩
  | maximumSavings =>
    refine ⟨⟨hc, _, sc.totalCost, fun o ho => ?_⟩, ⟨hc, rfl⟩, _, sc.experienceScore, fun o ho => ?_⟩
    · obtain ⟨cost', e', points', so⟩ := mem_comparable_scored ho
      exact ⟨_, so.totalCost, (ascending_some sc.totalCost so.totalCost).mp
        (compareLex_ne_gt.mp (hfirst o ho)).1⟩
    · refine hexperience o ho.1 ((compareLex_ne_gt.mp (hfirst o ho.1)).2 ?_)
      have hself : ascending (·.totalCost) c o = ascending (·.totalCost) c c := by
        simp only [ascending, ho.2]
      exact hself.trans Std.ReflCmp.compare_self

theorem chooseBestChoice_eq_none (h : Monotone input settings) (rt : Runtime) (profile : Profile) :
    chooseBestChoice rt (evaluateCandidates input settings) profile settings = none ↔
      comparable (evaluateCandidates input settings) = [] := by
  simp only [chooseBestChoice]
  constructor
  · intro hnone
    split at hnone
    · next hempty =>
      refine List.eq_nil_iff_forall_not_mem.mpr fun c hc => ?_
      obtain ⟨u, hu, -⟩ := exists_eligible h hc
      exact absurd (List.length_eq_zero_iff.mp hempty) (List.ne_nil_of_mem hu)
    · cases hnone
  · intro hempty
    rw [if_pos]
    refine List.length_eq_zero_iff.mpr (List.eq_nil_iff_forall_not_mem.mpr fun u hu => ?_)
    simpa [hempty] using ((mem_eligible h).mp hu).1

/-- Some undominated candidate has the best experience, so the band is not empty. -/
theorem experienceBand_ne_nil (h : Monotone input settings)
    (hne : (evaluateCandidates input settings).filter undominated ≠ []) :
    experienceBand settings ((evaluateCandidates input settings).filter undominated) ≠ [] := by
  obtain ⟨u, hu⟩ := exists_head_sortBy (descending (·.experienceScore)) hne
  have hmem := mem_sortBy.mp (List.mem_of_mem_head? hu)
  obtain ⟨cost, e, points, su⟩ := mem_comparable_scored ((mem_eligible h).mp hmem).1
  refine List.ne_nil_of_mem (mem_experienceBand.mpr ⟨hmem, e, su.experienceScore, ?_⟩)
  intro o ho e' he'
  have hle := (descending_some su.experienceScore he').mp (head_sortBy_le hu ho)
  linarith [h.tolerance]

/-- The best choice has leaders, and each of them attains the objective. -/
theorem chooseBestChoice_leaders (h : Monotone input settings)
    {resolution : TieResolution CandidateEvaluation}
    (hchoice : chooseBestChoice rt (evaluateCandidates input settings) profile settings =
      some resolution) :
    resolution.leaders ≠ [] ∧ ∀ c ∈ resolution.leaders,
      c ∈ comparable (evaluateCandidates input settings) ∧
      UndominatedIn (fun a b => dominates a b = true)
        (comparable (evaluateCandidates input settings)) c ∧
      AttainsObjective profile settings (comparable (evaluateCandidates input settings)) c := by
  simp only [chooseBestChoice] at hchoice
  split at hchoice
  · cases hchoice
  next hlength =>
  have hne : (evaluateCandidates input settings).filter undominated ≠ [] :=
    fun hnil => hlength (by rw [hnil]; rfl)
  simp only [Option.some.injEq] at hchoice
  subst hchoice
  by_cases hcomfort : profile = .comfort
  · subst hcomfort
    simp only [if_true]
    refine ⟨leaders_ne_nil (experienceBand_ne_nil h hne), fun c hc => ?_⟩
    obtain ⟨hband, hfirst⟩ := mem_leaders.mp hc
    obtain ⟨hcomparable, hund⟩ :=
      (mem_eligible h).mp ((mem_experienceBand_eligible h).mp hband).1
    exact ⟨hcomparable, hund, comfort_optimal h hband hfirst⟩
  · simp only [if_neg hcomfort]
    refine ⟨leaders_ne_nil hne, fun c hc => ?_⟩
    obtain ⟨heligible, hfirst⟩ := mem_leaders.mp hc
    obtain ⟨hcomparable, hund⟩ := (mem_eligible h).mp heligible
    refine ⟨hcomparable, hund, attainsObjective_of_first hcomfort hcomparable ?_⟩
    have hmono : ∀ a ∈ comparable (evaluateCandidates input settings),
        ∀ b ∈ comparable (evaluateCandidates input settings), dominates a b = true →
          Policy.compareChoices profile a b ≠ .gt :=
      fun a ha b hb hab => h.compareChoices ha hb hab
    exact (strictOn_dominates input settings).optimum_of_undominated hmono
      fun u hu hundominated => hfirst u ((mem_eligible h).mpr ⟨hu, hundominated⟩)

theorem chooseBestChoice_representative {candidates : List CandidateEvaluation}
    {resolution : TieResolution CandidateEvaluation}
    (hchoice : chooseBestChoice rt candidates profile settings = some resolution) :
    (∀ c, resolution.presentationRepresentative = some c → c ∈ resolution.leaders) ∧
    (resolution.classification = .decisionallyDistinct →
      resolution.presentationRepresentative = resolution.leaders.head?) := by
  simp only [chooseBestChoice] at hchoice
  split at hchoice
  · cases hchoice
  · simp only [Option.some.injEq] at hchoice
    subst hchoice
    exact representative_spec

/-- The ids of the best choice are those of leaders. -/
theorem bestChoice_ids {resolution : TieResolution CandidateEvaluation}
    {candidates : List CandidateEvaluation} (hne : resolution.leaders ≠ [])
    (hids : ∀ c ∈ resolution.leaders, 0 < (JsText.trim c.solutionId).length)
    (hrep : ∀ c, resolution.presentationRepresentative = some c → c ∈ resolution.leaders)
    (hdistinct : resolution.classification = .decisionallyDistinct →
      resolution.presentationRepresentative = resolution.leaders.head?) {selection : Selection}
    (hselection : selection =
      (createPortfolio rt input settings candidates (some resolution)).bestChoice) :
    selection.status ≠ .abstained ∧ selection.equivalentSolutionIds ≠ [] ∧
    (∀ id ∈ selection.equivalentSolutionIds, ∃ c ∈ resolution.leaders, c.solutionId = id) ∧
    ∀ id, selection.solutionId = some id ∨
      selection.presentationRepresentativeSolutionId = some id →
        id ∈ selection.equivalentSolutionIds := by
  obtain ⟨leader, hleader⟩ : ∃ leader, resolution.leaders.head? = some leader := by
    cases hhead : resolution.leaders with
    | nil => exact absurd hhead hne
    | cons leader rest => exact ⟨leader, rfl⟩
  have hleaderMem : leader ∈ resolution.leaders := List.mem_of_mem_head? hleader
  cases hclass : resolution.classification with
  | decisionallyDistinct =>
    have hselected : resolution.selected = some leader := by
      simp [TieResolution.selected, hdistinct hclass, hleader]
    subst hselection
    simp only [createPortfolio, hselected, hclass, choiceRole, distinctChoice]
    exact ⟨by simp, by simp, by simpa using ⟨leader, hleaderMem, rfl⟩, by simp⟩
  | decisionallyEquivalent =>
    have hequivalent : selection = equivalentChoice input.profile resolution := by
      obtain ⟨choice, hchoice⟩ : ∃ choice, resolution.selected = some choice := by
        cases hpresented : resolution.presentationRepresentative with
        | none => exact ⟨leader, by simp [TieResolution.selected, hpresented, hleader]⟩
        | some c => exact ⟨c, by simp [TieResolution.selected, hpresented]⟩
      simp only [hselection, createPortfolio, hchoice, hclass, choiceRole]
    subst hequivalent
    have hmem : ∀ c ∈ resolution.leaders,
        c.solutionId ∈ uniqueSortedTexts (resolution.leaders.map (·.solutionId)) :=
      fun c hc => mem_uniqueSortedTexts.mpr ⟨List.mem_map_of_mem hc, hids c hc⟩
    refine ⟨by simp [equivalentChoice], List.ne_nil_of_mem (hmem leader hleaderMem), ?_, ?_⟩
    · intro id hid
      obtain ⟨hid, -⟩ := mem_uniqueSortedTexts.mp hid
      simpa using hid
    · rintro id (hid | hid)
      · cases hid
      · obtain ⟨c, hc, rfl⟩ := Option.map_eq_some_iff.mp hid
        exact hmem c (hrep c hc)

end Optimal

/-- What the dominance and the best choice of a result amount to. -/
structure OptimumKept (result : PolicyResult) : Prop where
  strict : StrictOn (fun a b => dominates a b = true) (comparable result.candidates)
  listed : ∀ c ∈ comparable result.candidates, ∀ id, id ∈ c.dominatedBySolutionIds ↔
    ∃ o ∈ comparable result.candidates, o.solutionId = id ∧ dominates o c = true
  covered : ∀ c ∈ comparable result.candidates, c.dominatedBySolutionIds ≠ [] →
    ∃ u ∈ comparable result.candidates, u.dominatedBySolutionIds = [] ∧ dominates u c = true
  abstained : result.bestChoice.status = .abstained ↔ comparable result.candidates = []
  chosen : comparable result.candidates ≠ [] → result.bestChoice.equivalentSolutionIds ≠ []
  members : ∀ id, result.bestChoice.solutionId = some id ∨
    result.bestChoice.presentationRepresentativeSolutionId = some id →
      id ∈ result.bestChoice.equivalentSolutionIds
  optimal : ∀ id ∈ result.bestChoice.equivalentSolutionIds,
    ∃ c ∈ comparable result.candidates, c.solutionId = id ∧ c.dominatedBySolutionIds = [] ∧
      AttainsObjective result.profile result.profileSettings (comparable result.candidates) c

theorem Accepted.monotone (h : Accepted input) (rt : Runtime) :
    Monotone (canonicalInput rt input) (cloneSettings input.profile input.nights) where
  budget := h.budget_pos
  ids_nodup := (canonicalInput_ids rt input).nodup_iff.mpr h.ids_nodup
  weights := cloneSettings_weights_nonneg _ _
  points := cloneSettings_points_nonneg _ _
  tolerance := cloneSettings_tolerance_nonneg _ _

theorem Accepted.id_pos (h : Accepted input) {rt : Runtime}
    (hc : c ∈ evaluateCandidates (canonicalInput rt input) settings) :
    0 < (JsText.trim c.solutionId).length := by
  obtain ⟨s, hs, ids, rfl⟩ := mem_evaluateCandidates hc
  obtain ⟨t, ht, rfl⟩ := List.mem_map.mp (mem_sortBy.mp hs)
  exact Nat.pos_of_ne_zero (h.valid t ht).id_ne

/-- The best choice of a result: none without comparable candidates, else leaders that attain
    the objective. -/
theorem bestChoice_spec (h : Monotone input settings) (rt : Runtime) (profile : Profile)
    (hids : ∀ c ∈ evaluateCandidates input settings, 0 < (JsText.trim c.solutionId).length)
    {selection : Selection}
    (hselection : selection = (createPortfolio rt input settings (evaluateCandidates input settings)
      (chooseBestChoice rt (evaluateCandidates input settings) profile settings)).bestChoice) :
    (selection.status = .abstained ↔ comparable (evaluateCandidates input settings) = []) ∧
    (comparable (evaluateCandidates input settings) ≠ [] → selection.equivalentSolutionIds ≠ []) ∧
    (∀ id, selection.solutionId = some id ∨
      selection.presentationRepresentativeSolutionId = some id →
        id ∈ selection.equivalentSolutionIds) ∧
    ∀ id ∈ selection.equivalentSolutionIds,
      ∃ c ∈ comparable (evaluateCandidates input settings), c.solutionId = id ∧
        UndominatedIn (fun a b => dominates a b = true)
          (comparable (evaluateCandidates input settings)) c ∧
        AttainsObjective profile settings (comparable (evaluateCandidates input settings)) c := by
  cases hchoice : chooseBestChoice rt (evaluateCandidates input settings) profile settings with
  | none =>
    have hempty := (chooseBestChoice_eq_none h rt profile).mp hchoice
    rw [hchoice] at hselection
    subst hselection
    simp [createPortfolio, unavailableRole, hempty]
  | some resolution =>
    have hne : comparable (evaluateCandidates input settings) ≠ [] := fun hempty => by
      have hnone := (chooseBestChoice_eq_none h rt profile).mpr hempty
      simp [hchoice] at hnone
    obtain ⟨hleaders, hoptimal⟩ := chooseBestChoice_leaders h hchoice
    obtain ⟨hrep, hdistinct⟩ := chooseBestChoice_representative hchoice
    rw [hchoice] at hselection
    obtain ⟨hstatus, hequivalent, hmembers, hnamed⟩ := bestChoice_ids hleaders
      (fun c hc => hids c (mem_comparable.mp (hoptimal c hc).1).1) hrep hdistinct hselection
    refine ⟨by simp [hstatus, hne], fun _ => hequivalent, hnamed, fun id hid => ?_⟩
    obtain ⟨c, hc, hcid⟩ := hmembers id hid
    exact ⟨c, (hoptimal c hc).1, hcid, (hoptimal c hc).2⟩

/-- **The optimum is kept.** Whatever the policy accepts, dominance is a strict order on the
    comparable candidates, every dominated one has an undominated one above it, the best choice
    abstains only without comparable candidates, and what it names is undominated and attains
    the objective of the profile among all comparable candidates. -/
theorem bestChoice_optimal {rt : Runtime} {result : PolicyResult}
    (h : runPersonalUtilityRolePolicy rt input = .ok result) :
    OptimumKept result ∧ result.profile = input.profile ∧
      result.profileSettings = cloneSettings input.profile input.nights ∧
      (result.candidates.map (·.solutionId)).Perm (input.solutions.map (·.solutionId)) := by
  obtain ⟨haccepted, rfl⟩ := run_spec.mp h
  have hmono := haccepted.monotone rt
  set canonical := canonicalInput rt input with hcanonical
  set settings := cloneSettings input.profile input.nights with hsettings
  have hlisted : ∀ c ∈ comparable (evaluateCandidates canonical settings), ∀ id,
      id ∈ c.dominatedBySolutionIds ↔ ∃ o ∈ comparable (evaluateCandidates canonical settings),
        o.solutionId = id ∧ dominates o c = true :=
    fun c hc id => mem_dominatedBy hmono.ids_nodup (mem_comparable.mp hc).1
  have hnil : ∀ c ∈ comparable (evaluateCandidates canonical settings),
      UndominatedIn (fun a b => dominates a b = true)
        (comparable (evaluateCandidates canonical settings)) c → c.dominatedBySolutionIds = [] := by
    intro c hc hund
    refine List.eq_nil_iff_forall_not_mem.mpr fun id hid => ?_
    obtain ⟨o, ho, -, hdom⟩ := (hlisted c hc id).mp hid
    exact hund o ho hdom
  have hbest := bestChoice_spec hmono rt input.profile
    (fun c hc => haccepted.id_pos hc) rfl
  refine ⟨⟨strictOn_dominates canonical settings, hlisted, ?_, ?_, ?_, ?_, ?_⟩, rfl, rfl, ?_⟩
  · intro c hc hne
    rcases (strictOn_dominates canonical settings).exists_undominated hc with
      hund | ⟨u, hu, hund, huc⟩
    · exact absurd (hnil c hc hund) hne
    · exact ⟨u, hu, hnil u hu hund, huc⟩
  · exact hbest.1
  · exact hbest.2.1
  · exact hbest.2.2.1
  · intro id hid
    obtain ⟨c, hc, hcid, hund, hattains⟩ := hbest.2.2.2 id hid
    exact ⟨c, hc, hcid, hnil c hc hund, hattains⟩
  · refine List.Perm.trans (List.Perm.of_eq ?_) (canonicalInput_ids rt input)
    simp [createPayload, evaluateCandidates, withDominance, evaluateCandidate, canonical]

/-- A verified stay with one score for every dimension. -/
def stay (solutionId : String) (totalCost score : ℚ) : SolutionInput where
  solutionId
  solutionType := .singleStay
  totalCost := some totalCost
  currency := "EUR"
  hardConstraintsSatisfied := some true
  offerIntegrity := .verified
  dimensions _ := ⟨some score, []⟩

/-- Two stays, of which the second costs more and is worse. -/
def twoStays : PolicyInput where
  caseId := "case"
  profile := .comfort
  totalBudget := 300
  currency := "EUR"
  nights := 3
  solutions := [stay "a" 200 90, stay "b" 250 80]

theorem twoStays_accepted : Accepted twoStays := assertInput_ok.mp (by decide +kernel)

theorem bestChoice_optimal_twoStays : ∃ result,
    runPersonalUtilityRolePolicy plainRuntime twoStays = .ok result ∧ OptimumKept result := by
  have hrun : runPersonalUtilityRolePolicy plainRuntime twoStays = .ok _ :=
    run_spec.mpr ⟨twoStays_accepted, rfl⟩
  exact ⟨_, hrun, (bestChoice_optimal hrun).1⟩

end SmartStay.Policy
