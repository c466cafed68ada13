import SmartStay.Policy.TieLaws
import SmartStay.Policy.Neutrality

/-!
# Savings that vanish when they are rounded

`savingRole` of `engine-v3/policy/personalUtilityRolePolicyV3.ts` asks a saving to cost less than the
choice and rounds the difference afterwards.

1. `selected_distinct_iff`, `resolvedRole_spec`: what is selected without a tie.
2. `VanishingSaving`, `exists_first_vanishing`: the best saving is less than the rounding shows.
3. `vanishingSaving_congr`, `mem_evaluateCandidates_canonical`: the order of the solutions does not
   matter.
4. `createPortfolio_cases`: the roles of an input.
-/

namespace SmartStay.Policy

open Contract JsSort

/-! ## 1. Without a tie -/

/-- `a` is in the list and precedes all others of it. -/
def StrictlyFirst {α : Type} (cmp : α → α → Ordering) (l : List α) (a : α) : Prop :=
  a ∈ l ∧ ∀ b ∈ l, b ≠ a → cmp a b = .lt

section Resolution

variable {α : Type} {rt : Runtime} {cmp : α → α → Ordering} {project : α → Json} {l : List α} {a : α}

theorem StrictlyFirst.eq [Std.TransCmp cmp] {b : α} (ha : StrictlyFirst cmp l a)
    (hb : StrictlyFirst cmp l b) : a = b := by
  by_contra hne
  have hab := ha.2 b hb.1 (Ne.symm hne)
  rw [Std.OrientedCmp.gt_of_lt (hb.2 a ha.1 hne)] at hab
  exact nomatch hab

theorem leaders_eq_singleton_iff [Std.TransCmp cmp] (hnodup : l.Nodup) :
    (resolveDecisionTie rt l cmp project).leaders = [a] ↔ StrictlyFirst cmp l a := by
  have hleaders : (resolveDecisionTie rt l cmp project).leaders.Nodup :=
    leaders_perm.nodup_iff.mpr (hnodup.filter _)
  constructor
  · intro hsingle
    obtain ⟨hal, hmin⟩ := mem_leaders.mp (hsingle ▸ List.mem_singleton_self a)
    refine ⟨hal, fun b hb hne => ?_⟩
    cases hcmp : cmp a b with
    | lt => rfl
    | gt => exact absurd hcmp (hmin b hb)
    | eq =>
      -- then `b` is a leader as well
      have hleader : b ∈ (resolveDecisionTie rt l cmp project).leaders := by
        refine mem_leaders.mpr ⟨hb, fun c hc => ?_⟩
        have heq : cmp b a = .eq := Std.OrientedCmp.eq_symm hcmp
        rw [ne_gt_iff_isLE]
        exact Std.TransCmp.isLE_trans (by simp [heq]) (ne_gt_iff_isLE.mp (hmin c hc))
      rw [hsingle, List.mem_singleton] at hleader
      exact absurd hleader hne
  · rintro ⟨hal, hfirst⟩
    refine List.perm_singleton.mp ((List.perm_ext_iff_of_nodup hleaders
      (List.nodup_singleton a)).mpr fun b => ?_)
    rw [mem_leaders, List.mem_singleton]
    constructor
    · rintro ⟨hb, hmin⟩
      by_contra hne
      exact hmin a hal (Std.OrientedCmp.gt_of_lt (hfirst b hb hne))
    · rintro rfl
      refine ⟨hal, fun c hc => ?_⟩
      by_cases hcb : c = b
      · have hself : cmp b b = .eq := Std.ReflCmp.compare_self
        rw [hcb, hself]
        nofun
      · rw [hfirst c hc hcb]
        nofun

theorem selected_distinct_iff [Std.TransCmp cmp] (hnodup : l.Nodup) :
    (resolveDecisionTie rt l cmp project).classification = .decisionallyDistinct ∧
        (resolveDecisionTie rt l cmp project).selected = some a ↔ StrictlyFirst cmp l a := by
  have hsingle : (resolveDecisionTie rt l cmp project).leaders = [a] ↔ StrictlyFirst cmp l a :=
    leaders_eq_singleton_iff hnodup
  have hclass : (resolveDecisionTie rt l cmp project).classification = .decisionallyDistinct ↔
      (resolveDecisionTie rt l cmp project).leaders.length ≤ 1 := classification_iff
  have hselected : (resolveDecisionTie rt l cmp project).leaders.length ≤ 1 →
      (resolveDecisionTie rt l cmp project).selected =
        (resolveDecisionTie rt l cmp project).leaders.head? := fun hlength => by
    rw [TieResolution.selected, representative_spec.2 (hclass.mpr hlength), Option.or_self]
  rw [← hsingle, hclass]
  constructor
  · rintro ⟨hlength, h⟩
    rw [hselected hlength] at h
    rcases hleaders : (resolveDecisionTie rt l cmp project).leaders with _ | ⟨b, _ | ⟨c, rest⟩⟩
    · rw [hleaders] at h
      cases h
    · rw [hleaders] at h
      rw [Option.some.inj h]
    · rw [hleaders, List.length_cons, List.length_cons] at hlength
      omega
  · intro h
    have hlength : (resolveDecisionTie rt l cmp project).leaders.length ≤ 1 := by rw [h]; exact le_refl 1
    rw [hselected hlength, h]
    exact ⟨le_refl 1, rfl⟩

/-- A role is given to what is strictly first, and to nothing else. -/
theorem resolvedRole_spec [Std.TransCmp cmp] (hnodup : l.Nodup) (role : Role)
    (missingCode tiedCode : String) (candidate : α → CandidateEvaluation) (select : α → Selection) :
    (∃ a, StrictlyFirst cmp l a ∧ resolvedRole role missingCode tiedCode candidate select
        (resolveDecisionTie rt l cmp project) = select a) ∨
      (∀ a, ¬ StrictlyFirst cmp l a) ∧
        (resolvedRole role missingCode tiedCode candidate select
          (resolveDecisionTie rt l cmp project)).role = role ∧
        (resolvedRole role missingCode tiedCode candidate select
          (resolveDecisionTie rt l cmp project)).status = .notApplicable := by
  have hfirst : ∀ a, ((resolveDecisionTie rt l cmp project).classification = .decisionallyDistinct ∧
      (resolveDecisionTie rt l cmp project).selected = some a) ↔ StrictlyFirst cmp l a :=
    fun a => selected_distinct_iff hnodup
  unfold resolvedRole
  cases hselected : (resolveDecisionTie rt l cmp project).selected with
  | none =>
    refine .inr ⟨fun a ha => ?_, rfl, rfl⟩
    have := ((hfirst a).mpr ha).2
    rw [hselected] at this
    cases this
  | some a =>
    cases hclass : (resolveDecisionTie rt l cmp project).classification with
    | decisionallyDistinct => exact .inl ⟨a, (hfirst a).mp ⟨hclass, hselected⟩, rfl⟩
    | decisionallyEquivalent =>
      refine .inr ⟨fun b hb => ?_, rfl, rfl⟩
      have := ((hfirst b).mpr hb).1
      rw [hclass] at this
      cases this

end Resolution

/-! ## 2. Savings -/

variable {rt : Runtime} {input : PolicyInput} {settings : ProfileSettings} {profile : Profile}
  {choice c : CandidateEvaluation} {l l' : List CandidateEvaluation}

/-- What `chooseBestChoice` compares. -/
def considered (profile : Profile) (settings : ProfileSettings)
    (candidates : List CandidateEvaluation) : List CandidateEvaluation :=
  if profile = .comfort then experienceBand settings (candidates.filter undominated)
  else candidates.filter undominated

/-- The saving costs so little less than the choice that the difference is rounded to zero. -/
def Vanishes (choice : CandidateEvaluation) (s : Saving) : Prop :=
  ∃ choiceCost cost, choice.totalCost = some choiceCost ∧ s.candidate.totalCost = some cost ∧
    choiceCost - cost < 1 / 2 / 10 ^ 6 - 1 / 2 ^ 52

/-- One candidate is strictly first for the profile, every saving within the tolerances vanishes, and one
of them loses less experience than the others. -/
def VanishingSaving (profile : Profile) (settings : ProfileSettings)
    (candidates : List CandidateEvaluation) : Prop :=
  ∃ choice, StrictlyFirst (compareChoices profile) (considered profile settings candidates) choice ∧
    (∀ s ∈ eligibleSavings settings choice candidates, Vanishes choice s) ∧
    ∃ best ∈ eligibleSavings settings choice candidates,
      ∀ s ∈ eligibleSavings settings choice candidates, s ≠ best →
        best.experienceLoss < s.experienceLoss

theorem saving?_eq_some {s : Saving} (h : saving? choice c = some s) :
    s.candidate = c ∧ ∃ choiceCost cost, choice.totalCost = some choiceCost ∧
      c.totalCost = some cost ∧ cost < choiceCost ∧ s.savingAmount = round (choiceCost - cost) 6 := by
  simp only [saving?, Option.bind_eq_bind, Option.bind_eq_some_iff] at h
  obtain ⟨choiceCost, hchoice, _, _, _, _, cost, hcost, _, _, _, _, h⟩ := h
  split at h
  next htest =>
    obtain rfl := Option.some.inj h
    simp only [Bool.and_eq_true, decide_eq_true_eq] at htest
    exact ⟨rfl, choiceCost, cost, hchoice, hcost, htest.1.2, rfl⟩
  next => cases h

theorem nodup_eligibleSavings (h : (l.map (·.solutionId)).Nodup) :
    (eligibleSavings settings choice l).Nodup := by
  refine List.Nodup.filter _ (List.Nodup.filterMap (fun c c' s hs hs' => ?_) (List.Nodup.of_map _ h))
  exact (candidate_saving? hs).symm.trans (candidate_saving? hs')

theorem nodup_eligibleUpgrades (h : (l.map (·.solutionId)).Nodup) :
    (eligibleUpgrades settings choice l).Nodup := by
  refine List.Nodup.filter _ (List.Nodup.filterMap (fun c c' u hu hu' => ?_) (List.Nodup.of_map _ h))
  exact (candidate_upgrade? hu).symm.trans (candidate_upgrade? hu')

/-- A positive number is rounded to nothing below, or to something positive from, half a unit on. -/
theorem round_pos_iff {x : ℚ} : 0 < round x 6 ↔ 1 / 2 / 10 ^ 6 - 1 / 2 ^ 52 ≤ x := by
  have hpos : (0 : ℚ) < 10 ^ 6 := by norm_num
  have hfloor : 0 < round x 6 ↔ 0 < ⌊(x + 1 / 2 ^ 52) * 10 ^ 6 + 1 / 2⌋ := by
    unfold Contract.round JsNumber.round
    rw [div_pos_iff_of_pos_right hpos, Int.cast_pos]
  rw [hfloor, Int.floor_pos]
  constructor
  · intro h
    linarith
  · intro h
    linarith

theorem savingAmount_spec {s : Saving} (h : s ∈ eligibleSavings settings choice l) :
    0 ≤ s.savingAmount ∧ (s.savingAmount ≤ 0 ↔ Vanishes choice s) := by
  obtain ⟨c, -, hs⟩ := List.mem_filterMap.mp (List.mem_filter.mp h).1
  obtain ⟨rfl, choiceCost, cost, hchoice, hcost, hlt, hamount⟩ := saving?_eq_some hs
  rw [hamount]
  refine ⟨round_nonneg (by linarith) 6, ?_⟩
  rw [← not_lt, round_pos_iff, not_le]
  constructor
  · exact fun hsmall => ⟨choiceCost, cost, hchoice, hcost, hsmall⟩
  · rintro ⟨choiceCost', cost', hchoice', hcost', hsmall⟩
    obtain rfl := Option.some.inj (hchoice.symm.trans hchoice')
    obtain rfl := Option.some.inj (hcost.symm.trans hcost')
    exact hsmall

theorem compareSavings_lt {a b : Saving} : compareSavings a b = .lt ↔
    b.savingAmount < a.savingAmount ∨
      b.savingAmount = a.savingAmount ∧ a.experienceLoss < b.experienceLoss := by
  have hless : descending (fun s : Saving => some s.savingAmount) a b = .lt ↔
      b.savingAmount < a.savingAmount :=
    (compare_lt_iff_lt (α := WithBot ℚ)).trans WithBot.coe_lt_coe
  have hequal : descending (fun s : Saving => some s.savingAmount) a b = .eq ↔
      b.savingAmount = a.savingAmount :=
    (compare_eq_iff_eq (α := WithBot ℚ)).trans WithBot.coe_inj
  have hloss : ascending (fun s : Saving => some s.experienceLoss) a b = .lt ↔
      a.experienceLoss < b.experienceLoss :=
    (compare_lt_iff_lt (α := WithTop ℚ)).trans WithTop.coe_lt_coe
  rw [compareSavings, compareLex, Ordering.then_eq_lt, hless, hequal, hloss]

/-- A saving of nothing is only given if all of them save nothing. -/
theorem exists_first_vanishing :
    (∃ s, StrictlyFirst compareSavings (eligibleSavings settings choice l) s ∧ s.savingAmount ≤ 0) ↔
      (∀ s ∈ eligibleSavings settings choice l, Vanishes choice s) ∧
        ∃ best ∈ eligibleSavings settings choice l,
          ∀ s ∈ eligibleSavings settings choice l, s ≠ best →
            best.experienceLoss < s.experienceLoss := by
  constructor
  · rintro ⟨best, ⟨hbest, hfirst⟩, hzero⟩
    have hothers : ∀ s ∈ eligibleSavings settings choice l, s ≠ best →
        s.savingAmount ≤ 0 ∧ best.experienceLoss < s.experienceLoss := by
      intro s hs hne
      have hnonneg := (savingAmount_spec hs).1
      rcases compareSavings_lt.mp (hfirst s hs hne) with hless | ⟨heq, hloss⟩
      · exact absurd hzero (not_le.mpr (hnonneg.trans_lt hless))
      · exact ⟨heq.trans_le hzero, hloss⟩
    refine ⟨fun s hs => (savingAmount_spec hs).2.mp ?_, best, hbest, fun s hs hne => (hothers s hs hne).2⟩
    by_cases hne : s = best
    · rw [hne]
      exact hzero
    · exact (hothers s hs hne).1
  · rintro ⟨hvanish, best, hbest, hleast⟩
    have hzero : ∀ s ∈ eligibleSavings settings choice l, s.savingAmount = 0 := fun s hs =>
      le_antisymm ((savingAmount_spec hs).2.mpr (hvanish s hs)) (savingAmount_spec hs).1
    refine ⟨best, ⟨hbest, fun s hs hne => compareSavings_lt.mpr (.inr ⟨?_, hleast s hs hne⟩)⟩,
      (hzero best hbest).le⟩
    rw [hzero s hs, hzero best hbest]

theorem vanishingSaving_iff (h : StrictlyFirst (compareChoices profile)
    (considered profile settings l) choice) : VanishingSaving profile settings l ↔
      ∃ s, StrictlyFirst compareSavings (eligibleSavings settings choice l) s ∧
        s.savingAmount ≤ 0 := by
  rw [exists_first_vanishing]
  constructor
  · rintro ⟨choice', hfirst, hvanishing⟩
    obtain rfl := h.eq hfirst
    exact hvanishing
  · exact fun hvanishing => ⟨choice, h, hvanishing⟩

/-! ## 3. The order of the candidates -/

theorem considered_mem_congr (h : ∀ c, c ∈ l ↔ c ∈ l') :
    c ∈ considered profile settings l ↔ c ∈ considered profile settings l' := by
  have hmem : ∀ c, c ∈ l.filter undominated ↔ c ∈ l'.filter undominated := fun c => by
    rw [List.mem_filter, List.mem_filter, h]
  unfold considered
  split
  · rw [mem_experienceBand, mem_experienceBand, hmem]
    simp only [hmem]
  · exact hmem c

theorem vanishingSaving_congr (h : ∀ c, c ∈ l ↔ c ∈ l') :
    VanishingSaving profile settings l ↔ VanishingSaving profile settings l' := by
  have hsavings : ∀ choice s, s ∈ eligibleSavings settings choice l ↔
      s ∈ eligibleSavings settings choice l' := fun choice s => by
    simp only [eligibleSavings, List.mem_filter, List.mem_filterMap, h]
  simp only [VanishingSaving, StrictlyFirst, considered_mem_congr h, hsavings]

/-- Evidence is sorted once and for all. -/
theorem evaluateCandidate_canonical (s : SolutionInput) :
    evaluateCandidate input settings (canonicalSolution s) = evaluateCandidate input settings s := by
  have htexts : ∀ values, uniqueSortedTexts (uniqueSortedTexts values) = uniqueSortedTexts values :=
    fun values => JsText.insertionSort_eq_of_perm ((List.perm_ext_iff_of_nodup (List.nodup_dedup _)
      (List.nodup_dedup _)).mpr fun v => by simp)
  have hcontribution : ∀ d, dimensionContribution settings (canonicalSolution s) d =
      dimensionContribution settings s d := fun d => by
    simp only [dimensionContribution, canonicalSolution, htexts]
    rfl
  simp only [evaluateCandidate, funext hcontribution]
  rfl

theorem mem_evaluateCandidates_canonical (rt : Runtime) (c : CandidateEvaluation) :
    c ∈ evaluateCandidates (canonicalInput rt input) settings ↔
      c ∈ evaluateCandidates input settings := by
  have hperm : ((canonicalInput rt input).solutions.map
      (evaluateCandidate (canonicalInput rt input) settings)).Perm
        (input.solutions.map (evaluateCandidate input settings)) := by
    refine ((sortBy_perm _ _).map _).trans (List.Perm.of_eq ?_)
    rw [List.map_map]
    exact List.map_congr_left fun s _ => evaluateCandidate_canonical s
  have hdominance : ∀ {l l' : List CandidateEvaluation}, l.Perm l' →
      (withDominance l).Perm (withDominance l') := by
    intro l l' h
    unfold withDominance
    refine (h.map _).trans (List.Perm.of_eq (List.map_congr_left fun candidate _ => ?_))
    rw [JsText.insertionSort_eq_of_perm ((h.filter _).map _)]
  exact (hdominance hperm).mem_iff

/-! ## 4. Portfolios -/

/-- The saving is what is strictly first among the savings within the tolerances. -/
theorem savingRole_spec (rt : Runtime) (input : PolicyInput) (settings : ProfileSettings)
    (choice : CandidateEvaluation) (hnodup : (l.map (·.solutionId)).Nodup) :
    (∃ s, StrictlyFirst compareSavings (eligibleSavings settings choice l) s ∧
      savingRole rt choice l input settings = savingSelection rt s input settings) ∨
      (∀ s, ¬ StrictlyFirst compareSavings (eligibleSavings settings choice l) s) ∧
        (savingRole rt choice l input settings).role = .bestSensibleSaving ∧
        (savingRole rt choice l input settings).status = .notApplicable := by
  cases hcomplete : choice.totalCost.isNone || choice.experienceScore.isNone ||
      choice.qualityScore.isNone with
  | false =>
    rw [savingRole_eq hcomplete]
    exact resolvedRole_spec (nodup_eligibleSavings hnodup) _ _ _ _ _
  | true =>
    rw [savingRole, if_pos hcomplete]
    refine .inr ⟨fun s hs => ?_, rfl, rfl⟩
    obtain ⟨c, -, hc⟩ := List.mem_filterMap.mp (List.mem_filter.mp hs.1).1
    simp only [saving?, Option.bind_eq_bind, Option.bind_eq_some_iff] at hc
    obtain ⟨_, hcost, _, hexperience, _, hquality, -⟩ := hc
    rw [hcost, hexperience, hquality] at hcomplete
    cases hcomplete

/-- The upgrade is what is strictly first among the upgrades above the thresholds. -/
theorem upgradeRole_spec (rt : Runtime) (input : PolicyInput) (settings : ProfileSettings)
    (choice : CandidateEvaluation) (hnodup : (l.map (·.solutionId)).Nodup) :
    (∃ u, StrictlyFirst compareUpgrades (eligibleUpgrades settings choice l) u ∧
      upgradeRole rt choice l input settings = upgradeSelection rt u input settings) ∨
      (upgradeRole rt choice l input settings).role = .worthwhileComfortUpgrade ∧
        (upgradeRole rt choice l input settings).status = .notApplicable := by
  cases hcomplete : choice.totalCost.isNone || choice.experienceScore.isNone with
  | false =>
    rw [upgradeRole_eq hcomplete]
    exact (resolvedRole_spec (nodup_eligibleUpgrades hnodup) _ _ _ _ _).imp_right And.right
  | true =>
    rw [upgradeRole, if_pos hcomplete]
    exact .inr ⟨rfl, rfl⟩

theorem eligibleSaving_spec {s : Saving} (h : s ∈ eligibleSavings settings choice l) :
    s.candidate ∈ l ∧ (∃ choiceCost cost, choice.totalCost = some choiceCost ∧
      s.candidate.totalCost = some cost ∧ cost < choiceCost) ∧
      s.qualityLoss ≤ settings.savingQualityLossTolerance ∧
      s.experienceLoss ≤ settings.savingExperienceLossTolerance := by
  obtain ⟨hmem, htolerances⟩ := List.mem_filter.mp h
  obtain ⟨c, hc, hs⟩ := List.mem_filterMap.mp hmem
  rw [Bool.and_eq_true, decide_eq_true_eq, decide_eq_true_eq] at htolerances
  obtain ⟨rfl, choiceCost, cost, hchoice, hcost, hlt, -⟩ := saving?_eq_some hs
  exact ⟨hc, ⟨choiceCost, cost, hchoice, hcost, hlt⟩, htolerances⟩

theorem eligibleUpgrade_spec {u : Upgrade} (h : u ∈ eligibleUpgrades settings choice l) :
    u.candidate ∈ l ∧ (∃ choiceCost cost, choice.totalCost = some choiceCost ∧
      u.candidate.totalCost = some cost ∧ choiceCost < cost) ∧
      (u.upgradePremium = 0 → u.marginalValuePer100 = 0) ∧ 0 ≤ u.upgradePremium ∧
      settings.upgradeMinimumExperienceGain ≤ u.experienceGain ∧
      settings.upgradeMinimumMarginalValuePer100 ≤ u.marginalValuePer100 := by
  obtain ⟨hmem, hthresholds⟩ := List.mem_filter.mp h
  obtain ⟨c, hc, hu⟩ := List.mem_filterMap.mp hmem
  rw [Bool.and_eq_true, decide_eq_true_eq, decide_eq_true_eq] at hthresholds
  simp only [upgrade?, Option.bind_eq_bind, Option.bind_eq_some_iff] at hu
  obtain ⟨choiceCost, hchoice, _, _, cost, hcost, _, _, hu⟩ := hu
  split at hu
  next htest =>
    obtain rfl := Option.some.inj hu
    simp only [Bool.and_eq_true, decide_eq_true_eq] at htest
    exact ⟨hc, ⟨choiceCost, cost, hchoice, hcost, htest.1.2⟩, fun hzero => if_pos hzero,
      round_nonneg (by linarith [htest.1.2]) 6, hthresholds⟩
  next => cases hu

theorem chooseBestChoice_eq (rt : Runtime) (l : List CandidateEvaluation) (profile : Profile)
    (settings : ProfileSettings) : chooseBestChoice rt l profile settings =
      if (l.filter undominated).length = 0 then none
      else some (resolveDecisionTie rt (considered profile settings l) (compareChoices profile)
        candidatePresentationProjection) := rfl

theorem mem_of_considered (h : c ∈ considered profile settings l) :
    c ∈ l ∧ undominated c = true := by
  unfold considered at h
  split at h
  · exact List.mem_filter.mp (mem_experienceBand.mp h).1
  · exact List.mem_filter.mp h

theorem nodup_considered (h : (l.map (·.solutionId)).Nodup) :
    ((considered profile settings l).map (·.solutionId)).Nodup := by
  refine h.sublist (List.Sublist.map _ ?_)
  unfold considered
  split
  · exact List.filter_sublist.trans List.filter_sublist
  · exact List.filter_sublist

/-- The three kinds of results: nothing to choose from, a tie, or a choice. -/
inductive PortfolioCase (rt : Runtime) (input : PolicyInput) (settings : ProfileSettings)
    (candidates : List CandidateEvaluation) : Portfolio → String → Prop
  | abstained (h : ∀ c, ¬ StrictlyFirst (compareChoices input.profile)
      (considered input.profile settings candidates) c) :
      PortfolioCase rt input settings candidates
        ⟨unavailableRole .bestChoice .abstained "choice:no-comparable-option",
          unavailableRole .bestSensibleSaving .abstained "saving:no-best-choice",
          unavailableRole .worthwhileComfortUpgrade .abstained "upgrade:no-best-choice",
          unavailableRole .split .disabled "split:disabled-until-single-stay-maturity"⟩ "abstained"
  | tied (resolution : TieResolution CandidateEvaluation)
      (h : ∀ c, ¬ StrictlyFirst (compareChoices input.profile)
        (considered input.profile settings candidates) c)
      (hresolution : resolution = resolveDecisionTie rt (considered input.profile settings candidates)
        (compareChoices input.profile) candidatePresentationProjection)
      (htied : 2 ≤ resolution.leaders.length) :
      PortfolioCase rt input settings candidates
        ⟨equivalentChoice input.profile resolution,
          unavailableRole .bestSensibleSaving .abstained "saving:no-best-choice",
          unavailableRole .worthwhileComfortUpgrade .abstained "upgrade:no-best-choice",
          unavailableRole .split .disabled "split:disabled-until-single-stay-maturity"⟩
        "decisionally-equivalent"
  | chosen (choice : CandidateEvaluation)
      (h : StrictlyFirst (compareChoices input.profile)
        (considered input.profile settings candidates) choice) :
      PortfolioCase rt input settings candidates
        ⟨distinctChoice rt choice candidates input settings,
          savingRole rt choice candidates input settings,
          upgradeRole rt choice candidates input settings,
          unavailableRole .split .disabled "split:disabled-until-single-stay-maturity"⟩ "usable"

theorem createPayload_cases (rt : Runtime)
    (hmono : Monotone input (cloneSettings input.profile input.nights)) :
    PortfolioCase rt input (cloneSettings input.profile input.nights)
      (evaluateCandidates input (cloneSettings input.profile input.nights))
      (createPayload rt input).portfolio (createPayload rt input).status := by
  set settings := cloneSettings input.profile input.nights with hsettings
  set candidates := evaluateCandidates input settings with hcandidates
  have hnodup : (considered input.profile settings candidates).Nodup :=
    List.Nodup.of_map _ (nodup_considered (by
      rw [hcandidates, ids_evaluateCandidates]
      exact hmono.ids_nodup))
  have hchoice := chooseBestChoice_eq rt candidates input.profile settings
  by_cases hnone : (candidates.filter undominated).length = 0
  · have hempty : ∀ c, ¬ StrictlyFirst (compareChoices input.profile)
        (considered input.profile settings candidates) c := fun c hfirst => by
      obtain ⟨hc, hundominated⟩ := mem_of_considered hfirst.1
      exact List.not_mem_nil
        (List.eq_nil_of_length_eq_zero hnone ▸ List.mem_filter.mpr ⟨hc, hundominated⟩)
    rw [if_pos hnone] at hchoice
    simp only [createPayload, PolicyPayload.portfolio, ← hsettings, ← hcandidates, hchoice]
    exact .abstained hempty
  · obtain ⟨resolution, hresolution⟩ : ∃ r, r = resolveDecisionTie rt
        (considered input.profile settings candidates) (compareChoices input.profile)
        candidatePresentationProjection := ⟨_, rfl⟩
    rw [if_neg hnone, ← hresolution] at hchoice
    have hleaders : resolution.leaders ≠ [] := (chooseBestChoice_leaders hmono hchoice).1
    have hrep := (chooseBestChoice_representative hchoice).2
    have hclass : resolution.classification = .decisionallyDistinct ↔
        resolution.leaders.length ≤ 1 := by rw [hresolution]; exact classification_iff
    have hfirst : ∀ c, (resolution.classification = .decisionallyDistinct ∧
        resolution.selected = some c) ↔ StrictlyFirst (compareChoices input.profile)
          (considered input.profile settings candidates) c := fun c => by
      rw [hresolution]
      exact selected_distinct_iff hnodup
    simp only [createPayload, PolicyPayload.portfolio, ← hsettings, ← hcandidates, hchoice,
      createPortfolio]
    cases hkind : resolution.classification with
    | decisionallyDistinct =>
      obtain ⟨choice, hhead⟩ : ∃ choice, resolution.leaders.head? = some choice := by
        cases hlist : resolution.leaders with
        | nil => exact absurd hlist hleaders
        | cons choice rest => exact ⟨choice, rfl⟩
      have hselected : resolution.selected = some choice := by
        rw [TieResolution.selected, hrep hkind, hhead, Option.or_self]
      simp only [hselected, choiceRole, hkind]
      exact .chosen choice ((hfirst choice).mp ⟨hkind, hselected⟩)
    | decisionallyEquivalent =>
      have hmany : 2 ≤ resolution.leaders.length := by
        by_contra hfew
        rw [hclass.mpr (by omega)] at hkind
        cases hkind
      have hnever : ∀ c, ¬ StrictlyFirst (compareChoices input.profile)
          (considered input.profile settings candidates) c := fun c hc => by
        rw [((hfirst c).mpr hc).1] at hkind
        cases hkind
      cases hselected : resolution.selected with
      | none => exact .tied resolution hnever hresolution hmany
      | some choice =>
        simp only [choiceRole, hkind]
        exact .tied resolution hnever hresolution hmany

end SmartStay.Policy
