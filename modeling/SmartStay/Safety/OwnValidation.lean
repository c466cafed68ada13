import SmartStay.Lib.Distinct
import SmartStay.Policy.Savings
import SmartStay.Safety.OwnResults

/-!
# The policy's validator on the policy's own results

`validatePersonalUtilityRolePolicyV3` of `engine-v3/policy/personalUtilityRolePolicyV3.ts` asks the
rounded amount of a saving to be positive, which `savingRole` does not. Everything else that it asks
for holds of every result.

1. `candidateOf_own`: the candidates of a result, found by their ids.
2. `noChoiceViolations`, `noUpgradeViolations`.
3. `savingViolations_nil_iff`.
4. `validate_own`, `ownResult_valid_iff`.
-/

namespace SmartStay.Safety

open Contract
open Policy (PolicyInput Monotone Accepted cloneSettings canonicalInput evaluateCandidates createPayload
  resultFingerprint considered compareChoices StrictlyFirst PortfolioCase createPayload_cases
  VanishingSaving eligibleSavings)

/-! ## 1. Candidates -/

/-- What the policy computes from a canonical input, as the validator reads it. -/
def ownResult (rt : Runtime) (input : PolicyInput) : PolicyResult :=
  resultOf ⟨createPayload rt input, resultFingerprint rt (createPayload rt input)⟩

/-- What is known of a canonical input that was accepted. -/
structure OwnInput (input : PolicyInput) : Prop where
  monotone : Monotone input (cloneSettings input.profile input.nights)
  ids : ∀ c ∈ evaluateCandidates input (cloneSettings input.profile input.nights),
    0 < (JsText.trim c.solutionId).length

variable (rt : Runtime) {input : PolicyInput}

theorem ownInput_canonical (h : Accepted input) : OwnInput (canonicalInput rt input) :=
  ⟨h.monotone rt, fun _ hc => h.id_pos hc⟩

theorem OwnInput.nodup (h : OwnInput input) : ((evaluateCandidates input
    (cloneSettings input.profile input.nights)).map (·.solutionId)).Nodup := by
  rw [Policy.ids_evaluateCandidates]
  exact h.monotone.ids_nodup

theorem candidateOf_own (h : OwnInput input) {c : Policy.CandidateEvaluation}
    (hc : c ∈ evaluateCandidates input (cloneSettings input.profile input.nights)) :
    candidateOf (ownResult rt input) (some c.solutionId) = some (evaluationOf c) := by
  have hne : c.solutionId ≠ "" := fun hempty => by
    have hpos := h.ids c hc
    rw [hempty] at hpos
    exact absurd hpos (by decide)
  have hcandidates : (ownResult rt input).candidates =
      (evaluateCandidates input (cloneSettings input.profile input.nights)).map evaluationOf := rfl
  simp only [candidateOf, if_neg hne, hcandidates]
  refine (Distinct.find?_key_iff ?_).mpr ⟨List.mem_reverse.mpr (List.mem_map_of_mem hc), rfl⟩
  rw [← List.map_reverse, List.map_map, List.map_reverse, List.nodup_reverse]
  exact h.nodup

theorem own_portfolio (h : OwnInput input) : ∃ portfolio status,
    PortfolioCase rt input (cloneSettings input.profile input.nights)
      (evaluateCandidates input (cloneSettings input.profile input.nights)) portfolio status ∧
    (ownResult rt input).portfolio = ⟨selectionOf portfolio.bestChoice,
      selectionOf portfolio.bestSensibleSaving, selectionOf portfolio.worthwhileComfortUpgrade,
      selectionOf portfolio.split⟩ ∧
    (ownResult rt input).status = statusOf status :=
  ⟨_, _, createPayload_cases rt h.monotone, rfl, rfl⟩

/-! ## 2. The choice and the upgrade -/

/-- The ids of two or more leaders are two or more ids. -/
theorem two_ids {l : List Policy.CandidateEvaluation} (hnodup : (l.map (·.solutionId)).Nodup)
    (hids : ∀ c ∈ l, 0 < (JsText.trim c.solutionId).length) :
    (Policy.uniqueSortedTexts (l.map (·.solutionId))).length = l.length := by
  have hfilter : (l.map (·.solutionId)).filter (fun id => 0 < (JsText.trim id).length) =
      l.map (·.solutionId) := by
    refine List.filter_eq_self.mpr fun id hid => ?_
    obtain ⟨c, hc, rfl⟩ := List.mem_map.mp hid
    exact decide_eq_true (hids c hc)
  rw [Policy.uniqueSortedTexts, hfilter, Contract.uniqueSorted, List.length_insertionSort,
    hnodup.dedup, List.length_map]

theorem noChoiceViolations (h : OwnInput input) : choiceViolations (ownResult rt input) = [] := by
  obtain ⟨portfolio, status, hcase, hportfolio, hstatus⟩ := own_portfolio rt h
  unfold choiceViolations
  rw [hportfolio, hstatus]
  cases hcase with
  | abstained => rfl
  | tied resolution hnever hresolution htied =>
    have hperm : resolution.leaders.Perm _ := hresolution ▸ Policy.leaders_perm
    have hnodup : (resolution.leaders.map (·.solutionId)).Nodup :=
      (hperm.map _).nodup_iff.mpr
        ((Policy.nodup_considered h.nodup).sublist (List.Sublist.map _ List.filter_sublist))
    have hids : ∀ c ∈ resolution.leaders, 0 < (JsText.trim c.solutionId).length := fun c hc =>
      h.ids c (Policy.mem_of_considered (List.mem_filter.mp (hperm.mem_iff.mp hc)).1).1
    have hlength : (Policy.uniqueSortedTexts (resolution.leaders.map (·.solutionId))).length =
        resolution.leaders.length := two_ids hnodup hids
    refine addIf_eq_nil.mpr ?_
    show decide ((Policy.uniqueSortedTexts (resolution.leaders.map (·.solutionId))).length < 2) = false
    rw [hlength]
    exact decide_eq_false (by omega)
  | chosen choice hfirst =>
    obtain ⟨hc, hundominated⟩ := Policy.mem_of_considered hfirst.1
    rw [Policy.undominated, Bool.and_eq_true, decide_eq_true_eq, decide_eq_true_eq] at hundominated
    have hcandidate := candidateOf_own rt h hc
    refine List.append_eq_nil_iff.mpr ⟨addIf_eq_nil.mpr ?_, addIf_eq_nil.mpr ?_⟩
    · show (!(candidateOf (ownResult rt input) (some choice.solutionId)).any
        fun candidate => candidate.status = .comparable) = false
      rw [hcandidate, Option.any_some, evaluationOf, decide_eq_true hundominated.1]
      rfl
    · show (candidateOf (ownResult rt input) (some choice.solutionId)).any
        (fun candidate => 0 < candidate.dominatedBySolutionIds.length) = false
      rw [hcandidate, Option.any_some, evaluationOf, hundominated.2]
      rfl

theorem le_finite {x y : ℚ} : JsFloat.le (.finite x) (.finite y) = decide (x ≤ y) := by
  rw [Bool.eq_iff_iff]
  simp [JsFloat.le, JsFloat.lt, JsFloat.equals, le_iff_lt_or_eq]

/-- Two known costs, of which the first is lower. -/
theorem notCheaper_of_lt {first second : Option ℚ} {x y : ℚ} (hfirst : first = some x)
    (hsecond : second = some y) (h : x < y) :
    notCheaper (first.map .finite) (second.map .finite) = false := by
  rw [hfirst, hsecond]
  exact le_finite.trans (decide_eq_false (not_le.mpr h))

theorem exceeds_of_le {value bound : ℚ} (h : value ≤ bound) :
    exceeds (some (.finite value)) (some (.finite bound)) = false :=
  decide_eq_false (not_lt.mpr h)

theorem notPositive_finite {value : ℚ} :
    notPositive (some (.finite value)) = decide (value ≤ 0) := le_finite

theorem cloneSettings_threshold_pos (profile : Policy.Profile) (nights : ℚ) :
    0 < (cloneSettings profile nights).upgradeMinimumMarginalValuePer100 := by
  cases profile <;> norm_num [cloneSettings, Policy.profileSettings]

theorem noUpgradeViolations (h : OwnInput input) : upgradeViolations (ownResult rt input) = [] := by
  obtain ⟨portfolio, status, hcase, hportfolio, hstatus⟩ := own_portfolio rt h
  unfold upgradeViolations
  rw [hportfolio]
  refine addIf_eq_nil.mpr ?_
  cases hcase with
  | abstained => rfl
  | tied => rfl
  | chosen choice hfirst =>
    have hc := (Policy.mem_of_considered hfirst.1).1
    rcases Policy.upgradeRole_spec rt input (cloneSettings input.profile input.nights) choice
        h.nodup with ⟨u, hu, hrole⟩ | ⟨-, hrole⟩
    · obtain ⟨hmem, ⟨choiceCost, cost, hchoice, hcost, hlt⟩, hzero, hnonneg, hgain, hvalue⟩ :=
        Policy.eligibleUpgrade_spec hu.1
      have hpremium : 0 < u.upgradePremium := by
        refine hnonneg.lt_of_ne fun heq => ?_
        have hpos := cloneSettings_threshold_pos input.profile input.nights
        rw [hzero heq.symm] at hvalue
        exact absurd hvalue (not_le.mpr hpos)
      have hcheaper : notCheaper (evaluationOf choice).totalCost (evaluationOf u.candidate).totalCost =
          false := notCheaper_of_lt hchoice hcost hlt
      have hbelow : below (some (.finite u.experienceGain))
          (settingsOf (cloneSettings input.profile input.nights)).upgradeMinimumExperienceGain =
            false := decide_eq_false (not_lt.mpr hgain)
      simp only [hrole]
      show (true && ((candidateOf (ownResult rt input) (some u.candidate.solutionId)).isNone ||
        (candidateOf (ownResult rt input) (some choice.solutionId)).isNone ||
        notCheaper ((candidateOf (ownResult rt input) (some choice.solutionId)).bind (·.totalCost))
          ((candidateOf (ownResult rt input) (some u.candidate.solutionId)).bind (·.totalCost)) ||
        notPositive (some (.finite u.upgradePremium)) || false ||
        below (some (.finite u.experienceGain))
          (settingsOf (cloneSettings input.profile input.nights)).upgradeMinimumExperienceGain ||
        exceeds (some (.finite _)) (some (.finite u.marginalValuePer100)))) = false
      rw [candidateOf_own rt h hmem, candidateOf_own rt h hc, Option.bind_some, Option.bind_some,
        notPositive_finite, decide_eq_false (not_le.mpr hpremium), hbelow, exceeds_of_le hvalue]
      simpa using hcheaper
    · simp only [selectionOf, hrole]
      rfl

/-! ## 3. The saving -/

/-- The validator rejects a saving whose amount has been rounded to zero, and no other. -/
theorem savingViolations_nil_iff (h : OwnInput input) :
    savingViolations (ownResult rt input) = [] ↔
      ¬ VanishingSaving input.profile (cloneSettings input.profile input.nights)
        (evaluateCandidates input (cloneSettings input.profile input.nights)) := by
  obtain ⟨portfolio, status, hcase, hportfolio, hstatus⟩ := own_portfolio rt h
  unfold savingViolations
  rw [hportfolio]
  refine addIf_eq_nil.trans ?_
  cases hcase with
  | abstained hnever => exact ⟨fun _ ⟨choice, hchoice, _⟩ => hnever choice hchoice, fun _ => rfl⟩
  | tied _ hnever => exact ⟨fun _ ⟨choice, hchoice, _⟩ => hnever choice hchoice, fun _ => rfl⟩
  | chosen choice hfirst =>
    have hc := (Policy.mem_of_considered hfirst.1).1
    rw [Policy.vanishingSaving_iff hfirst]
    rcases Policy.savingRole_spec rt input (cloneSettings input.profile input.nights) choice
        h.nodup with ⟨s, hs, hrole⟩ | ⟨hnever, -, hrole⟩
    · obtain ⟨hmem, ⟨choiceCost, cost, hchoice, hcost, hlt⟩, hquality, hexperience⟩ :=
        Policy.eligibleSaving_spec hs.1
      have hcheaper : notCheaper (evaluationOf s.candidate).totalCost (evaluationOf choice).totalCost =
          false := notCheaper_of_lt hcost hchoice hlt
      have hamount : (∃ s', StrictlyFirst Policy.compareSavings (eligibleSavings
          (cloneSettings input.profile input.nights) choice (evaluateCandidates input
            (cloneSettings input.profile input.nights))) s' ∧ s'.savingAmount ≤ 0) ↔
              s.savingAmount ≤ 0 :=
        ⟨fun ⟨s', hs', hzero⟩ => hs.eq hs' ▸ hzero, fun hzero => ⟨s, hs, hzero⟩⟩
      rw [hamount]
      simp only [hrole]
      show (true && ((candidateOf (ownResult rt input) (some s.candidate.solutionId)).isNone ||
        (candidateOf (ownResult rt input) (some choice.solutionId)).isNone ||
        notCheaper ((candidateOf (ownResult rt input) (some s.candidate.solutionId)).bind (·.totalCost))
          ((candidateOf (ownResult rt input) (some choice.solutionId)).bind (·.totalCost)) ||
        notPositive (some (.finite s.savingAmount)) ||
        exceeds (some (.finite s.qualityLoss)) (some (.finite _)) ||
        exceeds (some (.finite s.experienceLoss)) (some (.finite _)))) = false ↔ _
      rw [candidateOf_own rt h hmem, candidateOf_own rt h hc, Option.bind_some, Option.bind_some,
        notPositive_finite, exceeds_of_le hquality, exceeds_of_le hexperience, hcheaper]
      simp
    · simp only [selectionOf, hrole]
      exact ⟨fun _ ⟨s, hs, _⟩ => hnever s hs, fun _ => rfl⟩

/-! ## 4. The validator -/

theorem own_ids (h : OwnInput input) : ((ownResult rt input).candidates.map
    (·.solutionId)).eraseDups.length = (ownResult rt input).candidates.length := by
  have hids : (ownResult rt input).candidates.map (·.solutionId) =
      (evaluateCandidates input (cloneSettings input.profile input.nights)).map (·.solutionId) :=
    List.map_map.trans rfl
  have hnodup : ((ownResult rt input).candidates.map (·.solutionId)).Nodup := hids ▸ h.nodup
  have hperm : ((ownResult rt input).candidates.map (·.solutionId)).eraseDups.Perm
      ((ownResult rt input).candidates.map (·.solutionId)) :=
    (List.perm_ext_iff_of_nodup (Distinct.nodup_eraseDups _) hnodup).mpr fun _ => List.mem_eraseDups
  rw [hperm.length_eq, List.length_map]

/-- The roles of every result are its own. -/
theorem own_roles (h : OwnInput input) :
    (ownResult rt input).portfolio.bestChoice.role = .bestChoice ∧
      (ownResult rt input).portfolio.bestSensibleSaving.role = .bestSensibleSaving ∧
      (ownResult rt input).portfolio.worthwhileComfortUpgrade.role = .worthwhileComfortUpgrade ∧
      (ownResult rt input).portfolio.split.role = .split ∧
      (ownResult rt input).portfolio.split.status = .disabled ∧
      (ownResult rt input).portfolio.split.solutionId = none := by
  obtain ⟨portfolio, status, hcase, hportfolio, -⟩ := own_portfolio rt h
  rw [hportfolio]
  cases hcase with
  | abstained => exact ⟨rfl, rfl, rfl, rfl, rfl, rfl⟩
  | tied => exact ⟨rfl, rfl, rfl, rfl, rfl, rfl⟩
  | chosen choice hfirst =>
    refine ⟨rfl, ?_, ?_, rfl, rfl, rfl⟩
    · rcases Policy.savingRole_spec rt input (cloneSettings input.profile input.nights) choice
          h.nodup with ⟨s, -, hrole⟩ | ⟨-, hrole, -⟩
      · exact congrArg Policy.Selection.role hrole
      · exact hrole
    · rcases Policy.upgradeRole_spec rt input (cloneSettings input.profile input.nights) choice
          h.nodup with ⟨u, -, hrole⟩ | ⟨hrole, -⟩
      · exact congrArg Policy.Selection.role hrole
      · exact hrole

theorem statusOf_text {settings : Policy.ProfileSettings} {candidates : List Policy.CandidateEvaluation}
    {portfolio : Policy.Portfolio} {status : String}
    (h : PortfolioCase rt input settings candidates portfolio status) :
    (statusOf status).text = status := by
  cases h <;> rfl

theorem own_fingerprint (h : OwnInput input) :
    fingerprintBinds rt (ownResult rt input).payload
      "stayopti-v3-personal-utility-role-policy-result" (ownResult rt input).fingerprint =
        .ok true :=
  fingerprintBinds_spells rt (payload_spells (statusOf_text rt (createPayload_cases rt h.monotone))) _

/-- The only violation that the validator can report of a result is that of its saving. -/
theorem validate_own (h : OwnInput input) :
    validatePersonalUtilityRolePolicy rt (ownResult rt input) =
      .ok (savingViolations (ownResult rt input)) := by
  obtain ⟨hchoice, hsaving, hupgrade, hsplit, hstatus, hid⟩ := own_roles rt h
  have hcandidates : (ownResult rt input).candidates.flatMap candidateViolations = [] := by
    refine List.flatMap_eq_nil_iff.mpr fun candidate hmem => ?_
    obtain ⟨c, hc, rfl⟩ := List.mem_map.mp hmem
    exact noCandidateViolations hc
  have hconfiguration : (ownResult rt input).policyConfigurationFingerprint =
      Policy.policyConfigurationFingerprint rt := rfl
  have hcounts : countsMatch (ownResult rt input) = true := countsMatch_payload rt input _
  have hfields : namesField commercialFields (ownResult rt input).keys = false :=
    noCommercialField rfl
  rw [validatePersonalUtilityRolePolicy, own_fingerprint rt h]
  refine congrArg Except.ok ?_
  simp only [hchoice, hsaving, hupgrade, hsplit, hstatus, hid, hcandidates, hconfiguration, hcounts,
    hfields, own_ids rt h, noChoiceViolations rt h, noUpgradeViolations rt h]
  simp [addIf, ownResult, resultOf]

/-- **The validator accepts a result if and only if its saving does not vanish.** -/
theorem ownResult_valid_iff {result : Policy.PolicyResult}
    (h : Policy.runPersonalUtilityRolePolicy rt input = .ok result) :
    validatePersonalUtilityRolePolicy rt (resultOf result) = .ok [] ↔
      ¬ VanishingSaving input.profile (cloneSettings input.profile input.nights)
        (evaluateCandidates input (cloneSettings input.profile input.nights)) := by
  obtain ⟨haccepted, rfl⟩ := Policy.run_spec.mp h
  have hown := ownInput_canonical rt haccepted
  have hsaving := savingViolations_nil_iff rt hown
  rw [Policy.vanishingSaving_congr fun c => Policy.mem_evaluateCandidates_canonical rt c] at hsaving
  refine Iff.trans ?_ hsaving
  have hvalidate := validate_own rt hown
  refine (Eq.congr_left hvalidate).trans ?_
  exact ⟨fun h => Except.ok.inj h, fun h => congrArg _ h⟩

/-- A choice that costs 300 and a stay that costs less by a tenth of a millionth. -/
def nearlyEqualStays (solutions : List Policy.SolutionInput) : PolicyInput where
  caseId := "case"
  profile := .maximumComfort
  totalBudget := 400
  currency := "EUR"
  nights := 3
  solutions

def firstStay : Policy.SolutionInput := Policy.stay "a" 300 90

def secondStay : Policy.SolutionInput := Policy.stay "b" (300 - 1 / 10 ^ 7) 88

/-- Two stays without evidence are sorted in one of two ways. -/
theorem canonicalInput_nearlyEqual :
    canonicalInput rt (nearlyEqualStays [firstStay, secondStay]) =
        nearlyEqualStays [firstStay, secondStay] ∨
      canonicalInput rt (nearlyEqualStays [firstStay, secondStay]) =
        nearlyEqualStays [secondStay, firstStay] := by
  have hsort : JsSort.sortBy (Policy.compareSolutions rt) [firstStay, secondStay] =
        [firstStay, secondStay] ∨
      JsSort.sortBy (Policy.compareSolutions rt) [firstStay, secondStay] =
        [secondStay, firstStay] := by
    by_cases hle : Policy.compareSolutions rt firstStay secondStay ≠ .gt
    · exact .inl (by simp [JsSort.sortBy, hle])
    · exact .inr (by simp [JsSort.sortBy, not_not.mp hle])
  exact hsort.imp (congrArg nearlyEqualStays) (congrArg nearlyEqualStays)

theorem nearlyEqualStays_rejected : ∃ result,
    Policy.runPersonalUtilityRolePolicy plainRuntime (nearlyEqualStays [firstStay, secondStay]) =
        .ok result ∧
      validatePersonalUtilityRolePolicy plainRuntime (resultOf result) ≠ .ok [] := by
  have haccepted : Accepted (nearlyEqualStays [firstStay, secondStay]) :=
    Policy.assertInput_ok.mp (by decide +kernel)
  refine ⟨_, Policy.run_spec.mpr ⟨haccepted, rfl⟩, fun h => ?_⟩
  have hvalidate := validate_own plainRuntime (ownInput_canonical plainRuntime haccepted)
  have hnil := Except.ok.inj (hvalidate.symm.trans h)
  have hone : (savingViolations (ownResult plainRuntime
      (canonicalInput plainRuntime (nearlyEqualStays [firstStay, secondStay])))).length = 1 := by
    rcases canonicalInput_nearlyEqual plainRuntime with hcanonical | hcanonical <;>
      rw [hcanonical] <;> decide +kernel
  rw [hnil] at hone
  exact nomatch hone

/-- Costs of 200 and 250 differ by more than the rounding hides. -/
theorem ownResult_valid_twoStays : ∃ result,
    Policy.runPersonalUtilityRolePolicy plainRuntime Policy.twoStays = .ok result ∧
      validatePersonalUtilityRolePolicy plainRuntime (resultOf result) = .ok [] := by
  have hrun : Policy.runPersonalUtilityRolePolicy plainRuntime Policy.twoStays = .ok _ :=
    Policy.run_spec.mpr ⟨Policy.twoStays_accepted, rfl⟩
  refine ⟨_, hrun, (ownResult_valid_iff plainRuntime hrun).mpr ?_⟩
  rintro ⟨choice, hfirst, hvanish, best, hbest, -⟩
  have hcosts : ∀ c ∈ evaluateCandidates Policy.twoStays (cloneSettings .comfort 3),
      c.totalCost = some 200 ∨ c.totalCost = some 250 := fun c hc => by
    obtain ⟨s, hs, ids, rfl⟩ := Policy.mem_evaluateCandidates hc
    rcases List.mem_cons.mp hs with rfl | hs
    · exact .inl rfl
    · rw [List.mem_singleton.mp hs]
      exact .inr rfl
  obtain ⟨x, y, hx, hy, hsmall⟩ := hvanish best hbest
  obtain ⟨hmem, ⟨x', y', hx', hy', hlt⟩, -⟩ := Policy.eligibleSaving_spec hbest
  obtain rfl := Option.some.inj (hx.symm.trans hx')
  obtain rfl := Option.some.inj (hy.symm.trans hy')
  have hchoice := hcosts choice (Policy.mem_of_considered hfirst.1).1
  have hbest := hcosts best.candidate hmem
  rw [hx, Option.some.injEq, Option.some.injEq] at hchoice
  rw [hy, Option.some.injEq, Option.some.injEq] at hbest
  rcases hchoice with rfl | rfl <;> rcases hbest with rfl | rfl <;> linarith

end SmartStay.Safety
