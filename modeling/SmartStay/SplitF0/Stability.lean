import SmartStay.SplitF0.Results

/-!
# Stability across captures

`analyzeSplitF0CrossCaptureStabilityV1` goes through the results of the first capture only. What
only the second one has is never compared.

1. `Differs`, `compareCaptures_ok`: two results are compared alike from both sides.
2. `Lacks`, `Moves`: what the analysis flags.
3. `summarize_ok`: the summaries.
4. `Symmetric`, `symmetric_iff`: the analysis does not depend on the order of the captures exactly
   when each scenario with a pair in only one of them is flagged from both sides.
5. `late_result`: a result that only the second capture has.
-/

namespace SmartStay.SplitF0

open Contract

variable {rt : Runtime} {left right r : ComparisonResult}
  {capture capture1 capture2 : List ComparisonResult}

/-! ## 1. Two results -/

theorem materiallyUnstable_comm (a b : Option ℤ) :
    materiallyUnstableMinorUnits a b = materiallyUnstableMinorUnits b a := by
  cases a with
  | none => cases b <;> rfl
  | some a =>
    cases b with
    | none => rfl
    | some b => simp only [materiallyUnstableMinorUnits, abs_sub_comm a b, min_comm |a| |b|]

/-- An amount of the diagnostic in minor units, when there is one. -/
def matchedMinor (r : ComparisonResult) (amount : MatchedBucketDiagnostic → ℚ) : Option ℤ :=
  r.matchedBucketDiagnostic.map fun d => (amount d * 100).num

/-- One of the six amounts is materially unstable. -/
def Differs (left right : ComparisonResult) : Prop :=
  materiallyUnstableMinorUnits left.singleTotalMinorUnits right.singleTotalMinorUnits = true ∨
  materiallyUnstableMinorUnits left.splitTotalMinorUnits right.splitTotalMinorUnits = true ∨
  materiallyUnstableMinorUnits left.grossSavingMinorUnits right.grossSavingMinorUnits = true ∨
  ∃ amount ∈ [MatchedBucketDiagnostic.singleTotal, (·.splitTotal), (·.grossSavingAmount)],
    materiallyUnstableMinorUnits (matchedMinor left amount) (matchedMinor right amount) = true

theorem differs_comm : Differs left right ↔ Differs right left := by
  have hsymm : ∀ {left right}, Differs left right → Differs right left := by
    intro left right h
    rcases h with h | h | h | ⟨amount, hamount, h⟩ <;> rw [materiallyUnstable_comm] at h
    · exact .inl h
    · exact .inr (.inl h)
    · exact .inr (.inr (.inl h))
    · exact .inr (.inr (.inr ⟨amount, hamount, h⟩))
  exact ⟨hsymm, hsymm⟩

/-- A result or its diagnostic has a flag of its own. -/
def Flagged (r : ComparisonResult) : Prop :=
  r.outlierAssessment.flags ≠ [] ∨ ∃ d ∈ r.matchedBucketDiagnostic, d.outlierAssessment.flags ≠ []

theorem Bare.not_flagged (h : Bare r) : ¬ Flagged r := by
  rintro (hflags | ⟨d, hd, -⟩)
  · exact hflags h.flags
  · rw [h.matched] at hd
    cases hd

theorem Bare.not_differs (hleft : Bare left) (hright : Bare right) : ¬ Differs left right := by
  simp [Differs, matchedMinor, hleft.single, hleft.split, hleft.saving, hleft.matched,
    hright.single, hright.split, hright.saving, hright.matched, materiallyUnstableMinorUnits]

theorem Measured.matchedAmount (h : Measured r) {amount : MatchedBucketDiagnostic → ℚ}
    (hamount : amount ∈
      [MatchedBucketDiagnostic.singleTotal, (·.splitTotal), (·.grossSavingAmount)]) :
    matchedAmount r amount = .ok (matchedMinor r amount) := by
  unfold SplitF0.matchedAmount matchedMinor
  cases hd : r.matchedBucketDiagnostic with
  | none => rfl
  | some d =>
    obtain ⟨hsingle, hsplit, hsaving⟩ := h.matched d hd
    simp only [List.mem_cons, List.not_mem_nil, or_false] at hamount
    rcases hamount with rfl | rfl | rfl
    · exact optionalMoney_ok hsingle
    · exact optionalMoney_ok hsplit
    · exact optionalMoney_ok hsaving

/-- The flags of the diagnostic. -/
def matchedFlags (r : ComparisonResult) : List OutlierFlag :=
  (r.matchedBucketDiagnostic.map (·.outlierAssessment.flags)).getD []

theorem flagged_iff : Flagged r ↔ r.outlierAssessment.flags ≠ [] ∨ matchedFlags r ≠ [] := by
  unfold Flagged matchedFlags
  cases r.matchedBucketDiagnostic <;> simp

theorem Measured.no_crossCapture (h : Measured r) :
    .crossCaptureInstability ∉ r.outlierAssessment.flags ∧
      .crossCaptureInstability ∉ matchedFlags r := by
  refine ⟨h.flags.1, ?_⟩
  unfold matchedFlags
  cases hd : r.matchedBucketDiagnostic with
  | none => exact List.not_mem_nil
  | some d => exact h.flags.2 d hd

/-- What the comparison of two results says. -/
theorem compareCaptures_ok (hleft : Measured left) (hright : Measured right) :
    ∃ c, compareCaptures left right = .ok c ∧ c.scenarioId = left.scenarioId ∧
      (.crossCaptureInstability ∈ c.flags ↔ Differs left right) ∧
      (c.flags = [] ↔ ¬ (Differs left right ∨ Flagged left ∨ Flagged right)) := by
  have hok : ∃ c, compareCaptures left right = .ok c ∧ c.scenarioId = left.scenarioId ∧
      c.flags = uniqueSortedBy (·.text) (left.outlierAssessment.flags ++
        right.outlierAssessment.flags ++ matchedFlags left ++ matchedFlags right ++
        if c.baselineStable && c.splitStable && c.savingStable && c.matchedBucketBaselineStable &&
          c.matchedBucketSplitStable && c.matchedBucketSavingStable then []
        else [.crossCaptureInstability]) ∧
      ((c.baselineStable && c.splitStable && c.savingStable && c.matchedBucketBaselineStable &&
          c.matchedBucketSplitStable && c.matchedBucketSavingStable) = true ↔
        ¬ Differs left right) := by
    unfold compareCaptures
    rw [hleft.matchedAmount (by simp), hright.matchedAmount (by simp),
      hleft.matchedAmount (by simp), hright.matchedAmount (by simp),
      hleft.matchedAmount (by simp), hright.matchedAmount (by simp)]
    refine ⟨_, rfl, rfl, rfl, ?_⟩
    simp [Differs, and_assoc]
  obtain ⟨c, hc, hid, hflags, hstable⟩ := hok
  obtain ⟨hnotLeft, hnotLeft'⟩ := hleft.no_crossCapture
  obtain ⟨hnotRight, hnotRight'⟩ := hright.no_crossCapture
  generalize (c.baselineStable && c.splitStable && c.savingStable &&
    c.matchedBucketBaselineStable && c.matchedBucketSplitStable &&
    c.matchedBucketSavingStable) = stable at hflags hstable
  refine ⟨c, hc, hid, ?_, ?_⟩
  · rw [hflags, mem_uniqueSortedBy]
    cases stable <;> simp_all
  · rw [hflags, uniqueSortedBy_eq_nil, flagged_iff, flagged_iff]
    cases stable <;> simp_all
    tauto

/-! ## 2. What is flagged -/

/-- Scenario and split point of a result. -/
def pair (r : ComparisonResult) : String × String := (r.scenarioId, r.splitPointId)

/-- A result of the scenario in the first list whose key the second one does not have. -/
def Lacks (capture1 capture2 : List ComparisonResult) (scenarioId : String) : Prop :=
  ∃ left ∈ capture1, left.scenarioId = scenarioId ∧
    ∀ right ∈ capture2, comparisonKey right ≠ comparisonKey left

/-- A pair of the scenario in both lists whose results are related. -/
def Meets (related : ComparisonResult → ComparisonResult → Prop)
    (capture1 capture2 : List ComparisonResult) (scenarioId : String) : Prop :=
  ∃ left ∈ capture1, ∃ right ∈ capture2, left.scenarioId = scenarioId ∧ pair left = pair right ∧
    related left right

theorem meets_comm {related : ComparisonResult → ComparisonResult → Prop}
    (hcomm : ∀ {left right}, related left right → related right left) {scenarioId : String}
    (h : Meets related capture1 capture2 scenarioId) :
    Meets related capture2 capture1 scenarioId := by
  obtain ⟨left, hleft, right, hright, rfl, hpair, hrelated⟩ := h
  exact ⟨right, hright, left, hleft, (congrArg Prod.fst hpair).symm, hpair.symm, hcomm hrelated⟩

theorem getByKey_none {key : String} :
    getByKey capture key = none ↔ ∀ r ∈ capture, comparisonKey r ≠ key := by
  simp [getByKey, List.find?_eq_none]

theorem getByKey_some {key : String} (h : getByKey capture key = some r) :
    r ∈ capture ∧ comparisonKey r = key := by
  unfold getByKey at h
  exact ⟨List.mem_reverse.mp (List.mem_of_find?_eq_some h), by simpa using List.find?_some h⟩

/-- Two results under one key have one pair, or neither has amounts and flags. -/
theorem pair_or_bare (hleft : Measured left) (hright : Measured right)
    (hkey : comparisonKey left = comparisonKey right) :
    pair left = pair right ∨ Bare left ∧ Bare right := by
  rcases hleft.named with hbareLeft | ⟨hscenario, hpoint⟩
  · rcases hright.named with hbareRight | ⟨hscenario, hpoint⟩
    · exact .inr ⟨hbareLeft, hbareRight⟩
    · obtain ⟨hscenario, hpoint⟩ := key_inj hscenario hpoint hkey.symm
      exact .inl (Prod.ext hscenario.symm hpoint.symm)
  · obtain ⟨hscenario, hpoint⟩ := key_inj hscenario hpoint hkey
    exact .inl (Prod.ext hscenario hpoint)

/-- What is found under the key of a result is related to it exactly when the result with its pair
    is. -/
theorem related_found_iff {related : ComparisonResult → ComparisonResult → Prop}
    (hbare : ∀ {left right}, Bare left → Bare right → ¬ related left right)
    (hmeasured : ∀ r ∈ capture, Measured r) (hpairs : (capture.map pair).Nodup)
    (hleft : Measured left) :
    (∃ right, getByKey capture (comparisonKey left) = some right ∧ related left right) ↔
      ∃ right ∈ capture, pair left = pair right ∧ related left right := by
  constructor
  · rintro ⟨right, hfound, hrelated⟩
    obtain ⟨hmem, hkey⟩ := getByKey_some hfound
    refine ⟨right, hmem, ?_, hrelated⟩
    rcases pair_or_bare hleft (hmeasured right hmem) hkey.symm with hpair | ⟨hl, hr⟩
    · exact hpair
    · exact absurd hrelated (hbare hl hr)
  · rintro ⟨right, hmem, hpair, hrelated⟩
    have hkey : comparisonKey right = comparisonKey left := by
      obtain ⟨hscenario, hpoint⟩ := Prod.ext_iff.mp hpair
      exact congrArg₂ (fun scenario point => scenario ++ "|" ++ point) hscenario.symm hpoint.symm
    cases hfound : getByKey capture (comparisonKey left) with
    | none => exact absurd hkey (getByKey_none.mp hfound right hmem)
    | some found =>
      obtain ⟨hmem', hkey'⟩ := getByKey_some hfound
      refine ⟨found, rfl, ?_⟩
      have hsame : pair right = pair found → related left found := by
        intro hsame
        rwa [← List.inj_on_of_nodup_map hpairs hmem hmem' hsame]
      rcases pair_or_bare hleft (hmeasured found hmem') hkey'.symm with hfoundPair | ⟨hbareLeft, -⟩
      · exact hsame (hpair.symm.trans hfoundPair)
      · rcases pair_or_bare (hmeasured right hmem) (hmeasured found hmem')
          (hkey.trans hkey'.symm) with hrightPair | ⟨hbareRight, -⟩
        · exact hsame hrightPair
        · exact absurd hrelated (hbare hbareLeft hbareRight)

/-- A scenario is flagged for a relation when the other list lacks one of its keys, or has one of
    its pairs with a related result. -/
def Marks (related : ComparisonResult → ComparisonResult → Prop)
    (capture1 capture2 : List ComparisonResult) (scenarioId : String) : Prop :=
  Lacks capture1 capture2 scenarioId ∨ Meets related capture1 capture2 scenarioId

theorem exists_flagged_iff {related : ComparisonResult → ComparisonResult → Prop}
    (hbare : ∀ {left right}, Bare left → Bare right → ¬ related left right)
    (hmeasured1 : ∀ r ∈ capture1, Measured r) (hmeasured2 : ∀ r ∈ capture2, Measured r)
    (hpairs : (capture2.map pair).Nodup) {scenarioId : String} :
    (∃ left ∈ capture1, left.scenarioId = scenarioId ∧
      (getByKey capture2 (comparisonKey left) = none ∨
        ∃ right, getByKey capture2 (comparisonKey left) = some right ∧ related left right)) ↔
      Marks related capture1 capture2 scenarioId := by
  constructor
  · rintro ⟨left, hmem, hid, hnone | hsome⟩
    · exact .inl ⟨left, hmem, hid, getByKey_none.mp hnone⟩
    · obtain ⟨right, hright, hpair, hrelated⟩ :=
        (related_found_iff hbare hmeasured2 hpairs (hmeasured1 left hmem)).mp hsome
      exact .inr ⟨left, hmem, right, hright, hid, hpair, hrelated⟩
  · rintro (⟨left, hmem, hid, hlacks⟩ | ⟨left, hmem, right, hright, hid, hpair, hrelated⟩)
    · exact ⟨left, hmem, hid, .inl (getByKey_none.mpr hlacks)⟩
    · exact ⟨left, hmem, hid, .inr ((related_found_iff hbare hmeasured2 hpairs
        (hmeasured1 left hmem)).mpr ⟨right, hright, hpair, hrelated⟩)⟩

/-- The relation of results that one comparison puts into quarantine. -/
def Suspect (left right : ComparisonResult) : Prop :=
  Differs left right ∨ Flagged left ∨ Flagged right

theorem suspect_comm (h : Suspect left right) : Suspect right left := by
  rcases h with h | h | h
  · exact .inl (differs_comm.mp h)
  · exact .inr (.inr h)
  · exact .inr (.inl h)

theorem Bare.not_suspect (hleft : Bare left) (hright : Bare right) : ¬ Suspect left right := by
  rintro (h | h | h)
  · exact hleft.not_differs hright h
  · exact hleft.not_flagged h
  · exact hright.not_flagged h

theorem compareWith_ok (hmeasured2 : ∀ r ∈ capture2, Measured r) (hleft : Measured left) :
    ∃ c, compareWith capture2 left = .ok c ∧ c.scenarioId = left.scenarioId ∧
      (.crossCaptureInstability ∈ c.flags ↔ getByKey capture2 (comparisonKey left) = none ∨
        ∃ right, getByKey capture2 (comparisonKey left) = some right ∧ Differs left right) ∧
      (c.flags ≠ [] ↔ getByKey capture2 (comparisonKey left) = none ∨
        ∃ right, getByKey capture2 (comparisonKey left) = some right ∧ Suspect left right) := by
  unfold compareWith
  cases hfound : getByKey capture2 (comparisonKey left) with
  | none => exact ⟨_, rfl, rfl, by simp [unmatched], by simp [unmatched]⟩
  | some right =>
    obtain ⟨c, hc, hid, hunstable, hflags⟩ :=
      compareCaptures_ok hleft (hmeasured2 right (getByKey_some hfound).1)
    refine ⟨c, hc, hid, ?_, ?_⟩
    · rw [hunstable]
      simp
    · rw [ne_eq, hflags, not_not]
      simp [Suspect]

/-- The comparisons of two captures flag and quarantine the marked scenarios. -/
theorem comparisons_ok (hmeasured1 : ∀ r ∈ capture1, Measured r)
    (hmeasured2 : ∀ r ∈ capture2, Measured r) (hpairs : (capture2.map pair).Nodup) :
    ∃ comparisons, capture1.mapM (compareWith capture2) = .ok comparisons ∧
      (∀ id, id ∈ unstableScenarioIds comparisons ↔ Marks Differs capture1 capture2 id) ∧
      ∀ id, id ∈ quarantinedScenarioIds comparisons ↔ Marks Suspect capture1 capture2 id := by
  have : Nonempty CrossCaptureComparison :=
    ⟨"", "", true, true, true, true, true, true, [], .none⟩
  choose! compared hok hid hunstable hflags using fun left hmem =>
    compareWith_ok hmeasured2 (hmeasured1 left hmem)
  refine ⟨capture1.map compared, Fallible.mapM_eq_ok hok, fun id => ?_, fun id => ?_⟩
  · rw [← exists_flagged_iff Bare.not_differs hmeasured1 hmeasured2 hpairs]
    simp only [unstableScenarioIds, mem_uniqueSorted, List.mem_map, List.mem_filter,
      List.contains_iff_mem]
    constructor
    · rintro ⟨c, ⟨⟨left, hmem, rfl⟩, hcross⟩, rfl⟩
      exact ⟨left, hmem, (hid left hmem).symm, (hunstable left hmem).mp hcross⟩
    · rintro ⟨left, hmem, rfl, hmark⟩
      exact ⟨_, ⟨⟨left, hmem, rfl⟩, (hunstable left hmem).mpr hmark⟩, hid left hmem⟩
  · rw [← exists_flagged_iff Bare.not_suspect hmeasured1 hmeasured2 hpairs]
    simp only [quarantinedScenarioIds, mem_uniqueSorted, List.mem_map, List.mem_filter,
      decide_eq_true_eq, List.length_pos_iff]
    constructor
    · rintro ⟨c, ⟨⟨left, hmem, rfl⟩, hne⟩, rfl⟩
      exact ⟨left, hmem, (hid left hmem).symm, (hflags left hmem).mp hne⟩
    · rintro ⟨left, hmem, rfl, hmark⟩
      exact ⟨_, ⟨⟨left, hmem, rfl⟩, (hflags left hmem).mpr hmark⟩, hid left hmem⟩

/-! ## 3. Summaries -/

theorem positiveSaving_safe (h : ∀ r ∈ capture, Measured r) :
    ∀ v ∈ positiveSavingMinorUnits capture, |v| ≤ maxSafeInteger := by
  intro v hv
  rw [positiveSavingMinorUnits, List.mem_insertionSort, List.mem_filter, List.mem_filterMap] at hv
  obtain ⟨⟨r, hr, hsaving⟩, -⟩ := hv
  exact (h r hr).saving v hsaving

theorem maximumSaving_ok {values : List ℤ} (h : ∀ v ∈ values, |v| ≤ maxSafeInteger) :
    ∃ amount, maximumSavingAmount values = .ok amount := by
  unfold maximumSavingAmount
  cases hlast : values.getLast? with
  | none => exact ⟨none, rfl⟩
  | some v =>
    have hv := minorUnitsToNumber_ok.mpr ⟨h v (List.mem_of_getLast? hlast), rfl⟩
    exact ⟨some (v / 100), by simp only [hv, Except.map]⟩

theorem medianSaving_ok {values : List ℤ} (h : ∀ v ∈ values, |v| ≤ maxSafeInteger) :
    ∃ amount, medianSavingAmount values = .ok amount := by
  unfold medianSavingAmount
  split
  · exact ⟨none, rfl⟩
  · next hne =>
    obtain ⟨m, hm, hsafe⟩ := medianMinorUnits_ok hne h
    have hnumber := minorUnitsToNumber_ok.mpr ⟨hsafe, rfl⟩
    exact ⟨some (m / 100), by rw [hm]; simp only [bind, Except.bind]; rw [hnumber]; rfl⟩

/-- Maximum and median of the robust savings are those of the robust comparisons alone. -/
def RobustOnly (capture : List ComparisonResult) (quarantined : List String)
    (summary : SavingsSummary) : Prop :=
  ∃ kept, summarizeSplitF0PrimarySavings (capture.filter (isRobust quarantined)) [] = .ok kept ∧
    summary.robustMaximumSaving = kept.rawMaximumSaving ∧
    summary.robustMedianSaving = kept.rawMedianSaving

theorem summarize_ok (h : ∀ r ∈ capture, Measured r) (quarantined : List String) :
    ∃ summary, summarizeSplitF0PrimarySavings capture quarantined = .ok summary := by
  have hrobust : ∀ r ∈ capture.filter (isRobust quarantined), Measured r :=
    fun r hr => h r (List.mem_of_mem_filter hr)
  obtain ⟨_, hraw⟩ := maximumSaving_ok (positiveSaving_safe h)
  obtain ⟨_, hrobustMaximum⟩ := maximumSaving_ok (positiveSaving_safe hrobust)
  obtain ⟨_, hmedian⟩ := medianSaving_ok (positiveSaving_safe h)
  obtain ⟨_, hrobustMedian⟩ := medianSaving_ok (positiveSaving_safe hrobust)
  exact ⟨_, Fallible.bind_ok.mpr ⟨_, hraw, Fallible.bind_ok.mpr ⟨_, hrobustMaximum,
    Fallible.bind_ok.mpr ⟨_, hmedian, Fallible.bind_ok.mpr ⟨_, hrobustMedian, rfl⟩⟩⟩⟩⟩

theorem summarize_robust (h : ∀ r ∈ capture, Measured r) {quarantined : List String}
    {summary : SavingsSummary}
    (hsummary : summarizeSplitF0PrimarySavings capture quarantined = .ok summary) :
    RobustOnly capture quarantined summary := by
  obtain ⟨kept, hkept⟩ := summarize_ok
    (fun r hr => h r (List.mem_of_mem_filter (p := isRobust quarantined) hr)) []
  refine ⟨kept, hkept, ?_⟩
  simp only [summarizeSplitF0PrimarySavings, Fallible.bind_ok] at hsummary hkept
  obtain ⟨_, -, _, hmaximum, _, -, _, hmedian, hsummary⟩ := hsummary
  obtain ⟨_, hmaximum', _, -, _, hmedian', _, -, hkept⟩ := hkept
  cases hsummary
  cases hkept
  exact ⟨Except.ok.inj (hmaximum.symm.trans hmaximum'), Except.ok.inj (hmedian.symm.trans hmedian')⟩

/-! ## 4. The order of the captures -/

/-- A pair of the scenario in the first list that the second one does not have. -/
def OnlyIn (capture1 capture2 : List ComparisonResult) (scenarioId : String) : Prop :=
  ∃ r ∈ capture1, r.scenarioId = scenarioId ∧ pair r ∉ capture2.map pair

/-- Swapping the captures swaps the summaries and changes nothing else, what only one capture has
    is unstable, and what is robust is neither in quarantine nor an outlier. -/
def Symmetric (capture1 capture2 : List ComparisonResult) : Prop :=
  ∃ a b, analyzeSplitF0CrossCaptureStability capture1 capture2 = .ok a ∧
    analyzeSplitF0CrossCaptureStability capture2 capture1 = .ok b ∧
    b.unstableScenarioIds = a.unstableScenarioIds ∧
    b.quarantinedScenarioIds = a.quarantinedScenarioIds ∧
    b.capture1Summary = a.capture2Summary ∧ b.capture2Summary = a.capture1Summary ∧
    (∀ id, OnlyIn capture1 capture2 id ∨ OnlyIn capture2 capture1 id → id ∈ a.unstableScenarioIds) ∧
    RobustOnly capture1 a.quarantinedScenarioIds a.capture1Summary ∧
    RobustOnly capture2 a.quarantinedScenarioIds a.capture2Summary

/-- A scenario with a pair in only one of the captures has a pair in both whose amounts differ, or
    each capture has a key of the scenario that the other lacks. -/
def Balanced (capture1 capture2 : List ComparisonResult) : Prop :=
  ∀ id, OnlyIn capture1 capture2 id ∨ OnlyIn capture2 capture1 id →
    Meets Differs capture1 capture2 id ∨
      Lacks capture1 capture2 id ∧ Lacks capture2 capture1 id

theorem onlyIn_of_lacks {id : String} (h : Lacks capture1 capture2 id) :
    OnlyIn capture1 capture2 id := by
  obtain ⟨left, hleft, hid, hlacks⟩ := h
  refine ⟨left, hleft, hid, fun hmem => ?_⟩
  obtain ⟨right, hright, hpair⟩ := List.mem_map.mp hmem
  obtain ⟨hscenario, hpoint⟩ := Prod.ext_iff.mp hpair
  exact hlacks right hright
    (congrArg₂ (fun scenario point => scenario ++ "|" ++ point) hscenario hpoint)

/-- A missing key of one capture is flagged from both sides. -/
theorem Balanced.of_lacks (h : Balanced capture1 capture2) {id : String}
    (hlacks : Lacks capture1 capture2 id ∨ Lacks capture2 capture1 id) :
    Meets Differs capture1 capture2 id ∨
      Lacks capture1 capture2 id ∧ Lacks capture2 capture1 id :=
  h id (hlacks.imp onlyIn_of_lacks onlyIn_of_lacks)

theorem Balanced.marks_comm (h : Balanced capture1 capture2)
    {related : ComparisonResult → ComparisonResult → Prop}
    (hcomm : ∀ {l r}, related l r → related r l) (hdiffers : ∀ {l r}, Differs l r → related l r)
    {id : String} : Marks related capture2 capture1 id ↔ Marks related capture1 capture2 id := by
  have hrelated : Meets Differs capture1 capture2 id → Meets related capture1 capture2 id := by
    rintro ⟨l, hl, r, hr, hid, hpair, hlr⟩
    exact ⟨l, hl, r, hr, hid, hpair, hdiffers hlr⟩
  constructor
  · rintro (hlacks | hmeets)
    · rcases h.of_lacks (.inr hlacks) with hdiffer | ⟨hlacks', -⟩
      · exact .inr (hrelated hdiffer)
      · exact .inl hlacks'
    · exact .inr (meets_comm hcomm hmeets)
  · rintro (hlacks | hmeets)
    · rcases h.of_lacks (.inl hlacks) with hdiffer | ⟨-, hlacks'⟩
      · exact .inr (meets_comm hcomm (hrelated hdiffer))
      · exact .inl hlacks'
    · exact .inr (meets_comm hcomm hmeets)

theorem analyze_ok (hmeasured1 : ∀ r ∈ capture1, Measured r)
    (hmeasured2 : ∀ r ∈ capture2, Measured r) (hpairs : (capture2.map pair).Nodup) :
    ∃ a, analyzeSplitF0CrossCaptureStability capture1 capture2 = .ok a ∧
      (∀ id, id ∈ a.unstableScenarioIds ↔ Marks Differs capture1 capture2 id) ∧
      (∀ id, id ∈ a.quarantinedScenarioIds ↔ Marks Suspect capture1 capture2 id) ∧
      (∃ texts, a.unstableScenarioIds = uniqueSorted texts) ∧
      (∃ texts, a.quarantinedScenarioIds = uniqueSorted texts) ∧
      summarizeSplitF0PrimarySavings capture1 a.quarantinedScenarioIds = .ok a.capture1Summary ∧
      summarizeSplitF0PrimarySavings capture2 a.quarantinedScenarioIds = .ok a.capture2Summary := by
  obtain ⟨comparisons, hcomparisons, hunstable, hquarantined⟩ :=
    comparisons_ok hmeasured1 hmeasured2 hpairs
  obtain ⟨summary1, h1⟩ := summarize_ok hmeasured1 (quarantinedScenarioIds comparisons)
  obtain ⟨summary2, h2⟩ := summarize_ok hmeasured2 (quarantinedScenarioIds comparisons)
  exact ⟨_, Fallible.bind_ok.mpr ⟨comparisons, hcomparisons, Fallible.bind_ok.mpr
    ⟨summary1, h1, Fallible.bind_ok.mpr ⟨summary2, h2, rfl⟩⟩⟩, hunstable, hquarantined,
    ⟨_, rfl⟩, ⟨_, rfl⟩, h1, h2⟩

theorem eq_of_uniqueSorted {texts texts' values values' : List String}
    (h : values = uniqueSorted texts) (h' : values' = uniqueSorted texts')
    (hmem : ∀ x, x ∈ values ↔ x ∈ values') : values = values' := by
  subst h h'
  exact uniqueSorted_congr fun x => by simpa using hmem x

/-- The analysis of produced results does not depend on the order of the captures exactly when the
    captures are balanced. -/
theorem symmetric_iff (h1 : ∀ r ∈ capture1, Produced rt r) (h2 : ∀ r ∈ capture2, Produced rt r)
    (hpairs1 : (capture1.map pair).Nodup) (hpairs2 : (capture2.map pair).Nodup) :
    Symmetric capture1 capture2 ↔ Balanced capture1 capture2 := by
  have hmeasured1 : ∀ r ∈ capture1, Measured r := fun r hr => (h1 r hr).measured
  have hmeasured2 : ∀ r ∈ capture2, Measured r := fun r hr => (h2 r hr).measured
  obtain ⟨a, ha, hunstable, hquarantined, ⟨_, hunstableEq⟩, ⟨_, hquarantinedEq⟩, ha1, ha2⟩ :=
    analyze_ok hmeasured1 hmeasured2 hpairs2
  obtain ⟨b, hb, hunstable', hquarantined', ⟨_, hunstableEq'⟩, ⟨_, hquarantinedEq'⟩, hb1, hb2⟩ :=
    analyze_ok hmeasured2 hmeasured1 hpairs1
  have hmeets : ∀ {id}, Meets Differs capture2 capture1 id ↔ Meets Differs capture1 capture2 id :=
    fun {id} => ⟨meets_comm differs_comm.mp, meets_comm differs_comm.mp⟩
  constructor
  · rintro ⟨a', b', ha', hb', hsame, -, -, -, honly, -⟩ id hid
    obtain rfl := Except.ok.inj (ha.symm.trans ha')
    obtain rfl := Except.ok.inj (hb.symm.trans hb')
    have hmarks := (hunstable id).mp (honly id hid)
    have hmarks' := (hunstable' id).mp (hsame ▸ honly id hid)
    rcases hmarks with hlacks | hdiffer
    · rcases hmarks' with hlacks' | hdiffer
      · exact .inr ⟨hlacks, hlacks'⟩
      · exact .inl (hmeets.mp hdiffer)
    · exact .inl hdiffer
  · intro hbalanced
    have hsame : b.unstableScenarioIds = a.unstableScenarioIds :=
      eq_of_uniqueSorted hunstableEq' hunstableEq fun scenarioId => by
        rw [hunstable, hunstable', hbalanced.marks_comm differs_comm.mp fun h => h]
    have hsameQuarantined : b.quarantinedScenarioIds = a.quarantinedScenarioIds :=
      eq_of_uniqueSorted hquarantinedEq' hquarantinedEq fun scenarioId => by
        rw [hquarantined, hquarantined', hbalanced.marks_comm suspect_comm .inl]
    rw [hsameQuarantined] at hb1 hb2
    refine ⟨a, b, ha, hb, hsame, hsameQuarantined, Except.ok.inj (hb1.symm.trans ha2),
      Except.ok.inj (hb2.symm.trans ha1), fun id hid => (hunstable id).mpr ?_,
      summarize_robust hmeasured1 ha1, summarize_robust hmeasured2 ha2⟩
    rcases hbalanced id hid with hdiffer | ⟨hlacks, -⟩
    · exact .inr hdiffer
    · exact .inl hlacks

/-! ## 5. A late result -/

/-- The evaluation of the pilot scenario without offers. -/
def emptyInput (splitPointId : String) : EvaluationInput :=
  ⟨pilotScenario, splitPointId, [], none, [], []⟩

theorem exists_late_result : ∃ r, Produced plainRuntime r ∧ r.scenarioId = "lisbon-week" := by
  have hrun : ((evaluateSplitF0EconomicOpportunity plainRuntime (emptyInput "half")).toOption.map
      fun r => decide (r.scenarioId = "lisbon-week")) = some true := by
    decide +kernel
  obtain ⟨r, hr, hid⟩ := Fallible.exists_ok hrun
  exact ⟨r, ⟨_, hr⟩, of_decide_eq_true hid⟩

/-- The theorem for two captures with one result. -/
theorem symmetric_same : ∃ r, Symmetric [r] [r] ↔ Balanced [r] [r] := by
  obtain ⟨r, hr, -⟩ := exists_late_result
  have hproduced : ∀ r' ∈ [r], Produced plainRuntime r' := by simpa using hr
  exact ⟨r, symmetric_iff hproduced hproduced (List.nodup_singleton _) (List.nodup_singleton _)⟩

/-- A result that only the second capture has makes nothing unstable. -/
theorem late_result_unnoticed : ¬ ∀ (rt : Runtime) (capture1 capture2 : List ComparisonResult),
    (∀ r ∈ capture1, Produced rt r) → (∀ r ∈ capture2, Produced rt r) →
      (capture1.map pair).Nodup → (capture2.map pair).Nodup → Symmetric capture1 capture2 := by
  intro h
  obtain ⟨r, hr, -⟩ := exists_late_result
  have hproduced : ∀ r' ∈ [r], Produced plainRuntime r' := by simpa using hr
  obtain ⟨a, _, ha, -, -, -, -, -, honly, -⟩ :=
    h plainRuntime [] [r] (by simp) hproduced List.nodup_nil (List.nodup_singleton _)
  have hnone : a.unstableScenarioIds = [] := by
    simp only [analyzeSplitF0CrossCaptureStability, Fallible.bind_ok] at ha
    obtain ⟨comparisons, hcomparisons, _, -, _, -, ha⟩ := ha
    cases hcomparisons
    cases ha
    rfl
  have hmem := honly r.scenarioId (.inr ⟨r, List.mem_singleton_self r, rfl, by simp⟩)
  rw [hnone] at hmem
  cases hmem

end SmartStay.SplitF0
