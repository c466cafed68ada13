import SmartStay.Lib.Fallible
import SmartStay.SplitF0.Captures

/-!
# What an evaluation returns

The results of `evaluateSplitF0EconomicOpportunityV1` and what is true of all of them.

1. `minorUnitsToNumber_ok`, `medianMinorUnits_ok`: money.
2. `isOpaqueId_no_bar`, `key_inj`: results are named apart by their keys.
3. `Produced`, `Measured`, `Produced.measured`.
4. `pilotScenario`: a valid scenario.
-/

namespace SmartStay.SplitF0

open Contract

variable {rt : Runtime}

/-! ## 1. Money -/

theorem minorUnitsToNumber_ok {m : ℤ} {x : ℚ} :
    minorUnitsToNumber m = .ok x ↔ |m| ≤ maxSafeInteger ∧ x = m / 100 := by
  unfold minorUnitsToNumber splitF0MinorUnitsToMoney
  split
  · next h => simp [Except.map, not_le.mpr h]
  · next h => simp [Except.map, not_lt.mp h, eq_comm]

/-- An amount of a safe number of minor units. -/
def IsMoney (x : ℚ) : Prop := ∃ m : ℤ, |m| ≤ maxSafeInteger ∧ x = m / 100

theorem isMoney_of_ok {m : ℤ} {x : ℚ} (h : minorUnitsToNumber m = .ok x) : IsMoney x :=
  ⟨m, minorUnitsToNumber_ok.mp h⟩

/-- Safe minor units are read back from their amount. -/
theorem moneyToMinorUnits_ok {m : ℤ} (hnonneg : 0 ≤ m) (h : m ≤ maxSafeInteger) :
    splitF0MoneyToMinorUnits (m / 100) = .ok m := by
  have hscale : (m / 100 * 100 : ℚ) = m := div_mul_cancel₀ _ (by norm_num)
  have hsmall : ¬ (10 ^ 21 : ℚ) ≤ m / 100 := by
    have hle : (m : ℚ) ≤ maxSafeInteger := by exact_mod_cast h
    have hmax : (maxSafeInteger : ℚ) < 10 ^ 23 := by norm_num [maxSafeInteger]
    rw [not_le, div_lt_iff₀ (by norm_num)]
    linarith
  have hneg : ¬ (m / 100 : ℚ) < 0 := not_lt.mpr (by positivity)
  unfold splitF0MoneyToMinorUnits
  rw [hscale, if_neg hneg, if_neg (by simpa using hsmall), Rat.num_intCast, if_neg (not_lt.mpr h)]

theorem optionalMoney_ok {x : ℚ} (h : IsMoney x) :
    optionalMoneyMinorUnits (some x) = .ok (some (x * 100).num) := by
  obtain ⟨m, hm, rfl⟩ := h
  have hscale : (m / 100 * 100 : ℚ) = m := div_mul_cancel₀ _ (by norm_num)
  have habs : |(m / 100 : ℚ)| = (|m| : ℤ) / 100 := by
    rw [abs_div, Int.cast_abs, abs_of_pos (show (0 : ℚ) < 100 by norm_num)]
  have hpos : (0 : ℚ) < m / 100 ↔ 0 < m := by
    rw [div_pos_iff_of_pos_right (by norm_num), Int.cast_pos]
  have hneg : (m / 100 : ℚ) < 0 ↔ m < 0 := by
    rw [div_neg_iff]
    norm_num
  rw [optionalMoneyMinorUnits, habs, moneyToMinorUnits_ok (abs_nonneg m) hm, hscale,
    Rat.num_intCast]
  simp only [hpos, hneg, bind, Except.bind, pure, Except.pure, Except.ok.injEq, Option.some.injEq]
  rcases lt_trichotomy m 0 with h | rfl | h
  · rw [if_neg h.not_gt, if_pos h, abs_of_neg h]
    ring
  · rfl
  · rw [if_pos h, abs_of_pos h, mul_one]

/-- The median of safe values is safe. -/
theorem medianMinorUnits_ok {values : List ℤ} (hne : values ≠ [])
    (h : ∀ v ∈ values, |v| ≤ maxSafeInteger) :
    ∃ m, medianMinorUnits values = .ok m ∧ |m| ≤ maxSafeInteger := by
  have hperm := List.perm_insertionSort (· ≤ ·) values
  have hget : ∀ i, |(values.insertionSort (· ≤ ·)).getD i 0| ≤ maxSafeInteger := by
    intro i
    rw [List.getD_eq_getElem?_getD]
    cases hi : (values.insertionSort (· ≤ ·))[i]? with
    | none => exact abs_zero.trans_le (by decide)
    | some v => exact h v (hperm.mem_iff.mp (List.mem_of_getElem? hi))
  unfold medianMinorUnits
  rw [if_neg hne]
  split
  · exact ⟨_, rfl, hget _⟩
  · refine ⟨_, rfl, ?_⟩
    generalize (values.insertionSort (· ≤ ·)).length / 2 = middle
    have hleft := abs_le.mp (hget (middle - 1))
    have hright := abs_le.mp (hget middle)
    generalize (values.insertionSort (· ≤ ·)).getD (middle - 1) 0 = left at hleft ⊢
    generalize (values.insertionSort (· ≤ ·)).getD middle 0 = right at hright ⊢
    have hlow : (-maxSafeInteger * 2 : ℚ) ≤ left + right := by
      exact_mod_cast (by linarith [hleft.1, hright.1] : -maxSafeInteger * 2 ≤ left + right)
    have hhigh : (left + right : ℚ) ≤ maxSafeInteger * 2 := by
      exact_mod_cast (by linarith [hleft.2, hright.2] : left + right ≤ maxSafeInteger * 2)
    rw [abs_le]
    constructor
    · refine Int.le_floor.mpr ?_
      push_cast
      linarith
    · refine Int.lt_add_one_iff.mp (Int.floor_lt.mpr ?_)
      push_cast
      linarith

/-! ## 2. Names -/

theorem isOpaqueId_no_bar {text : String} (h : isOpaqueId text = true) : '|' ∉ text.toList := by
  unfold isOpaqueId at h
  have hstart : isIdStart '|' = false := by decide
  cases htext : text.toList with
  | nil => exact List.not_mem_nil
  | cons first rest =>
    simp only [htext, Bool.and_eq_true] at h
    obtain ⟨⟨⟨hfirst, hrest⟩, -⟩, -⟩ := h
    intro hmem
    rcases List.mem_cons.mp hmem with rfl | hmem
    · rw [hstart] at hfirst
      cases hfirst
    · have hbar := List.all_eq_true.mp hrest '|' hmem
      rw [hstart] at hbar
      simp at hbar

/-- Texts without a bar are read back from their key, whatever else has this key. -/
theorem key_inj {r r' : ComparisonResult} (hscenario : '|' ∉ r.scenarioId.toList)
    (hpoint : '|' ∉ r.splitPointId.toList) (h : comparisonKey r = comparisonKey r') :
    r.scenarioId = r'.scenarioId ∧ r.splitPointId = r'.splitPointId := by
  have hbar : "|".toList = ['|'] := rfl
  have hlist := congrArg String.toList h
  simp only [comparisonKey, String.toList_append, hbar, List.append_assoc, List.singleton_append]
    at hlist
  obtain ⟨hfst, -, hsnd⟩ := (List.append_cons_inj_of_notMem hscenario hpoint).mp hlist
  exact ⟨String.toList_inj.mp hfst, String.toList_inj.mp hsnd⟩

theorem Scenario.Valid.ids {scenario : Scenario} (h : scenario.Valid) :
    isOpaqueId scenario.scenarioId = true ∧
      ∀ point ∈ scenario.splitPoints, isOpaqueId point.splitPointId = true := by
  have hnil := uniqueSorted_eq_nil.mp h
  simp only [List.append_eq_nil_iff, ite_eq_right_iff, List.cons_ne_nil, imp_false, and_assoc]
    at hnil
  obtain ⟨-, hid, -, -, -, -, -, -, hpoints, -⟩ := hnil
  simp only [splitPointsValid, Bool.not_eq_true', Bool.not_eq_false, Bool.and_eq_true,
    List.all_eq_true] at hid hpoints
  exact ⟨hid, fun point hpoint => (hpoints.2 point hpoint).1.1.1⟩

theorem buildSplitF0Segments_ok {scenario : Scenario} {splitPointId : String}
    {segments : Period × Period} (h : buildSplitF0Segments scenario splitPointId = .ok segments) :
    scenario.Valid ∧ ∃ point ∈ scenario.splitPoints, point.splitPointId = splitPointId := by
  obtain ⟨hvalid, h⟩ := Fallible.throwIf_bind_ok.mp h
  refine ⟨not_not.mp hvalid, ?_⟩
  cases hfind : scenario.splitPoints.find? (·.splitPointId = splitPointId) with
  | none =>
    rw [hfind] at h
    cases h
  | some point => exact ⟨point, List.mem_of_find?_eq_some hfind, by
      simpa using List.find?_some hfind⟩

/-! ## 3. Results -/

/-- A result without amounts and flags. -/
structure Bare (r : ComparisonResult) : Prop where
  single : r.singleTotalMinorUnits = none
  split : r.splitTotalMinorUnits = none
  saving : r.grossSavingMinorUnits = none
  matched : r.matchedBucketDiagnostic = none
  flags : r.outlierAssessment.flags = []

/-- What evaluations leave in their results. -/
structure Measured (r : ComparisonResult) : Prop where
  saving : ∀ m ∈ r.grossSavingMinorUnits, |m| ≤ maxSafeInteger
  matched : ∀ d ∈ r.matchedBucketDiagnostic,
    IsMoney d.singleTotal ∧ IsMoney d.splitTotal ∧ IsMoney d.grossSavingAmount
  flags : .crossCaptureInstability ∉ r.outlierAssessment.flags ∧
    ∀ d ∈ r.matchedBucketDiagnostic, .crossCaptureInstability ∉ d.outlierAssessment.flags
  named : Bare r ∨ '|' ∉ r.scenarioId.toList ∧ '|' ∉ r.splitPointId.toList

theorem mem_uniqueSortedBy {α : Type} [DecidableEq α] {text : α → String} {values : List α}
    {x : α} : x ∈ uniqueSortedBy text values ↔ x ∈ values := by
  simp [uniqueSortedBy]

theorem uniqueSortedBy_eq_nil {α : Type} [DecidableEq α] {text : α → String} {values : List α} :
    uniqueSortedBy text values = [] ↔ values = [] := by
  simp only [List.eq_nil_iff_forall_not_mem, mem_uniqueSortedBy]

/-- An assessment of one evaluation does not compare captures. -/
theorem assessLocalOutlier_flags {scenario : Scenario} {baseline : Option FixedSingleBaseline}
    {selected : Option OfferSnapshot} {eligible : List OfferSnapshot} {ratio : Option ℚ}
    {a : OutlierAssessment} (h : assessLocalOutlier rt scenario baseline selected eligible ratio =
      .ok a) : .crossCaptureInstability ∉ a.flags := by
  have hflags : ∀ count percentile selectedMinor medianMinor ratio,
      OutlierFlag.crossCaptureInstability ∉
        outlierFlags count percentile selectedMinor medianMinor ratio := by
    intro count percentile selectedMinor medianMinor ratio hmem
    rw [outlierFlags, mem_uniqueSortedBy, List.mem_append] at hmem
    rcases hmem with hmem | hmem <;> split at hmem <;> simp at hmem
  cases selected with
  | none =>
    cases h
    exact List.not_mem_nil
  | some selected =>
    dsimp only [assessLocalOutlier] at h
    split at h
    · cases h
      exact List.not_mem_nil
    · simp only [Fallible.bind_ok] at h
      obtain ⟨_, -, _, -, _, -, _, -, _, -, h⟩ := h
      cases h
      show _ ∉ if _ then _ else _
      split
      · exact List.not_mem_nil
      · exact hflags _ _ _ _ _

theorem describeMatched_measured {scenario : Scenario} {singles : List OfferSnapshot}
    {baseline : Option FixedSingleBaseline} {selected : Candidate} {d : MatchedBucketDiagnostic}
    (h : describeMatched rt scenario singles baseline selected = .ok d) :
    (IsMoney d.singleTotal ∧ IsMoney d.splitTotal ∧ IsMoney d.grossSavingAmount) ∧
      .crossCaptureInstability ∉ d.outlierAssessment.flags := by
  simp only [describeMatched, Fallible.bind_ok] at h
  obtain ⟨_, hsingle, _, hsplit, _, hsaving, _, hassessment, h⟩ := h
  cases h
  exact ⟨⟨isMoney_of_ok hsingle, isMoney_of_ok hsplit, isMoney_of_ok hsaving⟩,
    assessLocalOutlier_flags hassessment⟩

theorem diagnostic_measured {scenario : Scenario} {segments : Period × Period}
    {singles firsts seconds : List OfferSnapshot} {baseline : Option FixedSingleBaseline}
    {diagnostic : Option MatchedBucketDiagnostic}
    (h : buildMatchedBucketDiagnostic rt scenario segments singles firsts seconds baseline =
      .ok diagnostic) : ∀ d ∈ diagnostic,
    (IsMoney d.singleTotal ∧ IsMoney d.splitTotal ∧ IsMoney d.grossSavingAmount) ∧
      .crossCaptureInstability ∉ d.outlierAssessment.flags := by
  unfold buildMatchedBucketDiagnostic at h
  intro d hd
  split at h
  · cases h
    cases hd
  · next selected hselected =>
    cases hdescribe : describeMatched rt scenario singles baseline selected with
    | error => simp [hdescribe, Except.map] at h
    | ok d' =>
      rw [hdescribe] at h
      cases h
      cases hd
      exact describeMatched_measured hdescribe

theorem noComparableResult_bare (scenarioId splitPointId : String) (issues : List String)
    (technicalValidity : Bool) :
    Bare (noComparableResult scenarioId splitPointId issues technicalValidity none none) :=
  ⟨rfl, rfl, rfl, rfl, rfl⟩

theorem Bare.measured {r : ComparisonResult} (h : Bare r) : Measured r where
  saving m hm := by
    rw [h.saving] at hm
    cases hm
  matched d hd := by
    rw [h.matched] at hd
    cases hd
  flags := by
    rw [h.flags, h.matched]
    exact ⟨List.not_mem_nil, fun _ hd => by cases hd⟩
  named := .inl h

section Segments

variable {input : EvaluationInput} {segments : Period × Period} {r : ComparisonResult}

theorem evaluateSegments_measured
    (hscenario : '|' ∉ input.scenario.scenarioId.toList) (hpoint : '|' ∉ input.splitPointId.toList)
    (h : evaluateSegments rt input segments = .ok r) : Measured r := by
  have hnone : ∀ issues valid baseline diagnostic, (∀ d ∈ diagnostic,
      (IsMoney d.singleTotal ∧ IsMoney d.splitTotal ∧ IsMoney d.grossSavingAmount) ∧
        .crossCaptureInstability ∉ d.outlierAssessment.flags) →
      Measured (noComparableResult input.scenario.scenarioId input.splitPointId issues valid
        baseline diagnostic) := fun _ _ _ _ hdiagnostic =>
    { saving := nofun
      matched := fun d hd => (hdiagnostic d hd).1
      flags := ⟨List.not_mem_nil, fun d hd => (hdiagnostic d hd).2⟩
      named := .inr ⟨hscenario, hpoint⟩ }
  dsimp only [evaluateSegments] at h
  split at h
  · cases h
    exact (noComparableResult_bare ..).measured
  · split at h
    · obtain ⟨diagnostic, hdiagnostic, h⟩ := Fallible.bind_ok.mp h
      cases h
      exact hnone _ _ _ _ (diagnostic_measured hdiagnostic)
    · simp only [Fallible.bind_ok] at h
      obtain ⟨baseline, -, diagnostic, hdiagnostic, h⟩ := h
      unfold compareWithFixed at h
      dsimp only at h
      split at h
      · cases h
        exact hnone _ _ _ _ (diagnostic_measured hdiagnostic)
      · simp only [comparableResult, Fallible.bind_ok] at h
        obtain ⟨assessment, hassessment, _, -, _, -, _, -, _, -, _, hsaving, _, -, _, -, h⟩ := h
        cases h
        refine ⟨?_, fun d hd => (diagnostic_measured hdiagnostic d hd).1,
          ⟨assessLocalOutlier_flags hassessment, fun d hd =>
            (diagnostic_measured hdiagnostic d hd).2⟩, .inr ⟨hscenario, hpoint⟩⟩
        rintro m hm
        cases hm
        exact (minorUnitsToNumber_ok.mp hsaving).1

end Segments

/-- The results of evaluations. -/
def Produced (rt : Runtime) (r : ComparisonResult) : Prop :=
  ∃ input, evaluateSplitF0EconomicOpportunity rt input = .ok r

theorem Produced.measured {r : ComparisonResult} (h : Produced rt r) : Measured r := by
  obtain ⟨input, h⟩ := h
  unfold evaluateSplitF0EconomicOpportunity at h
  split at h
  · cases h
    exact (noComparableResult_bare ..).measured
  · split at h
    · cases h
      exact (noComparableResult_bare ..).measured
    · next segments hsegments =>
      obtain ⟨hvalid, point, hpoint, hid⟩ := buildSplitF0Segments_ok hsegments
      obtain ⟨hscenario, hpoints⟩ := hvalid.ids
      exact evaluateSegments_measured (isOpaqueId_no_bar hscenario)
        (isOpaqueId_no_bar (hid ▸ hpoints point hpoint)) h

/-! ## 4. A valid scenario -/

/-- Seven nights, split after three or after five. -/
def pilotScenario : Scenario where
  schemaVersion := scenarioMatrixVersion
  scenarioId := "lisbon-week"
  purpose := "technical-calibration-and-initial-signal-search"
  destination := ⟨"pt-lisbon", "Lisbon", "PT", 387 / 10, -91 / 10, []⟩
  checkIn := "2026-03-02"
  checkOut := "2026-03-09"
  nights := 7
  currency := "EUR"
  guestNationality := "IT"
  occupancy := ⟨2, [], 1, 0⟩
  constraints := ⟨5, 8, 100⟩
  splitPoints := [⟨"half", 3, "near-half"⟩, ⟨"weekend", 5, "weekly-or-weekend-boundary"⟩]
  providerOfferIdsFrozen := false
  sandboxMarketEvidence := false
  publicRecommendationAllowed := false

theorem pilotScenario_valid : pilotScenario.Valid := by decide +kernel

end SmartStay.SplitF0
