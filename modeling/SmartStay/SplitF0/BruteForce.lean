import SmartStay.SplitF0.Search

/-!
# The search and brute force

What the evaluation chooses, held against all pairs and all triples of offers. Amounts beyond the
safe integers are refused: then the evaluation throws.

1. `exists_number`, `summarize_eligible`, `assess_eligible`: amounts that are never refused.
2. `Cheapest`, `cheapest_head`, `Cheapest.unique`: the fixed single stay.
3. `BestPair`, `best_of_head`: the first candidate.
4. `ExactSearch`, `search_exact`: the evaluation is the search through all offers.
5. `evaluate_affordable`, `evaluate_exact`: it returns when no pair of offers is too dear.
6. `dear_week_refused`: two offers that are too dear together.
-/

namespace SmartStay.SplitF0

open Contract

variable {rt : Runtime} {scenario : Scenario} {segments : Period × Period}
  {input : EvaluationInput} {single : OfferSnapshot} {eligible : List OfferSnapshot}

/-! ## 1. Amounts -/

theorem minorUnitsToMoney_ok {m : ℤ} (h : |m| ≤ maxSafeInteger) :
    ∃ text, splitF0MinorUnitsToMoney m = .ok text := by
  unfold splitF0MinorUnitsToMoney
  rw [if_neg (not_lt.mpr h)]
  exact ⟨_, rfl⟩

theorem exists_number {m : ℤ} (h : |m| ≤ maxSafeInteger) : ∃ x, minorUnitsToNumber m = .ok x :=
  ⟨_, minorUnitsToNumber_ok.mpr ⟨h, rfl⟩⟩

theorem Priced.safe {offer : OfferSnapshot} (h : Priced offer) : |costOf offer| ≤ maxSafeInteger := by
  rw [abs_of_pos h.pos]
  exact h.le

/-- What a safe cost is per night is safe. -/
theorem perNight_safe {m : ℤ} (hm : |m| ≤ maxSafeInteger) {nights : ℚ} (hnights : 1 ≤ nights) :
    |JsNumber.round (m / nights)| ≤ maxSafeInteger := by
  obtain ⟨hlow, hhigh⟩ := abs_le.mp hm
  have hpos : 0 < nights := by linarith
  have hlowQ : (-maxSafeInteger : ℚ) ≤ m := by exact_mod_cast hlow
  have hhighQ : (m : ℚ) ≤ maxSafeInteger := by exact_mod_cast hhigh
  have hmax : (0 : ℚ) ≤ maxSafeInteger := by norm_num [maxSafeInteger]
  rw [abs_le]
  constructor
  · refine Int.le_floor.mpr ?_
    have hdiv : (-maxSafeInteger : ℚ) ≤ m / nights := by
      rw [le_div_iff₀ hpos]
      nlinarith
    push_cast
    linarith
  · refine Int.lt_add_one_iff.mp (Int.floor_lt.mpr ?_)
    have hdiv : (m : ℚ) / nights ≤ maxSafeInteger := by
      rw [div_le_iff₀ hpos]
      nlinarith
    push_cast
    linarith

theorem mapM_costs (h : ∀ o ∈ eligible, Priced o) :
    eligible.mapM (fun o => splitF0MoneyToMinorUnits o.totalCost) = .ok (eligible.map costOf) :=
  Fallible.mapM_eq_ok fun o ho => (h o ho).cost

/-- The median cost of offers with costs is safe. -/
theorem median_costs (hne : eligible ≠ []) (h : ∀ o ∈ eligible, Priced o) :
    ∃ m, medianMinorUnits (eligible.map costOf) = .ok m ∧ |m| ≤ maxSafeInteger := by
  refine medianMinorUnits_ok (by simpa using hne) fun v hv => ?_
  obtain ⟨o, ho, rfl⟩ := List.mem_map.mp hv
  exact (h o ho).safe

theorem Scenario.Valid.nights {scenario : Scenario} (h : scenario.Valid) : 1 ≤ scenario.nights := by
  have hnil := uniqueSorted_eq_nil.mp h
  simp only [List.append_eq_nil_iff, ite_eq_right_iff, List.cons_ne_nil, imp_false, and_assoc]
    at hnil
  obtain ⟨-, -, -, -, hduration, -⟩ := hnil
  have hmem : scenario.nights ∈ supportedDurations := by
    by_contra hnot
    simp [hnot] at hduration
  simp only [supportedDurations, List.mem_cons, List.not_mem_nil, or_false] at hmem
  rcases hmem with h | h | h | h | h | h | h | h <;> rw [h] <;> norm_num

theorem mem_eligible {offers : List OfferSnapshot} {offer : OfferSnapshot} :
    offer ∈ eligibleFixedSingleOffers rt scenario offers ↔
      offer ∈ offers ∧ isEligible rt scenario offer = true := by
  rw [eligibleFixedSingleOffers, JsSort.mem_sortBy, List.mem_filter]

theorem priced_of_mem_eligible {offers : List OfferSnapshot} {offer : OfferSnapshot}
    (h : offer ∈ eligibleFixedSingleOffers rt scenario offers) : Priced offer :=
  priced_of_eligible (mem_eligible.mp h).2

/-- An eligible offer can be summarized. -/
theorem summarize_eligible (hvalid : scenario.Valid) {offers : List OfferSnapshot}
    (hmem : single ∈ eligibleFixedSingleOffers rt scenario offers) :
    ∃ baseline, summarizeFixedBaseline rt scenario offers single = .ok baseline := by
  have hpriced := priced_of_mem_eligible hmem
  obtain ⟨median, hmedian, hmedianSafe⟩ := median_costs (List.ne_nil_of_mem hmem)
    fun o ho => priced_of_mem_eligible ho
  have hperNight := perNight_safe hpriced.safe hvalid.nights
  obtain ⟨_, htotal⟩ := exists_number hpriced.safe
  obtain ⟨_, htotalText⟩ := minorUnitsToMoney_ok hpriced.safe
  obtain ⟨_, hnight⟩ := exists_number hperNight
  obtain ⟨_, hnightText⟩ := minorUnitsToMoney_ok hperNight
  obtain ⟨_, hmedianNumber⟩ := exists_number hmedianSafe
  obtain ⟨_, hmedianText⟩ := minorUnitsToMoney_ok hmedianSafe
  dsimp only [summarizeFixedBaseline]
  cases hindex : (eligibleFixedSingleOffers rt scenario offers).findIdx?
      (·.offerSnapshotId = single.offerSnapshotId) with
  | none => simpa using List.findIdx?_eq_none_iff.mp hindex single hmem
  | some index =>
    exact ⟨_, Fallible.bind_ok.mpr ⟨_, hpriced.cost, Fallible.bind_ok.mpr
      ⟨_, mapM_costs fun o ho => priced_of_mem_eligible ho, Fallible.bind_ok.mpr
      ⟨_, hmedian, Fallible.bind_ok.mpr ⟨_, htotal, Fallible.bind_ok.mpr
      ⟨_, htotalText, Fallible.bind_ok.mpr ⟨_, hnight, Fallible.bind_ok.mpr
      ⟨_, hnightText, Fallible.bind_ok.mpr ⟨_, hmedianNumber, Fallible.bind_ok.mpr
      ⟨_, hmedianText, rfl⟩⟩⟩⟩⟩⟩⟩⟩⟩⟩

/-- A single stay with a cost can be assessed beside eligible ones. -/
theorem assess_eligible (hvalid : scenario.Valid) (hsingle : Priced single)
    (heligible : ∀ o ∈ eligible, Priced o) (baseline : Option FixedSingleBaseline)
    (ratio : Option ℚ) :
    ∃ a, assessLocalOutlier rt scenario baseline (some single) eligible ratio = .ok a := by
  dsimp only [assessLocalOutlier]
  split
  · exact ⟨_, rfl⟩
  · next hne =>
    have hpriced : ∀ o ∈ JsSort.sortBy (compareCosts rt) eligible, Priced o :=
      fun o ho => heligible o (JsSort.mem_sortBy.mp ho)
    have hsorted : JsSort.sortBy (compareCosts rt) eligible ≠ [] := fun hnil =>
      hne (List.Perm.nil_eq (hnil ▸ JsSort.sortBy_perm (compareCosts rt) eligible)).symm
    obtain ⟨median, hmedian, hmedianSafe⟩ := median_costs hsorted hpriced
    obtain ⟨_, hselectedNight⟩ := exists_number (perNight_safe hsingle.safe hvalid.nights)
    obtain ⟨_, hmedianNight⟩ := exists_number (perNight_safe hmedianSafe hvalid.nights)
    exact ⟨_, Fallible.bind_ok.mpr ⟨_, hsingle.cost, Fallible.bind_ok.mpr
      ⟨_, mapM_costs hpriced, Fallible.bind_ok.mpr ⟨_, hmedian, Fallible.bind_ok.mpr
      ⟨_, hselectedNight, Fallible.bind_ok.mpr ⟨_, hmedianNight, rfl⟩⟩⟩⟩⟩⟩

/-! ## 2. The fixed single stay -/

/-- The first of the eligible offers for the whole stay, by their costs and ids. -/
structure Cheapest (rt : Runtime) (scenario : Scenario) (offers : List OfferSnapshot)
    (single : OfferSnapshot) : Prop where
  mem : single ∈ offers
  eligible : isEligible rt scenario single = true
  least : ∀ other ∈ offers, isEligible rt scenario other = true →
    compareCosts rt single other ≠ .gt

theorem cheapest_head (h : LocaleOrder rt) {offers : List OfferSnapshot}
    (hhead : (eligibleFixedSingleOffers rt scenario offers).head? = some single) :
    Cheapest rt scenario offers single := by
  have := transCmp_costs h
  obtain ⟨hmem, heligible⟩ := mem_eligible.mp (List.mem_of_head? hhead)
  exact ⟨hmem, heligible, fun other hother hok =>
    JsSort.head_sortBy_le hhead (List.mem_filter.mpr ⟨hother, hok⟩)⟩

/-- There is one cheapest offer. -/
theorem Cheapest.unique (h : LocaleOrder rt) {offers : List OfferSnapshot}
    (hids : DistinctIds offers) {other : OfferSnapshot}
    (hsingle : Cheapest rt scenario offers single) (hother : Cheapest rt scenario offers other) :
    single = other := by
  have := transCmp_costs h
  have hle := hsingle.least other hother.mem hother.eligible
  have hge := hother.least single hsingle.mem hsingle.eligible
  have hswap : compareCosts rt other single = (compareCosts rt single other).swap :=
    Std.OrientedCmp.eq_swap
  have heq : compareCosts rt single other = .eq := by
    rw [hswap] at hge
    cases hcmp : compareCosts rt single other <;> simp_all
  have hsame := h.eq_of_ids _ _ (priced_of_eligible hsingle.eligible).id
    (priced_of_eligible hother.eligible).id (Ordering.then_eq_eq.mp heq).2
  exact List.inj_on_of_nodup_map hids hsingle.mem hother.mem hsame

theorem exists_cheapest (h : LocaleOrder rt) {offers : List OfferSnapshot}
    (hids : DistinctIds offers) (hsingle : Cheapest rt scenario offers single) :
    (eligibleFixedSingleOffers rt scenario offers).head? = some single := by
  have hmem := mem_eligible.mpr ⟨hsingle.mem, hsingle.eligible⟩
  cases hhead : (eligibleFixedSingleOffers rt scenario offers).head? with
  | none =>
    rw [List.head?_eq_none_iff] at hhead
    rw [hhead] at hmem
    cases hmem
  | some other => rw [(cheapest_head h hhead).unique h hids hsingle]

/-! ## 3. The best pair -/

/-- How well a pair of offers compares with a single stay, if it does. -/
def levelOf (rt : Runtime) (scenario : Scenario) (segments : Period × Period)
    (single : OfferSnapshot) (split : OfferSnapshot × OfferSnapshot) : Option ComparabilityLevel :=
  (classifySplitF0OfferComparability rt scenario segments single split).comparable.map Prod.fst

/-- What a pair of offers saves, in minor units. -/
def savingOf (single : OfferSnapshot) (split : OfferSnapshot × OfferSnapshot) : ℤ :=
  costOf single - (costOf split.1 + costOf split.2)

/-- A pair that saves most of the strictly comparable ones, or else of the conditional ones. -/
structure BestPair (rt : Runtime) (scenario : Scenario) (segments : Period × Period)
    (single : OfferSnapshot) (firsts seconds : List OfferSnapshot)
    (split : OfferSnapshot × OfferSnapshot) (level : ComparabilityLevel) : Prop where
  first : split.1 ∈ firsts
  second : split.2 ∈ seconds
  comparable : levelOf rt scenario segments single split = some level
  strict : level = .strict ∨ ∀ first ∈ firsts, ∀ second ∈ seconds,
    levelOf rt scenario segments single (first, second) ≠ some .strict
  most : ∀ first ∈ firsts, ∀ second ∈ seconds,
    levelOf rt scenario segments single (first, second) = some level →
      savingOf single (first, second) ≤ savingOf single split

/-- A candidate tells what it was made from. -/
structure Candidate.Of (rt : Runtime) (scenario : Scenario) (segments : Period × Period)
    (single : OfferSnapshot) (split : OfferSnapshot × OfferSnapshot) (c : Candidate) : Prop where
  ofSingle : c.single = single
  ofSplit : c.split = split
  level : levelOf rt scenario segments single split = some c.comparabilityLevel
  singleTotal : c.singleTotalMinorUnits = costOf single
  splitTotal : c.splitTotalMinorUnits = costOf split.1 + costOf split.2
  saving : c.grossSavingMinorUnits = savingOf single split

theorem classifyCandidate_of {c : Candidate}
    (h : classifyCandidate rt scenario segments single split = some c) :
    c.Of rt scenario segments single split := by
  rw [classifyCandidate, candidateFromClassification, Option.map_eq_some_iff] at h
  obtain ⟨comparable, hcomparable, rfl⟩ := h
  exact ⟨rfl, rfl, by rw [levelOf, hcomparable]; rfl, rfl, rfl, rfl⟩

theorem exists_candidate {level : ComparabilityLevel}
    (h : levelOf rt scenario segments single split = some level) :
    ∃ c, classifyCandidate rt scenario segments single split = some c := by
  rw [levelOf, Option.map_eq_some_iff] at h
  obtain ⟨comparable, hcomparable, -⟩ := h
  rw [classifyCandidate, candidateFromClassification, hcomparable]
  exact ⟨_, rfl⟩

theorem mem_pairCandidates {c : Candidate} : c ∈ pairCandidates rt input segments single ↔
    ∃ first ∈ input.firstSegmentOffers, ∃ second ∈ input.secondSegmentOffers,
      classifyCandidate rt input.scenario segments single (first, second) = some c := by
  simp only [pairCandidates, offerPairs, List.mem_filterMap, List.mem_flatMap, List.mem_map]
  constructor
  · rintro ⟨pair, ⟨first, hfirst, second, hsecond, rfl⟩, h⟩
    exact ⟨first, hfirst, second, hsecond, h⟩
  · rintro ⟨first, hfirst, second, hsecond, h⟩
    exact ⟨_, ⟨first, hfirst, second, hsecond, rfl⟩, h⟩

/-- Candidates that do not come later are at least as comparable, and save most among equals. -/
theorem sortCandidates_ne_gt {a b : Candidate} (h : sortCandidates rt a b ≠ .gt) :
    a.comparabilityLevel.rank ≤ b.comparabilityLevel.rank ∧
      (a.comparabilityLevel = b.comparabilityLevel →
        b.grossSavingMinorUnits ≤ a.grossSavingMinorUnits) := by
  rw [sortCandidates] at h
  constructor
  · by_contra hlt
    rw [Std.compare_eq_gt.mpr (not_le.mp hlt)] at h
    exact h rfl
  · intro hlevel
    by_contra hlt
    rw [hlevel, compare_eq_iff_eq.mpr rfl, Std.compare_eq_gt.mpr (not_le.mp hlt)] at h
    exact h rfl

/-- The first candidate is of a best pair. -/
theorem best_of_head (h : LocaleOrder rt) {c : Candidate}
    (hhead : (JsSort.sortBy (sortCandidates rt) (pairCandidates rt input segments single)).head? =
      some c) : ∃ split, c.Of rt input.scenario segments single split ∧
        BestPair rt input.scenario segments single input.firstSegmentOffers
          input.secondSegmentOffers split c.comparabilityLevel := by
  have := transCmp_candidates h
  obtain ⟨first, hfirst, second, hsecond, hc⟩ :=
    mem_pairCandidates.mp (JsSort.mem_sortBy.mp (List.mem_of_head? hhead))
  have hof := classifyCandidate_of hc
  have hle : ∀ first' ∈ input.firstSegmentOffers, ∀ second' ∈ input.secondSegmentOffers, ∀ level,
      levelOf rt input.scenario segments single (first', second') = some level →
      c.comparabilityLevel.rank ≤ level.rank ∧ (c.comparabilityLevel = level →
        savingOf single (first', second') ≤ savingOf single (first, second)) := by
    intro first' hfirst' second' hsecond' level hlevel
    obtain ⟨c', hc'⟩ := exists_candidate hlevel
    have hof' := classifyCandidate_of hc'
    have hcmp := sortCandidates_ne_gt (JsSort.head_sortBy_le hhead
      (mem_pairCandidates.mpr ⟨first', hfirst', second', hsecond', hc'⟩))
    have hsame : c'.comparabilityLevel = level := by
      have hsome := hof'.level
      rw [hlevel] at hsome
      exact (Option.some_inj.mp hsome).symm
    rwa [hof.saving, hof'.saving, hsame] at hcmp
  refine ⟨(first, second), hof, hfirst, hsecond, hof.level, ?_, ?_⟩
  · cases hlevel : c.comparabilityLevel with
    | strict => exact .inl rfl
    | conditional =>
      refine .inr fun first' hfirst' second' hsecond' hstrict => ?_
      have hrank := (hle first' hfirst' second' hsecond' _ hstrict).1
      rw [hlevel] at hrank
      exact absurd hrank (by decide)
  · exact fun first' hfirst' second' hsecond' hlevel =>
      (hle first' hfirst' second' hsecond' _ hlevel).2 rfl

/-! ## 4. The search -/

/-- What a result reports of a single stay and a pair of offers. -/
structure Reports (r : ComparisonResult) (single : OfferSnapshot)
    (split : OfferSnapshot × OfferSnapshot) (level : ComparabilityLevel) : Prop where
  level : r.comparabilityLevel = some level
  ofSingle : r.singleOfferSnapshotId = some single.offerSnapshotId
  ofSplit : r.splitOfferSnapshotIds = some (split.1.offerSnapshotId, split.2.offerSnapshotId)
  singleTotal : r.singleTotalMinorUnits = some (costOf single)
  splitTotal : r.splitTotalMinorUnits = some (costOf split.1 + costOf split.2)
  grossSaving : r.grossSavingMinorUnits =
    some (costOf single - (costOf split.1 + costOf split.2))
  frictions : r.frictionSensitivity.map (·.hypotheticalFrictionEur) = frictionSensitivityEur
  netSaving : ∀ f ∈ r.frictionSensitivity, (f.netSavingAtFrictionMinorUnits : ℚ) =
    (costOf single - (costOf split.1 + costOf split.2) : ℤ) - f.hypotheticalFrictionEur * 100

/-- The matched-bucket diagnostic over all triples of offers. -/
def fullDiagnostic (rt : Runtime) (input : EvaluationInput) (segments : Period × Period)
    (baseline : Option FixedSingleBaseline) : Except String (Option MatchedBucketDiagnostic) :=
  match selectMatched rt (allCandidates rt input.scenario segments input.singleStayOffers
    input.firstSegmentOffers input.secondSegmentOffers) with
  | none => .ok none
  | some selected =>
    (describeMatched rt input.scenario input.singleStayOffers baseline selected).map some

/-- The result is that of a search through all pairs and all triples of offers. -/
structure ExactSearch (rt : Runtime) (input : EvaluationInput) (segments : Period × Period)
    (r : ComparisonResult) : Prop where
  comparable : r.comparability = .comparable ↔
    ∃ single, Cheapest rt input.scenario input.singleStayOffers single ∧
      ∃ first ∈ input.firstSegmentOffers, ∃ second ∈ input.secondSegmentOffers,
        (classifySplitF0OfferComparability rt input.scenario segments single
          (first, second)).comparable.isSome = true
  chosen : r.comparability = .comparable → ∃ single split level,
    Cheapest rt input.scenario input.singleStayOffers single ∧
      BestPair rt input.scenario segments single input.firstSegmentOffers
        input.secondSegmentOffers split level ∧ Reports r single split level
  diagnostic : fullDiagnostic rt input segments r.fixedBaseline = .ok r.matchedBucketDiagnostic

theorem buildMatched_eq (baseline : Option FixedSingleBaseline) :
    buildMatchedBucketDiagnostic rt input.scenario segments input.singleStayOffers
        input.firstSegmentOffers input.secondSegmentOffers baseline =
      fullDiagnostic rt input segments baseline := by
  rw [buildMatchedBucketDiagnostic, indexedCandidates_eq]
  rfl

theorem moneyToMinorUnits_friction {friction : ℚ} (h : friction ∈ frictionSensitivityEur) :
    splitF0MoneyToMinorUnits friction = .ok (friction * 100).num ∧
      ((friction * 100).num : ℚ) = friction * 100 ∧ (friction * 100).num ≤ 15000 ∧
        0 ≤ (friction * 100).num := by
  revert friction
  decide +kernel

theorem netSavingAt_ok {saving : ℤ} {friction : ℚ} {f : FrictionSensitivity}
    (hmem : friction ∈ frictionSensitivityEur) (h : netSavingAt saving friction = .ok f) :
    f.hypotheticalFrictionEur = friction ∧
      (f.netSavingAtFrictionMinorUnits : ℚ) = saving - friction * 100 := by
  obtain ⟨hunits, hexact, -⟩ := moneyToMinorUnits_friction hmem
  simp only [netSavingAt, hunits, Fallible.bind_ok] at h
  obtain ⟨_, hok, _, -, _, -, h⟩ := h
  cases hok
  cases h
  exact ⟨rfl, by push_cast; rw [hexact]⟩

theorem frictions_ok {saving : ℤ} {frictions : List FrictionSensitivity}
    (h : frictionSensitivityEur.mapM (netSavingAt saving) = .ok frictions) :
    frictions.map (·.hypotheticalFrictionEur) = frictionSensitivityEur ∧
      ∀ f ∈ frictions, (f.netSavingAtFrictionMinorUnits : ℚ) =
        saving - f.hypotheticalFrictionEur * 100 := by
  constructor
  · obtain ⟨hall, rfl⟩ := Fallible.mapM_ok_iff.mp h
    rw [List.map_filterMap]
    have hsome : ∀ friction ∈ frictionSensitivityEur,
        (netSavingAt saving friction).toOption.map (·.hypotheticalFrictionEur) = some friction := by
      intro friction hmem
      obtain ⟨f, hf⟩ := hall friction hmem
      rw [hf, ← (netSavingAt_ok hmem hf).1]
      rfl
    rw [List.filterMap_congr hsome, List.filterMap_some]
  · intro f hf
    obtain ⟨friction, hmem, hok⟩ := Fallible.mapM_ok h f hf
    obtain ⟨rfl, hnet⟩ := netSavingAt_ok hmem hok
    exact hnet

theorem reports_of_ok {baseline : FixedSingleBaseline} {diagnostic : Option MatchedBucketDiagnostic}
    {split : OfferSnapshot × OfferSnapshot} {c : Candidate} {r : ComparisonResult}
    (hof : c.Of rt scenario segments single split)
    (h : comparableResult rt input baseline diagnostic eligible c = .ok r) :
    (r.comparability = .comparable ∧ r.fixedBaseline = some baseline ∧
      r.matchedBucketDiagnostic = diagnostic) ∧ Reports r single split c.comparabilityLevel := by
  simp only [comparableResult, Fallible.bind_ok] at h
  obtain ⟨_, -, _, -, _, -, _, -, _, -, _, -, _, -, frictions, hfrictions, h⟩ := h
  cases h
  obtain ⟨hmap, hnet⟩ := frictions_ok hfrictions
  rw [hof.saving] at hnet
  exact ⟨⟨rfl, rfl, rfl⟩,
    { level := rfl
      ofSingle := by rw [← hof.ofSingle]
      ofSplit := by rw [← hof.ofSplit]
      singleTotal := congrArg some hof.singleTotal
      splitTotal := congrArg some hof.splitTotal
      grossSaving := congrArg some hof.saving
      frictions := hmap
      netSaving := hnet }⟩

/-- Without a baseline of the caller the evaluation starts from the cheapest offer. -/
theorem evaluateSegments_head (hbaseline : input.fixedSingleBaseline = none)
    (hhead : (eligibleFixedSingleOffers rt input.scenario input.singleStayOffers).head? =
      some single) :
    evaluateSegments rt input segments = (do
      let fixedBaseline ← summarizeFixedBaseline rt input.scenario input.singleStayOffers single
      let diagnostic ← buildMatchedBucketDiagnostic rt input.scenario segments
        input.singleStayOffers input.firstSegmentOffers input.secondSegmentOffers
        (some fixedBaseline)
      compareWithFixed rt input segments
        (eligibleFixedSingleOffers rt input.scenario input.singleStayOffers) single fixedBaseline
        diagnostic) := by
  have hany : (eligibleFixedSingleOffers rt input.scenario input.singleStayOffers).any
      (fun offer => offer.offerSnapshotId = single.offerSnapshotId) = true :=
    List.any_eq_true.mpr ⟨single, List.mem_of_head? hhead, by simp⟩
  dsimp only [evaluateSegments]
  simp [hbaseline, hhead, hany]

theorem evaluateSegments_nil (hbaseline : input.fixedSingleBaseline = none)
    (hhead : (eligibleFixedSingleOffers rt input.scenario input.singleStayOffers).head? = none) :
    evaluateSegments rt input segments = (do
      let diagnostic ← buildMatchedBucketDiagnostic rt input.scenario segments
        input.singleStayOffers input.firstSegmentOffers input.secondSegmentOffers none
      return noComparableResult input.scenario.scenarioId input.splitPointId
        ["no-eligible-fixed-single-baseline"] true none diagnostic) := by
  dsimp only [evaluateSegments]
  simp [hbaseline, hhead]

theorem isComparable_iff : (classifySplitF0OfferComparability rt scenario segments single
    split).comparable.isSome = true ↔ ∃ level, levelOf rt scenario segments single split =
      some level := by
  rw [levelOf, ← Option.isSome_iff_exists, Option.isSome_map]

/-- Without candidates no pair is comparable. -/
theorem not_comparable_of_nil (hnil : pairCandidates rt input segments single = []) :
    ¬ ∃ first ∈ input.firstSegmentOffers, ∃ second ∈ input.secondSegmentOffers,
      (classifySplitF0OfferComparability rt input.scenario segments single
        (first, second)).comparable.isSome = true := by
  rintro ⟨first, hfirst, second, hsecond, hsome⟩
  obtain ⟨level, hlevel⟩ := isComparable_iff.mp hsome
  obtain ⟨c, hc⟩ := exists_candidate hlevel
  have hmem := mem_pairCandidates.mpr ⟨first, hfirst, second, hsecond, hc⟩
  rw [hnil] at hmem
  cases hmem

/-- What an evaluation returns is found by a search through all offers. -/
theorem search_exact (h : LocaleOrder rt) (hids : DistinctOffers input)
    (hbaseline : input.fixedSingleBaseline = none) {r : ComparisonResult}
    (hr : evaluateSegments rt input segments = .ok r) : ExactSearch rt input segments r := by
  cases hhead : (eligibleFixedSingleOffers rt input.scenario input.singleStayOffers).head? with
  | none =>
    rw [evaluateSegments_nil hbaseline hhead, buildMatched_eq] at hr
    obtain ⟨diagnostic, hdiagnostic, hr⟩ := Fallible.bind_ok.mp hr
    cases hr
    refine ⟨⟨(nomatch ·), ?_⟩, (nomatch ·), hdiagnostic⟩
    rintro ⟨single, hsingle, -⟩
    rw [exists_cheapest h hids.singles hsingle] at hhead
    cases hhead
  | some single =>
    have hcheapest := cheapest_head h hhead
    rw [evaluateSegments_head hbaseline hhead] at hr
    simp only [Fallible.bind_ok, buildMatched_eq] at hr
    obtain ⟨baseline, -, diagnostic, hdiagnostic, hr⟩ := hr
    dsimp only [compareWithFixed] at hr
    cases hbest : (JsSort.sortBy (sortCandidates rt)
        (pairCandidates rt input segments single)).head? with
    | none =>
      rw [hbest] at hr
      cases hr
      refine ⟨⟨(nomatch ·), ?_⟩, (nomatch ·), hdiagnostic⟩
      rintro ⟨single', hsingle', hpair⟩
      rw [hsingle'.unique h hids.singles hcheapest] at hpair
      refine absurd hpair (not_comparable_of_nil ?_)
      rw [List.head?_eq_none_iff] at hbest
      exact (hbest ▸ JsSort.sortBy_perm (sortCandidates rt) _).nil_eq.symm
    | some c =>
      rw [hbest] at hr
      obtain ⟨split, hof, hpair⟩ := best_of_head h hbest
      obtain ⟨⟨hcomparable, hfixed, hmatched⟩, hreports⟩ := reports_of_ok hof hr
      refine ⟨⟨fun _ => ⟨single, hcheapest, split.1, hpair.first, split.2, hpair.second,
        isComparable_iff.mpr ⟨_, hpair.comparable⟩⟩, fun _ => hcomparable⟩,
        fun _ => ⟨single, split, _, hcheapest, hpair, hreports⟩, ?_⟩
      rw [hfixed, hmatched]
      exact hdiagnostic

/-! ## 5. Amounts that are refused -/

/-- With the largest friction every pair of offers costs a safe amount. -/
def Affordable (input : EvaluationInput) : Prop :=
  ∀ first ∈ input.firstSegmentOffers, ∀ second ∈ input.secondSegmentOffers,
    costOf first + costOf second + 15000 ≤ maxSafeInteger

/-- A candidate of offers that can be afforded together. -/
structure Candidate.Safe (c : Candidate) : Prop where
  single : Priced c.single
  singleTotal : c.singleTotalMinorUnits = costOf c.single
  pos : 0 < c.splitTotalMinorUnits
  split : c.splitTotalMinorUnits + 15000 ≤ maxSafeInteger
  saving : c.grossSavingMinorUnits = c.singleTotalMinorUnits - c.splitTotalMinorUnits

theorem Candidate.Safe.amounts {c : Candidate} (h : c.Safe) :
    |c.singleTotalMinorUnits| ≤ maxSafeInteger ∧ |c.splitTotalMinorUnits| ≤ maxSafeInteger ∧
      |c.grossSavingMinorUnits| ≤ maxSafeInteger := by
  have hpos := h.single.pos
  have hle := h.single.le
  have hsplit := h.split
  have hsplitPos := h.pos
  rw [h.saving, h.singleTotal, abs_le, abs_le, abs_le]
  refine ⟨⟨?_, ?_⟩, ⟨?_, ?_⟩, ?_, ?_⟩ <;> linarith

theorem safe_of_classify (haffordable : Affordable input) {first second : OfferSnapshot}
    (hfirst : first ∈ input.firstSegmentOffers) (hsecond : second ∈ input.secondSegmentOffers)
    {c : Candidate}
    (hc : classifyCandidate rt scenario segments single (first, second) = some c) : c.Safe := by
  have hof := classifyCandidate_of hc
  have hcomparable := (classifyCandidate_some hc).1
  have hsum := haffordable first hfirst second hsecond
  have hfirstPos := (priced_of_valid hcomparable.firstValid).pos
  have hsecondPos := (priced_of_valid hcomparable.secondValid).pos
  refine ⟨?_, ?_, ?_, ?_, ?_⟩
  · rw [hof.ofSingle]
    exact priced_of_valid hcomparable.singleValid
  · rw [hof.singleTotal, hof.ofSingle]
  · rw [hof.splitTotal]
    exact add_pos hfirstPos hsecondPos
  · rwa [hof.splitTotal]
  · rw [hof.saving, hof.singleTotal, hof.splitTotal, savingOf]

theorem exists_net {c : Candidate} (h : c.Safe) {friction : ℚ}
    (hmem : friction ∈ frictionSensitivityEur) :
    ∃ f, netSavingAt c.grossSavingMinorUnits friction = .ok f := by
  obtain ⟨hunits, -, hle, hnonneg⟩ := moneyToMinorUnits_friction hmem
  have hpos := h.single.pos
  have hsingleLe := h.single.le
  have hsplit := h.split
  have hsplitPos := h.pos
  have hsafe : |c.grossSavingMinorUnits - (friction * 100).num| ≤ maxSafeInteger := by
    rw [h.saving, h.singleTotal, abs_le]
    constructor <;> linarith
  obtain ⟨_, hnumber⟩ := exists_number hsafe
  obtain ⟨_, htext⟩ := minorUnitsToMoney_ok hsafe
  exact ⟨_, Fallible.bind_ok.mpr ⟨_, hunits, Fallible.bind_ok.mpr ⟨_, hnumber,
    Fallible.bind_ok.mpr ⟨_, htext, rfl⟩⟩⟩⟩

theorem describe_safe (hvalid : scenario.Valid) {offers : List OfferSnapshot}
    (baseline : Option FixedSingleBaseline) {c : Candidate} (h : c.Safe) :
    ∃ d, describeMatched rt scenario offers baseline c = .ok d := by
  obtain ⟨hsingle, hsplit, hsaving⟩ := h.amounts
  obtain ⟨_, hsingleNumber⟩ := exists_number hsingle
  obtain ⟨_, hsplitNumber⟩ := exists_number hsplit
  obtain ⟨_, hsavingNumber⟩ := exists_number hsaving
  have hpriced : ∀ o ∈ eligibleFixedSingleOffers rt scenario offers, Priced o :=
    fun o ho => priced_of_mem_eligible ho
  obtain ⟨_, hassess⟩ := assess_eligible hvalid h.single hpriced baseline
    (some (c.grossSavingMinorUnits / c.singleTotalMinorUnits))
  exact ⟨_, Fallible.bind_ok.mpr ⟨_, hsingleNumber, Fallible.bind_ok.mpr ⟨_, hsplitNumber,
    Fallible.bind_ok.mpr ⟨_, hsavingNumber, Fallible.bind_ok.mpr ⟨_, hassess, rfl⟩⟩⟩⟩⟩

theorem fullDiagnostic_affordable (hvalid : input.scenario.Valid) (haffordable : Affordable input)
    (baseline : Option FixedSingleBaseline) :
    ∃ diagnostic, fullDiagnostic rt input segments baseline = .ok diagnostic := by
  unfold fullDiagnostic
  cases hselect : selectMatched rt (allCandidates rt input.scenario segments
      input.singleStayOffers input.firstSegmentOffers input.secondSegmentOffers) with
  | none => exact ⟨_, rfl⟩
  | some c =>
    have hmem := List.mem_of_mem_filter (JsSort.mem_sortBy.mp (List.mem_of_head? hselect))
    obtain ⟨⟨⟨first, second⟩, single⟩, htriple, hc⟩ := List.mem_filterMap.mp hmem
    obtain ⟨hpair, -⟩ := List.pair_mem_product.mp htriple
    obtain ⟨hfirst, hsecond⟩ := List.pair_mem_product.mp hpair
    have hdescribe : ∃ d, describeMatched rt input.scenario input.singleStayOffers baseline c =
        .ok d := describe_safe hvalid baseline (safe_of_classify haffordable hfirst hsecond hc)
    obtain ⟨d, hd⟩ := hdescribe
    exact ⟨some d, congrArg (Except.map some) hd⟩

theorem comparableResult_safe (hvalid : input.scenario.Valid) (heligible : ∀ o ∈ eligible, Priced o)
    (baseline : FixedSingleBaseline) (diagnostic : Option MatchedBucketDiagnostic) {c : Candidate}
    (h : c.Safe) : ∃ r, comparableResult rt input baseline diagnostic eligible c = .ok r := by
  obtain ⟨hsingle, hsplit, hsaving⟩ := h.amounts
  obtain ⟨_, hassess⟩ := assess_eligible hvalid h.single heligible (some baseline)
    (some (c.grossSavingMinorUnits / c.singleTotalMinorUnits))
  obtain ⟨_, hsingleNumber⟩ := exists_number hsingle
  obtain ⟨_, hsingleText⟩ := minorUnitsToMoney_ok hsingle
  obtain ⟨_, hsplitNumber⟩ := exists_number hsplit
  obtain ⟨_, hsplitText⟩ := minorUnitsToMoney_ok hsplit
  obtain ⟨_, hsavingNumber⟩ := exists_number hsaving
  obtain ⟨_, hsavingText⟩ := minorUnitsToMoney_ok hsaving
  have hfrictions := Fallible.mapM_ok_iff.mpr ⟨fun _ hmem => exists_net h hmem, rfl⟩
  exact ⟨_, Fallible.bind_ok.mpr ⟨_, hassess, Fallible.bind_ok.mpr ⟨_, hsingleNumber,
    Fallible.bind_ok.mpr ⟨_, hsingleText, Fallible.bind_ok.mpr ⟨_, hsplitNumber,
    Fallible.bind_ok.mpr ⟨_, hsplitText, Fallible.bind_ok.mpr ⟨_, hsavingNumber,
    Fallible.bind_ok.mpr ⟨_, hsavingText, Fallible.bind_ok.mpr ⟨_, hfrictions, rfl⟩⟩⟩⟩⟩⟩⟩⟩⟩

/-- With affordable pairs no amount is refused. -/
theorem evaluate_affordable (hvalid : input.scenario.Valid)
    (hbaseline : input.fixedSingleBaseline = none) (haffordable : Affordable input) :
    ∃ r, evaluateSegments rt input segments = .ok r := by
  cases hhead : (eligibleFixedSingleOffers rt input.scenario input.singleStayOffers).head? with
  | none =>
    rw [evaluateSegments_nil hbaseline hhead, buildMatched_eq]
    obtain ⟨diagnostic, hdiagnostic⟩ := fullDiagnostic_affordable hvalid haffordable none
    exact ⟨_, Fallible.bind_ok.mpr ⟨diagnostic, hdiagnostic, rfl⟩⟩
  | some single =>
    rw [evaluateSegments_head hbaseline hhead]
    simp only [Fallible.bind_ok, buildMatched_eq]
    obtain ⟨baseline, hfixed⟩ := summarize_eligible hvalid (List.mem_of_head? hhead)
    obtain ⟨diagnostic, hdiagnostic⟩ :=
      fullDiagnostic_affordable hvalid haffordable (some baseline)
    have hresult : ∃ r, compareWithFixed rt input segments
        (eligibleFixedSingleOffers rt input.scenario input.singleStayOffers) single baseline
        diagnostic = .ok r := by
      dsimp only [compareWithFixed]
      cases hbest : (JsSort.sortBy (sortCandidates rt)
          (pairCandidates rt input segments single)).head? with
      | none => exact ⟨_, rfl⟩
      | some c =>
        obtain ⟨first, hfirst, second, hsecond, hc⟩ :=
          mem_pairCandidates.mp (JsSort.mem_sortBy.mp (List.mem_of_head? hbest))
        exact comparableResult_safe hvalid (fun o ho => priced_of_mem_eligible ho) baseline
          diagnostic (safe_of_classify haffordable hfirst hsecond hc)
    obtain ⟨r, hr⟩ := hresult
    exact ⟨r, baseline, hfixed, diagnostic, hdiagnostic, hr⟩

theorem exists_segments (hvalid : scenario.Valid) {point : SplitPoint}
    (hpoint : point ∈ scenario.splitPoints) :
    ∃ segments, buildSplitF0Segments scenario point.splitPointId = .ok segments := by
  have hnil := uniqueSorted_eq_nil.mp hvalid
  simp only [List.append_eq_nil_iff, ite_eq_right_iff, List.cons_ne_nil, imp_false, and_assoc]
    at hnil
  obtain ⟨-, -, -, -, hduration, -⟩ := hnil
  have hdays : daysBetween scenario.checkIn scenario.checkOut = some scenario.nights := by
    by_contra hnot
    simp [hnot] at hduration
  unfold buildSplitF0Segments
  rw [if_neg (not_not.mpr hvalid)]
  cases hfind : scenario.splitPoints.find? (·.splitPointId = point.splitPointId) with
  | none => simpa using List.find?_eq_none.mp hfind point hpoint
  | some found =>
    cases hstart : parseIsoDate scenario.checkIn with
    | none => simp [daysBetween, hstart] at hdays
    | some day => exact ⟨_, Fallible.bind_ok.mpr ⟨_, by rw [addUtcDays, hstart], rfl⟩⟩

/-- The evaluation searches through all pairs and all triples of offers, in any order, unless it
    refuses an amount. -/
theorem evaluate_exact (h : LocaleOrder rt) (hvalid : input.scenario.Valid) {point : SplitPoint}
    (hpoint : point ∈ input.scenario.splitPoints) (hid : input.splitPointId = point.splitPointId)
    (hids : DistinctOffers input) (hbaseline : input.fixedSingleBaseline = none) :
    ∃ segments, buildSplitF0Segments input.scenario input.splitPointId = .ok segments ∧
      (∀ r, evaluateSplitF0EconomicOpportunity rt input = .ok r →
        ExactSearch rt input segments r) ∧
      (Affordable input → ∃ r, evaluateSplitF0EconomicOpportunity rt input = .ok r) ∧
      ∀ input', Reordered input input' → evaluateSplitF0EconomicOpportunity rt input' =
        evaluateSplitF0EconomicOpportunity rt input := by
  obtain ⟨segments, hsegments⟩ := exists_segments hvalid hpoint
  rw [← hid] at hsegments
  have hrun : evaluateSplitF0EconomicOpportunity rt input = evaluateSegments rt input segments := by
    rw [evaluateSplitF0EconomicOpportunity, if_neg (not_not.mpr hvalid), hsegments]
  refine ⟨segments, hsegments, fun r hr => search_exact h hids hbaseline (hrun ▸ hr),
    fun haffordable => ?_, fun _ => evaluate_perm h hids⟩
  rw [hrun]
  exact evaluate_affordable hvalid hbaseline haffordable

/-! ## 6. A dear week -/

theorem plainRuntime_order : LocaleOrder plainRuntime where
  trans := inferInstanceAs (Std.TransCmp (compareOn JsText.utf16))
  eq_of_ids _ _ _ _ h := JsText.utf16_injective (Std.LawfulEqOrd.eq_of_compare h)

def pilotOffer (offerSnapshotId propertyId checkIn checkOut : String) (nights totalCost : ℚ) :
    OfferSnapshot where
  offerSnapshotId := offerSnapshotId
  propertyId := propertyId
  checkIn := checkIn
  checkOut := checkOut
  nights := nights
  occupancy := pilotScenario.occupancy
  currency := "EUR"
  totalCost := totalCost
  totalCostCompleteness := .complete
  taxes := .included
  mandatoryCosts := .included
  boardClass := .roomOnly
  cancellationClass := .fullyRefundable
  paymentTiming := .payAtProperty
  roomClass := .standard
  rating := some 9
  reviewCount := some 1000
  distanceKm := some 1
  bookable := true
  freshness := .fresh
  provenance := ⟨"capture-1", "2026-01-01T00:00:00Z",
    "sha256:" ++ String.ofList (List.replicate 64 'a')⟩

/-- One offer for the week and one for each of its parts. -/
def pilotInput (singleCost firstCost secondCost : ℚ) : EvaluationInput where
  scenario := pilotScenario
  splitPointId := "half"
  singleStayOffers := [pilotOffer "single-1" "hotel-1" "2026-03-02" "2026-03-09" 7 singleCost]
  fixedSingleBaseline := none
  firstSegmentOffers := [pilotOffer "first-1" "hotel-2" "2026-03-02" "2026-03-05" 3 firstCost]
  secondSegmentOffers := [pilotOffer "second-1" "hotel-3" "2026-03-05" "2026-03-09" 4 secondCost]

theorem pilotInput_distinct (singleCost firstCost secondCost : ℚ) :
    DistinctOffers (pilotInput singleCost firstCost secondCost) :=
  ⟨List.nodup_singleton _, List.nodup_singleton _, List.nodup_singleton _⟩

/-- The theorem for a week that saves 20 euros in two parts. -/
theorem evaluate_exact_week : ∃ segments r,
    evaluateSplitF0EconomicOpportunity plainRuntime (pilotInput 700 300 380) = .ok r ∧
      ExactSearch plainRuntime (pilotInput 700 300 380) segments r ∧
      r.grossSavingMinorUnits = some 2000 := by
  have hrun : ((evaluateSplitF0EconomicOpportunity plainRuntime
      (pilotInput 700 300 380)).toOption.map fun r =>
        decide (r.grossSavingMinorUnits = some 2000)) = some true := by
    decide +kernel
  obtain ⟨r, hr, hsaving⟩ := Fallible.exists_ok hrun
  obtain ⟨segments, -, hexact, -⟩ := @evaluate_exact plainRuntime (pilotInput 700 300 380)
    plainRuntime_order pilotScenario_valid _ List.mem_cons_self rfl (pilotInput_distinct ..) rfl
  exact ⟨segments, r, hr, hexact r hr, of_decide_eq_true hsaving⟩

/-- Two offers that together cost more than the safe integers make the evaluation throw. -/
theorem dear_week_refused : ¬ ∀ (rt : Runtime) (input : EvaluationInput) (segments : Period × Period),
    LocaleOrder rt → input.scenario.Valid →
      buildSplitF0Segments input.scenario input.splitPointId = .ok segments →
      DistinctOffers input → input.fixedSingleBaseline = none →
      ∃ r, evaluateSplitF0EconomicOpportunity rt input = .ok r ∧
        ExactSearch rt input segments r := by
  intro h
  obtain ⟨segments, hsegments⟩ := exists_segments pilotScenario_valid List.mem_cons_self
  obtain ⟨r, hr, -⟩ := h plainRuntime (pilotInput 90000000000000 60000000000000 60000000000000)
    segments plainRuntime_order pilotScenario_valid hsegments (pilotInput_distinct ..) rfl
  have hnone : (evaluateSplitF0EconomicOpportunity plainRuntime
      (pilotInput 90000000000000 60000000000000 60000000000000)).toOption.isNone = true := by
    decide +kernel
  rw [hr] at hnone
  cases hnone

end SmartStay.SplitF0
