import SmartStay.Orchestrator.Decision

/-!
# Recommendations without critical regressions

1. `regressions_nil`: what the signals are when there is no critical regression.
2. `findSingleSolutionForHotel_some`, `validateStaySolution_single`: the selected solution.
3. `recommended_comparable`, `price_pass`, `rates_verified`: what each signal says of it.
4. `recommendation_price_safe`.
-/

namespace SmartStay.Orchestrator

open Contract Promotion Integrity

variable {rt : Runtime} {Sections : Type} {checks : DecisionChecks Sections}
  {decision : StayOptiDecision Sections} {comparable : ComparableDecision}
  {evidence : Option PublicRateEvidence}

/-! ## 1. Signals -/

theorem regressions_nil {signals : SafetySignals} (h : createCriticalRegressions signals = []) :
    signals.priceIntegrity = .pass ∧ signals.recommendationSafety = .pass ∧
      (signals.publicRateConsistency = .verified ∨
        signals.publicRateConsistency = .notApplicable) := by
  have hnone : ∀ code, code ∉ createCriticalRegressions signals := by
    intro code
    rw [h]
    exact List.not_mem_nil
  have hprice := hnone .priceIntegrity
  have hrate := hnone .publicRateIntegrity
  have hsafe := hnone .unsafeRecommendation
  simp only [createCriticalRegressions, List.mem_filter, criticalRegressionOrder] at hprice hrate hsafe
  refine ⟨?_, ?_, ?_⟩
  · by_contra hne
    simp [hne] at hprice
  · by_contra hne
    simp [hne] at hsafe
  · by_contra hne
    simp [hne] at hrate

/-! ## 2. The selected solution -/

/-- The solutions that `findSingleSolutionForHotel` chooses from. -/
def singleSolutions (decision : StayOptiDecision Sections) (hotelId : String) : List StaySolution :=
  decision.solutions.filter fun solution => solution.kind = .single &&
    solution.segments.length = 1 && solution.segments.head?.any (·.hotelId = hotelId)

theorem findSingleSolutionForHotel_some {hotelId : String} {solution : StaySolution} :
    findSingleSolutionForHotel decision hotelId = some solution ↔
      singleSolutions decision hotelId = [solution] := by
  unfold findSingleSolutionForHotel singleSolutions
  split
  · rename_i only honly
    rw [honly]
    simp
  · rename_i hmany
    constructor
    · intro h
      cases h
    · intro hone
      exact absurd hone (hmany solution)

/-- The one segment of a selected solution. -/
theorem segment_of_single {hotelId : String} {solution : StaySolution}
    (h : singleSolutions decision hotelId = [solution]) : solution ∈ decision.solutions ∧
      ∃ segment, solution.segments = [segment] ∧ segment.hotelId = hotelId := by
  have hmem : solution ∈ singleSolutions decision hotelId := by
    rw [h]
    exact List.mem_singleton_self solution
  obtain ⟨hsolution, hfilter⟩ := List.mem_filter.mp hmem
  simp only [Bool.and_eq_true, decide_eq_true_eq] at hfilter
  obtain ⟨⟨-, hlength⟩, hhotel⟩ := hfilter
  obtain ⟨segment, hsegment⟩ := List.length_eq_one_iff.mp hlength
  refine ⟨hsolution, segment, hsegment, ?_⟩
  simpa [hsegment] using hhotel

/-- The snapshot that is found for a solution of one segment. -/
theorem snapshotOf_some {solution : StaySolution} {segment : SolutionSegment}
    {snapshot : StayOfferIntegritySnapshot} (hsegment : solution.segments = [segment])
    (h : snapshotOf decision solution = some snapshot) : snapshot ∈ decision.offerSnapshots ∧
      snapshot.hotelId = segment.hotelId ∧ some snapshot.offerId = segment.offerId := by
  have hfind : decision.offerSnapshots.find? (fun candidate =>
      candidate.hotelId = segment.hotelId && some candidate.offerId = segment.offerId) =
      some snapshot := by
    simpa [snapshotOf, hsegment] using h
  have hmatch := List.find?_some hfind
  simp only [Bool.and_eq_true, decide_eq_true_eq] at hmatch
  exact ⟨List.mem_of_find?_eq_some hfind, hmatch⟩

/-! ## 3. What the signals say -/

/-- A recommendation is of the robust choice and has one feasible solution. -/
theorem recommended_comparable {v2HotelId : Option String}
    (h : createIndependentV3ComparableDecision rt decision v2HotelId = .ok comparable)
    (hstatus : comparable.status = .recommended) : ∃ hotelId solution token,
      decision.robustness.policyPreferredHotelId = some hotelId ∧
      decision.robustness.robustChoiceHotelId = some hotelId ∧
      singleSolutions decision hotelId = [solution] ∧ solution.feasibility = .feasible ∧
      createHotelSelectionToken rt hotelId = .ok token ∧
      comparable.selectedSolutionToken = some token := by
  unfold createIndependentV3ComparableDecision at h
  obtain ⟨-, h⟩ := Fallible.errorIf_ok.mp h
  split at h
  · cases h
    dsimp only [createV3Comparable, createComparableDecision] at hstatus
    split at hstatus <;> cases hstatus
  · unfold recommendedComparable at h
    split at h
    · cases h
    · rename_i hotelId hpreferred
      obtain ⟨hrobust, h⟩ := Fallible.errorIf_ok.mp h
      obtain ⟨hbacked, h⟩ := Fallible.errorIf_ok.mp h
      obtain ⟨token, htoken, h⟩ := Fallible.bind_ok.mp h
      cases h
      cases hfound : findSingleSolutionForHotel decision hotelId with
      | none => simp [hfound] at hbacked
      | some solution =>
        refine ⟨hotelId, solution, token, hpreferred, not_not.mp hrobust,
          findSingleSolutionForHotel_some.mp hfound, ?_, htoken, rfl⟩
        simp only [hfound, Option.all_some, Bool.or_eq_true, not_or, decide_eq_true_eq] at hbacked
        exact not_not.mp hbacked.1

/-- Passed price integrity of a recommendation. -/
theorem price_pass {hotelId : String} {solution : StaySolution}
    (h : derivePriceIntegrity decision comparable = .pass)
    (hstatus : comparable.status = .recommended)
    (hpreferred : decision.robustness.policyPreferredHotelId = some hotelId)
    (hsolution : singleSolutions decision hotelId = [solution]) :
    solution.totalCost.completeness = .reportedComplete ∧
      (∃ total currency, solution.totalCost.amount = some total ∧
        solution.totalCost.currency = some currency) ∧
      ∃ snapshot, snapshotOf decision solution = some snapshot ∧
        snapshot.scope.status = .exact ∧ snapshot.cost.total.state = .known := by
  have hfound := findSingleSolutionForHotel_some.mpr hsolution
  unfold derivePriceIntegrity at h
  rw [hpreferred, Option.bind_some, hfound] at h
  dsimp only at h
  split at h
  · cases h
  split at h
  · rename_i hne
    exact absurd hstatus hne
  split at h
  · cases h
  split at h
  · cases h
  rename_i hknown
  simp only [Bool.or_eq_true, not_or, decide_eq_true_eq, Option.isNone_iff_eq_none] at hknown
  obtain ⟨⟨hamount, hcurrency⟩, hcomplete⟩ := hknown
  obtain ⟨total, htotal⟩ := Option.ne_none_iff_exists'.mp hamount
  obtain ⟨currency, hcur⟩ := Option.ne_none_iff_exists'.mp hcurrency
  refine ⟨not_not.mp hcomplete, ⟨total, currency, htotal, hcur⟩, ?_⟩
  cases hsnapshot : snapshotOf decision solution with
  | none =>
    rw [hsnapshot] at h
    cases h
  | some snapshot =>
    rw [hsnapshot] at h
    change snapshotIntegrity snapshot = .pass at h
    unfold snapshotIntegrity at h
    split at h
    · cases h
    split at h
    · rename_i hexact
      simp only [Bool.and_eq_true, decide_eq_true_eq] at hexact
      exact ⟨snapshot, rfl, hexact.1.1, hexact.2⟩
    · cases h

/-- Verified rates of a recommendation. -/
theorem rates_verified {hotelId token : String} {solution : StaySolution} {total : ℚ}
    (h : deriveBoundPublicRateConsistency rt decision comparable evidence = .verified ∨
      deriveBoundPublicRateConsistency rt decision comparable evidence = .notApplicable)
    (htoken : comparable.selectedSolutionToken = some token)
    (hpreferred : decision.robustness.policyPreferredHotelId = some hotelId)
    (hsolution : singleSolutions decision hotelId = [solution])
    (htotal : solution.totalCost.amount = some total) : ∃ rates, evidence = some (.rates rates) ∧
      solution.totalCost.currency = some rates.currency ∧
      rates.retrievedPrebookTotal ≤ total + 6 / 100 := by
  have hfound := findSingleSolutionForHotel_some.mpr hsolution
  unfold deriveBoundPublicRateConsistency at h
  split at h
  · simp at h
  · simp [htoken] at h
  rename_i rates
  rw [hpreferred, Option.bind_some, hfound] at h
  dsimp only at h
  split at h
  · simp at h
  split at h
  · rename_i hagree
    simp only [htotal, Option.any_some, Bool.and_eq_true, decide_eq_true_eq, totalsAgree,
      publicRateMaxDelta] at hagree
    obtain ⟨hcurrency, ⟨hrates, hprebook⟩, hretrieved⟩ := hagree
    refine ⟨rates, rfl, hcurrency, ?_⟩
    have hlow := (abs_le.mp (of_decide_eq_true hrates)).1
    have hhigh := (abs_le.mp (of_decide_eq_true hretrieved)).2
    have hprebook := of_decide_eq_true hprebook
    linarith
  · simp at h

/-! ## 4. Price safety -/

/-- The prices behind a recommendation: the one solution of the robust choice, its segment, the
    snapshot that is found for the segment, and the rates. -/
structure PriceSafe (rt : Runtime) (decision : StayOptiDecision Sections)
    (comparable : ComparableDecision) (evidence : Option PublicRateEvidence) (hotelId : String)
    (solution : StaySolution) (segment : SolutionSegment) (snapshot : StayOfferIntegritySnapshot)
    (total : ℚ) (currency : String) : Prop where
  robust : decision.robustness.robustChoiceHotelId = some hotelId
  selected : ∃ token, createHotelSelectionToken rt hotelId = .ok token ∧
    comparable.selectedSolutionToken = some token
  single : singleSolutions decision hotelId = [solution]
  segment_only : solution.segments = [segment] ∧ segment.hotelId = hotelId
  feasible : solution.feasibility = .feasible
  complete : solution.totalCost.completeness = .reportedComplete
  known : solution.totalCost.amount = some total ∧ solution.totalCost.currency = some currency
  segment_cost : ∃ amount, segment.cost.amount = some amount ∧ |amount - total| ≤ 1 / 100 ∧
    segment.cost.currency = some currency
  found : snapshotOf decision solution = some snapshot ∧ snapshot.hotelId = hotelId ∧
    some snapshot.offerId = segment.offerId
  exact_scope : snapshot.scope.status = .exact
  snapshot_known : snapshot.cost.total.state = .known ∧
    snapshot.cost.total.amount.isSome = true ∧ snapshot.cost.total.currency.isSome = true
  rates : ∃ rates, evidence = some (.rates rates) ∧ rates.currency = currency ∧
    rates.retrievedPrebookTotal ≤ total + 6 / 100

/-- Known totals of accepted snapshots. -/
theorem snapshot_total_known (hvalid : validateStayOptiDecision rt checks decision = true)
    {snapshot : StayOfferIntegritySnapshot} (hmem : snapshot ∈ decision.offerSnapshots)
    (hknown : snapshot.cost.total.state = .known) :
    snapshot.cost.total.amount.isSome = true ∧ snapshot.cost.total.currency.isSome = true := by
  simp only [validateStayOptiDecision, validIntegrity, Bool.and_eq_true, List.all_eq_true] at hvalid
  have haccepted := hvalid.1.1.1.2.1.1.1 snapshot hmem
  simp only [validateStayOfferIntegritySnapshot, Bool.and_eq_true] at haccepted
  have hmoney := haccepted.1.1.1.1.1.1.1.2
  simp only [isValidMoneyEvidence, Bool.and_eq_true] at hmoney
  simpa [hknown] using hmoney.2

theorem recommendation_price_safe (rt : Runtime) (checks : DecisionChecks Sections)
    (decision : StayOptiDecision Sections) (v2HotelId : Option String)
    (comparable : ComparableDecision) (evidence : Option PublicRateEvidence)
    (deterministicReplayMatches : Bool)
    (hvalid : validateStayOptiDecision rt checks decision = true)
    (hcomparable :
      createIndependentV3ComparableDecision rt decision v2HotelId = .ok comparable)
    (hsafe : createCriticalRegressions (deriveIndependentShadowSafetySignals rt checks decision
      comparable evidence deterministicReplayMatches) = [])
    (hstatus : comparable.status = .recommended) :
    ∃ hotelId solution segment snapshot total currency,
      PriceSafe rt decision comparable evidence hotelId solution segment snapshot total
        currency := by
  obtain ⟨hprice, -, hrate⟩ := regressions_nil hsafe
  obtain ⟨hotelId, solution, token, hpreferred, hrobust, hsingle, hfeasible, htoken, hselected⟩ :=
    recommended_comparable hcomparable hstatus
  obtain ⟨hcomplete, ⟨total, currency, htotal, hcurrency⟩, snapshot, hsnapshot, hexact, hknown⟩ :=
    price_pass hprice hstatus hpreferred hsingle
  obtain ⟨rates, hrates, hratesCurrency, hretrieved⟩ :=
    rates_verified hrate hselected hpreferred hsingle htotal
  obtain ⟨hmem, segment, hsegment, hhotel⟩ := segment_of_single hsingle
  have hvalidSolution : validateStaySolution solution = true := by
    simp only [validateStayOptiDecision, validSolutions, Bool.and_eq_true, List.all_eq_true]
      at hvalid
    exact hvalid.1.1.2.1.1.1.1.1.1 solution hmem
  obtain ⟨amount, hamount, hwithin, hsegmentCurrency⟩ :=
    validateStaySolution_single hvalidSolution hsegment hfeasible htotal
  obtain ⟨hsnapshotMem, hsnapshotHotel, hoffer⟩ := snapshotOf_some hsegment hsnapshot
  refine ⟨hotelId, solution, segment, snapshot, total, currency, ?_⟩
  exact {
    robust := hrobust
    selected := ⟨token, htoken, hselected⟩
    single := hsingle
    segment_only := ⟨hsegment, hhotel⟩
    feasible := hfeasible
    complete := hcomplete
    known := ⟨htotal, hcurrency⟩
    segment_cost := ⟨amount, hamount, hwithin, hsegmentCurrency.trans hcurrency⟩
    found := ⟨hsnapshot, hsnapshotHotel.trans hhotel, hoffer⟩
    exact_scope := hexact
    snapshot_known := ⟨hknown, snapshot_total_known hvalid hsnapshotMem hknown⟩
    rates := ⟨rates, hrates, Option.some.inj (hratesCurrency.symm.trans hcurrency), hretrieved⟩ }

/-! ### One hotel -/

/-- What a snapshot of the offer holds when it was offered for an amount. -/
def offeredContent (amount : ℚ) : SnapshotContent where
  hotelId := "hotel-1"
  offerId := "offer-1"
  scope := ⟨some "2026-09-01", some "2026-09-03", some 2, some 2, some 0, some 1, .exact⟩
  room := ⟨some "Double", .known⟩
  mealPlan := ⟨none, .unknown⟩
  cancellation := ⟨"refundable", none, none, none, .known⟩
  payment := ⟨"pay-later", .known⟩
  cost :=
    { priceScope := "reported-stay-total"
      total := ⟨some amount, some "EUR", .known, []⟩
      taxes := ⟨some true, 0, 0, 0, some "EUR", .known, []⟩
      fees := ⟨none, none, .notApplicable, []⟩
      sourceCompleteness := .reportedComplete
      integrityStatus := .complete }
  bookability := ⟨.bookable, some true, none, "fresh", false, []⟩
  temporalPriceEvidence := ⟨.notProvided, some 2, 0, [], none, []⟩
  evidenceIds := []

def offeredSnapshot (amount : ℚ) : StayOfferIntegritySnapshot :=
  let key := createCanonicalOfferKey plainRuntime (offeredContent amount)
  { offeredContent amount with
    snapshotId := createStayOfferSnapshotFingerprint plainRuntime key (offeredContent amount)
    canonicalOfferKey := key }

/-- A stay of two nights for 500 euros. -/
def stayCost : SolutionCost := ⟨some 500, some "EUR", .reportedComplete, 0, 0, 0⟩

def twoNights : StaySolution where
  solutionId := "solution-1"
  kind := .single
  feasibility := .feasible
  segments := [⟨"segment-1", 0, some "2026-09-01", some "2026-09-03", 2, "hotel-1",
    some "offer-1", true, stayCost⟩]
  transitionCount := 0
  checkIn := some "2026-09-01"
  checkOut := some "2026-09-03"
  totalNights := 2
  totalCost := stayCost

/-- The stay is recommended; its snapshot has been offered for an amount. -/
def offeredDecision (amount : ℚ) : StayOptiDecision Unit where
  versions := decisionVersions
  configHash := "fnv1a32-00000001"
  inputFingerprint := "fnv1a32-00000002"
  decisionFingerprint := "fnv1a32-00000003"
  mode := .nativeV3
  status := .recommended
  analyzedHotelCount := 1
  offerSnapshots := [offeredSnapshot amount]
  integrityCoverage :=
    createStayIntegrityCoverageReport 1 [offeredSnapshot amount] .unverified
  solutions := [twoNights]
  candidateSolutionIds := ["solution-1"]
  recommendedSolutionId := some "solution-1"
  bestAlternativeSolutionId := none
  temporalStatus := .notEvaluated
  splitSolutionId := none
  robustness := ⟨false, none, some "hotel-1", some "hotel-1", [⟨"hotel-1", true⟩], []⟩
  geometryReasonCodes := []
  contextualReasonCodes := []
  sections := ()

def noOtherSections : DecisionChecks Unit := ⟨fun _ => true, fun _ => true, fun _ => true⟩

theorem twoNights_valid : validateStaySolution twoNights = true := by
  decide +kernel

theorem offeredSnapshot_valid {amount : ℚ} (h : 0 ≤ amount) :
    validateStayOfferIntegritySnapshot plainRuntime (offeredSnapshot amount) = true := by
  have htexts : JsText.trim "hotel-1" ≠ "" ∧ JsText.trim "offer-1" ≠ "" ∧
      normalizeCurrency plainRuntime "EUR" = some "EUR" ∧
      exactScopeValid (offeredContent amount).scope = true := by
    change JsText.trim "hotel-1" ≠ "" ∧ JsText.trim "offer-1" ≠ "" ∧
      normalizeCurrency plainRuntime "EUR" = some "EUR" ∧
      exactScopeValid ⟨some "2026-09-01", some "2026-09-03", some 2, some 2, some 0, some 1,
        .exact⟩ = true
    decide +kernel
  obtain ⟨hhotel, hoffer, hcurrency, hscope⟩ := htexts
  have hids : isStableHash (offeredSnapshot amount).snapshotId = true ∧
      isStableHash (offeredSnapshot amount).canonicalOfferKey = true :=
    ⟨isStableHash_createStableHash _ _ _, isStableHash_createStableHash _ _ _⟩
  have hmoney : isValidMoneyEvidence plainRuntime (offeredContent amount).cost.total = true ∧
      isValidMoneyEvidence plainRuntime (offeredContent amount).cost.fees = true := by
    simp [isValidMoneyEvidence, offeredContent, hcurrency, h]
  have hstates : bookabilityValid (offeredContent amount).bookability = true := rfl
  unfold validateStayOfferIntegritySnapshot
  rw [hids.1, hids.2]
  change (decide (JsText.trim "hotel-1" ≠ "") && decide (JsText.trim "offer-1" ≠ "") && true &&
    true && exactScopeValid (offeredContent amount).scope && true &&
    isValidMoneyEvidence plainRuntime (offeredContent amount).cost.total &&
    isValidMoneyEvidence plainRuntime (offeredContent amount).cost.fees &&
    _ && _ && bookabilityValid (offeredContent amount).bookability && _ && decide (_ = _) &&
    decide (_ = _)) = true
  rw [hscope, hmoney.1, hmoney.2, hstates]
  simp [hhotel, hoffer, offeredSnapshot, offeredContent]

theorem offeredDecision_valid {amount : ℚ} (h : 0 ≤ amount) :
    validateStayOptiDecision plainRuntime noOtherSections (offeredDecision amount) = true := by
  have hhashes : ∀ hash ∈ ["fnv1a32-00000001", "fnv1a32-00000002", "fnv1a32-00000003"],
      isStableHash hash = true := by
    decide
  simp only [List.forall_mem_cons] at hhashes
  have hintegrity : validIntegrity plainRuntime (offeredDecision amount) = true := by
    simp [validIntegrity, offeredDecision, offeredSnapshot_valid h,
      createStayIntegrityCoverageReport]
  have hsolutions : validSolutions (offeredDecision amount) = true := by
    simp [validSolutions, offeredDecision, twoNights_valid, hasSnapshot]
    simp [twoNights, offeredSnapshot, offeredContent]
  simp [validateStayOptiDecision, hintegrity, hsolutions]
  simp [offeredDecision, hhashes, noOtherSections]

/-- The token of the hotel. -/
def hotelToken : String :=
  createStableHash plainRuntime (.obj [("hotelId", .str "hotel-1")])
    "stayopti-v3-hotel-selection-token"

theorem hotelToken_ok : createHotelSelectionToken plainRuntime "hotel-1" = .ok hotelToken :=
  createHotelSelectionToken_ok.mpr ⟨by decide +kernel, by decide +kernel, rfl⟩

/-- The rates and both prebooks are 500 euros as well. -/
def boundRates : RateEvidence :=
  let core : RateEvidenceCore :=
    ⟨"fnv1a32-00000003", hotelToken, "EUR", 500, 500, 500⟩
  { core with evidenceFingerprint := createPublicRateEvidenceFingerprint plainRuntime core }

def offeredComparable (amount : ℚ) : ComparableDecision :=
  createV3Comparable plainRuntime (offeredDecision amount) .recommended (some hotelToken)
    (some .bestChoice) ["independent:recommended", "independent:single-stay-only"]

theorem offered_single (amount : ℚ) :
    findSingleSolutionForHotel (offeredDecision amount) "hotel-1" = some twoNights := by
  rw [findSingleSolutionForHotel_some]
  simp [singleSolutions, offeredDecision, twoNights]

theorem offered_comparable (amount : ℚ) :
    createIndependentV3ComparableDecision plainRuntime (offeredDecision amount) none =
      .ok (offeredComparable amount) := by
  have hfeasible : twoNights.feasibility = .feasible := rfl
  have hpreferred : (offeredDecision amount).robustness.policyPreferredHotelId = some "hotel-1" :=
    rfl
  unfold createIndependentV3ComparableDecision
  rw [if_neg (by simp [offeredDecision]), if_neg (by simp [offeredDecision])]
  unfold recommendedComparable
  rw [hpreferred]
  dsimp only
  rw [if_neg (by simp [offeredDecision]), offered_single,
    if_neg (by simp [hfeasible, offeredDecision]), hotelToken_ok]
  rfl

theorem offered_price {amount : ℚ} :
    derivePriceIntegrity (offeredDecision amount) (offeredComparable amount) = .pass := by
  have hpreferred : (offeredDecision amount).robustness.policyPreferredHotelId = some "hotel-1" :=
    rfl
  have hcoverage : (offeredDecision amount).integrityCoverage.invalidIntegrityCount = 0 := rfl
  have hstatus : (offeredComparable amount).status = .recommended := rfl
  have hsnapshot : snapshotOf (offeredDecision amount) twoNights = some (offeredSnapshot amount) := by
    simp [snapshotOf, twoNights, offeredDecision, offeredSnapshot, offeredContent]
  unfold derivePriceIntegrity
  rw [hcoverage, hstatus, hpreferred, Option.bind_some, offered_single]
  dsimp only
  rw [hsnapshot]
  rfl

theorem offered_rates {amount : ℚ} : deriveBoundPublicRateConsistency plainRuntime
    (offeredDecision amount) (offeredComparable amount) (some (.rates boundRates)) = .verified := by
  have hpreferred : (offeredDecision amount).robustness.policyPreferredHotelId = some "hotel-1" :=
    rfl
  have hbound : boundToSelection plainRuntime (offeredDecision amount) (offeredComparable amount)
      boundRates = true := by
    simp [boundToSelection, boundRates, offeredDecision, offeredComparable, createV3Comparable,
      createComparableDecision]
  have hagree : totalsAgree 500 boundRates = true := by
    norm_num [totalsAgree, boundRates, publicRateMaxDelta]
  have hcurrency : boundRates.currency = "EUR" := rfl
  unfold deriveBoundPublicRateConsistency
  dsimp only
  rw [hbound, hpreferred, Option.bind_some, offered_single]
  simp [twoNights, stayCost, hagree, hcurrency]

theorem offered_safe {amount : ℚ} (h : 0 ≤ amount) :
    createCriticalRegressions (deriveIndependentShadowSafetySignals plainRuntime noOtherSections
      (offeredDecision amount) (offeredComparable amount) (some (.rates boundRates)) true) = [] := by
  have hstatus : (offeredComparable amount).status = .recommended := rfl
  have hsolution : twoNights.kind = .single ∧ twoNights.feasibility = .feasible := ⟨rfl, rfl⟩
  have hrecommendation : selectedRecommendationIsSafe (offeredDecision amount)
      (offeredComparable amount) = true := by
    have hpolicy : (offeredDecision amount).robustness =
        ⟨false, none, some "hotel-1", some "hotel-1", [⟨"hotel-1", true⟩], []⟩ := rfl
    simp [selectedRecommendationIsSafe, hstatus, hpolicy, offered_single, hsolution]
  have hsignals : deriveIndependentShadowSafetySignals plainRuntime noOtherSections
      (offeredDecision amount) (offeredComparable amount) (some (.rates boundRates)) true =
        ⟨.pass, .verified, .pass, .pass, .pass, .pass, .pass⟩ := by
    unfold deriveIndependentShadowSafetySignals
    rw [offeredDecision_valid h, hrecommendation, offered_price, offered_rates]
    rfl
  rw [hsignals]
  decide

/-- A snapshot that was offered for the price of the stay. -/
theorem recommendation_price_safe_offered :
    ∃ hotelId solution segment snapshot total currency,
      PriceSafe plainRuntime (offeredDecision 500) (offeredComparable 500)
        (some (.rates boundRates)) hotelId solution segment snapshot total currency :=
  recommendation_price_safe plainRuntime noOtherSections (offeredDecision 500) none
    (offeredComparable 500) (some (.rates boundRates)) true (offeredDecision_valid (by decide))
    (offered_comparable 500) (offered_safe (by decide)) rfl

/-- The snapshot total is that of the solution, up to a hundredth. -/
def SnapshotAgrees (snapshot : StayOfferIntegritySnapshot) (total : ℚ) (currency : String) : Prop :=
  ∃ amount, snapshot.cost.total.amount = some amount ∧ |amount - total| ≤ 1 / 100 ∧
    snapshot.cost.total.currency = some currency

/-- The same stay for 500 euros, whose snapshot was offered for 900. -/
theorem snapshot_total_unchecked :
    ¬ ∀ (decision : StayOptiDecision Unit) v2HotelId comparable evidence,
      validateStayOptiDecision plainRuntime noOtherSections decision = true →
      createIndependentV3ComparableDecision plainRuntime decision v2HotelId = .ok comparable →
      createCriticalRegressions (deriveIndependentShadowSafetySignals plainRuntime noOtherSections
        decision comparable evidence true) = [] →
      comparable.status = .recommended →
      ∃ hotelId solution segment snapshot total currency,
        PriceSafe plainRuntime decision comparable evidence hotelId solution segment snapshot
          total currency ∧ SnapshotAgrees snapshot total currency := by
  intro hall
  obtain ⟨hotelId, solution, segment, snapshot, total, currency, hsafe, amount, hamount, hwithin, -⟩ :=
    hall (offeredDecision 900) none (offeredComparable 900) (some (.rates boundRates))
      (offeredDecision_valid (by decide)) (offered_comparable 900) (offered_safe (by decide)) rfl
  have hhotel : "hotel-1" = hotelId := Option.some.inj hsafe.robust
  subst hhotel
  have hsolution : [twoNights] = [solution] :=
    (findSingleSolutionForHotel_some.mp (offered_single 900)).symm.trans hsafe.single
  cases hsolution
  have htotal : (500 : ℚ) = total := Option.some.inj hsafe.known.1
  have hmem : snapshot ∈ (offeredDecision 900).offerSnapshots :=
    (snapshotOf_some hsafe.segment_only.1 hsafe.found.1).1
  have hsnapshot : snapshot = offeredSnapshot 900 := List.mem_singleton.mp hmem
  rw [hsnapshot] at hamount
  have h900 : (900 : ℚ) = amount := Option.some.inj hamount
  rw [← htotal, ← h900] at hwithin
  norm_num at hwithin

end SmartStay.Orchestrator
