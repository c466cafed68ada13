import Mathlib.Data.List.Perm.Lattice
import SmartStay.SplitF0.Results

/-!
# The search for a split

The evaluation finds its pairs of offers through sorted lists and an index. It chooses as a search
through all pairs and all triples of offers would, whatever the order of the offers.

1. `priced_of_eligible`, `priced_of_valid`: offers that pass the checks have ids and costs.
2. `comparable_iff`, `Alike`: what comparable offers have in common.
3. `indexedCandidates_eq`: the index leads to all comparable triples.
4. `eligible_perm`, `selectMatched_perm`: the first candidate does not depend on their order.
5. `evaluate_perm`: the result does not depend on the order of the offers.
-/

namespace SmartStay.SplitF0

open Contract

variable {rt : Runtime} {scenario : Scenario} {segments : Period × Period} {period : Period}
  {issue : ComparabilityIssue} {offer single : OfferSnapshot}
  {split : OfferSnapshot × OfferSnapshot}

/-! ## 1. Checked offers -/

theorem moneyToMinorUnits_le {value : ℚ} {m : ℤ} (h : splitF0MoneyToMinorUnits value = .ok m) :
    m ≤ maxSafeInteger := by
  unfold splitF0MoneyToMinorUnits at h
  split_ifs at h with _ _ hmax
  cases h
  exact not_lt.mp hmax

/-- An offer with an id, and with a cost that is a positive amount of money. -/
structure Priced (offer : OfferSnapshot) : Prop where
  id : isOpaqueId offer.offerSnapshotId = true
  cost : splitF0MoneyToMinorUnits offer.totalCost = .ok (costOf offer)
  pos : 0 < costOf offer

theorem Priced.le (h : Priced offer) : costOf offer ≤ maxSafeInteger := moneyToMinorUnits_le h.cost

/-- Without issues about provenance and cost an offer has an id and a cost. -/
theorem priced_of_issues
    (hprovenance : .provenanceIncomplete ∉ validateOfferForPeriod rt scenario offer period issue)
    (hcost : .totalCostIncomplete ∉ validateOfferForPeriod rt scenario offer period issue) :
    Priced offer := by
  rw [validateOfferForPeriod, mem_uniqueSortedBy] at hprovenance hcost
  simp only [List.mem_append, not_or, and_assoc] at hprovenance hcost
  obtain ⟨-, hids, -⟩ := hprovenance
  obtain ⟨-, -, -, -, hmoney, -⟩ := hcost
  have hid : isOpaqueId offer.offerSnapshotId = true := by
    by_contra hnot
    simp [hnot] at hids
  cases hunits : splitF0MoneyToMinorUnits offer.totalCost with
  | error => simp [totalCostMinorUnits, hunits, Except.toOption] at hmoney
  | ok m =>
    have hcostOf : costOf offer = m := by
      simp [costOf, totalCostMinorUnits, hunits, Except.toOption]
    refine ⟨hid, by rw [hcostOf, hunits], ?_⟩
    by_contra hnot
    rw [hcostOf] at hnot
    simp [totalCostMinorUnits, hunits, Except.toOption, not_lt.mp hnot] at hmoney

theorem priced_of_eligible (h : isEligible rt scenario offer = true) : Priced offer := by
  have hall := List.all_eq_true.mp h
  have hnot : ∀ i ∉ nonEssentialFixedBaselineIssues,
      i ∉ validateOfferForPeriod rt scenario offer scenario.period .singlePeriodInvalid :=
    fun i hi hmem => hi (by simpa using hall i hmem)
  exact priced_of_issues (hnot _ (by decide)) (hnot _ (by decide))

theorem priced_of_valid (h : validateOfferForPeriod rt scenario offer period issue = []) :
    Priced offer :=
  priced_of_issues (h ▸ List.not_mem_nil) (h ▸ List.not_mem_nil)

/-! ## 2. Comparable offers -/

/-- What a triple of comparable offers has in common. -/
structure Alike (rt : Runtime) (single other : OfferSnapshot) : Prop where
  currency : other.currency = single.currency
  occupancy : occupancyKey rt other.occupancy = occupancyKey rt single.occupancy
  boardClass : other.boardClass = single.boardClass
  cancellationClass : other.cancellationClass = single.cancellationClass
  roomClass : other.roomClass = single.roomClass
  comparableRoom : single.roomClass ∈ comparableRoomClasses

theorem alike_of_issues {other : OfferSnapshot} (h : splitOfferIssues rt single other = []) :
    Alike rt single other := by
  simp only [splitOfferIssues, List.append_eq_nil_iff, ite_eq_right_iff, List.cons_ne_nil, imp_false,
    and_assoc, not_not, sameOccupancy, Bool.not_eq_true', decide_eq_false_iff_not, Bool.or_eq_true,
    decide_eq_true_eq, not_or] at h
  obtain ⟨hcurrency, hoccupancy, hboard, hcancellation, hroom, -, hsame⟩ := h
  exact ⟨hcurrency, hoccupancy, hboard, hcancellation, hsame.symm, hroom⟩

/-- The facts about offers that `classifySplitF0OfferComparabilityV1` finds comparable. -/
structure Comparable (rt : Runtime) (scenario : Scenario) (segments : Period × Period)
    (single : OfferSnapshot) (split : OfferSnapshot × OfferSnapshot) : Prop where
  singleValid : validateOfferForPeriod rt scenario single scenario.period .singlePeriodInvalid = []
  firstValid : validateOfferForPeriod rt scenario split.1 segments.1 .splitPeriodInvalid = []
  secondValid : validateOfferForPeriod rt scenario split.2 segments.2 .splitPeriodInvalid = []
  firstAlike : Alike rt single split.1
  secondAlike : Alike rt single split.2

theorem issues_of_comparable
    (h : (classifySplitF0OfferComparability rt scenario segments single split).comparable.isSome =
      true) : comparabilityIssues rt scenario segments single split = [] := by
  unfold classifySplitF0OfferComparability at h
  dsimp only at h
  split at h
  · cases h
  · next hlength => exact List.length_eq_zero_iff.mp (Nat.eq_zero_of_not_pos hlength)

theorem comparable_of_isSome
    (h : (classifySplitF0OfferComparability rt scenario segments single split).comparable.isSome =
      true) : Comparable rt scenario segments single split := by
  have hissues := issues_of_comparable h
  rw [comparabilityIssues, uniqueSortedBy_eq_nil] at hissues
  simp only [List.append_eq_nil_iff, and_assoc] at hissues
  obtain ⟨-, -, hsingle, hfirst, hsecond, -, hfirstAlike, hsecondAlike, -⟩ := hissues
  exact ⟨hsingle, hfirst, hsecond, alike_of_issues hfirstAlike, alike_of_issues hsecondAlike⟩

theorem structuralKey_alike {other : OfferSnapshot} (halike : Alike rt single other)
    {period' : Period} {issue' : ComparabilityIssue}
    (hsingle : validateOfferForPeriod rt scenario single period issue = [])
    (hother : validateOfferForPeriod rt scenario other period' issue' = []) :
    structuralKey rt scenario period' issue' other = structuralKey rt scenario period issue single ∧
      (structuralKey rt scenario period issue single).isSome = true := by
  have hroom := halike.comparableRoom
  simp [structuralKey, hsingle, hother, halike.currency, halike.occupancy, halike.boardClass,
    halike.cancellationClass, halike.roomClass, hroom]

/-! ## 3. The index -/

/-- The candidates of all triples of offers. -/
def allCandidates (rt : Runtime) (scenario : Scenario) (segments : Period × Period)
    (singles firsts seconds : List OfferSnapshot) : List Candidate :=
  ((firsts ×ˢ seconds) ×ˢ singles).filterMap fun triple =>
    classifyCandidate rt scenario segments triple.2 triple.1

theorem classifyCandidate_isSome :
    (classifyCandidate rt scenario segments single split).isSome =
      (classifySplitF0OfferComparability rt scenario segments single split).comparable.isSome := by
  rw [classifyCandidate, candidateFromClassification, Option.isSome_map]

theorem classifyCandidate_none (h : ¬ Comparable rt scenario segments single split) :
    classifyCandidate rt scenario segments single split = none := by
  rw [← Option.not_isSome_iff_eq_none, classifyCandidate_isSome]
  exact fun hsome => h (comparable_of_isSome hsome)

/-- The index leads to all comparable triples of offers. -/
theorem indexedCandidates_eq (rt : Runtime) (scenario : Scenario) (segments : Period × Period)
    (singles firsts seconds : List OfferSnapshot) :
    indexedCandidates rt scenario segments singles firsts seconds =
      allCandidates rt scenario segments singles firsts seconds := by
  rw [allCandidates, HashIndex.filterMap_product, HashIndex.flatMap_product, indexedCandidates]
  have hkeys : ∀ {first second single}, Comparable rt scenario segments single (first, second) →
      ∃ key, structuralKey rt scenario segments.1 .splitPeriodInvalid first = some key ∧
        structuralKey rt scenario segments.2 .splitPeriodInvalid second = some key ∧
        structuralKey rt scenario scenario.period .singlePeriodInvalid single = some key := by
    intro first second single h
    obtain ⟨hfirst, hsome⟩ := structuralKey_alike h.firstAlike h.singleValid h.firstValid
    obtain ⟨hsecond, -⟩ := structuralKey_alike h.secondAlike h.singleValid h.secondValid
    obtain ⟨key, hkey⟩ := Option.isSome_iff_exists.mp hsome
    exact ⟨key, hfirst.trans hkey, hsecond.trans hkey, hkey⟩
  have hnil : ∀ {first second}, (∀ single, ¬ Comparable rt scenario segments single (first, second)) →
      (singles.filterMap fun single =>
        classifyCandidate rt scenario segments single (first, second)) = [] := fun hnone =>
    List.filterMap_eq_nil_iff.mpr fun single _ => classifyCandidate_none (hnone single)
  refine List.flatMap_congr fun first _ => ?_
  cases hfirst : structuralKey rt scenario segments.1 .splitPeriodInvalid first with
  | none =>
    refine (List.flatMap_eq_nil_iff.mpr fun second _ => hnil fun single h => ?_).symm
    obtain ⟨key, hkey, -⟩ := hkeys h
    rw [hfirst] at hkey
    cases hkey
  | some key =>
    refine List.flatMap_congr fun second _ => ?_
    split
    · refine HashIndex.filterMap_get fun single _ hsome => ?_
      rw [classifyCandidate_isSome] at hsome
      obtain ⟨key', hfirst', -, hsingle⟩ := hkeys (comparable_of_isSome hsome)
      rw [hsingle, ← hfirst', hfirst]
    · next hne =>
      refine (hnil fun single h => ?_).symm
      obtain ⟨key', hfirst', hsecond', -⟩ := hkeys h
      exact hne (hsecond'.trans (hfirst'.symm.trans hfirst))

/-! ## 4. The order of the candidates -/

/-- What is needed of `localeCompare`: an order that tells ids apart. -/
structure LocaleOrder (rt : Runtime) : Prop where
  trans : Std.TransCmp rt.localeCompare
  eq_of_ids : ∀ first second, isOpaqueId first = true → isOpaqueId second = true →
    rt.localeCompare first second = .eq → first = second

theorem LocaleOrder.comap {α : Type} (h : LocaleOrder rt) (f : α → String) :
    Std.TransCmp fun a b => rt.localeCompare (f a) (f b) :=
  have := h.trans
  JsSort.transCmp_comap rt.localeCompare f

theorem transCmp_costs (h : LocaleOrder rt) : Std.TransCmp (compareCosts rt) := by
  have := h.comap OfferSnapshot.offerSnapshotId
  exact inferInstanceAs (Std.TransCmp (compareLex (compareOn costOf)
    fun left right : OfferSnapshot =>
      rt.localeCompare left.offerSnapshotId right.offerSnapshotId))

theorem transCmp_candidates (h : LocaleOrder rt) : Std.TransCmp (sortCandidates rt) := by
  have hsingle := h.comap fun c : Candidate => c.single.offerSnapshotId
  have hfirst := h.comap fun c : Candidate => c.split.1.offerSnapshotId
  have hsecond := h.comap fun c : Candidate => c.split.2.offerSnapshotId
  have hsaving : Std.TransCmp fun left right : Candidate =>
      compare right.grossSavingMinorUnits left.grossSavingMinorUnits :=
    JsSort.transCmp_flip (compareOn Candidate.grossSavingMinorUnits)
  exact inferInstanceAs (Std.TransCmp (compareLex
    (compareOn fun c : Candidate => c.comparabilityLevel.rank) (compareLex
      (fun left right : Candidate =>
        compare right.grossSavingMinorUnits left.grossSavingMinorUnits) (compareLex
      (compareOn Candidate.splitTotalMinorUnits) (compareLex
      (fun left right : Candidate =>
        rt.localeCompare left.single.offerSnapshotId right.single.offerSnapshotId) (compareLex
      (fun left right : Candidate =>
        rt.localeCompare left.split.1.offerSnapshotId right.split.1.offerSnapshotId)
      fun left right : Candidate =>
        rt.localeCompare left.split.2.offerSnapshotId right.split.2.offerSnapshotId))))))

/-- The ids of an offer list tell the offers apart. -/
def DistinctIds (offers : List OfferSnapshot) : Prop := (offers.map (·.offerSnapshotId)).Nodup

/-- Eligible offers are sorted in one way, whatever their order was. -/
theorem eligible_perm (h : LocaleOrder rt) {offers offers' : List OfferSnapshot}
    (hperm : offers.Perm offers') (hids : DistinctIds offers) :
    eligibleFixedSingleOffers rt scenario offers = eligibleFixedSingleOffers rt scenario offers' := by
  have := transCmp_costs h
  refine JsSort.sortBy_eq_of_perm (hperm.filter _) ?_
  have hne : (offers.filter (isEligible rt scenario)).Pairwise fun a b =>
      a.offerSnapshotId ≠ b.offerSnapshotId :=
    (List.pairwise_map.mp hids).sublist List.filter_sublist
  refine hne.imp_of_mem fun ha hb hab heq => hab ?_
  have hcosts := Ordering.then_eq_eq.mp heq
  exact h.eq_of_ids _ _ (priced_of_eligible (List.of_mem_filter ha)).id
    (priced_of_eligible (List.of_mem_filter hb)).id hcosts.2

/-- The ids of the three offers of a candidate. -/
def Candidate.ids (c : Candidate) : String × String × String :=
  (c.single.offerSnapshotId, c.split.1.offerSnapshotId, c.split.2.offerSnapshotId)

theorem classifyCandidate_some {c : Candidate}
    (h : classifyCandidate rt scenario segments single split = some c) :
    Comparable rt scenario segments single split ∧ c.single = single ∧ c.split = split := by
  have hsome : (classifyCandidate rt scenario segments single split).isSome = true := by rw [h]; rfl
  rw [classifyCandidate_isSome] at hsome
  refine ⟨comparable_of_isSome hsome, ?_⟩
  rw [classifyCandidate, candidateFromClassification, Option.map_eq_some_iff] at h
  obtain ⟨comparable, -, rfl⟩ := h
  exact ⟨rfl, rfl⟩

theorem eq_of_sorted_alike (h : LocaleOrder rt) {a b : Candidate}
    (ha : Comparable rt scenario segments a.single a.split)
    (hb : Comparable rt scenario segments b.single b.split) (heq : sortCandidates rt a b = .eq) :
    a.ids = b.ids := by
  simp only [sortCandidates, Ordering.then_eq_eq] at heq
  obtain ⟨-, -, -, hsingle, hfirst, hsecond⟩ := heq
  exact Prod.ext
    (h.eq_of_ids _ _ (priced_of_valid ha.singleValid).id (priced_of_valid hb.singleValid).id hsingle)
    (Prod.ext
      (h.eq_of_ids _ _ (priced_of_valid ha.firstValid).id (priced_of_valid hb.firstValid).id hfirst)
      (h.eq_of_ids _ _ (priced_of_valid ha.secondValid).id (priced_of_valid hb.secondValid).id
        hsecond))

/-- No two candidates of the list sort alike. -/
def DistinctCandidates (rt : Runtime) (candidates : List Candidate) : Prop :=
  candidates.Pairwise fun a b => sortCandidates rt a b ≠ .eq

/-- Candidates of different triples of ids are distinct. -/
theorem distinct_filterMap (h : LocaleOrder rt) {τ : Type} {triples : List τ}
    {find : τ → Option Candidate} {ids : τ → String × String × String}
    (hids : (triples.map ids).Nodup) (hfind : ∀ t c, find t = some c →
      c.ids = ids t ∧ Comparable rt scenario segments c.single c.split) :
    DistinctCandidates rt (triples.filterMap find) := by
  refine List.pairwise_filterMap.mpr ((List.pairwise_map.mp hids).imp ?_)
  intro t t' hne c hc c' hc' heq
  obtain ⟨hidsEq, hcomparable⟩ := hfind t c hc
  obtain ⟨hidsEq', hcomparable'⟩ := hfind t' c' hc'
  exact hne (hidsEq ▸ hidsEq' ▸ eq_of_sorted_alike h hcomparable hcomparable' heq)

theorem classifyCandidate_ids {c : Candidate}
    (h : classifyCandidate rt scenario segments single split = some c) :
    c.ids = (single.offerSnapshotId, split.1.offerSnapshotId, split.2.offerSnapshotId) ∧
      Comparable rt scenario segments c.single c.split := by
  obtain ⟨hcomparable, rfl, rfl⟩ := classifyCandidate_some h
  exact ⟨rfl, hcomparable⟩

section Lists

variable {singles firsts seconds singles' firsts' seconds' : List OfferSnapshot}

theorem distinct_allCandidates (h : LocaleOrder rt) (hsingles : DistinctIds singles)
    (hfirsts : DistinctIds firsts) (hseconds : DistinctIds seconds) :
    DistinctCandidates rt (allCandidates rt scenario segments singles firsts seconds) := by
  have hids := HashIndex.nodup_product (HashIndex.nodup_product hfirsts hseconds) hsingles
  have hinj : Function.Injective fun t : (String × String) × String => (t.2, t.1.1, t.1.2) := by
    rintro ⟨⟨a, b⟩, c⟩ ⟨⟨a', b'⟩, c'⟩ heq
    simpa [and_assoc, and_comm, and_left_comm] using heq
  have hnodup := hids.map hinj
  rw [List.map_map] at hnodup
  exact distinct_filterMap h hnodup fun _ _ hc => classifyCandidate_ids hc

theorem distinct_pairCandidates (h : LocaleOrder rt) (single : OfferSnapshot)
    (hfirsts : DistinctIds firsts) (hseconds : DistinctIds seconds) :
    DistinctCandidates rt ((firsts ×ˢ seconds).filterMap
      (classifyCandidate rt scenario segments single)) := by
  have hinj : Function.Injective fun t : String × String => (single.offerSnapshotId, t.1, t.2) := by
    rintro ⟨a, b⟩ ⟨a', b'⟩ heq
    simpa using heq
  have hnodup := (HashIndex.nodup_product hfirsts hseconds).map hinj
  rw [List.map_map] at hnodup
  exact distinct_filterMap h hnodup fun _ _ hc => classifyCandidate_ids hc

theorem allCandidates_perm (hsingles : singles.Perm singles') (hfirsts : firsts.Perm firsts')
    (hseconds : seconds.Perm seconds') :
    (allCandidates rt scenario segments singles firsts seconds).Perm
      (allCandidates rt scenario segments singles' firsts' seconds') :=
  ((hfirsts.product hseconds).product hsingles).filterMap _

/-- The cheapest single stay of a bucket does not depend on the order of the candidates. -/
theorem cheapest_perm {candidates candidates' : List Candidate}
    (hperm : candidates.Perm candidates') (key : String) :
    ((cheapestSingleByBucket rt candidates).find? (·.1 == key)).map Prod.snd =
      ((cheapestSingleByBucket rt candidates').find? (·.1 == key)).map Prod.snd := by
  rw [cheapestSingleByBucket, cheapestSingleByBucket, Grouping.find?_groupInto,
    Grouping.find?_groupInto]
  exact Grouping.combined_keepLess_perm (hperm.filter _)

theorem selectMatched_perm (h : LocaleOrder rt) {candidates candidates' : List Candidate}
    (hperm : candidates.Perm candidates') (hdistinct : DistinctCandidates rt candidates) :
    selectMatched rt candidates = selectMatched rt candidates' := by
  have := transCmp_candidates h
  unfold selectMatched
  dsimp only
  simp only [cheapest_perm hperm]
  rw [JsSort.sortBy_eq_of_perm (hperm.filter _) (hdistinct.sublist List.filter_sublist)]

end Lists

/-! ## 5. The order of the offers -/

theorem noComparableResult_congr {scenarioId splitPointId : String} {issues issues' : List String}
    {valid : Bool} {baseline : Option FixedSingleBaseline}
    {diagnostic : Option MatchedBucketDiagnostic} (h : ∀ x, x ∈ issues ↔ x ∈ issues') :
    noComparableResult scenarioId splitPointId issues valid baseline diagnostic =
      noComparableResult scenarioId splitPointId issues' valid baseline diagnostic := by
  unfold noComparableResult
  rw [uniqueSorted_congr h]

/-- The same evaluation with the offers in another order. -/
structure Reordered (input input' : EvaluationInput) : Prop where
  scenario : input'.scenario = input.scenario
  splitPointId : input'.splitPointId = input.splitPointId
  baseline : input'.fixedSingleBaseline = input.fixedSingleBaseline
  singles : input'.singleStayOffers.Perm input.singleStayOffers
  firsts : input'.firstSegmentOffers.Perm input.firstSegmentOffers
  seconds : input'.secondSegmentOffers.Perm input.secondSegmentOffers

/-- The ids of each of the three offer lists tell its offers apart. -/
structure DistinctOffers (input : EvaluationInput) : Prop where
  singles : DistinctIds input.singleStayOffers
  firsts : DistinctIds input.firstSegmentOffers
  seconds : DistinctIds input.secondSegmentOffers

section Input

variable {input input' : EvaluationInput}

theorem diagnostic_perm (h : LocaleOrder rt) (hids : DistinctOffers input)
    (hsame : Reordered input input') (baseline : Option FixedSingleBaseline) :
    buildMatchedBucketDiagnostic rt input.scenario segments input'.singleStayOffers
        input'.firstSegmentOffers input'.secondSegmentOffers baseline =
      buildMatchedBucketDiagnostic rt input.scenario segments input.singleStayOffers
        input.firstSegmentOffers input.secondSegmentOffers baseline := by
  unfold buildMatchedBucketDiagnostic describeMatched
  rw [indexedCandidates_eq, indexedCandidates_eq,
    selectMatched_perm h (allCandidates_perm hsame.singles.symm hsame.firsts.symm hsame.seconds.symm)
      (distinct_allCandidates h hids.singles hids.firsts hids.seconds),
    eligible_perm h hsame.singles.symm hids.singles]

theorem comparableResult_congr (hsame : Reordered input input') (baseline : FixedSingleBaseline)
    (diagnostic : Option MatchedBucketDiagnostic) (eligible : List OfferSnapshot)
    (selected : Candidate) : comparableResult rt input' baseline diagnostic eligible selected =
      comparableResult rt input baseline diagnostic eligible selected := by
  unfold comparableResult
  rw [hsame.scenario, hsame.splitPointId]

theorem mem_noSplitIssues {rejected : List ComparabilityIssue} {x : String} :
    x ∈ noSplitIssues rejected ↔ x = "NO_COMPARABLE_SPLIT_FOR_FIXED_BASELINE" ∨
      (∃ i ∈ rejected, i.text = x) ∨ (∀ i, i ∉ rejected) ∧ x = "no-offers" := by
  cases rejected with
  | nil => simp [noSplitIssues]
  | cons first rest =>
    have hnot : ¬ ∀ i, i ∉ first :: rest := fun h => h first List.mem_cons_self
    rw [noSplitIssues, if_pos (by simp), List.mem_cons, List.mem_map]
    simp only [mem_uniqueSortedBy, hnot, false_and, or_false]

theorem compareWithFixed_perm (h : LocaleOrder rt) (hids : DistinctOffers input)
    (hsame : Reordered input input') (eligible : List OfferSnapshot) (fixed : OfferSnapshot)
    (baseline : FixedSingleBaseline) (diagnostic : Option MatchedBucketDiagnostic) :
    compareWithFixed rt input' segments eligible fixed baseline diagnostic =
      compareWithFixed rt input segments eligible fixed baseline diagnostic := by
  have := transCmp_candidates h
  have hpairs : (offerPairs input').Perm (offerPairs input) := hsame.firsts.product hsame.seconds
  have hsorted : JsSort.sortBy (sortCandidates rt) (pairCandidates rt input' segments fixed) =
      JsSort.sortBy (sortCandidates rt) (pairCandidates rt input segments fixed) := by
    have hcandidates := hpairs.filterMap (classifyCandidate rt input.scenario segments fixed)
    rw [pairCandidates, hsame.scenario]
    exact (JsSort.sortBy_eq_of_perm hcandidates.symm
      (distinct_pairCandidates h fixed hids.firsts hids.seconds)).symm
  have hrejected : ∀ i, i ∈ rejectedIssues rt input' segments fixed ↔
      i ∈ rejectedIssues rt input segments fixed := fun i => by
    simp only [rejectedIssues, hsame.scenario, List.mem_flatMap, List.mem_filter, hpairs.mem_iff]
  unfold compareWithFixed
  dsimp only
  rw [hsorted, hsame.scenario, hsame.splitPointId]
  split
  · refine congrArg _ (noComparableResult_congr fun x => ?_)
    simp only [mem_noSplitIssues, hrejected]
  · exact comparableResult_congr hsame _ _ _ _

theorem evaluateSegments_perm (h : LocaleOrder rt) (hids : DistinctOffers input)
    (hsame : Reordered input input') :
    evaluateSegments rt input' segments = evaluateSegments rt input segments := by
  have heligible : eligibleFixedSingleOffers rt input.scenario input'.singleStayOffers =
      eligibleFixedSingleOffers rt input.scenario input.singleStayOffers :=
    (eligible_perm h hsame.singles.symm hids.singles).symm
  unfold evaluateSegments summarizeFixedBaseline
  simp only [hsame.scenario, hsame.splitPointId, hsame.baseline, heligible,
    diagnostic_perm h hids hsame, compareWithFixed_perm h hids hsame]

/-- The order of the offers changes nothing in the result. -/
theorem evaluate_perm (h : LocaleOrder rt) (hids : DistinctOffers input)
    (hsame : Reordered input input') : evaluateSplitF0EconomicOpportunity rt input' =
      evaluateSplitF0EconomicOpportunity rt input := by
  unfold evaluateSplitF0EconomicOpportunity
  simp only [hsame.scenario, hsame.splitPointId, evaluateSegments_perm h hids hsame]

end Input

end SmartStay.SplitF0
