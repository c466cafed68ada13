import Mathlib.Data.List.Sym
import SmartStay.Geometry.Soundness
import SmartStay.Lib.Distinct

/-!
# When a genuine geometry is valid

`assertDecisionGeometry` requires the ids of comparisons, segments and thresholds to be unique,
and these ids are 32-bit hashes.

1. `relation_valid`, `comparison_valid`, `threshold_valid`, `segment_valid`: every other clause
   holds of what `evaluateDecisionGeometry` makes.
2. `pairs_pairwise`, `segments_nodup`: no two entries are about the same hotels.
3. `assert_iff`: a genuine geometry is accepted unless two ids collide.
4. `assert_collision`: three hotels with two colliding comparisons.
-/

namespace SmartStay.Geometry

open Contract JsSort

variable {rt : Runtime} {o : ResolvedOptions} {a b : NormalizedCandidate}
  {l : List NormalizedCandidate} {g : DecisionGeometry} {ids : List String}

/-! ## 1. The clauses -/

theorem benefitAdvantages_dimensions {dims : List BenefitDimension}
    {advantages : List (GeometryDimension × ℚ)} (h : benefitAdvantages o a b dims = some advantages) :
    advantages.map Prod.fst = dims.map .benefit := by
  induction dims generalizing advantages with
  | nil =>
    cases h
    rfl
  | cons dimension rest ih =>
    simp only [benefitAdvantages, Option.bind_eq_bind, Option.bind_eq_some_iff] at h
    obtain ⟨dominant, -, dominated, -, h⟩ := h
    split at h
    · cases h
    · simp only [Option.bind_eq_some_iff, Option.some.injEq] at h
      obtain ⟨advantages', hrest, rfl⟩ := h
      rw [List.map_cons, List.map_cons, ih hrest]

/-- The better dimensions are distinct. -/
theorem betterAdvantages_nodup (dominatedCost costAdvantage : ℚ)
    {advantages : List (GeometryDimension × ℚ)}
    (h : advantages.map Prod.fst = benefitDimensions.map .benefit) :
    ((betterAdvantages o dominatedCost costAdvantage advantages).map Prod.fst).Nodup := by
  have hsublist : ((betterAdvantages o dominatedCost costAdvantage advantages).map Prod.fst).Sublist
      allDimensions := by
    have hcost : ((if materialCostImprovement o dominatedCost ≤ costAdvantage then
        [(GeometryDimension.totalCost,
          if 0 < dominatedCost then costAdvantage / dominatedCost * 100 else 0)]
        else []).map Prod.fst).Sublist [GeometryDimension.totalCost] := by
      split <;> simp
    have hbenefits : ((advantages.filter fun a => o.benefitMaterialImprovement ≤ a.2).map
        Prod.fst).Sublist (benefitDimensions.map .benefit) :=
      h ▸ List.filter_sublist.map Prod.fst
    unfold betterAdvantages
    rw [List.map_append]
    exact hcost.append hbenefits
  exact hsublist.nodup (by decide)

theorem length_uniqueSortedDimensions {dimensions : List GeometryDimension}
    (h : dimensions.Nodup) : (uniqueSortedDimensions dimensions).length = dimensions.length := by
  rw [uniqueSortedDimensions, List.length_insertionSort, h.dedup]

theorem relation_valid {r : DominanceRelation} (h : createDominanceRelation rt o a b = some r)
    (hne : a.hotelId ≠ b.hotelId) (ha : a.hotelId ∈ ids) (hb : b.hotelId ∈ ids) :
    relationValid ids r = true := by
  simp only [createDominanceRelation] at h
  split at h
  · cases h
  simp only [Option.bind_eq_bind, Option.bind_eq_some_iff] at h
  obtain ⟨dominatorCost, -, dominatedCost, -, h⟩ := h
  split at h
  · cases h
  simp only [Option.bind_eq_some_iff] at h
  obtain ⟨advantages, hadvantages, h⟩ := h
  split at h
  · cases h
  next hbetter =>
  cases h
  have hnodup := betterAdvantages_nodup (o := o) dominatedCost (dominatedCost - dominatorCost)
    (benefitAdvantages_dimensions hadvantages)
  have hlength := length_uniqueSortedDimensions hnodup
  rw [List.length_map] at hlength
  have hstrict : "strict-all" ≠ "pareto-non-worse" := by decide
  have hall : allDimensions ≠ [] := List.cons_ne_nil _ _
  simp only [relationValid, DominanceRelation.kinds, hlength]
  split
  · next hevery => simp [hne, ha, hb, of_decide_eq_true hevery, List.length_pos_iff, hall]
  · simp [hne, ha, hb, hstrict, Nat.pos_of_ne_zero hbetter]

theorem comparison_valid {relations : List DominanceRelation} (hne : a.hotelId ≠ b.hotelId)
    (ha : a.hotelId ∈ ids) (hb : b.hotelId ∈ ids) :
    comparisonValid ids (createPairwiseComparison rt o relations a b) = true := by
  unfold createPairwiseComparison
  split
  · simp [comparisonValid, hne, ha, hb]
  · have hfound : ∀ r, ((relations.find? fun r =>
        r.dominantHotelId = a.hotelId && r.dominatedHotelId = b.hotelId).or
          (relations.find? fun r =>
            r.dominantHotelId = b.hotelId && r.dominatedHotelId = a.hotelId)) = some r →
        r.dominantHotelId = a.hotelId ∨ r.dominantHotelId = b.hotelId := by
      intro r hr
      rcases Option.or_eq_some_iff.mp hr with hr | ⟨-, hr⟩
      · have hdominant := List.find?_some hr
        simp only [Bool.and_eq_true, decide_eq_true_eq] at hdominant
        exact .inl hdominant.1
      · have hdominant := List.find?_some hr
        simp only [Bool.and_eq_true, decide_eq_true_eq] at hdominant
        exact .inr hdominant.1
    dsimp only
    generalize ((relations.find? fun r =>
        r.dominantHotelId = a.hotelId && r.dominatedHotelId = b.hotelId).or
          (relations.find? fun r =>
            r.dominantHotelId = b.hotelId && r.dominatedHotelId = a.hotelId)) = direct at hfound
    cases direct with
    | none =>
      dsimp only
      split_ifs <;> simp [comparisonValid, hne, hne.symm, ha, hb]
    | some r =>
      rcases hfound r rfl with hr | hr <;> simp [comparisonValid, hr, hne, hne.symm, ha, hb]

/-- More than a cent is not rounded to nothing. -/
theorem round_pos {x : ℚ} (h : 1 / 100 < x) : 0 < Contract.round x 2 := by
  refine lt_of_lt_of_le ?_ (round_mono h.le 2)
  norm_num [Contract.round, JsNumber.round]

/-- A threshold is about the two hotels of its comparison. -/
def About (t : TradeOffThreshold) (x y : String) : Prop :=
  (t.lowerCostHotelId = x ∧ t.higherCostHotelId = y) ∨
    (t.lowerCostHotelId = y ∧ t.higherCostHotelId = x)

theorem threshold_spec {t : TradeOffThreshold} (h : createTradeOffThreshold rt a b = some t) :
    About t a.hotelId b.hotelId ∧
    0 < t.actualPremiumAmount ∧ t.actualSavingAmount = t.actualPremiumAmount ∧
    (t.exact = true → t.higherCostMaximumSensiblePrice.status = .available ∨
      t.lowerCostMaximumSensiblePrice.status = .available) := by
  simp only [createTradeOffThreshold, Option.bind_eq_bind, Option.bind_eq_some_iff] at h
  obtain ⟨firstCost, -, secondCost, -, h⟩ := h
  split at h
  · cases h
  next hguard =>
  have hgap : 1 / 100 < |firstCost - secondCost| := by
    simp only [Bool.or_eq_true, not_or, decide_eq_true_eq] at hguard
    exact not_le.mp hguard.2
  by_cases hlt : firstCost < secondCost
  · simp only [hlt, if_true] at h
    cases h
    refine ⟨.inl ⟨rfl, rfl⟩, round_pos ?_, rfl, fun hexact => by simpa using hexact⟩
    rwa [abs_of_neg (by linarith), neg_sub] at hgap
  · simp only [hlt, if_false] at h
    cases h
    refine ⟨.inr ⟨rfl, rfl⟩, round_pos ?_, rfl, fun hexact => by simpa using hexact⟩
    rwa [abs_of_nonneg (by linarith)] at hgap

theorem threshold_valid {t : TradeOffThreshold} (h : createTradeOffThreshold rt a b = some t)
    (hne : a.hotelId ≠ b.hotelId) (ha : a.hotelId ∈ ids) (hb : b.hotelId ∈ ids) :
    thresholdValid ids t = true := by
  obtain ⟨habout, hpremium, hsaving, hexact⟩ := threshold_spec h
  have hexact' : t.exact = false ∨ t.higherCostMaximumSensiblePrice.status = .available ∨
      t.lowerCostMaximumSensiblePrice.status = .available := by
    cases he : t.exact with
    | false => exact .inl rfl
    | true => exact .inr (hexact he)
  rcases habout with ⟨hlower, hhigher⟩ | ⟨hlower, hhigher⟩ <;>
    simp [thresholdValid, hlower, hhigher, hne, hne.symm, ha, hb, hpremium, hsaving, or_assoc,
      hexact']

/-- The segments of a group: about two of its hotels each, with a rising cost, and with
    distinct hotels at the lower end. -/
theorem segmentsFrom_spec (rt : Runtime) (peerGroupId : String) (slope : Option ℚ) {lower : Point}
    {points : List Point} (hnodup : ((lower :: points).map (·.1.hotelId)).Nodup) :
    (∀ s ∈ segmentsFrom rt peerGroupId slope lower points,
      s.lowerCostHotelId ≠ s.higherCostHotelId ∧
        s.higherCostHotelId ∈ points.map (·.1.hotelId) ∧ 0 < s.incrementalCost) ∧
    ((segmentsFrom rt peerGroupId slope lower points).map (·.lowerCostHotelId)).Sublist
      ((lower :: points).map (·.1.hotelId)) := by
  induction points generalizing slope lower with
  | nil => exact ⟨by simp [segmentsFrom], List.nil_sublist _⟩
  | cons higher rest ih =>
    obtain ⟨hlower, hrest⟩ := List.nodup_cons.mp hnodup
    unfold segmentsFrom
    dsimp only
    split
    · obtain ⟨hsegments, hsublist⟩ := ih slope hrest
      refine ⟨fun s hs => ?_, hsublist.cons _⟩
      obtain ⟨hne, hmem, hpos⟩ := hsegments s hs
      exact ⟨hne, List.mem_cons_of_mem _ hmem, hpos⟩
    · next hguard =>
      have hgap : 1 / 100 < higher.2.1 - lower.2.1 := by
        simp only [Bool.or_eq_true, not_or, decide_eq_true_eq] at hguard
        exact not_le.mp hguard.1
      obtain ⟨hsegments, hsublist⟩ :=
        ih (some ((higher.2.2 - lower.2.2) / (higher.2.1 - lower.2.1))) hrest
      refine ⟨List.forall_mem_cons.mpr ⟨⟨?_, List.mem_cons_self, round_pos hgap⟩, fun s hs => ?_⟩,
        hsublist.cons_cons _⟩
      · rintro (heq : lower.1.hotelId = higher.1.hotelId)
        exact hlower (List.mem_cons.mpr (.inl heq))
      · obtain ⟨hne, hmem, hpos⟩ := hsegments s hs
        exact ⟨hne, List.mem_cons_of_mem _ hmem, hpos⟩

/-! ## 2. Distinct entries -/

variable {evaluations : List CandidateEvaluation}

theorem mem_groupPoints {peerGroupId : String} {p : Point}
    (h : p ∈ groupPoints l evaluations peerGroupId) :
    p.1 ∈ l ∧ p.1.peerAssignment.groupId = some peerGroupId := by
  simp only [groupPoints, mem_sortBy, List.mem_filterMap, List.mem_filter, Bool.and_eq_true,
    decide_eq_true_eq, Option.bind_eq_bind, Option.bind_eq_some_iff, Option.some.injEq] at h
  obtain ⟨c, ⟨hc, hgroup, -⟩, cost, -, utility, -, rfl⟩ := h
  exact ⟨hc, hgroup⟩

theorem groupPoints_nodup (evaluations : List CandidateEvaluation)
    (hnodup : (l.map (·.hotelId)).Nodup) (peerGroupId : String) :
    ((groupPoints l evaluations peerGroupId).map (·.1.hotelId)).Nodup := by
  refine ((sortBy_perm _ _).map _).nodup_iff.mpr
    (Distinct.nodup_map_filterMap (·.hotelId) (fun c _ p hp => ?_)
      ((List.filter_sublist.map _).nodup hnodup))
  simp only [Option.bind_eq_bind, Option.bind_eq_some_iff, Option.some.injEq] at hp
  obtain ⟨cost, -, utility, -, rfl⟩ := hp
  rfl

/-- The segments of one peer group. -/
def groupSegments (rt : Runtime) (l : List NormalizedCandidate)
    (evaluations : List CandidateEvaluation) (peerGroupId : String) : List MarginalValueSegment :=
  match groupPoints l evaluations peerGroupId with
  | [] => []
  | first :: rest => segmentsFrom rt peerGroupId none first rest

/-- A segment of a group: about two different hotels, the cheaper one of the group. -/
theorem groupSegments_spec (hnodup : (l.map (·.hotelId)).Nodup) (peerGroupId : String) :
    (∀ s ∈ groupSegments rt l evaluations peerGroupId,
      segmentValid (l.map (·.hotelId)) s = true ∧
        ∃ c ∈ l, c.hotelId = s.lowerCostHotelId ∧ c.peerAssignment.groupId = some peerGroupId) ∧
    ((groupSegments rt l evaluations peerGroupId).map (·.lowerCostHotelId)).Nodup := by
  have hpoints := groupPoints_nodup evaluations hnodup peerGroupId
  have hmem : ∀ p ∈ groupPoints l evaluations peerGroupId, _ := fun p => mem_groupPoints
  unfold groupSegments
  cases hgroup : groupPoints l evaluations peerGroupId with
  | nil => exact ⟨by simp, List.nodup_nil⟩
  | cons first rest =>
    rw [hgroup] at hpoints hmem
    obtain ⟨hsegments, hsublist⟩ := segmentsFrom_spec rt peerGroupId none hpoints
    refine ⟨fun s hs => ?_, hsublist.nodup hpoints⟩
    obtain ⟨hne, hhigher, hpos⟩ := hsegments s hs
    obtain ⟨low, hlow, hlowId⟩ :=
      List.mem_map.mp (hsublist.subset (List.mem_map_of_mem (f := (·.lowerCostHotelId)) hs))
    obtain ⟨high, hhigh, hhighId⟩ := List.mem_map.mp hhigher
    obtain ⟨hlowMem, hlowGroup⟩ := hmem low hlow
    have hhighMem := (hmem high (List.mem_cons_of_mem _ hhigh)).1
    refine ⟨?_, low.1, hlowMem, hlowId, hlowGroup⟩
    have hlowIds : s.lowerCostHotelId ∈ l.map (·.hotelId) :=
      List.mem_map.mpr ⟨low.1, hlowMem, hlowId⟩
    have hhighIds : s.higherCostHotelId ∈ l.map (·.hotelId) :=
      List.mem_map.mpr ⟨high.1, hhighMem, hhighId⟩
    unfold segmentValid
    rw [List.contains_iff_mem.mpr hlowIds, List.contains_iff_mem.mpr hhighIds]
    simp [hne, hpos]

theorem segments_spec (rt : Runtime) (evaluations : List CandidateEvaluation)
    (hnodup : (l.map (·.hotelId)).Nodup) :
    (∀ s ∈ createMarginalValueSegments rt l evaluations,
      segmentValid (l.map (·.hotelId)) s = true) ∧
    ((createMarginalValueSegments rt l evaluations).map
      fun s => (s.lowerCostHotelId, s.higherCostHotelId)).Nodup := by
  have hgroups : createMarginalValueSegments rt l evaluations = sortBy _
      ((uniqueSorted ((l.filter fun c => c.peerAssignment.directComparisonAllowed &&
        hasStatus evaluations .frontier c).filterMap fun c => c.peerAssignment.groupId)).flatMap
          (groupSegments rt l evaluations)) := rfl
  rw [hgroups]
  constructor
  · intro s hs
    obtain ⟨peerGroupId, -, hs⟩ := List.mem_flatMap.mp (mem_sortBy.mp hs)
    exact ((groupSegments_spec hnodup peerGroupId).1 s hs).1
  · refine List.Nodup.of_map Prod.fst ?_
    rw [List.map_map]
    refine ((sortBy_perm _ _).map _).nodup_iff.mpr ?_
    rw [List.map_flatMap, List.nodup_flatMap]
    refine ⟨fun peerGroupId _ => (groupSegments_spec hnodup peerGroupId).2, ?_⟩
    -- a hotel belongs to one group only
    have hunique : (uniqueSorted ((l.filter fun c => c.peerAssignment.directComparisonAllowed &&
        hasStatus evaluations .frontier c).filterMap fun c => c.peerAssignment.groupId)).Nodup :=
      (List.perm_insertionSort _ _).nodup_iff.mpr (List.nodup_dedup _)
    refine hunique.imp fun {x y} hxy => ?_
    intro hotelId hx hy
    obtain ⟨s, hs, rfl⟩ := List.mem_map.mp hx
    obtain ⟨t, ht, htId⟩ := List.mem_map.mp hy
    obtain ⟨-, c, hc, hcId, hcGroup⟩ := (groupSegments_spec hnodup x).1 s hs
    obtain ⟨-, d, hd, hdId, hdGroup⟩ := (groupSegments_spec hnodup y).1 t ht
    have hcd : c = d := List.inj_on_of_nodup_map hnodup hc hd (hcId.trans (hdId.trans htId).symm)
    rw [hcd, hdGroup] at hcGroup
    exact hxy (Option.some.inj hcGroup).symm

/-- The pairs of the two loops are those of the two ends of a list. -/
theorem pairs_sublist {α β : Type} (f : α → β) (values : List α) :
    ((pairs values).map fun p => s(f p.1, f p.2)).Sublist (values.map f).sym2 := by
  induction values with
  | nil => exact List.Sublist.slnil
  | cons first rest ih =>
    simp only [pairs, List.map_append, List.map_map, List.map_cons, List.sym2]
    exact ((List.Sublist.refl _).cons _).append ih

theorem mem_pairs {α : Type} {values : List α} {p : α × α} (h : p ∈ pairs values) :
    p.1 ∈ values ∧ p.2 ∈ values := by
  induction values with
  | nil => cases h
  | cons first rest ih =>
    rcases List.mem_append.mp h with h | h
    · obtain ⟨second, hsecond, rfl⟩ := List.mem_map.mp h
      exact ⟨List.mem_cons_self, List.mem_cons_of_mem _ hsecond⟩
    · exact ⟨List.mem_cons_of_mem _ (ih h).1, List.mem_cons_of_mem _ (ih h).2⟩

/-- Distinct values make pairs of distinct values. -/
theorem pairs_ne {α β : Type} {f : α → β} {values : List α} (h : (values.map f).Nodup)
    {p : α × α} (hp : p ∈ pairs values) : f p.1 ≠ f p.2 := by
  induction values with
  | nil => cases hp
  | cons first rest ih =>
    obtain ⟨hfirst, hrest⟩ := List.nodup_cons.mp h
    rcases List.mem_append.mp hp with hp | hp
    · obtain ⟨second, hsecond, rfl⟩ := List.mem_map.mp hp
      intro heq
      exact hfirst (List.mem_map.mpr ⟨second, hsecond, heq.symm⟩)
    · exact ih hrest hp

theorem createPairwiseComparison_ids (rt : Runtime) (o : ResolvedOptions) (relations : List DominanceRelation)
    (a b : NormalizedCandidate) :
    (createPairwiseComparison rt o relations a b).firstHotelId = a.hotelId ∧
      (createPairwiseComparison rt o relations a b).secondHotelId = b.hotelId ∧
      (createPairwiseComparison rt o relations a b).comparisonId =
        comparisonId rt a.hotelId b.hotelId := by
  unfold createPairwiseComparison
  split <;> exact ⟨rfl, rfl, rfl⟩

theorem nodup_of_unordered {α β : Type} {f h : α → β} {values : List α}
    (hkeys : (values.map fun a => s(f a, h a)).Nodup) :
    (values.map fun a => (f a, h a)).Nodup := by
  refine List.Nodup.of_map (fun key : β × β => s(key.1, key.2)) ?_
  rwa [List.map_map]

theorem comparisons_spec (rt : Runtime) (o : ResolvedOptions)
    (evaluations : List CandidateEvaluation) (relations : List DominanceRelation)
    (hnodup : (l.map (·.hotelId)).Nodup) :
    (∀ c ∈ createPairwiseComparisons rt o l evaluations relations,
      comparisonValid (l.map (·.hotelId)) c = true) ∧
    ((createPairwiseComparisons rt o l evaluations relations).map
      fun c => s(c.firstHotelId, c.secondHotelId)).Nodup := by
  have hfinalists := (List.filter_sublist (p := hasStatus evaluations .frontier).map
    (·.hotelId)).nodup hnodup
  unfold createPairwiseComparisons
  constructor
  · intro c hc
    obtain ⟨p, hp, rfl⟩ := List.mem_map.mp hc
    obtain ⟨hfirst, hsecond⟩ := mem_pairs hp
    exact comparison_valid (pairs_ne hfinalists hp)
      (List.mem_map_of_mem (List.mem_of_mem_filter hfirst))
      (List.mem_map_of_mem (List.mem_of_mem_filter hsecond))
  · have hhotels : (fun c : PairwiseComparison => s(c.firstHotelId, c.secondHotelId)) ∘
        (fun p : NormalizedCandidate × NormalizedCandidate =>
          createPairwiseComparison rt o relations p.1 p.2) =
        fun p => s(p.1.hotelId, p.2.hotelId) := by
      funext p
      obtain ⟨hfirst, hsecond, -⟩ := createPairwiseComparison_ids rt o relations p.1 p.2
      rw [Function.comp_apply, hfirst, hsecond]
    rw [List.map_map, hhotels]
    exact (pairs_sublist _ _).nodup hfinalists.sym2

theorem thresholds_spec (rt : Runtime) (o : ResolvedOptions)
    (evaluations : List CandidateEvaluation) (relations : List DominanceRelation)
    (hnodup : (l.map (·.hotelId)).Nodup) :
    (∀ t ∈ createTradeOffThresholds rt l (createPairwiseComparisons rt o l evaluations relations),
      thresholdValid (l.map (·.hotelId)) t = true) ∧
    ((createTradeOffThresholds rt l (createPairwiseComparisons rt o l evaluations relations)).map
      fun t => (t.lowerCostHotelId, t.higherCostHotelId)).Nodup := by
  obtain ⟨hvalid, hkeys⟩ := comparisons_spec rt o evaluations relations hnodup
  unfold createTradeOffThresholds
  have hfound : ∀ (c : PairwiseComparison) (t : TradeOffThreshold), (do
      let first ← l.find? fun d => d.hotelId = c.firstHotelId
      let second ← l.find? fun d => d.hotelId = c.secondHotelId
      createTradeOffThreshold rt first second) = some t →
      ∃ a ∈ l, ∃ b ∈ l, a.hotelId = c.firstHotelId ∧ b.hotelId = c.secondHotelId ∧
        createTradeOffThreshold rt a b = some t := by
    intro c t ht
    simp only [Option.bind_eq_bind, Option.bind_eq_some_iff] at ht
    obtain ⟨a, ha, b, hb, ht⟩ := ht
    exact ⟨a, List.mem_of_find?_eq_some ha, b, List.mem_of_find?_eq_some hb,
      by simpa using List.find?_some ha, by simpa using List.find?_some hb, ht⟩
  constructor
  · intro t ht
    simp only [mem_sortBy, List.mem_filterMap, List.mem_filter] at ht
    obtain ⟨c, ⟨hc, -⟩, ht⟩ := ht
    obtain ⟨a, ha, b, hb, hfirst, hsecond, ht⟩ := hfound c t ht
    have hne : a.hotelId ≠ b.hotelId := by
      have hc := hvalid c hc
      simp only [comparisonValid, Bool.and_eq_true, decide_eq_true_eq] at hc
      rw [hfirst, hsecond]
      exact hc.1.1.1.1
    exact threshold_valid ht hne (List.mem_map_of_mem ha) (List.mem_map_of_mem hb)
  · refine nodup_of_unordered (((sortBy_perm _ _).map _).nodup_iff.mpr (Distinct.nodup_map_filterMap
      (fun c => s(c.firstHotelId, c.secondHotelId)) (fun c _ t ht => ?_)
      ((List.filter_sublist.map _).nodup hkeys)))
    obtain ⟨a, -, b, -, hfirst, hsecond, ht⟩ := hfound c t ht
    rw [← hfirst, ← hsecond]
    rcases (threshold_spec ht).1 with ⟨hlower, hhigher⟩ | ⟨hlower, hhigher⟩
    · rw [hlower, hhigher]
    · rw [hlower, hhigher]
      exact Sym2.eq_swap

/-! ## 3. Accepted geometries -/

/-- No two comparisons, segments or thresholds about different hotels share an id. -/
structure GeometryCore.CollisionFree (g : GeometryCore) : Prop where
  comparisons : Distinct.NamesKeys PairwiseComparison.comparisonId
    (fun c => (c.firstHotelId, c.secondHotelId)) g.pairwiseFinalistComparisons
  segments : Distinct.NamesKeys MarginalValueSegment.segmentId
    (fun s => (s.lowerCostHotelId, s.higherCostHotelId)) g.marginalValueSegments
  thresholds : Distinct.NamesKeys TradeOffThreshold.thresholdId
    (fun t => (t.lowerCostHotelId, t.higherCostHotelId)) g.tradeOffThresholds

theorem allUnique_iff {α : Type} (id : α → String) {valid : α → Bool} {values : List α}
    (hvalid : ∀ a ∈ values, valid a = true) :
    allUnique id valid values = true ↔ (values.map id).Nodup := by
  simpa [allUnique] using fun _ => hvalid

theorem hotelIds_createGeometry (rt : Runtime) (o : ResolvedOptions)
    (l : List NormalizedCandidate) :
    (createGeometry rt o l).candidates.map (·.hotelId) = l.map (·.hotelId) ∧
      (createGeometry rt o l).points.map (·.hotelId) = l.map (·.hotelId) := by
  constructor <;> simp [createGeometry, createCandidateEvaluation, createDecisionMapPoint]

theorem relations_valid :
    ∀ r ∈ createDominanceRelations rt o l, relationValid (l.map (·.hotelId)) r = true := by
  intro r hr
  obtain ⟨a, ha, b, hb, hne, hcreate⟩ := mem_dominanceRelations.mp hr
  exact relation_valid hcreate hne (List.mem_map_of_mem ha) (List.mem_map_of_mem hb)

/-- The validator on a genuine geometry comes down to the three lists of ids. -/
theorem validate_createGeometry (hnodup : (l.map (·.hotelId)).Nodup) :
    validateDecisionGeometry rt ⟨createGeometry rt o l, createFingerprint rt (createGeometry rt o l)⟩
      = true ↔
    ((createGeometry rt o l).pairwiseFinalistComparisons.map (·.comparisonId)).Nodup ∧
      ((createGeometry rt o l).marginalValueSegments.map (·.segmentId)).Nodup ∧
      ((createGeometry rt o l).tradeOffThresholds.map (·.thresholdId)).Nodup := by
  obtain ⟨hids, hpoints⟩ := hotelIds_createGeometry rt o l
  have hrelations : (createGeometry rt o l).dominanceRelations.all
      (relationValid (l.map (·.hotelId))) = true :=
    List.all_eq_true.mpr relations_valid
  have hcomparisons := allUnique_iff PairwiseComparison.comparisonId (comparisons_spec rt o
    (createGeometry rt o l).candidates (createDominanceRelations rt o l) hnodup).1
  have hsegments := allUnique_iff MarginalValueSegment.segmentId
    (segments_spec rt (createGeometry rt o l).candidates hnodup).1
  have hthresholds := allUnique_iff TradeOffThreshold.thresholdId (thresholds_spec rt o
    (createGeometry rt o l).candidates (createDominanceRelations rt o l) hnodup).1
  unfold validateDecisionGeometry
  rw [hids, hpoints]
  dsimp only
  rw [hrelations]
  simp only [Bool.and_eq_true, and_assoc, decide_true, true_and]
  constructor
  · rintro ⟨-, -, -, -, -, hc, hs, ht⟩
    exact ⟨hcomparisons.mp hc, hsegments.mp hs, hthresholds.mp ht⟩
  · rintro ⟨hc, hs, ht⟩
    refine ⟨decide_eq_true rfl, decide_eq_true rfl, rfl, decide_eq_true hnodup, decide_eq_true rfl,
      hcomparisons.mpr hc, hsegments.mpr hs, hthresholds.mpr ht⟩

/-- A genuine geometry is accepted exactly when no two of its ids collide. -/
theorem assertDecisionGeometry_iff {candidates : List Candidate} {options : GeometryOptions}
    (h : evaluateDecisionGeometry rt candidates options = .ok g) :
    assertDecisionGeometry rt g = .ok g ↔ g.CollisionFree := by
  obtain ⟨o, l, -, hnodup, rfl⟩ := evaluate_spec h
  have haccepted : ∀ g : DecisionGeometry,
      assertDecisionGeometry rt g = .ok g ↔ validateDecisionGeometry rt g = true := by
    intro g
    unfold assertDecisionGeometry
    split <;> simp [*]
  have hcomparisons := Distinct.nodup_iff_of_keys PairwiseComparison.comparisonId
    (nodup_of_unordered (comparisons_spec rt o (createGeometry rt o l).candidates
      (createDominanceRelations rt o l) hnodup).2)
  have hsegments := Distinct.nodup_iff_of_keys MarginalValueSegment.segmentId
    (segments_spec rt (createGeometry rt o l).candidates hnodup).2
  have hthresholds := Distinct.nodup_iff_of_keys TradeOffThreshold.thresholdId (thresholds_spec rt o
    (createGeometry rt o l).candidates (createDominanceRelations rt o l) hnodup).2
  rw [haccepted, validate_createGeometry hnodup]
  constructor
  · rintro ⟨hc, hs, ht⟩
    exact ⟨hcomparisons.mp hc, hsegments.mp hs, hthresholds.mp ht⟩
  · rintro ⟨hc, hs, ht⟩
    exact ⟨hcomparisons.mpr hc, hsegments.mpr hs, hthresholds.mpr ht⟩

/-! ## 4. A collision -/

/-- A hotel of the circle with peers of its own. -/
def twinHotel (hotelId : String) : Candidate :=
  { circleHotel hotelId 0 with
    peerAssignment := PeerAssignment.sealed plainRuntime
      { (circleHotel hotelId 0).peerAssignment with
        memberHotelIds := ["100", "1993899", "2614126"]
        sampleSize := 3 } }

/-- Three hotels that differ in nothing but their ids. -/
def twinHotels : List Candidate := [twinHotel "100", twinHotel "1993899", twinHotel "2614126"]

def normalizedTwins : List NormalizedCandidate :=
  twinHotels.map fun c => normalizedCandidate plainRuntime c c.hotelId

theorem normalizeCandidate_twinHotel {hotelId : String} (hid : JsText.trim hotelId = hotelId)
    (hne : hotelId ≠ "") : normalizeCandidate plainRuntime (twinHotel hotelId) =
      .ok (normalizedCandidate plainRuntime (twinHotel hotelId) hotelId) := by
  have hlength := trim_length_pos hid hne
  have hmembers : (JsText.uniqueSorted ["100", "1993899", "2614126"]).length = 3 := by
    decide +kernel
  have hpeers : validatePeerAssignment plainRuntime (twinHotel hotelId).peerAssignment = true :=
    validatePeerAssignment_sealed hlength rfl rfl rfl (by norm_num) (by norm_num) hmembers rfl
  have hutility : validatePersonalUtilityEvaluation plainRuntime (twinHotel hotelId).utility =
      true := validate_circleHotel_utility hlength
  rw [normalizeCandidate, hutility, hpeers]
  simp only [twinHotel, circleHotel, PersonalUtilityEvaluation.sealed, PeerAssignment.sealed, hid,
    hne]
  simp

theorem normalize_twins :
    twinHotels.mapM (normalizeCandidate plainRuntime) = .ok normalizedTwins := by
  refine Fallible.mapM_eq_ok fun c hc => ?_
  simp only [twinHotels, List.mem_cons, List.not_mem_nil, or_false] at hc
  rcases hc with rfl | rfl | rfl
  · exact normalizeCandidate_twinHotel (by decide) (by decide)
  · exact normalizeCandidate_twinHotel (by decide) (by decide)
  · exact normalizeCandidate_twinHotel (by decide) (by decide)

theorem sort_twins : sortBy (fun first second : NormalizedCandidate =>
    plainRuntime.localeCompare first.hotelId second.hotelId) normalizedTwins = normalizedTwins :=
  List.Pairwise.insertionSort_eq (by decide +kernel)

theorem hotelIds_twins : normalizedTwins.map (·.hotelId) = ["100", "1993899", "2614126"] := rfl

/-- Two pairs of hotel ids with one stable hash. -/
theorem comparisonId_collision : comparisonId plainRuntime "100" "1993899" =
    comparisonId plainRuntime "100" "2614126" := by
  decide +kernel

/-- The geometry of the three hotels is not valid. -/
theorem geometry_collision : ∃ g, evaluateDecisionGeometry plainRuntime twinHotels {} = .ok g ∧
    assertDecisionGeometry plainRuntime g ≠ .ok g := by
  have hrun := evaluate_eq resolveOptions_default normalize_twins sort_twins
    (hotelIds_twins ▸ by decide)
  refine ⟨_, hrun, fun haccepted => ?_⟩
  have hfree := (assertDecisionGeometry_iff hrun).mp haccepted
  have hfinalists : normalizedTwins.filter (hasStatus
      (createGeometry plainRuntime defaultOptions normalizedTwins).candidates .frontier) =
      normalizedTwins := List.filter_eq_self.mpr (by decide +kernel)
  have hpairs : (createGeometry plainRuntime defaultOptions
      normalizedTwins).pairwiseFinalistComparisons = (pairs normalizedTwins).map fun p =>
        createPairwiseComparison plainRuntime defaultOptions
          (createDominanceRelations plainRuntime defaultOptions normalizedTwins) p.1 p.2 :=
    congrArg (fun finalists => (pairs finalists).map fun p : NormalizedCandidate ×
      NormalizedCandidate => createPairwiseComparison plainRuntime defaultOptions
        (createDominanceRelations plainRuntime defaultOptions normalizedTwins) p.1 p.2) hfinalists
  have hfree := hfree.comparisons
  dsimp only at hfree
  rw [hpairs] at hfree
  have hmem : ∀ x y, (x, y) ∈ pairs normalizedTwins → createPairwiseComparison plainRuntime
      defaultOptions (createDominanceRelations plainRuntime defaultOptions normalizedTwins) x y ∈
        (pairs normalizedTwins).map fun p => createPairwiseComparison plainRuntime defaultOptions
          (createDominanceRelations plainRuntime defaultOptions normalizedTwins) p.1 p.2 :=
    fun x y hxy => List.mem_map.mpr ⟨(x, y), hxy, rfl⟩
  obtain ⟨a, b, c, habc⟩ : ∃ a b c, normalizedTwins = [a, b, c] ∧ a.hotelId = "100" ∧
      b.hotelId = "1993899" ∧ c.hotelId = "2614126" := ⟨_, _, _, rfl, rfl, rfl, rfl⟩
  obtain ⟨htwins, ha, hb, hc⟩ := habc
  have hab := hmem a b (by simp [htwins, pairs])
  have hac := hmem a c (by simp [htwins, pairs])
  obtain ⟨-, hsecond, hid⟩ := createPairwiseComparison_ids plainRuntime defaultOptions
    (createDominanceRelations plainRuntime defaultOptions normalizedTwins) a b
  obtain ⟨-, hsecond', hid'⟩ := createPairwiseComparison_ids plainRuntime defaultOptions
    (createDominanceRelations plainRuntime defaultOptions normalizedTwins) a c
  rw [ha, hb] at hid
  rw [ha, hc] at hid'
  have hhotels := congrArg Prod.snd
    (hfree _ hab _ hac (hid.trans (comparisonId_collision.trans hid'.symm)))
  dsimp only at hhotels
  rw [hsecond, hsecond', hb, hc] at hhotels
  exact absurd hhotels (by decide)

end SmartStay.Geometry
