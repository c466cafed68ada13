import SmartStay.Geometry.Evaluation
import SmartStay.Lib.Dominance
import SmartStay.Lib.Fallible

/-!
# When the strong frontier is sound

A candidate may be dominated by one that is worse by up to the non-worse tolerances. Two
hotels never dominate each other; a longer circle needs near-ties that add up to a
material improvement.

1. `createDominanceRelation_spec`: what a relation says about the two candidates.
2. `evaluate_spec`, `mem_known`: relations and Pareto statuses of an accepted list.
3. `geometry_sound`.
4. `geometry_circular`: five hotels that dominate each other in turn.
-/

namespace SmartStay.Geometry

open Contract Dominance JsSort

variable {rt : Runtime} {o : ResolvedOptions} {a b : NormalizedCandidate}
  {l : List NormalizedCandidate} {g : DecisionGeometry}

/-! ## 1. Relations -/

/-- The larger the better: scores, and the cost below zero. -/
def NormalizedCandidate.score (c : NormalizedCandidate) : GeometryDimension → ℚ
  | .totalCost => -c.totalCost.getD 0
  | .benefit d => ((c.benefits d).map (·.score)).getD 0

/-- The loss that a dimension forgives. -/
def ResolvedOptions.tolerance (o : ResolvedOptions) : GeometryDimension → ℚ
  | .totalCost => o.costNonWorseTolerance
  | .benefit _ => o.benefitNonWorseTolerance

/-- The least gain that counts on a dimension. -/
def ResolvedOptions.improvement (o : ResolvedOptions) : GeometryDimension → ℚ
  | .totalCost => 1
  | .benefit _ => o.benefitMaterialImprovement

/-- `a` is comparable with `b`, not worse beyond the tolerances and materially better on one
    dimension. -/
structure Outdoes (o : ResolvedOptions) (a b : NormalizedCandidate) : Prop where
  comparable : comparable a b = true
  nonWorse : ∀ d, b.score d - o.tolerance d ≤ a.score d
  better : ∃ d, b.score d + o.improvement d ≤ a.score d

theorem benefitAdvantages_spec {dims : List BenefitDimension}
    {advantages : List (GeometryDimension × ℚ)} (h : benefitAdvantages o a b dims = some advantages) :
    (∀ d ∈ dims, b.score (.benefit d) - o.benefitNonWorseTolerance ≤ a.score (.benefit d)) ∧
      ∀ v ∈ advantages, ∃ d, v.1 = .benefit d ∧ v.2 = a.score (.benefit d) - b.score (.benefit d) := by
  induction dims generalizing advantages with
  | nil =>
    cases h
    exact ⟨by simp, by simp⟩
  | cons dimension rest ih =>
    simp only [benefitAdvantages, Option.bind_eq_bind, Option.bind_eq_some_iff] at h
    obtain ⟨dominant, hdominant, dominated, hdominated, h⟩ := h
    have ha : a.score (.benefit dimension) = dominant.score := by
      simp [NormalizedCandidate.score, hdominant]
    have hb : b.score (.benefit dimension) = dominated.score := by
      simp [NormalizedCandidate.score, hdominated]
    split at h
    · cases h
    next hworse =>
    simp only [Option.bind_eq_some_iff, Option.some.injEq] at h
    obtain ⟨advantages', hrest, rfl⟩ := h
    obtain ⟨hnonWorse, hvalues⟩ := ih hrest
    refine ⟨List.forall_mem_cons.mpr ⟨?_, hnonWorse⟩,
      List.forall_mem_cons.mpr ⟨⟨dimension, rfl, by rw [ha, hb]⟩, hvalues⟩⟩
    rw [ha, hb]
    linarith [not_lt.mp hworse]

theorem createDominanceRelation_spec {r : DominanceRelation}
    (h : createDominanceRelation rt o a b = some r) :
    r.dominantHotelId = a.hotelId ∧ r.dominatedHotelId = b.hotelId ∧ Outdoes o a b := by
  simp only [createDominanceRelation] at h
  split at h
  · cases h
  next hcomparable =>
  simp only [Option.bind_eq_bind, Option.bind_eq_some_iff] at h
  obtain ⟨dominatorCost, hdominator, dominatedCost, hdominated, h⟩ := h
  have ha : a.score .totalCost = -dominatorCost := by
    simp [NormalizedCandidate.score, hdominator]
  have hb : b.score .totalCost = -dominatedCost := by
    simp [NormalizedCandidate.score, hdominated]
  split at h
  · cases h
  next hcost =>
  simp only [Option.bind_eq_some_iff] at h
  obtain ⟨advantages, hadvantages, h⟩ := h
  split at h
  · cases h
  next hbetter =>
  cases h
  obtain ⟨hnonWorse, hvalues⟩ := benefitAdvantages_spec hadvantages
  refine ⟨rfl, rfl, by simpa using hcomparable, fun d => ?_, ?_⟩
  · cases d with
    | totalCost =>
      rw [ha, hb, ResolvedOptions.tolerance]
      linarith [not_lt.mp hcost]
    | benefit d => exact hnonWorse d (mem_benefitDimensions d)
  · obtain ⟨v, hv⟩ := List.exists_mem_of_length_pos (Nat.pos_of_ne_zero hbetter)
    rcases List.mem_append.mp hv with hv | hv
    · split at hv
      · next hgain =>
        refine ⟨.totalCost, ?_⟩
        have hone : 1 ≤ materialCostImprovement o dominatedCost := le_max_left _ _
        rw [ha, hb, ResolvedOptions.improvement]
        linarith
      · cases hv
    · obtain ⟨hmem, hgain⟩ := List.mem_filter.mp hv
      obtain ⟨d, -, hvalue⟩ := hvalues v hmem
      have hadvantage := of_decide_eq_true hgain
      exact ⟨.benefit d, by rw [ResolvedOptions.improvement]; linarith⟩

/-! ## 2. Evaluations -/

/-- `x` is reported to dominate `y`. -/
def GeometryCore.Dominates (g : GeometryCore) (x y : String) : Prop :=
  ∃ r ∈ g.dominanceRelations, r.dominantHotelId = x ∧ r.dominatedHotelId = y

/-- The evaluations whose Pareto status is known. -/
def GeometryCore.known (g : GeometryCore) : List CandidateEvaluation :=
  g.candidates.filter fun c => c.strongParetoStatus ≠ .unknown

theorem evaluate_spec {candidates : List Candidate} {options : GeometryOptions}
    (h : evaluateDecisionGeometry rt candidates options = .ok g) :
    ∃ o l, resolveOptions options = .ok o ∧ (l.map (·.hotelId)).Nodup ∧
      g = { createGeometry rt o l with
        fingerprint := createFingerprint rt (createGeometry rt o l) } := by
  simp only [evaluateDecisionGeometry] at h
  cases ho : resolveOptions options with
  | error => simp [ho, bind, Except.bind] at h
  | ok o =>
    cases hn : candidates.mapM (normalizeCandidate rt) with
    | error => simp [ho, hn, bind, Except.bind] at h
    | ok normalized =>
      simp only [ho, hn, bind, Except.bind] at h
      split at h
      · cases h
      next hnodup =>
      exact ⟨o, _, rfl, not_not.mp hnodup, (Except.ok.inj h).symm⟩

theorem evaluate_eq {candidates : List Candidate} {options : GeometryOptions}
    {normalized : List NormalizedCandidate} (ho : resolveOptions options = .ok o)
    (hn : candidates.mapM (normalizeCandidate rt) = .ok normalized)
    (hsorted : sortBy (fun first second => rt.localeCompare first.hotelId second.hotelId)
      normalized = l) (hnodup : (l.map (·.hotelId)).Nodup) :
    evaluateDecisionGeometry rt candidates options =
      .ok ⟨createGeometry rt o l, createFingerprint rt (createGeometry rt o l)⟩ := by
  simp only [evaluateDecisionGeometry, ho, hn, hsorted, hnodup, bind, Except.bind,
    not_true_eq_false, if_false]

theorem mem_dominanceRelations {r : DominanceRelation} :
    r ∈ createDominanceRelations rt o l ↔
      ∃ a ∈ l, ∃ b ∈ l, a.hotelId ≠ b.hotelId ∧ createDominanceRelation rt o a b = some r := by
  simp [createDominanceRelations, and_assoc]

theorem dominates_spec {x y : String} (h : (createGeometry rt o l).Dominates x y) :
    ∃ a ∈ l, ∃ b ∈ l, a.hotelId = x ∧ b.hotelId = y ∧ a.hotelId ≠ b.hotelId ∧ Outdoes o a b := by
  obtain ⟨r, hr, rfl, rfl⟩ := h
  obtain ⟨a, ha, b, hb, hne, hcreate⟩ := mem_dominanceRelations.mp hr
  obtain ⟨hdominant, hdominated, hout⟩ := createDominanceRelation_spec hcreate
  exact ⟨a, ha, b, hb, hdominant.symm, hdominated.symm, hne, hout⟩

/-- A comparable candidate with a comparable peer. -/
def Comparable (l : List NormalizedCandidate) (a : NormalizedCandidate) : Prop :=
  a.status = .comparable ∧ ∃ b ∈ l, b.hotelId ≠ a.hotelId ∧ comparable a b = true

theorem comparable_status (h : comparable a b = true) : a.status = .comparable := by
  simp only [comparable, Bool.and_eq_true, decide_eq_true_eq] at h
  exact h.1.1.1.1.1.1.1

/-- The Pareto status of a candidate, from its peers and the relations that end in it. -/
theorem strongParetoStatus_spec (relations : List DominanceRelation) :
    (Comparable l a ↔
      (createCandidateEvaluation rt l relations a).strongParetoStatus ≠ .unknown) ∧
    (Comparable l a → (∀ r ∈ relations, r.dominatedHotelId ≠ a.hotelId) →
      (createCandidateEvaluation rt l relations a).strongParetoStatus = .frontier) ∧
    ((createCandidateEvaluation rt l relations a).strongParetoStatus = .dominated →
      ∃ r ∈ relations, r.dominatedHotelId = a.hotelId) := by
  have hknown : (decide (a.status = .comparable) && decide (0 < (((l.filter fun other =>
      other.hotelId ≠ a.hotelId && comparable a other).map
        (·.hotelId)).insertionSort JsText.Le).length)) = true ↔ Comparable l a := by
    simp [Comparable, List.length_pos_iff_exists_mem]
  simp only [createCandidateEvaluation, paretoStatus]
  generalize (decide (a.status = .comparable) && decide (0 < (((l.filter fun other =>
      other.hotelId ≠ a.hotelId && comparable a other).map
        (·.hotelId)).insertionSort JsText.Le).length)) = known at hknown
  cases known with
  | false =>
    have hno : ¬ Comparable l a := fun h => by simpa using hknown.mpr h
    exact ⟨by simp [hno], fun h => absurd h hno, by simp⟩
  | true =>
    have hyes : Comparable l a := hknown.mp rfl
    refine ⟨?_, fun _ hnone => ?_, fun hdominated => ?_⟩
    · refine ⟨fun _ => ?_, fun _ => hyes⟩
      simp only [Bool.not_true, Bool.false_eq_true, if_false]
      split <;> simp
    · have hnil : (relations.filter fun r => r.dominatedHotelId = a.hotelId) = [] :=
        List.filter_eq_nil_iff.mpr fun r hr => by simpa using hnone r hr
      simp [hnil]
    · by_contra hnone
      push Not at hnone
      have hnil : (relations.filter fun r => r.dominatedHotelId = a.hotelId) = [] :=
        List.filter_eq_nil_iff.mpr fun r hr => by simpa using hnone r hr
      simp [hnil] at hdominated

/-! ## 3. Soundness -/

/-- Nothing dominates itself through others, some candidate with a known status is on the
    strong frontier, and every dominated candidate is below one that is. -/
structure GeometryCore.Sound (g : GeometryCore) : Prop where
  acyclic : Acyclic g.Dominates
  frontier_ne : g.known ≠ [] → g.strongParetoFrontierHotelIds ≠ []
  below : ∀ c ∈ g.candidates, c.strongParetoStatus = .dominated →
    ∃ x ∈ g.strongParetoFrontierHotelIds, Relation.TransGen g.Dominates x c.hotelId

/-- The candidate with this hotel id. -/
def candidate? (l : List NormalizedCandidate) (x : String) : Option NormalizedCandidate :=
  l.find? (·.hotelId = x)

theorem candidate?_eq (hnodup : (l.map (·.hotelId)).Nodup) (ha : a ∈ l) :
    candidate? l a.hotelId = some a := by
  cases hfind : candidate? l a.hotelId with
  | none =>
    have hnone := List.find?_eq_none.mp hfind a ha
    simp at hnone
  | some c =>
    have hid : c.hotelId = a.hotelId := by simpa using List.find?_some hfind
    rw [List.inj_on_of_nodup_map hnodup (List.mem_of_find?_eq_some hfind) ha hid]

/-- Hotels measured on all dimensions. -/
def yardstick (o : ResolvedOptions) (l : List NormalizedCandidate) :
    Yardstick String GeometryDimension ℚ where
  measured _ := allDimensions.toFinset
  score d x := ((candidate? l x).map (·.score d)).getD 0
  tolerance := o.tolerance
  improvement := o.improvement
  tolerance_nonneg
    | .totalCost => o.costNonWorseTolerance_nonneg
    | .benefit _ => o.benefitNonWorseTolerance_nonneg
  improvement_pos
    | .totalCost => one_pos
    | .benefit _ => o.benefitNonWorseTolerance_nonneg.trans_lt o.benefitNonWorseTolerance_lt

theorem mem_allDimensions (d : GeometryDimension) : d ∈ allDimensions := by
  cases d with
  | totalCost => exact List.mem_cons_self
  | benefit d => exact List.mem_cons_of_mem _ (List.mem_map_of_mem (mem_benefitDimensions d))

theorem dominates_beats (hnodup : (l.map (·.hotelId)).Nodup) {x y : String}
    (h : (createGeometry rt o l).Dominates x y) : (yardstick o l).Beats x y := by
  obtain ⟨a, ha, b, hb, rfl, rfl, -, hout⟩ := dominates_spec h
  refine ⟨subset_rfl, fun d _ => ?_, ?_⟩
  · simpa [yardstick, candidate?_eq hnodup ha, candidate?_eq hnodup hb] using hout.nonWorse d
  · obtain ⟨d, hgain⟩ := hout.better
    refine ⟨d, List.mem_toFinset.mpr (mem_allDimensions d), ?_⟩
    simpa [yardstick, candidate?_eq hnodup ha, candidate?_eq hnodup hb] using hgain

/-- A hotel that dominates another has a known status. -/
theorem dominator_comparable {x y : String} (h : (createGeometry rt o l).Dominates x y) :
    ∃ a ∈ l, a.hotelId = x ∧ Comparable l a := by
  obtain ⟨a, ha, b, hb, rfl, rfl, hne, hout⟩ := dominates_spec h
  exact ⟨a, ha, rfl, comparable_status hout.comparable, b, hb, hne.symm, hout.comparable⟩

theorem mem_known {c : CandidateEvaluation} :
    c ∈ (createGeometry rt o l).known ↔ ∃ a ∈ l, createCandidateEvaluation rt l
      (createDominanceRelations rt o l) a = c ∧ Comparable l a := by
  simp only [GeometryCore.known, createGeometry, List.mem_filter, List.mem_map, decide_eq_true_eq]
  constructor
  · rintro ⟨⟨a, ha, rfl⟩, hknown⟩
    exact ⟨a, ha, rfl, (strongParetoStatus_spec _).1.mpr hknown⟩
  · rintro ⟨a, ha, rfl, hcomparable⟩
    exact ⟨⟨a, ha, rfl⟩, (strongParetoStatus_spec _).1.mp hcomparable⟩

/-- A comparable hotel that nothing dominates is on the strong frontier. -/
theorem undominated_frontier (ha : a ∈ l) (hcomparable : Comparable l a)
    (htop : Undominated (createGeometry rt o l).Dominates a.hotelId) :
    a.hotelId ∈ (createGeometry rt o l).strongParetoFrontierHotelIds := by
  have hstatus : (createCandidateEvaluation rt l (createDominanceRelations rt o l)
      a).strongParetoStatus = .frontier := (strongParetoStatus_spec _).2.1 hcomparable
    fun r hr hdominated => htop r.dominantHotelId ⟨r, hr, rfl, hdominated⟩
  simp only [createGeometry, frontierHotelIds, List.mem_map, List.mem_filter, decide_eq_true_eq]
  exact ⟨_, ⟨⟨a, ha, rfl⟩, hstatus⟩, rfl⟩

/-- Without cycles the strong frontier lies above every dominated hotel. -/
theorem sound_of_acyclic (hacyclic : Acyclic (createGeometry rt o l).Dominates) :
    (createGeometry rt o l).Sound := by
  have hfin : {x | ∃ y, (createGeometry rt o l).Dominates x y}.Finite := by
    refine (l.map (·.hotelId)).toFinset.finite_toSet.subset ?_
    rintro x ⟨y, hxy⟩
    obtain ⟨a, ha, rfl, -⟩ := dominator_comparable hxy
    simpa using ⟨a, ha, rfl⟩
  have habove : ∀ x y, (createGeometry rt o l).Dominates x y →
      ∃ u, u ∈ (createGeometry rt o l).strongParetoFrontierHotelIds ∧
        Relation.TransGen (createGeometry rt o l).Dominates u y := fun x y hxy =>
    hacyclic.exists_frontier hfin (fun u z huz htop => by
      obtain ⟨a, ha, rfl, hcomparable⟩ := dominator_comparable huz
      exact undominated_frontier ha hcomparable htop) hxy
  refine ⟨hacyclic, fun hne hnil => ?_, fun c hc hstatus => ?_⟩
  · obtain ⟨c, hc⟩ := List.exists_mem_of_ne_nil _ hne
    obtain ⟨a, ha, rfl, hcomparable⟩ := mem_known.mp hc
    by_cases htop : Undominated (createGeometry rt o l).Dominates a.hotelId
    · simpa [hnil] using undominated_frontier ha hcomparable htop
    · obtain ⟨x, hx⟩ : ∃ x, (createGeometry rt o l).Dominates x a.hotelId := by
        simpa [Undominated] using htop
      obtain ⟨u, hu, -⟩ := habove x _ hx
      simp [hnil] at hu
  · obtain ⟨a, ha, rfl⟩ := List.mem_map.mp hc
    obtain ⟨r, hr, hdominated⟩ := (strongParetoStatus_spec _).2.2 hstatus
    exact habove r.dominantHotelId _ ⟨r, hr, rfl, hdominated⟩

theorem acyclic_of_few_hotels (hnodup : (l.map (·.hotelId)).Nodup)
    (hfew : (((createGeometry rt o l).known.length : ℚ) - 1) * o.benefitNonWorseTolerance <
      o.benefitMaterialImprovement) : Acyclic (createGeometry rt o l).Dominates := by
  refine Yardstick.acyclic_of_card (y := yardstick o l)
    ((createGeometry rt o l).known.map (·.hotelId)).toFinset .totalCost (fun x y hxy => ?_)
    (fun x y hxy => dominates_beats hnodup hxy) fun d hd => ?_
  · obtain ⟨a, ha, rfl, hcomparable⟩ := dominator_comparable hxy
    refine List.mem_toFinset.mpr (List.mem_map.mpr ⟨_, mem_known.mpr ⟨a, ha, rfl, hcomparable⟩, rfl⟩)
  · cases d with
    | totalCost => exact absurd rfl hd
    | benefit d =>
      have hcard : ((((createGeometry rt o l).known.map (·.hotelId)).toFinset.card : ℕ) : ℚ) ≤
          (createGeometry rt o l).known.length := by
        exact_mod_cast (List.toFinset_card_le _).trans (List.length_map _).le
      exact (mul_le_mul_of_nonneg_right (sub_le_sub_right hcard 1)
        o.benefitNonWorseTolerance_nonneg).trans_lt hfew

/-- The shares of the six benefits and of the cost in the steps of a cycle. -/
def ResolvedOptions.shares (o : ResolvedOptions) : ℚ :=
  6 * (o.benefitNonWorseTolerance / (o.benefitNonWorseTolerance + o.benefitMaterialImprovement)) +
    o.costNonWorseTolerance / (o.costNonWorseTolerance + 1)

theorem sum_share : ∑ d ∈ allDimensions.toFinset, (yardstick o l).share d = o.shares := by
  have hset : allDimensions.toFinset = {.totalCost, .benefit .quality, .benefit .location,
      .benefit .comfort, .benefit .flexibility, .benefit .categoryFit, .benefit .userFit} := by
    decide
  rw [hset]
  simp only [Yardstick.share, yardstick, ResolvedOptions.tolerance, ResolvedOptions.improvement,
    ResolvedOptions.shares]
  repeat rw [Finset.sum_insert (by decide)]
  rw [Finset.sum_singleton]
  ring

/-- Two hotels never dominate each other. The strong frontier is sound whenever a material
    improvement of a benefit is more than what the tolerances of all other hotels with a known
    status add up to, or the shares of the dimensions stay below a whole. -/
theorem geometry_sound {candidates : List Candidate} {options : GeometryOptions}
    (h : evaluateDecisionGeometry rt candidates options = .ok g)
    (ho : resolveOptions options = .ok o) :
    (∀ x y, g.Dominates x y → ¬ g.Dominates y x) ∧
      ((g.known.length - 1 : ℚ) * o.benefitNonWorseTolerance < o.benefitMaterialImprovement ∨
        o.shares < 1 → g.Sound) := by
  obtain ⟨o', l, ho', hnodup, rfl⟩ := evaluate_spec h
  obtain rfl : o' = o := Except.ok.inj (ho'.symm.trans ho)
  refine ⟨fun x y hxy hyx => ?_, ?_⟩
  · refine (dominates_beats hnodup hxy).asymm .totalCost (fun d hd => ?_) (dominates_beats hnodup hyx)
    cases d with
    | totalCost => exact absurd rfl hd
    | benefit d => exact o'.benefitNonWorseTolerance_lt
  · rintro (hfew | hshares)
    · exact sound_of_acyclic (acyclic_of_few_hotels hnodup hfew)
    · refine sound_of_acyclic (Yardstick.acyclic_of_shares (y := yardstick o' l)
        (fun x y hxy => dominates_beats hnodup hxy) fun x => ?_)
      exact sum_share.trans_lt hshares

/-! ## 4. Five hotels in a circle -/

/-- The evaluation with its own fingerprint. -/
def PersonalUtilityEvaluation.sealed (rt : Runtime) (u : PersonalUtilityEvaluation) :
    PersonalUtilityEvaluation :=
  { u with fingerprint := createStableHash rt u.toJson "stayopti-v3-personal-utility" }

/-- The assignment with its own fingerprint. -/
def PeerAssignment.sealed (rt : Runtime) (p : PeerAssignment) : PeerAssignment :=
  { p with fingerprint := createStableHash rt p.toJson "stayopti-v3-peer-assignment" }

/-- The scores of the hotel `k` steps down the circle from the best on a dimension. -/
def circleScore (k : Nat) : ℚ := if k = 0 then 1 else (k - 1) / 4

/-- A hotel that costs 100 and is best on one dimension. -/
def circleHotel (hotelId : String) (best : Nat) : Candidate where
  hotelId := hotelId
  eligible := true
  totalCost := some 100
  currency := some "EUR"
  costIntegrityStatus := .complete
  utility := PersonalUtilityEvaluation.sealed plainRuntime
    { hotelId := hotelId
      totalBudget := none
      weights
        | .priceValue => 4 / 10
        | .benefit _ => 1 / 10
      contributions := benefitDimensions.zipIdx.map fun d =>
        ⟨.benefit d.1, true, some (circleScore ((best + 10 - d.2) % 5)), 1, 0, 0, []⟩
      utilityScore := some 50
      scoreConfidence := 1
      evidenceCoverage := 1
      fingerprint := "" }
  peerAssignment := PeerAssignment.sealed plainRuntime
    { hotelId := hotelId
      groupId := some "peers"
      mode := .exactContext
      directComparisonAllowed := true
      memberHotelIds := ["a", "b", "c", "d", "e"]
      sampleSize := 5
      confidence := 1
      fingerprint := "" }

/-- Each hotel is better by 1 than the next on one dimension and worse by 1/4 on the others. -/
def circle : List Candidate :=
  [circleHotel "a" 0, circleHotel "b" 1, circleHotel "c" 2, circleHotel "d" 3, circleHotel "e" 4]

/-- Sealed peers of a comparable hotel are valid when the members are distinct. -/
theorem validatePeerAssignment_sealed {p : PeerAssignment}
    (hid : 0 < (JsText.trim p.hotelId).length) (hmode : p.mode = .exactContext)
    (hallowed : p.directComparisonAllowed = true) (hgroup : p.groupId.isSome = true)
    (hsize : p.sampleSize = p.memberHotelIds.length) (hpos : 0 < p.sampleSize)
    (hunique : (JsText.uniqueSorted p.memberHotelIds).length = p.memberHotelIds.length)
    (hconfidence : p.confidence = 1) : validatePeerAssignment rt (p.sealed rt) = true := by
  unfold validatePeerAssignment PeerAssignment.sealed
  simp only [hid, hmode, hallowed, hgroup, hconfidence, hunique, ← hsize, hpos]
  simp [PeerAssignment.toJson, hmode, hallowed, hconfidence]

theorem trim_length_pos {hotelId : String} (hid : JsText.trim hotelId = hotelId)
    (hne : hotelId ≠ "") : 0 < (JsText.trim hotelId).length := by
  rw [hid]
  exact Nat.pos_of_ne_zero fun h => hne (String.length_eq_zero_iff.mp h)

theorem validate_circleHotel_utility {hotelId : String} {best : Nat}
    (hlength : 0 < (JsText.trim hotelId).length) :
    validatePersonalUtilityEvaluation plainRuntime (circleHotel hotelId best).utility = true := by
  simp only [validatePersonalUtilityEvaluation, circleHotel, PersonalUtilityEvaluation.sealed,
    PersonalUtilityEvaluation.toJson, hlength, decide_true, Bool.true_and]
  norm_num [utilityDimensions, benefitDimensions]

/-- The fingerprints hold by construction; the rest of the evidence is checked by evaluation. -/
theorem normalizeCandidate_circleHotel {hotelId : String} {best : Nat}
    (hid : JsText.trim hotelId = hotelId) (hne : hotelId ≠ "") :
    normalizeCandidate plainRuntime (circleHotel hotelId best) =
      .ok (normalizedCandidate plainRuntime (circleHotel hotelId best) hotelId) := by
  have hlength := trim_length_pos hid hne
  have hmembers : (JsText.uniqueSorted ["a", "b", "c", "d", "e"]).length = 5 := by decide +kernel
  have hpeers : validatePeerAssignment plainRuntime (circleHotel hotelId best).peerAssignment =
      true :=
    validatePeerAssignment_sealed hlength rfl rfl rfl (by norm_num) (by norm_num) hmembers rfl
  rw [normalizeCandidate, validate_circleHotel_utility hlength, hpeers]
  simp only [circleHotel, PersonalUtilityEvaluation.sealed, PeerAssignment.sealed, hid, hne]
  simp

instance {core : GeometryCore} {x y : String} : Decidable (core.Dominates x y) :=
  inferInstanceAs (Decidable (∃ r ∈ core.dominanceRelations, _ ∧ _))

/-- The circle after normalization. -/
def normalizedCircle : List NormalizedCandidate :=
  circle.map fun c => normalizedCandidate plainRuntime c c.hotelId

theorem normalize_circle :
    circle.mapM (normalizeCandidate plainRuntime) = .ok normalizedCircle := by
  refine Fallible.mapM_eq_ok fun c hc => ?_
  have hcircle : ∀ hotelId best, JsText.trim hotelId = hotelId → hotelId ≠ "" →
      c = circleHotel hotelId best → normalizeCandidate plainRuntime c =
        .ok (normalizedCandidate plainRuntime c c.hotelId) := by
    rintro hotelId best hid hne rfl
    exact normalizeCandidate_circleHotel hid hne
  simp only [circle, List.mem_cons, List.not_mem_nil, or_false] at hc
  rcases hc with hc | hc | hc | hc | hc
  · exact hcircle "a" 0 (by decide) (by decide) hc
  · exact hcircle "b" 1 (by decide) (by decide) hc
  · exact hcircle "c" 2 (by decide) (by decide) hc
  · exact hcircle "d" 3 (by decide) (by decide) hc
  · exact hcircle "e" 4 (by decide) (by decide) hc

theorem sort_circle : sortBy (fun first second : NormalizedCandidate =>
    plainRuntime.localeCompare first.hotelId second.hotelId) normalizedCircle = normalizedCircle :=
  List.Pairwise.insertionSort_eq (by decide +kernel)

theorem hotelIds_circle : normalizedCircle.map (·.hotelId) = ["a", "b", "c", "d", "e"] := rfl

/-- The default options. -/
def defaultOptions : ResolvedOptions where
  benefitNonWorseTolerance := 1 / 4
  benefitMaterialImprovement := 1
  costNonWorseTolerance := 1 / 100
  costMaterialImprovementRatio := 5 / 1000
  pairwiseUtilityTolerance := 1 / 4
  benefitNonWorseTolerance_nonneg := by norm_num
  benefitNonWorseTolerance_lt := by norm_num
  costNonWorseTolerance_nonneg := by norm_num

theorem resolveOptions_default : resolveOptions {} = .ok defaultOptions :=
  dif_pos (show (1 / 4 : ℚ) < 1 by norm_num)

/-- With the default options each of five hotels dominates the next and the strong frontier is
    empty. -/
theorem geometry_circular : ∃ g, evaluateDecisionGeometry plainRuntime circle {} = .ok g ∧
    (g.Dominates "a" "b" ∧ g.Dominates "b" "c" ∧ g.Dominates "c" "d" ∧ g.Dominates "d" "e" ∧
      g.Dominates "e" "a") ∧
    g.known.length = 5 ∧ g.strongParetoFrontierHotelIds = [] ∧ ¬ g.Sound := by
  have hrun : ∀ core, core = createGeometry plainRuntime defaultOptions normalizedCircle →
      (core.Dominates "a" "b" ∧ core.Dominates "b" "c" ∧ core.Dominates "c" "d" ∧
        core.Dominates "d" "e" ∧ core.Dominates "e" "a") ∧
      core.known.length = 5 ∧ core.strongParetoFrontierHotelIds = [] := by
    rintro core rfl
    decide +kernel
  obtain ⟨hcycle, hknown, hfrontier⟩ := hrun _ rfl
  refine ⟨_, evaluate_eq resolveOptions_default normalize_circle sort_circle
    (hotelIds_circle ▸ by decide), hcycle, hknown, hfrontier, fun hsound => ?_⟩
  obtain ⟨hab, hbc, hcd, hde, hea⟩ := hcycle
  exact hsound.acyclic "a" (((((Relation.TransGen.single hab).tail hbc).tail hcd).tail hde).tail hea)

/-- The default options without a tolerance for the benefits. -/
def strictOptions : ResolvedOptions :=
  { defaultOptions with
    benefitNonWorseTolerance := 0
    benefitNonWorseTolerance_nonneg := le_rfl
    benefitNonWorseTolerance_lt := one_pos }

theorem resolveOptions_strict :
    resolveOptions { benefitNonWorseTolerance := some 0 } = .ok strictOptions := by
  have hzero : normalizeFiniteNonNegative (some 0) (1 / 4) = 0 := by
    simp [normalizeFiniteNonNegative]
  simp only [resolveOptions, hzero]
  exact dif_pos (show (0 : ℚ) < 1 by norm_num)

/-- Without a tolerance for the benefits the same hotels have a sound frontier. -/
theorem geometry_sound_strict : ∃ g,
    evaluateDecisionGeometry plainRuntime circle { benefitNonWorseTolerance := some 0 } = .ok g ∧
      g.Sound := by
  have hrun := evaluate_eq resolveOptions_strict normalize_circle sort_circle
    (hotelIds_circle ▸ by decide)
  refine ⟨_, hrun, (geometry_sound hrun resolveOptions_strict).2 (.inr ?_)⟩
  norm_num [ResolvedOptions.shares, strictOptions, defaultOptions]

end SmartStay.Geometry
