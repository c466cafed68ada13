import SmartStay.Lib.Dominance
import SmartStay.Lib.Fallible
import SmartStay.Pareto.Frontier

/-!
# When the Pareto frontier is sound

A candidate may dominate another although it is worse by up to `nonWorseTolerance` on
some dimensions. Two candidates never dominate each other, but three can do so in turn.

1. `compareDominance_spec`: what a reported comparison says about the two candidates.
2. `evaluate_spec`: the evaluations and comparisons of an accepted list.
3. `frontier_sound`: no cycle, and a frontier above every dominated hotel, as long as the
   tolerances do not add up to an improvement.
4. `frontier_circular`: three hotels that dominate each other in turn.
-/

namespace SmartStay.Pareto

open Dominance

variable {o : ResolvedOptions} {a b : NormalizedCandidate} {l : List NormalizedCandidate}
  {e : FrontierEvaluation} {d : DimensionCode}

/-! ## 1. Comparisons -/

/-- The score of a candidate on an available dimension. -/
def NormalizedCandidate.score (c : NormalizedCandidate) (d : DimensionCode) : ℚ :=
  ((c.availableDimensions.lookup d).map (·.score)).getD 0

/-- `a` is not worse than `b` beyond the tolerance and better on a dimension of `b`. -/
structure Outdoes (o : ResolvedOptions) (a b : NormalizedCandidate) : Prop where
  eligible : a.eligible = true
  eligible_dominated : b.eligible = true
  enough : o.minimumComparableDimensions ≤ b.dimensions.length
  covers : b.dimensions ⊆ a.dimensions
  nonWorse : ∀ d ∈ b.dimensions, b.score d - o.nonWorseTolerance ≤ a.score d
  better : ∃ d ∈ b.dimensions, b.score d + o.minimumImprovement ≤ a.score d

theorem compareDimensions_spec {dims better equivalent : List DimensionCode}
    (h : compareDimensions o a b dims = some (better, equivalent)) :
    (∀ d ∈ dims, b.score d - o.nonWorseTolerance ≤ a.score d) ∧
      ∀ d ∈ better, d ∈ dims ∧ b.score d + o.minimumImprovement ≤ a.score d := by
  induction dims generalizing better equivalent with
  | nil =>
    cases h
    exact ⟨by simp, by simp⟩
  | cons dimension rest ih =>
    simp only [compareDimensions, Option.bind_eq_bind, Option.bind_eq_some_iff] at h
    obtain ⟨dominator, hdominator, dominated, hdominated, h⟩ := h
    have ha : a.score dimension = dominator.score := by
      simp [NormalizedCandidate.score, hdominator]
    have hb : b.score dimension = dominated.score := by
      simp [NormalizedCandidate.score, hdominated]
    split at h
    · cases h
    next hworse =>
    simp only [Option.bind_eq_some_iff] at h
    obtain ⟨⟨better', equivalent'⟩, hrest, h⟩ := h
    obtain ⟨hnonWorse, hbetter⟩ := ih hrest
    refine ⟨List.forall_mem_cons.mpr ⟨?_, hnonWorse⟩, fun d hd => ?_⟩
    · rw [ha, hb]
      linarith [not_lt.mp hworse]
    split at h
    · next hgain =>
      cases h
      rcases List.mem_cons.mp hd with rfl | hd
      · exact ⟨List.mem_cons_self, by rw [ha, hb]; linarith⟩
      · exact ⟨List.mem_cons_of_mem _ (hbetter d hd).1, (hbetter d hd).2⟩
    · cases h
      exact ⟨List.mem_cons_of_mem _ (hbetter d hd).1, (hbetter d hd).2⟩

theorem compareDominance_spec {c : DominanceComparison} (h : compareDominance o a b = some c) :
    c.dominantHotelId = a.hotelId ∧ c.dominatedHotelId = b.hotelId ∧ Outdoes o a b := by
  simp only [compareDominance] at h
  split at h
  · cases h
  next heligible =>
  split at h
  · cases h
  next henough =>
  split at h
  · cases h
  next hcovers =>
  simp only [Option.bind_eq_bind, Option.bind_eq_some_iff] at h
  obtain ⟨⟨better, equivalent⟩, hdims, h⟩ := h
  split at h
  · cases h
  next hbetter =>
  cases h
  obtain ⟨hnonWorse, hgain⟩ := compareDimensions_spec hdims
  obtain ⟨d, hd⟩ := List.exists_mem_of_length_pos (Nat.pos_of_ne_zero hbetter)
  simp only [Bool.or_eq_true, Bool.not_eq_true', not_or, Bool.not_eq_false] at heligible
  simp only [List.mem_insertionSort] at hnonWorse hgain
  refine ⟨rfl, rfl, heligible.1, heligible.2, by simpa using henough, fun d hd => ?_, hnonWorse,
    d, hgain d hd⟩
  simp only [Bool.not_eq_true', Bool.not_eq_false, List.all_eq_true, decide_eq_true_eq,
    List.mem_insertionSort] at hcovers
  exact hcovers d hd

/-! ## 2. Evaluations -/

/-- `x` is reported to dominate `y`. -/
def FrontierEvaluation.Dominates (e : FrontierEvaluation) (x y : String) : Prop :=
  ∃ c ∈ e.dominanceComparisons, c.dominantHotelId = x ∧ c.dominatedHotelId = y

/-- The evaluations of the candidates that can be on the frontier: eligible, with enough
    comparable dimensions. -/
def FrontierEvaluation.rankable (e : FrontierEvaluation) : List CandidateEvaluation :=
  e.evaluations.filter (·.eligibleForFrontier)

/-- `e` evaluates the normalized candidates `l`. -/
structure Evaluates (o : ResolvedOptions) (l : List NormalizedCandidate)
    (e : FrontierEvaluation) : Prop where
  ids_nodup : (l.map (·.hotelId)).Nodup
  id_ne : ∀ c ∈ l, c.hotelId ≠ ""
  dimensions_nodup : ∀ c ∈ l, c.dimensions.Nodup
  dimensions_subset : ∀ c ∈ l, c.dimensions ⊆ o.dimensionCodes
  comparisons : e.dominanceComparisons = dominanceComparisons o l
  evaluations : e.evaluations = l.map (evaluateCandidate o e.dominanceComparisons)
  frontier : e.frontierHotelIds = hotelsWith .frontier e.evaluations
  dominated : e.dominatedHotelIds = hotelsWith .dominated e.evaluations

/-- The available dimensions are options' dimensions, each once. -/
theorem dimensions_sublist {candidate : Candidate} (h : normalizeCandidate o candidate = .ok a) :
    a.dimensions.Sublist o.dimensionCodes := by
  simp only [normalizeCandidate] at h
  split at h
  · cases h
  split at h
  · cases h
  cases h
  simp only [NormalizedCandidate.dimensions, List.map_filterMap]
  generalize o.dimensionCodes = codes
  induction codes with
  | nil => exact .slnil
  | cons code codes ih =>
    rw [List.filterMap_cons]
    cases normalizeDimension candidate.utility o code with
    | none => exact ih.cons code
    | some => exact ih.cons_cons code

theorem normalizeCandidate_hotelId {candidate : Candidate}
    (h : normalizeCandidate o candidate = .ok a) : a.hotelId ≠ "" := by
  simp only [normalizeCandidate] at h
  split at h
  · cases h
  next hne =>
  split at h
  · cases h
  cases h
  exact hne

theorem evaluate_spec {candidates : List Candidate} {options : FrontierOptions}
    (h : evaluateParetoFrontierV2 candidates options = .ok e) :
    ∃ o l, resolveOptions options = .ok o ∧ Evaluates o l e := by
  simp only [evaluateParetoFrontierV2] at h
  cases ho : resolveOptions options with
  | error => simp [ho, bind, Except.bind] at h
  | ok o =>
    cases hn : candidates.mapM (normalizeCandidate o) with
    | error => simp [ho, hn, bind, Except.bind] at h
    | ok normalized =>
      simp only [ho, hn, bind, Except.bind] at h
      have hmem : ∀ c ∈ normalized.insertionSort fun first second =>
          JsText.Le first.hotelId second.hotelId, ∃ candidate, normalizeCandidate o candidate = .ok c :=
        fun c hc => (Fallible.mapM_ok hn c (by simpa using hc)).imp fun _ h => h.2
      generalize normalized.insertionSort (fun first second =>
        JsText.Le first.hotelId second.hotelId) = l at h hmem
      split at h
      · cases h
      next hnodup =>
      have hid : ∀ c ∈ l, c.hotelId ≠ "" := fun c hc =>
        normalizeCandidate_hotelId (hmem c hc).choose_spec
      have hsub : ∀ c ∈ l, c.dimensions.Sublist o.dimensionCodes := fun c hc =>
        dimensions_sublist (hmem c hc).choose_spec
      have hnodups : ∀ c ∈ l, c.dimensions.Nodup := fun c hc =>
        (hsub c hc).nodup o.dimensionCodes_nodup
      have hsubsets : ∀ c ∈ l, c.dimensions ⊆ o.dimensionCodes := fun c hc => (hsub c hc).subset
      refine ⟨o, l, rfl, ?_⟩
      cases l with
      | nil =>
        cases h
        exact ⟨not_not.mp hnodup, hid, hnodups, hsubsets, rfl, rfl, rfl, rfl⟩
      | cons first rest =>
        simp only at h
        split at h
        · cases h
        · cases h
          exact ⟨not_not.mp hnodup, hid, hnodups, hsubsets, rfl, rfl, rfl, rfl⟩

theorem mem_dominanceComparisons {c : DominanceComparison} :
    c ∈ dominanceComparisons o l ↔
      ∃ a ∈ l, ∃ b ∈ l, a.hotelId ≠ b.hotelId ∧ compareDominance o a b = some c := by
  simp [dominanceComparisons, List.mem_filterMap, and_assoc]

theorem Evaluates.dominates (h : Evaluates o l e) {x y : String} (hxy : e.Dominates x y) :
    ∃ a ∈ l, ∃ b ∈ l, a.hotelId = x ∧ b.hotelId = y ∧ Outdoes o a b := by
  obtain ⟨c, hc, rfl, rfl⟩ := hxy
  rw [h.comparisons, mem_dominanceComparisons] at hc
  obtain ⟨a, ha, b, hb, -, hcompare⟩ := hc
  obtain ⟨hdominant, hdominated, houtdoes⟩ := compareDominance_spec hcompare
  exact ⟨a, ha, b, hb, hdominant.symm, hdominated.symm, houtdoes⟩

/-- A hotel id stands for one candidate. -/
theorem Evaluates.candidate_eq (h : Evaluates o l e) (ha : a ∈ l) (hb : b ∈ l)
    (hab : a.hotelId = b.hotelId) : a = b :=
  List.inj_on_of_nodup_map h.ids_nodup ha hb hab

theorem mem_dominatedBy {comparisons : List DominanceComparison} {x : String}
    (hx : x ∈ (evaluateCandidate o comparisons a).dominatedByHotelIds) :
    ∃ c ∈ comparisons, c.dominantHotelId = x ∧ c.dominatedHotelId = a.hotelId := by
  simp only [evaluateCandidate, JsText.mem_uniqueSorted, List.mem_map, List.mem_filter,
    decide_eq_true_eq] at hx
  obtain ⟨⟨c, ⟨hc, hid⟩, rfl⟩, -⟩ := hx
  exact ⟨c, hc, rfl, hid⟩

/-- An eligible candidate with enough comparable dimensions. -/
def Rankable (o : ResolvedOptions) (c : NormalizedCandidate) : Prop :=
  c.eligible = true ∧ o.minimumComparableDimensions ≤ c.dimensions.length

theorem Outdoes.rankable (h : Outdoes o a b) (hb : b.dimensions.Nodup) : Rankable o a := by
  refine ⟨h.eligible, h.enough.trans ?_⟩
  exact_mod_cast (hb.subperm h.covers).length_le

/-- A rankable candidate is dominated or on the frontier; the others are unknown. -/
theorem status_spec (comparisons : List DominanceComparison) (ha : a.dimensions.Nodup) :
    ((evaluateCandidate o comparisons a).eligibleForFrontier = true ↔ Rankable o a) ∧
    (Rankable o a → (evaluateCandidate o comparisons a).dominatedByHotelIds = [] →
      (evaluateCandidate o comparisons a).status = .frontier) ∧
    ((evaluateCandidate o comparisons a).status = .dominated →
      Rankable o a ∧ (evaluateCandidate o comparisons a).dominatedByHotelIds ≠ []) := by
  have hlength : (uniqueSortedCodes a.dimensions).length = a.dimensions.length := by
    rw [uniqueSortedCodes, List.length_insertionSort, List.Nodup.dedup ha]
  refine ⟨?_, fun hrank hnil => ?_, fun hstatus => ?_⟩
  · simp [evaluateCandidate, hlength, Rankable]
  · simp only [evaluateCandidate] at hnil
    simp [evaluateCandidate, hlength, hrank.1, hrank.2, hnil]
  · simp only [evaluateCandidate, hlength] at hstatus ⊢
    split at hstatus
    · cases hstatus
    next heligible =>
    split at hstatus
    · cases hstatus
    next henough =>
    split at hstatus
    · next hpos =>
      exact ⟨⟨by simpa using heligible, by simpa using henough⟩, List.length_pos_iff.mp hpos⟩
    · cases hstatus

/-! ## 3. Soundness -/

/-- Nothing dominates itself through others, some candidate is on the frontier, and every
    dominated hotel is below one that is. -/
structure FrontierEvaluation.Sound (e : FrontierEvaluation) : Prop where
  acyclic : Acyclic e.Dominates
  frontier_ne : e.rankable ≠ [] → e.frontierHotelIds ≠ []
  below : ∀ y ∈ e.dominatedHotelIds, ∃ x ∈ e.frontierHotelIds, Relation.TransGen e.Dominates x y

/-- The candidate with this hotel id. -/
def candidate? (l : List NormalizedCandidate) (x : String) : Option NormalizedCandidate :=
  l.find? (·.hotelId = x)

/-- Hotels measured by the available dimensions of their candidates. -/
def yardstick (o : ResolvedOptions) (l : List NormalizedCandidate) :
    Yardstick String DimensionCode ℚ where
  measured x := ((candidate? l x).map (·.dimensions.toFinset)).getD ∅
  score d x := ((candidate? l x).map (·.score d)).getD 0
  tolerance _ := o.nonWorseTolerance
  improvement _ := o.minimumImprovement
  tolerance_nonneg _ := o.nonWorseTolerance_nonneg
  improvement_pos _ := o.nonWorseTolerance_nonneg.trans_lt o.nonWorseTolerance_lt

theorem Evaluates.candidate?_eq (h : Evaluates o l e) (ha : a ∈ l) :
    candidate? l a.hotelId = some a := by
  cases hfind : candidate? l a.hotelId with
  | none =>
    have hnone := List.find?_eq_none.mp hfind a ha
    simp at hnone
  | some c =>
    have hid : c.hotelId = a.hotelId := by simpa using List.find?_some hfind
    rw [h.candidate_eq (List.mem_of_find?_eq_some hfind) ha hid]

theorem Evaluates.beats (h : Evaluates o l e) {x y : String} (hxy : e.Dominates x y) :
    (yardstick o l).Beats x y := by
  obtain ⟨a, ha, b, hb, rfl, rfl, hout⟩ := h.dominates hxy
  constructor
  · intro d
    simpa [yardstick, h.candidate?_eq ha, h.candidate?_eq hb] using @hout.covers d
  · simpa [yardstick, h.candidate?_eq ha, h.candidate?_eq hb] using hout.nonWorse
  · simpa [yardstick, h.candidate?_eq ha, h.candidate?_eq hb] using hout.better

theorem Evaluates.card_measured_le (h : Evaluates o l e) (x : String) :
    ((yardstick o l).measured x).card ≤ o.dimensionCodes.length := by
  cases hfind : candidate? l x with
  | none => simp [yardstick, hfind]
  | some c =>
    have hsub := h.dimensions_subset c (List.mem_of_find?_eq_some hfind)
    calc ((yardstick o l).measured x).card
        = c.dimensions.toFinset.card := by simp [yardstick, hfind]
      _ ≤ o.dimensionCodes.toFinset.card :=
          Finset.card_le_card fun d hd => by simpa using hsub (by simpa using hd)
      _ ≤ o.dimensionCodes.length := List.toFinset_card_le _

theorem Evaluates.mem_rankable (h : Evaluates o l e) {c : CandidateEvaluation} :
    c ∈ e.rankable ↔ ∃ a ∈ l, evaluateCandidate o e.dominanceComparisons a = c ∧ Rankable o a := by
  rw [FrontierEvaluation.rankable, List.mem_filter, h.evaluations, List.mem_map]
  constructor
  · rintro ⟨⟨a, ha, rfl⟩, hrank⟩
    exact ⟨a, ha, rfl, (status_spec _ (h.dimensions_nodup a ha)).1.mp hrank⟩
  · rintro ⟨a, ha, rfl, hrank⟩
    exact ⟨⟨a, ha, rfl⟩, (status_spec _ (h.dimensions_nodup a ha)).1.mpr hrank⟩

/-- A hotel that dominates another is rankable. -/
theorem Evaluates.dominator_rankable (h : Evaluates o l e) {x y : String} (hxy : e.Dominates x y) :
    ∃ a ∈ l, a.hotelId = x ∧ Rankable o a := by
  obtain ⟨a, ha, b, hb, rfl, rfl, hout⟩ := h.dominates hxy
  exact ⟨a, ha, rfl, hout.rankable (h.dimensions_nodup b hb)⟩

/-- A rankable hotel that nothing dominates is on the frontier. -/
theorem Evaluates.top_frontier (h : Evaluates o l e) (ha : a ∈ l) (hrank : Rankable o a)
    (htop : Undominated e.Dominates a.hotelId) : a.hotelId ∈ e.frontierHotelIds := by
  have hnil : (evaluateCandidate o e.dominanceComparisons a).dominatedByHotelIds = [] := by
    refine List.eq_nil_iff_forall_not_mem.mpr fun x hx => ?_
    obtain ⟨c, hc, hdominant, hdominated⟩ := mem_dominatedBy hx
    exact htop x ⟨c, hc, hdominant, hdominated⟩
  have hstatus := (status_spec _ (h.dimensions_nodup a ha)).2.1 hrank hnil
  rw [h.frontier, hotelsWith, List.mem_map]
  refine ⟨evaluateCandidate o e.dominanceComparisons a, List.mem_filter.mpr ⟨?_, ?_⟩, rfl⟩
  · rw [h.evaluations]
    exact List.mem_map_of_mem ha
  · simpa using hstatus

/-- Without cycles the frontier lies above every dominated hotel. -/
theorem Evaluates.sound_of_acyclic (h : Evaluates o l e) (hacyclic : Acyclic e.Dominates) :
    e.Sound := by
  have hfin : {x | ∃ y, e.Dominates x y}.Finite := by
    refine (l.map (·.hotelId)).toFinset.finite_toSet.subset ?_
    rintro x ⟨y, hxy⟩
    obtain ⟨a, ha, rfl, -⟩ := h.dominator_rankable hxy
    simpa using ⟨a, ha, rfl⟩
  have habove : ∀ x y, e.Dominates x y →
      ∃ u, u ∈ e.frontierHotelIds ∧ Relation.TransGen e.Dominates u y := fun x y hxy =>
    hacyclic.exists_frontier hfin (fun u z huz htop => by
      obtain ⟨a, ha, rfl, hrank⟩ := h.dominator_rankable huz
      exact h.top_frontier ha hrank htop) hxy
  refine ⟨hacyclic, fun hne hnil => ?_, fun y hy => ?_⟩
  · obtain ⟨c, hc⟩ := List.exists_mem_of_ne_nil _ hne
    obtain ⟨a, ha, rfl, hrank⟩ := h.mem_rankable.mp hc
    by_cases htop : Undominated e.Dominates a.hotelId
    · simpa [hnil] using h.top_frontier ha hrank htop
    · obtain ⟨x, hx⟩ : ∃ x, e.Dominates x a.hotelId := by simpa [Undominated] using htop
      obtain ⟨u, hu, -⟩ := habove x _ hx
      simp [hnil] at hu
  · rw [h.dominated, hotelsWith, List.mem_map] at hy
    obtain ⟨c, hc, rfl⟩ := hy
    rw [List.mem_filter, h.evaluations, List.mem_map] at hc
    obtain ⟨⟨a, ha, rfl⟩, hstatus⟩ := hc
    have hne := ((status_spec _ (h.dimensions_nodup a ha)).2.2 (by simpa using hstatus)).2
    obtain ⟨x, hx⟩ := List.exists_mem_of_ne_nil _ hne
    obtain ⟨c, hc, hdominant, hdominated⟩ := mem_dominatedBy hx
    exact habove x _ ⟨c, hc, hdominant, hdominated⟩

theorem Evaluates.acyclic_of_few_hotels (h : Evaluates o l e)
    (hfew : ((e.rankable.length : ℚ) - 1) * o.nonWorseTolerance < o.minimumImprovement) :
    Acyclic e.Dominates := by
  refine Yardstick.acyclic_of_card (y := yardstick o l) (e.rankable.map (·.hotelId)).toFinset
    .priceValue (fun x y hxy => ?_) (fun x y hxy => h.beats hxy) fun d _ => ?_
  · obtain ⟨a, ha, rfl, hrank⟩ := h.dominator_rankable hxy
    simpa using ⟨_, h.mem_rankable.mpr ⟨a, ha, rfl, hrank⟩, rfl⟩
  · have hcard : (((e.rankable.map (·.hotelId)).toFinset.card : ℕ) : ℚ) ≤ e.rankable.length := by
      exact_mod_cast (List.toFinset_card_le _).trans (List.length_map _).le
    exact (mul_le_mul_of_nonneg_right (sub_le_sub_right hcard 1)
      o.nonWorseTolerance_nonneg).trans_lt hfew

theorem Evaluates.acyclic_of_few_dimensions (h : Evaluates o l e)
    (hfew : ((o.dimensionCodes.length : ℚ) - 1) * o.nonWorseTolerance < o.minimumImprovement) :
    Acyclic e.Dominates := by
  refine Yardstick.acyclic_of_shares (y := yardstick o l) (fun x y hxy => h.beats hxy) fun x => ?_
  have hpos : 0 < o.nonWorseTolerance + o.minimumImprovement :=
    add_pos_of_nonneg_of_pos o.nonWorseTolerance_nonneg
      (o.nonWorseTolerance_nonneg.trans_lt o.nonWorseTolerance_lt)
  have hcard : (((yardstick o l).measured x).card : ℚ) ≤ o.dimensionCodes.length := by
    exact_mod_cast h.card_measured_le x
  have hmono := mul_le_mul_of_nonneg_right hcard o.nonWorseTolerance_nonneg
  simp only [Yardstick.share, yardstick, Finset.sum_const, nsmul_eq_mul, mul_div_assoc'] at hmono ⊢
  rw [div_lt_one hpos]
  linarith

/-- Two hotels never dominate each other. The frontier is sound whenever an improvement is
    more than what the tolerances of all other rankable hotels, or of all other dimensions,
    add up to. -/
theorem frontier_sound {candidates : List Candidate} {options : FrontierOptions}
    (h : evaluateParetoFrontierV2 candidates options = .ok e)
    (ho : resolveOptions options = .ok o) :
    (∀ x y, e.Dominates x y → ¬ e.Dominates y x) ∧
      (((min e.rankable.length o.dimensionCodes.length : ℕ) - 1 : ℚ) * o.nonWorseTolerance <
        o.minimumImprovement → e.Sound) := by
  obtain ⟨o', l, ho', hl⟩ := evaluate_spec h
  obtain rfl : o' = o := Except.ok.inj (ho'.symm.trans ho)
  refine ⟨fun x y hxy hyx => ?_, fun hfew => hl.sound_of_acyclic ?_⟩
  · exact (hl.beats hxy).asymm .priceValue (fun d _ => o'.nonWorseTolerance_lt) (hl.beats hyx)
  · rcases min_choice e.rankable.length o'.dimensionCodes.length with hmin | hmin
    · exact hl.acyclic_of_few_hotels (hmin ▸ hfew)
    · exact hl.acyclic_of_few_dimensions (hmin ▸ hfew)

/-! ## 4. Three hotels in a circle -/

instance {x y : String} : Decidable (e.Dominates x y) :=
  inferInstanceAs (Decidable (∃ c ∈ e.dominanceComparisons, _ ∧ _))

/-- A hotel whose value for money, quality and location have these scores. -/
def scored (hotelId : String) (priceValue quality location : ℚ) : Candidate where
  hotelId := hotelId
  eligibleForPrimaryRanking := true
  utility :=
    { hotelId := hotelId
      status := .usable
      eligibleForPrimaryRanking := true
      preference := ⟨.balanced, fun _ => some (1 / 7)⟩
      utilityScore := some 1
      contributions :=
        [⟨.priceValue, true, some priceValue, some 1⟩, ⟨.quality, true, some quality, some 1⟩,
          ⟨.location, true, some location, some 1⟩] }

/-- Each hotel is better by 2 than the next on one dimension and worse by 1 on the others. -/
def circle : List Candidate := [scored "a" 2 0 1, scored "b" 0 1 2, scored "c" 1 2 0]

/-- With the default options each of three hotels dominates the next and the frontier is
    empty. -/
theorem frontier_circular : ∃ e, evaluateParetoFrontierV2 circle {} = .ok e ∧
    e.Dominates "a" "b" ∧ e.Dominates "b" "c" ∧ e.Dominates "c" "a" ∧
    e.rankable.length = 3 ∧ e.frontierHotelIds = [] ∧ ¬ e.Sound := by
  obtain ⟨e, he, hrun⟩ := Fallible.exists_ok (x := evaluateParetoFrontierV2 circle {})
    (p := fun e => decide (e.Dominates "a" "b" ∧ e.Dominates "b" "c" ∧ e.Dominates "c" "a" ∧
      e.rankable.length = 3 ∧ e.frontierHotelIds = [])) (by decide +kernel)
  obtain ⟨hab, hbc, hca, hrank, hempty⟩ := of_decide_eq_true hrun
  exact ⟨e, he, hab, hbc, hca, hrank, hempty, fun hsound =>
    hsound.acyclic "a" (((Relation.TransGen.single hab).tail hbc).tail hca)⟩

/-- Without a tolerance the same hotels have a sound frontier. -/
theorem frontier_sound_strict : ∃ e,
    evaluateParetoFrontierV2 circle { nonWorseTolerance := some 0 } = .ok e ∧ e.Sound := by
  obtain ⟨e, he, -⟩ := Fallible.exists_ok
    (x := evaluateParetoFrontierV2 circle { nonWorseTolerance := some 0 })
    (p := fun _ => true) (by decide +kernel)
  obtain ⟨o, ho, htolerance⟩ := Fallible.exists_ok
    (x := resolveOptions { nonWorseTolerance := some 0 })
    (p := fun o => decide (o.nonWorseTolerance = 0)) (by decide +kernel)
  refine ⟨e, he, (frontier_sound he ho).2 ?_⟩
  have hlt := o.nonWorseTolerance_lt
  rw [of_decide_eq_true htolerance] at hlt ⊢
  rwa [mul_zero]

end SmartStay.Pareto
