import SmartStay.Ranking.Diversity

/-!
# What the rankings contain

Every accepted input is ranked three times, and each ranking is made of the hotels of the input.

1. `eligible_first`: the base ranking ends with the excluded hotels.
2. `picked_nodup`, `diversify_perm`: nothing is shown twice, and nothing is lost.
3. `rankings_partition`: the rankings, the bands, and what is visible, additional or excluded.
4. `evaluations_carry_positions`: the ranks of the evaluations.
5. `ranking_perm`: the order of the candidates does not matter.
-/

namespace SmartStay.Ranking

open JsSort Precedence

variable {pf : Platform} {o : ResolvedOptions} {previous : List String} {s : List StableCandidate}

/-! ## 1. Eligible hotels first -/

/-- The candidates in base order. -/
def baseOrder (pf : Platform) (input : RankingInput) : List NormalizedCandidate :=
  sortBy compareBaseCandidates (input.candidates.map (normalizeCandidate pf))

theorem filter_append_of_pairwise {α : Type} {p : α → Bool} {l : List α}
    (h : l.Pairwise fun a b => p b = true → p a = true) :
    l = l.filter p ++ l.filter fun a => !p a := by
  induction l with
  | nil => rfl
  | cons a l ih =>
    obtain ⟨ha, hl⟩ := List.pairwise_cons.mp h
    cases hp : p a with
    | true => simp [hp, ← ih hl]
    | false =>
      have hnone : l.filter p = [] := List.filter_eq_nil_iff.mpr fun b hb hpb => by
        simp [hp] at ha
        simp [ha b hb] at hpb
      have hall := ih hl
      rw [hnone, List.nil_append] at hall
      simp [hp, hnone, ← hall]

theorem eligible_first (pf : Platform) (input : RankingInput) : baseOrder pf input =
    (baseOrder pf input).filter (·.eligible) ++ (baseOrder pf input).filter (!·.eligible) := by
  refine filter_append_of_pairwise ((pairwise_sortBy _).imp fun {a b} hab hb => ?_)
  -- an excluded candidate compares greater than an eligible one
  by_contra ha
  rw [Bool.not_eq_true] at ha
  exact hab (by simp [compareBaseCandidates, compareEligible, ha, hb, Ordering.then])

/-- Candidates as the engine orders them: with distinct ids, the eligible ones first. -/
structure BaseOrdered (l : List NormalizedCandidate) : Prop where
  nodup : (l.map (·.hotelId)).Nodup
  split : l = l.filter (·.eligible) ++ l.filter (!·.eligible)

theorem baseOrder_ids (pf : Platform) (input : RankingInput) :
    ((baseOrder pf input).map (·.hotelId)).Perm (hotelIds input.candidates) := by
  have hperm := (sortBy_perm compareBaseCandidates
    (input.candidates.map (normalizeCandidate pf))).map (·.hotelId)
  rwa [List.map_map] at hperm

theorem baseOrdered_of_accepted {input : RankingInput} (h : Accepted input) (pf : Platform) :
    BaseOrdered (baseOrder pf input) :=
  ⟨(baseOrder_ids pf input).nodup_iff.mpr h.nodup, eligible_first pf input⟩

/-- The eligible hotels in base order, then the excluded ones. -/
theorem BaseOrdered.ids {l : List NormalizedCandidate} (h : BaseOrdered l) :
    (l.filter (·.eligible)).map (·.hotelId) ++ (l.filter (!·.eligible)).map (·.hotelId) =
      l.map (·.hotelId) := by
  rw [← List.map_append, ← h.split]

/-! ## 2. The selection -/

/-- Roles are protected once each. -/
theorem anchorsFrom_roles {roles : List RecommendationRole} {selected : List StableCandidate}
    (hroles : (selected.map (·.source.recommendation.role) ++ roles).Nodup) :
    ((anchorsFrom s roles selected).map (·.source.recommendation.role)).Nodup := by
  induction roles generalizing selected with
  | nil => rwa [List.append_nil] at hroles
  | cons role rest ih =>
    rw [anchorsFrom]
    split
    next => exact ih (hroles.sublist ((List.sublist_cons_self _ _).append_left _))
    next candidate hfind =>
      have hrole := List.find?_some hfind
      simp only [Bool.and_eq_true, decide_eq_true_eq] at hrole
      refine ih ?_
      rw [List.map_append, List.map_singleton, hrole.1.2, List.append_assoc]
      exact hroles

theorem anchors_nodup (hids : DistinctIds s) : DistinctIds (selectRoleAnchors o s) := by
  have hroles : ((selectRoleAnchors o s).map (·.source.recommendation.role)).Nodup := by
    rw [selectRoleAnchors]
    split
    · exact List.nodup_nil
    · exact anchorsFrom_roles (by decide)
  refine List.Nodup.map_on (fun a ha b hb hab => ?_) (List.Nodup.of_map _ hroles)
  exact hids.inj (anchor_mem ha) (anchor_mem hb) hab

theorem Rounds.nodup {selected remaining extra : List StableCandidate}
    (h : Rounds o selected remaining extra) : DistinctIds extra := by
  induction extra using List.reverseRecOn with
  | nil => exact List.nodup_nil
  | append_singleton front c ih =>
    have hchosen := h front c [] rfl
    have hfront : Rounds o selected remaining front := fun front' c' back' hsplit =>
      h front' c' (back' ++ [c]) (by rw [hsplit, List.append_assoc, List.cons_append])
    have hnot : c.hotelId ∉ front.map (·.hotelId) := by
      simpa using (List.mem_filter.mp hchosen.mem).2
    rw [DistinctIds, List.map_append, List.map_singleton]
    exact List.nodup_append.mpr ⟨ih hfront, List.nodup_singleton _,
      fun id hid id' hid' heq => hnot (List.mem_singleton.mp hid' ▸ heq ▸ hid)⟩

theorem additional_eq (pf : Platform) (o : ResolvedOptions) (s : List StableCandidate) :
    (diversifyCandidates pf o s).additional = s.filter fun c =>
      c.hotelId ∉ (diversifyCandidates pf o s).visible.map (·.hotelId) := rfl

theorem picked_nodup (pf : Platform) (o : ResolvedOptions) (hids : DistinctIds s) :
    DistinctIds (picked pf o s) := by
  obtain ⟨extra, hpicked, hrounds⟩ := picked_rounds pf o hids
  rw [DistinctIds, hpicked, List.map_append]
  refine List.nodup_append.mpr ⟨anchors_nodup hids, hrounds.nodup, fun id hid id' hid' heq => ?_⟩
  obtain ⟨c, hc, rfl⟩ := List.mem_map.mp hid'
  obtain ⟨front, back, hsplit⟩ := List.append_of_mem hc
  have hremaining := (List.mem_filter.mp (hrounds front c back hsplit).mem).1
  have hnot := (List.mem_filter.mp hremaining).2
  rw [decide_eq_true_eq] at hnot
  exact hnot (heq ▸ hid)

theorem visible_nodup (pf : Platform) (hids : DistinctIds s) :
    DistinctIds (diversifyCandidates pf o s).visible :=
  (picked_nodup pf o hids).sublist ((List.take_sublist _ _).map _)

/-- What is not shown is additional. -/
theorem diversify_perm (pf : Platform) (hids : DistinctIds s) :
    ((diversifyCandidates pf o s).visible ++ (diversifyCandidates pf o s).additional).Perm s := by
  have hs : s.Nodup := List.Nodup.of_map _ hids
  have hvisible := visible_nodup (o := o) pf hids
  have hmem : ∀ c, c ∈ (diversifyCandidates pf o s).additional ↔
      c ∈ s ∧ c.hotelId ∉ (diversifyCandidates pf o s).visible.map (·.hotelId) := by
    intro c
    rw [additional_eq, List.mem_filter, decide_eq_true_eq]
  have hadditional : (diversifyCandidates pf o s).additional.Nodup := hs.filter _
  refine (List.perm_ext_iff_of_nodup ?_ hs).mpr fun c => ?_
  · refine List.nodup_append.mpr ⟨List.Nodup.of_map _ hvisible, hadditional, ?_⟩
    rintro a ha b hb rfl
    exact ((hmem a).mp hb).2 (List.mem_map_of_mem ha)
  · rw [List.mem_append, hmem]
    constructor
    · rintro (hc | hc)
      · exact visible_mem hids hc
      · exact hc.1
    · intro hc
      by_cases hshown : c.hotelId ∈ (diversifyCandidates pf o s).visible.map (·.hotelId)
      · obtain ⟨shown, hmem, hid⟩ := List.mem_map.mp hshown
        exact .inl (hids.inj (visible_mem hids hmem) hc hid ▸ hmem)
      · exact .inr ⟨hc, hshown⟩

theorem visible_length (pf : Platform) (o : ResolvedOptions) (s : List StableCandidate) :
    (diversifyCandidates pf o s).visible.length ≤ o.maximumVisibleResults := by
  rw [visible_eq_take, List.length_take]
  exact Nat.min_le_left _ _

/-! ## 3. The rankings -/

variable {input : RankingInput} {options : RankingOptions} {ranking : RankingEvaluation}

theorem ranking_of_ok
    (h : evaluateRankingStabilityDiversityV2 pf input options = .ok ranking) :
    Accepted input ∧ ranking = createRanking pf (resolveOptions options) (baseOrder pf input)
      (input.previousRankingHotelIds.map JsText.trim) := by
  obtain ⟨⟨⟩, hvalid, hranking⟩ := Fallible.bind_ok.mp h
  exact ⟨validateInput_ok.mp hvalid, (Except.ok.inj hranking).symm⟩

/-- The ids of the stable candidates, band by band. -/
theorem stableCandidates_ids (o : ResolvedOptions) (l : List NormalizedCandidate)
    (previous : List String) : (createStableCandidates o l previous).map (·.hotelId) =
      ((createStabilityBands o l previous).1.map (·.memberHotelIds)).flatten := by
  have hids : (createStableCandidates o l previous).map (·.hotelId) =
      ((createStableCandidates o l previous).map (·.toNormalizedCandidate)).map (·.hotelId) := by
    rw [List.map_map]
    rfl
  rw [hids, stableCandidates_map, List.map_flatMap, createStabilityBands, List.map_map,
    ← List.flatMap_def]
  rfl

/-- A band is a block of the base ranking, which its first hotel anchors. -/
structure BandOf (band : StabilityBand) (block : List String) : Prop where
  anchor : block.head? = some band.anchorHotelId
  members : band.memberHotelIds.Perm block

theorem bands_of_groups (previous : List String) {groups : List (List NormalizedCandidate)}
    (hne : ∀ g ∈ groups, g ≠ []) :
    List.Forall₂ BandOf (groups.map (createBand previous))
      (groups.map fun members => members.map (·.hotelId)) := by
  induction groups with
  | nil => exact .nil
  | cons members groups ih =>
    obtain ⟨hmembers, hne⟩ := List.forall_mem_cons.mp hne
    refine .cons ⟨?_, (orderMembers_perm previous members).map _⟩ (ih hne)
    obtain ⟨first, rest, rfl⟩ := List.exists_cons_of_ne_nil hmembers
    rfl

theorem stableCandidates_ids_perm (o : ResolvedOptions) (l : List NormalizedCandidate)
    (previous : List String) :
    ((createStableCandidates o l previous).map (·.hotelId)).Perm (l.map (·.hotelId)) := by
  have hperm := (stableCandidates_perm o l previous).map (·.hotelId)
  rwa [List.map_map] at hperm

theorem BaseOrdered.distinctIds {l : List NormalizedCandidate} (h : BaseOrdered l)
    (o : ResolvedOptions) (previous : List String) :
    DistinctIds (createStableCandidates o (l.filter (·.eligible)) previous) :=
  (stableCandidates_ids_perm _ _ _).nodup_iff.mpr (h.nodup.sublist (List.filter_sublist.map _))

theorem stableRanking_perm {l : List NormalizedCandidate} (h : BaseOrdered l) :
    (createRanking pf o l previous).stableRankingHotelIds.Perm (l.map (·.hotelId)) := by
  refine ((stableCandidates_ids_perm o (l.filter (·.eligible)) previous).append_right _).trans ?_
  rw [h.ids]

theorem diversifiedRanking_perm (pf : Platform) (o : ResolvedOptions) (previous : List String)
    {l : List NormalizedCandidate} (h : BaseOrdered l) :
    (createRanking pf o l previous).diversifiedRankingHotelIds.Perm (l.map (·.hotelId)) := by
  have hshown := (diversify_perm (o := o) pf (h.distinctIds o previous)).map (·.hotelId)
  refine ((hshown.trans (stableCandidates_ids_perm _ _ _)).append_right _).trans ?_
  rw [h.ids]

/-- Each ranking is a permutation of the hotels, the excluded ones last. The bands are the consecutive
blocks of the eligible hotels in base order, each with its members in stable order. What is visible,
what is additional and what is excluded are the parts of the diversified ranking. -/
theorem rankings_partition
    (h : evaluateRankingStabilityDiversityV2 pf input options = .ok ranking) :
    ranking.baseRankingHotelIds.Perm (hotelIds input.candidates) ∧
    ranking.stableRankingHotelIds.Perm (hotelIds input.candidates) ∧
    ranking.diversifiedRankingHotelIds.Perm (hotelIds input.candidates) ∧
    ranking.diversifiedRankingHotelIds =
      ranking.visibleHotelIds ++ ranking.additionalHotelIds ++ ranking.excludedHotelIds ∧
    ranking.visibleHotelIds.length ≤ (resolveOptions options).maximumVisibleResults ∧
    (∀ c ∈ input.candidates, JsText.trim c.hotelId ∈ ranking.excludedHotelIds ↔
      (normalizeCandidate pf c).eligible = false) ∧
    ranking.stableRankingHotelIds =
      (ranking.stabilityBands.map (·.memberHotelIds)).flatten ++ ranking.excludedHotelIds ∧
    ∃ blocks : List (List String), List.Forall₂ BandOf ranking.stabilityBands blocks ∧
      ranking.baseRankingHotelIds = blocks.flatten ++ ranking.excludedHotelIds := by
  obtain ⟨haccepted, rfl⟩ := ranking_of_ok h
  have hbase := baseOrder_ids pf input
  have hordered := baseOrdered_of_accepted haccepted pf
  have hbands := bands_of_groups (input.previousRankingHotelIds.map JsText.trim)
    (groupEquivalent_ne_nil (o := resolveOptions options)
      (l := (baseOrder pf input).filter (·.eligible)))
  refine ⟨hbase, (stableRanking_perm hordered).trans hbase,
    (diversifiedRanking_perm pf _ _ hordered).trans hbase, ?_, ?_, ?_, ?_, _, hbands, ?_⟩
  · exact congrArg (· ++ _) List.map_append
  · exact (List.length_map _).trans_le (visible_length pf _ _)
  · intro c hc
    have hmem : JsText.trim c.hotelId ∈ ((baseOrder pf input).filter (!·.eligible)).map (·.hotelId) ↔
        (normalizeCandidate pf c).eligible = false := by
      simp only [List.mem_map, List.mem_filter, baseOrder, mem_sortBy, Bool.not_eq_true']
      constructor
      · rintro ⟨_, ⟨⟨c', hc', rfl⟩, hexcluded⟩, hid⟩
        rwa [List.inj_on_of_nodup_map haccepted.nodup hc' hc hid] at hexcluded
      · exact fun hexcluded => ⟨_, ⟨⟨c, hc, rfl⟩, hexcluded⟩, rfl⟩
    exact hmem
  · exact congrArg (· ++ _) (stableCandidates_ids _ _ _)
  · rw [← List.map_flatten, groupEquivalent_flatten]
    exact hordered.ids.symm

/-- Three hotels; the last one is excluded for its risk, the second is known from before. -/
def partitionInput : RankingInput where
  candidates := sampleInput.candidates ++
    [{ sampleCandidate "c" .unassigned 90 with risk := ⟨some 70, .medium, []⟩ }]
  previousRankingHotelIds := [" b "]

theorem evaluated_partitionInput (options : RankingOptions) :
    evaluateRankingStabilityDiversityV2 samplePlatform partitionInput options =
      .ok (createRanking samplePlatform (resolveOptions options)
        (baseOrder samplePlatform partitionInput) ["b"]) := by
  have hvalid : validateInput partitionInput = .ok () := by decide +kernel
  have hprevious : partitionInput.previousRankingHotelIds.map JsText.trim = ["b"] := by
    decide +kernel
  rw [evaluateRankingStabilityDiversityV2, hvalid, hprevious]
  rfl

theorem rankings_partition_sample : ∃ ranking,
    evaluateRankingStabilityDiversityV2 samplePlatform partitionInput {} = .ok ranking ∧
      ranking.excludedHotelIds = ["c"] ∧
      ranking.stableRankingHotelIds.Perm (hotelIds partitionInput.candidates) ∧
      ranking.diversifiedRankingHotelIds =
        ranking.visibleHotelIds ++ ranking.additionalHotelIds ++ ranking.excludedHotelIds := by
  obtain ⟨-, hperm, -, hsplit, -⟩ := rankings_partition (evaluated_partitionInput {})
  exact ⟨_, evaluated_partitionInput {}, by decide +kernel, hperm, hsplit⟩

/-! ## 4. The evaluations -/

section Positions

variable {l : List String} {id : String}

theorem idxOf?_of_mem (h : id ∈ l) : l.idxOf? id = some (l.idxOf id) := by
  cases hfind : l.idxOf? id with
  | none => exact absurd h (List.idxOf?_eq_none_iff.mp hfind)
  | some k => rw [List.idxOf_eq_getD_idxOf?, hfind]; rfl

theorem rankIn_of_mem (h : id ∈ l) : rankIn l id = some (l.idxOf id + 1) :=
  congrArg (Option.map (· + 1)) (idxOf?_of_mem h)

theorem rankIn_of_not_mem (h : id ∉ l) : rankIn l id = none := by
  rw [rankIn, List.idxOf?_eq_none_iff.mpr h]
  rfl

theorem idxOf_of_getElem? (hnodup : l.Nodup) {k : ℕ} (h : l[k]? = some id) : l.idxOf id = k := by
  obtain ⟨hk, rfl⟩ := List.getElem?_eq_some_iff.mp h
  exact hnodup.idxOf_getElem k hk

/-- A permutation that is sorted by the positions in a list is that list. -/
theorem eq_of_sorted_positions {l' : List String} (hnodup : l.Nodup) (hperm : l'.Perm l)
    (hsorted : l'.Pairwise fun a b => l.idxOf a ≤ l.idxOf b) : l' = l := by
  have hself : l.Pairwise fun a b => l.idxOf a ≤ l.idxOf b := by
    refine List.pairwise_iff_getElem.mpr fun i j hi hj hij => ?_
    rw [hnodup.idxOf_getElem, hnodup.idxOf_getElem]
    exact hij.le
  refine List.Perm.eq_of_pairwise (fun a b ha _ hab hba => ?_) hsorted hself hperm
  exact (List.idxOf_inj (hperm.mem_iff.mp ha)).mp (le_antisymm hab hba)

end Positions

/-- The rank by which the evaluations are sorted. -/
def rankKey (evaluation : CandidateEvaluation) : WithTop ℕ := evaluation.diversifiedRank

theorem rankKey_le {first second : CandidateEvaluation} :
    (compareEvaluations first second ≠ .gt → rankKey first ≤ rankKey second) ∧
      (compareEvaluations first second = .gt → rankKey second ≤ rankKey first) := by
  rw [compareEvaluations, rankKey, rankKey]
  cases first.diversifiedRank with
  | none =>
    cases second.diversifiedRank with
    | none => exact ⟨fun _ => le_rfl, fun _ => le_rfl⟩
    | some rank => exact ⟨fun h => absurd rfl h, fun _ => le_top⟩
  | some rank =>
    cases second.diversifiedRank with
    | none => exact ⟨fun _ => le_top, fun h => by cases h⟩
    | some rank' =>
      have hle : ∀ a b : ℕ, a ≤ b → (a : WithTop ℕ) ≤ (b : WithTop ℕ) :=
        fun a b hab => WithTop.coe_le_coe.mpr hab
      rcases lt_trichotomy rank rank' with hlt | rfl | hgt
      · simp only [compare_lt_iff_lt.mpr hlt]
        exact ⟨fun _ => hle _ _ hlt.le, fun h => by cases h⟩
      · exact ⟨fun _ => le_rfl, fun _ => le_rfl⟩
      · simp only [compare_gt_iff_gt.mpr hgt]
        exact ⟨fun h => absurd rfl h, fun _ => hle _ _ hgt.le⟩

/-- The evaluations, sorted by rank, are in the order of a ranking of the same hotels. -/
theorem evaluations_ids {parts : RankingParts} {l : List NormalizedCandidate}
    (hnodup : parts.diversifiedRankingHotelIds.Nodup)
    (hperm : (l.map (·.hotelId)).Perm parts.diversifiedRankingHotelIds) :
    (sortBy compareEvaluations (l.map (evaluateCandidate parts))).map (·.hotelId) =
      parts.diversifiedRankingHotelIds := by
  refine eq_of_sorted_positions hnodup ?_ (List.pairwise_map.mpr ?_)
  · refine ((sortBy_perm _ _).map _).trans ?_
    rwa [List.map_map]
  · have hsorted := pairwise_sortBy_of (r := fun a b => rankKey a ≤ rankKey b)
      (fun a b => rankKey_le.1) (fun a b => rankKey_le.2) (l.map (evaluateCandidate parts))
    refine hsorted.imp_of_mem fun {a b} ha hb hab => ?_
    have hrank : ∀ e ∈ sortBy compareEvaluations (l.map (evaluateCandidate parts)),
        rankKey e = ((parts.diversifiedRankingHotelIds.idxOf e.hotelId + 1 : ℕ) : WithTop ℕ) := by
      intro e he
      obtain ⟨c, hc, rfl⟩ := List.mem_map.mp (mem_sortBy.mp he)
      exact rankIn_of_mem (hperm.mem_iff.mp (List.mem_map_of_mem hc))
    rw [hrank a ha, hrank b hb] at hab
    exact Nat.le_of_succ_le_succ (WithTop.coe_le_coe.mp hab)

/-- The positions of a stable candidate are its ranks. -/
theorem ranks_of_mem {l : List NormalizedCandidate} {c : StableCandidate}
    (hc : c ∈ createStableCandidates o l previous) :
    (l.map (·.hotelId))[c.baseRank - 1]? = some c.hotelId ∧ 1 ≤ c.baseRank ∧
      ((createStableCandidates o l previous).map (·.hotelId))[c.stableRank - 1]? = some c.hotelId ∧
      1 ≤ c.stableRank := by
  obtain ⟨j, hj⟩ := List.getElem?_of_mem hc
  have hmem : c.hotelId ∈ l.map (·.hotelId) := List.mem_map_of_mem
    ((stableCandidates_perm o l previous).mem_iff.mp (List.mem_map_of_mem hc))
  have hbase : c.baseRank = (l.map (·.hotelId)).idxOf c.hotelId + 1 := by
    have hj' := hj
    simp only [createStableCandidates, List.getElem?_mapIdx, Option.map_eq_some_iff] at hj'
    obtain ⟨member, -, rfl⟩ := hj'
    rfl
  refine ⟨?_, by omega, ?_, by rw [stableRank_eq hj]; omega⟩
  · rw [hbase, Nat.add_sub_cancel]
    exact List.getElem?_idxOf hmem
  · rw [stableRank_eq hj, Nat.add_sub_cancel, List.getElem?_map, hj]
    rfl

/-- The rank in the front part of a list. -/
theorem rankIn_append {l l' : List String} {id : String} {k : ℕ} (hnodup : (l ++ l').Nodup)
    (h : (l ++ l')[k]? = some id) :
    rankIn l id = if k < l.length then some (k + 1) else none := by
  split
  next hk =>
    rw [List.getElem?_append_left hk] at h
    rw [rankIn_of_mem (List.mem_of_getElem? h),
      idxOf_of_getElem? (hnodup.sublist (List.sublist_append_left _ _)) h]
  next hk =>
    rw [List.getElem?_append_right (Nat.not_lt.mp hk)] at h
    exact rankIn_of_not_mem fun hmem =>
      (List.nodup_append.mp hnodup).2.2 id hmem id (List.mem_of_getElem? h) rfl

/-- The stable candidate of an eligible candidate. -/
theorem find_stable (o : ResolvedOptions) (previous : List String) {l : List NormalizedCandidate}
    {c : NormalizedCandidate} (hc : c ∈ l) :
    ∃ stable ∈ createStableCandidates o l previous, stable.hotelId = c.hotelId ∧
      (createStableCandidates o l previous).find? (fun s => s.hotelId = c.hotelId) = some stable := by
  obtain ⟨sc, hsc, hid⟩ := List.mem_map.mp
    ((stableCandidates_ids_perm o l previous).mem_iff.mpr (List.mem_map_of_mem hc))
  cases hfind : (createStableCandidates o l previous).find? fun s => s.hotelId = c.hotelId with
  | none => exact absurd (decide_eq_true hid) (List.find?_eq_none.mp hfind sc hsc)
  | some stable =>
    exact ⟨stable, List.mem_of_find?_eq_some hfind, of_decide_eq_true (List.find?_some hfind :), rfl⟩

/-- For an eligible hotel the base rank and the stable rank are the positions in these rankings; an
excluded one has neither. -/
structure CarriesRanks (ranking : RankingEvaluation) (e : CandidateEvaluation) : Prop where
  eligible : e.eligible = true → ∃ i j, ranking.baseRankingHotelIds[i]? = some e.hotelId ∧
    e.baseRank = some (i + 1) ∧ ranking.stableRankingHotelIds[j]? = some e.hotelId ∧
    e.stableRank = some (j + 1)
  excluded : e.eligible = false → e.baseRank = none ∧ e.stableRank = none

theorem evaluated_ranks {l : List NormalizedCandidate} (h : BaseOrdered l) {e : CandidateEvaluation}
    (he : e ∈ (createRanking pf o l previous).evaluations) :
    CarriesRanks (createRanking pf o l previous) e := by
  obtain ⟨c, hc, rfl⟩ := List.mem_map.mp (mem_sortBy.mp he)
  constructor
  · intro heligible
    have hmem : c ∈ l.filter (·.eligible) := List.mem_filter.mpr ⟨hc, heligible⟩
    obtain ⟨stable, hstable, hid, hfind⟩ := find_stable o previous hmem
    obtain ⟨hbase, hbase1, hrank, hrank1⟩ := ranks_of_mem hstable
    rw [hid] at hbase hrank
    refine ⟨stable.baseRank - 1, stable.stableRank - 1, ?_, ?_, ?_, ?_⟩
    · change (l.map (·.hotelId))[stable.baseRank - 1]? = some c.hotelId
      rw [← h.ids, List.getElem?_append_left (List.getElem?_eq_some_iff.mp hbase).1]
      exact hbase
    · rw [Nat.sub_add_cancel hbase1]
      exact congrArg (Option.map _) hfind
    · exact (List.getElem?_append_left (List.getElem?_eq_some_iff.mp hrank).1).trans hrank
    · rw [Nat.sub_add_cancel hrank1]
      exact congrArg (Option.map _) hfind
  · intro hexcluded
    have hnone : (createStableCandidates o (l.filter (·.eligible)) previous).find?
        (fun s => s.hotelId = c.hotelId) = none := by
      refine List.find?_eq_none.mpr fun s hs hid => ?_
      have hmem := (stableCandidates_ids_perm o _ previous).mem_iff.mp (List.mem_map_of_mem hs)
      obtain ⟨c', hc', hsame⟩ := List.mem_map.mp hmem
      obtain ⟨hl, heligible⟩ := List.mem_filter.mp hc'
      rw [List.inj_on_of_nodup_map h.nodup hl hc (hsame.trans (of_decide_eq_true hid))] at heligible
      exact Bool.false_ne_true (hexcluded.symm.trans heligible)
    exact ⟨congrArg (Option.map _) hnone, congrArg (Option.map _) hnone⟩

/-- An evaluation stands at its diversified rank, and the first ones are the visible ones. -/
structure CarriesPosition (ranking : RankingEvaluation) (k : ℕ) (e : CandidateEvaluation) : Prop
    extends CarriesRanks ranking e where
  position : ranking.diversifiedRankingHotelIds[k]? = some e.hotelId
  diversifiedRank : e.diversifiedRank = some (k + 1)
  visibleRank : e.visibleRank = if k < ranking.visibleHotelIds.length then some (k + 1) else none
  visible : e.visible = true ↔ k < ranking.visibleHotelIds.length

theorem evaluated_position {l : List NormalizedCandidate} (h : BaseOrdered l) {k : ℕ}
    {e : CandidateEvaluation} (he : (createRanking pf o l previous).evaluations[k]? = some e) :
    CarriesPosition (createRanking pf o l previous) k e := by
  have hperm := diversifiedRanking_perm pf o previous h
  have hnodup := hperm.nodup_iff.mpr h.nodup
  have hids : (createRanking pf o l previous).evaluations.map (·.hotelId) =
      (createRanking pf o l previous).diversifiedRankingHotelIds :=
    evaluations_ids hnodup hperm.symm
  have hk : (createRanking pf o l previous).diversifiedRankingHotelIds[k]? = some e.hotelId := by
    rw [← hids, List.getElem?_map, he]
    rfl
  have hrank := (rankIn_of_mem (List.mem_of_getElem? hk)).trans
    (congrArg (fun position => some (position + 1)) (idxOf_of_getElem? hnodup hk))
  have hdiversified : (createRanking pf o l previous).diversifiedRankingHotelIds =
      (createRanking pf o l previous).visibleHotelIds ++
        ((createRanking pf o l previous).additionalHotelIds ++
          (createRanking pf o l previous).excludedHotelIds) := by
    rw [← List.append_assoc]
    exact congrArg (· ++ _) List.map_append
  have hvisible := rankIn_append (hdiversified ▸ hnodup) (hdiversified ▸ hk)
  have hmem := List.mem_of_getElem? he
  obtain ⟨c, -, rfl⟩ := List.mem_map.mp (mem_sortBy.mp hmem)
  refine ⟨evaluated_ranks h hmem, hk, hrank, hvisible, ?_⟩
  have hflag := congrArg Option.isSome hvisible
  rw [apply_ite Option.isSome] at hflag
  exact (Bool.eq_iff_iff.mp hflag).trans (by simp)

/-- The evaluations follow the diversified ranking, and carry the positions in all rankings. -/
theorem evaluations_carry_positions
    (h : evaluateRankingStabilityDiversityV2 pf input options = .ok ranking) :
    ranking.evaluations.length = input.candidates.length ∧
      ∀ k e, ranking.evaluations[k]? = some e → CarriesPosition ranking k e := by
  obtain ⟨haccepted, rfl⟩ := ranking_of_ok h
  refine ⟨?_, fun k e he => evaluated_position (baseOrdered_of_accepted haccepted pf) he⟩
  refine ((sortBy_perm _ _).length_eq.trans (List.length_map _)).trans ?_
  exact (sortBy_perm _ _).length_eq.trans (List.length_map _)

theorem evaluations_carry_positions_sample : ∃ ranking,
    evaluateRankingStabilityDiversityV2 samplePlatform partitionInput {} = .ok ranking ∧
      ranking.evaluations.length = 3 ∧ ∀ e, ranking.evaluations[1]? = some e →
        ranking.diversifiedRankingHotelIds[1]? = some e.hotelId := by
  obtain ⟨hlength, hall⟩ := evaluations_carry_positions (evaluated_partitionInput {})
  exact ⟨_, evaluated_partitionInput {}, hlength, fun e he => (hall 1 e he).position⟩

/-! ## 5. The order of the input -/

/-- An accepted input is ranked in the same way whatever the order of its candidates. -/
theorem ranking_perm {candidates : List Candidate}
    (hvalid : validateInput input = .ok ()) (hperm : candidates.Perm input.candidates) :
    evaluateRankingStabilityDiversityV2 pf { input with candidates } options =
      evaluateRankingStabilityDiversityV2 pf input options := by
  have haccepted := validateInput_ok.mp hvalid
  have hvalid' : validateInput { input with candidates } = .ok () :=
    validateInput_ok.mpr (haccepted.perm hperm)
  rw [evaluateRankingStabilityDiversityV2, evaluateRankingStabilityDiversityV2, hvalid, hvalid',
    sortBy_perm_eq hperm haccepted.nodup]

theorem ranking_perm_sample : evaluateRankingStabilityDiversityV2 samplePlatform
    { partitionInput with candidates := partitionInput.candidates.reverse } {} =
      evaluateRankingStabilityDiversityV2 samplePlatform partitionInput {} :=
  ranking_perm (by decide +kernel) (List.reverse_perm _)

end SmartStay.Ranking
