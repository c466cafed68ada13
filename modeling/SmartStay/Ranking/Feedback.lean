import SmartStay.Ranking.Partition

/-!
# Ranking under feedback

The previous ranking is read in one place only, the order of the members of a band. What it changes
there is bounded by the tolerances, and a diversified ranking that is fed back is reproduced.

1. `reordered_in_band`: what the previous ranking moves.
2. `Kept`, `selectionRounds_rerank`: rounds whose candidates are ranked anew.
3. `Reranked`: the diversified ranking of the candidates ranked anew.
4. `feedback_fixed`: feeding a ranking back.
-/

namespace SmartStay.Ranking

open JsSort Precedence

variable {pf : Platform} {o : ResolvedOptions} {previous : List String} {s s' : List StableCandidate}
  {input : RankingInput} {options : RankingOptions} {ranking : RankingEvaluation}

/-! ## 1. What the previous ranking moves -/

/-- The members that the previous ranking knows come first; each group is ordered by position. -/
theorem compareMembers_eq (previous : List String) (members : List NormalizedCandidate) :
    compareMembers previous members = compareLex
      (compareOn fun c => if (previousIndex previous c.hotelId).isSome then 0 else 1)
      (compareOn fun c => (previousIndex previous c.hotelId).getD
        ((members.map (·.hotelId)).idxOf c.hotelId)) := by
  funext c d
  rw [compareMembers, compareLex, compareOn, compareOn]
  cases previousIndex previous c.hotelId <;> cases previousIndex previous d.hotelId <;> rfl

instance (members : List NormalizedCandidate) : Std.TransCmp (compareMembers previous members) := by
  rw [compareMembers_eq]
  infer_instance

/-- The first member of a group anchors it. -/
structure GroupOf (o : ResolvedOptions) (members : List NormalizedCandidate)
    (anchor : NormalizedCandidate) : Prop where
  head : members.head? = some anchor
  equivalent : ∀ c ∈ members, c = anchor ∨ candidatesEquivalent o anchor c = true

theorem groupFrom_groups {anchor : NormalizedCandidate} {current rest : List NormalizedCandidate}
    (h : GroupOf o current anchor) :
    ∀ members ∈ groupFrom o anchor current rest, ∃ first, GroupOf o members first := by
  induction rest generalizing anchor current with
  | nil =>
    intro members hmembers
    exact ⟨anchor, List.mem_singleton.mp hmembers ▸ h⟩
  | cons candidate rest ih =>
    rw [groupFrom]
    split
    next hequivalent =>
      refine ih ⟨by rw [List.head?_append, h.head]; rfl, fun c hc => ?_⟩
      rcases List.mem_append.mp hc with hc | hc
      · exact h.equivalent c hc
      · exact .inr (List.mem_singleton.mp hc ▸ hequivalent)
    next =>
      refine List.forall_mem_cons.mpr ⟨⟨anchor, h⟩, ih ⟨rfl, fun c hc => ?_⟩⟩
      exact .inl (List.mem_singleton.mp hc)

theorem groupOf_mem {l members : List NormalizedCandidate} (h : members ∈ groupEquivalent o l) :
    ∃ anchor, GroupOf o members anchor := by
  cases l with
  | nil => exact absurd h List.not_mem_nil
  | cons candidate rest =>
    exact groupFrom_groups ⟨rfl, fun c hc => .inl (List.mem_singleton.mp hc)⟩ members h

theorem scoreTolerance_nonneg (options : RankingOptions) :
    0 ≤ (resolveOptions options).scoreEquivalenceTolerance := by
  change 0 ≤ Pareto.normalizeNonNegativeNumber options.scoreEquivalenceTolerance (75 / 100)
  cases options.scoreEquivalenceTolerance with
  | none => exact by norm_num [Pareto.normalizeNonNegativeNumber]
  | some value =>
    rw [Pareto.normalizeNonNegativeNumber]
    split
    · norm_num
    next h => exact not_lt.mp h

/-- The score of a member is close to that of its anchor. -/
theorem GroupOf.close {members : List NormalizedCandidate} {anchor c : NormalizedCandidate}
    (h : GroupOf o members anchor) (ho : 0 ≤ o.scoreEquivalenceTolerance) (hc : c ∈ members) :
    |anchor.score.getD (-1) - c.score.getD (-1)| ≤ o.scoreEquivalenceTolerance := by
  rcases h.equivalent c hc with rfl | hequivalent
  · rwa [sub_self, abs_zero]
  · rw [candidatesEquivalent, Bool.and_eq_true] at hequivalent
    have hclose := hequivalent.2
    cases hanchor : anchor.score with
    | none => rw [hanchor] at hclose; cases hclose
    | some anchorScore =>
      cases hscore : c.score with
      | none => rw [hanchor, hscore] at hclose; cases hclose
      | some score =>
        rw [hanchor, hscore] at hclose
        simp only [Bool.and_eq_true, decide_eq_true_eq] at hclose
        exact hclose.1.1.1.1

/-- In base order the scores do not rise. -/
theorem score_le_of_compare {c d : NormalizedCandidate} (hc : c.eligible = true)
    (hd : d.eligible = true) (h : compareBaseCandidates c d ≠ .gt) :
    d.score.getD (-1) ≤ c.score.getD (-1) := by
  by_contra hlt
  refine h ?_
  rw [compareBaseCandidates, compareEligible, if_pos (hc.trans hd.symm),
    compare_gt_iff_gt.mpr (not_le.mp hlt)]
  rfl

/-- Two eligible candidates of a base order whose stable order is the opposite one. -/
theorem swapped_close {l : List NormalizedCandidate} (ho : 0 ≤ o.scoreEquivalenceTolerance)
    (hids : (l.map (·.hotelId)).Nodup) (heligible : ∀ c ∈ l, c.eligible = true)
    (hsorted : l.Pairwise fun c d => compareBaseCandidates c d ≠ .gt) {c d : NormalizedCandidate}
    (hbase : Before l d c)
    (hstable : Before ((groupEquivalent o l).flatMap (orderMembers previous)) c d) :
    (∃ members ∈ groupEquivalent o l, c ∈ members ∧ d ∈ members) ∧
      c.score.getD (-1) ≤ d.score.getD (-1) ∧
      d.score.getD (-1) - c.score.getD (-1) ≤ o.scoreEquivalenceTolerance := by
  have hnodup : l.Nodup := List.Nodup.of_map _ hids
  have hflat : (groupEquivalent o l).flatMap id = l := by
    rw [List.flatMap_id, groupEquivalent_flatten]
  rcases before_flatMap.mp hstable with ⟨members, hmembers, hbefore⟩ | ⟨g, g', hbefore, hc, hd⟩
  · have hc := (orderMembers_perm _ _).mem_iff.mp hbefore.mem_left
    have hd := (orderMembers_perm _ _).mem_iff.mp hbefore.mem_right
    obtain ⟨anchor, hanchor⟩ := groupOf_mem hmembers
    have hscores : ∀ {a b}, Before l a b → b.score.getD (-1) ≤ a.score.getD (-1) := fun hab =>
      score_le_of_compare (heligible _ hab.mem_left) (heligible _ hab.mem_right)
        (hsorted.forall_sublist hab)
    have hle : d.score.getD (-1) ≤ anchor.score.getD (-1) := by
      obtain ⟨rest, hrest⟩ := List.head?_eq_some_iff.mp hanchor.head
      rcases List.mem_cons.mp (hrest ▸ hd) with rfl | hrestd
      · exact le_rfl
      · have hfirst : Before l anchor d := hflat ▸ before_flatMap.mpr
          (.inl ⟨members, hmembers, before_of_split (p := []) hrest hrestd⟩)
        exact hscores hfirst
    exact ⟨⟨members, hmembers, hc, hd⟩, hscores hbase,
      (sub_le_sub_right hle _).trans ((le_abs_self _).trans (hanchor.close ho hc))⟩
  · -- different groups keep their order
    have horder : Before l c d := hflat ▸ before_flatMap.mpr (.inr ⟨g, g', hbefore,
      (orderMembers_perm _ _).mem_iff.mp hc, (orderMembers_perm _ _).mem_iff.mp hd⟩)
    exact absurd hbase (horder.asymm hnodup)

/-- The previous ranking reorders members of a band and nothing else: two candidates whose stable order
is not their base order share a band, and their scores differ by the tolerance at most. -/
theorem reordered_in_band
    (h : evaluateRankingStabilityDiversityV2 pf input options = .ok ranking) :
    ranking.baseRankingHotelIds = (baseOrder pf input).map (·.hotelId) ∧
    ranking.stableRankingHotelIds =
      (stableCandidatesOf pf input options).map (·.hotelId) ++ ranking.excludedHotelIds ∧
    ∀ c d, Before (stableCandidatesOf pf input options) c d →
      Before (baseOrder pf input) d.toNormalizedCandidate c.toNormalizedCandidate →
      (∃ band ∈ ranking.stabilityBands, c.hotelId ∈ band.memberHotelIds ∧
        d.hotelId ∈ band.memberHotelIds) ∧
      scoreOf c ≤ scoreOf d ∧
      scoreOf d - scoreOf c ≤ (resolveOptions options).scoreEquivalenceTolerance := by
  obtain ⟨haccepted, rfl⟩ := ranking_of_ok h
  have hordered := baseOrdered_of_accepted haccepted pf
  refine ⟨rfl, rfl, fun c d hstable hbase => ?_⟩
  have heligible : ∀ c ∈ stableCandidatesOf pf input options, c.eligible = true := fun c hc =>
    (List.mem_filter.mp ((stableCandidates_perm _ _ _).mem_iff.mp (List.mem_map_of_mem hc))).2
  have hmembers := hstable.map (·.toNormalizedCandidate)
  rw [stableCandidatesOf, stableCandidates_map] at hmembers
  obtain ⟨⟨members, hgroup, hcm, hdm⟩, hle, hscore⟩ := swapped_close
    (scoreTolerance_nonneg options) (hordered.nodup.sublist (List.filter_sublist.map _))
    (fun e he => (List.mem_filter.mp he).2) ((pairwise_sortBy _).filter _)
    (hbase.filter (heligible d hstable.mem_right) (heligible c hstable.mem_left)) hmembers
  refine ⟨⟨createBand _ members, List.mem_map_of_mem hgroup, ?_, ?_⟩, hle, hscore⟩
  · exact List.mem_map_of_mem (f := (·.hotelId)) ((orderMembers_perm _ _).mem_iff.mpr hcm)
  · exact List.mem_map_of_mem (f := (·.hotelId)) ((orderMembers_perm _ _).mem_iff.mpr hdm)

/-- The second hotel was first before, and is close enough to stay there. -/
theorem reordered_in_band_sample : ∃ ranking,
    evaluateRankingStabilityDiversityV2 samplePlatform partitionInput
      { scoreEquivalenceTolerance := some 5 } = .ok ranking ∧
      ranking.baseRankingHotelIds = ["a", "b", "c"] ∧
      ranking.stableRankingHotelIds = ["b", "a", "c"] ∧
      ∀ c d, Before (stableCandidatesOf samplePlatform partitionInput
          { scoreEquivalenceTolerance := some 5 }) c d →
        Before (baseOrder samplePlatform partitionInput) d.toNormalizedCandidate
          c.toNormalizedCandidate → scoreOf d - scoreOf c ≤ 5 := by
  obtain ⟨-, -, hswapped⟩ := reordered_in_band (evaluated_partitionInput _)
  exact ⟨_, evaluated_partitionInput _, by decide +kernel, by decide +kernel,
    fun c d hstable hbase => (hswapped c d hstable hbase).2.2⟩

/-! ## 2. Rounds -/

/-- The candidate with another stable rank. -/
def rerank (rank : String → ℕ) (c : StableCandidate) : StableCandidate :=
  { c with stableRank := rank c.hotelId }

def rerankSelection (rank : String → ℕ) (selection : DiversitySelection) : DiversitySelection :=
  { selection with candidate := rerank rank selection.candidate }

variable {rank : String → ℕ}

theorem calculateDiversitySelection_rerank (selected : List StableCandidate) (fallback : Bool)
    (c : StableCandidate) :
    calculateDiversitySelection pf o (selected.map (rerank rank)) fallback (rerank rank c) =
      (calculateDiversitySelection pf o selected fallback c).map (rerankSelection rank) := by
  rw [calculateDiversitySelection, calculateDiversitySelection, List.map_map, Option.map_map]
  rfl

theorem filter_rerank {l l' : List StableCandidate} {p q : StableCandidate → Bool}
    (h : l'.Perm (l.map (rerank rank))) (hpq : p ∘ rerank rank = q) :
    (l'.filter p).Perm ((l.filter q).map (rerank rank)) := by
  rw [← hpq, ← List.filter_map]
  exact h.filter p

theorem selectableRemaining_rerank (o : ResolvedOptions) (selected : List StableCandidate)
    {remaining remaining' : List StableCandidate} (h : remaining'.Perm (remaining.map (rerank rank))) :
    (selectableRemaining o (selected.map (rerank rank)) remaining').Perm
      ((selectableRemaining o selected remaining).map (rerank rank)) := by
  rw [selectableRemaining, List.map_map]
  exact filter_rerank h rfl

theorem max?_perm {l l' : List ℚ} (h : l.Perm l') : l.max? = l'.max? := by
  refine Option.ext fun a => ?_
  rw [List.max?_eq_some_iff, List.max?_eq_some_iff, h.mem_iff]
  exact and_congr_right fun _ => forall_congr' fun b => by rw [h.mem_iff]

theorem qualityWindow_rerank {l l' : List StableCandidate} (h : l'.Perm (l.map (rerank rank))) :
    (qualityWindow o l').Perm ((qualityWindow o l).map (rerank rank)) := by
  have hscores : (l'.map fun c => c.score.getD (-1)).max? =
      (l.map fun c => c.score.getD (-1)).max? := by
    refine (max?_perm (h.map _)).trans ?_
    rw [List.map_map]
    rfl
  rw [qualityWindow, hscores]
  exact filter_rerank h rfl

/-- The selections out of a window, ranked anew. -/
theorem selections_rerank (pf : Platform) (o : ResolvedOptions) (selected : List StableCandidate)
    {window window' : List StableCandidate} (fallback : Bool)
    (h : window'.Perm (window.map (rerank rank))) :
    (window'.filterMap (calculateDiversitySelection pf o (selected.map (rerank rank)) fallback)).Perm
      ((window.filterMap (calculateDiversitySelection pf o selected fallback)).map
        (rerankSelection rank)) := by
  refine (h.filterMap _).trans (List.Perm.of_eq ?_)
  rw [List.filterMap_map, List.map_filterMap]
  exact congrArg (fun f => List.filterMap f window)
    (funext fun c => calculateDiversitySelection_rerank selected fallback c)

theorem compareSelections_eq : compareSelections = compareLex (compareOn (·.penalty)) (compareLex
    (fun first second =>
      compareOn (fun s : DiversitySelection => s.candidate.score.getD (-1)) second first)
    (compareLex (compareOn (·.candidate.stableRank))
      (compareOn fun s => JsText.utf16 s.candidate.hotelId))) := rfl

instance : Std.TransCmp compareSelections := by
  rw [compareSelections_eq]
  infer_instance

/-- A value that precedes all others is the first of the sorted ones. -/
theorem head?_sortBy_of_lt {α : Type} {cmp : α → α → Ordering} [Std.TransCmp cmp] {l : List α} {a : α}
    (ha : a ∈ l) (h : ∀ b ∈ l, b ≠ a → cmp a b = .lt) : (sortBy cmp l).head? = some a := by
  obtain ⟨b, hb⟩ := exists_head_sortBy cmp (List.ne_nil_of_mem ha)
  have hle := head_sortBy_le hb ha
  by_contra hne
  have hlt := h b (mem_sortBy.mp (List.mem_of_mem_head? hb)) fun heq => hne (heq ▸ hb)
  exact hle (Std.OrientedCmp.gt_of_lt hlt)

/-- The new ranks keep `c` before what it precedes in `remaining`. -/
structure Kept (rank : String → ℕ) (remaining : List StableCandidate) (c : StableCandidate) : Prop where
  distinct : ∀ d ∈ remaining, d.stableRank = c.stableRank → d = c
  later : ∀ d ∈ remaining, c.stableRank < d.stableRank → rank c.hotelId < rank d.hotelId

theorem Kept.mono {remaining remaining' : List StableCandidate} {c : StableCandidate}
    (h : Kept rank remaining c) (hsub : remaining' ⊆ remaining) : Kept rank remaining' c :=
  ⟨fun d hd => h.distinct d (hsub hd), fun d hd => h.later d (hsub hd)⟩

theorem compareSelections_rerank {remaining : List StableCandidate} {first second : DiversitySelection}
    (hkept : Kept rank remaining first.candidate) (hsecond : second.candidate ∈ remaining)
    (hne : second.candidate ≠ first.candidate) (hle : compareSelections first second ≠ .gt) :
    compareSelections (rerankSelection rank first) (rerankSelection rank second) = .lt := by
  rw [compareSelections_eq] at hle ⊢
  rw [compareLex_ne_gt, compareLex_ne_gt, compareLex_ne_gt] at hle
  have hscore : ∀ c, (rerank rank c).score = c.score := fun c => rfl
  obtain ⟨hpenalty, hrest⟩ := hle
  simp only [compareLex, compareOn, rerankSelection, hscore] at hpenalty hrest ⊢
  cases hp : compare first.penalty second.penalty with
  | lt => rfl
  | gt => exact absurd hp hpenalty
  | eq =>
    obtain ⟨hscores, hrest⟩ := hrest hp
    cases hs : compare (second.candidate.score.getD (-1)) (first.candidate.score.getD (-1)) with
    | lt => rfl
    | gt => exact absurd hs hscores
    | eq =>
      have hrank := (hrest hs).1
      have hlt : first.candidate.stableRank < second.candidate.stableRank := by
        refine lt_of_le_of_ne (not_lt.mp fun hgt => hrank (compare_gt_iff_gt.mpr hgt)) fun heq => ?_
        exact hne (hkept.distinct _ hsecond heq.symm)
      have hnew := compare_lt_iff_lt.mpr (hkept.later _ hsecond hlt)
      simp only [rerank, hnew]
      rfl

/-- The best selection out of what remains. -/
def bestSelection (pf : Platform) (o : ResolvedOptions) (selected remaining : List StableCandidate)
    (fallback : Bool) : Option DiversitySelection :=
  (sortBy compareSelections ((qualityWindow o (selectableRemaining o selected remaining)).filterMap
    (calculateDiversitySelection pf o selected fallback))).head?

theorem nextSelection_eq (pf : Platform) (o : ResolvedOptions)
    (selected remaining : List StableCandidate) : nextSelection pf o selected remaining =
      (bestSelection pf o selected remaining false).or
        ((bestSelection pf o selected remaining true).map
          fun next => { next with nearDuplicateFallback := true }) := by
  rw [nextSelection]
  split
  next hempty =>
    rw [bestSelection, List.length_eq_zero_iff.mp hempty]
    rfl
  next hsome =>
    obtain ⟨next, hnext⟩ := exists_head_sortBy compareSelections
      fun hnil => hsome (List.length_eq_zero_iff.mpr hnil)
    rw [bestSelection, hnext, Option.some_or]

theorem bestSelection_rerank (pf : Platform) (o : ResolvedOptions) (selected : List StableCandidate)
    (fallback : Bool) {remaining remaining' : List StableCandidate}
    (hperm : remaining'.Perm (remaining.map (rerank rank)))
    (hkept : ∀ next, bestSelection pf o selected remaining fallback = some next →
      Kept rank remaining next.candidate) :
    bestSelection pf o (selected.map (rerank rank)) remaining' fallback =
      (bestSelection pf o selected remaining fallback).map (rerankSelection rank) := by
  have hselections := selections_rerank pf o selected fallback
    (qualityWindow_rerank (o := o) (selectableRemaining_rerank o selected hperm))
  cases hbest : bestSelection pf o selected remaining fallback with
  | none =>
    rw [bestSelection, List.head?_eq_none_iff, ← List.length_eq_zero_iff,
      (sortBy_perm _ _).length_eq] at hbest
    rw [bestSelection, Option.map_none, List.head?_eq_none_iff, ← List.length_eq_zero_iff,
      (sortBy_perm _ _).length_eq, hselections.length_eq, List.length_map, hbest]
  | some next =>
    have hmem := mem_sortBy.mp (List.mem_of_mem_head? hbest)
    refine head?_sortBy_of_lt (hselections.mem_iff.mpr (List.mem_map_of_mem hmem)) fun b hb hne => ?_
    obtain ⟨other, hother, rfl⟩ := List.mem_map.mp (hselections.mem_iff.mp hb)
    have hwindow := (mem_qualityWindow (candidate_mem_window hother)).1
    refine compareSelections_rerank (hkept next hbest) (mem_selectableRemaining.mp hwindow).1 ?_
      (head_sortBy_le hbest hother)
    -- a selection is determined by its candidate
    intro hsame
    obtain ⟨c, -, hc⟩ := List.mem_filterMap.mp hother
    obtain ⟨d, -, hd⟩ := List.mem_filterMap.mp hmem
    rw [candidate_of_calculateDiversitySelection hc, candidate_of_calculateDiversitySelection hd]
      at hsame
    rw [hsame, hd] at hc
    exact hne (congrArg _ (Option.some.inj hc).symm)

theorem nextSelection_rerank {selected remaining remaining' : List StableCandidate}
    (hperm : remaining'.Perm (remaining.map (rerank rank)))
    (hkept : ∀ next, nextSelection pf o selected remaining = some next →
      Kept rank remaining next.candidate) :
    nextSelection pf o (selected.map (rerank rank)) remaining' =
      (nextSelection pf o selected remaining).map (rerankSelection rank) := by
  rw [nextSelection_eq] at hkept
  rw [nextSelection_eq, nextSelection_eq]
  have hfirst := bestSelection_rerank pf o selected false hperm fun next hnext =>
    hkept next (by rw [hnext, Option.some_or])
  rw [hfirst]
  cases hbest : bestSelection pf o selected remaining false with
  | some next => rfl
  | none =>
    have hsecond := bestSelection_rerank pf o selected true hperm fun next hnext =>
      hkept { next with nearDuplicateFallback := true } (by rw [hbest, hnext]; rfl)
    rw [hsecond, Option.map_none, Option.none_or, Option.none_or, Option.map_map, Option.map_map]
    rfl

/-- Rounds over candidates ranked anew, but not before those chosen earlier, choose the same. -/
theorem selectionRounds_rerank (slots : ℕ) {selected : List DiversitySelection}
    {remaining remaining' : List StableCandidate} (hids : DistinctIds remaining)
    (hperm : remaining'.Perm (remaining.map (rerank rank)))
    (hkept : ∀ front c back, (selectionRounds pf o slots selected remaining).map (·.candidate) =
      front ++ c :: back → c ∈ remaining →
      Kept rank (remaining.filter fun d => d.hotelId ∉ front.map (·.hotelId)) c)
    (hfresh : ∀ c ∈ remaining, c.hotelId ∉ selected.map (·.candidate.hotelId)) :
    selectionRounds pf o slots (selected.map (rerankSelection rank)) remaining' =
      (selectionRounds pf o slots selected remaining).map (rerankSelection rank) := by
  induction slots generalizing selected remaining remaining' with
  | zero => rfl
  | succ slots ih =>
    have hcandidates : (selected.map (rerankSelection rank)).map (·.candidate) =
        (selected.map (·.candidate)).map (rerank rank) := by
      rw [List.map_map, List.map_map]
      rfl
    have hstep : ∀ next, nextSelection pf o (selected.map (·.candidate)) remaining = some next →
        selectionRounds pf o (slots + 1) selected remaining = selectionRounds pf o slots
          (selected ++ [next]) (remaining.eraseP fun c => c.hotelId = next.candidate.hotelId) := by
      intro next hnext
      rw [selectionRounds, hnext]
    have hall : remaining.filter (fun d => d.hotelId ∉ (selected.map (·.candidate)).map (·.hotelId)) =
        remaining := by
      refine List.filter_eq_self.mpr fun c hc => decide_eq_true ?_
      rw [List.map_map]
      exact hfresh c hc
    have hnextKept : ∀ next, nextSelection pf o (selected.map (·.candidate)) remaining = some next →
        Kept rank remaining next.candidate := by
      intro next hnext
      have hids' : DistinctIds (remaining.eraseP fun c => c.hotelId = next.candidate.hotelId) :=
        hids.sublist (List.eraseP_sublist.map _)
      obtain ⟨extra, hextra, -, -⟩ := selectionRounds_rounds pf o slots (selected ++ [next]) hids'
      rw [List.map_append, List.append_assoc] at hextra
      have hkeptNext := hkept _ next.candidate extra ((congrArg _ (hstep next hnext)).trans hextra)
        (chosen_of_next hnext).mem
      rwa [hall] at hkeptNext
    rw [selectionRounds, hcandidates, nextSelection_rerank hperm hnextKept]
    cases hnext : nextSelection pf o (selected.map (·.candidate)) remaining with
    | none => rw [selectionRounds, hnext]; rfl
    | some next =>
      have hmem := (chosen_of_next hnext).mem
      rw [hstep next hnext]
      have happend : selected.map (rerankSelection rank) ++ [rerankSelection rank next] =
          (selected ++ [next]).map (rerankSelection rank) := by
        rw [List.map_append, List.map_singleton]
      show selectionRounds pf o slots (selected.map (rerankSelection rank) ++ [rerankSelection rank next])
        (remaining'.eraseP fun c => c.hotelId = next.candidate.hotelId) = _
      rw [happend]
      refine ih (hids.sublist (List.eraseP_sublist.map _)) ?_ ?_ ?_
      · have hdistinct : (remaining.map (rerank rank)).Pairwise fun a b =>
            decide (a.hotelId = next.candidate.hotelId) = true →
              decide (b.hotelId = next.candidate.hotelId) = true → False := by
          refine List.pairwise_map.mpr ((List.pairwise_map.mp hids).imp fun hne ha hb => ?_)
          exact hne ((of_decide_eq_true ha).trans (of_decide_eq_true hb).symm)
        have herase := hperm.symm.eraseP _ hdistinct
        rw [List.eraseP_map] at herase
        exact herase.symm
      · intro front c back hsplit hc
        have hsub := (List.eraseP_sublist (p := fun d : StableCandidate =>
          decide (d.hotelId = next.candidate.hotelId)) (l := remaining)).filter
            fun d => d.hotelId ∉ front.map (·.hotelId)
        refine (hkept front c back ?_ (List.mem_of_mem_eraseP hc)).mono hsub.subset
        rw [hstep next hnext]
        exact hsplit
      · intro c hc
        obtain ⟨hmem', hne⟩ := (mem_eraseP_iff hids hmem).mp hc
        rw [List.map_append, List.mem_append, not_or]
        exact ⟨hfresh c hmem', fun h => hne (List.mem_singleton.mp h)⟩

/-! ## 3. The diversified ranking -/

/-- In the order of the stable ranks. -/
def Ranked (s : List StableCandidate) : Prop := s.Pairwise fun c d => c.stableRank < d.stableRank

theorem Ranked.before (hs : Ranked s) {c d : StableCandidate} (hc : c ∈ s) (hd : d ∈ s)
    (hlt : c.stableRank < d.stableRank) : Before s c d := by
  rcases before_or_before hc hd fun heq => (heq ▸ hlt).false with h | h
  · exact h
  · exact absurd (hs.forall_sublist h) hlt.asymm

theorem Ranked.find?_eq_some_iff (hs : Ranked s) {p : StableCandidate → Bool} {c : StableCandidate} :
    s.find? p = some c ↔ c ∈ s ∧ p c = true ∧ ∀ d ∈ s, p d = true → d ≠ c →
      c.stableRank < d.stableRank := by
  have hnodup : s.Nodup := hs.imp fun hlt heq => (heq ▸ hlt).false
  rw [Precedence.find?_eq_some_iff hnodup]
  refine and_congr_right fun hc => and_congr_right fun _ => forall₂_congr fun d hd =>
    forall₂_congr fun _ _ => ⟨fun hbefore => hs.forall_sublist hbefore, hs.before hc hd⟩

theorem Ranked.inj (hs : Ranked s) {c d : StableCandidate} (hc : c ∈ s) (hd : d ∈ s)
    (h : c.stableRank = d.stableRank) : c = d := by
  have hnodup : (s.map (·.stableRank)).Nodup :=
    List.pairwise_map.mpr (hs.imp fun hlt => hlt.ne)
  exact List.inj_on_of_nodup_map hnodup hc hd h

theorem anchorsFrom_rerank {roles : List RecommendationRole} (selected : List StableCandidate)
    (hids : DistinctIds s) (hs : Ranked s) (hs' : Ranked s') (hperm : s'.Perm (s.map (rerank rank)))
    (hroles : (selected.map (·.source.recommendation.role) ++ roles).Nodup) (hmem : selected ⊆ s)
    (hkept : ∀ front c back, anchorsFrom s roles selected = front ++ c :: back →
      Kept rank (s.filter fun d => d.hotelId ∉ front.map (·.hotelId)) c) :
    anchorsFrom s' roles (selected.map (rerank rank)) =
      (anchorsFrom s roles selected).map (rerank rank) := by
  induction roles generalizing selected with
  | nil => rfl
  | cons role rest ih =>
    have hkeys : (selected.map (rerank rank)).filterMap (·.nearDuplicateKey) =
        selected.filterMap (·.nearDuplicateKey) := by
      rw [List.filterMap_map]
      rfl
    rw [anchorsFrom] at hkept ⊢
    rw [anchorsFrom, hkeys]
    generalize hp : (fun entry : StableCandidate => entry.roleAnchor &&
      entry.source.recommendation.role = role && (entry.nearDuplicateKey.isNone ||
        entry.nearDuplicateKey.all
          (!(selected.filterMap (·.nearDuplicateKey)).contains ·))) = p at *
    have hinvariant : ∀ c, p (rerank rank c) = p c := fun c => hp ▸ rfl
    cases hfind : s.find? p with
    | none =>
      have hnone : s'.find? p = none := by
        refine List.find?_eq_none.mpr fun c hc => ?_
        obtain ⟨d, hd, rfl⟩ := List.mem_map.mp (hperm.mem_iff.mp hc)
        rw [hinvariant]
        exact List.find?_eq_none.mp hfind d hd
      rw [hfind] at hkept
      rw [hnone]
      exact ih _ (hroles.sublist ((List.sublist_cons_self _ _).append_left _)) hmem hkept
    | some c =>
      obtain ⟨hc, hpc, hfirst⟩ := hs.find?_eq_some_iff.mp hfind
      have hrole : ∀ d, p d = true → d.source.recommendation.role = role := by
        intro d hd
        rw [← hp] at hd
        simp only [Bool.and_eq_true, decide_eq_true_eq] at hd
        exact hd.1.2
      rw [hfind] at hkept
      dsimp only at hkept
      obtain ⟨tail, htail, -⟩ := @anchorsFrom_sublist s rest (selected ++ [c])
      have hkeptc := hkept selected c tail (by rw [htail, List.append_assoc]; rfl)
      have hsome : s'.find? p = some (rerank rank c) := by
        refine hs'.find?_eq_some_iff.mpr ⟨hperm.mem_iff.mpr (List.mem_map_of_mem hc), ?_, ?_⟩
        · rw [hinvariant]
          exact hpc
        · intro d' hd' hpd' hne
          obtain ⟨d, hd, rfl⟩ := List.mem_map.mp (hperm.mem_iff.mp hd')
          rw [hinvariant] at hpd'
          refine hkeptc.later d (List.mem_filter.mpr ⟨hd, decide_eq_true fun hid => ?_⟩)
            (hfirst d hd hpd' fun heq => hne (heq ▸ rfl))
          -- a candidate selected earlier has another role
          obtain ⟨earlier, hearlier, heq⟩ := List.mem_map.mp hid
          rw [hids.inj (hmem hearlier) hd heq] at hearlier
          exact (List.nodup_append.mp hroles).2.2 role
            (hrole d hpd' ▸ List.mem_map_of_mem hearlier) role List.mem_cons_self rfl
      rw [hsome]
      dsimp only
      have happend : selected.map (rerank rank) ++ [rerank rank c] =
          (selected ++ [c]).map (rerank rank) := by
        rw [List.map_append, List.map_singleton]
      rw [happend]
      refine ih _ ?_ (List.append_subset.mpr ⟨hmem, List.cons_subset.mpr ⟨hc, List.nil_subset _⟩⟩) hkept
      rw [List.map_append, List.map_singleton, hrole c hpc, List.append_assoc]
      exact hroles

/-- What is selected, and then all others in stable order. -/
theorem before_of_picked (hids : DistinctIds s) (hs : Ranked s) {front back : List StableCandidate}
    {c d : StableCandidate} (hsplit : picked pf o s = front ++ c :: back) (hd : d ∈ s)
    (hfront : d ∉ front) (hlt : c.stableRank < d.stableRank) :
    Before ((diversifyCandidates pf o s).visible ++ (diversifyCandidates pf o s).additional) c d := by
  have hc : c ∈ s := mem_of_picked hids (hsplit ▸ List.mem_append_right _ List.mem_cons_self)
  have hne : d ≠ c := fun heq => (heq ▸ hlt).false
  have hadditional : ∀ e ∈ s, e ∉ (diversifyCandidates pf o s).visible →
      decide (e.hotelId ∉ (diversifyCandidates pf o s).visible.map (·.hotelId)) = true := by
    refine fun e he hnot => decide_eq_true fun hid => ?_
    obtain ⟨shown, hshown, heq⟩ := List.mem_map.mp hid
    exact hnot (hids.inj (visible_mem hids hshown) he heq ▸ hshown)
  have hvisible := visible_eq_take pf o s
  rw [hsplit, List.take_append] at hvisible
  by_cases hroom : front.length < o.maximumVisibleResults
  · obtain ⟨room, hroom'⟩ := Nat.exists_eq_add_of_lt hroom
    have hslots : o.maximumVisibleResults - front.length = room + 1 := by omega
    rw [List.take_of_length_le hroom.le, hslots, List.take_succ_cons] at hvisible
    by_cases hshown : d ∈ (diversifyCandidates pf o s).visible
    · have hback : d ∈ back.take room := by
        rw [hvisible, List.mem_append, List.mem_cons] at hshown
        exact (hshown.resolve_left hfront).resolve_left hne
      exact (before_of_split hvisible hback).sublist (List.sublist_append_left _ _)
    · have hlater : d ∈ (diversifyCandidates pf o s).additional :=
        List.mem_filter.mpr ⟨hd, hadditional d hd hshown⟩
      have hfirst : c ∈ (diversifyCandidates pf o s).visible :=
        hvisible ▸ List.mem_append_right _ List.mem_cons_self
      exact (List.singleton_sublist.mpr hfirst).append (List.singleton_sublist.mpr hlater)
  · -- no room for `c`, and none for what comes later
    rw [Nat.sub_eq_zero_of_le (Nat.le_of_not_lt hroom), List.take_zero, List.append_nil] at hvisible
    have hnodup : (front ++ c :: back).Nodup := hsplit ▸ List.Nodup.of_map _ (picked_nodup pf o hids)
    have hnotc : c ∉ (diversifyCandidates pf o s).visible := fun hshown =>
      (List.nodup_append.mp hnodup).2.2 c (List.mem_of_mem_take (hvisible ▸ hshown)) c
        List.mem_cons_self rfl
    have hnotd : d ∉ (diversifyCandidates pf o s).visible := fun hshown =>
      hfront (List.mem_of_mem_take (hvisible ▸ hshown))
    have hbefore : Before (diversifyCandidates pf o s).additional c d :=
      (hs.before hc hd hlt).filter (hadditional c hc hnotc) (hadditional d hd hnotd)
    exact hbefore.sublist (List.sublist_append_right _ _)

/-- The candidates ranked anew, none before one that comes earlier in both rankings. -/
structure Reranked (pf : Platform) (o : ResolvedOptions) (rank : String → ℕ)
    (s s' : List StableCandidate) : Prop where
  distinct : DistinctIds s
  ranked : Ranked s
  ranked' : Ranked s'
  perm : s'.Perm (s.map (rerank rank))
  later : ∀ {c d}, c ∈ s → d ∈ s → c.stableRank < d.stableRank →
    Before ((diversifyCandidates pf o s).visible ++ (diversifyCandidates pf o s).additional) c d →
      rank c.hotelId < rank d.hotelId

theorem Reranked.kept (h : Reranked pf o rank s s') {front back : List StableCandidate}
    {c : StableCandidate} (hsplit : picked pf o s = front ++ c :: back) :
    Kept rank (s.filter fun d => d.hotelId ∉ front.map (·.hotelId)) c := by
  have hc := mem_of_picked h.distinct (hsplit ▸ List.mem_append_right _ List.mem_cons_self)
  refine ⟨fun d hd heq => h.ranked.inj (List.mem_of_mem_filter hd) hc heq, fun d hd hlt => ?_⟩
  obtain ⟨hd, hnot⟩ := List.mem_filter.mp hd
  refine h.later hc hd hlt (before_of_picked h.distinct h.ranked hsplit hd (fun hfront => ?_) hlt)
  exact of_decide_eq_true hnot (List.mem_map_of_mem hfront)

theorem Reranked.anchors (h : Reranked pf o rank s s') :
    selectRoleAnchors o s' = (selectRoleAnchors o s).map (rerank rank) := by
  obtain ⟨extra, hextra, -⟩ := picked_rounds pf o h.distinct
  have hkept : ∀ front c back, picked pf o s = front ++ c :: back →
      Kept rank (s.filter fun d => d.hotelId ∉ front.map (·.hotelId)) c :=
    fun front c back hsplit => h.kept hsplit
  rw [hextra] at hkept
  rw [selectRoleAnchors] at hkept ⊢
  rw [selectRoleAnchors]
  split
  · rfl
  next hprotect =>
    rw [if_neg hprotect] at hkept
    refine anchorsFrom_rerank [] h.distinct h.ranked h.ranked' h.perm (by decide)
      (List.nil_subset _) fun front c back hsplit => hkept front c (back ++ extra) ?_
    rw [hsplit, List.append_assoc, List.cons_append]

/-- They are selected in the same way. -/
theorem Reranked.selected (h : Reranked pf o rank s s') : (diversifyCandidates pf o s').selected =
    (diversifyCandidates pf o s).selected.map (rerankSelection rank) := by
  have hstart : (selectRoleAnchors o s').map (fun c => (⟨c, 0, [], false⟩ : DiversitySelection)) =
      ((selectRoleAnchors o s).map fun c => (⟨c, 0, [], false⟩ : DiversitySelection)).map
        (rerankSelection rank) := by
    rw [h.anchors, List.map_map, List.map_map]
    rfl
  have hslots : min o.maximumVisibleResults s'.length - (selectRoleAnchors o s').length =
      min o.maximumVisibleResults s.length - (selectRoleAnchors o s).length := by
    rw [h.anchors, h.perm.length_eq, List.length_map, List.length_map]
  have hremaining : (s'.filter fun c => c.hotelId ∉ (selectRoleAnchors o s').map (·.hotelId)).Perm
      ((s.filter fun c => c.hotelId ∉ (selectRoleAnchors o s).map (·.hotelId)).map
        (rerank rank)) := by
    rw [h.anchors, List.map_map]
    exact filter_rerank h.perm rfl
  rw [diversifyCandidates, diversifyCandidates]
  dsimp only
  rw [hslots, hstart]
  refine selectionRounds_rerank _ (h.distinct.sublist (List.filter_sublist.map _)) hremaining
    (fun front c back hsplit _ => (h.kept hsplit).mono (List.filter_sublist.filter _).subset)
    fun c hc => ?_
  rw [List.map_map]
  exact of_decide_eq_true (List.mem_filter.mp hc).2

theorem Reranked.visible (h : Reranked pf o rank s s') :
    (diversifyCandidates pf o s').visible =
      (diversifyCandidates pf o s).visible.map (rerank rank) := by
  rw [visible_eq_take, visible_eq_take, List.map_take, picked, picked, h.selected, List.map_map,
    List.map_map]
  rfl

/-- What is not shown stays in stable order. -/
theorem Reranked.additional (h : Reranked pf o rank s s') :
    (diversifyCandidates pf o s').additional =
      (diversifyCandidates pf o s).additional.map (rerank rank) := by
  have hperm : (diversifyCandidates pf o s').additional.Perm
      ((diversifyCandidates pf o s).additional.map (rerank rank)) := by
    rw [additional_eq, additional_eq, h.visible, List.map_map]
    exact filter_rerank h.perm rfl
  refine List.Perm.eq_of_pairwise (fun c d _ _ hcd hdc => absurd hcd hdc.asymm)
    (h.ranked'.filter _) (List.pairwise_map.mpr
      (List.pairwise_iff_forall_sublist.mpr fun {c d} hcd => ?_)) hperm
  have hsub : [c, d].Sublist s := hcd.trans List.filter_sublist
  exact h.later (hsub.subset (by simp)) (hsub.subset (by simp)) (h.ranked.forall_sublist hsub)
    (Before.sublist hcd (List.sublist_append_right _ _))

/-! ## 4. Feedback -/

variable {l : List NormalizedCandidate} {previous' : List String}

theorem ranked_stable (o : ResolvedOptions) (l : List NormalizedCandidate) (previous : List String) :
    Ranked (createStableCandidates o l previous) := by
  refine List.pairwise_iff_getElem.mpr fun i j hi hj hij => ?_
  rw [stableRank_eq (List.getElem?_eq_getElem hi), stableRank_eq (List.getElem?_eq_getElem hj)]
  exact Nat.succ_lt_succ hij

/-- The stable rank that a hotel has under a previous ranking. -/
def rankUnder (o : ResolvedOptions) (l : List NormalizedCandidate) (previous : List String)
    (hotelId : String) : ℕ :=
  ((createStableCandidates o l previous).map (·.hotelId)).idxOf hotelId + 1

/-- The members of the bands with their band, before they are numbered. -/
def bandMembers (o : ResolvedOptions) (l : List NormalizedCandidate) (previous : List String) :
    List (NormalizedCandidate × String) :=
  (groupEquivalent o l).flatMap fun members =>
    (orderMembers previous members).map fun member => (member, bandId members)

/-- Another previous ranking gives the same candidates other stable ranks. -/
theorem stable_rerank (hids : (l.map (·.hotelId)).Nodup) :
    (createStableCandidates o l previous').Perm
      ((createStableCandidates o l previous).map (rerank (rankUnder o l previous'))) := by
  let stage : NormalizedCandidate × String → StableCandidate := fun member =>
    { member.1 with
      baseRank := (l.map (·.hotelId)).idxOf member.1.hotelId + 1
      stableRank := rankUnder o l previous' member.1.hotelId
      stabilityBandId := member.2 }
  have hstage : ∀ p, (createStableCandidates o l p).map (rerank (rankUnder o l previous')) =
      (bandMembers o l p).map stage := fun p => map_mapIdx (bandMembers o l p) fun _ _ => rfl
  have hself : (createStableCandidates o l previous').map (rerank (rankUnder o l previous')) =
      createStableCandidates o l previous' := by
    refine (List.map_congr_left fun c hc => ?_).trans (List.map_id _)
    obtain ⟨j, hj⟩ := List.getElem?_of_mem hc
    have hnodup := (stableCandidates_ids_perm o l previous').nodup_iff.mpr hids
    have hrank : rankUnder o l previous' c.hotelId = c.stableRank := by
      rw [rankUnder, idxOf_of_getElem? hnodup (by rw [List.getElem?_map, hj]; rfl), stableRank_eq hj]
    rw [rerank, hrank]
    rfl
  rw [← hself, hstage, hstage]
  refine List.Perm.map _ (List.Perm.flatMap_left _ fun members _ => List.Perm.map _ ?_)
  exact (orderMembers_perm _ _).trans (orderMembers_perm _ _).symm

/-- In a stable order and in the previous ranking of the next one: then also in the next one. -/
theorem before_next {c d : NormalizedCandidate} (hknown : previous'.Nodup)
    (hstable : Before ((groupEquivalent o l).flatMap (orderMembers previous)) c d)
    (hprevious : Before previous' c.hotelId d.hotelId) :
    Before ((groupEquivalent o l).flatMap (orderMembers previous')) c d := by
  rcases before_flatMap.mp hstable with ⟨members, hmembers, hbefore⟩ | ⟨g, g', hbefore, hc, hd⟩
  · refine before_flatMap.mpr (.inl ⟨members, hmembers, before_sortBy
      ((orderMembers_perm _ _).mem_iff.mp hbefore.mem_left)
      ((orderMembers_perm _ _).mem_iff.mp hbefore.mem_right) ?_⟩)
    rw [compareMembers, previousIndex, previousIndex, idxOf?_of_mem hprevious.mem_left,
      idxOf?_of_mem hprevious.mem_right]
    exact compare_lt_iff_lt.mpr (idxOf_lt_idxOf hknown hprevious)
  · have hmem : ∀ {e : NormalizedCandidate} {members}, e ∈ orderMembers previous members →
        e ∈ orderMembers previous' members := fun he =>
      (orderMembers_perm _ _).mem_iff.mpr ((orderMembers_perm _ _).mem_iff.mp he)
    exact before_flatMap.mpr (.inr ⟨g, g', hbefore, hmem hc, hmem hd⟩)

/-- The ranks under a previous ranking that has `c` before `d`, as the stable ranks have. -/
theorem rankUnder_lt (hids : (l.map (·.hotelId)).Nodup) (hknown : previous'.Nodup)
    {c d : StableCandidate} (hc : c ∈ createStableCandidates o l previous)
    (hd : d ∈ createStableCandidates o l previous) (hlt : c.stableRank < d.stableRank)
    (hprevious : Before previous' c.hotelId d.hotelId) :
    rankUnder o l previous' c.hotelId < rankUnder o l previous' d.hotelId := by
  have hstable := ((ranked_stable o l previous).before hc hd hlt).map (·.toNormalizedCandidate)
  rw [stableCandidates_map] at hstable
  have hnext := (before_next hknown hstable hprevious).map (·.hotelId)
  rw [← stableCandidates_map, List.map_map] at hnext
  exact Nat.succ_lt_succ (idxOf_lt_idxOf ((stableCandidates_ids_perm o l previous').nodup_iff.mpr hids)
    hnext)

/-- A diversified ranking as the previous one. -/
theorem reranked_of_previous (pf : Platform) (o : ResolvedOptions) (previous : List String)
    (hids : (l.map (·.hotelId)).Nodup) {rest : List String}
    (hprevious : previous' =
      ((diversifyCandidates pf o (createStableCandidates o l previous)).visible ++
        (diversifyCandidates pf o (createStableCandidates o l previous)).additional).map (·.hotelId) ++
        rest) (hknown : previous'.Nodup) :
    Reranked pf o (rankUnder o l previous') (createStableCandidates o l previous)
      (createStableCandidates o l previous') where
  distinct := (stableCandidates_ids_perm o l previous).nodup_iff.mpr hids
  ranked := ranked_stable o l previous
  ranked' := ranked_stable o l previous'
  perm := stable_rerank hids
  later hc hd hlt hbefore := rankUnder_lt hids hknown hc hd hlt (hprevious ▸
    (hbefore.map (·.hotelId)).sublist (List.sublist_append_left _ rest))

/-- The ranking after `n` more evaluations, each with the last diversified ranking as previous one. -/
def feedbackRun (pf : Platform) (input : RankingInput) (options : RankingOptions) :
    ℕ → Except String RankingEvaluation
  | 0 => evaluateRankingStabilityDiversityV2 pf input options
  | n + 1 => do
    let ranking ← feedbackRun pf input options n
    evaluateRankingStabilityDiversityV2 pf
      { input with previousRankingHotelIds := ranking.diversifiedRankingHotelIds } options

/-- One step of feedback. -/
theorem feedback_step
    (h : evaluateRankingStabilityDiversityV2 pf input options = .ok ranking) :
    ∃ next, evaluateRankingStabilityDiversityV2 pf
        { input with previousRankingHotelIds := ranking.diversifiedRankingHotelIds } options = .ok next ∧
      next.visibleHotelIds = ranking.visibleHotelIds ∧
      next.diversifiedRankingHotelIds = ranking.diversifiedRankingHotelIds := by
  obtain ⟨haccepted, rfl⟩ := ranking_of_ok h
  have hordered := baseOrdered_of_accepted haccepted pf
  have hperm := (diversifiedRanking_perm pf (resolveOptions options)
    (input.previousRankingHotelIds.map JsText.trim) hordered).trans (baseOrder_ids pf input)
  generalize hranking : createRanking pf (resolveOptions options) (baseOrder pf input)
    (input.previousRankingHotelIds.map JsText.trim) = ranking at *
  have hnodup := hperm.nodup_iff.mpr haccepted.nodup
  have htrim : ranking.diversifiedRankingHotelIds.map JsText.trim =
      ranking.diversifiedRankingHotelIds := by
    refine (List.map_congr_left fun id hid => ?_).trans (List.map_id _)
    obtain ⟨c, -, rfl⟩ := List.mem_map.mp (hperm.mem_iff.mp hid)
    exact JsText.trim_trim _
  have haccepted' : Accepted
      { input with previousRankingHotelIds := ranking.diversifiedRankingHotelIds } := by
    refine ⟨haccepted.nonblank, haccepted.nodup, haccepted.components, haccepted.signatures, ?_, ?_⟩
    · rw [htrim]
      exact fun id hid => haccepted.nonblank id (hperm.mem_iff.mp hid)
    · rwa [htrim]
  have hreranked := reranked_of_previous pf (resolveOptions options)
    (input.previousRankingHotelIds.map JsText.trim) (hordered.nodup.sublist (List.filter_sublist.map _))
    (congrArg (·.diversifiedRankingHotelIds) hranking.symm) hnodup
  refine ⟨createRanking pf (resolveOptions options) (baseOrder pf input)
    ranking.diversifiedRankingHotelIds, ?_, ?_, ?_⟩
  · rw [evaluateRankingStabilityDiversityV2, (validateInput_ok (u := ())).mpr haccepted', htrim]
    rfl
  · subst hranking
    refine (congrArg (List.map (·.hotelId)) hreranked.visible).trans ?_
    rw [List.map_map]
    rfl
  · subst hranking
    refine (congrArg (fun all => List.map (·.hotelId) all ++ _)
      (congrArg₂ (· ++ ·) hreranked.visible hreranked.additional)).trans ?_
    rw [← List.map_append, List.map_map]
    rfl

/-- However often a diversified ranking is fed back, it stays, and so does what is visible. -/
theorem feedback_fixed
    (h : evaluateRankingStabilityDiversityV2 pf input options = .ok ranking) (n : ℕ) :
    ∃ later, feedbackRun pf input options n = .ok later ∧
      later.visibleHotelIds = ranking.visibleHotelIds ∧
      later.diversifiedRankingHotelIds = ranking.diversifiedRankingHotelIds := by
  induction n with
  | zero => exact ⟨ranking, h, rfl, rfl⟩
  | succ n ih =>
    obtain ⟨later, hlater, hvisible, hdiversified⟩ := ih
    obtain ⟨next, hnext, hnextVisible, hnextDiversified⟩ := feedback_step h
    refine ⟨next, ?_, hnextVisible, hnextDiversified⟩
    rw [feedbackRun, hlater]
    show evaluateRankingStabilityDiversityV2 pf
      { input with previousRankingHotelIds := later.diversifiedRankingHotelIds } options = _
    rw [hdiversified, hnext]

theorem feedback_fixed_sample : ∃ ranking later,
    evaluateRankingStabilityDiversityV2 samplePlatform partitionInput {} = .ok ranking ∧
      feedbackRun samplePlatform partitionInput {} 3 = .ok later ∧
      later.visibleHotelIds = ranking.visibleHotelIds := by
  obtain ⟨later, hlater, hvisible, -⟩ := feedback_fixed (evaluated_partitionInput {}) 3
  exact ⟨_, later, evaluated_partitionInput {}, hlater, hvisible⟩

end SmartStay.Ranking
