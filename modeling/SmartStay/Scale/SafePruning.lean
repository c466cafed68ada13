import SmartStay.Lib.Fallible
import SmartStay.Scale.Coverage

/-!
# Coarse pruning is safe

1. What `validateCandidateInput` lets through, and candidates whose scores keep their bounds.
2. `pruned_spec`: a pruned candidate stays below the cutoff by more than the rounding.
3. `target_count`, `retained_of_target`: as many retained candidates as the fine target asks for
   have a lower bound above every pruned candidate.
4. `retained_of_best`, `plannedTop_eq`: the best and the top are retained.
5. `audit_notEquivalent_iff`: what the audit finds fault with.
6. `pruning_safe`.
-/

namespace SmartStay.Scale

open JsSort Policy

/-! ## 1. Candidates -/

/-- The candidates that `validateCandidateInput` accepts. -/
structure ValidCandidate (c : CandidateInput) : Prop where
  bounds : (c.coarseScoreLowerBound = none ∧ c.coarseScoreUpperBound = none) ∨
    ∃ lower upper, c.coarseScoreLowerBound = some lower ∧ c.coarseScoreUpperBound = some upper ∧
      0 ≤ lower ∧ lower ≤ upper
  score_nonneg : ∀ score, c.fullDecisionScore = some score → 0 ≤ score

/-- A full score that lies within the coarse bounds where these are known. -/
structure ScoredWithinBounds (c : CandidateInput) : Prop where
  scored : ∃ score, c.fullDecisionScore = some score
  lower_le : ∀ score lower, c.fullDecisionScore = some score →
    c.coarseScoreLowerBound = some lower → lower ≤ score
  le_upper : ∀ score upper, c.fullDecisionScore = some score →
    c.coarseScoreUpperBound = some upper → score ≤ upper

theorem validCandidate_of_ok {c : CandidateInput} {u : Unit}
    (h : validateCandidateInput c = .ok u) : ValidCandidate c := by
  unfold validateCandidateInput at h
  simp only [Fallible.throwIf_bind_ok, Bool.or_eq_true, decide_eq_true_eq, not_or] at h
  obtain ⟨⟨-, hscore⟩, hbounds, hinverted⟩ := h
  refine ⟨?_, fun score hs => ?_⟩
  · cases hlower : c.coarseScoreLowerBound with
    | none =>
      cases hupper : c.coarseScoreUpperBound with
      | none => exact .inl ⟨rfl, rfl⟩
      | some upper => simp [hlower, hupper] at hbounds
    | some lower =>
      cases hupper : c.coarseScoreUpperBound with
      | none => simp [hlower, hupper] at hbounds
      | some upper =>
        rw [hlower, hupper] at hinverted
        have hle := not_lt.mp (Fallible.throwIf_ok.mp hinverted).1
        simp only [hlower, hupper, Option.any_some, isInRange] at hbounds
        refine .inr ⟨lower, upper, rfl, rfl, ?_, hle⟩
        by_contra hneg
        simp [hneg] at hbounds
  · by_contra hneg
    simp [hs, isInRange, hneg] at hscore

/-! ## 2. The cutoff -/

variable {cs : List CandidateInput} {policy : ScalePolicy} {c d : CandidateInput} {cutoff : ℚ}

theorem round_le (x : ℚ) : round x ≤ x + 1 / 2000000 := by
  have hfloor : ((JsNumber.round (x * 1000000) : ℤ) : ℚ) ≤ x * 1000000 + 1 / 2 := Int.floor_le _
  unfold round
  rw [div_le_iff₀ (by norm_num)]
  linarith

theorem round_zero : round 0 = 0 := by
  unfold round JsNumber.round
  norm_num

theorem mem_knownLowerBounds {x : ℚ} : x ∈ knownLowerBounds cs ↔
    ∃ c ∈ cs, c.eligible = true ∧ c.coarseScoreLowerBound = some x := by
  simp [knownLowerBounds, and_assoc]

theorem knownLowerBounds_sorted : (knownLowerBounds cs).Pairwise fun x y => y ≤ x := by
  have : Std.Total fun x y : ℚ => y ≤ x := ⟨fun x y => le_total y x⟩
  have : IsTrans ℚ fun x y => y ≤ x := ⟨fun x y z hxy hyz => le_trans hyz hxy⟩
  exact List.pairwise_insertionSort _ _

/-- What pruning says: two lower bounds that the upper bound misses by more than the rounding. -/
structure PrunedBelow (cs : List CandidateInput) (policy : ScalePolicy) (upper : ℚ) : Prop where
  target : ∃ target, (knownLowerBounds cs)[min (policy.fineEvaluationTarget : Nat)
    (knownLowerBounds cs).length - 1]? = some target ∧
      upper + 1 / 2000000 < target - policy.equivalenceTolerance
  highest : ∃ highest ∈ knownLowerBounds cs, upper + 1 / 2000000 <
    highest - policy.strongAlternativeTolerance - policy.equivalenceTolerance

theorem pruned_spec {upper : ℚ} (hupper : 0 ≤ upper) (hcutoff : resolveSafeCutoff cs policy = some cutoff)
    (hlt : upper + scoreEpsilon < cutoff) : PrunedBelow cs policy upper := by
  unfold resolveSafeCutoff at hcutoff
  dsimp only at hcutoff
  split at hcutoff
  · next target highest htarget hhighest =>
    obtain rfl := Option.some.inj hcutoff
    have hround := lt_of_lt_of_le hlt (round_le _)
    unfold scoreEpsilon at hround
    have hbelow : upper + 1 / 2000000 < max 0 (min (target - policy.equivalenceTolerance)
        (highest - policy.strongAlternativeTolerance - policy.equivalenceTolerance)) := by
      linarith
    have hmin := (lt_max_iff.mp hbelow).resolve_left (by linarith)
    obtain ⟨hfinalist, hstrong⟩ := lt_min_iff.mp hmin
    exact ⟨⟨target, htarget, hfinalist⟩, highest, List.mem_of_mem_head? hhighest, hstrong⟩
  · cases hcutoff

/-- How an eligible candidate without protection comes to be pruned. -/
theorem prunedBelow_of_not_retained (hvalid : ValidCandidate c) (heligible : c.eligible = true)
    (hpruned : (candidateDisposition c (resolveSafeCutoff cs policy)).retained = false) :
    c.protectedByPolicy = false ∧ ∃ lower upper, c.coarseScoreLowerBound = some lower ∧
      c.coarseScoreUpperBound = some upper ∧ lower ≤ upper ∧ PrunedBelow cs policy upper := by
  unfold candidateDisposition at hpruned
  rw [if_neg (by simp [heligible])] at hpruned
  cases hprotected : c.protectedByPolicy with
  | true => simp [hprotected, Disposition.retained] at hpruned
  | false =>
    rw [if_neg (by simp [hprotected])] at hpruned
    refine ⟨rfl, ?_⟩
    rcases hvalid.bounds with ⟨hlower, hupper⟩ | ⟨lower, upper, hlower, hupper, hnonneg, hle⟩
    · simp [hlower, hupper, Disposition.retained] at hpruned
    · refine ⟨lower, upper, hlower, hupper, hle, ?_⟩
      rw [hlower, hupper] at hpruned
      cases hcutoff : resolveSafeCutoff cs policy with
      | none => simp [hcutoff, Disposition.retained] at hpruned
      | some cutoff =>
        rw [hcutoff] at hpruned
        dsimp only at hpruned
        split at hpruned
        · cases hpruned
        · next hlt => exact pruned_spec (le_trans hnonneg hle) hcutoff (not_le.mp hlt)

/-! ## 3. Enough candidates above a pruned one -/

/-- A candidate whose lower bound reaches the target. -/
def reaches (target : ℚ) (c : CandidateInput) : Bool :=
  c.eligible && c.coarseScoreLowerBound.any (target ≤ ·)

theorem reaches_iff {target : ℚ} : reaches target c = true ↔
    c.eligible = true ∧ ∃ lower, c.coarseScoreLowerBound = some lower ∧ target ≤ lower := by
  cases hlower : c.coarseScoreLowerBound <;> simp [reaches, hlower]

/-- The target is reached by as many candidates as its position says. -/
theorem target_count {target : ℚ} {k : Nat} (htarget : (knownLowerBounds cs)[k]? = some target) :
    k < cs.countP (reaches target) := by
  obtain ⟨hk, rfl⟩ := List.getElem?_eq_some_iff.mp htarget
  have hcount := lt_countP_le knownLowerBounds_sorted hk
  have hperm : (knownLowerBounds cs).Perm
      ((cs.filter (·.eligible)).filterMap (·.coarseScoreLowerBound)) :=
    List.perm_insertionSort _ _
  rw [hperm.countP_eq, List.countP_filterMap, List.countP_filter] at hcount
  refine Nat.lt_of_lt_of_le hcount (List.countP_mono_left fun c _ hc => ?_)
  rw [reaches_iff]
  cases hlower : c.coarseScoreLowerBound with
  | none => simp [hlower] at hc
  | some lower => simpa [hlower, and_comm] using hc

variable (htolerance : 0 ≤ policy.equivalenceTolerance)
variable (hvalid : ∀ c ∈ cs, ValidCandidate c)
variable (hscored : ∀ c ∈ cs, c.eligible = true → ScoredWithinBounds c)

include htolerance in
/-- A candidate that reaches a target above a pruned candidate is retained. -/
theorem retained_of_reaches (hvalid : ValidCandidate c) {target : ℚ}
    (htarget : (knownLowerBounds cs)[min (policy.fineEvaluationTarget : Nat)
      (knownLowerBounds cs).length - 1]? = some target) (hc : reaches target c = true) :
    (candidateDisposition c (resolveSafeCutoff cs policy)).retained = true := by
  obtain ⟨heligible, lower, hlower, hle⟩ := reaches_iff.mp hc
  by_contra hnot
  obtain ⟨-, lower', upper, hlower', -, hbounds, hbelow⟩ :=
    prunedBelow_of_not_retained hvalid heligible (by simpa using hnot)
  obtain ⟨target', htarget', hlt⟩ := hbelow.target
  obtain rfl := Option.some.inj (htarget.symm.trans htarget')
  obtain rfl := Option.some.inj (hlower.symm.trans hlower')
  linarith

include htolerance in
/-- The fine target is no more than the known bounds when something is pruned. -/
theorem target_le_of_pruned {lower upper : ℚ} (hlower : lower ∈ knownLowerBounds cs)
    (hle : lower ≤ upper) (hbelow : PrunedBelow cs policy upper) :
    policy.fineEvaluationTarget ≤ (knownLowerBounds cs).length := by
  by_contra hfew
  obtain ⟨target, htarget, hlt⟩ := hbelow.target
  rw [Nat.min_eq_right (by omega)] at htarget
  obtain ⟨hk, rfl⟩ := List.getElem?_eq_some_iff.mp htarget
  obtain ⟨i, hi, rfl⟩ := List.getElem_of_mem hlower
  have hlast : (knownLowerBounds cs)[(knownLowerBounds cs).length - 1] ≤ (knownLowerBounds cs)[i] := by
    rcases Nat.lt_or_ge i ((knownLowerBounds cs).length - 1) with hlt | hge
    · exact List.pairwise_iff_getElem.mp knownLowerBounds_sorted i _ hi hk hlt
    · have hieq : i = (knownLowerBounds cs).length - 1 := by omega
      simp [hieq]
  linarith

/-! ## 4. The best and the top -/

/-- The candidates as evaluated. -/
def evaluated (cs : List CandidateInput) (policy : ScalePolicy) : List CandidateEvaluation :=
  cs.map (evaluateCandidate (resolveSafeCutoff cs policy))

/-- A full score within the tolerance of every eligible full score. -/
def NearBest (cs : List CandidateInput) (tolerance : ℚ) (c : CandidateInput) : Prop :=
  ∀ d ∈ cs, d.eligible = true → ∀ score best, c.fullDecisionScore = some score →
    d.fullDecisionScore = some best → best - tolerance ≤ score

include hvalid hscored in
/-- A candidate near the best is retained, even when it is a little less near. -/
theorem retained_of_nearBest (hc : c ∈ cs) (heligible : c.eligible = true)
    (hnear : NearBest cs (policy.strongAlternativeTolerance + policy.equivalenceTolerance) c) :
    (candidateDisposition c (resolveSafeCutoff cs policy)).retained = true := by
  by_contra hnot
  obtain ⟨-, lower, upper, -, hupper, -, hbelow⟩ :=
    prunedBelow_of_not_retained (hvalid c hc) heligible (by simpa using hnot)
  obtain ⟨highest, hmem, hlt⟩ := hbelow.highest
  obtain ⟨d, hd, hdeligible, hhighest⟩ := mem_knownLowerBounds.mp hmem
  obtain ⟨score, hscore⟩ := (hscored c hc heligible).scored
  obtain ⟨best, hbest⟩ := (hscored d hd hdeligible).scored
  have hle := (hscored c hc heligible).le_upper score upper hscore hupper
  have hge := (hscored d hd hdeligible).lower_le best highest hbest hhighest
  have hbetween := hnear d hd hdeligible score best hscore hbest
  linarith

instance : Std.TransCmp compareFullScore :=
  inferInstanceAs (Std.TransCmp fun first second : CandidateEvaluation =>
    compareOn (fun c : CandidateEvaluation => c.fullDecisionScore.getD (-1)) second first)

theorem mem_fullyScored {es : List CandidateEvaluation} {e : CandidateEvaluation} :
    e ∈ fullyScored es ↔ e ∈ es ∧ e.eligible = true ∧ e.fullDecisionScore.isSome = true := by
  simp [fullyScored]

theorem plannedScored_eq (es : List CandidateEvaluation) :
    plannedScored es = (fullyScored es).filter (·.retainedForFineEvaluation) := by
  have hsorted : (fullyScored es).Pairwise fun a b => compareFullScore a b ≠ .gt := pairwise_sortBy _
  exact List.Pairwise.insertionSort_eq (hsorted.filter _)

theorem fullTop_eq (es : List CandidateEvaluation) :
    fullTop policy es = takeTop compareFullScore policy.outputCandidateLimit (fullyScored es) := by
  have hsorted : (fullyScored es).Pairwise fun a b => compareFullScore a b ≠ .gt := pairwise_sortBy _
  exact congrArg _ (List.Pairwise.insertionSort_eq hsorted)

theorem plannedTop_eq_takeTop (es : List CandidateEvaluation) : plannedTop policy es =
    takeTop compareFullScore policy.outputCandidateLimit
      ((fullyScored es).filter (·.retainedForFineEvaluation)) := by
  have hsorted : (plannedScored es).Pairwise fun a b => compareFullScore a b ≠ .gt :=
    pairwise_sortBy _
  rw [← plannedScored_eq]
  exact congrArg _ (List.Pairwise.insertionSort_eq hsorted)

include htolerance hvalid hscored in
/-- Every pruned candidate is preceded by as many retained ones as the fine target asks for. -/
theorem target_le_better {e : CandidateEvaluation} (he : e ∈ fullyScored (evaluated cs policy))
    (hpruned : e.retainedForFineEvaluation = false) : policy.fineEvaluationTarget ≤
      better compareFullScore
        ((fullyScored (evaluated cs policy)).filter (·.retainedForFineEvaluation)) e := by
  obtain ⟨hmem, heligible, -⟩ := mem_fullyScored.mp he
  obtain ⟨c, hc, rfl⟩ := List.mem_map.mp hmem
  obtain ⟨-, lower, upper, hlower, hupper, hle, hbelow⟩ :=
    prunedBelow_of_not_retained (hvalid c hc) heligible hpruned
  obtain ⟨score, hscore⟩ := (hscored c hc heligible).scored
  have hscoreLe := (hscored c hc heligible).le_upper score upper hscore hupper
  have hlength := target_le_of_pruned htolerance
    (mem_knownLowerBounds.mpr ⟨c, hc, heligible, hlower⟩) hle hbelow
  obtain ⟨target, htarget, hlt⟩ := hbelow.target
  have hcount := target_count htarget
  rw [Nat.min_eq_left hlength] at hcount
  have hpos := policy.fineEvaluationTarget.pos
  have hfine : (policy.fineEvaluationTarget : Nat) ≤ cs.countP (reaches target) := by omega
  refine Nat.le_trans hfine ?_
  have hperm : (fullyScored (evaluated cs policy)).Perm ((evaluated cs policy).filter
      fun c => c.eligible && c.fullDecisionScore.isSome) := sortBy_perm _ _
  unfold better
  rw [List.countP_filter, hperm.countP_eq, List.countP_filter, evaluated, List.countP_map]
  refine List.countP_mono_left fun d hd hreaches => ?_
  have hretained := retained_of_reaches htolerance (hvalid d hd) htarget hreaches
  obtain ⟨hdeligible, dlower, hdlower, htargetLe⟩ := reaches_iff.mp hreaches
  obtain ⟨best, hbest⟩ := (hscored d hd hdeligible).scored
  have hbestGe := (hscored d hd hdeligible).lower_le best dlower hbest hdlower
  have hcompare : compareFullScore (evaluateCandidate (resolveSafeCutoff cs policy) d)
      (evaluateCandidate (resolveSafeCutoff cs policy) c) = .lt := by
    have hscores : score < best := by linarith
    simpa [compareFullScore, evaluateCandidate, hscore, hbest, compare_lt_iff_lt] using hscores
  have hkept : (evaluateCandidate (resolveSafeCutoff cs policy) d).retainedForFineEvaluation = true :=
    hretained
  have heligible' : (evaluateCandidate (resolveSafeCutoff cs policy) d).eligible = true := hdeligible
  have hbest' : (evaluateCandidate (resolveSafeCutoff cs policy) d).fullDecisionScore = some best :=
    hbest
  simp [hcompare, hkept, heligible', hbest']

include htolerance hvalid hscored in
theorem plannedTop_eq (hlimit : policy.outputCandidateLimit ≤ policy.fineEvaluationTarget) :
    plannedTop policy (evaluated cs policy) = fullTop policy (evaluated cs policy) := by
  rw [plannedTop_eq_takeTop, fullTop_eq]
  exact takeTop_filter policy.outputCandidateLimit.pos (pairwise_sortBy _) fun e he hpruned =>
    Nat.le_trans hlimit (target_le_better htolerance hvalid hscored he hpruned)

/-- Every full score of an eligible candidate is at most the first of the ordered ones. -/
theorem le_head {es : List CandidateEvaluation} {first e : CandidateEvaluation}
    (hfirst : (fullyScored es).head? = some first) (he : e ∈ fullyScored es) {score best : ℚ}
    (hscore : e.fullDecisionScore = some score) (hbest : first.fullDecisionScore = some best) :
    score ≤ best := by
  have hle := head_sortBy_le hfirst (mem_sortBy.mp he)
  simpa [compareFullScore, hscore, hbest, compare_gt_iff_gt] using hle

include htolerance hvalid hscored in
/-- The first of the fully scored candidates is retained. -/
theorem head_retained (hstrong : 0 ≤ policy.strongAlternativeTolerance) {first : CandidateEvaluation}
    (hfirst : (fullyScored (evaluated cs policy)).head? = some first) :
    first.retainedForFineEvaluation = true := by
  obtain ⟨hmem, heligible, -⟩ := mem_fullyScored.mp (List.mem_of_mem_head? hfirst)
  obtain ⟨c, hc, rfl⟩ := List.mem_map.mp hmem
  refine retained_of_nearBest hvalid hscored hc heligible fun d hd hdeligible score best hscore hbest => ?_
  have hd' : evaluateCandidate (resolveSafeCutoff cs policy) d ∈ fullyScored (evaluated cs policy) :=
    mem_fullyScored.mpr ⟨List.mem_map_of_mem hd, hdeligible, Option.isSome_iff_exists.mpr ⟨best, hbest⟩⟩
  have hle := le_head hfirst hd' hbest hscore
  linarith

include htolerance hvalid hscored in
/-- Both tops begin with the first of the fully scored candidates. -/
theorem bestScore_top (hstrong : 0 ≤ policy.strongAlternativeTolerance) :
    bestScore (fullTop policy (evaluated cs policy)) =
      (fullyScored (evaluated cs policy)).head?.bind (·.fullDecisionScore) ∧
    bestScore (plannedTop policy (evaluated cs policy)) =
      (fullyScored (evaluated cs policy)).head?.bind (·.fullDecisionScore) := by
  unfold bestScore
  rw [fullTop_eq, plannedTop_eq_takeTop, head?_takeTop policy.outputCandidateLimit.pos,
    head?_takeTop policy.outputCandidateLimit.pos]
  refine ⟨rfl, ?_⟩
  cases hordered : fullyScored (evaluated cs policy) with
  | nil => rfl
  | cons first rest =>
    have hretained := head_retained htolerance hvalid hscored hstrong
      (show (fullyScored (evaluated cs policy)).head? = some first by rw [hordered]; rfl)
    rw [List.filter_cons_of_pos hretained]
    rfl

include htolerance hvalid hscored in
theorem max?_retained (hstrong : 0 ≤ policy.strongAlternativeTolerance) :
    (((evaluated cs policy).filter (·.retainedForFineEvaluation)).filterMap
      (·.fullDecisionScore)).max? =
    (((evaluated cs policy).filter (·.eligible)).filterMap (·.fullDecisionScore)).max? := by
  have heligible : ∀ e ∈ evaluated cs policy, e.retainedForFineEvaluation = true → e.eligible = true := by
    intro e he hretained
    obtain ⟨c, hc, rfl⟩ := List.mem_map.mp he
    by_contra hnot
    have hineligible : c.eligible = false := Bool.eq_false_iff.mpr hnot
    simp [evaluateCandidate, candidateDisposition, hineligible, Disposition.retained] at hretained
  have hmem : ∀ {e score}, e ∈ evaluated cs policy → e.eligible = true →
      e.fullDecisionScore = some score → e ∈ fullyScored (evaluated cs policy) := fun he hel hs =>
    mem_fullyScored.mpr ⟨he, hel, Option.isSome_iff_exists.mpr ⟨_, hs⟩⟩
  cases hhead : (fullyScored (evaluated cs policy)).head? with
  | none =>
    -- no candidate is eligible
    have hnil := List.head?_eq_none_iff.mp hhead
    have hnone : ∀ e ∈ evaluated cs policy, e.eligible = true → e.fullDecisionScore = none := by
      intro e he hel
      cases hs : e.fullDecisionScore with
      | none => rfl
      | some score =>
        have hin := hmem he hel hs
        simp [hnil] at hin
    have hempty : ∀ p : CandidateEvaluation → Bool,
        (∀ e ∈ evaluated cs policy, p e = true → e.eligible = true) →
        ((evaluated cs policy).filter p).filterMap (·.fullDecisionScore) = [] := by
      intro p hp
      refine List.filterMap_eq_nil_iff.mpr fun e he => ?_
      obtain ⟨he, hpe⟩ := List.mem_filter.mp he
      exact hnone e he (hp e he hpe)
    rw [hempty _ heligible, hempty _ fun e _ h => h]
  | some first =>
    obtain ⟨hin, hel, hsome⟩ := mem_fullyScored.mp (List.mem_of_mem_head? hhead)
    obtain ⟨best, hbest⟩ := Option.isSome_iff_exists.mp hsome
    have hmax : ∀ p : CandidateEvaluation → Bool, p first = true →
        (∀ e ∈ evaluated cs policy, p e = true → e.eligible = true) →
        (((evaluated cs policy).filter p).filterMap (·.fullDecisionScore)).max? = some best := by
      intro p hfirst hp
      refine List.max?_eq_some_iff.mpr ⟨List.mem_filterMap.mpr ⟨first,
        List.mem_filter.mpr ⟨hin, hfirst⟩, hbest⟩, fun score hscore => ?_⟩
      obtain ⟨e, he, hs⟩ := List.mem_filterMap.mp hscore
      obtain ⟨he, hpe⟩ := List.mem_filter.mp he
      exact le_head hhead (hmem he (hp e he hpe) hs) hs hbest
    rw [hmax _ (head_retained htolerance hvalid hscored hstrong hhead) heligible,
      hmax _ hel fun e _ h => h]

/-! ## 5. The audit -/

theorem not_violatesBounds (hscored : ScoredWithinBounds c) : violatesBounds c = false := by
  obtain ⟨score, hscore⟩ := hscored.scored
  cases hlower : c.coarseScoreLowerBound with
  | none => simp [violatesBounds, hscore, hlower]
  | some lower =>
    cases hupper : c.coarseScoreUpperBound with
    | none => simp [violatesBounds, hscore, hlower, hupper]
    | some upper =>
      have hle := hscored.lower_le score lower hscore hlower
      have hge := hscored.le_upper score upper hscore hupper
      simp only [violatesBounds, hscore, hlower, hupper, scoreEpsilon, Bool.or_eq_false_iff]
      exact ⟨decide_eq_false (by linarith), decide_eq_false (by linarith)⟩

include hvalid in
theorem retained_of_protected (hc : c ∈ cs) (heligible : c.eligible = true)
    (hprotected : c.protectedByPolicy = true) :
    (candidateDisposition c (resolveSafeCutoff cs policy)).retained = true := by
  by_contra hnot
  have hunprotected :=
    (prunedBelow_of_not_retained (hvalid c hc) heligible (by simpa using hnot)).1
  simp [hprotected] at hunprotected

include hvalid hscored in
/-- The strong alternatives of the audit, which allows for `SCORE_EPSILON`, are retained. -/
theorem strong_retained (hepsilon : scoreEpsilon ≤ policy.equivalenceTolerance)
    {first e : CandidateEvaluation} (hfirst : (fullyScored (evaluated cs policy)).head? = some first)
    {best : ℚ} (hbest : first.fullDecisionScore = some best)
    (he : e ∈ fullyScored (evaluated cs policy)) (hstrong : isStrongAlternative policy best e = true) :
    e.retainedForFineEvaluation = true := by
  obtain ⟨hmem, heligible, -⟩ := mem_fullyScored.mp he
  obtain ⟨c, hc, rfl⟩ := List.mem_map.mp hmem
  rcases Bool.or_eq_true_iff.mp hstrong with hprotected | hnear
  · exact retained_of_protected hvalid hc heligible hprotected
  · refine retained_of_nearBest hvalid hscored hc heligible fun d hd hdeligible score dscore hscore hd' => ?_
    have hdmem : evaluateCandidate (resolveSafeCutoff cs policy) d ∈ fullyScored (evaluated cs policy) :=
      mem_fullyScored.mpr
        ⟨List.mem_map_of_mem hd, hdeligible, Option.isSome_iff_exists.mpr ⟨dscore, hd'⟩⟩
    have hle := le_head hfirst hdmem hd' hbest
    have hscore' : (evaluateCandidate (resolveSafeCutoff cs policy) c).fullDecisionScore = some score :=
      hscore
    rw [hscore', Option.any_some, decide_eq_true_eq] at hnear
    linarith

include htolerance hvalid hscored in
theorem audit_notEquivalent_iff (rt : Contract.Runtime)
    (hepsilon : scoreEpsilon ≤ policy.equivalenceTolerance)
    (hstrong : 0 ≤ policy.strongAlternativeTolerance) :
    (createEquivalenceAudit rt (evaluated cs policy) policy).status = .notEquivalent ↔
      (∃ e ∈ evaluated cs policy, e.eligible = true) ∧ ∃ e ∈ evaluated cs policy,
        e.eligible = false ∧ violatesBounds e.toCandidateInput = true := by
  have hscored' : ∀ e ∈ evaluated cs policy, e.eligible = true →
      ScoredWithinBounds e.toCandidateInput := by
    intro e he hel
    obtain ⟨c, hc, rfl⟩ := List.mem_map.mp he
    exact ⟨(hscored c hc hel).scored, (hscored c hc hel).lower_le, (hscored c hc hel).le_upper⟩
  have hsome : fullyScored (evaluated cs policy) ≠ [] ↔ ∃ e ∈ evaluated cs policy, e.eligible = true := by
    constructor
    · intro hne
      obtain ⟨e, he⟩ := List.exists_mem_of_ne_nil _ hne
      exact ⟨e, (mem_fullyScored.mp he).1, (mem_fullyScored.mp he).2.1⟩
    · rintro ⟨e, he, hel⟩
      obtain ⟨score, hscore⟩ := (hscored' e he hel).scored
      exact List.ne_nil_of_mem
        (mem_fullyScored.mpr ⟨he, hel, Option.isSome_iff_exists.mpr ⟨score, hscore⟩⟩)
  rw [← hsome]
  obtain ⟨hfull, hplanned⟩ := bestScore_top htolerance hvalid hscored hstrong
  unfold createEquivalenceAudit
  dsimp only
  rw [hfull, hplanned]
  cases hhead : (fullyScored (evaluated cs policy)).head? with
  | none => simp [List.head?_eq_none_iff.mp hhead]
  | some first =>
    obtain ⟨hin, hel, hsome⟩ := mem_fullyScored.mp (List.mem_of_mem_head? hhead)
    obtain ⟨best, hbest⟩ := Option.isSome_iff_exists.mp hsome
    simp only [Option.bind_some, hbest, sub_self, max_self, round_zero, Option.any_some]
    have hlost : (sortTexts (((fullyScored (evaluated cs policy)).filter
        (isStrongAlternative policy best)).map (·.hotelId))).filter (fun hotelId =>
          !(((evaluated cs policy).filter (·.retainedForFineEvaluation)).map (·.hotelId)).contains
            hotelId) = [] := by
      refine List.filter_eq_nil_iff.mpr fun hotelId hid => ?_
      obtain ⟨e, he, rfl⟩ := List.mem_map.mp ((List.mem_insertionSort _).mp hid)
      obtain ⟨he, hstrong⟩ := List.mem_filter.mp he
      have hretained := strong_retained hvalid hscored hepsilon hhead hbest he hstrong
      have hkept : e.hotelId ∈
          ((evaluated cs policy).filter (·.retainedForFineEvaluation)).map (·.hotelId) :=
        List.mem_map_of_mem (List.mem_filter.mpr ⟨(mem_fullyScored.mp he).1, hretained⟩)
      simpa [and_assoc] using hkept
    have hviolations : (sortTexts (((evaluated cs policy).filter fun c =>
        violatesBounds c.toCandidateInput).map (·.hotelId))).length = 0 ↔
          ∀ e ∈ evaluated cs policy, violatesBounds e.toCandidateInput = false := by
      simp [sortTexts, List.length_insertionSort]
    have hne : fullyScored (evaluated cs policy) ≠ [] :=
      List.ne_nil_of_mem (List.mem_of_mem_head? hhead)
    have hloss : (0 : ℚ) ≤ policy.equivalenceTolerance + scoreEpsilon := by
      unfold scoreEpsilon
      linarith
    have hineligible : (∃ e ∈ evaluated cs policy, e.eligible = false ∧
        violatesBounds e.toCandidateInput = true) ↔
          ¬ ∀ e ∈ evaluated cs policy, violatesBounds e.toCandidateInput = false := by
      push Not
      refine ⟨fun ⟨e, he, _, hviolates⟩ => ⟨e, he, by simp [hviolates]⟩, fun ⟨e, he, hviolates⟩ => ?_⟩
      refine ⟨e, he, ?_, by simpa using hviolates⟩
      by_contra hel
      exact hviolates (not_violatesBounds (hscored' e he (by simpa using hel)))
    rw [hlost, hineligible, ← hviolations, if_neg (by simpa using hne)]
    simp only [hloss, hne, decide_true, List.length_nil, Bool.true_and, decide_eq_true_eq, ne_eq,
      not_false_eq_true, true_and]
    split <;> simp_all

/-! ## 6. The evaluation -/

/-- The candidates of an accepted input, under their trimmed ids. -/
structure AcceptedScale (rt : Contract.Runtime) (input : ScaleInput) (r : Coverage) : Prop where
  nodup : (input.candidates.map fun c => JsText.trim c.hotelId).Nodup
  valid : ∀ c ∈ orderCandidates rt input.candidates, ValidCandidate c
  evaluated : r.candidates = evaluated (orderCandidates rt input.candidates) r.policy
  audited : r.equivalence = createEquivalenceAudit rt r.candidates r.policy

theorem mem_orderCandidates {rt : Contract.Runtime} :
    c ∈ orderCandidates rt cs ↔ ∃ d ∈ cs, { d with hotelId := JsText.trim d.hotelId } = c := by
  simp [orderCandidates]

theorem accepted_of_ok {rt : Contract.Runtime} {log2 : ℚ → ℚ} {input : ScaleInput} {r : Coverage}
    (h : evaluateSearchWideScaleCoverage rt log2 input = .ok r) : AcceptedScale rt input r := by
  unfold evaluateSearchWideScaleCoverage at h
  obtain ⟨policy, -, h⟩ := Fallible.bind_ok.mp h
  obtain ⟨hnodup, h⟩ := Fallible.throwIf_bind_ok.mp h
  obtain ⟨u, hvalid, h⟩ := Fallible.bind_ok.mp h
  obtain ⟨scope, -, h⟩ := Fallible.bind_ok.mp h
  obtain rfl := Except.ok.inj h
  refine ⟨not_not.mp hnodup, fun c hc => ?_, rfl, rfl⟩
  obtain ⟨d, hd, rfl⟩ := mem_orderCandidates.mp hc
  have hok := validCandidate_of_ok (Fallible.forM_ok.mp hvalid d hd)
  exact ⟨hok.bounds, hok.score_nonneg⟩

/-- With the default tolerances, and eligible scores within their bounds, the pruning keeps the
    best, the strong alternatives, the protected and the top; the audit finds fault exactly with
    scores of ineligible candidates outside their bounds. -/
theorem pruning_safe (rt : Contract.Runtime) (log2 : ℚ → ℚ) (input : ScaleInput) (r : Coverage)
    (hrun : evaluateSearchWideScaleCoverage rt log2 input = .ok r)
    (hequivalence : r.policy.equivalenceTolerance = 1 / 2)
    (hstrong : r.policy.strongAlternativeTolerance = 2)
    (hscored : ∀ c ∈ input.candidates, c.eligible = true → ScoredWithinBounds c) :
    (r.candidates.map (·.toCandidateInput)).Perm
      (input.candidates.map fun c => { c with hotelId := JsText.trim c.hotelId }) ∧
    ((r.candidates.filter (·.retainedForFineEvaluation)).filterMap (·.fullDecisionScore)).max? =
      ((r.candidates.filter (·.eligible)).filterMap (·.fullDecisionScore)).max? ∧
    (∀ e ∈ r.candidates, e.eligible = true → (e.protectedByPolicy = true ∨
      NearBest (r.candidates.map (·.toCandidateInput)) r.policy.strongAlternativeTolerance
        e.toCandidateInput) → e.retainedForFineEvaluation = true) ∧
    (r.policy.outputCandidateLimit ≤ r.policy.fineEvaluationTarget →
      plannedTop r.policy r.candidates = fullTop r.policy r.candidates) ∧
    (r.equivalence.status = .notEquivalent ↔ (∃ e ∈ r.candidates, e.eligible = true) ∧
      ∃ e ∈ r.candidates, e.eligible = false ∧ violatesBounds e.toCandidateInput = true) := by
  obtain ⟨-, hvalid, hevaluated, haudited⟩ := accepted_of_ok hrun
  have hscored' : ∀ c ∈ orderCandidates rt input.candidates, c.eligible = true →
      ScoredWithinBounds c := by
    intro c hc heligible
    obtain ⟨d, hd, rfl⟩ := mem_orderCandidates.mp hc
    have hd' := hscored d hd heligible
    exact ⟨hd'.scored, hd'.lower_le, hd'.le_upper⟩
  have htolerance : 0 ≤ r.policy.equivalenceTolerance := by norm_num [hequivalence]
  have hnonneg : 0 ≤ r.policy.strongAlternativeTolerance := by norm_num [hstrong]
  have hinputs : r.candidates.map (·.toCandidateInput) = orderCandidates rt input.candidates := by
    rw [hevaluated, evaluated, List.map_map]
    refine List.map_congr_left (fun c hc => ?_) |>.trans (List.map_id _)
    obtain ⟨d, hd, rfl⟩ := mem_orderCandidates.mp hc
    simp [evaluateCandidate, JsText.trim_trim]
  refine ⟨hinputs ▸ sortBy_perm _ _, ?_, fun e he heligible hcase => ?_, fun hlimit => ?_, ?_⟩
  · rw [hevaluated]
    exact max?_retained htolerance hvalid hscored' hnonneg
  · rw [hinputs] at hcase
    rw [hevaluated] at he
    obtain ⟨c, hc, rfl⟩ := List.mem_map.mp he
    rcases hcase with hprotected | hnear
    · exact retained_of_protected hvalid hc heligible hprotected
    · refine retained_of_nearBest hvalid hscored' hc heligible fun d hd hdel score best hs hb => ?_
      have hbetween := hnear d hd hdel score best hs hb
      linarith
  · rw [hevaluated]
    exact plannedTop_eq htolerance hvalid hscored' hlimit
  · rw [haudited, hevaluated]
    refine audit_notEquivalent_iff htolerance hvalid hscored' rt ?_ hnonneg
    norm_num [hequivalence, scoreEpsilon]

/-- A good hotel, a poor one that is pruned and an ineligible one with the given full score. -/
def threeHotels (ineligibleScore : ℚ) : ScaleInput where
  candidates :=
    [{ hotelId := "a", eligible := true, coarseScoreLowerBound := some 70,
       coarseScoreUpperBound := some 90, fullDecisionScore := some 80, evidenceCoverage := 1,
       protectedByPolicy := false },
     { hotelId := "b", eligible := true, coarseScoreLowerBound := some 10,
       coarseScoreUpperBound := some 30, fullDecisionScore := some 20, evidenceCoverage := 1,
       protectedByPolicy := false },
     { hotelId := "c", eligible := false, coarseScoreLowerBound := some 50,
       coarseScoreUpperBound := some 60, fullDecisionScore := some ineligibleScore,
       evidenceCoverage := 1, protectedByPolicy := false }]
  options := { fineEvaluationTarget := some (some 1), outputCandidateLimit := some (some 1) }

theorem threeHotels_scored (x : ℚ) :
    ∀ c ∈ (threeHotels x).candidates, c.eligible = true → ScoredWithinBounds c := by
  simp only [threeHotels, List.forall_mem_cons, List.not_mem_nil, false_implies, implies_true,
    and_true, Bool.false_eq_true]
  refine ⟨fun _ => ⟨⟨80, rfl⟩, ?_, ?_⟩, fun _ => ⟨⟨20, rfl⟩, ?_, ?_⟩⟩
  all_goals
    rintro score bound ⟨⟩ ⟨⟩
    norm_num

theorem threeHotels_run : ∀ x ∈ [(55 : ℚ), 90], ∃ r, evaluateSearchWideScaleCoverage
    Contract.plainRuntime id (threeHotels x) = .ok r ∧ (r.prunedHotelIds = ["b", "c"] ∧
      r.policy.equivalenceTolerance = 1 / 2 ∧ r.policy.strongAlternativeTolerance = 2 ∧
      (r.equivalence.status = .notEquivalent ↔ x = 90)) := by
  have hrun : ∀ x ∈ [(55 : ℚ), 90], ((evaluateSearchWideScaleCoverage Contract.plainRuntime id
      (threeHotels x)).toOption.map fun r => decide (r.prunedHotelIds = ["b", "c"] ∧
        r.policy.equivalenceTolerance = 1 / 2 ∧ r.policy.strongAlternativeTolerance = 2 ∧
        (r.equivalence.status = .notEquivalent ↔ x = 90))) = some true := by
    decide +kernel
  intro x hx
  obtain ⟨r, hr, hall⟩ := Fallible.exists_ok (hrun x hx)
  exact ⟨r, hr, of_decide_eq_true hall⟩

theorem pruning_safe_three : ∃ r, evaluateSearchWideScaleCoverage Contract.plainRuntime id
    (threeHotels 55) = .ok r ∧ r.prunedHotelIds = ["b", "c"] ∧
      ((r.candidates.filter (·.retainedForFineEvaluation)).filterMap (·.fullDecisionScore)).max? =
        ((r.candidates.filter (·.eligible)).filterMap (·.fullDecisionScore)).max? := by
  obtain ⟨r, hr, hpruned, hequivalence, hstrong, hstatus⟩ := threeHotels_run 55 (by simp)
  refine ⟨r, hr, hpruned, ?_⟩
  exact (pruning_safe Contract.plainRuntime id (threeHotels 55) r hr hequivalence hstrong
    (threeHotels_scored 55)).2.1

/-- An ineligible hotel whose full score leaves its bounds fails the audit. -/
theorem audit_fails_on_ineligible : ∃ r, evaluateSearchWideScaleCoverage Contract.plainRuntime id
    (threeHotels 90) = .ok r ∧ r.policy.equivalenceTolerance = 1 / 2 ∧
      r.policy.strongAlternativeTolerance = 2 ∧
      (∀ c ∈ (threeHotels 90).candidates, c.eligible = true → ScoredWithinBounds c) ∧
      r.equivalence.status = .notEquivalent := by
  obtain ⟨r, hr, -, hequivalence, hstrong, hstatus⟩ := threeHotels_run 90 (by simp)
  exact ⟨r, hr, hequivalence, hstrong, threeHotels_scored 90, hstatus.mpr rfl⟩

end SmartStay.Scale
