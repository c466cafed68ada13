import SmartStay.Contract.Value
import SmartStay.Policy.DecisionTie

/-!
# Ties do not depend on the order of arrival

What `resolveDecisionTieV3` and `takeDecisionTopWithBoundaryTiesV3` of
`engine-v3/decision/decisionTieProjectionV3.ts` promise for every comparator that is a total preorder.

1. `createDecisionTieProjection`, `projection_keys`: no identity is left in a projection.
2. `leaders_perm`: the leaders are the candidates that nothing precedes, each as often as it came.
3. `representative_iff`: the representative is the one leader with the least projection.
4. `decisionTie_order_free`.
-/

namespace SmartStay.Policy

open Contract JsSort

variable {α : Type}

/-! ## 1. Projections -/

/-- `OPAQUE_OR_FORBIDDEN_KEY`, whose letters may be of either case. -/
def opaqueOrForbiddenKeys : List String :=
  ["id", "ids", "provider", "sourceProvider", "providerName", "hotelId", "offerId", "solutionId",
    "providerId", "rawPayload", "rawResponse", "commission", "markup", "affiliateRevenue",
    "providerPriority", "clickProbability", "userEconomicValue"]

def isOpaqueOrForbiddenKey (key : String) : Bool :=
  (opaqueOrForbiddenKeys.map JsText.toLowerCase).contains (JsText.toLowerCase key) ||
    ["Id", "Ids"].any (fun ending => ending.toList.isSuffixOf key.toList) ||
    ["_id", "_ids"].any fun ending => ending.toList.isSuffixOf (JsText.toLowerCase key).toList

mutual

/-- The values of other types, which throw, are no `Json`. -/
def createDecisionTieProjection : Json → Json
  | .arr values => .arr (projectValues values)
  | .obj fields => .obj (projectFields fields)
  | value => value

def projectValues : List Json → List Json
  | [] => []
  | value :: rest => createDecisionTieProjection value :: projectValues rest

def projectFields : List (String × Json) → List (String × Json)
  | [] => []
  | (key, entry) :: rest =>
    if isOpaqueOrForbiddenKey key then projectFields rest
    else (key, createDecisionTieProjection entry) :: projectFields rest

end

mutual

/-- No property of a projection names an identity, at any depth. -/
theorem projection_keys : (value : Json) →
    ∀ key ∈ (createDecisionTieProjection value).keys, isOpaqueOrForbiddenKey key = false
  | .null | .bool _ | .num _ | .str _ => nofun
  | .arr values => projectValues_keys values
  | .obj fields => projectFields_keys fields

theorem projectValues_keys : (values : List Json) →
    ∀ key ∈ Json.keysOfValues (projectValues values), isOpaqueOrForbiddenKey key = false
  | [] => nofun
  | value :: rest => fun key hkey =>
    (List.mem_append.mp hkey).elim (projection_keys value key) (projectValues_keys rest key)

theorem projectFields_keys : (fields : List (String × Json)) →
    ∀ key ∈ Json.keysOfFields (projectFields fields), isOpaqueOrForbiddenKey key = false
  | [] => nofun
  | (name, entry) :: rest => by
    intro key hkey
    rw [projectFields] at hkey
    split at hkey
    next => exact projectFields_keys rest key hkey
    next hname =>
      rcases List.mem_append.mp hkey with hfirst | hrest
      · rcases List.mem_cons.mp hfirst with rfl | hentry
        · exact Bool.not_eq_true _ ▸ hname
        · exact projection_keys entry key hentry
      · exact projectFields_keys rest key hrest

end

/-! ## 2. Leaders -/

variable {rt : Runtime} {cmp : α → α → Ordering} {project : α → Json} {l l' : List α} {a : α}

/-- Nothing in the list precedes `a`. -/
def isLeast (cmp : α → α → Ordering) (l : List α) (a : α) : Bool := l.all fun b => cmp a b ≠ .gt

theorem isLeast_perm (h : l.Perm l') (a : α) : isLeast cmp l a = isLeast cmp l' a := by
  rw [isLeast, isLeast, Bool.eq_iff_iff, List.all_eq_true, List.all_eq_true]
  exact forall_congr' fun b => by rw [h.mem_iff]

theorem leaders_perm [Std.TransCmp cmp] :
    (resolveDecisionTie rt l cmp project).leaders.Perm (l.filter (isLeast cmp l)) := by
  rw [resolveDecisionTie_leaders]
  cases hhead : (sortBy cmp l).head? with
  | none =>
    have hnil : sortBy cmp l = [] := List.head?_eq_none_iff.mp hhead
    have hempty : l = [] := List.Perm.nil_eq (hnil ▸ sortBy_perm cmp l) |>.symm
    rw [hempty]
    exact .nil
  | some first =>
    have hfilter : ∀ c ∈ sortBy cmp l, decide (cmp first c = .eq) = isLeast cmp l c := by
      intro c hc
      have hleaders : c ∈ (resolveDecisionTie rt l cmp project).leaders ↔
          c ∈ l ∧ ∀ b ∈ l, cmp c b ≠ .gt := mem_leaders
      rw [resolveDecisionTie_leaders, hhead] at hleaders
      have hleast : isLeast cmp l c = true ↔ ∀ b ∈ l, cmp c b ≠ .gt := by simp [isLeast]
      rw [Bool.eq_iff_iff, hleast, decide_eq_true_eq]
      simpa [mem_sortBy.mp hc, hc] using hleaders
    have hleaders : (sortBy cmp l).filter (fun c => cmp first c = .eq) =
        (sortBy cmp l).filter (isLeast cmp l) := List.filter_congr hfilter
    show ((sortBy cmp l).filter fun c => cmp first c = .eq).Perm _
    rw [hleaders]
    exact (sortBy_perm cmp l).filter _

theorem leaders_perm_of_perm [Std.TransCmp cmp] (h : l.Perm l') :
    (resolveDecisionTie rt l cmp project).leaders.Perm (resolveDecisionTie rt l' cmp project).leaders := by
  refine leaders_perm.trans (.trans ?_ leaders_perm.symm)
  have hleast : isLeast cmp l = isLeast cmp l' := funext (isLeast_perm h)
  rw [hleast]
  exact h.filter _

/-! ## 3. The representative -/

/-- How many of the candidates have no greater projection than `a`. -/
def presentedBefore (rt : Runtime) (project : α → Json) (leaders : List α) (a : α) : Nat :=
  leaders.countP fun b => (compareDecisionTieProjection rt (project b) (project a)).isLE

theorem presentedBefore_perm (h : l.Perm l') (a : α) :
    presentedBefore rt project l a = presentedBefore rt project l' a := h.countP_eq _

/-- In order, the first of two or more candidates is alone unless the second is presented alike. -/
theorem presentedBefore_eq_one {b : α} {rest : List α} (hsorted : (a :: b :: rest).Pairwise fun x y =>
      compareDecisionTieProjection rt (project x) (project y) ≠ .gt) {c : α}
    (hc : c ∈ a :: b :: rest) : presentedBefore rt project (a :: b :: rest) c = 1 ↔
      c = a ∧ compareDecisionTieProjection rt (project a) (project b) ≠ .eq := by
  obtain ⟨hfirst, htail⟩ := List.pairwise_cons.mp hsorted
  have hself : ∀ x, (compareDecisionTieProjection rt (project x) (project x)).isLE = true :=
    fun x => Std.ReflCmp.isLE_rfl
  have hle : ∀ x ∈ a :: b :: rest,
      (compareDecisionTieProjection rt (project a) (project x)).isLE = true := by
    intro x hx
    rcases List.mem_cons.mp hx with rfl | hx
    · exact hself x
    · exact ne_gt_iff_isLE.mp (hfirst x hx)
  unfold presentedBefore
  rw [List.countP_cons_of_pos (by exact hle c hc), Nat.add_eq_right, List.countP_eq_zero]
  constructor
  · intro hnone
    have hca : c = a := by
      rcases List.mem_cons.mp hc with hca | hc
      · exact hca
      · exact absurd (hself c) (hnone c hc)
    refine ⟨hca, fun heq => hnone b List.mem_cons_self ?_⟩
    rw [hca, Std.OrientedCmp.eq_symm heq]
    rfl
  · rintro ⟨rfl, hne⟩ x hx hxc
    -- the second candidate and all after it come strictly later
    have hlt : compareDecisionTieProjection rt (project c) (project b) = .lt := by
      cases hcmp : compareDecisionTieProjection rt (project c) (project b) with
      | lt => rfl
      | eq => exact absurd hcmp hne
      | gt => exact absurd hcmp (hfirst b List.mem_cons_self)
    have hbx : (compareDecisionTieProjection rt (project b) (project x)).isLE = true := by
      rcases List.mem_cons.mp hx with rfl | hx
      · exact hself x
      · exact ne_gt_iff_isLE.mp ((List.pairwise_cons.mp htail).1 x hx)
    have hgt := Std.OrientedCmp.gt_of_lt (Std.TransCmp.lt_of_lt_of_isLE hlt hbx)
    rw [hgt] at hxc
    exact nomatch hxc

/-- What is chosen of two or more leaders in the order of their projections. -/
theorem representative_iff [Std.TransCmp cmp] :
    (resolveDecisionTie rt l cmp project).presentationRepresentative = some a ↔
      a ∈ (resolveDecisionTie rt l cmp project).leaders ∧
        presentedBefore rt project (resolveDecisionTie rt l cmp project).leaders a = 1 := by
  unfold resolveDecisionTie
  cases sortBy cmp l with
  | nil => simp
  | cons first rest =>
    simp only
    generalize (first :: rest).filter (fun candidate => cmp first candidate = .eq) = leaders
    have := transCmp_comap (compareDecisionTieProjection rt) project
    have hsorted : (sortBy (fun left right => compareDecisionTieProjection rt (project left)
        (project right)) leaders).Pairwise fun left right =>
          compareDecisionTieProjection rt (project left) (project right) ≠ .gt :=
      pairwise_sortBy leaders
    have hperm := sortBy_perm (fun left right =>
      compareDecisionTieProjection rt (project left) (project right)) leaders
    split
    next presented next more hcons =>
      rw [hcons] at hsorted hperm
      simp only
      rw [← presentedBefore_perm hperm, ← hperm.mem_iff]
      constructor
      · intro h
        split at h
        · cases h
        next hdistinct =>
          obtain rfl := Option.some.inj h
          exact ⟨List.mem_cons_self,
            (presentedBefore_eq_one hsorted List.mem_cons_self).mpr ⟨rfl, hdistinct⟩⟩
      · rintro ⟨hmem, hone⟩
        obtain ⟨rfl, hdistinct⟩ := (presentedBefore_eq_one hsorted hmem).mp hone
        exact if_neg hdistinct
    next hshort =>
      simp only
      rcases leaders with _ | ⟨leader, _ | ⟨other, others⟩⟩
      · simp
      · have hself : (compareDecisionTieProjection rt (project leader) (project leader)).isLE = true :=
          Std.ReflCmp.isLE_rfl
        simp only [List.head?_cons, Option.some.injEq, List.mem_singleton]
        constructor
        · rintro rfl
          exact ⟨rfl, by simp [presentedBefore, hself]⟩
        · rintro ⟨rfl, -⟩
          rfl
      · -- two leaders stay two when they are sorted
        have hlength := hperm.length_eq
        rcases hcons : sortBy _ (leader :: other :: others) with _ | ⟨x, _ | ⟨y, more⟩⟩
        · rw [hcons] at hlength
          cases hlength
        · rw [hcons] at hlength
          simp at hlength
        · exact absurd hcons (hshort x y more)

theorem classification_iff [Std.TransCmp cmp] :
    (resolveDecisionTie rt l cmp project).classification = .decisionallyDistinct ↔
      (resolveDecisionTie rt l cmp project).leaders.length ≤ 1 := by
  unfold resolveDecisionTie
  cases sortBy cmp l with
  | nil => simp
  | cons first rest =>
    simp only
    generalize (first :: rest).filter (fun candidate => cmp first candidate = .eq) = leaders
    have hperm := sortBy_perm (fun left right =>
      compareDecisionTieProjection rt (project left) (project right)) leaders
    split
    next presented next more hcons =>
      have hlength := hperm.length_eq
      rw [hcons, List.length_cons, List.length_cons] at hlength
      simp only [reduceCtorEq, false_iff]
      omega
    next hshort =>
      simp only [true_iff]
      rw [← hperm.length_eq]
      rcases hcons : sortBy _ leaders with _ | ⟨x, _ | ⟨y, more⟩⟩
      · simp
      · simp
      · exact absurd hcons (hshort x y more)

/-! ## 4. Any order of arrival -/

/-- The leaders are the candidates that nothing precedes, the representative is the one of them with
the least projection. -/
structure TieLaw (rt : Runtime) (cmp : α → α → Ordering) (project : α → Json) (candidates : List α)
    (resolution : TieResolution α) : Prop where
  leaders : resolution.leaders.Perm (candidates.filter (isLeast cmp candidates))
  classification : resolution.classification = .decisionallyDistinct ↔
    resolution.leaders.length ≤ 1
  representative : ∀ candidate, resolution.presentationRepresentative = some candidate ↔
    candidate ∈ resolution.leaders ∧ presentedBefore rt project resolution.leaders candidate = 1

theorem decisionTie_order_free (rt : Runtime) (cmp : α → α → Ordering) [Std.TransCmp cmp]
    (project : α → Json) {candidates candidates' : List α} (h : candidates.Perm candidates') :
    TieLaw rt cmp project candidates (resolveDecisionTie rt candidates cmp project) ∧
      (resolveDecisionTie rt candidates' cmp project).leaders.Perm
        (resolveDecisionTie rt candidates cmp project).leaders ∧
      (resolveDecisionTie rt candidates' cmp project).presentationRepresentative =
        (resolveDecisionTie rt candidates cmp project).presentationRepresentative ∧
      ∀ limit : ℕ+,
        (takeDecisionTopWithBoundaryTies candidates limit cmp).Perm
          (candidates.filter fun candidate => better cmp candidates candidate < limit) ∧
        (takeDecisionTopWithBoundaryTies candidates' limit cmp).Perm
          (takeDecisionTopWithBoundaryTies candidates limit cmp) := by
  have hleaders : (resolveDecisionTie rt candidates' cmp project).leaders.Perm
      (resolveDecisionTie rt candidates cmp project).leaders := leaders_perm_of_perm h.symm
  have htop : ∀ l : List α, ∀ limit : ℕ+, (takeDecisionTopWithBoundaryTies l limit cmp).Perm
      (l.filter fun candidate => better cmp l candidate < limit) := by
    intro l limit
    rw [takeDecisionTopWithBoundaryTies, takeTop_eq_filter limit.pos (pairwise_sortBy l)]
    have hbetter : better cmp (sortBy cmp l) = better cmp l :=
      funext fun a => (sortBy_perm cmp l).countP_eq _
    rw [hbetter]
    exact (sortBy_perm cmp l).filter _
  refine ⟨⟨leaders_perm, classification_iff, fun candidate => representative_iff⟩, hleaders, ?_,
    fun limit => ⟨htop candidates limit, ?_⟩⟩
  · refine Option.ext fun candidate => ?_
    rw [representative_iff, representative_iff, presentedBefore_perm hleaders, hleaders.mem_iff]
  · have hbetter : better cmp candidates' = better cmp candidates :=
      funext fun a => h.symm.countP_eq _
    have hfilter := h.symm.filter fun candidate => better cmp candidates candidate < limit
    refine (htop candidates' limit).trans ?_
    rw [hbetter]
    exact hfilter.trans (htop candidates limit).symm

/-- Three candidates with a score and a name, the best two of which are tied. -/
def sampleCandidates : List (ℕ × String) := [(1, "b"), (0, "b"), (0, "a")]

theorem decisionTie_order_free_sample :
    let cmp : ℕ × String → ℕ × String → Ordering := compareOn Prod.fst
    let project : ℕ × String → Json := fun candidate => .str candidate.2
    (resolveDecisionTie plainRuntime sampleCandidates cmp project).presentationRepresentative =
        some (0, "a") ∧
      (resolveDecisionTie plainRuntime sampleCandidates.reverse cmp project).presentationRepresentative =
        some (0, "a") := by
  intro cmp project
  have hlaw := decisionTie_order_free plainRuntime cmp project
    (List.reverse_perm sampleCandidates).symm
  have hrepresentative : (resolveDecisionTie plainRuntime sampleCandidates cmp
      project).presentationRepresentative = some (0, "a") := by decide +kernel
  exact ⟨hrepresentative, hlaw.2.2.1.trans hrepresentative⟩

end SmartStay.Policy
