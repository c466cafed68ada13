import SmartStay.Ranking.Consistency

/-!
# What diversity costs

Each round of `diversifyCandidates` shows a candidate whose score is close to the best of those that may
still be shown. The bounds on a whole ranking follow from what one round does.

1. `Chosen`, `chosen_of_next`: one round.
2. `Rounds`, `selectionRounds_rounds`: all rounds.
3. `RoleHolder`, `mem_selectRoleAnchors`: who is selected before the rounds.
4. `diversity_bounds`, `unprotected_holder_comes_later`.
-/

namespace SmartStay.Ranking

open JsSort Precedence

variable {pf : Platform} {o : ResolvedOptions} {s : List StableCandidate}

/-! ## 1. One round -/

/-- The score in a ranking, `candidate.score ?? -1`. -/
def scoreOf (candidate : StableCandidate) : ℚ := candidate.score.getD (-1)

/-- The number of the selected with this near duplicate key. -/
def shownWith (selected : List StableCandidate) (key : Option String) : ℕ :=
  nearDuplicateCount (selected.map (·.toNormalizedCandidate)) key

/-- A property is not shown more often than the limit allows. -/
def Showable (o : ResolvedOptions) (selected : List StableCandidate) (candidate : StableCandidate) :
    Prop :=
  isPropertyDuplicate candidate.toNormalizedCandidate = true →
    shownWith selected candidate.nearDuplicateKey < o.maximumVisiblePerNearDuplicateGroup

/-- What a round chooses: a candidate that may be shown, within the sacrifice of all that may be. -/
structure Chosen (o : ResolvedOptions) (selected remaining : List StableCandidate)
    (candidate : StableCandidate) : Prop where
  mem : candidate ∈ remaining
  showable : Showable o selected candidate
  close : ∀ other ∈ remaining, Showable o selected other →
    scoreOf other - o.maximumDiversityScoreSacrifice ≤ scoreOf candidate

theorem mem_selectableRemaining {selected remaining : List StableCandidate} {c : StableCandidate} :
    c ∈ selectableRemaining o selected remaining ↔ c ∈ remaining ∧ Showable o selected c := by
  rw [selectableRemaining, List.mem_filter, Showable, shownWith]
  cases isPropertyDuplicate c.toNormalizedCandidate <;> simp

theorem mem_qualityWindow {l : List StableCandidate} {c : StableCandidate}
    (h : c ∈ qualityWindow o l) :
    c ∈ l ∧ ∀ other ∈ l, scoreOf other - o.maximumDiversityScoreSacrifice ≤ scoreOf c := by
  obtain ⟨hmem, hclose⟩ := List.mem_filter.mp h
  refine ⟨hmem, fun other hother => ?_⟩
  have hscore : scoreOf other ∈ l.map fun c => c.score.getD (-1) :=
    List.mem_map.mpr ⟨other, hother, rfl⟩
  cases hmax : (l.map fun c => c.score.getD (-1)).max? with
  | none =>
    rw [List.max?_eq_none_iff] at hmax
    exact absurd hscore (hmax ▸ List.not_mem_nil)
  | some highest =>
    rw [hmax, Option.getD_some, decide_eq_true_eq] at hclose
    have hle := (List.max?_eq_some_iff.mp hmax).2 _ hscore
    exact (sub_le_sub_right hle _).trans hclose

theorem candidate_of_calculateDiversitySelection {selected : List StableCandidate} {fallback : Bool}
    {c : StableCandidate} {selection : DiversitySelection}
    (h : calculateDiversitySelection pf o selected fallback c = some selection) :
    selection.candidate = c := by
  obtain ⟨score, -, rfl⟩ := Option.map_eq_some_iff.mp h
  rfl

/-- A selection out of a window has its candidate from there. -/
theorem candidate_mem_window {selected window : List StableCandidate} {fallback : Bool}
    {selection : DiversitySelection}
    (h : selection ∈ window.filterMap (calculateDiversitySelection pf o selected fallback)) :
    selection.candidate ∈ window := by
  obtain ⟨c, hc, hselection⟩ := List.mem_filterMap.mp h
  rwa [candidate_of_calculateDiversitySelection hselection]

theorem chosen_of_next {selected remaining : List StableCandidate} {next : DiversitySelection}
    (h : nextSelection pf o selected remaining = some next) :
    Chosen o selected remaining next.candidate := by
  have hwindow : next.candidate ∈ qualityWindow o (selectableRemaining o selected remaining) := by
    rw [nextSelection] at h
    split at h
    · obtain ⟨found, hfound, rfl⟩ := Option.map_eq_some_iff.mp h
      have hmem := candidate_mem_window (mem_sortBy.mp (List.mem_of_mem_head? hfound))
      exact hmem
    · exact candidate_mem_window (mem_sortBy.mp (List.mem_of_mem_head? h))
  obtain ⟨hmem, hclose⟩ := mem_qualityWindow hwindow
  obtain ⟨hremaining, hshowable⟩ := mem_selectableRemaining.mp hmem
  exact ⟨hremaining, hshowable, fun other hother hshow =>
    hclose other (mem_selectableRemaining.mpr ⟨hother, hshow⟩)⟩

/-! ## 2. All rounds -/

/-- Every candidate of `extra` is chosen after those before it, out of what is left of `remaining`. -/
def Rounds (o : ResolvedOptions) (selected remaining extra : List StableCandidate) : Prop :=
  ∀ front c back, extra = front ++ c :: back →
    Chosen o (selected ++ front)
      (remaining.filter fun other => other.hotelId ∉ front.map (·.hotelId)) c

theorem mem_eraseP_iff {remaining : List StableCandidate} (hids : DistinctIds remaining)
    {c next : StableCandidate} (hnext : next ∈ remaining) :
    c ∈ remaining.eraseP (fun other => other.hotelId = next.hotelId) ↔
      c ∈ remaining ∧ c.hotelId ≠ next.hotelId := by
  by_cases heq : c.hotelId = next.hotelId
  · refine iff_of_false (fun hmem => ?_) fun h => h.2 heq
    obtain ⟨first, before, after, hbefore, hfirst, hsplit, herase⟩ :=
      List.exists_of_eraseP (p := fun other : StableCandidate => decide (other.hotelId = next.hotelId))
        hnext (by simp)
    have hids' := hids
    rw [DistinctIds, hsplit] at hids'
    rw [herase] at hmem
    have hfirstid : first.hotelId = c.hotelId := (of_decide_eq_true hfirst).trans heq.symm
    simp only [List.map_append, List.map_cons, List.nodup_append, List.nodup_cons] at hids'
    rcases List.mem_append.mp hmem with hmem | hmem
    · exact hids'.2.2 _ (List.mem_map_of_mem hmem) _ List.mem_cons_self hfirstid.symm
    · exact hids'.2.1.1 (hfirstid ▸ List.mem_map_of_mem hmem)
  · rw [List.mem_eraseP_of_neg (by simpa using heq)]
    exact ⟨fun h => ⟨h, heq⟩, And.left⟩

theorem Chosen.congr {selected remaining remaining' : List StableCandidate} {c : StableCandidate}
    (h : Chosen o selected remaining c) (hmem : ∀ c, c ∈ remaining ↔ c ∈ remaining') :
    Chosen o selected remaining' c :=
  ⟨(hmem c).mp h.mem, h.showable, fun other hother => h.close other ((hmem other).mpr hother)⟩

/-- The rounds add candidates one by one. -/
theorem selectionRounds_rounds (pf : Platform) (o : ResolvedOptions) (slots : ℕ) (selected : List DiversitySelection)
    {remaining : List StableCandidate} (hids : DistinctIds remaining) :
    ∃ extra, (selectionRounds pf o slots selected remaining).map (·.candidate) =
      selected.map (·.candidate) ++ extra ∧ extra.length ≤ slots ∧
      Rounds o (selected.map (·.candidate)) remaining extra := by
  induction slots generalizing selected remaining with
  | zero => exact ⟨[], (List.append_nil _).symm, le_rfl, fun front _ _ h => by simp at h⟩
  | succ slots ih =>
    rw [selectionRounds]
    split
    next => exact ⟨[], (List.append_nil _).symm, Nat.zero_le _, fun front _ _ h => by simp at h⟩
    next next hnext =>
      have hchosen := chosen_of_next hnext
      have hids' : DistinctIds (remaining.eraseP fun c => c.hotelId = next.candidate.hotelId) :=
        hids.sublist (List.eraseP_sublist.map _)
      obtain ⟨extra, hextra, hlength, hrounds⟩ := ih (selected ++ [next]) hids'
      refine ⟨next.candidate :: extra, ?_, Nat.succ_le_succ hlength, ?_⟩
      · rw [hextra, List.map_append, List.append_assoc]
        rfl
      · intro front c back hsplit
        cases front with
        | nil =>
          obtain ⟨rfl, -⟩ := List.cons.inj hsplit
          rw [List.append_nil]
          exact hchosen.congr fun c => by simp
        | cons first front =>
          obtain ⟨rfl, htail⟩ := List.cons.inj hsplit
          have hlater := hrounds front c back htail
          rw [List.map_append, List.append_assoc] at hlater
          refine hlater.congr fun c => ?_
          simp only [List.mem_filter, mem_eraseP_iff hids hchosen.mem, List.map_cons, List.mem_cons,
            decide_eq_true_eq, not_or, and_assoc]

/-! ## 3. Role holders -/

theorem shownWith_some (selected : List StableCandidate) (key : String) :
    shownWith selected (some key) = (selected.filter fun c => c.nearDuplicateKey = some key).length := by
  rw [shownWith, nearDuplicateCount, countSelectedBy, if_neg (by simp), List.filter_map,
    List.length_map]
  rfl

/-- The first candidate with its primary role, with a key that no earlier role has used. -/
structure RoleHolder (o : ResolvedOptions) (s : List StableCandidate) (holder : StableCandidate) :
    Prop where
  primary : holder.source.recommendation.role ∈ primaryRoleOrder
  first : s.find? (fun c => c.roleAnchor &&
    c.source.recommendation.role = holder.source.recommendation.role) = some holder
  unused : ∀ key, holder.nearDuplicateKey = some key → ∀ anchor ∈ selectRoleAnchors o s,
    Before primaryRoleOrder anchor.source.recommendation.role holder.source.recommendation.role →
      anchor.nearDuplicateKey ≠ some key

theorem anchorsFrom_append (roles later : List RecommendationRole) (selected : List StableCandidate) :
    anchorsFrom s (roles ++ later) selected = anchorsFrom s later (anchorsFrom s roles selected) := by
  induction roles generalizing selected with
  | nil => rfl
  | cons role rest ih =>
    rw [List.cons_append, anchorsFrom, anchorsFrom]
    split <;> exact ih _

/-- What the first search finds is found by a narrower one. -/
theorem find?_of_imp {α : Type} {l : List α} {p q : α → Bool} {a : α} (h : l.find? p = some a)
    (himp : ∀ x, q x = true → p x = true) (ha : q a = true) : l.find? q = some a := by
  obtain ⟨-, before, after, rfl, hbefore⟩ := List.find?_eq_some_iff_append.mp h
  refine List.find?_eq_some_iff_append.mpr ⟨ha, before, after, rfl, fun x hx => ?_⟩
  cases hq : q x with
  | false => rfl
  | true =>
    have hno := hbefore x hx
    rw [himp x hq] at hno
    exact hno

/-- The loop takes the first candidate with the role, unless its key is used. -/
theorem anchorsFrom_holder {holder : StableCandidate} {role : RecommendationRole}
    {selected : List StableCandidate}
    (hfirst : s.find? (fun c => c.roleAnchor && c.source.recommendation.role = role) = some holder)
    (hunused : ∀ key, holder.nearDuplicateKey = some key →
      ∀ anchor ∈ selected, anchor.nearDuplicateKey ≠ some key) (later : List RecommendationRole) :
    anchorsFrom s (role :: later) selected = anchorsFrom s later (selected ++ [holder]) := by
  have hkey : holder.nearDuplicateKey.all
      (!(selected.filterMap (·.nearDuplicateKey)).contains ·) = true := by
    rw [Option.all_eq_true]
    intro key hkey
    simp only [Bool.not_eq_true', List.contains_eq_mem, decide_eq_false_iff_not, List.mem_filterMap,
      not_exists, not_and]
    exact hunused key hkey
  have hfind : s.find? (fun entry => entry.roleAnchor &&
      entry.source.recommendation.role = role && (entry.nearDuplicateKey.isNone ||
        entry.nearDuplicateKey.all (!(selected.filterMap (·.nearDuplicateKey)).contains ·))) =
      some holder := by
    refine find?_of_imp hfirst (fun entry hentry => (Bool.and_eq_true_iff.mp hentry).1) ?_
    have hrole := List.find?_some hfirst
    rw [Bool.and_eq_true, hkey, Bool.or_true]
    exact ⟨hrole, rfl⟩
  rw [anchorsFrom]
  simp only [hfind]

/-- With protected roles the holders are selected before the rounds. -/
theorem mem_selectRoleAnchors (hprotect : o.protectPrimaryRecommendationRoles = true)
    {holder : StableCandidate} (h : RoleHolder o s holder) : holder ∈ selectRoleAnchors o s := by
  obtain ⟨earlier, later, hroles⟩ := List.append_of_mem h.primary
  obtain ⟨selected, hselected, hearlier⟩ := @anchorsFrom_sublist s earlier []
  rw [List.nil_append] at hselected
  have hanchors : selectRoleAnchors o s =
      anchorsFrom s (holder.source.recommendation.role :: later) selected := by
    rw [← hselected, ← anchorsFrom_append, ← hroles]
    simp [selectRoleAnchors, hprotect]
  have hunused : ∀ key, holder.nearDuplicateKey = some key →
      ∀ anchor ∈ selected, anchor.nearDuplicateKey ≠ some key := by
    intro key hkey anchor hanchor
    refine h.unused key hkey anchor ?_ ?_
    · obtain ⟨tail, htail, -⟩ := @anchorsFrom_sublist s
        (holder.source.recommendation.role :: later) selected
      rw [hanchors, htail]
      exact List.mem_append_left _ hanchor
    · rw [Before, hroles]
      exact (List.singleton_sublist.mpr (hearlier anchor hanchor).2).append
        (List.singleton_sublist.mpr List.mem_cons_self)
  obtain ⟨tail, htail, -⟩ := @anchorsFrom_sublist s later (selected ++ [holder])
  rw [hanchors, anchorsFrom_holder h.first hunused, htail]
  simp

/-- No two of the selected have one key. -/
theorem keys_anchorsFrom {roles : List RecommendationRole} {selected : List StableCandidate}
    (h : (selected.filterMap (·.nearDuplicateKey)).Nodup) :
    ((anchorsFrom s roles selected).filterMap (·.nearDuplicateKey)).Nodup := by
  induction roles generalizing selected with
  | nil => exact h
  | cons role rest ih =>
    rw [anchorsFrom]
    split
    next => exact ih h
    next candidate hfind =>
      refine ih ?_
      have hcandidate := List.find?_some hfind
      simp only [Bool.and_eq_true] at hcandidate
      cases hkey : candidate.nearDuplicateKey with
      | none => simpa [hkey] using h
      | some key =>
        have hunused := hcandidate.2
        simp only [hkey, Option.isNone_some, Option.all_some, Bool.false_or, Bool.not_eq_true',
          List.contains_eq_mem, decide_eq_false_iff_not] at hunused
        rw [List.filterMap_append, List.nodup_append]
        refine ⟨h, by simp [hkey], fun k hk k' hk' => ?_⟩
        simp only [List.filterMap_cons, hkey, List.filterMap_nil, List.mem_singleton] at hk'
        subst hk'
        rintro rfl
        exact hunused hk

/-- A key is shown by one of the selected at most. -/
theorem shownWith_anchors (key : String) : shownWith (selectRoleAnchors o s) (some key) ≤ 1 := by
  have hnodup : ((selectRoleAnchors o s).filterMap (·.nearDuplicateKey)).Nodup := by
    rw [selectRoleAnchors]
    split
    · exact List.nodup_nil
    · exact keys_anchorsFrom List.nodup_nil
  rw [shownWith_some]
  have hcount := List.nodup_iff_count_le_one.mp hnodup key
  rw [List.count, List.countP_filterMap] at hcount
  refine le_trans (le_of_eq ?_) hcount
  rw [List.countP_eq_length_filter]
  congr 2
  funext c
  cases c.nearDuplicateKey <;> simp [beq_eq_decide]

/-! ## 4. The ranking -/

theorem shownWith_append (first second : List StableCandidate) (key : Option String) :
    shownWith (first ++ second) key = shownWith first key + shownWith second key := by
  cases key with
  | none => rfl
  | some key => rw [shownWith_some, shownWith_some, shownWith_some, List.filter_append,
      List.length_append]

/-- No property is shown too often: neither by the selected nor after any round. -/
theorem Rounds.shownWith_le {selected remaining extra : List StableCandidate}
    (h : Rounds o selected remaining extra) {key : String} (hproperty : "property:".isPrefixOf key)
    (hselected : shownWith selected (some key) ≤ o.maximumVisiblePerNearDuplicateGroup)
    {front back : List StableCandidate} (hsplit : extra = front ++ back) :
    shownWith (selected ++ front) (some key) ≤ o.maximumVisiblePerNearDuplicateGroup := by
  induction front using List.reverseRecOn generalizing back with
  | nil => rwa [List.append_nil]
  | append_singleton front c ih =>
    rw [List.append_assoc, List.singleton_append] at hsplit
    have hchosen := h front c back hsplit
    rw [← List.append_assoc, shownWith_append]
    by_cases hkey : c.nearDuplicateKey = some key
    · have hshow := hchosen.showable (by rw [isPropertyDuplicate, hkey]; exact hproperty)
      rw [hkey] at hshow
      have hone : shownWith [c] (some key) = 1 := by
        rw [shownWith_some, List.filter_cons_of_pos (by simpa using hkey)]
        rfl
      omega
    · have hzero : shownWith [c] (some key) = 0 := by
        rw [shownWith_some, List.filter_cons_of_neg (by simpa using hkey)]
        rfl
      have hle := ih hsplit
      omega

/-- The candidates in the order of their selection; the first ones are visible. -/
def picked (pf : Platform) (o : ResolvedOptions) (s : List StableCandidate) : List StableCandidate :=
  (diversifyCandidates pf o s).selected.map (·.candidate)

theorem visible_eq_take (pf : Platform) (o : ResolvedOptions) (s : List StableCandidate) :
    (diversifyCandidates pf o s).visible = (picked pf o s).take o.maximumVisibleResults := rfl

/-- The anchors, then the candidates of the rounds. -/
theorem picked_rounds (pf : Platform) (o : ResolvedOptions) (hids : DistinctIds s) :
    ∃ extra, picked pf o s = selectRoleAnchors o s ++ extra ∧ Rounds o (selectRoleAnchors o s)
      (s.filter fun c => c.hotelId ∉ (selectRoleAnchors o s).map (·.hotelId)) extra := by
  have hids' : DistinctIds (s.filter fun c =>
      c.hotelId ∉ (selectRoleAnchors o s).map (·.hotelId)) := hids.sublist (List.filter_sublist.map _)
  obtain ⟨extra, hextra, -, hrounds⟩ := selectionRounds_rounds pf o
    (min o.maximumVisibleResults s.length - (selectRoleAnchors o s).length)
    ((selectRoleAnchors o s).map fun c => ⟨c, 0, [], false⟩) hids'
  rw [List.map_map] at hextra hrounds
  have hself : (selectRoleAnchors o s).map
      ((·.candidate) ∘ fun c => (⟨c, 0, [], false⟩ : DiversitySelection)) = selectRoleAnchors o s :=
    List.map_id _
  rw [hself] at hextra hrounds
  exact ⟨extra, hextra, hrounds⟩

/-- What is shown: the anchors, then the candidates of the rounds, as long as there is room. -/
theorem diversifyCandidates_visible (pf : Platform) (o : ResolvedOptions) (hids : DistinctIds s) :
    ∃ extra, (diversifyCandidates pf o s).visible =
      (selectRoleAnchors o s ++ extra).take o.maximumVisibleResults ∧
      Rounds o (selectRoleAnchors o s)
        (s.filter fun c => c.hotelId ∉ (selectRoleAnchors o s).map (·.hotelId)) extra := by
  obtain ⟨extra, hpicked, hrounds⟩ := picked_rounds pf o hids
  exact ⟨extra, by rw [visible_eq_take, hpicked], hrounds⟩

theorem anchor_mem {c : StableCandidate} (h : c ∈ selectRoleAnchors o s) : c ∈ s := by
  rw [selectRoleAnchors] at h
  split at h
  · exact absurd h List.not_mem_nil
  · obtain ⟨tail, htail, hmem⟩ := @anchorsFrom_sublist s primaryRoleOrder []
    rw [htail, List.nil_append] at h
    exact (hmem c h).1

/-- An anchor comes before everything that is shown and is no anchor. -/
theorem before_take {α : Type} {anchors extra : List α} {n : ℕ} {a v : α} (ha : a ∈ anchors)
    (hv : v ∈ (anchors ++ extra).take n) (hnot : v ∉ anchors) :
    Before ((anchors ++ extra).take n) a v := by
  rw [List.take_append] at hv ⊢
  have hextra : v ∈ extra.take (n - anchors.length) :=
    (List.mem_append.mp hv).resolve_left fun h => hnot (List.mem_of_mem_take h)
  have hroom : anchors.length ≤ n := by
    by_contra hlt
    rw [Nat.sub_eq_zero_of_le (Nat.le_of_not_le hlt), List.take_zero] at hextra
    exact List.not_mem_nil hextra
  rw [List.take_of_length_le hroom]
  exact (List.singleton_sublist.mpr ha).append (List.singleton_sublist.mpr hextra)

theorem mem_of_picked (hids : DistinctIds s) {c : StableCandidate} (h : c ∈ picked pf o s) :
    c ∈ s := by
  obtain ⟨extra, hpicked, hrounds⟩ := picked_rounds pf o hids
  rw [hpicked] at h
  rcases List.mem_append.mp h with h | h
  · exact anchor_mem h
  · obtain ⟨front, back, hsplit⟩ := List.append_of_mem h
    exact (List.mem_filter.mp (List.mem_filter.mp (hrounds front c back hsplit).mem).1).1

theorem visible_mem (hids : DistinctIds s) {c : StableCandidate}
    (h : c ∈ (diversifyCandidates pf o s).visible) : c ∈ s :=
  mem_of_picked hids (List.mem_of_mem_take (visible_eq_take pf o s ▸ h))

/-- No property is shown more often than the limit allows. -/
theorem visible_limit (hids : DistinctIds s) (hlimit : 1 ≤ o.maximumVisiblePerNearDuplicateGroup)
    {key : String} (hproperty : "property:".isPrefixOf key) :
    shownWith (diversifyCandidates pf o s).visible (some key) ≤
      o.maximumVisiblePerNearDuplicateGroup := by
  obtain ⟨extra, hvisible, hrounds⟩ := diversifyCandidates_visible pf o hids
  have hall := hrounds.shownWith_le hproperty ((shownWith_anchors key).trans hlimit)
    (List.append_nil extra).symm
  have htake := List.take_append_drop o.maximumVisibleResults (selectRoleAnchors o s ++ extra)
  rw [← htake, shownWith_append] at hall
  rw [hvisible]
  omega

/-- What is shown for diversity is close to all that could have been shown in its place. -/
theorem visible_close (hids : DistinctIds s) {front back : List StableCandidate} {c : StableCandidate}
    (hsplit : (diversifyCandidates pf o s).visible = front ++ c :: back)
    (hc : c ∉ selectRoleAnchors o s) {other : StableCandidate} (hother : other ∈ s)
    (hfront : other ∉ front) (hshow : Showable o front other) :
    scoreOf other - o.maximumDiversityScoreSacrifice ≤ scoreOf c := by
  obtain ⟨extra, hvisible, hrounds⟩ := diversifyCandidates_visible pf o hids
  have hall : front ++ c :: (back ++ (selectRoleAnchors o s ++ extra).drop o.maximumVisibleResults) =
      selectRoleAnchors o s ++ extra := by
    rw [← List.cons_append, ← List.append_assoc, ← hsplit, hvisible, List.take_append_drop]
  -- the anchors come first, so `c` is out of a round
  obtain ⟨shown, hfrontsplit, hextra⟩ : ∃ shown, front = selectRoleAnchors o s ++ shown ∧
      extra = shown ++ c :: (back ++ (selectRoleAnchors o s ++ extra).drop o.maximumVisibleResults) := by
    rcases List.append_eq_append_iff.mp hall with ⟨rest, hanchors, hrest⟩ | ⟨shown, hshown, hextra⟩
    · cases rest with
      | nil =>
        rw [List.append_nil] at hanchors
        exact ⟨[], by rw [hanchors, List.append_nil], hrest.symm⟩
      | cons first rest =>
        obtain ⟨rfl, -⟩ := List.cons.inj hrest
        exact absurd (hanchors ▸ List.mem_append_right _ List.mem_cons_self) hc
    · exact ⟨shown, hshown, hextra⟩
  have hchosen := hrounds shown c _ hextra
  rw [← hfrontsplit] at hchosen
  refine hchosen.close other ?_ hshow
  have hidfront : ∀ shown ∈ front, shown ∈ s → other.hotelId ≠ shown.hotelId := fun shown hmem hs heq =>
    hfront (hids.inj hother hs heq ▸ hmem)
  simp only [List.mem_filter, decide_eq_true_eq, List.mem_map, not_exists, not_and]
  have hfronts : ∀ shown ∈ front, shown ∈ s := fun shown hmem =>
    visible_mem hids (hsplit ▸ List.mem_append_left _ hmem)
  refine ⟨⟨hother, fun anchor hanchor heq => ?_⟩, fun shown' hshown heq => ?_⟩
  · have hmem : anchor ∈ front := hfrontsplit ▸ List.mem_append_left _ hanchor
    exact hidfront anchor hmem (hfronts anchor hmem) heq.symm
  · have hmem : shown' ∈ front := hfrontsplit ▸ List.mem_append_right _ hshown
    exact hidfront shown' hmem (hfronts shown' hmem) heq.symm

/-- A holder comes before everything else that is shown. -/
theorem holder_before_visible (hids : DistinctIds s)
    (hprotect : o.protectPrimaryRecommendationRoles = true) {holder c : StableCandidate}
    (hholder : RoleHolder o s holder) (hc : c ∈ (diversifyCandidates pf o s).visible)
    (hnot : c ∉ selectRoleAnchors o s) : Before (diversifyCandidates pf o s).visible holder c := by
  obtain ⟨extra, hvisible, -⟩ := diversifyCandidates_visible pf o hids
  rw [hvisible] at hc ⊢
  exact before_take (mem_selectRoleAnchors hprotect hholder) hc hnot

/-- With room for all anchors a holder is shown. -/
theorem holder_visible (hids : DistinctIds s) (hprotect : o.protectPrimaryRecommendationRoles = true)
    (hroom : (selectRoleAnchors o s).length ≤ o.maximumVisibleResults) {holder : StableCandidate}
    (hholder : RoleHolder o s holder) : holder ∈ (diversifyCandidates pf o s).visible := by
  obtain ⟨extra, hvisible, -⟩ := diversifyCandidates_visible pf o hids
  rw [hvisible, List.take_append, List.take_of_length_le hroom]
  exact List.mem_append_left _ (mem_selectRoleAnchors hprotect hholder)

/-- The candidates that a ranking stabilizes and then diversifies. -/
def stableCandidatesOf (pf : Platform) (input : RankingInput) (options : RankingOptions) :
    List StableCandidate :=
  createStableCandidates (resolveOptions options)
    ((sortBy compareBaseCandidates (input.candidates.map (normalizeCandidate pf))).filter (·.eligible))
    (input.previousRankingHotelIds.map JsText.trim)

/-- The candidates whose roles are protected. -/
def roleAnchorsOf (pf : Platform) (input : RankingInput) (options : RankingOptions) :
    List StableCandidate :=
  selectRoleAnchors (resolveOptions options) (stableCandidatesOf pf input options)

theorem distinctIds_of_accepted {input : RankingInput} (h : Accepted input) (options : RankingOptions) :
    DistinctIds (stableCandidatesOf pf input options) := by
  have hperm := (stableCandidates_perm (resolveOptions options)
    ((sortBy compareBaseCandidates (input.candidates.map (normalizeCandidate pf))).filter (·.eligible))
    (input.previousRankingHotelIds.map JsText.trim)).map (·.hotelId)
  rw [List.map_map] at hperm
  refine hperm.nodup_iff.mpr ?_
  have hall : ((sortBy compareBaseCandidates
      (input.candidates.map (normalizeCandidate pf))).map (·.hotelId)).Nodup := by
    refine ((sortBy_perm _ _).map _).nodup_iff.mpr ?_
    rw [List.map_map]
    exact h.nodup
  exact hall.sublist (List.filter_sublist.map _)

theorem one_le_limit (options : RankingOptions) :
    1 ≤ (resolveOptions options).maximumVisiblePerNearDuplicateGroup := by
  change 1 ≤ normalizePositiveInteger options.maximumVisiblePerNearDuplicateGroup 1 20
  cases options.maximumVisiblePerNearDuplicateGroup with
  | none => exact le_rfl
  | some value =>
    rw [normalizePositiveInteger]
    omega

/-- The bounds of a ranking: no property is shown too often; where roles are protected, a holder comes
before all others that are shown and, when there is room for all anchors, before every other hotel of
the ranking; and no candidate that is shown for diversity is worse by more than the sacrifice than one
that could have been shown in its place. -/
theorem diversity_bounds {pf : Platform} {input : RankingInput} {options : RankingOptions}
    {ranking : RankingEvaluation}
    (h : evaluateRankingStabilityDiversityV2 pf input options = .ok ranking) :
    ∃ visible : List StableCandidate, ranking.visibleHotelIds = visible.map (·.hotelId) ∧
      (∀ c ∈ visible, c ∈ stableCandidatesOf pf input options) ∧
      (∀ key, "property:".isPrefixOf key → shownWith visible (some key) ≤
        (resolveOptions options).maximumVisiblePerNearDuplicateGroup) ∧
      ((resolveOptions options).protectPrimaryRecommendationRoles = true → ∀ holder,
        RoleHolder (resolveOptions options) (stableCandidatesOf pf input options) holder →
          (∀ c ∈ visible, c ∉ roleAnchorsOf pf input options → Before visible holder c) ∧
          ((roleAnchorsOf pf input options).length ≤ (resolveOptions options).maximumVisibleResults →
            ∀ id ∈ ranking.diversifiedRankingHotelIds,
              id ∉ (roleAnchorsOf pf input options).map (·.hotelId) →
              Before ranking.diversifiedRankingHotelIds holder.hotelId id)) ∧
      ∀ front c back, visible = front ++ c :: back → c ∉ roleAnchorsOf pf input options →
        ∀ other ∈ stableCandidatesOf pf input options, other ∉ front →
          Showable (resolveOptions options) front other →
          scoreOf other - (resolveOptions options).maximumDiversityScoreSacrifice ≤ scoreOf c := by
  obtain ⟨⟨⟩, hvalid, hranking⟩ := Fallible.bind_ok.mp h
  obtain rfl := Except.ok.inj hranking
  have hids : DistinctIds (stableCandidatesOf pf input options) :=
    distinctIds_of_accepted (validateInput_ok.mp hvalid) options
  refine ⟨(diversifyCandidates pf (resolveOptions options)
    (stableCandidatesOf pf input options)).visible, rfl, fun c => visible_mem hids,
    fun key hproperty => visible_limit hids (one_le_limit options) hproperty,
    fun hprotect holder hholder => ⟨fun c hc hnot =>
      holder_before_visible hids hprotect hholder hc hnot, fun hroom id hid hnot => ?_⟩,
    fun front c back hsplit hc other hother hfront hshow =>
      visible_close hids hsplit hc hother hfront hshow⟩
  have hranked : (createRanking pf (resolveOptions options)
      (sortBy compareBaseCandidates (input.candidates.map (normalizeCandidate pf)))
      (input.previousRankingHotelIds.map JsText.trim)).diversifiedRankingHotelIds =
      ((diversifyCandidates pf (resolveOptions options)
        (stableCandidatesOf pf input options)).visible ++
      (diversifyCandidates pf (resolveOptions options)
        (stableCandidatesOf pf input options)).additional).map (·.hotelId) ++
      ((sortBy compareBaseCandidates (input.candidates.map (normalizeCandidate pf))).filter
        (!·.eligible)).map (·.hotelId) := rfl
  rw [hranked, List.map_append, List.append_assoc] at hid ⊢
  rcases List.mem_append.mp hid with hshown | hlater
  · obtain ⟨c, hc, rfl⟩ := List.mem_map.mp hshown
    have hbefore := holder_before_visible hids hprotect hholder hc fun hanchor =>
      hnot (List.mem_map_of_mem hanchor)
    exact (hbefore.map (·.hotelId)).sublist (List.sublist_append_left _ _)
  · have hshown : holder.hotelId ∈ (diversifyCandidates pf (resolveOptions options)
        (stableCandidatesOf pf input options)).visible.map (·.hotelId) :=
      List.mem_map_of_mem (holder_visible hids hprotect hroom hholder)
    exact (List.singleton_sublist.mpr hshown).append (List.singleton_sublist.mpr hlater)

/-- Texts are left as they are, and all costs are in one band. -/
def samplePlatform : Platform where
  toLowerCase := id
  toUpperCase := id
  log _ := 0

/-- An eligible candidate with this role and score. -/
def sampleCandidate (hotelId : String) (role : RecommendationRole) (score : ℚ) : Candidate where
  hotelId := hotelId
  eligibleForRanking := true
  recommendation :=
    { hotelId
      role
      primaryInGroup := true
      smartScore := some score
      metricsUtilityScore := none }
  utility :=
    { hotelId
      status := .usable
      eligibleForPrimaryRanking := true
      preference := ⟨.balanced, fun _ => none⟩
      utilityScore := some score
      contributions := []
      scoreConfidence := some 1
      evidenceCoverage := some 1 }
  accommodation := ⟨.hotel, .unknown, []⟩
  risk := ⟨some 0, .low, []⟩

def sampleInput : RankingInput where
  candidates := [sampleCandidate "a" .unassigned 80, sampleCandidate "b" .bestChoice 78]

theorem accepted_sampleInput : validateInput sampleInput = .ok () := by decide +kernel

theorem diversity_bounds_sample : ∃ ranking visible,
    evaluateRankingStabilityDiversityV2 samplePlatform sampleInput {} = .ok ranking ∧
      ranking.visibleHotelIds = List.map (·.hotelId) (visible : List StableCandidate) ∧
      ∀ key, "property:".isPrefixOf key → shownWith visible (some key) ≤
        (resolveOptions {}).maximumVisiblePerNearDuplicateGroup := by
  have hok : ∃ ranking, evaluateRankingStabilityDiversityV2 samplePlatform sampleInput {} =
      .ok ranking := by
    rw [evaluateRankingStabilityDiversityV2, accepted_sampleInput]
    exact ⟨_, rfl⟩
  obtain ⟨ranking, hranking⟩ := hok
  obtain ⟨visible, hvisible, -, hlimit, -⟩ := diversity_bounds hranking
  exact ⟨ranking, visible, hranking, hvisible, hlimit⟩

/-- No role is protected. -/
def unprotected : RankingOptions := { protectPrimaryRecommendationRoles := some false }

/-- Without protection a hotel with a better score is shown before the holder of a role. -/
theorem unprotected_holder_comes_later : ∃ ranking holder,
    evaluateRankingStabilityDiversityV2 samplePlatform sampleInput unprotected = .ok ranking ∧
      RoleHolder (resolveOptions unprotected)
        (stableCandidatesOf samplePlatform sampleInput unprotected) holder ∧
      holder.hotelId = "b" ∧ ranking.visibleHotelIds = ["a", "b"] ∧
      "a" ∉ (roleAnchorsOf samplePlatform sampleInput unprotected).map (·.hotelId) := by
  have hfind : ((stableCandidatesOf samplePlatform sampleInput unprotected).find? fun c =>
      c.roleAnchor && c.source.recommendation.role = .bestChoice).map
        (fun c => (c.hotelId, c.source.recommendation.role)) = some ("b", .bestChoice) := by
    decide +kernel
  obtain ⟨holder, hholder, hsame⟩ := Option.map_eq_some_iff.mp hfind
  obtain ⟨hid, hrole⟩ := Prod.mk.inj hsame
  have hvisible : (createRanking samplePlatform (resolveOptions unprotected)
      (sortBy compareBaseCandidates (sampleInput.candidates.map (normalizeCandidate samplePlatform)))
      (sampleInput.previousRankingHotelIds.map JsText.trim)).visibleHotelIds = ["a", "b"] := by
    decide +kernel
  refine ⟨_, holder, ?_, ⟨?_, ?_, fun _ _ anchor hanchor => ?_⟩, hid, hvisible, ?_⟩
  · rw [evaluateRankingStabilityDiversityV2, accepted_sampleInput]
    rfl
  · rw [hrole]
    decide
  · rw [hrole]
    exact hholder
  · exact absurd hanchor List.not_mem_nil
  · exact List.not_mem_nil

end SmartStay.Ranking
