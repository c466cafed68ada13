import SmartStay.Contract.StableHash
import SmartStay.Lib.TopSet
import Mathlib.Data.PNat.Basic

/-!
# Decision ties

`engine-v3/decision/decisionTieProjectionV3.ts`: the best candidates for a comparator and,
among several, one that their identity-free projections single out.

1. `compareDecisionTieProjection`, `resolveDecisionTie`, `takeDecisionTopWithBoundaryTies`.
2. `mem_leaders`: the leaders are the candidates that nothing precedes.
3. `resolveDecisionTie_map`: resolving after a map that the comparisons do not see.
-/

namespace SmartStay.Policy

open Contract JsSort

variable {α β : Type}

/-! ## 1. Resolution -/

/-- `StayOptiDecisionTieClassificationV3`. -/
inductive TieClassification
  | decisionallyDistinct | decisionallyEquivalent
deriving DecidableEq, Repr

def TieClassification.text : TieClassification → String
  | .decisionallyDistinct => "DECISIONALLY_DISTINCT"
  | .decisionallyEquivalent => "DECISIONALLY_EQUIVALENT"

structure TieResolution (α : Type) where
  ordered : List α
  leaders : List α
  classification : TieClassification
  presentationRepresentative : Option α

def compareDecisionTieProjection (rt : Runtime) (first second : Json) : Ordering :=
  compare (JsText.utf16 (stableSerialize rt first)) (JsText.utf16 (stableSerialize rt second))

def resolveDecisionTie (rt : Runtime) (candidates : List α) (compareDecision : α → α → Ordering)
    (projectForPresentation : α → Json) : TieResolution α :=
  let ordered := sortBy compareDecision candidates
  match ordered with
  | [] => ⟨[], [], .decisionallyDistinct, none⟩
  | first :: _ =>
    let leaders := ordered.filter fun candidate => compareDecision first candidate = .eq
    match sortBy (fun left right => compareDecisionTieProjection rt (projectForPresentation left)
        (projectForPresentation right)) leaders with
    | presented :: next :: _ =>
      let tied := compareDecisionTieProjection rt (projectForPresentation presented)
        (projectForPresentation next) = .eq
      ⟨ordered, leaders, .decisionallyEquivalent, if tied then none else some presented⟩
    -- a single leader
    | _ => ⟨ordered, leaders, .decisionallyDistinct, leaders.head?⟩

/-- A limit that is no positive integer is refused. -/
def takeDecisionTopWithBoundaryTies (candidates : List α) (limit : ℕ+)
    (compareDecision : α → α → Ordering) : List α :=
  takeTop compareDecision limit (sortBy compareDecision candidates)

instance transCmp_projection (rt : Runtime) : Std.TransCmp (compareDecisionTieProjection rt) :=
  inferInstanceAs (Std.TransCmp (compareOn fun json => JsText.utf16 (stableSerialize rt json)))

/-! ## 2. Leaders -/

variable {rt : Runtime} {cmp : α → α → Ordering} {project : α → Json} {l : List α} {a b : α}

theorem resolveDecisionTie_leaders : (resolveDecisionTie rt l cmp project).leaders =
    match (sortBy cmp l).head? with
    | none => []
    | some first => (sortBy cmp l).filter fun candidate => cmp first candidate = .eq := by
  simp only [resolveDecisionTie]
  cases hordered : sortBy cmp l with
  | nil => rfl
  | cons first rest =>
    simp only [List.head?_cons]
    split <;> rfl

/-- The leaders are the candidates that nothing precedes. -/
theorem mem_leaders [Std.TransCmp cmp] :
    a ∈ (resolveDecisionTie rt l cmp project).leaders ↔ a ∈ l ∧ ∀ b ∈ l, cmp a b ≠ .gt := by
  rw [resolveDecisionTie_leaders]
  cases hhead : (sortBy cmp l).head? with
  | none =>
    have hnil : sortBy cmp l = [] := List.head?_eq_none_iff.mp hhead
    have hempty : a ∉ l := fun ha => by
      have hsorted : a ∈ sortBy cmp l := mem_sortBy.mpr ha
      simp [hnil] at hsorted
    simp [hempty]
  | some first =>
    have hfirst : first ∈ l := mem_sortBy.mp (List.mem_of_mem_head? hhead)
    simp only [List.mem_filter, mem_sortBy, decide_eq_true_eq]
    refine and_congr_right fun ha => ⟨fun heq b hb => ?_, fun hmin => ?_⟩
    · have hle := head_sortBy_le hhead hb
      have heq' : cmp a first = .eq := Std.OrientedCmp.eq_symm heq
      rw [ne_gt_iff_isLE] at hle ⊢
      exact Std.TransCmp.isLE_trans (by simp [heq']) hle
    · have hle := head_sortBy_le hhead ha
      have hge := hmin first hfirst
      have hswap : cmp a first = (cmp first a).swap := Std.OrientedCmp.eq_swap
      cases hcmp : cmp first a with
      | lt => simp [hswap, hcmp] at hge
      | eq => rfl
      | gt => exact absurd hcmp hle

theorem leaders_ne_nil [Std.TransCmp cmp] (h : l ≠ []) :
    (resolveDecisionTie rt l cmp project).leaders ≠ [] := by
  obtain ⟨first, hfirst⟩ := exists_head_sortBy cmp h
  have hmem : first ∈ (resolveDecisionTie rt l cmp project).leaders :=
    mem_leaders.mpr ⟨mem_sortBy.mp (List.mem_of_mem_head? hfirst), fun b => head_sortBy_le hfirst⟩
  exact List.ne_nil_of_mem hmem

/-- The representative is a leader; without a tie it is the only one. -/
theorem representative_spec :
    (∀ a, (resolveDecisionTie rt l cmp project).presentationRepresentative = some a →
      a ∈ (resolveDecisionTie rt l cmp project).leaders) ∧
    ((resolveDecisionTie rt l cmp project).classification = .decisionallyDistinct →
      (resolveDecisionTie rt l cmp project).presentationRepresentative =
        (resolveDecisionTie rt l cmp project).leaders.head?) := by
  simp only [resolveDecisionTie]
  split
  · exact ⟨by simp, by simp⟩
  · split
    · next presented next rest hsorted =>
      refine ⟨fun a ha => ?_, by simp⟩
      simp only at ha
      split at ha
      · cases ha
      · cases ha
        exact mem_sortBy.mp (hsorted ▸ List.mem_cons_self)
    · exact ⟨fun a ha => List.mem_of_mem_head? ha, fun _ => rfl⟩

/-! ## 3. Renaming -/

def TieResolution.map (f : α → β) (r : TieResolution α) : TieResolution β :=
  ⟨r.ordered.map f, r.leaders.map f, r.classification, r.presentationRepresentative.map f⟩

theorem resolveDecisionTie_map {cmp' : β → β → Ordering} {project' : β → Json} {f : α → β}
    (hcmp : ∀ a ∈ l, ∀ b ∈ l, cmp' (f a) (f b) = cmp a b)
    (hproject : ∀ a ∈ l, project' (f a) = project a) :
    resolveDecisionTie rt (l.map f) cmp' project' = (resolveDecisionTie rt l cmp project).map f := by
  simp only [resolveDecisionTie, sortBy_map hcmp]
  cases hordered : sortBy cmp l with
  | nil => rfl
  | cons first rest =>
    have hsub : ∀ a ∈ first :: rest, a ∈ l := fun a ha => mem_sortBy.mp (hordered ▸ ha)
    have hleaders : ((first :: rest).map f).filter (fun candidate => cmp' (f first) candidate = .eq) =
        ((first :: rest).filter fun candidate => cmp first candidate = .eq).map f := by
      rw [List.filter_map]
      refine congrArg (List.map f) (List.filter_congr fun a ha => ?_)
      simp [hcmp first (hsub first List.mem_cons_self) a (hsub a ha)]
    simp only [List.map_cons] at hleaders ⊢
    rw [hleaders]
    generalize hgen : (first :: rest).filter (fun candidate => cmp first candidate = .eq) = leaders
    have hmem : ∀ a ∈ leaders, a ∈ l := fun a ha =>
      hsub a (List.mem_filter.mp (hgen ▸ ha)).1
    rw [sortBy_map fun a ha b hb => by rw [hproject a (hmem a ha), hproject b (hmem b hb)]]
    cases hsorted : sortBy (fun left right => compareDecisionTieProjection rt (project left)
        (project right)) leaders with
    | nil => simp [TieResolution.map, List.head?_map]
    | cons presented more =>
      cases more with
      | nil => simp [TieResolution.map, List.head?_map]
      | cons next more =>
        have hin : ∀ a ∈ presented :: next :: more, a ∈ l := fun a ha =>
          hmem a (mem_sortBy.mp (hsorted ▸ ha))
        simp only [List.map_cons, TieResolution.map, hproject presented (hin _ (by simp)),
          hproject next (hin _ (by simp))]
        split <;> rfl

end SmartStay.Policy
