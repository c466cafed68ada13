import Mathlib.Data.List.Find
import Mathlib.Data.List.Pairwise
import Mathlib.Data.List.Sort
import Mathlib.Order.Compare

/-!
# Sorting by a comparator

`values.sort(comparator)` of JavaScript keeps the order of values that compare equal.

1. `sortBy`, its elements, its order for a transitive comparator, and which value comes first.
2. `sortBy_map`, `sortBy_eq_of_perm`, `pair_sublist_sortBy`: sorting after a map, sorting a
   permutation, and stability.
-/

namespace JsSort

variable {α β : Type} {cmp : α → α → Ordering} {l l' : List α} {a b : α}

/-! ## 1. Sorting -/

/-- `values.sort(comparator)`. -/
def sortBy (comparator : α → α → Ordering) (values : List α) : List α :=
  values.insertionSort fun first second => comparator first second ≠ .gt

theorem sortBy_perm (cmp : α → α → Ordering) (l : List α) : (sortBy cmp l).Perm l :=
  List.perm_insertionSort _ _

@[simp] theorem mem_sortBy : a ∈ sortBy cmp l ↔ a ∈ l :=
  (sortBy_perm cmp l).mem_iff

theorem ne_gt_iff_isLE {o : Ordering} : o ≠ .gt ↔ o.isLE = true := by
  cases o <;> simp

instance total_of_transCmp [Std.TransCmp cmp] : Std.Total fun a b => cmp a b ≠ .gt where
  total a b := by
    have hswap : cmp b a = (cmp a b).swap := Std.OrientedCmp.eq_swap
    rw [hswap]
    cases cmp a b <;> simp

instance isTrans_of_transCmp [Std.TransCmp cmp] : IsTrans α fun a b => cmp a b ≠ .gt where
  trans a b c hab hbc := by
    rw [ne_gt_iff_isLE] at hab hbc ⊢
    exact Std.TransCmp.isLE_trans hab hbc

theorem compareLex_ne_gt {cmp' : α → α → Ordering} :
    compareLex cmp cmp' a b ≠ .gt ↔ cmp a b ≠ .gt ∧ (cmp a b = .eq → cmp' a b ≠ .gt) := by
  rw [compareLex]
  cases cmp a b <;> simp

/-- An order of keys is an order of what has them. -/
theorem transCmp_comap (cmp : α → α → Ordering) [Std.TransCmp cmp] (f : β → α) :
    Std.TransCmp fun b b' => cmp (f b) (f b') where
  eq_swap := Std.OrientedCmp.eq_swap
  isLE_trans hab hbc := Std.TransCmp.isLE_trans hab hbc

theorem transCmp_flip (cmp : α → α → Ordering) [Std.TransCmp cmp] :
    Std.TransCmp fun a b => cmp b a where
  eq_swap := Std.OrientedCmp.eq_swap
  isLE_trans hab hbc := Std.TransCmp.isLE_trans hbc hab

theorem pairwise_sortBy [Std.TransCmp cmp] (l : List α) :
    (sortBy cmp l).Pairwise fun a b => cmp a b ≠ .gt :=
  List.pairwise_insertionSort _ _

/-- The order of the comparator's first test holds of the sorted values, whatever decides its
    ties. -/
theorem pairwise_sortBy_of {r : α → α → Prop} [IsTrans α r] (hle : ∀ a b, cmp a b ≠ .gt → r a b)
    (hgt : ∀ a b, cmp a b = .gt → r b a) (l : List α) : (sortBy cmp l).Pairwise r := by
  induction l with
  | nil => exact .nil
  | cons a l ih =>
    rw [sortBy, List.insertionSort_cons]
    show (List.orderedInsert _ a (sortBy cmp l)).Pairwise r
    generalize sortBy cmp l = sorted at ih
    induction sorted with
    | nil => exact List.pairwise_singleton _ _
    | cons b sorted ih' =>
      rw [List.pairwise_cons] at ih
      rw [List.orderedInsert_cons]
      split
      · next h =>
        refine List.pairwise_cons.mpr ⟨?_, List.pairwise_cons.mpr ih⟩
        intro c hc
        rcases List.mem_cons.mp hc with rfl | hc
        · exact hle _ _ h
        · exact IsTrans.trans _ _ _ (hle _ _ h) (ih.1 c hc)
      · next h =>
        refine List.pairwise_cons.mpr ⟨?_, ih' ih.2⟩
        intro c hc
        rcases (List.mem_orderedInsert _).mp hc with rfl | hc
        · exact hgt _ _ (not_not.mp h)
        · exact ih.1 c hc

/-- The first of the sorted values comes before none of the others. -/
theorem head_sortBy_le [Std.TransCmp cmp] (ha : (sortBy cmp l).head? = some a) (hb : b ∈ l) :
    cmp a b ≠ .gt := by
  obtain ⟨rest, hrest⟩ := List.head?_eq_some_iff.mp ha
  have hpairwise : (sortBy cmp l).Pairwise _ := pairwise_sortBy l
  rw [hrest, List.pairwise_cons] at hpairwise
  rcases List.mem_cons.mp (hrest ▸ mem_sortBy.mpr hb) with rfl | hb
  · have hself : cmp b b = .eq := Std.ReflCmp.compare_self
    simp [hself]
  · exact hpairwise.1 b hb

theorem exists_head_sortBy (cmp : α → α → Ordering) (h : l ≠ []) :
    ∃ a, (sortBy cmp l).head? = some a := by
  cases hhead : (sortBy cmp l).head? with
  | none =>
    have hnil : sortBy cmp l = [] := List.head?_eq_none_iff.mp hhead
    exact absurd (List.Perm.nil_eq (hnil ▸ sortBy_perm cmp l)).symm h
  | some a => exact ⟨a, rfl⟩

/-- A value that comes after none. -/
def comesAfterNone (cmp : α → α → Ordering) (l : List α) (a : α) : Bool :=
  l.all fun b => cmp a b ≠ .gt

theorem comesAfterNone_iff : comesAfterNone cmp l a = true ↔ ∀ b ∈ l, cmp a b ≠ .gt := by
  simp [comesAfterNone]

/-- The first of the sorted values is the first one that comes after none. -/
theorem head?_sortBy [Std.TransCmp cmp] (l : List α) :
    (sortBy cmp l).head? = l.find? (comesAfterNone cmp l) := by
  induction l with
  | nil => rfl
  | cons a l ih =>
    have hself : cmp a a = .eq := Std.ReflCmp.compare_self
    have hhead : (sortBy cmp (a :: l)).head? = some
        ((sortBy cmp l).head?.elim a fun b => if cmp a b ≠ .gt then a else b) := by
      rw [sortBy, List.insertionSort_cons]
      show (List.orderedInsert _ a (sortBy cmp l)).head? = _
      cases sortBy cmp l with
      | nil => rfl
      | cons b sorted =>
        rw [List.orderedInsert_cons]
        split
        · next h => simp [h]
        · next h => simp [h]
    rw [hhead]
    cases hl : (sortBy cmp l).head? with
    | none =>
      have hnil : l = [] := by
        by_contra hne
        obtain ⟨b, hb⟩ := exists_head_sortBy cmp hne
        rw [hl] at hb
        cases hb
      subst hnil
      simp [comesAfterNone, hself]
    | some b =>
      have hleast : ∀ c ∈ l, cmp b c ≠ .gt := fun c hc => head_sortBy_le hl hc
      have hb : b ∈ l := mem_sortBy.mp (List.mem_of_mem_head? hl)
      by_cases hab : cmp a b = .gt
      · -- `b` comes before `a`, so a value that comes after none of `l` does not come after `a`
        have hnot : ¬ comesAfterNone cmp (a :: l) a = true := fun hall =>
          comesAfterNone_iff.mp hall b (List.mem_cons_of_mem _ hb) hab
        have hsame : ∀ c ∈ l, comesAfterNone cmp (a :: l) c = comesAfterNone cmp l c := by
          intro c hc
          rw [Bool.eq_iff_iff, comesAfterNone_iff, comesAfterNone_iff, List.forall_mem_cons]
          refine and_iff_right_of_imp fun hall => ?_
          have hca : cmp c a = .lt := Std.TransCmp.lt_of_isLE_of_lt (ne_gt_iff_isLE.mp (hall b hb))
            (Std.OrientedCmp.lt_of_gt hab)
          simp [hca]
        rw [List.find?_cons_of_neg hnot, List.find?_congr hsame, ← ih, hl]
        simp [hab]
      · have hall : comesAfterNone cmp (a :: l) a = true := by
          refine comesAfterNone_iff.mpr (List.forall_mem_cons.mpr ⟨by simp [hself], fun c hc => ?_⟩)
          exact ne_gt_iff_isLE.mpr (Std.TransCmp.isLE_trans (ne_gt_iff_isLE.mp hab)
            (ne_gt_iff_isLE.mp (hleast c hc)))
        rw [List.find?_cons_of_pos hall]
        simp [hab]

/-- The first of the sorted values comes before those that stand before it, and not after those that
    stand after it. -/
theorem head?_sortBy_eq_some_iff [Std.TransCmp cmp] : (sortBy cmp l).head? = some a ↔
    ∃ before after, l = before ++ a :: after ∧ (∀ b ∈ before, cmp b a = .gt) ∧
      ∀ b ∈ after, cmp b a ≠ .lt := by
  have hswap : ∀ b, cmp a b ≠ .gt ↔ cmp b a ≠ .lt := fun b => Std.OrientedCmp.gt_iff_lt.not
  rw [head?_sortBy, List.find?_eq_some_iff_append]
  constructor
  · rintro ⟨hfirst, before, after, rfl, hbefore⟩
    rw [comesAfterNone_iff] at hfirst
    refine ⟨before, after, rfl, fun b hb => ?_, fun b hb => (hswap b).mp (hfirst b (by simp [hb]))⟩
    have hlater := hbefore b hb
    rw [Bool.not_eq_true', ← Bool.not_eq_true, comesAfterNone_iff] at hlater
    push Not at hlater
    obtain ⟨c, hc, hbc⟩ := hlater
    have hcb : cmp c b = .lt := Std.OrientedCmp.lt_of_gt hbc
    exact Std.OrientedCmp.gt_of_lt
      (Std.TransCmp.lt_of_isLE_of_lt (ne_gt_iff_isLE.mp (hfirst c hc)) hcb)
  · rintro ⟨before, after, rfl, hbefore, hafter⟩
    have hself : cmp a a = .eq := Std.ReflCmp.compare_self
    refine ⟨comesAfterNone_iff.mpr fun b hb => ?_, before, after, rfl, fun b hb => ?_⟩
    · rcases List.mem_append.mp hb with hb | hb
      · simp [Std.OrientedCmp.lt_of_gt (hbefore b hb)]
      · rcases List.mem_cons.mp hb with rfl | hb
        · simp [hself]
        · exact (hswap b).mpr (hafter b hb)
    · rw [Bool.not_eq_true', ← Bool.not_eq_true, comesAfterNone_iff]
      exact fun hall => hall a (by simp) (hbefore b hb)

/-! ## 2. Maps, permutations, stability -/

theorem sortBy_map {cmp' : β → β → Ordering} {f : α → β}
    (h : ∀ a ∈ l, ∀ b ∈ l, cmp' (f a) (f b) = cmp a b) :
    sortBy cmp' (l.map f) = (sortBy cmp l).map f :=
  (List.map_insertionSort _ _ f l fun a ha b hb => by rw [h a ha b hb]).symm

/-- Values that never compare equal are sorted in one way. -/
theorem sortBy_eq_of_perm [Std.TransCmp cmp] (hp : l.Perm l')
    (hdistinct : l.Pairwise fun a b => cmp a b ≠ .eq) : sortBy cmp l = sortBy cmp l' := by
  refine List.Perm.eq_of_pairwise (fun a b ha hb hab hba => ?_) (pairwise_sortBy l)
    (pairwise_sortBy l') (((sortBy_perm cmp l).trans hp).trans (sortBy_perm cmp l').symm)
  have heq : cmp a b = .eq := by
    have hswap : cmp b a = (cmp a b).swap := Std.OrientedCmp.eq_swap
    cases hcmp : cmp a b with
    | lt => simp [hswap, hcmp] at hba
    | eq => rfl
    | gt => exact absurd hcmp hab
  by_contra hne
  have : Std.Symm fun a b => cmp a b ≠ .eq := ⟨fun x y hxy hyx => hxy (Std.OrientedCmp.eq_symm hyx)⟩
  exact hdistinct.forall (mem_sortBy.mp ha) (hp.mem_iff.mpr (mem_sortBy.mp hb)) hne heq

/-- A value before another that it may precede stays before it. -/
theorem pair_sublist_sortBy [Std.TransCmp cmp] (hab : cmp a b ≠ .gt)
    (h : [a, b].Sublist l) : [a, b].Sublist (sortBy cmp l) :=
  List.pair_sublist_insertionSort hab h

end JsSort
