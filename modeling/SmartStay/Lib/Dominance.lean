import Mathlib.Algebra.BigOperators.Ring.Finset
import Mathlib.Algebra.Order.BigOperators.Ring.Finset
import Mathlib.Algebra.Order.Field.Basic
import Mathlib.Data.Set.Finite.Basic
import Mathlib.Logic.Relation
import Mathlib.Order.WellFounded
import Mathlib.Tactic.Linarith
import Mathlib.Tactic.IntervalCases

/-!
# Dominance with tolerances

A dominance relation that forgives small losses is not transitive, so the usual
argument for the existence of undominated elements does not apply. What is left is a
count: around a cycle the gains and the losses on each scale cancel.

1. `Acyclic`, `Acyclic.exists_undominated`, `Acyclic.exists_frontier`: without cycles a finite
   dominance relation leaves above every element one that nothing dominates.
2. `ClosedWalk`, `exists_injective_walk`: a cycle is a closed walk, and a shortest one
   passes each element once.
3. `Yardstick`: scores on several scales, each with a tolerance and an improvement.
   `acyclic_of_card`, `acyclic_of_shares`: two bounds under which there is no cycle.
4. `StrictOn`: dominance that is a strict order on a list. `StrictOn.optimum_of_undominated`:
   leaving out the dominated elements does not change an optimum that dominance respects.
-/

namespace Dominance

variable {α δ K : Type*} {r : α → α → Prop}

/-! ## 1. Acyclic relations -/

/-- No element stands above itself. -/
def Acyclic (r : α → α → Prop) : Prop := ∀ a, ¬ Relation.TransGen r a a

/-- Nothing stands above `a`. -/
def Undominated (r : α → α → Prop) (a : α) : Prop := ∀ b, ¬ r b a

/-- The elements that stand above something are finitely many: then every element is a
    top, or some top stands above it. -/
theorem Acyclic.exists_undominated (h : Acyclic r) (hfin : {a | ∃ b, r a b}.Finite) (a : α) :
    Undominated r a ∨ ∃ u, Undominated r u ∧ Relation.TransGen r u a := by
  let dominators := {a | ∃ b, r a b}
  have : Finite dominators := hfin
  have hwf : WellFounded fun x y : dominators => Relation.TransGen r x y := by
    have : IsTrans dominators fun x y => Relation.TransGen r x y :=
      ⟨fun _ _ _ => Relation.TransGen.trans⟩
    have : Std.Irrefl fun x y : dominators => Relation.TransGen r x y := ⟨fun x => h x⟩
    exact Finite.wellFounded_of_trans_of_irrefl _
  by_cases ha : Undominated r a
  · exact .inl ha
  obtain ⟨b, hb⟩ : ∃ b, r b a := by simpa [Undominated] using ha
  obtain ⟨u, hu, hmin⟩ := hwf.has_min {x : dominators | Relation.TransGen r x a}
    ⟨⟨b, a, hb⟩, .single hb⟩
  refine .inr ⟨u, fun c hc => ?_, hu⟩
  exact hmin ⟨c, u, hc⟩ (.head hc hu) (.single hc)

/-- If the undominated dominators are on the frontier `F`, every dominated element has one of
    them above it. -/
theorem Acyclic.exists_frontier (h : Acyclic r) (hfin : {a | ∃ b, r a b}.Finite) {F : α → Prop}
    (hF : ∀ u b, r u b → Undominated r u → F u) {x y : α} (hxy : r x y) :
    ∃ u, F u ∧ Relation.TransGen r u y := by
  rcases h.exists_undominated hfin y with hnone | ⟨u, hu, huy⟩
  · exact absurd hxy (hnone x)
  · obtain ⟨b, hub, -⟩ := Relation.TransGen.head'_iff.mp huy
    exact ⟨u, hF u b hub hu, huy⟩

/-! ## 2. Closed walks -/

/-- `f 0, …, f n` are related one to the next and `f n` is `f 0` again. -/
structure ClosedWalk (r : α → α → Prop) (n : ℕ) (f : ℕ → α) : Prop where
  pos : 0 < n
  closed : f n = f 0
  edge : ∀ i < n, r (f i) (f (i + 1))

theorem exists_walk {a b : α} (h : Relation.TransGen r a b) :
    ∃ n, ∃ f : ℕ → α, 0 < n ∧ f 0 = a ∧ f n = b ∧ ∀ i < n, r (f i) (f (i + 1)) := by
  induction h with
  | @single b hab =>
    refine ⟨1, fun i => if i = 0 then a else b, Nat.one_pos, rfl, rfl, fun i hi => ?_⟩
    obtain rfl : i = 0 := by omega
    simpa using hab
  | @tail b c _ hbc ih =>
    obtain ⟨n, f, hn, h0, hb, hf⟩ := ih
    refine ⟨n + 1, fun i => if i ≤ n then f i else c, Nat.succ_pos n, by simp [h0], by simp,
      fun i hi => ?_⟩
    rcases Nat.lt_succ_iff_lt_or_eq.mp hi with hlt | rfl
    · simpa [hlt.le, Nat.succ_le_iff.mpr hlt] using hf i hlt
    · simpa [hb] using hbc

theorem not_acyclic_iff : ¬ Acyclic r ↔ ∃ n f, ClosedWalk r n f := by
  constructor
  · intro h
    obtain ⟨a, ha⟩ : ∃ a, Relation.TransGen r a a := by simpa [Acyclic] using h
    obtain ⟨n, f, hn, h0, hb, hf⟩ := exists_walk ha
    exact ⟨n, f, hn, hb.trans h0.symm, hf⟩
  · rintro ⟨n, f, hw⟩ h
    have hreach : ∀ i < n, Relation.TransGen r (f 0) (f (i + 1)) := by
      intro i
      induction i with
      | zero => exact fun hi => .single (hw.edge 0 hi)
      | succ i ih => exact fun hi => (ih (by omega)).tail (hw.edge (i + 1) hi)
    have hlast := hreach (n - 1) (by have := hw.pos; omega)
    rw [Nat.sub_add_cancel hw.pos, hw.closed] at hlast
    exact h _ hlast

/-- A shortest closed walk passes each of its elements once. -/
theorem exists_injective_walk (h : ¬ Acyclic r) :
    ∃ n f, ClosedWalk r n f ∧ Set.InjOn f (Set.Iio n) := by
  classical
  have hex : ∃ n, ∃ f, ClosedWalk r n f := not_acyclic_iff.mp h
  obtain ⟨f, hw⟩ := Nat.find_spec hex
  -- two equal elements would close a shorter walk between them
  have hne : ∀ i j, i < j → j < Nat.find hex → f i ≠ f j := by
    intro i j hij hj heq
    refine Nat.find_min hex (m := j - i) (by omega)
      ⟨fun t => f (i + t), by omega, ?_, fun t ht => ?_⟩
    · simpa [Nat.add_sub_cancel' hij.le] using heq.symm
    · exact hw.edge (i + t) (by omega)
  refine ⟨_, f, hw, fun i hi j hj heq => ?_⟩
  rcases lt_trichotomy i j with hij | hij | hij
  · exact absurd heq (hne i j hij hj)
  · exact hij
  · exact absurd heq.symm (hne j i hij hi)

/-! ## 3. Scales with a tolerance and an improvement -/

variable [Field K] [LinearOrder K] [IsStrictOrderedRing K]

/-- What elements are measured by: each on its own set of scales. On a scale a loss up to
    the tolerance is forgiven and only a gain of the improvement or more counts. -/
structure Yardstick (α δ K : Type*) [Zero K] [LT K] [LE K] where
  measured : α → Finset δ
  score : δ → α → K
  tolerance : δ → K
  improvement : δ → K
  tolerance_nonneg : ∀ d, 0 ≤ tolerance d
  improvement_pos : ∀ d, 0 < improvement d

namespace Yardstick

variable {y : Yardstick α δ K} {n : ℕ} {f : ℕ → α} {d : δ}

/-- On every scale of `b`, `a` loses at most the tolerance, and on one it gains. -/
structure Beats (y : Yardstick α δ K) (a b : α) : Prop where
  covers : y.measured b ⊆ y.measured a
  nonWorse : ∀ d ∈ y.measured b, y.score d b - y.tolerance d ≤ y.score d a
  better : ∃ d ∈ y.measured b, y.score d b + y.improvement d ≤ y.score d a

omit [IsStrictOrderedRing K] in
/-- Around a cycle all elements are measured on the same scales. -/
theorem measured_eq (hw : ClosedWalk y.Beats n f) {i : ℕ} (hi : i ≤ n) :
    y.measured (f i) = y.measured (f 0) := by
  have hanti : ∀ k, i + k ≤ n → y.measured (f (i + k)) ⊆ y.measured (f i) := by
    intro k
    induction k with
    | zero => exact fun _ => subset_rfl
    | succ k ih => exact fun hk => (hw.edge (i + k) (by omega)).covers.trans (ih (by omega))
  have hstart : ∀ k ≤ n, y.measured (f k) ⊆ y.measured (f 0) := by
    intro k
    induction k with
    | zero => exact fun _ => subset_rfl
    | succ k ih => exact fun hk => (hw.edge k (by omega)).covers.trans (ih (by omega))
  refine (hstart i hi).antisymm ?_
  have hend := hanti (n - i) (by omega)
  rwa [Nat.add_sub_cancel' hi, hw.closed] at hend

/-- The steps of the walk that gain on `d`. -/
def gains (y : Yardstick α δ K) (f : ℕ → α) (n : ℕ) (d : δ) : Finset ℕ :=
  (Finset.range n).filter fun i => y.score d (f (i + 1)) + y.improvement d ≤ y.score d (f i)

/-- Around a cycle the gains on a scale are paid back by tolerated losses. -/
theorem gains_paid (hw : ClosedWalk y.Beats n f) (hd : d ∈ y.measured (f 0)) :
    (y.gains f n d).card * y.improvement d ≤ (n - (y.gains f n d).card) * y.tolerance d := by
  have hstep : ∀ i ∈ Finset.range n,
      (if y.score d (f (i + 1)) + y.improvement d ≤ y.score d (f i) then y.improvement d
        else - y.tolerance d) ≤ y.score d (f i) - y.score d (f (i + 1)) := by
    intro i hi
    have hlt := Finset.mem_range.mp hi
    have hmem : d ∈ y.measured (f (i + 1)) := by rwa [measured_eq hw hlt]
    have hworse := (hw.edge i hlt).nonWorse d hmem
    split <;> linarith
  have hsum := Finset.sum_le_sum hstep
  rw [Finset.sum_range_sub', hw.closed, sub_self, Finset.sum_ite, Finset.sum_const,
    Finset.sum_const, nsmul_eq_mul, nsmul_eq_mul] at hsum
  have hcard := Finset.card_filter_add_card_filter_not (s := Finset.range n)
    fun i => y.score d (f (i + 1)) + y.improvement d ≤ y.score d (f i)
  have hcast : ((y.gains f n d).card : K) + ((Finset.range n).filter fun i =>
      ¬ y.score d (f (i + 1)) + y.improvement d ≤ y.score d (f i)).card = n := by
    rw [Finset.card_range] at hcard
    exact_mod_cast hcard
  rw [← eq_sub_iff_add_eq'.mpr hcast]
  rw [gains]
  linarith

omit [IsStrictOrderedRing K] in
theorem exists_gain (hw : ClosedWalk y.Beats n f) {i : ℕ} (hi : i < n) :
    ∃ d ∈ y.measured (f 0), i ∈ y.gains f n d := by
  obtain ⟨d, hd, hgain⟩ := (hw.edge i hi).better
  rw [measured_eq hw hi] at hd
  exact ⟨d, hd, Finset.mem_filter.mpr ⟨Finset.mem_range.mpr hi, hgain⟩⟩

/-- Some step of a cycle gains on another scale than `d₀`: gains on one scale alone would
    add up. -/
theorem exists_gain_off (hw : ClosedWalk y.Beats n f) (d₀ : δ) :
    ∃ d ∈ y.measured (f 0), d ≠ d₀ ∧ ∃ i, i ∈ y.gains f n d := by
  by_contra hnone
  push Not at hnone
  have honly : ∀ i < n, i ∈ y.gains f n d₀ ∧ d₀ ∈ y.measured (f 0) := by
    intro i hi
    obtain ⟨d, hd, hgain⟩ := exists_gain hw hi
    rcases eq_or_ne d d₀ with rfl | hne
    · exact ⟨hgain, hd⟩
    · exact absurd hgain (hnone d hd hne i)
  have hall : y.gains f n d₀ = Finset.range n :=
    (Finset.filter_subset _ _).antisymm fun i hi => (honly i (Finset.mem_range.mp hi)).1
  have hpaid := gains_paid hw (honly 0 hw.pos).2
  rw [hall, Finset.card_range, sub_self, zero_mul] at hpaid
  have hpos : (0 : K) < n := by exact_mod_cast hw.pos
  exact hpaid.not_gt (mul_pos hpos (y.improvement_pos d₀))

/-- A cycle of `n` elements needs a scale on which `n - 1` tolerances add up to one
    improvement, and that besides any single scale `d₀`. -/
theorem improvement_le_of_walk (hw : ClosedWalk y.Beats n f) (d₀ : δ) :
    ∃ d ∈ y.measured (f 0), d ≠ d₀ ∧ y.improvement d ≤ (n - 1) * y.tolerance d := by
  obtain ⟨d, hd, hne, i, hgain⟩ := exists_gain_off hw d₀
  refine ⟨d, hd, hne, ?_⟩
  have hone : (1 : K) ≤ (y.gains f n d).card := by
    exact_mod_cast Finset.card_pos.mpr ⟨i, hgain⟩
  calc y.improvement d
      ≤ (y.gains f n d).card * y.improvement d := le_mul_of_one_le_left (y.improvement_pos d).le hone
    _ ≤ (n - (y.gains f n d).card) * y.tolerance d := gains_paid hw hd
    _ ≤ (n - 1) * y.tolerance d :=
        mul_le_mul_of_nonneg_right (by linarith) (y.tolerance_nonneg d)

/-- The share of a cycle's steps that can gain on `d`. -/
def share (y : Yardstick α δ K) (d : δ) : K := y.tolerance d / (y.tolerance d + y.improvement d)

theorem card_gains_le_share (hw : ClosedWalk y.Beats n f) (hd : d ∈ y.measured (f 0)) :
    ((y.gains f n d).card : K) ≤ n * y.share d := by
  have hpos := add_pos_of_nonneg_of_pos (y.tolerance_nonneg d) (y.improvement_pos d)
  have hpaid := gains_paid hw hd
  rw [share, mul_div_assoc', le_div_iff₀ hpos]
  linarith

/-- In a cycle of any length the shares of the scales add up to a whole. -/
theorem one_le_shares_of_walk (hw : ClosedWalk y.Beats n f) :
    1 ≤ ∑ d ∈ y.measured (f 0), y.share d := by
  classical
  have hcover : Finset.range n ⊆ (y.measured (f 0)).biUnion (y.gains f n) := by
    intro i hi
    obtain ⟨d, hd, hgain⟩ := exists_gain hw (Finset.mem_range.mp hi)
    exact Finset.mem_biUnion.mpr ⟨d, hd, hgain⟩
  have hcount : n ≤ ∑ d ∈ y.measured (f 0), (y.gains f n d).card := by
    calc n = (Finset.range n).card := (Finset.card_range n).symm
      _ ≤ ((y.measured (f 0)).biUnion (y.gains f n)).card := Finset.card_le_card hcover
      _ ≤ _ := Finset.card_biUnion_le
  have hpos : (0 : K) < n := by exact_mod_cast hw.pos
  have hle : (n : K) * 1 ≤ n * ∑ d ∈ y.measured (f 0), y.share d := by
    calc (n : K) * 1 = n := mul_one _
      _ ≤ ∑ d ∈ y.measured (f 0), ((y.gains f n d).card : K) := by exact_mod_cast hcount
      _ ≤ ∑ d ∈ y.measured (f 0), n * y.share d :=
          Finset.sum_le_sum fun d hd => card_gains_le_share hw hd
      _ = n * ∑ d ∈ y.measured (f 0), y.share d := (Finset.mul_sum _ _ _).symm
  exact le_of_mul_le_mul_left hle hpos

/-- Two elements never beat each other where every tolerance, but for one scale's, is below
    the improvement. -/
theorem Beats.asymm {a b : α} (hab : y.Beats a b) (d₀ : δ)
    (hlt : ∀ d, d ≠ d₀ → y.tolerance d < y.improvement d) : ¬ y.Beats b a := by
  intro hba
  have hwalk : ClosedWalk y.Beats 2 fun i => if i = 1 then b else a :=
    ⟨Nat.two_pos, rfl, fun i hi => by interval_cases i <;> simpa⟩
  obtain ⟨d, -, hne, hle⟩ := improvement_le_of_walk hwalk d₀
  have := hlt d hne
  push_cast at hle
  linarith

/-- Few elements: no scale's tolerances, but for one scale's, add up to its improvement. -/
theorem acyclic_of_card (s : Finset α) (d₀ : δ) (hs : ∀ a b, r a b → a ∈ s)
    (hr : ∀ a b, r a b → y.Beats a b)
    (hbound : ∀ d, d ≠ d₀ → (s.card - 1) * y.tolerance d < y.improvement d) :
    Acyclic r := by
  by_contra hcycle
  obtain ⟨n, f, hw, hinj⟩ := exists_injective_walk hcycle
  have hwalk : ClosedWalk y.Beats n f := ⟨hw.pos, hw.closed, fun i hi => hr _ _ (hw.edge i hi)⟩
  have hmem : ∀ i < n, f i ∈ s := fun i hi => hs _ _ (hw.edge i hi)
  have hcard : n ≤ s.card := by
    have := Finset.card_le_card_of_injOn (s := Finset.range n) f
      (fun i hi => hmem i (Finset.mem_range.mp hi)) (by simpa using hinj)
    simpa using this
  obtain ⟨d, -, hne, hle⟩ := improvement_le_of_walk hwalk d₀
  have hcast : (n : K) ≤ s.card := by exact_mod_cast hcard
  have hmono := mul_le_mul_of_nonneg_right (sub_le_sub_right hcast 1) (y.tolerance_nonneg d)
  have := hbound d hne
  linarith

/-- Few scales: their shares do not add up to a whole. -/
theorem acyclic_of_shares (hr : ∀ a b, r a b → y.Beats a b)
    (hbound : ∀ a, ∑ d ∈ y.measured a, y.share d < 1) : Acyclic r := by
  by_contra hcycle
  obtain ⟨n, f, hw⟩ := not_acyclic_iff.mp hcycle
  have hwalk : ClosedWalk y.Beats n f := ⟨hw.pos, hw.closed, fun i hi => hr _ _ (hw.edge i hi)⟩
  exact (one_le_shares_of_walk hwalk).not_gt (hbound _)

end Yardstick

/-! ## 4. Pruning by a strict order -/

/-- `r` is irreflexive and transitive on the elements of `l`. -/
structure StrictOn (r : α → α → Prop) (l : List α) : Prop where
  irrefl : ∀ a ∈ l, ¬ r a a
  trans : ∀ a ∈ l, ∀ b ∈ l, ∀ c ∈ l, r a b → r b c → r a c

/-- Nothing in `l` stands above `a`. -/
def UndominatedIn (r : α → α → Prop) (l : List α) (a : α) : Prop := ∀ b ∈ l, ¬ r b a

variable {l : List α}

theorem StrictOn.of_transGen (h : StrictOn r l) {a b : α}
    (hab : Relation.TransGen (fun a b => a ∈ l ∧ b ∈ l ∧ r a b) a b) : a ∈ l ∧ b ∈ l ∧ r a b := by
  induction hab with
  | single hab => exact hab
  | tail _ hbc ih => exact ⟨ih.1, hbc.2.1, h.trans _ ih.1 _ hbc.1 _ hbc.2.1 ih.2.2 hbc.2.2⟩

/-- Every dominated element has an undominated one above it. -/
theorem StrictOn.exists_undominated (h : StrictOn r l) {a : α} (ha : a ∈ l) :
    UndominatedIn r l a ∨ ∃ u ∈ l, UndominatedIn r l u ∧ r u a := by
  have hacyclic : Acyclic fun a b => a ∈ l ∧ b ∈ l ∧ r a b := fun x hx =>
    h.irrefl x (h.of_transGen hx).1 (h.of_transGen hx).2.2
  have hfin : {a | ∃ b, a ∈ l ∧ b ∈ l ∧ r a b}.Finite :=
    l.finite_toSet.subset fun a ⟨_, ha, _⟩ => ha
  rcases hacyclic.exists_undominated hfin a with hnone | ⟨u, hu, hua⟩
  · exact .inl fun b hb hba => hnone b ⟨hb, ha, hba⟩
  · obtain ⟨hul, -, hua⟩ := h.of_transGen hua
    exact .inr ⟨u, hul, fun b hb hbu => hu b ⟨hb, hul, hbu⟩, hua⟩

/-- What is best among the undominated elements is best among all, in an order in which a
    dominating element is at least as good. -/
theorem StrictOn.optimum_of_undominated (h : StrictOn r l) {le : α → α → Prop} [IsTrans α le]
    (hmono : ∀ a ∈ l, ∀ b ∈ l, r a b → le a b) {m : α}
    (hm : ∀ u ∈ l, UndominatedIn r l u → le m u) : ∀ a ∈ l, le m a := by
  intro a ha
  rcases h.exists_undominated ha with hund | ⟨u, hu, hund, hua⟩
  · exact hm a ha hund
  · exact IsTrans.trans _ _ _ (hm u hu hund) (hmono u hu a ha hua)

end Dominance
