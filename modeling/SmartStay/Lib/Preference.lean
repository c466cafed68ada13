import SmartStay.Lib.Sort

/-!
# Preferences

JavaScript sorts by a comparator only if it is consistent on the values that are sorted; of any other
comparator it promises no order.

1. `ConsistentOn`, `SortMethod`: a method that sorts whenever the comparator is consistent.
2. `SortMethod.head_preferred`, `SortMethod.head_stable`: the first value is preferred to all others,
   and stays first when others come or go.
3. `overrideBy`, `consistentOn_overrideBy_iff`: an order of which some pairs are reversed is consistent
   exactly if the reversed pairs fit together.
-/

namespace Preference

variable {α : Type} {cmp : α → α → Ordering} {l l' : List α} {a b c : α}

/-! ## 1. Consistent comparators -/

structure ConsistentOn (cmp : α → α → Ordering) (l : List α) : Prop where
  swap : ∀ a ∈ l, ∀ b ∈ l, cmp b a = (cmp a b).swap
  trans : ∀ a ∈ l, ∀ b ∈ l, ∀ c ∈ l, cmp a b ≠ .gt → cmp b c ≠ .gt → cmp a c ≠ .gt

/-- A method that sorts lists. What order it gives to values whose comparator is not consistent is its
own choice. -/
structure SortMethod (α : Type) where
  sort : (α → α → Ordering) → List α → List α
  perm : ∀ cmp l, (sort cmp l).Perm l
  sorted : ∀ cmp l, ConsistentOn cmp l → (sort cmp l).Pairwise fun a b => cmp a b ≠ .gt

theorem ConsistentOn.subset (h : ConsistentOn cmp l) (hsub : l' ⊆ l) : ConsistentOn cmp l' :=
  ⟨fun a ha b hb => h.swap a (hsub ha) b (hsub hb),
    fun a ha b hb c hc => h.trans a (hsub ha) b (hsub hb) c (hsub hc)⟩

/-- Sorting by insertion is such a method. -/
def insertionMethod (α : Type) : SortMethod α where
  sort := JsSort.sortBy
  perm := JsSort.sortBy_perm
  sorted cmp l h := by
    -- on the values of the list alone the comparator is an order
    let cmp' : {x // x ∈ l} → {x // x ∈ l} → Ordering := fun a b => cmp a.1 b.1
    have htrans : Std.TransCmp cmp' :=
      { eq_swap := fun {a b} => h.swap b.1 b.2 a.1 a.2
        isLE_trans := fun {a b c} hab hbc => by
          rw [← JsSort.ne_gt_iff_isLE] at hab hbc ⊢
          exact h.trans a.1 a.2 b.1 b.2 c.1 c.2 hab hbc }
    have hmap : JsSort.sortBy cmp (l.attach.map Subtype.val) =
        (JsSort.sortBy cmp' l.attach).map Subtype.val := JsSort.sortBy_map fun _ _ _ _ => rfl
    rw [List.attach_map_subtype_val] at hmap
    rw [hmap, List.pairwise_map]
    have hsorted : (JsSort.sortBy cmp' l.attach).Pairwise fun a b => cmp' a b ≠ .gt :=
      JsSort.pairwise_sortBy l.attach
    exact hsorted

/-! ## 2. The first value -/

namespace SortMethod

variable (method : SortMethod α)

theorem mem_sort : a ∈ method.sort cmp l ↔ a ∈ l := (method.perm cmp l).mem_iff

/-- The first value is preferred to every other. -/
theorem head_preferred (h : ConsistentOn cmp l)
    (hdistinct : ∀ a ∈ l, ∀ b ∈ l, cmp a b = .eq → a = b)
    (ha : (method.sort cmp l).head? = some a) (hb : b ∈ l) (hne : b ≠ a) : cmp a b = .lt := by
  obtain ⟨rest, hrest⟩ := List.head?_eq_some_iff.mp ha
  have hal : a ∈ l := method.mem_sort.mp (hrest ▸ List.mem_cons_self)
  have hsorted := method.sorted cmp l h
  rw [hrest, List.pairwise_cons] at hsorted
  have hbrest : b ∈ rest :=
    (List.mem_cons.mp (hrest ▸ method.mem_sort.mpr hb)).resolve_left hne
  cases hcmp : cmp a b with
  | lt => rfl
  | eq => exact absurd (hdistinct a hal b hb hcmp).symm hne
  | gt => exact absurd hcmp (hsorted.1 b hbrest)

/-- What is preferred to every other value is first. -/
theorem head_eq_of_preferred (h : ConsistentOn cmp l) (ha : a ∈ l)
    (hpreferred : ∀ b ∈ l, b ≠ a → cmp a b = .lt) : (method.sort cmp l).head? = some a := by
  have hsorted := method.sorted cmp l h
  cases hsort : method.sort cmp l with
  | nil => exact absurd (hsort ▸ method.mem_sort.mpr ha) List.not_mem_nil
  | cons b rest =>
    rw [hsort, List.pairwise_cons] at hsorted
    by_cases hne : b = a
    · rw [List.head?_cons, hne]
    · have hb : b ∈ l := method.mem_sort.mp (hsort ▸ List.mem_cons_self)
      have harest : a ∈ rest :=
        (List.mem_cons.mp (hsort ▸ method.mem_sort.mpr ha)).resolve_left (Ne.symm hne)
      have hgt := h.swap a ha b hb
      rw [hpreferred b hb hne] at hgt
      exact absurd hgt (hsorted.1 a harest)

/-- A first value stays first among fewer values. -/
theorem head_stable (h : ConsistentOn cmp l) (hdistinct : ∀ a ∈ l, ∀ b ∈ l, cmp a b = .eq → a = b)
    (ha : (method.sort cmp l).head? = some a) (hsub : l' ⊆ l) (hmem : a ∈ l') :
    (method.sort cmp l').head? = some a :=
  method.head_eq_of_preferred (h.subset hsub) hmem fun _ hb hne =>
    method.head_preferred h hdistinct ha (hsub hb) hne

end SortMethod

/-! ## 3. Reversed pairs -/

section
variable {beats : α → α → Prop} [DecidableRel beats] {base : α → α → Ordering}

/-- The order of `base`, except that `beats a b` puts `a` before `b`. -/
def overrideBy (beats : α → α → Prop) [DecidableRel beats] (base : α → α → Ordering) (a b : α) :
    Ordering :=
  if beats a b then .lt else if beats b a then .gt else base a b

/-- Three values in the order of `base`: when both neighbours are reversed, so are the outer two, and
when the outer two are reversed, so are two neighbours. -/
def ReversalsFit (beats : α → α → Prop) (base : α → α → Ordering) (l : List α) : Prop :=
  ∀ x ∈ l, ∀ y ∈ l, ∀ z ∈ l, base x y = .lt → base y z = .lt →
    (beats y x → beats z y → beats z x) ∧ (beats z x → beats y x ∨ beats z y)

theorem overrideBy_swap [Std.OrientedCmp base] (hasymm : ∀ a b, beats a b → ¬ beats b a) (a b : α) :
    overrideBy beats base b a = (overrideBy beats base a b).swap := by
  unfold overrideBy
  by_cases hab : beats a b
  · rw [if_neg (hasymm a b hab), if_pos hab, if_pos hab]
    rfl
  · by_cases hba : beats b a
    · rw [if_pos hba, if_neg hab, if_pos hba]
      rfl
    · rw [if_neg hab, if_neg hba, if_neg hab, if_neg hba]
      exact Std.OrientedCmp.eq_swap

/-- Of two values in the order of `base` the second comes first exactly if they are reversed. -/
theorem overrideBy_cases (hasymm : ∀ a b, beats a b → ¬ beats b a) (hbase : base a b = .lt) :
    (overrideBy beats base a b = .gt ∧ beats b a) ∨ (overrideBy beats base a b = .lt ∧ ¬ beats b a) := by
  unfold overrideBy
  by_cases hba : beats b a
  · exact .inl ⟨by rw [if_neg (hasymm b a hba), if_pos hba], hba⟩
  · refine .inr ⟨?_, hba⟩
    rw [if_neg hba, hbase, ite_self]

theorem overrideBy_lt_iff (hasymm : ∀ a b, beats a b → ¬ beats b a) (hbase : base a b = .lt) :
    overrideBy beats base a b = .lt ↔ ¬ beats b a := by
  rcases overrideBy_cases hasymm hbase with ⟨hgt, hbeats⟩ | ⟨hlt, hnot⟩
  · simp [hgt, hbeats]
  · simp [hlt, hnot]

theorem overrideBy_lt_iff' [Std.OrientedCmp base] (hasymm : ∀ a b, beats a b → ¬ beats b a)
    (hbase : base a b = .lt) : overrideBy beats base b a = .lt ↔ beats b a := by
  rw [overrideBy_swap hasymm a b]
  rcases overrideBy_cases hasymm hbase with ⟨hgt, hbeats⟩ | ⟨hlt, hnot⟩
  · simp [hgt, hbeats]
  · simp [hlt, hnot]

/-- The first of three values is in no cycle with the other two. -/
theorem no_cycle [Std.OrientedCmp base] (hasymm : ∀ a b, beats a b → ¬ beats b a)
    (hfit : ReversalsFit beats base l) (ha : a ∈ l) (hb : b ∈ l) (hc : c ∈ l)
    (hbc : base b c = .lt ∨ base c b = .lt) (hab : base a b = .lt) (hac : base a c = .lt) :
    ¬ (overrideBy beats base a b = .lt ∧ overrideBy beats base b c = .lt ∧
      overrideBy beats base c a = .lt) := by
  rw [overrideBy_lt_iff hasymm hab, overrideBy_lt_iff' hasymm hac]
  rintro ⟨hkept, hltbc, hbeats⟩
  rcases hbc with hbc | hcb
  · rw [overrideBy_lt_iff hasymm hbc] at hltbc
    exact ((hfit a ha b hb c hc hab hbc).2 hbeats).elim hkept hltbc
  · rw [overrideBy_lt_iff' hasymm hcb] at hltbc
    exact hkept ((hfit a ha c hc b hb hac hcb).1 hbeats hltbc)

/-- The reversed pairs fit together exactly if the comparator is consistent. -/
theorem consistentOn_overrideBy_iff [Std.TransCmp base] (hasymm : ∀ a b, beats a b → ¬ beats b a)
    (hdistinct : ∀ a ∈ l, ∀ b ∈ l, base a b = .eq → a = b) :
    ConsistentOn (overrideBy beats base) l ↔ ReversalsFit beats base l := by
  constructor
  · intro h x hx y hy z hz hxy hyz
    have hxz : base x z = .lt := Std.TransCmp.lt_trans hxy hyz
    constructor
    · intro hyx hzy
      rw [← overrideBy_lt_iff' hasymm hxy] at hyx
      rw [← overrideBy_lt_iff' hasymm hyz] at hzy
      rcases overrideBy_cases hasymm hxz with ⟨-, hbeats⟩ | ⟨hlt, -⟩
      · exact hbeats
      · have hle := h.trans z hz y hy x hx (by simp [hzy]) (by simp [hyx])
        rw [overrideBy_swap hasymm x z, hlt] at hle
        exact absurd rfl hle
    · intro hzx
      by_contra hkept
      obtain ⟨hyx, hzy⟩ := not_or.mp hkept
      rw [← overrideBy_lt_iff hasymm hxy] at hyx
      rw [← overrideBy_lt_iff hasymm hyz] at hzy
      rw [← overrideBy_lt_iff' hasymm hxz] at hzx
      refine h.trans x hx y hy z hz (by simp [hyx]) (by simp [hzy]) ?_
      rw [overrideBy_swap hasymm z x, hzx]
      rfl
  · intro hfit
    refine ⟨fun a _ b _ => overrideBy_swap hasymm a b, fun a ha b hb c hc hab hbc hac => ?_⟩
    have htotal : ∀ x ∈ l, ∀ y ∈ l, x ≠ y → base x y = .lt ∨ base y x = .lt := by
      intro x hx y hy hne
      cases hcmp : base x y with
      | lt => exact .inl rfl
      | eq => exact absurd (hdistinct x hx y hy hcmp) hne
      | gt => exact .inr (Std.OrientedCmp.gt_iff_lt.mp hcmp)
    have hstrict : ∀ x ∈ l, ∀ y ∈ l, x ≠ y → overrideBy beats base x y ≠ .gt →
        overrideBy beats base x y = .lt := by
      intro x hx y hy hne hle
      rcases htotal x hx y hy hne with hbase | hbase
      · exact (overrideBy_cases hasymm hbase).elim (fun h => absurd h.1 hle) And.left
      · rw [overrideBy_swap hasymm y x] at hle ⊢
        rcases overrideBy_cases hasymm hbase with ⟨hgt, -⟩ | ⟨hlt, -⟩
        · simp [hgt]
        · simp [hlt] at hle
    have hnac : a ≠ c := by
      rintro rfl
      have hnot : ¬ beats a a := fun h => hasymm a a h h
      simp [overrideBy, hnot, Std.ReflCmp.compare_self] at hac
    have hnab : a ≠ b := fun heq => hbc (heq ▸ hac)
    have hnbc : b ≠ c := fun heq => hab (heq ▸ hac)
    have hltab := hstrict a ha b hb hnab hab
    have hltbc := hstrict b hb c hc hnbc hbc
    have hltca : overrideBy beats base c a = .lt := by
      rw [overrideBy_swap hasymm a c, hac]
      rfl
    -- whichever of the three is first in the order of `base`, the cycle is read from it on
    rcases htotal a ha b hb hnab with hbase | hbase
    · rcases htotal a ha c hc hnac with hbase' | hbase'
      · exact no_cycle hasymm hfit ha hb hc (htotal b hb c hc hnbc) hbase hbase'
          ⟨hltab, hltbc, hltca⟩
      · exact no_cycle hasymm hfit hc ha hb (.inl hbase) hbase' (Std.TransCmp.lt_trans hbase' hbase)
          ⟨hltca, hltab, hltbc⟩
    · rcases htotal b hb c hc hnbc with hbase' | hbase'
      · exact no_cycle hasymm hfit hb hc ha (htotal c hc a ha hnac.symm) hbase' hbase
          ⟨hltbc, hltca, hltab⟩
      · exact no_cycle hasymm hfit hc ha hb (.inr hbase) (Std.TransCmp.lt_trans hbase' hbase) hbase'
          ⟨hltca, hltab, hltbc⟩

end

end Preference
