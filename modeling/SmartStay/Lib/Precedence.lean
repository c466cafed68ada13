import SmartStay.Lib.Sort

/-!
# What comes before what in a list

1. `Before`: one of two elements before the other, in lists without duplicates.
2. `Before` under filters, maps, `flatMap`, in sorted lists, and as an order of positions.
3. `find?_eq_some_iff`: what a search finds comes before all other matches.
-/

namespace Precedence

variable {α β : Type} {l l' : List α} {x y z : α}

/-! ## 1. Two elements -/

/-- An occurrence of `x` comes before one of `y`. -/
def Before (l : List α) (x y : α) : Prop := [x, y].Sublist l

theorem Before.mem_left (h : Before l x y) : x ∈ l := h.subset List.mem_cons_self

theorem Before.mem_right (h : Before l x y) : y ∈ l :=
  h.subset (List.mem_cons_of_mem _ List.mem_cons_self)

theorem before_of_split {p q : List α} (h : l = p ++ x :: q) (hy : y ∈ q) : Before l x y := by
  subst h
  exact ((List.singleton_sublist.mpr hy).cons_cons x).trans (List.sublist_append_right p _)

theorem before_cons_iff : Before (z :: l) x y ↔ (x = z ∧ y ∈ l) ∨ Before l x y := by
  constructor
  · intro h
    cases h with
    | cons _ h => exact .inr h
    | cons_cons _ h => exact .inl ⟨rfl, List.singleton_sublist.mp h⟩
  · rintro (⟨rfl, hy⟩ | h)
    · exact (List.singleton_sublist.mpr hy).cons_cons x
    · exact h.cons z

theorem before_or_before (hx : x ∈ l) (hy : y ∈ l) (hne : x ≠ y) : Before l x y ∨ Before l y x := by
  induction l with
  | nil => cases hx
  | cons z l ih =>
    rcases List.mem_cons.mp hx with rfl | hx'
    · exact .inl (before_cons_iff.mpr (.inl ⟨rfl, (List.mem_cons.mp hy).resolve_left hne.symm⟩))
    · rcases List.mem_cons.mp hy with rfl | hy'
      · exact .inr (before_cons_iff.mpr (.inl ⟨rfl, hx'⟩))
      · rcases ih hx' hy' with h | h
        · exact .inl (before_cons_iff.mpr (.inr h))
        · exact .inr (before_cons_iff.mpr (.inr h))

/-- In a list without duplicates two elements come in one order. -/
theorem Before.asymm (hnodup : l.Nodup) (hxy : Before l x y) : ¬ Before l y x := by
  induction l with
  | nil => cases hxy
  | cons z l ih =>
    obtain ⟨hz, hnodup⟩ := List.nodup_cons.mp hnodup
    intro hyx
    rcases before_cons_iff.mp hxy with ⟨hxz, hy⟩ | hxy'
    · rcases before_cons_iff.mp hyx with ⟨-, hx⟩ | hyx'
      · exact hz (hxz ▸ hx)
      · exact hz (hxz ▸ hyx'.mem_right)
    · rcases before_cons_iff.mp hyx with ⟨hyz, -⟩ | hyx'
      -- `y` is the head, and `x` is before it in the tail
      · exact hz (hyz ▸ hxy'.mem_right)
      · exact ih hnodup hxy' hyx'

/-- Everything that is not before `x`, and not `x`, comes after it. -/
theorem before_of_not_mem_front {p q : List α} (h : l = p ++ x :: q) (hy : y ∈ l) (hp : y ∉ p)
    (hne : y ≠ x) : Before l x y := by
  refine before_of_split h ?_
  rw [h, List.mem_append, List.mem_cons] at hy
  exact (hy.resolve_left hp).resolve_left hne

/-! ## 2. Operations -/

theorem Before.sublist (h : Before l x y) (hl : l.Sublist l') : Before l' x y := h.trans hl

theorem Before.filter {p : α → Bool} (h : Before l x y) (hx : p x = true) (hy : p y = true) :
    Before (l.filter p) x y := by
  have hfilter : ([x, y].filter p).Sublist (l.filter p) := List.Sublist.filter p h
  rwa [List.filter_cons_of_pos hx, List.filter_cons_of_pos hy] at hfilter

theorem Before.map (f : α → β) (h : Before l x y) : Before (l.map f) (f x) (f y) :=
  List.Sublist.map f h

/-- In a list of lists the order is that of the lists, and in one list its own. -/
theorem before_flatMap {f : β → List α} {groups : List β} :
    Before (groups.flatMap f) x y ↔ (∃ g ∈ groups, Before (f g) x y) ∨
      ∃ g h, Before groups g h ∧ x ∈ f g ∧ y ∈ f h := by
  induction groups with
  | nil => simp [Before]
  | cons g groups ih =>
    rw [List.flatMap_cons]
    constructor
    · intro h
      obtain ⟨s, t, heq, hs, ht⟩ := List.sublist_append_iff.mp h
      rcases s with _ | ⟨a, _ | ⟨b, s⟩⟩
      · rw [List.nil_append] at heq
        subst heq
        rcases ih.mp ht with ⟨k, hk, hbefore⟩ | ⟨k, k', hbefore, hx, hy⟩
        · exact .inl ⟨k, List.mem_cons_of_mem _ hk, hbefore⟩
        · exact .inr ⟨k, k', before_cons_iff.mpr (.inr hbefore), hx, hy⟩
      · obtain ⟨rfl, rfl⟩ : x = a ∧ [y] = t := by simpa using heq
        obtain ⟨k, hk, hy⟩ := List.mem_flatMap.mp (List.singleton_sublist.mp ht)
        exact .inr ⟨g, k, before_cons_iff.mpr (.inl ⟨rfl, hk⟩), List.singleton_sublist.mp hs, hy⟩
      · have hlength := congrArg List.length heq
        obtain ⟨rfl, rfl, hrest⟩ : x = a ∧ y = b ∧ [] = s ++ t := by simpa using heq
        obtain ⟨rfl, rfl⟩ := List.append_eq_nil_iff.mp hrest.symm
        exact .inl ⟨g, List.mem_cons_self, hs⟩
    · rintro (⟨k, hk, hbefore⟩ | ⟨k, k', hbefore, hx, hy⟩)
      · rcases List.mem_cons.mp hk with rfl | hk
        · exact hbefore.trans (List.sublist_append_left _ _)
        · exact (ih.mpr (.inl ⟨k, hk, hbefore⟩)).trans (List.sublist_append_right _ _)
      · rcases before_cons_iff.mp hbefore with ⟨rfl, hk'⟩ | hbefore
        · exact List.Sublist.append (List.singleton_sublist.mpr hx)
            (List.singleton_sublist.mpr (List.mem_flatMap.mpr ⟨k', hk', hy⟩))
        · exact (ih.mpr (.inr ⟨k, k', hbefore, hx, hy⟩)).trans (List.sublist_append_right _ _)

/-- Sorting puts an element before those that it strictly precedes. -/
theorem before_sortBy {cmp : α → α → Ordering} [Std.TransCmp cmp] (hx : x ∈ l) (hy : y ∈ l)
    (hlt : cmp x y = .lt) : Before (JsSort.sortBy cmp l) x y := by
  have hne : x ≠ y := by
    rintro rfl
    have hself : cmp x x = .eq := Std.ReflCmp.compare_self
    rw [hself] at hlt
    cases hlt
  rcases before_or_before (JsSort.mem_sortBy.mpr hx) (JsSort.mem_sortBy.mpr hy) hne with h | h
  · exact h
  · have hpairwise : (JsSort.sortBy cmp l).Pairwise _ := JsSort.pairwise_sortBy l
    have hle := hpairwise.forall_sublist h
    have hswap : cmp y x = (cmp x y).swap := Std.OrientedCmp.eq_swap
    rw [hswap, hlt] at hle
    exact absurd rfl hle

theorem idxOf_lt_idxOf [DecidableEq α] (hnodup : l.Nodup) (h : Before l x y) :
    l.idxOf x < l.idxOf y := by
  induction l with
  | nil => cases h
  | cons z l ih =>
    obtain ⟨hz, hnodup⟩ := List.nodup_cons.mp hnodup
    have hne : ∀ w ∈ l, z ≠ w := fun w hw heq => hz (heq ▸ hw)
    rcases before_cons_iff.mp h with ⟨rfl, hy⟩ | h
    · rw [List.idxOf_cons_self, List.idxOf_cons_ne _ (hne y hy)]
      exact Nat.succ_pos _
    · rw [List.idxOf_cons_ne _ (hne x h.mem_left), List.idxOf_cons_ne _ (hne y h.mem_right)]
      exact Nat.succ_lt_succ (ih hnodup h)

/-! ## 3. Searches -/

theorem find?_eq_some_iff {p : α → Bool} (hnodup : l.Nodup) :
    l.find? p = some x ↔ x ∈ l ∧ p x = true ∧ ∀ y ∈ l, p y = true → y ≠ x → Before l x y := by
  constructor
  · intro h
    obtain ⟨hx, before, after, rfl, hbefore⟩ := List.find?_eq_some_iff_append.mp h
    refine ⟨by simp, hx, fun y hy hpy hne => before_of_not_mem_front rfl hy (fun hp => ?_) hne⟩
    have hnot := hbefore y hp
    simp [hpy] at hnot
  · rintro ⟨hx, hpx, hall⟩
    cases hfind : l.find? p with
    | none => exact absurd hpx (List.find?_eq_none.mp hfind x hx)
    | some c =>
      by_contra hne
      have hcx : c ≠ x := fun heq => hne (by rw [heq])
      obtain ⟨hc, before, after, hl, hbefore⟩ := List.find?_eq_some_iff_append.mp hfind
      have hxc := hall c (List.mem_of_find?_eq_some hfind) hc hcx
      have hnotBefore : x ∉ before := fun hp => by simpa [hpx] using hbefore x hp
      exact hxc.asymm hnodup (before_of_not_mem_front hl hx hnotBefore hcx.symm)

end Precedence
