import SmartStay.Lib.Grouping

/-!
# The first value under each key

Duplicates are removed by a key, and the first of the values with one key is kept.

1. `firstOfEach`, `mem_firstOfEach`.
2. `exists_firstOfEach_of_forall`: a key all of whose values have a property keeps one that has it.
3. `not_of_worst_first`: without such a key, an order of the values keeps none that has it.
-/

namespace Grouping

variable {α β κ : Type} [DecidableEq κ] {key : α → κ} {xs ys : List α} {x : α}

/-! ## 1. What is kept -/

/-- The values of a map that is only written where it has no value yet. -/
def firstOfEach (key : α → κ) (xs : List α) : List α :=
  (groupInto key id (fun stored _ => stored) xs).map Prod.snd

theorem combined_first (xs : List α) : combined id (fun stored _ => stored) xs = xs.head? := by
  cases xs with
  | nil => rfl
  | cons x xs =>
    have hfold : ∀ (stored : α) (xs : List α), xs.foldl (fun stored _ => stored) stored = stored := by
      intro stored xs
      induction xs with
      | nil => rfl
      | cons _ _ ih => exact ih
    exact congrArg some (hfold x xs)

theorem mem_firstOfEach : x ∈ firstOfEach key xs ↔ (valuesOf key (key x) xs).head? = some x := by
  simp only [firstOfEach, List.mem_map, Prod.exists, exists_eq_right, mem_groupInto, combined_first]
  constructor
  · rintro ⟨k, hhead⟩
    obtain ⟨-, rfl⟩ := mem_valuesOf.mp (List.mem_of_mem_head? hhead)
    exact hhead
  · exact fun hhead => ⟨key x, hhead⟩

theorem mem_of_mem_firstOfEach (h : x ∈ firstOfEach key xs) : x ∈ xs :=
  (mem_valuesOf.mp (List.mem_of_mem_head? (mem_firstOfEach.mp h))).1

/-- A value with every key is kept. -/
theorem exists_mem_firstOfEach (h : x ∈ xs) : ∃ y ∈ firstOfEach key xs, key y = key x := by
  obtain ⟨y, hy⟩ := exists_mem_groupInto key id (fun stored _ => stored) h
  have hmem : y ∈ firstOfEach key xs := List.mem_map.mpr ⟨_, hy, rfl⟩
  rw [mem_groupInto, combined_first] at hy
  exact ⟨y, hmem, (mem_valuesOf.mp (List.mem_of_mem_head? hy)).2⟩

theorem firstOfEach_eq_nil : firstOfEach key xs = [] ↔ xs = [] := by
  constructor
  · intro h
    by_contra hne
    obtain ⟨x, hx⟩ := List.exists_mem_of_ne_nil xs hne
    obtain ⟨y, hy, -⟩ : ∃ y ∈ firstOfEach key xs, key y = key x := exists_mem_firstOfEach hx
    exact absurd (h ▸ hy) List.not_mem_nil
  · rintro rfl
    rfl

/-- What is kept after the values are mapped. -/
theorem mem_firstOfEach_map {f : β → α} {l : List β} :
    x ∈ firstOfEach key (l.map f) ↔ ∃ y ∈ firstOfEach (fun y => key (f y)) l, f y = x := by
  have hvalues : ∀ k, valuesOf key k (l.map f) = (valuesOf (fun y => key (f y)) k l).map f := fun k =>
    List.filter_map
  simp only [mem_firstOfEach, hvalues, List.head?_map, Option.map_eq_some_iff]
  constructor
  · rintro ⟨y, hy, rfl⟩
    exact ⟨y, hy, rfl⟩
  · rintro ⟨y, hy, rfl⟩
    exact ⟨y, hy, rfl⟩

/-! ## 2. Keys of one kind -/

/-- A key all of whose values have a property keeps one that has it. -/
theorem exists_firstOfEach_of_forall {p : α → Prop} (hx : x ∈ xs)
    (hall : ∀ y ∈ xs, key y = key x → p y) : ∃ y ∈ firstOfEach key xs, p y := by
  obtain ⟨y, hy, hkey⟩ : ∃ y ∈ firstOfEach key xs, key y = key x := exists_mem_firstOfEach hx
  exact ⟨y, hy, hall y (mem_of_mem_firstOfEach hy) hkey⟩

/-! ## 3. The worst values first -/

/-- When every key has a value without a property, putting those first keeps no other. -/
theorem not_of_worst_first {p : α → Bool} (hnone : ∀ y ∈ xs, ∃ z ∈ xs, key z = key y ∧ p z = false)
    (hx : x ∈ firstOfEach key (xs.filter (!p ·) ++ xs.filter p)) : p x = false := by
  have hmem : x ∈ xs := by
    have happend := mem_of_mem_firstOfEach hx
    simp only [List.mem_append, List.mem_filter] at happend
    exact happend.elim And.left And.left
  obtain ⟨z, hz, hkey, hworse⟩ := hnone x hmem
  rw [mem_firstOfEach, valuesOf_append] at hx
  have hfront : valuesOf key (key x) (xs.filter (!p ·)) ≠ [] :=
    List.ne_nil_of_mem (mem_valuesOf.mpr ⟨List.mem_filter.mpr ⟨hz, by simp [hworse]⟩, hkey⟩)
  rw [List.head?_append_of_ne_nil _ hfront] at hx
  have hx := (List.mem_filter.mp (mem_valuesOf.mp (List.mem_of_mem_head? hx)).1).2
  simpa using hx

end Grouping
