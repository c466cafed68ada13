import Mathlib.Data.List.Basic

/-!
# Computations that can fail

1. `bind_ok`, `throwIf_ok`, `forM_ok`: the steps of a successful computation.
2. `mapM_ok`, `mapM_map_eq`, `mapM_eq_ok`: where the elements of a successful `mapM` come from,
   and when it succeeds.
3. `exists_ok`: a computation that was run and passed a test has a result that passes it.
-/

namespace Fallible

variable {α β ε : Type}

theorem bind_ok {x : Except ε α} {f : α → Except ε β} {b : β} :
    (x >>= f) = .ok b ↔ ∃ a, x = .ok a ∧ f a = .ok b := by
  cases x with
  | error e => simp [bind, Except.bind]
  | ok a => simp [bind, Except.bind]

/-- A computation that goes on only when a test fails. -/
theorem errorIf_ok {c : Prop} [Decidable c] {e : ε} {x : Except ε α} {a : α} :
    (if c then .error e else x) = .ok a ↔ ¬ c ∧ x = .ok a := by
  by_cases hc : c <;> simp [hc]

theorem throwIf_ok {c : Prop} [Decidable c] {e : ε} {x : Except ε α} {a : α} :
    (if c then throw e else x) = .ok a ↔ ¬ c ∧ x = .ok a :=
  errorIf_ok

theorem throwIf_bind_ok {c : Prop} [Decidable c] {e : ε} {f : α → Except ε β} {x : Except ε β}
    {b : β} : (if c then throw e >>= f else x) = .ok b ↔ ¬ c ∧ x = .ok b :=
  throwIf_ok

theorem forM_ok {f : α → Except ε Unit} {xs : List α} {u : Unit} :
    xs.forM f = .ok u ↔ ∀ x ∈ xs, f x = .ok () := by
  induction xs with
  | nil => exact ⟨fun _ => nofun, fun _ => rfl⟩
  | cons x xs ih =>
    rw [List.forM, bind_ok, List.forall_mem_cons]
    constructor
    · rintro ⟨_, hx, hxs⟩
      exact ⟨hx, ih.mp hxs⟩
    · rintro ⟨hx, hxs⟩
      exact ⟨(), hx, ih.mpr hxs⟩

theorem mapM_cons_ok {f : α → Except ε β} {x : α} {xs : List α} {ys : List β}
    (h : (x :: xs).mapM f = .ok ys) :
    ∃ y ys', ys = y :: ys' ∧ f x = .ok y ∧ xs.mapM f = .ok ys' := by
  rw [List.mapM_cons] at h
  cases hx : f x with
  | error => simp [hx, bind, Except.bind] at h
  | ok y =>
    cases hxs : xs.mapM f with
    | error => simp [hx, hxs, bind, Except.bind] at h
    | ok ys' =>
      refine ⟨y, ys', ?_, rfl, rfl⟩
      simpa [hx, hxs, bind, Except.bind, pure, Except.pure] using h.symm

theorem mapM_ok {f : α → Except ε β} {xs : List α} {ys : List β} (h : xs.mapM f = .ok ys) :
    ∀ y ∈ ys, ∃ x ∈ xs, f x = .ok y := by
  induction xs generalizing ys with
  | nil =>
    cases h
    simp
  | cons x xs ih =>
    obtain ⟨y, ys', rfl, hx, hxs⟩ := mapM_cons_ok h
    intro z hz
    rcases List.mem_cons.mp hz with rfl | hz
    · exact ⟨x, List.mem_cons_self, hx⟩
    · obtain ⟨w, hw, hfw⟩ := ih hxs z hz
      exact ⟨w, List.mem_cons_of_mem _ hw, hfw⟩

/-- What the results show is what is computed from the elements. -/
theorem mapM_map_eq {γ : Type} {f : α → Except ε β} {g : β → γ} {h : α → γ} {xs : List α}
    {ys : List β} (hf : ∀ x ∈ xs, ∀ y, f x = .ok y → g y = h x) (hys : xs.mapM f = .ok ys) :
    ys.map g = xs.map h := by
  induction xs generalizing ys with
  | nil =>
    cases hys
    rfl
  | cons x xs ih =>
    obtain ⟨y, ys', rfl, hx, hxs⟩ := mapM_cons_ok hys
    rw [List.map_cons, List.map_cons, hf x List.mem_cons_self y hx,
      ih (fun x' hx' => hf x' (List.mem_cons_of_mem _ hx')) hxs]

theorem mapM_eq_ok {f : α → Except ε β} {h : α → β} {xs : List α}
    (hf : ∀ x ∈ xs, f x = .ok (h x)) : xs.mapM f = .ok (xs.map h) := by
  induction xs with
  | nil => rfl
  | cons x xs ih =>
    rw [List.mapM_cons, hf x List.mem_cons_self, ih fun y hy => hf y (List.mem_cons_of_mem _ hy)]
    rfl

/-- A successful `mapM` is the list of the results. -/
theorem mapM_ok_iff {f : α → Except ε β} {xs : List α} {ys : List β} : xs.mapM f = .ok ys ↔
    (∀ x ∈ xs, ∃ y, f x = .ok y) ∧ ys = xs.filterMap fun x => (f x).toOption := by
  induction xs generalizing ys with
  | nil => simp [pure, Except.pure, eq_comm]
  | cons x xs ih =>
    rw [List.mapM_cons, bind_ok, List.forall_mem_cons]
    constructor
    · rintro ⟨y, hx, hrest⟩
      obtain ⟨ys', hxs, hys⟩ := bind_ok.mp hrest
      obtain ⟨hall, rfl⟩ := ih.mp hxs
      refine ⟨⟨⟨y, hx⟩, hall⟩, ?_⟩
      rw [List.filterMap_cons_some (b := y) (by rw [hx]; rfl)]
      exact (Except.ok.inj hys).symm
    · rintro ⟨⟨⟨y, hx⟩, hall⟩, rfl⟩
      refine ⟨y, hx, bind_ok.mpr ⟨_, ih.mpr ⟨hall, rfl⟩, ?_⟩⟩
      rw [List.filterMap_cons_some (b := y) (by rw [hx]; rfl)]
      rfl

theorem exists_ok {x : Except ε α} {p : α → Bool} (h : (x.toOption.map p) = some true) :
    ∃ a, x = .ok a ∧ p a = true := by
  cases x with
  | error => simp [Except.toOption] at h
  | ok a => exact ⟨a, rfl, by simpa [Except.toOption] using h⟩

end Fallible
