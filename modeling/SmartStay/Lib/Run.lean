/-!
# Machines and their runs

A machine has an initial condition and a partial step function; `step s i = none`
means that the input `i` is not enabled in `s`. A run is taken under a condition
`ok` on the state before a step and the input of that step, so that one induction
serves both "in every run" (`Anything`) and "in every run whose steps all meet `ok`".

1. `Reach`, `Steps`: the states of runs, and the pairs of states a run passes through.
2. `Reach.invariant`, `Steps.invariant`, `Steps.relation`: the induction rules.
3. `exec`, `Reach.of_exec`, `Reach.of_exec_map`: an executed input list is a run.
-/

/-- A state machine with partial steps. -/
structure Machine (σ ι : Type) where
  init : σ → Prop
  step : σ → ι → Option σ

namespace Machine

variable {σ ι : Type} {M : Machine σ ι} {ok ok' : σ → ι → Prop}

/-- The condition that every step meets. -/
def Anything (_ : σ) (_ : ι) : Prop := True

/-- `M.Reach ok s`: some run from an initial state, each of whose steps meets `ok`,
ends in `s`. -/
inductive Reach (M : Machine σ ι) (ok : σ → ι → Prop) : σ → Prop
  | init {s : σ} : M.init s → Reach M ok s
  | step {s t : σ} {i : ι} : Reach M ok s → ok s i → M.step s i = some t → Reach M ok t

/-- `M.Steps ok s t`: a run from `s`, each of whose steps meets `ok`, ends in `t`. -/
inductive Steps (M : Machine σ ι) (ok : σ → ι → Prop) (s : σ) : σ → Prop
  | refl : Steps M ok s s
  | step {t u : σ} {i : ι} : Steps M ok s t → ok t i → M.step t i = some u → Steps M ok s u

/-! ## 1. Induction rules -/

/-- An invariant: it holds initially and every step that meets `ok` keeps it. -/
theorem Reach.invariant {P : σ → Prop} {s : σ} (h : M.Reach ok s)
    (base : ∀ s, M.init s → P s)
    (keep : ∀ s i t, P s → ok s i → M.step s i = some t → P t) : P s := by
  induction h with
  | init h0 => exact base _ h0
  | step _ hok hst ih => exact keep _ _ _ ih hok hst

theorem Reach.mono {s : σ} (h : M.Reach ok s) (hsub : ∀ s i, ok s i → ok' s i) :
    M.Reach ok' s := by
  induction h with
  | init h0 => exact .init h0
  | step _ hok hst ih => exact .step ih (hsub _ _ hok) hst

theorem Reach.steps {s t : σ} (h : M.Reach ok s) (hs : M.Steps ok s t) : M.Reach ok t := by
  induction hs with
  | refl => exact h
  | step _ hok hst ih => exact .step ih hok hst

/-- A property of the later states of a run, given that steps keep it. -/
theorem Steps.invariant {P : σ → Prop} {s t : σ} (h : M.Steps ok s t) (h0 : P s)
    (keep : ∀ s i t, P s → ok s i → M.step s i = some t → P t) : P t := by
  induction h with
  | refl => exact h0
  | step _ hok hst ih => exact keep _ _ _ ih hok hst

/-- A preorder that relates the two ends of every step relates the two ends of
every run, where `P` is an invariant that the steps may rely on. -/
theorem Steps.relation {R : σ → σ → Prop} {P : σ → Prop} {s t : σ} (h : M.Steps ok s t)
    (h0 : P s) (keep : ∀ s i t, P s → ok s i → M.step s i = some t → P t)
    (refl : ∀ s, R s s) (trans : ∀ s t u, R s t → R t u → R s u)
    (one : ∀ s i t, P s → ok s i → M.step s i = some t → R s t) : R s t := by
  suffices P t ∧ R s t from this.2
  induction h with
  | refl => exact ⟨h0, refl _⟩
  | step _ hok hst ih =>
    exact ⟨keep _ _ _ ih.1 hok hst, trans _ _ _ ih.2 (one _ _ _ ih.1 hok hst)⟩

/-! ## 2. Executed runs -/

section Exec
variable [∀ s i, Decidable (ok s i)]

instance (s : σ) (i : ι) : Decidable (Anything s i) := .isTrue trivial

variable (M ok) in
/-- Execute a list of inputs, as long as every step meets `ok`. -/
def exec : σ → List ι → Option σ
  | s, [] => some s
  | s, i :: is => if ok s i then (M.step s i).bind fun t => exec t is else none

theorem Steps.of_exec {s t u : σ} : ∀ {is : List ι}, M.Steps ok s t → M.exec ok t is = some u →
    M.Steps ok s u
  | [], h, he => by
    simp only [exec, Option.some.injEq] at he
    exact he ▸ h
  | i :: is, h, he => by
    simp only [exec, Option.ite_none_right_eq_some, Option.bind_eq_some_iff] at he
    obtain ⟨hok, v, hv, he⟩ := he
    exact Steps.of_exec (h.step hok hv) he

/-- The execution of an input list from an initial state is a run. -/
theorem Reach.of_exec {s t : σ} (is : List ι) (h0 : M.init s) (he : M.exec ok s is = some t) :
    M.Reach ok t :=
  (Reach.init h0).steps (Steps.of_exec .refl he)

/-- A run with a part of its last state, for last states too large to write down. -/
theorem Reach.of_exec_map {α : Type} {f : σ → α} {s : σ} {a : α} (is : List ι) (h0 : M.init s)
    (he : (M.exec ok s is).map f = some a) : ∃ t, M.Reach ok t ∧ f t = a := by
  obtain ⟨t, ht, hf⟩ := Option.map_eq_some_iff.mp he
  exact ⟨t, .of_exec is h0 ht, hf⟩

/-- The same for a condition on inputs alone, which need not be decidable. -/
theorem Steps.of_exec_all {ok' : σ → ι → Prop} {s t u : σ} : ∀ {is : List ι}, M.Steps ok' s t →
    (∀ i ∈ is, ∀ s, ok' s i) → M.exec ok t is = some u → M.Steps ok' s u
  | [], h, _, he => by
    simp only [exec, Option.some.injEq] at he
    exact he ▸ h
  | i :: is, h, hall, he => by
    simp only [exec, Option.ite_none_right_eq_some, Option.bind_eq_some_iff] at he
    obtain ⟨-, v, hv, he⟩ := he
    exact Steps.of_exec_all (h.step (hall i List.mem_cons_self t) hv)
      (fun j hj => hall j (List.mem_cons_of_mem i hj)) he

end Exec

end Machine
