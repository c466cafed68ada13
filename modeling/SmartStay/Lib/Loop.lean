/-!
# While loops

A `while` loop of a script, run for at most `fuel` rounds. The body may leave the loop
before the condition fails (`none`).

1. `whileLoop` and its three endings.
2. `whileLoop_ends`, `whileLoop_fuel`: with a measure that the body decreases, the loop
   ends, and more fuel changes nothing.
3. `Ending.All`, `whileLoop_all`: the invariant rule; `whileLoop_exit`: why the loop ended.
-/

/-- How a loop ends: still running when the fuel is gone, left by the body, or done. -/
inductive Ending (σ : Type)
  | running
  | broke (s : σ)
  | done (s : σ)
deriving DecidableEq, Repr

variable {σ : Type} {cond : σ → Bool} {body : σ → Option σ}

/-- `while cond(s) do s = body(s) end`. -/
def whileLoop (cond : σ → Bool) (body : σ → Option σ) : Nat → σ → Ending σ
  | 0, s => if cond s then .running else .done s
  | fuel + 1, s =>
    if cond s then
      match body s with
      | none => .broke s
      | some s' => whileLoop cond body fuel s'
    else .done s

/-- A loop whose condition fails is done at once. -/
theorem whileLoop_done {s : σ} (h : cond s = false) (fuel : Nat) :
    whileLoop cond body fuel s = .done s := by
  cases fuel <;> simp [whileLoop, h]

section Measure
variable {m : σ → Nat} (hdec : ∀ s s', cond s = true → body s = some s' → m s' < m s)
include hdec

/-- With more fuel than the measure, the loop does not run out of it. -/
theorem whileLoop_ends {fuel : Nat} {s : σ} (h : m s < fuel) :
    whileLoop cond body fuel s ≠ .running := by
  induction fuel generalizing s with
  | zero => exact absurd h (Nat.not_lt_zero _)
  | succ fuel ih =>
    rw [whileLoop]
    split
    · next hc =>
      split
      · simp
      · next s' hb =>
        have hlt := hdec s s' hc hb
        exact ih (by omega)
    · simp

theorem whileLoop_fuel {fuel fuel' : Nat} {s : σ} (h : m s < fuel) (h' : m s < fuel') :
    whileLoop cond body fuel s = whileLoop cond body fuel' s := by
  induction fuel generalizing fuel' s with
  | zero => exact absurd h (Nat.not_lt_zero _)
  | succ fuel ih =>
    cases fuel' with
    | zero => exact absurd h' (Nat.not_lt_zero _)
    | succ fuel' =>
      rw [whileLoop, whileLoop]
      split
      · next hc =>
        split
        · rfl
        · next s' hb =>
          have hlt := hdec s s' hc hb
          exact ih (by omega) (by omega)
      · rfl

end Measure

/-- The state at the end, if there is one, satisfies `P`. -/
def Ending.All (P : σ → Prop) : Ending σ → Prop
  | .running => True
  | .broke s | .done s => P s

/-- An invariant of the body holds at the end. -/
theorem whileLoop_all {P : σ → Prop} (hkeep : ∀ s s', P s → body s = some s' → P s') {s : σ}
    (h : P s) (fuel : Nat) : (whileLoop cond body fuel s).All P := by
  induction fuel generalizing s with
  | zero =>
    rw [whileLoop]
    split
    · trivial
    · exact h
  | succ fuel ih =>
    rw [whileLoop]
    split
    · split
      · exact h
      · next s' hb => exact ih (hkeep s s' h hb)
    · exact h

/-- The state at the end of a loop that ends. -/
def Ending.getD (fallback : σ) : Ending σ → σ
  | .running => fallback
  | .broke s | .done s => s

/-- At the end the body left the loop or its condition fails. -/
theorem whileLoop_exit (cond : σ → Bool) (body : σ → Option σ) (fuel : Nat) (s : σ) :
    (whileLoop cond body fuel s).All fun s' => body s' = none ∨ cond s' = false := by
  induction fuel generalizing s with
  | zero =>
    rw [whileLoop]
    split
    · trivial
    · next hc => exact .inr (by simpa using hc)
  | succ fuel ih =>
    rw [whileLoop]
    split
    · split
      · next hb => exact .inl hb
      · exact ih _
    · next hc => exact .inr (by simpa using hc)

/-- A loop that is done has a condition that fails. -/
theorem whileLoop_done_cond {fuel : Nat} {s s' : σ} (h : whileLoop cond body fuel s = .done s') :
    cond s' = false := by
  induction fuel generalizing s with
  | zero =>
    rw [whileLoop] at h
    split at h
    · cases h
    · next hc =>
      cases h
      simpa using hc
  | succ fuel ih =>
    rw [whileLoop] at h
    split at h
    · split at h
      · cases h
      · exact ih h
    · next hc =>
      cases h
      simpa using hc

theorem Ending.All.getD {P : σ → Prop} {ending : Ending σ} {fallback : σ} (h : ending.All P)
    (hends : ending ≠ .running) : P (ending.getD fallback) := by
  cases ending with
  | running => exact absurd rfl hends
  | broke s => exact h
  | done s => exact h
