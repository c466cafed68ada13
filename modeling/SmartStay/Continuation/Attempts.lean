import SmartStay.Continuation.Lifecycle

/-!
# Attempts at one page

How often a provider is begun at one cursor. `attemptsForCursor` counts the attempts since
the cursor came up. A success that goes back to an earlier cursor starts it again, and a
recovery makes an execution runnable without a look at it.

1. `Budgeted`: the count of an execution against the attempts that were begun.
2. `WithinBudget`: the transitions that respect the count, and the step lemmas.
3. `attempts_bounded`, and `attempts_exceed`: a provider begun three times out of two.
-/

namespace SmartStay.Continuation

variable {s t : Progress} {transition : Transition} {now : Nat} {providerId : ProviderId}
  {begun : List (ProviderId × String)} {e e' : ProviderExecution} {cursors : List String}

/-! ## 1. The count of an execution -/

/-- The attempts at every cursor are within the limit; the count of the execution is that
of its cursor, and it leaves another attempt where one may follow. -/
structure Budgeted (begun : List (ProviderId × String)) (e : ProviderExecution) : Prop where
  positive : 0 < e.maxAttemptsPerCursor
  within : ∀ cursor, begun.count (e.providerId, cursor) ≤ e.maxAttemptsPerCursor
  exact : Active e → ∀ c, e.continuation = some c →
    begun.count (e.providerId, c.cursor) = e.attemptsForCursor
  left : e.state = .pending ∨ e.state = .retryableFailure →
    e.attemptsForCursor < e.maxAttemptsPerCursor

theorem normalizePositiveInteger_pos {value fallbackValue : Nat} (h : 0 < fallbackValue) :
    0 < normalizePositiveInteger value fallbackValue := by
  unfold normalizePositiveInteger
  split
  · assumption
  · exact h

theorem create_budgeted (now : Nat) (descriptor : ProviderDescriptor) :
    Budgeted [] (createProviderExecutionState now descriptor) := by
  have hpos : 0 < (createProviderExecutionState now descriptor).maxAttemptsPerCursor :=
    normalizePositiveInteger_pos (by decide)
  exact ⟨hpos, fun cursor => by simp, fun _ c _ => by simp [createProviderExecutionState],
    fun _ => hpos⟩

/-- What normalisation leaves active it leaves as it is. -/
theorem normalize_state_of_active (h : Active (normalizeProviderExecutionState e)) :
    (normalizeProviderExecutionState e).state = e.state := by
  simp only [Active, normalizeProviderExecutionState] at h ⊢
  split at h
  · next hcan => rw [if_pos hcan]
  · next hcan =>
    rw [if_neg hcan]
    cases hstate : e.state <;> simp [hstate] at h

theorem Budgeted.normalize (h : Budgeted begun e) :
    Budgeted begun (normalizeProviderExecutionState e) := by
  have hmax : (normalizeProviderExecutionState e).maxAttemptsPerCursor = e.maxAttemptsPerCursor :=
    if_pos h.positive
  refine ⟨?_, ?_, ?_, ?_⟩
  · rw [hmax]
    exact h.positive
  · rw [hmax]
    exact h.within
  · intro hactive
    have hstate := normalize_state_of_active hactive
    rw [Active, hstate] at hactive
    exact h.exact hactive
  · intro hleft
    have hstate := normalize_state_of_active (hleft.imp id .inr)
    rw [hstate] at hleft
    rw [hmax]
    exact h.left hleft

theorem Budgeted.recovered (h : Budgeted begun e)
    (hrun : e.state = .running → e.attemptsForCursor < e.maxAttemptsPerCursor) :
    Budgeted begun (recovered e) := by
  have hnormal := h.normalize
  unfold Continuation.recovered
  dsimp only
  split
  · next hstate =>
    refine ⟨hnormal.positive, hnormal.within, fun _ => hnormal.exact (.inr (.inl hstate)), ?_⟩
    intro _
    have hmax : (normalizeProviderExecutionState e).maxAttemptsPerCursor =
        e.maxAttemptsPerCursor := if_pos h.positive
    exact hmax ▸ hrun (normalize_running hstate)
  · exact hnormal

/-- The attempts of another provider do not count. -/
theorem Budgeted.others (h : Budgeted begun e) (hne : e.providerId ≠ providerId) :
    Budgeted (cursors.map (providerId, ·) ++ begun) e := by
  have hcount : ∀ cursor, (cursors.map (providerId, ·) ++ begun).count (e.providerId, cursor) =
      begun.count (e.providerId, cursor) := by
    intro cursor
    have hnone : (e.providerId, cursor) ∉ cursors.map (providerId, ·) := by
      simp [hne.symm]
    rw [List.count_append, List.count_eq_zero.mpr hnone, Nat.zero_add]
  refine ⟨h.positive, fun cursor => ?_, fun hactive c hc => ?_, h.left⟩
  · rw [hcount]
    exact h.within cursor
  · rw [hcount]
    exact h.exact hactive c hc

/-! ## 2. Transitions within the budget -/

/-- A recovery meets no running execution whose attempts are used up, and a success never
goes back to a cursor at which its provider was begun before. -/
def WithinBudget (s : Progress) : Transition × Nat → Prop
  | (.recover, _) => ∀ e ∈ s.executions, e.state = .running →
      e.attemptsForCursor < e.maxAttemptsPerCursor
  | (.success providerId success, _) => ∀ e ∈ getProviderExecution s.executions providerId,
      ∀ c ∈ success.continuation, e.continuation ≠ some c → (providerId, c.cursor) ∉ s.begun
  | (.begin _, _) | (.failure _ _, _) => True

/-- The execution a transition moves stays within its budget. -/
theorem Moves.budgeted (h : Moves now e transition e' cursors)
    (hprovider : transition.provider = some providerId)
    (hsame : e'.providerId = providerId ∧ e'.maxAttemptsPerCursor = e.maxAttemptsPerCursor)
    (hid : e.providerId = providerId) (he : Budgeted begun e) (hcan : Continuable e)
    (hback : ∀ p success, transition = .success p success → ∀ c ∈ success.continuation,
      e.continuation ≠ some c → (providerId, c.cursor) ∉ begun) :
    Budgeted (cursors.map (providerId, ·) ++ begun) e' := by
  obtain ⟨hid', hmax⟩ := hsame
  have hpos : 0 < e'.maxAttemptsPerCursor := hmax ▸ he.positive
  have hwithin : ∀ cursor, begun.count (e'.providerId, cursor) ≤ e'.maxAttemptsPerCursor := by
    rw [hid', hmax, ← hid]
    exact he.within
  cases h with
  | begun hrunnable hc hrun hc' hattempts =>
    next p c =>
    have hstate := ((runnable_iff hcan).mp hrunnable).1
    have hleft := he.left hstate
    have hcount := he.exact (hstate.imp id .inr) c hc
    have hcons : ∀ cursor, ([c.cursor].map (providerId, ·) ++ begun).count (providerId, cursor) =
        begun.count (providerId, cursor) + if c.cursor = cursor then 1 else 0 := by
      intro cursor
      simp [List.count_cons]
    rw [hid] at hcount
    refine ⟨hpos, fun cursor => ?_, fun _ c' hsome => ?_, ?_⟩
    · have hold := hwithin cursor
      rw [hid'] at hold ⊢
      rw [hcons]
      split
      · next hcursor =>
        rw [← hcursor, hcount, hmax]
        omega
      · omega
    · rw [hc', Option.some.injEq] at hsome
      subst hsome
      rw [hid', hcons, hcount, hattempts, if_pos rfl]
    · rw [hrun]
      simp
  | ended hrun hdone =>
    refine ⟨hpos, hwithin, fun hactive => absurd hdone hactive.not_done, fun hstate => ?_⟩
    exact absurd hdone (Active.not_done (hstate.imp id .inr))
  | advanced hrun hnext hother hstate hc hattempts =>
    next p success c =>
    have hfresh := hback p success rfl c hnext hother
    refine ⟨hpos, hwithin, fun _ c' hsome => ?_, fun _ => hattempts ▸ hpos⟩
    rw [hc, Option.some.injEq] at hsome
    subst hsome
    rw [hid', hattempts]
    exact List.count_eq_zero.mpr hfresh
  | retried hrun hstate hc hattempts hbelow =>
    refine ⟨hpos, hwithin, fun _ c hsome => ?_, fun _ => ?_⟩
    · rw [hid', ← hid, hattempts]
      exact he.exact (.inr (.inl hrun)) c (hc ▸ hsome)
    · rw [hattempts, hmax]
      exact hbelow

theorem budgeted_step (hs : Sound s) (h : ∀ e ∈ s.executions, Budgeted s.begun e)
    (hok : WithinBudget s (transition, now)) (hstep : s.step (transition, now) = some t) :
    ∀ e ∈ t.executions, Budgeted t.begun e := by
  rcases step_cases hstep with ⟨rfl, rfl⟩ | ⟨providerId, e, e', cursors, hmoves⟩
  · intro y hy
    change y ∈ recoverStaleProviderExecutions s.executions at hy
    rw [recover_eq_map hs.ids] at hy
    obtain ⟨y', hy', rfl⟩ := List.mem_map.mp hy
    exact (h y' hy').recovered (hok y' hy')
  · intro y hy
    rw [hmoves.begun]
    rw [hmoves.replaced] at hy
    have hnormal : ∀ x ∈ normalizeProviderExecutionStates s.executions, Budgeted s.begun x := by
      intro x hx
      obtain ⟨x', hx', rfl⟩ := mem_normalize hx
      exact (h x' hx').normalize
    rcases mem_setExecution hy with rfl | ⟨hy, hne⟩
    · obtain ⟨e₀, hentry, rfl, -⟩ := hmoves.active hs
      obtain ⟨he₀, hid⟩ := mem_of_entry hentry
      have he := (h e₀ he₀).normalize
      have hcan := normalize_continuable e₀
      have hback : ∀ p success, transition = .success p success → ∀ c ∈ success.continuation,
          (normalizeProviderExecutionState e₀).continuation ≠ some c →
          (providerId, c.cursor) ∉ s.begun := by
        rintro p success rfl c hc hother
        have hp := hmoves.provider
        simp only [Transition.provider, Option.some.injEq] at hp
        subst hp
        exact hok _ hmoves.found c hc hother
      have hmoved := hmoves.moves.budgeted hmoves.provider hmoves.same hid he hcan hback
      exact hmoved.normalize
    · have hother : y.providerId ≠ providerId := hmoves.same.1 ▸ hne
      exact (hnormal y hy).others hother

/-! ## 3. The bound -/

/-- In every run within the budget, no provider is begun more than `maxAttemptsPerCursor`
times at one cursor. -/
theorem attempts_bounded (h : lifecycle.Reach WithinBudget s) :
    ∀ e ∈ s.executions, ∀ cursor,
      s.begun.count (e.providerId, cursor) ≤ e.maxAttemptsPerCursor := by
  have hbudget : Sound s ∧ ∀ e ∈ s.executions, Budgeted s.begun e := by
    refine h.invariant (P := fun s => Sound s ∧ ∀ e ∈ s.executions, Budgeted s.begun e)
      (fun s hinit => ⟨sound_init hinit, ?_⟩) ?_
    · obtain ⟨now, descriptors, rfl⟩ := hinit
      intro e he
      rcases mem_foldl_setExecution _ _ he with he | he
      · cases he
      · obtain ⟨descriptor, -, rfl⟩ := List.mem_map.mp he
        exact create_budgeted now descriptor
    · rintro s ⟨transition, now⟩ t ⟨hs, hall⟩ hok hstep
      exact ⟨hs.step hstep, budgeted_step hs hall hok hstep⟩
  exact fun e he => (hbudget.2 e he).within

instance : ∀ s i, Decidable (WithinBudget s i)
  | s, (.recover, _) => inferInstanceAs (Decidable (∀ e ∈ s.executions, e.state = .running →
      e.attemptsForCursor < e.maxAttemptsPerCursor))
  | s, (.success providerId success, _) => inferInstanceAs (Decidable
      (∀ e ∈ getProviderExecution s.executions providerId, ∀ c ∈ success.continuation,
        e.continuation ≠ some c → (providerId, c.cursor) ∉ s.begun))
  | _, (.begin _, _) | _, (.failure _ _, _) => .isTrue trivial

/-- A crash during the first attempt, then a success and a timeout. -/
def recoveredRun : List (Transition × Nat) :=
  [(.begin hotelbeds, 10), (.recover, 20)] ++ secondPageRun

theorem attempts_bounded_recovered : ∃ s, lifecycle.Reach WithinBudget s ∧
    s.begun = [(hotelbeds, "2"), (hotelbeds, "1"), (hotelbeds, "1")] ∧
    ∀ e ∈ s.executions, ∀ cursor,
      s.begun.count (e.providerId, cursor) ≤ e.maxAttemptsPerCursor := by
  have hrun : (lifecycle.exec WithinBudget firstPage recoveredRun).map Progress.begun =
      some [(hotelbeds, "2"), (hotelbeds, "1"), (hotelbeds, "1")] := by decide +kernel
  obtain ⟨s, hs, hbegun⟩ := Machine.Reach.of_exec_map recoveredRun firstPage_init hrun
  exact ⟨s, hs, hbegun, attempts_bounded hs⟩

/-- Two crashes: each leaves the provider running, and the next call recovers it. -/
def crashRun : List (Transition × Nat) :=
  [(.begin hotelbeds, 10), (.recover, 20), (.begin hotelbeds, 30), (.recover, 40),
    (.begin hotelbeds, 50)]

/-- The third attempt at the cursor `1`, where two are allowed. -/
theorem attempts_exceed : ∃ s, lifecycle.Reach Machine.Anything s ∧
    ∃ e ∈ s.executions, ∃ cursor, e.maxAttemptsPerCursor < s.begun.count (e.providerId, cursor) := by
  have hrun : (lifecycle.exec Machine.Anything firstPage crashRun).map
      (fun s => (s.executions.map fun e => (e.providerId, e.maxAttemptsPerCursor), s.begun)) =
      some ([(hotelbeds, 2)], List.replicate 3 (hotelbeds, "1")) := by decide +kernel
  obtain ⟨s, hs, hlast⟩ := Machine.Reach.of_exec_map crashRun firstPage_init hrun
  obtain ⟨hexecutions, hbegun⟩ := Prod.mk.inj hlast
  obtain ⟨e, he, hfields⟩ : ∃ e ∈ s.executions,
      (e.providerId, e.maxAttemptsPerCursor) = (hotelbeds, 2) :=
    List.mem_map.mp (hexecutions ▸ List.mem_singleton_self _)
  obtain ⟨hid, hmax⟩ := Prod.mk.inj hfields
  refine ⟨s, hs, e, he, "1", ?_⟩
  rw [hbegun, hid, hmax]
  decide +kernel

end SmartStay.Continuation
