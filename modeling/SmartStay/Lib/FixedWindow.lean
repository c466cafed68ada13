import SmartStay.Lib.SortedSet

/-!
# Fixed-window counters

A counter with a time to live: the first event opens a window of a given width, the events
up to its end are counted, and the next one opens another window.

1. `inWindow`: how many of some times lie in a window.
2. `WindowCounted`: the counter against all events so far.
3. The three steps that keep it: nothing happens, an event is counted, a window is opened.
4. `windowStart`, `counterOf`: the newest window of given times, and its counter.
-/

namespace FixedWindow

/-! ## 1. Windows -/

/-- The number of the times in the window `[start, start + width)`. -/
def inWindow (width : Nat) (times : List Nat) (start : Nat) : Nat :=
  times.countP fun t => decide (start ≤ t ∧ t < start + width)

variable {width max clock now : Nat} {windows times : List Nat} {counter : Volatile Nat}

theorem inWindow_cons (width now : Nat) (times : List Nat) (start : Nat) :
    inWindow width (now :: times) start =
      inWindow width times start + if start ≤ now ∧ now < start + width then 1 else 0 := by
  simp [inWindow, List.countP_cons]

/-! ## 2. The counter -/

/-- The stored counter of the window `start`. -/
structure Current (width : Nat) (times : List Nat) (start : Nat) (counter : Volatile Nat) :
    Prop where
  ends : counter.expiresAt = start + width
  counts : counter.value = inWindow width times start
  positive : 0 < counter.value

/-- The windows, newest first, do not overlap; every event lies in one of them, none of
them has more than `max`; and the counter counts the newest. -/
structure WindowCounted (width max : Nat) (windows times : List Nat)
    (counter : Option (Volatile Nat)) (clock : Nat) : Prop where
  disjoint : windows.Pairwise fun newer older => older + width ≤ newer
  covered : ∀ t ∈ times, ∃ w ∈ windows, w ≤ t ∧ t < w + width
  bounded : ∀ w ∈ windows, inWindow width times w ≤ max
  past : ∀ w ∈ windows, w ≤ clock
  missing : counter = none → windows = []
  current : ∀ v, counter = some v → ∃ w older, windows = w :: older ∧ Current width times w v

/-! ## 3. Steps -/

theorem windowCounted_empty (width max clock : Nat) : WindowCounted width max [] [] none clock := by
  refine ⟨List.Pairwise.nil, ?_, ?_, ?_, fun _ => rfl, ?_⟩ <;> simp

theorem WindowCounted.wait {counter : Option (Volatile Nat)}
    (h : WindowCounted width max windows times counter clock) (hclock : clock ≤ now) :
    WindowCounted width max windows times counter now :=
  { h with past := fun w hw => Nat.le_trans (h.past w hw) hclock }

/-- In a window that is not over, one more event is counted. -/
theorem WindowCounted.count (h : WindowCounted width max windows times (some counter) clock)
    (hclock : clock ≤ now) (hlive : now < counter.expiresAt) (hbelow : counter.value < max) :
    WindowCounted width max windows (now :: times)
      (some { counter with value := counter.value + 1 }) now := by
  obtain ⟨w, older, hwindows, hends, hcounts, -⟩ := h.current counter rfl
  have hw : w ∈ windows := by simp [hwindows]
  have hin : w ≤ now ∧ now < w + width := by
    have hpast := h.past w hw
    omega
  have hnewest : inWindow width (now :: times) w = inWindow width times w + 1 := by
    rw [inWindow_cons, if_pos hin]
  refine ⟨h.disjoint, ?_, ?_, (h.wait hclock).past, by simp, ?_⟩
  · intro t ht
    rcases List.mem_cons.mp ht with rfl | ht
    · exact ⟨w, hw, hin⟩
    · exact h.covered t ht
  · intro w' hw'
    rw [hwindows] at hw'
    rcases List.mem_cons.mp hw' with rfl | hold
    · omega
    · -- The older windows are over.
      have hover := h.disjoint
      rw [hwindows, List.pairwise_cons] at hover
      have hbefore := hover.1 w' hold
      rw [inWindow_cons, if_neg (by omega)]
      exact h.bounded w' (by simp [hwindows, hold])
  · intro v hv
    cases hv
    exact ⟨w, older, hwindows, hends, by rw [hnewest, hcounts], Nat.succ_pos _⟩

/-- When no window is running, an event opens one. -/
theorem WindowCounted.opens {counter : Option (Volatile Nat)}
    (h : WindowCounted width max windows times counter clock) (hclock : clock ≤ now)
    (hover : ∀ v, counter = some v → v.expiresAt ≤ now) (hmax : 0 < max) (hwidth : 0 < width) :
    WindowCounted width max (now :: windows) (now :: times) (some ⟨1, now + width⟩) now := by
  have hended : ∀ w ∈ windows, w + width ≤ now := by
    intro w hw
    cases hcounter : counter with
    | none => simp [h.missing hcounter] at hw
    | some v =>
      obtain ⟨w', older, hwindows, hends, -, -⟩ := h.current v hcounter
      have hend := hover v hcounter
      have hdisjoint := h.disjoint
      rw [hwindows, List.pairwise_cons] at hdisjoint
      rw [hwindows] at hw
      rcases List.mem_cons.mp hw with rfl | hw
      · omega
      · have hbefore := hdisjoint.1 w hw
        omega
  have hfirst : inWindow width (now :: times) now = 1 := by
    have hnone : inWindow width times now = 0 := by
      refine List.countP_eq_zero.mpr fun t ht => ?_
      obtain ⟨w, hw, hin⟩ := h.covered t ht
      have hend := hended w hw
      simp only [decide_eq_true_eq]
      omega
    rw [inWindow_cons, hnone, if_pos (by omega)]
  refine ⟨List.pairwise_cons.mpr ⟨hended, h.disjoint⟩, ?_, ?_, ?_, by simp, ?_⟩
  · intro t ht
    rcases List.mem_cons.mp ht with rfl | ht
    · exact ⟨t, List.mem_cons_self, by omega⟩
    · obtain ⟨w, hw, hin⟩ := h.covered t ht
      exact ⟨w, List.mem_cons_of_mem _ hw, hin⟩
  · intro w hw
    rcases List.mem_cons.mp hw with rfl | hw
    · omega
    · have hend := hended w hw
      rw [inWindow_cons, if_neg (by omega)]
      exact h.bounded w hw
  · intro w hw
    rcases List.mem_cons.mp hw with rfl | hw
    · exact Nat.le_refl _
    · exact Nat.le_trans (h.past w hw) hclock
  · intro v hv
    cases hv
    exact ⟨now, windows, rfl, rfl, hfirst.symm, Nat.one_pos⟩

/-! ## 4. The windows of given times -/

/-- The start of the newest window; the newest of the times comes first. A time that lies in no
window opens one. -/
def windowStart (width : Nat) : List Nat → Option Nat
  | [] => none
  | t :: older => match windowStart width older with
    | some w => some (if t < w + width then w else t)
    | none => some t

/-- The counter of the newest window. -/
def counterOf (width : Nat) (times : List Nat) : Option (Volatile Nat) :=
  (windowStart width times).map fun w => ⟨inWindow width times w, w + width⟩

theorem eq_nil_of_windowStart (h : windowStart width times = none) : times = [] := by
  cases times with
  | nil => rfl
  | cons t older => rw [windowStart] at h; split at h <;> cases h

theorem windowStart_spec (hwidth : 0 < width) {start : Nat}
    (h : windowStart width times = some start) :
    start ∈ times ∧ ∀ t ∈ times, t < start + width := by
  induction times generalizing start with
  | nil => cases h
  | cons t older ih =>
    rw [windowStart] at h
    cases hw : windowStart width older with
    | none =>
      rw [hw] at h
      obtain rfl := Option.some.inj h
      simp [eq_nil_of_windowStart hw, hwidth]
    | some w =>
      rw [hw] at h
      obtain ⟨hmem, hall⟩ := ih hw
      obtain rfl := Option.some.inj h
      split
      next hlt => exact ⟨List.mem_cons_of_mem _ hmem, List.forall_mem_cons.mpr ⟨hlt, hall⟩⟩
      next hge =>
        refine ⟨List.mem_cons_self, List.forall_mem_cons.mpr ⟨by omega, fun u hu => ?_⟩⟩
        have hu' := hall u hu
        omega

/-- Times before its end leave a window the newest one. -/
theorem windowStart_append {later : List Nat} {start : Nat}
    (h : windowStart width times = some start) (hbefore : ∀ t ∈ later, t < start + width) :
    windowStart width (later ++ times) = some start := by
  induction later with
  | nil => exact h
  | cons t later ih =>
    obtain ⟨ht, hlater⟩ := List.forall_mem_cons.mp hbefore
    rw [List.cons_append, windowStart, ih hlater]
    exact congrArg some (if_pos ht)

/-- One more time is counted, or opens a window. -/
theorem counterOf_cons (hwidth : 0 < width) (hpast : ∀ t ∈ times, t ≤ now) :
    counterOf width (now :: times) = some (match counterOf width times with
      | some v => if v.expiresAt ≤ now then ⟨1, now + width⟩ else { v with value := v.value + 1 }
      | none => ⟨1, now + width⟩) := by
  have hopen (hover : ∀ t ∈ times, t < now) : inWindow width (now :: times) now = 1 := by
    have hnone : inWindow width times now = 0 := List.countP_eq_zero.mpr fun t ht hin =>
      absurd (of_decide_eq_true hin).1 (Nat.not_le.mpr (hover t ht))
    rw [inWindow_cons, hnone, if_pos (by omega)]
  cases hw : windowStart width times with
  | none =>
    rw [counterOf, counterOf, windowStart, hw, Option.map_some,
      hopen (by simp [eq_nil_of_windowStart hw])]
    rfl
  | some w =>
    obtain ⟨hmem, hall⟩ := windowStart_spec hwidth hw
    have hle := hpast w hmem
    rw [counterOf, counterOf, windowStart, hw]
    simp only [Option.map_some]
    by_cases hlt : now < w + width
    · rw [if_pos hlt, if_neg (by omega), inWindow_cons, if_pos ⟨hle, hlt⟩]
    · rw [if_neg hlt, if_pos (by omega), hopen fun t ht => (hall t ht).trans_le (by omega)]

end FixedWindow
