import SmartStay.Lib.FixedWindow
import SmartStay.Lib.Run

/-!
# The shared endpoint rate limiter

Any number of servers count the requests of a client under one key of the store.

1. `INCREMENT_SCRIPT`, the policies, and the system of all requests.
2. `Refines`: the store against the times of the requests that were counted.
3. `answers_exact`: what a client is told.
4. `admitted_in_windows`: how many requests are let through.
-/

namespace SmartStay.RateLimit

open FixedWindow

variable {κ : Type} [DecidableEq κ]

/-! ## 1. Requests -/

/-- A policy that `createLimiter` and `createValkeyRateLimitStore` accept. -/
structure RateLimitPolicy where
  windowMs : Nat
  maxRequests : Nat
  windowMs_min : 100 ≤ windowMs
  windowMs_max : windowMs ≤ 24 * 60 * 60 * 1000
  maxRequests_pos : 0 < maxRequests

theorem RateLimitPolicy.windowMs_pos (p : RateLimitPolicy) : 0 < p.windowMs :=
  (Nat.zero_lt_succ 99).trans_le p.windowMs_min

/-- `INCREMENT_SCRIPT`, with its reply. -/
def incrementScript (s : Keyspace κ Nat) (now windowMs : Nat) (key : κ) :
    Keyspace κ Nat × Nat × Nat :=
  let ttl := (s.pttl now key).getD 0
  match s.get now key with
  | none => (s.setPx now windowMs key 1, 1, windowMs)
  | some current =>
    if ttl = 0 then (s.setPx now windowMs key 1, 1, windowMs) else (s.incr key, current + 1, ttl)

/-- The request goes on, or is rejected with status 429 or 503. -/
inductive Answer
  | admitted
  | rateLimited (ttlMs : Nat)
  | unavailable
deriving DecidableEq

/-- A request whose script runs at the store; its limiter and its client give the key. One whose
script does not run is answered `unavailable` and changes nothing. -/
structure Request (κ : Type) where
  key : κ
  time : Nat
  replied : Bool

structure Entry (κ : Type) extends Request κ where
  answer : Answer

/-- The store, its clock, and what was answered so far, newest first. -/
structure LimiterState (κ : Type) where
  store : Keyspace κ Nat
  clock : Nat
  log : List (Entry κ)

/-- `sharedRateLimiter`: the middleware rejects above the limit, and fails without a reply. -/
def sharedRateLimiter (policy : κ → RateLimitPolicy) (s : LimiterState κ) (r : Request κ) :
    LimiterState κ :=
  let (store, totalHits, ttlMs) := incrementScript s.store r.time (policy r.key).windowMs r.key
  ⟨store, r.time, ⟨r,
    if !r.replied then .unavailable
    else if totalHits ≤ (policy r.key).maxRequests then .admitted
    else .rateLimited ttlMs⟩ :: s.log⟩

/-- The requests of all clients at all servers, in the order in which the store sees them. -/
def limiter (policy : κ → RateLimitPolicy) : Machine (LimiterState κ) (Request κ) where
  init s := s = ⟨∅, 0, []⟩
  step s r := if s.clock ≤ r.time then some (sharedRateLimiter policy s r) else none

/-! ## 2. The store -/

variable {policy : κ → RateLimitPolicy} {s : LimiterState κ} {key : κ}

/-- When the script ran for the key. -/
def hits (key : κ) (log : List (Entry κ)) : List Nat := (log.filter (·.key = key)).map (·.time)

theorem hits_cons (key : κ) (e : Entry κ) (log : List (Entry κ)) : hits key (e :: log) =
    if e.key = key then e.time :: hits key log else hits key log := by
  by_cases h : e.key = key <;> simp [hits, h]

/-- What a client is told at a time, given its earlier hits: the window that began with one of them
or begins now has room for one more, or it ends later. -/
def decision (p : RateLimitPolicy) (now : Nat) (earlier : List Nat) : Answer :=
  let start := (windowStart p.windowMs (now :: earlier)).getD now
  if inWindow p.windowMs (now :: earlier) start ≤ p.maxRequests then .admitted
  else .rateLimited (start + p.windowMs - now)

theorem incrementScript_spec {store : Keyspace κ Nat} {width now : Nat} {times : List Nat}
    (hwidth : 0 < width) (hpast : ∀ t ∈ times, t ≤ now)
    (hstore : Hash.hget store key = counterOf width times) :
    ∃ v, counterOf width (now :: times) = some v ∧
      incrementScript store now width key =
        (Hash.hset store key v, v.value, v.expiresAt - now) := by
  rw [counterOf_cons hwidth hpast, ← hstore, incrementScript, Keyspace.get, Keyspace.pttl,
    Keyspace.incr]
  refine ⟨_, rfl, ?_⟩
  cases Hash.hget store key with
  | none => simp [Keyspace.setPx]
  | some v =>
    by_cases hover : v.expiresAt ≤ now
    · by_cases hend : now ≤ v.expiresAt <;> simp [hover, hend, Keyspace.setPx]
    · have hlive : v.expiresAt - now ≠ 0 := by omega
      simp [hover, hlive, (Nat.lt_of_not_le hover).le]

theorem decision_eq {p : RateLimitPolicy} {now : Nat} {earlier : List Nat} {v : Volatile Nat}
    (h : counterOf p.windowMs (now :: earlier) = some v) : decision p now earlier =
      if v.value ≤ p.maxRequests then .admitted else .rateLimited (v.expiresAt - now) := by
  rw [counterOf, Option.map_eq_some_iff] at h
  obtain ⟨start, hstart, rfl⟩ := h
  rw [decision, hstart]
  rfl

/-- Each answer follows from the earlier hits of its key. -/
def Answers (policy : κ → RateLimitPolicy) : List (Entry κ) → Prop
  | [] => True
  | e :: older => Answers policy older ∧
    e.answer = if e.replied then decision (policy e.key) e.time (hits e.key older) else .unavailable

/-- The counters are those of the hits. -/
structure Refines (policy : κ → RateLimitPolicy) (s : LimiterState κ) : Prop where
  counters : ∀ key, Hash.hget s.store key = counterOf (policy key).windowMs (hits key s.log)
  sorted : s.log.Pairwise fun newer older => older.time ≤ newer.time
  past : ∀ e ∈ s.log, e.time ≤ s.clock
  answers : Answers policy s.log

theorem refines_step {r : Request κ} {t : LimiterState κ} (h : Refines policy s)
    (hstep : (limiter policy).step s r = some t) : Refines policy t := by
  simp only [limiter, Option.ite_none_right_eq_some, Option.some.injEq] at hstep
  obtain ⟨htime, rfl⟩ := hstep
  have hpast : ∀ e ∈ s.log, e.time ≤ r.time := fun e he => (h.past e he).trans htime
  have hearlier : ∀ t ∈ hits r.key s.log, t ≤ r.time := by
    intro t ht
    obtain ⟨e, he, rfl⟩ := List.mem_map.mp ht
    exact hpast e (List.mem_of_mem_filter he)
  obtain ⟨v, hv, hscript⟩ :=
    incrementScript_spec (policy r.key).windowMs_pos hearlier (h.counters r.key)
  rw [sharedRateLimiter, hscript]
  refine ⟨fun key => ?_, List.pairwise_cons.mpr ⟨hpast, h.sorted⟩,
    List.forall_mem_cons.mpr ⟨le_rfl, hpast⟩, h.answers, ?_⟩
  · rw [Hash.hget_hset, hits_cons]
    by_cases hkey : key = r.key
    · rw [if_pos hkey, if_pos hkey.symm, ← hv, hkey]
    · rw [if_neg hkey, if_neg (Ne.symm hkey), h.counters]
  · show (if !r.replied then _ else _) = if r.replied then decision _ _ _ else _
    rw [decision_eq hv]
    cases r.replied <;> rfl

theorem refines_of_reach (h : (limiter policy).Reach Machine.Anything s) : Refines policy s :=
  h.invariant (fun _ h0 => h0 ▸ ⟨fun _ => rfl, .nil, by simp, trivial⟩)
    fun _ _ _ hs _ => refines_step hs

/-! ## 3. Answers -/

theorem Answers.entry {newer older : List (Entry κ)} {e : Entry κ}
    (h : Answers policy (newer ++ e :: older)) : e.answer =
      if e.replied then decision (policy e.key) e.time (hits e.key older) else .unavailable := by
  induction newer with
  | nil => exact h.2
  | cons _ newer ih => exact ih h.1

/-- Whatever the interleaving of clients and servers, a reply tells what follows from the earlier
hits of its key alone. -/
theorem answers_exact (h : (limiter policy).Reach Machine.Anything s) {newer older : List (Entry κ)}
    {e : Entry κ} (hlog : s.log = newer ++ e :: older) (hreplied : e.replied = true) :
    e.answer = decision (policy e.key) e.time (hits e.key older) :=
  (hlog ▸ (refines_of_reach h).answers).entry.trans (if_pos hreplied)

/-- Two clients with one request in a tenth of a second each. -/
theorem limiter_run : ∃ (policy : Nat → RateLimitPolicy) (s : LimiterState Nat),
    (limiter policy).Reach Machine.Anything s ∧
      s.log = [⟨⟨0, 100, true⟩, .admitted⟩, ⟨⟨0, 5, true⟩, .rateLimited 95⟩,
        ⟨⟨1, 3, true⟩, .admitted⟩, ⟨⟨0, 0, true⟩, .admitted⟩] :=
  ⟨fun _ => ⟨100, 1, by decide, by decide, by decide⟩, Machine.Reach.of_exec_map
    [⟨0, 0, true⟩, ⟨1, 3, true⟩, ⟨0, 5, true⟩, ⟨0, 100, true⟩] rfl rfl⟩

theorem answers_exact_sample : ∃ policy : Nat → RateLimitPolicy,
    decision (policy 0) 5 [0] = .rateLimited 95 := by
  obtain ⟨policy, s, hreach, hlog⟩ := limiter_run
  exact ⟨policy,
    (answers_exact hreach (hlog.trans (show _ = [_] ++ _ :: _ from rfl)) rfl).symm⟩

/-- No room: the window began with an earlier hit, and ends later. -/
theorem decision_limited {p : RateLimitPolicy} {now ttlMs : Nat} {earlier : List Nat}
    (h : decision p now earlier = .rateLimited ttlMs) :
    ∃ w, windowStart p.windowMs (now :: earlier) = some w ∧
      p.maxRequests < inWindow p.windowMs (now :: earlier) w ∧ now + ttlMs = w + p.windowMs := by
  cases hw : windowStart p.windowMs (now :: earlier) with
  | none => cases eq_nil_of_windowStart hw
  | some w =>
    have hend := (windowStart_spec p.windowMs_pos hw).2 now List.mem_cons_self
    rw [decision, hw] at h
    split at h
    next => cases h
    next hfull =>
      have httl : w + p.windowMs - now = ttlMs := Answer.rateLimited.inj h
      exact ⟨w, rfl, Nat.lt_of_not_le hfull, by omega⟩

/-- A client that is told to wait is rejected until then, and its first request that is counted from
then on is let through. -/
theorem limited_until_reset (h : (limiter policy).Reach Machine.Anything s)
    {front between older : List (Entry κ)} {e next : Entry κ} {ttlMs : Nat}
    (hlog : s.log = front ++ next :: (between ++ e :: older)) (hkey : next.key = e.key)
    (hlimited : e.answer = .rateLimited ttlMs) (hreplied : next.replied = true) :
    (next.time < e.time + ttlMs → next.answer = .rateLimited (e.time + ttlMs - next.time)) ∧
    (e.time + ttlMs ≤ next.time → (∀ t ∈ hits e.key between, t < e.time + ttlMs) →
      next.answer = .admitted) := by
  obtain ⟨-, hsorted, -, hanswers⟩ := refines_of_reach h
  have hsplit : s.log = (front ++ next :: between) ++ e :: older := by simp [hlog]
  have he := hlimited.symm.trans (hsplit ▸ hanswers).entry
  have hnext := answers_exact h hlog hreplied
  rw [hkey, hits, List.filter_append, List.map_append, ← hits, ← hits, hits_cons,
    if_pos rfl] at hnext
  split at he
  next =>
    obtain ⟨w, hw, hfull, hend⟩ := decision_limited he.symm
    rw [hend, hnext]
    refine ⟨fun hbefore => ?_, fun hafter hbetween => ?_⟩
    · have hlater : ∀ t ∈ next.time :: hits e.key between, t < w + (policy e.key).windowMs := by
        refine List.forall_mem_cons.mpr ⟨hbefore, fun t ht => ?_⟩
        obtain ⟨x, hx, rfl⟩ := List.mem_map.mp ht
        rw [hlog] at hsorted
        exact ((List.pairwise_cons.mp (List.pairwise_append.mp hsorted).2.1).1 x
          (List.mem_append_left _ (List.mem_of_mem_filter hx))).trans_lt hbefore
      have hstart := windowStart_append hw hlater
      rw [List.cons_append] at hstart
      rw [decision, hstart]
      exact if_neg (Nat.not_le.mpr (hfull.trans_le
        (List.sublist_append_right (next.time :: hits e.key between) _).countP_le))
    · have hstart := windowStart_append hw hbetween
      have hpos := (policy e.key).windowMs_pos
      rw [decision_eq (counterOf_cons hpos fun t ht =>
        ((windowStart_spec hpos hstart).2 t ht).le.trans hafter), counterOf, hstart]
      simp [hafter, Nat.succ_le_of_lt (policy e.key).maxRequests_pos]
  next => cases he

theorem limited_until_reset_sample : ∃ (policy : Nat → RateLimitPolicy) (s : LimiterState Nat)
    (next : Entry Nat), (limiter policy).Reach Machine.Anything s ∧ s.log.head? = some next ∧
      next.time = 100 ∧ next.answer = .admitted := by
  obtain ⟨policy, s, hreach, hlog⟩ := limiter_run
  exact ⟨policy, s, _, hreach, hlog ▸ rfl, rfl, (limited_until_reset hreach
    (hlog.trans (show _ = [] ++ _ :: ([] ++ _ :: _) from rfl)) rfl rfl rfl).2 le_rfl
      (by simp [hits])⟩

/-! ## 4. Windows -/

/-- The times with room in their windows. -/
def granted (p : RateLimitPolicy) : List Nat → List Nat
  | [] => []
  | t :: earlier =>
    if decision p t earlier = .admitted then t :: granted p earlier else granted p earlier

theorem granted_windows (p : RateLimitPolicy) {times : List Nat}
    (hsorted : times.Pairwise fun newer older => older ≤ newer) :
    ∃ windows, WindowCounted p.windowMs p.maxRequests windows (granted p times)
      ((counterOf p.windowMs times).map fun v => ⟨min v.value p.maxRequests, v.expiresAt⟩)
      (times.headD 0) := by
  have hwidth := p.windowMs_pos
  have hmax := p.maxRequests_pos
  induction times with
  | nil => exact ⟨[], windowCounted_empty _ _ _⟩
  | cons t earlier ih =>
    obtain ⟨hpast, hsorted⟩ := List.pairwise_cons.mp hsorted
    obtain ⟨windows, hwindows⟩ := ih hsorted
    have hclock : earlier.headD 0 ≤ t := by
      cases earlier with
      | nil => exact Nat.zero_le t
      | cons u earlier => exact hpast u List.mem_cons_self
    have hcounter := counterOf_cons hwidth hpast
    rw [granted, decision_eq hcounter, hcounter]
    -- the hit opens a window, is counted in the running one, or finds it full
    cases hold : counterOf p.windowMs earlier with
    | none =>
      rw [hold] at hwindows
      have hopened := hwindows.opens hclock (by simp) hmax hwidth
      exact ⟨t :: windows, by simpa [Nat.succ_le_of_lt hmax] using hopened⟩
    | some v =>
      rw [hold] at hwindows
      by_cases hover : v.expiresAt ≤ t
      · have hopened := hwindows.opens hclock (by simpa using hover) hmax hwidth
        exact ⟨t :: windows, by simpa [hover, Nat.succ_le_of_lt hmax] using hopened⟩
      · by_cases hroom : v.value < p.maxRequests
        · have hcounted := hwindows.count hclock (Nat.lt_of_not_le hover)
            (show min v.value p.maxRequests < p.maxRequests by omega)
          refine ⟨windows, ?_⟩
          simpa [hover, Nat.succ_le_of_lt hroom, Nat.min_eq_left hroom.le] using hcounted
        · refine ⟨windows, ?_⟩
          have hfull : ¬ v.value + 1 ≤ p.maxRequests := hroom
          have hwait := hwindows.wait hclock
          simpa [hover, hfull, Nat.min_eq_right (Nat.le_of_not_lt hroom),
            Nat.min_eq_right (Nat.le_of_not_le hfull)] using hwait

/-- When requests of a key were let through. -/
def admissions (key : κ) (log : List (Entry κ)) : List Nat :=
  (log.filter fun e => e.key = key ∧ e.answer = .admitted).map (·.time)

theorem admissions_sublist {log : List (Entry κ)} (h : Answers policy log) (key : κ) :
    (admissions key log).Sublist (granted (policy key) (hits key log)) := by
  induction log with
  | nil => exact .slnil
  | cons e older ih =>
    have hrest := ih h.1
    by_cases hkey : e.key = key
    · subst hkey
      rw [hits_cons, if_pos rfl, granted]
      by_cases hadmitted : e.answer = .admitted
      · have hanswer := hadmitted.symm.trans h.2
        split at hanswer
        next => simpa [admissions, hadmitted, ← hanswer] using hrest
        next => cases hanswer
      · split
        · simpa [admissions, hadmitted] using hrest.cons e.time
        · simpa [admissions, hadmitted] using hrest
    · rw [hits_cons, if_neg hkey]
      simpa [admissions, hkey] using hrest

/-- Whatever the interleaving, the requests of a key that were let through lie in windows of the length
of its policy, which do not overlap and have at most `maxRequests` each. -/
theorem admitted_in_windows (h : (limiter policy).Reach Machine.Anything s) (key : κ) :
    ∃ windows : List Nat,
      (windows.Pairwise fun newer older => older + (policy key).windowMs ≤ newer) ∧
      (∀ t ∈ admissions key s.log, ∃ w ∈ windows, w ≤ t ∧ t < w + (policy key).windowMs) ∧
      ∀ w ∈ windows, inWindow (policy key).windowMs (admissions key s.log) w ≤
        (policy key).maxRequests := by
  have hrefines := refines_of_reach h
  have hsub := admissions_sublist hrefines.answers key
  obtain ⟨windows, hwindows⟩ := granted_windows (policy key)
    ((List.pairwise_map.mpr hrefines.sorted).sublist (List.filter_sublist.map _) :
      (hits key s.log).Pairwise fun newer older => older ≤ newer)
  exact ⟨windows, hwindows.disjoint, fun t ht => hwindows.covered t (hsub.subset ht),
    fun w hw => (hsub.countP_le).trans (hwindows.bounded w hw)⟩

theorem admitted_in_windows_sample : ∃ (policy : Nat → RateLimitPolicy) (s : LimiterState Nat),
    (limiter policy).Reach Machine.Anything s ∧ admissions 0 s.log = [100, 0] ∧
      ∃ windows : List Nat, ∀ t ∈ [100, 0], ∃ w ∈ windows, w ≤ t := by
  obtain ⟨policy, s, hreach, hlog⟩ := limiter_run
  have hadmitted : admissions 0 s.log = [100, 0] := hlog ▸ rfl
  obtain ⟨windows, -, hcovered, -⟩ := admitted_in_windows hreach 0
  refine ⟨policy, s, hreach, hadmitted, windows, fun t ht => ?_⟩
  obtain ⟨w, hw, hle, -⟩ := hcovered t (hadmitted ▸ ht)
  exact ⟨w, hw, hle⟩

end SmartStay.RateLimit
