import SmartStay.Booking.Handoffs

/-!
# Handoffs are redeemed once and after consent

1. `CallOk`: what a call and its command on the way know.
2. `Holds`, `Inv`: every handoff record is at one place, under its key or in the hands of the
   call that redeemed it, and the call that wrote it will not write another.
3. `Inv.call`, `Inv.verifications`, `Inv.handoffs`: the parts of a step.
4. `inv_step`, `inv_reach`.
5. `handoff_safety`: the properties of every run.
-/

namespace SmartStay.Booking

variable {cfg : BookingSettings}

/-! ## 1. Calls -/

/-- A text that `getSafeRedirectUrl` returned. -/
def SafeUrl (cfg : BookingSettings) (text : String) : Prop :=
  ∃ value url, cfg.parseUrl value = some url ∧ url.protocol = "https:" ∧ url.hostname ≠ "" ∧
    url.username = "" ∧ url.password = "" ∧ url.href = text

theorem getSafeRedirectUrl_safe {value text : String}
    (h : getSafeRedirectUrl cfg value = some text) : SafeUrl cfg text := by
  obtain ⟨url, hparse, hurl⟩ := Option.bind_eq_some_iff.mp h
  simp only [Option.ite_none_left_eq_some, not_or, not_not, Option.some.injEq] at hurl
  obtain ⟨⟨hprotocol, hhost, huser, hpass⟩, hhref⟩ := hurl
  exact ⟨_, url, hparse, hprotocol, hhost, huser, hpass, hhref⟩

/-- A prepare call that read a verification which needs no confirmation, or accepted its
    changes. -/
def Consented (call : Call) : Prop :=
  ∃ verificationId acceptChanges written,
    call.request = .prepare verificationId acceptChanges ∧ call.read = some written ∧
    (written.record.verification.requiresUserConfirmation = false ∨ acceptChanges = true)

/-- A record that the call has made of the verification that it read. -/
def PreparedBy (cfg : BookingSettings) (call : Call) (record : HandoffRecord) : Prop :=
  Consented call ∧ SafeUrl cfg record.redirectUrl ∧
    ∃ written, call.read = some written ∧ record.verificationId = written.record.verificationId ∧
      record.sourceProvider = written.record.verification.sourceProvider

/-- The command on the way is one that the call has sent. -/
def CommandOk (cfg : BookingSettings) (call : Call) : Command → Prop
  | .storeVerification record _ => ∃ verification digits now,
      call.request = .save verification ∧
        record = createVerificationRecord cfg verification digits now
  | .readVerification id => ∃ verificationId acceptChanges,
      call.request = .prepare verificationId acceptChanges ∧ id = JsText.trim verificationId ∧
        call.read = none
  | .storeHandoff record _ => PreparedBy cfg call record ∧
      ∀ redirectUrl attempt, call.phase = .sending redirectUrl attempt →
        redirectUrl = record.redirectUrl
  | .consumeHandoff _ => ∃ handoffId, call.request = .redeem handoffId

/-- Only a call that waits, or has given up waiting, has a command on the way. -/
def CallOk (cfg : BookingSettings) (call : Call) (command : Option Command) : Prop :=
  match call.phase with
  | .saving _ => command = none
  | .handing redirectUrl _ => command = none ∧ Consented call ∧ SafeUrl cfg redirectUrl
  | .providing => command = none ∧ Consented call
  | .sending _ _ | .failed _ => ∀ sent, command = some sent → CommandOk cfg call sent
  | .saved _ | .prepared _ | .redeemed _ => command = none

section
variable {call : Call} {command : Option Command} (h : CallOk cfg call command)
include h

theorem CallOk.saving {attempt : Nat} (hphase : call.phase = .saving attempt) :
    command = none := by
  rw [CallOk, hphase] at h
  exact h

theorem CallOk.handing {redirectUrl : String} {attempt : Nat}
    (hphase : call.phase = .handing redirectUrl attempt) :
    command = none ∧ Consented call ∧ SafeUrl cfg redirectUrl := by
  rw [CallOk, hphase] at h
  exact h

theorem CallOk.providing (hphase : call.phase = .providing) :
    command = none ∧ Consented call := by
  rw [CallOk, hphase] at h
  exact h

/-- A command that is on its way is the call's own, and the call waits or has failed. -/
theorem CallOk.sent {sent : Command} (hsent : command = some sent) :
    CommandOk cfg call sent ∧ (call.phase.waiting?.isSome ∨ ∃ error, call.phase = .failed error) := by
  rw [CallOk] at h
  split at h
  · rw [h] at hsent; cases hsent
  · rw [h.1] at hsent; cases hsent
  · rw [h.1] at hsent; cases hsent
  · rename_i hphase
    exact ⟨h sent hsent, .inl (by rw [hphase]; rfl)⟩
  · rename_i error hphase
    exact ⟨h sent hsent, .inr ⟨error, hphase⟩⟩
  · rw [h] at hsent; cases hsent
  · rw [h] at hsent; cases hsent
  · rw [h] at hsent; cases hsent

end

/-- A call that gives up leaves its command on the way. -/
theorem CommandOk.failed {call : Call} {command : Command} (h : CommandOk cfg call command)
    {error : BookingError} : CommandOk cfg { call with phase := .failed error } command := by
  cases command with
  | storeVerification record now => exact h
  | readVerification id => exact h
  | storeHandoff record now => exact ⟨h.1, nofun⟩
  | consumeHandoff id => exact h

theorem CallOk.failed (request : Request) (read : Option (Written VerificationRecord))
    (error : BookingError) : CallOk cfg ⟨request, read, .failed error⟩ none :=
  fun _ h => nomatch h

/-- A call that has written its record, or never will. -/
def Phase.Settled : Phase → Prop
  | .sending _ _ | .prepared _ | .failed _ => True
  | .saving _ | .handing _ _ | .providing | .saved _ | .redeemed _ => False

/-! ## 2. The invariant -/

/-- A verification that a save call stored. -/
def SavedBy (cfg : BookingSettings) (calls : CallId → Option Call)
    (written : Written VerificationRecord) : Prop :=
  ∃ call verification digits now, calls written.writer = some call ∧
    call.request = .save verification ∧
    written.record = createVerificationRecord cfg verification digits now

/-- The place of a handoff record: its key, or the call that redeemed it. -/
def Holds (w : World) : String ⊕ CallId → Written HandoffRecord → Prop
  | .inl k, written => ∃ expiresAt, w.handoffs.records.hget k = some ⟨written, expiresAt⟩
  | .inr c, written => ∃ call, w.calls c = some call ∧ call.phase = .redeemed written

structure Inv (cfg : BookingSettings) (w : World) : Prop where
  verifications_indexed : w.verifications.Indexed w.time
  handoffs_indexed : w.handoffs.Indexed w.time
  verifications_bounded : w.verifications.index.zcard ≤ cfg.maxBookingVerifications
  handoffs_bounded : w.handoffs.index.zcard ≤ cfg.maxBookingHandoffs
  unstarted : ∀ c, w.calls c = none → w.sent c = none
  calls : ∀ c call, w.calls c = some call → CallOk cfg call (w.sent c)
  read : ∀ c call written, w.calls c = some call → call.read = some written →
    SavedBy cfg w.calls written
  saved : ∀ k written, w.verifications.records.hget k = some written →
    SavedBy cfg w.calls written.value
  held : ∀ place written, Holds w place written → w.sent written.writer = none ∧
    ∃ call, w.calls written.writer = some call ∧ call.phase.Settled ∧
      PreparedBy cfg call written.record
  unique : ∀ place place' written written', Holds w place written → Holds w place' written' →
    written.writer = written'.writer → place = place'

theorem inv_init (cfg : BookingSettings) : Inv cfg {} := by
  have hempty : ∀ place written, ¬ Holds {} place written := by
    rintro (k | c) written hplace
    · obtain ⟨e, hget⟩ := hplace
      exact absurd (hget.symm.trans (Hash.hget_empty k)) (by simp)
    · obtain ⟨call, hcall, -⟩ := hplace
      cases hcall
  refine ⟨?_, ?_, Nat.zero_le _, Nat.zero_le _, fun _ _ => rfl, ?_, ?_, ?_, ?_, ?_⟩
  · intro k v hget
    cases hget
  · intro k v hget
    cases hget
  · intro c call hcall
    cases hcall
  · intro c call written hcall
    cases hcall
  · intro k written hget
    exact absurd (hget.symm.trans (Hash.hget_empty k)) (by simp)
  · exact fun place written hplace => absurd hplace (hempty place written)
  · exact fun place _ written _ hplace => absurd hplace (hempty place written)

/-! ## 3. Parts of a step -/

/-- The later calls know what the earlier ones were asked and have read. -/
def Later (calls calls' : CallId → Option Call) : Prop :=
  ∀ c call, calls c = some call → ∃ call', calls' c = some call' ∧ call'.request = call.request

theorem SavedBy.later {calls calls' : CallId → Option Call} {written : Written VerificationRecord}
    (h : SavedBy cfg calls written) (hlater : Later calls calls') : SavedBy cfg calls' written := by
  obtain ⟨call, verification, digits, now, hcall, hrequest, hrecord⟩ := h
  obtain ⟨call', hcall', hsame⟩ := hlater _ _ hcall
  exact ⟨call', verification, digits, now, hcall', hsame.trans hrequest, hrecord⟩

theorem PreparedBy.same {call call' : Call} {record : HandoffRecord}
    (h : PreparedBy cfg call record) (hrequest : call'.request = call.request)
    (hread : call'.read = call.read) : PreparedBy cfg call' record := by
  obtain ⟨⟨verificationId, acceptChanges, written, hreq, hrd, hconsent⟩, hsafe, made⟩ := h
  refine ⟨⟨verificationId, acceptChanges, written, hrequest.trans hreq, hread.trans hrd, hconsent⟩,
    hsafe, ?_⟩
  rwa [hread]

/-- The call `c` goes on, with `command` on its way. -/
def World.resume (w : World) (c : CallId) (call : Call) (command : Option Command) : World :=
  { w with calls := Function.update w.calls c (some call)
           sent := Function.update w.sent c command }

/-- A call goes on that redeems nothing. Where it has written a record, it stays settled. -/
theorem Inv.call {w : World} (h : Inv cfg w) {c : CallId} {call' : Call}
    {command : Option Command} (hok : CallOk cfg call' command)
    (hrequest : ∀ call, w.calls c = some call → call'.request = call.request)
    (hread : ∀ written, call'.read = some written → SavedBy cfg w.calls written)
    (hafter : ∀ written, call'.phase ≠ .redeemed written)
    (hsettled : ∀ place written call, Holds w place written → written.writer = c →
      w.calls c = some call → command = none ∧ call'.phase.Settled ∧ call'.read = call.read) :
    Inv cfg (w.resume c call' command) := by
  have hlater : Later w.calls (w.resume c call' command).calls := by
    intro d call hcall
    by_cases hd : d = c
    · subst hd
      exact ⟨call', by simp [World.resume], hrequest call hcall⟩
    · exact ⟨call, by simpa [World.resume, hd] using hcall, rfl⟩
  have hholds : ∀ place written, Holds (w.resume c call' command) place written →
      Holds w place written := by
    rintro (k | d) written hplace
    · exact hplace
    · obtain ⟨call, hcall, hphase⟩ := hplace
      by_cases hd : d = c
      · subst hd
        simp only [World.resume, Function.update_self, Option.some.injEq] at hcall
        subst hcall
        exact absurd hphase (hafter written)
      · exact ⟨call, by simpa [World.resume, hd] using hcall, hphase⟩
  refine ⟨h.verifications_indexed, h.handoffs_indexed, h.verifications_bounded,
    h.handoffs_bounded, ?_, ?_, ?_, ?_, ?_, ?_⟩
  · intro d hd
    by_cases hdc : d = c
    · subst hdc
      simp [World.resume] at hd
    · simp only [World.resume, Function.update_of_ne hdc] at hd ⊢
      exact h.unstarted d hd
  · intro d call hcall
    by_cases hdc : d = c
    · subst hdc
      simp only [World.resume, Function.update_self, Option.some.injEq] at hcall ⊢
      exact hcall ▸ hok
    · simp only [World.resume, Function.update_of_ne hdc] at hcall ⊢
      exact h.calls d call hcall
  · intro d call written hcall hreads
    by_cases hdc : d = c
    · subst hdc
      simp only [World.resume, Function.update_self, Option.some.injEq] at hcall
      subst hcall
      exact (hread written hreads).later hlater
    · simp only [World.resume, Function.update_of_ne hdc] at hcall
      exact (h.read d call written hcall hreads).later hlater
  · exact fun k written hget => (h.saved k written hget).later hlater
  · intro place written hplace
    obtain ⟨hsent, call, hcall, hphase, hprepared⟩ := h.held place written (hholds _ _ hplace)
    by_cases hw : written.writer = c
    · subst hw
      obtain ⟨hcommand, hsettled', hsame⟩ :=
        hsettled place written call (hholds _ _ hplace) rfl hcall
      refine ⟨by simp [World.resume, hcommand], call', by simp [World.resume], hsettled', ?_⟩
      exact hprepared.same (hrequest call hcall) hsame
    · refine ⟨by simpa [World.resume, hw] using hsent, call, ?_, hphase, hprepared⟩
      simpa [World.resume, hw] using hcall
  · exact fun place place' written written' hp hp' =>
      h.unique place place' written written' (hholds _ _ hp) (hholds _ _ hp')

/-- A call whose phase is not settled, or that has a command on its way, has written nothing. -/
theorem Inv.writes_none {w : World} (h : Inv cfg w) {c : CallId}
    (hc : w.sent c ≠ none ∨ ∀ call, w.calls c = some call → ¬ call.phase.Settled)
    {place : String ⊕ CallId} {written : Written HandoffRecord} (hplace : Holds w place written) :
    written.writer ≠ c := by
  rintro rfl
  obtain ⟨hsent, call, hcall, hphase, -⟩ := h.held place written hplace
  rcases hc with hsome | hopen
  · exact hsome hsent
  · exact hopen call hcall hphase

/-- The reply to a command was seen by nobody. -/
theorem Inv.received {w : World} (h : Inv cfg w) {c : CallId} {call : Call} {command : Command}
    (hcall : w.calls c = some call) (hsent : w.sent c = some command) : Inv cfg (w.received c) := by
  have heq : w.received c = w.resume c call none := by
    simp [World.received, World.resume, ← hcall]
  have hok := h.calls c call hcall
  rw [hsent] at hok
  rw [heq]
  refine h.call ?_ ?_ ?_ ?_ ?_
  · unfold CallOk at hok ⊢
    split at hok <;> simp_all
  · intro other hother
    rw [hcall] at hother
    cases hother
    rfl
  · exact fun written => h.read c call written hcall
  · intro written hphase
    unfold CallOk at hok
    rw [hphase] at hok
    cases hok
  · intro place written other hplace hw
    exact absurd hw (h.writes_none (.inl (by rw [hsent]; simp)) hplace)

theorem Inv.withVerifications {w : World} (h : Inv cfg w)
    {store : ExpiryIndex String (Written VerificationRecord)} (hindexed : store.Indexed w.time)
    (hbounded : store.index.zcard ≤ cfg.maxBookingVerifications)
    (hsaved : ∀ k written, store.records.hget k = some written →
      SavedBy cfg w.calls written.value) :
    Inv cfg { w with verifications := store } :=
  ⟨hindexed, h.handoffs_indexed, hbounded, h.handoffs_bounded, h.unstarted, h.calls, h.read, hsaved,
    h.held, h.unique⟩

/-- Handoff records are only removed. -/
theorem Inv.withHandoffs {w : World} (h : Inv cfg w)
    {store : ExpiryIndex String (Written HandoffRecord)} (hindexed : store.Indexed w.time)
    (hbounded : store.index.zcard ≤ cfg.maxBookingHandoffs)
    (hsub : ∀ k written, store.records.hget k = some written →
      w.handoffs.records.hget k = some written) :
    Inv cfg { w with handoffs := store } := by
  have hholds : ∀ place written, Holds { w with handoffs := store } place written →
      Holds w place written := by
    rintro (k | c) written hplace
    · obtain ⟨e, hget⟩ := hplace
      exact ⟨e, hsub k _ hget⟩
    · exact hplace
  exact ⟨h.verifications_indexed, hindexed, h.verifications_bounded, hbounded, h.unstarted, h.calls,
    h.read, h.saved, fun place written hplace => h.held place written (hholds _ _ hplace),
    fun place place' written written' hp hp' =>
      h.unique place place' written written' (hholds _ _ hp) (hholds _ _ hp')⟩

/-- A handoff record is stored by a call that has written none. -/
theorem Inv.storesHandoff {w : World} (h : Inv cfg w)
    {store : ExpiryIndex String (Written HandoffRecord)} (hindexed : store.Indexed w.time)
    (hbounded : store.index.zcard ≤ cfg.maxBookingHandoffs) {c : CallId} {record : HandoffRecord}
    (k₀ : String) (hsub : ∀ k written, store.records.hget k = some written →
      k = k₀ ∧ written.value = ⟨c, record⟩ ∨ w.handoffs.records.hget k = some written)
    {call : Call} (hcall : w.calls c = some call) (hsent : w.sent c = none)
    (hphase : call.phase.Settled) (hprepared : PreparedBy cfg call record)
    (hnone : ∀ place written, Holds w place written → written.writer ≠ c) :
    Inv cfg { w with handoffs := store } := by
  have hholds : ∀ place written, Holds { w with handoffs := store } place written →
      place = .inl k₀ ∧ written = ⟨c, record⟩ ∨ Holds w place written := by
    rintro (k | d) written hplace
    · obtain ⟨e, hget⟩ := hplace
      rcases hsub k _ hget with ⟨rfl, heq⟩ | hold
      · exact .inl ⟨rfl, heq⟩
      · exact .inr ⟨e, hold⟩
    · exact .inr hplace
  refine ⟨h.verifications_indexed, hindexed, h.verifications_bounded, hbounded, h.unstarted,
    h.calls, h.read, h.saved, ?_, ?_⟩
  · intro place written hplace
    rcases hholds place written hplace with ⟨-, rfl⟩ | hold
    · exact ⟨hsent, call, hcall, hphase, hprepared⟩
    · exact h.held place written hold
  · intro place place' written written' hp hp' hw
    rcases hholds place written hp with ⟨rfl, rfl⟩ | hold
    · rcases hholds place' written' hp' with ⟨rfl, -⟩ | hold'
      · rfl
      · exact absurd hw.symm (hnone place' written' hold')
    · rcases hholds place' written' hp' with ⟨-, rfl⟩ | hold'
      · exact absurd hw (hnone place written hold)
      · exact h.unique place place' written written' hold hold' hw

/-- The record under a key goes to the call that redeems it. -/
theorem Inv.redeems {w : World} (h : Inv cfg w)
    {store : ExpiryIndex String (Written HandoffRecord)} (hindexed : store.Indexed w.time)
    (hbounded : store.index.zcard ≤ cfg.maxBookingHandoffs) (k₀ : String)
    (hsub : ∀ k written, store.records.hget k = some written →
      k ≠ k₀ ∧ w.handoffs.records.hget k = some written)
    {written : Written HandoffRecord} (hkey : Holds w (.inl k₀) written)
    {c : CallId} {call : Call} (hcall : w.calls c = some call) (hsent : w.sent c = none)
    (hrequest : ∃ handoffId, call.request = .redeem handoffId) :
    Inv cfg ({ w with handoffs := store }.setCall c { call with phase := .redeemed written }) := by
  have hholds : ∀ place other,
      Holds ({ w with handoffs := store }.setCall c { call with phase := .redeemed written })
        place other →
      place = .inr c ∧ other = written ∨ place ≠ .inl k₀ ∧ Holds w place other := by
    rintro (k | d) other hplace
    · obtain ⟨e, hget⟩ := hplace
      obtain ⟨hne, hold⟩ := hsub k _ hget
      exact .inr ⟨by simpa using hne, e, hold⟩
    · obtain ⟨call', hcall', hphase⟩ := hplace
      by_cases hd : d = c
      · subst hd
        simp only [World.setCall, Function.update_self, Option.some.injEq] at hcall'
        subst hcall'
        cases hphase
        exact .inl ⟨rfl, rfl⟩
      · refine .inr ⟨by simp, call', ?_, hphase⟩
        simpa [World.setCall, hd] using hcall'
  have hlater : Later w.calls
      ({ w with handoffs := store }.setCall c { call with phase := .redeemed written }).calls := by
    intro d other hother
    by_cases hd : d = c
    · subst hd
      rw [hcall] at hother
      cases hother
      exact ⟨{ call with phase := .redeemed written }, by simp [World.setCall], rfl⟩
    · exact ⟨other, by simpa [World.setCall, hd] using hother, rfl⟩
  -- the writer of a record is another call than the one that redeems
  have hother : ∀ place other, Holds w place other → other.writer ≠ c := by
    rintro place other hplace rfl
    obtain ⟨-, writer, hwriter, -, ⟨verificationId, acceptChanges, -, hprepare, -⟩, -⟩ :=
      h.held place other hplace
    obtain ⟨handoffId, hredeem⟩ := hrequest
    rw [hcall] at hwriter
    cases hwriter
    rw [hredeem] at hprepare
    cases hprepare
  refine ⟨h.verifications_indexed, hindexed, h.verifications_bounded, hbounded, ?_, ?_, ?_, ?_, ?_,
    ?_⟩
  · intro d hd
    by_cases hdc : d = c
    · subst hdc
      exact hsent
    · exact h.unstarted d (by simpa [World.setCall, hdc] using hd)
  · intro d call' hcall'
    by_cases hdc : d = c
    · subst hdc
      simp only [World.setCall, Function.update_self, Option.some.injEq] at hcall'
      subst hcall'
      exact hsent
    · exact h.calls d call' (by simpa [World.setCall, hdc] using hcall')
  · intro d call' read hcall' hread
    by_cases hdc : d = c
    · subst hdc
      simp only [World.setCall, Function.update_self, Option.some.injEq] at hcall'
      subst hcall'
      exact (h.read d call read hcall hread).later hlater
    · exact (h.read d call' read (by simpa [World.setCall, hdc] using hcall') hread).later hlater
  · exact fun k saved hget => (h.saved k saved hget).later hlater
  · intro place other hplace
    have hold : ∃ place, Holds w place other := by
      rcases hholds place other hplace with ⟨-, rfl⟩ | ⟨-, hold⟩
      · exact ⟨_, hkey⟩
      · exact ⟨_, hold⟩
    obtain ⟨place', hold⟩ := hold
    obtain ⟨hnone, writer, hwriter, hrest⟩ := h.held place' other hold
    refine ⟨hnone, writer, ?_, hrest⟩
    simpa [World.setCall, hother place' other hold] using hwriter
  · intro place place' other other' hp hp' hw
    rcases hholds place other hp with ⟨rfl, rfl⟩ | ⟨hne, hold⟩
    · rcases hholds place' other' hp' with ⟨rfl, -⟩ | ⟨hne', hold'⟩
      · rfl
      · exact absurd (h.unique _ _ _ _ hold' hkey hw.symm) hne'
    · rcases hholds place' other' hp' with ⟨-, rfl⟩ | ⟨hne', hold'⟩
      · exact absurd (h.unique _ _ _ _ hold hkey hw) hne
      · exact h.unique place place' other other' hold hold' hw

/-! ## 4. Steps -/

theorem setCall_eq (w : World) (c : CallId) (call : Call) :
    w.setCall c call = w.resume c call (w.sent c) := by
  simp [World.setCall, World.resume]

/-- A call whose phase is not settled goes on, or one that starts. -/
theorem Inv.unsettled {w : World} (h : Inv cfg w) {c : CallId} {call' : Call}
    {command : Option Command} (hok : CallOk cfg call' command)
    (hopen : ∀ call, w.calls c = some call → ¬ call.phase.Settled ∧
      call'.request = call.request ∧ call'.read = call.read)
    (hread : w.calls c = none → call'.read = none)
    (hafter : ∀ written, call'.phase ≠ .redeemed written) :
    Inv cfg (w.resume c call' command) := by
  refine h.call hok (fun call hcall => (hopen call hcall).2.1) ?_ hafter ?_
  · intro written hreads
    cases hcall : w.calls c with
    | none => rw [hread hcall] at hreads; cases hreads
    | some call => exact h.read c call written hcall ((hopen call hcall).2.2 ▸ hreads)
  · intro place written call hplace hw
    exact absurd hw (h.writes_none (.inr fun call hcall => (hopen call hcall).1) hplace)

theorem inv_start {w : World} (h : Inv cfg w) {c : CallId} (hnone : w.calls c = none)
    (request : Request) : Inv cfg (startCall w c request) := by
  have hnew : ∀ (call' : Call) (command : Option Command), CallOk cfg call' command →
      call'.read = none → (∀ written, call'.phase ≠ .redeemed written) →
      Inv cfg (w.resume c call' command) := by
    intro call' command hok hread hafter
    refine h.unsettled hok (fun call hcall => ?_) (fun _ => hread) hafter
    rw [hnone] at hcall
    cases hcall
  have hsent := h.unstarted c hnone
  cases request with
  | save verification =>
    rw [startCall, setCall_eq, hsent]
    exact hnew _ _ rfl rfl nofun
  | prepare verificationId acceptChanges =>
    unfold startCall
    dsimp only
    split
    · refine hnew _ (some _) ?_ rfl nofun
      rintro sent ⟨⟩
      exact ⟨verificationId, acceptChanges, rfl, rfl, rfl⟩
    · rw [setCall_eq, hsent]
      exact hnew _ _ (.failed _ _ _) rfl nofun
  | redeem handoffId =>
    unfold startCall
    dsimp only
    split
    · refine hnew _ (some _) ?_ rfl nofun
      rintro sent ⟨⟩
      exact ⟨handoffId, rfl⟩
    · rw [setCall_eq, hsent]
      exact hnew _ _ (.failed _ _ _) rfl nofun

/-- A call whose phase is not settled moves to another phase. -/
theorem Inv.moves {w : World} (h : Inv cfg w) {c : CallId} {call : Call}
    (hcall : w.calls c = some call) (hopen : ¬ call.phase.Settled) {phase : Phase}
    {command : Option Command} (hok : CallOk cfg { call with phase := phase } command)
    (hafter : ∀ written, phase ≠ .redeemed written) :
    Inv cfg (w.resume c { call with phase := phase } command) := by
  refine h.unsettled hok (fun other hother => ?_) (fun hnone => ?_) hafter
  · rw [hcall] at hother
    cases hother
    exact ⟨hopen, rfl, rfl⟩
  · rw [hcall] at hnone
    cases hnone

theorem inv_draw {w w' : World} (h : Inv cfg w) {c : CallId} {call : Call}
    (hcall : w.calls c = some call) {digits : String} {createdAt now : Nat}
    (hstep : drawId cfg w c call digits createdAt now = some w') : Inv cfg w' := by
  have hok := h.calls c call hcall
  unfold drawId at hstep
  dsimp only at hstep
  split at hstep
  · rename_i attempt verification hphase hrequest
    have hsent := hok.saving hphase
    have hopen : ¬ call.phase.Settled := by simp [hphase, Phase.Settled]
    cases hstep
    split
    · change Inv cfg (w.resume c _ (some _))
      refine h.moves hcall hopen ?_ nofun
      rintro sent ⟨⟩
      exact ⟨verification, digits, createdAt, hrequest, rfl⟩
    · rw [setCall_eq, hsent]
      exact h.moves hcall hopen (.failed _ _ _) nofun
  · rename_i redirectUrl attempt written hphase hread
    obtain ⟨hsent, hconsent, hsafe⟩ := hok.handing hphase
    have hopen : ¬ call.phase.Settled := by simp [hphase, Phase.Settled]
    cases hstep
    split
    · change Inv cfg (w.resume c _ (some _))
      refine h.moves hcall hopen ?_ nofun
      rintro sent ⟨⟩
      refine ⟨⟨hconsent, hsafe, written, hread, rfl, rfl⟩, ?_⟩
      rintro url n ⟨⟩
      rfl
    · rw [setCall_eq, hsent]
      exact h.moves hcall hopen (.failed _ _ _) nofun
  · cases hstep

theorem afterProvider_ok (call : Call) (hconsent : Consented call)
    (result : Except HandoffFailure String) :
    CallOk cfg { call with phase := afterProvider cfg result } none ∧
      ∀ written, afterProvider cfg result ≠ .redeemed written := by
  unfold afterProvider
  cases result with
  | error failure => exact ⟨.failed _ _ _, nofun⟩
  | ok redirectUrl =>
    dsimp only
    split
    · exact ⟨.failed _ _ _, nofun⟩
    · rename_i text hsafe
      exact ⟨⟨rfl, hconsent, getSafeRedirectUrl_safe hsafe⟩, nofun⟩

theorem afterStore_ne (reply : ExpiryIndex.StoreReply) (attempt : Nat) (again : Nat → Phase)
    (done : Phase) (kind name : String) : afterStore reply attempt again done kind name = done ∨
      (reply ≠ .ok ∧ ((∃ n, afterStore reply attempt again done kind name = again n) ∨
        ∃ error, afterStore reply attempt again done kind name = .failed error)) := by
  unfold afterStore
  cases reply with
  | ok => exact .inl rfl
  | capacity => exact .inr ⟨nofun, .inr ⟨_, rfl⟩⟩
  | collision =>
    dsimp only
    split
    · exact .inr ⟨nofun, .inl ⟨_, rfl⟩⟩
    · exact .inr ⟨nofun, .inr ⟨_, rfl⟩⟩

/-- A call without a command on the way that has written nothing goes on. -/
theorem Inv.replied {w : World} (h : Inv cfg w) {c : CallId} {call : Call}
    (hcall : w.calls c = some call) (hsent : w.sent c = none) {phase : Phase}
    (hok : CallOk cfg { call with phase := phase } none)
    (hafter : ∀ written, phase ≠ .redeemed written)
    (hwrites : (∀ place written, Holds w place written → written.writer ≠ c) ∨ phase.Settled) :
    Inv cfg (w.setCall c { call with phase := phase }) := by
  rw [setCall_eq, hsent]
  refine h.call hok (fun other hother => ?_) ?_ hafter ?_
  · rw [hcall] at hother
    cases hother
    rfl
  · exact fun written => h.read c call written hcall
  · intro place written other hplace hw hother
    rw [hcall] at hother
    cases hother
    rcases hwrites with hnone | hsettled
    · exact absurd hw (hnone place written hplace)
    · exact ⟨rfl, hsettled, rfl⟩

/-- The world after `STORE_RECORD_SCRIPT` on the verifications. -/
theorem inv_storeVerification {w : World} (h : Inv cfg w) {c : CallId} {call : Call}
    (hcall : w.calls c = some call) {record : VerificationRecord} {now : Nat}
    (hcommand : CommandOk cfg call (.storeVerification record now)) :
    Inv cfg { w with verifications := (w.verifications.store w.time cfg.verificationTtlMs now
      cfg.maxBookingVerifications record.verificationId ⟨c, record⟩).1 } := by
  obtain ⟨verification, digits, created, hrequest, hrecord⟩ := hcommand
  refine h.withVerifications (h.verifications_indexed.store _ _ _ _ _)
    (ExpiryIndex.zcard_store_le h.verifications_bounded _ _ _ _ _) ?_
  intro k written hget
  rcases ExpiryIndex.hget_store hget with hold | ⟨-, -, hnew⟩
  · exact h.saved k written hold
  · rw [hnew]
    exact ⟨call, verification, digits, created, hcall, hrequest, hrecord⟩

/-- The world after `STORE_RECORD_SCRIPT` on the handoffs. -/
theorem inv_storeHandoff {w : World} (h : Inv cfg w) {c : CallId} {call : Call}
    (hcall : w.calls c = some call) (hsent : w.sent c = none) (hphase : call.phase.Settled)
    (hnone : ∀ place written, Holds w place written → written.writer ≠ c)
    {record : HandoffRecord} (hprepared : PreparedBy cfg call record) (now : Nat) :
    Inv cfg { w with handoffs := (w.handoffs.store w.time cfg.handoffTtlMs now
      cfg.maxBookingHandoffs record.handoffId ⟨c, record⟩).1 } := by
  refine h.storesHandoff (h.handoffs_indexed.store _ _ _ _ _)
    (ExpiryIndex.zcard_store_le h.handoffs_bounded _ _ _ _ _) record.handoffId
    (fun k written hget => ?_) hcall hsent hphase hprepared hnone
  rcases ExpiryIndex.hget_store hget with hold | ⟨hk, -, hnew⟩
  · exact .inr hold
  · exact .inl ⟨hk, hnew⟩

/-- The world after `CONSUME_HANDOFF_SCRIPT`. -/
theorem inv_consume {w : World} (h : Inv cfg w) (id : String) :
    Inv cfg { w with handoffs := (w.handoffs.take w.time id).1 } :=
  h.withHandoffs (h.handoffs_indexed.take id)
    ((ExpiryIndex.zcard_take_le _ _ _).trans h.handoffs_bounded)
    fun _ _ hget => ExpiryIndex.hget_take hget

theorem settled_of_sent {call : Call}
    (h : call.phase.waiting?.isSome ∨ ∃ error, call.phase = .failed error) :
    call.phase.Settled := by
  rcases h with hwaiting | ⟨error, hphase⟩
  · cases hphase : call.phase <;> simp_all [Phase.waiting?, Phase.Settled]
  · rw [hphase]
    trivial

/-- What a call makes of the reply to `GET`. -/
theorem inv_read {w : World} (h : Inv cfg w) {c : CallId} {call : Call}
    (hcall : w.calls c = some call) (hsent : w.sent c = none)
    (hnone : ∀ place written, Holds w place written → written.writer ≠ c)
    {id : String} (hcommand : CommandOk cfg call (.readVerification id)) :
    Inv cfg (w.setCall c (afterRead cfg id (w.verifications.records.get w.time id) call)) := by
  obtain ⟨verificationId, acceptChanges, hrequest, hid, hread⟩ := hcommand
  have hgo : ∀ call' : Call, call'.request = call.request → CallOk cfg call' none →
      (∀ written, call'.phase ≠ .redeemed written) →
      (∀ written, call'.read = some written → SavedBy cfg w.calls written) →
      Inv cfg (w.setCall c call') := by
    intro call' hsame hok hafter hreads
    rw [setCall_eq, hsent]
    refine h.call hok (fun other hother => ?_) hreads hafter ?_
    · rw [hcall] at hother
      cases hother
      exact hsame
    · intro place written other hplace hw
      exact absurd hw (hnone place written hplace)
  have hold : ∀ written, call.read = some written → SavedBy cfg w.calls written :=
    fun written => h.read c call written hcall
  cases hget : w.verifications.records.get w.time id with
  | none => exact hgo _ rfl (.failed _ _ _) nofun hold
  | some written =>
    obtain ⟨expiresAt, hentry, -⟩ := Keyspace.get_eq_some.mp hget
    have hsaved : ∀ other, some written = some other → SavedBy cfg w.calls other := by
      rintro other ⟨⟩
      exact h.saved id _ hentry
    unfold afterRead
    dsimp only
    split
    · exact hgo _ rfl (.failed _ _ _) nofun hold
    rw [hrequest]
    dsimp only
    split
    · exact hgo _ hrequest.symm (.failed _ _ _) nofun hsaved
    · rename_i reference hauthorized
      refine hgo _ hrequest.symm ⟨rfl, ?_⟩ nofun hsaved
      exact ⟨verificationId, acceptChanges, written, rfl, rfl,
        authorizeHandoff_consent hauthorized⟩

/-- What a call makes of the reply to `CONSUME_HANDOFF_SCRIPT`. -/
theorem inv_redeem {w : World} (h : Inv cfg w) {c : CallId} {call : Call}
    (hcall : w.calls c = some call) (hsent : w.sent c = none) {id : String}
    (hcommand : CommandOk cfg call (.consumeHandoff id)) :
    Inv cfg ({ w with handoffs := (w.handoffs.take w.time id).1 }.setCall c
      { call with phase := afterConsume id (w.handoffs.take w.time id).2 }) := by
  have htaken := inv_consume h id
  have hfails : ∀ error, Inv cfg ({ w with handoffs := (w.handoffs.take w.time id).1 }.setCall c
      { call with phase := .failed error }) :=
    fun error => htaken.replied hcall hsent (.failed _ _ _) nofun (.inr trivial)
  rcases ExpiryIndex.take_cases w.handoffs w.time id with ⟨written, hget, htake⟩ | ⟨-, htake⟩
  · rw [htake] at hfails htaken ⊢
    unfold afterConsume
    dsimp only
    split
    · exact hfails _
    · obtain ⟨expiresAt, hentry, -⟩ := Keyspace.get_eq_some.mp hget
      refine h.redeems htaken.handoffs_indexed htaken.handoffs_bounded id ?_
        ⟨expiresAt, hentry⟩ hcall hsent hcommand
      intro k other hk
      simp only [ExpiryIndex.remove, Keyspace.del, Hash.hget_hdel] at hk
      split at hk
      · cases hk
      · rename_i hne
        exact ⟨hne, hk⟩
  · rw [htake] at hfails ⊢
    exact hfails _

/-- A command takes effect; the call may have given up, or may not see the reply. -/
theorem inv_command {w : World} (h : Inv cfg w) {c : CallId} {call : Call} {command : Command}
    (hcall : w.calls c = some call) (hsent : w.sent c = some command) (redirectUrl : String)
    (attempt : Nat) :
    Inv cfg ((runCommand cfg w c redirectUrl attempt call command).1.received c) ∧
      (call.phase = .sending redirectUrl attempt →
        Inv cfg (((runCommand cfg w c redirectUrl attempt call command).1.setCall c
          (runCommand cfg w c redirectUrl attempt call command).2).received c)) := by
  obtain ⟨hcommand, hphase⟩ := (h.calls c call hcall).sent hsent
  have hreceived := h.received hcall hsent
  have hsent' : (w.received c).sent c = none := by simp [World.received]
  have hnone : ∀ place written, Holds (w.received c) place written → written.writer ≠ c :=
    fun place written hplace => h.writes_none (.inl (by rw [hsent]; simp)) hplace
  cases command with
  | storeVerification record now =>
    have hstored : Inv cfg { w.received c with verifications :=
        (w.verifications.store w.time cfg.verificationTtlMs now cfg.maxBookingVerifications
          record.verificationId ⟨c, record⟩).1 } :=
      inv_storeVerification hreceived hcall hcommand
    unfold runCommand
    dsimp only
    generalize w.verifications.store w.time cfg.verificationTtlMs now cfg.maxBookingVerifications
      record.verificationId ⟨c, record⟩ = result at hstored ⊢
    refine ⟨hstored, fun _ => ?_⟩
    change Inv cfg ({ w.received c with verifications := result.1 }.setCall c _)
    have hafter := afterStore_ne result.2 attempt .saving (.saved record) "VERIFICATION"
      "verification"
    generalize afterStore result.2 attempt .saving (.saved record) "VERIFICATION"
      "verification" = phase at hafter ⊢
    refine hstored.replied hcall hsent' ?_ ?_ (.inl hnone)
    · rcases hafter with rfl | ⟨-, ⟨n, rfl⟩ | ⟨error, rfl⟩⟩
      · rfl
      · rfl
      · exact .failed _ _ _
    · rcases hafter with rfl | ⟨-, ⟨n, rfl⟩ | ⟨error, rfl⟩⟩
      all_goals nofun
  | readVerification id =>
    exact ⟨hreceived, fun _ => inv_read hreceived hcall hsent' hnone hcommand⟩
  | storeHandoff record now =>
    obtain ⟨hprepared, hurl⟩ := hcommand
    have hstored : Inv cfg { w.received c with handoffs :=
        (w.handoffs.store w.time cfg.handoffTtlMs now cfg.maxBookingHandoffs record.handoffId
          ⟨c, record⟩).1 } :=
      inv_storeHandoff hreceived hcall hsent' (settled_of_sent hphase) hnone hprepared now
    -- where nothing was stored, the call may try again
    have hkept : (w.handoffs.store w.time cfg.handoffTtlMs now cfg.maxBookingHandoffs
          record.handoffId ⟨c, record⟩).2 ≠ .ok → ∀ place written,
        Holds { w.received c with handoffs := (w.handoffs.store w.time cfg.handoffTtlMs now
          cfg.maxBookingHandoffs record.handoffId ⟨c, record⟩).1 } place written →
        written.writer ≠ c := by
      rintro hne (k | d) written hplace
      · obtain ⟨e, hget⟩ := hplace
        rcases ExpiryIndex.hget_store hget with hold | ⟨-, hok, -⟩
        · exact hnone (.inl k) written ⟨e, hold⟩
        · exact absurd hok hne
      · exact hnone (.inr d) written hplace
    unfold runCommand
    dsimp only
    generalize w.handoffs.store w.time cfg.handoffTtlMs now cfg.maxBookingHandoffs
      record.handoffId ⟨c, record⟩ = result at hstored hkept ⊢
    refine ⟨hstored, fun hsending => ?_⟩
    change Inv cfg ({ w.received c with handoffs := result.1 }.setCall c _)
    have hafter := afterStore_ne result.2 attempt (.handing redirectUrl) (.prepared record)
      "HANDOFF" "handoff"
    generalize afterStore result.2 attempt (.handing redirectUrl) (.prepared record) "HANDOFF"
      "handoff" = phase at hafter ⊢
    rcases hafter with rfl | ⟨hne, ⟨n, rfl⟩ | ⟨error, rfl⟩⟩
    · exact hstored.replied hcall hsent' rfl nofun (.inr trivial)
    · obtain ⟨hconsent, hsafe, -⟩ := hprepared
      refine hstored.replied hcall hsent' ?_ nofun (.inl (hkept hne))
      exact ⟨rfl, hconsent, hurl redirectUrl attempt hsending ▸ hsafe⟩
    · exact hstored.replied hcall hsent' (.failed _ _ _) nofun (.inl (hkept hne))
  | consumeHandoff id =>
    exact ⟨inv_consume hreceived id, fun _ => inv_redeem hreceived hcall hsent' hcommand⟩

theorem inv_step {w w' : World} {input : Input} (h : Inv cfg w)
    (hstep : bookingStep cfg w input = some w') : Inv cfg w' := by
  cases input with
  | tick =>
    cases hstep
    exact ⟨h.verifications_indexed.mono (Nat.le_succ _), h.handoffs_indexed.mono (Nat.le_succ _),
      h.verifications_bounded, h.handoffs_bounded, h.unstarted, h.calls, h.read, h.saved, h.held,
      h.unique⟩
  | start c request =>
    simp only [bookingStep] at hstep
    split at hstep
    · cases hstep
    · rename_i hnone
      cases hstep
      exact inv_start h hnone request
  | draw c digits createdAt now =>
    simp only [bookingStep] at hstep
    split at hstep
    · cases hstep
    · obtain ⟨call, hcall, hdraw⟩ := Option.bind_eq_some_iff.mp hstep
      exact inv_draw h hcall hdraw
  | provide c result =>
    obtain ⟨call, hcall, hprovide⟩ := Option.bind_eq_some_iff.mp hstep
    split at hprovide
    · rename_i hphase
      cases hprovide
      obtain ⟨hsent, hconsent⟩ := (h.calls c call hcall).providing hphase
      obtain ⟨hok, hafter⟩ := @afterProvider_ok cfg call hconsent result
      rw [setCall_eq, hsent]
      exact h.moves hcall (by simp [hphase, Phase.Settled]) hok hafter
    · cases hprovide
  | apply c answered =>
    obtain ⟨call, hcall, happly⟩ := Option.bind_eq_some_iff.mp hstep
    obtain ⟨command, hsent, hresult⟩ := Option.map_eq_some_iff.mp happly
    split at hresult
    · rename_i redirectUrl attempt hwaiting
      subst hresult
      obtain ⟨hunseen, hseen⟩ := inv_command h hcall hsent redirectUrl attempt
      cases answered with
      | false => exact hunseen
      | true =>
        refine hseen ?_
        cases hphase : call.phase <;> simp_all [Phase.waiting?]
    · subst hresult
      exact (inv_command h hcall hsent "" 0).1
  | giveUp c =>
    obtain ⟨call, hcall, hgive⟩ := Option.bind_eq_some_iff.mp hstep
    obtain ⟨waiting, hwaiting, rfl⟩ := Option.map_eq_some_iff.mp hgive
    rw [setCall_eq]
    refine h.call ?_ (fun other hother => ?_) ?_ nofun ?_
    · intro sent hsent
      exact ((h.calls c call hcall).sent hsent).1.failed
    · rw [hcall] at hother
      cases hother
      rfl
    · exact fun written => h.read c call written hcall
    · intro place written other hplace hw hother
      rw [hcall] at hother
      cases hother
      exact ⟨hw ▸ (h.held place written hplace).1, trivial, rfl⟩

theorem inv_reach {w : World} (h : (bookingMachine cfg).Reach Machine.Anything w) : Inv cfg w :=
  h.invariant (fun _ hinit => hinit ▸ inv_init cfg) fun _ _ _ hinv _ hstep => inv_step hinv hstep

/-! ## 5. Every run -/

/-- What holds in every state of a run. -/
structure HandoffsSafe (cfg : BookingSettings) (w : World) : Prop where
  /-- Two calls that redeem a record of the same prepare call are one call. -/
  once : ∀ c c' call call' handoff handoff', w.calls c = some call → w.calls c' = some call' →
    call.phase = .redeemed handoff → call'.phase = .redeemed handoff' →
    handoff.writer = handoff'.writer → c = c'
  /-- What is redeemed is the URL of a prepare call with consent, which read a verification that
      a save call stored. -/
  consented : ∀ c call handoff, w.calls c = some call → call.phase = .redeemed handoff →
    SafeUrl cfg handoff.record.redirectUrl ∧
    ∃ writer verificationId acceptChanges written, w.calls handoff.writer = some writer ∧
      writer.request = .prepare verificationId acceptChanges ∧ writer.read = some written ∧
      SavedBy cfg w.calls written ∧ handoff.record.verificationId = written.record.verificationId ∧
      (written.record.verification.requiresUserConfirmation = false ∨ acceptChanges = true)
  verifications_indexed : w.verifications.Indexed w.time
  handoffs_indexed : w.handoffs.Indexed w.time
  verifications_bounded :
    (w.verifications.liveKeys w.time).length ≤ cfg.maxBookingVerifications
  handoffs_bounded : (w.handoffs.liveKeys w.time).length ≤ cfg.maxBookingHandoffs

/-- A record that is live before a step and gives way to another under its key was reaped: its
    time in the index was over by the clock of the process that stored the other. -/
structure ReplacesReaped (w : World) (input : Input) (w' : World) : Prop where
  verifications : ∀ k old new, w.verifications.records.get w.time k = some old →
    w'.verifications.records.get w'.time k = some new → old ≠ new →
    ∃ c answered record now score, input = .apply c answered ∧
      w.sent c = some (.storeVerification record now) ∧ record.verificationId = k ∧
      w.verifications.index.zscore k = some score ∧ score ≤ now
  handoffs : ∀ k old new, w.handoffs.records.get w.time k = some old →
    w'.handoffs.records.get w'.time k = some new → old ≠ new →
    ∃ c answered record now score, input = .apply c answered ∧
      w.sent c = some (.storeHandoff record now) ∧ record.handoffId = k ∧
      w.handoffs.index.zscore k = some score ∧ score ≤ now

theorem Inv.safe {w : World} (h : Inv cfg w) : HandoffsSafe cfg w where
  once c c' call call' handoff handoff' hcall hcall' hphase hphase' hwriter :=
    Sum.inr.inj (h.unique (.inr c) (.inr c') handoff handoff' ⟨call, hcall, hphase⟩
      ⟨call', hcall', hphase'⟩ hwriter)
  consented c call handoff hcall hphase := by
    obtain ⟨-, writer, hwriter, -, hconsent, hsafe, written, hread, hid, -⟩ :=
      h.held (.inr c) handoff ⟨call, hcall, hphase⟩
    obtain ⟨verificationId, acceptChanges, written', hrequest, hread', haccepted⟩ := hconsent
    rw [hread] at hread'
    cases hread'
    exact ⟨hsafe, writer, verificationId, acceptChanges, written, hwriter, hrequest, hread,
      h.read _ writer written hwriter hread, hid, haccepted⟩
  verifications_indexed := h.verifications_indexed
  handoffs_indexed := h.handoffs_indexed
  verifications_bounded :=
    (ExpiryIndex.length_liveKeys_le h.verifications_indexed).trans h.verifications_bounded
  handoffs_bounded :=
    (ExpiryIndex.length_liveKeys_le h.handoffs_indexed).trans h.handoffs_bounded

/-- What a step does to the stores. -/
inductive StoresStep (cfg : BookingSettings) (w : World) (input : Input) (w' : World) : Prop
  | kept : w'.verifications = w.verifications → w'.handoffs = w.handoffs → w.time ≤ w'.time →
      StoresStep cfg w input w'
  | storedVerification (c : CallId) (answered : Bool) (record : VerificationRecord) (now : Nat) :
      input = .apply c answered → w.sent c = some (.storeVerification record now) →
      w'.time = w.time → w'.handoffs = w.handoffs →
      w'.verifications = (w.verifications.store w.time cfg.verificationTtlMs now
        cfg.maxBookingVerifications record.verificationId ⟨c, record⟩).1 →
      StoresStep cfg w input w'
  | storedHandoff (c : CallId) (answered : Bool) (record : HandoffRecord) (now : Nat) :
      input = .apply c answered → w.sent c = some (.storeHandoff record now) →
      w'.time = w.time → w'.verifications = w.verifications →
      w'.handoffs = (w.handoffs.store w.time cfg.handoffTtlMs now cfg.maxBookingHandoffs
        record.handoffId ⟨c, record⟩).1 →
      StoresStep cfg w input w'
  | consumed (id : String) : w'.time = w.time → w'.verifications = w.verifications →
      w'.handoffs = (w.handoffs.take w.time id).1 → StoresStep cfg w input w'

theorem runCommand_stores {w : World} {c : CallId} {command : Command} (call : Call)
    (redirectUrl : String) (attempt : Nat) (answered : Bool) (hsent : w.sent c = some command)
    {w' : World}
    (hv : w'.verifications =
      (runCommand cfg w c redirectUrl attempt call command).1.verifications)
    (hh : w'.handoffs = (runCommand cfg w c redirectUrl attempt call command).1.handoffs)
    (ht : w'.time = (runCommand cfg w c redirectUrl attempt call command).1.time) :
    StoresStep cfg w (.apply c answered) w' := by
  cases command with
  | storeVerification record now => exact .storedVerification c answered record now rfl hsent ht hh hv
  | readVerification id => exact .kept hv hh ht.ge
  | storeHandoff record now => exact .storedHandoff c answered record now rfl hsent ht hv hh
  | consumeHandoff id => exact .consumed id ht hv hh

theorem step_stores {w w' : World} {input : Input} (hstep : bookingStep cfg w input = some w') :
    StoresStep cfg w input w' := by
  cases input with
  | tick =>
    cases hstep
    exact .kept rfl rfl (Nat.le_succ _)
  | start c request =>
    simp only [bookingStep] at hstep
    split at hstep
    · cases hstep
    · cases hstep
      cases request with
      | save verification => exact .kept rfl rfl le_rfl
      | prepare verificationId acceptChanges =>
        unfold startCall
        dsimp only
        split <;> exact .kept rfl rfl le_rfl
      | redeem handoffId =>
        unfold startCall
        dsimp only
        split <;> exact .kept rfl rfl le_rfl
  | draw c digits createdAt now =>
    simp only [bookingStep] at hstep
    split at hstep
    · cases hstep
    · obtain ⟨call, -, hdraw⟩ := Option.bind_eq_some_iff.mp hstep
      unfold drawId at hdraw
      dsimp only at hdraw
      split at hdraw
      · cases hdraw
        split <;> exact .kept rfl rfl le_rfl
      · cases hdraw
        split <;> exact .kept rfl rfl le_rfl
      · cases hdraw
  | provide c result =>
    obtain ⟨call, -, hprovide⟩ := Option.bind_eq_some_iff.mp hstep
    split at hprovide
    · cases hprovide
      exact .kept rfl rfl le_rfl
    · cases hprovide
  | apply c answered =>
    obtain ⟨call, -, happly⟩ := Option.bind_eq_some_iff.mp hstep
    obtain ⟨command, hsent, hresult⟩ := Option.map_eq_some_iff.mp happly
    split at hresult
    · rename_i redirectUrl attempt hwaiting
      subst hresult
      cases answered with
      | false => exact runCommand_stores call redirectUrl attempt _ hsent rfl rfl rfl
      | true => exact runCommand_stores call redirectUrl attempt _ hsent rfl rfl rfl
    · subst hresult
      exact runCommand_stores call "" 0 answered hsent rfl rfl rfl
  | giveUp c =>
    obtain ⟨call, -, hgive⟩ := Option.bind_eq_some_iff.mp hstep
    obtain ⟨waiting, -, rfl⟩ := Option.map_eq_some_iff.mp hgive
    exact .kept rfl rfl le_rfl

/-- A store that only loses records replaces none. -/
theorem not_replaced {ν : Type} {s s' : ExpiryIndex String ν} {time time' : Nat} {k : String}
    {old new : ν} (hsub : s'.records.get time' k = some new → s.records.get time k = some new)
    (hold : s.records.get time k = some old) (hnew : s'.records.get time' k = some new) :
    old = new := by
  have heq := hold.symm.trans (hsub hnew)
  exact Option.some.inj heq

theorem StoresStep.replaces {w w' : World} {input : Input} (h : StoresStep cfg w input w') :
    ReplacesReaped w input w' := by
  cases h with
  | kept hv hh ht =>
    constructor
    · intro k old new hold hnew hne
      rw [hv] at hnew
      exact absurd (not_replaced (ExpiryIndex.get_mono ht) hold hnew) hne
    · intro k old new hold hnew hne
      rw [hh] at hnew
      exact absurd (not_replaced (ExpiryIndex.get_mono ht) hold hnew) hne
  | storedVerification c answered record now hinput hsent ht hh hv =>
    constructor
    · intro k old new hold hnew hne
      rw [hv, ht] at hnew
      obtain ⟨rfl, -, score, hscore, hle⟩ := ExpiryIndex.store_replaces hold hnew hne
      exact ⟨c, answered, record, now, score, hinput, hsent, rfl, hscore, hle⟩
    · intro k old new hold hnew hne
      rw [hh, ht] at hnew
      exact absurd (not_replaced id hold hnew) hne
  | storedHandoff c answered record now hinput hsent ht hv hh =>
    constructor
    · intro k old new hold hnew hne
      rw [hv, ht] at hnew
      exact absurd (not_replaced id hold hnew) hne
    · intro k old new hold hnew hne
      rw [hh, ht] at hnew
      obtain ⟨rfl, -, score, hscore, hle⟩ := ExpiryIndex.store_replaces hold hnew hne
      exact ⟨c, answered, record, now, score, hinput, hsent, rfl, hscore, hle⟩
  | consumed id ht hv hh =>
    constructor
    · intro k old new hold hnew hne
      rw [hv, ht] at hnew
      exact absurd (not_replaced (fun hnew => hnew) hold hnew) hne
    · intro k old new hold hnew hne
      rw [hh, ht] at hnew
      exact absurd (not_replaced (ExpiryIndex.get_take _ _ id k) hold hnew) hne

theorem handoff_safety {w : World} (h : (bookingMachine cfg).Reach Machine.Anything w) :
    HandoffsSafe cfg w ∧
      ∀ input w', (bookingMachine cfg).step w input = some w' → ReplacesReaped w input w' :=
  ⟨(inv_reach h).safe, fun _ _ hstep => (step_stores hstep).replaces⟩

/-! A run in which the clock of the second process is five minutes ahead and both draw one id. -/

def checkoutUrl : String := "https://pay.example/checkout"

def checkoutSettings : BookingSettings where
  parseUrl text :=
    if text = checkoutUrl then some ⟨"https:", "pay.example", "", "", checkoutUrl⟩ else none
  verificationFits _ := true
  handoffFits _ := true
  getProvider _ := some ⟨true, true, true⟩

def checkoutDigits : String := "0123456789abcdef0123456789abcdef0123"

def checkoutVerification : Verification where
  searchId := some "search-1"
  hotelId := "hotel-7"
  originalOfferId := "offer-1"
  confirmedOffer := {}
  sourceProvider := some "liteapi"
  providerBookingReference := some "prebook-1"
  requiresUserConfirmation := false
  changedFields := []

/-- A verification is saved and two calls prepare a handoff of it; the command of the second is
    still on its way. -/
def collidingRun : List Input :=
  [.start 0 (.save checkoutVerification), .draw 0 checkoutDigits 0 0, .apply 0 true,
    .start 1 (.prepare ("verify-" ++ checkoutDigits) false), .apply 1 true,
    .provide 1 (.ok checkoutUrl), .draw 1 checkoutDigits 0 0, .apply 1 true,
    .start 2 (.prepare ("verify-" ++ checkoutDigits) false), .apply 2 true,
    .provide 2 (.ok checkoutUrl), .draw 2 checkoutDigits 300000 300000]

/-- The creation time of the live record under the drawn id. -/
def liveCreatedAt (w : World) : Option Nat :=
  (w.handoffs.records.get w.time ("handoff-" ++ checkoutDigits)).map (·.record.createdAt)

theorem colliding_run : (((bookingMachine checkoutSettings).exec Machine.Anything {} collidingRun).map
    fun w => (liveCreatedAt w, (bookingStep checkoutSettings w (.apply 2 true)).map liveCreatedAt)) =
    some (some 0, some (some 300000)) := by
  decide +kernel

theorem live_record_overwritten : ¬ ∀ (cfg : BookingSettings) (w : World),
    (bookingMachine cfg).Reach Machine.Anything w → ∀ input w',
    (bookingMachine cfg).step w input = some w' → ∀ k old new,
    w.handoffs.records.get w.time k = some old → w'.handoffs.records.get w'.time k = some new →
    old.record = new.record := by
  intro hkept
  obtain ⟨w, hreach, hlive⟩ := Machine.Reach.of_exec_map collidingRun rfl colliding_run
  obtain ⟨hold, hnew⟩ := Prod.mk.inj hlive
  obtain ⟨w', hstep, hnew⟩ := Option.map_eq_some_iff.mp hnew
  obtain ⟨old, hold, hcreated⟩ := Option.map_eq_some_iff.mp hold
  obtain ⟨new, hnew, hcreated'⟩ := Option.map_eq_some_iff.mp hnew
  have heq := hkept checkoutSettings w hreach (.apply 2 true) w' hstep _ old new hold hnew
  rw [heq, hcreated'] at hcreated
  exact absurd hcreated (by decide)

/-- The first handoff is redeemed. -/
def redeemingRun : List Input :=
  collidingRun.take 8 ++ [.start 3 (.redeem ("handoff-" ++ checkoutDigits)), .apply 3 true]

/-- The URL that a call has redeemed. -/
def redeemedUrl (w : World) (c : CallId) : Option String :=
  (w.calls c).bind fun call =>
    match call.phase with
    | .redeemed handoff => some handoff.record.redirectUrl
    | _ => none

theorem redeeming_run : (((bookingMachine checkoutSettings).exec Machine.Anything {}
    redeemingRun).map fun w => redeemedUrl w 3) = some (some checkoutUrl) := by
  decide +kernel

theorem handoff_safety_redeemed : ∃ w, redeemedUrl w 3 = some checkoutUrl ∧
    HandoffsSafe checkoutSettings w ∧ ∀ input w',
      (bookingMachine checkoutSettings).step w input = some w' → ReplacesReaped w input w' := by
  obtain ⟨w, hreach, hurl⟩ := Machine.Reach.of_exec_map redeemingRun rfl redeeming_run
  exact ⟨w, hurl, handoff_safety hreach⟩

end SmartStay.Booking
