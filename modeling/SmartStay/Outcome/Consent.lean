import SmartStay.Lib.Distinct
import SmartStay.Lib.Fallible
import SmartStay.Outcome.Dataset

/-!
# What an accepted dataset rests on

1. Tokens and keys are ASCII texts, on which a `Collation` is strict.
2. `CoveredBy`: a valid event lies within a granted consent of its subject.
3. `created_consent_valid`, `created_event_valid`: what the engine creates passes its checks.
4. `build_ok`: the inputs that `buildOfflineOutcomeDataset` accepts, and what it returns.
-/

namespace SmartStay.Outcome

open Contract JsSort

variable {rt : Runtime} {dates : Dates}

/-! ## 1. Collation -/

def IsAscii (text : String) : Prop := ∀ c ∈ text.toList, c.toNat < 128

/-- What is needed of `localeCompare`: an order that tells ASCII texts apart. -/
structure Collation (rt : Runtime) : Prop where
  trans : Std.TransCmp rt.localeCompare
  eq_of_ascii : ∀ first second, IsAscii first → IsAscii second →
    rt.localeCompare first second = .eq → first = second

theorem ascii_of_alphanum {c : Char} (h : c.isAlphanum = true) : c.toNat < 128 := by
  have hle : ∀ last : Char, c.val ≤ last.val → last.toNat < 128 → c.toNat < 128 :=
    fun last hc hlast => Nat.lt_of_le_of_lt (UInt32.le_iff_toNat_le.mp hc) hlast
  change (((decide (c.val ≥ 'A'.val ∧ c.val ≤ 'Z'.val)) ||
    (decide (c.val ≥ 'a'.val) && decide (c.val ≤ 'z'.val))) ||
      (decide (c.val ≥ '0'.val) && decide (c.val ≤ '9'.val))) = true at h
  simp only [Bool.or_eq_true, Bool.and_eq_true, decide_eq_true_eq] at h
  rcases h with (⟨-, hupper⟩ | ⟨-, hlower⟩) | ⟨-, hdigit⟩
  · exact hle 'Z' hupper (by decide)
  · exact hle 'z' hlower (by decide)
  · exact hle '9' hdigit (by decide)

theorem ascii_of_opaque {token : String} (h : isOpaqueToken token = true) : IsAscii token := by
  have hmatches : matchesOpaqueToken token = true := by
    simp only [isOpaqueToken, Bool.and_eq_true] at h
    exact h.1.1
  unfold matchesOpaqueToken at hmatches
  unfold IsAscii
  cases hlist : token.toList with
  | nil => exact nofun
  | cons first rest =>
    simp only [hlist, Bool.and_eq_true, List.all_eq_true, Bool.or_eq_true] at hmatches
    obtain ⟨⟨⟨hfirst, -⟩, -⟩, hrest⟩ := hmatches
    refine List.forall_mem_cons.mpr ⟨ascii_of_alphanum hfirst, fun c hc => ?_⟩
    rcases hrest c hc with halnum | hextra
    · exact ascii_of_alphanum halnum
    · have hextra : c = '.' ∨ c = '_' ∨ c = '-' := by simpa using hextra
      rcases hextra with rfl | rfl | rfl
      all_goals decide

theorem ascii_of_stableHash {text : String} (h : isStableHash text = true) : IsAscii text := by
  simp only [isStableHash, Bool.and_eq_true, decide_eq_true_eq, List.all_eq_true] at h
  obtain ⟨⟨htake, -⟩, hrest⟩ := h
  intro c hc
  rw [← List.take_append_drop 8 text.toList, htake, List.mem_append] at hc
  rcases hc with hfront | hc
  · have hascii : "fnv1a32-".toList.all (decide <| ·.toNat < 128) = true := by decide
    exact of_decide_eq_true (List.all_eq_true.mp hascii c hfront)
  · have hhex := hrest c hc
    simp only [JsText.isLowerHex, Bool.or_eq_true, Bool.and_eq_true, decide_eq_true_eq] at hhex
    rcases hhex with hdigit | ⟨-, hle⟩
    · exact ascii_of_alphanum (by simp [Char.isAlphanum, hdigit])
    · exact Nat.lt_of_le_of_lt (show c.toNat ≤ 'f'.toNat from hle) (by decide)

/-! ## 2. Consents -/

/-- An event under a granted consent of its subject, within its time and without an objection. -/
structure CoveredBy (dates : Dates) (event : OutcomeEvent) (consent : ConsentState) : Prop where
  consentId : consent.consentId = event.consentId
  subject : consent.subjectToken = event.subjectToken
  granted : consent.status = .granted
  unblocked : consent.doNotTrack = false ∧ consent.globalPrivacyControl = false
  within : ∃ recorded occurred, dates.parse consent.recordedAt = some recorded ∧
    dates.parse event.occurredAt = some occurred ∧ recorded ≤ occurred ∧
    ∀ expiresAt, consent.expiresAt = some expiresAt →
      ∃ expiry, dates.parse expiresAt = some expiry ∧ occurred ≤ expiry

theorem consentKeys_le : ∀ k ∈ ["consentId", "subjectToken", "status", "recordedAt", "expiresAt",
    "doNotTrack", "globalPrivacyControl", "phase", "purpose", "collectionAllowed", "reasonCodes",
    "fingerprint"], JsText.Le "collectionAllowed" k := by
  decide +kernel

theorem consent_toJson_first (rt : Runtime) (state : ConsentState) : ∃ rest,
    stableSerialize rt state.toJson = "\x7b" ++ (quote "collectionAllowed" ++ ":" ++
      stableSerialize rt (.bool state.collectionAllowed)) ++ rest := by
  have hmem : ("collectionAllowed", Json.bool state.collectionAllowed) ∈
      state.coreFields ++ [("fingerprint", Json.str state.fingerprint)] := by
    simp [ConsentState.coreFields]
  refine stableSerialize_first rt hmem ?_ ?_
  · exact (show (["consentId", "subjectToken", "status", "recordedAt", "expiresAt", "doNotTrack",
      "globalPrivacyControl", "phase", "purpose", "collectionAllowed", "reasonCodes",
      "fingerprint"] : List String).Nodup by decide +kernel)
  · exact consentKeys_le

/-- Consent states that are spelled alike allow collection alike. -/
theorem collectionAllowed_eq {state expected : ConsentState}
    (h : stableSerialize rt state.toJson = stableSerialize rt expected.toJson) :
    state.collectionAllowed = expected.collectionAllowed := by
  obtain ⟨rest, hrest⟩ := consent_toJson_first rt state
  obtain ⟨rest', hrest'⟩ := consent_toJson_first rt expected
  rw [hrest, hrest'] at h
  have hlists := congrArg String.toList h
  simp only [String.toList_append, List.append_assoc, List.append_cancel_left_eq] at hlists
  cases hstate : state.collectionAllowed <;> cases hexpected : expected.collectionAllowed
  · rfl
  · simp [stableSerialize, hstate, hexpected] at hlists
  · simp [stableSerialize, hstate, hexpected] at hlists
  · rfl

/-- A consent state that passes its check is that of a consent that passed it, and allows
    collection only as that one does. -/
theorem isValidConsentState_spec {state : ConsentState}
    (h : isValidConsentState rt dates state = true) :
    validateConsentInput dates state.toConsentInput = .ok () ∧
      state.collectionAllowed = (decide (state.status = .granted) &&
        !(state.doNotTrack || state.globalPrivacyControl)) ∧
      isOpaqueToken state.consentId = true := by
  unfold isValidConsentState at h
  cases hcreate : createOutcomeConsentState rt dates state.toConsentInput with
  | error message => simp [hcreate] at h
  | ok expected =>
    simp only [hcreate, decide_eq_true_eq] at h
    have hallowed := collectionAllowed_eq h
    obtain ⟨_, hinput, hexpected⟩ := Fallible.bind_ok.mp hcreate
    obtain rfl := Except.ok.inj hexpected
    refine ⟨hinput, hallowed, ?_⟩
    unfold validateConsentInput at hinput
    have htokens := (Fallible.throwIf_bind_ok.mp hinput).1
    simp only [Bool.or_eq_true, not_or, Bool.not_eq_true', Bool.not_eq_false] at htokens
    exact htokens.1.1.1

theorem instant_of_valid {state : ConsentState} (h : validateConsentInput dates state.toConsentInput = .ok ()) :
    isIsoInstant dates state.recordedAt = true ∧
      ∀ expiresAt, state.expiresAt = some expiresAt → isIsoInstant dates expiresAt = true := by
  unfold validateConsentInput at h
  have hchecks := (Fallible.throwIf_bind_ok.mp h).1
  simp only [Bool.or_eq_true, not_or, Bool.not_eq_true', Bool.not_eq_false] at hchecks
  refine ⟨hchecks.1.2, fun expiresAt hexpires => ?_⟩
  have hexpiry := hchecks.2
  rw [hexpires] at hexpiry
  simpa using hexpiry

theorem parse_of_isIsoInstant {value : String} (h : isIsoInstant dates value = true) :
    ∃ timestamp, dates.parse value = some timestamp := by
  unfold isIsoInstant at h
  cases hparse : dates.parse value with
  | none => simp [hparse] at h
  | some timestamp => exact ⟨timestamp, rfl⟩

/-- The envelope of an event without issues. -/
structure ValidEnvelope (dates : Dates) (event : OutcomeEvent) : Prop where
  eventId : isOpaqueToken event.eventId = true
  occurredAt : isIsoInstant dates event.occurredAt = true

theorem envelope_of_noIssues {event : OutcomeEvent} (h : eventIssues rt dates event = []) :
    ValidEnvelope dates event := by
  unfold eventIssues at h
  simp only [List.append_eq_nil_iff] at h
  obtain ⟨⟨-, hcreated⟩, -⟩ := h
  cases hcreate : createOutcomeEvent rt dates event.toEventInput with
  | error message => simp [hcreate] at hcreated
  | ok recreated =>
    unfold createOutcomeEvent at hcreate
    have hchecks := (Fallible.throwIf_bind_ok.mp hcreate).1
    simp only [Bool.or_eq_true, not_or, Bool.not_eq_true', Bool.not_eq_false] at hchecks
    exact ⟨hchecks.1.1.1.1, hchecks.1.1.1.2⟩

theorem coveredBy_of_noIssues {event : OutcomeEvent} {consent : ConsentState}
    (h : validateOutcomeEvent rt dates event consent = []) : CoveredBy dates event consent := by
  obtain ⟨hevent, hconsent⟩ := List.append_eq_nil_iff.mp h
  obtain ⟨-, hoccurredAt⟩ := envelope_of_noIssues hevent
  unfold consentIssues at hconsent
  simp only [List.append_eq_nil_iff, ite_eq_right_iff, imp_false, Bool.or_eq_true,
    not_or, List.cons_ne_nil, Bool.not_eq_true', Bool.not_eq_false, decide_eq_true_eq,
    Bool.and_eq_true, Bool.not_eq_true] at hconsent
  obtain ⟨⟨⟨⟨⟨hvalid, hid, hsubject⟩, hallowed⟩, hafter⟩, hexpiry⟩, hblocked⟩ := hconsent
  obtain ⟨hinput, hcollection, -⟩ := isValidConsentState_spec hvalid
  rw [hallowed, eq_comm, Bool.and_eq_true, decide_eq_true_eq] at hcollection
  obtain ⟨hrecorded, hexpires⟩ := instant_of_valid hinput
  obtain ⟨occurred, hocc⟩ := parse_of_isIsoInstant hoccurredAt
  obtain ⟨recorded, hrec⟩ := parse_of_isIsoInstant hrecorded
  refine ⟨hid, hsubject, hcollection.1, hblocked, recorded, occurred, hrec, hocc, ?_, ?_⟩
  · simpa [instantBefore, hocc, hrec] using hafter
  · intro expiresAt hexpiresAt
    obtain ⟨expiry, hexp⟩ := parse_of_isIsoInstant (hexpires expiresAt hexpiresAt)
    refine ⟨expiry, hexp, ?_⟩
    simpa [hexpiresAt, instantBefore, hexp, hocc] using hexpiry

/-! ## 3. Created records -/

theorem created_consent_valid {input : ConsentInput} {state : ConsentState}
    (h : createOutcomeConsentState rt dates input = .ok state) :
    state.toConsentInput = input ∧ isValidConsentState rt dates state = true := by
  have hinput : state.toConsentInput = input := by
    obtain ⟨_, -, hstate⟩ := Fallible.bind_ok.mp h
    obtain rfl := Except.ok.inj hstate
    rfl
  refine ⟨hinput, ?_⟩
  unfold isValidConsentState
  rw [hinput, h]
  simp

theorem emailFrom_of_noAt {text before : List Char} (h : '@' ∉ text) : emailFrom before text = false := by
  induction text generalizing before with
  | nil => rfl
  | cons c rest ih =>
    rw [List.mem_cons, not_or] at h
    have hc : ¬ c = '@' := fun heq => h.1 heq.symm
    simp [emailFrom, hc, ih h.2]

theorem matchesEmail_stableHash {text : String} (h : isStableHash text = true) :
    matchesEmail text = false := by
  refine emailFrom_of_noAt fun hat => ?_
  simp only [isStableHash, Bool.and_eq_true, decide_eq_true_eq, List.all_eq_true] at h
  obtain ⟨⟨htake, -⟩, hrest⟩ := h
  rw [← List.take_append_drop 8 text.toList, htake, List.mem_append] at hat
  rcases hat with hfront | hat
  · exact absurd hfront (by decide)
  · exact absurd (hrest _ hat) (by decide)

theorem visitFields_append (fields fields' : List (String × Json)) (path : String) :
    visitFields (fields ++ fields') path = visitFields fields path ++ visitFields fields' path := by
  induction fields with
  | nil => rfl
  | cons field rest ih =>
    rw [List.cons_append, visitFields, visitFields, ih, ← List.append_assoc]

theorem noViolations_iff {value : Json} :
    ¬ 0 < (findOutcomePiiViolations value).length ↔ visit value "" = [] := by
  rw [findOutcomePiiViolations, Nat.not_lt, Nat.le_zero, List.length_eq_zero_iff]
  constructor
  · intro hnil
    refine List.eq_nil_iff_forall_not_mem.mpr fun path hpath => ?_
    have hmem := mem_uniqueSorted.mpr hpath
    rw [hnil] at hmem
    cases hmem
  · intro hnil
    rw [hnil]
    rfl

/-- The header and the fingerprint of an event hold nothing personal. -/
theorem visit_event {event : OutcomeEvent} (hschema : event.schemaVersion = outcomeEventSchemaVersion)
    (hclass : event.dataClassification = "pseudonymous")
    (hfingerprint : isStableHash event.fingerprint = true)
    (hinput : visitFields event.toEventInput.fields "" = []) : visit event.toJson "" = [] := by
  have hheader : visitFields [("schemaVersion", .str outcomeEventSchemaVersion),
      ("dataClassification", .str "pseudonymous")] "" = [] := by decide +kernel
  have hkey : normalizeFieldKey "fingerprint" ∉ piiFieldKeys := by decide +kernel
  unfold OutcomeEvent.toJson OutcomeEvent.coreFields
  rw [visit, hschema, hclass, visitFields_append, visitFields_append, hheader, hinput]
  simp [visitFields, visit, hkey, matchesEmail_stableHash hfingerprint]

/-- An event that the engine creates passes its check. -/
theorem created_event_valid {input : EventInput} {event : OutcomeEvent}
    (h : createOutcomeEvent rt dates input = .ok event) :
    event.toEventInput = input ∧ eventIssues rt dates event = [] := by
  have hcreate := h
  unfold createOutcomeEvent at h
  obtain ⟨-, h⟩ := Fallible.throwIf_bind_ok.mp h
  obtain ⟨_, -, h⟩ := Fallible.bind_ok.mp h
  obtain ⟨hpii, h⟩ := Fallible.throwIf_bind_ok.mp h
  have heq := Except.ok.inj h
  have hinput : event.toEventInput = input := by rw [← heq]
  have hschema : event.schemaVersion = outcomeEventSchemaVersion := by rw [← heq]
  have hclass : event.dataClassification = "pseudonymous" := by rw [← heq]
  have hfingerprint : isStableHash event.fingerprint = true := by
    rw [← heq]
    exact isStableHash_createStableHash rt _ _
  have hfields : visitFields event.toEventInput.fields "" = [] :=
    hinput ▸ noViolations_iff.mp hpii
  refine ⟨hinput, ?_⟩
  unfold eventIssues
  rw [hinput, hcreate,
    if_neg (noViolations_iff.mpr (visit_event hschema hclass hfingerprint hfields))]
  simp [hschema, hclass]

/-! ## 4. Accepted inputs -/

/-- The inputs that the loops of `buildOfflineOutcomeDataset` let through. -/
structure AcceptedInput (rt : Runtime) (dates : Dates) (input : DatasetInput) : Prop where
  consentIds : (input.consents.map (·.consentId)).Nodup
  consents : ∀ consent ∈ input.consents, isValidConsentState rt dates consent = true
  consented : ∀ event ∈ input.events, isUnconsented rt dates input.consents event = false
  eventIds : (input.events.map (·.eventId)).Nodup

theorem checkConsents_ok {consents : List ConsentState} {seen : List String} {u : Unit} :
    checkConsents rt dates consents seen = .ok u ↔
      (∀ c ∈ consents, c.consentId ∉ seen ∧ isValidConsentState rt dates c = true) ∧
        (consents.map (·.consentId)).Nodup := by
  induction consents generalizing seen with
  | nil => simp [checkConsents]
  | cons c rest ih =>
    simp only [checkConsents, Fallible.errorIf_ok, ih, Bool.or_eq_true, not_or,
      List.contains_iff_mem, Bool.not_eq_true', Bool.not_eq_false, List.forall_mem_cons,
      List.map_cons, List.nodup_cons, List.mem_append, List.mem_singleton]
    constructor
    · rintro ⟨⟨hseen, hvalid⟩, hrest, hnodup⟩
      refine ⟨⟨⟨hseen, hvalid⟩, fun d hd => ⟨(hrest d hd).1.1, (hrest d hd).2⟩⟩, fun hmem => ?_,
        hnodup⟩
      obtain ⟨d, hd, heq⟩ := List.mem_map.mp hmem
      exact (hrest d hd).1.2 heq
    · rintro ⟨⟨⟨hseen, hvalid⟩, hrest⟩, hnotMem, hnodup⟩
      exact ⟨⟨hseen, hvalid⟩, fun d hd => ⟨⟨(hrest d hd).1,
        fun heq => hnotMem (heq ▸ List.mem_map_of_mem hd)⟩, (hrest d hd).2⟩, hnodup⟩

theorem checkEvents_ok {consents : List ConsentState} {events : List OutcomeEvent}
    {seen : List String} {u : Unit} : checkEvents rt dates consents events seen = .ok u ↔
      (∀ e ∈ events, isUnconsented rt dates consents e = false ∧ e.eventId ∉ seen) ∧
        (events.map (·.eventId)).Nodup := by
  induction events generalizing seen with
  | nil => simp [checkEvents]
  | cons e rest ih =>
    simp only [checkEvents, Fallible.errorIf_ok, ih, not_or, List.contains_iff_mem,
      Bool.not_eq_true, List.forall_mem_cons, List.map_cons, List.nodup_cons, List.mem_append,
      List.mem_singleton]
    constructor
    · rintro ⟨hvalid, hseen, hrest, hnodup⟩
      refine ⟨⟨⟨hvalid, hseen⟩, fun d hd => ⟨(hrest d hd).1, (hrest d hd).2.1⟩⟩, fun hmem => ?_,
        hnodup⟩
      obtain ⟨d, hd, heq⟩ := List.mem_map.mp hmem
      exact (hrest d hd).2.2 heq
    · rintro ⟨⟨⟨hvalid, hseen⟩, hrest⟩, hnotMem, hnodup⟩
      exact ⟨hvalid, hseen, fun d hd => ⟨(hrest d hd).1, (hrest d hd).2,
        fun heq => hnotMem (heq ▸ List.mem_map_of_mem hd)⟩, hnodup⟩

/-- The records of the decisions, in the order of their first events. -/
def decisionRecords (rt : Runtime) (events : List OutcomeEvent) : List OfflineRecord :=
  (decisionTokens events).filterMap fun token =>
    (sequenceRecord rt (sequenceOf events token)).toOption

theorem build_ok {input : DatasetInput} {d : OutcomeDataset} :
    buildOfflineOutcomeDataset rt dates input = .ok d ↔ AcceptedInput rt dates input ∧
      (∀ token ∈ decisionTokens input.events,
        ∃ r, sequenceRecord rt (sequenceOf input.events token) = .ok r) ∧
      d = createDataset rt input.events.length
        (sortBy (compareRecords rt) (decisionRecords rt input.events)) := by
  unfold buildOfflineOutcomeDataset
  constructor
  · intro h
    obtain ⟨_, hconsents, h⟩ := Fallible.bind_ok.mp h
    obtain ⟨_, hevents, h⟩ := Fallible.bind_ok.mp h
    obtain ⟨records, hrecords, h⟩ := Fallible.bind_ok.mp h
    obtain ⟨hall, rfl⟩ := Fallible.mapM_ok_iff.mp hrecords
    obtain ⟨hvalid, hids⟩ := checkConsents_ok.mp hconsents
    obtain ⟨hconsented, heventIds⟩ := checkEvents_ok.mp hevents
    exact ⟨⟨hids, fun c hc => (hvalid c hc).2, fun e he => (hconsented e he).1, heventIds⟩, hall,
      (Except.ok.inj h).symm⟩
  · rintro ⟨⟨hids, hvalid, hconsented, heventIds⟩, hall, rfl⟩
    refine Fallible.bind_ok.mpr ⟨(), checkConsents_ok.mpr ⟨fun c hc => ⟨nofun, hvalid c hc⟩, hids⟩,
      Fallible.bind_ok.mpr ⟨(), checkEvents_ok.mpr ⟨fun e he => ⟨hconsented e he, nofun⟩, heventIds⟩,
        Fallible.bind_ok.mpr ⟨_, Fallible.mapM_ok_iff.mpr ⟨hall, rfl⟩, rfl⟩⟩⟩

/-- Every event of an accepted input is covered by one of its consents. -/
theorem AcceptedInput.covered {input : DatasetInput} (h : AcceptedInput rt dates input)
    {event : OutcomeEvent} (hevent : event ∈ input.events) :
    ∃ consent ∈ input.consents, validateOutcomeEvent rt dates event consent = [] := by
  have hconsented := h.consented event hevent
  unfold isUnconsented consentById at hconsented
  split at hconsented
  · cases hconsented
  · next consent hfind =>
    exact ⟨consent, List.mem_of_find?_eq_some hfind, by simpa using hconsented⟩

end SmartStay.Outcome
