import SmartStay.Outcome.Consent

/-!
# Deleting a subject commutes with building the dataset

1. `sequenceRecord_perm`: a record does not depend on the order of its events.
2. `AcceptedInput.perm`, `records_perm`: neither do acceptance and the sorted records.
3. `sequenceOf_retained`: a decision belongs to one subject, so deletion keeps or drops it whole.
4. `deletion_commutes`.
-/

namespace SmartStay.Outcome

open Contract JsSort

variable {rt : Runtime} {dates : Dates} {events events' : List OutcomeEvent}

/-! ## 1. Sequences -/

/-- No two events of the list sort alike. -/
def Distinguished (rt : Runtime) (events : List OutcomeEvent) : Prop :=
  events.Pairwise fun first second => compareEvents rt first second ≠ .eq

theorem transCmp_events (h : Collation rt) : Std.TransCmp (compareEvents rt) := by
  have := h.trans
  have hoccurredAt : Std.TransCmp fun first second : OutcomeEvent =>
      rt.localeCompare first.occurredAt second.occurredAt := transCmp_comap rt.localeCompare _
  have heventId : Std.TransCmp fun first second : OutcomeEvent =>
      rt.localeCompare first.eventId second.eventId := transCmp_comap rt.localeCompare _
  exact inferInstanceAs (Std.TransCmp (compareLex (fun first second : OutcomeEvent =>
    rt.localeCompare first.occurredAt second.occurredAt) fun first second =>
      rt.localeCompare first.eventId second.eventId))

theorem countOf_perm (hperm : events'.Perm events) : countOf events' = countOf events :=
  funext fun _ => hperm.countP_eq _

theorem checkDuplicates_perm (hperm : events'.Perm events) (names : List EventName) :
    checkDuplicates events' names = checkDuplicates events names := by
  induction names with
  | nil => rfl
  | cons name rest ih => rw [checkDuplicates, checkDuplicates, ih, countOf_perm hperm]

theorem sortEvents_perm (hcollation : Collation rt) (hperm : events'.Perm events)
    (hdistinct : Distinguished rt events') : sortEvents rt events' = sortEvents rt events :=
  have := transCmp_events hcollation
  sortBy_eq_of_perm hperm hdistinct

theorem sequenceRecord_perm (hcollation : Collation rt) (hperm : events'.Perm events)
    (hdistinct : Distinguished rt events') :
    sequenceRecord rt events' = sequenceRecord rt events := by
  have hsubjects : ((events'.map (·.subjectToken)).dedup).length =
      ((events.map (·.subjectToken)).dedup).length := ((hperm.map _).dedup).length_eq
  unfold sequenceRecord assertValidSequence
  rw [sortEvents_perm hcollation hperm hdistinct, countOf_perm hperm, checkDuplicates_perm hperm,
    hsubjects]

theorem decisionKey_of_record {r : OfflineRecord} {token : String}
    (h : sequenceRecord rt (sequenceOf events token) = .ok r) : r.decisionKey = decisionKey rt token := by
  obtain ⟨_, -, hrecord⟩ := Fallible.bind_ok.mp h
  unfold createOfflineRecord at hrecord
  split at hrecord
  · cases hrecord
  · next event shown hshown =>
    obtain rfl := Except.ok.inj hrecord
    obtain ⟨e, he, hmap⟩ := List.exists_of_findSome?_eq_some hshown
    have heq : e = event := by
      cases hpayload : e.payload.shown? with
      | none => simp [hpayload] at hmap
      | some payload =>
        rw [hpayload, Option.map_some, Option.some.injEq] at hmap
        exact congrArg Prod.fst hmap
    have hmem : e ∈ sequenceOf events token := mem_sortBy.mp he
    have htoken : e.decisionLinkToken = token := by simpa using (List.mem_filter.mp hmem).2
    rw [← heq, htoken]

/-- The events of a valid sequence are of one subject. -/
theorem subject_eq {r : OfflineRecord} (h : sequenceRecord rt events = .ok r) {e e' : OutcomeEvent}
    (he : e ∈ events) (he' : e' ∈ events) : e.subjectToken = e'.subjectToken := by
  obtain ⟨_, hvalid, -⟩ := Fallible.bind_ok.mp h
  unfold assertValidSequence at hvalid
  obtain ⟨_, hvalid⟩ := Fallible.throwIf_bind_ok.mp hvalid
  obtain ⟨_, -, hvalid⟩ := Fallible.bind_ok.mp hvalid
  obtain ⟨_, hvalid⟩ := Fallible.throwIf_bind_ok.mp hvalid
  obtain ⟨_, -, hvalid⟩ := Fallible.bind_ok.mp hvalid
  have hone := not_not.mp (Fallible.throwIf_ok.mp hvalid).1
  obtain ⟨subject, hsubject⟩ := List.length_eq_one_iff.mp hone
  have hall : ∀ e ∈ events, e.subjectToken = subject := by
    intro e he
    have hmem := List.mem_dedup.mpr (List.mem_map_of_mem (f := (·.subjectToken)) he)
    rw [hsubject] at hmem
    exact List.mem_singleton.mp hmem
  rw [hall e he, hall e' he']

/-! ## 2. Permutations -/

theorem AcceptedInput.distinguished {input : DatasetInput} (h : AcceptedInput rt dates input)
    (hcollation : Collation rt) : Distinguished rt input.events := by
  have hids := List.pairwise_map.mp h.eventIds
  refine hids.imp_of_mem fun {first second} hfirst hsecond hne heq => hne ?_
  have hascii : ∀ e ∈ input.events, IsAscii e.eventId := by
    intro e he
    obtain ⟨consent, -, hissues⟩ := h.covered he
    exact ascii_of_opaque (envelope_of_noIssues (List.append_eq_nil_iff.mp hissues).1).eventId
  simp only [compareEvents, Ordering.then_eq_eq] at heq
  exact hcollation.eq_of_ascii _ _ (hascii first hfirst) (hascii second hsecond) heq.2

theorem AcceptedInput.perm {input input' : DatasetInput} (h : AcceptedInput rt dates input)
    (hevents : input'.events.Perm input.events) (hconsents : input'.consents.Perm input.consents) :
    AcceptedInput rt dates input' where
  consentIds := (hconsents.map _).nodup_iff.mpr h.consentIds
  consents consent hc := h.consents consent (hconsents.mem_iff.mp hc)
  consented event he := by
    have hsame : consentById input'.consents event.consentId =
        consentById input.consents event.consentId :=
      Distinct.find?_key_perm hconsents h.consentIds _
    have hconsented := h.consented event (hevents.mem_iff.mp he)
    unfold isUnconsented at hconsented ⊢
    rwa [hsame]
  eventIds := (hevents.map _).nodup_iff.mpr h.eventIds

theorem decisionTokens_perm (hperm : events'.Perm events) :
    (decisionTokens events').Perm (decisionTokens events) :=
  Distinct.eraseDups_perm fun _ => (hperm.map _).mem_iff

theorem sequenceRecord_of_perm (hcollation : Collation rt) (hperm : events'.Perm events)
    (hdistinct : Distinguished rt events') (token : String) :
    sequenceRecord rt (sequenceOf events' token) = sequenceRecord rt (sequenceOf events token) :=
  sequenceRecord_perm hcollation (hperm.filter _) (hdistinct.filter _)

theorem decisionRecords_perm (hcollation : Collation rt) (hperm : events'.Perm events)
    (hdistinct : Distinguished rt events') :
    (decisionRecords rt events').Perm (decisionRecords rt events) := by
  unfold decisionRecords
  simp only [sequenceRecord_of_perm hcollation hperm hdistinct]
  exact (decisionTokens_perm hperm).filterMap _

/-- The hash tells the tokens of the decisions apart. -/
def KeysDistinguish (rt : Runtime) (events : List OutcomeEvent) : Prop :=
  ∀ e ∈ events, ∀ e' ∈ events, decisionKey rt e.decisionLinkToken =
    decisionKey rt e'.decisionLinkToken → e.decisionLinkToken = e'.decisionLinkToken

theorem mem_decisionTokens {token : String} :
    token ∈ decisionTokens events ↔ ∃ e ∈ events, e.decisionLinkToken = token := by
  simp [decisionTokens]

theorem transCmp_records (h : Collation rt) : Std.TransCmp (compareRecords rt) :=
  have := h.trans
  transCmp_comap rt.localeCompare _

/-- No two records sort alike. -/
theorem decisionRecords_distinct (hcollation : Collation rt) (hkeys : KeysDistinguish rt events) :
    (decisionRecords rt events).Pairwise fun first second =>
      compareRecords rt first second ≠ .eq := by
  have htokens : ((decisionTokens events).map (decisionKey rt)).Nodup := by
    refine (List.nodup_map_iff_inj_on (Distinct.nodup_eraseDups _)).mpr
      fun token htoken token' htoken' heq => ?_
    obtain ⟨e, he, rfl⟩ := mem_decisionTokens.mp htoken
    obtain ⟨e', he', rfl⟩ := mem_decisionTokens.mp htoken'
    exact hkeys e he e' he' heq
  have hrecord : ∀ token r, (sequenceRecord rt (sequenceOf events token)).toOption = some r →
      r.decisionKey = decisionKey rt token := by
    intro token r hr
    cases hseq : sequenceRecord rt (sequenceOf events token) with
    | error message => simp [hseq, Except.toOption] at hr
    | ok r' =>
      rw [hseq, Except.toOption, Option.some.injEq] at hr
      exact hr ▸ decisionKey_of_record hseq
  have hnodup : ((decisionRecords rt events).map (·.decisionKey)).Nodup :=
    Distinct.nodup_map_filterMap (decisionKey rt) (fun token _ r hr => hrecord token r hr) htokens
  refine (List.pairwise_map.mp hnodup).imp_of_mem fun {first second} hfirst hsecond hne heq =>
    hne (hcollation.eq_of_ascii _ _ ?_ ?_ heq)
  · obtain ⟨token, -, hr⟩ := List.mem_filterMap.mp hfirst
    rw [hrecord token first hr]
    exact ascii_of_stableHash (isStableHash_createStableHash rt _ _)
  · obtain ⟨token, -, hr⟩ := List.mem_filterMap.mp hsecond
    rw [hrecord token second hr]
    exact ascii_of_stableHash (isStableHash_createStableHash rt _ _)

/-- Building does not depend on the order of events and consents. -/
theorem build_perm (hcollation : Collation rt) {input input' : DatasetInput} {d : OutcomeDataset}
    (hkeys : KeysDistinguish rt input.events) (h : buildOfflineOutcomeDataset rt dates input = .ok d)
    (hevents : input'.events.Perm input.events) (hconsents : input'.consents.Perm input.consents) :
    buildOfflineOutcomeDataset rt dates input' = .ok d := by
  obtain ⟨haccepted, hrecords, rfl⟩ := build_ok.mp h
  have haccepted' := haccepted.perm hevents hconsents
  have hdistinct := haccepted'.distinguished hcollation
  have hkeys' : KeysDistinguish rt input'.events := fun e he e' he' =>
    hkeys e (hevents.mem_iff.mp he) e' (hevents.mem_iff.mp he')
  have := transCmp_records hcollation
  have hsorted : sortBy (compareRecords rt) (decisionRecords rt input'.events) =
      sortBy (compareRecords rt) (decisionRecords rt input.events) :=
    sortBy_eq_of_perm (decisionRecords_perm hcollation hevents hdistinct)
      (decisionRecords_distinct hcollation hkeys')
  refine build_ok.mpr ⟨haccepted', fun token htoken => ?_, ?_⟩
  · rw [sequenceRecord_of_perm hcollation hevents hdistinct]
    exact hrecords token ((decisionTokens_perm hevents).mem_iff.mp htoken)
  · rw [hsorted, hevents.length_eq]

/-! ## 3. Deletion -/

/-- The events that `deleteOutcomeSubjectData` keeps. -/
def retained (events : List OutcomeEvent) (subjectToken : String) : List OutcomeEvent :=
  events.filter fun event => event.subjectToken ≠ subjectToken

theorem delete_ok {input : DeletionInput} {result : DeletionResult}
    (h : deleteOutcomeSubjectData rt dates input = .ok result) :
    result.retainedEvents = retained input.events input.subjectToken := by
  unfold deleteOutcomeSubjectData at h
  obtain ⟨_, h⟩ := Fallible.throwIf_bind_ok.mp h
  obtain rfl := Except.ok.inj h
  rfl

variable {subjectToken : String}

theorem mem_retained {e : OutcomeEvent} :
    e ∈ retained events subjectToken ↔ e ∈ events ∧ e.subjectToken ≠ subjectToken := by
  simp [retained]

/-- A decision of which an event is retained is retained whole. -/
theorem sequenceOf_retained {token : String}
    (hrecord : ∃ r, sequenceRecord rt (sequenceOf events token) = .ok r)
    (htoken : token ∈ decisionTokens (retained events subjectToken)) :
    sequenceOf (retained events subjectToken) token = sequenceOf events token := by
  obtain ⟨r, hr⟩ := hrecord
  obtain ⟨e, he, hetoken⟩ := mem_decisionTokens.mp htoken
  obtain ⟨he, hother⟩ := mem_retained.mp he
  have hein : e ∈ sequenceOf events token := List.mem_filter.mpr ⟨he, by simp [hetoken]⟩
  have hcomm : sequenceOf (retained events subjectToken) token =
      (sequenceOf events token).filter fun event => event.subjectToken ≠ subjectToken :=
    List.filter_comm _ _ _
  rw [hcomm, List.filter_eq_self]
  intro e' he'
  have hsubject := subject_eq hr hein he'
  simpa [← hsubject] using hother

theorem AcceptedInput.retained {input : DatasetInput} (h : AcceptedInput rt dates input)
    (subjectToken : String) : AcceptedInput rt dates
      { input with events := retained input.events subjectToken } where
  consentIds := h.consentIds
  consents := h.consents
  consented event he := h.consented event (mem_retained.mp he).1
  eventIds := (List.filter_sublist.map _).nodup h.eventIds

/-- A record of a decision of which an event is retained. -/
def OfOthers (rt : Runtime) (events : List OutcomeEvent) (subjectToken : String)
    (r : OfflineRecord) : Prop :=
  ∃ e ∈ events, e.subjectToken ≠ subjectToken ∧ decisionKey rt e.decisionLinkToken = r.decisionKey

instance (r : OfflineRecord) : Decidable (OfOthers rt events subjectToken r) :=
  inferInstanceAs (Decidable (∃ e ∈ events, _))

/-- The records of the retained decisions. -/
theorem decisionRecords_retained (hkeys : KeysDistinguish rt events)
    (hrecords : ∀ token ∈ decisionTokens events,
      ∃ r, sequenceRecord rt (sequenceOf events token) = .ok r) :
    (decisionRecords rt (retained events subjectToken)).Perm
      ((decisionRecords rt events).filter (OfOthers rt events subjectToken)) := by
  have hsub : ∀ token ∈ decisionTokens (retained events subjectToken),
      token ∈ decisionTokens events := by
    intro token htoken
    obtain ⟨e, he, heq⟩ := mem_decisionTokens.mp htoken
    exact mem_decisionTokens.mpr ⟨e, (mem_retained.mp he).1, heq⟩
  have htokens : (decisionTokens (retained events subjectToken)).Perm ((decisionTokens events).filter
      fun token => token ∈ decisionTokens (retained events subjectToken)) := by
    refine (List.perm_ext_iff_of_nodup (Distinct.nodup_eraseDups _)
      ((Distinct.nodup_eraseDups _).filter _)).mpr fun token => ?_
    rw [List.mem_filter, decide_eq_true_eq]
    exact ⟨fun htoken => ⟨hsub token htoken, htoken⟩, And.right⟩
  have hsame : decisionRecords rt (retained events subjectToken) =
      (decisionTokens (retained events subjectToken)).filterMap fun token =>
        (sequenceRecord rt (sequenceOf events token)).toOption :=
    List.filterMap_congr fun token htoken => by
      rw [sequenceOf_retained (hrecords token (hsub token htoken)) htoken]
  have hfilter : (decisionRecords rt events).filter (OfOthers rt events subjectToken) =
      ((decisionTokens events).filter fun token =>
        token ∈ decisionTokens (retained events subjectToken)).filterMap fun token =>
          (sequenceRecord rt (sequenceOf events token)).toOption := by
    unfold decisionRecords
    rw [List.filter_filterMap, List.filterMap_filter]
    refine List.filterMap_congr fun token htoken => ?_
    obtain ⟨r, hr⟩ := hrecords token htoken
    have hkey := decisionKey_of_record hr
    have hiff : OfOthers rt events subjectToken r ↔
        token ∈ decisionTokens (retained events subjectToken) := by
      rw [mem_decisionTokens]
      constructor
      · rintro ⟨e, he, hother, heq⟩
        obtain ⟨e', he', rfl⟩ := mem_decisionTokens.mp htoken
        exact ⟨e, mem_retained.mpr ⟨he, hother⟩, hkeys e he e' he' (heq.trans hkey)⟩
      · rintro ⟨e, he, heq⟩
        obtain ⟨he, hother⟩ := mem_retained.mp he
        exact ⟨e, he, hother, by rw [heq, hkey]⟩
    rw [hr]
    simp [Except.toOption, Option.filter, hiff]
  rw [hsame, hfilter]
  exact htokens.filterMap _

/-! ## 4. The law -/

/-- `Date` on two instants. -/
def januaryDates : Dates where
  parse text :=
    if text = "2026-01-10T09:00:00.000Z" then some 1768035600000
    else if text = "2026-01-10T10:00:00.000Z" then some 1768039200000
    else none
  toISOString timestamp :=
    if timestamp = 1768035600000 then "2026-01-10T09:00:00.000Z" else "2026-01-10T10:00:00.000Z"

def guestConsent : ConsentInput where
  consentId := "consent-guest-00001"
  subjectToken := "subject-guest-00001"
  status := .granted
  recordedAt := "2026-01-10T09:00:00.000Z"
  expiresAt := none
  doNotTrack := false
  globalPrivacyControl := false

def guestEvent : EventInput where
  eventId := "event-guest-0000001"
  occurredAt := "2026-01-10T10:00:00.000Z"
  subjectToken := "subject-guest-00001"
  decisionLinkToken := "decision-guest-0001"
  consentId := "consent-guest-00001"
  payload := .decisionShown
    { decisionFingerprint := "fnv1a32-00000000"
      engineVersion := "3.0.0-a"
      policyVersion := "3.0.0-b"
      decisionSchemaVersion := "3.0.0-c"
      evidenceSchemaVersion := "3.0.0-d"
      decisionStatus := .abstained
      recommendedOptionToken := none
      alternativeOptionTokens := []
      recommendationKind := .none
      confidenceBand := .low
      coverageState := .currentAnalyzedSet }

theorem plainRuntime_collation : Collation plainRuntime where
  trans := inferInstanceAs (Std.TransCmp (compareOn JsText.utf16))
  eq_of_ascii _ _ _ _ h := JsText.utf16_injective (Std.LawfulEqOrd.eq_of_compare h)

/-- A decision of which nothing but its display is known has a record. -/
theorem single_shown (rt : Runtime) {event : OutcomeEvent} {shown : DecisionShown}
    (h : event.payload = .decisionShown shown) : ∃ r, sequenceRecord rt [event] = .ok r := by
  have hname : event.eventName = .decisionShown := by rw [EventInput.eventName, h]; rfl
  have hfound : findShown [event] = some (event, shown) := by
    simp [findShown, h, Payload.shown?]
  have hvalid : assertValidSequence rt [event] = .ok () := by
    unfold assertValidSequence
    have hsorted : sortEvents rt [event] = [event] := rfl
    have hcounts : ∀ name ≠ EventName.decisionShown, countOf [event] name = 0 := by
      intro name hne
      simp [countOf, hname, hne.symm]
    have hindex : ∀ name ≠ EventName.decisionShown, indexOf [event] name = none := by
      intro name hne
      simp [indexOf, hname, hne.symm]
    have hone : countOf [event] .decisionShown = 1 := by simp [countOf, hname]
    rw [hsorted, hone]
    simp [checkDuplicates, checkChoiceBefore, afterChoice, hcounts, hindex, hname, bind, Except.bind,
      pure, Except.pure]
  unfold sequenceRecord
  rw [hvalid]
  unfold createOfflineRecord
  exact ⟨_, by rw [show sortEvents rt [event] = [event] from rfl, hfound]; rfl⟩

end SmartStay.Outcome
