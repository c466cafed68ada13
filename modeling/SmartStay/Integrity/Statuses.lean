import SmartStay.Integrity.Creation

/-!
# What a complete snapshot says

The evidence on the nights of a stay is complete, or its cost is, when every flag of
`createTemporalEvidence` and `createCost` agrees. Without a recognised currency of the total nothing
is compared with the currencies of the nights.

1. `parseIsoDate_bounds`, `parse_datesFrom`: the calendar nights of a stay.
2. `fullDateCoverage_iff`, `createScope_exact`.
3. `NightsFit`, `evidenceOfNights_complete`: when the evidence on the nights is complete.
4. `sortedNights_perm`, `status_perm`: the order of the nights.
5. `StatusesSound`, `statusesSound_iff`.
6. `mixed_currencies_complete`: nights in two currencies.
-/

namespace SmartStay.Integrity

open Contract

variable {rt : Runtime}

/-! ## 1. Calendar nights -/

theorem digitsValue_lt {digits : List Char} (h : ∀ c ∈ digits, c.isDigit = true) :
    digitsValue digits < 10 ^ digits.length := by
  have hfold : ∀ n bound, n < bound → digits.foldl (fun n c => n * 10 + (c.toNat - 48)) n <
      bound * 10 ^ digits.length := by
    induction digits with
    | nil => simp
    | cons c rest ih =>
      intro n bound hn
      have hc : c.toNat - 48 < 10 := by
        have hdigit := h c List.mem_cons_self
        simp only [Char.isDigit, Bool.and_eq_true, decide_eq_true_eq] at hdigit
        have hle : c.toNat ≤ 57 := UInt32.le_iff_toNat_le.mp hdigit.2
        omega
      have hnext : n * 10 + (c.toNat - 48) < bound * 10 := by omega
      rw [List.foldl_cons, List.length_cons, pow_succ', ← mul_assoc]
      exact ih (fun d hd => h d (List.mem_cons_of_mem c hd)) _ _ hnext
  have hlt := hfold 0 1 one_pos
  rwa [one_mul] at hlt

theorem daysBeforeMonth_le {year month : Nat} (hlow : 1 ≤ month) (hhigh : month ≤ 13) :
    daysBeforeMonth year month ≤ daysInYear year := by
  rw [← daysBeforeMonth_thirteen]
  induction hhigh using Nat.decreasingInduction with
  | of_succ m hm ih =>
    have hnext := ih (by omega)
    rw [daysBeforeMonth_succ hlow] at hnext
    omega
  | self => exact le_rfl

/-- Dates are read as days of the years from 100 to 9999. -/
theorem parseIsoDate_bounds {value : String} {day : ℤ} (h : parseIsoDate value = some day) :
    (daysBeforeYear 100 : ℤ) < day ∧ day ≤ daysBeforeYear 10000 := by
  unfold parseIsoDate at h
  split at h
  · next y₁ y₂ y₃ y₄ m₁ m₂ d₁ d₂ _ =>
    dsimp only at h
    split at h
    · next hvalid =>
      simp only [Bool.and_eq_true, decide_eq_true_eq, List.all_eq_true, and_assoc] at hvalid
      obtain ⟨hdigits, hyear, hmonth, hmonthLe, hday, hdayLe⟩ := hvalid
      have hyearLt : digitsValue [y₁, y₂, y₃, y₄] < 10 ^ 4 :=
        digitsValue_lt fun c hc => hdigits c (List.mem_append_left [m₁, m₂, d₁, d₂] hc)
      obtain rfl := Option.some_inj.mp h
      rw [dayNumber_eq]
      generalize digitsValue [y₁, y₂, y₃, y₄] = year at *
      generalize digitsValue [m₁, m₂] = month at *
      generalize digitsValue [d₁, d₂] = day at *
      have hlow := daysBeforeYear_mono hyear
      have hhigh : daysBeforeYear (year + 1) ≤ daysBeforeYear 10000 := daysBeforeYear_mono hyearLt
      have hend : daysBeforeMonth year (month + 1) ≤ daysInYear year :=
        daysBeforeMonth_le (by omega) (by omega)
      rw [daysBeforeMonth_succ hmonth] at hend
      rw [daysBeforeYear_succ] at hhigh
      constructor
      · exact_mod_cast (by omega)
      · exact_mod_cast (by omega)
    · cases h
  · cases h

/-- The dates of consecutive days are read as these days. -/
theorem parse_datesFrom {start finish : ℤ} (hstart : (daysBeforeYear 100 : ℤ) < start)
    (hfinish : finish ≤ daysBeforeYear 10000) :
    (datesFrom start (finish - start).toNat).map parseIsoDate =
      (List.range (finish - start).toNat).map fun i : ℕ => some (start + i) := by
  rw [datesFrom, List.map_map]
  refine List.map_congr_left fun i hi => ?_
  have hi := List.mem_range.mp hi
  have hday : ((start.toNat + i : ℕ) : ℤ) = start + i := by
    push_cast
    rw [Int.toNat_of_nonneg (by omega)]
  rw [Function.comp_apply, parseIsoDate_formatIsoDate (by omega) (by omega), hday]

/-- The dates are the nights of the stay, each once and in order. -/
def CalendarNights (checkIn checkOut : Option String) (dates : List String) : Prop :=
  ∃ start finish : ℤ, checkIn.bind parseIsoDate = some start ∧
    checkOut.bind parseIsoDate = some finish ∧ start < finish ∧
      dates.map parseIsoDate =
        (List.range (finish - start).toNat).map fun i : ℕ => some (start + i)

theorem enumerate_calendar {checkIn checkOut : Option String}
    (hne : enumerateStayNights checkIn checkOut ≠ []) :
    CalendarNights checkIn checkOut (enumerateStayNights checkIn checkOut) := by
  unfold enumerateStayNights at hne ⊢
  cases hin : checkIn.bind parseIsoDate with
  | none => simp [hin] at hne
  | some start =>
    cases hout : checkOut.bind parseIsoDate with
    | none => simp [hin, hout] at hne
    | some finish =>
      rw [hin, hout] at hne
      dsimp only at hne ⊢
      split at hne
      · exact absurd rfl hne
      · next hlt =>
        obtain ⟨_, -, hstart⟩ := Option.bind_eq_some_iff.mp hin
        obtain ⟨_, -, hfinish⟩ := Option.bind_eq_some_iff.mp hout
        rw [if_neg hlt]
        exact ⟨start, finish, hin, hout, not_le.mp hlt,
          parse_datesFrom (parseIsoDate_bounds hstart).1 (parseIsoDate_bounds hfinish).2⟩

theorem CalendarNights.nodup {checkIn checkOut : Option String} {dates : List String}
    (h : CalendarNights checkIn checkOut dates) : dates.Nodup := by
  obtain ⟨start, finish, -, -, -, hdates⟩ := h
  refine List.Nodup.of_map parseIsoDate ?_
  rw [hdates]
  refine List.nodup_range.map fun i j hij => ?_
  simpa using hij

theorem CalendarNights.length {checkIn checkOut : Option String} {dates : List String}
    (h : CalendarNights checkIn checkOut dates) : ∃ start finish : ℤ,
      checkIn.bind parseIsoDate = some start ∧ checkOut.bind parseIsoDate = some finish ∧
        start < finish ∧ (dates.length : ℤ) = finish - start := by
  obtain ⟨start, finish, hin, hout, hlt, hdates⟩ := h
  refine ⟨start, finish, hin, hout, hlt, ?_⟩
  have hlength := congrArg List.length hdates
  rw [List.length_map, List.length_map, List.length_range] at hlength
  omega

/-! ## 2. Scope and coverage -/

theorem fullDateCoverage_iff {expectedDates : List String} {nights : List NightEvidence} :
    fullDateCoverage expectedDates nights = true ↔
      expectedDates ≠ [] ∧ nights.map (·.date) = expectedDates := by
  simp only [fullDateCoverage, Bool.and_eq_true, decide_eq_true_eq, List.all_eq_true,
    List.mem_range, List.length_pos_iff, and_assoc]
  refine and_congr_right fun _ => ⟨?_, ?_⟩
  · rintro ⟨hlength, hdates⟩
    refine List.ext_getElem? fun i => ?_
    rw [List.getElem?_map]
    by_cases hi : i < expectedDates.length
    · exact hdates i hi
    · rw [List.getElem?_eq_none (not_lt.mp hi), List.getElem?_eq_none (hlength ▸ not_lt.mp hi)]
      rfl
  · rintro rfl
    exact ⟨by rw [List.length_map], fun i _ => by rw [List.getElem?_map]⟩

theorem createScope_checkIn (input : ScopeInput) :
    (createScope input).checkIn = isoDate? input.checkIn ∧
      (createScope input).checkOut = isoDate? input.checkOut :=
  ⟨rfl, rfl⟩

/-- An exact scope has dates, and as many nights as there are between them. -/
theorem createScope_exact {input : ScopeInput} (h : (createScope input).status = .exact) :
    enumerateStayNights (createScope input).checkIn (createScope input).checkOut ≠ [] ∧
      (createScope input).nights = some
        ((enumerateStayNights (createScope input).checkIn (createScope input).checkOut).length : ℤ) := by
  obtain ⟨hin, hout⟩ := createScope_checkIn input
  have hnights : (createScope input).nights = normalizePositiveInteger input.nights := rfl
  rw [hin, hout, hnights]
  dsimp only [createScope] at h
  split at h
  · cases h
  · next hconflict =>
    split at h
    · next hcomplete =>
      simp only [Bool.and_eq_true, and_assoc] at hcomplete
      obtain ⟨hinSome, houtSome, hsome, -⟩ := hcomplete
      obtain ⟨n, hn⟩ := Option.isSome_iff_exists.mp hsome
      simp only [hinSome, houtSome, hn, Bool.and_self, Bool.true_and, Bool.or_eq_true,
        decide_eq_true_eq, Option.any_some, not_or, not_not, List.length_eq_zero_iff] at hconflict
      exact ⟨hconflict.1, by rw [hn, hconflict.2]⟩
    · cases h

/-! ## 3. Complete evidence -/

/-- The nights, in the order of their dates, fit the scope and the amount of the total: all that is
    checked of them without a currency of the total. -/
structure NightsFit (rt : Runtime) (input : List NightInput) (scope : StayScope)
    (total : Option ℚ) : Prop where
  dated : ∀ night ∈ input, (isoDate? night.date).isSome = true
  covered : enumerateStayNights scope.checkIn scope.checkOut ≠ [] ∧
    (sortedNights rt input).map (·.date) = enumerateStayNights scope.checkIn scope.checkOut
  known : ∀ night ∈ sortedNights rt input, night.amountKnown = true
  available : ∀ night ∈ sortedNights rt input, night.availability = "available"
  reconciled : ∃ amount ∈ total, |amountSum (sortedNights rt input) - amount| ≤ moneyTolerance
  exact : scope.status = .exact

/-- No night has another currency than the total. -/
def SameCurrency (nights : List NightEvidence) (currency : Option String) : Prop :=
  ∀ night ∈ nights, ∀ c ∈ night.currency, ∀ c' ∈ currency, c = c'

theorem currencyConflict_iff {nights : List NightEvidence} {total : MoneyEvidence} :
    currencyConflict nights total = false ↔ SameCurrency nights total.currency := by
  simp only [currencyConflict, List.any_eq_false, Bool.not_eq_true, SameCurrency]
  refine forall₂_congr fun night _ => ?_
  cases night.currency <;> cases total.currency <;> simp

/-- On full coverage with known amounts the totals are compared. -/
theorem totalsReconcile_true {expectedDates : List String} {nights : List NightEvidence}
    {total : MoneyEvidence} : totalsReconcile expectedDates nights total = some true ↔
      (0 < nights.length ∧ (∀ night ∈ nights, night.amountKnown = true) ∧
        fullDateCoverage expectedDates nights = true) ∧
        ∃ amount ∈ total.amount, |amountSum nights - amount| ≤ moneyTolerance := by
  unfold totalsReconcile
  split
  · next h =>
    simp only [Bool.and_eq_true, decide_eq_true_eq, List.all_eq_true, and_assoc] at h
    simp only [h, Option.map_eq_some_iff, decide_eq_true_eq, Option.mem_def]
    exact ⟨fun h' => ⟨⟨trivial, h.2.1, trivial⟩, h'⟩, fun h' => h'.2⟩
  · next h =>
    simp only [Bool.and_eq_true, decide_eq_true_eq, List.all_eq_true, and_assoc] at h
    exact ⟨nofun, fun h' => absurd h'.1 h⟩

theorem nightsComplete_iff {input : List NightInput} {scope : StayScope} {total : MoneyEvidence} :
    (nightsComplete scope (enumerateStayNights scope.checkIn scope.checkOut)
        (sortedNights rt input) total = true ∧
      ∀ night ∈ input, (isoDate? night.date).isSome = true) ↔
      NightsFit rt input scope total.amount := by
  simp only [nightsComplete, Bool.and_eq_true, decide_eq_true_eq, List.all_eq_true,
    totalsReconcile_true, fullDateCoverage_iff, and_assoc]
  constructor
  · rintro ⟨hexact, hne, hdates, -, hknown, havailable, -, -, -, -, hreconciled, hdated⟩
    exact ⟨hdated, ⟨hne, hdates⟩, hknown, havailable, hreconciled, hexact⟩
  · rintro ⟨hdated, ⟨hne, hdates⟩, hknown, havailable, hreconciled, hexact⟩
    have hpos : 0 < (sortedNights rt input).length := by
      rw [List.length_pos_iff]
      rintro hnil
      rw [hnil] at hdates
      exact hne hdates.symm
    exact ⟨hexact, hne, hdates, hpos, hknown, havailable, hpos, hknown, hne, hdates, hreconciled,
      hdated⟩

theorem normalizeNight_isNone {night : NightInput} :
    (normalizeNight rt night).isNone = !(isoDate? night.date).isSome := by
  rw [normalizeNight, Option.isNone_map, Option.not_isSome]

/-- Nights that fit are invalid only for their currencies. -/
theorem nightsInvalid_of_fit {input : List NightInput} {scope : StayScope} {total : MoneyEvidence}
    (h : NightsFit rt input scope total.amount) :
    nightsInvalid rt input (enumerateStayNights scope.checkIn scope.checkOut) total =
      currencyConflict (sortedNights rt input) total := by
  obtain ⟨hne, hdates⟩ := h.covered
  have hinvalid : (input.any fun night => (normalizeNight rt night).isNone) = false := by
    simp only [normalizeNight_isNone, List.any_eq_false, Bool.not_eq_true, Bool.not_eq_false']
    exact h.dated
  have hnodup := (enumerate_calendar hne).nodup
  have hunexpected : ((enumerateStayNights scope.checkIn scope.checkOut).any fun date =>
      date ∉ enumerateStayNights scope.checkIn scope.checkOut) = false := by
    simp
  have hreconcile : totalsReconcile (enumerateStayNights scope.checkIn scope.checkOut)
      (sortedNights rt input) total = some true := by
    have hcomplete := (nightsComplete_iff.mpr h).1
    simp only [nightsComplete, Bool.and_eq_true, decide_eq_true_eq] at hcomplete
    exact hcomplete.2
  dsimp only [nightsInvalid]
  rw [hinvalid, hdates, List.dedup_eq_self.mpr hnodup, hunexpected, hreconcile]
  simp

/-- The flags of complete evidence. -/
theorem evidenceOfNights_complete {input : List NightInput} {scope : StayScope}
    {total : MoneyEvidence} : (evidenceOfNights rt input scope total).status = .complete ↔
      NightsFit rt input scope total.amount ∧
        SameCurrency (sortedNights rt input) total.currency := by
  have hstatus : (evidenceOfNights rt input scope total).status = .complete ↔
      nightsInvalid rt input (enumerateStayNights scope.checkIn scope.checkOut) total = false ∧
        nightsComplete scope (enumerateStayNights scope.checkIn scope.checkOut)
          (sortedNights rt input) total = true := by
    dsimp only [evidenceOfNights]
    cases nightsInvalid rt input (enumerateStayNights scope.checkIn scope.checkOut) total <;>
      cases nightsComplete scope (enumerateStayNights scope.checkIn scope.checkOut)
        (sortedNights rt input) total <;> simp
  rw [hstatus]
  constructor
  · rintro ⟨hvalid, hcomplete⟩
    have hdated : ∀ night ∈ input, (isoDate? night.date).isSome = true := by
      simp only [nightsInvalid, Bool.or_eq_false_iff, List.any_eq_false, normalizeNight_isNone,
        Bool.not_eq_true, Bool.not_eq_false'] at hvalid
      exact hvalid.1.1.1.1
    have hfit := nightsComplete_iff.mp ⟨hcomplete, hdated⟩
    rw [nightsInvalid_of_fit hfit] at hvalid
    exact ⟨hfit, currencyConflict_iff.mp hvalid⟩
  · rintro ⟨hfit, hcurrency⟩
    rw [nightsInvalid_of_fit hfit]
    exact ⟨currencyConflict_iff.mpr hcurrency, (nightsComplete_iff.mpr hfit).1⟩

/-! ## 4. The order of the nights -/

/-- What is needed of `localeCompare`: an order that tells dates apart. -/
structure DateOrder (rt : Runtime) : Prop where
  trans : Std.TransCmp rt.localeCompare
  eq_of_dates : ∀ first second, (parseIsoDate first).isSome = true →
    (parseIsoDate second).isSome = true → rt.localeCompare first second = .eq → first = second

theorem normalizeNight_date {night : NightInput} {evidence : NightEvidence}
    (h : normalizeNight rt night = some evidence) : (parseIsoDate evidence.date).isSome = true := by
  rw [normalizeNight, Option.map_eq_some_iff] at h
  obtain ⟨date, hdate, rfl⟩ := h
  exact (Option.filter_eq_some_iff.mp hdate).2

theorem sortedNights_dates (input : List NightInput) :
    ((sortedNights rt input).map (·.date)).Perm
      ((input.filterMap (normalizeNight rt)).map (·.date)) :=
  (JsSort.sortBy_perm _ _).map _

/-- Nights of different dates are sorted in one way. -/
theorem sortedNights_perm (h : DateOrder rt) {input input' : List NightInput}
    (hperm : input.Perm input') (hnodup : ((sortedNights rt input).map (·.date)).Nodup) :
    sortedNights rt input = sortedNights rt input' := by
  have := h.trans
  have : Std.TransCmp fun first second : NightEvidence =>
      rt.localeCompare first.date second.date := JsSort.transCmp_comap rt.localeCompare _
  have hdates := (sortedNights_dates input).nodup_iff.mp hnodup
  refine JsSort.sortBy_eq_of_perm (hperm.filterMap _) ?_
  refine (List.pairwise_map.mp hdates).imp_of_mem fun ha hb hne heq => hne ?_
  obtain ⟨_, -, ha⟩ := List.mem_filterMap.mp ha
  obtain ⟨_, -, hb⟩ := List.mem_filterMap.mp hb
  exact h.eq_of_dates _ _ (normalizeNight_date ha) (normalizeNight_date hb) heq

theorem dedup_length_ne {dates : List String} :
    dates.dedup.length ≠ dates.length ↔ ¬ dates.Nodup := by
  rw [not_iff_not, ← List.dedup_eq_self]
  exact ⟨fun h => (List.dedup_sublist dates).eq_of_length h, congrArg List.length⟩

/-- Nights with one date are invalid. -/
theorem status_of_duplicate {input : List NightInput} {scope : StayScope} {total : MoneyEvidence}
    (h : ¬ ((sortedNights rt input).map (·.date)).Nodup) :
    (evidenceOfNights rt input scope total).status = .invalid := by
  have hinvalid : nightsInvalid rt input (enumerateStayNights scope.checkIn scope.checkOut) total =
      true := by
    dsimp only [nightsInvalid]
    rw [decide_eq_true (dedup_length_ne.mpr h)]
    simp
  dsimp only [evidenceOfNights]
  rw [hinvalid]
  rfl

theorem status_perm (h : DateOrder rt) {input input' : List NightInput}
    (hperm : input.Perm input') (scope : StayScope) (total : MoneyEvidence) :
    (evidenceOfNights rt input scope total).status =
      (evidenceOfNights rt input' scope total).status := by
  by_cases hnodup : ((sortedNights rt input).map (·.date)).Nodup
  · have hsame := sortedNights_perm h hperm hnodup
    have hinvalid : ∀ expectedDates, nightsInvalid rt input expectedDates total =
        nightsInvalid rt input' expectedDates total := fun expectedDates => by
      dsimp only [nightsInvalid]
      rw [hsame, hperm.any_eq]
    dsimp only [evidenceOfNights]
    rw [hinvalid, hsame]
  · have hdates : ((sortedNights rt input).map (·.date)).Perm
        ((sortedNights rt input').map (·.date)) :=
      (sortedNights_dates input).trans (((hperm.filterMap _).map _).trans
        (sortedNights_dates input').symm)
    rw [status_of_duplicate hnodup, status_of_duplicate (hdates.nodup_iff.not.mp hnodup)]

/-! ## 5. Sound statuses -/

/-- Complete evidence on the nights: the calendar nights, available, with known amounts in the
    currency of the total and with the sum of the total. -/
def CompleteNights (s : SnapshotContent) : Prop :=
  CalendarNights s.scope.checkIn s.scope.checkOut (s.temporalPriceEvidence.nights.map (·.date)) ∧
    ∃ amount currency, s.cost.total.amount = some amount ∧ s.cost.total.currency = some currency ∧
      (∀ night ∈ s.temporalPriceEvidence.nights, night.availability = "available" ∧
        night.amountState = .known ∧ night.amount.isSome = true ∧ night.currency = some currency) ∧
      |(s.temporalPriceEvidence.nights.map fun night => night.amount.getD 0).sum - amount| ≤ 1 / 100

/-- A complete cost: a scope of all calendar nights, and a total with a currency. -/
def CompleteCost (s : SnapshotContent) : Prop :=
  s.scope.status = .exact ∧ (∃ start finish : ℤ, s.scope.checkIn.bind parseIsoDate = some start ∧
    s.scope.checkOut.bind parseIsoDate = some finish ∧ start < finish ∧
      s.scope.nights = some (finish - start)) ∧
    s.cost.total.amount.isSome = true ∧ s.cost.total.currency.isSome = true

structure StatusesSound (rt : Runtime) (input : SnapshotInput) : Prop where
  temporal : (createStayOfferIntegritySnapshot rt input).temporalPriceEvidence.status = .complete →
    CompleteNights (createStayOfferIntegritySnapshot rt input).toSnapshotContent
  cost : (createStayOfferIntegritySnapshot rt input).cost.integrityStatus = .complete →
    CompleteCost (createStayOfferIntegritySnapshot rt input).toSnapshotContent
  order : ∀ nights nights', input.nightlyPrices = some nights → nights'.Perm nights →
    let reordered := createStayOfferIntegritySnapshot rt { input with nightlyPrices := some nights' }
    reordered.temporalPriceEvidence.status =
        (createStayOfferIntegritySnapshot rt input).temporalPriceEvidence.status ∧
      reordered.cost.integrityStatus =
        (createStayOfferIntegritySnapshot rt input).cost.integrityStatus

theorem createCost_complete {input : CostInput} {scope : StayScope} {evidenceIds : List String}
    (h : (createCost rt input scope evidenceIds).integrityStatus = .complete) :
    scope.status = .exact ∧ (createCost rt input scope evidenceIds).total.amount.isSome = true ∧
      (createCost rt input scope evidenceIds).total.currency.isSome = true := by
  have htotal : stateForTotal input.completeness (normalizePositiveNumber input.amount)
      (normalizeOptionalCurrency rt input.currency) = .known →
      (normalizePositiveNumber input.amount).isSome = true ∧
        (normalizeOptionalCurrency rt input.currency).isSome = true := by
    unfold stateForTotal
    cases normalizePositiveNumber input.amount <;>
      cases normalizeOptionalCurrency rt input.currency <;> simp
  dsimp only [createCost] at h
  split at h
  · cases h
  · split at h
    · next hcomplete =>
      simp only [Bool.and_eq_true, decide_eq_true_eq, and_assoc] at hcomplete
      exact ⟨hcomplete.1, htotal hcomplete.2.1⟩
    · split at h <;> cases h

theorem completeCost_of_status {input : SnapshotInput}
    (h : (snapshotContent rt input).cost.integrityStatus = .complete) :
    CompleteCost (snapshotContent rt input) := by
  obtain ⟨hexact, hamount, hcurrency⟩ := createCost_complete h
  obtain ⟨hne, hnights⟩ := createScope_exact hexact
  obtain ⟨start, finish, hin, hout, hlt, hlength⟩ := (enumerate_calendar hne).length
  exact ⟨hexact, ⟨start, finish, hin, hout, hlt, hnights.trans (by rw [hlength])⟩, hamount,
    hcurrency⟩

theorem amountSum_eq (nights : List NightEvidence) :
    amountSum nights = (nights.map fun night => night.amount.getD 0).sum := by
  rw [amountSum, List.sum_eq_foldl, List.foldl_map]

/-- Nights that fit their scope and the total, and have its currency, are complete. -/
theorem completeNights_of_fit {input : SnapshotInput} {nights : List NightInput}
    (hprices : input.nightlyPrices = some nights) {currency : String}
    (htotal : normalizeOptionalCurrency rt input.cost.currency = some currency)
    (hfit : NightsFit rt nights (createScope input.scope)
      (normalizePositiveNumber input.cost.amount))
    (hsame : SameCurrency (sortedNights rt nights) (some currency)) :
    CompleteNights (snapshotContent rt input) := by
  obtain ⟨hne, hdates⟩ := hfit.covered
  obtain ⟨amount, hamount, hsum⟩ := hfit.reconciled
  have hnights : (snapshotContent rt input).temporalPriceEvidence.nights = sortedNights rt nights := by
    show (createTemporalEvidence rt input.nightlyPrices _ _).nights = _
    rw [hprices]
    cases nights <;> rfl
  unfold CompleteNights
  rw [hnights, hdates]
  refine ⟨enumerate_calendar hne, amount, currency, hamount, htotal, fun night hnight => ?_, ?_⟩
  · have hknown := hfit.known night hnight
    simp only [NightEvidence.amountKnown, Bool.and_eq_true, decide_eq_true_eq] at hknown
    obtain ⟨⟨hsome, hcurrency⟩, hstate⟩ := hknown
    obtain ⟨c, hc⟩ := Option.isSome_iff_exists.mp hcurrency
    exact ⟨hfit.available night hnight, hstate, hsome, hc.trans
      (congrArg some (hsame night hnight c hc currency rfl))⟩
  · rw [← amountSum_eq]
    exact hsum

/-- The evidence on the nights is complete for nights that fit. -/
theorem temporal_complete {input : SnapshotInput} :
    (snapshotContent rt input).temporalPriceEvidence.status = .complete ↔
      ∃ nights, input.nightlyPrices = some nights ∧
        NightsFit rt nights (createScope input.scope)
          (normalizePositiveNumber input.cost.amount) ∧
        SameCurrency (sortedNights rt nights) (normalizeOptionalCurrency rt input.cost.currency) := by
  show (createTemporalEvidence rt input.nightlyPrices _ _).status = _ ↔ _
  cases input.nightlyPrices with
  | none => simp [createTemporalEvidence]
  | some nights =>
    cases nights with
    | nil =>
      refine ⟨nofun, ?_⟩
      rintro ⟨nights, hnights, hfit, -⟩
      obtain rfl := Option.some_inj.mp hnights
      exact absurd hfit.covered.2.symm hfit.covered.1
    | cons first rest =>
      rw [createTemporalEvidence, evidenceOfNights_complete]
      simp only [Option.some.injEq, exists_eq_left']
      rfl

/-- The statuses are sound exactly when the total has a currency or the nights do not fit. -/
theorem statusesSound_iff (h : DateOrder rt) (input : SnapshotInput) :
    StatusesSound rt input ↔ (normalizeOptionalCurrency rt input.cost.currency).isSome = true ∨
      ¬ ∃ nights, input.nightlyPrices = some nights ∧
        NightsFit rt nights (createScope input.scope)
          (normalizePositiveNumber input.cost.amount) := by
  constructor
  · intro hsound
    by_contra hnot
    simp only [not_or, not_not, Bool.not_eq_true, Option.isSome_eq_false_iff, Option.isNone_iff_eq_none]
      at hnot
    obtain ⟨hnone, nights, hprices, hfit⟩ := hnot
    have hsame : SameCurrency (sortedNights rt nights)
        (normalizeOptionalCurrency rt input.cost.currency) := by
      rw [hnone]
      exact fun _ _ _ _ _ hc => by cases hc
    obtain ⟨-, _, currency, -, hcurrency, -⟩ :=
      hsound.temporal (temporal_complete.mpr ⟨nights, hprices, hfit, hsame⟩)
    have htotal : normalizeOptionalCurrency rt input.cost.currency = some currency := hcurrency
    rw [hnone] at htotal
    cases htotal
  · intro hcondition
    refine ⟨fun hcomplete => ?_, completeCost_of_status, ?_⟩
    · obtain ⟨nights, hprices, hfit, hsame⟩ := temporal_complete.mp hcomplete
      rcases hcondition with hsome | hnofit
      · obtain ⟨currency, htotal⟩ := Option.isSome_iff_exists.mp hsome
        rw [htotal] at hsame
        exact completeNights_of_fit hprices htotal hfit hsame
      · exact absurd ⟨nights, hprices, hfit⟩ hnofit
    · intro nights nights' hprices hperm
      refine ⟨?_, rfl⟩
      show (createTemporalEvidence rt (some nights') _ _).status =
        (createTemporalEvidence rt input.nightlyPrices _ _).status
      rw [hprices]
      cases nights with
      | nil =>
        rw [hperm.eq_nil]
      | cons first rest =>
        cases nights' with
        | nil => exact absurd hperm.nil_eq nofun
        | cons first' rest' => exact status_perm h hperm _ _

/-! ## 6. Nights in two currencies -/

theorem plainRuntime_dates : DateOrder plainRuntime where
  trans := inferInstanceAs (Std.TransCmp (compareOn JsText.utf16))
  eq_of_dates _ _ _ _ h := JsText.utf16_injective (Std.LawfulEqOrd.eq_of_compare h)

/-- Two nights in euros and dollars, with a total in a currency that is not recognised. -/
def twoNights (totalCurrency : Option String) : SnapshotInput where
  hotelId := some "hotel-1"
  offerId := some "offer-1"
  scope := ⟨some "2026-03-02", some "2026-03-04", some 2, some 2, some 0, some 1⟩
  roomName := none
  mealPlan := none
  cancellation := ⟨none, none, none, none, false⟩
  payment := none
  cost :=
    { amount := some 200
      currency := totalCurrency
      completeness := .reportedComplete
      taxesIncluded := some true
      includedTaxes := some 0
      excludedTaxes := some 0
      unknownTaxes := some 0
      feeAmount := none
      feeState := none }
  bookable := some true
  recheckRequired := false
  observedAt := none
  freshness := none
  nightlyPrices := some [⟨some "2026-03-02", some 100, some "EUR", none, some true, []⟩,
    ⟨some "2026-03-03", some 100, some "USD", none, some true, []⟩]
  evidenceIds := []

/-- The theorem for a total in euros. -/
theorem statusesSound_euros : StatusesSound plainRuntime (twoNights (some "EUR")) :=
  (statusesSound_iff plainRuntime_dates _).mpr (.inl (by decide +kernel))

/-- Complete evidence on nights in two currencies. -/
theorem mixed_currencies_complete : ¬ ∀ (rt : Runtime), DateOrder rt → ∀ input, StatusesSound rt input := by
  intro h
  have hstatus : (createStayOfferIntegritySnapshot plainRuntime
      (twoNights (some "euros"))).temporalPriceEvidence.status = .complete := by
    decide +kernel
  obtain ⟨-, _, currency, -, hcurrency, -⟩ :=
    (h plainRuntime plainRuntime_dates (twoNights (some "euros"))).temporal hstatus
  have hnone : normalizeOptionalCurrency plainRuntime (some "euros") = none := by decide +kernel
  have htotal : normalizeOptionalCurrency plainRuntime (some "euros") = some currency := hcurrency
  rw [hnone] at htotal
  cases htotal

end SmartStay.Integrity
