import SmartStay.Contract.JsonData
import SmartStay.Integrity.Statuses

/-!
# Rechecking an offer

`compareStayOfferRecheckV3` of `engine-v3/integrity/recheckDecisionDiffV3.ts` compares a snapshot with
a later one, group by group, as texts. The canonical key of an offer covers the same groups.

1. `RecheckDecisionDiff`, `compareStayOfferRecheck`.
2. `Flat`, `differs_flat`: texts of records without arrays.
3. `AgreesOnKey`, `groups_unchanged_iff`: the groups and the key.
4. `compare_confirmed_iff`: what is confirmed.
5. `completeness_changes`: a change that the key does not show.
-/

namespace SmartStay.Integrity

open Contract JsonText

/-! ## 1. The comparison -/

/-- `StayOfferRecheckStateV3`. -/
inductive RecheckState
  | confirmed | changed | soldOut | recheckRequired
deriving DecidableEq, Repr

/-- `StayOfferRecheckDecisionDiffV3`. -/
structure RecheckDecisionDiff where
  state : RecheckState
  originalSnapshotId : String
  confirmedSnapshotId : Option String
  changedFields : List String
  materialChangedFields : List String
  requiresUserConfirmation : Bool
  requiresDecisionReplay : Bool
  reasonCodes : List String

def moneyChanged (first second : Option ℚ) : Bool :=
  match first, second with
  | some first, some second => 1 / 100 < |first - second|
  | none, none => false
  | _, _ => true

/-- `stableSerializeV3(first) !== stableSerializeV3(second)`. -/
def differs (num : Numerals ℚ) (first second : Json) : Bool :=
  (stableSerializeV3 num first.toValue).toOption ≠ (stableSerializeV3 num second.toValue).toOption

/-- What is compared of the evidence on the nights. -/
def TemporalPriceEvidence.keyJson (t : TemporalPriceEvidence) : Json :=
  .obj (t.keyFields ++ [("nights", .arr (t.nights.map fun night => .obj night.keyFields))])

/-- The groups in the order of the source, each with whether it changed. -/
def comparedGroups (num : Numerals ℚ) (original confirmed : SnapshotContent) :
    List (String × Bool) :=
  let cost := original.cost
  let cost' := confirmed.cost
  [("scope", differs num original.scope.toJson confirmed.scope.toJson),
    ("totalCost.amount", moneyChanged cost.total.amount cost'.total.amount),
    ("totalCost.currency", cost.total.currency ≠ cost'.total.currency),
    ("costCompleteness", cost.integrityStatus ≠ cost'.integrityStatus ||
      cost.sourceCompleteness ≠ cost'.sourceCompleteness),
    ("taxes", differs num (.obj cost.taxes.keyFields) (.obj cost'.taxes.keyFields)),
    ("fees", differs num (.obj cost.fees.keyFields) (.obj cost'.fees.keyFields)),
    ("room", differs num original.room.toJson confirmed.room.toJson),
    ("mealPlan", differs num original.mealPlan.toJson confirmed.mealPlan.toJson),
    ("cancellation", differs num original.cancellation.toJson confirmed.cancellation.toJson),
    ("payment", differs num original.payment.toJson confirmed.payment.toJson),
    ("bookability", differs num (.obj original.bookability.keyFields)
      (.obj confirmed.bookability.keyFields)),
    ("temporalPriceEvidence", differs num original.temporalPriceEvidence.keyJson
      confirmed.temporalPriceEvidence.keyJson)]

/-- `materialFieldSet`. -/
def materialFieldSet : List String :=
  ["scope", "totalCost.amount", "totalCost.currency", "costCompleteness", "taxes", "fees", "room",
    "mealPlan", "cancellation", "payment", "bookability", "temporalPriceEvidence"]

def isSoldOut (s : SnapshotContent) : Bool :=
  s.bookability.searchBookable = some false || s.bookability.status = .soldOut

def compareStayOfferRecheck (num : Numerals ℚ) (original : StayOfferIntegritySnapshot)
    (confirmed : Option StayOfferIntegritySnapshot) : RecheckDecisionDiff :=
  match confirmed with
  | none =>
    { state := .recheckRequired
      originalSnapshotId := original.snapshotId
      confirmedSnapshotId := none
      changedFields := []
      materialChangedFields := []
      requiresUserConfirmation := false
      requiresDecisionReplay := false
      reasonCodes := ["integrity:availability-recheck-required"] }
  | some confirmed =>
    if isSoldOut confirmed.toSnapshotContent then
      { state := .soldOut
        originalSnapshotId := original.snapshotId
        confirmedSnapshotId := some confirmed.snapshotId
        changedFields := ["bookability"]
        materialChangedFields := ["bookability"]
        requiresUserConfirmation := false
        requiresDecisionReplay := true
        reasonCodes := ["integrity:recheck-decision-replay-required"] }
    else
      let groups := comparedGroups num original.toSnapshotContent confirmed.toSnapshotContent
      let sortedChangedFields := uniqueSorted ((groups.filter (·.2)).map Prod.fst)
      let materialChangedFields := sortedChangedFields.filter materialFieldSet.contains
      let requiresDecisionReplay : Bool := 0 < materialChangedFields.length
      { state := if 0 < sortedChangedFields.length then .changed else .confirmed
        originalSnapshotId := original.snapshotId
        confirmedSnapshotId := some confirmed.snapshotId
        changedFields := sortedChangedFields
        materialChangedFields
        requiresUserConfirmation := requiresDecisionReplay
        requiresDecisionReplay
        reasonCodes := uniqueSorted
          (if requiresDecisionReplay then ["integrity:recheck-decision-replay-required"] else []) }

/-! ## 2. Texts of records -/

/-- A value without parts. -/
def IsLeaf : Json → Prop
  | .arr _ | .obj _ => False
  | _ => True

/-- A record of leaves with each key once. -/
structure Flat (fields : List (String × Json)) : Prop where
  keys : (fields.map Prod.fst).Nodup
  leaves : ∀ field ∈ fields, IsLeaf field.2

theorem same_leaf {v w : Json} (hv : IsLeaf v) (hw : IsLeaf w) : SameData v w ↔ v = w := by
  cases v <;> cases w <;> first
    | contradiction
    | simp [SameData, Json.toValue, JsonValue.Same, ofString_injective.eq_iff]

@[simp] theorem leaf_str (s : String) : IsLeaf (.str s) := trivial

@[simp] theorem leaf_num (x : ℚ) : IsLeaf (.num x) := trivial

@[simp] theorem leaf_bool (b : Bool) : IsLeaf (.bool b) := trivial

@[simp] theorem leaf_text? (s : Option String) : IsLeaf (.text? s) := by cases s <;> trivial

@[simp] theorem leaf_num? (x : Option ℚ) : IsLeaf (.num? x) := by cases x <;> trivial

@[simp] theorem leaf_boolJson (b : Option Bool) : IsLeaf (boolJson b) := by cases b <;> trivial

theorem Flat.hasKeysOnce {fields : List (String × Json)} (h : Flat fields) :
    (Json.obj fields).HasKeysOnce := by
  have hleaf : ∀ {v : Json}, IsLeaf v → v.HasKeysOnce := by
    intro v hv
    cases v <;> trivial
  refine ⟨h.keys, ?_⟩
  have hleaves := h.leaves
  clear h
  induction fields with
  | nil => trivial
  | cons field rest ih =>
    rw [List.forall_mem_cons] at hleaves
    exact ⟨hleaf hleaves.1, ih hleaves.2⟩

theorem same_flat {fields fields' : List (String × Json)} (h : Flat fields) (h' : Flat fields')
    (hkeys : fields.map Prod.fst = fields'.map Prod.fst) :
    SameData (.obj fields) (.obj fields') ↔ fields = fields' := by
  rw [same_obj_iff hkeys h.keys]
  have hleaves := h.leaves
  have hleaves' := h'.leaves
  clear h h'
  induction fields generalizing fields' with
  | nil => simpa using hkeys
  | cons field rest ih =>
    cases fields' with
    | nil => cases hkeys
    | cons field' rest' =>
      rw [List.forall_mem_cons] at hleaves hleaves'
      obtain ⟨hkey, hrest⟩ := List.cons.inj hkeys
      have hrestIff := ih hrest hleaves.2 hleaves'.2
      rw [List.zip_cons_cons, List.forall_mem_cons, same_leaf hleaves.1 hleaves'.1,
        List.cons.injEq, Prod.ext_iff]
      exact ⟨fun hsame => ⟨⟨hkey, hsame.1⟩, hrestIff.mp hsame.2⟩,
        fun heq => ⟨heq.1.2, hrestIff.mpr heq.2⟩⟩

variable {num : Numerals ℚ}

theorem differs_iff (hnum : IsExact num) {v w : Json} (hv : v.HasKeysOnce) (hw : w.HasKeysOnce) :
    differs num v w = false ↔ SameData v w := by
  have hok : ∀ v : Json, ∃ s, stableSerializeV3 num v.toValue = .ok s := fun v =>
    ⟨_, (stableSerialize_ok num v.toValue _).mpr ⟨finite_toValue hnum v, rfl⟩⟩
  obtain ⟨s, hs⟩ := hok v
  obtain ⟨t, ht⟩ := hok w
  rw [SameData, ← serialize_eq_iff hnum hv hw, differs, hs, ht]
  simp [Except.toOption]

theorem differs_flat (hnum : IsExact num) {fields fields' : List (String × Json)} (h : Flat fields)
    (h' : Flat fields') (hkeys : fields.map Prod.fst = fields'.map Prod.fst) :
    differs num (.obj fields) (.obj fields') = false ↔ Json.obj fields = .obj fields' := by
  rw [differs_iff hnum h.hasKeysOnce h'.hasKeysOnce, same_flat h h' hkeys, Json.obj.injEq]

/-! ## 3. The groups and the key -/

@[simp] theorem leaf_countJson (n : Option ℤ) : IsLeaf (countJson n) := leaf_num? _

theorem differs_scope (hnum : IsExact num) (s s' : StayScope) :
    differs num s.toJson s'.toJson = false ↔ s.toJson = s'.toJson :=
  differs_flat hnum ⟨by simp, by simp⟩ ⟨by simp, by simp⟩ rfl

theorem differs_named (hnum : IsExact num) (e e' : NamedEvidence) :
    differs num e.toJson e'.toJson = false ↔ e.toJson = e'.toJson :=
  differs_flat hnum ⟨by simp, by simp⟩ ⟨by simp, by simp⟩ rfl

theorem differs_cancellation (hnum : IsExact num) (c c' : CanonicalCancellation) :
    differs num c.toJson c'.toJson = false ↔ c.toJson = c'.toJson :=
  differs_flat hnum ⟨by simp, by simp⟩ ⟨by simp, by simp⟩ rfl

theorem differs_payment (hnum : IsExact num) (p p' : CanonicalPayment) :
    differs num p.toJson p'.toJson = false ↔ p.toJson = p'.toJson :=
  differs_flat hnum ⟨by simp, by simp⟩ ⟨by simp, by simp⟩ rfl

theorem differs_taxes (hnum : IsExact num) (t t' : TaxEvidence) :
    differs num (.obj t.keyFields) (.obj t'.keyFields) = false ↔
      Json.obj t.keyFields = .obj t'.keyFields :=
  differs_flat hnum ⟨by simp [TaxEvidence.keyFields], by simp [TaxEvidence.keyFields]⟩
    ⟨by simp [TaxEvidence.keyFields], by simp [TaxEvidence.keyFields]⟩ rfl

theorem differs_fees (hnum : IsExact num) (m m' : MoneyEvidence) :
    differs num (.obj m.keyFields) (.obj m'.keyFields) = false ↔
      Json.obj m.keyFields = .obj m'.keyFields :=
  differs_flat hnum ⟨by simp [MoneyEvidence.keyFields], by simp [MoneyEvidence.keyFields]⟩
    ⟨by simp [MoneyEvidence.keyFields], by simp [MoneyEvidence.keyFields]⟩ rfl

theorem differs_bookability (hnum : IsExact num) (b b' : BookabilityEvidence) :
    differs num (.obj b.keyFields) (.obj b'.keyFields) = false ↔
      Json.obj b.keyFields = .obj b'.keyFields :=
  differs_flat hnum
    ⟨by simp [BookabilityEvidence.keyFields], by simp [BookabilityEvidence.keyFields]⟩
    ⟨by simp [BookabilityEvidence.keyFields], by simp [BookabilityEvidence.keyFields]⟩ rfl

theorem flat_night (night : NightEvidence) : Flat night.keyFields :=
  ⟨by simp [NightEvidence.keyFields], by simp [NightEvidence.keyFields]⟩

theorem keyJson_hasKeysOnce (t : TemporalPriceEvidence) : t.keyJson.HasKeysOnce := by
  have hnights : (Json.arr (t.nights.map fun night => .obj night.keyFields)).HasKeysOnce := by
    refine itemsHaveKeysOnce_iff.mpr fun value hvalue => ?_
    obtain ⟨night, -, rfl⟩ := List.mem_map.mp hvalue
    exact (flat_night night).hasKeysOnce
  refine ⟨by simp [TemporalPriceEvidence.keyFields], trivial, ?_, trivial, ?_, hnights, trivial⟩
  · cases t.expectedNightCount <;> trivial
  · cases t.totalsReconcile <;> trivial

theorem differs_temporal (hnum : IsExact num) (t t' : TemporalPriceEvidence) :
    differs num t.keyJson t'.keyJson = false ↔ t.keyJson = t'.keyJson := by
  have hnight : ∀ night night' : NightEvidence,
      SameData (.obj night.keyFields) (.obj night'.keyFields) ↔
        Json.obj night.keyFields = .obj night'.keyFields := fun night night' => by
    rw [same_flat (flat_night night) (flat_night night') rfl, Json.obj.injEq]
  rw [differs_iff hnum (keyJson_hasKeysOnce t) (keyJson_hasKeysOnce t')]
  have hkeys : (t.keyFields ++ [("nights",
      Json.arr (t.nights.map fun night => .obj night.keyFields))]).map Prod.fst =
      (t'.keyFields ++ [("nights",
        Json.arr (t'.nights.map fun night => .obj night.keyFields))]).map Prod.fst := rfl
  refine (same_obj_iff hkeys (keyJson_hasKeysOnce t).1).trans ?_
  simp [TemporalPriceEvidence.keyJson, TemporalPriceEvidence.keyFields, same_leaf,
    same_arr_map hnight]

/-- The data of a snapshot without the amount of its total. -/
def SnapshotContent.withoutAmount (s : SnapshotContent) : SnapshotContent :=
  { s with cost := { s.cost with total := { s.cost.total with amount := none } } }

/-- The snapshots agree in all that the canonical key of an offer covers, up to a cent of the total. -/
structure AgreesOnKey (first second : SnapshotContent) : Prop where
  fields : createCanonicalOfferKeyInput first.withoutAmount =
    createCanonicalOfferKeyInput second.withoutAmount
  amount : moneyChanged first.cost.total.amount second.cost.total.amount = false

theorem EvidenceState.text_injective : Function.Injective EvidenceState.text := by
  intro s t h
  cases s <;> cases t <;> first | rfl | simp [EvidenceState.text] at h

theorem text?_injective : Function.Injective Json.text? := by
  intro s t h
  cases s <;> cases t <;> simp_all [Json.text?]

/-- The groups of the key are the groups of the comparison, with the hotel and the state of the
    total. -/
theorem keyInput_eq_iff {a b : SnapshotContent} :
    createCanonicalOfferKeyInput a.withoutAmount = createCanonicalOfferKeyInput b.withoutAmount ↔
      a.hotelId = b.hotelId ∧ a.scope.toJson = b.scope.toJson ∧ a.room.toJson = b.room.toJson ∧
      a.mealPlan.toJson = b.mealPlan.toJson ∧ a.cancellation.toJson = b.cancellation.toJson ∧
      a.payment.toJson = b.payment.toJson ∧
      (a.cost.total.currency = b.cost.total.currency ∧ a.cost.total.state = b.cost.total.state) ∧
      Json.obj a.cost.taxes.keyFields = .obj b.cost.taxes.keyFields ∧
      Json.obj a.cost.fees.keyFields = .obj b.cost.fees.keyFields ∧
      Json.obj a.bookability.keyFields = .obj b.bookability.keyFields ∧
      a.temporalPriceEvidence.keyJson = b.temporalPriceEvidence.keyJson := by
  have htotal : (Json.obj a.withoutAmount.cost.total.keyFields =
      .obj b.withoutAmount.cost.total.keyFields) ↔
      (a.cost.total.currency = b.cost.total.currency ∧ a.cost.total.state = b.cost.total.state) := by
    simp [MoneyEvidence.keyFields, SnapshotContent.withoutAmount, text?_injective.eq_iff,
      EvidenceState.text_injective.eq_iff]
  rw [← htotal]
  unfold createCanonicalOfferKeyInput
  rw [Json.obj.injEq]
  simp only [List.cons.injEq, Prod.mk.injEq, true_and, and_true, Json.str.injEq]
  rfl

/-! ## 4. Confirmed offers -/

/-- The cost is reported, and judged, as complete as before. -/
def SameCompleteness (first second : CanonicalCost) : Prop :=
  first.integrityStatus = second.integrityStatus ∧
    first.sourceCompleteness = second.sourceCompleteness

/-- The state of the total of a created snapshot follows from the rest of its total. -/
theorem total_state_eq {rt : Runtime} {input input' : CostInput} {scope scope' : StayScope}
    {evidenceIds evidenceIds' : List String}
    (hamount : moneyChanged (createCost rt input scope evidenceIds).total.amount
      (createCost rt input' scope' evidenceIds').total.amount = false)
    (hcurrency : (createCost rt input scope evidenceIds).total.currency =
      (createCost rt input' scope' evidenceIds').total.currency)
    (hcompleteness : input.completeness = input'.completeness) :
    (createCost rt input scope evidenceIds).total.state =
      (createCost rt input' scope' evidenceIds').total.state := by
  have hcurrency' : normalizeOptionalCurrency rt input.currency =
      normalizeOptionalCurrency rt input'.currency := hcurrency
  have hnone : (normalizePositiveNumber input.amount).isNone =
      (normalizePositiveNumber input'.amount).isNone := by
    have hchanged : moneyChanged (normalizePositiveNumber input.amount)
        (normalizePositiveNumber input'.amount) = false := hamount
    revert hchanged
    cases normalizePositiveNumber input.amount <;>
      cases normalizePositiveNumber input'.amount <;> simp [moneyChanged]
  show stateForTotal _ _ _ = stateForTotal _ _ _
  unfold stateForTotal
  rw [hnone, hcurrency', hcompleteness]

/-- No group changed when the snapshots agree on the key and on how complete the cost is. -/
theorem groups_unchanged_iff (hnum : IsExact num) {rt : Runtime} {input input' : SnapshotInput}
    (hhotel : (snapshotContent rt input).hotelId = (snapshotContent rt input').hotelId) :
    (∀ group ∈ comparedGroups num (snapshotContent rt input) (snapshotContent rt input'),
        group.2 = false) ↔
      AgreesOnKey (snapshotContent rt input) (snapshotContent rt input') ∧
        SameCompleteness (snapshotContent rt input).cost (snapshotContent rt input').cost := by
  have hstate : moneyChanged (snapshotContent rt input).cost.total.amount
      (snapshotContent rt input').cost.total.amount = false →
      (snapshotContent rt input).cost.total.currency =
        (snapshotContent rt input').cost.total.currency →
      (snapshotContent rt input).cost.sourceCompleteness =
        (snapshotContent rt input').cost.sourceCompleteness →
      (snapshotContent rt input).cost.total.state = (snapshotContent rt input').cost.total.state :=
    fun hamount hcurrency hsource => total_state_eq hamount hcurrency hsource
  generalize snapshotContent rt input = a at *
  generalize snapshotContent rt input' = b at *
  simp only [comparedGroups, List.forall_mem_cons, List.not_mem_nil, false_implies, implies_true,
    and_true, differs_scope hnum, differs_named hnum, differs_cancellation hnum,
    differs_payment hnum, differs_taxes hnum, differs_fees hnum, differs_bookability hnum,
    differs_temporal hnum, Bool.or_eq_false_iff, decide_eq_false_iff_not, not_not]
  constructor
  · rintro ⟨hscope, hamount, hcurrency, ⟨hintegrity, hsource⟩, htaxes, hfees, hroom, hmeal,
      hcancellation, hpayment, hbookability, htemporal⟩
    exact ⟨⟨keyInput_eq_iff.mpr ⟨hhotel, hscope, hroom, hmeal, hcancellation, hpayment,
      ⟨hcurrency, hstate hamount hcurrency hsource⟩, htaxes, hfees, hbookability, htemporal⟩,
      hamount⟩, hintegrity, hsource⟩
  · rintro ⟨⟨hfields, hamount⟩, hintegrity, hsource⟩
    obtain ⟨-, hscope, hroom, hmeal, hcancellation, hpayment, ⟨hcurrency, -⟩, htaxes, hfees,
      hbookability, htemporal⟩ := keyInput_eq_iff.mp hfields
    exact ⟨hscope, hamount, hcurrency, ⟨hintegrity, hsource⟩, htaxes, hfees, hroom, hmeal,
      hcancellation, hpayment, hbookability, htemporal⟩

/-- Every group that can change is material. -/
theorem groups_material (original confirmed : SnapshotContent) :
    ∀ group ∈ comparedGroups num original confirmed, group.1 ∈ materialFieldSet := by
  simp [comparedGroups, materialFieldSet]

/-- What a comparison with a snapshot that is not sold out says. -/
theorem compare_some {original confirmed : StayOfferIntegritySnapshot}
    (hsold : isSoldOut confirmed.toSnapshotContent = false) :
    ((compareStayOfferRecheck num original (some confirmed)).state = .confirmed ↔
      ∀ group ∈ comparedGroups num original.toSnapshotContent confirmed.toSnapshotContent,
        group.2 = false) ∧
      ((compareStayOfferRecheck num original (some confirmed)).state ≠ .confirmed →
        (compareStayOfferRecheck num original (some confirmed)).requiresDecisionReplay = true) := by
  have hnil : uniqueSorted (((comparedGroups num original.toSnapshotContent
      confirmed.toSnapshotContent).filter (·.2)).map Prod.fst) = [] ↔
      ∀ group ∈ comparedGroups num original.toSnapshotContent confirmed.toSnapshotContent,
        group.2 = false := by
    simp [uniqueSorted_eq_nil, List.filter_eq_nil_iff]
  have hmaterial : (uniqueSorted (((comparedGroups num original.toSnapshotContent
      confirmed.toSnapshotContent).filter (·.2)).map Prod.fst)).filter materialFieldSet.contains =
      uniqueSorted (((comparedGroups num original.toSnapshotContent
        confirmed.toSnapshotContent).filter (·.2)).map Prod.fst) := by
    refine List.filter_eq_self.mpr fun field hfield => ?_
    obtain ⟨group, hgroup, rfl⟩ := List.mem_map.mp (mem_uniqueSorted.mp hfield)
    simpa using groups_material _ _ group (List.mem_filter.mp hgroup).1
  dsimp only [compareStayOfferRecheck]
  rw [hsold, if_neg Bool.false_ne_true, hmaterial, ← hnil]
  generalize uniqueSorted (((comparedGroups num original.toSnapshotContent
    confirmed.toSnapshotContent).filter (·.2)).map Prod.fst) = changed
  cases changed <;> simp

/-- Of one hotel, an offer is confirmed when it is not sold out and agrees with the original on its
    key and on how complete its cost is. Any other offer requires a decision replay. -/
theorem compare_confirmed_iff (hnum : IsExact num) {rt : Runtime} {input input' : SnapshotInput}
    (hhotel : (createStayOfferIntegritySnapshot rt input).hotelId =
      (createStayOfferIntegritySnapshot rt input').hotelId) :
    let original := createStayOfferIntegritySnapshot rt input
    let confirmed := createStayOfferIntegritySnapshot rt input'
    let diff := compareStayOfferRecheck num original (some confirmed)
    (diff.state = .confirmed ↔ isSoldOut confirmed.toSnapshotContent = false ∧
      AgreesOnKey original.toSnapshotContent confirmed.toSnapshotContent ∧
      SameCompleteness original.cost confirmed.cost) ∧
      (diff.state ≠ .confirmed → diff.requiresDecisionReplay = true) := by
  intro original confirmed diff
  cases hsold : isSoldOut confirmed.toSnapshotContent with
  | true =>
    have hdiff : diff.state = .soldOut ∧ diff.requiresDecisionReplay = true := by
      dsimp only [diff, compareStayOfferRecheck]
      rw [if_pos hsold]
      exact ⟨rfl, rfl⟩
    rw [hdiff.1, hdiff.2]
    exact ⟨⟨nofun, nofun⟩, fun _ => rfl⟩
  | false =>
    obtain ⟨hstate, hreplay⟩ := @compare_some num original confirmed hsold
    exact ⟨hstate.trans ((groups_unchanged_iff hnum hhotel).trans
      ⟨fun h => ⟨rfl, h⟩, And.right⟩), hreplay⟩

theorem agreesOnKey_refl (s : SnapshotContent) : AgreesOnKey s s where
  fields := rfl
  amount := by
    cases s.cost.total.amount with
    | none => rfl
    | some amount => simp [moneyChanged]

/-- The theorem for an offer that did not change. -/
theorem compare_confirmed_same : (compareStayOfferRecheck plainNumerals
    (createStayOfferIntegritySnapshot plainRuntime (twoNights (some "EUR")))
    (some (createStayOfferIntegritySnapshot plainRuntime (twoNights (some "EUR"))))).state =
      .confirmed :=
  (compare_confirmed_iff plainNumerals_exact rfl).1.mpr
    ⟨by decide +kernel, agreesOnKey_refl _, rfl, rfl⟩

/-! ## 5. A change that the key does not show -/

/-- An offer without a total, of which the provider says how complete its cost is. -/
def withoutTotal (completeness : CostCompleteness) : SnapshotInput :=
  let offer := twoNights (some "EUR")
  { offer with cost := { offer.cost with amount := none, completeness } }

/-- A cost that is reported as less complete is a change, though the key is the same. -/
theorem completeness_changes : ¬ ∀ (num : Numerals ℚ) (rt : Runtime) (input input' : SnapshotInput),
    IsExact num →
    let original := createStayOfferIntegritySnapshot rt input
    let confirmed := createStayOfferIntegritySnapshot rt input'
    ((compareStayOfferRecheck num original (some confirmed)).state = .confirmed ↔
      isSoldOut confirmed.toSnapshotContent = false ∧
        AgreesOnKey original.toSnapshotContent confirmed.toSnapshotContent) := by
  intro h
  have hiff := h plainNumerals plainRuntime (withoutTotal .reportedComplete) (withoutTotal .unknown)
    plainNumerals_exact
  have hsold : isSoldOut (createStayOfferIntegritySnapshot plainRuntime
      (withoutTotal .unknown)).toSnapshotContent = false := rfl
  have hconfirmed := hiff.mpr ⟨hsold, rfl, rfl⟩
  have hgroups := (compare_some hsold).1.mp hconfirmed
  have hcompleteness := hgroups ("costCompleteness", _) (List.mem_cons_of_mem _
    (List.mem_cons_of_mem _ (List.mem_cons_of_mem _ List.mem_cons_self)))
  simp [createStayOfferIntegritySnapshot, snapshotContent, withoutTotal, createCost] at hcompleteness

end SmartStay.Integrity
