import Mathlib.Data.List.Forall2
import SmartStay.Contract.Value

/-!
# Values and the data they are hashed as

A value is visited in the order of its keys, and its data is spelled in that order again: it does not
matter in which order the properties of a record are written.

1. `stableSerialize_perm`.
2. `Spells`: a value is accepted and spelled like some data.
3. `fingerprintBinds_spells`.
-/

namespace SmartStay.Contract

/-! ## 1. The order of properties -/

/-- Properties with different keys are sorted in one way. -/
theorem sortedFields_perm {β : Type} {fields fields' : List (String × β)} (h : fields.Perm fields')
    (hkeys : (fields.map Prod.fst).Nodup) :
    fields.insertionSort (fun first second => JsText.Le first.1 second.1) =
      fields'.insertionSort fun first second => JsText.Le first.1 second.1 := by
  have : Std.Total fun first second : String × β => JsText.Le first.1 second.1 :=
    ⟨fun first second => Std.Total.total first.1 second.1⟩
  have : IsTrans (String × β) fun first second => JsText.Le first.1 second.1 :=
    ⟨fun first second third => IsTrans.trans first.1 second.1 third.1⟩
  refine List.Perm.eq_of_pairwise (fun first second hfirst hsecond hle hle' => ?_)
    (List.pairwise_insertionSort _ fields) (List.pairwise_insertionSort _ fields')
    (((List.perm_insertionSort _ fields).trans h).trans (List.perm_insertionSort _ fields').symm)
  have hkey : first.1 = second.1 := Std.Antisymm.antisymm _ _ hle hle'
  refine List.inj_on_of_nodup_map hkeys ?_ ?_ hkey
  · exact (List.perm_insertionSort _ fields).mem_iff.mp hfirst
  · exact h.mem_iff.mpr ((List.perm_insertionSort _ fields').mem_iff.mp hsecond)

theorem stableSerialize_perm (rt : Runtime) {fields fields' : List (String × Json)}
    (h : fields.Perm fields') (hkeys : (fields.map Prod.fst).Nodup) :
    stableSerialize rt (.obj fields) = stableSerialize rt (.obj fields') := by
  have hperm : (serializeFields rt fields).Perm (serializeFields rt fields') := by
    rw [serializeFields_eq, serializeFields_eq]
    exact h.map _
  have hnodup : ((serializeFields rt fields).map Prod.fst).Nodup := by
    rw [serializeFields_eq, List.map_map]
    exact hkeys
  simp only [stableSerialize]
  rw [sortedFields_perm hperm hnodup]

/-! ## 2. Spellings -/

/-- The value is accepted, as data that is spelled like `json`. -/
def Spells (value : Value) (json : Json) : Prop :=
  ∃ data, value.toJson = .ok data ∧ ∀ rt, stableSerialize rt data = stableSerialize rt json

@[simp] theorem spells_data (json : Json) : Spells (.data json) json :=
  ⟨json, by rw [Value.toJson], fun _ => rfl⟩

@[simp] theorem spells_str (s : String) : Spells (.str s) (.str s) := spells_data _

@[simp] theorem spells_bool (b : Bool) : Spells (.bool b) (.bool b) := spells_data _

@[simp] theorem spells_text? (s : Option String) : Spells (.text? s) (.text? s) := spells_data _

@[simp] theorem spells_texts (values : List String) : Spells (.texts values) (.texts values) :=
  spells_data _

@[simp] theorem spells_num (x : ℚ) : Spells (.num (.finite x)) (.num x) :=
  ⟨.num x, by rw [Value.toJson], fun _ => rfl⟩

@[simp] theorem spells_num? (x : Option ℚ) : Spells (.num? (x.map .finite)) (.num? x) := by
  cases x with
  | none => exact spells_data _
  | some x => exact spells_num x

theorem spells_arr {α : Type} {l : List α} {f : α → Value} {g : α → Json}
    (h : ∀ a ∈ l, Spells (f a) (g a)) : Spells (.arr (l.map f)) (.arr (l.map g)) := by
  have hvalues : ∃ values, Value.valuesToJson (l.map f) = .ok values ∧
      ∀ rt, serializeValues rt values = serializeValues rt (l.map g) := by
    induction l with
    | nil => exact ⟨[], rfl, fun _ => rfl⟩
    | cons a l ih =>
      obtain ⟨data, hdata, htext⟩ := h a List.mem_cons_self
      obtain ⟨values, hvalues, htexts⟩ := ih fun b hb => h b (List.mem_cons_of_mem _ hb)
      refine ⟨data :: values, ?_, fun rt => ?_⟩
      · rw [List.map_cons, Value.valuesToJson]
        exact Fallible.bind_ok.mpr ⟨data, hdata, Fallible.bind_ok.mpr ⟨values, hvalues, rfl⟩⟩
      · rw [List.map_cons, serializeValues, serializeValues, htext, htexts]
  obtain ⟨values, hvalues, htexts⟩ := hvalues
  refine ⟨.arr values, ?_, fun rt => ?_⟩
  · rw [Value.toJson, hvalues]
    rfl
  · rw [stableSerialize, stableSerialize, htexts]

/-- The properties of a record have the same keys and are spelled alike. -/
def SpellsFields : List (String × Value) → List (String × Json) → Prop :=
  List.Forall₂ fun field field' => field.1 = field'.1 ∧ Spells field.2 field'.2

/-- What the fields of a record are turned into, one by one. -/
theorem SpellsFields.data {fields : List (String × Value)} {fields' : List (String × Json)}
    (h : SpellsFields fields fields') : ∃ data : List (String × Json),
      Value.fieldsToJson fields = data.map (fun field => (field.1, .ok field.2)) ∧
      ∀ rt, serializeFields rt data = serializeFields rt fields' := by
  induction h with
  | nil => exact ⟨[], rfl, fun _ => rfl⟩
  | @cons field field' fields fields' hfield _ ih =>
    obtain ⟨key, value⟩ := field
    obtain ⟨key', json⟩ := field'
    obtain ⟨rfl, data, hdata, htext⟩ := hfield
    obtain ⟨rest, hrest, htexts⟩ := ih
    refine ⟨(key, data) :: rest, ?_, fun rt => ?_⟩
    · rw [Value.fieldsToJson, hrest, List.map_cons]
      exact congrArg (fun first => (key, first) :: _) hdata
    · rw [serializeFields, serializeFields, htext, htexts]

theorem spells_obj {fields : List (String × Value)} {fields' : List (String × Json)}
    (h : SpellsFields fields fields') (hkeys : (fields'.map Prod.fst).Nodup) :
    Spells (.obj fields) (.obj fields') := by
  obtain ⟨data, hdata, htexts⟩ := h.data
  have hnames : data.map Prod.fst = fields'.map Prod.fst := by
    have hmap := congrArg (List.map Prod.fst) (htexts plainRuntime)
    rw [serializeFields_eq, serializeFields_eq, List.map_map, List.map_map] at hmap
    exact hmap
  refine ⟨.obj (data.insertionSort fun first second => JsText.Le first.1 second.1), ?_,
    fun rt => ?_⟩
  · -- the visit sorts the properties, none of which throws
    have hsort : (data.map fun field => (field.1, Except.ok (ε := String) field.2)).insertionSort
        (fun first second => JsText.Le first.1 second.1) =
        (data.insertionSort fun first second => JsText.Le first.1 second.1).map
          fun field => (field.1, .ok field.2) :=
      (List.map_insertionSort _ _ (fun field => (field.1, Except.ok field.2)) data
        fun _ _ _ _ => Iff.rfl).symm
    have hvisit : ∀ l : List (String × Json),
        l.mapM (fun field => (pure field : Except String (String × Json))) = pure l := fun l => by
      rw [List.mapM_pure, List.map_id']
    rw [Value.toJson, hdata, Value.visitFields, hsort, List.mapM_map]
    exact congrArg (Except.map Json.obj) (hvisit _)
  · rw [← stableSerialize_perm rt (List.perm_insertionSort _ data).symm (hnames ▸ hkeys),
      stableSerialize, stableSerialize, htexts]

/-! ## 3. Fingerprints -/

theorem fingerprintBinds_spells (rt : Runtime) {value : Value} {json : Json}
    (h : Spells value json) (namespaceName : String) :
    fingerprintBinds rt value namespaceName (createStableHash rt json namespaceName) = .ok true := by
  obtain ⟨data, hdata, htext⟩ := h
  refine fingerprintBinds_true.mpr ?_
  rw [hashValue, hdata]
  exact congrArg Except.ok (by rw [createStableHash, createStableHash, htext])

end SmartStay.Contract
