import SmartStay.Contract.StableHash
import SmartStay.Lib.Fallible
import SmartStay.Lib.JsFloat

/-!
# Values that the stable hash may refuse

`stableSerializeV3` of `engine-v3/contract/stableHashV3.ts` is applied to `unknown` values and
throws on those that are not JSON data.

1. `Value`, `Value.toJson`: the data of a value, or the error.
2. `Value.accepted`, `toJson_ok`: the values that are serialized.
3. `hashValue`: `createStableHashV3` of any value.
4. `Value.keys`, `namesField`: the searches for forbidden fields.
-/

namespace SmartStay.Contract

/-! ## 1. Values -/

/-- A value of type `unknown`. Data has no number that is not finite; `foreign` is a value whose
    `typeof` is neither of an object nor of data (`undefined`, a function, a symbol, a big
    integer), `classInstance` an object with a prototype of its own. -/
inductive Value
  | data (json : Json)
  | num (x : JsFloat)
  | arr (values : List Value)
  | obj (fields : List (String × Value))
  | foreign (typeName : String)
  | classInstance

namespace Value

def null : Value := .data .null

def str (s : String) : Value := .data (.str s)

def bool (b : Bool) : Value := .data (.bool b)

/-- A string or `null`. -/
def text? (s : Option String) : Value := .data (.text? s)

def texts (values : List String) : Value := .data (.texts values)

/-- A number or `null`. -/
def num? : Option JsFloat → Value
  | none => null
  | some x => .num x

/-- The properties of a record are visited in the order of their keys. -/
def visitFields (fields : List (String × Except String Json)) :
    Except String (List (String × Json)) :=
  (fields.insertionSort fun first second => JsText.Le first.1 second.1).mapM
    fun field => field.2.map fun json => (field.1, json)

mutual

/-- The data that `stableSerializeV3` spells, or the error that it throws. -/
def toJson : Value → Except String Json
  | .data json => .ok json
  | .num (.finite x) => .ok (.num x)
  | .num _ => .error "Stable V3 serialization does not accept non-finite numbers."
  | .arr values => (valuesToJson values).map .arr
  | .obj fields => (visitFields (fieldsToJson fields)).map .obj
  | .foreign typeName =>
    .error ("Stable V3 serialization does not accept " ++ typeName ++ ".")
  | .classInstance => .error "Stable V3 serialization accepts only plain objects."

def valuesToJson : List Value → Except String (List Json)
  | [] => .ok []
  | value :: rest => do
    let json ← value.toJson
    let more ← valuesToJson rest
    pure (json :: more)

def fieldsToJson : List (String × Value) → List (String × Except String Json)
  | [] => []
  | (key, value) :: rest => (key, value.toJson) :: fieldsToJson rest

end

/-! ## 2. Serialized values -/

mutual

/-- Every number in the value is finite, and every other leaf is data. -/
def accepted : Value → Bool
  | .data _ => true
  | .num x => x.isFinite
  | .arr values => acceptedValues values
  | .obj fields => acceptedFields fields
  | .foreign _ => false
  | .classInstance => false

def acceptedValues : List Value → Bool
  | [] => true
  | value :: rest => value.accepted && acceptedValues rest

def acceptedFields : List (String × Value) → Bool
  | [] => true
  | (_, value) :: rest => value.accepted && acceptedFields rest

end

@[simp] theorem acceptedValues_map {α : Type} {l : List α} {f : α → Value} :
    acceptedValues (l.map f) = true ↔ ∀ a ∈ l, (f a).accepted = true := by
  induction l with
  | nil => simp [acceptedValues]
  | cons a l ih => simp [acceptedValues, ih]

@[simp] theorem acceptedFields_append {fields fields' : List (String × Value)} :
    acceptedFields (fields ++ fields') = (acceptedFields fields && acceptedFields fields') := by
  induction fields with
  | nil => rfl
  | cons field fields ih =>
    rw [List.cons_append, acceptedFields, acceptedFields, ih, Bool.and_assoc]

theorem map_ok {α β ε : Type} {x : Except ε α} {f : α → β} :
    (∃ b, x.map f = .ok b) ↔ ∃ a, x = .ok a := by
  cases x with
  | error e => simp [Except.map]
  | ok a => exact ⟨fun _ => ⟨a, rfl⟩, fun _ => ⟨f a, rfl⟩⟩

/-- The order in which the properties are visited decides only which error is thrown. -/
theorem visitFields_ok {fields : List (String × Except String Json)} :
    (∃ b, visitFields fields = .ok b) ↔ ∀ field ∈ fields, ∃ json, field.2 = .ok json := by
  have hmem : ∀ field, field ∈ fields.insertionSort
      (fun first second => JsText.Le first.1 second.1) ↔ field ∈ fields :=
    fun field => (List.perm_insertionSort _ _).mem_iff
  constructor
  · rintro ⟨b, hb⟩ field hfield
    obtain ⟨pair, hpair⟩ := (Fallible.mapM_ok_iff.mp hb).1 field ((hmem field).mpr hfield)
    exact map_ok.mp ⟨pair, hpair⟩
  · intro hall
    exact ⟨_, Fallible.mapM_ok_iff.mpr
      ⟨fun field hfield => map_ok.mpr (hall field ((hmem field).mp hfield)), rfl⟩⟩

mutual

/-- Serialization throws exactly on the values that are not accepted. -/
theorem toJson_ok : (v : Value) → ((∃ json, v.toJson = .ok json) ↔ v.accepted = true)
  | .data json => by simp [toJson, accepted]
  | .num x => by cases x <;> simp [toJson, accepted, JsFloat.isFinite]
  | .arr values => by rw [toJson, accepted, map_ok, valuesToJson_ok values]
  | .obj fields => by rw [toJson, accepted, map_ok, visitFields_ok, fieldsToJson_ok fields]
  | .foreign typeName => by simp [toJson, accepted]
  | .classInstance => by simp [toJson, accepted]

theorem valuesToJson_ok : (values : List Value) →
    ((∃ json, valuesToJson values = .ok json) ↔ acceptedValues values = true)
  | [] => by simp [valuesToJson, acceptedValues]
  | value :: rest => by
    rw [valuesToJson, acceptedValues, Bool.and_eq_true, ← toJson_ok value, ← valuesToJson_ok rest]
    constructor
    · rintro ⟨json, h⟩
      obtain ⟨first, hfirst, h⟩ := Fallible.bind_ok.mp h
      obtain ⟨more, hmore, -⟩ := Fallible.bind_ok.mp h
      exact ⟨⟨first, hfirst⟩, ⟨more, hmore⟩⟩
    · rintro ⟨⟨first, hfirst⟩, more, hmore⟩
      exact ⟨_, Fallible.bind_ok.mpr ⟨first, hfirst, Fallible.bind_ok.mpr ⟨more, hmore, rfl⟩⟩⟩

theorem fieldsToJson_ok : (fields : List (String × Value)) →
    ((∀ field ∈ fieldsToJson fields, ∃ json, field.2 = .ok json) ↔ acceptedFields fields = true)
  | [] => by simp [fieldsToJson, acceptedFields]
  | (key, value) :: rest => by
    rw [fieldsToJson, acceptedFields, List.forall_mem_cons, Bool.and_eq_true, ← toJson_ok value,
      ← fieldsToJson_ok rest]

end

end Value

/-! ## 3. The hash of a value -/

/-- `createStableHashV3`. -/
def hashValue (rt : Runtime) (value : Value) (namespaceName : String) : Except String String := do
  let json ← value.toJson
  pure (createStableHash rt json namespaceName)

theorem hashValue_ok (rt : Runtime) (value : Value) (namespaceName : String) :
    (∃ fingerprint, hashValue rt value namespaceName = .ok fingerprint) ↔
      value.accepted = true := by
  rw [← Value.toJson_ok]
  constructor
  · rintro ⟨fingerprint, h⟩
    obtain ⟨json, hjson, -⟩ := Fallible.bind_ok.mp h
    exact ⟨json, hjson⟩
  · rintro ⟨json, hjson⟩
    exact ⟨_, Fallible.bind_ok.mpr ⟨json, hjson, rfl⟩⟩

/-- `!isStableHashV3(fingerprint) || fingerprint !== createStableHashV3(value, namespace)`,
    negated: the hash is only computed for a text of its shape. -/
def fingerprintBinds (rt : Runtime) (value : Value) (namespaceName fingerprint : String) :
    Except String Bool :=
  if isStableHash fingerprint then do
    let expected ← hashValue rt value namespaceName
    pure (decide (fingerprint = expected))
  else .ok false

/-- The comparison throws on a text that has the shape of a hash, if the value is not
    accepted. -/
theorem fingerprintBinds_ok (rt : Runtime) (value : Value)
    (namespaceName fingerprint : String) :
    (∃ b, fingerprintBinds rt value namespaceName fingerprint = .ok b) ↔
      (isStableHash fingerprint = true → value.accepted = true) := by
  unfold fingerprintBinds
  by_cases hshape : isStableHash fingerprint = true
  · rw [if_pos hshape, ← hashValue_ok rt value namespaceName]
    constructor
    · rintro ⟨b, h⟩ -
      obtain ⟨expected, hexpected, -⟩ := Fallible.bind_ok.mp h
      exact ⟨expected, hexpected⟩
    · intro h
      obtain ⟨expected, hexpected⟩ := h hshape
      exact ⟨_, Fallible.bind_ok.mpr ⟨expected, hexpected, rfl⟩⟩
  · simp [hshape]

theorem fingerprintBinds_true {rt : Runtime} {value : Value}
    {namespaceName fingerprint : String} :
    fingerprintBinds rt value namespaceName fingerprint = .ok true ↔
      hashValue rt value namespaceName = .ok fingerprint := by
  unfold fingerprintBinds
  constructor
  · intro h
    split at h
    · obtain ⟨expected, hexpected, h⟩ := Fallible.bind_ok.mp h
      have heq : fingerprint = expected := by simpa [pure, Except.pure] using h
      rw [hexpected, heq]
    · simp at h
  · intro h
    obtain ⟨json, hjson, hfingerprint⟩ := Fallible.bind_ok.mp h
    have hshape : isStableHash fingerprint = true := by
      rw [← Except.ok.inj hfingerprint]
      exact isStableHash_createStableHash rt json namespaceName
    rw [if_pos hshape]
    exact Fallible.bind_ok.mpr ⟨fingerprint, h, by simp [pure, Except.pure]⟩

/-! ## 4. Field names -/

mutual

/-- The keys of the properties in data. -/
def Json.keys : Json → List String
  | .arr values => keysOfValues values
  | .obj fields => keysOfFields fields
  | _ => []

def Json.keysOfValues : List Json → List String
  | [] => []
  | value :: rest => value.keys ++ keysOfValues rest

def Json.keysOfFields : List (String × Json) → List String
  | [] => []
  | (key, value) :: rest => key :: value.keys ++ keysOfFields rest

end

mutual

/-- The keys that `JSON.stringify` writes, which leaves out properties without data. -/
def Value.keys : Value → List String
  | .data json => json.keys
  | .arr values => keysOfValues values
  | .obj fields => keysOfFields fields
  | _ => []

def Value.keysOfValues : List Value → List String
  | [] => []
  | value :: rest => value.keys ++ keysOfValues rest

def Value.keysOfFields : List (String × Value) → List String
  | [] => []
  | (_, .foreign _) :: rest => keysOfFields rest
  | (key, value) :: rest => key :: value.keys ++ keysOfFields rest

end

/-- `/"(…)"\s*:/.test(JSON.stringify(value))`, for names of letters and a value whose keys are
    given. The text has a colon after a closing quote only where a key ends, so a match is a key
    that is one of the names or ends with a quote and the name. -/
def namesField (names keys : List String) : Bool :=
  keys.any fun key => names.any fun name => key = name || ("\"" ++ name).toList.isSuffixOf key.toList

/-- The same test with the flag `i`. -/
def namesFieldIgnoringCase (names keys : List String) : Bool :=
  namesField (names.map JsText.toLowerCase) (keys.map JsText.toLowerCase)

end SmartStay.Contract
