import SmartStay.Contract.StableHash
import SmartStay.Lib.Fallible
import SmartStay.Lib.JsonCanonical

/-!
# The text behind the stable hash

`stableSerializeV3` and `createStableHashV3` of `engine-v3/contract/stableHashV3.ts` on all values that
they can accept: strings of any code units, numbers with a sign of zero, arrays without holes, and
objects with their enumerable keys. Values of other types, which throw, are in `Contract.Value`.

1. `stableSerializeV3`.
2. `stableSerialize_ok`: what is accepted, and as which text.
3. `createStableHashV3`.
4. `stableSerialize_eq_iff`, `stableHash_canonical`: equal texts are of the same data, and equal hashes
   of different data are hashes of different texts.
-/

namespace SmartStay.Contract

open JsonValue JsonText JsSort

variable {ν : Type}

/-! ## 1. Serialization -/

def nonFiniteError : String := "Stable V3 serialization does not accept non-finite numbers."

section
variable (num : Numerals ν)

mutual

def stableSerializeV3 : JsonValue ν → Except String (List Char)
  | .null => .ok "null".toList
  | .bool b => .ok (if b then "true" else "false").toList
  | .num x => if num.isFinite x then .ok (num.text (num.unsigned x)) else .error nonFiniteError
  | .str s => .ok (JsonText.quote s)
  | .arr values => do
    let texts ← serializeArray values
    return ('[' :: [','].intercalate texts) ++ [']']
  | .obj record => do
    let texts ← serializeRecord record
    return ('\x7b' :: [','].intercalate ((sortBy (compareOn Prod.fst) texts).map fun (key, text) =>
      JsonText.quote key ++ ':' :: text)) ++ ['\x7d']

def serializeArray : List (JsonValue ν) → Except String (List (List Char))
  | [] => .ok []
  | value :: rest => do
    let text ← stableSerializeV3 value
    return text :: (← serializeArray rest)

/-- The keys with the texts of their values. The keys are visited in order, but only one error can be
thrown. -/
def serializeRecord : List (JsString × JsonValue ν) → Except String (List (JsString × List Char))
  | [] => .ok []
  | (key, value) :: rest => do
    let text ← stableSerializeV3 value
    return (key, text) :: (← serializeRecord rest)

end

/-! ## 2. Accepted values -/

theorem itemsText_eq (items : List (JsonValue ν)) :
    itemsText num true items = [','].intercalate (items.map (text num)) ++ [']'] := by
  have hmore : ∀ item : JsonValue ν, ∀ rest, text num item ++ itemsText num false rest =
      [','].intercalate ((item :: rest).map (text num)) ++ [']'] := by
    intro item rest
    induction rest generalizing item with
    | nil => simp [itemsText, List.intercalate]
    | cons next rest ih =>
      rw [itemsText, ih next]
      simp [List.intercalate]
  cases items with
  | nil => rfl
  | cons item rest =>
    rw [itemsText, hmore]
    rfl

def fieldText (field : JsString × JsonValue ν) : List Char := JsonText.quote field.1 ++ ':' :: text num field.2

theorem fieldsText_eq (fields : List (JsString × JsonValue ν)) :
    fieldsText num true fields = [','].intercalate (fields.map (fieldText num)) ++ ['\x7d'] := by
  have hmore : ∀ field : JsString × JsonValue ν, ∀ rest,
      JsonText.quote field.1 ++ ':' :: (text num field.2 ++ fieldsText num false rest) =
        [','].intercalate ((field :: rest).map (fieldText num)) ++ ['\x7d'] := by
    intro field rest
    induction rest generalizing field with
    | nil => simp [fieldsText, fieldText, List.intercalate]
    | cons next rest ih =>
      rw [fieldsText, ih next]
      simp [fieldText, List.intercalate]
  cases fields with
  | nil => rfl
  | cons field rest =>
    rw [fieldsText, hmore]
    rfl

mutual

/-- A value with finite numbers is spelled as its canonical form, and no other value is accepted. -/
theorem stableSerialize_ok : (v : JsonValue ν) → (s : List Char) →
    (stableSerializeV3 num v = .ok s ↔ FiniteNumbers num v ∧ s = text num (v.canonical num.unsigned))
  | .null, s | .bool _, s | .str _, s => by
    simp [stableSerializeV3, FiniteNumbers, canonical, text, eq_comm]
  | .num x, s => by
    rw [stableSerializeV3, FiniteNumbers, canonical, text]
    cases num.isFinite x <;> simp [eq_comm]
  | .arr items, s => by
    rw [stableSerializeV3, FiniteNumbers, canonical, text, itemsText_eq, Fallible.bind_ok]
    constructor
    · rintro ⟨texts, h, hs⟩
      obtain ⟨hfinite, rfl⟩ := (serializeArray_ok items texts).mp h
      exact ⟨hfinite, (Except.ok.inj hs).symm⟩
    · rintro ⟨hfinite, rfl⟩
      exact ⟨_, (serializeArray_ok items _).mpr ⟨hfinite, rfl⟩, rfl⟩
  | .obj fields, s => by
    have hsorted : (sortBy (compareOn Prod.fst) ((canonicalFields num.unsigned fields).map
        fun field => (field.1, text num field.2))).map (fun (key, text) => JsonText.quote key ++ ':' :: text) =
        (sortBy (compareOn Prod.fst) (canonicalFields num.unsigned fields)).map (fieldText num) := by
      rw [sortBy_map fun _ _ _ _ => rfl, List.map_map]
      rfl
    rw [stableSerializeV3, FiniteNumbers, canonical, text, fieldsText_eq, Fallible.bind_ok]
    constructor
    · rintro ⟨texts, h, hs⟩
      obtain ⟨hfinite, rfl⟩ := (serializeRecord_ok fields texts).mp h
      rw [hsorted] at hs
      exact ⟨hfinite, (Except.ok.inj hs).symm⟩
    · rintro ⟨hfinite, rfl⟩
      exact ⟨_, (serializeRecord_ok fields _).mpr ⟨hfinite, rfl⟩, by rw [hsorted]; rfl⟩

theorem serializeArray_ok : (items : List (JsonValue ν)) → (texts : List (List Char)) →
    (serializeArray num items = .ok texts ↔ FiniteItems num items ∧
      texts = (canonicalItems num.unsigned items).map (text num))
  | [], texts => by simp [serializeArray, FiniteItems, canonicalItems, eq_comm]
  | item :: rest, texts => by
    rw [serializeArray, FiniteItems, canonicalItems, List.map_cons, Fallible.bind_ok]
    constructor
    · rintro ⟨s, hs, h⟩
      obtain ⟨more, hmore, htexts⟩ := Fallible.bind_ok.mp h
      obtain ⟨hitem, rfl⟩ := (stableSerialize_ok item s).mp hs
      obtain ⟨hrest, rfl⟩ := (serializeArray_ok rest more).mp hmore
      exact ⟨⟨hitem, hrest⟩, (Except.ok.inj htexts).symm⟩
    · rintro ⟨⟨hitem, hrest⟩, rfl⟩
      exact ⟨_, (stableSerialize_ok item _).mpr ⟨hitem, rfl⟩,
        Fallible.bind_ok.mpr ⟨_, (serializeArray_ok rest _).mpr ⟨hrest, rfl⟩, rfl⟩⟩

theorem serializeRecord_ok : (fields : List (JsString × JsonValue ν)) →
    (texts : List (JsString × List Char)) →
    (serializeRecord num fields = .ok texts ↔ FiniteFields num fields ∧
      texts = (canonicalFields num.unsigned fields).map fun field => (field.1, text num field.2))
  | [], texts => by simp [serializeRecord, FiniteFields, canonicalFields, eq_comm]
  | (key, value) :: rest, texts => by
    rw [serializeRecord, FiniteFields, canonicalFields, List.map_cons, Fallible.bind_ok]
    constructor
    · rintro ⟨s, hs, h⟩
      obtain ⟨more, hmore, htexts⟩ := Fallible.bind_ok.mp h
      obtain ⟨hvalue, rfl⟩ := (stableSerialize_ok value s).mp hs
      obtain ⟨hrest, rfl⟩ := (serializeRecord_ok rest more).mp hmore
      exact ⟨⟨hvalue, hrest⟩, (Except.ok.inj htexts).symm⟩
    · rintro ⟨⟨hvalue, hrest⟩, rfl⟩
      exact ⟨_, (stableSerialize_ok value _).mpr ⟨hvalue, rfl⟩,
        Fallible.bind_ok.mpr ⟨_, (serializeRecord_ok rest _).mpr ⟨hrest, rfl⟩, rfl⟩⟩

end

/-! ## 3. Hashes -/

/-- The code units of a text. -/
def units (text : List Char) : JsString := text.flatMap JsString.ofChar

/-- The namespace and the text, on two lines. -/
def hashPayload (namespaceName : JsString) (text : List Char) : JsString :=
  namespaceName ++ units ('\n' :: text)

def createFnv1a32Units (value : JsString) : String :=
  hex8 ((value.map Fin.val).foldl fnvRound 0x811c9dc5)

def createStableHashV3 (value : JsonValue ν) (namespaceName : JsString) :
    Except String String := do
  let text ← stableSerializeV3 num value
  return "fnv1a32-" ++ createFnv1a32Units (hashPayload namespaceName text)

/-- The code units are those that the other strings are compared by. -/
theorem map_val_units (text : List Char) :
    (units text).map Fin.val = JsText.utf16 (String.ofList text) := by
  have hunits : ∀ c : Char, (JsString.ofChar c).map Fin.val = JsText.codeUnits c.toNat := by
    intro c
    have hlt : ∀ n ∈ JsText.codeUnits c.toNat, n < 65536 := by
      have hc := JsText.toNat_lt c
      unfold JsText.codeUnits
      split <;> simp <;> omega
    rw [JsString.ofChar, List.map_map]
    exact (List.map_congr_left fun n hn => Nat.mod_eq_of_lt (hlt n hn)).trans (List.map_id _)
  rw [units, JsText.utf16, String.toList_ofList, List.map_flatMap]
  simp only [hunits]

theorem units_injective : Function.Injective units := by
  intro s t h
  have hutf : JsText.utf16 (String.ofList s) = JsText.utf16 (String.ofList t) := by
    rw [← map_val_units, ← map_val_units, h]
  exact String.ofList_injective (JsText.utf16_injective hutf)

theorem hashPayload_injective (namespaceName : JsString) :
    Function.Injective (hashPayload namespaceName) := by
  intro s t h
  have hunits : units ('\n' :: s) = units ('\n' :: t) := List.append_cancel_left h
  exact (List.cons.inj (units_injective hunits)).2

/-! ## 4. Fingerprints of data -/

/-- Different data has different texts. -/
theorem stableSerialize_injective {v w : JsonValue ν} (hv : v.Proper) (hw : w.Proper)
    {s t : List Char} (hs : stableSerializeV3 num v = .ok s) (ht : stableSerializeV3 num w = .ok t) :
    s = t ↔ v.Same num.unsigned w := by
  obtain ⟨hfinite, rfl⟩ := (stableSerialize_ok num v s).mp hs
  obtain ⟨hfinite', rfl⟩ := (stableSerialize_ok num w t).mp ht
  rw [← canonical_eq_iff v w hv hw]
  exact ⟨text_injective num (canonical_plain v hfinite) (canonical_plain w hfinite'),
    congrArg (text num)⟩

/-- The text of a value is that of the same data only, with its keys in any order. Data that is the same
has one hash; other data with this hash has another text, so that only the last step of the hash takes
the two for one. -/
theorem stableSerialize_eq_iff {v w : JsonValue ν} (hv : v.Proper) (hw : w.Proper) {s t : List Char}
    (hs : stableSerializeV3 num v = .ok s) (ht : stableSerializeV3 num w = .ok t)
    (namespaceName : JsString) :
    (s = t ↔ v.Same num.unsigned w) ∧
      (v.Same num.unsigned w →
        createStableHashV3 num v namespaceName = createStableHashV3 num w namespaceName) ∧
      (¬ v.Same num.unsigned w →
        createStableHashV3 num v namespaceName = createStableHashV3 num w namespaceName →
        hashPayload namespaceName s ≠ hashPayload namespaceName t ∧
          createFnv1a32Units (hashPayload namespaceName s) =
            createFnv1a32Units (hashPayload namespaceName t)) := by
  have htexts := stableSerialize_injective num hv hw hs ht
  have hhash : ∀ {x : JsonValue ν} {r : List Char}, stableSerializeV3 num x = .ok r →
      createStableHashV3 num x namespaceName =
        .ok ("fnv1a32-" ++ createFnv1a32Units (hashPayload namespaceName r)) := by
    intro x r hr
    rw [createStableHashV3, hr]
    rfl
  refine ⟨htexts, fun hsame => ?_, fun hdifferent heq => ⟨fun hpayload => ?_, ?_⟩⟩
  · rw [hhash hs, hhash ht, htexts.mpr hsame]
  · exact hdifferent (htexts.mp (hashPayload_injective namespaceName hpayload))
  · rw [hhash hs, hhash ht] at heq
    exact String.append_right_inj _ |>.mp (Except.ok.inj heq)

end

/-- The numerals of the two zeros. -/
def zeroNumerals : Numerals Bool where
  isFinite _ := true
  unsigned _ := false
  text _ := ['0']
  unsigned_finite _ := rfl
  unsigned_unsigned _ := rfl
  text_ne_nil _ _ := nofun
  text_numeral _ _ := List.all_eq_true.mp (by decide)
  text_injective _ _ _ _ _ := rfl

/-- Two objects with their keys in another order and zeros of another sign. -/
theorem stableSerialize_eq_iff_reordered :
    let v : JsonValue Bool := .obj [(.ofString "b", .num true),
      (.ofString "a", .arr [.null, .str (.ofString "\n")])]
    let w : JsonValue Bool := .obj [(.ofString "a", .arr [.null, .str (.ofString "\n")]),
      (.ofString "b", .num false)]
    ∃ s, stableSerializeV3 zeroNumerals v = .ok s ∧
      ((s = s ↔ v.Same zeroNumerals.unsigned w) ∧
      (v.Same zeroNumerals.unsigned w →
        createStableHashV3 zeroNumerals v [] = createStableHashV3 zeroNumerals w []) ∧
      (¬ v.Same zeroNumerals.unsigned w →
        createStableHashV3 zeroNumerals v [] = createStableHashV3 zeroNumerals w [] →
        hashPayload [] s ≠ hashPayload [] s ∧
          createFnv1a32Units (hashPayload [] s) = createFnv1a32Units (hashPayload [] s))) := by
  intro v w
  have hv : v.Proper := ⟨by decide, trivial, by simp [ProperAll, Proper], trivial⟩
  have hw : w.Proper := ⟨by decide, by simp [ProperAll, Proper], trivial, trivial⟩
  exact ⟨_, rfl, stableSerialize_eq_iff zeroNumerals hv hw rfl rfl []⟩

end SmartStay.Contract
