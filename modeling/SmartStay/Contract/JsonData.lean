import SmartStay.Contract.StableText

/-!
# Records as serialized data

The records of the engines are values that `stableSerializeV3` accepts. Two records of one shape have
one text exactly when their fields are equal.

1. `Json.toValue`, `Json.HasKeysOnce`.
2. `IsExact`, `serialize_eq_iff`: texts of records.
3. `SameData`, `same_obj_iff`: the data of records of one shape.
4. `plainNumerals`: a spelling of numbers.
-/

namespace SmartStay.Contract

open JsonValue JsonText

/-! ## 1. Values of records -/

mutual

/-- The value that a record is for `stableSerializeV3`. -/
def Json.toValue : Json → JsonValue ℚ
  | .null => .null
  | .bool b => .bool b
  | .num x => .num x
  | .str s => .str (.ofString s)
  | .arr values => .arr (toItems values)
  | .obj fields => .obj (toFields fields)

def toItems : List Json → List (JsonValue ℚ)
  | [] => []
  | value :: rest => value.toValue :: toItems rest

def toFields : List (String × Json) → List (JsString × JsonValue ℚ)
  | [] => []
  | (key, value) :: rest => (.ofString key, value.toValue) :: toFields rest

end

theorem toFields_eq (fields : List (String × Json)) :
    toFields fields = fields.map fun field => (.ofString field.1, field.2.toValue) := by
  induction fields with
  | nil => rfl
  | cons field rest ih => rw [toFields, ih, List.map_cons]

theorem ofString_injective : Function.Injective JsString.ofString := by
  intro s t h
  exact String.toList_inj.mp (units_injective h)

mutual

/-- Every object in the record has each of its keys once. -/
def Json.HasKeysOnce : Json → Prop
  | .arr values => ItemsHaveKeysOnce values
  | .obj fields => (fields.map Prod.fst).Nodup ∧ FieldsHaveKeysOnce fields
  | _ => True

def ItemsHaveKeysOnce : List Json → Prop
  | [] => True
  | value :: rest => value.HasKeysOnce ∧ ItemsHaveKeysOnce rest

def FieldsHaveKeysOnce : List (String × Json) → Prop
  | [] => True
  | (_, value) :: rest => value.HasKeysOnce ∧ FieldsHaveKeysOnce rest

end

theorem itemsHaveKeysOnce_iff {values : List Json} :
    ItemsHaveKeysOnce values ↔ ∀ value ∈ values, value.HasKeysOnce := by
  induction values with
  | nil => simp [ItemsHaveKeysOnce]
  | cons value rest ih => rw [ItemsHaveKeysOnce, List.forall_mem_cons, ih]

mutual

theorem Json.HasKeysOnce.proper : (v : Json) → v.HasKeysOnce → v.toValue.Proper
  | .null, _ | .bool _, _ | .num _, _ | .str _, _ => trivial
  | .arr values, h => properItems values h
  | .obj fields, h => by
    refine ⟨?_, properFields fields h.2⟩
    rw [toFields_eq, List.map_map]
    have hmap := h.1.map ofString_injective
    rwa [List.map_map] at hmap

theorem properItems : (values : List Json) → ItemsHaveKeysOnce values → ProperAll (toItems values)
  | [], _ => trivial
  | value :: rest, h => ⟨Json.HasKeysOnce.proper value h.1, properItems rest h.2⟩

theorem properFields : (fields : List (String × Json)) → FieldsHaveKeysOnce fields →
    ProperFields (toFields fields)
  | [], _ => trivial
  | (_, value) :: rest, h => ⟨Json.HasKeysOnce.proper value h.1, properFields rest h.2⟩

end

/-! ## 2. Texts of records -/

/-- The spelling tells all numbers apart. -/
structure IsExact (num : Numerals ℚ) : Prop where
  isFinite : ∀ x, num.isFinite x = true
  unsigned : num.unsigned = id

mutual

theorem finite_toValue {num : Numerals ℚ} (hnum : IsExact num) :
    (v : Json) → FiniteNumbers num v.toValue
  | .null | .bool _ | .str _ => trivial
  | .num x => hnum.isFinite x
  | .arr values => finite_toItems hnum values
  | .obj fields => finite_toFields hnum fields

theorem finite_toItems {num : Numerals ℚ} (hnum : IsExact num) :
    (values : List Json) → FiniteItems num (toItems values)
  | [] => trivial
  | value :: rest => ⟨finite_toValue hnum value, finite_toItems hnum rest⟩

theorem finite_toFields {num : Numerals ℚ} (hnum : IsExact num) :
    (fields : List (String × Json)) → FiniteFields num (toFields fields)
  | [] => trivial
  | (_, value) :: rest => ⟨finite_toValue hnum value, finite_toFields hnum rest⟩

end

/-- Records have one text when they are the same data. -/
theorem serialize_eq_iff {num : Numerals ℚ} (hnum : IsExact num) {v w : Json} (hv : v.HasKeysOnce) (hw : w.HasKeysOnce) :
    stableSerializeV3 num v.toValue = stableSerializeV3 num w.toValue ↔
      v.toValue.Same id w.toValue := by
  have hs := (stableSerialize_ok num v.toValue _).mpr ⟨finite_toValue hnum v, rfl⟩
  have ht := (stableSerialize_ok num w.toValue _).mpr ⟨finite_toValue hnum w, rfl⟩
  have hsame := stableSerialize_injective num (hv.proper) (hw.proper) hs ht
  rw [hnum.unsigned] at hsame
  rw [hs, ht, Except.ok.injEq, ← hsame, hnum.unsigned]

/-! ## 3. Data of one shape -/

/-- The same data, with the keys of each object in any order. -/
def SameData (v w : Json) : Prop := v.toValue.Same id w.toValue

/-- Records with the same keys in the same order are compared field by field. -/
theorem same_obj_iff {fields fields' : List (String × Json)}
    (hkeys : fields.map Prod.fst = fields'.map Prod.fst) (hnodup : (fields.map Prod.fst).Nodup) :
    SameData (.obj fields) (.obj fields') ↔
      ∀ pair ∈ fields.zip fields', SameData pair.1.2 pair.2.2 := by
  have hlength : fields.length = fields'.length := by simpa using congrArg List.length hkeys
  have hkey : ∀ pair ∈ fields.zip fields', pair.1.1 = pair.2.1 := by
    intro pair hpair
    obtain ⟨i, hi⟩ := List.mem_iff_getElem?.mp hpair
    obtain ⟨hfst, hsnd⟩ := List.getElem?_zip_eq_some.mp hi
    have hget := congrArg (·[i]?) hkeys
    simpa [hfst, hsnd] using hget
  unfold SameData
  rw [Json.toValue, Json.toValue, JsonValue.Same, sameFields_iff, toFields_eq, toFields_eq]
  constructor
  · rintro ⟨-, h⟩ pair hpair
    obtain ⟨hmem, hmem'⟩ := List.of_mem_zip hpair
    obtain ⟨value', hvalue', hsame⟩ := h _ (List.mem_map_of_mem hmem)
    obtain ⟨field', hfield', heq⟩ := List.mem_map.mp hvalue'
    obtain ⟨hname, rfl⟩ := Prod.mk.inj heq
    have hfields : field' = pair.2 := List.inj_on_of_nodup_map (hkeys ▸ hnodup) hfield' hmem'
      ((ofString_injective hname).trans (hkey pair hpair))
    rwa [hfields] at hsame
  · intro h
    refine ⟨by simpa using hlength, fun field hfield => ?_⟩
    obtain ⟨field, hmem, rfl⟩ := List.mem_map.mp hfield
    have hzip : field ∈ (fields.zip fields').map Prod.fst := by
      rwa [List.map_fst_zip hlength.le]
    obtain ⟨pair, hpair, rfl⟩ := List.mem_map.mp hzip
    refine ⟨pair.2.2.toValue, List.mem_map.mpr ⟨pair.2, (List.of_mem_zip hpair).2, ?_⟩, h pair hpair⟩
    rw [hkey pair hpair]

/-- Arrays of records are the same when their records are, one by one. -/
theorem same_arr_map {α β : Type} {f : α → Json} {key : α → β}
    (hf : ∀ a b, SameData (f a) (f b) ↔ key a = key b) (l l' : List α) :
    SameData (.arr (l.map f)) (.arr (l'.map f)) ↔ l.map key = l'.map key := by
  have hitems : SameAll id (toItems (l.map f)) (toItems (l'.map f)) ↔ l.map key = l'.map key := by
    induction l generalizing l' with
    | nil => cases l' <;> simp [toItems, SameAll]
    | cons a rest ih =>
      cases l' with
      | nil => simp [toItems, SameAll]
      | cons b rest' =>
        rw [List.map_cons, List.map_cons, toItems, toItems, SameAll, ih, List.map_cons, List.map_cons,
          List.cons.injEq]
        exact and_congr_left' (hf a b)
  exact hitems

/-! ## 4. A spelling of numbers -/

/-- Whole numbers by their digits, and fractions with their denominator. -/
def numberChars (x : ℚ) : List Char :=
  (if x.num < 0 then ['-'] else []) ++ Nat.toDigits 10 x.num.natAbs ++
    if x.den = 1 then [] else 'e' :: Nat.toDigits 10 x.den

theorem toDigits_isDigit {n : Nat} {c : Char} (hc : c ∈ Nat.toDigits 10 n) : c.isDigit = true :=
  Nat.isDigit_of_mem_toDigits (by norm_num) (by norm_num) hc

theorem toDigits_injective : Function.Injective (Nat.toDigits 10) := by
  intro m n h
  rw [← Nat.ofDigitChars_ten_toDigits (n := m), h, Nat.ofDigitChars_ten_toDigits]

/-- Digits are read until something else comes. -/
theorem digits_append {m : Nat} {rest : List Char}
    (hrest : ∀ c, rest.head? = some c → c.isDigit = false) :
    (Nat.toDigits 10 m ++ rest).takeWhile Char.isDigit = Nat.toDigits 10 m := by
  rw [List.takeWhile_append_of_pos fun c hc => toDigits_isDigit hc]
  cases rest with
  | nil => simp
  | cons c rest => rw [List.takeWhile_cons_of_neg (by simp [hrest c rfl]), List.append_nil]

theorem toDigits_append_inj {m n : Nat} {rest rest' : List Char}
    (hrest : ∀ c, rest.head? = some c → c.isDigit = false)
    (hrest' : ∀ c, rest'.head? = some c → c.isDigit = false)
    (h : Nat.toDigits 10 m ++ rest = Nat.toDigits 10 n ++ rest') : m = n ∧ rest = rest' := by
  have hdigits := congrArg (List.takeWhile Char.isDigit) h
  rw [digits_append hrest, digits_append hrest'] at hdigits
  obtain rfl := toDigits_injective hdigits
  exact ⟨rfl, List.append_cancel_left h⟩

theorem numberChars_injective : Function.Injective numberChars := by
  intro x y h
  -- the denominator starts with a letter
  have hends : ∀ z : ℚ, ∀ c, (if z.den = 1 then [] else 'e' :: Nat.toDigits 10 z.den).head? =
      some c → c.isDigit = false := by
    intro z c hc
    split at hc
    · cases hc
    · cases hc
      rfl
  have hparts : (x.num < 0 ↔ y.num < 0) ∧ x.num.natAbs = y.num.natAbs ∧
      (if x.den = 1 then [] else 'e' :: Nat.toDigits 10 x.den) =
        if y.den = 1 then [] else 'e' :: Nat.toDigits 10 y.den := by
    have hminus : ∀ {n : Nat} {rest rest' : List Char},
        '-' :: rest ≠ Nat.toDigits 10 n ++ rest' := by
      intro n rest rest' heq
      cases hdigits : Nat.toDigits 10 n with
      | nil => exact Nat.toDigits_ne_nil hdigits
      | cons c more =>
        have hc : c.isDigit = true := toDigits_isDigit (hdigits ▸ List.mem_cons_self)
        rw [hdigits, List.cons_append] at heq
        obtain ⟨rfl, -⟩ := List.cons.inj heq
        exact absurd hc (by decide)
    simp only [numberChars, List.append_assoc] at h
    by_cases hx : x.num < 0 <;> by_cases hy : y.num < 0 <;>
      simp only [hx, hy, if_true, if_false, List.nil_append, List.cons_append] at h ⊢
    · exact ⟨trivial, toDigits_append_inj (hends x) (hends y) (List.cons.inj h).2⟩
    · exact absurd h hminus
    · exact absurd h.symm hminus
    · exact ⟨trivial, toDigits_append_inj (hends x) (hends y) h⟩
  obtain ⟨hsign, habs, hden⟩ := hparts
  refine Rat.ext (by omega) ?_
  split at hden <;> split at hden
  · next hx hy => rw [hx, hy]
  · cases hden
  · cases hden
  · exact toDigits_injective (List.cons.inj hden).2

def plainNumerals : Numerals ℚ where
  isFinite _ := true
  unsigned := id
  text := numberChars
  unsigned_finite _ := rfl
  unsigned_unsigned _ := rfl
  text_ne_nil x _ h := by
    simp [numberChars, Nat.toDigits_ne_nil] at h
  text_numeral x _ c hc := by
    have hdigit : ∀ n, c ∈ Nat.toDigits 10 n → isNumeral c = true := fun n hn => by
      rw [isNumeral, toDigits_isDigit hn]
      rfl
    simp only [numberChars, List.mem_append] at hc
    rcases hc with (hc | hc) | hc
    · split at hc
      · rw [List.mem_singleton.mp hc]
        decide
      · cases hc
    · exact hdigit _ hc
    · split at hc
      · cases hc
      · rcases List.mem_cons.mp hc with rfl | hc
        · decide
        · exact hdigit _ hc
  text_injective _ _ _ _ h := numberChars_injective h

theorem plainNumerals_exact : IsExact plainNumerals := ⟨fun _ => rfl, rfl⟩

end SmartStay.Contract
