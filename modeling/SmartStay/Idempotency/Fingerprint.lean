import SmartStay.Lib.JsonText
import SmartStay.Lib.Sort
import SmartStay.Request.Structure
import SmartStay.Shared
import Mathlib.Data.List.Lex
import Mathlib.Data.List.Perm.Subperm

/-!
# Fingerprints of search payloads

`canonicalizeJsonValue` and `createSearchPayloadFingerprint` of
`server/storage/searchIdempotency.js`. A payload is a value that `JSON.parse` made, so the
branches for values that JSON does not have are left out. JSON has numerals for numbers that are
too large, which become infinite.

1. `canonicalObject`: assigning the sorted keys to a new object.
2. `canonicalizeJsonValue`, `createSearchPayloadFingerprint`.
3. `canonicalObject_eq_iff`: two objects are canonicalized alike when they have the same fields.
4. `canonicalize_eq_iff`: canonical forms are equal for the same data, and `canonicalize_plain`.
5. `fingerprint_eq_iff`: so are the fingerprints of accepted payloads.
-/

namespace SmartStay.Idempotency

open JsonValue JsonText JsSort Request

variable {ν δ : Type}

/-! ## 1. Objects -/

/-- A key that a new object takes as its prototype. -/
def protoKey : JsString := .ofString "__proto__"

/-- The number of a key that is an array index. -/
def arrayIndex? (key : JsString) : Option Nat :=
  if key ≠ [] ∧ key.all (fun u => 48 ≤ u.val && u.val ≤ 57) ∧ (key.length = 1 ∨ key.head? ≠ some 48)
  then
    let index := key.foldl (fun n u => 10 * n + (u.val - 48)) 0
    if index < 4294967295 then some index else none
  else none

/-- The order in which an object has the properties that were assigned to it: array indices come
first, in numeric order. -/
def propertyOrder (fields : List (JsString × JsonValue ν)) : List (JsString × JsonValue ν) :=
  sortBy (compareOn fun field => (arrayIndex? field.1).getD 0)
      (fields.filter fun field => (arrayIndex? field.1).isSome) ++
    fields.filter fun field => (arrayIndex? field.1).isNone

/-- The properties of `canonicalObject`: the keys are assigned one by one in the order of
`Object.keys(value).sort()`, and `__proto__` becomes no property. -/
def canonicalObject (fields : List (JsString × JsonValue ν)) : List (JsString × JsonValue ν) :=
  propertyOrder ((sortBy (compareOn Prod.fst) fields).filter fun field => field.1 ≠ protoKey)

/-! ## 2. Fingerprints -/

def idempotencyPayloadInvalid : StoreError :=
  { code := "IDEMPOTENCY_PAYLOAD_INVALID"
    message := "Hotel search payload is not valid JSON."
    status := 400 }

section
variable (num : Numerals ν)

mutual

def canonicalizeJsonValue : JsonValue ν → Except StoreError (JsonValue ν)
  | .null => .ok .null
  | .bool b => .ok (.bool b)
  | .num x =>
    if num.isFinite x then .ok (.num (num.unsigned x)) else .error idempotencyPayloadInvalid
  | .str s => .ok (.str s)
  | .arr items => do return .arr (← canonicalizeItems items)
  | .obj fields => do return .obj (canonicalObject (← canonicalizeFields fields))

def canonicalizeItems : List (JsonValue ν) → Except StoreError (List (JsonValue ν))
  | [] => .ok []
  | item :: rest => do
    let item ← canonicalizeJsonValue item
    return item :: (← canonicalizeItems rest)

/-- The values of the properties. Only one error can be thrown, so the order in which they are
canonicalized plays no part. -/
def canonicalizeFields :
    List (JsString × JsonValue ν) → Except StoreError (List (JsString × JsonValue ν))
  | [] => .ok []
  | (key, propertyValue) :: rest => do
    let value ← canonicalizeJsonValue propertyValue
    return (key, value) :: (← canonicalizeFields rest)

end

def createSearchPayloadFingerprint (sha256 : List Char → δ) (payload : JsonValue ν) :
    Except StoreError δ := do
  return sha256 (text num (← canonicalizeJsonValue num payload))

end

/-! ## 3. Fields -/

theorem propertyOrder_perm (fields : List (JsString × JsonValue ν)) :
    (propertyOrder fields).Perm fields := by
  refine ((sortBy_perm _ _).append_right _).trans ?_
  have hnone : (fun field : JsString × JsonValue ν => (arrayIndex? field.1).isNone) =
      fun field => !(arrayIndex? field.1).isSome := by
    funext field
    cases arrayIndex? field.1 <;> rfl
  rw [hnone]
  exact List.filter_append_perm _ fields

/-- Without the key of the prototype all fields are assigned. -/
theorem canonicalObject_perm {fields : List (JsString × JsonValue ν)}
    (hproto : ∀ field ∈ fields, field.1 ≠ protoKey) : (canonicalObject fields).Perm fields := by
  refine (propertyOrder_perm _).trans ?_
  rw [List.filter_eq_self.mpr]
  · exact sortBy_perm _ fields
  · intro field hfield
    exact decide_eq_true (hproto field (mem_sortBy.mp hfield))

theorem mem_canonicalObject {fields : List (JsString × JsonValue ν)}
    {field : JsString × JsonValue ν} (h : field ∈ canonicalObject fields) : field ∈ fields := by
  have hmem := (propertyOrder_perm _).mem_iff.mp h
  exact mem_sortBy.mp (List.mem_filter.mp hmem).1

/-- Sorting makes the order in which the fields were given irrelevant. -/
theorem canonicalObject_congr {fields fields' : List (JsString × JsonValue ν)}
    (hkeys : (fields.map Prod.fst).Nodup) (h : fields.Perm fields') :
    canonicalObject fields = canonicalObject fields' := by
  unfold canonicalObject
  rw [sortBy_eq_of_perm h]
  rw [List.Nodup, List.pairwise_map] at hkeys
  exact hkeys.imp fun hne heq => hne (Std.LawfulEqOrd.eq_of_compare heq)

theorem canonicalObject_eq_iff {fields fields' : List (JsString × JsonValue ν)}
    (hkeys : (fields.map Prod.fst).Nodup) (hproto : ∀ field ∈ fields, field.1 ≠ protoKey)
    (hproto' : ∀ field ∈ fields', field.1 ≠ protoKey) :
    canonicalObject fields = canonicalObject fields' ↔
      fields.length = fields'.length ∧ ∀ field ∈ fields, field ∈ fields' := by
  have hnodup : fields.Nodup := List.Nodup.of_map _ hkeys
  constructor
  · intro h
    have hperm : fields.Perm fields' :=
      (canonicalObject_perm hproto).symm.trans (h ▸ canonicalObject_perm hproto')
    exact ⟨hperm.length_eq, fun field hfield => hperm.mem_iff.mp hfield⟩
  · rintro ⟨hlength, hmem⟩
    have hsub : fields.Subperm fields' := hnodup.subperm hmem
    exact canonicalObject_congr hkeys (hsub.perm_of_length_le hlength.ge)

/-! ## 4. Canonical forms -/

variable {num : Numerals ν}

/-- The fields of a canonical object are the canonical forms of the fields. -/
theorem mem_canonicalizeFields {fields fs : List (JsString × JsonValue ν)}
    (h : canonicalizeFields num fields = .ok fs) {key : JsString} {a : JsonValue ν} :
    (key, a) ∈ fs ↔ ∃ value, (key, value) ∈ fields ∧ canonicalizeJsonValue num value = .ok a := by
  induction fields generalizing fs with
  | nil =>
    cases h
    simp
  | cons field rest ih =>
    obtain ⟨value, hvalue, h⟩ := Fallible.bind_ok.mp h
    obtain ⟨rest', hrest, h⟩ := Fallible.bind_ok.mp h
    cases h
    simp only [List.mem_cons, Prod.mk.injEq, ih hrest]
    constructor
    · rintro (⟨rfl, rfl⟩ | ⟨v, hmem, hv⟩)
      · exact ⟨field.2, .inl rfl, hvalue⟩
      · exact ⟨v, .inr hmem, hv⟩
    · rintro ⟨v, rfl | hmem, hv⟩
      · exact .inl ⟨rfl, Except.ok.inj (hv.symm.trans hvalue)⟩
      · exact .inr ⟨v, hmem, hv⟩

/-- Canonical fields come from fields that all have a canonical form. -/
theorem canonicalizeFields_total {fields fs : List (JsString × JsonValue ν)}
    (h : canonicalizeFields num fields = .ok fs) {field : JsString × JsonValue ν}
    (hfield : field ∈ fields) : ∃ a, canonicalizeJsonValue num field.2 = .ok a := by
  induction fields generalizing fs with
  | nil => exact absurd hfield List.not_mem_nil
  | cons head rest ih =>
    obtain ⟨value, hvalue, h⟩ := Fallible.bind_ok.mp h
    obtain ⟨rest', hrest, -⟩ := Fallible.bind_ok.mp h
    rcases List.mem_cons.mp hfield with rfl | hfield
    · exact ⟨value, hvalue⟩
    · exact ih hrest hfield

theorem canonicalizeFields_keys {fields fs : List (JsString × JsonValue ν)}
    (h : canonicalizeFields num fields = .ok fs) : fs.map Prod.fst = fields.map Prod.fst := by
  induction fields generalizing fs with
  | nil =>
    cases h
    rfl
  | cons field rest ih =>
    obtain ⟨value, -, h⟩ := Fallible.bind_ok.mp h
    obtain ⟨rest', hrest, h⟩ := Fallible.bind_ok.mp h
    cases h
    rw [List.map_cons, List.map_cons, ih hrest]

/-- No canonical field has a reserved key. -/
theorem canonicalizeFields_not_proto {fields fs : List (JsString × JsonValue ν)}
    (h : canonicalizeFields num fields = .ok fs) (hreserved : NoReservedFields fields) :
    ∀ field ∈ fs, field.1 ≠ protoKey := by
  rintro ⟨key, a⟩ hfield rfl
  obtain ⟨value, hmem, -⟩ := (mem_canonicalizeFields h).mp hfield
  exact (noReservedFields_iff.mp hreserved _ hmem).1 List.mem_cons_self

theorem canonicalize_kind {v a : JsonValue ν} (h : canonicalizeJsonValue num v = .ok a) :
    kind a = kind v := by
  cases v with
  | null => cases h; rfl
  | bool b => cases h; rfl
  | num x =>
    rw [canonicalizeJsonValue] at h
    split at h <;> cases h
    rfl
  | str s => cases h; rfl
  | arr items =>
    obtain ⟨_, -, h⟩ := Fallible.bind_ok.mp h
    cases h
    rfl
  | obj fields =>
    obtain ⟨_, -, h⟩ := Fallible.bind_ok.mp h
    cases h
    rfl

theorem same_kind {v w : JsonValue ν} (h : v.Same num.unsigned w) : kind v = kind w := by
  rcases v with _ | b | _ | _ | _ | _ <;> rcases w with _ | b' | _ | _ | _ | _ <;>
    first | rfl | exact h.elim | skip
  obtain rfl : b = b' := h
  rfl

/-- Values of two kinds are neither the same nor canonicalized alike. -/
theorem eq_iff_of_kind {v w a b : JsonValue ν} (hkind : kind v ≠ kind w)
    (ha : canonicalizeJsonValue num v = .ok a) (hb : canonicalizeJsonValue num w = .ok b) :
    a = b ↔ v.Same num.unsigned w := by
  have hne : a ≠ b := by
    rintro rfl
    exact hkind ((canonicalize_kind ha).symm.trans (canonicalize_kind hb))
  exact ⟨fun h => absurd h hne, fun h => absurd (same_kind h) hkind⟩

mutual

/-- Canonical forms are equal when the values are the same up to the order of keys. -/
theorem canonicalize_eq_iff : (v w : JsonValue ν) → v.Proper → w.Proper → NoReservedKeys v →
    NoReservedKeys w → (a b : JsonValue ν) → canonicalizeJsonValue num v = .ok a →
    canonicalizeJsonValue num w = .ok b → (a = b ↔ v.Same num.unsigned w)
  | .null, w, hv, hw, hr, hr', a, b, ha, hb => by
    by_cases hkind : kind (.null : JsonValue ν) = kind w
    · rcases w with _ | ⟨_ | _⟩ | _ | _ | _ | _ <;> try (simp [kind] at hkind; done)
      cases ha
      cases hb
      exact iff_of_true rfl trivial
    · exact eq_iff_of_kind hkind ha hb
  | .bool x, w, hv, hw, hr, hr', a, b, ha, hb => by
    cases ha
    rcases w with _ | y | _ | _ | _ | _
    case bool =>
      cases hb
      rw [JsonValue.bool.injEq, Same]
    all_goals exact eq_iff_of_kind (by cases x <;> nofun) rfl hb
  | .num x, w, hv, hw, hr, hr', a, b, ha, hb => by
    by_cases hkind : kind (.num x) = kind w
    · rcases w with _ | ⟨_ | _⟩ | y | _ | _ | _ <;> try (simp [kind] at hkind; done)
      rw [canonicalizeJsonValue] at ha hb
      split at ha <;> cases ha
      split at hb <;> cases hb
      rw [JsonValue.num.injEq, Same]
    · exact eq_iff_of_kind hkind ha hb
  | .str s, w, hv, hw, hr, hr', a, b, ha, hb => by
    by_cases hkind : kind (.str s : JsonValue ν) = kind w
    · rcases w with _ | ⟨_ | _⟩ | _ | t | _ | _ <;> try (simp [kind] at hkind; done)
      cases ha
      cases hb
      rw [JsonValue.str.injEq, Same]
    · exact eq_iff_of_kind hkind ha hb
  | .arr items, w, hv, hw, hr, hr', a, b, ha, hb => by
    by_cases hkind : kind (.arr items) = kind w
    · rcases w with _ | ⟨_ | _⟩ | _ | _ | items' | _ <;> try (simp [kind] at hkind; done)
      obtain ⟨as, has, ha⟩ := Fallible.bind_ok.mp ha
      obtain ⟨bs, hbs, hb⟩ := Fallible.bind_ok.mp hb
      cases ha
      cases hb
      rw [JsonValue.arr.injEq, Same]
      exact canonicalizeItems_eq_iff items items' hv hw hr hr' as bs has hbs
    · exact eq_iff_of_kind hkind ha hb
  | .obj fields, w, hv, hw, hr, hr', a, b, ha, hb => by
    by_cases hkind : kind (.obj fields) = kind w
    · rcases w with _ | ⟨_ | _⟩ | _ | _ | _ | fields' <;> try (simp [kind] at hkind; done)
      obtain ⟨fs, hfs, ha⟩ := Fallible.bind_ok.mp ha
      obtain ⟨gs, hgs, hb⟩ := Fallible.bind_ok.mp hb
      cases ha
      cases hb
      have hnodup : (fs.map Prod.fst).Nodup := canonicalizeFields_keys hfs ▸ hv.1
      have hlength : fs.length = fields.length := by
        simpa using congrArg List.length (canonicalizeFields_keys hfs)
      have hlength' : gs.length = fields'.length := by
        simpa using congrArg List.length (canonicalizeFields_keys hgs)
      rw [JsonValue.obj.injEq, Same, canonicalObject_eq_iff hnodup
        (canonicalizeFields_not_proto hfs hr) (canonicalizeFields_not_proto hgs hr'), hlength,
        hlength', canonicalizeFields_subset_iff fields fields' hv.2 hw.2 hr hr' fs gs hfs hgs]
    · exact eq_iff_of_kind hkind ha hb

theorem canonicalizeItems_eq_iff : (items items' : List (JsonValue ν)) → ProperAll items →
    ProperAll items' → NoReservedItems items → NoReservedItems items' → (as bs : List (JsonValue ν)) →
    canonicalizeItems num items = .ok as → canonicalizeItems num items' = .ok bs →
    (as = bs ↔ SameAll num.unsigned items items')
  | [], [], _, _, _, _, as, bs, has, hbs => by
    cases has
    cases hbs
    exact iff_of_true rfl trivial
  | [], item' :: rest', _, _, _, _, as, bs, has, hbs => by
    obtain ⟨_, -, hbs⟩ := Fallible.bind_ok.mp hbs
    obtain ⟨_, -, hbs⟩ := Fallible.bind_ok.mp hbs
    cases has
    cases hbs
    exact iff_of_false nofun id
  | item :: rest, [], _, _, _, _, as, bs, has, hbs => by
    obtain ⟨_, -, has⟩ := Fallible.bind_ok.mp has
    obtain ⟨_, -, has⟩ := Fallible.bind_ok.mp has
    cases has
    cases hbs
    exact iff_of_false nofun id
  | item :: rest, item' :: rest', hp, hp', hr, hr', as, bs, has, hbs => by
    obtain ⟨a, ha, has⟩ := Fallible.bind_ok.mp has
    obtain ⟨as', has', has⟩ := Fallible.bind_ok.mp has
    obtain ⟨b, hb, hbs⟩ := Fallible.bind_ok.mp hbs
    obtain ⟨bs', hbs', hbs⟩ := Fallible.bind_ok.mp hbs
    cases has
    cases hbs
    rw [List.cons.injEq, SameAll, canonicalize_eq_iff item item' hp.1 hp'.1 hr.1 hr'.1 a b ha hb,
      canonicalizeItems_eq_iff rest rest' hp.2 hp'.2 hr.2 hr'.2 as' bs' has' hbs']

/-- Canonical fields are among others when each field has its like there. -/
theorem canonicalizeFields_subset_iff : (fields fields' : List (JsString × JsonValue ν)) →
    ProperFields fields → ProperFields fields' → NoReservedFields fields → NoReservedFields fields' →
    (fs gs : List (JsString × JsonValue ν)) → canonicalizeFields num fields = .ok fs →
    canonicalizeFields num fields' = .ok gs →
    ((∀ field ∈ fs, field ∈ gs) ↔ SameFields num.unsigned fields fields')
  | [], fields', _, _, _, _, fs, gs, hfs, hgs => by
    cases hfs
    exact iff_of_true nofun trivial
  | (key, value) :: rest, fields', hp, hp', hr, hr', fs, gs, hfs, hgs => by
    obtain ⟨a, ha, hfs⟩ := Fallible.bind_ok.mp hfs
    obtain ⟨rest', hrest, hfs⟩ := Fallible.bind_ok.mp hfs
    cases hfs
    have hvalue : ∀ value', (key, value') ∈ fields' → ∀ b, canonicalizeJsonValue num value' = .ok b →
        (a = b ↔ value.Same num.unsigned value') := fun value' hmem b hb =>
      canonicalize_eq_iff value value' hp.1 (properFields_iff.mp hp' _ hmem) hr.2.1
        (noReservedFields_iff.mp hr' _ hmem).2 a b ha hb
    have hhead : (key, a) ∈ gs ↔
        ∃ value', (key, value') ∈ fields' ∧ value.Same num.unsigned value' := by
      rw [mem_canonicalizeFields hgs]
      constructor
      · rintro ⟨value', hmem, hb⟩
        exact ⟨value', hmem, (hvalue value' hmem a hb).mp rfl⟩
      · rintro ⟨value', hmem, hsame⟩
        obtain ⟨b, hb⟩ := canonicalizeFields_total hgs hmem
        exact ⟨value', hmem, (hvalue value' hmem b hb).mpr hsame ▸ hb⟩
    rw [List.forall_mem_cons, SameFields, hhead,
      canonicalizeFields_subset_iff rest fields' hp.2 hp' hr.2.2 hr' rest' gs hrest hgs]

end

theorem plainFields_iff {fields : List (JsString × JsonValue ν)} :
    PlainFields num fields ↔ ∀ field ∈ fields, Plain num field.2 := by
  induction fields with
  | nil => simp [PlainFields]
  | cons field rest ih => rw [PlainFields, List.forall_mem_cons, ih]

mutual

/-- A value with finite numbers has a canonical form, and no other one has. -/
theorem canonicalize_ok_iff : (v : JsonValue ν) →
    ((∃ a, canonicalizeJsonValue num v = .ok a) ↔ FiniteNumbers num v)
  | .null | .bool _ | .str _ => iff_of_true ⟨_, rfl⟩ trivial
  | .num x => by
    rw [canonicalizeJsonValue, FiniteNumbers]
    cases num.isFinite x <;> simp
  | .arr items => by
    rw [FiniteNumbers, ← canonicalizeItems_ok_iff items]
    constructor
    · rintro ⟨_, h⟩
      obtain ⟨as, has, -⟩ := Fallible.bind_ok.mp h
      exact ⟨as, has⟩
    · rintro ⟨as, has⟩
      exact ⟨_, Fallible.bind_ok.mpr ⟨as, has, rfl⟩⟩
  | .obj fields => by
    rw [FiniteNumbers, ← canonicalizeFields_ok_iff fields]
    constructor
    · rintro ⟨_, h⟩
      obtain ⟨fs, hfs, -⟩ := Fallible.bind_ok.mp h
      exact ⟨fs, hfs⟩
    · rintro ⟨fs, hfs⟩
      exact ⟨_, Fallible.bind_ok.mpr ⟨fs, hfs, rfl⟩⟩

theorem canonicalizeItems_ok_iff : (items : List (JsonValue ν)) →
    ((∃ as, canonicalizeItems num items = .ok as) ↔ FiniteItems num items)
  | [] => iff_of_true ⟨_, rfl⟩ trivial
  | item :: rest => by
    rw [FiniteItems, ← canonicalize_ok_iff item, ← canonicalizeItems_ok_iff rest]
    constructor
    · rintro ⟨_, h⟩
      obtain ⟨a, ha, h⟩ := Fallible.bind_ok.mp h
      obtain ⟨as, has, -⟩ := Fallible.bind_ok.mp h
      exact ⟨⟨a, ha⟩, as, has⟩
    · rintro ⟨⟨a, ha⟩, as, has⟩
      exact ⟨_, Fallible.bind_ok.mpr ⟨a, ha, Fallible.bind_ok.mpr ⟨as, has, rfl⟩⟩⟩

theorem canonicalizeFields_ok_iff : (fields : List (JsString × JsonValue ν)) →
    ((∃ fs, canonicalizeFields num fields = .ok fs) ↔ FiniteFields num fields)
  | [] => iff_of_true ⟨_, rfl⟩ trivial
  | (key, value) :: rest => by
    rw [FiniteFields, ← canonicalize_ok_iff value, ← canonicalizeFields_ok_iff rest]
    constructor
    · rintro ⟨_, h⟩
      obtain ⟨a, ha, h⟩ := Fallible.bind_ok.mp h
      obtain ⟨fs, hfs, -⟩ := Fallible.bind_ok.mp h
      exact ⟨⟨a, ha⟩, fs, hfs⟩
    · rintro ⟨⟨a, ha⟩, fs, hfs⟩
      exact ⟨_, Fallible.bind_ok.mpr ⟨a, ha, Fallible.bind_ok.mpr ⟨fs, hfs, rfl⟩⟩⟩

end

mutual

/-- Canonical numbers are finite and have no sign of zero. -/
theorem canonicalize_plain : (v a : JsonValue ν) → canonicalizeJsonValue num v = .ok a →
    Plain num a
  | .null, a, h => by
    cases h
    trivial
  | .bool _, a, h => by
    cases h
    trivial
  | .str _, a, h => by
    cases h
    trivial
  | .num x, a, h => by
    rw [canonicalizeJsonValue] at h
    split at h <;> cases h
    rename_i hfinite
    exact ⟨(num.unsigned_finite x).trans hfinite, num.unsigned_unsigned x⟩
  | .arr items, a, h => by
    obtain ⟨as, has, h⟩ := Fallible.bind_ok.mp h
    cases h
    exact canonicalizeItems_plain items as has
  | .obj fields, a, h => by
    obtain ⟨fs, hfs, h⟩ := Fallible.bind_ok.mp h
    cases h
    have hplain := plainFields_iff.mp (canonicalizeFields_plain fields fs hfs)
    exact plainFields_iff.mpr fun field hfield => hplain field (mem_canonicalObject hfield)

theorem canonicalizeItems_plain : (items as : List (JsonValue ν)) →
    canonicalizeItems num items = .ok as → PlainAll num as
  | [], as, h => by
    cases h
    trivial
  | item :: rest, as, h => by
    obtain ⟨a, ha, h⟩ := Fallible.bind_ok.mp h
    obtain ⟨as', has', h⟩ := Fallible.bind_ok.mp h
    cases h
    exact ⟨canonicalize_plain item a ha, canonicalizeItems_plain rest as' has'⟩

theorem canonicalizeFields_plain : (fields fs : List (JsString × JsonValue ν)) →
    canonicalizeFields num fields = .ok fs → PlainFields num fs
  | [], fs, h => by
    cases h
    trivial
  | (key, value) :: rest, fs, h => by
    obtain ⟨a, ha, h⟩ := Fallible.bind_ok.mp h
    obtain ⟨fs', hfs', h⟩ := Fallible.bind_ok.mp h
    cases h
    exact ⟨canonicalize_plain value a ha, canonicalizeFields_plain rest fs' hfs'⟩

end

/-! ## 5. Fingerprints identify payloads -/

/-- A payload that the structure check accepts has a fingerprint when its numbers are finite, and
two fingerprints are equal exactly when the payloads are the same up to the order of keys and the
sign of zero. -/
theorem fingerprint_eq_iff (num : Numerals ν) (sha256 : List Char → δ)
    (hsha : Function.Injective sha256) (payload payload' : JsonValue ν)
    (hproper : payload.Proper) (hproper' : payload'.Proper)
    (hsafe : assertSafeStructure (.ofString "body") 0 payload = .ok ())
    (hsafe' : assertSafeStructure (.ofString "body") 0 payload' = .ok ()) :
    ((∃ d, createSearchPayloadFingerprint num sha256 payload = .ok d) ↔
      FiniteNumbers num payload) ∧
    ∀ d d', createSearchPayloadFingerprint num sha256 payload = .ok d →
      createSearchPayloadFingerprint num sha256 payload' = .ok d' →
      (d = d' ↔ payload.Same num.unsigned payload') := by
  constructor
  · rw [← canonicalize_ok_iff payload]
    constructor
    · rintro ⟨_, h⟩
      obtain ⟨a, ha, -⟩ := Fallible.bind_ok.mp h
      exact ⟨a, ha⟩
    · rintro ⟨a, ha⟩
      exact ⟨_, Fallible.bind_ok.mpr ⟨a, ha, rfl⟩⟩
  · intro d d' h h'
    obtain ⟨a, ha, h⟩ := Fallible.bind_ok.mp h
    obtain ⟨b, hb, h'⟩ := Fallible.bind_ok.mp h'
    cases h
    cases h'
    rw [← canonicalize_eq_iff payload payload' hproper hproper'
      (assertSafeStructure_keys payload _ _ hsafe) (assertSafeStructure_keys payload' _ _ hsafe')
      a b ha hb]
    constructor
    · intro hdigest
      exact text_injective num (canonicalize_plain payload a ha) (canonicalize_plain payload' b hb)
        (hsha hdigest)
    · rintro rfl
      rfl

/-- A digit, a zero with a sign, and a numeral that is too large. -/
inductive Digit
  | minusZero
  | digit (d : Fin 10)
  | infinite
deriving DecidableEq

/-- The spelling of digits. -/
def digitNumerals : Numerals Digit where
  isFinite x := x ≠ .infinite
  unsigned
    | .minusZero => .digit 0
    | x => x
  text
    | .minusZero => ['0']
    | .digit d => [Char.ofNat (48 + d.val)]
    | .infinite => []
  unsigned_finite x := by cases x <;> rfl
  unsigned_unsigned x := by cases x <;> rfl
  text_ne_nil x h := by cases x <;> simp at h ⊢
  text_numeral x h := by
    rcases x with _ | d | _
    · exact List.all_eq_true.mp (by decide)
    · refine List.all_eq_true.mp ?_
      revert d
      decide
    · simp at h
  text_injective x y hx hy h := by
    rcases x with _ | d | _ <;> rcases y with _ | e | _
    · rfl
    · revert e
      decide
    · simp at hy
    · revert d
      decide
    · revert d e
      decide
    · simp at hy
    all_goals simp at hx

/-- Two objects with their keys in another order. -/
theorem fingerprint_eq_iff_reordered :
    let payload : JsonValue Digit := .obj [(.ofString "b", .num .minusZero),
      (.ofString "a", .arr [.null, .str (.ofString "1")])]
    let payload' : JsonValue Digit := .obj [(.ofString "a", .arr [.null, .str (.ofString "1")]),
      (.ofString "b", .num (.digit 0))]
    ((∃ d, createSearchPayloadFingerprint digitNumerals id payload = .ok d) ↔
      FiniteNumbers digitNumerals payload) ∧
    ∀ d d', createSearchPayloadFingerprint digitNumerals id payload = .ok d →
      createSearchPayloadFingerprint digitNumerals id payload' = .ok d' →
      (d = d' ↔ payload.Same digitNumerals.unsigned payload') :=
  fingerprint_eq_iff digitNumerals id Function.injective_id _ _ ⟨by decide, trivial, by
    simp [ProperAll, Proper], trivial⟩ ⟨by decide, by simp [ProperAll, Proper], trivial, trivial⟩
    (by rfl) (by rfl)

end SmartStay.Idempotency
