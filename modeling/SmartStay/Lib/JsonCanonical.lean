import SmartStay.Lib.JsonText
import SmartStay.Lib.Sort
import Mathlib.Data.List.Lex
import Mathlib.Data.List.Perm.Subperm

/-!
# Canonical JSON values

The same data with the keys of every object in order and every number without the sign of zero.

1. `canonical`.
2. `sorted_eq_iff`, `canonical_eq_iff`: canonical values are equal for the same data.
3. `canonical_plain`: the text of a canonical value is of this value only.
-/

namespace JsonValue

open JsonText JsSort

variable {ν : Type}

/-! ## 1. Canonical values -/

section
variable (unsigned : ν → ν)

mutual

def canonical : JsonValue ν → JsonValue ν
  | .null => .null
  | .bool b => .bool b
  | .num x => .num (unsigned x)
  | .str s => .str s
  | .arr items => .arr (canonicalItems items)
  | .obj fields => .obj (sortBy (compareOn Prod.fst) (canonicalFields fields))

def canonicalItems : List (JsonValue ν) → List (JsonValue ν)
  | [] => []
  | item :: rest => item.canonical :: canonicalItems rest

def canonicalFields : List (JsString × JsonValue ν) → List (JsString × JsonValue ν)
  | [] => []
  | (key, value) :: rest => (key, value.canonical) :: canonicalFields rest

end

theorem canonicalFields_eq (fields : List (JsString × JsonValue ν)) :
    canonicalFields unsigned fields = fields.map fun field => (field.1, field.2.canonical unsigned) := by
  induction fields with
  | nil => rfl
  | cons field rest ih => rw [canonicalFields, ih, List.map_cons]

theorem canonicalFields_keys (fields : List (JsString × JsonValue ν)) :
    (canonicalFields unsigned fields).map Prod.fst = fields.map Prod.fst := by
  rw [canonicalFields_eq, List.map_map]
  rfl

/-! ## 2. Equal canonical values -/

/-- Sorted by distinct keys, two lists of fields are equal when one has the fields of the other. -/
theorem sorted_eq_iff {β : Type} {fields fields' : List (JsString × β)}
    (hkeys : (fields.map Prod.fst).Nodup) :
    sortBy (compareOn Prod.fst) fields = sortBy (compareOn Prod.fst) fields' ↔
      fields.length = fields'.length ∧ ∀ field ∈ fields, field ∈ fields' := by
  have hnodup : fields.Nodup := List.Nodup.of_map _ hkeys
  constructor
  · intro h
    have hperm : fields.Perm fields' :=
      (sortBy_perm _ fields).symm.trans (h ▸ sortBy_perm _ fields')
    exact ⟨hperm.length_eq, fun field hfield => hperm.mem_iff.mp hfield⟩
  · rintro ⟨hlength, hmem⟩
    have hsub : fields.Subperm fields' := hnodup.subperm hmem
    refine sortBy_eq_of_perm (hsub.perm_of_length_le hlength.ge) ?_
    rw [List.Nodup, List.pairwise_map] at hkeys
    exact hkeys.imp fun hne heq => hne (Std.LawfulEqOrd.eq_of_compare heq)

variable {unsigned}

mutual

theorem canonical_eq_iff : (v w : JsonValue ν) → v.Proper → w.Proper →
    (v.canonical unsigned = w.canonical unsigned ↔ v.Same unsigned w)
  | .null, w, _, _ => by cases w <;> simp [canonical, Same]
  | .bool b, w, _, _ => by cases w <;> simp [canonical, Same]
  | .num x, w, _, _ => by cases w <;> simp [canonical, Same]
  | .str s, w, _, _ => by cases w <;> simp [canonical, Same]
  | .arr items, w, hv, hw => by
    cases w with
    | arr items' => rw [canonical, canonical, Same, arr.injEq, canonicalItems_eq_iff items items' hv hw]
    | _ => simp [canonical, Same]
  | .obj fields, w, hv, hw => by
    cases w with
    | obj fields' =>
      have hkeys : ((canonicalFields unsigned fields).map Prod.fst).Nodup :=
        canonicalFields_keys unsigned fields ▸ hv.1
      rw [canonical, canonical, Same, obj.injEq, sorted_eq_iff hkeys,
        canonicalFields_subset_iff fields fields' hv.2 hw.2, canonicalFields_eq, canonicalFields_eq,
        List.length_map, List.length_map]
    | _ => simp [canonical, Same]

theorem canonicalItems_eq_iff : (items items' : List (JsonValue ν)) → ProperAll items →
    ProperAll items' →
    (canonicalItems unsigned items = canonicalItems unsigned items' ↔ SameAll unsigned items items')
  | [], [], _, _ => by simp [canonicalItems, SameAll]
  | [], _ :: _, _, _ => by simp [canonicalItems, SameAll]
  | _ :: _, [], _, _ => by simp [canonicalItems, SameAll]
  | item :: rest, item' :: rest', h, h' => by
    rw [canonicalItems, canonicalItems, List.cons.injEq, SameAll, canonical_eq_iff item item' h.1 h'.1,
      canonicalItems_eq_iff rest rest' h.2 h'.2]

theorem canonicalFields_subset_iff : (fields fields' : List (JsString × JsonValue ν)) →
    ProperFields fields → ProperFields fields' →
    ((∀ field ∈ canonicalFields unsigned fields, field ∈ canonicalFields unsigned fields') ↔
      SameFields unsigned fields fields')
  | [], fields', _, _ => by simp [canonicalFields, SameFields]
  | (key, value) :: rest, fields', h, h' => by
    have hhead : (key, value.canonical unsigned) ∈ canonicalFields unsigned fields' ↔
        ∃ value', (key, value') ∈ fields' ∧ value.Same unsigned value' := by
      rw [canonicalFields_eq, List.mem_map]
      constructor
      · rintro ⟨⟨key', value'⟩, hmem, heq⟩
        obtain ⟨rfl, hvalue⟩ := Prod.mk.inj heq
        exact ⟨value', hmem,
          (canonical_eq_iff value value' h.1 (properFields_iff.mp h' _ hmem)).mp hvalue.symm⟩
      · rintro ⟨value', hmem, hsame⟩
        have hvalue := (canonical_eq_iff value value' h.1 (properFields_iff.mp h' _ hmem)).mpr hsame
        exact ⟨(key, value'), hmem, by rw [hvalue]⟩
    rw [canonicalFields, List.forall_mem_cons, SameFields, hhead,
      canonicalFields_subset_iff rest fields' h.2 h']

end

/-! ## 3. Texts of canonical values -/

end

section
variable {num : Numerals ν}

theorem plainFields_iff {fields : List (JsString × JsonValue ν)} :
    PlainFields num fields ↔ ∀ field ∈ fields, Plain num field.2 := by
  induction fields with
  | nil => simp [PlainFields]
  | cons field rest ih => rw [PlainFields, List.forall_mem_cons, ih]

mutual

/-- Canonical numbers have no sign of zero. -/
theorem canonical_plain : (v : JsonValue ν) → FiniteNumbers num v →
    Plain num (v.canonical num.unsigned)
  | .null, _ | .bool _, _ | .str _, _ => trivial
  | .num x, h => ⟨(num.unsigned_finite x).trans h, num.unsigned_unsigned x⟩
  | .arr items, h => canonicalItems_plain items h
  | .obj fields, h => by
    have hplain := plainFields_iff.mp (canonicalFields_plain fields h)
    exact plainFields_iff.mpr fun field hfield => hplain field (mem_sortBy.mp hfield)

theorem canonicalItems_plain : (items : List (JsonValue ν)) → FiniteItems num items →
    PlainAll num (canonicalItems num.unsigned items)
  | [], _ => trivial
  | item :: rest, h => ⟨canonical_plain item h.1, canonicalItems_plain rest h.2⟩

theorem canonicalFields_plain : (fields : List (JsString × JsonValue ν)) → FiniteFields num fields →
    PlainFields num (canonicalFields num.unsigned fields)
  | [], _ => trivial
  | (_, value) :: rest, h => ⟨canonical_plain value h.1, canonicalFields_plain rest h.2⟩

end

end

end JsonValue
