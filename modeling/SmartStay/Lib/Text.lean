import Mathlib.Data.List.Sort
import Mathlib.Data.List.Dedup
import Mathlib.Data.List.DropRight
import Mathlib.Data.List.Lex

/-!
# JavaScript text

`String.prototype.trim`, the tests on ASCII text that request checks are made of, and the
order in which `<` puts two texts.

1. `utf16`, `utf16_injective`: the code units of a text determine it.
2. `sortTexts`, `uniqueSorted`: sorting by that order.
-/

namespace JsText

/-- The white space and line terminators that `trim` removes. -/
def isSpace (c : Char) : Bool :=
  (9 ≤ c.val && c.val ≤ 13) || c.val == 0x20 || c.val == 0xA0 || c.val == 0x1680 ||
  (0x2000 ≤ c.val && c.val ≤ 0x200A) || c.val == 0x2028 || c.val == 0x2029 ||
  c.val == 0x202F || c.val == 0x205F || c.val == 0x3000 || c.val == 0xFEFF

/-- `text.trim()`. -/
def trim (text : String) : String :=
  String.ofList ((text.toList.dropWhile isSpace).reverse.dropWhile isSpace).reverse

/-- A list without the elements of a kind at both ends. -/
def trimList {α : Type} (p : α → Bool) (l : List α) : List α := (l.dropWhile p).rdropWhile p

theorem trimList_trimList {α : Type} (p : α → Bool) (l : List α) :
    trimList p (trimList p l) = trimList p l := by
  -- what is left after both ends were trimmed starts like what is left of the start
  have hstart : ((l.dropWhile p).rdropWhile p).dropWhile p = (l.dropWhile p).rdropWhile p := by
    have hfront := List.rdropWhile_prefix p (l := l.dropWhile p)
    have hidem := List.dropWhile_idempotent (p := p) l
    rw [List.dropWhile_eq_self_iff] at hidem ⊢
    intro hl
    rw [hfront.getElem hl]
    exact hidem (hl.trans_le hfront.length_le)
  unfold trimList
  rw [hstart, List.rdropWhile_idempotent]

theorem trim_trim (text : String) : trim (trim text) = trim text := by
  have htrim : ∀ t : String, trim t = String.ofList (trimList isSpace t.toList) := fun _ => rfl
  rw [htrim (trim text), htrim text, String.toList_ofList, trimList_trimList]

/-- `text.toLowerCase()` on ASCII letters. -/
def toLowerCase (text : String) : String := String.ofList (text.toList.map Char.toLower)

/-- `replace(/\s+/g, " ")`: every run of white space becomes one blank. -/
def collapseSpaces : List Char → List Char
  | [] => []
  | c :: rest =>
    if !isSpace c then c :: collapseSpaces rest
    else if (rest.head?).any isSpace then collapseSpaces rest
    else ' ' :: collapseSpaces rest

/-- A character of `[a-f0-9]`. -/
def isLowerHex (c : Char) : Bool := c.isDigit || ('a' ≤ c && c ≤ 'f')

/-- A property of the first 103 characters is one of every hexadecimal digit. -/
theorem isLowerHex_of_small (p : Char → Prop)
    (hall : ∀ n < 103, isLowerHex (Char.ofNat n) = true → p (Char.ofNat n)) {c : Char}
    (h : isLowerHex c = true) : p c := by
  have hascii : c.toNat < 103 := by
    simp only [isLowerHex, Bool.or_eq_true, Bool.and_eq_true, decide_eq_true_eq] at h
    rcases h with hdigit | ⟨-, hle⟩
    · simp only [Char.isDigit, Bool.and_eq_true, decide_eq_true_eq] at hdigit
      exact Nat.lt_of_le_of_lt (show c.toNat ≤ '9'.toNat from hdigit.2) (by decide)
    · exact Nat.lt_of_le_of_lt (show c.toNat ≤ 'f'.toNat from hle) (by decide)
  have hchar := hall c.toNat hascii
  rw [Char.ofNat_toNat] at hchar
  exact hchar h

/-- A hexadecimal digit is not white space and is in lower case. -/
theorem isLowerHex_plain {c : Char} (h : isLowerHex c = true) :
    isSpace c = false ∧ c.toLower = c :=
  isLowerHex_of_small (fun c => isSpace c = false ∧ c.toLower = c) (by decide) h

theorem isLowerHex_alphanum {c : Char} (h : isLowerHex c = true) : c.isAlphanum = true :=
  isLowerHex_of_small (fun c => c.isAlphanum = true) (by decide) h

theorem trim_of_no_space {text : String} (h : ∀ c ∈ text.toList, isSpace c = false) :
    trim text = text := by
  have hid : ∀ l : List Char, (∀ c ∈ l, isSpace c = false) → l.dropWhile isSpace = l := by
    rintro (_ | ⟨c, l⟩) hl
    · rfl
    · rw [List.dropWhile_cons, hl c List.mem_cons_self, if_neg (by simp)]
  unfold trim
  rw [hid _ h, hid _ (by simpa using h), List.reverse_reverse, String.ofList_toList]

/-! ## 1. Code units -/

/-- The code units of a code point: one, or a surrogate pair. -/
def codeUnits (v : Nat) : List Nat :=
  if v < 0x10000 then [v]
  else [0xD800 + (v - 0x10000) / 0x400, 0xDC00 + (v - 0x10000) % 0x400]

/-- The UTF-16 code units of a text. -/
def utf16 (text : String) : List Nat := text.toList.flatMap fun c => codeUnits c.toNat

theorem toNat_lt (c : Char) : c.toNat < 0xD800 ∨ 0xDFFF < c.toNat ∧ c.toNat < 0x110000 := c.valid

/-- No code unit sequence of one character starts another. -/
theorem codeUnits_append {c d : Char} {rest rest' : List Nat}
    (h : codeUnits c.toNat ++ rest = codeUnits d.toNat ++ rest') : c = d ∧ rest = rest' := by
  have hc := toNat_lt c
  have hd := toNat_lt d
  have hval : c.toNat = d.toNat ∧ rest = rest' := by
    unfold codeUnits at h
    split at h <;> split at h <;> simp only [List.cons_append, List.nil_append, List.cons.injEq] at h
    · exact h
    · omega
    · omega
    · exact ⟨by omega, h.2.2⟩
  exact ⟨Char.toNat_inj.mp hval.1, hval.2⟩

theorem codeUnits_ne_nil (v : Nat) : codeUnits v ≠ [] := by
  unfold codeUnits
  split <;> simp

theorem utf16_injective : Function.Injective utf16 := by
  intro a b h
  have hlist : ∀ l l' : List Char, (l.flatMap fun c => codeUnits c.toNat) =
      (l'.flatMap fun c => codeUnits c.toNat) → l = l' := by
    intro l
    induction l with
    | nil =>
      rintro (_ | ⟨d, l'⟩) h
      · rfl
      · simp [codeUnits_ne_nil] at h
    | cons c l ih =>
      rintro (_ | ⟨d, l'⟩) h
      · simp [codeUnits_ne_nil] at h
      · obtain ⟨rfl, hrest⟩ := codeUnits_append (by simpa using h)
        rw [ih l' hrest]
  exact String.toList_inj.mp (hlist _ _ h)

/-! ## 2. The order of texts -/

/-- `first < second` does not hold the other way round. -/
def Le (first second : String) : Prop := utf16 first ≤ utf16 second

instance : DecidableRel Le := fun first second =>
  inferInstanceAs (Decidable (utf16 first ≤ utf16 second))

instance : Std.Total Le := ⟨fun _ _ => le_total (α := List Nat) _ _⟩
instance : IsTrans String Le := ⟨fun _ _ _ => le_trans (α := List Nat)⟩
instance : Std.Antisymm Le := ⟨fun _ _ h h' => utf16_injective (le_antisymm h h')⟩

/-- Texts are sorted in one way. -/
theorem insertionSort_eq_of_perm {l l' : List String} (h : l.Perm l') :
    l.insertionSort Le = l'.insertionSort Le :=
  List.Perm.eq_of_pairwise (fun _ _ _ _ hab hba => Std.Antisymm.antisymm _ _ hab hba)
    (List.pairwise_insertionSort _ l) (List.pairwise_insertionSort _ l')
    (((List.perm_insertionSort _ l).trans h).trans (List.perm_insertionSort _ l').symm)

/-- `[...new Set(values.filter(Boolean))].sort(compareStrings)`. -/
def uniqueSorted (values : List String) : List String :=
  (values.filter (· ≠ "")).dedup.insertionSort Le

@[simp] theorem mem_uniqueSorted {values : List String} {v : String} :
    v ∈ uniqueSorted values ↔ v ∈ values ∧ v ≠ "" := by
  simp [uniqueSorted]

end JsText
