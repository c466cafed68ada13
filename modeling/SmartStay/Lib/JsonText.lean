import SmartStay.Lib.JsonValue

/-!
# The text of a JSON value

`JSON.stringify`: strings are escaped, unpaired surrogates included, and the properties of an
object come in the order in which the object has them.

1. `escapeUnits`, `readString_escape`: an escaped string can be read back.
2. `Numerals`: the spelling of numbers.
3. `text`, `text_append`: no text of a value goes on as the text of another one.
-/

namespace JsonText

/-! ## 1. Strings -/

def hexDigit (n : Nat) : Char := Char.ofNat (if n < 10 then 48 + n else 87 + n)

def hexValue (c : Char) : Nat := if c.toNat < 58 then c.toNat - 48 else c.toNat - 87

theorem hexValue_hexDigit {n : Nat} (h : n < 16) : hexValue (hexDigit n) = n := by
  revert n
  decide

def isHighSurrogate (u : CodeUnit) : Bool := 0xD800 ≤ u.val && u.val ≤ 0xDBFF

def isLowSurrogate (u : CodeUnit) : Bool := 0xDC00 ≤ u.val && u.val ≤ 0xDFFF

def escapeHex (u : CodeUnit) : List Char :=
  ['\\', 'u', hexDigit (u.val / 4096), hexDigit (u.val / 256 % 16), hexDigit (u.val / 16 % 16),
    hexDigit (u.val % 16)]

/-- The letter after the backslash, of the code units that have one. -/
def shortEscape (u : CodeUnit) : Option Char :=
  if u.val = 0x22 then some '"'
  else if u.val = 0x5C then some '\\'
  else if u.val = 8 then some 'b'
  else if u.val = 9 then some 't'
  else if u.val = 10 then some 'n'
  else if u.val = 12 then some 'f'
  else if u.val = 13 then some 'r'
  else none

/-- A code unit that is not half of a pair. -/
def escapeUnit (u : CodeUnit) : List Char :=
  match shortEscape u with
  | some letter => ['\\', letter]
  | none =>
    if u.val < 32 || isHighSurrogate u || isLowSurrogate u then escapeHex u
    else [Char.ofNat u.val]

/-- The character of a surrogate pair. -/
def pairChar (high low : CodeUnit) : Char :=
  Char.ofNat (0x10000 + (high.val - 0xD800) * 0x400 + (low.val - 0xDC00))

/-- What `JSON.stringify` writes between the quotes. -/
def escapeUnits : JsString → List Char
  | [] => []
  | [u] => escapeUnit u
  | u :: v :: rest =>
    if isHighSurrogate u && isLowSurrogate v then pairChar u v :: escapeUnits rest
    else escapeUnit u ++ escapeUnits (v :: rest)

def quote (s : JsString) : List Char := '"' :: escapeUnits s ++ ['"']

/-- The code unit behind the letter after a backslash. -/
def unescaped (letter : Char) : CodeUnit :=
  if letter = 'b' then 8
  else if letter = 't' then 9
  else if letter = 'n' then 10
  else if letter = 'f' then 12
  else if letter = 'r' then 13
  else Fin.ofNat 65536 letter.toNat

/-- Four hexadecimal digits. -/
def readHex : List Char → Option (JsString × List Char)
  | w :: x :: y :: z :: rest =>
    some ([Fin.ofNat 65536 (((hexValue w * 16 + hexValue x) * 16 + hexValue y) * 16 + hexValue z)],
      rest)
  | _ => none

/-- What one character of a string, or one escape, stands for. -/
def readUnit (c : Char) (rest : List Char) : Option (JsString × List Char) :=
  if c = '\\' then
    match rest with
    | [] => none
    | letter :: rest => if letter = 'u' then readHex rest else some ([unescaped letter], rest)
  else some (JsString.ofChar c, rest)

/-- Read a string up to its closing quote. -/
def readString : Nat → List Char → Option (JsString × List Char)
  | 0, _ => none
  | _, [] => none
  | fuel + 1, c :: rest =>
    if c = '"' then some ([], rest)
    else (readUnit c rest).bind fun r => (readString fuel r.2).map fun r' => (r.1 ++ r'.1, r'.2)

/-- A letter after a backslash stands for one code unit. -/
theorem readUnit_short {u : CodeUnit} {letter : Char} (h : shortEscape u = some letter)
    (rest : List Char) : readUnit '\\' (letter :: rest) = some ([u], rest) := by
  have hletter : letter ≠ 'u' ∧ (unescaped letter).val = u.val := by
    unfold shortEscape at h
    split_ifs at h with h1 h2 h3 h4 h5 h6 h7
    all_goals
      obtain rfl := Option.some.inj h
      exact ⟨by decide, by simp only [*]; rfl⟩
  have hunit : unescaped letter = u := Fin.ext hletter.2
  simp only [readUnit, if_pos, if_neg hletter.1, hunit]

theorem readUnit_hex (u : CodeUnit) (rest : List Char) :
    readUnit '\\' ((escapeHex u).tail ++ rest) = some ([u], rest) := by
  have hlt := u.isLt
  have hvalue : ((hexValue (hexDigit (u.val / 4096)) * 16 +
      hexValue (hexDigit (u.val / 256 % 16))) * 16 + hexValue (hexDigit (u.val / 16 % 16))) * 16 +
        hexValue (hexDigit (u.val % 16)) = u.val := by
    rw [hexValue_hexDigit (by omega), hexValue_hexDigit (by omega), hexValue_hexDigit (by omega),
      hexValue_hexDigit (by omega)]
    omega
  simp only [readUnit, escapeHex, List.tail_cons, List.cons_append, List.nil_append, if_pos,
    readHex, hvalue]
  simp

/-- A character stands for its code units. -/
theorem readUnit_char {c : Char} (h : c ≠ '\\') (rest : List Char) :
    readUnit c rest = some (JsString.ofChar c, rest) := if_neg h

theorem toNat_ofNat {n : Nat} (h : n.isValidChar) : (Char.ofNat n).toNat = n := by
  rw [Char.ofNat, dif_pos h]
  rfl

/-- A code unit that is no surrogate is a character of its own. -/
theorem ofChar_unit {u : CodeUnit} (hhigh : isHighSurrogate u = false)
    (hlow : isLowSurrogate u = false) : JsString.ofChar (Char.ofNat u.val) = [u] := by
  have hlt := u.isLt
  have hvalid : u.val.isValidChar := by
    simp only [isHighSurrogate, isLowSurrogate, Bool.and_eq_false_iff, decide_eq_false_iff_not] at *
    unfold Nat.isValidChar
    omega
  rw [JsString.ofChar, toNat_ofNat hvalid, JsText.codeUnits, if_pos (by omega)]
  simp

/-- A surrogate pair is a character. -/
theorem ofChar_pair {u v : CodeUnit} (hhigh : isHighSurrogate u = true)
    (hlow : isLowSurrogate v = true) : JsString.ofChar (pairChar u v) = [u, v] := by
  simp only [isHighSurrogate, isLowSurrogate, Bool.and_eq_true, decide_eq_true_eq] at hhigh hlow
  have hvalid : (0x10000 + (u.val - 0xD800) * 0x400 + (v.val - 0xDC00)).isValidChar := by
    unfold Nat.isValidChar
    omega
  rw [JsString.ofChar, pairChar, toNat_ofNat hvalid, JsText.codeUnits, if_neg (by omega)]
  have hfirst : 0xD800 + (0x10000 + (u.val - 0xD800) * 0x400 + (v.val - 0xDC00) - 0x10000) / 0x400 =
      u.val := by omega
  have hsecond : 0xDC00 + (0x10000 + (u.val - 0xD800) * 0x400 + (v.val - 0xDC00) - 0x10000) % 0x400 =
      v.val := by omega
  rw [hfirst, hsecond]
  simp

theorem readString_token {c : Char} (hc : c ≠ '"') {rest tail : List Char} {units : JsString}
    (h : readUnit c rest = some (units, tail)) (fuel : Nat) : readString (fuel + 1) (c :: rest) =
      (readString fuel tail).map fun r => (units ++ r.1, r.2) := by
  rw [readString, if_neg hc, h]
  rfl

theorem readString_escapeUnit (u : CodeUnit) (fuel : Nat) (rest : List Char) :
    readString (fuel + 1) (escapeUnit u ++ rest) =
      (readString fuel rest).map fun r => (u :: r.1, r.2) := by
  unfold escapeUnit
  cases hshort : shortEscape u with
  | some letter => exact readString_token (by decide) (readUnit_short hshort rest) fuel
  | none =>
    by_cases hhex : (u.val < 32 || isHighSurrogate u || isLowSurrogate u) = true
    · simp only [hhex, if_true]
      exact readString_token (by decide) (readUnit_hex u rest) fuel
    · simp only [hhex, if_false, Bool.false_eq_true]
      simp only [Bool.or_eq_true, not_or, Bool.not_eq_true] at hhex
      obtain ⟨⟨-, hhigh⟩, hlow⟩ := hhex
      have hread := ofChar_unit hhigh hlow
      have hplain : u.val ≠ 0x22 ∧ u.val ≠ 0x5C := by
        constructor <;> intro heq <;> simp [shortEscape, heq] at hshort
      -- the characters that end or escape a string are code units that are escaped
      have hchar : ∀ c : Char, c.toNat < 0xD800 → Char.ofNat u.val = c → u.val = c.toNat := by
        intro c hc heq
        have hunit : [u] = [Fin.ofNat 65536 c.toNat] := by
          rw [← hread, heq, JsString.ofChar, JsText.codeUnits, if_pos (by omega)]
          rfl
        have hval := congrArg Fin.val (List.singleton_inj.mp hunit)
        simpa [Nat.mod_eq_of_lt (show c.toNat < 65536 by omega)] using hval
      have hquote : Char.ofNat u.val ≠ '"' := fun heq => hplain.1 (hchar _ (by decide) heq)
      have hslash : Char.ofNat u.val ≠ '\\' := fun heq => hplain.2 (hchar _ (by decide) heq)
      have hunit := readUnit_char hslash rest
      rw [hread] at hunit
      exact readString_token hquote hunit fuel

/-- An escaped string can be read back, and the reader stops at its closing quote. -/
theorem readString_escape (s : JsString) (rest : List Char) : ∀ fuel, s.length < fuel →
    readString fuel (escapeUnits s ++ '"' :: rest) = some (s, rest) := by
  induction s using escapeUnits.induct with
  | case1 =>
    rintro (_ | fuel) hfuel
    · simp at hfuel
    · simp [escapeUnits, readString]
  | case2 u =>
    rintro (_ | _ | fuel) hfuel
    · simp at hfuel
    · simp at hfuel
    · rw [escapeUnits, readString_escapeUnit, readString, if_pos rfl]
      rfl
  | case3 u v units hpair ih =>
    rintro (_ | fuel) hfuel
    · simp at hfuel
    · obtain ⟨hhigh, hlow⟩ := Bool.and_eq_true_iff.mp hpair
      have hread := ofChar_pair hhigh hlow
      have hne : ∀ c : Char, c.toNat < 0x10000 → pairChar u v ≠ c := by
        intro c hc heq
        rw [heq, JsString.ofChar, JsText.codeUnits, if_pos hc] at hread
        simp at hread
      have hunit := readUnit_char (hne '\\' (by decide)) (escapeUnits units ++ '"' :: rest)
      rw [hread] at hunit
      rw [escapeUnits, if_pos hpair, List.cons_append,
        readString_token (hne '"' (by decide)) hunit, ih fuel (by simp at hfuel; omega)]
      rfl
  | case4 u v units hpair ih =>
    rintro (_ | fuel) hfuel
    · simp at hfuel
    · rw [escapeUnits, if_neg hpair, List.append_assoc, readString_escapeUnit,
        ih fuel (by simp at hfuel ⊢; omega)]
      rfl

/-- Quoted strings end in one way. -/
theorem quote_append {s t : JsString} {r r' : List Char} (h : quote s ++ r = quote t ++ r') :
    s = t ∧ r = r' := by
  have hbody : escapeUnits s ++ '"' :: r = escapeUnits t ++ '"' :: r' := by
    simpa [quote] using h
  have hs := readString_escape s r (max s.length t.length + 1) (by omega)
  have ht := readString_escape t r' (max s.length t.length + 1) (by omega)
  rw [hbody, ht] at hs
  exact ⟨(congrArg Prod.fst (Option.some.inj hs)).symm, (congrArg Prod.snd (Option.some.inj hs)).symm⟩

/-! ## 2. Numbers -/

/-- A character of a number. -/
def isNumeral (c : Char) : Bool := c.isDigit || c = '-' || c = '+' || c = '.' || c = 'e'

/-- How the finite numbers are written: two that are written alike differ at most in the sign of
    zero, which `unsigned` takes away. -/
structure Numerals (ν : Type) where
  isFinite : ν → Bool
  unsigned : ν → ν
  text : ν → List Char
  unsigned_finite : ∀ x, isFinite (unsigned x) = isFinite x
  unsigned_unsigned : ∀ x, unsigned (unsigned x) = unsigned x
  text_ne_nil : ∀ x, isFinite x = true → text x ≠ []
  text_numeral : ∀ x, isFinite x = true → ∀ c ∈ text x, isNumeral c = true
  text_injective : ∀ x y, isFinite x = true → isFinite y = true → text x = text y →
    unsigned x = unsigned y

/-- What follows a number does not go on with it. -/
def Ends (rest : List Char) : Prop := ∀ c, rest.head? = some c → isNumeral c = false

/-- Two texts of one kind of characters end in one way. -/
theorem append_of_ends {a b r r' : List Char} (ha : ∀ c ∈ a, isNumeral c = true)
    (hb : ∀ c ∈ b, isNumeral c = true) (hr : Ends r) (hr' : Ends r') (h : a ++ r = b ++ r') :
    a = b ∧ r = r' := by
  induction a generalizing b with
  | nil =>
    cases b with
    | nil => exact ⟨rfl, h⟩
    | cons c b =>
      have hrest : r = c :: (b ++ r') := h
      have hend := hr c (by rw [hrest, List.head?_cons])
      simp [hb c List.mem_cons_self] at hend
  | cons d a ih =>
    cases b with
    | nil =>
      have hrest : r' = d :: (a ++ r) := h.symm
      have hend := hr' d (by rw [hrest, List.head?_cons])
      simp [ha d List.mem_cons_self] at hend
    | cons c b =>
      rw [List.cons_append, List.cons_append, List.cons.injEq] at h
      obtain ⟨rfl, h⟩ := h
      obtain ⟨rfl, hrest⟩ := ih (fun c hc => ha c (List.mem_cons_of_mem _ hc))
        (fun c hc => hb c (List.mem_cons_of_mem _ hc)) h
      exact ⟨rfl, hrest⟩

/-! ## 3. Values -/

variable {ν : Type} (num : Numerals ν)

mutual

/-- `JSON.stringify(value)`. -/
def text : JsonValue ν → List Char
  | .null => "null".toList
  | .bool b => (if b then "true" else "false").toList
  | .num x => num.text x
  | .str s => quote s
  | .arr items => '[' :: itemsText true items
  | .obj fields => '\x7b' :: fieldsText true fields

/-- The items of an array, separated by commas, and its end. -/
def itemsText (first : Bool) : List (JsonValue ν) → List Char
  | [] => [']']
  | item :: rest => (if first then [] else [',']) ++ (text item ++ itemsText false rest)

def fieldsText (first : Bool) : List (JsString × JsonValue ν) → List Char
  | [] => ['\x7d']
  | (key, value) :: rest =>
    (if first then [] else [',']) ++ (quote key ++ ':' :: (text value ++ fieldsText false rest))

end

mutual

/-- The numbers in the value are finite and have no sign of zero. -/
def Plain : JsonValue ν → Prop
  | .num x => num.isFinite x = true ∧ num.unsigned x = x
  | .arr items => PlainAll items
  | .obj fields => PlainFields fields
  | _ => True

def PlainAll : List (JsonValue ν) → Prop
  | [] => True
  | item :: rest => Plain item ∧ PlainAll rest

def PlainFields : List (JsString × JsonValue ν) → Prop
  | [] => True
  | (_, value) :: rest => Plain value ∧ PlainFields rest

end

mutual

/-- The numbers in the value are finite. -/
def FiniteNumbers : JsonValue ν → Prop
  | .num x => num.isFinite x = true
  | .arr items => FiniteItems items
  | .obj fields => FiniteFields fields
  | _ => True

def FiniteItems : List (JsonValue ν) → Prop
  | [] => True
  | item :: rest => FiniteNumbers item ∧ FiniteItems rest

def FiniteFields : List (JsString × JsonValue ν) → Prop
  | [] => True
  | (_, value) :: rest => FiniteNumbers value ∧ FiniteFields rest

end

/-- The kind of a value, and of a character that starts one. -/
def kind : JsonValue ν → Nat
  | .null => 0
  | .bool false => 1
  | .bool true => 2
  | .str _ => 3
  | .arr _ => 4
  | .obj _ => 5
  | .num _ => 6

def lead (c : Char) : Nat :=
  if c = 'n' then 0 else if c = 'f' then 1 else if c = 't' then 2 else if c = '"' then 3
  else if c = '[' then 4 else if c = '\x7b' then 5 else if isNumeral c then 6 else 7

theorem lead_numeral {c : Char} (h : isNumeral c = true) : lead c = 6 := by
  have hne : ∀ d : Char, isNumeral d = false → c ≠ d := by
    rintro d hd rfl
    simp [h] at hd
  simp only [lead, if_neg (hne 'n' (by decide)), if_neg (hne 'f' (by decide)),
    if_neg (hne 't' (by decide)), if_neg (hne '"' (by decide)), if_neg (hne '[' (by decide)),
    if_neg (hne '\x7b' (by decide)), h, if_true]

/-- The first character of a text tells the kind of the value. -/
theorem text_head {v : JsonValue ν} (h : Plain num v) :
    ∃ c rest, text num v = c :: rest ∧ lead c = kind v := by
  cases v with
  | null => exact ⟨'n', _, rfl, rfl⟩
  | bool b =>
    cases b with
    | false => exact ⟨'f', _, rfl, rfl⟩
    | true => exact ⟨'t', _, rfl, rfl⟩
  | num x =>
    obtain ⟨hfinite, -⟩ := h
    cases hx : num.text x with
    | nil => exact absurd hx (num.text_ne_nil x hfinite)
    | cons c rest =>
      exact ⟨c, rest, by rw [text, hx], lead_numeral
        (num.text_numeral x hfinite c (by simp [hx]))⟩
  | str s => exact ⟨'"', _, rfl, rfl⟩
  | arr items => exact ⟨'[', _, rfl, rfl⟩
  | obj fields => exact ⟨'\x7b', _, rfl, rfl⟩

theorem kind_eq {v w : JsonValue ν} (hv : Plain num v) (hw : Plain num w) {r r' : List Char}
    (h : text num v ++ r = text num w ++ r') : kind v = kind w := by
  obtain ⟨c, rest, hc, hkind⟩ := text_head num hv
  obtain ⟨d, rest', hd, hkind'⟩ := text_head num hw
  rw [hc, hd, List.cons_append, List.cons_append, List.cons.injEq] at h
  rw [← hkind, ← hkind', h.1]

theorem ends_itemsText (items : List (JsonValue ν)) (rest : List Char) :
    Ends (itemsText num false items ++ rest) := by
  intro c hc
  cases items <;> cases hc <;> decide

theorem ends_fieldsText (fields : List (JsString × JsonValue ν)) (rest : List Char) :
    Ends (fieldsText num false fields ++ rest) := by
  intro c hc
  rcases fields with _ | ⟨⟨key, value⟩, rest'⟩ <;> cases hc <;> decide

/-- An empty list ends where another one goes on. -/
theorem itemsText_cons_ne {first : Bool} {item : JsonValue ν} (h : Plain num item)
    {rest : List (JsonValue ν)} {r r' : List Char} :
    ']' :: r ≠ itemsText num first (item :: rest) ++ r' := by
  obtain ⟨c, tail, hc, hkind⟩ := text_head num h
  intro heq
  cases first with
  | false => simp [itemsText] at heq
  | true =>
    simp only [itemsText, if_true, List.nil_append, hc, List.cons_append, List.cons.injEq] at heq
    rw [← heq.1] at hkind
    have hbracket : lead ']' = 7 := by decide
    rw [hbracket] at hkind
    rcases item with _ | ⟨_ | _⟩ | _ | _ | _ | _ <;> simp [kind] at hkind

theorem fieldsText_cons_ne {first : Bool} {field : JsString × JsonValue ν}
    {rest : List (JsString × JsonValue ν)} {r r' : List Char} :
    '\x7d' :: r ≠ fieldsText num first (field :: rest) ++ r' := by
  obtain ⟨key, value⟩ := field
  intro heq
  cases first <;> simp [fieldsText, quote] at heq

mutual

/-- A text is of one value, and ends in one way. -/
theorem text_append : (v w : JsonValue ν) → Plain num v → Plain num w → (r r' : List Char) →
    Ends r → Ends r' → text num v ++ r = text num w ++ r' → v = w ∧ r = r'
  | .null, w, hv, hw, r, r', hr, hr', h => by
    have hkind := kind_eq num hv hw h
    rcases w with _ | ⟨_ | _⟩ | _ | _ | _ | _ <;> try (simp [kind] at hkind; done)
    exact ⟨rfl, List.append_cancel_left h⟩
  | .bool b, w, hv, hw, r, r', hr, hr', h => by
    have hkind := kind_eq num hv hw h
    rcases b with _ | _ <;> rcases w with _ | ⟨_ | _⟩ | _ | _ | _ | _ <;>
      try (simp [kind] at hkind; done)
    · exact ⟨rfl, List.append_cancel_left h⟩
    · exact ⟨rfl, List.append_cancel_left h⟩
  | .num x, w, hv, hw, r, r', hr, hr', h => by
    have hkind := kind_eq num hv hw h
    rcases w with _ | ⟨_ | _⟩ | y | _ | _ | _ <;> try (simp [kind] at hkind; done)
    obtain ⟨htext, hrest⟩ := append_of_ends (num.text_numeral x hv.1) (num.text_numeral y hw.1)
      hr hr' h
    have hxy := num.text_injective x y hv.1 hw.1 htext
    rw [hv.2, hw.2] at hxy
    exact ⟨by rw [hxy], hrest⟩
  | .str s, w, hv, hw, r, r', hr, hr', h => by
    have hkind := kind_eq num hv hw h
    rcases w with _ | ⟨_ | _⟩ | _ | t | _ | _ <;> try (simp [kind] at hkind; done)
    obtain ⟨hst, hrest⟩ := quote_append h
    exact ⟨by rw [hst], hrest⟩
  | .arr items, w, hv, hw, r, r', hr, hr', h => by
    have hkind := kind_eq num hv hw h
    rcases w with _ | ⟨_ | _⟩ | _ | _ | items' | _ <;> try (simp [kind] at hkind; done)
    obtain ⟨hitems, hrest⟩ := itemsText_append items items' hv hw true r r' (List.cons.inj h).2
    exact ⟨by rw [hitems], hrest⟩
  | .obj fields, w, hv, hw, r, r', hr, hr', h => by
    have hkind := kind_eq num hv hw h
    rcases w with _ | ⟨_ | _⟩ | _ | _ | _ | fields' <;> try (simp [kind] at hkind; done)
    obtain ⟨hfields, hrest⟩ := fieldsText_append fields fields' hv hw true r r' (List.cons.inj h).2
    exact ⟨by rw [hfields], hrest⟩

theorem itemsText_append : (items items' : List (JsonValue ν)) → PlainAll num items →
    PlainAll num items' → (first : Bool) → (r r' : List Char) →
    itemsText num first items ++ r = itemsText num first items' ++ r' → items = items' ∧ r = r'
  | [], [], _, _, first, r, r', h => ⟨rfl, (List.cons.inj h).2⟩
  | [], item' :: rest', _, h', first, r, r', h => absurd h (itemsText_cons_ne num h'.1)
  | item :: rest, [], hp, _, first, r, r', h => absurd h.symm (itemsText_cons_ne num hp.1)
  | item :: rest, item' :: rest', hp, hp', first, r, r', h => by
    simp only [itemsText, List.append_assoc, List.append_cancel_left_eq] at h
    obtain ⟨hitem, h⟩ := text_append item item' hp.1 hp'.1 _ _ (ends_itemsText num rest r)
      (ends_itemsText num rest' r') h
    obtain ⟨hrest, hr⟩ := itemsText_append rest rest' hp.2 hp'.2 false r r' h
    exact ⟨by rw [hitem, hrest], hr⟩

theorem fieldsText_append : (fields fields' : List (JsString × JsonValue ν)) →
    PlainFields num fields → PlainFields num fields' → (first : Bool) → (r r' : List Char) →
    fieldsText num first fields ++ r = fieldsText num first fields' ++ r' →
    fields = fields' ∧ r = r'
  | [], [], _, _, first, r, r', h => ⟨rfl, (List.cons.inj h).2⟩
  | [], field' :: rest', _, _, first, r, r', h => absurd h (fieldsText_cons_ne num)
  | field :: rest, [], _, _, first, r, r', h => absurd h.symm (fieldsText_cons_ne num)
  | (key, value) :: rest, (key', value') :: rest', hp, hp', first, r, r', h => by
    simp only [fieldsText, List.append_assoc, List.append_cancel_left_eq, List.cons_append] at h
    obtain ⟨hkey, h⟩ := quote_append h
    obtain ⟨hvalue, h⟩ := text_append value value' hp.1 hp'.1 _ _ (ends_fieldsText num rest r)
      (ends_fieldsText num rest' r') (List.cons.inj h).2
    obtain ⟨hrest, hr⟩ := fieldsText_append rest rest' hp.2 hp'.2 false r r' h
    exact ⟨by rw [hkey, hvalue, hrest], hr⟩

end

/-- Different values have different texts. -/
theorem text_injective {v w : JsonValue ν} (hv : Plain num v) (hw : Plain num w)
    (h : text num v = text num w) : v = w :=
  (text_append num v w hv hw [] [] nofun nofun (by rw [h])).1

end JsonText
