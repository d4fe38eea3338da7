import Pinpoint.Proofs.Json.Escape
import Pinpoint.Proofs.Suffix.Number

/-!
# Reading JSON

A reader of the values that reports are made of. It takes what the grammar of RFC 8259
allows for them and nothing else: no sign of plus or zero in front of a number, no control
character and no half of a surrogate pair between double quotes, no comma behind the last
item, and nothing but blanks behind the value. Fractions, exponents and `null` are no part
of reports, and are not read.

* `decode`: the value of a text.
* `decode_render`: a value that has been written is read back.
* `isWritten_of_mem_renderAt`: visible ASCII characters and line ends are all that is written.
-/

namespace Pinpoint.Json

/-! ## Specification -/

/-- A blank between the parts of a value. -/
def isBlank (c : Char) : Bool := c = ' ' || c = '\n' || c = '\t' || c = '\r'

/-- What comes behind blanks. -/
def skipBlanks (t : Text) : Text := t.dropWhile isBlank

/-- Reads four hexadecimal digits. -/
def readUnit : Text → Option (Nat × Text)
  | a :: b :: c :: d :: rest => do
    let digits ← [a, b, c, d].mapM Text.hexValue?
    return (digits.foldl (fun n digit => 16 * n + digit) 0, rest)
  | _ => none

/-- The character that a letter behind a backslash stands for. -/
def letter? (l : Char) : Option Char := (('/', '/') :: escapeLetters).lookup l

/-- Reads the second half of a surrogate pair. -/
def readLow : Text → Option (Nat × Text)
  | '\\' :: 'u' :: rest => (readUnit rest).filter fun (low, _) => 0xDC00 ≤ low ∧ low < 0xE000
  | _ => none

/-- Reads one character between double quotes. -/
def readChar : Text → Option (Char × Text)
  | '\\' :: 'u' :: rest => do
    let (unit, rest) ← readUnit rest
    if 0xD800 ≤ unit ∧ unit < 0xDC00 then
      let (low, rest) ← readLow rest
      return (Char.ofNat (0x10000 + (unit - 0xD800) * 0x400 + (low - 0xDC00)), rest)
    else if 0xDC00 ≤ unit ∧ unit < 0xE000 then none
    else return (Char.ofNat unit, rest)
  | '\\' :: l :: rest => (letter? l).map fun c => (c, rest)
  | c :: rest => if c = '"' ∨ c = '\\' ∨ c.toNat < 0x20 then none else some (c, rest)
  | [] => none

/-- Reads the characters up to a double quote, and the quote. -/
def readText : (fuel : Nat) → Text → Option (Text × Text)
  | 0, _ => none
  | _ + 1, '"' :: rest => some ([], rest)
  | fuel + 1, t => do
    let (c, rest) ← readChar t
    let (t, rest) ← readText fuel rest
    return (c :: t, rest)

/-- Reads a natural number, without a zero in front of it. -/
def readNat (t : Text) : Option (Nat × Text) :=
  let digits := t.takeWhile Char.isDigit
  if digits = [] ∨ digits.head? = some '0' ∧ digits ≠ ['0'] then none
  else some (Decimal.value digits, t.dropWhile Char.isDigit)

/-- Reads the name of a field, and the colon behind it. -/
def readKey (fuel : Nat) (t : Text) : Option (Text × Text) :=
  match skipBlanks t with
  | '"' :: rest => do
    let (key, rest) ← readText fuel rest
    match skipBlanks rest with
    | ':' :: rest => return (key, rest)
    | _ => none
  | _ => none

mutual

/-- Reads a value, which may have blanks in front of it. -/
def readValue : (fuel : Nat) → Text → Option (Json × Text)
  | 0, _ => none
  | fuel + 1, t =>
    match skipBlanks t with
    | '"' :: rest => (readText fuel rest).map fun (t, rest) => (text t, rest)
    | '[' :: rest =>
      match skipBlanks rest with
      | ']' :: rest => some (list [], rest)
      | _ => (readItems fuel rest).map fun (items, rest) => (list items, rest)
    | '\x7b' :: rest =>
      match skipBlanks rest with
      | '\x7d' :: rest => some (object [], rest)
      | _ => (readFields fuel rest).map fun (fields, rest) => (object fields, rest)
    | 't' :: 'r' :: 'u' :: 'e' :: rest => some (boolean true, rest)
    | 'f' :: 'a' :: 'l' :: 's' :: 'e' :: rest => some (boolean false, rest)
    | '-' :: rest => (readNat rest).map fun (n, rest) => (integer (-n), rest)
    | rest => (readNat rest).map fun (n, rest) => (integer n, rest)

/-- Reads one item or more, and the closing bracket. -/
def readItems : (fuel : Nat) → Text → Option (List Json × Text)
  | 0, _ => none
  | fuel + 1, t => do
    let (item, rest) ← readValue fuel t
    match skipBlanks rest with
    | ',' :: rest => do
      let (items, rest) ← readItems fuel rest
      return (item :: items, rest)
    | ']' :: rest => return ([item], rest)
    | _ => none

/-- Reads one field or more, and the closing brace. -/
def readFields : (fuel : Nat) → Text → Option (List (Text × Json) × Text)
  | 0, _ => none
  | fuel + 1, t => do
    let (key, rest) ← readKey fuel t
    let (value, rest) ← readValue fuel rest
    match skipBlanks rest with
    | ',' :: rest => do
      let (fields, rest) ← readFields fuel rest
      return ((key, value) :: fields, rest)
    | '\x7d' :: rest => return ([(key, value)], rest)
    | _ => none

end

/-- The value of a text. -/
def decode (t : Text) : Option Json :=
  match readValue (2 * t.length + 1) t with
  | some (v, rest) => if skipBlanks rest = [] then some v else none
  | none => none

variable {rest : Text}

/-! ## Characters -/

theorem readUnit_hex (n : Nat) (rest : Text) :
    readUnit (Text.hex 4 n ++ rest) = some (n % 0x10000, rest) := by
  simp only [Text.hex, List.nil_append, List.cons_append, readUnit, List.mapM_cons, List.mapM_nil,
    Text.hexValue?_hexDigit, Option.pure_def, Option.bind_eq_bind, Option.bind_some,
    List.foldl_cons, List.foldl_nil, Option.some.injEq, Prod.mk.injEq, and_true]
  omega

theorem readChar_letter {l c : Char} (h : (l, c) ∈ escapeLetters) (rest : Text) :
    readChar ('\\' :: l :: rest) = some (c, rest) := by
  have hletters : ∀ p ∈ escapeLetters, letter? p.1 = some p.2 ∧ p.1 ≠ 'u' := by decide
  obtain ⟨hl, hu⟩ := hletters _ h
  rw [readChar, hl]
  · rfl
  · exact hu

theorem readChar_visible {c : Char} (h : IsVisible c) (hquote : c ≠ '"') (hslash : c ≠ '\\')
    (rest : Text) : readChar (c :: rest) = some (c, rest) := by
  have hvisible : ¬ c.toNat < 0x20 := Nat.not_lt.2 h.1
  rw [readChar]
  · simp [hquote, hslash, hvisible]
  · exact fun _ hc _ => hslash hc
  · exact fun _ _ hc _ => hslash hc

/-- The number of a character is none of a surrogate. -/
theorem not_surrogate (c : Char) : c.toNat < 0xD800 ∨ 0xE000 ≤ c.toNat := by
  rcases c.valid with h | h
  · exact .inl h
  · exact .inr h.1

theorem readChar_unit {c : Char} (h : c.toNat < 0x10000) (rest : Text) :
    readChar (escapeUnit c.toNat ++ rest) = some (c, rest) := by
  have hc := not_surrogate c
  have hhigh : ¬ (0xD800 ≤ c.toNat ∧ c.toNat < 0xDC00) := by omega
  have hlow : ¬ (0xDC00 ≤ c.toNat ∧ c.toNat < 0xE000) := by omega
  rw [escapeUnit, List.cons_append, List.cons_append, readChar, readUnit_hex,
    Nat.mod_eq_of_lt h, Option.bind_eq_bind, Option.bind_some]
  dsimp only
  rw [if_neg hhigh, if_neg hlow, Char.ofNat_toNat]
  rfl

theorem readChar_pair {c : Char} (h : 0x10000 ≤ c.toNat) (rest : Text) :
    readChar (escapeUnit (highSurrogate c) ++ escapeUnit (lowSurrogate c) ++ rest) =
      some (c, rest) := by
  have hlt := lt_of_toNat c
  have hhigh : 0xD800 ≤ highSurrogate c ∧ highSurrogate c < 0xDC00 := by
    unfold highSurrogate
    omega
  have hlow : 0xDC00 ≤ lowSurrogate c ∧ lowSurrogate c < 0xE000 := by
    unfold lowSurrogate
    omega
  have hnumber : 0x10000 + (highSurrogate c - 0xD800) * 0x400 + (lowSurrogate c - 0xDC00) =
      c.toNat := by
    unfold highSurrogate lowSurrogate
    omega
  have hreadLow : readLow (escapeUnit (lowSurrogate c) ++ rest) = some (lowSurrogate c, rest) := by
    rw [escapeUnit, List.cons_append, List.cons_append, readLow, readUnit_hex,
      Nat.mod_eq_of_lt (by omega)]
    simp [hlow]
  rw [List.append_assoc, escapeUnit, List.cons_append, List.cons_append, readChar, readUnit_hex,
    Nat.mod_eq_of_lt (by omega), Option.bind_eq_bind, Option.bind_some]
  dsimp only
  rw [if_pos hhigh, hreadLow, Option.bind_some]
  dsimp only
  rw [hnumber, Char.ofNat_toNat]
  rfl

theorem readChar_escapeChar (c : Char) (rest : Text) :
    readChar (escapeChar c ++ rest) = some (c, rest) := by
  have hc := escaped c
  generalize escapeChar c = written at hc ⊢
  cases hc with
  | plain hvisible hquote hslash => exact readChar_visible hvisible hquote hslash rest
  | letter hl => exact readChar_letter hl rest
  | unit h => exact readChar_unit h rest
  | pair h => exact readChar_pair h rest

theorem readText_escapeChars {fuel : Nat} {t : Text} (h : t.length < fuel) (rest : Text) :
    readText fuel (t.flatMap escapeChar ++ '"' :: rest) = some (t, rest) := by
  induction t generalizing fuel with
  | nil =>
    cases fuel with
    | zero => exact absurd h (Nat.not_lt_zero _)
    | succ fuel => rfl
  | cons c t ih =>
    cases fuel with
    | zero => exact absurd h (Nat.not_lt_zero _)
    | succ fuel =>
      obtain ⟨d, after, hd, hwritten⟩ := exists_escapeChar_eq_cons c
      have hchar := readChar_escapeChar c (t.flatMap escapeChar ++ '"' :: rest)
      rw [List.flatMap_cons, List.append_assoc]
      rw [hwritten, List.cons_append] at hchar ⊢
      rw [readText, hchar, Option.bind_eq_bind, Option.bind_some]
      · dsimp only
        rw [ih (Nat.lt_of_succ_lt_succ h)]
        rfl
      · exact fun _ heq => hd (List.cons.inj heq).1

/-! ## Numbers -/

/-- No text that goes on with a digit stands behind a number. -/
def EndsNumber (t : Text) : Prop := ∀ c, t.head? = some c → c.isDigit = false

theorem endsNumber_cons {c : Char} (h : c.isDigit = false) (t : Text) : EndsNumber (c :: t) := by
  intro d hd
  rwa [← Option.some.inj hd]

theorem exists_ofNat_eq_cons (n : Nat) :
    ∃ c digits, Text.ofNat n = c :: digits ∧ c.isDigit = true := by
  obtain ⟨hne, hdigits⟩ := isDigits_ofNat n
  obtain ⟨c, digits, hn⟩ := List.exists_cons_of_ne_nil hne
  exact ⟨c, digits, hn, hdigits c (hn ▸ List.mem_cons_self)⟩

/-- Only zero starts with a zero. -/
theorem head?_ofNat {n : Nat} (h : 0 < n) : (Text.ofNat n).head? ≠ some '0' := by
  induction n using Nat.strongRecOn with
  | ind n ih =>
    unfold Text.ofNat
    by_cases hlt : n < 10
    · have hdigits : ∀ d < 10, 0 < d → [Nat.digitChar d].head? ≠ some '0' := by decide
      rw [Nat.toDigits_of_lt_base hlt]
      exact hdigits n hlt h
    · have hle : 10 ≤ n := Nat.le_of_not_lt hlt
      rw [Nat.toDigits_of_base_le (by decide) hle,
        List.head?_append_of_ne_nil _ Nat.toDigits_ne_nil]
      exact ih (n / 10) (Nat.div_lt_self h (by decide)) (Nat.div_pos hle (by decide))

theorem takeWhile_isDigit (h : EndsNumber rest) : rest.takeWhile Char.isDigit = [] := by
  cases rest with
  | nil => rfl
  | cons c rest => rw [List.takeWhile_cons_of_neg (by simp [h c rfl])]

theorem dropWhile_isDigit (h : EndsNumber rest) : rest.dropWhile Char.isDigit = rest := by
  cases rest with
  | nil => rfl
  | cons c rest => rw [List.dropWhile_cons_of_neg (by simp [h c rfl])]

theorem readNat_ofNat (n : Nat) (h : EndsNumber rest) :
    readNat (Text.ofNat n ++ rest) = some (n, rest) := by
  obtain ⟨hne, hdigits⟩ := isDigits_ofNat n
  have htake : (Text.ofNat n ++ rest).takeWhile Char.isDigit = Text.ofNat n := by
    rw [List.takeWhile_append_of_pos hdigits, takeWhile_isDigit h, List.append_nil]
  have hdrop : (Text.ofNat n ++ rest).dropWhile Char.isDigit = rest := by
    rw [List.dropWhile_append_of_pos hdigits, dropWhile_isDigit h]
  have hzero : ¬ ((Text.ofNat n).head? = some '0' ∧ Text.ofNat n ≠ ['0']) := by
    rintro ⟨hhead, hother⟩
    rcases Nat.eq_zero_or_pos n with rfl | hpos
    · exact hother rfl
    · exact head?_ofNat hpos hhead
  rw [readNat, htake, hdrop]
  simp only [hne, hzero, or_self, if_false, value_ofNat]

/-! ## Blanks -/

theorem skipBlanks_cons {c : Char} (h : isBlank c = false) (t : Text) :
    skipBlanks (c :: t) = c :: t := by
  rw [skipBlanks, List.dropWhile_cons_of_neg (by simp [h])]

theorem skipBlanks_newline (level : Nat) (t : Text) :
    skipBlanks (newline level ++ t) = skipBlanks t := by
  rw [newline, skipBlanks, List.cons_append, List.dropWhile_cons_of_pos rfl]
  induction 2 * level with
  | zero => rfl
  | succ n ih => rwa [List.replicate_succ, List.cons_append, List.dropWhile_cons_of_pos rfl]

/-- Blanks in front of a value do not count. -/
theorem readValue_newline (fuel level : Nat) (t : Text) :
    readValue fuel (newline level ++ t) = readValue fuel t := by
  cases fuel with
  | zero => rfl
  | succ fuel => rw [readValue, readValue, skipBlanks_newline]

theorem readValue_blank (fuel : Nat) (t : Text) :
    readValue fuel (' ' :: t) = readValue fuel t := by
  cases fuel with
  | zero => rfl
  | succ fuel => rfl

theorem isBlank_of_isDigit {c : Char} (h : c.isDigit = true) : isBlank c = false := by
  have hblanks : ∀ blank ∈ [' ', '\n', '\t', '\r'], blank.isDigit = false := by decide
  rw [Bool.eq_false_iff]
  intro hblank
  have hmem : c ∈ [' ', '\n', '\t', '\r'] := by simpa [isBlank, or_assoc] using hblank
  rw [hblanks c hmem] at h
  cases h

/-- A value starts neither with a blank nor with what closes a list. -/
theorem exists_renderAt_eq_cons (level : Nat) (v : Json) :
    ∃ c rest, renderAt level v = c :: rest ∧ isBlank c = false ∧ c ≠ ']' := by
  cases v with
  | text t => exact ⟨'"', _, rfl, rfl, by decide⟩
  | integer n =>
    cases n with
    | ofNat n =>
      obtain ⟨c, digits, hn, hc⟩ := exists_ofNat_eq_cons n
      refine ⟨c, digits, hn, isBlank_of_isDigit hc, ?_⟩
      rintro rfl
      cases hc
    | negSucc n => exact ⟨'-', _, rfl, rfl, by decide⟩
  | boolean b => cases b <;> exact ⟨_, _, rfl, rfl, by decide⟩
  | list items => cases items <;> exact ⟨'[', _, rfl, rfl, by decide⟩
  | object fields => cases fields <;> exact ⟨'\x7b', _, rfl, rfl, by decide⟩

/-! ## Values that hold no other values -/

theorem readValue_quote {fuel : Nat} {t : Text} (h : t.length < fuel) (rest : Text) :
    readValue (fuel + 1) (quote t ++ rest) = some (text t, rest) := by
  rw [quote, List.cons_append, List.append_assoc]
  change (readText fuel (t.flatMap escapeChar ++ '"' :: rest)).map _ = _
  rw [readText_escapeChars h]
  rfl

theorem readKey_field {fuel : Nat} {key : Text} (level : Nat) (h : key.length < fuel)
    (rest : Text) :
    readKey fuel (newline level ++ (quote key ++ ':' :: rest)) = some (key, rest) := by
  rw [readKey, skipBlanks_newline, quote, List.cons_append, List.append_assoc]
  change (readText fuel (key.flatMap escapeChar ++ '"' :: ':' :: rest)).bind _ = _
  rw [readText_escapeChars h]
  rfl

theorem readValue_boolean (fuel level : Nat) (b : Bool) (rest : Text) :
    readValue (fuel + 1) (renderAt level (boolean b) ++ rest) = some (boolean b, rest) := by
  cases b <;> rfl

theorem readValue_ofNat (fuel n : Nat) (h : EndsNumber rest) :
    readValue (fuel + 1) (Text.ofNat n ++ rest) = some (integer n, rest) := by
  have hread := readNat_ofNat n h
  obtain ⟨c, digits, hn, hc⟩ := exists_ofNat_eq_cons n
  have hother : ∀ d, d.isDigit = false → ∀ t, Text.ofNat n ++ rest ≠ d :: t := by
    intro d hd t heq
    rw [hn, List.cons_append] at heq
    rw [(List.cons.inj heq).1, hd] at hc
    cases hc
  have hblank : isBlank c = false := isBlank_of_isDigit hc
  have hskip : skipBlanks (Text.ofNat n ++ rest) = Text.ofNat n ++ rest := by
    rw [hn, List.cons_append, skipBlanks_cons hblank]
  rw [readValue, hskip]
  split
  · next heq => exact absurd heq (hother _ rfl _)
  · next heq => exact absurd heq (hother _ rfl _)
  · next heq => exact absurd heq (hother _ rfl _)
  · next heq => exact absurd heq (hother _ rfl _)
  · next heq => exact absurd heq (hother _ rfl _)
  · next heq => exact absurd heq (hother _ rfl _)
  · rw [hread]
    rfl

theorem readValue_ofInt (fuel : Nat) (n : Int) (h : EndsNumber rest) :
    readValue (fuel + 1) (Text.ofInt n ++ rest) = some (integer n, rest) := by
  cases n with
  | ofNat n => exact readValue_ofNat fuel n h
  | negSucc n =>
    change (readNat (Text.ofNat (n + 1) ++ rest)).map _ = _
    rw [readNat_ofNat _ h]
    rfl

/-! ## Lists and objects -/

section Steps

variable {fuel : Nat} {t after after' key : Text} {item value : Json} {items : List Json}
  {fields : List (Text × Json)}

theorem readValue_list (h : ∀ after, skipBlanks t ≠ ']' :: after) :
    readValue (fuel + 1) ('[' :: t) =
      (readItems fuel t).map fun (items, rest) => (list items, rest) := by
  change (match skipBlanks t with
    | ']' :: rest => some (list [], rest)
    | _ => (readItems fuel t).map fun (items, rest) => (list items, rest)) = _
  split
  · next heq => exact absurd heq (h _)
  · rfl

theorem readValue_object (h : ∀ after, skipBlanks t ≠ '\x7d' :: after) :
    readValue (fuel + 1) ('\x7b' :: t) =
      (readFields fuel t).map fun (fields, rest) => (object fields, rest) := by
  change (match skipBlanks t with
    | '\x7d' :: rest => some (object [], rest)
    | _ => (readFields fuel t).map fun (fields, rest) => (object fields, rest)) = _
  split
  · next heq => exact absurd heq (h _)
  · rfl

theorem readItems_last (hitem : readValue fuel t = some (item, rest))
    (hclose : skipBlanks rest = ']' :: after) :
    readItems (fuel + 1) t = some ([item], after) := by
  simp only [readItems, hitem, hclose, Option.bind_eq_bind, Option.bind_some]
  rfl

theorem readItems_more (hitem : readValue fuel t = some (item, rest))
    (hcomma : skipBlanks rest = ',' :: after)
    (hitems : readItems fuel after = some (items, after')) :
    readItems (fuel + 1) t = some (item :: items, after') := by
  simp only [readItems, hitem, hcomma, hitems, Option.bind_eq_bind, Option.bind_some]
  rfl

theorem readFields_last {behind : Text} (hkey : readKey fuel t = some (key, behind))
    (hvalue : readValue fuel behind = some (value, rest))
    (hclose : skipBlanks rest = '\x7d' :: after) :
    readFields (fuel + 1) t = some ([(key, value)], after) := by
  simp only [readFields, hkey, hvalue, hclose, Option.bind_eq_bind, Option.bind_some]
  rfl

theorem readFields_more {behind : Text} (hkey : readKey fuel t = some (key, behind))
    (hvalue : readValue fuel behind = some (value, rest))
    (hcomma : skipBlanks rest = ',' :: after)
    (hfields : readFields fuel after = some (fields, after')) :
    readFields (fuel + 1) t = some ((key, value) :: fields, after') := by
  simp only [readFields, hkey, hvalue, hcomma, hfields, Option.bind_eq_bind, Option.bind_some]
  rfl

end Steps

theorem length_flatMap_escapeChar (t : Text) : t.length ≤ (t.flatMap escapeChar).length := by
  induction t with
  | nil => exact Nat.le_refl _
  | cons c t ih =>
    obtain ⟨d, after, -, hwritten⟩ := exists_escapeChar_eq_cons c
    rw [List.flatMap_cons, hwritten, List.length_append, List.length_cons, List.length_cons]
    omega

theorem length_quote (t : Text) : t.length + 2 ≤ (quote t).length := by
  have hle := length_flatMap_escapeChar t
  rw [quote, List.length_cons, List.length_append, List.length_singleton]
  omega

theorem length_newline (level : Nat) : 1 ≤ (newline level).length := by
  simp [newline]

theorem endsNumber_newline (level : Nat) (t : Text) : EndsNumber (newline level ++ t) :=
  endsNumber_cons rfl _

theorem exists_fuel {level fuel : Nat} {v : Json} (h : (renderAt level v).length ≤ fuel) :
    ∃ less, fuel = less + 1 := by
  obtain ⟨c, rest, hv, -, -⟩ := exists_renderAt_eq_cons level v
  rw [hv, List.length_cons] at h
  exact ⟨fuel - 1, by omega⟩

section Written

variable (level : Nat) (item next value : Json) (items : List Json) (key : Text)
  (field : Text × Json) (fields : List (Text × Json))

theorem renderAt_list : renderAt level (list (item :: items)) =
    '[' :: (renderItems (level + 1) (item :: items) ++ newline level ++ [']']) := rfl

theorem renderAt_object : renderAt level (object (field :: fields)) =
    '\x7b' :: (renderFields (level + 1) (field :: fields) ++ newline level ++ ['\x7d']) := rfl

theorem renderItems_cons : renderItems level (item :: next :: items) =
    newline level ++ renderAt level item ++ ',' :: renderItems level (next :: items) := rfl

theorem renderFields_singleton : renderFields level [(key, value)] =
    newline level ++ (quote key ++ ':' :: ' ' :: renderAt level value) := by
  rw [renderFields, List.append_assoc]

theorem renderFields_cons : renderFields level ((key, value) :: field :: fields) =
    newline level ++ (quote key ++ ':' :: ' ' :: (renderAt level value ++
      ',' :: renderFields level (field :: fields))) := by
  rw [renderFields, List.append_assoc, List.append_assoc]
  · rfl
  · exact List.cons_ne_nil _ _

end Written

/-- What stands behind an opening bracket is no closing one. -/
theorem skipBlanks_renderItems (level : Nat) (item : Json) (items : List Json) (t after : Text) :
    skipBlanks (renderItems level (item :: items) ++ t) ≠ ']' :: after := by
  obtain ⟨c, rest, hitem, hblank, hne⟩ := exists_renderAt_eq_cons level item
  have hskip : ∀ x, skipBlanks (newline level ++ renderAt level item ++ x) = c :: (rest ++ x) := by
    intro x
    rw [List.append_assoc, skipBlanks_newline, hitem, List.cons_append, skipBlanks_cons hblank]
  cases items with
  | nil =>
    rw [renderItems, hskip]
    exact fun heq => hne (List.cons.inj heq).1
  | cons next items =>
    rw [renderItems_cons, List.append_assoc, hskip]
    exact fun heq => hne (List.cons.inj heq).1

theorem skipBlanks_renderFields (level : Nat) (field : Text × Json) (fields : List (Text × Json))
    (t after : Text) :
    skipBlanks (renderFields level (field :: fields) ++ t) ≠ '\x7d' :: after := by
  obtain ⟨key, value⟩ := field
  have hquote : ∀ x, skipBlanks (newline level ++ (quote key ++ x)) ≠ '\x7d' :: after := by
    intro x
    rw [skipBlanks_newline, quote, List.cons_append, skipBlanks_cons rfl]
    exact fun heq => absurd (List.cons.inj heq).1 (by decide)
  cases fields with
  | nil =>
    rw [renderFields_singleton, List.append_assoc, List.append_assoc]
    exact hquote _
  | cons field fields =>
    rw [renderFields_cons, List.append_assoc, List.append_assoc]
    exact hquote _

mutual

theorem readValue_renderAt (v : Json) (level fuel : Nat) (rest : Text)
    (hfuel : (renderAt level v).length ≤ fuel) (hrest : EndsNumber rest) :
    readValue fuel (renderAt level v ++ rest) = some (v, rest) := by
  obtain ⟨fuel, rfl⟩ := exists_fuel hfuel
  match v with
  | text t =>
    have hlength := length_quote t
    rw [renderAt] at hfuel ⊢
    exact readValue_quote (by omega) rest
  | integer n =>
    rw [renderAt]
    exact readValue_ofInt fuel n hrest
  | boolean b => exact readValue_boolean fuel level b rest
  | list [] => rfl
  | list (item :: items) =>
    have hlist : renderAt level (list (item :: items)) ++ rest =
        '[' :: (renderItems (level + 1) (item :: items) ++ (newline level ++ ']' :: rest)) := by
      simp [renderAt_list]
    rw [renderAt_list, List.length_cons, List.length_append, List.length_append] at hfuel
    rw [hlist, readValue_list (skipBlanks_renderItems _ _ _ _),
      readItems_renderItems (item :: items) (List.cons_ne_nil _ _) (level + 1) level fuel rest
        (by omega)]
    rfl
  | object [] => rfl
  | object (field :: fields) =>
    have hobject : renderAt level (object (field :: fields)) ++ rest =
        '\x7b' :: (renderFields (level + 1) (field :: fields) ++
          (newline level ++ '\x7d' :: rest)) := by
      simp [renderAt_object]
    rw [renderAt_object, List.length_cons, List.length_append, List.length_append] at hfuel
    rw [hobject, readValue_object (skipBlanks_renderFields _ _ _ _),
      readFields_renderFields (field :: fields) (List.cons_ne_nil _ _) (level + 1) level fuel rest
        (by omega)]
    rfl

theorem readItems_renderItems (items : List Json) (hne : items ≠ []) (level outer fuel : Nat)
    (rest : Text) (hfuel : (renderItems level items).length ≤ fuel) :
    readItems fuel (renderItems level items ++ (newline outer ++ ']' :: rest)) =
      some (items, rest) := by
  have hnewline := length_newline level
  match items with
  | [item] =>
    rw [renderItems, List.length_append] at hfuel
    obtain ⟨fuel, rfl⟩ : ∃ less, fuel = less + 1 := ⟨fuel - 1, by omega⟩
    have hitem := readValue_renderAt item level fuel (newline outer ++ ']' :: rest) (by omega)
      (endsNumber_newline _ _)
    rw [← readValue_newline fuel level, ← List.append_assoc] at hitem
    rw [renderItems]
    exact readItems_last hitem (by rw [skipBlanks_newline, skipBlanks_cons rfl])
  | item :: next :: items =>
    rw [renderItems_cons, List.length_append, List.length_append, List.length_cons] at hfuel
    obtain ⟨fuel, rfl⟩ : ∃ less, fuel = less + 1 := ⟨fuel - 1, by omega⟩
    have hitems := readItems_renderItems (next :: items) (List.cons_ne_nil _ _) level outer fuel
      rest (by omega)
    have hitem := readValue_renderAt item level fuel
      (',' :: (renderItems level (next :: items) ++ (newline outer ++ ']' :: rest))) (by omega)
      (endsNumber_cons rfl _)
    rw [← readValue_newline fuel level, ← List.append_assoc] at hitem
    rw [renderItems_cons, List.append_assoc, List.cons_append]
    exact readItems_more hitem (skipBlanks_cons rfl _) hitems

theorem readFields_renderFields (fields : List (Text × Json)) (hne : fields ≠ [])
    (level outer fuel : Nat) (rest : Text) (hfuel : (renderFields level fields).length ≤ fuel) :
    readFields fuel (renderFields level fields ++ (newline outer ++ '\x7d' :: rest)) =
      some (fields, rest) := by
  have hnewline := length_newline level
  match fields with
  | [(key, value)] =>
    have hlength := length_quote key
    rw [renderFields_singleton, List.length_append, List.length_append, List.length_cons,
      List.length_cons] at hfuel
    obtain ⟨fuel, rfl⟩ : ∃ less, fuel = less + 1 := ⟨fuel - 1, by omega⟩
    have hvalue := readValue_renderAt value level fuel (newline outer ++ '\x7d' :: rest) (by omega)
      (endsNumber_newline _ _)
    rw [← readValue_blank] at hvalue
    rw [renderFields_singleton, List.append_assoc, List.append_assoc]
    exact readFields_last (readKey_field level (by omega) _) hvalue
      (by rw [skipBlanks_newline, skipBlanks_cons rfl])
  | (key, value) :: field :: fields =>
    have hlength := length_quote key
    rw [renderFields_cons, List.length_append, List.length_append, List.length_cons,
      List.length_cons, List.length_append, List.length_cons] at hfuel
    obtain ⟨fuel, rfl⟩ : ∃ less, fuel = less + 1 := ⟨fuel - 1, by omega⟩
    have hfields := readFields_renderFields (field :: fields) (List.cons_ne_nil _ _) level outer
      fuel rest (by omega)
    have hvalue := readValue_renderAt value level fuel
      (',' :: (renderFields level (field :: fields) ++ (newline outer ++ '\x7d' :: rest)))
      (by omega) (endsNumber_cons rfl _)
    rw [← readValue_blank] at hvalue
    rw [renderFields_cons, List.append_assoc, List.append_assoc, List.cons_append,
      List.cons_append, List.append_assoc, List.cons_append]
    exact readFields_more (readKey_field level (by omega) _) hvalue (skipBlanks_cons rfl _) hfields

end

/-- A value that has been written is read back, also with a line end behind it. -/
theorem decode_render (v : Json) : decode (render v ++ ['\n']) = some v := by
  have hread := readValue_renderAt v 0 (2 * (render v ++ ['\n']).length + 1) ['\n']
    (by rw [List.length_append, render]; omega) (endsNumber_cons rfl [])
  rw [decode, render]
  rw [render] at hread
  rw [hread]
  rfl

example : decode "[ -7, \"\\ud83d\\ude00\" ]" = some (list [integer (-7), text "😀"]) := by
  cbv

example : decode "[07]" = none ∧ decode "[7,]" = none ∧ decode "\"\\ud83d\"" = none := by
  refine ⟨?_, ?_, ?_⟩ <;> cbv

/-! ## Characters that are written -/

/-- A visible character, or the end of a line. -/
def IsWritten (c : Char) : Prop := IsVisible c ∨ c = '\n'

instance (c : Char) : Decidable (IsWritten c) := inferInstanceAs (Decidable (_ ∨ _))

theorem isVisible_of_isDigit {c : Char} (h : c.isDigit = true) : IsVisible c := by
  rw [Char.isDigit, Bool.and_eq_true, decide_eq_true_iff, decide_eq_true_iff] at h
  have hlow : 48 ≤ c.toNat := h.1
  have hhigh : c.toNat ≤ 57 := h.2
  exact ⟨by omega, by omega⟩

theorem isVisible_of_mem_ofInt (n : Int) : ∀ c ∈ Text.ofInt n, IsVisible c := by
  have hdigits : ∀ n, ∀ c ∈ Text.ofNat n, IsVisible c := fun n c hc =>
    isVisible_of_isDigit ((isDigits_ofNat n).2 c hc)
  cases n with
  | ofNat n => exact hdigits n
  | negSucc n => exact List.forall_mem_cons.2 ⟨by decide, hdigits (n + 1)⟩

theorem isWritten_of_mem_quote (t : Text) : ∀ c ∈ quote t, IsWritten c :=
  fun _ hc => .inl (visible_of_mem_quote hc)

theorem isWritten_of_mem_newline (level : Nat) : ∀ c ∈ newline level, IsWritten c :=
  List.forall_mem_cons.2 ⟨by decide, fun c hc => by
    rw [List.eq_of_mem_replicate hc]
    decide⟩

mutual

theorem isWritten_of_mem_renderAt (v : Json) (level : Nat) :
    ∀ c ∈ renderAt level v, IsWritten c := by
  match v with
  | text t => exact isWritten_of_mem_quote t
  | integer n => exact fun c hc => .inl (isVisible_of_mem_ofInt n c hc)
  | boolean true => exact (by decide : ∀ c ∈ "true".toList, IsWritten c)
  | boolean false => exact (by decide : ∀ c ∈ "false".toList, IsWritten c)
  | list [] => exact (by decide : ∀ c ∈ "[]".toList, IsWritten c)
  | list (item :: items) =>
    rw [renderAt_list, List.forall_mem_cons, List.forall_mem_append, List.forall_mem_append]
    exact ⟨by decide, ⟨isWritten_of_mem_renderItems (item :: items) (level + 1),
      isWritten_of_mem_newline level⟩, by decide⟩
  | object [] => exact (by decide : ∀ c ∈ ['\x7b', '\x7d'], IsWritten c)
  | object (field :: fields) =>
    rw [renderAt_object, List.forall_mem_cons, List.forall_mem_append, List.forall_mem_append]
    exact ⟨by decide, ⟨isWritten_of_mem_renderFields (field :: fields) (level + 1),
      isWritten_of_mem_newline level⟩, by decide⟩

theorem isWritten_of_mem_renderItems (items : List Json) (level : Nat) :
    ∀ c ∈ renderItems level items, IsWritten c := by
  match items with
  | [] => exact fun c hc => absurd hc List.not_mem_nil
  | [item] =>
    rw [renderItems, List.forall_mem_append]
    exact ⟨isWritten_of_mem_newline level, isWritten_of_mem_renderAt item level⟩
  | item :: next :: items =>
    rw [renderItems_cons, List.forall_mem_append, List.forall_mem_append, List.forall_mem_cons]
    exact ⟨⟨isWritten_of_mem_newline level, isWritten_of_mem_renderAt item level⟩, by decide,
      isWritten_of_mem_renderItems (next :: items) level⟩

theorem isWritten_of_mem_renderFields (fields : List (Text × Json)) (level : Nat) :
    ∀ c ∈ renderFields level fields, IsWritten c := by
  match fields with
  | [] => exact fun c hc => absurd hc List.not_mem_nil
  | [(key, value)] =>
    rw [renderFields_singleton, List.forall_mem_append, List.forall_mem_append,
      List.forall_mem_cons, List.forall_mem_cons]
    exact ⟨isWritten_of_mem_newline level, isWritten_of_mem_quote key, by decide, by decide,
      isWritten_of_mem_renderAt value level⟩
  | (key, value) :: field :: fields =>
    rw [renderFields_cons, List.forall_mem_append, List.forall_mem_append, List.forall_mem_cons,
      List.forall_mem_cons, List.forall_mem_append, List.forall_mem_cons]
    exact ⟨isWritten_of_mem_newline level, isWritten_of_mem_quote key, by decide, by decide,
      isWritten_of_mem_renderAt value level, by decide,
      isWritten_of_mem_renderFields (field :: fields) level⟩

end

end Pinpoint.Json
