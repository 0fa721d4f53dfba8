import LinuxAgent.Lib.Text

/-!
# JSON

JSON values, the compact text of a value and a reader of JSON texts. The reader gives back
every value from its text, so two values with one text are equal. Integers are kept apart
from the numbers that are written with a fraction or an exponent. Reading an object that
names a key twice keeps both fields; looking up a key finds the last one.
-/

namespace Json

/-- A JSON value. The fields of an object stand in the order in which they were written. -/
inductive Value where
  | null
  | bool (b : Bool)
  | number (n : ℤ)
  /-- The digits with the point moved, written with a fraction or an exponent; and minus zero. -/
  | float (negative : Bool) (digits : ℕ) (exponent : ℤ)
  | string (s : String)
  | array (items : List Value)
  | object (fields : List (String × Value))

/-- How a character stands inside a string. -/
def escapeChar (c : Char) : List Char :=
  if c = '"' then ['\\', '"']
  else if c = '\\' then ['\\', '\\']
  else if c = '\x08' then ['\\', 'b']
  else if c = '\x0c' then ['\\', 'f']
  else if c = '\n' then ['\\', 'n']
  else if c = '\r' then ['\\', 'r']
  else if c = '\t' then ['\\', 't']
  else if c.toNat < 32 then
    ['\\', 'u', '0', '0', Nat.digitChar (c.toNat / 16), Nat.digitChar (c.toNat % 16)]
  else [c]

/-- A string in its quotes. -/
def quote (s : String) : List Char := '"' :: s.toList.flatMap escapeChar ++ ['"']

/-- A number in decimal. -/
def numeral : ℤ → List Char
  | .ofNat n => Nat.toDigits 10 n
  | .negSucc n => '-' :: Nat.toDigits 10 (n + 1)

/-- A number with an exponent. -/
def floatNumeral (negative : Bool) (digits : ℕ) (exponent : ℤ) : List Char :=
  (if negative then ['-'] else []) ++ (Nat.toDigits 10 digits ++ 'e' :: numeral exponent)

mutual

/-- The text of a value, without blanks. -/
def chars : Value → List Char
  | .null => "null".toList
  | .bool true => "true".toList
  | .bool false => "false".toList
  | .number n => numeral n
  | .float negative digits exponent => floatNumeral negative digits exponent
  | .string s => quote s
  | .array [] => ['[', ']']
  | .array (v :: items) => '[' :: chars v ++ itemsTail items
  | .object [] => ['\x7b', '\x7d']
  | .object ((key, v) :: fields) => '\x7b' :: quote key ++ ':' :: chars v ++ fieldsTail fields

/-- The text of the items after the first one. -/
def itemsTail : List Value → List Char
  | [] => [']']
  | v :: items => ',' :: chars v ++ itemsTail items

/-- The text of the fields after the first one. -/
def fieldsTail : List (String × Value) → List Char
  | [] => ['\x7d']
  | (key, v) :: fields => ',' :: quote key ++ ':' :: chars v ++ fieldsTail fields

end

/-- The text of a value. -/
def print (v : Value) : String := String.ofList (chars v)

/-- The characters that may stand between the tokens. -/
def isBlank (c : Char) : Bool := c = ' ' || c = '\t' || c = '\n' || c = '\r'

/-- What is left after the blanks. -/
def skipBlanks (cs : List Char) : List Char := cs.dropWhile isBlank

/-- The escapes of one letter. -/
def letterEscapes : List (Char × Char) :=
  [('"', '"'), ('\\', '\\'), ('/', '/'), ('b', '\x08'), ('f', '\x0c'), ('n', '\n'), ('r', '\r'),
    ('t', '\t')]

/-- The value of a hexadecimal digit of either case. -/
def hexValue (c : Char) : Option ℕ :=
  if c.isDigit then some (c.toNat - '0'.toNat)
  else if 'a' ≤ c ∧ c ≤ 'f' then some (c.toNat - 'a'.toNat + 10)
  else if 'A' ≤ c ∧ c ≤ 'F' then some (c.toNat - 'A'.toNat + 10)
  else none

/-- The value of four hexadecimal digits at the start of a text. -/
def hexWord : List Char → Option ℕ
  | a :: b :: c :: d :: _ => do
    let a ← hexValue a
    let b ← hexValue b
    let c ← hexValue c
    let d ← hexValue d
    some (4096 * a + 256 * b + 16 * c + d)
  | _ => none

/-- The character of an escape with a code and the number of characters it takes after the
backslash. A code above the first plane is written as a pair. -/
def readCode (cs : List Char) : Option (Char × ℕ) := do
  let high ← hexWord cs
  if high < 0xD800 ∨ 0xE000 ≤ high then some (Char.ofNat high, 5)
  else if high < 0xDC00 ∧ "\\u".toList <+: cs.drop 4 then do
    let low ← hexWord (cs.drop 6)
    if 0xDC00 ≤ low ∧ low < 0xE000 then
      some (Char.ofNat (0x10000 + 1024 * (high - 0xD800) + (low - 0xDC00)), 11)
    else none
  else none

/-- What an escape stands for and the number of characters it takes after the backslash. -/
def readEscape : List Char → Option (Char × ℕ)
  | [] => none
  | c :: cs => if c = 'u' then readCode cs else (letterEscapes.lookup c).map fun d => (d, 1)

/-- The characters up to the closing quote and what follows it, after `skip` characters that
an escape has taken. -/
def readString : (skip : ℕ) → List Char → Option (List Char × List Char)
  | _, [] => none
  | skip + 1, _ :: cs => readString skip cs
  | 0, c :: cs =>
    if c = '"' then some ([], cs)
    else if c = '\\' then
      (readEscape cs).bind fun e => (readString e.2 cs).map fun r => (e.1 :: r.1, r.2)
    else if c.toNat < 32 then none
    else (readString 0 cs).map fun r => (c :: r.1, r.2)

/-- A numeral without a sign; a zero starts no longer one. -/
def readDigits (cs : List Char) : Option (ℕ × List Char) := do
  let digits := cs.takeWhile Char.isDigit
  let n ← Text.decimal digits
  if Nat.toDigits 10 n = digits then some (n, cs.dropWhile Char.isDigit) else none

/-- The digits after a point, if there is one. -/
def readFraction : List Char → Option (List Char × List Char)
  | [] => some ([], [])
  | c :: cs =>
    if c = '.' then
      if cs.takeWhile Char.isDigit = [] then none
      else some (cs.takeWhile Char.isDigit, cs.dropWhile Char.isDigit)
    else some ([], c :: cs)

/-- The number after the letter of an exponent. -/
def readPower : List Char → Option (ℤ × List Char)
  | [] => none
  | c :: cs =>
    let digits := if c = '+' ∨ c = '-' then cs else c :: cs
    (Text.decimal (digits.takeWhile Char.isDigit)).map fun n =>
      (if c = '-' then -(n : ℤ) else n, digits.dropWhile Char.isDigit)

/-- The exponent, if there is one. -/
def readExponent : List Char → Option (Option ℤ × List Char)
  | [] => some (none, [])
  | c :: cs =>
    if c = 'e' ∨ c = 'E' then (readPower cs).map fun r => (some r.1, r.2)
    else some (none, c :: cs)

/-- A number after its sign. -/
def readUnsigned (negative : Bool) (cs : List Char) : Option (Value × List Char) := do
  let whole ← readDigits cs
  let fraction ← readFraction whole.2
  let exponent ← readExponent fraction.2
  if fraction.1 = [] ∧ exponent.1 = none ∧ (negative = false ∨ whole.1 ≠ 0) then
    some (.number (if negative then -(whole.1 : ℤ) else whole.1), exponent.2)
  else
    let digits ← Text.decimal (Nat.toDigits 10 whole.1 ++ fraction.1)
    some (.float negative digits (exponent.1.getD 0 - fraction.1.length), exponent.2)

/-- A number. -/
def readNumber : List Char → Option (Value × List Char)
  | [] => none
  | c :: cs => if c = '-' then readUnsigned true cs else readUnsigned false (c :: cs)

/-- The next character after blanks, and what follows it. -/
def next (cs : List Char) : Option (Char × List Char) :=
  (skipBlanks cs).head?.map fun c => (c, (skipBlanks cs).tail)

/-- What follows the character, which must come next. -/
def expect (c : Char) (cs : List Char) : Option (List Char) := do
  let r ← next cs
  if r.1 = c then some r.2 else none

/-- What follows the word, which must come next. -/
def expectWord (word cs : List Char) : Option (List Char) :=
  if word <+: cs then some (cs.drop word.length) else none

/-- A key with its colon. -/
def readKey (cs : List Char) : Option (String × List Char) := do
  let start ← expect '"' cs
  let key ← readString 0 start
  let rest ← expect ':' key.2
  some (String.ofList key.1, rest)

/-- The values without parts. -/
def readAtom (cs : List Char) : Option (Value × List Char) :=
  ((expectWord "null".toList cs).map fun rest => (.null, rest)).or <|
  ((expectWord "true".toList cs).map fun rest => (.bool true, rest)).or <|
  ((expectWord "false".toList cs).map fun rest => (.bool false, rest)).or <|
  readNumber cs

mutual

/-- A value and what follows it; the fuel bounds how deep the parts may lie and how many an
array or an object may have. -/
def readValue : (fuel : ℕ) → List Char → Option (Value × List Char)
  | 0, _ => none
  | fuel + 1, cs => do
    let first ← next cs
    if first.1 = '"' then
      (readString 0 first.2).map fun s => (.string (String.ofList s.1), s.2)
    else if first.1 = '[' then
      ((expect ']' first.2).map fun rest => (.array [], rest)) <|> do
        let v ← readValue fuel first.2
        let items ← readItems fuel v.2
        some (.array (v.1 :: items.1), items.2)
    else if first.1 = '\x7b' then
      ((expect '\x7d' first.2).map fun rest => (.object [], rest)) <|> do
        let key ← readKey first.2
        let v ← readValue fuel key.2
        let fields ← readFields fuel v.2
        some (.object ((key.1, v.1) :: fields.1), fields.2)
    else readAtom (skipBlanks cs)

/-- The items after the first one. -/
def readItems : (fuel : ℕ) → List Char → Option (List Value × List Char)
  | 0, _ => none
  | fuel + 1, cs =>
    ((expect ']' cs).map fun rest => ([], rest)) <|> do
      let start ← expect ',' cs
      let v ← readValue fuel start
      let items ← readItems fuel v.2
      some (v.1 :: items.1, items.2)

/-- The fields after the first one. -/
def readFields : (fuel : ℕ) → List Char → Option (List (String × Value) × List Char)
  | 0, _ => none
  | fuel + 1, cs =>
    ((expect '\x7d' cs).map fun rest => ([], rest)) <|> do
      let start ← expect ',' cs
      let key ← readKey start
      let v ← readValue fuel key.2
      let fields ← readFields fuel v.2
      some ((key.1, v.1) :: fields.1, fields.2)

end

/-- The value of a JSON text. -/
def read (text : String) : Option Value := do
  let v ← readValue (text.length + 1) text.toList
  if skipBlanks v.2 = [] then some v.1 else none

/-- The characters that an escape has taken are skipped. -/
theorem readString_length_append (taken cs : List Char) :
    readString taken.length (taken ++ cs) = readString 0 cs := by
  induction taken with
  | nil => rfl
  | cons c taken ih => exact ih

/-- A character that needs no escape. -/
theorem readString_cons_of_plain {c : Char} {cs : List Char} (hquote : c ≠ '"') (hslash : c ≠ '\\')
    (hcode : 32 ≤ c.toNat) :
    readString 0 (c :: cs) = (readString 0 cs).map fun r => (c :: r.1, r.2) := by
  rw [readString, if_neg hquote, if_neg hslash, if_neg (by omega : ¬c.toNat < 32)]

/-- An escape. -/
theorem readString_cons_of_escape {d : Char} {taken cs : List Char}
    (h : readEscape (taken ++ cs) = some (d, taken.length)) :
    readString 0 ('\\' :: taken ++ cs) = (readString 0 cs).map fun r => (d :: r.1, r.2) := by
  rw [List.cons_append, readString, if_neg (by decide), if_pos rfl, h, Option.bind_some,
    readString_length_append]

/-- An escape of one letter. -/
theorem readEscape_letter {letter d : Char} (hletter : letter ≠ 'u')
    (h : letterEscapes.lookup letter = some d) (cs : List Char) :
    readEscape ([letter] ++ cs) = some (d, 1) := by
  rw [List.singleton_append, readEscape, if_neg hletter, h]
  rfl

/-- A hexadecimal digit is read back. -/
theorem hexValue_digitChar : ∀ n < 16, hexValue (Nat.digitChar n) = some n := by
  decide

/-- The escape of a control character. -/
theorem readEscape_code {c : Char} (h : c.toNat < 32) (cs : List Char) :
    readEscape (['u', '0', '0', Nat.digitChar (c.toNat / 16), Nat.digitChar (c.toNat % 16)] ++ cs) =
      some (c, 5) := by
  have hword (rest : List Char) :
      hexWord ('0' :: '0' :: Nat.digitChar (c.toNat / 16) :: Nat.digitChar (c.toNat % 16) :: rest) =
        some c.toNat := by
    have hzero : hexValue '0' = some 0 := by decide
    have hsum : 4096 * 0 + 256 * 0 + 16 * (c.toNat / 16) + c.toNat % 16 = c.toNat := by omega
    simp only [hexWord, hzero, hexValue_digitChar (c.toNat / 16) (by omega),
      hexValue_digitChar (c.toNat % 16) (by omega), Option.bind_eq_bind, Option.bind_some, hsum]
  simp only [List.cons_append, List.nil_append, readEscape, readCode, if_pos, hword,
    Option.bind_eq_bind, Option.bind_some]
  rw [if_pos (Or.inl (by omega)), Char.ofNat_toNat]

/-- A character of a string is read back from its escape. -/
theorem readString_escapeChar (c : Char) (cs : List Char) :
    readString 0 (escapeChar c ++ cs) = (readString 0 cs).map fun r => (c :: r.1, r.2) := by
  have hletter (letter d : Char) (hne : letter ≠ 'u') (h : letterEscapes.lookup letter = some d) :
      readString 0 (['\\', letter] ++ cs) = (readString 0 cs).map fun r => (d :: r.1, r.2) :=
    @readString_cons_of_escape d [letter] cs (readEscape_letter hne h cs)
  unfold escapeChar
  split
  · next h => exact h ▸ hletter '"' '"' (by decide) (by decide)
  split
  · next h => exact h ▸ hletter '\\' '\\' (by decide) (by decide)
  split
  · next h => exact h ▸ hletter 'b' '\x08' (by decide) (by decide)
  split
  · next h => exact h ▸ hletter 'f' '\x0c' (by decide) (by decide)
  split
  · next h => exact h ▸ hletter 'n' '\n' (by decide) (by decide)
  split
  · next h => exact h ▸ hletter 'r' '\r' (by decide) (by decide)
  split
  · next h => exact h ▸ hletter 't' '\t' (by decide) (by decide)
  split
  · next h => exact readString_cons_of_escape (readEscape_code h cs)
  · next hquote hslash _ _ _ _ _ hcode =>
    exact readString_cons_of_plain hquote hslash (by omega)

/-- A string is read back from between its quotes. -/
theorem readString_flatMap (s cs : List Char) :
    readString 0 (s.flatMap escapeChar ++ '"' :: cs) = some (s, cs) := by
  induction s with
  | nil => rfl
  | cons c s ih => rw [List.flatMap_cons, List.append_assoc, readString_escapeChar, ih]; rfl

/-- What may follow the digits of a numeral. -/
def EndsDigits (rest : List Char) : Prop := rest.head?.any Char.isDigit = false

/-- What may follow a numeral. -/
def EndsNumeral (rest : List Char) : Prop :=
  rest.head?.any (fun c => c.isDigit || c = '.' || c = 'e' || c = 'E') = false

/-- After a numeral there is none of its characters. -/
theorem EndsNumeral.of_cons {c : Char} {rest : List Char} (h : EndsNumeral (c :: rest)) :
    c.isDigit = false ∧ c ≠ '.' ∧ c ≠ 'e' ∧ c ≠ 'E' := by
  simpa [EndsNumeral, and_assoc] using h

/-- After a numeral there is no digit. -/
theorem EndsNumeral.endsDigits {rest : List Char} (h : EndsNumeral rest) : EndsDigits rest := by
  cases rest with
  | nil => rfl
  | cons c rest => simpa [EndsDigits] using h.of_cons.1

/-- The digits of a number end where no digit follows. -/
theorem span_toDigits (n : ℕ) {rest : List Char} (h : EndsDigits rest) :
    (Nat.toDigits 10 n ++ rest).takeWhile Char.isDigit = Nat.toDigits 10 n ∧
      (Nat.toDigits 10 n ++ rest).dropWhile Char.isDigit = rest := by
  have hdigits : ∀ c ∈ Nat.toDigits 10 n, c.isDigit = true := fun c hc =>
    Nat.isDigit_of_mem_toDigits (by decide) (by decide) hc
  have hrest : rest.takeWhile Char.isDigit = [] ∧ rest.dropWhile Char.isDigit = rest := by
    cases rest with
    | nil => exact ⟨rfl, rfl⟩
    | cons c rest =>
      have hc : ¬c.isDigit = true := by simpa [EndsDigits] using h
      exact ⟨List.takeWhile_cons_of_neg hc, List.dropWhile_cons_of_neg hc⟩
  rw [List.takeWhile_append_of_pos hdigits, List.dropWhile_append_of_pos hdigits, hrest.1,
    hrest.2, List.append_nil]
  exact ⟨rfl, rfl⟩

/-- The digits of a number are read back. -/
theorem readDigits_toDigits (n : ℕ) {rest : List Char} (h : EndsDigits rest) :
    readDigits (Nat.toDigits 10 n ++ rest) = some (n, rest) := by
  obtain ⟨htake, hdrop⟩ := span_toDigits n h
  rw [readDigits, htake, hdrop, Text.decimal_toDigits]
  simp

/-- The digits of a number begin with a digit. -/
theorem exists_toDigits_eq_cons (n : ℕ) :
    ∃ c cs, Nat.toDigits 10 n = c :: cs ∧ c.isDigit = true := by
  obtain ⟨c, cs, hcs⟩ := List.exists_cons_of_ne_nil (Nat.toDigits_ne_nil (n := n) (b := 10))
  exact ⟨c, cs, hcs, Nat.isDigit_of_mem_toDigits (by decide) (by decide) (hcs ▸ List.mem_cons_self)⟩

/-- Where no point follows there is no fraction. -/
theorem readFraction_of_ne {rest : List Char} (h : ∀ c ∈ rest.head?, c ≠ '.') :
    readFraction rest = some ([], rest) := by
  cases rest with
  | nil => rfl
  | cons c rest => exact if_neg (h c rfl)

/-- Where no letter of an exponent follows there is none. -/
theorem readExponent_of_ends {rest : List Char} (h : EndsNumeral rest) :
    readExponent rest = some (none, rest) := by
  cases rest with
  | nil => rfl
  | cons c rest =>
    obtain ⟨-, -, he, hE⟩ := h.of_cons
    exact if_neg (not_or.mpr ⟨he, hE⟩)

/-- An exponent is read back. -/
theorem readPower_numeral (e : ℤ) {rest : List Char} (h : EndsDigits rest) :
    readPower (numeral e ++ rest) = some (e, rest) := by
  cases e with
  | ofNat n =>
    obtain ⟨htake, hdrop⟩ := span_toDigits n h
    obtain ⟨c, cs, hcs, hdigit⟩ := exists_toDigits_eq_cons n
    have hplus : ¬(c = '+' ∨ c = '-') := by
      rintro (rfl | rfl)
      · exact absurd hdigit (by decide)
      · exact absurd hdigit (by decide)
    have hminus : c ≠ '-' := fun hc => hplus (.inr hc)
    rw [hcs, List.cons_append] at htake hdrop
    rw [numeral, hcs, List.cons_append, readPower]
    simp only [if_neg hplus, if_neg hminus, htake, hdrop]
    rw [← hcs, Text.decimal_toDigits]
    rfl
  | negSucc n =>
    obtain ⟨htake, hdrop⟩ := span_toDigits (n + 1) h
    rw [numeral, List.cons_append, readPower]
    simp only [or_true, if_true, htake, hdrop, Text.decimal_toDigits]
    rfl

/-- The digits of an integer are read back. -/
theorem readUnsigned_toDigits {negative : Bool} {n : ℕ} (hzero : negative = false ∨ n ≠ 0)
    {rest : List Char} (h : EndsNumeral rest) :
    readUnsigned negative (Nat.toDigits 10 n ++ rest) =
      some (.number (if negative then -(n : ℤ) else n), rest) := by
  have hpoint : ∀ c ∈ rest.head?, c ≠ '.' := by
    intro c hc
    obtain ⟨tail, rfl⟩ : ∃ tail, rest = c :: tail := by
      cases rest with
      | nil => cases hc
      | cons d tail => exact ⟨tail, by rw [Option.some.inj hc]⟩
    exact h.of_cons.2.1
  simp only [readUnsigned, readDigits_toDigits n h.endsDigits, readFraction_of_ne hpoint,
    readExponent_of_ends h, Option.bind_eq_bind, Option.bind_some, hzero, and_self, if_true]

/-- The digits and the exponent of a number are read back. -/
theorem readUnsigned_floatNumeral (negative : Bool) (digits : ℕ) (exponent : ℤ) {rest : List Char}
    (h : EndsNumeral rest) :
    readUnsigned negative (Nat.toDigits 10 digits ++ 'e' :: (numeral exponent ++ rest)) =
      some (.float negative digits exponent, rest) := by
  have hletter : EndsDigits ('e' :: (numeral exponent ++ rest)) := by rfl
  have hpoint : ∀ c ∈ ('e' :: (numeral exponent ++ rest)).head?, c ≠ '.' := by
    rintro c hc rfl
    exact absurd (Option.some.inj hc) (by decide)
  have hexponent : readExponent ('e' :: (numeral exponent ++ rest)) =
      some (some exponent, rest) := by
    rw [readExponent, if_pos (.inl rfl), readPower_numeral exponent h.endsDigits]
    rfl
  simp [readUnsigned, readDigits_toDigits digits hletter, readFraction_of_ne hpoint, hexponent,
    Text.decimal_toDigits]

/-- An integer is read back. -/
theorem readNumber_numeral (n : ℤ) {rest : List Char} (h : EndsNumeral rest) :
    readNumber (numeral n ++ rest) = some (.number n, rest) := by
  cases n with
  | ofNat n =>
    obtain ⟨c, cs, hcs, hdigit⟩ := exists_toDigits_eq_cons n
    have hc : c ≠ '-' := by
      rintro rfl
      exact absurd hdigit (by decide)
    have hread := @readUnsigned_toDigits false n (.inl rfl) _ h
    rw [hcs, List.cons_append] at hread
    rw [numeral, hcs, List.cons_append, readNumber, if_neg hc, hread]
    rfl
  | negSucc n =>
    rw [numeral, List.cons_append, readNumber, if_pos rfl,
      readUnsigned_toDigits (.inr (Nat.succ_ne_zero n)) h]
    rfl

/-- A number with an exponent is read back. -/
theorem readNumber_floatNumeral (negative : Bool) (digits : ℕ) (exponent : ℤ) {rest : List Char}
    (h : EndsNumeral rest) :
    readNumber (floatNumeral negative digits exponent ++ rest) =
      some (.float negative digits exponent, rest) := by
  have hread := readUnsigned_floatNumeral negative digits exponent h
  cases negative with
  | true =>
    rw [floatNumeral, if_pos rfl, List.append_assoc, List.singleton_append, readNumber, if_pos rfl,
      List.append_assoc, List.cons_append, hread]
  | false =>
    obtain ⟨c, cs, hcs, hdigit⟩ := exists_toDigits_eq_cons digits
    have hc : c ≠ '-' := by
      rintro rfl
      exact absurd hdigit (by decide)
    rw [hcs, List.cons_append] at hread
    rw [floatNumeral, if_neg Bool.false_ne_true, List.nil_append, hcs, List.append_assoc,
      List.cons_append, List.cons_append, readNumber, if_neg hc, hread]

/-- A digit is not another character. -/
theorem ne_of_isDigit {c d : Char} (hc : c.isDigit = true) (hd : d.isDigit = false) : c ≠ d :=
  fun h => Bool.false_ne_true (hd.symm.trans (h ▸ hc))

/-- A digit is not a blank. -/
theorem isBlank_of_isDigit {c : Char} (hc : c.isDigit = true) : isBlank c = false := by
  simp [isBlank, ne_of_isDigit hc (d := ' ') (by decide), ne_of_isDigit hc (d := '\t') (by decide),
    ne_of_isDigit hc (d := '\n') (by decide), ne_of_isDigit hc (d := '\r') (by decide)]

/-- A text that starts with a sign or a digit. -/
def StartsNumeral (cs : List Char) : Prop := ∃ c tail, cs = c :: tail ∧ (c = '-' ∨ c.isDigit = true)

/-- What follows does not change the start of a numeral. -/
theorem StartsNumeral.append {cs : List Char} (h : StartsNumeral cs) (rest : List Char) :
    StartsNumeral (cs ++ rest) := by
  obtain ⟨c, tail, rfl, hc⟩ := h
  exact ⟨c, tail ++ rest, rfl, hc⟩

/-- The digits of a number start a numeral. -/
theorem startsNumeral_toDigits (n : ℕ) : StartsNumeral (Nat.toDigits 10 n) := by
  obtain ⟨c, cs, hcs, hdigit⟩ := exists_toDigits_eq_cons n
  exact ⟨c, cs, hcs, .inr hdigit⟩

/-- The text of an integer is a numeral. -/
theorem startsNumeral_numeral (n : ℤ) : StartsNumeral (numeral n) := by
  cases n with
  | ofNat n => exact startsNumeral_toDigits n
  | negSucc n => exact ⟨_, _, rfl, .inl rfl⟩

/-- The text of a number with an exponent is a numeral. -/
theorem startsNumeral_floatNumeral (negative : Bool) (digits : ℕ) (exponent : ℤ) :
    StartsNumeral (floatNumeral negative digits exponent) := by
  cases negative with
  | true => exact ⟨_, _, rfl, .inl rfl⟩
  | false => exact (startsNumeral_toDigits digits).append _

/-- A numeral starts with a character that is no blank, no quote and no bracket. -/
theorem StartsNumeral.ne {cs : List Char} (h : StartsNumeral cs) : ∃ c tail, cs = c :: tail ∧
    isBlank c = false ∧ ∀ d, d ≠ '-' → d.isDigit = false → c ≠ d := by
  obtain ⟨c, tail, rfl, rfl | hdigit⟩ := h
  · exact ⟨_, tail, rfl, by decide, fun d hd _ => hd.symm⟩
  · exact ⟨c, tail, rfl, isBlank_of_isDigit hdigit, fun d _ hd => ne_of_isDigit hdigit hd⟩

/-- The text of a value starts with a character that is no blank and closes nothing. -/
theorem exists_chars_eq_cons (v : Value) :
    ∃ c cs, chars v = c :: cs ∧ isBlank c = false ∧ c ≠ ']' ∧ c ≠ '\x7d' := by
  cases v with
  | null => exact ⟨_, _, rfl, by decide⟩
  | bool b => cases b <;> exact ⟨_, _, rfl, by decide⟩
  | number n =>
    obtain ⟨c, cs, hcs, hblank, hne⟩ := (startsNumeral_numeral n).ne
    exact ⟨c, cs, hcs, hblank, hne _ (by decide) (by decide), hne _ (by decide) (by decide)⟩
  | float negative digits exponent =>
    obtain ⟨c, cs, hcs, hblank, hne⟩ := (startsNumeral_floatNumeral negative digits exponent).ne
    exact ⟨c, cs, hcs, hblank, hne _ (by decide) (by decide), hne _ (by decide) (by decide)⟩
  | string s => exact ⟨_, _, rfl, by decide⟩
  | array items => cases items <;> exact ⟨_, _, rfl, by decide⟩
  | object fields => cases fields <;> exact ⟨_, _, rfl, by decide⟩

/-- A character that is no blank is the next one. -/
theorem next_cons {c : Char} (h : isBlank c = false) (cs : List Char) :
    next (c :: cs) = some (c, cs) := by
  have hskip : skipBlanks (c :: cs) = c :: cs := List.dropWhile_cons_of_neg (by simp [h])
  rw [next, hskip]
  rfl

/-- The character that is expected is there. -/
theorem expect_cons {c : Char} (h : isBlank c = false) (cs : List Char) :
    expect c (c :: cs) = some cs := by
  simp [expect, next_cons h]

/-- Another character is there. -/
theorem expect_cons_of_ne {c d : Char} (h : isBlank d = false) (hne : d ≠ c) (cs : List Char) :
    expect c (d :: cs) = none := by
  simp [expect, next_cons h, hne]

/-- A value does not start with a closing bracket. -/
theorem expect_chars {c : Char} (hc : c = ']' ∨ c = '\x7d') (v : Value) (rest : List Char) :
    expect c (chars v ++ rest) = none := by
  obtain ⟨d, cs, hcs, hblank, hbracket, hbrace⟩ := exists_chars_eq_cons v
  rw [hcs, List.cons_append]
  refine expect_cons_of_ne hblank ?_ _
  obtain rfl | rfl := hc
  · exact hbracket
  · exact hbrace

/-- A key with its colon is read back. -/
theorem readKey_quote (key : String) (rest : List Char) :
    readKey (quote key ++ ':' :: rest) = some (key, rest) := by
  have hstart : expect '"' (quote key ++ ':' :: rest) =
      some (key.toList.flatMap escapeChar ++ '"' :: ':' :: rest) := by
    rw [quote, List.cons_append, List.cons_append, List.append_assoc, expect_cons (by decide)]
    rfl
  simp only [readKey, hstart, Option.bind_eq_bind, Option.bind_some, readString_flatMap,
    expect_cons (c := ':') (by decide), String.ofList_toList]

/-- Another word is there. -/
theorem expectWord_of_ne {c d : Char} (hne : c ≠ d) (word cs : List Char) :
    expectWord (c :: word) (d :: cs) = none :=
  if_neg fun h => hne (List.cons_prefix_cons.mp h).1

/-- A numeral is none of the words. -/
theorem readAtom_of_startsNumeral {cs : List Char} (h : StartsNumeral cs) :
    readAtom cs = readNumber cs := by
  obtain ⟨c, tail, rfl, -, hne⟩ := h.ne
  have hword {d : Char} (hd : d ≠ '-' ∧ d.isDigit = false) (word : List Char) :
      expectWord (d :: word) (c :: tail) = none :=
    expectWord_of_ne (hne d hd.1 hd.2).symm word tail
  have hnull : expectWord "null".toList (c :: tail) = none := hword (by decide) _
  have htrue : expectWord "true".toList (c :: tail) = none := hword (by decide) _
  have hfalse : expectWord "false".toList (c :: tail) = none := hword (by decide) _
  simp only [readAtom, hnull, htrue, hfalse, Option.map_none, Option.none_or]

/-- The text after an item or a field goes on with a comma or a bracket. -/
theorem endsNumeral_cons {c : Char} (h : c = ',' ∨ c = ']' ∨ c = '\x7d') (cs : List Char) :
    EndsNumeral (c :: cs) := by
  rcases h with rfl | rfl | rfl <;> rfl

/-- The items after the first one do not go on with a numeral. -/
theorem endsNumeral_itemsTail (items : List Value) (rest : List Char) :
    EndsNumeral (itemsTail items ++ rest) := by
  cases items <;> exact endsNumeral_cons (by decide) _

/-- The fields after the first one do not go on with a numeral. -/
theorem endsNumeral_fieldsTail (fields : List (String × Value)) (rest : List Char) :
    EndsNumeral (fieldsTail fields ++ rest) := by
  cases fields <;> exact endsNumeral_cons (by decide) _

/-- A value that is no string, array or object. -/
theorem readValue_atom {c : Char} (hblank : isBlank c = false) (hquote : c ≠ '"')
    (hbracket : c ≠ '[') (hbrace : c ≠ '\x7b') (fuel : ℕ) (cs : List Char) :
    readValue (fuel + 1) (c :: cs) = readAtom (c :: cs) := by
  have hskip : skipBlanks (c :: cs) = c :: cs := List.dropWhile_cons_of_neg (by simp [hblank])
  rw [readValue, next_cons hblank, Option.bind_eq_bind, Option.bind_some, if_neg hquote,
    if_neg hbracket, if_neg hbrace, hskip]

/-- A numeral is read as a value. -/
theorem readValue_of_startsNumeral {cs : List Char} (h : StartsNumeral cs) (fuel : ℕ) :
    readValue (fuel + 1) cs = readNumber cs := by
  obtain ⟨c, tail, hcs, hblank, hne⟩ := h.ne
  rw [← readAtom_of_startsNumeral h, hcs]
  exact readValue_atom hblank (hne _ (by decide) (by decide)) (hne _ (by decide) (by decide))
    (hne _ (by decide) (by decide)) fuel tail

section Steps

variable {v : Value} {items : List Value} {key : String} {fields : List (String × Value)}
  {fuel : ℕ} {rest : List Char}

/-- An array is read item by item. -/
theorem readValue_array
    (hread : readValue fuel (chars v ++ (itemsTail items ++ rest)) =
      some (v, itemsTail items ++ rest))
    (htail : readItems fuel (itemsTail items ++ rest) = some (items, rest)) :
    readValue (fuel + 1) (chars (.array (v :: items)) ++ rest) =
      some (.array (v :: items), rest) := by
  rw [chars, List.cons_append, List.cons_append, List.append_assoc, readValue]
  simp [next_cons (c := '[') (by decide), expect_chars (.inl rfl) v, hread, htail]

/-- The items are read back if the first one and the others are. -/
theorem readItems_cons
    (hread : readValue fuel (chars v ++ (itemsTail items ++ rest)) =
      some (v, itemsTail items ++ rest))
    (htail : readItems fuel (itemsTail items ++ rest) = some (items, rest)) :
    readItems (fuel + 1) (itemsTail (v :: items) ++ rest) = some (v :: items, rest) := by
  rw [itemsTail, List.cons_append, List.cons_append, List.append_assoc, readItems,
    expect_cons_of_ne (by decide) (by decide), expect_cons (by decide)]
  simp [hread, htail]

/-- An object is read field by field. -/
theorem readValue_object
    (hread : readValue fuel (chars v ++ (fieldsTail fields ++ rest)) =
      some (v, fieldsTail fields ++ rest))
    (htail : readFields fuel (fieldsTail fields ++ rest) = some (fields, rest)) :
    readValue (fuel + 1) (chars (.object ((key, v) :: fields)) ++ rest) =
      some (.object ((key, v) :: fields), rest) := by
  have hkey (text : List Char) : expect '\x7d' (quote key ++ text) = none :=
    expect_cons_of_ne (by decide) (by decide) _
  rw [chars, List.cons_append, List.append_assoc, readValue]
  simp [next_cons (c := '\x7b') (by decide), hkey, readKey_quote, hread, htail]

/-- The fields are read back if the first one and the others are. -/
theorem readFields_cons
    (hread : readValue fuel (chars v ++ (fieldsTail fields ++ rest)) =
      some (v, fieldsTail fields ++ rest))
    (htail : readFields fuel (fieldsTail fields ++ rest) = some (fields, rest)) :
    readFields (fuel + 1) (fieldsTail ((key, v) :: fields) ++ rest) =
      some ((key, v) :: fields, rest) := by
  rw [fieldsTail, List.cons_append, List.append_assoc, readFields, List.cons_append,
    expect_cons_of_ne (by decide) (by decide), expect_cons (by decide)]
  simp [readKey_quote, hread, htail]

end Steps

/-- The text of a value is never empty. -/
theorem length_chars_pos (v : Value) : 0 < (chars v).length := by
  obtain ⟨c, cs, hcs, -⟩ := exists_chars_eq_cons v
  simp [hcs]

mutual

/-- A value is read back from its text, whatever follows. -/
theorem readValue_chars (v : Value) {fuel : ℕ} {rest : List Char}
    (hfuel : (chars v).length ≤ fuel) (hrest : EndsNumeral rest) :
    readValue fuel (chars v ++ rest) = some (v, rest) := by
  obtain ⟨fuel, rfl⟩ := Nat.exists_eq_add_one.mpr ((length_chars_pos v).trans_le hfuel)
  match v with
  | .null => exact readValue_atom (by decide) (by decide) (by decide) (by decide) fuel _
  | .bool true => exact readValue_atom (by decide) (by decide) (by decide) (by decide) fuel _
  | .bool false => exact readValue_atom (by decide) (by decide) (by decide) (by decide) fuel _
  | .number n =>
    exact (readValue_of_startsNumeral ((startsNumeral_numeral n).append rest) fuel).trans
      (readNumber_numeral n hrest)
  | .float negative digits exponent =>
    have hstart := startsNumeral_floatNumeral negative digits exponent
    exact (readValue_of_startsNumeral (hstart.append rest) fuel).trans
      (readNumber_floatNumeral negative digits exponent hrest)
  | .string s =>
    rw [chars, quote, List.cons_append, List.cons_append, readValue, next_cons (by decide)]
    simp [readString_flatMap]
  | .array [] =>
    rw [chars, readValue]
    simp [next_cons (c := '[') (by decide), expect_cons (c := ']') (by decide)]
  | .object [] =>
    rw [chars, readValue]
    simp [next_cons (c := '\x7b') (by decide), expect_cons (c := '\x7d') (by decide)]
  | .array (v :: items) =>
    rw [chars] at hfuel
    simp only [List.length_append, List.length_cons] at hfuel
    exact readValue_array (readValue_chars v (by omega) (endsNumeral_itemsTail items rest))
      (readItems_itemsTail items (by omega))
  | .object ((key, v) :: fields) =>
    rw [chars] at hfuel
    simp only [List.length_append, List.length_cons] at hfuel
    exact readValue_object (readValue_chars v (by omega) (endsNumeral_fieldsTail fields rest))
      (readFields_fieldsTail fields (by omega))

/-- The items after the first one are read back. -/
theorem readItems_itemsTail (items : List Value) {fuel : ℕ} {rest : List Char}
    (hfuel : (itemsTail items).length ≤ fuel) :
    readItems fuel (itemsTail items ++ rest) = some (items, rest) := by
  match items with
  | [] =>
    obtain ⟨fuel, rfl⟩ := Nat.exists_eq_add_one.mpr (show 0 < fuel from hfuel)
    rw [itemsTail, readItems]
    simp [expect_cons (c := ']') (by decide)]
  | v :: items =>
    rw [itemsTail] at hfuel
    simp only [List.length_append, List.length_cons] at hfuel
    obtain ⟨fuel, rfl⟩ := Nat.exists_eq_add_one.mpr (show 0 < fuel by omega)
    exact readItems_cons (readValue_chars v (by omega) (endsNumeral_itemsTail items rest))
      (readItems_itemsTail items (by omega))

/-- The fields after the first one are read back. -/
theorem readFields_fieldsTail (fields : List (String × Value)) {fuel : ℕ} {rest : List Char}
    (hfuel : (fieldsTail fields).length ≤ fuel) :
    readFields fuel (fieldsTail fields ++ rest) = some (fields, rest) := by
  match fields with
  | [] =>
    obtain ⟨fuel, rfl⟩ := Nat.exists_eq_add_one.mpr (show 0 < fuel from hfuel)
    rw [fieldsTail, readFields]
    simp [expect_cons (c := '\x7d') (by decide)]
  | (key, v) :: fields =>
    rw [fieldsTail] at hfuel
    simp only [List.length_append, List.length_cons] at hfuel
    obtain ⟨fuel, rfl⟩ := Nat.exists_eq_add_one.mpr (show 0 < fuel by omega)
    exact readFields_cons (readValue_chars v (by omega) (endsNumeral_fieldsTail fields rest))
      (readFields_fieldsTail fields (by omega))

end

/-- Every value is read back from its text. -/
theorem read_print (v : Value) : read (print v) = some v := by
  have hread : readValue ((chars v).length + 1) (chars v ++ []) = some (v, []) :=
    readValue_chars v (by omega) rfl
  rw [List.append_nil] at hread
  rw [read, print, String.length_ofList, String.toList_ofList, hread]
  rfl

/-- The value of a key among the fields of an object; of a repeated key the last one counts. -/
def lookup (key : String) : List (String × Value) → Option Value
  | [] => none
  | (name, v) :: fields => (lookup key fields).or (if name = key then some v else none)

/-- The value of a key, if the value is an object that has it. -/
def Value.field (key : String) : Value → Option Value
  | .object fields => lookup key fields
  | _ => none

/-- `as_str` -/
def Value.asStr : Value → Option String
  | .string s => some s
  | _ => none

/-- `as_i64` -/
def Value.asInt : Value → Option ℤ
  | .number n => some n
  | _ => none

/-- `as_array` -/
def Value.asArray : Value → Option (List Value)
  | .array items => some items
  | _ => none

/-- The text under a key. -/
def Value.str (key : String) (v : Value) : Option String := (v.field key).bind asStr

/-- The number under a key. -/
def Value.int (key : String) (v : Value) : Option ℤ := (v.field key).bind asInt

/-- A field that is left out when there is nothing to write. -/
def optional (name : String) (value : Option String) : List (String × Value) :=
  value.toList.map fun s => (name, .string s)

/-- A text, or null. -/
def orNull (value : Option String) : Value := value.elim .null .string

section Lookup

variable {key name : String}

/-- There is nothing in an empty object. -/
@[simp] theorem lookup_nil : lookup key [] = none := rfl

/-- The last field with a name counts. -/
@[simp] theorem lookup_cons (v : Value) (fields : List (String × Value)) :
    lookup key ((name, v) :: fields) =
      (lookup key fields).or (if name = key then some v else none) := rfl

/-- The later fields come before the others. -/
@[simp] theorem lookup_append (left right : List (String × Value)) :
    lookup key (left ++ right) = (lookup key right).or (lookup key left) := by
  induction left with
  | nil => simp
  | cons field left ih =>
    obtain ⟨name, v⟩ := field
    simp [ih, Option.or_assoc]

/-- An optional field is there if it has a value. -/
@[simp] theorem lookup_optional (value : Option String) :
    lookup key (optional name value) = if name = key then value.map .string else none := by
  cases value <;> simp [optional]

/-- The text in a field of an object. -/
@[simp] theorem str_object (fields : List (String × Value)) :
    (Value.object fields).str key = (lookup key fields).bind Value.asStr := rfl

/-- The number in a field of an object. -/
@[simp] theorem int_object (fields : List (String × Value)) :
    (Value.object fields).int key = (lookup key fields).bind Value.asInt := rfl

/-- A text is one. -/
@[simp] theorem asStr_string (s : String) : (Value.string s).asStr = some s := rfl

/-- A number is one. -/
@[simp] theorem asInt_number (n : ℤ) : (Value.number n).asInt = some n := rfl

/-- An optional text is read back. -/
@[simp] theorem bind_asStr_map_string (value : Option String) :
    (value.map Value.string).bind Value.asStr = value := by
  cases value <;> rfl

/-- A text that may be null is read back. -/
@[simp] theorem asStr_orNull (value : Option String) : (orNull value).asStr = value := by
  cases value <;> rfl

end Lookup

end Json
