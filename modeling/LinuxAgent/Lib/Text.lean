import Mathlib.Data.List.TakeWhile

/-!
# Texts

Operations on strings that the standard libraries of most languages have, written
on lists of characters so that they evaluate: splitting at a character, the lines
of a text, white space, decimal numbers, dotted IPv4 addresses and the form of IPv6
addresses.
-/

namespace Text

/-- The pieces of a text between the occurrences of a separator; the empty text is
one empty piece. -/
def split (sep : Char) (s : String) : List String := (s.toList.splitOn sep).map String.ofList

/-- The lines of a text. A final line break ends the last line and starts no new one. -/
def lines (s : String) : List String :=
  let pieces := split '\n' s
  if pieces.getLast? = some "" then pieces.dropLast else pieces

/-- The code points with the Unicode property `White_Space`. -/
def isWhiteSpace (c : Char) : Bool :=
  let n := c.toNat
  (0x09 ≤ n && n ≤ 0x0d) || n = 0x20 || n = 0x85 || n = 0xa0 || n = 0x1680 ||
    (0x2000 ≤ n && n ≤ 0x200a) || n = 0x2028 || n = 0x2029 || n = 0x202f || n = 0x205f || n = 0x3000

/-- Nothing is left after trimming white space at both ends. -/
def isBlank (s : String) : Bool := s.toList.all isWhiteSpace

/-- A text without the white space at its ends, as a list of characters. -/
def trimChars (cs : List Char) : List Char :=
  ((cs.dropWhile isWhiteSpace).reverse.dropWhile isWhiteSpace).reverse

/-- A text without the white space at its ends. -/
def trim (s : String) : String := String.ofList (trimChars s.toList)

/-- Where a list first occurs in another one. -/
def position {α : Type} [BEq α] (pattern : List α) : List α → Option ℕ
  | [] => if pattern.isEmpty then some 0 else none
  | a :: as =>
    if pattern.isPrefixOf (a :: as) then some 0 else (position pattern as).map (· + 1)

/-- A text occurs in another one. -/
def contains (pattern s : String) : Bool := (position pattern.toList s.toList).isSome

/-- The value of a digit. -/
def digitValue (c : Char) : Option ℕ := if c.isDigit then some (c.toNat - '0'.toNat) else none

/-- The value of a decimal numeral with at least one digit. -/
def decimal (cs : List Char) : Option ℕ :=
  if cs = [] then none
  else cs.foldl (fun acc c => acc.bind fun n => (digitValue c).map fun d => 10 * n + d) (some 0)

/-- The value of a decimal numeral, possibly with a sign, that fits 64 bits. -/
def parseU64 (cs : List Char) : Option ℕ :=
  (decimal (if cs.head? = some '+' then cs.tail else cs)).filter fun n => n < UInt64.size

/-- The value of a decimal numeral, possibly with a sign, that fits 32 bits. -/
def parseU32 (cs : List Char) : Option UInt32 :=
  ((decimal (if cs.head? = some '+' then cs.tail else cs)).filter fun n => n < UInt32.size).map
    UInt32.ofNat

/-- The value of a decimal numeral, possibly with a sign, that fits 32 bits with a sign. -/
def parseI32 (cs : List Char) : Option Int32 :=
  let value : Option ℤ :=
    if cs.head? = some '-' then (decimal cs.tail).map Int.negOfNat
    else (decimal (if cs.head? = some '+' then cs.tail else cs)).map Int.ofNat
  (value.filter fun n => Int32.minValue.toInt ≤ n && n ≤ Int32.maxValue.toInt).map Int32.ofInt

/-- The value of a decimal numeral, possibly with a sign, that fits 64 bits with a sign. -/
def parseI64 (cs : List Char) : Option Int64 :=
  let value : Option ℤ :=
    if cs.head? = some '-' then (decimal cs.tail).map Int.negOfNat
    else (decimal (if cs.head? = some '+' then cs.tail else cs)).map Int.ofNat
  (value.filter fun n => Int64.minValue.toInt ≤ n && n ≤ Int64.maxValue.toInt).map Int64.ofInt

/-- A list in two at the first occurrence of a separator. -/
def splitOnce {α : Type} [DecidableEq α] (sep : α) (l : List α) : Option (List α × List α) :=
  match l.dropWhile (· ≠ sep) with
  | [] => none
  | _ :: after => some (l.takeWhile (· ≠ sep), after)

/-- A text without the occurrences of a character at its end. -/
def trimEndMatches (c : Char) (cs : List Char) : List Char :=
  (cs.reverse.dropWhile (· = c)).reverse

/-- The pieces of a text between white space. -/
def words (s : String) : List String :=
  ((s.toList.splitOnP isWhiteSpace).filter (· ≠ [])).map String.ofList

/-- One part of a dotted address: at most three digits, no leading zero, below 256. -/
def octet (cs : List Char) : Option ℕ :=
  if 3 < cs.length ∨ (1 < cs.length ∧ cs.head? = some '0') then none
  else (decimal cs).filter fun n => n < 256

/-- The address that a dotted text stands for. -/
def parseIpv4 (s : String) : Option (BitVec 32) :=
  match (s.toList.splitOn '.').mapM octet with
  | some [a, b, c, d] => some (BitVec.ofNat 32 (((a * 256 + b) * 256 + c) * 256 + d))
  | _ => none

/-- What is left of a text after a number that can be part of a dotted address. -/
def readOctet (cs : List Char) : Option (List Char) :=
  let digits := cs.takeWhile Char.isDigit
  (octet digits).map fun _ => cs.drop digits.length

/-- What is left of a text after a given character. -/
def readGivenChar (c : Char) : List Char → Option (List Char)
  | [] => none
  | d :: cs => if d = c then some cs else none

/-- What is left of a text after a dotted address. -/
def readIpv4 (cs : List Char) : Option (List Char) := do
  let cs ← readOctet cs
  let cs ← readOctet (← readGivenChar '.' cs)
  let cs ← readOctet (← readGivenChar '.' cs)
  readOctet (← readGivenChar '.' cs)

/-- A digit of a hexadecimal numeral. -/
def isHexDigit (c : Char) : Bool :=
  c.isDigit || ('a' ≤ c && c ≤ 'f') || ('A' ≤ c && c ≤ 'F')

/-- What is left of a text after one to four hexadecimal digits; more are no group. -/
def readHexGroup (cs : List Char) : Option (List Char) :=
  let digits := cs.takeWhile isHexDigit
  if digits = [] ∨ 4 < digits.length then none else some (cs.drop digits.length)

/-- Up to `left` groups with colons between them, of which the last two may be written as a
dotted address: their number, if there was such an address, and what is left of the text. -/
def readGroups : (left : ℕ) → (first : Bool) → List Char → ℕ × Bool × List Char
  | 0, _, cs => (0, false, cs)
  | left + 1, first, cs =>
    let start := if first then some cs else readGivenChar ':' cs
    match if left = 0 then none else start.bind readIpv4 with
    | some rest => (2, true, rest)
    | none =>
      match start.bind readHexGroup with
      | some rest =>
        let (count, dotted, rest) := readGroups left false rest
        (count + 1, dotted, rest)
      | none => (0, false, cs)

/-- What is left of a text after an IPv6 address: eight groups, or fewer around a double
colon before which there is no dotted address. -/
def readIpv6 (cs : List Char) : Option (List Char) :=
  let (count, dotted, rest) := readGroups 8 true cs
  if count = 8 then some rest
  else if dotted then none
  else do
    let rest ← readGivenChar ':' (← readGivenChar ':' rest)
    pure (readGroups (7 - count) true rest).2.2

/-- The text of an IPv4 or IPv6 address. -/
def isIpAddr (s : String) : Bool :=
  match readIpv4 s.toList with
  | some rest => rest.isEmpty
  | none => readIpv6 s.toList == some []

/-- The dotted text of an address. -/
def formatIpv4 (x : BitVec 32) : String :=
  let octetAt (k : ℕ) : String := toString ((x >>> k).toNat % 256)
  octetAt 24 ++ "." ++ octetAt 16 ++ "." ++ octetAt 8 ++ "." ++ octetAt 0

/-- The text of a number has only digits. -/
theorem isDigit_of_mem_toString {n : ℕ} {c : Char} (hc : c ∈ (toString n).toList) :
    c.isDigit = true := by
  rw [Nat.toString_eq_ofList_toDigits, String.toList_ofList] at hc
  exact Nat.isDigit_of_mem_toDigits (by decide) (by decide) hc

/-- A dotted address has only digits and dots. -/
theorem of_mem_formatIpv4 {x : BitVec 32} {c : Char} (hc : c ∈ (formatIpv4 x).toList) :
    c.isDigit = true ∨ c = '.' := by
  have hdot {c : Char} (hc : c ∈ ".".toList) : c = '.' := List.mem_singleton.mp hc
  simp only [formatIpv4, String.toList_append, List.mem_append] at hc
  obtain (((((hc | hc) | hc) | hc) | hc) | hc) | hc := hc
  · exact .inl (isDigit_of_mem_toString hc)
  · exact .inr (hdot hc)
  · exact .inl (isDigit_of_mem_toString hc)
  · exact .inr (hdot hc)
  · exact .inl (isDigit_of_mem_toString hc)
  · exact .inr (hdot hc)
  · exact .inl (isDigit_of_mem_toString hc)

/-- A dotted address has a dot. -/
theorem dot_mem_formatIpv4 (x : BitVec 32) : '.' ∈ (formatIpv4 x).toList := by
  simp only [formatIpv4, String.toList_append, List.mem_append]
  exact .inl (.inr List.mem_cons_self)

/-- The number of some digits. -/
theorem decimal_of_digits {cs : List Char} (hne : cs ≠ []) (h : ∀ c ∈ cs, c.isDigit = true) :
    decimal cs = some (Nat.ofDigitChars 10 cs 0) := by
  have hfold (cs : List Char) (h : ∀ c ∈ cs, c.isDigit = true) (acc : ℕ) :
      cs.foldl (fun acc c => acc.bind fun n => (digitValue c).map fun d => 10 * n + d) (some acc) =
        some (Nat.ofDigitChars 10 cs acc) := by
    induction cs generalizing acc with
    | nil => rfl
    | cons c cs ih =>
      rw [List.foldl_cons, Nat.ofDigitChars_cons, ← ih fun d hd => h d (List.mem_cons_of_mem c hd)]
      simp [digitValue, h c List.mem_cons_self]
  rw [decimal, if_neg hne, hfold cs h]

/-- A number reads back from its decimal digits. -/
theorem decimal_toDigits (n : ℕ) : decimal (Nat.toDigits 10 n) = some n := by
  have hdigits : ∀ c ∈ Nat.toDigits 10 n, c.isDigit = true := fun c hc =>
    Nat.isDigit_of_mem_toDigits (by decide) (by decide) hc
  rw [decimal_of_digits Nat.toDigits_ne_nil hdigits, Nat.ofDigitChars_ten_toDigits]

/-- Different numbers have different texts. -/
theorem toString_injective : Function.Injective (toString : ℕ → String) := by
  intro m n h
  rw [Nat.toString_eq_ofList_toDigits, Nat.toString_eq_ofList_toDigits, String.ofList_inj] at h
  have hdecimal := congrArg decimal h
  rw [decimal_toDigits, decimal_toDigits] at hdecimal
  exact Option.some.inj hdecimal

/-- A character that is no digit does not occur in a decimal numeral. -/
theorem not_mem_toDigits {c : Char} (hc : c.isDigit = false) (n : ℕ) :
    c ∉ Nat.toDigits 10 n := by
  intro h
  have hdigit := Nat.isDigit_of_mem_toDigits (by decide) (by decide) h
  exact Bool.false_ne_true (hc.symm.trans hdigit)

/-- A decimal numeral does not begin with a character that is no digit. -/
theorem head?_toDigits_ne {c : Char} (hc : c.isDigit = false) (n : ℕ) :
    (Nat.toDigits 10 n).head? ≠ some c :=
  fun h => not_mem_toDigits hc n (List.mem_of_mem_head? h)

/-- A number of 64 bits reads back from its decimal digits. -/
theorem parseU64_toDigits {n : ℕ} (hn : n < UInt64.size) :
    parseU64 (Nat.toDigits 10 n) = some n := by
  rw [parseU64, if_neg (head?_toDigits_ne (by decide) n), decimal_toDigits, Option.filter_some,
    if_pos (decide_eq_true hn)]

/-- The characters of a number. -/
theorem toList_toString (n : ℕ) : (toString n).toList = Nat.toDigits 10 n := String.toList_ofList

/-- A character that is no digit does not occur in the text of a number. -/
theorem not_mem_toString {c : Char} (hc : c.isDigit = false) (n : ℕ) :
    c ∉ (toString n).toList := by
  rw [toList_toString]
  exact not_mem_toDigits hc n

/-- A number of 64 bits reads back from its text. -/
theorem parseU64_toString (n : UInt64) : parseU64 (toString n.toNat).toList = some n.toNat := by
  rw [toList_toString, parseU64_toDigits n.toNat_lt]

/-- A number of 32 bits reads back from its text. -/
theorem parseU32_toString (n : UInt32) : parseU32 (toString n.toNat).toList = some n := by
  have hn : n.toNat < UInt32.size := n.toNat_lt
  rw [toList_toString, parseU32, if_neg (head?_toDigits_ne (by decide) _), decimal_toDigits,
    Option.filter_some, if_pos (decide_eq_true hn), Option.map_some, UInt32.ofNat_toNat]

/-- A number of 32 bits with a sign reads back from its text. -/
theorem parseI32_toString (n : Int32) : parseI32 (toString n.toInt).toList = some n := by
  have hrange : (Int32.minValue.toInt ≤ n.toInt && n.toInt ≤ Int32.maxValue.toInt) = true := by
    simp only [Bool.and_eq_true, decide_eq_true_eq]
    exact ⟨n.minValue_le_toInt, n.toInt_le⟩
  have hback : ((some n.toInt).filter fun k =>
      Int32.minValue.toInt ≤ k && k ≤ Int32.maxValue.toInt).map Int32.ofInt = some n := by
    rw [Option.filter_some, if_pos hrange, Option.map_some, Int32.ofInt_toInt]
  rw [parseI32, ← hback]
  cases n.toInt with
  | ofNat m =>
    have htext : (toString (Int.ofNat m)).toList = Nat.toDigits 10 m := toList_toString m
    have hminus : (Nat.toDigits 10 m).head? ≠ some '-' := head?_toDigits_ne (by decide) m
    have hplus : (Nat.toDigits 10 m).head? ≠ some '+' := head?_toDigits_ne (by decide) m
    simp only [htext, if_neg hminus, if_neg hplus, decimal_toDigits, Option.map_some]
  | negSucc m =>
    have htext : (toString (Int.negSucc m)).toList = '-' :: Nat.toDigits 10 (m + 1) := by
      rw [← toList_toString]
      exact String.toList_append
    simp only [htext, List.head?_cons, List.tail_cons, if_true, decimal_toDigits, Option.map_some]
    rfl

section SplitOnce

variable {α : Type} [DecidableEq α] {sep : α} {l before after : List α}

/-- A list in two at a separator that does not occur before. -/
theorem splitOnce_append (h : sep ∉ l) (after : List α) :
    splitOnce sep (l ++ sep :: after) = some (l, after) := by
  have hne : ∀ a ∈ l, decide (a ≠ sep) = true := by
    intro a ha
    simp only [decide_eq_true_eq]
    rintro rfl
    exact h ha
  rw [splitOnce, List.dropWhile_append_of_pos hne, List.takeWhile_append_of_pos hne]
  simp

/-- What a list is split into. -/
theorem eq_of_splitOnce (h : splitOnce sep l = some (before, after)) :
    l = before ++ sep :: after ∧ sep ∉ before := by
  have happend := List.takeWhile_append_dropWhile (p := fun a => decide (a ≠ sep)) (l := l)
  rw [splitOnce] at h
  split at h
  · cases h
  · next a tail hdrop =>
    obtain ⟨rfl, rfl⟩ := Prod.mk.inj (Option.some.inj h)
    have hsep := List.head?_dropWhile_not (fun a => decide (a ≠ sep)) l
    rw [hdrop] at hsep
    obtain rfl : a = sep := by simpa using hsep
    rw [hdrop] at happend
    refine ⟨happend.symm, fun hmem => ?_⟩
    have hne := List.mem_takeWhile_imp hmem
    simp at hne

end SplitOnce

/-- A numeral starts with a digit or a sign. -/
theorem head_of_parseU64 {c : Char} {cs : List Char} {n : ℕ} (h : parseU64 (c :: cs) = some n) :
    c = '+' ∨ c.isDigit = true := by
  by_cases hsign : c = '+'
  · exact .inl hsign
  · right
    have hhead : ¬(c :: cs).head? = some '+' := by simpa using hsign
    rw [parseU64, if_neg hhead] at h
    cases hdigit : c.isDigit with
    | true => rfl
    | false =>
      have hfold (ds : List Char) :
          ds.foldl (fun acc c => acc.bind fun n => (digitValue c).map fun d => 10 * n + d) none =
            none := by
        induction ds with
        | nil => rfl
        | cons d ds ih => exact ih
      have hnone : decimal (c :: cs) = none := by
        rw [decimal, if_neg (List.cons_ne_nil c cs), List.foldl_cons]
        simpa [digitValue, hdigit] using hfold cs
      rw [hnone] at h
      cases h

/-- A decimal numeral has only digits. -/
theorem isDigit_of_decimal {cs : List Char} (h : (decimal cs).isSome = true) {c : Char}
    (hc : c ∈ cs) : c.isDigit = true := by
  have hfold (cs : List Char) (acc : Option ℕ)
      (h : (cs.foldl (fun acc c => acc.bind fun n => (digitValue c).map fun d => 10 * n + d)
        acc).isSome = true) : acc.isSome = true ∧ ∀ c ∈ cs, c.isDigit = true := by
    induction cs generalizing acc with
    | nil => exact ⟨h, nofun⟩
    | cons d ds ih =>
      obtain ⟨hacc, hds⟩ := ih _ h
      cases acc with
      | none => cases hacc
      | some n =>
        simp only [Option.bind_some, Option.isSome_map, digitValue] at hacc
        refine ⟨rfl, List.forall_mem_cons.mpr ⟨?_, hds⟩⟩
        cases hd : d.isDigit with
        | true => rfl
        | false =>
          rw [hd, if_neg Bool.false_ne_true] at hacc
          cases hacc
  rw [decimal] at h
  split at h
  · cases h
  · exact (hfold cs (some 0) h).2 c hc

/-- Trimming keeps a start of the text. -/
theorem trimEndMatches_append (c : Char) (cs : List Char) :
    ∃ trimmed, cs = trimEndMatches c cs ++ trimmed := by
  refine ⟨(cs.reverse.takeWhile (· = c)).reverse, ?_⟩
  rw [trimEndMatches, ← List.reverse_append, List.takeWhile_append_dropWhile, List.reverse_reverse]

/-- Trimming changes nothing if the character is not at the end. -/
theorem trimEndMatches_eq_self_iff {c : Char} {cs : List Char} :
    trimEndMatches c cs = cs ↔ cs.getLast? ≠ some c := by
  rw [trimEndMatches, ← List.head?_reverse, List.reverse_eq_iff]
  cases hrev : cs.reverse with
  | nil => simp
  | cons d ds =>
    by_cases hd : d = c
    · subst hd
      have hlen := (List.dropWhile_suffix (l := ds) fun x => decide (x = d)).length_le
      refine iff_of_false (fun h => ?_) (by simp)
      rw [List.dropWhile_cons_of_pos (by simp)] at h
      rw [h, List.length_cons] at hlen
      omega
    · rw [List.dropWhile_cons_of_neg (by simpa using hd)]
      simp [hd]

/-- The pieces of a list have all of it but the separators. -/
theorem flatten_splitOnP (p : Char → Bool) (cs : List Char) :
    (cs.splitOnP p).flatten = cs.filter fun c => !p c := by
  induction cs with
  | nil => rfl
  | cons c cs ih =>
    rw [List.splitOnP_cons_eq_if_modifyHead]
    cases hc : p c with
    | true => simp [hc, ih]
    | false =>
      obtain ⟨piece, pieces, hpieces⟩ :=
        List.exists_cons_of_ne_nil (List.splitOnP_ne_nil p cs)
      rw [hpieces] at ih
      simpa [hc, hpieces] using ih

/-- The pieces between the occurrences of a separator have all of a list but these. -/
theorem flatten_splitOn (sep : Char) (cs : List Char) :
    (cs.splitOn sep).flatten = cs.filter fun c => c ≠ sep := by
  rw [List.splitOn_eq_splitOnP, flatten_splitOnP]
  refine List.filter_congr fun c _ => ?_
  rw [← bne, Bool.eq_iff_iff, bne_iff_ne, decide_eq_true_iff]

/-- The first piece is the text before the first separator. -/
theorem head?_split (sep : Char) (s : String) :
    (split sep s).head? = some (String.ofList (s.toList.takeWhile fun c => c ≠ sep)) := by
  have hhead : ∀ cs : List Char, (cs.splitOn sep).head? = some (cs.takeWhile fun c => c ≠ sep) := by
    intro cs
    induction cs with
    | nil => rfl
    | cons c cs ih =>
      rw [List.splitOn_cons_eq_if_modifyHead]
      by_cases hc : c = sep
      · simp [hc]
      · simp [hc, List.head?_modifyHead, ih]
  rw [split, List.head?_map, hhead, Option.map_some]

/-- The characters of a piece of a text are characters of the text. -/
theorem mem_of_mem_split {sep c : Char} {s piece : String} (h : piece ∈ split sep s)
    (hc : c ∈ piece.toList) : c ∈ s.toList := by
  obtain ⟨cs, hcs, rfl⟩ := List.mem_map.mp h
  rw [String.toList_ofList] at hc
  have hall := List.mem_flatten.mpr ⟨cs, hcs, hc⟩
  rw [flatten_splitOn] at hall
  exact (List.mem_filter.mp hall).1

/-- The pieces of a text do not have the separator. -/
theorem not_mem_of_mem_split {sep : Char} {s piece : String} (h : piece ∈ split sep s) :
    sep ∉ piece.toList := by
  obtain ⟨cs, hcs, rfl⟩ := List.mem_map.mp h
  rw [String.toList_ofList]
  intro hc
  have hall := List.mem_flatten.mpr ⟨cs, hcs, hc⟩
  rw [flatten_splitOn, List.mem_filter, decide_eq_true_iff] at hall
  exact hall.2 rfl

/-- A dotted address has only digits and dots. -/
theorem isDigit_of_parseIpv4 {s : String} (h : (parseIpv4 s).isSome = true) {c : Char}
    (hc : c ∈ s.toList) (hdot : c ≠ '.') : c.isDigit = true := by
  have hmapM (l : List (List Char)) (octets : List ℕ) (h : l.mapM octet = some octets) :
      ∀ cs ∈ l, (octet cs).isSome = true := by
    induction l generalizing octets with
    | nil => exact nofun
    | cons cs l ih =>
      rw [List.mapM_cons] at h
      obtain ⟨n, hn, h⟩ := Option.bind_eq_some_iff.mp h
      obtain ⟨rest, hrest, -⟩ := Option.bind_eq_some_iff.mp h
      refine List.forall_mem_cons.mpr ⟨?_, ih rest hrest⟩
      rw [hn]
      rfl
  have hpieces : c ∈ (s.toList.splitOn '.').flatten := by
    rw [flatten_splitOn, List.mem_filter]
    exact ⟨hc, decide_eq_true hdot⟩
  obtain ⟨cs, hcs, hmem⟩ := List.mem_flatten.mp hpieces
  rw [parseIpv4] at h
  cases hoctets : (s.toList.splitOn '.').mapM octet with
  | none =>
    rw [hoctets] at h
    cases h
  | some octets =>
    have hoctet := hmapM _ octets hoctets cs hcs
    rw [octet] at hoctet
    split at hoctet
    · cases hoctet
    · refine isDigit_of_decimal ?_ hmem
      cases hdecimal : decimal cs with
      | none =>
        rw [hdecimal] at hoctet
        cases hoctet
      | some n => rfl

/-- The characters of a word of a text are characters of the text. -/
theorem mem_of_mem_words {c : Char} {s word : String} (h : word ∈ words s)
    (hc : c ∈ word.toList) : c ∈ s.toList := by
  obtain ⟨cs, hcs, rfl⟩ := List.mem_map.mp h
  rw [String.toList_ofList] at hc
  have hall := List.mem_flatten.mpr ⟨cs, (List.mem_filter.mp hcs).1, hc⟩
  rw [flatten_splitOnP] at hall
  exact (List.mem_filter.mp hall).1

/-- A digit is no white space. -/
theorem isWhiteSpace_of_isDigit {c : Char} (hc : c.isDigit = true) : isWhiteSpace c = false := by
  obtain ⟨hzero, hnine⟩ := Char.isDigit_iff_toNat.mp hc
  have hlow : 48 ≤ c.toNat := hzero
  have hhigh : c.toNat ≤ 57 := hnine
  simp only [isWhiteSpace, Bool.or_eq_false_iff, Bool.and_eq_false_iff, decide_eq_false_iff_not]
  omega

/-- The words on both sides of white space. -/
theorem words_append_cons {c : Char} (hc : isWhiteSpace c = true) (before after : List Char) :
    words (String.ofList (before ++ c :: after)) =
      words (String.ofList before) ++ words (String.ofList after) := by
  simp only [words, String.toList_ofList]
  rw [List.splitOnP_append_cons _ _ hc, List.filter_append, List.map_append]

/-- A text without white space is one word. -/
theorem words_eq_singleton {s : String} (hne : s.toList ≠ [])
    (h : ∀ c ∈ s.toList, isWhiteSpace c = false) : words s = [s] := by
  rw [words, List.splitOnP_eq_singleton h]
  simp [hne]

/-- There is no white space in a word. -/
theorem isWhiteSpace_of_mem_words {c : Char} {s word : String} (h : word ∈ words s)
    (hc : c ∈ word.toList) : isWhiteSpace c = false := by
  obtain ⟨cs, hcs, rfl⟩ := List.mem_map.mp h
  rw [String.toList_ofList] at hc
  have hall := List.mem_flatten.mpr ⟨cs, (List.mem_filter.mp hcs).1, hc⟩
  rw [flatten_splitOnP] at hall
  simpa using (List.mem_filter.mp hall).2

/-- A word is a text of one word. -/
theorem words_of_mem_words {s word : String} (h : word ∈ words s) : words word = [word] := by
  refine words_eq_singleton ?_ fun c hc => isWhiteSpace_of_mem_words h hc
  obtain ⟨cs, hcs, rfl⟩ := List.mem_map.mp h
  rw [String.toList_ofList]
  simpa using (List.mem_filter.mp hcs).2

/-- A text with more than white space has words. -/
theorem words_ne_nil {s : String} {c : Char} (hc : c ∈ s.toList) (hword : isWhiteSpace c = false) :
    words s ≠ [] := by
  intro hnil
  have hall : (s.toList.splitOnP isWhiteSpace).flatten = [] := by
    rw [words, List.map_eq_nil_iff, List.filter_eq_nil_iff] at hnil
    exact List.flatten_eq_nil_iff.mpr fun piece hpiece => by simpa using hnil piece hpiece
  rw [flatten_splitOnP, List.filter_eq_nil_iff] at hall
  exact hall c hc (by rw [hword]; rfl)

/-- A number is one word. -/
theorem words_toString (n : ℕ) : words (toString n) = [toString n] := by
  refine words_eq_singleton ?_ fun c hc => ?_
  · rw [toList_toString]
    exact Nat.toDigits_ne_nil
  · exact isWhiteSpace_of_isDigit (isDigit_of_mem_toString hc)

/-- A number with a sign is one word. -/
theorem words_toString_int (n : ℤ) : words (toString n) = [toString n] := by
  cases n with
  | ofNat m => exact words_toString m
  | negSucc m =>
    have htext : (toString (Int.negSucc m)).toList = '-' :: (toString (m + 1)).toList :=
      String.toList_append
    refine words_eq_singleton (by rw [htext]; exact List.cons_ne_nil _ _) ?_
    rw [htext, List.forall_mem_cons]
    exact ⟨by decide, fun c hc => isWhiteSpace_of_isDigit (isDigit_of_mem_toString hc)⟩

/-- The pieces of a text that has something without separators before it. -/
theorem split_append {sep : Char} {before : String} (h : sep ∉ before.toList) (s : String) :
    ∃ first rest, split sep s = first :: rest ∧
      split sep (before ++ s) = (before ++ first) :: rest := by
  have hpieces (cs ds : List Char) (hcs : sep ∉ cs) :
      (cs ++ ds).splitOn sep = (ds.splitOn sep).modifyHead (cs ++ ·) := by
    induction cs with
    | nil =>
      rw [List.nil_append]
      cases ds.splitOn sep <;> rfl
    | cons c cs ih =>
      rw [List.mem_cons, not_or] at hcs
      have hc : (c == sep) = false := beq_eq_false_iff_ne.mpr (Ne.symm hcs.1)
      rw [List.cons_append, List.splitOn_cons_eq_if_modifyHead, hc, ih hcs.2,
        if_neg Bool.false_ne_true, List.modifyHead_modifyHead]
      rfl
  obtain ⟨first, rest, hfirst⟩ := List.exists_cons_of_ne_nil (List.splitOn_ne_nil sep s.toList)
  refine ⟨String.ofList first, rest.map String.ofList, by rw [split, hfirst, List.map_cons], ?_⟩
  rw [split, String.toList_append, hpieces _ _ h, hfirst, List.modifyHead_cons, List.map_cons]
  simp

/-- The pieces of a text that has something without separators after it. -/
theorem split_append_last {sep : Char} {after : String} (h : sep ∉ after.toList) (s : String) :
    ∃ init last, split sep s = init ++ [last] ∧
      split sep (s ++ after) = init ++ [last ++ after] := by
  have hpieces (cs : List Char) : ∃ init last, cs.splitOn sep = init ++ [last] ∧
      (cs ++ after.toList).splitOn sep = init ++ [last ++ after.toList] := by
    induction cs with
    | nil =>
      refine ⟨[], [], List.splitOn_nil sep, ?_⟩
      rw [List.nil_append, List.nil_append]
      exact List.splitOn_eq_singleton h
    | cons c cs ih =>
      obtain ⟨init, last, hcs, hafter⟩ := ih
      rw [List.cons_append, List.splitOn_cons_eq_if_modifyHead,
        List.splitOn_cons_eq_if_modifyHead, hcs, hafter]
      split
      · exact ⟨[] :: init, last, rfl, rfl⟩
      · cases init with
        | nil => exact ⟨[], c :: last, rfl, rfl⟩
        | cons first init => exact ⟨(c :: first) :: init, last, rfl, rfl⟩
  obtain ⟨init, last, hs, hafter⟩ := hpieces s.toList
  refine ⟨init.map String.ofList, String.ofList last, ?_, ?_⟩
  · rw [split, hs, List.map_append, List.map_singleton]
  · rw [split, String.toList_append, hafter, List.map_append, List.map_singleton,
      String.ofList_append, String.ofList_toList]

/-- The lines of a text have all of it but the line breaks. -/
theorem flatMap_lines (s : String) :
    (lines s).flatMap String.toList = s.toList.filter fun c => c ≠ '\n' := by
  have hpieces : (split '\n' s).flatMap String.toList = s.toList.filter fun c => c ≠ '\n' := by
    rw [← flatten_splitOn, split, List.flatMap_map]
    simp [List.flatMap_def]
  rw [lines]
  split
  · next hlast =>
    rw [List.getLast?_eq_some_iff] at hlast
    obtain ⟨init, hinit⟩ := hlast
    rw [hinit, List.flatMap_append] at hpieces
    rw [hinit, List.dropLast_concat, ← hpieces]
    simp
  · exact hpieces

/-- A text without separators is one piece. -/
theorem split_eq_singleton {sep : Char} {s : String} (h : sep ∉ s.toList) : split sep s = [s] := by
  rw [split, List.splitOn_eq_singleton h, List.map_singleton, String.ofList_toList]

/-- A text without line breaks is one line. -/
theorem lines_eq_singleton {s : String} (hne : s.toList ≠ []) (h : '\n' ∉ s.toList) :
    lines s = [s] := by
  have hnonempty : s ≠ "" := by
    rintro rfl
    exact hne rfl
  rw [lines, split_eq_singleton h]
  simp [hnonempty]

/-- There is no line break in a line. -/
theorem not_mem_of_mem_lines {s line : String} (h : line ∈ lines s) : '\n' ∉ line.toList := by
  intro hc
  have hall : '\n' ∈ (lines s).flatMap String.toList := List.mem_flatMap.mpr ⟨line, h, hc⟩
  rw [flatMap_lines, List.mem_filter] at hall
  simp at hall

/-- Every piece with a line break after it. -/
def unlines (pieces : List String) : String :=
  String.ofList (pieces.flatMap fun piece => piece.toList ++ ['\n'])

/-- The lines of pieces with line breaks after them are the lines of the pieces. -/
theorem lines_unlines (pieces : List String) :
    lines (unlines pieces) = pieces.flatMap (split '\n') := by
  have hsplit : split '\n' (unlines pieces) = pieces.flatMap (split '\n') ++ [""] := by
    induction pieces with
    | nil => rfl
    | cons piece pieces ih =>
      rw [split, unlines, String.toList_ofList] at ih ⊢
      rw [List.flatMap_cons, List.append_assoc, List.singleton_append,
        List.splitOn_append_cons_self, List.map_append, ih, List.flatMap_cons, List.append_assoc,
        split]
  rw [lines, hsplit]
  simp

/-- Two texts of lines, one after the other. -/
theorem unlines_append (pieces others : List String) :
    unlines (pieces ++ others) = unlines pieces ++ unlines others := by
  rw [unlines, List.flatMap_append, String.ofList_append, unlines, unlines]

/-- There are no line breaks in the pieces, so they are the lines. -/
theorem lines_unlines_of_forall {pieces : List String}
    (h : ∀ piece ∈ pieces, '\n' ∉ piece.toList) : lines (unlines pieces) = pieces := by
  rw [lines_unlines]
  induction pieces with
  | nil => rfl
  | cons piece pieces ih =>
    rw [List.forall_mem_cons] at h
    rw [List.flatMap_cons, split_eq_singleton h.1, ih h.2, List.singleton_append]

/-- Lines that are put together one by one. -/
theorem join_map_eq_unlines {α : Type} {f g : α → String} {xs : List α}
    (h : ∀ x ∈ xs, f x = g x ++ "\n") : String.join (xs.map f) = unlines (xs.map g) := by
  induction xs with
  | nil => rfl
  | cons x xs ih =>
    rw [List.forall_mem_cons] at h
    have hline : g x ++ "\n" = unlines [g x] := by simp [unlines]
    rw [List.map_cons, List.map_cons, String.join_cons, ih h.2, h.1, hline, ← unlines_append,
      List.singleton_append]

/-- Where no text of the second family is longer than that of the first, the texts joined are
the same only if each of them is the same. -/
theorem join_map_inj {α : Type} {f g : α → String} {xs : List α}
    (h : ∀ x ∈ xs, (g x).toList.length ≤ (f x).toList.length) :
    String.join (xs.map f) = String.join (xs.map g) ↔ ∀ x ∈ xs, f x = g x := by
  refine ⟨fun heq => ?_, fun heq => by rw [List.map_congr_left heq]⟩
  have hle : ∀ ys : List α, (∀ x ∈ ys, (g x).toList.length ≤ (f x).toList.length) →
      (String.join (ys.map g)).toList.length ≤ (String.join (ys.map f)).toList.length := by
    intro ys hys
    induction ys with
    | nil => exact le_rfl
    | cons y ys ih =>
      rw [List.forall_mem_cons] at hys
      have hrest := ih hys.2
      simp only [List.map_cons, String.join_cons, String.toList_append, List.length_append]
      omega
  induction xs with
  | nil => simp
  | cons x xs ih =>
    rw [List.forall_mem_cons] at h ⊢
    have hrest := hle xs h.2
    simp only [List.map_cons, String.join_cons, ← String.toList_inj,
      String.toList_append] at heq
    have hlength := congrArg List.length heq
    rw [List.length_append, List.length_append] at hlength
    obtain ⟨hfirst, htail⟩ := List.append_inj heq (by omega)
    exact ⟨String.toList_inj.mp hfirst, ih h.2 (String.toList_inj.mp htail)⟩

/-- The pieces with a separator between them. -/
def joinWith (sep : Char) (pieces : List String) : String :=
  String.ofList ([sep].intercalate (pieces.map String.toList))

/-- One piece needs no separator. -/
theorem joinWith_singleton (sep : Char) (piece : String) : joinWith sep [piece] = piece := by
  rw [joinWith, List.map_singleton, List.intercalate_singleton, String.ofList_toList]

/-- The first piece and the others. -/
theorem joinWith_cons_cons (sep : Char) (piece next : String) (rest : List String) :
    joinWith sep (piece :: next :: rest) =
      piece ++ String.singleton sep ++ joinWith sep (next :: rest) := by
  rw [← String.toList_inj]
  simp [joinWith, List.intercalate_cons_cons]

/-- The first of several pieces stands before a separator. -/
theorem joinWith_cons_of_ne_nil {sep : Char} {rest : List String} (h : rest ≠ [])
    (piece : String) :
    joinWith sep (piece :: rest) = piece ++ String.singleton sep ++ joinWith sep rest := by
  cases rest with
  | nil => exact absurd rfl h
  | cons next rest => exact joinWith_cons_cons sep piece next rest

/-- A text is cut inside one of its pieces. -/
theorem joinWith_append_cons (sep : Char) (pieces rest : List String) (before after : String) :
    joinWith sep (pieces ++ (before ++ after) :: rest) =
      joinWith sep (pieces ++ [before]) ++ joinWith sep (after :: rest) := by
  induction pieces with
  | nil =>
    rw [List.nil_append, List.nil_append, joinWith_singleton]
    cases rest with
    | nil => rw [joinWith_singleton, joinWith_singleton]
    | cons next rest =>
      rw [joinWith_cons_cons, joinWith_cons_cons]
      simp only [String.append_assoc]
  | cons piece pieces ih =>
    have hne (x : String) (rest : List String) : pieces ++ x :: rest ≠ [] := by simp
    rw [List.cons_append, joinWith_cons_of_ne_nil (hne _ _), ih, List.cons_append,
      joinWith_cons_of_ne_nil (hne _ _)]
    simp only [String.append_assoc]

/-- The words of pieces with white space between them are the words of the pieces. -/
theorem words_joinWith {sep : Char} (hsep : isWhiteSpace sep = true) (pieces : List String) :
    words (joinWith sep pieces) = pieces.flatMap words := by
  induction pieces with
  | nil => rfl
  | cons piece pieces ih =>
    cases pieces with
    | nil => rw [joinWith_singleton, List.flatMap_singleton]
    | cons next rest =>
      have htext : joinWith sep (piece :: next :: rest) =
          String.ofList (piece.toList ++ sep :: (joinWith sep (next :: rest)).toList) := by
        simp [joinWith, List.intercalate]
      rw [htext, words_append_cons hsep, String.ofList_toList, String.ofList_toList, ih,
        @List.flatMap_cons _ _ piece]

/-- The pieces are found again if none of them has the separator. -/
theorem split_joinWith {sep : Char} {pieces : List String}
    (h : ∀ piece ∈ pieces, sep ∉ piece.toList) (hne : pieces ≠ []) :
    split sep (joinWith sep pieces) = pieces := by
  rw [split, joinWith, String.toList_ofList, List.splitOn_intercalate, List.map_map]
  · exact List.map_id'' (fun piece => String.ofList_toList) pieces
  · exact List.forall_mem_map.mpr h
  · simpa using hne

/-- A part of a dotted address reads back from its digits. -/
theorem octet_toDigits : ∀ n < 256, octet (Nat.toDigits 10 n) = some n := by
  decide +kernel

/-- The parts of a dotted address. -/
theorem formatIpv4_eq_joinWith (x : BitVec 32) :
    formatIpv4 x = joinWith '.' ([x.toNat / 16777216 % 256, x.toNat / 65536 % 256,
      x.toNat / 256 % 256, x.toNat % 256].map toString) := by
  simp [formatIpv4, ← String.toList_inj, joinWith, List.intercalate, Nat.shiftRight_eq_div_pow]

/-- An address reads back from its dotted text. -/
theorem parseIpv4_formatIpv4 (x : BitVec 32) : parseIpv4 (formatIpv4 x) = some x := by
  have hsplit : (formatIpv4 x).toList.splitOn '.' =
      [x.toNat / 16777216 % 256, x.toNat / 65536 % 256, x.toNat / 256 % 256,
        x.toNat % 256].map (Nat.toDigits 10) := by
    rw [formatIpv4_eq_joinWith, joinWith, String.toList_ofList, List.splitOn_intercalate,
      List.map_map]
    · exact List.map_congr_left fun n _ => toList_toString n
    · simp only [List.map_map, List.forall_mem_map]
      exact fun n _ => not_mem_toString (by decide) n
    · simp
  rw [parseIpv4, hsplit]
  simp only [List.map_cons, List.map_nil, List.mapM_cons, List.mapM_nil,
    octet_toDigits _ (Nat.mod_lt _ (by decide : 0 < 256)), bind, Option.bind, pure]
  have hx := x.isLt
  refine congrArg some (BitVec.eq_of_toNat_eq ?_)
  rw [BitVec.toNat_ofNat]
  omega

/-- Different addresses have different texts. -/
theorem formatIpv4_injective : Function.Injective formatIpv4 := by
  intro x y h
  have hparse := congrArg parseIpv4 h
  rw [parseIpv4_formatIpv4, parseIpv4_formatIpv4] at hparse
  exact Option.some.inj hparse

/-- Pieces without the separator are found again. -/
theorem eq_of_joinWith_eq {sep : Char} {pieces others : List String} (hne : pieces ≠ [])
    (hne' : others ≠ []) (h : ∀ piece ∈ pieces, sep ∉ piece.toList)
    (h' : ∀ piece ∈ others, sep ∉ piece.toList)
    (heq : joinWith sep pieces = joinWith sep others) : pieces = others := by
  rw [← split_joinWith h hne, heq, split_joinWith h' hne']

/-- What stands in joined lists stands in one of them or in the separator. -/
theorem of_mem_intercalate {α : Type} {x : α} {sep : List α} {pieces : List (List α)}
    (h : x ∈ sep.intercalate pieces) : x ∈ sep ∨ ∃ piece ∈ pieces, x ∈ piece := by
  induction pieces with
  | nil => cases h
  | cons piece pieces ih =>
    cases pieces with
    | nil =>
      rw [List.intercalate_singleton] at h
      exact .inr ⟨piece, List.mem_cons_self, h⟩
    | cons next rest =>
      rw [List.intercalate_cons_cons, List.mem_append, List.mem_append] at h
      rcases h with (h | h) | h
      · exact .inr ⟨piece, List.mem_cons_self, h⟩
      · exact .inl h
      · exact (ih h).imp_right fun ⟨other, hother, hx⟩ => ⟨other, List.mem_cons_of_mem _ hother, hx⟩

/-- The characters of joined pieces. -/
theorem of_mem_joinWith {sep c : Char} {pieces : List String}
    (h : c ∈ (joinWith sep pieces).toList) : c = sep ∨ ∃ piece ∈ pieces, c ∈ piece.toList := by
  rw [joinWith, String.toList_ofList] at h
  rcases of_mem_intercalate h with h | ⟨cs, hcs, h⟩
  · exact .inl (List.mem_singleton.mp h)
  · obtain ⟨piece, hpiece, rfl⟩ := List.mem_map.mp hcs
    exact .inr ⟨piece, hpiece, h⟩

/-- What trimming takes off is white space. -/
theorem exists_trimChars (cs : List Char) :
    ∃ before after, cs = before ++ trimChars cs ++ after ∧
      (∀ c ∈ before, isWhiteSpace c = true) ∧ ∀ c ∈ after, isWhiteSpace c = true := by
  refine ⟨cs.takeWhile isWhiteSpace,
    ((cs.dropWhile isWhiteSpace).reverse.takeWhile isWhiteSpace).reverse, ?_,
    fun c hc => List.mem_takeWhile_imp hc,
    fun c hc => List.mem_takeWhile_imp (List.mem_reverse.mp hc)⟩
  rw [trimChars, List.append_assoc, ← List.reverse_append, List.takeWhile_append_dropWhile,
    List.reverse_reverse, List.takeWhile_append_dropWhile]

/-- The characters of a trimmed text. -/
theorem mem_of_mem_trimChars {c : Char} {cs : List Char} (h : c ∈ trimChars cs) : c ∈ cs := by
  obtain ⟨before, after, happend, -⟩ := exists_trimChars cs
  rw [happend]
  exact List.mem_append_left _ (List.mem_append_right _ h)

/-- There is nothing to take off at the start of a text that does not start with white
space. -/
theorem dropWhile_eq_self {cs : List Char} (h : cs.head?.any isWhiteSpace = false) :
    cs.dropWhile isWhiteSpace = cs := by
  cases cs with
  | nil => rfl
  | cons c cs => exact List.dropWhile_cons_of_neg (by simpa using h)

/-- Trimming a text that does not start with white space takes off only its end. -/
theorem exists_trimChars_append {cs : List Char} (h : cs.head?.any isWhiteSpace = false) :
    ∃ after, cs = trimChars cs ++ after := by
  refine ⟨(cs.reverse.takeWhile isWhiteSpace).reverse, ?_⟩
  rw [trimChars, dropWhile_eq_self h, ← List.reverse_append, List.takeWhile_append_dropWhile,
    List.reverse_reverse]

/-- Trimming changes nothing if there is no white space at the ends. -/
theorem trimChars_eq_self {cs : List Char} (hhead : cs.head?.any isWhiteSpace = false)
    (hlast : cs.getLast?.any isWhiteSpace = false) : trimChars cs = cs := by
  rw [trimChars, dropWhile_eq_self hhead, dropWhile_eq_self (by rwa [List.head?_reverse]),
    List.reverse_reverse]

/-- There is no white space at the end of a trimmed text. -/
theorem getLast?_trimChars (cs : List Char) : (trimChars cs).getLast?.any isWhiteSpace = false := by
  rw [trimChars, List.getLast?_reverse]
  have hnot := List.head?_dropWhile_not isWhiteSpace (cs.dropWhile isWhiteSpace).reverse
  cases hhead : ((cs.dropWhile isWhiteSpace).reverse.dropWhile isWhiteSpace).head? with
  | none => rfl
  | some c =>
    rw [hhead] at hnot
    simpa using hnot

/-- There is no white space at the start of a trimmed text. -/
theorem head?_trimChars (cs : List Char) : (trimChars cs).head?.any isWhiteSpace = false := by
  obtain ⟨after, hafter⟩ : trimChars cs <+: cs.dropWhile isWhiteSpace := by
    refine ⟨((cs.dropWhile isWhiteSpace).reverse.takeWhile isWhiteSpace).reverse, ?_⟩
    rw [trimChars, ← List.reverse_append, List.takeWhile_append_dropWhile, List.reverse_reverse]
  cases htrim : trimChars cs with
  | nil => rfl
  | cons c rest =>
    have hnot := List.head?_dropWhile_not isWhiteSpace cs
    rw [← hafter, htrim] at hnot
    simpa using hnot

/-- The texts that trimming does not change. -/
theorem trim_eq_self_iff {s : String} :
    trim s = s ↔ s.toList.head?.any isWhiteSpace = false ∧
      s.toList.getLast?.any isWhiteSpace = false := by
  rw [trim, ← String.toList_inj, String.toList_ofList]
  refine ⟨fun h => ?_, fun h => trimChars_eq_self h.1 h.2⟩
  rw [← h]
  exact ⟨head?_trimChars _, getLast?_trimChars _⟩

/-- A trimmed text is trimmed. -/
theorem trim_trim (s : String) : trim (trim s) = trim s := by
  rw [trim_eq_self_iff, trim, String.toList_ofList]
  exact ⟨head?_trimChars _, getLast?_trimChars _⟩

/-- White space before a text is taken off. -/
theorem trim_append_left {gap : String} (h : ∀ c ∈ gap.toList, isWhiteSpace c = true) (s : String) :
    trim (gap ++ s) = trim s := by
  rw [trim, trim, trimChars, trimChars, String.toList_append, List.dropWhile_append_of_pos h]

/-- Texts with a separator and more between them are pieces. -/
theorem append_intercalate {sep : Char} {gap : String} (start piece : String)
    (pieces : List String) :
    start ++ (String.singleton sep ++ gap).intercalate (piece :: pieces) =
      joinWith sep ((start ++ piece) :: pieces.map (gap ++ ·)) := by
  induction pieces generalizing start piece with
  | nil => rw [String.intercalate_singleton, List.map_nil, joinWith_singleton]
  | cons next pieces ih =>
    rw [String.intercalate_cons_cons, List.map_cons, joinWith_cons_cons, ← ih]
    simp only [String.append_assoc]

/-- Trimmed texts without commas are the trimmed pieces of the list that they make. -/
theorem map_trim_split_intercalate {pieces : List String} (hne : pieces ≠ [])
    (hcomma : ∀ piece ∈ pieces, ',' ∉ piece.toList)
    (htrim : ∀ piece ∈ pieces, trim piece = piece) :
    (split ',' (", ".intercalate pieces)).map trim = pieces := by
  obtain ⟨piece, rest, rfl⟩ := List.exists_cons_of_ne_nil hne
  have hjoin : ", ".intercalate (piece :: rest) =
      joinWith ',' (piece :: rest.map (" " ++ ·)) := by
    have happend : "" ++ (String.singleton ',' ++ " ").intercalate (piece :: rest) =
        joinWith ',' (("" ++ piece) :: rest.map (" " ++ ·)) := append_intercalate "" piece rest
    rwa [String.empty_append, String.empty_append] at happend
  rw [List.forall_mem_cons] at hcomma htrim
  rw [hjoin, split_joinWith _ (List.cons_ne_nil _ _), List.map_cons, htrim.1, List.map_map]
  · have hblank : ∀ c ∈ " ".toList, isWhiteSpace c = true := List.forall_mem_singleton.mpr rfl
    refine congrArg (piece :: ·) (Eq.trans ?_ (List.map_id rest))
    exact List.map_congr_left fun other hother =>
      (trim_append_left hblank other).trans (htrim.2 other hother)
  · rw [List.forall_mem_cons, List.forall_mem_map]
    refine ⟨hcomma.1, fun other hother hmem => ?_⟩
    rw [String.toList_append, List.mem_append] at hmem
    exact hmem.elim (fun hgap => absurd hgap (by decide)) (hcomma.2 other hother)

/-- White space has no words. -/
theorem words_eq_nil {cs : List Char} (h : ∀ c ∈ cs, isWhiteSpace c = true) :
    words (String.ofList cs) = [] := by
  induction cs with
  | nil => rfl
  | cons c cs ih =>
    obtain ⟨hc, hcs⟩ := List.forall_mem_cons.mp h
    exact (words_append_cons hc [] cs).trans (ih hcs)

/-- White space at the ends has no words. -/
theorem words_append_blank {before after : List Char} (cs : List Char)
    (hbefore : ∀ c ∈ before, isWhiteSpace c = true) (hafter : ∀ c ∈ after, isWhiteSpace c = true) :
    words (String.ofList (before ++ cs ++ after)) = words (String.ofList cs) := by
  induction before with
  | nil =>
    cases after with
    | nil => rw [List.append_nil, List.nil_append]
    | cons c after =>
      obtain ⟨hc, hrest⟩ := List.forall_mem_cons.mp hafter
      rw [List.nil_append, words_append_cons hc, words_eq_nil hrest, List.append_nil]
  | cons c before ih =>
    obtain ⟨hc, hrest⟩ := List.forall_mem_cons.mp hbefore
    exact (words_append_cons hc [] (before ++ cs ++ after)).trans (ih hrest)

/-- Trimming keeps the words of a text. -/
theorem words_trim (s : String) : words (trim s) = words s := by
  obtain ⟨before, after, happend, hbefore, hafter⟩ := exists_trimChars s.toList
  have htext : s = String.ofList (before ++ trimChars s.toList ++ after) := by
    rw [← happend, String.ofList_toList]
  rw [htext, words_append_blank _ hbefore hafter, ← htext, trim]

/-- White space inside a trimmed text has words on both sides. -/
theorem words_ne_nil_of_trim {s : String} {c : Char} {before after : List Char}
    (hc : isWhiteSpace c = true) (h : (trim s).toList = before ++ c :: after) :
    words (String.ofList before) ≠ [] ∧ words (String.ofList after) ≠ [] := by
  obtain ⟨hhead, hlast⟩ := trim_eq_self_iff.mp (trim_trim s)
  rw [h] at hhead hlast
  constructor
  · cases before with
    | nil =>
      have hnot : isWhiteSpace c = false := hhead
      rw [hnot] at hc
      cases hc
    | cons d before =>
      exact words_ne_nil (c := d) (by rw [String.toList_ofList]; exact List.mem_cons_self) hhead
  · cases hafter : after.getLast? with
    | none =>
      rw [List.getLast?_eq_none_iff.mp hafter, List.getLast?_concat] at hlast
      have hnot : isWhiteSpace c = false := hlast
      rw [hnot] at hc
      cases hc
    | some d =>
      rw [List.getLast?_append, List.getLast?_cons, hafter] at hlast
      refine words_ne_nil (c := d) ?_ hlast
      rw [String.toList_ofList]
      exact List.mem_of_getLast? hafter

/-- A text with one word is trimmed to the word. -/
theorem trim_of_words_eq_singleton {s word : String} (h : words s = [word]) : trim s = word := by
  rw [← words_trim] at h
  have hnone : ∀ c ∈ (trim s).toList, isWhiteSpace c = false := by
    intro c hc
    refine (Bool.eq_false_or_eq_true _).resolve_left fun hspace => ?_
    obtain ⟨before, after, happend⟩ := List.append_of_mem hc
    obtain ⟨hbefore, hafter⟩ := words_ne_nil_of_trim hspace happend
    rw [← String.ofList_toList (s := trim s), happend, words_append_cons hspace] at h
    have hlength := congrArg List.length h
    rw [List.length_append, List.length_singleton] at hlength
    have hfirst := List.length_pos_iff.mpr hbefore
    have hsecond := List.length_pos_iff.mpr hafter
    omega
  have hne : (trim s).toList ≠ [] := by
    intro hnil
    rw [← String.ofList_toList (s := trim s), hnil] at h
    cases h
  rw [words_eq_singleton hne hnone] at h
  exact (List.cons.inj h).1

section Position

variable {α : Type} [BEq α] [LawfulBEq α] {pattern l : List α}

/-- Where a list does not occur. -/
theorem position_eq_none (h : position pattern l = none) (j : ℕ) : ¬pattern <+: l.drop j := by
  induction l generalizing j with
  | nil =>
    rw [position] at h
    split at h
    · cases h
    · next hne =>
      rw [List.drop_nil, List.prefix_nil]
      simpa using hne
  | cons a as ih =>
    rw [position] at h
    split at h
    · cases h
    · next hne =>
      cases j with
      | zero => rwa [List.drop_zero, ← List.isPrefixOf_iff_prefix]
      | succ j => exact ih (Option.map_eq_none_iff.mp h) j

/-- Where a list first occurs. -/
theorem position_eq_some {i : ℕ} (h : position pattern l = some i) :
    pattern <+: l.drop i ∧ i ≤ l.length ∧ ∀ j < i, ¬pattern <+: l.drop j := by
  induction l generalizing i with
  | nil =>
    rw [position] at h
    split at h
    · next hnil =>
      obtain rfl := Option.some.inj h
      rw [List.isEmpty_iff.mp hnil]
      exact ⟨List.nil_prefix, Nat.le_refl _, fun j hj => absurd hj (Nat.not_lt_zero j)⟩
    · cases h
  | cons a as ih =>
    rw [position] at h
    split at h
    · next hstart =>
      obtain rfl := Option.some.inj h
      exact ⟨List.isPrefixOf_iff_prefix.mp hstart, Nat.zero_le _,
        fun j hj => absurd hj (Nat.not_lt_zero j)⟩
    · next hne =>
      obtain ⟨k, hk, rfl⟩ := Option.map_eq_some_iff.mp h
      obtain ⟨hstart, hle, hmin⟩ := ih hk
      refine ⟨hstart, Nat.succ_le_succ hle, fun j hj => ?_⟩
      cases j with
      | zero => rwa [List.drop_zero, ← List.isPrefixOf_iff_prefix]
      | succ j => exact hmin j (Nat.lt_of_succ_lt_succ hj)

/-- A list that does not occur in another one does not occur in a part of it. -/
theorem position_eq_none_of_infix {m : List α} (h : position pattern l = none) (hm : m <:+: l) :
    position pattern m = none := by
  cases hpos : position pattern m with
  | none => rfl
  | some i =>
    obtain ⟨before, after, rfl⟩ := hm
    obtain ⟨hstart, hle, -⟩ := position_eq_some hpos
    refine absurd ?_ (position_eq_none h (before.length + i))
    rw [List.append_assoc, List.drop_append, List.drop_of_length_le (Nat.le_add_right _ _),
      List.nil_append, Nat.add_sub_cancel_left, List.drop_append_of_le_length hle]
    exact hstart.trans (List.prefix_append _ _)

end Position

/-- A text contains its parts. -/
theorem contains_of_infix {pattern s : String} (h : pattern.toList <:+: s.toList) :
    contains pattern s = true := by
  obtain ⟨before, after, hs⟩ := h
  rw [contains]
  cases hpos : position pattern.toList s.toList with
  | some i => rfl
  | none =>
    refine absurd ?_ (position_eq_none hpos before.length)
    rw [← hs, List.append_assoc, List.drop_left]
    exact List.prefix_append _ _

/-- A text is contained in another one just if it is a part of it. -/
theorem contains_iff {pattern s : String} :
    contains pattern s = true ↔ pattern.toList <:+: s.toList := by
  refine ⟨fun h => ?_, contains_of_infix⟩
  obtain ⟨i, hi⟩ := Option.isSome_iff_exists.mp h
  exact (position_eq_some hi).1.isInfix.trans (List.drop_suffix _ _).isInfix

section Parts

variable {α : Type} {sep : α} {part : List α}

/-- A part without the separator lies on one side of it. -/
theorem infix_append_cons_iff (hsep : sep ∉ part) {before after : List α} :
    part <:+: before ++ sep :: after ↔ part <:+: before ∨ part <:+: after := by
  constructor
  · rintro ⟨left, right, heq⟩
    rw [List.append_assoc] at heq
    rcases List.append_eq_append_iff.mp heq with ⟨mid, rfl, hmid⟩ | ⟨mid, rfl, hmid⟩
    · rcases List.append_eq_append_iff.mp hmid with ⟨mid', rfl, hmid'⟩ | ⟨mid', rfl, hmid'⟩
      · exact .inl ⟨left, mid', by rw [List.append_assoc]⟩
      · cases mid' with
        | nil => exact .inl ⟨left, [], by simp⟩
        | cons c rest =>
          obtain ⟨rfl, -⟩ := List.cons.inj hmid'
          exact absurd (List.mem_append_right _ List.mem_cons_self) hsep
    · cases mid with
      | nil =>
        cases part with
        | nil => exact .inl List.nil_infix
        | cons c rest =>
          obtain ⟨rfl, -⟩ := List.cons.inj hmid
          exact absurd List.mem_cons_self hsep
      | cons c rest =>
        obtain ⟨rfl, rfl⟩ := List.cons.inj hmid
        exact .inr ⟨rest, right, List.append_assoc _ _ _⟩
  · rintro (h | h)
    · exact h.trans (List.prefix_append _ _).isInfix
    · exact h.trans ((List.suffix_cons _ _).trans (List.suffix_append _ _)).isInfix

/-- A text that starts with a word without the separator has it before the separator. -/
theorem prefix_append_cons_iff (hsep : sep ∉ part) {before after : List α} :
    part <+: before ++ sep :: after ↔ part <+: before := by
  refine ⟨fun h => ?_, fun h => h.trans (List.prefix_append _ _)⟩
  rcases List.prefix_or_prefix_of_prefix h (List.prefix_append _ _) with hpart | ⟨rest, rfl⟩
  · exact hpart
  · rw [List.prefix_append_right_inj] at h
    cases rest with
    | nil => simp
    | cons c rest =>
      obtain ⟨rfl, -⟩ := List.cons_prefix_cons.mp h
      exact absurd (List.mem_append_right _ List.mem_cons_self) hsep

end Parts

/-- A part without the separator lies in one of the pieces. -/
theorem infix_joinWith_iff {sep : Char} {part : List Char} {pieces : List String}
    (hsep : sep ∉ part) (hpart : part ≠ []) :
    part <:+: (joinWith sep pieces).toList ↔ ∃ piece ∈ pieces, part <:+: piece.toList := by
  induction pieces with
  | nil =>
    have hempty : (joinWith sep []).toList = [] := rfl
    simp [hempty, hpart]
  | cons piece rest ih =>
    cases rest with
    | nil => simp only [joinWith_singleton, List.mem_singleton, exists_eq_left]
    | cons next rest =>
      rw [joinWith_cons_cons, String.toList_append, String.toList_append, List.append_assoc,
        String.toList_singleton, List.singleton_append, infix_append_cons_iff hsep, ih]
      simp only [List.mem_cons, or_and_right, exists_or, exists_eq_left]

section Border

variable {α : Type} {last : α} {init before rest : List α}

/-- A word whose last letter occurs only once first occurs after a text that does not have it. -/
theorem not_prefix_append_of_not_infix (hlast : last ∉ init)
    (hbefore : ¬init ++ [last] <:+: before) (hne : before ≠ []) :
    ¬init ++ [last] <+: before ++ (init ++ [last] ++ rest) := by
  intro hprefix
  rcases List.prefix_or_prefix_of_prefix hprefix (List.prefix_append _ _) with hword | hword
  · exact hbefore hword.isInfix
  · obtain ⟨after, hafter⟩ := hword
    rw [← hafter, List.prefix_append_right_inj, hafter] at hprefix
    rcases List.eq_nil_or_concat after with rfl | ⟨after, last', rfl⟩
    · rw [List.append_nil] at hafter
      exact hbefore (hafter ▸ List.infix_refl _)
    · rw [List.concat_eq_append] at hafter hprefix
      rw [← List.append_assoc] at hafter
      obtain ⟨rfl, hletter⟩ := List.append_inj' hafter rfl
      obtain rfl := List.singleton_inj.mp hletter
      have hpos := List.length_pos_iff.mpr hne
      rw [List.append_assoc (before ++ after)] at hprefix
      have hinit := List.prefix_of_prefix_length_le hprefix (List.prefix_append _ _) (by
        simp only [List.length_append, List.length_singleton]
        omega)
      exact hlast (hinit.subset (List.mem_append_right _ List.mem_cons_self))

end Border

end Text
