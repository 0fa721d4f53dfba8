import Mathlib.Data.List.Basic

/-!
# Text between double quotes

How a shell reads a text after an opening double quote. Between the quotes a dollar sign before a
name, a digit or one of some signs stands for a parameter, and a backslash before one of the signs
that are special there stands for the sign. Dollar signs before brackets and back quotes start
constructs that are not read here.
-/

namespace Shell

/-- A piece of a text between double quotes. -/
inductive Piece
  | char (c : Char)
  | param (token : List Char)
  deriving DecidableEq

/-- What comes of reading up to the closing quote. -/
inductive Reading
  /-- The pieces before the closing quote, and what stands behind it. -/
  | closed (pieces : List Piece) (rest : List Char)
  /-- There is no closing quote. -/
  | unterminated
  /-- There is a back quote, or a dollar sign before a bracket. -/
  | substitution
  deriving DecidableEq

/-- A piece before what is read. -/
def Reading.cons (piece : Piece) : Reading → Reading
  | .closed pieces rest => .closed (piece :: pieces) rest
  | .unterminated => .unterminated
  | .substitution => .substitution

/-- The back quote. -/
def backquote : Char := Char.ofNat 96

/-- The signs that a backslash can stand before. -/
def isSpecial (c : Char) : Bool := c = '"' || c = '\\' || c = '$' || c = backquote

/-- The characters of a name. -/
def isNameChar (c : Char) : Bool := c.isAlphanum || c = '_'

/-- The name or the sign of a parameter behind a dollar sign. -/
def paramToken (cs : List Char) : Option (List Char) :=
  cs.head?.bind fun c =>
    if c.isAlpha || c = '_' then some (cs.takeWhile isNameChar)
    else if c.isDigit || c ∈ ['@', '*', '#', '?', '-', '$', '!'] then some [c]
    else none

/-- Read a text behind an opening double quote, without its first `skip` characters. -/
def readQuoted : (skip : ℕ) → List Char → Reading
  | _, [] => .unterminated
  | skip + 1, _ :: cs => readQuoted skip cs
  | 0, c :: cs =>
    if c = '"' then .closed [] cs
    else if c = backquote then .substitution
    else if c = '\\' then
      if cs.head?.any isSpecial then (readQuoted 1 cs).cons (.char (cs.headD c))
      else if cs.head? = some '\n' then readQuoted 1 cs
      else (readQuoted 0 cs).cons (.char c)
    else if c = '$' then
      if cs.head?.any fun d => d ∈ ['(', '[', Char.ofNat 123] then .substitution
      else
        (paramToken cs).elim ((readQuoted 0 cs).cons (.char c)) fun token =>
          (readQuoted token.length cs).cons (.param token)
    else (readQuoted 0 cs).cons (.char c)

/-- The text of a piece, with the values of the parameters. -/
def Piece.text (value : List Char → List Char) : Piece → List Char
  | .char c => [c]
  | .param token => value token

/-- The text of pieces, with the values of the parameters. -/
def expand (value : List Char → List Char) (pieces : List Piece) : List Char :=
  pieces.flatMap (Piece.text value)

/-- Characters stand for themselves. -/
theorem expand_map_char (value : List Char → List Char) (cs : List Char) :
    expand value (cs.map .char) = cs := by
  induction cs with
  | nil => rfl
  | cons c cs ih =>
    rw [List.map_cons, expand, List.flatMap_cons]
    exact congrArg (c :: ·) ih

/-- What is closed after a piece is closed without it. -/
theorem Reading.cons_eq_closed {piece : Piece} {reading : Reading} {pieces : List Piece}
    {rest : List Char} (h : reading.cons piece = .closed pieces rest) :
    ∃ tail, pieces = piece :: tail ∧ reading = .closed tail rest := by
  cases reading with
  | closed tail rest' =>
    obtain ⟨rfl, rfl⟩ := Reading.closed.inj h
    exact ⟨tail, rfl, rfl⟩
  | unterminated => cases h
  | substitution => cases h

/-- A character that is not special stands for itself. -/
theorem readQuoted_of_plain {c : Char} (h : isSpecial c = false) (cs : List Char) :
    readQuoted 0 (c :: cs) = (readQuoted 0 cs).cons (.char c) := by
  simp only [isSpecial, Bool.or_eq_false_iff, decide_eq_false_iff_not] at h
  obtain ⟨⟨⟨hquote, hbackslash⟩, hdollar⟩, hback⟩ := h
  rw [readQuoted, if_neg hquote, if_neg hback, if_neg hbackslash, if_neg hdollar]

/-- Text without special characters before another text. -/
theorem readQuoted_append {plain : List Char} (h : ∀ c ∈ plain, isSpecial c = false)
    (cs : List Char) :
    readQuoted 0 (plain ++ cs) = (plain.map Piece.char).foldr Reading.cons (readQuoted 0 cs) := by
  induction plain with
  | nil => rfl
  | cons c plain ih =>
    obtain ⟨hc, hplain⟩ := List.forall_mem_cons.mp h
    rw [List.cons_append, readQuoted_of_plain hc, ih hplain, List.map_cons, List.foldr_cons]

/-- Pieces in front of what is closed. -/
theorem foldr_cons_closed (before : List Piece) (pieces : List Piece) (rest : List Char) :
    before.foldr Reading.cons (.closed pieces rest) = .closed (before ++ pieces) rest := by
  induction before with
  | nil => rfl
  | cons piece before ih =>
    rw [List.foldr_cons, ih]
    rfl

/-- What is closed after some pieces is closed without them. -/
theorem foldr_cons_eq_closed {before pieces : List Piece} {reading : Reading} {rest : List Char}
    (h : before.foldr Reading.cons reading = .closed pieces rest) :
    ∃ tail, pieces = before ++ tail ∧ reading = .closed tail rest := by
  induction before generalizing pieces with
  | nil => exact ⟨pieces, rfl, h⟩
  | cons piece before ih =>
    obtain ⟨tail, rfl, hread⟩ := Reading.cons_eq_closed h
    obtain ⟨tail', rfl, hlast⟩ := ih hread
    exact ⟨tail', rfl, hlast⟩

/-- The length of a text if no parameter has a value. -/
def size (pieces : List Piece) : ℕ := (expand (fun _ => []) pieces).length

/-- A character counts. -/
theorem size_char (c : Char) (pieces : List Piece) :
    size (.char c :: pieces) = size pieces + 1 := by
  rw [size, expand, List.flatMap_cons, List.length_append, Piece.text, List.length_singleton,
    Nat.add_comm]
  rfl

/-- A parameter does not count. -/
theorem size_param (token : List Char) (pieces : List Piece) :
    size (.param token :: pieces) = size pieces := by
  rw [size, expand, List.flatMap_cons, Piece.text, List.nil_append]
  rfl

/-- A text that was read up to the closing quote is not longer than what it was read from, and as
long only if each of its characters stands for itself. -/
structure Spent (skip : ℕ) (cs : List Char) (pieces : List Piece) (rest used : List Char) :
    Prop where
  split : cs = used ++ '"' :: rest
  size_le : size pieces + skip ≤ used.length
  literal : skip = 0 → size pieces = used.length → pieces = used.map .char

/-- A character that stands for itself. -/
theorem Spent.char {c : Char} {cs rest used : List Char} {pieces : List Piece}
    (h : Spent 0 cs pieces rest used) : Spent 0 (c :: cs) (.char c :: pieces) rest (c :: used) where
  split := by rw [h.split, List.cons_append]
  size_le := by
    have hle := h.size_le
    rw [size_char, List.length_cons]
    omega
  literal := by
    intro _ hsize
    rw [size_char, List.length_cons] at hsize
    rw [h.literal rfl (by omega), List.map_cons]

/-- Characters that stand for less than themselves. -/
theorem Spent.lose {c : Char} {skip : ℕ} {cs rest used : List Char} {pieces pieces' : List Piece}
    (h : Spent skip cs pieces rest used) (hsize : size pieces' ≤ size pieces + skip) :
    Spent 0 (c :: cs) pieces' rest (c :: used) where
  split := by rw [h.split, List.cons_append]
  size_le := by
    have hle := h.size_le
    rw [List.length_cons]
    omega
  literal := by
    intro _ heq
    have hle := h.size_le
    rw [List.length_cons] at heq
    omega

/-- Every text that is read up to a closing quote is spent in this way. -/
theorem exists_spent {skip : ℕ} {cs rest : List Char} {pieces : List Piece}
    (h : readQuoted skip cs = .closed pieces rest) : ∃ used, Spent skip cs pieces rest used := by
  induction cs generalizing skip pieces with
  | nil =>
    rw [readQuoted] at h
    cases h
  | cons c cs ih =>
    cases skip with
    | succ skip =>
      rw [readQuoted] at h
      obtain ⟨used, hused⟩ := ih h
      have hle := hused.size_le
      refine ⟨c :: used, by rw [hused.split, List.cons_append], ?_, fun h => by omega⟩
      rw [List.length_cons]
      omega
    | zero =>
      have hplain (h : (readQuoted 0 cs).cons (.char c) = .closed pieces rest) :
          ∃ used, Spent 0 (c :: cs) pieces rest used := by
        obtain ⟨tail, rfl, hread⟩ := Reading.cons_eq_closed h
        obtain ⟨used, hused⟩ := ih hread
        exact ⟨c :: used, hused.char⟩
      rw [readQuoted] at h
      split at h
      · next hquote =>
        obtain ⟨rfl, rfl⟩ := Reading.closed.inj h
        exact ⟨[], by rw [hquote]; rfl, Nat.le_refl 0, fun _ _ => rfl⟩
      · split at h
        · cases h
        · split at h
          · split at h
            · obtain ⟨tail, rfl, hread⟩ := Reading.cons_eq_closed h
              obtain ⟨used, hused⟩ := ih hread
              exact ⟨c :: used, hused.lose (Nat.le_of_eq (size_char _ _))⟩
            · split at h
              · obtain ⟨used, hused⟩ := ih h
                exact ⟨c :: used, hused.lose (Nat.le_add_right _ _)⟩
              · exact hplain h
          · split at h
            · split at h
              · cases h
              · cases htoken : paramToken cs with
                | none =>
                  rw [htoken] at h
                  exact hplain h
                | some token =>
                  rw [htoken] at h
                  obtain ⟨tail, rfl, hread⟩ := Reading.cons_eq_closed h
                  obtain ⟨used, hused⟩ := ih hread
                  exact ⟨c :: used, hused.lose (by rw [size_param]; exact Nat.le_add_right _ _)⟩
            · exact hplain h

/-- A text that is read as itself, if parameters have no values, is read character by character. -/
theorem eq_map_char_of_expand_eq {cs rest : List Char} {pieces : List Piece}
    (h : readQuoted 0 (cs ++ '"' :: rest) = .closed pieces rest)
    (hexpand : expand (fun _ => []) pieces = cs) : pieces = cs.map Piece.char := by
  obtain ⟨used, hused⟩ := exists_spent h
  obtain rfl : cs = used := List.append_cancel_right hused.split
  exact hused.literal rfl (congrArg List.length hexpand)

end Shell
