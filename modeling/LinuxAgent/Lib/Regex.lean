import LinuxAgent.Lib.Text

/-!
# Regular expressions without alternatives

A pattern is a sequence of single characters, greedy repetitions and line anchors. A match
is found from left to right: a repetition takes as many characters as leave a match for
the rest of the pattern, and a search takes the first position with a match. A
replacement text refers to the groups of a match by names after dollar signs.
-/

namespace Regex

/-- A part of a pattern. -/
inductive Atom
  /-- One character of a class. -/
  | one (p : Char → Bool)
  /-- As many characters of a class as possible. -/
  | many (p : Char → Bool)
  /-- The start of a line, `^` in multi-line mode. -/
  | lineStart
  /-- The end of a line, `$` in multi-line mode. -/
  | lineEnd

/-- A text as a pattern. -/
def lits (w : List Char) : List Atom := w.map fun c => .one (· == c)

/-- What the parts of a pattern have matched, and what comes after it. -/
structure Match where
  pieces : List (List Char)
  rest : List Char

/-- A match of one more part. -/
def Match.cons (piece : List Char) (m : Match) : Match := ⟨piece :: m.pieces, m.rest⟩

/-- The whole text of a match. -/
def Match.text (m : Match) : List Char := m.pieces.flatten

/-- The characters that a repetition takes, and the match of the rest of the pattern. -/
def matchMany (p : Char → Bool) (next : Option Char → List Char → Option Match) :
    Option Char → List Char → Option (List Char × Match)
  | prev, [] => (next prev []).map ([], ·)
  | prev, c :: cs =>
    if p c then
      match matchMany p next (some c) cs with
      | some (taken, m) => some (c :: taken, m)
      | none => (next prev (c :: cs)).map ([], ·)
    else (next prev (c :: cs)).map ([], ·)

/-- The match of a pattern at the start of a text that comes after a character. -/
def matchHere : List Atom → Option Char → List Char → Option Match
  | [], _, cs => some ⟨[], cs⟩
  | .one _ :: _, _, [] => none
  | .one p :: re, _, c :: cs => if p c then (matchHere re (some c) cs).map (·.cons [c]) else none
  | .many p :: re, prev, cs => (matchMany p (matchHere re) prev cs).map fun m => m.2.cons m.1
  | .lineStart :: re, prev, cs =>
    if prev.all (· == '\n') then (matchHere re prev cs).map (·.cons []) else none
  | .lineEnd :: re, prev, cs =>
    if cs.head?.all (· == '\n') then (matchHere re prev cs).map (·.cons []) else none

/-- The first match in a text, with what comes before it. -/
def find (re : List Atom) : Option Char → List Char → Option (List Char × Match)
  | prev, [] => (matchHere re prev []).map ([], ·)
  | prev, c :: cs =>
    match matchHere re prev (c :: cs) with
    | some m => some ([], m)
    | none => (find re (some c) cs).map fun found => (c :: found.1, found.2)

/-- `Regex::captures`. -/
def captures (re : List Atom) (s : String) : Option (List Char × Match) := find re none s.toList

/-- A character of a name after a dollar sign. -/
def isNameChar (c : Char) : Bool := c.isAlphanum || c == '_'

/-- Where the reading of a replacement text stands. -/
inductive Reading
  | copying
  | afterDollar
  | inName (name : List Char)
  | inBraces (name : List Char)

/-- Put in the groups for their names. -/
def expandFrom (group : List Char → List Char) : Reading → List Char → List Char
  | .copying, [] => []
  | .copying, c :: cs =>
    if c = '$' then expandFrom group .afterDollar cs else c :: expandFrom group .copying cs
  | .afterDollar, [] => ['$']
  | .afterDollar, c :: cs =>
    if c = '$' then '$' :: expandFrom group .copying cs
    else if c = '\x7b' ∧ '\x7d' ∈ cs then expandFrom group (.inBraces []) cs
    else if isNameChar c then expandFrom group (.inName [c]) cs
    else '$' :: c :: expandFrom group .copying cs
  | .inName name, [] => group name
  | .inName name, c :: cs =>
    if isNameChar c then expandFrom group (.inName (name ++ [c])) cs
    else if c = '$' then group name ++ expandFrom group .afterDollar cs
    else group name ++ c :: expandFrom group .copying cs
  | .inBraces _, [] => []
  | .inBraces name, c :: cs =>
    if c = '\x7d' then group name ++ expandFrom group .copying cs
    else expandFrom group (.inBraces (name ++ [c])) cs

/-- `Captures::expand`. Names of groups that do not exist stand for nothing. -/
def expand (groups : List (List Char)) (template : List Char) : List Char :=
  let group (name : List Char) : List Char :=
    ((Text.parseU64 name).bind fun i => groups[i]?).getD []
  expandFrom group .copying template

/-- `Regex::replace`: the first match is replaced, if there is one. -/
def replace (re : List Atom) (groups : Match → List (List Char)) (template s : String) : String :=
  match captures re s with
  | none => s
  | some (before, m) =>
    String.ofList (before ++ expand (m.text :: groups m) template.toList ++ m.rest)

/-- The last character of a text that comes after another character. -/
def lastOf (prev : Option Char) (cs : List Char) : Option Char :=
  cs.foldl (fun _ c => some c) prev

section Parts

variable {re : List Atom} {prev : Option Char} {cs : List Char} {m : Match}

/-- A text matches itself. -/
theorem matchHere_lits (w : List Char) :
    matchHere (lits w ++ re) prev (w ++ cs) =
      (matchHere re (lastOf prev w) cs).map fun m => ⟨w.map ([·]) ++ m.pieces, m.rest⟩ := by
  induction w generalizing prev with
  | nil => exact Option.map_id'.symm
  | cons c w ih =>
    have hstep : matchHere (lits (c :: w) ++ re) prev (c :: w ++ cs) =
        (matchHere (lits w ++ re) (some c) (w ++ cs)).map (·.cons [c]) :=
      if_pos (beq_self_eq_true c)
    rw [hstep, ih, Option.map_map]
    rfl

/-- A match of a text starts with it. -/
theorem prefix_of_matchHere_lits {w : List Char} (h : matchHere (lits w ++ re) prev cs = some m) :
    w <+: cs := by
  induction w generalizing prev cs m with
  | nil => exact List.nil_prefix
  | cons c w ih =>
    cases cs with
    | nil => exact absurd h (by simp [lits, matchHere])
    | cons c' cs =>
      by_cases hc : (c' == c) = true
      · obtain rfl := eq_of_beq hc
        have hstep : matchHere (lits (c' :: w) ++ re) prev (c' :: cs) =
            (matchHere (lits w ++ re) (some c') cs).map (·.cons [c']) := if_pos hc
        rw [hstep] at h
        obtain ⟨m', hm', -⟩ := Option.map_eq_some_iff.mp h
        exact (List.cons_prefix_cons).mpr ⟨rfl, ih hm'⟩
      · have hstep : matchHere (lits (c :: w) ++ re) prev (c' :: cs) = none := if_neg hc
        rw [hstep] at h
        exact absurd h (by simp)

/-- A repetition takes all characters of its class when the rest matches after them. -/
theorem matchHere_many {p : Char → Bool} {ws : List Char} (hws : ∀ c ∈ ws, p c = true)
    (hcs : ∀ c ∈ cs.head?, p c = false) (h : matchHere re (lastOf prev ws) cs = some m) :
    matchHere (.many p :: re) prev (ws ++ cs) = some (m.cons ws) := by
  have hmany : matchMany p (matchHere re) prev (ws ++ cs) = some (ws, m) := by
    induction ws generalizing prev with
    | nil =>
      cases cs with
      | nil =>
        rw [List.nil_append, matchMany]
        exact Option.map_eq_some_iff.mpr ⟨m, h, rfl⟩
      | cons c cs =>
        rw [List.nil_append, matchMany, if_neg (ne_true_of_eq_false (hcs c rfl))]
        exact Option.map_eq_some_iff.mpr ⟨m, h, rfl⟩
    | cons c ws ih =>
      obtain ⟨hc, hws⟩ := List.forall_mem_cons.mp hws
      rw [List.cons_append, matchMany, if_pos hc, ih hws h]
  rw [matchHere, hmany]
  rfl

/-- A repetition takes characters of its class, and the rest matches after them. -/
theorem exists_of_matchHere_many {p : Char → Bool}
    (h : matchHere (.many p :: re) prev cs = some m) :
    ∃ ws cs' prev' m', cs = ws ++ cs' ∧ (∀ c ∈ ws, p c = true) ∧
      matchHere re prev' cs' = some m' := by
  obtain ⟨⟨ws, m'⟩, hmany, -⟩ := Option.map_eq_some_iff.mp h
  clear h
  suffices ∃ cs' prev', cs = ws ++ cs' ∧ (∀ c ∈ ws, p c = true) ∧
      matchHere re prev' cs' = some m' by
    obtain ⟨cs', prev', h⟩ := this
    exact ⟨ws, cs', prev', m', h⟩
  induction cs generalizing prev ws with
  | nil =>
    obtain ⟨m'', hm'', heq⟩ := Option.map_eq_some_iff.mp hmany
    obtain ⟨rfl, rfl⟩ := Prod.mk.inj heq
    exact ⟨[], prev, rfl, fun _ hc => absurd hc List.not_mem_nil, hm''⟩
  | cons c cs ih =>
    have hstop (hnext : ((matchHere re prev (c :: cs)).map ([], ·)) = some (ws, m')) :
        ∃ cs' prev', c :: cs = ws ++ cs' ∧ (∀ c ∈ ws, p c = true) ∧
          matchHere re prev' cs' = some m' := by
      obtain ⟨m'', hm'', heq⟩ := Option.map_eq_some_iff.mp hnext
      obtain ⟨rfl, rfl⟩ := Prod.mk.inj heq
      exact ⟨c :: cs, prev, rfl, fun _ hc => absurd hc List.not_mem_nil, hm''⟩
    rw [matchMany] at hmany
    by_cases hc : p c = true
    · rw [if_pos hc] at hmany
      cases hrec : matchMany p (matchHere re) (some c) cs with
      | none =>
        rw [hrec] at hmany
        exact hstop hmany
      | some found =>
        obtain ⟨taken, m''⟩ := found
        rw [hrec] at hmany
        obtain ⟨rfl, rfl⟩ := Prod.mk.inj (Option.some.inj hmany)
        obtain ⟨cs', prev', rfl, htaken, hm'⟩ := ih taken hrec
        exact ⟨cs', prev', rfl, List.forall_mem_cons.mpr ⟨hc, htaken⟩, hm'⟩
    · rw [if_neg hc] at hmany
      exact hstop hmany

end Parts

section Find

variable {re : List Atom} {prev : Option Char} {s : List Char}

/-- A search goes past a part of the text in which no match starts. -/
theorem find_append {before : List Char}
    (hnone : ∀ u c v, before = u ++ c :: v → matchHere re (lastOf prev u) (c :: v ++ s) = none) :
    find re prev (before ++ s) =
      (find re (lastOf prev before) s).map fun found => (before ++ found.1, found.2) := by
  induction before generalizing prev with
  | nil => exact Option.map_id'.symm
  | cons c before ih =>
    have hhere : matchHere re prev (c :: before ++ s) = none := hnone [] c before rfl
    rw [List.cons_append, find, ← List.cons_append, hhere]
    dsimp only
    rw [ih fun u c' v heq => hnone (c :: u) c' v (heq ▸ rfl), Option.map_map]
    rfl

/-- A search stops at a match. -/
theorem find_of_matchHere {m : Match} (h : matchHere re prev s = some m) :
    find re prev s = some ([], m) := by
  cases s with
  | nil =>
    rw [find, h]
    rfl
  | cons c s => rw [find, h]

/-- A search that finds something has found a match. -/
theorem exists_of_find {found : List Char × Match} (h : find re prev s = some found) :
    ∃ before after prev', s = before ++ after ∧ matchHere re prev' after = some found.2 := by
  induction s generalizing prev found with
  | nil =>
    obtain ⟨m, hm, rfl⟩ := Option.map_eq_some_iff.mp h
    exact ⟨[], [], prev, rfl, hm⟩
  | cons c s ih =>
    rw [find] at h
    cases hm : matchHere re prev (c :: s) with
    | some m =>
      rw [hm] at h
      obtain rfl := Option.some.inj h
      exact ⟨[], c :: s, prev, rfl, hm⟩
    | none =>
      rw [hm] at h
      obtain ⟨found', hfound', rfl⟩ := Option.map_eq_some_iff.mp h
      obtain ⟨before, after, prev', rfl, hafter⟩ := ih hfound'
      exact ⟨c :: before, after, prev', rfl, hafter⟩

/-- The text after a replacement. -/
theorem toList_replace {found : List Char × Match} {text : String}
    (h : captures re text = some found) (groups : Match → List (List Char)) (template : String) :
    (replace re groups template text).toList = found.1 ++
      (expand (found.2.text :: groups found.2) template.toList ++ found.2.rest) := by
  rw [replace, h]
  dsimp only
  rw [String.toList_ofList, List.append_assoc]

end Find

section Expand

variable {group : List Char → List Char}

/-- A text without dollar signs is copied. -/
theorem expandFrom_append {w : List Char} (hw : '$' ∉ w) (rest : List Char) :
    expandFrom group .copying (w ++ rest) = w ++ expandFrom group .copying rest := by
  induction w with
  | nil => rfl
  | cons c w ih =>
    have hc : c ≠ '$' := fun heq => hw (heq ▸ List.mem_cons_self)
    rw [List.cons_append, expandFrom, if_neg hc, ih fun hmem => hw (List.mem_cons_of_mem c hmem),
      List.cons_append]

/-- Every character of an expanded text comes from the template or from a group. -/
theorem of_mem_expandFrom {x : Char} {reading : Reading} {template : List Char}
    (hx : x ∈ expandFrom group reading template) :
    x = '$' ∨ x ∈ template ∨ ∃ name, x ∈ group name := by
  induction template generalizing reading with
  | nil =>
    cases reading with
    | copying => exact absurd hx List.not_mem_nil
    | afterDollar => exact .inl (List.mem_singleton.mp hx)
    | inName name => exact .inr (.inr ⟨name, hx⟩)
    | inBraces name => exact absurd hx List.not_mem_nil
  | cons c cs ih =>
    have hrest {reading : Reading} (hx : x ∈ expandFrom group reading cs) :
        x = '$' ∨ x ∈ c :: cs ∨ ∃ name, x ∈ group name :=
      (ih hx).imp_right (Or.imp_left (List.mem_cons_of_mem c))
    have hcopied (hx : x ∈ c :: expandFrom group .copying cs) :
        x = '$' ∨ x ∈ c :: cs ∨ ∃ name, x ∈ group name := by
      rcases List.mem_cons.mp hx with rfl | hx
      · exact .inr (.inl List.mem_cons_self)
      · exact hrest hx
    have hgroup {name rest : List Char} (hx : x ∈ group name ++ rest)
        (hin : x ∈ rest → x = '$' ∨ x ∈ c :: cs ∨ ∃ name, x ∈ group name) :
        x = '$' ∨ x ∈ c :: cs ∨ ∃ name, x ∈ group name := by
      rcases List.mem_append.mp hx with hx | hx
      · exact .inr (.inr ⟨name, hx⟩)
      · exact hin hx
    cases reading with
    | copying =>
      rw [expandFrom] at hx
      split at hx
      · exact hrest hx
      · exact hcopied hx
    | afterDollar =>
      rw [expandFrom] at hx
      split at hx
      · rcases List.mem_cons.mp hx with rfl | hx
        · exact .inl rfl
        · exact hrest hx
      · split at hx
        · exact hrest hx
        · split at hx
          · exact hrest hx
          · rcases List.mem_cons.mp hx with rfl | hx
            · exact .inl rfl
            · exact hcopied hx
    | inName name =>
      rw [expandFrom] at hx
      split at hx
      · exact hrest hx
      · split at hx
        · exact hgroup hx hrest
        · exact hgroup hx hcopied
    | inBraces name =>
      rw [expandFrom] at hx
      split at hx
      · exact hgroup hx hrest
      · exact hrest hx

/-- Every character of an expanded text comes from the template or from the match. -/
theorem of_mem_expand {x : Char} {groups : List (List Char)} {template : List Char}
    (hx : x ∈ expand groups template) : x = '$' ∨ x ∈ template ∨ ∃ g ∈ groups, x ∈ g := by
  refine (of_mem_expandFrom hx).imp_right (Or.imp_right fun ⟨name, hname⟩ => ?_)
  cases hgroup : (Text.parseU64 name).bind fun i => groups[i]? with
  | none =>
    rw [hgroup] at hname
    exact absurd hname List.not_mem_nil
  | some g =>
    rw [hgroup] at hname
    obtain ⟨i, -, hi⟩ := Option.bind_eq_some_iff.mp hgroup
    exact ⟨g, List.mem_of_getElem? hi, hname⟩

end Expand

end Regex
