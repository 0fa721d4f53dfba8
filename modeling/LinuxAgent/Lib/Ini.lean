import LinuxAgent.Lib.Text

/-!
# Files of sections, keys and values

The text of a document in the INI format, and what may be expected of a library that loads
such files: every entry of a plain document is found again under its section and key,
whatever the case of their letters, and every value is a trimmed piece of a line. The loader
at the end of the module meets this.
-/

namespace Ini

/-- A section with its entries. -/
structure Section where
  name : String
  entries : List (String × String)
  deriving DecidableEq

/-- The sections of a file. -/
abbrev Document := List Section

/-- The line of an entry. -/
def entryLine (entry : String × String) : String := entry.1 ++ "=" ++ entry.2

/-- The lines of a section. -/
def Section.lines (s : Section) : List String := ("[" ++ s.name ++ "]") :: s.entries.map entryLine

/-- The text of a document. -/
def Document.text (doc : Document) : String := Text.unlines (doc.flatMap Section.lines)

/-- A text in small letters. -/
def lower (s : String) : String := String.ofList (s.toList.map Char.toLower)

/-- A name of letters, digits and underscores. -/
def isName (s : String) : Bool :=
  s.toList ≠ [] && s.toList.all fun c => c.isAlphanum || c = '_'

/-- A value without line breaks, without the characters that begin a comment or stand around
the name of a section, and without blanks at its ends. -/
def isPlain (s : String) : Bool :=
  (s.toList.all fun c => c ∉ ['\n', ';', '#', '[', ']']) && Text.trim s = s

/-- The section and the key of every entry, in small letters. -/
def Document.keys (doc : Document) : List (String × String) :=
  doc.flatMap fun s => s.entries.map fun e => (lower s.name, lower e.1)

/-- The names and values are plain, and no key is there twice in a section. -/
structure Document.Plain (doc : Document) : Prop where
  name : ∀ s ∈ doc, isName s.name = true
  key : ∀ s ∈ doc, ∀ e ∈ s.entries, isName e.1 = true
  value : ∀ s ∈ doc, ∀ e ∈ s.entries, isPlain e.2 = true
  nodup : doc.keys.Nodup

/-- The values of a loaded file, by section and key. -/
abbrev Table := String → String → Option String

/-- Every entry of a plain document is found under its section and key, whatever the case of
their letters. -/
def ReadsDocuments (load : String → Option Table) : Prop :=
  ∀ doc : Document, doc.Plain → ∃ table, load doc.text = some table ∧
    ∀ s ∈ doc, ∀ e ∈ s.entries, ∀ name key, lower name = lower s.name → lower key = lower e.1 →
      table name key = some e.2

/-- Every value that is found is a piece of a line without the blanks around it. -/
def ReadsLines (load : String → Option Table) : Prop :=
  ∀ text table name key value, load text = some table → table name key = some value →
    '\n' ∉ value.toList ∧ Text.trim value = value

/-- What has been read of a file: the section that the next entries belong to, and the values
by section and key. -/
structure Reading where
  current : String := "default"
  values : String × String → Option String := fun _ => none

/-- Put a value under a key of the current section. -/
def Reading.set (r : Reading) (key : String) (value : Option String) : Reading :=
  { r with values := fun p => if p = (r.current, lower key) then value else r.values p }

/-- A character that begins a comment. -/
def isComment (c : Char) : Bool := c = ';' || c = '#'

/-- A character between a key and its value. -/
def isDelimiter (c : Char) : Bool := c = '=' || c = ':'

/-- The text between the bracket at the start of a line and the last closing one. -/
def bracketed (line : List Char) : List Char :=
  (line.tail.reverse.dropWhile (· ≠ ']')).tail.reverse

/-- Read the line of a section. -/
def Reading.readSection (r : Reading) (line : List Char) : Option Reading :=
  if ']' ∈ line then some { r with current := lower (Text.trim (String.ofList (bracketed line))) }
  else none

/-- Read the line of an entry. -/
def Reading.readEntry (r : Reading) (line : List Char) : Option Reading :=
  let key := Text.trim (String.ofList (line.takeWhile fun c => !isDelimiter c))
  match line.dropWhile fun c => !isDelimiter c with
  | [] => some (r.set key none)
  | _ :: value =>
    if key = "" then none else some (r.set key (some (Text.trim (String.ofList value))))

/-- A line without a comment and the blanks around it. -/
def cleanLine (rawLine : String) : List Char :=
  Text.trimChars (rawLine.toList.takeWhile fun c => !isComment c)

/-- Read one line. -/
def Reading.readLine (r : Reading) (rawLine : String) : Option Reading :=
  let line := cleanLine rawLine
  if line = [] then some r
  else if line.head? = some '[' then r.readSection line
  else r.readEntry line

/-- Load a file. -/
def load (text : String) : Option Table :=
  ((Text.lines text).foldlM Reading.readLine {}).map fun r name key =>
    r.values (lower name, lower key)

/-- The code points of letters and digits. -/
theorem toNat_of_isAlphanum {c : Char} (h : c.isAlphanum = true) :
    (65 ≤ c.toNat ∧ c.toNat ≤ 90 ∨ 97 ≤ c.toNat ∧ c.toNat ≤ 122) ∨
      48 ≤ c.toNat ∧ c.toNat ≤ 57 := by
  have hbounds {low high : UInt32} (h : c.val ≥ low ∧ c.val ≤ high) :
      low.toNat ≤ c.toNat ∧ c.toNat ≤ high.toNat :=
    ⟨UInt32.le_iff_toNat_le.mp h.1, UInt32.le_iff_toNat_le.mp h.2⟩
  have hboth {low high : UInt32} (h : (decide (c.val ≥ low) && decide (c.val ≤ high)) = true) :
      low.toNat ≤ c.toNat ∧ c.toNat ≤ high.toNat := by
    obtain ⟨hlow, hhigh⟩ := Bool.and_eq_true_iff.mp h
    exact hbounds ⟨of_decide_eq_true hlow, of_decide_eq_true hhigh⟩
  rcases Bool.or_eq_true_iff.mp h with halpha | hdigit
  · rcases Bool.or_eq_true_iff.mp halpha with hupper | hlower
    · exact .inl (.inl (hbounds (of_decide_eq_true hupper)))
    · exact .inl (.inr (hboth hlower))
  · exact .inr (hboth hdigit)

/-- The characters of a name have no other meaning. -/
theorem of_isName {s : String} (h : isName s = true) {c : Char} (hc : c ∈ s.toList) :
    Text.isWhiteSpace c = false ∧ isComment c = false ∧ isDelimiter c = false ∧
      c ∉ ['\n', '[', ']'] := by
  have hname : c.isAlphanum = true ∨ c = '_' := by
    have hall := (Bool.and_eq_true_iff.mp h).2
    simpa using List.all_eq_true.mp hall c hc
  rcases hname with halnum | rfl
  · have hrange := toNat_of_isAlphanum halnum
    have hne (d : Char) (hd : ¬((65 ≤ d.toNat ∧ d.toNat ≤ 90 ∨ 97 ≤ d.toNat ∧ d.toNat ≤ 122) ∨
        48 ≤ d.toNat ∧ d.toNat ≤ 57)) : c ≠ d := by
      rintro rfl
      exact hd hrange
    refine ⟨?_, ?_, ?_, ?_⟩
    · simp only [Text.isWhiteSpace, Bool.or_eq_false_iff, Bool.and_eq_false_iff,
        decide_eq_false_iff_not]
      omega
    · simp [isComment, hne ';' (by decide), hne '#' (by decide)]
    · simp [isDelimiter, hne '=' (by decide), hne ':' (by decide)]
    · simp [hne '\n' (by decide), hne '[' (by decide), hne ']' (by decide)]
  · decide

/-- There are no blanks around a name. -/
theorem trim_of_isName {s : String} (h : isName s = true) : Text.trim s = s := by
  refine Text.trim_eq_self_iff.mpr ⟨?_, ?_⟩
  · cases hhead : s.toList.head? with
    | none => rfl
    | some c => exact (of_isName h (List.mem_of_mem_head? hhead)).1
  · cases hlast : s.toList.getLast? with
    | none => rfl
    | some c => exact (of_isName h (List.mem_of_getLast? hlast)).1

/-- A name is not empty. -/
theorem exists_of_isName {s : String} (h : isName s = true) : ∃ c cs, s.toList = c :: cs :=
  List.exists_cons_of_ne_nil (of_decide_eq_true (Bool.and_eq_true_iff.mp h).1)

/-- A plain value is trimmed. -/
theorem trim_of_isPlain {s : String} (h : isPlain s = true) : Text.trim s = s :=
  of_decide_eq_true (Bool.and_eq_true_iff.mp h).2

/-- The characters of a plain value. -/
theorem of_isPlain {s : String} (h : isPlain s = true) {c : Char} (hc : c ∈ s.toList) :
    c ∉ ['\n', ';', '#', '[', ']'] :=
  of_decide_eq_true (List.all_eq_true.mp (Bool.and_eq_true_iff.mp h).1 c hc)

/-- The characters of the line of an entry. -/
theorem toList_entryLine (e : String × String) :
    (entryLine e).toList = e.1.toList ++ '=' :: e.2.toList := by
  rw [entryLine, String.toList_append, String.toList_append, List.append_assoc]
  rfl

/-- A name that is given by its characters. -/
theorem isName_ofList {cs : List Char}
    (h : (cs ≠ [] && cs.all fun c => c.isAlphanum || c = '_') = true) :
    isName (String.ofList cs) = true := by
  rwa [isName, String.toList_ofList]

/-- A plain value that is given by its characters. -/
theorem isPlain_ofList {cs : List Char}
    (h : ((cs.all fun c => c ∉ ['\n', ';', '#', '[', ']']) && Text.trimChars cs = cs) = true) :
    isPlain (String.ofList cs) = true := by
  obtain ⟨hall, htrim⟩ := Bool.and_eq_true_iff.mp h
  rw [isPlain, Text.trim, String.toList_ofList, of_decide_eq_true htrim, hall]
  exact decide_eq_true rfl

/-- A text as a number, to tell texts apart fast. -/
def code (s : String) : ℕ := s.toList.foldl (fun n c => 256 * n + c.toNat) 0

/-- The number of a text that is given by its characters, as one of several. -/
theorem exists_code_cons {cs : List Char} {rest : List ℕ} {p : List ℕ → Prop}
    (h : ∃ codes, rest = codes ∧
      p (cs.foldl (fun n c => 256 * n + c.toLower.toNat) 0 :: codes)) :
    ∃ codes, code (lower (String.ofList cs)) :: rest = codes ∧ p codes := by
  obtain ⟨codes, rfl, hp⟩ := h
  refine ⟨_, ?_, hp⟩
  rw [code, lower, String.toList_ofList, String.toList_ofList, List.foldl_map]

/-- A property that every line keeps holds of what has been read at the end. -/
theorem foldlM_readLine {I : Reading → Prop} {lines : List String} {r r' : Reading} (hr : I r)
    (hstep : ∀ r r' line, line ∈ lines → I r → r.readLine line = some r' → I r')
    (h : lines.foldlM Reading.readLine r = some r') : I r' := by
  induction lines generalizing r with
  | nil => exact Option.some.inj h ▸ hr
  | cons line lines ih =>
    rw [List.foldlM_cons] at h
    obtain ⟨next, hnext, hrest⟩ := Option.bind_eq_some_iff.mp h
    refine ih (hstep r next line List.mem_cons_self hr hnext) ?_ hrest
    exact fun r r' other hother => hstep r r' other (List.mem_cons_of_mem line hother)

/-- All values are trimmed pieces of lines. -/
def Reading.Trimmed (r : Reading) : Prop :=
  ∀ p value, r.values p = some value → '\n' ∉ value.toList ∧ Text.trim value = value

/-- Setting a trimmed value keeps the values trimmed. -/
theorem Reading.Trimmed.set {r : Reading} (h : r.Trimmed) (key : String) {value : Option String}
    (hvalue : ∀ v ∈ value, '\n' ∉ v.toList ∧ Text.trim v = v) : (r.set key value).Trimmed := by
  intro p v hv
  rw [Reading.set] at hv
  dsimp only at hv
  split at hv
  · exact hvalue v hv
  · exact h p v hv

/-- An entry keeps the values trimmed. -/
theorem Reading.Trimmed.readEntry {r r' : Reading} {line : List Char} (h : r.Trimmed)
    (hline : '\n' ∉ line) (hread : r.readEntry line = some r') : r'.Trimmed := by
  rw [Reading.readEntry] at hread
  cases hvalue : line.dropWhile fun c => !isDelimiter c with
  | nil =>
    rw [hvalue] at hread
    obtain rfl := Option.some.inj hread
    exact h.set _ (fun v hv => by cases hv)
  | cons c value =>
    simp only [hvalue] at hread
    by_cases hkey : Text.trim (String.ofList (line.takeWhile fun c => !isDelimiter c)) = ""
    · rw [if_pos hkey] at hread
      cases hread
    · rw [if_neg hkey] at hread
      obtain rfl := Option.some.inj hread
      refine h.set _ fun v hv => ?_
      obtain rfl := Option.some.inj hv
      refine ⟨fun hmem => hline ?_, Text.trim_trim _⟩
      rw [Text.trim, String.toList_ofList, String.toList_ofList] at hmem
      have hpiece : '\n' ∈ c :: value := List.mem_cons_of_mem c (Text.mem_of_mem_trimChars hmem)
      rw [← hvalue] at hpiece
      exact (List.dropWhile_suffix _).subset hpiece

/-- A line keeps the values trimmed. -/
theorem Reading.Trimmed.readLine {r r' : Reading} {line : String} (h : r.Trimmed)
    (hline : '\n' ∉ line.toList) (hread : r.readLine line = some r') : r'.Trimmed := by
  have hclean : '\n' ∉ cleanLine line := fun hmem =>
    hline ((List.takeWhile_prefix _).subset (Text.mem_of_mem_trimChars hmem))
  rw [Reading.readLine] at hread
  generalize cleanLine line = clean at hclean hread
  split at hread
  · exact Option.some.inj hread ▸ h
  split at hread
  · rw [Reading.readSection] at hread
    split at hread
    · obtain rfl := Option.some.inj hread
      exact fun p value hvalue => h p value hvalue
    · cases hread
  · exact h.readEntry hclean hread

/-- The values that the loader finds are trimmed pieces of lines. -/
theorem readsLines_load : ReadsLines load := by
  intro text table name key value hload hvalue
  obtain ⟨r, hr, rfl⟩ := Option.map_eq_some_iff.mp hload
  have htrimmed : r.Trimmed := by
    refine foldlM_readLine (I := Reading.Trimmed) (fun p value h => by cases h) ?_ hr
    exact fun r r' line hline h => h.readLine (Text.not_mem_of_mem_lines hline)
  exact htrimmed _ _ hvalue

/-- Put values under their keys, one after the other. -/
def putAll (values : String × String → Option String) (l : List ((String × String) × String)) :
    String × String → Option String :=
  l.foldl (fun values x p => if p = x.1 then some x.2 else values p) values

/-- Other keys keep their values. -/
theorem putAll_of_not_mem {p : String × String} {l : List ((String × String) × String)}
    (hp : p ∉ l.map Prod.fst) (values : String × String → Option String) :
    putAll values l p = values p := by
  induction l generalizing values with
  | nil => rfl
  | cons x l ih =>
    rw [List.map_cons, List.mem_cons, not_or] at hp
    rw [putAll, List.foldl_cons, ← putAll, ih hp.2, if_neg hp.1]

/-- A value is found under its key, if that is not used again. -/
theorem putAll_of_mem {x : (String × String) × String} {l : List ((String × String) × String)}
    (hl : (l.map Prod.fst).Nodup) (hx : x ∈ l) (values : String × String → Option String) :
    putAll values l x.1 = some x.2 := by
  induction l generalizing values with
  | nil => cases hx
  | cons y l ih =>
    rw [List.map_cons, List.nodup_cons] at hl
    rw [putAll, List.foldl_cons, ← putAll]
    rcases List.mem_cons.mp hx with rfl | hx
    · rw [putAll_of_not_mem hl.1, if_pos rfl]
    · exact ih hl.2 hx _

/-- A line that has no comment and no blanks around it. -/
theorem cleanLine_of_trimmed {line : String} (hcomment : ∀ c ∈ line.toList, isComment c = false)
    (hhead : line.toList.head?.any Text.isWhiteSpace = false)
    (hlast : line.toList.getLast?.any Text.isWhiteSpace = false) :
    cleanLine line = line.toList := by
  rw [cleanLine, List.takeWhile_eq_self_iff.mpr fun c hc => by rw [hcomment c hc]; rfl]
  exact Text.trimChars_eq_self hhead hlast

/-- The line of a section begins it. -/
theorem readLine_section {name : String} (hname : isName name = true) (r : Reading) :
    r.readLine ("[" ++ name ++ "]") = some { r with current := lower name } := by
  have hline : ("[" ++ name ++ "]").toList = '[' :: (name.toList ++ [']']) := by simp
  have hclean : cleanLine ("[" ++ name ++ "]") = '[' :: (name.toList ++ [']']) := by
    rw [cleanLine_of_trimmed, hline]
    · rw [hline]
      intro c hc
      rw [List.mem_cons, List.mem_append, List.mem_singleton] at hc
      rcases hc with rfl | hc | rfl
      · rfl
      · exact (of_isName hname hc).2.1
      · rfl
    · rw [hline]
      rfl
    · rw [hline, ← List.cons_append, List.getLast?_append]
      rfl
  have hbracketed : bracketed ('[' :: (name.toList ++ [']'])) = name.toList := by
    rw [bracketed, List.tail_cons, List.reverse_append]
    simp
  rw [Reading.readLine, hclean, if_neg (List.cons_ne_nil _ _), if_pos (List.head?_cons),
    Reading.readSection, if_pos (by simp), hbracketed, String.ofList_toList, trim_of_isName hname]

/-- The line of an entry with a name for its key and a trimmed value. -/
theorem head?_entryLine {e : String × String} (hkey : isName e.1 = true) :
    (entryLine e).toList.head?.any Text.isWhiteSpace = false ∧
      (entryLine e).toList.head? ≠ some '[' ∧ (entryLine e).toList ≠ [] := by
  obtain ⟨c, cs, hcs⟩ := exists_of_isName hkey
  obtain ⟨hblank, -, -, hspecial⟩ := of_isName hkey (c := c) (by rw [hcs]; exact List.mem_cons_self)
  rw [toList_entryLine, hcs]
  refine ⟨hblank, fun h => ?_, List.cons_ne_nil _ _⟩
  obtain rfl : c = '[' := Option.some.inj h
  exact hspecial (by decide)

/-- No line of an entry ends in a blank. -/
theorem getLast?_entryLine {e : String × String} (hvalue : Text.trim e.2 = e.2) :
    (entryLine e).toList.getLast?.any Text.isWhiteSpace = false := by
  rw [toList_entryLine, List.getLast?_append, List.getLast?_cons]
  cases hlast : e.2.toList.getLast? with
  | none => rfl
  | some c =>
    have htrimmed := (Text.trim_eq_self_iff.mp hvalue).2
    rwa [hlast] at htrimmed

/-- The line of an entry puts its value under its key. -/
theorem readLine_entry {e : String × String} (hkey : isName e.1 = true)
    (hvalue : isPlain e.2 = true) (r : Reading) :
    r.readLine (entryLine e) = some (r.set e.1 (some e.2)) := by
  obtain ⟨hblank, hbracket, hne⟩ := head?_entryLine hkey
  have hclean : cleanLine (entryLine e) = (entryLine e).toList := by
    refine cleanLine_of_trimmed ?_ hblank (getLast?_entryLine (trim_of_isPlain hvalue))
    intro c hc
    rw [toList_entryLine, List.mem_append, List.mem_cons] at hc
    rcases hc with hc | rfl | hc
    · exact (of_isName hkey hc).2.1
    · rfl
    · have hplain := of_isPlain hvalue hc
      simp only [List.mem_cons, not_or] at hplain
      simp [isComment, hplain]
  have hbefore : ∀ c ∈ e.1.toList, (!isDelimiter c) = true := fun c hc => by
    rw [(of_isName hkey hc).2.2.1]
    rfl
  have hequals : (!isDelimiter '=') = false := rfl
  have hkeyne : e.1 ≠ "" := by
    obtain ⟨c, cs, hcs⟩ := exists_of_isName hkey
    intro hempty
    rw [hempty] at hcs
    cases hcs
  rw [Reading.readLine, hclean, if_neg hne, if_neg hbracket, Reading.readEntry, toList_entryLine,
    List.takeWhile_append_of_pos hbefore, List.dropWhile_append_of_pos hbefore,
    List.takeWhile_cons_of_neg (by rw [hequals]; decide),
    List.dropWhile_cons_of_neg (by rw [hequals]; decide), List.append_nil]
  simp only [String.ofList_toList, trim_of_isName hkey, trim_of_isPlain hvalue, if_neg hkeyne]

/-- The section, the key and the value of every entry of a section. -/
def Section.flat (s : Section) : List ((String × String) × String) :=
  s.entries.map fun e => ((lower s.name, lower e.1), e.2)

/-- The lines of a section put all its values under their keys. -/
theorem foldlM_section {s : Section} (hname : isName s.name = true)
    (hkey : ∀ e ∈ s.entries, isName e.1 = true) (hvalue : ∀ e ∈ s.entries, isPlain e.2 = true)
    (r : Reading) :
    s.lines.foldlM Reading.readLine r = some ⟨lower s.name, putAll r.values s.flat⟩ := by
  have hentries (entries : List (String × String)) (hsub : entries ⊆ s.entries) (r : Reading)
      (hr : r.current = lower s.name) :
      (entries.map entryLine).foldlM Reading.readLine r = some ⟨lower s.name,
        putAll r.values (entries.map fun e => ((lower s.name, lower e.1), e.2))⟩ := by
    induction entries generalizing r with
    | nil =>
      rw [← hr]
      rfl
    | cons e entries ih =>
      have he := hsub List.mem_cons_self
      rw [List.map_cons, List.foldlM_cons, readLine_entry (hkey e he) (hvalue e he),
        Option.bind_eq_bind, Option.bind_some,
        ih (fun x hx => hsub (List.mem_cons_of_mem e hx)) (r.set e.1 (some e.2)) hr,
        Reading.set, hr]
      rfl
  rw [Section.lines, List.foldlM_cons, readLine_section hname, Option.bind_eq_bind,
    Option.bind_some, hentries s.entries (List.Subset.refl _) _ rfl, Section.flat]

/-- The lines of a document put all its values under their keys. -/
theorem foldlM_document {doc : Document} (hname : ∀ s ∈ doc, isName s.name = true)
    (hkey : ∀ s ∈ doc, ∀ e ∈ s.entries, isName e.1 = true)
    (hvalue : ∀ s ∈ doc, ∀ e ∈ s.entries, isPlain e.2 = true) (r : Reading) :
    ∃ current, (doc.flatMap Section.lines).foldlM Reading.readLine r =
      some ⟨current, putAll r.values (doc.flatMap Section.flat)⟩ := by
  induction doc generalizing r with
  | nil => exact ⟨r.current, rfl⟩
  | cons s doc ih =>
    obtain ⟨current, hcurrent⟩ := ih (fun t ht => hname t (List.mem_cons_of_mem s ht))
      (fun t ht => hkey t (List.mem_cons_of_mem s ht))
      (fun t ht => hvalue t (List.mem_cons_of_mem s ht)) ⟨lower s.name, putAll r.values s.flat⟩
    have hs : s ∈ s :: doc := List.mem_cons_self
    refine ⟨current, ?_⟩
    rw [List.flatMap_cons, List.foldlM_append,
      foldlM_section (hname s hs) (hkey s hs) (hvalue s hs),
      Option.bind_eq_bind, Option.bind_some, hcurrent, List.flatMap_cons, putAll, putAll, putAll,
      List.foldl_append]

/-- The line of a section is one line. -/
theorem split_section {name : String} (hname : isName name = true) :
    Text.split '\n' ("[" ++ name ++ "]") = ["[" ++ name ++ "]"] := by
  refine Text.split_eq_singleton fun hmem => ?_
  have hmem : '\n' ∈ name.toList := by simpa using hmem
  exact (of_isName hname hmem).2.2.2 (by decide)

/-- The line of an entry is one line if its value has no line break. -/
theorem split_entryLine {e : String × String} (hkey : isName e.1 = true) (h : '\n' ∉ e.2.toList) :
    Text.split '\n' (entryLine e) = [entryLine e] := by
  refine Text.split_eq_singleton ?_
  rw [toList_entryLine, List.mem_append, List.mem_cons]
  rintro (hmem | hmem | hmem)
  · exact (of_isName hkey hmem).2.2.2 (by decide)
  · cases hmem
  · exact h hmem

/-- There is no line break in the lines of a plain document. -/
theorem split_line {doc : Document} (h : doc.Plain) {line : String}
    (hline : line ∈ doc.flatMap Section.lines) : Text.split '\n' line = [line] := by
  obtain ⟨s, hs, hline⟩ := List.mem_flatMap.mp hline
  rw [Section.lines, List.mem_cons] at hline
  rcases hline with rfl | hline
  · exact split_section (h.name s hs)
  · obtain ⟨e, he, rfl⟩ := List.mem_map.mp hline
    refine split_entryLine (h.key s hs e he) fun hmem => ?_
    exact of_isPlain (h.value s hs e he) hmem (by decide)

/-- The loader finds the entries of plain documents. -/
theorem readsDocuments_load : ReadsDocuments load := by
  intro doc hdoc
  obtain ⟨current, hcurrent⟩ := foldlM_document hdoc.name hdoc.key hdoc.value {}
  have hlines : Text.lines doc.text = doc.flatMap Section.lines := by
    rw [Document.text, Text.lines_unlines]
    rw [List.flatMap_def, List.map_congr_left fun line hline => split_line hdoc hline,
      ← List.flatMap_def, List.flatMap_singleton']
  refine ⟨_, by rw [load, hlines, hcurrent]; rfl, fun s hs e he name key hname hkey => ?_⟩
  have hmem : ((lower s.name, lower e.1), e.2) ∈ doc.flatMap Section.flat :=
    List.mem_flatMap.mpr ⟨s, hs, List.mem_map.mpr ⟨e, he, rfl⟩⟩
  have hnodup : ((doc.flatMap Section.flat).map Prod.fst).Nodup := by
    have hkeys : (doc.flatMap Section.flat).map Prod.fst = doc.keys := by
      rw [List.map_flatMap, Document.keys]
      simp only [Section.flat, List.map_map, Function.comp_def]
    rw [hkeys]
    exact hdoc.nodup
  simp only [hname, hkey]
  exact putAll_of_mem hnodup hmem _

end Ini
