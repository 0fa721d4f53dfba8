import LinuxAgent.Pattern.Linkage
import LinuxAgent.Pattern.Writes

/-!
# Rules name patterns that are there

The writes of a load define patterns and name them in rules. The manager's texts are at
all times the lines of some policy, so no pattern is defined twice, and a rule is
written after the patterns that it names.
-/

namespace LinuxAgent.Pattern

/-- The names of the patterns that a write defines. -/
def Write.names (w : Write) : List String :=
  if w.file = .filePatterns then (Text.lines w.content).flatMap (Fields.values "name") else []

/-- The names of the patterns in the rules that a write adds. -/
def Write.uses (w : Write) : List String :=
  if w.file = .rules then
    (Text.lines w.content).flatMap fun line =>
      (Fields.values "pattern" line).flatMap (Text.split '>')
  else []

/-- The rules of each write name patterns of the writes before it. -/
def DefinedBeforeUse (ws : List Write) : Prop :=
  ∀ before w after, ws = before ++ w :: after → ∀ name ∈ w.uses, name ∈ before.flatMap Write.names

/-- The rules of each write name patterns that are defined already or by the writes before it. -/
def UsesDefined (defined : List String) : List Write → Prop
  | [] => True
  | w :: ws => (∀ name ∈ w.uses, name ∈ defined) ∧ UsesDefined (defined ++ w.names) ws

variable {defined : List String} {ws ws' : List Write}

/-- Writes may use what the writes before have defined. -/
theorem UsesDefined.append (h : UsesDefined defined ws)
    (h' : UsesDefined (defined ++ ws.flatMap Write.names) ws') :
    UsesDefined defined (ws ++ ws') := by
  induction ws generalizing defined with
  | nil => simpa using h'
  | cons w ws ih =>
    refine ⟨h.1, ih h.2 ?_⟩
    rw [List.append_assoc, ← List.flatMap_cons]
    exact h'

/-- Where nothing is defined at first, all names come from earlier writes. -/
theorem UsesDefined.definedBeforeUse (h : UsesDefined [] ws) : DefinedBeforeUse ws := by
  have hgeneral (defined : List String) (before : List Write) (w : Write) (after : List Write)
      (h : UsesDefined defined (before ++ w :: after)) :
      ∀ name ∈ w.uses, name ∈ defined ++ before.flatMap Write.names := by
    induction before generalizing defined with
    | nil => simpa using h.1
    | cons w' before ih =>
      rw [List.flatMap_cons, ← List.append_assoc]
      exact ih _ h.2
  rintro before w after rfl
  exact hgeneral [] before w after h

/-- The fields after the name of a pattern are tidy and give no further name. -/
def PatternLine.Tidy (l : PatternLine) : Prop :=
  Fields.Tidy l.rest ∧ Fields.lookupAll "name" l.rest = []

/-- The fields of a tidy line are tidy. -/
theorem PatternLine.Tidy.fields {l : PatternLine} (h : l.Tidy) : Fields.Tidy l.fields :=
  Fields.tidy_cons.mpr ⟨⟨by decide, l.name.inert_text⟩, h.1⟩

/-- Tidy patterns define their names. -/
theorem names_patternText {ls : List PatternLine} (h : ∀ l ∈ ls, l.Tidy) :
    Write.names ⟨.filePatterns, patternText ls⟩ = ls.map fun l => l.name.text := by
  rw [Write.names, if_pos rfl, patternText, Text.lines_unlines_of_forall, List.flatMap_map]
  · rw [← List.flatMap_singleton' (ls.map _), List.flatMap_map]
    refine List.flatMap_congr fun l hl => ?_
    rw [PatternLine.text, Fields.values_line (h l hl).fields.plain, PatternLine.fields,
      Fields.lookupAll_cons_self, (h l hl).2]
  · exact List.forall_mem_map.mpr fun l hl => (h l hl).fields.unbroken

/-- Tidy rules use the names of their chains. -/
theorem uses_ruleText {ls : List RuleLine} (h : ∀ l ∈ ls, l.Tidy) :
    Write.uses ⟨.rules, ruleText ls⟩ = ls.flatMap fun l => l.chain.map PatternName.text := by
  rw [Write.uses, if_pos rfl, lines_ruleText h, List.flatMap_map]
  refine List.flatMap_congr fun l hl => ?_
  obtain ⟨hchain, -, hothers⟩ := h l hl
  rw [Fields.lookupAll_append, List.append_eq_nil_iff] at hothers
  rw [(h l hl).values_text, RuleLine.fields, Fields.lookupAll_append, Fields.lookupAll_cons_self,
    hothers.1, hothers.2, List.nil_append, List.flatMap_singleton, Text.split_joinWith]
  · refine List.forall_mem_map.mpr fun name _ hc => ?_
    exact absurd (PatternName.of_mem_text hc) (by decide)
  · simpa using hchain

/-- The patterns and the rules of a family. -/
structure Family where
  patterns : List PatternLine
  rules : List RuleLine

/-- The names of a family. -/
def Family.names (f : Family) : List PatternName := f.patterns.map PatternLine.name

/-- The lines of a family can be read back, and its rules name patterns of the family or from
a list of others. -/
structure Family.Sound (f : Family) (others : List PatternName) : Prop where
  patterns : ∀ l ∈ f.patterns, l.Tidy
  rules : ∀ l ∈ f.rules, l.Tidy
  chains : ∀ l ∈ f.rules, ∀ name ∈ l.chain, name ∈ others ++ f.names

section Families

variable {f : Family} {others : List PatternName}

/-- What the patterns of a family define. -/
theorem Family.Sound.names_patterns (h : f.Sound others) :
    Write.names ⟨.filePatterns, patternText f.patterns⟩ = f.names.map PatternName.text := by
  rw [names_patternText h.patterns, Family.names, List.map_map]
  rfl

/-- What the rules of a family use. -/
theorem Family.Sound.of_mem_uses (h : f.Sound others) {name : String}
    (hname : name ∈ Write.uses ⟨.rules, ruleText f.rules⟩) :
    name ∈ (others ++ f.names).map PatternName.text := by
  rw [uses_ruleText h.rules] at hname
  obtain ⟨l, hl, hname⟩ := List.mem_flatMap.mp hname
  obtain ⟨n, hn, rfl⟩ := List.mem_map.mp hname
  exact List.mem_map_of_mem (h.chains l hl n hn)

/-- A family with an empty text has no names. -/
theorem Family.Sound.names_eq_nil (h : f.Sound others) (hempty : patternText f.patterns = "") :
    f.names = [] := by
  have hnames := h.names_patterns
  rw [hempty] at hnames
  exact List.map_eq_nil_iff.mp hnames.symm

/-- Writes that define the given names and use no others than those that are defined before. -/
structure Defines (ws : List Write) (names : List PatternName) : Prop where
  names : ws.flatMap Write.names = names.map PatternName.text
  uses : UsesDefined [] ws

/-- Further writes, one after the other. -/
theorem Defines.append {names next : List PatternName} (h : Defines ws names)
    (hnames : ws'.flatMap Write.names = next.map PatternName.text)
    (huses : UsesDefined (names.map PatternName.text) ws') :
    Defines (ws ++ ws') (names ++ next) := by
  refine ⟨?_, h.uses.append ?_⟩
  · rw [List.flatMap_append, h.names, hnames, List.map_append]
  · rw [List.nil_append, h.names]
    exact huses

variable {names : List PatternName}

/-- The writes of a family. -/
theorem Defines.family (h : Defines ws names) (hf : f.Sound others) (hothers : others ⊆ names) :
    Defines (ws ++ familyWrites (patternText f.patterns) (ruleText f.rules))
      (names ++ f.names) := by
  refine h.append ?_ ?_
  · rw [familyWrites]
    split
    · rw [List.flatMap_cons, hf.names_patterns]
      exact List.append_nil _
    · next hempty =>
      rw [hf.names_eq_nil (not_not.mp hempty)]
      rfl
  · rw [familyWrites]
    split
    · refine ⟨fun name hname => absurd hname List.not_mem_nil, fun name hname => ?_, trivial⟩
      have hsubset : others ++ f.names ⊆ names ++ f.names :=
        List.append_subset.mpr
          ⟨List.subset_append_of_subset_left _ hothers, List.subset_append_right _ _⟩
      rw [hf.names_patterns, ← List.map_append]
      exact List.map_subset _ hsubset (hf.of_mem_uses hname)
    · trivial

/-- A write that defines names and uses none. -/
theorem Defines.define (h : Defines ws names) {w : Write} {next : List PatternName}
    (hnames : w.names = next.map PatternName.text) (huses : w.uses = []) :
    Defines (ws ++ [w]) (names ++ next) := by
  refine h.append ?_ ⟨?_, trivial⟩
  · rw [List.flatMap_singleton, hnames]
  · rw [huses]
    exact fun name hname => absurd hname List.not_mem_nil

/-- The patterns of a family alone. -/
theorem Defines.patterns (h : Defines ws names) (hf : f.Sound others) :
    Defines (ws ++ textWrites .filePatterns (patternText f.patterns)) (names ++ f.names) := by
  rw [textWrites]
  split
  · exact h.define hf.names_patterns rfl
  · next hempty =>
    rw [hf.names_eq_nil (not_not.mp hempty), List.append_nil, List.append_nil]
    exact h

/-- The rules of a family alone. -/
theorem Defines.rules (h : Defines ws names) (hf : f.Sound others)
    (hothers : others ++ f.names ⊆ names) :
    Defines (ws ++ textWrites .rules (ruleText f.rules)) names := by
  rw [textWrites]
  split
  · rw [← List.append_nil names]
    refine h.append rfl ⟨fun name hname => ?_, trivial⟩
    exact List.map_subset _ hothers (hf.of_mem_uses hname)
  · rw [List.append_nil]
    exact h

/-- Trusted processes define and use nothing. -/
theorem Defines.trueProcess (h : Defines ws names) (content : String) :
    Defines (ws ++ textWrites .trueProcessRt content) names := by
  rw [textWrites]
  split
  · rw [← List.append_nil names]
    exact h.define rfl rfl
  · rw [List.append_nil]
    exact h

end Families

/-- The policy that the texts of a manager render. -/
structure Policy where
  /-- `add_file_pattern` has been called. -/
  selfProtected : Bool
  trusted : List GlobalTrustDir
  exports : List PolicyExiporProtect
  dirs : List PolicyProtectDir

/-- The strings of the policy that go into patterns are inert. -/
structure Policy.Inert (p : Policy) : Prop where
  trusted : ∀ dir ∈ p.trusted, Fields.Inert dir.dir
  exports : ∀ policy ∈ p.exports, Fields.Inert policy.fileType
  dirs : ∀ dir ∈ p.dirs, Fields.Inert dir.dir ∧ Fields.Inert dir.includeFile ∧
    Fields.Inert dir.fileExt ∧ Fields.Inert dir.isWhite

/-- The paths of the agent itself. -/
def selfPatterns : List PatternLine :=
  [⟨.self 1, [("key", "/var/lib/dpkg/info/osec.")]⟩,
    ⟨.self 2, [("key", "/opt/osec"), ("pkt_len", "-1"), ("case_offset", "1")]⟩,
    ⟨.self 3, [("key", "/opt/osec/"), ("case_offset", "1")]⟩,
    ⟨.self 4, [("key", "/etc/systemd/system/multi-user.target.wants/osec.")]⟩,
    ⟨.self 5, [("key", "/etc/systemd/system/multi-user.target.wants/agent_manager.")]⟩]

/-- The rules for the paths of the agent itself. -/
def selfRules : List RuleLine :=
  [1, 2, 3, 4, 5].map fun n => ⟨[("target", "self")], [.self n], [("type", "3")]⟩

namespace Policy

variable (p : Policy)

/-- The protected directories that are rendered. -/
def items : List (Numbered PolicyProtectDir) := numbered PolicyProtectDir.trusts p.dirs

/-- The family of the agent itself. -/
def selfFamily : Family := if p.selfProtected then ⟨selfPatterns, selfRules⟩ else ⟨[], []⟩

/-- The family of the trusted directories. -/
def trustFamily : Family :=
  ⟨(p.trusted.zipIdx.take 50).map trustPattern, (p.trusted.zipIdx.take 50).map trustRule⟩

/-- The family of the export policies. -/
def exiportFamily : Family :=
  ⟨(numbered PolicyExiporProtect.trusts p.exports).map exiportPattern,
    (numbered PolicyExiporProtect.trusts p.exports).map exiportRule⟩

/-- The family of the protected directories. -/
def protectFamily : Family := ⟨p.items.map protectPattern, p.items.flatMap protectRules⟩

/-- The family of the paths that are left out. -/
def whiteFamily : Family := ⟨p.items.flatMap whitePatterns, p.items.flatMap whiteRules⟩

/-- The family of the suffixes to which protection is restricted. -/
def includeFamily : Family := ⟨p.items.flatMap includePatterns, p.items.flatMap includeRules⟩

/-- The family of the suffixes that are left out. -/
def excludeFamily : Family := ⟨p.items.flatMap excludePatterns, p.items.flatMap excludeRules⟩

end Policy

section Names

variable (p : Policy)

/-- The names of the trusted directories. -/
theorem names_trustFamily :
    p.trustFamily.names = (p.trusted.zipIdx.take 50).map fun item => .trueDir item.2 := by
  rw [Family.names, Policy.trustFamily, List.map_map]
  rfl

/-- The names of the export protection. -/
theorem names_exiportFamily :
    p.exiportFamily.names =
      (numbered PolicyExiporProtect.trusts p.exports).map fun item => .exiportInfo item.index := by
  rw [Family.names, Policy.exiportFamily, List.map_map]
  rfl

/-- The names of the protected directories. -/
theorem names_protectFamily :
    p.protectFamily.names = p.items.map fun item => .protectDir item.index := by
  rw [Family.names, Policy.protectFamily, List.map_map]
  rfl

/-- The names for the parts of a text of each directory. -/
def partNames (text : PolicyProtectDir → List (String × ℕ)) (name : ℕ → ℕ → PatternName) :
    List PatternName :=
  p.items.flatMap fun item => (text item.policy).map fun part => name item.index part.2

/-- The names of the paths that are left out. -/
theorem names_whiteFamily :
    p.whiteFamily.names = partNames p (fun dir => parts dir.isWhite) .protectExcludeDir := by
  rw [Family.names, Policy.whiteFamily, List.map_flatMap, partNames]
  exact List.flatMap_congr fun item _ => List.map_map

/-- The names of the suffixes to which protection is restricted. -/
theorem names_includeFamily :
    p.includeFamily.names = partNames p (fun dir => parts dir.includeFile) .protectIncFileExe := by
  rw [Family.names, Policy.includeFamily, List.map_flatMap, partNames]
  exact List.flatMap_congr fun item _ => List.map_map

/-- The names of the suffixes that are left out. -/
theorem names_excludeFamily :
    p.excludeFamily.names = partNames p excludedParts .protectExcFileExe := by
  rw [Family.names, Policy.excludeFamily, List.map_flatMap, partNames]
  exact List.flatMap_congr fun item _ => List.map_map

variable {p}

/-- A protected directory has its name among these. -/
theorem protectDir_mem_names {item : Numbered PolicyProtectDir} (hitem : item ∈ p.items) :
    .protectDir item.index ∈ p.protectFamily.names := by
  rw [names_protectFamily]
  exact List.mem_map_of_mem hitem

/-- The part of an item has its name among these. -/
theorem mem_partNames {text : PolicyProtectDir → List (String × ℕ)}
    {item : Numbered PolicyProtectDir} {part : String × ℕ} (hitem : item ∈ p.items)
    (hpart : part ∈ text item.policy) (name : ℕ → ℕ → PatternName) :
    name item.index part.2 ∈ partNames p text name :=
  List.mem_flatMap.mpr ⟨item, hitem, List.mem_map_of_mem hpart⟩

end Names

section Sound

variable {p : Policy}

/-- The parts of an inert text are inert. -/
theorem inert_of_mem_parts {text : String} (h : Fields.Inert text) {part : String × ℕ}
    (hpart : part ∈ parts text) : Fields.Inert part.1 := by
  rw [parts] at hpart
  split at hpart
  · exact absurd hpart List.not_mem_nil
  · intro c hc
    exact h c (Text.mem_of_mem_split (List.fst_mem_of_mem_zipIdx hpart) hc)

/-- The family of the agent itself is sound. -/
theorem sound_selfFamily (p : Policy) : p.selfFamily.Sound [] := by
  rw [Policy.selfFamily]
  split
  · refine ⟨?_, ?_, by decide⟩
    · unfold PatternLine.Tidy Fields.Tidy
      decide
    · unfold RuleLine.Tidy Fields.Tidy
      decide
  · exact ⟨by simp, by simp, by simp⟩

/-- The family of the trusted directories is sound. -/
theorem sound_trustFamily (h : p.Inert) : p.trustFamily.Sound [] := by
  refine ⟨?_, ?_, ?_⟩
  · refine List.forall_mem_map.mpr fun item hitem => ?_
    have hdir : Fields.Inert item.1.dir :=
      h.trusted _ (List.fst_mem_of_mem_zipIdx (List.mem_of_mem_take hitem))
    by_cases hextend : item.1.isExtend = 0 <;> by_cases htyp : item.1.typ = 1 <;>
      simp +decide only [PatternLine.Tidy, trustPattern, hextend, htyp, if_true, if_false,
        Fields.tidy_cons, Fields.tidy_nil, hdir, Fields.inert_toString,
        Fields.lookupAll_cons_of_ne, Fields.lookupAll_nil, List.cons_append, List.nil_append]
  · exact List.forall_mem_map.mpr fun item _ => tidy_trustRule item
  · refine List.forall_mem_map.mpr fun item hitem name hname => ?_
    obtain rfl := List.mem_singleton.mp hname
    rw [List.nil_append, names_trustFamily]
    exact List.mem_map_of_mem hitem

/-- The family of the export protection is sound. -/
theorem sound_exiportFamily (h : p.Inert) : p.exiportFamily.Sound [] := by
  refine ⟨?_, ?_, ?_⟩
  · refine List.forall_mem_map.mpr fun item hitem => ?_
    have htype : Fields.Inert item.policy.fileType :=
      h.exports _ (List.mem_of_getElem? (mem_numbered.mp hitem).2.1)
    by_cases htyp : item.policy.typ = 1 <;>
      simp +decide only [PatternLine.Tidy, exiportPattern, htyp, if_true, if_false,
        Fields.tidy_cons, Fields.tidy_nil, htype, Fields.inert_toString, Fields.inert_append,
        Fields.lookupAll_cons_of_ne, Fields.lookupAll_nil]
  · exact List.forall_mem_map.mpr fun item _ => tidy_exiportRule item
  · refine List.forall_mem_map.mpr fun item hitem name hname => ?_
    obtain rfl := List.mem_singleton.mp hname
    rw [List.nil_append, names_exiportFamily]
    exact List.mem_map_of_mem hitem

/-- The strings of a rendered directory are inert. -/
theorem Policy.Inert.of_mem_items (h : p.Inert) {item : Numbered PolicyProtectDir}
    (hitem : item ∈ p.items) :
    Fields.Inert item.policy.dir ∧ Fields.Inert item.policy.includeFile ∧
      Fields.Inert item.policy.fileExt ∧ Fields.Inert item.policy.isWhite :=
  h.dirs _ (List.mem_of_getElem? (mem_numbered.mp hitem).2.1)

/-- The family of the protected directories is sound. -/
theorem sound_protectFamily (h : p.Inert) : p.protectFamily.Sound [] := by
  refine ⟨?_, ?_, ?_⟩
  · refine List.forall_mem_map.mpr fun item hitem => ?_
    have hdir := (h.of_mem_items hitem).1
    by_cases htyp : item.policy.typ = 1 <;> by_cases hextend : item.policy.isExtend = 0 <;>
      simp +decide only [PatternLine.Tidy, protectPattern, hextend, htyp, if_true, if_false,
        Fields.tidy_cons, Fields.tidy_nil, hdir, Fields.inert_toString,
        Fields.lookupAll_cons_of_ne, Fields.lookupAll_nil, List.cons_append, List.nil_append]
  · intro l hl
    obtain ⟨item, -, hl⟩ := List.mem_flatMap.mp hl
    exact tidy_protectRules hl
  · intro l hl name hname
    obtain ⟨item, hitem, hl⟩ := List.mem_flatMap.mp hl
    rw [protectRules] at hl
    split at hl
    · obtain rfl := List.mem_singleton.mp hl
      obtain rfl := List.mem_singleton.mp hname
      exact protectDir_mem_names hitem
    · exact absurd hl List.not_mem_nil

/-- The family of the paths that are left out is sound. -/
theorem sound_whiteFamily (h : p.Inert) : p.whiteFamily.Sound [] := by
  refine ⟨?_, ?_, ?_⟩
  · intro l hl
    obtain ⟨item, hitem, hl⟩ := List.mem_flatMap.mp hl
    obtain ⟨part, hpart, rfl⟩ := List.mem_map.mp hl
    have hinert := inert_of_mem_parts (h.of_mem_items hitem).2.2.2 hpart
    simp +decide only [PatternLine.Tidy, Fields.tidy_cons, Fields.tidy_nil, hinert,
      Fields.lookupAll_cons_of_ne, Fields.lookupAll_nil]
  · intro l hl
    obtain ⟨item, -, hl⟩ := List.mem_flatMap.mp hl
    exact tidy_whiteRules hl
  · intro l hl name hname
    obtain ⟨item, hitem, hl⟩ := List.mem_flatMap.mp hl
    obtain ⟨part, hpart, rfl⟩ := List.mem_map.mp hl
    obtain rfl := List.mem_singleton.mp hname
    rw [List.nil_append, names_whiteFamily]
    exact mem_partNames hitem hpart _

/-- The pattern of an inert suffix is tidy. -/
theorem tidy_suffixPattern {suffix : String} (h : Fields.Inert suffix) (name : PatternName) :
    (suffixPattern name suffix).Tidy := by
  simp +decide only [PatternLine.Tidy, suffixPattern, Fields.tidy_cons, Fields.tidy_nil, h,
    Fields.inert_append, Fields.inert_toString, Fields.lookupAll_cons_of_ne, Fields.lookupAll_nil]

/-- The family of the suffixes to which protection is restricted is sound after the directories. -/
theorem sound_includeFamily (h : p.Inert) : p.includeFamily.Sound p.protectFamily.names := by
  refine ⟨?_, ?_, ?_⟩
  · intro l hl
    obtain ⟨item, hitem, hl⟩ := List.mem_flatMap.mp hl
    obtain ⟨part, hpart, rfl⟩ := List.mem_map.mp hl
    exact tidy_suffixPattern (inert_of_mem_parts (h.of_mem_items hitem).2.1 hpart) _
  · intro l hl
    obtain ⟨item, -, hl⟩ := List.mem_flatMap.mp hl
    exact tidy_includeRules hl
  · intro l hl name hname
    obtain ⟨item, hitem, hl⟩ := List.mem_flatMap.mp hl
    obtain ⟨part, hpart, rfl⟩ := List.mem_map.mp hl
    rw [List.mem_append, names_includeFamily]
    rcases List.mem_pair.mp hname with rfl | rfl
    · exact .inl (protectDir_mem_names hitem)
    · exact .inr (mem_partNames hitem hpart _)

/-- The family of the suffixes that are left out is sound after the directories. -/
theorem sound_excludeFamily (h : p.Inert) : p.excludeFamily.Sound p.protectFamily.names := by
  refine ⟨?_, ?_, ?_⟩
  · intro l hl
    obtain ⟨item, hitem, hl⟩ := List.mem_flatMap.mp hl
    obtain ⟨part, hpart, rfl⟩ := List.mem_map.mp hl
    refine tidy_suffixPattern ?_ _
    rw [excludedParts] at hpart
    split at hpart
    · exact inert_of_mem_parts (h.of_mem_items hitem).2.2.1 hpart
    · exact absurd hpart List.not_mem_nil
  · intro l hl
    obtain ⟨item, -, hl⟩ := List.mem_flatMap.mp hl
    exact tidy_excludeRules hl
  · intro l hl name hname
    obtain ⟨item, hitem, hl⟩ := List.mem_flatMap.mp hl
    obtain ⟨part, hpart, rfl⟩ := List.mem_map.mp hl
    rw [List.mem_append, names_excludeFamily]
    rcases List.mem_pair.mp hname with rfl | rfl
    · exact .inl (protectDir_mem_names hitem)
    · exact .inr (mem_partNames hitem hpart _)

end Sound

/-- The position of the family of a name in a load. -/
def PatternName.family : PatternName → ℕ
  | .self _ => 0
  | .trueDir _ => 1
  | .exiportInfo _ => 2
  | .protectDir _ => 3
  | .protectExcludeDir _ _ => 4
  | .protectIncFileExe _ _ => 5
  | .protectExcFileExe _ _ => 6

/-- Names of the first families, none of them twice. -/
def DistinctBelow (n : ℕ) (names : List PatternName) : Prop :=
  names.Nodup ∧ ∀ name ∈ names, name.family < n

/-- The names of the next family are new. -/
theorem DistinctBelow.append {n : ℕ} {names next : List PatternName} (h : DistinctBelow n names)
    (hnodup : next.Nodup) (hfamily : ∀ name ∈ next, name.family = n) :
    DistinctBelow (n + 1) (names ++ next) := by
  refine ⟨List.nodup_append.mpr ⟨h.1, hnodup, ?_⟩, List.forall_mem_append.mpr ⟨?_, ?_⟩⟩
  · rintro name hname other hother rfl
    exact absurd (hfamily name hother) (h.2 name hname).ne
  · exact fun name hname => (h.2 name hname).trans (Nat.lt_succ_self n)
  · exact fun name hname => (hfamily name hname).trans_lt (Nat.lt_succ_self n)

/-- The parts of a text have different indices. -/
theorem nodup_parts (text : String) : ((parts text).map Prod.snd).Nodup := by
  rw [parts]
  split
  · exact List.nodup_nil
  · rw [List.zipIdx_map_snd]
    exact List.nodup_range' ..

/-- The names for the parts of a text of each directory are different. -/
theorem nodup_partNames (p : Policy) {text : PolicyProtectDir → List (String × ℕ)}
    (htext : ∀ dir, ((text dir).map Prod.snd).Nodup) {name : ℕ → ℕ → PatternName}
    (hname : ∀ i j i' j', name i j = name i' j' → i = i' ∧ j = j') :
    (partNames p text name).Nodup := by
  rw [partNames, List.nodup_flatMap]
  refine ⟨fun item _ => ?_, ?_⟩
  · have hmap : ((text item.policy).map fun part => name item.index part.2) =
        ((text item.policy).map Prod.snd).map (name item.index) := List.map_map.symm
    rw [hmap]
    exact (htext item.policy).map fun j j' h => (hname _ _ _ _ h).2
  · have hindex := List.pairwise_map.mp (nodup_index_numbered PolicyProtectDir.trusts p.dirs)
    refine hindex.imp fun {item item'} hne => ?_
    refine List.disjoint_left.mpr fun n hn hn' => ?_
    obtain ⟨part, -, rfl⟩ := List.mem_map.mp hn
    obtain ⟨part', -, heq⟩ := List.mem_map.mp hn'
    exact hne (hname _ _ _ _ heq).1.symm

/-- All names of a policy in the order of a load. -/
def Policy.names (p : Policy) : List PatternName :=
  p.selfFamily.names ++ p.trustFamily.names ++ p.exiportFamily.names ++ p.protectFamily.names ++
    p.whiteFamily.names ++ p.includeFamily.names ++ p.excludeFamily.names

/-- Names that are made of different indices are different. -/
theorem nodup_map_index {β : Type} {items : List β} {index : β → ℕ}
    (h : (items.map index).Nodup) {name : ℕ → PatternName} (hname : Function.Injective name) :
    (items.map fun item => name (index item)).Nodup := by
  have hmap : (items.map fun item => name (index item)) = (items.map index).map name :=
    List.map_map.symm
  rw [hmap]
  exact h.map hname

/-- No name of a policy is given twice. -/
theorem Policy.nodup_names (p : Policy) : p.names.Nodup := by
  have hself : DistinctBelow 1 p.selfFamily.names := by
    rw [Policy.selfFamily, DistinctBelow]
    split
    · decide
    · decide
  have htrust : DistinctBelow 2 (p.selfFamily.names ++ p.trustFamily.names) := by
    rw [names_trustFamily]
    refine hself.append (nodup_map_index ?_ fun _ _ => PatternName.trueDir.inj)
      (List.forall_mem_map.mpr fun _ _ => rfl)
    rw [List.map_take, List.zipIdx_map_snd]
    exact (List.nodup_range' ..).sublist (List.take_sublist _ _)
  have hexiport : DistinctBelow 3
      (p.selfFamily.names ++ p.trustFamily.names ++ p.exiportFamily.names) := by
    rw [names_exiportFamily]
    exact htrust.append
      (nodup_map_index (nodup_index_numbered _ _) fun _ _ => PatternName.exiportInfo.inj)
      (List.forall_mem_map.mpr fun _ _ => rfl)
  have hprotect : DistinctBelow 4 (p.selfFamily.names ++ p.trustFamily.names ++
      p.exiportFamily.names ++ p.protectFamily.names) := by
    rw [names_protectFamily]
    exact hexiport.append
      (nodup_map_index (nodup_index_numbered _ _) fun _ _ => PatternName.protectDir.inj)
      (List.forall_mem_map.mpr fun _ _ => rfl)
  have hparts (text : PolicyProtectDir → List (String × ℕ)) (name : ℕ → ℕ → PatternName) (n : ℕ)
      (hname : ∀ i j, (name i j).family = n) : ∀ x ∈ partNames p text name, x.family = n := by
    intro x hx
    obtain ⟨item, -, hx⟩ := List.mem_flatMap.mp hx
    obtain ⟨part, -, rfl⟩ := List.mem_map.mp hx
    exact hname _ _
  have hexcluded (dir : PolicyProtectDir) : ((excludedParts dir).map Prod.snd).Nodup := by
    rw [excludedParts]
    split
    · exact nodup_parts _
    · exact List.nodup_nil
  have hwhite := hprotect.append
    (nodup_partNames p (fun dir => nodup_parts dir.isWhite) fun _ _ _ _ =>
      PatternName.protectExcludeDir.inj)
    (hparts _ _ 4 fun _ _ => rfl)
  have hinclude := hwhite.append
    (nodup_partNames p (fun dir => nodup_parts dir.includeFile) fun _ _ _ _ =>
      PatternName.protectIncFileExe.inj)
    (hparts _ _ 5 fun _ _ => rfl)
  have hexclude := hinclude.append
    (nodup_partNames p hexcluded fun _ _ _ _ => PatternName.protectExcFileExe.inj)
    (hparts _ _ 6 fun _ _ => rfl)
  rw [Policy.names, names_whiteFamily, names_includeFamily, names_excludeFamily]
  exact hexclude.1

/-- The texts of a family. -/
def Family.HasTexts (f : Family) (patterns rules : String) : Prop :=
  patterns = patternText f.patterns ∧ rules = ruleText f.rules

/-- The texts of patterns and rules are those of a policy. -/
structure PolicyTexts.Renders (m : PolicyTexts) (p : Policy) : Prop where
  self : p.selfFamily.HasTexts m.constFilePatterns m.constFileRules
  trust : p.trustFamily.HasTexts m.globalTrustDirPatterns m.globalTrustDirRules
  exiport : p.exiportFamily.HasTexts m.exiportDirPatterns m.exiportDirRules
  protect : p.protectFamily.HasTexts m.protectDirPatterns m.protectDirRules
  white : p.whiteFamily.HasTexts m.protectDirWhitePatterns m.protectDirWhiteRules
  included : p.includeFamily.HasTexts m.protectDirIncludeExePatterns m.protectDirIncludeExeRules
  excluded : p.excludeFamily.HasTexts m.protectDirExcludeExePatterns m.protectDirExcludeExeRules

/-- A load defines the names of its policy before it uses them. -/
theorem PolicyTexts.Renders.defines {m : PolicyTexts} {p : Policy} (h : m.Renders p)
    (hinert : p.Inert) : Defines (loadWrites m) p.names := by
  have hnone : Defines [] [] := ⟨rfl, trivial⟩
  have hself := hnone.family (sound_selfFamily p) (List.nil_subset _)
  have htrust := hself.family (sound_trustFamily hinert) (List.nil_subset _)
  have hexiport := htrust.family (sound_exiportFamily hinert) (List.nil_subset _)
  have hpatterns := hexiport.patterns (sound_protectFamily hinert)
  have hrules := hpatterns.rules (sound_protectFamily hinert) (List.subset_append_right _ _)
  have hwhite := hrules.family (sound_whiteFamily hinert) (List.nil_subset _)
  have hincluded := hwhite.family (sound_includeFamily hinert)
    (List.subset_append_of_subset_left _ (List.subset_append_right _ _))
  have hexcluded := hincluded.family (sound_excludeFamily hinert)
    (List.subset_append_of_subset_left _
      (List.subset_append_of_subset_left _ (List.subset_append_right _ _)))
  have htrue := (hexcluded.trueProcess m.protectTrueProcess).trueProcess m.exiportTrueProcess
  have hbuild : Write.names ⟨.filePatterns, "b\n"⟩ = List.map PatternName.text [] := by decide
  have hall := htrue.define hbuild rfl
  rw [loadWrites, h.self.1, h.self.2, h.trust.1, h.trust.2, h.exiport.1, h.exiport.2, h.protect.1,
    h.protect.2, h.white.1, h.white.2, h.included.1, h.included.2, h.excluded.1, h.excluded.2,
    Policy.names]
  simpa only [List.nil_append, List.append_nil] using hall

/-- The strings of a call that go into patterns are inert. -/
def Call.Inert : Call → Prop
  | .setGlobalTrustDir dirs => ∀ dir ∈ dirs, Fields.Inert dir.dir
  | .setExiportDir exports => ∀ policy ∈ exports, Fields.Inert policy.fileType
  | .setProtectDir dirs => ∀ dir ∈ dirs, Fields.Inert dir.dir ∧ Fields.Inert dir.includeFile ∧
      Fields.Inert dir.fileExt ∧ Fields.Inert dir.isWhite
  | _ => True

instance : DecidablePred Call.Inert
  | .addFilePattern _ => inferInstanceAs (Decidable True)
  | .setGlobalTrustDir dirs =>
    inferInstanceAs (Decidable (∀ dir ∈ dirs, Fields.Inert dir.dir))
  | .setExiportDir exports =>
    inferInstanceAs (Decidable (∀ policy ∈ exports, Fields.Inert policy.fileType))
  | .clearExiportDir => inferInstanceAs (Decidable True)
  | .setProtectDir dirs =>
    inferInstanceAs (Decidable (∀ dir ∈ dirs, Fields.Inert dir.dir ∧ Fields.Inert dir.includeFile ∧
      Fields.Inert dir.fileExt ∧ Fields.Inert dir.isWhite))
  | .clearProtectDir => inferInstanceAs (Decidable True)

/-- The policy after a call. -/
def Call.policy : Call → Policy → Policy
  | .addFilePattern enable, p => if enable then { p with selfProtected := true } else p
  | .setGlobalTrustDir dirs, p => { p with trusted := dirs }
  | .setExiportDir exports, p => { p with exports := exports }
  | .clearExiportDir, p => { p with exports := [] }
  | .setProtectDir dirs, p => { p with dirs := dirs }
  | .clearProtectDir, p => { p with dirs := [] }

/-- A call with inert strings keeps the strings of the policy inert. -/
theorem Call.Inert.policy {call : Call} {p : Policy} (hcall : call.Inert) (h : p.Inert) :
    (call.policy p).Inert := by
  cases call with
  | addFilePattern enable => cases enable <;> exact ⟨h.trusted, h.exports, h.dirs⟩
  | setGlobalTrustDir dirs => exact ⟨hcall, h.exports, h.dirs⟩
  | setExiportDir exports => exact ⟨h.trusted, hcall, h.dirs⟩
  | clearExiportDir => exact ⟨h.trusted, by simp [Call.policy], h.dirs⟩
  | setProtectDir dirs => exact ⟨h.trusted, h.exports, hcall⟩
  | clearProtectDir => exact ⟨h.trusted, h.exports, by simp [Call.policy]⟩

/-- The constant texts are those of the agent's own family. -/
theorem hasTexts_self (m : PatternRulesMgr) :
    Family.HasTexts ⟨selfPatterns, selfRules⟩ (renderFilePattern m).constFilePatterns
      (renderFilePattern m).constFileRules := by
  have hone : Nat.repr 1 = "1" := rfl
  have htwo : Nat.repr 2 = "2" := rfl
  have hthree : Nat.repr 3 = "3" := rfl
  have hfour : Nat.repr 4 = "4" := rfl
  have hfive : Nat.repr 5 = "5" := rfl
  constructor
  · simp [renderFilePattern, selfPatterns, patternText_cons, patternText_nil,
      PatternLine.text, PatternLine.fields,
      Fields.line, Fields.fieldText, Text.joinWith_cons_cons, Text.joinWith_singleton,
      PatternName.text, PatternName.parts, hone, htwo, hthree, hfour, hfive]
  · simp [renderFilePattern, selfRules, ruleText_cons, ruleText_nil, RuleLine.text, RuleLine.fields,
      Fields.line, Fields.fieldText, Text.joinWith_cons_cons, Text.joinWith_singleton,
      PatternName.text, PatternName.parts, hone, htwo, hthree, hfour, hfive]

/-- A family without lines has empty texts. -/
theorem hasTexts_nil : Family.HasTexts ⟨[], []⟩ "" "" := ⟨rfl, rfl⟩

/-- The texts that a call renders are those of the policy after it. -/
theorem PolicyTexts.Renders.render {m : PatternRulesMgr} {p : Policy}
    (h : m.toPolicyTexts.Renders p) (call : Call) :
    (call.render m).toPolicyTexts.Renders (call.policy p) := by
  obtain ⟨hself, htrust, hexiport, hprotect, hwhite, hincluded, hexcluded⟩ := h
  cases call with
  | addFilePattern enable =>
    cases enable with
    | true =>
      exact ⟨hasTexts_self m, htrust, hexiport, hprotect, hwhite, hincluded, hexcluded⟩
    | false => exact ⟨hself, htrust, hexiport, hprotect, hwhite, hincluded, hexcluded⟩
  | setGlobalTrustDir dirs =>
    rw [Call.render, renderGlobalTrustDir_eq]
    constructor
    · exact hself
    · exact ⟨String.empty_append, String.empty_append⟩
    · exact hexiport
    · exact hprotect
    · exact hwhite
    · exact hincluded
    · exact hexcluded
  | setExiportDir exports =>
    rw [Call.render, renderExiportDir_eq, PatternRulesMgr.addExiport]
    constructor <;> dsimp only
    · exact hself
    · exact htrust
    · exact ⟨String.empty_append, String.empty_append⟩
    · exact hprotect
    · exact hwhite
    · exact hincluded
    · exact hexcluded
  | clearExiportDir =>
    exact ⟨hself, htrust, hasTexts_nil, hprotect, hwhite, hincluded, hexcluded⟩
  | setProtectDir dirs =>
    rw [Call.render, renderProtectDir_eq, PatternRulesMgr.addProtect, clearProtectTexts]
    constructor <;> dsimp only
    · exact hself
    · exact htrust
    · exact hexiport
    · exact ⟨String.empty_append, String.empty_append⟩
    · exact ⟨String.empty_append, String.empty_append⟩
    · exact ⟨String.empty_append, String.empty_append⟩
    · exact ⟨String.empty_append, String.empty_append⟩
  | clearProtectDir =>
    exact ⟨hself, htrust, hexiport, hasTexts_nil, hasTexts_nil, hasTexts_nil, hasTexts_nil⟩

namespace Loaded

/-- After calls with inert strings the texts are those of a policy with inert strings. -/
theorem exists_policy {s : Loaded} (hreach : system.Reaches (fun _ call => call.Inert) s) :
    ∃ p : Policy, p.Inert ∧ s.mgr.toPolicyTexts.Renders p := by
  refine hreach.invariant (I := fun s => ∃ p : Policy, p.Inert ∧ s.mgr.toPolicyTexts.Renders p)
    ?_ ?_
  · rintro _ rfl
    refine ⟨⟨false, [], [], []⟩, ⟨by simp, by simp, by simp⟩, ?_⟩
    exact ⟨⟨rfl, rfl⟩, ⟨rfl, rfl⟩, ⟨rfl, rfl⟩, ⟨rfl, rfl⟩, ⟨rfl, rfl⟩, ⟨rfl, rfl⟩, ⟨rfl, rfl⟩⟩
  · rintro s call s' ⟨p, hinert, hrenders⟩ hcall hstep
    obtain rfl := Option.some.inj hstep
    refine ⟨call.policy p, hcall.policy hinert, ?_⟩
    rw [apply_toPolicyTexts]
    exact hrenders.render call

/-- **Rules name patterns that are there.** After any calls with strings free of line breaks
and separators, the writes of `load_pattern_rules` define no pattern twice, and every
pattern that a rule names has been written before the rule. -/
theorem load_referential_integrity (s : Loaded)
    (hreach : system.Reaches (fun _ call => call.Inert) s) :
    ((loadWrites s.mgr.toPolicyTexts).flatMap Write.names).Nodup ∧
      DefinedBeforeUse (loadWrites s.mgr.toPolicyTexts) := by
  obtain ⟨p, hinert, hrenders⟩ := exists_policy hreach
  have hdefines := hrenders.defines hinert
  refine ⟨?_, hdefines.uses.definedBeforeUse⟩
  rw [hdefines.names]
  exact p.nodup_names.map PatternName.text_injective

/-- Two protected directories, with suffixes and a path that is left out. -/
theorem load_referential_integrity_dirs :
    ∃ s : Loaded, s.mgr.protectDirIncludeExeRules ≠ "" ∧
      ((loadWrites s.mgr.toPolicyTexts).flatMap Write.names).Nodup ∧
      DefinedBeforeUse (loadWrites s.mgr.toPolicyTexts) := by
  have hinert : (Call.setProtectDir linkedDirs).Inert := by decide
  have hreach : system.Reaches (fun _ call => call.Inert)
      ⟨(setProtectDir linkedDirs {} {}).1, (setProtectDir linkedDirs {} {}).2⟩ :=
    .step (.init rfl) hinert rfl
  have hrules : (renderProtectDir linkedDirs {}).protectDirIncludeExeRules ≠ "" := by decide
  have htexts := setPatternRules_toPolicyTexts (renderProtectDir linkedDirs {}) {}
  refine ⟨_, ?_, load_referential_integrity _ hreach⟩
  rw [setProtectDir, htexts]
  exact hrules

end Loaded

end LinuxAgent.Pattern
