import LinuxAgent.Lib.Fields
import LinuxAgent.Pattern.Reload

/-!
# The lines of the policy

The loops of the pattern manager append to its texts. Here the texts are given line by
line: each line is a list of fields, the name of a pattern is made of its family and of
one or two indices, and each policy with trusted processes has the next number. The
texts that a call renders are the lines of its policies.
-/

namespace LinuxAgent.Pattern

open Fields (Record)

/-- The names of patterns, by their families. -/
inductive PatternName
  | self (n : ℕ)
  | trueDir (i : ℕ)
  | exiportInfo (i : ℕ)
  | protectDir (i : ℕ)
  | protectExcludeDir (i j : ℕ)
  | protectIncFileExe (i j : ℕ)
  | protectExcFileExe (i j : ℕ)
  deriving DecidableEq

/-- The family and the indices of a name. -/
def PatternName.parts : PatternName → List String
  | .self n => ["self", toString n]
  | .trueDir i => ["trueDir", toString i]
  | .exiportInfo i => ["exiportInfo", toString i]
  | .protectDir i => ["ProtectDir", toString i]
  | .protectExcludeDir i j => ["protectExcludeDir", toString i, toString j]
  | .protectIncFileExe i j => ["protectIncFileExe", toString i, toString j]
  | .protectExcFileExe i j => ["protectExcFileExe", toString i, toString j]

/-- The text of a name. -/
def PatternName.text (name : PatternName) : String := Text.joinWith '_' name.parts

/-- A line for `file_patterns`. -/
structure PatternLine where
  name : PatternName
  rest : Record

/-- The fields of a pattern. -/
def PatternLine.fields (l : PatternLine) : Record := ("name", l.name.text) :: l.rest

/-- The text of a pattern. -/
def PatternLine.text (l : PatternLine) : String := Fields.line l.fields

/-- A line for `rules`, which names a pattern or a chain of them. -/
structure RuleLine where
  before : Record
  chain : List PatternName
  after : Record

/-- The fields of a rule. -/
def RuleLine.fields (l : RuleLine) : Record :=
  l.before ++ ("pattern", Text.joinWith '>' (l.chain.map PatternName.text)) :: l.after

/-- The text of a rule. -/
def RuleLine.text (l : RuleLine) : String := Fields.line l.fields

/-- The text of some patterns. -/
def patternText (ls : List PatternLine) : String := Text.unlines (ls.map PatternLine.text)

/-- The text of some rules. -/
def ruleText (ls : List RuleLine) : String := Text.unlines (ls.map RuleLine.text)

/-- The text of more pattern lines comes after the others. -/
theorem patternText_append (ls ls' : List PatternLine) :
    patternText (ls ++ ls') = patternText ls ++ patternText ls' := by
  rw [patternText, List.map_append, Text.unlines_append, patternText, patternText]

/-- The text of more rule lines comes after the others. -/
theorem ruleText_append (ls ls' : List RuleLine) :
    ruleText (ls ++ ls') = ruleText ls ++ ruleText ls' := by
  rw [ruleText, List.map_append, Text.unlines_append, ruleText, ruleText]

/-- No pattern lines have no text. -/
theorem patternText_nil : patternText [] = "" := rfl

/-- No rule lines have no text. -/
theorem ruleText_nil : ruleText [] = "" := rfl

/-- The text of a pattern with its line break. -/
theorem patternText_singleton (l : PatternLine) : patternText [l] = l.text ++ "\n" := by
  simp [patternText, Text.unlines]

/-- The text of a rule with its line break. -/
theorem ruleText_singleton (l : RuleLine) : ruleText [l] = l.text ++ "\n" := by
  simp [ruleText, Text.unlines]

/-- The first pattern line comes before the others. -/
theorem patternText_cons (l : PatternLine) (ls : List PatternLine) :
    patternText (l :: ls) = l.text ++ "\n" ++ patternText ls := by
  rw [← List.singleton_append, patternText_append, patternText_singleton]

/-- The first rule line comes before the others. -/
theorem ruleText_cons (l : RuleLine) (ls : List RuleLine) :
    ruleText (l :: ls) = l.text ++ "\n" ++ ruleText ls := by
  rw [← List.singleton_append, ruleText_append, ruleText_singleton]

/-- A policy with its index and, if it has trusted processes, the number of its rule. -/
structure Numbered (α : Type) where
  policy : α
  index : ℕ
  ruleId : Option ℕ

/-- The policies that have trusted processes are numbered from the next number on. -/
def numberFrom {α : Type} (trusts : α → Bool) : ℕ → List (α × ℕ) → List (Numbered α)
  | _, [] => []
  | number, (policy, i) :: rest =>
    if trusts policy then ⟨policy, i, some (number + 1)⟩ :: numberFrom trusts (number + 1) rest
    else ⟨policy, i, none⟩ :: numberFrom trusts number rest

/-- The policies that are rendered: 50 at most, numbered from one on. -/
def numbered {α : Type} (trusts : α → Bool) (policies : List α) : List (Numbered α) :=
  numberFrom trusts 0 (policies.zipIdx.take 50)

/-- A loop that appends the lines of each policy and counts those with trusted processes. -/
theorem foldl_numbered {α σ : Type} {trusts : α → Bool} {push : σ × ℕ → α × ℕ → σ × ℕ}
    {add : σ → List (Numbered α) → σ}
    (hpush : ∀ s number policy i, push (s, number) (policy, i) =
      if trusts policy then (add s [⟨policy, i, some (number + 1)⟩], number + 1)
      else (add s [⟨policy, i, none⟩], number))
    (hnil : ∀ s, add s [] = s) (hadd : ∀ s xs ys, add (add s xs) ys = add s (xs ++ ys))
    (items : List (α × ℕ)) (s : σ) (number : ℕ) :
    (items.foldl push (s, number)).1 = add s (numberFrom trusts number items) := by
  induction items generalizing s number with
  | nil => exact (hnil s).symm
  | cons item items ih =>
    obtain ⟨policy, i⟩ := item
    rw [List.foldl_cons, hpush, numberFrom]
    split
    · rw [ih, hadd, List.singleton_append]
    · rw [ih, hadd, List.singleton_append]

/-- The field that names the trusted processes of a rule. -/
def tpnc : Option ℕ → Record
  | some id => [("TPNC", toString id)]
  | none => []

/-- The pattern of a trusted directory. -/
def trustPattern (item : GlobalTrustDir × ℕ) : PatternLine where
  name := .trueDir item.2
  rest := ("key", item.1.dir) ::
    (if item.1.isExtend = 0 then [("isnot_extend", "1")] else []) ++
    [if item.1.typ = 1 then ("depth", toString item.1.dir.utf8ByteSize) else ("pkt_len", "-1"),
      ("case_offset", "1")]

/-- The rule of a trusted directory. -/
def trustRule (item : GlobalTrustDir × ℕ) : RuleLine :=
  ⟨[("target", "TDir_rule"), ("type", "0")], [.trueDir item.2], []⟩

/-- The text of a text. -/
private theorem toString_text (s : String) : toString s = s := rfl

/-- Append the lines of trusted directories. -/
def PatternRulesMgr.addTrust (m : PatternRulesMgr) (items : List (GlobalTrustDir × ℕ)) :
    PatternRulesMgr :=
  { m with
    globalTrustDirPatterns := m.globalTrustDirPatterns ++ patternText (items.map trustPattern)
    globalTrustDirRules := m.globalTrustDirRules ++ ruleText (items.map trustRule) }

/-- Trusted directories in two parts. -/
theorem PatternRulesMgr.addTrust_addTrust (m : PatternRulesMgr)
    (items items' : List (GlobalTrustDir × ℕ)) :
    (m.addTrust items).addTrust items' = m.addTrust (items ++ items') := by
  simp only [PatternRulesMgr.addTrust, List.map_append, patternText_append, ruleText_append,
    String.append_assoc]

/-- One iteration of the loop of `set_global_trust_dir`. -/
theorem pushGlobalTrustDir_eq (m : PatternRulesMgr) (item : GlobalTrustDir × ℕ) :
    pushGlobalTrustDir m item = m.addTrust [item] := by
  obtain ⟨dir, i⟩ := item
  refine congrArg₂ (fun patterns rules => { m with
    globalTrustDirPatterns := patterns, globalTrustDirRules := rules }) ?_ ?_
  · rw [List.map_singleton, patternText_singleton]
    by_cases hextend : dir.isExtend = 0 <;> by_cases htyp : dir.typ = 1 <;>
      simp [← String.toList_inj, toString_text, trustPattern, PatternLine.text, PatternLine.fields,
        Fields.line, Fields.fieldText, Text.joinWith, PatternName.text, PatternName.parts,
        List.intercalate, hextend, htyp]
  · rw [List.map_singleton, ruleText_singleton]
    simp [← String.toList_inj, toString_text, trustRule, RuleLine.text, RuleLine.fields,
      Fields.line, Fields.fieldText, Text.joinWith, PatternName.text, PatternName.parts,
      List.intercalate]

/-- The texts of `set_global_trust_dir`. -/
theorem renderGlobalTrustDir_eq (dirs : List GlobalTrustDir) (m : PatternRulesMgr) :
    renderGlobalTrustDir dirs m =
      PatternRulesMgr.addTrust { m with globalTrustDirPatterns := "", globalTrustDirRules := "" }
        (dirs.zipIdx.take 50) := by
  have hloop (items : List (GlobalTrustDir × ℕ)) (m : PatternRulesMgr) :
      items.foldl pushGlobalTrustDir m = m.addTrust items := by
    induction items generalizing m with
    | nil => simp [PatternRulesMgr.addTrust, patternText, ruleText, Text.unlines]
    | cons item items ih =>
      rw [List.foldl_cons, ih, pushGlobalTrustDir_eq, PatternRulesMgr.addTrust_addTrust,
        List.singleton_append]
  rw [renderGlobalTrustDir, hloop]

/-- The policy has trusted processes. -/
def PolicyExiporProtect.trusts (policy : PolicyExiporProtect) : Bool := policy.mapComm ≠ []

/-- The pattern of an export policy. -/
def exiportPattern (item : Numbered PolicyExiporProtect) : PatternLine where
  name := .exiportInfo item.index
  rest :=
    if item.policy.typ = 1 then
      [("key", "." ++ item.policy.fileType),
        ("offset", "-" ++ toString (item.policy.fileType.utf8ByteSize + 1))]
    else
      [("case_offset", "1"), ("key", item.policy.fileType),
        ("depth", toString item.policy.fileType.utf8ByteSize)]

/-- The rule of an export policy. -/
def exiportRule (item : Numbered PolicyExiporProtect) : RuleLine where
  before := [("target", (PatternName.exiportInfo item.index).text)]
  chain := [.exiportInfo item.index]
  after := (if item.policy.typ = 1 then [("action", "3")] else []) ++ tpnc item.ruleId ++
    [("type", "1")]

/-- The line of a trusted process. -/
def trustedLine (tag hash : String) (id : ℕ) : String := Text.joinWith ',' [hash, toString id, tag]

/-- The line of a trusted process is its hash and what follows it. -/
theorem trustedLine_eq_append (tag hash : String) (id : ℕ) :
    trustedLine tag hash id = hash ++ ("," ++ toString id ++ "," ++ tag) := by
  simp [← String.toList_inj, trustedLine, Text.joinWith, List.intercalate]

/-- There is no line break in what follows the hash. -/
theorem not_mem_trustedLine_end {tag : String} (htag : '\n' ∉ tag.toList) (id : ℕ) :
    '\n' ∉ ("," ++ toString id ++ "," ++ tag).toList := by
  simp only [String.toList_append, List.mem_append]
  rintro (((h | h) | h) | h)
  · exact absurd h (by decide)
  · exact Text.not_mem_toString (by decide) id h
  · exact absurd h (by decide)
  · exact htag h

/-- The lines of the trusted processes of a policy. -/
def trustedLines {α : Type} (tag : String) (hashes : α → List String) (item : Numbered α) :
    List String :=
  match item.ruleId with
  | some id => (hashes item.policy).map fun hash => trustedLine tag hash id
  | none => []

/-- One line for each hash of a policy with a rule. -/
theorem trustedLines_some {α : Type} (tag : String) (hashes : α → List String) (policy : α)
    (i id : ℕ) :
    trustedLines tag hashes ⟨policy, i, some id⟩ =
      (hashes policy).map fun hash => trustedLine tag hash id := rfl

/-- The hashes of the trusted processes of an export policy. -/
def PolicyExiporProtect.hashes (policy : PolicyExiporProtect) : List String :=
  policy.mapComm.map Prod.fst

/-- The lines of the trusted processes of export policies. -/
def exiportTrueLines (items : List (Numbered PolicyExiporProtect)) : List String :=
  items.flatMap (trustedLines "99" PolicyExiporProtect.hashes)

/-- Append the lines of export policies. -/
def PatternRulesMgr.addExiport (m : PatternRulesMgr) (items : List (Numbered PolicyExiporProtect)) :
    PatternRulesMgr :=
  { m with
    exiportDirPatterns := m.exiportDirPatterns ++ patternText (items.map exiportPattern)
    exiportDirRules := m.exiportDirRules ++ ruleText (items.map exiportRule)
    exiportTrueProcess := m.exiportTrueProcess ++ Text.unlines (exiportTrueLines items) }

/-- Export protection in two parts. -/
theorem PatternRulesMgr.addExiport_addExiport (m : PatternRulesMgr)
    (items items' : List (Numbered PolicyExiporProtect)) :
    (m.addExiport items).addExiport items' = m.addExiport (items ++ items') := by
  simp only [PatternRulesMgr.addExiport, List.map_append, patternText_append, ruleText_append,
    exiportTrueLines, List.flatMap_append, Text.unlines_append, String.append_assoc]

/-- Managers that differ in the texts of export policies at most. -/
theorem exiport_ext {m : PatternRulesMgr} {patterns rules trueProcess patterns' rules'
    trueProcess' : String} (hpatterns : patterns = patterns') (hrules : rules = rules')
    (htrueProcess : trueProcess = trueProcess') :
    ({ m with exiportDirPatterns := patterns, exiportDirRules := rules
              exiportTrueProcess := trueProcess } : PatternRulesMgr) =
      { m with exiportDirPatterns := patterns', exiportDirRules := rules'
               exiportTrueProcess := trueProcess' } := by
  rw [hpatterns, hrules, htrueProcess]

/-- One iteration of the loop of `set_exiport_dir`. -/
theorem pushExiportDir_eq (m : PatternRulesMgr) (number : ℕ) (policy : PolicyExiporProtect)
    (i : ℕ) :
    pushExiportDir (m, number) (policy, i) =
      if policy.trusts then (m.addExiport [⟨policy, i, some (number + 1)⟩], number + 1)
      else (m.addExiport [⟨policy, i, none⟩], number) := by
  have hpatterns (id : Option ℕ) : m.exiportDirPatterns ++
        ("name=" ++ ("exiportInfo_" ++ toString i)) ++
        (if policy.typ = 1 then
          ",key=." ++ policy.fileType ++
            (",offset=-" ++ toString (policy.fileType.utf8ByteSize + 1))
        else ",case_offset=1" ++ ",key=" ++ policy.fileType ++
          (",depth=" ++ toString policy.fileType.utf8ByteSize)) ++ "\n" =
      m.exiportDirPatterns ++ patternText ([⟨policy, i, id⟩].map exiportPattern) := by
    rw [List.map_singleton, patternText_singleton]
    by_cases htyp : policy.typ = 1 <;>
      simp [← String.toList_inj, exiportPattern, PatternLine.text, PatternLine.fields,
        Fields.line, Fields.fieldText, Text.joinWith, PatternName.text, PatternName.parts,
        List.intercalate, htyp]
  have hrules (id : Option ℕ) : m.exiportDirRules ++
        ("target=" ++ ("exiportInfo_" ++ toString i) ++ ",pattern=" ++
          ("exiportInfo_" ++ toString i)) ++
        (if policy.typ = 1 then ",action=3" else "") ++
        (match id with | some id => ",TPNC=" ++ toString id | none => "") ++ ",type=1\n" =
      m.exiportDirRules ++ ruleText ([⟨policy, i, id⟩].map exiportRule) := by
    rw [List.map_singleton, ruleText_singleton]
    cases id <;> by_cases htyp : policy.typ = 1 <;>
      simp [← String.toList_inj, exiportRule, RuleLine.text, RuleLine.fields, tpnc,
        Fields.line, Fields.fieldText, Text.joinWith, PatternName.text, PatternName.parts,
        List.intercalate, htyp]
  have hline (hash : String) (id : ℕ) :
      hash ++ "," ++ toString id ++ ",99\n" = trustedLine "99" hash id ++ "\n" := by
    simp [← String.toList_inj, trustedLine, Text.joinWith, List.intercalate]
  unfold pushExiportDir
  by_cases htrusts : policy.mapComm = []
  · rw [PolicyExiporProtect.trusts, if_neg (by simpa using htrusts)]
    dsimp only
    rw [if_pos htrusts]
    refine Prod.ext (exiport_ext (hpatterns none) ?_ ?_) rfl
    · rw [← hrules none, String.append_empty]
      rfl
    · exact String.append_empty.symm
  · rw [PolicyExiporProtect.trusts, if_pos (by simpa using htrusts)]
    dsimp only
    rw [if_neg htrusts]
    refine Prod.ext (exiport_ext (hpatterns (some (number + 1))) ?_ ?_) rfl
    · exact hrules (some (number + 1))
    · refine congrArg (m.exiportTrueProcess ++ ·) ?_
      rw [exiportTrueLines, List.flatMap_singleton, trustedLines_some, PolicyExiporProtect.hashes,
        List.map_map]
      exact Text.join_map_eq_unlines fun comm _ => hline comm.1 (number + 1)

/-- The texts of `set_exiport_dir`. -/
theorem renderExiportDir_eq (exports : List PolicyExiporProtect) (m : PatternRulesMgr) :
    renderExiportDir exports m =
      PatternRulesMgr.addExiport
        { m with exiportDirPatterns := "", exiportDirRules := "", exiportTrueProcess := "" }
        (numbered PolicyExiporProtect.trusts exports) :=
  foldl_numbered pushExiportDir_eq
    (fun m => by simp [PatternRulesMgr.addExiport, patternText, ruleText, Text.unlines,
      exiportTrueLines])
    PatternRulesMgr.addExiport_addExiport _ _ 0

/-- The directory has trusted processes. -/
def PolicyProtectDir.trusts (dir : PolicyProtectDir) : Bool := dir.whiteHash ≠ ""

/-- The hashes of the trusted processes of a directory. -/
def PolicyProtectDir.hashes (dir : PolicyProtectDir) : List String := Text.split ',' dir.whiteHash

/-- The parts of a text between bars, with their indices. The empty text has none. -/
def parts (text : String) : List (String × ℕ) :=
  if text = "" then [] else (Text.split '|' text).zipIdx

/-- The pattern of a protected directory. -/
def protectPattern (item : Numbered PolicyProtectDir) : PatternLine where
  name := .protectDir item.index
  rest := [("type", "2"), ("key", item.policy.dir)] ++
    if item.policy.typ = 1 then
      (if item.policy.isExtend = 0 then [("isnot_extend", "1")] else []) ++
        [("depth", toString item.policy.dir.utf8ByteSize), ("case_offset", "1")]
    else [("case_offset", "1"), ("pkt_len", "-1")]

/-- The patterns of the paths that are left out of a protected directory. -/
def whitePatterns (item : Numbered PolicyProtectDir) : List PatternLine :=
  (parts item.policy.isWhite).map fun part =>
    ⟨.protectExcludeDir item.index part.2, [("key", part.1)]⟩

/-- The rules of the paths that are left out of a protected directory. -/
def whiteRules (item : Numbered PolicyProtectDir) : List RuleLine :=
  (parts item.policy.isWhite).map fun part =>
    ⟨[("target", "protectExcludeDir")], [.protectExcludeDir item.index part.2],
      [("type", "2"), ("action", "1"), ("rule_idx", toString item.index), ("level", "1")]⟩

/-- The pattern of a file suffix. -/
def suffixPattern (name : PatternName) (suffix : String) : PatternLine :=
  ⟨name, [("key", "." ++ suffix), ("offset", "-" ++ toString (suffix.utf8ByteSize + 1))]⟩

/-- The patterns of the suffixes to which protection is restricted. -/
def includePatterns (item : Numbered PolicyProtectDir) : List PatternLine :=
  (parts item.policy.includeFile).map fun part =>
    suffixPattern (.protectIncFileExe item.index part.2) part.1

/-- The rules of the suffixes to which protection is restricted. -/
def includeRules (item : Numbered PolicyProtectDir) : List RuleLine :=
  (parts item.policy.includeFile).map fun part =>
    ⟨[("target", "protectIncFileExe_" ++ toString item.index)],
      [.protectDir item.index, .protectIncFileExe item.index part.2],
      [("rule_idx", toString item.index), ("action", "3"),
        ("protect_rw", toString item.policy.protectRw)] ++ tpnc item.ruleId ++ [("type", "2")]⟩

/-- The rule of a protected directory as a whole. -/
def protectRules (item : Numbered PolicyProtectDir) : List RuleLine :=
  if item.policy.includeFile = "" then
    [⟨[("target", (PatternName.protectDir item.index).text)], [.protectDir item.index],
      [("rule_idx", toString item.index), ("protect_rw", toString item.policy.protectRw)] ++
        tpnc item.ruleId ++ [("type", "2")]⟩]
  else []

/-- The suffixes that are left out, which count if protection is not restricted. -/
def excludedParts (dir : PolicyProtectDir) : List (String × ℕ) :=
  if dir.includeFile = "" then parts dir.fileExt else []

/-- The patterns of the suffixes that are left out. -/
def excludePatterns (item : Numbered PolicyProtectDir) : List PatternLine :=
  (excludedParts item.policy).map fun part =>
    suffixPattern (.protectExcFileExe item.index part.2) part.1

/-- The rules of the suffixes that are left out. -/
def excludeRules (item : Numbered PolicyProtectDir) : List RuleLine :=
  (excludedParts item.policy).map fun part =>
    ⟨[("target", (PatternName.protectExcFileExe item.index part.2).text)],
      [.protectDir item.index, .protectExcFileExe item.index part.2],
      [("rule_idx", toString item.index), ("action", "2"), ("type", "2")]⟩

/-- The lines of the trusted processes of protected directories. -/
def protectTrueLines (items : List (Numbered PolicyProtectDir)) : List String :=
  items.flatMap (trustedLines "88" PolicyProtectDir.hashes)

/-- Append the lines of protected directories. -/
def PatternRulesMgr.addProtect (m : PatternRulesMgr) (items : List (Numbered PolicyProtectDir)) :
    PatternRulesMgr :=
  { m with
    protectDirPatterns := m.protectDirPatterns ++ patternText (items.map protectPattern)
    protectDirWhitePatterns :=
      m.protectDirWhitePatterns ++ patternText (items.flatMap whitePatterns)
    protectDirRules := m.protectDirRules ++ ruleText (items.flatMap protectRules)
    protectDirWhiteRules := m.protectDirWhiteRules ++ ruleText (items.flatMap whiteRules)
    protectDirIncludeExePatterns :=
      m.protectDirIncludeExePatterns ++ patternText (items.flatMap includePatterns)
    protectDirIncludeExeRules :=
      m.protectDirIncludeExeRules ++ ruleText (items.flatMap includeRules)
    protectDirExcludeExePatterns :=
      m.protectDirExcludeExePatterns ++ patternText (items.flatMap excludePatterns)
    protectDirExcludeExeRules :=
      m.protectDirExcludeExeRules ++ ruleText (items.flatMap excludeRules)
    protectTrueProcess := m.protectTrueProcess ++ Text.unlines (protectTrueLines items) }

/-- Protected directories in two parts. -/
theorem PatternRulesMgr.addProtect_addProtect (m : PatternRulesMgr)
    (items items' : List (Numbered PolicyProtectDir)) :
    (m.addProtect items).addProtect items' = m.addProtect (items ++ items') := by
  simp only [PatternRulesMgr.addProtect, List.map_append, patternText_append, ruleText_append,
    protectTrueLines, List.flatMap_append, Text.unlines_append, String.append_assoc]

/-- The trusted processes. -/
def pushTrusted (dir : PolicyProtectDir) (number : ℕ) (m : PatternRulesMgr) : PatternRulesMgr :=
  if dir.whiteHash ≠ "" then
    let lines := (Text.split ',' dir.whiteHash).map fun hash => s!"{hash},{number},88\n"
    { m with protectTrueProcess := m.protectTrueProcess ++ String.join lines }
  else m

/-- The paths that are left out. -/
def pushWhite (dir : PolicyProtectDir) (i : ℕ) (m : PatternRulesMgr) : PatternRulesMgr :=
  if dir.isWhite ≠ "" then
    let paths := (Text.split '|' dir.isWhite).zipIdx
    { m with
      protectDirWhitePatterns := m.protectDirWhitePatterns ++
        String.join (paths.map fun (path, j) => s!"name=protectExcludeDir_{i}_{j},key={path}\n")
      protectDirWhiteRules := m.protectDirWhiteRules ++ String.join (paths.map fun (_, j) =>
        s!"target=protectExcludeDir,pattern=protectExcludeDir_{i}_{j},type=2,action=1," ++
        s!"rule_idx={i},level=1\n") }
  else m

/-- The pattern of the directory. -/
def pushDirPattern (dir : PolicyProtectDir) (i : ℕ) (m : PatternRulesMgr) : PatternRulesMgr :=
  let extend := if dir.isExtend = 0 then ",isnot_extend=1" else ""
  let depth :=
    if dir.typ = 1 then extend ++ s!",depth={dir.dir.utf8ByteSize},case_offset=1"
    else ",case_offset=1,pkt_len=-1"
  { m with
    protectDirPatterns := m.protectDirPatterns ++
      s!"name=ProtectDir_{i},type=2,key={dir.dir}" ++ depth ++ "\n" }

/-- The rules of the directory and of its suffixes. -/
def pushDirRules (dir : PolicyProtectDir) (i : ℕ) (tpnc : String) (m : PatternRulesMgr) :
    PatternRulesMgr :=
  let dirRule :=
    s!"target=ProtectDir_{i},pattern=ProtectDir_{i},rule_idx={i},protect_rw={dir.protectRw}" ++
      tpnc ++ ",type=2\n"
  if dir.includeFile ≠ "" then
    let suffixes := (Text.split '|' dir.includeFile).zipIdx
    { m with
      protectDirIncludeExePatterns := m.protectDirIncludeExePatterns ++
        String.join (suffixes.map fun (suffix, j) =>
          s!"name=protectIncFileExe_{i}_{j},key=.{suffix},offset=-{suffix.utf8ByteSize + 1}\n")
      protectDirIncludeExeRules := m.protectDirIncludeExeRules ++
        String.join (suffixes.map fun (_, j) =>
          s!"target=protectIncFileExe_{i},pattern=ProtectDir_{i}>protectIncFileExe_{i}_{j}," ++
          s!"rule_idx={i},action=3,protect_rw={dir.protectRw}" ++ tpnc ++ ",type=2\n") }
  else if dir.fileExt ≠ "" then
    let suffixes := (Text.split '|' dir.fileExt).zipIdx
    { m with
      protectDirRules := m.protectDirRules ++ dirRule
      protectDirExcludeExePatterns := m.protectDirExcludeExePatterns ++
        String.join (suffixes.map fun (suffix, j) =>
          s!"name=protectExcFileExe_{i}_{j},key=.{suffix},offset=-{suffix.utf8ByteSize + 1}\n")
      protectDirExcludeExeRules := m.protectDirExcludeExeRules ++
        String.join (suffixes.map fun (_, j) =>
          s!"target=protectExcFileExe_{i}_{j},pattern=ProtectDir_{i}>protectExcFileExe_{i}_{j}," ++
          s!"rule_idx={i},action=2,type=2\n") }
  else { m with protectDirRules := m.protectDirRules ++ dirRule }

/-- One iteration of the loop of `set_protect_dir` in its parts. -/
theorem pushProtectDir_eq_parts (m : PatternRulesMgr) (number : ℕ) (dir : PolicyProtectDir)
    (i : ℕ) :
    let number' := if dir.whiteHash ≠ "" then number + 1 else number
    let tpnc := if dir.whiteHash ≠ "" then ",TPNC=" ++ toString number' else ""
    pushProtectDir (m, number) (dir, i) =
      (pushDirRules dir i tpnc (pushDirPattern dir i (pushWhite dir i (pushTrusted dir number' m))),
        number') := rfl

/-- The text of the number of a rule. -/
def tpncText : Option ℕ → String
  | some id => ",TPNC=" ++ toString id
  | none => ""

section Parts

variable (m : PatternRulesMgr) (dir : PolicyProtectDir) (i : ℕ)

/-- What is appended for the trusted processes. -/
theorem pushTrusted_eq (number : ℕ) :
    pushTrusted dir number m =
      { m with
        protectTrueProcess := m.protectTrueProcess ++ Text.unlines
          (if dir.whiteHash ≠ "" then dir.hashes.map fun hash => trustedLine "88" hash number
          else []) } := by
  have hline (hash : String) : hash ++ "," ++ toString number ++ ",88\n" =
      trustedLine "88" hash number ++ "\n" := by
    simp [← String.toList_inj, trustedLine, Text.joinWith, List.intercalate]
  rw [pushTrusted]
  split
  · rw [PolicyProtectDir.hashes, ← Text.join_map_eq_unlines fun hash _ => hline hash]
    rfl
  · simp [Text.unlines]

/-- What is appended for the parts of a text. -/
theorem join_parts {text : String} {f g : String × ℕ → String} (hne : text ≠ "")
    (h : ∀ part, f part = g part ++ "\n") :
    String.join ((Text.split '|' text).zipIdx.map f) = Text.unlines ((parts text).map g) := by
  rw [parts, if_neg hne]
  exact Text.join_map_eq_unlines fun part _ => h part

/-- What is appended for the paths that are left out. -/
theorem pushWhite_eq (ruleId : Option ℕ) :
    pushWhite dir i m =
      { m with
        protectDirWhitePatterns :=
          m.protectDirWhitePatterns ++ patternText (whitePatterns ⟨dir, i, ruleId⟩)
        protectDirWhiteRules :=
          m.protectDirWhiteRules ++ ruleText (whiteRules ⟨dir, i, ruleId⟩) } := by
  rw [pushWhite]
  split
  · next hne =>
    refine congrArg₂ (fun patterns rules => { m with
      protectDirWhitePatterns := m.protectDirWhitePatterns ++ patterns
      protectDirWhiteRules := m.protectDirWhiteRules ++ rules }) ?_ ?_
    · rw [patternText, whitePatterns, List.map_map]
      refine join_parts hne ?_
      rintro ⟨path, j⟩
      simp [← String.toList_inj, toString_text, PatternLine.text, PatternLine.fields, Fields.line,
        Fields.fieldText, Text.joinWith, PatternName.text, PatternName.parts, List.intercalate]
    · rw [ruleText, whiteRules, List.map_map]
      refine join_parts hne ?_
      rintro ⟨path, j⟩
      simp [← String.toList_inj, toString_text, RuleLine.text, RuleLine.fields, Fields.line,
        Fields.fieldText, Text.joinWith, PatternName.text, PatternName.parts, List.intercalate]
  · next hempty =>
    simp [whitePatterns, whiteRules, parts, not_not.mp hempty, patternText, ruleText, Text.unlines]

/-- What is appended for the directory. -/
theorem pushDirPattern_eq (ruleId : Option ℕ) :
    pushDirPattern dir i m =
      { m with
        protectDirPatterns :=
          m.protectDirPatterns ++ patternText [protectPattern ⟨dir, i, ruleId⟩] } := by
  refine congrArg (fun patterns => { m with protectDirPatterns := patterns }) ?_
  rw [patternText_singleton]
  by_cases htyp : dir.typ = 1 <;> by_cases hextend : dir.isExtend = 0 <;>
    simp [← String.toList_inj, toString_text, protectPattern, PatternLine.text, PatternLine.fields,
      Fields.line, Fields.fieldText, Text.joinWith, PatternName.text, PatternName.parts,
      List.intercalate, htyp, hextend]

/-- Managers that differ in the texts of these rules and patterns at most. -/
theorem dirRules_ext {m : PatternRulesMgr}
    {rules includePatterns includeRules excludePatterns excludeRules rules' includePatterns'
      includeRules' excludePatterns' excludeRules' : String}
    (hrules : rules = rules') (hincludePatterns : includePatterns = includePatterns')
    (hincludeRules : includeRules = includeRules')
    (hexcludePatterns : excludePatterns = excludePatterns')
    (hexcludeRules : excludeRules = excludeRules') :
    ({ m with
      protectDirRules := rules, protectDirIncludeExePatterns := includePatterns
      protectDirIncludeExeRules := includeRules, protectDirExcludeExePatterns := excludePatterns
      protectDirExcludeExeRules := excludeRules } : PatternRulesMgr) =
    { m with
      protectDirRules := rules', protectDirIncludeExePatterns := includePatterns'
      protectDirIncludeExeRules := includeRules', protectDirExcludeExePatterns := excludePatterns'
      protectDirExcludeExeRules := excludeRules' } := by
  rw [hrules, hincludePatterns, hincludeRules, hexcludePatterns, hexcludeRules]

/-- The rule of a directory that is protected as a whole. -/
theorem ruleText_protectRules (hinclude : dir.includeFile = "") (ruleId : Option ℕ) :
    "target=ProtectDir_" ++ toString i ++ ",pattern=ProtectDir_" ++ toString i ++ ",rule_idx=" ++
        toString i ++ ",protect_rw=" ++ toString dir.protectRw ++ tpncText ruleId ++ ",type=2\n" =
      ruleText (protectRules ⟨dir, i, ruleId⟩) := by
  rw [protectRules, if_pos hinclude, ruleText_singleton]
  cases ruleId <;>
    simp [← String.toList_inj, tpncText, tpnc, RuleLine.text, RuleLine.fields, Fields.line,
      Fields.fieldText, Text.joinWith, PatternName.text, PatternName.parts, List.intercalate]

/-- The pattern of a file suffix. -/
theorem text_suffixPattern (name : PatternName) (suffix : String) :
    "name=" ++ name.text ++ ",key=." ++ suffix ++ ",offset=-" ++
        toString (suffix.utf8ByteSize + 1) ++ "\n" = (suffixPattern name suffix).text ++ "\n" := by
  simp [← String.toList_inj, suffixPattern, PatternLine.text, PatternLine.fields, Fields.line,
    Fields.fieldText, Text.joinWith, List.intercalate]

/-- What is appended for the rules. -/
theorem pushDirRules_eq (ruleId : Option ℕ) :
    pushDirRules dir i (tpncText ruleId) m =
      { m with
        protectDirRules := m.protectDirRules ++ ruleText (protectRules ⟨dir, i, ruleId⟩)
        protectDirIncludeExePatterns :=
          m.protectDirIncludeExePatterns ++ patternText (includePatterns ⟨dir, i, ruleId⟩)
        protectDirIncludeExeRules :=
          m.protectDirIncludeExeRules ++ ruleText (includeRules ⟨dir, i, ruleId⟩)
        protectDirExcludeExePatterns :=
          m.protectDirExcludeExePatterns ++ patternText (excludePatterns ⟨dir, i, ruleId⟩)
        protectDirExcludeExeRules :=
          m.protectDirExcludeExeRules ++ ruleText (excludeRules ⟨dir, i, ruleId⟩) } := by
  unfold pushDirRules
  dsimp only
  by_cases hinclude : dir.includeFile = ""
  · rw [if_neg (not_not.mpr hinclude)]
    have hnone : includePatterns ⟨dir, i, ruleId⟩ = [] ∧ includeRules ⟨dir, i, ruleId⟩ = [] := by
      simp [includePatterns, includeRules, parts, hinclude]
    rw [hnone.1, hnone.2, patternText_nil, ruleText_nil, String.append_empty, String.append_empty,
      ← ruleText_protectRules dir i hinclude]
    by_cases hext : dir.fileExt = ""
    · rw [if_neg (not_not.mpr hext), excludePatterns, excludeRules, excludedParts,
        if_pos hinclude, parts, if_pos hext]
      refine dirRules_ext rfl rfl rfl ?_ ?_
      · exact String.append_empty.symm
      · exact String.append_empty.symm
    · rw [if_pos hext]
      refine dirRules_ext rfl rfl rfl (congrArg (m.protectDirExcludeExePatterns ++ ·) ?_)
        (congrArg (m.protectDirExcludeExeRules ++ ·) ?_)
      · rw [patternText, excludePatterns, excludedParts, if_pos hinclude, List.map_map]
        refine join_parts hext ?_
        rintro ⟨suffix, j⟩
        refine Eq.trans ?_ (text_suffixPattern (.protectExcFileExe i j) suffix)
        simp [← String.toList_inj, toString_text, Text.joinWith, PatternName.text,
          PatternName.parts, List.intercalate]
      · rw [ruleText, excludeRules, excludedParts, if_pos hinclude, List.map_map]
        refine join_parts hext ?_
        rintro ⟨suffix, j⟩
        simp [← String.toList_inj, toString_text, RuleLine.text, RuleLine.fields, Fields.line,
          Fields.fieldText, Text.joinWith, PatternName.text, PatternName.parts, List.intercalate]
  · rw [if_pos hinclude]
    have hnone : protectRules ⟨dir, i, ruleId⟩ = [] ∧ excludePatterns ⟨dir, i, ruleId⟩ = [] ∧
        excludeRules ⟨dir, i, ruleId⟩ = [] := by
      simp [protectRules, excludePatterns, excludeRules, excludedParts, hinclude]
    rw [hnone.1, hnone.2.1, hnone.2.2, patternText_nil, ruleText_nil, String.append_empty,
      String.append_empty, String.append_empty]
    refine dirRules_ext rfl (congrArg (m.protectDirIncludeExePatterns ++ ·) ?_)
      (congrArg (m.protectDirIncludeExeRules ++ ·) ?_) rfl rfl
    · rw [patternText, includePatterns, List.map_map]
      refine join_parts hinclude ?_
      rintro ⟨suffix, j⟩
      refine Eq.trans ?_ (text_suffixPattern (.protectIncFileExe i j) suffix)
      simp [← String.toList_inj, toString_text, Text.joinWith, PatternName.text,
        PatternName.parts, List.intercalate]
    · rw [ruleText, includeRules, List.map_map]
      refine join_parts hinclude ?_
      rintro ⟨suffix, j⟩
      cases ruleId <;>
        simp [← String.toList_inj, toString_text, tpncText, tpnc, RuleLine.text, RuleLine.fields,
          Fields.line, Fields.fieldText, Text.joinWith, PatternName.text, PatternName.parts,
          List.intercalate]

end Parts

/-- One iteration of the loop of `set_protect_dir`. -/
theorem pushProtectDir_eq (m : PatternRulesMgr) (number : ℕ) (dir : PolicyProtectDir) (i : ℕ) :
    pushProtectDir (m, number) (dir, i) =
      if dir.trusts then (m.addProtect [⟨dir, i, some (number + 1)⟩], number + 1)
      else (m.addProtect [⟨dir, i, none⟩], number) := by
  rw [pushProtectDir_eq_parts]
  by_cases htrusts : dir.whiteHash = ""
  · rw [PolicyProtectDir.trusts, if_neg (not_not.mpr htrusts), if_neg (not_not.mpr htrusts),
      if_neg (by simpa using htrusts)]
    refine Prod.ext ?_ rfl
    rw [pushTrusted_eq, pushWhite_eq _ _ _ none, pushDirPattern_eq _ _ _ none]
    refine (pushDirRules_eq _ dir i none).trans ?_
    rw [if_neg (not_not.mpr htrusts)]
    simp [PatternRulesMgr.addProtect, protectTrueLines, trustedLines]
  · rw [PolicyProtectDir.trusts, if_pos htrusts, if_pos htrusts, if_pos (by simpa using htrusts)]
    refine Prod.ext ?_ rfl
    rw [pushTrusted_eq, pushWhite_eq _ _ _ (some (number + 1)),
      pushDirPattern_eq _ _ _ (some (number + 1))]
    refine (pushDirRules_eq _ dir i (some (number + 1))).trans ?_
    rw [if_pos htrusts]
    simp [PatternRulesMgr.addProtect, protectTrueLines, trustedLines]

/-- The texts of `set_protect_dir`. -/
theorem renderProtectDir_eq (dirs : List PolicyProtectDir) (m : PatternRulesMgr) :
    renderProtectDir dirs m =
      (clearProtectTexts m).addProtect (numbered PolicyProtectDir.trusts dirs) :=
  foldl_numbered pushProtectDir_eq
    (fun m => by simp [PatternRulesMgr.addProtect, patternText, ruleText, Text.unlines,
      protectTrueLines])
    PatternRulesMgr.addProtect_addProtect _ _ 0

/-- The parts of a name are letters and digits. -/
theorem PatternName.isAlphanum_of_mem_parts {name : PatternName} {part : String}
    (hpart : part ∈ name.parts) {c : Char} (hc : c ∈ part.toList) : c.isAlphanum = true := by
  have hnumber (n : ℕ) : (toString n).toList.all Char.isAlphanum = true := by
    refine List.all_eq_true.mpr fun c hc => ?_
    rw [Nat.toString_eq_ofList_toDigits, String.toList_ofList] at hc
    rw [Char.isAlphanum, Nat.isDigit_of_mem_toDigits (by decide) (by decide) hc, Bool.or_true]
  have hall : ∀ part ∈ name.parts, part.toList.all Char.isAlphanum = true := by
    cases name <;>
      simp +decide only [PatternName.parts, List.forall_mem_cons, hnumber, and_true]
  exact List.all_eq_true.mp (hall part hpart) c hc

/-- The characters of a name. -/
theorem PatternName.of_mem_text {name : PatternName} {c : Char} (hc : c ∈ name.text.toList) :
    c = '_' ∨ c.isAlphanum = true := by
  rcases Text.of_mem_joinWith hc with hsep | ⟨part, hpart, hc⟩
  · exact .inl hsep
  · exact .inr (isAlphanum_of_mem_parts hpart hc)

/-- Different names have different texts. -/
theorem PatternName.text_injective : Function.Injective PatternName.text := by
  intro a b h
  have hparts (name : PatternName) : Text.split '_' name.text = name.parts := by
    refine Text.split_joinWith (fun part hpart hc => ?_) ?_
    · exact absurd (isAlphanum_of_mem_parts hpart hc) (by decide)
    · cases name <;> exact List.cons_ne_nil _ _
  have hsame : a.parts = b.parts := by rw [← hparts, ← hparts, h]
  cases a <;> cases b <;>
    simp_all only [PatternName.parts, List.cons.injEq, Text.toString_injective.eq_iff, and_true,
      String.reduceEq, true_and, false_and, reduceCtorEq, and_false]

/-- Names are inert. -/
theorem PatternName.inert_text (name : PatternName) : Fields.Inert name.text := by
  intro c hc
  refine ⟨?_, ?_, ?_⟩
  all_goals
    rintro rfl
    exact absurd (of_mem_text hc) (by decide)

/-- A chain of names is inert. -/
theorem inert_chain (chain : List PatternName) :
    Fields.Inert (Text.joinWith '>' (chain.map PatternName.text)) := by
  intro c hc
  rcases Text.of_mem_joinWith hc with rfl | ⟨text, htext, hc⟩
  · decide
  · obtain ⟨name, -, rfl⟩ := List.mem_map.mp htext
    exact name.inert_text c hc

/-- A rule has a chain, and the fields around it are tidy and name no further pattern. -/
def RuleLine.Tidy (l : RuleLine) : Prop :=
  l.chain ≠ [] ∧ Fields.Tidy (l.before ++ l.after) ∧
    Fields.lookupAll "pattern" (l.before ++ l.after) = []

/-- The fields of a tidy rule are tidy. -/
theorem RuleLine.Tidy.fields {l : RuleLine} (h : l.Tidy) : Fields.Tidy l.fields := by
  obtain ⟨hbefore, hafter⟩ := Fields.tidy_append.mp h.2.1
  exact Fields.tidy_append.mpr
    ⟨hbefore, Fields.tidy_cons.mpr ⟨⟨by decide, inert_chain l.chain⟩, hafter⟩⟩

/-- The values of a key in a tidy rule. -/
theorem RuleLine.Tidy.values_text {l : RuleLine} (h : l.Tidy) (key : String) :
    Fields.values key l.text = Fields.lookupAll key l.fields := Fields.values_line h.fields.plain

/-- The lines of tidy rules are read back. -/
theorem lines_ruleText {ls : List RuleLine} (h : ∀ l ∈ ls, l.Tidy) :
    Text.lines (ruleText ls) = ls.map RuleLine.text :=
  Text.lines_unlines_of_forall (List.forall_mem_map.mpr fun l hl => (h l hl).fields.unbroken)

/-- The fields of a rule number are tidy. -/
theorem tidy_tpnc (ruleId : Option ℕ) : Fields.Tidy (tpnc ruleId) := by
  cases ruleId with
  | none => exact Fields.tidy_nil
  | some id => exact Fields.tidy_cons.mpr ⟨⟨by decide, Fields.inert_toString id⟩, Fields.tidy_nil⟩

/-- The values of the number. -/
theorem lookupAll_tpnc (ruleId : Option ℕ) :
    Fields.lookupAll "TPNC" (tpnc ruleId) = (ruleId.map toString).toList := by
  cases ruleId <;> rfl

/-- The other keys do not occur in the field of the number. -/
theorem lookupAll_tpnc_of_ne {key : String} (hkey : key ≠ "TPNC") (ruleId : Option ℕ) :
    Fields.lookupAll key (tpnc ruleId) = [] := by
  cases ruleId with
  | none => rfl
  | some id => rw [tpnc, Fields.lookupAll_cons_of_ne hkey.symm, Fields.lookupAll_nil]

/-- The rule of a trusted directory is tidy. -/
theorem tidy_trustRule (item : GlobalTrustDir × ℕ) : (trustRule item).Tidy := by
  simp +decide only [RuleLine.Tidy, ne_eq, List.cons_ne_nil, trustRule, Fields.tidy_append,
    Fields.tidy_cons, Fields.tidy_nil, Fields.lookupAll_append, Fields.lookupAll_cons_of_ne,
    Fields.lookupAll_nil]

/-- The rule of the export protection is tidy. -/
theorem tidy_exiportRule (item : Numbered PolicyExiporProtect) : (exiportRule item).Tidy := by
  by_cases htyp : item.policy.typ = 1 <;>
    simp +decide only [RuleLine.Tidy, ne_eq, List.cons_ne_nil, exiportRule, htyp, if_true,
      if_false, Fields.tidy_append, Fields.tidy_cons, Fields.tidy_nil, PatternName.inert_text,
      tidy_tpnc,
      Fields.lookupAll_append, Fields.lookupAll_cons_of_ne, Fields.lookupAll_nil,
      lookupAll_tpnc_of_ne, List.append_nil, and_true]

section DirRules

variable {item : Numbered PolicyProtectDir} {l : RuleLine}

/-- The rules of a protected directory are tidy. -/
theorem tidy_protectRules (hl : l ∈ protectRules item) : l.Tidy := by
  rw [protectRules] at hl
  split at hl
  · obtain rfl := List.mem_singleton.mp hl
    simp +decide only [RuleLine.Tidy, ne_eq, List.cons_ne_nil, Fields.tidy_append,
      Fields.tidy_cons, Fields.tidy_nil, PatternName.inert_text, tidy_tpnc, Fields.inert_toString,
      Fields.lookupAll_append, Fields.lookupAll_cons_of_ne, Fields.lookupAll_nil,
      lookupAll_tpnc_of_ne]
  · exact absurd hl List.not_mem_nil

/-- The rules of the paths that are left out are tidy. -/
theorem tidy_whiteRules (hl : l ∈ whiteRules item) : l.Tidy := by
  obtain ⟨part, -, rfl⟩ := List.mem_map.mp hl
  simp +decide only [RuleLine.Tidy, ne_eq, List.cons_ne_nil, Fields.tidy_append, Fields.tidy_cons,
    Fields.tidy_nil, Fields.inert_toString, Fields.lookupAll_append, Fields.lookupAll_cons_of_ne,
    Fields.lookupAll_nil]

/-- The rules of the suffixes to which protection is restricted are tidy. -/
theorem tidy_includeRules (hl : l ∈ includeRules item) : l.Tidy := by
  obtain ⟨part, -, rfl⟩ := List.mem_map.mp hl
  simp +decide only [RuleLine.Tidy, ne_eq, List.cons_ne_nil, Fields.tidy_append, Fields.tidy_cons,
    Fields.tidy_nil, Fields.inert_append, tidy_tpnc, Fields.inert_toString,
    Fields.lookupAll_append, Fields.lookupAll_cons_of_ne, Fields.lookupAll_nil,
    lookupAll_tpnc_of_ne]

/-- The rules of the suffixes that are left out are tidy. -/
theorem tidy_excludeRules (hl : l ∈ excludeRules item) : l.Tidy := by
  obtain ⟨part, -, rfl⟩ := List.mem_map.mp hl
  simp +decide only [RuleLine.Tidy, ne_eq, List.cons_ne_nil, Fields.tidy_append, Fields.tidy_cons,
    Fields.tidy_nil, PatternName.inert_text, Fields.inert_toString, Fields.lookupAll_append,
    Fields.lookupAll_cons_of_ne, Fields.lookupAll_nil]

end DirRules

end LinuxAgent.Pattern
