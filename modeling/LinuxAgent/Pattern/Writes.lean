import LinuxAgent.Pattern.Reload

/-!
# The writes of a load

Loading the policy is a sequence of writes to three files under `/proc/osec/dpi`. Here the
sequence is listed, and carrying it out one write after the other is the load.
-/

namespace LinuxAgent.Pattern

/-- The files under `/proc/osec/dpi`. -/
inductive ProcFile
  | filePatterns
  | rules
  | trueProcessRt
  deriving DecidableEq

/-- `write_to_proc_file`. -/
structure Write where
  file : ProcFile
  content : String
  deriving DecidableEq

/-- What a write does to the tables. -/
def Kernel.write (k : Kernel) (w : Write) : Kernel :=
  match w.file with
  | .filePatterns => k.writePatterns w.content
  | .rules => k.writeRules w.content
  | .trueProcessRt => k.writeTrueProcess w.content

/-- The writes of a family whose patterns and rules are written together. -/
def familyWrites (patterns rules : String) : List Write :=
  if patterns ≠ "" then [⟨.filePatterns, patterns⟩, ⟨.rules, rules⟩] else []

/-- A write of a text that is not empty. -/
def textWrites (file : ProcFile) (content : String) : List Write :=
  if content ≠ "" then [⟨file, content⟩] else []

/-- The writes of `load_pattern_rules`. -/
def loadWrites (m : PolicyTexts) : List Write :=
  familyWrites m.constFilePatterns m.constFileRules ++
    familyWrites m.globalTrustDirPatterns m.globalTrustDirRules ++
    familyWrites m.exiportDirPatterns m.exiportDirRules ++
    textWrites .filePatterns m.protectDirPatterns ++
    textWrites .rules m.protectDirRules ++
    familyWrites m.protectDirWhitePatterns m.protectDirWhiteRules ++
    familyWrites m.protectDirIncludeExePatterns m.protectDirIncludeExeRules ++
    familyWrites m.protectDirExcludeExePatterns m.protectDirExcludeExeRules ++
    textWrites .trueProcessRt m.protectTrueProcess ++
    textWrites .trueProcessRt m.exiportTrueProcess ++
    [⟨.filePatterns, "b\n"⟩]

/-- The writes of `set_pattern_rules`, which clears the tables before it loads. -/
def setPatternRulesWrites (m : PatternRulesMgr) : List Write :=
  if patternsHasChanged m then
    [⟨.filePatterns, "c\n"⟩, ⟨.rules, "c\n"⟩, ⟨.trueProcessRt, "c\n"⟩] ++
      loadWrites m.toPolicyTexts
  else []

/-- The writes of a family and what follows them. -/
theorem foldl_familyWrites_append {patterns rules : String} {rest : List Write}
    {next : Unit → Kernel → Id Kernel} (hnext : ∀ k, next () k = rest.foldl Kernel.write k)
    (k : Kernel) :
    (if patterns ≠ "" then next () ((k.writePatterns patterns).writeRules rules) else next () k) =
      (familyWrites patterns rules ++ rest).foldl Kernel.write k := by
  rw [familyWrites, List.foldl_append]
  split
  · exact hnext _
  · exact hnext _

/-- The write of a text and what follows it. -/
theorem foldl_textWrites_append (file : ProcFile) {content : String} {rest : List Write}
    {next : Unit → Kernel → Id Kernel} (hnext : ∀ k, next () k = rest.foldl Kernel.write k)
    (k : Kernel) :
    (if content ≠ "" then next () (k.write ⟨file, content⟩) else next () k) =
      (textWrites file content ++ rest).foldl Kernel.write k := by
  rw [textWrites, List.foldl_append]
  split
  · exact hnext _
  · exact hnext _

/-- The load carries out its writes. -/
theorem loadPatternRules_eq_writes (m : PolicyTexts) (k : Kernel) :
    loadPatternRules m k = (loadWrites m).foldl Kernel.write k := by
  simp only [loadWrites, List.append_assoc]
  unfold loadPatternRules
  extract_lets _ build exiportTrue protectTrue excluded included white protectRules protect exiport
    trust _ _
  have hbuild (k : Kernel) : build () k = [⟨.filePatterns, "b\n"⟩].foldl Kernel.write k := rfl
  have hexiportTrue (k : Kernel) : exiportTrue () k = _ :=
    foldl_textWrites_append .trueProcessRt hbuild k
  have hprotectTrue (k : Kernel) : protectTrue () k = _ :=
    foldl_textWrites_append .trueProcessRt hexiportTrue k
  have hexcluded (k : Kernel) : excluded () k = _ := foldl_familyWrites_append hprotectTrue k
  have hincluded (k : Kernel) : included () k = _ := foldl_familyWrites_append hexcluded k
  have hwhite (k : Kernel) : white () k = _ := foldl_familyWrites_append hincluded k
  have hprotectRules (k : Kernel) : protectRules () k = _ :=
    foldl_textWrites_append .rules hwhite k
  have hprotect (k : Kernel) : protect () k = _ :=
    foldl_textWrites_append .filePatterns hprotectRules k
  have hexiport (k : Kernel) : exiport () k = _ := foldl_familyWrites_append hprotect k
  have htrust (k : Kernel) : trust () k = _ := foldl_familyWrites_append hexiport k
  exact foldl_familyWrites_append htrust k

/-- `set_pattern_rules` carries out its writes. -/
theorem setPatternRules_eq_writes (m : PatternRulesMgr) (k : Kernel) :
    (setPatternRules m k).2 = (setPatternRulesWrites m).foldl Kernel.write k := by
  rw [setPatternRules, setPatternRulesWrites]
  split
  · rw [List.foldl_append, ← loadPatternRules_eq_writes]
    rfl
  · rfl

end LinuxAgent.Pattern
