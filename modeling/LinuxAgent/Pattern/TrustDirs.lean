import LinuxAgent.Pattern.ProcessManager
import LinuxAgent.Pattern.Rendered

/-!
# Trusted directories in both managers

A list of trusted directories from the server goes to the file manager and to the process
manager, which render it with a loop each. The loops differ in one place: the file manager
writes `isnot_extend` for every entry that is not extended, the process manager only if
the entry is a directory.
-/

namespace LinuxAgent.Pattern

/-- The end of `task_global_dir`: the directories go to both managers. -/
def taskGlobalDir (trustDirs : List GlobalTrustDir) (p : Process.ProcessPatternRulesMgr)
    (m : PatternRulesMgr) (k : Kernel) :
    (Process.ProcessPatternRulesMgr × List Process.Write) × PatternRulesMgr × Kernel :=
  (Process.setGlobalTrustDir trustDirs p, setGlobalTrustDir trustDirs m k)

/-- The managers hold the same texts for the trusted directories. -/
def TrustTextsAgree (p : Process.ProcessPatternRulesMgr) (m : PatternRulesMgr) : Prop :=
  m.globalTrustDirPatterns = p.globalTrustDirPatterns ∧
    m.globalTrustDirRules = p.globalTrustDirRules

/-- The line of a trusted directory in the file manager. -/
def fileTrustPattern (item : GlobalTrustDir × ℕ) : String := (trustPattern item).text ++ "\n"

/-- A text is its own text. -/
private theorem toString_self (s : String) : toString s = s := rfl

section Lines

variable {dir : GlobalTrustDir} (i : ℕ)

/-- The parts of the line of a trusted directory in the file manager. -/
theorem fileTrustPattern_eq_append (dir : GlobalTrustDir) :
    fileTrustPattern (dir, i) =
      "name=" ++ Process.trustDirName i ++ ",key=" ++ dir.dir ++
        (if dir.isExtend = 0 then ",isnot_extend=1" else "") ++
        (if dir.typ = 1 then ",depth=" ++ toString dir.dir.utf8ByteSize else ",pkt_len=-1") ++
        ",case_offset=1\n" := by
  by_cases htyp : dir.typ = 1 <;> by_cases hextend : dir.isExtend = 0 <;>
    simp [← String.toList_inj, toString_self, fileTrustPattern, trustPattern, PatternLine.text,
      PatternLine.fields, Fields.line, Fields.fieldText, Text.joinWith, PatternName.text,
      PatternName.parts, List.intercalate, Process.trustDirName, htyp, hextend]

/-- A directory, or an entry that is extended, has the same line in both managers. -/
theorem fileTrustPattern_eq (h : dir.typ = 1 ∨ dir.isExtend ≠ 0) :
    fileTrustPattern (dir, i) = Process.trustDirPattern dir (Process.trustDirName i) := by
  rw [fileTrustPattern_eq_append, Process.trustDirPattern_eq_append]
  by_cases htyp : dir.typ = 1
  · by_cases hextend : dir.isExtend = 0
    · simp only [if_pos htyp, if_pos hextend]
    · simp only [if_pos htyp, if_neg hextend, String.append_empty]
  · simp only [if_neg htyp, if_neg (h.resolve_left htyp), String.append_empty]

/-- The file manager adds `isnot_extend` to an entry that is neither a directory nor extended. -/
theorem length_fileTrustPattern (htyp : dir.typ ≠ 1) (hextend : dir.isExtend = 0) :
    (fileTrustPattern (dir, i)).toList.length =
      (Process.trustDirPattern dir (Process.trustDirName i)).toList.length + 15 := by
  have hadded : ",isnot_extend=1".toList.length = 15 := by decide
  rw [fileTrustPattern_eq_append, Process.trustDirPattern_eq_append]
  simp only [if_neg htyp, if_pos hextend, String.toList_append, List.length_append, hadded]
  omega

/-- The lines of an entry agree for directories and for extended entries. -/
theorem fileTrustPattern_eq_iff :
    fileTrustPattern (dir, i) = Process.trustDirPattern dir (Process.trustDirName i) ↔
      dir.typ = 1 ∨ dir.isExtend ≠ 0 := by
  refine ⟨fun heq => ?_, fileTrustPattern_eq i⟩
  by_contra h
  rw [not_or, not_not] at h
  have hlength := length_fileTrustPattern i h.1 h.2
  rw [heq] at hlength
  omega

/-- No line of the process manager is longer than that of the file manager. -/
theorem length_trustDirPattern_le :
    (Process.trustDirPattern dir (Process.trustDirName i)).toList.length ≤
      (fileTrustPattern (dir, i)).toList.length := by
  by_cases h : dir.typ = 1 ∨ dir.isExtend ≠ 0
  · rw [fileTrustPattern_eq i h]
  · rw [not_or, not_not] at h
    have hlength := length_fileTrustPattern i h.1 h.2
    omega

end Lines

/-- The patterns of trusted directories in the file manager. -/
theorem patternText_trustPattern (items : List (GlobalTrustDir × ℕ)) :
    patternText (items.map trustPattern) = String.join (items.map fileTrustPattern) := by
  rw [patternText, List.map_map]
  exact (Text.join_map_eq_unlines fun _ _ => rfl).symm

/-- The rule of a trusted directory in the process manager. -/
theorem trustDirRule_eq_append (name : String) :
    Process.trustDirRule name = "target=TDir_rule,type=0,pattern=" ++ name ++ "\n" := by
  unfold Process.trustDirRule
  simp only [toString]

/-- The rule of a trusted directory in the file manager. -/
theorem text_trustRule (item : GlobalTrustDir × ℕ) :
    (trustRule item).text = "target=TDir_rule,type=0,pattern=" ++ Process.trustDirName item.2 := by
  simp [← String.toList_inj, toString_self, Process.trustDirName, trustRule, RuleLine.text,
    RuleLine.fields, Fields.line, Fields.fieldText, Text.joinWith, PatternName.text,
    PatternName.parts, List.intercalate]

/-- The rules of trusted directories are the same in both managers. -/
theorem ruleText_trustRule (items : List (GlobalTrustDir × ℕ)) :
    ruleText (items.map trustRule) = Process.trustDirRules (items.map Prod.snd) := by
  rw [ruleText, Process.trustDirRules, List.map_map, List.map_map]
  exact (Text.join_map_eq_unlines (f := fun item : GlobalTrustDir × ℕ =>
    Process.trustDirRule (Process.trustDirName item.2)) fun item _ =>
      (trustDirRule_eq_append _).trans (congrArg (· ++ "\n") (text_trustRule item).symm)).symm

/-- The patterns of both managers agree just if the lines of all entries do. -/
theorem join_fileTrustPattern_eq_iff (items : List (GlobalTrustDir × ℕ)) :
    String.join (items.map fileTrustPattern) = Process.trustDirPatterns items ↔
      ∀ item ∈ items, item.1.typ = 1 ∨ item.1.isExtend ≠ 0 := by
  have hle : ∀ item ∈ items,
      (Process.trustDirPattern item.1 (Process.trustDirName item.2)).toList.length ≤
        (fileTrustPattern item).toList.length :=
    fun item _ => length_trustDirPattern_le item.2
  have hlines : String.join (items.map fileTrustPattern) = Process.trustDirPatterns items ↔
      ∀ item ∈ items,
        fileTrustPattern item = Process.trustDirPattern item.1 (Process.trustDirName item.2) :=
    Text.join_map_inj hle
  rw [hlines]
  exact forall₂_congr fun item _ => fileTrustPattern_eq_iff item.2

/-- The texts of the trusted directories in the file manager. -/
theorem setGlobalTrustDir_texts (dirs : List GlobalTrustDir) (m : PatternRulesMgr) (k : Kernel) :
    (setGlobalTrustDir dirs m k).1.globalTrustDirPatterns =
        String.join ((dirs.zipIdx.take 50).map fileTrustPattern) ∧
      (setGlobalTrustDir dirs m k).1.globalTrustDirRules =
        Process.trustDirRules ((dirs.zipIdx.take 50).map Prod.snd) := by
  have htexts := setPatternRules_toPolicyTexts (renderGlobalTrustDir dirs m) k
  rw [setGlobalTrustDir, htexts, renderGlobalTrustDir_eq, ← patternText_trustPattern,
    ← ruleText_trustRule]
  exact ⟨String.empty_append, String.empty_append⟩

/-- The texts of the trusted directories in the process manager. -/
theorem process_setGlobalTrustDir_texts (dirs : List GlobalTrustDir)
    (p : Process.ProcessPatternRulesMgr) :
    (Process.setGlobalTrustDir dirs p).1.globalTrustDirPatterns =
        Process.trustDirPatterns (dirs.zipIdx.take 50) ∧
      (Process.setGlobalTrustDir dirs p).1.globalTrustDirRules =
        Process.trustDirRules ((dirs.zipIdx.take 50).map Prod.snd) := by
  have htexts := Process.setPatternRules_toPolicyTexts (Process.renderTrustDirs dirs p)
  rw [Process.setGlobalTrustDir, htexts, Process.renderTrustDirs, Process.foldl_pushTrustDir]
  exact ⟨String.empty_append, String.empty_append⟩

/-- The managers hold the same texts after a list of trusted directories just if every entry of
the first 50 is a directory or is extended. -/
theorem trustTextsAgree_iff (trustDirs : List GlobalTrustDir) (p : Process.ProcessPatternRulesMgr)
    (m : PatternRulesMgr) (k : Kernel) :
    TrustTextsAgree (taskGlobalDir trustDirs p m k).1.1 (taskGlobalDir trustDirs p m k).2.1 ↔
      ∀ dir ∈ trustDirs.take 50, dir.typ = 1 ∨ dir.isExtend ≠ 0 := by
  have hentries : (∀ item ∈ trustDirs.zipIdx.take 50, item.1.typ = 1 ∨ item.1.isExtend ≠ 0) ↔
      ∀ dir ∈ trustDirs.take 50, dir.typ = 1 ∨ dir.isExtend ≠ 0 := by
    have htake : trustDirs.take 50 = (trustDirs.zipIdx.take 50).map Prod.fst := by
      rw [List.map_take, List.zipIdx_map_fst]
    rw [htake, List.forall_mem_map]
  obtain ⟨hpatterns, hrules⟩ := setGlobalTrustDir_texts trustDirs m k
  obtain ⟨hprocess, hprocessRules⟩ := process_setGlobalTrustDir_texts trustDirs p
  rw [TrustTextsAgree, taskGlobalDir, hpatterns, hrules, hprocess, hprocessRules,
    join_fileTrustPattern_eq_iff, hentries]
  exact and_iff_left rfl

/-- The entry that the file manager trusts by default gets two different patterns. -/
theorem default_dir_rendered_differently :
    ¬TrustTextsAgree (taskGlobalDir [⟨"/opt/osec/log", 0, 0⟩] {} {} {}).1.1
      (taskGlobalDir [⟨"/opt/osec/log", 0, 0⟩] {} {} {}).2.1 := by
  rintro ⟨hpatterns, -⟩
  have hfile := (setGlobalTrustDir_texts [⟨"/opt/osec/log", 0, 0⟩] {} {}).1
  have hprocess := (process_setGlobalTrustDir_texts [⟨"/opt/osec/log", 0, 0⟩] {}).1
  have heq := (join_fileTrustPattern_eq_iff _).mp (hfile.symm.trans (hpatterns.trans hprocess))
  exact absurd (heq _ List.mem_cons_self) (by decide)

end LinuxAgent.Pattern
