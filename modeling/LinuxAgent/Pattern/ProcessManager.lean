import LinuxAgent.Lib.Runs
import LinuxAgent.Pattern.Manager

/-!
# The process pattern manager

`ProcessPatternRulesMgr` keeps two families of texts, those of a fixed table of processes
and those of the trusted directories. The kernel tables are reloaded when one of the two
pattern texts has changed; the texts of the rules are never compared. They stay in step
because the patterns determine the rules: a rule has nothing in it but the number of its
line.
-/

namespace LinuxAgent.Pattern.Process

/-- `ProcessPattern`. -/
structure ProcessPattern where
  key : String
  /-- The field `typ`, a `u8`. -/
  typ : ℕ
  param : String
  deriving DecidableEq

/-- `PROCESS_PATTERNS`. -/
def processPatterns : List ProcessPattern :=
  [⟨"bin/sudo", 0, ""⟩,
    ⟨"/lib/command-not-found", 0, ",pkt_len=-1"⟩,
    ⟨"systemd-cgroups-agent", 0, ",pkt_len=-1"⟩,
    ⟨"/opt/osec/MagicArmor_cli", 0, ",match_full_path=1"⟩,
    ⟨"/opt/osec/MagicArmor_0", 0, ",match_full_path=1"⟩,
    ⟨"/bin/dbus-daemon", 1, ",match_full_path=1"⟩,
    ⟨"/sbin/init", 1, ",match_full_path=1"⟩,
    ⟨"/sbin/NetworkManager", 1, ",match_full_path=1"⟩,
    ⟨"/sbin/lightdm", 1, ",match_full_path=1"⟩,
    ⟨"/sbin/alsactl", 1, ",match_full_path=1"⟩,
    ⟨"/lib/systemd/systemd-journald", 1, ",match_full_path=1"⟩,
    ⟨"/lib/systemd/systemd-udevd", 1, ",match_full_path=1"⟩,
    ⟨"/lib/systemd/systemd-timesyncd", 1, ",match_full_path=1"⟩,
    ⟨"/lib/systemd/systemd-logind", 1, ",match_full_path=1"⟩,
    ⟨"/usr/lib/accountsservice/accounts-daemon", 1, ",match_full_path=1"⟩,
    ⟨"/usr/lib/xorg/Xorg", 1, ",match_full_path=1"⟩,
    ⟨"/usr/lib/policykit-1/polkitd", 1, ",match_full_path=1"⟩,
    ⟨"/lib/systemd/systemd", 1, ",match_full_path=1"⟩,
    ⟨"/usr/sbin/rsyslogd", 1, ",match_full_path=1"⟩,
    ⟨"/bin/login", 1, ",match_full_path=1"⟩,
    ⟨"bin/du", 1, ",pkt_len=-1"⟩,
    ⟨"bin/dash", 1, ",pkt_len=-1"⟩,
    ⟨"/bin/run-parts", 1, ",match_full_path=1"⟩,
    ⟨"/sbin/dhclient-script", 1, ",match_full_path=1"⟩,
    ⟨"bin/sort", 1, ",pkt_len=-1"⟩,
    ⟨"bin/sudo", 1, ",pkt_len=-1"⟩,
    ⟨"bin/apt-get", 1, ",pkt_len=-1"⟩,
    ⟨"bin/dpkg-preconfigure", 1, ",pkt_len=-1"⟩,
    ⟨"bin/dpkg-split", 1, ",pkt_len=-1"⟩,
    ⟨"bin/apt-extracttemplates", 1, ",pkt_len=-1"⟩,
    ⟨"bin/stty", 1, ",pkt_len=-1"⟩,
    ⟨"bin/lsmod", 1, ",pkt_len=-1"⟩,
    ⟨"bin/rmmod", 1, ",pkt_len=-1"⟩,
    ⟨"bin/unzip", 1, ",pkt_len=-1"⟩,
    ⟨"bin/reboot", 1, ",pkt_len=-1"⟩,
    ⟨"/usr/bin/systemctl", 1, ",match_full_path=1"⟩,
    ⟨"/usr/sbin/service", 1, ",match_full_path=1"⟩,
    ⟨"/shutdown", 1, ",pkt_len=-1"⟩,
    ⟨"/halt", 1, ",pkt_len=-1"⟩,
    ⟨"/poweroff", 1, ",pkt_len=-1"⟩,
    ⟨"/systemd", 1, ",pkt_len=-1"⟩,
    ⟨"lsof", 1, ",pkt_len=-1"⟩,
    ⟨"awk", 1, ",pkt_len=-1"⟩,
    ⟨"/opt/osec/MagicArmorAgent", 0, ",match_full_path=1"⟩]

/-- The texts that `load_pattern_rules` writes. -/
structure PolicyTexts where
  constFilePatterns : String := ""
  constFileRules : String := ""
  globalTrustDirPatterns : String := ""
  globalTrustDirRules : String := ""
  deriving DecidableEq

/-- `ProcessPatternRulesMgr`. -/
structure ProcessPatternRulesMgr extends PolicyTexts where
  preGlobalTrustDirPatterns : String := ""
  preConstFilePatterns : String := ""
  inited : Bool := false
  deriving DecidableEq

/-- The files under `/proc/osec/process_dpi`. -/
inductive ProcFile
  | filePatterns
  | rules
  deriving DecidableEq

/-- A write to one of the files. -/
structure Write where
  file : ProcFile
  content : String
  deriving DecidableEq

/-- The lines of the two tables. -/
structure Tables where
  filePatterns : List String := []
  rules : List String := []
  deriving DecidableEq

/-- What a write does to the tables. -/
def Tables.write (k : Tables) (w : Write) : Tables :=
  match w.file with
  | .filePatterns => { k with filePatterns := writeTable w.content k.filePatterns }
  | .rules => { k with rules := writeTable w.content k.rules }

/-- What a sequence of writes does to the tables. -/
def Tables.writeAll (k : Tables) (ws : List Write) : Tables := ws.foldl Tables.write k

/-- `clear_file_pattern`. -/
def clearFilePattern : Write := ⟨.filePatterns, "c\n"⟩

/-- `clear_dpi_rules`. -/
def clearDpiRules : Write := ⟨.rules, "c\n"⟩

/-- `build_file_pattern`. -/
def buildFilePattern : Write := ⟨.filePatterns, "b\n"⟩

/-- The writes of `load_pattern_rules`. -/
def loadPatternRules (m : PolicyTexts) : List Write :=
  (if m.constFilePatterns ≠ "" then
    [⟨.filePatterns, m.constFilePatterns⟩, ⟨.rules, m.constFileRules⟩] else []) ++
  (if m.globalTrustDirPatterns ≠ "" then
    [⟨.filePatterns, m.globalTrustDirPatterns⟩, ⟨.rules, m.globalTrustDirRules⟩] else []) ++
  [buildFilePattern]

/-- `patterns_has_changed`. -/
def patternsHasChanged (m : ProcessPatternRulesMgr) : Bool :=
  m.preGlobalTrustDirPatterns ≠ m.globalTrustDirPatterns ||
    m.preConstFilePatterns ≠ m.constFilePatterns

/-- `patterns_backup`. -/
def patternsBackup (m : ProcessPatternRulesMgr) : ProcessPatternRulesMgr :=
  { m with
    preGlobalTrustDirPatterns := m.globalTrustDirPatterns
    preConstFilePatterns := m.constFilePatterns }

/-- `set_pattern_rules`: the manager after it and what it has written. -/
def setPatternRules (m : ProcessPatternRulesMgr) : ProcessPatternRulesMgr × List Write :=
  if patternsHasChanged m then
    (patternsBackup m, clearFilePattern :: clearDpiRules :: loadPatternRules m.toPolicyTexts)
  else (m, [])

/-- The pattern of the process at an index of the table. -/
def constPattern (process : ProcessPattern) (index : ℕ) : String :=
  let index := index + 1
  let patternName := if process.typ = 0 then "true_process_" else "sys_true_process_"
  s!"name={patternName}{index},key={process.key}{process.param}\n"

/-- The rule of the process at an index of the table. -/
def constRule (process : ProcessPattern) (index : ℕ) : String :=
  let index := index + 1
  let patternName := if process.typ = 0 then "true_process_" else "sys_true_process_"
  let target := if process.typ = 0 then "true_process" else "sys_true_process"
  s!"target={target},pattern={patternName}{index},type={process.typ}\n"

/-- One iteration of the loop of `add_const_process_pattern`. -/
def pushProcessPattern (m : ProcessPatternRulesMgr) (item : ProcessPattern × ℕ) :
    ProcessPatternRulesMgr :=
  { m with
    constFilePatterns := m.constFilePatterns ++ constPattern item.1 item.2
    constFileRules := m.constFileRules ++ constRule item.1 item.2 }

/-- The texts of `add_const_process_pattern`. -/
def renderConstProcessPattern (m : ProcessPatternRulesMgr) : ProcessPatternRulesMgr :=
  processPatterns.zipIdx.foldl pushProcessPattern
    { m with constFilePatterns := "", constFileRules := "" }

/-- `add_const_process_pattern`. -/
def addConstProcessPattern (m : ProcessPatternRulesMgr) : ProcessPatternRulesMgr × List Write :=
  setPatternRules (renderConstProcessPattern m)

/-- `init`. -/
def init (m : ProcessPatternRulesMgr) : ProcessPatternRulesMgr × List Write :=
  if m.inited then (m, []) else addConstProcessPattern { m with inited := true }

/-- The pattern of a trusted directory. -/
def trustDirPattern (dir : GlobalTrustDir) (name : String) : String :=
  let pattern := s!"name={name},key={dir.dir}"
  let pattern :=
    if dir.typ = 1 then
      let pattern := if dir.isExtend = 0 then pattern ++ ",isnot_extend=1" else pattern
      pattern ++ s!",depth={dir.dir.utf8ByteSize}"
    else pattern ++ ",pkt_len=-1"
  pattern ++ ",case_offset=1\n"

/-- The rule of a trusted directory. -/
def trustDirRule (name : String) : String := s!"target=TDir_rule,type=0,pattern={name}\n"

/-- The name of the pattern of a trusted directory. -/
def trustDirName (i : ℕ) : String := s!"trueDir_{i}"

/-- One iteration of the loop of `set_global_trust_dir`. -/
def pushTrustDir (m : ProcessPatternRulesMgr) (item : GlobalTrustDir × ℕ) :
    ProcessPatternRulesMgr :=
  { m with
    globalTrustDirPatterns := m.globalTrustDirPatterns ++
      trustDirPattern item.1 (trustDirName item.2)
    globalTrustDirRules := m.globalTrustDirRules ++ trustDirRule (trustDirName item.2) }

/-- The texts of `set_global_trust_dir`, which takes 50 directories at most. -/
def renderTrustDirs (globalTrustDirs : List GlobalTrustDir) (m : ProcessPatternRulesMgr) :
    ProcessPatternRulesMgr :=
  (globalTrustDirs.zipIdx.take 50).foldl pushTrustDir
    { m with globalTrustDirPatterns := "", globalTrustDirRules := "" }

/-- `set_global_trust_dir`. -/
def setGlobalTrustDir (globalTrustDirs : List GlobalTrustDir) (m : ProcessPatternRulesMgr) :
    ProcessPatternRulesMgr × List Write :=
  setPatternRules (renderTrustDirs globalTrustDirs m)

/-- The patterns of some processes. -/
def constPatterns (items : List (ProcessPattern × ℕ)) : String :=
  String.join (items.map fun item => constPattern item.1 item.2)

/-- The rules of some processes. -/
def constRules (items : List (ProcessPattern × ℕ)) : String :=
  String.join (items.map fun item => constRule item.1 item.2)

/-- The patterns of trusted directories. -/
def trustDirPatterns (items : List (GlobalTrustDir × ℕ)) : String :=
  String.join (items.map fun item => trustDirPattern item.1 (trustDirName item.2))

/-- The rules of the trusted directories with the given indices. -/
def trustDirRules (indices : List ℕ) : String :=
  String.join (indices.map fun i => trustDirRule (trustDirName i))

/-- The loop of `add_const_process_pattern` appends one pattern and one rule for each process. -/
theorem foldl_pushProcessPattern (items : List (ProcessPattern × ℕ))
    (m : ProcessPatternRulesMgr) :
    items.foldl pushProcessPattern m =
      { m with
        constFilePatterns := m.constFilePatterns ++ constPatterns items
        constFileRules := m.constFileRules ++ constRules items } := by
  induction items generalizing m with
  | nil => simp [constPatterns, constRules]
  | cons item items ih =>
    rw [List.foldl_cons, ih]
    simp only [pushProcessPattern, constPatterns, constRules, List.map_cons, String.join_cons,
      String.append_assoc]

/-- The loop of `set_global_trust_dir` appends one pattern and one rule for each directory. -/
theorem foldl_pushTrustDir (items : List (GlobalTrustDir × ℕ)) (m : ProcessPatternRulesMgr) :
    items.foldl pushTrustDir m =
      { m with
        globalTrustDirPatterns := m.globalTrustDirPatterns ++ trustDirPatterns items
        globalTrustDirRules := m.globalTrustDirRules ++ trustDirRules (items.map Prod.snd) } := by
  induction items generalizing m with
  | nil => simp [trustDirPatterns, trustDirRules]
  | cons item items ih =>
    rw [List.foldl_cons, ih]
    simp only [pushTrustDir, trustDirPatterns, trustDirRules, List.map_cons, String.join_cons,
      String.append_assoc]

/-- The texts of `add_const_process_pattern`. -/
theorem renderConstProcessPattern_eq (m : ProcessPatternRulesMgr) :
    renderConstProcessPattern m =
      { m with
        constFilePatterns := constPatterns processPatterns.zipIdx
        constFileRules := constRules processPatterns.zipIdx } := by
  rw [renderConstProcessPattern, foldl_pushProcessPattern]
  simp only [String.empty_append]

/-- The texts of `set_global_trust_dir`: the rules depend on the number of directories only. -/
theorem renderTrustDirs_eq (dirs : List GlobalTrustDir) (m : ProcessPatternRulesMgr) :
    renderTrustDirs dirs m =
      { m with
        globalTrustDirPatterns := trustDirPatterns (dirs.zipIdx.take 50)
        globalTrustDirRules := trustDirRules (List.range (dirs.take 50).length) } := by
  have hindices : (dirs.zipIdx.take 50).map Prod.snd = List.range (dirs.take 50).length := by
    rw [List.map_take, List.zipIdx_map_snd, ← List.range_eq_range', List.take_range,
      List.length_take]
  rw [renderTrustDirs, foldl_pushTrustDir, hindices]
  simp only [String.empty_append]

/-- The parts of the pattern of a trusted directory. -/
theorem trustDirPattern_eq_append (dir : GlobalTrustDir) (name : String) :
    trustDirPattern dir name =
      (if dir.typ = 1 then
        (if dir.isExtend = 0 then "name=" ++ name ++ ",key=" ++ dir.dir ++ ",isnot_extend=1"
          else "name=" ++ name ++ ",key=" ++ dir.dir) ++
          (",depth=" ++ toString dir.dir.utf8ByteSize)
      else "name=" ++ name ++ ",key=" ++ dir.dir ++ ",pkt_len=-1") ++ ",case_offset=1\n" := by
  unfold trustDirPattern
  simp only [toString]

/-- A pattern of a trusted directory ends in its only line break. -/
theorem count_trustDirPattern {dir : GlobalTrustDir} (hdir : '\n' ∉ dir.dir.toList) (i : ℕ) :
    (trustDirPattern dir (trustDirName i)).toList.count '\n' = 1 := by
  have hnumber (n : ℕ) : (toString n).toList.count '\n' = 0 :=
    List.count_eq_zero.mpr (Text.not_mem_toString (by decide) n)
  have hname : (trustDirName i).toList.count '\n' = 0 := by
    have hparts : trustDirName i = "trueDir_" ++ toString i := by
      unfold trustDirName
      simp only [toString]
    rw [hparts, String.toList_append, List.count_append, hnumber]
    rfl
  have hkey : dir.dir.toList.count '\n' = 0 := List.count_eq_zero.mpr hdir
  have hend : ",case_offset=1\n".toList.count '\n' = 1 := by decide
  rw [trustDirPattern_eq_append, String.toList_append, List.count_append, hend, Nat.add_eq_right]
  split
  · split
    · simp only [String.toList_append, List.count_append, hname, hkey, hnumber]
      rfl
    · simp only [String.toList_append, List.count_append, hname, hkey, hnumber]
      rfl
  · simp only [String.toList_append, List.count_append, hname, hkey]
    rfl

/-- The patterns of trusted directories have a line for each directory. -/
theorem count_trustDirPatterns {items : List (GlobalTrustDir × ℕ)}
    (h : ∀ item ∈ items, '\n' ∉ item.1.dir.toList) :
    (trustDirPatterns items).toList.count '\n' = items.length := by
  induction items with
  | nil => rfl
  | cons item items ih =>
    rw [List.forall_mem_cons] at h
    have hrest : (trustDirPatterns items).toList.count '\n' = items.length := ih h.2
    rw [trustDirPatterns, List.map_cons, String.join_cons, String.toList_append,
      List.count_append, count_trustDirPattern h.1, List.length_cons]
    rw [trustDirPatterns] at hrest
    omega

/-- The rules are those that belong to the patterns. -/
structure PolicyTexts.Linked (t : PolicyTexts) : Prop where
  const : t.constFileRules =
    if t.constFilePatterns = "" then "" else constRules processPatterns.zipIdx
  trust : t.globalTrustDirRules =
    trustDirRules (List.range (t.globalTrustDirPatterns.toList.count '\n'))

/-- Linked texts with the same patterns have the same rules. -/
theorem PolicyTexts.Linked.eq {t t' : PolicyTexts} (h : t.Linked) (h' : t'.Linked)
    (hconst : t.constFilePatterns = t'.constFilePatterns)
    (htrust : t.globalTrustDirPatterns = t'.globalTrustDirPatterns) : t = t' := by
  have hconstRules : t.constFileRules = t'.constFileRules := by
    rw [h.const, h'.const, hconst]
  have htrustRules : t.globalTrustDirRules = t'.globalTrustDirRules := by
    rw [h.trust, h'.trust, htrust]
  obtain ⟨a, b, c, d⟩ := t
  obtain ⟨a', b', c', d'⟩ := t'
  simp only at hconst htrust hconstRules htrustRules
  rw [hconst, htrust, hconstRules, htrustRules]

/-- The patterns of at least one process are not empty. -/
theorem constPatterns_ne_empty {items : List (ProcessPattern × ℕ)} (h : items ≠ []) :
    constPatterns items ≠ "" := by
  obtain ⟨item, rest, rfl⟩ := List.exists_cons_of_ne_nil h
  simp [constPatterns, constPattern]

/-- `add_const_process_pattern` renders linked texts. -/
theorem linked_renderConstProcessPattern {m : ProcessPatternRulesMgr}
    (h : m.toPolicyTexts.Linked) : (renderConstProcessPattern m).toPolicyTexts.Linked := by
  rw [renderConstProcessPattern_eq]
  exact ⟨(if_neg (constPatterns_ne_empty (List.cons_ne_nil _ _))).symm, h.trust⟩

/-- `set_global_trust_dir` renders linked texts. -/
theorem linked_renderTrustDirs {m : ProcessPatternRulesMgr} (h : m.toPolicyTexts.Linked)
    {dirs : List GlobalTrustDir} (hdirs : ∀ dir ∈ dirs, '\n' ∉ dir.dir.toList) :
    (renderTrustDirs dirs m).toPolicyTexts.Linked := by
  have hcount : (trustDirPatterns (dirs.zipIdx.take 50)).toList.count '\n' =
      (dirs.take 50).length := by
    rw [count_trustDirPatterns fun item hitem => hdirs item.1
      (List.fst_mem_of_mem_zipIdx (List.mem_of_mem_take hitem))]
    simp
  rw [renderTrustDirs_eq]
  exact ⟨h.const, by rw [hcount]⟩

/-- `set_pattern_rules` writes nothing when the patterns are those that were backed up. -/
theorem patternsHasChanged_eq_false {m : ProcessPatternRulesMgr} :
    patternsHasChanged m = false ↔
      m.preGlobalTrustDirPatterns = m.globalTrustDirPatterns ∧
        m.preConstFilePatterns = m.constFilePatterns := by
  simp [patternsHasChanged]

/-- `set_pattern_rules` does not change the texts. -/
theorem setPatternRules_toPolicyTexts (m : ProcessPatternRulesMgr) :
    (setPatternRules m).1.toPolicyTexts = m.toPolicyTexts := by
  rw [setPatternRules]
  split <;> rfl

/-- The patterns are backed up after `set_pattern_rules`. -/
theorem patternsHasChanged_setPatternRules (m : ProcessPatternRulesMgr) :
    patternsHasChanged (setPatternRules m).1 = false := by
  rw [setPatternRules]
  split
  · exact patternsHasChanged_eq_false.mpr ⟨rfl, rfl⟩
  · rename_i h
    exact eq_false_of_ne_true h

/-- The two writes that clear the tables. -/
theorem Tables.writeAll_clear (k : Tables) (ws : List Write) :
    k.writeAll (clearFilePattern :: clearDpiRules :: ws) = Tables.writeAll {} ws := rfl

/-- The calls on the manager. -/
inductive Call
  | init
  | addConstProcessPattern
  | setGlobalTrustDir (globalTrustDirs : List GlobalTrustDir)

/-- Carry out a call. -/
def Call.apply : Call → ProcessPatternRulesMgr → ProcessPatternRulesMgr × List Write
  | .init => Process.init
  | .addConstProcessPattern => Process.addConstProcessPattern
  | .setGlobalTrustDir dirs => Process.setGlobalTrustDir dirs

/-- No directory of the call has a line break in it. -/
def Call.OneLine : Call → Prop
  | .setGlobalTrustDir dirs => ∀ dir ∈ dirs, '\n' ∉ dir.dir.toList
  | _ => True

/-- What a call does: nothing, or it renders linked texts, keeps the backup and sets the rules. -/
theorem Call.apply_cases (call : Call) (m : ProcessPatternRulesMgr) :
    call.apply m = (m, []) ∨
      ∃ m' : ProcessPatternRulesMgr, call.apply m = setPatternRules m' ∧
        m'.preGlobalTrustDirPatterns = m.preGlobalTrustDirPatterns ∧
        m'.preConstFilePatterns = m.preConstFilePatterns ∧
        (call.OneLine → m.toPolicyTexts.Linked → m'.toPolicyTexts.Linked) := by
  cases call with
  | init =>
    simp only [Call.apply, Process.init]
    split
    · exact .inl rfl
    · refine .inr ⟨_, rfl, ?_, ?_, fun _ h => linked_renderConstProcessPattern h⟩
      · rw [renderConstProcessPattern_eq]
      · rw [renderConstProcessPattern_eq]
  | addConstProcessPattern =>
    refine .inr ⟨_, rfl, ?_, ?_, fun _ h => linked_renderConstProcessPattern h⟩
    · rw [renderConstProcessPattern_eq]
    · rw [renderConstProcessPattern_eq]
  | setGlobalTrustDir dirs =>
    refine .inr ⟨_, rfl, ?_, ?_, fun hdirs h => linked_renderTrustDirs h hdirs⟩
    · rw [renderTrustDirs_eq]
    · rw [renderTrustDirs_eq]

/-- The manager and the kernel tables. -/
structure Loaded where
  mgr : ProcessPatternRulesMgr
  tables : Tables

namespace Loaded

/-- The calls on a new manager, with empty tables at the start. -/
def system : Runs.System Loaded Call where
  init s := s = ⟨{}, {}⟩
  step s call := some ⟨(call.apply s.mgr).1, s.tables.writeAll (call.apply s.mgr).2⟩

/-- The tables hold what `load_pattern_rules` writes into empty tables. -/
def Mirrors (s : Loaded) : Prop :=
  s.tables = Tables.writeAll {} (loadPatternRules s.mgr.toPolicyTexts)

/-- The tables hold the texts, the patterns are backed up and the rules belong to them. -/
structure InStep (s : Loaded) : Prop where
  mirrors : s.Mirrors
  backedUp : patternsHasChanged s.mgr = false
  linked : s.mgr.toPolicyTexts.Linked

/-- New texts are loaded when their patterns differ from those that are backed up; if they do
not differ, the texts are the old ones. -/
theorem InStep.setPatternRules {s : Loaded} (h : s.InStep) {m : ProcessPatternRulesMgr}
    (hlinked : m.toPolicyTexts.Linked)
    (htrust : m.preGlobalTrustDirPatterns = s.mgr.preGlobalTrustDirPatterns)
    (hconst : m.preConstFilePatterns = s.mgr.preConstFilePatterns) :
    InStep ⟨(Process.setPatternRules m).1, s.tables.writeAll (Process.setPatternRules m).2⟩ := by
  refine ⟨?_, patternsHasChanged_setPatternRules m, ?_⟩
  · rw [Mirrors, setPatternRules_toPolicyTexts, Process.setPatternRules]
    cases hchanged : patternsHasChanged m with
    | true =>
      rw [if_pos rfl]
      exact Tables.writeAll_clear _ _
    | false =>
      rw [if_neg Bool.false_ne_true]
      have hnew := patternsHasChanged_eq_false.mp hchanged
      have hold := patternsHasChanged_eq_false.mp h.backedUp
      have hsame : m.toPolicyTexts = s.mgr.toPolicyTexts :=
        hlinked.eq h.linked (by rw [← hnew.2, ← hold.2, hconst])
          (by rw [← hnew.1, ← hold.1, htrust])
      rw [hsame]
      exact h.mirrors
  · rw [setPatternRules_toPolicyTexts]
    exact hlinked

/-- A call keeps the tables in step. -/
theorem InStep.apply {s : Loaded} (h : s.InStep) {call : Call} (hcall : call.OneLine) :
    InStep ⟨(call.apply s.mgr).1, s.tables.writeAll (call.apply s.mgr).2⟩ := by
  obtain hidle | ⟨m, hset, htrust, hconst, hlinked⟩ := call.apply_cases s.mgr
  · rw [hidle]
    exact h
  · rw [hset]
    exact h.setPatternRules (hlinked hcall h.linked) htrust hconst

/-- The tables are in step all along a run. -/
theorem inStep_of_reaches {s : Loaded} (hs : system.Reaches (fun _ call => call.OneLine) s) :
    s.InStep := by
  refine hs.invariant ?_ ?_
  · rintro s rfl
    exact ⟨rfl, rfl, ⟨rfl, rfl⟩⟩
  · intro s call s' h hcall hstep
    obtain rfl := Option.some.inj hstep
    exact h.apply hcall

/-- A call that leaves the patterns as they are writes nothing. -/
theorem InStep.writes_eq_nil {s : Loaded} (h : s.InStep) {call : Call}
    (hconst : (call.apply s.mgr).1.constFilePatterns = s.mgr.constFilePatterns)
    (htrust : (call.apply s.mgr).1.globalTrustDirPatterns = s.mgr.globalTrustDirPatterns) :
    (call.apply s.mgr).2 = [] := by
  obtain hidle | ⟨m, hset, hpreTrust, hpreConst, -⟩ := call.apply_cases s.mgr
  · rw [hidle]
  · have htexts : (Process.setPatternRules m).1.toPolicyTexts = m.toPolicyTexts :=
      setPatternRules_toPolicyTexts m
    have hold := patternsHasChanged_eq_false.mp h.backedUp
    have hsame : patternsHasChanged m = false := by
      refine patternsHasChanged_eq_false.mpr ⟨?_, ?_⟩
      · rw [hpreTrust, hold.1, ← htrust, hset, htexts]
      · rw [hpreConst, hold.2, ← hconst, hset, htexts]
    rw [hset, Process.setPatternRules, hsame, if_neg Bool.false_ne_true]

/-- Whatever calls have been made, the tables hold the current texts, a call that leaves the
patterns as they are leaves the rules as they are, and a call that changes no text writes
nothing. -/
theorem process_tables_in_step {s : Loaded}
    (hs : system.Reaches (fun _ call => call.OneLine) s) :
    s.Mirrors ∧
      (∀ call : Call, call.OneLine →
        (call.apply s.mgr).1.constFilePatterns = s.mgr.constFilePatterns →
        (call.apply s.mgr).1.globalTrustDirPatterns = s.mgr.globalTrustDirPatterns →
        (call.apply s.mgr).1.toPolicyTexts = s.mgr.toPolicyTexts) ∧
      ∀ call : Call, (call.apply s.mgr).1.toPolicyTexts = s.mgr.toPolicyTexts →
        (call.apply s.mgr).2 = [] := by
  have h := inStep_of_reaches hs
  refine ⟨h.mirrors, fun call hcall hconst htrust => ?_, fun call hsame => ?_⟩
  · exact (h.apply hcall).linked.eq h.linked hconst htrust
  · exact h.writes_eq_nil (by rw [hsame]) (by rw [hsame])

/-- A manager that is initialised and given a trusted directory. -/
def oneDir : List Call := [.init, .setGlobalTrustDir [⟨"/opt/app", 1, 0⟩]]

/-- The tables are in step after one directory. -/
theorem process_tables_in_step_oneDir :
    ∃ s, system.exec ⟨{}, {}⟩ oneDir = some s ∧ s.Mirrors := by
  have hcalls : ∀ call ∈ oneDir, ∀ _ : Loaded, call.OneLine := by
    intro call hcall _
    simp only [oneDir, List.mem_cons, List.not_mem_nil, or_false] at hcall
    obtain rfl | rfl := hcall
    · trivial
    · simp only [Call.OneLine, List.mem_singleton, forall_eq]
      decide
  have hexec : system.exec ⟨{}, {}⟩ oneDir = some _ := rfl
  have hstart : system.Reaches (fun _ call => call.OneLine) ⟨{}, {}⟩ := .init rfl
  exact ⟨_, hexec, (process_tables_in_step (hstart.exec (.of_forall hcalls _) hexec)).1⟩

end Loaded

end LinuxAgent.Pattern.Process
