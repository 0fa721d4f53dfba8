import LinuxAgent.Lib.Text

/-!
# The pattern manager

`PatternRulesMgr` keeps the policy as texts: for each kind of policy the patterns and
the rules that the kernel is to match, and the processes that are exempt. An update
renders its part of the policy anew, and the texts are loaded into three kernel
tables when the nine texts that are compared have changed.
-/

namespace LinuxAgent.Pattern

/-- `GlobalTrustDir`. -/
structure GlobalTrustDir where
  dir : String
  /-- The field `type`, a `u8`. -/
  typ : ℕ
  isExtend : ℕ
  deriving DecidableEq

/-- `POLICY_EXIPOR_PROTECT`. -/
structure PolicyExiporProtect where
  fileType : String
  /-- The field `type`, a `u8`. -/
  typ : ℕ
  /-- The map from hashes to process names, in the order in which it is iterated. -/
  mapComm : List (String × String)
  deriving DecidableEq

/-- `POLICY_PROTECT_DIR`, with the fields that are read. -/
structure PolicyProtectDir where
  dir : String
  /-- A `u8`. -/
  protectRw : ℕ
  /-- The field `type`, a `u8`. -/
  typ : ℕ
  isExtend : ℕ
  includeFile : String
  /-- The field `protect_file`. -/
  fileExt : String
  isWhite : String
  whiteHash : String
  deriving DecidableEq

/-- The texts that `patterns_has_changed` compares. -/
structure ComparedTexts where
  globalTrustDirPatterns : String := ""
  exiportDirPatterns : String := ""
  constFilePatterns : String := ""
  protectDirPatterns : String := ""
  protectDirWhitePatterns : String := ""
  protectDirIncludeExePatterns : String := ""
  protectDirExcludeExePatterns : String := ""
  exiportTrueProcess : String := ""
  protectTrueProcess : String := ""
  deriving DecidableEq

/-- The texts that are not compared. -/
structure RuleTexts where
  constFileRules : String := ""
  globalTrustDirRules : String := ""
  exiportDirRules : String := ""
  protectDirRules : String := ""
  protectDirWhiteRules : String := ""
  protectDirIncludeExeRules : String := ""
  protectDirExcludeExeRules : String := ""
  deriving DecidableEq

/-- The texts of the policy. -/
structure PolicyTexts extends ComparedTexts, RuleTexts
  deriving DecidableEq

/-- The texts of `PatternRulesMgr`: those of the policy and, under `pre`, the compared
ones as they were when the policy was last loaded. -/
structure PatternRulesMgr extends PolicyTexts where
  pre : ComparedTexts := {}
  deriving DecidableEq

/-- The lines of `/proc/osec/dpi/file_patterns`, `rules` and `true_process_rt`. -/
structure Kernel where
  filePatterns : List String := []
  rules : List String := []
  trueProcess : List String := []
  deriving DecidableEq

/-- What a write does to a table: `c` clears it, `b` has no effect on its lines, and
any other text appends its lines. -/
def writeTable (content : String) (lines : List String) : List String :=
  if content = "c\n" then []
  else if content = "b\n" then lines
  else lines ++ Text.lines content

/-- A write to `file_patterns`. -/
def Kernel.writePatterns (content : String) (k : Kernel) : Kernel :=
  { k with filePatterns := writeTable content k.filePatterns }

/-- A write to `rules`. -/
def Kernel.writeRules (content : String) (k : Kernel) : Kernel :=
  { k with rules := writeTable content k.rules }

/-- A write to `true_process_rt`. -/
def Kernel.writeTrueProcess (content : String) (k : Kernel) : Kernel :=
  { k with trueProcess := writeTable content k.trueProcess }

/-- `clear_file_pattern`. -/
def clearFilePattern (k : Kernel) : Kernel := k.writePatterns "c\n"

/-- `clear_dpi_rules`. -/
def clearDpiRules (k : Kernel) : Kernel := k.writeRules "c\n"

/-- `clear_true_process`. -/
def clearTrueProcess (k : Kernel) : Kernel := k.writeTrueProcess "c\n"

/-- `build_file_pattern`. -/
def buildFilePattern (k : Kernel) : Kernel := k.writePatterns "b\n"

/-- `load_pattern_rules`. -/
def loadPatternRules (m : PolicyTexts) (k : Kernel) : Kernel := Id.run do
  let mut k := k
  if m.constFilePatterns ≠ "" then
    k := k.writePatterns m.constFilePatterns
    k := k.writeRules m.constFileRules
  if m.globalTrustDirPatterns ≠ "" then
    k := k.writePatterns m.globalTrustDirPatterns
    k := k.writeRules m.globalTrustDirRules
  if m.exiportDirPatterns ≠ "" then
    k := k.writePatterns m.exiportDirPatterns
    k := k.writeRules m.exiportDirRules
  if m.protectDirPatterns ≠ "" then
    k := k.writePatterns m.protectDirPatterns
  if m.protectDirRules ≠ "" then
    k := k.writeRules m.protectDirRules
  if m.protectDirWhitePatterns ≠ "" then
    k := k.writePatterns m.protectDirWhitePatterns
    k := k.writeRules m.protectDirWhiteRules
  if m.protectDirIncludeExePatterns ≠ "" then
    k := k.writePatterns m.protectDirIncludeExePatterns
    k := k.writeRules m.protectDirIncludeExeRules
  if m.protectDirExcludeExePatterns ≠ "" then
    k := k.writePatterns m.protectDirExcludeExePatterns
    k := k.writeRules m.protectDirExcludeExeRules
  if m.protectTrueProcess ≠ "" then
    k := k.writeTrueProcess m.protectTrueProcess
  if m.exiportTrueProcess ≠ "" then
    k := k.writeTrueProcess m.exiportTrueProcess
  return buildFilePattern k

/-- `patterns_has_changed`. -/
def patternsHasChanged (m : PatternRulesMgr) : Bool :=
  m.pre.globalTrustDirPatterns ≠ m.globalTrustDirPatterns ||
    m.pre.exiportDirPatterns ≠ m.exiportDirPatterns ||
    m.pre.constFilePatterns ≠ m.constFilePatterns ||
    m.pre.protectDirPatterns ≠ m.protectDirPatterns ||
    m.pre.protectDirWhitePatterns ≠ m.protectDirWhitePatterns ||
    m.pre.protectDirIncludeExePatterns ≠ m.protectDirIncludeExePatterns ||
    m.pre.protectDirExcludeExePatterns ≠ m.protectDirExcludeExePatterns ||
    m.pre.exiportTrueProcess ≠ m.exiportTrueProcess ||
    m.pre.protectTrueProcess ≠ m.protectTrueProcess

/-- `patterns_backup`. -/
def patternsBackup (m : PatternRulesMgr) : PatternRulesMgr :=
  { m with
    pre := {
      globalTrustDirPatterns := m.globalTrustDirPatterns
      exiportDirPatterns := m.exiportDirPatterns
      constFilePatterns := m.constFilePatterns
      protectDirPatterns := m.protectDirPatterns
      protectDirWhitePatterns := m.protectDirWhitePatterns
      protectDirIncludeExePatterns := m.protectDirIncludeExePatterns
      protectDirExcludeExePatterns := m.protectDirExcludeExePatterns
      exiportTrueProcess := m.exiportTrueProcess
      protectTrueProcess := m.protectTrueProcess } }

/-- `set_pattern_rules`. -/
def setPatternRules (m : PatternRulesMgr) (k : Kernel) : PatternRulesMgr × Kernel :=
  if patternsHasChanged m then
    let k := clearTrueProcess (clearDpiRules (clearFilePattern k))
    (patternsBackup m, loadPatternRules m.toPolicyTexts k)
  else (m, k)

/-- The constant texts of `add_file_pattern`. -/
def renderFilePattern (m : PatternRulesMgr) : PatternRulesMgr :=
  { m with
    constFilePatterns :=
      "name=self_1,key=/var/lib/dpkg/info/osec.\n" ++
      "name=self_2,key=/opt/osec,pkt_len=-1,case_offset=1\n" ++
      "name=self_3,key=/opt/osec/,case_offset=1\n" ++
      "name=self_4,key=/etc/systemd/system/multi-user.target.wants/osec.\n" ++
      "name=self_5,key=/etc/systemd/system/multi-user.target.wants/agent_manager.\n"
    constFileRules :=
      "target=self,pattern=self_1,type=3\n" ++
      "target=self,pattern=self_2,type=3\n" ++
      "target=self,pattern=self_3,type=3\n" ++
      "target=self,pattern=self_4,type=3\n" ++
      "target=self,pattern=self_5,type=3\n" }

/-- One iteration of the loop of `set_global_trust_dir`. -/
def pushGlobalTrustDir (m : PatternRulesMgr) (item : GlobalTrustDir × ℕ) : PatternRulesMgr :=
  let (dir, i) := item
  let name := s!"trueDir_{i}"
  let extend := if dir.isExtend = 0 then ",isnot_extend=1" else ""
  let depth := if dir.typ = 1 then s!",depth={dir.dir.utf8ByteSize}" else ",pkt_len=-1"
  { m with
    globalTrustDirPatterns := m.globalTrustDirPatterns ++
      s!"name={name},key={dir.dir}" ++ extend ++ depth ++ ",case_offset=1\n"
    globalTrustDirRules := m.globalTrustDirRules ++ s!"target=TDir_rule,type=0,pattern={name}\n" }

/-- The texts of `set_global_trust_dir`, which takes 50 directories at most. -/
def renderGlobalTrustDir (dirs : List GlobalTrustDir) (m : PatternRulesMgr) : PatternRulesMgr :=
  (dirs.zipIdx.take 50).foldl pushGlobalTrustDir
    { m with globalTrustDirPatterns := "", globalTrustDirRules := "" }

/-- One iteration of the loop of `set_exiport_dir`, which also counts the policies with
trusted processes. -/
def pushExiportDir (acc : PatternRulesMgr × ℕ) (item : PolicyExiporProtect × ℕ) :
    PatternRulesMgr × ℕ :=
  let (m, number) := acc
  let (policy, i) := item
  let name := s!"exiportInfo_{i}"
  let len := policy.fileType.utf8ByteSize
  let key :=
    if policy.typ = 1 then ",key=." ++ policy.fileType ++ s!",offset=-{len + 1}"
    else ",case_offset=1" ++ ",key=" ++ policy.fileType ++ s!",depth={len}"
  let action := if policy.typ = 1 then ",action=3" else ""
  let patterns := m.exiportDirPatterns ++ s!"name={name}" ++ key ++ "\n"
  let rules := m.exiportDirRules ++ s!"target={name},pattern={name}" ++ action
  if policy.mapComm = [] then
    ({ m with exiportDirPatterns := patterns, exiportDirRules := rules ++ ",type=1\n" }, number)
  else
    let ruleId := toString (number + 1)
    let lines := policy.mapComm.map fun comm => s!"{comm.1},{ruleId},99\n"
    ({ m with
      exiportDirPatterns := patterns
      exiportDirRules := rules ++ s!",TPNC={ruleId}" ++ ",type=1\n"
      exiportTrueProcess := m.exiportTrueProcess ++ String.join lines }, number + 1)

/-- The texts of `set_exiport_dir`, which takes 50 policies at most. -/
def renderExiportDir (exports : List PolicyExiporProtect) (m : PatternRulesMgr) : PatternRulesMgr :=
  ((exports.zipIdx.take 50).foldl pushExiportDir
    ({ m with exiportDirPatterns := "", exiportDirRules := "", exiportTrueProcess := "" }, 0)).1

/-- The texts that `set_protect_dir` and `clear_protect_dir` empty. -/
def clearProtectTexts (m : PatternRulesMgr) : PatternRulesMgr :=
  { m with
    protectDirPatterns := "", protectDirWhitePatterns := "", protectDirRules := ""
    protectDirWhiteRules := "", protectDirIncludeExePatterns := "", protectDirIncludeExeRules := ""
    protectDirExcludeExePatterns := "", protectDirExcludeExeRules := "", protectTrueProcess := "" }

/-- One iteration of the loop of `set_protect_dir`. -/
def pushProtectDir (acc : PatternRulesMgr × ℕ) (item : PolicyProtectDir × ℕ) :
    PatternRulesMgr × ℕ :=
  let (m, number) := acc
  let (dir, i) := item
  let hasWhiteHash := dir.whiteHash ≠ ""
  let number := if hasWhiteHash then number + 1 else number
  let m :=
    if hasWhiteHash then
      let lines := (Text.split ',' dir.whiteHash).map fun hash => s!"{hash},{number},88\n"
      { m with protectTrueProcess := m.protectTrueProcess ++ String.join lines }
    else m
  let m :=
    if dir.isWhite ≠ "" then
      let paths := (Text.split '|' dir.isWhite).zipIdx
      { m with
        protectDirWhitePatterns :=
          m.protectDirWhitePatterns ++ String.join (paths.map fun (path, j) =>
          s!"name=protectExcludeDir_{i}_{j},key={path}\n")
        protectDirWhiteRules := m.protectDirWhiteRules ++ String.join (paths.map fun (_, j) =>
          s!"target=protectExcludeDir,pattern=protectExcludeDir_{i}_{j},type=2,action=1," ++
          s!"rule_idx={i},level=1\n") }
    else m
  let extend := if dir.isExtend = 0 then ",isnot_extend=1" else ""
  let depth :=
    if dir.typ = 1 then extend ++ s!",depth={dir.dir.utf8ByteSize},case_offset=1"
    else ",case_offset=1,pkt_len=-1"
  let m := { m with
    protectDirPatterns := m.protectDirPatterns ++
      s!"name=ProtectDir_{i},type=2,key={dir.dir}" ++ depth ++ "\n" }
  let tpnc := if hasWhiteHash then s!",TPNC={number}" else ""
  let dirRule :=
    s!"target=ProtectDir_{i},pattern=ProtectDir_{i},rule_idx={i},protect_rw={dir.protectRw}" ++
      tpnc ++ ",type=2\n"
  let m :=
    if dir.includeFile ≠ "" then
      let suffixes := (Text.split '|' dir.includeFile).zipIdx
      { m with
        protectDirIncludeExePatterns := m.protectDirIncludeExePatterns ++
          String.join (suffixes.map fun (suffix, j) =>
            s!"name=protectIncFileExe_{i}_{j},key=.{suffix},offset=-{suffix.utf8ByteSize + 1}\n")
        protectDirIncludeExeRules := m.protectDirIncludeExeRules ++
          String.join (suffixes.map fun (_, j) =>
            s!"target=protectIncFileExe_{i},pattern=ProtectDir_{i}>protectIncFileExe_{i}_{j}," ++
            s!"rule_idx={i},action=3,protect_rw={dir.protectRw}" ++ tpnc ++ ",type=2\n") }
    else if dir.fileExt ≠ "" then
      let suffixes := (Text.split '|' dir.fileExt).zipIdx
      { m with
        protectDirRules := m.protectDirRules ++ dirRule
        protectDirExcludeExePatterns := m.protectDirExcludeExePatterns ++
          String.join (suffixes.map fun (suffix, j) =>
            s!"name=protectExcFileExe_{i}_{j},key=.{suffix},offset=-{suffix.utf8ByteSize + 1}\n")
        protectDirExcludeExeRules := m.protectDirExcludeExeRules ++
          String.join (suffixes.map fun (_, j) =>
           s!"target=protectExcFileExe_{i}_{j},pattern=ProtectDir_{i}>protectExcFileExe_{i}_{j}," ++
           s!"rule_idx={i},action=2,type=2\n") }
    else { m with protectDirRules := m.protectDirRules ++ dirRule }
  (m, number)

/-- The texts of `set_protect_dir`, which takes 50 directories at most. -/
def renderProtectDir (dirs : List PolicyProtectDir) (m : PatternRulesMgr) : PatternRulesMgr :=
  ((dirs.zipIdx.take 50).foldl pushProtectDir (clearProtectTexts m, 0)).1

/-- `add_file_pattern`. -/
def addFilePattern (enable : Bool) (m : PatternRulesMgr) (k : Kernel) : PatternRulesMgr × Kernel :=
  if !enable then (m, k) else setPatternRules (renderFilePattern m) k

/-- `set_global_trust_dir`. -/
def setGlobalTrustDir (dirs : List GlobalTrustDir) (m : PatternRulesMgr) (k : Kernel) :
    PatternRulesMgr × Kernel :=
  setPatternRules (renderGlobalTrustDir dirs m) k

/-- `set_exiport_dir`. -/
def setExiportDir (exports : List PolicyExiporProtect) (m : PatternRulesMgr) (k : Kernel) :
    PatternRulesMgr × Kernel :=
  setPatternRules (renderExiportDir exports m) k

/-- `clear_exiport_dir`, which keeps the trusted processes. -/
def clearExiportDir (m : PatternRulesMgr) (k : Kernel) : PatternRulesMgr × Kernel :=
  setPatternRules { m with exiportDirPatterns := "", exiportDirRules := "" } k

/-- `set_protect_dir`. -/
def setProtectDir (dirs : List PolicyProtectDir) (m : PatternRulesMgr) (k : Kernel) :
    PatternRulesMgr × Kernel :=
  setPatternRules (renderProtectDir dirs m) k

/-- `clear_protect_dir`. -/
def clearProtectDir (m : PatternRulesMgr) (k : Kernel) : PatternRulesMgr × Kernel :=
  setPatternRules (clearProtectTexts m) k

end LinuxAgent.Pattern
