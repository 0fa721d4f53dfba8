import LinuxAgent.Lib.Text
import LinuxAgent.Lib.Utf8
import LinuxAgent.Reporter.Bodies

/-!
# Audits of processes

The kernel writes a record of every process that is started into a ring and announces ranges of it.
The handler makes up to three logs of a record and uploads each kind. What the server reads are the
logs of the announced records, in the order of the ring.

The kernel judges a process in the mode it is in, which may lag behind the configuration. The alerts
follow the configuration: in whichever mode the kernel was, they are the same.
-/

namespace LinuxAgent.Reporter

open Json

/-- A record of the ring. The first bytes hold the numbers of the process, or its hash if it runs in
a container. -/
structure AvProcessInfo where
  unionData : Vector UInt8 16
  type_ : Int32
  flags : UInt32
  path : Vector UInt8 512
  deriving DecidableEq

/-- The number in four bytes, on a little-endian machine. -/
def leInt32 (bytes : List UInt8) : Int32 :=
  (UInt32.ofNat (bytes.foldr (fun b n => b.toNat + 256 * n) 0)).toInt32

namespace AvProcessInfo

/-- `pid`. -/
def pid (info : AvProcessInfo) : Int32 := leInt32 (info.unionData.toList.take 4)

/-- `ppid`. -/
def ppid (info : AvProcessInfo) : Int32 := leInt32 ((info.unionData.toList.drop 4).take 4)

/-- `uid`. -/
def uid (info : AvProcessInfo) : Int32 := leInt32 ((info.unionData.toList.drop 8).take 4)

/-- The field `level` of `flags_parsed`. -/
def level (info : AvProcessInfo) : ℕ := ((info.flags >>> 16) &&& 7).toNat

/-- `is_docker_process`. -/
def isDockerProcess (info : AvProcessInfo) : Bool := (info.flags >>> 21) &&& 1 ≠ 0

/-- The path up to the byte that ends it, if it is valid. -/
def pathStr (info : AvProcessInfo) : Option String :=
  (Utf8.decode (info.path.toList.takeWhile (· ≠ 0))).map String.ofList

end AvProcessInfo

/-- `bin_to_hex`. -/
def binToHex (data : List UInt8) : String :=
  String.ofList (data.flatMap fun b => [Nat.digitChar (b.toNat / 16), Nat.digitChar (b.toNat % 16)])

/-- The part of the configuration that the audit reads. -/
structure ProcessConfig where
  procSwitch : Bool
  procProtect : Bool
  syslogProcessSwitch : Bool
  deriving DecidableEq

/-- What the audit uses of the rest of the agent. -/
structure ProcessEnv where
  fileExists : String → Bool
  /-- `get_md5_global`. -/
  getMd5Global : String → Except String String
  /-- `get_user_name`. -/
  getUserName : UInt32 → String
  /-- `get_process_path`. -/
  getProcessPath : UInt32 → Option String
  /-- A client for the uploads can be created. -/
  netClient : Bool

/-- The type and the level that are reported, given those of the kernel. -/
def compensate (procProtect : Bool) (nType : UInt16) (nLevel : ℕ) : UInt16 × ℕ :=
  if procProtect then
    if nLevel = 2 ∨ nType = 1001 ∨ nType = 1002 then
      (if nType = 1001 then 1101 else if nType = 1002 then 1102 else nType, 3)
    else (nType, nLevel)
  else
    if nLevel = 3 ∨ nType = 1101 ∨ nType = 1102 then
      (if nType = 1101 then 1001 else if nType = 1102 then 1002 else nType, 2)
    else (nType, nLevel)

/-- The logs of one or more records. -/
structure ProcessLogs where
  processvec : List AuditProcess
  loginfo : List AuditLogInfo
  edrLogs : List EdrProcessLog

section Audit

variable (env : ProcessEnv) (cfg : ProcessConfig)

/-- The program of a record and its hash. Without them there are no logs. -/
def programOf (info : AvProcessInfo) (pDir : String) : Option (String × String) :=
  if info.isDockerProcess then some (pDir ++ ";docker", binToHex info.unionData.toList)
  else if pDir = "" ∨ env.fileExists pDir = false then none
  else (env.getMd5Global pDir).toOption.map fun hash => (pDir, hash)

/-- The process that is reported as started. -/
def auditProcess (info : AvProcessInfo) (program : String × String) : List AuditProcess :=
  if cfg.procSwitch ∧ (info.type_ = 1101 ∨ info.type_ = 1001) then
    [{ nProcessId := info.pid.toUInt32
       strExecutablePath := program.1
       strUser := env.getUserName info.uid.toUInt32
       hash := program.2 }]
  else []

/-- The alert. -/
def processAlert (info : AvProcessInfo) (program : String × String) : List AuditLogInfo :=
  let verdict := compensate cfg.procProtect info.type_.toUInt32.toUInt16 info.level
  if cfg.procSwitch ∧ 0 < verdict.2 ∧ 0 < verdict.1 then
    [{ filePath := some program.1
       renameDir := none
       exceptionProcess := none
       md5 := some program.2
       nType := verdict.1.toNat
       nLevel := verdict.2
       nTime := 1692760326
       noticeRemark := none
       peripheralName := none
       peripheralRemark := none
       peripheralEid := none
       pParam := none }]
  else []

/-- The program of the parent and its hash. A program that is not there has none. -/
def parentOf (info : AvProcessInfo) (parts : List String) : Option (String × String) :=
  ((parts[1]?.or (env.getProcessPath info.ppid.toUInt32)).bind fun ppDir =>
    if env.fileExists ppDir then
      (env.getMd5Global ppDir).toOption.map fun ppHash => (ppDir, ppHash)
    else none).filter fun parent => parent.2 ≠ ""

/-- The log of the process with its parent. -/
def edrLog (info : AvProcessInfo) (parts : List String) (program : String × String) :
    List EdrProcessLog :=
  if info.isDockerProcess = false ∧ cfg.syslogProcessSwitch then
    (parentOf env info parts).toList.map fun parent =>
      { uid := toString info.uid.toInt
        hash := program.2
        pId := info.pid
        pDir := program.1
        pParam := none
        ppHash := parent.2
        ppId := info.ppid
        ppDir := parent.1
        ppParam := none
        time := 1692760326
        logType := 4 }
  else []

/-- `process_one`. -/
def processOne (info : AvProcessInfo) : ProcessLogs :=
  let logs := do
    let parts ← info.pathStr.map (Text.split ';')
    let program ← programOf env info (parts.headD "")
    some (ProcessLogs.mk (auditProcess env cfg info program) (processAlert cfg info program)
      (edrLog env cfg info parts program))
  logs.getD ⟨[], [], []⟩

/-- The vectors with what a further record adds to them. -/
def ProcessLogs.push (logs more : ProcessLogs) : ProcessLogs where
  processvec := logs.processvec ++ more.processvec
  loginfo := logs.loginfo ++ more.loginfo
  edrLogs := logs.edrLogs ++ more.edrLogs

/-- A ring of `n` records in the memory that is shared with the kernel. -/
structure AuditRing (α : Type) (n : ℕ) where
  records : Fin n → α
  auditSucceed : Bool
  /-- The ring holds something. -/
  count_pos : 0 < n

/-- The record at an index, counted round the ring. -/
def AuditRing.get {α : Type} {n : ℕ} (ring : AuditRing α n) (idx : ℕ) : Option α :=
  if ring.auditSucceed then some (ring.records ⟨idx % n, Nat.mod_lt idx ring.count_pos⟩) else none

/-- The records that are announced, in the order in which they are visited. -/
def AuditRing.visited {α : Type} {n : ℕ} (ring : AuditRing α n) (netlog : NetlinkNetlog) :
    List α :=
  netlog.indices.filterMap ring.get

/-- `iterate`. -/
def iterate (get : ℕ → Option AvProcessInfo) (start stop : UInt32) (logs : ProcessLogs) :
    ProcessLogs :=
  (List.range' start.toNat (stop.toNat - start.toNat)).foldl
    (fun logs idx => ((get idx).map fun info => logs.push (processOne env cfg info)).getD logs) logs

/-- The uploads: the path and the body of each. A list without logs is not uploaded. -/
def processUploads (logs : ProcessLogs) : List (String × String) :=
  [("/v1/autouploadprocess", buildAutoProcessListJson env.getMd5Global logs.processvec),
    ("/v1/alertupload", buildAlertLogJson alertToJson logs.loginfo),
    ("/v1/putsyslog", buildBatchProcessEdrJson logs.edrLogs)].filterMap fun upload =>
      upload.2.toOption.map fun text => (upload.1, text)

/-- `handle_process_zcopy_oper`. -/
def handleProcessZcopyOper {n : ℕ} (ring : AuditRing AvProcessInfo n) (netlog : NetlinkNetlog)
    (dataLen : UInt32) : Except String (List (String × String)) :=
  if dataLen < netlinkNetlogSize then
    .error ("数据长度太小，期望至少 " ++ toString netlinkNetlogSize.toNat ++ " 字节，实际是 " ++
      toString dataLen.toNat ++ " 字节")
  else if ring.auditSucceed = false then
    .error "ZcopyMgr file audit not initialized"
  else if netlog.maxIdx = 0 ∧ netlog.endIdx ≤ netlog.startIdx then
    .error ("无效索引范围: start_idx=" ++ toString netlog.startIdx.toNat ++ " >= end_idx=" ++
      toString netlog.endIdx.toNat)
  else if env.netClient = false then .error "创建 NetClient 失败"
  else if netlog.maxIdx = 0 then
    .ok (processUploads env
      (iterate env cfg ring.get netlog.startIdx netlog.endIdx ⟨[], [], []⟩))
  else
    .ok (processUploads env (iterate env cfg ring.get netlog.endIdx netlog.maxIdx
      (iterate env cfg ring.get 0 netlog.startIdx ⟨[], [], []⟩)))

/-- What the server reads of the uploads to a path. -/
def readUploads {ε : Type} (uploads : List (String × String)) (path key : String)
    (coding : Coding ε) : Option (List ε) :=
  (uploads.lookup path).bind (readBody key coding)

/-- The logs that the server reads of a list of logs. -/
def readable {α ε : Type} (logs : List α) (entry : α → ε) : Option (List ε) :=
  if logs = [] then none else some (logs.map entry)

/-- The uploads by their paths. -/
theorem lookup_processUploads (logs : ProcessLogs) :
    (processUploads env logs).lookup "/v1/autouploadprocess" =
        (buildAutoProcessListJson env.getMd5Global logs.processvec).toOption ∧
      (processUploads env logs).lookup "/v1/alertupload" =
        (buildAlertLogJson alertToJson logs.loginfo).toOption ∧
      (processUploads env logs).lookup "/v1/putsyslog" =
        (buildBatchProcessEdrJson logs.edrLogs).toOption := by
  simp only [processUploads, List.filterMap_cons, List.filterMap_nil]
  cases (buildAutoProcessListJson env.getMd5Global logs.processvec).toOption <;>
  cases (buildAlertLogJson alertToJson logs.loginfo).toOption <;>
  cases (buildBatchProcessEdrJson logs.edrLogs).toOption <;>
  simp [List.lookup_cons]

/-- What the server reads of the uploads by their paths. -/
theorem readUploads_processUploads (logs : ProcessLogs) :
    readUploads (processUploads env logs) "/v1/autouploadprocess" "proclist" processCoding =
        readable logs.processvec (AuditProcess.entry env.getMd5Global) ∧
      readUploads (processUploads env logs) "/v1/alertupload" "alert" alertCoding =
        readable logs.loginfo AuditLogInfo.entry ∧
      readUploads (processUploads env logs) "/v1/putsyslog" "list" edrCoding =
        readable logs.edrLogs EdrProcessLog.entry := by
  obtain ⟨hprocesses, halerts, hlogs⟩ := lookup_processUploads env logs
  refine ⟨?_, ?_, ?_⟩
  · rw [readUploads, hprocesses]
    exact readsBack_buildBody.entries _
  · rw [readUploads, halerts, buildAlertLogJson_alertToJson]
    exact readsBack_buildBody.entries _
  · rw [readUploads, hlogs]
    exact readsBack_buildBody.entries _

/-- The logs of several records, in their order. -/
def logsOf (reports : List AvProcessInfo) : ProcessLogs where
  processvec := reports.flatMap fun info => (processOne env cfg info).processvec
  loginfo := reports.flatMap fun info => (processOne env cfg info).loginfo
  edrLogs := reports.flatMap fun info => (processOne env cfg info).edrLogs

/-- Pushing nothing leaves the logs. -/
theorem ProcessLogs.push_nil (logs : ProcessLogs) : logs.push ⟨[], [], []⟩ = logs := by
  simp [ProcessLogs.push]

/-- Visiting indices adds the logs of their records. -/
theorem foldl_push (get : ℕ → Option AvProcessInfo) (idxs : List ℕ) (logs : ProcessLogs) :
    idxs.foldl
        (fun logs idx => ((get idx).map fun info => logs.push (processOne env cfg info)).getD logs)
        logs =
      logs.push (logsOf env cfg (idxs.filterMap get)) := by
  induction idxs generalizing logs with
  | nil => exact logs.push_nil.symm
  | cons idx idxs ih =>
    rw [List.foldl_cons, ih, List.filterMap_cons]
    cases get idx with
    | none => rfl
    | some info => simp [ProcessLogs.push, logsOf]

/-- The uploads are those of the visited records, unless there is an error. -/
theorem handleProcessZcopyOper_eq_ok {n : ℕ} {ring : AuditRing AvProcessInfo n}
    {netlog : NetlinkNetlog} {dataLen : UInt32} {uploads : List (String × String)} :
    handleProcessZcopyOper env cfg ring netlog dataLen = .ok uploads ↔
      (netlinkNetlogSize ≤ dataLen ∧ ring.auditSucceed = true ∧
        (netlog.maxIdx = 0 → netlog.startIdx < netlog.endIdx) ∧ env.netClient = true) ∧
      uploads = processUploads env (logsOf env cfg (ring.visited netlog)) := by
  have hplain {idxs : List ℕ} : (⟨[], [], []⟩ : ProcessLogs).push
      (logsOf env cfg (idxs.filterMap ring.get)) = logsOf env cfg (idxs.filterMap ring.get) := rfl
  have hvisited : (if netlog.maxIdx = 0 then
        iterate env cfg ring.get netlog.startIdx netlog.endIdx ⟨[], [], []⟩
      else iterate env cfg ring.get netlog.endIdx netlog.maxIdx
        (iterate env cfg ring.get 0 netlog.startIdx ⟨[], [], []⟩)) =
      logsOf env cfg (ring.visited netlog) := by
    rw [AuditRing.visited, NetlinkNetlog.indices]
    split
    · rw [iterate, foldl_push, hplain]
    · rw [iterate, iterate, ← List.foldl_append, foldl_push, hplain]
      rfl
  rw [handleProcessZcopyOper]
  by_cases hlen : dataLen < netlinkNetlogSize
  · simp [hlen, UInt32.not_le.mpr hlen]
  by_cases hring : ring.auditSucceed = false
  · simp [hlen, hring]
  by_cases hrange : netlog.maxIdx = 0 ∧ netlog.endIdx ≤ netlog.startIdx
  · simp [hlen, hring, hrange]
  by_cases hclient : env.netClient = false
  · simp [hlen, hring, hrange, hclient]
  rw [if_neg hlen, if_neg hring, if_neg hrange, if_neg hclient, ← apply_ite Except.ok,
    ← apply_ite (processUploads env), hvisited]
  have hnonempty (hmax : netlog.maxIdx = 0) : netlog.startIdx < netlog.endIdx :=
    UInt32.not_le.mp fun hle => hrange ⟨hmax, hle⟩
  constructor
  · intro h
    exact ⟨⟨UInt32.not_lt.mp hlen, eq_true_of_ne_false hring, hnonempty,
      eq_true_of_ne_false hclient⟩, (Except.ok.inj h).symm⟩
  · rintro ⟨-, rfl⟩
    rfl

end Audit

/-- The types of an event while the kernel monitors and while it protects. -/
def modeTypes : List (Int32 × Int32) := [(1001, 1101), (1002, 1102)]

/-- Two types of one event. -/
def SameEvent (t u : Int32) : Prop := t = u ∨ (t, u) ∈ modeTypes ∨ (u, t) ∈ modeTypes

/-- Two records of one event. Only the verdict of the kernel may differ, with its mode. -/
structure AvProcessInfo.SameButMode (a b : AvProcessInfo) : Prop where
  unionData : a.unionData = b.unionData
  path : a.path = b.path
  isDockerProcess : a.isDockerProcess = b.isDockerProcess
  verdict : (a.type_ = b.type_ ∧ a.level = b.level) ∨
    (SameEvent a.type_ b.type_ ∧ (a.level = 2 ∨ a.level = 3) ∧ (b.level = 2 ∨ b.level = 3))

/-- The verdict is one of the mode that is configured. -/
def InMode (procProtect : Bool) (nType nLevel : ℕ) : Prop :=
  if procProtect then nLevel ≠ 2 ∧ nType ≠ 1001 ∧ nType ≠ 1002
  else nLevel ≠ 3 ∧ nType ≠ 1101 ∧ nType ≠ 1102

/-- The type and the level after the compensation are in the mode. -/
theorem inMode_compensate (procProtect : Bool) (nType : UInt16) (nLevel : ℕ) :
    InMode procProtect (compensate procProtect nType nLevel).1.toNat
      (compensate procProtect nType nLevel).2 := by
  have hne {k : UInt16} (h : nType ≠ k) : nType.toNat ≠ k.toNat := fun heq =>
    h (UInt16.toNat_inj.mp heq)
  cases procProtect
  all_goals
    simp only [InMode, compensate, Bool.false_eq_true, if_false, if_true]
    split
    · split
      · decide
      · split
        · decide
        · next h1 h2 => exact ⟨by simp, hne h1, hne h2⟩
    · next h =>
      obtain ⟨hlevel, h1, h2⟩ : nLevel ≠ _ ∧ nType ≠ _ ∧ nType ≠ _ := by
        simpa only [not_or] using h
      exact ⟨hlevel, hne h1, hne h2⟩

/-- The verdict that is reported is the same in both modes of the kernel. -/
theorem compensate_eq (procProtect : Bool) {t u : Int32} (h : SameEvent t u) {l m : ℕ}
    (hl : l = 2 ∨ l = 3) (hm : m = 2 ∨ m = 3) :
    compensate procProtect t.toUInt32.toUInt16 l =
      compensate procProtect u.toUInt32.toUInt16 m := by
  have hlevel (nType : UInt16) {l : ℕ} (hl : l = 2 ∨ l = 3) :
      compensate procProtect nType l = compensate procProtect nType 2 := by
    obtain rfl | rfl := hl
    · rfl
    · cases procProtect <;> by_cases h1 : nType = 1001 <;> by_cases h2 : nType = 1002 <;>
        by_cases h3 : nType = 1101 <;> by_cases h4 : nType = 1102 <;>
        simp_all [compensate]
  have hpair {t u : Int32} (h : (t, u) ∈ modeTypes) :
      compensate procProtect t.toUInt32.toUInt16 2 =
        compensate procProtect u.toUInt32.toUInt16 2 := by
    obtain h | h : (t, u) = (1001, 1101) ∨ (t, u) = (1002, 1102) := by
      simpa only [modeTypes, List.mem_cons, List.not_mem_nil, or_false] using h
    all_goals
      obtain ⟨rfl, rfl⟩ := Prod.mk.inj h
      cases procProtect <;> rfl
  rw [hlevel _ hl, hlevel _ hm]
  obtain rfl | h | h := h
  · rfl
  · exact hpair h
  · exact (hpair h).symm

/-- A process is reported as started in both modes. -/
theorem SameEvent.started_iff {t u : Int32} (h : SameEvent t u) :
    (t = 1101 ∨ t = 1001) ↔ (u = 1101 ∨ u = 1001) := by
  have hpair {t u : Int32} (h : (t, u) ∈ modeTypes) :
      (t = 1101 ∨ t = 1001) ↔ (u = 1101 ∨ u = 1001) := by
    obtain h | h : (t, u) = (1001, 1101) ∨ (t, u) = (1002, 1102) := by
      simpa only [modeTypes, List.mem_cons, List.not_mem_nil, or_false] using h
    all_goals
      obtain ⟨rfl, rfl⟩ := Prod.mk.inj h
      decide
  obtain rfl | h | h := h
  · rfl
  · exact hpair h
  · exact (hpair h).symm

section Mode

variable (env : ProcessEnv) (cfg : ProcessConfig)

/-- The logs of a record do not depend on the mode. -/
theorem processOne_eq {a b : AvProcessInfo} (h : a.SameButMode b) :
    processOne env cfg a = processOne env cfg b := by
  have hstarted : (a.type_ = 1101 ∨ a.type_ = 1001) ↔ (b.type_ = 1101 ∨ b.type_ = 1001) := by
    obtain ⟨htype, -⟩ | ⟨hevent, -⟩ := h.verdict
    · rw [htype]
    · exact hevent.started_iff
  have hverdict : compensate cfg.procProtect a.type_.toUInt32.toUInt16 a.level =
      compensate cfg.procProtect b.type_.toUInt32.toUInt16 b.level := by
    obtain ⟨htype, hlevel⟩ | ⟨hevent, ha, hb⟩ := h.verdict
    · rw [htype, hlevel]
    · exact compensate_eq _ hevent ha hb
  have hpid : a.pid = b.pid := by rw [AvProcessInfo.pid, h.unionData]; rfl
  have hppid : a.ppid = b.ppid := by rw [AvProcessInfo.ppid, h.unionData]; rfl
  have huid : a.uid = b.uid := by rw [AvProcessInfo.uid, h.unionData]; rfl
  have hpath : a.pathStr = b.pathStr := by rw [AvProcessInfo.pathStr, h.path]; rfl
  simp only [processOne, programOf, auditProcess, processAlert, edrLog, parentOf, hpath, hpid,
    hppid, huid, hstarted, hverdict, h.unionData, h.isDockerProcess]

/-- Rings with the same events are read alike. -/
theorem iterate_eq {n : ℕ} {ring other : AuditRing AvProcessInfo n}
    (hring : other.auditSucceed = ring.auditSucceed)
    (h : ∀ i, (ring.records i).SameButMode (other.records i)) :
    iterate env cfg other.get = iterate env cfg ring.get := by
  have hget (idx : ℕ) :
      (other.get idx).map (processOne env cfg) = (ring.get idx).map (processOne env cfg) := by
    rw [AuditRing.get, AuditRing.get, hring]
    split
    · exact congrArg some (processOne_eq env cfg (h _)).symm
    · rfl
  have hpush (get : ℕ → Option AvProcessInfo) (logs : ProcessLogs) (idx : ℕ) :
      ((get idx).map fun info => logs.push (processOne env cfg info)) =
        ((get idx).map (processOne env cfg)).map logs.push := by
    rw [Option.map_map]
    rfl
  funext start stop logs
  simp only [iterate, hpush, hget]

/-- The alert of a record has a verdict of the mode that is configured. -/
theorem inMode_of_mem_loginfo {info : AvProcessInfo} {log : AuditLogInfo}
    (h : log ∈ (processOne env cfg info).loginfo) :
    InMode cfg.procProtect log.nType log.nLevel := by
  have halert {program : String × String} (h : log ∈ processAlert cfg info program) :
      InMode cfg.procProtect log.nType log.nLevel := by
    simp only [processAlert] at h
    split at h
    · rw [List.mem_singleton.mp h]
      exact inMode_compensate _ _ _
    · cases h
  rw [processOne] at h
  cases hparts : info.pathStr.map (Text.split ';') with
  | none =>
    rw [hparts] at h
    cases h
  | some parts =>
    cases hprogram : programOf env info (parts.headD "") with
    | none =>
      simp only [hparts, hprogram, Option.bind_eq_bind, Option.bind_some, Option.bind_none,
        Option.getD_none, List.not_mem_nil] at h
    | some program =>
      simp only [hparts, hprogram, Option.bind_eq_bind, Option.bind_some, Option.getD_some] at h
      exact halert h

/-- No alert contradicts the configuration, and the uploads are the same in whichever mode the
kernel was at each record. -/
theorem process_alerts_follow_config {n : ℕ} (ring : AuditRing AvProcessInfo n)
    (netlog : NetlinkNetlog) (dataLen : UInt32) :
    (∀ uploads entries, handleProcessZcopyOper env cfg ring netlog dataLen = .ok uploads →
        readUploads uploads "/v1/alertupload" "alert" alertCoding = some entries →
        ∀ e ∈ entries, InMode cfg.procProtect e.nType e.level) ∧
      ∀ other : AuditRing AvProcessInfo n, other.auditSucceed = ring.auditSucceed →
        (∀ i, (ring.records i).SameButMode (other.records i)) →
        handleProcessZcopyOper env cfg other netlog dataLen =
          handleProcessZcopyOper env cfg ring netlog dataLen := by
  refine ⟨?_, ?_⟩
  · intro uploads entries hok hread e he
    obtain ⟨-, rfl⟩ := (handleProcessZcopyOper_eq_ok env cfg).mp hok
    rw [(readUploads_processUploads env _).2.1, readable] at hread
    split at hread
    · cases hread
    · obtain rfl := Option.some.inj hread
      obtain ⟨log, hlog, rfl⟩ := List.mem_map.mp he
      obtain ⟨info, -, hinfo⟩ := List.mem_flatMap.mp hlog
      exact inMode_of_mem_loginfo env cfg hinfo
  · intro other hring h
    simp only [handleProcessZcopyOper, iterate_eq env cfg hring h, hring]

end Mode

/-- A record of a container, in either mode of the kernel. -/
def inContainer (protect : Bool) : AvProcessInfo where
  unionData := .replicate 16 0
  type_ := if protect then 1101 else 1001
  flags := if protect then 0x230000 else 0x220000
  path := .replicate 512 0

/-- The records are the same but for the mode. -/
theorem sameButMode_inContainer : (inContainer true).SameButMode (inContainer false) where
  unionData := rfl
  path := rfl
  isDockerProcess := by decide
  verdict := .inr ⟨.inr (.inr (by decide)), .inr (by decide), .inl (by decide)⟩

/-- A ring of such records. -/
def containerRing (protect : Bool) : AuditRing AvProcessInfo 4 where
  records := fun _ => inContainer protect
  auditSucceed := true
  count_pos := by decide

/-- An agent on which no file is there. -/
def emptyHost : ProcessEnv where
  fileExists := fun _ => false
  getMd5Global := fun _ => .error "No such file"
  getUserName := fun _ => "root"
  getProcessPath := fun _ => none
  netClient := true

/-- Two records that differ in the mode only have the same alerts. -/
theorem process_alerts_follow_config_containers :
    containerRing false ≠ containerRing true ∧
      handleProcessZcopyOper emptyHost ⟨true, true, true⟩ (containerRing false) ⟨0, 2, 0⟩ 12 =
        handleProcessZcopyOper emptyHost ⟨true, true, true⟩ (containerRing true) ⟨0, 2, 0⟩ 12 := by
  refine ⟨fun h => ?_, ?_⟩
  · have htype := congrArg (fun ring => (ring.records 0).type_) h
    revert htype
    decide
  · exact (process_alerts_follow_config emptyHost ⟨true, true, true⟩ (containerRing true) ⟨0, 2, 0⟩
      12).2 (containerRing false) rfl fun _ => sameButMode_inContainer

end LinuxAgent.Reporter
