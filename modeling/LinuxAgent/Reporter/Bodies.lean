import LinuxAgent.Lib.Json
import LinuxAgent.Reporter.AlertLog
import LinuxAgent.Reporter.NetLog
import LinuxAgent.Task.SshLogin
import Mathlib.Data.List.Forall2

/-!
# The bodies of the reports

Every report is a list of entries, printed as JSON and put as a string into an object that
is printed as JSON again. A server that reads the body and then the string gets the
entries back. Two lists of logs have one body just if the server cannot tell them apart by
what the entries keep of the logs.
-/

namespace LinuxAgent.Reporter

open Json
open LinuxAgent.Task.SshLogin (SyslogSshLog)

/-- How an entry is written, and how a server reads it. -/
structure Coding (ε : Type) where
  /-- The entry as it is serialized. -/
  json : ε → Value
  /-- The entry as it is read. -/
  ofJson : Value → Option ε
  /-- Reading gives the entry back. -/
  ofJson_json : ∀ e, ofJson (json e) = some e

/-- The object around the text of the entries. -/
def body (key : String) (entries : List Value) : String :=
  print (.object [(key, .string (print (.array entries)))])

/-- Reading a body and then the text in it. -/
def readBody {ε : Type} (key : String) (coding : Coding ε) (text : String) : Option (List ε) := do
  let outer ← read text
  let inner ← (outer.field key).bind Value.asStr
  let items ← (← read inner).asArray
  items.mapM coding.ofJson

/-- What a builder makes of the logs: an error with the text `empty` if there are none. -/
def buildBody {α ε : Type} (key empty : String) (coding : Coding ε) (entry : α → ε)
    (logs : List α) : Except String String :=
  if logs = [] then .error empty else .ok (body key (logs.map fun log => coding.json (entry log)))

section Bodies

variable {α ε : Type} {key empty : String} {coding : Coding ε} {entry : α → ε}

/-- The entries read back one by one. -/
theorem mapM_ofJson (entries : List ε) :
    (entries.map coding.json).mapM coding.ofJson = some entries := by
  induction entries with
  | nil => rfl
  | cons e entries ih => simp [List.mapM_cons, coding.ofJson_json, ih]

/-- A server reads the entries back. -/
theorem readBody_body (entries : List ε) :
    readBody key coding (body key (entries.map coding.json)) = some entries := by
  have hinner : ((Value.object [(key, .string (print (.array (entries.map coding.json))))]).field
      key).bind Value.asStr = some (print (.array (entries.map coding.json))) := by
    simp [Value.field]
  rw [readBody, body, read_print, Option.bind_eq_bind, Option.bind_some, hinner,
    Option.bind_eq_bind, Option.bind_some, read_print, Option.bind_eq_bind, Option.bind_some]
  exact mapM_ofJson entries

/-- A body is built for every list that is not empty, and it is read back. -/
theorem readBody_buildBody {logs : List α} (h : logs ≠ []) :
    ∃ text, buildBody key empty coding entry logs = .ok text ∧
      readBody key coding text = some (logs.map entry) := by
  refine ⟨_, if_neg h, ?_⟩
  rw [← readBody_body (logs.map entry), List.map_map]
  rfl

/-- A server reads from a body the entries of the logs, bodies differ for no other reason, and
without logs there is an error. -/
structure ReadsBack (build : List α → Except String String) (decode : String → Option (List ε))
    (entry : α → ε) : Prop where
  nil : ∃ e, build [] = .error e
  entries (logs : List α) :
    (build logs).toOption.bind decode = if logs = [] then none else some (logs.map entry)
  same_iff (logs others : List α) : build logs = build others ↔ logs.map entry = others.map entry

/-- Lists with one result have the same entries. -/
theorem buildBody_eq_iff {logs others : List α} :
    buildBody key empty coding entry logs = buildBody key empty coding entry others ↔
      logs.map entry = others.map entry := by
  constructor
  · intro h
    by_cases hlogs : logs = [] <;> by_cases hothers : others = []
    · rw [hlogs, hothers]
    · rw [buildBody, buildBody, if_pos hlogs, if_neg hothers] at h
      cases h
    · rw [buildBody, buildBody, if_neg hlogs, if_pos hothers] at h
      cases h
    · obtain ⟨text, htext, hread⟩ : ∃ text, buildBody key empty coding entry logs = .ok text ∧
          readBody key coding text = some (logs.map entry) := readBody_buildBody hlogs
      obtain ⟨other, hother, hread'⟩ : ∃ text,
          buildBody key empty coding entry others = .ok text ∧
            readBody key coding text = some (others.map entry) := readBody_buildBody hothers
      obtain rfl : text = other := Except.ok.inj (htext.symm.trans (h.trans hother))
      exact Option.some.inj (hread.symm.trans hread')
  · intro h
    have hnil : logs = [] ↔ others = [] := by
      rw [← List.map_eq_nil_iff (f := entry), h, List.map_eq_nil_iff]
    have hjson : (logs.map fun log => coding.json (entry log)) =
        others.map fun log => coding.json (entry log) := by
      simpa only [List.map_map, Function.comp_def] using congrArg (List.map coding.json) h
    simp only [buildBody, hnil, hjson]

/-- Lists have the same entries if the logs give the same entry one by one. -/
theorem map_eq_map_iff_forall₂ {logs others : List α} :
    logs.map entry = others.map entry ↔
      List.Forall₂ (fun a b => entry a = entry b) logs others := by
  rw [← List.forall₂_eq_eq_eq, List.forall₂_map_left_iff, List.forall₂_map_right_iff]

/-- What is built of the entries reads back. -/
theorem readsBack_buildBody :
    ReadsBack (buildBody key empty coding entry) (readBody key coding) entry where
  nil := ⟨empty, rfl⟩
  entries logs := by
    by_cases h : logs = []
    · rw [if_pos h, buildBody, if_pos h]
      rfl
    · obtain ⟨text, htext, hread⟩ : ∃ text, buildBody key empty coding entry logs = .ok text ∧
          readBody key coding text = some (logs.map entry) := readBody_buildBody h
      rw [if_neg h, htext]
      exact hread
  same_iff logs others := buildBody_eq_iff

end Bodies

/-- The fields of an entry of the alerts. -/
def LogEntry.json (e : LogEntry) : Value :=
  .object <|
    [("level", .number e.level), ("time", .number e.time), ("type", .number e.nType)] ++
    optional "dir" e.dir ++
    optional "hash" e.hash ++
    optional "rename_dir" e.renameDir ++
    optional "notice_remark" e.noticeRemark ++
    optional "exception_process" e.exceptionProcess ++
    optional "peripheral_name" e.peripheralName ++
    optional "peripheral_remark" e.peripheralRemark ++
    optional "peripheral_eid" e.peripheralEid ++
    [("p_param", orNull e.pParam)]

/-- An entry of the alerts as a server reads it. -/
def LogEntry.ofJson (v : Value) : Option LogEntry := do
  let level ← v.int "level"
  let time ← v.int "time"
  let nType ← v.int "type"
  some
    { level := level.toNat
      time := time.toNat
      nType := nType.toNat
      dir := v.str "dir"
      hash := v.str "hash"
      renameDir := v.str "rename_dir"
      noticeRemark := v.str "notice_remark"
      exceptionProcess := v.str "exception_process"
      peripheralName := v.str "peripheral_name"
      peripheralRemark := v.str "peripheral_remark"
      peripheralEid := v.str "peripheral_eid"
      pParam := v.str "p_param" }

/-- How the entries of the alert log are written and read. -/
def alertCoding : Coding LogEntry where
  json := LogEntry.json
  ofJson := LogEntry.ofJson
  ofJson_json e := by
    simp [LogEntry.json, LogEntry.ofJson]

/-- What `serde_json` makes of the entries of the alerts. -/
def alertToJson (entries : List LogEntry) : Except String String :=
  .ok (body "alert" (entries.map LogEntry.json))

/-- The builder of the alerts is one like the others. -/
theorem buildAlertLogJson_alertToJson :
    buildAlertLogJson alertToJson =
      buildBody "alert" "No valid log entries" alertCoding AuditLogInfo.entry := by
  funext logs
  simp only [buildAlertLogJson, buildBody, alertToJson, List.map_eq_nil_iff, List.map_map]
  rfl

/-- Two alerts that give one entry: they agree but for the parameters, and where there are none
the path of the file counts as the parameters. -/
structure AuditLogInfo.Indistinct (a b : AuditLogInfo) : Prop where
  filePath : a.filePath = b.filePath
  renameDir : a.renameDir = b.renameDir
  exceptionProcess : a.exceptionProcess = b.exceptionProcess
  md5 : a.md5 = b.md5
  nType : a.nType = b.nType
  nLevel : a.nLevel = b.nLevel
  nTime : a.nTime = b.nTime
  noticeRemark : a.noticeRemark = b.noticeRemark
  peripheralName : a.peripheralName = b.peripheralName
  peripheralRemark : a.peripheralRemark = b.peripheralRemark
  peripheralEid : a.peripheralEid = b.peripheralEid
  pParam : a.pParam = b.pParam ∨ ∃ path, a.filePath = some path ∧
    ((a.pParam = none ∧ b.pParam = some path) ∨ (a.pParam = some path ∧ b.pParam = none))

/-- When two alerts give one entry. -/
theorem AuditLogInfo.entry_eq_iff {a b : AuditLogInfo} : a.entry = b.entry ↔ a.Indistinct b := by
  have hparam {path p q : Option String} : p.or path = q.or path ↔
      p = q ∨ ∃ s, path = some s ∧ ((p = none ∧ q = some s) ∨ (p = some s ∧ q = none)) := by
    cases path <;> cases p <;> cases q <;> simp
    exact eq_comm
  constructor
  · intro h
    simp only [AuditLogInfo.entry, LogEntry.mk.injEq] at h
    obtain ⟨hlevel, htime, htype, hpath, hmd5, hrename, hnotice, hexception, hname, hremark, heid,
      hor⟩ := h
    exact ⟨hpath, hrename, hexception, hmd5, htype, hlevel, htime, hnotice, hname, hremark, heid,
      hparam.mp (hpath ▸ hor)⟩
  · intro h
    simp only [AuditLogInfo.entry, LogEntry.mk.injEq]
    refine ⟨h.nLevel, h.nTime, h.nType, h.filePath, h.md5, h.renameDir, h.noticeRemark,
      h.exceptionProcess, h.peripheralName, h.peripheralRemark, h.peripheralEid, ?_⟩
    rw [← h.filePath]
    exact hparam.mpr h.pParam

/-- The server reads the alerts back, and two lists of alerts have one body just if they are alike
one by one. -/
theorem alerts_read_back :
    ReadsBack (buildAlertLogJson alertToJson) (readBody "alert" alertCoding) AuditLogInfo.entry ∧
      ∀ logs others, buildAlertLogJson alertToJson logs = buildAlertLogJson alertToJson others ↔
        List.Forall₂ AuditLogInfo.Indistinct logs others := by
  have hreads : ReadsBack (buildAlertLogJson alertToJson) (readBody "alert" alertCoding)
      AuditLogInfo.entry := by
    rw [buildAlertLogJson_alertToJson]
    exact readsBack_buildBody
  refine ⟨hreads, fun logs others => ?_⟩
  simp only [hreads.same_iff, map_eq_map_iff_forall₂, AuditLogInfo.entry_eq_iff]

/-- An entry of `build_batch_process_edr_json`. -/
structure EdrLogEntry where
  uid : String
  hash : String
  pId : UInt32
  pDir : String
  pParam : String
  ppHash : String
  ppId : UInt32
  ppDir : String
  ppParam : String
  logType : UInt32
  time : Int32

/-- A log of a process that was started. -/
structure EdrProcessLog where
  uid : String
  hash : String
  pId : Int32
  pDir : String
  pParam : Option String
  ppHash : String
  ppId : Int32
  ppDir : String
  ppParam : Option String
  time : Int32
  logType : Int32

/-- The entry of a log: the program stands in for missing parameters. -/
def EdrProcessLog.entry (log : EdrProcessLog) : EdrLogEntry where
  uid := log.uid
  hash := log.hash
  pId := log.pId.toUInt32
  pDir := log.pDir
  pParam := log.pParam.getD log.pDir
  ppHash := log.ppHash
  ppId := log.ppId.toUInt32
  ppDir := log.ppDir
  ppParam := log.ppParam.getD ""
  logType := log.logType.toUInt32
  time := log.time

/-- How the entries of the process alerts are written and read. -/
def edrCoding : Coding EdrLogEntry where
  json e := .object
    [("uid", .string e.uid), ("hash", .string e.hash), ("p_id", .number e.pId.toNat),
      ("p_dir", .string e.pDir), ("p_param", .string e.pParam), ("pp_hash", .string e.ppHash),
      ("pp_id", .number e.ppId.toNat), ("pp_dir", .string e.ppDir),
      ("pp_param", .string e.ppParam), ("log_type", .number e.logType.toNat),
      ("time", .number e.time.toInt)]
  ofJson v := do
    let uid ← v.str "uid"
    let hash ← v.str "hash"
    let pId ← v.int "p_id"
    let pDir ← v.str "p_dir"
    let pParam ← v.str "p_param"
    let ppHash ← v.str "pp_hash"
    let ppId ← v.int "pp_id"
    let ppDir ← v.str "pp_dir"
    let ppParam ← v.str "pp_param"
    let logType ← v.int "log_type"
    let time ← v.int "time"
    some
      { uid := uid
        hash := hash
        pId := .ofNat pId.toNat
        pDir := pDir
        pParam := pParam
        ppHash := ppHash
        ppId := .ofNat ppId.toNat
        ppDir := ppDir
        ppParam := ppParam
        logType := .ofNat logType.toNat
        time := .ofInt time }
  ofJson_json e := by
    simp

/-- `build_batch_process_edr_json` -/
def buildBatchProcessEdrJson : List EdrProcessLog → Except String String :=
  buildBody "list" "No valid EDR log entries" edrCoding EdrProcessLog.entry

/-- An entry of `build_auto_process_list_json`. -/
structure ProcessEntry where
  id : UInt32
  user : String
  dir : String
  hash : String
  copyright : String
  introduce : String

/-- What the report uses of a process. -/
structure AuditProcess where
  nProcessId : UInt32
  strExecutablePath : String
  strUser : String
  hash : String

/-- The entry of a process. A missing hash is computed, and stays empty if that fails. -/
def AuditProcess.entry (getMd5Global : String → Except String String) (p : AuditProcess) :
    ProcessEntry where
  id := p.nProcessId
  user := p.strUser
  dir := p.strExecutablePath
  hash :=
    if p.hash.isEmpty then (getMd5Global p.strExecutablePath).toOption.getD "" else p.hash
  copyright := "linux gun"
  introduce := "linux"

/-- How the entries of the process list are written and read. -/
def processCoding : Coding ProcessEntry where
  json e := .object
    [("id", .number e.id.toNat), ("user", .string e.user), ("dir", .string e.dir),
      ("hash", .string e.hash), ("copyright", .string e.copyright),
      ("introduce", .string e.introduce)]
  ofJson v := do
    let id ← v.int "id"
    let user ← v.str "user"
    let dir ← v.str "dir"
    let hash ← v.str "hash"
    let copyright ← v.str "copyright"
    let introduce ← v.str "introduce"
    some
      { id := .ofNat id.toNat
        user := user
        dir := dir
        hash := hash
        copyright := copyright
        introduce := introduce }
  ofJson_json e := by
    simp

/-- `build_auto_process_list_json` -/
def buildAutoProcessListJson (getMd5Global : String → Except String String) :
    List AuditProcess → Except String String :=
  buildBody "proclist" "No valid process entries" processCoding (AuditProcess.entry getMd5Global)

/-- A log of a connection as it is serialized, with the texts of the addresses. -/
structure SysNetLogEntry where
  uid : Option String
  pId : Int32
  pDir : Option String
  resIp : Option String
  rsPort : UInt16
  proto : UInt32
  time : Int32
  logType : Int32
  hash : Option String
  sourceIp : Option String
  sourcePort : UInt16

/-- The entry of a connection. -/
def SysNetLog.entry (text : IpAddr → String) (log : SysNetLog) : SysNetLogEntry where
  uid := log.uid
  pId := log.pId
  pDir := log.pDir
  resIp := log.resIp.map text
  rsPort := log.rsPort
  proto := log.proto
  time := log.time
  logType := log.logType
  hash := log.hash
  sourceIp := log.sourceIp.map text
  sourcePort := log.sourcePort

/-- How the entries of the network log are written and read. -/
def netCoding : Coding SysNetLogEntry where
  json e := .object
    [("uid", orNull e.uid), ("p_id", .number e.pId.toInt), ("p_dir", orNull e.pDir),
      ("res_ip", orNull e.resIp), ("rs_port", .number e.rsPort.toNat),
      ("proto", .number e.proto.toNat), ("time", .number e.time.toInt),
      ("log_type", .number e.logType.toInt), ("hash", orNull e.hash),
      ("source_ip", orNull e.sourceIp), ("source_port", .number e.sourcePort.toNat)]
  ofJson v := do
    let pId ← v.int "p_id"
    let rsPort ← v.int "rs_port"
    let proto ← v.int "proto"
    let time ← v.int "time"
    let logType ← v.int "log_type"
    let sourcePort ← v.int "source_port"
    some
      { uid := v.str "uid"
        pId := .ofInt pId
        pDir := v.str "p_dir"
        resIp := v.str "res_ip"
        rsPort := .ofNat rsPort.toNat
        proto := .ofNat proto.toNat
        time := .ofInt time
        logType := .ofInt logType
        hash := v.str "hash"
        sourceIp := v.str "source_ip"
        sourcePort := .ofNat sourcePort.toNat }
  ofJson_json e := by
    simp

/-- `build_batch_syslog_net_json` -/
def buildBatchSyslogNetJson (text : IpAddr → String) : List SysNetLog → Except String String :=
  buildBody "list" "No valid log entries" netCoding (SysNetLog.entry text)

/-- A log of a virtual port. -/
structure OpenPortLog where
  weight : Int32
  time : Int32
  attackIp : String
  destinationIp : String
  openPort : Int32
  redirectIp : String
  redirectPort : Int32

/-- How the entries of the open ports are written and read. -/
def openPortCoding : Coding OpenPortLog where
  json e := .object
    [("weight", .number e.weight.toInt), ("time", .number e.time.toInt),
      ("attack_ip", .string e.attackIp), ("destination_ip", .string e.destinationIp),
      ("open_port", .number e.openPort.toInt), ("redirect_ip", .string e.redirectIp),
      ("redirect_port", .number e.redirectPort.toInt)]
  ofJson v := do
    let weight ← v.int "weight"
    let time ← v.int "time"
    let attackIp ← v.str "attack_ip"
    let destinationIp ← v.str "destination_ip"
    let openPort ← v.int "open_port"
    let redirectIp ← v.str "redirect_ip"
    let redirectPort ← v.int "redirect_port"
    some
      { weight := .ofInt weight
        time := .ofInt time
        attackIp := attackIp
        destinationIp := destinationIp
        openPort := .ofInt openPort
        redirectIp := redirectIp
        redirectPort := .ofInt redirectPort }
  ofJson_json e := by
    simp

/-- `build_open_port_json` -/
def buildOpenPortJson : List OpenPortLog → Except String String :=
  buildBody "alert" "No valid open port log entries" openPortCoding id

/-- A log of the self-protection. -/
structure SelfProtectLogInfo where
  fileDir : Option String
  procDir : Option String
  procHash : Option String
  procParam : Option String
  targetDir : Option String
  nType : UInt16
  nLevel : UInt32
  nTime : UInt64

/-- How the entries of the self protection are written and read. -/
def selfProtectCoding : Coding SelfProtectLogInfo where
  json e := .object <|
    [("level", .number e.nLevel.toNat), ("time", .number e.nTime.toNat),
      ("type", .number e.nType.toNat)] ++
    optional "proc_dir" e.procDir ++
    optional "proc_hash" e.procHash ++
    optional "proc_param" e.procParam ++
    optional "file_dir" e.fileDir ++
    optional "target_dir" e.targetDir
  ofJson v := do
    let level ← v.int "level"
    let time ← v.int "time"
    let nType ← v.int "type"
    some
      { fileDir := v.str "file_dir"
        procDir := v.str "proc_dir"
        procHash := v.str "proc_hash"
        procParam := v.str "proc_param"
        targetDir := v.str "target_dir"
        nType := .ofNat nType.toNat
        nLevel := .ofNat level.toNat
        nTime := .ofNat time.toNat }
  ofJson_json e := by
    simp

/-- `build_self_protect_alert_log_json` -/
def buildSelfProtectAlertLogJson : List SelfProtectLogInfo → Except String String :=
  buildBody "alert" "No valid log entries" selfProtectCoding id

/-- How the entries of the ssh logins are written and read. -/
def sshCoding : Coding SyslogSshLog where
  json e := .object
    [("ip", .string e.ip), ("username", .string e.username), ("type", .string e.loginType),
      ("status", .number e.status), ("log_type", .number e.logType), ("time", .number e.time)]
  ofJson v := do
    let ip ← v.str "ip"
    let username ← v.str "username"
    let loginType ← v.str "type"
    let status ← v.int "status"
    let logType ← v.int "log_type"
    let time ← v.int "time"
    some
      { ip := ip
        username := username
        loginType := loginType
        status := status
        logType := logType
        time := time }
  ofJson_json e := by
    simp

/-- `build_ssh_login_json` -/
def buildSshLoginJson : List SyslogSshLog → Except String String :=
  buildBody "list" "No valid SSH login log entries" sshCoding id

/-- The server reads the entries of every other report back as well, each with the types of its
fields; a process number below zero comes back as the number modulo 2³². -/
theorem reports_read_back (getMd5Global : String → Except String String)
    (text : IpAddr → String) :
    ReadsBack buildBatchProcessEdrJson (readBody "list" edrCoding) EdrProcessLog.entry ∧
      ReadsBack (buildAutoProcessListJson getMd5Global) (readBody "proclist" processCoding)
        (AuditProcess.entry getMd5Global) ∧
      ReadsBack (buildBatchSyslogNetJson text) (readBody "list" netCoding) (SysNetLog.entry text) ∧
      ReadsBack buildOpenPortJson (readBody "alert" openPortCoding) id ∧
      ReadsBack buildSelfProtectAlertLogJson (readBody "alert" selfProtectCoding) id ∧
      ReadsBack buildSshLoginJson (readBody "list" sshCoding) id :=
  ⟨readsBack_buildBody, readsBack_buildBody, readsBack_buildBody, readsBack_buildBody,
    readsBack_buildBody, readsBack_buildBody⟩

end LinuxAgent.Reporter
