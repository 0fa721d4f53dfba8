import LinuxAgent.Lib.Records
import LinuxAgent.Lib.Runs
import LinuxAgent.Lib.Text
import LinuxAgent.Lib.Utf8

/-!
# Reporting SSH logins

The collector reads what was appended to `btmp` and `wtmp` since its last call, makes
logs of the records of SSH logins, drops those that it has reported already and uploads
the rest. The offset into a file moves on when the file is read; a log is remembered as
reported when the upload has succeeded.
-/

namespace LinuxAgent.Task.SshLogin

/-- The fields of the C structure `utmp` that are used. -/
structure Utmp where
  utType : Int
  utLine : List UInt8
  utUser : List UInt8
  utHost : List UInt8
  tvSec : Int

/-- The size of the structure. -/
def utmpSize : ℕ := 384

/-- The type of the record of a login. -/
def userProcess : Int := 7

/-- The signed number of some bytes, the lowest of which comes first, for a type of `size`
numbers. -/
def signed (size : ℕ) (bytes : List UInt8) : Int :=
  Int.bmod (bytes.foldr (fun b value => b.toNat + 256 * value) 0 : ℕ) size

/-- The structure at the start of a buffer. -/
def Utmp.ofBytes (buffer : List UInt8) : Utmp where
  utType := signed UInt16.size (buffer.take 2)
  utLine := (buffer.drop 8).take 32
  utUser := (buffer.drop 44).take 32
  utHost := (buffer.drop 76).take 256
  tvSec := signed UInt32.size ((buffer.drop 340).take 4)

/-- A log of a login. -/
structure SyslogSshLog where
  ip : String
  username : String
  loginType : String
  status : Int
  logType : Int
  time : Int
deriving DecidableEq

/-- The text of a field that is padded with zeros. -/
def fieldText (bytes : List UInt8) : String :=
  String.ofList (Text.trimEndMatches '\x00' (Utf8.lossy bytes))

/-- `is_valid_ip` -/
def isValidIp (ip : String) : Bool := Text.isIpAddr ip

/-- `parse_utmp_entry` -/
def parseUtmpEntry (utmp : Utmp) (isBtmp : Bool) : Option SyslogSshLog :=
  let username := fieldText utmp.utUser
  if username = "" then none
  else
    let ip := fieldText utmp.utHost
    if ip = "" ∨ ip = "0.0.0.0" then none
    else
      let tty := fieldText utmp.utLine
      if ¬ "pts/".toList <+: tty.toList ∧ ¬ Text.contains "ssh" tty then none
      else if ¬ isValidIp ip then none
      else some {
        ip := ip
        username := username
        loginType := "SSH"
        status := if isBtmp then 0 else 1
        logType := 5
        time := utmp.tvSec }

/-- The log of a record: only logins are looked at. -/
def logOfRecord (isBtmp : Bool) (buffer : List UInt8) : Option SyslogSshLog :=
  let utmp := Utmp.ofBytes buffer
  if utmp.utType = userProcess then parseUtmpEntry utmp isBtmp else none

/-- A log together with the file and the position that it was read from. -/
structure Sighting where
  isBtmp : Bool
  position : ℕ
  log : SyslogSshLog
deriving DecidableEq

/-- A file and the offset up to which it was read. A file that does not exist is empty. -/
structure UtmpFile where
  content : List UInt8
  offset : ℕ

/-- What becomes of the operations on a file: errors, also one of `read_exact` after some
records and some more bytes, and if the position is known in the end. -/
structure FileEnv where
  found : Bool
  openError : Option String
  metadataError : Option String
  seekError : Option String
  readError : Option (ℕ × ℕ)
  positionKnown : Bool

/-- The loop over the records: the logs, and the position that it ends at. A record of which
only a part is there is read as well, and ends the loop. -/
def readLoop (isBtmp : Bool) (readError : Option (ℕ × ℕ)) (position : ℕ) (rest : List UInt8) :
    List Sighting × ℕ :=
  match readError with
  | some (0, more) => ([], position + min more rest.length)
  | _ =>
    if _h : utmpSize ≤ rest.length then
      let log := logOfRecord isBtmp (rest.take utmpSize)
      let r := readLoop isBtmp (readError.map fun e => (e.1 - 1, e.2)) (position + utmpSize)
        (rest.drop utmpSize)
      ((log.map fun log => ⟨isBtmp, position, log⟩).toList ++ r.1, r.2)
    else ([], position + rest.length)
termination_by rest.length
decreasing_by
  rw [List.length_drop]
  have : 0 < utmpSize := by decide
  omega

/-- The path of a file. -/
def utmpPath (isBtmp : Bool) : String := if isBtmp then "/var/log/btmp" else "/var/log/wtmp"

/-- `read_utmp_file`: the logs, and the new offset. -/
def readUtmpFile (env : FileEnv) (isBtmp : Bool) (file : UtmpFile) :
    Except String (List Sighting) × ℕ :=
  let path := utmpPath isBtmp
  if ¬ env.found then (.ok [], file.offset)
  else
    match env.openError with
    | some e => (.error s!"打开{path}失败: {e}", file.offset)
    | none =>
      match env.metadataError with
      | some e => (.error s!"获取文件大小失败: {e}", file.offset)
      | none =>
        let offset := if file.content.length < file.offset then 0 else file.offset
        match if 0 < offset then env.seekError else none with
        | some e => (.error s!"Seek失败: {e}", offset)
        | none =>
          let r := readLoop isBtmp env.readError offset (file.content.drop offset)
          (.ok r.1, if env.positionKnown then r.2 else 0)

/-- The text by which a log is recognized. -/
def SyslogSshLog.key (log : SyslogSshLog) : String :=
  s!"{log.ip}:{log.username}:{log.time}:{log.status}"

/-- The collector, with the logs of the uploads that have succeeded. -/
structure SshLoginCollector where
  btmp : UtmpFile
  wtmp : UtmpFile
  lastRecords : List String
  posted : List Sighting

/-- `new`: both files are read from their present ends on. -/
def SshLoginCollector.new (btmp wtmp : List UInt8) : SshLoginCollector where
  btmp := ⟨btmp, btmp.length⟩
  wtmp := ⟨wtmp, wtmp.length⟩
  lastRecords := []
  posted := []

/-- `filter_new_records` -/
def filterNewRecords (lastRecords : List String) (logs : List Sighting) : List Sighting :=
  logs.filter fun x => x.log.key ∉ lastRecords

/-- `update_last_records` -/
def updateLastRecords (lastRecords : List String) (logs : List SyslogSshLog) : List String :=
  logs.foldl (fun records log => records.insert log.key)
    (if 1000 < lastRecords.length then [] else lastRecords)

/-- `build_ssh_login_json`, with what `serde_json` makes of the logs. -/
def buildSshLoginJson (toJson : List SyslogSshLog → Except String String)
    (logs : List SyslogSshLog) : Except String String :=
  if logs = [] then .error "No valid SSH login log entries" else toJson logs

/-- What becomes of a call. -/
structure CallEnv where
  btmp : FileEnv
  wtmp : FileEnv
  toJson : List SyslogSshLog → Except String String
  post : String → Bool

/-- The upload of the logs that were read. -/
def SshLoginCollector.report (s : SshLoginCollector) (env : CallEnv) (logs : List Sighting) :
    SshLoginCollector :=
  if logs = [] then s
  else
    let newLogs := filterNewRecords s.lastRecords logs
    if newLogs = [] then s
    else
      match buildSshLoginJson env.toJson (newLogs.map Sighting.log) with
      | .error _ => s
      | .ok json =>
        if env.post json then
          { s with
            lastRecords := updateLastRecords s.lastRecords (newLogs.map Sighting.log)
            posted := s.posted ++ newLogs }
        else s

/-- What a result adds to the logs: `if let Ok(new_logs)`. -/
def okOrNil {α : Type} : Except String (List α) → List α
  | .ok logs => logs
  | .error _ => []

/-- `collect_and_report` -/
def SshLoginCollector.collectAndReport (s : SshLoginCollector) (env : CallEnv) :
    SshLoginCollector :=
  let btmp := readUtmpFile env.btmp true s.btmp
  let wtmp := readUtmpFile env.wtmp false s.wtmp
  let s :=
    { s with btmp := { s.btmp with offset := btmp.2 }, wtmp := { s.wtmp with offset := wtmp.2 } }
  s.report env (okOrNil btmp.1 ++ okOrNil wtmp.1)

/-- What happens: a file grows, or the collector is called. -/
inductive Event where
  | append (isBtmp : Bool) (bytes : List UInt8)
  | collect (env : CallEnv)

/-- A file grows. -/
def UtmpFile.append (file : UtmpFile) (bytes : List UInt8) : UtmpFile :=
  { file with content := file.content ++ bytes }

/-- What the collector does at an event. -/
def SshLoginCollector.step (s : SshLoginCollector) : Event → SshLoginCollector
  | .append true bytes => { s with btmp := s.btmp.append bytes }
  | .append false bytes => { s with wtmp := s.wtmp.append bytes }
  | .collect env => s.collectAndReport env

/-- The collector from its start with the given contents of the files on. -/
def sshLogin (btmp wtmp : List UInt8) : Runs.System SshLoginCollector Event where
  init := fun s => s = .new btmp wtmp
  step := fun s e => some (s.step e)

end LinuxAgent.Task.SshLogin
