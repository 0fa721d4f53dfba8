import LinuxAgent.Lib.Utf8
import LinuxAgent.AgentCli.Console

/-!
# The record of a process

`build_process_info` puts a record together from the files of a process under `/proc`. Four
of its fields are parsed out of the one line of `stat`.
-/

namespace LinuxAgent.ProcInfo

open AgentCli (fileName join)

/-- `ProcessInfoError`. -/
inductive ProcessInfoError
  | io (e path : String)
  | parse (context : String)
  | invalidExecutable (path : String)
  | other (msg : String)
  deriving DecidableEq

/-- `read_to_string_with_context`, from what reading the bytes of the file gives. -/
def readToStringWithContext (path : String) (file : Except String (List UInt8)) :
    Except ProcessInfoError String :=
  match file with
  | .error e => .error (.io e path)
  | .ok bytes =>
    match Utf8.decode bytes with
    | some text => .ok (String.ofList text)
    | none => .error (.io "stream did not contain valid UTF-8" path)

/-- A field of `stat`, from what reading the file gives: the word at an index, or a default value
if there are not so many words. -/
def statField {α : Type} (parse : List Char → Option α) (index : ℕ) (context : String)
    (missing : α) (stat : Except ProcessInfoError String) : Except ProcessInfoError α := do
  let parts := Text.words (← stat)
  match parts[index]? with
  | some part =>
    match parse part.toList with
    | some value => .ok value
    | none => .error (.parse context)
  | none => .ok missing

/-- `get_ppid`. -/
def getPpid : Except ProcessInfoError String → Except ProcessInfoError UInt32 :=
  statField Text.parseU32 3 "PPid" 0

/-- `get_priority`. -/
def getPriority : Except ProcessInfoError String → Except ProcessInfoError Int32 :=
  statField Text.parseI32 17 "Priority" 0

/-- `get_thread_count`. -/
def getThreadCount : Except ProcessInfoError String → Except ProcessInfoError Int32 :=
  statField Text.parseI32 19 "Threads" 1

/-- A field that is there and can be parsed. -/
theorem statField_ok {α : Type} {parse : List Char → Option α} {index : ℕ} {text part : String}
    {value : α} (hpart : (Text.words text)[index]? = some part)
    (hvalue : parse part.toList = some value) (context : String) (missing : α) :
    statField parse index context missing (.ok text) = .ok value := by
  rw [statField]
  simp only [bind, Except.bind, hpart, hvalue]

/-- The whole seconds of the uptime in `/proc/uptime`. -/
def uptimeSec (uptimeData : String) : UInt64 :=
  match (Text.split '.' uptimeData).head? with
  | some seconds => UInt64.ofNat ((Text.parseU64 seconds.toList).getD 0)
  | none => 0

/-- The time at which a process was started, in the arithmetic of `u64` and `i64`. -/
def processStart (uptimeSec startJiffies : UInt64) (bootTime : Int64) : Int64 :=
  let hz : UInt64 := 100
  let bootJiffies := uptimeSec * hz
  bootTime - ((bootJiffies - startJiffies) / hz).toInt64

/-- `get_start_time`; `format_timestamp` is a parameter. -/
def getStartTime (formatTimestamp : Int64 → String) (stat uptime : Except ProcessInfoError String)
    (bootTime : Int64) : Except ProcessInfoError String := do
  let parts := Text.words (← stat)
  match parts[21]? with
  | none => .ok "unknown"
  | some part =>
    match Text.parseU64 part.toList with
    | none => .error (.parse "Start time")
    | some startJiffies =>
      let uptimeData ← uptime
      .ok (formatTimestamp
        (processStart (uptimeSec uptimeData) (UInt64.ofNat startJiffies) bootTime))

/-- `ProcessInfo`. -/
structure ProcessInfo where
  timestamp : Int64
  name : String
  vendor : String
  package : String
  pid : UInt32
  ppid : UInt32
  priority : Int32
  threadCount : Int32
  memoryRssKb : Int64
  startTime : String
  exePath : String
  user : String
  hash : String
  dependencies : List String
  deriving DecidableEq

/-- What `build_process_info` reads of a process and of the system. -/
structure ProcessFiles where
  pid : UInt32
  comm : Except String (List UInt8)
  /-- The target of the link `exe`. -/
  exe : Except String String
  cmdline : Except String (List UInt8)
  /-- The target of the link `cwd`. -/
  cwd : Except String String
  status : Except String (List UInt8)
  stat : Except String (List UInt8)
  uptime : Except String (List UInt8)
  /-- `Path::exists`. -/
  pathExists : String → Bool
  /-- `User::from_uid`, with the name of the user. -/
  fromUid : UInt32 → Except String (Option String)
  /-- `get_md5_global`. -/
  md5 : String → Except String String
  /-- `libc::time`. -/
  bootTime : Int64
  /-- `SystemTime::now`, in seconds. -/
  timestamp : Int64
  formatTimestamp : Int64 → String

/-- `pid_path`. -/
def ProcessFiles.pidPath (files : ProcessFiles) (file : String) : String :=
  "/proc/" ++ toString files.pid.toNat ++ "/" ++ file

/-- The text of `stat`. -/
def ProcessFiles.statText (files : ProcessFiles) : Except ProcessInfoError String :=
  readToStringWithContext (files.pidPath "stat") files.stat

/-- The text of `status`. -/
def ProcessFiles.statusText (files : ProcessFiles) : Except ProcessInfoError String :=
  readToStringWithContext (files.pidPath "status") files.status

/-- The text of `/proc/uptime`. -/
def ProcessFiles.uptimeText (files : ProcessFiles) : Except ProcessInfoError String :=
  readToStringWithContext "/proc/uptime" files.uptime

/-- `read_cmdline`, without its error. -/
def readCmdline (files : ProcessFiles) : Option (List String) :=
  files.cmdline.toOption.map fun data =>
    (((data.splitOn 0).filterMap Utf8.decode).filter (· ≠ [])).map String.ofList

/-- `get_name`. -/
def getName (files : ProcessFiles) : Except ProcessInfoError String :=
  let comm := (readToStringWithContext (files.pidPath "comm") files.comm).toOption.bind fun name =>
    if Text.trim name = "" then none else some (Text.trim name)
  let exe := files.exe.toOption.bind fileName
  let arg := (readCmdline files).bind fun args =>
    args.head?.map fun first => (fileName first).getD first
  let stat := files.statText.toOption.bind fun stat =>
    (Text.splitOnce '(' stat.toList).bind fun parts =>
      (Text.splitOnce ')' parts.2).map fun name => String.ofList name.1
  .ok ((comm <|> exe <|> arg <|> stat).getD ("unknown_" ++ toString files.pid.toNat))

/-- `is_interpreter`. -/
def isInterpreter (path : String) : Bool :=
  ["/bin/sh", "/bin/bash", "/bin/dash", "/usr/bin/sh", "/usr/bin/bash", "/usr/bin/dash",
    "/usr/bin/python", "/usr/bin/python3", "/usr/bin/perl", "/usr/bin/ruby"].contains path

/-- `get_executable_path`. -/
def getExecutablePath (files : ProcessFiles) (name : String) : Except ProcessInfoError String :=
  let script := (files.exe.toOption.filter isInterpreter).bind fun _ =>
    (readCmdline files).bind fun args =>
      args[1]?.bind fun script =>
        let abs := if script.toList.head? = some '/' then script
          else join (files.cwd.toOption.getD "") script
        if files.pathExists abs then some abs else none
  .ok (script.getD (files.exe.toOption.getD name))

/-- The value of a line of `status`. -/
def statusValue (key status : String) : Option String :=
  (Text.lines status).findSome? fun line =>
    (Text.splitOnce ':' line.toList).bind fun parts =>
      if Text.trim (String.ofList parts.1) = key then some (String.ofList parts.2) else none

/-- `get_memory_rss`. -/
def getMemoryRss (status : Except ProcessInfoError String) : Except ProcessInfoError Int64 := do
  match statusValue "VmRSS" (← status) with
  | some value =>
    .ok (((Text.words (Text.trim value)).head?.bind fun s => Text.parseI64 s.toList).getD 0)
  | none => .ok 0

/-- `get_user`. -/
def getUser (fromUid : UInt32 → Except String (Option String))
    (status : Except ProcessInfoError String) : Except ProcessInfoError String := do
  match statusValue "Uid" (← status) with
  | some value =>
    match Text.parseU32 ((Text.words (Text.trim value)).head?.getD "0").toList with
    | some uid =>
      match fromUid uid with
      | .ok user => .ok (user.getD ("uid_" ++ toString uid.toNat))
      | .error _ => .error (.other "nix user lookup failed")
    | none => .error (.parse "Uid")
  | none => .ok "unknown"

/-- `is_magicarmor_path`. -/
def isMagicarmorPath (path : String) : Bool := Text.contains "magicarmor" path

/-- `get_vendor`. -/
def getVendor : String := "unknown"

/-- `get_package`. -/
def getPackage : String := "unknown"

/-- `build_process_info`. -/
def buildProcessInfo (files : ProcessFiles) : Except ProcessInfoError ProcessInfo := do
  let name ← getName files
  let exePath ← getExecutablePath files name
  if exePath = "" || !files.pathExists exePath || isMagicarmorPath exePath then
    .error (.invalidExecutable exePath)
  else
    let memory ← getMemoryRss files.statusText
    let user ← getUser files.fromUid files.statusText
    let ppid ← getPpid files.statText
    let priority ← getPriority files.statText
    let threads ← getThreadCount files.statText
    let startTime ← getStartTime files.formatTimestamp files.statText files.uptimeText
      files.bootTime
    let hash ← match files.md5 exePath with
      | .ok hash => .ok hash
      | .error e => .error (.other ("计算 MD5 失败: " ++ e))
    .ok {
      timestamp := files.timestamp
      name := name
      vendor := getVendor
      package := getPackage
      pid := files.pid
      ppid := ppid
      priority := priority
      threadCount := threads
      memoryRssKb := memory
      startTime := startTime
      exePath := exePath
      user := user
      hash := hash
      dependencies := [] }

end LinuxAgent.ProcInfo
