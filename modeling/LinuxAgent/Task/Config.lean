import LinuxAgent.Pattern.Reload

/-!
# The configuration and its switches

`update_config_from_json` merges the fields of a downloaded JSON object into
`NETINFO_CONFIG`, and `apply_config_diff` brings the kernel in line with the new
configuration. What it writes is decided by comparing the configuration with the
`prev_*` fields of the `TaskFetcher`, not with the kernel.
-/

namespace LinuxAgent.Task

/-- A JSON value, as far as the readers of the configuration tell values apart. -/
inductive Value
  /-- A number that is a `u64`. -/
  | uint (n : UInt64)
  /-- A text. -/
  | string (s : String)
  /-- Anything else. -/
  | other
  deriving DecidableEq

/-- A JSON object. -/
abbrev Conf := List (String × Value)

/-- The number under a key. -/
def getU64 (conf : Conf) (key : String) : Option UInt64 :=
  match conf.lookup key with
  | some (.uint n) => some n
  | _ => none

/-- `get_u32`. -/
def getU32 (conf : Conf) (key : String) : Except String UInt32 :=
  match (getU64 conf key).filter fun n => n.toNat < UInt32.size with
  | some n => .ok n.toUInt32
  | none => .error s!"Missing or invalid field: {key}"

/-- `get_bool`. -/
def getBool (conf : Conf) (key : String) : Except String Bool :=
  match getU64 conf key with
  | some n => .ok (n ≠ 0)
  | none => .error s!"Missing or invalid field: {key}"

/-- The fields of `NetInfoConfig` that an update sets, and the version of the loaded
kernel module. -/
structure NetInfoConfig where
  cronTime : UInt32
  logProto : UInt32
  logSent : UInt32
  cliPort : UInt32
  moduleSwitch : UInt32
  extortionProtect : Bool
  extortionSwitch : Bool
  fileProtect : Bool
  fileSwitch : Bool
  selfProtectSwitch : Bool
  openPortSwitch : Bool
  dynamicSwitch : Bool
  procProtect : Bool
  procSwitch : Bool
  usbProtect : Bool
  usbSwitch : Bool
  syslogInnerSwitch : Bool
  syslogOuterSwitch : Bool
  syslogDnsSwitch : Bool
  internetSwitch : Bool
  syslogProcessSwitch : Bool
  syslogLoginSwitch : Bool
  outreachTime : UInt32
  outreachSwitch : Bool
  baselineSwitch : Bool
  baselineTime : UInt32
  hardwareSwitch : Bool
  hardwareTime : UInt32
  logIpPort : Option String
  /-- Empty while no kernel module is loaded. -/
  modVer : String
  deriving DecidableEq

/-- `try_update!`: an absent or unreadable field keeps its old value. -/
def tryUpdate {α : Type} (field : Except String α) (old : α) : α := field.toOption.getD old

/-- The new value of `log_ip_port`, which is cleared by anything but a proper text. -/
def updateLogIpPort (conf : Conf) (old : Option String) : Option String :=
  match conf.lookup "logipport" with
  | none => old
  | some (.string s) => if s = "" then none else some s
  | some _ => none

/-- The configuration that `update_config_from_json` makes of the old one. -/
def NetInfoConfig.merge (old : NetInfoConfig) (conf : Conf) : NetInfoConfig where
  cronTime := tryUpdate (getU32 conf "crontime") old.cronTime
  logProto := tryUpdate (getU32 conf "logproto") old.logProto
  logSent := tryUpdate (getU32 conf "logsent") old.logSent
  cliPort := tryUpdate (getU32 conf "debug_switch") old.cliPort
  moduleSwitch := tryUpdate (getU32 conf "module_switch") old.moduleSwitch
  extortionProtect := tryUpdate (getBool conf "extortion_protect") old.extortionProtect
  extortionSwitch := tryUpdate (getBool conf "extortion_switch") old.extortionSwitch
  fileProtect := tryUpdate (getBool conf "file_protect") old.fileProtect
  fileSwitch := tryUpdate (getBool conf "file_switch") old.fileSwitch
  selfProtectSwitch := tryUpdate (getBool conf "self_protect_switch") old.selfProtectSwitch
  openPortSwitch := tryUpdate (getBool conf "open_port_switch") old.openPortSwitch
  dynamicSwitch := tryUpdate (getBool conf "dynamic_switch") old.dynamicSwitch
  procProtect := tryUpdate (getBool conf "proc_protect") old.procProtect
  procSwitch := tryUpdate (getBool conf "proc_switch") old.procSwitch
  usbProtect := tryUpdate (getBool conf "usb_protect") old.usbProtect
  usbSwitch := tryUpdate (getBool conf "usb_switch") old.usbSwitch
  syslogInnerSwitch := tryUpdate (getBool conf "syslog_inner_switch") old.syslogInnerSwitch
  syslogOuterSwitch := tryUpdate (getBool conf "syslog_outer_switch") old.syslogOuterSwitch
  syslogDnsSwitch := tryUpdate (getBool conf "syslog_dns_switch") old.syslogDnsSwitch
  internetSwitch := tryUpdate (getBool conf "internet_switch") old.internetSwitch
  syslogProcessSwitch := tryUpdate (getBool conf "syslog_process_switch") old.syslogProcessSwitch
  syslogLoginSwitch := tryUpdate (getBool conf "syslog_login_switch") old.syslogLoginSwitch
  outreachTime := tryUpdate (getU32 conf "outreach_time") old.outreachTime
  outreachSwitch := tryUpdate (getBool conf "outreach_switch") old.outreachSwitch
  baselineSwitch := tryUpdate (getBool conf "baseline_switch") old.baselineSwitch
  baselineTime := tryUpdate (getU32 conf "baseline_time") old.baselineTime
  hardwareSwitch := tryUpdate (getBool conf "hardware_switch") old.hardwareSwitch
  hardwareTime := tryUpdate (getU32 conf "hardware_time") old.hardwareTime
  logIpPort := updateLogIpPort conf old.logIpPort
  modVer := old.modVer

/-- A flag as a number. -/
def asU32 (flag : Bool) : UInt32 := if flag then 1 else 0

/-- The word that `apply_config_diff` computes for `/proc/osec/defense_switch`. -/
def defenseSwitch (cfg : NetInfoConfig) : UInt32 :=
  let fileFlagTemp := cfg.fileSwitch || cfg.extortionSwitch
  let enableFlag := asU32 fileFlagTemp * 2 + asU32 cfg.procSwitch
  let bits : List (Bool × UInt32) :=
    [(cfg.openPortSwitch, 14), (cfg.internetSwitch, 13), (cfg.syslogDnsSwitch, 12),
      (cfg.syslogOuterSwitch, 11), (cfg.syslogInnerSwitch, 10), (cfg.procSwitch, 9),
      (cfg.fileSwitch, 8), (cfg.extortionSwitch, 7), (cfg.procProtect, 6), (cfg.fileProtect, 5),
      (cfg.extortionProtect, 4)]
  bits.foldl (fun acc bit => acc ||| (asU32 bit.1 <<< bit.2)) 0 ||| enableFlag

/-- The rules that `apply_config_diff` writes. -/
inductive NetRule
  | virtualOpenPort (openPortState : Bool)
  | defenseSwitch (defenseState : UInt32)
  | selfProtect (selfProtectState : UInt32)
  | netLogPolicy (syslogProcessSwitch procSwitch : Bool)
  | netBlockSwitch (blockSwitch : UInt32)
  deriving DecidableEq

/-- The switches of the kernel. -/
structure KernelSwitches where
  /-- Set with message `0x103`. -/
  selfProtect : UInt32
  /-- `vir_open_port_switch` of `/proc/osec/net_rules`. -/
  virOpenPort : Bool
  /-- `/proc/osec/osec_conn/block_switch`. -/
  blockSwitch : UInt32
  /-- `syslog_process_switch` and `proc_switch`, set with message `0x702`. -/
  netLogPolicy : Bool × Bool
  /-- `/proc/osec/defense_switch`. -/
  defenseSwitch : UInt32
  deriving DecidableEq

/-- The switches that a configuration asks for. -/
def KernelSwitches.ofConfig (cfg : NetInfoConfig) : KernelSwitches where
  selfProtect := asU32 cfg.selfProtectSwitch
  virOpenPort := cfg.openPortSwitch
  blockSwitch := asU32 cfg.dynamicSwitch
  netLogPolicy := (cfg.syslogProcessSwitch, cfg.procSwitch)
  defenseSwitch := Task.defenseSwitch cfg

/-- The effect of a write that succeeds. -/
def KernelSwitches.write (k : KernelSwitches) : NetRule → KernelSwitches
  | .virtualOpenPort state => { k with virOpenPort := state }
  | .defenseSwitch state => { k with defenseSwitch := state }
  | .selfProtect state => { k with selfProtect := state }
  | .netLogPolicy syslogProcess proc => { k with netLogPolicy := (syslogProcess, proc) }
  | .netBlockSwitch state => { k with blockSwitch := state }

/-- The error of a failed write, from the error of the system call. A missing netlink
socket is an error of the two rules that are sent over it. -/
def NetRule.error (rule : NetRule) (e : String) : String :=
  match rule with
  | .virtualOpenPort _ => s!"Failed to write to /proc/osec/net_rules: {e}"
  | .defenseSwitch _ => s!"Failed to write to /proc/osec/defense_switch: {e}"
  | .netBlockSwitch _ => s!"Failed to write to /proc/osec/osec_conn/block_switch: {e}"
  | .selfProtect _ | .netLogPolicy _ _ => e

/-- The `prev_*` fields of `TaskFetcher`, with their values in `TaskFetcher::new`. -/
structure TaskFetcher where
  prevDefenseSwitch : Option UInt32 := none
  prevOpenPortSwitch : Bool := false
  prevFileSwitch : Bool := false
  prevExtortionSwitch : Bool := false
  prevProcSwitch : Bool := false
  prevSyslogProcessSwitch : Bool := false
  prevDynamicSwitch : Bool := false
  prevSelfProtectSwitch : Bool := false
  deriving DecidableEq

/-- The running fetcher, the pattern manager with its tables, and the switches. -/
structure Agent where
  /-- The fetcher. -/
  fetcher : TaskFetcher
  /-- The pattern manager, which outlives the fetcher. -/
  pattern : Pattern.Loaded
  /-- The switches of the kernel. -/
  kernel : KernelSwitches
  deriving DecidableEq

/-- The errors of the system calls behind the writes that fail. -/
abbrev Faults := NetRule → Option String

/-- What a part of `apply_config_diff` leaves: the agent, its writes with their
success, and its result. -/
structure Outcome where
  agent : Agent
  writes : List (NetRule × Bool)
  result : Except String Unit

/-- The end of a part that has nothing to write. -/
def Agent.done (a : Agent) : Outcome := ⟨a, [], .ok ()⟩

/-- `write_net_rule`. -/
def Agent.writeNetRule (faults : Faults) (a : Agent) (rule : NetRule) : Outcome :=
  match faults rule with
  | none => ⟨{ a with kernel := a.kernel.write rule }, [(rule, true)], .ok ()⟩
  | some e => ⟨a, [(rule, false)], .error (rule.error e)⟩

/-- A call of the pattern manager. -/
def Agent.callPattern (a : Agent) (call : Pattern.Call) : Agent :=
  { a with pattern := ⟨(a.pattern.apply call).1, (a.pattern.apply call).2⟩ }

/-- Go on unless there was an error. -/
def Outcome.andThen (o : Outcome) (next : Agent → Outcome) : Outcome :=
  match o.result with
  | .error _ => o
  | .ok () => ⟨(next o.agent).agent, o.writes ++ (next o.agent).writes, (next o.agent).result⟩

section Blocks

variable (faults : Faults) (new : NetInfoConfig) (a : Agent)

/-- The block of the self-protection switch. -/
def syncSelfProtect : Outcome :=
  if new.selfProtectSwitch ≠ a.fetcher.prevSelfProtectSwitch then
    let a := { a with fetcher.prevSelfProtectSwitch := new.selfProtectSwitch }
    if new.modVer ≠ "" then
      let a := a.callPattern (.addFilePattern new.selfProtectSwitch)
      a.writeNetRule faults (.selfProtect (asU32 new.selfProtectSwitch))
    else a.done
  else a.done

/-- The block of the virtual open ports. -/
def syncOpenPort : Outcome :=
  if new.openPortSwitch ≠ a.fetcher.prevOpenPortSwitch then
    let a := { a with fetcher.prevOpenPortSwitch := new.openPortSwitch }
    if new.modVer ≠ "" then a.writeNetRule faults (.virtualOpenPort new.openPortSwitch)
    else a.done
  else a.done

/-- The block of the dynamic blocking, which does not ask for a kernel module. -/
def syncDynamic : Outcome :=
  if new.dynamicSwitch ≠ a.fetcher.prevDynamicSwitch then
    let a := { a with fetcher.prevDynamicSwitch := new.dynamicSwitch }
    a.writeNetRule faults (.netBlockSwitch (asU32 new.dynamicSwitch))
  else a.done

/-- The block that clears the protected directories. -/
def clearProtect : Agent :=
  if new.fileSwitch ≠ a.fetcher.prevFileSwitch then
    let a := if new.modVer ≠ "" ∧ new.fileSwitch = false then a.callPattern .clearProtectDir else a
    { a with fetcher.prevFileSwitch := new.fileSwitch }
  else a

/-- The block that clears the directories protected against extortion. -/
def clearExport : Agent :=
  if new.extortionProtect ≠ a.fetcher.prevExtortionSwitch then
    let a :=
      if new.modVer ≠ "" ∧ new.extortionProtect = false then a.callPattern .clearExiportDir else a
    { a with fetcher.prevExtortionSwitch := new.extortionProtect }
  else a

/-- The block of the process log, which remembers the switches after the write. -/
def syncNetLog : Outcome :=
  if new.procSwitch ≠ a.fetcher.prevProcSwitch ∨
      new.syslogProcessSwitch ≠ a.fetcher.prevSyslogProcessSwitch then
    (a.writeNetRule faults (.netLogPolicy new.syslogProcessSwitch new.procSwitch)).andThen fun a =>
      { a with
        fetcher.prevProcSwitch := new.procSwitch
        fetcher.prevSyslogProcessSwitch := new.syslogProcessSwitch }.done
  else a.done

/-- The block of the defense word. -/
def syncDefense : Outcome :=
  if a.fetcher.prevDefenseSwitch ≠ some (defenseSwitch new) then
    let a := { a with fetcher.prevDefenseSwitch := some (defenseSwitch new) }
    if new.modVer ≠ "" then a.writeNetRule faults (.defenseSwitch (defenseSwitch new))
    else a.done
  else a.done

/-- `apply_config_diff`. The old configuration is not read. -/
def applyConfigDiff : Outcome :=
  (syncSelfProtect faults new a).andThen fun a =>
  (syncOpenPort faults new a).andThen fun a =>
  (syncDynamic faults new a).andThen fun a =>
  (syncNetLog faults new (clearExport new (clearProtect new a))).andThen fun a =>
  syncDefense faults new a

end Blocks

/-- No write fails. -/
def noFaults : Faults := fun _ => none

end LinuxAgent.Task
