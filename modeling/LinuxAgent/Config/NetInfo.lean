import LinuxAgent.Lib.Ini
import LinuxAgent.Task.Config

/-!
# The configuration file

`to_ini` writes the configuration into `net_info.ini` and `from_ini` makes a configuration of
the loaded file: two lists of some forty keys in three sections. They fit, but for an address
of the log server that is not there: it is written as an empty value and read back as an
empty address.
-/

namespace LinuxAgent.Config

/-- `NetInfoConfig`: what an update sets, and what comes from the file and the host. -/
structure NetInfoConfig extends Task.NetInfoConfig where
  appPath : String
  mid : String
  ver : String
  comTime : UInt32
  fastTime : UInt32
  scanFileTime : UInt32
  scanProcTime : UInt32
  serverIpPort : String
  serverIp : String
  serverPort : UInt32
  userId : String
  devUid : String
  macid : String
  ips : String
  ifcfg : String
  os : String
  memsize : String
  cpu : String
  hdsize : String
  auth : String
  hostName : String
  isOfflineMode : Bool
  deriving DecidableEq

/-- A number as it is written. -/
def decimal (n : UInt32) : String := toString n.toNat

/-- A flag as it is written. -/
def flag (b : Bool) : String := if b then "1" else "0"

/-- The section of the client. -/
def NetInfoConfig.clientInfo (cfg : NetInfoConfig) : Ini.Section where
  name := "CLIENTINFO"
  entries := [("MID", cfg.mid)]

/-- The section of the server. -/
def NetInfoConfig.serverInfo (cfg : NetInfoConfig) : Ini.Section where
  name := "SERVERINFO"
  entries :=
    [("USER_ID", cfg.userId),
      ("COMTIME", decimal cfg.comTime),
      ("CRONTIME", decimal cfg.cronTime),
      ("EXTORTION_PROTECT", flag cfg.extortionProtect),
      ("EXTORTION_SWITCH", flag cfg.extortionSwitch),
      ("SELF_PROTECT_SWITCH", flag cfg.selfProtectSwitch),
      ("FASTTIME", decimal cfg.fastTime),
      ("FILE_PROTECT", flag cfg.fileProtect),
      ("FILE_SWITCH", flag cfg.fileSwitch),
      ("LOGIPPORT", cfg.logIpPort.getD ""),
      ("LOGPROTO", decimal cfg.logProto),
      ("LOGSENT", decimal cfg.logSent),
      ("CLI_SERVER_PORT", decimal cfg.cliPort),
      ("MODULE_SWITCH", decimal cfg.moduleSwitch),
      ("OPEN_PORT_SWITCH", flag cfg.openPortSwitch),
      ("PROC_PROTECT", flag cfg.procProtect),
      ("PROC_SWITCH", flag cfg.procSwitch),
      ("DYNAMIC_SWITCH", flag cfg.dynamicSwitch),
      ("SCANFILETIME", decimal cfg.scanFileTime),
      ("SCANPROCTIME", decimal cfg.scanProcTime),
      ("SERVERIPPORT", cfg.serverIpPort),
      ("SERVER_IP", cfg.serverIp),
      ("SERVER_PORT", decimal cfg.serverPort),
      ("USB_PROTECT", flag cfg.usbProtect),
      ("USB_SWITCH", flag cfg.usbSwitch),
      ("DNS_SWITCH", flag cfg.syslogDnsSwitch),
      ("INTERNAL_COMMUNICATION_SWITCH", flag cfg.syslogInnerSwitch),
      ("EXTERNAL_COMMUNICATION_SWITCH", flag cfg.syslogOuterSwitch),
      ("SYSLOG_PROCESS_SWITCH", flag cfg.syslogProcessSwitch),
      ("SYSLOG_LOGIN_SWITCH", flag cfg.syslogLoginSwitch),
      ("INTERNET_SWITCH", flag cfg.internetSwitch),
      ("OFFLINE_MODE", flag cfg.isOfflineMode),
      ("BASELINE_SWITCH", flag cfg.baselineSwitch),
      ("BASELINE_TIME", decimal cfg.baselineTime),
      ("HARDWARE_SWITCH", flag cfg.hardwareSwitch),
      ("HARDWARE_TIME", decimal cfg.hardwareTime),
      ("OUTREACH_SWITCH", flag cfg.outreachSwitch),
      ("OUTREACH_TIME", decimal cfg.outreachTime),
      ("VERSION", cfg.ver)]

/-- The section of the host. -/
def NetInfoConfig.hostInfo (cfg : NetInfoConfig) : Ini.Section where
  name := "HOSTINFO"
  entries :=
    [("DEV_UID", cfg.devUid), ("MACID", cfg.macid), ("CPU", cfg.cpu), ("AUTH", cfg.auth),
      ("HOSTNAME", cfg.hostName)]

/-- The sections that `to_ini` writes. -/
def NetInfoConfig.document (cfg : NetInfoConfig) : Ini.Document :=
  [cfg.clientInfo, cfg.serverInfo, cfg.hostInfo]

/-- The text that `to_ini` writes. -/
def NetInfoConfig.toIni (cfg : NetInfoConfig) : String := cfg.document.text

/-- A number of 32 bits. -/
def parseU32 (s : String) : Option UInt32 :=
  ((Text.parseU64 s.toList).filter fun n => n < UInt32.size).map UInt32.ofNat

/-- The number under a key, and zero if there is none. -/
def readU32 (ini : Ini.Table) (key : String) : UInt32 :=
  match ini "SERVERINFO" key with
  | some value => (parseU32 value).getD 0
  | none => 0

/-- The flag under a key. -/
def readFlag (ini : Ini.Table) (key : String) : Bool :=
  match ini "SERVERINFO" key with
  | some value => Text.trim value = "1"
  | none => false

/-- The text under a key. -/
def readText (ini : Ini.Table) (sec key : String) : String := (ini sec key).getD ""

/-- `strip_prefix`. -/
def withoutStart (start s : String) : Option String :=
  if start.toList.isPrefixOf s.toList then some (String.ofList (s.toList.drop start.toList.length))
  else none

/-- `extract_ip`. -/
def extractIp (input : String) : Option String :=
  let withoutScheme :=
    ((withoutStart "http://" input).or (withoutStart "https://" input)).getD input
  let hostPart :=
    if withoutScheme.toList.head? = some '[' then
      if ']' ∈ withoutScheme.toList then
        String.ofList (withoutScheme.toList.tail.takeWhile (· ≠ ']'))
      else withoutScheme
    else String.ofList (withoutScheme.toList.takeWhile (· ≠ ':'))
  if Text.isIpAddr hostPart then some hostPart else none

/-- The first match of `dev\s+(\S+)`. -/
def captureDev : List Char → Option (List Char)
  | [] => none
  | c :: cs =>
    let rest := cs.drop 2
    let name := (rest.dropWhile Text.isWhiteSpace).takeWhile fun d => !Text.isWhiteSpace d
    if "dev".toList.isPrefixOf (c :: cs) && rest.head?.any Text.isWhiteSpace && name ≠ [] then
      some name
    else captureDev cs

/-- `get_main_interface`, with the output of `ip route get` for an address. -/
def getMainInterface (ipRouteGet : String → Except String String) (serverIp : String) :
    Except String String :=
  match ipRouteGet serverIp with
  | .error e => .error s!"ip route get {serverIp} failed: {e}"
  | .ok out =>
    let ifaces := (Text.lines out).filterMap fun line => (captureDev line.toList).map String.ofList
    match ifaces.find? (· ≠ "lo") with
    | some iface => .ok iface
    | none => .error s!"No valid interface found for server_ip {serverIp}"

/-- The interface that `from_ini` finds for the address of the server. -/
def routeInterface (ipRouteGet : String → Except String String) (serverIp : String) : String :=
  if serverIp = "" then ""
  else
    match getMainInterface ipRouteGet ((extractIp serverIp).getD serverIp) with
    | .ok iface => iface
    | .error _ => "eth0"

/-- `from_ini`. The fields that are not in the file have the values of `default()`. -/
def fromIni (ipRouteGet : String → Except String String) (ini : Ini.Table) : NetInfoConfig where
  appPath := ""
  modVer := ""
  mid := readText ini "CLIENTINFO" "MID"
  ver := (ini "SERVERINFO" "VERSION").getD "3.0.1_R4_B1"
  userId := readText ini "SERVERINFO" "USER_ID"
  comTime := readU32 ini "COMTIME"
  cronTime := readU32 ini "CRONTIME"
  extortionProtect := readFlag ini "EXTORTION_PROTECT"
  extortionSwitch := readFlag ini "EXTORTION_SWITCH"
  selfProtectSwitch := readFlag ini "SELF_PROTECT_SWITCH"
  fastTime := readU32 ini "FASTTIME"
  fileProtect := readFlag ini "FILE_PROTECT"
  fileSwitch := readFlag ini "FILE_SWITCH"
  dynamicSwitch := readFlag ini "DYNAMIC_SWITCH"
  logIpPort := ini "SERVERINFO" "LOGIPPORT"
  logProto := readU32 ini "LOGPROTO"
  logSent := readU32 ini "LOGSENT"
  cliPort := readU32 ini "CLI_SERVER_PORT"
  moduleSwitch := readU32 ini "MODULE_SWITCH"
  openPortSwitch := readFlag ini "OPEN_PORT_SWITCH"
  procProtect := readFlag ini "PROC_PROTECT"
  procSwitch := readFlag ini "PROC_SWITCH"
  scanFileTime := readU32 ini "SCANFILETIME"
  scanProcTime := readU32 ini "SCANPROCTIME"
  serverIpPort := readText ini "SERVERINFO" "SERVERIPPORT"
  serverIp := readText ini "SERVERINFO" "SERVER_IP"
  ifcfg := routeInterface ipRouteGet (readText ini "SERVERINFO" "SERVER_IP")
  serverPort := readU32 ini "SERVER_PORT"
  usbProtect := readFlag ini "USB_PROTECT"
  usbSwitch := readFlag ini "USB_SWITCH"
  syslogDnsSwitch := readFlag ini "DNS_SWITCH"
  syslogInnerSwitch := readFlag ini "INTERNAL_COMMUNICATION_SWITCH"
  syslogOuterSwitch := readFlag ini "EXTERNAL_COMMUNICATION_SWITCH"
  internetSwitch := readFlag ini "INTERNET_SWITCH"
  isOfflineMode := readFlag ini "OFFLINE_MODE"
  syslogProcessSwitch := readFlag ini "SYSLOG_PROCESS_SWITCH"
  syslogLoginSwitch := readFlag ini "SYSLOG_LOGIN_SWITCH"
  hardwareSwitch := readFlag ini "HARDWARE_SWITCH"
  hardwareTime := readU32 ini "HARDWARE_TIME"
  baselineSwitch := readFlag ini "BASELINE_SWITCH"
  baselineTime := readU32 ini "BASELINE_TIME"
  outreachSwitch := readFlag ini "OUTREACH_SWITCH"
  outreachTime := readU32 ini "OUTREACH_TIME"
  devUid := readText ini "HOSTINFO" "DEV_UID"
  macid := readText ini "HOSTINFO" "MACID"
  ips := readText ini "HOSTINFO" "IPS"
  os := readText ini "HOSTINFO" "OS"
  memsize := readText ini "HOSTINFO" "MEMSIZE"
  cpu := readText ini "HOSTINFO" "CPU"
  hdsize := readText ini "HOSTINFO" "HDSIZE"
  auth := readText ini "HOSTINFO" "AUTH"
  hostName := readText ini "HOSTINFO" "HOSTNAME"

/-- The rule that `from_ini` writes for the virtual ports; a failure is ignored. -/
def fromIniRules (ini : Ini.Table) : List Task.NetRule :=
  match ini "SERVERINFO" "OPEN_PORT_SWITCH" with
  | some _ => [.virtualOpenPort (readFlag ini "OPEN_PORT_SWITCH")]
  | none => []

/-- The configuration that `update_config_from_json` makes of the old one. -/
def NetInfoConfig.update (cfg : NetInfoConfig) (conf : Task.Conf) : NetInfoConfig :=
  { cfg with toNetInfoConfig := cfg.toNetInfoConfig.merge conf }

/-- The texts that `to_ini` writes. -/
def NetInfoConfig.texts (cfg : NetInfoConfig) : List String :=
  [cfg.mid, cfg.userId, cfg.logIpPort.getD "", cfg.serverIpPort, cfg.serverIp, cfg.ver, cfg.devUid,
    cfg.macid, cfg.cpu, cfg.auth, cfg.hostName]

/-- No text of the configuration means something else in a file. -/
def NetInfoConfig.Clean (cfg : NetInfoConfig) : Prop := ∀ s ∈ cfg.texts, Ini.isPlain s = true

instance (cfg : NetInfoConfig) : Decidable cfg.Clean :=
  inferInstanceAs (Decidable (∀ s ∈ cfg.texts, Ini.isPlain s = true))

/-- The fields that `to_ini` writes; the others are cleared. -/
def NetInfoConfig.written (cfg : NetInfoConfig) : NetInfoConfig :=
  { cfg with
    appPath := "", ips := "", ifcfg := "", os := "", memsize := "", hdsize := "", modVer := "" }

/-- A configuration is the same on every written field after a restart. -/
def Survives (load : String → Option Ini.Table) (ipRouteGet : String → Except String String)
    (cfg : NetInfoConfig) : Prop :=
  ∃ ini, load cfg.toIni = some ini ∧ (fromIni ipRouteGet ini).written = cfg.written

/-- A name is a plain value. -/
theorem isPlain_of_isName {s : String} (h : Ini.isName s = true) : Ini.isPlain s = true := by
  refine Bool.and_eq_true_iff.mpr ⟨List.all_eq_true.mpr fun c hc => decide_eq_true ?_,
    decide_eq_true (Ini.trim_of_isName h)⟩
  obtain ⟨-, hcomment, -, hspecial⟩ := Ini.of_isName h hc
  have hcomment := by simpa [Ini.isComment] using hcomment
  simp only [List.mem_cons, not_or] at hspecial ⊢
  exact ⟨hspecial.1, hcomment.1, hcomment.2, hspecial.2⟩

/-- A number is a name. -/
theorem isName_decimal (n : UInt32) : Ini.isName (decimal n) = true := by
  have hdigits : (decimal n).toList = Nat.toDigits 10 n.toNat := String.toList_ofList
  refine Bool.and_eq_true_iff.mpr ⟨decide_eq_true ?_, List.all_eq_true.mpr fun c hc => ?_⟩
  · rw [hdigits]
    exact Nat.toDigits_ne_nil
  · rw [hdigits] at hc
    have hdigit := Nat.isDigit_of_mem_toDigits (by decide) (by decide) hc
    simp [Char.isAlphanum, hdigit]

/-- A flag is plain. -/
theorem isPlain_flag (b : Bool) : Ini.isPlain (flag b) = true := by
  cases b <;> decide

/-- A number is read as it was written. -/
theorem parseU32_decimal (n : UInt32) : parseU32 (decimal n) = some n := by
  have hdigits : (decimal n).toList = Nat.toDigits 10 n.toNat := String.toList_ofList
  have hsize : n.toNat < UInt64.size := Nat.lt_trans n.toNat_lt (by decide)
  rw [parseU32, hdigits, Text.parseU64_toDigits hsize, Option.filter_some,
    if_pos (decide_eq_true n.toNat_lt), Option.map_some, UInt32.ofNat_toNat]

/-- A flag is read as it was written. -/
theorem trim_flag (b : Bool) : decide (Text.trim (flag b) = "1") = b := by
  cases b <;> decide

/-- The sections and keys of the file are names. -/
theorem isName_document (cfg : NetInfoConfig) :
    (∀ s ∈ cfg.document, Ini.isName s.name = true) ∧
      ∀ s ∈ cfg.document, ∀ e ∈ s.entries, Ini.isName e.1 = true := by
  simp only [NetInfoConfig.document, NetInfoConfig.clientInfo, NetInfoConfig.serverInfo,
    NetInfoConfig.hostInfo, List.forall_mem_cons, List.not_mem_nil, false_imp_iff, implies_true,
    and_true]
  and_intros <;> exact Ini.isName_ofList rfl

/-- No key is there twice, not even in different sections or letters. -/
theorem nodup_lower_document (cfg : NetInfoConfig) :
    (cfg.document.flatMap fun s => s.entries.map fun e => Ini.lower e.1).Nodup := by
  have hcodes : ∃ codes, (cfg.document.flatMap fun s => s.entries.map fun e => Ini.lower e.1).map
      Ini.code = codes ∧ codes.Nodup := by
    simp only [NetInfoConfig.document, NetInfoConfig.clientInfo, NetInfoConfig.serverInfo,
      NetInfoConfig.hostInfo, List.flatMap_cons, List.flatMap_nil, List.map_cons, List.map_nil,
      List.cons_append, List.nil_append]
    repeat refine Ini.exists_code_cons ?_
    exact ⟨[], rfl, by decide +kernel⟩
  obtain ⟨codes, rfl, hnodup⟩ := hcodes
  exact List.Pairwise.of_map _ (fun p q hne heq => hne (by rw [heq])) hnodup

/-- The keys of the file are different. -/
theorem nodup_keys_document (cfg : NetInfoConfig) : cfg.document.keys.Nodup := by
  have hkeys : cfg.document.keys.map Prod.snd =
      cfg.document.flatMap fun s => s.entries.map fun e => Ini.lower e.1 := by
    rw [Ini.Document.keys, List.map_flatMap]
    simp only [List.map_map, Function.comp_def]
  have hnodup := nodup_lower_document cfg
  rw [← hkeys] at hnodup
  exact List.Pairwise.of_map _ (fun p q hne heq => hne (by rw [heq])) hnodup

/-- The values of a clean configuration are plain. -/
theorem isPlain_document {cfg : NetInfoConfig} (h : cfg.Clean) :
    ∀ s ∈ cfg.document, ∀ e ∈ s.entries, Ini.isPlain e.2 = true := by
  have hdecimal (n : UInt32) : Ini.isPlain (decimal n) = true :=
    isPlain_of_isName (isName_decimal n)
  simp only [NetInfoConfig.Clean, NetInfoConfig.texts, List.forall_mem_cons, List.not_mem_nil,
    false_imp_iff, implies_true, and_true] at h
  simp only [NetInfoConfig.document, NetInfoConfig.clientInfo, NetInfoConfig.serverInfo,
    NetInfoConfig.hostInfo, List.forall_mem_cons, List.not_mem_nil, false_imp_iff, implies_true,
    and_true, hdecimal, isPlain_flag, h]

/-- The file of a clean configuration is a plain document. -/
theorem plain_document {cfg : NetInfoConfig} (h : cfg.Clean) : cfg.document.Plain where
  name := (isName_document cfg).1
  key := (isName_document cfg).2
  value := isPlain_document h
  nodup := nodup_keys_document cfg

/-- What is loaded from the file of a clean configuration. -/
theorem fromIni_of_document {cfg : NetInfoConfig} {ini : Ini.Table}
    (h : ∀ s ∈ cfg.document, ∀ e ∈ s.entries, ini s.name e.1 = some e.2)
    (ipRouteGet : String → Except String String) :
    (fromIni ipRouteGet ini).written =
      { cfg.written with logIpPort := some (cfg.logIpPort.getD "") } := by
  simp only [NetInfoConfig.document, NetInfoConfig.clientInfo, NetInfoConfig.serverInfo,
    NetInfoConfig.hostInfo, List.forall_mem_cons, List.not_mem_nil, false_imp_iff, implies_true,
    and_true] at h
  simp only [fromIni, NetInfoConfig.written, readText, readU32, readFlag, h, Option.getD_some,
    parseU32_decimal, trim_flag]

/-- The file of a clean configuration is loaded. -/
theorem exists_load_toIni {load : String → Option Ini.Table} (hload : Ini.ReadsDocuments load)
    {cfg : NetInfoConfig} (h : cfg.Clean) (ipRouteGet : String → Except String String) :
    ∃ ini, load cfg.toIni = some ini ∧ (fromIni ipRouteGet ini).written =
      { cfg.written with logIpPort := some (cfg.logIpPort.getD "") } := by
  obtain ⟨ini, hini, hentries⟩ := hload cfg.document (plain_document h)
  exact ⟨ini, hini,
    fromIni_of_document (fun s hs e he => hentries s hs e he _ _ rfl rfl) ipRouteGet⟩

/-- A configuration with an address of the log server is the same after a restart on every
field that was written; without one it is not. -/
theorem survives_iff {load : String → Option Ini.Table} (hload : Ini.ReadsDocuments load)
    (ipRouteGet : String → Except String String) {cfg : NetInfoConfig} (h : cfg.Clean) :
    Survives load ipRouteGet cfg ↔ cfg.logIpPort.isSome = true := by
  obtain ⟨ini, hini, hwritten⟩ := exists_load_toIni hload h ipRouteGet
  constructor
  · rintro ⟨ini', hini', hsame⟩
    obtain rfl : ini = ini' := Option.some.inj (hini.symm.trans hini')
    rw [hsame] at hwritten
    have hlog : cfg.logIpPort = some (cfg.logIpPort.getD "") :=
      congrArg (fun c : NetInfoConfig => c.logIpPort) hwritten
    rw [hlog]
    rfl
  · intro hsome
    obtain ⟨address, haddress⟩ := Option.isSome_iff_exists.mp hsome
    refine ⟨ini, hini, ?_⟩
    rw [hwritten, haddress, Option.getD_some, ← haddress]
    rfl

/-- There is no route to any address. -/
def noRoute (_ : String) : Except String String := .error "No such file or directory"

/-- A configuration with nothing but addresses. -/
def plainConfig (serverIp : String) (logIpPort : Option String) : NetInfoConfig :=
  { fromIni noRoute fun _ _ => none with
    serverIp := serverIp, devUid := "A", logIpPort := logIpPort }

/-- Plain texts make a clean configuration. -/
theorem clean_plainConfig {serverIp : String} {logIpPort : Option String}
    (hip : Ini.isPlain serverIp = true) (hlog : Ini.isPlain (logIpPort.getD "") = true) :
    (plainConfig serverIp logIpPort).Clean := by
  have hempty : Ini.isPlain "" = true := by decide
  have hver : Ini.isPlain "3.0.1_R4_B1" = true := Ini.isPlain_ofList rfl
  have huid : Ini.isPlain "A" = true := Ini.isPlain_ofList rfl
  simp only [NetInfoConfig.Clean, NetInfoConfig.texts, plainConfig, fromIni, readText,
    Option.getD_none, List.forall_mem_cons, List.not_mem_nil, false_imp_iff, implies_true, and_true,
    hempty, hver, huid, hip, hlog]

/-- A configuration with a log server survives. -/
theorem survives_with_log_ip_port :
    Survives Ini.load noRoute (plainConfig "10.0.0.1" (some "10.0.0.1:514")) := by
  have hip : Ini.isPlain "10.0.0.1" = true := Ini.isPlain_ofList rfl
  have hlog : Ini.isPlain ((some "10.0.0.1:514").getD "") = true := Ini.isPlain_ofList rfl
  exact (survives_iff Ini.readsDocuments_load noRoute (clean_plainConfig hip hlog)).mpr rfl

/-- Without an address of the log server there is an empty one after the restart. -/
theorem log_ip_port_not_restored :
    ¬∀ load, Ini.ReadsDocuments load → ∀ cfg : NetInfoConfig, cfg.Clean →
      Survives load noRoute cfg := by
  intro hall
  have hclean : (plainConfig "10.0.0.1" none).Clean :=
    clean_plainConfig (Ini.isPlain_ofList rfl) (by decide)
  obtain ⟨ini, hini, hwritten⟩ := exists_load_toIni Ini.readsDocuments_load hclean noRoute
  obtain ⟨ini', hini', hsame⟩ := hall Ini.load Ini.readsDocuments_load _ hclean
  obtain rfl : ini = ini' := Option.some.inj (hini.symm.trans hini')
  rw [hsame] at hwritten
  have hlog := congrArg (fun c : NetInfoConfig => c.logIpPort) hwritten
  cases hlog

end LinuxAgent.Config
