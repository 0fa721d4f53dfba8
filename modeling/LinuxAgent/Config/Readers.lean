import LinuxAgent.AgentCli.StartClient
import LinuxAgent.Config.NetInfo

/-!
# The two readers of the configuration file

The client of the remote console reads `net_info.ini` with a parser of its own, which knows
ports of 16 bits and dotted addresses, perhaps after `https://`. It reads what the agent
means just if these suffice, and if no line break in the address of the log server, which
may come from the management server, has put other lines into the file.
-/

namespace LinuxAgent.Config

open AgentCli

/-- The key and the value in the line of an entry. -/
theorem trim_entryLine {e : String × String} (hkey : Ini.isName e.1 = true) :
    ∃ value, (Text.trim (Ini.entryLine e)).toList = e.1.toList ++ '=' :: value ∧
      (Text.trim e.2 = e.2 → value = e.2.toList) := by
  obtain ⟨hblank, -, -⟩ := Ini.head?_entryLine hkey
  refine ⟨(e.2.toList.reverse.dropWhile Text.isWhiteSpace).reverse, ?_, fun htrim => ?_⟩
  · have hequals : ('=' :: e.1.toList.reverse).dropWhile Text.isWhiteSpace =
        '=' :: e.1.toList.reverse := List.dropWhile_cons_of_neg (by decide)
    rw [Text.trim, String.toList_ofList, Text.trimChars, Text.dropWhile_eq_self hblank,
      Ini.toList_entryLine, List.reverse_append, List.reverse_cons, List.append_assoc,
      List.singleton_append, List.dropWhile_append]
    split
    · next hnil =>
      rw [List.isEmpty_iff.mp hnil, hequals]
      simp
    · simp
  · have hlast := (Text.trim_eq_self_iff.mp htrim).2
    rw [Text.dropWhile_eq_self (by rwa [List.head?_reverse]), List.reverse_reverse]

/-- The line of an entry sets what its key stands for. -/
theorem parseLine_entryLine {e : String × String} (hkey : Ini.isName e.1 = true)
    (state : ClientConfigData × String) :
    ∃ value, parseLine state (Ini.entryLine e) =
        (setEntry state.2 e.1 value state.1).map (fun cfg => (cfg, state.2)) ∧
      (Text.trim e.2 = e.2 → value = e.2) := by
  obtain ⟨value, hline, hvalue⟩ := trim_entryLine hkey
  obtain ⟨c, cs, hcs⟩ := Ini.exists_of_isName hkey
  have hchar {d : Char} (hd : d ∈ e.1.toList) := Ini.of_isName hkey hd
  have hne : Text.trim (Ini.entryLine e) ≠ "" := by
    intro hempty
    rw [hempty, hcs] at hline
    cases hline
  have hsection : sectionName (Text.trim (Ini.entryLine e)) = none := by
    rw [sectionName, if_neg]
    rintro ⟨hhead, -⟩
    rw [hline, hcs] at hhead
    obtain rfl : c = '[' := Option.some.inj hhead
    exact (hchar (hcs ▸ List.mem_cons_self)).2.2.2 (by decide)
  have hsplit :
      Text.splitOnce '=' (Text.trim (Ini.entryLine e)).toList = some (e.1.toList, value) := by
    rw [hline]
    refine Text.splitOnce_append (fun hmem => ?_) value
    exact absurd (hchar hmem).2.2.1 (by decide)
  refine ⟨Text.trim (String.ofList value), ?_, fun htrim => ?_⟩
  · simp only [parseLine, if_neg hne, hsection, hsplit, String.ofList_toList,
      Ini.trim_of_isName hkey]
  · rw [hvalue htrim, String.ofList_toList, htrim]

/-- The line of a section begins it. -/
theorem parseLine_section {name : String} (hname : Ini.isName name = true)
    (state : ClientConfigData × String) :
    parseLine state ("[" ++ name ++ "]") = .ok (state.1, name) := by
  have hline : ("[" ++ name ++ "]").toList = '[' :: (name.toList ++ [']']) := by simp
  have hlast : ('[' :: (name.toList ++ [']'])).getLast? = some ']' := by
    rw [← List.cons_append, List.getLast?_append]
    rfl
  have htrim : Text.trim ("[" ++ name ++ "]") = "[" ++ name ++ "]" := by
    rw [Text.trim_eq_self_iff, hline, hlast]
    exact ⟨rfl, rfl⟩
  have hne : "[" ++ name ++ "]" ≠ "" := by
    intro hempty
    rw [hempty] at hline
    cases hline
  have hsection : sectionName ("[" ++ name ++ "]") = some name := by
    rw [sectionName, hline, if_pos ⟨rfl, hlast⟩, List.tail_cons, List.dropLast_concat,
      String.ofList_toList, Ini.trim_of_isName hname]
  simp only [parseLine, htrim, if_neg hne, hsection]

/-- The keys that the client looks for. -/
def clientKeys : List String := ["CLI_SERVER_PORT", "SERVER_IP", "DEV_UID"]

/-- Other keys set nothing. -/
theorem setEntry_of_not_mem {sec key value : String} (hkey : key ∉ clientKeys)
    (cfg : ClientConfigData) : setEntry sec key value cfg = .ok cfg := by
  simp only [clientKeys, List.mem_cons, List.not_mem_nil, or_false, not_or] at hkey
  simp only [setEntry, hkey, if_false, and_false, ite_self]

/-- The lines of other keys change nothing. -/
theorem foldlM_of_not_mem {entries : List (String × String)}
    (hname : ∀ e ∈ entries, Ini.isName e.1 = true) (hkey : ∀ e ∈ entries, e.1 ∉ clientKeys)
    (state : ClientConfigData × String) :
    (entries.map Ini.entryLine).foldlM parseLine state = .ok state := by
  induction entries with
  | nil => rfl
  | cons e entries ih =>
    obtain ⟨value, hline, -⟩ := parseLine_entryLine (hname e List.mem_cons_self) state
    rw [List.map_cons, List.foldlM_cons, hline, setEntry_of_not_mem (hkey e List.mem_cons_self)]
    exact ih (fun x hx => hname x (List.mem_cons_of_mem e hx))
      (fun x hx => hkey x (List.mem_cons_of_mem e hx))

/-- The texts but for the address of the log server are trimmed and have no line break. -/
def NetInfoConfig.OneLine (cfg : NetInfoConfig) : Prop :=
  ∀ s ∈ [cfg.mid, cfg.userId, cfg.serverIpPort, cfg.serverIp, cfg.ver, cfg.devUid, cfg.macid,
    cfg.cpu, cfg.auth, cfg.hostName], '\n' ∉ s.toList ∧ Text.trim s = s

/-- The texts that `from_ini` reads are trimmed and have no line break. -/
theorem oneLine_fromIni {load : String → Option Ini.Table} (hload : Ini.ReadsLines load)
    {text : String} {ini : Ini.Table} (hini : load text = some ini)
    (ipRouteGet : String → Except String String) : (fromIni ipRouteGet ini).OneLine := by
  have hget (sec key fallback : String) (hfallback : '\n' ∉ fallback.toList ∧
      Text.trim fallback = fallback) : '\n' ∉ ((ini sec key).getD fallback).toList ∧
      Text.trim ((ini sec key).getD fallback) = (ini sec key).getD fallback := by
    cases hvalue : ini sec key with
    | none => exact hfallback
    | some value => exact hload text ini sec key value hini hvalue
  have hempty (sec key : String) := hget sec key "" (by decide)
  have hversion := hget "SERVERINFO" "VERSION" "3.0.1_R4_B1" (by decide +kernel)
  simp only [NetInfoConfig.OneLine, fromIni, readText, List.forall_mem_cons, List.not_mem_nil,
    false_imp_iff, implies_true, and_true]
  exact ⟨hempty _ _, hempty _ _, hempty _ _, hempty _ _, hversion, hempty _ _, hempty _ _,
    hempty _ _, hempty _ _, hempty _ _⟩

/-- Updates set none of these texts. -/
theorem NetInfoConfig.OneLine.foldl_update {cfg : NetInfoConfig} (h : cfg.OneLine)
    (confs : List Task.Conf) : (confs.foldl NetInfoConfig.update cfg).OneLine := by
  induction confs generalizing cfg with
  | nil => exact h
  | cons conf confs ih => exact @ih (cfg.update conf) h

/-- The entries of the server, around those that matter here. -/
theorem exists_entries_serverInfo {cfg : NetInfoConfig} (h : cfg.OneLine) :
    ∃ before between middle after, cfg.serverInfo.entries =
        before ++ ("LOGIPPORT", cfg.logIpPort.getD "") ::
          (between ++ ("CLI_SERVER_PORT", decimal cfg.cliPort) ::
            (middle ++ ("SERVER_IP", cfg.serverIp) :: after)) ∧
      ∀ e ∈ before ++ between ++ middle ++ after,
        Ini.isName e.1 = true ∧ e.1 ∉ clientKeys ∧ '\n' ∉ e.2.toList := by
  refine ⟨cfg.serverInfo.entries.take 9, (cfg.serverInfo.entries.drop 10).take 2,
    (cfg.serverInfo.entries.drop 13).take 8, cfg.serverInfo.entries.drop 22, rfl, ?_⟩
  have hdecimal (n : UInt32) : '\n' ∉ (decimal n).toList := fun hmem =>
    (Ini.of_isName (isName_decimal n) hmem).2.2.2 (by decide)
  have hflag (b : Bool) : '\n' ∉ (flag b).toList := by cases b <;> decide
  simp only [NetInfoConfig.OneLine, List.forall_mem_cons, List.not_mem_nil, false_imp_iff,
    implies_true, and_true] at h
  have hname := (isName_document cfg).2 cfg.serverInfo (by simp [NetInfoConfig.document])
  simp only [NetInfoConfig.serverInfo, List.forall_mem_cons, List.not_mem_nil, false_imp_iff,
    implies_true, and_true] at hname
  simp only [NetInfoConfig.serverInfo, List.take_succ_cons, List.take_zero, List.drop_succ_cons,
    List.drop_zero, List.cons_append, List.nil_append, List.forall_mem_cons, List.not_mem_nil,
    false_imp_iff, implies_true, and_true, hname, h, hdecimal, hflag, true_and, not_false_eq_true]
  and_intros <;> decide +kernel

/-- The lines that a line break in the address of the log server puts into the file, read as
lines of the section of the server. -/
def readExtra (logIpPort : Option String) : Except IniError (ClientConfigData × String) :=
  (Text.split '\n' (logIpPort.getD "")).tail.foldlM parseLine ({}, "SERVERINFO")

/-- What the client makes of the entries after the address of the log server. -/
def readRest (cfg : NetInfoConfig) (state : ClientConfigData × String) :
    Except IniError (ClientConfigData × String) := do
  let client ← setEntry state.2 "CLI_SERVER_PORT" (decimal cfg.cliPort) state.1
  let client ← setEntry state.2 "SERVER_IP" cfg.serverIp client
  pure (client, state.2)

/-- The lines of entries that have no line break. -/
theorem flatMap_split_entryLine {entries : List (String × String)}
    (h : ∀ e ∈ entries, Ini.isName e.1 = true ∧ '\n' ∉ e.2.toList) :
    (entries.map Ini.entryLine).flatMap (Text.split '\n') = entries.map Ini.entryLine := by
  rw [List.flatMap_map, List.flatMap_def,
    List.map_congr_left fun e he => Ini.split_entryLine (h e he).1 (h e he).2, ← List.flatMap_def,
    ← List.map_eq_flatMap]

/-- What follows a result. -/
theorem ok_bind {α β : Type} (a : α) (next : α → Except IniError β) :
    (Except.ok a >>= next) = next a := rfl

/-- Nothing follows an error. -/
theorem error_bind {α β : Type} (e : IniError) (next : α → Except IniError β) :
    (Except.error e >>= next) = Except.error e := rfl

/-- Entries of other keys change nothing. -/
theorem foldlM_quiet {entries : List (String × String)} (h : ∀ e ∈ entries,
      Ini.isName e.1 = true ∧ e.1 ∉ clientKeys ∧ '\n' ∉ e.2.toList)
    (state : ClientConfigData × String) :
    ((entries.map Ini.entryLine).flatMap (Text.split '\n')).foldlM parseLine state = .ok state := by
  rw [flatMap_split_entryLine fun e he => ⟨(h e he).1, (h e he).2.2⟩]
  exact foldlM_of_not_mem (fun e he => (h e he).1) (fun e he => (h e he).2.1) state

/-- An entry sets what its key stands for. -/
theorem foldlM_entry {e : String × String} (hkey : Ini.isName e.1 = true)
    (hbreak : '\n' ∉ e.2.toList) (htrim : Text.trim e.2 = e.2) (state : ClientConfigData × String) :
    (Text.split '\n' (Ini.entryLine e)).foldlM parseLine state =
      (setEntry state.2 e.1 e.2 state.1).map fun client => (client, state.2) := by
  obtain ⟨value, hline, hvalue⟩ := parseLine_entryLine hkey state
  rw [Ini.split_entryLine hkey hbreak, List.foldlM_cons, hline, hvalue htrim]
  cases setEntry state.2 e.1 e.2 state.1 <;> rfl

/-- The lines of the address of the log server: the first one sets nothing. -/
theorem foldlM_logIpPort (cfg : NetInfoConfig) :
    (Text.split '\n' (Ini.entryLine ("LOGIPPORT", cfg.logIpPort.getD ""))).foldlM parseLine
      ({}, "SERVERINFO") = readExtra cfg.logIpPort := by
  have hname : Ini.isName "LOGIPPORT" = true := Ini.isName_ofList rfl
  have hbreak : '\n' ∉ ("LOGIPPORT" ++ "=").toList := by decide
  obtain ⟨first, rest, hsplit, hline⟩ := Text.split_append hbreak (cfg.logIpPort.getD "")
  obtain ⟨value, hfirst, -⟩ :=
    parseLine_entryLine (e := ("LOGIPPORT", first)) hname ({}, "SERVERINFO")
  have hquiet : "LOGIPPORT" ∉ clientKeys := by decide
  rw [Ini.entryLine] at hfirst
  rw [Ini.entryLine, hline, List.foldlM_cons, hfirst, setEntry_of_not_mem hquiet, readExtra, hsplit]
  rfl

/-- The lines of the entries of the server. -/
theorem foldlM_serverInfo {cfg : NetInfoConfig} (h : cfg.OneLine) :
    ((cfg.serverInfo.entries.map Ini.entryLine).flatMap (Text.split '\n')).foldlM parseLine
      ({}, "SERVERINFO") = (readExtra cfg.logIpPort).bind (readRest cfg) := by
  obtain ⟨before, between, middle, after, hentries, hquiet⟩ := exists_entries_serverInfo h
  have hsub {entries : List (String × String)}
      (hin : ∀ e ∈ entries, e ∈ before ++ between ++ middle ++ after)
      (state : ClientConfigData × String) := foldlM_quiet (fun e he => hquiet e (hin e he)) state
  have hport : Ini.isName "CLI_SERVER_PORT" = true := Ini.isName_ofList rfl
  have haddress : Ini.isName "SERVER_IP" = true := Ini.isName_ofList rfl
  have hdecimal : '\n' ∉ (decimal cfg.cliPort).toList := fun hmem =>
    (Ini.of_isName (isName_decimal cfg.cliPort) hmem).2.2.2 (by decide)
  have hip := h cfg.serverIp (by simp)
  have hsetPort := foldlM_entry (e := ("CLI_SERVER_PORT", decimal cfg.cliPort)) hport hdecimal
    (Ini.trim_of_isName (isName_decimal _))
  have hsetIp := foldlM_entry (e := ("SERVER_IP", cfg.serverIp)) haddress hip.1 hip.2
  rw [hentries]
  simp only [List.map_append, List.map_cons, List.flatMap_append, List.flatMap_cons,
    List.foldlM_append]
  rw [hsub (by simp +contextual), ok_bind, foldlM_logIpPort]
  cases readExtra cfg.logIpPort with
  | error e => rw [error_bind, Except.bind]
  | ok state =>
    rw [ok_bind, hsub (by simp +contextual), ok_bind, Except.bind, readRest, hsetPort]
    cases setEntry state.2 "CLI_SERVER_PORT" (decimal cfg.cliPort) state.1 with
    | error e => rw [Except.map, error_bind, error_bind]
    | ok client =>
      rw [Except.map, ok_bind, hsub (by simp +contextual), ok_bind, ok_bind, hsetIp]
      cases setEntry state.2 "SERVER_IP" cfg.serverIp client with
      | error e => rw [Except.map, error_bind, error_bind]
      | ok client =>
        rw [Except.map, ok_bind, ok_bind, hsub (by simp +contextual)]
        rfl

/-- The lines of a section are read as lines of this section. -/
theorem foldlM_section_lines {s : Ini.Section} (hname : Ini.isName s.name = true)
    (client : ClientConfigData) (sec : String) :
    (s.lines.flatMap (Text.split '\n')).foldlM parseLine (client, sec) =
      ((s.entries.map Ini.entryLine).flatMap (Text.split '\n')).foldlM parseLine
        (client, s.name) := by
  rw [Ini.Section.lines, List.flatMap_cons, Ini.split_section hname, List.singleton_append,
    List.foldlM_cons, parseLine_section hname, ok_bind]

/-- The section of the client sets nothing. -/
theorem foldlM_clientInfo {cfg : NetInfoConfig} (h : cfg.OneLine)
    (state : ClientConfigData × String) :
    ((cfg.clientInfo.entries.map Ini.entryLine).flatMap (Text.split '\n')).foldlM parseLine state =
      .ok state := by
  refine foldlM_quiet (fun e he => ?_) state
  obtain rfl := List.mem_singleton.mp he
  have hquiet : "MID" ∉ clientKeys := by decide
  exact ⟨Ini.isName_ofList rfl, hquiet, (h cfg.mid (by simp)).1⟩

/-- The section of the host sets the id of the device. -/
theorem foldlM_hostInfo {cfg : NetInfoConfig} (h : cfg.OneLine) (client : ClientConfigData) :
    ((cfg.hostInfo.entries.map Ini.entryLine).flatMap (Text.split '\n')).foldlM parseLine
      (client, "HOSTINFO") = .ok ({ client with devUid := cfg.devUid }, "HOSTINFO") := by
  have huid := h cfg.devUid (by simp)
  have hset := foldlM_entry (e := ("DEV_UID", cfg.devUid)) (Ini.isName_ofList rfl) huid.1 huid.2
  have hentry : setEntry "HOSTINFO" "DEV_UID" cfg.devUid client =
      .ok { client with devUid := cfg.devUid } := by
    rw [setEntry, if_neg (by decide), if_pos ⟨rfl, rfl⟩]
  have hothers : ∀ e ∈ cfg.hostInfo.entries.tail,
      Ini.isName e.1 = true ∧ e.1 ∉ clientKeys ∧ '\n' ∉ e.2.toList := by
    simp only [NetInfoConfig.OneLine, List.forall_mem_cons, List.not_mem_nil, false_imp_iff,
      implies_true, and_true] at h
    simp only [NetInfoConfig.hostInfo, List.tail_cons, List.forall_mem_cons, List.not_mem_nil,
      false_imp_iff, implies_true, and_true, h, not_false_eq_true]
    and_intros <;> first | exact Ini.isName_ofList rfl | decide
  have hentries : cfg.hostInfo.entries = ("DEV_UID", cfg.devUid) :: cfg.hostInfo.entries.tail := rfl
  rw [hentries, List.map_cons, List.flatMap_cons, List.foldlM_append, hset]
  rw [hentry, Except.map, ok_bind, foldlM_quiet hothers]

/-- The lines of the file. -/
theorem foldlM_toIni {cfg : NetInfoConfig} (h : cfg.OneLine) :
    (Text.lines cfg.toIni).foldlM parseLine ({}, "") =
      ((readExtra cfg.logIpPort).bind (readRest cfg)).map fun state =>
        ({ state.1 with devUid := cfg.devUid }, "HOSTINFO") := by
  have hname := (isName_document cfg).1
  simp only [NetInfoConfig.document, List.forall_mem_cons, List.not_mem_nil, false_imp_iff,
    implies_true, and_true] at hname
  rw [NetInfoConfig.toIni, Ini.Document.text, Text.lines_unlines, NetInfoConfig.document]
  simp only [List.flatMap_cons, List.flatMap_nil, List.append_nil, List.flatMap_append,
    List.foldlM_append]
  have hserver : cfg.serverInfo.name = "SERVERINFO" := rfl
  have hhost : cfg.hostInfo.name = "HOSTINFO" := rfl
  rw [foldlM_section_lines hname.1, foldlM_clientInfo h, ok_bind, foldlM_section_lines hname.2.1,
    hserver, foldlM_serverInfo h]
  cases (readExtra cfg.logIpPort).bind (readRest cfg) with
  | error e => rw [error_bind, Except.map]
  | ok state => rw [ok_bind, foldlM_section_lines hname.2.2, hhost, foldlM_hostInfo h, Except.map]

/-- What `parse_ini_file` makes of the file. -/
theorem parseIniFile_toIni {cfg : NetInfoConfig} (h : cfg.OneLine) (huid : cfg.devUid ≠ "") :
    parseIniFile (some cfg.toIni) =
      match (readExtra cfg.logIpPort).bind (readRest cfg) with
      | .error e => .error e
      | .ok (client, _) =>
        if client.serverIp = "" then .error .noServerIp
        else .ok { client with devUid := cfg.devUid } := by
  rw [parseIniFile, foldlM_toIni h]
  cases (readExtra cfg.logIpPort).bind (readRest cfg) with
  | error e => rfl
  | ok state =>
    simp only [Except.map, if_neg huid]

/-- A number of 32 bits that the client reads. -/
theorem parseU16_decimal (n : UInt32) :
    parseU16 (decimal n).toList = if n.toNat < UInt16.size then some n.toNat else none := by
  have hdigits : (decimal n).toList = Nat.toDigits 10 n.toNat := String.toList_ofList
  have hsize : n.toNat < UInt64.size := Nat.lt_trans n.toNat_lt (by decide)
  rw [parseU16, hdigits, Text.parseU64_toDigits hsize, Option.filter_some]
  simp only [decide_eq_true_eq]

/-- In another section the client reads neither the port nor the address. -/
theorem readRest_of_ne {client : ClientConfigData} {sec : String} (hsec : sec ≠ "SERVERINFO")
    (cfg : NetInfoConfig) : readRest cfg (client, sec) = .ok (client, sec) := by
  have hset {key value : String} (hkey : key ≠ "DEV_UID") (client : ClientConfigData) :
      setEntry sec key value client = .ok client := by
    rw [setEntry, if_neg hsec, if_neg fun h => hkey h.2]
  rw [readRest, hset (by decide), ok_bind, hset (by decide), ok_bind]
  rfl

/-- In the section of the server it reads them just if the port has 16 bits and the address is
dotted. -/
theorem readRest_serverInfo (cfg : NetInfoConfig) (client : ClientConfigData) :
    readRest cfg (client, "SERVERINFO") =
      if ¬cfg.cliPort.toNat < UInt16.size then .error (.invalidPort (decimal cfg.cliPort))
      else if (Text.parseIpv4 (stripScheme cfg.serverIp)).isSome then
        .ok (⟨cfg.cliPort.toNat, client.devUid, stripScheme cfg.serverIp⟩, "SERVERINFO")
      else .error (.invalidIp cfg.serverIp) := by
  have haddress (client : ClientConfigData) :
      setEntry "SERVERINFO" "SERVER_IP" cfg.serverIp client =
      if (Text.parseIpv4 (stripScheme cfg.serverIp)).isSome then
        .ok { client with serverIp := stripScheme cfg.serverIp }
      else .error (.invalidIp cfg.serverIp) := by
    rw [setEntry, if_pos rfl, if_neg (by decide), if_pos rfl]
  have hport : setEntry "SERVERINFO" "CLI_SERVER_PORT" (decimal cfg.cliPort) client =
      if cfg.cliPort.toNat < UInt16.size then .ok { client with port := cfg.cliPort.toNat }
      else .error (.invalidPort (decimal cfg.cliPort)) := by
    rw [setEntry, if_pos rfl, if_pos rfl, parseU16_decimal]
    by_cases hsize : cfg.cliPort.toNat < UInt16.size
    · simp only [if_pos hsize]
    · simp only [if_neg hsize]
  rw [readRest, hport]
  by_cases hsize : cfg.cliPort.toNat < UInt16.size
  · rw [if_pos hsize, ok_bind, haddress, if_neg (not_not.mpr hsize)]
    split <;> rfl
  · rw [if_neg hsize, error_bind, if_pos hsize]

/-- `extract_ip` cuts the scheme off as the console does, if what the console leaves has none of
the letters of a scheme. -/
theorem withoutStart_or_getD {s : String} (h : 'h' ∉ (stripScheme s).toList) :
    ((withoutStart "http://" s).or (withoutStart "https://" s)).getD s = stripScheme s := by
  by_cases hsecure : "https://".toList.isPrefixOf s.toList = true
  · obtain ⟨rest, hrest⟩ := List.isPrefixOf_iff_prefix.mp hsecure
    have hplain : "http://".toList.isPrefixOf s.toList = false := by
      rw [← hrest]
      rfl
    rw [withoutStart, hplain, if_neg Bool.false_ne_true, withoutStart, if_pos hsecure,
      stripScheme, if_pos hsecure, Option.none_or, Option.getD_some]
  · have hsame : stripScheme s = s := by rw [stripScheme, if_neg hsecure]
    have hplain : ¬"http://".toList.isPrefixOf s.toList = true := by
      intro hplain
      obtain ⟨rest, hrest⟩ := List.isPrefixOf_iff_prefix.mp hplain
      have hmem : 'h' ∈ (stripScheme s).toList := by
        rw [hsame, ← hrest]
        exact List.mem_append_left _ (by decide)
      exact h hmem
    rw [withoutStart, if_neg hplain, withoutStart, if_neg hsecure, hsame, Option.none_or,
      Option.getD_none]

/-- An address that the client accepts is the one that `extract_ip` obtains. -/
theorem stripScheme_eq {s ip : String} (hdotted : (Text.parseIpv4 (stripScheme s)).isSome = true)
    (hip : extractIp s = some ip) : stripScheme s = ip := by
  have hdigit {c : Char} (hc : c ∈ (stripScheme s).toList) (hdot : c ≠ '.') : c.isDigit = true :=
    Text.isDigit_of_parseIpv4 hdotted hc hdot
  have hnot {c : Char} (hdot : c ≠ '.') (hc : c.isDigit = false) : c ∉ (stripScheme s).toList :=
    fun hmem => Bool.false_ne_true (hc.symm.trans (hdigit hmem hdot))
  have hscheme := withoutStart_or_getD (hnot (c := 'h') (by decide) (by decide))
  have hhead : (stripScheme s).toList.head? ≠ some '[' := fun hhead =>
    hnot (by decide) (by decide) (List.mem_of_mem_head? hhead)
  have hhost : (stripScheme s).toList.takeWhile (· ≠ ':') = (stripScheme s).toList := by
    refine List.takeWhile_eq_self_iff.mpr fun c hc => decide_eq_true ?_
    rintro rfl
    exact hnot (by decide) (by decide) hc
  simp only [extractIp, hscheme, if_neg hhead, hhost, String.ofList_toList] at hip
  split at hip
  · exact Option.some.inj hip
  · cases hip

/-- The address that `extract_ip` obtains is not empty. -/
theorem extractIp_ne_empty {s ip : String} (hip : extractIp s = some ip) : ip ≠ "" := by
  simp only [extractIp, Option.ite_none_right_eq_some, Option.some.injEq] at hip
  obtain ⟨haddr, rfl⟩ := hip
  intro hempty
  rw [hempty] at haddr
  exact absurd haddr (by decide)

/-- The client of the console reads the port and the id of the configuration, and this address. -/
def Agree (cfg : NetInfoConfig) (ip : String) : Prop :=
  parseIniFile (some cfg.toIni) = .ok ⟨cfg.cliPort.toNat, cfg.devUid, ip⟩

/-- The port has 16 bits and the address is dotted, perhaps after `https://`, unless lines in the
address of the log server end the section of the server: then these have to set the same. -/
def Readable (cfg : NetInfoConfig) (ip : String) : Prop :=
  ∃ client sec, readExtra cfg.logIpPort = .ok (client, sec) ∧
    if sec = "SERVERINFO" then
      cfg.cliPort.toNat < UInt16.size ∧ (Text.parseIpv4 (stripScheme cfg.serverIp)).isSome = true
    else client.port = cfg.cliPort.toNat ∧ client.serverIp = ip

/-- Without a line break in the address of the log server there are no such lines. -/
theorem readable_iff {cfg : NetInfoConfig} (hlog : '\n' ∉ (cfg.logIpPort.getD "").toList)
    (ip : String) : Readable cfg ip ↔ cfg.cliPort.toNat < UInt16.size ∧
      (Text.parseIpv4 (stripScheme cfg.serverIp)).isSome = true := by
  have hextra : readExtra cfg.logIpPort = .ok ({}, "SERVERINFO") := by
    rw [readExtra, Text.split_eq_singleton hlog]
    rfl
  refine ⟨?_, fun h => ⟨_, _, hextra, by rwa [if_pos rfl]⟩⟩
  rintro ⟨client, sec, hread, hcond⟩
  obtain ⟨-, rfl⟩ := Prod.mk.inj (Except.ok.inj (hextra.symm.trans hread))
  rwa [if_pos rfl] at hcond

/-- The readers agree on a configuration of trimmed lines just if it is readable. -/
theorem agree_iff_of_oneLine {cfg : NetInfoConfig} (h : cfg.OneLine) (huid : cfg.devUid ≠ "")
    {ip : String} (hip : extractIp cfg.serverIp = some ip) : Agree cfg ip ↔ Readable cfg ip := by
  rw [Agree, parseIniFile_toIni h huid, Readable]
  cases hextra : readExtra cfg.logIpPort with
  | error e =>
    refine iff_of_false nofun ?_
    rintro ⟨client, sec, hread, -⟩
    cases hread
  | ok state =>
    obtain ⟨client, sec⟩ := state
    have hread (p : ClientConfigData → String → Prop) : (∃ client' sec',
        (Except.ok (client, sec) : Except IniError (ClientConfigData × String)) =
          .ok (client', sec') ∧ p client' sec') ↔ p client sec := by
      refine ⟨?_, fun hp => ⟨client, sec, rfl, hp⟩⟩
      rintro ⟨client', sec', heq, hp⟩
      obtain ⟨rfl, rfl⟩ := Prod.mk.inj (Except.ok.inj heq)
      exact hp
    rw [hread, Except.bind]
    by_cases hsec : sec = "SERVERINFO"
    · subst hsec
      rw [readRest_serverInfo, if_pos rfl]
      by_cases hsize : cfg.cliPort.toNat < UInt16.size
      · rw [if_neg (not_not.mpr hsize)]
        by_cases hdotted : (Text.parseIpv4 (stripScheme cfg.serverIp)).isSome = true
        · have haddress := stripScheme_eq hdotted hip
          have hne := extractIp_ne_empty hip
          refine iff_of_true ?_ ⟨hsize, hdotted⟩
          rw [if_pos hdotted]
          simp only [haddress, if_neg hne]
        · rw [if_neg hdotted]
          exact iff_of_false nofun fun hcond => hdotted hcond.2
      · rw [if_pos hsize]
        exact iff_of_false nofun fun hcond => hsize hcond.1
    · rw [readRest_of_ne hsec, if_neg hsec]
      by_cases hnone : client.serverIp = ""
      · simp only [if_pos hnone]
        refine iff_of_false nofun fun hcond => extractIp_ne_empty hip ?_
        rw [← hcond.2, hnone]
      · simp only [if_neg hnone, Except.ok.injEq, ClientConfigData.mk.injEq, true_and]

/-- In every configuration that comes from a file and any updates, with an id and an address, the
client of the console reads what the agent means just if it is readable. -/
theorem agree_iff {load : String → Option Ini.Table} (hload : Ini.ReadsLines load)
    (ipRouteGet : String → Except String String) {text : String} {ini : Ini.Table}
    (hini : load text = some ini) (confs : List Task.Conf) {cfg : NetInfoConfig}
    (hcfg : cfg = confs.foldl NetInfoConfig.update (fromIni ipRouteGet ini))
    (huid : cfg.devUid ≠ "") {ip : String} (hip : extractIp cfg.serverIp = some ip) :
    Agree cfg ip ↔ Readable cfg ip := by
  have hline : cfg.OneLine := hcfg ▸ (oneLine_fromIni hload hini ipRouteGet).foldl_update confs
  exact agree_iff_of_oneLine hline huid hip

/-- A file with the address of the server and the id of the device. -/
def sampleFile : Ini.Document :=
  [⟨"SERVERINFO", [("SERVER_IP", "https://10.0.0.1")]⟩, ⟨"HOSTINFO", [("DEV_UID", "A")]⟩]

/-- An update of the port of the console and the address of the log server. -/
def portConf (port : UInt64) : Task.Conf :=
  [("debug_switch", .uint port), ("logipport", .string "10.0.0.1:514")]

/-- The file of the example is plain. -/
theorem plain_sampleFile : sampleFile.Plain := by
  refine ⟨?_, ?_, ?_, by decide +kernel⟩
  · simp only [sampleFile, List.forall_mem_cons, List.not_mem_nil, false_imp_iff, implies_true,
      and_true]
    exact ⟨Ini.isName_ofList rfl, Ini.isName_ofList rfl⟩
  · simp only [sampleFile, List.forall_mem_cons, List.not_mem_nil, false_imp_iff, implies_true,
      and_true]
    exact ⟨Ini.isName_ofList rfl, Ini.isName_ofList rfl⟩
  · simp only [sampleFile, List.forall_mem_cons, List.not_mem_nil, false_imp_iff, implies_true,
      and_true]
    exact ⟨Ini.isPlain_ofList rfl, Ini.isPlain_ofList rfl⟩

/-- The configuration of this file after the update. -/
theorem exists_load_sampleFile : ∃ ini, Ini.load sampleFile.text = some ini ∧ ∀ port,
    ((fromIni noRoute ini).update (portConf port)).devUid = "A" ∧
      ((fromIni noRoute ini).update (portConf port)).serverIp = "https://10.0.0.1" ∧
      ((fromIni noRoute ini).update (portConf port)).logIpPort = some "10.0.0.1:514" := by
  obtain ⟨ini, hini, hentries⟩ := Ini.readsDocuments_load sampleFile plain_sampleFile
  simp only [sampleFile, List.forall_mem_cons, List.not_mem_nil, false_imp_iff, implies_true,
    and_true] at hentries
  have hip : ini "SERVERINFO" "SERVER_IP" = some "https://10.0.0.1" := hentries.1 _ _ rfl rfl
  have huid : ini "HOSTINFO" "DEV_UID" = some "A" := hentries.2 _ _ rfl rfl
  refine ⟨ini, hini, fun port => ⟨?_, ?_, rfl⟩⟩
  · simp only [NetInfoConfig.update, fromIni, readText, huid, Option.getD_some]
  · simp only [NetInfoConfig.update, fromIni, readText, hip, Option.getD_some]

/-- The address of the example. -/
theorem extractIp_sample : extractIp "https://10.0.0.1" = some "10.0.0.1" := by decide +kernel

/-- The readers agree on the file of the example after an update. -/
theorem agree_with_dotted : ∃ ini, Ini.load sampleFile.text = some ini ∧
    Agree ([portConf 7000].foldl NetInfoConfig.update (fromIni noRoute ini)) "10.0.0.1" := by
  obtain ⟨ini, hini, hsample⟩ := exists_load_sampleFile
  obtain ⟨huid, hip, hlog⟩ := hsample 7000
  refine ⟨ini, hini, ?_⟩
  refine (agree_iff Ini.readsLines_load noRoute hini [portConf 7000] rfl ?_ ?_).mpr ?_
  · simp only [List.foldl_cons, List.foldl_nil, huid]
    decide
  · simp only [List.foldl_cons, List.foldl_nil, hip, extractIp_sample]
  · simp only [List.foldl_cons, List.foldl_nil]
    have hport : ((fromIni noRoute ini).update (portConf 7000)).cliPort = 7000 := rfl
    rw [readable_iff (by rw [hlog]; decide), hip, hport]
    decide +kernel

/-- A port that does not fit 16 bits shuts the console out. -/
theorem port_not_read :
    ¬∀ load, Ini.ReadsLines load → ∀ text ini, load text = some ini →
      ∀ (confs : List Task.Conf) (cfg : NetInfoConfig),
        cfg = confs.foldl NetInfoConfig.update (fromIni noRoute ini) → cfg.devUid ≠ "" →
          ∀ ip, extractIp cfg.serverIp = some ip → Agree cfg ip := by
  intro hall
  obtain ⟨ini, hini, hsample⟩ := exists_load_sampleFile
  obtain ⟨huid, hip, hlog⟩ := hsample 70000
  have hne : ((fromIni noRoute ini).update (portConf 70000)).devUid ≠ "" := by
    rw [huid]
    decide
  have hextract : extractIp ((fromIni noRoute ini).update (portConf 70000)).serverIp =
      some "10.0.0.1" := by rw [hip, extractIp_sample]
  have hagree := hall Ini.load Ini.readsLines_load _ ini hini [portConf 70000] _ rfl hne _ hextract
  have hline := (oneLine_fromIni Ini.readsLines_load hini noRoute).foldl_update [portConf 70000]
  have hreadable := (agree_iff_of_oneLine hline hne hextract).mp hagree
  have hsize := ((readable_iff (by rw [List.foldl_cons, List.foldl_nil, hlog]; decide) _).mp
    hreadable).1
  have hport : ((fromIni noRoute ini).update (portConf 70000)).cliPort = 70000 := rfl
  rw [List.foldl_cons, List.foldl_nil, hport] at hsize
  exact absurd hsize (by decide)

end LinuxAgent.Config
