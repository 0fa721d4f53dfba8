import LinuxAgent.Lib.Text
import Mathlib.Data.List.Dedup
import Mathlib.Data.List.Sort

/-!
# The table of business ports

The ports that something listens on, the ports of the DNAT rules and those of the containers are
kept in one table, by the port and by a text. Three functions fill it, each under the lock of the
table: `update_netstat_info` empties it and puts in the listening sockets, `update_dnat_info` and
`update_docker_info` add to it. The readers take the ports from one of the two maps.
-/

namespace LinuxAgent.HostInfo

/-- `PortBusinessInfo`. -/
structure PortBusinessInfo where
  time : ℤ
  protocol : String
  localIp : String
  localPort : ℕ
  remoteIp : String
  remotePort : String
  status : String
  pid : ℤ
  processPath : String
  deriving DecidableEq

/-- `NetAppState`: the two maps, each as a list of its entries. -/
structure NetAppState where
  portMap : List (ℕ × PortBusinessInfo) := []
  portStrMap : List (String × PortBusinessInfo) := []
  deriving DecidableEq

section Maps

variable {κ : Type} [DecidableEq κ]

/-- An entry is added if there is none with the key. -/
def insertNew (key : κ) (info : PortBusinessInfo) (m : List (κ × PortBusinessInfo)) :
    List (κ × PortBusinessInfo) :=
  if m.any fun e => e.1 = key then m else m ++ [(key, info)]

/-- An entry is added and replaces the one with the key. -/
def insertEntry (key : κ) (info : PortBusinessInfo) (m : List (κ × PortBusinessInfo)) :
    List (κ × PortBusinessInfo) :=
  (m.filter fun e => e.1 ≠ key) ++ [(key, info)]

end Maps

/-- The value of a hexadecimal digit. -/
def hexValue (c : Char) : Option ℕ :=
  if c.isDigit then some (c.toNat - '0'.toNat)
  else if 'a' ≤ c ∧ c ≤ 'f' then some (c.toNat - 'a'.toNat + 10)
  else if 'A' ≤ c ∧ c ≤ 'F' then some (c.toNat - 'A'.toNat + 10)
  else none

/-- `from_str_radix` with the base 16, for numbers below `size`. -/
def fromHex (size : ℕ) (cs : List Char) : Option ℕ :=
  let digits := if cs.head? = some '+' then cs.tail else cs
  if digits = [] then none
  else
    (digits.foldl (fun acc c => acc.bind fun n => (hexValue c).map fun d => 16 * n + d)
      (some 0)).filter fun n => n < size

/-- The bytes of a word in the other order. -/
def swapBytes (n : ℕ) : ℕ :=
  ((n % 256 * 256 + n / 256 % 256) * 256 + n / 65536 % 256) * 256 + n / 16777216 % 256

/-- `hex_to_ip_port`. -/
def hexToIpPort (hex : String) : String × String :=
  match Text.split ':' hex with
  | [ipRaw, portHex] =>
    (Text.formatIpv4 (BitVec.ofNat 32 (swapBytes ((fromHex UInt32.size ipRaw.toList).getD 0))),
      toString ((fromHex UInt16.size portHex.toList).getD 0))
  | _ => ("0.0.0.0", "0")

/-- The longest run of zeros in a list, as its start and its length. -/
def longestZeros (segments : List ℕ) : ℕ × ℕ :=
  (segments.zipIdx.foldl (fun (runs : (ℕ × ℕ) × (ℕ × ℕ)) segment =>
    if segment.1 = 0 then
      let current := if runs.2.2 = 0 then (segment.2, 1) else (runs.2.1, runs.2.2 + 1)
      (if runs.1.2 < current.2 then current else runs.1, current)
    else (runs.1, (0, 0))) ((0, 0), (0, 0))).1

/-- Groups of an IPv6 address with colons between them. -/
def hexGroups (segments : List ℕ) : String :=
  ":".intercalate (segments.map fun n => String.ofList (Nat.toDigits 16 n))

/-- The text of an IPv6 address. -/
def formatIpv6 (segments : List ℕ) : String :=
  match segments with
  | [0, 0, 0, 0, 0, 65535, a, b] => "::ffff:" ++ Text.formatIpv4 (BitVec.ofNat 32 (a * 65536 + b))
  | _ =>
    let zeros := longestZeros segments
    if 1 < zeros.2 then
      hexGroups (segments.take zeros.1) ++ "::" ++ hexGroups (segments.drop (zeros.1 + zeros.2))
    else hexGroups segments

/-- `hex_to_ipv6_port_compressed`. A part of the address that is no number counts as zero. -/
def hexToIpv6PortCompressed (hex : String) : String × String :=
  match Text.split ':' hex with
  | [ipRaw, portHex] =>
    if ipRaw.utf8ByteSize ≠ 32 then ("::", "0")
    else
      let segments := (List.range 4).flatMap fun i =>
        match fromHex UInt32.size ((ipRaw.toList.drop (8 * i)).take 8) with
        | some n => [swapBytes n / 65536, swapBytes n % 65536]
        | none => [0, 0]
      (formatIpv6 segments, toString ((fromHex UInt16.size portHex.toList).getD 0))
  | _ => ("::", "0")

/-- `parse::<u16>()`. -/
def parseU16 (s : String) : Option ℕ := (Text.parseU64 s.toList).filter fun n => n < UInt16.size

/-- `parse::<u32>()`. -/
def parseU32 (s : String) : Option ℕ := (Text.parseU64 s.toList).filter fun n => n < UInt32.size

/-- One line of `/proc/net/tcp` or `/proc/net/tcp6`. -/
def procNetLine (protocol loopback : String) (decode : String → String × String)
    (inodes : ℕ → Option (ℤ × String)) (now : ℤ) (line : String) : Option PortBusinessInfo :=
  let cols := Text.words line
  if cols.length < 10 then none
  else
    let (localIp, localPort) := decode (cols.getD 1 "")
    let (remoteIp, remotePort) := decode (cols.getD 2 "")
    if localIp = loopback ∧ 6000 ≤ (parseU16 localPort).getD 0 then none
    else if cols.getD 3 "" ≠ "0A" then none
    else
      let inode := (parseU32 (cols.getD 9 "")).getD 0
      let (pid, processPath) := (inodes inode).getD (0, "--")
      some {
        time := now
        protocol := protocol
        localIp := localIp
        localPort := (parseU16 localPort).getD 0
        remoteIp := remoteIp
        remotePort := remotePort
        status := "LISTEN"
        pid := pid
        processPath := processPath }

/-- What the three functions find on the host. -/
structure Surroundings where
  now : ℤ
  /-- The processes by the inodes of their sockets. -/
  inodes : ℕ → Option (ℤ × String)
  /-- The texts of `/proc/net/tcp` and `/proc/net/tcp6`, if they can be read. -/
  tcp : Option String
  tcp6 : Option String
  /-- The output of `iptables` if it can be run, and if the command succeeds. -/
  dnat : Option (Bool × String)
  hasDocker : Bool
  /-- The output of `docker ps`, if it can be run. -/
  docker : Option String

/-- The lines of a file after its first one. -/
def bodyLines (content : Option String) : List String := (content.elim [] Text.lines).drop 1

/-- `parse_proc_net_tcp`. -/
def parseProcNetTcp (sur : Surroundings) : List PortBusinessInfo :=
  (bodyLines sur.tcp).filterMap (procNetLine "tcp" "127.0.0.1" hexToIpPort sur.inodes sur.now)

/-- `parse_proc_net_tcp6`. -/
def parseProcNetTcp6 (sur : Surroundings) : List PortBusinessInfo :=
  (bodyLines sur.tcp6).filterMap
    (procNetLine "tcp6" "::1" hexToIpv6PortCompressed sur.inodes sur.now)

/-- A listening socket is put into the maps, where the first one for a key stays. -/
def NetAppState.addListening (s : NetAppState) (info : PortBusinessInfo) : NetAppState where
  portMap := insertNew info.localPort info s.portMap
  portStrMap := insertNew (info.localIp ++ ":" ++ toString info.localPort) info s.portStrMap

/-- `update_netstat_info`. -/
def updateNetstatInfo (sur : Surroundings) : NetAppState :=
  (parseProcNetTcp sur ++ parseProcNetTcp6 sur).foldl NetAppState.addListening {}

/-- The text after the last colon, if there is one. -/
def afterLastColon (cs : List Char) : Option (List Char) :=
  if ':' ∈ cs then some (cs.reverse.takeWhile (· ≠ ':')).reverse else none

/-- A port without a socket, with the text that it is kept under. -/
structure NamedPort where
  text : String
  info : PortBusinessInfo

/-- One line of the output of `iptables`. -/
def dnatLine (now : ℤ) (line : String) : Option NamedPort :=
  let tokens := Text.words line
  if tokens.length < 11 then none
  else
    (afterLastColon (tokens.getD 10 "").toList).bind fun portStr =>
      (parseU16 (String.ofList portStr)).map fun port =>
        ⟨String.ofList portStr,
          ⟨now, tokens.getD 9 "", "0.0.0.0", port, "", "", "--", 0, "iptableDNAT"⟩⟩

/-- The ports that `update_dnat_info` finds. -/
def dnatPorts (sur : Surroundings) : List NamedPort :=
  match sur.dnat with
  | some (true, content) => (Text.lines content).filterMap (dnatLine sur.now)
  | _ => []

/-- One line of the output of `docker ps`. -/
def dockerLine (now : ℤ) (line : String) : Option NamedPort :=
  (parseU16 (Text.trim line)).map fun port =>
    ⟨toString port, ⟨now, "tcp", "0.0.0.0", port, "", "", "LISTEN", 0, "dockerBusinessPort"⟩⟩

/-- The ports that `update_docker_info` finds. -/
def dockerPorts (sur : Surroundings) : List NamedPort :=
  match sur.hasDocker, sur.docker with
  | true, some content => (Text.lines content).filterMap (dockerLine sur.now)
  | _, _ => []

/-- A port without a socket is put into the maps, where it replaces the one with its key. -/
def NetAppState.addNamed (s : NetAppState) (named : NamedPort) : NetAppState where
  portMap := insertEntry named.info.localPort named.info s.portMap
  portStrMap := insertEntry named.text named.info s.portStrMap

/-- `update_dnat_info`. -/
def updateDnatInfo (sur : Surroundings) (s : NetAppState) : NetAppState :=
  (dnatPorts sur).foldl NetAppState.addNamed s

/-- `update_docker_info`. -/
def updateDockerInfo (sur : Surroundings) (s : NetAppState) : NetAppState :=
  (dockerPorts sur).foldl NetAppState.addNamed s

/-- `get_port_info`. -/
def NetAppState.getPortInfo (s : NetAppState) (port : ℕ) : Option PortBusinessInfo :=
  s.portMap.lookup port

/-- `PortBusinessInfoJson`. -/
structure PortBusinessInfoJson where
  protocol : String
  ip : String
  port : String
  process : String
  deriving DecidableEq

/-- `to_json`, up to the order of the entries. -/
def NetAppState.toJson (s : NetAppState) : Except String (List PortBusinessInfoJson) :=
  if s.portStrMap = [] then .error "No valid port entries"
  else .ok (s.portStrMap.map fun e =>
    ⟨e.2.protocol, e.2.localIp, toString e.2.localPort, e.2.processPath⟩)

/-- The ports that `write_business_ports_to_proc` writes: in their order, each one once. -/
def NetAppState.businessPorts (s : NetAppState) : List ℕ :=
  ((s.portMap.map Prod.fst).insertionSort (· ≤ ·)).dedup

section Ports

variable {κ : Type} [DecidableEq κ] {portOf : κ → Option ℕ} {m : List (κ × PortBusinessInfo)}

/-- The ports of the entries of a map. -/
def portsOf (m : List (κ × PortBusinessInfo)) : List ℕ := m.map fun e => e.2.localPort

/-- The port of an entry can be told from its key. -/
def Keyed (portOf : κ → Option ℕ) (m : List (κ × PortBusinessInfo)) : Prop :=
  ∀ e ∈ m, portOf e.1 = some e.2.localPort

/-- The ports after an entry was added, if there was none with its key. -/
theorem mem_portsOf_insertNew (h : Keyed portOf m) {key : κ} {info : PortBusinessInfo}
    (hkey : portOf key = some info.localPort) (p : ℕ) :
    p ∈ portsOf (insertNew key info m) ↔ p ∈ portsOf m ∨ p = info.localPort := by
  rw [insertNew]
  split
  · next hany =>
    obtain ⟨e, he, heq⟩ := List.any_eq_true.mp hany
    have hport : info.localPort = e.2.localPort := by
      have hsame := h e he
      rw [of_decide_eq_true heq, hkey] at hsame
      exact Option.some.inj hsame
    refine (or_iff_left_of_imp ?_).symm
    rintro rfl
    rw [hport]
    exact List.mem_map_of_mem he
  · simp [portsOf]

/-- The ports after an entry was added in the place of the one with its key. -/
theorem mem_portsOf_insertEntry (h : Keyed portOf m) {key : κ} {info : PortBusinessInfo}
    (hkey : portOf key = some info.localPort) (p : ℕ) :
    p ∈ portsOf (insertEntry key info m) ↔ p ∈ portsOf m ∨ p = info.localPort := by
  rw [insertEntry, portsOf, List.map_append, List.mem_append, List.map_singleton,
    List.mem_singleton]
  constructor
  · rintro (hmem | rfl)
    · obtain ⟨e, he, rfl⟩ := List.mem_map.mp hmem
      exact .inl (List.mem_map_of_mem (List.mem_filter.mp he).1)
    · exact .inr rfl
  · rintro (hmem | rfl)
    · obtain ⟨e, he, rfl⟩ := List.mem_map.mp hmem
      by_cases heq : e.1 = key
      · exact .inr (Option.some.inj ((h e he).symm.trans (heq ▸ hkey)))
      · exact .inl (List.mem_map_of_mem (List.mem_filter.mpr ⟨he, decide_eq_true heq⟩))
    · exact .inr rfl

/-- A new entry is under its own port. -/
theorem Keyed.insertNew (h : Keyed portOf m) {key : κ} {info : PortBusinessInfo}
    (hkey : portOf key = some info.localPort) : Keyed portOf (insertNew key info m) := by
  rw [HostInfo.insertNew]
  split
  · exact h
  · exact List.forall_mem_append.mpr ⟨h, List.forall_mem_singleton.mpr hkey⟩

/-- An entry that is put in is under its own port. -/
theorem Keyed.insertEntry (h : Keyed portOf m) {key : κ} {info : PortBusinessInfo}
    (hkey : portOf key = some info.localPort) : Keyed portOf (insertEntry key info m) := by
  rw [HostInfo.insertEntry]
  refine List.forall_mem_append.mpr ⟨fun e he => ?_, List.forall_mem_singleton.mpr hkey⟩
  exact h e (List.mem_filter.mp he).1

end Ports

/-- The port in a key of the second map. -/
def textPort (key : String) : Option ℕ :=
  parseU16 (String.ofList (key.toList.reverse.takeWhile (· ≠ ':')).reverse)

/-- The text after the last colon of a text is the whole text if it has none. -/
theorem textPort_of_not_mem {text : String} (h : ':' ∉ text.toList) :
    textPort text = parseU16 text := by
  have hall : text.toList.reverse.takeWhile (· ≠ ':') = text.toList.reverse := by
    refine List.takeWhile_eq_self_iff.mpr fun c hc => decide_eq_true ?_
    rintro rfl
    exact h (List.mem_reverse.mp hc)
  rw [textPort, hall, List.reverse_reverse, String.ofList_toList]

/-- A port reads back from its text. -/
theorem parseU16_toString {n : ℕ} (h : n < UInt16.size) : parseU16 (toString n) = some n := by
  have hsize : n < UInt64.size := lt_trans h (by decide)
  rw [parseU16, Text.toList_toString, Text.parseU64_toDigits hsize, Option.filter_some,
    if_pos (decide_eq_true h)]

/-- The key of a listening socket names its port. -/
theorem textPort_append {n : ℕ} (h : n < UInt16.size) (ip : String) :
    textPort (ip ++ ":" ++ toString n) = some n := by
  have hlist : (ip ++ ":" ++ toString n).toList.reverse =
      (toString n).toList.reverse ++ ':' :: ip.toList.reverse := by
    rw [String.toList_append, String.toList_append, List.reverse_append, List.reverse_append]
    rfl
  have hne : ∀ c ∈ (toString n).toList.reverse, decide (c ≠ ':') = true := by
    intro c hc
    rw [decide_eq_true_eq]
    rintro rfl
    exact Text.not_mem_toString (by decide) n (List.mem_reverse.mp hc)
  rw [textPort, hlist, List.takeWhile_append_of_pos hne, List.takeWhile_cons_of_neg (by decide),
    List.append_nil, List.reverse_reverse, String.ofList_toList, parseU16_toString h]

/-- The text of a port names the port. -/
theorem textPort_toString {n : ℕ} (h : n < UInt16.size) : textPort (toString n) = some n := by
  have hcolon : ':' ∉ (toString n).toList := Text.not_mem_toString (by decide) n
  rw [textPort_of_not_mem hcolon, parseU16_toString h]

/-- There is no colon after the last one. -/
theorem not_mem_of_afterLastColon {cs after : List Char} (h : afterLastColon cs = some after) :
    ':' ∉ after := by
  rw [afterLastColon] at h
  split at h
  · obtain rfl := Option.some.inj h
    intro hmem
    have hne := List.mem_takeWhile_imp (List.mem_reverse.mp hmem)
    exact absurd hne (by decide)
  · exact nomatch h

/-- What is parsed is a port number. -/
theorem parseU16_lt {s : String} {n : ℕ} (h : parseU16 s = some n) : n < UInt16.size :=
  of_decide_eq_true (Option.filter_eq_some_iff.mp h).2

/-- The port of a listening socket is one. -/
theorem localPort_procNetLine {protocol loopback : String} {decode : String → String × String}
    {inodes : ℕ → Option (ℤ × String)} {now : ℤ} {line : String} {info : PortBusinessInfo}
    (h : procNetLine protocol loopback decode inodes now line = some info) :
    info.localPort < UInt16.size := by
  have hport (s : String) : (parseU16 s).getD 0 < UInt16.size := by
    cases hparse : parseU16 s with
    | none => decide
    | some n => exact parseU16_lt hparse
  rw [procNetLine] at h
  dsimp only at h
  split at h
  · exact nomatch h
  · split at h
    · exact nomatch h
    · split at h
      · exact nomatch h
      · obtain rfl := Option.some.inj h
        exact hport _

/-- The sockets have port numbers. -/
theorem localPort_netstat {sur : Surroundings} {info : PortBusinessInfo}
    (h : info ∈ parseProcNetTcp sur ++ parseProcNetTcp6 sur) : info.localPort < UInt16.size := by
  rcases List.mem_append.mp h with h | h
  · obtain ⟨line, -, hline⟩ := List.mem_filterMap.mp h
    exact localPort_procNetLine hline
  · obtain ⟨line, -, hline⟩ := List.mem_filterMap.mp h
    exact localPort_procNetLine hline

/-- The text of a port without a socket names the port. -/
def NamedPort.Fits (named : NamedPort) : Prop := textPort named.text = some named.info.localPort

/-- The ports of the DNAT rules fit their texts. -/
theorem fits_dnatPorts {sur : Surroundings} {named : NamedPort} (h : named ∈ dnatPorts sur) :
    named.Fits := by
  rw [dnatPorts] at h
  split at h
  · obtain ⟨line, -, hline⟩ := List.mem_filterMap.mp h
    rw [dnatLine] at hline
    split at hline
    · exact nomatch hline
    · obtain ⟨portStr, hafter, hparse⟩ := Option.bind_eq_some_iff.mp hline
      obtain ⟨port, hport, rfl⟩ := Option.map_eq_some_iff.mp hparse
      have hcolon : ':' ∉ (String.ofList portStr).toList := by
        rw [String.toList_ofList]
        exact not_mem_of_afterLastColon hafter
      rw [NamedPort.Fits, textPort_of_not_mem hcolon]
      exact hport
  · exact nomatch h

/-- The ports of the containers fit their texts. -/
theorem fits_dockerPorts {sur : Surroundings} {named : NamedPort} (h : named ∈ dockerPorts sur) :
    named.Fits := by
  rw [dockerPorts] at h
  split at h
  · obtain ⟨line, -, hline⟩ := List.mem_filterMap.mp h
    obtain ⟨port, hport, rfl⟩ := Option.map_eq_some_iff.mp hline
    exact textPort_toString (parseU16_lt hport)
  · exact nomatch h

end LinuxAgent.HostInfo
