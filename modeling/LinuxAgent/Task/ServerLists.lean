import LinuxAgent.Lib.Text
import LinuxAgent.ProcessMgr.Mirror

/-!
# Lists of the server

The tasks that fetch the white list, the black list and the virtual ports from the
server and hand them to the kernel. The kernel has the process lists that the process
policy manager sends; how it keeps the rules of the virtual ports is a parameter.
-/

namespace LinuxAgent.Task.ServerLists

open ProcessMgr

/-- The hash of a process. The rules of the kernel are about plain texts. -/
structure Hash where
  text : String
  plain : IsPlain text

/-- The code of a success, as JSON. -/
def successCode : String := "\"000000\""

/-- What a server answers to a request for a process list: its code, as JSON, and the hashes
of the entries of `proclist` that have one. -/
structure ListResponse where
  code : String
  proclist : Option (List (Option Hash))

/-- What becomes of a task that fetches a process list: of the report that it was taken on, of
the lookup of its URL and of the request, whose answer need not be JSON. -/
structure ListEnv where
  reported : Except String Unit
  url : Option String
  response : Except String (Option ListResponse)
  /-- The orders in which the sets of hashes are iterated. -/
  order : List String
  prevOrder : List String

/-- The hashes of a response. -/
def ListResponse.hashList (response : ListResponse) : Except String (List String) :=
  match response.proclist with
  | none => .error "Missing or invalid proclist in response"
  | some items => .ok (items.filterMap fun item => item.map Hash.text)

/-- The two tasks that fetch a process list; they differ in what another code makes of them. -/
def taskDownList (side : Side) (otherCode : Except String Unit) (env : ListEnv) (s : Session) :
    Option (Except String Unit × Session) :=
  match env.reported with
  | .error e => some (.error e, s)
  | .ok () =>
    match env.url with
    | none => some (.error "URL for download_white not found", s)
    | some _ =>
      match env.response with
      | .error e => some (.error e, s)
      | .ok none => some (.error "Failed to parse response.", s)
      | .ok (some response) =>
        if response.code = successCode then
          match response.hashList with
          | .error e => some (.error e, s)
          | .ok hashList =>
            if hashList = [] then some (.error "No hashes found in the response", s)
            else (s.step ⟨hashList, side, env.order, env.prevOrder⟩).map fun s' => (.ok (), s')
        else some (otherCode, s)

/-- `task_down_white` -/
def taskDownWhite : ListEnv → Session → Option (Except String Unit × Session) :=
  taskDownList .white (.ok ())

/-- `task_down_black` -/
def taskDownBlack : ListEnv → Session → Option (Except String Unit × Session) :=
  taskDownList .black (.error "Invalid response code.")

/-- A rule. -/
structure VirtualPortRule where
  alarmLevel : UInt32
  destIp : String
  destPort : String
  destPortType : UInt32
  id : UInt32
  protocol : String
  sourceIp : String
  sourcePortRange : ℕ × ℕ
  type : String

/-- A rule as it stands in the response, with the fields that have a form of their own. -/
structure PortItem where
  alarmLevel : UInt32
  destIp : String
  destPort : String
  destPortType : UInt32
  id : UInt32
  protocol : String
  sourceIp : String
  sourcePort : String
  type : String

/-- The number of 16 bits that a text stands for. -/
def parseU16 (s : String) : Option ℕ := (Text.parseU64 s.toList).filter fun n => n < UInt16.size

/-- `deserialize_port_range` -/
def deserializePortRange (s : String) : Except String (ℕ × ℕ) :=
  match Text.split '-' s with
  | [start, stop] =>
    match parseU16 start with
    | none => .error "Invalid start_port"
    | some start =>
      match parseU16 stop with
      | none => .error "Invalid end_port"
      | some stop =>
        if stop < start then .error "start_port must be less than or equal to end_port"
        else .ok (start, stop)
  | _ => .error "Invalid source_port format, expected 'start-end'"

/-- `deserialize_dest_port` -/
def deserializeDestPort (s : String) : String := if s = "" then "0" else s

/-- A rule from its text. -/
def PortItem.rule (item : PortItem) : Except String VirtualPortRule :=
  match deserializePortRange item.sourcePort with
  | .error e => .error s!"Failed to parse VirtualPortRule: {e}"
  | .ok sourcePortRange => .ok
    { alarmLevel := item.alarmLevel
      destIp := item.destIp
      destPort := deserializeDestPort item.destPort
      destPortType := item.destPortType
      id := item.id
      protocol := item.protocol
      sourceIp := item.sourceIp
      sourcePortRange := sourcePortRange
      type := item.type }

/-- The answer to a request for the virtual ports; an item that has not the fields of a rule is
an error. -/
structure PortResponse where
  code : String
  data : Option (List (Except String PortItem))

/-- What becomes of the task that fetches the virtual ports. -/
structure PortEnv where
  reported : Except String Unit
  url : Option String
  response : Except String (Except String PortResponse)

/-- The errors of the operations on `/proc/osec/net_rules`, that of a write by its number. -/
structure NetRulesFile where
  openError : Option String
  writeError : ℕ → Option String
  flushError : Option String

/-- The number of a protocol. No character but those of ASCII becomes a letter of `tcp` or
`udp` in lower case. -/
def protocolNum (protocol : String) : ℕ :=
  if protocol.toLower = "tcp" then 1 else if protocol.toLower = "udp" then 2 else 0

/-- The rule as the kernel is told, without its place in the batch. -/
def VirtualPortRule.text (rule : VirtualPortRule) : String :=
  let isIpv4 := if ':' ∈ rule.destIp.toList then 0 else 1
  let destIp := if Text.isBlank rule.destIp then "\"\"" else rule.destIp
  let redirectPort := if rule.destPortType = 0 then (parseU16 rule.destPort).getD 0 else 0
  let addrType := rule.alarmLevel.toNat % 32
  s!"id={rule.id} protocol={protocolNum rule.protocol} type={rule.type} is_ipv4={isIpv4} " ++
    s!"source_ip={rule.sourceIp} start_port={rule.sourcePortRange.1} " ++
    s!"end_port={rule.sourcePortRange.2}  dest_ip={destIp} dest_port_type={rule.destPortType} " ++
    s!"redirectPort={redirectPort} addr_type={addrType}"

/-- The line of a rule. -/
def ruleStr (index total : ℕ) (rule : VirtualPortRule) : String :=
  s!"VIR_OPEN_PORT index={index} total={total} {rule.text}\n"

/-- A kernel that is told rules line by line. -/
structure PortKernel (K : Type) where
  write : K → String → K
  /-- The rules of virtual ports that are in force. -/
  rules : K → List String

variable {K : Type}

/-- The loop that writes the rules from `index` on. -/
def PortKernel.writeRules (kernel : PortKernel K) (file : NetRulesFile) (total : ℕ) :
    ℕ → List VirtualPortRule → K → Except String Unit × K
  | _, [], k => (.ok (), k)
  | index, rule :: rest, k =>
    match file.writeError index with
    | some e => (.error s!"Failed to write rule: {e}", k)
    | none =>
      kernel.writeRules file total (index + 1) rest (kernel.write k (ruleStr index total rule))

/-- The rules of a response. -/
def PortResponse.conf (response : PortResponse) : Except String (List VirtualPortRule) :=
  match response.data with
  | none => .error "Missing 'data' array in response"
  | some items => items.mapM fun item =>
    match item with
    | .error e => .error s!"Failed to parse VirtualPortRule: {e}"
    | .ok item => item.rule

/-- The rules that have a source. -/
def validRules (conf : List VirtualPortRule) : List VirtualPortRule :=
  conf.filter fun rule => rule.sourceIp ≠ ""

/-- Hand rules to the kernel. -/
def PortKernel.writeBatch (kernel : PortKernel K) (file : NetRulesFile)
    (rules : List VirtualPortRule) (k : K) : Except String Unit × K :=
  if rules.length = 0 then (.ok (), k)
  else
    match file.openError with
    | some e => (.error s!"Failed to open /proc/osec/net_rules: {e}", k)
    | none =>
      match kernel.writeRules file rules.length 0 rules k with
      | (.error e, k) => (.error e, k)
      | (.ok (), k) =>
        match file.flushError with
        | some e => (.error s!"Failed to flush /proc/osec/net_rules: {e}", k)
        | none => (.ok (), k)

/-- `task_down_virtual_port` -/
def taskDownVirtualPort (kernel : PortKernel K) (file : NetRulesFile) (env : PortEnv) (k : K) :
    Except String Unit × K :=
  match env.reported with
  | .error e => (.error e, k)
  | .ok () =>
    match env.url with
    | none => (.error "URL for getvirtualport not found", k)
    | some _ =>
      match env.response with
      | .error e => (.error e, k)
      | .ok (.error e) => (.error s!"Failed to parse response JSON: {e}", k)
      | .ok (.ok response) =>
        if response.code ≠ successCode then
          (.error s!"Invalid response code: {response.code}", k)
        else
          match response.conf with
          | .error e => (.error e, k)
          | .ok conf => kernel.writeBatch file (validRules conf) k

/-- A list that the server has sent. -/
inductive Sent where
  | list (side : Side) (hashes : List String)
  | ports (rules : List VirtualPortRule)

/-- The process policy manager with the kernel, the rules of virtual ports, and the lists that
the server has sent, the last one first. -/
structure State (K : Type) where
  session : Session
  ports : K
  sent : List Sent

/-- The hashes that a task receives, when it has a response with code `000000`. -/
def ListEnv.received (env : ListEnv) : Option (List String) :=
  match env.reported, env.url, env.response with
  | .ok (), some _, .ok (some response) =>
    if response.code = successCode then response.hashList.toOption else none
  | _, _, _ => none

/-- The rules that a task receives, when it has a response with code `000000`. -/
def PortEnv.received (env : PortEnv) : Option (List VirtualPortRule) :=
  match env.reported, env.url, env.response with
  | .ok (), some _, .ok (.ok response) =>
    if response.code = successCode then response.conf.toOption else none
  | _, _, _ => none

/-- A task is carried out. -/
inductive Event where
  | white (env : ListEnv)
  | black (env : ListEnv)
  | ports (env : PortEnv)

/-- All operations on the file succeed. -/
def NetRulesFile.succeeds : NetRulesFile where
  openError := none
  writeError := fun _ => none
  flushError := none

/-- What is remembered of a list that was sent. -/
def record {α : Type} (sent : α → Sent) (received : Option α) (history : List Sent) : List Sent :=
  (received.map sent).toList ++ history

/-- Carry out a task, the writes to the kernel succeeding. -/
def State.step (kernel : PortKernel K) (s : State K) : Event → Option (State K)
  | .white env => (taskDownWhite env s.session).map fun r =>
      { s with session := r.2, sent := record (Sent.list .white) env.received s.sent }
  | .black env => (taskDownBlack env s.session).map fun r =>
      { s with session := r.2, sent := record (Sent.list .black) env.received s.sent }
  | .ports env => some
      { s with
        ports := (taskDownVirtualPort kernel .succeeds env s.ports).2
        sent := record Sent.ports env.received s.sent }

/-- Nothing was sent yet. -/
def State.initial (k : K) : State K := ⟨.initial, k, []⟩

/-- The tasks, from a kernel without lists and rules on. -/
def tasks (kernel : PortKernel K) : Runs.System (State K) Event where
  init := fun s => ∃ k, kernel.rules k = [] ∧ s = .initial k
  step := State.step kernel

end LinuxAgent.Task.ServerLists
