import LinuxAgent.Controller.Egui

/-!
# The controller with the Qt window

The second controller, with the handlers of `MockServer` on one `MockServerState`. It keeps the
current instruction in a field that counts only while a flag is set, and its counters and the
index are of the type `int`.
-/

namespace LinuxAgent.Controller.Qt

/-- A value of the type `int` after an increment. The largest one is taken to be followed by the
smallest one. -/
def wrap (n : ℤ) : ℤ := (n + 2147483648) % 4294967296 - 2147483648

/-- `JumpInstruction()`. -/
def JumpInstruction.default : JumpInstruction := ⟨"", "", "", 1, 0, 2, 24⟩

/-- `QStringList::indexOf`. -/
def indexOf (ips : List String) (ip : String) : ℤ :=
  match ips.findIdx? (· = ip) with
  | some i => i
  | none => -1

/-- `CycleStrategy`. -/
structure CycleStrategy extends CycleSettings where
  currentIndex : ℤ := 0

/-- `nextInstruction`. -/
def CycleStrategy.nextInstruction (c : CycleStrategy) (currentAgentIp : String) :
    CycleStrategy × JumpInstruction :=
  if c.ipPool.length < 2 then (c, JumpInstruction.default)
  else
    let startIdx := indexOf c.ipPool currentAgentIp
    let startIdx := if startIdx < 0 then c.currentIndex else startIdx
    let nextIdx := Int.tmod (startIdx + 1) c.ipPool.length
    ({ c with currentIndex := nextIdx }, c.instruction (c.ipPool.getD nextIdx.toNat ""))

/-- The fields of `MockServerState` that the requests and the buttons use. -/
structure MockServerState where
  instructionQueue : List JumpInstruction := []
  currentInstruction : JumpInstruction := JumpInstruction.default
  hasCurrentInstruction : Bool := false
  lastAgentIp : String := ""
  lastJumpStatus : String := ""
  agentUid : String := ""
  agentMacid : String := ""
  agentHostName : String := ""
  requestCount : ℤ := 0
  ipJumpTaskPending : Bool := false
  cycleStrategy : CycleStrategy
  totalJumpsSent : ℤ := 0

/-- `queueInstruction`. -/
def MockServerState.queueInstruction (s : MockServerState) (inst : JumpInstruction) :
    MockServerState :=
  let s := { s with instructionQueue := s.instructionQueue ++ [inst] }
  let s :=
    match s.hasCurrentInstruction, s.instructionQueue with
    | false, first :: rest =>
      { s with
        currentInstruction := first, instructionQueue := rest, hasCurrentInstruction := true }
    | _, _ => s
  if s.hasCurrentInstruction then { s with ipJumpTaskPending := true } else s

/-- `clearQueue`. -/
def MockServerState.clearQueue (s : MockServerState) : MockServerState :=
  { s with instructionQueue := [] }

/-- The instruction that is to be served next. -/
def MockServerState.setCurrent (s : MockServerState) (inst : JumpInstruction) : MockServerState :=
  { s with currentInstruction := inst, hasCurrentInstruction := true, ipJumpTaskPending := true }

/-- What `handleGetIpJump` does with the current instruction. -/
def MockServerState.serve (s : MockServerState) : MockServerState × Data :=
  let inst := s.currentInstruction
  let s :=
    { s with
      currentInstruction := JumpInstruction.default
      hasCurrentInstruction := false
      ipJumpTaskPending := false
      totalJumpsSent := wrap (s.totalJumpsSent + 1) }
  let s :=
    match s.instructionQueue with
    | queued :: rest => { s with instructionQueue := rest }.setCurrent queued
    | [] =>
      if s.cycleStrategy.enabled then
        let nextTarget := if '/' ∈ inst.targetIp.toList then bare inst.targetIp else inst.targetIp
        let (cycle, next) := s.cycleStrategy.nextInstruction nextTarget
        let s := { s with cycleStrategy := cycle }
        if next.targetIp ≠ "" then s.setCurrent next else s
      else s
  (s, .jump inst.toJson)

/-- What `handleGetIpJump` does in cycle mode without a current instruction. -/
def MockServerState.startCycle (s : MockServerState) : MockServerState × Data :=
  let (cycle, inst) := s.cycleStrategy.nextInstruction s.lastAgentIp
  let s := { s with cycleStrategy := cycle }
  if inst.targetIp ≠ "" then
    let s := { s with totalJumpsSent := wrap (s.totalJumpsSent + 1) }
    let (cycle, next) := s.cycleStrategy.nextInstruction inst.targetIp
    let s := { s with cycleStrategy := cycle }
    (if next.targetIp ≠ "" then s.setCurrent next else s, .jump inst.toJson)
  else (s, .jump emptyData)

/-- `handleGetIpJump`. -/
def MockServerState.handleGetIpJump (s : MockServerState) : MockServerState × Data :=
  if s.hasCurrentInstruction then s.serve
  else if s.cycleStrategy.enabled then s.startCycle
  else (s, .jump emptyData)

/-- The first of the addresses in a text without the blanks around it, if there are any. -/
def firstIp (ips : String) (old : String) : String :=
  if ips = "" then old else Text.trim ((Text.split ',' ips).head?.getD "")

/-- `QJsonValue::toInt`: zero, unless it is a whole number of the type `int`. -/
def toInt (value : Option Value) : ℤ :=
  match value with
  | some (.int n) | some (.float (some n)) => if wrap n = n then n else 0
  | _ => 0

/-- `handleRequest`. -/
def MockServerState.handleRequest (s : MockServerState) (request : Request) :
    MockServerState × Data :=
  let s := { s with requestCount := wrap (s.requestCount + 1) }
  match request with
  | .auth body =>
    ({ s with
      agentUid := body.text "uid"
      agentMacid := body.text "macid"
      agentHostName := body.text "host_name"
      lastAgentIp := firstIp (body.text "ip") s.lastAgentIp }, .token)
  | .gettask => (s, .tasklist (if s.ipJumpTaskPending then [37] else []))
  | .getIpJump => s.handleGetIpJump
  | .putIpJump body =>
    ({ s with
      lastJumpStatus := if toInt (body.lookup "status") = 1 then "SUCCESS" else "FAILED"
      lastAgentIp := firstIp (body.text "agent_ip") s.lastAgentIp }, .none)
  | .uploadIp body => ({ s with lastAgentIp := firstIp (body.text "ip") s.lastAgentIp }, .none)
  | .getToken => (s, .token)
  | .other => (s, .none)

end LinuxAgent.Controller.Qt
