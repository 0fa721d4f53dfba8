import LinuxAgent.Lib.Runs
import LinuxAgent.Lib.Text

/-!
# The jump controller

The controller answers the agent that asks where to jump. It serves the instructions that were
queued by hand, one at a time, and in cycle mode it makes its own ones from a pool of addresses.
This is the controller with the egui window: `route_request` and the buttons of the window, on
one `InnerState`. The log is left out; no answer depends on it.
-/

namespace LinuxAgent.Controller

/-- A jump instruction. -/
structure JumpInstruction where
  sourceIp : String
  targetIp : String
  gateway : String
  mode : ℤ
  activeTime : ℤ
  agingTime : ℤ
  prefixLen : ℤ
  deriving DecidableEq

/-- The data of an answer with a jump instruction. -/
structure JumpData where
  sourceIp : String
  targetIp : String
  gateway : String
  mode : ℤ
  activeTime : ℤ
  agingTime : ℤ
  deriving DecidableEq

/-- The text before the first slash. -/
def bare (ip : String) : String := String.ofList (ip.toList.takeWhile (· ≠ '/'))

/-- `target_ip_cidr`. -/
def JumpInstruction.targetIpCidr (inst : JumpInstruction) : String :=
  if '/' ∈ inst.targetIp.toList then inst.targetIp
  else inst.targetIp ++ "/" ++ toString inst.prefixLen

/-- `source_ip_bare`. -/
def JumpInstruction.sourceIpBare (inst : JumpInstruction) : String :=
  if inst.sourceIp = "" then "" else bare inst.sourceIp

/-- `to_json`. -/
def JumpInstruction.toJson (inst : JumpInstruction) : JumpData where
  sourceIp := inst.sourceIpBare
  targetIp := inst.targetIpCidr
  gateway := inst.gateway
  mode := inst.mode
  activeTime := inst.activeTime
  agingTime := inst.agingTime

/-- The data of an answer without an instruction. -/
def emptyData : JumpData := ⟨"", "", "", 1, 0, 2⟩

/-- The settings of the cycle mode, without the index. -/
structure CycleSettings where
  enabled : Bool
  ipPool : List String
  gateway : String
  mode : ℤ
  activeTime : ℤ
  agingTime : ℤ
  prefixLen : ℤ
  deriving DecidableEq

/-- The instruction for an address of the pool. -/
def CycleSettings.instruction (c : CycleSettings) (targetIp : String) : JumpInstruction where
  sourceIp := ""
  targetIp := targetIp
  gateway := c.gateway
  mode := c.mode
  activeTime := c.activeTime
  agingTime := c.agingTime
  prefixLen := c.prefixLen

/-- A value in the body of a request, as far as the handlers tell values apart. -/
inductive Value
  | string (s : String)
  /-- A number that is written without a fraction. -/
  | int (n : ℤ)
  /-- A number that is written with a fraction or an exponent, and its value if that is whole. -/
  | float (whole : Option ℤ)
  | other
  deriving DecidableEq

/-- The fields of the object in the body; there are none if it is something else. -/
abbrev Body := List (String × Value)

/-- The text under a key, and the empty one if there is none. -/
def Body.text (body : Body) (key : String) : String :=
  match body.lookup key with
  | some (.string s) => s
  | _ => ""

/-- A request of the agent. -/
inductive Request
  | auth (body : Body)
  | gettask
  | getIpJump
  | putIpJump (body : Body)
  | uploadIp (body : Body)
  | getToken
  /-- The other paths, which are answered without looking at them. -/
  | other

/-- The data of an answer. -/
inductive Data
  /-- A token made of the time. -/
  | token
  | tasklist (tasks : List ℕ)
  | jump (data : JumpData)
  | none
  deriving DecidableEq

/-- The first of the addresses in a text, if there are any. -/
def firstIp (ips : String) (old : String) : String :=
  if ips = "" then old else ((Text.split ',' ips).head?.getD "")

namespace Egui

/-- `JumpInstruction::default()`. -/
def JumpInstruction.default : JumpInstruction := ⟨"", "", "", 0, 0, 0, 0⟩

/-- `CycleStrategy`. -/
structure CycleStrategy extends CycleSettings where
  currentIndex : ℕ
  deriving DecidableEq

/-- `next_instruction`. -/
def CycleStrategy.nextInstruction (c : CycleStrategy) (currentAgentIp : String) :
    CycleStrategy × JumpInstruction :=
  if c.ipPool.length < 2 then (c, JumpInstruction.default)
  else
    let startIdx := (c.ipPool.findIdx? (· = currentAgentIp)).getD c.currentIndex
    let nextIdx := (startIdx + 1) % c.ipPool.length
    ({ c with currentIndex := nextIdx }, c.instruction (c.ipPool.getD nextIdx ""))

/-- The fields of `InnerState` that the requests and the buttons use. -/
structure InnerState where
  agentHostName : String := ""
  agentUid : String := ""
  agentMacid : String := ""
  lastAgentIp : String := ""
  lastJumpStatus : String := ""
  requestCount : ℕ := 0
  totalJumpsSent : ℕ := 0
  instructionQueue : List JumpInstruction := []
  currentInstruction : Option JumpInstruction := none
  ipJumpTaskPending : Bool := false
  cycleStrategy : CycleStrategy
  deriving DecidableEq

/-- What `getIpJump` does after it has taken the current instruction. -/
def InnerState.serve (s : InnerState) (inst : JumpInstruction) : InnerState × Data :=
  let s := { s with currentInstruction := none, totalJumpsSent := s.totalJumpsSent + 1 }
  let nxt := bare inst.targetIpCidr
  let s :=
    match s.instructionQueue with
    | queued :: rest =>
      { s with
        currentInstruction := some queued, instructionQueue := rest, ipJumpTaskPending := true }
    | [] =>
      if s.cycleStrategy.enabled then
        let (cycle, next) := s.cycleStrategy.nextInstruction nxt
        let s := { s with cycleStrategy := cycle }
        if next.targetIp ≠ "" then
          { s with currentInstruction := some next, ipJumpTaskPending := true }
        else { s with ipJumpTaskPending := false }
      else { s with ipJumpTaskPending := false }
  (s, .jump inst.toJson)

/-- What `getIpJump` does in cycle mode without a current instruction. The answer is made of the
address of the agent and not of the instruction of the cycle. -/
def InnerState.startCycle (s : InnerState) : InnerState × Data :=
  let (cycle, inst) := s.cycleStrategy.nextInstruction s.lastAgentIp
  let s := { s with cycleStrategy := cycle }
  if inst.targetIp ≠ "" then
    let s := { s with totalJumpsSent := s.totalJumpsSent + 1 }
    let (cycle, next) := s.cycleStrategy.nextInstruction inst.targetIp
    let s := { s with cycleStrategy := cycle }
    let s :=
      if next.targetIp ≠ "" then
        { s with currentInstruction := some next, ipJumpTaskPending := true }
      else s
    let fudged := { JumpInstruction.default with targetIp := s.lastAgentIp }
    (s, .jump (if fudged.targetIp ≠ "" then fudged.toJson else emptyData))
  else (s, .jump emptyData)

/-- `/v1/getIpJump`. -/
def InnerState.getIpJump (s : InnerState) : InnerState × Data :=
  match s.currentInstruction with
  | some inst => s.serve inst
  | none =>
    if s.cycleStrategy.enabled then s.startCycle
    else (s, .jump emptyData)

/-- A status that says that the jump has succeeded. -/
def statusOk (body : Body) : Bool :=
  match body.lookup "status" with
  | some (.int n) => n = 1
  | _ => false

/-- `route_request`. -/
def InnerState.routeRequest (s : InnerState) (request : Request) : InnerState × Data :=
  let s := { s with requestCount := s.requestCount + 1 }
  match request with
  | .auth body =>
    ({ s with
      agentUid := body.text "uid"
      agentMacid := body.text "macid"
      agentHostName := body.text "host_name"
      lastAgentIp := firstIp (body.text "ip") s.lastAgentIp }, .token)
  | .gettask => (s, .tasklist (if s.ipJumpTaskPending then [37] else []))
  | .getIpJump => s.getIpJump
  | .putIpJump body =>
    ({ s with
      lastJumpStatus := if statusOk body then "SUCCESS" else "FAILED"
      lastAgentIp := firstIp (body.text "agent_ip") s.lastAgentIp }, .none)
  | .uploadIp body => ({ s with lastAgentIp := firstIp (body.text "ip") s.lastAgentIp }, .none)
  | .getToken => (s, .token)
  | .other => (s, .none)

/-- `do_queue_jump`. Nothing is queued without a target. -/
def InnerState.doQueueJump (s : InnerState) (inst : JumpInstruction) : InnerState :=
  if inst.targetIp = "" then s
  else
    let s := { s with instructionQueue := s.instructionQueue ++ [inst] }
    let s :=
      match s.currentInstruction, s.instructionQueue with
      | none, first :: rest => { s with currentInstruction := some first, instructionQueue := rest }
      | _, _ => s
    if s.currentInstruction.isSome then { s with ipJumpTaskPending := true } else s

/-- The button `Clear Queue`. -/
def InnerState.clearQueue (s : InnerState) : InnerState := { s with instructionQueue := [] }

/-- The settings of the window are copied in every frame. The aging time is not among them. -/
def InnerState.syncCycle (s : InnerState) (settings : CycleSettings) : InnerState :=
  { s with
    cycleStrategy :=
      ⟨{ settings with agingTime := s.cycleStrategy.agingTime }, s.cycleStrategy.currentIndex⟩ }

end Egui

end LinuxAgent.Controller
