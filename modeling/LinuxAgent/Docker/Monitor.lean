import LinuxAgent.Lib.Runs
import LinuxAgent.Lib.Text
import Mathlib.Data.Finset.Insert
import Mathlib.Data.Finset.Erase
import Mathlib.Data.Finset.Dedup

/-!
# The container monitor

The agent tells the kernel which processes are container shims. It remembers in
`LAST_PROCESSES` what it has told and sends differences. Scans are started by a timer
and by the kernel, and a reset of the root process clears the table or scans again;
calls overlap wherever they wait.
-/

namespace LinuxAgent.Docker

/-- A shim process: of the old runtime (kind 1) or of a newer one (kind 2). -/
structure DockerShimProcess where
  pid : Int
  kind : UInt8
  /-- There are two kinds. -/
  kind_eq : kind = 1 ∨ kind = 2
  deriving DecidableEq

/-- What happened to a container. -/
inductive DockerEventAction where
  | add
  | remove
  deriving DecidableEq

/-- What the kernel has been told through `/proc/osec/docker_rt`. -/
structure KernelTable where
  /-- The shims, each with its kind. -/
  processes : Finset (UInt8 × Int) := ∅
  /-- The root process, told by events of kind 3. -/
  rootPid : Int := 0

/-- `emit_event`: one line to the kernel, and what the kernel does with it. -/
def emitEvent (kind : UInt8) (action : DockerEventAction) (pid : Int) (k : KernelTable) :
    KernelTable :=
  if kind = 4 ∧ action = .remove ∧ pid = 0 then { k with processes := ∅ }
  else if kind = 3 then
    match action with
    | .add => { k with rootPid := pid }
    | .remove => { k with rootPid := 0 }
  else
    match action with
    | .add => { k with processes := insert (kind, pid) k.processes }
    | .remove => { k with processes := k.processes.erase (kind, pid) }

/-- `clear_docker_rt`. -/
def clearDockerRt (k : KernelTable) : KernelTable := { k with processes := ∅ }

/-- What the commands of a scan answer. -/
structure ScanIo where
  /-- The index of the first detection command with an output. -/
  detected : Option ℕ
  /-- The processes and their parents that the detected command prints. -/
  entries : Option (List (Int × Int))

/-- The shims among the processes that a detection command prints. For the old runtime
this is their common parent. -/
def shimsOf (index : ℕ) (entries : List (Int × Int)) : List DockerShimProcess :=
  let ppids := entries.map Prod.snd
  if (ppids.zip ppids.tail).all fun w => w.1 == w.2 then
    match index with
    | 0 =>
      match ppids.head? with
      | some parentPid => if 10 < parentPid then [⟨parentPid, 1, .inl rfl⟩] else []
      | none => []
    | 1 | 2 => entries.map fun e => ⟨e.1, 2, .inr rfl⟩
    | _ => []
  else []

/-- A call of `update_docker_state` that waits for `LAST_PROCESSES` with its scan. -/
structure Pending where
  current : List DockerShimProcess
  /-- The call is made by a reset, which holds `DOCKER_VERSION`. -/
  inReset : Bool

/-- A call of `update_docker_state` that has sent its differences. -/
structure Checking where
  currentPids : List Int
  inReset : Bool

/-- The statics of the monitor, the kernel and the calls in progress, by the place where
they wait. -/
structure State where
  kernel : KernelTable := {}
  lastProcesses : List DockerShimProcess := []
  lastRootPid : Int := 0
  detectedCommand : Option ℕ := none
  dockerVersion : UInt8 := 0
  isVersion2 : Bool := false
  /-- A reset holds `DOCKER_VERSION`. -/
  versionLocked : Bool := false
  /-- How many resets wait for `DOCKER_VERSION`. -/
  resets : ℕ := 0
  /-- The calls that scan, each with whether a reset makes it. -/
  scanning : List Bool := []
  /-- The calls that wait for `LAST_PROCESSES`, which is given in the order of asking. -/
  queue : List Pending := []
  /-- The call that holds `LAST_PROCESSES` while it waits for `IS_VERSION_2`. -/
  holder : Option Checking := none
  /-- The calls that read the table back. -/
  residual : List Checking := []
  /-- The result of the latest scan. -/
  scanned : List DockerShimProcess := []

/-- No call is in progress. -/
def State.Idle (s : State) : Prop :=
  s.resets = 0 ∧ s.scanning = [] ∧ s.queue.length = 0 ∧ s.holder.isNone ∧ s.residual.length = 0

instance (s : State) : Decidable s.Idle := inferInstanceAs (Decidable (_ ∧ _))

/-- A call ends; a reset around it gives `DOCKER_VERSION` back. -/
def State.finish (s : State) (inReset : Bool) : State :=
  if inReset then { s with versionLocked := false } else s

/-- What `scan_docker_processes` remembers of its result. `DOCKER_VERSION` is only set if
no reset holds it. -/
def State.noteKinds (s : State) (processes : List DockerShimProcess) : State :=
  { s with
    dockerVersion :=
      match s.versionLocked, processes with
      | false, p :: _ => p.kind
      | _, _ => s.dockerVersion
    isVersion2 := s.isVersion2 || processes.any fun p => p.kind == 2 }

/-- `scan_docker_processes`. Scans hold `DETECTED_COMMAND` throughout and so follow one
after the other. -/
def State.scanDockerProcesses (s : State) (io : ScanIo) :
    State × Option (List DockerShimProcess) :=
  match s.detectedCommand.or io.detected with
  | none => (s, none)
  | some index =>
    let s := { s with detectedCommand := some index }
    match io.entries with
    | none => (s, none)
    | some [] => (s, some [])
    | some entries => (s.noteKinds (shimsOf index entries), some (shimsOf index entries))

/-- One event for each of some shims. -/
def emitAll (action : DockerEventAction) (ps : List DockerShimProcess) (k : KernelTable) :
    KernelTable :=
  ps.foldl (fun k p => emitEvent p.kind action p.pid k) k

/-- What `update_docker_state` does once it has `LAST_PROCESSES`, up to the next wait. -/
def State.applyScan (s : State) (call : Pending) : State :=
  let current := call.current
  let last := s.lastProcesses
  if current = [] then
    if last = [] then s.finish call.inReset
    else
      State.finish
        { s with kernel := clearDockerRt (emitEvent 4 .remove 0 s.kernel), lastProcesses := [] }
        call.inReset
  else if last = [] then
    State.finish
      { s with kernel := emitAll .add current s.kernel, lastProcesses := current } call.inReset
  else
    let added := current.filter fun p => p ∉ last
    let removed := last.filter fun p => p ∉ current
    let hasChange := !added.isEmpty || !removed.isEmpty
    { s with
      kernel := emitAll .remove removed (emitAll .add added s.kernel)
      lastProcesses := if hasChange || current.length != last.length then current else last
      holder := some ⟨current.map (·.pid), call.inReset⟩ }

/-- A decimal number that fits an `i32`. -/
def parsePid (cs : List Char) : Option Int :=
  ((Text.decimal cs).filter fun v => v ≤ 2147483647).map Int.ofNat

/-- The title above the processes in the table. -/
def tableTitle : String := "Docker Container PID:"

/-- The processes in the lines of the table. -/
def procPids : List String → List Int
  | [] => []
  | line :: lines =>
    if Text.contains tableTitle line then
      (lines.filter fun l => l.toList.head?.any Char.isDigit).filterMap fun l =>
        parsePid (Text.trimChars l.toList)
    else procPids lines

/-- The processes that `check_residual_pids` tells the kernel to remove. -/
def residualPids (currentPids : List Int) (lines : List String) : List Int :=
  if currentPids.dedup.length + 2 < (procPids lines).length then
    (procPids lines).filter fun pid => pid ∉ currentPids
  else []

/-- `check_residual_pids` after it has read the table. -/
def checkResidualPids (currentPids : List Int) (lines : List String) (k : KernelTable) :
    KernelTable :=
  (residualPids currentPids lines).foldl (fun k pid => emitEvent 2 .remove pid k) k

/-- What happens next. A step is what a call does between two waits. -/
inductive Action where
  /-- The timer calls `update_docker_state`. -/
  | timer
  /-- The kernel sends a message to `handle_kernel_docker_oper`. -/
  | kernelDockerOper (pid : UInt32) (type : UInt8)
  /-- A reset gets `DOCKER_VERSION`. -/
  | lockVersion
  /-- The scan of a call returns. -/
  | scan (i : ℕ) (io : ScanIo)
  /-- The first call in the queue gets `LAST_PROCESSES`. -/
  | lockLast
  /-- The call that holds `LAST_PROCESSES` gets `IS_VERSION_2`. -/
  | lockVersion2
  /-- A call has read the lines of the table. -/
  | residual (i : ℕ) (lines : List String)

/-- `reset_container_root_pid` up to its first wait. -/
def State.resetContainerRootPid (s : State) (pid : Int) : State :=
  if pid ≤ 0 then s
  else
    { s with kernel := emitEvent 3 .add pid s.kernel, lastRootPid := pid, resets := s.resets + 1 }

/-- `update_docker_state` begins. -/
def State.updateDockerState (s : State) (inReset : Bool) : State :=
  { s with scanning := s.scanning ++ [inReset] }

/-- `reset_container_root_pid` once it has `DOCKER_VERSION`. -/
def State.resetByVersion (s : State) : State :=
  if s.dockerVersion = 1 then
    { s with
      resets := s.resets - 1
      kernel := clearDockerRt (emitEvent 4 .remove 0 s.kernel) }
  else State.updateDockerState { s with resets := s.resets - 1, versionLocked := true } true

/-- The steps of the monitor. -/
def State.step (s : State) : Action → Option State
  | .timer => some (s.updateDockerState false)
  | .kernelDockerOper pid type =>
    if type = 3 then some (s.resetContainerRootPid pid.toInt32.toInt)
    else if type = 1 then some (s.updateDockerState false)
    else some s
  | .lockVersion =>
    if s.resets = 0 ∨ s.versionLocked = true then none else some s.resetByVersion
  | .scan i io =>
    match s.scanning[i]? with
    | none => none
    | some inReset =>
      match State.scanDockerProcesses { s with scanning := s.scanning.eraseIdx i } io with
      | (s, none) => some (s.finish inReset)
      | (s, some current) =>
        some { s with queue := s.queue ++ [⟨current, inReset⟩], scanned := current }
  | .lockLast =>
    match s.holder, s.queue with
    | none, call :: queue => some (State.applyScan { s with queue := queue } call)
    | _, _ => none
  | .lockVersion2 =>
    match s.holder with
    | none => none
    | some call =>
      if s.isVersion2 then some { s with holder := none, residual := s.residual ++ [call] }
      else some (State.finish { s with holder := none } call.inReset)
  | .residual i lines =>
    match s.residual[i]? with
    | none => none
    | some call =>
      some (State.finish
        { s with
          residual := s.residual.eraseIdx i
          kernel := checkResidualPids call.currentPids lines s.kernel } call.inReset)

/-- The monitor from its start. -/
def system : Runs.System State Action where
  init s := s = {}
  step := State.step

end LinuxAgent.Docker
