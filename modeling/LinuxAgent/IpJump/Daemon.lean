import LinuxAgent.Lib.Runs
import LinuxAgent.Lib.Watch

/-!
# The IP-jump daemon

`start_ip_jump_daemon` waits on a watch channel for instructions, executes the
latest one, and stays in `run_periodic_loop` while the instruction asks for
periodic jumps. The model takes one step between two consecutive await points,
so that `send_instruction` calls interleave with the daemon everywhere.
-/

namespace LinuxAgent.IpJump

open Runs

/-- An instruction of the controller (`IpJumpInstruction`). -/
structure IpJumpInstruction where
  /-- Address to leave. -/
  sourceIp : String
  /-- Address to take, in CIDR notation. -/
  targetIp : String
  /-- New default gateway, or blank. -/
  gateway : String
  /-- Period in seconds; zero asks for a single jump. -/
  activeTime : UInt32
  deriving DecidableEq

namespace Daemon

/-- Where the daemon stands. An await point names the `rx.changed()`, fetch or
execution that the daemon is at. -/
inductive Point
  /-- The head of the main loop, before the test of `need_wait`. -/
  | loopHead
  /-- The `rx.changed()` guarded by `need_wait`. -/
  | awaitWanted
  /-- Before `rx.borrow()`. -/
  | borrowing
  /-- The `rx.changed()` of the branch that found no instruction. -/
  | awaitInitial
  /-- At `execute_instruction` for the borrowed instruction, sent with this version. -/
  | executing (version : ℕ) (instr : IpJumpInstruction)
  /-- The `rx.changed()` that ends an iteration of the main loop. -/
  | awaitNext
  /-- The `select!` of `run_periodic_loop` with its current period. -/
  | selecting (currentActiveTime : UInt32)
  /-- At `fetch_latest_instruction` in the periodic loop. -/
  | fetching (currentActiveTime : UInt32)
  /-- At `execute_instruction` for a fetched instruction. -/
  | executingLatest (latest : IpJumpInstruction)
  deriving DecidableEq

/-- A call of `execute_instruction`. -/
inductive Call
  /-- From the main loop, on the instruction that was sent with this version. -/
  | main (version : ℕ) (instr : IpJumpInstruction)
  /-- From the periodic loop, on an instruction fetched from the server. -/
  | periodic (instr : IpJumpInstruction)
  deriving DecidableEq

/-- The globals, the daemon's local variables and the calls made so far. -/
structure State where
  /-- `IP_JUMP_DAEMON_STARTED`. -/
  daemonStarted : Bool
  /-- `IP_JUMP_INSTRUCTION_TX`, unset until the daemon has started. -/
  tx : Option (Watch.Channel (Option IpJumpInstruction))
  /-- The daemon's receiver. -/
  rx : Watch.Receiver
  /-- The local flag `need_wait`. -/
  needWait : Bool
  /-- The daemon's position. -/
  point : Point
  /-- All calls of `execute_instruction`, oldest first. -/
  calls : List Call
  deriving DecidableEq

/-- What can happen next: another call of one of the two entry points, or a step
of the daemon with the outcome of what it awaited. -/
inductive Action
  /-- `start_ip_jump_daemon` is called. -/
  | start
  /-- `send_instruction` is called. -/
  | send (instr : IpJumpInstruction)
  /-- The daemon runs on to its next await point. -/
  | resume
  /-- `interval.tick()` wins the `select!`. -/
  | tick
  /-- `rx.changed()` wins the `select!`. -/
  | changed
  /-- `fetch_latest_instruction` returns. -/
  | fetched (result : Except String (Option IpJumpInstruction))

/-- Before the first start: no channel and no call. -/
def initial : State :=
  { daemonStarted := false, tx := none, rx := ⟨0⟩, needWait := true, point := .loopHead,
    calls := [] }

/-- The start: only the first call creates the channel and enters the loop. -/
def startIpJumpDaemon (s : State) : State :=
  if s.daemonStarted then s
  else
    let (tx, rx) := Watch.channel none
    { s with daemonStarted := true, tx := some tx, rx := rx, needWait := true, point := .loopHead }

/-- `send_instruction`: an error leaves everything as it was. -/
def sendInstruction (s : State) (instr : IpJumpInstruction) : State × Except String Unit :=
  match s.tx with
  | some tx => ({ s with tx := some (tx.send (some instr)) }, .ok ())
  | none => (s, .error "IP Jump daemon not initialized")

/-- Leave `run_periodic_loop`: the main loop sets `need_wait` and continues. -/
def endPeriodicLoop (s : State) : State := { s with needWait := true, point := .loopHead }

/-- The daemon's step from its position to the next await point. It is blocked in
an `rx.changed()` while there is no unseen version. -/
def resume (tx : Watch.Channel (Option IpJumpInstruction)) (s : State) : Option State :=
  match s.point with
  | .loopHead => some { s with point := if s.needWait then .awaitWanted else .borrowing }
  | .awaitWanted => (tx.changed s.rx).map fun rx =>
      { s with rx := rx, needWait := false, point := .borrowing }
  | .borrowing =>
    match tx.borrow with
    | some instr => some { s with point := .executing tx.version instr }
    | none => some { s with point := .awaitInitial }
  | .awaitInitial => (tx.changed s.rx).map fun rx => { s with rx := rx, point := .loopHead }
  | .executing version instr =>
    some { s with
      calls := s.calls ++ [.main version instr]
      point := if 0 < instr.activeTime then .selecting instr.activeTime else .awaitNext }
  | .awaitNext => (tx.changed s.rx).map fun rx => { s with rx := rx, point := .loopHead }
  | .executingLatest latest =>
    let s := { s with calls := s.calls ++ [.periodic latest] }
    if latest.activeTime = 0 then some (endPeriodicLoop s)
    else some { s with point := .selecting latest.activeTime }
  | .selecting _ | .fetching _ => none

/-- One action. The daemon takes no step before it has started. -/
def step (s : State) : Action → Option State
  | .start => some (startIpJumpDaemon s)
  | .send instr => some (sendInstruction s instr).1
  | .resume => s.tx.bind fun tx => resume tx s
  | .tick =>
    match s.point with
    | .selecting period => some { s with point := .fetching period }
    | _ => none
  | .changed =>
    match s.point with
    | .selecting _ => s.tx.bind fun tx => (tx.changed s.rx).map fun rx =>
        endPeriodicLoop { s with rx := rx }
    | _ => none
  | .fetched result =>
    match s.point with
    | .fetching period =>
      match result with
      | .ok (some latest) => some { s with point := .executingLatest latest }
      | .ok none => some { s with point := .selecting period }
      | .error _ => some (endPeriodicLoop s)
    | _ => none

/-- The daemon with its callers. -/
def system : System State Action := ⟨fun s => s = initial, step⟩

/-- Everything that one action can do, with the guards under which it does it. The
invariants of the daemon are proved by cases on this relation. -/
inductive Moves (s : State) : Action → State → Prop
  | restart : Moves s .start s
  | start (hstarted : s.daemonStarted = false) :
      Moves s .start { s with
        daemonStarted := true, tx := some ⟨none, 0⟩, rx := ⟨0⟩, needWait := true
        point := .loopHead }
  | refuse (instr : IpJumpInstruction) (htx : s.tx = none) : Moves s (.send instr) s
  | send {tx} (instr : IpJumpInstruction) (htx : s.tx = some tx) :
      Moves s (.send instr) { s with tx := some (tx.send (some instr)) }
  | wait {tx} (htx : s.tx = some tx) (hpoint : s.point = .loopHead) (hwait : s.needWait = true) :
      Moves s .resume { s with point := .awaitWanted }
  | proceed {tx} (htx : s.tx = some tx) (hpoint : s.point = .loopHead)
      (hwait : s.needWait = false) :
      Moves s .resume { s with point := .borrowing }
  | wake {tx} (htx : s.tx = some tx) (hpoint : s.point = .awaitWanted)
      (hunseen : tx.version ≠ s.rx.seen) :
      Moves s .resume { s with rx := ⟨tx.version⟩, needWait := false, point := .borrowing }
  | findNone {tx} (htx : s.tx = some tx) (hpoint : s.point = .borrowing)
      (hvalue : tx.value = none) : Moves s .resume { s with point := .awaitInitial }
  | borrow {tx instr} (htx : s.tx = some tx) (hpoint : s.point = .borrowing)
      (hvalue : tx.value = some instr) :
      Moves s .resume { s with point := .executing tx.version instr }
  | wakeAgain {tx} (htx : s.tx = some tx)
      (hpoint : s.point = .awaitInitial ∨ s.point = .awaitNext)
      (hunseen : tx.version ≠ s.rx.seen) :
      Moves s .resume { s with rx := ⟨tx.version⟩, point := .loopHead }
  | execute {tx version instr point} (htx : s.tx = some tx)
      (hpoint : s.point = .executing version instr)
      (hnext : point = .awaitNext ∨ ∃ period, point = .selecting period) :
      Moves s .resume { s with calls := s.calls ++ [.main version instr], point := point }
  | executeLatest {tx latest} (htx : s.tx = some tx)
      (hpoint : s.point = .executingLatest latest) :
      Moves s .resume { s with
        calls := s.calls ++ [.periodic latest], point := .selecting latest.activeTime }
  | executeLast {tx latest} (htx : s.tx = some tx)
      (hpoint : s.point = .executingLatest latest) :
      Moves s .resume (endPeriodicLoop { s with calls := s.calls ++ [.periodic latest] })
  | tick {period} (hpoint : s.point = .selecting period) :
      Moves s .tick { s with point := .fetching period }
  | changed {tx period} (htx : s.tx = some tx) (hpoint : s.point = .selecting period)
      (hunseen : tx.version ≠ s.rx.seen) :
      Moves s .changed (endPeriodicLoop { s with rx := ⟨tx.version⟩ })
  | fetch {period} {result} {point} (hpoint : s.point = .fetching period)
      (hnext : point = .selecting period ∨ ∃ latest, point = .executingLatest latest) :
      Moves s (.fetched result) { s with point := point }
  | fetchFail {period} {result} (hpoint : s.point = .fetching period) :
      Moves s (.fetched result) (endPeriodicLoop s)

/-- A completed wait found an unseen version and marked it as seen. -/
private theorem map_changed_eq_some {tx : Watch.Channel (Option IpJumpInstruction)}
    {rx : Watch.Receiver} {f : Watch.Receiver → State} {s' : State}
    (h : (tx.changed rx).map f = some s') : tx.version ≠ rx.seen ∧ s' = f ⟨tx.version⟩ := by
  obtain ⟨rx', hrx, rfl⟩ := Option.map_eq_some_iff.mp h
  obtain ⟨hunseen, rfl⟩ := Watch.Channel.changed_eq_some.mp hrx
  exact ⟨hunseen, rfl⟩

/-- The daemon's own steps, by its position. -/
theorem moves_of_resume {s s' : State} {tx : Watch.Channel (Option IpJumpInstruction)}
    (htx : s.tx = some tx) (hst : resume tx s = some s') : Moves s .resume s' := by
  unfold resume at hst
  cases hpoint : s.point <;> simp only [hpoint, reduceCtorEq] at hst
  case loopHead =>
    cases hwait : s.needWait <;> simp only [hwait, Bool.false_eq_true, if_true, if_false] at hst <;>
      cases hst
    · simpa only [hwait] using Moves.proceed htx hpoint hwait
    · simpa only [hwait] using Moves.wait htx hpoint hwait
  case awaitWanted =>
    obtain ⟨hunseen, rfl⟩ := map_changed_eq_some hst
    exact .wake htx hpoint hunseen
  case borrowing =>
    cases hvalue : tx.value <;> simp only [Watch.Channel.borrow, hvalue] at hst <;> cases hst
    · exact .findNone htx hpoint hvalue
    · exact .borrow htx hpoint hvalue
  case awaitInitial =>
    obtain ⟨hunseen, rfl⟩ := map_changed_eq_some hst
    exact .wakeAgain htx (.inl hpoint) hunseen
  case awaitNext =>
    obtain ⟨hunseen, rfl⟩ := map_changed_eq_some hst
    exact .wakeAgain htx (.inr hpoint) hunseen
  case executing version instr =>
    cases hst
    refine .execute htx hpoint ?_
    split
    · exact .inr ⟨_, rfl⟩
    · exact .inl rfl
  case executingLatest latest =>
    split at hst <;> cases hst
    · exact .executeLast htx hpoint
    · exact .executeLatest htx hpoint

/-- Every step of the system is one of the moves. -/
theorem moves_of_step {s s' : State} {a : Action} (hst : system.step s a = some s') :
    Moves s a s' := by
  change step s a = some s' at hst
  cases a with
  | start =>
    cases hst
    unfold startIpJumpDaemon
    split
    · exact .restart
    · next hstarted => exact .start (Bool.not_eq_true _ ▸ hstarted)
  | send instr =>
    cases htx : s.tx <;> simp only [step, sendInstruction, htx] at hst <;> cases hst
    · exact .refuse instr htx
    · exact .send instr htx
  | resume =>
    obtain ⟨tx, htx, hrun⟩ := Option.bind_eq_some_iff.mp hst
    exact moves_of_resume htx hrun
  | tick =>
    cases hpoint : s.point <;> simp only [step, hpoint, reduceCtorEq] at hst
    cases hst
    exact .tick hpoint
  | changed =>
    cases hpoint : s.point <;> simp only [step, hpoint, reduceCtorEq] at hst
    obtain ⟨tx, htx, hrun⟩ := Option.bind_eq_some_iff.mp hst
    obtain ⟨hunseen, rfl⟩ := map_changed_eq_some hrun
    exact .changed htx hpoint hunseen
  | fetched result =>
    cases hpoint : s.point <;> simp only [step, hpoint, reduceCtorEq] at hst
    match result, hst with
    | .error _, rfl => exact .fetchFail hpoint
    | .ok none, rfl => exact .fetch hpoint (.inl rfl)
    | .ok (some _), rfl => exact .fetch hpoint (.inr ⟨_, rfl⟩)

end Daemon

end LinuxAgent.IpJump
