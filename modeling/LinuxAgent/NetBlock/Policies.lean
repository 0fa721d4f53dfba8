import Mathlib.Data.List.AList
import Mathlib.Data.Finset.Insert
import LinuxAgent.Lib.Runs
import LinuxAgent.Lib.Locks

/-!
# The block policies

`update_and_write_policies` keeps the blocked addresses in `IP_POLICIES`, starts an
expiry task for each block with a duration, and writes all addresses to the two tables
of the kernel. A call and an expiry task take turns between their `await` points; what
they do from one to the next is one step, and a task that wakes up asks for its lock in
the same step. Aborting a task drops it at the `await` where it stands; a task that runs
on another thread between its wake-up and that request is not a state of the model.
-/

namespace LinuxAgent.NetBlock

/-- A block policy. -/
structure IpPolicy where
  direction : ℕ
  /-- The address, as text. -/
  ip : String
  /-- Seconds; zero is a permanent block. -/
  duration : ℕ
  isIpv6 : Bool
  deriving DecidableEq

/-- `/proc/osec/osec_conn/block_saddr_rt` and `/proc/osec/osec_conn/block_saddr_rt_v6`. -/
structure Tables where
  ipv4 : Finset String
  ipv6 : Finset String
  deriving DecidableEq

/-- The table of one address family. -/
def Tables.get (tables : Tables) : Bool → Finset String
  | false => tables.ipv4
  | true => tables.ipv6

/-- Replace the table of one address family. -/
def Tables.set (tables : Tables) (table : Finset String) : Bool → Tables
  | false => { tables with ipv4 := table }
  | true => { tables with ipv6 := table }

/-- The path of the table of one address family. -/
def procPath : Bool → String
  | false => "/proc/osec/osec_conn/block_saddr_rt"
  | true => "/proc/osec/osec_conn/block_saddr_rt_v6"

/-- One operation on the file of a table. The field `ip` of a policy is an IPv4 or IPv6
address, so its line is never the line `c`. -/
inductive TableOp
  /-- Open the file for writing. -/
  | openFile (v6 : Bool)
  /-- Write `c`, which clears the table. -/
  | clear (v6 : Bool)
  /-- Write an address, which is added to the table. -/
  | address (v6 : Bool) (ip : String)
  deriving DecidableEq

/-- What the kernel does on an operation. -/
def TableOp.run (tables : Tables) : TableOp → Tables
  | .openFile _ => tables
  | .clear v6 => tables.set ∅ v6
  | .address v6 ip => tables.set (insert ip (tables.get v6)) v6

/-- The error of an operation that fails with `e`. -/
def TableOp.failure (e : String) : TableOp → String
  | .openFile v6 => "Failed to open " ++ procPath v6 ++ ": " ++ e
  | .clear v6 => "Failed to write 'c\\n' to " ++ procPath v6 ++ ": " ++ e
  | .address v6 ip => "Failed to write IP " ++ ip ++ " to " ++ procPath v6 ++ ": " ++ e

/-- The operations on the table of one address family. -/
def tableOps (policies : List IpPolicy) (v6 : Bool) : List TableOp :=
  .openFile v6 :: .clear v6 ::
    (policies.filter fun p => p.isIpv6 = v6).map fun p => .address v6 p.ip

/-- The operations of one write, the IPv4 table first. -/
def writeOps (policies : List IpPolicy) : List TableOp :=
  tableOps policies false ++ tableOps policies true

/-- What the environment decides about a write: the order in which the map lists its
values, how many operations succeed, and the error of the one that does not. -/
structure ProcIo where
  order : List IpPolicy
  succeeding : ℕ
  error : String

/-- Write the policies, in the given order. The first operation that fails ends the
write. -/
def writePoliciesToProc (io : ProcIo) (tables : Tables) : Tables × Option String :=
  let ops := writeOps io.order
  ((ops.take io.succeeding).foldl TableOp.run tables,
    ops[io.succeeding]?.map (TableOp.failure io.error))

/-- A policy in `IP_POLICIES`, with the time at which it was stored. -/
structure Stored where
  policy : IpPolicy
  storedAt : ℕ
  deriving DecidableEq

/-- The two locks. -/
inductive LockName
  | policies
  | tasks
  deriving DecidableEq

/-- The calls and the tasks that take the locks. -/
inductive Owner
  | call (i : ℕ)
  | expiry (i : ℕ)
  deriving DecidableEq

/-- Where a call of `update_and_write_policies` stands. -/
inductive UpdatePoint
  /-- Waiting for `IP_POLICIES`. -/
  | waitPolicies (policies : List IpPolicy)
  /-- Waiting for `IP_EXPIRY_TASKS`. -/
  | waitTasks (policies : List IpPolicy)
  /-- In the loop, with the policies that are left. -/
  | applying (policies : List IpPolicy)
  /-- Returned, with the error if there was one. -/
  | finished (error : Option String)
  deriving DecidableEq

/-- Where an expiry task stands. -/
inductive ExpiryPoint
  /-- Not yet polled. -/
  | spawned
  /-- Sleeping until the deadline. -/
  | sleeping (deadline : ℕ)
  /-- Waiting for `IP_POLICIES`. -/
  | waitPolicies
  /-- The policy is removed; waiting for `IP_EXPIRY_TASKS`. -/
  | waitTasks
  /-- The handle is removed; about to write the tables. -/
  | writing
  | finished
  | aborted
  deriving DecidableEq

/-- An expiry task, with the time at which it was spawned. -/
structure Expiry where
  ip : String
  duration : ℕ
  spawnedAt : ℕ
  point : ExpiryPoint
  deriving DecidableEq

/-- The process. A handle in `IP_EXPIRY_TASKS` is the number of its task, and tasks
that are over keep their number. -/
structure State where
  /-- `IP_POLICIES`. -/
  policies : AList fun _ : String => Stored
  /-- `IP_EXPIRY_TASKS`. -/
  handles : AList fun _ : String => ℕ
  locks : LockName → Option Owner
  calls : List UpdatePoint
  expiries : List Expiry
  tables : Tables
  /-- There was a write of the tables, and the last one succeeded. -/
  written : Bool
  /-- The clock, in seconds. -/
  now : ℕ

/-- The timer behind `sleep`: a sleep does not end before its duration has passed, up to
the longest duration that the timer supports. -/
structure Timer where
  /-- When a sleep that starts at a time ends. -/
  deadline : (start duration : ℕ) → ℕ
  longest : ℕ
  not_early : ∀ start duration, start + min duration longest ≤ deadline start duration

/-- Is this a point at which the task is dropped when it is aborted? -/
def ExpiryPoint.awaits : ExpiryPoint → Bool
  | .spawned | .sleeping _ | .waitPolicies | .waitTasks => true
  | .writing | .finished | .aborted => false

/-- Put a task at another point. -/
def State.setPoint (s : State) (i : ℕ) (e : Expiry) (point : ExpiryPoint) : State :=
  { s with expiries := s.expiries.set i { e with point } }

/-- Put a call at another point. -/
def State.setCall (s : State) (i : ℕ) (point : UpdatePoint) : State :=
  { s with calls := s.calls.set i point }

/-- Abort a task: it drops its locks, unless it is past its last `await`. -/
def State.abort (s : State) (i : ℕ) : State :=
  match s.expiries[i]? with
  | none => s
  | some e =>
    if e.point.awaits then
      { s.setPoint i e .aborted with locks := Locks.release s.locks (.expiry i) }
    else s

/-- Spawn the expiry task of a policy and store its handle. -/
def State.spawn (s : State) (p : IpPolicy) : State :=
  { s with
    expiries := s.expiries ++ [⟨p.ip, p.duration, s.now, .spawned⟩]
    handles := s.handles.insert p.ip s.expiries.length }

/-- Cancel the expiry task of a permanent policy, or start that of a policy with a
duration. A task that is there is kept. -/
def State.manageTask (s : State) (p : IpPolicy) : State :=
  match s.handles.lookup p.ip with
  | some i =>
    if p.duration = 0 then { s with handles := s.handles.erase p.ip }.abort i else s
  | none => if 0 < p.duration then s.spawn p else s

/-- Store a policy. -/
def State.store (s : State) (p : IpPolicy) : State :=
  { s with policies := s.policies.insert p.ip ⟨p, s.now⟩ }

/-- One round of the loop of `update_and_write_policies`. -/
def State.applyPolicy (s : State) (p : IpPolicy) : State := (s.manageTask p).store p

/-- The values of `IP_POLICIES`. -/
def State.values (s : State) : List IpPolicy :=
  s.policies.entries.map fun entry => entry.2.policy

/-- Write the tables and drop the locks. -/
def State.writeAndRelease (s : State) (io : ProcIo) (owner : Owner) : State :=
  { s with
    tables := (writePoliciesToProc io s.tables).1
    written := (writePoliciesToProc io s.tables).2.isNone
    locks := Locks.release s.locks owner }

/-- Take a free lock. -/
def State.take (s : State) (l : LockName) (owner : Owner) : Option State :=
  if s.locks l = none then some { s with locks := Locks.acquire s.locks l owner } else none

/-- A turn of a call. -/
def State.advanceCall (s : State) (i : ℕ) (io : ProcIo) : Option State :=
  match s.calls[i]? with
  | some (.waitPolicies ps) =>
    (s.take .policies (.call i)).map fun t => t.setCall i (.waitTasks ps)
  | some (.waitTasks ps) =>
    (s.take .tasks (.call i)).map fun t => t.setCall i (.applying ps)
  | some (.applying (p :: ps)) => some ((s.applyPolicy p).setCall i (.applying ps))
  | some (.applying []) =>
    if io.order.Perm s.values then
      some ((s.writeAndRelease io (.call i)).setCall i
        (.finished (writePoliciesToProc io s.tables).2))
    else none
  | _ => none

/-- A turn of an expiry task. -/
def State.advanceExpiry (timer : Timer) (s : State) (i : ℕ) (io : ProcIo) : Option State :=
  match s.expiries[i]? with
  | none => none
  | some e =>
    match e.point with
    | .spawned => some (s.setPoint i e (.sleeping (timer.deadline s.now e.duration)))
    | .sleeping deadline =>
      if deadline ≤ s.now then some (s.setPoint i e .waitPolicies) else none
    | .waitPolicies =>
      (s.take .policies (.expiry i)).map fun t =>
        { t.setPoint i e .waitTasks with policies := s.policies.erase e.ip }
    | .waitTasks =>
      (s.take .tasks (.expiry i)).map fun t =>
        { t.setPoint i e .writing with handles := s.handles.erase e.ip }
    | .writing =>
      if io.order.Perm s.values then
        some ((s.writeAndRelease io (.expiry i)).setPoint i e .finished)
      else none
    | .finished | .aborted => none

/-- What can happen next. -/
inductive Action
  /-- Some part of the agent calls `update_and_write_policies`. -/
  | call (policies : List IpPolicy)
  /-- Time passes. -/
  | tick (seconds : ℕ)
  | advanceCall (i : ℕ) (io : ProcIo)
  | advanceExpiry (i : ℕ) (io : ProcIo)

/-- Carry out an action. -/
def State.step (timer : Timer) (s : State) : Action → Option State
  | .call ps => some { s with calls := s.calls ++ [.waitPolicies ps] }
  | .tick seconds => some { s with now := s.now + seconds }
  | .advanceCall i io => s.advanceCall i io
  | .advanceExpiry i io => s.advanceExpiry timer i io

/-- The process before the first call. The kernel tables may hold anything. -/
def State.Initial (s : State) : Prop :=
  s.policies = ∅ ∧ s.handles = ∅ ∧ (∀ l, s.locks l = none) ∧ s.calls = [] ∧ s.expiries = [] ∧
    s.written = false

/-- The process and its environment. -/
def system (timer : Timer) : Runs.System State Action := ⟨State.Initial, State.step timer⟩

end LinuxAgent.NetBlock
