import LinuxAgent.AgentCli.Commands
import LinuxAgent.Lib.Locks
import LinuxAgent.Lib.Runs
import Mathlib.Data.List.AList

/-!
# The tasks of the console

The console runs one task for every agent that it reads from, one for every agent that
it accepts and one for every command that is typed. They share the table of clients, the
selected client, the history of commands and the writers of the clients, each behind a
mutex. A task is the point at which it stands: before a mutex that it waits for, or
between two operations with the mutexes it holds.
-/

namespace LinuxAgent.AgentCli

/-- The mutexes of the console. -/
inductive LockName where
  | clients
  | current
  | history
  | writer (id : ℕ)
  deriving DecidableEq

/-- The places from which `print_prompt` is called. -/
inductive Caller where
  | mainLoop
  /-- `client_read_loop`, after it has shown output. -/
  | reader (id : ℕ)
  /-- The end of `handle_console`. -/
  | console
  /-- `handle_console` when the history has no such command; it keeps the history locked. -/
  | lookup
  /-- The end of `client_read_loop`, which keeps the selection locked. -/
  | leave (id : ℕ) (aborted : Bool)
  deriving DecidableEq

/-- The points at which the tasks stand. A name that ends in the name of a mutex stands
for the wait for it. -/
inductive Point where
  /-- The main loop of `start_server` waits for connections and lines. -/
  | select
  /-- The task of an accepted connection, before it saves the client. -/
  | insertClients (id : ℕ)
  /-- `client_read_loop` waits for data. -/
  | reading (id : ℕ)
  | lookupClients (id : ℕ) (data : String)
  | registerClients (id : ℕ) (uid : String)
  | autoSelectCurrent (id : ℕ) (uid : String)
  | helloClients (id : ℕ) (uid : String)
  | helloWriter (id : ℕ) (uid : String)
  /-- The answer to the greeting is written. -/
  | hello (id : ℕ) (uid : String)
  | promptCurrent (caller : Caller)
  | promptClients (caller : Caller)
  | leaveClients (id : ℕ)
  /-- The writer of a removed client is shut down, by a task that has aborted itself. -/
  | closing (id : ℕ)
  | leaveCurrent (id : ℕ) (aborted : Bool)
  /-- `handle_console` begins. -/
  | command (cmd : String)
  | findHistory (cmd : Command)
  | saveHistory (cmd : Command)
  | showHistory
  | setUidClients (id : ℕ) (newUid : Option String)
  | setUidCurrent (id : ℕ)
  | listClients
  | listCurrent
  | selectClients (target : String)
  | selectCurrent (target : String)
  | sendFileCurrent (src dst : String)
  | sendFileClients (id : ℕ) (src dst : String)
  /-- The file is looked up and opened. -/
  | sendFileOpen (id : ℕ) (src dst : String)
  | sendFileWriter (id : ℕ) (bytes : List UInt8)
  /-- The file is written. -/
  | sendFile (id : ℕ) (bytes : List UInt8)
  | messageClients (text : String)
  | messageCurrent (text : String)
  | messageSecondClients (id : ℕ) (text : String)
  | messageWriter (id : ℕ) (text : String)
  /-- The message is written. -/
  | message (id : ℕ) (text : String)
  /-- Writing has failed, and the client is to be removed. -/
  | dropClients (id : ℕ)
  | deselectCurrent
  | exitCurrent
  | exitClients
  /-- These writers are still to be shut down. -/
  | exitWriter (ids : List ℕ)
  /-- A writer is shut down. -/
  | exitShutdown (id : ℕ) (rest : List ℕ)
  /-- `std::process::exit` is called, and the task does not go on. -/
  | exiting
  | finished

/-- Where a task goes on after `print_prompt`. -/
def Caller.back : Caller → Point
  | .mainLoop => .select
  | .reader id => .reading id
  | .console | .lookup | .leave _ _ => .finished

/-- The mutexes that the caller of `print_prompt` holds. -/
def Caller.holds : Caller → List LockName
  | .lookup => [.history]
  | .leave _ _ => [.current]
  | .mainLoop | .reader _ | .console => []

/-- The mutex for which a task waits. -/
def Point.wants : Point → Option LockName
  | .insertClients _ | .lookupClients _ _ | .registerClients _ _ | .helloClients _ _
  | .promptClients _ | .leaveClients _ | .setUidClients _ _ | .listClients | .selectClients _
  | .sendFileClients _ _ _ | .messageClients _ | .messageSecondClients _ _ | .dropClients _
  | .exitClients => some .clients
  | .autoSelectCurrent _ _ | .promptCurrent _ | .leaveCurrent _ _ | .setUidCurrent _
  | .listCurrent | .selectCurrent _ | .sendFileCurrent _ _ | .messageCurrent _
  | .deselectCurrent | .exitCurrent => some .current
  | .findHistory _ | .saveHistory _ | .showHistory => some .history
  | .helloWriter id _ | .sendFileWriter id _ | .messageWriter id _
  | .exitWriter (id :: _) => some (.writer id)
  | .select | .reading _ | .hello _ _ | .closing _ | .command _ | .sendFileOpen _ _ _
  | .sendFile _ _ | .message _ _ | .exitWriter [] | .exitShutdown _ _ | .exiting
  | .finished => none

/-- The mutexes that a task holds. -/
def Point.holds : Point → List LockName
  | .promptCurrent caller | .promptClients caller => caller.holds
  | .hello id _ | .sendFile id _ | .message id _ | .dropClients id => [.writer id]
  | .setUidCurrent _ | .listCurrent | .selectCurrent _ | .messageCurrent _
  | .exitWriter _ => [.clients]
  | .closing id | .exitShutdown id _ => [.clients, .writer id]
  | _ => []

/-- The task has aborted itself: it ends where it would have to wait. -/
def Point.aborted : Point → Bool
  | .closing _ | .leaveCurrent _ true | .promptCurrent (.leave _ true) => true
  | _ => false

/-- The section of `client_read_loop` after its loop. -/
def Point.inExit : Point → Bool
  | .leaveClients _ | .closing _ | .leaveCurrent _ _ | .promptCurrent (.leave _ _)
  | .promptClients (.leave _ _) => true
  | _ => false

/-- What the mutexes protect: the identity of every client, the selected client, the
history, and what has been written to the clients. -/
structure Shared where
  clients : AList fun _ : ℕ => Option String
  current : Option ℕ
  history : List Command
  written : List (ℕ × List UInt8)

/-- Set the identity of a client. -/
def Shared.setUid (c : Shared) (id : ℕ) (uid : String) : Shared :=
  if id ∈ c.clients then { c with clients := c.clients.insert id (some uid) } else c

/-- Select a client if none is selected. -/
def Shared.autoSelect (c : Shared) (id : ℕ) : Shared :=
  if c.current.isNone then { c with current := some id } else c

/-- What is written to a client. -/
def Shared.write (c : Shared) (id : ℕ) (bytes : List UInt8) : Shared :=
  { c with written := c.written ++ [(id, bytes)] }

/-- The clients with this identity. -/
def Shared.named (c : Shared) (uid : String) : List ℕ :=
  c.clients.keys.filter fun id => c.clients.lookup id = some (some uid)

/-- The selected client if it is in the table, with its identity. -/
def Shared.selected (c : Shared) : Option (ℕ × String) :=
  match c.current with
  | none => none
  | some id => (c.clients.lookup id).map fun uid => (id, uid.getD "")

/-- What a step of a task gets from outside. -/
structure Env where
  /-- The outcome of writing, of shutting down or of opening a file. -/
  ok : Bool
  /-- What a read returns; nothing at the end of the stream and on errors. -/
  data : List UInt8
  files : LocalFiles
  /-- The file to send. -/
  file : Source
  /-- Which of several clients of one identity the table has first. -/
  choice : ℕ
  /-- The order in which the table has the clients. -/
  order : List ℕ

/-- The end of `handle_console`. -/
def Point.prompt : Point := .promptCurrent .console

/-- The command needs the history. -/
def looksUpHistory (cmd : Command) : Bool :=
  cmd.text = "!!" ||
    match cmd.text.toList with
    | '!' :: number => (Text.parseU64 number).isSome
    | _ => false

/-- The branches of `handle_console`, up to the first mutex. -/
def branch (files : LocalFiles) (cmd : Command) : Point :=
  match Text.words cmd.text with
  | ["history"] | ["h"] => .showHistory
  | ["set", "uid", idStr] =>
    match Text.parseU64 idStr.toList with
    | some id => .setUidClients id none
    | none => .prompt
  | ["set", "uid", idStr, newUid] =>
    match Text.parseU64 idStr.toList with
    | some id => .setUidClients id (some newUid)
    | none => .prompt
  | ["list"] => .listClients
  | ["select", target] | ["use", target] => .selectClients target
  | ["send_file", src, dst] => .sendFileCurrent src dst
  | ["get_file", src, dst] =>
    match finalDst files src dst with
    | none => .finished
    | some final => .messageClients ("get_file " ++ src ++ " " ++ final)
  | ["rkill"] => .messageClients "rkill"
  | ["get_kernel_src"] => .messageClients "get_kernel_src"
  | ["clear"] | ["deselect"] => .deselectCurrent
  | ["exit"] | ["quit"] | ["bye"] => .exitCurrent
  | ["help"] | ["?"] => .prompt
  | _ => .messageClients cmd.text

/-- The destination in `send_file_to_client_with_writer`. It looks at its own files. -/
def uploadDst (files : LocalFiles) (src dst : String) : Option String :=
  match files.metadata dst with
  | some true => (fileName src).map fun name => join dst name
  | _ => some dst

/-- Where `client_read_loop` goes on with what it has read. -/
def afterRead (id : ℕ) (data : List UInt8) : Point :=
  if data = [] then .leaveClients id
  else if (Text.position startBytes data).isSome then .reading id
  else .lookupClients id (String.ofList (Utf8.lossy data))

/-- Where `client_read_loop` goes on with a text. -/
def afterLookup (id : ℕ) (data : String) : Point :=
  match textEvent data with
  | .register uid => .registerClients id uid
  | .heartbeat => .reading id
  | .output _ | .file _ => .promptCurrent (.reader id)

/-- The branch of `select`, with both mutexes. -/
def Shared.select (c : Shared) (target : String) (choice : ℕ) : Shared :=
  match Text.parseU64 target.toList with
  | some id => if id ∈ c.clients then { c with current := some id } else c
  | none =>
    match (c.named target)[choice % (c.named target).length]? with
    | some id => { c with current := some id }
    | none => c

/-- One step of a task, up to its next wait. The mutex that it waits for is free. -/
def resume (env : Env) (free : LockName → Bool) (c : Shared) : Point → Option (Shared × Point)
  | .select | .exiting | .finished => none
  | .insertClients id => some ({ c with clients := c.clients.insert id none }, .finished)
  | .reading id =>
    if env.data.length ≤ bufferSize then some (c, afterRead id env.data) else none
  | .lookupClients id data => some (c, afterLookup id data)
  | .registerClients id uid => some (c.setUid id uid, .autoSelectCurrent id uid)
  | .autoSelectCurrent id uid => some (c.autoSelect id, .helloClients id uid)
  | .helloClients id uid =>
    some (c, if id ∈ c.clients then .helloWriter id uid else .reading id)
  | .helloWriter id uid => some (c, .hello id uid)
  | .hello id uid => some (if env.ok then c.write id (AgentCli.hello uid) else c, .reading id)
  | .promptCurrent caller =>
    some (c, if c.current.isSome then .promptClients caller else caller.back)
  | .promptClients caller => some (c, caller.back)
  | .leaveClients id =>
    if id ∈ c.clients then
      some ({ c with clients := c.clients.erase id },
        if free (.writer id) then .closing id else .leaveCurrent id true)
    else some (c, .leaveCurrent id false)
  | .closing id => some (c, .leaveCurrent id true)
  | .leaveCurrent id aborted =>
    if c.current = some id then
      some ({ c with current := none }, .promptCurrent (.leave id aborted))
    else some (c, .finished)
  | .command cmd =>
    some (c, if looksUpHistory (cleanCmd cmd) then .findHistory (cleanCmd cmd)
      else .saveHistory (cleanCmd cmd))
  | .findHistory cmd =>
    match cmdToRun c.history cmd with
    | none => some (c, .promptCurrent .lookup)
    | some run => some (c, .saveHistory run)
  | .saveHistory cmd =>
    some ({ c with history := AgentCli.saveHistory c.history cmd }, branch env.files cmd)
  | .showHistory => some (c, .prompt)
  | .setUidClients id (some uid) =>
    some (c.setUid id uid, if id ∈ c.clients then .setUidCurrent id else .prompt)
  | .setUidClients id none =>
    some (c, if ((c.clients.lookup id).getD none).isSome then .setUidCurrent id else .prompt)
  | .setUidCurrent id => some (c.autoSelect id, .prompt)
  | .listClients => some (c, .listCurrent)
  | .listCurrent => some (c, .prompt)
  | .selectClients target => some (c, .selectCurrent target)
  | .selectCurrent target => some (c.select target env.choice, .prompt)
  | .sendFileCurrent src dst =>
    match c.current with
    | none => some (c, .prompt)
    | some id => some (c, .sendFileClients id src dst)
  | .sendFileClients id src dst =>
    some (c, if id ∈ c.clients then .sendFileOpen id src dst else .prompt)
  | .sendFileOpen id src dst =>
    match uploadDst env.files src dst with
    | some final =>
      some (c, if env.ok then .sendFileWriter id (sendFileToClientWithWriter env.file final)
        else .prompt)
    | none => some (c, .prompt)
  | .sendFileWriter id bytes => some (c, .sendFile id bytes)
  | .sendFile id bytes => some (if env.ok then c.write id bytes else c, .prompt)
  | .messageClients text => some (c, .messageCurrent text)
  | .messageCurrent text =>
    match c.selected with
    | none => some (c, .prompt)
    | some (id, uid) => some (c, .messageSecondClients id (AgentCli.message uid text))
  | .messageSecondClients id text =>
    some (c, if id ∈ c.clients then .messageWriter id text else .prompt)
  | .messageWriter id text => some (c, .message id text)
  | .message id text =>
    if env.ok then some (c.write id (Utf8.encode text.toList), .prompt)
    else some (c, .dropClients id)
  | .dropClients id => some ({ c with clients := c.clients.erase id }, .prompt)
  | .deselectCurrent => some ({ c with current := none }, .prompt)
  | .exitCurrent => some ({ c with current := none }, .exitClients)
  | .exitClients =>
    if env.order.Perm c.clients.keys then some (c, .exitWriter env.order) else none
  | .exitWriter [] => some ({ c with clients := ∅ }, .exiting)
  | .exitWriter (id :: rest) => some (c, .exitShutdown id rest)
  | .exitShutdown _ rest => some (c, .exitWriter rest)

/-- The state of the console. Task 0 is the main loop. -/
structure Server where
  shared : Shared
  tasks : List Point
  nextId : ℕ

/-- No task holds the mutex. -/
def Server.free (s : Server) : LockName → Bool := Locks.free Point.holds s.tasks

/-- The main loop waits. -/
def Server.selecting (s : Server) : Bool :=
  match s.tasks with
  | .select :: _ => true
  | _ => false

/-- What is kept of a typed line. -/
def typedCommand (line : String) : String :=
  String.ofList ((Text.trimEndMatches '\r' (Text.trimChars line.toList)).filter fun c =>
    0x20 ≤ c.toNat && c.toNat < 0x7f)

/-- What happens on the server. -/
inductive ServerAction where
  /-- A connection comes in; its handshake succeeds or fails. -/
  | accept (tls : Bool)
  /-- A line is typed. -/
  | line (text : String)
  /-- A task goes on. -/
  | advance (i : ℕ) (env : Env)
  /-- A task that has aborted itself ends. -/
  | cancel (i : ℕ)

/-- The task goes on with what it shares with the others. -/
def Server.moved (s : Server) (i : ℕ) (next : Shared × Point) : Server :=
  { s with shared := next.1, tasks := s.tasks.set i next.2 }

/-- One step of the console. -/
def Server.step (s : Server) : ServerAction → Option Server
  | .accept tls =>
    if s.selecting then
      some { s with
        nextId := s.nextId + 1
        tasks := s.tasks ++ if tls then [.insertClients s.nextId, .reading s.nextId] else [] }
    else none
  | .line text =>
    if s.selecting then
      some { s with
        tasks :=
          if typedCommand text = "" then s.tasks.set 0 (.promptCurrent .mainLoop)
          else s.tasks ++ [.command (typedCommand text)] }
    else none
  | .advance i env =>
    match s.tasks[i]? with
    | none => none
    | some p =>
      if p.wants.all s.free then (resume env s.free s.shared p).map (s.moved i) else none
  | .cancel i =>
    match s.tasks[i]? with
    | none => none
    | some p => if p.aborted then some (s.moved i (s.shared, .finished)) else none

/-- Setting an identity adds no client. -/
theorem mem_setUid (c : Shared) (id other : ℕ) (uid : String) :
    other ∈ (c.setUid id uid).clients ↔ other ∈ c.clients := by
  unfold Shared.setUid
  split
  · next hid =>
    rw [AList.mem_insert]
    refine ⟨fun h => ?_, Or.inr⟩
    rcases h with rfl | h
    · exact hid
    · exact h
  · exact Iff.rfl

/-- Naming a client does not select another one. -/
theorem current_setUid (c : Shared) (id : ℕ) (uid : String) :
    (c.setUid id uid).current = c.current := by
  unfold Shared.setUid
  split <;> rfl

/-- A client is selected if there was no selection. -/
theorem autoSelect_cases (c : Shared) (id : ℕ) :
    (c.current = none ∧ c.autoSelect id = { c with current := some id }) ∨
      c.autoSelect id = c := by
  unfold Shared.autoSelect
  split
  · next hnone => exact .inl ⟨Option.isNone_iff_eq_none.mp hnone, rfl⟩
  · exact .inr rfl

/-- What a step of a task is. -/
theorem exists_of_step_advance {s s' : Server} {i : ℕ} {env : Env}
    (h : s.step (.advance i env) = some s') :
    ∃ p next, s.tasks[i]? = some p ∧ p.wants.all s.free = true ∧
      resume env s.free s.shared p = some next ∧ s' = s.moved i next := by
  rw [Server.step] at h
  split at h
  · cases h
  · next p hi =>
    split at h
    · next hwants =>
      obtain ⟨next, hresume, rfl⟩ := Option.map_eq_some_iff.mp h
      exact ⟨p, next, hi, hwants, hresume, rfl⟩
    · cases h

/-- A console without clients. -/
def Shared.empty : Shared where
  clients := ∅
  current := none
  history := []
  written := []

/-- Nothing goes wrong outside. -/
def Env.fine : Env where
  ok := true
  data := []
  files := { metadata := fun _ => none }
  file := ⟨[], fun _ => bufferSize⟩
  choice := 0
  order := []

/-- `start_server` before its loop. -/
def Server.started : Server where
  shared := .empty
  tasks := [.promptCurrent .mainLoop]
  nextId := 0

/-- The console with all interleavings of its tasks. -/
def console : Runs.System Server ServerAction where
  init := fun s => s = Server.started
  step := Server.step

/-- The mutex for which a task waits, unless it has aborted itself. -/
def Server.waiting (s : Server) (i : ℕ) : Option LockName :=
  match s.tasks[i]? with
  | none => none
  | some p => if p.aborted then none else p.wants

/-- The selected client is in the table. -/
def Server.selectionValid (s : Server) : Bool :=
  s.shared.current.all fun id => decide (id ∈ s.shared.clients)

/-- No task is inside a critical section or at the end of `client_read_loop`. -/
def Server.quiet (s : Server) : Bool :=
  s.tasks.all fun p => p.holds.isEmpty && !p.inExit

/-- Some tasks wait for each other in a circle. -/
def Server.Deadlocked (s : Server) : Prop :=
  ∃ i, Relation.TransGen (Locks.Waits (Locks.HeldBy Point.holds s.tasks) s.waiting) i i

end LinuxAgent.AgentCli
