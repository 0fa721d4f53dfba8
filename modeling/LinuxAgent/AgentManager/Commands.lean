import LinuxAgent.Lib.Mpsc
import LinuxAgent.Lib.Runs
import LinuxAgent.Lib.Text
import LinuxAgent.Lib.Utf8

/-!
# Commands through the socket

The agent upgrades and uninstalls itself by way of `agent_manager`: it connects to a socket and
writes a line. A task for each connection reads the first line and puts a command into a channel of
16, and the main loop takes the commands out, stops the services and spawns what the command is for.

However the connections take turns and in whatever pieces the lines arrive, each connection gives
the command of its first line once, and the commands are handled in the order of the channel. They
end only with the process, after an uninstallation.
-/

namespace LinuxAgent.AgentManager

/-- `AgentCommand`. -/
inductive AgentCommand
  | update
  | uninstall
  | unknown (s : String)
  deriving DecidableEq

/-- The command of a line, if the line is valid. -/
def AgentCommand.ofLine (line : List UInt8) : Option AgentCommand :=
  (Utf8.decode line).map fun cs =>
    let text := Text.trim (String.ofList cs)
    if text = "update" then .update
    else if text = "uninstall" then .uninstall
    else .unknown text

/-- What the main loop spawns. -/
inductive Job
  /-- The script that is found in the package is run. -/
  | upgrade
  /-- Everything is removed, and the process ends. -/
  | uninstall
  deriving DecidableEq

/-- The jobs of a command. -/
def AgentCommand.jobs : AgentCommand → List Job
  | .update => [.upgrade]
  | .uninstall => [.uninstall]
  | .unknown _ => []

/-- Where `handle_client` is. -/
inductive Phase
  | reading
  | sending (cmd : AgentCommand)
  | done
  deriving DecidableEq

/-- A connection. -/
structure Connection where
  /-- What the client has written so far. -/
  written : List UInt8
  closed : Bool
  phase : Phase
  deriving DecidableEq

/-- What `read_line` reads, if it need not wait any longer. -/
def Connection.line (c : Connection) : Option (List UInt8) :=
  if 10 ∈ c.written then some (c.written.takeWhile (· ≠ 10) ++ [10])
  else if c.closed then some c.written
  else none

/-- The command of a connection. -/
def Connection.command (c : Connection) : Option AgentCommand := c.line.bind AgentCommand.ofLine

/-- The process, with the commands that were put into the channel and those that were taken out.
They are marked with their connections. -/
structure State where
  connections : List Connection
  channel : Mpsc.Channel (ℕ × AgentCommand) 16
  /-- The command that the main loop is at. -/
  current : Option AgentCommand
  jobs : List Job
  exited : Bool
  sent : List (ℕ × AgentCommand)
  handled : List (ℕ × AgentCommand)
  deriving DecidableEq

/-- What happens. -/
inductive Action
  | connect
  | write (i : ℕ) (bytes : List UInt8)
  | close (i : ℕ)
  | readLine (i : ℕ)
  | send (i : ℕ)
  | recv
  /-- The services are stopped, and the job is spawned. -/
  | finish
  | exit
  deriving DecidableEq

/-- A connection in its new state. -/
def State.put (s : State) (i : ℕ) (c : Connection) : State :=
  { s with connections := s.connections.set i c }

/-- `handle_client` has read a line. -/
def State.readLine (s : State) (i : ℕ) (c : Connection) (line : List UInt8) : State :=
  s.put i { c with phase := ((AgentCommand.ofLine line).map Phase.sending).getD .done }

/-- The steps of the connection `i`. -/
def State.client (s : State) (i : ℕ) (c : Connection) : Action → Option State
  | .write _ bytes =>
    if c.closed then none else some (s.put i { c with written := c.written ++ bytes })
  | .close _ => some (s.put i { c with closed := true })
  | .readLine _ => if c.phase = .reading then c.line.map (s.readLine i c) else none
  | .send _ =>
    match c.phase with
    | .sending cmd =>
      (s.channel.send (i, cmd)).map fun channel =>
        { s.put i { c with phase := .done } with
          channel := channel
          sent := s.sent ++ [(i, cmd)] }
    | _ => none
  | _ => none

/-- One step of the process while it runs. -/
def State.act (s : State) (a : Action) : Option State :=
  match a with
  | .connect => some { s with connections := s.connections ++ [⟨[], false, .reading⟩] }
  | .write i _ | .close i | .readLine i | .send i => s.connections[i]?.bind fun c => s.client i c a
  | .recv =>
    if s.current = none then
      s.channel.recv.map fun r =>
        { s with
          channel := r.2
          current := some r.1.2
          handled := s.handled ++ [r.1] }
    else none
  | .finish => s.current.map fun cmd => { s with current := none, jobs := s.jobs ++ cmd.jobs }
  | .exit => if .uninstall ∈ s.jobs then some { s with exited := true } else none

/-- One step. -/
def step (s : State) (a : Action) : Option State := if s.exited then none else s.act a

/-- The process before the first connection. -/
def start : State := ⟨[], Mpsc.channel, none, [], false, [], []⟩

/-- The manager with its connections. -/
def system : Runs.System State Action where
  init s := s = start
  step := step

/-- A line does not change once it can be read. -/
theorem Connection.line_append {c : Connection} {line : List UInt8} (h : c.line = some line)
    (hopen : c.closed = false) (bytes : List UInt8) :
    ({ c with written := c.written ++ bytes } : Connection).line = some line := by
  unfold Connection.line at h ⊢
  dsimp only
  split at h
  · next hmem =>
    obtain ⟨before, after, heq, hnot⟩ := List.eq_append_cons_of_mem hmem
    have htake (rest : List UInt8) : (before ++ 10 :: rest).takeWhile (· ≠ 10) = before := by
      have hbefore : ∀ b ∈ before, decide (b ≠ 10) = true := by
        intro b hb
        have hne : b ≠ 10 := fun hten => hnot (hten ▸ hb)
        exact decide_eq_true hne
      rw [List.takeWhile_append_of_pos hbefore]
      simp
    rw [if_pos (List.mem_append_left _ hmem), ← h]
    rw [heq, htake, List.append_assoc, List.cons_append, htake]
  · rw [hopen] at h
    cases h

/-- A line that has arrived is there after the connection is closed. -/
theorem Connection.line_close {c : Connection} {line : List UInt8} (h : c.line = some line) :
    ({ c with closed := true } : Connection).line = some line := by
  unfold Connection.line at h ⊢
  dsimp only
  split at h
  · next hmem => rw [if_pos hmem, h]
  · next hmem =>
    rw [if_neg hmem, if_pos rfl]
    split at h
    · exact h
    · cases h

/-- What the commands that were sent say of a connection. -/
def Connection.Settled (c : Connection) (i : ℕ) (sent : List (ℕ × AgentCommand)) : Prop :=
  match c.phase with
  | .reading => ∀ cmd, (i, cmd) ∉ sent
  | .sending cmd => c.command = some cmd ∧ ∀ cmd, (i, cmd) ∉ sent
  | .done => c.line.isSome ∧ ∀ cmd, (i, cmd) ∈ sent ↔ c.command = some cmd

/-- What holds all along. -/
structure Inv (s : State) : Prop where
  settled : ∀ i (c : Connection), s.connections[i]? = some c → c.Settled i s.sent
  known : ∀ p ∈ s.sent, p.1 < s.connections.length
  nodup : (s.sent.map Prod.fst).Nodup
  order : s.handled ++ s.channel.queue = s.sent
  jobs : s.jobs ++ s.current.toList.flatMap AgentCommand.jobs =
    s.handled.flatMap fun p => p.2.jobs

/-- The invariant holds when the manager has started. -/
theorem inv_start : Inv start := ⟨nofun, nofun, .nil, rfl, rfl⟩

/-- A change of one connection. -/
theorem Inv.put {s : State} (h : Inv s) {i : ℕ} {c c' : Connection}
    (hc : s.connections[i]? = some c) (hsettled : c'.Settled i s.sent) : Inv (s.put i c') := by
  refine ⟨fun j d hd => ?_, fun p hp => ?_, h.nodup, h.order, h.jobs⟩
  · rw [State.put] at hd
    obtain ⟨hlt, -⟩ := List.getElem?_eq_some_iff.mp hc
    by_cases hji : i = j
    · subst hji
      rw [List.getElem?_set_self hlt] at hd
      exact Option.some.inj hd ▸ hsettled
    · rw [List.getElem?_set_ne hji] at hd
      exact h.settled j d hd
  · rw [State.put, List.length_set]
    exact h.known p hp

/-- More of a connection does not change what is settled about it. -/
theorem Connection.Settled.of_line {c c' : Connection} {i : ℕ} {sent : List (ℕ × AgentCommand)}
    (h : c.Settled i sent) (hphase : c'.phase = c.phase)
    (hline : ∀ line, c.line = some line → c'.line = some line) : c'.Settled i sent := by
  have hcommand {line : List UInt8} (hc : c.line = some line) : c'.command = c.command := by
    rw [Connection.command, Connection.command, hline line hc, hc]
  unfold Connection.Settled at h ⊢
  rw [hphase]
  split at h
  · exact h
  · next cmd hsending =>
    obtain ⟨line, hc, -⟩ := Option.bind_eq_some_iff.mp h.1
    exact ⟨(hcommand hc).trans h.1, h.2⟩
  · obtain ⟨line, hc⟩ := Option.isSome_iff_exists.mp h.1
    refine ⟨?_, fun cmd => ?_⟩
    · rw [hline line hc]
      rfl
    · rw [h.2 cmd, hcommand hc]

/-- Reading a line keeps the invariant. -/
theorem Inv.readLine {s : State} (h : Inv s) {i : ℕ} {c : Connection} {line : List UInt8}
    (hc : s.connections[i]? = some c) (hreading : c.phase = .reading) (hline : c.line = some line) :
    Inv (s.readLine i c line) := by
  have hnot : ∀ cmd, (i, cmd) ∉ s.sent := by
    have hsettled := h.settled i c hc
    rwa [Connection.Settled, hreading] at hsettled
  refine h.put hc ?_
  have hcommand (phase : Phase) :
      ({ c with phase := phase } : Connection).command = AgentCommand.ofLine line := by
    have hsame : ({ c with phase := phase } : Connection).line = c.line := rfl
    rw [Connection.command, hsame, hline, Option.bind_some]
  cases hcmd : AgentCommand.ofLine line with
  | none =>
    refine ⟨Option.isSome_iff_exists.mpr ⟨line, hline⟩, fun cmd => iff_of_false (hnot cmd) ?_⟩
    rw [hcommand, hcmd]
    nofun
  | some cmd => exact ⟨(hcommand _).trans hcmd, hnot⟩

/-- Sending a command into the channel keeps the invariant. -/
theorem Inv.send {s : State} (h : Inv s) {i : ℕ} {c : Connection} {cmd : AgentCommand}
    {channel : Mpsc.Channel (ℕ × AgentCommand) 16} (hc : s.connections[i]? = some c)
    (hsending : c.phase = .sending cmd) (hsend : s.channel.send (i, cmd) = some channel) :
    Inv { s.put i { c with phase := .done } with
      channel := channel
      sent := s.sent ++ [(i, cmd)] } := by
  obtain ⟨hcommand, hnot⟩ : c.command = some cmd ∧ ∀ cmd, (i, cmd) ∉ s.sent := by
    have hsettled := h.settled i c hc
    rwa [Connection.Settled, hsending] at hsettled
  obtain ⟨hlt, -⟩ := List.getElem?_eq_some_iff.mp hc
  refine ⟨fun j d hd => ?_, fun p hp => ?_, ?_, ?_, h.jobs⟩
  · by_cases hji : i = j
    · subst hji
      rw [State.put, List.getElem?_set_self hlt] at hd
      obtain rfl := Option.some.inj hd
      obtain ⟨line, hline, -⟩ := Option.bind_eq_some_iff.mp hcommand
      refine ⟨Option.isSome_iff_exists.mpr ⟨line, hline⟩, fun other => ?_⟩
      have hsame : ({ c with phase := .done } : Connection).command = some cmd := hcommand
      rw [hsame]
      simp [hnot other, eq_comm]
    · rw [State.put, List.getElem?_set_ne hji] at hd
      have hmem (other : AgentCommand) :
          (j, other) ∈ s.sent ++ [(i, cmd)] ↔ (j, other) ∈ s.sent := by
        simp [Ne.symm hji]
      have hsettled := h.settled j d hd
      unfold Connection.Settled at hsettled ⊢
      simpa only [hmem] using hsettled
  · rw [State.put, List.length_set]
    obtain hp | hp := List.mem_append.mp hp
    · exact h.known p hp
    · rw [List.mem_singleton.mp hp]
      exact hlt
  · rw [List.map_append]
    refine List.nodup_append.mpr ⟨h.nodup, List.pairwise_singleton _ _, ?_⟩
    rintro _ hmem _ hi rfl
    obtain ⟨⟨j, other⟩, hsent, rfl⟩ := List.mem_map.mp hmem
    obtain rfl : j = i := List.mem_singleton.mp hi
    exact hnot other hsent
  · show s.handled ++ channel.queue = s.sent ++ [(i, cmd)]
    rw [(Mpsc.Channel.send_eq_some hsend).2, ← List.append_assoc, h.order]

/-- A move of a connection keeps the invariant. -/
theorem Inv.client {s s' : State} {a : Action} (h : Inv s) {i : ℕ} {c : Connection}
    (hc : s.connections[i]? = some c) (hstep : s.client i c a = some s') : Inv s' := by
  unfold State.client at hstep
  split at hstep
  · next bytes =>
    split at hstep
    · cases hstep
    · next hopen =>
      obtain rfl := Option.some.inj hstep
      exact h.put hc ((h.settled i c hc).of_line rfl fun line hline =>
        Connection.line_append hline (eq_false_of_ne_true hopen) bytes)
  · obtain rfl := Option.some.inj hstep
    exact h.put hc ((h.settled i c hc).of_line rfl fun line hline => Connection.line_close hline)
  · split at hstep
    · next hreading =>
      obtain ⟨line, hline, rfl⟩ := Option.map_eq_some_iff.mp hstep
      exact h.readLine hc hreading hline
    · cases hstep
  · split at hstep
    · next cmd hsending =>
      obtain ⟨channel, hsend, rfl⟩ := Option.map_eq_some_iff.mp hstep
      exact h.send hc hsending hsend
    · cases hstep
  · cases hstep

/-- Every step keeps the invariant. -/
theorem Inv.step {s s' : State} {a : Action} (h : Inv s) (hstep : step s a = some s') : Inv s' := by
  unfold AgentManager.step at hstep
  split at hstep
  · cases hstep
  unfold State.act at hstep
  split at hstep
  · obtain rfl := Option.some.inj hstep
    refine ⟨fun i c hc => ?_, fun p hp => ?_, h.nodup, h.order, h.jobs⟩
    · dsimp only at hc
      rw [List.getElem?_append] at hc
      split at hc
      · exact h.settled i c hc
      · next hlt =>
        obtain ⟨hzero, hget⟩ := List.getElem?_eq_some_iff.mp hc
        have hphase : c.phase = .reading := by rw [← hget, List.getElem_singleton]
        rw [Connection.Settled, hphase]
        exact fun cmd hsent => hlt (h.known (i, cmd) hsent)
    · rw [List.length_append]
      exact Nat.lt_succ_of_lt (h.known p hp)
  · obtain ⟨c, hc, hclient⟩ := Option.bind_eq_some_iff.mp hstep
    exact h.client hc hclient
  · obtain ⟨c, hc, hclient⟩ := Option.bind_eq_some_iff.mp hstep
    exact h.client hc hclient
  · obtain ⟨c, hc, hclient⟩ := Option.bind_eq_some_iff.mp hstep
    exact h.client hc hclient
  · obtain ⟨c, hc, hclient⟩ := Option.bind_eq_some_iff.mp hstep
    exact h.client hc hclient
  · split at hstep
    · next hidle =>
      obtain ⟨⟨p, channel⟩, hrecv, rfl⟩ := Option.map_eq_some_iff.mp hstep
      have hqueue := Mpsc.Channel.recv_eq_some hrecv
      refine ⟨h.settled, h.known, h.nodup, ?_, ?_⟩
      · have horder := h.order
        rw [hqueue] at horder
        simpa using horder
      · have hjobs := h.jobs
        rw [hidle] at hjobs
        simpa using hjobs
    · cases hstep
  · obtain ⟨cmd, hcurrent, rfl⟩ := Option.map_eq_some_iff.mp hstep
    refine ⟨h.settled, h.known, h.nodup, h.order, ?_⟩
    have hjobs := h.jobs
    rw [hcurrent] at hjobs
    simpa using hjobs
  · split at hstep
    · obtain rfl := Option.some.inj hstep
      exact ⟨h.settled, h.known, h.nodup, h.order, h.jobs⟩
    · cases hstep

/-- The invariant holds in every run. -/
theorem inv_of_reachable {s : State} (h : system.Reachable s) : Inv s := by
  refine h.invariant (fun s hs => ?_) fun _ _ _ hinv _ hstep => hinv.step hstep
  obtain rfl : s = start := hs
  exact inv_start

/-- The steps that the process takes by itself for a connection. -/
def ownSteps (i : ℕ) : List Action := [.readLine i, .send i, .recv, .finish]

/-- As long as a connection with a line is not done, the process can go on. -/
theorem exists_step {s : State} (hrunning : s.exited = false) {i : ℕ} {c : Connection}
    (hc : s.connections[i]? = some c) (hline : c.line.isSome) (hopen : c.phase ≠ .done) :
    ∃ a ∈ ownSteps i, (step s a).isSome := by
  have hstep (a : Action) : step s a = s.act a := by
    rw [step, hrunning]
    rfl
  have hclient {a : Action} (ha : s.act a = s.connections[i]?.bind fun c => s.client i c a) :
      step s a = s.client i c a := by
    rw [hstep, ha, hc]
    rfl
  cases hphase : c.phase with
  | reading =>
    refine ⟨.readLine i, by simp [ownSteps], ?_⟩
    rw [hclient rfl, State.client, if_pos hphase]
    simpa using hline
  | done => exact absurd hphase hopen
  | sending cmd =>
    by_cases hroom : s.channel.queue.length < 16
    · refine ⟨.send i, by simp [ownSteps], ?_⟩
      rw [hclient rfl, State.client]
      simp only [hphase, Option.isSome_map]
      exact Mpsc.Channel.send_isSome.mpr hroom
    · cases hcurrent : s.current with
      | some cmd =>
        refine ⟨.finish, by simp [ownSteps], ?_⟩
        rw [hstep, State.act, hcurrent]
        rfl
      | none =>
        refine ⟨.recv, by simp [ownSteps], ?_⟩
        rw [hstep, State.act, if_pos hcurrent, Option.isSome_map]
        refine Mpsc.Channel.recv_isSome.mpr fun hnil => hroom ?_
        rw [hnil]
        decide

/-- However the connections take turns, and in whatever pieces the lines come: the channel gets from
each connection the command of its first line, once, as soon as the connection is done. The commands
are handled in the order of the channel, and each is answered with its own jobs. While the process
runs, no connection with a line is stuck. -/
theorem commands_handled_once {s : State} (h : system.Reachable s) :
    s.handled ++ s.channel.queue = s.sent ∧
      (s.sent.map Prod.fst).Nodup ∧
      (∀ i cmd, (i, cmd) ∈ s.sent ↔ ∃ c : Connection,
        s.connections[i]? = some c ∧ c.phase = .done ∧ c.command = some cmd) ∧
      s.jobs ++ s.current.toList.flatMap AgentCommand.jobs =
        s.handled.flatMap (fun p => p.2.jobs) ∧
      (s.exited = false → ∀ i (c : Connection), s.connections[i]? = some c → c.line.isSome →
        c.phase ≠ .done → ∃ a ∈ ownSteps i, (step s a).isSome) := by
  have hinv := inv_of_reachable h
  refine ⟨hinv.order, hinv.nodup, fun i cmd => ?_, hinv.jobs, fun hrunning i c hc hline hopen =>
    exists_step hrunning hc hline hopen⟩
  constructor
  · intro hsent
    obtain ⟨c, hc⟩ : ∃ c, s.connections[i]? = some c :=
      ⟨_, List.getElem?_eq_getElem (hinv.known (i, cmd) hsent)⟩
    have hsettled := hinv.settled i c hc
    unfold Connection.Settled at hsettled
    split at hsettled
    · exact absurd hsent (hsettled cmd)
    · exact absurd hsent (hsettled.2 cmd)
    · next hdone => exact ⟨c, hc, hdone, (hsettled.2 cmd).mp hsent⟩
  · rintro ⟨c, hc, hdone, hcommand⟩
    have hsettled := hinv.settled i c hc
    rw [Connection.Settled, hdone] at hsettled
    exact (hsettled.2 cmd).mpr hcommand

/-- What `send_command_to_agent` writes. -/
def commandLine (cmd : String) : List UInt8 := Utf8.encode (cmd ++ "\n").toList

example : (⟨commandLine "update", true, .reading⟩ : Connection).command = some .update := by decide

example : (⟨commandLine "uninstall", true, .reading⟩ : Connection).command = some .uninstall := by
  decide

/-- Two commands. The second one is sent first, after it has come in two pieces. -/
def twoCommands : List Action :=
  [.connect, .connect, .write 0 (commandLine "uninstall"), .write 1 (Utf8.encode "upd".toList),
    .readLine 0, .write 1 (Utf8.encode "ate\nmore".toList), .readLine 1, .send 1, .send 0, .recv,
    .finish]

/-- The state after them. -/
def afterTwo : State := (system.exec start twoCommands).getD start

/-- The manager gets there. -/
theorem reachable_afterTwo : system.Reachable afterTwo := by
  have hexec : system.exec start twoCommands = some afterTwo := rfl
  exact Runs.System.Reaches.exec (.init rfl) (.of_forall (fun _ _ _ => trivial) _) hexec

/-- One of two commands is handled and the other one waits. -/
theorem commands_handled_once_two :
    afterTwo.handled = [(1, .update)] ∧ afterTwo.channel.queue = [(0, .uninstall)] ∧
      afterTwo.jobs ++ afterTwo.current.toList.flatMap AgentCommand.jobs =
        afterTwo.handled.flatMap (fun p => p.2.jobs) :=
  ⟨by decide, by decide, (commands_handled_once reachable_afterTwo).2.2.2.1⟩

end LinuxAgent.AgentManager
