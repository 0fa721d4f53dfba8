import LinuxAgent.IpJump.Daemon

/-!
# The token of the daemon's requests

Every login constructs a `TaskFetcher`, which spawns a task that calls
`start_ip_jump_daemon` with the token of that login. The call that finds
`IP_JUMP_DAEMON_STARTED` unset becomes the daemon and keeps its token in a local
variable; all later calls return. The model composes the logins with the daemon
and records each request that the daemon issues for an instruction.
-/

namespace LinuxAgent.IpJump.Tokens

open Runs

/-- How far `execute_instruction` has come. -/
inductive Phase
  /-- Before `upload_result_direct`. -/
  | jumping
  /-- After a successful jump, before the upload of the addresses. -/
  | persisting
  /-- All requests of the call have been made. -/
  | finished
  deriving DecidableEq

/-- The requests that the daemon issues for an instruction. -/
inductive Kind
  /-- `fetch_latest_instruction`. -/
  | getIpJump
  /-- `upload_result_direct`. -/
  | putIpJump
  /-- `upload_ip_jump_periodic_result`. -/
  | uploadIp
  deriving DecidableEq

/-- A request, with the number of logins before it. -/
structure Request where
  /-- What is requested. -/
  kind : Kind
  /-- The token that the request carries. -/
  token : Option String
  /-- The number of logins before the request. -/
  login : ℕ
  deriving DecidableEq

/-- The logins, the tasks that they have spawned, and the daemon. -/
structure State where
  /-- The tokens of all logins, oldest first. -/
  logins : List (Option String)
  /-- The tokens of the spawned calls of `start_ip_jump_daemon` that have not run. -/
  starters : List (Option String)
  /-- The variable `token_for_req` of the running daemon. -/
  tokenForReq : Option (Option String)
  /-- The daemon. -/
  daemon : Daemon.State
  /-- How far the daemon's current `execute_instruction` has come. -/
  phase : Phase
  /-- All requests, oldest first. -/
  requests : List Request
  deriving DecidableEq

/-- What can happen next. A flag `client` tells whether `NetClient::new` succeeds;
without a client no request is issued. -/
inductive Action
  /-- `TaskFetcher::new` is called with the token of a login. -/
  | login (token : Option String)
  /-- The spawned call of `start_ip_jump_daemon` at this position runs. -/
  | start (i : ℕ)
  /-- `send_instruction` is called. -/
  | send (instr : IpJumpInstruction)
  /-- The daemon runs on to its next await point. -/
  | resume
  /-- `interval.tick()` wins the `select!`, and the daemon fetches an instruction. -/
  | tick (client : Bool)
  /-- `rx.changed()` wins the `select!`. -/
  | changed
  /-- `fetch_latest_instruction` returns. -/
  | fetched (result : Except String (Option IpJumpInstruction))
  /-- The jump ends, and the daemon uploads its result. -/
  | uploadResult (success client : Bool)
  /-- The daemon uploads the addresses, if it can read them. -/
  | uploadAddresses (addresses client : Bool)

/-- Before the first login. -/
def initial : State :=
  { logins := [], starters := [], tokenForReq := none, daemon := Daemon.initial, phase := .jumping
    requests := [] }

/-- The instruction that the daemon is executing. -/
def instruction : Daemon.Point → Option IpJumpInstruction
  | .executing _ instr => some instr
  | .executingLatest latest => some latest
  | _ => none

/-- A request of the daemon, unless there is no client for it. -/
def State.request (s : State) (client : Bool) (kind : Kind) (token : Option String) : State :=
  if client then { s with requests := s.requests ++ [⟨kind, token, s.logins.length⟩] } else s

/-- A step of the daemon that issues no request. -/
def State.daemonStep (s : State) (a : Daemon.Action) : Option State :=
  (Daemon.step s.daemon a).map fun daemon => { s with daemon := daemon, phase := .jumping }

/-- One action. The daemon leaves an `execute_instruction` only when its requests
have been made, and a jump succeeds only when the instruction names an address. -/
def step (s : State) : Action → Option State
  | .login token =>
    some { s with logins := s.logins ++ [token], starters := s.starters ++ [token] }
  | .start i => s.starters[i]?.map fun token =>
      { s with
        starters := s.starters.eraseIdx i
        tokenForReq := if s.daemon.daemonStarted then s.tokenForReq else some token
        daemon := Daemon.startIpJumpDaemon s.daemon }
  | .send instr => some { s with daemon := (Daemon.sendInstruction s.daemon instr).1 }
  | .resume =>
    if instruction s.daemon.point ≠ none ∧ s.phase ≠ .finished then none
    else s.daemonStep .resume
  | .tick client => s.tokenForReq.bind fun token =>
      (s.daemonStep .tick).map fun s' => s'.request client .getIpJump token
  | .changed => s.daemonStep .changed
  | .fetched result => s.daemonStep (.fetched result)
  | .uploadResult success client => s.tokenForReq.bind fun token =>
      match instruction s.daemon.point, s.phase with
      | some instr, .jumping =>
        if success && instr.sourceIp = "" && instr.targetIp = "" then none
        else
          let next := if success then Phase.persisting else .finished
          some ({ s with phase := next }.request client .putIpJump token)
      | _, _ => none
  | .uploadAddresses addresses client => s.tokenForReq.bind fun token =>
      match instruction s.daemon.point, s.phase with
      | some _, .persisting =>
        some ({ s with phase := .finished }.request (addresses && client) .uploadIp token)
      | _, _ => none

/-- The logins and the daemon from the start of the agent on. -/
def system : System State Action := ⟨fun s => s = initial, step⟩

/-- Every request carries the token of the latest login before it. -/
def State.UsesCurrentTokens (s : State) : Prop :=
  ∀ r ∈ s.requests, 0 < r.login ∧ s.logins[r.login - 1]? = some r.token

instance (s : State) : Decidable s.UsesCurrentTokens :=
  inferInstanceAs
    (Decidable (∀ r ∈ s.requests, 0 < r.login ∧ s.logins[r.login - 1]? = some r.token))

/-- The step does not leave the daemon with a token that is not the latest: a login
after the daemon has started brings the daemon's own token, and the daemon is
started by the task of the latest login. -/
def KeepsToken (s : State) : Action → Prop
  | .login token => ∀ daemonToken ∈ s.tokenForReq, daemonToken = token
  | .start i => s.daemon.daemonStarted = false → s.starters[i]? = s.logins.getLast?
  | _ => True

instance (s : State) : DecidablePred (KeepsToken s) := fun a => by
  cases a <;> unfold KeepsToken <;> infer_instance

/-- The daemon has the token of the latest login, and so had all its requests. -/
structure InStep (s : State) : Prop where
  /-- The daemon's token is the latest one. -/
  latest : ∀ token ∈ s.tokenForReq, s.logins.getLast? = some token
  /-- The requests so far carried the latest token. -/
  requests : s.UsesCurrentTokens

/-- The progress of an execution does not matter. -/
theorem InStep.withPhase {s : State} (hs : InStep s) (phase : Phase) :
    InStep { s with phase := phase } := by
  constructor
  · exact hs.latest
  · exact hs.requests

/-- Nor does the daemon's position. -/
theorem InStep.daemonStep {s s' : State} {a : Daemon.Action} (hs : InStep s)
    (hst : s.daemonStep a = some s') : InStep s' ∧ s'.tokenForReq = s.tokenForReq := by
  obtain ⟨daemon, -, rfl⟩ := Option.map_eq_some_iff.mp hst
  exact ⟨⟨hs.latest, hs.requests⟩, rfl⟩

/-- A request with the daemon's token carries the token of the latest login. -/
theorem InStep.request {s : State} {token : Option String} (hs : InStep s)
    (htoken : s.tokenForReq = some token) (client : Bool) (kind : Kind) :
    InStep (s.request client kind token) := by
  unfold State.request
  split
  case isFalse => exact hs
  case isTrue =>
    refine ⟨hs.latest, fun r hr => ?_⟩
    rcases List.mem_append.mp hr with hr | hr
    · exact hs.requests r hr
    · obtain rfl := List.mem_singleton.mp hr
      have hlast := hs.latest token htoken
      have hne : s.logins ≠ [] := by
        intro hempty
        simp [hempty] at hlast
      refine ⟨List.length_pos_iff.mpr hne, ?_⟩
      rwa [List.getLast?_eq_getElem?] at hlast

/-- A login that the daemon need not notice. -/
theorem InStep.login {s : State} {token : Option String} (hs : InStep s)
    (hkeeps : ∀ daemonToken ∈ s.tokenForReq, daemonToken = token) :
    InStep { s with logins := s.logins ++ [token], starters := s.starters ++ [token] } := by
  refine ⟨fun t ht => ?_, fun r hr => ?_⟩
  · rw [hkeeps t ht, List.getLast?_concat]
  · obtain ⟨hpos, hget⟩ := hs.requests r hr
    refine ⟨hpos, ?_⟩
    have hlt := (List.getElem?_eq_some_iff.mp hget).1
    rw [List.getElem?_append_left hlt, hget]

/-- What one step keeps. -/
theorem InStep.step {s s' : State} {a : Action} (hs : InStep s) (hkeeps : KeepsToken s a)
    (hst : system.step s a = some s') : InStep s' := by
  change Tokens.step s a = some s' at hst
  cases a with
  | login token =>
    cases hst
    exact hs.login hkeeps
  | start i =>
    obtain ⟨token, htoken, rfl⟩ := Option.map_eq_some_iff.mp hst
    refine ⟨fun t ht => ?_, hs.requests⟩
    cases hstarted : s.daemon.daemonStarted with
    | true =>
      simp only [hstarted, if_true] at ht
      exact hs.latest t ht
    | false =>
      simp only [hstarted, Bool.false_eq_true, if_false] at ht
      have hlast := hkeeps hstarted
      rw [htoken] at hlast
      exact hlast.symm.trans ht
  | send instr =>
    cases hst
    exact ⟨hs.latest, hs.requests⟩
  | resume =>
    simp only [Tokens.step] at hst
    split at hst
    · cases hst
    · exact (hs.daemonStep hst).1
  | tick client =>
    obtain ⟨token, htoken, hst⟩ := Option.bind_eq_some_iff.mp hst
    obtain ⟨t, ht, rfl⟩ := Option.map_eq_some_iff.mp hst
    obtain ⟨hinstep, hsame⟩ := hs.daemonStep ht
    exact hinstep.request (hsame.trans htoken) client _
  | changed => exact (hs.daemonStep hst).1
  | fetched result => exact (hs.daemonStep hst).1
  | uploadResult success client =>
    obtain ⟨token, htoken, hst⟩ := Option.bind_eq_some_iff.mp hst
    split at hst
    · split at hst <;> cases hst
      refine (hs.withPhase _).request ?_ client _
      exact htoken
    · cases hst
  | uploadAddresses addresses client =>
    obtain ⟨token, htoken, hst⟩ := Option.bind_eq_some_iff.mp hst
    split at hst <;> cases hst
    refine (hs.withPhase _).request ?_ _ _
    exact htoken

/-- **Requests carry the current token** in every run in which no login leaves the
daemon behind: the requests after the k-th login and before the next carry the
k-th token. -/
theorem requests_use_current_token {s : State} (hs : system.Reaches KeepsToken s) :
    s.UsesCurrentTokens := by
  have hinstep : InStep s := by
    refine hs.invariant ?_ fun s a s' ih hkeeps hst => ih.step hkeeps hst
    rintro s rfl
    exact ⟨by simp [initial], by simp [State.UsesCurrentTokens, initial]⟩
  exact hinstep.requests

/-- A periodic instruction. -/
def hourly : IpJumpInstruction := ⟨"10.0.0.5", "10.0.0.6/24", "", 3600⟩

/-- One login, one instruction, and a fetch by the periodic loop. -/
def oneLogin : List Action :=
  [.login (some "first"), .start 0, .send hourly, .resume, .resume, .resume,
    .uploadResult true true, .uploadAddresses true true, .resume, .tick true]

/-- The requests of that run carry the token of the login. -/
theorem requests_use_current_token_oneLogin :
    ∃ s : State, s.UsesCurrentTokens ∧ s.requests =
      [⟨.putIpJump, some "first", 1⟩, ⟨.uploadIp, some "first", 1⟩,
        ⟨.getIpJump, some "first", 1⟩] := by
  have hrequests : (system.exec initial oneLogin).map State.requests = some
      [⟨.putIpJump, some "first", 1⟩, ⟨.uploadIp, some "first", 1⟩,
        ⟨.getIpJump, some "first", 1⟩] := by decide
  obtain ⟨s, hexec, hrequests⟩ := Option.map_eq_some_iff.mp hrequests
  have hmeets : system.Meets KeepsToken initial oneLogin := by decide
  exact ⟨s, requests_use_current_token ((System.Reaches.init rfl).exec hmeets hexec), hrequests⟩

/-- After a second login with a new token, the daemon's next request still carries
the first one. -/
theorem second_login_unnoticed : ∃ s : State, system.Reachable s ∧ ¬s.UsesCurrentTokens := by
  have hrun : (system.exec initial (oneLogin ++ [Action.fetched (.ok none),
      Action.login (some "second"), Action.start 0, Action.tick true])).map
        (fun s => decide s.UsesCurrentTokens) = some false := by decide
  obtain ⟨s, hexec, hstale⟩ := Option.map_eq_some_iff.mp hrun
  exact ⟨s, System.Reachable.exec (.init rfl) hexec, of_decide_eq_false hstale⟩

end LinuxAgent.IpJump.Tokens
