import LinuxAgent.Lib.Runs
import LinuxAgent.Lib.Mpsc

/-!
# The login services

`start_services` logs in, hands the token to `task_fetcher` and waits until that
one reports the host offline; `task_fetcher` waits for a token and fetches tasks
with it until a request is refused. The two run as tasks of their own and are
joined by the token channel and the `host_is_offline` channel, both of capacity 8.
-/

namespace LinuxAgent.Login

open Runs

/-- The answer to `/v1/auth`, as far as `BaseOnline::run` tells answers apart. -/
inductive AuthReply
  /-- The request failed. -/
  | failed (err : String)
  /-- The body is no `AuthResponse`. -/
  | unparsed (body : String)
  /-- The body is an `AuthResponse`. -/
  | parsed (code token msg : String)
  deriving DecidableEq

/-- `BaseOnline::run`: the token of the answer, whatever its code. -/
def BaseOnline.run : AuthReply → Except String String
  | .failed _ => .error "Failed to get token."
  | .unparsed _ => .error "Failed to parse token from response"
  | .parsed _ token _ => .ok token

/-- The answer to `/v1/gettask`. The code is absent when the body has no string
under that key. -/
inductive TaskReply
  /-- The request failed. -/
  | failed (err : String)
  /-- The body is no JSON text. -/
  | unparsed (body : String)
  /-- A body with this code and this task list. -/
  | parsed (code : Option String) (tasklist : List ℕ)
  deriving DecidableEq

/-- One turn of the loop of `TaskFetcher::run`: the result with which it returns,
or `none` when it goes on. Failures of the tasks themselves are only logged. -/
def TaskFetcher.turn : TaskReply → Option (Except String Unit)
  | .failed _ => none
  | .unparsed _ => none
  | .parsed code _ =>
    if code = some "000000" then none
    else if code = some "401" then some (.error "token 无效")
    else some (.error "无效响应码")

/-- The start of `TaskFetcher::run`: without a base address it returns at once. -/
def TaskFetcher.enter : Option String → Option (Except String Unit)
  | none => some (.error "task_provider_base_url not set")
  | some _ => none

/-- The timer variables of the listening loop of `start_services`. -/
structure Hardware where
  /-- `hardware_interval`, in seconds. -/
  interval : Option UInt32
  /-- `hardware_enabled`. -/
  enabled : Bool
  deriving DecidableEq

/-- The head of the listening loop for the current switch and period; the flag
tells whether it uploads the metrics at once. -/
def Hardware.survey (hw : Hardware) (switch : Bool) (timeSecs : UInt32) : Hardware × Bool :=
  if switch && 0 < timeSecs then
    if !hw.enabled || hw.interval.isNone then (⟨some timeSecs, true⟩, true) else (hw, false)
  else if hw.enabled then (⟨none, false⟩, false)
  else (hw, false)

/-- Where `start_services` stands. -/
inductive Online
  /-- In `BaseOnline::run`, or about to call it. -/
  | authenticating
  /-- At `token_tx.send`. -/
  | sending (token : String)
  /-- At `set_token`. -/
  | storing (token : String)
  /-- At the head of the listening loop. -/
  | surveying (token : String) (hw : Hardware)
  /-- In the `select!` of the listening loop. -/
  | listening (token : String) (hw : Hardware)
  deriving DecidableEq

/-- Where `task_fetcher` stands. -/
inductive Fetcher
  /-- At `token_rx.recv`. -/
  | waiting
  /-- In `TaskFetcher::run` with this token. -/
  | running (token : String)
  /-- At `host_is_offline_tx.send`. -/
  | signalling
  deriving DecidableEq

/-- What `task_fetcher` does with the result of `TaskFetcher::run`. -/
def Fetcher.finish : Except String Unit → Fetcher
  | .ok _ => .waiting
  | .error _ => .signalling

/-- Both services, their channels, and what has been handed out so far. -/
structure State where
  /-- The position of `start_services`. -/
  online : Online
  /-- The position of `task_fetcher`. -/
  fetcher : Fetcher
  /-- The token channel. -/
  tokens : Mpsc.Channel String 8
  /-- The `host_is_offline` channel. -/
  offline : Mpsc.Channel Bool 8
  /-- The token stored in the `BootManager`. -/
  bootToken : Option String
  /-- The tokens of all successful logins, latest first. -/
  issued : List String
  /-- The tokens of all uploads of hardware metrics, latest first. -/
  uploads : List String
  deriving DecidableEq

/-- The next step of one of the services, with what it got from outside. -/
inductive Action
  /-- `BaseOnline::run` ends with this answer. -/
  | authenticate (reply : AuthReply)
  /-- The token enters its channel. -/
  | sendToken
  /-- `set_token` ends. -/
  | setToken
  /-- The listening loop reads the hardware switch and period. -/
  | survey (switch : Bool) (timeSecs : UInt32)
  /-- `check_interval` wins the `select!`. -/
  | checkTick
  /-- The hardware timer wins the `select!`; the metrics may be unavailable. -/
  | hardwareTick (metrics : Bool)
  /-- `host_is_offline_rx.recv` wins the `select!`. -/
  | receiveOffline
  /-- `token_rx.recv` ends; `TaskFetcher::run` starts with this base address. -/
  | receiveToken (baseUrl : Option String)
  /-- A request for tasks is answered. -/
  | fetch (reply : TaskReply)
  /-- The offline signal enters its channel. -/
  | sendOffline
  deriving DecidableEq

/-- The start of the two tasks. -/
def initial : State :=
  { online := .authenticating, fetcher := .waiting, tokens := Mpsc.channel
    offline := Mpsc.channel, bootToken := none, issued := [], uploads := [] }

/-- The steps of `start_services`. -/
def stepOnline (s : State) : Online → Action → Option State
  | .authenticating, .authenticate reply =>
    match BaseOnline.run reply with
    | .ok token => some { s with online := .sending token, issued := token :: s.issued }
    | .error _ => some { s with online := .authenticating }
  | .sending token, .sendToken => (s.tokens.send token).map fun tokens =>
      { s with online := .storing token, tokens := tokens }
  | .storing token, .setToken =>
    some { s with online := .surveying token ⟨none, false⟩, bootToken := some token }
  | .surveying token hw, .survey switch timeSecs =>
    let (hw', upload) := hw.survey switch timeSecs
    some { s with
      online := .listening token hw'
      uploads := if upload then token :: s.uploads else s.uploads }
  | .listening token hw, .checkTick => some { s with online := .surveying token hw }
  | .listening token hw, .hardwareTick metrics =>
    if hw.interval.isSome then
      some { s with
        online := .surveying token hw
        uploads := if metrics then token :: s.uploads else s.uploads }
    else none
  | .listening token hw, .receiveOffline => s.offline.recv.map fun (signal, offline) =>
      { s with
        online := if signal then .authenticating else .surveying token hw
        offline := offline }
  | _, _ => none

/-- The steps of `task_fetcher`. -/
def stepFetcher (s : State) : Fetcher → Action → Option State
  | .waiting, .receiveToken baseUrl => s.tokens.recv.map fun (token, tokens) =>
      { s with
        fetcher := ((TaskFetcher.enter baseUrl).map Fetcher.finish).getD (.running token)
        tokens := tokens }
  | .running token, .fetch reply =>
    some { s with fetcher := ((TaskFetcher.turn reply).map Fetcher.finish).getD (.running token) }
  | .signalling, .sendOffline => (s.offline.send true).map fun offline =>
      { s with fetcher := .waiting, offline := offline }
  | _, _ => none

/-- Either service takes a step. -/
def step (s : State) (a : Action) : Option State :=
  (stepOnline s s.online a).or (stepFetcher s s.fetcher a)

/-- The two services from their start on. -/
def system : System State Action := ⟨fun s => s = initial, step⟩

end LinuxAgent.Login
