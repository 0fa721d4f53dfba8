import LinuxAgent.Lib.Runs
import LinuxAgent.Lib.Text
import Mathlib.Data.List.Infix

/-!
# The client of the remote console

`start_client` looks at the settings every few seconds and starts a session when they
have changed. It never ends one, so there is one session with the latest settings just
while every change comes before the first session. The lock on the PID file is gone as
soon as it was taken: it keeps two processes from passing the check at the same time, but
not one after the other.
-/

namespace LinuxAgent.AgentCli

/-- The settings of a session. -/
structure ClientConfigData where
  port : ℕ := 0
  devUid : String := ""
  serverIp : String := ""
  deriving DecidableEq

/-- Why the settings are not read. -/
inductive IniError where
  /-- `读取 INI 文件失败` -/
  | read
  /-- `CLI_SERVER_PORT 无效` and the value -/
  | invalidPort (value : String)
  /-- `SERVER_IP 不是有效 IPv4` and the value -/
  | invalidIp (value : String)
  /-- `DEV_UID 未配置` -/
  | noDevUid
  /-- `SERVER_IP 未配置或无效` -/
  | noServerIp
  deriving DecidableEq

/-- A number of 16 bits. -/
def parseU16 (cs : List Char) : Option ℕ := (Text.parseU64 cs).filter fun n => n < UInt16.size

/-- The value without the scheme of a URL. -/
def stripScheme (value : String) : String :=
  let scheme := "https://".toList
  if scheme.isPrefixOf value.toList then String.ofList (value.toList.drop scheme.length) else value

/-- What one entry of a section sets. -/
def setEntry (currentSection key value : String) (cfg : ClientConfigData) :
    Except IniError ClientConfigData :=
  if currentSection = "SERVERINFO" then
    if key = "CLI_SERVER_PORT" then
      match parseU16 value.toList with
      | some port => .ok { cfg with port := port }
      | none => .error (.invalidPort value)
    else if key = "SERVER_IP" then
      if (Text.parseIpv4 (stripScheme value)).isSome then
        .ok { cfg with serverIp := stripScheme value }
      else .error (.invalidIp value)
    else if key = "DEV_UID" then .ok { cfg with devUid := value }
    else .ok cfg
  else if currentSection = "HOSTINFO" ∧ key = "DEV_UID" then .ok { cfg with devUid := value }
  else .ok cfg

/-- The name of a section, if the line begins one. -/
def sectionName (line : String) : Option String :=
  if line.toList.head? = some '[' ∧ line.toList.getLast? = some ']' then
    some (Text.trim (String.ofList line.toList.tail.dropLast))
  else none

/-- One line of the file. -/
def parseLine (state : ClientConfigData × String) (rawLine : String) :
    Except IniError (ClientConfigData × String) :=
  let line := Text.trim rawLine
  if line = "" then .ok state
  else
    match sectionName line with
    | some name => .ok (state.1, name)
    | none =>
      match Text.splitOnce '=' line.toList with
      | none => .ok state
      | some (key, value) =>
        (setEntry state.2 (Text.trim (String.ofList key)) (Text.trim (String.ofList value))
          state.1).map fun cfg => (cfg, state.2)

/-- `parse_ini_file` with the content of the file, if it can be read. -/
def parseIniFile (content : Option String) : Except IniError ClientConfigData :=
  match content with
  | none => .error .read
  | some text =>
    match (Text.lines text).foldlM parseLine ({}, "") with
    | .error e => .error e
    | .ok (cfg, _) =>
      if cfg.devUid = "" then .error .noDevUid
      else if cfg.serverIp = "" then .error .noServerIp
      else .ok cfg

/-- The variables of `start_client`, and the tasks that run `run_session`. These never end. -/
structure Client where
  lastCfg : Option ClientConfigData := none
  sessions : List ClientConfigData := []

/-- `need_restart` in `start_client`. -/
def needRestart (lastCfg : Option ClientConfigData) (cfg : ClientConfigData) : Bool :=
  match lastCfg with
  | none => true
  | some old => cfg.port ≠ old.port || cfg.devUid ≠ old.devUid || cfg.serverIp ≠ old.serverIp

/-- One iteration of the loop of `start_client`. -/
def Client.iterate (s : Client) (content : Option String) : Client :=
  match parseIniFile content with
  | .ok cfg =>
    { lastCfg := some cfg
      sessions := if needRestart s.lastCfg cfg && cfg.port ≠ 0 then s.sessions ++ [cfg]
        else s.sessions }
  | .error _ => s

/-- The loop of `start_client`, after it has seen these contents. -/
def startClient (contents : List (Option String)) : Client := contents.foldl Client.iterate {}

/-- There is at most one session, it has the settings parsed last, and there is none if
these have no port. -/
structure Client.OneSession (s : Client) : Prop where
  length : s.sessions.length ≤ 1
  latest : ∀ cfg ∈ s.sessions, s.lastCfg = some cfg
  off : ∀ cfg, s.lastCfg = some cfg → cfg.port = 0 → s.sessions = []

/-- The settings that were parsed. -/
def parsed (contents : List (Option String)) : List ClientConfigData :=
  contents.filterMap fun content => (parseIniFile content).toOption

/-- The settings do not change after the first ones with a port. -/
def Settled (cfgs : List ClientConfigData) : Prop :=
  cfgs.Pairwise fun old new => old.port ≠ 0 → new = old

/-- A restart is needed just if the settings have changed. -/
theorem needRestart_some {old cfg : ClientConfigData} :
    needRestart (some old) cfg = true ↔ cfg ≠ old := by
  rcases old with ⟨port, devUid, serverIp⟩
  rcases cfg with ⟨port', devUid', serverIp'⟩
  simp only [needRestart, ne_eq, decide_not, Bool.or_eq_true, Bool.not_eq_true',
    decide_eq_false_iff_not, ClientConfigData.mk.injEq]
  tauto

/-- One more content. -/
theorem startClient_append (contents : List (Option String)) (content : Option String) :
    startClient (contents ++ [content]) = (startClient contents).iterate content :=
  List.foldl_append

/-- Before the first settings with a port there is no session; after them there is one with
these settings. -/
def Client.Follows (s : Client) (cfgs : List ClientConfigData) : Prop :=
  (s.sessions = [] ∧ ∀ cfg ∈ cfgs, cfg.port = 0) ∧ s.lastCfg = cfgs.getLast? ∨
    ∃ cfg ∈ cfgs, cfg.port ≠ 0 ∧ s.sessions = [cfg] ∧ s.lastCfg = some cfg ∧
      ∀ other ∈ cfgs, other.port ≠ 0 → other = cfg

/-- A client that follows its settings has one session. -/
theorem Client.Follows.oneSession {s : Client} {cfgs : List ClientConfigData}
    (h : s.Follows cfgs) : s.OneSession := by
  rcases h with ⟨⟨hnone, -⟩, -⟩ | ⟨cfg, -, hport, hone, hlast, -⟩
  · refine ⟨by simp [hnone], by simp [hnone], fun _ _ _ => hnone⟩
  · refine ⟨by simp [hone], by simp [hone, hlast], fun other hother hzero => ?_⟩
    obtain rfl : cfg = other := Option.some.inj (hlast.symm.trans hother)
    exact absurd hzero hport

/-- Settings that are parsed start a session, or leave the ones there are. -/
theorem Client.iterate_of_ok {s : Client} {content : Option String} {cfg : ClientConfigData}
    (hcfg : parseIniFile content = .ok cfg) :
    (s.iterate content).lastCfg = some cfg ∧
      (s.iterate content).sessions =
        if needRestart s.lastCfg cfg && cfg.port ≠ 0 then s.sessions ++ [cfg]
        else s.sessions := by
  simp only [Client.iterate, hcfg, and_self]

/-- While there is no session, new settings may start the first one. -/
theorem Client.Follows.first {s : Client} {cfgs : List ClientConfigData} {content : Option String}
    {cfg : ClientConfigData} (hnone : s.sessions = []) (hports : ∀ old ∈ cfgs, old.port = 0)
    (hlast : s.lastCfg = cfgs.getLast?) (hcfg : parseIniFile content = .ok cfg) :
    (s.iterate content).Follows (cfgs ++ [cfg]) := by
  obtain ⟨hlast', hsessions⟩ := Client.iterate_of_ok (s := s) hcfg
  by_cases hport : cfg.port = 0
  · refine .inl ⟨⟨by simp [hsessions, hport, hnone], ?_⟩, by simp [hlast']⟩
    intro other hother
    rcases List.mem_append.mp hother with h | h
    · exact hports other h
    · rwa [List.mem_singleton.mp h]
  · have hrestart : needRestart s.lastCfg cfg = true := by
      rw [hlast]
      cases hold : cfgs.getLast? with
      | none => rfl
      | some old =>
        refine needRestart_some.mpr ?_
        rintro rfl
        exact hport (hports _ (List.mem_of_getLast? hold))
    refine .inr ⟨cfg, by simp, hport, by simp [hsessions, hport, hnone, hrestart], hlast', ?_⟩
    intro other hother hother'
    rcases List.mem_append.mp hother with h | h
    · exact absurd (hports other h) hother'
    · exact List.mem_singleton.mp h

/-- New settings keep one session just if they are those of the session there is. -/
theorem Client.Follows.iterate {s : Client} {cfgs : List ClientConfigData}
    {content : Option String} {cfg : ClientConfigData} (h : s.Follows cfgs)
    (hcfg : parseIniFile content = .ok cfg) :
    ((s.iterate content).OneSession → ∀ old ∈ cfgs, old.port ≠ 0 → cfg = old) ∧
      ((∀ old ∈ cfgs, old.port ≠ 0 → cfg = old) →
        (s.iterate content).Follows (cfgs ++ [cfg])) := by
  rcases h with ⟨⟨hnone, hports⟩, hlast⟩ | ⟨old, hold, hport, hone, hlast, hunique⟩
  · exact ⟨fun _ old hold hport => absurd (hports old hold) hport,
      fun _ => Client.Follows.first hnone hports hlast hcfg⟩
  · obtain ⟨hlast', hsessions⟩ := Client.iterate_of_ok (s := s) hcfg
    constructor
    · intro hgood other hother hother'
      rw [hunique other hother hother']
      by_contra hne
      have hrestart : needRestart s.lastCfg cfg = true := by
        rw [hlast]
        exact needRestart_some.mpr hne
      by_cases hzero : cfg.port = 0
      · -- The session stays although the settings have no port.
        have hnil := hgood.off cfg hlast' hzero
        simp [hsessions, hzero, hone] at hnil
      · have hlength := hgood.length
        simp [hsessions, hzero, hone, hrestart] at hlength
    · intro hsame
      obtain rfl : cfg = old := hsame old hold hport
      have hrestart : needRestart s.lastCfg cfg = false := by
        rw [hlast, ← Bool.not_eq_true, needRestart_some]
        exact fun h => h rfl
      refine .inr ⟨cfg, by simp, hport, by simp [hsessions, hone, hrestart], hlast', ?_⟩
      intro other hother hother'
      rcases List.mem_append.mp hother with h | h
      · exact hunique other h hother'
      · exact List.mem_singleton.mp h

/-- A further content adds its settings, if it has some. -/
theorem parsed_append (contents : List (Option String)) (content : Option String) :
    parsed (contents ++ [content]) = parsed contents ++ (parseIniFile content).toOption.toList := by
  rw [parsed, List.filterMap_append]
  cases h : (parseIniFile content).toOption <;> simp [parsed, h]

/-- Further settings keep the rest settled if they are those before. -/
theorem settled_append {cfgs : List ClientConfigData} {cfg : ClientConfigData} :
    Settled (cfgs ++ [cfg]) ↔ Settled cfgs ∧ ∀ old ∈ cfgs, old.port ≠ 0 → cfg = old := by
  simp [Settled, List.pairwise_append]

/-- Settled settings have one session. -/
theorem follows_of_settled {contents : List (Option String)} (h : Settled (parsed contents)) :
    (startClient contents).Follows (parsed contents) := by
  induction contents using List.reverseRecOn with
  | nil => exact .inl ⟨⟨rfl, nofun⟩, rfl⟩
  | append_singleton contents content ih =>
    rw [startClient_append]
    rw [parsed_append] at h ⊢
    cases hcfg : parseIniFile content with
    | error e =>
      rw [hcfg] at h
      simp only [Except.toOption, Option.toList_none, List.append_nil] at h ⊢
      simpa only [Client.iterate, hcfg] using ih h
    | ok cfg =>
      rw [hcfg] at h
      obtain ⟨hsettled, hsame⟩ := settled_append.mp h
      exact ((ih hsettled).iterate hcfg).2 hsame

/-- If there is one session after every iteration, the settings are settled. -/
theorem settled_of_oneSession {contents : List (Option String)}
    (h : ∀ seen, seen <+: contents → (startClient seen).OneSession) :
    Settled (parsed contents) := by
  induction contents using List.reverseRecOn with
  | nil => exact List.Pairwise.nil
  | append_singleton contents content ih =>
    have hsettled := ih fun seen hseen => h seen (hseen.trans (List.prefix_append _ _))
    have hnow := h (contents ++ [content]) (List.prefix_refl _)
    rw [startClient_append] at hnow
    rw [parsed_append]
    cases hcfg : parseIniFile content with
    | error e => simpa only [Except.toOption, Option.toList_none, List.append_nil] using hsettled
    | ok cfg =>
      have hfollows := follows_of_settled hsettled
      exact settled_append.mpr ⟨hsettled, (hfollows.iterate hcfg).1 hnow⟩

/-- What is settled was settled before. -/
theorem settled_seen {seen contents : List (Option String)} (hseen : seen <+: contents)
    (h : Settled (parsed contents)) : Settled (parsed seen) :=
  List.Pairwise.sublist (hseen.sublist.filterMap _) h

/-- There is one session with the latest settings after every iteration just if the
settings do not change any more once some with a port were parsed. -/
theorem oneSession_iff_settled (contents : List (Option String)) :
    (∀ seen, seen <+: contents → (startClient seen).OneSession) ↔ Settled (parsed contents) :=
  ⟨settled_of_oneSession, fun h _ hseen =>
    (follows_of_settled (settled_seen hseen h)).oneSession⟩

/-- Settings with this port. -/
def iniText (port : String) : String :=
  "[SERVERINFO]\nCLI_SERVER_PORT=" ++ port ++ "\nSERVER_IP=1.1.1.1\nDEV_UID=A"

/-- Such settings are parsed if the port is. -/
theorem parseIniFile_iniText :
    parseIniFile (some (iniText "7000")) = .ok ⟨7000, "A", "1.1.1.1"⟩ ∧
      parseIniFile (some (iniText "0")) = .ok ⟨0, "A", "1.1.1.1"⟩ := by
  constructor <;> decide +kernel

/-- The console is switched off, and its session goes on. -/
theorem session_with_port_off :
    ¬ ∀ seen, seen <+: [some (iniText "7000"), some (iniText "0")] →
      (startClient seen).OneSession := by
  obtain ⟨hon, hoff⟩ := parseIniFile_iniText
  intro h
  have hfirst := Client.iterate_of_ok (s := {}) hon
  have hsecond := Client.iterate_of_ok (s := Client.iterate {} (some (iniText "7000"))) hoff
  have hboth : startClient [some (iniText "7000"), some (iniText "0")] =
      Client.iterate (Client.iterate {} (some (iniText "7000"))) (some (iniText "0")) := by
    simp only [startClient, List.foldl_cons, List.foldl_nil]
  have hgood := h _ (List.prefix_refl _)
  rw [hboth] at hgood
  have hnone := hgood.off _ hsecond.1 rfl
  rw [hsecond.2, if_neg (by simp), hfirst.2] at hnone
  cases hnone

/-- Where a process stands in `start_client`. -/
inductive Phase where
  /-- The PID file is to be opened. -/
  | opening
  /-- It is to be locked. -/
  | locking
  /-- It is locked, and the PID is to be written. -/
  | writing
  /-- `acquire_lock` has returned the file, which `is_err` drops. -/
  | dropping
  /-- The process is in the loop of `start_client`. -/
  | looping
  /-- `start_client` has returned an error. -/
  | failed
  /-- The process has ended. -/
  | dead
  deriving DecidableEq

/-- The process has the file, and with it the lock. -/
def Phase.holdsLock : Phase → Bool
  | .writing | .dropping => true
  | _ => false

/-- What the processes do. -/
inductive ProcessAction where
  /-- Another process calls `start_client`. -/
  | start
  /-- A process goes on; an operation on the file succeeds or fails. -/
  | advance (i : ℕ) (ok : Bool)
  /-- A process ends. -/
  | die (i : ℕ)

/-- One step of a process. Locking fails while another process has the lock, and every
error drops the file. -/
def Phase.next (free ok : Bool) : Phase → Option Phase
  | .opening => some (if ok then .locking else .failed)
  | .locking => some (if free && ok then .writing else .failed)
  | .writing => some (if ok then .dropping else .failed)
  | .dropping => some .looping
  | .looping | .failed | .dead => none

/-- One step of the processes. -/
def processStep (s : List Phase) : ProcessAction → Option (List Phase)
  | .start => some (s ++ [.opening])
  | .advance i ok =>
    match s[i]? with
    | none => none
    | some p => (p.next (s.all fun q => !q.holdsLock) ok).map fun q => s.set i q
  | .die i => if i < s.length then some (s.set i .dead) else none

/-- The processes of a machine. -/
def processes : Runs.System (List Phase) ProcessAction where
  init := fun s => s = []
  step := processStep

/-- A PID is written only when no process is in the loop. -/
def startsAlone (s : List Phase) : ProcessAction → Bool
  | .advance i ok => s[i]? ≠ some .writing || !ok || .looping ∉ s
  | .start | .die _ => true

/-- At most one process has the lock, and at most one is in the loop or about to enter it. -/
structure Alone (s : List Phase) : Prop where
  lock : s.count .writing + s.count .dropping ≤ 1
  running : s.count .looping + s.count .dropping ≤ 1

variable {s s' : List Phase} {i : ℕ} {p q : Phase}

/-- How a step of a process changes the number of processes in a phase. -/
theorem count_set_add (hi : s[i]? = some p) (x : Phase) :
    (s.set i q).count x + (if p = x then 1 else 0) = s.count x + (if q = x then 1 else 0) := by
  obtain ⟨hlt, hp⟩ := List.getElem?_eq_some_iff.mp hi
  have hset := List.count_set (b := x) (a := q) hlt
  rw [hp] at hset
  simp only [beq_iff_eq] at hset
  rw [hset]
  by_cases hpx : p = x
  · have hpos : 0 < s.count x := List.count_pos_iff.mpr (hpx ▸ List.mem_of_getElem? hi)
    simp only [hpx, if_true]
    omega
  · simp only [hpx, if_false]
    omega

/-- A phase in which no process is. -/
theorem count_eq_zero_of_free (hfree : (s.all fun q => !q.holdsLock) = true)
    (hp : p.holdsLock = true) : s.count p = 0 := by
  rw [List.count_eq_zero]
  intro hmem
  have hnot := List.all_eq_true.mp hfree p hmem
  rw [hp] at hnot
  cases hnot

/-- A process that goes on without entering the loop. -/
theorem Alone.set (hs : Alone s) (hi : s[i]? = some p)
    (hlock : q ≠ .writing) (hrunning : q ≠ .looping ∧ q ≠ .dropping) : Alone (s.set i q) := by
  have hwriting := count_set_add (q := q) hi .writing
  have hdropping := count_set_add (q := q) hi .dropping
  have hlooping := count_set_add (q := q) hi .looping
  rw [if_neg hlock] at hwriting
  rw [if_neg hrunning.2] at hdropping
  rw [if_neg hrunning.1] at hlooping
  exact ⟨by have := hs.lock; omega, by have := hs.running; omega⟩

/-- A process that goes on. -/
theorem Alone.advance {ok : Bool} (hs : Alone s) (hok : startsAlone s (.advance i ok) = true)
    (hi : s[i]? = some p) (hnext : p.next (s.all fun q => !q.holdsLock) ok = some q) :
    Alone (s.set i q) := by
  obtain ⟨hlock, hrunning⟩ := hs
  have hwriting := count_set_add (q := q) hi .writing
  have hdropping := count_set_add (q := q) hi .dropping
  have hlooping := count_set_add (q := q) hi .looping
  cases p with
  | opening =>
    obtain rfl := Option.some.inj hnext
    exact Alone.set ⟨hlock, hrunning⟩ hi (by split <;> nofun) (by split <;> exact ⟨nofun, nofun⟩)
  | locking =>
    obtain rfl := Option.some.inj hnext
    by_cases htaken : ((s.all fun q => !q.holdsLock) && ok) = true
    · have hfree := (Bool.and_eq_true_iff.mp htaken).1
      have hnoWriting : s.count .writing = 0 := count_eq_zero_of_free hfree rfl
      have hnoDropping : s.count .dropping = 0 := count_eq_zero_of_free hfree rfl
      simp only [htaken, reduceCtorEq, if_false, if_true] at hwriting hdropping hlooping ⊢
      exact ⟨by omega, by omega⟩
    · rw [if_neg htaken]
      exact Alone.set ⟨hlock, hrunning⟩ hi nofun ⟨nofun, nofun⟩
  | writing =>
    obtain rfl := Option.some.inj hnext
    cases ok with
    | false => exact Alone.set ⟨hlock, hrunning⟩ hi nofun ⟨nofun, nofun⟩
    | true =>
      have hone : 0 < s.count .writing := List.count_pos_iff.mpr (List.mem_of_getElem? hi)
      have hnoLooping : s.count .looping = 0 := by
        rw [List.count_eq_zero]
        simpa [startsAlone, hi] using hok
      simp only [reduceCtorEq, if_false, if_true] at hwriting hdropping hlooping ⊢
      exact ⟨by omega, by omega⟩
  | dropping =>
    obtain rfl := Option.some.inj hnext
    simp only [reduceCtorEq, if_false, if_true] at hwriting hdropping hlooping
    exact ⟨by omega, by omega⟩
  | looping => cases hnext
  | failed => cases hnext
  | dead => cases hnext

/-- A step of the processes. -/
theorem Alone.step {a : ProcessAction} (hs : Alone s) (hok : startsAlone s a = true)
    (hstep : processStep s a = some s') : Alone s' := by
  cases a with
  | start =>
    obtain rfl := Option.some.inj hstep
    obtain ⟨hlock, hrunning⟩ := hs
    exact ⟨by simpa using hlock, by simpa using hrunning⟩
  | advance i ok =>
    rw [processStep] at hstep
    split at hstep
    · cases hstep
    · next p hi =>
      obtain ⟨q, hnext, rfl⟩ := Option.map_eq_some_iff.mp hstep
      exact hs.advance hok hi hnext
  | die i =>
    rw [processStep] at hstep
    split at hstep
    · next hlt =>
      obtain rfl := Option.some.inj hstep
      exact hs.set (List.getElem?_eq_getElem hlt) nofun ⟨nofun, nofun⟩
    · cases hstep

/-- In every run in which a PID is written only when no process is in the loop, at most one
process is there. -/
theorem count_looping_le_one (hreach : processes.Reaches (fun s a => startsAlone s a = true) s) :
    s.count .looping ≤ 1 := by
  have hs : Alone s := by
    refine Runs.System.Reaches.invariant (I := Alone) hreach ?_ fun _ _ _ hs hok hstep =>
      hs.step hok hstep
    rintro _ rfl
    exact ⟨Nat.zero_le 1, Nat.zero_le 1⟩
  exact Nat.le_of_add_right_le hs.running

/-- A process starts and passes the check. -/
def passes (i : ℕ) : List ProcessAction := .start :: List.replicate 4 (.advance i true)

/-- One process after the other enters the loop. -/
theorem two_processes_looping : ∃ s, processes.Reachable s ∧ s.count .looping = 2 := by
  have hexec : processes.exec [] (passes 0 ++ passes 1) = some [.looping, .looping] := by decide
  exact ⟨_, Runs.System.Reachable.exec (.init rfl) hexec, by decide⟩

/-- While one process has the lock another one fails, and it starts again when the first one
has ended. -/
theorem count_looping_le_one_restart :
    ∃ s, processes.exec [] ([.start, .start, .advance 0 true, .advance 1 true, .advance 0 true,
      .advance 1 true, .advance 0 true, .advance 0 true, .die 0] ++ passes 2) = some s ∧
        s.count .looping ≤ 1 := by
  refine ⟨[.dead, .failed, .looping], ?exec,
    count_looping_le_one (Runs.System.Reaches.exec (.init rfl) ?meets ?exec)⟩
  case exec => decide
  case meets => decide

end LinuxAgent.AgentCli
