import LinuxAgent.Config.NetInfo
import LinuxAgent.Lib.Runs

/-!
# The interval of the fetch loop

`TaskFetcher::run` makes an interval of `cron_time` when it starts and a new one whenever the
configuration has another time. The loop leaves a time of zero alone; the start does not, and
the interval of zero seconds panics. The time comes from the management server, is kept in the
configuration and in `net_info.ini`, and is used at the next login. There is a time as long as
no update sets it to zero and no attempt to write leaves a file without one.
-/

namespace LinuxAgent.Config.CronTime

/-- How writing the file ends. -/
inductive Write
  /-- All of the text is written. -/
  | complete
  /-- The file cannot be created and stays as it is. -/
  | notCreated
  /-- Only the first characters are written. -/
  | cut (n : ℕ)
  deriving DecidableEq

/-- The content of the file after an attempt to write it. The error is ignored. -/
def Write.content (w : Write) (text : String) (old : Option String) : Option String :=
  match w with
  | .complete => some text
  | .notCreated => old
  | .cut n => some (String.ofList (text.toList.take n))

/-- A process of the agent. -/
structure Process where
  /-- `NETINFO_CONFIG`. -/
  cfg : NetInfoConfig
  /-- `current_cron_time` while `TaskFetcher::run` is in its loop. -/
  current : Option UInt32 := none
  /-- The task that calls `TaskFetcher::run` has panicked. -/
  panicked : Bool := false

/-- The agent on its host. -/
structure Host where
  /-- `net_info.ini`. -/
  file : Option String
  process : Option Process := none
  /-- The arguments of all calls of `interval` in `TaskFetcher::run`. -/
  intervals : List UInt32 := []

/-- What can happen. -/
inductive Action
  /-- The agent is started and loads the file; without it, it exits. -/
  | boot
  /-- The agent is stopped. -/
  | stop
  /-- Fields that no update sets are filled in, as `acquire_host_info` does. -/
  | setHost (host : NetInfoConfig)
  /-- The configuration is written. -/
  | save (w : Write)
  /-- A token has come, and `TaskFetcher::run` is called. -/
  | login
  /-- The loop reads the time. -/
  | iterate
  /-- The loop handles an update of the configuration. -/
  | update (conf : Task.Conf) (w : Write)
  /-- The token is not valid any more, and `TaskFetcher::run` returns. -/
  | tokenLoss

/-- The fields that no update sets. -/
def setHost (cfg host : NetInfoConfig) : NetInfoConfig :=
  { host with toNetInfoConfig := { cfg.toNetInfoConfig with modVer := host.modVer } }

section

variable (load : String → Option Ini.Table) (ipRouteGet : String → Except String String)

/-- A process that has loaded its configuration. -/
def Host.boot (s : Host) : Option Host := do
  let ini ← s.file.bind load
  pure { s with process := some { cfg := fromIni ipRouteGet ini } }

/-- The start of `TaskFetcher::run`: the interval is made of whatever time there is. -/
def Host.login (s : Host) (p : Process) : Host :=
  let intervals := s.intervals ++ [p.cfg.cronTime]
  if p.cfg.cronTime = 0 then { s with intervals, process := some { p with panicked := true } }
  else { s with intervals, process := some { p with current := some p.cfg.cronTime } }

/-- The top of the loop of `TaskFetcher::run`. -/
def Host.iterate (s : Host) (p : Process) (currentCronTime : UInt32) : Host :=
  if p.cfg.cronTime ≠ currentCronTime ∧ p.cfg.cronTime > 0 then
    { s with
      intervals := s.intervals ++ [p.cfg.cronTime]
      process := some { p with current := some p.cfg.cronTime } }
  else s

/-- One step. -/
def step (s : Host) (a : Action) : Option Host :=
  match a, s.process with
  | .boot, none => s.boot load ipRouteGet
  | .stop, some _ => some { s with process := none }
  | .setHost host, some p => some { s with process := some { p with cfg := setHost p.cfg host } }
  | .save w, some p => some { s with file := w.content p.cfg.toIni s.file }
  | .login, some p => if p.current = none ∧ p.panicked = false then some (s.login p) else none
  | .iterate, some p => p.current.map (s.iterate p)
  | .update conf w, some p =>
    if p.current.isSome then
      let cfg := p.cfg.update conf
      some { s with file := w.content cfg.toIni s.file, process := some { p with cfg } }
    else none
  | .tokenLoss, some p =>
    if p.current.isSome then some { s with process := some { p with current := none } } else none
  | _, _ => none

/-- The agent with any file, before its first start. -/
def system : Runs.System Host Action where
  init s := s.process = none ∧ s.intervals = []
  step := step load ipRouteGet

end

/-- No interval is zero. -/
def Positive (s : Host) : Prop := ∀ x ∈ s.intervals, x > 0

/-- If the file can be loaded, it has a time. -/
def TimedFile (load : String → Option Ini.Table) (file : Option String) : Prop :=
  ∀ text ∈ file, ∀ ini, load text = some ini → readU32 ini "CRONTIME" ≠ 0

/-- What is left of the file has a time: all of it was written, with texts that mean nothing else
in a file, or nothing was, or the file that is left has a time. -/
def Write.Keeps (load : String → Option Ini.Table) (cfg : NetInfoConfig) : Write → Prop
  | .complete => cfg.Clean ∨ TimedFile load (some cfg.toIni)
  | .notCreated => True
  | .cut n => TimedFile load (some (String.ofList (cfg.toIni.toList.take n)))

/-- No update sets the time to zero, and no attempt to write leaves a file without a time. -/
def KeepsTime (load : String → Option Ini.Table) (s : Host) : Action → Prop
  | .save w => ∀ p ∈ s.process, w.Keeps load p.cfg
  | .update conf w =>
    Task.getU32 conf "crontime" ≠ .ok 0 ∧ ∀ p ∈ s.process, w.Keeps load (p.cfg.update conf)
  | _ => True

/-- There is a time in the file and in the memory, and no interval was zero. -/
structure Timed (load : String → Option Ini.Table) (s : Host) : Prop where
  file : TimedFile load s.file
  process : ∀ p ∈ s.process, p.cfg.cronTime ≠ 0
  positive : Positive s

section

variable {load : String → Option Ini.Table} {ipRouteGet : String → Except String String}
  {s s' : Host}

/-- The time of a clean configuration is found again in its file. -/
theorem timedFile_toIni (hload : Ini.ReadsDocuments load) {cfg : NetInfoConfig}
    (hclean : cfg.Clean) (htime : cfg.cronTime ≠ 0) : TimedFile load (some cfg.toIni) := by
  rintro text htext ini hini
  obtain rfl := Option.some.inj htext
  obtain ⟨ini', hini', hwritten⟩ := exists_load_toIni hload hclean noRoute
  obtain rfl : ini' = ini := Option.some.inj (hini'.symm.trans hini)
  have hsame : readU32 ini' "CRONTIME" = cfg.cronTime :=
    congrArg (fun c : NetInfoConfig => c.cronTime) hwritten
  rwa [hsame]

/-- An attempt to write a configuration with a time leaves a file with a time. -/
theorem Write.Keeps.timedFile (hload : Ini.ReadsDocuments load) {w : Write} {cfg : NetInfoConfig}
    (h : w.Keeps load cfg) (htime : cfg.cronTime ≠ 0) {old : Option String}
    (hold : TimedFile load old) : TimedFile load (w.content cfg.toIni old) := by
  cases w with
  | complete => exact h.elim (fun hclean => timedFile_toIni hload hclean htime) id
  | notCreated => exact hold
  | cut n => exact h

/-- An update that does not set the time to zero leaves a time. -/
theorem cronTime_update_ne_zero {cfg : NetInfoConfig} {conf : Task.Conf}
    (h : Task.getU32 conf "crontime" ≠ .ok 0) (htime : cfg.cronTime ≠ 0) :
    (cfg.update conf).cronTime ≠ 0 := by
  change Task.tryUpdate (Task.getU32 conf "crontime") cfg.cronTime ≠ 0
  cases hget : Task.getU32 conf "crontime" with
  | error e => exact htime
  | ok n =>
    rintro rfl
    exact h hget

/-- A call of `interval` with the time of the configuration is no call with zero. -/
theorem Positive.append {x : UInt32} (hs : Positive s) (hx : x ≠ 0)
    (h : s'.intervals = s.intervals ++ [x]) : Positive s' := by
  rw [Positive, h, List.forall_mem_append, List.forall_mem_singleton]
  exact ⟨hs, UInt32.pos_iff_ne_zero.mpr hx⟩

/-- There is still a time after a step that keeps it. -/
theorem Timed.step (hload : Ini.ReadsDocuments load) {a : Action} (hs : Timed load s)
    (hkeeps : KeepsTime load s a) (h : step load ipRouteGet s a = some s') : Timed load s' := by
  obtain ⟨hfile, hprocess, hpositive⟩ := hs
  cases hp : s.process with
  | none =>
    cases a with
    | boot =>
      simp only [CronTime.step, hp, Host.boot] at h
      obtain ⟨ini, hini, hpure⟩ := Option.bind_eq_some_iff.mp h
      obtain ⟨text, htext, hini⟩ := Option.bind_eq_some_iff.mp hini
      obtain rfl := Option.some.inj hpure
      refine ⟨hfile, fun p hp => ?_, hpositive⟩
      obtain rfl := Option.some.inj hp
      exact hfile text htext ini hini
    | _ =>
      simp only [CronTime.step, hp] at h
      cases h
  | some p =>
    have htime := hprocess p hp
    have hmem {p' : Process} (hp' : p'.cfg.cronTime ≠ 0) :
        ∀ q ∈ some p', q.cfg.cronTime ≠ 0 := fun q hq => Option.some.inj hq ▸ hp'
    cases a with
    | boot =>
      simp only [CronTime.step, hp] at h
      cases h
    | stop =>
      simp only [CronTime.step, hp] at h
      obtain rfl := Option.some.inj h
      exact ⟨hfile, fun q hq => absurd hq (Option.not_mem_none q), hpositive⟩
    | setHost host =>
      simp only [CronTime.step, hp] at h
      obtain rfl := Option.some.inj h
      exact ⟨hfile, hmem htime, hpositive⟩
    | save w =>
      simp only [CronTime.step, hp] at h
      obtain rfl := Option.some.inj h
      exact ⟨(hkeeps p hp).timedFile hload htime hfile, hmem htime, hpositive⟩
    | login =>
      simp only [CronTime.step, hp] at h
      split at h
      · obtain rfl := Option.some.inj h
        rw [Host.login, if_neg htime]
        exact ⟨hfile, hmem htime, hpositive.append htime rfl⟩
      · cases h
    | iterate =>
      simp only [CronTime.step, hp] at h
      obtain ⟨current, -, rfl⟩ := Option.map_eq_some_iff.mp h
      rw [Host.iterate]
      split
      · exact ⟨hfile, hmem htime, hpositive.append htime rfl⟩
      · exact ⟨hfile, hprocess, hpositive⟩
    | update conf w =>
      simp only [CronTime.step, hp] at h
      split at h
      · obtain rfl := Option.some.inj h
        have hnew := cronTime_update_ne_zero hkeeps.1 htime
        exact ⟨(hkeeps.2 p hp).timedFile hload hnew hfile, hmem hnew, hpositive⟩
      · cases h
    | tokenLoss =>
      simp only [CronTime.step, hp] at h
      split at h
      · obtain rfl := Option.some.inj h
        exact ⟨hfile, hmem htime, hpositive⟩
      · cases h

/-- **The intervals of the fetch loop are positive** all through a run of the agent with any
updates of the server, token losses, logins and restarts, if the file at the beginning has a
time, no update sets the time to zero, and no attempt to write leaves a file without a time. -/
theorem positive_of_keepsTime (hload : Ini.ReadsDocuments load) {as : List Action}
    (hinit : (system load ipRouteGet).init s) (hfile : TimedFile load s.file)
    (hexec : (system load ipRouteGet).exec s as = some s')
    (hmeets : (system load ipRouteGet).Meets (KeepsTime load) s as) : Positive s' := by
  have htimed : Timed load s := by
    refine ⟨hfile, ?_, ?_⟩
    · rw [hinit.1]
      exact fun q hq => absurd hq (Option.not_mem_none q)
    · rw [Positive, hinit.2]
      exact nofun
  exact (hmeets.invariant hexec (fun _ _ _ ht hkeeps hstep => ht.step hload hkeeps hstep)
    htimed).positive

end

/-- A configuration with a time. -/
def minuteConfig : NetInfoConfig :=
  { plainConfig "10.0.0.1" (some "10.0.0.1:514") with cronTime := 60 }

/-- Its texts are plain. -/
theorem clean_minuteConfig : minuteConfig.Clean :=
  clean_plainConfig (Ini.isPlain_ofList rfl) (Ini.isPlain_ofList rfl)

/-- The agent with the file of this configuration. -/
def minuteHost : Host := { file := some minuteConfig.toIni }

/-- The agent starts with a clean configuration. -/
theorem exists_step_boot {cfg : NetInfoConfig} (hclean : cfg.Clean) {s : Host}
    (hfile : s.file = some cfg.toIni) (hprocess : s.process = none) :
    ∃ p : Process, step Ini.load noRoute s .boot = some { s with process := some p } ∧
      p.cfg.cronTime = cfg.cronTime ∧ p.cfg.logIpPort = some (cfg.logIpPort.getD "") ∧
      p.cfg.Clean ∧ p.current = none ∧ p.panicked = false := by
  obtain ⟨ini, hini, hwritten⟩ := exists_load_toIni Ini.readsDocuments_load hclean noRoute
  have htime := congrArg (fun c : NetInfoConfig => c.cronTime) hwritten
  have hlog := congrArg (fun c : NetInfoConfig => c.logIpPort) hwritten
  have htexts := congrArg NetInfoConfig.texts hwritten
  refine ⟨{ cfg := fromIni noRoute ini }, ?_, htime, hlog, fun text htext => ?_, rfl, rfl⟩
  · simp only [step, hprocess, Host.boot, hfile, Option.bind_some, hini]
    rfl
  · refine hclean text ?_
    change text ∈ (fromIni noRoute ini).written.texts at htext
    rwa [htexts] at htext

/-- The server sends a time of two minutes, the token is lost, and the agent is started again. -/
theorem positive_two_minutes : ∃ s', (system Ini.load noRoute).exec minuteHost
    [.boot, .login, .update [("crontime", .uint 120)] .complete, .iterate, .tokenLoss, .login,
      .stop, .boot, .login] = some s' ∧ s'.intervals = [60, 120, 120, 120] ∧ Positive s' := by
  obtain ⟨p, hboot, htime, -, hclean, hcurrent, hpanicked⟩ :=
    exists_step_boot clean_minuteConfig (s := minuteHost) rfl rfl
  have hupdate : (p.cfg.update [("crontime", .uint 120)]).Clean := hclean
  have hsixty : p.cfg.cronTime = 60 := htime
  let stopped : Host :=
    { file := some (p.cfg.update [("crontime", .uint 120)]).toIni
      process := none
      intervals := [60, 120, 120] }
  have hfirst : (system Ini.load noRoute).exec minuteHost
      [.boot, .login, .update [("crontime", .uint 120)] .complete, .iterate, .tokenLoss, .login,
        .stop] = some stopped := by
    simp only [Runs.System.exec, system, hboot, Option.bind_some]
    simp only [step, hsixty, hcurrent, hpanicked, minuteHost, and_self, if_true, Option.bind_some,
      Host.login]
    rfl
  obtain ⟨q, hboot', htime', -, -, hcurrent', hpanicked'⟩ :=
    exists_step_boot hupdate (s := stopped) rfl rfl
  have hagain : q.cfg.cronTime = 120 := htime'
  have hexec : ∃ s', (system Ini.load noRoute).exec minuteHost
      ([.boot, .login, .update [("crontime", .uint 120)] .complete, .iterate, .tokenLoss, .login,
        .stop] ++ [.boot, .login]) = some s' ∧ s'.intervals = [60, 120, 120, 120] := by
    rw [Runs.System.exec_append, hfirst, Option.bind_some]
    simp only [Runs.System.exec, system, hboot', Option.bind_some]
    simp only [step, hagain, hcurrent', hpanicked', and_self, if_true, Host.login]
    exact ⟨_, rfl, rfl⟩
  obtain ⟨s', hexec, hintervals⟩ := hexec
  refine ⟨s', hexec, hintervals, positive_of_keepsTime Ini.readsDocuments_load ⟨rfl, rfl⟩
    (timedFile_toIni Ini.readsDocuments_load clean_minuteConfig (by decide)) hexec ?_⟩
  refine ⟨trivial, fun s₁ h₁ => ⟨trivial, fun s₂ h₂ => ⟨⟨by decide, fun r hr => ?_⟩, ?_⟩⟩⟩
  · obtain rfl := Option.some.inj (hboot.symm.trans h₁)
    simp only [system, step, hcurrent, hpanicked, and_self, if_true, Host.login, hsixty] at h₂
    obtain rfl := Option.some.inj h₂
    obtain rfl := Option.some.inj hr
    exact .inl hupdate
  · exact fun s₃ _ => Runs.System.Meets.of_forall (by simp [KeepsTime]) s₃

/-- The server sends a time of zero, and the next login makes an interval of it. -/
theorem zero_interval : ¬∀ s as s', (system Ini.load noRoute).init s →
    (system Ini.load noRoute).exec s as = some s' → Positive s' := by
  intro hall
  obtain ⟨p, hboot, htime, -, -, hcurrent, hpanicked⟩ :=
    exists_step_boot clean_minuteConfig (s := minuteHost) rfl rfl
  have hexec : ∃ s', (system Ini.load noRoute).exec minuteHost
      [.boot, .login, .update [("crontime", .uint 0)] .complete, .tokenLoss, .login] = some s' ∧
        (0 : UInt32) ∈ s'.intervals := by
    simp only [Runs.System.exec, system, hboot, Option.bind_some]
    simp only [step, htime, hcurrent, hpanicked, minuteConfig, and_self, if_true, Option.bind_some,
      Host.login]
    exact ⟨_, rfl, List.mem_append_right _ List.mem_cons_self⟩
  obtain ⟨s', hexec, hzero⟩ := hexec
  exact absurd (hall _ _ s' ⟨rfl, rfl⟩ hexec 0 hzero) (by decide)

end LinuxAgent.Config.CronTime
