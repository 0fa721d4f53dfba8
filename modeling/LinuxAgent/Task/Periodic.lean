import LinuxAgent.Task.Config
import Mathlib.Data.List.Chain

/-!
# Periodic jobs

The baseline check, the outreach detection and the upload of the hardware state each have a
switch and a time in the configuration. The loops of `start_timer_task` and `start_services`
read them before every `select` and make an interval when the job becomes active. An active
job keeps its interval, also when its time has changed: it follows the configuration just
while no two readings in a row are active with different times.
-/

namespace LinuxAgent.Task.Periodic

/-- The switch and the time of a job, as `get_baseline_info`, `get_outreach_info` and
`get_hardware_info` return them. -/
abbrev Info := Bool × UInt32

/-- The job is to run. -/
def active (info : Info) : Bool := info.1 && info.2 > 0

/-- The variables of a job: its interval, by its period in seconds, and whether it is enabled. -/
structure Job where
  interval : Option UInt32 := none
  enabled : Bool := false
  deriving DecidableEq

/-- A job becomes active or stops. -/
def Job.reload (job : Job) (info : Info) : Job :=
  if active info then
    if !job.enabled || job.interval.isNone then ⟨some info.2, true⟩ else job
  else if job.enabled then ⟨none, false⟩ else job

/-- What an iteration of `start_timer_task` reads. -/
structure TimerInfo where
  baseline : Info
  outreach : Info
  sshLogin : Bool

/-- The variables of `start_timer_task`. -/
structure Timer where
  /-- The period of the interval in which the ports are collected. -/
  localPeriod : ℕ := 30
  baseline : Job := {}
  outreach : Job := {}

/-- One iteration of `start_timer_task`, up to its `select`. -/
def Timer.iterate (t : Timer) (info : TimerInfo) : Timer where
  baseline := t.baseline.reload info.baseline
  outreach := t.outreach.reload info.outreach
  localPeriod := if info.sshLogin ∧ t.localPeriod ≠ 60 then 60 else t.localPeriod

/-- `start_timer_task` after these iterations. -/
def startTimerTask (infos : List TimerInfo) : Timer := infos.foldl Timer.iterate {}

/-- What happens in `start_services`. -/
inductive Event
  /-- The inner loop reads the switch and the time of the hardware job, up to its `select`. -/
  | read (info : Info)
  /-- The host is offline, and the inner loop is left for a new login. -/
  | login
  deriving DecidableEq

/-- The variables of `start_services`. -/
structure Services where
  hardware : Job := {}
  /-- The calls of `upload_once`. -/
  uploads : ℕ := 0

/-- An event of `start_services`. The job is new after a login, and there is an upload whenever
it becomes active. -/
def Services.handle (s : Services) : Event → Services
  | .read info =>
    { hardware := s.hardware.reload info
      uploads := if active info && (!s.hardware.enabled || s.hardware.interval.isNone) then
        s.uploads + 1 else s.uploads }
  | .login => { s with hardware := {} }

/-- `start_services` after these events. -/
def startServices (events : List Event) : Services := events.foldl Services.handle {}

/-- The job has an interval with the time just if it is to run. -/
def Job.Follows (job : Job) (info : Info) : Prop :=
  job.interval = if active info then some info.2 else none

/-- At every `select` of `start_timer_task` both jobs follow what was read last. -/
def TimerFollows (infos : List TimerInfo) : Prop :=
  ∀ seen info, seen ++ [info] <+: infos →
    (startTimerTask (seen ++ [info])).baseline.Follows info.baseline ∧
      (startTimerTask (seen ++ [info])).outreach.Follows info.outreach

/-- At every `select` of the inner loop of `start_services` the hardware job follows what was
read last. -/
def ServicesFollow (events : List Event) : Prop :=
  ∀ seen info, seen ++ [.read info] <+: events →
    (startServices (seen ++ [.read info])).hardware.Follows info

/-- A job is not active with one time and then, in the next iteration, with another one. -/
def SameTime : Event → Event → Prop
  | .read old, .read new => active old = true → active new = true → old.2 = new.2
  | _, _ => True

/-- The time does not change from one iteration to the next while a job is active. -/
def Steady (events : List Event) : Prop := events.IsChain SameTime

/-- What an event does to a job. -/
def Job.handle (job : Job) : Event → Job
  | .read info => job.reload info
  | .login => {}

/-- A job after these events. -/
def Job.run (events : List Event) : Job := events.foldl Job.handle {}

/-- A job is enabled just if it has an interval. -/
def Job.Ok (job : Job) : Prop := job.enabled = job.interval.isSome

/-- Reading the settings again keeps the two together. -/
theorem Job.Ok.reload {job : Job} (h : job.Ok) (info : Info) : (job.reload info).Ok := by
  rw [Job.reload]
  split
  · split
    · rfl
    · exact h
  · split
    · rfl
    · exact h

/-- A job follows what is read just if it is not active with another time. -/
theorem Job.Ok.follows_reload_iff {job : Job} (h : job.Ok) (info : Info) :
    (job.reload info).Follows info ↔
      (active info = true → ∀ time ∈ job.interval, time = info.2) := by
  obtain ⟨interval, enabled⟩ := job
  obtain rfl : enabled = interval.isSome := h
  rw [Job.Follows, Job.reload]
  cases hactive : active info with
  | false => cases interval <;> simp
  | true =>
    cases interval with
    | none => simp
    | some time => simp

/-- The interval after a list of events at whose end the job follows what was read last. -/
theorem interval_of_follows {events : List Event} {event : Event}
    (hlast : events.getLast? = some event)
    (h : ∀ seen info, events = seen ++ [.read info] → (Job.run events).Follows info) (info : Info) :
    (active info = true → ∀ time ∈ (Job.run events).interval, time = info.2) ↔
      SameTime event (.read info) := by
  obtain ⟨seen, rfl⟩ := List.getLast?_eq_some_iff.mp hlast
  cases event with
  | login =>
    have hnone : (Job.run (seen ++ [.login])).interval = none := by
      rw [Job.run, List.foldl_append]
      rfl
    rw [hnone]
    exact iff_of_true (fun _ => nofun) trivial
  | read old =>
    have hfollows := h seen old rfl
    rw [Job.Follows] at hfollows
    rw [hfollows, SameTime]
    cases hold : active old with
    | false => simp
    | true => simp

/-- They are together in every run. -/
theorem ok_run (events : List Event) : (Job.run events).Ok := by
  induction events using List.reverseRecOn with
  | nil => rfl
  | append_singleton events event ih =>
    rw [Job.run, List.foldl_append]
    cases event with
    | login => rfl
    | read info => exact ih.reload info

/-- After events all along which a job followed what was read, it follows a new reading just if
the time has not changed since the last one. -/
theorem follows_append_iff {events : List Event}
    (h : ∀ seen info, seen ++ [.read info] <+: events →
      (Job.run (seen ++ [.read info])).Follows info) (info : Info) :
    (Job.run (events ++ [.read info])).Follows info ↔
      ∀ event ∈ events.getLast?, SameTime event (.read info) := by
  have hrun : Job.run (events ++ [.read info]) = (Job.run events).reload info := by
    rw [Job.run, List.foldl_append]
    rfl
  rw [hrun, (ok_run events).follows_reload_iff]
  cases hlast : events.getLast? with
  | none =>
    obtain rfl := List.getLast?_eq_none_iff.mp hlast
    exact iff_of_true (fun _ => nofun) nofun
  | some event =>
    have hevents : ∀ seen old, events = seen ++ [.read old] → (Job.run events).Follows old := by
      rintro seen old rfl
      exact h seen old (List.prefix_refl _)
    rw [interval_of_follows hlast hevents]
    simp

/-- A job follows what is read all along just if its time is steady. -/
theorem follows_run_iff_steady (events : List Event) :
    (∀ seen info, seen ++ [.read info] <+: events →
      (Job.run (seen ++ [.read info])).Follows info) ↔ Steady events := by
  induction events using List.reverseRecOn with
  | nil => exact iff_of_true (by simp) List.IsChain.nil
  | append_singleton events event ih =>
    have hsteady : Steady (events ++ [event]) ↔
        Steady events ∧ ∀ old ∈ events.getLast?, SameTime old event := by
      simp [Steady, List.isChain_append]
    constructor
    · intro h
      have hevents := fun seen info (hseen : seen ++ [.read info] <+: events) =>
        h seen info (hseen.trans (List.prefix_append _ _))
      refine hsteady.mpr ⟨ih.mp hevents, ?_⟩
      cases event with
      | login => exact fun old _ => by cases old <;> trivial
      | read info => exact (follows_append_iff hevents info).mp (h events info (List.prefix_refl _))
    · intro h seen info hseen
      obtain ⟨hevents, hlast⟩ := hsteady.mp h
      rcases List.prefix_concat_iff.mp hseen with heq | hseen
      · obtain ⟨rfl, hevent⟩ := List.append_inj' heq rfl
        obtain rfl := List.singleton_inj.mp hevent
        exact (follows_append_iff (ih.mpr hevents) info).mpr hlast
      · exact ih.mpr hevents seen info hseen

/-- The jobs of the timer after these iterations. -/
theorem startTimerTask_eq (infos : List TimerInfo) :
    (startTimerTask infos).baseline = Job.run (infos.map fun info => .read info.baseline) ∧
      (startTimerTask infos).outreach = Job.run (infos.map fun info => .read info.outreach) := by
  induction infos using List.reverseRecOn with
  | nil => exact ⟨rfl, rfl⟩
  | append_singleton infos info ih =>
    rw [startTimerTask, List.foldl_append, ← startTimerTask, List.map_append, List.map_append,
      Job.run, Job.run, List.foldl_append, List.foldl_append, ← Job.run, ← Job.run, ← ih.1, ← ih.2]
    exact ⟨rfl, rfl⟩

/-- The hardware job after these events. -/
theorem startServices_eq (events : List Event) :
    (startServices events).hardware = Job.run events := by
  induction events using List.reverseRecOn with
  | nil => rfl
  | append_singleton events event ih =>
    rw [startServices, List.foldl_append, ← startServices, Job.run, List.foldl_append, ← Job.run,
      ← ih]
    cases event <;> rfl

/-- A job of the timer follows what is read all along just if its time is steady. -/
theorem follows_map_iff_steady (job : TimerInfo → Info) (infos : List TimerInfo) :
    (∀ seen info, seen ++ [info] <+: infos →
      (Job.run ((seen ++ [info]).map fun info => .read (job info))).Follows (job info)) ↔
      Steady (infos.map fun info => .read (job info)) := by
  rw [← follows_run_iff_steady]
  constructor
  · intro h seen' new hprefix
    obtain ⟨part, hpart, heq⟩ := List.prefix_map_iff.mp hprefix
    obtain ⟨seen, last, rfl, rfl, hlast⟩ := List.append_eq_map_iff.mp heq
    obtain ⟨info, rfl, hinfo⟩ := List.map_eq_singleton_iff.mp hlast
    obtain rfl := Event.read.inj hinfo
    simpa using h seen info hpart
  · intro h seen info hprefix
    have hmap := hprefix.map fun info => Event.read (job info)
    rw [List.map_append] at hmap ⊢
    exact h _ _ hmap

/-- The jobs follow their configuration at every `select` just if no job is active in two
iterations in a row with different times. -/
theorem follow_iff_steady (infos : List TimerInfo) (events : List Event) :
    TimerFollows infos ∧ ServicesFollow events ↔
      (Steady (infos.map fun info => .read info.baseline) ∧
        Steady (infos.map fun info => .read info.outreach)) ∧ Steady events := by
  have hservices : ServicesFollow events ↔ Steady events := by
    rw [← follows_run_iff_steady, ServicesFollow]
    simp only [startServices_eq]
  rw [hservices, ← follows_map_iff_steady TimerInfo.baseline,
    ← follows_map_iff_steady TimerInfo.outreach, TimerFollows]
  simp only [startTimerTask_eq, imp_and, forall_and]

/-- The time of an active baseline check is changed, and its interval is not. -/
theorem time_change_ignored :
    ¬∀ infos events, TimerFollows infos ∧ ServicesFollow events := by
  intro h
  let first : TimerInfo := ⟨(true, 60), (false, 0), false⟩
  let second : TimerInfo := ⟨(true, 120), (false, 0), false⟩
  have hbaseline := ((h [first, second] []).1 [first] second (List.prefix_refl _)).1
  rw [Job.Follows] at hbaseline
  exact absurd hbaseline (by decide)

end LinuxAgent.Task.Periodic
