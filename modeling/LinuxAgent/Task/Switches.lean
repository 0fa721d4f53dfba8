import LinuxAgent.Task.Config
import LinuxAgent.Lib.Push

/-!
# The switches as pushed settings

`apply_config_diff` pushes five settings to the kernel. For a given configuration,
all that matters of the agent is which switches the fetcher remembers as set and
which ones the kernel has. On this view the function is a push of the settings one
after the other, and what it does follows from the library.
-/

namespace LinuxAgent.Task

/-- The five settings that are written to the kernel. -/
inductive Switch
  | selfProtect
  | openPort
  | dynamic
  | netLog
  | defense
  deriving DecidableEq

namespace Switch

/-- The order in which they are written. -/
def order : List Switch := [.selfProtect, .openPort, .dynamic, .netLog, .defense]

/-- Every switch is in the order. -/
theorem mem_order (sw : Switch) : sw ∈ order := by
  cases sw <;> decide

/-- The switches are written once. -/
theorem order_nodup : order.Nodup := by decide

/-- The rule that is written for a switch. -/
def rule (new : NetInfoConfig) : Switch → NetRule
  | .selfProtect => .selfProtect (asU32 new.selfProtectSwitch)
  | .openPort => .virtualOpenPort new.openPortSwitch
  | .dynamic => .netBlockSwitch (asU32 new.dynamicSwitch)
  | .netLog => .netLogPolicy new.syslogProcessSwitch new.procSwitch
  | .defense => .defenseSwitch (defenseSwitch new)

/-- The switches that are written only when a kernel module is loaded. -/
def needsModule : Switch → Bool
  | .selfProtect | .openPort | .defense => true
  | .dynamic | .netLog => false

/-- How `apply_config_diff` pushes the switches. -/
def policy (new : NetInfoConfig) : Push.Policy Switch where
  skips sw := sw.needsModule && new.modVer = ""
  late sw := sw = .netLog

end Switch

/-- The fetcher remembers a switch with the value that the configuration asks for. -/
def TaskFetcher.remembers (f : TaskFetcher) (new : NetInfoConfig) : Switch → Bool
  | .selfProtect => f.prevSelfProtectSwitch = new.selfProtectSwitch
  | .openPort => f.prevOpenPortSwitch = new.openPortSwitch
  | .dynamic => f.prevDynamicSwitch = new.dynamicSwitch
  | .netLog => f.prevProcSwitch = new.procSwitch &&
      f.prevSyslogProcessSwitch = new.syslogProcessSwitch
  | .defense => f.prevDefenseSwitch = some (defenseSwitch new)

/-- The kernel has a switch as the configuration asks for. -/
def KernelSwitches.holds (k : KernelSwitches) (new : NetInfoConfig) : Switch → Bool
  | .selfProtect => k.selfProtect = asU32 new.selfProtectSwitch
  | .openPort => k.virOpenPort = new.openPortSwitch
  | .dynamic => k.blockSwitch = asU32 new.dynamicSwitch
  | .netLog => k.netLogPolicy = (new.syslogProcessSwitch, new.procSwitch)
  | .defense => k.defenseSwitch = Task.defenseSwitch new

/-- The agent as seen from a configuration. -/
def Agent.view (a : Agent) (new : NetInfoConfig) : Push.State Switch :=
  ⟨a.fetcher.remembers new, a.kernel.holds new⟩

/-- The switches whose writes fail. -/
def Faults.fails (faults : Faults) (new : NetInfoConfig) (sw : Switch) : Bool :=
  (faults (sw.rule new)).isSome

/-- The kernel matches a configuration when it has every switch as asked for. -/
theorem KernelSwitches.eq_ofConfig_iff {k : KernelSwitches} {cfg : NetInfoConfig} :
    k = .ofConfig cfg ↔ ∀ sw, k.holds cfg sw = true := by
  constructor
  · rintro rfl sw
    cases sw <;> simp [holds, ofConfig]
  · intro h
    have hself := h .selfProtect
    have hopen := h .openPort
    have hdynamic := h .dynamic
    have hnetLog := h .netLog
    have hdefense := h .defense
    simp only [holds, decide_eq_true_eq] at hself hopen hdynamic hnetLog hdefense
    obtain ⟨selfProtect, virOpenPort, blockSwitch, netLogPolicy, defense⟩ := k
    simp only at hself hopen hdynamic hnetLog hdefense
    rw [ofConfig, hself, hopen, hdynamic, hnetLog, hdefense]

/-- A write of the rule of a switch sets that switch and no other. -/
theorem KernelSwitches.holds_write (k : KernelSwitches) (new : NetInfoConfig) (sw sw' : Switch) :
    (k.write (sw.rule new)).holds new sw' = if sw' = sw then true else k.holds new sw' := by
  cases sw <;> cases sw' <;> first | rfl | simp [write, Switch.rule, holds]

/-- The outcome is what the push of settings makes of the view. -/
structure Outcome.Refines (new : NetInfoConfig) (o : Outcome) (r : Push.Result Switch) : Prop where
  /-- The agent is seen as the state of the push. -/
  state : o.agent.view new = r.state
  /-- The writes are those of the push. -/
  writes : o.writes = r.writes.map fun w => (w.1.rule new, w.2)
  /-- Both come to their end, or neither does. -/
  result : o.result.isOk = r.ok

section

variable {faults : Faults} {new : NetInfoConfig} {a a' : Agent} {sw : Switch}

/-- When the fetcher remembers one more switch, so does the view. -/
theorem Agent.view_eq_remember (hkernel : a'.kernel = a.kernel)
    (hfetcher : ∀ sw', a'.fetcher.remembers new sw' =
      if sw' = sw then true else a.fetcher.remembers new sw') :
    a'.view new = (a.view new).remember sw := by
  have hremembers :
      a'.fetcher.remembers new = Function.update (a.fetcher.remembers new) sw true := by
    funext sw'
    rw [hfetcher, Function.update_apply]
  rw [Agent.view, hkernel, hremembers]
  rfl

/-- When a switch is written as well, it is settled. -/
theorem Agent.view_eq_settle (hkernel : a'.kernel = a.kernel.write (sw.rule new))
    (hfetcher : ∀ sw', a'.fetcher.remembers new sw' =
      if sw' = sw then true else a.fetcher.remembers new sw') :
    a'.view new = (a.view new).settle sw := by
  have hremembers :
      a'.fetcher.remembers new = Function.update (a.fetcher.remembers new) sw true := by
    funext sw'
    rw [hfetcher, Function.update_apply]
  have hholds : a'.kernel.holds new = Function.update (a.kernel.holds new) sw true := by
    funext sw'
    rw [hkernel, KernelSwitches.holds_write, Function.update_apply]
  rw [Agent.view, hremembers, hholds]
  rfl

/-- A block that finds its switch remembered does nothing, and so does the push. -/
theorem refines_remembered (hremembers : a.fetcher.remembers new sw = true) :
    a.done.Refines new ((Switch.policy new).pushOne (faults.fails new) sw (a.view new)) := by
  have hview : (a.view new).remembered sw = true := hremembers
  rw [Push.Policy.pushOne, if_pos hview]
  exact ⟨rfl, rfl, rfl⟩

/-- A block that remembers its switch and skips the write. -/
theorem refines_skipped (hremembers : a.fetcher.remembers new sw = false)
    (hskips : (Switch.policy new).skips sw = true)
    (hview : a'.view new = (a.view new).remember sw) :
    a'.done.Refines new ((Switch.policy new).pushOne (faults.fails new) sw (a.view new)) := by
  have hmemory : (a.view new).remembered sw = false := hremembers
  simp only [Push.Policy.pushOne, hmemory, hskips, Bool.false_eq_true, if_false, if_true]
  exact ⟨hview, rfl, rfl⟩

/-- A block that remembers its switch and then writes it. -/
theorem refines_written (hremembers : a.fetcher.remembers new sw = false)
    (hskips : (Switch.policy new).skips sw = false) (hearly : sw ≠ .netLog)
    (hkernel : a'.kernel = a.kernel)
    (hfetcher : ∀ sw', a'.fetcher.remembers new sw' =
      if sw' = sw then true else a.fetcher.remembers new sw') :
    (a'.writeNetRule faults (sw.rule new)).Refines new
      ((Switch.policy new).pushOne (faults.fails new) sw (a.view new)) := by
  have hmemory : (a.view new).remembered sw = false := hremembers
  have hlate : (Switch.policy new).late sw = false := decide_eq_false hearly
  simp only [Push.Policy.pushOne, hmemory, hskips, Bool.false_eq_true, if_false]
  unfold Agent.writeNetRule Faults.fails
  cases faults (sw.rule new) with
  | some e =>
    simp only [Option.isSome_some, if_true, hlate, Bool.false_eq_true, if_false]
    exact ⟨Agent.view_eq_remember hkernel hfetcher, rfl, rfl⟩
  | none =>
    simp only [Option.isSome_none, Bool.false_eq_true, if_false]
    refine ⟨Agent.view_eq_settle ?_ hfetcher, rfl, rfl⟩
    rw [hkernel]

/-- The block of the self-protection switch is a push. -/
theorem syncSelfProtect_refines (faults : Faults) (new : NetInfoConfig) (a : Agent) :
    (syncSelfProtect faults new a).Refines new
      ((Switch.policy new).pushOne (faults.fails new) .selfProtect (a.view new)) := by
  unfold syncSelfProtect
  split
  case isFalse hsame =>
    exact refines_remembered (by simpa [TaskFetcher.remembers, eq_comm] using hsame)
  case isTrue hdiffers =>
    have hremembers : a.fetcher.remembers new .selfProtect = false := by
      simpa [TaskFetcher.remembers, eq_comm] using hdiffers
    dsimp only
    split
    case isTrue hmodule =>
      refine refines_written hremembers (by simp [Switch.policy, hmodule]) (by decide) rfl ?_
      intro sw'
      cases sw' <;> first | rfl | simp [TaskFetcher.remembers, Agent.callPattern]
    case isFalse hmodule =>
      refine refines_skipped hremembers (by simpa [Switch.policy, Switch.needsModule] using hmodule)
        (Agent.view_eq_remember rfl ?_)
      intro sw'
      cases sw' <;> first | rfl | simp [TaskFetcher.remembers]

/-- The block of the virtual open ports is a push. -/
theorem syncOpenPort_refines (faults : Faults) (new : NetInfoConfig) (a : Agent) :
    (syncOpenPort faults new a).Refines new
      ((Switch.policy new).pushOne (faults.fails new) .openPort (a.view new)) := by
  unfold syncOpenPort
  split
  case isFalse hsame =>
    exact refines_remembered (by simpa [TaskFetcher.remembers, eq_comm] using hsame)
  case isTrue hdiffers =>
    have hremembers : a.fetcher.remembers new .openPort = false := by
      simpa [TaskFetcher.remembers, eq_comm] using hdiffers
    dsimp only
    split
    case isTrue hmodule =>
      refine refines_written hremembers (by simp [Switch.policy, hmodule]) (by decide) rfl ?_
      intro sw'
      cases sw' <;> first | rfl | simp [TaskFetcher.remembers]
    case isFalse hmodule =>
      refine refines_skipped hremembers (by simpa [Switch.policy, Switch.needsModule] using hmodule)
        (Agent.view_eq_remember rfl ?_)
      intro sw'
      cases sw' <;> first | rfl | simp [TaskFetcher.remembers]

/-- The block of the dynamic blocking is a push. -/
theorem syncDynamic_refines (faults : Faults) (new : NetInfoConfig) (a : Agent) :
    (syncDynamic faults new a).Refines new
      ((Switch.policy new).pushOne (faults.fails new) .dynamic (a.view new)) := by
  unfold syncDynamic
  split
  case isFalse hsame =>
    exact refines_remembered (by simpa [TaskFetcher.remembers, eq_comm] using hsame)
  case isTrue hdiffers =>
    have hremembers : a.fetcher.remembers new .dynamic = false := by
      simpa [TaskFetcher.remembers, eq_comm] using hdiffers
    refine refines_written hremembers (by simp [Switch.policy, Switch.needsModule]) (by decide)
      rfl ?_
    intro sw'
    cases sw' <;> first | rfl | simp [TaskFetcher.remembers]

/-- The block of the process log is a push that remembers late. -/
theorem syncNetLog_refines (faults : Faults) (new : NetInfoConfig) (a : Agent) :
    (syncNetLog faults new a).Refines new
      ((Switch.policy new).pushOne (faults.fails new) .netLog (a.view new)) := by
  unfold syncNetLog
  split
  case isFalse hsame =>
    obtain ⟨hproc, hsyslog⟩ := not_or.mp hsame
    refine refines_remembered ?_
    simp [TaskFetcher.remembers, ← not_not.mp hproc, ← not_not.mp hsyslog]
  case isTrue hdiffers =>
    have hmemory : (a.view new).remembered .netLog = false := by
      have hremembers : a.fetcher.remembers new .netLog = false := by
        rcases hdiffers with h | h
        · simp [TaskFetcher.remembers, Ne.symm h]
        · simp [TaskFetcher.remembers, Ne.symm h]
      exact hremembers
    have hskips : (Switch.policy new).skips .netLog = false := rfl
    have hlate : (Switch.policy new).late .netLog = true := rfl
    simp only [Push.Policy.pushOne, hmemory, hskips, hlate, Bool.false_eq_true, if_false, if_true,
      Agent.writeNetRule, Faults.fails, Switch.rule]
    cases faults (.netLogPolicy new.syslogProcessSwitch new.procSwitch) with
    | some e => exact ⟨rfl, rfl, rfl⟩
    | none =>
      refine ⟨Agent.view_eq_settle rfl ?_, rfl, rfl⟩
      intro sw'
      cases sw' <;> first | rfl | simp [TaskFetcher.remembers, Outcome.andThen, Agent.done]

/-- The block of the defense word is a push. -/
theorem syncDefense_refines (faults : Faults) (new : NetInfoConfig) (a : Agent) :
    (syncDefense faults new a).Refines new
      ((Switch.policy new).pushOne (faults.fails new) .defense (a.view new)) := by
  unfold syncDefense
  split
  case isFalse hsame =>
    exact refines_remembered (by simpa [TaskFetcher.remembers] using hsame)
  case isTrue hdiffers =>
    have hremembers : a.fetcher.remembers new .defense = false := by
      simpa [TaskFetcher.remembers] using hdiffers
    dsimp only
    split
    case isTrue hmodule =>
      refine refines_written hremembers (by simp [Switch.policy, hmodule]) (by decide) rfl ?_
      intro sw'
      cases sw' <;> first | rfl | simp [TaskFetcher.remembers]
    case isFalse hmodule =>
      refine refines_skipped hremembers (by simpa [Switch.policy, Switch.needsModule] using hmodule)
        (Agent.view_eq_remember rfl ?_)
      intro sw'
      cases sw' <;> first | rfl | simp [TaskFetcher.remembers]

/-- Clearing directories does not show in the view. -/
theorem view_clear (new : NetInfoConfig) (a : Agent) :
    (clearExport new (clearProtect new a)).view new = a.view new := by
  have hfields : (clearProtect new a).view new = a.view new := by
    unfold clearProtect
    split
    · split <;> exact congrArg₂ Push.State.mk (funext fun sw => by cases sw <;> rfl) rfl
    · rfl
  rw [← hfields]
  unfold clearExport
  split
  · split <;> exact congrArg₂ Push.State.mk (funext fun sw => by cases sw <;> rfl) rfl
  · rfl

/-- Parts that refine pushes can be put one after the other. -/
theorem Outcome.Refines.andThen {o : Outcome} {r : Push.Result Switch} {next : Agent → Outcome}
    {push : Push.State Switch → Push.Result Switch} (ho : o.Refines new r)
    (hnext : ∀ a, (next a).Refines new (push (a.view new))) :
    (o.andThen next).Refines new (r.andThen push) := by
  obtain ⟨agent, writes, result⟩ := o
  obtain ⟨state, pushed, ok⟩ := r
  obtain ⟨hstate, hwrites, hresult⟩ := ho
  cases result with
  | error e =>
    obtain rfl : ok = false := hresult.symm
    exact ⟨hstate, hwrites, rfl⟩
  | ok u =>
    obtain rfl : ok = true := hresult.symm
    simp only at hstate hwrites
    have hn := hnext agent
    rw [hstate] at hn
    refine ⟨hn.state, ?_, hn.result⟩
    simp only [Outcome.andThen, Push.Result.andThen, if_true, hwrites, hn.writes, List.map_append]

/-- **`apply_config_diff` is a push of the five switches.** -/
theorem applyConfigDiff_refines (faults : Faults) (new : NetInfoConfig) (a : Agent) :
    (applyConfigDiff faults new a).Refines new
      ((Switch.policy new).pushAll (faults.fails new) Switch.order (a.view new)) := by
  have hdefense (a : Agent) : (syncDefense faults new a).Refines new
      ((Switch.policy new).pushAll (faults.fails new) [.defense] (a.view new)) := by
    have hlast : ((syncDefense faults new a).andThen Agent.done).Refines new
        ((Switch.policy new).pushAll (faults.fails new) [.defense] (a.view new)) :=
      (syncDefense_refines faults new a).andThen fun a => ⟨rfl, rfl, rfl⟩
    have hsame : (syncDefense faults new a).andThen Agent.done = syncDefense faults new a := by
      rcases syncDefense faults new a with ⟨agent, writes, _ | _⟩ <;>
        simp [Outcome.andThen, Agent.done]
    rwa [hsame] at hlast
  refine (syncSelfProtect_refines faults new a).andThen fun a => ?_
  refine (syncOpenPort_refines faults new a).andThen fun a => ?_
  refine (syncDynamic_refines faults new a).andThen fun a => ?_
  rw [← view_clear new a]
  exact (syncNetLog_refines faults new _).andThen hdefense

/-- The same without faults. -/
theorem applyConfigDiff_noFaults_refines (new : NetInfoConfig) (a : Agent) :
    (applyConfigDiff noFaults new a).Refines new
      ((Switch.policy new).pushAll (fun _ => false) Switch.order (a.view new)) :=
  applyConfigDiff_refines noFaults new a

end

end LinuxAgent.Task
