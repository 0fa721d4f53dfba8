import LinuxAgent.Task.Retry

/-!
# Configuration updates across logins

Each login starts a new `TaskFetcher`, whose memory says that everything is off,
while the kernel, the pattern manager and `NETINFO_CONFIG` stay as they are. A
switch that is on and is turned off by the first update after a login is therefore
not written. The kernel follows the configuration as long as this does not happen.
-/

namespace LinuxAgent.Task

open Runs

/-- The agent with the global configuration. -/
structure Session where
  /-- The fetcher and what it works on. -/
  agent : Agent
  /-- `NETINFO_CONFIG`. -/
  config : NetInfoConfig
  deriving DecidableEq

/-- What can happen to the configuration and to what depends on it. -/
inductive Event
  /-- `update_config_from_json`; every write succeeds. -/
  | update (conf : Conf)
  /-- The fetcher ends, and the next login makes a new one. -/
  | restart
  /-- `task_down_dir_policy` has downloaded the protected directories. -/
  | downDirPolicy (dirs : List Pattern.PolicyProtectDir)
  /-- `task_down_extort` has downloaded the policies against extortion. -/
  | downExtort (exports : List Pattern.PolicyExiporProtect)

namespace Session

/-- `update_config_from_json`: the configuration is stored first. -/
def updateConfigFromJson (s : Session) (conf : Conf) : Session × Except String Unit :=
  let new := s.config.merge conf
  let applied := applyConfigDiff noFaults new s.agent
  (⟨applied.agent, new⟩, applied.result)

/-- One event. -/
def step (s : Session) : Event → Option Session
  | .update conf => some (s.updateConfigFromJson conf).1
  | .restart => some { s with agent.fetcher := {} }
  | .downDirPolicy dirs => some { s with agent := s.agent.callPattern (.setProtectDir dirs) }
  | .downExtort exports => some { s with agent := s.agent.callPattern (.setExiportDir exports) }

/-- A booted agent with a kernel module and any configuration. -/
def Initial (s : Session) : Prop := s.agent = booted ∧ s.config.modVer ≠ ""

/-- The events as a transition system. -/
def system : System Session Event := ⟨Initial, step⟩

/-- The texts of the protected directories. -/
def protectTexts (m : Pattern.PolicyTexts) : List String :=
  [m.protectDirPatterns, m.protectDirWhitePatterns, m.protectDirRules, m.protectDirWhiteRules,
    m.protectDirIncludeExePatterns, m.protectDirIncludeExeRules, m.protectDirExcludeExePatterns,
    m.protectDirExcludeExeRules, m.protectTrueProcess]

/-- The texts of the directories protected against extortion. -/
def exportTexts (m : Pattern.PolicyTexts) : List String :=
  [m.exiportDirPatterns, m.exiportDirRules]

/-- A policy is cleared. -/
def Cleared (texts : List String) : Prop := ∀ t ∈ texts, t = ""

instance (texts : List String) : Decidable (Cleared texts) :=
  inferInstanceAs (Decidable (∀ t ∈ texts, t = ""))

/-- The policy of the pattern manager. -/
def policy (s : Session) : Pattern.PolicyTexts := s.agent.pattern.mgr.toPolicyTexts

/-- The kernel and the directory policies follow the configuration. -/
structure Follows (s : Session) : Prop where
  /-- The switches have the values of the configuration. -/
  switches : s.agent.kernel = .ofConfig s.config
  /-- No directory is protected unless the configuration says so. -/
  protect : s.config.fileSwitch = false → Cleared (protectTexts s.policy)
  /-- The same for the directories protected against extortion. -/
  extort : s.config.extortionProtect = false → Cleared (exportTexts s.policy)

/-- The value asked for is the one that a new fetcher remembers, and this fetcher
remembers it too, but the kernel has another one. -/
def Forgets (a : Agent) (new : NetInfoConfig) (sw : Switch) : Prop :=
  ({} : TaskFetcher).remembers new sw = true ∧ a.fetcher.remembers new sw = true ∧
    a.kernel.holds new sw = false

instance (a : Agent) (new : NetInfoConfig) : DecidablePred (Forgets a new) := fun sw =>
  inferInstanceAs (Decidable (({} : TaskFetcher).remembers new sw = true ∧
    a.fetcher.remembers new sw = true ∧ a.kernel.holds new sw = false))

/-- An update under which nothing that is on counts as off: it turns off no switch,
and no directory policy, that is on while the fetcher remembers it as off. -/
def Remembers (s : Session) : Event → Prop
  | .update conf =>
    let new := s.config.merge conf
    (∀ sw ∈ Switch.order, ¬Forgets s.agent new sw) ∧
      (new.fileSwitch = false → s.agent.fetcher.prevFileSwitch = false →
        Cleared (protectTexts s.policy)) ∧
      (new.extortionProtect = false → s.agent.fetcher.prevExtortionSwitch = false →
        Cleared (exportTexts s.policy))
  | _ => True

instance (s : Session) : DecidablePred (Remembers s) := fun event => by
  cases event <;> unfold Remembers <;> infer_instance

/-- Loading the rules keeps the texts. -/
theorem setPatternRules_texts (m : Pattern.PatternRulesMgr) (k : Pattern.Kernel) :
    (Pattern.setPatternRules m k).1.toPolicyTexts = m.toPolicyTexts := by
  unfold Pattern.setPatternRules
  split <;> rfl

/-- The directory policies and what is remembered about them are the same. -/
structure KeepsDirs (a a' : Agent) : Prop where
  protect : protectTexts a'.pattern.mgr.toPolicyTexts = protectTexts a.pattern.mgr.toPolicyTexts
  extort : exportTexts a'.pattern.mgr.toPolicyTexts = exportTexts a.pattern.mgr.toPolicyTexts
  prevFile : a'.fetcher.prevFileSwitch = a.fetcher.prevFileSwitch
  prevExtortion : a'.fetcher.prevExtortionSwitch = a.fetcher.prevExtortionSwitch

/-- Keeping them twice. -/
theorem KeepsDirs.trans {a b c : Agent} (hab : KeepsDirs a b) (hbc : KeepsDirs b c) :
    KeepsDirs a c := by
  constructor
  · exact hbc.protect.trans hab.protect
  · exact hbc.extort.trans hab.extort
  · exact hbc.prevFile.trans hab.prevFile
  · exact hbc.prevExtortion.trans hab.prevExtortion

/-- A part of `apply_config_diff` that comes to its end and keeps the directories. -/
structure Quiet (o : Outcome) (a : Agent) : Prop where
  ok : o.result = .ok ()
  keeps : KeepsDirs a o.agent

/-- After a part that comes to its end the next one runs. -/
theorem Quiet.andThen_agent {o : Outcome} {a : Agent} (h : Quiet o a) (next : Agent → Outcome) :
    (o.andThen next).agent = (next o.agent).agent := by
  simp only [Outcome.andThen, h.ok]

/-- The block of the self-protection switch adds its own patterns only. -/
theorem syncSelfProtect_quiet (new : NetInfoConfig) (a : Agent) :
    Quiet (syncSelfProtect noFaults new a) a := by
  have htexts (m : Pattern.PatternRulesMgr) (k : Pattern.Kernel) (enable : Bool) :
      protectTexts (Pattern.addFilePattern enable m k).1.toPolicyTexts =
        protectTexts m.toPolicyTexts ∧
      exportTexts (Pattern.addFilePattern enable m k).1.toPolicyTexts =
        exportTexts m.toPolicyTexts := by
    cases enable with
    | false => exact ⟨rfl, rfl⟩
    | true =>
      rw [Pattern.addFilePattern, if_neg (by decide), setPatternRules_texts]
      exact ⟨rfl, rfl⟩
  unfold syncSelfProtect
  split
  · dsimp only
    split
    · exact ⟨rfl, (htexts _ _ _).1, (htexts _ _ _).2, rfl, rfl⟩
    · exact ⟨rfl, rfl, rfl, rfl, rfl⟩
  · exact ⟨rfl, rfl, rfl, rfl, rfl⟩

/-- The block of the virtual open ports writes to the kernel only. -/
theorem syncOpenPort_quiet (new : NetInfoConfig) (a : Agent) :
    Quiet (syncOpenPort noFaults new a) a := by
  unfold syncOpenPort
  split
  · dsimp only
    split <;> exact ⟨rfl, rfl, rfl, rfl, rfl⟩
  · exact ⟨rfl, rfl, rfl, rfl, rfl⟩

/-- So does the block of the dynamic blocking. -/
theorem syncDynamic_quiet (new : NetInfoConfig) (a : Agent) :
    Quiet (syncDynamic noFaults new a) a := by
  unfold syncDynamic
  split <;> exact ⟨rfl, rfl, rfl, rfl, rfl⟩

/-- So does the block of the process log. -/
theorem syncNetLog_quiet (new : NetInfoConfig) (a : Agent) :
    Quiet (syncNetLog noFaults new a) a := by
  unfold syncNetLog
  split <;> exact ⟨rfl, rfl, rfl, rfl, rfl⟩

/-- So does the block of the defense word. -/
theorem syncDefense_quiet (new : NetInfoConfig) (a : Agent) :
    Quiet (syncDefense noFaults new a) a := by
  unfold syncDefense
  split
  · dsimp only
    split <;> exact ⟨rfl, rfl, rfl, rfl, rfl⟩
  · exact ⟨rfl, rfl, rfl, rfl, rfl⟩

/-- What `apply_config_diff` does to the directory policies when a module is loaded: a
policy is cleared when its switch goes from on to off. -/
structure ClearsDirs (new : NetInfoConfig) (a a' : Agent) : Prop where
  prevFile : a'.fetcher.prevFileSwitch = new.fileSwitch
  prevExtortion : a'.fetcher.prevExtortionSwitch = new.extortionProtect
  protect : Cleared (protectTexts a'.pattern.mgr.toPolicyTexts) ↔
    (new.fileSwitch = false ∧ a.fetcher.prevFileSwitch = true) ∨
      Cleared (protectTexts a.pattern.mgr.toPolicyTexts)
  extort : Cleared (exportTexts a'.pattern.mgr.toPolicyTexts) ↔
    (new.extortionProtect = false ∧ a.fetcher.prevExtortionSwitch = true) ∨
      Cleared (exportTexts a.pattern.mgr.toPolicyTexts)

/-- The block that clears the protected directories leaves the other policy alone. -/
theorem clearProtect_spec {new : NetInfoConfig} (hmodule : new.modVer ≠ "") (a : Agent) :
    (clearProtect new a).fetcher.prevFileSwitch = new.fileSwitch ∧
      (clearProtect new a).fetcher.prevExtortionSwitch = a.fetcher.prevExtortionSwitch ∧
      (Cleared (protectTexts (clearProtect new a).pattern.mgr.toPolicyTexts) ↔
        (new.fileSwitch = false ∧ a.fetcher.prevFileSwitch = true) ∨
          Cleared (protectTexts a.pattern.mgr.toPolicyTexts)) ∧
      exportTexts (clearProtect new a).pattern.mgr.toPolicyTexts =
        exportTexts a.pattern.mgr.toPolicyTexts := by
  have hclear (m : Pattern.PatternRulesMgr) (k : Pattern.Kernel) :
      Cleared (protectTexts (Pattern.clearProtectDir m k).1.toPolicyTexts) ∧
        exportTexts (Pattern.clearProtectDir m k).1.toPolicyTexts =
          exportTexts m.toPolicyTexts := by
    rw [Pattern.clearProtectDir, setPatternRules_texts]
    exact ⟨by simp [Cleared, protectTexts, Pattern.clearProtectTexts], rfl⟩
  unfold clearProtect Agent.callPattern Pattern.Loaded.apply
  cases hfile : new.fileSwitch <;> cases hprev : a.fetcher.prevFileSwitch <;>
    simp [hmodule, hclear, hprev]

/-- The block that clears the directories protected against extortion does so too. -/
theorem clearExport_spec {new : NetInfoConfig} (hmodule : new.modVer ≠ "") (a : Agent) :
    (clearExport new a).fetcher.prevExtortionSwitch = new.extortionProtect ∧
      (clearExport new a).fetcher.prevFileSwitch = a.fetcher.prevFileSwitch ∧
      (Cleared (exportTexts (clearExport new a).pattern.mgr.toPolicyTexts) ↔
        (new.extortionProtect = false ∧ a.fetcher.prevExtortionSwitch = true) ∨
          Cleared (exportTexts a.pattern.mgr.toPolicyTexts)) ∧
      protectTexts (clearExport new a).pattern.mgr.toPolicyTexts =
        protectTexts a.pattern.mgr.toPolicyTexts := by
  have hclear (m : Pattern.PatternRulesMgr) (k : Pattern.Kernel) :
      Cleared (exportTexts (Pattern.clearExiportDir m k).1.toPolicyTexts) ∧
        protectTexts (Pattern.clearExiportDir m k).1.toPolicyTexts =
          protectTexts m.toPolicyTexts := by
    rw [Pattern.clearExiportDir, setPatternRules_texts]
    exact ⟨by simp [Cleared, exportTexts], rfl⟩
  unfold clearExport Agent.callPattern Pattern.Loaded.apply
  cases hextort : new.extortionProtect <;> cases hprev : a.fetcher.prevExtortionSwitch <;>
    simp [hmodule, hclear, hprev]

/-- The two clearing blocks. -/
theorem clear_clearsDirs {new : NetInfoConfig} (hmodule : new.modVer ≠ "") (a : Agent) :
    ClearsDirs new a (clearExport new (clearProtect new a)) := by
  obtain ⟨hfile, hotherPrev, hprotect, hother⟩ := clearProtect_spec hmodule a
  obtain ⟨hextort, hkeepPrev, hexport, hkeep⟩ := clearExport_spec hmodule (clearProtect new a)
  constructor
  · rw [hkeepPrev, hfile]
  · exact hextort
  · rw [hkeep, hprotect]
  · rw [hexport, hother, hotherPrev]

/-- What keeps the directories before and after does not matter. -/
theorem ClearsDirs.of_keeps {new : NetInfoConfig} {a b c d : Agent} (hbc : ClearsDirs new b c)
    (hab : KeepsDirs a b) (hcd : KeepsDirs c d) : ClearsDirs new a d := by
  constructor
  · rw [hcd.prevFile, hbc.prevFile]
  · rw [hcd.prevExtortion, hbc.prevExtortion]
  · rw [hcd.protect, hbc.protect, hab.protect, hab.prevFile]
  · rw [hcd.extort, hbc.extort, hab.extort, hab.prevExtortion]

/-- `apply_config_diff` as a whole. -/
theorem applyConfigDiff_clearsDirs {new : NetInfoConfig} (hmodule : new.modVer ≠ "") (a : Agent) :
    ClearsDirs new a (applyConfigDiff noFaults new a).agent := by
  have hself := syncSelfProtect_quiet new a
  have hopen := syncOpenPort_quiet new (syncSelfProtect noFaults new a).agent
  have hdynamic := syncDynamic_quiet new (syncOpenPort noFaults new
    (syncSelfProtect noFaults new a).agent).agent
  have hbefore := (hself.keeps.trans hopen.keeps).trans hdynamic.keeps
  rw [applyConfigDiff, hself.andThen_agent, hopen.andThen_agent, hdynamic.andThen_agent]
  have hclear := clear_clearsDirs hmodule (syncDynamic noFaults new (syncOpenPort noFaults new
    (syncSelfProtect noFaults new a).agent).agent).agent
  have hnetLog := syncNetLog_quiet new (clearExport new (clearProtect new (syncDynamic noFaults new
    (syncOpenPort noFaults new (syncSelfProtect noFaults new a).agent).agent).agent))
  rw [hnetLog.andThen_agent]
  exact hclear.of_keeps hbefore (hnetLog.keeps.trans (syncDefense_quiet new _).keeps)

/-- What the fetcher remembers beyond its start is what the kernel has. -/
def InMemory (a : Agent) : Prop :=
  ∀ new sw, a.fetcher.remembers new sw = true →
    ({} : TaskFetcher).remembers new sw = true ∨ a.kernel.holds new sw = true

/-- Configurations with the same memory ask for the same value. -/
theorem holds_eq_of_remembers {f : TaskFetcher} {new new' : NetInfoConfig} {sw : Switch}
    (hnew : f.remembers new sw = true) (hnew' : f.remembers new' sw = true) (k : KernelSwitches) :
    k.holds new sw = k.holds new' sw := by
  cases sw <;>
    simp_all [TaskFetcher.remembers, KernelSwitches.holds]

/-- With a module and without faults, a switch is right after an update unless it was
remembered as right and was not. -/
theorem holds_applyConfigDiff {new : NetInfoConfig} (hmodule : new.modVer ≠ "") (a : Agent)
    (sw : Switch) :
    (applyConfigDiff noFaults new a).agent.kernel.holds new sw = true ↔
      (a.fetcher.remembers new sw = true → a.kernel.holds new sw = true) := by
  have hrefines := applyConfigDiff_noFaults_refines new a
  have hkernel : (applyConfigDiff noFaults new a).agent.kernel.holds new sw = _ :=
    congrFun (congrArg Push.State.held hrefines.state) sw
  have hdue : (Switch.policy new).due (a.view new) sw = !a.fetcher.remembers new sw := by
    simp [Push.Policy.due, Switch.policy, Agent.view, hmodule]
  rw [hkernel, Push.Policy.held_pushAll Switch.order_nodup (Switch.mem_order sw), hdue]
  cases hremembers : a.fetcher.remembers new sw <;> simp [Agent.view]

/-- After an update the fetcher remembers what was asked for. -/
theorem remembers_applyConfigDiff (new : NetInfoConfig) (a : Agent) (sw : Switch) :
    (applyConfigDiff noFaults new a).agent.fetcher.remembers new sw = true := by
  have hrefines := applyConfigDiff_noFaults_refines new a
  have hfetcher : (applyConfigDiff noFaults new a).agent.fetcher.remembers new sw = _ :=
    congrFun (congrArg Push.State.remembered hrefines.state) sw
  rw [hfetcher]
  exact Push.Policy.remembered_pushAll Switch.order_nodup (Switch.mem_order sw)

/-- An update keeps the kernel in line exactly when it forgets nothing. -/
theorem follows_update_iff {s : Session} (hmodule : s.config.modVer ≠ "")
    (hmemory : InMemory s.agent) (conf : Conf) :
    (s.updateConfigFromJson conf).1.Follows ↔ s.Remembers (.update conf) := by
  have hmodule' : (s.config.merge conf).modVer ≠ "" := hmodule
  have hdirs := applyConfigDiff_clearsDirs hmodule' s.agent
  have hswitches : (applyConfigDiff noFaults (s.config.merge conf) s.agent).agent.kernel =
      .ofConfig (s.config.merge conf) ↔
      ∀ sw ∈ Switch.order, ¬Forgets s.agent (s.config.merge conf) sw := by
    rw [KernelSwitches.eq_ofConfig_iff]
    constructor
    · rintro hall sw - ⟨-, hremembers, hholds⟩
      have := (holds_applyConfigDiff hmodule' s.agent sw).mp (hall sw) hremembers
      rw [this] at hholds
      cases hholds
    · intro hnone sw
      rw [holds_applyConfigDiff hmodule']
      intro hremembers
      rcases hmemory _ sw hremembers with hnew | hholds
      · by_contra hwrong
        exact hnone sw (Switch.mem_order sw) ⟨hnew, hremembers, by simpa using hwrong⟩
      · exact hholds
  constructor
  · intro h
    refine ⟨hswitches.mp h.switches, fun hfile hprev => ?_, fun hextort hprev => ?_⟩
    · exact (hdirs.protect.mp (h.protect hfile)).resolve_left (by simp [hprev])
    · exact (hdirs.extort.mp (h.extort hextort)).resolve_left (by simp [hprev])
  · rintro ⟨hforgets, hprotect, hextort⟩
    refine ⟨hswitches.mpr hforgets, fun hfile => hdirs.protect.mpr ?_, fun hoff =>
      hdirs.extort.mpr ?_⟩
    · cases hprev : s.agent.fetcher.prevFileSwitch with
      | true => exact .inl ⟨hfile, rfl⟩
      | false => exact .inr (hprotect hfile hprev)
    · cases hprev : s.agent.fetcher.prevExtortionSwitch with
      | true => exact .inl ⟨hoff, rfl⟩
      | false => exact .inr (hextort hoff hprev)

/-- The memory of the fetcher is right, and a kernel module is loaded. -/
structure Inv (s : Session) : Prop where
  memory : InMemory s.agent
  module : s.config.modVer ≠ ""

/-- What one event that forgets nothing keeps. -/
theorem Inv.step {s s' : Session} {event : Event} (hs : Inv s) (hremembers : s.Remembers event)
    (hst : system.step s event = some s') : Inv s' := by
  cases event with
  | update conf =>
    obtain rfl := Option.some.inj hst
    have hfollows := (follows_update_iff hs.module hs.memory conf).mpr hremembers
    refine ⟨fun new' sw hnew' => .inr ?_, hs.module⟩
    have hholds := KernelSwitches.eq_ofConfig_iff.mp hfollows.switches sw
    have hnew := remembers_applyConfigDiff (s.config.merge conf) s.agent sw
    rw [holds_eq_of_remembers hnew' hnew]
    exact hholds
  | restart =>
    obtain rfl := Option.some.inj hst
    exact ⟨fun new sw h => .inl h, hs.module⟩
  | downDirPolicy dirs =>
    obtain rfl := Option.some.inj hst
    exact ⟨hs.memory, hs.module⟩
  | downExtort exports =>
    obtain rfl := Option.some.inj hst
    exact ⟨hs.memory, hs.module⟩

/-- **The kernel follows the configuration.** In every run whose updates forget nothing,
each further update leaves the switches and the directory policies as the
configuration says if and only if it forgets nothing either. -/
theorem kernel_follows_config {s s' : Session} {conf : Conf} (hs : system.Reaches Remembers s)
    (hst : system.step s (.update conf) = some s') :
    s'.Follows ↔ s.Remembers (.update conf) := by
  have hinv : Inv s := by
    refine hs.invariant ?_ fun s event s' ih hremembers hst => ih.step hremembers hst
    rintro s ⟨hbooted, hmodule⟩
    refine ⟨fun new sw h => .inl ?_, hmodule⟩
    rwa [hbooted] at h
  obtain rfl := Option.some.inj hst
  exact follows_update_iff hinv.module hinv.memory conf

/-- An agent that has just booted, with everything off. -/
def start : Session := ⟨booted, allOff⟩

/-- It is an initial state. -/
theorem start_initial : Initial start := ⟨rfl, by decide⟩

/-- Switching on, a new login, and an update that keeps the switch on. -/
theorem kernel_follows_config_kept :
    ∃ s s', system.step s (.update [("self_protect_switch", .uint 1)]) = some s' ∧ s'.Follows ∧
      s'.agent.kernel.selfProtect = 1 := by
  have hrun : (system.exec start [.update [("self_protect_switch", .uint 1)], .restart]).map
      (fun s => decide (s.Remembers (.update [("self_protect_switch", .uint 1)])) &&
        decide
          ((s.updateConfigFromJson [("self_protect_switch", .uint 1)]).1.agent.kernel.selfProtect
          = 1)) = some true := by decide +kernel
  have hmeets : system.Meets Remembers start
      [.update [("self_protect_switch", .uint 1)], .restart] := by decide +kernel
  obtain ⟨s, hexec, hcheck⟩ := Option.map_eq_some_iff.mp hrun
  obtain ⟨hremembers, hkernel⟩ := Bool.and_eq_true_iff.mp hcheck
  have hreach : system.Reaches Remembers s := (System.Reaches.init start_initial).exec hmeets hexec
  exact ⟨s, _, rfl, (kernel_follows_config hreach rfl).mpr (of_decide_eq_true hremembers),
    of_decide_eq_true hkernel⟩

/-- Switching on, a new login, and an update that switches off: the kernel keeps the
switch on. -/
theorem switch_off_after_login_lost :
    ∃ s s' conf, system.Reachable s ∧ system.step s (.update conf) = some s' ∧ ¬s'.Follows := by
  have hrun : (system.exec start [.update [("self_protect_switch", .uint 1)], .restart]).map
      (fun s => decide
        ((s.updateConfigFromJson [("self_protect_switch", .uint 0)]).1.agent.kernel.selfProtect =
          (KernelSwitches.ofConfig
            (s.updateConfigFromJson [("self_protect_switch", .uint 0)]).1.config).selfProtect)) =
      some false := by decide +kernel
  obtain ⟨s, hexec, hcheck⟩ := Option.map_eq_some_iff.mp hrun
  refine ⟨s, _, [("self_protect_switch", .uint 0)],
    System.Reachable.exec (.init start_initial) hexec, rfl, fun h => ?_⟩
  exact of_decide_eq_false hcheck (congrArg KernelSwitches.selfProtect h.switches)

end Session

end LinuxAgent.Task
