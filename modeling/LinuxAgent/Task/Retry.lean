import LinuxAgent.Task.Switches

/-!
# Retrying failed writes

A block of `apply_config_diff` that remembers its switch before the write takes a
failed write for done, and the next call with the same configuration does not
repeat it. Only the block of the process log remembers its switches after the
write. A failure is therefore made up for exactly when it is the one of that block.
-/

namespace LinuxAgent.Task

/-- Calling `apply_config_diff` again with the same configuration, the writes now
succeeding, makes up for a call under `faults`. -/
structure RetriesFailedWrites (faults : Faults) (new : NetInfoConfig) (a : Agent) : Prop where
  /-- Every write that was attempted without success or not reached is issued now. What
  the first call should have issued is what a call without faults issues. -/
  issued : ∀ rule, (rule, true) ∈ (applyConfigDiff noFaults new a).writes →
    (rule, true) ∉ (applyConfigDiff faults new a).writes →
    (rule, true) ∈ (applyConfigDiff noFaults new (applyConfigDiff faults new a).agent).writes
  /-- All switches of the kernel then match the configuration. -/
  matched : (applyConfigDiff noFaults new (applyConfigDiff faults new a).agent).agent.kernel =
    .ofConfig new

/-- The write of a switch is due: the configuration differs from what the fetcher
remembers, and the write is not left out for want of a kernel module. -/
def Agent.due (a : Agent) (new : NetInfoConfig) (sw : Switch) : Bool :=
  (Switch.policy new).due (a.view new) sw

/-- The first write that fails in a call. -/
def firstFailure (faults : Faults) (new : NetInfoConfig) (a : Agent) : Option Switch :=
  Switch.order.find? fun sw => a.due new sw && faults.fails new sw

/-- Different switches have different rules. -/
theorem Switch.rule_injective (new : NetInfoConfig) : Function.Injective (Switch.rule new) := by
  intro sw sw' h
  cases sw <;> cases sw' <;> first | rfl | cases h

/-- The writes of an outcome, in terms of the push that it refines. -/
theorem Outcome.Refines.mem_writes {new : NetInfoConfig} {o : Outcome} {r : Push.Result Switch}
    (h : o.Refines new r) (sw : Switch) (success : Bool) :
    (sw.rule new, success) ∈ o.writes ↔ (sw, success) ∈ r.writes := by
  rw [h.writes, List.mem_map]
  constructor
  · rintro ⟨⟨sw', success'⟩, hmem, heq⟩
    obtain ⟨hrule, rfl⟩ := Prod.mk.inj heq
    obtain rfl := Switch.rule_injective new hrule
    exact hmem
  · exact fun hmem => ⟨(sw, success), hmem, rfl⟩

/-- Every write of an outcome is the rule of a switch. -/
theorem Outcome.Refines.exists_switch {new : NetInfoConfig} {o : Outcome} {r : Push.Result Switch}
    (h : o.Refines new r) {rule : NetRule} {success : Bool} (hmem : (rule, success) ∈ o.writes) :
    ∃ sw, rule = Switch.rule new sw := by
  rw [h.writes, List.mem_map] at hmem
  obtain ⟨⟨sw, success'⟩, -, heq⟩ := hmem
  exact ⟨sw, (Prod.mk.inj heq).1.symm⟩

/-- Making up for a failed call, in terms of the push. -/
theorem retriesFailedWrites_iff_retries (faults : Faults) (new : NetInfoConfig) (a : Agent) :
    RetriesFailedWrites faults new a ↔
      (Switch.policy new).Retries (faults.fails new) Switch.order (a.view new) := by
  have hwanted := applyConfigDiff_noFaults_refines new a
  have hfirst := applyConfigDiff_refines faults new a
  have hsecond := applyConfigDiff_noFaults_refines new (applyConfigDiff faults new a).agent
  rw [hfirst.state] at hsecond
  have hkernel (sw : Switch) : KernelSwitches.holds
      (applyConfigDiff noFaults new (applyConfigDiff faults new a).agent).agent.kernel new sw =
      _ := congrFun (congrArg Push.State.held hsecond.state) sw
  constructor
  · intro h
    refine ⟨fun sw hdue hnot => ?_, fun sw _ => ?_⟩
    · rw [← hsecond.mem_writes]
      apply h.issued
      · rw [hwanted.mem_writes]
        exact hdue
      · rw [hfirst.mem_writes]
        exact hnot
    · rw [← hkernel]
      exact KernelSwitches.eq_ofConfig_iff.mp h.matched sw
  · intro h
    refine ⟨fun rule hdue hnot => ?_, KernelSwitches.eq_ofConfig_iff.mpr fun sw => ?_⟩
    · obtain ⟨sw, rfl⟩ := hwanted.exists_switch hdue
      rw [hwanted.mem_writes] at hdue
      rw [hfirst.mem_writes] at hnot
      rw [hsecond.mem_writes]
      exact h.issued sw hdue hnot
    · rw [hkernel]
      exact h.held sw (Switch.mem_order sw)

/-- **A failed switch write is retried** exactly when it is the write of the process
log, and each switch either has its value in the kernel already or differs from
what the fetcher remembers and is written. -/
theorem failed_write_retried_iff {faults : Faults} {new : NetInfoConfig} {a : Agent} {e : String}
    (hfailed : (applyConfigDiff faults new a).result = .error e) :
    RetriesFailedWrites faults new a ↔
      firstFailure faults new a = some .netLog ∧
        ∀ sw, a.kernel.holds new sw = true ∨ a.due new sw = true := by
  have hok := (applyConfigDiff_refines faults new a).result
  rw [hfailed] at hok
  rw [retriesFailedWrites_iff_retries,
    Push.Policy.retries_iff Switch.order_nodup hok.symm]
  constructor
  · rintro ⟨⟨k, hk, hlate⟩, hall⟩
    obtain rfl : k = .netLog := of_decide_eq_true hlate
    exact ⟨hk, fun sw => hall sw (Switch.mem_order sw)⟩
  · rintro ⟨hfirst, hall⟩
    exact ⟨⟨.netLog, hfirst, rfl⟩, fun sw _ => hall sw⟩

/-- Everything off, with a kernel module loaded. -/
def allOff : NetInfoConfig where
  cronTime := 0
  logProto := 0
  logSent := 0
  cliPort := 0
  moduleSwitch := 0
  extortionProtect := false
  extortionSwitch := false
  fileProtect := false
  fileSwitch := false
  selfProtectSwitch := false
  openPortSwitch := false
  dynamicSwitch := false
  procProtect := false
  procSwitch := false
  usbProtect := false
  usbSwitch := false
  syslogInnerSwitch := false
  syslogOuterSwitch := false
  syslogDnsSwitch := false
  internetSwitch := false
  syslogProcessSwitch := false
  syslogLoginSwitch := false
  outreachTime := 0
  outreachSwitch := false
  baselineSwitch := false
  baselineTime := 0
  hardwareSwitch := false
  hardwareTime := 0
  logIpPort := none
  modVer := "3.0"

/-- An agent after boot. -/
def booted : Agent := ⟨{}, ⟨{}, {}⟩, ⟨0, false, 0, (false, false), 0⟩⟩

/-- Only the write of one switch fails. -/
def onlyFails (new : NetInfoConfig) (sw : Switch) : Faults := fun rule =>
  if rule = sw.rule new then some "Input/output error" else none

/-- Processes are to be watched. -/
def watchProcesses : NetInfoConfig :=
  { allOff with procSwitch := true, syslogProcessSwitch := true }

/-- A failed write for the process log is made up for. -/
theorem failed_write_retried_netLog :
    RetriesFailedWrites (onlyFails watchProcesses .netLog) watchProcesses booted := by
  have hfailed : (applyConfigDiff (onlyFails watchProcesses .netLog) watchProcesses booted).result =
      .error "Input/output error" := rfl
  refine (failed_write_retried_iff hfailed).mpr ⟨by decide +kernel, fun sw => ?_⟩
  cases sw <;> decide +kernel

/-- The agent protects itself. -/
def protectSelf : NetInfoConfig := { allOff with selfProtectSwitch := true }

/-- A failed write for the self-protection is not made up for: the call reports the
error, and the next one writes the defense word only. -/
theorem failed_write_forgotten :
    ∃ e, (applyConfigDiff (onlyFails protectSelf .selfProtect) protectSelf booted).result =
      .error e ∧ ¬RetriesFailedWrites (onlyFails protectSelf .selfProtect) protectSelf booted := by
  refine ⟨"Input/output error", rfl, fun h => ?_⟩
  have hkernel := congrArg KernelSwitches.selfProtect h.matched
  revert hkernel
  decide +kernel

end LinuxAgent.Task
