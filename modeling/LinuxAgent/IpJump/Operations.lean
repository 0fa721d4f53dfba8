import LinuxAgent.IpJump.Outcome
import LinuxAgent.Lib.Runs

/-!
# Runs of the IP-jump manager

A run starts with a new manager on a host whose addresses are all on the main
interface, and calls the operations of the manager one after the other. The state
remembers the target of the latest successful jump.
-/

namespace LinuxAgent.IpJump

/-- The operations of the manager, with what the environment does to each. -/
inductive Operation
  /-- `do_ip_jump_async`. -/
  | jump (faults : Faults) (config : IpJumpConfig)
  /-- `do_periodic_cleanup`. -/
  | cleanup (io : CleanupIo)
  /-- `remove_secondary_ip`. -/
  | remove (delFails delAnyFails : Bool) (iface ip : String)

/-- The manager, its host and the target of the latest successful jump. -/
structure Session where
  /-- The manager on its host. -/
  manager : IpJumpManager
  /-- History: the target of the latest successful jump. -/
  target : Option IfAddr
  deriving DecidableEq

namespace Session

/-- The target after a jump: the one of the configuration if the jump succeeded. -/
def targetAfter (net : Net) (s : Session) (config : IpJumpConfig) :
    Except String PutIpJumpInfo → Option IfAddr
  | .error _ => s.target
  | .ok _ =>
    match parseCidr net config.targetIp with
    | .ok t => some ⟨s.manager.mainInterface, t.1, t.2⟩
    | .error _ => s.target

/-- Carry out one operation. -/
def step (net : Net) (s : Session) : Operation → Option Session
  | .jump faults config =>
    let result := doIpJumpAsync net faults s.manager config
    some ⟨result.1, s.targetAfter net config result.2⟩
  | .cleanup io => some { s with manager := doPeriodicCleanup net io s.manager }
  | .remove delFails delAnyFails iface ip =>
    some { s with manager := (removeSecondaryIp net delFails delAnyFails s.manager iface ip).1 }

/-- A new manager on a host with addresses on the main interface only. -/
def Initial (s : Session) : Prop :=
  ∃ mainInterface host, s = ⟨.new mainInterface host, none⟩ ∧
    ∀ a ∈ host.addrs, a.iface = mainInterface

/-- The manager as a transition system. -/
def system (net : Net) : Runs.System Session Operation := ⟨Initial, step net⟩

/-- All addresses are on the main interface. -/
def OnMain (m : IpJumpManager) : Prop := ∀ a ∈ m.host.addrs, a.iface = m.mainInterface

/-- Every operation keeps all addresses on the main interface. -/
theorem OnMain.step {net : Net} {s s' : Session} {op : Operation} (hmain : OnMain s.manager)
    (hstep : (system net).step s op = some s') :
    OnMain s'.manager ∧ s'.manager.mainInterface = s.manager.mainInterface := by
  cases op with
  | jump faults config =>
    obtain rfl := Option.some.inj hstep
    have hout := doIpJumpAsync_outcome net faults s.manager config
    refine ⟨?_, hout.mainInterface⟩
    intro x hx
    rw [hout.mainInterface]
    rcases hout.mem hx with hx | ⟨a, ha, hiface⟩
    · exact hmain x hx
    · exact hiface.trans (hmain a ha)
  | cleanup io =>
    obtain rfl := Option.some.inj hstep
    have hages := doPeriodicCleanup_spec net io s.manager
    refine ⟨?_, hages.rest.1⟩
    intro x hx
    rw [hages.rest.1]
    exact hmain x (hages.sublist.subset hx)
  | remove delFails delAnyFails iface ip =>
    obtain rfl := Option.some.inj hstep
    obtain ⟨p, hages⟩ := removeSecondaryIp_spec net delFails delAnyFails s.manager iface ip
    refine ⟨?_, hages.rest.1⟩
    intro x hx
    rw [hages.rest.1]
    exact hmain x (hages.sublist.subset hx)

/-- A host with one address. -/
def oneAddress : Session :=
  ⟨.new "eth0" ⟨[⟨"eth0", "10.0.0.5", slash24⟩], some ⟨some "10.0.0.1", "eth0"⟩⟩, none⟩

/-- A manager with one address is an initial state. -/
theorem oneAddress_initial : Initial oneAddress :=
  ⟨"eth0", _, rfl, by simp⟩

/-- No command fails. -/
def noFaults : Faults := fun _ => false

/-- No removal and no upload fails. -/
def quietCleanup : CleanupIo := ⟨fun _ => false, fun _ => false, some "10.0.0.6", true⟩

/-- A jump from the one address to another. -/
def jumpToSix : IpJumpConfig := ⟨"10.0.0.5", "10.0.0.6/24", ""⟩

end Session

end LinuxAgent.IpJump
