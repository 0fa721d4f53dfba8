import Mathlib.Tactic.ByContra
import LinuxAgent.IpJump.Operations

/-!
# No orphan addresses

The manager must be able to remove every address that it has put on the interface:
each one still there is the current target or has an entry. Periodic cleanups and
removals drop an entry only together with its address. A jump can break this in
three ways, which `Tracks` excludes.
-/

namespace LinuxAgent.IpJump.Session

variable {net : Net}

/-- The address is the current target or has an entry. -/
def Tracked (s : Session) (a : IfAddr) : Prop :=
  s.target = some a ∨ ∃ e ∈ s.manager.secondaryIps, e.IsFor a.iface a.ip

/-- Every address that the manager has put on the interface and that is still there is tracked. -/
def NoOrphans (s : Session) : Prop :=
  ∀ a ∈ s.manager.put, a ∈ s.manager.host.addrs → s.Tracked a

instance (s : Session) : Decidable s.NoOrphans :=
  inferInstanceAs (Decidable (∀ a ∈ s.manager.put, a ∈ s.manager.host.addrs →
    s.target = some a ∨ ∃ e ∈ s.manager.secondaryIps, e.IsFor a.iface a.ip))

/-- A jump keeps track of the addresses. Every removal of its `cleanup_old_secondary`
succeeds. When its gateway step succeeds, the old target has an entry, is gone, is the
selected source or is the new target. When its gateway step fails, the new target is
the selected source or the old target. -/
def Tracks (net : Net) (s : Session) : Operation → Prop
  | .jump faults config =>
    ∀ sourceIp, getPrimaryIp net faults s.manager config.sourceIp = .ok sourceIp →
      CleanupSucceeds net faults sourceIp 0 s.manager.secondaryIps s.manager.host ∧
      ∀ target, parseCidr net config.targetIp = .ok target →
        if gatewayStepOk faults s.manager.host.route config.gateway s.manager.mainInterface = true
        then
          ∀ t, s.target = some t → t ∈ s.manager.host.addrs →
            (∀ e ∈ s.manager.secondaryIps, ¬ e.IsFor t.iface t.ip) →
            t.ip = sourceIp ∨ t = ⟨s.manager.mainInterface, target.1, target.2⟩
        else
          target.1 = sourceIp ∨ s.target = some ⟨s.manager.mainInterface, target.1, target.2⟩
  | _ => True

/-- All addresses are on the main interface and none is an orphan. -/
def Accounted (s : Session) : Prop := OnMain s.manager ∧ s.NoOrphans

/-- Ageing out keeps track of the addresses. -/
theorem NoOrphans.of_agesOut {s : Session} {m' : IpJumpManager}
    {expired : List (String × String × ℕ)} (hnet : net.Complete) (hold : s.NoOrphans)
    (hages : AgesOut net expired s.manager m') :
    ({ s with manager := m' } : Session).NoOrphans := by
  intro a hput ha
  rw [hages.rest.2] at hput
  rcases hold a hput (hages.sublist.subset ha) with htarget | ⟨e, he, hfor⟩
  · exact .inl htarget
  · refine .inr ⟨e, ?_, hfor⟩
    by_contra hdropped
    apply hages.gone hnet e he hdropped
    simp only [SecondaryIPInfo.IsFor, Bool.and_eq_true, decide_eq_true_eq] at hfor
    exact ⟨a, ha, hfor.1.symm, hfor.2.symm⟩

/-- A cleanup whose removals succeed keeps, for an address with an entry that stays on
the host, that entry, which is one of the kept address. -/
theorem exists_kept_entry {faults : Faults} {m : IpJumpManager} {keepIp : String} {a : IfAddr}
    {e : SecondaryIPInfo} (hnet : net.Complete)
    (hsucceeds : CleanupSucceeds net faults keepIp 0 m.secondaryIps m.host)
    (ha : a ∈ (cleanupOldSecondary net faults m keepIp).host.addrs)
    (he : e ∈ m.secondaryIps) (hfor : e.IsFor a.iface a.ip) :
    a.ip = keepIp ∧ e ∈ (cleanupOldSecondary net faults m keepIp).secondaryIps := by
  simp only [SecondaryIPInfo.IsFor, Bool.and_eq_true, decide_eq_true_eq] at hfor
  have hkeep : e.ip = keepIp := by
    by_contra hother
    exact cleanupEntries_gone hnet hsucceeds he hother ⟨a, ha, hfor.1.symm, hfor.2.symm⟩
  refine ⟨hfor.2.symm.trans hkeep, ?_⟩
  rw [(cleanupOldSecondary_spec net faults m keepIp).entries, List.mem_filter]
  exact ⟨he, by simpa using hkeep⟩

/-- The cleanup of a jump keeps track of the addresses. -/
theorem NoOrphans.of_cleanup {s : Session} {faults : Faults} {keepIp : String} {a : IfAddr}
    (hnet : net.Complete) (hold : s.NoOrphans)
    (hsucceeds : CleanupSucceeds net faults keepIp 0 s.manager.secondaryIps s.manager.host)
    (hput : a ∈ s.manager.put)
    (ha : a ∈ (cleanupOldSecondary net faults s.manager keepIp).host.addrs) :
    s.target = some a ∨
      ∃ e ∈ (cleanupOldSecondary net faults s.manager keepIp).secondaryIps,
        e.IsFor a.iface a.ip := by
  have hclean := cleanupOldSecondary_spec net faults s.manager keepIp
  rcases hold a hput (hclean.sublist.subset ha) with htarget | ⟨e, he, hfor⟩
  · exact .inl htarget
  · exact .inr ⟨e, (exists_kept_entry hnet hsucceeds ha he hfor).2, hfor⟩

/-- After the switch, an address is tracked when it was tracked after the cleanup or
is the source. -/
theorem exists_entry_of_switched {faults : Faults} {m₁ m₂ : IpJumpManager} {a t x : IfAddr}
    (hswitched : Switched faults m₁ a t m₂)
    (hx : x = a ∨ ∃ e ∈ m₁.secondaryIps, e.IsFor x.iface x.ip) :
    ∃ e ∈ m₂.secondaryIps, e.IsFor x.iface x.ip := by
  obtain ⟨new, netmask, -, rfl⟩ := hswitched.result
  rcases hx with rfl | ⟨e, he, hfor⟩
  · obtain ⟨y, hy, hiface, hip⟩ := exists_recordEntry_self
      ⟨x.iface, x.ip, netmask, x.prefixLen, (m₁.tickCounter + 1) % UInt64.size⟩ m₁.secondaryIps
    exact ⟨y, hy, by simp [SecondaryIPInfo.IsFor, hiface, hip]⟩
  · obtain ⟨y, hy, hiface, hip⟩ := exists_recordEntry
      ⟨a.iface, a.ip, netmask, a.prefixLen, (m₁.tickCounter + 1) % UInt64.size⟩ he
    exact ⟨y, hy, by simpa [SecondaryIPInfo.IsFor, hiface, hip] using hfor⟩

/-- The addresses put on the interface before and during the switch. -/
theorem put_of_switched {faults : Faults} {m₁ m₂ : IpJumpManager} {a t x : IfAddr}
    (hswitched : Switched faults m₁ a t m₂) (hx : x ∈ m₂.put) :
    x = a ∨ x = t ∨ x ∈ m₁.put := by
  obtain ⟨new, netmask, hnew, rfl⟩ := hswitched.result
  rcases List.mem_append.mp hx with hx | hx
  · rcases hnew with rfl | rfl
    · cases hx
    · exact .inl (List.mem_singleton.mp hx)
  · exact .inr (List.mem_cons.mp hx)

/-- The addresses that are there after the switch. -/
theorem mem_switched {faults : Faults} {m₁ m₂ : IpJumpManager} {a t x : IfAddr}
    (hswitched : Switched faults m₁ a t m₂) (hx : x ∈ m₂.host.addrs) :
    x = a ∨ x = t ∨ x ∈ m₁.host.addrs := by
  obtain ⟨new, netmask, hnew, rfl⟩ := hswitched.result
  rcases List.mem_append.mp hx with hx | hx
  · rcases List.mem_append.mp hx with hx | hx
    · exact .inr (.inr (List.mem_of_mem_erase hx))
    · exact .inr (.inl (List.mem_singleton.mp hx))
  · rcases hnew with rfl | rfl
    · cases hx
    · exact .inl (List.mem_singleton.mp hx)

/-- A jump that ends before the switch keeps track of the addresses. -/
theorem NoOrphans.of_prepared {s : Session} {faults : Faults} {config : IpJumpConfig}
    {a t : IfAddr} {m₁ : IpJumpManager} {backup : NetworkBackup} {h : Host}
    (hnet : net.Complete) (hold : s.NoOrphans)
    (hprep : Prepared net faults s.manager config a t m₁ backup)
    (hsucceeds : CleanupSucceeds net faults a.ip 0 s.manager.secondaryIps s.manager.host)
    (hsub : ∀ x ∈ h.addrs, x ∈ m₁.host.addrs) :
    NoOrphans ⟨{ m₁ with host := h }, s.target⟩ := by
  obtain rfl := hprep.cleaned
  intro x hput hx
  have hput' : x ∈ s.manager.put := by
    rw [← hprep.cleansUp.put]
    exact hput
  exact hold.of_cleanup hnet hsucceeds hput' (hsub x hx)

/-- After the switch every address is the source, the target or was tracked before. -/
theorem tracked_of_switched {s : Session} {faults : Faults} {config : IpJumpConfig}
    {a t x : IfAddr} {m₁ m₂ : IpJumpManager} {backup : NetworkBackup}
    (hnet : net.Complete) (hold : s.NoOrphans)
    (hprep : Prepared net faults s.manager config a t m₁ backup)
    (hswitched : Switched faults m₁ a t m₂)
    (hsucceeds : CleanupSucceeds net faults a.ip 0 s.manager.secondaryIps s.manager.host)
    (hput : x ∈ m₂.put) (hx : x = a ∨ x ∈ m₂.host.addrs) :
    x = t ∨ (s.target = some x ∧ x ∈ m₁.host.addrs) ∨
      ∃ e ∈ m₂.secondaryIps, e.IsFor x.iface x.ip := by
  by_cases hxa : x = a
  · exact .inr (.inr (exists_entry_of_switched hswitched (.inl hxa)))
  by_cases hxt : x = t
  · exact .inl hxt
  have hput₁ : x ∈ m₁.put := by simpa [hxa, hxt] using put_of_switched hswitched hput
  have hx₁ : x ∈ m₁.host.addrs := by
    simpa [hxa, hxt] using mem_switched hswitched (hx.resolve_left hxa)
  rcases hold.of_prepared (h := m₁.host) hnet hprep hsucceeds (fun _ h => h) x hput₁ hx₁ with
    htarget | hentry
  · exact .inr (.inl ⟨htarget, hx₁⟩)
  · exact .inr (.inr (exists_entry_of_switched hswitched (.inr hentry)))

/-- After the switch an old target is tracked that had an entry, was the source or is
the new target. -/
theorem tracked_of_old_target {faults : Faults} {config : IpJumpConfig} {a t x : IfAddr}
    {m m₁ m₂ : IpJumpManager} {backup : NetworkBackup} (hnet : net.Complete) (hmain : OnMain m)
    (hprep : Prepared net faults m config a t m₁ backup) (hswitched : Switched faults m₁ a t m₂)
    (hsucceeds : CleanupSucceeds net faults a.ip 0 m.secondaryIps m.host)
    (hx : x ∈ m₁.host.addrs)
    (hcond : (∀ e ∈ m.secondaryIps, ¬ e.IsFor x.iface x.ip) → x.ip = a.ip ∨ x = t) :
    x = t ∨ ∃ e ∈ m₂.secondaryIps, e.IsFor x.iface x.ip := by
  by_cases hlisted : ∃ e ∈ m.secondaryIps, e.IsFor x.iface x.ip
  · obtain ⟨e, he, hfor⟩ := hlisted
    rw [hprep.cleaned] at hx
    have hkept := (exists_kept_entry hnet hsucceeds hx he hfor).2
    rw [← hprep.cleaned] at hkept
    exact .inr (exists_entry_of_switched hswitched (.inr ⟨e, hkept, hfor⟩))
  · rcases hcond (fun e he hfor => hlisted ⟨e, he, hfor⟩) with hip | hxt
    · obtain ⟨e, he, hfor⟩ := exists_entry_of_switched hswitched (.inl rfl)
      rw [hmain a hprep.first.mem.1, ← hmain x (hprep.cleansUp.sublist.subset hx), ← hip] at hfor
      exact .inr ⟨e, he, hfor⟩
    · exact .inl hxt

/-- A jump that keeps track of the addresses leaves no orphan. -/
theorem NoOrphans.jump {s : Session} {faults : Faults} {config : IpJumpConfig}
    (hnet : net.Complete) (hmain : OnMain s.manager) (hold : s.NoOrphans)
    (htracks : Tracks net s (.jump faults config)) :
    NoOrphans ⟨(doIpJumpAsync net faults s.manager config).1,
      s.targetAfter net config (doIpJumpAsync net faults s.manager config).2⟩ := by
  have hout := doIpJumpAsync_outcome net faults s.manager config
  generalize doIpJumpAsync net faults s.manager config = result at hout ⊢
  obtain ⟨m', result⟩ := result
  cases hout with
  | noSource _ => exact hold
  | @unprepared sourceIp _ hsource _ =>
    intro x hput hx
    have hput' : x ∈ s.manager.put := by
      rw [← (cleanupOldSecondary_spec net faults s.manager sourceIp).put]
      exact hput
    exact hold.of_cleanup hnet (htracks sourceIp hsource).1 hput' hx
  | @delFails a _ _ _ _ hprep _ =>
    refine hold.of_prepared hnet hprep (htracks a.ip hprep.source).1 ?_
    intro x hx
    rcases hprep.mem_restoreBackup.mp hx with hx | ⟨-, rfl⟩
    · exact hx
    · exact hprep.mem
  | @addFails a _ _ _ _ hprep _ _ =>
    refine hold.of_prepared hnet hprep (htracks a.ip hprep.source).1 ?_
    intro x hx
    rcases hprep.mem_restoreBackup.mp hx with hx | ⟨-, rfl⟩
    · exact List.mem_of_mem_erase hx
    · exact hprep.mem
  | @gatewayFails a t _ _ _ _ hprep hswitched hfails =>
    obtain ⟨hsucceeds, hcond⟩ := htracks a.ip hprep.source
    have hcond := hcond _ hprep.target
    rw [hprep.route, hmain a hprep.first.mem.1] at hfails
    rw [if_neg (by simp [hfails])] at hcond
    intro x hput hx
    have hx' : x = a ∨ x ∈ _ := (hprep.mem_restoreBackup.mp hx).symm.imp_left And.right
    rcases tracked_of_switched hnet hold hprep hswitched hsucceeds hput hx' with
      rfl | ⟨htarget, -⟩ | hentry
    · rcases hcond with hip | htarget
      · obtain ⟨e, he, hfor⟩ := exists_entry_of_switched hswitched (.inl rfl)
        dsimp only at hip
        exact .inr ⟨e, he, by rw [hprep.iface, hip]; exact hfor⟩
      · refine .inl (htarget.trans ?_)
        rw [← hmain a hprep.first.mem.1, ← hprep.iface]
    · exact .inl htarget
    · exact .inr hentry
  | @done a t _ _ _ _ info hprep hswitched hgateway =>
    obtain ⟨hsucceeds, hcond⟩ := htracks a.ip hprep.source
    have hcond := hcond _ hprep.target
    rw [hprep.route, hmain a hprep.first.mem.1] at hgateway
    rw [if_pos hgateway] at hcond
    have htarget : (⟨s.manager.mainInterface, t.ip, t.prefixLen⟩ : IfAddr) = t := by
      rw [← hmain a hprep.first.mem.1, ← hprep.iface]
    rw [htarget] at hcond
    have hafter : s.targetAfter net config (.ok info) = some t := by
      simp only [targetAfter, hprep.target, htarget]
    intro x hput hx
    rcases tracked_of_switched hnet hold hprep hswitched hsucceeds hput (.inr hx) with
      rfl | ⟨hold', hx₁⟩ | hentry
    · exact .inl hafter
    · have hmem := hprep.cleansUp.sublist.subset hx₁
      rcases
        tracked_of_old_target hnet hmain hprep hswitched hsucceeds hx₁ (hcond x hold' hmem) with
        rfl | hentry
      · exact .inl hafter
      · exact .inr hentry
    · exact .inr hentry

/-- Every operation that keeps track of the addresses leaves no orphan. -/
theorem Accounted.step {s s' : Session} {op : Operation} (hnet : net.Complete)
    (hold : s.Accounted) (htracks : Tracks net s op) (hstep : (system net).step s op = some s') :
    s'.Accounted := by
  refine ⟨(hold.1.step hstep).1, ?_⟩
  cases op with
  | jump faults config =>
    obtain rfl := Option.some.inj hstep
    exact hold.2.jump hnet hold.1 htracks
  | cleanup io =>
    obtain rfl := Option.some.inj hstep
    exact hold.2.of_agesOut hnet (doPeriodicCleanup_spec net io s.manager)
  | remove delFails delAnyFails iface ip =>
    obtain rfl := Option.some.inj hstep
    obtain ⟨p, hages⟩ := removeSecondaryIp_spec net delFails delAnyFails s.manager iface ip
    exact hold.2.of_agesOut hnet hages

/-- **No orphan addresses.** In every run whose jumps keep track of the addresses, with
any failures of the commands, each address that the manager has put on the interface
and that is still there is the target of the latest successful jump or has an entry. -/
theorem no_orphan_addresses (net : Net) (hnet : net.Complete) (s : Session)
    (hreach : (system net).Reaches (Tracks net) s) : s.NoOrphans := by
  have haccounted : s.Accounted := by
    refine hreach.invariant (I := Accounted) ?_ ?_
    · rintro _ ⟨mainInterface, host, rfl, hmain⟩
      exact ⟨hmain, fun a ha => by cases ha⟩
    · intro s op s' hs hok hstep
      exact hs.step hnet hok hstep
  exact haccounted.2

/-- A jump and a cleanup whose deletes fail leave no orphan: the old source is still
there and keeps its entry. -/
theorem no_orphan_addresses_failing_cleanup :
    ∃ s : Session, s.NoOrphans ∧
      s.manager.put = [⟨"eth0", "10.0.0.5", slash24⟩, ⟨"eth0", "10.0.0.6", slash24⟩] ∧
      s.manager.host.addrs = [⟨"eth0", "10.0.0.6", slash24⟩, ⟨"eth0", "10.0.0.5", slash24⟩] := by
  have hexec : ((system Net.dotted).exec oneAddress
      [.jump noFaults jumpToSix, .cleanup quietCleanup,
        .cleanup ⟨fun _ => true, fun _ => true, none, false⟩]).map
        (fun s => (s.manager.put, s.manager.host.addrs)) =
      some ([⟨"eth0", "10.0.0.5", slash24⟩, ⟨"eth0", "10.0.0.6", slash24⟩],
        [⟨"eth0", "10.0.0.6", slash24⟩, ⟨"eth0", "10.0.0.5", slash24⟩]) := by decide
  obtain ⟨s, hexec, hs⟩ := Option.map_eq_some_iff.mp hexec
  have hjump : Tracks Net.dotted oneAddress (.jump noFaults jumpToSix) := by
    intro sourceIp _
    refine ⟨trivial, fun target _ => ?_⟩
    rw [if_pos (by decide)]
    intro t ht
    cases ht
  have hreach : (system Net.dotted).Reaches (Tracks Net.dotted) s := by
    refine (Runs.System.Reaches.init oneAddress_initial).exec ?_ hexec
    exact ⟨hjump, fun _ _ => ⟨trivial, fun _ _ => ⟨trivial, fun _ _ => trivial⟩⟩⟩
  exact ⟨s, no_orphan_addresses Net.dotted Net.dotted_exact.complete s hreach,
    congrArg Prod.fst hs, congrArg Prod.snd hs⟩

/-- A host with addresses in two networks. -/
def twoNetworks : Session :=
  ⟨.new "eth0" ⟨[⟨"eth0", "10.0.0.5", slash24⟩, ⟨"eth0", "192.168.1.5", slash24⟩], none⟩, none⟩

/-- The run ends with an orphan. -/
def leavesOrphan (s : Session) (ops : List Operation) : Bool :=
  ((system Net.dotted).exec s ops).any fun s => !decide s.NoOrphans

/-- Such a run reaches a state with an orphan. -/
theorem exists_orphan {s : Session} {ops : List Operation} (hinit : Initial s)
    (hleaves : leavesOrphan s ops = true) :
    ∃ s, (system Net.dotted).Reachable s ∧ ¬ s.NoOrphans := by
  obtain ⟨s', hexec, horphan⟩ := (Option.any_eq_true _ _).mp hleaves
  refine ⟨s', (Runs.System.Reaches.init hinit).exec (.of_forall (fun _ _ _ => trivial) _) hexec, ?_⟩
  simpa using horphan

/-- Each part of the condition is needed: orphans are left by a jump whose cleanup
cannot delete the old source, by a jump that cannot set the gateway, and by a jump
from another address than the current target. -/
theorem orphans_left :
    (∃ s, (system Net.dotted).Reachable s ∧ ¬ s.NoOrphans) ∧
    leavesOrphan oneAddress
      [.jump noFaults jumpToSix,
        .jump (fun site => site = .cleanupDel 0 || site = .cleanupDelAny 0)
          ⟨"10.0.0.6", "10.0.0.7/24", ""⟩] = true ∧
    leavesOrphan oneAddress
      [.jump (fun site => site = .routeAdd) ⟨"10.0.0.5", "10.0.0.6/24", "10.0.0.1"⟩] = true ∧
    leavesOrphan twoNetworks
      [.jump noFaults jumpToSix, .jump noFaults ⟨"192.168.1.5", "192.168.1.6/24", ""⟩] = true := by
  have hcleanup : leavesOrphan oneAddress
      [.jump noFaults jumpToSix,
        .jump (fun site => site = .cleanupDel 0 || site = .cleanupDelAny 0)
          ⟨"10.0.0.6", "10.0.0.7/24", ""⟩] = true := by decide
  exact ⟨exists_orphan oneAddress_initial hcleanup, hcleanup, by decide, by decide⟩

end LinuxAgent.IpJump.Session
