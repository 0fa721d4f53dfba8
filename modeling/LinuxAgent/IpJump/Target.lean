import LinuxAgent.IpJump.Operations

/-!
# The current target is not aged out

After a successful jump the host depends on the target address. The manager ages
out only addresses that have an entry, so the target is safe as long as it has
none. A jump that takes its own source as the target, which happens when the same
instruction is executed again, gives it one.
-/

namespace LinuxAgent.IpJump

/-- The site is a command on the default route. -/
def Site.OnRoute : Site → Prop
  | .routeShow | .routeDel | .routeAdd | .restoreRouteDel | .restoreRouteAdd => True
  | _ => False

/-- The operation is a jump or a cleanup, and its commands on addresses succeed. -/
def Operation.AddrExact : Operation → Prop
  | .jump faults _ => ∀ site, ¬ site.OnRoute → faults site = false
  | .cleanup io => (∀ i, io.delFails i = false) ∧ ∀ i, io.delAnyFails i = false
  | .remove .. => False

namespace Session

variable {net : Net}

/-- The target `t` is on the main interface, has no entry and survives every cleanup. -/
structure TargetSafe (net : Net) (m : IpJumpManager) (t : IfAddr) : Prop where
  /-- It is on the main interface. -/
  main : t.iface = m.mainInterface
  /-- It is on the host. -/
  present : t ∈ m.host.addrs
  /-- It is not an entry of `secondary_ips`. -/
  unlisted : ∀ e ∈ m.secondaryIps, ¬ e.IsFor m.mainInterface t.ip
  /-- No `do_periodic_cleanup` removes it. -/
  periodic : ∀ io, t ∈ (doPeriodicCleanup net io m).host.addrs
  /-- No `cleanup_old_secondary` removes it. -/
  cleanup : ∀ faults keepIp, t ∈ (cleanupOldSecondary net faults m keepIp).host.addrs

/-- An address on the main interface without an entry is safe. -/
theorem TargetSafe.of_unlisted {m : IpJumpManager} {t : IfAddr} (hmain : t.iface = m.mainInterface)
    (hpresent : t ∈ m.host.addrs)
    (hunlisted : ∀ e ∈ m.secondaryIps, ¬ e.IsFor m.mainInterface t.ip) :
    TargetSafe net m t := by
  have hno : ∀ e ∈ m.secondaryIps, ¬ e.IsFor t.iface t.ip := by
    rw [hmain]
    exact hunlisted
  refine ⟨hmain, hpresent, hunlisted, fun io => mem_doPeriodicCleanup hpresent hno, ?_⟩
  intro faults keepIp
  exact (cleanupOldSecondary_spec net faults m keepIp).unlisted t hpresent hno

/-- A jump does not make an entry for a target: when its gateway step succeeds, the
source that it selects is not its own target, and when its gateway step fails, that
source is not the current target. -/
def KeepsTarget (net : Net) (s : Session) : Operation → Prop
  | .jump faults config =>
    ∀ sourceIp target, getPrimaryIp net faults s.manager config.sourceIp = .ok sourceIp →
      parseCidr net config.targetIp = .ok target →
      if gatewayStepOk faults s.manager.host.route config.gateway s.manager.mainInterface = true
      then
        sourceIp ≠ target.1
      else ∀ t, s.target = some t → sourceIp ≠ t.ip
  | _ => True

/-- The current target is safe. -/
def Safe (net : Net) (s : Session) : Prop :=
  OnMain s.manager ∧ ∀ t, s.target = some t → TargetSafe net s.manager t

/-- A failed jump that ends before the switch keeps an address without an entry. -/
theorem TargetSafe.of_cleansUp {m m' : IpJumpManager} {keepIp : String} {h : Host} {t : IfAddr}
    (hsafe : TargetSafe net m t) (hclean : CleansUp keepIp m m') (ht : t ∈ h.addrs) :
    TargetSafe net { m' with host := h } t := by
  have hinterface : m'.mainInterface = m.mainInterface := by rw [hclean.rest]
  refine .of_unlisted ?_ ht ?_
  · rw [hsafe.main]
    exact hinterface.symm
  · intro e he
    rw [hclean.entries] at he
    simp only [hinterface]
    exact hsafe.unlisted e (List.mem_filter.mp he).1

/-- After the switch, and any restoring, every address but the source is safe. -/
theorem TargetSafe.of_switched {faults : Faults} {config : IpJumpConfig} {m m₁ m₂ : IpJumpManager}
    {a t x : IfAddr} {backup : NetworkBackup} {h : Host}
    (hprep : Prepared net faults m config a t m₁ backup) (hswitched : Switched faults m₁ a t m₂)
    (hmain : x.iface = m.mainInterface) (hx : x ∈ h.addrs) (hne : a.ip ≠ x.ip) :
    TargetSafe net { m₂ with host := h } x := by
  have hentries (e : SecondaryIPInfo) (he : e ∈ m₂.secondaryIps) := hswitched.ip_of_mem hprep he
  have hinterface : m₂.mainInterface = m.mainInterface := by
    obtain ⟨new, netmask, -, rfl⟩ := hswitched.result
    rw [hprep.cleansUp.rest]
  refine .of_unlisted (hmain.trans hinterface.symm) hx ?_
  intro e he hfor
  simp only [SecondaryIPInfo.IsFor, Bool.and_eq_true, decide_eq_true_eq] at hfor
  exact hne ((hentries e he).symm.trans hfor.2)

/-- The lookups of a jump do not remove a safe target. -/
theorem TargetSafe.mem_prepared {faults : Faults} {config : IpJumpConfig} {m m₁ : IpJumpManager}
    {a t x : IfAddr} {backup : NetworkBackup} (hsafe : TargetSafe net m x)
    (hprep : Prepared net faults m config a t m₁ backup) : x ∈ m₁.host.addrs := by
  rw [hprep.cleaned]
  exact hsafe.cleanup faults a.ip

/-- A jump keeps the target safe. -/
theorem Safe.jump {s : Session} {faults : Faults} {config : IpJumpConfig} {t : IfAddr}
    (hsafe : Safe net s) (hrestore : faults .restoreAdd = false)
    (hkeeps : KeepsTarget net s (.jump faults config))
    (ht : s.targetAfter net config (doIpJumpAsync net faults s.manager config).2 = some t) :
    TargetSafe net (doIpJumpAsync net faults s.manager config).1 t := by
  obtain ⟨hmain, htarget⟩ := hsafe
  have hout := doIpJumpAsync_outcome net faults s.manager config
  generalize doIpJumpAsync net faults s.manager config = result at hout ht ⊢
  obtain ⟨m', result⟩ := result
  cases hout with
  | noSource _ => exact htarget t ht
  | unprepared _ _ =>
    have hold := htarget t ht
    exact hold.of_cleansUp (cleanupOldSecondary_spec net faults s.manager _) (hold.cleanup _ _)
  | delFails hprep _ =>
    have hold := htarget t ht
    have hkept := hold.mem_prepared hprep
    exact hold.of_cleansUp hprep.cleansUp (hprep.mem_restoreBackup.mpr (.inl hkept))
  | @addFails a _ _ _ _ hprep _ _ =>
    have hold := htarget t ht
    have hkept := hold.mem_prepared hprep
    refine hold.of_cleansUp hprep.cleansUp (hprep.mem_restoreBackup.mpr ?_)
    by_cases hta : t = a
    · exact .inr ⟨hrestore, hta⟩
    · exact .inl ((List.mem_erase_of_ne hta).mpr hkept)
  | @gatewayFails a _ _ _ _ _ hprep hswitched hfails =>
    have hold := htarget t ht
    have hkept := hold.mem_prepared hprep
    have hne : a.ip ≠ t.ip := by
      have hcond := hkeeps a.ip _ hprep.source hprep.target
      rw [hprep.route, hmain a hprep.first.mem.1] at hfails
      rw [if_neg (by simp [hfails])] at hcond
      exact hcond t ht
    refine .of_switched hprep hswitched hold.main (hprep.mem_restoreBackup.mpr (.inl ?_)) hne
    obtain ⟨new, netmask, -, rfl⟩ := hswitched.result
    have herase := (List.mem_erase_of_ne (fun heq => hne (congrArg IfAddr.ip heq).symm)).mpr hkept
    exact List.mem_append_left _ (List.mem_append_left _ herase)
  | @done a t' _ _ _ _ _ hprep hswitched hgateway =>
    have hiface : t'.iface = s.manager.mainInterface :=
      hprep.iface.trans (hmain a hprep.first.mem.1)
    have hnew : t' = t := by
      simp only [targetAfter, hprep.target, ← hiface, Option.some.injEq] at ht
      exact ht
    subst hnew
    have hne : a.ip ≠ t'.ip := by
      have hcond := hkeeps a.ip _ hprep.source hprep.target
      rw [hprep.route, hmain a hprep.first.mem.1] at hgateway
      rwa [if_pos hgateway] at hcond
    refine .of_switched hprep hswitched hiface ?_ hne
    obtain ⟨new, netmask, -, rfl⟩ := hswitched.result
    exact List.mem_append_left _ (List.mem_append_right _ List.mem_cons_self)

/-- Every operation that keeps the target keeps it safe. -/
theorem Safe.step {s s' : Session} {op : Operation} (hsafe : Safe net s) (hexact : op.AddrExact)
    (hkeeps : KeepsTarget net s op) (hstep : (system net).step s op = some s') : Safe net s' := by
  refine ⟨(hsafe.1.step hstep).1, ?_⟩
  cases op with
  | jump faults config =>
    obtain rfl := Option.some.inj hstep
    intro t ht
    exact hsafe.jump (hexact .restoreAdd (by simp [Site.OnRoute])) hkeeps ht
  | cleanup io =>
    obtain rfl := Option.some.inj hstep
    intro t ht
    have hold := hsafe.2 t ht
    have hages := doPeriodicCleanup_spec net io s.manager
    refine .of_unlisted (hold.main.trans hages.rest.1.symm) (hold.periodic io) ?_
    intro e he
    rw [hages.rest.1]
    exact hold.unlisted e (hages.entries.subset he)
  | remove delFails delAnyFails iface ip => exact hexact.elim

/-- A successful jump leaves an entry for the source that it selects. -/
theorem exists_entry_of_jump {faults : Faults} {config : IpJumpConfig} {m : IpJumpManager}
    {sourceIp : String} {info : PutIpJumpInfo} (hmain : OnMain m)
    (hsource : getPrimaryIp net faults m config.sourceIp = .ok sourceIp)
    (hok : (doIpJumpAsync net faults m config).2 = .ok info) :
    ∃ e ∈ (doIpJumpAsync net faults m config).1.secondaryIps, e.IsFor m.mainInterface sourceIp := by
  have hout := doIpJumpAsync_outcome net faults m config
  generalize doIpJumpAsync net faults m config = result at hout hok ⊢
  obtain ⟨m', result⟩ := result
  obtain rfl : result = .ok info := hok
  cases hout with
  | @done a _ _ _ _ _ _ hprep hswitched _ =>
    obtain rfl : a.ip = sourceIp := Except.ok.inj (hprep.source.symm.trans hsource)
    obtain ⟨new, netmask, -, rfl⟩ := hswitched.result
    obtain ⟨e, he, hiface, hip⟩ := exists_recordEntry_self
      ⟨a.iface, a.ip, netmask, a.prefixLen, (_ + 1) % UInt64.size⟩ _
    refine ⟨e, he, ?_⟩
    simp [SecondaryIPInfo.IsFor, hiface, hip, hmain a hprep.first.mem.1]

/-- **The current target is never aged out.** In every run of jumps and cleanups whose
commands on addresses succeed and whose jumps keep the target, the target of the
latest successful jump is on the main interface, has no entry and is removed by no
cleanup. The condition is needed: a successful jump to the source that it selects
leaves a target that has an entry. -/
theorem target_never_aged_out (net : Net) (s : Session) :
    ((system net).Reaches (fun s op => op.AddrExact ∧ KeepsTarget net s op) s →
      ∀ t, s.target = some t → TargetSafe net s.manager t) ∧
    ∀ faults config sourceIp target info s', OnMain s.manager →
      getPrimaryIp net faults s.manager config.sourceIp = .ok sourceIp →
      parseCidr net config.targetIp = .ok target → sourceIp = target.1 →
      (doIpJumpAsync net faults s.manager config).2 = .ok info →
      (system net).step s (.jump faults config) = some s' →
      ∃ t, s'.target = some t ∧ ¬ TargetSafe net s'.manager t := by
  constructor
  · intro hreach
    have hsafe : Safe net s := by
      refine hreach.invariant (I := Safe net) ?_ ?_
      · rintro _ ⟨mainInterface, host, rfl, hmain⟩
        exact ⟨hmain, fun t ht => by cases ht⟩
      · intro s op s' hs hok hstep
        exact hs.step hok.1 hok.2 hstep
    exact hsafe.2
  · intro faults config sourceIp target info s' hmain hsource htarget heq hok hstep
    have hinterface := (hmain.step hstep).2
    obtain ⟨e, he, hfor⟩ := exists_entry_of_jump hmain hsource hok
    obtain rfl := Option.some.inj hstep
    refine ⟨⟨s.manager.mainInterface, target.1, target.2⟩, ?_, ?_⟩
    · simp only [targetAfter, hok, htarget]
    · intro hsafe
      apply hsafe.unlisted e he
      rw [hinterface]
      simpa only [heq] using hfor

/-- The first jump keeps the target. -/
theorem keepsTarget_jumpToSix : KeepsTarget Net.dotted oneAddress (.jump noFaults jumpToSix) := by
  have hsource : getPrimaryIp Net.dotted noFaults oneAddress.manager jumpToSix.sourceIp =
      .ok "10.0.0.5" := by rfl
  have htarget : parseCidr Net.dotted jumpToSix.targetIp = .ok ("10.0.0.6", 24) := by rfl
  intro sourceIp target hs ht
  obtain rfl := Except.ok.inj (hsource.symm.trans hs)
  obtain rfl := Except.ok.inj (htarget.symm.trans ht)
  decide

/-- After one jump and two cleanups the target is safe, and the old source is gone. -/
theorem target_never_aged_out_once :
    ∃ s : Session, TargetSafe Net.dotted s.manager ⟨"eth0", "10.0.0.6", slash24⟩ ∧
      s.target = some ⟨"eth0", "10.0.0.6", slash24⟩ ∧
      s.manager.host.addrs = [⟨"eth0", "10.0.0.6", slash24⟩] := by
  have hexec : ((system Net.dotted).exec oneAddress
      [.jump noFaults jumpToSix, .cleanup quietCleanup, .cleanup quietCleanup]).map
        (fun s => (s.target, s.manager.host.addrs)) =
      some (some ⟨"eth0", "10.0.0.6", slash24⟩, [⟨"eth0", "10.0.0.6", slash24⟩]) := by decide
  obtain ⟨s, hexec, hs⟩ := Option.map_eq_some_iff.mp hexec
  have hcleanup : Operation.AddrExact (.cleanup quietCleanup) := ⟨fun _ => rfl, fun _ => rfl⟩
  have hreach : (system Net.dotted).Reaches
      (fun s op => op.AddrExact ∧ KeepsTarget Net.dotted s op) s := by
    refine (Runs.System.Reaches.init oneAddress_initial).exec ?_ hexec
    refine ⟨⟨fun _ _ => rfl, keepsTarget_jumpToSix⟩, fun _ _ => ?_⟩
    exact ⟨⟨hcleanup, trivial⟩, fun _ _ => ⟨⟨hcleanup, trivial⟩, fun _ _ => trivial⟩⟩
  exact ⟨s, (target_never_aged_out Net.dotted s).1 hreach _ (congrArg Prod.fst hs),
    congrArg Prod.fst hs, congrArg Prod.snd hs⟩

/-- When the jump is executed again, the primary address is the target itself. It
gets an entry, and the second cleanup removes it. -/
theorem reexecuted_target_aged_out :
    ∃ s, (system Net.dotted).Reaches (fun _ op => op.AddrExact) s ∧
      s.target = some ⟨"eth0", "10.0.0.6", slash24⟩ ∧ s.manager.host.addrs = [] := by
  have hexec : ((system Net.dotted).exec oneAddress
      [.jump noFaults jumpToSix, .jump noFaults jumpToSix, .cleanup quietCleanup,
        .cleanup quietCleanup]).map (fun s => (s.target, s.manager.host.addrs)) =
      some (some ⟨"eth0", "10.0.0.6", slash24⟩, []) := by decide
  obtain ⟨s, hexec, hs⟩ := Option.map_eq_some_iff.mp hexec
  refine ⟨s, ?_, congrArg Prod.fst hs, congrArg Prod.snd hs⟩
  refine (Runs.System.Reaches.init oneAddress_initial).exec (Runs.System.Meets.of_forall ?_ _) hexec
  intro op hop _
  simp only [List.mem_cons, List.not_mem_nil, or_false] at hop
  rcases hop with rfl | rfl | rfl | rfl
  · exact fun _ _ => rfl
  · exact fun _ _ => rfl
  · exact ⟨fun _ => rfl, fun _ => rfl⟩
  · exact ⟨fun _ => rfl, fun _ => rfl⟩

end Session

end LinuxAgent.IpJump
