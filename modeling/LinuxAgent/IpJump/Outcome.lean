import LinuxAgent.IpJump.ManagerSpec

/-!
# The outcomes of a jump

`do_ip_jump_async` has six ways to end. `JumpOutcome` lists them with the conditions
under which each one is reached and the state that it leaves, so that later modules
reason about a jump by cases on its outcome.
-/

namespace LinuxAgent.IpJump

variable {net : Net} {faults : Faults} {m : IpJumpManager} {config : IpJumpConfig}

/-- The route that `set_gateway` leaves behind after its delete command. -/
def routeAfterDel (faultDel : Bool) (route : Option Route) (iface : String) : Option Route :=
  if !faultDel && route.any (·.dev = iface) then none else route

/-- `set_gateway` only works on the route, and fails when a route is left after the
delete or when the environment makes it fail. -/
theorem setGateway_eq (faultDel faultAdd : Bool) (h : Host) (gateway iface : String) :
    setGateway faultDel faultAdd h gateway iface =
      if !faultAdd && (routeAfterDel faultDel h.route iface).isNone then
        ({ h with route := some ⟨some gateway, iface⟩ }, .ok ())
      else
        ({ h with route := routeAfterDel faultDel h.route iface },
          .error s!"set_gateway failed: {(IpCmd.routeAdd gateway iface).error}") := by
  have hdel : attemptIpCmd faultDel h (.routeDel iface) =
      { h with route := routeAfterDel faultDel h.route iface } := by
    cases faultDel with
    | true => rfl
    | false =>
      unfold attemptIpCmd runIpCmd Host.run routeAfterDel
      by_cases hany : h.route.any (·.dev = iface) = true <;> simp [hany]
  unfold setGateway
  rw [hdel]
  generalize routeAfterDel faultDel h.route iface = route
  cases faultAdd <;> cases route <;> simp [runIpCmd, Host.run]

/-- `set_gateway` leaves the addresses alone. -/
theorem setGateway_addrs (faultDel faultAdd : Bool) (h : Host) (gateway iface : String) :
    (setGateway faultDel faultAdd h gateway iface).1.addrs = h.addrs := by
  rw [setGateway_eq]
  split <;> rfl

/-- The gateway step of a jump is not needed or succeeds. -/
def gatewayStepOk (faults : Faults) (route : Option Route) (gateway iface : String) : Bool :=
  Text.isBlank gateway ||
    (!faults .routeAdd && (routeAfterDel (faults .routeDel) route iface).isNone)

/-- The addresses after `restore_backup`. -/
theorem restoreBackup_addrs {h : Host} {a : IfAddr} {netmask : String} {gateway : Option String}
    (hmask : netmaskToPrefix netmask = .ok a.prefixLen) :
    (restoreBackup faults h ⟨a.ip, netmask, gateway, a.iface⟩).addrs =
      if faults .restoreAdd = true ∨ a ∈ h.addrs then h.addrs else h.addrs ++ [a] := by
  have hadd : (attemptIpCmd (faults .restoreAdd) h (.addrAdd a)).addrs =
      if faults .restoreAdd = true ∨ a ∈ h.addrs then h.addrs else h.addrs ++ [a] := by
    unfold attemptIpCmd runIpCmd Host.run
    by_cases hfault : faults .restoreAdd = true <;> by_cases hmem : a ∈ h.addrs <;>
      simp [hfault, hmem]
  simp only [restoreBackup, hmask]
  cases gateway with
  | none => exact hadd
  | some gw => rw [setGateway_addrs]; exact hadd

/-- Which addresses are there after `restore_backup`. -/
theorem mem_restoreBackup {h : Host} {a x : IfAddr} {netmask : String} {gateway : Option String}
    (hmask : netmaskToPrefix netmask = .ok a.prefixLen) :
    x ∈ (restoreBackup faults h ⟨a.ip, netmask, gateway, a.iface⟩).addrs ↔
      x ∈ h.addrs ∨ (faults .restoreAdd = false ∧ x = a) := by
  rw [restoreBackup_addrs hmask]
  cases hfault : faults .restoreAdd with
  | true => simp
  | false =>
    by_cases hmem : a ∈ h.addrs
    · simp only [hmem, or_true, if_true, true_and]
      constructor
      · exact .inl
      · rintro (hx | rfl)
        · exact hx
        · exact hmem
    · simp [hmem]

/-- The route after `restore_backup`. -/
theorem restoreBackup_route {h : Host} {ip netmask iface : String} {p : Fin 33}
    {gateway : Option String} (hmask : netmaskToPrefix netmask = .ok p) :
    (restoreBackup faults h ⟨ip, netmask, gateway, iface⟩).route =
      match gateway with
      | none => h.route
      | some gw =>
        (setGateway (faults .restoreRouteDel) (faults .restoreRouteAdd) h gw iface).1.route := by
  have hroute :
      (attemptIpCmd (faults .restoreAdd) h (.addrAdd ⟨iface, ip, p⟩)).route = h.route := by
    unfold attemptIpCmd runIpCmd Host.run
    by_cases hfault : faults .restoreAdd = true <;>
      by_cases hmem : ⟨iface, ip, p⟩ ∈ h.addrs <;> simp [hfault, hmem]
  simp only [restoreBackup, hmask]
  cases gateway with
  | none => exact hroute
  | some gw =>
    simp only [setGateway_eq, hroute]
    split <;> rfl

/-- The list after `add_secondary_ip`: the entry is refreshed or added. -/
def recordEntry (entry : SecondaryIPInfo) (list : List SecondaryIPInfo) : List SecondaryIPInfo :=
  (refreshTick entry.interface entry.ip entry.addedTick list).getD (list ++ [entry])

/-- Refreshing fails exactly when there is no entry for the address. -/
theorem refreshTick_eq_none {iface ip : String} {tick : ℕ} {list : List SecondaryIPInfo} :
    refreshTick iface ip tick list = none ↔ ∀ e ∈ list, ¬ e.IsFor iface ip := by
  induction list with
  | nil => simp [refreshTick]
  | cons e rest ih =>
    by_cases he : e.IsFor iface ip = true
    · simp [refreshTick, he]
    · simp only [refreshTick, he, if_false, Bool.false_eq_true, Option.map_eq_none_iff, ih,
        List.mem_cons, forall_eq_or_imp, not_false_eq_true, true_and]

/-- The entries after refreshing are the old ones, up to the tick of the address. -/
theorem mem_refreshTick {iface ip : String} {tick : ℕ} {list list' : List SecondaryIPInfo}
    (href : refreshTick iface ip tick list = some list') :
    (∀ x ∈ list', x ∈ list ∨ (x.IsFor iface ip = true ∧ x.addedTick = tick)) ∧
      ∀ x ∈ list, ∃ y ∈ list', y.interface = x.interface ∧ y.ip = x.ip := by
  induction list generalizing list' with
  | nil => cases href
  | cons e rest ih =>
    by_cases he : e.IsFor iface ip = true
    · rw [refreshTick, if_pos he, Option.some.injEq] at href
      subst href
      constructor
      · intro x hx
        rcases List.mem_cons.mp hx with rfl | hrest
        · exact .inr ⟨he, rfl⟩
        · exact .inl (List.mem_cons_of_mem _ hrest)
      · intro x hx
        rcases List.mem_cons.mp hx with rfl | hrest
        · exact ⟨_, List.mem_cons_self, rfl, rfl⟩
        · exact ⟨x, List.mem_cons_of_mem _ hrest, rfl, rfl⟩
    · rw [refreshTick, if_neg he] at href
      obtain ⟨rest', hrest', rfl⟩ := Option.map_eq_some_iff.mp href
      obtain ⟨hold, hkeep⟩ := ih hrest'
      constructor
      · intro x hx
        rcases List.mem_cons.mp hx with rfl | hx
        · exact .inl List.mem_cons_self
        · exact (hold x hx).imp_left (List.mem_cons_of_mem _)
      · intro x hx
        rcases List.mem_cons.mp hx with rfl | hx
        · exact ⟨_, List.mem_cons_self, rfl, rfl⟩
        · obtain ⟨y, hy, heq⟩ := hkeep x hx
          exact ⟨y, List.mem_cons_of_mem _ hy, heq⟩

/-- An entry of the list after recording is an old one or is for the recorded address. -/
theorem mem_recordEntry {entry x : SecondaryIPInfo} {list : List SecondaryIPInfo}
    (hx : x ∈ recordEntry entry list) :
    x ∈ list ∨ (x.IsFor entry.interface entry.ip = true ∧ x.addedTick = entry.addedTick) := by
  unfold recordEntry at hx
  cases href : refreshTick entry.interface entry.ip entry.addedTick list with
  | some list' =>
    rw [href, Option.getD_some] at hx
    exact (mem_refreshTick href).1 x hx
  | none =>
    rw [href, Option.getD_none] at hx
    rcases List.mem_append.mp hx with hx | hx
    · exact .inl hx
    · obtain rfl := List.mem_singleton.mp hx
      exact .inr ⟨by simp [SecondaryIPInfo.IsFor], rfl⟩

/-- Recording keeps an entry for every address that had one. -/
theorem exists_recordEntry {x : SecondaryIPInfo} {list : List SecondaryIPInfo}
    (entry : SecondaryIPInfo) (hx : x ∈ list) :
    ∃ y ∈ recordEntry entry list, y.interface = x.interface ∧ y.ip = x.ip := by
  unfold recordEntry
  cases href : refreshTick entry.interface entry.ip entry.addedTick list with
  | some list' => exact (mem_refreshTick href).2 x hx
  | none => exact ⟨x, List.mem_append_left _ hx, rfl, rfl⟩

/-- The recorded address has an entry. -/
theorem exists_recordEntry_self (entry : SecondaryIPInfo) (list : List SecondaryIPInfo) :
    ∃ y ∈ recordEntry entry list, y.interface = entry.interface ∧ y.ip = entry.ip := by
  by_cases hex : ∃ x ∈ list, x.IsFor entry.interface entry.ip = true
  · obtain ⟨x, hx, hfor⟩ := hex
    obtain ⟨y, hy, hiface, hip⟩ := exists_recordEntry entry hx
    simp only [SecondaryIPInfo.IsFor, Bool.and_eq_true, decide_eq_true_eq] at hfor
    exact ⟨y, hy, hiface.trans hfor.1, hip.trans hfor.2⟩
  · have hnone : refreshTick entry.interface entry.ip entry.addedTick list = none :=
      refreshTick_eq_none.mpr fun x hx hfor => hex ⟨x, hx, hfor⟩
    exact ⟨entry, by simp [recordEntry, hnone], rfl, rfl⟩

/-- `add_secondary_ip` records the entry and puts the address on the interface at most. -/
theorem addSecondaryIp_fst (net : Net) (fault : Bool) (m : IpJumpManager) (a : IfAddr)
    (netmask : String) (tick : ℕ) :
    ∃ new, (new = [] ∨ new = [a]) ∧
      (addSecondaryIp net fault m a.iface a.ip netmask a.prefixLen tick).1 =
        { m with
          secondaryIps := recordEntry ⟨a.iface, a.ip, netmask, a.prefixLen, tick⟩ m.secondaryIps
          host := { m.host with addrs := m.host.addrs ++ new }
          put := new ++ m.put } := by
  unfold addSecondaryIp recordEntry
  cases href : refreshTick a.iface a.ip tick m.secondaryIps with
  | some list => exact ⟨[], .inl rfl, by simp⟩
  | none =>
    dsimp only
    split
    · exact ⟨[], .inl rfl, by simp⟩
    · cases hrun : runIpCmd fault m.host (.addrAdd ⟨a.iface, a.ip, a.prefixLen⟩) with
      | error e => exact ⟨[], .inl rfl, by simp⟩
      | ok h =>
        obtain ⟨-, hadd⟩ := runIpCmd_eq_ok.mp hrun
        obtain ⟨-, rfl⟩ := Host.run_addrAdd.mp hadd
        exact ⟨[a], .inr rfl, by simp⟩

/-- The lookups of a jump have succeeded: `a` is the selected source, `t` the target,
`m₁` the manager after `cleanup_old_secondary`. -/
structure Prepared (net : Net) (faults : Faults) (m : IpJumpManager) (config : IpJumpConfig)
    (a t : IfAddr) (m₁ : IpJumpManager) (backup : NetworkBackup) : Prop where
  /-- The text of the source is the one that `get_primary_ip` selects. -/
  source : getPrimaryIp net faults m config.sourceIp = .ok a.ip
  /-- The source is the first address with that text. -/
  first : m.host.FirstWith a.ip a
  /-- Other secondary addresses have been cleaned up. -/
  cleaned : m₁ = cleanupOldSecondary net faults m a.ip
  /-- The addresses could be listed for the backup. -/
  shown : faults .backupShow = false
  /-- The target of the configuration. -/
  target : parseCidr net config.targetIp = .ok (t.ip, t.prefixLen)
  /-- It goes to the interface of the source. -/
  iface : t.iface = a.iface
  /-- The backup of the source. -/
  backup : backupInterface faults m₁.host a.ip = .ok backup

/-- The source has been replaced by the target and recorded as a secondary address. -/
structure Switched (faults : Faults) (m₁ : IpJumpManager) (a t : IfAddr) (m₂ : IpJumpManager) :
    Prop where
  /-- The delete of the source was not made to fail. -/
  del : faults .addrDel = false
  /-- The add of the target was not made to fail. -/
  add : faults .addrAdd = false
  /-- The target was not on the interface. -/
  free : t ∉ m₁.host.addrs.erase a
  /-- The source may have been added again. -/
  result : ∃ new netmask, (new = [] ∨ new = [a]) ∧
    m₂ = { m₁ with
      tickCounter := (m₁.tickCounter + 1) % UInt64.size
      secondaryIps := recordEntry
        ⟨a.iface, a.ip, netmask, a.prefixLen, (m₁.tickCounter + 1) % UInt64.size⟩ m₁.secondaryIps
      host := { m₁.host with addrs := m₁.host.addrs.erase a ++ [t] ++ new }
      put := new ++ t :: m₁.put }

/-- The ways in which `do_ip_jump_async` can end, with the manager it leaves and its result. -/
inductive JumpOutcome (net : Net) (faults : Faults) (m : IpJumpManager) (config : IpJumpConfig) :
    IpJumpManager → Except String PutIpJumpInfo → Prop
  /-- No source was found. -/
  | noSource {e : String} : getPrimaryIp net faults m config.sourceIp = .error e →
      JumpOutcome net faults m config m (.error e)
  /-- The backup or the target could not be read. -/
  | unprepared {sourceIp e : String} : getPrimaryIp net faults m config.sourceIp = .ok sourceIp →
      (faults .backupShow = true ∨ ∃ e, parseCidr net config.targetIp = .error e) →
      JumpOutcome net faults m config (cleanupOldSecondary net faults m sourceIp) (.error e)
  /-- The source could not be deleted. -/
  | delFails {a t : IfAddr} {m₁ : IpJumpManager} {backup : NetworkBackup} {e : String} :
      Prepared net faults m config a t m₁ backup → faults .addrDel = true →
      JumpOutcome net faults m config { m₁ with host := restoreBackup faults m₁.host backup }
        (.error e)
  /-- The target could not be added. -/
  | addFails {a t : IfAddr} {m₁ : IpJumpManager} {backup : NetworkBackup} {e : String} :
      Prepared net faults m config a t m₁ backup → faults .addrDel = false →
      (faults .addrAdd = true ∨ t ∈ m₁.host.addrs.erase a) →
      JumpOutcome net faults m config
        { m₁ with
          host := restoreBackup faults { m₁.host with addrs := m₁.host.addrs.erase a } backup }
        (.error e)
  /-- The gateway could not be set. -/
  | gatewayFails {a t : IfAddr} {m₁ m₂ : IpJumpManager} {backup : NetworkBackup} {e : String} :
      Prepared net faults m config a t m₁ backup → Switched faults m₁ a t m₂ →
      gatewayStepOk faults m₁.host.route config.gateway a.iface = false →
      JumpOutcome net faults m config
        { m₂ with
          host := restoreBackup faults
            { m₂.host with route := routeAfterDel (faults .routeDel) m₁.host.route a.iface }
            backup }
        (.error e)
  /-- The jump has succeeded. -/
  | done {a t : IfAddr} {m₁ m₂ : IpJumpManager} {backup : NetworkBackup} {route : Option Route}
      {info : PutIpJumpInfo} :
      Prepared net faults m config a t m₁ backup → Switched faults m₁ a t m₂ →
      gatewayStepOk faults m₁.host.route config.gateway a.iface = true →
      JumpOutcome net faults m config { m₂ with host := { m₂.host with route := route } } (.ok info)

/-- The cleanup of a prepared jump. -/
theorem Prepared.cleansUp {a t : IfAddr} {m₁ : IpJumpManager} {backup : NetworkBackup}
    (hprep : Prepared net faults m config a t m₁ backup) : CleansUp a.ip m m₁ := by
  rw [hprep.cleaned]
  exact cleanupOldSecondary_spec net faults m a.ip

/-- The source of a prepared jump is still there. -/
theorem Prepared.mem {a t : IfAddr} {m₁ : IpJumpManager} {backup : NetworkBackup}
    (hprep : Prepared net faults m config a t m₁ backup) : a ∈ m₁.host.addrs :=
  (hprep.cleansUp.firstWith.mpr hprep.first).mem.1

/-- The lookups of a jump do not change the route. -/
theorem Prepared.route {a t : IfAddr} {m₁ : IpJumpManager} {backup : NetworkBackup}
    (hprep : Prepared net faults m config a t m₁ backup) : m₁.host.route = m.host.route := by
  rw [hprep.cleansUp.rest]

/-- The backup of a prepared jump holds the source, its netmask and the gateway. -/
theorem Prepared.exists_netmask {a t : IfAddr} {m₁ : IpJumpManager} {backup : NetworkBackup}
    (hprep : Prepared net faults m config a t m₁ backup) :
    ∃ netmask, netmaskToPrefix netmask = .ok a.prefixLen ∧
      backup = ⟨a.ip, netmask, (getDefaultGateway faults m₁.host).toOption, a.iface⟩ := by
  obtain ⟨netmask, hmask, hbackup⟩ :=
    backupInterface_eq_ok hprep.shown (hprep.cleansUp.firstWith.mpr hprep.first)
  exact ⟨netmask, hmask, Except.ok.inj (hprep.backup.symm.trans hbackup)⟩

/-- The addresses after restoring the backup of a prepared jump. -/
theorem Prepared.mem_restoreBackup {a t x : IfAddr} {m₁ : IpJumpManager} {backup : NetworkBackup}
    {h : Host} (hprep : Prepared net faults m config a t m₁ backup) :
    x ∈ (restoreBackup faults h backup).addrs ↔
      x ∈ h.addrs ∨ (faults .restoreAdd = false ∧ x = a) := by
  obtain ⟨netmask, hmask, rfl⟩ := hprep.exists_netmask
  exact IpJump.mem_restoreBackup hmask

/-- Every address after the switch was there before or is on the interface of the source. -/
theorem Switched.mem_or {a t x : IfAddr} {m₁ m₂ : IpJumpManager} {backup : NetworkBackup}
    (hswitched : Switched faults m₁ a t m₂) (hprep : Prepared net faults m config a t m₁ backup)
    (hx : x ∈ m₂.host.addrs) : x ∈ m.host.addrs ∨ ∃ a ∈ m.host.addrs, x.iface = a.iface := by
  obtain ⟨new, netmask, hnew, rfl⟩ := hswitched.result
  rcases List.mem_append.mp hx with hx | hx
  · rcases List.mem_append.mp hx with hx | hx
    · exact .inl (hprep.cleansUp.sublist.subset (List.mem_of_mem_erase hx))
    · rw [List.mem_singleton.mp hx]
      exact .inr ⟨a, hprep.first.mem.1, hprep.iface⟩
  · rcases hnew with rfl | rfl
    · cases hx
    · rw [List.mem_singleton.mp hx]
      exact .inl hprep.first.mem.1

/-- After the switch every entry is for the source. -/
theorem Switched.ip_of_mem {a t : IfAddr} {m₁ m₂ : IpJumpManager} {backup : NetworkBackup}
    {e : SecondaryIPInfo} (hswitched : Switched faults m₁ a t m₂)
    (hprep : Prepared net faults m config a t m₁ backup) (he : e ∈ m₂.secondaryIps) :
    e.ip = a.ip := by
  obtain ⟨new, netmask, -, rfl⟩ := hswitched.result
  rcases mem_recordEntry he with hold | ⟨hfor, -⟩
  · rw [hprep.cleansUp.entries] at hold
    simpa using (List.mem_filter.mp hold).2
  · simp only [SecondaryIPInfo.IsFor, Bool.and_eq_true, decide_eq_true_eq] at hfor
    exact hfor.2

/-- Every address after a jump was there before or is on the interface of the source. -/
theorem JumpOutcome.mem {m' : IpJumpManager} {result : Except String PutIpJumpInfo} {x : IfAddr}
    (hout : JumpOutcome net faults m config m' result) (hx : x ∈ m'.host.addrs) :
    x ∈ m.host.addrs ∨ ∃ a ∈ m.host.addrs, x.iface = a.iface := by
  cases hout with
  | noSource _ => exact .inl hx
  | unprepared _ _ => exact .inl ((cleanupOldSecondary_spec net faults m _).sublist.subset hx)
  | delFails hprep _ =>
    rcases hprep.mem_restoreBackup.mp hx with hx | ⟨-, rfl⟩
    · exact .inl (hprep.cleansUp.sublist.subset hx)
    · exact .inl hprep.first.mem.1
  | addFails hprep _ _ =>
    rcases hprep.mem_restoreBackup.mp hx with hx | ⟨-, rfl⟩
    · exact .inl (hprep.cleansUp.sublist.subset (List.mem_of_mem_erase hx))
    · exact .inl hprep.first.mem.1
  | gatewayFails hprep hswitched _ =>
    rcases hprep.mem_restoreBackup.mp hx with hx | ⟨-, rfl⟩
    · exact hswitched.mem_or hprep hx
    · exact .inl hprep.first.mem.1
  | done hprep hswitched _ => exact hswitched.mem_or hprep hx

/-- A jump keeps the main interface. -/
theorem JumpOutcome.mainInterface {m' : IpJumpManager} {result : Except String PutIpJumpInfo}
    (hout : JumpOutcome net faults m config m' result) : m'.mainInterface = m.mainInterface := by
  have hclean (ip : String) :
      (cleanupOldSecondary net faults m ip).mainInterface = m.mainInterface := by
    rw [(cleanupOldSecondary_spec net faults m ip).rest]
  cases hout with
  | noSource _ => rfl
  | unprepared _ _ => exact hclean _
  | delFails hprep _ => rw [hprep.cleaned]; exact hclean _
  | addFails hprep _ _ => rw [hprep.cleaned]; exact hclean _
  | gatewayFails hprep hswitched _ =>
    obtain ⟨new, netmask, -, rfl⟩ := hswitched.result
    rw [hprep.cleaned]
    exact hclean _
  | done hprep hswitched _ =>
    obtain ⟨new, netmask, -, rfl⟩ := hswitched.result
    rw [hprep.cleaned]
    exact hclean _

/-- What replacing the address does once the lookups have succeeded. -/
theorem Prepared.replaceAddress_cases {a t : IfAddr} {m₁ : IpJumpManager} {backup : NetworkBackup}
    (hprep : Prepared net faults m config a t m₁ backup) :
    (faults .addrDel = true ∧ ∃ e, replaceAddress net faults m₁ config a.ip =
      ({ m₁ with host := restoreBackup faults m₁.host backup }, .error e)) ∨
    (faults .addrDel = false ∧ (faults .addrAdd = true ∨ t ∈ m₁.host.addrs.erase a) ∧
      ∃ e, replaceAddress net faults m₁ config a.ip =
        ({ m₁ with
          host := restoreBackup faults { m₁.host with addrs := m₁.host.addrs.erase a } backup },
          .error e)) ∨
    (faults .addrDel = false ∧ faults .addrAdd = false ∧ t ∉ m₁.host.addrs.erase a ∧
      replaceAddress net faults m₁ config a.ip =
        ({ m₁ with
          host := { m₁.host with addrs := m₁.host.addrs.erase a ++ [t] }, put := t :: m₁.put },
          .ok (backup, a.prefixLen))) := by
  have htarget : (⟨a.iface, t.ip, t.prefixLen⟩ : IfAddr) = t := by rw [← hprep.iface]
  have hrun : m₁.host.run (.addrDel a.iface a.ip (some a.prefixLen.val)) =
      some { m₁.host with addrs := m₁.host.addrs.erase a } := by
    rw [Host.run_addrDel, eraseP_named_some]
    exact ⟨⟨a, hprep.mem, IfAddr.named_some_iff.mpr rfl⟩, rfl⟩
  unfold replaceAddress
  rw [hprep.backup]
  obtain ⟨netmask, hmask, rfl⟩ := hprep.exists_netmask
  simp only [hmask, hprep.target, htarget]
  cases hdel : faults .addrDel with
  | true =>
    simp only [runIpCmd, if_true]
    exact .inl ⟨trivial, _, rfl⟩
  | false =>
    simp only [runIpCmd, hrun, Bool.false_eq_true, if_false, true_and]
    cases hadd : faults .addrAdd with
    | true =>
      simp only [if_true]
      exact .inr (.inl ⟨.inl trivial, _, rfl⟩)
    | false =>
      simp only [Bool.false_eq_true, if_false, Host.run, false_or]
      by_cases hfree : t ∈ m₁.host.addrs.erase a
      · simp only [hfree, if_true]
        exact .inr (.inl ⟨trivial, _, rfl⟩)
      · simp only [hfree, if_false]
        exact .inr (.inr ⟨trivial, not_false, trivial⟩)

/-- The outcomes of the part of a jump after the target has been added. -/
theorem finishJump_outcome {a t : IfAddr} {m₁ : IpJumpManager} {backup : NetworkBackup}
    (hprep : Prepared net faults m config a t m₁ backup)
    (hdel : faults .addrDel = false) (hadd : faults .addrAdd = false)
    (hfree : t ∉ m₁.host.addrs.erase a) :
    let result := finishJump net faults
      { m₁ with host := { m₁.host with addrs := m₁.host.addrs.erase a ++ [t] }, put := t :: m₁.put }
      config a.ip backup a.prefixLen
    JumpOutcome net faults m config result.1 result.2 := by
  obtain ⟨netmask, hmask, rfl⟩ := hprep.exists_netmask
  obtain ⟨new, hnew, hsecondary⟩ := addSecondaryIp_fst net (faults .secondaryAdd)
    { m₁ with
      tickCounter := (m₁.tickCounter + 1) % UInt64.size
      host := { m₁.host with addrs := m₁.host.addrs.erase a ++ [t] }, put := t :: m₁.put }
    a netmask ((m₁.tickCounter + 1) % UInt64.size)
  have hswitched := Switched.mk hdel hadd hfree ⟨new, netmask, hnew, rfl⟩
  simp only [finishJump, concludeJump, incrementTick, hsecondary]
  by_cases hblank : Text.isBlank config.gateway = true
  · simp only [hblank, if_true]
    exact .done hprep hswitched (by simp [gatewayStepOk, hblank])
  · simp only [hblank, if_false, Bool.false_eq_true, setGateway_eq]
    by_cases hok : (!faults .routeAdd &&
        (routeAfterDel (faults .routeDel) m₁.host.route a.iface).isNone) = true
    · simp only [hok, if_true]
      exact .done hprep hswitched (by simp only [gatewayStepOk, hok, Bool.or_true])
    · simp only [hok, if_false, Bool.false_eq_true]
      refine .gatewayFails hprep hswitched ?_
      rw [gatewayStepOk, Bool.eq_false_iff.mpr hblank, Bool.eq_false_iff.mpr hok, Bool.or_false]

/-- Every call of `do_ip_jump_async` ends in one of the outcomes. -/
theorem doIpJumpAsync_outcome (net : Net) (faults : Faults) (m : IpJumpManager)
    (config : IpJumpConfig) :
    JumpOutcome net faults m config (doIpJumpAsync net faults m config).1
      (doIpJumpAsync net faults m config).2 := by
  unfold doIpJumpAsync
  cases hsource : getPrimaryIp net faults m config.sourceIp with
  | error e => exact .noSource hsource
  | ok sourceIp =>
    have hclean := cleanupOldSecondary_spec net faults m sourceIp
    obtain ⟨a, hfirst⟩ := (getPrimaryIp_has hsource).exists_firstWith
    obtain ⟨-, rfl⟩ := hfirst.mem
    dsimp only
    cases hshown : faults .backupShow with
    | true =>
      simp only [replaceAddress, backupInterface, hshown, if_true]
      exact .unprepared hsource (.inl hshown)
    | false =>
      obtain ⟨netmask, hmask, hbackup⟩ :=
        backupInterface_eq_ok hshown (hclean.firstWith.mpr hfirst)
      cases htarget : parseCidr net config.targetIp with
      | error e =>
        simp only [replaceAddress, hbackup, hmask, htarget]
        exact .unprepared hsource (.inr ⟨e, htarget⟩)
      | ok target =>
        have hprep : Prepared net faults m config a ⟨a.iface, target.1, target.2⟩ _ _ :=
          ⟨hsource, hfirst, rfl, hshown, htarget, rfl, hbackup⟩
        rcases hprep.replaceAddress_cases with
          ⟨hdel, e, heq⟩ | ⟨hdel, hadd, e, heq⟩ | ⟨hdel, hadd, hfree, heq⟩
        · rw [heq]
          exact .delFails hprep hdel
        · rw [heq]
          exact .addFails hprep hdel hadd
        · rw [heq]
          exact finishJump_outcome hprep hdel hadd hfree

end LinuxAgent.IpJump
