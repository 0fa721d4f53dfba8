import Mathlib.Tactic.ByContra
import Mathlib.Tactic.Tauto
import LinuxAgent.IpJump.Outcome

/-!
# What a failed jump leaves behind

A jump that fails should leave the host as it was. `restore_backup` only brings back
the source address and its gateway: entries dropped by `cleanup_old_secondary` and a
target that is already on the interface stay as they are. The main result says
exactly which jumps roll back.
-/

namespace LinuxAgent.IpJump

variable {net : Net} {faults : Faults} {m : IpJumpManager} {config : IpJumpConfig}

/-- The site is a command of `restore_backup`. -/
def Site.Restores : Site → Prop
  | .restoreAdd | .restoreRouteDel | .restoreRouteAdd => True
  | _ => False

/-- At most one command fails, and none of `restore_backup`. -/
structure SingleFault (faults : Faults) : Prop where
  /-- The commands of `restore_backup` succeed. -/
  restores : ∀ site, site.Restores → faults site = false
  /-- No two commands fail. -/
  single : ∀ x y, faults x = true → faults y = true → x = y

/-- The set of addresses, the default route and the list are the same. -/
def Unchanged (m m' : IpJumpManager) : Prop :=
  (∀ x, x ∈ m'.host.addrs ↔ x ∈ m.host.addrs) ∧ m'.host.route = m.host.route ∧
    m'.secondaryIps = m.secondaryIps

/-- If the jump fails, the addresses, the default route and the list are as before. -/
def RolledBack (net : Net) (faults : Faults) (m : IpJumpManager) (config : IpJumpConfig) : Prop :=
  ∀ e, (doIpJumpAsync net faults m config).2 = .error e →
    Unchanged m (doIpJumpAsync net faults m config).1

/-- The steps of a jump from `a` to `t` up to the add of the target succeed. -/
structure GetsTo (net : Net) (faults : Faults) (m : IpJumpManager) (config : IpJumpConfig)
    (a t : IfAddr) : Prop where
  /-- The addresses can be listed. -/
  shown : faults .backupShow = false
  /-- The target is a CIDR text. -/
  target : parseCidr net config.targetIp = .ok (t.ip, t.prefixLen)
  /-- It goes to the interface of the source. -/
  iface : t.iface = a.iface
  /-- The delete command does not fail. -/
  del : faults .addrDel = false
  /-- The add command does not fail. -/
  add : faults .addrAdd = false
  /-- The target is not left on the interface by the cleanup, apart from the source. -/
  free : t ∉ (cleanupOldSecondary net faults m a.ip).host.addrs.erase a

/-- The condition under which a failed jump from `a` leaves nothing behind: all steps
succeed, or every entry is for the source and the jump fails before the gateway step.
A jump that fails at the gateway step leaves nothing behind when it went from the
source to itself, the entry of the source has the new tick already and the route is
not lost for want of a gateway. -/
def LeavesNothing (net : Net) (faults : Faults) (m : IpJumpManager) (config : IpJumpConfig)
    (a : IfAddr) : Prop :=
  (∃ t, GetsTo net faults m config a t ∧
      gatewayStepOk faults m.host.route config.gateway a.iface = true) ∨
    ((∀ e ∈ m.secondaryIps, e.ip = a.ip) ∧
      ∀ t, GetsTo net faults m config a t →
        gatewayStepOk faults m.host.route config.gateway a.iface = false →
        t = a ∧
          (m.secondaryIps.find? (SecondaryIPInfo.IsFor a.iface a.ip)).map (·.addedTick) =
            some ((m.tickCounter + 1) % UInt64.size) ∧
          ¬ (m.host.route = some ⟨none, a.iface⟩ ∧ faults .routeAdd = true))

/-- The gateway that the backup of a jump remembers. -/
theorem getDefaultGateway_toOption (faults : Faults) (h : Host) :
    (getDefaultGateway faults h).toOption =
      if faults .routeShow = true then none else h.route.bind Route.via := by
  unfold getDefaultGateway
  split
  · rfl
  · cases h.route.bind Route.via <;> rfl

/-- `restore_backup` leaves an unchanged route alone. -/
theorem restoreBackup_route_same {h : Host} {ip netmask iface : String} {p : Fin 33}
    (hfault : SingleFault faults) (hmask : netmaskToPrefix netmask = .ok p) {h' : Host}
    (hroute : h'.route = h.route) :
    (restoreBackup faults h' ⟨ip, netmask, (getDefaultGateway faults h).toOption, iface⟩).route =
      h.route := by
  have hdel := hfault.restores .restoreRouteDel trivial
  have hadd := hfault.restores .restoreRouteAdd trivial
  rw [restoreBackup_route hmask, getDefaultGateway_toOption]
  cases hshow : faults .routeShow with
  | true => exact hroute
  | false =>
    cases hr : h.route with
    | none => simp [hroute, hr]
    | some r =>
      obtain ⟨via, dev⟩ := r
      cases via with
      | none => simp [hroute, hr]
      | some gw =>
        by_cases hdev : dev = iface <;>
          simp [setGateway_eq, routeAfterDel, hdel, hadd, hroute, hr, hdev]

/-- After a failed gateway step `restore_backup` brings the route back, unless it had
no gateway and was deleted. -/
theorem restoreBackup_route_gateway {h h' : Host} {ip netmask iface gateway : String} {p : Fin 33}
    (hfault : SingleFault faults) (hmask : netmaskToPrefix netmask = .ok p)
    (hfails : gatewayStepOk faults h.route gateway iface = false)
    (hroute : h'.route = routeAfterDel (faults .routeDel) h.route iface) :
    (restoreBackup faults h' ⟨ip, netmask, (getDefaultGateway faults h).toOption, iface⟩).route =
        h.route ↔
      ¬ (h.route = some ⟨none, iface⟩ ∧ faults .routeAdd = true) := by
  by_cases hdeleted : faults .routeDel = false ∧ h.route.any (·.dev = iface) = true
  · obtain ⟨hdel, hany⟩ := hdeleted
    obtain ⟨⟨via, dev⟩, hr, hdev⟩ := (Option.any_eq_true _ _).mp hany
    obtain rfl : dev = iface := by simpa using hdev
    have hnone : h'.route = none := by simp [hroute, routeAfterDel, hdel, hr]
    have hadd : faults .routeAdd = true := by
      simp only [gatewayStepOk, routeAfterDel, hdel, hany, Bool.not_false, Bool.and_self, if_true,
        Option.isNone_none, Bool.and_true, Bool.or_eq_false_iff, Bool.not_eq_false'] at hfails
      exact hfails.2
    have hshow : ¬ faults .routeShow = true := by
      intro hshow
      cases hfault.single _ _ hshow hadd
    have hrestoreDel := hfault.restores .restoreRouteDel trivial
    have hrestoreAdd := hfault.restores .restoreRouteAdd trivial
    rw [restoreBackup_route hmask, getDefaultGateway_toOption, if_neg hshow, hr]
    cases via with
    | none => simp [hnone, hadd]
    | some gw =>
      simp [setGateway_eq, routeAfterDel, hrestoreDel, hrestoreAdd, hnone]
  · have hsame : h'.route = h.route := by
      rw [hroute, routeAfterDel, if_neg]
      simpa only [Bool.and_eq_true, Bool.not_eq_true'] using hdeleted
    rw [restoreBackup_route_same hfault hmask hsame]
    refine iff_of_true rfl ?_
    rintro ⟨hr, hadd⟩
    refine hdeleted ⟨?_, by simp [hr]⟩
    rw [← Bool.not_eq_true]
    intro hdel
    cases hfault.single _ _ hdel hadd

/-- Refreshing changes nothing exactly when the first entry has the tick already. -/
theorem refreshTick_eq_self {iface ip : String} {tick : ℕ} {list : List SecondaryIPInfo} :
    refreshTick iface ip tick list = some list ↔
      (list.find? (SecondaryIPInfo.IsFor iface ip)).map (·.addedTick) = some tick := by
  induction list with
  | nil => simp [refreshTick]
  | cons e rest ih =>
    cases hfor : e.IsFor iface ip with
    | true =>
      obtain ⟨i, p, n, l, t⟩ := e
      simp [refreshTick, hfor, eq_comm]
    | false =>
      rw [refreshTick, hfor, if_neg Bool.false_ne_true,
        List.find?_cons_of_neg (by simp [hfor]), ← ih]
      simp

/-- Recording changes nothing exactly when the first entry has the tick already. -/
theorem recordEntry_eq_self {entry : SecondaryIPInfo} {list : List SecondaryIPInfo} :
    recordEntry entry list = list ↔
      (list.find? (SecondaryIPInfo.IsFor entry.interface entry.ip)).map (·.addedTick) =
        some entry.addedTick := by
  rw [← refreshTick_eq_self, recordEntry]
  cases refreshTick entry.interface entry.ip entry.addedTick list with
  | none => simp
  | some list' => simp

/-- `cleanup_old_secondary` leaves everything as it was exactly when it has nothing to drop. -/
theorem unchanged_cleanup_iff (net : Net) (faults : Faults) (m : IpJumpManager) (keepIp : String) :
    Unchanged m (cleanupOldSecondary net faults m keepIp) ↔
      ∀ e ∈ m.secondaryIps, e.ip = keepIp := by
  constructor
  · rintro ⟨-, -, hlist⟩
    rw [(cleanupOldSecondary_spec net faults m keepIp).entries, List.filter_eq_self] at hlist
    simpa using hlist
  · intro hkept
    rw [cleanupOldSecondary_of_all_kept hkept]
    exact ⟨fun _ => Iff.rfl, rfl, rfl⟩

/-- A jump that fails before the switch is rolled back exactly when its cleanup had
nothing to drop. -/
theorem Prepared.unchanged_restored_iff {a t : IfAddr} {m₁ : IpJumpManager}
    {backup : NetworkBackup} {h : Host} (hfault : SingleFault faults)
    (hprep : Prepared net faults m config a t m₁ backup) (hroute : h.route = m₁.host.route)
    (haddrs : ∀ x, (x ∈ h.addrs ∨ x = a) ↔ x ∈ m₁.host.addrs) :
    Unchanged m { m₁ with host := restoreBackup faults h backup } ↔
      ∀ e ∈ m.secondaryIps, e.ip = a.ip := by
  rw [← unchanged_cleanup_iff net faults m a.ip, ← hprep.cleaned]
  have hrestore := hfault.restores .restoreAdd trivial
  have hset : ∀ x, x ∈ (restoreBackup faults h backup).addrs ↔ x ∈ m₁.host.addrs := by
    intro x
    rw [hprep.mem_restoreBackup, ← haddrs x]
    simp [hrestore]
  have hrt : (restoreBackup faults h backup).route = m₁.host.route := by
    obtain ⟨netmask, hmask, rfl⟩ := hprep.exists_netmask
    exact restoreBackup_route_same hfault hmask hroute
  simp only [Unchanged, hset, hrt]

/-- Replacing `a` by `t` and adding `a` again gives the same set only when `t` is `a`. -/
theorem mem_replace_iff {addrs new : List IfAddr} {a t : IfAddr} (ha : a ∈ addrs)
    (hfree : t ∉ addrs.erase a) (hnew : new = [] ∨ new = [a]) :
    (∀ x, (x ∈ addrs.erase a ++ [t] ++ new ∨ x = a) ↔ x ∈ addrs) ↔ t = a := by
  constructor
  · intro hset
    have ht : t ∈ addrs := (hset t).mp (.inl (by simp))
    by_contra hne
    exact hfree ((List.mem_erase_of_ne hne).mpr ht)
  · rintro rfl x
    have hsub : x ∈ new → x = t := by
      rcases hnew with rfl | rfl <;> simp
    by_cases hx : x = t
    · simp [hx, ha]
    · simp [hx, List.mem_erase_of_ne hx, mt hsub hx]

/-- A jump that fails at the gateway step is rolled back exactly when it changed nothing. -/
theorem Switched.unchanged_restored_iff {a t : IfAddr} {m₁ m₂ : IpJumpManager}
    {backup : NetworkBackup} (hfault : SingleFault faults)
    (hprep : Prepared net faults m config a t m₁ backup) (hswitched : Switched faults m₁ a t m₂)
    (hfails : gatewayStepOk faults m₁.host.route config.gateway a.iface = false) :
    Unchanged m { m₂ with
        host := restoreBackup faults
          { m₂.host with
            route := routeAfterDel (faults .routeDel) m₁.host.route a.iface } backup } ↔
      (∀ e ∈ m.secondaryIps, e.ip = a.ip) ∧ t = a ∧
        (m.secondaryIps.find? (SecondaryIPInfo.IsFor a.iface a.ip)).map (·.addedTick) =
          some ((m.tickCounter + 1) % UInt64.size) ∧
        ¬ (m.host.route = some ⟨none, a.iface⟩ ∧ faults .routeAdd = true) := by
  by_cases hkept : ∀ e ∈ m.secondaryIps, e.ip = a.ip
  · obtain rfl : m₁ = m := hprep.cleaned.trans (cleanupOldSecondary_of_all_kept hkept)
    obtain ⟨new, netmask, hnew, rfl⟩ := hswitched.result
    have hset : (∀ x, x ∈ (restoreBackup faults
        ⟨m₁.host.addrs.erase a ++ [t] ++ new,
          routeAfterDel (faults .routeDel) m₁.host.route a.iface⟩ backup).addrs ↔
        x ∈ m₁.host.addrs) ↔ t = a := by
      simp only [hprep.mem_restoreBackup, hfault.restores .restoreAdd trivial, true_and]
      exact mem_replace_iff hprep.mem hswitched.free hnew
    have hroute : (restoreBackup faults
        ⟨m₁.host.addrs.erase a ++ [t] ++ new,
          routeAfterDel (faults .routeDel) m₁.host.route a.iface⟩ backup).route = m₁.host.route ↔
        ¬ (m₁.host.route = some ⟨none, a.iface⟩ ∧ faults .routeAdd = true) := by
      obtain ⟨mask, hmask, rfl⟩ := hprep.exists_netmask
      exact restoreBackup_route_gateway hfault hmask hfails rfl
    simp only [Unchanged, hset, hroute, recordEntry_eq_self]
    tauto
  · refine iff_of_false ?_ fun h => hkept h.1
    rintro ⟨-, -, hlist⟩
    refine hkept fun e he => ?_
    rw [← hlist] at he
    exact hswitched.ip_of_mem hprep he

/-- The selected source and its first address are unique. -/
theorem forall_source_iff {a : IfAddr} {P : IfAddr → Prop}
    (hsource : getPrimaryIp net faults m config.sourceIp = .ok a.ip)
    (hfirst : m.host.FirstWith a.ip a) :
    (∀ b, getPrimaryIp net faults m config.sourceIp = .ok b.ip → m.host.FirstWith b.ip b → P b) ↔
      P a := by
  constructor
  · exact fun h => h a hsource hfirst
  · intro ha b hb hbfirst
    have hip : a.ip = b.ip := Except.ok.inj (hsource.symm.trans hb)
    rw [← hip] at hbfirst
    obtain rfl : a = b := Option.some.inj (hfirst.symm.trans hbfirst)
    exact ha

/-- A jump that cannot get to its target leaves nothing behind exactly when every entry
is for the source. -/
theorem leavesNothing_of_not_getsTo {a : IfAddr}
    (hnot : ∀ t, ¬ GetsTo net faults m config a t) :
    LeavesNothing net faults m config a ↔ ∀ e ∈ m.secondaryIps, e.ip = a.ip := by
  constructor
  · rintro (⟨t, hgets, -⟩ | ⟨hkept, -⟩)
    · exact absurd hgets (hnot t)
    · exact hkept
  · intro hkept
    exact .inr ⟨hkept, fun t hgets => absurd hgets (hnot t)⟩

/-- The target that a jump gets to is the one of its configuration. -/
theorem GetsTo.eq {a t u : IfAddr} (ht : GetsTo net faults m config a t)
    (hiface : u.iface = a.iface)
    (htarget : parseCidr net config.targetIp = .ok (u.ip, u.prefixLen)) : t = u := by
  obtain ⟨iface, ip, p⟩ := t
  obtain ⟨iface', ip', p'⟩ := u
  have heq := Except.ok.inj (ht.target.symm.trans htarget)
  have hsame := ht.iface.trans hiface.symm
  simp only [Prod.mk.injEq] at heq hsame
  rw [IfAddr.mk.injEq]
  exact ⟨hsame, heq⟩

/-- A jump that has switched its address got to its target. -/
theorem Switched.getsTo {a t : IfAddr} {m₁ m₂ : IpJumpManager} {backup : NetworkBackup}
    (hswitched : Switched faults m₁ a t m₂) (hprep : Prepared net faults m config a t m₁ backup) :
    GetsTo net faults m config a t :=
  ⟨hprep.shown, hprep.target, hprep.iface, hswitched.del, hswitched.add,
    hprep.cleaned ▸ hswitched.free⟩

/-- What the condition says for a jump that gets to its target and fails at the gateway. -/
theorem leavesNothing_of_getsTo {a t : IfAddr} (hgets : GetsTo net faults m config a t)
    (hfails : gatewayStepOk faults m.host.route config.gateway a.iface = false) :
    LeavesNothing net faults m config a ↔
      (∀ e ∈ m.secondaryIps, e.ip = a.ip) ∧ t = a ∧
        (m.secondaryIps.find? (SecondaryIPInfo.IsFor a.iface a.ip)).map (·.addedTick) =
          some ((m.tickCounter + 1) % UInt64.size) ∧
        ¬ (m.host.route = some ⟨none, a.iface⟩ ∧ faults .routeAdd = true) := by
  constructor
  · rintro (⟨u, -, hok⟩ | ⟨hkept, hall⟩)
    · rw [hfails] at hok
      cases hok
    · exact ⟨hkept, hall t hgets hfails⟩
  · rintro ⟨hkept, hsame⟩
    refine .inr ⟨hkept, fun u hu _ => ?_⟩
    rw [hu.eq hgets.iface hgets.target]
    exact hsame

/-- **When a failed jump leaves the host as it was.** With at most one failing command,
and none of `restore_backup`, a failed jump leaves the addresses, the default route
and the list unchanged exactly when no source is found or the condition holds for the
source. -/
theorem failed_jump_rolled_back_iff (net : Net) (faults : Faults) (m : IpJumpManager)
    (config : IpJumpConfig) (hfault : SingleFault faults) :
    RolledBack net faults m config ↔
      ∀ a, getPrimaryIp net faults m config.sourceIp = .ok a.ip → m.host.FirstWith a.ip a →
        LeavesNothing net faults m config a := by
  have hout := doIpJumpAsync_outcome net faults m config
  unfold RolledBack
  generalize doIpJumpAsync net faults m config = result at hout ⊢
  obtain ⟨m', result⟩ := result
  cases hout with
  | noSource hsource =>
    refine iff_of_true (fun _ _ => ⟨fun _ => Iff.rfl, rfl, rfl⟩) fun a ha => ?_
    rw [hsource] at ha
    cases ha
  | @unprepared sourceIp e hsource hcause =>
    obtain ⟨a, hfirst⟩ := (getPrimaryIp_has hsource).exists_firstWith
    obtain ⟨-, rfl⟩ := hfirst.mem
    rw [forall_source_iff hsource hfirst, leavesNothing_of_not_getsTo,
      ← unchanged_cleanup_iff net faults]
    · exact ⟨fun h => h e rfl, fun h _ _ => h⟩
    · intro t hgets
      rcases hcause with hshown | ⟨e, herror⟩
      · rw [hgets.shown] at hshown
        cases hshown
      · rw [hgets.target] at herror
        cases herror
  | @delFails a t m₁ backup e hprep hdel =>
    have haddrs : ∀ x, (x ∈ m₁.host.addrs ∨ x = a) ↔ x ∈ m₁.host.addrs := fun x =>
      ⟨fun h => h.elim id fun heq => heq ▸ hprep.mem, .inl⟩
    rw [forall_source_iff hprep.source hprep.first, leavesNothing_of_not_getsTo,
      ← hprep.unchanged_restored_iff hfault rfl haddrs]
    · exact ⟨fun h => h e rfl, fun h _ _ => h⟩
    · intro u hgets
      rw [hgets.del] at hdel
      cases hdel
  | @addFails a t m₁ backup e hprep hdel hadd =>
    have haddrs : ∀ x, (x ∈ m₁.host.addrs.erase a ∨ x = a) ↔ x ∈ m₁.host.addrs := by
      intro x
      by_cases hx : x = a
      · simp [hx, hprep.mem]
      · simp [hx, List.mem_erase_of_ne hx]
    rw [forall_source_iff hprep.source hprep.first, leavesNothing_of_not_getsTo,
      ← hprep.unchanged_restored_iff (h := ⟨m₁.host.addrs.erase a, m₁.host.route⟩) hfault rfl
        haddrs]
    · exact ⟨fun h => h e rfl, fun h _ _ => h⟩
    · intro u hgets
      obtain rfl := hgets.eq hprep.iface hprep.target
      rcases hadd with hadd | hadd
      · rw [hgets.add] at hadd
        cases hadd
      · rw [hprep.cleaned] at hadd
        exact hgets.free hadd
  | @gatewayFails a t m₁ m₂ backup e hprep hswitched hfails =>
    have hiff := hswitched.unchanged_restored_iff hfault hprep hfails
    rw [hprep.route] at hfails
    rw [forall_source_iff hprep.source hprep.first,
      leavesNothing_of_getsTo (hswitched.getsTo hprep) hfails, ← hiff]
    exact ⟨fun h => h e rfl, fun h _ _ => h⟩
  | @done a t m₁ m₂ backup route info hprep hswitched hgateway =>
    rw [hprep.route] at hgateway
    rw [forall_source_iff hprep.source hprep.first]
    refine iff_of_true (fun e he => by cases he) (.inl ⟨t, hswitched.getsTo hprep, hgateway⟩)

/-- The environment makes one command fail. -/
def failingAt (site : Site) : Faults := fun x => x = site

/-- One command of the forward path is a single fault. -/
theorem singleFault_failingAt {site : Site} (hforward : ¬ site.Restores) :
    SingleFault (failingAt site) := by
  refine ⟨fun x hx => ?_, fun x y hx hy => ?_⟩
  · rw [failingAt, decide_eq_false_iff_not]
    rintro rfl
    exact hforward hx
  · exact (of_decide_eq_true hx).trans (of_decide_eq_true hy).symm

/-- A host with one address, and a jump from it to another one. -/
def plainManager : IpJumpManager :=
  .new "eth0" ⟨[⟨"eth0", "10.0.0.5", slash24⟩], some ⟨some "10.0.0.1", "eth0"⟩⟩

/-- The same with an address left over from an earlier jump. -/
def agedManager : IpJumpManager :=
  { plainManager with
    secondaryIps := [⟨"eth0", "10.0.0.4", "255.255.255.0", 24, 1⟩]
    tickCounter := 1
    host := ⟨[⟨"eth0", "10.0.0.5", slash24⟩, ⟨"eth0", "10.0.0.4", slash24⟩],
      some ⟨some "10.0.0.1", "eth0"⟩⟩ }

/-- A jump with a new gateway. -/
def gatewayJump : IpJumpConfig := ⟨"10.0.0.5", "10.0.0.6/24", "10.0.0.254"⟩

/-- Without other entries, a jump that cannot add its target is rolled back. -/
theorem failed_jump_rolled_back_plain :
    RolledBack Net.dotted (failingAt .addrAdd) plainManager gatewayJump := by
  refine (failed_jump_rolled_back_iff _ _ _ _
    (singleFault_failingAt (by simp [Site.Restores]))).mpr ?_
  intro a _ _
  right
  constructor
  · intro e he
    cases he
  · intro t hgets
    cases hgets.add

/-- A failed add loses the entry and the address of an earlier jump, and a failed
gateway step leaves the target and a new entry. -/
theorem failed_jump_not_rolled_back :
    (SingleFault (failingAt .addrAdd) ∧
      ¬ RolledBack Net.dotted (failingAt .addrAdd) agedManager gatewayJump) ∧
    (SingleFault (failingAt .routeAdd) ∧
      ¬ RolledBack Net.dotted (failingAt .routeAdd) plainManager gatewayJump) := by
  constructor
  · refine ⟨singleFault_failingAt (by simp [Site.Restores]), fun hback => ?_⟩
    have hlist := (hback _ (by rfl)).2.2
    revert hlist
    decide
  · refine ⟨singleFault_failingAt (by simp [Site.Restores]), fun hback => ?_⟩
    have hlist := (hback _ (by rfl)).2.2
    revert hlist
    decide

end LinuxAgent.IpJump
