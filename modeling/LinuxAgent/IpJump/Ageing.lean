import Mathlib.Data.List.Nodup
import LinuxAgent.IpJump.Outcome
import LinuxAgent.IpJump.Tasks

/-!
# Ageing on current data

A cleanup decides at its snapshot which entries have expired, and removes them later,
when the list may have changed. It removes only entries that are still old then, as
long as no jump refreshes an address that a running cleanup is about to remove.
-/

namespace LinuxAgent.IpJump

variable {net : Net}

/-- Every entry of the address is at least `AGING_TICKS` older than the tick. -/
def Aged (tick : ℕ) (list : List SecondaryIPInfo) (iface ip : String) : Prop :=
  ∀ e ∈ list, e.IsFor iface ip → agingTicks ≤ tick - e.addedTick

/-- The tick of a cleanup and the addresses that it is about to remove. -/
def Task.pending : Task → Option (ℕ × List (String × String × ℕ))
  | .cleanup (.removing tick _ expired _) => some (tick, expired)
  | .cleanup (.dropping tick _ expired) => some (tick, expired)
  | _ => none

/-- An entry made for the address at `added` is old enough for the task to remove it. -/
def Task.Spares (iface ip : String) (added : ℕ) (t : Task) : Prop :=
  ∀ pending ∈ t.pending, ∀ x ∈ pending.2, x.1 = iface ∧ x.2.1 = ip →
    agingTicks ≤ pending.1 - added

instance (iface ip : String) (added : ℕ) (t : Task) : Decidable (t.Spares iface ip added) :=
  inferInstanceAs (Decidable (∀ pending ∈ t.pending, ∀ x ∈ pending.2, x.1 = iface ∧ x.2.1 = ip →
    agingTicks ≤ pending.1 - added))

/-- The address that the next move of a task records, and the tick. -/
def Task.records : Task → Option (String × String × ℕ)
  | .jump (.recording _ sourceIp backup _ tick) => some (backup.interface, sourceIp, tick)
  | _ => none

/-- No jump records an address that a running cleanup is about to remove, unless with
a tick that is old enough for that cleanup. -/
def KeepsAge (c : Calls) : Runs.Move Task TaskIo → Prop
  | .advance i _ => ∀ r ∈ c.tasks[i]?.bind Task.records, ∀ t ∈ c.tasks, t.Spares r.1 r.2.1 r.2.2
  | .spawn _ => True

instance (c : Calls) : (move : Runs.Move Task TaskIo) → Decidable (KeepsAge c move)
  | .advance i _ => inferInstanceAs (Decidable (∀ r ∈ c.tasks[i]?.bind Task.records,
      ∀ t ∈ c.tasks, t.Spares r.1 r.2.1 r.2.2))
  | .spawn _ => isTrue trivial

/-- Whenever a cleanup drops entries or removes an address from the system, the entries
that it drops, and those of the address, are at least `AGING_TICKS` older than the
tick of the cleanup. -/
def RemovesAged (net : Net) (c : Calls) : Prop :=
  ∀ i io c' pending, (∃ t, c.tasks[i]? = some t ∧ t.pending = some pending) →
    (Calls.system net).step c (.advance i io) = some c' →
    (∀ e ∈ c.shared.secondaryIps, e ∉ c'.shared.secondaryIps →
      agingTicks ≤ pending.1 - e.addedTick) ∧
    ∀ a ∈ c.shared.host.addrs, a ∉ c'.shared.host.addrs →
      Aged pending.1 c.shared.secondaryIps a.iface a.ip

/-- No two entries are for the same address. -/
def KeysNodup (m : IpJumpManager) : Prop :=
  (m.secondaryIps.map fun e => (e.interface, e.ip)).Nodup

/-- What a task is about to remove has aged. -/
def PendingAged (m : IpJumpManager) (t : Task) : Prop :=
  ∀ pending ∈ t.pending, ∀ x ∈ pending.2, Aged pending.1 m.secondaryIps x.1 x.2.1

/-- Recording an entry keeps the addresses of the list, or adds one at the end. -/
theorem map_key_refreshTick {iface ip : String} {tick : ℕ} {list list' : List SecondaryIPInfo}
    (href : refreshTick iface ip tick list = some list') :
    (list'.map fun e => (e.interface, e.ip)) = list.map fun e => (e.interface, e.ip) := by
  induction list generalizing list' with
  | nil => cases href
  | cons e rest ih =>
    rw [refreshTick] at href
    split at href
    · obtain rfl := Option.some.inj href
      rfl
    · obtain ⟨rest', hrest', rfl⟩ := Option.map_eq_some_iff.mp href
      rw [List.map_cons, List.map_cons, ih hrest']

/-- Recording an entry keeps the addresses unique. -/
theorem nodup_recordEntry {entry : SecondaryIPInfo} {list : List SecondaryIPInfo}
    (hnodup : (list.map fun e => (e.interface, e.ip)).Nodup) :
    ((recordEntry entry list).map fun e => (e.interface, e.ip)).Nodup := by
  unfold recordEntry
  cases href : refreshTick entry.interface entry.ip entry.addedTick list with
  | some list' =>
    rw [Option.getD_some, map_key_refreshTick href]
    exact hnodup
  | none =>
    rw [Option.getD_none, List.map_append, List.map_singleton]
    refine List.Nodup.append hnodup (List.nodup_singleton _) ?_
    have hno := refreshTick_eq_none.mp href
    intro key hkey hnew
    rw [List.mem_singleton] at hnew
    obtain ⟨e, he, rfl⟩ := List.mem_map.mp hkey
    refine hno e he ?_
    simp only [Prod.mk.injEq] at hnew
    simp [SecondaryIPInfo.IsFor, hnew]

/-- Replacing the address does not touch the list. -/
theorem replaceAddress_secondaryIps (net : Net) (faults : Faults) (m : IpJumpManager)
    (config : IpJumpConfig) (sourceIp : String) :
    (replaceAddress net faults m config sourceIp).1.secondaryIps = m.secondaryIps := by
  unfold replaceAddress
  dsimp only
  repeat' split
  all_goals rfl

/-- The end of a jump does not touch the list. -/
theorem concludeJump_secondaryIps (net : Net) (faults : Faults) (m : IpJumpManager)
    (config : IpJumpConfig) (sourceIp : String) (backup : NetworkBackup) :
    (concludeJump net faults m config sourceIp backup).1.secondaryIps = m.secondaryIps := by
  unfold concludeJump
  dsimp only
  split
  · rfl
  · split <;> rfl

/-- The upload does not touch the list. -/
theorem uploadAddresses_secondaryIps (io : CleanupIo) (m : IpJumpManager) (anyRemoved : Bool) :
    (uploadAddresses io m anyRemoved).secondaryIps = m.secondaryIps := by
  unfold uploadAddresses
  split
  · split <;> rfl
  · rfl

/-- A move of `cleanup_old_secondary` drops entries at most, and does not tick. -/
theorem ClearPoint.turn_list {faults : Faults} {m : IpJumpManager} {point : ClearPoint}
    {next : IpJumpManager × ClearPoint} (hturn : point.turn net faults m = some next) :
    next.1.secondaryIps.Sublist m.secondaryIps ∧ next.1.tickCounter = m.tickCounter := by
  cases point with
  | start keepIp => cases hturn; exact ⟨List.Sublist.refl _, rfl⟩
  | clearing keepIp i entries =>
    cases entries with
    | nil => cases hturn
    | cons e rest =>
      simp only [ClearPoint.turn] at hturn
      split at hturn <;> cases hturn <;> exact ⟨List.Sublist.refl _, rfl⟩
  | dropping keepIp i e rest => cases hturn; exact ⟨List.filter_sublist, rfl⟩

/-- A move of a jump drops entries at most, or records an entry. -/
theorem JumpPoint.turn_list {faults : Faults} {m : IpJumpManager} {point : JumpPoint}
    {next : IpJumpManager × JumpPoint} (hturn : point.turn net faults m = some next) :
    next.1.secondaryIps.Sublist m.secondaryIps ∨
      ∃ r ∈ (Task.jump point).records, ∃ netmask p, next.1.secondaryIps =
        recordEntry ⟨r.1, r.2.1, netmask, p, r.2.2⟩ m.secondaryIps := by
  cases point with
  | start config =>
    simp only [JumpPoint.turn] at hturn
    split at hturn <;> cases hturn <;> exact .inl (List.Sublist.refl _)
  | clearing config sourceIp point =>
    obtain rfl := Option.some.inj hturn
    cases hclear : point.turn net faults m with
    | none => exact .inl (List.Sublist.refl _)
    | some cleared => exact .inl (ClearPoint.turn_list hclear).1
  | replacing config sourceIp =>
    have hlist := replaceAddress_secondaryIps net faults m config sourceIp
    simp only [JumpPoint.turn] at hturn
    generalize replaceAddress net faults m config sourceIp = result at hturn hlist
    split at hturn <;> cases hturn <;> exact .inl (hlist ▸ List.Sublist.refl _)
  | ticking config sourceIp backup p => cases hturn; exact .inl (List.Sublist.refl _)
  | recording config sourceIp backup p tick =>
    obtain ⟨new, -, heq⟩ := addSecondaryIp_fst net (faults .secondaryAdd) m
      ⟨backup.interface, sourceIp, p⟩ backup.netmask tick
    cases hturn
    exact .inr ⟨_, rfl, backup.netmask, p, congrArg IpJumpManager.secondaryIps heq⟩
  | concluding config sourceIp backup =>
    have hlist := concludeJump_secondaryIps net faults m config sourceIp backup
    simp only [JumpPoint.turn] at hturn
    generalize concludeJump net faults m config sourceIp backup = result at hturn hlist
    cases hturn
    exact .inl (hlist ▸ List.Sublist.refl _)
  | finished result => cases hturn

/-- A move of a cleanup drops entries at most. -/
theorem CleanupPoint.turn_list {io : CleanupIo} {m : IpJumpManager} {point : CleanupPoint}
    {next : IpJumpManager × CleanupPoint} (hturn : point.turn net io m = some next) :
    next.1.secondaryIps.Sublist m.secondaryIps := by
  cases point with
  | start => cases hturn; exact List.Sublist.refl _
  | listing tick => cases hturn; exact List.Sublist.refl _
  | removing tick i expired removed =>
    cases expired with
    | nil => cases hturn; exact List.Sublist.refl _
    | cons x rest =>
      simp only [CleanupPoint.turn] at hturn
      split at hturn <;> cases hturn <;> exact List.Sublist.refl _
  | dropping tick i expired =>
    cases expired with
    | nil => cases hturn
    | cons x rest => cases hturn; exact List.filter_sublist
  | uploading removed =>
    have hlist := uploadAddresses_secondaryIps io m removed
    simp only [CleanupPoint.turn] at hturn
    generalize uploadAddresses io m removed = m' at hturn hlist
    cases hturn
    exact hlist ▸ List.Sublist.refl _
  | finished => cases hturn

/-- A move of a removal drops entries at most. -/
theorem RemovePoint.turn_list {io : CleanupIo} {m : IpJumpManager} {point : RemovePoint}
    {next : IpJumpManager × RemovePoint} (hturn : point.turn net io m = some next) :
    next.1.secondaryIps.Sublist m.secondaryIps := by
  cases point with
  | start iface ip => cases hturn; exact List.Sublist.refl _
  | removing iface ip p =>
    simp only [RemovePoint.turn] at hturn
    split at hturn <;> cases hturn <;> exact List.Sublist.refl _
  | dropping iface ip => cases hturn; exact List.filter_sublist
  | finished result => cases hturn

/-- A move of a task drops entries at most, or records the entry of a jump. -/
theorem Task.turn_list {io : TaskIo} {m : IpJumpManager} {t : Task} {next : IpJumpManager × Task}
    (hturn : t.turn net io m = some next) :
    next.1.secondaryIps.Sublist m.secondaryIps ∨
      ∃ r ∈ t.records, ∃ netmask p, next.1.secondaryIps =
        recordEntry ⟨r.1, r.2.1, netmask, p, r.2.2⟩ m.secondaryIps := by
  cases t with
  | jump point =>
    obtain ⟨next', hnext, rfl⟩ := Option.map_eq_some_iff.mp hturn
    exact JumpPoint.turn_list hnext
  | cleanup point =>
    obtain ⟨next', hnext, rfl⟩ := Option.map_eq_some_iff.mp hturn
    exact .inl (CleanupPoint.turn_list hnext)
  | remove point =>
    obtain ⟨next', hnext, rfl⟩ := Option.map_eq_some_iff.mp hturn
    exact .inl (RemovePoint.turn_list hnext)

/-- Dropping entries keeps what has aged. -/
theorem Aged.mono {tick : ℕ} {list list' : List SecondaryIPInfo} {iface ip : String}
    (haged : Aged tick list iface ip) (hsub : list'.Sublist list) : Aged tick list' iface ip :=
  fun e he hfor => haged e (hsub.subset he) hfor

/-- Recording an entry keeps what has aged if the entry has, too. -/
theorem Aged.recordEntry {tick : ℕ} {list : List SecondaryIPInfo} {iface ip : String}
    {entry : SecondaryIPInfo} (haged : Aged tick list iface ip)
    (hspares : iface = entry.interface ∧ ip = entry.ip → agingTicks ≤ tick - entry.addedTick) :
    Aged tick (IpJump.recordEntry entry list) iface ip := by
  intro e he hfor
  rcases mem_recordEntry he with hold | ⟨hkey, htick⟩
  · exact haged e hold hfor
  · simp only [SecondaryIPInfo.IsFor, Bool.and_eq_true, decide_eq_true_eq] at hfor hkey
    rw [htick]
    exact hspares ⟨hfor.1.symm.trans hkey.1, hfor.2.symm.trans hkey.2⟩

/-- Every entry that a cleanup collects has aged, as its address has no other entry. -/
theorem aged_of_mem_expiredEntries {m : IpJumpManager} {tick : ℕ} {x : String × String × ℕ}
    (hnodup : KeysNodup m) (hx : x ∈ expiredEntries tick m.secondaryIps) :
    Aged tick m.secondaryIps x.1 x.2.1 := by
  obtain ⟨e, he, rfl⟩ := List.mem_map.mp hx
  obtain ⟨he, hold⟩ := List.mem_filter.mp he
  intro e' he' hfor
  simp only [SecondaryIPInfo.IsFor, Bool.and_eq_true, decide_eq_true_eq] at hfor
  have hsame : e' = e := List.inj_on_of_nodup_map hnodup he' he (by simp [hfor])
  rw [hsame]
  simpa using hold

/-- A move of a task keeps the addresses unique. -/
theorem KeysNodup.turn {io : TaskIo} {m : IpJumpManager} {t : Task} {next : IpJumpManager × Task}
    (hnodup : KeysNodup m) (hturn : t.turn net io m = some next) : KeysNodup next.1 := by
  rcases Task.turn_list hturn with hsub | ⟨r, -, netmask, p, heq⟩
  · exact List.Nodup.sublist (hsub.map _) hnodup
  · rw [KeysNodup, heq]
    exact nodup_recordEntry hnodup

/-- A move of one task does not make young what another is about to remove. -/
theorem PendingAged.other {io : TaskIo} {m : IpJumpManager} {t u : Task}
    {next : IpJumpManager × Task} (haged : PendingAged m u) (hturn : t.turn net io m = some next)
    (hspares : ∀ r ∈ t.records, u.Spares r.1 r.2.1 r.2.2) : PendingAged next.1 u := by
  intro pending hpending x hx
  rcases Task.turn_list hturn with hsub | ⟨r, hr, netmask, p, heq⟩
  · exact (haged pending hpending x hx).mono hsub
  · rw [heq]
    exact (haged pending hpending x hx).recordEntry (hspares r hr pending hpending x hx)

/-- A cleanup keeps its own list of addresses aged. -/
theorem PendingAged.cleanup {io : CleanupIo} {m : IpJumpManager} {point : CleanupPoint}
    {next : IpJumpManager × CleanupPoint} (hnodup : KeysNodup m)
    (haged : PendingAged m (.cleanup point)) (hturn : point.turn net io m = some next) :
    PendingAged next.1 (.cleanup next.2) := by
  have hsub := CleanupPoint.turn_list hturn
  cases point with
  | start => cases hturn; rintro pending ⟨⟩
  | listing tick =>
    cases hturn
    rintro pending ⟨⟩ x hx
    exact aged_of_mem_expiredEntries hnodup hx
  | removing tick i expired removed =>
    cases expired with
    | nil => cases hturn; rintro pending ⟨⟩
    | cons x rest =>
      simp only [CleanupPoint.turn] at hturn
      split at hturn
      · cases hturn
        rintro pending ⟨⟩ y hy
        exact haged _ rfl y hy
      · cases hturn
        rintro pending ⟨⟩ y hy
        exact haged _ rfl y (List.mem_cons_of_mem _ hy)
  | dropping tick i expired =>
    cases expired with
    | nil => cases hturn
    | cons x rest =>
      cases hturn
      rintro pending ⟨⟩ y hy
      exact (haged _ rfl y (List.mem_cons_of_mem _ hy)).mono hsub
  | uploading removed => cases hturn; rintro pending ⟨⟩
  | finished => cases hturn

/-- A task keeps what it is about to remove aged. -/
theorem PendingAged.own {io : TaskIo} {m : IpJumpManager} {t : Task} {next : IpJumpManager × Task}
    (hnodup : KeysNodup m) (haged : PendingAged m t) (hturn : t.turn net io m = some next) :
    PendingAged next.1 next.2 := by
  cases t with
  | jump point =>
    obtain ⟨next', -, rfl⟩ := Option.map_eq_some_iff.mp hturn
    rintro pending ⟨⟩
  | remove point =>
    obtain ⟨next', -, rfl⟩ := Option.map_eq_some_iff.mp hturn
    rintro pending ⟨⟩
  | cleanup point =>
    obtain ⟨next', hnext, rfl⟩ := Option.map_eq_some_iff.mp hturn
    exact haged.cleanup hnodup hnext

/-- The invariant of the calls on one manager. -/
def Calls.AgedInv (c : Calls) : Prop := c.Holds KeysNodup PendingAged

/-- Every move that keeps the age keeps the invariant. -/
theorem Calls.AgedInv.step {c c' : Calls} {move : Runs.Move Task TaskIo} (hinv : c.AgedInv)
    (hkeeps : KeepsAge c move) (hstep : (Calls.system net).step c move = some c') :
    c'.AgedInv := by
  cases move with
  | spawn t =>
    refine Runs.Pool.Holds.spawn hinv hstep fun hstarts => ?_
    intro pending hpending
    unfold Task.starts at hstarts
    split at hstarts <;> first | cases hpending | cases hstarts
  | advance i io =>
    refine Runs.Pool.Holds.advance hinv hstep ?_
    intro t next ht haged hturn
    refine ⟨hinv.1.turn hturn, haged.own hinv.1 hturn, fun u hu hother => ?_⟩
    refine hother.other hturn fun r hr => hkeeps r ?_ u hu
    rw [ht]
    exact hr

/-- What a removal from the system takes away has the aged address. -/
theorem Aged.of_removesOnly {tick : ℕ} {m : IpJumpManager} {iface ip : String} {h : Host}
    {a : IfAddr} (haged : Aged tick m.secondaryIps iface ip)
    (hremoves : RemovesOnly iface ip m.host h) (ha : a ∈ m.host.addrs) (hgone : a ∉ h.addrs) :
    Aged tick m.secondaryIps a.iface a.ip := by
  by_cases hkey : a.iface = iface ∧ a.ip = ip
  · rw [hkey.1, hkey.2]
    exact haged
  · exact absurd (hremoves.mem ha hkey) hgone

/-- A cleanup whose pending addresses have aged removes only aged entries. -/
theorem CleanupPoint.removes_aged {io : CleanupIo} {m : IpJumpManager} {point : CleanupPoint}
    {next : IpJumpManager × CleanupPoint} {pending : ℕ × List (String × String × ℕ)}
    (hpending : (Task.cleanup point).pending = some pending)
    (haged : PendingAged m (.cleanup point))
    (hturn : point.turn net io m = some next) :
    (∀ e ∈ m.secondaryIps, e ∉ next.1.secondaryIps → agingTicks ≤ pending.1 - e.addedTick) ∧
      ∀ a ∈ m.host.addrs, a ∉ next.1.host.addrs → Aged pending.1 m.secondaryIps a.iface a.ip := by
  cases point with
  | start => cases hpending
  | listing tick => cases hpending
  | uploading removed => cases hpending
  | finished => cases hpending
  | removing tick i expired removed =>
    obtain rfl := Option.some.inj hpending
    cases expired with
    | nil =>
      cases hturn
      exact ⟨fun e he hgone => absurd he hgone, fun a ha hgone => absurd ha hgone⟩
    | cons x rest =>
      have hx := haged _ rfl x List.mem_cons_self
      have hremoves := (tryRemoveIpFromSystem_spec net (io.delFails i) (io.delAnyFails i) m.host
        x.1 x.2.1 x.2.2).1
      simp only [CleanupPoint.turn] at hturn
      split at hturn
      all_goals
        next heq =>
          rw [heq] at hremoves
          cases hturn
          exact ⟨fun e he hgone => absurd he hgone, fun a ha => hx.of_removesOnly hremoves ha⟩
  | dropping tick i expired =>
    obtain rfl := Option.some.inj hpending
    cases expired with
    | nil => cases hturn
    | cons x rest =>
      cases hturn
      refine ⟨fun e he hgone => haged _ rfl x List.mem_cons_self e he ?_,
        fun a ha hgone => absurd ha hgone⟩
      cases hfor : e.IsFor x.1 x.2.1 with
      | true => rfl
      | false => exact absurd (List.mem_filter.mpr ⟨he, by simp [hfor]⟩) hgone

/-- The invariant gives the property of the next move. -/
theorem Calls.AgedInv.removesAged {c : Calls} (hinv : c.AgedInv) : RemovesAged net c := by
  rintro i io c' pending ⟨t, ht, hpending⟩ hstep
  obtain ⟨u, next, hu, hturn, rfl⟩ := Runs.Pool.step_advance_eq_some.mp hstep
  obtain rfl : t = u := Option.some.inj (ht.symm.trans hu)
  have haged := hinv.2 t (List.mem_of_getElem? ht)
  cases t with
  | jump point => cases hpending
  | remove point => cases hpending
  | cleanup point =>
    obtain ⟨next', hnext, rfl⟩ := Option.map_eq_some_iff.mp hturn
    exact CleanupPoint.removes_aged hpending haged hnext

/-- **Ageing is decided on current data.** In every interleaving of cleanups, jumps and
removals in which no jump records an address that a running cleanup is about to
remove, unless with an old enough tick, a cleanup removes only entries that are at
least `AGING_TICKS` older than its tick when they are removed. -/
theorem ages_on_current_data (net : Net) (c : Calls)
    (hreach : (Calls.system net).Reaches KeepsAge c) : RemovesAged net c := by
  have hinv : c.AgedInv := by
    refine hreach.invariant (I := Calls.AgedInv) ?_ ?_
    · rintro ⟨m, tasks⟩ ⟨⟨iface, host, hnew⟩, htasks⟩
      obtain rfl : m = .new iface host := hnew
      obtain rfl : tasks = [] := htasks
      exact ⟨List.nodup_nil, fun t ht => by cases ht⟩
    · intro c move c' hinv hkeeps hstep
      exact hinv.step hkeeps hstep
  exact hinv.removesAged

/-- A new manager on a host with one address. -/
def soleAddress : Calls := ⟨.new "eth0" ⟨[⟨"eth0", "10.0.0.5", slash24⟩], none⟩, []⟩

/-- A new manager is an initial state. -/
theorem soleAddress_initial : (Calls.system net).init soleAddress := ⟨⟨"eth0", _, rfl⟩, rfl⟩

/-- No command fails. -/
def allSucceed : TaskIo := ⟨fun _ => false, ⟨fun _ => false, fun _ => false, none, true⟩⟩

/-- A jump to another network, a cleanup, and a second cleanup that has collected the
old source as expired. -/
def untilExpired : List (Runs.Move Task TaskIo) :=
  .spawn (.jump (.start ⟨"10.0.0.5", "192.168.1.6/24", ""⟩)) ::
    List.replicate 7 (.advance 0 allSucceed) ++
  .spawn (.cleanup .start) :: List.replicate 4 (.advance 1 allSucceed) ++
  .spawn (.cleanup .start) :: List.replicate 2 (.advance 2 allSucceed)

/-- A jump from the expired address, up to the refresh of its entry, and the move of
the second cleanup that finds the address gone. -/
def refreshing : List (Runs.Move Task TaskIo) :=
  .spawn (.jump (.start ⟨"10.0.0.5", "192.168.1.7/24", ""⟩)) ::
    List.replicate 7 (.advance 3 allSucceed) ++ [.advance 2 allSucceed]

/-- The tick of a cleanup that is removing, and the ticks of the entries. -/
def Calls.ticks (c : Calls) (i : ℕ) : Option ℕ × List ℕ :=
  ((c.tasks[i]?.bind Task.pending).map Prod.fst, c.shared.secondaryIps.map (·.addedTick))

/-- Without a jump in between, the second cleanup is about to remove an aged entry. -/
theorem ages_on_current_data_undisturbed :
    ∃ c, RemovesAged Net.dotted c ∧ c.ticks 2 = (some 3, [1]) := by
  have hexec : ((Calls.system Net.dotted).exec soleAddress untilExpired).map (·.ticks 2) =
      some (some 3, [1]) := by decide
  have hmeets : (Calls.system Net.dotted).Meets KeepsAge soleAddress untilExpired := by decide
  obtain ⟨c, hexec, hticks⟩ := Option.map_eq_some_iff.mp hexec
  have hreach := (Runs.System.Reaches.init soleAddress_initial).exec hmeets hexec
  exact ⟨c, ages_on_current_data Net.dotted c hreach, hticks⟩

/-- The jump refreshes the entry at tick four, and the cleanup of tick three drops it. -/
theorem refreshed_entry_removed :
    ∃ c, (Calls.system Net.dotted).Reachable c ∧ ¬ RemovesAged Net.dotted c := by
  have hexec : (((Calls.system Net.dotted).exec soleAddress (untilExpired ++ refreshing)).map
      fun c => (c.ticks 2, ((Calls.system Net.dotted).step c (.advance 2 allSucceed)).map
        fun c' => c'.ticks 2)) = some ((some 3, [4]), some (some 3, [])) := by decide
  obtain ⟨c, hexec, hticks⟩ := Option.map_eq_some_iff.mp hexec
  refine ⟨c,
    (Runs.System.Reaches.init soleAddress_initial).exec (.of_forall (fun _ _ _ => trivial) _)
    hexec, fun hremoves => ?_⟩
  simp only [Prod.mk.injEq, Calls.ticks, Option.map_eq_some_iff, Option.bind_eq_some_iff] at hticks
  obtain ⟨⟨⟨pending, ⟨t, ht, hpending⟩, htick⟩, hold⟩, c', hstep, -, hnew⟩ := hticks
  obtain ⟨e, hlist, htick4⟩ := List.map_eq_singleton_iff.mp hold
  have hgone := (hremoves 2 allSucceed c' pending ⟨t, ht, hpending⟩ hstep).1 e
    (by rw [hlist]; exact List.mem_singleton_self e)
    (by rw [List.map_eq_nil_iff.mp hnew]; exact List.not_mem_nil)
  rw [htick, htick4] at hgone
  revert hgone
  decide

end LinuxAgent.IpJump
