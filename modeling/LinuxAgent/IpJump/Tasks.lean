import LinuxAgent.Lib.Pool
import LinuxAgent.IpJump.Manager

/-!
# The manager shared by several tasks

The cleanup task, the jump daemon and callers of `remove_secondary_ip` work on one
manager. Between two acquisitions of a lock a task runs undisturbed; everywhere else
another task may go on. Each task run alone computes the function that it is a
breakdown of.
-/

namespace LinuxAgent.IpJump

/-- Where a call of `cleanup_old_secondary` stands. -/
inductive ClearPoint
  /-- Before the list is read. -/
  | start (keepIp : String)
  /-- At the head of the loop, which ends when no entries are left. -/
  | clearing (keepIp : String) (i : ℕ) (entries : List SecondaryIPInfo)
  /-- Before the loop drops the entry whose address it has tried to remove. -/
  | dropping (keepIp : String) (i : ℕ) (entry : SecondaryIPInfo) (entries : List SecondaryIPInfo)

/-- Where a call of `do_ip_jump_async` stands. -/
inductive JumpPoint
  /-- Before the source lookup. -/
  | start (config : IpJumpConfig)
  /-- In the call of `cleanup_old_secondary`. -/
  | clearing (config : IpJumpConfig) (sourceIp : String) (point : ClearPoint)
  /-- Before the backup. -/
  | replacing (config : IpJumpConfig) (sourceIp : String)
  /-- Before `increment_tick`. -/
  | ticking (config : IpJumpConfig) (sourceIp : String) (backup : NetworkBackup)
      (srcPrefix : Fin 33)
  /-- Before `add_secondary_ip` locks the list. -/
  | recording (config : IpJumpConfig) (sourceIp : String) (backup : NetworkBackup)
      (srcPrefix : Fin 33) (tick : ℕ)
  /-- Before the gateway is set. -/
  | concluding (config : IpJumpConfig) (sourceIp : String) (backup : NetworkBackup)
  /-- After the return. -/
  | finished (result : Except String PutIpJumpInfo)

/-- Where a call of `do_periodic_cleanup` stands. -/
inductive CleanupPoint
  /-- Before `increment_tick`. -/
  | start
  /-- Before the list is read. -/
  | listing (tick : ℕ)
  /-- At the head of the removal loop. -/
  | removing (tick i : ℕ) (expired : List (String × String × ℕ)) (anyRemoved : Bool)
  /-- Before the entries of the first address are dropped, which has been removed. -/
  | dropping (tick i : ℕ) (expired : List (String × String × ℕ))
  /-- Before the upload. -/
  | uploading (anyRemoved : Bool)
  /-- After the return. -/
  | finished

/-- Where a call of `remove_secondary_ip` stands. -/
inductive RemovePoint
  /-- Before the list is read. -/
  | start (iface ip : String)
  /-- Before the address is removed. -/
  | removing (iface ip : String) (p : ℕ)
  /-- Before the entries of the address are dropped. -/
  | dropping (iface ip : String)
  /-- After the return. -/
  | finished (result : Except String Unit)

/-- A call in progress. -/
inductive Task
  | jump (point : JumpPoint)
  | cleanup (point : CleanupPoint)
  | remove (point : RemovePoint)

/-- What the environment does to a call: which commands fail, and what the upload sees.
A call of `remove_secondary_ip` has the faults of a cleanup of one entry. -/
structure TaskIo where
  /-- The faults of a jump. -/
  faults : Faults
  /-- The environment of a cleanup. -/
  cleanup : CleanupIo

/-- One move of `cleanup_old_secondary`. -/
def ClearPoint.turn (net : Net) (faults : Faults) (m : IpJumpManager) :
    ClearPoint → Option (IpJumpManager × ClearPoint)
  | .start keepIp => some (m, .clearing keepIp 0 m.secondaryIps)
  | .clearing _ _ [] => none
  | .clearing keepIp i (e :: rest) =>
    if e.ip = keepIp then some (m, .clearing keepIp (i + 1) rest)
    else
      let h := (tryRemoveIpFromSystem net (faults (.cleanupDel i)) (faults (.cleanupDelAny i))
        m.host e.interface e.ip e.prefixLen).1
      some ({ m with host := h }, .dropping keepIp i e rest)
  | .dropping keepIp i e rest =>
    some ({ m with secondaryIps := dropEntries e.interface e.ip m.secondaryIps },
      .clearing keepIp (i + 1) rest)

/-- One move of `do_ip_jump_async`. -/
def JumpPoint.turn (net : Net) (faults : Faults) (m : IpJumpManager) :
    JumpPoint → Option (IpJumpManager × JumpPoint)
  | .start config =>
    match getPrimaryIp net faults m config.sourceIp with
    | .error e => some (m, .finished (.error e))
    | .ok sourceIp => some (m, .clearing config sourceIp (.start sourceIp))
  | .clearing config sourceIp point =>
    some ((point.turn net faults m).elim (m, .replacing config sourceIp) fun next =>
      (next.1, .clearing config sourceIp next.2))
  | .replacing config sourceIp =>
    match replaceAddress net faults m config sourceIp with
    | (m, .error e) => some (m, .finished (.error e))
    | (m, .ok (backup, srcPrefix)) => some (m, .ticking config sourceIp backup srcPrefix)
  | .ticking config sourceIp backup srcPrefix =>
    let (m, tick) := incrementTick m
    some (m, .recording config sourceIp backup srcPrefix tick)
  | .recording config sourceIp backup srcPrefix tick =>
    some ((addSecondaryIp net (faults .secondaryAdd) m backup.interface sourceIp backup.netmask
      srcPrefix tick).1, .concluding config sourceIp backup)
  | .concluding config sourceIp backup =>
    let (m, result) := concludeJump net faults m config sourceIp backup
    some (m, .finished result)
  | .finished _ => none

/-- One move of `do_periodic_cleanup`. -/
def CleanupPoint.turn (net : Net) (io : CleanupIo) (m : IpJumpManager) :
    CleanupPoint → Option (IpJumpManager × CleanupPoint)
  | .start =>
    let (m, tick) := incrementTick m
    some (m, .listing tick)
  | .listing tick => some (m, .removing tick 0 (expiredEntries tick m.secondaryIps) false)
  | .removing _ _ [] anyRemoved => some (m, .uploading anyRemoved)
  | .removing tick i (x :: rest) anyRemoved =>
    match tryRemoveIpFromSystem net (io.delFails i) (io.delAnyFails i) m.host x.1 x.2.1 x.2.2 with
    | (h, .ok ()) => some ({ m with host := h }, .dropping tick i (x :: rest))
    | (h, .error _) => some ({ m with host := h }, .removing tick (i + 1) rest anyRemoved)
  | .dropping tick i expired =>
    match expired with
    | [] => none
    | x :: rest =>
      some ({ m with secondaryIps := dropEntries x.1 x.2.1 m.secondaryIps },
        .removing tick (i + 1) rest true)
  | .uploading anyRemoved => some (uploadAddresses io m anyRemoved, .finished)
  | .finished => none

/-- One move of `remove_secondary_ip`. -/
def RemovePoint.turn (net : Net) (io : CleanupIo) (m : IpJumpManager) :
    RemovePoint → Option (IpJumpManager × RemovePoint)
  | .start iface ip => some (m, .removing iface ip (removalPrefix m iface ip))
  | .removing iface ip p =>
    match tryRemoveIpFromSystem net (io.delFails 0) (io.delAnyFails 0) m.host iface ip p with
    | (h, .ok ()) => some ({ m with host := h }, .dropping iface ip)
    | (h, .error e) => some ({ m with host := h }, .finished (.error e))
  | .dropping iface ip =>
    some ({ m with secondaryIps := dropEntries iface ip m.secondaryIps }, .finished (.ok ()))
  | .finished _ => none

/-- One move of a call. -/
def Task.turn (net : Net) (io : TaskIo) (m : IpJumpManager) : Task → Option (IpJumpManager × Task)
  | .jump point => (point.turn net io.faults m).map fun next => (next.1, .jump next.2)
  | .cleanup point => (point.turn net io.cleanup m).map fun next => (next.1, .cleanup next.2)
  | .remove point => (point.turn net io.cleanup m).map fun next => (next.1, .remove next.2)

/-- A call that has not begun. -/
def Task.starts : Task → Bool
  | .jump (.start _) | .cleanup .start | .remove (.start _ _) => true
  | _ => false

/-- A new manager on some host. -/
def IpJumpManager.IsNew (m : IpJumpManager) : Prop := ∃ iface host, m = .new iface host

/-- The manager with its calls in progress. -/
abbrev Calls := Runs.Pool IpJumpManager Task

/-- Any number of calls on a new manager, in any interleaving. -/
abbrev Calls.system (net : Net) : Runs.System Calls (Runs.Move Task TaskIo) :=
  Runs.Pool.system IpJumpManager.IsNew Task.starts (Task.turn net)

variable {net : Net} {io : TaskIo}

/-- The removal loop of a cleanup that runs alone is `removeExpired`. -/
theorem Task.removing_alone (tick : ℕ) (expired : List (String × String × ℕ)) (i : ℕ)
    (m : IpJumpManager) (removed : Bool) :
    Runs.Pool.Alone (Task.turn net) io (m, .cleanup (.removing tick i expired removed))
      ((removeExpired net io.cleanup i expired m removed).1,
        .cleanup (.uploading (removeExpired net io.cleanup i expired m removed).2)) := by
  induction expired generalizing i m removed with
  | nil => exact .head rfl (.refl _)
  | cons x rest ih =>
    obtain ⟨iface, ip, p⟩ := x
    unfold removeExpired
    cases hremove : tryRemoveIpFromSystem net (io.cleanup.delFails i) (io.cleanup.delAnyFails i)
        m.host iface ip p with
    | mk h result =>
      cases result with
      | error e =>
        refine .head ?_ (ih (i + 1) { m with host := h } removed)
        simp only [Task.turn, CleanupPoint.turn, hremove, Option.map_some]
      | ok _ =>
        have hturn : Task.turn net io m
            (.cleanup (.removing tick i ((iface, ip, p) :: rest) removed)) =
            some ({ m with host := h }, .cleanup (.dropping tick i ((iface, ip, p) :: rest))) := by
          simp only [Task.turn, CleanupPoint.turn, hremove, Option.map_some]
        exact .head hturn (.head rfl (ih (i + 1) _ true))

/-- A cleanup that runs alone is `do_periodic_cleanup`. -/
theorem Task.cleanup_alone (m : IpJumpManager) :
    Runs.Pool.Alone (Task.turn net) io (m, .cleanup .start)
      (doPeriodicCleanup net io.cleanup m, .cleanup .finished) := by
  refine .head rfl (.head rfl ((Task.removing_alone _ _ _ _ _).trans ?_))
  exact .head rfl (.refl _)

/-- A removal that runs alone is `remove_secondary_ip`. -/
theorem Task.remove_alone (m : IpJumpManager) (iface ip : String) :
    let result :=
      removeSecondaryIp net (io.cleanup.delFails 0) (io.cleanup.delAnyFails 0) m iface ip
    Runs.Pool.Alone (Task.turn net) io (m, .remove (.start iface ip))
      (result.1, .remove (.finished result.2)) := by
  refine .head rfl ?_
  unfold removeSecondaryIp
  cases hremove : tryRemoveIpFromSystem net (io.cleanup.delFails 0) (io.cleanup.delAnyFails 0)
      m.host iface ip (removalPrefix m iface ip) with
  | mk h result =>
    cases result with
    | error e =>
      refine .head ?_ (.refl _)
      simp only [Task.turn, RemovePoint.turn, hremove, Option.map_some]
    | ok _ =>
      have hturn : Task.turn net io m (.remove (.removing iface ip (removalPrefix m iface ip))) =
          some ({ m with host := h }, .remove (.dropping iface ip)) := by
        simp only [Task.turn, RemovePoint.turn, hremove, Option.map_some]
      exact .head hturn (.head rfl (.refl _))

/-- The loop of `cleanup_old_secondary` in a jump that runs alone is `cleanupEntries`. -/
theorem Task.clearing_alone (config : IpJumpConfig) (sourceIp : String)
    (entries : List SecondaryIPInfo) (i : ℕ) (m : IpJumpManager) :
    Runs.Pool.Alone (Task.turn net) io
      (m, .jump (.clearing config sourceIp (.clearing sourceIp i entries)))
      (cleanupEntries net io.faults sourceIp i entries m, .jump (.replacing config sourceIp)) := by
  induction entries generalizing i m with
  | nil => exact .head rfl (.refl _)
  | cons e rest ih =>
    unfold cleanupEntries
    split
    · next hkeep =>
      refine .head ?_ (ih (i + 1) m)
      simp only [Task.turn, JumpPoint.turn, ClearPoint.turn, if_pos hkeep, Option.elim_some,
        Option.map_some]
    · next hkeep =>
      have hturn : Task.turn net io m
          (.jump (.clearing config sourceIp (.clearing sourceIp i (e :: rest)))) =
          some ({ m with
            host := (tryRemoveIpFromSystem net (io.faults (.cleanupDel i))
              (io.faults (.cleanupDelAny i)) m.host e.interface e.ip e.prefixLen).1 },
            .jump (.clearing config sourceIp (.dropping sourceIp i e rest))) := by
        simp only [Task.turn, JumpPoint.turn, ClearPoint.turn, if_neg hkeep, Option.elim_some,
          Option.map_some]
      exact .head hturn (.head rfl (ih (i + 1) _))

/-- A jump that runs alone is `do_ip_jump_async`. -/
theorem Task.jump_alone (m : IpJumpManager) (config : IpJumpConfig) :
    Runs.Pool.Alone (Task.turn net) io (m, .jump (.start config))
      ((doIpJumpAsync net io.faults m config).1,
        .jump (.finished (doIpJumpAsync net io.faults m config).2)) := by
  unfold doIpJumpAsync
  cases hsource : getPrimaryIp net io.faults m config.sourceIp with
  | error e =>
    refine .head ?_ (.refl _)
    simp only [Task.turn, JumpPoint.turn, hsource, Option.map_some]
  | ok sourceIp =>
    have hstart : Task.turn net io m (.jump (.start config)) =
        some (m, .jump (.clearing config sourceIp (.start sourceIp))) := by
      simp only [Task.turn, JumpPoint.turn, hsource, Option.map_some]
    refine .head hstart (.head rfl ((Task.clearing_alone config sourceIp _ 0 m).trans ?_))
    dsimp only
    change Runs.Pool.Alone _ _ (cleanupOldSecondary net io.faults m sourceIp, _) _
    generalize cleanupOldSecondary net io.faults m sourceIp = m₁
    cases hreplace : replaceAddress net io.faults m₁ config sourceIp with
    | mk m₂ result =>
      cases result with
      | error e =>
        refine .head ?_ (.refl _)
        simp only [Task.turn, JumpPoint.turn, hreplace, Option.map_some]
      | ok found =>
        have hturn : Task.turn net io m₁ (.jump (.replacing config sourceIp)) =
            some (m₂, .jump (.ticking config sourceIp found.1 found.2)) := by
          simp only [Task.turn, JumpPoint.turn, hreplace, Option.map_some]
        exact .head hturn (.head rfl (.head rfl (.head rfl (.refl _))))

end LinuxAgent.IpJump
