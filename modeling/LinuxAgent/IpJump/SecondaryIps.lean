import LinuxAgent.IpJump.Ageing

/-!
# The list of secondary addresses

The functions of the manager that work on the list, each called by itself, beside the whole calls.
No two entries are ever for the same address, and no entry is younger than the tick counter before
the counter wraps around. The ticks that `increment_tick` has returned are kept beside the manager:
`add_secondary_ip` is called with one of them.
-/

namespace LinuxAgent.IpJump

/-- The manager, and the ticks that `increment_tick` has returned. -/
structure Ticked where
  manager : IpJumpManager
  issued : List ℕ

/-- A call in progress. -/
inductive ListCall
  /-- `increment_tick`. -/
  | ticking
  /-- `add_secondary_ip`, which keeps the lock of the list until it returns. -/
  | add (iface ip netmask : String) (p : Fin 33) (tick : ℕ)
  /-- `cleanup_old_secondary`. -/
  | clear (point : ClearPoint)
  /-- `do_ip_jump_async`, `do_periodic_cleanup` or `remove_secondary_ip`. -/
  | task (t : Task)
  /-- After the return. -/
  | finished

/-- One move of a call. Whenever the tick counter changes, its new value has been returned. -/
def ListCall.turn (net : Net) (io : TaskIo) (s : Ticked) : ListCall → Option (Ticked × ListCall)
  | .ticking =>
    let (m, tick) := incrementTick s.manager
    some (⟨m, tick :: s.issued⟩, .finished)
  | .add iface ip netmask p tick =>
    if tick ∈ s.issued then
      some ({ s with
        manager := (addSecondaryIp net (io.faults .secondaryAdd) s.manager iface ip netmask p
          tick).1 }, .finished)
    else none
  | .clear point =>
    (point.turn net io.faults s.manager).map fun next =>
      ({ s with manager := next.1 }, .clear next.2)
  | .task t =>
    (t.turn net io s.manager).map fun next =>
      (⟨next.1, if next.1.tickCounter = s.manager.tickCounter then s.issued
        else next.1.tickCounter :: s.issued⟩, .task next.2)
  | .finished => none

/-- A call that has not begun. -/
def ListCall.starts : ListCall → Bool
  | .ticking | .add _ _ _ _ _ | .clear (.start _) => true
  | .task t => t.starts
  | _ => false

/-- A new manager, without any calls of `increment_tick`. -/
def Ticked.IsNew (s : Ticked) : Prop := s.manager.IsNew ∧ s.issued = []

/-- Any number of calls on a new manager, in any interleaving. -/
abbrev ListCall.system (net : Net) :
    Runs.System (Runs.Pool Ticked ListCall) (Runs.Move ListCall TaskIo) :=
  Runs.Pool.system Ticked.IsNew ListCall.starts (ListCall.turn net)

variable {net : Net} {io : TaskIo}

/-- The tick that a call is about to record. -/
def ListCall.records : ListCall → Option (String × String × ℕ)
  | .task t => t.records
  | _ => none

/-- A move ticks once or not at all. -/
def TicksOnce (m m' : IpJumpManager) : Prop :=
  m'.tickCounter = m.tickCounter ∨ m'.tickCounter = (m.tickCounter + 1) % UInt64.size

/-- Replacing the address does not tick. -/
theorem replaceAddress_tickCounter (net : Net) (faults : Faults) (m : IpJumpManager)
    (config : IpJumpConfig) (sourceIp : String) :
    (replaceAddress net faults m config sourceIp).1.tickCounter = m.tickCounter := by
  unfold replaceAddress
  dsimp only
  repeat' split
  all_goals rfl

/-- The end of a jump does not tick. -/
theorem concludeJump_tickCounter (net : Net) (faults : Faults) (m : IpJumpManager)
    (config : IpJumpConfig) (sourceIp : String) (backup : NetworkBackup) :
    (concludeJump net faults m config sourceIp backup).1.tickCounter = m.tickCounter := by
  unfold concludeJump
  dsimp only
  split
  · rfl
  · split <;> rfl

/-- The upload does not tick. -/
theorem uploadAddresses_tickCounter (io : CleanupIo) (m : IpJumpManager) (anyRemoved : Bool) :
    (uploadAddresses io m anyRemoved).tickCounter = m.tickCounter := by
  unfold uploadAddresses
  split
  · split <;> rfl
  · rfl

/-- There is no tick to be recorded. -/
theorem no_tick {n : ℕ} : ∀ r ∈ (none : Option (String × String × ℕ)), r.2.2 = n :=
  fun r hr => absurd hr (Option.not_mem_none r)

/-- A move of a jump ticks at most once, and a tick to be recorded is the one just made. -/
theorem JumpPoint.turn_tick {faults : Faults} {m : IpJumpManager} {point : JumpPoint}
    {next : IpJumpManager × JumpPoint} (hturn : point.turn net faults m = some next) :
    TicksOnce m next.1 ∧ ∀ r ∈ (Task.jump next.2).records, r.2.2 = next.1.tickCounter := by
  cases point with
  | start config =>
    simp only [JumpPoint.turn] at hturn
    split at hturn <;> cases hturn <;> exact ⟨.inl rfl, no_tick⟩
  | clearing config sourceIp point =>
    obtain rfl := Option.some.inj hturn
    cases hclear : point.turn net faults m with
    | none => exact ⟨.inl rfl, no_tick⟩
    | some cleared => exact ⟨.inl (ClearPoint.turn_list hclear).2, no_tick⟩
  | replacing config sourceIp =>
    have htick := replaceAddress_tickCounter net faults m config sourceIp
    simp only [JumpPoint.turn] at hturn
    generalize replaceAddress net faults m config sourceIp = result at hturn htick
    split at hturn <;> cases hturn <;> exact ⟨.inl htick, no_tick⟩
  | ticking config sourceIp backup p =>
    cases hturn
    refine ⟨.inr rfl, ?_⟩
    rintro r ⟨⟩
    rfl
  | recording config sourceIp backup p tick =>
    obtain ⟨new, -, heq⟩ := addSecondaryIp_fst net (faults .secondaryAdd) m
      ⟨backup.interface, sourceIp, p⟩ backup.netmask tick
    have htick := congrArg IpJumpManager.tickCounter heq
    cases hturn
    exact ⟨.inl htick, no_tick⟩
  | concluding config sourceIp backup =>
    have htick := concludeJump_tickCounter net faults m config sourceIp backup
    simp only [JumpPoint.turn] at hturn
    generalize concludeJump net faults m config sourceIp backup = result at hturn htick
    cases hturn
    exact ⟨.inl htick, no_tick⟩
  | finished result => cases hturn

/-- A move of a cleanup ticks at most once. -/
theorem CleanupPoint.turn_tick {io : CleanupIo} {m : IpJumpManager} {point : CleanupPoint}
    {next : IpJumpManager × CleanupPoint} (hturn : point.turn net io m = some next) :
    TicksOnce m next.1 := by
  cases point with
  | start => cases hturn; exact .inr rfl
  | listing tick => cases hturn; exact .inl rfl
  | removing tick i expired removed =>
    cases expired with
    | nil => cases hturn; exact .inl rfl
    | cons x rest =>
      simp only [CleanupPoint.turn] at hturn
      split at hturn <;> cases hturn <;> exact .inl rfl
  | dropping tick i expired =>
    cases expired with
    | nil => cases hturn
    | cons x rest => cases hturn; exact .inl rfl
  | uploading removed =>
    have htick := uploadAddresses_tickCounter io m removed
    simp only [CleanupPoint.turn] at hturn
    generalize uploadAddresses io m removed = m' at hturn htick
    cases hturn
    exact .inl htick
  | finished => cases hturn

/-- A move of a removal does not tick. -/
theorem RemovePoint.turn_tick {io : CleanupIo} {m : IpJumpManager} {point : RemovePoint}
    {next : IpJumpManager × RemovePoint} (hturn : point.turn net io m = some next) :
    TicksOnce m next.1 := by
  cases point with
  | start iface ip => cases hturn; exact .inl rfl
  | removing iface ip p =>
    simp only [RemovePoint.turn] at hturn
    split at hturn <;> cases hturn <;> exact .inl rfl
  | dropping iface ip => cases hturn; exact .inl rfl
  | finished result => cases hturn

/-- A move of a task ticks at most once, and a tick to be recorded is the one just made. -/
theorem Task.turn_tick {m : IpJumpManager} {t : Task} {next : IpJumpManager × Task}
    (hturn : t.turn net io m = some next) :
    TicksOnce m next.1 ∧ ∀ r ∈ next.2.records, r.2.2 = next.1.tickCounter := by
  cases t with
  | jump point =>
    obtain ⟨next', hnext, rfl⟩ := Option.map_eq_some_iff.mp hturn
    exact JumpPoint.turn_tick hnext
  | cleanup point =>
    obtain ⟨next', hnext, rfl⟩ := Option.map_eq_some_iff.mp hturn
    exact ⟨CleanupPoint.turn_tick hnext, no_tick⟩
  | remove point =>
    obtain ⟨next', hnext, rfl⟩ := Option.map_eq_some_iff.mp hturn
    exact ⟨RemovePoint.turn_tick hnext, no_tick⟩

/-- A move of a call drops entries at most, or records an entry with a tick that was returned or is
at hand. -/
theorem ListCall.turn_list {s : Ticked} {c : ListCall} {next : Ticked × ListCall}
    (hturn : c.turn net io s = some next) :
    next.1.manager.secondaryIps.Sublist s.manager.secondaryIps ∨
      ∃ entry, next.1.manager.secondaryIps = recordEntry entry s.manager.secondaryIps ∧
        (entry.addedTick ∈ s.issued ∨ ∃ r ∈ c.records, entry.addedTick = r.2.2) := by
  cases c with
  | ticking => cases hturn; exact .inl (List.Sublist.refl _)
  | add iface ip netmask p tick =>
    rw [ListCall.turn] at hturn
    split at hturn
    · next hissued =>
      obtain ⟨new, -, heq⟩ := addSecondaryIp_fst net (io.faults .secondaryAdd) s.manager
        ⟨iface, ip, p⟩ netmask tick
      cases hturn
      exact .inr ⟨_, congrArg IpJumpManager.secondaryIps heq, .inl hissued⟩
    · cases hturn
  | clear point =>
    obtain ⟨next', hnext, rfl⟩ := Option.map_eq_some_iff.mp hturn
    exact .inl (ClearPoint.turn_list hnext).1
  | task t =>
    obtain ⟨next', hnext, rfl⟩ := Option.map_eq_some_iff.mp hturn
    rcases Task.turn_list hnext with hsub | ⟨r, hr, netmask, p, heq⟩
    · exact .inl hsub
    · exact .inr ⟨_, heq, .inr ⟨r, hr, rfl⟩⟩
  | finished => cases hturn

/-- A move of a call ticks once or not at all, and a tick at hand is the one just made. -/
theorem ListCall.turn_tick {s : Ticked} {c : ListCall} {next : Ticked × ListCall}
    (hturn : c.turn net io s = some next) :
    (next.1.manager.tickCounter = s.manager.tickCounter ∧ next.1.issued = s.issued ∨
      next.1.manager.tickCounter = (s.manager.tickCounter + 1) % UInt64.size ∧
        next.1.issued = next.1.manager.tickCounter :: s.issued) ∧
      ∀ r ∈ next.2.records, r.2.2 = next.1.manager.tickCounter := by
  cases c with
  | ticking => cases hturn; exact ⟨.inr ⟨rfl, rfl⟩, no_tick⟩
  | add iface ip netmask p tick =>
    rw [ListCall.turn] at hturn
    split at hturn
    · obtain ⟨new, -, heq⟩ := addSecondaryIp_fst net (io.faults .secondaryAdd) s.manager
        ⟨iface, ip, p⟩ netmask tick
      have htick := congrArg IpJumpManager.tickCounter heq
      cases hturn
      exact ⟨.inl ⟨htick, rfl⟩, no_tick⟩
    · cases hturn
  | clear point =>
    obtain ⟨next', hnext, rfl⟩ := Option.map_eq_some_iff.mp hturn
    exact ⟨.inl ⟨(ClearPoint.turn_list hnext).2, rfl⟩, no_tick⟩
  | task t =>
    obtain ⟨next', hnext, rfl⟩ := Option.map_eq_some_iff.mp hturn
    obtain ⟨honce, hrecords⟩ := Task.turn_tick hnext
    refine ⟨?_, hrecords⟩
    by_cases hsame : next'.1.tickCounter = s.manager.tickCounter
    · exact .inl ⟨hsame, if_pos hsame⟩
    · exact .inr ⟨honce.resolve_left hsame, if_neg hsame⟩
  | finished => cases hturn

/-- Before the counter wraps around it counts the calls of `increment_tick`, and no tick that was
returned or recorded is after it. -/
structure Ticked.Dated (s : Ticked) : Prop where
  counter : s.manager.tickCounter = s.issued.length
  issued : ∀ tick ∈ s.issued, tick ≤ s.manager.tickCounter
  entries : ∀ e ∈ s.manager.secondaryIps, e.addedTick ≤ s.manager.tickCounter

/-- The counter does not go back before it wraps around. -/
theorem Ticked.Dated.turn {s : Ticked} {c : ListCall} {next : Ticked × ListCall} (h : s.Dated)
    (hrecords : ∀ r ∈ c.records, r.2.2 ≤ s.manager.tickCounter)
    (hturn : c.turn net io s = some next) (hwrap : next.1.issued.length < UInt64.size) :
    s.manager.tickCounter ≤ next.1.manager.tickCounter ∧ next.1.Dated := by
  have hcounter := h.counter
  obtain ⟨hticks, hmono⟩ :
      next.1.manager.tickCounter = next.1.issued.length ∧
        s.manager.tickCounter ≤ next.1.manager.tickCounter := by
    rcases (ListCall.turn_tick hturn).1 with ⟨hsame, hissued⟩ | ⟨htick, hissued⟩
    · rw [hissued, hsame]
      exact ⟨hcounter, le_refl _⟩
    · have hlength := congrArg List.length hissued
      rw [List.length_cons] at hlength
      rw [Nat.mod_eq_of_lt (by omega)] at htick
      omega
  refine ⟨hmono, hticks, ?_, ?_⟩
  · intro tick htick
    rcases (ListCall.turn_tick hturn).1 with ⟨-, hissued⟩ | ⟨-, hissued⟩
    · rw [hissued] at htick
      exact (h.issued tick htick).trans hmono
    · rw [hissued, List.mem_cons] at htick
      rcases htick with rfl | htick
      · exact le_refl _
      · exact (h.issued tick htick).trans hmono
  · intro e he
    refine le_trans ?_ hmono
    rcases ListCall.turn_list hturn with hsub | ⟨entry, hlist, htick⟩
    · exact h.entries e (hsub.subset he)
    · rw [hlist] at he
      rcases mem_recordEntry he with hold | ⟨-, hadded⟩
      · exact h.entries e hold
      · rw [hadded]
        rcases htick with hissued | ⟨r, hr, htick⟩
        · exact h.issued _ hissued
        · rw [htick]
          exact hrecords r hr

/-- What holds of the list and the counter in every state. -/
def Ticked.Keyed (s : Ticked) : Prop :=
  KeysNodup s.manager ∧ (s.issued.length < UInt64.size → s.Dated)

/-- What holds of every call: the tick at hand is not after the counter. -/
def ListCall.Timely (s : Ticked) (c : ListCall) : Prop :=
  s.issued.length < UInt64.size → ∀ r ∈ c.records, r.2.2 ≤ s.manager.tickCounter

/-- A move of a call keeps what holds of the list and of every call. -/
theorem ListCall.turn_keyed {s : Ticked} {c : ListCall} {next : Ticked × ListCall} (h : s.Keyed)
    (hc : c.Timely s) (hturn : c.turn net io s = some next) :
    next.1.Keyed ∧ next.2.Timely next.1 ∧
      ∀ other : ListCall, other.Timely s → other.Timely next.1 := by
  have hissued : s.issued.length ≤ next.1.issued.length := by
    rcases (ListCall.turn_tick hturn).1 with ⟨-, hissued⟩ | ⟨-, hissued⟩
    · rw [hissued]
    · rw [hissued, List.length_cons]
      omega
  have hdated (hwrap : next.1.issued.length < UInt64.size) :=
    (h.2 (by omega)).turn (hc (by omega)) hturn hwrap
  refine ⟨⟨?_, fun hwrap => (hdated hwrap).2⟩, fun _ r hr => ?_, fun other hother hwrap r hr => ?_⟩
  · rcases ListCall.turn_list hturn with hsub | ⟨entry, hlist, -⟩
    · exact List.Nodup.sublist (hsub.map _) h.1
    · rw [KeysNodup, hlist]
      exact nodup_recordEntry h.1
  · exact le_of_eq ((ListCall.turn_tick hturn).2 r hr)
  · exact (hother (by omega) r hr).trans (hdated hwrap).1

/-- No call has a tick at hand before it begins. -/
theorem ListCall.timely_of_starts {s : Ticked} {c : ListCall} (h : c.starts = true) :
    c.Timely s := by
  intro _ r hr
  cases c with
  | task t =>
    cases t with
    | jump point =>
      cases point with
      | recording => exact nomatch h
      | _ => exact nomatch hr
    | _ => exact nomatch hr
  | _ => exact nomatch hr

/-- No two entries of the list are ever for the same address, and before the tick counter wraps
around no entry has a later tick. -/
theorem unique_and_not_later {p : Runs.Pool Ticked ListCall}
    (h : (ListCall.system net).Reachable p) :
    (p.shared.manager.secondaryIps.map fun e => (e.interface, e.ip)).Nodup ∧
      (p.shared.issued.length < UInt64.size →
        ∀ e ∈ p.shared.manager.secondaryIps, e.addedTick ≤ p.shared.manager.tickCounter) := by
  have hinv : p.Holds Ticked.Keyed fun s c => c.Timely s := by
    refine h.invariant (I := fun p => p.Holds Ticked.Keyed fun s c => c.Timely s) ?_ ?_
    · rintro p ⟨⟨⟨iface, host, hnew⟩, hissued⟩, htasks⟩
      refine ⟨⟨?_, fun _ => ⟨?_, ?_, ?_⟩⟩, fun c hc => ?_⟩
      · rw [KeysNodup, hnew]
        exact List.nodup_nil
      · rw [hnew, hissued]
        rfl
      · rw [hissued]
        exact fun _ htick => absurd htick List.not_mem_nil
      · rw [hnew]
        exact fun _ he => absurd he List.not_mem_nil
      · rw [htasks] at hc
        exact absurd hc List.not_mem_nil
    · intro p move p' hp _ hstep
      cases move with
      | spawn c => exact Runs.Pool.Holds.spawn hp hstep ListCall.timely_of_starts
      | advance i io =>
        refine Runs.Pool.Holds.advance hp hstep fun c next _ hc hturn => ?_
        obtain ⟨hkeyed, hnext, hothers⟩ := ListCall.turn_keyed hp.1 hc hturn
        exact ⟨hkeyed, hnext, fun other _ => hothers other⟩
  exact ⟨hinv.1.1, fun hwrap => (hinv.1.2 hwrap).entries⟩

/-- An address is added twice, with two ticks. -/
def addedTwice : List (Runs.Move ListCall TaskIo) :=
  [.spawn .ticking, .advance 0 allSucceed,
    .spawn (.add "eth0" "10.0.0.5" "255.255.255.0" slash24 1), .advance 1 allSucceed,
    .spawn .ticking, .advance 2 allSucceed,
    .spawn (.add "eth0" "10.0.0.5" "255.255.255.0" slash24 2), .advance 3 allSucceed]

/-- The second call of `add_secondary_ip` makes no second entry. -/
theorem unique_and_not_later_added_twice :
    ∃ p : Runs.Pool Ticked ListCall, (p.shared.manager.secondaryIps.map (·.addedTick) = [2] ∧
        p.shared.issued = [2, 1]) ∧
      (p.shared.manager.secondaryIps.map fun e => (e.interface, e.ip)).Nodup ∧
      ∀ e ∈ p.shared.manager.secondaryIps, e.addedTick ≤ p.shared.manager.tickCounter := by
  have hexec : ((ListCall.system Net.dotted).exec ⟨⟨soleAddress.shared, []⟩, []⟩ addedTwice).map
      (fun p => (p.shared.manager.secondaryIps.map (·.addedTick), p.shared.issued)) =
        some ([2], [2, 1]) := by decide
  obtain ⟨p, hexec, hticks⟩ := Option.map_eq_some_iff.mp hexec
  obtain ⟨hlist, hissued⟩ := Prod.mk.inj hticks
  have hreach : (ListCall.system Net.dotted).Reachable p :=
    Runs.System.Reachable.exec (.init ⟨⟨⟨"eth0", _, rfl⟩, rfl⟩, rfl⟩) hexec
  obtain ⟨hunique, hlater⟩ := unique_and_not_later hreach
  refine ⟨p, ⟨hlist, hissued⟩, hunique, hlater ?_⟩
  rw [hissued]
  decide

end LinuxAgent.IpJump
