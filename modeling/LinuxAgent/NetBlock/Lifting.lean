import LinuxAgent.NetBlock.Consistency

/-!
# When a block is lifted

An expiry task is bound to the duration of the policy that started it. It removes the
policy of its address no earlier than that duration after its start. A policy that
arrives in the meantime replaces the stored one and leaves the task alone, so the block
it asks for is lifted at the old time.
-/

namespace LinuxAgent.NetBlock

variable {timer : Timer} {s s' : State}

/-- The earliest time at which a task may remove its policy. -/
def Expiry.due (timer : Timer) (e : Expiry) : ℕ := e.spawnedAt + min e.duration timer.longest

/-- A task that keeps its time, and whose address has no policy older than it. -/
structure Expiry.Timely (timer : Timer) (now : ℕ) (policies : AList fun _ : String => Stored)
    (e : Expiry) : Prop where
  spawned_le : e.spawnedAt ≤ now
  asleep : ∀ deadline, e.point = .sleeping deadline → e.due timer ≤ deadline
  awake : e.point = .waitPolicies → e.due timer ≤ now
  stored_after : e.point.awaits = true → ∀ st, policies.lookup e.ip = some st →
    e.spawnedAt ≤ st.storedAt

/-- Every task keeps its time. -/
def State.Timely (timer : Timer) (s : State) : Prop :=
  ∀ e ∈ s.expiries, e.Timely timer s.now s.policies

/-- Time that passes and policies that go do not make a task late. -/
theorem Expiry.Timely.mono {e : Expiry} (htimely : e.Timely timer s.now s.policies)
    (hnow : s.now ≤ s'.now)
    (hpolicies : ∀ ip st, s'.policies.lookup ip = some st → s.policies.lookup ip = some st) :
    e.Timely timer s'.now s'.policies := by
  refine ⟨Nat.le_trans htimely.spawned_le hnow, htimely.asleep, fun hpoint => ?_, ?_⟩
  · exact Nat.le_trans (htimely.awake hpoint) hnow
  · exact fun hawaits st hst => htimely.stored_after hawaits st (hpolicies _ st hst)

/-- A step that moves no task and stores no policy. -/
theorem State.Timely.mono (htimely : s.Timely timer) (hexpiries : s'.expiries = s.expiries)
    (hnow : s.now ≤ s'.now)
    (hpolicies : ∀ ip st, s'.policies.lookup ip = some st → s.policies.lookup ip = some st) :
    s'.Timely timer := by
  intro e he
  rw [hexpiries] at he
  exact (htimely e he).mono hnow hpolicies

/-- A task that moves on in time. -/
theorem State.Timely.setPoint {i : ℕ} {e : Expiry} {q : ExpiryPoint}
    (htimely : s.Timely timer) (htask : s.expiries[i]? = some e)
    (hasleep : ∀ deadline, q = .sleeping deadline → e.due timer ≤ deadline)
    (hawake : q = .waitPolicies → e.due timer ≤ s.now)
    (hruns : q.awaits = true → e.point.awaits = true) :
    (s.setPoint i e q).Timely timer := by
  have he : e.Timely timer s.now s.policies := htimely e (List.mem_of_getElem? htask)
  intro e' he'
  rcases List.mem_or_eq_of_mem_set he' with hmem | rfl
  · exact htimely e' hmem
  · exact ⟨he.spawned_le, hasleep, hawake, fun hawaits => he.stored_after (hruns hawaits)⟩

/-- Storing a policy whose task may have been started just now. -/
theorem State.Timely.store {p : IpPolicy} (htimely : ∀ e ∈ s.expiries,
      e.Timely timer s.now s.policies ∨ e = ⟨p.ip, p.duration, s.now, .spawned⟩) :
    (s.store p).Timely timer := by
  have hstored : (s.store p).policies.lookup p.ip = some ⟨p, s.now⟩ := AList.lookup_insert _
  intro e he
  rcases htimely e he with hold | rfl
  · refine ⟨hold.spawned_le, hold.asleep, hold.awake, fun hawaits st hst => ?_⟩
    by_cases hip : e.ip = p.ip
    · rw [hip, hstored] at hst
      obtain rfl := Option.some.inj hst
      exact hold.spawned_le
    · rw [show (s.store p).policies.lookup e.ip = s.policies.lookup e.ip from
        AList.lookup_insert_ne hip] at hst
      exact hold.stored_after hawaits st hst
  · refine ⟨Nat.le_refl _, by simp, by simp, fun _ st hst => ?_⟩
    obtain rfl := Option.some.inj (hstored.symm.trans hst)
    exact Nat.le_refl _

/-- An aborted task stays on time. -/
theorem State.Timely.abort (htimely : s.Timely timer) (i : ℕ) : (s.abort i).Timely timer := by
  unfold State.abort
  split
  · exact htimely
  · next e htask =>
    split
    · exact State.Timely.setPoint (q := .aborted) htimely htask (by simp) (by simp)
        (by simp [ExpiryPoint.awaits])
    · exact htimely

/-- A round of the loop keeps the tasks on time. -/
theorem State.Timely.applyPolicy (htimely : s.Timely timer) (p : IpPolicy) :
    (s.applyPolicy p).Timely timer := by
  unfold State.applyPolicy State.manageTask
  split
  · split
    · have habort (i : ℕ) : ({ s with handles := s.handles.erase p.ip }.abort i).Timely timer :=
        State.Timely.abort (s := { s with handles := s.handles.erase p.ip }) htimely i
      exact State.Timely.store fun e he => .inl (habort _ e he)
    · exact State.Timely.store fun e he => .inl (htimely e he)
  · split
    · refine State.Timely.store fun e he => ?_
      rcases List.mem_append.mp he with hmem | hmem
      · exact .inl (htimely e hmem)
      · exact .inr (List.mem_singleton.mp hmem)
    · exact State.Timely.store fun e he => .inl (htimely e he)

/-- Every step keeps the tasks on time. -/
theorem State.Timely.turn {a : Action} (htimely : s.Timely timer) (hturn : Turn timer s a s') :
    s'.Timely timer := by
  cases hturn with
  | call ps => exact htimely
  | tick seconds => exact htimely.mono rfl (Nat.le_add_right _ _) fun _ _ hst => hst
  | takePolicies hcall hfree => exact htimely
  | takeTasks hcall hfree => exact htimely
  | @apply i io p ps hcall => exact htimely.applyPolicy p
  | write hcall hperm => exact htimely
  | @fallAsleep i io e htask hpoint =>
    have he : e.Timely timer s.now s.policies := htimely e (List.mem_of_getElem? htask)
    refine htimely.setPoint htask (fun deadline hdeadline => ?_) (by simp) ?_
    · obtain rfl := ExpiryPoint.sleeping.inj hdeadline
      have hearly := timer.not_early s.now e.duration
      have hspawned := he.spawned_le
      unfold Expiry.due
      omega
    · rw [hpoint]
      exact fun _ => rfl
  | @wake i io e deadline htask hpoint hdue =>
    have he : e.Timely timer s.now s.policies := htimely e (List.mem_of_getElem? htask)
    refine htimely.setPoint htask (by simp) (fun _ => ?_) ?_
    · exact Nat.le_trans (he.asleep deadline hpoint) hdue
    · rw [hpoint]
      exact fun _ => rfl
  | @removePolicy i io e htask hpoint hfree =>
    have hmoved : (s.setPoint i e .waitTasks).Timely timer :=
      htimely.setPoint htask (by simp) (by simp) (by rw [hpoint]; exact fun _ => rfl)
    refine hmoved.mono rfl (Nat.le_refl _) fun ip st hst => ?_
    change (s.policies.erase e.ip).lookup ip = some st at hst
    by_cases hip : ip = e.ip
    · rw [hip, AList.lookup_erase] at hst
      cases hst
    · rwa [AList.lookup_erase_ne hip] at hst
  | @removeHandle i io e htask hpoint hfree =>
    have hmoved : (s.setPoint i e .writing).Timely timer :=
      htimely.setPoint htask (by simp) (by simp) (by rw [hpoint]; exact fun _ => rfl)
    exact hmoved.mono rfl (Nat.le_refl _) fun _ _ hst => hst
  | @rewrite i io e htask hpoint hperm =>
    have hmoved : (s.setPoint i e .finished).Timely timer :=
      htimely.setPoint htask (by simp) (by simp) (by simp [ExpiryPoint.awaits])
    exact hmoved.mono rfl (Nat.le_refl _) fun _ _ hst => hst

/-- The tasks are on time in every state of every run. -/
theorem State.timely_of_reachable (hs : (system timer).Reachable s) : s.Timely timer := by
  refine hs.invariant (I := State.Timely timer) (fun s hinit => ?_) ?_
  · obtain ⟨_, _, _, _, hexpiries, _⟩ := hinit
    intro e he
    rw [hexpiries] at he
    cases he
  · exact fun s a s' htimely _ hstep => htimely.turn (turn_of_step hstep)

/-- A policy with a duration for an address whose task runs leaves the task alone. -/
theorem State.applyPolicy_of_mem {p : IpPolicy} (hduration : 0 < p.duration)
    (hmem : p.ip ∈ s.handles) : s.applyPolicy p = s.store p := by
  obtain ⟨i, hi⟩ := Option.isSome_iff_exists.mp (AList.lookup_isSome.mpr hmem)
  unfold State.applyPolicy State.manageTask
  simp only [hi]
  rw [if_neg (by omega)]

/-- A policy with a duration for an address without a task starts one. -/
theorem State.applyPolicy_of_notMem {p : IpPolicy} (hduration : 0 < p.duration)
    (hmem : p.ip ∉ s.handles) : s.applyPolicy p = (s.spawn p).store p := by
  unfold State.applyPolicy State.manageTask
  simp only [AList.lookup_eq_none.mpr hmem]
  rw [if_pos hduration]

/-- In every state of every run, whatever the interleaving: a step that removes the policy
of an address is one of the task that runs for it, and at least the duration with which
that task was started has passed since. The stored policy is no older than the task, and
if it is the one that started the task, its own duration has passed since it was stored.
A policy with a duration that a call stores later replaces the stored one; the running
task and its deadline stay. Without a running task, it starts one. -/
theorem State.block_lifted_when_due (hs : (system timer).Reachable s) :
    (∀ a s' ip st, (system timer).step s a = some s' → s.policies.lookup ip = some st →
      ip ∉ s'.policies → ∃ i io e, a = .advanceExpiry i io ∧ s.handles.lookup ip = some i ∧
        s.expiries[i]? = some e ∧ e.ip = ip ∧
        e.spawnedAt + min e.duration timer.longest ≤ s.now ∧ e.spawnedAt ≤ st.storedAt ∧
        (st.storedAt = e.spawnedAt → st.policy.duration = e.duration →
          st.storedAt + min st.policy.duration timer.longest ≤ s.now)) ∧
    (∀ i io p ps s', s.calls[i]? = some (.applying (p :: ps)) →
      (system timer).step s (.advanceCall i io) = some s' → 0 < p.duration →
      s'.policies = s.policies.insert p.ip ⟨p, s.now⟩ ∧
      (p.ip ∈ s.handles → s'.handles = s.handles ∧ s'.expiries = s.expiries) ∧
      (p.ip ∉ s.handles → s'.handles = s.handles.insert p.ip s.expiries.length ∧
        s'.expiries = s.expiries ++ [⟨p.ip, p.duration, s.now, .spawned⟩])) := by
  have hcons := State.consistent_of_reachable hs
  have htimely := State.timely_of_reachable hs
  constructor
  · intro a s' ip st hstep hst hafter
    have hbefore : ip ∈ s.policies := mem_of_lookup hst
    obtain ⟨i, io, e, rfl, htask, rfl, hpoint, _⟩ :=
      (turn_of_step hstep).removes hbefore hafter
    have hawaits : e.point.awaits = true := by
      rw [hpoint]
      rfl
    have he := htimely e (List.mem_of_getElem? htask)
    have hhandle : s.handles.lookup e.ip = some i :=
      (hcons.handled.lookup_iff e.ip i).mpr ⟨e, htask, rfl, hawaits⟩
    have hdue : e.spawnedAt + min e.duration timer.longest ≤ s.now := he.awake hpoint
    refine ⟨i, io, e, rfl, hhandle, htask, rfl, hdue, he.stored_after hawaits st hst, ?_⟩
    intro hstored hduration
    rw [hstored, hduration]
    exact hdue
  · intro i io p ps s' hcall hstep hduration
    have happly : (s.applyPolicy p).setCall i (.applying ps) = s' := by
      simpa [system, State.step, State.advanceCall, hcall] using hstep
    subst happly
    refine ⟨State.applyPolicy_policies p, fun hmem => ?_, fun hmem => ?_⟩
    · rw [State.applyPolicy_of_mem hduration hmem]
      exact ⟨rfl, rfl⟩
    · rw [State.applyPolicy_of_notMem hduration hmem]
      exact ⟨rfl, rfl⟩

/-- What the environment does where it has no choice. -/
def noIo : ProcIo := ⟨[], 0, ""⟩

/-- A block for ten seconds is lifted after ten seconds. -/
theorem State.block_lifted_when_due_ten :
    ∃ s, (system secondsTimer).Reachable s ∧ s.now = 10 ∧
      s.policies.lookup "192.0.2.7" = some ⟨block 10, 0⟩ ∧
      ∃ s', (system secondsTimer).step s (.advanceExpiry 0 noIo) = some s' ∧
        "192.0.2.7" ∉ s'.policies ∧
        ∃ e, s.expiries[0]? = some e ∧ e.spawnedAt + min e.duration 68719476 ≤ 10 := by
  have hrun : ((system secondsTimer).exec idle (blockFor 0 10 ++
      [Action.advanceExpiry 0 noIo, Action.tick 10, Action.advanceExpiry 0 noIo])).map (fun s =>
        (s.now, s.policies.lookup "192.0.2.7",
          ((system secondsTimer).step s (.advanceExpiry 0 noIo)).map fun s' =>
            s'.policies.lookup "192.0.2.7")) =
      some (10, some ⟨block 10, 0⟩, some none) := by
    decide
  obtain ⟨s, hexec, hs⟩ := Option.map_eq_some_iff.mp hrun
  simp only [Prod.mk.injEq] at hs
  obtain ⟨hnow, hst, hnext⟩ := hs
  obtain ⟨s', hstep, hgone⟩ := Option.map_eq_some_iff.mp hnext
  have hreach : (system secondsTimer).Reachable s := Runs.System.Reachable.exec idle_reachable hexec
  have hafter : "192.0.2.7" ∉ s'.policies := AList.lookup_eq_none.mp hgone
  obtain ⟨i, io, e, haction, _, htask, _, hdue, _⟩ :=
    (State.block_lifted_when_due hreach).1 _ s' _ _ hstep hst hafter
  obtain ⟨rfl, _⟩ := Action.advanceExpiry.inj haction
  rw [hnow] at hdue
  exact ⟨s, hreach, hnow, hst, s', hstep, hafter, e, htask, hdue⟩

/-- A block for ten seconds that is sent again after nine seconds, for a hundred seconds,
is lifted one second later. -/
theorem State.resent_block_lifted_early :
    ¬ ∀ (s s' : State) (a : Action) (ip : String) (st : Stored),
      (system secondsTimer).Reachable s → (system secondsTimer).step s a = some s' →
      s.policies.lookup ip = some st → ip ∉ s'.policies →
      st.storedAt + st.policy.duration ≤ s.now := by
  intro hclaim
  have hrun : ((system secondsTimer).exec idle (blockFor 0 10 ++
      [Action.advanceExpiry 0 noIo, Action.tick 9] ++ blockFor 1 100 ++
      [Action.tick 1, Action.advanceExpiry 0 noIo])).map (fun s =>
        (s.now, s.policies.lookup "192.0.2.7",
          ((system secondsTimer).step s (.advanceExpiry 0 noIo)).map fun s' =>
            s'.policies.lookup "192.0.2.7")) =
      some (10, some ⟨block 100, 9⟩, some none) := by
    decide
  obtain ⟨s, hexec, hs⟩ := Option.map_eq_some_iff.mp hrun
  simp only [Prod.mk.injEq] at hs
  obtain ⟨hnow, hst, hnext⟩ := hs
  obtain ⟨s', hstep, hgone⟩ := Option.map_eq_some_iff.mp hnext
  have hreach : (system secondsTimer).Reachable s := Runs.System.Reachable.exec idle_reachable hexec
  have hlate := hclaim s s' _ _ _ hreach hstep hst (AList.lookup_eq_none.mp hgone)
  rw [hnow] at hlate
  exact absurd hlate (by decide)

end LinuxAgent.NetBlock
