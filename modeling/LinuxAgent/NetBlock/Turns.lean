import Mathlib.Tactic.ByContra
import LinuxAgent.NetBlock.Policies

/-!
# Turns of the block policies

What one step can do, and how the locks are held: the holder of a lock is the call or
the task that stands at a point between its `write().await` and the end of its scope.
-/

namespace LinuxAgent.NetBlock

variable {timer : Timer} {s s' : State}

/-- The steps, one by one. -/
inductive Turn (timer : Timer) (s : State) : Action → State → Prop
  | call (ps : List IpPolicy) :
    Turn timer s (.call ps) { s with calls := s.calls ++ [.waitPolicies ps] }
  | tick (seconds : ℕ) : Turn timer s (.tick seconds) { s with now := s.now + seconds }
  | takePolicies {i : ℕ} {io : ProcIo} {ps : List IpPolicy}
    (hcall : s.calls[i]? = some (.waitPolicies ps)) (hfree : s.locks .policies = none) :
    Turn timer s (.advanceCall i io) (State.setCall
      { s with locks := Locks.acquire s.locks .policies (.call i) } i (.waitTasks ps))
  | takeTasks {i : ℕ} {io : ProcIo} {ps : List IpPolicy}
    (hcall : s.calls[i]? = some (.waitTasks ps)) (hfree : s.locks .tasks = none) :
    Turn timer s (.advanceCall i io) (State.setCall
      { s with locks := Locks.acquire s.locks .tasks (.call i) } i (.applying ps))
  | apply {i : ℕ} {io : ProcIo} {p : IpPolicy} {ps : List IpPolicy}
    (hcall : s.calls[i]? = some (.applying (p :: ps))) :
    Turn timer s (.advanceCall i io) ((s.applyPolicy p).setCall i (.applying ps))
  | write {i : ℕ} {io : ProcIo} (hcall : s.calls[i]? = some (.applying []))
    (hperm : io.order.Perm s.values) :
    Turn timer s (.advanceCall i io) ((s.writeAndRelease io (.call i)).setCall i
      (.finished (writePoliciesToProc io s.tables).2))
  | fallAsleep {i : ℕ} {io : ProcIo} {e : Expiry} (htask : s.expiries[i]? = some e)
    (hpoint : e.point = .spawned) :
    Turn timer s (.advanceExpiry i io)
      (s.setPoint i e (.sleeping (timer.deadline s.now e.duration)))
  | wake {i : ℕ} {io : ProcIo} {e : Expiry} {deadline : ℕ} (htask : s.expiries[i]? = some e)
    (hpoint : e.point = .sleeping deadline) (hdue : deadline ≤ s.now) :
    Turn timer s (.advanceExpiry i io) (s.setPoint i e .waitPolicies)
  | removePolicy {i : ℕ} {io : ProcIo} {e : Expiry} (htask : s.expiries[i]? = some e)
    (hpoint : e.point = .waitPolicies) (hfree : s.locks .policies = none) :
    Turn timer s (.advanceExpiry i io) { s.setPoint i e .waitTasks with
      locks := Locks.acquire s.locks .policies (.expiry i)
      policies := s.policies.erase e.ip }
  | removeHandle {i : ℕ} {io : ProcIo} {e : Expiry} (htask : s.expiries[i]? = some e)
    (hpoint : e.point = .waitTasks) (hfree : s.locks .tasks = none) :
    Turn timer s (.advanceExpiry i io) { s.setPoint i e .writing with
      locks := Locks.acquire s.locks .tasks (.expiry i)
      handles := s.handles.erase e.ip }
  | rewrite {i : ℕ} {io : ProcIo} {e : Expiry} (htask : s.expiries[i]? = some e)
    (hpoint : e.point = .writing) (hperm : io.order.Perm s.values) :
    Turn timer s (.advanceExpiry i io)
      ((s.writeAndRelease io (.expiry i)).setPoint i e .finished)

/-- A lock is taken when it is free. -/
theorem State.take_eq_some {l : LockName} {owner : Owner} {t : State} :
    s.take l owner = some t ↔
      s.locks l = none ∧ t = { s with locks := Locks.acquire s.locks l owner } := by
  unfold State.take
  split
  · next hfree => simp [hfree, eq_comm]
  · next hheld => simp [hheld]

/-- A turn of a call is one of these steps. -/
theorem turn_of_advanceCall {i : ℕ} {io : ProcIo} (hstep : s.advanceCall i io = some s') :
    Turn timer s (.advanceCall i io) s' := by
  unfold State.advanceCall at hstep
  split at hstep
  · next ps hcall =>
    obtain ⟨t, ht, rfl⟩ := Option.map_eq_some_iff.mp hstep
    obtain ⟨hfree, rfl⟩ := State.take_eq_some.mp ht
    exact .takePolicies hcall hfree
  · next ps hcall =>
    obtain ⟨t, ht, rfl⟩ := Option.map_eq_some_iff.mp hstep
    obtain ⟨hfree, rfl⟩ := State.take_eq_some.mp ht
    exact .takeTasks hcall hfree
  · next p ps hcall =>
    obtain rfl := Option.some.inj hstep
    exact .apply hcall
  · next hcall =>
    split at hstep
    · next hperm =>
      obtain rfl := Option.some.inj hstep
      exact .write hcall hperm
    · cases hstep
  · cases hstep

/-- A turn of an expiry task is one of these steps. -/
theorem turn_of_advanceExpiry {i : ℕ} {io : ProcIo}
    (hstep : s.advanceExpiry timer i io = some s') : Turn timer s (.advanceExpiry i io) s' := by
  unfold State.advanceExpiry at hstep
  split at hstep
  · cases hstep
  · next e htask =>
    split at hstep
    · next hpoint =>
      obtain rfl := Option.some.inj hstep
      exact .fallAsleep htask hpoint
    · next deadline hpoint =>
      split at hstep
      · next hdue =>
        obtain rfl := Option.some.inj hstep
        exact .wake htask hpoint hdue
      · cases hstep
    · next hpoint =>
      obtain ⟨t, ht, rfl⟩ := Option.map_eq_some_iff.mp hstep
      obtain ⟨hfree, rfl⟩ := State.take_eq_some.mp ht
      exact .removePolicy htask hpoint hfree
    · next hpoint =>
      obtain ⟨t, ht, rfl⟩ := Option.map_eq_some_iff.mp hstep
      obtain ⟨hfree, rfl⟩ := State.take_eq_some.mp ht
      exact .removeHandle htask hpoint hfree
    · next hpoint =>
      split at hstep
      · next hperm =>
        obtain rfl := Option.some.inj hstep
        exact .rewrite htask hpoint hperm
      · cases hstep
    · cases hstep
    · cases hstep

/-- Every step is one of these. -/
theorem turn_of_step {a : Action} (hstep : (system timer).step s a = some s') :
    Turn timer s a s' := by
  cases a with
  | call ps =>
    obtain rfl := Option.some.inj hstep
    exact .call ps
  | tick seconds =>
    obtain rfl := Option.some.inj hstep
    exact .tick seconds
  | advanceCall i io => exact turn_of_advanceCall hstep
  | advanceExpiry i io => exact turn_of_advanceExpiry hstep

/-- The locks a call holds at a point. -/
def UpdatePoint.holds : UpdatePoint → LockName → Bool
  | .waitTasks _, .policies => true
  | .applying _, _ => true
  | _, _ => false

/-- The lock a call waits for at a point. -/
def UpdatePoint.wants : UpdatePoint → Option LockName
  | .waitPolicies _ => some .policies
  | .waitTasks _ => some .tasks
  | .applying _ | .finished _ => none

/-- The locks a task holds at a point. -/
def ExpiryPoint.holds : ExpiryPoint → LockName → Bool
  | .waitTasks, .policies => true
  | .writing, _ => true
  | _, _ => false

/-- The lock a task waits for at a point. -/
def ExpiryPoint.wants : ExpiryPoint → Option LockName
  | .waitPolicies => some .policies
  | .waitTasks => some .tasks
  | .spawned | .sleeping _ | .writing | .finished | .aborted => none

/-- The locks that calls and tasks hold where they stand. -/
def State.holds (s : State) : Owner → LockName → Bool
  | .call i, l => s.calls[i]?.any fun point => point.holds l
  | .expiry i, l => s.expiries[i]?.any fun e => e.point.holds l

/-- The lock that a call or a task waits for. -/
def State.wants (s : State) : Owner → Option LockName
  | .call i => s.calls[i]?.bind UpdatePoint.wants
  | .expiry i => s.expiries[i]?.bind fun e => e.point.wants

/-- The locks are held by those who stand between taking and dropping them. -/
def State.Locked (s : State) : Prop := Locks.Agrees s.locks s.holds

/-- Moving a call changes what that call holds. -/
theorem State.holds_setCall {i : ℕ} {old new : UpdatePoint} (hcall : s.calls[i]? = some old) :
    (s.setCall i new).holds = Function.update s.holds (.call i) new.holds := by
  have hlt : i < s.calls.length := (List.getElem?_eq_some_iff.mp hcall).1
  funext owner l
  cases owner with
  | call j =>
    by_cases hj : j = i
    · subst hj
      simp [State.holds, State.setCall, hlt]
    · simp [State.holds, State.setCall, hj, List.getElem?_set_ne (Ne.symm hj)]
  | expiry j => simp [State.holds, State.setCall]

/-- Moving a task changes what that task holds. -/
theorem State.holds_setPoint {i : ℕ} {e : Expiry} {point : ExpiryPoint}
    (htask : s.expiries[i]? = some e) :
    (s.setPoint i e point).holds = Function.update s.holds (.expiry i) point.holds := by
  have hlt : i < s.expiries.length := (List.getElem?_eq_some_iff.mp htask).1
  funext owner l
  cases owner with
  | call j => simp [State.holds, State.setPoint]
  | expiry j =>
    by_cases hj : j = i
    · subst hj
      simp [State.holds, State.setPoint, hlt]
    · simp [State.holds, State.setPoint, hj, List.getElem?_set_ne (Ne.symm hj)]

/-- What a call holds. -/
theorem State.holds_call {i : ℕ} {point : UpdatePoint} (hcall : s.calls[i]? = some point) :
    s.holds (.call i) = point.holds := by
  funext l
  simp [State.holds, hcall]

/-- What a task holds. -/
theorem State.holds_expiry {i : ℕ} {e : Expiry} (htask : s.expiries[i]? = some e) :
    s.holds (.expiry i) = e.point.holds := by
  funext l
  simp [State.holds, htask]

/-- A new call holds nothing. -/
theorem State.holds_append_call (ps : List IpPolicy) :
    ({ s with calls := s.calls ++ [.waitPolicies ps] } : State).holds = s.holds := by
  funext owner l
  cases owner with
  | call j =>
    rcases Nat.lt_trichotomy j s.calls.length with hlt | rfl | hgt
    · simp [State.holds, List.getElem?_append_left hlt]
    · simp [State.holds, UpdatePoint.holds]
    · have hold : s.calls[j]? = none := List.getElem?_eq_none (by omega)
      have hnew : (s.calls ++ [UpdatePoint.waitPolicies ps])[j]? = none :=
        List.getElem?_eq_none (by rw [List.length_append, List.length_singleton]; omega)
      simp only [State.holds, hold, hnew]
  | expiry j => rfl

/-- A spawned task is one more. -/
theorem State.length_spawn (p : IpPolicy) : (s.spawn p).expiries.length = s.expiries.length + 1 :=
  List.length_append

/-- A new task holds nothing. -/
theorem State.holds_spawn (p : IpPolicy) : (s.spawn p).holds = s.holds := by
  funext owner l
  cases owner with
  | call j => rfl
  | expiry j =>
    rcases Nat.lt_trichotomy j s.expiries.length with hlt | rfl | hgt
    · simp [State.holds, State.spawn, List.getElem?_append_left hlt]
    · simp [State.holds, State.spawn, ExpiryPoint.holds]
    · have hold : s.expiries[j]? = none := List.getElem?_eq_none (by omega)
      have hnew : (s.spawn p).expiries[j]? = none :=
        List.getElem?_eq_none (by rw [State.length_spawn]; omega)
      simp only [State.holds, hold, hnew]

/-- A task that is aborted is gone, with its locks; nothing else changes. -/
theorem State.abort_eq {i : ℕ} {e : Expiry} (htask : s.expiries[i]? = some e)
    (hawaits : e.point.awaits = true) :
    s.abort i = { s.setPoint i e .aborted with locks := Locks.release s.locks (.expiry i) } := by
  unfold State.abort
  simp only [htask, hawaits, if_true]

/-- Managing the task of a policy touches the handles, the tasks and their locks only. -/
theorem State.manageTask_frame (p : IpPolicy) :
    (s.manageTask p).calls = s.calls ∧ (s.manageTask p).policies = s.policies ∧
      (s.manageTask p).now = s.now := by
  unfold State.manageTask
  split
  · split
    · unfold State.abort
      split
      · exact ⟨rfl, rfl, rfl⟩
      · split <;> exact ⟨rfl, rfl, rfl⟩
    · exact ⟨rfl, rfl, rfl⟩
  · split <;> exact ⟨rfl, rfl, rfl⟩

/-- A round of the loop moves no call. -/
theorem State.applyPolicy_calls (p : IpPolicy) : (s.applyPolicy p).calls = s.calls :=
  (State.manageTask_frame p).1

/-- A round of the loop stores the policy. -/
theorem State.applyPolicy_policies (p : IpPolicy) :
    (s.applyPolicy p).policies = s.policies.insert p.ip ⟨p, s.now⟩ := by
  change (s.manageTask p).policies.insert p.ip ⟨p, (s.manageTask p).now⟩ = _
  rw [(State.manageTask_frame p).2.1, (State.manageTask_frame p).2.2]

/-- Only an expiry task that takes the policies removes one, and only its own. -/
theorem Turn.removes {a : Action} {ip : String} (hturn : Turn timer s a s')
    (hbefore : ip ∈ s.policies) (hafter : ip ∉ s'.policies) :
    ∃ i io e, a = .advanceExpiry i io ∧ s.expiries[i]? = some e ∧ e.ip = ip ∧
      e.point = .waitPolicies ∧ s.locks .policies = none := by
  cases hturn with
  | @apply i io p ps hcall =>
    refine absurd ?_ hafter
    change ip ∈ (s.applyPolicy p).policies
    rw [State.applyPolicy_policies, AList.mem_insert]
    exact .inr hbefore
  | @removePolicy i io e htask hpoint hfree =>
    refine ⟨i, io, e, rfl, htask, ?_, hpoint, hfree⟩
    by_contra hne
    exact hafter (AList.mem_erase.mpr ⟨Ne.symm hne, hbefore⟩)
  | _ => exact absurd hbefore hafter

/-- An aborted task drops its locks. -/
theorem State.Locked.abort (hlocked : s.Locked) (i : ℕ) : (s.abort i).Locked := by
  unfold State.abort
  split
  · exact hlocked
  · next e htask =>
    split
    · have hnone : ExpiryPoint.aborted.holds = fun _ => false := rfl
      have hdrop := Locks.Agrees.release (p := Owner.expiry i) hlocked
      rw [← hnone, ← State.holds_setPoint htask] at hdrop
      exact hdrop
    · exact hlocked

/-- A round of the loop keeps the locks. -/
theorem State.Locked.applyPolicy (hlocked : s.Locked) (p : IpPolicy) :
    (s.applyPolicy p).Locked := by
  suffices hmanage : (s.manageTask p).Locked from hmanage
  unfold State.manageTask
  split
  · split
    · exact State.Locked.abort (s := { s with handles := s.handles.erase p.ip }) hlocked _
    · exact hlocked
  · split
    · unfold State.Locked
      rw [State.holds_spawn]
      exact hlocked
    · exact hlocked

/-- A call that has taken a lock, or dropped them all, and moves on. -/
theorem State.Locked.setCall {i : ℕ} {old new : UpdatePoint} {locks : LockName → Option Owner}
    (hcall : s.calls[i]? = some old)
    (hagree : Locks.Agrees locks (Function.update s.holds (.call i) new.holds)) :
    (State.setCall { s with locks } i new).Locked := by
  rw [← State.holds_setCall hcall] at hagree
  exact hagree

/-- A task that has taken a lock, or dropped them all, and moves on. -/
theorem State.Locked.setPoint {i : ℕ} {e : Expiry} {new : ExpiryPoint}
    {locks : LockName → Option Owner} (htask : s.expiries[i]? = some e)
    (hagree : Locks.Agrees locks (Function.update s.holds (.expiry i) new.holds)) :
    (State.setPoint { s with locks } i e new).Locked := by
  rw [← State.holds_setPoint htask] at hagree
  exact hagree

/-- A call takes a free lock. -/
theorem State.Locked.takeCall {i : ℕ} {old new : UpdatePoint} {l : LockName} (hlocked : s.Locked)
    (hcall : s.calls[i]? = some old) (hfree : s.locks l = none)
    (hholds : new.holds = Function.update old.holds l true) :
    (State.setCall { s with locks := Locks.acquire s.locks l (.call i) } i new).Locked := by
  refine State.Locked.setCall hcall ?_
  rw [hholds, ← State.holds_call hcall]
  exact Locks.Agrees.acquire hlocked hfree

/-- A task takes a free lock. -/
theorem State.Locked.takePoint {i : ℕ} {e : Expiry} {new : ExpiryPoint} {l : LockName}
    (hlocked : s.Locked) (htask : s.expiries[i]? = some e) (hfree : s.locks l = none)
    (hholds : new.holds = Function.update e.point.holds l true) :
    (State.setPoint { s with locks := Locks.acquire s.locks l (.expiry i) } i e new).Locked := by
  refine State.Locked.setPoint htask ?_
  rw [hholds, ← State.holds_expiry htask]
  exact Locks.Agrees.acquire hlocked hfree

/-- A task moves on with the locks it has. -/
theorem State.Locked.movePoint {i : ℕ} {e : Expiry} {new : ExpiryPoint} (hlocked : s.Locked)
    (htask : s.expiries[i]? = some e) (hholds : e.point.holds = new.holds) :
    (s.setPoint i e new).Locked := by
  refine State.Locked.setPoint htask (hlocked.keep ?_)
  rw [State.holds_expiry htask, hholds]

/-- Every step keeps the locks. -/
theorem State.Locked.turn {a : Action} (hlocked : s.Locked) (hturn : Turn timer s a s') :
    s'.Locked := by
  cases hturn with
  | call ps =>
    unfold State.Locked
    rw [State.holds_append_call]
    exact hlocked
  | tick seconds => exact hlocked
  | takePolicies hcall hfree =>
    apply hlocked.takeCall hcall hfree
    funext l
    cases l <;> rfl
  | takeTasks hcall hfree =>
    apply hlocked.takeCall hcall hfree
    funext l
    cases l <;> rfl
  | @apply i io p ps hcall =>
    have happly := hlocked.applyPolicy p
    have hcall' : (s.applyPolicy p).calls[i]? = some (.applying (p :: ps)) := by
      rw [State.applyPolicy_calls, hcall]
    refine State.Locked.setCall hcall' (happly.keep ?_)
    rw [State.holds_call hcall']
    rfl
  | @write i io hcall hperm =>
    exact State.Locked.setCall (s := s.writeAndRelease io (.call i)) hcall
      (Locks.Agrees.release hlocked)
  | fallAsleep htask hpoint =>
    apply hlocked.movePoint htask
    rw [hpoint]
    rfl
  | wake htask hpoint hdue =>
    apply hlocked.movePoint htask
    rw [hpoint]
    rfl
  | removePolicy htask hpoint hfree =>
    apply State.Locked.takePoint (s := { s with policies := _ }) hlocked htask hfree
    rw [hpoint]
    funext l
    cases l <;> rfl
  | removeHandle htask hpoint hfree =>
    apply State.Locked.takePoint (s := { s with handles := _ }) hlocked htask hfree
    rw [hpoint]
    funext l
    cases l <;> rfl
  | @rewrite i io e htask hpoint hperm =>
    exact State.Locked.setPoint (s := s.writeAndRelease io (.expiry i)) htask
      (Locks.Agrees.release hlocked)

/-- The order of the locks. -/
def LockName.rank : LockName → ℕ
  | .policies => 0
  | .tasks => 1

/-- A call wants a lock above those it holds. -/
theorem UpdatePoint.ordered {point : UpdatePoint} {k l : LockName}
    (hwants : point.wants = some l) (hholds : point.holds k = true) : k.rank < l.rank := by
  cases point with
  | waitPolicies ps => simp [UpdatePoint.holds] at hholds
  | waitTasks ps =>
    obtain rfl : LockName.tasks = l := Option.some.inj hwants
    cases k with
    | policies => decide
    | tasks => simp [UpdatePoint.holds] at hholds
  | applying ps => cases hwants
  | finished error => cases hwants

/-- A task wants a lock above those it holds. -/
theorem ExpiryPoint.ordered {point : ExpiryPoint} {k l : LockName}
    (hwants : point.wants = some l) (hholds : point.holds k = true) : k.rank < l.rank := by
  cases point with
  | waitPolicies => simp [ExpiryPoint.holds] at hholds
  | waitTasks =>
    obtain rfl : LockName.tasks = l := Option.some.inj hwants
    cases k with
    | policies => decide
    | tasks => simp [ExpiryPoint.holds] at hholds
  | _ => cases hwants

/-- Nobody waits for a lock in a cycle. -/
theorem State.Locked.acyclic (hlocked : s.Locked) (owner : Owner) :
    ¬ Relation.TransGen (Locks.WaitsFor s.locks s.wants) owner owner := by
  refine Locks.WaitsFor.acyclic (r := LockName.rank) (fun p k l hwants hown => ?_) owner
  rw [hlocked k p] at hown
  cases p with
  | call i =>
    obtain ⟨point, hcall, hl⟩ := Option.bind_eq_some_iff.mp hwants
    rw [State.holds_call hcall] at hown
    exact UpdatePoint.ordered hl hown
  | expiry i =>
    obtain ⟨e, htask, hl⟩ := Option.bind_eq_some_iff.mp hwants
    rw [State.holds_expiry htask] at hown
    exact ExpiryPoint.ordered hl hown

end LinuxAgent.NetBlock
