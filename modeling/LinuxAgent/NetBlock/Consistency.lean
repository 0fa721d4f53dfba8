import Mathlib.Data.Finset.Insert
import LinuxAgent.NetBlock.Turns

/-!
# Policies, expiry tasks and kernel tables stay consistent

Whatever the order in which calls and expiry tasks take turns, an expiry task runs for
an address exactly while the address has a policy with a duration, the lock waits have
no cycle, and the kernel tables hold the addresses of the policies after every write
that succeeds.
-/

namespace LinuxAgent.NetBlock

variable {timer : Timer} {s s' : State}

/-- A key with a value is in the map. -/
theorem mem_of_lookup {β : Type} {m : AList fun _ : String => β} {ip : String} {v : β}
    (hlookup : m.lookup ip = some v) : ip ∈ m := by
  rw [← AList.lookup_isSome, hlookup]
  rfl

/-- The task `i` for the address has not been aborted and has not removed its handle. -/
def State.Running (s : State) (ip : String) (i : ℕ) : Prop :=
  ∃ e, s.expiries[i]? = some e ∧ e.ip = ip ∧ e.point.awaits = true

/-- The address has a policy with a duration. -/
def State.Timed (s : State) (ip : String) : Prop :=
  ∃ st, s.policies.lookup ip = some st ∧ 0 < st.policy.duration

/-- The address whose policy is removed already and whose handle is not. -/
def State.leaving (s : State) : Option String :=
  match s.locks .policies with
  | some (.expiry i) =>
    s.expiries[i]?.bind fun e => if e.point = .waitTasks then some e.ip else none
  | _ => none

/-- The handles are those of the running tasks, and they are there for the policies with
a duration, but for the one that is being removed. -/
structure State.Handled (s : State) : Prop where
  /-- A handle belongs to a running task for its address. -/
  lookup_iff : ∀ ip i, s.handles.lookup ip = some i ↔ s.Running ip i
  /-- An address has a handle while it has a policy with a duration or is leaving. -/
  mem_iff : ∀ ip, ip ∈ s.handles ↔ s.Timed ip ∨ s.leaving = some ip
  /-- An address that is leaving has no policy. -/
  left : ∀ ip, s.leaving = some ip → ip ∉ s.policies
  /-- A policy is stored under its own address. -/
  keyed : ∀ ip st, s.policies.lookup ip = some st → st.policy.ip = ip

/-- Nobody is leaving while no task holds the policies. -/
theorem State.leaving_eq_none (hheld : ∀ i, s.locks .policies ≠ some (.expiry i)) :
    s.leaving = none := by
  unfold State.leaving
  split
  · next i hi => exact absurd hi (hheld i)
  · rfl

/-- Steps between states in which no task holds the policies. -/
theorem State.leaving_eq_of_not_held (hbefore : ∀ i, s.locks .policies ≠ some (.expiry i))
    (hafter : ∀ i, s'.locks .policies ≠ some (.expiry i)) : s'.leaving = s.leaving := by
  rw [State.leaving_eq_none hbefore, State.leaving_eq_none hafter]

/-- Who is leaving while a task holds the policies. -/
theorem State.leaving_of_holder {i : ℕ} {e : Expiry} (hheld : s.locks .policies = some (.expiry i))
    (htask : s.expiries[i]? = some e) :
    s.leaving = if e.point = .waitTasks then some e.ip else none := by
  unfold State.leaving
  rw [hheld]
  simp [htask]

/-- What depends on neither the policies, the handles, the tasks that run nor the address
that is leaving does not matter to the maps. -/
theorem State.Handled.congr (hmaps : s.Handled) (hpolicies : s'.policies = s.policies)
    (hhandles : s'.handles = s.handles) (hrun : ∀ ip i, s'.Running ip i ↔ s.Running ip i)
    (hleave : s'.leaving = s.leaving) : s'.Handled := by
  refine ⟨fun ip i => ?_, fun ip => ?_, fun ip => ?_, fun ip => ?_⟩
  · rw [hhandles, hrun]
    exact hmaps.lookup_iff ip i
  · unfold State.Timed
    rw [hhandles, hpolicies, hleave]
    exact hmaps.mem_iff ip
  · rw [hleave, hpolicies]
    exact hmaps.left ip
  · rw [hpolicies]
    exact hmaps.keyed ip

/-- The tasks that run after one task has moved. -/
theorem State.running_setPoint {i j : ℕ} {e : Expiry} {point : ExpiryPoint} {ip : String}
    (htask : s.expiries[i]? = some e) :
    (s.setPoint i e point).Running ip j ↔
      if j = i then e.ip = ip ∧ point.awaits = true else s.Running ip j := by
  have hlt : i < s.expiries.length := (List.getElem?_eq_some_iff.mp htask).1
  unfold State.Running State.setPoint
  by_cases hj : j = i
  · subst hj
    simp [hlt]
  · simp [hj, List.getElem?_set_ne (Ne.symm hj)]

/-- A task that moves between two points at which it runs, or does not run at either. -/
theorem State.running_setPoint_same {i j : ℕ} {e : Expiry} {point : ExpiryPoint} {ip : String}
    (htask : s.expiries[i]? = some e) (hsame : point.awaits = e.point.awaits) :
    (s.setPoint i e point).Running ip j ↔ s.Running ip j := by
  rw [State.running_setPoint htask]
  split
  · next hj =>
    subst hj
    simp [State.Running, htask, hsame]
  · exact Iff.rfl

/-- A task that is not at the point between the two removals moves to another such
point. -/
theorem State.leaving_setPoint {i : ℕ} {e : Expiry} {point : ExpiryPoint}
    (htask : s.expiries[i]? = some e) (hold : e.point ≠ .waitTasks) (hnew : point ≠ .waitTasks) :
    (s.setPoint i e point).leaving = s.leaving := by
  have hlt : i < s.expiries.length := (List.getElem?_eq_some_iff.mp htask).1
  unfold State.leaving State.setPoint
  dsimp only
  cases hholder : s.locks .policies with
  | none => rfl
  | some owner =>
    cases owner with
    | call j => rfl
    | expiry j =>
      by_cases hij : j = i
      · subst hij
        simp only [List.getElem?_set_self hlt, htask, Option.bind_some, if_neg hold, if_neg hnew]
      · simp only [List.getElem?_set_ne (Ne.symm hij)]

/-- The tasks that run after one has been spawned. -/
theorem State.running_spawn {p : IpPolicy} {ip : String} {i : ℕ} :
    (s.spawn p).Running ip i ↔ (i = s.expiries.length ∧ ip = p.ip) ∨ s.Running ip i := by
  rcases Nat.lt_trichotomy i s.expiries.length with hlt | rfl | hgt
  · have hne : i ≠ s.expiries.length := by omega
    have hkept : (s.spawn p).expiries[i]? = s.expiries[i]? := List.getElem?_append_left hlt
    simp [State.Running, hkept, hne]
  · have hnew : (s.spawn p).expiries[s.expiries.length]? =
        some ⟨p.ip, p.duration, s.now, .spawned⟩ := List.getElem?_concat_length
    simp [State.Running, hnew, ExpiryPoint.awaits, eq_comm (a := ip)]
  · have hne : i ≠ s.expiries.length := by omega
    have hold : s.expiries[i]? = none := List.getElem?_eq_none (by omega)
    have hnew : (s.spawn p).expiries[i]? = none :=
      List.getElem?_eq_none (by rw [State.length_spawn]; omega)
    simp [State.Running, hold, hnew, hne]

/-- Storing a policy whose task has been managed. -/
theorem State.Handled.store {p : IpPolicy}
    (hlookup : ∀ ip i, s.handles.lookup ip = some i ↔ s.Running ip i)
    (hothers : ∀ ip, ip ≠ p.ip → (ip ∈ s.handles ↔ s.Timed ip))
    (hown : p.ip ∈ s.handles ↔ 0 < p.duration) (hleave : s.leaving = none)
    (hkeyed : ∀ ip st, s.policies.lookup ip = some st → st.policy.ip = ip) :
    (s.store p).Handled := by
  have hleave' : (s.store p).leaving = none := hleave
  refine ⟨hlookup, fun ip => ?_, fun ip hip => ?_, fun ip st hst => ?_⟩
  · rw [hleave']
    by_cases hip : ip = p.ip
    · subst hip
      have hstored : (s.store p).policies.lookup p.ip = some ⟨p, s.now⟩ := AList.lookup_insert _
      simp only [State.Timed, hstored, Option.some.injEq, exists_eq_left', reduceCtorEq, or_false]
      exact hown
    · have hkept : (s.store p).policies.lookup ip = s.policies.lookup ip :=
        AList.lookup_insert_ne hip
      simp only [State.Timed, hkept, reduceCtorEq, or_false]
      exact hothers ip hip
  · rw [hleave'] at hip
    cases hip
  · by_cases hip : ip = p.ip
    · subst hip
      rw [show (s.store p).policies.lookup p.ip = some ⟨p, s.now⟩ from AList.lookup_insert _] at hst
      obtain rfl := Option.some.inj hst
      rfl
    · rw [show (s.store p).policies.lookup ip = s.policies.lookup ip from
        AList.lookup_insert_ne hip] at hst
      exact hkeyed ip st hst

/-- While no task holds the policies, the handles are there for the policies with a
duration. -/
theorem State.Handled.mem_iff_timed (hmaps : s.Handled) (hleave : s.leaving = none) (ip : String) :
    ip ∈ s.handles ↔ s.Timed ip := by
  rw [hmaps.mem_iff ip, hleave]
  simp

/-- A round that starts a task. -/
theorem State.Handled.spawn {p : IpPolicy} (hmaps : s.Handled)
    (hheld : ∀ i, s.locks .policies ≠ some (.expiry i)) (hnew : p.ip ∉ s.handles)
    (hduration : 0 < p.duration) : ((s.spawn p).store p).Handled := by
  have hleave : s.leaving = none := State.leaving_eq_none hheld
  refine State.Handled.store (fun ip i => ?_) (fun ip hip => ?_) ?_
    (State.leaving_eq_none hheld) hmaps.keyed
  · rw [State.running_spawn, ← hmaps.lookup_iff]
    by_cases hip : ip = p.ip
    · subst hip
      have hnone : s.handles.lookup p.ip = none := AList.lookup_eq_none.mpr hnew
      simp [State.spawn, hnone, eq_comm]
    · simp [State.spawn, hip, AList.lookup_insert_ne hip]
  · have hmem : ip ∈ (s.spawn p).handles ↔ ip ∈ s.handles := by
      simp [State.spawn, hip]
    rw [hmem]
    exact hmaps.mem_iff_timed hleave ip
  · simp [State.spawn, hduration]

/-- A task that stops running and whose handle is removed. -/
theorem State.Handled.lookup_erase_iff {i j : ℕ} {e : Expiry} {point : ExpiryPoint} {ip : String}
    (hmaps : s.Handled) (htask : s.expiries[i]? = some e)
    (hhandle : s.handles.lookup e.ip = some i) (hover : point.awaits = false) :
    (s.handles.erase e.ip).lookup ip = some j ↔ (s.setPoint i e point).Running ip j := by
  have hrun : (s.setPoint i e point).Running ip j ↔ j ≠ i ∧ s.Running ip j := by
    rw [State.running_setPoint htask]
    split
    · next hj => simp [hj, hover]
    · next hj => simp [hj]
  rw [hrun]
  by_cases hne : ip = e.ip
  · subst hne
    rw [← hmaps.lookup_iff, hhandle, AList.lookup_erase]
    simp [eq_comm]
  · rw [AList.lookup_erase_ne hne, hmaps.lookup_iff]
    refine ⟨fun hj => ⟨?_, hj⟩, And.right⟩
    rintro rfl
    obtain ⟨e', htask', hip', _⟩ := hj
    obtain rfl : e' = e := Option.some.inj (htask'.symm.trans htask)
    exact hne hip'.symm

/-- A round that cancels a task. -/
theorem State.Handled.cancel {p : IpPolicy} {i : ℕ} (hmaps : s.Handled)
    (hheld : ∀ i, s.locks .policies ≠ some (.expiry i))
    (hhandle : s.handles.lookup p.ip = some i) (hduration : p.duration = 0) :
    (State.store ({ s with handles := s.handles.erase p.ip }.abort i) p).Handled := by
  have hleave : s.leaving = none := State.leaving_eq_none hheld
  obtain ⟨e, htask, hip, hawaits⟩ := (hmaps.lookup_iff p.ip i).mp hhandle
  rw [State.abort_eq (s := { s with handles := s.handles.erase p.ip }) htask hawaits]
  refine State.Handled.store (fun ip j => ?_) (fun ip hne => ?_) ?_ ?_ hmaps.keyed
  · rw [← hip] at hhandle ⊢
    exact hmaps.lookup_erase_iff htask hhandle rfl
  · have hmem : ip ∈ s.handles.erase p.ip ↔ ip ∈ s.handles := by
      simp [hne]
    exact hmem.trans (hmaps.mem_iff_timed hleave ip)
  · change p.ip ∈ s.handles.erase p.ip ↔ _
    simp [hduration]
  · exact State.leaving_eq_none fun j hj => hheld j (Locks.of_release hj)

/-- A round of the loop keeps the maps. -/
theorem State.Handled.applyPolicy (hmaps : s.Handled)
    (hheld : ∀ i, s.locks .policies ≠ some (.expiry i)) (p : IpPolicy) :
    (s.applyPolicy p).Handled := by
  have hleave : s.leaving = none := State.leaving_eq_none hheld
  have hstore (hown : p.ip ∈ s.handles ↔ 0 < p.duration) : (s.store p).Handled :=
    .store hmaps.lookup_iff (fun ip _ => hmaps.mem_iff_timed hleave ip) hown hleave hmaps.keyed
  unfold State.applyPolicy State.manageTask
  split
  · next i hhandle =>
    have hmem : p.ip ∈ s.handles := mem_of_lookup hhandle
    split
    · next hduration => exact hmaps.cancel hheld hhandle hduration
    · next hduration => exact hstore (iff_of_true hmem (by omega))
  · next hhandle =>
    have hmem : p.ip ∉ s.handles := AList.lookup_eq_none.mp hhandle
    split
    · next hduration => exact hmaps.spawn hheld hmem hduration
    · next hduration => exact hstore (iff_of_false hmem hduration)

/-- A task that waits for the policies or comes before has a policy with a duration. -/
theorem State.Handled.timed_of_running (hmaps : s.Handled)
    (hleave : s.leaving = none) {ip : String} {i : ℕ} (hrun : s.Running ip i) : s.Timed ip := by
  have hhandle := (hmaps.lookup_iff ip i).mpr hrun
  have hmem : ip ∈ s.handles := mem_of_lookup hhandle
  exact (hmaps.mem_iff_timed hleave ip).mp hmem

/-- The first removal of a task. -/
theorem State.Handled.removePolicy {i : ℕ} {e : Expiry} (hmaps : s.Handled)
    (htask : s.expiries[i]? = some e) (hpoint : e.point = .waitPolicies)
    (hfree : s.locks .policies = none) :
    State.Handled { s.setPoint i e .waitTasks with
      locks := Locks.acquire s.locks .policies (.expiry i)
      policies := s.policies.erase e.ip } := by
  have hlt : i < s.expiries.length := (List.getElem?_eq_some_iff.mp htask).1
  have hnone : s.leaving = none := State.leaving_eq_none (by simp [hfree])
  have hrunning : s.Running e.ip i := ⟨e, htask, rfl, by rw [hpoint]; rfl⟩
  have htimed : s.Timed e.ip := hmaps.timed_of_running hnone hrunning
  have hleave : State.leaving { s.setPoint i e .waitTasks with
      locks := Locks.acquire s.locks .policies (.expiry i)
      policies := s.policies.erase e.ip } = some e.ip := by
    rw [State.leaving_of_holder (i := i) (e := { e with point := .waitTasks })]
    · rfl
    · simp [Locks.acquire]
    · simp [State.setPoint, hlt]
  refine ⟨fun ip j => ?_, fun ip => ?_, fun ip hip => ?_, fun ip st hst => ?_⟩
  · refine (hmaps.lookup_iff ip j).trans (State.running_setPoint_same htask ?_).symm
    rw [hpoint]
    rfl
  · rw [hleave]
    change ip ∈ s.handles ↔ _
    rw [hmaps.mem_iff_timed hnone]
    by_cases hip : ip = e.ip
    · subst hip
      simp [htimed]
    · simp [State.Timed, AList.lookup_erase_ne hip, Ne.symm hip]
  · rw [hleave] at hip
    obtain rfl := Option.some.inj hip
    simp
  · change (s.policies.erase e.ip).lookup ip = some st at hst
    by_cases hip : ip = e.ip
    · rw [hip, AList.lookup_erase] at hst
      cases hst
    · rw [AList.lookup_erase_ne hip] at hst
      exact hmaps.keyed ip st hst

/-- The second removal of a task. -/
theorem State.Handled.removeHandle {i : ℕ} {e : Expiry} (hmaps : s.Handled)
    (htask : s.expiries[i]? = some e) (hpoint : e.point = .waitTasks)
    (hheld : s.locks .policies = some (.expiry i)) :
    State.Handled { s.setPoint i e .writing with
      locks := Locks.acquire s.locks .tasks (.expiry i)
      handles := s.handles.erase e.ip } := by
  have hlt : i < s.expiries.length := (List.getElem?_eq_some_iff.mp htask).1
  have hbefore : s.leaving = some e.ip := by
    rw [State.leaving_of_holder hheld htask, if_pos hpoint]
  have hgone : e.ip ∉ s.policies := hmaps.left e.ip hbefore
  have hrunning : s.Running e.ip i := ⟨e, htask, rfl, by rw [hpoint]; rfl⟩
  have hhandle : s.handles.lookup e.ip = some i := (hmaps.lookup_iff e.ip i).mpr hrunning
  have hleave : State.leaving { s.setPoint i e .writing with
      locks := Locks.acquire s.locks .tasks (.expiry i)
      handles := s.handles.erase e.ip } = none := by
    rw [State.leaving_of_holder (i := i) (e := { e with point := .writing })]
    · rfl
    · simp [Locks.acquire, hheld]
    · simp [State.setPoint, hlt]
  refine ⟨fun ip j => ?_, fun ip => ?_, fun ip hip => ?_, hmaps.keyed⟩
  · exact hmaps.lookup_erase_iff htask hhandle rfl
  · rw [hleave]
    change ip ∈ s.handles.erase e.ip ↔ s.Timed ip ∨ _
    rw [AList.mem_erase, hmaps.mem_iff, hbefore]
    by_cases hip : ip = e.ip
    · subst hip
      have huntimed : ¬ s.Timed e.ip := by
        rintro ⟨st, hst, _⟩
        exact hgone (mem_of_lookup hst)
      simp [huntimed]
    · simp [hip, Ne.symm hip]
  · rw [hleave] at hip
    cases hip

/-- A task moves on outside its critical section. -/
theorem State.Handled.movePoint {i : ℕ} {e : Expiry} {point : ExpiryPoint} (hmaps : s.Handled)
    (htask : s.expiries[i]? = some e) (hruns : point.awaits = e.point.awaits)
    (hold : e.point ≠ .waitTasks) (hnew : point ≠ .waitTasks) :
    (s.setPoint i e point).Handled :=
  hmaps.congr rfl rfl (fun _ _ => State.running_setPoint_same htask hruns)
    (State.leaving_setPoint htask hold hnew)

/-- A call that stands in its critical section holds the policies. -/
theorem State.Locked.policies_of_call {i : ℕ} {point : UpdatePoint} (hlocked : s.Locked)
    (hcall : s.calls[i]? = some point) (hholds : point.holds .policies = true) :
    s.locks .policies = some (.call i) := by
  apply (hlocked .policies (.call i)).mpr
  rw [State.holds_call hcall]
  exact hholds

/-- A task that stands in its critical section holds the policies. -/
theorem State.Locked.policies_of_expiry {i : ℕ} {e : Expiry} (hlocked : s.Locked)
    (htask : s.expiries[i]? = some e) (hholds : e.point.holds .policies = true) :
    s.locks .policies = some (.expiry i) := by
  apply (hlocked .policies (.expiry i)).mpr
  rw [State.holds_expiry htask]
  exact hholds

/-- Every step keeps the maps. -/
theorem State.Handled.turn {a : Action} (hlocked : s.Locked) (hmaps : s.Handled)
    (hturn : Turn timer s a s') : s'.Handled := by
  cases hturn with
  | call ps => exact hmaps.congr rfl rfl (fun _ _ => Iff.rfl) rfl
  | tick seconds => exact hmaps.congr rfl rfl (fun _ _ => Iff.rfl) rfl
  | takePolicies hcall hfree =>
    exact hmaps.congr rfl rfl (fun _ _ => Iff.rfl) (State.leaving_eq_of_not_held
      (by simp [hfree]) (by simp [State.setCall, Locks.acquire]))
  | takeTasks hcall hfree =>
    have hheld := hlocked.policies_of_call hcall rfl
    exact hmaps.congr rfl rfl (fun _ _ => Iff.rfl) (State.leaving_eq_of_not_held
      (by simp [hheld]) (by simp [State.setCall, Locks.acquire, hheld]))
  | @apply i io p ps hcall =>
    have hheld := hlocked.policies_of_call hcall rfl
    have happlied := hmaps.applyPolicy (by simp [hheld]) p
    exact happlied.congr rfl rfl (fun _ _ => Iff.rfl) rfl
  | @write i io hcall hperm =>
    have hheld := hlocked.policies_of_call hcall rfl
    have hfree : Locks.release s.locks (.call i) .policies = none := Locks.release_self hheld
    exact hmaps.congr rfl rfl (fun _ _ => Iff.rfl) (State.leaving_eq_of_not_held
      (by simp [hheld]) (by simp [State.writeAndRelease, State.setCall, hfree]))
  | fallAsleep htask hpoint =>
    refine hmaps.movePoint htask ?_ ?_ ?_
    · rw [hpoint]
      rfl
    · simp [hpoint]
    · simp
  | wake htask hpoint hdue =>
    refine hmaps.movePoint htask ?_ ?_ ?_
    · rw [hpoint]
      rfl
    · simp [hpoint]
    · simp
  | removePolicy htask hpoint hfree => exact hmaps.removePolicy htask hpoint hfree
  | removeHandle htask hpoint hfree =>
    exact hmaps.removeHandle htask hpoint
      (hlocked.policies_of_expiry htask (by rw [hpoint]; rfl))
  | @rewrite i io e htask hpoint hperm =>
    have hheld := hlocked.policies_of_expiry htask (by rw [hpoint]; rfl)
    have hbefore : s.leaving = none := by
      rw [State.leaving_of_holder hheld htask, hpoint]
      rfl
    have hfree : Locks.release s.locks (.expiry i) .policies = none := Locks.release_self hheld
    refine hmaps.congr rfl rfl (fun _ _ => State.running_setPoint_same htask ?_) ?_
    · rw [hpoint]
      rfl
    · rw [hbefore]
      exact State.leaving_eq_none (by simp [State.writeAndRelease, State.setPoint, hfree])

/-- Adding addresses to a table. -/
theorem mem_foldl_address {ps : List IpPolicy} {v6 v : Bool} {tables : Tables} {ip : String} :
    ip ∈ ((ps.map fun p => TableOp.address v6 p.ip).foldl TableOp.run tables).get v ↔
      (v = v6 ∧ ∃ p ∈ ps, p.ip = ip) ∨ ip ∈ tables.get v := by
  induction ps generalizing tables with
  | nil => simp
  | cons p ps ih =>
    rw [List.map_cons, List.foldl_cons, ih]
    cases v <;> cases v6 <;>
      simp [TableOp.run, Tables.set, Tables.get, eq_comm, or_assoc, or_left_comm]

/-- Writing a table replaces its addresses by those of the policies. -/
theorem mem_foldl_tableOps {ps : List IpPolicy} {v6 v : Bool} {tables : Tables} {ip : String} :
    ip ∈ ((tableOps ps v6).foldl TableOp.run tables).get v ↔
      if v = v6 then ∃ p ∈ ps, p.isIpv6 = v6 ∧ p.ip = ip else ip ∈ tables.get v := by
  rw [tableOps, List.foldl_cons, List.foldl_cons, mem_foldl_address]
  cases v <;> cases v6 <;> simp [TableOp.run, Tables.set, Tables.get, and_assoc]

/-- After a write without an error, each table holds the addresses of its policies. -/
theorem mem_writePoliciesToProc {io : ProcIo} {tables : Tables} {v : Bool} {ip : String}
    (hok : (writePoliciesToProc io tables).2.isNone = true) :
    ip ∈ (writePoliciesToProc io tables).1.get v ↔
      ∃ p ∈ io.order, p.isIpv6 = v ∧ p.ip = ip := by
  have hlength : (writeOps io.order).length ≤ io.succeeding := by
    simpa [writePoliciesToProc] using hok
  have htake : (writeOps io.order).take io.succeeding = writeOps io.order :=
    List.take_of_length_le hlength
  change ip ∈ (((writeOps io.order).take io.succeeding).foldl TableOp.run tables).get v ↔ _
  rw [htake, writeOps, List.foldl_append, mem_foldl_tableOps, mem_foldl_tableOps]
  cases v <;> simp

/-- The kernel tables hold the addresses of the policies when the last write has
succeeded and nobody is about to change the policies. -/
def State.Mirrored (s : State) : Prop :=
  s.locks .policies = none → s.written = true → ∀ v ip,
    ip ∈ s.tables.get v ↔ ∃ st, s.policies.lookup ip = some st ∧ st.policy.isIpv6 = v

/-- A write that succeeds makes the tables hold the addresses of the policies. -/
theorem State.Handled.mem_tables (hmaps : s.Handled) {io : ProcIo}
    (hperm : io.order.Perm s.values)
    (hok : (writePoliciesToProc io s.tables).2.isNone = true) (v : Bool) (ip : String) :
    ip ∈ (writePoliciesToProc io s.tables).1.get v ↔
      ∃ st, s.policies.lookup ip = some st ∧ st.policy.isIpv6 = v := by
  rw [mem_writePoliciesToProc hok]
  constructor
  · rintro ⟨p, hp, hv, rfl⟩
    obtain ⟨⟨key, st⟩, hentry, rfl⟩ := List.mem_map.mp (hperm.mem_iff.mp hp)
    have hst : s.policies.lookup key = some st := AList.mem_lookup_iff.mpr hentry
    have hkey : st.policy.ip = key := hmaps.keyed key st hst
    exact ⟨st, hkey ▸ hst, hv⟩
  · rintro ⟨st, hst, hv⟩
    have hentry : (⟨ip, st⟩ : Sigma fun _ : String => Stored) ∈ s.policies.entries :=
      AList.mem_lookup_iff.mp hst
    have hp : st.policy ∈ s.values := List.mem_map.mpr ⟨⟨ip, st⟩, hentry, rfl⟩
    exact ⟨st.policy, hperm.mem_iff.mpr hp, hv, hmaps.keyed ip st hst⟩

/-- Every step keeps the tables in line with the policies. -/
theorem State.Mirrored.turn {a : Action} (hlocked : s.Locked) (hmaps : s.Handled)
    (hmirror : s.Mirrored) (hturn : Turn timer s a s') : s'.Mirrored := by
  cases hturn with
  | call ps => exact hmirror
  | tick seconds => exact hmirror
  | takePolicies hcall hfree =>
    intro hlock
    simp [State.setCall, Locks.acquire] at hlock
  | takeTasks hcall hfree =>
    intro hlock
    simp [State.setCall, Locks.acquire, hlocked.policies_of_call hcall rfl] at hlock
  | @apply i io p ps hcall =>
    intro hlock
    have hheld := (hlocked.applyPolicy p).policies_of_call (i := i)
      (by rw [State.applyPolicy_calls, hcall]) rfl
    exact absurd (hheld.symm.trans hlock) (by simp)
  | write hcall hperm => exact fun _ hok v ip => hmaps.mem_tables hperm hok v ip
  | fallAsleep htask hpoint => exact hmirror
  | wake htask hpoint hdue => exact hmirror
  | removePolicy htask hpoint hfree =>
    intro hlock
    simp [Locks.acquire] at hlock
  | removeHandle htask hpoint hfree =>
    intro hlock
    simp [Locks.acquire, hlocked.policies_of_expiry htask (by rw [hpoint]; rfl)] at hlock
  | rewrite htask hpoint hperm => exact fun _ hok v ip => hmaps.mem_tables hperm hok v ip

/-- What holds between the steps of every run. -/
structure State.Consistent (s : State) : Prop where
  locked : s.Locked
  handled : s.Handled
  mirrored : s.Mirrored

/-- The process is consistent before the first call. -/
theorem State.Initial.consistent (hinit : s.Initial) : s.Consistent := by
  obtain ⟨hpolicies, hhandles, hlocks, hcalls, hexpiries, hwritten⟩ := hinit
  have hleave : s.leaving = none := State.leaving_eq_none (by simp [hlocks])
  refine ⟨fun l owner => ?_, ⟨fun ip i => ?_, fun ip => ?_, fun ip hip => ?_, fun ip st hst => ?_⟩,
    fun _ hok => ?_⟩
  · cases owner <;> simp [hlocks, State.holds, hcalls, hexpiries]
  · simp [hhandles, State.Running, hexpiries]
  · simp [hhandles, State.Timed, hpolicies, hleave]
  · rw [hleave] at hip
    cases hip
  · simp [hpolicies] at hst
  · simp [hwritten] at hok

/-- The process is consistent in every state of every run. -/
theorem State.consistent_of_reachable (hs : (system timer).Reachable s) : s.Consistent := by
  refine hs.invariant (I := State.Consistent) (fun s hinit => State.Initial.consistent hinit) ?_
  intro s a s' hcons _ hstep
  have hturn := turn_of_step hstep
  exact ⟨hcons.locked.turn hturn, hcons.handled.turn hcons.locked hturn,
    hcons.mirrored.turn hcons.locked hcons.handled hturn⟩

/-- A permanent policy is not removed by any step. -/
theorem State.Consistent.permanent_kept (hcons : s.Consistent) {a : Action} {ip : String}
    {st : Stored} (hturn : Turn timer s a s') (hst : s.policies.lookup ip = some st)
    (hpermanent : st.policy.duration = 0) : ip ∈ s'.policies := by
  by_contra hgone
  obtain ⟨i, io, e, _, htask, rfl, hpoint, hfree⟩ := hturn.removes (mem_of_lookup hst) hgone
  have hleave : s.leaving = none := State.leaving_eq_none (by simp [hfree])
  have hrunning : s.Running e.ip i := ⟨e, htask, rfl, by rw [hpoint]; rfl⟩
  obtain ⟨st', hst', hpositive⟩ := hcons.handled.timed_of_running hleave hrunning
  obtain rfl : st = st' := Option.some.inj (hst.symm.trans hst')
  omega

/-- In every state of every run, whatever the interleaving: a permanent policy is not
removed by the next step and nobody waits for a lock in a cycle. While no lock is held,
an address has a handle exactly if it has a policy with a duration, and the kernel tables
hold exactly the addresses of the policies if the last write succeeded. -/
theorem State.policies_tasks_tables_consistent (hs : (system timer).Reachable s) :
    (∀ a s' ip st, (system timer).step s a = some s' → s.policies.lookup ip = some st →
      st.policy.duration = 0 → ip ∈ s'.policies) ∧
    (∀ owner, ¬ Relation.TransGen (Locks.WaitsFor s.locks s.wants) owner owner) ∧
    ((∀ l, s.locks l = none) →
      (∀ ip, ip ∈ s.handles ↔ ∃ st, s.policies.lookup ip = some st ∧ 0 < st.policy.duration) ∧
      (s.written = true → ∀ ip,
        (ip ∈ s.tables.ipv4 ↔
          ∃ st, s.policies.lookup ip = some st ∧ st.policy.isIpv6 = false) ∧
        (ip ∈ s.tables.ipv6 ↔
          ∃ st, s.policies.lookup ip = some st ∧ st.policy.isIpv6 = true))) := by
  have hcons := State.consistent_of_reachable hs
  refine ⟨fun a s' ip st hstep hst hpermanent => ?_, hcons.locked.acyclic, fun hfree => ⟨?_, ?_⟩⟩
  · exact hcons.permanent_kept (turn_of_step hstep) hst hpermanent
  · have hleave : s.leaving = none := State.leaving_eq_none (by simp [hfree])
    exact hcons.handled.mem_iff_timed hleave
  · intro hok ip
    exact ⟨hcons.mirrored (hfree _) hok false ip, hcons.mirrored (hfree _) hok true ip⟩

/-- The process before the first call, with empty kernel tables. -/
def idle : State := ⟨∅, ∅, fun _ => none, [], [], ⟨∅, ∅⟩, false, 0⟩

/-- A timer whose sleeps end on the second. The longest sleep takes 68719476734
milliseconds. -/
def secondsTimer : Timer where
  deadline start duration := start + min duration 68719476
  longest := 68719476
  not_early _ _ := Nat.le_refl _

/-- A block of one IPv4 address. -/
def block (duration : ℕ) : IpPolicy := ⟨0, "192.0.2.7", duration, false⟩

/-- A call that blocks the address; every write succeeds. -/
def blockFor (call duration : ℕ) : List Action :=
  let io : ProcIo := ⟨[block duration], 5, ""⟩
  .call [block duration] :: List.replicate 4 (.advanceCall call io)

/-- The process before the first call is where runs start. -/
theorem idle_reachable : (system timer).Reachable idle :=
  .init ⟨rfl, rfl, fun _ => rfl, rfl, rfl, rfl⟩

/-- A block for ten seconds that is sent again as a permanent one: the task is aborted,
the handle is gone, and the address stays in the table and among the policies. -/
theorem State.policies_tasks_tables_consistent_permanent :
    ∃ s, (system secondsTimer).Reachable s ∧ s.expiries.map (·.point) = [.aborted] ∧
      "192.0.2.7" ∉ s.handles ∧ "192.0.2.7" ∈ s.tables.ipv4 ∧
      ∀ a s', (system secondsTimer).step s a = some s' → "192.0.2.7" ∈ s'.policies := by
  have hrun : ((system secondsTimer).exec idle (blockFor 0 10 ++ blockFor 1 0)).map (fun s =>
      ((s.locks .policies, s.locks .tasks), s.written, s.policies.lookup "192.0.2.7",
        s.expiries.map (·.point))) =
      some ((none, none), true, some ⟨block 0, 0⟩, [.aborted]) := by
    decide
  obtain ⟨s, hexec, hs⟩ := Option.map_eq_some_iff.mp hrun
  simp only [Prod.mk.injEq] at hs
  obtain ⟨⟨hpolicies, htasks⟩, hwritten, hst, hpoints⟩ := hs
  have hreach : (system secondsTimer).Reachable s := Runs.System.Reachable.exec idle_reachable hexec
  have hfree : ∀ l, s.locks l = none := by
    intro l
    cases l with
    | policies => exact hpolicies
    | tasks => exact htasks
  obtain ⟨hkept, _, hquiet⟩ := State.policies_tasks_tables_consistent hreach
  obtain ⟨hhandles, htables⟩ := hquiet hfree
  refine ⟨s, hreach, hpoints, fun hmem => ?_, ?_, fun a s' hstep => ?_⟩
  · obtain ⟨st, hst', hpositive⟩ := (hhandles _).mp hmem
    obtain rfl : st = ⟨block 0, 0⟩ := Option.some.inj (hst'.symm.trans hst)
    exact absurd hpositive (by decide)
  · exact (htables hwritten _).1.mpr ⟨_, hst, rfl⟩
  · exact hkept a s' _ _ hstep hst rfl

end LinuxAgent.NetBlock
