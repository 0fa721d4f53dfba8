import LinuxAgent.AgentCli.Server

/-!
# The selected client

The selection may name a client that is not in the table, and tasks may wait for each
other. Six steps are to blame: a greeting that is answered before the client is saved, a
failed write that removes the selected client, an `exit` beside a failed write, an `exit`
after which a client is selected again, a reader that ends before it deselects its client,
and a reader that asks for the prompt while it holds the selection. In runs without them
the selected client is in the table whenever no task is in a critical section, and no
tasks wait in a circle.

The order of the mutexes depends on the tasks: a writer comes before the table if its
holder is about to remove the client, and after it otherwise.
-/

namespace LinuxAgent.AgentCli

/-- The client that a task is about to deselect. -/
def Point.leaving : Point → Option ℕ
  | .closing id | .leaveCurrent id true => some id
  | _ => none

/-- The client that a task is about to select, as it has found it in the table. -/
def Point.naming : Point → Option ℕ
  | .setUidCurrent id => some id
  | _ => none

/-- The client that a task is about to remove, while it holds its writer. -/
def Point.dropping : Point → Option ℕ
  | .dropClients id => some id
  | _ => none

/-- The clients whose writers a task is still to shut down. -/
def Point.shuttingDown : Point → List ℕ
  | .exitWriter ids | .exitShutdown _ ids => ids
  | _ => []

/-- The task waits for the selection, which it holds itself, or has even got it. -/
def Point.waitsForItself : Point → Bool
  | .promptCurrent (.leave _ false) | .promptClients (.leave _ _) => true
  | _ => false

/-- The steps that do no harm to the selection, nor to other tasks. -/
def Server.okAt (s : Server) (env : Env) : Point → Bool
  | .autoSelectCurrent id _ => s.shared.current.isSome || decide (id ∈ s.shared.clients)
  | .leaveCurrent id false => decide (s.shared.current ≠ some id)
  | .message id _ => env.ok || s.tasks.all fun p => decide (id ∉ p.shuttingDown)
  | .dropClients id => decide (s.shared.current ≠ some id)
  | .exitClients => s.tasks.all fun p => p.dropping.all fun id => decide (id ∉ s.shared.clients)
  | .exitWriter [] => s.shared.current.isNone
  | _ => true

/-- An action that does no harm. A greeting is answered when the client is saved or another
one is selected; a write fails, and the client is removed, when it is not selected and no
`exit` has still to shut it down; an `exit` begins when no client of the table is being
removed, and ends when none is selected; a reader ends itself, or comes to its last lines
without an entry in the table, when its client is not selected. -/
def Server.ok (s : Server) : ServerAction → Bool
  | .advance i env => (s.tasks[i]?).all fun p => s.okAt env p
  | .cancel i => (s.tasks[i]?).all fun p => p.leaving.all fun id =>
      decide (s.shared.current ≠ some id)
  | .accept _ | .line _ => true

/-- None of the points above. -/
def Point.plain (p : Point) : Bool :=
  p.leaving.isNone && p.naming.isNone && p.dropping.isNone && p.shuttingDown.isEmpty &&
    !p.waitsForItself

/-- The steps of a task, as far as they matter for the selection. -/
inductive Turn (env : Env) (c : Shared) : Point → Shared → Point → Prop
  | plain {p q : Point} {c' : Shared} (hcurrent : c'.current = c.current)
    (hclients : ∀ id, id ∈ c'.clients ↔ id ∈ c.clients) (hleaving : p.leaving = none)
    (hplain : q.plain = true) : Turn env c p c' q
  | insert (id : ℕ) :
    Turn env c (.insertClients id) { c with clients := c.clients.insert id none } .finished
  | autoSelect (id : ℕ) (uid : String) :
    Turn env c (.autoSelectCurrent id uid) (c.autoSelect id) (.helloClients id uid)
  | leave {id : ℕ} {q : Point} (hclosing : q = .closing id ∨ q = .leaveCurrent id true) :
    Turn env c (.leaveClients id) { c with clients := c.clients.erase id } q
  | leaveMissing (id : ℕ) : Turn env c (.leaveClients id) c (.leaveCurrent id false)
  | closed (id : ℕ) : Turn env c (.closing id) c (.leaveCurrent id true)
  | deselectSelf {id : ℕ} {aborted : Bool} (hcurrent : c.current = some id) :
    Turn env c (.leaveCurrent id aborted) { c with current := none }
      (.promptCurrent (.leave id aborted))
  | left {id : ℕ} {aborted : Bool} (hcurrent : c.current ≠ some id) :
    Turn env c (.leaveCurrent id aborted) c .finished
  | setUid {id : ℕ} {newUid : Option String} {c' : Shared} (hcurrent : c'.current = c.current)
    (hclients : ∀ id, id ∈ c'.clients ↔ id ∈ c.clients) (hid : id ∈ c.clients) :
    Turn env c (.setUidClients id newUid) c' (.setUidCurrent id)
  | uidSet (id : ℕ) : Turn env c (.setUidCurrent id) (c.autoSelect id) .prompt
  | select {id : ℕ} {target : String} (hid : id ∈ c.clients) :
    Turn env c (.selectCurrent target) { c with current := some id } .prompt
  | writeFails {id : ℕ} {text : String} (hfails : env.ok = false) :
    Turn env c (.message id text) c (.dropClients id)
  | drop (id : ℕ) :
    Turn env c (.dropClients id) { c with clients := c.clients.erase id } .prompt
  | deselect {p q : Point} (hleaving : p.leaving = none) (hplain : q.plain = true) :
    Turn env c p { c with current := none } q
  | exitBegins {ids : List ℕ} (hids : ids.Perm c.clients.keys) :
    Turn env c .exitClients c (.exitWriter ids)
  | exitWriter (id : ℕ) (rest : List ℕ) :
    Turn env c (.exitWriter (id :: rest)) c (.exitShutdown id rest)
  | exitShutdown (id : ℕ) (rest : List ℕ) :
    Turn env c (.exitShutdown id rest) c (.exitWriter rest)
  | exitEnds : Turn env c (.exitWriter []) { c with clients := ∅ } .exiting

variable {env : Env} {free : LockName → Bool} {c c' : Shared} {p q : Point} {s s' : Server}

/-- A point of this kind holds no mutex. -/
def Point.idle (p : Point) : Prop := p.plain = true ∧ p.holds = []

/-- A caller goes on without a mutex. -/
theorem idle_back (caller : Caller) : caller.back.idle := by
  cases caller <;> exact ⟨rfl, rfl⟩

/-- A command starts without a mutex. -/
theorem idle_branch (files : LocalFiles) (cmd : Command) : (branch files cmd).idle := by
  unfold branch
  split <;> (try split) <;> exact ⟨rfl, rfl⟩

/-- A reader goes on without a mutex when it has read. -/
theorem idle_afterRead (id : ℕ) (data : List UInt8) : (afterRead id data).idle := by
  unfold afterRead
  split
  · exact ⟨rfl, rfl⟩
  · split <;> exact ⟨rfl, rfl⟩

/-- A reader goes on without a mutex when it has looked its client up. -/
theorem idle_afterLookup (id : ℕ) (data : String) : (afterLookup id data).idle := by
  unfold afterLookup
  split <;> exact ⟨rfl, rfl⟩

/-- Both branches of a choice are plain. -/
theorem plain_ite {b : Prop} [Decidable b] (hp : p.plain = true) (hq : q.plain = true) :
    (if b then p else q).plain = true := by
  split
  · exact hp
  · exact hq

/-- A client that is named is among the clients. -/
theorem mem_of_mem_named {id : ℕ} {uid : String} (h : id ∈ c.named uid) : id ∈ c.clients :=
  AList.mem_keys.mpr (List.mem_filter.mp h).1

/-- A step of a task that leaves what is shared as it is. -/
theorem Turn.same (hleaving : p.leaving = none) (hplain : q.plain = true) : Turn env c p c q :=
  .plain rfl (fun _ => Iff.rfl) hleaving hplain

/-- A step of a task that only writes. -/
theorem Turn.wrote {id : ℕ} {bytes : List UInt8} (hleaving : p.leaving = none)
    (hplain : q.plain = true) : Turn env c p (if env.ok then c.write id bytes else c) q := by
  split <;> exact .plain rfl (fun _ => Iff.rfl) hleaving hplain

/-- A selection is from the table. -/
theorem turn_select (target : String) :
    Turn env c (.selectCurrent target) (c.select target env.choice) .prompt := by
  have hprompt : Point.prompt.plain = true := rfl
  unfold Shared.select
  split
  · split
    · next hid => exact .select hid
    · exact .same rfl hprompt
  · split
    · next hid => exact .select (mem_of_mem_named (List.mem_of_getElem? hid))
    · exact .same rfl hprompt

/-- A step of a task is one of these. -/
theorem turn_of_resume (h : resume env free c p = some (c', q)) (hwants : p.wants.all free = true)
    (howned : ∀ l ∈ p.holds, free l = false) : Turn env c p c' q := by
  cases p with
  | select => cases h
  | exiting => cases h
  | finished => cases h
  | insertClients id =>
    obtain ⟨rfl, rfl⟩ := Prod.mk.inj (Option.some.inj h)
    exact .insert id
  | reading id =>
    rw [resume] at h
    split at h
    · obtain ⟨rfl, rfl⟩ := Prod.mk.inj (Option.some.inj h)
      exact .same rfl (idle_afterRead id env.data).1
    · cases h
  | lookupClients id data =>
    obtain ⟨rfl, rfl⟩ := Prod.mk.inj (Option.some.inj h)
    exact .same rfl (idle_afterLookup id data).1
  | registerClients id uid =>
    obtain ⟨rfl, rfl⟩ := Prod.mk.inj (Option.some.inj h)
    exact .plain (current_setUid c id uid) (fun other => mem_setUid c id other uid) rfl (rfl)
  | autoSelectCurrent id uid =>
    obtain ⟨rfl, rfl⟩ := Prod.mk.inj (Option.some.inj h)
    exact .autoSelect id uid
  | helloClients id uid =>
    obtain ⟨rfl, rfl⟩ := Prod.mk.inj (Option.some.inj h)
    exact .same rfl (plain_ite (rfl) (rfl))
  | hello id uid =>
    obtain ⟨rfl, rfl⟩ := Prod.mk.inj (Option.some.inj h)
    exact .wrote rfl (rfl)
  | promptCurrent caller =>
    obtain ⟨rfl, rfl⟩ := Prod.mk.inj (Option.some.inj h)
    refine .same rfl (plain_ite ?_ (idle_back caller).1)
    cases caller with
    | leave id aborted =>
      have hheld : free .current = false := howned .current List.mem_cons_self
      simp [Point.wants, hheld] at hwants
    | _ => rfl
  | promptClients caller =>
    obtain ⟨rfl, rfl⟩ := Prod.mk.inj (Option.some.inj h)
    exact .same rfl (idle_back caller).1
  | leaveClients id =>
    rw [resume] at h
    split at h
    · obtain ⟨rfl, rfl⟩ := Prod.mk.inj (Option.some.inj h)
      refine .leave ?_
      split
      · exact .inl rfl
      · exact .inr rfl
    · obtain ⟨rfl, rfl⟩ := Prod.mk.inj (Option.some.inj h)
      exact .leaveMissing id
  | closing id =>
    obtain ⟨rfl, rfl⟩ := Prod.mk.inj (Option.some.inj h)
    exact .closed id
  | leaveCurrent id aborted =>
    rw [resume] at h
    split at h
    · next hcurrent =>
      obtain ⟨rfl, rfl⟩ := Prod.mk.inj (Option.some.inj h)
      exact .deselectSelf hcurrent
    · next hcurrent =>
      obtain ⟨rfl, rfl⟩ := Prod.mk.inj (Option.some.inj h)
      exact .left hcurrent
  | command cmd =>
    obtain ⟨rfl, rfl⟩ := Prod.mk.inj (Option.some.inj h)
    exact .same rfl (plain_ite (rfl) (rfl))
  | findHistory cmd =>
    rw [resume] at h
    split at h <;> obtain ⟨rfl, rfl⟩ := Prod.mk.inj (Option.some.inj h) <;>
      exact .same rfl (rfl)
  | saveHistory cmd =>
    obtain ⟨rfl, rfl⟩ := Prod.mk.inj (Option.some.inj h)
    exact .plain rfl (fun _ => Iff.rfl) rfl (idle_branch env.files cmd).1
  | setUidClients id newUid =>
    cases newUid with
    | none =>
      obtain ⟨rfl, rfl⟩ := Prod.mk.inj (Option.some.inj h)
      split
      · next hsome =>
        refine .setUid rfl (fun _ => Iff.rfl) ?_
        rw [← AList.lookup_isSome]
        cases hlookup : c.clients.lookup id with
        | none =>
          rw [hlookup] at hsome
          cases hsome
        | some uid => rfl
      · exact .same rfl (rfl)
    | some uid =>
      obtain ⟨rfl, rfl⟩ := Prod.mk.inj (Option.some.inj h)
      split
      · next hid =>
        exact .setUid (current_setUid c id uid) (fun other => mem_setUid c id other uid) hid
      · exact .plain (current_setUid c id uid) (fun other => mem_setUid c id other uid) rfl
          (rfl)
  | setUidCurrent id =>
    obtain ⟨rfl, rfl⟩ := Prod.mk.inj (Option.some.inj h)
    exact .uidSet id
  | selectCurrent target =>
    obtain ⟨rfl, rfl⟩ := Prod.mk.inj (Option.some.inj h)
    exact turn_select target
  | sendFileCurrent src dst =>
    rw [resume] at h
    split at h <;> obtain ⟨rfl, rfl⟩ := Prod.mk.inj (Option.some.inj h) <;>
      exact .same rfl (rfl)
  | sendFileClients id src dst =>
    obtain ⟨rfl, rfl⟩ := Prod.mk.inj (Option.some.inj h)
    exact .same rfl (plain_ite (rfl) (rfl))
  | sendFileOpen id src dst =>
    rw [resume] at h
    split at h <;> obtain ⟨rfl, rfl⟩ := Prod.mk.inj (Option.some.inj h)
    · exact .same rfl (plain_ite (rfl) (rfl))
    · exact .same rfl (rfl)
  | sendFile id bytes =>
    obtain ⟨rfl, rfl⟩ := Prod.mk.inj (Option.some.inj h)
    exact .wrote rfl (rfl)
  | messageCurrent text =>
    rw [resume] at h
    split at h <;> obtain ⟨rfl, rfl⟩ := Prod.mk.inj (Option.some.inj h) <;>
      exact .same rfl (rfl)
  | messageSecondClients id text =>
    obtain ⟨rfl, rfl⟩ := Prod.mk.inj (Option.some.inj h)
    exact .same rfl (plain_ite (rfl) (rfl))
  | message id text =>
    rw [resume] at h
    split at h
    · obtain ⟨rfl, rfl⟩ := Prod.mk.inj (Option.some.inj h)
      exact .plain rfl (fun _ => Iff.rfl) rfl (rfl)
    · next hfails =>
      obtain ⟨rfl, rfl⟩ := Prod.mk.inj (Option.some.inj h)
      exact .writeFails (Bool.not_eq_true _ ▸ hfails)
  | dropClients id =>
    obtain ⟨rfl, rfl⟩ := Prod.mk.inj (Option.some.inj h)
    exact .drop id
  | deselectCurrent =>
    obtain ⟨rfl, rfl⟩ := Prod.mk.inj (Option.some.inj h)
    exact .deselect rfl (rfl)
  | exitCurrent =>
    obtain ⟨rfl, rfl⟩ := Prod.mk.inj (Option.some.inj h)
    exact .deselect rfl (rfl)
  | exitClients =>
    rw [resume] at h
    split at h
    · next hids =>
      obtain ⟨rfl, rfl⟩ := Prod.mk.inj (Option.some.inj h)
      exact .exitBegins hids
    · cases h
  | exitWriter ids =>
    cases ids with
    | nil =>
      obtain ⟨rfl, rfl⟩ := Prod.mk.inj (Option.some.inj h)
      exact .exitEnds
    | cons id rest =>
      obtain ⟨rfl, rfl⟩ := Prod.mk.inj (Option.some.inj h)
      exact .exitWriter id rest
  | exitShutdown id rest =>
    obtain ⟨rfl, rfl⟩ := Prod.mk.inj (Option.some.inj h)
    exact .exitShutdown id rest
  | _ =>
    obtain ⟨rfl, rfl⟩ := Prod.mk.inj (Option.some.inj h)
    exact .same rfl (rfl)

/-- A task that goes on takes only the mutex that it has waited for, or a free one. -/
theorem held_of_resume (h : resume env free c p = some (c', q)) (hwants : p.wants.all free = true) :
    ∀ l ∈ q.holds, l ∈ p.holds ∨ free l = true := by
  have hnone {q : Point} (hq : q.holds = []) : ∀ l ∈ q.holds, l ∈ p.holds ∨ free l = true := by
    rw [hq]
    exact fun l hl => absurd hl List.not_mem_nil
  have hkept {q : Point} (hq : q.holds = p.holds) :
      ∀ l ∈ q.holds, l ∈ p.holds ∨ free l = true := fun l hl => .inl (hq ▸ hl)
  have hfree {l : LockName} (hl : p.wants = some l) : free l = true := by
    rw [hl] at hwants
    exact hwants
  have hwanted {q : Point} {l : LockName} (hl : p.wants = some l) (hq : q.holds = [l]) :
      ∀ l ∈ q.holds, l ∈ p.holds ∨ free l = true := by
    rw [hq]
    intro l' hl'
    rw [List.mem_singleton.mp hl']
    exact .inr (hfree hl)
  cases p with
  | select => cases h
  | exiting => cases h
  | finished => cases h
  | reading id =>
    rw [resume] at h
    split at h
    · obtain ⟨rfl, rfl⟩ := Prod.mk.inj (Option.some.inj h)
      exact hnone (idle_afterRead id env.data).2
    · cases h
  | lookupClients id data =>
    obtain ⟨rfl, rfl⟩ := Prod.mk.inj (Option.some.inj h)
    exact hnone (idle_afterLookup id data).2
  | helloClients id uid =>
    obtain ⟨rfl, rfl⟩ := Prod.mk.inj (Option.some.inj h)
    split <;> exact hnone rfl
  | helloWriter id uid =>
    obtain ⟨rfl, rfl⟩ := Prod.mk.inj (Option.some.inj h)
    exact hwanted rfl rfl
  | promptCurrent caller =>
    obtain ⟨rfl, rfl⟩ := Prod.mk.inj (Option.some.inj h)
    split
    · exact hkept rfl
    · exact hnone (idle_back caller).2
  | promptClients caller =>
    obtain ⟨rfl, rfl⟩ := Prod.mk.inj (Option.some.inj h)
    exact hnone (idle_back caller).2
  | leaveClients id =>
    rw [resume] at h
    split at h
    · obtain ⟨rfl, rfl⟩ := Prod.mk.inj (Option.some.inj h)
      split
      · next hwriter =>
        intro l hl
        rcases List.mem_cons.mp hl with rfl | hl
        · exact .inr (hfree rfl)
        · rw [List.mem_singleton.mp hl]
          exact .inr hwriter
      · exact hnone rfl
    · obtain ⟨rfl, rfl⟩ := Prod.mk.inj (Option.some.inj h)
      exact hnone rfl
  | leaveCurrent id aborted =>
    rw [resume] at h
    split at h <;> obtain ⟨rfl, rfl⟩ := Prod.mk.inj (Option.some.inj h)
    · exact hwanted rfl rfl
    · exact hnone rfl
  | command cmd =>
    obtain ⟨rfl, rfl⟩ := Prod.mk.inj (Option.some.inj h)
    split <;> exact hnone rfl
  | findHistory cmd =>
    rw [resume] at h
    split at h <;> obtain ⟨rfl, rfl⟩ := Prod.mk.inj (Option.some.inj h)
    · exact hwanted rfl rfl
    · exact hnone rfl
  | saveHistory cmd =>
    obtain ⟨rfl, rfl⟩ := Prod.mk.inj (Option.some.inj h)
    exact hnone (idle_branch env.files cmd).2
  | setUidClients id newUid =>
    cases newUid <;> obtain ⟨rfl, rfl⟩ := Prod.mk.inj (Option.some.inj h) <;> split
    · exact hwanted rfl rfl
    · exact hnone rfl
    · exact hwanted rfl rfl
    · exact hnone rfl
  | listClients =>
    obtain ⟨rfl, rfl⟩ := Prod.mk.inj (Option.some.inj h)
    exact hwanted rfl rfl
  | selectClients target =>
    obtain ⟨rfl, rfl⟩ := Prod.mk.inj (Option.some.inj h)
    exact hwanted rfl rfl
  | sendFileCurrent src dst =>
    rw [resume] at h
    split at h <;> obtain ⟨rfl, rfl⟩ := Prod.mk.inj (Option.some.inj h) <;> exact hnone rfl
  | sendFileClients id src dst =>
    obtain ⟨rfl, rfl⟩ := Prod.mk.inj (Option.some.inj h)
    split <;> exact hnone rfl
  | sendFileOpen id src dst =>
    rw [resume] at h
    split at h <;> obtain ⟨rfl, rfl⟩ := Prod.mk.inj (Option.some.inj h)
    · split <;> exact hnone rfl
    · exact hnone rfl
  | sendFileWriter id bytes =>
    obtain ⟨rfl, rfl⟩ := Prod.mk.inj (Option.some.inj h)
    exact hwanted rfl rfl
  | messageClients text =>
    obtain ⟨rfl, rfl⟩ := Prod.mk.inj (Option.some.inj h)
    exact hwanted rfl rfl
  | messageCurrent text =>
    rw [resume] at h
    split at h <;> obtain ⟨rfl, rfl⟩ := Prod.mk.inj (Option.some.inj h) <;> exact hnone rfl
  | messageSecondClients id text =>
    obtain ⟨rfl, rfl⟩ := Prod.mk.inj (Option.some.inj h)
    split <;> exact hnone rfl
  | messageWriter id text =>
    obtain ⟨rfl, rfl⟩ := Prod.mk.inj (Option.some.inj h)
    exact hwanted rfl rfl
  | message id text =>
    rw [resume] at h
    split at h <;> obtain ⟨rfl, rfl⟩ := Prod.mk.inj (Option.some.inj h)
    · exact hnone rfl
    · exact hkept rfl
  | exitClients =>
    rw [resume] at h
    split at h
    · obtain ⟨rfl, rfl⟩ := Prod.mk.inj (Option.some.inj h)
      exact hwanted rfl rfl
    · cases h
  | exitWriter ids =>
    cases ids with
    | nil =>
      obtain ⟨rfl, rfl⟩ := Prod.mk.inj (Option.some.inj h)
      exact hnone rfl
    | cons id rest =>
      obtain ⟨rfl, rfl⟩ := Prod.mk.inj (Option.some.inj h)
      intro l hl
      rcases List.mem_cons.mp hl with rfl | hl
      · exact .inl List.mem_cons_self
      · rw [List.mem_singleton.mp hl]
        exact .inr (hfree rfl)
  | exitShutdown id rest =>
    obtain ⟨rfl, rfl⟩ := Prod.mk.inj (Option.some.inj h)
    intro l hl
    rw [List.mem_singleton.mp hl]
    exact .inl List.mem_cons_self
  | _ =>
    obtain ⟨rfl, rfl⟩ := Prod.mk.inj (Option.some.inj h)
    exact hnone rfl

/-- The selected client is in the table, or a task is about to deselect it; a client that a
task is about to select is in the table; no task is about to remove a client that another
one is to shut down; and no task waits for itself. -/
structure Server.Sound (s : Server) : Prop where
  exclusive : Locks.Exclusive Point.holds s.tasks
  selection : ∀ id, s.shared.current = some id →
    id ∈ s.shared.clients ∨ ∃ p ∈ s.tasks, p.leaving = some id
  naming : ∀ p ∈ s.tasks, ∀ id, p.naming = some id → id ∈ s.shared.clients
  apart : ∀ p ∈ s.tasks, ∀ q ∈ s.tasks, ∀ id, p.dropping = some id → id ∉ q.shuttingDown
  waits : ∀ p ∈ s.tasks, p.waitsForItself = false

/-- A plain point does none of the five things that the others do. -/
theorem plain_iff :
    p.plain = true ↔ p.leaving = none ∧ p.naming = none ∧ p.dropping = none ∧
      p.shuttingDown = [] ∧ p.waitsForItself = false := by
  simp [Point.plain, and_assoc]

variable {i : ℕ}

/-- A task that does not move is still there. -/
theorem mem_set_of_ne {r : Point} {tasks : List Point} (hi : tasks[i]? = some p) (hr : r ∈ tasks)
    (hne : r ≠ p) : r ∈ tasks.set i q := by
  obtain ⟨j, hj⟩ := List.mem_iff_getElem?.mp hr
  have hij : i ≠ j := by
    rintro rfl
    exact hne (Option.some.inj (hj.symm.trans hi))
  rw [← List.getElem?_set_ne hij] at hj
  exact List.mem_of_getElem? hj

/-- A selection that a step does not make stays valid if the step keeps the client in the
table, or the task is then about to deselect it. -/
theorem Server.Sound.selection_moved (hs : s.Sound) (hi : s.tasks[i]? = some p) {id : ℕ}
    (hcurrent : s.shared.current = some id)
    (hkeep : id ∈ s.shared.clients → id ∈ c'.clients ∨ q.leaving = some id)
    (hleaving : p.leaving = some id → q.leaving = some id) :
    id ∈ c'.clients ∨ ∃ r ∈ s.tasks.set i q, r.leaving = some id := by
  have hself : q ∈ s.tasks.set i q := by
    exact List.mem_of_getElem? (List.getElem?_set_self (List.getElem?_eq_some_iff.mp hi).1)
  rcases hs.selection id hcurrent with hid | ⟨r, hr, hrid⟩
  · rcases hkeep hid with h | h
    · exact .inl h
    · exact .inr ⟨q, hself, h⟩
  · by_cases hrp : r = p
    · exact .inr ⟨q, hself, hleaving (hrp ▸ hrid)⟩
    · exact .inr ⟨r, mem_set_of_ne hi hr hrp, hrid⟩

/-- A task that is about to select a client holds the table. -/
theorem clients_mem_holds {id : ℕ} (h : p.naming = some id) : .clients ∈ p.holds := by
  cases p <;> simp_all [Point.naming, Point.holds]

/-- The selection after a step. -/
theorem Turn.selection (hturn : Turn env s.shared p c' q) (hs : s.Sound)
    (hi : s.tasks[i]? = some p) (hok : s.okAt env p = true) {id : ℕ}
    (hid : c'.current = some id) :
    id ∈ c'.clients ∨ ∃ r ∈ s.tasks.set i q, r.leaving = some id := by
  have hmem : p ∈ s.tasks := List.mem_of_getElem? hi
  cases hturn with
  | plain hcurrent hclients hleaving hplain =>
    refine hs.selection_moved hi (hcurrent ▸ hid) (fun h => .inl ((hclients id).mpr h)) ?_
    simp [hleaving]
  | insert other =>
    exact hs.selection_moved hi hid (fun h => .inl ((AList.mem_insert _).mpr (.inr h))) nofun
  | autoSelect other uid =>
    simp only [Server.okAt, Bool.or_eq_true, decide_eq_true_eq] at hok
    rcases autoSelect_cases s.shared other with ⟨hnone, heq⟩ | heq
    · rw [heq] at hid ⊢
      obtain rfl := Option.some.inj hid
      rw [hnone] at hok
      exact .inl (hok.resolve_left nofun)
    · rw [heq] at hid ⊢
      exact hs.selection_moved hi hid .inl nofun
  | @leave other q hclosing =>
    have hleaving : q.leaving = some other := by
      rcases hclosing with rfl | rfl <;> rfl
    refine hs.selection_moved hi hid (fun h => ?_) nofun
    by_cases hother : id = other
    · exact .inr (hother ▸ hleaving)
    · exact .inl (AList.mem_erase.mpr ⟨hother, h⟩)
  | leaveMissing other => exact hs.selection_moved hi hid .inl nofun
  | closed other => exact hs.selection_moved hi hid .inl fun h => h
  | deselectSelf hcurrent => cases hid
  | @left other aborted hcurrent =>
    refine hs.selection_moved hi hid .inl fun hleaving => absurd hid ?_
    cases aborted with
    | false => cases hleaving
    | true =>
      obtain rfl := Option.some.inj hleaving
      exact hcurrent
  | setUid hcurrent hclients hother =>
    exact hs.selection_moved hi (hcurrent ▸ hid) (fun h => .inl ((hclients id).mpr h)) nofun
  | uidSet other =>
    rcases autoSelect_cases s.shared other with ⟨-, heq⟩ | heq
    · rw [heq] at hid ⊢
      obtain rfl := Option.some.inj hid
      exact .inl (hs.naming _ hmem other rfl)
    · rw [heq] at hid ⊢
      exact hs.selection_moved hi hid .inl nofun
  | select hother =>
    obtain rfl := Option.some.inj hid
    exact .inl hother
  | writeFails hfails => exact hs.selection_moved hi hid .inl nofun
  | drop other =>
    have hother : id ≠ other := by
      rintro rfl
      exact of_decide_eq_true hok hid
    exact hs.selection_moved hi hid (fun h => .inl (AList.mem_erase.mpr ⟨hother, h⟩)) nofun
  | deselect hleaving hplain => cases hid
  | exitBegins hids => exact hs.selection_moved hi hid .inl nofun
  | exitWriter other rest => exact hs.selection_moved hi hid .inl nofun
  | exitShutdown other rest => exact hs.selection_moved hi hid .inl nofun
  | exitEnds =>
    simp only [Server.okAt, Option.isNone_iff_eq_none] at hok
    rw [hok] at hid
    cases hid

/-- A client is removed from the table only by a task that has the table. -/
theorem Turn.mem_clients (hturn : Turn env c p c' q) {id : ℕ} (hid : id ∈ c.clients) :
    id ∈ c'.clients ∨ p.naming = none ∧ (p.wants = some .clients ∨ .clients ∈ p.holds) := by
  cases hturn with
  | plain hcurrent hclients hleaving hplain => exact .inl ((hclients id).mpr hid)
  | insert other => exact .inl ((AList.mem_insert _).mpr (.inr hid))
  | autoSelect other uid =>
    rcases autoSelect_cases c other with ⟨-, heq⟩ | heq <;> exact .inl (by rw [heq]; exact hid)
  | leave hclosing => exact .inr ⟨rfl, .inl rfl⟩
  | setUid hcurrent hclients hother => exact .inl ((hclients id).mpr hid)
  | uidSet other =>
    rcases autoSelect_cases c other with ⟨-, heq⟩ | heq <;> exact .inl (by rw [heq]; exact hid)
  | drop other => exact .inr ⟨rfl, .inl rfl⟩
  | exitEnds => exact .inr ⟨rfl, .inr List.mem_cons_self⟩
  | _ => exact .inl hid

/-- The clients about to be selected after a step. -/
theorem Turn.naming (hturn : Turn env s.shared p c' q) (hs : s.Sound)
    (hi : s.tasks[i]? = some p) (hwants : p.wants.all s.free = true) {r : Point}
    (hr : r ∈ s.tasks.set i q) {id : ℕ} (hid : r.naming = some id) : id ∈ c'.clients := by
  rcases List.mem_or_eq_of_mem_set hr with hr | rfl
  · rcases hturn.mem_clients (hs.naming r hr id hid) with h | ⟨hnaming, htable⟩
    · exact h
    · -- Another task that holds the table excludes this step.
      obtain ⟨j, hj⟩ := List.mem_iff_getElem?.mp hr
      have hheld : Locks.HeldBy Point.holds s.tasks j .clients := ⟨r, hj, clients_mem_holds hid⟩
      rcases htable with hwant | hholds
      · rw [hwant] at hwants
        exact absurd hheld (Locks.not_heldBy_of_free hwants)
      · have hij : i = j := hs.exclusive i j .clients ⟨p, hi, hholds⟩ hheld
        subst hij
        obtain rfl : p = r := Option.some.inj (hi.symm.trans hj)
        rw [hnaming] at hid
        cases hid
  · cases hturn with
    | plain hcurrent hclients hleaving hplain =>
      rw [(plain_iff.mp hplain).2.1] at hid
      cases hid
    | leave hclosing => rcases hclosing with rfl | rfl <;> cases hid
    | setUid hcurrent hclients hother =>
      obtain rfl := Option.some.inj hid
      exact (hclients _).mpr hother
    | deselect hleaving hplain =>
      rw [(plain_iff.mp hplain).2.1] at hid
      cases hid
    | _ => cases hid

/-- A task begins to remove a client only if no `exit` is to shut it down. -/
theorem Turn.dropping (hturn : Turn env s.shared p c' q) (hok : s.okAt env p = true) {id : ℕ}
    (hid : q.dropping = some id) : ∀ r ∈ s.tasks, id ∉ r.shuttingDown := by
  cases hturn with
  | plain hcurrent hclients hleaving hplain =>
    rw [(plain_iff.mp hplain).2.2.1] at hid
    cases hid
  | leave hclosing => rcases hclosing with rfl | rfl <;> cases hid
  | writeFails hfails =>
    obtain rfl := Option.some.inj hid
    simpa [Server.okAt, hfails] using hok
  | deselect hleaving hplain =>
    rw [(plain_iff.mp hplain).2.2.1] at hid
    cases hid
  | _ => cases hid

/-- An `exit` is to shut down only clients that no task is about to remove. -/
theorem Turn.shuttingDown (hturn : Turn env s.shared p c' q) (hs : s.Sound)
    (hi : s.tasks[i]? = some p) (hok : s.okAt env p = true) {id : ℕ}
    (hid : id ∈ q.shuttingDown) : ∀ r ∈ s.tasks, r.dropping ≠ some id := by
  have hmem : p ∈ s.tasks := List.mem_of_getElem? hi
  cases hturn with
  | plain hcurrent hclients hleaving hplain =>
    rw [(plain_iff.mp hplain).2.2.2.1] at hid
    cases hid
  | leave hclosing => rcases hclosing with rfl | rfl <;> cases hid
  | deselect hleaving hplain =>
    rw [(plain_iff.mp hplain).2.2.2.1] at hid
    cases hid
  | exitBegins hids =>
    intro r hr hdropping
    have hnone := List.all_eq_true.mp hok r hr
    rw [hdropping] at hnone
    exact of_decide_eq_true hnone (AList.mem_keys.mpr (hids.mem_iff.mp hid))
  | exitWriter other rest =>
    exact fun r hr hdropping => hs.apart r hr _ hmem id hdropping (List.mem_cons_of_mem _ hid)
  | exitShutdown other rest =>
    exact fun r hr hdropping => hs.apart r hr _ hmem id hdropping hid
  | _ => cases hid

/-- No step begins to wait for a mutex that the task holds. -/
theorem Turn.waitsForItself (hturn : Turn env s.shared p c' q) (hok : s.okAt env p = true) :
    q.waitsForItself = false := by
  cases hturn with
  | plain hcurrent hclients hleaving hplain => exact (plain_iff.mp hplain).2.2.2.2
  | leave hclosing => rcases hclosing with rfl | rfl <;> rfl
  | @deselectSelf id aborted hcurrent =>
    cases aborted with
    | false => exact absurd hcurrent (of_decide_eq_true hok)
    | true => rfl
  | deselect hleaving hplain => exact (plain_iff.mp hplain).2.2.2.2
  | _ => rfl

/-- No point both removes a client and shuts one down. -/
theorem shuttingDown_of_dropping {id : ℕ} (h : p.dropping = some id) : p.shuttingDown = [] := by
  cases p <;> simp_all [Point.dropping, Point.shuttingDown]

/-- A step of a task that does no harm. -/
theorem Server.Sound.moved (hs : s.Sound) (hi : s.tasks[i]? = some p)
    (hwants : p.wants.all s.free = true) (hok : s.okAt env p = true)
    (hresume : resume env s.free s.shared p = some (c', q)) : (s.moved i (c', q)).Sound := by
  have howned (l : LockName) (hl : l ∈ p.holds) : s.free l = false := by
    rw [← Bool.not_eq_true]
    exact fun hfree => Locks.not_heldBy_of_free hfree ⟨p, hi, hl⟩
  have hturn : Turn env s.shared p c' q := turn_of_resume hresume hwants howned
  refine ⟨hs.exclusive.set hi (held_of_resume hresume hwants), ?_, ?_, ?_, ?_⟩
  · exact fun id hid => hturn.selection hs hi hok hid
  · exact fun r hr id hid => hturn.naming hs hi hwants hr hid
  · intro r hr t ht id hdropping hid
    rcases List.mem_or_eq_of_mem_set hr with hrold | rfl
    · rcases List.mem_or_eq_of_mem_set ht with htold | rfl
      · exact hs.apart r hrold t htold id hdropping hid
      · exact hturn.shuttingDown hs hi hok hid r hrold hdropping
    · rcases List.mem_or_eq_of_mem_set ht with htold | rfl
      · exact hturn.dropping hok hdropping t htold hid
      · rw [shuttingDown_of_dropping hdropping] at hid
        cases hid
  · intro r hr
    rcases List.mem_or_eq_of_mem_set hr with hr | rfl
    · exact hs.waits r hr
    · exact hturn.waitsForItself hok

/-- New tasks, and tasks that stand at plain points, do no harm. -/
theorem Server.Sound.of_tasks (hs : s.Sound) {tasks : List Point} {nextId : ℕ}
    (hexclusive : Locks.Exclusive Point.holds tasks)
    (hleaving : ∀ p ∈ s.tasks, ∀ id, s.shared.current = some id → p.leaving = some id →
      p ∈ tasks)
    (hplain : ∀ p ∈ tasks, p ∈ s.tasks ∨ p.plain = true) :
    Server.Sound { s with tasks := tasks, nextId := nextId } := by
  have hold {r : Point} (hr : r ∈ tasks) : r.naming = none ∧ r.dropping = none ∧
      r.shuttingDown = [] ∧ r.waitsForItself = false ∨ r ∈ s.tasks := by
    rcases hplain r hr with h | h
    · exact .inr h
    · exact .inl (plain_iff.mp h).2
  refine ⟨hexclusive, ?_, ?_, ?_, ?_⟩
  · intro id hid
    rcases hs.selection id hid with h | ⟨p, hp, hpid⟩
    · exact .inl h
    · exact .inr ⟨p, hleaving p hp id hid hpid, hpid⟩
  · intro r hr id hid
    rcases hold hr with ⟨hnaming, -⟩ | hr'
    · rw [hnaming] at hid
      cases hid
    · exact hs.naming r hr' id hid
  · intro r hr t ht id hdropping hid
    rcases hold hr with ⟨-, hnone, -⟩ | hr'
    · rw [hnone] at hdropping
      cases hdropping
    · rcases hold ht with ⟨-, -, hnil, -⟩ | ht'
      · rw [hnil] at hid
        cases hid
      · exact hs.apart r hr' t ht' id hdropping hid
  · intro r hr
    rcases hold hr with ⟨-, -, -, h⟩ | hr'
    · exact h
    · exact hs.waits r hr'

/-- New tasks. -/
theorem Server.Sound.append (hs : s.Sound) {new : List Point} {nextId : ℕ}
    (hnew : ∀ p ∈ new, p.idle) :
    Server.Sound { s with tasks := s.tasks ++ new, nextId := nextId } := by
  refine hs.of_tasks (hs.exclusive.append fun p hp => (hnew p hp).2) ?_ ?_
  · exact fun p hp _ _ _ => List.mem_append_left _ hp
  · intro p hp
    rcases List.mem_append.mp hp with h | h
    · exact .inl h
    · exact .inr (hnew p h).1

/-- A task that gives up its place for an idle one. -/
theorem Server.Sound.set (hs : s.Sound) (hi : s.tasks[i]? = some p) (hq : q.idle)
    (hp : ∀ id, s.shared.current = some id → p.leaving ≠ some id) :
    Server.Sound { s with tasks := s.tasks.set i q } := by
  refine hs.of_tasks (hs.exclusive.set hi ?_) ?_ ?_
  · rw [hq.2]
    exact fun l hl => absurd hl List.not_mem_nil
  · rintro r hr id hid hrid
    refine mem_set_of_ne hi hr ?_
    rintro rfl
    exact hp id hid hrid
  · intro r hr
    rcases List.mem_or_eq_of_mem_set hr with h | rfl
    · exact .inl h
    · exact .inr hq.1

/-- The main loop is the first task. -/
theorem getElem?_of_selecting (h : s.selecting = true) : s.tasks[0]? = some .select := by
  unfold Server.selecting at h
  split at h
  · next hselect =>
    rw [hselect]
    rfl
  · cases h

/-- A step that does no harm. -/
theorem Server.Sound.step {a : ServerAction} (hs : s.Sound) (hok : s.ok a = true)
    (hstep : s.step a = some s') : s'.Sound := by
  cases a with
  | accept tls =>
    rw [Server.step] at hstep
    split at hstep
    · obtain rfl := Option.some.inj hstep
      refine hs.append ?_
      cases tls with
      | false => exact fun p hp => absurd hp List.not_mem_nil
      | true =>
        intro p hp
        rcases List.mem_pair.mp hp with rfl | rfl <;> exact ⟨rfl, rfl⟩
    · cases hstep
  | line text =>
    rw [Server.step] at hstep
    split at hstep
    · next hselecting =>
      obtain rfl := Option.some.inj hstep
      split
      · refine hs.set (getElem?_of_selecting hselecting) ⟨rfl, rfl⟩ fun id hid hleaving => ?_
        cases hleaving
      · exact hs.append (by simpa using ⟨rfl, rfl⟩)
    · cases hstep
  | advance i env =>
    obtain ⟨p, next, hi, hwants, hresume, rfl⟩ := exists_of_step_advance hstep
    simp only [Server.ok, hi, Option.all_some] at hok
    exact hs.moved hi hwants hok hresume
  | cancel i =>
    rw [Server.step] at hstep
    split at hstep
    · cases hstep
    · next p hi =>
      split at hstep
      · obtain rfl := Option.some.inj hstep
        refine hs.set hi ⟨rfl, rfl⟩ fun id hid hleaving => ?_
        simp [Server.ok, hi, hleaving, hid] at hok
      · cases hstep

/-- The invariant holds when the server has started. -/
theorem Server.Sound.started : Server.started.Sound := by
  refine ⟨?_, nofun, ?_, ?_, ?_⟩
  · intro i j l hi hj
    obtain ⟨p, hp, hl⟩ := hi
    obtain rfl : p = .promptCurrent .mainLoop := by
      simpa [Server.started] using List.mem_of_getElem? hp
    cases hl
  all_goals simp [Server.started, Point.naming, Point.dropping, Point.waitsForItself]

/-- Runs that do no harm. -/
theorem Server.Sound.of_reaches (h : console.Reaches (fun s a => s.ok a = true) s) : s.Sound :=
  h.invariant (by rintro _ rfl; exact .started) fun _ _ _ hs hok hstep => hs.step hok hstep

/-- The place of a mutex in the order in which they are taken. -/
def Server.rank (s : Server) : LockName → ℕ
  | .history => 0
  | .clients => 2
  | .current => 3
  | .writer id => if s.tasks.any fun p => p.dropping = some id then 1 else 3

/-- A task waits only for a mutex above those it holds. -/
theorem Server.Sound.rank_lt (hs : s.Sound) {k l : LockName} (hwaiting : s.waiting i = some l)
    (hheld : Locks.HeldBy Point.holds s.tasks i k) : s.rank k < s.rank l := by
  obtain ⟨p, hi, hk⟩ := hheld
  have hp : p ∈ s.tasks := List.mem_of_getElem? hi
  simp only [Server.waiting, hi] at hwaiting
  split at hwaiting
  · cases hwaiting
  · next haborted =>
    have hwaits := hs.waits p hp
    cases p with
    | promptCurrent caller =>
      obtain rfl := Option.some.inj hwaiting
      cases caller with
      | lookup =>
        obtain rfl := List.mem_singleton.mp hk
        exact Nat.zero_lt_succ 2
      | leave id aborted => cases aborted <;> simp_all [Point.waitsForItself, Point.aborted]
      | _ => cases hk
    | promptClients caller =>
      obtain rfl := Option.some.inj hwaiting
      cases caller with
      | lookup =>
        obtain rfl := List.mem_singleton.mp hk
        exact Nat.zero_lt_succ 1
      | leave id aborted => cases hwaits
      | _ => cases hk
    | dropClients id =>
      obtain rfl := Option.some.inj hwaiting
      obtain rfl := List.mem_singleton.mp hk
      have hany : (s.tasks.any fun p => p.dropping = some id) = true :=
        List.any_eq_true.mpr ⟨_, hp, by simp [Point.dropping]⟩
      simp [Server.rank, hany]
    | exitWriter ids =>
      cases ids with
      | nil => cases hwaiting
      | cons id rest =>
        obtain rfl := Option.some.inj hwaiting
        obtain rfl := List.mem_singleton.mp hk
        have hany : (s.tasks.any fun p => p.dropping = some id) = false := by
          rw [List.any_eq_false]
          intro r hr hdropping
          exact hs.apart r hr _ hp id (of_decide_eq_true hdropping) List.mem_cons_self
        simp [Server.rank, hany]
    | _ =>
      first
      | exact absurd hk List.not_mem_nil
      | cases hwaiting
        done
      | obtain rfl := Option.some.inj hwaiting
        obtain rfl := List.mem_singleton.mp hk
        exact Nat.lt_succ_self 2

/-- Tasks do not wait in a circle. -/
theorem Server.Sound.not_deadlocked (hs : s.Sound) : ¬ s.Deadlocked := by
  rintro ⟨i, hcycle⟩
  exact Locks.Waits.acyclic (r := s.rank) (fun _ _ _ hl hk => hs.rank_lt hl hk) i hcycle

/-- A selection is valid if no task is about to deselect a client. -/
theorem Server.Sound.selectionValid (hs : s.Sound) (hquiet : s.quiet = true) :
    s.selectionValid = true := by
  cases hcurrent : s.shared.current with
  | none => simp [Server.selectionValid, hcurrent]
  | some id =>
    rcases hs.selection id hcurrent with hid | ⟨p, hp, hleaving⟩
    · simp [Server.selectionValid, hcurrent, hid]
    · have hp' := List.all_eq_true.mp hquiet p hp
      cases p <;> simp_all [Point.leaving, Point.inExit]

/-- In runs whose steps all do no harm, the selected client is in the table whenever no
task is in a critical section or at the end of `client_read_loop`, and no tasks wait for
mutexes in a circle. -/
theorem selection_valid_and_not_deadlocked
    (hreach : console.Reaches (fun s a => s.ok a = true) s) :
    (s.quiet = true → s.selectionValid = true) ∧ ¬ s.Deadlocked :=
  have hs := Server.Sound.of_reaches hreach
  ⟨hs.selectionValid, hs.not_deadlocked⟩

/-- A task makes some steps. -/
def steps (i count : ℕ) : List ServerAction := List.replicate count (.advance i Env.fine)

/-- An agent `A` connects and is greeted. -/
def agentConnects : List ServerAction :=
  steps 0 1 ++ [.accept true] ++ steps 1 1 ++
    [.advance 2 { Env.fine with data := Utf8.encode (greeting.toList ++ ['A', '\n']) }] ++ steps 2 6

/-- A command for the agent, up to the point where it is to be written. -/
def commandTyped : List ServerAction := [.line "ls"] ++ steps 3 6

/-- The write fails. -/
def writeFails : List ServerAction := [.advance 3 { Env.fine with ok := false }]

/-- The command is given up, and its client removed. -/
def agentDropped : List ServerAction := agentConnects ++ commandTyped ++ writeFails ++ steps 3 3

/-- Then the reader of the client comes to its end. -/
def readerEnds : List ServerAction := agentDropped ++ steps 2 3

/-- An `exit` has the table when the write fails. -/
def exitTyped : List ServerAction :=
  agentConnects ++ commandTyped ++ [.line "exit"] ++ steps 4 3 ++
    [.advance 4 { Env.fine with order := [0] }] ++ writeFails

/-- A task waits for a mutex of another one, as a test. -/
def Server.waitsOn (s : Server) (l : LockName) (i j : ℕ) : Bool :=
  s.waiting i = some l && (s.tasks[j]?).any fun p => l ∈ p.holds

/-- A task that waits for a lock waits for one that holds it. -/
theorem waits_of_waitsOn {l : LockName} {i j : ℕ} (h : s.waitsOn l i j = true) :
    Locks.Waits (Locks.HeldBy Point.holds s.tasks) s.waiting i j := by
  simp only [Server.waitsOn, Bool.and_eq_true, decide_eq_true_eq, Option.any_eq_true] at h
  obtain ⟨hwaiting, p, hp, hl⟩ := h
  exact ⟨l, hwaiting, p, hp, hl⟩

/-- A state that a run reaches has what the run shows. -/
theorem exists_of_exec (as : List ServerAction) (check : Server → Bool)
    (h : (console.exec Server.started as).any check = true) :
    ∃ s, console.Reachable s ∧ check s = true := by
  obtain ⟨s, hexec, hcheck⟩ := (Option.any_eq_true _ _).mp h
  exact ⟨s, Runs.System.Reachable.exec (.init rfl) hexec, hcheck⟩

/-- A failed write leaves a selected client that is not in the table; the reader of that
client then waits for itself; and an `exit` and a failed write wait for each other. -/
theorem selection_invalid_and_deadlocked :
    (∃ s, console.Reachable s ∧ s.quiet = true ∧ s.selectionValid = false) ∧
    (∃ s i, console.Reachable s ∧
      Locks.Waits (Locks.HeldBy Point.holds s.tasks) s.waiting i i ∧ s.Deadlocked) ∧
    ∃ s i j, console.Reachable s ∧ i ≠ j ∧
      Locks.Waits (Locks.HeldBy Point.holds s.tasks) s.waiting i j ∧
      Locks.Waits (Locks.HeldBy Point.holds s.tasks) s.waiting j i := by
  refine ⟨?_, ?_, ?_⟩
  · obtain ⟨s, hreach, hcheck⟩ := exists_of_exec agentDropped
      (fun s => s.quiet && !s.selectionValid) (by decide)
    simp only [Bool.and_eq_true, Bool.not_eq_true'] at hcheck
    exact ⟨s, hreach, hcheck⟩
  · obtain ⟨s, hreach, hcheck⟩ := exists_of_exec readerEnds
      (fun s => s.waitsOn .current 2 2) (by decide)
    have hwaits := waits_of_waitsOn hcheck
    exact ⟨s, 2, hreach, hwaits, 2, .single hwaits⟩
  · obtain ⟨s, hreach, hcheck⟩ := exists_of_exec exitTyped
      (fun s => s.waitsOn (.writer 0) 4 3 && s.waitsOn .clients 3 4) (by decide)
    rw [Bool.and_eq_true] at hcheck
    exact ⟨s, 4, 3, hreach, by decide, waits_of_waitsOn hcheck.1, waits_of_waitsOn hcheck.2⟩

/-- An agent that connects is selected. -/
theorem selection_valid_and_not_deadlocked_agentConnects :
    ∃ s, console.exec Server.started agentConnects = some s ∧ s.quiet = true ∧
      s.shared.current = some 0 ∧ s.selectionValid = true ∧ ¬ s.Deadlocked := by
  have hrun : ((console.exec Server.started agentConnects).any fun s =>
      s.quiet && decide (s.shared.current = some 0)) = true := by decide
  have hmeets : console.Meets (fun s a => s.ok a = true) Server.started agentConnects := by decide
  obtain ⟨s, hexec, hcheck⟩ := (Option.any_eq_true _ _).mp hrun
  simp only [Bool.and_eq_true, decide_eq_true_eq] at hcheck
  have hsound := selection_valid_and_not_deadlocked
    (Runs.System.Reaches.exec (.init rfl) hmeets hexec)
  exact ⟨s, hexec, hcheck.1, hcheck.2, hsound.1 hcheck.1, hsound.2⟩

end LinuxAgent.AgentCli
