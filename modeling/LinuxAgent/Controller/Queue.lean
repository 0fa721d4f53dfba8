import LinuxAgent.Controller.Egui
import Mathlib.Data.List.Forall2

/-!
# The queue of the controller

The current instruction and the queue behind it: a task is pending just while there is a current
instruction, and the queue is empty when there is none. The instructions that were queued are
served in their order, each one once, whatever the cycle mode puts in between. To tell the two
kinds apart, a flag is kept beside the state that says where the current instruction is from.
-/

namespace LinuxAgent.Controller.Egui

/-- What the user and the agent do. -/
inductive Action
  | queue (inst : JumpInstruction)
  | clear
  | sync (settings : CycleSettings)
  | request (request : Request)

/-- One action, with the data of the answer if it is a request. -/
def InnerState.act (s : InnerState) : Action → InnerState × Option Data
  | .queue inst => (s.doQueueJump inst, none)
  | .clear => (s.clearQueue, none)
  | .sync settings => (s.syncCycle settings, none)
  | .request r => ((s.routeRequest r).1, some (s.routeRequest r).2)

/-- The controller, and where its current instruction is from. -/
structure Traced where
  state : InnerState
  /-- The current instruction was made by the cycle mode. -/
  byCycle : Bool

/-- One action. `getIpJump` goes on with the queue if it serves an instruction and there is another
one in the queue. -/
def Traced.act (t : Traced) (a : Action) : Traced where
  state := (t.state.act a).1
  byCycle :=
    match a with
    | .queue inst =>
      if inst.targetIp ≠ "" ∧ t.state.currentInstruction = none then false else t.byCycle
    | .request .getIpJump =>
      t.state.currentInstruction.isNone || t.state.instructionQueue.isEmpty
    | _ => t.byCycle

/-- The controller after some actions. -/
def Traced.run (t : Traced) (as : List Action) : Traced := as.foldl Traced.act t

/-- The controller when it is started. -/
def InnerState.initial : InnerState where
  cycleStrategy := ⟨⟨false, [], "", 0, 0, 0, 0⟩, 0⟩

/-- The runs of the controller. -/
def system : Runs.System Traced Action where
  init t := t = ⟨InnerState.initial, false⟩
  step t a := some (t.act a)

/-- The queued instructions that have not been served. -/
def Traced.waiting (t : Traced) : List JumpInstruction :=
  (if t.byCycle then [] else t.state.currentInstruction.toList) ++ t.state.instructionQueue

/-- The answer of an action, if it serves a queued instruction. -/
def Traced.served (t : Traced) (a : Action) : List JumpData :=
  match a, t.state.currentInstruction, (t.state.act a).2 with
  | .request .getIpJump, some _, some (.jump data) => if t.byCycle then [] else [data]
  | _, _, _ => []

/-- All these answers in a run. -/
def Traced.servedIn (t : Traced) : List Action → List JumpData
  | [] => []
  | a :: as => t.served a ++ (t.act a).servedIn as

/-- The queued instruction that an action serves. -/
def Traced.serves (t : Traced) : Action → List JumpInstruction
  | .request .getIpJump => if t.byCycle then [] else t.state.currentInstruction.toList
  | _ => []

/-- All these instructions in a run. -/
def Traced.servesIn (t : Traced) : List Action → List JumpInstruction
  | [] => []
  | a :: as => t.serves a ++ (t.act a).servesIn as

/-- An answer tells the agent what an instruction says: where it jumps from and to, the target with
a prefix length, and how. -/
structure Tells (data : JumpData) (inst : JumpInstruction) : Prop where
  targetIp : data.targetIp = inst.targetIp ∧ '/' ∈ inst.targetIp.toList ∨
    data.targetIp = inst.targetIp ++ "/" ++ toString inst.prefixLen ∧ '/' ∉ inst.targetIp.toList
  sourceIp : data.sourceIp = bare inst.sourceIp
  gateway : data.gateway = inst.gateway
  mode : data.mode = inst.mode
  activeTime : data.activeTime = inst.activeTime
  agingTime : data.agingTime = inst.agingTime

/-- The instructions that are queued in a run. -/
def queuedIn (as : List Action) : List JumpInstruction :=
  as.flatMap fun a =>
    match a with
    | .queue inst => if inst.targetIp ≠ "" then [inst] else []
    | _ => []

/-- A task is pending just while there is a current instruction, and the queue is empty without
one. -/
structure InnerState.Ordered (s : InnerState) : Prop where
  pending : s.ipJumpTaskPending = s.currentInstruction.isSome
  queue : s.currentInstruction = none → s.instructionQueue = []

/-- The parts of the state that the queue is about. -/
def InnerState.view (s : InnerState) : Option JumpInstruction × List JumpInstruction × Bool :=
  (s.currentInstruction, s.instructionQueue, s.ipJumpTaskPending)

/-- The invariant depends on the queue, the current instruction and the flag only. -/
theorem ordered_of_view {s : InnerState} {current : Option JumpInstruction}
    {queue : List JumpInstruction} (h : s.view = (current, queue, current.isSome))
    (hqueue : current = none → queue = []) : s.Ordered := by
  obtain ⟨rfl, rfl, hpending⟩ := by simpa only [InnerState.view, Prod.mk.injEq] using h
  exact ⟨hpending, hqueue⟩

/-- What is queued becomes the current instruction or waits. -/
theorem view_doQueueJump {s : InnerState} (h : s.Ordered) (inst : JumpInstruction) :
    (s.doQueueJump inst).view =
      if inst.targetIp = "" then s.view
      else
        match s.currentInstruction with
        | none => (some inst, [], true)
        | some current => (some current, s.instructionQueue ++ [inst], true) := by
  rw [InnerState.doQueueJump]
  split
  · rfl
  · cases hcurrent : s.currentInstruction with
    | none =>
      rw [h.queue hcurrent]
      rfl
    | some current => simp [InnerState.view]

/-- After an instruction has been served, the next one is from the queue, if there is one there,
and else perhaps from the cycle. -/
theorem view_serve (s : InnerState) (inst : JumpInstruction) :
    (∃ queued rest, s.instructionQueue = queued :: rest ∧
        (s.serve inst).1.view = (some queued, rest, true)) ∨
      s.instructionQueue = [] ∧ ∃ next, (s.serve inst).1.view = (next, [], next.isSome) := by
  rw [InnerState.serve]
  cases hqueue : s.instructionQueue with
  | cons queued rest => exact .inl ⟨queued, rest, rfl, rfl⟩
  | nil =>
    refine .inr ⟨rfl, ?_⟩
    dsimp only
    split
    · split
      · exact ⟨some _, rfl⟩
      · exact ⟨none, rfl⟩
    · exact ⟨none, rfl⟩

/-- The start of the cycle leaves the queue alone. -/
theorem view_startCycle (s : InnerState) :
    s.startCycle.1.view = s.view ∨
      ∃ next, s.startCycle.1.view = (some next, s.instructionQueue, true) := by
  rw [InnerState.startCycle]
  dsimp only
  split
  · split
    · exact .inr ⟨_, rfl⟩
    · exact .inl rfl
  · exact .inl rfl

/-- What `getIpJump` does to the queue. -/
theorem view_getIpJump {s : InnerState} (h : s.Ordered) :
    (∃ inst queued rest, s.currentInstruction = some inst ∧ s.instructionQueue = queued :: rest ∧
        s.getIpJump.1.view = (some queued, rest, true)) ∨
      s.instructionQueue = [] ∧ ∃ next, s.getIpJump.1.view = (next, [], next.isSome) := by
  rw [InnerState.getIpJump]
  cases hcurrent : s.currentInstruction with
  | some inst =>
    rcases view_serve s inst with ⟨queued, rest, hqueue, hview⟩ | hcycle
    · exact .inl ⟨inst, queued, rest, rfl, hqueue, hview⟩
    · exact .inr hcycle
  | none =>
    have hqueue := h.queue hcurrent
    have hview : s.view = (none, [], Option.isSome (none : Option JumpInstruction)) := by
      rw [InnerState.view, h.pending, hcurrent, hqueue]
    refine .inr ⟨hqueue, ?_⟩
    dsimp only
    split
    · rcases view_startCycle s with hsame | ⟨next, hnext⟩
      · exact ⟨none, hsame.trans hview⟩
      · exact ⟨some next, hqueue ▸ hnext⟩
    · exact ⟨none, hview⟩

/-- The other requests leave the queue alone. -/
theorem view_routeRequest {s : InnerState} {r : Request} (hr : r ≠ .getIpJump) :
    (s.routeRequest r).1.view = s.view := by
  cases r with
  | getIpJump => exact absurd rfl hr
  | _ => rfl

/-- Every action keeps the invariant. -/
theorem InnerState.Ordered.act {s : InnerState} (h : s.Ordered) (a : Action) :
    (s.act a).1.Ordered := by
  have hsame {s' : InnerState} (hview : s'.view = s.view) : s'.Ordered := by
    refine ordered_of_view (hview.trans ?_) h.queue
    rw [InnerState.view, h.pending]
  cases a with
  | queue inst =>
    by_cases htarget : inst.targetIp = ""
    · refine hsame ?_
      rw [InnerState.act, view_doQueueJump h, if_pos htarget]
    · have hview := view_doQueueJump h inst
      rw [if_neg htarget] at hview
      cases hcurrent : s.currentInstruction with
      | none =>
        rw [hcurrent] at hview
        exact ordered_of_view hview nofun
      | some current =>
        rw [hcurrent] at hview
        exact ordered_of_view hview nofun
  | clear => exact ⟨h.pending, fun _ => rfl⟩
  | sync settings => exact hsame rfl
  | request r =>
    by_cases hr : r = .getIpJump
    · subst hr
      have hcount : ({ s with requestCount := s.requestCount + 1 } : InnerState).Ordered :=
        hsame rfl
      rcases view_getIpJump hcount with ⟨inst, queued, rest, -, -, hview⟩ | ⟨-, next, hview⟩
      · exact ordered_of_view hview nofun
      · exact ordered_of_view hview fun _ => rfl
    · exact hsame (view_routeRequest hr)

/-- What waits depends on the queue, the current instruction and its origin only. -/
theorem waiting_of_view {t : Traced} {current : Option JumpInstruction}
    {queue : List JumpInstruction} {pending : Bool} (h : t.state.view = (current, queue, pending)) :
    t.waiting = (if t.byCycle then [] else current.toList) ++ queue := by
  obtain ⟨rfl, rfl, -⟩ := by simpa only [InnerState.view, Prod.mk.injEq] using h
  rfl

/-- Actions that change neither the queue nor the current instruction. -/
theorem waiting_of_same {t t' : Traced} (hview : t'.state.view = t.state.view)
    (hcycle : t'.byCycle = t.byCycle) : t'.waiting = t.waiting := by
  rw [waiting_of_view hview, hcycle]
  rfl

/-- The answer that serves an instruction is made of it. -/
theorem served_eq_map (t : Traced) (a : Action) :
    t.served a = (t.serves a).map JumpInstruction.toJson := by
  cases a with
  | request r =>
    cases r with
    | getIpJump =>
      cases hcurrent : t.state.currentInstruction with
      | none =>
        simp only [Traced.served, Traced.serves, hcurrent]
        cases t.byCycle <;> rfl
      | some inst =>
        have hanswer : (t.state.act (.request .getIpJump)).2 = some (.jump inst.toJson) := by
          rw [InnerState.act, InnerState.routeRequest]
          simp only [InnerState.getIpJump, hcurrent]
          rfl
        simp only [Traced.served, Traced.serves, hcurrent, hanswer]
        cases t.byCycle <;> rfl
    | _ => rfl
  | _ => rfl

/-- The same over a run. -/
theorem servedIn_eq_map (t : Traced) (as : List Action) :
    t.servedIn as = (t.servesIn as).map JumpInstruction.toJson := by
  induction as generalizing t with
  | nil => rfl
  | cons a as ih => rw [Traced.servedIn, Traced.servesIn, List.map_append, served_eq_map, ih]

/-- An answer tells what its instruction says. -/
theorem tells_toJson (inst : JumpInstruction) : Tells inst.toJson inst where
  targetIp := by
    rw [JumpInstruction.toJson, JumpInstruction.targetIpCidr]
    by_cases hslash : '/' ∈ inst.targetIp.toList
    · exact .inl ⟨if_pos hslash, hslash⟩
    · exact .inr ⟨if_neg hslash, hslash⟩
  sourceIp := by
    rw [JumpInstruction.toJson, JumpInstruction.sourceIpBare]
    by_cases hsource : inst.sourceIp = ""
    · rw [if_pos hsource, hsource]
      rfl
    · exact if_neg hsource
  gateway := rfl
  mode := rfl
  activeTime := rfl
  agingTime := rfl

/-- Queueing an instruction puts it behind those that wait. -/
theorem waiting_queue {t : Traced} (h : t.state.Ordered) (inst : JumpInstruction) :
    (t.act (.queue inst)).waiting = t.waiting ++ queuedIn [.queue inst] := by
  have hview : (t.act (.queue inst)).state.view = _ := view_doQueueJump h inst
  by_cases htarget : inst.targetIp = ""
  · rw [if_pos htarget] at hview
    have hcycle : (t.act (.queue inst)).byCycle = t.byCycle := by simp [Traced.act, htarget]
    rw [waiting_of_same hview hcycle]
    simp [queuedIn, htarget]
  · rw [if_neg htarget] at hview
    have hqueued : queuedIn [.queue inst] = [inst] := by simp [queuedIn, htarget]
    cases hcurrent : t.state.currentInstruction with
    | none =>
      rw [hcurrent] at hview
      have hcycle : (t.act (.queue inst)).byCycle = false := by simp [Traced.act, htarget, hcurrent]
      rw [waiting_of_view hview, hcycle, hqueued, Traced.waiting, hcurrent, h.queue hcurrent]
      simp
    | some current =>
      rw [hcurrent] at hview
      have hcycle : (t.act (.queue inst)).byCycle = t.byCycle := by simp [Traced.act, hcurrent]
      rw [waiting_of_view hview, hcycle, hqueued, Traced.waiting, hcurrent, List.append_assoc]

/-- After `getIpJump` the queue is all that waits. -/
theorem waiting_getIpJump {t : Traced} (h : t.state.Ordered) :
    (t.act (.request .getIpJump)).waiting = t.state.instructionQueue := by
  have hcount : ({ t.state with requestCount := t.state.requestCount + 1 } : InnerState).Ordered :=
    ⟨h.pending, h.queue⟩
  rcases view_getIpJump hcount with ⟨inst, queued, rest, hcurrent, hqueue, hview⟩ |
    ⟨hqueue, next, hview⟩
  · have hcurrent : t.state.currentInstruction = some inst := hcurrent
    have hqueue : t.state.instructionQueue = queued :: rest := hqueue
    have hcycle : (t.act (.request .getIpJump)).byCycle = false := by
      simp [Traced.act, hcurrent, hqueue]
    have hview : (t.act (.request .getIpJump)).state.view = (some queued, rest, true) := hview
    rw [waiting_of_view hview, hcycle, hqueue]
    rfl
  · have hqueue : t.state.instructionQueue = [] := hqueue
    have hcycle : (t.act (.request .getIpJump)).byCycle = true := by simp [Traced.act, hqueue]
    have hview : (t.act (.request .getIpJump)).state.view = (next, [], next.isSome) := hview
    rw [waiting_of_view hview, hcycle, hqueue]
    rfl

/-- What was waiting or is queued is served or waits, in this order. -/
theorem serves_append_waiting {t : Traced} (h : t.state.Ordered) {a : Action} (ha : a ≠ .clear) :
    t.serves a ++ (t.act a).waiting = t.waiting ++ queuedIn [a] := by
  cases a with
  | clear => exact absurd rfl ha
  | sync settings =>
    have hsame : (t.act (.sync settings)).waiting = t.waiting := waiting_of_same rfl rfl
    rw [hsame]
    simp [Traced.serves, queuedIn]
  | queue inst =>
    rw [waiting_queue h]
    rfl
  | request r =>
    by_cases hr : r = .getIpJump
    · subst hr
      rw [waiting_getIpJump h]
      simp [Traced.serves, queuedIn, Traced.waiting]
    · have hcycle : (t.act (.request r)).byCycle = t.byCycle := by
        cases r with
        | getIpJump => exact absurd rfl hr
        | _ => rfl
      have hserves : t.serves (.request r) = [] := by
        cases r with
        | getIpJump => exact absurd rfl hr
        | _ => rfl
      rw [waiting_of_same (view_routeRequest hr) hcycle, hserves]
      simp [queuedIn]

/-- The same for the answers. -/
theorem served_append_waiting {t : Traced} (h : t.state.Ordered) {a : Action} (ha : a ≠ .clear) :
    t.served a ++ (t.act a).waiting.map JumpInstruction.toJson =
      (t.waiting ++ queuedIn [a]).map JumpInstruction.toJson := by
  rw [served_eq_map, ← List.map_append, serves_append_waiting h ha]

/-- The same over a stretch without `Clear Queue`. -/
theorem servesIn_append_waiting {t : Traced} (h : t.state.Ordered) {as : List Action}
    (has : .clear ∉ as) :
    t.servesIn as ++ (t.run as).waiting = t.waiting ++ queuedIn as := by
  induction as generalizing t with
  | nil => simp [Traced.servesIn, Traced.run, queuedIn]
  | cons a as ih =>
    rw [List.mem_cons, not_or] at has
    have hstep := serves_append_waiting h (Ne.symm has.1)
    have hrest : (t.act a).servesIn as ++ (t.run (a :: as)).waiting =
        (t.act a).waiting ++ queuedIn as := ih (t := t.act a) (h.act a) has.2
    have hqueued : queuedIn (a :: as) = queuedIn [a] ++ queuedIn as := by
      simp [queuedIn]
    rw [Traced.servesIn, List.append_assoc]
    calc t.serves a ++ ((t.act a).servesIn as ++ (t.run (a :: as)).waiting)
        = t.serves a ++ ((t.act a).waiting ++ queuedIn as) := congrArg _ hrest
      _ = t.waiting ++ queuedIn [a] ++ queuedIn as := by rw [← List.append_assoc, hstep]
      _ = t.waiting ++ queuedIn (a :: as) := by rw [hqueued, List.append_assoc]

/-- In every state of the controller a task is pending just if there is a current instruction, and
the queue is empty if there is none. From there on, in any stretch without `Clear Queue`, the
instructions that wait or are queued are served in this order, and those that have not been served
wait in this order. The answers that serve them tell the agent what they say, one each. -/
theorem queue_discipline {t : Traced} (h : system.Reachable t) :
    (t.state.ipJumpTaskPending = true ↔ t.state.currentInstruction.isSome = true) ∧
      (t.state.currentInstruction = none → t.state.instructionQueue = []) ∧
      ∀ as, .clear ∉ as → ∃ served : List JumpInstruction,
        served ++ (t.run as).waiting = t.waiting ++ queuedIn as ∧
          t.servedIn as = served.map JumpInstruction.toJson ∧
          List.Forall₂ Tells (t.servedIn as) served := by
  have hordered : t.state.Ordered := by
    refine h.invariant (I := fun t => t.state.Ordered) ?_ ?_
    · rintro t rfl
      exact ⟨rfl, fun _ => rfl⟩
    · intro t a t' ht _ hstep
      obtain rfl := Option.some.inj hstep
      exact ht.act a
  refine ⟨by rw [hordered.pending], hordered.queue, fun as has => ?_⟩
  refine ⟨t.servesIn as, servesIn_append_waiting hordered has, servedIn_eq_map t as, ?_⟩
  rw [servedIn_eq_map, List.forall₂_map_left_iff, List.forall₂_same]
  exact fun inst _ => tells_toJson inst

/-- An instruction for an address. -/
def jumpTo (ip : String) : JumpInstruction := ⟨"", ip, "", 1, 0, 2, 24⟩

/-- Two instructions are queued and one is asked for. -/
def twoJumps : List Action :=
  [.queue (jumpTo "10.0.0.1"), .queue (jumpTo "10.0.0.2"), .request .getIpJump]

/-- The first one is served, and the second one waits. -/
theorem queue_discipline_two_jumps : ∃ served : List JumpInstruction,
    served ++ ((⟨InnerState.initial, false⟩ : Traced).run twoJumps).waiting =
        [jumpTo "10.0.0.1", jumpTo "10.0.0.2"] ∧
      List.Forall₂ Tells ((⟨InnerState.initial, false⟩ : Traced).servedIn twoJumps) served := by
  have hinit : system.Reachable (⟨InnerState.initial, false⟩ : Traced) := .init rfl
  obtain ⟨served, hserved, -, htells⟩ :=
    (queue_discipline hinit).2.2 twoJumps (by simp [twoJumps])
  exact ⟨served, hserved, htells⟩

end LinuxAgent.Controller.Egui
