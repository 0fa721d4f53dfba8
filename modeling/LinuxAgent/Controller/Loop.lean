import LinuxAgent.Controller.Agreement
import LinuxAgent.Controller.Queue
import LinuxAgent.IpJump.Daemon

/-!
# The agent and the controller

The agent asks the controller for tasks, closes the jump task, asks for its instruction and passes
it on to the daemon, which in periodic mode asks for instructions itself. The controller takes an
instruction out of the queue before its answer arrives. So a queued instruction reaches the agent at
most once, in the order of the queue, and it is lost just if the answer is. As many undisturbed
rounds as there are instructions empty the queue, whatever comes of closing the task.
-/

namespace LinuxAgent.Controller.Loop

open Egui
open IpJump (IpJumpInstruction)

/-- What becomes of a request of the agent. -/
inductive Net
  /-- It does not reach the controller. -/
  | unreachable
  /-- The controller answers, and the answer is lost. -/
  | unanswered
  | answered
  deriving DecidableEq

/-- Where the task fetcher stands. -/
inductive Point
  /-- Before the next `gettask`. -/
  | polling
  /-- The jump task is listed, and is closed next. -/
  | closing
  /-- Before `getIpJump`. -/
  | fetching
  /-- The answer was empty, and the task is closed once more. -/
  | closingAgain
  deriving DecidableEq

/-- The instruction that the agent makes of an answer, if it has a source or a target. -/
def instructionOf (data : JumpData) : Option IpJumpInstruction :=
  if data.sourceIp = "" ∧ data.targetIp = "" then none
  else some ⟨data.sourceIp, data.targetIp, data.gateway, .ofNat data.activeTime.toNat⟩

/-- An answer to `getIpJump` that the controller has given. -/
structure Answer where
  data : JumpData
  /-- It serves an instruction that was queued by hand. -/
  queued : Bool
  arrived : Bool

/-- What the agent takes from an answer. -/
def Answer.instruction (a : Answer) : Option IpJumpInstruction :=
  if a.arrived then instructionOf a.data else none

/-- The controller, the fetcher, and what has gone between them. -/
structure State where
  controller : Traced
  point : Point
  /-- The instructions that were queued by hand. -/
  queued : List JumpInstruction
  answers : List Answer
  /-- The instructions that were sent to the daemon or that it has fetched. -/
  received : List IpJumpInstruction

/-- What happens. -/
inductive Action
  /-- The user, or a request of the agent other than those below. -/
  | other (a : Egui.Action)
  /-- `gettask` -/
  | poll (net : Net)
  /-- `report_task_completion` -/
  | close (net : Net)
  /-- `task_down_ipjump` from `getIpJump` on. -/
  | fetch (net : Net)
  /-- `fetch_latest_instruction` of the daemon. -/
  | refetch (net : Net)

/-- The requests that have an action of their own. -/
def isLoopRequest : Egui.Action → Bool
  | .request .getIpJump => true
  | .request .gettask => true
  | _ => false

/-- The jump task is on a list of tasks. -/
def listsJump : Data → Bool
  | .tasklist tasks => tasks.contains 37
  | _ => false

/-- A request whose answer the agent does not look at. -/
def State.report (s : State) (net : Net) (r : Request) : State :=
  if net = .unreachable then s else { s with controller := s.controller.act (.request r) }

/-- `getIpJump` and its answer. -/
def State.ask (s : State) (net : Net) : State :=
  if net = .unreachable then s
  else
    let answer : Answer :=
      { data := (s.controller.state.routeRequest .getIpJump).2.jumpData
        queued := !(s.controller.served (.request .getIpJump)).isEmpty
        arrived := net = .answered }
    { s with
      controller := s.controller.act (.request .getIpJump)
      answers := s.answers ++ [answer]
      received := s.received ++ answer.instruction.toList }

/-- One step. -/
def step (s : State) : Action → Option State
  | .other a =>
    if isLoopRequest a then none
    else some { s with controller := s.controller.act a, queued := s.queued ++ queuedIn [a] }
  | .poll net =>
    if s.point ≠ .polling then none
    else if net = .answered ∧ listsJump (s.controller.state.routeRequest .gettask).2 then
      some { s.report net .gettask with point := .closing }
    else some (s.report net .gettask)
  | .close net =>
    if s.point = .closing then some { s.report net .other with point := .fetching }
    else if s.point = .closingAgain then some { s.report net .other with point := .polling }
    else none
  | .fetch net =>
    if s.point ≠ .fetching then none
    else if net = .answered ∧
        instructionOf (s.controller.state.routeRequest .getIpJump).2.jumpData = none then
      some { s.ask net with point := .closingAgain }
    else some { s.ask net with point := .polling }
  | .refetch net => some (s.ask net)

/-- The loop from the start of the controller on. -/
def system : Runs.System State Action where
  init s := s = ⟨⟨InnerState.initial, false⟩, .polling, [], [], []⟩
  step := step

/-- The queue is not cleared. -/
def KeepsQueue (_ : State) (a : Action) : Prop := a ≠ .other .clear

/-- The current instruction and the queued ones have a target. -/
def HasTargets (s : InnerState) : Prop :=
  ∀ inst ∈ s.currentInstruction.toList ++ s.instructionQueue, inst.targetIp ≠ ""

/-- The answers account for the queued instructions and for what the agent has got. -/
structure Accounted (s : State) : Prop where
  ordered : s.controller.state.Ordered
  targets : HasTargets s.controller.state
  queued : (s.answers.filter Answer.queued).map Answer.data ++
    s.controller.waiting.map JumpInstruction.toJson = s.queued.map JumpInstruction.toJson
  received : s.received = s.answers.filterMap Answer.instruction
  arrived : ∀ a ∈ s.answers, a.queued = true → a.arrived = true → a.instruction.isSome

/-- It depends on the queue and the current instruction only. -/
theorem HasTargets.of_view {s s' : InnerState} (h : HasTargets s) (hview : s'.view = s.view) :
    HasTargets s' := by
  simp only [InnerState.view, Prod.mk.injEq] at hview
  rwa [HasTargets, hview.1, hview.2.1]

/-- What is queued has a target. -/
theorem HasTargets.doQueueJump {s : InnerState} (h : HasTargets s) (hordered : s.Ordered)
    (inst : JumpInstruction) : HasTargets (s.doQueueJump inst) := by
  have hview := view_doQueueJump hordered inst
  by_cases htarget : inst.targetIp = ""
  · rw [if_pos htarget] at hview
    exact h.of_view hview
  · rw [if_neg htarget] at hview
    cases hcurrent : s.currentInstruction with
    | none =>
      simp only [hcurrent, InnerState.view, Prod.mk.injEq] at hview
      simpa [HasTargets, hview.1, hview.2.1] using htarget
    | some current =>
      simp only [hcurrent, InnerState.view, Prod.mk.injEq] at hview
      rw [HasTargets, hview.1, hview.2.1]
      rw [HasTargets, hcurrent] at h
      intro other hother
      simp only [Option.toList_some, List.singleton_append, List.mem_cons, List.mem_append,
        List.not_mem_nil, or_false] at hother
      obtain rfl | hother | rfl := hother
      · exact h _ (by simp)
      · exact h _ (by simp [hother])
      · exact htarget

/-- What the controller goes on with after an answer has a target. -/
theorem HasTargets.serve {s : InnerState} (hqueue : ∀ inst ∈ s.instructionQueue, inst.targetIp ≠ "")
    (inst : JumpInstruction) : HasTargets (s.serve inst).1 := by
  unfold InnerState.serve
  cases hrest : s.instructionQueue with
  | cons queued rest =>
    rw [hrest] at hqueue
    exact hqueue
  | nil =>
    dsimp only
    split
    · split
      · next hnext => simpa [HasTargets, hrest] using hnext
      · simp [HasTargets]
    · simp [HasTargets]

/-- The start of a cycle leaves an instruction with a target. -/
theorem HasTargets.startCycle {s : InnerState} (h : HasTargets s)
    (hcurrent : s.currentInstruction = none) : HasTargets s.startCycle.1 := by
  have hqueue : ∀ inst ∈ s.instructionQueue, inst.targetIp ≠ "" := fun inst hinst =>
    h inst (List.mem_append_right _ hinst)
  unfold InnerState.startCycle
  dsimp only
  split
  · split
    · next hnext => simpa [HasTargets] using ⟨hnext, hqueue⟩
    · simpa [HasTargets, hcurrent] using hqueue
  · simpa [HasTargets, hcurrent] using hqueue

/-- Answering leaves instructions with targets. -/
theorem HasTargets.getIpJump {s : InnerState} (h : HasTargets s) : HasTargets s.getIpJump.1 := by
  unfold InnerState.getIpJump
  cases hcurrent : s.currentInstruction with
  | some inst => exact .serve (fun inst hinst => h inst (List.mem_append_right _ hinst)) inst
  | none =>
    dsimp only
    split
    · exact h.startCycle hcurrent
    · exact h

/-- Every action of the controller keeps the targets. -/
theorem HasTargets.act {t : Traced} (h : HasTargets t.state) (hordered : t.state.Ordered)
    (a : Egui.Action) : HasTargets (t.act a).state := by
  cases a with
  | queue inst => exact h.doQueueJump hordered inst
  | clear =>
    intro inst hinst
    have hcurrent : inst ∈ t.state.currentInstruction.toList := by
      simpa [Traced.act, InnerState.act, InnerState.clearQueue] using hinst
    exact h inst (List.mem_append_left _ hcurrent)
  | sync settings => exact h
  | request r =>
    cases r with
    | getIpJump => exact HasTargets.getIpJump (s := { t.state with requestCount := _ }) h
    | _ => exact h

/-- What the agent makes of an instruction of the controller. -/
def forAgent (inst : JumpInstruction) : IpJumpInstruction :=
  ⟨inst.sourceIpBare, inst.targetIpCidr, inst.gateway, .ofNat inst.activeTime.toNat⟩

/-- An instruction with a target is one for the agent. -/
theorem instructionOf_toJson {inst : JumpInstruction} (h : inst.targetIp ≠ "") :
    instructionOf inst.toJson = some (forAgent inst) := by
  rw [instructionOf, if_neg fun hempty => JumpInstruction.targetIpCidr_ne h hempty.2]
  rfl

/-- The answer that serves a queued instruction has its data. -/
theorem served_eq_of_ne_nil {t : Traced} (h : t.served (.request .getIpJump) ≠ []) :
    ∃ inst, t.state.currentInstruction = some inst ∧
      t.served (.request .getIpJump) = [inst.toJson] ∧
      (t.state.routeRequest .getIpJump).2.jumpData = inst.toJson := by
  rw [served_eq_map, Traced.serves] at h ⊢
  cases hcurrent : t.state.currentInstruction with
  | none =>
    rw [hcurrent] at h
    cases hcycle : t.byCycle <;> simp [hcycle] at h
  | some inst =>
    rw [hcurrent] at h
    refine ⟨inst, rfl, ?_, ?_⟩
    · cases hcycle : t.byCycle with
      | true => simp [hcycle] at h
      | false => rfl
    · rw [InnerState.routeRequest]
      simp only [InnerState.getIpJump, hcurrent]
      rfl

/-- The data of the answers that serve queued instructions. -/
def servedData (answers : List Answer) : List JumpData :=
  (answers.filter Answer.queued).map Answer.data

/-- What an answer is that the controller gives. -/
theorem ask_cases (s : State) (net : Net) :
    s.ask net = s ∨ ∃ answer : Answer,
      s.ask net =
        { s with
          controller := s.controller.act (.request .getIpJump)
          answers := s.answers ++ [answer]
          received := s.received ++ answer.instruction.toList } ∧
      servedData [answer] = s.controller.served (.request .getIpJump) ∧
      (answer.queued = true → ∃ inst ∈ s.controller.state.currentInstruction,
        answer.data = inst.toJson) := by
  rw [State.ask]
  split
  · exact .inl rfl
  · refine .inr ⟨_, rfl, ?_, ?_⟩
    · by_cases hnil : s.controller.served (.request .getIpJump) = []
      · simp [servedData, hnil]
      · obtain ⟨inst, -, hserve, hdata⟩ := served_eq_of_ne_nil hnil
        simp [servedData, hserve, hdata]
    · intro hqueued
      have hne : s.controller.served (.request .getIpJump) ≠ [] := by simpa using hqueued
      obtain ⟨inst, hcurrent, -, hdata⟩ := served_eq_of_ne_nil hne
      exact ⟨inst, hcurrent, hdata⟩

/-- Asking for the instruction. -/
theorem Accounted.ask {s : State} (h : Accounted s) (net : Net) : Accounted (s.ask net) := by
  obtain hsame | ⟨answer, hask, hserve, hcurrent⟩ := ask_cases s net
  · rwa [hsame]
  rw [hask]
  refine ⟨h.ordered.act _, h.targets.act h.ordered _, ?_, ?_, ?_⟩
  · have hserved := served_append_waiting h.ordered (a := .request .getIpJump) (by simp)
    have hqueued := h.queued
    have hnone : queuedIn [.request .getIpJump] = [] := rfl
    rw [hnone, List.append_nil, ← hserve] at hserved
    rw [← hserved] at hqueued
    simpa [servedData, List.append_assoc] using hqueued
  · simp only [h.received, List.filterMap_append]
    cases hinstruction : answer.instruction <;> simp [hinstruction]
  · intro a ha hqueued harrived
    obtain ha | rfl := List.mem_append.mp ha |>.imp_right List.mem_singleton.mp
    · exact h.arrived a ha hqueued harrived
    · obtain ⟨inst, hinst, hdata⟩ := hcurrent hqueued
      rw [Answer.instruction, if_pos harrived, hdata, instructionOf_toJson
        (h.targets inst (List.mem_append_left _ (Option.mem_toList.mpr hinst)))]
      rfl

/-- A request that leaves the queue alone. -/
theorem Accounted.report {s : State} (h : Accounted s) (net : Net) {r : Request}
    (hr : r ≠ .getIpJump) : Accounted (s.report net r) := by
  rw [State.report]
  split
  · exact h
  · have hview : (s.controller.act (.request r)).state.view = s.controller.state.view :=
      view_routeRequest hr
    have hcycle : (s.controller.act (.request r)).byCycle = s.controller.byCycle := by
      cases r with
      | getIpJump => exact absurd rfl hr
      | _ => rfl
    refine ⟨h.ordered.act _, h.targets.of_view hview, ?_, h.received, h.arrived⟩
    rw [waiting_of_same hview hcycle]
    exact h.queued

/-- Where the fetcher stands does not matter. -/
theorem Accounted.moveTo {s : State} (h : Accounted s) (point : Point) :
    Accounted { s with point := point } :=
  ⟨h.ordered, h.targets, h.queued, h.received, h.arrived⟩

/-- Anything but `Clear Queue` that the user does. -/
theorem Accounted.other {s : State} (h : Accounted s) {a : Egui.Action}
    (hclear : a ≠ .clear) (hloop : isLoopRequest a = false) :
    Accounted { s with controller := s.controller.act a, queued := s.queued ++ queuedIn [a] } := by
  refine ⟨h.ordered.act a, h.targets.act h.ordered a, ?_, h.received, h.arrived⟩
  have hserved := served_append_waiting h.ordered hclear
  have hnone : s.controller.served a = [] := by
    cases a with
    | request r =>
      cases r with
      | getIpJump => cases hloop
      | _ => rfl
    | _ => rfl
  rw [hnone, List.nil_append, List.map_append] at hserved
  rw [hserved, List.map_append, ← h.queued, List.append_assoc]

/-- Every step but `Clear Queue` keeps the account. -/
theorem Accounted.step {s s' : State} {a : Action} (h : Accounted s) (hok : KeepsQueue s a)
    (hstep : step s a = some s') : Accounted s' := by
  cases a with
  | other a =>
    rw [Loop.step] at hstep
    split at hstep
    · cases hstep
    · next hloop =>
      obtain rfl := Option.some.inj hstep
      exact h.other (fun ha => hok (congrArg _ ha)) (by simpa using hloop)
  | poll net =>
    have hpoll : Accounted (s.report net .gettask) := h.report net (by simp)
    rw [Loop.step] at hstep
    split at hstep
    · cases hstep
    split at hstep
    · exact Option.some.inj hstep ▸ hpoll.moveTo .closing
    · exact Option.some.inj hstep ▸ hpoll
  | close net =>
    have hclose : Accounted (s.report net .other) := h.report net (by simp)
    rw [Loop.step] at hstep
    split at hstep
    · exact Option.some.inj hstep ▸ hclose.moveTo .fetching
    split at hstep
    · exact Option.some.inj hstep ▸ hclose.moveTo .polling
    · cases hstep
  | fetch net =>
    rw [Loop.step] at hstep
    split at hstep
    · cases hstep
    split at hstep
    · exact Option.some.inj hstep ▸ (h.ask net).moveTo .closingAgain
    · exact Option.some.inj hstep ▸ (h.ask net).moveTo .polling
  | refetch net => exact Option.some.inj hstep ▸ h.ask net

/-- The answers account for the instructions in every run. -/
theorem accounted_of_reaches {s : State} (h : system.Reaches KeepsQueue s) : Accounted s := by
  refine h.invariant (I := Accounted) ?_ fun s a s' hs hok hstep => hs.step hok hstep
  rintro s rfl
  exact ⟨⟨rfl, fun _ => rfl⟩, nofun, rfl, rfl, nofun⟩

/-- The loop before anything has happened. -/
def start : State := ⟨⟨InnerState.initial, false⟩, .polling, [], [], []⟩

/-- Two instructions are queued, and the answer with the first one is lost. -/
def firstLost : List Action :=
  [.other (.queue (jumpTo "10.0.0.1")), .other (.queue (jumpTo "10.0.0.2")), .poll .answered,
    .close .unreachable, .fetch .unanswered]

/-- The loop after that. -/
def afterLoss : State := (system.exec start firstLost).getD start

/-- The run keeps the queue. -/
theorem reaches_afterLoss : system.Reaches KeepsQueue afterLoss :=
  .exec (.init rfl) (.of_forall (by simp [firstLost, KeepsQueue]) start)
    (show system.exec start firstLost = some afterLoss from rfl)

/-- A round in which `gettask` and `getIpJump` are answered. -/
def round (net : Net) : List Action := [.poll .answered, .close net, .fetch .answered]

/-- Other requests leave the queue and the origin of the current instruction. -/
theorem report_controller (s : State) (net : Net) {r : Request} (hr : r ≠ .getIpJump) :
    (s.report net r).controller.state.view = s.controller.state.view ∧
      (s.report net r).controller.byCycle = s.controller.byCycle := by
  rw [State.report]
  split
  · exact ⟨rfl, rfl⟩
  · refine ⟨view_routeRequest hr, ?_⟩
    cases r with
    | getIpJump => exact absurd rfl hr
    | _ => rfl

/-- A pending task is on the list. -/
theorem listsJump_gettask {s : InnerState} (h : s.ipJumpTaskPending = true) :
    listsJump (s.routeRequest .gettask).2 = true := by
  simp [InnerState.routeRequest, h, listsJump]

/-- The answer of a controller with a current instruction. -/
theorem jumpData_getIpJump {s : InnerState} {inst : JumpInstruction}
    (h : s.currentInstruction = some inst) :
    (s.routeRequest .getIpJump).2.jumpData = inst.toJson := by
  rw [InnerState.routeRequest]
  simp only [InnerState.getIpJump, h]
  rfl

/-- The first two steps of a round, if a task is pending. -/
theorem exec_poll_close {s : State} (hpoint : s.point = .polling)
    (hpending : s.controller.state.ipJumpTaskPending = true) (net : Net) :
    system.exec s [.poll .answered, .close net] =
      some { ({ s.report .answered .gettask with point := .closing } : State).report net .other with
        point := .fetching } := by
  have hpoll : step s (.poll .answered) =
      some { s.report .answered .gettask with point := .closing } := by
    rw [step, if_neg (by simp [hpoint]), if_pos ⟨rfl, listsJump_gettask hpending⟩]
  have hclose : step { s.report .answered .gettask with point := .closing } (.close net) =
      some { ({ s.report .answered .gettask with point := .closing } : State).report net .other with
        point := .fetching } := by
    rw [step, if_pos rfl]
  simp only [Runs.System.exec, system, hpoll, hclose, Option.bind_some]

/-- The last step of a round. -/
theorem step_fetch {s : State} (hpoint : s.point = .fetching) {inst : JumpInstruction}
    (hcurrent : s.controller.state.currentInstruction = some inst) (htarget : inst.targetIp ≠ "") :
    step s (.fetch .answered) = some { s.ask .answered with point := .polling } ∧
      (s.ask .answered).controller = s.controller.act (.request .getIpJump) ∧
      (s.ask .answered).received = s.received ++ [forAgent inst] := by
  have hdata := jumpData_getIpJump hcurrent
  have hsome := instructionOf_toJson htarget
  refine ⟨?_, ?_, ?_⟩
  · rw [step, if_neg (by simp [hpoint]), hdata, if_neg (by simp [hsome])]
  · rw [State.ask, if_neg (by decide)]
  · rw [State.ask, if_neg (by decide)]
    simp [Answer.instruction, hdata, hsome]

/-- The controller goes on with the queue. -/
theorem view_act_getIpJump {t : Traced} (h : t.state.Ordered) {queued : JumpInstruction}
    {rest : List JumpInstruction} (hqueue : t.state.instructionQueue = queued :: rest) :
    (t.act (.request .getIpJump)).state.view = (some queued, rest, true) := by
  have hcount : ({ t.state with requestCount := t.state.requestCount + 1 } : InnerState).Ordered :=
    ⟨h.pending, h.queue⟩
  obtain ⟨inst, first, others, -, hcons, hview⟩ | ⟨hnil, -⟩ := view_getIpJump hcount
  · obtain ⟨rfl, rfl⟩ := List.cons.inj (hqueue.symm.trans hcons)
    exact hview
  · exact absurd (hqueue.symm.trans hnil) (List.cons_ne_nil _ _)

/-- What a round leaves, if there is a current instruction. -/
theorem exec_round {s : State} (h : Accounted s) (hpoint : s.point = .polling)
    {inst : JumpInstruction} (hcurrent : s.controller.state.currentInstruction = some inst)
    (net : Net) :
    ∃ s', system.exec s (round net) = some s' ∧ Accounted s' ∧ s'.point = .polling ∧
      s'.received = s.received ++ [forAgent inst] ∧
      s'.controller.waiting = s.controller.state.instructionQueue ∧
      ∀ queued rest, s.controller.state.instructionQueue = queued :: rest →
        s'.controller.state.currentInstruction = some queued ∧
          s'.controller.state.instructionQueue = rest := by
  have hpending : s.controller.state.ipJumpTaskPending = true := by
    rw [h.ordered.pending, hcurrent]
    rfl
  have hstart := exec_poll_close hpoint hpending net
  set polled : State := { s.report .answered .gettask with point := .closing } with hpolled
  set closed : State := { polled.report net .other with point := .fetching } with hclosed
  have haccounted : Accounted closed :=
    (((h.report .answered (by simp)).moveTo .closing).report net (by simp)).moveTo .fetching
  have hview : closed.controller.state.view = s.controller.state.view :=
    (report_controller polled net (by simp)).1.trans (report_controller s .answered (by simp)).1
  simp only [InnerState.view, Prod.mk.injEq] at hview
  obtain ⟨hsame, hqueue, -⟩ := hview
  have hreceived : closed.received = s.received := by
    have hreport (s : State) (net : Net) (r : Request) :
        (s.report net r).received = s.received := by
      rw [State.report]
      split <;> rfl
    exact (hreport polled net .other).trans (hreport s .answered .gettask)
  obtain ⟨hstep, hcontroller, hask⟩ := step_fetch (s := closed) rfl (hsame.trans hcurrent)
    (h.targets inst (List.mem_append_left _ (by simp [hcurrent])))
  refine ⟨{ closed.ask .answered with point := .polling }, ?_,
    (haccounted.ask .answered).moveTo .polling, rfl, ?_, ?_, ?_⟩
  · have hexec := Runs.System.exec_append (S := system) [.poll .answered, .close net]
      [.fetch .answered] s
    rw [hstart, Option.bind_some] at hexec
    refine hexec.trans ?_
    rw [Runs.System.exec, system]
    exact (congrArg (Option.bind · _) hstep).trans rfl
  · exact hask.trans (congrArg (· ++ _) hreceived)
  · exact (congrArg Traced.waiting hcontroller).trans
      ((waiting_getIpJump haccounted.ordered).trans hqueue)
  · intro queued rest hcons
    have hnext := view_act_getIpJump haccounted.ordered (hqueue.trans hcons)
    rw [← hcontroller] at hnext
    simp only [InnerState.view, Prod.mk.injEq] at hnext
    exact ⟨hnext.1, hnext.2.1⟩

/-- Undisturbed rounds, as many as there are instructions, give them all to the agent in their order
and leave none of the queued ones behind, whatever comes of closing the task. -/
theorem rounds_deliver {s : State} (h : system.Reaches KeepsQueue s) (hpoint : s.point = .polling)
    {inst : JumpInstruction} (hcurrent : s.controller.state.currentInstruction = some inst)
    {nets : List Net} (hlength : nets.length = s.controller.state.instructionQueue.length + 1) :
    ∃ s', system.exec s (nets.flatMap round) = some s' ∧ s'.point = .polling ∧
      s'.controller.waiting = [] ∧
      s'.received =
        s.received ++ (inst :: s.controller.state.instructionQueue).map forAgent := by
  have haccounted : Accounted s := accounted_of_reaches h
  clear h
  generalize hqueue : s.controller.state.instructionQueue = queue at hlength
  induction queue generalizing s inst nets with
  | nil =>
    obtain ⟨net, rfl⟩ := List.length_eq_one_iff.mp hlength
    obtain ⟨s', hexec, -, hpoint', hreceived, hwaiting, -⟩ :=
      exec_round haccounted hpoint hcurrent net
    exact ⟨s', by simpa using hexec, hpoint', hwaiting.trans hqueue, hreceived⟩
  | cons queued rest ih =>
    obtain ⟨net, nets, rfl⟩ := List.exists_cons_of_ne_nil (List.ne_nil_of_length_pos
      (show 0 < nets.length by omega))
    obtain ⟨t, hexec, haccounted', hpoint', hreceived, -, hnext⟩ :=
      exec_round haccounted hpoint hcurrent net
    obtain ⟨hcurrent', hqueue'⟩ := hnext queued rest hqueue
    have hlength' : nets.length = rest.length + 1 := by simpa using hlength
    obtain ⟨s', hrest, hpoint'', hwaiting, hreceived'⟩ :=
      ih hpoint' hcurrent' haccounted' hqueue' hlength'
    refine ⟨s', ?_, hpoint'', hwaiting, ?_⟩
    · rw [List.flatMap_cons, Runs.System.exec_append, hexec]
      exact hrest
    · rw [hreceived', hreceived, List.append_assoc]
      rfl

/-- Three instructions are queued, and nothing has been asked for. -/
def threeQueued : State :=
  (system.exec start (["10.0.0.1", "10.0.0.2", "10.0.0.3"].map fun ip =>
    .other (.queue (jumpTo ip)))).getD start

/-- Three rounds give the current instruction and the two behind it to the agent, although closing
the task fails in one of them and is not answered in another. -/
theorem rounds_deliver_three :
    ∃ s', system.exec threeQueued ([.answered, .unreachable, .unanswered].flatMap round) = some s' ∧
      s'.point = .polling ∧ s'.controller.waiting = [] ∧
      s'.received = [forAgent (jumpTo "10.0.0.1"), forAgent (jumpTo "10.0.0.2"),
        forAgent (jumpTo "10.0.0.3")] := by
  have hreach : system.Reaches KeepsQueue threeQueued :=
    .exec (.init rfl) (.of_forall (by simp [KeepsQueue]) start)
      (show system.exec start (["10.0.0.1", "10.0.0.2", "10.0.0.3"].map fun ip =>
        .other (.queue (jumpTo ip))) = some threeQueued from rfl)
  exact rounds_deliver hreach rfl rfl rfl

end LinuxAgent.Controller.Loop
