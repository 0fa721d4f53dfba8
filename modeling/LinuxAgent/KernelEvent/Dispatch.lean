import LinuxAgent.KernelEvent.Netlink
import LinuxAgent.Lib.Runs
import Mathlib.Data.List.Forall2
import Mathlib.Data.List.Perm.Basic
import Mathlib.Logic.Function.Basic

/-!
# Handlers of kernel events

Every event that is received gets a task of its own. The tasks take turns at the lock of the event
handler, which a task keeps until its callback returns. The handlers are registered under the same
lock, in two groups, while events already come in: an event finds no handler at all, those of the
first group or those of both, and never a part of a group. No event is handled twice, and none is
dropped before its turn.

The lock is fair: those that wait get it in the order in which they asked.
-/

namespace LinuxAgent.KernelEvent

/-- `NLPolicyType`. -/
inductive NLPolicyType
  | nlPolicyCmdUnspec
  | nlPolicyCmdEcho
  | nlPolicySimpleEnd
  | nlPolicyBoolEnd
  | nlPolicyCmdRegister
  | nlPolicyCmdAddSymbol
  | nlPolicyCmdUnregister
  | nlPolicyMd5ruleEnd
  | nlPolicyDefenseUnspec
  | nlPolicyDefenseSwitcher
  | nlPolicyDefenseAddWhiteExe
  | nlPolicySelfSwitcher
  | nlPolicyGlobalDir
  | nlPolicyExiportRule
  | nlPolicyProtectRule
  | nlPolicyDefenseFileProcessPolicy
  | nlPolicyNetworkUnspec
  | nlPolicyNetworkPolicy
  | nlPolicyNetsyslogPolicy
  | nlPolicyNetworkServeripPolicy
  | nlPolicyNetworkNetblock
  | nlPolicyNetworkBusinessPortPolicy
  | nlPolicyNetworkClose
  | nlMaxClassicIndex
  | nlPolicyCmdNotify
  | nlPolicyCmdRegisteredNotify
  | nlPolicyAvProcessExecNotify
  | nlPolicyAvProcessExecZcopyNotify
  | nlPolicyAvFileChangeNotify
  | nlPolicyAvFileRenameNotify
  | nlPolicyAvFileAuditZcopyNotify
  | nlPolicyAvSelfProtectionNotify
  | nlPolicyNetPortNotify
  | nlPolicyNetPortZcopyNotify
  | nlPolicyNetConnectPortInNotify
  | nlPolicyNetConnectPortOutNotify
  | nlPolicyNetConnectPortNotify
  | nlPolicyNetDnsPortNotify
  | nlPolicyNetDnsPortZcopyNotify
  | nlPolicyInfoKernToAppNotify
  | nlPolicyUpdateProcessRuleNotify
  | nlPolicyServerListenNotify
  | nlMaxIndex
  deriving DecidableEq

/-- The numbers that `from_u32` knows. -/
def policyNumbers : List (NLPolicyType × ℕ) :=
  [(.nlPolicyCmdUnspec, 0), (.nlPolicyCmdEcho, 1), (.nlPolicySimpleEnd, 2), (.nlPolicyBoolEnd, 3),
    (.nlPolicyCmdRegister, 4), (.nlPolicyCmdAddSymbol, 5), (.nlPolicyCmdUnregister, 6),
    (.nlPolicyMd5ruleEnd, 7), (.nlPolicyDefenseUnspec, 0x100), (.nlPolicyDefenseSwitcher, 0x101),
    (.nlPolicyDefenseAddWhiteExe, 0x102), (.nlPolicySelfSwitcher, 0x103),
    (.nlPolicyGlobalDir, 0x104), (.nlPolicyExiportRule, 0x105), (.nlPolicyProtectRule, 0x106),
    (.nlPolicyDefenseFileProcessPolicy, 0x107), (.nlPolicyNetworkUnspec, 0x700),
    (.nlPolicyNetworkPolicy, 0x701), (.nlPolicyNetsyslogPolicy, 0x702),
    (.nlPolicyNetworkServeripPolicy, 0x703), (.nlPolicyNetworkNetblock, 0x704),
    (.nlPolicyNetworkBusinessPortPolicy, 0x705), (.nlPolicyNetworkClose, 0x706),
    (.nlMaxClassicIndex, 0x800), (.nlPolicyCmdNotify, 0x503),
    (.nlPolicyCmdRegisteredNotify, 0x504), (.nlPolicyAvProcessExecNotify, 0x505),
    (.nlPolicyAvProcessExecZcopyNotify, 0x506), (.nlPolicyAvFileChangeNotify, 0x507),
    (.nlPolicyAvFileRenameNotify, 0x508), (.nlPolicyAvFileAuditZcopyNotify, 0x509),
    (.nlPolicyAvSelfProtectionNotify, 0x50A), (.nlPolicyNetPortNotify, 0x50B),
    (.nlPolicyNetPortZcopyNotify, 0x50C), (.nlPolicyNetConnectPortInNotify, 0x50D),
    (.nlPolicyNetConnectPortOutNotify, 0x50E), (.nlPolicyNetConnectPortNotify, 0x50F),
    (.nlPolicyNetDnsPortNotify, 0x510), (.nlPolicyNetDnsPortZcopyNotify, 0x511),
    (.nlPolicyInfoKernToAppNotify, 0x512), (.nlPolicyUpdateProcessRuleNotify, 0x513),
    (.nlPolicyServerListenNotify, 0x514), (.nlMaxIndex, 0x1000)]

/-- `NLPolicyType::from_u32`. -/
def NLPolicyType.fromU32 (value : ℕ) : Option NLPolicyType :=
  (policyNumbers.find? fun entry => entry.2 = value).map Prod.fst

/-- The callbacks. -/
inductive Callback
  | handleEcho
  | handleRegister
  | handleAddSymbol
  | handleUnregister
  | handleFileZcopyOper
  | handleProcessZcopyOper
  | getNetAppHandler
  | handleInternalCommunicationLog
  | handleExternalCommunicationLog
  | handleFakePortZcopyOper
  | handleKernelDockerOper
  | handleSelfProtectOper
  deriving DecidableEq

/-- The handlers that `register_default_event_handlers` registers. -/
def defaultEventHandlers : List (NLPolicyType × Callback) :=
  [(.nlPolicyCmdEcho, .handleEcho), (.nlPolicyCmdRegister, .handleRegister),
    (.nlPolicyCmdAddSymbol, .handleAddSymbol), (.nlPolicyCmdUnregister, .handleUnregister)]

/-- The handlers that `register_user_event_handlers` registers. -/
def userEventHandlers : List (NLPolicyType × Callback) :=
  [(.nlPolicyAvFileAuditZcopyNotify, .handleFileZcopyOper),
    (.nlPolicyAvProcessExecZcopyNotify, .handleProcessZcopyOper),
    (.nlPolicyServerListenNotify, .getNetAppHandler),
    (.nlPolicyNetConnectPortInNotify, .handleInternalCommunicationLog),
    (.nlPolicyNetConnectPortOutNotify, .handleExternalCommunicationLog),
    (.nlPolicyNetPortZcopyNotify, .handleFakePortZcopyOper),
    (.nlPolicyInfoKernToAppNotify, .handleKernelDockerOper),
    (.nlPolicyAvSelfProtectionNotify, .handleSelfProtectOper)]

/-- `EventHandler`. -/
structure EventHandler where
  callbacks : NLPolicyType → Option Callback

/-- `EventHandler::new`. -/
def EventHandler.new : EventHandler := ⟨fun _ => none⟩

/-- `register_event_handler`. -/
def EventHandler.registerEventHandler (h : EventHandler) (entry : NLPolicyType × Callback) :
    EventHandler :=
  ⟨Function.update h.callbacks entry.1 (some entry.2)⟩

/-- The handlers of a list are registered one after the other. -/
def EventHandler.registerAll (h : EventHandler) (entries : List (NLPolicyType × Callback)) :
    EventHandler :=
  entries.foldl EventHandler.registerEventHandler h

/-- An event on its way to its handler. -/
structure Event where
  dataType : ℕ
  payload : List UInt8
  dataLen : ℕ
  deriving DecidableEq

/-- What comes of an event. -/
inductive Outcome
  | unknownDataType (dataType : ℕ)
  | noCallback (policyType : NLPolicyType)
  | called (callback : Callback)
  deriving DecidableEq

/-- `handle_event`, as far as it picks the callback. -/
def EventHandler.handleEvent (h : EventHandler) (e : Event) : Outcome :=
  match NLPolicyType.fromU32 e.dataType with
  | none => .unknownDataType e.dataType
  | some policyType => ((h.callbacks policyType).map Outcome.called).getD (.noCallback policyType)

/-- The two groups of handlers. -/
inductive Group
  | default
  | user
  deriving DecidableEq

/-- The handlers of a group. -/
def Group.handlers : Group → List (NLPolicyType × Callback)
  | .default => defaultEventHandlers
  | .user => userEventHandlers

/-- How far `start_kernel_send_handler` has come. -/
inductive Sender
  /-- It is about to ask for the lock. -/
  | asks (group : Group)
  | waits (group : Group)
  /-- It has the lock, and these handlers are still to be registered. -/
  | registers (group : Group) (rest : List (NLPolicyType × Callback))
  /-- Before `ZcopyMgr::new`. -/
  | creates
  | ended (registered : Bool)

/-- Who asks for the lock. -/
inductive Owner
  | sender
  | event (e : Event)
  deriving DecidableEq

/-- The event of a task. -/
def Owner.event? : Owner → Option Event
  | .sender => none
  | .event e => some e

/-- The event handler, its lock and the tasks around it. -/
structure State where
  handler : EventHandler
  sender : Sender
  /-- What `recvmsg` has returned. -/
  inputs : List Received
  /-- The tasks that have not asked for the lock yet. -/
  spawned : List Event
  /-- The first one has the lock, and the others wait for it. -/
  line : List Owner
  /-- The callback that runs for the first one. -/
  calling : Option Callback
  /-- The tasks that have asked for the lock, in their order. -/
  asked : List Event
  handled : List (Event × Outcome)

/-- What happens. -/
inductive Action
  | receive (input : Received)
  /-- A task asks for the lock. -/
  | ask (i : ℕ)
  /-- The task that has the lock looks for its callback. -/
  | handle
  /-- The callback returns. -/
  | finish
  /-- `start_kernel_send_handler` goes on; `created` is what `ZcopyMgr::new` comes to. -/
  | send (created : Bool)

/-- The event of a datagram, if it has one. -/
def Handled.event? : Handled → Option Event
  | .event dataType payload dataLen => some ⟨dataType, payload, dataLen⟩
  | _ => none

/-- The events of what has been received. -/
def received (t : Target) (inputs : List Received) : List Event :=
  (receiveMessagesLoop t inputs).1.filterMap Handled.event?

/-- `start_kernel_send_handler` goes on. -/
def State.send (s : State) (created : Bool) : Option State :=
  match s.sender with
  | .asks g => some { s with sender := .waits g, line := s.line ++ [.sender] }
  | .waits g =>
    if s.line.head? = some .sender then some { s with sender := .registers g g.handlers } else none
  | .registers g (entry :: rest) =>
    some { s with handler := s.handler.registerEventHandler entry, sender := .registers g rest }
  | .registers g [] =>
    some { s with sender := if g = .default then .creates else .ended true, line := s.line.tail }
  | .creates => some { s with sender := if created then .asks .user else .ended false }
  | .ended _ => none

/-- One step. -/
def step (t : Target) (s : State) : Action → Option State
  | .receive input =>
    if (receiveMessagesLoop t s.inputs).2 = .waiting then
      some { s with
        inputs := s.inputs ++ [input]
        spawned := s.spawned ++ received t [input] }
    else none
  | .ask i =>
    s.spawned[i]?.map fun e =>
      { s with
        spawned := s.spawned.eraseIdx i
        line := s.line ++ [.event e]
        asked := s.asked ++ [e] }
  | .handle =>
    match s.line, s.calling with
    | .event e :: rest, none =>
      match s.handler.handleEvent e with
      | .called callback => some { s with calling := some callback }
      | outcome => some { s with line := rest, handled := s.handled ++ [(e, outcome)] }
    | _, _ => none
  | .finish =>
    match s.line, s.calling with
    | .event e :: rest, some callback =>
      some { s with
        line := rest
        calling := none
        handled := s.handled ++ [(e, .called callback)] }
    | _, _ => none
  | .send created => s.send created

/-- Before the first event and the first handler. -/
def start : State := ⟨.new, .asks .default, [], [], [], none, [], []⟩

/-- The event handler, from its creation on. -/
def system (t : Target) : Runs.System State Action where
  init s := s = start
  step := step t

/-- The loop after a datagram that is handled. -/
theorem receiveMessagesLoop_cons {t : Target} {bytes : List UInt8} {handled : Handled}
    (hne : bytes.take 4096 ≠ []) (h : callback t (bytes.take 4096) = some handled)
    (inputs : List Received) :
    receiveMessagesLoop t (.datagram bytes :: inputs) =
      (handled :: (receiveMessagesLoop t inputs).1, (receiveMessagesLoop t inputs).2) := by
  rw [receiveMessagesLoop, if_neg hne, h]

/-- A loop that waits has handled its first datagram. -/
theorem handled_of_waiting {t : Target} {input : Received} {inputs : List Received}
    (h : (receiveMessagesLoop t (input :: inputs)).2 = .waiting) :
    ∃ bytes handled, input = .datagram bytes ∧ bytes.take 4096 ≠ [] ∧
      callback t (bytes.take 4096) = some handled := by
  cases input with
  | error errno => cases h
  | datagram bytes =>
    rw [receiveMessagesLoop] at h
    by_cases hnil : bytes.take 4096 = []
    · rw [if_pos hnil] at h
      cases h
    · rw [if_neg hnil] at h
      cases hcallback : callback t (bytes.take 4096) with
      | none =>
        rw [hcallback] at h
        cases h
      | some handled => exact ⟨bytes, handled, rfl, hnil, hcallback⟩

/-- The loop on more input. -/
theorem receiveMessagesLoop_append {t : Target} {inputs : List Received}
    (h : (receiveMessagesLoop t inputs).2 = .waiting) (more : List Received) :
    receiveMessagesLoop t (inputs ++ more) =
      ((receiveMessagesLoop t inputs).1 ++ (receiveMessagesLoop t more).1,
        (receiveMessagesLoop t more).2) := by
  induction inputs with
  | nil => rfl
  | cons input inputs ih =>
    obtain ⟨bytes, handled, rfl, hne, hcallback⟩ := handled_of_waiting h
    rw [receiveMessagesLoop_cons hne hcallback] at h
    rw [List.cons_append, receiveMessagesLoop_cons hne hcallback,
      receiveMessagesLoop_cons hne hcallback, ih h]
    rfl

/-- Where `start_kernel_send_handler` stands at the lock. -/
def Sender.inLine : Sender → Bool
  | .waits _ => true
  | .registers _ _ => true
  | _ => false

/-- What holds of the lock and of the events all along. -/
structure Inv (t : Target) (s : State) : Prop where
  received : (received t s.inputs).Perm (s.asked ++ s.spawned)
  asked : s.asked = s.handled.map Prod.fst ++ s.line.filterMap Owner.event?
  inLine : s.line.count .sender = if s.sender.inLine then 1 else 0
  /-- Handlers are registered under the lock. -/
  registers : ∀ g rest, s.sender = .registers g rest → s.line.head? = some .sender
  calling : ∀ c ∈ s.calling, ∃ e, s.line.head? = some (.event e) ∧
    s.handler.handleEvent e = .called c

/-- The invariant holds when the service has started. -/
theorem inv_start (t : Target) : Inv t start := by
  refine ⟨.refl _, rfl, rfl, fun g rest h => ?_, fun c h => ?_⟩ <;> cases h

/-- A datagram is received. -/
theorem Inv.receive {t : Target} {s : State} (h : Inv t s) (input : Received)
    (hwaiting : (receiveMessagesLoop t s.inputs).2 = .waiting) :
    Inv t { s with
      inputs := s.inputs ++ [input]
      spawned := s.spawned ++ KernelEvent.received t [input] } := by
  refine ⟨?_, h.asked, h.inLine, h.registers, h.calling⟩
  rw [KernelEvent.received, receiveMessagesLoop_append hwaiting, List.filterMap_append,
    ← List.append_assoc]
  exact h.received.append_right _

/-- Who comes last in the line leaves the first one its place. -/
theorem head?_append {line : List Owner} {o first : Owner} (h : line.head? = some first) :
    (line ++ [o]).head? = some first := by
  rw [List.head?_append, h]
  rfl

/-- A task asks for the lock. -/
theorem Inv.ask {t : Target} {s : State} (h : Inv t s) {i : ℕ} {e : Event}
    (he : s.spawned[i]? = some e) :
    Inv t { s with
      spawned := s.spawned.eraseIdx i
      line := s.line ++ [.event e]
      asked := s.asked ++ [e] } := by
  obtain ⟨hi, rfl⟩ := List.getElem?_eq_some_iff.mp he
  refine ⟨h.received.trans ?_, ?_, ?_, ?_, fun c hc => ?_⟩
  · rw [List.append_assoc]
    exact (List.getElem_cons_eraseIdx_perm hi).symm.append_left _
  · rw [h.asked, List.filterMap_append, List.append_assoc]
    rfl
  · rw [List.count_append, h.inLine]
    rfl
  · exact fun g rest hsender => head?_append (h.registers g rest hsender)
  · obtain ⟨first, hfirst, hcalled⟩ := h.calling c hc
    exact ⟨first, head?_append hfirst, hcalled⟩

/-- The task that has the lock is done with its event. -/
theorem Inv.leave {t : Target} {s : State} (h : Inv t s) {e : Event} {rest : List Owner}
    (hline : s.line = .event e :: rest) (o : Outcome) :
    Inv t { s with line := rest, calling := none, handled := s.handled ++ [(e, o)] } := by
  refine ⟨h.received, ?_, ?_, fun g others hsender => ?_, fun _ hc => ?_⟩
  · rw [h.asked, hline, List.map_append, List.append_assoc]
    rfl
  · rw [← h.inLine, hline]
    rfl
  · have hhead := h.registers g others hsender
    rw [hline] at hhead
    cases hhead
  · cases hc

/-- While an event has the lock no handler is registered. -/
theorem Inv.not_registers {t : Target} {s : State} (h : Inv t s) {e : Event}
    (hhead : s.line.head? = some (.event e)) (g : Group)
    (rest : List (NLPolicyType × Callback)) : s.sender ≠ .registers g rest := by
  intro hsender
  have hother := h.registers g rest hsender
  rw [hhead] at hother
  cases hother

/-- While handlers are registered no callback runs. -/
theorem Inv.calling_eq_none {t : Target} {s : State} (h : Inv t s)
    (hhead : s.line.head? = some .sender) : s.calling = none := by
  cases hcalling : s.calling with
  | none => rfl
  | some c =>
    obtain ⟨e, he, -⟩ := h.calling c hcalling
    rw [hhead] at he
    cases he

/-- The registration goes on. -/
theorem Inv.send {t : Target} {s s' : State} {created : Bool} (h : Inv t s)
    (hstep : s.send created = some s') : Inv t s' := by
  unfold State.send at hstep
  split at hstep
  · next g hsender =>
    obtain rfl := Option.some.inj hstep
    refine ⟨h.received, ?_, ?_, fun _ _ hreg => (by cases hreg), fun c hc => ?_⟩
    · rw [h.asked, List.filterMap_append, show [Owner.sender].filterMap Owner.event? = [] from rfl,
        List.append_nil]
    · rw [List.count_append, h.inLine, hsender]
      rfl
    · obtain ⟨first, hfirst, hcalled⟩ := h.calling c hc
      exact ⟨first, head?_append hfirst, hcalled⟩
  · next g hsender =>
    split at hstep
    · next hhead =>
      obtain rfl := Option.some.inj hstep
      refine ⟨h.received, h.asked, ?_, fun _ _ _ => hhead, h.calling⟩
      rw [h.inLine, hsender]
      rfl
    · cases hstep
  · next g entry rest hsender =>
    have hhead := h.registers g _ hsender
    obtain rfl := Option.some.inj hstep
    refine ⟨h.received, h.asked, ?_, fun _ _ _ => hhead, fun c hc => ?_⟩
    · rw [h.inLine, hsender]
      rfl
    · rw [h.calling_eq_none hhead] at hc
      cases hc
  · next g hsender =>
    obtain ⟨rest, hline⟩ : ∃ rest, s.line = .sender :: rest := by
      have hhead := h.registers g _ hsender
      exact ⟨_, (List.cons_head?_tail hhead).symm⟩
    have hnone := h.calling_eq_none (h.registers g _ hsender)
    have hcount := h.inLine
    rw [hline, hsender, List.count_cons_self] at hcount
    have hrest : rest.count .sender = 0 := by simpa [Sender.inLine] using hcount
    obtain rfl := Option.some.inj hstep
    refine ⟨h.received, ?_, ?_, fun _ _ hreg => ?_, fun c hc => ?_⟩
    · rw [h.asked, hline]
      rfl
    · rw [hline, List.tail_cons, hrest]
      cases g <;> rfl
    · cases g <;> cases hreg
    · rw [hnone] at hc
      cases hc
  · next hsender =>
    obtain rfl := Option.some.inj hstep
    refine ⟨h.received, h.asked, ?_, fun _ _ hreg => ?_, h.calling⟩
    · rw [h.inLine, hsender]
      cases created <;> rfl
    · cases created <;> cases hreg
  · cases hstep

/-- Every step keeps the invariant. -/
theorem Inv.step {t : Target} {s s' : State} {a : Action} (h : Inv t s)
    (hstep : step t s a = some s') : Inv t s' := by
  unfold KernelEvent.step at hstep
  cases a with
  | receive input =>
    dsimp only at hstep
    split at hstep
    · next hwaiting => exact Option.some.inj hstep ▸ h.receive input hwaiting
    · cases hstep
  | ask i =>
    obtain ⟨e, he, rfl⟩ := Option.map_eq_some_iff.mp hstep
    exact h.ask he
  | handle =>
    dsimp only at hstep
    split at hstep
    · next e rest hline hcalling =>
      split at hstep
      · next callback hcalled =>
        obtain rfl := Option.some.inj hstep
        refine ⟨h.received, h.asked, h.inLine, h.registers, fun c hc => ⟨e, ?_, ?_⟩⟩
        · exact congrArg List.head? hline
        · obtain rfl := Option.some.inj hc
          exact hcalled
      · obtain rfl := Option.some.inj hstep
        have hleave := h.leave hline (s.handler.handleEvent e)
        rw [← hcalling] at hleave
        exact hleave
    · cases hstep
  | finish =>
    dsimp only at hstep
    split at hstep
    · next hline _ => exact Option.some.inj hstep ▸ h.leave hline _
    · cases hstep
  | send created => exact h.send hstep

/-- The invariant holds in every run. -/
theorem inv_of_reachable {t : Target} {s : State} (h : (system t).Reachable s) : Inv t s := by
  refine h.invariant (I := Inv t) ?_ fun s a s' hs _ hstep => hs.step hstep
  rintro s rfl
  exact inv_start t

/-- In every run, however the tasks and the registration take turns: each event that the receive
loop hands over is at one place, before the lock, in the line or handled, and once only. The events
have the lock in the order in which their tasks asked for it, and a callback runs only for the first
one in the line. -/
theorem events_handled_once {t : Target} {s : State} (h : (system t).Reachable s) :
    (received t s.inputs).Perm
        (s.handled.map Prod.fst ++ s.line.filterMap Owner.event? ++ s.spawned) ∧
      s.asked = s.handled.map Prod.fst ++ s.line.filterMap Owner.event? ∧
      ∀ c ∈ s.calling, ∃ e, s.line.head? = some (.event e) ∧
        s.handler.handleEvent e = .called c := by
  have hinv := inv_of_reachable h
  exact ⟨hinv.asked ▸ hinv.received, hinv.asked, hinv.calling⟩

/-- The agent is started, and an event comes in while the first handlers are registered. -/
def eventAtStart : List Action :=
  [.send true, .send true, .receive (.datagram (List.replicate 16 0 ++ [4, 0, 0, 0, 0, 0, 0, 0])),
    .ask 0, .send true, .send true, .send true, .send true, .send true, .handle, .finish]

/-- The state after that. -/
def afterEvent : State := ((system ⟨true, false⟩).exec start eventAtStart).getD start

/-- The service gets there. -/
theorem reachable_afterEvent : (system ⟨true, false⟩).Reachable afterEvent :=
  .exec (.init rfl)
    (show (system ⟨true, false⟩).exec start eventAtStart = some afterEvent from rfl)

/-- The event that comes first is handled once. -/
theorem events_handled_once_at_start :
    (received ⟨true, false⟩ afterEvent.inputs).Perm
        (afterEvent.handled.map Prod.fst ++ afterEvent.line.filterMap Owner.event? ++
          afterEvent.spawned) ∧
      received ⟨true, false⟩ afterEvent.inputs = [⟨4, [], 0⟩] :=
  ⟨(events_handled_once reachable_afterEvent).1, by decide⟩

/-- The number of groups that come before. -/
def Group.number : Group → ℕ
  | .default => 0
  | .user => 1

/-- The number of groups that are registered. -/
def Sender.groups : Sender → ℕ
  | .asks g => g.number
  | .waits g => g.number
  | .registers g _ => g.number
  | .creates => 1
  | .ended registered => if registered then 2 else 1

/-- The table after so many groups. -/
def tableAfter : ℕ → EventHandler
  | 0 => .new
  | 1 => EventHandler.new.registerAll defaultEventHandlers
  | _ => (EventHandler.new.registerAll defaultEventHandlers).registerAll userEventHandlers

/-- A group makes the next table of the one before it. -/
theorem registerAll_handlers (g : Group) :
    (tableAfter g.number).registerAll g.handlers = tableAfter (g.number + 1) := by
  cases g <;> rfl

/-- What holds of the table and of the outcomes all along. -/
structure Tables (s : State) : Prop where
  settled : (∀ g rest, s.sender ≠ .registers g rest) → s.handler = tableAfter s.sender.groups
  registers : ∀ g rest, s.sender = .registers g rest →
    s.handler.registerAll rest = tableAfter (g.number + 1)
  handled : ∃ groups : List ℕ, groups.Pairwise (· ≤ ·) ∧ (∀ n ∈ groups, n ≤ s.sender.groups) ∧
    List.Forall₂ (fun r n => r.2 = (tableAfter n).handleEvent r.1) s.handled groups

/-- Nothing is registered when the service has started. -/
theorem tables_start : Tables start :=
  ⟨fun _ => rfl, fun _ _ h => (by cases h), [], .nil, fun _ h => (by cases h), .nil⟩

/-- The outcomes are kept when more handlers are registered. -/
theorem Tables.of_le {s s' : State} (h : Tables s) (hhandled : s'.handled = s.handled)
    (hgroups : s.sender.groups ≤ s'.sender.groups)
    (hsettled : (∀ g rest, s'.sender ≠ .registers g rest) →
      s'.handler = tableAfter s'.sender.groups)
    (hregisters : ∀ g rest, s'.sender = .registers g rest →
      s'.handler.registerAll rest = tableAfter (g.number + 1)) : Tables s' := by
  obtain ⟨groups, hsorted, hle, hall⟩ := h.handled
  refine ⟨hsettled, hregisters, groups, hsorted, fun n hn => Nat.le_trans (hle n hn) hgroups, ?_⟩
  rw [hhandled]
  exact hall

/-- An event is handled with the table as it is. -/
theorem Tables.leave {s : State} (h : Tables s) (hsender : ∀ g rest, s.sender ≠ .registers g rest)
    (e : Event) (rest : List Owner) :
    Tables { s with
      line := rest, calling := none
      handled := s.handled ++ [(e, s.handler.handleEvent e)] } := by
  obtain ⟨groups, hsorted, hle, hall⟩ := h.handled
  refine ⟨h.settled, h.registers, groups ++ [s.sender.groups], ?_, ?_, ?_⟩
  · refine List.pairwise_append.mpr ⟨hsorted, List.pairwise_singleton _ _, fun n hn m hm => ?_⟩
    rw [List.mem_singleton.mp hm]
    exact hle n hn
  · intro n hn
    obtain hn | hn := List.mem_append.mp hn
    · exact hle n hn
    · exact Nat.le_of_eq (List.mem_singleton.mp hn)
  · refine List.rel_append hall (.cons ?_ .nil)
    rw [h.settled hsender]

/-- The registration goes on. -/
theorem Tables.send {s s' : State} {created : Bool} (h : Tables s)
    (hstep : s.send created = some s') : Tables s' := by
  unfold State.send at hstep
  split at hstep
  · next g hsender =>
    have hsettled := h.settled (by simp [hsender])
    rw [hsender] at hsettled
    have hgroups : s.sender.groups ≤ g.number := Nat.le_of_eq (congrArg Sender.groups hsender)
    obtain rfl := Option.some.inj hstep
    exact h.of_le rfl hgroups (fun _ => hsettled) fun _ _ hreg => (by cases hreg)
  · next g hsender =>
    have hsettled := h.settled (by simp [hsender])
    rw [hsender] at hsettled
    have hgroups : s.sender.groups ≤ g.number := Nat.le_of_eq (congrArg Sender.groups hsender)
    split at hstep
    · obtain rfl := Option.some.inj hstep
      refine h.of_le rfl hgroups (fun hreg => absurd rfl (hreg _ _)) ?_
      rintro _ _ ⟨⟩
      rw [hsettled]
      exact registerAll_handlers g
    · cases hstep
  · next g entry rest hsender =>
    have hregisters := h.registers g _ hsender
    have hgroups : s.sender.groups ≤ g.number := Nat.le_of_eq (congrArg Sender.groups hsender)
    obtain rfl := Option.some.inj hstep
    refine h.of_le rfl hgroups (fun hreg => absurd rfl (hreg _ _)) ?_
    rintro _ _ ⟨⟩
    exact hregisters
  · next g hsender =>
    have hregisters : s.handler = tableAfter (g.number + 1) := h.registers g _ hsender
    obtain rfl := Option.some.inj hstep
    cases g with
    | default =>
      refine h.of_le rfl ?_ (fun _ => hregisters) fun _ _ hreg => (by cases hreg)
      rw [hsender]
      exact Nat.zero_le 1
    | user =>
      refine h.of_le rfl ?_ (fun _ => hregisters) fun _ _ hreg => (by cases hreg)
      rw [hsender]
      exact Nat.le_succ 1
  · next hsender =>
    have hsettled := h.settled (by simp [hsender])
    rw [hsender] at hsettled
    have hgroups : s.sender.groups ≤ 1 := Nat.le_of_eq (congrArg Sender.groups hsender)
    obtain rfl := Option.some.inj hstep
    cases created with
    | true => exact h.of_le rfl hgroups (fun _ => hsettled) fun _ _ hreg => (by cases hreg)
    | false => exact h.of_le rfl hgroups (fun _ => hsettled) fun _ _ hreg => (by cases hreg)
  · cases hstep

/-- Every step keeps what holds of the table. -/
theorem Tables.step {t : Target} {s s' : State} {a : Action} (hinv : Inv t s) (h : Tables s)
    (hstep : step t s a = some s') : Tables s' := by
  unfold KernelEvent.step at hstep
  cases a with
  | receive input =>
    dsimp only at hstep
    split at hstep
    · exact Option.some.inj hstep ▸ h.of_le rfl (Nat.le_refl _) h.settled h.registers
    · cases hstep
  | ask i =>
    obtain ⟨e, -, rfl⟩ := Option.map_eq_some_iff.mp hstep
    exact h.of_le rfl (Nat.le_refl _) h.settled h.registers
  | handle =>
    dsimp only at hstep
    split at hstep
    · next e rest hline hcalling =>
      split at hstep
      · exact Option.some.inj hstep ▸ h.of_le rfl (Nat.le_refl _) h.settled h.registers
      · obtain rfl := Option.some.inj hstep
        have hleave := h.leave (hinv.not_registers (congrArg List.head? hline)) e rest
        rw [← hcalling] at hleave
        exact hleave
    · cases hstep
  | finish =>
    dsimp only at hstep
    split at hstep
    · next e rest callback hline hcalling =>
      obtain rfl := Option.some.inj hstep
      have hhead : s.line.head? = some (.event e) := congrArg List.head? hline
      obtain ⟨first, hfirst, hcalled⟩ := hinv.calling callback hcalling
      obtain rfl := Owner.event.inj (Option.some.inj (hhead.symm.trans hfirst))
      rw [← hcalled]
      exact h.leave (hinv.not_registers hhead) e rest
    · cases hstep
  | send created => exact h.send hstep

/-- The tables are those of the groups in every run. -/
theorem tables_of_reachable {t : Target} {s : State} (h : (system t).Reachable s) : Tables s := by
  refine (h.invariant (I := fun s => Inv t s ∧ Tables s) ?_
    fun s a s' hs _ hstep => ⟨hs.1.step hstep, hs.2.step hs.1 hstep⟩).2
  rintro s rfl
  exact ⟨inv_start t, tables_start⟩

/-- Handlers of other types are left alone. -/
theorem callbacks_registerAll {entries : List (NLPolicyType × Callback)} {h : EventHandler}
    {p : NLPolicyType} (hp : ∀ entry ∈ entries, entry.1 ≠ p) :
    (h.registerAll entries).callbacks p = h.callbacks p := by
  induction entries generalizing h with
  | nil => rfl
  | cons entry entries ih =>
    have hne : p ≠ entry.1 := (hp entry List.mem_cons_self).symm
    refine (ih fun other hother => hp other (List.mem_cons_of_mem _ hother)).trans ?_
    exact Function.update_of_ne hne _ _

/-- The second group leaves the handlers of the first one as they are. -/
theorem callbacks_tableAfter_two {p : NLPolicyType} {c : Callback}
    (h : (tableAfter 1).callbacks p = some c) : (tableAfter 2).callbacks p = some c := by
  have hfresh : ∀ entry ∈ userEventHandlers, (tableAfter 1).callbacks entry.1 = none := by decide
  refine (callbacks_registerAll fun entry hentry heq => ?_).trans h
  rw [← heq, hfresh entry hentry] at h
  cases h

/-- What picks the callback. -/
theorem handleEvent_eq_called {h : EventHandler} {e : Event} {c : Callback} :
    h.handleEvent e = .called c ↔
      ∃ p, NLPolicyType.fromU32 e.dataType = some p ∧ h.callbacks p = some c := by
  rw [EventHandler.handleEvent]
  split
  · next hnone => simp [hnone]
  · next p hsome =>
    cases hcallback : h.callbacks p <;> simp [hsome, hcallback]

/-- More groups keep the callback of an event. -/
theorem handleEvent_tableAfter_mono {n m : ℕ} (hle : n ≤ m) {e later : Event} {c : Callback}
    (htype : e.dataType = later.dataType) (h : (tableAfter n).handleEvent e = .called c) :
    (tableAfter m).handleEvent later = .called c := by
  obtain ⟨p, hp, hc⟩ := handleEvent_eq_called.mp h
  refine handleEvent_eq_called.mpr ⟨p, htype ▸ hp, ?_⟩
  match n, m with
  | 0, _ => cases hc
  | 1, 1 => exact hc
  | 1, _ + 2 => exact callbacks_tableAfter_two hc
  | _ + 2, _ + 2 => exact hc

/-- What holds of results in turn, from what they are results of. -/
theorem pairwise_of_forall₂ {α β : Type} {R : α → β → Prop} {S : β → β → Prop} {T : α → α → Prop}
    (h : ∀ a b, R a b → ∀ c d, R c d → S b d → T a c) {as : List α} {bs : List β}
    (hall : List.Forall₂ R as bs) (hbs : bs.Pairwise S) : as.Pairwise T := by
  have hmem {as : List α} {bs : List β} (hall : List.Forall₂ R as bs) :
      ∀ c ∈ as, ∃ d ∈ bs, R c d := by
    induction hall with
    | nil => simp
    | cons hab _ ih =>
      intro c hc
      obtain rfl | hc := List.mem_cons.mp hc
      · exact ⟨_, List.mem_cons_self, hab⟩
      · obtain ⟨d, hd, hcd⟩ := ih c hc
        exact ⟨d, List.mem_cons_of_mem _ hd, hcd⟩
  induction hall with
  | nil => exact .nil
  | cons hab hall ih =>
    rw [List.pairwise_cons] at hbs ⊢
    refine ⟨fun c hc => ?_, ih hbs.2⟩
    obtain ⟨d, hd, hcd⟩ := hmem hall c hc
    exact h _ _ hab c d hcd (hbs.1 d hd)

/-- In every run the events are handled with tables of whole groups, none, the first or both, and
never with fewer groups than an event before. So once a callback has been called for an event, it is
called for every later event of that type. -/
theorem events_dispatched {t : Target} {s : State} (h : (system t).Reachable s) :
    (∃ groups : List ℕ, groups.Pairwise (· ≤ ·) ∧ (∀ n ∈ groups, n ≤ s.sender.groups) ∧
      List.Forall₂ (fun r n => r.2 = (tableAfter n).handleEvent r.1) s.handled groups) ∧
      s.handled.Pairwise fun r later => r.1.dataType = later.1.dataType →
        ∀ c, r.2 = .called c → later.2 = .called c := by
  obtain ⟨groups, hsorted, hle, hall⟩ := (tables_of_reachable h).handled
  refine ⟨⟨groups, hsorted, hle, hall⟩, pairwise_of_forall₂ ?_ hall hsorted⟩
  intro r n hr later m hlater hnm htype c hcalled
  rw [hr] at hcalled
  rw [hlater]
  exact handleEvent_tableAfter_mono hnm htype hcalled

/-- The event that comes first is handled by its function. -/
theorem events_dispatched_at_start :
    afterEvent.handled = [(⟨4, [], 0⟩, .called .handleRegister)] ∧
      ∃ groups : List ℕ, groups.Pairwise (· ≤ ·) ∧ (∀ n ∈ groups, n ≤ afterEvent.sender.groups) ∧
        List.Forall₂ (fun r n => r.2 = (tableAfter n).handleEvent r.1) afterEvent.handled groups :=
  ⟨by decide, (events_dispatched reachable_afterEvent).1⟩

end LinuxAgent.KernelEvent
