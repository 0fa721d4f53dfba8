import LinuxAgent.IpJump.Daemon
import Mathlib.Data.List.Nodup
import Mathlib.Logic.Basic

/-!
# Delivery of IP-jump instructions

The daemon should execute every instruction that is current when it goes to
sleep, and none of them twice. Both fail in the code. An instruction consumed by
the `select!` of `run_periodic_loop` is dropped, because the main loop then waits
for a further change. An instruction sent between a completed `rx.changed()` and
the `rx.borrow()` that follows is read at once and is still unseen, so the next
wait returns for it again. Outside these two windows both properties hold.
-/

namespace LinuxAgent.IpJump.Daemon

open Runs

/-- Facts about the receiver and `need_wait` that hold in every run. -/
structure ReceiverInv (s : State) : Prop where
  /-- The channel exists exactly from the first start on. -/
  started : s.daemonStarted = s.tx.isSome
  /-- Before that the daemon has not moved. -/
  unstarted : s.tx = none → s.point = .loopHead ∧ s.calls = []
  /-- The receiver never runs ahead of the channel. -/
  seen_le : ∀ tx, s.tx = some tx → s.rx.seen ≤ tx.version
  /-- Past the guarded wait the flag `need_wait` is down. -/
  flag : s.point = .loopHead ∨ s.point = .awaitWanted ∨ s.needWait = false

/-- The facts about the receiver and the flag are kept by every step. -/
theorem ReceiverInv.step {s s' : State} {a : Action} (h : ReceiverInv s) (hmove : Moves s a s') :
    ReceiverInv s' := by
  have hcopy := h
  obtain ⟨hstarted, hunstarted, hseen, hflag⟩ := h
  -- Past the start the channel is there, and a step of the daemon keeps it.
  have hrunning : ∀ {tx}, s.tx = some tx → ∀ {P : Prop}, s.tx = none → P := by
    intro tx htx P hnone
    rw [htx] at hnone
    cases hnone
  have hmoved : s.point ≠ .loopHead → ∀ {P : Prop}, s.tx = none → P :=
    fun hpoint _ hnone => absurd (hunstarted hnone).1 hpoint
  cases hmove with
  | restart | refuse => exact hcopy
  | start => exact ⟨rfl, by simp, by simp, .inl rfl⟩
  | send instr htx =>
    refine ⟨by simpa [htx] using hstarted, by simp, ?_, hflag⟩
    rintro _ ⟨⟩
    exact Nat.le_succ_of_le (hseen _ htx)
  | wait htx => exact ⟨hstarted, hrunning htx, hseen, .inr (.inl rfl)⟩
  | proceed htx _ hwait => exact ⟨hstarted, hrunning htx, hseen, .inr (.inr hwait)⟩
  | wake htx =>
    refine ⟨hstarted, hrunning htx, ?_, .inr (.inr rfl)⟩
    intro tx htx'
    obtain rfl := Option.some.inj (htx.symm.trans htx')
    exact Nat.le_refl _
  | wakeAgain htx | changed htx =>
    refine ⟨hstarted, hrunning htx, ?_, .inl rfl⟩
    intro tx htx'
    obtain rfl := Option.some.inj (htx.symm.trans htx')
    exact Nat.le_refl _
  | executeLast htx => exact ⟨hstarted, hrunning htx, hseen, .inl rfl⟩
  | findNone htx hpoint | borrow htx hpoint | execute htx hpoint | executeLatest htx hpoint =>
    exact ⟨hstarted, hrunning htx, hseen, .inr (.inr (by simpa [hpoint] using hflag))⟩
  | tick hpoint | fetch hpoint =>
    exact ⟨hstarted, hmoved (by simp [hpoint]), hseen,
      .inr (.inr (by simpa [hpoint] using hflag))⟩
  | fetchFail hpoint => exact ⟨hstarted, hmoved (by simp [hpoint]), hseen, .inl rfl⟩

/-- Every reachable state satisfies `ReceiverInv`. -/
theorem receiverInv_of_reaches {ok : State → Action → Prop} {s : State}
    (hs : system.Reaches ok s) : ReceiverInv s := by
  refine hs.invariant ?_ fun _ _ _ h _ hst => h.step (moves_of_step hst)
  rintro _ rfl
  exact ⟨rfl, fun _ => ⟨rfl, rfl⟩, by simp [initial], .inl rfl⟩

/-- The current instruction has been executed by the main loop, if there is one. -/
def CurrentExecuted (tx : Watch.Channel (Option IpJumpInstruction)) (s : State) : Prop :=
  ∀ instr, tx.value = some instr → .main tx.version instr ∈ s.calls

/-- The daemon is blocked in an `rx.changed()` of the main loop. -/
def Blocked (tx : Watch.Channel (Option IpJumpInstruction)) (s : State) : Prop :=
  (s.point = .awaitWanted ∨ s.point = .awaitInitial ∨ s.point = .awaitNext) ∧
    tx.version = s.rx.seen

/-- No instruction is lost: whenever the daemon is blocked in the main loop,
the channel holds no instruction or one that has been executed since it was sent. -/
def NoLostInstruction (s : State) : Prop :=
  ∀ tx, s.tx = some tx → Blocked tx s → CurrentExecuted tx s

/-- The condition for delivery: when `rx.changed()` wins the `select!` of the
periodic loop, the instruction it announces has already been executed. -/
def AnnouncesExecuted (s : State) (a : Action) : Prop :=
  a = .changed → ∀ tx, s.tx = some tx → CurrentExecuted tx s

/-- What the daemon's position says about the current instruction. An instruction
whose notification has been consumed is executed, or is read on the way to the
next await point. -/
def Accounted (s : State) : Prop :=
  ∀ tx, s.tx = some tx →
    match s.point with
    | .borrowing => True
    | .loopHead => s.needWait = true → tx.version = s.rx.seen → CurrentExecuted tx s
    | .executing version instr =>
      s.rx.seen ≤ version ∧ version ≤ tx.version ∧
        (version = tx.version → tx.value = some instr)
    | _ => tx.version = s.rx.seen → CurrentExecuted tx s

/-- An instruction executed earlier stays recorded. -/
theorem CurrentExecuted.append {tx : Watch.Channel (Option IpJumpInstruction)} {s s' : State}
    {calls : List Call} (h : CurrentExecuted tx s) (hcalls : s'.calls = s.calls ++ calls) :
    CurrentExecuted tx s' := by
  intro instr hvalue
  rw [hcalls]
  exact List.mem_append_left _ (h instr hvalue)

/-- The position accounts for the current instruction after every step that meets
the condition for delivery. -/
theorem Accounted.step {s s' : State} {a : Action} (h : Accounted s) (hrx : ReceiverInv s)
    (hok : AnnouncesExecuted s a) (hmove : Moves s a s') : Accounted s' := by
  cases hmove with
  | restart | refuse => exact h
  | start =>
    rintro _ ⟨⟩
    simp [CurrentExecuted]
  | send instr htx =>
    -- The new version is unseen, and it is not the one being executed.
    rintro _ ⟨⟩
    have hseen := hrx.seen_le _ htx
    have hne : (Watch.Channel.send _ (some instr)).version ≠ s.rx.seen :=
      Nat.ne_of_gt (Nat.lt_succ_of_le hseen)
    have hacc := h _ htx
    cases hpoint : s.point <;> simp only [hpoint] at hacc ⊢
    case executing version sent =>
      obtain ⟨hle, hlt, _⟩ := hacc
      refine ⟨hle, Nat.le_succ_of_le hlt, fun heq => ?_⟩
      exact absurd heq (Nat.ne_of_lt (Nat.lt_succ_of_le hlt))
    all_goals simp only [hne, false_implies, implies_true]
  | wait _ hpoint hwait =>
    intro tx htx
    have hacc := h tx htx
    rw [hpoint] at hacc
    exact hacc hwait
  | proceed | wake => exact fun _ _ => trivial
  | findNone htx _ hvalue =>
    intro tx htx' _ instr hinstr
    obtain rfl := Option.some.inj (htx.symm.trans htx')
    rw [hvalue] at hinstr
    cases hinstr
  | borrow htx _ hvalue =>
    intro tx htx'
    obtain rfl := Option.some.inj (htx.symm.trans htx')
    exact ⟨hrx.seen_le _ htx, Nat.le_refl _, fun _ => hvalue⟩
  | wakeAgain _ hpoint =>
    intro tx _ hwait
    have hflag : s.needWait = false := by
      rcases hpoint with hpoint | hpoint <;> simpa [hpoint] using hrx.flag
    simp [hflag] at hwait
  | @execute _ version instr _ _ hpoint hnext =>
    intro tx htx
    have hacc := h tx htx
    rw [hpoint] at hacc
    obtain ⟨hle, hlt, hvalue⟩ := hacc
    -- A version that is both borrowed and seen is the current one.
    have hexec : tx.version = s.rx.seen →
        ∀ i, tx.value = some i → Call.main tx.version i ∈ s.calls ++ [Call.main version instr] := by
      intro heq i hi
      obtain rfl : version = tx.version := by omega
      obtain rfl : instr = i := Option.some.inj ((hvalue rfl).symm.trans hi)
      simp
    obtain rfl | ⟨period, rfl⟩ := hnext <;> exact hexec
  | executeLatest _ hpoint =>
    intro tx htx heq
    have hacc := h tx htx
    rw [hpoint] at hacc
    exact (hacc heq).append rfl
  | executeLast _ hpoint =>
    intro tx htx _ heq
    have hacc := h tx htx
    rw [hpoint] at hacc
    exact (hacc heq).append rfl
  | tick hpoint =>
    intro tx htx
    have hacc := h tx htx
    rw [hpoint] at hacc
    exact hacc
  | changed htx =>
    intro tx htx' _ _
    exact hok rfl tx htx'
  | fetch hpoint hnext =>
    intro tx htx
    have hacc := h tx htx
    rw [hpoint] at hacc
    obtain rfl | ⟨latest, rfl⟩ := hnext <;> exact hacc
  | fetchFail hpoint =>
    intro tx htx _
    have hacc := h tx htx
    rw [hpoint] at hacc
    exact hacc

/-- Where the position accounts for the current instruction, it is not lost. -/
theorem Accounted.noLostInstruction {s : State} (h : Accounted s) : NoLostInstruction s := by
  intro tx htx hblocked
  obtain ⟨hpoint, hseen⟩ := hblocked
  have hacc := h tx htx
  rcases hpoint with hpoint | hpoint | hpoint <;> rw [hpoint] at hacc <;> exact hacc hseen

/-- Whenever `rx.changed()` wins the `select!` for an unexecuted instruction and
nothing else is sent before the main loop waits again, that instruction is lost:
the daemon is blocked and has not executed it. -/
theorem lost_of_announced {s s' : State} (hpending : ¬ AnnouncesExecuted s .changed)
    (hexec : system.exec s [.changed, .resume] = some s') : ¬ NoLostInstruction s' := by
  simp only [AnnouncesExecuted, CurrentExecuted, true_implies, not_forall, exists_prop] at hpending
  obtain ⟨tx, htx, instr, hvalue, hcall⟩ := hpending
  obtain ⟨t, hchanged, hrest⟩ := Option.bind_eq_some_iff.mp hexec
  obtain ⟨u, hresume, hu⟩ := Option.bind_eq_some_iff.mp hrest
  obtain rfl : u = s' := Option.some.inj hu
  cases moves_of_step hchanged with
  | changed htx' =>
    obtain rfl := Option.some.inj (htx.symm.trans htx')
    simp only [system, step, endPeriodicLoop, htx, Option.bind_some, resume, if_true,
      Option.some.injEq] at hresume
    subst hresume
    intro hno
    exact hcall (hno _ rfl ⟨.inl rfl, rfl⟩ instr hvalue)

/-- **No lost instruction.** In every run in which the `select!` of the periodic
loop never consumes the notification of an instruction that has not been executed,
the daemon is never blocked in the main loop on an unexecuted instruction. Where
the condition fails, the instruction is lost as soon as the main loop waits. -/
theorem no_lost_instruction (s : State) :
    (system.Reaches AnnouncesExecuted s → NoLostInstruction s) ∧
      (¬ AnnouncesExecuted s .changed →
        ∀ s', system.exec s [.changed, .resume] = some s' → ¬ NoLostInstruction s') := by
  refine ⟨fun hs => ?_, fun hpending s' => lost_of_announced hpending⟩
  have hinv : ReceiverInv s ∧ Accounted s := by
    refine hs.invariant (I := fun s => ReceiverInv s ∧ Accounted s) ?_ ?_
    · intro s hinit
      have hreach : system.Reachable s := .init hinit
      refine ⟨receiverInv_of_reaches hreach, fun tx htx => ?_⟩
      obtain rfl : s = initial := hinit
      simp [initial] at htx
    · rintro s a s' ⟨hrx, hacc⟩ hok hst
      exact ⟨hrx.step (moves_of_step hst), hacc.step hrx hok (moves_of_step hst)⟩
  exact hinv.2.noLostInstruction

/-- A single jump. -/
def singleJump : IpJumpInstruction := ⟨"10.0.0.5", "10.0.0.6/24", "", 0⟩

/-- A jump that is repeated every minute. -/
def periodicJump : IpJumpInstruction := ⟨"10.0.0.5", "10.0.0.7/24", "", 60⟩

/-- The run in which a new instruction arrives during periodic mode: the daemon
executes the periodic one, the `select!` consumes the notification of the second,
and the main loop waits again. -/
def lostRun : List Action :=
  [.start, .send periodicJump, .resume, .resume, .resume, .resume, .send singleJump, .changed,
    .resume]

/-- At the end of `lostRun` the daemon is blocked and the second instruction, still
in the channel, has never been executed. -/
theorem lostRun_loses_instruction : ∃ s, system.Reachable s ∧ ¬ NoLostInstruction s := by
  obtain ⟨s, hexec⟩ : ∃ s, system.exec initial lostRun = some s := ⟨_, rfl⟩
  refine ⟨s, System.Reachable.exec (.init rfl) hexec, ?_⟩
  cases hexec
  intro hno
  have hcall := hno ⟨some singleJump, 2⟩ rfl ⟨.inl rfl, rfl⟩ singleJump rfl
  revert hcall
  decide

/-- A run that meets the condition: one instruction, executed before the daemon
blocks after it. -/
theorem no_lost_instruction_single : ∃ s, system.exec initial
    [.start, .send singleJump, .resume, .resume, .resume, .resume] = some s ∧
    s.point = .awaitNext ∧ NoLostInstruction s := by
  obtain ⟨s, hexec⟩ : ∃ s, system.exec initial
      [.start, .send singleJump, .resume, .resume, .resume, .resume] = some s := ⟨_, rfl⟩
  refine ⟨s, hexec, by cases hexec; rfl, (no_lost_instruction s).1 ?_⟩
  refine System.Reaches.exec (.init rfl) ?_ hexec
  simp [System.Meets, AnnouncesExecuted]

/-- The version of the instruction that a call of the main loop was about. -/
def Call.mainVersion : Call → Option ℕ
  | .main version _ => some version
  | .periodic _ => none

/-- The instructions executed by the main loop, each by the version it was sent with. -/
def State.mainVersions (s : State) : List ℕ := s.calls.filterMap Call.mainVersion

/-- The main loop has executed each instruction at most once. -/
def AtMostOnce (s : State) : Prop := s.mainVersions.Nodup

/-- The daemon is between a completed `rx.changed()` of the main loop and the
`rx.borrow()` that follows it. -/
def AboutToBorrow (s : State) : Prop :=
  s.point = .borrowing ∨ (s.point = .loopHead ∧ s.needWait = false)

instance (s : State) : Decidable (AboutToBorrow s) := inferInstanceAs (Decidable (_ ∨ _))

/-- A call of `send_instruction`. -/
def Action.isSend : Action → Bool
  | .send _ => true
  | _ => false

/-- The condition against duplicates: no instruction is sent while the daemon is
about to borrow. -/
def SendsOutsideWindow (s : State) (a : Action) : Prop := a.isSend = true → ¬ AboutToBorrow s

instance (s : State) (a : Action) : Decidable (SendsOutsideWindow s a) :=
  inferInstanceAs (Decidable (_ → _))

/-- What the daemon's position says about the executed versions. Where the daemon is
about to borrow or to execute, the instruction it takes is a new one; elsewhere
nothing beyond the seen version has been executed. -/
def Fresh (s : State) : Prop :=
  s.mainVersions.Nodup ∧ (∀ v ∈ s.mainVersions, v ≤ s.rx.seen) ∧
    (AboutToBorrow s → (∀ tx, s.tx = some tx → tx.version = s.rx.seen) ∧
      ∀ v ∈ s.mainVersions, v < s.rx.seen) ∧
    ∀ version instr, s.point = .executing version instr →
      version = s.rx.seen ∧ ∀ v ∈ s.mainVersions, v < version

/-- A completed wait makes every executed version an older one. -/
theorem Fresh.wake {s s' : State} {tx : Watch.Channel (Option IpJumpInstruction)} (h : Fresh s)
    (hrx : ReceiverInv s) (htx : s.tx = some tx) (hunseen : tx.version ≠ s.rx.seen)
    (htx' : s'.tx = s.tx) (hseen : s'.rx.seen = tx.version) (hcalls : s'.calls = s.calls)
    (hpoint : ∀ version instr, s'.point ≠ .executing version instr) : Fresh s' := by
  obtain ⟨hnodup, hold, -, -⟩ := h
  have hversions : s'.mainVersions = s.mainVersions := by simp only [State.mainVersions, hcalls]
  have hle := hrx.seen_le tx htx
  have hlt : ∀ v ∈ s'.mainVersions, v < s'.rx.seen := by
    intro v hv
    rw [hversions] at hv
    have := hold v hv
    omega
  refine ⟨hversions ▸ hnodup, fun v hv => Nat.le_of_lt (hlt v hv), fun _ => ⟨?_, hlt⟩, ?_⟩
  · intro tx' h'
    obtain rfl : tx = tx' := Option.some.inj (htx.symm.trans (htx' ▸ h'))
    exact hseen.symm
  · intro version instr h'
    exact absurd h' (hpoint version instr)

/-- A step that leaves the receiver and the executed versions alone, and does not
lead to a borrow or an execution, keeps everything that is still claimed. -/
theorem Fresh.leave {s s' : State} (h : Fresh s) (hseen : s'.rx.seen = s.rx.seen)
    (hversions : s'.mainVersions = s.mainVersions) (hborrow : ¬ AboutToBorrow s')
    (hpoint : ∀ version instr, s'.point ≠ .executing version instr) : Fresh s' := by
  refine ⟨hversions ▸ h.1, ?_, fun h' => absurd h' hborrow, ?_⟩
  · rw [hversions, hseen]
    exact h.2.1
  · intro version instr h'
    exact absurd h' (hpoint version instr)

/-- The executed versions stay distinct under every step that sends nothing in the
window before a borrow. -/
theorem Fresh.step {s s' : State} {a : Action} (h : Fresh s) (hrx : ReceiverInv s)
    (hok : SendsOutsideWindow s a) (hmove : Moves s a s') : Fresh s' := by
  have hcopy := h
  obtain ⟨hnodup, hold, hborrow, hexec⟩ := h
  cases hmove with
  | restart | refuse => exact hcopy
  | start hstarted =>
    have htx : s.tx = none := by simpa [hstarted] using hrx.started
    have hcalls := (hrx.unstarted htx).2
    simp [Fresh, AboutToBorrow, State.mainVersions, hcalls]
  | send instr htx =>
    have hwindow : ¬ AboutToBorrow s := hok rfl
    exact ⟨hnodup, hold, fun h' => absurd h' hwindow, hexec⟩
  | wait => exact hcopy.leave rfl rfl (by simp [AboutToBorrow]) (by simp)
  | proceed _ hpoint hwait =>
    exact ⟨hnodup, hold, fun _ => hborrow (.inr ⟨hpoint, hwait⟩), by simp⟩
  | wake htx _ hunseen | wakeAgain htx _ hunseen =>
    exact hcopy.wake hrx htx hunseen rfl rfl rfl (by simp)
  | changed htx _ hunseen =>
    exact hcopy.wake hrx htx hunseen rfl rfl rfl (by simp [endPeriodicLoop])
  | findNone => exact hcopy.leave rfl rfl (by simp [AboutToBorrow]) (by simp)
  | borrow htx hpoint =>
    obtain ⟨hcurrent, hlt⟩ := hborrow (.inl hpoint)
    have hseen := hcurrent _ htx
    refine ⟨hnodup, hold, by simp [AboutToBorrow], ?_⟩
    rintro _ _ ⟨⟩
    exact ⟨hseen, hseen ▸ hlt⟩
  | @execute _ version instr point _ hpoint hnext =>
    obtain ⟨rfl, hlt⟩ := hexec version instr hpoint
    have hversions : State.mainVersions { s with
        calls := s.calls ++ [Call.main s.rx.seen instr], point := point } =
        s.mainVersions ++ [s.rx.seen] := by
      simp [State.mainVersions, Call.mainVersion]
    refine ⟨?_, ?_, ?_, ?_⟩
    · rw [hversions]
      refine List.nodup_append.mpr ⟨hnodup, by simp, ?_⟩
      rintro v hv _ hmem rfl
      exact absurd (List.mem_singleton.mp hmem) (Nat.ne_of_lt (hlt v hv))
    · intro v hv
      rw [hversions, List.mem_append, List.mem_singleton] at hv
      exact hv.elim (hold v) Nat.le_of_eq
    all_goals obtain rfl | ⟨period, rfl⟩ := hnext <;> simp [AboutToBorrow]
  | executeLatest | executeLast =>
    exact hcopy.leave rfl (by simp [State.mainVersions, Call.mainVersion, endPeriodicLoop])
      (by simp [AboutToBorrow, endPeriodicLoop]) (by simp [endPeriodicLoop])
  | tick => exact hcopy.leave rfl rfl (by simp [AboutToBorrow]) (by simp)
  | fetch _ hnext =>
    obtain rfl | ⟨latest, rfl⟩ := hnext <;>
      exact hcopy.leave rfl rfl (by simp [AboutToBorrow]) (by simp)
  | fetchFail =>
    exact hcopy.leave rfl rfl (by simp [AboutToBorrow, endPeriodicLoop]) (by simp [endPeriodicLoop])

/-- The daemon alone executes an unseen instruction twice: it reads the instruction
while the version is unseen, and the next wait of the main loop, after the
execution or after a failed fetch in periodic mode, returns for that version. -/
theorem duplicated_of_unseen {s : State} {tx : Watch.Channel (Option IpJumpInstruction)}
    {instr : IpJumpInstruction} (htx : s.tx = some tx) (hpoint : s.point = .borrowing)
    (hwait : s.needWait = false) (hvalue : tx.value = some instr)
    (hunseen : tx.version ≠ s.rx.seen) :
    ∃ as s', (∀ i, .send i ∉ as) ∧ system.exec s as = some s' ∧ ¬ AtMostOnce s' := by
  have hdup : ∀ s' : State,
      s'.calls = s.calls ++ [Call.main tx.version instr, Call.main tx.version instr] →
        ¬ AtMostOnce s' := by
    intro s' hcalls
    simp [AtMostOnce, State.mainVersions, Call.mainVersion, List.nodup_append, hcalls]
  by_cases hperiod : 0 < instr.activeTime
  · refine ⟨[.resume, .resume, .tick, .fetched (.error "API error"), .resume, .resume, .resume,
      .resume], { s with
        rx := ⟨tx.version⟩, needWait := false, point := .selecting instr.activeTime
        calls := s.calls ++ [Call.main tx.version instr, Call.main tx.version instr] },
      by simp, ?_, hdup _ rfl⟩
    simp only [System.exec, system, step, htx, resume, hpoint, Watch.Channel.borrow,
      Option.bind_some, hvalue, Watch.Channel.changed, endPeriodicLoop, Option.bind_fun_some,
      hperiod, ↓reduceIte, hunseen, Option.map_some, List.append_assoc, List.cons_append,
      List.nil_append]
  · refine ⟨[.resume, .resume, .resume, .resume, .resume, .resume], { s with
        rx := ⟨tx.version⟩, point := .awaitNext
        calls := s.calls ++ [Call.main tx.version instr, Call.main tx.version instr] },
      by simp, ?_, hdup _ rfl⟩
    simp only [System.exec, system, step, htx, resume, hpoint, Watch.Channel.borrow, hwait,
      Option.bind_some, hvalue, Watch.Channel.changed, Option.bind_fun_some, hperiod, ↓reduceIte,
      hunseen, Option.map_some, Bool.false_eq_true, List.append_assoc, List.cons_append,
      List.nil_append]

/-- Every instruction sent in the window can be executed twice, with no further
send, by the steps of the daemon alone. -/
theorem duplicated_of_send {s : State} (hs : system.Reachable s) (hwindow : AboutToBorrow s)
    {tx : Watch.Channel (Option IpJumpInstruction)} (htx : s.tx = some tx)
    (instr : IpJumpInstruction) :
    ∃ as s', (∀ i, .send i ∉ as) ∧ system.exec s (.send instr :: as) = some s' ∧
      ¬ AtMostOnce s' := by
  have hrx := receiverInv_of_reaches hs
  have hunseen : (tx.send (some instr)).version ≠ s.rx.seen :=
    Nat.ne_of_gt (Nat.lt_succ_of_le (hrx.seen_le tx htx))
  have hsend : ∀ as, system.exec s (.send instr :: as) =
      system.exec { s with tx := some (tx.send (some instr)) } as := by
    intro as
    simp [System.exec, system, step, sendInstruction, htx]
  rcases hwindow with hpoint | ⟨hpoint, hwait⟩
  · have hwait : s.needWait = false := by simpa [hpoint] using hrx.flag
    obtain ⟨as, s', hno, hexec, hdup⟩ := duplicated_of_unseen
      (s := { s with tx := some (tx.send (some instr)) }) rfl hpoint hwait rfl hunseen
    exact ⟨as, s', hno, (hsend as).trans hexec, hdup⟩
  · obtain ⟨as, s', hno, hexec, hdup⟩ := duplicated_of_unseen
      (s := { s with tx := some (tx.send (some instr)), point := .borrowing })
      rfl rfl hwait rfl hunseen
    refine ⟨.resume :: as, s', by simpa using hno, (hsend _).trans ?_, hdup⟩
    simpa [System.exec, system, step, resume, hpoint, hwait] using hexec

/-- **No duplicated execution.** In every run in which nothing is sent between a
completed `rx.changed()` of the main loop and the `rx.borrow()` that follows, the
main loop executes each instruction at most once. An instruction sent in that
window can be executed twice without any further send. -/
theorem executes_at_most_once (s : State) :
    (system.Reaches SendsOutsideWindow s → AtMostOnce s) ∧
      (system.Reachable s → AboutToBorrow s → ∀ tx, s.tx = some tx → ∀ instr,
        ∃ as s', (∀ i, .send i ∉ as) ∧ system.exec s (.send instr :: as) = some s' ∧
          ¬ AtMostOnce s') := by
  refine ⟨fun hs => ?_, fun hs hwindow tx htx instr => duplicated_of_send hs hwindow htx instr⟩
  have hinv : ReceiverInv s ∧ Fresh s := by
    refine hs.invariant (I := fun s => ReceiverInv s ∧ Fresh s) ?_ ?_
    · intro s hinit
      have hreach : system.Reachable s := .init hinit
      refine ⟨receiverInv_of_reaches hreach, ?_⟩
      obtain rfl : s = initial := hinit
      simp [Fresh, AboutToBorrow, State.mainVersions, initial]
    · rintro s a s' ⟨hrx, hfresh⟩ hok hst
      exact ⟨hrx.step (moves_of_step hst), hfresh.step hrx hok (moves_of_step hst)⟩
  exact hinv.2.1

/-- The run in which the second instruction is sent just after the wait for the
first one has returned: the daemon executes the second one twice. -/
def duplicatedRun : List Action :=
  [.start, .send periodicJump, .resume, .resume, .send singleJump, .resume, .resume, .resume,
    .resume, .resume, .resume]

/-- At the end of `duplicatedRun` the second instruction has been executed twice. -/
theorem duplicatedRun_executes_twice : ∃ s, system.Reachable s ∧ ¬ AtMostOnce s := by
  obtain ⟨s, hexec⟩ : ∃ s, system.exec initial duplicatedRun = some s := ⟨_, rfl⟩
  refine ⟨s, System.Reachable.exec (.init rfl) hexec, ?_⟩
  cases hexec
  unfold AtMostOnce
  decide

/-- A run that meets the condition: two instructions, each sent while the daemon
waits, and each executed once. -/
theorem executes_at_most_once_two : ∃ s, system.exec initial
    [.start, .send singleJump, .resume, .resume, .resume, .resume, .send singleJump, .resume,
      .resume, .resume, .resume] = some s ∧ s.mainVersions = [1, 2] ∧ AtMostOnce s := by
  obtain ⟨s, hexec⟩ : ∃ s, system.exec initial
      [.start, .send singleJump, .resume, .resume, .resume, .resume, .send singleJump, .resume,
        .resume, .resume, .resume] = some s := ⟨_, rfl⟩
  refine ⟨s, hexec, by cases hexec; rfl, (executes_at_most_once s).1 ?_⟩
  exact System.Reaches.exec (.init rfl) (by decide) hexec

end LinuxAgent.IpJump.Daemon
