import LinuxAgent.Lib.Runs
import LinuxAgent.Lib.Text

/-!
# A single instance

The agent and its manager look at a PID file when they start, and go on unless it names a process
that is there. Looking and writing are steps of their own, with the steps of other processes
between them. Instances that start one after another never run together. Instances that start at
the same time all run.
-/

namespace LinuxAgent.Main.SingleInstance

/-- Where an instance stands in `ensure_single_instance`. -/
inductive Stage where
  /-- It asks whether there is a PID file. -/
  | looking
  /-- It reads the file. -/
  | reading
  /-- It asks whether the process that the file names is there. -/
  | probing (oldPid : UInt32)
  /-- It opens the file for writing, which makes it empty. -/
  | opening
  /-- It writes its PID into the file that it has opened. -/
  | writing (file : ℕ)
  /-- It has passed the check. -/
  | running
  deriving DecidableEq

/-- What has a PID. -/
inductive Process where
  | agent (stage : Stage)
  /-- Another program, a thread, or an instance that has ended and was not waited for. -/
  | other
  deriving DecidableEq

/-- Where an instance stands. -/
def Process.stage : Process → Option Stage
  | .agent stage => some stage
  | .other => none

/-- The processes, the PID file as a numbered file with its text, and the next number. -/
structure State where
  processes : UInt32 → Option Process
  file : Option (ℕ × String)
  next : ℕ

namespace State

/-- Where the instance with a PID stands. -/
def stage (s : State) (pid : UInt32) : Option Stage := (s.processes pid).bind Process.stage

/-- What has a PID from now on. -/
def put (s : State) (pid : UInt32) (process : Option Process) : State :=
  { s with processes := Function.update s.processes pid process }

/-- `pid_is_running`. -/
def pidIsRunning (s : State) (pid : UInt32) : Bool := (s.processes pid).isSome

/-- The number that a text is. -/
def oldPid (content : String) : Option UInt32 := Text.parseU32 (Text.trimChars content.toList)

/-- A write at the start of a text. -/
def overwrite (text content : String) : String :=
  String.ofList (text.toList ++ content.toList.drop text.length)

/-- Writing into an opened file, which may have been removed. -/
def write (s : State) (file : ℕ) (text : String) : State :=
  { s with file := s.file.map fun f => if f.1 = file then (file, overwrite text f.2) else f }

/-- One step of `ensure_single_instance`. -/
def advance (s : State) (pid : UInt32) : Stage → Option State
  | .looking => some (s.put pid (some (.agent (if s.file.isSome then .reading else .opening))))
  | .reading =>
    some (s.put pid (some (.agent
      (((s.file.bind fun f => oldPid f.2).map Stage.probing).getD .opening))))
  | .probing oldPid =>
    some (s.put pid (some (if s.pidIsRunning oldPid then .other else .agent .opening)))
  | .opening =>
    let file := (s.file.map Prod.fst).getD s.next
    some { s.put pid (some (.agent (.writing file))) with
           file := some (file, ""), next := max s.next (file + 1) }
  | .writing file => some ((s.write file (toString pid.toNat)).put pid (some (.agent .running)))
  | .running => none

/-- One step of `ensure_single_instance` with an operation that fails; of the PID only the first
characters are written. -/
def fail (s : State) (pid : UInt32) (written : ℕ) : Stage → Option State
  | .looking | .reading | .probing _ => some (s.put pid (some (.agent .opening)))
  | .opening => some (s.put pid (some (.agent .running)))
  | .writing file =>
    some ((s.write file (String.ofList ((toString pid.toNat).toList.take written))).put pid
      (some (.agent .running)))
  | .running => none

end State

/-- What happens on the machine. -/
inductive Action where
  /-- An instance starts. -/
  | start (pid : UInt32)
  /-- Another program or a thread starts. -/
  | other (pid : UInt32)
  /-- A process ends, and its PID is free once it was waited for. -/
  | ends (pid : UInt32) (waitedFor : Bool)
  | advance (pid : UInt32)
  | fail (pid : UInt32) (written : ℕ)
  /-- `stop_osec_services` and `uninstall_all` remove the file. -/
  | remove

/-- One step of the processes. -/
def step (s : State) : Action → Option State
  | .start pid =>
    if s.processes pid = none then some (s.put pid (some (.agent .looking))) else none
  | .other pid => if s.processes pid = none then some (s.put pid (some .other)) else none
  | .ends pid waitedFor =>
    if s.processes pid = none then none
    else some (s.put pid (if waitedFor then none else some .other))
  | .advance pid => (s.stage pid).bind (s.advance pid)
  | .fail pid written => (s.stage pid).bind (s.fail pid written)
  | .remove => some { s with file := none }

/-- The processes of a machine, on which no instance has started yet. -/
def machine : Runs.System State Action where
  init := fun s => ∀ pid, s.stage pid = none
  step := step

/-- No instance starts while another one is in its check, the file is removed only while none
runs or writes, and no operation fails but a look at the file while none runs. -/
def Orderly (s : State) : Action → Prop
  | .start _ => ∀ pid stage, s.stage pid = some stage → stage = .running
  | .remove => ∀ pid stage, s.stage pid = some stage → stage ≠ .running ∧ ∀ f, stage ≠ .writing f
  | .fail pid _ =>
    (∀ f, s.stage pid ≠ some .opening ∧ s.stage pid ≠ some (.writing f)) ∧
      ∀ q, s.stage q ≠ some .running
  | .other _ | .ends _ _ | .advance _ => True

/-- At most one instance is in its check and at most one runs. The file names the one that runs,
and the one in its check has not found out otherwise. -/
structure Inv (stage : UInt32 → Option Stage) (file : Option (ℕ × String)) : Prop where
  checking : ∀ p q x y, stage p = some x → stage q = some y → x ≠ .running → y ≠ .running → p = q
  running : ∀ p q, stage p = some .running → stage q = some .running → p = q
  named : ∀ p, stage p = some .running → ∃ n, file = some (n, toString p.toNat)
  seen : ∀ p q x, stage p = some .running → stage q = some x →
    x = .running ∨ x = .looking ∨ x = .reading ∨ x = .probing p
  emptied : ∀ p n, stage p = some (.writing n) → file = some (n, "")

section

variable {stage : UInt32 → Option Stage} {file : Option (ℕ × String)} {pid : UInt32} {x y : Stage}

/-- Who stands somewhere after one has moved. -/
theorem of_update {q : UInt32} (h : Function.update stage pid (some y) q = some x) :
    q = pid ∧ y = x ∨ q ≠ pid ∧ stage q = some x := by
  by_cases hq : q = pid
  · rw [hq, Function.update_self] at h
    exact .inl ⟨hq, Option.some.inj h⟩
  · rw [Function.update_of_ne hq] at h
    exact .inr ⟨hq, h⟩

/-- An instance ends. -/
theorem Inv.leave (h : Inv stage file) (pid : UInt32) :
    Inv (Function.update stage pid none) file := by
  have hof {q : UInt32} {x : Stage} (hq : Function.update stage pid none q = some x) :
      stage q = some x := by
    by_cases heq : q = pid
    · rw [heq, Function.update_self] at hq
      cases hq
    · rwa [Function.update_of_ne heq] at hq
  exact
    { checking := fun p q x y hp hq => h.checking p q x y (hof hp) (hof hq)
      running := fun p q hp hq => h.running p q (hof hp) (hof hq)
      named := fun p hp => h.named p (hof hp)
      seen := fun p q x hp hq => h.seen p q x (hof hp) (hof hq)
      emptied := fun p n hp => h.emptied p n (hof hp) }

/-- An instance starts or goes on in its check. No other one is in its check. -/
theorem Inv.move (h : Inv stage file) (halone : ∀ q x, q ≠ pid → stage q = some x → x = .running)
    (hcheck : y ≠ .running) (hwriting : ∀ n, y ≠ .writing n) (hnot : stage pid ≠ some .running)
    (hseen : ∀ p, stage p = some .running → y = .looking ∨ y = .reading ∨ y = .probing p) :
    Inv (Function.update stage pid (some y)) file := by
  have hrunning {p : UInt32} (hp : Function.update stage pid (some y) p = some .running) :
      p ≠ pid ∧ stage p = some .running := by
    obtain ⟨-, rfl⟩ | hother := of_update hp
    · exact absurd rfl hcheck
    · exact hother
  refine ⟨?_, ?_, ?_, ?_, ?_⟩
  · intro p q x x' hp hq hx hx'
    obtain ⟨rfl, -⟩ | ⟨hne, hold⟩ := of_update hp
    · obtain ⟨rfl, -⟩ | ⟨hne, hold⟩ := of_update hq
      · rfl
      · exact absurd (halone q x' hne hold) hx'
    · exact absurd (halone p x hne hold) hx
  · exact fun p q hp hq => h.running p q (hrunning hp).2 (hrunning hq).2
  · exact fun p hp => h.named p (hrunning hp).2
  · intro p q x hp hq
    obtain ⟨-, rfl⟩ | ⟨-, hold⟩ := of_update hq
    · exact .inr (hseen p (hrunning hp).2)
    · exact h.seen p q x (hrunning hp).2 hold
  · intro p n hp
    obtain ⟨-, rfl⟩ | ⟨-, hold⟩ := of_update hp
    · exact absurd rfl (hwriting n)
    · exact h.emptied p n hold

/-- The other instances while one is in its check. -/
theorem Inv.alone (h : Inv stage file) (hpid : stage pid = some x) (hx : x ≠ .running) {q : UInt32}
    {y : Stage} (hne : q ≠ pid) (hq : stage q = some y) : y = .running := by
  by_contra hy
  exact hne (h.checking q pid y x hq hpid hy hx)

/-- No instance runs while one has found that none does. -/
theorem Inv.none_running (h : Inv stage file) (hpid : stage pid = some x)
    (hx : x = .opening ∨ ∃ n, x = .writing n) (q : UInt32) : stage q ≠ some .running := by
  intro hq
  have hseen := h.seen q pid x hq hpid
  obtain rfl | ⟨n, rfl⟩ := hx <;> simp at hseen

/-- An instance opens the file. -/
theorem Inv.open (h : Inv stage file) (hpid : stage pid = some .opening) (n : ℕ) :
    Inv (Function.update stage pid (some (.writing n))) (some (n, "")) := by
  have hnone := h.none_running hpid (.inl rfl)
  have hnot {p : UInt32} : Function.update stage pid (some (.writing n)) p ≠ some .running := by
    intro hp
    obtain ⟨-, hbad⟩ | ⟨-, hold⟩ := of_update hp
    · cases hbad
    · exact hnone p hold
  refine ⟨?_, fun p _ hp => absurd hp hnot, fun p hp => absurd hp hnot,
    fun p _ _ hp => absurd hp hnot, ?_⟩
  · intro p q x y hp hq hx hy
    obtain ⟨rfl, -⟩ | ⟨hne, hold⟩ := of_update hp
    · obtain ⟨rfl, -⟩ | ⟨hne, hold⟩ := of_update hq
      · rfl
      · exact absurd (h.alone hpid nofun hne hold) hy
    · exact absurd (h.alone hpid nofun hne hold) hx
  · intro p m hp
    obtain ⟨-, heq⟩ | ⟨hne, hold⟩ := of_update hp
    · cases heq
      rfl
    · cases h.alone hpid nofun hne hold

/-- An instance has written its PID and runs. -/
theorem Inv.run {n : ℕ} (h : Inv stage file) (hpid : stage pid = some (.writing n)) :
    Inv (Function.update stage pid (some .running)) (some (n, toString pid.toNat)) := by
  have hnone := h.none_running hpid (.inr ⟨n, rfl⟩)
  have hall {p : UInt32} {x : Stage}
      (hp : Function.update stage pid (some .running) p = some x) : p = pid ∧ x = .running := by
    obtain ⟨heq, hx⟩ | ⟨hne, hold⟩ := of_update hp
    · exact ⟨heq, hx.symm⟩
    · exact absurd (h.alone hpid nofun hne hold ▸ hold) (hnone p)
  refine ⟨?_, ?_, ?_, ?_, ?_⟩
  · exact fun p q x y hp _ hx _ => absurd (hall hp).2 hx
  · exact fun p q hp hq => (hall hp).1.trans (hall hq).1.symm
  · exact fun p hp => ⟨n, by rw [(hall hp).1]⟩
  · exact fun p q x _ hq => .inl (hall hq).2
  · intro p m hp
    cases (hall hp).2

/-- The file is removed while no instance needs it. -/
theorem Inv.remove (h : Inv stage file)
    (hfree : ∀ q x, stage q = some x → x ≠ .running ∧ ∀ n, x ≠ .writing n) : Inv stage none where
  checking := h.checking
  running := h.running
  named := fun p hp => absurd rfl (hfree p _ hp).1
  seen := h.seen
  emptied := fun p n hp => absurd rfl ((hfree p _ hp).2 n)

end

variable {s s' : State} {p q pid : UInt32} {a : Action}

/-- The stages after a process has changed. -/
theorem stage_put (s : State) (pid : UInt32) (process : Option Process) :
    (s.put pid process).stage =
      Function.update s.stage pid (process.bind Process.stage) := by
  funext q
  by_cases h : q = pid
  · subst h
    simp only [State.stage, State.put, Function.update_self]
  · simp only [State.stage, State.put, Function.update_of_ne h]

/-- The PID of an instance is read back. -/
theorem oldPid_toString (pid : UInt32) : State.oldPid (toString pid.toNat) = some pid := by
  have hdigits : ∀ c ∈ (toString pid.toNat).toList, Text.isWhiteSpace c = false :=
    fun c hc => Text.isWhiteSpace_of_isDigit (Text.isDigit_of_mem_toString hc)
  have htrim : Text.trimChars (toString pid.toNat).toList = (toString pid.toNat).toList := by
    refine Text.trimChars_eq_self ?_ ?_
    · cases hhead : (toString pid.toNat).toList.head? with
      | none => rfl
      | some c => exact hdigits c (List.mem_of_mem_head? hhead)
    · cases hlast : (toString pid.toNat).toList.getLast? with
      | none => rfl
      | some c => exact hdigits c (List.mem_of_mem_getLast? hlast)
  rw [State.oldPid, htrim, Text.parseU32_toString]

/-- A write into an empty file. -/
theorem overwrite_empty (text : String) : State.overwrite text "" = text := by
  simp [State.overwrite]

/-- An instance goes on. -/
theorem Inv.advance {x : Stage} (h : Inv s.stage s.file) (hpid : s.stage pid = some x)
    (hstep : s.advance pid x = some s') : Inv s'.stage s'.file := by
  cases x with
  | looking =>
    obtain rfl := Option.some.inj hstep
    rw [stage_put]
    refine h.move (fun q y hne hq => h.alone hpid nofun hne hq) ?_ ?_ (by simp [hpid]) ?_
    · split <;> nofun
    · split <;> nofun
    · intro p hp
      obtain ⟨n, hfile⟩ := h.named p hp
      simp [hfile]
  | reading =>
    obtain rfl := Option.some.inj hstep
    rw [stage_put]
    refine h.move (fun q y hne hq => h.alone hpid nofun hne hq) ?_ ?_ (by simp [hpid]) ?_
    · cases s.file.bind fun f => State.oldPid f.2 <;> nofun
    · cases s.file.bind fun f => State.oldPid f.2 <;> nofun
    · intro p hp
      obtain ⟨n, hfile⟩ := h.named p hp
      rw [hfile, Option.bind_some, oldPid_toString]
      exact .inr (.inr rfl)
  | probing old =>
    obtain rfl := Option.some.inj hstep
    rw [stage_put]
    by_cases hthere : s.pidIsRunning old = true
    · rw [if_pos hthere]
      exact h.leave pid
    · rw [if_neg hthere]
      refine h.move (fun q y hne hq => h.alone hpid nofun hne hq) nofun nofun (by simp [hpid]) ?_
      intro p hp
      have hold : old = p := by simpa using h.seen p pid _ hp hpid
      refine absurd ?_ hthere
      rw [hold, State.pidIsRunning, Option.isSome_iff_ne_none]
      intro hnone
      rw [State.stage, hnone] at hp
      cases hp
  | opening =>
    obtain rfl := Option.some.inj hstep
    have hstage := stage_put s pid (some (.agent (.writing ((s.file.map Prod.fst).getD s.next))))
    exact hstage ▸ h.open hpid _
  | writing n =>
    obtain rfl := Option.some.inj hstep
    have hfile : (s.write n (toString pid.toNat)).file = some (n, toString pid.toNat) := by
      simp [State.write, h.emptied pid n hpid, overwrite_empty]
    rw [stage_put]
    exact hfile ▸ h.run hpid
  | running => cases hstep

/-- An instance goes on after a look at the file that fails. -/
theorem Inv.fail {x : Stage} {written : ℕ} (h : Inv s.stage s.file) (hpid : s.stage pid = some x)
    (hopening : x ≠ .opening) (hwriting : ∀ n, x ≠ .writing n)
    (hnone : ∀ q, s.stage q ≠ some .running) (hstep : s.fail pid written x = some s') :
    Inv s'.stage s'.file := by
  have hgo : Inv (s.put pid (some (.agent .opening))).stage s.file := by
    rw [stage_put]
    refine h.move (fun q y hne hq => h.alone hpid ?_ hne hq) nofun nofun (hnone pid)
      fun p hp => absurd hp (hnone p)
    rintro rfl
    exact hnone pid hpid
  cases x with
  | looking | reading | probing =>
    obtain rfl := Option.some.inj hstep
    exact hgo
  | opening => exact absurd rfl hopening
  | writing n => exact absurd rfl (hwriting n)
  | running => exact absurd hpid (hnone pid)

/-- Every step keeps the invariant. -/
theorem Inv.step (h : Inv s.stage s.file) (hok : Orderly s a) (hstep : step s a = some s') :
    Inv s'.stage s'.file := by
  cases a with
  | start pid =>
    obtain ⟨hfree, hs'⟩ := Option.ite_none_right_eq_some.mp hstep
    obtain rfl := Option.some.inj hs'
    rw [stage_put]
    refine h.move (fun q y _ hq => hok q y hq) nofun nofun ?_ fun _ _ => .inl rfl
    rw [State.stage, hfree]
    nofun
  | other pid =>
    obtain ⟨-, hs'⟩ := Option.ite_none_right_eq_some.mp hstep
    obtain rfl := Option.some.inj hs'
    rw [stage_put]
    exact h.leave pid
  | ends pid waitedFor =>
    obtain ⟨-, hs'⟩ := Option.ite_none_left_eq_some.mp hstep
    obtain rfl := Option.some.inj hs'
    rw [stage_put]
    cases waitedFor
    · exact h.leave pid
    · exact h.leave pid
  | advance pid =>
    obtain ⟨x, hpid, hs'⟩ := Option.bind_eq_some_iff.mp hstep
    exact h.advance hpid hs'
  | fail pid written =>
    obtain ⟨x, hpid, hs'⟩ := Option.bind_eq_some_iff.mp hstep
    refine h.fail hpid ?_ ?_ hok.2 hs'
    · rintro rfl
      exact (hok.1 0).1 hpid
    · rintro n rfl
      exact (hok.1 n).2 hpid
  | remove =>
    obtain rfl := Option.some.inj hstep
    exact h.remove hok

/-- The invariant holds in every run. -/
theorem inv_of_reaches (hs : machine.Reaches Orderly s) : Inv s.stage s.file := by
  refine hs.invariant (I := fun s => Inv s.stage s.file) (fun s h => ?_)
    fun s a s' h hok hstep => h.step hok hstep
  have hnone {p : UInt32} {x : Stage} : s.stage p ≠ some x := by
    rw [h p]
    nofun
  exact ⟨fun _ _ _ _ hp => absurd hp hnone, fun _ _ hp => absurd hp hnone,
    fun _ hp => absurd hp hnone, fun _ _ _ hp => absurd hp hnone, fun _ _ hp => absurd hp hnone⟩

/-- The number in the PID file. -/
def State.named (s : State) : Option UInt32 := s.file.bind fun f => oldPid f.2

/-- An instance that finds a process under the number in the file, be it itself, ends and leaves
everything as it was. -/
theorem exec_refused {old : UInt32} (hfree : s.processes q = none) (hnamed : s.named = some old)
    (hthere : old = q ∨ s.pidIsRunning old = true) :
    machine.exec s [.start q, .advance q, .advance q, .advance q] =
      some (s.put q (some .other)) := by
  obtain ⟨f, hfile, hold⟩ := Option.bind_eq_some_iff.mp hnamed
  have hput (x y : Option Process) : (s.put q x).put q y = s.put q y := by
    simp only [State.put, Function.update_idem]
  have hstage (x : Stage) : (s.put q (some (.agent x))).stage q = some x := by
    rw [stage_put, Function.update_self]
    rfl
  have hfileOf (x : Stage) : (s.put q (some (.agent x))).file = some f := hfile
  have hthere' (x : Stage) : (s.put q (some (.agent x))).pidIsRunning old = true := by
    simp only [State.pidIsRunning, State.put]
    by_cases heq : old = q
    · rw [heq, Function.update_self]
      rfl
    · rw [Function.update_of_ne heq]
      exact hthere.resolve_left heq
  have hstart : step s (.start q) = some (s.put q (some (.agent .looking))) := if_pos hfree
  have hlook : step (s.put q (some (.agent .looking))) (.advance q) =
      some (s.put q (some (.agent .reading))) := by
    simp [step, hstage, State.advance, hfileOf, hput]
  have hread : step (s.put q (some (.agent .reading))) (.advance q) =
      some (s.put q (some (.agent (.probing old)))) := by
    simp [step, hstage, State.advance, hfileOf, hold, hput]
  have hprobe : step (s.put q (some (.agent (.probing old)))) (.advance q) =
      some (s.put q (some .other)) := by
    simp [step, hstage, State.advance, hthere', hput]
  simp [Runs.System.exec, machine, hstart, hlook, hread, hprobe]

/-- While the starts keep to the order at most one instance runs. It is the one that the file
names. Another one that starts while it runs ends and leaves everything as it was, if nothing else
happens during its check. -/
theorem one_instance (hs : machine.Reaches Orderly s) (hp : s.stage p = some .running) :
    s.named = some p ∧ (∀ q, s.stage q = some .running → q = p) ∧
      ∀ q, s.processes q = none →
        machine.exec s [.start q, .advance q, .advance q, .advance q] =
          some (s.put q (some .other)) := by
  have hinv := inv_of_reaches hs
  obtain ⟨n, hfile⟩ := hinv.named p hp
  have hnamed : s.named = some p := by
    rw [State.named, hfile, Option.bind_some, oldPid_toString]
  refine ⟨hnamed, fun q hq => hinv.running q p hq hp, fun q hfree => ?_⟩
  refine exec_refused hfree hnamed (.inr ?_)
  rw [State.pidIsRunning, Option.isSome_iff_ne_none]
  intro hnone
  rw [State.stage, hnone] at hp
  cases hp

/-- One instance has started on a machine without others. -/
theorem one_instance_seven :
    ∃ s, machine.Reachable s ∧ s.stage 7 = some .running ∧ s.named = some 7 ∧
      ∀ q, s.stage q = some .running → q = 7 := by
  let s₀ : State := ⟨fun _ => none, none, 0⟩
  let s₁ := s₀.put 7 (some (.agent .looking))
  let s₂ := s₁.put 7 (some (.agent .opening))
  let s₃ : State := { s₂.put 7 (some (.agent (.writing 0))) with file := some (0, ""), next := 1 }
  let s₄ := (s₃.write 0 "7").put 7 (some (.agent .running))
  have h₀ : machine.Reaches Orderly s₀ := .init fun _ => rfl
  have h₁ : machine.Reaches Orderly s₁ := h₀.step (a := .start 7) (fun _ _ h => nomatch h) rfl
  have h₂ : machine.Reaches Orderly s₂ := h₁.step (a := .advance 7) trivial rfl
  have h₃ : machine.Reaches Orderly s₃ := h₂.step (a := .advance 7) trivial rfl
  have h₄ : machine.Reaches Orderly s₄ := h₃.step (a := .advance 7) trivial rfl
  have hseven : s₄.stage 7 = some .running := rfl
  obtain ⟨hnamed, hone, -⟩ := one_instance h₄ hseven
  have hrun : machine.exec s₀ [.start 7, .advance 7, .advance 7, .advance 7] = some s₄ := rfl
  have hinit : machine.Reachable s₀ := .init fun _ => rfl
  exact ⟨s₄, hinit.exec hrun, hseven, hnamed, hone⟩

/-- A round in which each of some processes takes a step. -/
theorem exec_round {K : State → Prop} {f : UInt32 → Action} {before : Option Process} {y : Stage}
    {pids : List UInt32} (hnodup : pids.Nodup)
    (hstep : ∀ t, ∀ p ∈ pids, K t → t.processes p = before → ∃ t', step t (f p) = some t' ∧ K t' ∧
      t'.processes = Function.update t.processes p (some (.agent y)))
    (hK : K s) (hbefore : ∀ p ∈ pids, s.processes p = before) :
    ∃ s', machine.exec s (pids.map f) = some s' ∧ K s' ∧
      (∀ p ∈ pids, s'.processes p = some (.agent y)) ∧
      ∀ q, q ∉ pids → s'.processes q = s.processes q := by
  induction pids generalizing s with
  | nil => exact ⟨s, rfl, hK, nofun, fun _ _ => rfl⟩
  | cons p pids ih =>
    obtain ⟨hp, hnodup⟩ := List.nodup_cons.mp hnodup
    obtain ⟨t, ht, hKt, hprocesses⟩ := hstep s p List.mem_cons_self hK
      (hbefore p List.mem_cons_self)
    have hrest : ∀ q ∈ pids, t.processes q = before := by
      intro q hq
      rw [hprocesses, Function.update_of_ne (ne_of_mem_of_not_mem hq hp)]
      exact hbefore q (List.mem_cons_of_mem _ hq)
    obtain ⟨s', hexec, hKs', hall, hothers⟩ :=
      ih hnodup (fun t q hq => hstep t q (List.mem_cons_of_mem _ hq)) hKt hrest
    refine ⟨s', ?_, hKs', ?_, ?_⟩
    · rw [List.map_cons, Runs.System.exec]
      have hfirst : machine.step s (f p) = some t := ht
      rw [hfirst, Option.bind_some, hexec]
    · intro q hq
      obtain rfl | hq := List.mem_cons.mp hq
      · rw [hothers q hp, hprocesses, Function.update_self]
      · exact hall q hq
    · intro q hq
      rw [hothers q (fun h => hq (List.mem_cons_of_mem _ h)), hprocesses,
        Function.update_of_ne (List.ne_of_not_mem_cons hq)]

/-- A step of an instance at a known point. -/
theorem step_advance {x : Stage} (h : s.processes pid = some (.agent x)) :
    step s (.advance pid) = s.advance pid x := by
  rw [step, State.stage, h, Option.bind_some, Process.stage, Option.bind_some]

/-- The file names none of some processes and no process that is there. -/
def Free (s : State) (pids : List UInt32) : Prop :=
  ∀ old, s.named = some old → s.processes old = none ∧ old ∉ pids

/-- After some rounds all processes run. -/
def RunAfter (s : State) (pids : List UInt32) (rounds : ℕ) : Prop :=
  ∃ s', machine.exec s (List.replicate rounds (pids.map .advance)).flatten = some s' ∧
    ∀ p ∈ pids, s'.stage p = some .running

section

variable {pids : List UInt32} {rounds : ℕ}

/-- A round before that is one more. -/
theorem RunAfter.round (h : RunAfter s' pids rounds)
    (hexec : machine.exec s (pids.map .advance) = some s') : RunAfter s pids (rounds + 1) := by
  obtain ⟨t, ht, hrunning⟩ := h
  refine ⟨t, ?_, hrunning⟩
  rw [List.replicate_succ, List.flatten_cons, Runs.System.exec_append, hexec, Option.bind_some, ht]

/-- A round in which the file stays as it is. -/
theorem exec_look {f : UInt32 → Action} {before : Option Process} {y : Stage}
    (hnodup : pids.Nodup) (hfree : Free s pids)
    (hstep : ∀ t, ∀ p ∈ pids, t.file = s.file → Free t pids → t.processes p = before →
      step t (f p) = some (t.put p (some (.agent y))))
    (hbefore : ∀ p ∈ pids, s.processes p = before) :
    ∃ s', machine.exec s (pids.map f) = some s' ∧ s'.file = s.file ∧ Free s' pids ∧
      ∀ p ∈ pids, s'.processes p = some (.agent y) := by
  have hround : ∀ t, ∀ p ∈ pids, (t.file = s.file ∧ Free t pids) → t.processes p = before →
      ∃ t', step t (f p) = some t' ∧ (t'.file = s.file ∧ Free t' pids) ∧
        t'.processes = Function.update t.processes p (some (.agent y)) := by
    intro t p hp hK ht
    refine ⟨_, hstep t p hp hK.1 hK.2 ht, ⟨hK.1, fun old hold => ?_⟩, rfl⟩
    obtain ⟨hnone, hnot⟩ := hK.2 old hold
    have hne : old ≠ p := fun heq => hnot (heq ▸ hp)
    refine ⟨?_, hnot⟩
    rw [← hnone]
    exact Function.update_of_ne hne _ _
  obtain ⟨s', hexec, hsame, hall, -⟩ := exec_round (s := s)
    (K := fun t => t.file = s.file ∧ Free t pids) hnodup hround ⟨rfl, hfree⟩ hbefore
  exact ⟨s', hexec, hsame.1, hsame.2, hall⟩

/-- Instances that have all found that none runs. -/
theorem runAfter_opening (hnodup : pids.Nodup)
    (hopening : ∀ p ∈ pids, s.processes p = some (.agent .opening)) : RunAfter s pids 2 := by
  let n := (s.file.map Prod.fst).getD s.next
  have hround : ∀ t, ∀ p ∈ pids, (t.file.map Prod.fst).getD t.next = n →
      t.processes p = some (.agent .opening) → ∃ t', step t (.advance p) = some t' ∧
        (t'.file.map Prod.fst).getD t'.next = n ∧
        t'.processes = Function.update t.processes p (some (.agent (.writing n))) := by
    intro t p _ hn hp
    refine ⟨_, (step_advance hp).trans rfl, hn, ?_⟩
    rw [← hn]
    rfl
  obtain ⟨t, hopen, -, hwriting, -⟩ := exec_round (s := s) hnodup hround rfl hopening
  obtain ⟨s', hwrite, -, hrunning, -⟩ := exec_round (K := fun _ => True) (f := .advance)
    (y := .running) hnodup (fun t p _ _ hp => ⟨_, (step_advance hp).trans rfl, trivial, rfl⟩)
    trivial hwriting
  have hlast : RunAfter s' pids 0 := by
    refine ⟨s', rfl, fun p hp => ?_⟩
    rw [State.stage, hrunning p hp]
    rfl
  exact (hlast.round hwrite).round hopen

/-- Instances that have all read the file. -/
theorem runAfter_probing {old : UInt32} (hnodup : pids.Nodup) (hfree : Free s pids)
    (hold : s.named = some old)
    (hprobing : ∀ p ∈ pids, s.processes p = some (.agent (.probing old))) :
    RunAfter s pids 3 := by
  have hround : ∀ t, ∀ p ∈ pids, t.file = s.file → Free t pids →
      t.processes p = some (.agent (.probing old)) →
        step t (.advance p) = some (t.put p (some (.agent .opening))) := by
    intro t p _ hfile ht hp
    have hnamed : t.named = some old := by rw [State.named, hfile, ← State.named, hold]
    rw [step_advance hp, State.advance, State.pidIsRunning, (ht old hnamed).1]
    rfl
  obtain ⟨t, hprobe, -, -, hopening⟩ := exec_look hnodup hfree hround hprobing
  exact (runAfter_opening hnodup hopening).round hprobe

/-- Instances that have all found a file. -/
theorem runAfter_reading (hnodup : pids.Nodup) (hfree : Free s pids)
    (hreading : ∀ p ∈ pids, s.processes p = some (.agent .reading)) :
    ∃ rounds, RunAfter s pids rounds := by
  have hround : ∀ t, ∀ p ∈ pids, t.file = s.file → Free t pids →
      t.processes p = some (.agent .reading) → step t (.advance p) =
        some (t.put p (some (.agent ((s.named.map Stage.probing).getD .opening)))) := by
    intro t p _ hfile _ hp
    rw [step_advance hp, State.advance, hfile]
    rfl
  obtain ⟨t, hread, hfile, ht, hnext⟩ := exec_look hnodup hfree hround hreading
  cases hold : s.named with
  | none =>
    rw [hold] at hnext
    exact ⟨3, (runAfter_opening hnodup hnext).round hread⟩
  | some old =>
    rw [hold] at hnext
    have hnamed : t.named = some old := by rw [State.named, hfile, ← State.named, hold]
    exact ⟨4, (runAfter_probing hnodup ht hnamed hnext).round hread⟩

/-- Any number of instances that start at the same time all run, unless the file names a process
that is there or one of them. -/
theorem overlapping_starts (hnodup : pids.Nodup) (hnew : ∀ p ∈ pids, s.processes p = none)
    (hfree : ∀ old, s.named = some old → s.processes old = none ∧ old ∉ pids) :
    ∃ rounds s', machine.exec s (pids.map .start ++
        (List.replicate rounds (pids.map .advance)).flatten) = some s' ∧
      ∀ p ∈ pids, s'.stage p = some .running := by
  obtain ⟨s₁, hstart, hfile₁, hfree₁, hlooking⟩ := exec_look (f := .start) (y := .looking) hnodup
    hfree (fun t p _ _ _ hp => if_pos hp) hnew
  have hround : ∀ t, ∀ p ∈ pids, t.file = s₁.file → Free t pids →
      t.processes p = some (.agent .looking) → step t (.advance p) =
        some (t.put p (some (.agent (if s₁.file.isSome then .reading else .opening)))) := by
    intro t p _ hfile _ hp
    rw [step_advance hp, State.advance, hfile]
  obtain ⟨s₂, hlook, hfile₂, hfree₂, hnext⟩ := exec_look hnodup hfree₁ hround hlooking
  have hall : ∃ rounds, RunAfter s₂ pids rounds := by
    by_cases hthere : s₁.file.isSome
    · rw [if_pos hthere] at hnext
      exact runAfter_reading hnodup hfree₂ hnext
    · rw [if_neg hthere] at hnext
      exact ⟨2, runAfter_opening hnodup hnext⟩
  obtain ⟨rounds, hrounds⟩ := hall
  obtain ⟨s', hexec, hrunning⟩ := hrounds.round hlook
  refine ⟨rounds + 1, s', ?_, hrunning⟩
  rw [Runs.System.exec_append, hstart, Option.bind_some, hexec]

/-- Three instances next to the file of one that has ended. -/
theorem overlapping_starts_three :
    ∃ rounds s', machine.exec ⟨fun _ => none, some (0, "6"), 1⟩ ([7, 8, 9].map .start ++
        (List.replicate rounds ([7, 8, 9].map .advance)).flatten) = some s' ∧
      ∀ p ∈ [7, 8, 9], s'.stage p = some .running := by
  refine overlapping_starts (by decide) (fun _ _ => rfl) fun old hold => ⟨rfl, ?_⟩
  have hsix : State.oldPid "6" = some 6 := by decide
  obtain rfl : 6 = old := Option.some.inj (hsix.symm.trans hold)
  decide

end

end LinuxAgent.Main.SingleInstance
