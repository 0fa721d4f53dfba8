import LinuxAgent.Docker.Monitor
import Mathlib.Data.Finset.SDiff
import Mathlib.Data.Finset.Lattice.Lemmas
import Mathlib.Tactic.Tauto

/-!
# The kernel's table and the agent's view

The differences are taken from `LAST_PROCESSES`, so the kernel has to hold just that.
Two calls break it: a reset under the old runtime empties the table and leaves
`LAST_PROCESSES` as it is, and the residual check goes by a scan that may be out of
date. In all other runs the two agree, and hold the result of the latest scan whenever
no call is in progress.
-/

namespace LinuxAgent.Docker

/-- The entry of a shim in the kernel's table. -/
def DockerShimProcess.entry (p : DockerShimProcess) : UInt8 × Int := (p.kind, p.pid)

/-- Different shims have different entries. -/
theorem DockerShimProcess.entry_injective : Function.Injective DockerShimProcess.entry := by
  rintro ⟨pid, kind, _⟩ ⟨pid', kind', _⟩ h
  obtain ⟨rfl, rfl⟩ := Prod.mk.inj h
  rfl

/-- The table that holds some shims. -/
def tableOf (ps : List DockerShimProcess) : Finset (UInt8 × Int) :=
  (ps.map DockerShimProcess.entry).toFinset

/-- The entries of the table are those of the shims. -/
@[simp]
theorem mem_tableOf {ps : List DockerShimProcess} {e : UInt8 × Int} :
    e ∈ tableOf ps ↔ ∃ p ∈ ps, p.entry = e := by
  simp [tableOf]

/-- No shims have no entries. -/
@[simp]
theorem tableOf_nil : tableOf [] = ∅ := rfl

/-- A further shim adds its entry. -/
theorem tableOf_cons (p : DockerShimProcess) (ps : List DockerShimProcess) :
    tableOf (p :: ps) = insert p.entry (tableOf ps) := by
  simp [tableOf]

/-- An event about a shim is none of the special ones. -/
theorem processes_emitEvent_shim (p : DockerShimProcess) (action : DockerEventAction)
    (k : KernelTable) :
    (emitEvent p.kind action p.pid k).processes =
      match action with
      | .add => insert p.entry k.processes
      | .remove => k.processes.erase p.entry := by
  have hkind : p.kind ≠ 4 ∧ p.kind ≠ 3 := by
    rcases p.kind_eq with h | h <;> rw [h] <;> decide
  cases action <;> simp [emitEvent, hkind, DockerShimProcess.entry]

/-- Adding shims. -/
theorem processes_emitAll_add (ps : List DockerShimProcess) (k : KernelTable) :
    (emitAll .add ps k).processes = k.processes ∪ tableOf ps := by
  induction ps generalizing k with
  | nil => simp [emitAll]
  | cons p ps ih =>
    rw [emitAll, List.foldl_cons, ← emitAll, ih, processes_emitEvent_shim, tableOf_cons,
      Finset.union_insert, Finset.insert_union]

/-- Removing shims. -/
theorem processes_emitAll_remove (ps : List DockerShimProcess) (k : KernelTable) :
    (emitAll .remove ps k).processes = k.processes \ tableOf ps := by
  induction ps generalizing k with
  | nil => simp [emitAll]
  | cons p ps ih =>
    rw [emitAll, List.foldl_cons, ← emitAll, ih, processes_emitEvent_shim, tableOf_cons]
    ext e
    simp only [Finset.mem_sdiff, Finset.mem_erase, Finset.mem_insert]
    tauto

/-- Both ways of emptying the table. -/
theorem processes_clear (k : KernelTable) :
    (clearDockerRt (emitEvent 4 .remove 0 k)).processes = ∅ := rfl

/-- An event about the root process leaves the shims alone. -/
theorem processes_emitEvent_root (pid : Int) (k : KernelTable) :
    (emitEvent 3 .add pid k).processes = k.processes := rfl

/-- The residual check leaves a table alone that does not hold what it removes. -/
theorem processes_checkResidualPids {currentPids : List Int} {lines : List String}
    {k : KernelTable} (h : ∀ pid ∈ residualPids currentPids lines, (2, pid) ∉ k.processes) :
    (checkResidualPids currentPids lines k).processes = k.processes := by
  rw [checkResidualPids]
  generalize residualPids currentPids lines = pids at h
  induction pids generalizing k with
  | nil => rfl
  | cons pid pids ih =>
    have hone : (emitEvent 2 .remove pid k).processes = k.processes :=
      Finset.erase_eq_of_notMem (h pid List.mem_cons_self)
    rw [List.foldl_cons, ih, hone]
    intro pid' hpid'
    rw [hone]
    exact h pid' (List.mem_cons_of_mem pid hpid')

/-- Sending the differences turns the table of some shims into the table of others. -/
theorem processes_emit_differences {current last : List DockerShimProcess} {k : KernelTable}
    (htable : k.processes = tableOf last) :
    (emitAll .remove (last.filter fun p => p ∉ current)
      (emitAll .add (current.filter fun p => p ∉ last) k)).processes = tableOf current := by
  rw [processes_emitAll_remove, processes_emitAll_add, htable]
  ext e
  simp only [Finset.mem_sdiff, Finset.mem_union, mem_tableOf, List.mem_filter, decide_eq_true_eq]
  constructor
  · rintro ⟨⟨p, hp, rfl⟩ | ⟨p, ⟨hp, -⟩, rfl⟩, hkept⟩
    · by_contra hnot
      exact hkept ⟨p, ⟨hp, fun hmem => hnot ⟨p, hmem, rfl⟩⟩, rfl⟩
    · exact ⟨p, hp, rfl⟩
  · rintro ⟨p, hp, rfl⟩
    refine ⟨?_, ?_⟩
    · by_cases hlast : p ∈ last
      · exact .inl ⟨p, hlast, rfl⟩
      · exact .inr ⟨p, ⟨hp, hlast⟩, rfl⟩
    · rintro ⟨q, ⟨-, hq⟩, heq⟩
      rw [DockerShimProcess.entry_injective heq] at hq
      exact hq hp

/-- Without a difference the tables are the same. -/
theorem tableOf_eq_of_no_change {current last : List DockerShimProcess}
    (hadded : current.filter (fun p => p ∉ last) = [])
    (hremoved : last.filter (fun p => p ∉ current) = []) : tableOf last = tableOf current := by
  simp only [List.filter_eq_nil_iff, decide_eq_true_eq, not_not] at hadded hremoved
  ext e
  simp only [mem_tableOf]
  constructor
  · rintro ⟨p, hp, rfl⟩
    exact ⟨p, hremoved p hp, rfl⟩
  · rintro ⟨p, hp, rfl⟩
    exact ⟨p, hadded p hp, rfl⟩

/-- What the end of a call leaves alone. -/
theorem State.finish_frame (s : State) (inReset : Bool) :
    (s.finish inReset).kernel = s.kernel ∧
      (s.finish inReset).lastProcesses = s.lastProcesses ∧
      (s.finish inReset).queue = s.queue ∧ (s.finish inReset).scanned = s.scanned := by
  cases inReset <;> exact ⟨rfl, rfl, rfl, rfl⟩

/-- After the differences have been sent, the kernel and `LAST_PROCESSES` hold the scan. -/
theorem State.applyScan_spec {s : State} (htable : s.kernel.processes = tableOf s.lastProcesses)
    (call : Pending) :
    (s.applyScan call).kernel.processes = tableOf call.current ∧
      tableOf (s.applyScan call).lastProcesses = tableOf call.current ∧
      (s.applyScan call).queue = s.queue ∧ (s.applyScan call).scanned = s.scanned := by
  simp only [State.applyScan]
  split
  · next hcurrent =>
    split
    · next hlast =>
      obtain ⟨hkernel, hprocesses, hqueue, hscanned⟩ := s.finish_frame call.inReset
      rw [hkernel, hprocesses, htable, hlast, hcurrent]
      exact ⟨rfl, rfl, hqueue, hscanned⟩
    · obtain ⟨hkernel, hprocesses, hqueue, hscanned⟩ := State.finish_frame
        { s with kernel := clearDockerRt (emitEvent 4 .remove 0 s.kernel), lastProcesses := [] }
        call.inReset
      rw [hkernel, hprocesses, hcurrent]
      exact ⟨rfl, rfl, hqueue, hscanned⟩
  · split
    · next hlast =>
      obtain ⟨hkernel, hprocesses, hqueue, hscanned⟩ := State.finish_frame
        { s with kernel := emitAll .add call.current s.kernel, lastProcesses := call.current }
        call.inReset
      rw [hkernel, hprocesses, processes_emitAll_add, htable, hlast]
      exact ⟨Finset.empty_union _, rfl, hqueue, hscanned⟩
    · refine ⟨processes_emit_differences htable, ?_, rfl, rfl⟩
      split
      · rfl
      · next hsame =>
        simp only [Bool.or_eq_true, Bool.not_eq_true', bne_iff_ne, not_or, Bool.not_eq_false,
          List.isEmpty_iff] at hsame
        exact tableOf_eq_of_no_change hsame.1.1 hsame.1.2

/-- The steps that keep the kernel and the agent's view together: a reset under the old
runtime comes when there is nothing to clear, and the residual check does not remove
what the agent has told the kernel. -/
def KeepsTable (s : State) : Action → Prop
  | .lockVersion => s.dockerVersion = 1 → s.lastProcesses = []
  | .residual i lines =>
    ∀ call ∈ s.residual[i]?, ∀ pid ∈ residualPids call.currentPids lines,
      (2, pid) ∉ tableOf s.lastProcesses
  | _ => True

/-- The kernel holds `LAST_PROCESSES`, and the last scan in the queue, or else
`LAST_PROCESSES`, is the latest scan. -/
structure State.InStep (s : State) : Prop where
  table : s.kernel.processes = tableOf s.lastProcesses
  scanned : tableOf ((s.queue.map Pending.current).getLast?.getD s.lastProcesses) =
    tableOf s.scanned

/-- Steps that change none of the four. -/
theorem State.InStep.of_frame {s s' : State} (h : s.InStep) (hkernel : s'.kernel = s.kernel)
    (hlast : s'.lastProcesses = s.lastProcesses) (hqueue : s'.queue = s.queue)
    (hscanned : s'.scanned = s.scanned) : s'.InStep := by
  refine ⟨?_, ?_⟩
  · rw [hkernel, hlast]
    exact h.table
  · rw [hqueue, hlast, hscanned]
    exact h.scanned

/-- What a scan leaves alone. -/
theorem State.scanDockerProcesses_frame (s : State) (io : ScanIo) :
    (s.scanDockerProcesses io).1.kernel = s.kernel ∧
      (s.scanDockerProcesses io).1.lastProcesses = s.lastProcesses ∧
      (s.scanDockerProcesses io).1.queue = s.queue ∧
      (s.scanDockerProcesses io).1.scanned = s.scanned := by
  rw [State.scanDockerProcesses]
  split
  · exact ⟨rfl, rfl, rfl, rfl⟩
  · simp only
    split <;> exact ⟨rfl, rfl, rfl, rfl⟩

/-- The end of a call. -/
theorem State.InStep.finish {s : State} (h : s.InStep) (inReset : Bool) :
    (s.finish inReset).InStep := by
  obtain ⟨hkernel, hlast, hqueue, hscanned⟩ := s.finish_frame inReset
  exact h.of_frame hkernel hlast hqueue hscanned

/-- A reset begins. -/
theorem State.InStep.reset {s : State} (h : s.InStep) (pid : Int) :
    (s.resetContainerRootPid pid).InStep := by
  rw [State.resetContainerRootPid]
  split
  · exact h
  · exact ⟨(processes_emitEvent_root pid s.kernel).trans h.table, h.scanned⟩

/-- A reset goes on by the version of the runtime. -/
theorem State.InStep.resetByVersion {s : State} (h : s.InStep)
    (hok : s.dockerVersion = 1 → s.lastProcesses = []) : s.resetByVersion.InStep := by
  rw [State.resetByVersion]
  split
  · next hversion =>
    refine ⟨?_, h.scanned⟩
    rw [processes_clear, hok hversion, tableOf_nil]
  · exact ⟨h.table, h.scanned⟩

/-- A scan returns. -/
theorem State.InStep.scan {s s' : State} {i : ℕ} {io : ScanIo} (h : s.InStep)
    (hstep : s.step (.scan i io) = some s') : s'.InStep := by
  simp only [State.step] at hstep
  split at hstep
  · cases hstep
  · next inReset _ =>
    have hframe := State.scanDockerProcesses_frame
      { s with scanning := s.scanning.eraseIdx i } io
    split at hstep
    · next t hscan =>
      rw [hscan] at hframe
      obtain ⟨hkernel, hlast, hqueue, hscanned⟩ := hframe
      obtain rfl := Option.some.inj hstep
      exact (h.of_frame hkernel hlast hqueue hscanned).finish inReset
    · next t current hscan =>
      rw [hscan] at hframe
      obtain ⟨hkernel, hlast, hqueue, hscanned⟩ := hframe
      have ht : t.InStep := h.of_frame hkernel hlast hqueue hscanned
      obtain rfl := Option.some.inj hstep
      refine ⟨ht.table, ?_⟩
      simp only [List.map_append, List.map_cons, List.map_nil, List.getLast?_concat,
        Option.getD_some]

/-- A call sends its differences. -/
theorem State.InStep.lockLast {s s' : State} (h : s.InStep)
    (hstep : s.step .lockLast = some s') : s'.InStep := by
  simp only [State.step] at hstep
  split at hstep
  · next call queue _ hqueue =>
    obtain rfl := Option.some.inj hstep
    obtain ⟨hkernel, hlast, hrest, hscanned⟩ :=
      State.applyScan_spec (s := { s with queue := queue }) h.table call
    refine ⟨hkernel.trans hlast.symm, ?_⟩
    rw [hrest, hscanned, ← h.scanned, hqueue, List.map_cons, List.getLast?_cons,
      Option.getD_some]
    cases (queue.map Pending.current).getLast? with
    | none => exact hlast
    | some _ => rfl
  · cases hstep

/-- A call looks at the version of the runtime. -/
theorem State.InStep.lockVersion2 {s s' : State} (h : s.InStep)
    (hstep : s.step .lockVersion2 = some s') : s'.InStep := by
  simp only [State.step] at hstep
  split at hstep
  · cases hstep
  · next call _ =>
    split at hstep
    · obtain rfl := Option.some.inj hstep
      exact ⟨h.table, h.scanned⟩
    · obtain rfl := Option.some.inj hstep
      exact State.InStep.finish (s := { s with holder := none }) ⟨h.table, h.scanned⟩ _

/-- A call ends with the residual check. -/
theorem State.InStep.residual {s s' : State} {i : ℕ} {lines : List String} (h : s.InStep)
    (hok : KeepsTable s (.residual i lines))
    (hstep : s.step (.residual i lines) = some s') : s'.InStep := by
  simp only [State.step] at hstep
  split at hstep
  · cases hstep
  · next call hcall =>
    obtain rfl := Option.some.inj hstep
    apply State.InStep.finish
    refine ⟨?_, h.scanned⟩
    rw [processes_checkResidualPids]
    · exact h.table
    · rw [h.table]
      exact hok call hcall

/-- Every step that keeps the table keeps the kernel and the agent's view together. -/
theorem State.InStep.step {s s' : State} {a : Action} (h : s.InStep) (hok : KeepsTable s a)
    (hstep : s.step a = some s') : s'.InStep := by
  cases a with
  | timer =>
    obtain rfl := Option.some.inj hstep
    exact ⟨h.table, h.scanned⟩
  | kernelDockerOper pid type =>
    simp only [State.step] at hstep
    split at hstep
    · obtain rfl := Option.some.inj hstep
      exact h.reset _
    · split at hstep
      · obtain rfl := Option.some.inj hstep
        exact ⟨h.table, h.scanned⟩
      · obtain rfl := Option.some.inj hstep
        exact h
  | lockVersion =>
    simp only [State.step] at hstep
    split at hstep
    · cases hstep
    · obtain rfl := Option.some.inj hstep
      exact h.resetByVersion hok
  | scan i io => exact h.scan hstep
  | lockLast => exact h.lockLast hstep
  | lockVersion2 => exact h.lockVersion2 hstep
  | residual i lines => exact h.residual hok hstep

/-- **The kernel's container table is the agent's view** along every run whose resets
under the old runtime find nothing to clear and whose residual checks remove nothing
that the agent has told the kernel: the kernel holds `LAST_PROCESSES`, and when no call
is in progress both are the latest scan. -/
theorem kernel_table_matches {s : State} (hs : system.Reaches KeepsTable s) (hidle : s.Idle) :
    s.kernel.processes = tableOf s.lastProcesses ∧
      s.kernel.processes = tableOf s.scanned := by
  have h : s.InStep := hs.invariant (fun s hinit => by cases hinit; exact ⟨rfl, rfl⟩)
    fun s a s' hs hok hstep => hs.step hok hstep
  have hqueue : s.queue = [] := List.length_eq_zero_iff.mp hidle.2.2.1
  have hscanned := h.scanned
  rw [hqueue] at hscanned
  exact ⟨h.table, h.table.trans hscanned⟩

/-- A scan that finds one shim of the old runtime with the given parent. -/
def oldRuntimeScan (ppid : Int) : ScanIo where
  detected := some 0
  entries := some [(1200, ppid)]

/-- A timer scan that finds a container of the old runtime. -/
def oneUpdate : List Action := [.timer, .scan 0 (oldRuntimeScan 900), .lockLast]

/-- The container is in the table when the scan is through. -/
theorem kernel_table_matches_oneUpdate :
    ∃ s, system.exec {} oneUpdate = some s ∧ s.scanned = [⟨900, 1, .inl rfl⟩] ∧
      s.kernel.processes = tableOf s.lastProcesses ∧ s.kernel.processes = tableOf s.scanned := by
  have hmeets : system.Meets KeepsTable {} oneUpdate := by
    apply Runs.System.Meets.of_forall
    intro a ha s
    simp only [oneUpdate, List.mem_cons, List.not_mem_nil, or_false] at ha
    rcases ha with rfl | rfl | rfl <;> trivial
  refine ⟨_, rfl, rfl, ?_⟩
  exact kernel_table_matches ((Runs.System.Reaches.init rfl).exec hmeets rfl) (by decide)

/-- A reset of the root process empties the kernel's table and leaves the container in
`LAST_PROCESSES`; the next scan finds no difference and does not add it again. -/
theorem reset_loses_container :
    ∃ s, system.exec {} (oneUpdate ++ [.kernelDockerOper 800 3, .lockVersion, .timer,
        .scan 0 (oldRuntimeScan 900), .lockLast, .lockVersion2]) = some s ∧
      s.Idle ∧ s.scanned = [⟨900, 1, .inl rfl⟩] ∧
      s.lastProcesses = [⟨900, 1, .inl rfl⟩] ∧ s.kernel.processes = ∅ ∧
      s.kernel.processes ≠ tableOf s.lastProcesses := by
  refine ⟨_, rfl, ?_⟩
  decide

end LinuxAgent.Docker
