import LinuxAgent.Docker.Monitor

/-!
# Which shims a scan tracks

The newer runtimes have one shim for each container, so every process that their
detection commands list is to be told to the kernel. The scan first asks whether all
the listed processes have the same parent, which only matters for the old runtime. If
they have not, it comes back empty, and the caller takes this for a machine without
containers.
-/

namespace LinuxAgent.Docker

/-- A line that is written to `/proc/osec/docker_rt`. -/
inductive Line
  /-- The line of `emit_event`. -/
  | event (kind : UInt8) (action : DockerEventAction) (pid : Int)
  /-- The line of `clear_docker_rt`. -/
  | clear
  deriving DecidableEq

/-- The kernel reads a line. -/
def Line.write (k : KernelTable) : Line → KernelTable
  | .event kind action pid => emitEvent kind action pid k
  | .clear => clearDockerRt k

/-- The lines of the global clear. -/
def globalClear : List Line := [.event 4 .remove 0, .clear]

/-- The line of a shim. -/
def DockerShimProcess.line (action : DockerEventAction) (p : DockerShimProcess) : Line :=
  .event p.kind action p.pid

/-- The lines that `update_docker_state` writes for a scan, given what it has told before. -/
def updateLines (last current : List DockerShimProcess) : List Line :=
  if current = [] then
    if last = [] then [] else globalClear
  else if last = [] then current.map (DockerShimProcess.line .add)
  else
    (current.filter fun p => p ∉ last).map (DockerShimProcess.line .add) ++
      (last.filter fun p => p ∉ current).map (DockerShimProcess.line .remove)

/-- An update changes the kernel table by its lines. -/
theorem kernel_applyScan (s : State) (call : Pending) :
    (s.applyScan call).kernel =
      (updateLines s.lastProcesses call.current).foldl Line.write s.kernel := by
  have hemit (action : DockerEventAction) (ps : List DockerShimProcess) (k : KernelTable) :
      (ps.map (DockerShimProcess.line action)).foldl Line.write k = emitAll action ps k := by
    rw [List.foldl_map]
    rfl
  have hfinish (s : State) (inReset : Bool) : (s.finish inReset).kernel = s.kernel := by
    cases inReset <;> rfl
  rw [State.applyScan, updateLines]
  split
  · split
    · rw [hfinish]
      rfl
    · rw [hfinish]
      rfl
  · split
    · rw [hfinish, hemit]
    · rw [List.foldl_append, hemit, hemit]

/-- The kind of a shim in the example. -/
theorem kind_two : (2 : UInt8) = 1 ∨ (2 : UInt8) = 2 := .inr rfl

/-- The shims are just one of kind 2 for every listed process. -/
def Tracks (entries : List (Int × Int)) (processes : List DockerShimProcess) : Prop :=
  (∀ e ∈ entries, processes.count ⟨e.1, 2, kind_two⟩ = 1) ∧
    ∀ p ∈ processes, p.kind = 2 ∧ p.pid ∈ entries.map Prod.fst

/-- A scan tracks every listed process, and no update with its result sends the global clear
while a process is listed. -/
def State.TracksShims (s : State) (io : ScanIo) (entries : List (Int × Int)) : Prop :=
  ∃ processes, (s.scanDockerProcesses io).2 = some processes ∧ Tracks entries processes ∧
    (entries ≠ [] → ∀ last, ∀ line ∈ globalClear, line ∉ updateLines last processes)

/-- All listed processes have the same parent. -/
def SameParent (entries : List (Int × Int)) : Prop := ∀ a ∈ entries, ∀ b ∈ entries, a.2 = b.2

/-- Neighbours are equal all along a list just if all its elements are. -/
theorem all_zip_tail {ppids : List Int} :
    ((ppids.zip ppids.tail).all fun w => w.1 == w.2) = true ↔ ∀ a ∈ ppids, ∀ b ∈ ppids, a = b := by
  induction ppids with
  | nil => simp
  | cons a ppids ih =>
    cases ppids with
    | nil => simp
    | cons b rest =>
      rw [List.tail_cons] at ih
      rw [List.tail_cons, List.zip_cons_cons, List.all_cons, Bool.and_eq_true, ih, beq_iff_eq]
      constructor
      · rintro ⟨heq, hrest⟩ x hx y hy
        obtain rfl : a = b := heq
        have hmem {z : Int} (hz : z ∈ a :: a :: rest) : z ∈ a :: rest := by simpa using hz
        exact hrest x (hmem hx) y (hmem hy)
      · intro h
        refine ⟨h a List.mem_cons_self b (List.mem_cons_of_mem _ List.mem_cons_self), ?_⟩
        exact fun x hx y hy => h x (List.mem_cons_of_mem _ hx) y (List.mem_cons_of_mem _ hy)

/-- The shims of a newer runtime. -/
theorem shimsOf_of_newer {index : ℕ} (hindex : index = 1 ∨ index = 2)
    {entries : List (Int × Int)} (hparent : SameParent entries) :
    shimsOf index entries = entries.map fun e => ⟨e.1, 2, .inr rfl⟩ := by
  have hall : (((entries.map Prod.snd).zip (entries.map Prod.snd).tail).all
      fun w => w.1 == w.2) = true := by
    refine all_zip_tail.mpr fun a ha b hb => ?_
    obtain ⟨x, hx, rfl⟩ := List.mem_map.mp ha
    obtain ⟨y, hy, rfl⟩ := List.mem_map.mp hb
    exact hparent x hx y hy
  unfold shimsOf
  dsimp only
  rw [if_pos hall]
  rcases hindex with rfl | rfl <;> rfl

/-- No shim is found if the parents differ. -/
theorem shimsOf_of_parents {index : ℕ} {entries : List (Int × Int)}
    (hparent : ¬SameParent entries) : shimsOf index entries = [] := by
  have hall : ¬(((entries.map Prod.snd).zip (entries.map Prod.snd).tail).all
      fun w => w.1 == w.2) = true := by
    rw [all_zip_tail]
    exact fun h => hparent fun a ha b hb =>
      h a.2 (List.mem_map_of_mem ha) b.2 (List.mem_map_of_mem hb)
  unfold shimsOf
  exact if_neg hall

/-- The result of a scan with a detected command. -/
theorem scanDockerProcesses_eq {s : State} {io : ScanIo} {index : ℕ}
    {entries : List (Int × Int)} (hindex : s.detectedCommand.or io.detected = some index)
    (hentries : io.entries = some entries) :
    (s.scanDockerProcesses io).2 = some (shimsOf index entries) ∨
      entries = [] ∧ (s.scanDockerProcesses io).2 = some [] := by
  rw [State.scanDockerProcesses, hindex, hentries]
  cases entries with
  | nil => exact .inr ⟨rfl, rfl⟩
  | cons e rest => exact .inl rfl

/-- An update with a shim does not send the global clear. -/
theorem not_mem_updateLines {current : List DockerShimProcess} (h : current ≠ [])
    (last : List DockerShimProcess) {line : Line} (hline : line ∈ globalClear) :
    line ∉ updateLines last current := by
  have hkind (p : DockerShimProcess) (action : DockerEventAction) : p.line action ≠ line := by
    rintro rfl
    rcases List.mem_cons.mp hline with hevent | hclear
    · rcases p.kind_eq with hone | htwo
      · exact absurd ((Line.event.inj hevent).1.symm.trans hone) (by decide)
      · exact absurd ((Line.event.inj hevent).1.symm.trans htwo) (by decide)
    · exact Line.noConfusion (List.mem_singleton.mp hclear)
  have hmap (action : DockerEventAction) (ps : List DockerShimProcess) :
      line ∉ ps.map (DockerShimProcess.line action) := by
    rintro hmem
    obtain ⟨p, -, hp⟩ := List.mem_map.mp hmem
    exact hkind p action hp
  rw [updateLines, if_neg h]
  split
  · exact hmap .add current
  · rw [List.mem_append, not_or]
    exact ⟨hmap .add _, hmap .remove _⟩

/-- **Every running container shim is tracked**, and the global clear is not sent while one
is listed, just if all listed processes have the same parent and none is listed twice. -/
theorem tracksShims_iff {s : State} {io : ScanIo} {index : ℕ} {entries : List (Int × Int)}
    (hdetected : s.detectedCommand.or io.detected = some index) (hindex : index = 1 ∨ index = 2)
    (hentries : io.entries = some entries) :
    s.TracksShims io entries ↔ SameParent entries ∧ (entries.map Prod.fst).Nodup := by
  let shim (e : Int × Int) : DockerShimProcess := ⟨e.1, 2, .inr rfl⟩
  have hshim : entries.map shim =
      (entries.map Prod.fst).map fun pid => (⟨pid, 2, .inr rfl⟩ : DockerShimProcess) := by
    rw [List.map_map]
    rfl
  have hinj : Function.Injective fun pid : Int => (⟨pid, 2, .inr rfl⟩ : DockerShimProcess) :=
    fun a b hab => congrArg DockerShimProcess.pid hab
  constructor
  · rintro ⟨processes, hscan, ⟨hone, -⟩, -⟩
    rcases scanDockerProcesses_eq hdetected hentries with hshims | ⟨rfl, -⟩
    · obtain rfl := Option.some.inj (hscan.symm.trans hshims)
      have hparent : SameParent entries := by
        by_contra hparent
        rw [shimsOf_of_parents hparent] at hone
        refine hparent fun a ha _ _ => ?_
        exact absurd (hone a ha) (by simp)
      refine ⟨hparent, List.nodup_iff_count_eq_one.mpr fun pid hpid => ?_⟩
      obtain ⟨e, he, rfl⟩ := List.mem_map.mp hpid
      have hcount := hone e he
      rw [shimsOf_of_newer hindex hparent] at hcount
      rw [← hcount]
      exact (hshim ▸ List.count_map_of_injective _ _ hinj e.1).symm
    · exact ⟨nofun, List.nodup_nil⟩
  · rintro ⟨hparent, hnodup⟩
    have hshims := shimsOf_of_newer hindex hparent
    have hscan : (s.scanDockerProcesses io).2 = some (entries.map shim) := by
      rcases scanDockerProcesses_eq hdetected hentries with hscan | ⟨rfl, hscan⟩
      · rw [hscan, hshims]
      · exact hscan
    refine ⟨entries.map shim, hscan, ⟨fun e he => ?_, fun p hp => ?_⟩,
      fun hne last line hline => ?_⟩
    · rw [hshim, List.count_map_of_injective _ _ hinj]
      exact List.count_eq_one_of_mem hnodup (List.mem_map_of_mem he)
    · obtain ⟨e, he, rfl⟩ := List.mem_map.mp hp
      exact ⟨rfl, List.mem_map_of_mem he⟩
    · exact not_mem_updateLines (by simpa using hne) last hline

/-- Two shims that the same daemon has started. -/
theorem tracksShims_two :
    State.TracksShims {} ⟨some 1, some [(100, 7), (200, 7)]⟩ [(100, 7), (200, 7)] :=
  (@tracksShims_iff _ _ 1 _ rfl (.inl rfl) rfl).mpr (by unfold SameParent; decide)

/-- Two shims with different parents: none is tracked, and the agent, which has told the
kernel of the first one, sends the global clear. -/
theorem shims_with_parents_cleared :
    (State.scanDockerProcesses {} ⟨some 1, some [(100, 7), (200, 1)]⟩).2 = some [] ∧
      updateLines [⟨100, 2, .inr rfl⟩] [] = globalClear ∧
      ¬State.TracksShims {} ⟨some 1, some [(100, 7), (200, 1)]⟩ [(100, 7), (200, 1)] := by
  refine ⟨rfl, rfl, ?_⟩
  rintro ⟨processes, hscan, ⟨hone, -⟩, -⟩
  obtain rfl : processes = [] := (Option.some.inj hscan).symm
  exact absurd (hone (100, 7) List.mem_cons_self) (by decide)

end LinuxAgent.Docker
