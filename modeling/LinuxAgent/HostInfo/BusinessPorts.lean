import LinuxAgent.HostInfo.NetApp
import LinuxAgent.Lib.Runs

/-!
# The business ports of the kernel

`write_business_ports_to_proc` writes the ports of the table to a file in `/proc` if they are not
those that it has written before. The kernel does not see the write of an empty text, so that it
keeps its ports when the last one is gone.
-/

namespace LinuxAgent.HostInfo

/-- A table whose keys are ports. -/
structure PortTable extends NetAppState where
  isPort : ∀ e ∈ portMap, e.1 < UInt16.size

/-- `LAST_PORTS`, and the last text that the kernel has seen. -/
structure Business where
  lastPorts : List ℕ := []
  kernel : String := ""

/-- What a call finds: if the lock of the table is not poisoned, if the file can be opened, and if
the kernel takes what is written. -/
structure WriteEnv where
  reads : Bool
  opens : Bool
  writes : Bool

/-- `write_business_ports_to_proc`, and if it has not failed. A write of nothing always succeeds. -/
def writeBusinessPortsToProc (env : WriteEnv) (state : NetAppState) (b : Business) :
    Business × Bool :=
  if env.reads then
    let ports := state.businessPorts
    if b.lastPorts = ports then (b, true)
    else
      let portString := Text.joinWith ',' (ports.map toString)
      if env.opens then
        if portString = "" then ({ b with lastPorts := ports }, true)
        else if env.writes then (⟨ports, portString⟩, true)
        else (b, false)
      else (b, false)
  else (b, false)

/-- The ports in a text that was written. -/
def kernelPorts (text : String) : List ℕ := (Text.split ',' text).filterMap parseU16

/-- A call with the table that it finds. -/
structure PortsCall where
  table : PortTable
  env : WriteEnv

/-- What the calls have done, with the table of the last one if it did not fail. -/
structure PortsRun where
  business : Business := {}
  current : Option PortTable := none

/-- A further call. -/
def PortsRun.call (s : PortsRun) (call : PortsCall) : PortsRun :=
  let result := writeBusinessPortsToProc call.env call.table.toNetAppState s.business
  ⟨result.1, if result.2 then some call.table else none⟩

/-- After some calls. -/
def afterWrites (calls : List PortsCall) : PortsRun := calls.foldl PortsRun.call {}

/-- The kernel has the ports that are remembered, and those of the table if the last call did not
fail. -/
structure PortsRun.Follows (s : PortsRun) : Prop where
  last : s.business.lastPorts = kernelPorts s.business.kernel
  current : ∀ table ∈ s.current, ∀ p,
    p ∈ kernelPorts s.business.kernel ↔ p ∈ table.portMap.map Prod.fst

/-- A call opens the file to write that there are no more ports. -/
def PortsCall.Empties (s : PortsRun) (call : PortsCall) : Prop :=
  call.env.reads = true ∧ call.env.opens = true ∧ call.table.portMap = [] ∧
    s.business.lastPorts ≠ []

/-- The ports that are written are those of the table. -/
theorem mem_businessPorts (s : NetAppState) (p : ℕ) :
    p ∈ s.businessPorts ↔ p ∈ s.portMap.map Prod.fst := by
  rw [NetAppState.businessPorts, List.mem_dedup, List.mem_insertionSort]

/-- No ports are written just for an empty table. -/
theorem businessPorts_eq_nil_iff (s : NetAppState) : s.businessPorts = [] ↔ s.portMap = [] := by
  rw [NetAppState.businessPorts, List.dedup_eq_nil]
  constructor
  · intro h
    have hlength := List.length_insertionSort (· ≤ ·) (s.portMap.map Prod.fst)
    rw [h, List.length_nil, List.length_map] at hlength
    exact List.eq_nil_of_length_eq_zero hlength.symm
  · intro h
    rw [h]
    rfl

/-- There are no ports in the empty text. -/
theorem kernelPorts_empty : kernelPorts "" = [] := by decide

/-- Ports are read from the text of the ports. -/
theorem kernelPorts_joinWith {ports : List ℕ} (h : ∀ p ∈ ports, p < UInt16.size) :
    kernelPorts (Text.joinWith ',' (ports.map toString)) = ports := by
  by_cases hne : ports = []
  · rw [hne]
    exact kernelPorts_empty
  · have hcomma : ∀ piece ∈ ports.map toString, ',' ∉ piece.toList := by
      intro piece hpiece
      obtain ⟨n, -, rfl⟩ := List.mem_map.mp hpiece
      exact Text.not_mem_toString (by decide) n
    have hread : ∀ p ∈ ports, (parseU16 ∘ toString) p = some p := fun p hp =>
      parseU16_toString (h p hp)
    rw [kernelPorts, Text.split_joinWith hcomma (by simpa using hne), List.filterMap_map,
      List.filterMap_congr hread, List.filterMap_some]

/-- Only the text of no ports is empty. -/
theorem joinWith_ports_eq_empty_iff {ports : List ℕ} (h : ∀ p ∈ ports, p < UInt16.size) :
    Text.joinWith ',' (ports.map toString) = "" ↔ ports = [] := by
  constructor
  · intro hempty
    rw [← kernelPorts_joinWith h, hempty, kernelPorts_empty]
  · rintro rfl
    rfl

/-- What is written are port numbers. -/
theorem PortTable.businessPorts_lt (table : PortTable) :
    ∀ p ∈ table.businessPorts, p < UInt16.size := by
  intro p hp
  obtain ⟨e, he, rfl⟩ := List.mem_map.mp ((mem_businessPorts _ p).mp hp)
  exact table.isPort e he

/-- What a call does: nothing if it fails or if the ports are those that it has written before;
else the ports are remembered, and the kernel gets them if there are some. -/
theorem writeBusinessPortsToProc_cases (env : WriteEnv) (table : PortTable) (b : Business) :
    (¬(env.reads = true ∧ env.opens = true ∧ table.portMap = []) ∧
      writeBusinessPortsToProc env table.toNetAppState b = (b, false)) ∨
    (b.lastPorts = table.businessPorts ∧
      writeBusinessPortsToProc env table.toNetAppState b = (b, true)) ∨
    (env.reads = true ∧ env.opens = true ∧ table.portMap = [] ∧ b.lastPorts ≠ [] ∧
      writeBusinessPortsToProc env table.toNetAppState b = (⟨[], b.kernel⟩, true)) ∨
    (table.portMap ≠ [] ∧ writeBusinessPortsToProc env table.toNetAppState b =
      (⟨table.businessPorts, Text.joinWith ',' (table.businessPorts.map toString)⟩, true)) := by
  have hempty := joinWith_ports_eq_empty_iff table.businessPorts_lt
  rw [businessPorts_eq_nil_iff] at hempty
  rw [writeBusinessPortsToProc]
  split
  · next hreads =>
    dsimp only
    split
    · next hlast => exact .inr (.inl ⟨hlast, rfl⟩)
    · next hlast =>
      split
      · next hopens =>
        split
        · next htext =>
          have hnil := (businessPorts_eq_nil_iff _).mpr (hempty.mp htext)
          rw [hnil] at hlast ⊢
          exact .inr (.inr (.inl ⟨hreads, hopens, hempty.mp htext, hlast, rfl⟩))
        · next htext =>
          have hne : table.portMap ≠ [] := fun h => htext (hempty.mpr h)
          split
          · exact .inr (.inr (.inr ⟨hne, rfl⟩))
          · exact .inl ⟨fun h => hne h.2.2, rfl⟩
      · next hopens => exact .inl ⟨fun h => hopens h.2.1, rfl⟩
  · next hreads => exact .inl ⟨fun h => hreads h.1, rfl⟩

/-- A call keeps the kernel up to date just if it does not have to write that there are no more
ports. -/
theorem follows_call_iff {s : PortsRun} (h : s.Follows) (call : PortsCall) :
    (s.call call).Follows ↔ ¬call.Empties s := by
  obtain ⟨hno, hcall⟩ | ⟨hlast, hcall⟩ | ⟨hreads, hopens, hnil, hlast, hcall⟩ | ⟨hne, hcall⟩ :=
    writeBusinessPortsToProc_cases call.env call.table s.business
  · refine iff_of_true ?_ fun hempties => hno ⟨hempties.1, hempties.2.1, hempties.2.2.1⟩
    rw [PortsRun.call, hcall]
    exact ⟨h.last, fun _ htable => absurd htable (Option.not_mem_none _)⟩
  · refine iff_of_true ?_ fun hempties => hempties.2.2.2 ?_
    · rw [PortsRun.call, hcall]
      refine ⟨h.last, fun table htable p => ?_⟩
      obtain rfl := Option.some.inj htable
      rw [← h.last, hlast, mem_businessPorts]
    · rw [hlast, businessPorts_eq_nil_iff]
      exact hempties.2.2.1
  · refine iff_of_false (fun hafter => hlast ?_) fun hno => hno ⟨hreads, hopens, hnil, hlast⟩
    have hkernel := hafter.last
    rw [PortsRun.call, hcall] at hkernel
    rw [h.last, ← hkernel]
  · refine iff_of_true ?_ fun hempties => hne hempties.2.2.1
    rw [PortsRun.call, hcall]
    have hread := kernelPorts_joinWith call.table.businessPorts_lt
    refine ⟨hread.symm, fun table htable p => ?_⟩
    obtain rfl := Option.some.inj htable
    rw [hread, mem_businessPorts]

/-- The kernel has no ports when nothing was written. -/
theorem follows_start : PortsRun.Follows {} :=
  ⟨kernelPorts_empty.symm, fun _ htable => absurd htable (Option.not_mem_none _)⟩

/-- All along a sequence of calls the kernel has the ports that are remembered, and those of the
table after a call that did not fail, just if no call has to write that there are no more ports. -/
theorem businessPorts_follow_iff (calls : List PortsCall) :
    (∀ seen, seen <+: calls → (afterWrites seen).Follows) ↔
      ∀ seen call, seen ++ [call] <+: calls → ¬call.Empties (afterWrites seen) := by
  have hstep (s : PortsRun) (call : PortsCall) (hs : s.Follows) :
      (s.call call).Follows ↔ ¬call.Empties s := follows_call_iff hs call
  exact Runs.System.forall_foldl_iff (f := PortsRun.call) hstep follows_start calls

/-- The table with a web server. -/
def webServer : NetAppState :=
  ⟨[(80, ⟨0, "tcp", "0.0.0.0", 80, "0.0.0.0", "0", "LISTEN", 1, "--"⟩)], []⟩

/-- The port of the web server is one. -/
theorem isPort_webServer : ∀ e ∈ webServer.portMap, e.1 < UInt16.size := by decide

/-- An empty table has no other keys than ports. -/
theorem isPort_nothing : ∀ e ∈ ({} : NetAppState).portMap, e.1 < UInt16.size := by decide

/-- A web server that is started and stopped again. -/
def webServerStops : List PortsCall :=
  [⟨⟨webServer, isPort_webServer⟩, ⟨true, true, true⟩⟩,
    ⟨⟨{}, isPort_nothing⟩, ⟨true, true, true⟩⟩]

/-- The kernel keeps the port of a server that has stopped, while none is remembered. -/
theorem port_of_stopped_server :
    (afterWrites webServerStops).business.lastPorts = [] ∧
      kernelPorts (afterWrites webServerStops).business.kernel = [80] ∧
      ¬(afterWrites webServerStops).Follows := by
  have hlast : (afterWrites webServerStops).business.lastPorts = [] := by decide +kernel
  have hkernel : kernelPorts (afterWrites webServerStops).business.kernel = [80] := by
    decide +kernel
  refine ⟨hlast, hkernel, fun h => ?_⟩
  have hsame := h.last
  rw [hlast, hkernel] at hsame
  exact absurd hsame (by decide)

end LinuxAgent.HostInfo
