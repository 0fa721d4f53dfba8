import LinuxAgent.Controller.Egui
import Mathlib.Data.List.Rotate

/-!
# The cycle mode

In cycle mode the controller is to send the agent around a pool of addresses. Its answers do so
from the second one on. The first one is made of the address that the agent has, so it never sends
the agent to another address of the pool.
-/

namespace LinuxAgent.Controller

/-- The data of an answer to `getIpJump`. -/
def Data.jumpData : Data → JumpData
  | .jump data => data
  | _ => emptyData

/-- Cycle mode with at least two different addresses, which have no prefix length. -/
structure CycleSettings.Wide (c : CycleSettings) : Prop where
  enabled : c.enabled = true
  length : 2 ≤ c.ipPool.length
  nodup : c.ipPool.Nodup
  bare : ∀ ip ∈ c.ipPool, ip ≠ "" ∧ '/' ∉ ip.toList ∧ ',' ∉ ip.toList

/-- The text of an address of the pool in an answer. -/
def CycleSettings.cidr (c : CycleSettings) (ip : String) : String :=
  ip ++ "/" ++ toString c.prefixLen

/-- An answer sends the agent to another address of the pool, as it is configured. -/
def CycleSettings.Sends (c : CycleSettings) (visit : String × JumpData) : Prop :=
  ∃ ip ∈ c.ipPool, visit.2.targetIp = c.cidr ip ∧ ip ≠ visit.1 ∧ visit.2.gateway = c.gateway ∧
    visit.2.activeTime = c.activeTime

/-- Answers one after the other that visit every address of the pool once. -/
def CycleSettings.GoAround (c : CycleSettings) (visits : List (String × JumpData)) : Prop :=
  ∀ j, j + c.ipPool.length ≤ visits.length →
    (((visits.drop j).take c.ipPool.length).map fun visit => visit.2.targetIp).Perm
      (c.ipPool.map c.cidr)

/-- The text before the first slash. -/
theorem bare_append {ip : String} (h : '/' ∉ ip.toList) (rest : String) :
    bare (ip ++ "/" ++ rest) = ip := by
  have hne : ∀ c ∈ ip.toList, decide (c ≠ '/') = true := by
    intro c hc
    rw [decide_eq_true_eq]
    rintro rfl
    exact h hc
  have hlist : (ip ++ "/" ++ rest).toList = ip.toList ++ '/' :: rest.toList := by simp
  rw [bare, hlist, List.takeWhile_append_of_pos hne, List.takeWhile_cons_of_neg (by decide),
    List.append_nil, String.ofList_toList]

/-- A text without a slash is bare. -/
theorem bare_of_not_mem {ip : String} (h : '/' ∉ ip.toList) : bare ip = ip := by
  have hall : ip.toList.takeWhile (· ≠ '/') = ip.toList := by
    refine List.takeWhile_eq_self_iff.mpr fun c hc => decide_eq_true ?_
    rintro rfl
    exact h hc
  rw [bare, hall, String.ofList_toList]

/-- The prefix length does not change the bare target. -/
theorem bare_targetIpCidr (inst : JumpInstruction) :
    bare inst.targetIpCidr = bare inst.targetIp := by
  rw [JumpInstruction.targetIpCidr]
  split
  · rfl
  · next hslash => rw [bare_append hslash, bare_of_not_mem hslash]

namespace Egui

/-- How the agent reports its address. -/
inductive Report
  | put (status : Value)
  | upload

/-- The request of a report. -/
def Report.request (report : Report) (ip : String) : Request :=
  match report with
  | .put status => .putIpJump [("status", status), ("agent_ip", .string ip)]
  | .upload => .uploadIp [("ip", .string ip)]

/-- The controller after an answer to `getIpJump` and the report of the address in it. -/
def InnerState.follow (s : InnerState) (report : Report) : InnerState :=
  let answer := s.routeRequest .getIpJump
  (answer.1.routeRequest (report.request (bare (Data.jumpData answer.2).targetIp))).1

/-- The answers to an agent that asks once for each report, each with the address that the agent
had before. -/
def InnerState.visits (s : InnerState) : List Report → List (String × JumpData)
  | [] => []
  | report :: reports =>
    (bare s.lastAgentIp, Data.jumpData (s.routeRequest .getIpJump).2) ::
      (s.follow report).visits reports

/-- The controller in cycle mode before it has an instruction. -/
structure InnerState.Cycling (s : InnerState) : Prop where
  wide : s.cycleStrategy.Wide
  current : s.currentInstruction = none
  queue : s.instructionQueue = []

/-- Without a current instruction the answer names the address of the agent or none. -/
theorem startCycle_targetIp (s : InnerState) :
    (Data.jumpData s.startCycle.2).targetIp = "" ∨
      bare (Data.jumpData s.startCycle.2).targetIp = bare s.lastAgentIp := by
  rw [InnerState.startCycle]
  dsimp only
  split
  · split
    all_goals
      dsimp only [Data.jumpData]
      split
      · exact .inr (bare_targetIpCidr _)
      · exact .inl rfl
  · exact .inl rfl

/-- The first answer does not send the agent to another address of the pool. -/
theorem not_sends_first {s : InnerState} (h : s.Cycling) :
    ¬s.cycleStrategy.Sends
      (bare s.lastAgentIp, Data.jumpData (s.routeRequest .getIpJump).2) := by
  have hanswer : (s.routeRequest .getIpJump).2 =
      ({ s with requestCount := s.requestCount + 1 } : InnerState).startCycle.2 := by
    simp only [InnerState.routeRequest, InnerState.getIpJump, h.current, h.wide.enabled, if_true]
  rintro ⟨ip, hip, htarget, hne, -⟩
  have hslash := (h.wide.bare ip hip).2.1
  rw [hanswer] at htarget
  rcases startCycle_targetIp { s with requestCount := s.requestCount + 1 } with hnone | hsame
  · rw [hnone] at htarget
    have hlist := congrArg String.toList htarget
    simp [CycleSettings.cidr] at hlist
  · rw [htarget, CycleSettings.cidr, bare_append hslash] at hsame
    exact hne hsame

/-- The agent is never sent around the pool from the first answer on. -/
theorem goes_around_iff {s : InnerState} (h : s.Cycling) (reports : List Report) :
    (∀ visit ∈ s.visits reports, s.cycleStrategy.Sends visit) ∧
        s.cycleStrategy.GoAround (s.visits reports) ↔ reports = [] := by
  constructor
  · rintro ⟨hsends, -⟩
    cases reports with
    | nil => rfl
    | cons report reports => exact absurd (hsends _ List.mem_cons_self) (not_sends_first h)
  · rintro rfl
    refine ⟨nofun, fun j hj => ?_⟩
    have hlength := h.wide.length
    rw [InnerState.visits, List.length_nil] at hj
    omega

/-- A controller in cycle mode with two addresses. -/
def twoAddresses : InnerState where
  lastAgentIp := "10.0.0.1"
  cycleStrategy := ⟨⟨true, ["10.0.0.1", "10.0.0.2"], "10.0.0.254", 1, 30, 2, 24⟩, 0⟩

/-- Two addresses make a cycle. -/
theorem cycling_twoAddresses : twoAddresses.Cycling where
  wide := ⟨rfl, by decide, by decide, by decide⟩
  current := rfl
  queue := rfl

/-- The first answer does not send the agent around two addresses. -/
theorem goes_around_two_addresses :
    ¬((∀ visit ∈ twoAddresses.visits [.upload], twoAddresses.cycleStrategy.Sends visit) ∧
      twoAddresses.cycleStrategy.GoAround (twoAddresses.visits [.upload])) :=
  (goes_around_iff cycling_twoAddresses [.upload]).not.mpr (List.cons_ne_nil _ _)

/-- The agent is at the first of two addresses and is sent to it. -/
theorem sent_to_own_address :
    ¬∀ s : InnerState, s.Cycling → ∀ reports : List Report,
      (∀ visit ∈ s.visits reports, s.cycleStrategy.Sends visit) ∧
        s.cycleStrategy.GoAround (s.visits reports) := by
  intro hall
  have hsends := (hall twoAddresses cycling_twoAddresses [.upload]).1
  exact not_sends_first cycling_twoAddresses (hsends _ List.mem_cons_self)

/-- The current instruction is the one for an address of the pool, by its index. -/
structure InnerState.At (s : InnerState) (c : CycleSettings) (i : ℕ) : Prop where
  settings : s.cycleStrategy.toCycleSettings = c
  current : s.currentInstruction = some (c.instruction (c.ipPool.getD i ""))
  queue : s.instructionQueue = []
  index : i < c.ipPool.length

variable {c : CycleSettings} {s : InnerState}

/-- After an address of the pool comes the next one. -/
theorem nextInstruction_of_lt (hc : c.Wide) {strategy : CycleStrategy}
    (hsettings : strategy.toCycleSettings = c) {i : ℕ} (hi : i < c.ipPool.length) :
    strategy.nextInstruction (c.ipPool.getD i "") =
      (⟨c, (i + 1) % c.ipPool.length⟩,
        c.instruction (c.ipPool.getD ((i + 1) % c.ipPool.length) "")) := by
  subst hsettings
  have hlength := hc.length
  have hget : strategy.ipPool.getD i "" = strategy.ipPool[i] := by
    rw [List.getD_eq_getElem?_getD, List.getElem?_eq_getElem hi, Option.getD_some]
  have hfind : strategy.ipPool.findIdx? (· = strategy.ipPool[i]) = some i := by
    refine List.findIdx?_eq_some_iff_getElem.mpr ⟨hi, decide_eq_true rfl, fun j hj heq => ?_⟩
    have hij := (hc.nodup.getElem_inj_iff).mp (of_decide_eq_true heq)
    omega
  rw [CycleStrategy.nextInstruction, if_neg (by omega), hget, hfind]
  rfl

/-- The first instruction is for some address of the pool. -/
theorem exists_nextInstruction (hc : c.Wide) {strategy : CycleStrategy}
    (hsettings : strategy.toCycleSettings = c) (ip : String) :
    ∃ i < c.ipPool.length, strategy.nextInstruction ip =
      (⟨c, i⟩, c.instruction (c.ipPool.getD i "")) := by
  subst hsettings
  have hlength := hc.length
  refine ⟨_, ?_, by rw [CycleStrategy.nextInstruction, if_neg (by omega)]⟩
  exact Nat.mod_lt _ (by omega)

/-- The addresses of the pool are not empty and have no slash. -/
theorem Wide.getD (hc : c.Wide) {i : ℕ} (hi : i < c.ipPool.length) :
    c.ipPool.getD i "" ≠ "" ∧ '/' ∉ (c.ipPool.getD i "").toList := by
  rw [List.getD_eq_getElem?_getD, List.getElem?_eq_getElem hi, Option.getD_some]
  obtain ⟨hne, hslash, -⟩ := hc.bare _ (List.getElem_mem hi)
  exact ⟨hne, hslash⟩

/-- A report changes nothing that the cycle needs. -/
theorem At.report {i : ℕ} (hs : s.At c i) (report : Report) (ip : String) :
    (s.routeRequest (report.request ip)).1.At c i := by
  cases report with
  | put status => exact ⟨hs.settings, hs.current, hs.queue, hs.index⟩
  | upload => exact ⟨hs.settings, hs.current, hs.queue, hs.index⟩

/-- After an instruction for an address of the pool comes the one for the next address. -/
theorem At.serve (hc : c.Wide) {i : ℕ} (hs : s.At c i) :
    (s.serve (c.instruction (c.ipPool.getD i ""))).1.At c ((i + 1) % c.ipPool.length) := by
  have hlength := hc.length
  have hnext : (i + 1) % c.ipPool.length < c.ipPool.length := Nat.mod_lt _ (by omega)
  have hbare : bare (c.instruction (c.ipPool.getD i "")).targetIpCidr = c.ipPool.getD i "" := by
    rw [bare_targetIpCidr]
    exact bare_of_not_mem (Wide.getD hc hs.index).2
  have hstep := nextInstruction_of_lt hc hs.settings hs.index
  have henabled : s.cycleStrategy.enabled = true := by rw [hs.settings, hc.enabled]
  have htarget : (c.instruction (c.ipPool.getD ((i + 1) % c.ipPool.length) "")).targetIp ≠ "" :=
    (Wide.getD hc hnext).1
  simp only [InnerState.serve, hs.queue, henabled, if_true, hbare, hstep, if_pos htarget]
  exact ⟨rfl, rfl, rfl, hnext⟩

/-- The answer is the current instruction, and the next one is for the next address. -/
theorem At.follow (hc : c.Wide) {i : ℕ} (hs : s.At c i) (report : Report) :
    (s.routeRequest .getIpJump).2 = .jump (c.instruction (c.ipPool.getD i "")).toJson ∧
      (s.follow report).At c ((i + 1) % c.ipPool.length) := by
  have hcount : ({ s with requestCount := s.requestCount + 1 } : InnerState).At c i :=
    ⟨hs.settings, hs.current, hs.queue, hs.index⟩
  have hanswer : s.routeRequest .getIpJump =
      ({ s with requestCount := s.requestCount + 1 } : InnerState).serve
        (c.instruction (c.ipPool.getD i "")) := by
    simp only [InnerState.routeRequest, InnerState.getIpJump, hs.current]
  rw [InnerState.follow, hanswer]
  exact ⟨rfl, At.report (At.serve hc hcount) report _⟩

/-- After the first answer the current instruction is for an address of the pool. -/
theorem Cycling.follow (h : s.Cycling) (report : Report) :
    ∃ i, (s.follow report).At s.cycleStrategy.toCycleSettings i := by
  have hc := h.wide
  obtain ⟨i, hi, hfirst⟩ := exists_nextInstruction hc rfl s.lastAgentIp
  have hlength := hc.length
  have hnext : (i + 1) % s.cycleStrategy.ipPool.length < s.cycleStrategy.ipPool.length :=
    Nat.mod_lt _ (by omega)
  have hstart : ({ s with requestCount := s.requestCount + 1 } : InnerState).startCycle.1.At
      s.cycleStrategy.toCycleSettings ((i + 1) % s.cycleStrategy.ipPool.length) := by
    have htarget := (Wide.getD hc hi).1
    have htarget' := (Wide.getD hc hnext).1
    have hsecond : CycleStrategy.nextInstruction ⟨s.cycleStrategy.toCycleSettings, i⟩
        (s.cycleStrategy.ipPool.getD i "") = _ :=
      @nextInstruction_of_lt _ hc ⟨s.cycleStrategy.toCycleSettings, i⟩ rfl i hi
    simp only [InnerState.startCycle, hfirst, CycleSettings.instruction, if_pos htarget, hsecond,
      if_pos htarget']
    exact ⟨rfl, rfl, h.queue, hnext⟩
  have hanswer : s.routeRequest .getIpJump =
      ({ s with requestCount := s.requestCount + 1 } : InnerState).startCycle := by
    simp only [InnerState.routeRequest, InnerState.getIpJump, h.current, hc.enabled, if_true]
  refine ⟨(i + 1) % s.cycleStrategy.ipPool.length, ?_⟩
  rw [InnerState.follow, hanswer]
  exact At.report hstart report _

/-- The answers are made of the addresses of the pool in their order. -/
theorem At.visits (hc : c.Wide) {i : ℕ} (hs : s.At c i) (reports : List Report) :
    (s.visits reports).map (fun visit => visit.2) =
      (List.range reports.length).map fun j =>
        (c.instruction (c.ipPool.getD ((i + j) % c.ipPool.length) "")).toJson := by
  induction reports generalizing s i with
  | nil => rfl
  | cons report reports ih =>
    obtain ⟨hanswer, hnext⟩ := At.follow hc hs report
    have hmod : (i + 0) % c.ipPool.length = i := Nat.mod_eq_of_lt hs.index
    rw [InnerState.visits, List.map_cons, ih hnext, hanswer, List.length_cons,
      List.range_succ_eq_map, List.map_cons, List.map_map, hmod]
    refine congrArg _ (List.map_congr_left fun j _ => ?_)
    rw [Nat.mod_add_mod, Nat.add_assoc, Nat.add_comm 1 j]
    rfl

/-- The text of an address of the pool in an answer. -/
theorem targetIp_toJson {ip : String} (h : '/' ∉ ip.toList) :
    (c.instruction ip).toJson.targetIp = c.cidr ip :=
  if_neg h

/-- As many answers as the pool has addresses name each of them once. -/
theorem perm_of_range (hc : c.Wide) (i : ℕ) :
    ((List.range c.ipPool.length).map fun j =>
      (c.instruction (c.ipPool.getD ((i + j) % c.ipPool.length) "")).toJson.targetIp).Perm
        (c.ipPool.map c.cidr) := by
  have hlength := hc.length
  have hrotate : ((List.range c.ipPool.length).map fun j =>
      (c.instruction (c.ipPool.getD ((i + j) % c.ipPool.length) "")).toJson.targetIp) =
        (c.ipPool.map c.cidr).rotate i := by
    refine List.ext_getElem (by simp) fun j hj _ => ?_
    have hmod : (i + j) % c.ipPool.length < c.ipPool.length := Nat.mod_lt _ (by omega)
    rw [List.getElem_map, List.getElem_range, targetIp_toJson (Wide.getD hc hmod).2,
      List.getElem_rotate, List.getElem_map, List.getD_eq_getElem?_getD,
      List.getElem?_eq_getElem hmod, Option.getD_some]
    simp only [List.length_map, Nat.add_comm i j]
  rw [hrotate]
  exact List.rotate_perm _ _

/-- A stretch of the numbers from zero on. -/
theorem take_drop_range {j n m : ℕ} (h : j + n ≤ m) :
    ((List.range m).drop j).take n = (List.range n).map (j + ·) := by
  refine List.ext_getElem (by simp; omega) fun k _ _ => ?_
  rw [List.getElem_take, List.getElem_drop, List.getElem_range, List.getElem_map,
    List.getElem_range]

/-- From the second answer on the agent is sent around the pool. -/
theorem goAround_tail (h : s.Cycling) (reports : List Report) :
    s.cycleStrategy.GoAround (s.visits reports).tail := by
  intro j hj
  have hc := h.wide
  have hlength := hc.length
  cases reports with
  | nil =>
    rw [InnerState.visits, List.tail_nil, List.length_nil] at hj
    omega
  | cons report reports =>
    obtain ⟨i, hat⟩ := Cycling.follow h report
    have hvisits := congrArg (List.map JumpData.targetIp) (At.visits hc hat reports)
    have hcount := congrArg List.length (At.visits hc hat reports)
    rw [List.map_map, List.map_map] at hvisits
    rw [List.length_map, List.length_map, List.length_range] at hcount
    rw [InnerState.visits, List.tail_cons] at hj ⊢
    have htargets : (((s.follow report).visits reports).map fun visit => visit.2.targetIp) = _ :=
      hvisits
    have hperm := perm_of_range hc (i + j)
    simp only [Nat.add_assoc] at hperm
    rw [List.map_take, List.map_drop, htargets, ← List.map_drop, ← List.map_take,
      take_drop_range (by omega), List.map_map]
    exact hperm

end Egui

end LinuxAgent.Controller
