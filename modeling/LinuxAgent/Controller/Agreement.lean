import LinuxAgent.Controller.Cycle
import LinuxAgent.Controller.Qt

/-!
# The two controllers side by side

Both controllers are compared with one abstract controller, which has only what an agent or a user
can tell from outside. The one with the egui window keeps up with it in its state, but makes the
first answer of the cycle mode of the address of the agent. The one with the Qt window keeps up with
it as long as the number of jumps is one of the type `int`.
-/

namespace LinuxAgent.Controller

/-- What the two controllers are to agree on. -/
structure View where
  currentInstruction : Option JumpInstruction
  instructionQueue : List JumpInstruction
  ipJumpTaskPending : Bool
  settings : CycleSettings
  currentIndex : ℤ
  lastAgentIp : String
  totalJumpsSent : ℤ
  deriving DecidableEq

/-- Where the address after the one of the agent is in the pool. For an agent with another address
it is the one after the last one that was sent. -/
def CycleSettings.indexAfter (c : CycleSettings) (last : ℤ) (ip : String) : ℤ :=
  ((match c.ipPool.findIdx? (· = ip) with
    | some i => (i : ℤ)
    | none => last) + 1) % c.ipPool.length

/-- The address after the one of the agent. -/
def CycleSettings.addressAfter (c : CycleSettings) (last : ℤ) (ip : String) : String :=
  if c.ipPool.length < 2 then "" else c.ipPool.getD (c.indexAfter last ip).toNat ""

/-- The instruction for the address after the one of the agent, if there is any. -/
def View.next (v : View) (ip : String) : View × Option JumpInstruction :=
  let address := v.settings.addressAfter v.currentIndex ip
  (if v.settings.ipPool.length < 2 then v
    else { v with currentIndex := v.settings.indexAfter v.currentIndex ip },
    if address = "" then none else some (v.settings.instruction address))

/-- An instruction is queued. -/
def View.queue (v : View) (inst : JumpInstruction) : View :=
  match v.currentInstruction, v.instructionQueue with
  | some _, queue =>
    { v with instructionQueue := queue ++ [inst], ipJumpTaskPending := true }
  | none, [] => { v with currentInstruction := some inst, ipJumpTaskPending := true }
  | none, first :: rest =>
    { v with
      currentInstruction := some first
      instructionQueue := rest ++ [inst]
      ipJumpTaskPending := true }

/-- The next `getIpJump` makes an instruction of the pool. -/
def View.Starts (v : View) : Prop :=
  v.currentInstruction = none ∧ v.settings.enabled = true ∧
    v.settings.addressAfter v.currentIndex v.lastAgentIp ≠ ""

instance (v : View) : Decidable v.Starts := inferInstanceAs (Decidable (_ ∧ _ ∧ _))

/-- The next `getIpJump` is answered with an instruction. -/
def View.Sends (v : View) : Prop := v.currentInstruction.isSome = true ∨ v.Starts

instance (v : View) : Decidable v.Sends := inferInstanceAs (Decidable (_ ∨ _))

/-- What `getIpJump` does, but for the number of jumps. -/
def View.advance (v : View) : View × JumpData :=
  match v.currentInstruction, v.instructionQueue with
  | some inst, queued :: rest =>
    ({ v with
      currentInstruction := some queued
      instructionQueue := rest
      ipJumpTaskPending := true }, inst.toJson)
  | some inst, [] =>
    if v.settings.enabled then
      let (v, next) := v.next (bare inst.targetIp)
      ({ v with currentInstruction := next, ipJumpTaskPending := next.isSome }, inst.toJson)
    else ({ v with currentInstruction := none, ipJumpTaskPending := false }, inst.toJson)
  | none, _ =>
    if v.settings.enabled then
      match v.next v.lastAgentIp with
      | (v, some inst) =>
        match v.next inst.targetIp with
        | (v, some next) =>
          ({ v with currentInstruction := some next, ipJumpTaskPending := true }, inst.toJson)
        | (v, none) => (v, inst.toJson)
      | (v, none) => (v, emptyData)
    else (v, emptyData)

/-- What `getIpJump` does. -/
def View.getIpJump (v : View) : View × JumpData :=
  ({ v.advance.1 with
    totalJumpsSent := if v.Sends then v.totalJumpsSent + 1 else v.totalJumpsSent }, v.advance.2)

/-- An answer that is made of the address of the agent happens to be the one for the address of
the pool. -/
def View.Coincides (v : View) : Prop :=
  v.settings.gateway = "" ∧ v.settings.mode = 0 ∧ v.settings.activeTime = 0 ∧
    v.settings.agingTime = 0 ∧ v.lastAgentIp ≠ "" ∧
    ({ Egui.JumpInstruction.default with targetIp := v.lastAgentIp }).targetIpCidr =
      (v.settings.instruction (v.settings.addressAfter v.currentIndex v.lastAgentIp)).targetIpCidr

/-- What the controller with the egui window shows. -/
def Egui.InnerState.shown (s : Egui.InnerState) : View where
  currentInstruction := s.currentInstruction
  instructionQueue := s.instructionQueue
  ipJumpTaskPending := s.ipJumpTaskPending
  settings := s.cycleStrategy.toCycleSettings
  currentIndex := s.cycleStrategy.currentIndex
  lastAgentIp := s.lastAgentIp
  totalJumpsSent := s.totalJumpsSent

/-- What the controller with the Qt window shows. -/
def Qt.MockServerState.shown (s : Qt.MockServerState) : View where
  currentInstruction := if s.hasCurrentInstruction then some s.currentInstruction else none
  instructionQueue := s.instructionQueue
  ipJumpTaskPending := s.ipJumpTaskPending
  settings := s.cycleStrategy.toCycleSettings
  currentIndex := s.cycleStrategy.currentIndex
  lastAgentIp := s.lastAgentIp
  totalJumpsSent := s.totalJumpsSent

/-- An instruction without a target is none. -/
def JumpInstruction.asOption (inst : JumpInstruction) : Option JumpInstruction :=
  if inst.targetIp = "" then none else some inst

/-- An instruction without a target is none. -/
theorem JumpInstruction.asOption_eq_none {i : JumpInstruction} (h : i.targetIp = "") :
    i.asOption = none :=
  if_pos h

/-- An instruction with a target is one. -/
theorem JumpInstruction.asOption_eq_some {i : JumpInstruction} (h : i.targetIp ≠ "") :
    i.asOption = some i :=
  if_neg h

/-- What the cycle of the egui controller does, in the common terms. -/
theorem Egui.CycleStrategy.nextInstruction_shown (c : Egui.CycleStrategy) (ip : String) :
    (c.nextInstruction ip).1.toCycleSettings = c.toCycleSettings ∧
      ((c.nextInstruction ip).1.currentIndex : ℤ) =
        (if c.ipPool.length < 2 then (c.currentIndex : ℤ) else c.indexAfter c.currentIndex ip) ∧
      (c.nextInstruction ip).2.asOption =
        (c.instruction (c.addressAfter c.currentIndex ip)).asOption := by
  rw [Egui.CycleStrategy.nextInstruction, CycleSettings.addressAfter]
  by_cases hlength : c.ipPool.length < 2
  · simp only [if_pos hlength]
    exact ⟨trivial, trivial, rfl⟩
  · have hindex : (((c.ipPool.findIdx? (· = ip)).getD c.currentIndex + 1) % c.ipPool.length : ℕ) =
        c.indexAfter c.currentIndex ip := by
      rw [CycleSettings.indexAfter]
      cases c.ipPool.findIdx? (· = ip) with
      | none => simp
      | some i => simp
    simp only [if_neg hlength, ← hindex, Int.toNat_natCast]
    exact ⟨trivial, trivial, trivial⟩

/-- What the cycle of the Qt controller does, in the common terms. -/
theorem Qt.CycleStrategy.nextInstruction_shown {c : Qt.CycleStrategy} (h : 0 ≤ c.currentIndex)
    (ip : String) :
    (c.nextInstruction ip).1.toCycleSettings = c.toCycleSettings ∧
      (c.nextInstruction ip).1.currentIndex =
        (if c.ipPool.length < 2 then c.currentIndex else c.indexAfter c.currentIndex ip) ∧
      (c.nextInstruction ip).2.asOption =
        (c.instruction (c.addressAfter c.currentIndex ip)).asOption := by
  rw [Qt.CycleStrategy.nextInstruction, CycleSettings.addressAfter]
  by_cases hlength : c.ipPool.length < 2
  · simp only [if_pos hlength]
    exact ⟨trivial, trivial, rfl⟩
  · have hindex : Int.tmod ((if Qt.indexOf c.ipPool ip < 0 then c.currentIndex
        else Qt.indexOf c.ipPool ip) + 1) c.ipPool.length = c.indexAfter c.currentIndex ip := by
      rw [CycleSettings.indexAfter, Qt.indexOf]
      cases c.ipPool.findIdx? (· = ip) with
      | none => exact Int.tmod_eq_emod_of_nonneg (by omega)
      | some i =>
        simp only [if_neg (Int.not_lt.mpr (Int.natCast_nonneg i))]
        exact Int.tmod_eq_emod_of_nonneg (by omega)
    simp only [if_neg hlength, hindex]
    exact ⟨trivial, trivial, trivial⟩

/-- The next address of the common view. -/
theorem View.next_eq (v : View) (ip : String) :
    v.next ip =
      ({ v with
        currentIndex :=
          if v.settings.ipPool.length < 2 then v.currentIndex
          else v.settings.indexAfter v.currentIndex ip },
        (v.settings.instruction (v.settings.addressAfter v.currentIndex ip)).asOption) := by
  rw [View.next]
  split
  · rfl
  · rfl

/-- The egui controller takes the next address of the common view. -/
theorem Egui.InnerState.shown_next (s : Egui.InnerState) (ip : String) :
    s.shown.next ip =
      (({ s with cycleStrategy := (s.cycleStrategy.nextInstruction ip).1 } : InnerState).shown,
        (s.cycleStrategy.nextInstruction ip).2.asOption) := by
  obtain ⟨hsettings, hindex, hnext⟩ := s.cycleStrategy.nextInstruction_shown ip
  rw [View.next_eq, hnext]
  simp only [Egui.InnerState.shown, hsettings, hindex]
  rfl

/-- The Qt controller takes the next address of the common view. -/
theorem Qt.MockServerState.shown_next {s : Qt.MockServerState}
    (h : 0 ≤ s.cycleStrategy.currentIndex) (ip : String) :
    s.shown.next ip =
      (({ s with cycleStrategy := (s.cycleStrategy.nextInstruction ip).1 } : MockServerState).shown,
        (s.cycleStrategy.nextInstruction ip).2.asOption) := by
  obtain ⟨hsettings, hindex, hnext⟩ := Qt.CycleStrategy.nextInstruction_shown h ip
  rw [View.next_eq, hnext]
  simp only [Qt.MockServerState.shown, hsettings, hindex]
  rfl

/-- The next `getIpJump` makes an instruction of the pool if there is one. -/
theorem View.starts_iff {v : View} (hcurrent : v.currentInstruction = none)
    (henabled : v.settings.enabled = true) :
    v.Starts ↔ ((v.next v.lastAgentIp).2.isSome = true) := by
  rw [View.Starts, View.next]
  dsimp only
  by_cases haddress : v.settings.addressAfter v.currentIndex v.lastAgentIp = ""
  · simp [haddress]
  · simp [haddress, hcurrent, henabled]

/-- Without a current instruction a jump is sent if one is made of the pool. -/
theorem View.sends_iff {v : View} (hcurrent : v.currentInstruction = none) :
    v.Sends ↔ v.Starts := by
  rw [View.Sends, hcurrent]
  exact or_iff_right nofun

/-- Outside the cycle mode nothing happens without a current instruction. -/
theorem View.advance_of_idle {v : View} (hcurrent : v.currentInstruction = none)
    (henabled : ¬v.settings.enabled = true) : v.advance = (v, emptyData) := by
  simp only [View.advance, hcurrent, if_neg henabled]

/-- The answer in cycle mode without a current instruction. -/
theorem View.getIpJump_of_none {v : View} (hcurrent : v.currentInstruction = none)
    (henabled : v.settings.enabled = true) :
    v.getIpJump.2 =
      if v.Starts then
        (v.settings.instruction (v.settings.addressAfter v.currentIndex v.lastAgentIp)).toJson
      else emptyData := by
  rw [View.getIpJump, View.advance]
  simp only [hcurrent, henabled, if_true]
  rw [View.next_eq]
  by_cases haddress : v.settings.addressAfter v.currentIndex v.lastAgentIp ≠ ""
  · have hoption := JumpInstruction.asOption_eq_some
      (i := v.settings.instruction (v.settings.addressAfter v.currentIndex v.lastAgentIp)) haddress
    have hstarts : v.Starts := ⟨hcurrent, henabled, haddress⟩
    rw [hoption, if_pos hstarts]
    dsimp only
    split
    · rfl
    · rfl
  · have hoption := JumpInstruction.asOption_eq_none
      (i := v.settings.instruction (v.settings.addressAfter v.currentIndex v.lastAgentIp))
      (not_not.mp haddress)
    have hstarts : ¬v.Starts := fun h => haddress h.2.2
    rw [hoption, if_neg hstarts]

/-- An address with a prefix length is not empty. -/
theorem JumpInstruction.targetIpCidr_ne {i : JumpInstruction} (h : i.targetIp ≠ "") :
    i.targetIpCidr ≠ "" := by
  rw [JumpInstruction.targetIpCidr]
  split
  · exact h
  · intro hempty
    have hlist := congrArg String.toList hempty
    simp at hlist

/-- Where an answer that is made of the address of the agent is right. -/
theorem View.coincides_iff {v : View} (h : v.Starts) :
    (if v.lastAgentIp ≠ "" then
        ({ Egui.JumpInstruction.default with targetIp := v.lastAgentIp }).toJson
      else emptyData) =
        (v.settings.instruction
          (v.settings.addressAfter v.currentIndex v.lastAgentIp)).toJson ↔ v.Coincides := by
  rw [View.Coincides]
  by_cases hlast : v.lastAgentIp ≠ ""
  · rw [if_pos hlast, JumpInstruction.toJson, JumpInstruction.toJson, JumpData.mk.injEq]
    constructor
    · rintro ⟨-, htarget, hgateway, hmode, hactive, haging⟩
      exact ⟨hgateway.symm, hmode.symm, hactive.symm, haging.symm, hlast, htarget⟩
    · rintro ⟨hgateway, hmode, hactive, haging, -, htarget⟩
      exact ⟨rfl, htarget, hgateway.symm, hmode.symm, hactive.symm, haging.symm⟩
  · rw [if_neg hlast]
    refine iff_of_false (fun hdata => ?_) fun hsame => hlast hsame.2.2.2.2.1
    exact JumpInstruction.targetIpCidr_ne h.2.2 (congrArg JumpData.targetIp hdata).symm

namespace Egui

/-- Serving an instruction is what the common view does. -/
theorem shown_serve (s : InnerState) {inst : JumpInstruction}
    (h : s.currentInstruction = some inst) :
    (s.serve inst).1.shown = s.shown.getIpJump.1 ∧ s.shown.getIpJump.2 = inst.toJson := by
  have hshown : s.shown.currentInstruction = some inst := h
  have hsends : s.shown.Sends := .inl (by rw [hshown]; rfl)
  rw [View.getIpJump, if_pos hsends]
  cases hqueue : s.instructionQueue with
  | cons queued rest =>
    simp only [View.advance, InnerState.shown, InnerState.serve, h, hqueue]
    exact ⟨rfl, trivial⟩
  | nil =>
    have hqueue' : s.shown.instructionQueue = [] := hqueue
    simp only [View.advance, hshown, hqueue', InnerState.shown_next]
    rw [InnerState.serve]
    simp only [hqueue, bare_targetIpCidr]
    by_cases henabled : s.cycleStrategy.enabled = true
    · have henabled' : s.shown.settings.enabled = true := henabled
      simp only [henabled, henabled', if_true]
      by_cases htarget : (s.cycleStrategy.nextInstruction (bare inst.targetIp)).2.targetIp ≠ ""
      · simp only [if_pos htarget, JumpInstruction.asOption_eq_some htarget]
        exact ⟨rfl, trivial⟩
      · simp only [if_neg htarget, JumpInstruction.asOption_eq_none (not_not.mp htarget)]
        exact ⟨rfl, trivial⟩
    · have henabled' : ¬s.shown.settings.enabled = true := henabled
      simp only [if_neg henabled, if_neg henabled']
      exact ⟨rfl, trivial⟩

/-- Starting the cycle is what the common view does, but for the answer. -/
theorem shown_startCycle (s : InnerState) (hcurrent : s.currentInstruction = none)
    (henabled : s.cycleStrategy.enabled = true) :
    s.startCycle.1.shown = s.shown.getIpJump.1 := by
  have hshown : s.shown.currentInstruction = none := hcurrent
  have henabled' : s.shown.settings.enabled = true := henabled
  have hlast : s.shown.lastAgentIp = s.lastAgentIp := rfl
  have hsends : s.shown.Sends ↔ (s.shown.next s.lastAgentIp).2.isSome = true :=
    (View.sends_iff hshown).trans (View.starts_iff hshown henabled')
  rw [View.getIpJump, InnerState.startCycle]
  simp only [hsends, View.advance, hshown, henabled', if_true, hlast, InnerState.shown_next]
  by_cases hfirst : (s.cycleStrategy.nextInstruction s.lastAgentIp).2.targetIp ≠ ""
  · simp only [if_pos hfirst, JumpInstruction.asOption_eq_some hfirst, InnerState.shown_next]
    by_cases hsecond : ((s.cycleStrategy.nextInstruction s.lastAgentIp).1.nextInstruction
        (s.cycleStrategy.nextInstruction s.lastAgentIp).2.targetIp).2.targetIp ≠ ""
    · simp only [if_pos hsecond, JumpInstruction.asOption_eq_some hsecond]
      rfl
    · simp only [if_neg hsecond, JumpInstruction.asOption_eq_none (not_not.mp hsecond)]
      rfl
  · simp only [if_neg hfirst, JumpInstruction.asOption_eq_none (not_not.mp hfirst)]
    rfl

/-- The answer in cycle mode without a current instruction. -/
theorem startCycle_answer (s : InnerState) (hcurrent : s.currentInstruction = none)
    (henabled : s.cycleStrategy.enabled = true) :
    s.startCycle.2 = .jump s.shown.getIpJump.2 ↔ (s.shown.Starts → s.shown.Coincides) := by
  have hshown : s.shown.currentInstruction = none := hcurrent
  have henabled' : s.shown.settings.enabled = true := henabled
  have hstarts := View.starts_iff hshown henabled'
  have hlast : s.shown.lastAgentIp = s.lastAgentIp := rfl
  rw [hlast, InnerState.shown_next] at hstarts
  rw [View.getIpJump_of_none hshown henabled', InnerState.startCycle]
  by_cases hfirst : (s.cycleStrategy.nextInstruction s.lastAgentIp).2.targetIp ≠ ""
  · rw [JumpInstruction.asOption_eq_some hfirst] at hstarts
    have hstarts := hstarts.mpr rfl
    rw [← View.coincides_iff hstarts, if_pos hstarts]
    simp only [if_pos hfirst, Data.jump.injEq, hstarts, true_imp_iff]
    split
    · rfl
    · rfl
  · rw [JumpInstruction.asOption_eq_none (not_not.mp hfirst)] at hstarts
    have hstarts : ¬s.shown.Starts := hstarts.not.mpr Bool.false_ne_true
    simp only [if_neg hfirst, if_neg hstarts]
    exact iff_of_true trivial fun h => absurd h hstarts

/-- The egui controller does what the common view does, but for the first answer of a cycle. -/
theorem getIpJump_shown (s : InnerState) :
    s.getIpJump.1.shown = s.shown.getIpJump.1 ∧
      (s.getIpJump.2 = .jump s.shown.getIpJump.2 ↔ (s.shown.Starts → s.shown.Coincides)) := by
  rw [InnerState.getIpJump]
  cases hcurrent : s.currentInstruction with
  | some inst =>
    have hstarts : ¬s.shown.Starts := fun h => Option.some_ne_none _ (hcurrent.symm.trans h.1)
    obtain ⟨hserve, hanswer⟩ := shown_serve s hcurrent
    refine ⟨hserve, ?_⟩
    rw [hanswer]
    exact iff_of_true rfl fun h => absurd h hstarts
  | none =>
    by_cases henabled : s.cycleStrategy.enabled = true
    · simp only [if_pos henabled]
      exact ⟨shown_startCycle s hcurrent henabled, startCycle_answer s hcurrent henabled⟩
    · have hstarts : ¬s.shown.Starts := fun h => henabled h.2.1
      have hsends := (View.sends_iff hcurrent).not.mpr hstarts
      have hadvance : s.shown.advance = (s.shown, emptyData) :=
        View.advance_of_idle hcurrent henabled
      simp only [if_neg henabled, View.getIpJump, hadvance, if_neg hsends]
      exact ⟨trivial, iff_of_true trivial fun h => absurd h hstarts⟩

end Egui

namespace Qt

/-- The abstract controller with the number of jumps as an `int`. -/
def wrapJumps (v : View) : View :=
  { v.getIpJump.1 with
    totalJumpsSent := if v.Sends then wrap (v.totalJumpsSent + 1) else v.totalJumpsSent }

variable {s : MockServerState}

/-- Serving an instruction is what the common view does, with a counter that wraps around. -/
theorem shown_serve (h : 0 ≤ s.cycleStrategy.currentIndex)
    (hcurrent : s.hasCurrentInstruction = true) :
    s.serve.1.shown = wrapJumps s.shown ∧ s.serve.2 = .jump s.shown.getIpJump.2 := by
  have hshown : s.shown.currentInstruction = some s.currentInstruction := if_pos hcurrent
  have hsends : s.shown.Sends := .inl (by rw [hshown]; rfl)
  rw [wrapJumps, View.getIpJump, if_pos hsends, if_pos hsends]
  cases hqueue : s.instructionQueue with
  | cons queued rest =>
    have hqueue' : s.shown.instructionQueue = queued :: rest := hqueue
    simp only [View.advance, hshown, hqueue', MockServerState.serve, hqueue]
    exact ⟨rfl, trivial⟩
  | nil =>
    have hqueue' : s.shown.instructionQueue = [] := hqueue
    have hbare : (if '/' ∈ s.currentInstruction.targetIp.toList then
        bare s.currentInstruction.targetIp else s.currentInstruction.targetIp) =
          bare s.currentInstruction.targetIp := by
      split
      · rfl
      · next hslash => rw [bare_of_not_mem hslash]
    simp only [View.advance, hshown, hqueue', MockServerState.shown_next h]
    rw [MockServerState.serve]
    simp only [hqueue, hbare]
    by_cases henabled : s.cycleStrategy.enabled = true
    · have henabled' : s.shown.settings.enabled = true := henabled
      simp only [henabled, henabled', if_true]
      by_cases htarget : (s.cycleStrategy.nextInstruction
          (bare s.currentInstruction.targetIp)).2.targetIp ≠ ""
      · simp only [if_pos htarget, JumpInstruction.asOption_eq_some htarget]
        exact ⟨rfl, trivial⟩
      · simp only [if_neg htarget, JumpInstruction.asOption_eq_none (not_not.mp htarget)]
        exact ⟨rfl, trivial⟩
    · have henabled' : ¬s.shown.settings.enabled = true := henabled
      simp only [if_neg henabled, if_neg henabled']
      exact ⟨rfl, trivial⟩

/-- The index is never negative. -/
theorem nextInstruction_currentIndex {c : CycleStrategy} (h : 0 ≤ c.currentIndex) (ip : String) :
    0 ≤ (c.nextInstruction ip).1.currentIndex := by
  rw [(CycleStrategy.nextInstruction_shown h ip).2.1]
  split
  · exact h
  · exact Int.emod_nonneg _ (by omega)

/-- Starting the cycle is what the common view does. -/
theorem shown_startCycle (h : 0 ≤ s.cycleStrategy.currentIndex)
    (hcurrent : s.hasCurrentInstruction = false) (henabled : s.cycleStrategy.enabled = true) :
    s.startCycle.1.shown = wrapJumps s.shown ∧ s.startCycle.2 = .jump s.shown.getIpJump.2 := by
  have hshown : s.shown.currentInstruction = none := if_neg (by simp [hcurrent])
  have henabled' : s.shown.settings.enabled = true := henabled
  have hlast : s.shown.lastAgentIp = s.lastAgentIp := rfl
  have hindex := nextInstruction_currentIndex h s.lastAgentIp
  have hsends : s.shown.Sends ↔ (s.shown.next s.lastAgentIp).2.isSome = true :=
    (View.sends_iff hshown).trans (View.starts_iff hshown henabled')
  rw [wrapJumps, View.getIpJump, MockServerState.startCycle]
  simp only [hsends, View.advance, hshown, henabled', if_true, hlast, MockServerState.shown_next h]
  by_cases hfirst : (s.cycleStrategy.nextInstruction s.lastAgentIp).2.targetIp ≠ ""
  · simp only [if_pos hfirst, JumpInstruction.asOption_eq_some hfirst]
    rw [MockServerState.shown_next hindex]
    by_cases hsecond : ((s.cycleStrategy.nextInstruction s.lastAgentIp).1.nextInstruction
        (s.cycleStrategy.nextInstruction s.lastAgentIp).2.targetIp).2.targetIp ≠ ""
    · simp only [if_pos hsecond, JumpInstruction.asOption_eq_some hsecond]
      exact ⟨rfl, trivial⟩
    · simp only [if_neg hsecond, JumpInstruction.asOption_eq_none (not_not.mp hsecond)]
      exact ⟨rfl, trivial⟩
  · simp only [if_neg hfirst, JumpInstruction.asOption_eq_none (not_not.mp hfirst)]
    exact ⟨rfl, trivial⟩

/-- The Qt controller does what the common view does, with a counter that wraps around. -/
theorem handleGetIpJump_shown (h : 0 ≤ s.cycleStrategy.currentIndex) :
    s.handleGetIpJump.1.shown = wrapJumps s.shown ∧
      s.handleGetIpJump.2 = .jump s.shown.getIpJump.2 := by
  rw [MockServerState.handleGetIpJump]
  cases hcurrent : s.hasCurrentInstruction with
  | true =>
    rw [if_pos rfl]
    exact shown_serve h hcurrent
  | false =>
    rw [if_neg Bool.false_ne_true]
    by_cases henabled : s.cycleStrategy.enabled = true
    · rw [if_pos henabled]
      exact shown_startCycle h hcurrent henabled
    · have hshown : s.shown.currentInstruction = none := if_neg (by simp [hcurrent])
      have hstarts : ¬s.shown.Starts := fun h => henabled h.2.1
      have hsends := (View.sends_iff hshown).not.mpr hstarts
      have hadvance : s.shown.advance = (s.shown, emptyData) := View.advance_of_idle hshown henabled
      simp only [if_neg henabled, wrapJumps, View.getIpJump, hadvance, if_neg hsends]
      exact ⟨trivial, trivial⟩

end Qt

/-- The comma-separated addresses of a text have no blanks around them. -/
def Tidy (ips : String) : Prop := ∀ ip ∈ Text.split ',' ips, Text.trim ip = ip

/-- A request with such addresses. -/
def Request.Tidy : Request → Prop
  | .auth body | .uploadIp body => Controller.Tidy (body.text "ip")
  | .putIpJump body => Controller.Tidy (body.text "agent_ip")
  | _ => True

/-- What is done to both controllers. -/
inductive Operation
  | queue (inst : JumpInstruction)
  | clear
  | request (r : Request) (tidy : r.Tidy)

/-- Both controllers, and their answers so far. -/
structure Both where
  egui : Egui.InnerState
  qt : Qt.MockServerState
  answers : List (Data × Data) := []

/-- Both controllers when they are started with the same settings. -/
def Both.start (c : CycleSettings) : Both where
  egui := { cycleStrategy := ⟨c, 0⟩ }
  qt := { cycleStrategy := ⟨c, 0⟩ }

/-- One operation. -/
def Both.act (b : Both) : Operation → Both
  | .queue inst =>
    { b with egui := b.egui.doQueueJump inst, qt := b.qt.queueInstruction inst }
  | .clear => { b with egui := b.egui.clearQueue, qt := b.qt.clearQueue }
  | .request r _ =>
    { egui := (b.egui.routeRequest r).1
      qt := (b.qt.handleRequest r).1
      answers := b.answers ++ [((b.egui.routeRequest r).2, (b.qt.handleRequest r).2)] }

/-- Both controllers after some operations. -/
def Both.run (b : Both) (ops : List Operation) : Both := ops.foldl Both.act b

/-- The runs of both controllers. -/
def bothSystem (c : CycleSettings) : Runs.System Both Operation where
  init b := b = .start c
  step b op := some (b.act op)

/-- The controllers agree and have always given the same answers. -/
def Both.Same (b : Both) : Prop :=
  b.egui.shown = b.qt.shown ∧ ∀ answer ∈ b.answers, answer.1 = answer.2

/-- The condition of an operation. An instruction that is queued has a target. `getIpJump` does not
come without a current instruction in cycle mode, with a next address in the pool, unless the answer
that is made of the address of the agent happens to be right; and if it sends a jump, the number of
jumps stays one of the type `int`. -/
def Both.Fine (b : Both) : Operation → Prop
  | .queue inst => inst.targetIp ≠ ""
  | .request .getIpJump _ =>
    (b.egui.shown.Starts → b.egui.shown.Coincides) ∧
      (b.egui.shown.Sends → b.egui.totalJumpsSent < 2147483647)
  | _ => True

/-- The egui controller queues an instruction with a target like the common view. -/
theorem Egui.shown_doQueueJump (s : Egui.InnerState) {inst : JumpInstruction}
    (h : inst.targetIp ≠ "") : (s.doQueueJump inst).shown = s.shown.queue inst := by
  rw [Egui.InnerState.doQueueJump, if_neg h]
  rcases s with ⟨_, _, _, _, _, _, _, queue, current, _, _⟩
  cases current with
  | some current => rfl
  | none =>
    cases queue with
    | nil => rfl
    | cons first rest => rfl

/-- The Qt controller queues an instruction like the common view. -/
theorem Qt.shown_queueInstruction (s : Qt.MockServerState) (inst : JumpInstruction) :
    (s.queueInstruction inst).shown = s.shown.queue inst := by
  rcases s with ⟨queue, _, has, _, _, _, _, _, _, _, _, _⟩
  cases has with
  | true => rfl
  | false =>
    cases queue with
    | nil => rfl
    | cons first rest => rfl

/-- Queueing an instruction changes what is shown. -/
theorem View.queue_ne (v : View) (inst : JumpInstruction) : v.queue inst ≠ v := by
  rcases v with ⟨current, queue, _, _, _, _, _⟩
  intro h
  cases current with
  | some current =>
    have hqueue : queue ++ [inst] = queue := congrArg View.instructionQueue h
    simp at hqueue
  | none =>
    cases queue with
    | nil => exact nomatch congrArg View.currentInstruction h
    | cons first rest => exact nomatch congrArg View.currentInstruction h

/-- The blanks around an address do not matter where there are none. -/
theorem firstIp_of_tidy {ips : String} (h : Tidy ips) (old : String) :
    Qt.firstIp ips old = firstIp ips old := by
  rw [Qt.firstIp, firstIp]
  split
  · rfl
  · cases hhead : (Text.split ',' ips).head? with
    | none => rfl
    | some ip => exact h ip (List.mem_of_mem_head? hhead)

/-- The number of jumps after one more. -/
theorem wrap_eq_iff {n : ℕ} : Qt.wrap (n + 1) = (n : ℤ) + 1 ↔ n < 2147483647 := by
  rw [Qt.wrap]
  omega

/-- The answers stay the same just if the new one is. -/
theorem forall_mem_concat {answers : List (Data × Data)}
    (h : ∀ answer ∈ answers, answer.1 = answer.2) (answer : Data × Data) :
    (∀ a ∈ answers ++ [answer], a.1 = a.2) ↔ answer.1 = answer.2 := by
  rw [List.forall_mem_append, List.forall_mem_singleton]
  exact and_iff_right h

variable {b : Both}

/-- Queueing keeps the controllers the same just if there is a target. -/
theorem Both.Same.queue (h : b.Same) (inst : JumpInstruction) :
    (b.act (.queue inst)).Same ↔ inst.targetIp ≠ "" := by
  have hqt : (b.act (.queue inst)).qt.shown = b.egui.shown.queue inst := by
    rw [h.1]
    exact Qt.shown_queueInstruction b.qt inst
  constructor
  · rintro ⟨hshown, -⟩ htarget
    have hegui : (b.act (.queue inst)).egui = b.egui := if_pos htarget
    rw [hqt, hegui] at hshown
    exact View.queue_ne _ _ hshown.symm
  · intro htarget
    exact ⟨(Egui.shown_doQueueJump b.egui htarget).trans hqt.symm, h.2⟩

/-- The two differ in the number of jumps only. -/
theorem getIpJump_eq_wrapJumps_iff {v : View} :
    v.getIpJump.1 = Qt.wrapJumps v ↔
      (v.Sends → Qt.wrap (v.totalJumpsSent + 1) = v.totalJumpsSent + 1) := by
  rw [Qt.wrapJumps, View.getIpJump]
  by_cases hsends : v.Sends
  · rw [if_pos hsends, if_pos hsends]
    constructor
    · exact fun h _ => (congrArg View.totalJumpsSent h).symm
    · intro h
      rw [h hsends]
  · rw [if_neg hsends, if_neg hsends]
    exact iff_of_true rfl fun h => absurd h hsends

/-- The controllers answer the same just if the step is fine. -/
theorem Both.Same.getIpJump (h : b.Same) (tidy : Request.getIpJump.Tidy) :
    (b.act (.request .getIpJump tidy)).Same ↔ b.Fine (.request .getIpJump tidy) := by
  have hindex : 0 ≤ b.qt.cycleStrategy.currentIndex := by
    have hsame : (b.egui.cycleStrategy.currentIndex : ℤ) = b.qt.cycleStrategy.currentIndex :=
      congrArg View.currentIndex h.1
    omega
  obtain ⟨hegui, hanswer⟩ :
      (b.act (.request .getIpJump tidy)).egui.shown = b.egui.shown.getIpJump.1 ∧
        ((b.egui.routeRequest .getIpJump).2 = .jump b.egui.shown.getIpJump.2 ↔
          (b.egui.shown.Starts → b.egui.shown.Coincides)) :=
    Egui.getIpJump_shown { b.egui with requestCount := b.egui.requestCount + 1 }
  obtain ⟨hqt, hanswer'⟩ :
      (b.act (.request .getIpJump tidy)).qt.shown = Qt.wrapJumps b.qt.shown ∧
        (b.qt.handleRequest .getIpJump).2 = .jump b.qt.shown.getIpJump.2 :=
    @Qt.handleGetIpJump_shown { b.qt with requestCount := Qt.wrap (b.qt.requestCount + 1) } hindex
  rw [← h.1] at hqt hanswer'
  have hjumps : b.egui.shown.getIpJump.1 = Qt.wrapJumps b.egui.shown ↔
      (b.egui.shown.Sends → b.egui.totalJumpsSent < 2147483647) :=
    getIpJump_eq_wrapJumps_iff.trans (imp_congr_right fun _ => wrap_eq_iff)
  have hanswers : (∀ answer ∈ (b.act (.request .getIpJump tidy)).answers, answer.1 = answer.2) ↔
      (b.egui.shown.Starts → b.egui.shown.Coincides) := by
    refine (forall_mem_concat h.2 _).trans ?_
    dsimp only
    rw [hanswer', hanswer]
  rw [Both.Same, hegui, hqt, hjumps, hanswers, Both.Fine, and_comm]

/-- The other requests keep the controllers the same. -/
theorem Both.Same.request (h : b.Same) {r : Request} (tidy : r.Tidy) (hr : r ≠ .getIpJump) :
    (b.act (.request r tidy)).Same := by
  have hlast (ips : String) (htidy : Tidy ips) :
      ({ b.egui.shown with lastAgentIp := firstIp ips b.egui.lastAgentIp } : View) =
        { b.qt.shown with lastAgentIp := Qt.firstIp ips b.qt.lastAgentIp } := by
    have hsame : b.egui.lastAgentIp = b.qt.lastAgentIp := congrArg View.lastAgentIp h.1
    rw [h.1, hsame, firstIp_of_tidy htidy]
  have hpending : b.egui.ipJumpTaskPending = b.qt.ipJumpTaskPending :=
    congrArg View.ipJumpTaskPending h.1
  cases r with
  | getIpJump => exact absurd rfl hr
  | auth body => exact ⟨hlast _ tidy, (forall_mem_concat h.2 _).mpr rfl⟩
  | gettask =>
    refine ⟨h.1, (forall_mem_concat h.2 _).mpr ?_⟩
    rw [Egui.InnerState.routeRequest, Qt.MockServerState.handleRequest]
    dsimp only
    rw [hpending]
  | putIpJump body => exact ⟨hlast _ tidy, (forall_mem_concat h.2 _).mpr rfl⟩
  | uploadIp body => exact ⟨hlast _ tidy, (forall_mem_concat h.2 _).mpr rfl⟩
  | getToken => exact ⟨h.1, (forall_mem_concat h.2 _).mpr rfl⟩
  | other => exact ⟨h.1, (forall_mem_concat h.2 _).mpr rfl⟩

/-- An operation keeps the controllers the same just if it meets the condition. -/
theorem Both.Same.act (h : b.Same) (op : Operation) : (b.act op).Same ↔ b.Fine op := by
  cases op with
  | queue inst => exact h.queue inst
  | clear =>
    refine iff_of_true ⟨?_, h.2⟩ trivial
    exact congrArg (fun v : View => { v with instructionQueue := [] }) h.1
  | request r tidy =>
    by_cases hr : r = .getIpJump
    · subst hr
      exact h.getIpJump tidy
    · refine iff_of_true (h.request tidy hr) ?_
      cases r with
      | getIpJump => exact absurd rfl hr
      | _ => trivial

/-- The controllers are the same when they start. -/
theorem same_start (c : CycleSettings) : (Both.start c).Same := ⟨rfl, nofun⟩

/-- Two controllers that are started with the same settings agree after every operation and give the
same answers, just if every operation meets the condition. -/
theorem same_iff_meets (c : CycleSettings) (ops : List Operation) :
    (∀ seen, seen <+: ops → ((Both.start c).run seen).Same) ↔
      (bothSystem c).Meets Both.Fine (.start c) ops := by
  have hexec := Runs.System.exec_of_total (S := bothSystem c) (f := Both.act) fun _ _ => rfl
  have hstep (b : Both) (op : Operation) (b' : Both) (hb : b.Same)
      (hact : (bothSystem c).step b op = some b') : b'.Same ↔ b.Fine op := by
    obtain rfl := Option.some.inj hact
    exact hb.act op
  rw [← Runs.System.forall_exec_iff_meets hstep (same_start c) (hexec ops _)]
  constructor
  · intro h seen b hseen hb
    rw [hexec] at hb
    obtain rfl := Option.some.inj hb
    exact h seen hseen
  · exact fun h seen hseen => h seen _ hseen (hexec seen _)

/-- Settings with two addresses in the pool. -/
def twoAddressSettings : CycleSettings :=
  ⟨true, ["10.0.0.1", "10.0.0.2"], "10.0.0.254", 1, 30, 2, 24⟩

/-- The first request in cycle mode is answered differently. -/
theorem first_answers_differ :
    ¬∀ (c : CycleSettings) (ops seen : List Operation), seen <+: ops →
      ((Both.start c).run seen).Same := by
  intro hall
  have hsame := hall twoAddressSettings [.request .getIpJump trivial] _ List.prefix_rfl
  have hfine := ((same_start twoAddressSettings).act (.request .getIpJump trivial)).mp hsame
  have hstarts : (Both.start twoAddressSettings).egui.shown.Starts := by decide
  exact absurd (hfine.1 hstarts).2.1 (by decide)

end LinuxAgent.Controller
