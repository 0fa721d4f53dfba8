import LinuxAgent.Lib.Runs
import LinuxAgent.Pattern.Manager

/-!
# The kernel tables follow the policy

The tables are reloaded when one of the nine compared texts has changed. They hold
the current policy after every call as long as no call changes a text of the rules
alone, for instance by changing only `protect_rw`.
-/

namespace LinuxAgent.Pattern

/-- The calls that change the policy. -/
inductive Call
  | addFilePattern (enable : Bool)
  | setGlobalTrustDir (dirs : List GlobalTrustDir)
  | setExiportDir (exports : List PolicyExiporProtect)
  | clearExiportDir
  | setProtectDir (dirs : List PolicyProtectDir)
  | clearProtectDir

/-- The texts that a call renders, before they are loaded. -/
def Call.render : Call → PatternRulesMgr → PatternRulesMgr
  | .addFilePattern enable => if enable then renderFilePattern else id
  | .setGlobalTrustDir dirs => renderGlobalTrustDir dirs
  | .setExiportDir exports => renderExiportDir exports
  | .clearExiportDir => fun m => { m with exiportDirPatterns := "", exiportDirRules := "" }
  | .setProtectDir dirs => renderProtectDir dirs
  | .clearProtectDir => clearProtectTexts

/-- The manager and the kernel tables. -/
structure Loaded where
  /-- The manager. -/
  mgr : PatternRulesMgr
  /-- The tables. -/
  kernel : Kernel
  deriving DecidableEq

namespace Loaded

/-- Carry out a call. -/
def apply (s : Loaded) : Call → PatternRulesMgr × Kernel
  | .addFilePattern enable => addFilePattern enable s.mgr s.kernel
  | .setGlobalTrustDir dirs => setGlobalTrustDir dirs s.mgr s.kernel
  | .setExiportDir exports => setExiportDir exports s.mgr s.kernel
  | .clearExiportDir => clearExiportDir s.mgr s.kernel
  | .setProtectDir dirs => setProtectDir dirs s.mgr s.kernel
  | .clearProtectDir => clearProtectDir s.mgr s.kernel

/-- The calls on one new manager, with empty tables at the start. -/
def system : Runs.System Loaded Call where
  init s := s = ⟨{}, {}⟩
  step s call := some ⟨(s.apply call).1, (s.apply call).2⟩

/-- The tables hold what loading the current policy into empty tables would write. -/
def Mirrors (s : Loaded) : Prop := s.kernel = loadPatternRules s.mgr.toPolicyTexts {}

/-- A call that leaves the compared texts as they are leaves the rules as they are. -/
def ShowsChange (s : Loaded) (call : Call) : Prop :=
  (call.render s.mgr).toComparedTexts = s.mgr.toComparedTexts →
    (call.render s.mgr).toRuleTexts = s.mgr.toRuleTexts

end Loaded

/-- A loop keeps what each iteration keeps. -/
private theorem foldl_keeps {α β γ : Type*} {f : β → α → β} {g : β → γ}
    (hf : ∀ b x, g (f b x) = g b) (xs : List α) (b : β) : g (xs.foldl f b) = g b := by
  induction xs generalizing b with
  | nil => rfl
  | cons x xs ih => rw [List.foldl_cons, ih, hf]

/-- An iteration of `set_exiport_dir` keeps the backup. -/
theorem pushExiportDir_pre (acc : PatternRulesMgr × ℕ) (item : PolicyExiporProtect × ℕ) :
    (pushExiportDir acc item).1.pre = acc.1.pre := by
  unfold pushExiportDir
  dsimp only
  split <;> rfl

/-- An iteration of `set_protect_dir` keeps the backup. -/
theorem pushProtectDir_pre (acc : PatternRulesMgr × ℕ) (item : PolicyProtectDir × ℕ) :
    (pushProtectDir acc item).1.pre = acc.1.pre := by
  unfold pushProtectDir
  dsimp only
  by_cases hhash : item.1.whiteHash = "" <;> by_cases hwhite : item.1.isWhite = "" <;>
    by_cases hinclude : item.1.includeFile = "" <;> by_cases hext : item.1.fileExt = "" <;>
    simp only [hhash, hwhite, hinclude, hext, ne_eq, not_true_eq_false, not_false_eq_true, if_true,
      if_false]

/-- Rendering does not touch the backup. -/
theorem Call.render_pre (call : Call) (m : PatternRulesMgr) : (call.render m).pre = m.pre := by
  cases call with
  | addFilePattern enable => cases enable <;> rfl
  | setGlobalTrustDir dirs =>
    exact foldl_keeps (f := pushGlobalTrustDir) (g := PatternRulesMgr.pre) (fun _ _ => rfl) _ _
  | setExiportDir exports =>
    exact foldl_keeps (g := fun acc : PatternRulesMgr × ℕ => acc.1.pre) pushExiportDir_pre _ _
  | clearExiportDir => rfl
  | setProtectDir dirs =>
    exact foldl_keeps (g := fun acc : PatternRulesMgr × ℕ => acc.1.pre) pushProtectDir_pre _ _
  | clearProtectDir => rfl

/-- The policy is made of the compared texts and the rules. -/
theorem PolicyTexts.eq_of_parts {a b : PolicyTexts}
    (hcompared : a.toComparedTexts = b.toComparedTexts) (hrules : a.toRuleTexts = b.toRuleTexts) :
    a = b := by
  obtain ⟨compared, rules⟩ := a
  obtain ⟨compared', rules'⟩ := b
  obtain rfl : compared = compared' := hcompared
  obtain rfl : rules = rules' := hrules
  rfl

/-- `patterns_has_changed` compares all compared texts with the backup. -/
theorem patternsHasChanged_eq_false {m : PatternRulesMgr} :
    patternsHasChanged m = false ↔ m.pre = m.toComparedTexts := by
  obtain ⟨⟨⟨a, b, c, d, e, f, g, h, i⟩, rules⟩, ⟨a', b', c', d', e', f', g', h', i'⟩⟩ := m
  simp [patternsHasChanged, and_assoc]

/-- What `set_pattern_rules` does: the tables are replaced by the current policy when
the compared texts differ from the backup. -/
theorem setPatternRules_eq (m : PatternRulesMgr) (k : Kernel) :
    setPatternRules m k =
      if m.pre = m.toComparedTexts then (m, k)
      else ({ m with pre := m.toComparedTexts }, loadPatternRules m.toPolicyTexts {}) := by
  unfold setPatternRules
  by_cases hsame : m.pre = m.toComparedTexts
  · rw [if_pos hsame, if_neg]
    rw [patternsHasChanged_eq_false.mpr hsame]
    exact Bool.false_ne_true
  · rw [if_neg hsame, if_pos]
    · rfl
    · rw [← Bool.not_eq_false]
      exact fun h => hsame (patternsHasChanged_eq_false.mp h)

/-- Loading the texts does not change them. -/
theorem setPatternRules_toPolicyTexts (m : PatternRulesMgr) (k : Kernel) :
    (setPatternRules m k).1.toPolicyTexts = m.toPolicyTexts := by
  rw [setPatternRules_eq]
  split
  · rfl
  · rfl

namespace Loaded

/-- After a call the manager has the texts that the call renders. -/
theorem apply_toPolicyTexts (s : Loaded) (call : Call) :
    (s.apply call).1.toPolicyTexts = (call.render s.mgr).toPolicyTexts := by
  cases call with
  | addFilePattern enable =>
    cases enable with
    | true => exact setPatternRules_toPolicyTexts _ _
    | false => rfl
  | setGlobalTrustDir dirs => exact setPatternRules_toPolicyTexts _ _
  | setExiportDir exports => exact setPatternRules_toPolicyTexts _ _
  | clearExiportDir => exact setPatternRules_toPolicyTexts _ _
  | setProtectDir dirs => exact setPatternRules_toPolicyTexts _ _
  | clearProtectDir => exact setPatternRules_toPolicyTexts _ _

/-- The tables hold the current policy, and the backup the current compared texts. -/
structure InStep (s : Loaded) : Prop where
  mirrors : s.Mirrors
  backup : s.mgr.pre = s.mgr.toComparedTexts

/-- Every call renders its texts and sets the rules, as long as the backup is current. -/
theorem apply_eq {s : Loaded} (hbackup : s.mgr.pre = s.mgr.toComparedTexts) (call : Call) :
    s.apply call = setPatternRules (call.render s.mgr) s.kernel := by
  cases call with
  | addFilePattern enable =>
    cases enable with
    | true => rfl
    | false =>
      rw [setPatternRules_eq]
      exact (if_pos hbackup).symm
  | setGlobalTrustDir dirs => rfl
  | setExiportDir exports => rfl
  | clearExiportDir => rfl
  | setProtectDir dirs => rfl
  | clearProtectDir => rfl

/-- A call that shows its change keeps the tables in step. -/
theorem InStep.step {s s' : Loaded} {call : Call} (hs : s.InStep) (hshows : s.ShowsChange call)
    (hstep : system.step s call = some s') : s'.InStep := by
  obtain rfl := Option.some.inj hstep
  have hpre := call.render_pre s.mgr
  rw [apply_eq hs.backup, setPatternRules_eq]
  by_cases hsame : (call.render s.mgr).pre = (call.render s.mgr).toComparedTexts
  · rw [if_pos hsame]
    have hcompared : (call.render s.mgr).toComparedTexts = s.mgr.toComparedTexts := by
      rw [← hsame, hpre, hs.backup]
    have htexts := PolicyTexts.eq_of_parts hcompared (hshows hcompared)
    refine ⟨?_, hsame⟩
    rw [Mirrors, htexts]
    exact hs.mirrors
  · rw [if_neg hsame]
    exact ⟨rfl, rfl⟩

/-- **The kernel tables follow the policy.** After every call of a run whose calls show
their changes, the tables hold what loading the current policy into empty tables
would write. -/
theorem kernel_follows_policy (s : Loaded) (hreach : system.Reaches ShowsChange s) : s.Mirrors := by
  have hinstep : s.InStep := by
    refine hreach.invariant (I := InStep) ?_ ?_
    · rintro _ rfl
      exact ⟨rfl, rfl⟩
    · intro s call s' hs hshows hstep
      exact hs.step hshows hstep
  exact hinstep.mirrors

/-- A directory that is protected against writing, or also against reading. -/
def protectedDir (protectRw : ℕ) : PolicyProtectDir :=
  { dir := "/srv/data", protectRw := protectRw, typ := 1, isExtend := 1, includeFile := ""
    fileExt := "", isWhite := "", whiteHash := "" }

/-- Protecting another directory shows, and the tables follow. -/
theorem kernel_follows_policy_protect :
    ∃ s, Mirrors s ∧ s.kernel.rules =
      ["target=ProtectDir_0,pattern=ProtectDir_0,rule_idx=0,protect_rw=1,type=2"] := by
  have hexec : (system.exec ⟨{}, {}⟩ [.setProtectDir [protectedDir 1]]).map (·.kernel.rules) =
      some ["target=ProtectDir_0,pattern=ProtectDir_0,rule_idx=0,protect_rw=1,type=2"] := by
    decide +kernel
  obtain ⟨s, hexec, hrules⟩ := Option.map_eq_some_iff.mp hexec
  have hreach : system.Reaches ShowsChange s := by
    refine (Runs.System.Reaches.init rfl).exec ?_ hexec
    refine ⟨?_, fun _ _ => trivial⟩
    unfold ShowsChange
    decide
  exact ⟨s, kernel_follows_policy s hreach, hrules⟩

/-- After only `protect_rw` has changed, the tables still hold the old rule. -/
theorem protect_rw_change_lost : ∃ s, system.Reachable s ∧ ¬ s.Mirrors := by
  have hexec : (system.exec ⟨{}, {}⟩
      [.setProtectDir [protectedDir 1], .setProtectDir [protectedDir 0]]).map
        (fun s => decide (s.kernel.rules = (loadPatternRules s.mgr.toPolicyTexts {}).rules)) =
      some false := by
    decide +kernel
  obtain ⟨s, hexec, hstale⟩ := Option.map_eq_some_iff.mp hexec
  refine ⟨s, (Runs.System.Reaches.init rfl).exec (.of_forall (fun _ _ _ => trivial) _) hexec, ?_⟩
  intro hmirrors
  exact of_decide_eq_false hstale (congrArg (·.rules) hmirrors)

end Loaded

end LinuxAgent.Pattern
