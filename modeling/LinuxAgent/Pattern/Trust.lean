import LinuxAgent.Pattern.Linkage
import LinuxAgent.Pattern.Writes

/-!
# Trust after a protection is cleared

The table of trusted processes holds the lines of the protected directories, with tag 88,
and those of the export policies, with tag 99. `clear_protect_dir` empties the text of
its lines; `clear_exiport_dir` does not, and the lines stay in the table. The lines of a
cleared protection are gone in all states of a run just if every call meets a condition
that is read off the state before it.
-/

namespace LinuxAgent.Pattern

/-- The line ends with this tag. -/
def HasTag (tag line : String) : Prop := (',' :: tag.toList) <:+ line.toList

instance (tag line : String) : Decidable (HasTag tag line) :=
  inferInstanceAs (Decidable (_ <:+ _))

/-- A line has one tag of a given length. -/
theorem HasTag.unique {tag tag' line : String} (h : HasTag tag line) (h' : HasTag tag' line)
    (hlength : tag.toList.length = tag'.toList.length) : tag = tag' := by
  have heq := List.IsSuffix.eq_of_length
    (List.suffix_of_suffix_length_le h h' (by simp [hlength])) (by simp [hlength])
  exact String.toList_inj.mp (List.cons.inj heq).2

/-- What a line break cuts off from a hash: all lines but the last. -/
def brokenOff (hash : String) : List String := (Text.split '\n' hash).dropLast

/-- The lines that come from the line of a trusted process: those that are cut off from its
hash, and one with the tag. -/
theorem split_trustedLine {tag : String} (htag : '\n' ∉ tag.toList) (hash : String) (id : ℕ) :
    ∃ last, Text.split '\n' (trustedLine tag hash id) = brokenOff hash ++ [last] ∧
      HasTag tag last := by
  obtain ⟨init, last, hhash, hsplit⟩ :=
    Text.split_append_last (not_mem_trustedLine_end htag id) hash
  refine ⟨_, by rw [trustedLine_eq_append, hsplit, brokenOff, hhash, List.dropLast_concat], ?_⟩
  refine ⟨last.toList ++ ',' :: (toString id).toList, ?_⟩
  simp

/-- The lines of a text of trusted processes. -/
theorem mem_lines_trustedLines {α : Type} {tag : String} {hashes : α → List String}
    {items : List (Numbered α)} (htag : '\n' ∉ tag.toList) {line : String}
    (hline : line ∈ Text.lines (Text.unlines (items.flatMap (trustedLines tag hashes)))) :
    HasTag tag line ∨ ∃ item ∈ items, ∃ hash ∈ hashes item.policy, line ∈ brokenOff hash := by
  rw [Text.lines_unlines] at hline
  obtain ⟨whole, hwhole, hline⟩ := List.mem_flatMap.mp hline
  obtain ⟨⟨policy, i, ruleId⟩, hitem, hwhole⟩ := List.mem_flatMap.mp hwhole
  cases ruleId with
  | none => exact absurd hwhole List.not_mem_nil
  | some id =>
    obtain ⟨hash, hhash, rfl⟩ := List.mem_map.mp hwhole
    obtain ⟨last, hsplit, hlast⟩ := split_trustedLine htag hash id
    rw [hsplit, List.mem_append, List.mem_singleton] at hline
    rcases hline with hbroken | rfl
    · exact .inr ⟨_, hitem, hash, hhash, hbroken⟩
    · exact .inl hlast

/-- A text of trusted processes that is not empty has a line with its tag. -/
def Tagged (tag text : String) : Prop := text = "" ∨ ∃ line ∈ Text.lines text, HasTag tag line

/-- The texts of trusted processes are tagged. -/
theorem tagged_trustedLines {α : Type} {tag : String} {hashes : α → List String}
    (htag : '\n' ∉ tag.toList) (items : List (Numbered α)) :
    Tagged tag (Text.unlines (items.flatMap (trustedLines tag hashes))) := by
  by_cases hnil : items.flatMap (trustedLines tag hashes) = []
  · rw [hnil]
    exact .inl rfl
  · obtain ⟨whole, hwhole⟩ := List.exists_mem_of_ne_nil _ hnil
    obtain ⟨⟨policy, i, ruleId⟩, -, hmem⟩ := List.mem_flatMap.mp hwhole
    cases ruleId with
    | none => exact absurd hmem List.not_mem_nil
    | some id =>
      obtain ⟨hash, -, rfl⟩ := List.mem_map.mp hmem
      obtain ⟨last, hsplit, hlast⟩ := split_trustedLine htag hash id
      refine .inr ⟨last, ?_, hlast⟩
      rw [Text.lines_unlines, List.mem_flatMap]
      exact ⟨_, hwhole, by rw [hsplit]; exact List.mem_append_right _ (List.mem_singleton_self _)⟩

/-- The hashes of protected directories have no commas, so nothing that is cut off from them
has a tag. -/
theorem not_hasTag_protect (items : List (Numbered PolicyProtectDir)) :
    ∀ line ∈ Text.lines (Text.unlines (protectTrueLines items)), ¬HasTag "99" line := by
  intro line hline htag
  rcases mem_lines_trustedLines (by decide) hline with hown | ⟨item, -, hash, hhash, hbroken⟩
  · exact absurd (htag.unique hown rfl) (by decide)
  · have hcomma : ',' ∈ line.toList := htag.subset List.mem_cons_self
    have hpiece : line ∈ Text.split '\n' hash := (List.dropLast_sublist _).subset hbroken
    exact Text.not_mem_of_mem_split hhash (Text.mem_of_mem_split hpiece hcomma)

/-- What an export policy brings in with the tag of the protected directories. -/
def BringsProtectTag (exports : List PolicyExiporProtect) : Prop :=
  ∃ policy ∈ exports.take 50, ∃ hash ∈ policy.hashes, ∃ line ∈ brokenOff hash, HasTag "88" line

instance (exports : List PolicyExiporProtect) : Decidable (BringsProtectTag exports) :=
  inferInstanceAs (Decidable (∃ policy ∈ exports.take 50, ∃ hash ∈ policy.hashes,
    ∃ line ∈ brokenOff hash, HasTag "88" line))

/-- The text of export policies has a line with the tag of the protected directories just if a
hash brings one in. -/
theorem hasTag_exiport_iff (exports : List PolicyExiporProtect) :
    (∃ line ∈ Text.lines (Text.unlines (exiportTrueLines
        (numbered PolicyExiporProtect.trusts exports))), HasTag "88" line) ↔
      BringsProtectTag exports := by
  constructor
  · rintro ⟨line, hline, htag⟩
    rcases mem_lines_trustedLines (by decide) hline with hown | ⟨item, hitem, hash, hhash, hbroken⟩
    · exact absurd (htag.unique hown rfl) (by decide)
    · obtain ⟨hindex, hget, -⟩ := mem_numbered.mp hitem
      refine ⟨item.policy, ?_, hash, hhash, line, hbroken, htag⟩
      rw [List.mem_iff_getElem?]
      exact ⟨item.index, by rw [List.getElem?_take, if_pos hindex, hget]⟩
  · rintro ⟨policy, hpolicy, hash, hhash, line, hbroken, htag⟩
    refine ⟨line, ?_, htag⟩
    obtain ⟨i, hget⟩ := List.mem_iff_getElem?.mp hpolicy
    rw [List.getElem?_take] at hget
    split at hget
    · next hi =>
      have htrusts : policy.trusts = true := by
        rw [PolicyExiporProtect.trusts, decide_eq_true_iff]
        intro hnil
        rw [PolicyExiporProtect.hashes, hnil] at hhash
        exact absurd hhash List.not_mem_nil
      have hitem : ⟨policy, i, some (rank PolicyExiporProtect.trusts exports i)⟩ ∈
          numbered PolicyExiporProtect.trusts exports :=
        mem_numbered.mpr ⟨hi, hget, by rw [ruleIdOf, if_pos htrusts]⟩
      obtain ⟨last, hsplit, -⟩ := split_trustedLine (by decide : '\n' ∉ "99".toList) hash
        (rank PolicyExiporProtect.trusts exports i)
      rw [Text.lines_unlines, List.mem_flatMap]
      refine ⟨_, List.mem_flatMap.mpr ⟨_, hitem, List.mem_map_of_mem hhash⟩, ?_⟩
      rw [hsplit]
      exact List.mem_append_left _ hbroken
    · cases hget

/-- The empty text has no lines. -/
theorem lines_empty : Text.lines "" = [] := by decide

/-- Texts that a write appends. -/
theorem writeTable_of_tagged {tag text : String} (h : Tagged tag text) (lines : List String) :
    writeTable text lines = lines ++ Text.lines text := by
  have hcommand (c : String) (hc : c = "c\n" ∨ c = "b\n") : ¬Tagged tag c := by
    have hlines : Text.lines "c\n" = ["c"] ∧ Text.lines "b\n" = ["b"] := by decide
    rintro (hempty | ⟨line, hline, htag⟩)
    · rcases hc with rfl | rfl
      · exact absurd hempty (by decide)
      · exact absurd hempty (by decide)
    · have hcomma : ',' ∈ line.toList := htag.subset List.mem_cons_self
      rcases hc with rfl | rfl
      · rw [hlines.1, List.mem_singleton] at hline
        exact absurd (hline ▸ hcomma) (by decide)
      · rw [hlines.2, List.mem_singleton] at hline
        exact absurd (hline ▸ hcomma) (by decide)
  rw [writeTable, if_neg, if_neg]
  · rintro rfl
    exact hcommand _ (.inr rfl) h
  · rintro rfl
    exact hcommand _ (.inl rfl) h

/-- The writes of a family leave the trusted processes alone. -/
theorem trueProcess_familyWrites (patterns rules : String) (k : Kernel) :
    ((familyWrites patterns rules).foldl Kernel.write k).trueProcess = k.trueProcess := by
  rw [familyWrites]
  split
  · rfl
  · rfl

/-- So does a write to another file. -/
theorem trueProcess_textWrites {file : ProcFile} (hfile : file ≠ .trueProcessRt)
    (content : String) (k : Kernel) :
    ((textWrites file content).foldl Kernel.write k).trueProcess = k.trueProcess := by
  rw [textWrites]
  split
  · cases file with
    | filePatterns => rfl
    | rules => rfl
    | trueProcessRt => exact absurd rfl hfile
  · rfl

/-- A text of trusted processes is appended. -/
theorem trueProcess_append {tag content : String} (h : Tagged tag content) (k : Kernel) :
    ((textWrites .trueProcessRt content).foldl Kernel.write k).trueProcess =
      k.trueProcess ++ Text.lines content := by
  rw [textWrites]
  split
  · exact writeTable_of_tagged h k.trueProcess
  · next hempty =>
    rw [not_not.mp hempty]
    exact (List.append_nil _).symm

/-- The trusted processes after a load. -/
theorem trueProcess_loadPatternRules {m : PolicyTexts} (hprotect : Tagged "88" m.protectTrueProcess)
    (hexiport : Tagged "99" m.exiportTrueProcess) :
    (loadPatternRules m {}).trueProcess =
      Text.lines m.protectTrueProcess ++ Text.lines m.exiportTrueProcess := by
  have hbuild (k : Kernel) :
      ([⟨.filePatterns, "b\n"⟩].foldl Kernel.write k).trueProcess = k.trueProcess := rfl
  rw [loadPatternRules_eq_writes, loadWrites, List.foldl_append, hbuild, List.foldl_append,
    trueProcess_append hexiport, List.foldl_append, trueProcess_append hprotect]
  simp only [List.foldl_append, trueProcess_familyWrites]
  rw [trueProcess_textWrites (by decide), trueProcess_textWrites (by decide)]
  simp only [trueProcess_familyWrites]
  rfl

/-- The trusted processes of protected directories after a call. -/
def Call.protectTrue (call : Call) (text : String) : String :=
  match call with
  | .setProtectDir dirs =>
    Text.unlines (protectTrueLines (numbered PolicyProtectDir.trusts dirs))
  | .clearProtectDir => ""
  | _ => text

/-- The trusted processes of export policies after a call. -/
def Call.exiportTrue (call : Call) (text : String) : String :=
  match call with
  | .setExiportDir exports =>
    Text.unlines (exiportTrueLines (numbered PolicyExiporProtect.trusts exports))
  | _ => text

/-- A call adds its own lines to the processes trusted by the protection. -/
theorem protectTrueProcess_render (call : Call) (m : PatternRulesMgr) :
    (call.render m).protectTrueProcess = call.protectTrue m.protectTrueProcess := by
  cases call with
  | addFilePattern enable => cases enable <;> rfl
  | setGlobalTrustDir dirs => rw [Call.render, renderGlobalTrustDir_eq]; rfl
  | setExiportDir exports => rw [Call.render, renderExiportDir_eq]; rfl
  | clearExiportDir => rfl
  | setProtectDir dirs =>
    rw [Call.render, renderProtectDir_eq]
    exact String.empty_append
  | clearProtectDir => rfl

/-- A call adds its own lines to the processes trusted by the export protection. -/
theorem exiportTrueProcess_render (call : Call) (m : PatternRulesMgr) :
    (call.render m).exiportTrueProcess = call.exiportTrue m.exiportTrueProcess := by
  cases call with
  | addFilePattern enable => cases enable <;> rfl
  | setGlobalTrustDir dirs => rw [Call.render, renderGlobalTrustDir_eq]; rfl
  | setExiportDir exports =>
    rw [Call.render, renderExiportDir_eq]
    exact String.empty_append
  | clearExiportDir => rfl
  | setProtectDir dirs => rw [Call.render, renderProtectDir_eq]; rfl
  | clearProtectDir => rfl

namespace Loaded

/-- The table holds the lines of the two texts, and the backup the current texts. -/
structure TrustSound (s : Loaded) : Prop where
  backup : s.mgr.pre = s.mgr.toComparedTexts
  table : s.kernel.trueProcess =
    Text.lines s.mgr.protectTrueProcess ++ Text.lines s.mgr.exiportTrueProcess
  protect : Tagged "88" s.mgr.protectTrueProcess
  protectOnly : ∀ line ∈ Text.lines s.mgr.protectTrueProcess, ¬HasTag "99" line
  exiport : Tagged "99" s.mgr.exiportTrueProcess

/-- The texts of trusted processes that a call renders are tagged. -/
theorem TrustSound.render {s : Loaded} (h : s.TrustSound) (call : Call) :
    Tagged "88" (call.render s.mgr).protectTrueProcess ∧
      (∀ line ∈ Text.lines (call.render s.mgr).protectTrueProcess, ¬HasTag "99" line) ∧
      Tagged "99" (call.render s.mgr).exiportTrueProcess := by
  rw [protectTrueProcess_render, exiportTrueProcess_render]
  cases call with
  | addFilePattern enable => exact ⟨h.protect, h.protectOnly, h.exiport⟩
  | setGlobalTrustDir dirs => exact ⟨h.protect, h.protectOnly, h.exiport⟩
  | setExiportDir exports =>
    exact ⟨h.protect, h.protectOnly, tagged_trustedLines (by decide) _⟩
  | clearExiportDir => exact ⟨h.protect, h.protectOnly, h.exiport⟩
  | setProtectDir dirs =>
    exact ⟨tagged_trustedLines (by decide) _, not_hasTag_protect _, h.exiport⟩
  | clearProtectDir => exact ⟨.inl rfl, not_hasTag_protect [], h.exiport⟩

/-- Every call keeps the table in step with the two texts. -/
theorem TrustSound.apply {s : Loaded} (h : s.TrustSound) (call : Call) :
    TrustSound ⟨(s.apply call).1, (s.apply call).2⟩ := by
  obtain ⟨hprotect, hprotectOnly, hexiport⟩ := h.render call
  rw [apply_eq h.backup, setPatternRules_eq]
  by_cases hsame : (call.render s.mgr).pre = (call.render s.mgr).toComparedTexts
  · rw [if_pos hsame]
    have hcompared : s.mgr.toComparedTexts = (call.render s.mgr).toComparedTexts := by
      rw [← h.backup, ← hsame, call.render_pre]
    refine ⟨hsame, ?_, hprotect, hprotectOnly, hexiport⟩
    rw [← hcompared]
    exact h.table
  · rw [if_neg hsame]
    exact ⟨rfl, trueProcess_loadPatternRules hprotect hexiport, hprotect, hprotectOnly, hexiport⟩

/-- The lines of the export policies are in the table just if there are any. -/
theorem TrustSound.exiport_gone_iff {s : Loaded} (h : s.TrustSound) :
    (∀ line ∈ s.kernel.trueProcess, ¬HasTag "99" line) ↔ s.mgr.exiportTrueProcess = "" := by
  rw [h.table]
  constructor
  · intro hgone
    rcases h.exiport with hempty | ⟨line, hline, htag⟩
    · exact hempty
    · exact absurd htag (hgone line (List.mem_append_right _ hline))
  · intro hempty
    rw [hempty, lines_empty, List.append_nil]
    exact h.protectOnly

/-- The lines of the protected directories are not in the table just if there are none and
the export policies bring none in. -/
theorem TrustSound.protect_gone_iff {s : Loaded} (h : s.TrustSound) :
    (∀ line ∈ s.kernel.trueProcess, ¬HasTag "88" line) ↔
      s.mgr.protectTrueProcess = "" ∧
        ∀ line ∈ Text.lines s.mgr.exiportTrueProcess, ¬HasTag "88" line := by
  rw [h.table, List.forall_mem_append]
  refine and_congr_left fun _ => ⟨?_, ?_⟩
  · intro hgone
    rcases h.protect with hempty | ⟨line, hline, htag⟩
    · exact hempty
    · exact absurd htag (hgone line hline)
  · intro hempty
    rw [hempty, lines_empty]
    exact fun line hline => absurd hline List.not_mem_nil

end Loaded

/-- The manager and the tables, and the protections that have been cleared and not been set
since. -/
structure Tracked where
  loaded : Loaded
  exiportCleared : Bool := false
  protectCleared : Bool := false

namespace Tracked

/-- Carry out a call and note what it clears and sets. -/
def apply (t : Tracked) (call : Call) : Tracked where
  loaded := ⟨(t.loaded.apply call).1, (t.loaded.apply call).2⟩
  exiportCleared :=
    match call with
    | .clearExiportDir => true
    | .setExiportDir _ => false
    | _ => t.exiportCleared
  protectCleared :=
    match call with
    | .clearProtectDir => true
    | .setProtectDir _ => false
    | _ => t.protectCleared

/-- The start: a new manager and empty tables. -/
def start : Tracked := { loaded := ⟨{}, {}⟩ }

/-- The calls on one manager. -/
def system : Runs.System Tracked Call where
  init t := t = start
  step t call := some (t.apply call)

/-- No line of a cleared protection is in the table. -/
def TrustRemoved (t : Tracked) : Prop :=
  (t.exiportCleared = true → ∀ line ∈ t.loaded.kernel.trueProcess, ¬HasTag "99" line) ∧
    (t.protectCleared = true → ∀ line ∈ t.loaded.kernel.trueProcess, ¬HasTag "88" line)

/-- The calls that leave nothing behind: export policies are cleared only if the last ones had
no trusted processes, and no hash of an export policy brings in a line with the tag of the
protected directories while these are cleared. -/
def LeavesNoTrust (t : Tracked) : Call → Prop
  | .clearExiportDir => t.loaded.mgr.exiportTrueProcess = ""
  | .clearProtectDir => ∀ line ∈ Text.lines t.loaded.mgr.exiportTrueProcess, ¬HasTag "88" line
  | .setExiportDir exports => t.protectCleared = true → ¬BringsProtectTag exports
  | _ => True

/-- What is removed, in terms of the texts. -/
theorem trustRemoved_iff {t : Tracked} (h : t.loaded.TrustSound) :
    t.TrustRemoved ↔
      (t.exiportCleared = true → t.loaded.mgr.exiportTrueProcess = "") ∧
        (t.protectCleared = true → t.loaded.mgr.protectTrueProcess = "" ∧
          ∀ line ∈ Text.lines t.loaded.mgr.exiportTrueProcess, ¬HasTag "88" line) := by
  rw [TrustRemoved, h.exiport_gone_iff, h.protect_gone_iff]

/-- One call removes the trust of the cleared protections just if it meets the condition. -/
theorem trustRemoved_apply_iff {t : Tracked} (hsound : t.loaded.TrustSound)
    (h : t.TrustRemoved) (call : Call) : (t.apply call).TrustRemoved ↔ t.LeavesNoTrust call := by
  have htexts := Loaded.apply_toPolicyTexts t.loaded call
  have hprotect : (t.apply call).loaded.mgr.protectTrueProcess =
      call.protectTrue t.loaded.mgr.protectTrueProcess :=
    (congrArg (·.protectTrueProcess) htexts).trans (protectTrueProcess_render call _)
  have hexiport : (t.apply call).loaded.mgr.exiportTrueProcess =
      call.exiportTrue t.loaded.mgr.exiportTrueProcess :=
    (congrArg (·.exiportTrueProcess) htexts).trans (exiportTrueProcess_render call _)
  rw [trustRemoved_iff (hsound.apply call), hprotect, hexiport]
  obtain ⟨hexiportGone, hprotectGone⟩ := (trustRemoved_iff hsound).mp h
  cases call with
  | addFilePattern enable => exact iff_of_true ⟨hexiportGone, hprotectGone⟩ trivial
  | setGlobalTrustDir dirs => exact iff_of_true ⟨hexiportGone, hprotectGone⟩ trivial
  | setExiportDir exports =>
    constructor
    · intro hremoved hcleared hbring
      obtain ⟨line, hline, htag⟩ := (hasTag_exiport_iff exports).mpr hbring
      exact (hremoved.2 hcleared).2 line hline htag
    · intro hleaves
      refine ⟨fun hcleared => absurd hcleared Bool.false_ne_true, fun hcleared => ?_⟩
      refine ⟨(hprotectGone hcleared).1, fun line hline htag => ?_⟩
      exact hleaves hcleared ((hasTag_exiport_iff exports).mp ⟨line, hline, htag⟩)
  | clearExiportDir =>
    exact ⟨fun hremoved => hremoved.1 rfl, fun hempty => ⟨fun _ => hempty, hprotectGone⟩⟩
  | setProtectDir dirs =>
    exact iff_of_true ⟨hexiportGone, fun hcleared => absurd hcleared Bool.false_ne_true⟩ trivial
  | clearProtectDir =>
    exact ⟨fun hremoved => (hremoved.2 rfl).2, fun hnone => ⟨hexiportGone, fun _ => ⟨rfl, hnone⟩⟩⟩

/-- The tables are in step at the start. -/
theorem trustSound_start : start.loaded.TrustSound :=
  ⟨rfl, by decide, .inl rfl, not_hasTag_protect [], .inl rfl⟩

/-- The tables are in step after any calls. -/
theorem trustSound_of_exec {calls : List Call} {t : Tracked}
    (h : system.exec start calls = some t) : t.loaded.TrustSound := by
  have hreach : system.Reachable t := Runs.System.Reachable.exec (.init rfl) h
  refine hreach.invariant (I := fun t => t.loaded.TrustSound) ?_ ?_
  · rintro _ rfl
    exact trustSound_start
  · intro t call t' hsound _ hstep
    obtain rfl := Option.some.inj hstep
    exact hsound.apply call

/-- **Clearing a protection removes its trust just if nothing is left behind.** In all states of
a run the table has no line of a protection that has been cleared and not been set since, if
and only if each call meets the condition: export policies are cleared when they have no
trusted processes, and no hash of an export policy stands for a line of the other kind. -/
theorem clear_removes_trust_iff (calls : List Call) :
    (∀ seen t, seen <+: calls → system.exec start seen = some t → t.TrustRemoved) ↔
      system.Meets LeavesNoTrust start calls := by
  have hstart : start.loaded.TrustSound ∧ start.TrustRemoved :=
    ⟨trustSound_start, fun h => absurd h Bool.false_ne_true, fun h => absurd h Bool.false_ne_true⟩
  have hexec : system.exec start calls = some (calls.foldl apply start) :=
    Runs.System.exec_of_total (fun _ _ => rfl) calls start
  have hstep : ∀ t call t', t.loaded.TrustSound ∧ t.TrustRemoved → system.step t call = some t' →
      (t'.loaded.TrustSound ∧ t'.TrustRemoved ↔ t.LeavesNoTrust call) := by
    rintro t call t' ⟨hsound, hremoved⟩ hstep
    obtain rfl := Option.some.inj hstep
    rw [← trustRemoved_apply_iff hsound hremoved call]
    exact and_iff_right (hsound.apply call)
  rw [← Runs.System.forall_exec_iff_meets hstep hstart hexec]
  refine forall₄_congr fun seen t _ hseen => ?_
  exact (and_iff_right (trustSound_of_exec hseen)).symm

/-- One export policy with a trusted process. -/
def exported : List PolicyExiporProtect := [⟨"doc", 1, [("4be1", "writer")]⟩]

/-- After the export policies have been cleared their trusted process is still in the table. -/
theorem exiport_trust_left :
    ∃ calls t, system.exec start calls = some t ∧ t.exiportCleared = true ∧
      t.loaded.kernel.trueProcess = ["4be1,1,99"] ∧ ¬t.TrustRemoved := by
  have hexec : (system.exec start [.setExiportDir exported, .clearExiportDir]).map
      (fun t => (t.exiportCleared, t.loaded.kernel.trueProcess)) = some (true, ["4be1,1,99"]) := by
    decide +kernel
  obtain ⟨t, ht, hvalues⟩ := Option.map_eq_some_iff.mp hexec
  obtain ⟨hcleared, htable⟩ := Prod.mk.inj hvalues
  refine ⟨_, t, ht, hcleared, htable, fun hremoved => ?_⟩
  have hgone := hremoved.1 hcleared
  rw [htable] at hgone
  exact hgone _ (List.mem_singleton_self _) (by decide)

end Tracked

end LinuxAgent.Pattern
