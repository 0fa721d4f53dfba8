import LinuxAgent.Pattern.Rendered
import Mathlib.Data.List.Nodup

/-!
# The trusted processes of a policy

A rule names the trusted processes of its policy by a number, and the lines of the
trusted processes carry the number in their second field. The numbers in the two texts
agree: the rules of a policy lead to the hashes of this policy and to no others.
-/

namespace LinuxAgent.Pattern

section Numbers

variable {α : Type} {trusts : α → Bool} {policies : List α}

/-- The number of policies with trusted processes up to the `i`-th policy. -/
def rank (trusts : α → Bool) (policies : List α) (i : ℕ) : ℕ :=
  (policies.take (i + 1)).countP trusts

/-- The number that the `i`-th policy is given. -/
def ruleIdOf (trusts : α → Bool) (policies : List α) (policy : α) (i : ℕ) : Option ℕ :=
  if trusts policy then some (rank trusts policies i) else none

/-- The policies after some others are numbered by their ranks. -/
theorem numberFrom_eq (trusts : α → Bool) (before after : List α) :
    numberFrom trusts (before.countP trusts) (after.zipIdx before.length) =
      (after.zipIdx before.length).map fun item =>
        ⟨item.1, item.2, ruleIdOf trusts (before ++ after) item.1 item.2⟩ := by
  induction after generalizing before with
  | nil => rfl
  | cons policy after ih =>
    have hih := ih (before ++ [policy])
    have hrank : rank trusts (before ++ policy :: after) before.length =
        before.countP trusts + if trusts policy then 1 else 0 := by
      rw [rank, List.take_length_add_append, List.take_succ_cons, List.take_zero,
        List.countP_append, List.countP_singleton]
    rw [List.length_append, List.length_singleton, List.append_assoc, List.singleton_append,
      List.countP_append, List.countP_singleton] at hih
    rw [List.zipIdx_cons, numberFrom, List.map_cons, ruleIdOf, hrank]
    by_cases htrusts : trusts policy = true
    · rw [if_pos htrusts] at hih
      rw [if_pos htrusts, if_pos htrusts, if_pos htrusts, hih]
    · rw [if_neg htrusts, Nat.add_zero] at hih
      rw [if_neg htrusts, if_neg htrusts, hih]

/-- The policies that are rendered are numbered by their ranks. -/
theorem numbered_eq (trusts : α → Bool) (policies : List α) :
    numbered trusts policies = (policies.zipIdx.take 50).map fun item =>
      ⟨item.1, item.2, ruleIdOf trusts policies item.1 item.2⟩ := by
  have htake : policies.zipIdx.take 50 = (policies.take 50).zipIdx := by
    refine List.ext_getElem? fun n => ?_
    rw [List.getElem?_take, List.getElem?_zipIdx, List.getElem?_zipIdx, List.getElem?_take]
    split
    · rfl
    · rfl
  have hnumber := numberFrom_eq trusts [] (policies.take 50)
  rw [numbered, htake]
  refine hnumber.trans (List.map_congr_left fun item hitem => ?_)
  have hindex : item.2 < 50 := by
    have hlength := List.snd_lt_of_mem_zipIdx hitem
    rw [List.length_take, List.length_nil] at hlength
    omega
  have hprefix : (policies.take 50).take (item.2 + 1) = policies.take (item.2 + 1) := by
    rw [List.take_take, Nat.min_eq_left (by omega)]
  rw [ruleIdOf, ruleIdOf, rank, List.nil_append, hprefix, rank]

/-- The rendered policies. -/
theorem mem_numbered {item : Numbered α} :
    item ∈ numbered trusts policies ↔ item.index < 50 ∧ policies[item.index]? = some item.policy ∧
      item.ruleId = ruleIdOf trusts policies item.policy item.index := by
  rw [numbered_eq, List.mem_map]
  constructor
  · rintro ⟨⟨policy, i⟩, hmem, rfl⟩
    obtain ⟨n, hn, hget⟩ := List.mem_take_iff_getElem.mp hmem
    rw [List.getElem_zipIdx, Prod.mk.injEq] at hget
    obtain ⟨rfl, rfl⟩ := hget
    rw [Nat.lt_min, List.length_zipIdx] at hn
    simp only [Nat.zero_add]
    exact ⟨hn.1, List.getElem?_eq_getElem hn.2, trivial⟩
  · rintro ⟨hindex, hget, hid⟩
    refine ⟨(item.policy, item.index), ?_, ?_⟩
    · refine List.mem_take_iff_getElem.mpr ?_
      obtain ⟨hlength, hpolicy⟩ := List.getElem?_eq_some_iff.mp hget
      exact ⟨item.index, by rw [Nat.lt_min, List.length_zipIdx]; exact ⟨hindex, hlength⟩,
        by rw [List.getElem_zipIdx, hpolicy, Nat.zero_add]⟩
    · rw [← hid]

/-- Later policies with trusted processes have greater ranks. -/
theorem rank_lt_rank {i j : ℕ} {policy : α} (hlt : i < j) (hget : policies[j]? = some policy)
    (htrusts : trusts policy = true) : rank trusts policies i < rank trusts policies j := by
  have hle : (policies.take (i + 1)).countP trusts ≤ (policies.take j).countP trusts :=
    (List.take_sublist_take_left (by omega)).countP_le
  rw [rank, rank, List.take_add_one (i := j), hget, List.countP_append, Option.toList_some,
    List.countP_singleton, if_pos htrusts]
  omega

/-- The ranks tell the policies with trusted processes apart. -/
theorem rank_injective {i j : ℕ} {policy policy' : α} (hget : policies[i]? = some policy)
    (hget' : policies[j]? = some policy') (htrusts : trusts policy = true)
    (htrusts' : trusts policy' = true) (heq : rank trusts policies i = rank trusts policies j) :
    i = j := by
  rcases Nat.lt_trichotomy i j with hlt | rfl | hlt
  · exact absurd heq (rank_lt_rank hlt hget' htrusts').ne
  · rfl
  · exact absurd heq (rank_lt_rank hlt hget htrusts).ne'

end Numbers

section Law

variable {α : Type} {trusts : α → Bool} {hashes : α → List String} {policies : List α}
  {tag : String}

/-- The line of a trusted process has this number in its second field. -/
def HasId (id : ℕ) (line : String) : Prop := (Text.split ',' line)[1]? = some (toString id)

instance (id : ℕ) (line : String) : Decidable (HasId id line) :=
  inferInstanceAs (Decidable (_ = _))

/-- The rules of each of the first 50 policies lead to the trusted processes of the policy:
they carry its number if it has trusted processes and no number otherwise, and the lines
with this number are those of its hashes. -/
structure Linked (trusts : α → Bool) (hashes : α → List String) (tag typ : String)
    (emittedFor : ℕ → String → Prop) (policies : List α) (rules trueProcess : List String) :
    Prop where
  /-- There is a rule. -/
  emitted : ∀ i policy, i < 50 → policies[i]? = some policy → ∃ line ∈ rules, emittedFor i line
  /-- The rules carry the number. -/
  carries : ∀ i policy, i < 50 → policies[i]? = some policy → ∀ line ∈ rules, emittedFor i line →
    Fields.values "type" line = [typ] ∧
      Fields.values "TPNC" line =
        if trusts policy then [toString (rank trusts policies i)] else []
  /-- The lines with the number are those of the hashes. -/
  granted : ∀ i policy, i < 50 → policies[i]? = some policy → trusts policy = true →
    trueProcess.filter (fun line => HasId (rank trusts policies i) line) =
      (hashes policy).map fun hash => trustedLine tag hash (rank trusts policies i)
  /-- A rule leads to no hash of another policy. -/
  own : ∀ i policy, i < 50 → policies[i]? = some policy → ∀ line ∈ rules, emittedFor i line →
    ∀ id, toString id ∈ Fields.values "TPNC" line → ∀ entry ∈ trueProcess, HasId id entry →
      ∃ hash ∈ hashes policy, entry = trustedLine tag hash id

/-- The second field of the line of a trusted process is its number. -/
theorem hasId_trustedLine {hash : String} {id id' : ℕ} (htag : ',' ∉ tag.toList)
    (hhash : ',' ∉ hash.toList) : HasId id' (trustedLine tag hash id) ↔ id' = id := by
  have hid : ',' ∉ (toString id).toList := Text.not_mem_toString (by decide) id
  rw [HasId, trustedLine, Text.split_joinWith (by simp [hhash, htag, -Nat.toString_eq_repr, hid])
    (List.cons_ne_nil _ _)]
  refine (Option.some.injEq _ _).to_iff.trans ?_
  exact Text.toString_injective.eq_iff.trans eq_comm

/-- Where the lines of one policy alone are picked, what is picked are these lines. -/
theorem filter_flatMap {β γ : Type} {f : β → List γ} {p : γ → Bool} {xs : List β} {x : β}
    (hnodup : xs.Nodup) (hx : x ∈ xs) (hself : ∀ c ∈ f x, p c = true)
    (hother : ∀ y ∈ xs, y ≠ x → ∀ c ∈ f y, p c = false) : (xs.flatMap f).filter p = f x := by
  have hnone (ys : List β) (h : ∀ y ∈ ys, ∀ c ∈ f y, p c = false) :
      (ys.flatMap f).filter p = [] := by
    refine List.filter_eq_nil_iff.mpr fun c hc => ?_
    obtain ⟨y, hy, hc⟩ := List.mem_flatMap.mp hc
    rw [h y hy c hc]
    exact Bool.false_ne_true
  obtain ⟨before, after, rfl⟩ := List.append_of_mem hx
  have hdistinct : ∀ y ∈ before ++ after, y ≠ x := by
    rintro y hy rfl
    have hmiddle := (List.perm_middle.nodup_iff.mp hnodup)
    exact (List.nodup_cons.mp hmiddle).1 hy
  have hmem : ∀ y ∈ before ++ after, y ∈ before ++ x :: after := by
    intro y hy
    rw [List.mem_append] at hy ⊢
    exact hy.imp id (List.mem_cons_of_mem _)
  rw [List.flatMap_append, List.flatMap_cons, List.filter_append, List.filter_append,
    hnone before, hnone after, List.filter_eq_self.mpr hself, List.nil_append, List.append_nil]
  · exact fun y hy => hother y (hmem y (List.mem_append_right _ hy))
      (hdistinct y (List.mem_append_right _ hy))
  · exact fun y hy => hother y (hmem y (List.mem_append_left _ hy))
      (hdistinct y (List.mem_append_left _ hy))

/-- The rendered policies have different indices. -/
theorem nodup_index_numbered (trusts : α → Bool) (policies : List α) :
    ((numbered trusts policies).map Numbered.index).Nodup := by
  have hmap : (numbered trusts policies).map Numbered.index =
      (policies.zipIdx.take 50).map Prod.snd := by
    rw [numbered_eq, List.map_map]
    rfl
  rw [hmap, List.map_take, List.zipIdx_map_snd]
  exact (List.nodup_range' ..).sublist (List.take_sublist _ _)

/-- The lines of the trusted processes with the number of a policy. -/
theorem filter_trustedLines (htag : ',' ∉ tag.toList)
    (hhashes : ∀ policy ∈ policies, ∀ hash ∈ hashes policy, ',' ∉ hash.toList) {i : ℕ} {policy : α}
    (hi : i < 50) (hget : policies[i]? = some policy) (htrusts : trusts policy = true) :
    ((numbered trusts policies).flatMap (trustedLines tag hashes)).filter
        (fun line => HasId (rank trusts policies i) line) =
      (hashes policy).map fun hash => trustedLine tag hash (rank trusts policies i) := by
  have hitem : (⟨policy, i, some (rank trusts policies i)⟩ : Numbered α) ∈
      numbered trusts policies :=
    mem_numbered.mpr ⟨hi, hget, by rw [ruleIdOf, if_pos htrusts]⟩
  refine filter_flatMap (List.Nodup.of_map _ (nodup_index_numbered trusts policies)) hitem ?_ ?_
  · refine List.forall_mem_map.mpr fun hash hhash => ?_
    rw [decide_eq_true_iff, hasId_trustedLine htag (hhashes _ (List.mem_of_getElem? hget) _ hhash)]
  · rintro ⟨other, j, ruleId⟩ hmem hne line hline
    obtain ⟨-, hother, hruleId⟩ := mem_numbered.mp hmem
    dsimp only at hother hruleId
    subst hruleId
    rw [ruleIdOf] at hline hne
    split at hline
    · next htrusts' =>
      rw [if_pos htrusts'] at hne
      obtain ⟨hash, hhash, rfl⟩ := List.mem_map.mp hline
      rw [decide_eq_false_iff_not, hasId_trustedLine htag (hhashes _ (List.mem_of_getElem? hother)
        _ hhash)]
      intro hrank
      obtain rfl := rank_injective hget hother htrusts htrusts' hrank
      rw [hget, Option.some.injEq] at hother
      exact hne (by rw [hother])
    · exact absurd hline List.not_mem_nil

/-- The law, from what the single rules carry. -/
theorem Linked.of_rules {typ : String} {emittedFor : ℕ → String → Prop} {rules : List String}
    (htag : ',' ∉ tag.toList)
    (hhashes : ∀ policy ∈ policies, ∀ hash ∈ hashes policy, ',' ∉ hash.toList)
    (hemitted : ∀ item ∈ numbered trusts policies, ∃ line ∈ rules, emittedFor item.index line)
    (hrules : ∀ line ∈ rules, ∃ item ∈ numbered trusts policies,
      (∀ i, emittedFor i line → i = item.index) ∧ Fields.values "type" line = [typ] ∧
        Fields.values "TPNC" line = (item.ruleId.map toString).toList) :
    Linked trusts hashes tag typ emittedFor policies rules
      ((numbered trusts policies).flatMap (trustedLines tag hashes)) := by
  have hcarries : ∀ i policy, i < 50 → policies[i]? = some policy → ∀ line ∈ rules,
      emittedFor i line → Fields.values "type" line = [typ] ∧ Fields.values "TPNC" line =
        if trusts policy then [toString (rank trusts policies i)] else [] := by
    intro i policy hi hget line hline hfor
    obtain ⟨item, hitem, hindex, htyp, htpnc⟩ := hrules line hline
    obtain ⟨-, hpolicy, hruleId⟩ := mem_numbered.mp hitem
    obtain rfl := hindex i hfor
    obtain rfl : policy = item.policy := Option.some.inj (hget.symm.trans hpolicy)
    refine ⟨htyp, ?_⟩
    rw [htpnc, hruleId, ruleIdOf]
    split
    · rfl
    · rfl
  have hgranted : ∀ i policy, i < 50 → policies[i]? = some policy → trusts policy = true → _ :=
    fun i policy hi hget htrusts => filter_trustedLines htag hhashes hi hget htrusts
  refine ⟨?_, hcarries, hgranted, ?_⟩
  · intro i policy hi hget
    exact hemitted ⟨policy, i, ruleIdOf trusts policies policy i⟩ (mem_numbered.mpr ⟨hi, hget, rfl⟩)
  · intro i policy hi hget line hline hfor id hid entry hentry hhas
    rw [(hcarries i policy hi hget line hline hfor).2] at hid
    split at hid
    · next htrusts =>
      obtain rfl := Text.toString_injective (List.mem_singleton.mp hid)
      have hpicked : entry ∈ List.filter (fun line => HasId (rank trusts policies i) line)
          ((numbered trusts policies).flatMap (trustedLines tag hashes)) :=
        List.mem_filter.mpr ⟨hentry, decide_eq_true hhas⟩
      rw [hgranted i policy hi hget htrusts] at hpicked
      obtain ⟨hash, hhash, rfl⟩ := List.mem_map.mp hpicked
      exact ⟨hash, hhash, rfl⟩
    · exact absurd hid List.not_mem_nil

/-- The lines of the trusted processes are read back. -/
theorem lines_trustedLines (items : List (Numbered α)) (htag : '\n' ∉ tag.toList)
    (hhashes : ∀ item ∈ items, ∀ hash ∈ hashes item.policy, '\n' ∉ hash.toList) :
    Text.lines (Text.unlines (items.flatMap (trustedLines tag hashes))) =
      items.flatMap (trustedLines tag hashes) := by
  refine Text.lines_unlines_of_forall fun line hline => ?_
  obtain ⟨⟨policy, i, ruleId⟩, hitem, hline⟩ := List.mem_flatMap.mp hline
  cases ruleId with
  | none => exact absurd hline List.not_mem_nil
  | some id =>
    obtain ⟨hash, hhash, rfl⟩ := List.mem_map.mp hline
    rw [trustedLine_eq_append, String.toList_append, List.mem_append]
    rintro (hbreak | hbreak)
    · exact hhashes _ hitem _ hhash hbreak
    · exact not_mem_trustedLine_end htag id hbreak

end Law

/-- What the rules of a protected directory carry. -/
theorem values_dirRule {item : Numbered PolicyProtectDir} {l : RuleLine}
    (hl : l ∈ protectRules item ++ includeRules item) :
    Fields.values "rule_idx" l.text = [toString item.index] ∧
      Fields.values "type" l.text = ["2"] ∧
      Fields.values "TPNC" l.text = (item.ruleId.map toString).toList := by
  have htidy : l.Tidy := (List.mem_append.mp hl).elim tidy_protectRules tidy_includeRules
  rw [htidy.values_text, htidy.values_text, htidy.values_text]
  rcases List.mem_append.mp hl with hl | hl
  · rw [protectRules] at hl
    split at hl
    · obtain rfl := List.mem_singleton.mp hl
      simp +decide only [RuleLine.fields, Fields.lookupAll_append, Fields.lookupAll_cons_self,
        Fields.lookupAll_cons_of_ne, Fields.lookupAll_nil, lookupAll_tpnc, lookupAll_tpnc_of_ne,
        List.cons_append, List.nil_append, List.append_nil]
    · exact absurd hl List.not_mem_nil
  · obtain ⟨part, -, rfl⟩ := List.mem_map.mp hl
    simp +decide only [RuleLine.fields, Fields.lookupAll_append, Fields.lookupAll_cons_self,
      Fields.lookupAll_cons_of_ne, Fields.lookupAll_nil, lookupAll_tpnc, lookupAll_tpnc_of_ne,
      List.cons_append, List.nil_append, List.append_nil]

/-- The manager's texts give the rules of each protected directory its trusted processes. -/
def PatternRulesMgr.ProtectLinked (m : PatternRulesMgr) (dirs : List PolicyProtectDir) : Prop :=
  Linked PolicyProtectDir.trusts PolicyProtectDir.hashes "88" "2"
    (fun i line => Fields.values "rule_idx" line = [toString i]) dirs
    (Text.lines m.protectDirRules ++ Text.lines m.protectDirIncludeExeRules)
    (Text.lines m.protectTrueProcess)

/-- The rules of the protected directories, line by line. -/
theorem lines_protectRules (items : List (Numbered PolicyProtectDir)) :
    Text.lines (ruleText (items.flatMap protectRules)) ++
        Text.lines (ruleText (items.flatMap includeRules)) =
      (items.flatMap protectRules ++ items.flatMap includeRules).map RuleLine.text := by
  rw [lines_ruleText, lines_ruleText, List.map_append]
  · intro l hl
    obtain ⟨item, -, hl⟩ := List.mem_flatMap.mp hl
    exact tidy_includeRules hl
  · intro l hl
    obtain ⟨item, -, hl⟩ := List.mem_flatMap.mp hl
    exact tidy_protectRules hl

/-- A protected directory has a rule. -/
theorem exists_dirRule (item : Numbered PolicyProtectDir) :
    ∃ l, l ∈ protectRules item ++ includeRules item := by
  refine List.exists_mem_of_ne_nil _ ?_
  by_cases hinclude : item.policy.includeFile = ""
  · rw [protectRules, if_pos hinclude]
    exact List.cons_ne_nil _ _
  · have hparts : parts item.policy.includeFile ≠ [] := by
      rw [parts, if_neg hinclude]
      simp [Text.split, List.zipIdx_eq_nil_iff]
    simpa [includeRules] using fun _ => hparts

/-- The rules of the protected directories lead to their own trusted processes. -/
theorem renderProtectDir_linked {dirs : List PolicyProtectDir}
    (hdirs : ∀ dir ∈ dirs, '\n' ∉ dir.whiteHash.toList) (m : PatternRulesMgr) :
    (renderProtectDir dirs m).ProtectLinked dirs := by
  have hrules : (renderProtectDir dirs m).ProtectLinked dirs ↔
      Linked PolicyProtectDir.trusts PolicyProtectDir.hashes "88" "2"
        (fun i line => Fields.values "rule_idx" line = [toString i]) dirs
        (((numbered PolicyProtectDir.trusts dirs).flatMap protectRules ++
          (numbered PolicyProtectDir.trusts dirs).flatMap includeRules).map RuleLine.text)
        ((numbered PolicyProtectDir.trusts dirs).flatMap
          (trustedLines "88" PolicyProtectDir.hashes)) := by
    rw [renderProtectDir_eq, PatternRulesMgr.ProtectLinked, ← lines_protectRules,
      ← lines_trustedLines _ (by decide : '\n' ∉ "88".toList)]
    · simp only [PatternRulesMgr.addProtect, clearProtectTexts, String.empty_append,
        protectTrueLines]
    · intro item hitem hash hhash hc
      obtain ⟨-, hget, -⟩ := mem_numbered.mp hitem
      exact hdirs _ (List.mem_of_getElem? hget) (Text.mem_of_mem_split hhash hc)
  rw [hrules]
  refine Linked.of_rules (by decide) ?_ ?_ ?_
  · exact fun _ _ _ hhash => Text.not_mem_of_mem_split hhash
  · intro item hitem
    obtain ⟨l, hl⟩ := exists_dirRule item
    refine ⟨l.text, List.mem_map_of_mem ?_, (values_dirRule hl).1⟩
    simp only [List.mem_append, List.mem_flatMap] at hl ⊢
    exact hl.imp (fun h => ⟨item, hitem, h⟩) fun h => ⟨item, hitem, h⟩
  · refine List.forall_mem_map.mpr fun l hl => ?_
    obtain ⟨item, hitem, hl⟩ : ∃ item ∈ numbered PolicyProtectDir.trusts dirs,
        l ∈ protectRules item ++ includeRules item := by
      simp only [List.mem_append, List.mem_flatMap] at hl ⊢
      rcases hl with ⟨item, hitem, hl⟩ | ⟨item, hitem, hl⟩
      · exact ⟨item, hitem, .inl hl⟩
      · exact ⟨item, hitem, .inr hl⟩
    obtain ⟨hindex, htyp, htpnc⟩ := values_dirRule hl
    refine ⟨item, hitem, fun i hi => ?_, htyp, htpnc⟩
    rw [hindex] at hi
    exact (Text.toString_injective (List.singleton_inj.mp hi)).symm

/-- What the rule of an export policy carries. -/
theorem values_exiportRule (item : Numbered PolicyExiporProtect) :
    Fields.values "target" (exiportRule item).text = [(PatternName.exiportInfo item.index).text] ∧
      Fields.values "type" (exiportRule item).text = ["1"] ∧
      Fields.values "TPNC" (exiportRule item).text = (item.ruleId.map toString).toList := by
  have htidy := tidy_exiportRule item
  rw [htidy.values_text, htidy.values_text, htidy.values_text]
  by_cases htyp : item.policy.typ = 1 <;>
    simp +decide only [RuleLine.fields, exiportRule, htyp, Fields.lookupAll_append,
      Fields.lookupAll_cons_self, Fields.lookupAll_cons_of_ne, Fields.lookupAll_nil,
      lookupAll_tpnc, lookupAll_tpnc_of_ne, List.cons_append, List.nil_append, List.append_nil,
      if_true, if_false]

/-- The manager's texts give the rule of each export policy its trusted processes. -/
def PatternRulesMgr.ExiportLinked (m : PatternRulesMgr) (exports : List PolicyExiporProtect) :
    Prop :=
  Linked PolicyExiporProtect.trusts PolicyExiporProtect.hashes "99" "1"
    (fun i line => Fields.values "target" line = [(PatternName.exiportInfo i).text]) exports
    (Text.lines m.exiportDirRules) (Text.lines m.exiportTrueProcess)

/-- The rules of the export policies lead to their own trusted processes. -/
theorem renderExiportDir_linked {exports : List PolicyExiporProtect}
    (hexports : ∀ policy ∈ exports, ∀ hash ∈ policy.hashes,
      '\n' ∉ hash.toList ∧ ',' ∉ hash.toList) (m : PatternRulesMgr) :
    (renderExiportDir exports m).ExiportLinked exports := by
  have hrules : (renderExiportDir exports m).ExiportLinked exports ↔
      Linked PolicyExiporProtect.trusts PolicyExiporProtect.hashes "99" "1"
        (fun i line => Fields.values "target" line = [(PatternName.exiportInfo i).text]) exports
        (((numbered PolicyExiporProtect.trusts exports).map exiportRule).map RuleLine.text)
        ((numbered PolicyExiporProtect.trusts exports).flatMap
          (trustedLines "99" PolicyExiporProtect.hashes)) := by
    rw [renderExiportDir_eq, PatternRulesMgr.ExiportLinked, ← lines_ruleText,
      ← lines_trustedLines _ (by decide : '\n' ∉ "99".toList)]
    · simp only [PatternRulesMgr.addExiport, String.empty_append, exiportTrueLines]
    · intro item hitem hash hhash
      obtain ⟨-, hget, -⟩ := mem_numbered.mp hitem
      exact (hexports _ (List.mem_of_getElem? hget) hash hhash).1
    · exact List.forall_mem_map.mpr fun item _ => tidy_exiportRule item
  rw [hrules]
  refine Linked.of_rules (by decide) ?_ ?_ ?_
  · exact fun policy hpolicy hash hhash => (hexports policy hpolicy hash hhash).2
  · intro item hitem
    exact ⟨_, List.mem_map_of_mem (List.mem_map_of_mem hitem), (values_exiportRule item).1⟩
  · refine List.forall_mem_map.mpr (List.forall_mem_map.mpr fun item hitem => ?_)
    obtain ⟨htarget, htyp, htpnc⟩ := values_exiportRule item
    refine ⟨item, hitem, fun i hi => ?_, htyp, htpnc⟩
    rw [htarget] at hi
    exact (PatternName.exiportInfo.inj (PatternName.text_injective (List.singleton_inj.mp hi))).symm

/-- **The trusted processes are linked to their own policies.** After `set_protect_dir` every
rule of a protected directory carries the number of its directory if this one has trusted
processes, and the lines with this number are the hashes of the directory; after
`set_exiport_dir` the same holds of the rules of the export policies. -/
theorem trusted_processes_linked (dirs : List PolicyProtectDir)
    (exports : List PolicyExiporProtect) (m : PatternRulesMgr) (k : Kernel)
    (hdirs : ∀ dir ∈ dirs, '\n' ∉ dir.whiteHash.toList)
    (hexports : ∀ policy ∈ exports, ∀ hash ∈ policy.hashes,
      '\n' ∉ hash.toList ∧ ',' ∉ hash.toList) :
    (setProtectDir dirs m k).1.ProtectLinked dirs ∧
      (setExiportDir exports m k).1.ExiportLinked exports := by
  have hprotect := setPatternRules_toPolicyTexts (renderProtectDir dirs m) k
  have hexiport := setPatternRules_toPolicyTexts (renderExiportDir exports m) k
  refine ⟨?_, ?_⟩
  · rw [PatternRulesMgr.ProtectLinked, setProtectDir, hprotect]
    exact renderProtectDir_linked hdirs m
  · rw [PatternRulesMgr.ExiportLinked, setExiportDir, hexiport]
    exact renderExiportDir_linked hexports m

/-- A directory without trusted processes before one with two of them. -/
def linkedDirs : List PolicyProtectDir :=
  [{ dir := "/srv/a", protectRw := 1, typ := 1, isExtend := 1, includeFile := ""
     fileExt := "log", isWhite := "", whiteHash := "" },
    { dir := "/srv/b", protectRw := 1, typ := 1, isExtend := 1, includeFile := "doc|xls"
      fileExt := "", isWhite := "/srv/b/tmp", whiteHash := "4be1,77c0" }]

/-- An export policy with a trusted process. -/
def linkedExports : List PolicyExiporProtect := [⟨"doc", 1, [("4be1", "writer")]⟩]

/-- The second directory has the first number. -/
theorem trusted_processes_linked_second :
    (setProtectDir linkedDirs {} {}).1.ProtectLinked linkedDirs ∧
      (setProtectDir linkedDirs {} {}).1.protectTrueProcess = "4be1,1,88\n77c0,1,88\n" :=
  ⟨(trusted_processes_linked linkedDirs linkedExports {} {} (by decide) (by decide)).1, by decide⟩

end LinuxAgent.Pattern
