import LinuxAgent.Pattern.Linkage
import LinuxAgent.Pattern.Writes
import Mathlib.Data.List.Forall2

/-!
# An export policy that is sent again

The export policies are read from JSON, and the trusted processes of each of them are put
into a hash map that is iterated in any order. The change detector compares the rendered
texts. So the same policies bring a reload, unless the lines of each policy read the same
in all orders, that is, unless each policy has one trusted process at most.
-/

namespace LinuxAgent.Pattern

/-- `serde_json::Number`. A `Float` is given by its text. -/
inductive Number
  | posInt (n : UInt64)
  | negInt (n : Int64)
  | float (text : String)

/-- `serde_json::Value`. Of the entries of an object with one key the first counts. -/
inductive Json
  | null
  | bool (b : Bool)
  | number (n : Number)
  | string (s : String)
  | array (items : List Json)
  | object (fields : List (String × Json))

namespace Json

/-- `Value::get` with a key. -/
def get (key : String) : Json → Option Json
  | .object fields => fields.lookup key
  | _ => none

/-- `Value::as_u64`. -/
def asU64 : Json → Option ℕ
  | .number (.posInt n) => some n.toNat
  | _ => none

/-- `Value::as_str`. -/
def asStr : Json → Option String
  | .string s => some s
  | _ => none

/-- `Value::as_array`. -/
def asArray : Json → Option (List Json)
  | .array items => some items
  | _ => none

end Json

/-- `HashMap::insert`, on the entries of a map. -/
def insertEntry (entries : List (String × String)) (key value : String) :
    List (String × String) :=
  entries.filter (fun entry => entry.1 ≠ key) ++ [(key, value)]

/-- One iteration of the loop over the processes of a policy. -/
def insertProcess (entries : List (String × String)) (process : Json) : List (String × String) :=
  match (process.get "name").bind Json.asStr, (process.get "hash").bind Json.asStr with
  | some name, some hash => insertEntry entries hash name
  | _, _ => entries

/-- One iteration of the loop of `parse_exipor_policy_from_json`. -/
def parseExiporPolicy (item : Json) : PolicyExiporProtect where
  fileType := ((item.get "file_suffix").bind Json.asStr).getD ""
  typ := ((item.get "type").bind Json.asU64).getD 0 % 256
  mapComm := (((item.get "process").bind Json.asArray).getD []).foldl insertProcess []

/-- `parse_exipor_policy_from_json`, with the entries of each map in the order of insertion. -/
def parseExiporPolicyFromJson (data : Json) : Except String (List PolicyExiporProtect) :=
  match data.asArray with
  | some items => .ok (items.map parseExiporPolicy)
  | none => .error "data is not an array"

/-- The same policy with its map in some order. -/
structure SamePolicy (policy other : PolicyExiporProtect) : Prop where
  fileType : other.fileType = policy.fileType
  typ : other.typ = policy.typ
  mapComm : other.mapComm.Perm policy.mapComm

/-- The same policies, each map in an order of its own. -/
def SamePolicies : List PolicyExiporProtect → List PolicyExiporProtect → Prop :=
  List.Forall₂ SamePolicy

/-- The writes of `set_exiport_dir`. -/
def setExiportDirWrites (exports : List PolicyExiporProtect) (m : PatternRulesMgr) : List Write :=
  setPatternRulesWrites (renderExiportDir exports m)

/-- The policies are sent twice, and whatever the orders of the maps are at each time, the
second call writes nothing. -/
def ResendIsNoOp (data : Json) (m : PatternRulesMgr) (k : Kernel) : Prop :=
  ∀ policies, parseExiporPolicyFromJson data = .ok policies →
    ∀ first second, SamePolicies policies first → SamePolicies policies second →
      setExiportDirWrites second (setExiportDir first m k).1 = []

/-- The lines of two hashes of one policy read the same in both orders. -/
def LinesCommute (id : ℕ) (a b : String) : Prop :=
  trustedLine "99" a id ++ "\n" ++ (trustedLine "99" b id ++ "\n") =
    trustedLine "99" b id ++ "\n" ++ (trustedLine "99" a id ++ "\n")

/-- In each of the first 50 policies the lines of any two hashes commute. -/
def OrderIrrelevant (policies : List PolicyExiporProtect) : Prop :=
  ∀ i policy, i < 50 → policies[i]? = some policy → ∀ a ∈ policy.hashes, ∀ b ∈ policy.hashes,
    LinesCommute (rank PolicyExiporProtect.trusts policies i) a b

section Text

variable {policies exports first second : List PolicyExiporProtect}

/-- The characters of the lines of a policy. -/
def lineChars (policies : List PolicyExiporProtect) (item : PolicyExiporProtect × ℕ) : List Char :=
  item.1.hashes.flatMap fun hash =>
    (trustedLine "99" hash (rank PolicyExiporProtect.trusts policies item.2) ++ "\n").toList

/-- The same policies have trusted processes. -/
theorem SamePolicy.trusts_eq {policy other : PolicyExiporProtect} (h : SamePolicy policy other) :
    other.trusts = policy.trusts := by
  have hnil : other.mapComm = [] ↔ policy.mapComm = [] := by
    rw [← List.length_eq_zero_iff, ← List.length_eq_zero_iff, h.mapComm.length_eq]
  rw [PolicyExiporProtect.trusts, PolicyExiporProtect.trusts]
  exact decide_eq_decide.mpr (not_congr hnil)

/-- The same policies have the same ranks. -/
theorem SamePolicies.rank_eq (h : SamePolicies policies exports) (i : ℕ) :
    rank PolicyExiporProtect.trusts exports i = rank PolicyExiporProtect.trusts policies i := by
  have hcount (ps es : List PolicyExiporProtect) (h : List.Forall₂ SamePolicy ps es) :
      es.countP PolicyExiporProtect.trusts = ps.countP PolicyExiporProtect.trusts := by
    induction h with
    | nil => rfl
    | cons hp _ ih => rw [List.countP_cons, List.countP_cons, ih, hp.trusts_eq]
  exact hcount _ _ (List.forall₂_take (i + 1) h)

/-- The text that is rendered for the same policies. -/
theorem toList_trueText (h : SamePolicies policies exports) :
    (Text.unlines (exiportTrueLines (numbered PolicyExiporProtect.trusts exports))).toList =
      (exports.zipIdx.take 50).flatMap (lineChars policies) := by
  have hlines (item : PolicyExiporProtect × ℕ) :
      ((trustedLines "99" PolicyExiporProtect.hashes
        ⟨item.1, item.2, ruleIdOf PolicyExiporProtect.trusts exports item.1 item.2⟩).flatMap
          fun line => line.toList ++ ['\n']) = lineChars policies item := by
    rw [ruleIdOf, h.rank_eq, lineChars]
    split
    · rw [trustedLines_some, List.flatMap_map]
      exact List.flatMap_congr fun hash _ => by simp
    · next htrusts =>
      have hnil : item.1.mapComm = [] := by
        simpa [PolicyExiporProtect.trusts] using htrusts
      have hnone : trustedLines "99" PolicyExiporProtect.hashes ⟨item.1, item.2, none⟩ = [] := rfl
      rw [hnone, PolicyExiporProtect.hashes, hnil, List.map_nil, List.flatMap_nil,
        List.flatMap_nil]
  rw [Text.unlines, String.toList_ofList, exiportTrueLines, numbered_eq, List.flatMap_map,
    List.flatMap_assoc]
  exact List.flatMap_congr fun item _ => hlines item

/-- Where all lines commute, the order of a map does not matter. -/
theorem lineChars_eq_of_perm {policy other : PolicyExiporProtect} {i : ℕ}
    (hperm : other.mapComm.Perm policy.mapComm)
    (hcomm : ∀ a ∈ policy.hashes, ∀ b ∈ policy.hashes,
      LinesCommute (rank PolicyExiporProtect.trusts policies i) a b) :
    lineChars policies (other, i) = lineChars policies (policy, i) := by
  have hhashes : other.hashes.Perm policy.hashes := hperm.map Prod.fst
  rw [lineChars, lineChars, List.flatMap_eq_foldl, List.flatMap_eq_foldl]
  refine hhashes.foldl_eq' (fun a ha b hb acc => ?_) []
  rw [List.append_assoc, List.append_assoc, ← String.toList_append, ← String.toList_append]
  exact congrArg (acc ++ ·.toList) (hcomm a (hhashes.subset ha) b (hhashes.subset hb))

/-- What is the same for each policy is the same for the first 50 of them. -/
theorem SamePolicies.map_eq {β : Type} {g : PolicyExiporProtect × ℕ → β}
    (h : SamePolicies policies exports)
    (hg : ∀ n policy other, n < 50 → policies[n]? = some policy → SamePolicy policy other →
      g (other, n) = g (policy, n)) :
    (exports.zipIdx.take 50).map g = (policies.zipIdx.take 50).map g := by
  refine List.ext_getElem? fun n => ?_
  rw [List.getElem?_map, List.getElem?_map, List.getElem?_take, List.getElem?_take]
  split
  · next hn =>
    rw [List.getElem?_zipIdx, List.getElem?_zipIdx, Nat.zero_add]
    cases hget : policies[n]? with
    | none =>
      have hnone : exports[n]? = none := by
        rw [List.getElem?_eq_none_iff] at hget ⊢
        exact h.length_eq ▸ hget
      rw [hnone]
    | some policy =>
      obtain ⟨hlength, hpolicy⟩ := List.getElem?_eq_some_iff.mp hget
      have hlength' : n < exports.length := h.length_eq ▸ hlength
      have hother : SamePolicy policy exports[n] := by
        rw [← hpolicy]
        exact (List.forall₂_iff_get.mp h).2 n hlength hlength'
      rw [List.getElem?_eq_getElem hlength']
      exact congrArg some (hg n policy _ hn hget hother)
  · rfl

/-- Where all lines commute, the text is the same for all orders. -/
theorem trueText_eq (hcomm : OrderIrrelevant policies) (h : SamePolicies policies exports) :
    (exports.zipIdx.take 50).flatMap (lineChars policies) =
      (policies.zipIdx.take 50).flatMap (lineChars policies) := by
  rw [List.flatMap_def, List.flatMap_def]
  refine congrArg List.flatten (h.map_eq fun n policy other hn hget hsame => ?_)
  exact lineChars_eq_of_perm hsame.mapComm (hcomm n policy hn hget)

/-- The patterns of the same policies are the same. -/
theorem SamePolicies.patterns_eq (h : SamePolicies policies exports) :
    (numbered PolicyExiporProtect.trusts exports).map exiportPattern =
      (numbered PolicyExiporProtect.trusts policies).map exiportPattern := by
  have hpattern (ps : List PolicyExiporProtect) :
      (numbered PolicyExiporProtect.trusts ps).map exiportPattern =
        (ps.zipIdx.take 50).map fun item => exiportPattern ⟨item.1, item.2, none⟩ := by
    rw [numbered_eq, List.map_map]
    rfl
  rw [hpattern, hpattern]
  refine h.map_eq fun n policy other _ _ hsame => ?_
  rw [exiportPattern, exiportPattern, hsame.fileType, hsame.typ]

/-- The text with one policy in the middle. -/
theorem trueText_middle (before : List PolicyExiporProtect) (policy : PolicyExiporProtect)
    (after : List PolicyExiporProtect) (hlength : before.length < 50) :
    ((before ++ policy :: after).zipIdx.take 50).flatMap (lineChars policies) =
      before.zipIdx.flatMap (lineChars policies) ++ lineChars policies (policy, before.length) ++
        ((after.zipIdx (before.length + 1)).take (49 - before.length)).flatMap
          (lineChars policies) := by
  rw [List.zipIdx_append, List.zipIdx_cons, List.take_append, List.take_of_length_le
    (by rw [List.length_zipIdx]; omega), List.length_zipIdx]
  have hleft : 50 - before.length = (49 - before.length) + 1 := by omega
  rw [hleft, List.take_succ_cons, List.flatMap_append, List.flatMap_cons, List.append_assoc,
    Nat.zero_add]

end Text

/-- Nothing is written just if the compared texts are those of the backup. -/
theorem setPatternRulesWrites_eq_nil {m : PatternRulesMgr} :
    setPatternRulesWrites m = [] ↔ m.pre = m.toComparedTexts := by
  rw [← patternsHasChanged_eq_false, setPatternRulesWrites]
  cases patternsHasChanged m with
  | true => exact iff_of_false (List.cons_ne_nil _ _) Bool.noConfusion
  | false => exact iff_of_true rfl rfl

/-- After a call the backup is current. -/
theorem setPatternRules_backup (m : PatternRulesMgr) (k : Kernel) :
    (setPatternRules m k).1.pre = m.toComparedTexts := by
  rw [setPatternRules_eq]
  split
  · next hsame => exact hsame
  · rfl

/-- The compared texts after rendering export policies. -/
theorem renderExiportDir_compared (exports : List PolicyExiporProtect) (m : PatternRulesMgr) :
    (renderExiportDir exports m).toComparedTexts =
      { m.toComparedTexts with
        exiportDirPatterns :=
          patternText ((numbered PolicyExiporProtect.trusts exports).map exiportPattern)
        exiportTrueProcess :=
          Text.unlines (exiportTrueLines (numbered PolicyExiporProtect.trusts exports)) } := by
  rw [renderExiportDir_eq, PatternRulesMgr.addExiport, String.empty_append, String.empty_append]

/-- The second call writes nothing just if it renders the same trusted processes. -/
theorem second_writes_eq_nil_iff {policies first second : List PolicyExiporProtect}
    (hfirst : SamePolicies policies first) (hsecond : SamePolicies policies second)
    (m : PatternRulesMgr) (k : Kernel) :
    setExiportDirWrites second (setExiportDir first m k).1 = [] ↔
      (first.zipIdx.take 50).flatMap (lineChars policies) =
        (second.zipIdx.take 50).flatMap (lineChars policies) := by
  have hpre : (renderExiportDir second (setExiportDir first m k).1).pre =
      (renderExiportDir first m).toComparedTexts :=
    ((Call.setExiportDir second).render_pre _).trans (setPatternRules_backup _ _)
  have htexts : (setExiportDir first m k).1.toComparedTexts =
      (renderExiportDir first m).toComparedTexts :=
    congrArg (·.toComparedTexts) (setPatternRules_toPolicyTexts (renderExiportDir first m) k)
  rw [setExiportDirWrites, setPatternRulesWrites_eq_nil, hpre, renderExiportDir_compared second,
    htexts, renderExiportDir_compared, hfirst.patterns_eq, hsecond.patterns_eq,
    ← toList_trueText hfirst, ← toList_trueText hsecond, String.toList_inj]
  constructor
  · intro h
    exact congrArg (·.exiportTrueProcess) h
  · intro h
    rw [h]

/-- Two hashes of a policy can be iterated first, in both orders. -/
theorem exists_orders {policy : PolicyExiporProtect} {a b : String} (ha : a ∈ policy.hashes)
    (hb : b ∈ policy.hashes) (hne : a ≠ b) :
    ∃ rest, (∃ other, SamePolicy policy other ∧ other.hashes = a :: b :: rest) ∧
      ∃ other, SamePolicy policy other ∧ other.hashes = b :: a :: rest := by
  obtain ⟨ea, hea, rfl⟩ := List.mem_map.mp ha
  obtain ⟨eb, heb, rfl⟩ := List.mem_map.mp hb
  have hrest : eb ∈ policy.mapComm.erase ea :=
    (List.mem_erase_of_ne fun heq => hne (congrArg Prod.fst heq.symm)).mpr heb
  have hperm : policy.mapComm.Perm (ea :: eb :: (policy.mapComm.erase ea).erase eb) :=
    (List.perm_cons_erase hea).trans ((List.perm_cons_erase hrest).cons ea)
  refine ⟨((policy.mapComm.erase ea).erase eb).map Prod.fst,
    ⟨{ policy with mapComm := ea :: eb :: (policy.mapComm.erase ea).erase eb }, ?_, rfl⟩,
    ⟨{ policy with mapComm := eb :: ea :: (policy.mapComm.erase ea).erase eb }, ?_, rfl⟩⟩
  · exact ⟨rfl, rfl, hperm.symm⟩
  · exact ⟨rfl, rfl, (List.Perm.swap ea eb _).trans hperm.symm⟩

/-- A policy in the middle is replaced by the same one with its map in another order. -/
theorem samePolicies_middle {policy other : PolicyExiporProtect} (h : SamePolicy policy other)
    (before after : List PolicyExiporProtect) :
    SamePolicies (before ++ policy :: after) (before ++ other :: after) := by
  have hrefl (ps : List PolicyExiporProtect) : List.Forall₂ SamePolicy ps ps :=
    List.forall₂_same.mpr fun _ _ => ⟨rfl, rfl, .refl _⟩
  exact List.rel_append (hrefl before) (.cons h (hrefl after))

/-- Where the text is the same for all orders, all lines commute. -/
theorem orderIrrelevant_of_text {policies : List PolicyExiporProtect}
    (h : ∀ first second, SamePolicies policies first → SamePolicies policies second →
      (first.zipIdx.take 50).flatMap (lineChars policies) =
        (second.zipIdx.take 50).flatMap (lineChars policies)) :
    OrderIrrelevant policies := by
  intro i policy hi hget a ha b hb
  by_cases hne : a = b
  · rw [hne, LinesCommute]
  · obtain ⟨rest, ⟨first, hfirst, hab⟩, ⟨second, hsecond, hba⟩⟩ := exists_orders ha hb hne
    obtain ⟨hlength, hpolicy⟩ := List.getElem?_eq_some_iff.mp hget
    have hsplit : policies = policies.take i ++ policy :: policies.drop (i + 1) := by
      rw [← hpolicy, ← List.drop_eq_getElem_cons hlength, List.take_append_drop]
    have hbefore : (policies.take i).length = i := by
      rw [List.length_take, Nat.min_eq_left hlength.le]
    have hsame (other : PolicyExiporProtect) (hother : SamePolicy policy other) :
        SamePolicies policies (policies.take i ++ other :: policies.drop (i + 1)) := by
      have hmiddle := samePolicies_middle hother (policies.take i) (policies.drop (i + 1))
      rwa [← hsplit] at hmiddle
    have htexts := h _ _ (hsame first hfirst) (hsame second hsecond)
    rw [trueText_middle _ _ _ (by omega), trueText_middle _ _ _ (by omega), hbefore] at htexts
    have hlines := List.append_cancel_left (List.append_cancel_right htexts)
    rw [lineChars, lineChars, hab, hba, List.flatMap_cons, List.flatMap_cons, List.flatMap_cons,
      List.flatMap_cons, ← List.append_assoc, ← List.append_assoc] at hlines
    have hpair := List.append_cancel_right hlines
    rw [← String.toList_append, ← String.toList_append, String.toList_inj] at hpair
    exact hpair

/-- Hashes without line breaks have lines that commute only if they are equal. -/
theorem linesCommute_iff {id : ℕ} {a b : String} (ha : '\n' ∉ a.toList) (hb : '\n' ∉ b.toList) :
    LinesCommute id a b ↔ a = b := by
  have htext (s t : String) : trustedLine "99" s id ++ "\n" ++ (trustedLine "99" t id ++ "\n") =
      Text.unlines [trustedLine "99" s id, trustedLine "99" t id] := by
    simp [← String.toList_inj, Text.unlines]
  have hunbroken (s : String) (hs : '\n' ∉ s.toList) : '\n' ∉ (trustedLine "99" s id).toList := by
    rw [trustedLine_eq_append, String.toList_append, List.mem_append]
    rintro (h | h)
    · exact hs h
    · exact not_mem_trustedLine_end (by decide) id h
  constructor
  · intro hcomm
    rw [LinesCommute, htext, htext] at hcomm
    have hlines := congrArg Text.lines hcomm
    rw [Text.lines_unlines_of_forall (by simp [hunbroken a ha, hunbroken b hb]),
      Text.lines_unlines_of_forall (by simp [hunbroken a ha, hunbroken b hb])] at hlines
    have hchars : a.toList ++ ("," ++ toString id ++ "," ++ "99").toList =
        b.toList ++ ("," ++ toString id ++ "," ++ "99").toList := by
      rw [← String.toList_append, ← String.toList_append, ← trustedLine_eq_append,
        ← trustedLine_eq_append, (List.cons.inj hlines).1]
    exact String.toList_inj.mp (List.append_cancel_right hchars)
  · rintro rfl
    rfl

/-- For hashes without line breaks the order does not matter just if each of the first 50
policies has one trusted process at most. -/
theorem orderIrrelevant_iff {policies : List PolicyExiporProtect}
    (hunbroken : ∀ policy ∈ policies, ∀ hash ∈ policy.hashes, '\n' ∉ hash.toList) :
    OrderIrrelevant policies ↔
      ∀ i policy, i < 50 → policies[i]? = some policy →
        ∀ a ∈ policy.hashes, ∀ b ∈ policy.hashes, a = b := by
  refine forall₄_congr fun i policy _ hget => forall₄_congr fun a ha b hb => ?_
  have hpolicy := List.mem_of_getElem? hget
  exact linesCommute_iff (hunbroken policy hpolicy a ha) (hunbroken policy hpolicy b hb)

/-- **Sending the policies again is a no-op just if the order of the maps does not matter**, that
is, if the lines of any two trusted processes of one of the first 50 policies commute. -/
theorem resend_isNoOp_iff (data : Json) (m : PatternRulesMgr) (k : Kernel) :
    ResendIsNoOp data m k ↔
      ∀ policies, parseExiporPolicyFromJson data = .ok policies → OrderIrrelevant policies := by
  refine forall₂_congr fun policies _ => ?_
  constructor
  · intro hnoop
    refine orderIrrelevant_of_text fun first second hfirst hsecond => ?_
    exact (second_writes_eq_nil_iff hfirst hsecond m k).mp (hnoop first second hfirst hsecond)
  · intro hcomm first second hfirst hsecond
    rw [second_writes_eq_nil_iff hfirst hsecond, trueText_eq hcomm hfirst,
      trueText_eq hcomm hsecond]

/-- A policy with two trusted processes. -/
def twoProcesses : Json :=
  .array [.object [("type", .number (.posInt 1)), ("file_suffix", .string "doc"),
    ("process", .array [
      .object [("name", .string "writer"), ("hash", .string "4be1")],
      .object [("name", .string "viewer"), ("hash", .string "77c0")]])]]

/-- The two processes in the other order bring a reload. -/
theorem resend_reloads : ¬ResendIsNoOp twoProcesses {} {} := by
  intro hnoop
  have hparse : parseExiporPolicyFromJson twoProcesses =
      .ok [⟨"doc", 1, [("4be1", "writer"), ("77c0", "viewer")]⟩] := by
    rfl
  have hwrites := hnoop _ hparse [⟨"doc", 1, [("4be1", "writer"), ("77c0", "viewer")]⟩]
    [⟨"doc", 1, [("77c0", "viewer"), ("4be1", "writer")]⟩]
    (.cons ⟨rfl, rfl, .refl _⟩ .nil) (.cons ⟨rfl, rfl, .swap _ _ _⟩ .nil)
  exact absurd hwrites (by decide +kernel)

end LinuxAgent.Pattern
