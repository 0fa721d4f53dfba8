import Mathlib.Data.Finset.Basic
import Mathlib.Data.Finset.Lattice.Lemmas
import Mathlib.Data.Finset.SDiff
import Mathlib.Tactic.Tauto
import LinuxAgent.ProcessMgr.Policy

/-!
# The kernel mirrors the process lists

The rules are differences, so the manager and the kernel must agree on what the
kernel has. They do after every call: the kernel lists are the mirrors of the
manager, they are disjoint, and the kernel is notified exactly when one has changed.
-/

namespace LinuxAgent.ProcessMgr

/-- A path without blanks, equality signs and line breaks. -/
def IsPlain (path : String) : Prop := ∀ c ∈ path.toList, c ≠ ' ' ∧ c ≠ '=' ∧ c ≠ '\n'

instance (path : String) : Decidable (IsPlain path) :=
  List.decidableBAll (fun c => c ≠ ' ' ∧ c ≠ '=' ∧ c ≠ '\n') path.toList

/-- A text that ends in a line break is parsed as the line before it. -/
theorem parseRule_eq {rule : String} {line : List Char} (hrule : rule.toList = line ++ ['\n']) :
    parseRule rule = parseLine line := by
  simp [parseRule, hrule]

/-- A rule that takes a path off a list is understood as such. -/
theorem parseRule_del (side : Side) (path : String) :
    parseRule s!"del {side.digit} {path}\n" = some (.del side path) := by
  cases side with
  | white =>
    have hrule : (s!"del {Side.white.digit} {path}\n").toList =
        ("del 0 ".toList ++ path.toList) ++ ['\n'] := by
      simp [Side.digit, toString]
    rw [parseRule_eq hrule, parseLine, if_pos (by simp)]
    simp
  | black =>
    have hrule : (s!"del {Side.black.digit} {path}\n").toList =
        ("del 1 ".toList ++ path.toList) ++ ['\n'] := by
      simp [Side.digit, toString]
    rw [parseRule_eq hrule, parseLine, if_neg (by simp), if_pos (by simp)]
    simp

/-- A rule that puts a plain path on a list is understood as such. -/
theorem parseRule_add (side : Side) {path : String} (hpath : IsPlain path) :
    parseRule s!"{path}={side.digit}\n" = some (.add side path) := by
  have hdel (c : Char) :
      ¬ ("del ".toList ++ [c, ' ']) <+: path.toList ++ ('=' :: side.digit.toList) := by
    intro hpre
    have hblank : ' ' ∈ path.toList ++ ('=' :: side.digit.toList) := hpre.subset (by simp)
    rcases List.mem_append.mp hblank with hmem | hmem
    · exact (hpath ' ' hmem).1 rfl
    · cases side <;> revert hmem <;> decide
  have htake : (path.toList ++ ('=' :: side.digit.toList)).takeWhile (· ≠ '=') = path.toList := by
    rw [List.takeWhile_append_of_pos]
    · simp
    · intro c hc
      simpa using (hpath c hc).2.1
  have hdrop : (path.toList ++ ('=' :: side.digit.toList)).dropWhile (· ≠ '=') =
      '=' :: side.digit.toList := by
    rw [List.dropWhile_append_of_pos]
    · simp
    · intro c hc
      simpa using (hpath c hc).2.1
  have hrule : (s!"{path}={side.digit}\n").toList =
      (path.toList ++ ('=' :: side.digit.toList)) ++ ['\n'] := by
    simp [toString]
  rw [parseRule_eq hrule, parseLine, if_neg, if_neg, htake, hdrop]
  · cases side <;> simp [Side.digit]
  · rw [List.isPrefixOf_iff_prefix]
    exact hdel '1'
  · rw [List.isPrefixOf_iff_prefix]
    exact hdel '0'

/-- Writing a rule that takes a path off a list. -/
theorem addMd5Rules_del (side : Side) (path : String) (k : Kernel) :
    addMd5Rules s!"del {side.digit} {path}\n" k = k.apply (.del side path) := by
  rw [addMd5Rules, parseRule_del]

/-- Writing a rule that puts a plain path on a list. -/
theorem addMd5Rules_add (side : Side) {path : String} (hpath : IsPlain path) (k : Kernel) :
    addMd5Rules s!"{path}={side.digit}\n" k = k.apply (.add side path) := by
  rw [addMd5Rules, parseRule_add side hpath]

/-- Replace one list of the kernel. -/
def Kernel.withList (k : Kernel) (side : Side) (s : Finset String) : Kernel :=
  { k with list := Function.update k.list side s }

/-- Replacing a list twice. -/
theorem Kernel.withList_withList (k : Kernel) (side : Side) (s t : Finset String) :
    (k.withList side s).withList side t = k.withList side t := by
  simp [Kernel.withList]

/-- Replacing a list by itself. -/
theorem Kernel.withList_self (k : Kernel) (side : Side) : k.withList side (k.list side) = k := by
  simp [Kernel.withList]

/-- The list that was replaced. -/
theorem Kernel.list_withList (k : Kernel) (side : Side) (s : Finset String) :
    (k.withList side s).list side = s := by
  simp [Kernel.withList]

/-- The first loop takes the paths off the other list and its mirror. -/
theorem foldl_moveOver (side : Side) (order : List String) (k : Kernel) (changed : Bool) :
    order.foldl (moveOver side) (k.list side.other, k, changed) =
      (k.list side.other \ order.toFinset,
        k.withList side.other (k.list side.other \ order.toFinset),
        changed || decide (∃ path ∈ order, path ∈ k.list side.other)) := by
  induction order generalizing k changed with
  | nil => simp [Kernel.withList_self]
  | cons path rest ih =>
    rw [List.foldl_cons, moveOver]
    by_cases hmem : path ∈ k.list side.other
    · have hset : (k.list side.other).erase path \ rest.toFinset =
          k.list side.other \ (path :: rest).toFinset := by
        ext x
        simp only [Finset.mem_sdiff, Finset.mem_erase, List.toFinset_cons, Finset.mem_insert]
        tauto
      have hnext := ih (k.withList side.other ((k.list side.other).erase path)) true
      rw [Kernel.list_withList, Kernel.withList_withList, hset] at hnext
      rw [if_pos hmem, addMd5Rules_del]
      exact hnext.trans (by simp [hmem])
    · have hset : k.list side.other \ rest.toFinset =
          k.list side.other \ (path :: rest).toFinset := by
        rw [List.toFinset_cons, Finset.sdiff_insert_of_notMem hmem]
      rw [if_neg hmem, ih k changed, hset]
      simp [hmem]

/-- The second loop sends the paths that are not in the mirror. -/
theorem foldl_sendNew (side : Side) (prev : Finset String) (order : List String)
    (hplain : ∀ path ∈ order, IsPlain path) (k : Kernel) (changed : Bool) :
    order.foldl (sendNew side prev) (k, changed) =
      (k.withList side (k.list side ∪ (order.toFinset \ prev)),
        changed || decide (∃ path ∈ order, path ∉ prev)) := by
  induction order generalizing k changed with
  | nil => simp [Kernel.withList_self]
  | cons path rest ih =>
    have hrest : ∀ path ∈ rest, IsPlain path := fun x hx => hplain x (List.mem_cons_of_mem _ hx)
    rw [List.foldl_cons, sendNew]
    by_cases hmem : path ∈ prev
    · rw [if_neg (not_not.mpr hmem), ih hrest k changed, List.toFinset_cons,
        Finset.insert_sdiff_of_mem _ hmem]
      simp [hmem]
    · have hset : insert path (k.list side) ∪ (rest.toFinset \ prev) =
          k.list side ∪ ((path :: rest).toFinset \ prev) := by
        rw [List.toFinset_cons, Finset.insert_sdiff_of_notMem _ hmem, Finset.insert_union,
          Finset.union_insert]
      have hnext := ih hrest (k.withList side (insert path (k.list side))) true
      rw [Kernel.list_withList, Kernel.withList_withList, hset] at hnext
      rw [if_pos hmem, addMd5Rules_add side (hplain path List.mem_cons_self)]
      exact hnext.trans (by simp [hmem])

/-- The third loop takes back the paths that are not in the list. -/
theorem foldl_takeBack (side : Side) (current : Finset String) (order : List String) (k : Kernel)
    (changed : Bool) :
    order.foldl (takeBack side current) (k, changed) =
      (k.withList side (k.list side \ (order.toFinset \ current)),
        changed || decide (∃ path ∈ order, path ∉ current)) := by
  induction order generalizing k changed with
  | nil => simp [Kernel.withList_self]
  | cons path rest ih =>
    rw [List.foldl_cons, takeBack]
    by_cases hmem : path ∈ current
    · rw [if_neg (not_not.mpr hmem), ih k changed, List.toFinset_cons,
        Finset.insert_sdiff_of_mem _ hmem]
      simp [hmem]
    · have hset : (k.list side).erase path \ (rest.toFinset \ current) =
          k.list side \ ((path :: rest).toFinset \ current) := by
        rw [List.toFinset_cons, Finset.insert_sdiff_of_notMem _ hmem]
        ext x
        simp only [Finset.mem_sdiff, Finset.mem_erase, Finset.mem_insert]
        tauto
      have hnext := ih (k.withList side ((k.list side).erase path)) true
      rw [Kernel.list_withList, Kernel.withList_withList, hset] at hnext
      rw [if_pos hmem, addMd5Rules_del]
      exact hnext.trans (by simp [hmem])

/-- The lists after a call: the list is replaced, and its paths leave the other one. -/
def listsAfter (lists : Side → Finset String) (side : Side) (current : Finset String) :
    Side → Finset String :=
  Function.update (Function.update lists side.other (lists side.other \ current)) side current

/-- A list is not the other one. -/
theorem Side.ne_other (side : Side) : side ≠ side.other := by cases side <;> decide

/-- The lists stay the same exactly when the list is the old one and shares no path with
the other. -/
theorem listsAfter_eq_self {lists : Side → Finset String} {side : Side} {current : Finset String} :
    listsAfter lists side current = lists ↔
      (∀ path ∈ current, path ∉ lists side.other) ∧ current = lists side := by
  constructor
  · intro heq
    have hown := congrFun heq side
    have hother := congrFun heq side.other
    simp only [listsAfter, Function.update_self, Function.update_of_ne side.ne_other.symm,
      Finset.sdiff_eq_self_iff_disjoint, Finset.disjoint_right] at hown hother
    exact ⟨hother, hown⟩
  · rintro ⟨hother, hown⟩
    have hdisjoint : lists side.other \ current = lists side.other :=
      Finset.sdiff_eq_self_of_disjoint (Finset.disjoint_right.mpr hother)
    rw [listsAfter, hdisjoint, Function.update_eq_self, hown, Function.update_eq_self]

/-- Adding what is new and taking back what is old gives the new list. -/
theorem union_sdiff_sdiff (prev current : Finset String) :
    (prev ∪ (current \ prev)) \ (prev \ current) = current := by
  ext path
  simp only [Finset.mem_sdiff, Finset.mem_union]
  tauto

/-- The list that was not replaced. -/
theorem Kernel.list_withList_other (k : Kernel) (side : Side) (s : Finset String) :
    (k.withList side.other s).list side = k.list side :=
  Function.update_of_ne side.ne_other _ _

/-- The flag that the three loops raise. -/
def flagged (lists : Side → Finset String) (side : Side) (order prevOrder : List String)
    (current : Finset String) : Bool :=
  decide (∃ path ∈ order, path ∈ lists side.other) ||
    decide (∃ path ∈ order, path ∉ lists side) || decide (∃ path ∈ prevOrder, path ∉ current)

/-- The flag is down exactly when the lists stay the same. -/
theorem flagged_eq_false {lists : Side → Finset String} {side : Side} {current : Finset String}
    {order prevOrder : List String} (horder : order.toFinset = current)
    (hprevOrder : prevOrder.toFinset = lists side) :
    flagged lists side order prevOrder current = false ↔ listsAfter lists side current = lists := by
  have hmem (path : String) : path ∈ order ↔ path ∈ current := by rw [← horder, List.mem_toFinset]
  have hprev (path : String) : path ∈ prevOrder ↔ path ∈ lists side := by
    rw [← hprevOrder, List.mem_toFinset]
  simp only [flagged, Bool.or_eq_false_iff, decide_eq_false_iff_not, not_exists, not_and, not_not,
    hmem, hprev]
  rw [listsAfter_eq_self, and_assoc, Finset.Subset.antisymm_iff]
  rfl

/-- The loops of a call whose mirrors agree with the kernel. -/
theorem setPolicyProcess_eq {processList : List String} {side : Side}
    {order prevOrder : List String} {m : ProcessPolicyManager} {k : Kernel}
    (hmirror : k.list = m.prevSet) (hplain : ∀ path ∈ processList, IsPlain path)
    (horder : Enumerates order processList.toFinset)
    (hprevOrder : Enumerates prevOrder (m.prevSet side)) :
    let current := processList.toFinset
    let prevSet := Function.update m.prevSet side.other (m.prevSet side.other \ current)
    let k' : Kernel := { k with list := listsAfter k.list side current }
    setPolicyProcess processList side order prevOrder m k =
      if flagged k.list side order prevOrder current then
        (⟨Function.update m.set side current, Function.update prevSet side current⟩,
          notifyKernelUpdate k')
      else (⟨Function.update m.set side current, prevSet⟩, k') := by
  have hplain' : ∀ path ∈ order, IsPlain path := by
    intro path hpath
    rw [← List.mem_toFinset, horder.2, List.mem_toFinset] at hpath
    exact hplain path hpath
  have hlist : ((k.withList side.other (k.list side.other \ processList.toFinset)).withList side
      processList.toFinset) = { k with list := listsAfter k.list side processList.toFinset } := rfl
  dsimp only [setPolicyProcess]
  rw [← hmirror] at hprevOrder ⊢
  rw [foldl_moveOver]
  dsimp only
  rw [foldl_sendNew side (k.list side) order hplain']
  dsimp only
  rw [foldl_takeBack]
  simp only [Kernel.list_withList, Kernel.withList_withList, Kernel.list_withList_other, horder.2,
    hprevOrder.2, union_sdiff_sdiff, hlist, Bool.false_or]
  rfl

/-- What a call does when the mirrors agree with the kernel: the lists change, the
mirrors with them, and the kernel is notified exactly if there was a change. -/
theorem setPolicyProcess_spec {processList : List String} {side : Side}
    {order prevOrder : List String} {m : ProcessPolicyManager} {k : Kernel}
    (hmirror : k.list = m.prevSet) (hplain : ∀ path ∈ processList, IsPlain path)
    (horder : Enumerates order processList.toFinset)
    (hprevOrder : Enumerates prevOrder (m.prevSet side)) :
    let result := setPolicyProcess processList side order prevOrder m k
    result.2.list = listsAfter k.list side processList.toFinset ∧
      result.1.prevSet = result.2.list ∧
      (result.2.list ≠ k.list ∧ result.2.processRt = k.processRt ++ ["update\n"] ∨
        result.2.list = k.list ∧ result.2.processRt = k.processRt) := by
  rw [setPolicyProcess_eq hmirror hplain horder hprevOrder, ← hmirror]
  have hflag := flagged_eq_false horder.2 (hprevOrder.2.trans (congrFun hmirror side).symm)
  cases hchanged : flagged k.list side order prevOrder processList.toFinset with
  | true =>
    have hne : listsAfter k.list side processList.toFinset ≠ k.list := by
      intro heq
      rw [hflag.mpr heq] at hchanged
      cases hchanged
    exact ⟨rfl, rfl, .inl ⟨hne, rfl⟩⟩
  | false =>
    have hsame := hflag.mp hchanged
    obtain ⟨-, hown⟩ := listsAfter_eq_self.mp hsame
    refine ⟨rfl, ?_, .inr ⟨hsame, rfl⟩⟩
    change Function.update k.list side.other (k.list side.other \ processList.toFinset) =
      listsAfter k.list side processList.toFinset
    rw [listsAfter, eq_comm, Function.update_eq_self_iff, Function.update_of_ne side.ne_other]
    exact hown

/-- The paths of a call are plain. -/
def Call.Plain (call : Call) : Prop := ∀ path ∈ call.processList, IsPlain path

instance (call : Call) : Decidable call.Plain :=
  List.decidableBAll IsPlain call.processList

namespace Session

/-- The kernel lists are the mirrors of the manager and share no path. -/
structure Mirrors (s : Session) : Prop where
  /-- The white list is `prev_white_set`. -/
  white : s.kernel.list .white = s.mgr.prevSet .white
  /-- The black list is `prev_black_set`. -/
  black : s.kernel.list .black = s.mgr.prevSet .black
  /-- No process is on both lists. -/
  disjoint : Disjoint (s.kernel.list .white) (s.kernel.list .black)

/-- The effect of a call on the kernel. -/
structure Effect (s : Session) (call : Call) (s' : Session) : Prop where
  /-- The list is the one of the call. -/
  own : s'.kernel.list call.side = call.processList.toFinset
  /-- Its paths leave the other list. -/
  other : s'.kernel.list call.side.other =
    s.kernel.list call.side.other \ call.processList.toFinset
  /-- `update` is written exactly when a list has changed. -/
  update : s'.kernel.list ≠ s.kernel.list ∧
      s'.kernel.processRt = s.kernel.processRt ++ ["update\n"] ∨
    s'.kernel.list = s.kernel.list ∧ s'.kernel.processRt = s.kernel.processRt

/-- The mirrors agree with the kernel as functions of the side. -/
theorem Mirrors.list_eq {s : Session} (hs : s.Mirrors) : s.kernel.list = s.mgr.prevSet := by
  funext side
  cases side with
  | white => exact hs.white
  | black => exact hs.black

/-- Disjointness does not depend on the side from which it is seen. -/
theorem disjoint_of_side {lists : Side → Finset String} {side : Side}
    (hdisjoint : Disjoint (lists side) (lists side.other)) :
    Disjoint (lists .white) (lists .black) := by
  cases side with
  | white => exact hdisjoint
  | black => exact hdisjoint.symm

/-- A call keeps the mirrors and has its effect. -/
theorem Mirrors.step {s s' : Session} {call : Call} (hs : s.Mirrors) (hplain : call.Plain)
    (hstep : system.step s call = some s') : s'.Mirrors ∧ s.Effect call s' := by
  obtain ⟨⟨horder, hprevOrder⟩, hresult⟩ := Option.ite_none_right_eq_some.mp hstep
  obtain rfl := Option.some.inj hresult
  obtain ⟨hlist, hprev, hupdate⟩ := setPolicyProcess_spec hs.list_eq hplain horder hprevOrder
  generalize setPolicyProcess call.processList call.side call.order call.prevOrder s.mgr s.kernel =
    result at hlist hprev hupdate ⊢
  have hown : result.2.list call.side = call.processList.toFinset := by
    rw [hlist]
    exact Function.update_self _ _ _
  have hother : result.2.list call.side.other =
      s.kernel.list call.side.other \ call.processList.toFinset := by
    rw [hlist, listsAfter, Function.update_of_ne call.side.ne_other.symm, Function.update_self]
  have hdisjoint : Disjoint (result.2.list call.side) (result.2.list call.side.other) := by
    rw [hown, hother]
    exact Finset.disjoint_sdiff
  exact ⟨⟨congrFun hprev.symm .white, congrFun hprev.symm .black, disjoint_of_side hdisjoint⟩,
    hown, hother, hupdate⟩

/-- In every state, a call can be made: the sets have an order. -/
theorem exists_step (s : Session) (processList : List String) (side : Side) :
    ∃ call s', call.processList = processList ∧ call.side = side ∧
      system.step s call = some s' := by
  refine
    ⟨⟨processList, side, processList.toFinset.toList, (s.mgr.prevSet side).toList⟩, _, rfl, rfl,
    if_pos ⟨⟨?_, ?_⟩, ⟨?_, ?_⟩⟩⟩
  · exact Finset.nodup_toList _
  · exact Finset.toList_toFinset _
  · exact Finset.nodup_toList _
  · exact Finset.toList_toFinset _

/-- **The kernel mirrors the process lists.** After every sequence of calls with plain
paths, the kernel lists are the mirrors of the manager and disjoint. Every further
call replaces its list, takes its paths off the other one and writes `update` exactly
when a list has changed, whatever the order in which the sets are iterated. -/
theorem process_lists_mirrored (s : Session)
    (hreach : system.Reaches (fun _ call => call.Plain) s) :
    s.Mirrors ∧ (∀ call s', call.Plain → system.step s call = some s' → s.Effect call s') ∧
      ∀ processList side, ∃ call s', call.processList = processList ∧ call.side = side ∧
        system.step s call = some s' := by
  have hmirrors : s.Mirrors := by
    refine hreach.invariant (I := Mirrors) ?_ ?_
    · rintro _ rfl
      exact ⟨rfl, rfl, Finset.disjoint_empty_left _⟩
    · intro s call s' hs hplain hstep
      exact (hs.step hplain hstep).1
  exact ⟨hmirrors, fun call s' hplain hstep => (hmirrors.step hplain hstep).2, exists_step s⟩

/-- A path that is trusted and then blocked is on the black list only. -/
theorem process_lists_mirrored_overlap :
    ∃ s : Session, s.Mirrors ∧ s.kernel.list .white = {"/bin/a"} ∧
      s.kernel.list .black = {"/bin/b"} ∧ s.kernel.processRt = ["update\n", "update\n"] := by
  have hexec : (system.exec initial
      [⟨["/bin/a", "/bin/b"], .white, ["/bin/b", "/bin/a"], []⟩,
        ⟨["/bin/b", "/bin/b"], .black, ["/bin/b"], []⟩]).map
        (fun s => (s.kernel.list .white, s.kernel.list .black, s.kernel.processRt)) =
      some ({"/bin/a"}, {"/bin/b"}, ["update\n", "update\n"]) := by decide
  obtain ⟨s, hexec, hs⟩ := Option.map_eq_some_iff.mp hexec
  have hreach : system.Reaches (fun _ call => call.Plain) s := by
    refine (Runs.System.Reaches.init rfl).exec (.of_forall ?_ _) hexec
    intro call hcall _
    simp only [List.mem_cons, List.not_mem_nil, or_false] at hcall
    rcases hcall with rfl | rfl <;> decide
  simp only [Prod.mk.injEq] at hs
  exact ⟨s, (process_lists_mirrored s hreach).1, hs⟩

end Session

end LinuxAgent.ProcessMgr
