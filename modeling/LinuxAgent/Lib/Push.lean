import Mathlib.Logic.Function.Basic
import Mathlib.Data.List.Nodup

/-!
# Pushing settings that have changed

A client pushes settings to a target one after the other and remembers what it has
pushed, so that it writes only what differs from its memory. A write may fail, and
then the rest is not reached. Settings differ in whether they are remembered before
the write or only after it has succeeded, and some are remembered without a write.
What counts is only whether the memory and the target agree with the value wanted.
-/

namespace Push

/-- For each setting, whether the memory and the target have the value wanted. -/
structure State (ι : Type*) where
  /-- The remembered value is the one wanted. -/
  remembered : ι → Bool
  /-- The target has the value wanted. -/
  held : ι → Bool

/-- How the settings are pushed. -/
structure Policy (ι : Type*) where
  /-- The setting is remembered but not written. -/
  skips : ι → Bool
  /-- The setting is remembered only after its write has succeeded. -/
  late : ι → Bool

/-- What a push leaves: the state, the writes with their success, and whether it came
to its end. -/
structure Result (ι : Type*) where
  state : State ι
  writes : List (ι × Bool)
  ok : Bool

variable {ι : Type*} [DecidableEq ι] {P : Policy ι} {fails : ι → Bool} {s : State ι}

/-- The memory takes the value wanted. -/
def State.remember (s : State ι) (i : ι) : State ι :=
  { s with remembered := Function.update s.remembered i true }

/-- The memory and the target take the value wanted. -/
def State.settle (s : State ι) (i : ι) : State ι :=
  ⟨Function.update s.remembered i true, Function.update s.held i true⟩

/-- A write of the setting is due. -/
def Policy.due (P : Policy ι) (s : State ι) (i : ι) : Bool := !s.remembered i && !P.skips i

/-- Push one setting. -/
def Policy.pushOne (P : Policy ι) (fails : ι → Bool) (i : ι) (s : State ι) : Result ι :=
  if s.remembered i then ⟨s, [], true⟩
  else if P.skips i then ⟨s.remember i, [], true⟩
  else if fails i then ⟨if P.late i then s else s.remember i, [(i, false)], false⟩
  else ⟨s.settle i, [(i, true)], true⟩

/-- Go on after a push that came to its end. -/
def Result.andThen (r : Result ι) (next : State ι → Result ι) : Result ι :=
  if r.ok then ⟨(next r.state).state, r.writes ++ (next r.state).writes, (next r.state).ok⟩ else r

/-- Push settings one after the other, up to the first write that fails. -/
def Policy.pushAll (P : Policy ι) (fails : ι → Bool) : List ι → State ι → Result ι
  | [], s => ⟨s, [], true⟩
  | i :: rest, s => (P.pushOne fails i s).andThen (P.pushAll fails rest)

/-- The state after a push of these settings without a failure. -/
def Policy.after (P : Policy ι) (l : List ι) (s : State ι) : State ι :=
  ⟨fun i => decide (i ∈ l) || s.remembered i, fun i => s.held i || (decide (i ∈ l) && P.due s i)⟩

omit [DecidableEq ι] in
/-- What is due, in terms of memory and policy. -/
theorem Policy.due_eq_true {i : ι} :
    P.due s i = true ↔ s.remembered i = false ∧ P.skips i = false := by
  simp [Policy.due]

/-- Nothing is done for no setting. -/
theorem Policy.after_nil (P : Policy ι) (s : State ι) : P.after [] s = s := by
  simp [Policy.after]

/-- Settings that have not been pushed are as due as before. -/
theorem Policy.due_after {l : List ι} {i : ι} (hi : i ∉ l) :
    P.due (P.after l s) i = P.due s i := by
  simp [Policy.due, Policy.after, hi]

/-- Nothing that has been pushed is due. -/
theorem Policy.not_due_after {l : List ι} {i : ι} (hi : i ∈ l) :
    P.due (P.after l s) i = false := by
  simp [Policy.due, Policy.after, hi]

/-- Two pushes of different settings are one. -/
theorem Policy.after_cons {l : List ι} {i : ι} (hi : i ∉ l) (s : State ι) :
    P.after l (P.after [i] s) = P.after (i :: l) s := by
  have hremembered (j : ι) : (P.after l (P.after [i] s)).remembered j =
      (P.after (i :: l) s).remembered j := by
    by_cases hj : j = i <;> simp [Policy.after, hj]
  have hheld (j : ι) : (P.after l (P.after [i] s)).held j = (P.after (i :: l) s).held j := by
    by_cases hj : j = i
    · simp [Policy.after, hj, hi]
    · simp [Policy.after, Policy.due, hj]
  exact congrArg₂ State.mk (funext hremembered) (funext hheld)

/-- A push of one setting whose write does not fail. -/
theorem Policy.pushOne_ok {i : ι} (hfails : P.due s i = true → fails i = false) :
    P.pushOne fails i s = ⟨P.after [i] s, ([i].filter (P.due s)).map fun j => (j, true), true⟩ := by
  have hupdate (f : ι → Bool) : (fun j => decide (j = i) || f j) = Function.update f i true := by
    funext j
    by_cases hj : j = i <;> simp [hj]
  unfold Policy.pushOne
  cases hremembered : s.remembered i with
  | true =>
    have hsame : P.after [i] s = s := by
      obtain ⟨remembered, held⟩ := s
      have hmem (j : ι) : (decide (j = i) || remembered j) = remembered j := by
        by_cases hj : j = i
        · subst hj
          simpa using hremembered
        · simp [hj]
      have hheld (j : ι) : (held j || (decide (j = i) && P.due ⟨remembered, held⟩ j)) = held j := by
        by_cases hj : j = i
        · subst hj
          simp_all [Policy.due]
        · simp [hj]
      simp only [Policy.after, List.mem_singleton, hmem, hheld]
    simp [hsame, Policy.due, hremembered]
  | false =>
    cases hskips : P.skips i with
    | true =>
      have hheld (j : ι) : (s.held j || (decide (j = i) && P.due s j)) = s.held j := by
        by_cases hj : j = i
        · subst hj
          simp [Policy.due, hskips]
        · simp [hj]
      simp only [if_true, Bool.false_eq_true, if_false, Policy.after, State.remember,
        List.mem_singleton, hupdate, hheld]
      simp [Policy.due, hskips]
    | false =>
      have hdue : P.due s i = true := Policy.due_eq_true.mpr ⟨hremembered, hskips⟩
      have hheld (j : ι) : (s.held j || (decide (j = i) && P.due s j)) =
          Function.update s.held i true j := by
        by_cases hj : j = i
        · subst hj
          simp [hdue]
        · simp [hj]
      simp only [hfails hdue, Bool.false_eq_true, if_false, Policy.after, State.settle,
        List.mem_singleton, hupdate, hheld]
      simp [hdue]

/-- A push of settings whose writes do not fail. -/
theorem Policy.pushAll_ok {l : List ι} (hnodup : l.Nodup)
    (hfails : ∀ i ∈ l, P.due s i = true → fails i = false) :
    P.pushAll fails l s = ⟨P.after l s, (l.filter (P.due s)).map fun i => (i, true), true⟩ := by
  induction l generalizing s with
  | nil => simp [Policy.pushAll, Policy.after_nil]
  | cons i rest ih =>
    obtain ⟨hi, hrest⟩ := List.nodup_cons.mp hnodup
    have hdue (j : ι) (hj : j ∈ rest) : P.due (P.after [i] s) j = P.due s j :=
      Policy.due_after (by rintro hji; exact hi (List.mem_singleton.mp hji ▸ hj))
    have hih := ih (s := P.after [i] s) hrest fun j hj hd =>
      hfails j (List.mem_cons_of_mem _ hj) ((hdue j hj).symm.trans hd)
    rw [Policy.pushAll, Policy.pushOne_ok (hfails i List.mem_cons_self), Result.andThen, if_pos rfl,
      hih, Policy.after_cons hi, List.filter_congr hdue, ← List.map_append, ← List.filter_append]
    rfl

omit [DecidableEq ι] in
/-- Going on twice. -/
theorem Result.andThen_assoc (r : Result ι) (f g : State ι → Result ι) :
    (r.andThen f).andThen g = r.andThen fun s => (f s).andThen g := by
  obtain ⟨state, writes, ok⟩ := r
  cases ok with
  | false => simp [Result.andThen]
  | true =>
    simp only [Result.andThen, if_true]
    split <;> simp

/-- A push in two parts. -/
theorem Policy.pushAll_append (P : Policy ι) (fails : ι → Bool) (l₁ l₂ : List ι) (s : State ι) :
    P.pushAll fails (l₁ ++ l₂) s = (P.pushAll fails l₁ s).andThen (P.pushAll fails l₂) := by
  induction l₁ generalizing s with
  | nil => simp [Policy.pushAll, Result.andThen]
  | cons i rest ih =>
    rw [List.cons_append, Policy.pushAll, Policy.pushAll, Result.andThen_assoc]
    exact congrArg _ (funext ih)

/-- A push whose first failing write is the one of `k`. -/
theorem Policy.pushAll_fail {pre post : List ι} {k : ι} (hnodup : (pre ++ k :: post).Nodup)
    (hfails : ∀ i ∈ pre, P.due s i = true → fails i = false) (hdue : P.due s k = true)
    (hk : fails k = true) :
    P.pushAll fails (pre ++ k :: post) s =
      ⟨if P.late k then P.after pre s else (P.after pre s).remember k,
        (pre.filter (P.due s)).map (fun i => (i, true)) ++ [(k, false)], false⟩ := by
  have hk' : k ∉ pre := fun hmem =>
    (List.disjoint_of_nodup_append hnodup) hmem List.mem_cons_self
  have hpre := Policy.pushAll_ok (List.Nodup.of_append_left hnodup) hfails
  have hdue' := Policy.due_eq_true.mp ((Policy.due_after hk').trans hdue)
  rw [Policy.pushAll_append, hpre, Result.andThen, if_pos rfl, Policy.pushAll, Policy.pushOne]
  simp [hdue'.1, hdue'.2, hk, Result.andThen]

section Failure

variable {pre post : List ι} {k : ι}

/-- What is due after a failed push: nothing of what it got done, the failed write if
it is remembered late, and the rest as before. -/
theorem Policy.due_pushAll_fail (hnodup : (pre ++ k :: post).Nodup)
    (hfails : ∀ i ∈ pre, P.due s i = true → fails i = false) (hdue : P.due s k = true)
    (hk : fails k = true) (i : ι) :
    P.due (P.pushAll fails (pre ++ k :: post) s).state i =
      if i = k then P.late k else !decide (i ∈ pre) && P.due s i := by
  have hkpre : k ∉ pre := fun hmem =>
    (List.disjoint_of_nodup_append hnodup) hmem List.mem_cons_self
  have hafter : P.due (P.after pre s) i = (!decide (i ∈ pre) && P.due s i) := by
    by_cases hi : i ∈ pre
    · simp [Policy.not_due_after hi, hi]
    · simp [Policy.due_after hi, hi]
  rw [Policy.pushAll_fail hnodup hfails hdue hk]
  by_cases hik : i = k
  · subst hik
    cases P.late i with
    | true => simpa [hkpre, hdue] using hafter
    | false => simp [Policy.due, State.remember]
  · rw [if_neg hik, ← hafter]
    cases P.late k with
    | true => rfl
    | false => simp [Policy.due, State.remember, hik]

/-- What the target holds after a failed push. -/
theorem Policy.held_pushAll_fail (hnodup : (pre ++ k :: post).Nodup)
    (hfails : ∀ i ∈ pre, P.due s i = true → fails i = false) (hdue : P.due s k = true)
    (hk : fails k = true) (i : ι) :
    (P.pushAll fails (pre ++ k :: post) s).state.held i =
      (s.held i || (decide (i ∈ pre) && P.due s i)) := by
  rw [Policy.pushAll_fail hnodup hfails hdue hk]
  cases P.late k <;> rfl

end Failure

/-- The writes of a push without failures. -/
theorem Policy.mem_writes_iff {l : List ι} (hnodup : l.Nodup) (i : ι) :
    (i, true) ∈ (P.pushAll (fun _ => false) l s).writes ↔ i ∈ l ∧ P.due s i = true := by
  rw [Policy.pushAll_ok hnodup fun _ _ _ => rfl]
  simp only [List.mem_map, Prod.mk.injEq, and_true, exists_eq_right, List.mem_filter]

/-- What the target holds after a push without failures. -/
theorem Policy.held_pushAll {l : List ι} (hnodup : l.Nodup) {i : ι} (hi : i ∈ l) :
    (P.pushAll (fun _ => false) l s).state.held i = (s.held i || P.due s i) := by
  rw [Policy.pushAll_ok hnodup fun _ _ _ => rfl]
  simp only [Policy.after, hi, decide_true, Bool.true_and]

/-- The memory after a push without failures. -/
theorem Policy.remembered_pushAll {l : List ι} (hnodup : l.Nodup) {i : ι} (hi : i ∈ l) :
    (P.pushAll (fun _ => false) l s).state.remembered i = true := by
  rw [Policy.pushAll_ok hnodup fun _ _ _ => rfl]
  simp only [Policy.after, hi, decide_true, Bool.true_or]

/-- A second push, in which no write fails, makes up for the first one: it issues every
write that the first one did not do with success, and the target then has every
value wanted. -/
structure Policy.Retries (P : Policy ι) (fails : ι → Bool) (l : List ι) (s : State ι) : Prop where
  /-- What was due and has not been written is written now. -/
  issued : ∀ i, (i, true) ∈ (P.pushAll (fun _ => false) l s).writes →
    (i, true) ∉ (P.pushAll fails l s).writes →
    (i, true) ∈ (P.pushAll (fun _ => false) l (P.pushAll fails l s).state).writes
  /-- The target has the values wanted. -/
  held : ∀ i ∈ l,
    (P.pushAll (fun _ => false) l (P.pushAll fails l s).state).state.held i = true

/-- A push that does not come to its end has a first failing write. -/
theorem Policy.exists_of_not_ok {l : List ι} (hnodup : l.Nodup)
    (hok : (P.pushAll fails l s).ok = false) :
    ∃ k, l.find? (fun i => P.due s i && fails i) = some k := by
  cases hfind : l.find? (fun i => P.due s i && fails i) with
  | some k => exact ⟨k, rfl⟩
  | none =>
    rw [List.find?_eq_none] at hfind
    rw [Policy.pushAll_ok hnodup] at hok
    · cases hok
    · intro i hi hdue
      simpa [hdue] using hfind i hi

/-- The second push makes up for the first one exactly when the first failing write is
one that is remembered late, and each value is held or its write is due. -/
theorem Policy.retries_iff {l : List ι} (hnodup : l.Nodup)
    (hok : (P.pushAll fails l s).ok = false) :
    P.Retries fails l s ↔
      (∃ k, l.find? (fun i => P.due s i && fails i) = some k ∧ P.late k = true) ∧
        ∀ i ∈ l, s.held i = true ∨ P.due s i = true := by
  obtain ⟨k, hfind⟩ := Policy.exists_of_not_ok hnodup hok
  obtain ⟨hkdue, pre, post, rfl, hpre⟩ := List.find?_eq_some_iff_append.mp hfind
  obtain ⟨hdue, hk⟩ := Bool.and_eq_true_iff.mp hkdue
  have hfails : ∀ i ∈ pre, P.due s i = true → fails i = false := by
    intro i hi hd
    simpa [hd] using hpre i hi
  have hkpre : k ∉ pre := fun hmem =>
    (List.disjoint_of_nodup_append hnodup) hmem List.mem_cons_self
  have hdone (i : ι) : (i, true) ∈ (P.pushAll fails (pre ++ k :: post) s).writes ↔
      i ∈ pre ∧ P.due s i = true := by
    rw [Policy.pushAll_fail hnodup hfails hdue hk]
    simp
  have hdue₁ := Policy.due_pushAll_fail hnodup hfails hdue hk
  have hheld₁ := Policy.held_pushAll_fail hnodup hfails hdue hk
  constructor
  · intro h
    have hlate : P.late k = true := by
      have hwritten := h.issued k ((Policy.mem_writes_iff hnodup k).mpr ⟨by simp, hdue⟩) fun hmem =>
        hkpre ((hdone k).mp hmem).1
      rw [Policy.mem_writes_iff hnodup, hdue₁, if_pos rfl] at hwritten
      exact hwritten.2
    refine ⟨⟨k, hfind, hlate⟩, fun i hi => ?_⟩
    have hheld := h.held i hi
    rw [Policy.held_pushAll hnodup hi, hheld₁, hdue₁] at hheld
    by_cases hik : i = k
    · exact .inr (hik ▸ hdue)
    · cases hd : P.due s i with
      | true => exact .inr rfl
      | false => exact .inl (by simpa [hik, hd] using hheld)
  · rintro ⟨⟨k', hk', hlate⟩, hall⟩
    obtain rfl : k = k' := Option.some.inj (hfind.symm.trans hk')
    constructor
    · intro i hi hnot
      rw [Policy.mem_writes_iff hnodup] at hi
      rw [hdone] at hnot
      rw [Policy.mem_writes_iff hnodup, hdue₁]
      refine ⟨hi.1, ?_⟩
      by_cases hik : i = k
      · rw [if_pos hik, hlate]
      · have hipre : i ∉ pre := fun hmem => hnot ⟨hmem, hi.2⟩
        simp [hik, hipre, hi.2]
    · intro i hi
      rw [Policy.held_pushAll hnodup hi, hheld₁, hdue₁]
      by_cases hik : i = k
      · simp [hik, hlate]
      · rcases hall i hi with hheld | hd
        · simp [hheld]
        · by_cases hipre : i ∈ pre <;> simp [hik, hipre, hd]

end Push
