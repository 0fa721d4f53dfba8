import Mathlib.Data.List.Induction
import Mathlib.Logic.Relation

/-!
# Runs of guarded transition systems

A system is an executable partial step function together with its initial
states. Safety results are stated for the states reached by runs whose steps all
meet a condition; the condition `fun _ _ => True` gives every run. A concrete run
is a list of actions, replayed by `exec`.
-/

namespace Runs

/-- A transition system. An action that is not enabled in a state has no
successor there, and every choice of the environment is part of the action. -/
structure System (σ α : Type*) where
  /-- The states in which a run may start. -/
  init : σ → Prop
  /-- The successor of a state under an action, when the action is enabled. -/
  step : σ → α → Option σ

namespace System

variable {σ α : Type*}

/-- The states reached by runs each of whose steps meets `ok` in the state that
the step leaves. -/
inductive Reaches (S : System σ α) (ok : σ → α → Prop) : σ → Prop
  | init {s : σ} : S.init s → Reaches S ok s
  | step {s s' : σ} {a : α} :
      Reaches S ok s → ok s a → S.step s a = some s' → Reaches S ok s'

/-- The states reached by arbitrary runs. -/
abbrev Reachable (S : System σ α) : σ → Prop := S.Reaches fun _ _ => True

/-- A predicate that holds initially and is kept by every step that meets the
condition holds in every state that such runs reach. -/
theorem Reaches.invariant {S : System σ α} {ok : σ → α → Prop} {I : σ → Prop} {s : σ}
    (hs : S.Reaches ok s) (hinit : ∀ s, S.init s → I s)
    (hstep : ∀ s a s', I s → ok s a → S.step s a = some s' → I s') : I s := by
  induction hs with
  | init h => exact hinit _ h
  | step _ hok hst ih => exact hstep _ _ _ ih hok hst

/-- Replay a list of actions; `none` when one of them is not enabled. -/
def exec (S : System σ α) : σ → List α → Option σ
  | s, [] => some s
  | s, a :: as => (S.step s a).bind fun s' => exec S s' as

/-- Every action of the list meets `ok` in the state in which it is replayed. -/
def Meets (S : System σ α) (ok : σ → α → Prop) : σ → List α → Prop
  | _, [] => True
  | s, a :: as => ok s a ∧ ∀ s' ∈ S.step s a, Meets S ok s' as

instance Meets.decidable (S : System σ α) (ok : σ → α → Prop) [∀ s a, Decidable (ok s a)] :
    ∀ (as : List α) (s : σ), Decidable (S.Meets ok s as)
  | [], _ => isTrue trivial
  | a :: as, s =>
    have : ∀ s', Decidable (S.Meets ok s' as) := Meets.decidable S ok as
    inferInstanceAs (Decidable (ok s a ∧ ∀ s' ∈ S.step s a, S.Meets ok s' as))

/-- A replay can be cut into two. -/
theorem exec_append {S : System σ α} (as bs : List α) (s : σ) :
    S.exec s (as ++ bs) = (S.exec s as).bind fun s' => S.exec s' bs := by
  induction as generalizing s with
  | nil => rfl
  | cons a as ih => simp only [List.cons_append, exec, ih, Option.bind_assoc]

/-- Where every action is possible, a replay is a fold. -/
theorem exec_of_total {S : System σ α} {f : σ → α → σ} (h : ∀ s a, S.step s a = some (f s a))
    (as : List α) (s : σ) : S.exec s as = some (as.foldl f s) := by
  induction as generalizing s with
  | nil => rfl
  | cons a as ih =>
    rw [exec, h, Option.bind_some, ih]
    rfl

/-- A replay that meets the condition extends a run that meets it. -/
theorem Reaches.exec {S : System σ α} {ok : σ → α → Prop} {as : List α} {s s' : σ}
    (hs : S.Reaches ok s) (hmeets : S.Meets ok s as) (hexec : S.exec s as = some s') :
    S.Reaches ok s' := by
  induction as generalizing s with
  | nil =>
    obtain rfl : s = s' := Option.some.inj hexec
    exact hs
  | cons a as ih =>
    obtain ⟨t, hst, hrest⟩ := Option.bind_eq_some_iff.mp hexec
    exact ih (.step hs hmeets.1 hst) (hmeets.2 t hst) hrest

/-- A predicate that is kept by every step that meets the condition is kept by a replay. -/
theorem Meets.invariant {S : System σ α} {ok : σ → α → Prop} {I : σ → Prop} {as : List α}
    {s s' : σ} (hmeets : S.Meets ok s as) (hexec : S.exec s as = some s')
    (hstep : ∀ s a s', I s → ok s a → S.step s a = some s' → I s') (hs : I s) : I s' := by
  induction as generalizing s with
  | nil => exact Option.some.inj hexec ▸ hs
  | cons a as ih =>
    obtain ⟨t, hst, hrest⟩ := Option.bind_eq_some_iff.mp hexec
    exact ih (hmeets.2 t hst) hrest (hstep s a t hs hmeets.1 hst)

/-- Actions that meet the condition in every state meet it along a replay. -/
theorem Meets.of_forall {S : System σ α} {ok : σ → α → Prop} {as : List α}
    (hok : ∀ a ∈ as, ∀ s, ok s a) (s : σ) : S.Meets ok s as := by
  induction as generalizing s with
  | nil => trivial
  | cons a as ih =>
    refine ⟨hok a List.mem_cons_self s, fun s' _ => ?_⟩
    exact ih (fun b hb => hok b (List.mem_cons_of_mem _ hb)) s'

/-- Where the condition of a step is exact, a property holds all along a replay just if every
step meets the condition. -/
theorem forall_exec_iff_meets {S : System σ α} {ok : σ → α → Prop} {I : σ → Prop}
    (hstep : ∀ s a s', I s → S.step s a = some s' → (I s' ↔ ok s a)) {as : List α} {s s' : σ}
    (hs : I s) (hexec : S.exec s as = some s') :
    (∀ seen t, seen <+: as → S.exec s seen = some t → I t) ↔ S.Meets ok s as := by
  induction as generalizing s with
  | nil =>
    refine iff_of_true (fun seen t hseen ht => ?_) trivial
    rw [List.prefix_nil.mp hseen] at ht
    exact Option.some.inj ht ▸ hs
  | cons a as ih =>
    obtain ⟨t, hst, hrest⟩ := Option.bind_eq_some_iff.mp hexec
    constructor
    · intro h
      have ht : I t := h [a] t ⟨as, rfl⟩ (by simp [System.exec, hst])
      refine ⟨(hstep s a t hs hst).mp ht, fun u hu => ?_⟩
      obtain rfl : t = u := Option.some.inj (hst.symm.trans hu)
      refine (ih ht hrest).mp fun seen u hseen hu => ?_
      exact h (a :: seen) u (List.cons_prefix_cons.mpr ⟨rfl, hseen⟩)
        (by simp [System.exec, hst, hu])
    · rintro ⟨hok, hmeets⟩ seen u hseen hu
      have ht : I t := (hstep s a t hs hst).mpr hok
      cases seen with
      | nil => exact Option.some.inj hu ▸ hs
      | cons b seen =>
        obtain ⟨rfl, htail⟩ := List.cons_prefix_cons.mp hseen
        obtain ⟨v, hv, hlast⟩ := Option.bind_eq_some_iff.mp hu
        obtain rfl : t = v := Option.some.inj (hst.symm.trans hv)
        exact (ih ht hrest).mpr (hmeets t hst) seen u htail hlast

/-- The same for actions that are always possible: the states after the first actions of a list
have a property just if each next action meets the condition. -/
theorem forall_foldl_iff {f : σ → α → σ} {ok : σ → α → Prop} {I : σ → Prop}
    (hstep : ∀ s a, I s → (I (f s a) ↔ ok s a)) {s : σ} (hs : I s) (as : List α) :
    (∀ seen, seen <+: as → I (seen.foldl f s)) ↔
      ∀ seen a, seen ++ [a] <+: as → ok (seen.foldl f s) a := by
  constructor
  · intro h seen a hseen
    have hbefore := h seen ((List.prefix_append _ _).trans hseen)
    have hafter := h (seen ++ [a]) hseen
    rw [List.foldl_append] at hafter
    exact (hstep _ a hbefore).mp hafter
  · intro h seen
    induction seen using List.reverseRecOn with
    | nil => exact fun _ => hs
    | append_singleton seen a ih =>
      intro hseen
      rw [List.foldl_append]
      exact (hstep _ a (ih ((List.prefix_append _ _).trans hseen))).mpr (h seen a hseen)

/-- Where what is lost stays lost, a property holds after a list of actions just if it holds all
along. -/
theorem foldl_iff_forall_prefix {f : σ → α → σ} {I Lost : σ → Prop}
    (hlost : ∀ s a, Lost s → Lost (f s a)) (hnot : ∀ s, Lost s → ¬I s)
    (hstep : ∀ s a, I s → I (f s a) ∨ Lost (f s a)) {s : σ} (hs : I s) (as : List α) :
    I (as.foldl f s) ↔ ∀ seen, seen <+: as → I (seen.foldl f s) := by
  have hkept {t : σ} (ht : Lost t) (others : List α) : Lost (others.foldl f t) := by
    induction others generalizing t with
    | nil => exact ht
    | cons a others ih => exact ih (hlost t a ht)
  have hcases (seen : List α) : I (seen.foldl f s) ∨ Lost (seen.foldl f s) := by
    induction seen using List.reverseRecOn with
    | nil => exact .inl hs
    | append_singleton seen a ih =>
      rw [List.foldl_append]
      obtain hseen | hseen := ih
      · exact hstep _ a hseen
      · exact .inr (hlost _ a hseen)
  refine ⟨?_, fun h => h as List.prefix_rfl⟩
  rintro h seen ⟨others, rfl⟩
  rw [List.foldl_append] at h
  exact (hcases seen).resolve_right fun hseen => hnot _ (hkept hseen others) h

/-- The unconditional form of `Reaches.exec`. -/
theorem Reachable.exec {S : System σ α} {as : List α} {s s' : σ}
    (hs : S.Reachable s) (hexec : S.exec s as = some s') : S.Reachable s' :=
  Reaches.exec hs (Meets.of_forall (fun _ _ _ => trivial) s) hexec

end System

end Runs
