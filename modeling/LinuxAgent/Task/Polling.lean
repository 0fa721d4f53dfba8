import LinuxAgent.Lib.Runs
import Mathlib.Data.List.Basic

/-!
# The tasks of the server

The fetcher polls the server for task numbers and works on them one after the other. A handler
first reports its task as completed and only then fetches what the task is about, so a request
that comes in while the agent works opens the task again. Two handlers report a second time at
their end. No request gets lost as long as no handler fails after its report has arrived and no
second report overtakes a request. After that the agent stays behind until the task is requested
once more.

The server is the environment: it counts the requests of each task, keeps the task open until it is
reported as completed, and may list any numbers.
-/

namespace LinuxAgent.Task.Polling

/-- `TaskTypeEnum`. -/
inductive TaskTypeEnum
  | taskUploadProcess
  | taskUpdate
  | taskUploadDir
  | taskDownWhite
  | taskDownDirPolicy
  | taskUploadConf
  | taskDownConf
  | taskDownBlack
  | taskDownFileTtap
  | taskUploadPort
  | taskDownVirtualPort
  | taskAutoDownNetBlockPolicy
  | taskAutoUploadNetBockPolicyy
  | taskDownNetBlockPolicy
  | taskDownWhiteIpPolicy
  | taskDownBlackIpPolicy
  | taskDownUsbUpload
  | taskDownUsbDown
  | taskDownExtort
  | taskUploadProcessModule
  | taskUploadAllProcessModule
  | taskUploadProcessWhiteModule
  | taskUploadProcessBlackModule
  | taskUninstall
  | taskGetWhitePeripherals
  | taskGetBlackPeripherals
  | taskUploadSample
  | taskSyslogEnable
  | taskSyslogDisable
  | taskGlobalProc
  | taskGlobalDir
  | taskUpdateUUI
  | taskOutReachDetect
  | taskPwJump
  | taskIpJump
  | taskSystemBackup
  | taskSystemRollback
  deriving DecidableEq

/-- The tasks with their numbers. -/
def taskNumbers : List (TaskTypeEnum × ℕ) :=
  [(.taskUploadProcess, 0), (.taskUpdate, 1), (.taskUploadDir, 2), (.taskDownWhite, 3),
    (.taskDownDirPolicy, 4), (.taskUploadConf, 5), (.taskDownConf, 6), (.taskDownBlack, 7),
    (.taskDownFileTtap, 8), (.taskUploadPort, 9), (.taskDownVirtualPort, 10),
    (.taskAutoDownNetBlockPolicy, 11), (.taskAutoUploadNetBockPolicyy, 12),
    (.taskDownNetBlockPolicy, 13), (.taskDownWhiteIpPolicy, 14), (.taskDownBlackIpPolicy, 15),
    (.taskDownUsbUpload, 16), (.taskDownUsbDown, 17), (.taskDownExtort, 19),
    (.taskUploadProcessModule, 21), (.taskUploadAllProcessModule, 22),
    (.taskUploadProcessWhiteModule, 23), (.taskUploadProcessBlackModule, 24),
    (.taskUninstall, 25), (.taskGetWhitePeripherals, 26), (.taskGetBlackPeripherals, 27),
    (.taskUploadSample, 28), (.taskSyslogEnable, 29), (.taskSyslogDisable, 30),
    (.taskGlobalProc, 31), (.taskGlobalDir, 33), (.taskUpdateUUI, 34), (.taskOutReachDetect, 35),
    (.taskPwJump, 36), (.taskIpJump, 37), (.taskSystemBackup, 38), (.taskSystemRollback, 39)]

/-- `TaskTypeEnum::from_u32`. -/
def TaskTypeEnum.fromU32 (n : ℕ) : Option TaskTypeEnum :=
  (taskNumbers.find? fun entry => entry.2 = n).map Prod.fst

/-- What `handle_task` calls for a task. -/
inductive Handler
  /-- A handler that reports the task with this number as completed and then works on it. -/
  | closes (number : ℕ)
  /-- A handler that does nothing. -/
  | idle
  deriving DecidableEq

/-- `handle_task`; `none` is the error for a task without a handler. -/
def handleTask : TaskTypeEnum → Option Handler
  | .taskUploadProcess => some (.closes 0)
  | .taskUpdate => some (.closes 1)
  | .taskUploadDir => some (.closes 2)
  | .taskDownWhite => some (.closes 3)
  | .taskDownDirPolicy => some (.closes 4)
  | .taskDownConf => some (.closes 6)
  | .taskDownBlack => some (.closes 7)
  | .taskDownFileTtap => some .idle
  | .taskUploadPort => some (.closes 9)
  | .taskDownVirtualPort => some (.closes 10)
  | .taskDownNetBlockPolicy => some (.closes 13)
  | .taskDownExtort => some (.closes 19)
  | .taskDownBlackIpPolicy => some (.closes 15)
  | .taskUploadProcessModule => some .idle
  | .taskUploadAllProcessModule => some .idle
  | .taskUploadProcessWhiteModule => some .idle
  | .taskUploadProcessBlackModule => some .idle
  | .taskUninstall => some (.closes 25)
  | .taskGetWhitePeripherals => some (.closes 26)
  | .taskGetBlackPeripherals => some (.closes 27)
  | .taskDownUsbUpload => some (.closes 16)
  | .taskUploadSample => some .idle
  | .taskGlobalProc => some (.closes 31)
  | .taskGlobalDir => some (.closes 33)
  | .taskUpdateUUI => some (.closes 34)
  | .taskOutReachDetect => some (.closes 35)
  | .taskPwJump => some (.closes 36)
  | .taskIpJump => some (.closes 37)
  | .taskSystemBackup => some (.closes 38)
  | .taskSystemRollback => some (.closes 39)
  | _ => none

/-- What comes of `gettask`: of an answer, the code if it is a text and the task list if it is an
array, with the items that are numbers. -/
inductive GetTask
  | failed
  | unparsable
  | answered (code : Option String) (tasklist : Option (List (Option ℕ)))

/-- The tasks on a list: the numbers are cut to 32 bits, and unknown ones are skipped. -/
def listedTasks (tasklist : Option (List (Option ℕ))) : List TaskTypeEnum :=
  ((tasklist.getD []).filterMap id).filterMap fun n => TaskTypeEnum.fromU32 (n % 4294967296)

/-- What the loop makes of the answer: the tasks to handle, or the error that ends it. -/
def readTasks : GetTask → Except String (List TaskTypeEnum)
  | .failed => .ok []
  | .unparsable => .ok []
  | .answered code tasklist =>
    if code = some "000000" then .ok (listedTasks tasklist)
    else if code = some "401" then .error "token 无效"
    else .error "无效响应码"

/-- How far the handler of a task has come. -/
inductive Stage
  /-- Before the report. -/
  | closing
  /-- Before it fetches what the task is about. -/
  | fetching
  /-- It has fetched what there was after so many requests. -/
  | applying (version : ℕ)
  /-- Before the second report. -/
  | closingAgain
  deriving DecidableEq

/-- A handler at work. -/
structure Working where
  number : ℕ
  stage : Stage
  /-- Its report has reached the server. -/
  delivered : Bool
  deriving DecidableEq

/-- The server and the fetcher. -/
structure State where
  /-- How often each task was requested. -/
  version : ℕ → ℕ
  isOpen : ℕ → Bool
  /-- The requests of each task that the agent has caught up with. -/
  seen : ℕ → ℕ
  /-- The tasks of the last list that are still to be handled. -/
  pending : List TaskTypeEnum
  working : Option Working
  /-- The error that has ended `run`. -/
  ended : Option String

/-- What happens. -/
inductive Action
  /-- A task is requested at the server. -/
  | request (number : ℕ)
  | poll (answer : GetTask)
  /-- The next task of the list is handled. -/
  | handle
  | close (delivered : Bool)
  | fetch (ok : Bool)
  | apply (ok : Bool)
  /-- What `getIpJump` answers has no addresses, so there is nothing to apply. -/
  | skip
  | closeAgain (delivered : Bool)
  /-- `run` is called again after a login. -/
  | login

/-- The fetcher waits for the next tick. -/
def State.Idle (s : State) : Prop := s.pending = [] ∧ s.working = none ∧ s.ended = none

instance (s : State) : Decidable s.Idle := inferInstanceAs (Decidable (_ ∧ _ ∧ _))

/-- One step. -/
def step (s : State) : Action → Option State
  | .request n =>
    some { s with
      version := Function.update s.version n (s.version n + 1)
      isOpen := Function.update s.isOpen n true }
  | .poll answer =>
    if ¬s.Idle then none
    else
      match readTasks answer with
      | .ok tasks => some { s with pending := tasks }
      | .error e => some { s with ended := some e }
  | .handle =>
    match s.working, s.pending with
    | none, t :: rest =>
      match handleTask t with
      | some (.closes n) => some { s with pending := rest, working := some ⟨n, .closing, false⟩ }
      | _ => some { s with pending := rest }
    | _, _ => none
  | .close delivered =>
    match s.working with
    | some ⟨n, .closing, _⟩ =>
      some { s with
        isOpen := if delivered then Function.update s.isOpen n false else s.isOpen
        working := some ⟨n, .fetching, delivered⟩ }
    | _ => none
  | .fetch ok =>
    match s.working with
    | some ⟨n, .fetching, delivered⟩ =>
      some { s with
        working := if ok then some ⟨n, .applying (s.version n), delivered⟩ else none }
    | _ => none
  | .apply ok =>
    match s.working with
    | some ⟨n, .applying v, delivered⟩ =>
      some { s with
        seen := if ok then Function.update s.seen n v else s.seen
        working := if n = 38 then some ⟨n, .closingAgain, delivered⟩ else none }
    | _ => none
  | .skip =>
    match s.working with
    | some ⟨37, .applying v, delivered⟩ =>
      some { s with
        seen := Function.update s.seen 37 v
        working := some ⟨37, .closingAgain, delivered⟩ }
    | _ => none
  | .closeAgain delivered =>
    match s.working with
    | some ⟨n, .closingAgain, _⟩ =>
      some { s with
        isOpen := if delivered then Function.update s.isOpen n false else s.isOpen
        working := none }
    | _ => none
  | .login => if s.ended.isSome then some { s with ended := none } else none

/-- The server and the fetcher, from a state on in which the agent is up to date. -/
def system : Runs.System State Action where
  init s := s.Idle ∧ s.seen = s.version
  step := step

/-- No handler fails after its report has reached the server, and no second report reaches it that
is behind a request. -/
def Completes (s : State) : Action → Prop
  | .fetch ok => ok = false → ∀ w ∈ s.working, w.delivered = false
  | .apply ok => ok = false → ∀ w ∈ s.working, w.delivered = false
  | .closeAgain delivered =>
    delivered = true → ∀ w ∈ s.working, s.seen w.number = s.version w.number
  | _ => True

/-- The agent has caught up with the task, or the task is open. -/
def State.Settled (s : State) (n : ℕ) : Prop := s.seen n = s.version n ∨ s.isOpen n = true

/-- The agent is about to catch up with the task. -/
def State.Due (s : State) (n : ℕ) : Prop :=
  ∃ w ∈ s.working, w.number = n ∧ (w.stage = .fetching ∨ w.stage = .applying (s.version n))

/-- What holds of the server and the fetcher all along. -/
structure Inv (s : State) : Prop where
  behind (n : ℕ) : s.seen n ≤ s.version n
  served (n : ℕ) : s.Settled n ∨ s.Due n
  /-- A report that did not arrive leaves the task as it was. -/
  undelivered : ∀ w ∈ s.working, w.delivered = false → s.Settled w.number
  fetched : ∀ w ∈ s.working, ∀ v, w.stage = .applying v →
    s.seen w.number ≤ v ∧ v ≤ s.version w.number

/-- The case in which no handler works, or only on its second report. -/
theorem Inv.of_settled {s : State} (hbehind : ∀ n, s.seen n ≤ s.version n)
    (hsettled : ∀ n, s.Settled n) (hworking : ∀ w ∈ s.working, w.stage = .closingAgain) :
    Inv s := by
  refine ⟨hbehind, fun n => .inl (hsettled n), fun w _ _ => hsettled w.number, ?_⟩
  intro w hw v hv
  have hstage := hworking w hw
  rw [hv] at hstage
  cases hstage

/-- What is left of a handler that has applied what it fetched. -/
theorem closing_again {n : ℕ} {delivered : Bool} :
    ∀ w ∈ if n = 38 then some (Working.mk n .closingAgain delivered) else none,
      w.stage = .closingAgain := by
  intro w hw
  split at hw
  · obtain rfl := Option.some.inj hw
    rfl
  · cases hw

/-- A request opens its task. -/
theorem Inv.request {s : State} (h : Inv s) (n : ℕ) :
    Inv { s with
      version := Function.update s.version n (s.version n + 1)
      isOpen := Function.update s.isOpen n true } := by
  have hsettled (m : ℕ) (hm : m = n ∨ s.Settled m) : State.Settled { s with
      version := Function.update s.version n (s.version n + 1)
      isOpen := Function.update s.isOpen n true } m := by
    by_cases hmn : m = n
    · subst hmn
      exact .inr (Function.update_self _ _ _)
    · simpa [State.Settled, Function.update_of_ne hmn] using hm.resolve_left hmn
  have hle (m : ℕ) : s.version m ≤ Function.update s.version n (s.version n + 1) m := by
    by_cases hmn : m = n
    · subst hmn
      simp
    · exact Nat.le_of_eq (Function.update_of_ne hmn _ _).symm
  refine ⟨fun m => Nat.le_trans (h.behind m) (hle m), fun m => ?_, ?_, ?_⟩
  · obtain hm | ⟨w, hw, hnumber, hstage⟩ := h.served m
    · exact .inl (hsettled m (.inr hm))
    · by_cases hmn : m = n
      · exact .inl (hsettled m (.inl hmn))
      · refine .inr ⟨w, hw, hnumber, ?_⟩
        simpa [Function.update_of_ne hmn] using hstage
  · exact fun w hw hdelivered => hsettled _ (.inr (h.undelivered w hw hdelivered))
  · intro w hw v hv
    have hbetween := h.fetched w hw v hv
    exact ⟨hbetween.1, Nat.le_trans hbetween.2 (hle _)⟩

/-- Steps that change none of the counts and no handler at work. -/
theorem Inv.of_eq {s s' : State} (h : Inv s) (hversion : s'.version = s.version)
    (hopen : s'.isOpen = s.isOpen) (hseen : s'.seen = s.seen) (hworking : s'.working = s.working) :
    Inv s' := by
  refine ⟨?_, ?_, ?_, ?_⟩
  · rw [hversion, hseen]
    exact h.behind
  · simp only [State.Settled, State.Due, hversion, hopen, hseen, hworking]
    exact h.served
  · simp only [State.Settled, hversion, hopen, hseen, hworking]
    exact h.undelivered
  · simp only [hversion, hseen, hworking]
    exact h.fetched

/-- Without a handler at work nothing is due. -/
theorem Inv.settled {s : State} (h : Inv s) (hworking : s.working = none) (n : ℕ) :
    s.Settled n := by
  obtain hn | ⟨w, hw, -⟩ := h.served n
  · exact hn
  · rw [hworking] at hw
    cases hw

/-- A handler is started. -/
theorem Inv.start {s : State} (h : Inv s) (hworking : s.working = none)
    (rest : List TaskTypeEnum) (n : ℕ) :
    Inv { s with pending := rest, working := some ⟨n, .closing, false⟩ } := by
  refine ⟨h.behind, fun m => .inl (h.settled hworking m), fun w _ _ => h.settled hworking _, ?_⟩
  rintro w hw v hv
  obtain rfl := Option.some.inj hw
  cases hv

/-- The report: the task is closed only if it arrives. -/
theorem Inv.close {s : State} (h : Inv s) {n : ℕ} {old delivered : Bool}
    (hworking : s.working = some ⟨n, .closing, old⟩) :
    Inv { s with
      isOpen := if delivered then Function.update s.isOpen n false else s.isOpen
      working := some ⟨n, .fetching, delivered⟩ } := by
  have hsettled (m : ℕ) : s.Settled m := by
    obtain hm | ⟨w, hw, -, hstage⟩ := h.served m
    · exact hm
    · rw [hworking] at hw
      obtain rfl := Option.some.inj hw
      simp at hstage
  refine ⟨h.behind, fun m => ?_, ?_, ?_⟩
  · by_cases hmn : m = n
    · exact .inr ⟨_, rfl, hmn.symm, .inl rfl⟩
    · left
      cases delivered with
      | true => simpa [State.Settled, Function.update_of_ne hmn] using hsettled m
      | false => exact hsettled m
  · rintro w hw hdelivered
    obtain rfl := Option.some.inj hw
    obtain rfl : delivered = false := hdelivered
    exact hsettled n
  · rintro w hw v hv
    obtain rfl := Option.some.inj hw
    cases hv

/-- A handler gives up whose report did not arrive. -/
theorem Inv.giveUp {s : State} (h : Inv s) (hdelivered : ∀ w ∈ s.working, w.delivered = false)
    {left : Option Working} (hleft : ∀ w ∈ left, w.stage = .closingAgain) :
    Inv { s with working := left } := by
  refine .of_settled h.behind (fun m => ?_) hleft
  obtain hm | ⟨w, hw, rfl, -⟩ := h.served m
  · exact hm
  · exact h.undelivered w hw (hdelivered w hw)

/-- What the task is about is fetched. -/
theorem Inv.fetch {s : State} (h : Inv s) {n : ℕ} {delivered : Bool}
    (hworking : s.working = some ⟨n, .fetching, delivered⟩) :
    Inv { s with working := some ⟨n, .applying (s.version n), delivered⟩ } := by
  refine ⟨h.behind, fun m => ?_, ?_, ?_⟩
  · obtain hm | ⟨w, hw, hnumber, -⟩ := h.served m
    · exact .inl hm
    · rw [hworking] at hw
      obtain rfl := Option.some.inj hw
      obtain rfl : n = m := hnumber
      exact .inr ⟨_, rfl, rfl, .inr rfl⟩
  · rintro w hw hfalse
    obtain rfl := Option.some.inj hw
    exact h.undelivered ⟨n, .fetching, delivered⟩ hworking hfalse
  · rintro w hw v hv
    obtain rfl := Option.some.inj hw
    obtain rfl := Stage.applying.inj hv
    exact ⟨h.behind n, Nat.le_refl _⟩

/-- The agent catches up with what the handler has fetched. -/
theorem Inv.apply {s : State} (h : Inv s) {n v : ℕ} {delivered : Bool}
    (hworking : s.working = some ⟨n, .applying v, delivered⟩) {left : Option Working}
    (hleft : ∀ w ∈ left, w.stage = .closingAgain) :
    Inv { s with seen := Function.update s.seen n v, working := left } := by
  obtain ⟨hseen, hversion⟩ := h.fetched _ hworking v rfl
  refine .of_settled (fun m => ?_) (fun m => ?_) hleft
  · by_cases hmn : m = n
    · subst hmn
      simpa using hversion
    · simpa [Function.update_of_ne hmn] using h.behind m
  · obtain hm | ⟨w, hw, hnumber, hstage⟩ := h.served m
    · by_cases hmn : m = n
      · subst hmn
        -- what was seen before the fetch cannot be ahead of what was fetched
        refine hm.imp (fun heq => ?_) id
        have : v = s.version m := Nat.le_antisymm hversion (heq ▸ hseen)
        simpa using this
      · simpa [State.Settled, Function.update_of_ne hmn] using hm
    · rw [hworking] at hw
      obtain rfl := Option.some.inj hw
      obtain rfl : n = m := hnumber
      left
      have hv : v = s.version n := by simpa using hstage
      simpa using hv

/-- The second report arrives, and no request has come in meanwhile. -/
theorem Inv.closeAgain {s : State} (h : Inv s) {n : ℕ} {old delivered : Bool}
    (hworking : s.working = some ⟨n, .closingAgain, old⟩)
    (hseen : delivered = true → s.seen n = s.version n) :
    Inv { s with
      isOpen := if delivered then Function.update s.isOpen n false else s.isOpen
      working := none } := by
  have hsettled (m : ℕ) : s.Settled m := by
    obtain hm | ⟨w, hw, -, hstage⟩ := h.served m
    · exact hm
    · rw [hworking] at hw
      obtain rfl := Option.some.inj hw
      simp at hstage
  refine .of_settled h.behind (fun m => ?_) fun w hw => by cases hw
  cases delivered with
  | false => exact hsettled m
  | true =>
    by_cases hmn : m = n
    · subst hmn
      exact .inl (hseen rfl)
    · simpa [State.Settled, Function.update_of_ne hmn] using hsettled m

/-- Every step in which no request is lost keeps the invariant. -/
theorem Inv.step {s s' : State} {a : Action} (h : Inv s) (hok : Completes s a)
    (hstep : step s a = some s') : Inv s' := by
  unfold Polling.step at hstep
  cases a with
  | request n => exact Option.some.inj hstep ▸ h.request n
  | poll answer =>
    dsimp only at hstep
    split at hstep
    · cases hstep
    · split at hstep <;> exact Option.some.inj hstep ▸ h.of_eq rfl rfl rfl rfl
  | handle =>
    dsimp only at hstep
    split at hstep
    · next hworking _ =>
      split at hstep
      · next n _ => exact Option.some.inj hstep ▸ h.start hworking _ n
      · exact Option.some.inj hstep ▸ h.of_eq rfl rfl rfl rfl
    · cases hstep
  | close delivered =>
    dsimp only at hstep
    split at hstep
    · next hworking => exact Option.some.inj hstep ▸ h.close hworking
    · cases hstep
  | fetch ok =>
    dsimp only at hstep
    split at hstep
    · next hworking =>
      obtain rfl := Option.some.inj hstep
      cases ok with
      | true => exact h.fetch hworking
      | false => exact h.giveUp (hok rfl) fun w hw => by cases hw
    · cases hstep
  | apply ok =>
    dsimp only at hstep
    split at hstep
    · next hworking =>
      obtain rfl := Option.some.inj hstep
      cases ok with
      | true => exact h.apply hworking closing_again
      | false => exact h.giveUp (hok rfl) closing_again
    · cases hstep
  | skip =>
    dsimp only at hstep
    split at hstep
    · next hworking =>
      refine Option.some.inj hstep ▸ h.apply hworking fun w hw => ?_
      obtain rfl := Option.some.inj hw
      rfl
    · cases hstep
  | closeAgain delivered =>
    dsimp only at hstep
    split at hstep
    · next hworking =>
      exact Option.some.inj hstep ▸ h.closeAgain hworking fun hd => hok hd _ hworking
    · cases hstep
  | login =>
    dsimp only at hstep
    split at hstep
    · exact Option.some.inj hstep ▸ h.of_eq rfl rfl rfl rfl
    · cases hstep

/-- The invariant holds in every run. -/
theorem inv_of_reaches {s : State} (h : system.Reaches Completes s) : Inv s := by
  refine h.invariant (I := Inv) ?_ fun s a s' hs hok hstep => hs.step hok hstep
  rintro s ⟨⟨-, hworking, -⟩, hseen⟩
  refine .of_settled (fun n => Nat.le_of_eq (congrFun hseen n))
    (fun n => .inl (congrFun hseen n)) fun w hw => ?_
  rw [hworking] at hw
  cases hw

/-- In every run in which no handler fails after its report has arrived and no second report
overtakes a request, whatever the server lists and whenever tasks are requested: a request that the
agent has not caught up with leaves its task open, unless a handler is about to catch up with it.
Between two polls no handler is. -/
theorem requests_served {s : State} (h : system.Reaches Completes s) :
    (∀ n, s.seen n = s.version n ∨ s.isOpen n = true ∨ s.Due n) ∧
      (s.working = none → ∀ n, s.isOpen n = false → s.seen n = s.version n) := by
  have hinv := inv_of_reaches h
  refine ⟨fun n => or_assoc.mp (hinv.served n), fun hworking n hclosed => ?_⟩
  refine (hinv.settled hworking n).resolve_right fun hopen => ?_
  exact Bool.false_ne_true (hclosed.symm.trans hopen)

/-- Nothing has been requested yet. -/
def start : State := ⟨fun _ => 0, fun _ => false, fun _ => 0, [], none, none⟩

/-- The configuration is requested, and once more between the report and the fetch. -/
def requestedTwice : List Action :=
  [.request 6, .poll (.answered (some "000000") (some [some 6])), .handle, .close true, .request 6,
    .fetch true, .apply true]

/-- The state after that. -/
def afterTwo : State := (system.exec start requestedTwice).getD start

/-- After two requests of one kind the task has seen both. -/
theorem requests_served_after_two : afterTwo.seen 6 = 2 ∧
    (afterTwo.seen 6 = afterTwo.version 6 ∨ afterTwo.isOpen 6 = true ∨ afterTwo.Due 6) := by
  have hmeets : system.Meets Completes start requestedTwice := by
    simp [Runs.System.Meets, requestedTwice, Completes]
  have hreaches : system.Reaches Completes afterTwo :=
    .exec (.init ⟨⟨rfl, rfl, rfl⟩, rfl⟩) hmeets
      (show system.exec start requestedTwice = some afterTwo from rfl)
  exact ⟨rfl, (requests_served hreaches).1 6⟩

/-- The task is not requested, and the server lists it only while it is open. -/
def LeavesAlone (n : ℕ) (s : State) : Action → Prop
  | .request m => m ≠ n
  | .poll answer => ∀ tasks, readTasks answer = .ok tasks →
      ∀ t ∈ tasks, handleTask t = some (.closes n) → s.isOpen n = true
  | _ => True

/-- The agent is behind with a task that is closed and not on the list, and no handler works on
it. -/
structure Forgotten (n : ℕ) (s : State) : Prop where
  behind : s.seen n < s.version n
  closed : s.isOpen n = false
  notWorking : ∀ w ∈ s.working, w.number ≠ n
  notPending : ∀ t ∈ s.pending, handleTask t ≠ some (.closes n)

/-- As long as the task is left alone, the agent stays behind. -/
theorem Forgotten.step {n : ℕ} {s s' : State} {a : Action} (h : Forgotten n s)
    (hok : LeavesAlone n s a) (hstep : step s a = some s') : Forgotten n s' := by
  unfold Polling.step at hstep
  cases a with
  | request m =>
    obtain rfl := Option.some.inj hstep
    have hne : n ≠ m := fun heq => hok heq.symm
    refine ⟨?_, ?_, h.notWorking, h.notPending⟩
    · simpa [Function.update_of_ne hne] using h.behind
    · simpa [Function.update_of_ne hne] using h.closed
  | poll answer =>
    dsimp only at hstep
    split at hstep
    · cases hstep
    · split at hstep
      · next tasks htasks =>
        obtain rfl := Option.some.inj hstep
        refine ⟨h.behind, h.closed, h.notWorking, fun t ht hhandler => ?_⟩
        exact Bool.false_ne_true (h.closed.symm.trans (hok tasks htasks t ht hhandler))
      · exact Option.some.inj hstep ▸ ⟨h.behind, h.closed, h.notWorking, h.notPending⟩
  | handle =>
    dsimp only at hstep
    split at hstep
    · next t rest _ hpending =>
      have hrest : ∀ u ∈ rest, handleTask u ≠ some (.closes n) := fun u hu =>
        h.notPending u (hpending ▸ List.mem_cons_of_mem _ hu)
      split at hstep
      · next m hhandler =>
        obtain rfl := Option.some.inj hstep
        refine ⟨h.behind, h.closed, ?_, hrest⟩
        rintro w hw rfl
        obtain rfl := Option.some.inj hw
        exact h.notPending t (hpending ▸ List.mem_cons_self) hhandler
      · exact Option.some.inj hstep ▸ ⟨h.behind, h.closed, h.notWorking, hrest⟩
    · cases hstep
  | close delivered =>
    dsimp only at hstep
    split at hstep
    · next m old hworking =>
      have hm : m ≠ n := h.notWorking _ hworking
      obtain rfl := Option.some.inj hstep
      refine ⟨h.behind, ?_, ?_, h.notPending⟩
      · cases delivered with
        | true => simpa [Function.update_of_ne hm.symm] using h.closed
        | false => exact h.closed
      · intro w hw
        obtain rfl := Option.some.inj hw
        exact hm
    · cases hstep
  | fetch ok =>
    dsimp only at hstep
    split at hstep
    · next m delivered hworking =>
      have hm : m ≠ n := h.notWorking _ hworking
      obtain rfl := Option.some.inj hstep
      refine ⟨h.behind, h.closed, ?_, h.notPending⟩
      cases ok with
      | true =>
        intro w hw
        obtain rfl := Option.some.inj hw
        exact hm
      | false =>
        intro w hw
        cases hw
    · cases hstep
  | apply ok =>
    dsimp only at hstep
    split at hstep
    · next m v delivered hworking =>
      have hm : m ≠ n := h.notWorking _ hworking
      obtain rfl := Option.some.inj hstep
      refine ⟨?_, h.closed, ?_, h.notPending⟩
      · cases ok with
        | true => simpa [Function.update_of_ne hm.symm] using h.behind
        | false => exact h.behind
      · intro w hw
        dsimp only at hw
        split at hw
        · obtain rfl := Option.some.inj hw
          exact hm
        · cases hw
    · cases hstep
  | skip =>
    dsimp only at hstep
    split at hstep
    · next v delivered hworking =>
      have hm : 37 ≠ n := h.notWorking _ hworking
      obtain rfl := Option.some.inj hstep
      refine ⟨?_, h.closed, ?_, h.notPending⟩
      · simpa [Function.update_of_ne hm.symm] using h.behind
      · intro w hw
        obtain rfl := Option.some.inj hw
        exact hm
    · cases hstep
  | closeAgain delivered =>
    dsimp only at hstep
    split at hstep
    · next m old hworking =>
      have hm : m ≠ n := h.notWorking _ hworking
      obtain rfl := Option.some.inj hstep
      refine ⟨h.behind, ?_, fun w hw => ?_, h.notPending⟩
      · cases delivered with
        | true => simpa [Function.update_of_ne hm.symm] using h.closed
        | false => exact h.closed
      · cases hw
    · cases hstep
  | login =>
    dsimp only at hstep
    split at hstep
    · exact Option.some.inj hstep ▸ ⟨h.behind, h.closed, h.notWorking, h.notPending⟩
    · cases hstep

/-- The steps in which a request gets lost: the handler of a closed task fails, or a second report
closes the task. -/
def Loses (n : ℕ) (s : State) : Action → Prop
  | .fetch false => s.isOpen n = false
  | .apply false => s.isOpen n = false ∧ n ≠ 38
  | .closeAgain true => True
  | _ => False

/-- The backups are requested while the first ones are made. -/
def requestedMeanwhile : List Action :=
  [.request 38, .poll (.answered (some "000000") (some [some 38])), .handle, .close true,
    .fetch true, .request 38, .apply true]

/-- The state after that. -/
def afterBackup : State := (system.exec start requestedMeanwhile).getD start

/-- The state after the second report. -/
def afterReport : State := (step afterBackup (.closeAgain true)).getD start

/-- The state after another poll. -/
def afterPoll : State :=
  (step afterReport (.poll (.answered (some "000000") (some [])))).getD start

end LinuxAgent.Task.Polling
