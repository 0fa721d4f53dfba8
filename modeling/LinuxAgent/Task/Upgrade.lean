import Mathlib.Data.Nat.Notation
import Mathlib.Order.Basic

/-!
# Hot upgrades

An upgrade stops the agent service, moves its binary aside, copies the new one to its
place and starts the service again. Every step may fail, and none is undone: when copying
fails the old binary stays in the backup, and when a later step fails the service stays
down. The old binary is in place and the service runs after a failed upgrade just if no
step fails between the first destructive one and the point where the service is up again.
-/

namespace LinuxAgent.Task.Upgrade

/-- The contents of a binary file: one installed earlier, the new one, or a part of it. -/
inductive Binary where
  | installed (version : ℕ)
  | new
  | partOfNew
  deriving DecidableEq

/-- The whole file is there. -/
def Binary.complete : Binary → Bool
  | .installed _ | .new => true
  | .partOfNew => false

/-- `/opt/osec/MagicArmorAgent`, its backup, and the binary that the service runs. -/
structure Machine where
  target : Option Binary
  backup : Option Binary
  service : Option Binary

/-- A machine before an upgrade: the versions of its files and of the running service. -/
structure Before where
  target : Option ℕ
  backup : Option ℕ
  service : Option ℕ

/-- A machine with complete binaries. -/
def Before.machine (b : Before) : Machine where
  target := b.target.map .installed
  backup := b.backup.map .installed
  service := b.service.map .installed

/-- Why an upgrade fails. -/
inductive UpgradeError where
  /-- `不支持的架构` -/
  | architecture
  /-- `更新包缺少当前架构的二进制` -/
  | missingBinary
  /-- `创建目标目录失败` -/
  | createDir
  /-- `备份旧二进制失败` -/
  | backup
  /-- `复制二进制失败` -/
  | copy
  /-- `设置执行权限失败` -/
  | permissions
  /-- `write_proc_self 失败` -/
  | procSelf
  /-- `复制 service 文件失败` -/
  | unitFile
  /-- `执行 systemctl start 失败` -/
  | systemctl
  /-- `等待 socket 就绪超时` -/
  | socket
  deriving DecidableEq

/-- A machine after some steps, and their result. -/
abbrev Outcome : Type := Machine × Except UpgradeError Unit

/-- What `fs::copy` does: it succeeds, or fails and leaves a part of the file or nothing. -/
inductive Copy where
  | done
  | failed (leavesPart : Bool)
  deriving DecidableEq

/-- The architecture, the update package and the outcomes of the file operations of
`replace_binary_with_arch_check`. -/
structure ReplaceEnv where
  supported : Bool
  srcExists : Bool
  createDir : Bool
  removeBackup : Bool
  rename : Bool
  copy : Copy
  setPermissions : Bool

/-- The old binary is moved to the backup. -/
def backupOld (env : ReplaceEnv) (s : Machine) : Outcome :=
  if s.target.isSome then
    if env.rename then ({ s with target := none, backup := s.target }, .ok ())
    else ({ s with backup := if env.removeBackup then none else s.backup }, .error .backup)
  else (s, .ok ())

/-- The new binary is copied and made executable. -/
def deployNew (env : ReplaceEnv) (s : Machine) : Outcome :=
  match env.copy with
  | .failed leavesPart =>
    ({ s with target := if leavesPart then some .partOfNew else s.target }, .error .copy)
  | .done =>
    ({ s with target := some .new },
      if env.setPermissions then .ok () else .error .permissions)

/-- `replace_binary_with_arch_check`. -/
def replaceBinaryWithArchCheck (env : ReplaceEnv) (s : Machine) : Outcome :=
  if env.supported = false then (s, .error .architecture)
  else if env.srcExists = false then (s, .error .missingBinary)
  else if env.createDir = false then (s, .error .createDir)
  else
    match backupOld env s with
    | (s, .error e) => (s, .error e)
    | (s, .ok ()) => deployNew env s

/-- `write_proc_self`: whether the file is there, and the outcomes of writing and reading it. -/
structure ProcSelfEnv where
  found : Bool
  write : Bool
  read : Bool

/-- `write_proc_self`. -/
def writeProcSelf (env : ProcSelfEnv) : Except UpgradeError Unit :=
  if env.found = false then .ok ()
  else if env.write && env.read then .ok ()
  else .error .procSelf

/-- `stop_agent`, which never fails. One of its commands may take effect. -/
def stopAgent (takesEffect : Bool) (s : Machine) : Machine :=
  if takesEffect then { s with service := none } else s

/-- What `start_agent` finds, and the outcomes of its commands. -/
structure StartEnv where
  hasSystemctl : Bool
  installed : Bool
  unitExists : Bool
  copyUnit : Bool
  runsSystemctl : Bool
  /-- The service comes up after the command that starts it. -/
  comesUp : Bool

/-- The service is started with the binary that is there, unless it runs. -/
def Machine.startService (s : Machine) (comesUp : Bool) : Machine :=
  if s.service.isNone && comesUp then { s with service := s.target } else s

/-- `start_agent`. Without `systemctl` it uses `service` or the binary itself, and takes no
notice of errors. -/
def startAgent (env : StartEnv) (s : Machine) : Outcome :=
  if env.hasSystemctl then
    if !env.installed && env.unitExists && !env.copyUnit then (s, .error .unitFile)
    else if env.runsSystemctl then (s.startService env.comesUp, .ok ())
    else (s, .error .systemctl)
  else (s.startService env.comesUp, .ok ())

/-- The loop of `wait_socket_ready` over its attempts. -/
def waitLoop (connects : ℕ → Bool) (maxRetries : ℕ) : List ℕ → Except UpgradeError Unit
  | [] => .ok ()
  | attempt :: attempts =>
    if connects attempt then .ok ()
    else if attempt < maxRetries then waitLoop connects maxRetries attempts
    else .error .socket

/-- `wait_socket_ready`. -/
def waitSocketReady (connects : ℕ → Bool) (maxRetries : ℕ) : Except UpgradeError Unit :=
  waitLoop connects maxRetries (List.range' 1 maxRetries)

/-- What the steps of the upgrade find. -/
structure UpgradeEnv where
  procSelf : ProcSelfEnv
  stops : Bool
  replace : ReplaceEnv
  start : StartEnv
  /-- The attempts to connect to the socket. -/
  connects : ℕ → Bool

/-- The attempts to connect to the socket after an upgrade. -/
def socketRetries : ℕ := 20

/-- The hot-upgrade section of `task_update`. -/
def hotUpgrade (env : UpgradeEnv) (s : Machine) : Outcome :=
  match writeProcSelf env.procSelf with
  | .error e => (s, .error e)
  | .ok () =>
    match replaceBinaryWithArchCheck env.replace (stopAgent env.stops s) with
    | (s, .error e) => (s, .error e)
    | (s, .ok ()) =>
      match startAgent env.start s with
      | (s, .error e) => (s, .error e)
      | (s, .ok ()) => (s, waitSocketReady env.connects socketRetries)

/-- The old binary is in its place if the steps have failed. -/
def KeepsBinary (s : Machine) (r : Outcome) : Prop :=
  ∀ b, s.target = some b → r.2.isOk = false → r.1.target = some b

/-- A service that was running runs a complete binary if the steps have failed. -/
def KeepsService (s : Machine) (r : Outcome) : Prop :=
  s.service.isSome = true → r.2.isOk = false → r.1.service.any Binary.complete = true

variable {env : ReplaceEnv} {s : Machine}

/-- Nothing fails before the old binary is moved. -/
def ReplaceEnv.ready (env : ReplaceEnv) : Bool := env.supported && env.srcExists && env.createDir

/-- The new binary is copied, and made executable. -/
def ReplaceEnv.deploys (env : ReplaceEnv) : Bool := env.copy = .done && env.setPermissions

/-- Replacing fails before or when the old binary is moved, or comes to the new one. -/
theorem replace_cases (env : ReplaceEnv) (s : Machine) :
    (∃ s' e, replaceBinaryWithArchCheck env s = (s', .error e) ∧ s'.target = s.target ∧
        s'.service = s.service ∧ (env.ready = true → s.target.isSome = true ∧ env.rename = false)) ∨
      env.ready = true ∧ (s.target.isSome = true → env.rename = true) ∧
        ∃ s', s'.target = none ∧ s'.service = s.service ∧
          replaceBinaryWithArchCheck env s = deployNew env s' := by
  have hnot (h : env.ready = false) : env.ready = true → s.target.isSome = true ∧
      env.rename = false := by simp [h]
  rw [replaceBinaryWithArchCheck]
  split
  · next h => exact .inl ⟨s, _, rfl, rfl, rfl, hnot (by simp [ReplaceEnv.ready, h])⟩
  · next hsupported =>
    split
    · next h => exact .inl ⟨s, _, rfl, rfl, rfl, hnot (by simp [ReplaceEnv.ready, h])⟩
    · next hsrc =>
      split
      · next h => exact .inl ⟨s, _, rfl, rfl, rfl, hnot (by simp [ReplaceEnv.ready, h])⟩
      · next hdir =>
        have hready : env.ready = true := by
          simp only [Bool.not_eq_false] at hsupported hsrc hdir
          rw [ReplaceEnv.ready, hsupported, hsrc, hdir]
          rfl
        cases htarget : s.target with
        | none =>
          refine .inr ⟨hready, nofun, s, htarget, rfl, ?_⟩
          simp [backupOld, htarget]
        | some b =>
          cases hrename : env.rename with
          | false =>
            refine .inl ⟨{ s with backup := if env.removeBackup then none else s.backup }, .backup,
              ?_, htarget, rfl, fun _ => ⟨rfl, rfl⟩⟩
            simp [backupOld, htarget, hrename]
          | true =>
            refine .inr ⟨hready, fun _ => rfl, { s with target := none, backup := s.target }, rfl,
              rfl, ?_⟩
            simp [backupOld, htarget, hrename]

/-- It goes well just if the binary is copied and made executable. -/
theorem isOk_deployNew : (deployNew env s).2.isOk = env.deploys := by
  rw [deployNew, ReplaceEnv.deploys]
  cases env.copy with
  | failed leavesPart => rfl
  | done => cases env.setPermissions <;> rfl

/-- The service is left alone. -/
theorem service_deployNew : (deployNew env s).1.service = s.service := by
  rw [deployNew]
  cases env.copy <;> rfl

/-- The target is then no binary that was installed before. -/
theorem target_deployNew (hs : s.target = none) (version : ℕ) :
    (deployNew env s).1.target ≠ some (.installed version) := by
  rw [deployNew]
  cases env.copy with
  | failed leavesPart => cases leavesPart <;> simp [hs]
  | done => simp

/-- A binary that is deployed is the new one. -/
theorem target_deployNew_of_deploys (h : env.deploys = true) :
    (deployNew env s).1.target = some .new := by
  rw [ReplaceEnv.deploys, Bool.and_eq_true, decide_eq_true_eq] at h
  rw [deployNew, h.1]

/-- The old binary survives a failure just if it was not moved, or nothing fails after
that. -/
theorem keepsBinary_iff (env : ReplaceEnv) (b : Before) :
    KeepsBinary b.machine (replaceBinaryWithArchCheck env b.machine) ↔
      (b.target.isSome = true → env.ready = true → env.rename = true → env.deploys = true) := by
  rcases replace_cases env b.machine with
    ⟨s', e, hreplace, htarget, -, hrename⟩ | ⟨hready, hrename, s', hnone, -, hreplace⟩
  · rw [hreplace]
    refine iff_of_true (fun old hold _ => htarget.trans hold) fun _ hready hrenamed => ?_
    have hfails := (hrename hready).2
    rw [hrenamed] at hfails
    cases hfails
  · rw [hreplace, KeepsBinary, isOk_deployNew]
    cases hold : b.target with
    | none => simp [Before.machine, hold]
    | some version =>
      have hrenamed : env.rename = true := hrename (by simp [Before.machine, hold])
      have hgone : (deployNew env s').1.target ≠ some (.installed version) :=
        target_deployNew hnone version
      simp only [Before.machine, hold, Option.map_some, Option.isSome_some, hready, hrenamed,
        forall_true_left, Option.some.injEq, forall_eq']
      cases env.deploys with
      | false => simpa using hgone
      | true => simp

/-- It goes well just if there is no file or it is written and read. -/
theorem isOk_writeProcSelf (env : ProcSelfEnv) :
    (writeProcSelf env).isOk = (!env.found || env.write && env.read) := by
  rw [writeProcSelf]
  cases env.found <;> cases env.write <;> cases env.read <;> rfl

/-- The attempts from one on are made until one succeeds. -/
theorem isOk_waitLoop_iff (connects : ℕ → Bool) (first : ℕ) {count : ℕ} (hcount : 0 < count) :
    (waitLoop connects (first + count - 1) (List.range' first count)).isOk = true ↔
      ∃ attempt, first ≤ attempt ∧ attempt < first + count ∧ connects attempt = true := by
  induction count generalizing first with
  | zero => omega
  | succ count ih =>
    rw [List.range'_succ, waitLoop]
    split
    · next hconnects =>
      exact iff_of_true rfl ⟨first, Nat.le_refl _, by omega, hconnects⟩
    · next hfails =>
      split
      · next hmore =>
        have hlast : first + (count + 1) - 1 = first + 1 + count - 1 := by omega
        rw [hlast, ih (first + 1) (by omega)]
        constructor
        · rintro ⟨attempt, hfirst, hlt, hconnects⟩
          exact ⟨attempt, by omega, by omega, hconnects⟩
        · rintro ⟨attempt, hfirst, hlt, hconnects⟩
          have hne : attempt ≠ first := by
            rintro rfl
            exact hfails hconnects
          exact ⟨attempt, by omega, by omega, hconnects⟩
      · next hlast =>
        refine iff_of_false nofun ?_
        rintro ⟨attempt, hfirst, hlt, hconnects⟩
        obtain rfl : attempt = first := by omega
        exact hfails hconnects

/-- Some attempt to connect to the socket succeeds. -/
def UpgradeEnv.SocketReady (env : UpgradeEnv) : Prop :=
  ∃ attempt, 1 ≤ attempt ∧ attempt < 1 + socketRetries ∧ env.connects attempt = true

/-- The wait ends well just if the socket is ready in time. -/
theorem isOk_waitSocketReady_iff (env : UpgradeEnv) :
    (waitSocketReady env.connects socketRetries).isOk = true ↔ env.SocketReady := by
  have hpos : 0 < socketRetries := by decide
  exact isOk_waitLoop_iff env.connects 1 hpos

/-- The commands of `start_agent` whose errors count succeed. -/
def StartEnv.runs (env : StartEnv) : Bool :=
  !env.hasSystemctl || (env.installed || !env.unitExists || env.copyUnit) && env.runsSystemctl

/-- `start_agent` leaves the machine as it is, or starts the service. -/
theorem startAgent_cases (env : StartEnv) (s : Machine) :
    env.runs = true ∧ startAgent env s = (s.startService env.comesUp, .ok ()) ∨
      env.runs = false ∧ ∃ e, startAgent env s = (s, .error e) := by
  unfold startAgent StartEnv.runs
  cases env.hasSystemctl with
  | false => exact .inl ⟨rfl, rfl⟩
  | true =>
    cases env.installed <;> cases env.unitExists <;> cases env.copyUnit <;>
      cases env.runsSystemctl <;> simp

/-- The new binary is put in place, on a machine with an old one or without. -/
def ReplaceEnv.replaces (env : ReplaceEnv) (old : Bool) : Bool :=
  env.ready && (!old || env.rename) && env.deploys

/-- Replacing does not touch the service, and puts the new binary in place if it succeeds. -/
theorem replace_spec (env : ReplaceEnv) (s : Machine) :
    (replaceBinaryWithArchCheck env s).1.service = s.service ∧
      ((∃ e, (replaceBinaryWithArchCheck env s).2 = .error e) ∧
          env.replaces s.target.isSome = false ∨
        (replaceBinaryWithArchCheck env s).2 = .ok () ∧ env.replaces s.target.isSome = true ∧
          (replaceBinaryWithArchCheck env s).1.target = some .new) := by
  rcases replace_cases env s with
    ⟨s', e, hreplace, -, hservice, hrename⟩ | ⟨hready, hrename, s', -, hservice, hreplace⟩
  · rw [hreplace]
    refine ⟨hservice, .inl ⟨⟨e, rfl⟩, ?_⟩⟩
    rw [ReplaceEnv.replaces]
    cases hready : env.ready with
    | false => rfl
    | true =>
      obtain ⟨hsome, hfails⟩ := hrename hready
      rw [hsome, hfails]
      rfl
  · rw [hreplace]
    refine ⟨service_deployNew.trans hservice, ?_⟩
    have hreplaces : env.replaces s.target.isSome = env.deploys := by
      rw [ReplaceEnv.replaces, hready]
      cases hsome : s.target.isSome with
      | false => rfl
      | true => rw [hrename hsome]; rfl
    have hok : (deployNew env s').2.isOk = env.deploys := isOk_deployNew
    rw [hreplaces]
    cases hdeploys : env.deploys with
    | false =>
      refine .inl ⟨?_, rfl⟩
      cases hresult : (deployNew env s').2 with
      | error e => exact ⟨e, rfl⟩
      | ok _ =>
        rw [hresult, hdeploys] at hok
        cases hok
    | true =>
      refine .inr ⟨?_, rfl, target_deployNew_of_deploys hdeploys⟩
      cases hresult : (deployNew env s').2 with
      | error e =>
        rw [hresult, hdeploys] at hok
        cases hok
      | ok _ => rfl

/-- A service that was stopped runs again. -/
def UpgradeEnv.Restarts (env : UpgradeEnv) (old : Bool) : Prop :=
  env.replace.replaces old = true ∧ env.start.runs = true ∧
    (env.start.comesUp = true ∨ env.SocketReady)

/-- A service that an upgrade does not stop goes on. -/
theorem service_hotUpgrade_of_not_stops {env : UpgradeEnv} {s : Machine}
    (hstops : env.stops = false)
    (hservice : s.service.isSome = true) : (hotUpgrade env s).1.service = s.service := by
  have hstop : stopAgent env.stops s = s := by rw [hstops]; rfl
  obtain ⟨hreplaced, -⟩ := replace_spec env.replace s
  rw [hotUpgrade, hstop]
  split
  · rfl
  · split
    · next s' e hreplace =>
      rw [hreplace] at hreplaced
      exact hreplaced
    · next s' hreplace =>
      rw [hreplace] at hreplaced
      have hsome : s'.service.isNone = false := by
        rw [hreplaced]
        simpa using hservice
      rcases startAgent_cases env.start s' with ⟨-, hstart⟩ | ⟨-, e, hstart⟩
      · simp only [hstart, Machine.startService, hsome]
        exact hreplaced
      · simp only [hstart]
        exact hreplaced

/-- After the service was stopped, it runs the new binary or none. -/
theorem hotUpgrade_of_stops {env : UpgradeEnv} {s : Machine} (hstops : env.stops = true)
    (hproc : (writeProcSelf env.procSelf).isOk = true) :
    ((hotUpgrade env s).2.isOk = false →
        (hotUpgrade env s).1.service.any Binary.complete = true) ↔
      env.Restarts s.target.isSome := by
  have hstop : stopAgent env.stops s = { s with service := none } := by rw [hstops]; rfl
  have hwritten : writeProcSelf env.procSelf = .ok () := by
    cases hwrite : writeProcSelf env.procSelf with
    | error e =>
      rw [hwrite] at hproc
      cases hproc
    | ok _ => rfl
  obtain ⟨hservice, hresult⟩ := replace_spec env.replace { s with service := none }
  simp only [hotUpgrade, hwritten, hstop, UpgradeEnv.Restarts]
  rcases hreplace : replaceBinaryWithArchCheck env.replace { s with service := none } with
    ⟨s', result⟩
  rw [hreplace] at hservice hresult
  rcases hresult with ⟨⟨e, rfl⟩, hreplaces⟩ | ⟨rfl, hreplaces, htarget⟩
  · simp only at hservice
    simp only [hservice, hreplaces]
    exact iff_of_false (fun h => nomatch h rfl) (fun h => nomatch h.1)
  · simp only at hservice htarget
    rcases startAgent_cases env.start s' with ⟨hruns, hstart⟩ | ⟨hruns, e, hstart⟩
    · have hup : (s'.startService env.start.comesUp).service.any Binary.complete =
          env.start.comesUp := by
        cases env.start.comesUp <;> simp [Machine.startService, hservice, htarget, Binary.complete]
      simp only [hstart, hup, hreplaces, hruns, true_and, ← isOk_waitSocketReady_iff]
      cases (waitSocketReady env.connects socketRetries).isOk <;> simp
    · simp only [hstart, hservice, hruns]
      exact iff_of_false (fun h => nomatch h rfl) (fun h => nomatch h.2.1)

/-- A running service survives a failed upgrade just if it was not stopped, or the upgrade
ends before that, or no step fails until the service is up again. -/
theorem keepsService_iff (env : UpgradeEnv) (b : Before) :
    KeepsService b.machine (hotUpgrade env b.machine) ↔
      (b.service.isSome = true → (env.procSelf.found = true → env.procSelf.write = true ∧
        env.procSelf.read = true) → env.stops = true → env.Restarts b.target.isSome) := by
  have hsome : b.machine.service.isSome = b.service.isSome := Option.isSome_map
  have hold : b.machine.target.isSome = b.target.isSome := Option.isSome_map
  rw [KeepsService, hsome]
  refine imp_congr_right fun hservice => ?_
  have hcomplete : b.machine.service.any Binary.complete = true := by
    cases hversion : b.service with
    | none =>
      rw [hversion] at hservice
      cases hservice
    | some version => simp [Before.machine, hversion, Binary.complete]
  have hproc : (env.procSelf.found = true → env.procSelf.write = true ∧ env.procSelf.read = true) ↔
      (writeProcSelf env.procSelf).isOk = true := by
    rw [isOk_writeProcSelf]
    cases env.procSelf.found <;> simp
  rw [hproc]
  cases hwrite : writeProcSelf env.procSelf with
  | error e => simp [hotUpgrade, hwrite, hcomplete, Except.isOk, Except.toBool]
  | ok _ =>
    have hok : (writeProcSelf env.procSelf).isOk = true := by rw [hwrite]; rfl
    cases hstops : env.stops with
    | false =>
      rw [service_hotUpgrade_of_not_stops hstops (hsome.trans hservice)]
      simp [hcomplete]
    | true =>
      rw [hotUpgrade_of_stops hstops hok, hold]
      simp [Except.isOk, Except.toBool]

/-- A failed replacement leaves the old binary in place, and a failed upgrade a running
service with a complete binary, just under these conditions: an old binary that was moved is
followed by the new one, and a service that was stopped is up again. -/
theorem failed_upgrade_runnable_iff (env : UpgradeEnv) (b : Before) :
    (KeepsBinary b.machine (replaceBinaryWithArchCheck env.replace b.machine) ∧
        KeepsService b.machine (hotUpgrade env b.machine)) ↔
      (b.target.isSome = true → env.replace.ready = true → env.replace.rename = true →
          env.replace.deploys = true) ∧
        (b.service.isSome = true → (env.procSelf.found = true → env.procSelf.write = true ∧
          env.procSelf.read = true) → env.stops = true → env.Restarts b.target.isSome) :=
  and_congr (keepsBinary_iff env.replace b) (keepsService_iff env b)

/-- A machine that runs version 1. -/
def runningOne : Before where
  target := some 1
  backup := none
  service := some 1

/-- The disk is full when the new binary is copied. -/
def diskFull : UpgradeEnv where
  procSelf := { found := true, write := true, read := true }
  stops := true
  replace := {
    supported := true
    srcExists := true
    createDir := true
    removeBackup := true
    rename := true
    copy := .failed true
    setPermissions := true }
  start := {
    hasSystemctl := true
    installed := true
    unitExists := true
    copyUnit := true
    runsSystemctl := true
    comesUp := true }
  connects := fun _ => true

/-- A part of the new binary is left in place of the old one, and the service is down. -/
theorem diskFull_not_runnable :
    ¬ KeepsBinary runningOne.machine
        (replaceBinaryWithArchCheck diskFull.replace runningOne.machine) ∧
      ¬ KeepsService runningOne.machine (hotUpgrade diskFull runningOne.machine) := by
  constructor
  · intro h
    exact absurd (h (.installed 1) rfl rfl) (by decide)
  · intro h
    exact absurd (h rfl rfl) (by decide)

end LinuxAgent.Task.Upgrade
