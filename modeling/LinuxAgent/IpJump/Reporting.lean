import LinuxAgent.IpJump.Daemon
import LinuxAgent.IpJump.Operations

/-!
# Reporting the addresses to the server

`execute_instruction` and `do_periodic_cleanup` change the addresses of the host and
report the new list with `upload_ip_jump_periodic_result`. Only the cleanup keeps
`last_upload_failed`, the flag that makes the next cleanup upload again. The state
records the uploads and whether a change has not been reported since.
-/

namespace LinuxAgent.IpJump

/-- The environment of one `execute_instruction` call. -/
structure ExecuteIo where
  /-- The commands of the jump that fail. -/
  faults : Faults
  /-- What making the address permanent with `netplan` or `nmcli` does to the host. -/
  persist : Host → Host
  /-- The answer of `get_local_ips_all`. -/
  localIps : Option String
  /-- The upload of the addresses succeeds. -/
  uploadOk : Bool

/-- `strip_ip_prefix`. -/
def stripIpPrefix (ip : String) : String := String.ofList (ip.toList.takeWhile fun c => c ≠ '/')

/-- `ip_list_contains`. -/
def ipListContains (ipList ip : String) : Bool :=
  (Text.split ',' ipList).any fun item => Text.trim item = ip

/-- The list of addresses that `execute_instruction` uploads: the target is in it
even when the host does not list it yet. -/
def agentIpWithTarget (agentIp targetIp : String) : String :=
  if targetIp = "" then agentIp
  else
    let target := stripIpPrefix targetIp
    if ipListContains agentIp target then agentIp
    else if agentIp = "" then target
    else s!"{agentIp},{target}"

/-- The report before a jump. -/
def blankInfo : PutIpJumpInfo := ⟨"", "", "", "", 0, ""⟩

/-- The first part of `execute_instruction`: the jump, if the instruction names an
address, with the report about it and the flag `jump_success`. -/
def attemptJump (net : Net) (faults : Faults) (m : IpJumpManager) (instr : IpJumpInstruction) :
    IpJumpManager × PutIpJumpInfo × Bool :=
  if instr.sourceIp = "" ∧ instr.targetIp = "" then (m, blankInfo, false)
  else
    match doIpJumpAsync net faults m ⟨instr.sourceIp, instr.targetIp, instr.gateway⟩ with
    | (m', .ok info) => (m', { info with status := 1 }, true)
    | (m', .error e) => (m', { blankInfo with status := 2, reason := e }, false)

/-- What `execute_instruction` leaves: the manager, the report that it uploads with
`upload_result_direct`, whether the jump succeeded, and its upload of the addresses
with the outcome. -/
structure Execution where
  manager : IpJumpManager
  info : PutIpJumpInfo
  jumpSuccess : Bool
  upload : Option (String × Bool)

/-- `execute_instruction`. -/
def executeInstruction (net : Net) (io : ExecuteIo) (m : IpJumpManager)
    (instr : IpJumpInstruction) : Execution :=
  match attemptJump net io.faults m instr with
  | (m', info, false) => ⟨m', info, false, none⟩
  | (m', info, true) =>
    ⟨{ m' with host := io.persist m'.host }, info, true,
      io.localIps.map fun agentIp => (agentIpWithTarget agentIp instr.targetIp, io.uploadOk)⟩

/-- The first part of `do_periodic_cleanup`, with the flag `any_removed`. -/
def removeAged (net : Net) (io : CleanupIo) (m : IpJumpManager) : IpJumpManager × Bool :=
  removeExpired net io 0 (expiredEntries (incrementTick m).2 m.secondaryIps) (incrementTick m).1
    false

/-- The upload of `do_periodic_cleanup` after the removals, with its outcome. -/
def cleanupUpload (io : CleanupIo) (m : IpJumpManager) (anyRemoved : Bool) :
    Option (String × Bool) :=
  if anyRemoved || m.lastUploadFailed then io.localIps.map fun agentIp => (agentIp, io.uploadOk)
  else none

/-- A cleanup removes what has aged and then uploads. -/
theorem doPeriodicCleanup_eq (net : Net) (io : CleanupIo) (m : IpJumpManager) :
    doPeriodicCleanup net io m =
      uploadAddresses io (removeAged net io m).1 (removeAged net io m).2 := rfl

/-- The flag after a cleanup is the outcome of its upload, if it makes one. -/
theorem uploadAddresses_lastUploadFailed (io : CleanupIo) (m : IpJumpManager)
    (anyRemoved : Bool) :
    (uploadAddresses io m anyRemoved).lastUploadFailed =
      ((cleanupUpload io m anyRemoved).map fun upload => !upload.2).getD m.lastUploadFailed := by
  unfold uploadAddresses cleanupUpload
  split
  · cases io.localIps <;> rfl
  · rfl

/-- The upload of a cleanup changes no address. -/
theorem uploadAddresses_host (io : CleanupIo) (m : IpJumpManager) (anyRemoved : Bool) :
    (uploadAddresses io m anyRemoved).host = m.host := by
  unfold uploadAddresses
  split
  · cases io.localIps <;> rfl
  · rfl

/-- The removals do not touch the flag. -/
theorem removeExpired_lastUploadFailed (net : Net) (io : CleanupIo)
    (expired : List (String × String × ℕ)) (i : ℕ) (m : IpJumpManager) (removed : Bool) :
    (removeExpired net io i expired m removed).1.lastUploadFailed = m.lastUploadFailed := by
  induction expired generalizing i m removed with
  | nil => rfl
  | cons x rest ih =>
    obtain ⟨iface, ip, p⟩ := x
    unfold removeExpired
    split
    · exact ih _ _ _
    · exact ih _ _ _

/-- Neither does a jump. -/
theorem JumpOutcome.lastUploadFailed {net : Net} {faults : Faults} {m m' : IpJumpManager}
    {config : IpJumpConfig} {result : Except String PutIpJumpInfo}
    (hout : JumpOutcome net faults m config m' result) :
    m'.lastUploadFailed = m.lastUploadFailed := by
  have hclean (ip : String) :
      (cleanupOldSecondary net faults m ip).lastUploadFailed = m.lastUploadFailed := by
    rw [(cleanupOldSecondary_spec net faults m ip).rest]
  cases hout with
  | noSource _ => rfl
  | unprepared _ _ => exact hclean _
  | delFails hprep _ => rw [hprep.cleaned]; exact hclean _
  | addFails hprep _ _ => rw [hprep.cleaned]; exact hclean _
  | gatewayFails hprep hswitched _ =>
    obtain ⟨new, netmask, -, rfl⟩ := hswitched.result
    rw [hprep.cleaned]
    exact hclean _
  | done hprep hswitched _ =>
    obtain ⟨new, netmask, -, rfl⟩ := hswitched.result
    rw [hprep.cleaned]
    exact hclean _

/-- The jump of an instruction does not touch the flag. -/
theorem attemptJump_lastUploadFailed (net : Net) (faults : Faults) (m : IpJumpManager)
    (instr : IpJumpInstruction) :
    (attemptJump net faults m instr).1.lastUploadFailed = m.lastUploadFailed := by
  have hout := doIpJumpAsync_outcome net faults m ⟨instr.sourceIp, instr.targetIp, instr.gateway⟩
  unfold attemptJump
  split
  · rfl
  · split <;> rename_i hjump <;> rw [hjump] at hout <;> exact hout.lastUploadFailed

/-- The two calls that change addresses and report them. -/
inductive ReportingCall
  /-- `execute_instruction`. -/
  | execute (io : ExecuteIo) (instr : IpJumpInstruction)
  /-- `do_periodic_cleanup`. -/
  | cleanup (io : CleanupIo)

/-- The manager with its uploads of the addresses. -/
structure Reporting where
  /-- The manager on its host. -/
  manager : IpJumpManager
  /-- An address was removed or a jump succeeded since the last successful upload. -/
  unreported : Bool
  /-- All uploads with their outcomes, latest first. -/
  uploads : List (String × Bool)
  deriving DecidableEq

namespace Reporting

/-- The host has lost an address. -/
def Loses (m m' : IpJumpManager) : Prop := ∃ a ∈ m.host.addrs, a ∉ m'.host.addrs

instance (m m' : IpJumpManager) : Decidable (Loses m m') :=
  inferInstanceAs (Decidable (∃ a ∈ m.host.addrs, a ∉ m'.host.addrs))

/-- The state after a call, whose upload comes last. -/
def record (s : Reporting) (m : IpJumpManager) (jumped : Bool) (upload : Option (String × Bool)) :
    Reporting where
  manager := m
  unreported :=
    !(upload.any fun u => u.2) && (s.unreported || jumped || decide (Loses s.manager m))
  uploads := upload.toList ++ s.uploads

/-- Carry out one call. -/
def step (net : Net) (s : Reporting) : ReportingCall → Option Reporting
  | .execute io instr =>
    let done := executeInstruction net io s.manager instr
    some (s.record done.manager done.jumpSuccess done.upload)
  | .cleanup io =>
    let (m, anyRemoved) := removeAged net io s.manager
    some (s.record (uploadAddresses io m anyRemoved) false (cleanupUpload io m anyRemoved))

/-- A new manager, on a host whose addresses the server knows. -/
def Initial (s : Reporting) : Prop :=
  ∃ mainInterface host, s = ⟨.new mainInterface host, false, []⟩

/-- The calls as a transition system. -/
def system (net : Net) : Runs.System Reporting ReportingCall := ⟨Initial, step net⟩

/-- The flag is set while there is a change to report. -/
def Retries (s : Reporting) : Prop :=
  s.unreported = true → s.manager.lastUploadFailed = true

instance (s : Reporting) : Decidable s.Retries :=
  inferInstanceAs (Decidable (s.unreported = true → s.manager.lastUploadFailed = true))

/-- The flag is set already, or the call leaves nothing unreported that the flag does
not tell. A jump that succeeds must be uploaded, one that fails must not have lost
an address; a cleanup that loses an address must count the removal and be able to
read the list of addresses. -/
def Covered (net : Net) (s : Reporting) : ReportingCall → Prop
  | .execute io instr =>
    s.manager.lastUploadFailed = true ∨
      if (attemptJump net io.faults s.manager instr).2.2 then
        io.localIps ≠ none ∧ io.uploadOk = true
      else ¬Loses s.manager (attemptJump net io.faults s.manager instr).1
  | .cleanup io =>
    s.manager.lastUploadFailed = true ∨ ¬Loses s.manager (removeAged net io s.manager).1 ∨
      ((removeAged net io s.manager).2 = true ∧ io.localIps ≠ none)

instance (net : Net) (s : Reporting) : DecidablePred (Covered net s) := fun call => by
  cases call <;> unfold Covered <;> infer_instance

variable {net : Net} {s s' : Reporting}

/-- A cleanup, as a call of its parts. -/
theorem step_cleanup (net : Net) (s : Reporting) (io : CleanupIo) :
    (system net).step s (.cleanup io) =
      some (s.record (doPeriodicCleanup net io s.manager) false
        (cleanupUpload io (removeAged net io s.manager).1 (removeAged net io s.manager).2)) := rfl

/-- An instruction, as a call of its parts. -/
theorem step_execute (net : Net) (s : Reporting) (io : ExecuteIo) (instr : IpJumpInstruction) :
    (system net).step s (.execute io instr) =
      some (s.record (executeInstruction net io s.manager instr).manager
        (executeInstruction net io s.manager instr).jumpSuccess
        (executeInstruction net io s.manager instr).upload) := rfl

/-- When a call leaves the flag right: after a successful upload, with the flag set, or
with nothing to report. -/
theorem retries_record_iff (m : IpJumpManager) (jumped : Bool) (upload : Option (String × Bool)) :
    (s.record m jumped upload).Retries ↔
      upload.any (fun u => u.2) = true ∨ m.lastUploadFailed = true ∨
        (s.unreported = false ∧ jumped = false ∧ ¬Loses s.manager m) := by
  by_cases hupload : upload.any (fun u => u.2) = true
  · simp [Retries, record, hupload]
  · have hkept : upload.any (fun u => u.2) = false := by simpa using hupload
    cases hfailed : m.lastUploadFailed <;> simp [Retries, record, hkept, hfailed, and_assoc]

/-- After a cleanup the flag tells about unreported changes exactly when the cleanup
was covered. -/
theorem retries_cleanup_iff {io : CleanupIo} (hs : s.Retries)
    (hst : (system net).step s (.cleanup io) = some s') :
    s'.Retries ↔ Covered net s (.cleanup io) := by
  rw [step_cleanup, Option.some.injEq] at hst
  have hflag : (removeAged net io s.manager).1.lastUploadFailed = s.manager.lastUploadFailed :=
    removeExpired_lastUploadFailed _ _ _ _ _ _
  have hloses : Loses s.manager (doPeriodicCleanup net io s.manager) ↔
      Loses s.manager (removeAged net io s.manager).1 := by
    rw [doPeriodicCleanup_eq, Loses, uploadAddresses_host, Loses]
  rw [← hst, retries_record_iff, hloses, doPeriodicCleanup_eq, uploadAddresses_lastUploadFailed]
  simp only [cleanupUpload, Covered, hflag]
  cases hfailed : s.manager.lastUploadFailed with
  | true => cases io.localIps <;> cases io.uploadOk <;> simp
  | false =>
    have hreported : s.unreported = false := by
      cases hunreported : s.unreported with
      | false => rfl
      | true => exact absurd (hs hunreported) (by simp [hfailed])
    cases (removeAged net io s.manager).2 with
    | false => simp [hreported]
    | true => cases io.localIps <;> cases io.uploadOk <;> simp [hreported]

/-- The same for an instruction. -/
theorem retries_execute_iff {io : ExecuteIo} {instr : IpJumpInstruction} (hs : s.Retries)
    (hst : (system net).step s (.execute io instr) = some s') :
    s'.Retries ↔ Covered net s (.execute io instr) := by
  rw [step_execute, Option.some.injEq] at hst
  have hflag := attemptJump_lastUploadFailed net io.faults s.manager instr
  rw [← hst, retries_record_iff]
  simp only [executeInstruction, Covered]
  rcases hjump : attemptJump net io.faults s.manager instr with ⟨m, info, jumped⟩
  simp only [hjump] at hflag
  cases hfailed : s.manager.lastUploadFailed with
  | true => cases jumped <;> simp [hflag, hfailed]
  | false =>
    have hreported : s.unreported = false := by
      cases hunreported : s.unreported with
      | false => rfl
      | true => exact absurd (hs hunreported) (by simp [hfailed])
    cases jumped with
    | false => simp [hflag, hfailed, hreported]
    | true => cases io.localIps <;> simp [hflag, hfailed]

/-- What one covered call keeps. -/
theorem Retries.step {call : ReportingCall} (hs : s.Retries) (hcovered : Covered net s call)
    (hst : (system net).step s call = some s') : s'.Retries := by
  cases call with
  | execute io instr => exact (retries_execute_iff hs hst).mpr hcovered
  | cleanup io => exact (retries_cleanup_iff hs hst).mpr hcovered

/-- The flag becomes false only by a successful upload. -/
theorem exists_upload_of_flag_cleared {call : ReportingCall}
    (hst : (system net).step s call = some s') (hbefore : s.manager.lastUploadFailed = true)
    (hafter : s'.manager.lastUploadFailed = false) :
    ∃ agentIp, s'.uploads = (agentIp, true) :: s.uploads := by
  cases call with
  | execute io instr =>
    rw [step_execute, Option.some.injEq] at hst
    have hflag := attemptJump_lastUploadFailed net io.faults s.manager instr
    rw [← hst] at hafter
    simp only [record, executeInstruction] at hafter
    split at hafter <;> simp_all
  | cleanup io =>
    rw [step_cleanup, Option.some.injEq] at hst
    have hflag : (removeAged net io s.manager).1.lastUploadFailed = true :=
      (removeExpired_lastUploadFailed _ _ _ _ _ _).trans hbefore
    have hupload :
        cleanupUpload io (removeAged net io s.manager).1 (removeAged net io s.manager).2 =
        io.localIps.map fun agentIp => (agentIp, io.uploadOk) := by
      rw [cleanupUpload, hflag, Bool.or_true, if_pos rfl]
    rw [← hst] at hafter ⊢
    simp only [record, doPeriodicCleanup_eq, uploadAddresses_lastUploadFailed, hupload,
      hflag] at hafter ⊢
    cases hips : io.localIps with
    | none => simp [hips] at hafter
    | some agentIp =>
      have hok : io.uploadOk = true := by simpa [hips] using hafter
      exact ⟨agentIp, by simp [hok]⟩

/-- While the flag is set, a cleanup uploads whatever addresses it can read. -/
theorem cleanup_uploads_again {io : CleanupIo} {agentIp : String}
    (hst : (system net).step s (.cleanup io) = some s')
    (hfailed : s.manager.lastUploadFailed = true) (hips : io.localIps = some agentIp) :
    s'.uploads = (agentIp, io.uploadOk) :: s.uploads := by
  rw [step_cleanup, Option.some.injEq] at hst
  have hflag : (removeAged net io s.manager).1.lastUploadFailed = true :=
    (removeExpired_lastUploadFailed _ _ _ _ _ _).trans hfailed
  rw [← hst]
  simp [record, cleanupUpload, hflag, hips]

/-- **No unreported address change.** In every run whose calls are covered, at the end
of each cleanup the flag is set if an address was removed or a jump succeeded since
the last successful upload, the next cleanup then uploads again, and the flag
becomes false only by a successful upload. -/
theorem address_changes_reported (hs : (system net).Reaches (Covered net) s) :
    (∀ io s', Covered net s (.cleanup io) → (system net).step s (.cleanup io) = some s' →
      s'.Retries ∧ ∀ io' s'' agentIp, s'.unreported = true → io'.localIps = some agentIp →
        (system net).step s' (.cleanup io') = some s'' →
        s''.uploads = (agentIp, io'.uploadOk) :: s'.uploads) ∧
    ∀ call s', (system net).step s call = some s' → s.manager.lastUploadFailed = true →
      s'.manager.lastUploadFailed = false →
      ∃ agentIp, s'.uploads = (agentIp, true) :: s.uploads := by
  have hretries : s.Retries := by
    refine hs.invariant ?_ fun s call s' ih hcovered hst => ih.step hcovered hst
    rintro _ ⟨mainInterface, host, rfl⟩
    exact fun h => absurd h Bool.false_ne_true
  refine ⟨fun io s' hcovered hst => ?_, fun call s' => exists_upload_of_flag_cleared⟩
  have hafter := hretries.step hcovered hst
  exact ⟨hafter, fun io' s'' agentIp hunreported hips hst' =>
    cleanup_uploads_again hst' (hafter hunreported) hips⟩

/-- A manager on a host with one address. -/
def start : Reporting := ⟨Session.oneAddress.manager, false, []⟩

/-- It is an initial state. -/
theorem start_initial : Initial start := ⟨"eth0", _, rfl⟩

/-- An instruction to jump to another address. -/
def toSix : IpJumpInstruction := ⟨"10.0.0.5", "10.0.0.6/24", "", 0⟩

/-- An execution in which only the upload may fail. -/
def executeIo (uploadOk : Bool) : ExecuteIo := ⟨Session.noFaults, id, some "10.0.0.6", uploadOk⟩

/-- A cleanup in which only the upload fails. -/
def offlineCleanup : CleanupIo := ⟨fun _ => false, fun _ => false, some "10.0.0.6", false⟩

/-- A jump that is reported, then the removal of the old address while the server
cannot be reached: the flag is set. -/
theorem address_changes_reported_offline :
    ∃ s s' : Reporting, (system Net.dotted).step s (.cleanup offlineCleanup) = some s' ∧
      s'.unreported = true ∧ s'.manager.lastUploadFailed = true := by
  have hrun : ((system Net.dotted).exec start
      [.execute (executeIo true) toSix, .cleanup Session.quietCleanup]).map
        (fun s => decide (Covered Net.dotted s (.cleanup offlineCleanup)) &&
          (((system Net.dotted).step s (.cleanup offlineCleanup)).map (·.unreported)) = some true)
      = some true := by decide +kernel
  obtain ⟨s, hexec, hcheck⟩ := Option.map_eq_some_iff.mp hrun
  rw [Bool.and_eq_true, decide_eq_true_eq, decide_eq_true_eq] at hcheck
  obtain ⟨hcovered, hstep⟩ := hcheck
  obtain ⟨s', hstep, hunreported⟩ := Option.map_eq_some_iff.mp hstep
  have hmeets : (system Net.dotted).Meets (Covered Net.dotted) start
      [.execute (executeIo true) toSix, .cleanup Session.quietCleanup] := by decide +kernel
  have hreach : (system Net.dotted).Reaches (Covered Net.dotted) s :=
    (Runs.System.Reaches.init start_initial).exec hmeets hexec
  have hretries := ((address_changes_reported hreach).1 offlineCleanup s' hcovered hstep).1
  exact ⟨s, s', hstep, hunreported, hretries hunreported⟩

/-- A jump whose upload fails is not reported by the cleanup that follows, and the
flag is not set. -/
theorem failed_upload_forgotten : ∃ s s' : Reporting, (system Net.dotted).Reachable s ∧
    (system Net.dotted).step s (.cleanup Session.quietCleanup) = some s' ∧ ¬s'.Retries := by
  have hrun : ((system Net.dotted).exec start [.execute (executeIo false) toSix]).map
      (fun s => ((system Net.dotted).step s (.cleanup Session.quietCleanup)).map
        fun s' => decide s'.Retries) = some (some false) := by decide +kernel
  obtain ⟨s, hexec, hstep⟩ := Option.map_eq_some_iff.mp hrun
  obtain ⟨s', hstep, hretries⟩ := Option.map_eq_some_iff.mp hstep
  have hreach : (system Net.dotted).Reachable s :=
    Runs.System.Reachable.exec (.init start_initial) hexec
  exact ⟨s, s', hreach, hstep, of_decide_eq_false hretries⟩

end Reporting

end LinuxAgent.IpJump
