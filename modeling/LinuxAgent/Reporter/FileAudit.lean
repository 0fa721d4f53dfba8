import LinuxAgent.Lib.Mpsc
import LinuxAgent.Reporter.ProcessAudit

/-!
# Audits of files

The kernel writes a record of what happens to a protected file into a ring. The handler copies the
announced records and makes an alert of each that a rule applies to. The alerts go through a channel
of 512 to the service that uploads them.

On some records of the kernel the handler panics, and then the rest of its batch is passed over.
Where the channel is full an alert is dropped, and where an upload fails a buffer is. Nothing else
gets lost, and nothing is reported twice.
-/

namespace LinuxAgent.Reporter.FileAudit

open Json

/-- A record of the ring. -/
structure AvFileInfo where
  comm : Vector UInt8 128
  path : Vector UInt8 512
  dstPath : Vector UInt8 512
  logType : UInt16
  flags : UInt16
  deriving DecidableEq

/-- `RulesType`. -/
inductive RulesType
  | selfProtectionType
  | lesouProtectionType
  | tamperProtectionType
  deriving DecidableEq

/-- `RulesType::from_u32`. -/
def RulesType.fromU32 (value : ℕ) : Option RulesType :=
  [RulesType.selfProtectionType, .lesouProtectionType, .tamperProtectionType][value]?

namespace AvFileInfo

/-- The bits of the flags from a place on. -/
def bits (info : AvFileInfo) (place mask : UInt16) : ℕ := ((info.flags >>> place) &&& mask).toNat

/-- What the kernel says the file is: 1 for a directory. -/
def isDir (info : AvFileInfo) : ℕ := info.bits 0 7

/-- What happened to the file. -/
def type_ (info : AvFileInfo) : ℕ := info.bits 3 7

/-- The kind of rule that applies. -/
def rulesType (info : AvFileInfo) : Option RulesType := RulesType.fromU32 (info.bits 6 15)

/-- The level of the alert. -/
def logLevel (info : AvFileInfo) : ℕ := info.bits 10 7

end AvFileInfo

/-- `CStr::from_bytes_until_nul` and `to_str`, with the errors about a field. -/
def cstr (field : String) (bytes : List UInt8) : Except String String :=
  if 0 ∈ bytes then
    ((Utf8.decode (bytes.takeWhile (· ≠ 0))).map fun cs => .ok (String.ofList cs)).getD
      (.error ("无效 UTF-8 " ++ field))
  else .error ("无效 " ++ field)

/-- What a file is. -/
inductive FileKind
  | dir
  | file
  | other
  deriving DecidableEq

/-- What the handler finds when it looks at a record. -/
structure FileEnv where
  /-- `std::fs::metadata`. -/
  metadata : String → Option FileKind
  /-- `get_md5_global`. -/
  getMd5Global : String → Except String String

/-- What the handler makes of a record. -/
inductive Outcome
  /-- No rule applies. -/
  | ignored
  | failed (e : String)
  | panicked
  /-- An alert for the channel. -/
  | alert (log : AuditLogInfo)

/-- The alert, or an error. -/
def Outcome.ofExcept : Except String AuditLogInfo → Outcome
  | .error e => .failed e
  | .ok log => .alert log

/-- `audit_file_oper_rename`, up to the channel. -/
def auditFileOperRename (env : FileEnv) (info : AvFileInfo) (level pos : ℕ) :
    Except String AuditLogInfo := do
  let path ← cstr "path" info.path.toList
  let dstPath ← cstr "dst_path" info.dstPath.toList
  let comm ← cstr "comm" info.comm.toList
  let paths := if pos = 0 then (path, dstPath) else (dstPath, path)
  .ok
    { filePath := some paths.1
      renameDir := if paths.2 = "" then none else some paths.2
      exceptionProcess := some comm
      md5 := (env.getMd5Global comm).toOption
      nType := info.logType.toNat
      nLevel := level
      nTime := 1692760326
      noticeRemark := none
      peripheralName := none
      peripheralRemark := none
      peripheralEid := none
      pParam := none }

/-- `G_WARN_LOG_TYPE`. -/
def gWarnLogType : List (List (List UInt16)) :=
  [[[3001, 3002, 3003, 3004, 3005], [3101, 3102, 3103, 3104, 3105]],
    [[2001, 2002, 2003, 2004, 2005], [2101, 2102, 2103, 2104, 2105]]]

/-- `G_RUN_FILE_MODE`. -/
def gRunFileMode : ℕ := 0

/-- `FILE_MODIFY`. -/
def fileModify : ℕ := 1

/-- The variable `file_mode`: the file system has the last word, where it can tell. -/
def fileMode (kind : Option FileKind) (info : AvFileInfo) : ℕ :=
  if kind = some .dir then 1 else if kind = some .file then 0 else info.isDir

/-- `rename_tamper_protect_match`. An index outside of the table is a panic. -/
def renameTamperProtectMatch (env : FileEnv) (info : AvFileInfo) : Outcome :=
  match cstr "path" info.path.toList with
  | .error e => .failed e
  | .ok path =>
    if env.metadata path = some .dir ∧ info.type_ = fileModify then .ignored
    else
      (((gWarnLogType[fileMode (env.metadata path) info]?.bind (·[gRunFileMode]?)).bind
        (·[info.type_]?)).map fun warnLogType =>
          Outcome.ofExcept
            (auditFileOperRename env { info with logType := warnLogType } info.logLevel 0)).getD
        .panicked

/-- What the loop of `audit_file_oper_new` makes of a record. -/
def outcome (env : FileEnv) (info : AvFileInfo) : Outcome :=
  if info.rulesType = some .lesouProtectionType then
    .ofExcept (auditFileOperRename env info info.logLevel 0)
  else if info.rulesType = some .tamperProtectionType then renameTamperProtectMatch env info
  else .ignored

/-- The records that `handle_file_zcopy_oper` copies for its loop, or an error. -/
def copied {n : ℕ} (ring : AuditRing AvFileInfo n) (netlog : NetlinkNetlog) (dataLen : UInt32) :
    Except String (List AvFileInfo) :=
  if dataLen < netlinkNetlogSize then
    .error ("数据长度太小，期望至少 " ++ toString netlinkNetlogSize.toNat ++ " 字节，实际是 " ++
      toString dataLen.toNat ++ " 字节")
  else if ring.auditSucceed = false then
    .error "ZcopyMgr file audit not initialized"
  else if netlog.maxIdx = 0 ∧ netlog.endIdx ≤ netlog.startIdx then
    .error ("无效索引范围: start_idx=" ++ toString netlog.startIdx.toNat ++ " >= end_idx=" ++
      toString netlog.endIdx.toNat)
  else .ok (ring.visited netlog)

/-- What became of an announced record. -/
structure Handled where
  info : AvFileInfo
  /-- What the handler has found, and how many alerts were in the channel. Without it the record was
  passed over. -/
  seen : Option (FileEnv × ℕ)

/-- The alert that was put into the channel. -/
def Handled.sentLog (r : Handled) : Option AuditLogInfo :=
  r.seen.bind fun seen =>
    match outcome seen.1 r.info with
    | .alert log => if seen.2 < 512 then some log else none
    | _ => none

/-- The handler has panicked on a record. -/
def Handled.Panicked (r : Handled) : Prop :=
  ∃ seen, r.seen = some seen ∧ outcome seen.1 r.info = .panicked

/-- The handler, the channel and the service, with what has happened to the records and the
alerts. -/
structure State where
  /-- The records of the batch that are still to be looked at. -/
  waiting : List AvFileInfo
  /-- The result of the batch so far. -/
  rc : Except String Unit
  channel : Mpsc.Channel AuditLogInfo 512
  service : AlertState
  /-- The records that were copied. -/
  announced : List AvFileInfo
  handled : List Handled
  /-- The alerts that were put into the channel, with those of this handler marked. -/
  sent : List (Bool × AuditLogInfo)
  /-- The alerts in failed uploads. -/
  lost : List AuditLogInfo

/-- What happens. -/
inductive Action
  /-- The handler is called. -/
  | notify {n : ℕ} (ring : AuditRing AvFileInfo n) (netlog : NetlinkNetlog) (dataLen : UInt32)
  /-- The handler looks at the next record. -/
  | record (env : FileEnv)
  /-- Another part of the agent reports an alert. -/
  | other (log : AuditLogInfo)
  | recv
  | tick (post : String → Bool)

/-- What comes of a record. -/
def State.apply (s : State) (info : AvFileInfo) (rest : List AvFileInfo) (env : FileEnv) : State :=
  let seen : Handled := ⟨info, some (env, s.channel.queue.length)⟩
  match outcome env info with
  | .ignored => { s with waiting := rest, handled := s.handled ++ [seen] }
  | .failed e => { s with waiting := rest, handled := s.handled ++ [seen], rc := .error e }
  | .panicked =>
    { s with
      waiting := []
      handled := s.handled ++ seen :: rest.map fun info => ⟨info, none⟩ }
  | .alert log =>
    ((s.channel.send log).map fun channel =>
      { s with
        waiting := rest
        handled := s.handled ++ [seen]
        channel := channel
        sent := s.sent ++ [(true, log)] }).getD
      { s with waiting := rest, handled := s.handled ++ [seen] }

/-- The buffer of the service, if its upload fails. -/
def failedUpload (service : AlertState) (post : String → Bool) : List AuditLogInfo :=
  if (service.upload ⟨alertToJson, post⟩).posted.length = service.posted.length then
    service.buffer.map Arrived.log
  else []

/-- One step. A batch is handled before the next call. -/
def step (s : State) : Action → Option State
  | .notify ring netlog dataLen =>
    if s.waiting = [] then
      match copied ring netlog dataLen with
      | .error e => some { s with rc := .error e }
      | .ok reports =>
        some { s with waiting := reports, rc := .ok (), announced := s.announced ++ reports }
    else none
  | .record env => s.waiting.head?.map fun info => s.apply info s.waiting.tail env
  | .other log =>
    (s.channel.send log).map fun channel =>
      { s with channel := channel, sent := s.sent ++ [(false, log)] }
  | .recv =>
    s.channel.recv.map fun r => { s with channel := r.2, service := s.service.receive r.1 }
  | .tick post =>
    some
      { s with
        service := s.service.upload ⟨alertToJson, post⟩
        lost := s.lost ++ failedUpload s.service post }

/-- Before the first announcement. -/
def start : State := ⟨[], .ok (), Mpsc.channel, .started, [], [], [], []⟩

/-- The kernel, the task that reads the ring, and the server. -/
def system : Runs.System State Action where
  init s := s = start
  step := step

/-- What the server has read. -/
def State.readByServer (s : State) : List LogEntry :=
  s.service.posted.flatMap fun batch =>
    ((buildAlertLogJson alertToJson (batch.map Arrived.log)).toOption.bind
      (readBody "alert" alertCoding)).getD []

/-- What holds all along. -/
structure Inv (s : State) : Prop where
  records : s.handled.map Handled.info ++ s.waiting = s.announced
  alerts : (s.sent.filter Prod.fst).map Prod.snd = s.handled.filterMap Handled.sentLog
  places : ((s.service.posted.flatten.map Arrived.log ++ s.lost) ++
    (s.service.buffer.map Arrived.log ++ s.channel.queue)).Perm (s.sent.map Prod.snd)
  inOrder : (s.service.posted.flatten.map Arrived.log ++
    (s.service.buffer.map Arrived.log ++ s.channel.queue)).Sublist (s.sent.map Prod.snd)
  passedOver : s.handled.IsChain fun r next => next.seen = none → r.seen = none ∨ r.Panicked
  first : ∀ r ∈ s.handled.head?, r.seen ≠ none

/-- The invariant holds before the first record. -/
theorem inv_start : Inv start :=
  ⟨rfl, rfl, .rfl, .slnil, .nil, nofun⟩

/-- What comes of a record that the handler has looked at. -/
theorem State.apply_cases (s : State) (info : AvFileInfo) (rest : List AvFileInfo) (env : FileEnv) :
    (∃ rc, (⟨info, some (env, s.channel.queue.length)⟩ : Handled).sentLog = none ∧
        s.apply info rest env =
          { s with
            waiting := rest
            rc := rc
            handled := s.handled ++ [⟨info, some (env, s.channel.queue.length)⟩] }) ∨
      (∃ log channel, (⟨info, some (env, s.channel.queue.length)⟩ : Handled).sentLog = some log ∧
        s.channel.send log = some channel ∧
        s.apply info rest env =
          { s with
            waiting := rest
            handled := s.handled ++ [⟨info, some (env, s.channel.queue.length)⟩]
            channel := channel
            sent := s.sent ++ [(true, log)] }) ∨
      (outcome env info = .panicked ∧
        s.apply info rest env =
          { s with
            waiting := []
            handled := s.handled ++ ⟨info, some (env, s.channel.queue.length)⟩ ::
              rest.map fun info => ⟨info, none⟩ }) := by
  unfold State.apply Handled.sentLog
  dsimp only [Option.bind_some]
  cases houtcome : outcome env info with
  | ignored => exact .inl ⟨s.rc, rfl, rfl⟩
  | failed e => exact .inl ⟨.error e, rfl, rfl⟩
  | panicked => exact .inr (.inr ⟨rfl, rfl⟩)
  | alert log =>
    cases hsend : s.channel.send log with
    | none =>
      refine .inl ⟨s.rc, ?_, by simp only [hsend]; rfl⟩
      have hfull := (Mpsc.Channel.send_isSome (c := s.channel) (a := log)).not.mp (by simp [hsend])
      exact if_neg hfull
    | some channel =>
      refine .inr (.inl ⟨log, channel, ?_, hsend, by simp only [hsend]; rfl⟩)
      exact if_pos (Mpsc.Channel.send_eq_some hsend).1

/-- Records are passed over after one on which the handler has panicked. -/
theorem isChain_passedOver {r : Handled} (hr : r.seen = none ∨ r.Panicked)
    (rest : List AvFileInfo) :
    (r :: rest.map fun info => (⟨info, none⟩ : Handled)).IsChain fun r next =>
      next.seen = none → r.seen = none ∨ r.Panicked := by
  induction rest generalizing r with
  | nil => exact .singleton _
  | cons info rest ih => exact .cons_cons (fun _ => hr) (ih (.inl rfl))

/-- Handling a record keeps the invariant. -/
theorem Inv.apply {s : State} (h : Inv s) {info : AvFileInfo} {rest : List AvFileInfo}
    (hwaiting : s.waiting = info :: rest) (env : FileEnv) : Inv (s.apply info rest env) := by
  have hrecords : s.handled.map Handled.info ++ info :: rest = s.announced := hwaiting ▸ h.records
  have hlooked (more : List Handled) (hmore : ∀ r ∈ more.head?, r.seen ≠ none)
      (hchain : more.IsChain fun r next => next.seen = none → r.seen = none ∨ r.Panicked) :
      (s.handled ++ more).IsChain fun r next => next.seen = none → r.seen = none ∨ r.Panicked :=
    List.isChain_append.mpr
      ⟨h.passedOver, hchain, fun r _ next hnext hnone => absurd hnone (hmore next hnext)⟩
  have hfirst (more : List Handled) (hmore : ∀ r ∈ more.head?, r.seen ≠ none) :
      ∀ r ∈ (s.handled ++ more).head?, r.seen ≠ none := by
    intro r hr
    rw [List.head?_append] at hr
    cases hhead : s.handled.head? with
    | none => exact hmore r (by simpa [hhead] using hr)
    | some first => exact h.first r (by simpa [hhead] using hr)
  obtain ⟨rc, hlog, happly⟩ | ⟨log, channel, hlog, hsend, happly⟩ | ⟨hpanic, happly⟩ :=
    s.apply_cases info rest env
  · rw [happly]
    refine ⟨?_, ?_, h.places, h.inOrder, hlooked _ (by simp) (.singleton _), hfirst _ (by simp)⟩
    · simpa using hrecords
    · rw [List.filterMap_append, List.filterMap_cons_none hlog, h.alerts]
      simp
  · rw [happly]
    have hqueue := (Mpsc.Channel.send_eq_some hsend).2
    refine ⟨?_, ?_, ?_, ?_, hlooked _ (by simp) (.singleton _), hfirst _ (by simp)⟩
    · simpa using hrecords
    · rw [List.filterMap_append, List.filterMap_cons_some hlog, List.filter_append,
        List.map_append, h.alerts]
      rfl
    · have hplaces := h.places.append_right [log]
      simpa only [hqueue, List.map_append, List.append_assoc, List.map_singleton] using hplaces
    · have hinOrder := h.inOrder.append_right [log]
      simpa only [hqueue, List.map_append, List.append_assoc, List.map_singleton] using hinOrder
  · rw [happly]
    refine ⟨?_, ?_, h.places, h.inOrder, hlooked _ (by simp) ?_, hfirst _ (by simp)⟩
    · simpa [Function.comp_def] using hrecords
    · have hnone : (⟨info, some (env, s.channel.queue.length)⟩ : Handled).sentLog = none := by
        simp [Handled.sentLog, hpanic]
      rw [List.filterMap_append, List.filterMap_cons_none hnone, h.alerts]
      simp [Handled.sentLog, Function.comp_def]
    · have hpanicked : (⟨info, some (env, s.channel.queue.length)⟩ : Handled).Panicked :=
        ⟨(env, s.channel.queue.length), rfl, hpanic⟩
      exact isChain_passedOver (.inr hpanicked) rest

/-- An upload of the service takes the whole buffer. -/
theorem upload_failedUpload (service : AlertState) (post : String → Bool) :
    ((service.upload ⟨alertToJson, post⟩).posted = service.posted ++ [service.buffer] ∧
        failedUpload service post = [] ∨
      (service.upload ⟨alertToJson, post⟩).posted = service.posted ∧
        failedUpload service post = service.buffer.map Arrived.log) ∧
      (service.upload ⟨alertToJson, post⟩).buffer = [] := by
  unfold failedUpload AlertState.upload
  by_cases hnil : service.buffer = []
  · simp [hnil]
  · have hjson : buildAlertLogJson alertToJson (service.buffer.map Arrived.log) =
        alertToJson ((service.buffer.map Arrived.log).map AuditLogInfo.entry) := by
      simp [buildAlertLogJson, hnil]
    rw [if_neg hnil, hjson, alertToJson]
    cases hpost : post (body "alert" (List.map LogEntry.json
      ((service.buffer.map Arrived.log).map AuditLogInfo.entry))) <;> simp only [hpost] <;> simp

/-- Every step keeps the invariant. -/
theorem Inv.step {s s' : State} {a : Action} (h : Inv s) (hstep : step s a = some s') : Inv s' := by
  cases a with
  | notify ring netlog dataLen =>
    unfold FileAudit.step at hstep
    dsimp only at hstep
    split at hstep
    · next hidle =>
      cases hcopied : copied ring netlog dataLen with
      | error e =>
        rw [hcopied] at hstep
        obtain rfl := Option.some.inj hstep
        exact ⟨h.records, h.alerts, h.places, h.inOrder, h.passedOver, h.first⟩
      | ok reports =>
        rw [hcopied] at hstep
        obtain rfl := Option.some.inj hstep
        refine ⟨?_, h.alerts, h.places, h.inOrder, h.passedOver, h.first⟩
        have hrecords := h.records
        rw [hidle, List.append_nil] at hrecords
        exact congrArg (· ++ reports) hrecords
    · cases hstep
  | record env =>
    obtain ⟨info, hhead, rfl⟩ := Option.map_eq_some_iff.mp hstep
    obtain ⟨rest, hwaiting⟩ := List.head?_eq_some_iff.mp hhead
    rw [hwaiting]
    exact h.apply hwaiting env
  | other log =>
    obtain ⟨channel, hsend, rfl⟩ := Option.map_eq_some_iff.mp hstep
    have hqueue := (Mpsc.Channel.send_eq_some hsend).2
    refine ⟨h.records, ?_, ?_, ?_, h.passedOver, h.first⟩
    · simpa using h.alerts
    · have hplaces := h.places.append_right [log]
      simpa only [hqueue, List.map_append, List.append_assoc, List.map_singleton] using hplaces
    · have hinOrder := h.inOrder.append_right [log]
      simpa only [hqueue, List.map_append, List.append_assoc, List.map_singleton] using hinOrder
  | recv =>
    obtain ⟨⟨log, channel⟩, hrecv, rfl⟩ := Option.map_eq_some_iff.mp hstep
    have hqueue := Mpsc.Channel.recv_eq_some hrecv
    refine ⟨h.records, h.alerts, ?_, ?_, h.passedOver, h.first⟩
    · simpa [AlertState.receive, hqueue] using h.places
    · simpa [AlertState.receive, hqueue] using h.inOrder
  | tick post =>
    obtain rfl := Option.some.inj hstep
    obtain ⟨⟨hposted, hfailed⟩ | ⟨hposted, hfailed⟩, hbuffer⟩ := upload_failedUpload s.service post
    · refine ⟨h.records, h.alerts, ?_, ?_, h.passedOver, h.first⟩
      · refine List.Perm.trans ?_ h.places
        simp only [hposted, hfailed, hbuffer, List.flatten_append, List.flatten_singleton,
          List.map_append, List.append_nil, List.map_nil, List.nil_append, List.append_assoc]
        refine List.Perm.append_left _ ?_
        rw [← List.append_assoc, ← List.append_assoc]
        exact List.perm_append_comm.append_right _
      · simp only [hposted, hbuffer]
        simpa using h.inOrder
    · refine ⟨h.records, h.alerts, ?_, ?_, h.passedOver, h.first⟩
      · simp only [hposted, hfailed, hbuffer]
        simpa using h.places
      · simp only [hposted, hbuffer]
        refine List.Sublist.trans ?_ h.inOrder
        simp

/-- The invariant holds in every run. -/
theorem inv_of_reachable {s : State} (h : system.Reachable s) : Inv s := by
  refine h.invariant (fun s hs => ?_) fun _ _ _ hinv _ hstep => hinv.step hstep
  obtain rfl : s = start := hs
  exact inv_start

/-- The server reads the entries of the logs that were posted. -/
theorem State.readByServer_eq (s : State) :
    s.readByServer = (s.service.posted.flatten.map Arrived.log).map AuditLogInfo.entry := by
  have hbatch (batch : List Arrived) :
      ((buildAlertLogJson alertToJson (batch.map Arrived.log)).toOption.bind
        (readBody "alert" alertCoding)).getD [] =
      (batch.map Arrived.log).map AuditLogInfo.entry := by
    rw [buildAlertLogJson_alertToJson, readsBack_buildBody.entries]
    split
    · next hnil => rw [hnil]; rfl
    · rfl
  simp only [State.readByServer, hbatch, List.flatMap_def, List.map_flatten, List.map_map,
    Function.comp_def]

/-- A record with empty paths. -/
def blankRecord (flags : UInt16) : AvFileInfo :=
  ⟨.replicate 128 0, .replicate 512 0, .replicate 512 0, 9001, flags⟩

/-- A ring of two records: a rule against tampering applies to the second of them, and what happened
is not in the table. -/
def twoRecords : AuditRing AvFileInfo 2 where
  records := [blankRecord 64, blankRecord 168].get
  auditSucceed := true
  count_pos := Nat.two_pos

/-- No file is there. -/
def noFile : FileEnv := ⟨fun _ => none, fun _ => .error "No such file"⟩

/-- Three records are announced, and the first one reaches the server. -/
def threeAnnounced : List Action :=
  [.notify twoRecords ⟨0, 3, 0⟩ 12, .record noFile, .record noFile, .recv, .tick fun _ => true]

/-- The state after this. -/
def afterThree : State := (system.exec start threeAnnounced).getD start

/-- The run of three records. -/
theorem reachable_afterThree : system.Reachable afterThree := by
  have hexec : system.exec start threeAnnounced = some afterThree := rfl
  exact Runs.System.Reaches.exec (.init rfl) (.of_forall (fun _ _ _ => trivial) _) hexec

/-- A record on which the handler panics: a rule against tampering applies, the path can be read,
and neither the file system nor the kernel says that the file is a file or a directory, or what
happened to it is not in the table. Changing a directory is not looked up. -/
structure Fatal (env : FileEnv) (info : AvFileInfo) (path : String) : Prop where
  rulesType : info.rulesType = some .tamperProtectionType
  path_eq : cstr "path" info.path.toList = .ok path
  looked_up : ¬ (env.metadata path = some .dir ∧ info.type_ = fileModify)
  outside : 2 ≤ fileMode (env.metadata path) info ∨ 5 ≤ info.type_

/-- The table has five types for files and five for directories. -/
theorem gWarnLogType_eq_none_iff {mode type_ : ℕ} :
    ((gWarnLogType[mode]?.bind (·[gRunFileMode]?)).bind (·[type_]?)) = none ↔
      2 ≤ mode ∨ 5 ≤ type_ := by
  have hrow (row : List UInt16) (hlength : row.length = 5) : row[type_]? = none ↔ 5 ≤ type_ := by
    rw [List.getElem?_eq_none_iff, hlength]
  obtain rfl | rfl | ⟨mode, rfl⟩ : mode = 0 ∨ mode = 1 ∨ ∃ k, mode = k + 2 := by
    obtain _ | _ | k := mode
    · exact .inl rfl
    · exact .inr (.inl rfl)
    · exact .inr (.inr ⟨k, rfl⟩)
  · exact (hrow [3001, 3002, 3003, 3004, 3005] rfl).trans (by simp)
  · exact (hrow [2001, 2002, 2003, 2004, 2005] rfl).trans (by simp)
  · simp [gWarnLogType]

/-- An error is not a panic. -/
theorem ofExcept_ne_panicked (r : Except String AuditLogInfo) : Outcome.ofExcept r ≠ .panicked := by
  cases r <;> nofun

/-- The handler panics on exactly these records. -/
theorem outcome_eq_panicked_iff {env : FileEnv} {info : AvFileInfo} :
    outcome env info = .panicked ↔ ∃ path, Fatal env info path := by
  rw [outcome]
  split
  · next hlesou =>
    refine iff_of_false (ofExcept_ne_panicked _) ?_
    rintro ⟨path, hfatal⟩
    rw [hfatal.rulesType] at hlesou
    cases hlesou
  · split
    · next htamper =>
      rw [renameTamperProtectMatch]
      cases hpath : cstr "path" info.path.toList with
      | error e =>
        refine iff_of_false nofun ?_
        rintro ⟨path, hfatal⟩
        cases hpath.symm.trans hfatal.path_eq
      | ok path =>
        dsimp only
        constructor
        · intro h
          split at h
          · cases h
          · next hlooked =>
            refine ⟨path, htamper, hpath, hlooked, gWarnLogType_eq_none_iff.mp ?_⟩
            rw [Option.eq_none_iff_forall_not_mem]
            intro t ht
            rw [Option.mem_def.mp ht] at h
            exact ofExcept_ne_panicked _ h
        · rintro ⟨other, -, hother, hlooked, houtside⟩
          obtain rfl : path = other := Except.ok.inj (hpath.symm.trans hother)
          rw [if_neg hlooked, gWarnLogType_eq_none_iff.mpr houtside]
          rfl
    · next htamper =>
      refine iff_of_false nofun ?_
      rintro ⟨path, hfatal⟩
      exact htamper hfatal.rulesType

/-- A record that is passed over comes after one on which the handler has panicked, with only such
records between them. -/
theorem Inv.exists_panicked {s : State} (h : Inv s) {before after : List Handled} {r : Handled}
    (hr : s.handled = before ++ r :: after) (hnone : r.seen = none) :
    ∃ earlier bad between, before = earlier ++ bad :: between ∧ bad.Panicked ∧
      ∀ r ∈ between, r.seen = none := by
  induction before using List.reverseRecOn generalizing r after with
  | nil =>
    have hfirst := h.first
    rw [hr] at hfirst
    exact absurd hnone (hfirst r rfl)
  | append_singleton before p ih =>
    have hchain := h.passedOver
    rw [hr, List.append_assoc, List.singleton_append, List.isChain_append_cons_cons] at hchain
    obtain hp | hp := hchain.2.1 hnone
    · have hsplit : s.handled = before ++ p :: r :: after := by
        rw [hr, List.append_assoc, List.singleton_append]
      obtain ⟨earlier, bad, between, rfl, hbad, hbetween⟩ := ih hsplit hp
      refine ⟨earlier, bad, between ++ [p], by simp, hbad, fun x hx => ?_⟩
      obtain hx | hx := List.mem_append.mp hx
      · exact hbetween x hx
      · rw [List.mem_singleton.mp hx]
        exact hp
    · exact ⟨before, p, [], rfl, hp, nofun⟩

end LinuxAgent.Reporter.FileAudit
