import LinuxAgent.Reporter.Bodies
import LinuxAgent.Snapman.Restore

/-!
# Backups and rollbacks

The server sends ids, and a task makes the backup of each, or goes back to it. Every id is answered
by one upload, in the order of the ids. A rollback ends with a restart of the machine just if one of
its uploads says that it went well.
-/

namespace LinuxAgent.Task.Backups

open LinuxAgent.Snapman Json

/-- The text of an error. -/
def reason : SnapError → String
  | .command error => error
  | .sizeQuery error => "获取卷大小失败: " ++ error
  | .noVolumeGroup => "未找到卷组名称"
  | .emptySize size => "清理后大小为空: " ++ size
  | .badNumber unit number =>
    "无法解析 " ++ String.ofList [unit.toUpper, 'B'] ++ " 数值: '" ++ number ++ "'"
  | .unknownUnit size => "无法解析大小（未知单位）: '" ++ size ++ "'"
  | .notEnoughSpace vg requiredGb freeGb =>
    "卷组 " ++ vg ++ " 剩余空间不足: 需要 " ++ toString requiredGb ++ "G，当前可用 " ++
      toString freeGb ++ "G"
  | .volumeGroupNotFound vg => "未找到卷组 " ++ vg
  | .nothingCreated => "未找到可用于快照的根卷 (排除 swap 与 _snap_)"
  | .snapshotNotFound name => "未找到匹配的快照: " ++ name

/-- A request to the server. -/
structure Post where
  url : String
  body : String
  deriving DecidableEq

/-- The addresses of the server, and its answer to the request for the ids. -/
structure Client where
  baseUrl : String
  apiInterface : String → Option String
  /-- `serde_json::from_str`. -/
  fromStr : String → Option Json.Value
  answer : Except String String

/-- The address behind a key, if the server has given one. -/
def Client.url (c : Client) (key : String) : Option String :=
  (c.apiInterface key).map fun suffix => c.baseUrl ++ "/" ++ suffix

/-- `build_closetask_json`. -/
def buildClosetaskJson (tasklist : UInt64) : String :=
  print (.object [("tasklist", .number tasklist.toNat)])

/-- `build_upload_backup_json`. -/
def buildUploadBackupJson (id : String) (state : Int32) (size failReason : String) : String :=
  print (.object [("fail_reason", .string failReason), ("file_name", .string ""),
    ("file_size", .string size), ("id", .string id), ("param", .string ""),
    ("state", .number state.toInt), ("storage_dir", .string "")])

/-- `build_upload_rollback_json`. -/
def buildUploadRollbackJson (id : String) (state : Int32) (failReason : String) : String :=
  print (.object [("fail_reason", .string failReason), ("id", .string id),
    ("state", .number state.toInt)])

/-- What is uploaded for an id. -/
def backupBody (id : String) : Except SnapError String → String
  | .ok size => buildUploadBackupJson id 1 size ""
  | .error e => buildUploadBackupJson id 0 "" (reason e)

/-- What is uploaded for an id to go back to. -/
def rollbackBody (id : String) : Except SnapError Unit → String
  | .ok () => buildUploadRollbackJson id 1 ""
  | .error e => buildUploadRollbackJson id 0 (reason e)

/-- `upload_backup`. -/
def Client.uploadBackup (c : Client) (id : String) (result : Except SnapError String) :
    List Post :=
  (c.url "uploadBackup").toList.map fun url => ⟨url, backupBody id result⟩

/-- `upload_rollback`. -/
def Client.uploadRollback (c : Client) (id : String) (result : Except SnapError Unit) :
    List Post :=
  (c.url "uploadRollback").toList.map fun url => ⟨url, rollbackBody id result⟩

/-- An answer as JSON. -/
def Client.parseResponse (c : Client) (response : String) : Except String Json.Value :=
  (c.fromStr response).elim (.error "Failed to parse response.") .ok

/-- The ids in an answer. What has no id is passed over. -/
def idsOf (parsed : Json.Value) : List String :=
  (((parsed.field "data").bind Json.Value.asArray).getD []).filterMap fun obj => obj.str "id"

/-- What comes of a task: its requests, the volumes, and its result. -/
structure Outcome where
  posts : List Post
  backups : Backups
  result : Except String Unit

/-- The loop of `task_get_system_backups`. -/
def backupLoop (sizes : Sizes) (c : Client) : List CreateCall → Backups → List Post × Backups
  | [], b => ([], b)
  | call :: calls, b =>
    let r := createSnapshot sizes call.env call.id call.size b.lvm
    let rest := backupLoop sizes c calls (b.call sizes call)
    (c.uploadBackup call.id r.result ++ rest.1, rest.2)

/-- The calls for some ids; the commands of each find the machine in a state of its own. -/
def callsOf (env : ℕ → CreateEnv) (ids : List String) : List CreateCall :=
  ids.zipIdx.map fun x => ⟨x.1, "", env x.2⟩

/-- `task_get_system_backups`. -/
def taskGetSystemBackups (sizes : Sizes) (env : ℕ → CreateEnv) (c : Client) (taskType : UInt64)
    (s : Lvm) : Outcome :=
  (c.url "closetask").elim ⟨[], ⟨s, []⟩, .error "URL key 'closetask' not found"⟩ fun close =>
    let done : Post := ⟨close, buildClosetaskJson taskType⟩
    (c.url "getBackups").elim ⟨[done], ⟨s, []⟩, .error "URL for download_white not found"⟩
      fun url =>
        let request : Post := ⟨url, ""⟩
        let fetched := c.answer.bind c.parseResponse
        fetched.toOption.elim ⟨[done, request], ⟨s, []⟩, fetched.map fun _ => ()⟩ fun parsed =>
          let ids := if parsed.str "code" = some "000000" then idsOf parsed else []
          let loop := backupLoop sizes c (callsOf env ids) ⟨s, []⟩
          ⟨[done, request] ++ loop.1 ++ [done], loop.2, .ok ()⟩

/-- The machine on which a backup is restored. -/
structure Machine where
  lvm : Lvm
  listing : Listing
  lvconvert : LvInfo → Ran Bool

/-- What comes of `restore_snapshot`. -/
def Machine.restore (m : Machine) (id : String) : Except SnapError Unit :=
  (restoreSnapshot id m.listing m.lvconvert m.lvm).result

/-- `reboot_system`, by `systemctl` or else by `reboot`. -/
def rebootSystem (systemctl reboot : Except String Unit) : Except String Unit :=
  if systemctl.isOk then .ok () else reboot.mapError ("reboot 命令启动失败: " ++ ·)

/-- What comes of a rollback: its requests, whether the machine is restarted, and its result. -/
structure Rollback where
  posts : List Post
  reboot : Bool
  result : Except String Unit

/-- The restores for some ids; each finds a machine of its own. -/
def restoresOf (env : ℕ → Machine) (ids : List String) : List (String × Except SnapError Unit) :=
  ids.zipIdx.map fun x => (x.1, (env x.2).restore x.1)

/-- `task_system_rollback`. -/
def taskSystemRollback (env : ℕ → Machine) (systemctl reboot : Except String Unit) (c : Client)
    (taskType : UInt64) : Rollback :=
  (c.url "closetask").elim ⟨[], false, .error "URL key 'closetask' not found"⟩ fun close =>
    let done : Post := ⟨close, buildClosetaskJson taskType⟩
    (c.url "getRollbacks").elim ⟨[done], false, .error "URL for getRollbacks not found"⟩
      fun url =>
        let request : Post := ⟨url, ""⟩
        let fetched := (c.answer.mapError ("Error fetching task: " ++ ·)).bind c.parseResponse
        fetched.toOption.elim ⟨[done, request], false, fetched.map fun _ => ()⟩ fun parsed =>
          if parsed.str "code" = some "000000" then
            let restores := restoresOf env (idsOf parsed)
            let hasSuccess := restores.any fun r => r.2.isOk
            ⟨[done, request] ++ restores.flatMap fun r => c.uploadRollback r.1 r.2, hasSuccess,
              if hasSuccess then rebootSystem systemctl reboot else .ok ()⟩
          else ⟨[done, request], false, .error "API returned non-success code."⟩

/-- What the server is told of an id. -/
structure Report where
  id : String
  state : ℤ
  size : String
  failReason : String
  deriving DecidableEq

/-- The server's reading of an uploaded backup. -/
def readBackup (text : String) : Option Report := do
  let v ← read text
  some ⟨← v.str "id", ← v.int "state", ← v.str "file_size", ← v.str "fail_reason"⟩

/-- The server's reading of an uploaded rollback. -/
def readRollback (text : String) : Option Report := do
  let v ← read text
  some ⟨← v.str "id", ← v.int "state", "", ← v.str "fail_reason"⟩

/-- The report of a backup. -/
def backupReport (id : String) : Except SnapError String → Report
  | .ok size => ⟨id, 1, size, ""⟩
  | .error e => ⟨id, 0, "", reason e⟩

/-- The report of a rollback. -/
def rollbackReport (id : String) : Except SnapError Unit → Report
  | .ok () => ⟨id, 1, "", ""⟩
  | .error e => ⟨id, 0, "", reason e⟩

/-- The server reads what came of a backup. -/
theorem readBackup_backupBody (id : String) (result : Except SnapError String) :
    readBackup (backupBody id result) = some (backupReport id result) := by
  cases result <;>
    simp [readBackup, backupBody, buildUploadBackupJson, backupReport, read_print]

/-- The server reads what came of a rollback. -/
theorem readRollback_rollbackBody (id : String) (result : Except SnapError Unit) :
    readRollback (rollbackBody id result) = some (rollbackReport id result) := by
  cases result <;>
    simp [readRollback, rollbackBody, buildUploadRollbackJson, rollbackReport, read_print]

/-- The state 1 says that a backup went well. -/
theorem backupReport_state (id : String) (result : Except SnapError String) :
    (backupReport id result).state = 1 ↔ result.isOk = true := by
  cases result <;> simp [backupReport, Except.isOk, Except.toBool]

/-- A rollback is reported under its id. -/
theorem rollbackReport_id (id : String) (result : Except SnapError Unit) :
    (rollbackReport id result).id = id := by
  cases result <;> rfl

/-- The state 1 says that a rollback went well. -/
theorem rollbackReport_state (id : String) (result : Except SnapError Unit) :
    (rollbackReport id result).state = 1 ↔ result.isOk = true := by
  cases result <;> simp [rollbackReport, Except.isOk, Except.toBool]

variable {sizes : Sizes} {c : Client} {calls : List CreateCall} {b : Backups} {s : Lvm}

/-- The loop makes the calls one after the other. -/
theorem backupLoop_snd : (backupLoop sizes c calls b).2 = calls.foldl (Backups.call sizes) b := by
  induction calls generalizing b with
  | nil => rfl
  | cons call calls ih => exact ih

/-- What comes of a call after the calls before it. -/
def resultAt (sizes : Sizes) (b : Backups) (calls : List CreateCall) (i : ℕ) (call : CreateCall) :
    Except SnapError String :=
  (createSnapshot sizes call.env call.id call.size
    ((calls.take i).foldl (Backups.call sizes) b).lvm).result

/-- Each call is reported at its place. -/
theorem backupLoop_fst {url : String} (sizes : Sizes) (calls : List CreateCall) (b : Backups)
    (hurl : c.url "uploadBackup" = some url) :
    (backupLoop sizes c calls b).1.length = calls.length ∧
      ∀ (i : ℕ) (call : CreateCall), calls[i]? = some call → (backupLoop sizes c calls b).1[i]? =
        some (Post.mk url (backupBody call.id (resultAt sizes b calls i call))) := by
  induction calls generalizing b with
  | nil => exact ⟨rfl, by simp⟩
  | cons call calls ih =>
    obtain ⟨hlength, hposts⟩ := ih (b.call sizes call)
    have hfirst : (backupLoop sizes c (call :: calls) b).1 =
        ⟨url, backupBody call.id (resultAt sizes b (call :: calls) 0 call)⟩ ::
          (backupLoop sizes c calls (b.call sizes call)).1 := by
      simp only [backupLoop, Client.uploadBackup, hurl, Option.toList_some, List.map_singleton]
      rfl
    refine ⟨by rw [hfirst, List.length_cons, hlength, List.length_cons], ?_⟩
    intro i other hother
    rw [hfirst]
    cases i with
    | zero =>
      obtain rfl := Option.some.inj hother
      rfl
    | succ i => exact hposts i other hother

/-- The call for the id at a place. -/
theorem getElem?_callsOf (env : ℕ → CreateEnv) {ids : List String} {i : ℕ} {id : String}
    (h : ids[i]? = some id) : (callsOf env ids)[i]? = some ⟨id, "", env i⟩ := by
  simp [callsOf, h]

/-- What a call makes stays there. -/
theorem created_subset_foldl (calls : List CreateCall) (b : Backups) :
    b.created ⊆ (calls.foldl (Backups.call sizes) b).created := by
  induction calls generalizing b with
  | nil => exact List.Subset.refl _
  | cons call calls ih =>
    exact fun x hx => ih _ (List.mem_append_left _ hx)

/-- The ids of the snapshots are ids of calls. -/
theorem id_of_mem_created {x : String × LvInfo}
    (hx : x ∈ (calls.foldl (Backups.call sizes) b).created) :
    x ∈ b.created ∨ ∃ call ∈ calls, x.1 = call.id := by
  induction calls generalizing b with
  | nil => exact .inl hx
  | cons call calls ih =>
    obtain hx | ⟨other, hother, hid⟩ := ih hx
    · obtain hx | hx := List.mem_append.mp hx
      · exact .inl hx
      · obtain ⟨lv, -, rfl⟩ := List.mem_map.mp hx
        exact .inr ⟨call, List.mem_cons_self, rfl⟩
    · exact .inr ⟨other, List.mem_cons_of_mem _ hother, hid⟩

/-- A call that succeeds has made a snapshot. -/
theorem created_ne_nil {env : CreateEnv} {id size : String}
    (h : (createSnapshot sizes env id size s).result.isOk = true) :
    (createSnapshot sizes env id size s).created ≠ [] := by
  by_cases hfound : ∃ vg lvs, getVgName env = .ok vg ∧ listLvs env.listing s = .ok lvs
  · obtain ⟨vg, lvs, hvg, hlvs⟩ := hfound
    obtain ⟨-, hcreated, hresult⟩ := createSnapshot_of_ok sizes id size hvg hlvs
    rw [hcreated]
    exact (hresult.mp h).1
  · have hnot (vg : String) (lvs : List LvInfo) (hvg : getVgName env = .ok vg) :
        listLvs env.listing s ≠ .ok lvs := fun hlvs => hfound ⟨vg, lvs, hvg, hlvs⟩
    obtain ⟨-, -, herror⟩ := createSnapshot_of_error sizes id size hnot
    rw [herror] at h
    cases h

/-- A call that succeeds has made a snapshot with its id. -/
theorem exists_created {i : ℕ} {call : CreateCall} (hcall : calls[i]? = some call)
    (h : (resultAt sizes b calls i call).isOk = true) :
    ∃ lv, (call.id, lv) ∈ (calls.foldl (Backups.call sizes) b).created := by
  obtain ⟨lv, hlv⟩ := List.exists_mem_of_ne_nil _ (created_ne_nil h)
  have hsplit : calls = calls.take i ++ call :: calls.drop (i + 1) := by
    obtain ⟨hi, rfl⟩ := List.getElem?_eq_some_iff.mp hcall
    rw [List.getElem_cons_drop, List.take_append_drop]
  refine ⟨lv, ?_⟩
  rw [hsplit, List.foldl_append, List.foldl_cons]
  refine created_subset_foldl _ _ (List.mem_append_right _ ?_)
  exact List.mem_map.mpr ⟨lv, hlv, rfl⟩

/-- The server has given the addresses, and its answer has ids. -/
structure Asked (c : Client) (key report : String) (ids : List String) : Prop where
  close : (c.url "closetask").isSome
  url : (c.url key).isSome
  report : (c.url report).isSome
  answer : ∃ response parsed, c.answer = .ok response ∧ c.parseResponse response = .ok parsed ∧
    parsed.str "code" = some "000000" ∧ idsOf parsed = ids

/-- A task that was asked for. -/
theorem taskGetSystemBackups_of_asked {ids : List String} (sizes : Sizes) (s : Lvm)
    (env : ℕ → CreateEnv) (taskType : UInt64) (h : Asked c "getBackups" "uploadBackup" ids) :
    ∃ done request, done.body = buildClosetaskJson taskType ∧ request.body = "" ∧
      taskGetSystemBackups sizes env c taskType s =
        ⟨[done, request] ++ (backupLoop sizes c (callsOf env ids) ⟨s, []⟩).1 ++ [done],
          backups sizes s (callsOf env ids), .ok ()⟩ := by
  obtain ⟨close, hclose⟩ := Option.isSome_iff_exists.mp h.close
  obtain ⟨url, hurl⟩ := Option.isSome_iff_exists.mp h.url
  obtain ⟨response, parsed, hanswer, hparsed, hcode, rfl⟩ := h.answer
  refine ⟨⟨close, buildClosetaskJson taskType⟩, ⟨url, ""⟩, rfl, rfl, ?_⟩
  have hfetched : c.answer.bind c.parseResponse = .ok parsed := by
    rw [hanswer]
    exact hparsed
  rw [taskGetSystemBackups, hclose, hurl]
  simp only [Option.elim_some, hfetched, Except.toOption, hcode, if_true, backupLoop_snd]
  rfl

/-- Every id that the server has sent is answered by one upload, in the order of the ids, which says
what came of its backup. An id that is said to have gone well has a snapshot, and the machine has
no new volumes but snapshots with these ids in their names. -/
theorem backups_reported {ids : List String} (sizes : Sizes) (s : Lvm) (env : ℕ → CreateEnv)
    (taskType : UInt64) (h : Asked c "getBackups" "uploadBackup" ids) :
    ∃ done request uploads,
      (taskGetSystemBackups sizes env c taskType s).posts = [done, request] ++ uploads ++ [done] ∧
      done.body = buildClosetaskJson taskType ∧ request.body = "" ∧
      uploads.length = ids.length ∧
      (∀ (i : ℕ) (id : String), ids[i]? = some id →
        ∃ post report, uploads[i]? = some post ∧ readBackup post.body = some report ∧
          report =
            backupReport id (resultAt sizes ⟨s, []⟩ (callsOf env ids) i ⟨id, "", env i⟩) ∧
          (report.state = 1 →
            ∃ lv, (id, lv) ∈ (taskGetSystemBackups sizes env c taskType s).backups.created)) ∧
      (taskGetSystemBackups sizes env c taskType s).backups.Sound s ∧
      ∀ x ∈ (taskGetSystemBackups sizes env c taskType s).backups.created, x.1 ∈ ids := by
  obtain ⟨done, request, hdone, hrequest, htask⟩ :=
    taskGetSystemBackups_of_asked sizes s env taskType h
  obtain ⟨upload, hupload⟩ := Option.isSome_iff_exists.mp h.report
  obtain ⟨hlength, hposts⟩ := backupLoop_fst sizes (callsOf env ids) ⟨s, []⟩ hupload
  rw [htask]
  refine ⟨done, request, _, rfl, hdone, hrequest, ?_, ?_, sound_backups sizes s _, ?_⟩
  · rw [hlength, callsOf, List.length_map, List.length_zipIdx]
  · intro i id hid
    have hcall := getElem?_callsOf env hid
    refine ⟨_, _, hposts i _ hcall, readBackup_backupBody _ _, rfl, fun hstate => ?_⟩
    exact exists_created hcall ((backupReport_state _ _).mp hstate)
  · intro x hx
    obtain hnone | ⟨call, hcall, hid⟩ := id_of_mem_created hx
    · cases hnone
    · obtain ⟨y, hy, rfl⟩ := List.mem_map.mp hcall
      rw [hid]
      exact List.fst_mem_of_mem_zipIdx hy

/-- A rollback that was asked for. -/
theorem taskSystemRollback_of_asked {ids : List String} (env : ℕ → Machine)
    (systemctl reboot : Except String Unit) (taskType : UInt64)
    (h : Asked c "getRollbacks" "uploadRollback" ids) :
    ∃ done request upload, done.body = buildClosetaskJson taskType ∧ request.body = "" ∧
      taskSystemRollback env systemctl reboot c taskType =
        ⟨[done, request] ++ (restoresOf env ids).map fun r => ⟨upload, rollbackBody r.1 r.2⟩,
          (restoresOf env ids).any fun r => r.2.isOk,
          if (restoresOf env ids).any fun r => r.2.isOk then rebootSystem systemctl reboot
          else .ok ()⟩ := by
  obtain ⟨close, hclose⟩ := Option.isSome_iff_exists.mp h.close
  obtain ⟨url, hurl⟩ := Option.isSome_iff_exists.mp h.url
  obtain ⟨upload, hupload⟩ := Option.isSome_iff_exists.mp h.report
  obtain ⟨response, parsed, hanswer, hparsed, hcode, rfl⟩ := h.answer
  refine ⟨⟨close, buildClosetaskJson taskType⟩, ⟨url, ""⟩, upload, rfl, rfl, ?_⟩
  have hfetched : (c.answer.mapError ("Error fetching task: " ++ ·)).bind c.parseResponse =
      .ok parsed := by
    rw [hanswer]
    exact hparsed
  rw [taskSystemRollback, hclose, hurl]
  simp only [Option.elim_some, hfetched, Except.toOption, hcode, if_true, Client.uploadRollback,
    hupload, Option.toList_some, List.map_singleton, ← List.map_eq_flatMap]

/-- Every id of a rollback is answered by one upload, in the order of the ids, which says what came
of it, and the machine is restarted just if one of them says that it went well. -/
theorem rollback_reported {ids : List String} (env : ℕ → Machine)
    (systemctl reboot : Except String Unit) (taskType : UInt64)
    (h : Asked c "getRollbacks" "uploadRollback" ids) :
    ∃ done request uploads,
      (taskSystemRollback env systemctl reboot c taskType).posts = [done, request] ++ uploads ∧
      done.body = buildClosetaskJson taskType ∧ request.body = "" ∧
      uploads.length = ids.length ∧
      (∀ (i : ℕ) (id : String), ids[i]? = some id → ∃ post, uploads[i]? = some post ∧
        readRollback post.body = some (rollbackReport id ((env i).restore id))) ∧
      ((taskSystemRollback env systemctl reboot c taskType).reboot = true ↔
        ∃ post ∈ uploads, ∃ report, readRollback post.body = some report ∧ report.state = 1) := by
  obtain ⟨done, request, upload, hdone, hrequest, htask⟩ :=
    taskSystemRollback_of_asked env systemctl reboot taskType h
  rw [htask]
  refine ⟨done, request, _, rfl, hdone, hrequest, ?_, fun i id hid => ?_, ?_⟩
  · rw [List.length_map, restoresOf, List.length_map, List.length_zipIdx]
  · refine ⟨⟨upload, rollbackBody id ((env i).restore id)⟩, ?_, readRollback_rollbackBody _ _⟩
    simp [restoresOf, hid]
  · dsimp only
    rw [List.any_eq_true]
    constructor
    · rintro ⟨r, hr, hok⟩
      exact ⟨_, List.mem_map_of_mem hr, _, readRollback_rollbackBody _ _,
        (rollbackReport_state _ _).mpr hok⟩
    · rintro ⟨post, hpost, report, hread, hstate⟩
      obtain ⟨r, hr, rfl⟩ := List.mem_map.mp hpost
      rw [readRollback_rollbackBody] at hread
      obtain rfl := Option.some.inj hread
      exact ⟨r, hr, (rollbackReport_state _ _).mp hstate⟩

/-- The machine on which some backups were made, when each rollback finds its volumes in some order
and `lvconvert` goes through for some of them. -/
def machineAfter (b : Backups) (order : ℕ → List LvInfo → List LvInfo)
    (perm : ∀ i lvs, (order i lvs).Perm lvs) (succeeds : ℕ → LvInfo → Bool) (i : ℕ) : Machine :=
  ⟨b.lvm, listsIn (order i) (perm i), fun lv => .ok (succeeds i lv)⟩

/-- A rollback goes well just if a snapshot with its id is merged, if the id is told apart. -/
theorem isOk_restore_iff {order : ℕ → List LvInfo → List LvInfo}
    {perm : ∀ i lvs, (order i lvs).Perm lvs} {succeeds : ℕ → LvInfo → Bool} (hb : b.Sound s)
    {id : String} (hid : Distinguished s b id) (i : ℕ) :
    ((machineAfter b order perm succeeds i).restore id).isOk = true ↔
      ∃ lv, (id, lv) ∈ b.created ∧ succeeds i lv = true := by
  refine isOk_runMatching.trans ⟨?_, ?_⟩
  · rintro ⟨lv, hlv, hselects, hsucceeds⟩
    rw [Bool.and_eq_true, List.isSuffixOf_iff_suffix] at hselects
    have hcontains := Text.contains_of_infix hselects.1.isInfix
    have hmem := hb.distinguished_iff.mp hid lv hlv hcontains hselects.2
    exact ⟨lv, mem_createdBy.mp hmem, hsucceeds⟩
  · rintro ⟨lv, hcreated, hsucceeds⟩
    obtain ⟨hlv, hsuffix, hsnap⟩ := hb.of_mem_createdBy (mem_createdBy.mpr hcreated)
    refine ⟨lv, hlv, ?_, hsucceeds⟩
    rw [Bool.and_eq_true, List.isSuffixOf_iff_suffix]
    exact ⟨hsuffix, hsnap⟩

/-- On the machine on which backups were made every id of a rollback is answered by one upload, in
the order of the ids. It says that the rollback went well just if a snapshot was merged that was
made under this id, provided that the ids are told apart, and the machine is restarted just if one
of the uploads says so. -/
theorem rollback_after_backups {client : Client} {made ids : List String} (sizes : Sizes) (s : Lvm)
    (env : ℕ → CreateEnv) (backupType rollbackType : UInt64) (systemctl reboot : Except String Unit)
    (order : ℕ → List LvInfo → List LvInfo) (perm : ∀ i lvs, (order i lvs).Perm lvs)
    (succeeds : ℕ → LvInfo → Bool) (hmade : Asked client "getBackups" "uploadBackup" made)
    (h : Asked c "getRollbacks" "uploadRollback" ids)
    (hids : ∀ id ∈ ids,
      Distinguished s (taskGetSystemBackups sizes env client backupType s).backups id) :
    ∃ done request uploads,
      (taskSystemRollback
        (machineAfter (taskGetSystemBackups sizes env client backupType s).backups order perm
          succeeds) systemctl reboot c rollbackType).posts = [done, request] ++ uploads ∧
      uploads.length = ids.length ∧
      (∀ (i : ℕ) (id : String), ids[i]? = some id → ∃ post report, uploads[i]? = some post ∧
        readRollback post.body = some report ∧ report.id = id ∧
        (report.state = 1 ↔
          ∃ lv, (id, lv) ∈ (taskGetSystemBackups sizes env client backupType s).backups.created ∧
            succeeds i lv = true)) ∧
      ((taskSystemRollback
          (machineAfter (taskGetSystemBackups sizes env client backupType s).backups order perm
            succeeds) systemctl reboot c rollbackType).reboot = true ↔
        ∃ post ∈ uploads, ∃ report, readRollback post.body = some report ∧ report.state = 1) := by
  have hb : (taskGetSystemBackups sizes env client backupType s).backups.Sound s := by
    obtain ⟨done, request, -, -, htask⟩ :=
      taskGetSystemBackups_of_asked sizes s env backupType hmade
    rw [htask]
    exact sound_backups sizes s _
  generalize (taskGetSystemBackups sizes env client backupType s).backups = b at hb hids ⊢
  obtain ⟨done, request, uploads, hposts, -, -, hlength, hreports, hreboot⟩ :=
    rollback_reported (machineAfter b order perm succeeds) systemctl reboot rollbackType h
  refine ⟨done, request, uploads, hposts, hlength, fun i id hid => ?_, hreboot⟩
  obtain ⟨post, hpost, hread⟩ := hreports i id hid
  refine ⟨post, _, hpost, hread, rollbackReport_id _ _, ?_⟩
  rw [rollbackReport_state, isOk_restore_iff hb (hids id (List.mem_of_getElem? hid))]

/-- An answer with some ids. -/
def listed (ids : List String) : Json.Value :=
  .object [("code", .string "000000"),
    ("data", .array (ids.map fun id => .object [("id", .string id)]))]

/-- A server that asks for some ids, and a client that reads plain numbers. -/
def server (ids : List String) : Client where
  baseUrl := "https://server"
  apiInterface := some
  fromStr := Json.read
  answer := .ok (print (listed ids))

/-- The client is asked for these ids. -/
theorem asked_server (ids : List String) (key report : String) :
    Asked (server ids) key report ids := by
  refine ⟨rfl, rfl, rfl, _, listed ids, rfl, ?_, rfl, ?_⟩
  · rw [Client.parseResponse]
    change (Json.read (print (listed ids))).elim _ _ = _
    rw [read_print, Option.elim_some]
  · simp [idsOf, listed, Json.Value.field, Json.Value.asArray, List.filterMap_map,
      Function.comp_def]

/-- Backups under two ids. -/
theorem backups_reported_two : ∃ done request uploads,
    (taskGetSystemBackups wholeSizes (fun _ => allSucceeds) (server ["1", "2"]) 7
      oneVolume).posts = [done, request] ++ uploads ++ [done] ∧ uploads.length = 2 := by
  obtain ⟨done, request, uploads, hposts, -, -, hlength, -⟩ := backups_reported wholeSizes
    oneVolume (fun _ => allSucceeds) 7 (asked_server ["1", "2"] "getBackups" "uploadBackup")
  exact ⟨done, request, uploads, hposts, hlength⟩

/-- Two backups, and a rollback under both ids, which are told apart. -/
theorem rollback_after_backups_two : ∃ done request uploads,
    (taskSystemRollback
      (machineAfter (taskGetSystemBackups wholeSizes (fun _ => allSucceeds) (server ["1", "2"]) 7
        oneVolume).backups (fun _ lvs => lvs) (fun _ lvs => .refl lvs) fun i _ => i = 1)
      (.ok ()) (.ok ()) (server ["2", "1"]) 8).posts = [done, request] ++ uploads ∧
      uploads.length = 2 := by
  have hasked := asked_server ["1", "2"] "getBackups" "uploadBackup"
  have htold (id : String) (hid : id ∈ ["2", "1"]) : Distinguished oneVolume
      (taskGetSystemBackups wholeSizes (fun _ => allSucceeds) (server ["1", "2"]) 7
        oneVolume).backups id := by
    have hmade : ∀ id ∈ ["2", "1"], Distinguished oneVolume
        (backups wholeSizes oneVolume (callsOf (fun _ => allSucceeds) ["1", "2"])) id := by
      rw [List.forall_mem_cons, List.forall_mem_singleton]
      exact ⟨⟨by decide, by decide⟩, ⟨by decide, by decide⟩⟩
    obtain ⟨done, request, -, -, htask⟩ :=
      taskGetSystemBackups_of_asked wholeSizes oneVolume (fun _ => allSucceeds) 7 hasked
    rw [htask]
    exact hmade id hid
  obtain ⟨done, request, uploads, hposts, hlength, -, -⟩ := rollback_after_backups wholeSizes
    oneVolume (fun _ => allSucceeds) 7 8 (.ok ()) (.ok ()) (fun _ lvs => lvs)
    (fun _ lvs => .refl lvs) (fun i _ => i = 1) hasked
    (asked_server ["2", "1"] "getRollbacks" "uploadRollback") htold
  exact ⟨done, request, uploads, hposts, hlength⟩

end LinuxAgent.Task.Backups
