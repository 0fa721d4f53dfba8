import LinuxAgent.Lib.Utf8
import LinuxAgent.Reporter.Bodies

/-!
# The upload of directories

The server asks for the files of some directories, and `task_upload_dir` uploads what it finds in
them, one directory after the other and a thousand files at most. The server reads the first
thousand files of all directories that it has asked for, in the order of its request.

Of the permissions of a file it reads nothing: the loop that should write them runs over an empty
range.
-/

namespace LinuxAgent.Task.UploadDir

open LinuxAgent.Reporter Json

/-- `DirectionScanRule`. -/
structure DirectionScanRule where
  dir : String
  pid : UInt32
  typ : UInt32
  deriving DecidableEq

/-- A number that fits into `u32`. -/
def asU32 (v : Json.Value) : Option UInt32 :=
  v.asInt.bind fun n => if 0 ≤ n ∧ n < UInt32.size then some (.ofNat n.toNat) else none

/-- A rule as it is deserialized, from an object or from the list of its fields. -/
def DirectionScanRule.ofJson (v : Json.Value) : Option DirectionScanRule :=
  match v with
  | .array items =>
    if items.length = 3 then do
      some ⟨← items[0]?.bind Json.Value.asStr, ← items[1]?.bind asU32, ← items[2]?.bind asU32⟩
    else none
  | v => do
    some ⟨← v.str "dir", ← (v.field "pid").bind asU32, ← (v.field "type").bind asU32⟩

/-- The rules of an answer. What is not a rule is left out. -/
def rulesOf (answer : Json.Value) : List DirectionScanRule :=
  (((answer.field "data").bind Json.Value.asArray).map fun items =>
    items.filterMap DirectionScanRule.ofJson).getD []

/-- What is uploaded of a file. -/
structure FileInfoUpload where
  dir : String
  rw : String
  group : String
  user : String
  size : String
  starttime : String
  updatetime : String
  level : String
  dirtype : String
  hash : String
  fileType : UInt8
  pid : UInt32
  deriving DecidableEq

/-- What the system says of a file. -/
structure Metadata where
  mode : UInt32
  uid : UInt32
  gid : UInt32
  len : ℕ
  ctime : ℤ
  mtime : ℤ

/-- A name in a directory. -/
structure DirEntry where
  name : List UInt8
  metadata : Option Metadata

/-- What `read_dir` and reading its entries give. -/
structure Directory where
  isDir : Bool
  /-- The entries, or what comes of them as far as the reading is successful. -/
  entries : Except String (List (Option DirEntry))

/-- The system that is scanned. -/
structure Disk where
  directory : String → Directory
  /-- `getpwuid`. -/
  userName : UInt32 → Option String
  /-- `getgrgid`. -/
  groupName : UInt32 → Option String
  /-- `to_lowercase`. -/
  toLowercase : String → String

/-- The numbers of `(first..=last).step_by(step)`. -/
def inclusiveSteps (first last step : ℕ) : List ℕ :=
  (List.range' first (last + 1 - first)).filter fun i => (i - first) % step = 0

/-- `mode_to_string`. -/
def modeToString (mode : UInt32) : String :=
  (inclusiveSteps 6 0 3).foldl
    (fun s i =>
      let bits := (mode >>> .ofNat i) &&& 0b111
      s ++ (if bits &&& 0b100 ≠ 0 then "r" else "-") ++ (if bits &&& 0b010 ≠ 0 then "w" else "-") ++
        (if bits &&& 0b001 ≠ 0 then "x" else "-"))
    (if mode &&& 0o040000 ≠ 0 then "d" else "-")

/-- The path of a name in a directory. -/
def join (dir : String) (name : List UInt8) : List UInt8 :=
  let bytes := Utf8.encode dir.toList
  if bytes.getLast? = some 47 then bytes ++ name else bytes ++ 47 :: name

/-- `extension`: what stands after the last dot, unless the name begins with it. -/
def extension (name : List UInt8) : Option (List UInt8) :=
  let after := (name.reverse.takeWhile (· ≠ 46)).reverse
  if after.length + 1 < name.length then some after else none

/-- The record of a file. -/
def fileRecord (disk : Disk) (dir : String) (pid : UInt32) (name : List UInt8) (m : Metadata) :
    FileInfoUpload where
  dir := String.ofList (Utf8.lossy (join dir name))
  rw := modeToString m.mode
  user := (disk.userName m.uid).getD (toString m.uid.toNat)
  group := (disk.groupName m.gid).getD (toString m.gid.toNat)
  size := toString m.len
  starttime := toString m.ctime
  updatetime := toString m.mtime
  level := "RW"
  dirtype := disk.toLowercase
    ((((extension name).bind Utf8.decode).map String.ofList).getD "unknown")
  hash := ""
  fileType := if m.mode &&& 0o170000 = 0o040000 then 1 else 2
  pid := pid

/-- The record of an entry, if its metadata can be read. -/
def entryRecord (disk : Disk) (dir : String) (pid : UInt32) (entry : DirEntry) :
    Option FileInfoUpload :=
  if entry.name = [46] ∨ entry.name = [46, 46] then none
  else entry.metadata.map (fileRecord disk dir pid entry.name)

/-- The entries up to the first one that cannot be read. -/
def readEntries (entries : List (Option DirEntry)) : List DirEntry :=
  (entries.takeWhile Option.isSome).filterMap id

/-- `scan_single_dir`. Reading the entries ends with the first one that cannot be read. -/
def scanSingleDir (disk : Disk) (dir : String) (pid : UInt32) :
    Except String (List FileInfoUpload) :=
  if (disk.directory dir).isDir = false then .ok []
  else
    match (disk.directory dir).entries with
    | .error e => .error s!"打开目录失败 {dir}: {e}"
    | .ok entries => .ok ((readEntries entries).filterMap (entryRecord disk dir pid))

/-- `MAX_FILES`. -/
def maxFiles : ℕ := 1000

/-- The loop of `task_upload_dir`: the files and the directories that were scanned. -/
def scanAll (disk : Disk) :
    List DirectionScanRule → List FileInfoUpload × List String → List FileInfoUpload × List String
  | [], r => r
  | rule :: rules, (allFiles, scanned) =>
    if maxFiles ≤ allFiles.length then (allFiles, scanned)
    else
      match scanSingleDir disk rule.dir rule.pid with
      | .error _ => scanAll disk rules (allFiles, scanned ++ [rule.dir])
      | .ok files =>
        let remaining := maxFiles - allFiles.length
        let files := if remaining < files.length then files.take remaining else files
        scanAll disk rules (allFiles ++ files, scanned ++ [rule.dir])

/-- How the files are written and read. -/
def fileCoding : Coding FileInfoUpload where
  json e := .object <|
    [("dir", .string e.dir), ("rw", .string e.rw), ("group", .string e.group),
      ("user", .string e.user), ("size", .string e.size), ("starttime", .string e.starttime),
      ("updatetime", .string e.updatetime), ("level", .string e.level),
      ("dirtype", .string e.dirtype)] ++
    optional "hash" (if e.hash = "" then none else some e.hash) ++
    [("type", .number e.fileType.toNat), ("pid", .number e.pid.toNat)]
  ofJson v := do
    let dir ← v.str "dir"
    let rw ← v.str "rw"
    let group ← v.str "group"
    let user ← v.str "user"
    let size ← v.str "size"
    let starttime ← v.str "starttime"
    let updatetime ← v.str "updatetime"
    let level ← v.str "level"
    let dirtype ← v.str "dirtype"
    let fileType ← v.int "type"
    let pid ← v.int "pid"
    some
      { dir := dir
        rw := rw
        group := group
        user := user
        size := size
        starttime := starttime
        updatetime := updatetime
        level := level
        dirtype := dirtype
        hash := (v.str "hash").getD ""
        fileType := .ofNat fileType.toNat
        pid := .ofNat pid.toNat }
  ofJson_json e := by
    by_cases h : e.hash = ""
    · simp [h]
      rw [← h]
    · simp [h]

/-- What happens to the requests of the task. -/
structure TaskEnv where
  /-- `report_task_completion`. -/
  report : Except String Unit
  /-- The addresses of the server have the keys `getdirinfo` and `putdir`. -/
  getdirinfo : Bool
  putdir : Bool
  answer : Except String String
  /-- `serde_json::from_str`. -/
  fromStr : String → Option Json.Value
  upload : String → Except String Unit

/-- `task_upload_dir` up to the upload of the body. A code in the answer that tells of a failure is
not looked at. -/
def uploadBody (env : TaskEnv) (disk : Disk) : Except String String := do
  env.report
  if env.getdirinfo = false then .error "未找到 getdirinfo 策略的 URL"
  else
    let response ← env.answer
    match env.fromStr response with
    | none => .error "解析 getdirinfo 响应失败"
    | some answer =>
      let allFiles := (scanAll disk (rulesOf answer) ([], [])).1
      if env.putdir = false then .error "URL key 'putdir' not found"
      else .ok (body "dir" (allFiles.map fileCoding.json))

/-- `task_upload_dir`. -/
def taskUploadDir (env : TaskEnv) (disk : Disk) : Except String Unit := do
  let text ← uploadBody env disk
  (env.upload text).mapError fun e => s!"上传目录信息失败: {e}"

/-- The files of a rule. A directory that cannot be read has none. -/
def filesOf (disk : Disk) (rule : DirectionScanRule) : List FileInfoUpload :=
  (scanSingleDir disk rule.dir rule.pid).toOption.getD []

/-- Files beyond the limit may be left out before more are added. -/
theorem take_append_take {α : Type} {n : ℕ} {taken : List α} (h : taken.length ≤ n)
    (files rest : List α) :
    (taken ++ files.take (n - taken.length) ++ rest).take n = (taken ++ files ++ rest).take n := by
  by_cases hle : files.length ≤ n - taken.length
  · rw [List.take_of_length_le hle]
  · have hlength : (taken ++ files.take (n - taken.length)).length = n := by
      rw [List.length_append, List.length_take]
      omega
    rw [List.take_left' hlength, List.append_assoc, List.take_append, List.take_of_length_le h,
      List.take_append_of_le_length (Nat.le_of_not_le hle)]

/-- The loop takes the files in their order up to the thousandth, and it scans directories until it
has as many. -/
theorem scanAll_spec (disk : Disk) (rules : List DirectionScanRule) (allFiles : List FileInfoUpload)
    (scanned : List String) (hmax : allFiles.length ≤ maxFiles) :
    (scanAll disk rules (allFiles, scanned)).1 =
        (allFiles ++ rules.flatMap (filesOf disk)).take maxFiles ∧
      ∃ left, (scanAll disk rules (allFiles, scanned)).2 ++ left =
          scanned ++ rules.map DirectionScanRule.dir ∧
        (left ≠ [] → (scanAll disk rules (allFiles, scanned)).1.length = maxFiles) := by
  induction rules generalizing allFiles scanned with
  | nil =>
    refine ⟨?_, [], by simp [scanAll], absurd rfl⟩
    rw [List.flatMap_nil, List.append_nil, List.take_of_length_le hmax, scanAll]
  | cons rule rules ih =>
    rw [scanAll]
    by_cases hfull : maxFiles ≤ allFiles.length
    · have hlength : allFiles.length = maxFiles := Nat.le_antisymm hmax hfull
      rw [if_pos hfull]
      refine ⟨?_, (rule :: rules).map DirectionScanRule.dir, rfl, fun _ => hlength⟩
      rw [List.take_append_of_le_length hfull, List.take_of_length_le hmax]
    · rw [if_neg hfull]
      cases hscan : scanSingleDir disk rule.dir rule.pid with
      | error e =>
        have hnone : filesOf disk rule = [] := by
          rw [filesOf, hscan]
          rfl
        obtain ⟨hfiles, left, hleft, hlength⟩ := ih allFiles (scanned ++ [rule.dir]) hmax
        refine ⟨?_, left, ?_, hlength⟩
        · simpa [hnone] using hfiles
        · simpa using hleft
      | ok files =>
        have hsome : filesOf disk rule = files := by
          rw [filesOf, hscan]
          rfl
        have htaken : (if maxFiles - allFiles.length < files.length then
            files.take (maxFiles - allFiles.length) else files) =
              files.take (maxFiles - allFiles.length) := by
          split
          · rfl
          · next hle => rw [List.take_of_length_le (Nat.le_of_not_lt hle)]
        have hroom : (allFiles ++ files.take (maxFiles - allFiles.length)).length ≤ maxFiles := by
          rw [List.length_append, List.length_take]
          omega
        obtain ⟨hfiles, left, hleft, hlength⟩ := ih _ (scanned ++ [rule.dir]) hroom
        dsimp only
        rw [htaken]
        refine ⟨?_, left, ?_, hlength⟩
        · rw [hfiles, List.flatMap_cons, hsome, ← List.append_assoc]
          exact take_append_take hmax files _
        · simpa using hleft

/-- When the task gets as far as the upload. -/
theorem uploadBody_eq_ok {env : TaskEnv} {disk : Disk} {text : String} :
    uploadBody env disk = .ok text ↔
      env.report = .ok () ∧ env.getdirinfo = true ∧ env.putdir = true ∧
        ∃ response answer, env.answer = .ok response ∧ env.fromStr response = some answer ∧
          text = body "dir"
            ((scanAll disk (rulesOf answer) ([], [])).1.map fileCoding.json) := by
  rw [uploadBody]
  cases hreport : env.report with
  | error e => simp [Except.bind, bind]
  | ok =>
    cases hget : env.getdirinfo with
    | false => simp [Except.bind, bind]
    | true =>
      cases hanswer : env.answer with
      | error e => simp [Except.bind, bind]
      | ok response =>
        cases hread : env.fromStr response with
        | none => simp [Except.bind, bind, hread]
        | some answer =>
          cases hput : env.putdir with
          | false => simp [Except.bind, bind, hread]
          | true => simp [Except.bind, bind, hread, eq_comm]

/-- The loop over the permissions is over an empty range. -/
theorem modeToString_eq (mode : UInt32) :
    modeToString mode = if mode &&& 0o040000 ≠ 0 then "d" else "-" := rfl

/-- The kind of a file, as a part of its mode. -/
def fileKind (mode : UInt32) : UInt32 := mode &&& 0o170000

/-- An entry after the mode of its file has been changed. -/
def DirEntry.chmod (f : UInt32 → UInt32) (entry : DirEntry) : DirEntry :=
  { entry with metadata := entry.metadata.map fun m => { m with mode := f m.mode } }

/-- The system after the modes of its files have been changed. -/
def Disk.chmod (disk : Disk) (f : UInt32 → UInt32) : Disk :=
  { disk with
    directory := fun dir =>
      { isDir := (disk.directory dir).isDir
        entries := (disk.directory dir).entries.map fun entries =>
          entries.map (Option.map (DirEntry.chmod f)) } }

/-- Changing the entries changes those that are read. -/
theorem readEntries_map (g : DirEntry → DirEntry) (entries : List (Option DirEntry)) :
    readEntries (entries.map (Option.map g)) = (readEntries entries).map g := by
  have hsome : Option.isSome ∘ Option.map g = Option.isSome := by
    funext entry
    exact Option.isSome_map
  rw [readEntries, readEntries, List.takeWhile_map, hsome, List.filterMap_map, List.map_filterMap]
  rfl

section Chmod

variable (disk : Disk) {f : UInt32 → UInt32}

/-- The record of an entry does not depend on the permissions. -/
theorem entryRecord_chmod (hf : ∀ mode, fileKind (f mode) = fileKind mode) (dir : String)
    (pid : UInt32) (entry : DirEntry) :
    entryRecord (disk.chmod f) dir pid (entry.chmod f) = entryRecord disk dir pid entry := by
  have hdir (mode : UInt32) : f mode &&& 0o040000 = mode &&& 0o040000 := by
    have hsub (mode : UInt32) : mode &&& 0o040000 = fileKind mode &&& 0o040000 := by
      rw [fileKind, UInt32.and_assoc]
      rfl
    rw [hsub, hf, ← hsub]
  have hrecord (m : Metadata) :
      fileRecord (disk.chmod f) dir pid entry.name { m with mode := f m.mode } =
        fileRecord disk dir pid entry.name m := by
    have hkind : f m.mode &&& 0o170000 = m.mode &&& 0o170000 := hf m.mode
    simp only [fileRecord, modeToString_eq, hkind, hdir]
    rfl
  unfold entryRecord DirEntry.chmod
  dsimp only
  split
  · rfl
  · rw [Option.map_map]
    exact congrArg (entry.metadata.map ·) (funext hrecord)

/-- The records of a directory do not depend on the permissions. -/
theorem scanSingleDir_chmod (hf : ∀ mode, fileKind (f mode) = fileKind mode) (dir : String)
    (pid : UInt32) :
    scanSingleDir (disk.chmod f) dir pid = scanSingleDir disk dir pid := by
  have hentries : ((disk.chmod f).directory dir).entries =
      (disk.directory dir).entries.map fun entries =>
        entries.map (Option.map (DirEntry.chmod f)) := rfl
  have hisDir : ((disk.chmod f).directory dir).isDir = (disk.directory dir).isDir := rfl
  rw [scanSingleDir, scanSingleDir, hentries, hisDir]
  split
  · rfl
  · cases (disk.directory dir).entries with
    | error e => rfl
    | ok entries =>
      have hrecords : (readEntries (entries.map (Option.map (DirEntry.chmod f)))).filterMap
            (entryRecord (disk.chmod f) dir pid) =
          (readEntries entries).filterMap (entryRecord disk dir pid) := by
        rw [readEntries_map, List.filterMap_map]
        exact congrArg (List.filterMap · _) (funext (entryRecord_chmod disk hf dir pid))
      exact congrArg Except.ok hrecords

/-- The records of all directories do not depend on the permissions. -/
theorem scanAll_chmod (hf : ∀ mode, fileKind (f mode) = fileKind mode)
    (rules : List DirectionScanRule) (r : List FileInfoUpload × List String) :
    scanAll (disk.chmod f) rules r = scanAll disk rules r := by
  induction rules generalizing r with
  | nil => rfl
  | cons rule rules ih => simp only [scanAll, scanSingleDir_chmod disk hf, ih]

/-- Whatever the permissions of the files are, the server reads the same. -/
theorem permissions_not_uploaded (hf : ∀ mode, fileKind (f mode) = fileKind mode) (env : TaskEnv) :
    uploadBody env (disk.chmod f) = uploadBody env disk := by
  simp only [uploadBody, scanAll_chmod disk hf]

end Chmod

/-- A system with one file, which everyone may read. -/
def oneFile : Disk where
  directory dir :=
    { isDir := dir = "/etc"
      entries := .ok [some ⟨Utf8.encode "hosts.allow".toList, some ⟨0o100444, 0, 0, 9, 5, 7⟩⟩] }
  userName _ := none
  groupName _ := none
  toLowercase s := s

/-- The server asks for that file. -/
def askEtc : TaskEnv where
  report := .ok ()
  getdirinfo := true
  putdir := true
  answer := .ok <| print <| .object
    [("data", .array [.object
      [("dir", .string "/etc"), ("pid", .number 1), ("type", .number 2)]])]
  fromStr := Json.read
  upload _ := .ok ()

/-- What is uploaded of a file in `/etc` without any permissions. -/
theorem permissions_not_uploaded_etc :
    (filesOf (oneFile.chmod fileKind) ⟨"/etc", 1, 2⟩).map (fun e => (e.dir, e.rw, e.dirtype)) =
        [("/etc/hosts.allow", "-", "allow")] ∧
      uploadBody askEtc (oneFile.chmod fileKind) = uploadBody askEtc oneFile := by
  have hf (mode : UInt32) : fileKind (fileKind mode) = fileKind mode := by
    rw [fileKind, fileKind, UInt32.and_assoc]
    rfl
  exact ⟨by decide, permissions_not_uploaded oneFile hf askEtc⟩

end LinuxAgent.Task.UploadDir
