import LinuxAgent.Task.SshLogin
import Mathlib.Data.List.Perm.Basic

/-!
# Delivering SSH logins

What was read is never read again, so that the logs of a failed upload are lost; a record
of which only a part was there is skipped; and a second login of the same user from the
same address within a second is taken for the first if it is read later. In runs in which
none of this happens every login is reported, however they are spread over the calls.
-/

namespace LinuxAgent.Task.SshLogin

/-- The logs of the complete records of a part of a file. -/
def sightings (isBtmp : Bool) (position : ℕ) (bytes : List UInt8) : List Sighting :=
  (Records.entries utmpSize (logOfRecord isBtmp) position bytes).map fun x => ⟨isBtmp, x.1, x.2⟩

/-- The logs that the next call will read from a file. -/
def UtmpFile.unread (isBtmp : Bool) (file : UtmpFile) : List Sighting :=
  sightings isBtmp file.offset (file.content.drop file.offset)

/-- The logs of the records that were appended to a file of the given length. -/
def UtmpFile.appended (isBtmp : Bool) (start : ℕ) (file : UtmpFile) : List Sighting :=
  sightings isBtmp start (file.content.drop start)

/-- The log of every complete record that was appended was uploaded or will be read again. -/
def SshLoginCollector.Delivered (btmp wtmp : List UInt8) (s : SshLoginCollector) : Prop :=
  (∀ x ∈ s.btmp.appended true btmp.length, x ∈ s.posted ∨ x ∈ s.btmp.unread true) ∧
    ∀ x ∈ s.wtmp.appended false wtmp.length, x ∈ s.posted ∨ x ∈ s.wtmp.unread false

/-- The logs that were reported. -/
def SshLoginCollector.reported (s : SshLoginCollector) : List SyslogSshLog :=
  s.posted.map Sighting.log

/-- The file cannot be looked at: it is not found, or an operation before the first
`read_exact` fails. -/
def FileEnv.Fails (env : FileEnv) (file : UtmpFile) : Prop :=
  env.found = false ∨ env.openError ≠ none ∨ env.metadataError ≠ none ∨
    (0 < file.offset ∧ env.seekError ≠ none)

/-- The file is read to its end. -/
structure FileEnv.Reads (env : FileEnv) : Prop where
  found : env.found = true
  openError : env.openError = none
  metadataError : env.metadataError = none
  seekError : env.seekError = none
  readError : env.readError = none
  positionKnown : env.positionKnown = true

instance (env : FileEnv) (file : UtmpFile) : Decidable (env.Fails file) :=
  inferInstanceAs (Decidable (_ ∨ _))

/-- What a call may find in a file: it cannot be looked at, or there are complete records
to its end and none of their logs is taken for one that was reported. -/
def FileEnv.Ok (env : FileEnv) (isBtmp : Bool) (file : UtmpFile) (lastRecords : List String) :
    Prop :=
  env.Fails file ∨ env.Reads ∧ utmpSize ∣ (file.content.drop file.offset).length ∧
    ∀ x ∈ file.unread isBtmp, x.log.key ∉ lastRecords

/-- The logs that a call reads from a file. -/
def FileEnv.logs (env : FileEnv) (isBtmp : Bool) (file : UtmpFile) : List Sighting :=
  if env.Fails file then [] else file.unread isBtmp

/-- A call in which no record is cut or taken for another one, and in which the upload, if
there is something to upload, succeeds. -/
def SshLoginCollector.Ok (s : SshLoginCollector) : Event → Prop
  | .append _ _ => True
  | .collect env =>
    env.btmp.Ok true s.btmp s.lastRecords ∧ env.wtmp.Ok false s.wtmp s.lastRecords ∧
      ∀ logs, logs = env.btmp.logs true s.btmp ++ env.wtmp.logs false s.wtmp → logs ≠ [] →
        ∃ json, env.toJson (logs.map Sighting.log) = .ok json ∧ env.post json = true

/-- A file of complete records from `start` on that was read up to the end of one of them. -/
structure UtmpFile.Aligned (start : ℕ) (file : UtmpFile) : Prop where
  start_le : start ≤ file.offset
  offset_le : file.offset ≤ file.content.length
  dvd : utmpSize ∣ file.offset - start

/-- The logs of the records that were read. -/
def UtmpFile.read (isBtmp : Bool) (start : ℕ) (file : UtmpFile) : List Sighting :=
  sightings isBtmp start ((file.content.take file.offset).drop start)

variable {isBtmp : Bool} {start position : ℕ} {file : UtmpFile} {bytes more : List UInt8}

/-- A record is not empty. -/
theorem utmpSize_pos : 0 < utmpSize := by decide

/-- There are no records in no bytes. -/
theorem sightings_nil (isBtmp : Bool) (position : ℕ) : sightings isBtmp position [] = [] := by
  rw [sightings, Records.entries_of_lt utmpSize_pos, List.map_nil]

/-- Complete records can be read on their own. -/
theorem sightings_append (h : utmpSize ∣ bytes.length) :
    sightings isBtmp position (bytes ++ more) =
      sightings isBtmp position bytes ++ sightings isBtmp (position + bytes.length) more := by
  simp only [sightings, Records.entries_append utmpSize_pos h, List.map_append]

/-- The loop finds the logs of all complete records, and ends at the end of the file. -/
theorem readLoop_none (isBtmp : Bool) (position : ℕ) (rest : List UInt8) :
    readLoop isBtmp none position rest =
      (sightings isBtmp position rest, position + rest.length) := by
  induction hlen : rest.length using Nat.strongRecOn generalizing position rest with
  | ind len ih =>
    rw [readLoop.eq_def]
    dsimp only
    by_cases hle : utmpSize ≤ rest.length
    · have hshort : (rest.drop utmpSize).length < len := by
        have := utmpSize_pos
        rw [List.length_drop]
        omega
      have hrest := ih _ hshort (position + utmpSize) (rest.drop utmpSize) rfl
      rw [dif_pos hle, Option.map_none, hrest, sightings, sightings,
        Records.entries_of_le utmpSize_pos hle, List.map_append, List.length_drop]
      refine Prod.ext ?_ ?_
      · cases logOfRecord isBtmp (rest.take utmpSize) <;> rfl
      · change position + utmpSize + (rest.length - utmpSize) = _
        omega
    · rw [dif_neg hle, sightings, Records.entries_of_lt (by omega), hlen]
      rfl

/-- A file that cannot be looked at. -/
theorem readUtmpFile_of_fails {env : FileEnv} (isBtmp : Bool) (h : env.Fails file)
    (hfile : file.offset ≤ file.content.length) :
    okOrNil (readUtmpFile env isBtmp file).1 = [] ∧
      (readUtmpFile env isBtmp file).2 = file.offset := by
  have hoffset : ¬ file.content.length < file.offset := by omega
  unfold readUtmpFile
  split
  · exact ⟨rfl, rfl⟩
  · next hfound =>
    split
    · exact ⟨rfl, rfl⟩
    · next hopen =>
      split
      · exact ⟨rfl, rfl⟩
      · next hmetadata =>
        dsimp only
        split
        · exact ⟨rfl, rfl⟩
        · next hseek =>
          rcases h with h | h | h | ⟨hpos, h⟩
          · exact absurd h (by simpa using hfound)
          · exact absurd hopen h
          · exact absurd hmetadata h
          · rw [if_pos hpos] at hseek
            exact absurd hseek h

/-- A file that is read to its end. -/
theorem readUtmpFile_of_reads {env : FileEnv} (isBtmp : Bool) (h : env.Reads)
    (hfile : file.offset ≤ file.content.length) :
    okOrNil (readUtmpFile env isBtmp file).1 = file.unread isBtmp ∧
      (readUtmpFile env isBtmp file).2 = file.content.length := by
  have hoffset : ¬ file.content.length < file.offset := by omega
  have hend : file.offset + (file.content.length - file.offset) = file.content.length := by omega
  obtain ⟨hfound, hopen, hmetadata, hseek, hread, hposition⟩ := h
  simp [readUtmpFile, hfound, hopen, hmetadata, hseek, hread, hposition, hoffset, readLoop_none,
    okOrNil, UtmpFile.unread, hend]

/-- A host that can be read does not fail. -/
theorem FileEnv.Reads.not_fails {env : FileEnv} (h : env.Reads) (file : UtmpFile) :
    ¬ env.Fails file := by
  obtain ⟨hfound, hopen, hmetadata, hseek, -, -⟩ := h
  simp [FileEnv.Fails, hfound, hopen, hmetadata, hseek]

/-- What was appended is what was read and what will be read. -/
theorem UtmpFile.Aligned.appended_eq (h : file.Aligned start) :
    file.appended isBtmp start = file.read isBtmp start ++ file.unread isBtmp := by
  obtain ⟨hstart, hoffset, hdvd⟩ := h
  have hlen : ((file.content.take file.offset).drop start).length = file.offset - start := by
    rw [List.length_drop, List.length_take_of_le hoffset]
  have hparts : file.content.drop start =
      (file.content.take file.offset).drop start ++ file.content.drop file.offset := by
    conv_lhs => rw [← List.take_append_drop file.offset file.content]
    rw [List.drop_append_of_le_length]
    rw [List.length_take_of_le hoffset]
    exact hstart
  rw [UtmpFile.appended, hparts, sightings_append (hlen ▸ hdvd), hlen,
    Nat.add_sub_cancel' hstart]
  rfl

/-- The part of a file that was read does not change when the file grows. -/
theorem UtmpFile.Aligned.append (h : file.Aligned start) (isBtmp : Bool) (bytes : List UInt8) :
    (file.append bytes).Aligned start ∧
      (file.append bytes).read isBtmp start = file.read isBtmp start := by
  refine ⟨⟨h.start_le, ?_, h.dvd⟩, ?_⟩
  · rw [UtmpFile.append, List.length_append]
    exact h.offset_le.trans (Nat.le_add_right _ _)
  · rw [UtmpFile.read, UtmpFile.append, List.take_append_of_le_length h.offset_le]
    rfl

/-- What a call that meets the condition reads from a file. -/
theorem UtmpFile.Aligned.read_eq {env : FileEnv} {lastRecords : List String}
    (h : file.Aligned start) (hok : env.Ok isBtmp file lastRecords) :
    okOrNil (readUtmpFile env isBtmp file).1 = env.logs isBtmp file ∧
      ({ file with offset := (readUtmpFile env isBtmp file).2 } : UtmpFile).Aligned start ∧
      ({ file with offset := (readUtmpFile env isBtmp file).2 } : UtmpFile).read isBtmp start =
        file.read isBtmp start ++ env.logs isBtmp file := by
  obtain ⟨hstart, hoffset, hdvd⟩ := h
  rcases hok with hfails | ⟨hreads, hcomplete, -⟩
  · obtain ⟨hlogs, hend⟩ := readUtmpFile_of_fails isBtmp hfails hoffset
    rw [hlogs, hend, FileEnv.logs, if_pos hfails, List.append_nil]
    exact ⟨rfl, ⟨hstart, hoffset, hdvd⟩, rfl⟩
  · obtain ⟨hlogs, hend⟩ := readUtmpFile_of_reads isBtmp hreads hoffset
    rw [hlogs, hend, FileEnv.logs, if_neg (hreads.not_fails file)]
    refine ⟨rfl, ⟨hstart.trans hoffset, le_refl _, ?_⟩, ?_⟩
    · rw [List.length_drop] at hcomplete
      have hsum : file.content.length - start =
          (file.offset - start) + (file.content.length - file.offset) := by omega
      rw [hsum]
      exact Nat.dvd_add hdvd hcomplete
    · rw [← UtmpFile.Aligned.appended_eq ⟨hstart, hoffset, hdvd⟩, UtmpFile.read, List.take_length]
      rfl

/-- No log that a call reads is taken for one that was reported. -/
theorem FileEnv.Ok.key_notMem {env : FileEnv} {lastRecords : List String}
    (hok : env.Ok isBtmp file lastRecords) {x : Sighting} (hx : x ∈ env.logs isBtmp file) :
    x.log.key ∉ lastRecords := by
  rw [FileEnv.logs] at hx
  rcases hok with hfails | ⟨hreads, -, hnew⟩
  · rw [if_pos hfails] at hx
    cases hx
  · rw [if_neg (hreads.not_fails file)] at hx
    exact hnew x hx

section Calls

variable {s : SshLoginCollector} {btmp wtmp : List UInt8} {env : CallEnv} {logs : List Sighting}

/-- An upload changes no file. -/
theorem report_files (s : SshLoginCollector) (env : CallEnv) (logs : List Sighting) :
    (s.report env logs).btmp = s.btmp ∧ (s.report env logs).wtmp = s.wtmp := by
  unfold SshLoginCollector.report
  split
  · exact ⟨rfl, rfl⟩
  · dsimp only
    split
    · exact ⟨rfl, rfl⟩
    · split
      · exact ⟨rfl, rfl⟩
      · split <;> exact ⟨rfl, rfl⟩

/-- The upload of new logs that succeeds. -/
theorem report_of_new (hne : logs ≠ []) (hnew : ∀ x ∈ logs, x.log.key ∉ s.lastRecords)
    {json : String} (hjson : env.toJson (logs.map Sighting.log) = .ok json)
    (hpost : env.post json = true) :
    s.report env logs =
      { s with
        lastRecords := updateLastRecords s.lastRecords (logs.map Sighting.log)
        posted := s.posted ++ logs } := by
  have hfilter : filterNewRecords s.lastRecords logs = logs :=
    List.filter_eq_self.mpr fun x hx => decide_eq_true (hnew x hx)
  have hbuild : buildSshLoginJson env.toJson (logs.map Sighting.log) = .ok json := by
    rw [buildSshLoginJson, if_neg (by simpa using hne), hjson]
  simp [SshLoginCollector.report, hne, hfilter, hbuild, hpost]

/-- New logs whose upload succeeds are all reported. -/
theorem report_posted (hnew : ∀ x ∈ logs, x.log.key ∉ s.lastRecords)
    (hpost : logs ≠ [] → ∃ json, env.toJson (logs.map Sighting.log) = .ok json ∧
      env.post json = true) : (s.report env logs).posted = s.posted ++ logs := by
  by_cases hnil : logs = []
  · rw [SshLoginCollector.report, if_pos hnil, hnil, List.append_nil]
  · obtain ⟨json, hjson, hpost⟩ := hpost hnil
    rw [report_of_new hnil hnew hjson hpost]

/-- Both files were read up to the end of a record, and the logs that were read are reported. -/
structure SshLoginCollector.Current (btmp wtmp : List UInt8) (s : SshLoginCollector) : Prop where
  btmpAligned : s.btmp.Aligned btmp.length
  wtmpAligned : s.wtmp.Aligned wtmp.length
  posted : s.posted.Perm (s.btmp.read true btmp.length ++ s.wtmp.read false wtmp.length)

/-- A new collector is at the end of its files. -/
theorem current_new (btmp wtmp : List UInt8) :
    (SshLoginCollector.new btmp wtmp).Current btmp wtmp := by
  have hread (isBtmp : Bool) (content : List UInt8) :
      (UtmpFile.mk content content.length).read isBtmp content.length = [] := by
    rw [UtmpFile.read, List.take_length, List.drop_length]
    rfl
  refine ⟨⟨le_refl _, le_refl _, ?_⟩, ⟨le_refl _, le_refl _, ?_⟩, ?_⟩
  · rw [SshLoginCollector.new, Nat.sub_self]
    exact Nat.dvd_zero _
  · rw [SshLoginCollector.new, Nat.sub_self]
    exact Nat.dvd_zero _
  · simp [SshLoginCollector.new, hread]

/-- The collector after it has read the files. -/
def SshLoginCollector.moved (s : SshLoginCollector) (env : CallEnv) : SshLoginCollector :=
  { s with
    btmp := { s.btmp with offset := (readUtmpFile env.btmp true s.btmp).2 }
    wtmp := { s.wtmp with offset := (readUtmpFile env.wtmp false s.wtmp).2 } }

/-- A call that meets the condition reports what it reads. -/
theorem SshLoginCollector.Current.collect (h : s.Current btmp wtmp) (hok : s.Ok (.collect env)) :
    (s.collectAndReport env).Current btmp wtmp := by
  obtain ⟨hbtmp, hwtmp, hposted⟩ := h
  obtain ⟨hbtmpOk, hwtmpOk, hupload⟩ := hok
  obtain ⟨hblogs, hbaligned, hbread⟩ := hbtmp.read_eq hbtmpOk
  obtain ⟨hwlogs, hwaligned, hwread⟩ := hwtmp.read_eq hwtmpOk
  have hcall : s.collectAndReport env =
      (s.moved env).report env (env.btmp.logs true s.btmp ++ env.wtmp.logs false s.wtmp) := by
    rw [← hblogs, ← hwlogs]
    rfl
  have hnew : ∀ x ∈ env.btmp.logs true s.btmp ++ env.wtmp.logs false s.wtmp,
      x.log.key ∉ (s.moved env).lastRecords := by
    intro x hx
    rcases List.mem_append.mp hx with hx | hx
    · exact hbtmpOk.key_notMem hx
    · exact hwtmpOk.key_notMem hx
  obtain ⟨hb, hw⟩ := report_files (s.moved env) env
    (env.btmp.logs true s.btmp ++ env.wtmp.logs false s.wtmp)
  rw [hcall]
  refine ⟨hb ▸ hbaligned, hw ▸ hwaligned, ?_⟩
  rw [hb, hw, report_posted hnew (hupload _ rfl)]
  change (s.posted ++ _).Perm (UtmpFile.read true _ _ ++ UtmpFile.read false _ _)
  rw [SshLoginCollector.moved, hbread, hwread]
  refine (hposted.append_right _).trans ?_
  simp only [List.append_assoc]
  refine List.Perm.append_left _ ?_
  simp only [← List.append_assoc]
  exact List.perm_append_comm.append_right _

/-- What happens keeps the reports complete. -/
theorem SshLoginCollector.Current.step (h : s.Current btmp wtmp) {e : Event} (hok : s.Ok e) :
    (s.step e).Current btmp wtmp := by
  cases e with
  | append isBtmp bytes =>
    cases isBtmp with
    | true =>
      obtain ⟨haligned, hread⟩ := h.btmpAligned.append true bytes
      exact ⟨haligned, h.wtmpAligned, by rw [SshLoginCollector.step, hread]; exact h.posted⟩
    | false =>
      obtain ⟨haligned, hread⟩ := h.wtmpAligned.append false bytes
      exact ⟨h.btmpAligned, haligned, by rw [SshLoginCollector.step, hread]; exact h.posted⟩
  | collect env => exact h.collect hok

/-- Where what was read is reported, the rest will be read. -/
theorem SshLoginCollector.Current.delivered (h : s.Current btmp wtmp) : s.Delivered btmp wtmp := by
  constructor
  · intro x hx
    rw [h.btmpAligned.appended_eq, List.mem_append] at hx
    exact hx.imp_left fun hx => h.posted.mem_iff.mpr (List.mem_append_left _ hx)
  · intro x hx
    rw [h.wtmpAligned.appended_eq, List.mem_append] at hx
    exact hx.imp_left fun hx => h.posted.mem_iff.mpr (List.mem_append_right _ hx)

/-- A call that meets the condition and reads both files. -/
structure SshLoginCollector.ReadsAll (s : SshLoginCollector) (env : CallEnv) : Prop where
  ok : s.Ok (.collect env)
  btmpReads : env.btmp.Reads
  wtmpReads : env.wtmp.Reads

/-- After a call that reads both files all that was appended is reported. -/
theorem SshLoginCollector.Current.posted_collect (h : s.Current btmp wtmp)
    (hall : s.ReadsAll env) :
    (s.collectAndReport env).posted.Perm
      (s.btmp.appended true btmp.length ++ s.wtmp.appended false wtmp.length) := by
  have hbtmp : (s.collectAndReport env).btmp = { s.btmp with offset := s.btmp.content.length } := by
    rw [← (readUtmpFile_of_reads true hall.btmpReads h.btmpAligned.offset_le).2]
    exact (report_files (s.moved env) env _).1
  have hwtmp : (s.collectAndReport env).wtmp = { s.wtmp with offset := s.wtmp.content.length } := by
    rw [← (readUtmpFile_of_reads false hall.wtmpReads h.wtmpAligned.offset_le).2]
    exact (report_files (s.moved env) env _).2
  have hperm := (h.collect hall.ok).posted
  rw [hbtmp, hwtmp, UtmpFile.read, UtmpFile.read, List.take_length, List.take_length] at hperm
  exact hperm

end Calls

section Runs

variable {btmp wtmp : List UInt8} {events : List Event} {s : SshLoginCollector}

/-- In runs whose calls meet the condition, what was read is reported. -/
theorem current_of_meets (hrun : (sshLogin btmp wtmp).exec (.new btmp wtmp) events = some s)
    (hok : (sshLogin btmp wtmp).Meets SshLoginCollector.Ok (.new btmp wtmp) events) :
    s.Current btmp wtmp := by
  refine Runs.System.Reaches.invariant (Runs.System.Reaches.exec (.init rfl) hok hrun) ?_ ?_
  · rintro _ rfl
    exact current_new btmp wtmp
  · intro s e s' hs hok hstep
    obtain rfl := Option.some.inj hstep
    exact hs.step hok

/-- In a run whose calls find only complete records, none of which is taken for one reported
earlier, and whose uploads succeed, every login that was appended is reported or will be read;
and two such runs in which the same was appended report the same once they have read it. -/
theorem logins_delivered (hrun : (sshLogin btmp wtmp).exec (.new btmp wtmp) events = some s)
    (hok : (sshLogin btmp wtmp).Meets SshLoginCollector.Ok (.new btmp wtmp) events) :
    s.Delivered btmp wtmp ∧
      ∀ others t, (sshLogin btmp wtmp).exec (.new btmp wtmp) others = some t →
        (sshLogin btmp wtmp).Meets SshLoginCollector.Ok (.new btmp wtmp) others →
        s.btmp.content = t.btmp.content → s.wtmp.content = t.wtmp.content →
        ∀ env env', s.ReadsAll env → t.ReadsAll env' →
          (s.collectAndReport env).reported.Perm (t.collectAndReport env').reported := by
  have hs := current_of_meets hrun hok
  refine ⟨hs.delivered, fun others t hothers hok' hbtmp hwtmp env env' hall hall' => ?_⟩
  have ht := current_of_meets hothers hok'
  have hperm := ht.posted_collect hall'
  rw [UtmpFile.appended, UtmpFile.appended, ← hbtmp, ← hwtmp] at hperm
  exact ((hs.posted_collect hall).trans hperm.symm).map Sighting.log

end Runs

/-- A field of a record. -/
def padded (size : ℕ) (text : String) : List UInt8 :=
  Utf8.encode (text.toList ++ List.replicate (size - text.length) '\x00')

/-- The record of a login of `root` in the given second. -/
def loginRecord (second : UInt8) : List UInt8 :=
  [7, 0, 0, 0] ++ List.replicate 4 0 ++ padded 32 "ssh:notty" ++ List.replicate 4 0 ++
    padded 32 "root" ++ padded 256 "192.0.2.7" ++ List.replicate 8 0 ++ [second, 0, 0, 0] ++
    List.replicate 40 0

/-- The log of that record in `btmp`. -/
def loginLog (second : UInt8) : SyslogSshLog where
  ip := "192.0.2.7"
  username := "root"
  loginType := "SSH"
  status := 0
  logType := 5
  time := second.toNat

/-- A login record has the size of one. -/
theorem length_loginRecord (second : UInt8) : (loginRecord second).length = utmpSize := by
  have hline : (padded 32 "ssh:notty").length = 32 := by decide +kernel
  have huser : (padded 32 "root").length = 32 := by decide +kernel
  have hhost : (padded 256 "192.0.2.7").length = 256 := by decide +kernel
  simp [loginRecord, hline, huser, hhost, utmpSize]

/-- Padding does not change the text of a field. -/
theorem fieldText_padded {size : ℕ} {text : String} (h : text.toList.getLast? ≠ some '\x00') :
    fieldText (padded size text) = text := by
  have htrim : Text.trimEndMatches '\x00'
      (text.toList ++ List.replicate (size - text.length) '\x00') = text.toList := by
    rw [Text.trimEndMatches, List.reverse_append, List.reverse_replicate,
      List.dropWhile_append_of_pos (by simp)]
    cases hlast : text.toList.reverse with
    | nil => simpa using hlast.symm
    | cons c cs =>
      have hc : c ≠ '\x00' := by
        rintro rfl
        exact h (by rw [List.getLast?_eq_head?_reverse, hlast]; rfl)
      rw [List.dropWhile_cons_of_neg (by simpa using hc), ← hlast, List.reverse_reverse]
  rw [fieldText, padded, Utf8.lossy_encode, htrim, String.ofList_toList]

/-- The fields of the record. -/
theorem utmp_loginRecord (second : UInt8) :
    Utmp.ofBytes (loginRecord second) = {
      utType := userProcess
      utLine := padded 32 "ssh:notty"
      utUser := padded 32 "root"
      utHost := padded 256 "192.0.2.7"
      tvSec := second.toNat } := by
  have hline : (padded 32 "ssh:notty").length = 32 := by decide +kernel
  have huser : (padded 32 "root").length = 32 := by decide +kernel
  have hhost : (padded 256 "192.0.2.7").length = 256 := by decide +kernel
  have hsecond : signed UInt32.size [second, 0, 0, 0] = second.toNat := by
    have := second.toNat_lt
    simp only [signed, List.foldr_cons, List.foldr_nil]
    rw [Int.bmod_eq_of_le] <;> simp
    all_goals omega
  have hdrop {size n : ℕ} {text : String} (h : (padded size text).length = size) (hn : size ≤ n) :
      (padded size text).drop n = [] := List.drop_eq_nil_of_le (h.trans_le hn)
  have htype : signed UInt16.size [7, 0] = userProcess := by decide
  simp [Utmp.ofBytes, loginRecord, hline, huser, hhost, hsecond, htype, hdrop, List.drop_append]

/-- The record is that of an SSH login. -/
theorem logOfRecord_loginRecord (second : UInt8) :
    logOfRecord true (loginRecord second) = some (loginLog second) := by
  have hip : isValidIp "192.0.2.7" = true := by decide
  have htty : Text.contains "ssh" "ssh:notty" = true := by decide
  have huser : fieldText (padded 32 "root") = "root" := fieldText_padded (by decide)
  have hline : fieldText (padded 32 "ssh:notty") = "ssh:notty" := fieldText_padded (by decide)
  have hhost : fieldText (padded 256 "192.0.2.7") = "192.0.2.7" := fieldText_padded (by decide)
  simp [logOfRecord, utmp_loginRecord, parseUtmpEntry, huser, hline, hhost, hip, htty, loginLog]

/-- A login record is seen as one. -/
theorem sightings_loginRecord (position : ℕ) (second : UInt8) :
    sightings true position (loginRecord second) = [⟨true, position, loginLog second⟩] := by
  rw [sightings, Records.entries_of_length_eq utmpSize_pos (length_loginRecord second),
    logOfRecord_loginRecord]
  rfl

/-- All operations on a file succeed. -/
def fileReads : FileEnv where
  found := true
  openError := none
  metadataError := none
  seekError := none
  readError := none
  positionKnown := true

/-- The host of the example can be read. -/
theorem reads_fileReads : fileReads.Reads := ⟨rfl, rfl, rfl, rfl, rfl, rfl⟩

/-- The JSON of logs whose texts need no escapes. -/
def plainJson (logs : List SyslogSshLog) : String :=
  let entry (log : SyslogSshLog) : String :=
    "\x7b\\\"ip\\\":\\\"" ++ log.ip ++ "\\\",\\\"username\\\":\\\"" ++ log.username ++
      "\\\",\\\"type\\\":\\\"" ++ log.loginType ++ "\\\",\\\"status\\\":" ++ toString log.status ++
      ",\\\"log_type\\\":" ++ toString log.logType ++ ",\\\"time\\\":" ++ toString log.time ++
      "\x7d"
  "\x7b\"list\":\"[" ++ String.intercalate "," (logs.map entry) ++ "]\"\x7d"

/-- Both files are read, and the upload succeeds or fails. -/
def uploads (ok : Bool) : CallEnv where
  btmp := fileReads
  wtmp := fileReads
  toJson := fun logs => .ok (plainJson logs)
  post := fun _ => ok

/-- A call that reads both files. -/
theorem collect_uploads {s : SshLoginCollector} (ok : Bool)
    (hbtmp : s.btmp.offset ≤ s.btmp.content.length)
    (hwtmp : s.wtmp.offset ≤ s.wtmp.content.length) :
    s.collectAndReport (uploads ok) =
      SshLoginCollector.report
        { s with
          btmp := { s.btmp with offset := s.btmp.content.length }
          wtmp := { s.wtmp with offset := s.wtmp.content.length } }
        (uploads ok) (s.btmp.unread true ++ s.wtmp.unread false) := by
  obtain ⟨hblogs, hbend⟩ := readUtmpFile_of_reads true reads_fileReads hbtmp
  obtain ⟨hwlogs, hwend⟩ := readUtmpFile_of_reads false reads_fileReads hwtmp
  rw [← hblogs, ← hwlogs, ← hbend, ← hwend]
  rfl

/-- Logs that were all reported before are dropped. -/
theorem report_of_mem {s : SshLoginCollector} {env : CallEnv} {logs : List Sighting}
    (h : ∀ x ∈ logs, x.log.key ∈ s.lastRecords) : s.report env logs = s := by
  have hfilter : filterNewRecords s.lastRecords logs = [] :=
    List.filter_eq_nil_iff.mpr fun x hx => by simpa using h x hx
  simp [SshLoginCollector.report, hfilter]

/-- A failed upload changes nothing but the offsets. -/
theorem report_uploads_false (s : SshLoginCollector) (logs : List Sighting) :
    s.report (uploads false) logs = s := by
  unfold SshLoginCollector.report
  split
  · rfl
  · dsimp only
    split
    · rfl
    · split <;> rfl

/-- The collector before its first call, when logins were appended to `btmp`. -/
def appendedTo (bytes : List UInt8) : SshLoginCollector where
  btmp := ⟨bytes, 0⟩
  wtmp := ⟨[], 0⟩
  lastRecords := []
  posted := []

/-- The first call, when its upload succeeds. -/
theorem collect_appendedTo {bytes : List UInt8} (hne : sightings true 0 bytes ≠ []) :
    (appendedTo bytes).collectAndReport (uploads true) =
      { btmp := ⟨bytes, bytes.length⟩
        wtmp := ⟨[], 0⟩
        lastRecords := updateLastRecords [] ((sightings true 0 bytes).map Sighting.log)
        posted := sightings true 0 bytes } := by
  have hlogs : (appendedTo bytes).btmp.unread true ++ (appendedTo bytes).wtmp.unread false =
      sightings true 0 bytes := by
    rw [appendedTo, UtmpFile.unread, UtmpFile.unread, List.drop_nil, sightings_nil, List.append_nil]
    rfl
  rw [collect_uploads true (Nat.zero_le _) (Nat.zero_le _), hlogs,
    report_of_new hne (fun _ _ => List.not_mem_nil) rfl rfl]
  rfl

/-- A login is lost when its upload fails, and a second login of the same user from the same
address in the same second is reported in the same call, but not in the next one. -/
theorem logins_lost_and_merged :
    (∃ s, (sshLogin [] []).exec (.new [] [])
        [.append true (loginRecord 1), .collect (uploads false)] = some s ∧
      ¬ s.Delivered [] []) ∧
    ∃ s t, (sshLogin [] []).exec (.new [] [])
        [.append true (loginRecord 1 ++ loginRecord 1), .collect (uploads true)] = some s ∧
      (sshLogin [] []).exec (.new [] [])
        [.append true (loginRecord 1), .collect (uploads true), .append true (loginRecord 1),
          .collect (uploads true)] = some t ∧
      s.btmp.content = t.btmp.content ∧ s.wtmp.content = t.wtmp.content ∧
      s.reported = [loginLog 1, loginLog 1] ∧ t.reported = [loginLog 1] := by
  have hone := sightings_loginRecord 0 1
  have htwo : sightings true 0 (loginRecord 1 ++ loginRecord 1) =
      [⟨true, 0, loginLog 1⟩, ⟨true, utmpSize, loginLog 1⟩] := by
    have hdvd : utmpSize ∣ (loginRecord 1).length := ⟨1, by rw [length_loginRecord, Nat.mul_one]⟩
    rw [sightings_append hdvd, hone, length_loginRecord, Nat.zero_add, sightings_loginRecord]
    rfl
  constructor
  · refine ⟨(appendedTo (loginRecord 1)).collectAndReport (uploads false), rfl, fun h => ?_⟩
    rw [collect_uploads false (Nat.zero_le _) (Nat.zero_le _), report_uploads_false] at h
    have hmem : ⟨true, 0, loginLog 1⟩ ∈ sightings true 0 (loginRecord 1) := by
      rw [hone]
      exact List.mem_singleton_self _
    rcases h.1 _ hmem with hposted | hunread
    · cases hposted
    · rw [UtmpFile.unread, List.drop_length, sightings_nil] at hunread
      cases hunread
  · have hfirst := collect_appendedTo (by rw [hone]; exact List.cons_ne_nil _ _)
    have hboth := collect_appendedTo (by rw [htwo]; exact List.cons_ne_nil _ _)
    rw [hone] at hfirst
    rw [htwo] at hboth
    have hsecond : ((appendedTo (loginRecord 1)).collectAndReport (uploads true)).step
        (.append true (loginRecord 1)) =
          { btmp := ⟨loginRecord 1 ++ loginRecord 1, (loginRecord 1).length⟩
            wtmp := ⟨[], 0⟩
            lastRecords := [(loginLog 1).key]
            posted := [⟨true, 0, loginLog 1⟩] } := by
      rw [hfirst]
      rfl
    have hunread : sightings true (loginRecord 1).length
        ((loginRecord 1 ++ loginRecord 1).drop (loginRecord 1).length) ++ sightings false 0 [] =
          [⟨true, (loginRecord 1).length, loginLog 1⟩] := by
      rw [List.drop_left, sightings_loginRecord, sightings_nil]
      rfl
    have hagain : (((appendedTo (loginRecord 1)).collectAndReport (uploads true)).step
        (.append true (loginRecord 1))).collectAndReport (uploads true) =
          { btmp := ⟨loginRecord 1 ++ loginRecord 1, (loginRecord 1 ++ loginRecord 1).length⟩
            wtmp := ⟨[], 0⟩
            lastRecords := [(loginLog 1).key]
            posted := [⟨true, 0, loginLog 1⟩] } := by
      rw [hsecond, collect_uploads true (by simp) (Nat.zero_le _)]
      refine report_of_mem fun x hx => ?_
      rw [UtmpFile.unread, UtmpFile.unread, List.drop_nil, hunread, List.mem_singleton] at hx
      rw [hx]
      exact List.mem_singleton_self _
    refine ⟨(appendedTo (loginRecord 1 ++ loginRecord 1)).collectAndReport (uploads true),
      (((appendedTo (loginRecord 1)).collectAndReport (uploads true)).step
        (.append true (loginRecord 1))).collectAndReport (uploads true), rfl, rfl, ?_⟩
    rw [hboth, hagain]
    exact ⟨rfl, rfl, rfl, rfl⟩

/-- Complete records in `btmp` whose logs are new meet the condition. -/
theorem readsAll_uploads {s : SshLoginCollector} (hwtmp : s.wtmp = ⟨[], 0⟩)
    (hdvd : utmpSize ∣ (s.btmp.content.drop s.btmp.offset).length)
    (hnew : ∀ x ∈ s.btmp.unread true, x.log.key ∉ s.lastRecords) : s.ReadsAll (uploads true) := by
  refine ⟨⟨.inr ⟨reads_fileReads, hdvd, hnew⟩, .inr ⟨reads_fileReads, ?_, ?_⟩, ?_⟩,
    reads_fileReads, reads_fileReads⟩
  · rw [hwtmp]
    exact Nat.dvd_zero _
  · rw [hwtmp, UtmpFile.unread, List.drop_nil, sightings_nil]
    exact fun _ h => absurd h List.not_mem_nil
  · exact fun logs _ _ => ⟨plainJson (logs.map Sighting.log), rfl, rfl⟩

/-- Two logins in different seconds are reported in one call as in two. -/
theorem logins_delivered_in_two_calls :
    ∃ s t, (sshLogin [] []).exec (.new [] []) [.append true (loginRecord 1),
        .collect (uploads true), .append true (loginRecord 2)] = some s ∧
      (sshLogin [] []).exec (.new [] []) [.append true (loginRecord 1 ++ loginRecord 2)] = some t ∧
      s.Delivered [] [] ∧
      (s.collectAndReport (uploads true)).reported.Perm
        (t.collectAndReport (uploads true)).reported := by
  have hdvd (second : UInt8) : utmpSize ∣ (loginRecord second).length :=
    ⟨1, by rw [length_loginRecord, Nat.mul_one]⟩
  have hone := sightings_loginRecord 0 1
  have hfirst : (appendedTo (loginRecord 1)).ReadsAll (uploads true) :=
    readsAll_uploads rfl (hdvd 1) fun _ _ => List.not_mem_nil
  have hboth : (appendedTo (loginRecord 1 ++ loginRecord 2)).ReadsAll (uploads true) := by
    refine readsAll_uploads rfl ?_ fun _ _ => List.not_mem_nil
    rw [appendedTo, List.drop_zero, List.length_append]
    exact Nat.dvd_add (hdvd 1) (hdvd 2)
  have hsecond : ((appendedTo (loginRecord 1)).collectAndReport (uploads true)).step
      (.append true (loginRecord 2)) =
        { btmp := ⟨loginRecord 1 ++ loginRecord 2, (loginRecord 1).length⟩
          wtmp := ⟨[], 0⟩
          lastRecords := [(loginLog 1).key]
          posted := [⟨true, 0, loginLog 1⟩] } := by
    rw [collect_appendedTo (by rw [hone]; exact List.cons_ne_nil _ _), hone]
    rfl
  have hlast : (((appendedTo (loginRecord 1)).collectAndReport (uploads true)).step
      (.append true (loginRecord 2))).ReadsAll (uploads true) := by
    rw [hsecond]
    refine readsAll_uploads rfl ?_ fun x hx => ?_
    · rw [List.drop_left]
      exact hdvd 2
    · rw [UtmpFile.unread, List.drop_left, sightings_loginRecord, List.mem_singleton] at hx
      rw [hx]
      decide
  have hrun : (sshLogin [] []).exec (.new [] []) [.append true (loginRecord 1),
      .collect (uploads true), .append true (loginRecord 2)] =
        some (((appendedTo (loginRecord 1)).collectAndReport (uploads true)).step
          (.append true (loginRecord 2))) := rfl
  have hmeets : (sshLogin [] []).Meets SshLoginCollector.Ok (.new [] []) [.append true
      (loginRecord 1), .collect (uploads true), .append true (loginRecord 2)] := by
    refine ⟨trivial, fun s hs => ⟨?_, fun _ _ => ⟨trivial, fun _ _ => trivial⟩⟩⟩
    obtain rfl := Option.some.inj hs
    exact hfirst.ok
  obtain ⟨hdelivered, hperm⟩ := logins_delivered hrun hmeets
  refine ⟨_, appendedTo (loginRecord 1 ++ loginRecord 2), hrun, rfl, hdelivered, ?_⟩
  refine hperm [.append true (loginRecord 1 ++ loginRecord 2)] _ rfl
    ⟨trivial, fun _ _ => trivial⟩ ?_ ?_ _ _ hlast hboth
  · rw [hsecond]
    rfl
  · rw [hsecond]
    rfl

end LinuxAgent.Task.SshLogin
