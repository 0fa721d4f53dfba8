import LinuxAgent.Lib.Text
import LinuxAgent.Lib.Runs

/-!
# Log rotation

Before a message is written, the log file is renamed if it has reached its size. The name of the
backup has the time in seconds, so that two rotations in a second have the same name, and the
second one replaces the backup of the first one.
-/

namespace LinuxAgent.Logging

/-- `Level`. -/
inductive Level
  | error
  | warn
  | info
  | debug
  | trace
  deriving DecidableEq

/-- The number of a level; `LevelFilter` has the same ones, and zero for no messages. -/
def Level.number : Level → ℕ
  | .error => 1
  | .warn => 2
  | .info => 3
  | .debug => 4
  | .trace => 5

/-- The text of a level. -/
def Level.text : Level → String
  | .error => "ERROR"
  | .warn => "WARN"
  | .info => "INFO"
  | .debug => "DEBUG"
  | .trace => "TRACE"

/-- `Record`. -/
structure Record where
  level : Level
  args : String
  file : Option String
  line : Option ℕ
  modulePath : Option String

/-- The formats of the local time, in milliseconds: `%Y-%m-%d %H:%M:%S%.3f`, and
`%Y%m%d_%H%M%S`, which shows only the second. -/
structure Format where
  milli : ℕ → String
  second : ℕ → String
  second_eq : ∀ t t', t / 1000 = t' / 1000 → second t = second t'

/-- `LogConfig`, and the level of the messages that are written. -/
structure LogConfig where
  maxLevel : ℕ
  logSize : ℕ
  logPath : String
  logBackupPath : String

/-- `enabled`. -/
def LogConfig.enabled (config : LogConfig) (record : Record) : Bool :=
  record.level.number ≤ config.maxLevel

/-- A message with the position in the source. -/
def fullMessage (timestamp : String) (record : Record) : String :=
  "[" ++ timestamp ++ "] (" ++ record.file.getD "unknown" ++ ":" ++
    toString (record.line.getD 0) ++ ":" ++ record.modulePath.getD "unknown" ++ ") [" ++
    record.level.text ++ "] " ++ record.args

/-- A message of a module, as the text behind `[MOD:`, if there is one. -/
def moduleMessage (timestamp : String) (record : Record) (stripped : List Char) : Option String :=
  (Text.position "] ".toList stripped).map fun endIdx =>
    "[" ++ timestamp ++ "] [/" ++ String.ofList (stripped.take endIdx) ++ "/" ++
      record.level.text ++ "] " ++ String.ofList (stripped.drop (endIdx + 2))

/-- The message that `log` writes for a record. -/
def message (format : Format) (now : ℕ) (record : Record) : String :=
  let rawMsg := record.args.toList
  if "[PLAIN] ".toList.isPrefixOf rawMsg then String.ofList (rawMsg.drop 8)
  else if "[MOD:".toList.isPrefixOf rawMsg then
    (moduleMessage (format.milli now) record (rawMsg.drop 5)).getD
      (fullMessage (format.milli now) record)
  else fullMessage (format.milli now) record

/-- Files, each with the messages that were written to it; a file is created by a message. -/
structure Disk where
  files : List (String × List String)
  nonempty : ∀ f ∈ files, f.2 ≠ []

namespace Disk

/-- There is a file. -/
def has (d : Disk) (path : String) : Bool := d.files.any fun f => f.1 = path

/-- The messages in a file. -/
def messages (d : Disk) (path : String) : List String :=
  (d.files.filter fun f => f.1 = path).flatMap Prod.snd

/-- The text of a file. -/
def text (d : Disk) (path : String) : String := Text.unlines (d.messages path)

/-- The lines of all files. -/
def lines (d : Disk) : List String := d.files.flatMap fun f => Text.lines (Text.unlines f.2)

/-- The files after one was renamed, in the place of a file that has the new name. -/
def renamed (d : Disk) (src dst : String) : List (String × List String) :=
  if src = dst then d.files
  else (d.files.filter fun f => f.1 ≠ src ∧ f.1 ≠ dst) ++
    (d.files.filter fun f => f.1 = src).map fun f => (dst, f.2)

/-- Renaming leaves no empty files. -/
theorem nonempty_renamed (d : Disk) (src dst : String) :
    ∀ f ∈ d.renamed src dst, f.2 ≠ [] := by
  rw [renamed]
  split
  · exact d.nonempty
  · refine List.forall_mem_append.mpr ⟨fun f hf => d.nonempty f (List.mem_filter.mp hf).1, ?_⟩
    intro f hf
    obtain ⟨g, hg, rfl⟩ := List.mem_map.mp hf
    exact d.nonempty g (List.mem_filter.mp hg).1

/-- A file is renamed. -/
def rename (d : Disk) (src dst : String) : Disk := ⟨d.renamed src dst, d.nonempty_renamed src dst⟩

/-- The files after a message was written to the end of one. -/
def written (d : Disk) (path msg : String) : List (String × List String) :=
  (d.files.filter fun f => f.1 ≠ path) ++ [(path, d.messages path ++ [msg])]

/-- Writing leaves no empty files. -/
theorem nonempty_written (d : Disk) (path msg : String) : ∀ f ∈ d.written path msg, f.2 ≠ [] := by
  refine List.forall_mem_append.mpr ⟨fun f hf => d.nonempty f (List.mem_filter.mp hf).1, ?_⟩
  exact List.forall_mem_singleton.mpr (List.append_ne_nil_of_right_ne_nil _ (List.cons_ne_nil _ _))

/-- A message is written to the end of a file. -/
def append (d : Disk) (path msg : String) : Disk :=
  ⟨d.written path msg, d.nonempty_written path msg⟩

end Disk

section Log

variable (format : Format) (config : LogConfig)

/-- The name of a backup. -/
def backupFile (now : ℕ) : String :=
  config.logBackupPath ++ "/backend_" ++ format.second now ++ ".log"

/-- The log file has reached its size. -/
def full (d : Disk) : Bool :=
  d.has config.logPath && config.logSize ≤ (d.text config.logPath).utf8ByteSize

/-- `rotate_log_file`. -/
def rotateLogFile (now : ℕ) (d : Disk) : Disk :=
  if full config d then d.rename config.logPath (backupFile format config now) else d

/-- A call of `log`, with the times that it reads. -/
structure LogCall where
  record : Record
  now : ℕ
  rotateNow : ℕ

/-- The files, and the messages that were logged. -/
structure LogRun where
  disk : Disk
  logged : List String

/-- `log`. -/
def log (s : LogRun) (call : LogCall) : LogRun :=
  if config.enabled call.record then
    let msg := message format call.now call.record
    ⟨(rotateLogFile format config call.rotateNow s.disk).append config.logPath msg,
      s.logged ++ [msg]⟩
  else s

/-- No files are not empty. -/
theorem nonempty_nil : ∀ f ∈ ([] : List (String × List String)), f.2 ≠ [] := fun _ hf =>
  absurd hf List.not_mem_nil

/-- Before the first message. -/
def noLogs : LogRun := ⟨⟨[], nonempty_nil⟩, []⟩

/-- After some calls. -/
def afterLogs (calls : List LogCall) : LogRun := calls.foldl (log format config) noLogs

/-- The lines in the files are those that were logged. -/
def LogRun.Complete (s : LogRun) : Prop :=
  s.disk.lines.Perm (Text.lines (Text.unlines s.logged))

/-- A rotation finds another file with the name of the backup. -/
def LogCall.Overwrites (s : LogRun) (call : LogCall) : Prop :=
  config.enabled call.record = true ∧ full config s.disk = true ∧
    config.logPath ≠ backupFile format config call.rotateNow ∧
    s.disk.has (backupFile format config call.rotateNow) = true

end Log

/-- The lines of one more message. -/
theorem lines_unlines_append (messages others : List String) :
    Text.lines (Text.unlines (messages ++ others)) =
      Text.lines (Text.unlines messages) ++ Text.lines (Text.unlines others) := by
  rw [Text.lines_unlines, Text.lines_unlines, Text.lines_unlines, List.flatMap_append]

/-- A message has a line. -/
theorem lines_unlines_ne_nil {messages : List String} (h : messages ≠ []) :
    Text.lines (Text.unlines messages) ≠ [] := by
  obtain ⟨msg, rest, rfl⟩ := List.exists_cons_of_ne_nil h
  have hsplit : Text.split '\n' msg ≠ [] := by
    rw [Text.split, ne_eq, List.map_eq_nil_iff]
    exact List.splitOn_ne_nil _ _
  rw [Text.lines_unlines, List.flatMap_cons]
  exact List.append_ne_nil_of_left_ne_nil hsplit _

namespace Disk

variable (d : Disk)

/-- The lines of the files with a property, and those of the others. -/
theorem lines_perm_filter (p : String × List String → Bool) :
    d.lines.Perm (((d.files.filter fun f => !p f) ++ d.files.filter p).flatMap fun f =>
      Text.lines (Text.unlines f.2)) :=
  (((List.filter_append_perm p d.files).symm.trans List.perm_append_comm).flatMap_right _)

/-- The lines of a file, message by message. -/
theorem lines_messages (files : List (String × List String)) :
    Text.lines (Text.unlines (files.flatMap Prod.snd)) =
      files.flatMap fun f => Text.lines (Text.unlines f.2) := by
  induction files with
  | nil => rfl
  | cons f files ih => rw [List.flatMap_cons, lines_unlines_append, ih, List.flatMap_cons]

/-- A message adds its lines. -/
theorem lines_append (path msg : String) :
    (d.append path msg).lines.Perm (d.lines ++ Text.lines (Text.unlines [msg])) := by
  have hlines : (d.append path msg).lines =
      ((d.files.filter fun f => !decide (f.1 = path)) ++ d.files.filter fun f => f.1 = path).flatMap
        (fun f => Text.lines (Text.unlines f.2)) ++ Text.lines (Text.unlines [msg]) := by
    have hfiles : (d.append path msg).files =
        (d.files.filter fun f => !decide (f.1 = path)) ++ [(path, d.messages path ++ [msg])] := by
      simp only [← decide_not]
      rfl
    rw [lines, hfiles, List.flatMap_append, List.flatMap_singleton, lines_unlines_append, messages,
      lines_messages, List.flatMap_append, List.append_assoc]
  rw [hlines]
  exact (d.lines_perm_filter fun f => f.1 = path).symm.append_right _

/-- The lines after a file was renamed: those of the files of neither name, and its own. -/
theorem lines_rename {src dst : String} (hne : src ≠ dst) :
    (d.rename src dst).lines =
      ((d.files.filter fun f => !decide (f.1 = src)).filter fun f => !decide (f.1 = dst)).flatMap
          (fun f => Text.lines (Text.unlines f.2)) ++
        (d.files.filter fun f => f.1 = src).flatMap fun f => Text.lines (Text.unlines f.2) := by
  have hfiles : (d.rename src dst).files =
      ((d.files.filter fun f => !decide (f.1 = src)).filter fun f => !decide (f.1 = dst)) ++
        (d.files.filter fun f => f.1 = src).map fun f => (dst, f.2) := by
    have hrenamed : (d.rename src dst).files = d.renamed src dst := rfl
    rw [hrenamed, renamed, if_neg hne, List.filter_filter]
    congr 1
    refine List.filter_congr fun f _ => ?_
    rw [Bool.decide_and, decide_not, decide_not, Bool.and_comm]
  rw [lines, hfiles, List.flatMap_append, List.flatMap_map]

/-- Nothing is lost if there is no other file with the new name. -/
theorem lines_rename_perm {src dst : String} (h : src = dst ∨ d.has dst = false) :
    (d.rename src dst).lines.Perm d.lines := by
  by_cases hne : src = dst
  · have hsame : (d.rename src dst).files = d.files := if_pos hne
    rw [lines, hsame, lines]
  · have hfree := h.resolve_left hne
    have hnone : ((d.files.filter fun f => !decide (f.1 = src)).filter
        fun f => !decide (f.1 = dst)) = d.files.filter fun f => !decide (f.1 = src) := by
      refine List.filter_eq_self.mpr fun f hf => ?_
      have hnot := List.any_eq_false.mp hfree f (List.mem_filter.mp hf).1
      rw [Bool.not_eq_true']
      exact Bool.eq_false_iff.mpr hnot
    rw [d.lines_rename hne, hnone, ← List.flatMap_append]
    exact (d.lines_perm_filter fun f => f.1 = src).symm

/-- The lines of a file with the new name are lost. -/
theorem length_lines_rename {src dst : String} (hne : src ≠ dst) (h : d.has dst = true) :
    (d.rename src dst).lines.length < d.lines.length := by
  obtain ⟨f, hf, hpath⟩ := List.any_eq_true.mp h
  have hpath' : f.1 = dst := of_decide_eq_true hpath
  have hmem : f ∈ (d.files.filter fun f => !decide (f.1 = src)).filter fun f => f.1 = dst := by
    refine List.mem_filter.mpr ⟨List.mem_filter.mpr ⟨hf, ?_⟩, hpath⟩
    rw [hpath', decide_eq_false (Ne.symm hne)]
    rfl
  have hlost : 0 < (((d.files.filter fun f => !decide (f.1 = src)).filter
      fun f => f.1 = dst).flatMap fun f => Text.lines (Text.unlines f.2)).length := by
    refine List.length_pos_iff.mpr fun hnil => ?_
    exact lines_unlines_ne_nil (d.nonempty f hf) (List.flatMap_eq_nil_iff.mp hnil f hmem)
  have hall := (d.lines_perm_filter fun f => f.1 = src).length_eq
  have hothers := ((List.filter_append_perm (fun f => decide (f.1 = dst))
    (d.files.filter fun f => !decide (f.1 = src))).flatMap_right
      fun f => Text.lines (Text.unlines f.2)).length_eq
  rw [List.flatMap_append, List.length_append] at hall hothers
  rw [d.lines_rename hne, List.length_append]
  omega

end Disk

/-- A rotation keeps the lines just if it does not find another file with the name of the
backup. -/
theorem lines_rotate_perm_iff (format : Format) (config : LogConfig) (now : ℕ) (d : Disk) :
    (rotateLogFile format config now d).lines.Perm d.lines ↔
      ¬(full config d = true ∧ config.logPath ≠ backupFile format config now ∧
        d.has (backupFile format config now) = true) := by
  rw [rotateLogFile]
  split
  · next hfull =>
    constructor
    · rintro hperm ⟨-, hne, hhas⟩
      have hlength := hperm.length_eq
      have hlost := d.length_lines_rename hne hhas
      omega
    · intro h
      refine d.lines_rename_perm ?_
      by_cases hne : config.logPath = backupFile format config now
      · exact .inl hne
      · exact .inr (Bool.eq_false_iff.mpr fun hhas => h ⟨hfull, hne, hhas⟩)
  · next hfull => exact iff_of_true (List.Perm.refl _) fun h => hfull h.1

/-- A call keeps the files complete just if it does not overwrite a backup. -/
theorem complete_log_iff {format : Format} {config : LogConfig} {s : LogRun} (h : s.Complete)
    (call : LogCall) :
    (log format config s call).Complete ↔ ¬call.Overwrites format config s := by
  rw [log]
  split
  · next henabled =>
    have hrotate := lines_rotate_perm_iff format config call.rotateNow s.disk
    have hwritten := (rotateLogFile format config call.rotateNow s.disk).lines_append
      config.logPath (message format call.now call.record)
    rw [LogRun.Complete] at h
    rw [LogRun.Complete, lines_unlines_append, hwritten.congr_left, List.perm_append_right_iff,
      ← h.congr_right, hrotate, LogCall.Overwrites, and_iff_right henabled]
  · next henabled => exact iff_of_true h fun hover => henabled hover.1

/-- Nothing is missing before the first line. -/
theorem complete_noLogs : noLogs.Complete := List.Perm.refl _

/-- There are less lines in the files than were logged. -/
def LogRun.Lost (s : LogRun) : Prop :=
  s.disk.lines.length < (Text.lines (Text.unlines s.logged)).length

/-- A log with a lost line is not complete. -/
theorem LogRun.Lost.not_complete {s : LogRun} (h : s.Lost) : ¬s.Complete := fun hcomplete =>
  Nat.ne_of_lt h hcomplete.length_eq

/-- A rotation adds no lines. -/
theorem length_lines_rotate_le (format : Format) (config : LogConfig) (now : ℕ) (d : Disk) :
    (rotateLogFile format config now d).lines.length ≤ d.lines.length := by
  by_cases hover : full config d = true ∧ config.logPath ≠ backupFile format config now ∧
      d.has (backupFile format config now) = true
  · obtain ⟨hfull, hne, hhas⟩ := hover
    rw [rotateLogFile, if_pos hfull]
    exact Nat.le_of_lt (d.length_lines_rename hne hhas)
  · exact Nat.le_of_eq ((lines_rotate_perm_iff format config now d).mpr hover).length_eq

/-- A call adds the lines of its message, and no others. -/
theorem length_lines_log {format : Format} {config : LogConfig} {s : LogRun} {call : LogCall}
    (h : config.enabled call.record = true) :
    (log format config s call).disk.lines.length =
        (rotateLogFile format config call.rotateNow s.disk).lines.length +
          (Text.lines (Text.unlines [message format call.now call.record])).length ∧
      (Text.lines (Text.unlines (log format config s call).logged)).length =
        (Text.lines (Text.unlines s.logged)).length +
          (Text.lines (Text.unlines [message format call.now call.record])).length := by
  rw [log, if_pos h, lines_unlines_append, List.length_append]
  refine ⟨?_, rfl⟩
  rw [(Disk.lines_append _ _ _).length_eq, List.length_append]

/-- Lines that were lost do not come back. -/
theorem LogRun.Lost.log {format : Format} {config : LogConfig} {s : LogRun} (h : s.Lost)
    (call : LogCall) : (log format config s call).Lost := by
  by_cases henabled : config.enabled call.record = true
  · obtain ⟨hdisk, hlogged⟩ := @length_lines_log format config s call henabled
    have hrotate := length_lines_rotate_le format config call.rotateNow s.disk
    rw [LogRun.Lost] at h
    rw [LogRun.Lost, hdisk, hlogged]
    omega
  · rw [Logging.log, if_neg henabled]
    exact h

/-- A call that overwrites a backup loses lines. -/
theorem lost_of_overwrites {format : Format} {config : LogConfig} {s : LogRun} {call : LogCall}
    (h : s.Complete) (hover : call.Overwrites format config s) :
    (log format config s call).Lost := by
  obtain ⟨henabled, hfull, hne, hhas⟩ := hover
  obtain ⟨hdisk, hlogged⟩ := @length_lines_log format config s call henabled
  have hrename := s.disk.length_lines_rename hne hhas
  have hlength := h.length_eq
  rw [LogRun.Lost, hdisk, hlogged, rotateLogFile, if_pos hfull]
  omega

/-- After a sequence of calls the files have the lines that were logged just if no call of it
overwrites a backup. -/
theorem logs_complete_iff (format : Format) (config : LogConfig) (calls : List LogCall) :
    (afterLogs format config calls).Complete ↔
      ∀ seen call, seen ++ [call] <+: calls →
        ¬call.Overwrites format config (afterLogs format config seen) := by
  have hstep (s : LogRun) (call : LogCall) (hs : s.Complete) :
      (log format config s call).Complete ↔ ¬call.Overwrites format config s :=
    complete_log_iff hs call
  have hcases (s : LogRun) (call : LogCall) (hs : s.Complete) :
      (log format config s call).Complete ∨ (log format config s call).Lost := by
    by_cases hover : call.Overwrites format config s
    · exact .inr (lost_of_overwrites hs hover)
    · exact .inl ((hstep s call hs).mpr hover)
  rw [afterLogs, Runs.System.foldl_iff_forall_prefix (fun s call hs => hs.log call)
    (fun _ => LogRun.Lost.not_complete) hcases complete_noLogs]
  exact Runs.System.forall_foldl_iff (f := log format config) hstep complete_noLogs calls

/-- The first second of a year. -/
def newYear (_ : ℕ) : String := "20240101_000000"

/-- The date of the example depends on the second only. -/
theorem newYear_eq (t t' : ℕ) (_ : t / 1000 = t' / 1000) : newYear t = newYear t' := rfl

/-- The formats in that second. -/
def newYearFormat : Format := ⟨fun _ => "2024-01-01 00:00:00.000", newYear, newYear_eq⟩

/-- A small log file. -/
def smallLog : LogConfig := ⟨3, 4, "/var/log/agent.log", "/var/log/backup"⟩

/-- Plain messages that are logged in the same millisecond. -/
def plainCalls : List LogCall :=
  ["[PLAIN] one", "[PLAIN] two", "[PLAIN] three"].map fun args =>
    ⟨⟨.info, args, none, none, none⟩, 1704067200000, 1704067200000⟩

/-- The first of three messages in a second is lost. -/
theorem first_message_lost :
    (afterLogs newYearFormat smallLog plainCalls).logged = ["one", "two", "three"] ∧
      (afterLogs newYearFormat smallLog plainCalls).disk.lines = ["two", "three"] ∧
      ¬(afterLogs newYearFormat smallLog plainCalls).Complete := by
  have hlogged : (afterLogs newYearFormat smallLog plainCalls).logged =
      ["one", "two", "three"] := by decide +kernel
  have hlines : (afterLogs newYearFormat smallLog plainCalls).disk.lines = ["two", "three"] := by
    decide +kernel
  refine ⟨hlogged, hlines, fun h => ?_⟩
  have hlength := h.length_eq
  rw [hlogged, hlines] at hlength
  exact absurd hlength (by decide +kernel)

end LinuxAgent.Logging
