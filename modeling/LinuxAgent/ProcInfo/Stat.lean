import LinuxAgent.ProcInfo.Process
import Mathlib.Tactic.Push

/-!
# The line of `/proc/<pid>/stat`

The line has the name of the process in parentheses as its second field. The parsers split
the line at white space and count the fields, so that a name with a blank in it shifts
all fields after it, and a name that is no text makes the line unreadable.
-/

namespace LinuxAgent.ProcInfo

/-- The states of a task. -/
inductive TaskState
  | running
  | sleeping
  | diskSleep
  | stopped
  | tracingStop
  | dead
  | zombie
  | parked
  | idle
  deriving DecidableEq

/-- The letter of a state. -/
def TaskState.letter : TaskState → String
  | .running => "R"
  | .sleeping => "S"
  | .diskSleep => "D"
  | .stopped => "T"
  | .tracingStop => "t"
  | .dead => "X"
  | .zombie => "Z"
  | .parked => "P"
  | .idle => "I"

/-- What the kernel writes to `stat`. -/
structure Stat where
  pid : UInt32
  /-- The name, which is any bytes. -/
  comm : List UInt8
  state : TaskState
  ppid : UInt32
  /-- The fields from `pgrp` to `cstime`. -/
  upToCstime : Fin 13 → ℤ
  priority : Int32
  nice : ℤ
  numThreads : Int32
  itrealvalue : ℤ
  starttime : UInt64
  /-- The fields after `starttime`. -/
  rest : List ℤ

/-- The name as the kernel writes it. Some kernels escape line breaks and backslashes,
others write it as it is. -/
def writtenComm (escapes : Bool) (comm : List UInt8) : List UInt8 :=
  if escapes then
    comm.flatMap fun b => if b = 10 then [92, 110] else if b = 92 then [92, 92] else [b]
  else comm

/-- The fields after the name up to `ppid`. -/
def Stat.fieldsBefore (s : Stat) : List String := [s.state.letter, toString s.ppid.toNat]

/-- The fields after `ppid`. -/
def Stat.fieldsAfter (s : Stat) : List String :=
  (List.ofFn s.upToCstime).map toString ++
    [toString s.priority.toInt, toString s.nice, toString s.numThreads.toInt,
      toString s.itrealvalue, toString s.starttime.toNat] ++ s.rest.map toString

/-- The line before the name. -/
def Stat.lead (s : Stat) : List Char := (toString s.pid.toNat).toList ++ [' ', '(']

/-- The line after the name. -/
def Stat.trail (s : Stat) : List Char :=
  ')' :: ' ' :: (Text.joinWith ' ' (s.fieldsBefore ++ s.fieldsAfter)).toList ++ ['\n']

/-- The line of the kernel. -/
def Stat.render (escapes : Bool) (s : Stat) : List UInt8 :=
  Utf8.encode s.lead ++ writtenComm escapes s.comm ++ Utf8.encode s.trail

/-- The words of the name in parentheses. -/
def commWords (comm : List Char) : List String :=
  Text.words (String.ofList ('(' :: comm ++ [')']))

/-- The fields are words. -/
theorem flatMap_words_fields (s : Stat) :
    s.fieldsBefore.flatMap Text.words = s.fieldsBefore ∧
      s.fieldsAfter.flatMap Text.words = s.fieldsAfter := by
  have hints (ns : List ℤ) : (ns.map toString).flatMap Text.words = ns.map toString := by
    induction ns with
    | nil => rfl
    | cons n ns ih => rw [List.map_cons, List.flatMap_cons, ih, Text.words_toString_int,
        List.singleton_append]
  have hletter : Text.words s.state.letter = [s.state.letter] := by
    cases s.state <;> decide
  constructor
  · simp only [Stat.fieldsBefore, List.flatMap_cons, List.flatMap_nil, hletter,
      Text.words_toString, List.singleton_append]
  · simp only [Stat.fieldsAfter, List.flatMap_append, hints, List.flatMap_cons, List.flatMap_nil,
      Text.words_toString_int, Text.words_toString, List.singleton_append]

/-- The words of the line, for a name that is a text. -/
theorem words_line (s : Stat) (comm : List Char) :
    Text.words (String.ofList (s.lead ++ comm ++ s.trail)) =
      toString s.pid.toNat :: (commWords comm ++ (s.fieldsBefore ++ s.fieldsAfter)) := by
  have hline : s.lead ++ comm ++ s.trail = (toString s.pid.toNat).toList ++ ' ' ::
      (('(' :: comm ++ [')']) ++ ' ' ::
        ((Text.joinWith ' ' (s.fieldsBefore ++ s.fieldsAfter)).toList ++ '\n' :: [])) := by
    simp [Stat.lead, Stat.trail]
  obtain ⟨hbefore, hafter⟩ := flatMap_words_fields s
  have hempty : Text.words (String.ofList []) = [] := by decide
  rw [hline, Text.words_append_cons (by decide), Text.words_append_cons (by decide),
    Text.words_append_cons (c := '\n') (by decide), String.ofList_toList, String.ofList_toList,
    Text.words_joinWith (by decide), List.flatMap_append, hbefore, hafter, Text.words_toString,
    hempty, List.append_nil, List.singleton_append]
  rfl

/-- No character of the name is white space. -/
def NoBlank (comm : List Char) : Prop := ∀ c ∈ comm, Text.isWhiteSpace c = false

/-- A name without blanks is one word. -/
theorem commWords_of_noBlank {comm : List Char} (h : NoBlank comm) :
    commWords comm = [String.ofList ('(' :: comm ++ [')'])] := by
  refine Text.words_eq_singleton (by simp) fun c hc => ?_
  rw [String.toList_ofList, List.mem_append, List.mem_cons, List.mem_singleton] at hc
  obtain (rfl | hc) | rfl := hc
  · decide
  · exact h c hc
  · decide

/-- A name with a blank is more than one word. -/
theorem two_le_length_commWords {comm : List Char} (h : ¬NoBlank comm) :
    2 ≤ (commWords comm).length := by
  rw [NoBlank] at h
  push Not at h
  obtain ⟨c, hc, hwhite⟩ := h
  obtain ⟨before, after, rfl⟩ := List.append_of_mem hc
  have hname : '(' :: (before ++ c :: after) ++ [')'] =
      ('(' :: before) ++ c :: (after ++ [')']) := by
    simp
  have hfirst : Text.words (String.ofList ('(' :: before)) ≠ [] :=
    @Text.words_ne_nil _ '(' (by simp) (by decide)
  have hlast : Text.words (String.ofList (after ++ [')'])) ≠ [] :=
    @Text.words_ne_nil _ ')' (by simp) (by decide)
  rw [commWords, hname, Text.words_append_cons (eq_true_of_ne_false hwhite), List.length_append]
  have := List.length_pos_iff.mpr hfirst
  have := List.length_pos_iff.mpr hlast
  omega

/-- Reading the line succeeds if the name is a text. -/
theorem readToString_render {escapes : Bool} {s : Stat} {comm : List Char}
    (h : writtenComm escapes s.comm = Utf8.encode comm) (path : String) :
    readToStringWithContext path (.ok (s.render escapes)) =
      .ok (String.ofList (s.lead ++ comm ++ s.trail)) := by
  have hdecode : Utf8.decode (s.render escapes) = some (s.lead ++ comm ++ s.trail) := by
    rw [Stat.render, h, ← Utf8.encode_append, ← Utf8.encode_append, Utf8.decode_encode]
  rw [readToStringWithContext]
  simp only [hdecode]

/-- Reading the line succeeds only if the name is a text. -/
theorem exists_of_readToString_render {escapes : Bool} {s : Stat} {path text : String}
    (h : readToStringWithContext path (.ok (s.render escapes)) = .ok text) :
    ∃ comm, writtenComm escapes s.comm = Utf8.encode comm := by
  rw [readToStringWithContext] at h
  cases hdecode : Utf8.decode (s.render escapes) with
  | none => simp [hdecode] at h
  | some line =>
    exact Utf8.exists_eq_encode_of_between (by decide) (Utf8.eq_encode_of_decode hdecode)

/-- What is read from a process with a line in `stat` is what the line was made from: the
parsers find the values, and so does the record of the process, if the other files of the
process are as they should be. -/
structure Reported (escapes : Bool) (s : Stat) : Prop where
  ppid : ∀ path, getPpid (readToStringWithContext path (.ok (s.render escapes))) = .ok s.ppid
  priority : ∀ path,
    getPriority (readToStringWithContext path (.ok (s.render escapes))) = .ok s.priority
  threadCount : ∀ path,
    getThreadCount (readToStringWithContext path (.ok (s.render escapes))) = .ok s.numThreads
  startTime : ∀ path formatTimestamp uptimeData bootTime,
    getStartTime formatTimestamp (readToStringWithContext path (.ok (s.render escapes)))
      (.ok uptimeData) bootTime =
      .ok (formatTimestamp (processStart (uptimeSec uptimeData) s.starttime bootTime))
  record : ∀ (files : ProcessFiles) (name exePath memory user uptimeData hash),
    files.stat = .ok (s.render escapes) →
    getName files = .ok name →
    getExecutablePath files name = .ok exePath →
    (exePath = "" || !files.pathExists exePath || isMagicarmorPath exePath) = false →
    getMemoryRss files.statusText = .ok memory →
    getUser files.fromUid files.statusText = .ok user →
    files.uptimeText = .ok uptimeData →
    files.md5 exePath = .ok hash →
    buildProcessInfo files = .ok {
      timestamp := files.timestamp
      name := name
      vendor := getVendor
      package := getPackage
      pid := files.pid
      ppid := s.ppid
      priority := s.priority
      threadCount := s.numThreads
      memoryRssKb := memory
      startTime := files.formatTimestamp
        (processStart (uptimeSec uptimeData) s.starttime files.bootTime)
      exePath := exePath
      user := user
      hash := hash
      dependencies := [] }

/-- The name, as the kernel writes it, is a text without white space. -/
def OneWord (escapes : Bool) (comm : List UInt8) : Prop :=
  ∃ text, writtenComm escapes comm = Utf8.encode text ∧ NoBlank text

/-- The words of a line whose name is one word. -/
theorem words_line_of_noBlank (s : Stat) {comm : List Char} (h : NoBlank comm) :
    let parts := Text.words (String.ofList (s.lead ++ comm ++ s.trail))
    parts[3]? = some (toString s.ppid.toNat) ∧ parts[17]? = some (toString s.priority.toInt) ∧
      parts[19]? = some (toString s.numThreads.toInt) ∧
        parts[21]? = some (toString s.starttime.toNat) := by
  rw [words_line, commWords_of_noBlank h]
  simp only [Stat.fieldsBefore, Stat.fieldsAfter]
  refine ⟨rfl, ?_, ?_, ?_⟩
  · simp
  · simp
  · simp

/-- A line whose name is one word is read back. -/
theorem reported_of_oneWord {escapes : Bool} {s : Stat} (h : OneWord escapes s.comm) :
    Reported escapes s := by
  obtain ⟨comm, hcomm, hblank⟩ := h
  have hread := readToString_render hcomm
  obtain ⟨hpart3, hpart17, hpart19, hpart21⟩ := words_line_of_noBlank s hblank
  have hppid (path) :
      getPpid (readToStringWithContext path (.ok (s.render escapes))) = .ok s.ppid := by
    rw [hread]
    exact statField_ok hpart3 (Text.parseU32_toString s.ppid) _ _
  have hpriority (path) :
      getPriority (readToStringWithContext path (.ok (s.render escapes))) = .ok s.priority := by
    rw [hread]
    exact statField_ok hpart17 (Text.parseI32_toString s.priority) _ _
  have hthreads (path) :
      getThreadCount (readToStringWithContext path (.ok (s.render escapes))) =
        .ok s.numThreads := by
    rw [hread]
    exact statField_ok hpart19 (Text.parseI32_toString s.numThreads) _ _
  have hstart (path formatTimestamp uptimeData bootTime) :
      getStartTime formatTimestamp (readToStringWithContext path (.ok (s.render escapes)))
        (.ok uptimeData) bootTime =
        .ok (formatTimestamp (processStart (uptimeSec uptimeData) s.starttime bootTime)) := by
    rw [hread, getStartTime]
    simp only [bind, Except.bind, hpart21, Text.parseU64_toString, UInt64.ofNat_toNat]
  refine ⟨hppid, hpriority, hthreads, hstart, ?_⟩
  intro files name exePath memory user uptimeData hash hstat hname hexe hvalid hmemory huser
    huptime hmd5
  have htext : files.statText =
      readToStringWithContext (files.pidPath "stat") (.ok (s.render escapes)) := by
    rw [ProcessFiles.statText, hstat]
  rw [buildProcessInfo]
  simp only [hname, hexe, hvalid, hmemory, huser, huptime, hmd5, htext, hppid, hpriority,
    hthreads, hstart, bind, Except.bind, Bool.false_eq_true, if_false]

/-- The fourth word of a line whose name has a blank does not depend on the parent. -/
theorem words_line_three {s s' : Stat} {comm : List Char} (h : ¬NoBlank comm)
    (hstate : s.state = s'.state) :
    (Text.words (String.ofList (s.lead ++ comm ++ s.trail)))[3]? =
      (Text.words (String.ofList (s'.lead ++ comm ++ s'.trail)))[3]? := by
  have hlen := two_le_length_commWords h
  have hthird (s : Stat) : (Text.words (String.ofList (s.lead ++ comm ++ s.trail)))[3]? =
      (commWords comm ++ [s.state.letter])[2]? := by
    have happend : commWords comm ++ (s.fieldsBefore ++ s.fieldsAfter) =
        (commWords comm ++ [s.state.letter]) ++ (toString s.ppid.toNat :: s.fieldsAfter) := by
      rw [List.append_assoc]
      rfl
    have hshort : 2 < (commWords comm ++ [s.state.letter]).length := by
      rw [List.length_append, List.length_singleton]
      omega
    rw [words_line, List.getElem?_cons_succ, happend, List.getElem?_append_left hshort]
  rw [hthird, hthird, hstate]

/-- A line with a name. -/
def lineOf (comm : List UInt8) (ppid : UInt32) : Stat where
  pid := 2
  comm := comm
  state := .running
  ppid := ppid
  upToCstime := fun _ => 0
  priority := 20
  nice := 0
  numThreads := 1
  itrealvalue := 0
  starttime := 0
  rest := []

/-- All lines with a name are read back if and only if the name, as the kernel writes it, is
valid text without white space. -/
theorem stat_read_back_iff (escapes : Bool) (comm : List UInt8) :
    (∀ s : Stat, s.comm = comm → Reported escapes s) ↔ OneWord escapes comm := by
  constructor
  · intro h
    have hppid (ppid : UInt32) := (h (lineOf comm ppid) rfl).ppid ""
    obtain ⟨text, hread⟩ : ∃ text,
        readToStringWithContext "" (.ok ((lineOf comm 0).render escapes)) = .ok text := by
      cases hread : readToStringWithContext "" (.ok ((lineOf comm 0).render escapes)) with
      | ok text => exact ⟨text, rfl⟩
      | error e =>
        have hzero := hppid 0
        rw [hread] at hzero
        cases hzero
    obtain ⟨name, hname⟩ := exists_of_readToString_render hread
    refine ⟨name, hname, ?_⟩
    by_contra hblank
    have hsame : getPpid (readToStringWithContext "" (.ok ((lineOf comm 0).render escapes))) =
        getPpid (readToStringWithContext "" (.ok ((lineOf comm 1).render escapes))) := by
      have hword := @words_line_three (lineOf comm 0) (lineOf comm 1) _ hblank rfl
      rw [readToString_render (s := lineOf comm 0) hname,
        readToString_render (s := lineOf comm 1) hname, getPpid, statField, statField]
      simp only [bind, Except.bind, hword]
    rw [hppid, hppid] at hsame
    cases hsame
  · rintro h s rfl
    exact reported_of_oneWord h

/-- The name that the server of `tmux` gives itself. -/
def tmuxComm : List UInt8 := Utf8.encode "tmux: server".toList

/-- The parsers fail on the server of `tmux`, whose name has a blank, with or without
escapes in the line. -/
theorem tmux_server_unreported :
    tmuxComm.length ≤ 15 ∧
      getPpid (readToStringWithContext "" (.ok ((lineOf tmuxComm 1).render true))) =
        .error (.parse "PPid") ∧
      getPpid (readToStringWithContext "" (.ok ((lineOf tmuxComm 1).render false))) =
        .error (.parse "PPid") ∧
      ¬∀ (escapes : Bool) (s : Stat), s.comm.length ≤ 15 → Reported escapes s := by
  have hfail (escapes : Bool) (h : writtenComm escapes tmuxComm = tmuxComm) :
      getPpid (readToStringWithContext "" (.ok ((lineOf tmuxComm 1).render escapes))) =
        .error (.parse "PPid") := by
    rw [readToString_render (s := lineOf tmuxComm 1) h]
    decide
  refine ⟨by decide, hfail true (by decide), hfail false rfl, fun h => ?_⟩
  have hppid := (h false (lineOf tmuxComm 1) (by decide)).ppid ""
  rw [hfail false rfl] at hppid
  cases hppid

end LinuxAgent.ProcInfo
