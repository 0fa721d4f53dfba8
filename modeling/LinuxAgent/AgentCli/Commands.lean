import LinuxAgent.AgentCli.Console
import LinuxAgent.AgentCli.Protocol
import Mathlib.Tactic.ByContra

/-!
# Framing of commands

The console writes its messages one after the other, with nothing between them, and the
agent takes the lines of what one read returns for commands. The agent gets the commands
that were sent just when the reads before the session end with the answer to its greeting,
every further read returns one message, and every message is a line that trimming leaves
as it is; an `exit` ends the session.

The number of ASCII characters carries the argument: reading and decoding make none, a
message begins and ends with one, and so does every message after it.
-/

namespace LinuxAgent.AgentCli

/-- The size of the buffer of a `BufReader`. -/
def bufReaderSize : ℕ := 8192

/-- The answer of the console to the greeting, without the line break at its end. -/
def helloText (uid : String) : List UInt8 := Utf8.encode ("hello, ".toList ++ uid.toList)

/-- The answer of the console to the greeting. -/
def hello (uid : String) : List UInt8 := helloText uid ++ [newline]

/-- `connect_and_auth` of the agent after its greeting. What the `BufReader` has read after
the line is dropped with it. -/
def connectAndAuth (devUid : String) (s : Source) : Option Source :=
  let line := s.readUntil bufReaderSize newline
  if line.1 = hello devUid then some line.2 else none

/-- The commands that `handle_session` passes to `process_command`. -/
def commands (events : List AgentEvent) : List String :=
  events.filterMap fun event =>
    match event with
    | .command cmd => some cmd
    | .file _ => none

/-- The commands of a connection, as `run_session` makes one. -/
def runSession (fs : FileSystem) (devUid : String) (s : Source) : List String :=
  match connectAndAuth devUid s with
  | none => []
  | some s' => commands (handleSession fs devUid s')

/-- The bytes of messages. -/
def messageBytes (ms : List String) : List UInt8 := ms.flatMap fun m => Utf8.encode m.toList

/-- The first message comes before the others. -/
theorem messageBytes_cons (m : String) (ms : List String) :
    messageBytes (m :: ms) = Utf8.encode m.toList ++ messageBytes ms :=
  List.flatMap_cons

/-- The commands among the lines of a read. -/
theorem commands_handleLines_sublist (fs : FileSystem) (devUid : String) (lines : List String)
    (s : Source) : List.Sublist (commands (handleLines fs devUid lines s).1) lines := by
  induction lines generalizing s with
  | nil => exact List.Sublist.refl _
  | cons line lines ih =>
    rw [handleLines]
    split
    · split
      · exact List.Sublist.cons_cons line (List.nil_sublist lines)
      · exact List.Sublist.cons_cons line (ih s)
    · split
      · exact List.Sublist.cons line (ih _)
      · exact List.Sublist.cons line (ih s)

/-- How many ASCII characters there are in commands. -/
def asciiTotal (cmds : List String) : ℕ := Utf8.asciiChars (cmds.flatMap String.toList)

/-- The total of two runs of commands. -/
theorem asciiTotal_append (cmds cmds' : List String) :
    asciiTotal (cmds ++ cmds') = asciiTotal cmds + asciiTotal cmds' := by
  rw [asciiTotal, List.flatMap_append, Utf8.asciiChars, List.countP_append]
  rfl

/-- The ASCII bytes of both parts count. -/
theorem asciiBytes_append (a b : List UInt8) :
    Utf8.asciiBytes (a ++ b) = Utf8.asciiBytes a + Utf8.asciiBytes b :=
  List.countP_append

/-- The bytes of messages have as many ASCII characters as the messages. -/
theorem asciiBytes_messageBytes (ms : List String) :
    Utf8.asciiBytes (messageBytes ms) = asciiTotal ms := by
  induction ms with
  | nil => rfl
  | cons m ms ih =>
    have hcons : asciiTotal (m :: ms) = Utf8.asciiChars m.toList + asciiTotal ms := by
      rw [asciiTotal, List.flatMap_cons, Utf8.asciiChars, List.countP_append]
      rfl
    rw [messageBytes_cons, asciiBytes_append, Utf8.asciiBytes_encode, hcons, ← ih]

/-- Line breaks of a text are ASCII characters too. -/
theorem asciiChars_filter_add_count (cs : List Char) :
    Utf8.asciiChars (cs.filter fun c => c ≠ '\n') + cs.count '\n' ≤ Utf8.asciiChars cs := by
  induction cs with
  | nil => exact Nat.le_refl _
  | cons c cs ih =>
    rw [Utf8.asciiChars] at ih ⊢
    by_cases hc : c = '\n'
    · subst hc
      simp [Utf8.asciiChars] at ih ⊢
      omega
    · simp [Utf8.asciiChars, hc, List.countP_cons] at ih ⊢
      omega

/-- The commands of a read have no more ASCII characters than the read, without its line
breaks. -/
theorem asciiTotal_handleLines_le (fs : FileSystem) (devUid : String) (chunk : List UInt8)
    (s : Source) :
    asciiTotal (commands (handleLines fs devUid (sessionLines chunk) s).1) +
      (Utf8.lossy chunk).count '\n' ≤ Utf8.asciiBytes chunk := by
  have hlines := (((commands_handleLines_sublist fs devUid (sessionLines chunk) s).flatMap
    String.toList).trans (flatMap_sessionLines_sublist chunk)).countP_le
      (p := fun c => c.toNat < 128)
  have hbreaks := asciiChars_filter_add_count (Utf8.lossy chunk)
  have hdecode := Utf8.asciiChars_lossy_le chunk
  rw [asciiTotal, Utf8.asciiChars]
  rw [Utf8.asciiChars] at hbreaks
  omega

/-- The commands of the later events come after the others. -/
theorem commands_append (events events' : List AgentEvent) :
    commands (events ++ events') = commands events ++ commands events' :=
  List.filterMap_append

/-- The commands of a session are those of its first read and those after it. -/
theorem commands_handleSession {fs : FileSystem} {devUid : String} {s : Source}
    (hbytes : s.bytes ≠ []) :
    commands (handleSession fs devUid s) =
      commands (handleLines fs devUid (sessionLines (s.read bufferSize).1)
          (s.read bufferSize).2).1 ++
        match (handleLines fs devUid (sessionLines (s.read bufferSize).1)
          (s.read bufferSize).2).2 with
        | none => []
        | some s' => commands (handleSession fs devUid s') := by
  rw [handleSession,
    Source.serve_of_ne_nil bufferSize_pos (handleSession_readsOn fs devUid) hbytes,
    commands_append]
  cases (handleLines fs devUid (sessionLines (s.read bufferSize).1) (s.read bufferSize).2).2 with
  | none => rfl
  | some s' => rfl

/-- The commands of a session have no more ASCII characters than what it reads. -/
theorem asciiTotal_handleSession_le (fs : FileSystem) (devUid : String) (s : Source) :
    asciiTotal (commands (handleSession fs devUid s)) ≤ Utf8.asciiBytes s.bytes := by
  induction hlen : s.bytes.length using Nat.strongRecOn generalizing s with
  | ind len ih =>
    by_cases hbytes : s.bytes = []
    · rw [handleSession, Source.serve_of_nil hbytes]
      exact Nat.zero_le _
    · have hread := s.read_append bufferSize
      have hfirst := asciiTotal_handleLines_le fs devUid (s.read bufferSize).1
        (s.read bufferSize).2
      rw [commands_handleSession hbytes, asciiTotal_append, ← hread, asciiBytes_append]
      cases hnext : (handleLines fs devUid (sessionLines (s.read bufferSize).1)
        (s.read bufferSize).2).2 with
      | none =>
        have hnone : asciiTotal [] = 0 := rfl
        simp only [hnone]
        omega
      | some s' =>
        obtain ⟨skipped, hskipped⟩ := handleLines_suffix fs devUid hnext
        have hchunk := List.length_pos_iff.mpr
          ((Source.read_eq_nil_iff bufferSize_pos).not.mpr hbytes)
        have hshort : s'.bytes.length < len := by
          rw [← hlen, ← hread, ← hskipped, List.length_append, List.length_append]
          omega
        have hrest := ih _ hshort s' rfl
        rw [← hskipped, asciiBytes_append]
        simp only
        omega

/-- A text that begins with the mark of a command and ends in ASCII. -/
def IsMessage (m : String) : Prop :=
  ∃ front last, m.toList = uidMark.toList ++ (front ++ [last]) ∧ last.toNat < 128

/-- What the console sends are such messages. -/
theorem isMessage_of_mem_sent {m : String} {calls : List ConsoleCall} (h : m ∈ sent calls) :
    IsMessage m := by
  obtain ⟨uid, text, rfl, htext⟩ := exists_of_mem_sent h
  have hchars : (message uid text).toList =
      uidMark.toList ++ (uid.toList ++ ' ' :: text.toList) := by
    simp [message, uidMark]
  rcases List.eq_nil_or_concat' text.toList with hnil | ⟨init, last, hinit⟩
  · exact ⟨uid.toList, ' ', by rw [hchars, hnil], by decide⟩
  · refine ⟨uid.toList ++ ' ' :: init, last, ?_, ?_⟩
    · rw [hchars, hinit, List.append_assoc, List.cons_append]
    · exact htext last (by rw [hinit]; simp)

/-- The bytes of a message begin in ASCII. -/
theorem IsMessage.encode_eq_cons {m : String} (hm : IsMessage m) :
    ∃ rest, Utf8.encode m.toList = 117 :: rest := by
  obtain ⟨front, last, hchars, -⟩ := hm
  have hmark : Utf8.encode uidMark.toList = 117 :: (Utf8.encode uidMark.toList).tail := by decide
  rw [hchars, Utf8.encode_append, hmark]
  exact ⟨_, rfl⟩

/-- The bytes of a message end in ASCII. -/
theorem IsMessage.encode_eq_append {m : String} (hm : IsMessage m) :
    ∃ front last, Utf8.encode m.toList = front ++ [last] ∧ last.toNat < 128 := by
  obtain ⟨front, last, hchars, hlast⟩ := hm
  refine ⟨Utf8.encode (uidMark.toList ++ front), UInt8.ofNat last.toNat, ?_, ?_⟩
  · rw [hchars, ← List.append_assoc, Utf8.encode_append]
    simp [Utf8.encode_cons, Utf8.utf8EncodeChar_of_lt hlast]
  · rw [UInt8.toNat_ofNat']
    omega

/-- Messages one after the other begin in ASCII too. -/
theorem messageBytes_eq_nil_or_cons {ms : List String} (hms : ∀ m ∈ ms, IsMessage m) :
    ms = [] ∨ ∃ rest, messageBytes ms = 117 :: rest := by
  cases ms with
  | nil => exact .inl rfl
  | cons m ms =>
    obtain ⟨rest, hrest⟩ := (hms m List.mem_cons_self).encode_eq_cons
    refine .inr ⟨rest ++ messageBytes ms, ?_⟩
    rw [messageBytes_cons, hrest, List.cons_append]

/-- There are no bytes only if there are no messages. -/
theorem messageBytes_eq_nil_iff {ms : List String} (hms : ∀ m ∈ ms, IsMessage m) :
    messageBytes ms = [] ↔ ms = [] := by
  constructor
  · intro h
    rcases messageBytes_eq_nil_or_cons hms with hnil | ⟨rest, hrest⟩
    · exact hnil
    · rw [hrest] at h
      cases h
  · rintro rfl
    rfl

/-- A line of a read that is a message as it was sent: there is no line break in it, and
nothing to trim. -/
def IsLine (m : String) : Prop :=
  '\n' ∉ m.toList ∧ m.toList.getLast?.any Text.isWhiteSpace = false

/-- The line of a read without line breaks. -/
theorem sessionLines_of_no_newline {chunk : List UInt8} (hne : Utf8.lossy chunk ≠ [])
    (h : '\n' ∉ Utf8.lossy chunk) :
    sessionLines chunk = [Text.trim (String.ofList (Utf8.lossy chunk))] := by
  rw [sessionLines, Text.lines_eq_singleton (by rwa [String.toList_ofList])
    (by rwa [String.toList_ofList]), List.map_singleton]

/-- Trimming leaves a message alone just when there is no white space at its end. -/
theorem IsMessage.trim_eq_iff {m : String} (hm : IsMessage m) :
    Text.trim m = m ↔ m.toList.getLast?.any Text.isWhiteSpace = false := by
  constructor
  · intro h
    have hlast := Text.getLast?_trimChars m.toList
    have hchars := congrArg String.toList h
    rw [Text.trim, String.toList_ofList] at hchars
    rwa [hchars] at hlast
  · intro h
    obtain ⟨front, last, hchars, -⟩ := hm
    have hhead : m.toList.head?.any Text.isWhiteSpace = false := by
      rw [hchars]
      rfl
    rw [Text.trim, Text.trimChars_eq_self hhead h, String.ofList_toList]

/-- Bytes that begin like a message and have as many ASCII characters are the message. -/
theorem eq_of_asciiBytes_eq {chunk left front rest : List UInt8} {last : UInt8}
    (hall : chunk ++ left = (front ++ [last]) ++ rest) (hlast : last.toNat < 128)
    (hrest : rest = [] ∨ ∃ more, rest = 117 :: more)
    (hcount : Utf8.asciiBytes chunk = Utf8.asciiBytes (front ++ [last])) :
    chunk = front ++ [last] := by
  rcases List.append_eq_append_iff.mp hall with ⟨a, hfront, -⟩ | ⟨a, hchunk, hmore⟩
  · rcases List.eq_nil_or_concat' a with rfl | ⟨init, b, rfl⟩
    · rw [hfront, List.append_nil]
    · rw [← List.append_assoc] at hfront
      obtain ⟨rfl, hb⟩ := List.append_inj' hfront rfl
      obtain rfl := List.singleton_inj.mp hb
      rw [asciiBytes_append, asciiBytes_append] at hcount
      have hone : Utf8.asciiBytes [last] = 1 := by simp [Utf8.asciiBytes, hlast]
      omega
  · cases a with
    | nil => rw [hchunk, List.append_nil]
    | cons b a =>
      rcases hrest with rfl | ⟨more, rfl⟩
      · cases hmore
      · obtain ⟨rfl, -⟩ := List.cons.inj hmore
        rw [hchunk, asciiBytes_append _ (117 :: a)] at hcount
        have hone : 0 < Utf8.asciiBytes (117 :: a) := by simp [Utf8.asciiBytes]
        omega

/-- A session that reads one message and goes on, unless it is told to exit. -/
theorem commands_of_message {fs : FileSystem} {devUid m : String} {s : Source} (hm : IsMessage m)
    (hline : IsLine m) (hread : (s.read bufferSize).1 = Utf8.encode m.toList) :
    commands (handleSession fs devUid s) =
      m :: if processCommand devUid m = .exit then []
        else commands (handleSession fs devUid (s.read bufferSize).2) := by
  obtain ⟨rest, hrest⟩ := hm.encode_eq_cons
  have hbytes : s.bytes ≠ [] := by
    rw [Ne, ← Source.read_eq_nil_iff bufferSize_pos, hread, hrest]
    exact List.cons_ne_nil _ _
  have hlines : sessionLines (Utf8.encode m.toList) = [m] := by
    have htrim := hm.trim_eq_iff.mpr hline.2
    obtain ⟨front, last, hchars, -⟩ := hm
    rw [sessionLines_of_no_newline, Utf8.lossy_encode, String.ofList_toList, htrim]
    · rw [Utf8.lossy_encode, hchars]
      exact List.cons_ne_nil _ _
    · rw [Utf8.lossy_encode]
      exact hline.1
  have hmark : uidMark.toList.isPrefixOf m.toList = true := by
    obtain ⟨front, last, hchars, -⟩ := hm
    rw [List.isPrefixOf_iff_prefix, hchars]
    exact List.prefix_append _ _
  rw [commands_handleSession hbytes, hread, hlines, handleLines, if_pos hmark]
  by_cases hexit : processCommand devUid m = .exit
  · rw [if_pos hexit, if_pos hexit]
    rfl
  · rw [if_neg hexit, if_neg hexit]
    rfl

/-- The commands after the first read have no more ASCII characters than what is left. -/
theorem asciiTotal_after_le (fs : FileSystem) (devUid : String) (lines : List String)
    (s : Source) :
    asciiTotal (match (handleLines fs devUid lines s).2 with
      | none => []
      | some s' => commands (handleSession fs devUid s')) ≤ Utf8.asciiBytes s.bytes := by
  cases hnext : (handleLines fs devUid lines s).2 with
  | none => exact Nat.zero_le _
  | some s' =>
    obtain ⟨skipped, hskipped⟩ := handleLines_suffix fs devUid hnext
    have hrest := asciiTotal_handleSession_le fs devUid s'
    rw [← hskipped, asciiBytes_append]
    simp only
    omega

/-- When the commands of a session have all ASCII characters of what it reads, those of the
first read have all of that read, and there is no line break in it. -/
theorem asciiTotal_first {fs : FileSystem} {devUid : String} {s : Source} (hbytes : s.bytes ≠ [])
    (h : asciiTotal (commands (handleSession fs devUid s)) = Utf8.asciiBytes s.bytes) :
    asciiTotal (commands (handleLines fs devUid (sessionLines (s.read bufferSize).1)
        (s.read bufferSize).2).1) = Utf8.asciiBytes (s.read bufferSize).1 ∧
      '\n' ∉ Utf8.lossy (s.read bufferSize).1 := by
  have hfirst := asciiTotal_handleLines_le fs devUid (s.read bufferSize).1 (s.read bufferSize).2
  have hafter := asciiTotal_after_le fs devUid (sessionLines (s.read bufferSize).1)
    (s.read bufferSize).2
  rw [commands_handleSession hbytes, asciiTotal_append, ← s.read_append bufferSize,
    asciiBytes_append] at h
  rw [← List.count_eq_zero]
  omega

/-- When a session has all messages for its commands, its first read returns the first
message, and the message is a line. -/
theorem read_of_commands {fs : FileSystem} {devUid m : String} {ms : List String} {s : Source}
    (hms : ∀ m' ∈ m :: ms, IsMessage m') (hs : s.bytes = messageBytes (m :: ms))
    (h : commands (handleSession fs devUid s) = m :: ms) :
    (s.read bufferSize).1 = Utf8.encode m.toList ∧ IsLine m := by
  have hm := hms m List.mem_cons_self
  obtain ⟨rest, hrest⟩ := hm.encode_eq_cons
  have hbytes : s.bytes ≠ [] := by
    rw [hs, messageBytes_cons, hrest]
    exact List.cons_ne_nil _ _
  have hall := s.read_append bufferSize
  rw [hs, messageBytes_cons] at hall
  have htotal : asciiTotal (commands (handleSession fs devUid s)) = Utf8.asciiBytes s.bytes := by
    rw [h, hs, asciiBytes_messageBytes]
  obtain ⟨hfirst, hbreak⟩ := asciiTotal_first hbytes htotal
  obtain ⟨b, bs, hchunk⟩ := List.exists_cons_of_ne_nil
    ((Source.read_eq_nil_iff bufferSize_pos).not.mpr hbytes)
  have hpos : 0 < Utf8.asciiBytes (s.read bufferSize).1 := by
    rw [hchunk, hrest] at hall
    obtain ⟨rfl, -⟩ := List.cons.inj hall
    simp [hchunk, Utf8.asciiBytes]
  have hnonempty : Utf8.lossy (s.read bufferSize).1 ≠ [] := by
    rw [hchunk, Utf8.lossy_cons]
    exact List.cons_ne_nil _ _
  have hsub := commands_handleLines_sublist fs devUid (sessionLines (s.read bufferSize).1)
    (s.read bufferSize).2
  rw [sessionLines_of_no_newline hnonempty hbreak, List.sublist_singleton] at hsub
  rw [commands_handleSession hbytes] at h
  rw [sessionLines_of_no_newline hnonempty hbreak] at hfirst h
  rcases hsub with hnone | hone
  · rw [hnone] at hfirst
    have hzero : asciiTotal [] = 0 := rfl
    omega
  · rw [hone] at hfirst h
    obtain ⟨hline, -⟩ := List.cons.inj h
    rw [hline] at hfirst
    have hcount : Utf8.asciiBytes (s.read bufferSize).1 =
        Utf8.asciiBytes (Utf8.encode m.toList) := by
      rw [← hfirst, Utf8.asciiBytes_encode, asciiTotal, List.flatMap_singleton]
    have hread : (s.read bufferSize).1 = Utf8.encode m.toList := by
      obtain ⟨front, last, hends, hlast⟩ := hm.encode_eq_append
      rw [hends] at hall hcount ⊢
      refine eq_of_asciiBytes_eq hall hlast ?_ hcount
      rcases messageBytes_eq_nil_or_cons fun m' hm' => hms m' (List.mem_cons_of_mem m hm') with
        rfl | hmore
      · exact .inl rfl
      · exact .inr hmore
    rw [hread, Utf8.lossy_encode] at hbreak hline
    rw [String.ofList_toList] at hline
    exact ⟨hread, hbreak, hm.trim_eq_iff.mp hline⟩

/-- All of a list but the last element. -/
theorem mem_dropLast_cons {m m' : String} {ms : List String} :
    m' ∈ (m :: ms).dropLast ↔ ms ≠ [] ∧ (m' = m ∨ m' ∈ ms.dropLast) := by
  cases ms with
  | nil => simp
  | cons m'' ms => simp

/-- A session has all messages for its commands exactly when every read returns one
message, every message is a line and none but the last one tells the agent to exit. -/
theorem commands_handleSession_iff {fs : FileSystem} {devUid : String} {ms : List String}
    {s : Source} (hms : ∀ m ∈ ms, IsMessage m) (hs : s.bytes = messageBytes ms) :
    commands (handleSession fs devUid s) = ms ↔
      Source.CutInto bufferSize (ms.map fun m => (Utf8.encode m.toList).length) s.cuts ∧
        (∀ m ∈ ms, IsLine m) ∧ ∀ m ∈ ms.dropLast, processCommand devUid m ≠ .exit := by
  induction ms generalizing s with
  | nil =>
    rw [handleSession, Source.serve_of_nil hs]
    simp [commands, Source.CutInto]
  | cons m ms ih =>
    have hm := hms m List.mem_cons_self
    have hms' : ∀ m' ∈ ms, IsMessage m' := fun m' hm' => hms m' (List.mem_cons_of_mem m hm')
    have hcons : s.bytes = Utf8.encode m.toList ++ messageBytes ms := by
      rw [hs, messageBytes_cons]
    have hleft : (s.read bufferSize).1 = Utf8.encode m.toList →
        (s.read bufferSize).2.bytes = messageBytes ms := by
      intro hread
      have hall := s.read_append bufferSize
      rwa [hread, hcons, List.append_cancel_left_eq] at hall
    have hcut : (s.read bufferSize).1 = Utf8.encode m.toList ↔ _ := Source.read_eq_iff hcons
    rw [List.map_cons, Source.CutInto]
    simp only [messageBytes_eq_nil_iff hms'] at hcut
    simp only [List.map_eq_nil_iff, ← hcut, mem_dropLast_cons]
    constructor
    · intro h
      obtain ⟨hread, hline⟩ := read_of_commands hms hs h
      rw [commands_of_message hm hline hread, List.cons.injEq] at h
      by_cases hexit : processCommand devUid m = .exit
      · rw [if_pos hexit] at h
        obtain rfl := h.2
        refine ⟨⟨hread, trivial⟩, ?_, ?_⟩
        · intro m' hm'
          rwa [List.mem_singleton.mp hm']
        · rintro m' ⟨hne, -⟩
          exact absurd rfl hne
      · rw [if_neg hexit, ih hms' (hleft hread)] at h
        obtain ⟨-, hcuts, hlines, hexits⟩ := h
        refine ⟨⟨hread, hcuts⟩, List.forall_mem_cons.mpr ⟨hline, hlines⟩, ?_⟩
        rintro m' ⟨-, rfl | hm'⟩
        · exact hexit
        · exact hexits m' hm'
    · rintro ⟨⟨hread, hcuts⟩, hlines, hexits⟩
      rw [commands_of_message hm (hlines m List.mem_cons_self) hread, List.cons.injEq]
      refine ⟨rfl, ?_⟩
      by_cases hexit : processCommand devUid m = .exit
      · rw [if_pos hexit]
        by_contra hne
        exact hexits m ⟨fun h => hne h.symm, .inl rfl⟩ hexit
      · rw [if_neg hexit, ih hms' (hleft hread)]
        refine ⟨hcuts, fun m' hm' => hlines m' (List.mem_cons_of_mem m hm'), ?_⟩
        intro m' hm'
        refine hexits m' ⟨?_, .inr hm'⟩
        rintro rfl
        cases hm'

/-- The reader takes at least one byte. -/
theorem bufReaderSize_pos : 0 < bufReaderSize := by decide

/-- There are as many line breaks in the answer as in the identity. -/
theorem newline_mem_helloText_iff {uid : String} : newline ∈ helloText uid ↔ '\n' ∈ uid.toList := by
  have hcount : (helloText uid).count newline = ("hello, ".toList ++ uid.toList).count '\n' :=
    Utf8.count_encode (c := '\n') (by decide) _
  have hnone : "hello, ".toList.count '\n' = 0 := by decide
  rw [← List.count_pos_iff, hcount, List.count_append, hnone, Nat.zero_add, List.count_pos_iff]

/-- The agent does not accept an answer with a line break in it. -/
theorem connectAndAuth_of_newline {uid : String} (huid : '\n' ∈ uid.toList) (rest : List UInt8)
    (cuts : ℕ → ℕ) : connectAndAuth uid ⟨hello uid ++ rest, cuts⟩ = none := by
  obtain ⟨front, back, hparts, hfront⟩ :=
    List.eq_append_cons_of_mem (newline_mem_helloText_iff.mpr huid)
  have hbytes : (⟨hello uid ++ rest, cuts⟩ : Source).bytes =
      front ++ newline :: (back ++ newline :: rest) := by
    simp only [hello, hparts, List.append_assoc, List.cons_append, List.nil_append]
  obtain ⟨k, -, -, hread⟩ := Source.exists_readUntil bufReaderSize_pos hbytes hfront
  have hne : front ++ [newline] ≠ hello uid := by
    intro h
    have hlen := congrArg List.length h
    simp only [hello, hparts, List.length_append, List.length_cons, List.length_nil] at hlen
    omega
  rw [connectAndAuth, hread]
  simp only [if_neg hne]

/-- Otherwise it goes on after the first read that has all of the answer. -/
theorem exists_connectAndAuth {uid : String} (huid : '\n' ∉ uid.toList) (rest : List UInt8)
    (cuts : ℕ → ℕ) :
    ∃ k, (hello uid).length ≤ Source.readEnd bufReaderSize cuts k ∧
      (∀ j, (hello uid).length ≤ Source.readEnd bufReaderSize cuts j → k ≤ j) ∧
      connectAndAuth uid ⟨hello uid ++ rest, cuts⟩ =
        some ⟨rest.drop (Source.readEnd bufReaderSize cuts k - (hello uid).length),
          fun i => cuts (i + k)⟩ := by
  have hbytes : (⟨hello uid ++ rest, cuts⟩ : Source).bytes = helloText uid ++ newline :: rest := by
    simp only [hello, List.append_assoc, List.cons_append, List.nil_append]
  have hlen : (hello uid).length = (helloText uid).length + 1 := by
    rw [hello, List.length_append, List.length_singleton]
  obtain ⟨k, hk, hfirst, hread⟩ := Source.exists_readUntil bufReaderSize_pos hbytes
    (newline_mem_helloText_iff.not.mpr huid)
  simp only at hk hfirst hread
  refine ⟨k, by omega, fun j hj => hfirst j (by omega), ?_⟩
  have hdrop : (hello uid).drop (Source.readEnd bufReaderSize cuts k) = [] :=
    List.drop_eq_nil_of_le (by omega)
  rw [connectAndAuth, hread, ← hello, List.drop_append, hdrop, List.nil_append]
  simp only [if_true]

/-- The reads before the session end with the answer to the greeting, and each read of the
session returns one message. -/
def CutAtMessages (cuts : ℕ → ℕ) (answer : ℕ) (messages : List ℕ) : Prop :=
  ∃ k, Source.readEnd bufReaderSize cuts k = answer ∧
    Source.CutInto bufferSize messages fun i => cuts (i + k)

/-- Messages that are not all there have fewer ASCII characters. -/
theorem eq_zero_of_asciiTotal_le {ms : List String} {n : ℕ} (hms : ∀ m ∈ ms, IsMessage m)
    (hne : ms ≠ []) (h : asciiTotal ms ≤ Utf8.asciiBytes ((messageBytes ms).drop n)) : n = 0 := by
  rw [← asciiBytes_messageBytes] at h
  rcases messageBytes_eq_nil_or_cons hms with hnil | ⟨rest, hrest⟩
  · exact absurd hnil hne
  · cases n with
    | zero => rfl
    | succ n =>
      have hdrop : Utf8.asciiBytes (rest.drop n) ≤ Utf8.asciiBytes rest :=
        (List.drop_sublist n rest).countP_le
      have hcons : Utf8.asciiBytes (117 :: rest) = Utf8.asciiBytes rest + 1 := by
        simp [Utf8.asciiBytes]
      rw [hrest, hcons, List.drop_succ_cons] at h
      omega

/-- **Commands arrive as they were sent** exactly when there are none, or the identity of
the agent has no line break, the agent's reads before the session end with the answer to its
greeting, each read of the session returns one message, every message is a line that
trimming leaves as it is, and none but the last one tells the agent to exit. -/
theorem commands_framed_iff {fs : FileSystem} {devUid : String} {calls : List ConsoleCall}
    {cuts : ℕ → ℕ} :
    runSession fs devUid ⟨hello devUid ++ messageBytes (sent calls), cuts⟩ = sent calls ↔
      sent calls = [] ∨
        '\n' ∉ devUid.toList ∧
          CutAtMessages cuts (hello devUid).length
            ((sent calls).map fun m => (Utf8.encode m.toList).length) ∧
          (∀ m ∈ sent calls, IsLine m) ∧
          ∀ m ∈ (sent calls).dropLast, processCommand devUid m ≠ .exit := by
  have hms : ∀ m ∈ sent calls, IsMessage m := fun m hm => isMessage_of_mem_sent hm
  rw [runSession]
  by_cases huid : '\n' ∈ devUid.toList
  · rw [connectAndAuth_of_newline huid]
    simp only
    constructor
    · intro h
      exact .inl h.symm
    · rintro (h | ⟨hno, -⟩)
      · exact h.symm
      · exact absurd huid hno
  · obtain ⟨k, hk, hfirst, hconnect⟩ :=
      exists_connectAndAuth huid (messageBytes (sent calls)) cuts
    rw [hconnect]
    simp only
    constructor
    · intro h
      by_cases hne : sent calls = []
      · exact .inl hne
      · right
        have hbound := asciiTotal_handleSession_le fs devUid
          ⟨(messageBytes (sent calls)).drop
            (Source.readEnd bufReaderSize cuts k - (hello devUid).length), fun i => cuts (i + k)⟩
        rw [h] at hbound
        have hzero := eq_zero_of_asciiTotal_le hms hne hbound
        rw [hzero, List.drop_zero, commands_handleSession_iff hms rfl] at h
        exact ⟨huid, ⟨k, by omega, h.1⟩, h.2⟩
    · rintro (h | ⟨-, ⟨j, hj, hcuts⟩, hrest⟩)
      · rw [h, handleSession, Source.serve_of_nil (by simp [messageBytes])]
        rfl
      · have hle := (Source.readEnd_strictMono bufReaderSize_pos cuts).monotone
          (hfirst j (by omega))
        have hend : Source.readEnd bufReaderSize cuts k = (hello devUid).length := by omega
        obtain rfl := (Source.readEnd_strictMono bufReaderSize_pos cuts).injective
          (hend.trans hj.symm)
        rw [hend, Nat.sub_self, List.drop_zero, commands_handleSession_iff hms rfl]
        exact ⟨hcuts, hrest⟩

/-- A console without files. -/
def noFiles : LocalFiles where
  metadata := fun _ => none

/-- Two commands typed one after the other. -/
def twoCalls : List ConsoleCall := [⟨noFiles, "u", [], "ls"⟩, ⟨noFiles, "u", [], "id"⟩]

/-- When both messages come in one read, the agent takes them for one command. -/
theorem commands_merged_in_one_read :
    runSession openFileSystem "u" ⟨hello "u" ++ messageBytes (sent twoCalls),
      fun i => if i = 0 then 8 else 4095⟩ ≠ sent twoCalls := by
  have hsent : sent twoCalls = ["uid:u ls", "uid:u id"] := by decide
  have hsession : runSession openFileSystem "u" ⟨hello "u" ++ messageBytes (sent twoCalls),
      fun i => if i = 0 then 8 else 4095⟩ = ["uid:u lsuid:u id"] := by
    rw [hsent]
    decide
  rw [hsession, hsent]
  decide

end LinuxAgent.AgentCli
