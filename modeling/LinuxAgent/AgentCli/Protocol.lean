import LinuxAgent.Lib.Source
import LinuxAgent.Lib.Text
import LinuxAgent.Lib.Utf8
import Mathlib.Data.List.Flatten
import Mathlib.Tactic.NthRewrite

/-!
# The remote console

The console and the agents exchange commands, their output and files over one stream of
bytes each way. Commands and output are text without a mark at the end of a message; a
file is a header, the content and an end marker. Both sides look at what one read
returns.
-/

namespace LinuxAgent.AgentCli

/-- The size of the buffers for reading. -/
def bufferSize : ℕ := 4096

/-- `FILE_START_MARKER`. -/
def startMarker : List Char := "\x01FILE_START\x01".toList

/-- `FILE_END_MARKER`. -/
def endMarker : List Char := "\x02FILE_END\x02".toList

/-- The bytes of the marker before a file. -/
def startBytes : List UInt8 := Utf8.encode startMarker

/-- The bytes of the marker after a file. -/
def endBytes : List UInt8 := Utf8.encode endMarker

/-- A line break as a byte. -/
def newline : UInt8 := 10

/-- The header of a file. -/
def fileHeader (size : ℕ) (dst : String) : List Char :=
  startMarker ++ Nat.toDigits 10 size ++ ':' :: dst.toList

/-- What the loops that send a file have read of it in the end. -/
def fileBody (file : Source) : List UInt8 :=
  (file.collect (fun _ => bufferSize) file.bytes.length).1

/-- What `send_file` of the agent writes. -/
def sendFile (file : Source) (dst : String) : List UInt8 :=
  Utf8.encode (fileHeader file.bytes.length dst ++ ['\n']) ++ fileBody file ++ endBytes

/-- What `send_file_to_client_with_writer` of the console writes. -/
def sendFileToClientWithWriter (file : Source) (dst : String) : List UInt8 :=
  Utf8.encode (fileHeader file.bytes.length dst) ++ fileBody file ++ endBytes

/-- Why a file is not received. -/
inductive ReceiveError where
  /-- `FILE_START_MARKER not found in raw data` -/
  | markerNotFound
  /-- `header newline not found` -/
  | newlineNotFound
  /-- `header is not valid UTF-8` -/
  | headerNotUtf8
  /-- `header missing marker`, on the agent `bad marker` -/
  | missingMarker
  /-- `header bad format`, on the agent `bad format` -/
  | badFormat
  /-- `header bad size`, on the agent `bad size` -/
  | badSize
  /-- The file or a directory cannot be created. -/
  | create (error : String)
  /-- The stream ends before the end marker. -/
  | earlyEof
  /-- `end marker mismatch: got` and what came instead -/
  | endMarkerMismatch (got : List Char)
  /-- `invalid end marker` -/
  | invalidEndMarker
  deriving DecidableEq

/-- Creating a file for writing, and the directories above it. -/
structure FileSystem where
  create : String → Except String Unit

/-- What comes of receiving a file. -/
structure Received where
  /-- The file that was created, and what was written to it. -/
  written : Option (String × List UInt8)
  result : Except ReceiveError Unit
  /-- What is still to be read. -/
  rest : List UInt8

/-- The size and the path in a header. -/
def parseHeader (header : List Char) : Except ReceiveError (ℕ × List Char) :=
  if startMarker.isPrefixOf header then
    match Text.splitOnce ':' (header.drop startMarker.length) with
    | none => .error .badFormat
    | some (sizeStr, path) =>
      match Text.parseU64 sizeStr with
      | none => .error .badSize
      | some size => .ok (size, path)
  else .error .missingMarker

/-- A file that was not even created. -/
def Received.failed (e : ReceiveError) (s : Source) : Received × Source :=
  ({ written := none, result := .error e, rest := s.bytes }, s)

/-- The end of a file on the console. -/
def checkEndMarker (path : String) (content : List UInt8) (s : Source) : Received × Source :=
  let tail := s.readExact endBytes.length
  let result :=
    match tail.1 with
    | none => .error .earlyEof
    | some got =>
      if got = endBytes then .ok () else .error (.endMarkerMismatch (Utf8.lossy got))
  ({ written := some (path, content), result := result, rest := tail.2.bytes }, tail.2)

/-- The content of a file on the console: what has come with the header, and what is
still missing. -/
def receiveBody (path : String) (size : ℕ) (available : List UInt8) (s : Source) :
    Received × Source :=
  let first := available.take size
  let rest := s.collect (fun need => min bufferSize need) (size - first.length)
  checkEndMarker path (first ++ rest.1) rest.2

/-- `receive_file_from_bytes` of the console. -/
def receiveFileFromBytes (fs : FileSystem) (rawData : List UInt8) (s : Source) :
    Received × Source :=
  match Text.position startBytes rawData with
  | none => Received.failed .markerNotFound s
  | some startIdx =>
    match Text.splitOnce newline (rawData.drop startIdx) with
    | none => Received.failed .newlineNotFound s
    | some (headerBytes, available) =>
      match Utf8.decode headerBytes with
      | none => Received.failed .headerNotUtf8 s
      | some headerStr =>
        match parseHeader headerStr with
        | .error e => Received.failed e s
        | .ok (size, path) =>
          let path := String.ofList (Text.trimEndMatches '\r' path)
          match fs.create path with
          | .error e => Received.failed (.create e) s
          | .ok () => receiveBody path size available s

/-- `receive_file` of the agent. Every read fills the whole buffer, and another end marker
is only logged. -/
def receiveFile (fs : FileSystem) (header : String) (s : Source) : Received × Source :=
  match parseHeader header.toList with
  | .error e => Received.failed e s
  | .ok (size, path) =>
    let path := String.ofList path
    match fs.create path with
    | .error e => Received.failed (.create e) s
    | .ok () =>
      let body := s.collect (fun _ => bufferSize) size
      let tail := body.2.readExact endBytes.length
      let result :=
        match tail.1 with
        | none => .error .earlyEof
        | some got => if (Utf8.decode got).isSome then .ok () else .error .invalidEndMarker
      ({ written := some (path, body.1), result := result, rest := tail.2.bytes }, tail.2)

/-- What `client_read_loop` does with what one read returns. -/
inductive ServerEvent where
  /-- The agent tells its identity. -/
  | register (uid : String)
  | heartbeat
  /-- Output of a command is shown. -/
  | output (data : String)
  | file (received : Received)

/-- The greeting of an agent. -/
def greeting : String := "I am agent client, my uid is "

/-- Text from the agent. -/
def textEvent (data : String) : ServerEvent :=
  if greeting.toList.isPrefixOf data.toList then
    .register (Text.trim (String.ofList (data.toList.drop greeting.length)))
  else if Text.trim data = "heartbeat" then .heartbeat
  else .output data

/-- The body of the loop of `client_read_loop`. -/
def handleClientData (fs : FileSystem) (rawData : List UInt8) (s : Source) :
    List ServerEvent × Option Source :=
  if (Text.position startBytes rawData).isSome then
    let received := receiveFileFromBytes fs rawData s
    ([.file received.1], some received.2)
  else ([textEvent (String.ofList (Utf8.lossy rawData))], some s)

/-- `client_read_loop` of the console. -/
def clientReadLoop (fs : FileSystem) (s : Source) : List ServerEvent :=
  s.serve bufferSize (handleClientData fs)

/-- What `process_command` does with a command. -/
inductive CommandOutcome where
  /-- The command is for another agent. -/
  | ignored
  /-- `Command error: missing UID` -/
  | missingUid
  /-- `Command error: missing action` -/
  | missingAction
  /-- The session ends. -/
  | exit
  | rkill
  /-- `get_file requires src and dst` -/
  | getFileArguments
  | getFile (src dst : String)
  | getKernelSrc
  | shell (command : String)
  deriving DecidableEq

/-- The mark of a command. -/
def uidMark : String := "uid:"

/-- `process_command` of the agent. -/
def processCommand (devUid : String) (cmd : String) : CommandOutcome :=
  if !uidMark.toList.isPrefixOf cmd.toList then .ignored
  else
    match Text.words (String.ofList (cmd.toList.drop 4)) with
    | [] => .missingUid
    | uid :: actions =>
      if uid ≠ devUid then .ignored
      else
        match actions with
        | [] => .missingAction
        | action :: arguments =>
          if action = "exit" then .exit
          else if action = "rkill" then .rkill
          else if action = "get_file" then
            match arguments with
            | src :: dst :: _ => .getFile src dst
            | _ => .getFileArguments
          else if action = "get_kernel_src" then .getKernelSrc
          else .shell (" ".intercalate actions)

/-- What `handle_session` does with a line. -/
inductive AgentEvent where
  /-- The line is passed to `process_command`. -/
  | command (cmd : String)
  | file (received : Received)

/-- The lines of what one read returns, as `handle_session` looks at them. -/
def sessionLines (chunk : List UInt8) : List String :=
  (Text.lines (String.ofList (Utf8.lossy chunk))).map Text.trim

/-- The loop over the lines in `handle_session`. -/
def handleLines (fs : FileSystem) (devUid : String) :
    List String → Source → List AgentEvent × Option Source
  | [], s => ([], some s)
  | line :: lines, s =>
    if uidMark.toList.isPrefixOf line.toList then
      if processCommand devUid line = .exit then ([.command line], none)
      else
        let rest := handleLines fs devUid lines s
        (.command line :: rest.1, rest.2)
    else if startMarker.isPrefixOf line.toList then
      let received := receiveFile fs line s
      let rest := handleLines fs devUid lines received.2
      (.file received.1 :: rest.1, rest.2)
    else handleLines fs devUid lines s

/-- `handle_session` of the agent. -/
def handleSession (fs : FileSystem) (devUid : String) (s : Source) : List AgentEvent :=
  s.serve bufferSize fun chunk s => handleLines fs devUid (sessionLines chunk) s

/-- The buffer has room for at least one byte. -/
theorem bufferSize_pos : 0 < bufferSize := by decide

/-- The loops that send a file send all of it. -/
theorem fileBody_eq (file : Source) : fileBody file = file.bytes :=
  file.collect_length fun _ _ => bufferSize_pos

/-- Reading the end marker reads on. -/
theorem readExact_suffix (count : ℕ) (s : Source) : (s.readExact count).2.bytes <:+ s.bytes := by
  rw [(s.readExact_eq count).2]
  exact List.drop_suffix _ _

/-- Collecting reads on. -/
theorem collect_suffix (limit : ℕ → ℕ) (need : ℕ) (s : Source) :
    (s.collect limit need).2.bytes <:+ s.bytes :=
  ⟨(s.collect limit need).1, s.collect_append limit need⟩

/-- Receiving a file on the console reads on. -/
theorem receiveFileFromBytes_suffix (fs : FileSystem) (rawData : List UInt8) (s : Source) :
    (receiveFileFromBytes fs rawData s).2.bytes <:+ s.bytes := by
  rw [receiveFileFromBytes]
  split
  · exact List.suffix_refl _
  · simp only
    split
    · exact List.suffix_refl _
    · split
      · exact List.suffix_refl _
      · split
        · exact List.suffix_refl _
        · split
          · exact List.suffix_refl _
          · exact (readExact_suffix _ _).trans (collect_suffix _ _ _)

/-- Receiving a file on the agent reads on. -/
theorem receiveFile_suffix (fs : FileSystem) (header : String) (s : Source) :
    (receiveFile fs header s).2.bytes <:+ s.bytes := by
  rw [receiveFile]
  split
  · exact List.suffix_refl _
  · simp only
    split
    · exact List.suffix_refl _
    · exact (readExact_suffix _ _).trans (collect_suffix _ _ _)

/-- The console reads on. -/
theorem handleClientData_readsOn (fs : FileSystem) : Source.ReadsOn (handleClientData fs) := by
  intro rawData s s' h
  rw [handleClientData] at h
  split at h
  · obtain rfl := Option.some.inj h
    exact receiveFileFromBytes_suffix fs rawData s
  · obtain rfl := Option.some.inj h
    exact List.suffix_refl _

/-- The agent reads on from line to line. -/
theorem handleLines_suffix (fs : FileSystem) (devUid : String) {lines : List String} {s s' : Source}
    (h : (handleLines fs devUid lines s).2 = some s') : s'.bytes <:+ s.bytes := by
  induction lines generalizing s with
  | nil =>
    obtain rfl := Option.some.inj h
    exact List.suffix_refl _
  | cons line lines ih =>
    rw [handleLines] at h
    split at h
    · split at h
      · cases h
      · exact ih h
    · split at h
      · exact (ih h).trans (receiveFile_suffix fs line s)
      · exact ih h

/-- The agent reads on. -/
theorem handleSession_readsOn (fs : FileSystem) (devUid : String) :
    Source.ReadsOn fun chunk s => handleLines fs devUid (sessionLines chunk) s :=
  fun _ _ _ h => handleLines_suffix fs devUid h

/-- The header that a text starts with, if it parses. -/
theorem eq_of_parseHeader {header path : List Char} {size : ℕ}
    (h : parseHeader header = .ok (size, path)) :
    ∃ sizeStr, Text.parseU64 sizeStr = some size ∧ ':' ∉ sizeStr ∧
      header = startMarker ++ (sizeStr ++ ':' :: path) := by
  rw [parseHeader] at h
  split at h
  · next hmarker =>
    split at h
    · cases h
    · next sizeStr tail hsplit =>
      split at h
      · cases h
      · next hsize =>
        obtain ⟨rfl, rfl⟩ := Prod.mk.inj (Except.ok.inj h)
        obtain ⟨hrest, hcolon⟩ := Text.eq_of_splitOnce hsplit
        refine ⟨sizeStr, hsize, hcolon, ?_⟩
        obtain ⟨rest, rfl⟩ := List.isPrefixOf_iff_prefix.mp hmarker
        rw [List.drop_left] at hrest
        rw [hrest]
  · cases h

/-- A header starts with the marker. -/
theorem isPrefixOf_fileHeader (size : ℕ) (dst : String) :
    startMarker.isPrefixOf (fileHeader size dst) = true := by
  rw [List.isPrefixOf_iff_prefix, fileHeader, List.append_assoc]
  exact List.prefix_append _ _

/-- The header of a file parses. -/
theorem parseHeader_fileHeader {size : ℕ} (hsize : size < UInt64.size) (dst : String) :
    parseHeader (fileHeader size dst) = .ok (size, dst.toList) := by
  have hcolon : ':' ∉ Nat.toDigits 10 size := Text.not_mem_toDigits (by decide) size
  rw [parseHeader, if_pos (isPrefixOf_fileHeader size dst), fileHeader, List.append_assoc,
    List.drop_left, Text.splitOnce_append hcolon]
  simp only [Text.parseU64_toDigits hsize]

/-- Trimming a line only drops characters. -/
theorem trim_sublist (line : String) :
    List.Sublist (Text.trim line).toList line.toList := by
  obtain ⟨before, after, hparts, -⟩ := Text.exists_trimChars line.toList
  rw [Text.trim, String.toList_ofList]
  nth_rewrite 2 [hparts]
  exact (List.sublist_append_right _ _).trans (List.sublist_append_left _ _)

/-- The lines of a read together have only characters of the read, and no line break. -/
theorem flatMap_sessionLines_sublist (chunk : List UInt8) :
    List.Sublist ((sessionLines chunk).flatMap String.toList)
      ((Utf8.lossy chunk).filter fun c => c ≠ '\n') := by
  have htrim := List.Sublist.flatMap_right (Text.lines (String.ofList (Utf8.lossy chunk)))
    fun line _ => trim_sublist line
  rwa [Text.flatMap_lines, String.toList_ofList, ← List.flatMap_map] at htrim

/-- There is no line break in a line of a read. -/
theorem newline_not_mem_of_mem_sessionLines {chunk : List UInt8} {line : String}
    (h : line ∈ sessionLines chunk) : '\n' ∉ line.toList := by
  intro hmem
  have hall := (flatMap_sessionLines_sublist chunk).subset (List.mem_flatMap.mpr ⟨line, h, hmem⟩)
  simp at hall

/-- The bytes of a header. -/
def headerBytes (size : ℕ) (dst : String) : List UInt8 := Utf8.encode (fileHeader size dst)

/-- The bytes of a header start with those of the marker. -/
theorem headerBytes_eq (size : ℕ) (dst : String) :
    headerBytes size dst =
      startBytes ++ Utf8.encode (Nat.toDigits 10 size ++ ':' :: dst.toList) := by
  rw [headerBytes, fileHeader, List.append_assoc, Utf8.encode_append]
  rfl

/-- What the agent sends. -/
theorem sendFile_eq (file : Source) (dst : String) :
    sendFile file dst =
      headerBytes file.bytes.length dst ++ newline :: (file.bytes ++ endBytes) := by
  have hnewline : Utf8.encode ['\n'] = [newline] := by decide
  rw [sendFile, fileBody_eq, Utf8.encode_append, hnewline, headerBytes]
  simp only [List.append_assoc, List.cons_append, List.nil_append]

/-- What the console sends. -/
theorem sendFileToClientWithWriter_eq (file : Source) (dst : String) :
    sendFileToClientWithWriter file dst =
      headerBytes file.bytes.length dst ++ (file.bytes ++ endBytes) := by
  rw [sendFileToClientWithWriter, fileBody_eq, headerBytes, List.append_assoc]

/-- A character that is no digit does not occur in a number. -/
theorem count_toDigits {c : Char} (hc : c.isDigit = false) (n : ℕ) :
    (Nat.toDigits 10 n).count c = 0 :=
  List.count_eq_zero.mpr (Text.not_mem_toDigits hc n)

/-- A header is on one line if its path is. -/
theorem newline_not_mem_headerBytes {dst : String} (hdst : '\n' ∉ dst.toList) (size : ℕ) :
    newline ∉ headerBytes size dst := by
  have hcount : (headerBytes size dst).count newline = (fileHeader size dst).count '\n' :=
    Utf8.count_encode (c := '\n') (by decide) _
  rw [← List.count_eq_zero, hcount, fileHeader, List.count_append, List.count_append,
    List.count_cons, count_toDigits (by decide), List.count_eq_zero.mpr hdst]
  decide

/-- The start marker has its control character twice. -/
theorem count_startMarker : startMarker.count '\x01' = 2 := by decide

/-- How often the control character of the markers occurs in a header. -/
theorem count_headerBytes (size : ℕ) (dst : String) :
    (headerBytes size dst).count 1 = dst.toList.count '\x01' + 2 := by
  have hcount : (headerBytes size dst).count 1 = (fileHeader size dst).count '\x01' :=
    Utf8.count_encode (c := '\x01') (by decide) _
  rw [hcount, fileHeader, List.count_append, List.count_append, count_startMarker, List.count_cons,
    count_toDigits (by decide)]
  simp [Nat.add_comm]

/-- It occurs at least so often in anything that parses as a header with that path. -/
theorem count_of_parseHeader {header path : List Char} {size : ℕ}
    (h : parseHeader header = .ok (size, path)) :
    path.count '\x01' + 2 ≤ header.count '\x01' := by
  obtain ⟨sizeStr, -, -, rfl⟩ := eq_of_parseHeader h
  rw [List.count_append, List.count_append, count_startMarker, List.count_cons]
  omega

/-- A file system where every file can be created. -/
def openFileSystem : FileSystem where
  create := fun _ => .ok ()

/-- A file of two bytes, read from the disk at once. -/
def shortFile : Source := ⟨[104, 105], fun _ => bufferSize⟩

end LinuxAgent.AgentCli
