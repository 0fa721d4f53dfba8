import LinuxAgent.Lib.Text

/-!
# Commands at the console

A line typed at the console is a command for the console itself, a file to send, or a
message for the selected agent. A message is the mark `uid:`, the identity of the agent
and the text of the command, with nothing after it.
-/

namespace LinuxAgent.AgentCli

/-- The components of a path, as `Path::components` gives them, without the root. -/
def components (path : String) : List String :=
  match Text.split '/' path with
  | [] => []
  | first :: rest =>
    [first].filter (fun c => c ≠ "") ++ rest.filter fun c => c ≠ "" && c ≠ "."

/-- `Path::file_name`. -/
def fileName (path : String) : Option String :=
  (components path).getLast?.filter fun c => c ≠ "." && c ≠ ".."

/-- `Path::parent`, up to repeated separators. -/
def parent (path : String) : Option String :=
  if components path = [] then none
  else
    let root := if path.toList.head? = some '/' then "/" else ""
    some (root ++ "/".intercalate (components path).dropLast)

/-- `Path::join` with a file name. -/
def join (path name : String) : String :=
  if path.toList.getLast?.any (· ≠ '/') then path ++ "/" ++ name else path ++ name

/-- The characters that `handle_console` keeps: those for which `is_ascii_graphic` or
`is_ascii_whitespace` holds. -/
def isConsoleChar (c : Char) : Bool :=
  (0x21 ≤ c.toNat && c.toNat ≤ 0x7e) || c.toNat = 0x20 || c.toNat = 0x09 || c.toNat = 0x0a ||
    c.toNat = 0x0c || c.toNat = 0x0d

/-- A command without other characters. -/
structure Command where
  text : String
  clean : text.toList.all isConsoleChar = true

/-- `clean_cmd` in `handle_console`. -/
def cleanCmd (cmd : String) : Command where
  text := String.ofList (cmd.toList.filter isConsoleChar)
  clean := by
    rw [String.toList_ofList, List.all_eq_true]
    exact fun c hc => (List.mem_filter.mp hc).2

/-- `HISTORY_SIZE`. -/
def historySize : ℕ := 50

/-- `cmd_to_run` in `handle_console`: the command itself or one of the history. -/
def cmdToRun (history : List Command) (cmd : Command) : Option Command :=
  if cmd.text = "!!" then history.reverse.find? fun c => c.text ≠ "!!"
  else
    match cmd.text.toList with
    | '!' :: number =>
      match Text.parseU64 number with
      | some idx => if 0 < idx ∧ idx ≤ history.length then history[idx - 1]? else none
      | none => some cmd
    | _ => some cmd

/-- The commands that do not go into the history. -/
def ignoredInHistory : List String :=
  ["history", "list", "clear", "deselect", "exit", "quit", "bye", "help", "?", "!!"]

/-- Commands that only look up the history. -/
def isHistoryOp (lower : String) : Bool :=
  lower = "!!" ||
    match lower.toList with
    | '!' :: number => number.all Char.isDigit
    | _ => false

/-- How `handle_console` saves a command in the history. -/
def saveHistory (history : List Command) (cmd : Command) : List Command :=
  let lower := String.ofList ((Text.trimChars cmd.text.toList).map Char.toLower)
  if isHistoryOp lower || lower ∈ ignoredInHistory then history
  else (if historySize ≤ history.length then history.tail else history) ++ [cmd]

/-- What the console can find out about its own files: whether there is something at a
path, and if so whether it is a directory. -/
structure LocalFiles where
  metadata : String → Option Bool

/-- `final_dst` in the branch of `get_file`. -/
def finalDst (files : LocalFiles) (src dst : String) : Option String :=
  match fileName src with
  | none => none
  | some srcFilename =>
    match files.metadata dst with
    | some true => some (join dst srcFilename)
    | some false => some dst
    | none =>
      match parent dst with
      | none => none
      | some dir => if (files.metadata dir).isSome then some dst else none

/-- What `handle_console` does with a command. -/
inductive ConsoleAction where
  /-- Nothing but a notice: no such command in the history, a bad path, no client. -/
  | refused
  /-- Something that only the console itself does. -/
  | console
  /-- `send_file_to_client_with_writer` is called. -/
  | sendFile (src dst : String)
  /-- A message is written to the selected client. -/
  | send (message : String)
  deriving DecidableEq

/-- A message to the client with this identity. -/
def message (uid text : String) : String := "uid:" ++ uid ++ " " ++ text

/-- A message to the selected client, if there is one. -/
def toClient (client : Option String) (text : String) : ConsoleAction :=
  match client with
  | none => .refused
  | some uid => .send (message uid text)

/-- The branches of `handle_console`. -/
def runCommand (files : LocalFiles) (client : Option String) (cmd : Command) : ConsoleAction :=
  match Text.words cmd.text with
  | ["history"] | ["h"] => .console
  | ["set", "uid", _] | ["set", "uid", _, _] => .console
  | ["list"] => .console
  | ["select", _] | ["use", _] => .console
  | ["send_file", src, dst] => if client.isSome then .sendFile src dst else .refused
  | ["get_file", src, dst] =>
    match finalDst files src dst with
    | none => .refused
    | some final => toClient client ("get_file " ++ src ++ " " ++ final)
  | ["rkill"] => toClient client "rkill"
  | ["get_kernel_src"] => toClient client "get_kernel_src"
  | ["clear"] | ["deselect"] => .console
  | ["exit"] | ["quit"] | ["bye"] => .console
  | ["help"] | ["?"] => .console
  | _ => toClient client cmd.text

/-- `handle_console` with the identity of the selected client: what it does, and the
history after it. -/
def handleConsole (files : LocalFiles) (client : Option String) (history : List Command)
    (cmd : String) : ConsoleAction × List Command :=
  match cmdToRun history (cleanCmd cmd) with
  | none => (.refused, history)
  | some run => (runCommand files client run, saveHistory history run)

/-- A call of `handle_console` while a client is selected. Calls run in tasks of their own,
so each one has its own view of the history and of the identity that the console has for
the client, which `set uid` may change. -/
structure ConsoleCall where
  files : LocalFiles
  uid : String
  history : List Command
  cmd : String

/-- The message of a call, if it sends one. -/
def ConsoleCall.message? (call : ConsoleCall) : Option String :=
  match (handleConsole call.files (some call.uid) call.history call.cmd).1 with
  | .send m => some m
  | _ => none

/-- The messages of calls, in the order in which they get the lock of the writer. -/
def sent (calls : List ConsoleCall) : List String := calls.filterMap ConsoleCall.message?

/-- A text of ASCII characters. -/
def IsAscii (s : String) : Prop := ∀ c ∈ s.toList, c.toNat < 128

instance (s : String) : Decidable (IsAscii s) :=
  List.decidableBAll (fun c : Char => c.toNat < 128) s.toList

/-- Two ASCII texts make one. -/
theorem IsAscii.append {s t : String} (hs : IsAscii s) (ht : IsAscii t) : IsAscii (s ++ t) := by
  intro c hc
  rw [String.toList_append, List.mem_append] at hc
  rcases hc with hc | hc
  · exact hs c hc
  · exact ht c hc

/-- A command is ASCII. -/
theorem Command.isAscii (cmd : Command) : IsAscii cmd.text := by
  intro c hc
  have hclean := List.all_eq_true.mp cmd.clean c hc
  simp only [isConsoleChar, Bool.or_eq_true, Bool.and_eq_true, decide_eq_true_iff] at hclean
  omega

/-- The words of an ASCII text are ASCII. -/
theorem IsAscii.of_mem_words {s word : String} (hs : IsAscii s) (h : word ∈ Text.words s) :
    IsAscii word :=
  fun c hc => hs c (Text.mem_of_mem_words h hc)

/-- The file name of an ASCII path is ASCII. -/
theorem IsAscii.of_fileName {path name : String} (hpath : IsAscii path)
    (h : fileName path = some name) : IsAscii name := by
  have hmem : name ∈ components path := by
    rw [fileName, Option.filter_eq_some_iff] at h
    exact List.mem_of_getLast? h.1
  refine fun c hc => hpath c ?_
  rw [components] at hmem
  split at hmem
  · cases hmem
  · next first rest hsplit =>
    have hpiece : name ∈ Text.split '/' path := by
      rw [hsplit]
      rcases List.mem_append.mp hmem with hmem | hmem
      · rw [List.mem_singleton.mp (List.mem_filter.mp hmem).1]
        exact List.mem_cons_self
      · exact List.mem_cons_of_mem _ (List.mem_filter.mp hmem).1
    exact Text.mem_of_mem_split hpiece hc

/-- The destination of a file is ASCII if both paths are. -/
theorem IsAscii.of_finalDst {files : LocalFiles} {src dst final : String} (hsrc : IsAscii src)
    (hdst : IsAscii dst) (h : finalDst files src dst = some final) : IsAscii final := by
  rw [finalDst] at h
  split at h
  · cases h
  · next name hname =>
    have hascii := hsrc.of_fileName hname
    have hslash : IsAscii "/" := by decide
    split at h
    · obtain rfl := Option.some.inj h
      rw [join]
      split
      · exact (hdst.append hslash).append hascii
      · exact hdst.append hascii
    · obtain rfl := Option.some.inj h
      exact hdst
    · split at h
      · cases h
      · split at h
        · obtain rfl := Option.some.inj h
          exact hdst
        · cases h

/-- What is sent to a selected client. -/
theorem eq_of_toClient {uid text m : String} (h : toClient (some uid) text = .send m) :
    m = message uid text :=
  (ConsoleAction.send.inj h).symm

/-- The text of a message to the selected client is ASCII. -/
theorem exists_of_runCommand {files : LocalFiles} {uid m : String} {cmd : Command}
    (h : runCommand files (some uid) cmd = .send m) :
    ∃ text, m = message uid text ∧ IsAscii text := by
  rw [runCommand] at h
  split at h
  case h_9 src dst hwords =>
    have hword (word : String) (hmem : word ∈ ["get_file", src, dst]) : IsAscii word :=
      cmd.isAscii.of_mem_words (hwords ▸ hmem)
    have hsrc : IsAscii src := hword src (by simp)
    have hdst : IsAscii dst := hword dst (by simp)
    split at h
    · cases h
    · next final hfinal =>
      have hcommand : IsAscii "get_file " := by decide
      have hspace : IsAscii " " := by decide
      exact ⟨_, eq_of_toClient h,
        ((hcommand.append hsrc).append hspace).append (hsrc.of_finalDst hdst hfinal)⟩
  case h_10 => exact ⟨_, eq_of_toClient h, by decide⟩
  case h_11 => exact ⟨_, eq_of_toClient h, by decide⟩
  case h_19 => exact ⟨_, eq_of_toClient h, cmd.isAscii⟩
  all_goals cases h

/-- Every message that is sent is for the selected client, with an ASCII text. -/
theorem exists_of_mem_sent {m : String} {calls : List ConsoleCall} (h : m ∈ sent calls) :
    ∃ uid text, m = message uid text ∧ IsAscii text := by
  obtain ⟨call, -, hcall⟩ := List.mem_filterMap.mp h
  rw [ConsoleCall.message?, handleConsole] at hcall
  split at hcall
  · next m' haction =>
    obtain rfl := Option.some.inj hcall
    split at haction
    · cases haction
    · exact ⟨call.uid, exists_of_runCommand haction⟩
  · cases hcall

end LinuxAgent.AgentCli
