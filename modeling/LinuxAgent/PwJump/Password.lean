import LinuxAgent.Lib.Text
import LinuxAgent.Lib.DoubleQuotes
import Mathlib.Logic.Function.Basic

/-!
# A new password for a user

The agent sets a password with a command line for a shell, in which the password stands between
double quotes as it is. The shell reads some characters there in another way, so that another
password may be set than the one that is reported, or another command be run.
-/

namespace LinuxAgent.PwJump

/-- `PutPwJumpInfo`. -/
structure PutPwJumpInfo where
  user : String
  pw : String
  status : ℕ
  reason : String

/-- The name of a user has nothing that is special for a shell, and no colon. -/
structure UserName where
  text : String
  text_ne : text.toList ≠ []
  plain : ∀ c ∈ text.toList, Shell.isSpecial c = false ∧ Text.isWhiteSpace c = false ∧ c ≠ ':' ∧
    c ≠ '\x00'

/-- The user that is meant: the argument, else the variable `USER`, else the output of `whoami`. -/
def realUser (user : String) (userVar : Option String) (whoami : Except String String) :
    Except String String :=
  if Text.isBlank user then
    match userVar with
    | some u => .ok u
    | none =>
      match whoami with
      | .error e => .error ("failed to run whoami: " ++ e)
      | .ok stdout =>
        if Text.trim stdout = "" then .error "cannot determine current user"
        else .ok (Text.trim stdout)
  else .ok user

/-- `backup_shadow`, with the output of `getent`: the second field. -/
def backupShadow (getent : Except String String) : Except String (Option String) :=
  match getent with
  | .error e => .error ("getent shadow failed: " ++ e)
  | .ok stdout => .ok (Text.split ':' stdout)[1]?

/-- `restore_shadow_hash` with a hash, if there is one, where `usermod` succeeds. -/
def restoreShadowHash (user : String) (hash : Option String) (shadow : String → Option String) :
    String → Option String :=
  if hash = none then shadow else Function.update shadow user hash

/-- The line that the shell gets. -/
def command (user newpw : String) : String :=
  "echo \"" ++ user ++ ":" ++ newpw ++ "\" | chpasswd"

/-- What stands behind the closing quote in the line. -/
def pipe : List Char := " | chpasswd".toList

/-- How the text behind the opening quote in the line is read. -/
def reading (user newpw : String) : Shell.Reading :=
  Shell.readQuoted 0 (user.toList ++ ':' :: (newpw.toList ++ '"' :: pipe))

/-- Which lines a shell refuses as no commands: those with an open quote, not those in which the
last quote closes. -/
structure Grammar where
  rejects : String → Bool
  rejects_open : ∀ user newpw, reading user newpw = .unterminated →
    rejects (command user newpw) = true
  accepts_closed : ∀ user newpw pieces, reading user newpw = .closed pieces pipe →
    rejects (command user newpw) = false

/-- What a shell does with the line. -/
inductive Job
  /-- Nothing, as it is no command. -/
  | rejected
  /-- It runs `echo` with one line, and `chpasswd` with this as its input, and nothing else. -/
  | echoChpasswd (line : List Char)
  /-- Something else, with its exit status and the hashes after it. -/
  | other (success : Bool) (shadow : String → Option String)

/-- A host where a user gets a new password. What the shell does follows from how it reads text
between double quotes, as long as nothing but characters and parameters stands there. -/
structure JumpHost (grammar : Grammar) (name : UserName) (newpw : String) where
  user : String
  userVar : Option String
  whoami : Except String String
  realUser_eq : realUser user userVar whoami = .ok name.text
  /-- The hashes of the users. -/
  shadow : String → Option String
  crypt : String → String
  crypt_injective : Function.Injective crypt
  getent : Except String String
  getent_fields : ∀ stdout, getent = .ok stdout → ∃ hash fields,
    Text.split ':' stdout = name.text :: hash :: fields ∧ shadow name.text = some hash
  /-- If `bash` can be started. -/
  starts : Bool
  /-- The values of the parameters of the shell. -/
  value : List Char → List Char
  job : Job
  rejected_iff : job = .rejected ↔ grammar.rejects (command name.text newpw) = true
  echoes : ∀ pieces, reading name.text newpw = .closed pieces pipe →
    '\n' ∉ Shell.expand value pieces → job = .echoChpasswd (Shell.expand value pieces)
  /-- What comes of `chpasswd`; if it fails, the hash that is left. -/
  chpasswd : Except (Option String) Unit
  /-- The text of an error. -/
  error : String

namespace JumpHost

variable {grammar : Grammar} {name : UserName} {newpw : String} (host : JumpHost grammar name newpw)

/-- The exit status of the shell, and the hashes after it. -/
def runJob : Bool × (String → Option String) :=
  match host.job with
  | .rejected => (false, host.shadow)
  | .other success shadow => (success, shadow)
  | .echoChpasswd line =>
    match Text.splitOnce ':' line with
    | none => (false, host.shadow)
    | some (user, pw) =>
      match host.chpasswd with
      | .ok () =>
        (true, Function.update host.shadow (String.ofList user)
          (some (host.crypt (String.ofList pw))))
      | .error hash => (false, Function.update host.shadow (String.ofList user) hash)

/-- If the shell is started: it is there, and there is no null character in the line. -/
def launches : Bool := host.starts && '\x00' ∉ (command name.text newpw).toList

/-- `set_password_plain`, with the hashes after it. -/
def setPasswordPlain : Except String Unit × (String → Option String) :=
  if host.launches then
    if host.runJob.1 then (.ok (), host.runJob.2)
    else (.error ("chpasswd failed: " ++ host.error), host.runJob.2)
  else (.error ("chpasswd failed: " ++ host.error), host.shadow)

/-- What comes of `do_pw_jump_async`: its result, the hashes, what the shell has done, and the
report. -/
structure Jump where
  result : Except String Unit
  shadow : String → Option String
  job : Option Job
  info : PutPwJumpInfo

/-- `do_pw_jump_async`. -/
def doPwJumpAsync (info : PutPwJumpInfo) : Jump :=
  match realUser host.user host.userVar host.whoami with
  | .error e => ⟨.error e, host.shadow, none, info⟩
  | .ok realUser =>
    let info := { info with user := realUser }
    match backupShadow host.getent with
    | .error e => ⟨.error e, host.shadow, none, info⟩
    | .ok origHash =>
      let job := if host.launches then some host.job else none
      match host.setPasswordPlain with
      | (.error e, shadow) =>
        let reason := "set_password failed: " ++ e
        ⟨.error reason, restoreShadowHash realUser origHash shadow, job,
          { info with status := 2, reason := reason }⟩
      | (.ok (), shadow) =>
        ⟨.ok (), shadow, job, { info with pw := newpw, status := 1, reason := "password changed" }⟩

/-- After a success the user has the password that is reported, and the shell has run nothing but
`echo` and `chpasswd`; after a failure the user has the hash from before. -/
structure Right (info : PutPwJumpInfo) : Prop where
  ok : (host.doPwJumpAsync info).result = .ok () →
    (host.doPwJumpAsync info).shadow name.text = some (host.crypt newpw) ∧
      (host.doPwJumpAsync info).info.pw = newpw ∧
      ∃ line, (host.doPwJumpAsync info).job = some (.echoChpasswd line)
  error : ∀ e, (host.doPwJumpAsync info).result = .error e →
    (host.doPwJumpAsync info).shadow name.text = host.shadow name.text

/-- The hash that is kept to be restored is the one of the user. -/
theorem backupShadow_eq {stdout : String} (h : host.getent = .ok stdout) :
    ∃ hash, backupShadow host.getent = .ok (some hash) ∧ host.shadow name.text = some hash := by
  obtain ⟨hash, fields, hsplit, hshadow⟩ := host.getent_fields stdout h
  refine ⟨hash, ?_, hshadow⟩
  rw [h, backupShadow, hsplit]
  rfl

variable {host} (info : PutPwJumpInfo)

/-- If nothing was kept, nothing is done. -/
theorem doPwJumpAsync_of_getent_error {e : String} (h : host.getent = .error e) :
    host.doPwJumpAsync info =
      ⟨.error ("getent shadow failed: " ++ e), host.shadow, none,
        { info with user := name.text }⟩ := by
  rw [doPwJumpAsync, host.realUser_eq]
  dsimp only
  rw [h, backupShadow]

/-- If the password cannot be set, the hash is restored. -/
theorem doPwJumpAsync_of_error {hash e : String} {shadow : String → Option String}
    (hbackup : backupShadow host.getent = .ok (some hash))
    (hset : host.setPasswordPlain = (.error e, shadow)) :
    (∃ reason, (host.doPwJumpAsync info).result = .error reason) ∧
      (host.doPwJumpAsync info).shadow name.text = some hash := by
  rw [doPwJumpAsync, host.realUser_eq]
  dsimp only
  rw [hbackup, hset]
  exact ⟨⟨_, rfl⟩, Function.update_self _ _ _⟩

/-- If the shell succeeds, the call does. -/
theorem doPwJumpAsync_of_ok {hash : String}
    (hbackup : backupShadow host.getent = .ok (some hash)) (hlaunches : host.launches = true)
    (hjob : host.runJob.1 = true) :
    host.doPwJumpAsync info = ⟨.ok (), host.runJob.2, some host.job,
      { user := name.text, pw := newpw, status := 1, reason := "password changed" }⟩ := by
  have hset : host.setPasswordPlain = (.ok (), host.runJob.2) := by
    rw [setPasswordPlain, if_pos hlaunches, if_pos hjob]
  rw [doPwJumpAsync, host.realUser_eq]
  dsimp only
  rw [hbackup, hset]
  dsimp only
  rw [if_pos hlaunches]

/-- A call that fails, or where the shell has set the password that is reported, is right. -/
theorem right_of {hash : String} (hbackup : backupShadow host.getent = .ok (some hash))
    (hshadow : host.shadow name.text = some hash)
    (hjob : host.launches = true → host.runJob.1 = true →
      host.runJob.2 name.text = some (host.crypt newpw) ∧ ∃ line, host.job = .echoChpasswd line) :
    host.Right info := by
  have hfail {e : String} {shadow : String → Option String}
      (hset : host.setPasswordPlain = (.error e, shadow)) : host.Right info := by
    obtain ⟨⟨reason, hresult⟩, hrestored⟩ :=
      doPwJumpAsync_of_error info hbackup hset
    refine ⟨fun hok => ?_, fun _ _ => by rw [hrestored, hshadow]⟩
    rw [hresult] at hok
    cases hok
  by_cases hlaunches : host.launches = true
  · by_cases hrun : host.runJob.1 = true
    · obtain ⟨hcrypt, line, hline⟩ := hjob hlaunches hrun
      have heq := doPwJumpAsync_of_ok info hbackup hlaunches hrun
      refine ⟨fun _ => ?_, fun e he => ?_⟩
      · rw [heq, hline]
        exact ⟨hcrypt, rfl, line, rfl⟩
      · rw [heq] at he
        cases he
    · exact hfail (by rw [setPasswordPlain, if_pos hlaunches, if_neg hrun])
  · exact hfail (by rw [setPasswordPlain, if_neg hlaunches])

end JumpHost

section Quoting

variable {name : UserName} {newpw : String}

/-- A user name and a colon have no special characters. -/
theorem UserName.plain_colon (name : UserName) :
    ∀ c ∈ name.text.toList ++ [':'], Shell.isSpecial c = false := by
  refine List.forall_mem_append.mpr ⟨fun c hc => (name.plain c hc).1, ?_⟩
  exact List.forall_mem_singleton.mpr (by decide)

/-- The name of the user is read as it stands. -/
theorem reading_eq (name : UserName) (newpw : String) :
    reading name.text newpw = ((name.text.toList ++ [':']).map Shell.Piece.char).foldr
      Shell.Reading.cons (Shell.readQuoted 0 (newpw.toList ++ '"' :: pipe)) := by
  rw [← Shell.readQuoted_append name.plain_colon, reading, List.append_assoc,
    List.singleton_append]

/-- The user and the password in a line that was read piece by piece. -/
theorem splitOnce_expand (value : List Char → List Char) (tail : List Shell.Piece) :
    Text.splitOnce ':' (Shell.expand value
        ((name.text.toList ++ [':']).map Shell.Piece.char ++ tail)) =
      some (name.text.toList, Shell.expand value tail) := by
  have hline : Shell.expand value ((name.text.toList ++ [':']).map Shell.Piece.char ++ tail) =
      name.text.toList ++ ':' :: Shell.expand value tail := by
    rw [Shell.expand, List.flatMap_append, ← Shell.expand, Shell.expand_map_char,
      List.append_assoc, List.singleton_append]
    rfl
  rw [hline, Text.splitOnce_append fun h => (name.plain ':' h).2.2.1 rfl]

/-- A password that stands for itself between double quotes. -/
def Literal (newpw : String) : Prop :=
  Shell.readQuoted 0 (newpw.toList ++ '"' :: pipe) =
    .closed (newpw.toList.map Shell.Piece.char) pipe

instance Literal.decidable (newpw : String) : Decidable (Literal newpw) :=
  inferInstanceAs (Decidable (_ = _))

/-- A password that stands for itself is what `chpasswd` gets. -/
theorem job_of_literal {grammar : Grammar} (host : JumpHost grammar name newpw)
    (hline : '\n' ∉ newpw.toList) (h : Literal newpw) :
    host.job = .echoChpasswd (name.text.toList ++ ':' :: newpw.toList) := by
  have hread : reading name.text newpw =
      .closed ((name.text.toList ++ ':' :: newpw.toList).map Shell.Piece.char) pipe := by
    rw [reading_eq, h, Shell.foldr_cons_closed, ← List.map_append, List.append_assoc,
      List.singleton_append]
  have hjob := host.echoes _ hread
  rw [Shell.expand_map_char] at hjob
  refine hjob fun hmem => ?_
  obtain hmem | hmem := List.mem_append.mp hmem
  · exact absurd (name.plain '\n' hmem).2.1 (by decide)
  · obtain hcolon | hmem := List.mem_cons.mp hmem
    · exact absurd hcolon (by decide)
    · exact hline hmem

/-- The call is right if the shell is not started, refuses the line, or reads the password as it
stands. -/
theorem right_of_safe {grammar : Grammar} (host : JumpHost grammar name newpw)
    (info : PutPwJumpInfo) (hline : '\n' ∉ newpw.toList)
    (h : '\x00' ∈ newpw.toList ∨ grammar.rejects (command name.text newpw) = true ∨
      Literal newpw) : host.Right info := by
  cases hgetent : host.getent with
  | error e =>
    have heq := JumpHost.doPwJumpAsync_of_getent_error info hgetent
    refine ⟨fun hok => ?_, fun _ _ => by rw [heq]⟩
    rw [heq] at hok
    cases hok
  | ok stdout =>
    obtain ⟨hash, hbackup, hshadow⟩ := host.backupShadow_eq hgetent
    refine JumpHost.right_of info hbackup hshadow fun hlaunches hrun => ?_
    obtain hnull | hrejects | hliteral := h
    · have hmem : '\x00' ∈ (command name.text newpw).toList := by
        rw [command, String.toList_append, String.toList_append]
        exact List.mem_append_left _ (List.mem_append_right _ hnull)
      rw [JumpHost.launches, Bool.and_eq_true, decide_eq_true_eq] at hlaunches
      exact absurd hmem hlaunches.2
    · rw [JumpHost.runJob, host.rejected_iff.mpr hrejects] at hrun
      cases hrun
    · have hjob := job_of_literal host hline hliteral
      have hsplit : Text.splitOnce ':' (name.text.toList ++ ':' :: newpw.toList) =
          some (name.text.toList, newpw.toList) :=
        Text.splitOnce_append (fun h => (name.plain ':' h).2.2.1 rfl) _
      refine ⟨?_, _, hjob⟩
      rw [JumpHost.runJob, hjob] at hrun ⊢
      simp only [hsplit] at hrun ⊢
      cases hchpasswd : host.chpasswd with
      | error hash =>
        rw [hchpasswd] at hrun
        cases hrun
      | ok =>
        simp only [String.ofList_toList]
        exact Function.update_self _ _ _

end Quoting

/-- What a shell without parameters does, if it does something for each line. -/
def jobOf : Shell.Reading → Job
  | .closed pieces rest =>
    if rest = pipe then .echoChpasswd (Shell.expand (fun _ => []) pieces)
    else .other true fun _ => some "*"
  | .unterminated => .other true fun _ => some "*"
  | .substitution => .other true fun _ => some "*"

/-- A shell that reads the line does not reject it. -/
theorem jobOf_ne_rejected (reading : Shell.Reading) : jobOf reading ≠ .rejected := by
  cases reading with
  | closed pieces rest =>
    rw [jobOf]
    split <;> exact Job.noConfusion
  | unterminated => exact Job.noConfusion
  | substitution => exact Job.noConfusion

/-- The name is that of the user. -/
theorem realUser_name (name : UserName) : realUser name.text none (.error "") = .ok name.text := by
  obtain ⟨c, cs, hcs⟩ := List.exists_cons_of_ne_nil name.text_ne
  have hc := (name.plain c (hcs ▸ List.mem_cons_self)).2.1
  have hblank : Text.isBlank name.text = false := by
    rw [Text.isBlank, hcs, List.all_cons, hc, Bool.false_and]
  rw [realUser, hblank]
  rfl

/-- The fields of the shadow line. -/
theorem split_shadow (name : UserName) :
    Text.split ':' (Text.joinWith ':' [name.text, "*", "19000"]) = [name.text, "*", "19000"] := by
  refine Text.split_joinWith ?_ (List.cons_ne_nil _ _)
  refine List.forall_mem_cons.mpr ⟨fun h => (name.plain ':' h).2.2.1 rfl, ?_⟩
  decide

/-- The shadow line has a hash behind the name. -/
theorem getent_shadow (name : UserName) (stdout : String)
    (h : (Except.ok (Text.joinWith ':' [name.text, "*", "19000"]) : Except String String) =
      .ok stdout) :
    ∃ hash fields, Text.split ':' stdout = name.text :: hash :: fields ∧ some "*" = some hash := by
  obtain rfl := Except.ok.inj h
  exact ⟨"*", ["19000"], split_shadow name, rfl⟩

/-- Nothing is rejected if the grammar takes the command. -/
theorem jobOf_rejected_iff {grammar : Grammar} {name : UserName} {newpw : String}
    (haccept : grammar.rejects (command name.text newpw) = false) :
    jobOf (reading name.text newpw) = .rejected ↔
      grammar.rejects (command name.text newpw) = true :=
  iff_of_false (jobOf_ne_rejected _) (by rw [haccept]; exact Bool.false_ne_true)

/-- Quotes that close before the pipe make the shell echo what is in them. -/
theorem jobOf_echoes (name : UserName) (newpw : String) (pieces : List Shell.Piece)
    (h : reading name.text newpw = .closed pieces pipe)
    (_ : '\n' ∉ Shell.expand (fun _ => []) pieces) :
    jobOf (reading name.text newpw) = .echoChpasswd (Shell.expand (fun _ => []) pieces) := by
  rw [h, jobOf, if_pos rfl]

/-- A host where all commands succeed and no parameter has a value. -/
def plainHost {grammar : Grammar} {name : UserName} {newpw : String}
    (haccept : grammar.rejects (command name.text newpw) = false) :
    JumpHost grammar name newpw where
  user := name.text
  userVar := none
  whoami := .error ""
  realUser_eq := realUser_name name
  shadow := fun _ => some "*"
  crypt := id
  crypt_injective := Function.injective_id
  getent := .ok (Text.joinWith ':' [name.text, "*", "19000"])
  getent_fields := getent_shadow name
  starts := true
  value := fun _ => []
  job := jobOf (reading name.text newpw)
  rejected_iff := jobOf_rejected_iff haccept
  echoes := jobOf_echoes name newpw
  chpasswd := .ok ()
  error := ""

section Plain

variable {grammar : Grammar} {name : UserName} {newpw : String}

/-- The host launches the command. -/
theorem plainHost_launches (haccept : grammar.rejects (command name.text newpw) = false)
    (hnull : '\x00' ∉ newpw.toList) : (plainHost haccept).launches = true := by
  have hnot : '\x00' ∉ (command name.text newpw).toList := by
    simp only [command, String.toList_append, List.mem_append, not_or]
    exact ⟨⟨⟨⟨by decide, fun h => (name.plain _ h).2.2.2 rfl⟩, by decide⟩, hnull⟩, by decide⟩
  rw [JumpHost.launches, Bool.and_eq_true, decide_eq_true_eq]
  exact ⟨rfl, hnot⟩

/-- On that host, what is read of a password is set. -/
theorem plainHost_runJob_closed (haccept : grammar.rejects (command name.text newpw) = false)
    {tail : List Shell.Piece}
    (h : Shell.readQuoted 0 (newpw.toList ++ '"' :: pipe) = .closed tail pipe) :
    (plainHost haccept).runJob = (true, Function.update (fun _ => some "*") name.text
      (some (String.ofList (Shell.expand (fun _ => []) tail)))) := by
  have hjob : (plainHost haccept).job = .echoChpasswd (Shell.expand (fun _ => [])
      ((name.text.toList ++ [':']).map Shell.Piece.char ++ tail)) := by
    have hread : reading name.text newpw =
        .closed ((name.text.toList ++ [':']).map Shell.Piece.char ++ tail) pipe := by
      rw [reading_eq, h, Shell.foldr_cons_closed]
    have hjob : (plainHost haccept).job = jobOf (reading name.text newpw) := rfl
    rw [hjob, hread, jobOf, if_pos rfl]
  rw [JumpHost.runJob, hjob]
  dsimp only
  rw [splitOnce_expand]
  have hsame : String.ofList name.text.toList = name.text := String.ofList_toList
  dsimp only
  rw [hsame]
  rfl

/-- On that host, a line in which the last quote does not close lets something else run. -/
theorem plainHost_job_other (haccept : grammar.rejects (command name.text newpw) = false)
    (h : ∀ tail, Shell.readQuoted 0 (newpw.toList ++ '"' :: pipe) ≠ .closed tail pipe) :
    (plainHost haccept).job = .other true fun _ => some "*" := by
  have hjob : (plainHost haccept).job = jobOf (reading name.text newpw) := rfl
  rw [hjob]
  cases hread : reading name.text newpw with
  | closed pieces rest =>
    have hrest : rest ≠ pipe := by
      rintro rfl
      rw [reading_eq] at hread
      obtain ⟨tail, -, htail⟩ := Shell.foldr_cons_eq_closed hread
      exact h tail htail
    rw [jobOf, if_neg hrest]
  | unterminated => rfl
  | substitution => rfl

/-- If the call is right on that host, the password is read as it stands. -/
theorem literal_of_right (haccept : grammar.rejects (command name.text newpw) = false)
    (hnull : '\x00' ∉ newpw.toList) {info : PutPwJumpInfo}
    (hright : (plainHost haccept).Right info) : Literal newpw := by
  have hlaunches := plainHost_launches haccept hnull
  obtain ⟨hash, hbackup, -⟩ := (plainHost haccept).backupShadow_eq rfl
  by_cases hclosed : ∃ tail, Shell.readQuoted 0 (newpw.toList ++ '"' :: pipe) = .closed tail pipe
  · obtain ⟨tail, htail⟩ := hclosed
    have hrun := plainHost_runJob_closed haccept htail
    have heq := JumpHost.doPwJumpAsync_of_ok info hbackup hlaunches (by rw [hrun])
    have hset := (hright.ok (by rw [heq])).1
    rw [heq, hrun] at hset
    dsimp only at hset
    rw [Function.update_self] at hset
    have hexpand : Shell.expand (fun _ => []) tail = newpw.toList := by
      have htext : String.ofList (Shell.expand (fun _ => []) tail) = newpw := Option.some.inj hset
      rw [← htext, String.toList_ofList]
    rw [Literal, htail, Shell.eq_map_char_of_expand_eq htail hexpand]
  · have hjob := plainHost_job_other haccept fun tail htail => hclosed ⟨tail, htail⟩
    have hrun : (plainHost haccept).runJob.1 = true := by rw [JumpHost.runJob, hjob]
    have heq := JumpHost.doPwJumpAsync_of_ok info hbackup hlaunches hrun
    obtain ⟨-, -, line, hline⟩ := hright.ok (by rw [heq])
    rw [heq, hjob] at hline
    cases hline

end Plain

/-- The call is right on every host just if the shell is not started, refuses the line, or reads the
password as it stands. -/
theorem pwJump_right_iff (grammar : Grammar) (name : UserName) {newpw : String}
    (hline : '\n' ∉ newpw.toList) :
    (∀ (host : JumpHost grammar name newpw) (info : PutPwJumpInfo), host.Right info) ↔
      '\x00' ∈ newpw.toList ∨ grammar.rejects (command name.text newpw) = true ∨
        Literal newpw := by
  constructor
  · intro hright
    by_cases hnull : '\x00' ∈ newpw.toList
    · exact .inl hnull
    · cases haccept : grammar.rejects (command name.text newpw) with
      | true => exact .inr (.inl rfl)
      | false =>
        exact .inr (.inr (literal_of_right haccept hnull
          (hright (plainHost haccept) ⟨"", "", 0, ""⟩)))
  · exact fun h host info => right_of_safe host info hline h

/-- What comes behind the name of the program in the command. -/
theorem drop_command (user newpw : String) :
    (command user newpw).toList.drop 6 = user.toList ++ ':' :: (newpw.toList ++ '"' :: pipe) := by
  have hcolon : ":".toList = [':'] := rfl
  have hend : "\" | chpasswd".toList = '"' :: pipe := rfl
  have hstart : "echo \"".toList.length = 6 := rfl
  rw [command, String.toList_append, String.toList_append, String.toList_append,
    String.toList_append, hcolon, hend]
  simp only [List.append_assoc, List.singleton_append]
  exact List.drop_left' hstart

/-- A line is refused if its quote is open. -/
def rejectsOpen (line : String) : Bool :=
  Shell.readQuoted 0 (line.toList.drop 6) = .unterminated

/-- A command with an open quote is rejected. -/
theorem rejectsOpen_open (user newpw : String) (h : reading user newpw = .unterminated) :
    rejectsOpen (command user newpw) = true := by
  rw [rejectsOpen, drop_command]
  exact decide_eq_true h

/-- A command with closed quotes is not rejected. -/
theorem rejectsOpen_closed (user newpw : String) (pieces : List Shell.Piece)
    (h : reading user newpw = .closed pieces pipe) : rejectsOpen (command user newpw) = false := by
  rw [reading] at h
  rw [rejectsOpen, drop_command, h]
  rfl

/-- A shell that refuses only lines with an open quote. -/
def openGrammar : Grammar := ⟨rejectsOpen, rejectsOpen_open, rejectsOpen_closed⟩

/-- There are no special characters in `root`. -/
theorem plain_root : ∀ c ∈ "root".toList, Shell.isSpecial c = false ∧
    Text.isWhiteSpace c = false ∧ c ≠ ':' ∧ c ≠ '\x00' := by
  have hall : ("root".toList.all fun c => Shell.isSpecial c = false ∧
      Text.isWhiteSpace c = false ∧ c ≠ ':' ∧ c ≠ '\x00') = true := by decide
  exact fun c hc => of_decide_eq_true (List.all_eq_true.mp hall c hc)

/-- The name `root` is not empty. -/
theorem root_ne : "root".toList ≠ [] := by decide

/-- The user `root`. -/
def root : UserName := ⟨"root", root_ne, plain_root⟩

/-- A password with a dollar sign at its end and a backslash that stands for itself. -/
theorem pwJump_right_literal :
    '\n' ∉ "Pa\\ss!1$".toList ∧
      ∀ (host : JumpHost openGrammar root "Pa\\ss!1$") (info : PutPwJumpInfo), host.Right info := by
  have hline : '\n' ∉ "Pa\\ss!1$".toList := by decide
  exact ⟨hline, (pwJump_right_iff openGrammar root hline).mpr (.inr (.inr (by decide +kernel)))⟩

/-- Two backslashes are accepted. -/
theorem accepts_backslashes :
    openGrammar.rejects (command root.text "pa\\\\ss") = false := by
  decide +kernel

/-- A password with two backslashes is set with one of them, and reported as it is. -/
theorem backslashes_wrong_password :
    ((plainHost accepts_backslashes).doPwJumpAsync ⟨"", "", 0, ""⟩).shadow "root" =
        some "pa\\ss" ∧
      ((plainHost accepts_backslashes).doPwJumpAsync ⟨"", "", 0, ""⟩).info.pw = "pa\\\\ss" ∧
      ¬(plainHost accepts_backslashes).Right ⟨"", "", 0, ""⟩ := by
  have hset : ((plainHost accepts_backslashes).doPwJumpAsync ⟨"", "", 0, ""⟩).shadow "root" =
      some "pa\\ss" := by
    decide +kernel
  refine ⟨hset, by decide +kernel, fun h => ?_⟩
  have hright := (h.ok rfl).1
  have hsame : some "pa\\ss" = some "pa\\\\ss" := hset.symm.trans hright
  exact absurd hsame (by decide)

end LinuxAgent.PwJump
