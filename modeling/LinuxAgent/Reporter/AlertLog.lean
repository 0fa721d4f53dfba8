import LinuxAgent.Lib.Runs
import Mathlib.Data.List.Nodup

/-!
# Uploading alerts

Alerts are collected in a buffer that is uploaded every 30 seconds. The buffer is cleared
when the JSON was built, whatever comes of the upload, so the alerts of a failed upload
are gone. No alert is lost just if every upload succeeds; none is uploaded twice.
-/

namespace LinuxAgent.Reporter

/-- An alert. -/
structure AuditLogInfo where
  filePath : Option String
  renameDir : Option String
  exceptionProcess : Option String
  md5 : Option String
  nType : ℕ
  nLevel : ℕ
  nTime : ℕ
  noticeRemark : Option String
  peripheralName : Option String
  peripheralRemark : Option String
  peripheralEid : Option String
  pParam : Option String

/-- An entry of the JSON. -/
structure LogEntry where
  level : ℕ
  time : ℕ
  nType : ℕ
  dir : Option String
  hash : Option String
  renameDir : Option String
  noticeRemark : Option String
  exceptionProcess : Option String
  peripheralName : Option String
  peripheralRemark : Option String
  peripheralEid : Option String
  pParam : Option String

/-- The entry of an alert. -/
def AuditLogInfo.entry (log : AuditLogInfo) : LogEntry where
  level := log.nLevel
  time := log.nTime
  nType := log.nType
  dir := log.filePath
  hash := log.md5
  renameDir := log.renameDir
  noticeRemark := log.noticeRemark
  exceptionProcess := log.exceptionProcess
  peripheralName := log.peripheralName
  peripheralRemark := log.peripheralRemark
  peripheralEid := log.peripheralEid
  pParam := log.pParam.or log.filePath

/-- `build_alert_log_json`, with what `serde_json` makes of the entries. -/
def buildAlertLogJson (toJson : List LogEntry → Except String String) (logs : List AuditLogInfo) :
    Except String String :=
  if logs.map AuditLogInfo.entry = [] then .error "No valid log entries"
  else toJson (logs.map AuditLogInfo.entry)

/-- An alert with its number in the order of arrival. -/
structure Arrived where
  number : ℕ
  log : AuditLogInfo

/-- The state of `start_log_services`, with the number of alerts received and the batches
of the uploads that have succeeded. -/
structure AlertState where
  buffer : List Arrived
  received : ℕ
  posted : List (List Arrived)
  closed : Bool

/-- What serialization and an upload would give. -/
structure UploadEnv where
  toJson : List LogEntry → Except String String
  post : String → Bool

/-- What the loop waits for. -/
inductive AlertEvent where
  | recv (log : AuditLogInfo)
  | tick (env : UploadEnv)
  /-- The channel is closed: the loop ends, and the rest of the buffer is uploaded. -/
  | close (env : UploadEnv)

/-- The upload of the buffer. -/
def AlertState.upload (s : AlertState) (env : UploadEnv) : AlertState :=
  if s.buffer = [] then s
  else
    match buildAlertLogJson env.toJson (s.buffer.map Arrived.log) with
    | .error _ => s
    | .ok json =>
      { s with
        posted := if env.post json then s.posted ++ [s.buffer] else s.posted
        buffer := [] }

/-- An alert is put into the buffer. -/
def AlertState.receive (s : AlertState) (log : AuditLogInfo) : AlertState :=
  { s with
    buffer := s.buffer ++ [⟨s.received, log⟩]
    received := s.received + 1 }

/-- One round of the loop. -/
def AlertState.step (s : AlertState) : AlertEvent → Option AlertState
  | .recv log => if s.closed then none else some (s.receive log)
  | .tick env => if s.closed then none else some (s.upload env)
  | .close env => if s.closed then none else some { s.upload env with closed := true }

/-- `start_log_services` before its loop. -/
def AlertState.started : AlertState where
  buffer := []
  received := 0
  posted := []
  closed := false

/-- The alert service. -/
def alertLog : Runs.System AlertState AlertEvent where
  init := fun s => s = .started
  step := AlertState.step

/-- The numbers of the alerts that were uploaded. -/
def AlertState.postedNumbers (s : AlertState) : List ℕ := s.posted.flatten.map Arrived.number

/-- The numbers of the alerts in the buffer. -/
def AlertState.buffered (s : AlertState) : List ℕ := s.buffer.map Arrived.number

/-- Every alert that was received is in the buffer or was uploaded, and none was uploaded
twice. -/
structure AlertState.NothingLost (s : AlertState) : Prop where
  kept : ∀ number < s.received, number ∈ s.buffered ∨ number ∈ s.postedNumbers
  once : s.postedNumbers.Nodup

/-- An upload that is made succeeds. -/
def AlertState.Uploads (s : AlertState) (env : UploadEnv) : Prop :=
  s.buffer ≠ [] → ∀ json, buildAlertLogJson env.toJson (s.buffer.map Arrived.log) = .ok json →
    env.post json = true

/-- A round in which no upload fails. -/
def AlertState.Ok (s : AlertState) : AlertEvent → Prop
  | .recv _ => True
  | .tick env | .close env => s.Uploads env

/-- The numbers are different, and those of alerts that were received. -/
structure AlertState.Sound (s : AlertState) : Prop where
  nodup : (s.postedNumbers ++ s.buffered).Nodup
  lt : ∀ number ∈ s.postedNumbers ++ s.buffered, number < s.received

variable {s s' : AlertState} {env : UploadEnv}

/-- What becomes of the buffer. -/
theorem upload_cases (s : AlertState) (env : UploadEnv) :
    s.upload env = s ∧ s.Uploads env ∨
      s.upload env = { s with posted := s.posted ++ [s.buffer], buffer := [] } ∧ s.Uploads env ∨
      s.upload env = { s with buffer := [] } ∧ s.buffer ≠ [] ∧ ¬ s.Uploads env := by
  unfold AlertState.upload AlertState.Uploads
  split
  · next hnil => exact .inl ⟨rfl, fun h => absurd hnil h⟩
  · next hne =>
    split
    · next e hjson => exact .inl ⟨rfl, fun _ json h => by rw [hjson] at h; cases h⟩
    · next json hjson =>
      cases hpost : env.post json with
      | true =>
        refine .inr (.inl ⟨rfl, fun _ other h => ?_⟩)
        rw [hjson] at h
        exact Except.ok.inj h ▸ hpost
      | false =>
        refine .inr (.inr ⟨rfl, hne, fun h => ?_⟩)
        rw [h hne json hjson] at hpost
        cases hpost

/-- Posting the buffer adds its numbers. -/
theorem postedNumbers_posted (s : AlertState) :
    ({ s with posted := s.posted ++ [s.buffer], buffer := [] } : AlertState).postedNumbers =
      s.postedNumbers ++ s.buffered := by
  simp [AlertState.postedNumbers, AlertState.buffered]

/-- Uploading keeps the numbers apart. -/
theorem AlertState.Sound.upload (hs : s.Sound) (env : UploadEnv) : (s.upload env).Sound := by
  obtain ⟨hnodup, hlt⟩ := hs
  rcases upload_cases s env with ⟨heq, -⟩ | ⟨heq, -⟩ | ⟨heq, -⟩ <;> rw [heq]
  · exact ⟨hnodup, hlt⟩
  · refine ⟨?_, ?_⟩ <;> rw [postedNumbers_posted]
    · simpa [AlertState.buffered] using hnodup
    · simpa [AlertState.buffered] using hlt
  · refine ⟨?_, fun number hmem => hlt number ?_⟩
    · simpa [AlertState.buffered, AlertState.postedNumbers] using hnodup.of_append_left
    · rcases List.mem_append.mp hmem with h | h
      · exact List.mem_append_left _ h
      · cases h

/-- Alerts stay accounted for just if no upload fails. -/
theorem kept_upload_iff (hs : s.Sound)
    (hkept : ∀ number < s.received, number ∈ s.buffered ∨ number ∈ s.postedNumbers) :
    (∀ number < (s.upload env).received, number ∈ (s.upload env).buffered ∨
        number ∈ (s.upload env).postedNumbers) ↔ s.Uploads env := by
  rcases upload_cases s env with ⟨heq, huploads⟩ | ⟨heq, huploads⟩ | ⟨heq, hne, hfails⟩ <;> rw [heq]
  · exact iff_of_true hkept huploads
  · refine iff_of_true (fun number hlt => .inr ?_) huploads
    rw [postedNumbers_posted, List.mem_append]
    exact (hkept number hlt).symm
  · -- The first alert of the buffer is lost.
    refine iff_of_false (fun h => ?_) hfails
    obtain ⟨first, rest, hbuffer⟩ := List.exists_cons_of_ne_nil hne
    have hmem : first.number ∈ s.buffered := by simp [AlertState.buffered, hbuffer]
    rcases h first.number (hs.lt _ (List.mem_append_right _ hmem)) with hfirst | hfirst
    · cases hfirst
    · exact (List.nodup_append.mp hs.nodup).2.2 _ hfirst _ hmem rfl

/-- A log that comes in goes to the end of the buffer. -/
theorem buffered_receive (s : AlertState) (log : AuditLogInfo) :
    (s.receive log).buffered = s.buffered ++ [s.received] := by
  simp [AlertState.receive, AlertState.buffered]

/-- A log that comes in is not posted yet. -/
theorem postedNumbers_receive (s : AlertState) (log : AuditLogInfo) :
    (s.receive log).postedNumbers = s.postedNumbers := rfl

/-- A new alert has a new number. -/
theorem AlertState.Sound.receive (hs : s.Sound) (log : AuditLogInfo) : (s.receive log).Sound := by
  obtain ⟨hnodup, hlt⟩ := hs
  refine ⟨?_, ?_⟩ <;> rw [buffered_receive, postedNumbers_receive, ← List.append_assoc]
  · refine hnodup.append (List.nodup_singleton _) ?_
    rw [List.disjoint_singleton]
    exact fun h => Nat.lt_irrefl _ (hlt _ h)
  · intro number hmem
    rcases List.mem_append.mp hmem with h | h
    · exact Nat.lt_succ_of_lt (hlt number h)
    · rw [List.mem_singleton.mp h]
      exact Nat.lt_succ_self _

/-- Nothing is lost when a log comes in. -/
theorem AlertState.NothingLost.receive (hs : s.NothingLost) (log : AuditLogInfo) :
    (s.receive log).NothingLost := by
  refine ⟨fun number hlt => ?_, hs.once⟩
  rw [buffered_receive, List.mem_append, List.mem_singleton]
  rcases Nat.lt_succ_iff_lt_or_eq.mp hlt with hlt | rfl
  · exact (hs.kept number hlt).imp_left .inl
  · exact .inl (.inr rfl)

/-- A round of the loop keeps the numbers apart. -/
theorem AlertState.Sound.step {e : AlertEvent} (hs : s.Sound) (hstep : s.step e = some s') :
    s'.Sound := by
  cases e <;> rw [AlertState.step] at hstep <;> split at hstep
  case recv.isFalse =>
    obtain rfl := Option.some.inj hstep
    exact hs.receive _
  case tick.isFalse =>
    obtain rfl := Option.some.inj hstep
    exact hs.upload _
  case close.isFalse =>
    obtain rfl := Option.some.inj hstep
    exact ⟨(hs.upload _).nodup, (hs.upload _).lt⟩
  all_goals cases hstep

/-- Nothing is lost by an upload just if it does not fail. -/
theorem nothingLost_upload_iff (hs : s.Sound) (hkept : s.NothingLost) :
    (s.upload env).NothingLost ↔ s.Uploads env := by
  rw [← kept_upload_iff hs hkept.kept]
  exact ⟨fun h => h.kept, fun h => ⟨h, (List.nodup_append.mp (hs.upload env).nodup).1⟩⟩

/-- Nothing is lost in a round just if no upload fails. -/
theorem nothingLost_step_iff {e : AlertEvent} (hs : s.Sound) (hkept : s.NothingLost)
    (hstep : s.step e = some s') : s'.NothingLost ↔ s.Ok e := by
  cases e <;> rw [AlertState.step] at hstep <;> split at hstep
  case recv.isFalse =>
    obtain rfl := Option.some.inj hstep
    exact iff_of_true (hkept.receive _) trivial
  case tick.isFalse =>
    obtain rfl := Option.some.inj hstep
    exact nothingLost_upload_iff hs hkept
  case close.isFalse env _ =>
    obtain rfl := Option.some.inj hstep
    have hclosed : ({ s.upload env with closed := true } : AlertState).NothingLost ↔
        (s.upload env).NothingLost := ⟨fun h => ⟨h.kept, h.once⟩, fun h => ⟨h.kept, h.once⟩⟩
    exact hclosed.trans (nothingLost_upload_iff hs hkept)
  all_goals cases hstep

/-- The numbers are in order when the service has started. -/
theorem sound_started : AlertState.started.Sound := ⟨List.nodup_nil, nofun⟩

/-- Nothing is lost when the service has started. -/
theorem nothingLost_started : AlertState.started.NothingLost := ⟨nofun, List.nodup_nil⟩

/-- At every point of a run every alert is in the buffer or was uploaded once, if and only if
no upload that is made fails. -/
theorem nothingLost_iff_uploads {events : List AlertEvent}
    (hrun : alertLog.exec .started events = some s) :
    (∀ seen t, seen <+: events → alertLog.exec .started seen = some t → t.NothingLost) ↔
      alertLog.Meets AlertState.Ok .started events := by
  have hstep (s : AlertState) (e : AlertEvent) (s' : AlertState) (hs : s.Sound ∧ s.NothingLost)
      (hst : alertLog.step s e = some s') : s'.Sound ∧ s'.NothingLost ↔ s.Ok e := by
    rw [nothingLost_step_iff hs.1 hs.2 hst |>.symm]
    exact and_iff_right (hs.1.step hst)
  have hsound {seen : List AlertEvent} {t : AlertState}
      (ht : alertLog.exec .started seen = some t) : t.Sound := by
    refine Runs.System.Reaches.invariant (I := AlertState.Sound)
      (Runs.System.Reachable.exec (.init rfl) ht) ?_ fun _ _ _ hs _ hst => hs.step hst
    rintro _ rfl
    exact sound_started
  rw [← Runs.System.forall_exec_iff_meets hstep ⟨sound_started, nothingLost_started⟩ hrun]
  refine forall_congr' fun seen => forall_congr' fun t => forall_congr' fun _ => ?_
  exact forall_congr' fun ht => (and_iff_right (hsound ht)).symm

/-- An alert about a file. -/
def fileAlert : AuditLogInfo where
  filePath := some "/etc/passwd"
  renameDir := none
  exceptionProcess := none
  md5 := none
  nType := 1
  nLevel := 1
  nTime := 1
  noticeRemark := none
  peripheralName := none
  peripheralRemark := none
  peripheralEid := none
  pParam := none

/-- The JSON of that alert. -/
def fileAlertJson : String :=
  "\x7b\"alert\":\"[\x7b\\\"level\\\":1,\\\"time\\\":1,\\\"type\\\":1," ++
    "\\\"dir\\\":\\\"/etc/passwd\\\",\\\"p_param\\\":\\\"/etc/passwd\\\"\x7d]\"\x7d"

/-- The alert is serialized, and uploads succeed or fail. -/
def serverAnswers (ok : Bool) : UploadEnv where
  toJson := fun _ => .ok fileAlertJson
  post := fun _ => ok

/-- The alert of a failed upload is neither in the buffer nor uploaded. -/
theorem alert_lost_by_failed_upload :
    ∃ s, alertLog.exec .started [.recv fileAlert, .tick (serverAnswers false)] = some s ∧
      ¬ s.NothingLost := by
  refine ⟨_, rfl, fun h => ?_⟩
  rcases h.kept 0 (by decide) with h | h <;> exact absurd h (by decide)

/-- An alert that is uploaded at the second attempt, after its JSON was not built at first. -/
theorem nothingLost_iff_uploads_retry :
    ∃ s, alertLog.exec .started [.recv fileAlert, .tick ⟨fun _ => .error "", fun _ => false⟩,
        .tick (serverAnswers true)] = some s ∧ s.NothingLost := by
  have hmeets : alertLog.Meets AlertState.Ok .started [.recv fileAlert,
      .tick ⟨fun _ => .error "", fun _ => false⟩, .tick (serverAnswers true)] := by
    refine ⟨trivial, fun s hs => ⟨fun _ json hjson => ?_, fun t ht => ⟨fun _ _ _ => rfl, ?_⟩⟩⟩
    · obtain rfl := Option.some.inj hs
      cases hjson
    · exact fun _ _ => trivial
  exact ⟨_, rfl, (nothingLost_iff_uploads rfl).mpr hmeets _ _ (List.prefix_refl _) rfl⟩

end LinuxAgent.Reporter
