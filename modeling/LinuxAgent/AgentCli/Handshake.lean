import LinuxAgent.AgentCli.Server

/-!
# The greeting of an agent

An agent that has connected sends one line with its identity and waits for the answer.
The console reads the line in a task that starts before the client is saved. If the line
is handled first, the identity is not kept and nothing is answered. The agent gets its
answer in every run in which one read returns the line, the client is saved before the
identity is, and the answer is written.
-/

namespace LinuxAgent.AgentCli

/-- What `connect_and_auth` sends. -/
def greetingLine (uid : String) : List UInt8 :=
  Utf8.encode (greeting.toList ++ (uid.toList ++ ['\n']))

/-- The console, and what an agent has sent that is not read yet. -/
structure Handshake where
  server : Server
  unread : List UInt8

/-- A step of one of the two tasks of a connection, which are tasks 1 and 2. -/
inductive HandshakeAction where
  | accept (env : Env)
  /-- A read returns some bytes of those that are unread. -/
  | reader (env : Env) (count : ℕ)

/-- The reader waits for data. -/
def Server.reading (s : Server) : Bool :=
  match (s.tasks[2]? : Option Point) with
  | some (.reading _) => true
  | _ => false

/-- One step of the tasks of a connection. -/
def Handshake.step (h : Handshake) : HandshakeAction → Option Handshake
  | .accept env => (h.server.step (.advance 1 env)).map fun s => { h with server := s }
  | .reader env count =>
    if h.server.reading then
      if 0 < count ∧ count ≤ h.unread.length then
        (h.server.step (.advance 2 { env with data := h.unread.take count })).map fun s =>
          { server := s, unread := h.unread.drop count }
      else none
    else (h.server.step (.advance 2 env)).map fun s => { h with server := s }

/-- The connection of the client `id` in the console with these clients, after the agent
has sent its line. -/
def Handshake.connected (shared : Shared) (id : ℕ) (uid : String) : Handshake where
  server := {
    shared := shared
    tasks := [.select, .insertClients id, .reading id]
    nextId := id + 1 }
  unread := greetingLine uid

/-- The interleavings of the two tasks of a new client. -/
def handshake (id : ℕ) (uid : String) : Runs.System Handshake HandshakeAction where
  init := fun h => ∃ shared : Shared, id ∉ shared.clients ∧ (∀ w ∈ shared.written, w.1 ≠ id) ∧
    h = Handshake.connected shared id uid
  step := Handshake.step

/-- A read returns the line, an identity is registered after the client was saved, and the
answer is written. -/
def Handshake.ok (h : Handshake) : HandshakeAction → Bool
  | .accept _ => true
  | .reader env count =>
    match (h.server.tasks[2]? : Option Point) with
    | some (.reading _) => count = h.unread.length
    | some (.registerClients id _) => id ∈ h.server.shared.clients
    | some (.hello _ _) => env.ok
    | _ => true

/-- What was written to a client. -/
def Shared.writtenTo (c : Shared) (id : ℕ) : List UInt8 :=
  (c.written.filter fun w => w.1 = id).flatMap Prod.snd

/-- The console has the identity of the client, and the agent has the answer that it waits
for. -/
structure Handshake.Completed (h : Handshake) (id : ℕ) (uid : String) : Prop where
  registered : h.server.shared.clients.lookup id = some (some uid)
  answer : h.server.shared.writtenTo id = hello uid
  agent : ∀ cuts, (connectAndAuth uid ⟨h.server.shared.writtenTo id, cuts⟩).isSome = true

/-- The line break is trimmed with white space. -/
theorem trim_append_newline {uid : String} (hhead : uid.toList.head?.any Text.isWhiteSpace = false)
    (hlast : uid.toList.getLast?.any Text.isWhiteSpace = false) :
    Text.trim (String.ofList (uid.toList ++ ['\n'])) = uid := by
  have hline : Text.trimChars (uid.toList ++ ['\n']) = uid.toList := by
    cases huid : uid.toList with
    | nil => decide
    | cons c cs =>
      have hfront : (c :: cs ++ ['\n']).head?.any Text.isWhiteSpace = false := by
        rwa [huid] at hhead
      have hback : (c :: cs).reverse.head?.any Text.isWhiteSpace = false := by
        rwa [huid, ← List.head?_reverse] at hlast
      have hbreak : Text.isWhiteSpace '\n' = true := by decide
      rw [Text.trimChars, Text.dropWhile_eq_self hfront, List.reverse_append,
        List.reverse_singleton, List.singleton_append, List.dropWhile_cons_of_pos hbreak,
        Text.dropWhile_eq_self hback, List.reverse_reverse]
  rw [Text.trim, String.toList_ofList, hline, String.ofList_toList]

/-- The line is a greeting with the identity. -/
theorem afterLookup_greetingLine {uid : String}
    (hhead : uid.toList.head?.any Text.isWhiteSpace = false)
    (hlast : uid.toList.getLast?.any Text.isWhiteSpace = false) (id : ℕ) :
    afterLookup id (String.ofList (Utf8.lossy (greetingLine uid))) = .registerClients id uid := by
  have hprefix : greeting.toList.isPrefixOf (greeting.toList ++ (uid.toList ++ ['\n'])) = true :=
    List.isPrefixOf_iff_prefix.mpr (List.prefix_append _ _)
  have hdrop : (greeting.toList ++ (uid.toList ++ ['\n'])).drop greeting.length =
      uid.toList ++ ['\n'] := by
    rw [← String.length_toList, List.drop_left]
  rw [afterLookup, greetingLine, Utf8.lossy_encode, textEvent, String.toList_ofList,
    if_pos hprefix, hdrop, trim_append_newline hhead hlast]

/-- The agent accepts the answer. -/
theorem isSome_connectAndAuth {uid : String} (huid : '\n' ∉ uid.toList) (cuts : ℕ → ℕ) :
    (connectAndAuth uid ⟨hello uid, cuts⟩).isSome = true := by
  obtain ⟨k, -, -, hauth⟩ := exists_connectAndAuth huid [] cuts
  rw [List.append_nil] at hauth
  rw [hauth, Option.isSome_some]

/-- A greeting is never empty. -/
theorem greetingLine_ne_nil (uid : String) : greetingLine uid ≠ [] := by
  intro h
  have hcount : (greetingLine uid).count newline =
      (greeting.toList ++ (uid.toList ++ ['\n'])).count '\n' :=
    Utf8.count_encode (c := '\n') (by decide) _
  rw [h, List.count_nil, List.count_append, List.count_append, List.count_singleton_self] at hcount
  omega

/-- The line goes to the console as text. -/
theorem afterRead_greetingLine (hmarker : Text.position startBytes (greetingLine uid) = none)
    (id : ℕ) : afterRead id (greetingLine uid) =
      .lookupClients id (String.ofList (Utf8.lossy (greetingLine uid))) := by
  rw [afterRead, if_neg (greetingLine_ne_nil uid), hmarker]
  rfl

/-- Where the reader stands and what it has not read yet. -/
inductive Stage (id : ℕ) (uid : String) (c : Shared) : Point → List UInt8 → Prop
  | unread (hw : c.writtenTo id = []) : Stage id uid c (.reading id) (greetingLine uid)
  | lookup (hw : c.writtenTo id = []) :
    Stage id uid c (.lookupClients id (String.ofList (Utf8.lossy (greetingLine uid)))) []
  | register (hw : c.writtenTo id = []) : Stage id uid c (.registerClients id uid) []
  | autoSelect (hw : c.writtenTo id = []) (huid : c.clients.lookup id = some (some uid)) :
    Stage id uid c (.autoSelectCurrent id uid) []
  | helloClients (hw : c.writtenTo id = []) (huid : c.clients.lookup id = some (some uid)) :
    Stage id uid c (.helloClients id uid) []
  | helloWriter (hw : c.writtenTo id = []) (huid : c.clients.lookup id = some (some uid)) :
    Stage id uid c (.helloWriter id uid) []
  | hello (hw : c.writtenTo id = []) (huid : c.clients.lookup id = some (some uid)) :
    Stage id uid c (.hello id uid) []
  | answered (hw : c.writtenTo id = AgentCli.hello uid)
    (huid : c.clients.lookup id = some (some uid)) : Stage id uid c (.reading id) []

variable {id : ℕ} {uid : String} {c : Shared} {p : Point} {bytes : List UInt8}
  {h h' : Handshake}

/-- The accepting task has saved the client, or is about to. -/
def Saved (id : ℕ) (c : Shared) (p : Point) : Prop :=
  p = .insertClients id ∧ id ∉ c.clients ∨ p = .finished

/-- The two tasks of a connection. -/
structure Handshake.Sound (h : Handshake) (id : ℕ) (uid : String) : Prop where
  tasks : ∃ accept reader, h.server.tasks = [.select, accept, reader] ∧
    Saved id h.server.shared accept ∧ Stage id uid h.server.shared reader h.unread

/-- The client is saved at any stage before its identity is. -/
theorem Stage.insert (hstage : Stage id uid c p bytes) (hid : id ∉ c.clients) :
    Stage id uid { c with clients := c.clients.insert id none } p bytes := by
  have hnone : c.clients.lookup id ≠ some (some uid) := by
    rw [AList.lookup_eq_none.mpr hid]
    nofun
  cases hstage with
  | unread hw => exact .unread hw
  | lookup hw => exact .lookup hw
  | register hw => exact .register hw
  | _ => contradiction

/-- The accepting task saves the client. -/
theorem Handshake.Sound.accept {env : Env} (hs : h.Sound id uid)
    (hstep : h.step (.accept env) = some h') : h'.Sound id uid := by
  obtain ⟨accept, reader, htasks, hsaved, hstage⟩ := hs.tasks
  obtain ⟨s, hserver, rfl⟩ := Option.map_eq_some_iff.mp hstep
  obtain ⟨p, next, hp, -, hresume, rfl⟩ := exists_of_step_advance hserver
  obtain rfl : accept = p := by simpa [htasks] using hp
  rcases hsaved with ⟨rfl, hid⟩ | rfl
  · cases hresume
    exact ⟨.finished, reader, by simp [Server.moved, htasks], .inr rfl, hstage.insert hid⟩
  · cases hresume

/-- A stage of the greeting, and the next one. -/
theorem Stage.next {env : Env} {free : LockName → Bool} {c' : Shared} {p q : Point}
    (hhead : uid.toList.head?.any Text.isWhiteSpace = false)
    (hlast : uid.toList.getLast?.any Text.isWhiteSpace = false)
    (hmarker : Text.position startBytes (greetingLine uid) = none)
    (hstage : Stage id uid c p bytes) (hresume : resume env free c p = some (c', q))
    (hdata : p = .reading id → bytes ≠ [] ∧ env.data = bytes)
    (hregister : p = .registerClients id uid → id ∈ c.clients)
    (hwrite : p = .hello id uid → env.ok = true) :
    Stage id uid c' q [] ∧ ((∀ other, other ∈ c'.clients ↔ other ∈ c.clients)) := by
  cases hstage with
  | unread hw =>
    rw [resume, (hdata rfl).2] at hresume
    split at hresume
    · obtain ⟨rfl, rfl⟩ := Prod.mk.inj (Option.some.inj hresume)
      rw [afterRead_greetingLine hmarker]
      exact ⟨.lookup hw, fun _ => Iff.rfl⟩
    · cases hresume
  | lookup hw =>
    obtain ⟨rfl, rfl⟩ := Prod.mk.inj (Option.some.inj hresume)
    rw [afterLookup_greetingLine hhead hlast]
    exact ⟨.register hw, fun _ => Iff.rfl⟩
  | register hw =>
    obtain ⟨rfl, rfl⟩ := Prod.mk.inj (Option.some.inj hresume)
    have heq : c.setUid id uid = { c with clients := c.clients.insert id (some uid) } :=
      if_pos (hregister rfl)
    refine ⟨?_, fun other => mem_setUid c id other uid⟩
    rw [heq]
    exact .autoSelect hw (AList.lookup_insert _)
  | autoSelect hw huid =>
    obtain ⟨rfl, rfl⟩ := Prod.mk.inj (Option.some.inj hresume)
    rcases autoSelect_cases c id with ⟨-, heq⟩ | heq <;> rw [heq] <;>
      exact ⟨.helloClients hw huid, fun _ => Iff.rfl⟩
  | helloClients hw huid =>
    obtain ⟨rfl, rfl⟩ := Prod.mk.inj (Option.some.inj hresume)
    have hid : id ∈ c.clients := by
      rw [← AList.lookup_isSome, huid]
      rfl
    rw [if_pos hid]
    exact ⟨.helloWriter hw huid, fun _ => Iff.rfl⟩
  | helloWriter hw huid =>
    obtain ⟨rfl, rfl⟩ := Prod.mk.inj (Option.some.inj hresume)
    exact ⟨.hello hw huid, fun _ => Iff.rfl⟩
  | hello hw huid =>
    obtain ⟨rfl, rfl⟩ := Prod.mk.inj (Option.some.inj hresume)
    rw [if_pos (hwrite rfl)]
    refine ⟨.answered ?_ huid, fun _ => Iff.rfl⟩
    rw [Shared.writtenTo] at hw ⊢
    rw [Shared.write, List.filter_append, List.flatMap_append, hw]
    simp
  | answered hw huid => exact absurd rfl (hdata rfl).1

/-- The reader waits for data, or has read the line. -/
theorem Stage.reading_or (hstage : Stage id uid c p bytes) :
    p = .reading id ∨ (∀ other, p ≠ .reading other) ∧ bytes = [] := by
  cases hstage with
  | unread hw => exact .inl rfl
  | answered hw huid => exact .inl rfl
  | _ => exact .inr ⟨nofun, rfl⟩

/-- A step of the reader: it reads the whole line, or has read it. -/
theorem Handshake.exists_of_step_reader {reader : Point} {env : Env} {count : ℕ}
    (hreader : h.server.tasks[2]? = some reader)
    (hstage : Stage id uid h.server.shared reader h.unread)
    (hok : h.ok (.reader env count) = true) (hstep : h.step (.reader env count) = some h') :
    ∃ env' next, resume env' h.server.free h.server.shared reader = some next ∧
      h' = { server := h.server.moved 2 next, unread := [] } ∧
      (reader = .reading id → h.unread ≠ [] ∧ env'.data = h.unread) ∧
      (reader = .hello id uid → env'.ok = true) := by
  rw [Handshake.step] at hstep
  rcases hstage.reading_or with rfl | ⟨hreading, hunread⟩
  · have hall : count = h.unread.length := by simpa [Handshake.ok, hreader] using hok
    rw [if_pos (by simp [Server.reading, hreader])] at hstep
    split at hstep
    · next hcount =>
      obtain ⟨s, hserver, rfl⟩ := Option.map_eq_some_iff.mp hstep
      obtain ⟨p, next, hp, -, hresume, rfl⟩ := exists_of_step_advance hserver
      obtain rfl : .reading id = p := Option.some.inj (hreader.symm.trans hp)
      refine ⟨_, next, hresume, by rw [hall, List.drop_length], fun _ => ⟨?_, ?_⟩, nofun⟩
      · rintro hnil
        rw [hnil, List.length_nil] at hcount
        omega
      · simp only [hall, List.take_length]
    · cases hstep
  · have hnot : h.server.reading = false := by
      unfold Server.reading
      split
      · next other hother =>
        exact absurd (Option.some.inj (hreader.symm.trans hother)) (hreading other)
      · rfl
    rw [if_neg (by simp [hnot])] at hstep
    obtain ⟨s, hserver, rfl⟩ := Option.map_eq_some_iff.mp hstep
    obtain ⟨p, next, hp, -, hresume, rfl⟩ := exists_of_step_advance hserver
    obtain rfl : reader = p := Option.some.inj (hreader.symm.trans hp)
    refine ⟨env, next, hresume, by rw [hunread], fun hid => absurd hid (hreading id), ?_⟩
    rintro rfl
    simpa [Handshake.ok, hreader] using hok

section Trimmed

variable (hhead : uid.toList.head?.any Text.isWhiteSpace = false)
  (hlast : uid.toList.getLast?.any Text.isWhiteSpace = false)
  (hmarker : Text.position startBytes (greetingLine uid) = none)

include hhead hlast hmarker

/-- The reader goes on. -/
theorem Handshake.Sound.reader {env : Env} {count : ℕ} (hs : h.Sound id uid)
    (hok : h.ok (.reader env count) = true) (hstep : h.step (.reader env count) = some h') :
    h'.Sound id uid := by
  obtain ⟨accept, reader, htasks, hsaved, hstage⟩ := hs.tasks
  have hreader : h.server.tasks[2]? = some reader := by simp [htasks]
  have hregister : reader = .registerClients id uid → id ∈ h.server.shared.clients := by
    rintro rfl
    simpa [Handshake.ok, hreader] using hok
  obtain ⟨env', next, hresume, rfl, hdata, hwrite⟩ :=
    Handshake.exists_of_step_reader hreader hstage hok hstep
  obtain ⟨hnext, hclients⟩ :=
    hstage.next hhead hlast hmarker hresume hdata hregister hwrite
  refine ⟨accept, next.2, by simp [Server.moved, htasks], ?_, hnext⟩
  rcases hsaved with ⟨rfl, hid⟩ | rfl
  · exact .inl ⟨rfl, fun h => hid ((hclients id).mp h)⟩
  · exact .inr rfl

/-- Runs that meet the condition. -/
theorem Handshake.Sound.of_reaches
    (hreach : (handshake id uid).Reaches (fun h a => h.ok a = true) h) : h.Sound id uid := by
  refine Runs.System.Reaches.invariant (I := fun h => h.Sound id uid) hreach ?_ ?_
  · rintro _ ⟨shared, hid, hwritten, rfl⟩
    have hw : shared.writtenTo id = [] := by
      rw [Shared.writtenTo, List.filter_eq_nil_iff.mpr (by simpa using hwritten), List.flatMap_nil]
    exact ⟨.insertClients id, .reading id, rfl, .inl ⟨rfl, hid⟩, .unread hw⟩
  · intro h a h' hs hok hstep
    cases a with
    | accept env => exact hs.accept hstep
    | reader env count => exact hs.reader hhead hlast hmarker hok hstep

/-- An identity without line breaks, without white space at its ends and without the mark
of a file is kept and answered in every run in which one read returns the line, the client
is saved before its identity is, and the answer is written. -/
theorem handshake_completed (huid : '\n' ∉ uid.toList)
    (hreach : (handshake id uid).Reaches (fun h a => h.ok a = true) h)
    (hback : h.server.reading = true) (hread : h.unread = []) : h.Completed id uid := by
  have hs := Handshake.Sound.of_reaches hhead hlast hmarker hreach
  obtain ⟨accept, reader, htasks, -, hstage⟩ := hs.tasks
  rw [hread] at hstage
  generalize hbytes : ([] : List UInt8) = bytes at hstage
  cases hstage with
  | unread hw => exact absurd hbytes.symm (greetingLine_ne_nil uid)
  | answered hw hregistered =>
    refine ⟨hregistered, hw, fun cuts => ?_⟩
    rw [hw]
    exact isSome_connectAndAuth huid cuts
  | _ => simp [Server.reading, htasks] at hback

end Trimmed

/-- The reader reads the whole line of the agent `A` and makes some more steps. -/
def lineHandled (count : ℕ) : List HandshakeAction :=
  .reader Env.fine (greetingLine "A").length :: List.replicate count (.reader Env.fine 0)

/-- A fresh connection is where the handshake starts. -/
theorem init_handshake : (handshake 0 "A").init (Handshake.connected .empty 0 "A") :=
  ⟨.empty, AList.notMem_empty 0, nofun, rfl⟩

/-- The reader has handled the line before the client is saved: the console does not know
the identity, and the agent has no answer. -/
theorem handshake_not_completed : ∃ h, (handshake 0 "A").Reachable h ∧ h.server.reading = true ∧
    h.unread = [] ∧ ¬ h.Completed 0 "A" := by
  have hrun : (((handshake 0 "A").exec (Handshake.connected .empty 0 "A")
      (lineHandled 4 ++ [HandshakeAction.accept Env.fine])).any fun h =>
        h.server.reading && h.unread.isEmpty && (h.server.shared.writtenTo 0).isEmpty) = true := by
    decide
  obtain ⟨h, hexec, hcheck⟩ := (Option.any_eq_true _ _).mp hrun
  simp only [Bool.and_eq_true, List.isEmpty_iff] at hcheck
  refine ⟨h, Runs.System.Reachable.exec (.init init_handshake) hexec, hcheck.1.1, hcheck.1.2, ?_⟩
  intro hcompleted
  have hanswer : hello "A" = [] := hcompleted.answer.symm.trans hcheck.2
  exact absurd hanswer (by decide)

/-- The client is saved while the reader waits for the table. -/
theorem handshake_completed_in_time :
    ∃ h, (handshake 0 "A").exec (Handshake.connected .empty 0 "A")
        (lineHandled 1 ++ [.accept Env.fine] ++ List.replicate 5 (.reader Env.fine 0)) =
          some h ∧ h.server.reading = true ∧ h.unread = [] ∧ h.Completed 0 "A" := by
  have hrun : (((handshake 0 "A").exec (Handshake.connected .empty 0 "A")
      (lineHandled 1 ++ [HandshakeAction.accept Env.fine] ++
        List.replicate 5 (HandshakeAction.reader Env.fine 0))).any
        fun h => h.server.reading && h.unread.isEmpty) = true := by
    decide
  have hmeets : (handshake 0 "A").Meets (fun h a => h.ok a = true)
      (Handshake.connected .empty 0 "A")
      (lineHandled 1 ++ [HandshakeAction.accept Env.fine] ++
        List.replicate 5 (HandshakeAction.reader Env.fine 0)) := by
    decide
  obtain ⟨h, hexec, hcheck⟩ := (Option.any_eq_true _ _).mp hrun
  simp only [Bool.and_eq_true, List.isEmpty_iff] at hcheck
  have hreach := Runs.System.Reaches.exec (.init init_handshake) hmeets hexec
  exact ⟨h, hexec, hcheck.1, hcheck.2, handshake_completed (by decide) (by decide) (by decide)
    (by decide) hreach hcheck.1 hcheck.2⟩

end LinuxAgent.AgentCli
