import LinuxAgent.Login.Services

/-!
# One baton between the two login services

Exactly one thing is under way at any time: a login, a token in its channel, a
run of the fetcher, or an offline signal in its channel. The count of these is
conserved by every step, so neither service can wait for the other in vain, and
the token at hand is the one of the latest login.
-/

namespace LinuxAgent.Login

open Runs

/-- `start_services` is authenticating or sending a token. -/
def Online.Busy : Online → Prop
  | .authenticating | .sending _ => True
  | _ => False

instance : DecidablePred Online.Busy
  | .authenticating | .sending _ => isTrue trivial
  | .storing _ | .surveying _ _ | .listening _ _ => isFalse id

/-- `task_fetcher` is running or sending its offline signal. -/
def Fetcher.Busy : Fetcher → Prop
  | .running _ | .signalling => True
  | .waiting => False

instance : DecidablePred Fetcher.Busy
  | .running _ | .signalling => isTrue trivial
  | .waiting => isFalse id

/-- The tokens and the offline signals in their channels, and the services that
are busy. -/
def State.baton (s : State) : ℕ :=
  s.tokens.queue.length + s.offline.queue.length +
    (if s.online.Busy then 1 else 0) + (if s.fetcher.Busy then 1 else 0)

/-- Each service waits for the other, and neither has sent anything. -/
def State.Stuck (s : State) : Prop :=
  ¬s.online.Busy ∧ ¬s.fetcher.Busy ∧ s.tokens.queue = [] ∧ s.offline.queue = []

/-- `TaskFetcher::run` never returns without an error. -/
theorem turn_error {reply : TaskReply} {result : Except String Unit}
    (h : TaskFetcher.turn reply = some result) : Fetcher.finish result = .signalling := by
  unfold TaskFetcher.turn at h
  split at h
  · cases h
  · cases h
  · split at h
    · cases h
    · split at h <;> cases h <;> rfl

/-- The same for a start without a base address. -/
theorem enter_error {baseUrl : Option String} {result : Except String Unit}
    (h : TaskFetcher.enter baseUrl = some result) : Fetcher.finish result = .signalling := by
  cases baseUrl <;> cases h
  rfl

/-- Everything that a step can do to the baton and to the tokens. -/
inductive Moves (s : State) : State → Prop
  | login (token : String) (honline : s.online = .authenticating) :
      Moves s { s with online := .sending token, issued := token :: s.issued }
  | loginFailed (honline : s.online = .authenticating) :
      Moves s { s with online := .authenticating }
  | sendToken {token : String} {tokens} (honline : s.online = .sending token)
      (hqueue : tokens.queue = s.tokens.queue ++ [token]) :
      Moves s { s with online := .storing token, tokens := tokens }
  | listen {online : Online} {bootToken : Option String} {uploads : List String}
      (honline : ¬s.online.Busy) (hnext : ¬online.Busy) :
      Moves s { s with online := online, bootToken := bootToken, uploads := uploads }
  | receiveOffline {signal : Bool} {online : Online} {offline} (honline : ¬s.online.Busy)
      (hqueue : s.offline.queue = signal :: offline.queue)
      (htrue : signal = true → online = .authenticating)
      (hfalse : signal = false → ¬online.Busy) :
      Moves s { s with online := online, offline := offline }
  | receiveToken {token : String} {fetcher : Fetcher} {tokens} (hfetcher : s.fetcher = .waiting)
      (hqueue : s.tokens.queue = token :: tokens.queue)
      (hnext : fetcher = .running token ∨ fetcher = .signalling) :
      Moves s { s with fetcher := fetcher, tokens := tokens }
  | fetch {token : String} {fetcher : Fetcher} (hfetcher : s.fetcher = .running token)
      (hnext : fetcher = .running token ∨ fetcher = .signalling) :
      Moves s { s with fetcher := fetcher }
  | sendOffline {offline} (hfetcher : s.fetcher = .signalling)
      (hqueue : offline.queue = s.offline.queue ++ [true]) :
      Moves s { s with fetcher := .waiting, offline := offline }

/-- The steps of `start_services`. -/
theorem moves_of_stepOnline {s s' : State} {a : Action}
    (hst : stepOnline s s.online a = some s') : Moves s s' := by
  generalize honline : s.online = online at hst
  unfold stepOnline at hst
  split at hst
  case h_1 reply =>
    split at hst <;> cases hst
    · exact .login _ honline
    · exact .loginFailed honline
  case h_2 token =>
    obtain ⟨tokens, hsend, rfl⟩ := Option.map_eq_some_iff.mp hst
    exact .sendToken honline (Mpsc.Channel.send_eq_some hsend).2
  case h_3 token =>
    cases hst
    exact .listen (by simp [honline, Online.Busy]) id
  case h_4 token hw switch timeSecs =>
    cases hst
    exact .listen (by simp [honline, Online.Busy]) id
  case h_5 token hw =>
    cases hst
    exact .listen (by simp [honline, Online.Busy]) id
  case h_6 token hw metrics =>
    split at hst <;> cases hst
    exact .listen (by simp [honline, Online.Busy]) id
  case h_7 token hw =>
    obtain ⟨⟨signal, offline⟩, hrecv, rfl⟩ := Option.map_eq_some_iff.mp hst
    refine .receiveOffline (by simp [honline, Online.Busy]) (Mpsc.Channel.recv_eq_some hrecv) ?_ ?_
    · rintro rfl
      rfl
    · rintro rfl
      exact id
  case h_8 => cases hst

/-- The steps of `task_fetcher`. -/
theorem moves_of_stepFetcher {s s' : State} {a : Action}
    (hst : stepFetcher s s.fetcher a = some s') : Moves s s' := by
  generalize hfetcher : s.fetcher = fetcher at hst
  unfold stepFetcher at hst
  split at hst
  case h_1 baseUrl =>
    obtain ⟨⟨token, tokens⟩, hrecv, rfl⟩ := Option.map_eq_some_iff.mp hst
    refine .receiveToken hfetcher (Mpsc.Channel.recv_eq_some hrecv) ?_
    cases henter : TaskFetcher.enter baseUrl with
    | none => exact .inl rfl
    | some result => exact .inr (enter_error henter)
  case h_2 token reply =>
    cases hst
    refine .fetch hfetcher ?_
    cases hturn : TaskFetcher.turn reply with
    | none => exact .inl rfl
    | some result => exact .inr (turn_error hturn)
  case h_3 =>
    obtain ⟨offline, hsend, rfl⟩ := Option.map_eq_some_iff.mp hst
    exact .sendOffline hfetcher (Mpsc.Channel.send_eq_some hsend).2
  case h_4 => cases hst

/-- Every step of the system is one of the moves. -/
theorem moves_of_step {s s' : State} {a : Action} (hst : system.step s a = some s') :
    Moves s s' := by
  change (stepOnline s s.online a).or (stepFetcher s s.fetcher a) = some s' at hst
  rcases Option.or_eq_some_iff.mp hst with hst | ⟨-, hst⟩
  · exact moves_of_stepOnline hst
  · exact moves_of_stepFetcher hst

/-- The conserved count, with what it needs to be kept and what it is good for. -/
structure Inv (s : State) : Prop where
  /-- There is exactly one baton. -/
  baton_eq : s.baton = 1
  /-- Only `true` is ever signalled. -/
  signals : ∀ signal ∈ s.offline.queue, signal = true
  /-- A token under way or in use is the one of the latest login. -/
  latest : ∀ token, s.online = .sending token ∨ token ∈ s.tokens.queue ∨
    s.fetcher = .running token → s.issued.head? = some token

/-- A busy `start_services` has the baton. -/
theorem Inv.of_online_busy {s : State} (hs : Inv s) (honline : s.online.Busy) :
    s.tokens.queue = [] ∧ s.offline.queue = [] ∧ ¬s.fetcher.Busy := by
  have hbaton := hs.baton_eq
  simp only [State.baton, if_pos honline] at hbaton
  split at hbaton
  · omega
  · exact ⟨List.length_eq_zero_iff.mp (by omega), List.length_eq_zero_iff.mp (by omega), ‹_›⟩

/-- What one step keeps. -/
theorem Inv.moves {s s' : State} (hs : Inv s) (hmove : Moves s s') : Inv s' := by
  have hbaton := hs.baton_eq
  unfold State.baton at hbaton
  cases hmove with
  | login token honline =>
    have hbusy : s.online.Busy := by rw [honline]; trivial
    obtain ⟨htokens, hoffline, hfetcher⟩ := hs.of_online_busy hbusy
    constructor
    · simp only [State.baton, htokens, hoffline, if_neg hfetcher]
      rfl
    · exact hs.signals
    · rintro t (ht | ht | ht)
      · cases ht
        rfl
      · simp only [htokens, List.not_mem_nil] at ht
      · have hrunning : s.fetcher = .running t := ht
        rw [hrunning] at hfetcher
        exact absurd trivial hfetcher
  | loginFailed honline =>
    refine ⟨?_, hs.signals, fun t ht => hs.latest t (ht.imp_left ?_)⟩
    · simpa only [State.baton, honline] using hbaton
    · rintro ⟨⟩
  | @sendToken token tokens honline hqueue =>
    have hbusy : s.online.Busy := by rw [honline]; trivial
    obtain ⟨htokens, -, hfetcher⟩ := hs.of_online_busy hbusy
    constructor
    · rw [if_pos hbusy] at hbaton
      simp only [State.baton, hqueue, List.length_append, List.length_singleton]
      rw [if_neg (show ¬(Online.storing token).Busy from id)]
      omega
    · exact hs.signals
    · rintro t (ht | ht | ht)
      · cases ht
      · rw [hqueue, htokens, List.nil_append, List.mem_singleton] at ht
        exact hs.latest t (.inl (by rw [ht, honline]))
      · exact hs.latest t (.inr (.inr ht))
  | listen honline hnext =>
    refine ⟨?_, hs.signals, fun t ht => hs.latest t (ht.imp_left ?_)⟩
    · rw [if_neg honline] at hbaton
      simpa only [State.baton, if_neg hnext] using hbaton
    · rintro rfl
      exact absurd trivial hnext
  | @receiveOffline signal online offline honline hqueue htrue hfalse =>
    have hsignal : signal = true := hs.signals signal (by simp [hqueue])
    obtain rfl := htrue hsignal
    rw [if_neg honline, hqueue, List.length_cons] at hbaton
    constructor
    · simp only [State.baton]
      rw [if_pos (show Online.Busy .authenticating from trivial)]
      omega
    · exact fun b hb => hs.signals b (by simp [hqueue, hb])
    · exact fun t ht => hs.latest t (ht.imp_left (by rintro ⟨⟩))
  | @receiveToken token fetcher tokens hfetcher hqueue hnext =>
    have hbusy : fetcher.Busy := by rcases hnext with rfl | rfl <;> trivial
    rw [hfetcher, if_neg (show ¬Fetcher.Busy .waiting from id), hqueue, List.length_cons] at hbaton
    constructor
    · simp only [State.baton, if_pos hbusy]
      omega
    · exact hs.signals
    · rintro t (ht | ht | ht)
      · exact hs.latest t (.inl ht)
      · exact hs.latest t (.inr (.inl (by simp [hqueue, ht])))
      · rcases hnext with rfl | rfl <;> cases ht
        exact hs.latest token (.inr (.inl (by simp [hqueue])))
  | @fetch token fetcher hfetcher hnext =>
    have hbusy : fetcher.Busy := by rcases hnext with rfl | rfl <;> trivial
    rw [hfetcher, if_pos (show (Fetcher.running token).Busy from trivial)] at hbaton
    constructor
    · simpa only [State.baton, if_pos hbusy] using hbaton
    · exact hs.signals
    · rintro t (ht | ht | ht)
      · exact hs.latest t (.inl ht)
      · exact hs.latest t (.inr (.inl ht))
      · rcases hnext with rfl | rfl <;> cases ht
        exact hs.latest token (.inr (.inr hfetcher))
  | sendOffline hfetcher hqueue =>
    rw [hfetcher, if_pos (show Fetcher.Busy .signalling from trivial)] at hbaton
    constructor
    · simp only [State.baton, hqueue, List.length_append, List.length_singleton]
      rw [if_neg (show ¬Fetcher.Busy .waiting from id)]
      omega
    · intro b hb
      rw [hqueue, List.mem_append, List.mem_singleton] at hb
      exact hb.elim (hs.signals b) id
    · rintro t (ht | ht | ht)
      · exact hs.latest t (.inl ht)
      · exact hs.latest t (.inr (.inl ht))
      · cases ht

/-- The invariant in every reachable state. -/
theorem Inv.of_reachable {s : State} (hs : system.Reachable s) : Inv s := by
  refine hs.invariant ?_ fun s a s' ih _ hst => ih.moves (moves_of_step hst)
  rintro s rfl
  exact ⟨rfl, by decide, by rintro t (ht | ht | ht) <;> cases ht⟩

/-- **Login baton.** In every interleaving of the two services there is exactly
one baton; hence they never wait for each other in vain, at most one token is in
its channel, and the fetcher runs with the token of the latest login. -/
theorem baton_conserved {s : State} (hs : system.Reachable s) :
    s.baton = 1 ∧ ¬s.Stuck ∧ s.tokens.queue.length ≤ 1 ∧
      ∀ token, s.fetcher = .running token → s.issued.head? = some token := by
  have hinv := Inv.of_reachable hs
  have hbaton := hinv.baton_eq
  refine ⟨hbaton, ?_, ?_, fun token h => hinv.latest token (.inr (.inr h))⟩
  · rintro ⟨honline, hfetcher, htokens, hoffline⟩
    simp [State.baton, honline, hfetcher, htokens, hoffline] at hbaton
  · unfold State.baton at hbaton
    omega

/-- A second login after a refused token: the state in which the fetcher runs
with the second token. -/
def secondRun : State :=
  { online := .listening "second" ⟨none, false⟩, fetcher := .running "second"
    tokens := Mpsc.channel, offline := Mpsc.channel, bootToken := some "second"
    issued := ["second", "first"], uploads := [] }

/-- The steps that lead there, a failed login included. -/
def secondRunActions : List Action :=
  [.authenticate (.failed "timeout"), .authenticate (.parsed "000000" "first" ""), .sendToken,
    .receiveToken (some "https://server"), .setToken, .fetch (.parsed (some "401") []),
    .sendOffline, .survey false 0, .receiveOffline,
    .authenticate (.parsed "000000" "second" ""), .sendToken, .setToken, .survey false 0,
    .receiveToken (some "https://server"), .fetch (.parsed (some "000000") [1])]

/-- The second run of the fetcher is reachable, and has the only baton. -/
theorem baton_conserved_secondRun :
    secondRun.fetcher = .running "second" ∧ secondRun.baton = 1 ∧ ¬secondRun.Stuck ∧
      secondRun.tokens.queue.length ≤ 1 ∧
      ∀ token, secondRun.fetcher = .running token → secondRun.issued.head? = some token := by
  have hexec : system.exec initial secondRunActions = some secondRun := by decide
  exact ⟨rfl, baton_conserved (System.Reachable.exec (.init rfl) hexec)⟩

/-- Steps other than the idle tick of the listening loop are called progress. -/
def Progress (s : State) : Prop := ∃ a s', a ≠ .checkTick ∧ system.step s a = some s'

/-- A step of either service is a step of the system. -/
private theorem Progress.of_isSome {s : State} {a : Action} (ha : a ≠ .checkTick)
    (h : (stepOnline s s.online a).isSome ∨ (stepFetcher s s.fetcher a).isSome) :
    Progress s := by
  have hsome : ((stepOnline s s.online a).or (stepFetcher s s.fetcher a)).isSome := by
    simpa only [Option.isSome_or, Bool.or_eq_true] using h
  obtain ⟨s', hs'⟩ := Option.isSome_iff_exists.mp hsome
  exact ⟨a, s', ha, hs'⟩

/-- While `start_services` listens, the fetcher has a step or has sent a signal. -/
private theorem Progress.of_listening {s : State} {token : String} {hw : Hardware} (hinv : Inv s)
    (honline : s.online = .listening token hw) : Progress s := by
  have hbaton := hinv.baton_eq
  rw [State.baton, honline, if_neg (show ¬(Online.listening token hw).Busy from id)] at hbaton
  cases hfetcher : s.fetcher with
  | running token =>
    exact .of_isSome (a := .fetch (.failed "")) (by simp) (.inr (by rw [hfetcher]; rfl))
  | signalling =>
    rw [hfetcher, if_pos (show Fetcher.Busy .signalling from trivial)] at hbaton
    have hroom : s.offline.queue.length < 8 := by omega
    refine .of_isSome (a := .sendOffline) (by simp) (.inr ?_)
    simpa only [hfetcher, stepFetcher, Option.isSome_map] using
      Mpsc.Channel.send_isSome.mpr hroom
  | waiting =>
    rw [hfetcher, if_neg (show ¬Fetcher.Busy .waiting from id)] at hbaton
    by_cases htokens : s.tokens.queue = []
    · have hoffline : s.offline.queue ≠ [] := by
        intro hempty
        simp [htokens, hempty] at hbaton
      refine .of_isSome (a := .receiveOffline) (by simp) (.inl ?_)
      simpa only [honline, stepOnline, Option.isSome_map] using
        Mpsc.Channel.recv_isSome.mpr hoffline
    · refine .of_isSome (a := .receiveToken none) (by simp) (.inr ?_)
      simpa only [hfetcher, stepFetcher, Option.isSome_map] using
        Mpsc.Channel.recv_isSome.mpr htokens

/-- In every reachable state some step is enabled that is not an idle tick. -/
theorem progress_of_reachable {s : State} (hs : system.Reachable s) : Progress s := by
  have hinv := Inv.of_reachable hs
  cases honline : s.online with
  | authenticating =>
    exact .of_isSome (a := .authenticate (.failed "")) (by simp) (.inl (by rw [honline]; rfl))
  | sending token =>
    have htokens := (hinv.of_online_busy (by rw [honline]; trivial)).1
    have hroom : s.tokens.queue.length < 8 := by rw [htokens]; decide
    refine .of_isSome (a := .sendToken) (by simp) (.inl ?_)
    simpa only [honline, stepOnline, Option.isSome_map] using Mpsc.Channel.send_isSome.mpr hroom
  | storing token => exact .of_isSome (a := .setToken) (by simp) (.inl (by rw [honline]; rfl))
  | surveying token hw =>
    exact .of_isSome (a := .survey false 0) (by simp) (.inl (by rw [honline]; rfl))
  | listening token hw => exact .of_listening hinv honline

end LinuxAgent.Login
