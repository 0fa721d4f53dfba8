import LinuxAgent.Task.ServerLists

/-!
# The lists in force

A list that the server has emptied does not reach the kernel: the tasks of the process
lists take a response without hashes for an error, and the task of the virtual ports
writes nothing when no rule is left. So the kernel has what the server has sent last just
as long as no list is emptied that still has entries in the kernel.
-/

namespace LinuxAgent.Task.ServerLists

open ProcessMgr

variable {K : Type}

/-- The hashes that should be on a list: those that were sent last, without those that were
sent for the other list since. -/
def expectedList (side : Side) : List Sent → Finset String
  | [] => ∅
  | .list sentSide hashes :: older =>
    if sentSide = side then hashes.toFinset else expectedList side older \ hashes.toFinset
  | .ports _ :: older => expectedList side older

/-- The rules that should be in force: those with a source that were sent last. -/
def expectedRules : List Sent → List String
  | [] => []
  | .list _ _ :: older => expectedRules older
  | .ports rules :: _ => (validRules rules).map VirtualPortRule.text

/-- The kernel has what the server has sent. -/
structure State.InForce (kernel : PortKernel K) (s : State K) : Prop where
  lists : ∀ side, s.session.kernel.list side = expectedList side s.sent
  rules : kernel.rules s.ports = expectedRules s.sent

/-- The lines of a batch, from index 0 to its total, replace the rules of the kernel. -/
def PortKernel.Replaces (kernel : PortKernel K) : Prop :=
  ∀ rules k, rules ≠ [] →
    kernel.rules (kernel.writeRules .succeeds rules.length 0 rules k).2 =
      rules.map VirtualPortRule.text

/-- No list is emptied that still has entries in the kernel. -/
def State.Ok (kernel : PortKernel K) (s : State K) : Event → Prop
  | .white env => env.received = some [] → s.session.kernel.list .white = ∅
  | .black env => env.received = some [] → s.session.kernel.list .black = ∅
  | .ports env => ∀ rules, env.received = some rules → validRules rules = [] →
      kernel.rules s.ports = []

variable {kernel : PortKernel K} {s s' : State K}

/-- The hashes of a response are plain. -/
theorem ListResponse.plain_of_hashList {response : ListResponse} {hashList : List String}
    (h : response.hashList = .ok hashList) : ∀ hash ∈ hashList, IsPlain hash := by
  unfold ListResponse.hashList at h
  split at h
  · cases h
  · obtain rfl := Except.ok.inj h
    intro hash hmem
    obtain ⟨item, -, hitem⟩ := List.mem_filterMap.mp hmem
    obtain ⟨hash, -, rfl⟩ := Option.map_eq_some_iff.mp hitem
    exact hash.plain

/-- What a task makes of a process list. -/
theorem taskDownList_cases {side : Side} {otherCode : Except String Unit} {env : ListEnv}
    {session : Session} {r : Except String Unit × Session}
    (h : taskDownList side otherCode env session = some r) :
    env.received = none ∧ r.2 = session ∨ env.received = some [] ∧ r.2 = session ∨
      ∃ call : Call, env.received = some call.processList ∧ call.processList ≠ [] ∧
        call.side = side ∧ call.Plain ∧ Session.system.step session call = some r.2 := by
  have hsame {result : Except String Unit} (h : some (result, session) = some r) :
      r.2 = session := congrArg Prod.snd (Option.some.inj h).symm
  unfold taskDownList at h
  unfold ListEnv.received
  revert h
  cases env.reported with
  | error => exact fun h => .inl ⟨rfl, hsame h⟩
  | ok =>
    cases env.url with
    | none => exact fun h => .inl ⟨rfl, hsame h⟩
    | some =>
      cases env.response with
      | error => exact fun h => .inl ⟨rfl, hsame h⟩
      | ok parsed =>
        cases parsed with
        | none => exact fun h => .inl ⟨rfl, hsame h⟩
        | some response =>
          dsimp only
          by_cases hcode : response.code = successCode
          · rw [if_pos hcode, if_pos hcode]
            cases hhashes : response.hashList with
            | error => exact fun h => .inl ⟨rfl, hsame h⟩
            | ok hashList =>
              dsimp only
              by_cases hnil : hashList = []
              · rw [if_pos hnil, hnil]
                exact fun h => .inr (.inl ⟨rfl, hsame h⟩)
              · rw [if_neg hnil]
                intro h
                obtain ⟨session', hstep, rfl⟩ := Option.map_eq_some_iff.mp h
                refine .inr (.inr ⟨_, rfl, hnil, rfl, ?_, hstep⟩)
                exact response.plain_of_hashList hhashes
          · rw [if_neg hcode, if_neg hcode]
            exact fun h => .inl ⟨rfl, hsame h⟩

/-- No write fails. -/
theorem writeRules_succeeds (kernel : PortKernel K) (total index : ℕ)
    (rules : List VirtualPortRule) (k : K) :
    (kernel.writeRules .succeeds total index rules k).1 = .ok () := by
  induction rules generalizing index k with
  | nil => rfl
  | cons rule rest ih => exact ih (index + 1) _

/-- A batch replaces the rules, unless it is empty. -/
theorem rules_writeBatch (hkernel : kernel.Replaces) (rules : List VirtualPortRule) (k : K) :
    kernel.rules (kernel.writeBatch .succeeds rules k).2 =
      if rules = [] then kernel.rules k else rules.map VirtualPortRule.text := by
  unfold PortKernel.writeBatch
  by_cases hnil : rules = []
  · rw [if_pos hnil, if_pos (List.length_eq_zero_iff.mpr hnil)]
  · have hok := writeRules_succeeds kernel rules.length 0 rules k
    rw [if_neg hnil, if_neg (mt List.length_eq_zero_iff.mp hnil), ← hkernel rules k hnil]
    generalize kernel.writeRules .succeeds rules.length 0 rules k = result at hok ⊢
    obtain ⟨_, k'⟩ := result
    cases hok
    rfl

/-- What the task makes of the virtual ports. -/
theorem taskDownVirtualPort_cases (kernel : PortKernel K) (file : NetRulesFile) (env : PortEnv)
    (k : K) :
    env.received = none ∧ (taskDownVirtualPort kernel file env k).2 = k ∨
      ∃ rules, env.received = some rules ∧
        taskDownVirtualPort kernel file env k = kernel.writeBatch file (validRules rules) k := by
  unfold taskDownVirtualPort PortEnv.received
  cases env.reported with
  | error => exact .inl ⟨rfl, rfl⟩
  | ok =>
    cases env.url with
    | none => exact .inl ⟨rfl, rfl⟩
    | some =>
      cases env.response with
      | error => exact .inl ⟨rfl, rfl⟩
      | ok parsed =>
        cases parsed with
        | error => exact .inl ⟨rfl, rfl⟩
        | ok response =>
          dsimp only
          by_cases hcode : response.code = successCode
          · rw [if_pos hcode, if_neg (not_not.mpr hcode)]
            cases response.conf with
            | error => exact .inl ⟨rfl, rfl⟩
            | ok conf => exact .inr ⟨conf, rfl, rfl⟩
          · rw [if_neg hcode, if_pos hcode]
            exact .inl ⟨rfl, rfl⟩

/-- A list that is sent leaves what is expected of the rules. -/
theorem expectedRules_record (side : Side) (received : Option (List String))
    (history : List Sent) :
    expectedRules (record (Sent.list side) received history) = expectedRules history := by
  cases received <;> rfl

/-- Rules that are sent leave what is expected of the lists. -/
theorem expectedList_record (side : Side) (received : Option (List VirtualPortRule))
    (history : List Sent) :
    expectedList side (record Sent.ports received history) = expectedList side history := by
  cases received <;> rfl

/-- A process list is in force after its task just if it is not emptied in vain. -/
theorem inForce_list_iff {side : Side} {otherCode : Except String Unit} {env : ListEnv}
    {r : Except String Unit × Session} (hmirrors : s.session.Mirrors) (hs : s.InForce kernel)
    (h : taskDownList side otherCode env s.session = some r) :
    ({ s with session := r.2, sent := record (Sent.list side) env.received s.sent } :
        State K).InForce kernel ↔
      (env.received = some [] → s.session.kernel.list side = ∅) := by
  have hrules : kernel.rules s.ports =
      expectedRules (record (Sent.list side) env.received s.sent) := by
    rw [expectedRules_record]
    exact hs.rules
  rcases taskDownList_cases h with ⟨hnone, hsame⟩ | ⟨hempty, hsame⟩ |
    ⟨call, hreceived, hne, rfl, hplain, hstep⟩
  · rw [hnone, hsame]
    exact iff_of_true ⟨hs.lists, hs.rules⟩ nofun
  · rw [hempty] at hrules ⊢
    rw [hsame]
    constructor
    · intro h _
      exact (h.lists side).trans (if_pos rfl)
    · intro hnil
      refine ⟨fun other => ?_, hrules⟩
      change _ = if side = other then ∅ else expectedList other s.sent \ ∅
      split
      · next heq => exact heq ▸ hnil rfl
      · rw [Finset.sdiff_empty]
        exact hs.lists other
  · have heffect := (hmirrors.step hplain hstep).2
    rw [hreceived] at hrules ⊢
    refine iff_of_true ⟨fun other => ?_, hrules⟩ fun h => absurd (Option.some.inj h) hne
    change _ = if call.side = other then _ else expectedList other s.sent \ _
    split
    · next heq => exact heq ▸ heffect.own
    · next hother =>
      obtain rfl : other = call.side.other := by
        cases hside : call.side <;> cases other <;> simp_all [Side.other]
      rw [heffect.other, hs.lists]

/-- The virtual ports are in force after their task just if they are not emptied in vain. -/
theorem inForce_ports_iff (hkernel : kernel.Replaces) (env : PortEnv) (hs : s.InForce kernel) :
    ({ s with
        ports := (taskDownVirtualPort kernel .succeeds env s.ports).2
        sent := record Sent.ports env.received s.sent } : State K).InForce kernel ↔
      ∀ rules, env.received = some rules → validRules rules = [] →
        kernel.rules s.ports = [] := by
  have hlists (side : Side) : s.session.kernel.list side =
      expectedList side (record Sent.ports env.received s.sent) := by
    rw [expectedList_record]
    exact hs.lists side
  rcases taskDownVirtualPort_cases kernel .succeeds env s.ports with ⟨hnone, hsame⟩ |
    ⟨rules, hreceived, htask⟩
  · rw [hnone, hsame]
    exact iff_of_true ⟨hs.lists, hs.rules⟩ nofun
  · have hrules := rules_writeBatch hkernel (validRules rules) s.ports
    rw [hreceived] at hlists ⊢
    rw [htask]
    by_cases hnil : validRules rules = []
    · rw [if_pos hnil] at hrules
      constructor
      · intro h other hother hnone
        rw [← hrules, h.rules]
        change (validRules rules).map VirtualPortRule.text = []
        rw [hnil, List.map_nil]
      · intro h
        refine ⟨hlists, hrules.trans ((h rules rfl hnil).trans ?_)⟩
        change [] = (validRules rules).map VirtualPortRule.text
        rw [hnil, List.map_nil]
    · rw [if_neg hnil] at hrules
      refine iff_of_true ⟨hlists, hrules⟩ fun other hother hnone => ?_
      obtain rfl := Option.some.inj hother
      exact absurd hnone hnil

/-- A task keeps the mirrors of the manager. -/
theorem mirrors_list {side : Side} {otherCode : Except String Unit} {env : ListEnv}
    {session : Session} {r : Except String Unit × Session} (hmirrors : session.Mirrors)
    (h : taskDownList side otherCode env session = some r) : r.2.Mirrors := by
  rcases taskDownList_cases h with ⟨-, hsame⟩ | ⟨-, hsame⟩ | ⟨call, -, -, -, hplain, hstep⟩
  · exact hsame ▸ hmirrors
  · exact hsame ▸ hmirrors
  · exact (hmirrors.step hplain hstep).1

/-- What a task does keeps the kernel in line with the server just if no list is emptied in
vain. -/
theorem inForce_step_iff (hkernel : kernel.Replaces) {e : Event}
    (hs : s.session.Mirrors ∧ s.InForce kernel) (hstep : (tasks kernel).step s e = some s') :
    s'.session.Mirrors ∧ s'.InForce kernel ↔ s.Ok kernel e := by
  obtain ⟨hmirrors, hs⟩ := hs
  cases e with
  | white env =>
    obtain ⟨r, htask, rfl⟩ := Option.map_eq_some_iff.mp hstep
    exact (and_iff_right (mirrors_list hmirrors htask)).trans (inForce_list_iff hmirrors hs htask)
  | black env =>
    obtain ⟨r, htask, rfl⟩ := Option.map_eq_some_iff.mp hstep
    exact (and_iff_right (mirrors_list hmirrors htask)).trans (inForce_list_iff hmirrors hs htask)
  | ports env =>
    obtain rfl := Option.some.inj hstep
    exact (and_iff_right hmirrors).trans (inForce_ports_iff hkernel env hs)

/-- Nothing is blocked before the first task. -/
theorem mirrors_initial : Session.initial.Mirrors := ⟨rfl, rfl, Finset.disjoint_empty_left _⟩

/-- The mirrors of the manager agree with the kernel in every run. -/
theorem mirrors_of_exec {k : K} {events : List Event} (hk : kernel.rules k = [])
    (hrun : (tasks kernel).exec (.initial k) events = some s) : s.session.Mirrors := by
  have hinit : (tasks kernel).init (.initial k) := ⟨k, hk, rfl⟩
  refine Runs.System.Reaches.invariant (I := fun s : State K => s.session.Mirrors)
    (Runs.System.Reachable.exec (.init hinit) hrun) ?_ ?_
  · rintro _ ⟨k, -, rfl⟩
    exact mirrors_initial
  · intro s e s' hs _ hstep
    cases e with
    | white env =>
      obtain ⟨r, htask, rfl⟩ := Option.map_eq_some_iff.mp hstep
      exact mirrors_list hs htask
    | black env =>
      obtain ⟨r, htask, rfl⟩ := Option.map_eq_some_iff.mp hstep
      exact mirrors_list hs htask
    | ports env =>
      obtain rfl := Option.some.inj hstep
      exact hs

/-- At every point of a run the kernel has what the server has sent, if and only if no task
finds a list emptied that still has entries in the kernel. -/
theorem lists_in_force_iff (hkernel : kernel.Replaces) {k : K} (hk : kernel.rules k = [])
    {events : List Event} (hrun : (tasks kernel).exec (.initial k) events = some s) :
    (∀ seen t, seen <+: events → (tasks kernel).exec (.initial k) seen = some t →
        t.InForce kernel) ↔
      (tasks kernel).Meets (State.Ok kernel) (.initial k) events := by
  have hinit : (State.initial k).session.Mirrors ∧ (State.initial k).InForce kernel :=
    ⟨mirrors_initial, ⟨fun _ => rfl, hk⟩⟩
  rw [← Runs.System.forall_exec_iff_meets (fun _ _ _ hs => inForce_step_iff hkernel hs) hinit hrun]
  refine forall_congr' fun seen => forall_congr' fun t => forall_congr' fun _ => ?_
  exact forall_congr' fun ht => (and_iff_right (mirrors_of_exec hk ht)).symm

/-- The index, the total and the text of a line. -/
def batchLine (line : String) : Option (ℕ × ℕ × String) := do
  let (_, rest) ← Text.splitOnce ' ' line.toList
  let (index, rest) ← Text.splitOnce ' ' rest
  let (total, rest) ← Text.splitOnce ' ' rest
  let index ← Text.decimal (index.drop 6)
  let total ← Text.decimal (total.drop 6)
  pure (index, total, String.ofList rest.dropLast)

/-- A kernel that collects the lines of a batch and puts them in force with the last one. -/
def batchKernel : PortKernel (List String × List String) where
  write := fun k line =>
    match batchLine line with
    | some (index, total, text) =>
      let batch := if index = 0 then [text] else k.1 ++ [text]
      (batch, if index + 1 = total then batch else k.2)
    | none => k
  rules := Prod.snd

/-- The characters of a line. -/
theorem toList_ruleStr (index total : ℕ) (rule : VirtualPortRule) :
    (ruleStr index total rule).toList = "VIR_OPEN_PORT".toList ++ ' ' ::
      ("index=".toList ++ Nat.toDigits 10 index ++ ' ' ::
        ("total=".toList ++ Nat.toDigits 10 total ++ ' ' :: (rule.text.toList ++ ['\n']))) := by
  unfold ruleStr
  generalize rule.text = text
  simp [toString, Nat.repr]

/-- The kernel understands the lines. -/
theorem batchLine_ruleStr (index total : ℕ) (rule : VirtualPortRule) :
    batchLine (ruleStr index total rule) = some (index, total, rule.text) := by
  have hblank (word : List Char) (n : ℕ) (hword : ' ' ∉ word) :
      ' ' ∉ word ++ Nat.toDigits 10 n := by
    rw [List.mem_append, not_or]
    exact ⟨hword, Text.not_mem_toDigits (by decide) n⟩
  have hdrop (word : List Char) (n : ℕ) (hword : word.length = 6) :
      (word ++ Nat.toDigits 10 n).drop 6 = Nat.toDigits 10 n := List.drop_left' hword
  unfold batchLine
  rw [toList_ruleStr, Text.splitOnce_append (by decide)]
  simp only [Option.bind_eq_bind, Option.bind_some,
    Text.splitOnce_append (hblank "index=".toList index (by decide)),
    Text.splitOnce_append (hblank "total=".toList total (by decide)),
    hdrop "index=".toList index (by decide), hdrop "total=".toList total (by decide),
    Text.decimal_toDigits]
  simp

/-- The rest of a batch puts it in force. -/
theorem rules_writeRules_batchKernel {index total : ℕ} {rules : List VirtualPortRule}
    (hne : rules ≠ []) (htotal : index + rules.length = total) (k : List String × List String) :
    (batchKernel.writeRules .succeeds total index rules k).2.2 =
      (if index = 0 then [] else k.1) ++ rules.map VirtualPortRule.text := by
  induction rules generalizing index k with
  | nil => exact absurd rfl hne
  | cons rule rest ih =>
    have hwrite : batchKernel.write k (ruleStr index total rule) =
        ((if index = 0 then [] else k.1) ++ [rule.text],
          if index + 1 = total then (if index = 0 then [] else k.1) ++ [rule.text] else k.2) := by
      simp only [batchKernel, batchLine_ruleStr]
      split <;> rfl
    change (batchKernel.writeRules .succeeds total (index + 1) rest
      (batchKernel.write k (ruleStr index total rule))).2.2 = _
    rw [hwrite]
    cases rest with
    | nil =>
      have hlast : index + 1 = total := htotal
      rw [if_pos hlast]
      rfl
    | cons next rest =>
      have hrest : index + 1 + (next :: rest).length = total := by
        rw [List.length_cons] at htotal
        omega
      rw [ih (List.cons_ne_nil _ _) hrest, if_neg (Nat.succ_ne_zero index), List.append_assoc]
      rfl

/-- The kernel that takes whole lists replaces the old ones. -/
theorem replaces_batchKernel : batchKernel.Replaces := by
  intro rules k hne
  have h := rules_writeRules_batchKernel hne (Nat.zero_add _) k
  rw [if_pos rfl, List.nil_append] at h
  exact h

/-- The hash of an empty file. -/
def emptyFile : Hash := ⟨"d41d8cd98f00b204e9800998ecf8427e", by decide⟩

/-- A response with the given hashes. -/
def sends (hashes : List Hash) : ListEnv where
  reported := .ok ()
  url := some "v1/getprocwl"
  response := .ok (some ⟨successCode, some (hashes.map some)⟩)
  order := hashes.map Hash.text
  prevOrder := []

/-- A virtual port. -/
def webPort : PortItem where
  alarmLevel := 1
  destIp := "192.0.2.1"
  destPort := "8080"
  destPortType := 0
  id := 1
  protocol := "tcp"
  sourceIp := "192.0.2.7"
  sourcePort := "80-80"
  type := "0"

/-- A response with the given virtual ports. -/
def sendsPorts (items : List PortItem) : PortEnv where
  reported := .ok ()
  url := some "v1/getvirtualport"
  response := .ok (.ok ⟨successCode, some (items.map .ok)⟩)

/-- The rule of that virtual port. -/
def webRule : VirtualPortRule where
  alarmLevel := 1
  destIp := "192.0.2.1"
  destPort := "8080"
  destPortType := 0
  id := 1
  protocol := "tcp"
  sourceIp := "192.0.2.7"
  sourcePortRange := (80, 80)
  type := "0"

/-- The rule that the kernel gets. -/
theorem received_webPort : (sendsPorts [webPort]).received = some [webRule] := by
  have hrange : deserializePortRange "80-80" = .ok (80, 80) := by rfl
  have hrule : webPort.rule = .ok webRule := by
    simp only [PortItem.rule, webPort, hrange]
    rfl
  change (PortResponse.conf ⟨successCode, some [.ok webPort]⟩).toOption = _
  simp only [PortResponse.conf, List.mapM_cons, List.mapM_nil, hrule]
  rfl

/-- The kernel after it was sent a virtual port. -/
theorem inForce_webPort :
    ∃ s, (tasks batchKernel).step (.initial ([], [])) (.ports (sendsPorts [webPort])) = some s ∧
      s.InForce batchKernel ∧ batchKernel.rules s.ports = [webRule.text] := by
  have hinit : (State.initial (([], []) : List String × List String)).InForce batchKernel :=
    ⟨fun _ => rfl, rfl⟩
  have hok : ∀ rules, (sendsPorts [webPort]).received = some rules → validRules rules = [] →
      batchKernel.rules (State.initial (([], []) : List String × List String)).ports = [] :=
    fun _ _ _ => rfl
  have hs := (inForce_ports_iff replaces_batchKernel (sendsPorts [webPort]) hinit).mpr hok
  refine ⟨_, rfl, hs, hs.rules.trans ?_⟩
  rw [received_webPort]
  rfl

/-- Lists that the server empties stay in force. -/
theorem emptied_lists_stay :
    (∃ s, (tasks batchKernel).exec (.initial ([], [])) [.white (sends [emptyFile]),
        .white (sends [])] = some s ∧ ¬ s.InForce batchKernel) ∧
      ∃ s, (tasks batchKernel).exec (.initial ([], [])) [.ports (sendsPorts [webPort]),
        .ports (sendsPorts [])] = some s ∧ ¬ s.InForce batchKernel := by
  have hwhite : ((tasks batchKernel).exec (.initial ([], [])) [.white (sends [emptyFile]),
      .white (sends [])]).map
        (fun s => decide (s.session.kernel.list .white = expectedList .white s.sent)) =
          some false := by decide
  obtain ⟨s, hs, hne⟩ := Option.map_eq_some_iff.mp hwhite
  refine ⟨⟨s, hs, fun h => of_decide_eq_false hne (h.lists .white)⟩, ?_⟩
  obtain ⟨t, ht, hinForce, hrules⟩ := inForce_webPort
  refine ⟨_, by rw [Runs.System.exec, ht]; rfl, fun h => ?_⟩
  have hempty := (inForce_ports_iff replaces_batchKernel (sendsPorts []) hinForce).mp h [] rfl rfl
  rw [hrules] at hempty
  cases hempty

/-- A list that is emptied when its only hash is on the other list, and a virtual port. -/
theorem lists_in_force_iff_moved :
    ∃ s, (tasks batchKernel).exec (.initial ([], [])) [.ports (sendsPorts [webPort]),
        .white (sends [emptyFile]), .black (sends [emptyFile]), .white (sends [])] = some s ∧
      s.session.kernel.list .black = {emptyFile.text} ∧ s.InForce batchKernel := by
  have hmoved : ((tasks batchKernel).exec (.initial ([], [])) [.ports (sendsPorts [webPort]),
      .white (sends [emptyFile]), .black (sends [emptyFile])]).map
        (fun s => s.session.kernel.list .white) = some ∅ := by decide
  have hmeets : (tasks batchKernel).Meets (State.Ok batchKernel) (.initial ([], []))
      [.ports (sendsPorts [webPort]), .white (sends [emptyFile]), .black (sends [emptyFile]),
        .white (sends [])] := by
    refine ⟨fun _ _ _ => rfl, fun s hs => ⟨?_, fun t ht => ⟨?_, fun u hu => ⟨fun _ => ?_, ?_⟩⟩⟩⟩
    · intro h
      cases h
    · intro h
      cases h
    · obtain ⟨u', hu', hempty⟩ := Option.map_eq_some_iff.mp hmoved
      rw [Runs.System.exec, hs, Option.bind_some, Runs.System.exec, ht, Option.bind_some,
        Runs.System.exec, hu] at hu'
      obtain rfl := Option.some.inj hu'
      exact hempty
    · exact fun _ _ => trivial
  have hends : ((tasks batchKernel).exec (.initial ([], [])) [.ports (sendsPorts [webPort]),
      .white (sends [emptyFile]), .black (sends [emptyFile]), .white (sends [])]).map
        (fun s => s.session.kernel.list .black) = some {emptyFile.text} := by decide
  obtain ⟨s, hs, hblack⟩ := Option.map_eq_some_iff.mp hends
  exact ⟨s, hs, hblack, (lists_in_force_iff replaces_batchKernel rfl hs).mpr hmeets _ s
    (List.prefix_refl _) hs⟩

end LinuxAgent.Task.ServerLists
