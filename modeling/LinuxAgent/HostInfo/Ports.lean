import LinuxAgent.HostInfo.BusinessPorts
import LinuxAgent.Lib.Pool

/-!
# Reading the table of business ports

The timer task and the handler of kernel events refresh the table with three calls, one after the
other, each of which takes the lock by itself. The first one empties the table. A reader between the
calls of a refresh misses the ports of the DNAT rules or of the containers. It finds the ports of
completed refreshes as long as none of the calls since the table was last emptied belongs to a
refresh that is still going on.
-/

namespace LinuxAgent.HostInfo

/-- The readers of the table. -/
inductive Reader
  /-- `write_business_ports_to_proc`. -/
  | businessPorts
  /-- `get_port_from_state`. -/
  | port (port : ℕ)
  /-- `get_netapp_json`. -/
  | json

/-- What a reader has found. -/
inductive Answer
  | businessPorts (ports : List ℕ)
  | port (port : ℕ) (info : Option PortBusinessInfo)
  | json (entries : Except String (List PortBusinessInfoJson))

/-- What a reader finds. -/
def Reader.answer (s : NetAppState) : Reader → Answer
  | .businessPorts => .businessPorts s.businessPorts
  | .port p => .port p (s.getPortInfo p)
  | .json => .json s.toJson

/-- The functions of a refresh. -/
inductive Kind
  | netstat
  | dnat
  | docker
  deriving DecidableEq

/-- A call of one of them: the refresh that it belongs to, and the ports that it has found. -/
structure Part where
  refresh : ℕ
  kind : Kind
  ports : List ℕ
  deriving DecidableEq

/-- The number of refreshes that have begun. -/
def begun (parts : List Part) : ℕ := parts.countP fun x => x.kind = .netstat

/-- A reader has been there: what it has found, and the calls up to then. -/
structure Visit where
  answer : Answer
  parts : List Part

/-- The table and the ports that were last written to `/proc`, beside the calls of the refreshes,
the last one first, and the readers so far. -/
structure Table where
  state : NetAppState := {}
  business : Business := {}
  parts : List Part := []
  visits : List Visit := []

/-- Where a task stands. A refresh may be followed by a reader. -/
inductive Point
  | netstat (reader : Option Reader)
  | dnat (refresh : ℕ) (reader : Option Reader)
  | docker (refresh : ℕ) (reader : Option Reader)
  | reading (reader : Reader)
  | finished

/-- The timer task at a tick. -/
def Point.timer : Point := .netstat (some .businessPorts)

/-- `get_net_app_handler`. -/
def Point.handler : Point := .netstat none

/-- What a move of a task finds on the host, and if the file in `/proc` can be opened and
written. -/
structure PortsEnv extends Surroundings where
  opens : Bool
  writes : Bool

/-- A reader takes the lock, which is not poisoned. -/
def Table.visit (env : PortsEnv) (t : Table) (reader : Reader) : Table :=
  let t := { t with visits := ⟨reader.answer t.state, t.parts⟩ :: t.visits }
  match reader with
  | .businessPorts =>
    { t with
      business := (writeBusinessPortsToProc ⟨true, env.opens, env.writes⟩ t.state t.business).1 }
  | _ => t

/-- One move of a task. -/
def Point.turn (env : PortsEnv) (t : Table) : Point → Option (Table × Point)
  | .netstat reader =>
    let found := (parseProcNetTcp env.toSurroundings ++ parseProcNetTcp6 env.toSurroundings).map
      PortBusinessInfo.localPort
    some ({ t with
      state := updateNetstatInfo env.toSurroundings
      parts := ⟨begun t.parts, .netstat, found⟩ :: t.parts }, .dnat (begun t.parts) reader)
  | .dnat refresh reader =>
    let found := (dnatPorts env.toSurroundings).map fun named => named.info.localPort
    some ({ t with
      state := updateDnatInfo env.toSurroundings t.state
      parts := ⟨refresh, .dnat, found⟩ :: t.parts }, .docker refresh reader)
  | .docker refresh reader =>
    let found := (dockerPorts env.toSurroundings).map fun named => named.info.localPort
    some ({ t with
      state := updateDockerInfo env.toSurroundings t.state
      parts := ⟨refresh, .docker, found⟩ :: t.parts }, reader.elim .finished .reading)
  | .reading reader => some (t.visit env reader, .finished)
  | .finished => none

/-- A refresh or a reader that has not begun. -/
def Point.starts : Point → Bool
  | .netstat _ | .reading _ => true
  | _ => false

/-- Any number of refreshes and readers on an empty table, in any interleaving. -/
abbrev portsSystem : Runs.System (Runs.Pool Table Point) (Runs.Move Point PortsEnv) :=
  Runs.Pool.system (fun t => t = {}) Point.starts Point.turn

/-- A refresh has made its last call. -/
def Completed (parts : List Part) (refresh : ℕ) : Prop :=
  ∃ x ∈ parts, x.kind = .docker ∧ x.refresh = refresh

instance (parts : List Part) (refresh : ℕ) : Decidable (Completed parts refresh) :=
  inferInstanceAs (Decidable (∃ x ∈ parts, _))

/-- An answer shows a set of ports. -/
def Answer.Shows (ports : ℕ → Prop) : Answer → Prop
  | .businessPorts found => ∀ p, p ∈ found ↔ ports p
  | .port p info => info.isSome = true ↔ ports p
  | .json (.ok entries) => ∀ p, (∃ e ∈ entries, e.port = toString p) ↔ ports p
  | .json (.error _) => ∀ p, ¬ports p

/-- Calls of one function that belong to completed refreshes, the given one among them. -/
structure Whole (parts : List Part) (kind : Kind) (refresh : ℕ) (chosen : List Part) : Prop where
  sub : ∀ x ∈ chosen, x ∈ parts ∧ x.kind = kind ∧ Completed parts x.refresh
  own : ∃ x ∈ chosen, x.refresh = refresh

/-- A reader has found the listening ports of a completed refresh together with the ports of the
DNAT rules and of the containers of completed refreshes, those of the same refresh among them.
Before the first refresh it has found nothing. -/
def Visit.Complete (visit : Visit) : Prop :=
  (visit.parts = [] ∧ visit.answer.Shows fun _ => False) ∨
    ∃ netstat dnat docker : List Part, ∃ refresh,
      netstat.length = 1 ∧ Whole visit.parts .netstat refresh netstat ∧
      Whole visit.parts .dnat refresh dnat ∧ Whole visit.parts .docker refresh docker ∧
      visit.answer.Shows fun p => ∃ x ∈ netstat ++ dnat ++ docker, p ∈ x.ports

/-- The calls since the table was last emptied. -/
def current : List Part → List Part
  | [] => []
  | x :: parts => if x.kind = .netstat then [x] else x :: current parts

/-- The next move of a task is that of a reader. -/
def Point.reads : Point → Bool
  | .reading _ => true
  | _ => false

/-- The condition of a move: a reader comes only when the refreshes that have made a call since the
table was last emptied are completed. -/
def Settled (p : Runs.Pool Table Point) : Runs.Move Point PortsEnv → Prop
  | .advance i _ => p.tasks[i]?.any Point.reads = true →
      ∀ x ∈ current p.shared.parts, Completed p.shared.parts x.refresh
  | .spawn _ => True

instance (p : Runs.Pool Table Point) :
    (move : Runs.Move Point PortsEnv) → Decidable (Settled p move)
  | .advance i _ => inferInstanceAs (Decidable (p.tasks[i]?.any Point.reads = true →
      ∀ x ∈ current p.shared.parts, Completed p.shared.parts x.refresh))
  | .spawn _ => isTrue trivial

/-- Both maps have exactly these ports. -/
structure NetAppState.Holds (s : NetAppState) (ports : ℕ → Prop) : Prop where
  byPort : Keyed some s.portMap
  byText : Keyed textPort s.portStrMap
  portMap : ∀ p, p ∈ portsOf s.portMap ↔ ports p
  portStrMap : ∀ p, p ∈ portsOf s.portStrMap ↔ ports p

variable {s : NetAppState} {ports : ℕ → Prop}

/-- The same ports may be said in another way. -/
theorem NetAppState.Holds.congr {ports' : ℕ → Prop} (h : s.Holds ports)
    (hports : ∀ p, ports p ↔ ports' p) : s.Holds ports' :=
  ⟨h.byPort, h.byText, fun p => (h.portMap p).trans (hports p),
    fun p => (h.portStrMap p).trans (hports p)⟩

/-- A listening port is added to both maps. -/
theorem NetAppState.Holds.addListening (h : s.Holds ports) {info : PortBusinessInfo}
    (hlt : info.localPort < UInt16.size) :
    (s.addListening info).Holds fun p => ports p ∨ p = info.localPort := by
  have hkey := textPort_append hlt info.localIp
  refine ⟨h.byPort.insertNew rfl, h.byText.insertNew hkey, fun p => ?_, fun p => ?_⟩
  · exact (mem_portsOf_insertNew h.byPort rfl p).trans (or_congr_left (h.portMap p))
  · exact (mem_portsOf_insertNew h.byText hkey p).trans (or_congr_left (h.portStrMap p))

/-- A port with its text is added to both maps. -/
theorem NetAppState.Holds.addNamed (h : s.Holds ports) {named : NamedPort} (hfits : named.Fits) :
    (s.addNamed named).Holds fun p => ports p ∨ p = named.info.localPort := by
  refine ⟨h.byPort.insertEntry rfl, h.byText.insertEntry hfits, fun p => ?_, fun p => ?_⟩
  · exact (mem_portsOf_insertEntry h.byPort rfl p).trans (or_congr_left (h.portMap p))
  · exact (mem_portsOf_insertEntry h.byText hfits p).trans (or_congr_left (h.portStrMap p))

/-- A loop that adds the port of each entry. -/
theorem holds_foldl {α : Type} {add : NetAppState → α → NetAppState} {port : α → ℕ}
    {entries : List α}
    (hadd : ∀ (s : NetAppState) (ports : ℕ → Prop), ∀ x ∈ entries, s.Holds ports →
      (add s x).Holds fun p => ports p ∨ p = port x) (h : s.Holds ports) :
    (entries.foldl add s).Holds fun p => ports p ∨ p ∈ entries.map port := by
  induction entries generalizing s ports with
  | nil => exact h.congr fun p => by simp
  | cons x entries ih =>
    have hrest := ih (fun s ports y hy => hadd s ports y (List.mem_cons_of_mem _ hy))
      (hadd s ports x List.mem_cons_self h)
    refine hrest.congr fun p => ?_
    rw [List.map_cons, List.mem_cons, or_assoc]

/-- The table after `update_netstat_info`. -/
theorem holds_updateNetstatInfo (sur : Surroundings) :
    (updateNetstatInfo sur).Holds fun p =>
      p ∈ (parseProcNetTcp sur ++ parseProcNetTcp6 sur).map PortBusinessInfo.localPort := by
  have hempty : ({} : NetAppState).Holds fun _ => False :=
    ⟨nofun, nofun, fun _ => List.mem_nil_iff _, fun _ => List.mem_nil_iff _⟩
  refine (holds_foldl (fun s ports info hinfo h => ?_) hempty).congr fun p => or_iff_right id
  exact h.addListening (localPort_netstat hinfo)

/-- The table after `update_dnat_info`. -/
theorem NetAppState.Holds.updateDnatInfo (h : s.Holds ports) (sur : Surroundings) :
    (updateDnatInfo sur s).Holds fun p =>
      ports p ∨ p ∈ (dnatPorts sur).map fun named => named.info.localPort :=
  holds_foldl (fun _ _ _ hnamed h => h.addNamed (fits_dnatPorts hnamed)) h

/-- The table after `update_docker_info`. -/
theorem NetAppState.Holds.updateDockerInfo (h : s.Holds ports) (sur : Surroundings) :
    (updateDockerInfo sur s).Holds fun p =>
      ports p ∨ p ∈ (dockerPorts sur).map fun named => named.info.localPort :=
  holds_foldl (fun _ _ _ hnamed h => h.addNamed (fits_dockerPorts hnamed)) h

/-- The keys of the first map are the ports of its entries. -/
theorem Keyed.map_fst {m : List (ℕ × PortBusinessInfo)} (h : Keyed some m) :
    m.map Prod.fst = portsOf m :=
  List.map_congr_left fun e he => Option.some.inj (h e he)

/-- Every reader shows the ports of the table. -/
theorem NetAppState.Holds.shows (h : s.Holds ports) (reader : Reader) :
    (reader.answer s).Shows ports := by
  cases reader with
  | businessPorts =>
    intro p
    rw [NetAppState.businessPorts, List.mem_dedup, List.mem_insertionSort, h.byPort.map_fst]
    exact h.portMap p
  | port p =>
    rw [Reader.answer, Answer.Shows, ← h.portMap p, ← h.byPort.map_fst, NetAppState.getPortInfo,
      List.lookup_isSome_iff, List.mem_map]
    constructor
    · rintro ⟨e, he, heq⟩
      exact ⟨e, he, (beq_iff_eq.mp heq).symm⟩
    · rintro ⟨e, he, rfl⟩
      exact ⟨e, he, beq_self_eq_true _⟩
  | json =>
    rw [Reader.answer, NetAppState.toJson]
    split
    · next hnil =>
      intro p hp
      have hmem := (h.portStrMap p).mpr hp
      rw [hnil] at hmem
      exact List.not_mem_nil hmem
    · intro p
      rw [← h.portStrMap p, portsOf, List.mem_map]
      constructor
      · rintro ⟨entry, hentry, heq⟩
        obtain ⟨e, he, rfl⟩ := List.mem_map.mp hentry
        exact ⟨e, he, Text.toString_injective heq⟩
      · rintro ⟨e, he, rfl⟩
        exact ⟨_, List.mem_map_of_mem he, rfl⟩

/-- The refreshes are numbered as they begin, their calls come later, and the last one comes after
the one before it. -/
def Ordered : List Part → Prop
  | [] => True
  | x :: parts =>
    Ordered parts ∧
      match x.kind with
      | .netstat => x.refresh = begun parts
      | .dnat => x.refresh < begun parts
      | .docker => x.refresh < begun parts ∧ ∃ y ∈ parts, y.kind = .dnat ∧ y.refresh = x.refresh

variable {parts : List Part} {x : Part}

/-- A call of `update_netstat_info` begins a refresh. -/
theorem begun_cons (x : Part) (parts : List Part) :
    begun (x :: parts) = begun parts + if x.kind = .netstat then 1 else 0 := by
  rw [begun, List.countP_cons, ← begun]
  simp only [decide_eq_true_eq]

/-- The calls since the table was emptied are among all calls. -/
theorem mem_of_mem_current (h : x ∈ current parts) : x ∈ parts := by
  induction parts with
  | nil => exact nomatch h
  | cons y parts ih =>
    rw [current] at h
    split at h
    · rw [List.mem_singleton.mp h]
      exact List.mem_cons_self
    · rcases List.mem_cons.mp h with rfl | h
      · exact List.mem_cons_self
      · exact List.mem_cons_of_mem _ (ih h)

/-- Every call belongs to a refresh that has begun. -/
theorem Ordered.refresh_lt (h : Ordered parts) (hx : x ∈ parts) : x.refresh < begun parts := by
  induction parts with
  | nil => exact nomatch hx
  | cons y parts ih =>
    obtain ⟨hparts, hy⟩ := h
    rw [begun_cons]
    rcases List.mem_cons.mp hx with rfl | hx
    · cases hkind : x.kind with
      | netstat =>
        rw [hkind] at hy
        rw [if_pos rfl, hy]
        omega
      | dnat =>
        rw [hkind] at hy
        exact Nat.lt_add_right _ hy
      | docker =>
        rw [hkind] at hy
        exact Nat.lt_add_right _ hy.1
    · exact Nat.lt_add_right _ (ih hparts hx)

/-- The calls of the refresh that began last are after the table was last emptied. -/
theorem Ordered.mem_current (h : Ordered parts) (hx : x ∈ parts)
    (hlast : x.refresh + 1 = begun parts) : x ∈ current parts := by
  induction parts with
  | nil => exact nomatch hx
  | cons y parts ih =>
    rw [begun_cons] at hlast
    rw [current]
    by_cases hkind : y.kind = .netstat
    · rw [if_pos hkind] at hlast ⊢
      rcases List.mem_cons.mp hx with rfl | hx
      · exact List.mem_singleton_self _
      · have hlt := h.1.refresh_lt hx
        omega
    · rw [if_neg hkind] at hlast ⊢
      rcases List.mem_cons.mp hx with rfl | hx
      · exact List.mem_cons_self
      · exact List.mem_cons_of_mem _ (ih h.1 hx hlast)

/-- Since the table was last emptied there is one call of `update_netstat_info`, of the refresh that
began last. -/
theorem Ordered.netstat_current (h : Ordered parts) (hne : parts ≠ []) :
    ∃ n, (current parts).filter (fun x => x.kind = .netstat) = [n] ∧
      n.refresh + 1 = begun parts := by
  induction parts with
  | nil => exact absurd rfl hne
  | cons y parts ih =>
    obtain ⟨hparts, hy⟩ := h
    rw [begun_cons, current]
    by_cases hkind : y.kind = .netstat
    · rw [hkind] at hy
      refine ⟨y, ?_, ?_⟩
      · simp only [List.filter_cons, hkind, decide_true, if_true, List.filter_nil]
      · rw [if_pos hkind, hy]
    · have hbegun : 0 < begun parts := by
        cases hk : y.kind with
        | netstat => exact absurd hk hkind
        | dnat =>
          rw [hk] at hy
          exact Nat.zero_lt_of_lt hy
        | docker =>
          rw [hk] at hy
          exact Nat.zero_lt_of_lt hy.1
      have hparts_ne : parts ≠ [] := by
        rintro rfl
        exact absurd hbegun (by decide)
      obtain ⟨n, hn, hrefresh⟩ := ih hparts hparts_ne
      refine ⟨n, ?_, ?_⟩
      · rw [if_neg hkind, List.filter_cons_of_neg (by simpa using hkind), hn]
      · rw [if_neg hkind, hrefresh, Nat.add_zero]

/-- Before the last call of a refresh comes the one of `update_dnat_info`. -/
theorem Ordered.dnat_of_docker (h : Ordered parts) (hx : x ∈ parts) (hkind : x.kind = .docker) :
    ∃ y ∈ parts, y.kind = .dnat ∧ y.refresh = x.refresh := by
  induction parts with
  | nil => exact nomatch hx
  | cons y parts ih =>
    rcases List.mem_cons.mp hx with rfl | hx
    · obtain ⟨-, hx⟩ := h
      rw [hkind] at hx
      obtain ⟨-, y, hy, hfound⟩ := hx
      exact ⟨y, List.mem_cons_of_mem _ hy, hfound⟩
    · obtain ⟨z, hz, hfound⟩ := ih h.1 hx
      exact ⟨z, List.mem_cons_of_mem _ hz, hfound⟩

/-- The calls of one function since the table was last emptied. -/
def currentOf (kind : Kind) (parts : List Part) : List Part :=
  (current parts).filter fun x => x.kind = kind

/-- The calls of one function among those since then. -/
theorem mem_currentOf {kind : Kind} :
    x ∈ currentOf kind parts ↔ x ∈ current parts ∧ x.kind = kind := by
  rw [currentOf, List.mem_filter, decide_eq_true_eq]

/-- They belong to completed refreshes, where all the refreshes since then are completed. -/
theorem whole_currentOf {kind : Kind} {refresh : ℕ}
    (hsettled : ∀ x ∈ current parts, Completed parts x.refresh)
    (hown : ∃ x ∈ currentOf kind parts, x.refresh = refresh) :
    Whole parts kind refresh (currentOf kind parts) := by
  refine ⟨fun x hx => ?_, hown⟩
  obtain ⟨hx, hkind⟩ := mem_currentOf.mp hx
  exact ⟨mem_of_mem_current hx, hkind, hsettled x hx⟩

/-- The calls since then by their functions. -/
theorem exists_mem_current_iff {p : ℕ} :
    (∃ x ∈ current parts, p ∈ x.ports) ↔
      ∃ x ∈ currentOf .netstat parts ++ currentOf .dnat parts ++ currentOf .docker parts,
        p ∈ x.ports := by
  simp only [List.mem_append, mem_currentOf]
  constructor
  · rintro ⟨x, hx, hp⟩
    refine ⟨x, ?_, hp⟩
    cases hkind : x.kind with
    | netstat => exact .inl (.inl ⟨hx, rfl⟩)
    | dnat => exact .inl (.inr ⟨hx, rfl⟩)
    | docker => exact .inr ⟨hx, rfl⟩
  · rintro ⟨x, (⟨hx, -⟩ | ⟨hx, -⟩) | ⟨hx, -⟩, hp⟩
    all_goals exact ⟨x, hx, hp⟩

/-- A reader finds complete ports when the refreshes since the table was last emptied are
completed. -/
theorem complete_of_settled (hordered : Ordered parts)
    (hholds : s.Holds fun p => ∃ x ∈ current parts, p ∈ x.ports)
    (hsettled : ∀ x ∈ current parts, Completed parts x.refresh) (reader : Reader) :
    Visit.Complete ⟨reader.answer s, parts⟩ := by
  by_cases hne : parts = []
  · subst hne
    refine .inl ⟨rfl, (hholds.congr fun p => ?_).shows reader⟩
    exact iff_of_false nofun id
  · obtain ⟨n, hnetstat, hrefresh⟩ := hordered.netstat_current hne
    have hnetstat : currentOf .netstat parts = [n] := hnetstat
    have hn : n ∈ currentOf .netstat parts := hnetstat ▸ List.mem_singleton_self n
    obtain ⟨x, hx, hxkind, hxrefresh⟩ := hsettled n (mem_currentOf.mp hn).1
    obtain ⟨y, hy, hykind, hyrefresh⟩ := hordered.dnat_of_docker hx hxkind
    have hxcurrent := hordered.mem_current hx (hxrefresh ▸ hrefresh)
    have hycurrent := hordered.mem_current hy (hyrefresh ▸ hxrefresh ▸ hrefresh)
    refine .inr ⟨currentOf .netstat parts, currentOf .dnat parts, currentOf .docker parts,
      n.refresh, ?_, whole_currentOf hsettled ⟨n, hn, rfl⟩,
      whole_currentOf hsettled
        ⟨y, mem_currentOf.mpr ⟨hycurrent, hykind⟩, hyrefresh.trans hxrefresh⟩,
      whole_currentOf hsettled ⟨x, mem_currentOf.mpr ⟨hxcurrent, hxkind⟩, hxrefresh⟩,
      (hholds.congr fun p => exists_mem_current_iff).shows reader⟩
    rw [hnetstat, List.length_singleton]

/-- What holds of the table in every state. -/
structure Table.Sound (t : Table) : Prop where
  holds : t.state.Holds fun p => ∃ x ∈ current t.parts, p ∈ x.ports
  ordered : Ordered t.parts
  complete : ∀ visit ∈ t.visits, visit.Complete

/-- What holds of every task: its refresh has begun and made the calls before. -/
def Point.Sound (t : Table) : Point → Prop
  | .dnat refresh _ => refresh < begun t.parts
  | .docker refresh _ =>
    refresh < begun t.parts ∧ ∃ x ∈ t.parts, x.kind = .dnat ∧ x.refresh = refresh
  | _ => True

/-- More calls keep what holds of a task. -/
theorem Point.Sound.mono {t t' : Table} {point : Point} (h : point.Sound t)
    (hparts : t.parts <:+ t'.parts) : point.Sound t' := by
  have hbegun : begun t.parts ≤ begun t'.parts := hparts.sublist.countP_le
  cases point with
  | dnat refresh reader => exact lt_of_lt_of_le h hbegun
  | docker refresh reader =>
    obtain ⟨hlt, x, hx, hfound⟩ := h
    exact ⟨lt_of_lt_of_le hlt hbegun, x, hparts.subset hx, hfound⟩
  | _ => trivial

/-- A reader leaves the table and the calls. -/
theorem visit_eq (env : PortsEnv) (t : Table) (reader : Reader) :
    (t.visit env reader).state = t.state ∧ (t.visit env reader).parts = t.parts ∧
      (t.visit env reader).visits = ⟨reader.answer t.state, t.parts⟩ :: t.visits := by
  cases reader with
  | businessPorts => exact ⟨rfl, rfl, rfl⟩
  | port p => exact ⟨rfl, rfl, rfl⟩
  | json => exact ⟨rfl, rfl, rfl⟩

/-- A call that adds to the table. -/
theorem NetAppState.Holds.cons {found : List ℕ}
    (h : s.Holds fun p => (∃ y ∈ current parts, p ∈ y.ports) ∨ p ∈ found)
    (hx : x.ports = found) (hkind : x.kind ≠ .netstat) :
    s.Holds fun p => ∃ y ∈ current (x :: parts), p ∈ y.ports := by
  refine h.congr fun p => ?_
  rw [current, if_neg hkind, List.exists_mem_cons_iff, hx, or_comm]

/-- A move of a task keeps what holds of the table and of every task, if it is not a reader that
comes while a refresh is half done. -/
theorem Point.turn_sound {env : PortsEnv} {t : Table} {point : Point} {next : Table × Point}
    (ht : t.Sound) (hpoint : point.Sound t)
    (hsettled : point.reads = true → ∀ x ∈ current t.parts, Completed t.parts x.refresh)
    (hturn : point.turn env t = some next) :
    next.1.Sound ∧ next.2.Sound next.1 ∧ t.parts <:+ next.1.parts := by
  cases point with
  | netstat reader =>
    obtain rfl := Option.some.inj hturn
    refine ⟨⟨?_, ⟨ht.ordered, rfl⟩, ht.complete⟩, ?_, List.suffix_cons _ _⟩
    · refine (holds_updateNetstatInfo env.toSurroundings).congr fun p => ?_
      simp only [current, if_true, List.mem_singleton, exists_eq_left]
    · show begun t.parts < begun (_ :: t.parts)
      rw [begun_cons, if_pos rfl]
      exact Nat.lt_succ_self _
  | dnat refresh reader =>
    obtain rfl := Option.some.inj hturn
    refine ⟨⟨?_, ⟨ht.ordered, hpoint⟩, ht.complete⟩, ⟨?_, _, List.mem_cons_self, rfl, rfl⟩,
      List.suffix_cons _ _⟩
    · exact (ht.holds.updateDnatInfo env.toSurroundings).cons rfl nofun
    · rw [begun_cons]
      exact Nat.lt_add_right _ hpoint
  | docker refresh reader =>
    obtain rfl := Option.some.inj hturn
    refine ⟨⟨?_, ⟨ht.ordered, hpoint⟩, ht.complete⟩, ?_, List.suffix_cons _ _⟩
    · exact (ht.holds.updateDockerInfo env.toSurroundings).cons rfl nofun
    · cases reader with
      | none => trivial
      | some reader => trivial
  | reading reader =>
    obtain rfl := Option.some.inj hturn
    obtain ⟨hstate, hparts, hvisits⟩ := visit_eq env t reader
    refine ⟨⟨?_, ?_, ?_⟩, trivial, ?_⟩
    · rw [hstate, hparts]
      exact ht.holds
    · rw [hparts]
      exact ht.ordered
    · rw [hvisits]
      refine List.forall_mem_cons.mpr ⟨?_, ht.complete⟩
      exact complete_of_settled ht.ordered ht.holds (hsettled rfl) reader
    · exact hparts ▸ List.suffix_rfl
  | finished => exact nomatch hturn

/-- Every answer that a reader has got is complete, in every run in which no reader comes while a
refresh that has made a call since the table was last emptied is half done. -/
theorem ports_complete {p : Runs.Pool Table Point} (h : portsSystem.Reaches Settled p) :
    ∀ visit ∈ p.shared.visits, visit.Complete := by
  have hinv : p.Holds Table.Sound fun t point => point.Sound t := by
    refine h.invariant (I := fun p => p.Holds Table.Sound fun t point => point.Sound t) ?_ ?_
    · rintro ⟨t, tasks⟩ ⟨rfl, rfl⟩
      refine ⟨⟨⟨nofun, nofun, fun _ => ?_, fun _ => ?_⟩, trivial, nofun⟩, nofun⟩
      · exact iff_of_false nofun nofun
      · exact iff_of_false nofun nofun
    · intro p move p' hp hsettled hstep
      cases move with
      | spawn point =>
        refine Runs.Pool.Holds.spawn hp hstep fun hstarts => ?_
        cases point with
        | dnat refresh reader => exact nomatch hstarts
        | docker refresh reader => exact nomatch hstarts
        | _ => trivial
      | advance i env =>
        refine Runs.Pool.Holds.advance hp hstep fun point next hpoint hsound hturn => ?_
        have hsettled : point.reads = true → _ := fun hreads =>
          hsettled (by rw [hpoint]; exact hreads)
        obtain ⟨htable, hnext, hparts⟩ := Point.turn_sound hp.1 hsound hsettled hturn
        exact ⟨htable, hnext, fun other _ hother => hother.mono hparts⟩
  exact hinv.1.complete

/-- A host with a container, a DNAT rule and no sockets. -/
def oneContainer : PortsEnv where
  now := 0
  inodes _ := none
  tcp := none
  tcp6 := none
  dnat := some (true, "a a a a a a a a a a :8")
  hasDocker := true
  docker := some "9"
  opens := true
  writes := true

/-- The ports that `write_business_ports_to_proc` has found, and the calls before. -/
def Visit.written (visit : Visit) : Option (List ℕ × List Part) :=
  match visit.answer with
  | .businessPorts ports => some (ports, visit.parts)
  | _ => none

/-- The calls of the first refresh. -/
def firstRefresh : List Part := [⟨0, .docker, [9]⟩, ⟨0, .dnat, [8]⟩, ⟨0, .netstat, []⟩]

/-- The timer task makes its refresh and writes the ports. -/
def undisturbed : List (Runs.Move Point PortsEnv) :=
  [.spawn .timer, .advance 0 oneContainer, .advance 0 oneContainer, .advance 0 oneContainer,
    .advance 0 oneContainer]

/-- The timer task makes its refresh, the handler of kernel events begins one, and then the timer
task writes the ports. -/
def interrupted : List (Runs.Move Point PortsEnv) :=
  [.spawn .timer, .advance 0 oneContainer, .advance 0 oneContainer, .advance 0 oneContainer,
    .spawn .handler, .advance 1 oneContainer, .advance 0 oneContainer]

/-- The timer task alone writes the ports of its refresh. -/
theorem ports_complete_timer :
    ∃ p : Runs.Pool Table Point, p.shared.visits.map Visit.written = [some ([8, 9], firstRefresh)] ∧
      ∀ visit ∈ p.shared.visits, visit.Complete := by
  have hexec : (portsSystem.exec ⟨{}, []⟩ undisturbed).map
      (fun p => p.shared.visits.map Visit.written) = some [some ([8, 9], firstRefresh)] := by decide
  have hmeets : portsSystem.Meets Settled ⟨{}, []⟩ undisturbed := by decide
  obtain ⟨p, hexec, hvisits⟩ := Option.map_eq_some_iff.mp hexec
  have hinit : portsSystem.Reaches Settled ⟨{}, []⟩ := .init ⟨rfl, rfl⟩
  exact ⟨p, hvisits, ports_complete (hinit.exec hmeets hexec)⟩

/-- Ports that miss those of the one completed refresh are not complete. -/
theorem not_complete {visit : Visit}
    (h : visit.written = some ([], ⟨1, .netstat, []⟩ :: firstRefresh)) : ¬visit.Complete := by
  obtain ⟨answer, parts⟩ := visit
  cases answer with
  | businessPorts ports =>
    obtain ⟨rfl, rfl⟩ := Prod.mk.inj (Option.some.inj h)
    rintro (⟨hnil, -⟩ | ⟨netstat, dnat, docker, refresh, -, -, -, hdocker, hshows⟩)
    · exact nomatch hnil
    · obtain ⟨x, hx, -⟩ := hdocker.own
      obtain ⟨hmem, hkind, -⟩ := hdocker.sub x hx
      have hports : ∀ y ∈ (⟨1, .netstat, []⟩ :: firstRefresh : List Part),
          y.kind = .docker → 9 ∈ y.ports := by decide
      exact nomatch (hshows 9).mpr ⟨x, List.mem_append_right _ hx, hports x hmem hkind⟩
  | port p info => exact nomatch h
  | json entries => exact nomatch h

/-- The ports of the DNAT rule and of the container are missing. -/
theorem container_port_missing :
    ¬∀ p, portsSystem.Reachable p → ∀ visit ∈ p.shared.visits, visit.Complete := by
  intro hall
  have hexec : (portsSystem.exec ⟨{}, []⟩ interrupted).map
      (fun p => p.shared.visits.map Visit.written) =
        some [some ([], ⟨1, .netstat, []⟩ :: firstRefresh)] := by decide
  obtain ⟨p, hexec, hvisits⟩ := Option.map_eq_some_iff.mp hexec
  obtain ⟨visit, hvisit, hwritten⟩ := List.map_eq_singleton_iff.mp hvisits
  have hinit : portsSystem.Reachable ⟨{}, []⟩ := .init ⟨rfl, rfl⟩
  have hcomplete := hall p (Runs.System.Reachable.exec hinit hexec) visit
    (hvisit ▸ List.mem_singleton_self visit)
  exact not_complete hwritten hcomplete

end LinuxAgent.HostInfo
