import LinuxAgent.HostInfo.NetApp
import LinuxAgent.Lib.Runs

/-!
# The list of services

The service list is made of the entries that are kept under a text. A listening socket is kept under
its address and its port, a forwarded port or the port of a container under the port alone, so that
a service may be in the list twice.
-/

namespace LinuxAgent.HostInfo

/-- `add_port_info`. -/
def NetAppState.addPortInfo (port : ℕ) (info : PortBusinessInfo) (s : NetAppState) :
    NetAppState where
  portMap := insertEntry port info s.portMap
  portStrMap := insertEntry (info.localIp ++ ":" ++ toString port) info s.portStrMap

/-- A call that changes the maps. -/
inductive ServiceCall
  | netstat (sur : Surroundings)
  | dnat (sur : Surroundings)
  | docker (sur : Surroundings)
  | addPortInfo (port : ℕ) (info : PortBusinessInfo)

/-- The maps after a call. -/
def ServiceCall.apply (s : NetAppState) : ServiceCall → NetAppState
  | .netstat sur => updateNetstatInfo sur
  | .dnat sur => updateDnatInfo sur s
  | .docker sur => updateDockerInfo sur s
  | .addPortInfo port info => s.addPortInfo port info

/-- The maps after some calls. -/
def afterCalls (calls : List ServiceCall) : NetAppState := calls.foldl ServiceCall.apply {}

/-- The key of an entry: its address and its port. -/
def PortBusinessInfo.key (info : PortBusinessInfo) : String :=
  info.localIp ++ ":" ++ toString info.localPort

/-- What the service list shows of the place of an entry. -/
def PortBusinessInfo.place (info : PortBusinessInfo) : String × String :=
  (info.localIp, toString info.localPort)

/-- Each entry is kept under its address and its port, no service is in the list twice, and the
ports of the entries are in the other map. -/
structure NetAppState.Consistent (s : NetAppState) : Prop where
  keys : ∀ e ∈ s.portStrMap, e.1 = e.2.localIp ++ ":" ++ toString e.2.localPort
  unique : ∀ entries, s.toJson = .ok entries → (entries.map fun e => (e.ip, e.port)).Nodup
  ports : ∀ p ∈ portsOf s.portStrMap, p ∈ s.portMap.map Prod.fst

/-- A call keeps to the keys if it does not find a port without a socket, and if it adds an entry
under the port of the entry. -/
def ServiceCall.KeepsKeys : ServiceCall → Prop
  | .netstat _ => True
  | .dnat sur => dnatPorts sur = []
  | .docker sur => dockerPorts sur = []
  | .addPortInfo port info => port = info.localPort

section Keys

variable {κ : Type} [DecidableEq κ] {key : κ} {info : PortBusinessInfo}
  {m : List (κ × PortBusinessInfo)}

/-- The keys after an entry was added, if there was none with its key. -/
theorem mem_keys_insertNew (k : κ) :
    k ∈ (insertNew key info m).map Prod.fst ↔ k ∈ m.map Prod.fst ∨ k = key := by
  rw [insertNew]
  split
  · next hany =>
    obtain ⟨e, he, heq⟩ := List.any_eq_true.mp hany
    refine (or_iff_left_of_imp ?_).symm
    rintro rfl
    exact List.mem_map.mpr ⟨e, he, of_decide_eq_true heq⟩
  · rw [List.map_append, List.mem_append, List.map_singleton, List.mem_singleton]

/-- The keys after an entry was added in the place of the one with its key. -/
theorem mem_keys_insertEntry (k : κ) :
    k ∈ (insertEntry key info m).map Prod.fst ↔ k ∈ m.map Prod.fst ∨ k = key := by
  rw [insertEntry, List.map_append, List.mem_append, List.map_singleton, List.mem_singleton]
  by_cases hk : k = key
  · exact iff_of_true (.inr hk) (.inr hk)
  · rw [or_iff_left hk, or_iff_left hk]
    constructor
    · intro h
      obtain ⟨e, he, rfl⟩ := List.mem_map.mp h
      exact List.mem_map_of_mem (List.mem_of_mem_filter he)
    · intro h
      obtain ⟨e, he, rfl⟩ := List.mem_map.mp h
      exact List.mem_map_of_mem (List.mem_filter.mpr ⟨he, decide_eq_true hk⟩)

/-- An entry that is in a map after one was added. -/
theorem mem_of_mem_insertNew {e : κ × PortBusinessInfo} (h : e ∈ insertNew key info m) :
    e ∈ m ∨ e = (key, info) := by
  rw [insertNew] at h
  split at h
  · exact .inl h
  · exact (List.mem_append.mp h).imp_right List.mem_singleton.mp

/-- What is in the map after a new entry was there before or is the entry. -/
theorem mem_of_mem_insertEntry {e : κ × PortBusinessInfo} (h : e ∈ insertEntry key info m) :
    e ∈ m ∨ e = (key, info) := by
  rw [insertEntry] at h
  exact (List.mem_append.mp h).imp List.mem_of_mem_filter List.mem_singleton.mp

end Keys

/-- The entries are kept under their keys, and each of them is at a place of its own. -/
structure Addressed (m : List (String × PortBusinessInfo)) : Prop where
  keys : ∀ e ∈ m, e.1 = e.2.key
  places : (m.map fun e => e.2.place).Nodup

section Addressed

variable {m : List (String × PortBusinessInfo)} {info : PortBusinessInfo}

/-- Entries at one place have one key. -/
theorem key_eq_of_place_eq {other : PortBusinessInfo} (h : info.place = other.place) :
    info.key = other.key := by
  have hip : info.localIp = other.localIp := congrArg Prod.fst h
  have hport : toString info.localPort = toString other.localPort := congrArg Prod.snd h
  rw [PortBusinessInfo.key, PortBusinessInfo.key, hip, hport]

/-- A further entry under a key that is free. -/
theorem Addressed.append (h : Addressed m) (hfree : ∀ e ∈ m, e.1 ≠ info.key) :
    Addressed (m ++ [(info.key, info)]) where
  keys := List.forall_mem_append.mpr ⟨h.keys, List.forall_mem_singleton.mpr rfl⟩
  places := by
    rw [List.map_append, List.map_singleton, List.nodup_append]
    refine ⟨h.places, List.nodup_singleton _, ?_⟩
    rintro place hplace other hother rfl
    obtain ⟨e, he, heq⟩ := List.mem_map.mp hplace
    refine hfree e he ?_
    rw [h.keys e he]
    exact key_eq_of_place_eq (heq.trans (List.mem_singleton.mp hother))

/-- A new entry is under its own key. -/
theorem Addressed.insertNew (h : Addressed m) (info : PortBusinessInfo) :
    Addressed (insertNew info.key info m) := by
  rw [HostInfo.insertNew]
  split
  · exact h
  · next hany =>
    refine h.append fun e he heq => hany ?_
    exact List.any_eq_true.mpr ⟨e, he, decide_eq_true heq⟩

/-- An entry that is put in is under its own key. -/
theorem Addressed.insertEntry (h : Addressed m) (info : PortBusinessInfo) :
    Addressed (insertEntry info.key info m) := by
  have hfilter : Addressed (m.filter fun e => e.1 ≠ info.key) :=
    ⟨fun e he => h.keys e (List.mem_of_mem_filter he),
      h.places.sublist (List.filter_sublist.map _)⟩
  rw [HostInfo.insertEntry]
  exact hfilter.append fun e he => of_decide_eq_true (List.mem_filter.mp he).2

end Addressed

/-- The places in the service list. -/
theorem unique_iff (s : NetAppState) :
    (∀ entries, s.toJson = .ok entries → (entries.map fun e => (e.ip, e.port)).Nodup) ↔
      (s.portStrMap.map fun e => e.2.place).Nodup := by
  rw [NetAppState.toJson]
  split
  · next hnil =>
    rw [hnil]
    exact iff_of_true (fun entries h => absurd h (by simp)) List.nodup_nil
  · constructor
    · intro h
      have hnodup := h _ rfl
      rwa [List.map_map] at hnodup
    · rintro h entries hentries
      obtain rfl := Except.ok.inj hentries
      rwa [List.map_map]

/-- The invariant by its parts. -/
theorem consistent_iff (s : NetAppState) :
    s.Consistent ↔
      Addressed s.portStrMap ∧ ∀ p ∈ portsOf s.portStrMap, p ∈ s.portMap.map Prod.fst :=
  ⟨fun h => ⟨⟨h.keys, (unique_iff s).mp h.unique⟩, h.ports⟩,
    fun h => ⟨h.1.keys, (unique_iff s).mpr h.1.places, h.2⟩⟩

/-- The empty table is consistent. -/
theorem consistent_start : NetAppState.Consistent {} :=
  (consistent_iff _).mpr ⟨⟨fun _ he => absurd he List.not_mem_nil, List.nodup_nil⟩,
    fun _ hp => absurd hp List.not_mem_nil⟩

/-- A listening socket keeps the invariant. -/
theorem NetAppState.Consistent.addListening {s : NetAppState} (h : s.Consistent)
    (info : PortBusinessInfo) : (s.addListening info).Consistent := by
  obtain ⟨haddressed, hports⟩ := (consistent_iff s).mp h
  refine (consistent_iff _).mpr ⟨haddressed.insertNew info, fun p hp => ?_⟩
  refine (mem_keys_insertNew p).mpr ?_
  obtain ⟨e, he, rfl⟩ := List.mem_map.mp hp
  obtain he | rfl := mem_of_mem_insertNew he
  · exact .inl (hports _ (List.mem_map_of_mem he))
  · exact .inr rfl

/-- The listening sockets alone give the invariant. -/
theorem consistent_updateNetstatInfo (sur : Surroundings) : (updateNetstatInfo sur).Consistent := by
  rw [updateNetstatInfo]
  refine List.foldlRecOn _ NetAppState.addListening consistent_start fun s hs info _ => ?_
  exact hs.addListening info

/-- An entry that is added keeps the invariant just if it is added under its own port. -/
theorem consistent_addPortInfo_iff {s : NetAppState} (h : s.Consistent) (port : ℕ)
    (info : PortBusinessInfo) : (s.addPortInfo port info).Consistent ↔ port = info.localPort := by
  constructor
  · intro hafter
    have hkey : info.localIp ++ ":" ++ toString port =
        info.localIp ++ ":" ++ toString info.localPort :=
      hafter.keys (_, info) (List.mem_append_right _ (List.mem_singleton_self _))
    have hsame := congrArg String.toList hkey
    simp only [@String.toList_append (info.localIp ++ ":")] at hsame
    exact Text.toString_injective (String.toList_inj.mp (List.append_cancel_left hsame))
  · rintro rfl
    obtain ⟨haddressed, hports⟩ := (consistent_iff s).mp h
    refine (consistent_iff _).mpr ⟨haddressed.insertEntry info, fun p hp => ?_⟩
    refine (mem_keys_insertEntry p).mpr ?_
    obtain ⟨e, he, rfl⟩ := List.mem_map.mp hp
    obtain he | rfl := mem_of_mem_insertEntry he
    · exact .inl (hports _ (List.mem_map_of_mem he))
    · exact .inr rfl

/-- Ports under texts without a colon keep the invariant just if there are none. -/
theorem consistent_foldl_addNamed_iff {s : NetAppState} (h : s.Consistent) {found : List NamedPort}
    (hcolon : ∀ named ∈ found, ':' ∉ named.text.toList) :
    (found.foldl NetAppState.addNamed s).Consistent ↔ found = [] := by
  constructor
  · intro hafter
    refine List.eq_nil_iff_forall_not_mem.mpr ?_
    intro named hnamed
    obtain ⟨before, last, rfl⟩ := List.eq_nil_or_concat' found |>.resolve_left
      (List.ne_nil_of_mem hnamed)
    rw [List.foldl_append] at hafter
    have hkey : last.text = last.info.localIp ++ ":" ++ toString last.info.localPort :=
      hafter.keys (_, last.info) (List.mem_append_right _ (List.mem_singleton_self _))
    refine hcolon last (List.mem_append_right _ (List.mem_singleton_self _)) ?_
    rw [hkey]
    simp
  · rintro rfl
    exact h

/-- The texts of the DNAT ports have no colon. -/
theorem colon_not_mem_dnatPorts {sur : Surroundings} {named : NamedPort}
    (h : named ∈ dnatPorts sur) : ':' ∉ named.text.toList := by
  rw [dnatPorts] at h
  split at h
  · obtain ⟨line, -, hline⟩ := List.mem_filterMap.mp h
    rw [dnatLine] at hline
    split at hline
    · exact absurd hline.symm (Option.some_ne_none _)
    · obtain ⟨portStr, hafter, hparse⟩ := Option.bind_eq_some_iff.mp hline
      obtain ⟨port, -, rfl⟩ := Option.map_eq_some_iff.mp hparse
      rw [String.toList_ofList]
      exact not_mem_of_afterLastColon hafter
  · exact absurd h List.not_mem_nil

/-- The texts of the container ports have no colon. -/
theorem colon_not_mem_dockerPorts {sur : Surroundings} {named : NamedPort}
    (h : named ∈ dockerPorts sur) : ':' ∉ named.text.toList := by
  rw [dockerPorts] at h
  split at h
  · obtain ⟨line, -, hline⟩ := List.mem_filterMap.mp h
    obtain ⟨port, -, rfl⟩ := Option.map_eq_some_iff.mp hline
    exact Text.not_mem_toString (by decide) port
  · exact absurd h List.not_mem_nil

/-- A call keeps the invariant just if it keeps to the keys. -/
theorem consistent_apply_iff {s : NetAppState} (h : s.Consistent) (call : ServiceCall) :
    (call.apply s).Consistent ↔ call.KeepsKeys := by
  cases call with
  | netstat sur => exact iff_of_true (consistent_updateNetstatInfo sur) trivial
  | dnat sur => exact consistent_foldl_addNamed_iff h fun _ => colon_not_mem_dnatPorts
  | docker sur => exact consistent_foldl_addNamed_iff h fun _ => colon_not_mem_dockerPorts
  | addPortInfo port info => exact consistent_addPortInfo_iff h port info

/-- All along a sequence of calls the entries are under their keys, the services are listed once and
their ports are known, just if each of the calls keeps to the keys. -/
theorem services_unique_iff (calls : List ServiceCall) :
    (∀ seen, seen <+: calls → (afterCalls seen).Consistent) ↔
      ∀ call ∈ calls, call.KeepsKeys := by
  have hstep (s : NetAppState) (call : ServiceCall) (hs : s.Consistent) :
      (call.apply s).Consistent ↔ call.KeepsKeys := consistent_apply_iff hs call
  have hruns := Runs.System.forall_foldl_iff (f := ServiceCall.apply) hstep consistent_start calls
  refine hruns.trans ⟨fun h call hcall => ?_, fun h seen call hseen => ?_⟩
  · obtain ⟨seen, rest, rfl⟩ := List.append_of_mem hcall
    exact h seen call ⟨rest, by rw [List.append_assoc, List.singleton_append]⟩
  · exact h call (hseen.subset (List.mem_append_right _ (List.mem_singleton_self _)))

/-- A host with a web server that listens on all addresses, and a container with the same port. -/
def webHost : Surroundings where
  now := 0
  inodes := fun _ => none
  tcp := some "sl local_address rem_address st\n0: 00000000:0050 00000000:0000 0A 0 0 0 0 0 0\n"
  tcp6 := none
  dnat := none
  hasDocker := true
  docker := some "80\n"

/-- The web server is in the service list twice, under two keys. -/
theorem web_server_twice :
    (afterCalls [.netstat webHost, .docker webHost]).toJson =
        .ok [⟨"tcp", "0.0.0.0", "80", "--"⟩, ⟨"tcp", "0.0.0.0", "80", "dockerBusinessPort"⟩] ∧
      ¬(afterCalls [.netstat webHost, .docker webHost]).Consistent := by
  have hlist : (afterCalls [.netstat webHost, .docker webHost]).toJson =
      .ok [⟨"tcp", "0.0.0.0", "80", "--"⟩, ⟨"tcp", "0.0.0.0", "80", "dockerBusinessPort"⟩] := by
    decide +kernel
  refine ⟨hlist, fun h => ?_⟩
  exact absurd (h.unique _ hlist) (by decide)

end LinuxAgent.HostInfo
