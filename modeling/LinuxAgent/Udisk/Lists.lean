import LinuxAgent.Lib.Runs
import Mathlib.Data.Finset.Dedup
import Mathlib.Data.Finset.Disjoint
import Mathlib.Data.Finset.SDiff

/-!
# Black and white lists of USB devices

`BlackWhiteList` holds the devices of both colours and, beside each list, the set of its
identifiers. An update replaces the list of one colour and takes its devices out of the
other list. The identifiers that an update of the blacklist brings in are handed over to
be disabled.
-/

namespace LinuxAgent.Udisk

/-- `UsbInfo`. -/
structure UsbInfo where
  perpheralEid : String
  perpheralName : String
  intro : String := ""
  type_ : String := ""
  allow : Bool := false
  deriving DecidableEq

/-- `DeviceListStatus`. -/
inductive DeviceListStatus
  | inWhitelist
  | inBlacklist
  | notInAnyList
  deriving DecidableEq

/-- `BlackWhiteList`; `BlackWhiteList::new()` is the value with nothing in it. -/
structure BlackWhiteList where
  blacklist : List UsbInfo := []
  whitelist : List UsbInfo := []
  blackEids : Finset String := ∅
  whiteEids : Finset String := ∅
  deriving DecidableEq

/-- The set of the identifiers of some devices. -/
def eids (devices : List UsbInfo) : Finset String :=
  (devices.map UsbInfo.perpheralEid).toFinset

/-- The eids of a list of devices. -/
theorem mem_eids {devices : List UsbInfo} {eid : String} :
    eid ∈ eids devices ↔ ∃ u ∈ devices, u.perpheralEid = eid := by
  simp [eids]

/-- An order in which a `HashSet` may be iterated. -/
structure Iteration where
  toList : Finset String → List String
  nodup : ∀ s, (toList s).Nodup
  mem : ∀ s eid, eid ∈ toList s ↔ eid ∈ s

namespace BlackWhiteList

/-- `get_device_list_status`. -/
def getDeviceListStatus (l : BlackWhiteList) (eid : String) : DeviceListStatus :=
  if eid ∈ l.blackEids then .inBlacklist
  else if eid ∈ l.whiteEids then .inWhitelist
  else .notInAnyList

/-- `is_allowed`. -/
def isAllowed (l : BlackWhiteList) (eid : String) : Bool :=
  if eid ∈ l.blackEids then false
  else if l.whiteEids = ∅ then true
  else eid ∈ l.whiteEids

/-- `update_whitelist`. -/
def updateWhitelist (l : BlackWhiteList) (newWhitelist : List UsbInfo) : BlackWhiteList :=
  let newWhiteEids := eids newWhitelist
  let blacklist := l.blacklist.filter fun u => u.perpheralEid ∉ newWhiteEids
  { blacklist := blacklist
    blackEids := eids blacklist
    whitelist := newWhitelist
    whiteEids := newWhiteEids }

/-- `update_blacklist`: the lists after it and the identifiers that `handle_blacklist_update`
is called with, when it is called. -/
def updateBlacklist (l : BlackWhiteList) (newBlacklist : List UsbInfo) (order : Iteration) :
    BlackWhiteList × Option (List String) :=
  let newBlackEids := eids newBlacklist
  let addedToBlacklist := order.toList (newBlackEids \ l.blackEids)
  let whitelist := l.whitelist.filter fun u => u.perpheralEid ∉ newBlackEids
  ({ whitelist := whitelist
     whiteEids := eids whitelist
     blacklist := newBlacklist
     blackEids := newBlackEids },
    if addedToBlacklist ≠ [] then some addedToBlacklist else none)

/-- The updates of the lists. -/
inductive Update
  | white (newWhitelist : List UsbInfo)
  | black (newBlacklist : List UsbInfo) (order : Iteration)

/-- Carry out an update. -/
def apply (l : BlackWhiteList) : Update → BlackWhiteList
  | .white newWhitelist => l.updateWhitelist newWhitelist
  | .black newBlacklist order => (l.updateBlacklist newBlacklist order).1

/-- Updates of new lists. -/
def system : Runs.System BlackWhiteList Update where
  init l := l = {}
  step l update := some (l.apply update)

/-- The sets are those of the lists, and no identifier has both colours. -/
structure Sound (l : BlackWhiteList) : Prop where
  black : l.blackEids = eids l.blacklist
  white : l.whiteEids = eids l.whitelist
  disjoint : Disjoint l.blackEids l.whiteEids

/-- The identifiers of the devices that are kept have not been taken out. -/
theorem mem_eids_filter {devices : List UsbInfo} {out : Finset String} {eid : String} :
    eid ∈ eids (devices.filter fun u => u.perpheralEid ∉ out) ↔ eid ∈ eids devices ∧ eid ∉ out := by
  simp only [mem_eids, List.mem_filter, decide_eq_true_eq]
  constructor
  · rintro ⟨u, ⟨hu, hout⟩, rfl⟩
    exact ⟨⟨u, hu, rfl⟩, hout⟩
  · rintro ⟨⟨u, hu, rfl⟩, hout⟩
    exact ⟨u, ⟨hu, hout⟩, rfl⟩

/-- An update makes the lists sound, whatever they were. -/
theorem sound_apply (l : BlackWhiteList) (update : Update) : (l.apply update).Sound := by
  cases update with
  | white newWhitelist =>
    refine ⟨rfl, rfl, Finset.disjoint_left.mpr fun eid hblack hwhite => ?_⟩
    exact (mem_eids_filter.mp hblack).2 hwhite
  | black newBlacklist order =>
    refine ⟨rfl, rfl, Finset.disjoint_left.mpr fun eid hblack hwhite => ?_⟩
    exact (mem_eids_filter.mp hwhite).2 hblack

/-- The lists are sound all along a run. -/
theorem sound_of_reachable {l : BlackWhiteList} (hl : system.Reachable l) : l.Sound := by
  refine hl.invariant ?_ ?_
  · rintro l rfl
    exact ⟨rfl, rfl, Finset.disjoint_empty_left _⟩
  · intro l update l' _ _ hstep
    obtain rfl := Option.some.inj hstep
    exact l.sound_apply update

/-- What the status says of sound lists. -/
theorem Sound.status_iff {l : BlackWhiteList} (h : l.Sound) (eid : String) :
    (l.getDeviceListStatus eid = .inBlacklist ↔ ∃ u ∈ l.blacklist, u.perpheralEid = eid) ∧
      (l.getDeviceListStatus eid = .inWhitelist ↔ ∃ u ∈ l.whitelist, u.perpheralEid = eid) ∧
      (l.getDeviceListStatus eid = .notInAnyList ↔
        ∀ u ∈ l.blacklist ++ l.whitelist, u.perpheralEid ≠ eid) := by
  have hboth : eid ∈ l.blackEids → eid ∉ l.whiteEids := fun hb hw =>
    Finset.disjoint_left.mp h.disjoint hb hw
  have hneither : (∀ u ∈ l.blacklist ++ l.whitelist, u.perpheralEid ≠ eid) ↔
      eid ∉ l.blackEids ∧ eid ∉ l.whiteEids := by
    simp only [h.black, h.white, mem_eids, List.forall_mem_append, not_exists, not_and, ne_eq]
  rw [hneither, ← mem_eids, ← mem_eids, ← h.black, ← h.white, getDeviceListStatus]
  by_cases hb : eid ∈ l.blackEids
  · simp [hb, hboth hb]
  · by_cases hw : eid ∈ l.whiteEids <;> simp [hb, hw]

/-- A device is allowed unless it is blacklisted or missing from a whitelist. -/
theorem Sound.isAllowed_iff {l : BlackWhiteList} (h : l.Sound) (eid : String) :
    l.isAllowed eid = true ↔ l.getDeviceListStatus eid = .inWhitelist ∨
      l.getDeviceListStatus eid = .notInAnyList ∧ l.whitelist = [] := by
  have hempty : l.whiteEids = ∅ ↔ l.whitelist = [] := by
    rw [h.white, eids, List.toFinset_eq_empty_iff, List.map_eq_nil_iff]
  rw [isAllowed, getDeviceListStatus, ← hempty]
  by_cases hb : eid ∈ l.blackEids
  · simp [hb]
  · by_cases hw : eid ∈ l.whiteEids
    · simp [hb, hw, Finset.ne_empty_of_mem hw]
    · simp [hb, hw]

/-- The devices of an update of the whitelist are white. -/
theorem status_updateWhitelist (l : BlackWhiteList) {newWhitelist : List UsbInfo} {u : UsbInfo}
    (hu : u ∈ newWhitelist) :
    (l.updateWhitelist newWhitelist).getDeviceListStatus u.perpheralEid = .inWhitelist :=
  ((sound_apply l (.white newWhitelist)).status_iff _).2.1.mpr ⟨u, hu, rfl⟩

/-- The devices of an update of the blacklist are black. -/
theorem status_updateBlacklist (l : BlackWhiteList) {newBlacklist : List UsbInfo}
    (order : Iteration) {u : UsbInfo} (hu : u ∈ newBlacklist) :
    (l.updateBlacklist newBlacklist order).1.getDeviceListStatus u.perpheralEid = .inBlacklist :=
  ((sound_apply l (.black newBlacklist order)).status_iff _).1.mpr ⟨u, hu, rfl⟩

/-- Other devices keep their colour in an update of the whitelist, unless they were white. -/
theorem Sound.status_updateWhitelist_of_forall_ne {l : BlackWhiteList} (h : l.Sound)
    {newWhitelist : List UsbInfo} {eid : String}
    (heid : ∀ u ∈ newWhitelist, u.perpheralEid ≠ eid) :
    (l.updateWhitelist newWhitelist).getDeviceListStatus eid =
      if l.getDeviceListStatus eid = .inWhitelist then .notInAnyList
      else l.getDeviceListStatus eid := by
  have hnew : eid ∉ eids newWhitelist := by
    rw [mem_eids]
    rintro ⟨u, hu, rfl⟩
    exact heid u hu rfl
  simp only [getDeviceListStatus, updateWhitelist, mem_eids_filter, hnew, not_false_eq_true,
    and_true, if_false, ← h.black]
  by_cases hb : eid ∈ l.blackEids
  · simp [hb]
  · by_cases hw : eid ∈ l.whiteEids <;> simp [hb, hw]

/-- Other devices keep their colour in an update of the blacklist, unless they were black. -/
theorem Sound.status_updateBlacklist_of_forall_ne {l : BlackWhiteList} (h : l.Sound)
    {newBlacklist : List UsbInfo} (order : Iteration) {eid : String}
    (heid : ∀ u ∈ newBlacklist, u.perpheralEid ≠ eid) :
    (l.updateBlacklist newBlacklist order).1.getDeviceListStatus eid =
      if l.getDeviceListStatus eid = .inBlacklist then .notInAnyList
      else l.getDeviceListStatus eid := by
  have hnew : eid ∉ eids newBlacklist := by
    rw [mem_eids]
    rintro ⟨u, hu, rfl⟩
    exact heid u hu rfl
  have hboth : eid ∈ l.blackEids → eid ∉ l.whiteEids := fun hb hw =>
    Finset.disjoint_left.mp h.disjoint hb hw
  simp only [getDeviceListStatus, updateBlacklist, mem_eids_filter, hnew, not_false_eq_true,
    and_true, if_false, ← h.white]
  by_cases hb : eid ∈ l.blackEids
  · simp [hb, hboth hb]
  · by_cases hw : eid ∈ l.whiteEids <;> simp [hb, hw]

/-- The identifiers that an update hands over: those of its devices that are not blacklisted
before it, each once, and the call is made only if there are some. -/
theorem updateBlacklist_asks (l : BlackWhiteList) (newBlacklist : List UsbInfo)
    (order : Iteration) :
    (∀ eid, (∃ asked, (l.updateBlacklist newBlacklist order).2 = some asked ∧ eid ∈ asked) ↔
      eid ∈ eids newBlacklist ∧ eid ∉ l.blackEids) ∧
    ∀ asked, (l.updateBlacklist newBlacklist order).2 = some asked → asked.Nodup ∧ asked ≠ [] := by
  have hmem (eid : String) : eid ∈ order.toList (eids newBlacklist \ l.blackEids) ↔
      eid ∈ eids newBlacklist ∧ eid ∉ l.blackEids := by
    rw [order.mem, Finset.mem_sdiff]
  simp only [updateBlacklist]
  by_cases hadded : order.toList (eids newBlacklist \ l.blackEids) = []
  · simp only [hadded, List.not_mem_nil, false_iff] at hmem
    simp only [hadded, ne_eq, not_true_eq_false, if_false, reduceCtorEq, false_and, exists_false,
      false_iff, false_implies, implies_true, and_true]
    exact hmem
  · simp only [hadded, ne_eq, not_false_eq_true, if_true, Option.some.injEq, exists_eq_left',
      forall_eq']
    exact ⟨hmem, order.nodup _, trivial⟩

/-- Whatever updates have been made, the sets are those of the lists, no identifier has both
colours and the status tells the list; the devices of the next update get its colour and others
keep the colour that it does not give, and an update of the blacklist hands over exactly the
identifiers that were not blacklisted. -/
theorem usb_lists_agree {l : BlackWhiteList} (hl : system.Reachable l) :
    (l.blackEids = eids l.blacklist ∧ l.whiteEids = eids l.whitelist ∧
      Disjoint l.blackEids l.whiteEids) ∧
    (∀ eid,
      (l.getDeviceListStatus eid = .inBlacklist ↔ ∃ u ∈ l.blacklist, u.perpheralEid = eid) ∧
      (l.getDeviceListStatus eid = .inWhitelist ↔ ∃ u ∈ l.whitelist, u.perpheralEid = eid) ∧
      (l.getDeviceListStatus eid = .notInAnyList ↔
        ∀ u ∈ l.blacklist ++ l.whitelist, u.perpheralEid ≠ eid)) ∧
    (∀ newWhitelist,
      (∀ u ∈ newWhitelist,
        (l.updateWhitelist newWhitelist).getDeviceListStatus u.perpheralEid = .inWhitelist) ∧
      ∀ eid, (∀ u ∈ newWhitelist, u.perpheralEid ≠ eid) →
        (l.updateWhitelist newWhitelist).getDeviceListStatus eid =
          if l.getDeviceListStatus eid = .inWhitelist then .notInAnyList
          else l.getDeviceListStatus eid) ∧
    ∀ newBlacklist order,
      (∀ u ∈ newBlacklist, (l.updateBlacklist newBlacklist order).1.getDeviceListStatus
        u.perpheralEid = .inBlacklist) ∧
      (∀ eid, (∀ u ∈ newBlacklist, u.perpheralEid ≠ eid) →
        (l.updateBlacklist newBlacklist order).1.getDeviceListStatus eid =
          if l.getDeviceListStatus eid = .inBlacklist then .notInAnyList
          else l.getDeviceListStatus eid) ∧
      (∀ eid, (∃ asked, (l.updateBlacklist newBlacklist order).2 = some asked ∧ eid ∈ asked) ↔
        (∃ u ∈ newBlacklist, u.perpheralEid = eid) ∧
          ∀ u ∈ l.blacklist, u.perpheralEid ≠ eid) ∧
      ∀ asked, (l.updateBlacklist newBlacklist order).2 = some asked →
        asked.Nodup ∧ asked ≠ [] := by
  have hsound := sound_of_reachable hl
  refine ⟨⟨hsound.black, hsound.white, hsound.disjoint⟩, hsound.status_iff,
    fun _ => ⟨fun _ hu => l.status_updateWhitelist hu,
      fun _ heid => hsound.status_updateWhitelist_of_forall_ne heid⟩,
    fun newBlacklist order => ?_⟩
  obtain ⟨hasks, hasked⟩ := l.updateBlacklist_asks newBlacklist order
  refine ⟨fun u hu => l.status_updateBlacklist order hu,
    fun _ heid => hsound.status_updateBlacklist_of_forall_ne order heid, fun eid => ?_, hasked⟩
  rw [hasks, mem_eids, hsound.black, mem_eids]
  simp only [not_exists, not_and, ne_eq]

/-- A device that is white first and black afterwards. -/
def stick : UsbInfo := { perpheralEid := "5f2a", perpheralName := "stick" }

/-- A stick goes from the white list to the black one. -/
theorem usb_lists_agree_stick :
    ∃ l, system.exec {} [.white [stick]] = some l ∧
      l.getDeviceListStatus "5f2a" = .inWhitelist ∧ Disjoint l.blackEids l.whiteEids ∧
      ∀ order : Iteration,
        (l.updateBlacklist [stick] order).1.getDeviceListStatus "5f2a" = .inBlacklist := by
  have hexec : system.exec {} [.white [stick]] = some (updateWhitelist {} [stick]) := rfl
  have hstart : system.Reachable {} := .init rfl
  obtain ⟨⟨-, -, hdisjoint⟩, -, -, hblack⟩ := usb_lists_agree (hstart.exec hexec)
  exact ⟨_, hexec, by decide, hdisjoint,
    fun order => (hblack [stick] order).1 stick List.mem_cons_self⟩

end BlackWhiteList

end LinuxAgent.Udisk
