import LinuxAgent.Reporter.Bodies
import LinuxAgent.Udisk.Lists
import LinuxAgent.Udisk.Sysfs

/-!
# Hot-plugging of USB devices

libusb queues an event for each device that comes or goes and calls the monitor back for one after
the other. The monitor reports devices that are not on the whitelist, remembers what it knows of a
device until it goes, and signals to a second task that uploads the list of all storage devices. A
signal that finds its channel full is dropped.

Every departure that is reported is the one of a storage device, with its identifier, and after the
last event the server has the list of the devices that are there. Both hold while the switch is on.

A device is blocked by writing to its file `authorized`. The kernel takes the directories of its
interfaces away then, so a device that is storage by its interfaces only is not listed any more.
After an update of the blacklist a thread blocks devices without a signal.

The kernel is the environment: devices come and go as they like. Uploads that the server asks for
are left out.
-/

namespace LinuxAgent.Udisk.Hotplug

open LinuxAgent.Reporter Json

/-- Where a device is: its bus and its address. -/
abbrev Address := ℕ × ℕ

/-- A device as libusb and the files of the kernel show it. -/
structure UsbDevice where
  /-- The bus and the ports, which name its directory. -/
  sysfsName : String
  vendorId : UInt16
  productId : UInt16
  classCode : ℕ
  /-- The classes of the interfaces in all their settings. -/
  settings : List ℕ
  /-- The classes of the interfaces as they are set. -/
  interfaces : List ℕ
  /-- The files `manufacturer` and `serial`, trimmed; a missing one is empty. -/
  manufacturer : String
  serial : String
  interfaces_subset : interfaces ⊆ settings
  deriving DecidableEq

/-- A device in `/sys/bus/usb/devices`, with the trimmed text of its file `authorized`. -/
structure Node where
  device : UsbDevice
  authorized : String
  deriving DecidableEq

/-- A device that is not allowed to be used. -/
def Node.disable (n : Node) : Node := { n with authorized := "0" }

/-- What a callback can do with the device it is for. -/
structure Access where
  /-- Its active configuration can be read. -/
  config : Bool
  /-- It can be opened and its texts can be read. -/
  texts : Bool
  /-- One of the attempts to write to `authorized` succeeds. -/
  write : Bool

/-- The format `{:04x}`. -/
def hex4 (n : UInt16) : String :=
  String.ofList [Nat.digitChar (n.toNat / 4096 % 16), Nat.digitChar (n.toNat / 256 % 16),
    Nat.digitChar (n.toNat / 16 % 16), Nat.digitChar (n.toNat % 16)]

/-- `is_usb_storage`. The interfaces are in the active configuration, if that can be read. -/
def isUsbStorage (d : UsbDevice) (config : Bool) : Bool :=
  d.classCode = 8 || (config && d.settings.any fun c => c = 8)

/-- `has_mass_storage_interface`. The interfaces have directories while the device is allowed. -/
def hasMassStorageInterface (n : Node) : Bool :=
  n.authorized ≠ "0" && n.device.interfaces.any fun c => c = 8

/-- The device is on the list of the storage devices. -/
def Node.listed (n : Node) : Bool := n.device.classCode = 8 || hasMassStorageInterface n

/-- `vid{:04x}_pid{:04x}`. -/
def fallbackName (vid pid : UInt16) : String := s!"vid{hex4 vid}_pid{hex4 pid}"

section Monitor

variable (md5sum : String → String)

/-- `read_device_info_from_sysfs`: the name and the serial number of the first device of the model.
The hint is not looked at. -/
def readDeviceInfoFromSysfs (vid pid : UInt16) (_serialHint : String) (devices : List UsbDevice) :
    Option (String × String) :=
  (devices.find? fun d => hex4 d.vendorId = hex4 vid ∧ hex4 d.productId = hex4 pid).map fun d =>
    (if d.manufacturer = "" then fallbackName vid pid else d.manufacturer,
      if d.serial = "" then fallbackName vid pid else d.serial)

/-- What is read of the device itself when no files are found for its model. -/
def readFromUsb (d : UsbDevice) (texts : Bool) : String × String :=
  (if texts = false ∨ d.manufacturer = "" then fallbackName d.vendorId d.productId
    else d.manufacturer,
    if texts = false ∨ d.serial = "" then fallbackName d.vendorId d.productId else d.serial)

/-- The identifier of a device. -/
def UsbDevice.eid (d : UsbDevice) : String :=
  generateEid md5sum (hex4 d.vendorId) (hex4 d.productId) d.serial

/-- What a device is reported with: its identifier and its name. -/
def deviceInfo (d : UsbDevice) (texts : Bool) (devices : List UsbDevice) : String × String :=
  let info := (readDeviceInfoFromSysfs d.vendorId d.productId d.serial devices).getD
    (readFromUsb d texts)
  (generateEid md5sum (hex4 d.vendorId) (hex4 d.productId) info.2, info.1)

/-- A report about a device. -/
def usbLog (nType nLevel now : ℕ) (info : String × String) : AuditLogInfo where
  filePath := none
  renameDir := none
  exceptionProcess := none
  md5 := none
  nType := nType
  nLevel := nLevel
  nTime := now
  noticeRemark := none
  peripheralName := some info.2
  peripheralRemark := some info.2
  peripheralEid := some info.1
  pParam := none

/-- The report when a device comes. -/
def arrivalLog (usbProtect : Bool) (now : ℕ) (info : String × String) :
    DeviceListStatus → Option AuditLogInfo
  | .inWhitelist => none
  | .inBlacklist => some (if usbProtect then usbLog 9006 3 now info else usbLog 9004 2 now info)
  | .notInAnyList => some (if usbProtect then usbLog 9005 3 now info else usbLog 9003 2 now info)

/-- The report when a device goes. -/
def departureLog (usbProtect : Bool) (now : ℕ) (info : String × String) :
    DeviceListStatus → Option AuditLogInfo
  | .inWhitelist => none
  | _ => some (if usbProtect then usbLog 9007 3 now info else usbLog 9008 2 now info)

/-- `get_all_local_usb_devices`. A device has a vendor and a product. -/
def getAllLocalUsbDevices (nodes : List Node) : List UsbInfo :=
  (nodes.filter Node.listed).map fun n =>
    let d := n.device
    let name := if d.manufacturer = "" then fallbackName d.vendorId d.productId else d.manufacturer
    let serial := if d.serial = "" then fallbackName d.vendorId d.productId else d.serial
    { perpheralEid := generateEid md5sum (hex4 d.vendorId) (hex4 d.productId) serial
      perpheralName := name
      intro := name
      type_ := "usb_mass_storage"
      allow := n.authorized = "1" }

/-- An entry of the list that is uploaded. -/
structure JsonItem where
  peripheralEid : String
  peripheralName : String
  peripheralIntro : String
  peripheralType : String
  deriving DecidableEq

/-- How the devices are written and read. -/
def itemCoding : Coding JsonItem where
  json e := .object
    [("peripheral_eid", .string e.peripheralEid), ("peripheral_name", .string e.peripheralName),
      ("peripheral_intro", .string e.peripheralIntro),
      ("peripheral_type", .string e.peripheralType)]
  ofJson v := do
    some ⟨← v.str "peripheral_eid", ← v.str "peripheral_name", ← v.str "peripheral_intro",
      ← v.str "peripheral_type"⟩
  ofJson_json e := by
    simp [Value.str, Value.field]

/-- What is uploaded of a device. -/
def jsonItem (u : UsbInfo) : JsonItem := ⟨u.perpheralEid, u.perpheralName, u.intro, u.type_⟩

/-- `build_usb_json`. -/
def buildUsbJson (devices : List UsbInfo) : String :=
  body "data" (devices.map fun u => itemCoding.json (jsonItem u))

/-- The part of the configuration that the monitor reads. -/
structure Config where
  usbSwitch : Bool
  usbProtect : Bool

/-- An event of libusb. -/
inductive HotplugEvent
  | arrived (addr : Address) (device : UsbDevice)
  | left (addr : Address) (device : UsbDevice)

/-- Where the task stands that uploads the list. -/
inductive Uploader
  | waiting
  | reading
  | posting (body : String)
  deriving DecidableEq

/-- The devices, the monitor and the task that uploads the list. -/
structure State where
  config : Config
  lists : BlackWhiteList
  /-- The devices in the order in which the kernel lists them. -/
  devices : List (Address × Node)
  /-- The events the monitor has not been called back for yet. -/
  events : List HotplugEvent
  deviceInfoCache : Address → Option (String × String)
  /-- The reports, in their order. -/
  logs : List AuditLogInfo
  /-- The identifiers that the threads of `update_blacklist` have still to look for. -/
  blocking : List String
  /-- The departures with what was reported of them. -/
  departures : List (UsbDevice × Option AuditLogInfo)
  /-- The signals in the channel. -/
  signals : ℕ
  signalled : Bool
  uploader : Uploader
  /-- The list that the server got last. -/
  server : Option String

/-- What happens. -/
inductive Action
  | configure (config : Config)
  | update (update : BlackWhiteList.Update)
  /-- A device comes, at this place of the list. -/
  | plug (i : ℕ) (addr : Address) (node : Node)
  | unplug (addr : Address)
  /-- The monitor is called back for the next event. -/
  | callback (now : ℕ) (access : Access)
  /-- A thread of `update_blacklist` looks for a device, with the success of its writes. -/
  | block (eid : String) (writes : Address → Fin 3 → Bool)
  | recv
  | read
  | post (delivered : Bool)

/-- `try_send` on the channel of signals. -/
def State.signal (s : State) : State :=
  { s with signals := min 100 (s.signals + 1), signalled := true }

/-- The devices without their addresses. -/
def State.nodes (s : State) : List Node := s.devices.map Prod.snd

/-- `disable_usb_device`: the device in the directory is disabled, if one of the attempts to write
to its file succeeds. -/
def State.disableUsbDevice (s : State) (sysfsDeviceName : String) (write : Bool) : State :=
  if write then
    { s with
      devices := s.devices.map fun e =>
        if e.2.device.sysfsName = sysfsDeviceName then (e.1, e.2.disable) else e }
  else s

/-- A device as the search for an identifier finds it. -/
def Node.entry (n : Node) (writes : Fin 3 → Bool) : UsbEntry :=
  ⟨hex4 n.device.vendorId, hex4 n.device.productId, n.device.serial, some n.authorized, writes⟩

/-- The devices after the search for an identifier. -/
def State.disableDeviceViaSysfs (s : State) (eid : String) (writes : Address → Fin 3 → Bool) :
    State :=
  let entries := s.devices.map fun e => e.2.entry (writes e.1)
  { s with
    devices := List.zipWith
      (fun e entry => (e.1, { e.2 with authorized := entry.authorized.getD e.2.authorized }))
      s.devices (Udisk.disableDeviceViaSysfs md5sum eid entries).1 }

/-- `device_arrived`. -/
def State.deviceArrived (s : State) (addr : Address) (d : UsbDevice) (now : ℕ) (access : Access) :
    State :=
  if s.config.usbSwitch = false then s
  else if isUsbStorage d access.config = false then s
  else
    let info := deviceInfo md5sum d access.texts (s.nodes.map Node.device)
    let log := arrivalLog s.config.usbProtect now info (s.lists.getDeviceListStatus info.1)
    let s := { s with deviceInfoCache := Function.update s.deviceInfoCache addr (some info) }
    let s :=
      if log.isSome && s.config.usbProtect then
        s.disableUsbDevice d.sysfsName access.write
      else s
    State.signal { s with logs := s.logs ++ log.toList }

/-- `device_left`. -/
def State.deviceLeft (s : State) (addr : Address) (d : UsbDevice) (now : ℕ) : State :=
  if s.config.usbSwitch = false then { s with departures := s.departures ++ [(d, none)] }
  else
    let log := (s.deviceInfoCache addr).bind fun info =>
      departureLog s.config.usbProtect now info (s.lists.getDeviceListStatus info.1)
    State.signal
      { s with
        deviceInfoCache := Function.update s.deviceInfoCache addr none
        logs := s.logs ++ log.toList
        departures := s.departures ++ [(d, log)] }

/-- The body of the list of the devices that are there. -/
def State.currentBody (s : State) : String := buildUsbJson (getAllLocalUsbDevices md5sum s.nodes)

/-- An update of the lists. `update_blacklist` starts a thread for the identifiers that are new. -/
def State.update (s : State) (update : BlackWhiteList.Update) : State :=
  let added :=
    match update with
    | .white _ => none
    | .black newBlacklist order => (s.lists.updateBlacklist newBlacklist order).2
  { s with lists := s.lists.apply update, blocking := s.blocking ++ added.getD [] }

/-- One step. A directory has one device. -/
def step (s : State) : Action → Option State
  | .configure config => some { s with config := config }
  | .update update => some (s.update update)
  | .plug i addr n =>
    if (s.devices.lookup addr).isSome ∨
        ∃ other ∈ s.nodes, other.device.sysfsName = n.device.sysfsName then none
    else some { s with
      devices := s.devices.take i ++ (addr, n) :: s.devices.drop i
      events := s.events ++ [.arrived addr n.device] }
  | .unplug addr =>
    (s.devices.lookup addr).map fun n =>
      { s with
        devices := s.devices.filter fun entry => entry.1 ≠ addr
        events := s.events ++ [.left addr n.device] }
  | .callback now access =>
    match s.events with
    | [] => none
    | .arrived addr d :: rest =>
      some (State.deviceArrived md5sum { s with events := rest } addr d now access)
    | .left addr d :: rest => some (State.deviceLeft { s with events := rest } addr d now)
  | .block eid writes =>
    if eid ∈ s.blocking then
      some { s.disableDeviceViaSysfs md5sum eid writes with blocking := s.blocking.erase eid }
    else none
  | .recv =>
    if s.uploader = .waiting ∧ 0 < s.signals then
      some { s with uploader := .reading, signals := s.signals - 1 }
    else none
  | .read =>
    if s.uploader = .reading then some { s with uploader := .posting (s.currentBody md5sum) }
    else none
  | .post delivered =>
    match s.uploader with
    | .posting text =>
      some { s with uploader := .waiting, server := if delivered then some text else s.server }
    | _ => none

/-- The monitor has just been registered, with an event for each device that is there. -/
structure Starts (s : State) : Prop where
  nodup : (s.devices.map Prod.fst).Nodup
  names : (s.nodes.map fun n => n.device.sysfsName).Nodup
  events : s.events = s.devices.map fun entry => .arrived entry.1 entry.2.device
  deviceInfoCache : s.deviceInfoCache = fun _ => none
  departures : s.departures = []
  signals : s.signals = 0
  signalled : s.signalled = false
  uploader : s.uploader = .waiting

/-- The monitor with the ports of the host. -/
def system : Runs.System State Action where
  init := Starts
  step := step md5sum

section Steps

variable {md5sum} {s s' : State}

/-- A device comes in a directory that is free. -/
theorem step_plug {i : ℕ} {addr : Address} {n : Node}
    (h : step md5sum s (.plug i addr n) = some s') :
    s.devices.lookup addr = none ∧
      s' = { s with
        devices := s.devices.take i ++ (addr, n) :: s.devices.drop i
        events := s.events ++ [.arrived addr n.device] } := by
  rw [step] at h
  split at h
  · cases h
  · next hfree =>
    exact ⟨Option.not_isSome_iff_eq_none.mp (not_or.mp hfree).1, (Option.some.inj h).symm⟩

/-- A device that is there goes. -/
theorem step_unplug {addr : Address} (h : step md5sum s (.unplug addr) = some s') :
    ∃ n, s.devices.lookup addr = some n ∧
      s' = { s with
        devices := s.devices.filter fun entry => entry.1 ≠ addr
        events := s.events ++ [.left addr n.device] } := by
  obtain ⟨n, hn, heq⟩ := Option.map_eq_some_iff.mp h
  exact ⟨n, hn, heq.symm⟩

/-- The monitor is called back for the oldest event. -/
theorem step_callback {now : ℕ} {access : Access}
    (h : step md5sum s (.callback now access) = some s') :
    ∃ addr d rest,
      (s.events = .arrived addr d :: rest ∧
        s' = State.deviceArrived md5sum { s with events := rest } addr d now access) ∨
      (s.events = .left addr d :: rest ∧
        s' = State.deviceLeft { s with events := rest } addr d now) := by
  rw [step] at h
  split at h
  · cases h
  · next addr d rest hevents => exact ⟨addr, d, rest, .inl ⟨hevents, (Option.some.inj h).symm⟩⟩
  · next addr d rest hevents => exact ⟨addr, d, rest, .inr ⟨hevents, (Option.some.inj h).symm⟩⟩

/-- A thread searches for an identifier that was added to the blacklist. -/
theorem step_block {eid : String} {writes : Address → Fin 3 → Bool}
    (h : step md5sum s (.block eid writes) = some s') :
    s' = { s.disableDeviceViaSysfs md5sum eid writes with blocking := s.blocking.erase eid } :=
  (Option.some.inj (Option.ite_none_right_eq_some.mp h).2).symm

/-- The task takes a signal. -/
theorem step_recv (h : step md5sum s .recv = some s') :
    s' = { s with uploader := .reading, signals := s.signals - 1 } :=
  (Option.some.inj (Option.ite_none_right_eq_some.mp h).2).symm

/-- The task reads the list of the devices. -/
theorem step_read (h : step md5sum s .read = some s') :
    s' = { s with uploader := .posting (s.currentBody md5sum) } :=
  (Option.some.inj (Option.ite_none_right_eq_some.mp h).2).symm

/-- The task uploads the list that it has read. -/
theorem step_post {delivered : Bool} (h : step md5sum s (.post delivered) = some s') :
    ∃ text, s.uploader = .posting text ∧
      s' = { s with uploader := .waiting, server := if delivered then some text else s.server } := by
  rw [step] at h
  split at h
  · next text hposting => exact ⟨text, hposting, (Option.some.inj h).symm⟩
  · cases h

end Steps

/-- Called back for the events, the monitor sees the devices change from one map to the other. -/
def Replays : (Address → Option UsbDevice) → List HotplugEvent → (Address → Option UsbDevice) → Prop
  | seen, [], present => seen = present
  | seen, .arrived addr d :: rest, present =>
    seen addr = none ∧ Replays (Function.update seen addr (some d)) rest present
  | seen, .left addr d :: rest, present =>
    seen addr = some d ∧ Replays (Function.update seen addr none) rest present

/-- The devices with their addresses, whatever is written to their files. -/
def State.bare (s : State) : List (Address × UsbDevice) :=
  s.devices.map fun e => (e.1, e.2.device)

/-- The devices by their addresses. -/
def State.present (s : State) (addr : Address) : Option UsbDevice := s.bare.lookup addr

/-- The events of a while after those before it. -/
theorem Replays.append {seen present later : Address → Option UsbDevice}
    {events more : List HotplugEvent} (h : Replays seen events present)
    (hmore : Replays present more later) : Replays seen (events ++ more) later := by
  induction events generalizing seen with
  | nil =>
    obtain rfl : seen = present := h
    exact hmore
  | cons e events ih =>
    cases e with
    | arrived addr d => exact ⟨h.1, ih h.2⟩
    | left addr d => exact ⟨h.1, ih h.2⟩

/-- The first entry of a list is found at its address. -/
theorem lookup_cons_eq_ite {α : Type} (a k : Address) (d : α) (devices : List (Address × α)) :
    ((k, d) :: devices).lookup a = if a = k then some d else devices.lookup a := by
  rw [List.lookup_cons]
  by_cases h : a = k
  · rw [if_pos h, beq_iff_eq.mpr h]
  · rw [if_neg h, beq_eq_false_iff_ne.mpr h]

/-- What is found at an address. -/
theorem State.present_eq (s : State) (addr : Address) :
    s.present addr = (s.devices.lookup addr).map Node.device := by
  rw [State.present, State.bare]
  induction s.devices with
  | nil => rfl
  | cons e devices ih =>
    rw [List.map_cons, lookup_cons_eq_ite, lookup_cons_eq_ite, ih]
    split <;> rfl

/-- A device that comes. -/
theorem lookup_plug {devices : List (Address × UsbDevice)} {addr : Address}
    (h : devices.lookup addr = none) (i : ℕ) (d : UsbDevice) :
    (fun a => (devices.take i ++ (addr, d) :: devices.drop i).lookup a) =
      Function.update (fun a => devices.lookup a) addr (some d) := by
  have hparts (a : Address) : devices.lookup a =
      ((devices.take i).lookup a).or ((devices.drop i).lookup a) := by
    rw [← List.lookup_append, List.take_append_drop]
  funext a
  rw [List.lookup_append, lookup_cons_eq_ite]
  by_cases ha : a = addr
  · subst ha
    rw [hparts, Option.or_eq_none_iff] at h
    simp [h.1]
  · rw [if_neg ha, ← hparts, Function.update_of_ne ha]

/-- A device that goes. -/
theorem lookup_unplug (devices : List (Address × UsbDevice)) (addr : Address) :
    (fun a => (devices.filter fun entry => entry.1 ≠ addr).lookup a) =
      Function.update (fun a => devices.lookup a) addr none := by
  funext a
  induction devices with
  | nil => by_cases ha : a = addr <;> simp [ha]
  | cons entry devices ih =>
    obtain ⟨k, d⟩ := entry
    by_cases hk : k = addr
    · rw [List.filter_cons_of_neg (by simpa using hk), ih]
      by_cases ha : a = addr
      · simp [ha]
      · have hne : a ≠ k := fun h => ha (h.trans hk)
        rw [Function.update_of_ne ha, Function.update_of_ne ha, lookup_cons_eq_ite, if_neg hne]
    · rw [List.filter_cons_of_pos (by simpa using hk), lookup_cons_eq_ite, ih]
      by_cases ha : a = addr
      · have hne : a ≠ k := fun h => hk (h.symm.trans ha)
        rw [if_neg hne, ha, Function.update_self, Function.update_self]
      · rw [Function.update_of_ne ha, Function.update_of_ne ha, lookup_cons_eq_ite]

/-- The devices that are there from the start arrive one after the other. -/
theorem replays_map_arrived {devices : List (Address × UsbDevice)}
    (hnodup : (devices.map Prod.fst).Nodup) {seen : Address → Option UsbDevice}
    (hseen : ∀ entry ∈ devices, seen entry.1 = none) :
    Replays seen (devices.map fun entry => .arrived entry.1 entry.2) fun a =>
      (devices.lookup a).or (seen a) := by
  induction devices generalizing seen with
  | nil => rfl
  | cons entry devices ih =>
    obtain ⟨k, d⟩ := entry
    rw [List.map_cons, List.nodup_cons] at hnodup
    have hne {entry : Address × UsbDevice} (hentry : entry ∈ devices) : entry.1 ≠ k := by
      rintro rfl
      exact hnodup.1 (List.mem_map.mpr ⟨entry, hentry, rfl⟩)
    have hrest : Replays (Function.update seen k (some d))
        (devices.map fun entry => .arrived entry.1 entry.2) fun a =>
          (devices.lookup a).or (Function.update seen k (some d) a) := by
      refine ih hnodup.2 fun entry hentry => ?_
      rw [Function.update_of_ne (hne hentry)]
      exact hseen entry (List.mem_cons_of_mem _ hentry)
    have hpresent : (fun a => (((k, d) :: devices).lookup a).or (seen a)) = fun a =>
        (devices.lookup a).or (Function.update seen k (some d) a) := by
      funext a
      rw [lookup_cons_eq_ite]
      by_cases ha : a = k
      · have hnone : devices.lookup k = none := List.lookup_eq_none_iff.mpr fun entry hentry =>
          bne_iff_ne.mpr (hne hentry).symm
        rw [ha, if_pos rfl, hnone, Function.update_self]
        rfl
      · rw [if_neg ha, Function.update_of_ne ha]
    rw [hpresent]
    exact ⟨hseen _ List.mem_cons_self, hrest⟩

/-- When a device goes, the switch is on, or it had been off when the device came. -/
def SeenLeaving (s : State) : Action → Prop
  | .callback _ _ => ∀ addr d rest, s.events = .left addr d :: rest →
      s.config.usbSwitch = true ∨ s.deviceInfoCache addr = none
  | _ => True

/-- What the monitor remembers and has reported. -/
structure Truthful (s : State) : Prop where
  remembers : ∃ seen, Replays seen s.events s.present ∧
    ∀ addr info, s.deviceInfoCache addr = some info →
      ∃ d, seen addr = some d ∧ isUsbStorage d true = true ∧ info.1 = d.eid md5sum
  departures : ∀ d log, (d, some log) ∈ s.departures →
    isUsbStorage d true = true ∧ log.peripheralEid = some (d.eid md5sum)

section Truthful

variable {md5sum} {s s' : State}

/-- Steps that leave the devices and the memory of the monitor alone. -/
theorem Truthful.of_eq (h : Truthful md5sum s) (hbare : s'.bare = s.bare)
    (hevents : s'.events = s.events) (hcache : s'.deviceInfoCache = s.deviceInfoCache)
    (hdepartures : s'.departures = s.departures) : Truthful md5sum s' := by
  obtain ⟨seen, hreplays, hknown⟩ := h.remembers
  refine ⟨⟨seen, ?_, ?_⟩, hdepartures ▸ h.departures⟩
  · have hpresent : s'.present = s.present := by
      funext a
      rw [State.present, State.present, hbare]
    rw [hevents, hpresent]
    exact hreplays
  · rw [hcache]
    exact hknown

/-- Devices that come and go. -/
theorem Truthful.queue (h : Truthful md5sum s) {event : HotplugEvent}
    {devices : List (Address × Node)}
    (hevent : Replays s.present [event] fun a =>
      (devices.map fun e => (e.1, e.2.device)).lookup a) :
    Truthful md5sum { s with devices := devices, events := s.events ++ [event] } := by
  obtain ⟨seen, hreplays, hknown⟩ := h.remembers
  exact ⟨⟨seen, hreplays.append hevent, hknown⟩, h.departures⟩

/-- A report names the device it is about. -/
theorem peripheralEid_of_departureLog {usbProtect : Bool} {now : ℕ} {info : String × String}
    {status : DeviceListStatus} {log : AuditLogInfo}
    (h : departureLog usbProtect now info status = some log) :
    log.peripheralEid = some info.1 := by
  cases status with
  | inWhitelist => cases h
  | _ =>
    obtain rfl := Option.some.inj h
    cases usbProtect <;> rfl

/-- If the active configuration shows a storage device, it is one. -/
theorem isUsbStorage_of_config {d : UsbDevice} {config : Bool} (h : isUsbStorage d config = true) :
    isUsbStorage d true = true := by
  rw [isUsbStorage, Bool.or_eq_true] at h ⊢
  exact h.imp_right fun hinterfaces => ((Bool.and_eq_true _ _).mp hinterfaces).2

/-- The devices are the same after a write. -/
theorem bare_disableUsbDevice (sysfsDeviceName : String) (write : Bool) :
    (s.disableUsbDevice sysfsDeviceName write).bare = s.bare := by
  rw [State.disableUsbDevice]
  split
  · rw [State.bare, State.bare, List.map_map]
    refine List.map_congr_left fun e _ => ?_
    rw [Function.comp_apply]
    split <;> rfl
  · rfl

/-- Only the devices and the memory of the monitor change when a device comes. -/
theorem deviceArrived_cases (addr : Address) (d : UsbDevice) (now : ℕ) (access : Access) :
    (State.deviceArrived md5sum s addr d now access = s ∧
        (s.config.usbSwitch = false ∨ isUsbStorage d access.config = false)) ∨
      ∃ t : State, State.deviceArrived md5sum s addr d now access = t.signal ∧
        isUsbStorage d access.config = true ∧ t.bare = s.bare ∧ t.events = s.events ∧
        t.departures = s.departures ∧ t.deviceInfoCache = Function.update s.deviceInfoCache addr
          (some (deviceInfo md5sum d access.texts (s.nodes.map Node.device))) := by
  rw [State.deviceArrived]
  split
  · next hoff => exact .inl ⟨rfl, .inl hoff⟩
  split
  · next hstorage => exact .inl ⟨rfl, .inr hstorage⟩
  · next hstorage =>
    have hstorage := (Bool.not_eq_false _).mp hstorage
    refine .inr ⟨_, rfl, hstorage, ?_⟩
    split
    · refine ⟨bare_disableUsbDevice (s := { s with deviceInfoCache := _ }) _ _, ?_⟩
      rw [State.disableUsbDevice]
      split <;> exact ⟨rfl, rfl, rfl⟩
    · exact ⟨rfl, rfl, rfl, rfl⟩

/-- The monitor is called back for a device that came. -/
theorem Truthful.deviceArrived (h : Truthful md5sum s) {addr : Address} {d : UsbDevice}
    {rest : List HotplugEvent} (hevents : s.events = .arrived addr d :: rest) (now : ℕ)
    (access : Access) :
    Truthful md5sum (State.deviceArrived md5sum { s with events := rest } addr d now access) := by
  obtain ⟨seen, hreplays, hknown⟩ := h.remembers
  rw [hevents] at hreplays
  have hold : ∀ a info, s.deviceInfoCache a = some info →
      ∃ e, Function.update seen addr (some d) a = some e ∧ isUsbStorage e true = true ∧
        info.1 = e.eid md5sum := by
    intro a info hinfo
    obtain ⟨e, he, hstorage⟩ := hknown a info hinfo
    have hne : a ≠ addr := by
      rintro rfl
      rw [hreplays.1] at he
      cases he
    exact ⟨e, by rw [Function.update_of_ne hne, he], hstorage⟩
  obtain ⟨hsame, -⟩ | ⟨t, heq, hstorage, hbare, hrest, hdepartures, hcache⟩ :=
    @deviceArrived_cases md5sum { s with events := rest } addr d now access
  · rw [hsame]
    exact ⟨⟨_, hreplays.2, hold⟩, h.departures⟩
  · have ht : Truthful md5sum t := by
      refine ⟨⟨Function.update seen addr (some d), ?_, fun a info hinfo => ?_⟩, ?_⟩
      · have hpresent : t.present = s.present := by
          funext a
          rw [State.present, hbare]
          rfl
        rw [hrest, hpresent]
        exact hreplays.2
      · rw [hcache] at hinfo
        by_cases ha : a = addr
        · subst ha
          rw [Function.update_self, Option.some.injEq] at hinfo
          refine ⟨d, Function.update_self _ _ _, isUsbStorage_of_config hstorage, ?_⟩
          rw [← hinfo]
          rfl
        · rw [Function.update_of_ne ha] at hinfo
          exact hold a info hinfo
      · rw [hdepartures]
        exact h.departures
    rw [heq]
    exact ht.of_eq rfl rfl rfl rfl

/-- The monitor is called back for a device that went. -/
theorem Truthful.deviceLeft (h : Truthful md5sum s) {addr : Address} {d : UsbDevice}
    {rest : List HotplugEvent} (hevents : s.events = .left addr d :: rest) (now : ℕ)
    (hok : s.config.usbSwitch = true ∨ s.deviceInfoCache addr = none) :
    Truthful md5sum (State.deviceLeft { s with events := rest } addr d now) := by
  obtain ⟨seen, hreplays, hknown⟩ := h.remembers
  rw [hevents] at hreplays
  have hothers {a : Address} (ha : a ≠ addr) {info : String × String}
      (hinfo : s.deviceInfoCache a = some info) :
      ∃ e, Function.update seen addr none a = some e ∧ isUsbStorage e true = true ∧
        info.1 = e.eid md5sum := by
    obtain ⟨e, he, hstorage⟩ := hknown a info hinfo
    exact ⟨e, by rw [Function.update_of_ne ha, he], hstorage⟩
  rw [State.deviceLeft]
  split
  · next hoff =>
    have hnone : s.deviceInfoCache addr = none := hok.resolve_left fun hon => by
      simp [hon] at hoff
    refine ⟨⟨_, hreplays.2, fun a info hinfo => hothers ?_ hinfo⟩, fun e log hmem => ?_⟩
    · rintro rfl
      rw [hnone] at hinfo
      cases hinfo
    · refine h.departures e log ((List.mem_append.mp hmem).resolve_right fun hlast => ?_)
      simp at hlast
  · refine ⟨⟨_, hreplays.2, fun a info hinfo => ?_⟩, fun e log hmem => ?_⟩
    · by_cases ha : a = addr
      · subst ha
        simp [State.signal] at hinfo
      · refine hothers ha ?_
        simpa [State.signal, Function.update_of_ne ha] using hinfo
    · obtain hold | hlast := List.mem_append.mp hmem
      · exact h.departures e log hold
      · rw [List.mem_singleton, Prod.mk.injEq] at hlast
        obtain ⟨rfl, hlog⟩ := hlast
        obtain ⟨info, hinfo, hdeparture⟩ := Option.bind_eq_some_iff.mp hlog.symm
        obtain ⟨d, hd, hstorage, heid⟩ := hknown addr info hinfo
        obtain rfl : e = d := Option.some.inj (hreplays.1.symm.trans hd)
        refine ⟨hstorage, ?_⟩
        rw [peripheralEid_of_departureLog hdeparture, heid]

/-- After the search for an identifier a device is as it was, or it has the identifier and is
disabled. -/
theorem forall₂_devices_disableDeviceViaSysfs (eid : String) (writes : Address → Fin 3 → Bool) :
    List.Forall₂ (fun e e' => e' = e ∨ (e.2.device.eid md5sum = eid ∧ e' = (e.1, e.2.disable)))
      s.devices (s.disableDeviceViaSysfs md5sum eid writes).devices := by
  have hentries := @forall₂_disableDeviceViaSysfs md5sum eid
    (s.devices.map fun e => e.2.entry (writes e.1))
  rw [State.disableDeviceViaSysfs]
  dsimp only
  generalize (Udisk.disableDeviceViaSysfs md5sum eid
    (s.devices.map fun e => e.2.entry (writes e.1))).1 = entries at hentries
  generalize s.devices = devices at hentries ⊢
  induction devices generalizing entries with
  | nil => exact .nil
  | cons e devices ih =>
    rw [List.map_cons] at hentries
    cases hentries with
    | cons hentry hrest =>
      refine .cons ?_ (ih _ hrest)
      obtain rfl | ⟨hmatches, rfl⟩ := hentry
      · exact .inl rfl
      · exact .inr ⟨hmatches.2, rfl⟩

/-- The devices are the same after a search. -/
theorem bare_disableDeviceViaSysfs (eid : String) (writes : Address → Fin 3 → Bool) :
    (s.disableDeviceViaSysfs md5sum eid writes).bare = s.bare := by
  have hdevices := @forall₂_devices_disableDeviceViaSysfs md5sum s eid writes
  rw [State.bare, State.bare]
  generalize (s.disableDeviceViaSysfs md5sum eid writes).devices = after at hdevices ⊢
  generalize s.devices = devices at hdevices ⊢
  induction hdevices with
  | nil => rfl
  | cons hentry _ ih =>
    rw [List.map_cons, List.map_cons, ih]
    obtain rfl | ⟨-, rfl⟩ := hentry <;> rfl

/-- Every step in which departures are seen keeps this. -/
theorem Truthful.step {a : Action} (h : Truthful md5sum s) (hok : SeenLeaving s a)
    (hstep : step md5sum s a = some s') : Truthful md5sum s' := by
  cases a with
  | configure config => exact Option.some.inj hstep ▸ h.of_eq rfl rfl rfl rfl
  | update update => exact Option.some.inj hstep ▸ h.of_eq rfl rfl rfl rfl
  | plug i addr n =>
    obtain ⟨hnone, rfl⟩ := step_plug hstep
    have hfree : s.bare.lookup addr = none := by
      have heq := s.present_eq addr
      rwa [hnone] at heq
    refine h.queue ⟨hfree, ?_⟩
    rw [List.map_append, List.map_cons, List.map_take, List.map_drop]
    exact (lookup_plug hfree i n.device).symm
  | unplug addr =>
    obtain ⟨n, hn, rfl⟩ := step_unplug hstep
    refine h.queue ⟨by rw [s.present_eq, hn]; rfl, ?_⟩
    have hfilter : (s.devices.filter fun entry => entry.1 ≠ addr).map
        (fun e => (e.1, e.2.device)) = s.bare.filter fun entry => entry.1 ≠ addr := by
      rw [State.bare, List.filter_map]
      rfl
    rw [hfilter]
    exact (lookup_unplug s.bare addr).symm
  | callback now access =>
    obtain ⟨addr, d, rest, ⟨hevents, rfl⟩ | ⟨hevents, rfl⟩⟩ := step_callback hstep
    · exact h.deviceArrived hevents now access
    · exact h.deviceLeft hevents now (hok addr d rest hevents)
  | block eid writes =>
    obtain rfl := step_block hstep
    exact h.of_eq (bare_disableDeviceViaSysfs eid writes) rfl rfl rfl
  | recv =>
    obtain rfl := step_recv hstep
    exact h.of_eq rfl rfl rfl rfl
  | read =>
    obtain rfl := step_read hstep
    exact h.of_eq rfl rfl rfl rfl
  | post delivered =>
    obtain ⟨text, -, rfl⟩ := step_post hstep
    exact h.of_eq rfl rfl rfl rfl

/-- What the monitor remembers is true all along a run. -/
theorem truthful_of_reaches (h : (system md5sum).Reaches SeenLeaving s) : Truthful md5sum s := by
  refine h.invariant (I := Truthful md5sum) (fun s hs => ?_)
    fun s a s' hs hok hstep => hs.step hok hstep
  refine ⟨⟨fun _ => none, ?_, fun addr info hinfo => ?_⟩, fun d log hlog => ?_⟩
  · have hreplays : Replays (fun _ => none)
        (s.devices.map fun entry => .arrived entry.1 entry.2.device) fun a =>
          (s.bare.lookup a).or none := by
      have hbare := @replays_map_arrived s.bare
        (by rw [State.bare, List.map_map]; exact hs.nodup) (fun _ => none) fun _ _ => rfl
      rwa [State.bare, List.map_map] at hbare
    simp only [Option.or_none] at hreplays
    rw [hs.events]
    exact hreplays
  · rw [hs.deviceInfoCache] at hinfo
    cases hinfo
  · rw [hs.departures] at hlog
    cases hlog

end Truthful

/-- In every run in which the switch is on when devices go, or had been off when they came, whatever
becomes of the lists and of the switch otherwise: every departure that is reported is the one of a
storage device, with the identifier of that device. -/
theorem departures_truthful {s : State} (h : (system md5sum).Reaches SeenLeaving s) :
    ∀ d log, (d, some log) ∈ s.departures →
      isUsbStorage d true = true ∧ log.peripheralEid = some (d.eid md5sum) :=
  (truthful_of_reaches h).departures

/-- The monitor without devices, with the switch on. -/
def start : State :=
  ⟨⟨true, true⟩, {}, [], [], fun _ => none, [], [], [], 0, false, .waiting, none⟩

/-- A storage device by its interface. -/
def stick : UsbDevice :=
  ⟨"1-2", 0x0781, 0x5567, 0, [8], [8], "SanDisk", "4C53", List.Subset.refl _⟩

/-- The monitor is just registered. -/
theorem starts_start : (system id).init start :=
  ⟨List.nodup_nil, List.nodup_nil, rfl, rfl, rfl, rfl, rfl, rfl⟩

/-- A callback that can do everything. -/
def fullAccess : Access := ⟨true, true, true⟩

/-- A device comes and goes. -/
def goes : List Action :=
  [.plug 0 (1, 4) ⟨stick, "1"⟩, .callback 0 fullAccess, .unplug (1, 4), .callback 0 fullAccess]

/-- The state after that. -/
def afterGoing : State := ((system id).exec start goes).getD start

/-- Its departure is reported. -/
theorem departures_truthful_after_going : afterGoing.departures.map Prod.fst = [stick] ∧
    ∀ d log, (d, some log) ∈ afterGoing.departures →
      isUsbStorage d true = true ∧ log.peripheralEid = some (d.eid id) := by
  have hmeets : (system id).Meets SeenLeaving start goes := by
    refine ⟨trivial, fun s hs => ?_⟩
    obtain rfl := Option.some.inj hs
    refine ⟨fun _ _ _ _ => .inl rfl, fun s hs => ⟨trivial, fun t ht => ?_⟩⟩
    obtain rfl := Option.some.inj hs
    obtain rfl := Option.some.inj ht
    exact ⟨fun _ _ _ _ => .inl rfl, fun _ _ => trivial⟩
  have hreaches : (system id).Reaches SeenLeaving afterGoing :=
    .exec (.init starts_start) hmeets
      (show (system id).exec start goes = some afterGoing from rfl)
  exact ⟨rfl, departures_truthful id hreaches⟩

/-- An event that the monitor signals while the switch is on. -/
def HotplugEvent.relevant : HotplugEvent → Bool
  | .arrived _ d => isUsbStorage d true
  | .left _ _ => true

/-- The server may not have the list yet. -/
def State.Pending (s : State) : Prop := 0 < s.signals ∨ ∃ e ∈ s.events, e.relevant = true

/-- The monitor is called back while the switch is on, and it sees a storage device as one unless
the device has gone by then; no thread takes a device off the list; and the uploads arrive. -/
def Announced (s : State) : Action → Prop
  | .callback _ access => s.config.usbSwitch = true ∧
      ∀ addr d rest, s.events = .arrived addr d :: rest → isUsbStorage d true = true →
        isUsbStorage d access.config = true ∨ .left addr d ∈ rest
  | .block eid _ => ∀ n ∈ s.nodes, n.device.eid md5sum = eid → n.listed = true →
      n.device.classCode = 8
  | .post delivered => delivered = true
  | _ => True

/-- Where nothing is pending, the list that was read last is the one of the devices that are
there. -/
def Fresh (s : State) : Prop :=
  s.signalled = true → ¬s.Pending →
    (s.uploader = .waiting → s.server = some (s.currentBody md5sum)) ∧
      ∀ text, s.uploader = .posting text → text = s.currentBody md5sum

section Fresh

variable {md5sum} {s s' : State}

/-- The monitor has just signalled. -/
theorem fresh_of_pending (h : s.Pending) : Fresh md5sum s := fun _ hnot => absurd h hnot

/-- A signal is pending. -/
theorem pending_signal (s : State) : s.signal.Pending := by
  left
  simp [State.signal]

/-- Steps that leave the list and the task alone, and after which as much is pending. -/
theorem Fresh.of_eq (h : Fresh md5sum s) (hsignalled : s'.signalled = s.signalled)
    (hbody : s'.currentBody md5sum = s.currentBody md5sum) (hpending : s.Pending → s'.Pending)
    (huploader : s'.uploader = s.uploader) (hserver : s'.server = s.server) : Fresh md5sum s' := by
  unfold Fresh
  rw [hsignalled, hbody, huploader, hserver]
  exact fun hs hnot => h hs fun hold => hnot (hpending hold)

/-- A device on the list is a storage device. -/
theorem isUsbStorage_of_listed {n : Node} (h : n.listed = true) :
    isUsbStorage n.device true = true := by
  rw [Node.listed, Bool.or_eq_true] at h
  rw [isUsbStorage, Bool.or_eq_true, Bool.true_and]
  refine h.imp_right fun hinterface => ?_
  obtain ⟨c, hc, hclass⟩ := List.any_eq_true.mp ((Bool.and_eq_true _ _).mp hinterface).2
  exact List.any_eq_true.mpr ⟨c, n.device.interfaces_subset hc, hclass⟩

/-- A device that is no storage device is not on the list. -/
theorem getAllLocalUsbDevices_plug {n : Node} (hn : isUsbStorage n.device true = false)
    (devices : List (Address × Node)) (i : ℕ) (addr : Address) :
    getAllLocalUsbDevices md5sum
        ((devices.take i ++ (addr, n) :: devices.drop i).map Prod.snd) =
      getAllLocalUsbDevices md5sum (devices.map Prod.snd) := by
  have hparts : devices.map Prod.snd =
      (devices.take i).map Prod.snd ++ (devices.drop i).map Prod.snd := by
    rw [← List.map_append, List.take_append_drop]
  have hnot : ¬n.listed = true := fun hlisted =>
    Bool.false_ne_true (hn.symm.trans (isUsbStorage_of_listed hlisted))
  rw [hparts, getAllLocalUsbDevices, getAllLocalUsbDevices, List.map_append, List.map_cons,
    List.filter_append, List.filter_append, List.filter_cons_of_neg hnot]

/-- A device that is disabled is on the list as before if it is there for its own class, or if it
was not there. -/
theorem listed_disable {n : Node} (h : n.listed = true → n.device.classCode = 8) :
    n.disable.listed = n.listed := by
  have hdisable : n.disable.listed = decide (n.device.classCode = 8) := Bool.or_false _
  rw [hdisable, Node.listed]
  by_cases hclass : n.device.classCode = 8
  · rw [decide_eq_true hclass, Bool.true_or]
  · rw [decide_eq_false hclass, Bool.false_or, eq_comm, ← Bool.not_eq_true]
    refine fun hinterface => hclass (h ?_)
    rw [Node.listed, hinterface, Bool.or_true]

/-- A search that takes no device off the list leaves the body as it is. -/
theorem currentBody_disableDeviceViaSysfs {eid : String}
    (hclass : ∀ n ∈ s.nodes, n.device.eid md5sum = eid → n.listed = true →
      n.device.classCode = 8) (writes : Address → Fin 3 → Bool) :
    (s.disableDeviceViaSysfs md5sum eid writes).currentBody md5sum = s.currentBody md5sum := by
  have hdevices := @forall₂_devices_disableDeviceViaSysfs md5sum s eid writes
  rw [State.currentBody, State.currentBody, State.nodes, State.nodes] at *
  generalize (s.disableDeviceViaSysfs md5sum eid writes).devices = after at hdevices ⊢
  generalize s.devices = devices at hdevices hclass ⊢
  have hitems : (getAllLocalUsbDevices md5sum (after.map Prod.snd)).map jsonItem =
      (getAllLocalUsbDevices md5sum (devices.map Prod.snd)).map jsonItem := by
    induction hdevices with
    | nil => rfl
    | @cons e e' devices after hentry _ ih =>
      rw [List.map_cons, List.forall_mem_cons] at hclass
      have hrest := ih hclass.2
      have hlisted : e'.2.listed = e.2.listed := by
        obtain rfl | ⟨heid, rfl⟩ := hentry
        · rfl
        · exact listed_disable (hclass.1 heid)
      rw [getAllLocalUsbDevices, getAllLocalUsbDevices] at hrest ⊢
      rw [List.map_cons, List.map_cons, List.filter_cons, List.filter_cons, hlisted]
      split
      · rw [List.map_cons, List.map_cons, List.map_cons, List.map_cons, hrest]
        obtain rfl | ⟨-, rfl⟩ := hentry <;> rfl
      · exact hrest
  rw [buildUsbJson, buildUsbJson]
  have hjson (devices : List UsbInfo) : devices.map (fun u => itemCoding.json (jsonItem u)) =
      (devices.map jsonItem).map itemCoding.json := (List.map_map).symm
  rw [hjson, hjson, hitems]

/-- The monitor is called back for a device that came. -/
theorem Fresh.deviceArrived (h : Fresh md5sum s) {addr : Address} {d : UsbDevice}
    {rest : List HotplugEvent} (hevents : s.events = .arrived addr d :: rest) (now : ℕ)
    {access : Access} (hon : s.config.usbSwitch = true)
    (hsees : isUsbStorage d true = true →
      isUsbStorage d access.config = true ∨ .left addr d ∈ rest) :
    Fresh md5sum (State.deviceArrived md5sum { s with events := rest } addr d now access) := by
  obtain ⟨hsame, hunseen⟩ | ⟨t, heq, -⟩ :=
    @deviceArrived_cases md5sum { s with events := rest } addr d now access
  · rw [hsame]
    have hunseen : isUsbStorage d access.config = false := hunseen.resolve_left fun hoff =>
      Bool.false_ne_true (hoff.symm.trans hon)
    by_cases hstorage : isUsbStorage d true = true
    · obtain hseen | hleft := hsees hstorage
      · exact absurd (hunseen.symm.trans hseen) Bool.false_ne_true
      · exact fresh_of_pending (.inr ⟨_, hleft, rfl⟩)
    · refine h.of_eq rfl rfl (fun hpending => ?_) rfl rfl
      obtain hsignals | ⟨e, he, hrelevant⟩ := hpending
      · exact .inl hsignals
      · rw [hevents] at he
        obtain rfl | he := List.mem_cons.mp he
        · exact absurd hrelevant hstorage
        · exact .inr ⟨e, he, hrelevant⟩
  · rw [heq]
    exact fresh_of_pending (pending_signal _)

/-- Every step that is announced keeps the list fresh. -/
theorem Fresh.step {a : Action} (h : Fresh md5sum s) (hok : Announced md5sum s a)
    (hstep : step md5sum s a = some s') : Fresh md5sum s' := by
  cases a with
  | configure config => exact Option.some.inj hstep ▸ h.of_eq rfl rfl id rfl rfl
  | update update => exact Option.some.inj hstep ▸ h.of_eq rfl rfl id rfl rfl
  | plug i addr n =>
    obtain ⟨-, rfl⟩ := step_plug hstep
    cases hn : isUsbStorage n.device true with
    | true =>
      exact fresh_of_pending (.inr ⟨_, List.mem_append_right _ (List.mem_singleton_self _), hn⟩)
    | false =>
      refine h.of_eq rfl ?_ (fun hpending => hpending.imp_right ?_) rfl rfl
      · rw [State.currentBody, State.currentBody, State.nodes, State.nodes,
          getAllLocalUsbDevices_plug hn]
      · exact fun ⟨e, he, hrelevant⟩ => ⟨e, List.mem_append_left _ he, hrelevant⟩
  | unplug addr =>
    obtain ⟨n, -, rfl⟩ := step_unplug hstep
    exact fresh_of_pending (.inr ⟨_, List.mem_append_right _ (List.mem_singleton_self _), rfl⟩)
  | callback now access =>
    obtain ⟨hon, hsees⟩ := hok
    obtain ⟨addr, d, rest, ⟨hevents, rfl⟩ | ⟨hevents, rfl⟩⟩ := step_callback hstep
    · exact h.deviceArrived hevents now hon (hsees addr d rest hevents)
    · rw [State.deviceLeft, if_neg (by simp [hon])]
      exact fresh_of_pending (pending_signal _)
  | block eid writes =>
    obtain rfl := step_block hstep
    exact h.of_eq rfl (currentBody_disableDeviceViaSysfs hok writes) id rfl rfl
  | recv =>
    obtain rfl := step_recv hstep
    exact fun _ _ => ⟨nofun, fun _ hposting => nomatch hposting⟩
  | read =>
    obtain rfl := step_read hstep
    exact fun _ _ => ⟨nofun, fun _ hposting => (Uploader.posting.inj hposting).symm⟩
  | post delivered =>
    obtain ⟨text, hposting, rfl⟩ := step_post hstep
    obtain rfl : delivered = true := hok
    refine fun hsignalled hnot => ⟨fun _ => ?_, fun _ hother => nomatch hother⟩
    exact congrArg some ((h hsignalled hnot).2 text hposting)

/-- The list is fresh all along a run. -/
theorem fresh_of_reaches (h : (system md5sum).Reaches (Announced md5sum) s) : Fresh md5sum s := by
  refine h.invariant (I := Fresh md5sum) (fun s hs hsignalled => ?_)
    fun s a s' hs hok hstep => hs.step hok hstep
  rw [hs.signalled] at hsignalled
  cases hsignalled

end Fresh

/-- A storage device by its own class. -/
def disk : UsbDevice :=
  ⟨"1-3", 0x152d, 0x0578, 8, [8], [8], "JMicron", "DB12", List.Subset.refl _⟩

/-- Two devices come that are on no list, are blocked, and the list is uploaded. -/
def comes : List Action :=
  [.plug 0 (1, 4) ⟨stick, "1"⟩, .plug 1 (1, 5) ⟨disk, "1"⟩, .callback 0 fullAccess,
    .callback 0 fullAccess, .recv, .read, .post true, .recv, .read, .post true]

/-- The state after that. -/
def afterComing : State := ((system id).exec start comes).getD start

end Monitor

end LinuxAgent.Udisk.Hotplug
