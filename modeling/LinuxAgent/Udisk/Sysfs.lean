import Mathlib.Data.Fintype.Basic
import Mathlib.Data.List.Forall2
import Mathlib.Tactic.Common

/-!
# Disabling blacklisted devices

`handle_blacklist_update` looks for each identifier in `/sys/bus/usb/devices` and writes
`0` to the file `authorized` of the first device that has it. The identifier is a hash of
the product and the vendor, so that two devices of one model share it, and the second one
stays as it is.
-/

namespace LinuxAgent.Udisk

/-- An entry of `/sys/bus/usb/devices`, with the trimmed contents of its files. -/
structure UsbEntry where
  vendor : String
  product : String
  serial : String
  /-- The file `authorized`, if there is one. -/
  authorized : Option String
  /-- Whether each of the three attempts to write to `authorized` succeeds. -/
  writes : Fin 3 → Bool
  deriving DecidableEq

namespace UsbEntry

/-- The entry is a device: an interface has no `idVendor` and no `idProduct`. -/
def IsDevice (e : UsbEntry) : Prop := e.vendor ≠ "" ∧ e.product ≠ ""

instance (e : UsbEntry) : Decidable e.IsDevice := inferInstanceAs (Decidable (_ ∧ _))

/-- The file `authorized` is there and one of the attempts to write to it succeeds. -/
def Ready (e : UsbEntry) : Prop := e.authorized.isSome = true ∧ ∃ k, e.writes k = true

instance (e : UsbEntry) : Decidable e.Ready := inferInstanceAs (Decidable (_ ∧ ∃ _, _))

/-- The entry with `0` in `authorized`. -/
def disable (e : UsbEntry) : UsbEntry := { e with authorized := some "0" }

end UsbEntry

/-- `generate_eid`, where the hash is a parameter. The serial number has no part in it. -/
def generateEid (md5sum : String → String) (vendor product serial : String) : String :=
  let _serialId := if serial = "" then s!"vid{vendor}_pid{product}" else serial
  md5sum s!"{product}_{vendor}"

section Handle

variable (md5sum : String → String)

/-- The identifier of an entry. -/
def UsbEntry.eid (e : UsbEntry) : String :=
  let serialId := if e.serial = "" then s!"vid{e.vendor}_pid{e.product}" else e.serial
  generateEid md5sum e.vendor e.product serialId

/-- `disable_device_via_sysfs`: the entries after it and whether a device was disabled. The
search ends at the first device with the identifier. A directory that cannot be read is one
without entries. -/
def disableDeviceViaSysfs (targetEid : String) : List UsbEntry → List UsbEntry × Bool
  | [] => ([], false)
  | entry :: entries =>
    let next := disableDeviceViaSysfs targetEid entries
    if entry.vendor = "" ∨ entry.product = "" then (entry :: next.1, next.2)
    else if entry.eid md5sum = targetEid then
      if entry.authorized.isSome = true ∧ ∃ k, entry.writes k = true then
        (entry.disable :: entries, true)
      else (entry :: entries, false)
    else (entry :: next.1, next.2)

/-- `handle_blacklist_update`: the entries after it and the identifiers that it returns. -/
def handleBlacklistUpdate : List String → List UsbEntry → List UsbEntry × List String
  | [], entries => (entries, [])
  | eid :: blacklistEids, entries =>
    let searched := disableDeviceViaSysfs md5sum eid entries
    let handled := handleBlacklistUpdate blacklistEids searched.1
    (handled.1, if searched.2 then eid :: handled.2 else handled.2)

/-- The entry is a device with the identifier. -/
def UsbEntry.Matches (e : UsbEntry) (eid : String) : Prop := e.IsDevice ∧ e.eid md5sum = eid

instance (e : UsbEntry) (eid : String) : Decidable (e.Matches md5sum eid) :=
  inferInstanceAs (Decidable (_ ∧ _))

/-- An entry as it should be after the update. -/
def UsbEntry.blocked (e : UsbEntry) (blacklistEids : List String) : UsbEntry :=
  if e.IsDevice ∧ e.eid md5sum ∈ blacklistEids then e.disable else e

/-- All devices with one of the identifiers are disabled, all other entries are as before, and
the identifiers that are returned are those that a device has. -/
def BlocksAll (blacklistEids : List String) (entries : List UsbEntry) : Prop :=
  (handleBlacklistUpdate md5sum blacklistEids entries).1 =
      entries.map (fun e => e.blocked md5sum blacklistEids) ∧
    (handleBlacklistUpdate md5sum blacklistEids entries).2 =
      blacklistEids.filter fun eid => ∃ e ∈ entries, e.Matches md5sum eid

/-- A device that shares one of the identifiers with an earlier device has `0` in `authorized`
already. -/
def LaterTwinsDisabled (blacklistEids : List String) (entries : List UsbEntry) : Prop :=
  entries.Pairwise fun e e' => e.IsDevice → e'.IsDevice → e.eid md5sum = e'.eid md5sum →
    e.eid md5sum ∈ blacklistEids → e'.authorized = some "0"

section Search

variable {md5sum} {e : UsbEntry} {entries : List UsbEntry} {eid : String}

/-- Disabling an entry leaves its identifier as it is. -/
theorem UsbEntry.eid_disable (e : UsbEntry) : e.disable.eid md5sum = e.eid md5sum := rfl

/-- Disabling twice is disabling once. -/
theorem UsbEntry.disable_disable (e : UsbEntry) : e.disable.disable = e.disable := rfl

/-- An entry that is disabled already. -/
theorem UsbEntry.disable_eq_self_iff (e : UsbEntry) :
    e.disable = e ↔ e.authorized = some "0" := by
  obtain ⟨vendor, product, serial, authorized, writes⟩ := e
  simp [UsbEntry.disable, eq_comm]

/-- The search goes past an entry that is no device or has another identifier. -/
theorem disableDeviceViaSysfs_cons_of_not (h : ¬e.Matches md5sum eid) :
    disableDeviceViaSysfs md5sum eid (e :: entries) =
      (e :: (disableDeviceViaSysfs md5sum eid entries).1,
        (disableDeviceViaSysfs md5sum eid entries).2) := by
  rw [disableDeviceViaSysfs]
  by_cases hdevice : e.vendor = "" ∨ e.product = ""
  · rw [if_pos hdevice]
  · rw [if_neg hdevice, if_neg]
    exact fun heid => h ⟨not_or.mp hdevice, heid⟩

/-- The search ends at a device with the identifier. -/
theorem disableDeviceViaSysfs_cons_of (h : e.Matches md5sum eid) (hready : e.Ready) :
    disableDeviceViaSysfs md5sum eid (e :: entries) = (e.disable :: entries, true) := by
  rw [disableDeviceViaSysfs, if_neg (not_or.mpr h.1), if_pos h.2,
    if_pos ⟨hready.1, hready.2⟩]

/-- After the search an entry is as it was, or it has the identifier and is disabled. -/
theorem forall₂_disableDeviceViaSysfs (eid : String) (entries : List UsbEntry) :
    List.Forall₂ (fun e e' => e' = e ∨ (e.Matches md5sum eid ∧ e' = e.disable)) entries
      (disableDeviceViaSysfs md5sum eid entries).1 := by
  have hrefl (es : List UsbEntry) :
      List.Forall₂ (fun e e' => e' = e ∨ (e.Matches md5sum eid ∧ e' = e.disable)) es es :=
    List.forall₂_same.mpr fun _ _ => .inl rfl
  induction entries with
  | nil => exact .nil
  | cons e entries ih =>
    by_cases h : e.Matches md5sum eid
    · rw [disableDeviceViaSysfs, if_neg (not_or.mpr h.1), if_pos h.2]
      split
      · exact .cons (.inr ⟨h, rfl⟩) (hrefl entries)
      · exact hrefl _
    · rw [disableDeviceViaSysfs_cons_of_not h]
      exact .cons (.inl rfl) ih

/-- The search does not change which identifiers the devices have. -/
theorem exists_matches_disableDeviceViaSysfs (target : String) :
    (∃ e ∈ (disableDeviceViaSysfs md5sum target entries).1, e.Matches md5sum eid) ↔
      ∃ e ∈ entries, e.Matches md5sum eid := by
  have hentries := @forall₂_disableDeviceViaSysfs md5sum target entries
  generalize (disableDeviceViaSysfs md5sum target entries).1 = after at hentries
  induction hentries with
  | nil => exact Iff.rfl
  | cons hentry _ ih =>
    simp only [List.mem_cons, exists_eq_or_imp, ih]
    obtain rfl | ⟨-, rfl⟩ := hentry
    · exact Iff.rfl
    · exact Iff.rfl

/-- Devices that are ready stay so. -/
theorem ready_disableDeviceViaSysfs (hready : ∀ e ∈ entries, e.IsDevice → e.Ready)
    (target : String) :
    ∀ e ∈ (disableDeviceViaSysfs md5sum target entries).1, e.IsDevice → e.Ready := by
  have hentries := @forall₂_disableDeviceViaSysfs md5sum target entries
  generalize (disableDeviceViaSysfs md5sum target entries).1 = after at hentries
  induction hentries with
  | nil => exact hready
  | cons hentry _ ih =>
    rw [List.forall_mem_cons] at hready ⊢
    refine ⟨?_, ih hready.2⟩
    obtain rfl | ⟨-, rfl⟩ := hentry
    · exact hready.1
    · exact fun hdevice => ⟨rfl, (hready.1 hdevice).2⟩

/-- The search tells whether there is a device with the identifier. -/
theorem disableDeviceViaSysfs_found (hready : ∀ e ∈ entries, e.IsDevice → e.Ready) :
    (disableDeviceViaSysfs md5sum eid entries).2 = true ↔ ∃ e ∈ entries, e.Matches md5sum eid := by
  induction entries with
  | nil => simp [disableDeviceViaSysfs]
  | cons e entries ih =>
    rw [List.forall_mem_cons] at hready
    simp only [List.mem_cons, exists_eq_or_imp]
    by_cases h : e.Matches md5sum eid
    · rw [disableDeviceViaSysfs_cons_of h (hready.1 h.1)]
      exact iff_of_true rfl (.inl h)
    · rw [disableDeviceViaSysfs_cons_of_not h, ih hready.2, or_iff_right h]

/-- The identifiers that are returned are those that a device has. -/
theorem handleBlacklistUpdate_returned (blacklistEids : List String)
    (hready : ∀ e ∈ entries, e.IsDevice → e.Ready) :
    (handleBlacklistUpdate md5sum blacklistEids entries).2 =
      blacklistEids.filter fun eid => ∃ e ∈ entries, e.Matches md5sum eid := by
  induction blacklistEids generalizing entries with
  | nil => rfl
  | cons target blacklistEids ih =>
    have hfound := @disableDeviceViaSysfs_found md5sum entries target hready
    rw [handleBlacklistUpdate, ih (ready_disableDeviceViaSysfs hready target), List.filter_cons]
    simp only [exists_matches_disableDeviceViaSysfs, ← hfound, Bool.decide_eq_true]

/-- An entry that is no device is left alone. -/
theorem handleBlacklistUpdate_cons_of_not (blacklistEids : List String) (h : ¬e.IsDevice) :
    (handleBlacklistUpdate md5sum blacklistEids (e :: entries)).1 =
      e :: (handleBlacklistUpdate md5sum blacklistEids entries).1 := by
  induction blacklistEids generalizing entries with
  | nil => rfl
  | cons target blacklistEids ih =>
    rw [handleBlacklistUpdate, disableDeviceViaSysfs_cons_of_not fun hm => h hm.1, ih]
    rfl

/-- A device is disabled if its identifier is given, and hides the later devices that have the
same identifier. -/
theorem handleBlacklistUpdate_cons_of (blacklistEids : List String) (h : e.IsDevice)
    (hready : e.Ready) :
    (handleBlacklistUpdate md5sum blacklistEids (e :: entries)).1 =
      e.blocked md5sum blacklistEids :: (handleBlacklistUpdate md5sum
        (blacklistEids.filter fun eid => eid ≠ e.eid md5sum) entries).1 := by
  induction blacklistEids generalizing e entries with
  | nil => simp [handleBlacklistUpdate, UsbEntry.blocked]
  | cons target blacklistEids ih =>
    rw [handleBlacklistUpdate]
    by_cases heid : e.eid md5sum = target
    · rw [disableDeviceViaSysfs_cons_of ⟨h, heid⟩ hready]
      have hrest := @ih e.disable entries h ⟨rfl, hready.2⟩
      simp only [hrest, List.filter_cons, heid, UsbEntry.eid_disable]
      simp [UsbEntry.blocked, h, heid, UsbEntry.disable_disable]
    · rw [disableDeviceViaSysfs_cons_of_not fun hm => heid hm.2]
      simp only [ih h hready, List.filter_cons, ne_eq, Ne.symm heid, not_false_eq_true,
        decide_true, if_true, handleBlacklistUpdate]
      simp [UsbEntry.blocked, heid]

/-- With some of the identifiers only, the entries come out right just if the devices with the
other identifiers and the later twins are disabled already. -/
theorem handleBlacklistUpdate_eq_map_iff {blacklistEids given : List String}
    (hgiven : given ⊆ blacklistEids) (hready : ∀ e ∈ entries, e.IsDevice → e.Ready) :
    (handleBlacklistUpdate md5sum given entries).1 =
        entries.map (fun e => e.blocked md5sum blacklistEids) ↔
      (∀ e ∈ entries, e.IsDevice → e.eid md5sum ∈ blacklistEids → e.eid md5sum ∉ given →
        e.authorized = some "0") ∧ LaterTwinsDisabled md5sum blacklistEids entries := by
  induction entries generalizing given with
  | nil =>
    have hnil : ∀ given, (handleBlacklistUpdate md5sum given []).1 = [] := by
      intro given
      induction given with
      | nil => rfl
      | cons target given ih => exact ih
    simp [hnil, LaterTwinsDisabled]
  | cons e entries ih =>
    rw [List.forall_mem_cons] at hready
    rw [List.map_cons, List.forall_mem_cons, LaterTwinsDisabled, List.pairwise_cons]
    by_cases hdevice : e.IsDevice
    · rw [handleBlacklistUpdate_cons_of given hdevice (hready.1 hdevice), List.cons.injEq,
        ih (fun eid h => hgiven (List.mem_of_mem_filter h)) hready.2]
      have hhead : e.blocked md5sum given = e.blocked md5sum blacklistEids ↔
          (e.eid md5sum ∈ blacklistEids → e.eid md5sum ∉ given → e.authorized = some "0") := by
        by_cases hmem : e.eid md5sum ∈ given
        · simp [UsbEntry.blocked, hdevice, hmem, hgiven hmem]
        · by_cases hlist : e.eid md5sum ∈ blacklistEids
          · simp [UsbEntry.blocked, hdevice, hmem, hlist, eq_comm, ← UsbEntry.disable_eq_self_iff]
          · simp [UsbEntry.blocked, hdevice, hmem, hlist]
      rw [hhead]
      simp only [List.mem_filter, decide_eq_true_eq, not_and, not_not]
      constructor
      · rintro ⟨hfirst, hothers, htwins⟩
        refine ⟨⟨fun _ => hfirst, fun e' he' hdev' hlist hmem => ?_⟩,
          fun e' he' _ hdev' heq hlist => ?_, htwins⟩
        · exact hothers e' he' hdev' hlist fun h => absurd h hmem
        · exact hothers e' he' hdev' (heq ▸ hlist) fun _ => heq.symm
      · rintro ⟨⟨hfirst, hothers⟩, hlater, htwins⟩
        refine ⟨hfirst hdevice, fun e' he' hdev' hlist himp => ?_, htwins⟩
        by_cases hmem : e'.eid md5sum ∈ given
        · exact hlater e' he' hdevice hdev' (himp hmem).symm (himp hmem ▸ hlist)
        · exact hothers e' he' hdev' hlist hmem
    · rw [handleBlacklistUpdate_cons_of_not given hdevice, List.cons.injEq,
        ih hgiven hready.2]
      simp [UsbEntry.blocked, hdevice, LaterTwinsDisabled]

end Search

/-- Where the files `authorized` are there and can be written to, the update disables all
devices with the identifiers just if the later ones of devices that share one are disabled
already. -/
theorem blocksAll_iff (blacklistEids : List String) {entries : List UsbEntry}
    (hready : ∀ e ∈ entries, e.IsDevice → e.Ready) :
    BlocksAll md5sum blacklistEids entries ↔ LaterTwinsDisabled md5sum blacklistEids entries := by
  rw [BlocksAll, handleBlacklistUpdate_eq_map_iff (List.Subset.refl _) hready,
    and_iff_left (handleBlacklistUpdate_returned blacklistEids hready)]
  exact and_iff_right fun e _ _ hmem hnot => absurd hmem hnot

end Handle

/-- A stick of a model with a serial number. -/
def stickEntry (serial : String) : UsbEntry := ⟨"0781", "5567", serial, some "1", fun _ => true⟩

/-- A keyboard. -/
def keyboardEntry : UsbEntry := ⟨"046d", "c31c", "", some "1", fun _ => true⟩

/-- Of two devices the one on the list is disabled, and the other one stays as it is. -/
theorem blocksAll_one_stick :
    BlocksAll id [(stickEntry "A1").eid id] [keyboardEntry, stickEntry "A1"] ∧
      (handleBlacklistUpdate id [(stickEntry "A1").eid id] [keyboardEntry, stickEntry "A1"]).1 =
        [keyboardEntry, (stickEntry "A1").disable] := by
  have htwins : LaterTwinsDisabled id [(stickEntry "A1").eid id]
      [keyboardEntry, stickEntry "A1"] := by
    refine List.pairwise_pair.mpr fun _ _ heid => ?_
    exact absurd heid (by decide)
  refine ⟨(blocksAll_iff id _ (by decide)).mpr htwins, ?_⟩
  rw [((blocksAll_iff id _ (by decide)).mpr htwins).1]
  decide

/-- Of two sticks of one model only the first is disabled, whatever the hash. -/
theorem second_stick_stays_authorized :
    ¬∃ md5sum : String → String, BlocksAll md5sum [(stickEntry "A1").eid md5sum]
      [stickEntry "A1", stickEntry "B2"] := by
  rintro ⟨md5sum, h, -⟩
  have hready : ∀ e ∈ [stickEntry "A1", stickEntry "B2"], e.IsDevice → e.Ready := by decide
  have htwins := ((handleBlacklistUpdate_eq_map_iff (List.Subset.refl _) hready).mp h).2
  have hsecond : (stickEntry "B2").authorized = some "0" :=
    List.rel_of_pairwise_cons htwins List.mem_cons_self (by decide) (by decide) rfl
      List.mem_cons_self
  exact absurd hsecond (by decide)

end LinuxAgent.Udisk
