import LinuxAgent.Snapman.Backup

/-!
# Restoring and removing a backup

A snapshot has the name of its volume and the id of the backup in its own name, and that
is all by which it is found again: by the end of the name when it is merged back, by any
part of it when it is removed. Both find just the snapshots of a backup if no other volume
with `_snap` in its name has the id in it.
-/

namespace LinuxAgent.Snapman

/-- The volumes on which a command was run, and the result. -/
structure Handled where
  ran : List LvInfo
  result : Except SnapError Unit

/-- The loops of `restore_snapshot` and `clean_snapshot`: run a command on each volume and
remember whether it has succeeded once. -/
def runOn (run : LvInfo → Ran Bool) : List LvInfo → Bool → List LvInfo × Except SnapError Bool
  | [], found => ([], .ok found)
  | lv :: lvs, found =>
    match run lv with
    | .error e => ([], .error (.command e))
    | .ok success =>
      let rest := runOn run lvs (found || success)
      (lv :: rest.1, rest.2)

/-- Run a command on the volumes that are selected. -/
def runMatching (selects : LvInfo → Bool) (name : String) (listing : Listing)
    (run : LvInfo → Ran Bool) (s : Lvm) : Handled :=
  match listLvs listing s with
  | .error e => { ran := [], result := .error e }
  | .ok lvs =>
    let loop := runOn run (lvs.filter selects) false
    { ran := loop.1
      result :=
        match loop.2 with
        | .error e => .error e
        | .ok found => if found then .ok () else .error (.snapshotNotFound name) }

/-- `restore_snapshot`, with `lvconvert --merge`. -/
def restoreSnapshot (suffix : String) (listing : Listing) (lvconvert : LvInfo → Ran Bool)
    (s : Lvm) : Handled :=
  runMatching
    (fun lv => suffix.toList.isSuffixOf lv.name.toList && Text.contains "_snap" lv.name)
    suffix listing lvconvert s

/-- `clean_snapshot`, with `lvremove`. -/
def cleanSnapshot (name : String) (listing : Listing) (lvremove : LvInfo → Ran Bool)
    (s : Lvm) : Handled :=
  runMatching (fun lv => Text.contains name lv.name && Text.contains "_snap" lv.name)
    name listing lvremove s

/-- A call of `create_snapshot`. -/
structure CreateCall where
  id : String
  size : String
  env : CreateEnv

/-- The volumes, and every snapshot with the id of the call that has made it. -/
structure Backups where
  lvm : Lvm
  created : List (String × LvInfo)

/-- One more call. -/
def Backups.call (sizes : Sizes) (b : Backups) (c : CreateCall) : Backups :=
  let r := createSnapshot sizes c.env c.id c.size b.lvm
  { lvm := r.lvm
    created := b.created ++ r.created.map fun lv => (c.id, lv) }

/-- A machine after some calls. -/
def backups (sizes : Sizes) (s : Lvm) (calls : List CreateCall) : Backups :=
  calls.foldl (Backups.call sizes) ⟨s, []⟩

/-- What the calls with this id have made. -/
def Backups.createdBy (b : Backups) (id : String) : List LvInfo :=
  (b.created.filter fun c => c.1 = id).map Prod.snd

/-- `lvs` lists the volumes in some order. -/
def listsIn (order : List LvInfo → List LvInfo) (perm : ∀ lvs, (order lvs).Perm lvs) : Listing :=
  { succeeds := .ok true, order := order, perm := perm }

/-- Whatever the order in which the volumes are listed and whichever commands succeed,
`lvconvert --merge` is run on the snapshots with this id and no others, the result is a
success just if one of them was merged, and `lvremove` is run on the same volumes. -/
structure OwnBackup (b : Backups) (id : String) : Prop where
  restore : ∀ order perm (succeeds : LvInfo → Bool), ∀ lv,
    lv ∈ (restoreSnapshot id (listsIn order perm) (fun lv => .ok (succeeds lv)) b.lvm).ran ↔
      lv ∈ b.createdBy id
  result : ∀ order perm (succeeds : LvInfo → Bool),
    (restoreSnapshot id (listsIn order perm) (fun lv => .ok (succeeds lv)) b.lvm).result.isOk =
      true ↔ ∃ lv ∈ b.createdBy id, succeeds lv = true
  clean : ∀ order perm (succeeds : LvInfo → Bool), ∀ lv,
    lv ∈ (cleanSnapshot id (listsIn order perm) (fun lv => .ok (succeeds lv)) b.lvm).ran ↔
      lv ∈ b.createdBy id

/-- Commands that can be run are run on all volumes. -/
theorem runOn_ok (succeeds : LvInfo → Bool) (lvs : List LvInfo) (found : Bool) :
    runOn (fun lv => .ok (succeeds lv)) lvs found = (lvs, .ok (found || lvs.any succeeds)) := by
  induction lvs generalizing found with
  | nil => simp [runOn]
  | cons lv lvs ih => simp [runOn, ih, Bool.or_assoc]

variable {selects : LvInfo → Bool} {name : String} {order : List LvInfo → List LvInfo}
  {perm : ∀ lvs, (order lvs).Perm lvs} {succeeds : LvInfo → Bool} {s : Lvm} {lv : LvInfo}

/-- The command is run on the volumes that are selected. -/
theorem mem_ran_runMatching :
    lv ∈ (runMatching selects name (listsIn order perm) (fun lv => .ok (succeeds lv)) s).ran ↔
      lv ∈ s.volumes ∧ selects lv = true := by
  simp [runMatching, listLvs, listsIn, runOn_ok, (perm s.volumes).mem_iff]

/-- It goes well just if it succeeds on one of them. -/
theorem isOk_runMatching :
    (runMatching selects name (listsIn order perm) (fun lv => .ok (succeeds lv)) s).result.isOk =
      true ↔ ∃ lv ∈ s.volumes, selects lv = true ∧ succeeds lv = true := by
  have hany : ((order s.volumes).filter selects).any succeeds = true ↔
      ∃ lv ∈ s.volumes, selects lv = true ∧ succeeds lv = true := by
    simp [(perm s.volumes).mem_iff]
  simp only [runMatching, listLvs, listsIn, runOn_ok, Bool.false_or]
  rw [← hany]
  cases ((order s.volumes).filter selects).any succeeds <;> simp [Except.isOk, Except.toBool]

/-- A call adds the snapshots that it makes, and their names say so. -/
theorem createSnapshot_volumes (sizes : Sizes) (env : CreateEnv) (name size : String) (s : Lvm) :
    (createSnapshot sizes env name size s).lvm.volumes =
        s.volumes ++ (createSnapshot sizes env name size s).created ∧
      ∀ lv ∈ (createSnapshot sizes env name size s).created,
        ∃ origin, lv.name = snapName origin name := by
  by_cases h : ∃ vg lvs, getVgName env = .ok vg ∧ listLvs env.listing s = .ok lvs
  · obtain ⟨vg, lvs, hvg, hlvs⟩ := h
    obtain ⟨hvolumes, hcreated, -⟩ := createSnapshot_of_ok sizes name size hvg hlvs
    rw [hcreated]
    refine ⟨hvolumes, fun lv hlv => ?_⟩
    obtain ⟨origin, -, rfl⟩ := List.mem_map.mp hlv
    exact ⟨origin, rfl⟩
  · have hnot (vg : String) (lvs : List LvInfo) (hvg : getVgName env = .ok vg) :
        listLvs env.listing s ≠ .ok lvs := fun hlvs => h ⟨vg, lvs, hvg, hlvs⟩
    obtain ⟨hlvm, hcreated, -⟩ := createSnapshot_of_error sizes name size hnot
    rw [hlvm, hcreated]
    simp

/-- The volumes are those there were and those that were made, named after their ids. -/
structure Backups.Sound (s : Lvm) (b : Backups) : Prop where
  volumes : b.lvm.volumes = s.volumes ++ b.created.map Prod.snd
  named : ∀ c ∈ b.created, ∃ origin, c.2.name = snapName origin c.1

/-- A further backup keeps the backups sound. -/
theorem Backups.Sound.call {b : Backups} (hb : b.Sound s) (sizes : Sizes) (c : CreateCall) :
    (b.call sizes c).Sound s := by
  obtain ⟨hvolumes, hnamed⟩ := createSnapshot_volumes sizes c.env c.id c.size b.lvm
  refine ⟨?_, fun made hmade => ?_⟩
  · simp only [Backups.call, hvolumes, hb.volumes, List.map_append, List.map_map,
      List.append_assoc]
    simp [Function.comp_def]
  · rcases List.mem_append.mp hmade with hmade | hmade
    · exact hb.named made hmade
    · obtain ⟨lv, hlv, rfl⟩ := List.mem_map.mp hmade
      exact hnamed lv hlv

/-- The backups are sound after all calls. -/
theorem sound_backups (sizes : Sizes) (s : Lvm) (calls : List CreateCall) :
    (backups sizes s calls).Sound s := by
  have hfold (b : Backups) (hb : b.Sound s) : (calls.foldl (Backups.call sizes) b).Sound s := by
    induction calls generalizing b with
    | nil => exact hb
    | cons c calls ih => exact ih (b.call sizes c) (hb.call sizes c)
  exact hfold ⟨s, []⟩ ⟨(List.append_nil _).symm, nofun⟩

variable {b : Backups} {id : String}

/-- The snapshots with an id. -/
theorem mem_createdBy : lv ∈ b.createdBy id ↔ (id, lv) ∈ b.created := by
  simp [Backups.createdBy]

/-- A snapshot is none of the volumes there were. -/
theorem Backups.Sound.not_mem (hb : b.Sound s) {c : String × LvInfo} (hc : c ∈ b.created) :
    c.2 ∉ s.volumes := by
  intro hmem
  have hunique := b.lvm.unique
  rw [hb.volumes, List.map_append, List.nodup_append] at hunique
  exact hunique.2.2 _ (List.mem_map_of_mem hmem) _
    (List.mem_map_of_mem (List.mem_map_of_mem hc)) rfl

/-- A snapshot has one id. -/
theorem Backups.Sound.id_eq (hb : b.Sound s) {other : String} (h : (id, lv) ∈ b.created)
    (hother : (other, lv) ∈ b.created) : other = id := by
  have hunique := b.lvm.unique
  rw [hb.volumes, List.map_append, List.nodup_append, List.map_map] at hunique
  have heq := List.inj_on_of_nodup_map hunique.2.1 hother h rfl
  exact (Prod.mk.inj heq).1

/-- The name of a snapshot ends with its id. -/
theorem snapName_suffix (origin : LvInfo) (id : String) :
    id.toList <:+ (snapName origin id).toList := by
  rw [snapName, String.toList_append]
  exact List.suffix_append _ _

/-- The name of a snapshot has its mark. -/
theorem contains_snap (origin : LvInfo) (id : String) :
    Text.contains "_snap" (snapName origin id) = true := by
  refine Text.contains_of_infix ?_
  have hmark : "_snap_".toList = "_snap".toList ++ ['_'] := by decide
  rw [snapName, String.toList_append, String.toList_append, hmark]
  exact ⟨origin.name.toList, '_' :: id.toList, by simp⟩

/-- No volume there was and no snapshot of another id has the mark and the id in its name. -/
def Distinguished (s : Lvm) (b : Backups) (id : String) : Prop :=
  (∀ lv ∈ s.volumes, Text.contains "_snap" lv.name = true → Text.contains id lv.name = false) ∧
    ∀ c ∈ b.created, c.1 ≠ id → Text.contains id c.2.name = false

/-- What distinguishes the snapshots of an id. -/
theorem Backups.Sound.of_mem_createdBy (hb : b.Sound s) (h : lv ∈ b.createdBy id) :
    lv ∈ b.lvm.volumes ∧ id.toList <:+ lv.name.toList ∧ Text.contains "_snap" lv.name = true := by
  rw [mem_createdBy] at h
  obtain ⟨origin, hname⟩ := hb.named (id, lv) h
  refine ⟨?_, ?_, ?_⟩
  · rw [hb.volumes]
    exact List.mem_append_right _ (List.mem_map.mpr ⟨(id, lv), h, rfl⟩)
  · rw [hname]
    exact snapName_suffix origin id
  · rw [hname]
    exact contains_snap origin id

/-- Volumes are distinguished just if the mark and the id tell the snapshots of the id. -/
theorem Backups.Sound.distinguished_iff (hb : b.Sound s) :
    Distinguished s b id ↔ ∀ lv ∈ b.lvm.volumes, Text.contains id lv.name = true →
      Text.contains "_snap" lv.name = true → lv ∈ b.createdBy id := by
  constructor
  · rintro ⟨hvolumes, hcreated⟩ lv hlv hid hsnap
    rw [hb.volumes] at hlv
    rcases List.mem_append.mp hlv with hlv | hlv
    · rw [hvolumes lv hlv hsnap] at hid
      cases hid
    · obtain ⟨c, hc, rfl⟩ := List.mem_map.mp hlv
      by_cases hown : c.1 = id
      · rw [mem_createdBy, ← hown]
        exact hc
      · rw [hcreated c hc hown] at hid
        cases hid
  · intro h
    refine ⟨fun lv hlv hsnap => ?_, fun c hc hother => ?_⟩
    · rw [← Bool.not_eq_true]
      intro hid
      have hmem : lv ∈ b.lvm.volumes := by
        rw [hb.volumes]
        exact List.mem_append_left _ hlv
      exact hb.not_mem (mem_createdBy.mp (h lv hmem hid hsnap)) hlv
    · rw [← Bool.not_eq_true]
      intro hid
      have hmem : c.2 ∈ b.lvm.volumes := by
        rw [hb.volumes]
        exact List.mem_append_right _ (List.mem_map_of_mem hc)
      obtain ⟨origin, hname⟩ := hb.named c hc
      have hsnap : Text.contains "_snap" c.2.name = true := hname ▸ contains_snap origin c.1
      exact hother (hb.id_eq (mem_createdBy.mp (h c.2 hmem hid hsnap)) hc)

/-- Restoring and removing a backup find just its snapshots if and only if other volumes are
distinguished from them. -/
theorem ownBackup_iff (sizes : Sizes) (s : Lvm) (calls : List CreateCall) (id : String) :
    OwnBackup (backups sizes s calls) id ↔ Distinguished s (backups sizes s calls) id := by
  have hb := sound_backups sizes s calls
  generalize backups sizes s calls = b at hb ⊢
  rw [hb.distinguished_iff]
  constructor
  · intro h lv hlv hid hsnap
    refine (h.clean (fun lvs => lvs) (fun lvs => .refl lvs) (fun _ => true) lv).mp ?_
    exact mem_ran_runMatching.mpr ⟨hlv, by rw [hid, hsnap]; rfl⟩
  · intro h
    have hrestore (lv : LvInfo) : (lv ∈ b.lvm.volumes ∧
        (id.toList.isSuffixOf lv.name.toList && Text.contains "_snap" lv.name) = true) ↔
          lv ∈ b.createdBy id := by
      rw [Bool.and_eq_true, List.isSuffixOf_iff_suffix]
      refine ⟨fun ⟨hlv, hsuffix, hsnap⟩ => ?_, hb.of_mem_createdBy⟩
      exact h lv hlv (Text.contains_of_infix hsuffix.isInfix) hsnap
    refine ⟨fun order perm succeeds lv => ?_, fun order perm succeeds => ?_,
      fun order perm succeeds lv => ?_⟩
    · exact mem_ran_runMatching.trans (hrestore lv)
    · refine isOk_runMatching.trans ⟨?_, ?_⟩
      · rintro ⟨lv, hlv, hselects, hsucceeds⟩
        exact ⟨lv, (hrestore lv).mp ⟨hlv, hselects⟩, hsucceeds⟩
      · rintro ⟨lv, hown, hsucceeds⟩
        obtain ⟨hlv, hselects⟩ := (hrestore lv).mpr hown
        exact ⟨lv, hlv, hselects, hsucceeds⟩
    · refine mem_ran_runMatching.trans ⟨fun ⟨hlv, hselects⟩ => ?_, fun hown => ?_⟩
      · obtain ⟨hid, hsnap⟩ := Bool.and_eq_true_iff.mp hselects
        exact h lv hlv hid hsnap
      · obtain ⟨hlv, hsuffix, hsnap⟩ := hb.of_mem_createdBy hown
        exact ⟨hlv, by rw [Text.contains_of_infix hsuffix.isInfix, hsnap]; rfl⟩

/-- Every command succeeds. -/
def allSucceeds : CreateEnv where
  vgs := .ok "  vg\n"
  listing := listsAll
  lvSize := fun _ => .ok "  10g\n"
  vgFree := fun _ => .ok "  vg 50g\n"
  lvcreate := fun _ => .ok true

/-- The volume `root`. -/
def oneVolume : Lvm where
  volumes := [volume "root"]
  unique := by decide

/-- The backups `1` and `21`. -/
def twoBackups : Backups :=
  backups wholeSizes oneVolume [⟨"1", "", allSucceeds⟩, ⟨"21", "", allSucceeds⟩]

/-- Restoring the backup `1` merges the snapshot of the backup `21` as well. -/
theorem restore_merges_other_backup : ¬ OwnBackup twoBackups "1" := by
  intro h
  have hran := (h.restore (fun lvs => lvs) (fun lvs => .refl lvs) (fun _ => true)
    ((volume "root").snapshot "root_snap_21")).mp (by decide)
  exact absurd hran (by decide)

end LinuxAgent.Snapman
