import LinuxAgent.Snapman.Snapshots

/-!
# A backup is all or nothing

`create_snapshot` undoes nothing and takes one snapshot for success. It keeps its promise
in two cases: no snapshot is made although one is missing, or the commands go through for
every volume and each one without an earlier snapshot gets its own.
-/

namespace LinuxAgent.Snapman

variable {sizes : Sizes} {env : CreateEnv} {vg name size : String} {s : Lvm} {lvs : List LvInfo}

/-- The volume has a snapshot of this id. -/
def Lvm.hasSnapshot (s : Lvm) (name : String) (lv : LvInfo) : Bool := s.has lv.vg (snapName lv name)

/-- A call succeeds just if every volume that gets a snapshot has one then, and leaves
nothing behind if it fails. -/
structure AllOrNothing (s : Lvm) (name : String) (r : Created) : Prop where
  ok_iff : r.result.isOk = true ↔
    ∀ lv ∈ s.volumes, eligible lv = true → r.lvm.hasSnapshot name lv = true
  error : r.result.isOk = false → r.created = []

/-- Some volume has no snapshot of this id. -/
def Lvm.Lacks (s : Lvm) (name : String) : Prop :=
  ∃ lv ∈ s.volumes, eligible lv = true ∧ s.hasSnapshot name lv = false

/-- Some volume that the loop gets to gets its snapshot. -/
def MakesSome (sizes : Sizes) (env : CreateEnv) (vg name size : String) (s : Lvm)
    (lvs : List LvInfo) : Prop :=
  ∃ lv ∈ tried sizes env vg size lvs, makes sizes env vg name size s lv = true

/-- The commands go through for every volume, and make its snapshot unless it has one. -/
def MakesAll (sizes : Sizes) (env : CreateEnv) (vg name size : String) (s : Lvm)
    (lvs : List LvInfo) : Prop :=
  ∀ lv ∈ lvs, eligible lv = true → (attempt sizes env vg size lv).isOk = true ∧
    (makes sizes env vg name size s lv = true ∨ s.hasSnapshot name lv = true)

/-- No snapshot is made and one is missing, or one is made and then all of them are. -/
def BackupCondition (sizes : Sizes) (env : CreateEnv) (name size : String) (s : Lvm) : Prop :=
  match getVgName env, listLvs env.listing s with
  | .ok vg, .ok lvs =>
    ¬ MakesSome sizes env vg name size s lvs ∧ s.Lacks name ∨
      MakesSome sizes env vg name size s lvs ∧ MakesAll sizes env vg name size s lvs
  | _, _ => s.Lacks name

/-- What it means that a snapshot is lacking. -/
theorem lacks_iff : s.Lacks name ↔
    ¬ ∀ lv ∈ s.volumes, eligible lv = true → s.hasSnapshot name lv = true := by
  simp [Lvm.Lacks]

/-- A snapshot is made just if the list of those made is not empty. -/
theorem makesSome_iff :
    MakesSome sizes env vg name size s lvs ↔ made sizes env vg name size s lvs ≠ [] := by
  simp [MakesSome, made, List.filter_eq_nil_iff]

/-- A call that makes nothing fails. -/
theorem allOrNothing_iff_lacks {r : Created} (hvolumes : r.lvm.volumes = s.volumes)
    (hcreated : r.created = []) (hresult : r.result.isOk = false) :
    AllOrNothing s name r ↔ s.Lacks name := by
  have hsame (lv : LvInfo) : r.lvm.hasSnapshot name lv = s.hasSnapshot name lv := by
    rw [Lvm.hasSnapshot, Lvm.hasSnapshot, Lvm.has, Lvm.has, hvolumes]
  rw [lacks_iff]
  constructor
  · intro h hall
    have hok := h.ok_iff.mpr fun lv hlv he => (hsame lv).trans (hall lv hlv he)
    rw [hresult] at hok
    cases hok
  · intro h
    refine ⟨⟨fun hok => ?_, fun hall => ?_⟩, fun _ => hcreated⟩
    · rw [hresult] at hok
      cases hok
    · exact absurd (fun lv hlv he => (hsame lv).symm.trans (hall lv hlv he)) h

/-- A volume of the machine has a snapshot in the end if it had one or gets one. -/
theorem hasSnapshot_iff (hperm : lvs.Perm s.volumes) {t : Lvm}
    (ht : t.volumes = s.volumes ++ made sizes env vg name size s lvs)
    (hall : ∀ lv ∈ lvs, eligible lv = true → (attempt sizes env vg size lv).isOk = true)
    {lv : LvInfo} (hlv : lv ∈ lvs) (he : eligible lv = true) :
    t.hasSnapshot name lv = true ↔
      makes sizes env vg name size s lv = true ∨ s.hasSnapshot name lv = true := by
  have htried : tried sizes env vg size lvs = lvs.filter eligible := by
    rw [tried, List.takeWhile_eq_self_iff]
    intro lv hlv
    obtain ⟨hmem, he⟩ := List.mem_filter.mp hlv
    exact hall lv hmem he
  rw [Lvm.hasSnapshot, Lvm.hasSnapshot, Lvm.has, Lvm.has, decide_eq_true_eq, decide_eq_true_eq, ht,
    List.map_append, List.mem_append, or_comm]
  refine or_congr_left ?_
  simp only [made, htried, List.map_map, List.mem_map, List.mem_filter, Function.comp_apply]
  constructor
  · rintro ⟨other, ⟨⟨hother, -⟩, hmakes⟩, hpath⟩
    obtain ⟨hvg, hname⟩ := Prod.mk.inj hpath
    have hinj := List.inj_on_of_nodup_map s.unique
    rwa [hinj (hperm.subset hother) (hperm.subset hlv) (path_eq_of_snapName_eq hvg hname)] at hmakes
  · exact fun hmakes => ⟨lv, ⟨⟨hlv, he⟩, hmakes⟩, rfl⟩

/-- A call that makes something succeeds just if its commands go through for every volume. -/
theorem allOrNothing_iff_makesAll {r : Created} (hperm : lvs.Perm s.volumes)
    (hvolumes : r.lvm.volumes = s.volumes ++ made sizes env vg name size s lvs)
    (hcreated : r.created ≠ [])
    (hresult : r.result.isOk = true ↔
      ∀ lv ∈ lvs, eligible lv = true → (attempt sizes env vg size lv).isOk = true) :
    AllOrNothing s name r ↔ MakesAll sizes env vg name size s lvs := by
  constructor
  · intro h
    have hok : r.result.isOk = true := by
      by_contra hnot
      exact hcreated (h.error (by simpa using hnot))
    have hall := hresult.mp hok
    intro lv hlv he
    refine ⟨hall lv hlv he, (hasSnapshot_iff hperm hvolumes hall hlv he).mp ?_⟩
    exact h.ok_iff.mp hok lv (hperm.subset hlv) he
  · intro h
    have hall (lv : LvInfo) (hlv : lv ∈ lvs) (he : eligible lv = true) := (h lv hlv he).1
    have hok := hresult.mpr hall
    refine ⟨iff_of_true hok fun lv hlv he => ?_, fun hnot => ?_⟩
    · have hmem : lv ∈ lvs := hperm.symm.subset hlv
      exact (hasSnapshot_iff hperm hvolumes hall hmem he).mpr (h lv hmem he).2
    · rw [hok] at hnot
      cases hnot

/-- `create_snapshot` is all or nothing just under this condition. -/
theorem createSnapshot_allOrNothing_iff (sizes : Sizes) (env : CreateEnv) (name size : String)
    (s : Lvm) :
    AllOrNothing s name (createSnapshot sizes env name size s) ↔
      BackupCondition sizes env name size s := by
  unfold BackupCondition
  split
  · next vg lvs hvg hlvs =>
    obtain ⟨hvolumes, hcreated, hresult⟩ := createSnapshot_of_ok sizes name size hvg hlvs
    rw [makesSome_iff, not_not]
    by_cases hnone : made sizes env vg name size s lvs = []
    · have herror : (createSnapshot sizes env name size s).result.isOk = false := by
        rw [← Bool.not_eq_true, hresult]
        exact fun h => h.1 hnone
      rw [hnone] at hvolumes hcreated
      rw [List.append_nil] at hvolumes
      simpa [hnone] using allOrNothing_iff_lacks hvolumes hcreated herror
    · have hperm : lvs.Perm s.volumes := by
        rcases of_listLvs hlvs with rfl | hperm
        · exact absurd rfl hnone
        · exact hperm
      simpa [hnone] using allOrNothing_iff_makesAll hperm hvolumes (by rwa [hcreated])
        (hresult.trans (and_iff_right hnone))
  · next hnot =>
    obtain ⟨hlvm, hcreated, herror⟩ := createSnapshot_of_error sizes name size
      fun vg lvs hvg hlvs => hnot vg lvs hvg hlvs
    exact allOrNothing_iff_lacks (by rw [hlvm]) hcreated herror

/-- Sizes in whole numbers. -/
def wholeSizes : Sizes where
  giga := Text.decimal
  mega := fun cs => (Text.decimal cs).map fun n => (n + 1023) / 1024
  tera := fun cs => (Text.decimal cs).map fun n => n * 1024
  tenth := fun n => (n + 9) / 10

/-- A volume of the group `vg`. -/
def volume (name : String) : LvInfo := { name := name, vg := "vg", origin := none }

/-- The volumes `root` and `home`. -/
def twoVolumes : Lvm where
  volumes := [volume "root", volume "home"]
  unique := by decide

/-- `lvs` lists all volumes. -/
def listsAll : Listing where
  succeeds := .ok true
  order := fun lvs => lvs
  perm := fun lvs => List.Perm.refl lvs

/-- There is space enough, but the size of `home` is not printed, or its `lvcreate` fails. -/
def homeFails (sized : Bool) : CreateEnv where
  vgs := .ok "  vg\n"
  listing := listsAll
  lvSize := fun lv => .ok (if lv.name = "home" ∧ sized = false then "" else "  10g\n")
  vgFree := fun _ => .ok "  vg 50g\n"
  lvcreate := fun lv => .ok (lv.name ≠ "home")

/-- One volume without a snapshot does not make the call fail, and a call that fails leaves
the snapshot of the other volume behind. -/
theorem backup_not_allOrNothing :
    ¬ AllOrNothing twoVolumes "1" (createSnapshot wholeSizes (homeFails true) "1" "" twoVolumes) ∧
      ¬ AllOrNothing twoVolumes "1"
        (createSnapshot wholeSizes (homeFails false) "1" "" twoVolumes) := by
  constructor
  · intro h
    exact absurd (h.ok_iff.mp (by decide) (volume "home") (by decide) (by decide)) (by decide)
  · intro h
    exact absurd (h.error (by decide)) (by decide)

end LinuxAgent.Snapman
