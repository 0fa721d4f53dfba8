import LinuxAgent.Lib.Text
import Mathlib.Data.List.Nodup
import Mathlib.Data.List.Perm.Basic

/-!
# Snapshots of logical volumes

A backup of the system makes a snapshot of every logical volume that is neither swap
space nor a snapshot itself, one by one. Each takes a query of the size, a check of the
free space and a call of `lvcreate`. All but a failing `lvcreate` end the loop at once,
and what was made before is left behind.
-/

namespace LinuxAgent.Snapman

/-- A logical volume, as `lvs` lists it. -/
structure LvInfo where
  name : String
  vg : String
  origin : Option String
  deriving DecidableEq

/-- What a volume is called under `/dev`: its group and its name. -/
def LvInfo.path (lv : LvInfo) : String × String := (lv.vg, lv.name)

/-- The logical volumes of a machine. A name occurs once in a volume group. -/
structure Lvm where
  volumes : List LvInfo
  unique : (volumes.map LvInfo.path).Nodup

/-- There is a volume of this name in the group. -/
def Lvm.has (s : Lvm) (vg name : String) : Bool := (vg, name) ∈ s.volumes.map LvInfo.path

/-- The snapshot of a volume. -/
def LvInfo.snapshot (lv : LvInfo) (snapName : String) : LvInfo :=
  { name := snapName, vg := lv.vg, origin := some lv.name }

/-- `lvcreate -s` with a new name. -/
def Lvm.lvcreate (s : Lvm) (lv : LvInfo) (snapName : String)
    (hnew : s.has lv.vg snapName = false) : Lvm where
  volumes := s.volumes ++ [lv.snapshot snapName]
  unique := by
    rw [List.map_append, List.nodup_append]
    refine ⟨s.unique, List.nodup_singleton _, ?_⟩
    intro path hpath other hother
    rw [Lvm.has, decide_eq_false_iff_not] at hnew
    obtain rfl : other = (lv.vg, snapName) := by
      simpa [LvInfo.snapshot, LvInfo.path] using hother
    rintro rfl
    exact hnew hpath

/-- The arithmetic of sizes: a number in gigabytes, megabytes or terabytes, rounded up to
whole gigabytes, if it is one, and a tenth of a size, rounded up. -/
structure Sizes where
  giga : List Char → Option ℕ
  mega : List Char → Option ℕ
  tera : List Char → Option ℕ
  tenth : ℕ → ℕ

/-- Why `create_snapshot` fails. -/
inductive SnapError where
  /-- A command cannot be run. -/
  | command (error : String)
  /-- `获取卷大小失败` and the error -/
  | sizeQuery (error : String)
  /-- `未找到卷组名称` -/
  | noVolumeGroup
  /-- `清理后大小为空` and the size -/
  | emptySize (size : String)
  /-- `无法解析 … 数值` with the unit and the number -/
  | badNumber (unit : Char) (number : String)
  /-- `无法解析大小（未知单位）` and the size -/
  | unknownUnit (size : String)
  /-- `卷组 … 剩余空间不足` with what is needed and what is free -/
  | notEnoughSpace (vg : String) (requiredGb freeGb : ℕ)
  /-- `未找到卷组` and its name -/
  | volumeGroupNotFound (vg : String)
  /-- `未找到可用于快照的根卷 (排除 swap 与 _snap_)` -/
  | nothingCreated
  /-- `未找到匹配的快照` and the id -/
  | snapshotNotFound (name : String)

/-- A number before its unit. -/
def parseUnit (number : List Char → Option ℕ) (unit : Char) (s : List Char) : Except SnapError ℕ :=
  match number (Text.trimEndMatches unit s) with
  | some gb => .ok gb
  | none => .error (.badNumber unit (String.ofList (Text.trimEndMatches unit s)))

/-- `parse_size_to_gb`. -/
def parseSizeToGb (sizes : Sizes) (sizeStr : String) : Except SnapError ℕ :=
  let cleaned := (Text.trimChars sizeStr.toList).dropWhile fun c => !c.isDigit && c ≠ '.'
  if cleaned = [] then .error (.emptySize sizeStr)
  else
    let s := cleaned.map Char.toLower
    if s.getLast? = some 'g' then parseUnit sizes.giga 'g' s
    else if s.getLast? = some 'm' then parseUnit sizes.mega 'm' s
    else if s.getLast? = some 't' then parseUnit sizes.tera 't' s
    else .error (.unknownUnit sizeStr)

/-- A command that cannot be run, or what comes of it. -/
abbrev Ran (α : Type) : Type := Except String α

/-- How `lvs` lists the volumes: in some order, or not at all when it fails. -/
structure Listing where
  succeeds : Ran Bool
  order : List LvInfo → List LvInfo
  perm : ∀ lvs, (order lvs).Perm lvs

/-- `list_lvs`. -/
def listLvs (listing : Listing) (s : Lvm) : Except SnapError (List LvInfo) :=
  match listing.succeeds with
  | .error e => .error (.command e)
  | .ok false => .ok []
  | .ok true => .ok (listing.order s.volumes)

/-- What the commands of `create_snapshot` do: the names of the volume groups, the list of
volumes, and for each volume its size, the free space and the exit status of `lvcreate`. -/
structure CreateEnv where
  vgs : Ran String
  listing : Listing
  lvSize : LvInfo → Ran String
  vgFree : LvInfo → Ran String
  lvcreate : LvInfo → Ran Bool

/-- `get_vg_name`. -/
def getVgName (env : CreateEnv) : Except SnapError String :=
  match env.vgs with
  | .error e => .error (.command e)
  | .ok stdout => if Text.trim stdout = "" then .error .noVolumeGroup else .ok (Text.trim stdout)

/-- The lines of `vgs` in `check_free_space`. -/
def checkLines (sizes : Sizes) (vg : String) (requiredGb : ℕ) : List String → Except SnapError Unit
  | [] => .error (.volumeGroupNotFound vg)
  | line :: lines =>
    match Text.words line with
    | name :: free :: _ =>
      if name = vg then
        match parseSizeToGb sizes free with
        | .error e => .error e
        | .ok freeGb =>
          if freeGb < requiredGb then .error (.notEnoughSpace vg requiredGb freeGb) else .ok ()
      else checkLines sizes vg requiredGb lines
    | _ => checkLines sizes vg requiredGb lines

/-- `check_free_space`. -/
def checkFreeSpace (sizes : Sizes) (vgFree : Ran String) (vg requiredSize : String) :
    Except SnapError Unit :=
  match parseSizeToGb sizes requiredSize with
  | .error e => .error e
  | .ok requiredGb =>
    match vgFree with
    | .error e => .error (.command e)
    | .ok stdout => checkLines sizes vg requiredGb (Text.lines stdout)

/-- `size_final` in `create_snapshot`. -/
def sizeFinal (sizes : Sizes) (size : String) (lvSizeGb : ℕ) : String :=
  if size = "" then toString (sizes.tenth lvSizeGb) ++ "G" else size

/-- The commands for one volume: the size of its snapshot and whether `lvcreate` succeeds,
or the error with which `create_snapshot` returns. -/
def attempt (sizes : Sizes) (env : CreateEnv) (vg size : String) (lv : LvInfo) :
    Except SnapError (String × Bool) :=
  match env.lvSize lv with
  | .error e => .error (.sizeQuery e)
  | .ok stdout =>
    match parseSizeToGb sizes (Text.trim stdout) with
    | .error e => .error e
    | .ok lvSizeGb =>
      match checkFreeSpace sizes (env.vgFree lv) vg (sizeFinal sizes size lvSizeGb) with
      | .error e => .error e
      | .ok () =>
        match env.lvcreate lv with
        | .error e => .error (.command e)
        | .ok success => .ok (sizeFinal sizes size lvSizeGb, success)

/-- The volumes that get a snapshot. -/
def eligible (lv : LvInfo) : Bool :=
  !Text.contains "swap" lv.name && !Text.contains "_snap" lv.name

/-- The name of a snapshot. -/
def snapName (lv : LvInfo) (name : String) : String := lv.name ++ "_snap_" ++ name

/-- The volumes, the snapshots made so far and the size of the last one. -/
structure Progress where
  lvm : Lvm
  created : List LvInfo
  createdSize : String

/-- `lvcreate` has succeeded, unless the name is in use. -/
def Progress.create (p : Progress) (name sizeFinal : String) (lv : LvInfo) : Progress :=
  if h : p.lvm.has lv.vg (snapName lv name) = false then
    { lvm := p.lvm.lvcreate lv (snapName lv name) h
      created := p.created ++ [lv.snapshot (snapName lv name)]
      createdSize := sizeFinal }
  else p

/-- The loop of `create_snapshot`. -/
def createLoop (sizes : Sizes) (env : CreateEnv) (vg name size : String) :
    List LvInfo → Progress → Progress × Except SnapError Unit
  | [], p => (p, .ok ())
  | lv :: lvs, p =>
    if eligible lv then
      match attempt sizes env vg size lv with
      | .error e => (p, .error e)
      | .ok (sizeFinal, success) =>
        createLoop sizes env vg name size lvs
          (if success then p.create name sizeFinal lv else p)
    else createLoop sizes env vg name size lvs p

/-- What comes of `create_snapshot`: the volumes, the snapshots it has made, and its result. -/
structure Created where
  lvm : Lvm
  created : List LvInfo
  result : Except SnapError String

/-- `create_snapshot`. -/
def createSnapshot (sizes : Sizes) (env : CreateEnv) (name size : String) (s : Lvm) : Created :=
  match getVgName env with
  | .error e => { lvm := s, created := [], result := .error e }
  | .ok vg =>
    match listLvs env.listing s with
    | .error e => { lvm := s, created := [], result := .error e }
    | .ok lvs =>
      let loop := createLoop sizes env vg name size lvs ⟨s, [], ""⟩
      { lvm := loop.1.lvm
        created := loop.1.created
        result :=
          match loop.2 with
          | .error e => .error e
          | .ok () =>
            if loop.1.created = [] then .error .nothingCreated else .ok loop.1.createdSize }

section Loop

variable {sizes : Sizes} {env : CreateEnv} {vg name size : String} {lv : LvInfo}
  {lvs : List LvInfo} {p : Progress}

/-- The volumes that the loop gets to. -/
def tried (sizes : Sizes) (env : CreateEnv) (vg size : String) (lvs : List LvInfo) : List LvInfo :=
  (lvs.filter eligible).takeWhile fun lv => (attempt sizes env vg size lv).isOk

/-- The commands for a volume make its snapshot. -/
def makes (sizes : Sizes) (env : CreateEnv) (vg name size : String) (s : Lvm) (lv : LvInfo) :
    Bool :=
  match attempt sizes env vg size lv with
  | .ok (_, true) => !s.has lv.vg (snapName lv name)
  | _ => false

/-- The snapshots that the loop makes. -/
def made (sizes : Sizes) (env : CreateEnv) (vg name size : String) (s : Lvm) (lvs : List LvInfo) :
    List LvInfo :=
  ((tried sizes env vg size lvs).filter (makes sizes env vg name size s)).map fun lv =>
    lv.snapshot (snapName lv name)

/-- Snapshots of one id have different names if their volumes have. -/
theorem path_eq_of_snapName_eq {lv lv' : LvInfo} (hvg : lv.vg = lv'.vg)
    (h : snapName lv name = snapName lv' name) : lv.path = lv'.path := by
  have hlists := congrArg String.toList h
  simp only [snapName, String.toList_append] at hlists
  rw [LvInfo.path, LvInfo.path, hvg, String.toList_inj.mp
    (List.append_cancel_right (List.append_cancel_right hlists))]

/-- A new snapshot does not take the name of another one. -/
theorem has_create {sizeFinal : String} {lv' : LvInfo} (hne : lv'.path ≠ lv.path) :
    (p.create name sizeFinal lv).lvm.has lv'.vg (snapName lv' name) =
      p.lvm.has lv'.vg (snapName lv' name) := by
  unfold Progress.create
  split
  · rw [Lvm.has, Lvm.has, decide_eq_decide]
    simp only [Lvm.lvcreate, List.map_append, List.map_singleton, List.mem_append,
      List.mem_singleton, LvInfo.snapshot]
    refine or_iff_left fun h => ?_
    obtain ⟨hvg, hname⟩ := Prod.mk.inj h
    exact hne (path_eq_of_snapName_eq hvg hname)
  · rfl

/-- A snapshot does not change whether another volume gets one. -/
theorem makes_create {sizeFinal : String} {lv' : LvInfo} (hne : lv'.path ≠ lv.path) :
    makes sizes env vg name size (p.create name sizeFinal lv).lvm lv' =
      makes sizes env vg name size p.lvm lv' := by
  unfold makes
  split
  · rw [has_create hne]
  · rfl

/-- A snapshot does not change which other volumes get one. -/
theorem made_create {sizeFinal : String} (hnew : lv.path ∉ lvs.map LvInfo.path) :
    made sizes env vg name size (p.create name sizeFinal lv).lvm lvs =
      made sizes env vg name size p.lvm lvs := by
  rw [made, made]
  congr 1
  refine List.filter_congr fun lv' hlv' => makes_create ?_
  intro heq
  have hmem : lv' ∈ lvs := (List.mem_filter.mp ((List.takeWhile_sublist _).subset hlv')).1
  exact hnew (heq ▸ List.mem_map_of_mem hmem)

/-- A snapshot that `lvcreate` makes. -/
theorem create_of_new (sizeFinal : String) (hnew : p.lvm.has lv.vg (snapName lv name) = false) :
    (p.create name sizeFinal lv).lvm.volumes =
        p.lvm.volumes ++ [lv.snapshot (snapName lv name)] ∧
      (p.create name sizeFinal lv).created = p.created ++ [lv.snapshot (snapName lv name)] := by
  rw [Progress.create, dif_pos hnew]
  exact ⟨rfl, rfl⟩

/-- Nothing is made if the name is in use. -/
theorem create_of_has {sizeFinal : String} (hhas : p.lvm.has lv.vg (snapName lv name) = true) :
    p.create name sizeFinal lv = p := by
  rw [Progress.create, dif_neg (by simp [hhas])]

/-- A volume that is skipped. -/
theorem made_cons_of_not_eligible {s : Lvm} (h : eligible lv = false) :
    made sizes env vg name size s (lv :: lvs) = made sizes env vg name size s lvs := by
  rw [made, made, tried, tried, List.filter_cons_of_neg (by simp [h])]

/-- A volume that ends the loop. -/
theorem made_cons_of_error {s : Lvm} {e : SnapError} (h : eligible lv = true)
    (herror : attempt sizes env vg size lv = .error e) :
    made sizes env vg name size s (lv :: lvs) = [] := by
  rw [made, tried, List.filter_cons_of_pos h,
    List.takeWhile_cons_of_neg (by simp [herror, Except.isOk, Except.toBool])]
  rfl

/-- A volume that the loop gets over. -/
theorem made_cons_of_ok {s : Lvm} {outcome : String × Bool} (h : eligible lv = true)
    (hok : attempt sizes env vg size lv = .ok outcome) :
    made sizes env vg name size s (lv :: lvs) =
      (if makes sizes env vg name size s lv then [lv.snapshot (snapName lv name)] else []) ++
        made sizes env vg name size s lvs := by
  rw [made, tried, List.filter_cons_of_pos h,
    List.takeWhile_cons_of_pos (by simp [hok, Except.isOk, Except.toBool]),
    List.filter_cons]
  split <;> rfl

/-- The loop makes these snapshots, and ends early if the commands for some volume do. -/
theorem createLoop_spec (sizes : Sizes) (env : CreateEnv) (vg name size : String) (p : Progress)
    (hlvs : (lvs.map LvInfo.path).Nodup) :
    (createLoop sizes env vg name size lvs p).1.lvm.volumes =
        p.lvm.volumes ++ made sizes env vg name size p.lvm lvs ∧
      (createLoop sizes env vg name size lvs p).1.created =
        p.created ++ made sizes env vg name size p.lvm lvs ∧
      ((createLoop sizes env vg name size lvs p).2.isOk ↔
        ∀ lv ∈ lvs, eligible lv = true → (attempt sizes env vg size lv).isOk) := by
  induction lvs generalizing p with
  | nil => simp [createLoop, made, tried, Except.isOk, Except.toBool]
  | cons lv lvs ih =>
    obtain ⟨hnew, hrest⟩ := List.nodup_cons.mp hlvs
    rw [createLoop]
    split
    · next heligible =>
      split
      · next e herror =>
        rw [made_cons_of_error heligible herror]
        simp [heligible, herror, Except.isOk, Except.toBool]
      · next sizeFinal success hok =>
        have hforall : (∀ lv' ∈ lv :: lvs, eligible lv' = true →
            (attempt sizes env vg size lv').isOk) ↔
              ∀ lv' ∈ lvs, eligible lv' = true → (attempt sizes env vg size lv').isOk := by
          simp [hok, Except.isOk, Except.toBool]
        rw [made_cons_of_ok heligible hok, hforall]
        cases success with
        | false =>
          have hmakes : makes sizes env vg name size p.lvm lv = false := by simp [makes, hok]
          simpa [hmakes] using ih p hrest
        | true =>
          have hmakes : makes sizes env vg name size p.lvm lv =
              !p.lvm.has lv.vg (snapName lv name) := by simp [makes, hok]
          rw [hmakes, if_pos rfl]
          cases hhas : p.lvm.has lv.vg (snapName lv name) with
          | true =>
            rw [create_of_has hhas]
            simpa using ih p hrest
          | false =>
            obtain ⟨hvolumes, hcreated, hresult⟩ :=
              ih (p.create name sizeFinal lv) hrest
            rw [made_create hnew] at hvolumes hcreated
            obtain ⟨hnewVolumes, hnewCreated⟩ := create_of_new sizeFinal hhas
            refine ⟨?_, ?_, hresult⟩
            · rw [hvolumes, hnewVolumes, List.append_assoc]
              rfl
            · rw [hcreated, hnewCreated, List.append_assoc]
              rfl
    · next hskip =>
      rw [made_cons_of_not_eligible (by simpa using hskip)]
      simpa [hskip] using ih p hrest

end Loop

variable {sizes : Sizes} {env : CreateEnv} {vg name size : String} {s : Lvm} {lvs : List LvInfo}

/-- What is listed is a part of the volumes, all of them or none. -/
theorem of_listLvs {listing : Listing} (h : listLvs listing s = .ok lvs) :
    lvs = [] ∨ lvs.Perm s.volumes := by
  unfold listLvs at h
  split at h
  · cases h
  · exact .inl (Except.ok.inj h).symm
  · rw [← Except.ok.inj h]
    exact .inr (listing.perm _)

/-- The list has every volume once. -/
theorem nodup_of_listLvs (h : lvs = [] ∨ lvs.Perm s.volumes) : (lvs.map LvInfo.path).Nodup := by
  rcases h with rfl | h
  · exact List.nodup_nil
  · exact (h.map LvInfo.path).nodup_iff.mpr s.unique

/-- A call that gets the volume group and the volumes. -/
theorem createSnapshot_of_ok (sizes : Sizes) (name size : String) (hvg : getVgName env = .ok vg)
    (hlvs : listLvs env.listing s = .ok lvs) :
    (createSnapshot sizes env name size s).lvm.volumes =
        s.volumes ++ made sizes env vg name size s lvs ∧
      (createSnapshot sizes env name size s).created = made sizes env vg name size s lvs ∧
      ((createSnapshot sizes env name size s).result.isOk = true ↔
        made sizes env vg name size s lvs ≠ [] ∧
          ∀ lv ∈ lvs, eligible lv = true → (attempt sizes env vg size lv).isOk = true) := by
  obtain ⟨hvolumes, hcreated, hresult⟩ := createLoop_spec sizes env vg name size ⟨s, [], ""⟩
    (nodup_of_listLvs (of_listLvs hlvs))
  simp only [List.nil_append] at hcreated
  simp only [createSnapshot, hvg, hlvs]
  refine ⟨hvolumes, hcreated, ?_⟩
  rw [hcreated, ← hresult]
  cases (createLoop sizes env vg name size lvs ⟨s, [], ""⟩).2 with
  | error e => simp [Except.isOk, Except.toBool]
  | ok _ =>
    by_cases hnone : made sizes env vg name size s lvs = [] <;>
      simp [hnone, Except.isOk, Except.toBool]

/-- A call that does not get them. -/
theorem createSnapshot_of_error (sizes : Sizes) (name size : String)
    (h : ∀ vg lvs, getVgName env = .ok vg → listLvs env.listing s ≠ .ok lvs) :
    (createSnapshot sizes env name size s).lvm = s ∧
      (createSnapshot sizes env name size s).created = [] ∧
      (createSnapshot sizes env name size s).result.isOk = false := by
  unfold createSnapshot
  split
  · exact ⟨rfl, rfl, rfl⟩
  · next vg hvg =>
    split
    · exact ⟨rfl, rfl, rfl⟩
    · next lvs hlvs => exact absurd hlvs (h vg lvs hvg)

end LinuxAgent.Snapman
