import LinuxAgent.KernelModule.Loading
import Mathlib.Data.Finset.Card
import Mathlib.Data.Finset.SDiff

/-!
# Retrying until a driver is loaded

`load_kernel_driver` calls `try_load_driver_with_cache` once a second. It gives up when as
many drivers have failed as there are compatible ones, or when the driver for exactly this
kernel has failed. Only a failure of `insmod` makes a driver fail, so that any other error
is met again and again unless there is a driver for exactly this kernel.
-/

namespace LinuxAgent.KernelModule

/-- The ways in which `load_kernel_driver` ends. -/
inductive LoadResult
  | ok (driverName : String)
  | err (e : String)
  /-- The process exits. -/
  | exit
  deriving DecidableEq

/-- The loop of `load_kernel_driver`, if it ends within the given number of iterations. -/
def retryLoop (h : Host) (kernelVersion : String) (drivers : List FileName) :
    ℕ → World → Option LoadResult
  | 0, _ => none
  | fuel + 1, w =>
    if isDriverLoaded h w then some .exit
    else match tryLoadDriverWithCache h kernelVersion w with
      | (_, .ok driverName) => some (.ok driverName)
      | (w, .error _) =>
        if h.present (exactDriver kernelVersion) && exactDriver kernelVersion ∉ w.failed then
          retryLoop h kernelVersion drivers fuel
            { w with failed := insert (exactDriver kernelVersion) w.failed }
        else if drivers.length ≤ w.failed.card then
          some (.err "All available drivers failed to load")
        else if exactDriver kernelVersion ∈ w.failed then some (.err "best driver failed to load")
        else retryLoop h kernelVersion drivers fuel w

/-- The entries of a directory that can be read. -/
def readable (entries : List (Except String FileName)) : List FileName :=
  entries.filterMap Except.toOption

/-- `load_kernel_driver`, for a kernel version that has been read. -/
def loadKernelDriver (h : Host) (kernelVersion : String) (fuel : ℕ) (w : World) :
    Option LoadResult :=
  if isRunningInContainer h then some (.ok "")
  else match extractKernelPrefix kernelVersion with
    | none => some (.err "Failed to extract kernel major version")
    | some kernelPrefix =>
      match h.readDir with
      | .error e => some (.err e)
      | .ok entries =>
        let drivers := (readable entries).filter fun f => f.version.any (startsWith kernelPrefix)
        if drivers = [] then some (.err "No matching major version drivers found")
        else retryLoop h kernelVersion drivers fuel { w with failed := ∅ }

/-- The directory `/opt/osec` can be read and has these files. -/
structure Directory (h : Host) (files : List FileName) : Prop where
  readDir : h.readDir = .ok (files.map .ok)
  present : ∀ f, h.present f = true ↔ f ∈ files
  nodup : files.Nodup

/-- No command loads the module, and it is not loaded. -/
structure NeverLoads (h : Host) (w : World) : Prop where
  modules : ∀ name ∈ w.modules, startsWith "osec_base" (name ++ " ") = false
  modprobe : ∀ d, h.modprobe d = false
  modprobeDir : ∀ d, h.modprobeDir d = false
  insmod : ∀ d, h.insmod d ≠ .success

/-- The driver is set up and `insmod` fails on it. -/
def FailsInsmod (h : Host) (d : FileName) : Prop :=
  setupModuleStructure h d = .ok () ∧ h.koExists d = true ∧ ∃ stderr, h.insmod d = .failure stderr

/-- The driver that an attempt marks as failed. -/
def Fails (h : Host) (kernelVersion : String) (failed : Finset FileName) (d : FileName) : Prop :=
  hasModprobe h = true ∧ chooseDriver h kernelVersion failed = .ok d ∧ FailsInsmod h d

/-- What an attempt does to the set of failed drivers. -/
def Marks (h : Host) (kernelVersion : String) (failed failed' : Finset FileName) : Prop :=
  (∃ d, Fails h kernelVersion failed d ∧ failed' = insert d failed) ∨
    (∀ d, ¬Fails h kernelVersion failed d) ∧ failed' = failed

section Attempt

variable {h : Host} {kernelVersion : String} {w : World} {d : FileName}

/-- Changing the mode forgets no failures. -/
@[simp] theorem setenforce_failed (mode : SelinuxMode) :
    (setenforce h mode w).failed = w.failed := by
  rw [setenforce]
  split <;> rfl

/-- Changing the mode unloads no modules. -/
@[simp] theorem setenforce_modules (mode : SelinuxMode) :
    (setenforce h mode w).modules = w.modules := by
  rw [setenforce]
  split <;> rfl

/-- Going back to the old mode forgets no failures. -/
@[simp] theorem restoreSelinux_failed (state : Option String) :
    (restoreSelinux h state w).failed = w.failed := by
  unfold restoreSelinux
  split
  · rfl
  · split
    · rfl
    · split
      · rfl
      · exact setenforce_failed _

/-- Going back to the old mode unloads no modules. -/
@[simp] theorem restoreSelinux_modules (state : Option String) :
    (restoreSelinux h state w).modules = w.modules := by
  unfold restoreSelinux
  split
  · rfl
  · split
    · rfl
    · split
      · rfl
      · exact setenforce_modules _

/-- Switching SELinux off changes nothing else. -/
theorem getAndDisableSelinux_eq :
    (getAndDisableSelinux h w).1.failed = w.failed ∧
      (getAndDisableSelinux h w).1.modules = w.modules := by
  unfold getAndDisableSelinux
  split
  · exact ⟨rfl, rfl⟩
  · split
    · exact ⟨rfl, rfl⟩
    · dsimp only
      split
      · split
        · exact ⟨rfl, rfl⟩
        · exact ⟨setenforce_failed _, setenforce_modules _⟩
      · exact ⟨rfl, rfl⟩

/-- The module stays unloaded when the modules do not change. -/
theorem NeverLoads.congr {w' : World} (hn : NeverLoads h w) (hw : w'.modules = w.modules) :
    NeverLoads h w' :=
  ⟨hw ▸ hn.modules, hn.modprobe, hn.modprobeDir, hn.insmod⟩

/-- The module stays unloaded when `uio` is loaded. -/
theorem NeverLoads.load_uio (hn : NeverLoads h w) (loads : Bool) :
    NeverLoads h (w.load "uio" loads) := by
  cases loads with
  | false => exact hn
  | true =>
    refine ⟨?_, hn.modprobe, hn.modprobeDir, hn.insmod⟩
    simp only [World.load, if_true, List.forall_mem_append, List.forall_mem_singleton]
    exact ⟨hn.modules, by decide⟩

/-- The module is not listed. -/
theorem NeverLoads.not_listed (hn : NeverLoads h w) : ¬Listed h w d := by
  rintro ⟨-, ⟨name, hname, hstart⟩ | hload | hload⟩
  · exact Bool.false_ne_true ((hn.modules name hname).symm.trans hstart)
  · exact Bool.false_ne_true ((hn.modprobe d).symm.trans hload)
  · exact Bool.false_ne_true ((hn.modprobeDir d).symm.trans hload)

/-- The process does not exit. -/
theorem NeverLoads.isDriverLoaded (hn : NeverLoads h w) : isDriverLoaded h w = false := by
  rw [← Bool.not_eq_true, KernelModule.isDriverLoaded, isModuleLoaded_iff]
  rintro ⟨-, name, hname, hstart⟩
  have hshort : startsWith "osec_base" (name ++ " ") = true := by
    refine List.isPrefixOf_iff_prefix.mpr ?_
    refine List.IsPrefix.trans ?_ (List.isPrefixOf_iff_prefix.mp hstart)
    decide
  exact Bool.false_ne_true ((hn.modules name hname).symm.trans hshort)

/-- After the set-up a driver fails just if `insmod` fails. -/
theorem loadDriver_of_neverLoads (hn : NeverLoads h w)
    (hsetup : setupModuleStructure h d = .ok ()) (originalSelinuxState : Option String) :
    ∃ w' e, loadDriver h kernelVersion originalSelinuxState d w = (w', .error e) ∧
      w'.modules = w.modules ∧
      (FailsInsmod h d ∧ w'.failed = insert d w.failed ∨
        ¬FailsInsmod h d ∧ w'.failed = w.failed) := by
  have hnone : ¬isModuleLoaded h "osec_base" w = true := fun hl =>
    hn.not_listed (d := d) ⟨(isModuleLoaded_iff.mp hl).1, .inl (isModuleLoaded_iff.mp hl).2⟩
  unfold loadDriver
  simp only [hn.modprobe, hn.modprobeDir, World.load, Bool.false_eq_true, if_false, hnone]
  cases hko : h.koExists d with
  | false =>
    refine ⟨_, _, rfl, restoreSelinux_modules _, .inr ⟨?_, restoreSelinux_failed _⟩⟩
    exact fun hf => Bool.false_ne_true (hko.symm.trans hf.2.1)
  | true =>
    rw [Bool.not_true, if_neg Bool.false_ne_true]
    cases hinsmod : h.insmod d with
    | notExecutable e =>
      refine ⟨_, _, rfl, rfl, .inr ⟨?_, rfl⟩⟩
      rintro ⟨-, -, stderr, hfail⟩
      rw [hinsmod] at hfail
      cases hfail
    | success => exact absurd hinsmod (hn.insmod d)
    | failure stderr =>
      exact ⟨_, _, rfl, restoreSelinux_modules _,
        .inl ⟨⟨hsetup, hko, stderr, hinsmod⟩, restoreSelinux_failed _⟩⟩

/-- An attempt ends with an error and marks at most one driver as failed. -/
theorem tryLoadDriverWithCache_of_neverLoads (hcontainer : isRunningInContainer h = false)
    (hn : NeverLoads h w) :
    ∃ w' e, tryLoadDriverWithCache h kernelVersion w = (w', .error e) ∧ NeverLoads h w' ∧
      Marks h kernelVersion w.failed w'.failed := by
  rw [tryLoadDriverWithCache, hcontainer, if_neg Bool.false_ne_true]
  cases hmodprobe : hasModprobe h with
  | false =>
    refine ⟨w, _, rfl, hn, .inr ⟨fun d hd => ?_, rfl⟩⟩
    exact Bool.false_ne_true (hmodprobe.symm.trans hd.1)
  | true =>
    rw [Bool.not_true, if_neg Bool.false_ne_true]
    extract_lets selinux w₁
    have hfailed : w₁.failed = w.failed :=
      (World.load_failed _ _ _).trans getAndDisableSelinux_eq.1
    have hn₁ : NeverLoads h w₁ := (hn.congr getAndDisableSelinux_eq.2).load_uio _
    rw [loadChosen, hfailed]
    cases hchoose : chooseDriver h kernelVersion w.failed with
    | error e =>
      refine ⟨w₁, e, rfl, hn₁, .inr ⟨fun d hd => ?_, hfailed⟩⟩
      have hd' := hchoose.symm.trans hd.2.1
      cases hd'
    | ok d =>
      have honly : ∀ d', Fails h kernelVersion w.failed d' → d' = d := fun d' hd' =>
        (Except.ok.inj (hchoose.symm.trans hd'.2.1)).symm
      dsimp only
      cases hsetup : setupModuleStructure h d with
      | error e =>
        refine ⟨w₁, e, rfl, hn₁, .inr ⟨fun d' hd' => ?_, hfailed⟩⟩
        obtain rfl := honly d' hd'
        have hok := hsetup.symm.trans hd'.2.2.1
        cases hok
      | ok _ =>
        obtain ⟨w', e, hload, hmodules, hcases⟩ :=
          @loadDriver_of_neverLoads h kernelVersion w₁ d hn₁ hsetup selinux.2
        refine ⟨w', e, hload, hn₁.congr hmodules, ?_⟩
        rw [hfailed] at hcases
        obtain ⟨hfails, hinsert⟩ | ⟨hfails, hsame⟩ := hcases
        · exact .inl ⟨d, ⟨hmodprobe, hchoose, hfails⟩, hinsert⟩
        · refine .inr ⟨fun d' hd' => ?_, hsame⟩
          obtain rfl := honly d' hd'
          exact hfails hd'.2.2

end Attempt

section Loop

variable {h : Host} {kernelVersion : String} {w : World} {drivers : List FileName}

/-- No driver is taken from the set of failed ones. -/
theorem Marks.subset {failed failed' : Finset FileName}
    (hmarks : Marks h kernelVersion failed failed') : failed ⊆ failed' := by
  obtain ⟨d, -, rfl⟩ | ⟨-, rfl⟩ := hmarks
  · exact Finset.subset_insert d failed
  · exact Finset.Subset.refl _

/-- One iteration of the loop. -/
theorem retryLoop_succ (hcontainer : isRunningInContainer h = false) (hn : NeverLoads h w)
    (fuel : ℕ) :
    ∃ w', NeverLoads h w' ∧ Marks h kernelVersion w.failed w'.failed ∧
      retryLoop h kernelVersion drivers (fuel + 1) w =
        if h.present (exactDriver kernelVersion) = true ∧
            exactDriver kernelVersion ∉ w'.failed then
          retryLoop h kernelVersion drivers fuel
            { w' with failed := insert (exactDriver kernelVersion) w'.failed }
        else if drivers.length ≤ w'.failed.card then
          some (.err "All available drivers failed to load")
        else if exactDriver kernelVersion ∈ w'.failed then
          some (.err "best driver failed to load")
        else retryLoop h kernelVersion drivers fuel w' := by
  obtain ⟨w', e, htry, hn', hmarks⟩ :=
    @tryLoadDriverWithCache_of_neverLoads h kernelVersion w hcontainer hn
  refine ⟨w', hn', hmarks, ?_⟩
  rw [retryLoop, hn.isDriverLoaded, if_neg Bool.false_ne_true, htry]
  simp only [Bool.and_eq_true, decide_eq_true_eq]

/-- The loop gives up in the iteration after which the driver for exactly this kernel has
failed. -/
theorem retryLoop_of_mem (hcontainer : isRunningInContainer h = false) (hn : NeverLoads h w)
    (hmem : exactDriver kernelVersion ∈ w.failed) (fuel : ℕ) :
    ∃ e, retryLoop h kernelVersion drivers (fuel + 1) w = some (.err e) := by
  obtain ⟨w', -, hmarks, hloop⟩ :=
    @retryLoop_succ h kernelVersion w drivers hcontainer hn fuel
  have hmem' : exactDriver kernelVersion ∈ w'.failed := hmarks.subset hmem
  have hnot : ¬(h.present (exactDriver kernelVersion) = true ∧
      exactDriver kernelVersion ∉ w'.failed) := fun hexact => hexact.2 hmem'
  rw [hloop, if_neg hnot, if_pos hmem']
  split
  · exact ⟨_, rfl⟩
  · exact ⟨_, rfl⟩

/-- The loop gives up on the driver for exactly this kernel in the second iteration. -/
theorem retryLoop_of_present (hcontainer : isRunningInContainer h = false) (hn : NeverLoads h w)
    (hexact : h.present (exactDriver kernelVersion) = true) :
    ∃ e, retryLoop h kernelVersion drivers 2 w = some (.err e) := by
  obtain ⟨w', hn', -, hloop⟩ := @retryLoop_succ h kernelVersion w drivers hcontainer hn 1
  rw [hloop]
  by_cases hmem : exactDriver kernelVersion ∈ w'.failed
  · have hnot : ¬(h.present (exactDriver kernelVersion) = true ∧
        exactDriver kernelVersion ∉ w'.failed) := fun hexact => hexact.2 hmem
    rw [if_neg hnot, if_pos hmem]
    split
    · exact ⟨_, rfl⟩
    · exact ⟨_, rfl⟩
  · have hnext : NeverLoads h
        { w' with failed := insert (exactDriver kernelVersion) w'.failed } := hn'.congr rfl
    have hmem' : exactDriver kernelVersion ∈ insert (exactDriver kernelVersion) w'.failed :=
      Finset.mem_insert_self _ _
    rw [if_pos ⟨hexact, hmem⟩]
    exact retryLoop_of_mem hcontainer hnext hmem' 0

/-- The compatible drivers, which are counted before the loop. -/
def compatibleDrivers (kernelVersion : String) (files : List FileName) : List FileName :=
  files.filter fun f => Compatible kernelVersion f

variable {files : List FileName}

/-- What makes a driver compatible. -/
theorem mem_compatibleDrivers {f : FileName} :
    f ∈ compatibleDrivers kernelVersion files ↔ f ∈ files ∧ Compatible kernelVersion f := by
  rw [compatibleDrivers, List.mem_filter, decide_eq_true_eq]

/-- Without a driver for exactly this kernel an attempt marks a compatible driver that has not
failed yet. -/
theorem Fails.mem (hdir : Directory h files)
    (hexact : ¬h.present (exactDriver kernelVersion) = true) {failed : Finset FileName}
    {d : FileName} (hd : Fails h kernelVersion failed d) :
    d ∈ compatibleDrivers kernelVersion files ∧ d ∉ failed := by
  have hfind := hd.2.1
  rw [chooseDriver, if_neg hexact, hdir.readDir] at hfind
  obtain ⟨hmem, hfailed, hcompatible⟩ :=
    mem_eligible.mp (isFirstMin_of_findBestDriverExcluding hfind).mem
  exact ⟨mem_compatibleDrivers.mpr ⟨hmem, hcompatible⟩, hfailed⟩

/-- Where `modprobe` is there and `insmod` fails on every compatible driver, an attempt marks one
as long as there is one that has not failed yet. -/
theorem exists_fails (hdir : Directory h files)
    (hexact : ¬h.present (exactDriver kernelVersion) = true) (hmodprobe : hasModprobe h = true)
    (hinsmod : ∀ f ∈ compatibleDrivers kernelVersion files, FailsInsmod h f)
    {failed : Finset FileName} {f : FileName} (hf : f ∈ compatibleDrivers kernelVersion files)
    (hfailed : f ∉ failed) : ∃ d, Fails h kernelVersion failed d := by
  have hne : eligible kernelVersion failed files ≠ [] := by
    have hf' := mem_compatibleDrivers.mp hf
    exact List.ne_nil_of_mem (mem_eligible.mpr ⟨hf'.1, hfailed, hf'.2⟩)
  cases hfind : findBestDriverExcluding (.ok (files.map .ok)) kernelVersion failed with
  | error e => exact absurd (findBestDriverExcluding_error_iff.mp ⟨e, hfind⟩) hne
  | ok d =>
    obtain ⟨hmem, -, hcompatible⟩ :=
      mem_eligible.mp (isFirstMin_of_findBestDriverExcluding hfind).mem
    refine ⟨d, hmodprobe, ?_, hinsmod d (mem_compatibleDrivers.mpr ⟨hmem, hcompatible⟩)⟩
    rw [chooseDriver, if_neg hexact, hdir.readDir, hfind]

/-- As many drivers are counted as there are compatible ones. -/
theorem length_compatibleDrivers (hdir : Directory h files) :
    (compatibleDrivers kernelVersion files).length =
      (compatibleDrivers kernelVersion files).toFinset.card :=
  (List.toFinset_card_of_nodup (hdir.nodup.filter _)).symm

/-- Where every compatible driver can fail, an attempt marks one more. -/
theorem Marks.card_eq (hdir : Directory h files)
    (hexact : ¬h.present (exactDriver kernelVersion) = true) (hmodprobe : hasModprobe h = true)
    (hinsmod : ∀ f ∈ compatibleDrivers kernelVersion files, FailsInsmod h f)
    {failed failed' : Finset FileName} (hmarks : Marks h kernelVersion failed failed')
    (hsub : failed ⊆ (compatibleDrivers kernelVersion files).toFinset)
    (hleft : failed.card < (compatibleDrivers kernelVersion files).length) :
    failed' ⊆ (compatibleDrivers kernelVersion files).toFinset ∧
      failed'.card = failed.card + 1 := by
  obtain ⟨d, hd, rfl⟩ | ⟨hnone, -⟩ := hmarks
  · obtain ⟨hmem, hnot⟩ := hd.mem hdir hexact
    refine ⟨Finset.insert_subset (List.mem_toFinset.mpr hmem) hsub, ?_⟩
    exact Finset.card_insert_of_notMem hnot
  · rw [length_compatibleDrivers hdir] at hleft
    obtain ⟨f, hf, hnot⟩ := Finset.exists_mem_notMem_of_card_lt_card hleft
    obtain ⟨d, hd⟩ := exists_fails hdir hexact hmodprobe hinsmod (List.mem_toFinset.mp hf) hnot
    exact absurd hd (hnone d)

/-- The loop gives up after one iteration for each compatible driver that is left. -/
theorem retryLoop_of_insmod (hdir : Directory h files) (hcontainer : isRunningInContainer h = false)
    (hexact : ¬h.present (exactDriver kernelVersion) = true) (hmodprobe : hasModprobe h = true)
    (hinsmod : ∀ f ∈ compatibleDrivers kernelVersion files, FailsInsmod h f) {left : ℕ}
    (hn : NeverLoads h w) (hsub : w.failed ⊆ (compatibleDrivers kernelVersion files).toFinset)
    (hleft : (compatibleDrivers kernelVersion files).length = w.failed.card + left + 1) :
    ∃ e, retryLoop h kernelVersion (compatibleDrivers kernelVersion files) (left + 1) w =
      some (.err e) := by
  have hnot (w' : World) : ¬(h.present (exactDriver kernelVersion) = true ∧
      exactDriver kernelVersion ∉ w'.failed) := fun hboth => hexact hboth.1
  induction left generalizing w with
  | zero =>
    obtain ⟨w', -, hmarks, hloop⟩ := @retryLoop_succ h kernelVersion w
      (compatibleDrivers kernelVersion files) hcontainer hn 0
    have hcard := (hmarks.card_eq hdir hexact hmodprobe hinsmod hsub (by omega)).2
    rw [hloop, if_neg (hnot w'), if_pos (by omega)]
    exact ⟨_, rfl⟩
  | succ left ih =>
    obtain ⟨w', hn', hmarks, hloop⟩ := @retryLoop_succ h kernelVersion w
      (compatibleDrivers kernelVersion files) hcontainer hn (left + 1)
    obtain ⟨hsub', hcard⟩ := hmarks.card_eq hdir hexact hmodprobe hinsmod hsub (by omega)
    rw [hloop, if_neg (hnot w'), if_neg (by omega)]
    split
    · exact ⟨_, rfl⟩
    · exact ih hn' hsub' (by omega)

/-- Some compatible driver cannot fail, so that the drivers do not all fail. -/
theorem card_failed_lt (hdir : Directory h files)
    (hsome : compatibleDrivers kernelVersion files ≠ [])
    (hstuck : ¬(hasModprobe h = true ∧
      ∀ f ∈ compatibleDrivers kernelVersion files, FailsInsmod h f))
    {failed : Finset FileName} (hsub : failed ⊆ (compatibleDrivers kernelVersion files).toFinset)
    (hfailed : ∀ f ∈ failed, hasModprobe h = true ∧ FailsInsmod h f) :
    failed.card < (compatibleDrivers kernelVersion files).length := by
  obtain ⟨f, hf, hnot⟩ : ∃ f ∈ compatibleDrivers kernelVersion files, f ∉ failed := by
    by_cases hmodprobe : hasModprobe h = true
    · rw [and_iff_right hmodprobe] at hstuck
      push Not at hstuck
      obtain ⟨f, hf, hinsmod⟩ := hstuck
      exact ⟨f, hf, fun hmem => hinsmod (hfailed f hmem).2⟩
    · obtain ⟨f, hf⟩ := List.exists_mem_of_ne_nil _ hsome
      exact ⟨f, hf, fun hmem => hmodprobe (hfailed f hmem).1⟩
  rw [length_compatibleDrivers hdir]
  refine Finset.card_lt_card (Finset.ssubset_iff_subset_ne.mpr ⟨hsub, ?_⟩)
  rintro rfl
  exact hnot (List.mem_toFinset.mpr hf)

/-- Where some compatible driver cannot fail, the loop does not end. -/
theorem retryLoop_eq_none (hdir : Directory h files) (hcontainer : isRunningInContainer h = false)
    (hexact : ¬h.present (exactDriver kernelVersion) = true)
    (hsome : compatibleDrivers kernelVersion files ≠ [])
    (hstuck : ¬(hasModprobe h = true ∧
      ∀ f ∈ compatibleDrivers kernelVersion files, FailsInsmod h f))
    (fuel : ℕ) (hn : NeverLoads h w)
    (hsub : w.failed ⊆ (compatibleDrivers kernelVersion files).toFinset)
    (hfailed : ∀ f ∈ w.failed, hasModprobe h = true ∧ FailsInsmod h f) :
    retryLoop h kernelVersion (compatibleDrivers kernelVersion files) fuel w = none := by
  induction fuel generalizing w with
  | zero => rfl
  | succ fuel ih =>
    obtain ⟨w', hn', hmarks, hloop⟩ := @retryLoop_succ h kernelVersion w
      (compatibleDrivers kernelVersion files) hcontainer hn fuel
    have hnext : w'.failed ⊆ (compatibleDrivers kernelVersion files).toFinset ∧
        ∀ f ∈ w'.failed, hasModprobe h = true ∧ FailsInsmod h f := by
      obtain ⟨d, hd, hinsert⟩ | ⟨-, hsame⟩ := hmarks
      · rw [hinsert, Finset.insert_subset_iff, Finset.forall_mem_insert]
        exact ⟨⟨List.mem_toFinset.mpr (hd.mem hdir hexact).1, hsub⟩, ⟨hd.1, hd.2.2⟩, hfailed⟩
      · rw [hsame]
        exact ⟨hsub, hfailed⟩
    have hcard := card_failed_lt hdir hsome hstuck hnext.1 hnext.2
    have hmem : exactDriver kernelVersion ∉ w'.failed := fun hmem =>
      hexact ((hdir.present _).mpr
        (mem_compatibleDrivers.mp (List.mem_toFinset.mp (hnext.1 hmem))).1)
    have hnot : ¬(h.present (exactDriver kernelVersion) = true ∧
        exactDriver kernelVersion ∉ w'.failed) := fun hboth => hexact hboth.1
    rw [hloop, if_neg hnot, if_neg (by omega), if_neg hmem]
    exact ih hn' hnext.1 hnext.2

/-- There is no compatible driver, or one for exactly this kernel, or `modprobe` is there and
`insmod` fails on every compatible driver. -/
def RunsOut (h : Host) (kernelVersion : String) (files : List FileName) : Prop :=
  compatibleDrivers kernelVersion files = [] ∨ exactDriver kernelVersion ∈ files ∨
    hasModprobe h = true ∧ ∀ f ∈ compatibleDrivers kernelVersion files, FailsInsmod h f

/-- What `load_kernel_driver` does outside of a container. -/
theorem loadKernelDriver_eq (hdir : Directory h files)
    (hcontainer : isRunningInContainer h = false) (fuel : ℕ) :
    loadKernelDriver h kernelVersion fuel w =
      if compatibleDrivers kernelVersion files = [] then
        some (.err "No matching major version drivers found")
      else retryLoop h kernelVersion (compatibleDrivers kernelVersion files) fuel
        { w with failed := ∅ } := by
  have hreadable : readable (files.map .ok) = files := by
    rw [readable, List.filterMap_map]
    exact List.filterMap_some
  have hdrivers : (files.filter fun f => f.version.any (startsWith (baseVersion kernelVersion))) =
      compatibleDrivers kernelVersion files := by
    refine List.filter_congr fun f _ => ?_
    rw [Bool.eq_iff_iff, any_version_iff_compatible, decide_eq_true_eq]
  rw [loadKernelDriver, hcontainer, if_neg Bool.false_ne_true, extractKernelPrefix_eq,
    hdir.readDir]
  simp only [hreadable, hdrivers]

/-- Where the module is never loaded, `load_kernel_driver` returns an error just if the drivers
run out. -/
theorem load_gives_up_iff (hdir : Directory h files)
    (hcontainer : isRunningInContainer h = false) (hn : NeverLoads h w) :
    (∃ fuel e, loadKernelDriver h kernelVersion fuel w = some (.err e)) ↔
      RunsOut h kernelVersion files := by
  have hstart : NeverLoads h { w with failed := ∅ } := hn.congr rfl
  simp only [loadKernelDriver_eq hdir hcontainer]
  by_cases hnil : compatibleDrivers kernelVersion files = []
  · simp only [if_pos hnil]
    exact iff_of_true ⟨0, _, rfl⟩ (.inl hnil)
  · rw [RunsOut, or_iff_right hnil]
    simp only [if_neg hnil]
    by_cases hexact : h.present (exactDriver kernelVersion) = true
    · refine iff_of_true ⟨2, retryLoop_of_present hcontainer hstart hexact⟩ (.inl ?_)
      exact (hdir.present _).mp hexact
    · rw [or_iff_right fun hmem => hexact ((hdir.present _).mpr hmem)]
      constructor
      · rintro ⟨fuel, e, herr⟩
        by_contra hstuck
        rw [retryLoop_eq_none hdir hcontainer hexact hnil hstuck fuel hstart
          (Finset.empty_subset _) (by simp)] at herr
        cases herr
      · rintro ⟨hmodprobe, hinsmod⟩
        obtain ⟨left, hleft⟩ := Nat.exists_eq_succ_of_ne_zero
          (List.length_pos_of_ne_nil hnil).ne'
        exact ⟨left + 1, retryLoop_of_insmod hdir hcontainer hexact hmodprobe hinsmod hstart
          (Finset.empty_subset _) (by simpa using hleft)⟩

end Loop

/-- The directory of `enforcingHost`. -/
theorem directory_enforcingHost {files : List FileName} (hnodup : files.Nodup)
    (insmod : InsmodResult) : Directory (enforcingHost files insmod) files :=
  ⟨rfl, fun _ => decide_eq_true_iff, hnodup⟩

/-- Nothing loads the module on `enforcingHost` if `insmod` does not succeed. -/
theorem neverLoads_enforcingHost (files : List FileName) {insmod : InsmodResult}
    (hinsmod : insmod ≠ .success) : NeverLoads (enforcingHost files insmod) enforcingWorld :=
  ⟨fun _ hname => absurd hname List.not_mem_nil, fun _ => rfl, fun _ => rfl, fun _ => hinsmod⟩

/-- With one driver that is refused the loading ends with an error. -/
theorem load_gives_up_exact :
    ∃ fuel e, loadKernelDriver (enforcingHost [exactDriver "5.4.0"] (.failure "Invalid format"))
      "5.4.0" fuel enforcingWorld = some (.err e) :=
  (load_gives_up_iff (directory_enforcingHost (List.nodup_singleton _) _) (by decide)
    (neverLoads_enforcingHost _ (by decide))).mpr (.inr (.inl List.mem_cons_self))

/-- A machine without `insmod` and with a driver for another kernel of the same base version. -/
def withoutInsmod : Host :=
  enforcingHost [.utf8 "osec_base.ko-5.4.0-1"] (.notExecutable "No such file or directory")

/-- Without `insmod` the driver is tried for ever. -/
theorem retries_without_insmod :
    ¬∃ fuel e, loadKernelDriver withoutInsmod "5.4.0-2" fuel enforcingWorld = some (.err e) := by
  rintro ⟨fuel, e, herr⟩
  have hdir : Directory withoutInsmod [.utf8 "osec_base.ko-5.4.0-1"] :=
    directory_enforcingHost (List.nodup_singleton _) _
  have hn : NeverLoads withoutInsmod { enforcingWorld with failed := ∅ } :=
    neverLoads_enforcingHost _ (by decide)
  have hstuck : ¬(hasModprobe withoutInsmod = true ∧ ∀ f ∈ compatibleDrivers "5.4.0-2"
      [.utf8 "osec_base.ko-5.4.0-1"], FailsInsmod withoutInsmod f) := by
    rintro ⟨-, hinsmod⟩
    obtain ⟨-, -, stderr, hfail⟩ := hinsmod (.utf8 "osec_base.ko-5.4.0-1") (by decide)
    cases hfail
  rw [loadKernelDriver_eq hdir (by decide), if_neg (by decide), retryLoop_eq_none hdir (by decide)
    (by decide) (by decide) hstuck fuel hn (Finset.empty_subset _) (by simp)] at herr
  cases herr

end LinuxAgent.KernelModule
