import LinuxAgent.KernelModule.Choice

/-!
# Loading a driver

`try_load_driver_with_cache` switches SELinux to permissive, chooses a driver, sets it up
under `/opt/osec/lib/modules` and tries `modprobe` twice and `insmod` once. SELinux is
switched back before each return that is written out, but three errors are passed on
with `?` and leave it permissive.
-/

namespace LinuxAgent.KernelModule

/-- The mode of SELinux. -/
inductive SelinuxMode
  | enforcing
  | permissive
  | disabled
  deriving DecidableEq

/-- What `getenforce` prints. -/
def SelinuxMode.text : SelinuxMode → String
  | .enforcing => "Enforcing\n"
  | .permissive => "Permissive\n"
  | .disabled => "Disabled\n"

/-- A program that is looked for in `/usr/sbin` and in `/sbin`. -/
structure Tool where
  inUsrSbin : Bool
  inSbin : Bool
  /-- Running it succeeds. -/
  runs : Bool
  deriving DecidableEq

/-- The program is found. -/
def Tool.found (t : Tool) : Bool := t.inUsrSbin || t.inSbin

/-- The ways in which running `insmod` may end. -/
inductive InsmodResult
  | notExecutable (e : String)
  | success
  | failure (stderr : String)
  deriving DecidableEq

/-- What the code reads of the machine and how each command ends, for each driver. -/
structure Host where
  /-- The contents of `/proc/1/cgroup`. -/
  cgroup : Option String
  sbinModprobe : Bool
  binModprobe : Bool
  usrSbinModprobe : Bool
  getenforce : Tool
  setenforce : Tool
  /-- Reading `/proc/modules` succeeds. -/
  procModules : Bool
  /-- `modprobe uio` loads the module. -/
  modprobeUio : Bool
  /-- Reading the directory `/opt/osec`. -/
  readDir : Except String (List (Except String FileName))
  /-- The file exists in `/opt/osec`. -/
  present : FileName → Bool
  createDirAll : Except String Unit
  copyDriver : FileName → Except String Unit
  writeModulesOrder : Except String Unit
  writeModulesBuiltin : Except String Unit
  /-- Running `depmod` gives its exit status. -/
  depmod : Except String Bool
  /-- `modprobe osec_base` loads the driver. -/
  modprobe : FileName → Bool
  /-- `modprobe -d /opt/osec osec_base` loads the driver. -/
  modprobeDir : FileName → Bool
  /-- The copy of the driver is there when `insmod` is tried. -/
  koExists : FileName → Bool
  insmod : FileName → InsmodResult

/-- What a call changes. -/
structure World where
  selinux : SelinuxMode
  /-- The names of the loaded modules. -/
  modules : List String
  failed : Finset FileName
  deriving DecidableEq

/-- `is_running_in_container`. -/
def isRunningInContainer (h : Host) : Bool :=
  match h.cgroup with
  | some cgroup =>
    Text.contains "docker" cgroup || Text.contains "kubepods" cgroup ||
      Text.contains "containerd" cgroup
  | none => false

/-- `has_modprobe`. -/
def hasModprobe (h : Host) : Bool := h.sbinModprobe || h.binModprobe || h.usrSbinModprobe

/-- `eq_ignore_ascii_case`. -/
def eqIgnoreAsciiCase (a b : String) : Bool :=
  a.toList.map Char.toLower = b.toList.map Char.toLower

/-- Run `setenforce`, which does nothing where SELinux is disabled. -/
def setenforce (h : Host) (mode : SelinuxMode) (w : World) : World :=
  if h.setenforce.runs && w.selinux ≠ .disabled then { w with selinux := mode } else w

/-- `get_and_disable_selinux`. -/
def getAndDisableSelinux (h : Host) (w : World) : World × Option String :=
  if !h.getenforce.found then (w, none)
  else if !h.getenforce.runs then (w, none)
  else
    let enforceState := Text.trim w.selinux.text
    if eqIgnoreAsciiCase enforceState "Enforcing" then
      if !h.setenforce.found then (w, some enforceState)
      else (setenforce h .permissive w, some enforceState)
    else (w, some enforceState)

/-- `restore_selinux`. -/
def restoreSelinux (h : Host) (state : Option String) (w : World) : World :=
  match state with
  | none => w
  | some st =>
    if !eqIgnoreAsciiCase st "Enforcing" then w
    else if !h.setenforce.found then w
    else setenforce h .enforcing w

/-- `is_module_loaded`, where a line of `/proc/modules` is the name of a module, a blank and
more. -/
def isModuleLoaded (h : Host) (moduleName : String) (w : World) : Bool :=
  h.procModules && w.modules.any fun name => startsWith moduleName (name ++ " ")

/-- `is_driver_loaded`. -/
def isDriverLoaded (h : Host) (w : World) : Bool := isModuleLoaded h "osec_base " w

/-- A command that may have loaded a module. -/
def World.load (w : World) (moduleName : String) (loads : Bool) : World :=
  if loads then { w with modules := w.modules ++ [moduleName] } else w

/-- `setup_module_structure`; a failure of `depmod` is only logged. -/
def setupModuleStructure (h : Host) (srcPath : FileName) : Except String Unit := do
  h.createDirAll
  h.copyDriver srcPath
  h.writeModulesOrder
  h.writeModulesBuiltin
  let _status ← h.depmod

/-- `trim_start_matches`, which takes the start away as often as it is there. -/
def trimStartMatches (start : List Char) : ℕ → List Char → List Char
  | 0, cs => cs
  | fuel + 1, cs =>
    if start.isPrefixOf cs then trimStartMatches start fuel (cs.drop start.length) else cs

/-- The name of a driver that is returned. -/
def driverName : FileName → String
  | .utf8 name =>
    String.ofList (trimStartMatches driverPrefix.toList name.toList.length name.toList)
  | .other _ => ""

/-- The driver for exactly this kernel. -/
def exactDriver (kernelVersion : String) : FileName := .utf8 (driverPrefix ++ kernelVersion)

/-- The choice of the driver in `try_load_driver_with_cache`. -/
def chooseDriver (h : Host) (kernelVersion : String) (failed : Finset FileName) :
    Except String FileName :=
  if h.present (exactDriver kernelVersion) then .ok (exactDriver kernelVersion)
  else findBestDriverExcluding h.readDir kernelVersion failed

/-- The part of `try_load_driver_with_cache` after the set-up of the driver. -/
def loadDriver (h : Host) (kernelVersion : String) (originalSelinuxState : Option String)
    (driverPath : FileName) (w : World) : World × Except String String :=
  let w := w.load "osec_base" (h.modprobe driverPath)
  if isModuleLoaded h "osec_base" w then
    (restoreSelinux h originalSelinuxState w, .ok (driverName driverPath))
  else
    let w := w.load "osec_base" (h.modprobeDir driverPath)
    if isModuleLoaded h "osec_base" w then
      (restoreSelinux h originalSelinuxState w, .ok (driverName driverPath))
    else if !h.koExists driverPath then
      (restoreSelinux h originalSelinuxState w,
        .error ("osec_base.ko not found at /opt/osec/lib/modules/" ++ kernelVersion ++
          "/osec_base.ko"))
    else match h.insmod driverPath with
      | .notExecutable e => (w, .error e)
      | .success =>
        (restoreSelinux h originalSelinuxState (w.load "osec_base" true),
          .ok (driverName driverPath))
      | .failure stderr =>
        (restoreSelinux h originalSelinuxState { w with failed := insert driverPath w.failed },
          .error ("insmod 失败: " ++ stderr))

/-- The part of `try_load_driver_with_cache` from the choice of the driver on. -/
def loadChosen (h : Host) (kernelVersion : String) (originalSelinuxState : Option String)
    (w : World) : World × Except String String :=
  match chooseDriver h kernelVersion w.failed with
  | .error e => (w, .error e)
  | .ok driverPath =>
    match setupModuleStructure h driverPath with
    | .error e => (w, .error e)
    | .ok () => loadDriver h kernelVersion originalSelinuxState driverPath w

/-- `try_load_driver_with_cache`. -/
def tryLoadDriverWithCache (h : Host) (kernelVersion : String) (w : World) :
    World × Except String String :=
  if isRunningInContainer h then (w, .error "Kernel module loading disabled in container")
  else if !hasModprobe h then (w, .error "modprobe not found on system")
  else
    let selinux := getAndDisableSelinux h w
    let w := selinux.1.load "uio" (!isModuleLoaded h "uio" selinux.1 && h.modprobeUio)
    loadChosen h kernelVersion selinux.2 w

section Selinux

variable {h : Host} {kernelVersion : String} {w : World} {d : FileName}

/-- SELinux is switched off on the way to a driver. -/
def SwitchesOff (h : Host) (w : World) : Prop :=
  isRunningInContainer h = false ∧ hasModprobe h = true ∧ h.getenforce.found = true ∧
    h.getenforce.runs = true ∧ w.selinux = .enforcing

/-- The module is listed before or after `modprobe` is run. -/
def Listed (h : Host) (w : World) (d : FileName) : Prop :=
  h.procModules = true ∧
    ((∃ name ∈ w.modules, startsWith "osec_base" (name ++ " ") = true) ∨
      h.modprobe d = true ∨ h.modprobeDir d = true)

/-- `insmod` is reached and cannot be executed. -/
def InsmodMissing (h : Host) (w : World) (d : FileName) : Prop :=
  ¬Listed h w d ∧ h.koExists d = true ∧ ∃ e, h.insmod d = .notExecutable e

/-- An error is passed on with `?`: no driver is found, its set-up fails, or `insmod` cannot be
executed. -/
def PassesErrorOn (h : Host) (kernelVersion : String) (w : World) : Prop :=
  (∃ e, chooseDriver h kernelVersion w.failed = .error e) ∨
    ∃ d, chooseDriver h kernelVersion w.failed = .ok d ∧
      ((∃ e, setupModuleStructure h d = .error e) ∨
        setupModuleStructure h d = .ok () ∧ InsmodMissing h w d)

/-- Loading a module leaves SELinux as it is. -/
@[simp] theorem World.load_selinux (w : World) (moduleName : String) (loads : Bool) :
    (w.load moduleName loads).selinux = w.selinux := by
  cases loads <;> rfl

/-- Loading a module does not count as a failure. -/
@[simp] theorem World.load_failed (w : World) (moduleName : String) (loads : Bool) :
    (w.load moduleName loads).failed = w.failed := by
  cases loads <;> rfl

/-- The modules after a command. -/
theorem World.exists_mem_load {p : String → Prop} (w : World) (moduleName : String) (loads : Bool) :
    (∃ name ∈ (w.load moduleName loads).modules, p name) ↔
      (∃ name ∈ w.modules, p name) ∨ loads = true ∧ p moduleName := by
  cases loads <;> simp [World.load, or_and_right, exists_or]

/-- The lines that begin with the name of a module. -/
theorem isModuleLoaded_iff {moduleName : String} :
    isModuleLoaded h moduleName w = true ↔ h.procModules = true ∧
      ∃ name ∈ w.modules, startsWith moduleName (name ++ " ") = true := by
  simp [isModuleLoaded]

/-- Loading `uio` does not list the driver. -/
theorem listed_load_uio (loads : Bool) : Listed h (w.load "uio" loads) d ↔ Listed h w d := by
  have huio : ¬startsWith "osec_base" ("uio" ++ " ") = true := by decide
  simp only [Listed, World.exists_mem_load, huio, Bool.false_eq_true, and_false, or_false]

/-- The module is listed after `modprobe` has been run once or twice. -/
theorem listed_iff :
    Listed h w d ↔
      isModuleLoaded h "osec_base" (w.load "osec_base" (h.modprobe d)) = true ∨
      isModuleLoaded h "osec_base" ((w.load "osec_base" (h.modprobe d)).load "osec_base"
        (h.modprobeDir d)) = true := by
  have hname : startsWith "osec_base" ("osec_base" ++ " ") = true := by decide
  simp only [isModuleLoaded_iff, World.exists_mem_load, hname, and_true, Listed]
  constructor
  · rintro ⟨hproc, hlisted⟩
    exact .inr ⟨hproc, or_assoc.mpr hlisted⟩
  · rintro (⟨hproc, hlisted⟩ | ⟨hproc, hlisted⟩)
    · exact ⟨hproc, or_assoc.mp (.inl hlisted)⟩
    · exact ⟨hproc, or_assoc.mp hlisted⟩

/-- After the set-up SELinux is restored unless `insmod` is missing. -/
theorem loadDriver_selinux (originalSelinuxState : Option String) :
    ∃ w' : World, w'.selinux = w.selinux ∧
      (¬InsmodMissing h w d ∧ (loadDriver h kernelVersion originalSelinuxState d w).1 =
          restoreSelinux h originalSelinuxState w' ∨
        InsmodMissing h w d ∧ (loadDriver h kernelVersion originalSelinuxState d w).1 = w') := by
  unfold loadDriver
  extract_lets w₁ w₂
  by_cases hfirst : isModuleLoaded h "osec_base" w₁ = true
  · have hlisted : Listed h w d := listed_iff.mpr (.inl hfirst)
    rw [if_pos hfirst]
    exact ⟨w₁, w.load_selinux _ _, .inl ⟨fun hmissing => hmissing.1 hlisted, rfl⟩⟩
  · rw [if_neg hfirst]
    by_cases hsecond : isModuleLoaded h "osec_base" w₂ = true
    · have hlisted : Listed h w d := listed_iff.mpr (.inr hsecond)
      rw [if_pos hsecond]
      exact ⟨w₂, by simp [w₂, w₁], .inl ⟨fun hmissing => hmissing.1 hlisted, rfl⟩⟩
    · have hlisted : ¬Listed h w d := fun hl => (listed_iff.mp hl).elim hfirst hsecond
      rw [if_neg hsecond]
      cases hko : h.koExists d with
      | false =>
        refine ⟨w₂, by simp [w₂, w₁], .inl ⟨fun hmissing => ?_, rfl⟩⟩
        exact Bool.false_ne_true (hko.symm.trans hmissing.2.1)
      | true =>
        rw [Bool.not_true, if_neg Bool.false_ne_true]
        cases hinsmod : h.insmod d with
        | notExecutable e =>
          exact ⟨w₂, by simp [w₂, w₁], .inr ⟨⟨hlisted, hko, e, hinsmod⟩, rfl⟩⟩
        | success =>
          refine ⟨w₂.load "osec_base" true, by simp [w₂, w₁], .inl ⟨?_, rfl⟩⟩
          rintro ⟨-, -, e, he⟩
          rw [hinsmod] at he
          cases he
        | failure stderr =>
          refine ⟨{ w₂ with failed := insert d w₂.failed }, by simp [w₂, w₁], .inl ⟨?_, rfl⟩⟩
          rintro ⟨-, -, e, he⟩
          rw [hinsmod] at he
          cases he

/-- Before the choice SELinux is switched to permissive, or nothing is done then and later. -/
theorem getAndDisableSelinux_cases (hfound : h.setenforce.found = true)
    (hruns : h.setenforce.runs = true) :
    (h.getenforce.found = true ∧ h.getenforce.runs = true ∧ w.selinux = .enforcing) ∧
        getAndDisableSelinux h w = ({ w with selinux := .permissive }, some "Enforcing") ∨
      ¬(h.getenforce.found = true ∧ h.getenforce.runs = true ∧ w.selinux = .enforcing) ∧
        (getAndDisableSelinux h w).1 = w ∧
        ∀ w', restoreSelinux h (getAndDisableSelinux h w).2 w' = w' := by
  unfold getAndDisableSelinux
  cases hget : h.getenforce.found with
  | false => exact .inr ⟨by simp, rfl, fun _ => rfl⟩
  | true =>
    cases hgetRuns : h.getenforce.runs with
    | false => exact .inr ⟨by simp, rfl, fun _ => rfl⟩
    | true =>
      cases hmode : w.selinux with
      | enforcing =>
        have htext : Text.trim SelinuxMode.enforcing.text = "Enforcing" := by decide
        refine .inl ⟨⟨rfl, rfl, rfl⟩, ?_⟩
        have hcase : eqIgnoreAsciiCase "Enforcing" "Enforcing" = true := by decide
        simp [htext, hcase, hfound, setenforce, hruns, hmode]
      | permissive =>
        have hcase :
            eqIgnoreAsciiCase (Text.trim SelinuxMode.permissive.text) "Enforcing" = false := by
          decide
        exact .inr ⟨by simp, by simp [hcase], by simp [hcase, restoreSelinux]⟩
      | disabled =>
        have hcase :
            eqIgnoreAsciiCase (Text.trim SelinuxMode.disabled.text) "Enforcing" = false := by
          decide
        exact .inr ⟨by simp, by simp [hcase], by simp [hcase, restoreSelinux]⟩

/-- From the choice of the driver on SELinux is restored unless an error is passed on. -/
theorem loadChosen_selinux (originalSelinuxState : Option String) :
    ∃ w' : World, w'.selinux = w.selinux ∧
      (¬PassesErrorOn h kernelVersion w ∧ (loadChosen h kernelVersion originalSelinuxState w).1 =
          restoreSelinux h originalSelinuxState w' ∨
        PassesErrorOn h kernelVersion w ∧
          (loadChosen h kernelVersion originalSelinuxState w).1 = w') := by
  unfold loadChosen PassesErrorOn
  cases hchoose : chooseDriver h kernelVersion w.failed with
  | error e => exact ⟨w, rfl, .inr ⟨.inl ⟨e, rfl⟩, rfl⟩⟩
  | ok d =>
    cases hsetup : setupModuleStructure h d with
    | error e => exact ⟨w, rfl, .inr ⟨.inr ⟨d, rfl, .inl ⟨e, hsetup⟩⟩, by simp [hsetup]⟩⟩
    | ok _ =>
      obtain ⟨w', hw', hload⟩ := @loadDriver_selinux h kernelVersion w d originalSelinuxState
      refine ⟨w', hw', ?_⟩
      simpa [hsetup] using hload

/-- SELinux is switched back on. -/
theorem restoreSelinux_enforcing (hfound : h.setenforce.found = true)
    (hruns : h.setenforce.runs = true) (hw : w.selinux ≠ .disabled) :
    (restoreSelinux h (some "Enforcing") w).selinux = .enforcing := by
  have hcase : eqIgnoreAsciiCase "Enforcing" "Enforcing" = true := by decide
  simp [restoreSelinux, hcase, hfound, setenforce, hruns, hw]

/-- Loading `uio` does not matter for the errors that are passed on. -/
theorem passesErrorOn_load_uio (loads : Bool) :
    PassesErrorOn h kernelVersion (w.load "uio" loads) ↔ PassesErrorOn h kernelVersion w := by
  simp only [PassesErrorOn, InsmodMissing, World.load_failed, listed_load_uio]

/-- `try_load_driver_with_cache` leaves SELinux as it was, just if it does not switch it off or
does not pass an error on. -/
theorem selinux_restored_iff (hfound : h.setenforce.found = true)
    (hruns : h.setenforce.runs = true) :
    (tryLoadDriverWithCache h kernelVersion w).1.selinux = w.selinux ↔
      ¬(SwitchesOff h w ∧ PassesErrorOn h kernelVersion w) := by
  cases hcontainer : isRunningInContainer h with
  | true => simp [tryLoadDriverWithCache, SwitchesOff, hcontainer]
  | false =>
    cases hmodprobe : hasModprobe h with
    | false => simp [tryLoadDriverWithCache, SwitchesOff, hcontainer, hmodprobe]
    | true =>
      rw [tryLoadDriverWithCache, hcontainer, hmodprobe, if_neg Bool.false_ne_true,
        Bool.not_true, if_neg Bool.false_ne_true]
      extract_lets selinux w₁
      obtain ⟨w', hw', hload⟩ := @loadChosen_selinux h kernelVersion w₁ selinux.2
      have hpasses : PassesErrorOn h kernelVersion w₁ ↔ PassesErrorOn h kernelVersion selinux.1 :=
        passesErrorOn_load_uio _
      have hmode : w'.selinux = selinux.1.selinux := hw'.trans (World.load_selinux _ _ _)
      rw [hpasses] at hload
      obtain ⟨hoff, hget⟩ | ⟨hon, hget, hrestore⟩ :=
        @getAndDisableSelinux_cases h w hfound hruns
      · have hswitches : SwitchesOff h w := ⟨hcontainer, hmodprobe, hoff⟩
        have hsame : PassesErrorOn h kernelVersion selinux.1 ↔ PassesErrorOn h kernelVersion w := by
          simp only [selinux, hget]
          exact Iff.rfl
        have hpermissive : w'.selinux = .permissive := by
          rw [hmode]
          simp only [selinux, hget]
        have hstate : selinux.2 = some "Enforcing" := by simp only [selinux, hget]
        rw [hsame] at hload
        rw [hoff.2.2, and_iff_right hswitches]
        obtain ⟨hpass, hworld⟩ | ⟨hpass, hworld⟩ := hload
        · rw [hworld, hstate]
          exact iff_of_true (restoreSelinux_enforcing hfound hruns (by simp [hpermissive])) hpass
        · rw [hworld, hpermissive]
          exact iff_of_false SelinuxMode.noConfusion (not_not.mpr hpass)
      · have hsame : selinux.1.selinux = w.selinux := congrArg World.selinux hget
        refine iff_of_true ?_ fun hoff => hon hoff.1.2.2
        obtain ⟨-, hworld⟩ | ⟨-, hworld⟩ := hload
        · rw [hworld, hrestore, hmode, hsame]
        · rw [hworld, hmode, hsame]

end Selinux

/-- A machine that enforces SELinux, on which only reading `/opt/osec` and `insmod` vary. -/
def enforcingHost (files : List FileName) (insmod : InsmodResult) : Host where
  cgroup := some "0::/init.scope"
  sbinModprobe := true
  binModprobe := false
  usrSbinModprobe := true
  getenforce := ⟨true, true, true⟩
  setenforce := ⟨true, true, true⟩
  procModules := true
  modprobeUio := true
  readDir := .ok (files.map .ok)
  present f := f ∈ files
  createDirAll := .ok ()
  copyDriver _ := .ok ()
  writeModulesOrder := .ok ()
  writeModulesBuiltin := .ok ()
  depmod := .ok true
  modprobe _ := false
  modprobeDir _ := false
  koExists _ := true
  insmod _ := insmod

/-- A world in which SELinux enforces and no module is loaded. -/
def enforcingWorld : World := ⟨.enforcing, [], ∅⟩

/-- SELinux is enforcing again after a module was refused. -/
theorem selinux_restored_after_failure :
    (tryLoadDriverWithCache (enforcingHost [exactDriver "5.4.0"] (.failure "Invalid format"))
      "5.4.0" enforcingWorld).1.selinux = .enforcing := by
  refine (selinux_restored_iff rfl rfl).mpr ?_
  rintro ⟨-, ⟨e, he⟩ | ⟨d, -, ⟨e, he⟩ | ⟨-, -, -, e, he⟩⟩⟩
  · rw [chooseDriver, if_pos (by decide)] at he
    cases he
  · cases he
  · cases he

/-- Without a driver SELinux stays permissive. -/
theorem selinux_left_permissive :
    (tryLoadDriverWithCache (enforcingHost [] .success) "5.4.0" enforcingWorld).1.selinux ≠
      enforcingWorld.selinux := by
  decide

end LinuxAgent.KernelModule
