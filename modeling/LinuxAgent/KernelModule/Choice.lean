import LinuxAgent.Lib.FirstMin
import LinuxAgent.Lib.Text
import Mathlib.Data.Finset.Insert
import Mathlib.Data.List.Perm.Basic

/-!
# The choice of a driver

The drivers are the files `osec_base.ko-w` in `/opt/osec`, where `w` is the kernel version
that they are built for. `find_best_driver_excluding` takes those whose version starts
with the base version of the running kernel and picks one that is closest to it. A version
may start so and still have another base: `5.4.10` starts with `5.4.1`.
-/

namespace LinuxAgent.KernelModule

/-- The name of a file in `/opt/osec`, which stands for its path. -/
inductive FileName
  | utf8 (name : String)
  /-- A name that is not UTF-8. -/
  | other (bytes : List UInt8)
  deriving DecidableEq

/-- `str::starts_with`. -/
def startsWith (start s : String) : Bool := start.toList.isPrefixOf s.toList

/-- What every driver's name begins with. -/
def driverPrefix : String := "osec_base.ko-"

/-- The version in the name of a driver. -/
def FileName.version : FileName → Option String
  | .utf8 name =>
    if startsWith driverPrefix name then
      some (String.ofList (name.toList.drop driverPrefix.toList.length))
    else none
  | .other _ => none

/-- `extract_kernel_prefix`. -/
def extractKernelPrefix (version : String) : Option String := (Text.split '-' version).head?

/-- A row of the table of edit distances: those of `x :: xs` from those of `xs`. -/
def editRow (x : Char) (below : List Char → ℕ) (length : ℕ) : List Char → ℕ
  | [] => length + 1
  | y :: ys =>
    min (min (below (y :: ys) + 1) (editRow x below length ys + 1))
      (below ys + if x = y then 0 else 1)

/-- The number of characters to insert, delete or replace to get from one text to the other. -/
def editDistance : List Char → List Char → ℕ
  | [] => List.length
  | x :: xs => editRow x (editDistance xs) xs.length

/-- `levenshtein`. -/
def levenshtein (a b : String) : ℕ := editDistance a.toList b.toList

/-- The loop of `find_best_driver_excluding`, with the best driver so far and its score. -/
def findBestLoop (kernelVersion kernelPrefix : String) (failed : Finset FileName) :
    Option (FileName × ℕ) → List (Except String FileName) →
    Except String (Option (FileName × ℕ))
  | best, [] => .ok best
  | _, .error e :: _ => .error e
  | best, .ok path :: entries =>
    if path ∈ failed then findBestLoop kernelVersion kernelPrefix failed best entries
    else match path.version with
      | some suffix =>
        if !startsWith kernelPrefix suffix then
          findBestLoop kernelVersion kernelPrefix failed best entries
        else
          let score := if suffix = kernelVersion then 0 else levenshtein suffix kernelVersion
          if best.all (fun b => score < b.2) then
            if score = 0 then .ok (some (path, score))
            else findBestLoop kernelVersion kernelPrefix failed (some (path, score)) entries
          else findBestLoop kernelVersion kernelPrefix failed best entries
      | none => findBestLoop kernelVersion kernelPrefix failed best entries

/-- `find_best_driver_excluding`, from what reading `/opt/osec` gives. -/
def findBestDriverExcluding (readDir : Except String (List (Except String FileName)))
    (kernelVersion : String) (failed : Finset FileName) : Except String FileName := do
  let entries ← readDir
  let kernelPrefix ← match extractKernelPrefix kernelVersion with
    | some kernelPrefix => .ok kernelPrefix
    | none => .error "Failed to extract kernel major version"
  match ← findBestLoop kernelVersion kernelPrefix failed none entries with
  | some best => .ok best.1
  | none => .error "No matching driver found"

/-- The text before the first hyphen. -/
def baseVersion (version : String) : String :=
  String.ofList (version.toList.takeWhile (· ≠ '-'))

/-- The file is a driver that the code takes for compatible. -/
def Compatible (kernelVersion : String) (f : FileName) : Prop :=
  ∃ w, f.version = some w ∧ startsWith (baseVersion kernelVersion) w = true

/-- The file is a driver for a kernel with the base version of the running one. -/
def SameBase (kernelVersion : String) (f : FileName) : Prop :=
  ∃ w, f.version = some w ∧ baseVersion w = baseVersion kernelVersion

/-- A decidable form of `Compatible`. -/
theorem any_version_iff_compatible {kernelVersion : String} {f : FileName} :
    f.version.any (startsWith (baseVersion kernelVersion)) = true ↔
      Compatible kernelVersion f := by
  cases h : f.version <;> simp [Compatible, h]

/-- A decidable form of `SameBase`. -/
theorem any_version_iff_sameBase {kernelVersion : String} {f : FileName} :
    f.version.any (fun w => baseVersion w = baseVersion kernelVersion) = true ↔
      SameBase kernelVersion f := by
  cases h : f.version <;> simp [SameBase, h]

instance (kernelVersion : String) (f : FileName) : Decidable (Compatible kernelVersion f) :=
  decidable_of_iff _ any_version_iff_compatible

instance (kernelVersion : String) (f : FileName) : Decidable (SameBase kernelVersion f) :=
  decidable_of_iff _ any_version_iff_sameBase

/-- The distance of a driver from the running kernel. -/
def distance (kernelVersion : String) (f : FileName) : ℕ :=
  match f.version with
  | some w => levenshtein w kernelVersion
  | none => 0

/-- `extract_kernel_prefix` always gives the base version. -/
theorem extractKernelPrefix_eq (version : String) :
    extractKernelPrefix version = some (baseVersion version) := Text.head?_split '-' version

/-- A driver for the same base version is taken for compatible. -/
theorem SameBase.compatible {kernelVersion : String} {f : FileName}
    (h : SameBase kernelVersion f) : Compatible kernelVersion f := by
  obtain ⟨w, hw, hbase⟩ := h
  refine ⟨w, hw, List.isPrefixOf_iff_prefix.mpr ?_⟩
  rw [← hbase, baseVersion, String.toList_ofList]
  exact List.takeWhile_prefix _

/-- A text is at distance zero from itself. -/
theorem editDistance_self (cs : List Char) : editDistance cs cs = 0 := by
  induction cs with
  | nil => rfl
  | cons c cs ih => simp [editDistance, editRow, ih]

/-- The score of the loop is the distance. -/
theorem score_eq_distance {kernelVersion w : String} {f : FileName} (hw : f.version = some w) :
    (if w = kernelVersion then 0 else levenshtein w kernelVersion) = distance kernelVersion f := by
  rw [distance, hw]
  split
  · rename_i h
    rw [h]
    exact (editDistance_self _).symm
  · rfl

section Search

variable (kernelVersion : String) (failed : Finset FileName)

/-- The drivers among which the search chooses. -/
def eligible (files : List FileName) : List FileName :=
  files.filter fun f => f ∉ failed ∧ Compatible kernelVersion f

variable {kernelVersion failed}

/-- What makes a file eligible. -/
theorem mem_eligible {files : List FileName} {f : FileName} :
    f ∈ eligible kernelVersion failed files ↔
      f ∈ files ∧ f ∉ failed ∧ Compatible kernelVersion f := by
  rw [eligible, List.mem_filter, decide_eq_true_eq]

/-- An eligible file comes first. -/
theorem eligible_cons_of {f : FileName} (hfailed : f ∉ failed)
    (hcompatible : Compatible kernelVersion f) (files : List FileName) :
    eligible kernelVersion failed (f :: files) = f :: eligible kernelVersion failed files :=
  List.filter_cons_of_pos (decide_eq_true ⟨hfailed, hcompatible⟩)

/-- Another file is left out. -/
theorem eligible_cons_of_not {f : FileName} (h : ¬(f ∉ failed ∧ Compatible kernelVersion f))
    (files : List FileName) :
    eligible kernelVersion failed (f :: files) = eligible kernelVersion failed files :=
  List.filter_cons_of_neg fun hf => h (of_decide_eq_true hf)

/-- The loop scans the eligible drivers for the one that is closest. -/
theorem findBestLoop_eq (best : Option (FileName × ℕ)) (files : List FileName) :
    findBestLoop kernelVersion (baseVersion kernelVersion) failed best (files.map .ok) =
      .ok (FirstMin.scan (distance kernelVersion) best (eligible kernelVersion failed files)) := by
  induction files generalizing best with
  | nil => rfl
  | cons f files ih =>
    rw [List.map_cons, findBestLoop]
    by_cases hfailed : f ∈ failed
    · rw [if_pos hfailed, ih, eligible_cons_of_not fun h => h.1 hfailed]
    · rw [if_neg hfailed]
      cases hw : f.version with
      | none =>
        have hnot : ¬Compatible kernelVersion f := by simp [Compatible, hw]
        rw [eligible_cons_of_not fun h => hnot h.2]
        exact ih best
      | some w =>
        cases hstart : startsWith (baseVersion kernelVersion) w with
        | false =>
          have hnot : ¬Compatible kernelVersion f := by simp [Compatible, hw, hstart]
          rw [eligible_cons_of_not fun h => hnot h.2]
          simp only [hstart, Bool.not_false, if_true]
          exact ih best
        | true =>
          rw [eligible_cons_of hfailed ⟨w, hw, hstart⟩, FirstMin.scan]
          simp only [hstart, Bool.not_true, Bool.false_eq_true, if_false, score_eq_distance hw, ih]
          split
          · split
            · rename_i hzero
              rw [hzero]
            · rfl
          · rfl

/-- The search fails where there is no eligible driver, and chooses the first of the closest
ones otherwise. -/
theorem findBestDriverExcluding_eq (files : List FileName) :
    findBestDriverExcluding (.ok (files.map .ok)) kernelVersion failed =
      match FirstMin.scan (distance kernelVersion) none (eligible kernelVersion failed files) with
      | some best => .ok best.1
      | none => .error "No matching driver found" := by
  simp only [findBestDriverExcluding, extractKernelPrefix_eq, findBestLoop_eq, bind, Except.bind]

/-- The search fails just if there is no eligible driver. -/
theorem findBestDriverExcluding_error_iff {files : List FileName} :
    (∃ e, findBestDriverExcluding (.ok (files.map .ok)) kernelVersion failed = .error e) ↔
      eligible kernelVersion failed files = [] := by
  rw [findBestDriverExcluding_eq]
  by_cases hnil : eligible kernelVersion failed files = []
  · simp [hnil, FirstMin.scan]
  · obtain ⟨m, hscan, -⟩ := @FirstMin.exists_scan _ (distance kernelVersion) _ hnil
    simp [hnil, hscan]

/-- The driver that the search chooses. -/
theorem isFirstMin_of_findBestDriverExcluding {files : List FileName} {p : FileName}
    (h : findBestDriverExcluding (.ok (files.map .ok)) kernelVersion failed = .ok p) :
    FirstMin.IsFirstMin (distance kernelVersion) (eligible kernelVersion failed files) p := by
  rw [findBestDriverExcluding_eq] at h
  by_cases hnil : eligible kernelVersion failed files = []
  · simp [hnil, FirstMin.scan] at h
  · obtain ⟨m, hscan, hmin⟩ := @FirstMin.exists_scan _ (distance kernelVersion) _ hnil
    rw [hscan] at h
    obtain rfl := Except.ok.inj h
    exact hmin

end Search

/-- The search fails just if no driver for the same base version is left, and otherwise finds
one of those that are closest to the running kernel. -/
def BestChoice (kernelVersion : String) (failed : Finset FileName) (files : List FileName) :
    Prop :=
  ((∃ e, findBestDriverExcluding (.ok (files.map .ok)) kernelVersion failed = .error e) ↔
    ∀ f ∈ files, f ∉ failed → ¬SameBase kernelVersion f) ∧
  ∀ p, findBestDriverExcluding (.ok (files.map .ok)) kernelVersion failed = .ok p →
    (p ∈ files ∧ p ∉ failed ∧ SameBase kernelVersion p) ∧
      ∀ q ∈ files, q ∉ failed → SameBase kernelVersion q →
        distance kernelVersion p ≤ distance kernelVersion q

/-- Every driver that is left and only starts with the base version is farther from the running
kernel than one for the same base version. -/
def StrangersFarther (kernelVersion : String) (failed : Finset FileName) (files : List FileName) :
    Prop :=
  ∀ f ∈ files, f ∉ failed → Compatible kernelVersion f → ¬SameBase kernelVersion f →
    ∃ g ∈ files, g ∉ failed ∧ SameBase kernelVersion g ∧
      distance kernelVersion g < distance kernelVersion f

section Best

variable {kernelVersion : String} {failed : Finset FileName} {files : List FileName}

/-- The condition does not depend on the order of the entries. -/
theorem StrangersFarther.perm {l : List FileName}
    (h : StrangersFarther kernelVersion failed files) (hl : l.Perm files) :
    StrangersFarther kernelVersion failed l := by
  intro f hf hfailed hcompatible hbase
  obtain ⟨g, hg, hrest⟩ := h f (hl.mem_iff.mp hf) hfailed hcompatible hbase
  exact ⟨g, hl.mem_iff.mpr hg, hrest⟩

/-- Where strangers are farther, the best choice is made. -/
theorem StrangersFarther.bestChoice (h : StrangersFarther kernelVersion failed files) :
    BestChoice kernelVersion failed files := by
  constructor
  · rw [findBestDriverExcluding_error_iff, List.eq_nil_iff_forall_not_mem]
    constructor
    · intro hnone f hf hfailed hbase
      exact hnone f (mem_eligible.mpr ⟨hf, hfailed, hbase.compatible⟩)
    · intro hnone f hf
      obtain ⟨hmem, hfailed, hcompatible⟩ := mem_eligible.mp hf
      obtain ⟨g, hg, hgfailed, hbase, -⟩ := h f hmem hfailed hcompatible (hnone f hmem hfailed)
      exact hnone g hg hgfailed hbase
  · intro p hp
    have hmin := isFirstMin_of_findBestDriverExcluding hp
    obtain ⟨hmem, hfailed, hcompatible⟩ := mem_eligible.mp hmin.mem
    have hle : ∀ q ∈ files, q ∉ failed → SameBase kernelVersion q →
        distance kernelVersion p ≤ distance kernelVersion q := fun q hq hqfailed hbase =>
      hmin.le (mem_eligible.mpr ⟨hq, hqfailed, hbase.compatible⟩)
    refine ⟨⟨hmem, hfailed, ?_⟩, hle⟩
    by_contra hstranger
    obtain ⟨g, hg, hgfailed, hbase, hlt⟩ := h p hmem hfailed hcompatible hstranger
    have := hle g hg hgfailed hbase
    omega

/-- A stranger that is read first and is not farther than the others is chosen. -/
theorem not_bestChoice_cons {f : FileName} (hfailed : f ∉ failed)
    (hcompatible : Compatible kernelVersion f) (hstranger : ¬SameBase kernelVersion f)
    (hclose : ∀ g ∈ files, g ∉ failed → SameBase kernelVersion g →
      distance kernelVersion f ≤ distance kernelVersion g) :
    ¬BestChoice kernelVersion failed (f :: files) := by
  rintro ⟨herror, hchoice⟩
  have hne : eligible kernelVersion failed (f :: files) ≠ [] := by
    rw [eligible_cons_of hfailed hcompatible]
    exact List.cons_ne_nil _ _
  cases hfind : findBestDriverExcluding (.ok ((f :: files).map .ok)) kernelVersion failed with
  | error e => exact hne (findBestDriverExcluding_error_iff.mp ⟨e, hfind⟩)
  | ok p =>
    obtain ⟨⟨hmem, hpfailed, hbase⟩, -⟩ := hchoice p hfind
    have hmin := isFirstMin_of_findBestDriverExcluding hfind
    rw [eligible_cons_of hfailed hcompatible] at hmin
    obtain rfl | hmem := List.mem_cons.mp hmem
    · exact hstranger hbase
    · have hp := hmin.eq_of_le (hclose p hmem hpfailed hbase)
      exact hstranger (hp ▸ hbase)

/-- Whatever the order of the entries, the best choice is made, just if every driver that only
starts with the base version is farther than one for the same base version. -/
theorem bestChoice_iff (kernelVersion : String) (failed : Finset FileName)
    (files : List FileName) :
    (∀ l : List FileName, l.Perm files → BestChoice kernelVersion failed l) ↔
      StrangersFarther kernelVersion failed files := by
  refine ⟨fun h f hf hfailed hcompatible hstranger => ?_, fun h l hl => (h.perm hl).bestChoice⟩
  by_contra hnone
  push Not at hnone
  obtain ⟨before, after, rfl⟩ := List.append_of_mem hf
  have hperm : (f :: (before ++ after)).Perm (before ++ f :: after) := List.perm_middle.symm
  refine not_bestChoice_cons hfailed hcompatible hstranger (fun g hg hgfailed hbase => ?_)
    (h _ hperm)
  exact hnone g (hperm.mem_iff.mp (List.mem_cons_of_mem _ hg)) hgfailed hbase

/-- A driver for 5.4.10 is chosen for kernel 5.4.1. -/
theorem other_base_version_chosen :
    ¬BestChoice "5.4.1-generic" ∅ [.utf8 "osec_base.ko-5.4.10-generic"] := by
  refine not_bestChoice_cons (by decide) (by decide) (by decide) ?_
  intro g hg
  exact absurd hg List.not_mem_nil

end Best

end LinuxAgent.KernelModule
