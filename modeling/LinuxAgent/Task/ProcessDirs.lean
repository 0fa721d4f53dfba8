import LinuxAgent.Lib.Batches
import LinuxAgent.ProcessMgr.Md5Cache
import Mathlib.Data.List.Nodup

/-!
# The upload of the system files

The files in five directories are hashed and posted in batches. A directory or an entry that cannot
be read, and a file that cannot be hashed, ends the task at once, and the entries that were
collected and not yet posted are lost together with those that come after them. A file that was
last modified before 1970 ends it with a panic.
-/

namespace LinuxAgent.Task.ProcessDirs

open ProcessMgr

/-- `LinuxDirProc`. -/
structure LinuxDirProc where
  dir : String
  hash : String
  introduce : String
  copyright : String
  deriving DecidableEq

/-- `DIRS`. -/
def dirs : List String :=
  ["/bin/", "/usr/bin/", "/usr/sbin/", "/usr/local/bin/", "/usr/lib/systemd/"]

/-- What is found at a path, if links are followed. -/
inductive FileType
  | regular
  | directory
  | other
  | missing
  deriving DecidableEq

/-- An entry of a directory: its path if it is UTF-8, if it is a link, what is found there, and what
hashing it finds. -/
structure Entry where
  path : Option String
  symlink : Bool
  target : FileType
  probe : Probe

/-- What comes of `read_dir`, with an error for each entry that cannot be read. -/
abbrev Listing : Type := Except String (List (Except String Entry))

/-- Why the task ends. -/
inductive ProcessError
  /-- `打开目录失败` with the directory -/
  | openDir (path error : String)
  /-- `读取目录项失败` -/
  | readEntry (error : String)
  /-- `计算 MD5 失败` -/
  | md5 (error : Md5Error)
  /-- `get_md5` has panicked. -/
  | panicked

/-- How the task ends if there is no hash. -/
def ProcessError.ofMd5 : Md5Failure → ProcessError
  | .err e => .md5 e
  | .panicked => .panicked

/-- The paths of the entries that can be read, if they are UTF-8. -/
def Listing.paths (listing : Listing) : List String :=
  match listing with
  | .error _ => []
  | .ok entries => entries.flatMap fun entry => (entry.toOption.bind Entry.path).toList

/-- The directories of a host. No path is listed twice. -/
structure Host where
  readDir : String → Listing
  unique : (dirs.flatMap fun path => (readDir path).paths).Nodup

/-- The batches so far, and the cache of the hashes. -/
structure Upload where
  batches : Batches.State LinuxDirProc
  cache : String → Option CacheEntry

section Process

variable (md5 : List UInt8 → String)

/-- The item for a file. -/
def item (path hash : String) : LinuxDirProc := ⟨path, hash, "linux", "linux_gnu"⟩

/-- The loop over the entries of a directory. -/
def processEntries : List (Except String Entry) → Upload → Upload × Except ProcessError Unit
  | [], u => (u, .ok ())
  | .error e :: _, u => (u, .error (.readEntry e))
  | .ok entry :: rest, u =>
    if entry.target = .directory || entry.symlink then processEntries rest u
    else
      match entry.path with
      | none => processEntries rest u
      | some path =>
        match getMd5 md5 entry.probe path u.cache with
        | (.error e, cache) => ({ u with cache := cache }, .error (.ofMd5 e))
        | (.ok hash, cache) =>
          processEntries rest ⟨u.batches.push 200 (item path hash), cache⟩

/-- The loop over the directories. -/
def processDirs (host : Host) : List String → Upload → Upload × Except ProcessError Unit
  | [], u => (u, .ok ())
  | path :: rest, u =>
    match host.readDir path with
    | .error e => (u, .error (.openDir path e))
    | .ok entries =>
      match processEntries md5 entries u with
      | (u, .error e) => (u, .error e)
      | (u, .ok ()) => processDirs host rest u

/-- `process_all_dirs`: the batches that are posted, and its result. -/
def processAllDirs (host : Host) (cache : String → Option CacheEntry) :
    List (List LinuxDirProc) × Except ProcessError Unit :=
  match processDirs md5 host dirs ⟨Batches.empty, cache⟩ with
  | (u, .error e) => (u.batches.posted, .error e)
  | (u, .ok ()) =>
    (if u.batches.pending = [] then u.batches.posted
      else u.batches.posted ++ [u.batches.pending], .ok ())

end Process

/-- A regular file that is no link, has a name in UTF-8 and can be read. -/
def Entry.Eligible (entry : Entry) : Prop :=
  entry.target = .regular ∧ entry.symlink = false ∧ entry.path.isSome = true ∧
    entry.probe.metadata.isSome = true ∧ entry.probe.content.isSome = true

instance Entry.Eligible.decidable (entry : Entry) : Decidable entry.Eligible :=
  inferInstanceAs (Decidable (_ ∧ _))

/-- The path of an entry that is to be posted. -/
def Entry.wanted (entry : Entry) : Option String :=
  if entry.Eligible then entry.path else none

/-- The steps of the two loops: an entry, or an error. -/
abbrev Event : Type := Except ProcessError Entry

/-- The steps in a directory. -/
def events (host : Host) (path : String) : List Event :=
  match host.readDir path with
  | .error e => [.error (.openDir path e)]
  | .ok entries => entries.map fun entry => entry.mapError .readEntry

/-- The steps of the task on a host. -/
def steps (host : Host) : List Event := dirs.flatMap (events host)

/-- The path of a step if it is an eligible entry. -/
def stepWanted (step : Event) : Option String := step.toOption.bind Entry.wanted

/-- The paths of the eligible entries, in their order. -/
def wanted (steps : List Event) : List String := steps.flatMap fun step => (stepWanted step).toList

/-- Every eligible file of the directories that can be read is posted, in the order of the
directories and once, in batches of one to 200 entries. -/
structure Complete (host : Host) (posted : List (List LinuxDirProc)) : Prop where
  order : (wanted (steps host)).Sublist (posted.flatten.map LinuxDirProc.dir)
  once : (posted.flatten.map LinuxDirProc.dir).Nodup
  size : ∀ batch ∈ posted, 0 < batch.length ∧ batch.length ≤ 200

/-- What comes of a step. -/
inductive Visit
  | skip
  | stop (error : ProcessError) (cache : String → Option CacheEntry)
  | take (taken : LinuxDirProc × Entry) (cache : String → Option CacheEntry)

/-- What the steps come to: the items with their entries, the step that ends the task and those
behind it, the result and the cache. -/
structure Collected where
  taken : List (LinuxDirProc × Entry)
  left : List Event
  result : Except ProcessError Unit
  cache : String → Option CacheEntry

section Collect

variable (md5 : List UInt8 → String)

/-- One step. -/
def visit (cache : String → Option CacheEntry) : Event → Visit
  | .error e => .stop e cache
  | .ok entry =>
    if entry.target = .directory || entry.symlink then .skip
    else
      match entry.path with
      | none => .skip
      | some path =>
        match getMd5 md5 entry.probe path cache with
        | (.error e, cache) => .stop (.ofMd5 e) cache
        | (.ok hash, cache) => .take (item path hash, entry) cache

/-- The steps one after the other. -/
def collect : List Event → (String → Option CacheEntry) → Collected
  | [], cache => ⟨[], [], .ok (), cache⟩
  | step :: rest, cache =>
    match visit md5 cache step with
    | .skip => collect rest cache
    | .stop e cache => ⟨[], step :: rest, .error e, cache⟩
    | .take taken cache =>
      { collect rest cache with taken := taken :: (collect rest cache).taken }

variable {md5} {cache : String → Option CacheEntry}

/-- Steps without an error, and those behind them. -/
theorem collect_append_of_ok {steps : List Event} (others : List Event)
    (h : (collect md5 steps cache).result = .ok ()) :
    collect md5 (steps ++ others) cache =
      { collect md5 others (collect md5 steps cache).cache with
        taken := (collect md5 steps cache).taken ++
          (collect md5 others (collect md5 steps cache).cache).taken } := by
  induction steps generalizing cache with
  | nil => rfl
  | cons step rest ih =>
    rw [List.cons_append]
    rw [collect] at h ⊢
    rw [collect]
    cases hvisit : visit md5 cache step with
    | skip =>
      rw [hvisit] at h
      exact ih h
    | stop e cache' =>
      rw [hvisit] at h
      cases h
    | take x cache' =>
      rw [hvisit] at h
      dsimp only at h ⊢
      rw [ih h]
      rfl

/-- Steps with an error, and those behind them. -/
theorem collect_append_of_error {steps : List Event} {e : ProcessError} (others : List Event)
    (h : (collect md5 steps cache).result = .error e) :
    collect md5 (steps ++ others) cache =
      { collect md5 steps cache with left := (collect md5 steps cache).left ++ others } := by
  induction steps generalizing cache with
  | nil => cases h
  | cons step rest ih =>
    rw [List.cons_append]
    rw [collect] at h ⊢
    rw [collect]
    cases hvisit : visit md5 cache step with
    | skip =>
      rw [hvisit] at h
      exact ih h
    | stop e cache' => rfl
    | take x cache' =>
      rw [hvisit] at h
      dsimp only at h ⊢
      rw [ih h]

/-- The batches after some items. -/
def Upload.after (u : Upload) (c : Collected) : Upload :=
  ⟨c.taken.foldl (fun batches x => batches.push 200 x.1) u.batches, c.cache⟩

/-- An entry is one step. -/
theorem processEntries_cons (entry : Except String Entry) (rest : List (Except String Entry))
    (u : Upload) :
    processEntries md5 (entry :: rest) u =
      match visit md5 u.cache (entry.mapError .readEntry) with
      | .skip => processEntries md5 rest u
      | .stop e cache => ({ u with cache := cache }, .error e)
      | .take x cache => processEntries md5 rest ⟨u.batches.push 200 x.1, cache⟩ := by
  cases entry with
  | error e => rfl
  | ok entry =>
    have hstep : (Except.ok entry : Except String Entry).mapError ProcessError.readEntry =
        .ok entry := rfl
    rw [processEntries, hstep, visit]
    split
    · rfl
    · cases entry.path with
      | none => rfl
      | some path =>
        dsimp only
        cases getMd5 md5 entry.probe path u.cache with
        | mk answer cache => cases answer <;> rfl

/-- The entries of a directory are steps. -/
theorem processEntries_eq (entries : List (Except String Entry)) (u : Upload) :
    processEntries md5 entries u =
      (u.after (collect md5 (entries.map fun entry => entry.mapError .readEntry) u.cache),
        (collect md5 (entries.map fun entry => entry.mapError .readEntry) u.cache).result) := by
  induction entries generalizing u with
  | nil => rfl
  | cons entry rest ih =>
    rw [processEntries_cons, List.map_cons, collect]
    cases visit md5 u.cache (entry.mapError .readEntry) with
    | skip => exact ih u
    | stop e cache => rfl
    | take x cache => exact ih _

/-- The entries of all directories are steps. -/
theorem processDirs_eq (host : Host) (paths : List String) (u : Upload) :
    processDirs md5 host paths u =
      (u.after (collect md5 (paths.flatMap (events host)) u.cache),
        (collect md5 (paths.flatMap (events host)) u.cache).result) := by
  induction paths generalizing u with
  | nil => rfl
  | cons path rest ih =>
    rw [processDirs, List.flatMap_cons]
    cases hdir : host.readDir path with
    | error e =>
      have hevents : events host path = [.error (.openDir path e)] := by rw [events, hdir]
      rw [hevents]
      rfl
    | ok entries =>
      have hevents : events host path = entries.map fun entry => entry.mapError .readEntry := by
        rw [events, hdir]
      dsimp only
      rw [processEntries_eq, ← hevents]
      cases hresult : (collect md5 (events host path) u.cache).result with
      | error e => rw [collect_append_of_error _ hresult, Upload.after, Upload.after, hresult]
      | ok =>
        rw [collect_append_of_ok _ hresult]
        dsimp only
        rw [ih, Upload.after, Upload.after, Upload.after, List.foldl_append]

end Collect

/-- The path of a step. -/
def stepPath (step : Event) : Option String := step.toOption.bind Entry.path

/-- The paths of steps. -/
def paths (steps : List Event) : List String := steps.flatMap fun step => (stepPath step).toList

section Taken

variable {md5 : List UInt8 → String} {cache : String → Option CacheEntry}

/-- What comes of a step: an entry that is skipped is not eligible, and one that is taken has the
path of its item. -/
theorem visit_cases (step : Event) :
    (visit md5 cache step = .skip ∧ stepWanted step = none) ∨
    (∃ e cache', visit md5 cache step = .stop e cache') ∨
    ∃ x cache', visit md5 cache step = .take x cache' ∧ step = .ok x.2 ∧
      x.2.path = some x.1.dir := by
  cases step with
  | error e => exact .inr (.inl ⟨e, cache, rfl⟩)
  | ok entry =>
    have hnot (h : ¬entry.Eligible) : stepWanted (.ok entry) = none := if_neg h
    rw [visit]
    split
    · next hskip =>
      refine .inl ⟨rfl, hnot fun h => ?_⟩
      rw [h.1, h.2.1] at hskip
      cases hskip
    · cases hpath : entry.path with
      | none =>
        refine .inl ⟨rfl, hnot fun h => ?_⟩
        have hsome := h.2.2.1
        rw [hpath] at hsome
        cases hsome
      | some path =>
        dsimp only
        cases hmd5 : getMd5 md5 entry.probe path cache with
        | mk answer cache' =>
          cases answer with
          | error e => exact .inr (.inl ⟨_, _, rfl⟩)
          | ok hash => exact .inr (.inr ⟨_, _, rfl, rfl, hpath⟩)

/-- A step that is taken has an entry, the one of its item. -/
theorem eq_ok_of_visit_take {step : Event} {x : LinuxDirProc × Entry}
    {cache' : String → Option CacheEntry} (h : visit md5 cache step = .take x cache') :
    step = .ok x.2 := by
  obtain ⟨hvisit, -⟩ | ⟨e, after, hvisit⟩ | ⟨y, after, hvisit, hstep, -⟩ :=
    @visit_cases md5 cache step
  · cases hvisit.symm.trans h
  · cases hvisit.symm.trans h
  · obtain ⟨rfl, -⟩ := Visit.take.inj (hvisit.symm.trans h)
    exact hstep

/-- The eligible entries are those that are taken and those that are left. -/
theorem wanted_eq (steps : List Event) :
    wanted steps = (collect md5 steps cache).taken.flatMap (fun x => x.2.wanted.toList) ++
      wanted (collect md5 steps cache).left := by
  induction steps generalizing cache with
  | nil => rfl
  | cons step rest ih =>
    rw [wanted, List.flatMap_cons, collect]
    obtain ⟨hvisit, hnone⟩ | ⟨e, cache', hvisit⟩ | ⟨x, cache', hvisit, rfl, -⟩ :=
      @visit_cases md5 cache step
    · rw [hvisit, hnone]
      exact ih
    · rw [hvisit]
      rfl
    · rw [hvisit]
      dsimp only
      rw [List.flatMap_cons, List.append_assoc, ← ih]
      rfl

/-- The paths that are taken and those that are left are paths of the steps. -/
theorem paths_sublist (steps : List Event) :
    ((collect md5 steps cache).taken.map (fun x => x.1.dir) ++
      paths (collect md5 steps cache).left).Sublist (paths steps) := by
  induction steps generalizing cache with
  | nil => exact List.Sublist.refl _
  | cons step rest ih =>
    rw [paths, paths, List.flatMap_cons, collect]
    obtain ⟨hvisit, -⟩ | ⟨e, cache', hvisit⟩ | ⟨x, cache', hvisit, rfl, hpath⟩ :=
      @visit_cases md5 cache step
    · rw [hvisit]
      exact ih.trans (List.sublist_append_right _ _)
    · rw [hvisit]
      exact List.Sublist.refl _
    · rw [hvisit]
      dsimp only
      have hstep : stepPath (.ok x.2) = some x.1.dir := hpath
      rw [List.map_cons, List.cons_append, hstep]
      exact ih.cons_cons _

/-- An entry that is taken has the path of its item. -/
theorem path_of_mem_taken {steps : List Event} {x : LinuxDirProc × Entry}
    (h : x ∈ (collect md5 steps cache).taken) : x.2.path = some x.1.dir := by
  induction steps generalizing cache with
  | nil => exact absurd h List.not_mem_nil
  | cons step rest ih =>
    rw [collect] at h
    obtain ⟨hvisit, -⟩ | ⟨e, cache', hvisit⟩ | ⟨y, cache', hvisit, rfl, hpath⟩ :=
      @visit_cases md5 cache step
    · rw [hvisit] at h
      exact ih h
    · rw [hvisit] at h
      exact absurd h List.not_mem_nil
    · rw [hvisit] at h
      obtain rfl | h := List.mem_cons.mp h
      · exact hpath
      · exact ih h

/-- Nothing is left without an error. -/
theorem left_eq_nil {steps : List Event} (h : (collect md5 steps cache).result = .ok ()) :
    (collect md5 steps cache).left = [] := by
  induction steps generalizing cache with
  | nil => rfl
  | cons step rest ih =>
    rw [collect] at h ⊢
    cases hvisit : visit md5 cache step with
    | skip =>
      rw [hvisit] at h
      exact ih h
    | stop e cache' =>
      rw [hvisit] at h
      cases h
    | take x cache' =>
      rw [hvisit] at h
      exact ih h

/-- The eligible entries among some items have the paths of the items. -/
theorem wanted_sublist {taken : List (LinuxDirProc × Entry)}
    (h : ∀ x ∈ taken, x.2.path = some x.1.dir) :
    (taken.flatMap fun x => x.2.wanted.toList).Sublist (taken.map fun x => x.1.dir) := by
  induction taken with
  | nil => exact List.Sublist.refl _
  | cons x taken ih =>
    obtain ⟨hx, htaken⟩ := List.forall_mem_cons.mp h
    rw [List.flatMap_cons, List.map_cons, Entry.wanted]
    split
    · rw [hx]
      exact (ih htaken).cons_cons _
    · exact (ih htaken).cons _

/-- An eligible step has a path. -/
theorem mem_paths_of_mem_wanted {steps : List Event} {path : String} (h : path ∈ wanted steps) :
    path ∈ paths steps := by
  obtain ⟨step, hstep, hpath⟩ := List.mem_flatMap.mp h
  refine List.mem_flatMap.mpr ⟨step, hstep, ?_⟩
  cases step with
  | error e => exact absurd hpath List.not_mem_nil
  | ok entry =>
    have hwanted : entry.wanted = some path := Option.mem_toList.mp hpath
    rw [Entry.wanted] at hwanted
    split at hwanted
    · exact Option.mem_toList.mpr hwanted
    · cases hwanted

end Taken

/-- The steps have the paths of the directories. -/
theorem paths_events (host : Host) (path : String) :
    paths (events host path) = (host.readDir path).paths := by
  rw [events]
  cases host.readDir path with
  | error e => rfl
  | ok entries =>
    dsimp only
    rw [paths, Listing.paths, List.flatMap_map]
    refine List.flatMap_congr fun entry _ => ?_
    cases entry <;> rfl

/-- No path is among the steps twice. -/
theorem nodup_paths (host : Host) : (paths (steps host)).Nodup := by
  have hpaths : paths (steps host) =
      dirs.flatMap fun path => (host.readDir path).paths := by
    rw [paths, steps, List.flatMap_assoc]
    exact List.flatMap_congr fun path _ => paths_events host path
  rw [hpaths]
  exact host.unique

/-- The task ends with the step. -/
def Visit.fails : Visit → Bool
  | .skip => false
  | .stop _ _ => true
  | .take _ _ => false

/-- The entry of the step is taken. -/
def Visit.takes : Visit → Bool
  | .skip => false
  | .stop _ _ => false
  | .take _ _ => true

section Failures

variable (md5 : List UInt8 → String) (cache : String → Option CacheEntry)

/-- A directory or an entry that cannot be read, or a file that cannot be hashed. -/
def fails (step : Event) : Bool := (visit md5 cache step).fails

/-- A file that can be hashed. -/
def takes (step : Event) : Bool := (visit md5 cache step).takes

/-- The steps before the first failure. -/
def reached (steps : List Event) : List Event := steps.takeWhile fun step => !fails md5 cache step

/-- The first failure and the steps behind it. -/
def unreached (steps : List Event) : List Event :=
  steps.dropWhile fun step => !fails md5 cache step

/-- The files that are hashed before the first failure. -/
def hashed (steps : List Event) : List Event :=
  (reached md5 cache steps).filter fun step => takes md5 cache step

/-- Those of them that are not in a batch of 200. -/
def unsent (steps : List Event) : List Event :=
  (hashed md5 cache steps).drop (200 * ((hashed md5 cache steps).length / 200))

variable {md5 cache} {cache' : String → Option CacheEntry}

/-- The answer for a path depends on its entry in the cache. -/
theorem getMd5_congr {probe : Probe} {path : String} (h : cache path = cache' path) :
    (getMd5 md5 probe path cache).1 = (getMd5 md5 probe path cache').1 := by
  rw [getMd5, getMd5, h]
  split
  · rfl
  · split
    · rfl
    · rw [storeMd5, storeMd5]
      cases probe.content <;> rfl

/-- Only the entry of a path changes in the cache. -/
theorem getMd5_cache_of_ne {probe : Probe} {path other : String} (h : other ≠ path) :
    (getMd5 md5 probe path cache).2 other = cache other := by
  rw [getMd5]
  split
  · rfl
  · split
    · rfl
    · rw [storeMd5]
      cases probe.content with
      | none => rfl
      | some content => exact Function.update_of_ne h _ _

/-- What comes of a step depends on the entry of its path in the cache. -/
theorem visit_congr {step : Event} (h : ∀ path ∈ stepPath step, cache path = cache' path) :
    fails md5 cache step = fails md5 cache' step ∧
      takes md5 cache step = takes md5 cache' step := by
  rw [fails, fails, takes, takes]
  cases step with
  | error e => exact ⟨rfl, rfl⟩
  | ok entry =>
    rw [visit, visit]
    split
    · exact ⟨rfl, rfl⟩
    · cases hpath : entry.path with
      | none => exact ⟨rfl, rfl⟩
      | some path =>
        have hcongr := @getMd5_congr md5 cache cache' entry.probe path (h path hpath)
        dsimp only
        cases hmd5 : getMd5 md5 entry.probe path cache with
        | mk answer after =>
          cases hmd5' : getMd5 md5 entry.probe path cache' with
          | mk answer' after' =>
            rw [hmd5, hmd5'] at hcongr
            obtain rfl : answer = answer' := hcongr
            cases answer <;> exact ⟨rfl, rfl⟩

/-- A step that is taken changes the cache at its path. -/
theorem visit_take_cache {step : Event} {x : LinuxDirProc × Entry}
    (h : visit md5 cache step = .take x cache') {other : String} (hother : other ∉ stepPath step) :
    cache' other = cache other := by
  cases step with
  | error e => cases h
  | ok entry =>
    rw [visit] at h
    split at h
    · cases h
    · cases hpath : entry.path with
      | none =>
        rw [hpath] at h
        cases h
      | some path =>
        have hne : other ≠ path := by
          rintro rfl
          exact hother hpath
        have hcache := @getMd5_cache_of_ne md5 cache entry.probe path other hne
        rw [hpath] at h
        dsimp only at h
        cases hmd5 : getMd5 md5 entry.probe path cache with
        | mk answer after =>
          rw [hmd5] at h hcache
          cases answer with
          | error e => cases h
          | ok hash =>
            obtain ⟨-, rfl⟩ := Visit.take.inj h
            exact hcache

/-- The steps one after the other, with the cache from before the first one. -/
theorem collect_spec {steps : List Event} (hnodup : (paths steps).Nodup)
    (hagree : ∀ path ∈ paths steps, cache' path = cache path) :
    (collect md5 steps cache').taken.map (fun x => (.ok x.2 : Event)) = hashed md5 cache steps ∧
      (collect md5 steps cache').left = unreached md5 cache steps ∧
      ((collect md5 steps cache').result = .ok () ↔
        ∀ step ∈ steps, fails md5 cache step = false) := by
  induction steps generalizing cache' with
  | nil => exact ⟨rfl, rfl, iff_of_true rfl fun _ hstep => absurd hstep List.not_mem_nil⟩
  | cons step rest ih =>
    have hpaths : paths (step :: rest) = (stepPath step).toList ++ paths rest := List.flatMap_cons
    rw [hpaths] at hnodup hagree
    obtain ⟨-, hrest, hdisjoint⟩ := List.nodup_append.mp hnodup
    obtain ⟨hfails, htakes⟩ := @visit_congr md5 cache cache' step fun path hpath =>
      (hagree path (List.mem_append_left _ (Option.mem_toList.mpr hpath))).symm
    rw [collect, hashed, reached, unreached, List.forall_mem_cons]
    cases hvisit : visit md5 cache' step with
    | skip =>
      have hfalse : fails md5 cache step = false := by rw [hfails, fails, hvisit]; rfl
      have hnot : takes md5 cache step = false := by rw [htakes, takes, hvisit]; rfl
      rw [List.takeWhile_cons_of_pos (by rw [hfalse]; rfl),
        List.dropWhile_cons_of_pos (by rw [hfalse]; rfl),
        List.filter_cons_of_neg (by rw [hnot]; exact Bool.false_ne_true), and_iff_right hfalse]
      exact ih hrest fun path hpath => hagree path (List.mem_append_right _ hpath)
    | stop e cache'' =>
      have htrue : fails md5 cache step = true := by rw [hfails, fails, hvisit]; rfl
      rw [List.takeWhile_cons_of_neg (by rw [htrue]; exact Bool.false_ne_true),
        List.dropWhile_cons_of_neg (by rw [htrue]; exact Bool.false_ne_true)]
      refine ⟨rfl, rfl, iff_of_false (fun h => by cases h) fun h => ?_⟩
      rw [htrue] at h
      cases h.1
    | take x cache'' =>
      have hfalse : fails md5 cache step = false := by rw [hfails, fails, hvisit]; rfl
      have htrue : takes md5 cache step = true := by rw [htakes, takes, hvisit]; rfl
      obtain ⟨htaken, hleft, hresult⟩ := @ih cache'' hrest fun path hpath => by
        rw [visit_take_cache hvisit fun hmem =>
          hdisjoint path (Option.mem_toList.mpr hmem) path hpath rfl]
        exact hagree path (List.mem_append_right _ hpath)
      rw [List.takeWhile_cons_of_pos (by rw [hfalse]; rfl),
        List.dropWhile_cons_of_pos (by rw [hfalse]; rfl), List.filter_cons_of_pos htrue,
        and_iff_right hfalse]
      refine ⟨?_, hleft, hresult⟩
      dsimp only
      rw [List.map_cons, htaken, ← eq_ok_of_visit_take hvisit]
      rfl

end Failures

section Posted

variable {md5 : List UInt8 → String} {host : Host} {cache : String → Option CacheEntry}

/-- All steps of the task. -/
def collectAll (md5 : List UInt8 → String) (host : Host) (cache : String → Option CacheEntry) :
    Collected := collect md5 (steps host) cache

/-- What is collected beyond the full batches. -/
def Collected.pending (c : Collected) : List (LinuxDirProc × Entry) :=
  c.taken.drop (200 * (c.taken.length / 200))

/-- The items in the full batches and those beyond them. -/
theorem Collected.take_append_pending (c : Collected) :
    c.taken.take (200 * (c.taken.length / 200)) ++ c.pending = c.taken :=
  List.take_append_drop _ _

/-- The batches of some items. -/
def batched (taken : List (LinuxDirProc × Entry)) : Batches.State LinuxDirProc :=
  taken.foldl (fun batches x => batches.push 200 x.1) Batches.empty

/-- What was taken is in batches of the right size. -/
theorem batched_spec (taken : List (LinuxDirProc × Entry)) :
    (batched taken).Sized 200 ∧ (batched taken).items = taken.map Prod.fst := by
  induction taken using List.reverseRecOn with
  | nil => exact ⟨Batches.sized_empty (by decide), rfl⟩
  | append_singleton taken x ih =>
    rw [batched, List.foldl_append]
    refine ⟨ih.1.push x.1, ?_⟩
    rw [List.foldl_cons, List.foldl_nil, Batches.State.items_push, List.map_append]
    exact congrArg (· ++ [x.1]) ih.2

/-- What is posted if there is no error: everything, in batches. -/
theorem posted_of_ok (h : (collectAll md5 host cache).result = .ok ()) :
    (processAllDirs md5 host cache).1.flatten = (collectAll md5 host cache).taken.map Prod.fst ∧
      ∀ batch ∈ (processAllDirs md5 host cache).1, 0 < batch.length ∧ batch.length ≤ 200 := by
  obtain ⟨hsized, hitems⟩ := batched_spec (collectAll md5 host cache).taken
  have hposted : (processAllDirs md5 host cache).1 =
      if (batched (collectAll md5 host cache).taken).pending = [] then
        (batched (collectAll md5 host cache).taken).posted
      else (batched (collectAll md5 host cache).taken).posted ++
        [(batched (collectAll md5 host cache).taken).pending] := by
    rw [collectAll, steps] at h
    rw [processAllDirs, processDirs_eq, h]
    rfl
  have hfull : ∀ batch ∈ (batched (collectAll md5 host cache).taken).posted,
      0 < batch.length ∧ batch.length ≤ 200 := by
    intro batch hbatch
    rw [hsized.posted batch hbatch]
    decide
  rw [hposted, ← hitems, Batches.State.items]
  split
  · next hnil => exact ⟨by rw [hnil, List.append_nil], hfull⟩
  · next hne =>
    refine ⟨by rw [List.flatten_append, List.flatten_singleton],
      List.forall_mem_append.mpr ⟨hfull, List.forall_mem_singleton.mpr ?_⟩⟩
    exact ⟨List.length_pos_iff.mpr hne, Nat.le_of_lt hsized.pending⟩

/-- What is posted if there is an error: the full batches. -/
theorem posted_of_error {e : ProcessError} (h : (collectAll md5 host cache).result = .error e) :
    (processAllDirs md5 host cache).1.flatten =
        ((collectAll md5 host cache).taken.take
          (200 * ((collectAll md5 host cache).taken.length / 200))).map Prod.fst ∧
      ∀ batch ∈ (processAllDirs md5 host cache).1, 0 < batch.length ∧ batch.length ≤ 200 := by
  obtain ⟨hsized, hitems⟩ := batched_spec (collectAll md5 host cache).taken
  have hposted : (processAllDirs md5 host cache).1 =
      (batched (collectAll md5 host cache).taken).posted := by
    rw [collectAll, steps] at h
    rw [processAllDirs, processDirs_eq, h]
    rfl
  rw [hposted, hsized.flatten_eq, hitems, List.length_map, List.map_take]
  refine ⟨rfl, fun batch hbatch => ?_⟩
  rw [hsized.posted batch hbatch]
  decide

/-- What is posted is taken. -/
theorem posted_sublist :
    ((processAllDirs md5 host cache).1.flatten.map LinuxDirProc.dir).Sublist
      (paths (steps host)) := by
  have htaken : ((collectAll md5 host cache).taken.map fun x => x.1.dir).Sublist
      (paths (steps host)) :=
    (List.sublist_append_left _ _).trans (paths_sublist _)
  cases h : (collectAll md5 host cache).result with
  | error e =>
    rw [(posted_of_error h).1, List.map_map]
    exact ((List.take_sublist _ _).map _).trans htaken
  | ok =>
    rw [(posted_of_ok h).1, List.map_map]
    exact htaken

/-- An entry is wanted just if it is eligible. -/
theorem wanted_eq_none_iff (entry : Entry) : entry.wanted = none ↔ ¬entry.Eligible := by
  rw [Entry.wanted]
  split
  · next h =>
    refine iff_of_false (fun hnone => ?_) (not_not_intro h)
    have hsome := h.2.2.1
    rw [hnone] at hsome
    cases hsome
  · next h => exact iff_of_true rfl h

/-- The eligible entries among some items that are none. -/
theorem wanted_taken_eq_nil {taken : List (LinuxDirProc × Entry)}
    (h : ∀ x ∈ taken, ¬x.2.Eligible) : (taken.flatMap fun x => x.2.wanted.toList) = [] := by
  refine List.flatMap_eq_nil_iff.mpr fun x hx => ?_
  rw [(wanted_eq_none_iff x.2).mpr (h x hx)]
  rfl

/-- Nothing is wanted of entries that are not eligible. -/
theorem wanted_steps_eq_nil {steps : List Event}
    (h : ∀ entry, .ok entry ∈ steps → ¬entry.Eligible) : wanted steps = [] := by
  refine List.flatMap_eq_nil_iff.mpr fun step hstep => ?_
  cases step with
  | error e => rfl
  | ok entry =>
    have hnone : stepWanted (.ok entry) = none := (wanted_eq_none_iff entry).mpr (h entry hstep)
    rw [hnone]
    rfl

/-- An eligible entry that is taken is wanted. -/
theorem mem_wanted_taken {taken : List (LinuxDirProc × Entry)} {x : LinuxDirProc × Entry}
    (hx : x ∈ taken) (hpath : x.2.path = some x.1.dir) (h : x.2.Eligible) :
    x.1.dir ∈ taken.flatMap fun x => x.2.wanted.toList := by
  refine List.mem_flatMap.mpr ⟨x, hx, Option.mem_toList.mpr ?_⟩
  rw [Entry.wanted, if_pos h]
  exact hpath

/-- An eligible entry among steps is wanted. -/
theorem exists_mem_wanted {steps : List Event} {entry : Entry} (hentry : .ok entry ∈ steps)
    (h : entry.Eligible) : ∃ path, path ∈ wanted steps := by
  obtain ⟨path, hpath⟩ := Option.isSome_iff_exists.mp h.2.2.1
  refine ⟨path, List.mem_flatMap.mpr ⟨.ok entry, hentry, Option.mem_toList.mpr ?_⟩⟩
  have hwanted : stepWanted (.ok entry) = entry.wanted := rfl
  rw [hwanted, Entry.wanted, if_pos h]
  exact hpath

/-- With an error, an eligible entry that waits or is left is not posted. -/
theorem not_posted {e : ProcessError} (h : (collectAll md5 host cache).result = .error e)
    {path : String} (hpath : path ∈ (collectAll md5 host cache).pending.map (fun x => x.1.dir) ∨
      path ∈ paths (collectAll md5 host cache).left) :
    path ∉ (processAllDirs md5 host cache).1.flatten.map LinuxDirProc.dir := by
  intro hposted
  have hnodup : ((collectAll md5 host cache).taken.map (fun x => x.1.dir) ++
      paths (collectAll md5 host cache).left).Nodup :=
    (nodup_paths host).sublist (paths_sublist _)
  rw [(posted_of_error h).1, List.map_map] at hposted
  rw [← (collectAll md5 host cache).take_append_pending, List.map_append] at hnodup
  obtain ⟨htaken, -, hleft⟩ := List.nodup_append.mp hnodup
  obtain ⟨-, -, hpending⟩ := List.nodup_append.mp htaken
  obtain hpath | hpath := hpath
  · exact hpending path hposted path hpath rfl
  · exact hleft path (List.mem_append_left _ hposted) path hpath rfl

end Posted

/-- The upload is complete just if no step ends it with an error, or if neither the entries beyond
the full batches before that step nor those from it on are eligible. -/
theorem complete_iff_collected (md5 : List UInt8 → String) (host : Host)
    (cache : String → Option CacheEntry) :
    Complete host (processAllDirs md5 host cache).1 ↔
      (collectAll md5 host cache).result = .ok () ∨
        (∀ x ∈ (collectAll md5 host cache).pending, ¬x.2.Eligible) ∧
          ∀ entry, .ok entry ∈ (collectAll md5 host cache).left → ¬entry.Eligible := by
  have hwanted : wanted (steps host) =
      (collectAll md5 host cache).taken.flatMap (fun x => x.2.wanted.toList) ++
        wanted (collectAll md5 host cache).left := wanted_eq _
  have honce : ((processAllDirs md5 host cache).1.flatten.map LinuxDirProc.dir).Nodup :=
    (nodup_paths host).sublist posted_sublist
  have hpath : ∀ x ∈ (collectAll md5 host cache).taken, x.2.path = some x.1.dir := fun x =>
    path_of_mem_taken
  cases h : (collectAll md5 host cache).result with
  | ok =>
    refine iff_of_true ⟨?_, honce, (posted_of_ok h).2⟩ (.inl rfl)
    have hleft : wanted (collectAll md5 host cache).left = [] := by
      rw [collectAll, left_eq_nil h]
      rfl
    rw [hwanted, hleft, List.append_nil, (posted_of_ok h).1, List.map_map]
    exact wanted_sublist hpath
  | error e =>
    constructor
    · intro hcomplete
      have hposted {path : String} (hmem : path ∈ wanted (steps host)) :=
        hcomplete.order.subset hmem
      refine .inr ⟨fun x hx heligible => ?_, fun entry hentry heligible => ?_⟩
      · have htaken : x ∈ (collectAll md5 host cache).taken := List.mem_of_mem_drop hx
        refine not_posted h (.inl (List.mem_map_of_mem hx)) (hposted ?_)
        rw [hwanted]
        exact List.mem_append_left _ (mem_wanted_taken htaken (hpath x htaken) heligible)
      · obtain ⟨path, hmem⟩ := exists_mem_wanted hentry heligible
        refine not_posted h (.inr (mem_paths_of_mem_wanted hmem)) (hposted ?_)
        rw [hwanted]
        exact List.mem_append_right _ hmem
    · rintro (hok | ⟨hpending, hleft⟩)
      · cases hok
      · refine ⟨?_, honce, (posted_of_error h).2⟩
        rw [hwanted, wanted_steps_eq_nil hleft, List.append_nil,
          ← (collectAll md5 host cache).take_append_pending, List.flatMap_append,
          wanted_taken_eq_nil hpending, List.append_nil, (posted_of_error h).1, List.map_map]
        exact wanted_sublist fun x hx => hpath x (List.mem_of_mem_take hx)

/-- **The upload of the system files is complete** just if every directory and every entry can be
read and every file has a hash, or if no eligible file is among those that are not yet sent at the
first failure, the one that fails and those behind it. -/
theorem upload_complete_iff (md5 : List UInt8 → String) (host : Host)
    (cache : String → Option CacheEntry) :
    Complete host (processAllDirs md5 host cache).1 ↔
      (∀ step ∈ steps host, fails md5 cache step = false) ∨
        (∀ entry, .ok entry ∈ unsent md5 cache (steps host) → ¬entry.Eligible) ∧
          ∀ entry, .ok entry ∈ unreached md5 cache (steps host) → ¬entry.Eligible := by
  obtain ⟨htaken, hleft, hresult⟩ := @collect_spec md5 cache cache (steps host) (nodup_paths host)
    fun _ _ => rfl
  have hpending : (collectAll md5 host cache).pending.map (fun x => (.ok x.2 : Event)) =
      unsent md5 cache (steps host) := by
    have htaken' : (collectAll md5 host cache).taken.map (fun x => (.ok x.2 : Event)) =
        hashed md5 cache (steps host) := htaken
    rw [Collected.pending, unsent, ← htaken', List.length_map, List.map_drop]
  rw [complete_iff_collected, ← hresult, ← hleft, ← hpending]
  refine or_congr Iff.rfl (and_congr ⟨fun h entry hentry => ?_, fun h x hx => ?_⟩ Iff.rfl)
  · obtain ⟨x, hx, heq⟩ := List.mem_map.mp hentry
    obtain rfl := Except.ok.inj heq
    exact h x hx
  · exact h x.2 (List.mem_map_of_mem hx)

/-- A program that can be read. -/
def lsEntry : Entry := ⟨some "/bin/ls", false, .regular, ⟨some 0, .present, some 0, some [127]⟩⟩

/-- A program that cannot be read. -/
def secretEntry : Entry :=
  ⟨some "/bin/secret", false, .regular, ⟨some 0, .present, some 0, none⟩⟩

/-- A program that was last modified before 1970. -/
def oldEntry : Entry :=
  ⟨some "/bin/old", false, .regular, ⟨some (-1), .present, some (-1), some [127]⟩⟩

/-- Directories without entries but for the first one. -/
def oneDir (entries : List (Except String Entry)) (path : String) : Listing :=
  if path = "/bin/" then .ok entries else .ok []

/-- All directories are there but one. -/
def withoutLocalBin (path : String) : Listing :=
  if path = "/usr/local/bin/" then .error "No such file or directory"
  else oneDir [.ok lsEntry] path

/-- No path is listed twice there. -/
theorem unique_oneDir :
    (dirs.flatMap fun path => (oneDir [.ok lsEntry, .ok secretEntry] path).paths).Nodup := by
  decide +kernel

/-- Nor with the old program. -/
theorem unique_oneDir_old :
    (dirs.flatMap fun path => (oneDir [.ok lsEntry, .ok oldEntry] path).paths).Nodup := by
  decide +kernel

/-- Nor without one of the directories. -/
theorem unique_withoutLocalBin :
    (dirs.flatMap fun path => (withoutLocalBin path).paths).Nodup := by
  decide +kernel

/-- A host with a file that cannot be read. -/
def hostWithSecret : Host := ⟨oneDir [.ok lsEntry, .ok secretEntry], unique_oneDir⟩

/-- A host with a file that was last modified before 1970. -/
def hostWithOld : Host := ⟨oneDir [.ok lsEntry, .ok oldEntry], unique_oneDir_old⟩

/-- A host without one of the directories. -/
def hostWithoutLocalBin : Host := ⟨withoutLocalBin, unique_withoutLocalBin⟩

/-- A file or a directory that cannot be read, or a file from before 1970, keeps the other files
from being posted. -/
theorem upload_not_complete :
    ((processAllDirs shortMd5 hostWithSecret fun _ => none).1 = [] ∧
      ¬Complete hostWithSecret (processAllDirs shortMd5 hostWithSecret fun _ => none).1) ∧
    ((processAllDirs shortMd5 hostWithoutLocalBin fun _ => none).1 = [] ∧
      ¬Complete hostWithoutLocalBin
        (processAllDirs shortMd5 hostWithoutLocalBin fun _ => none).1) ∧
    ((processAllDirs shortMd5 hostWithOld fun _ => none).1 = [] ∧
      ¬Complete hostWithOld (processAllDirs shortMd5 hostWithOld fun _ => none).1) := by
  have hempty {host : Host} (hposted : (processAllDirs shortMd5 host fun _ => none).1 = [])
      (hwanted : wanted (steps host) ≠ []) :
      ¬Complete host (processAllDirs shortMd5 host fun _ => none).1 := by
    intro h
    have horder := h.order
    rw [hposted] at horder
    exact hwanted (List.sublist_nil.mp horder)
  have hsecret : (processAllDirs shortMd5 hostWithSecret fun _ => none).1 = [] := by
    decide +kernel
  have hlocal : (processAllDirs shortMd5 hostWithoutLocalBin fun _ => none).1 = [] := by
    decide +kernel
  have hold : (processAllDirs shortMd5 hostWithOld fun _ => none).1 = [] := by
    decide +kernel
  exact ⟨⟨hsecret, hempty hsecret (by decide +kernel)⟩, ⟨hlocal, hempty hlocal (by decide +kernel)⟩,
    hold, hempty hold (by decide +kernel)⟩

end LinuxAgent.Task.ProcessDirs
