import Mathlib.Data.Int.Notation
import Mathlib.Logic.Function.Basic
import LinuxAgent.Lib.Runs

/-!
# The cache of file hashes

`get_md5` keeps the hash of a file with the second of its modification time and returns it again as
long as the second is the same. If it does not find the file, it creates one with a random text and
returns the hash of that. For a file that was modified before 1970 it panics.
-/

namespace LinuxAgent.ProcessMgr

/-- `CacheEntry`: the modification time in seconds, and the hash. -/
structure CacheEntry where
  mtime : ℕ
  md5 : String
  deriving DecidableEq

/-- The operation that an error comes from. -/
inductive Md5Error
  | metadata
  | open
  | write
  | read
  deriving DecidableEq

/-- How a call of `get_md5` ends without a hash. -/
inductive Md5Failure
  | err (error : Md5Error)
  /-- The time before 1970 that `duration_since` refuses is unwrapped. -/
  | panicked
  deriving DecidableEq

/-- What `write_uuid_if_needed` does. -/
inductive Creation
  /-- The file is there by then. -/
  | present
  /-- The file cannot be opened. -/
  | denied
  /-- The file is created, and writing stops with an error. -/
  | cut (content : List UInt8)
  /-- The file is created with a new text. -/
  | done (uuid : List UInt8)
  deriving DecidableEq

/-- What a call finds: the modification time in nanoseconds since 1970 if the file is there, what
happens when it is to be created, the time after that, and the content if it can be read. -/
structure Probe where
  metadata : Option ℤ
  creation : Creation
  metadataAfter : Option ℤ
  content : Option (List UInt8)

/-- `duration_since(UNIX_EPOCH).unwrap().as_secs()`. -/
def asSecs (nanos : ℤ) : Except Md5Failure ℕ :=
  if nanos < 0 then .error .panicked else .ok (nanos.toNat / 1000000000)

/-- The modification time that `get_md5` uses. -/
def Probe.mtime (probe : Probe) : Except Md5Failure ℕ :=
  match probe.metadata with
  | some nanos => asSecs nanos
  | none =>
    match probe.creation with
    | .denied => .error (.err .open)
    | .cut _ => .error (.err .write)
    | .present => probe.metadataAfter.elim (.error (.err .metadata)) asSecs
    | .done _ => probe.metadataAfter.elim (.error (.err .metadata)) asSecs

section Cache

variable {Path : Type} [DecidableEq Path] (md5 : List UInt8 → String)

/-- The rest of `get_md5` if the cache does not have the hash. -/
def storeMd5 (content : Option (List UInt8)) (path : Path) (mtime : ℕ)
    (cache : Path → Option CacheEntry) : Except Md5Failure String × (Path → Option CacheEntry) :=
  content.elim (.error (.err .read), cache) fun content =>
    (.ok (md5 content), Function.update cache path (some ⟨mtime, md5 content⟩))

/-- `get_md5`, with the hash in hexadecimal digits as a parameter. -/
def getMd5 (probe : Probe) (path : Path) (cache : Path → Option CacheEntry) :
    Except Md5Failure String × (Path → Option CacheEntry) :=
  match probe.mtime with
  | .error e => (.error e, cache)
  | .ok mtime =>
    match (cache path).filter fun entry => entry.mtime = mtime with
    | some entry => (.ok entry.md5, cache)
    | none => storeMd5 md5 probe.content path mtime cache

/-- A file: its content and its modification time in nanoseconds since 1970. -/
structure File where
  content : List UInt8
  mtime : ℤ
  deriving DecidableEq

/-- The files, the last modification time that there was at each path, and the cache. -/
structure Md5State (Path : Type) where
  disk : Path → Option File
  newest : Path → Option ℤ
  cache : Path → Option CacheEntry

/-- The file that `write_uuid_if_needed` leaves at a path where there was none. -/
def Creation.file (creation : Creation) (now : ℤ) : Option File :=
  match creation with
  | .present => none
  | .denied => none
  | .cut content => some ⟨content, now⟩
  | .done uuid => some ⟨uuid ++ [10], now⟩

/-- What a call of `get_md5` finds at a path. -/
def Md5State.probe (s : Md5State Path) (path : Path) (creation : Creation) (now : ℤ) : Probe :=
  match s.disk path with
  | some file => ⟨some file.mtime, .present, some file.mtime, some file.content⟩
  | none =>
    ⟨none, creation, (creation.file now).map File.mtime, (creation.file now).map File.content⟩

/-- A file is put at a path. -/
def Md5State.put (s : Md5State Path) (path : Path) (file : File) : Md5State Path :=
  { s with
    disk := Function.update s.disk path (some file)
    newest := Function.update s.newest path (some file.mtime) }

/-- The result of a call of `get_md5`. -/
def Md5State.answer (s : Md5State Path) (path : Path) (creation : Creation) (now : ℤ) :
    Except Md5Failure String :=
  (getMd5 md5 (s.probe path creation now) path s.cache).1

/-- The files and the cache after a call of `get_md5`. -/
def Md5State.get (s : Md5State Path) (path : Path) (creation : Creation) (now : ℤ) :
    Md5State Path :=
  let s' := { s with cache := (getMd5 md5 (s.probe path creation now) path s.cache).2 }
  if s.disk path = none then (creation.file now).elim s' (s'.put path) else s'

/-- What other programs and the agent do. -/
inductive Md5Action (Path : Type)
  /-- A file is written or replaced. -/
  | write (path : Path) (content : List UInt8) (mtime : ℤ)
  | delete (path : Path)
  | get (path : Path) (creation : Creation) (now : ℤ)

/-- Files are written at times after the last modification of the path. -/
def md5System : Runs.System (Md5State Path) (Md5Action Path) where
  init s := (∀ path, s.cache path = none) ∧
    ∀ path, s.newest path = (s.disk path).map File.mtime
  step s
    | .write path content mtime =>
      if (s.newest path).all (· < mtime) then some (s.put path ⟨content, mtime⟩) else none
    | .delete path => some { s with disk := Function.update s.disk path none }
    | .get path creation now =>
      if s.disk path = none → (s.newest path).all (· < now) then
        some (s.get md5 path creation now)
      else none

/-- A file is not written with another hash in the second that the cache has for it, and `get_md5`
is called neither for a file that is missing and can be created nor for one that was last modified
before 1970. -/
def Md5Action.Ok (s : Md5State Path) : Md5Action Path → Prop
  | .write path content mtime =>
    ∀ entry ∈ s.cache path, asSecs mtime = .ok entry.mtime → entry.md5 = md5 content
  | .delete _ => True
  | .get path creation now =>
    (s.disk path = none → creation.file now = none) ∧ ∀ file ∈ s.disk path, 0 ≤ file.mtime

/-- A call gives the hash of the file, or an error if there is no file, and changes no file. -/
structure Md5State.Truthful (s : Md5State Path) (path : Path) (creation : Creation) (now : ℤ) :
    Prop where
  hash : ∀ file, s.disk path = some file → s.answer md5 path creation now = .ok (md5 file.content)
  missing : s.disk path = none → ∃ e, s.answer md5 path creation now = .error (.err e)
  unchanged : (s.get md5 path creation now).disk = s.disk

/-- The cache has the hashes of the files whose second it has. -/
def Md5State.Fresh (s : Md5State Path) : Prop :=
  ∀ path file entry, s.disk path = some file → s.cache path = some entry →
    asSecs file.mtime = .ok entry.mtime → entry.md5 = md5 file.content

variable {md5} {s : Md5State Path} {path : Path} {creation : Creation} {now : ℤ}

omit [DecidableEq Path] in
/-- What a call finds at the path of a file. -/
theorem probe_of_file {file : File} (h : s.disk path = some file) :
    s.probe path creation now =
      ⟨some file.mtime, .present, some file.mtime, some file.content⟩ := by
  rw [Md5State.probe, h]

omit [DecidableEq Path] in
/-- What a call finds at a path where there is no file and none is created. -/
theorem probe_of_missing (h : s.disk path = none) (hcreation : creation.file now = none) :
    s.probe path creation now = ⟨none, creation, none, none⟩ := by
  rw [Md5State.probe, h, hcreation]
  rfl

/-- An entry of the cache after a call was there before, or it is what the call has found. -/
theorem getMd5_cache {probe : Probe} {cache : Path → Option CacheEntry} {other : Path}
    {entry : CacheEntry} (h : (getMd5 md5 probe path cache).2 other = some entry) :
    cache other = some entry ∨ other = path ∧ ∃ mtime content,
      probe.mtime = .ok mtime ∧ probe.content = some content ∧ entry = ⟨mtime, md5 content⟩ := by
  rw [getMd5] at h
  split at h
  · exact .inl h
  · next mtime hmtime =>
    split at h
    · exact .inl h
    · cases hcontent : probe.content with
      | none =>
        rw [hcontent] at h
        exact .inl h
      | some content =>
        rw [hcontent] at h
        have hentry : Function.update cache path (some ⟨mtime, md5 content⟩) other = some entry := h
        by_cases hother : other = path
        · rw [hother, Function.update_self] at hentry
          exact .inr ⟨hother, mtime, content, hmtime, rfl, (Option.some.inj hentry).symm⟩
        · rw [Function.update_of_ne hother] at hentry
          exact .inl hentry

/-- A time after 1970 has a second. -/
theorem asSecs_of_nonneg {nanos : ℤ} (h : 0 ≤ nanos) :
    asSecs nanos = .ok (nanos.toNat / 1000000000) := if_neg (Int.not_lt.mpr h)

/-- If the cache is fresh, the answer for a file that was modified after 1970 is its hash. -/
theorem Md5State.Fresh.answer (h : s.Fresh md5) {file : File} (hfile : s.disk path = some file)
    (htime : 0 ≤ file.mtime) : s.answer md5 path creation now = .ok (md5 file.content) := by
  have hmtime : (s.probe path creation now).mtime = .ok (file.mtime.toNat / 1000000000) := by
    rw [probe_of_file hfile, Probe.mtime]
    exact asSecs_of_nonneg htime
  have hcontent : (s.probe path creation now).content = some file.content := by
    rw [probe_of_file hfile]
  rw [Md5State.answer, getMd5, hmtime]
  dsimp only
  split
  · next entry hentry =>
    obtain ⟨hcache, hsecond⟩ := Option.filter_eq_some_iff.mp hentry
    have hsecs : asSecs file.mtime = .ok entry.mtime := by
      rw [asSecs_of_nonneg htime, of_decide_eq_true hsecond]
    rw [h path file entry hfile hcache hsecs]
  · rw [storeMd5, hcontent]
    rfl

/-- There is no answer for a file that is missing and is not created. -/
theorem answer_of_missing (h : s.disk path = none) (hcreation : creation.file now = none) :
    ∃ e, s.answer md5 path creation now = .error (.err e) := by
  rw [Md5State.answer, probe_of_missing h hcreation]
  cases creation with
  | present => exact ⟨.metadata, rfl⟩
  | denied => exact ⟨.open, rfl⟩
  | cut content => exact absurd hcreation (Option.some_ne_none _)
  | done uuid => exact absurd hcreation (Option.some_ne_none _)

/-- A call that creates no file changes only the cache. -/
theorem get_eq (h : s.disk path = none → creation.file now = none) :
    s.get md5 path creation now =
      { s with cache := (getMd5 md5 (s.probe path creation now) path s.cache).2 } := by
  rw [Md5State.get]
  split
  · next hmissing =>
    rw [h hmissing]
    rfl
  · rfl

/-- A file with another hash in another second keeps the cache fresh. -/
theorem Md5State.Fresh.put (h : s.Fresh md5) {file : File}
    (hok : ∀ entry ∈ s.cache path,
      asSecs file.mtime = .ok entry.mtime → entry.md5 = md5 file.content) :
    (s.put path file).Fresh md5 := by
  intro other file' entry hdisk hcache hsecond
  have hdisk' : Function.update s.disk path (some file) other = some file' := hdisk
  by_cases hother : other = path
  · subst hother
    rw [Function.update_self] at hdisk'
    obtain rfl := Option.some.inj hdisk'
    exact hok entry hcache hsecond
  · rw [Function.update_of_ne hother] at hdisk'
    exact h other file' entry hdisk' hcache hsecond

/-- A deletion keeps the cache fresh. -/
theorem Md5State.Fresh.delete (h : s.Fresh md5) :
    Md5State.Fresh md5 { s with disk := Function.update s.disk path none } := by
  intro other file entry hdisk hcache hsecond
  have hdisk' : Function.update s.disk path none other = some file := hdisk
  by_cases hother : other = path
  · rw [hother, Function.update_self] at hdisk'
    exact absurd hdisk'.symm (Option.some_ne_none _)
  · rw [Function.update_of_ne hother] at hdisk'
    exact h other file entry hdisk' hcache hsecond

/-- A call that creates no file keeps the cache fresh. -/
theorem Md5State.Fresh.get (h : s.Fresh md5) (hok : s.disk path = none → creation.file now = none) :
    (s.get md5 path creation now).Fresh md5 := by
  rw [get_eq hok]
  intro other file entry hdisk hcache hsecond
  obtain hbefore | ⟨rfl, mtime, content, -, hcontent, rfl⟩ := getMd5_cache hcache
  · exact h other file entry hdisk hbefore hsecond
  · have hfile : s.disk other = some file := hdisk
    rw [probe_of_file hfile] at hcontent
    rw [Option.some.inj hcontent]

/-- An action that meets the condition keeps the cache fresh. -/
theorem fresh_step {s s' : Md5State Path} {a : Md5Action Path} (h : s.Fresh md5)
    (hok : a.Ok md5 s) (hstep : (md5System md5).step s a = some s') : s'.Fresh md5 := by
  cases a with
  | write path content mtime =>
    obtain ⟨-, heq⟩ := Option.ite_none_right_eq_some.mp hstep
    obtain rfl := Option.some.inj heq
    exact h.put hok
  | delete path =>
    obtain rfl := Option.some.inj hstep
    exact h.delete
  | get path creation now =>
    obtain ⟨-, heq⟩ := Option.ite_none_right_eq_some.mp hstep
    obtain rfl := Option.some.inj heq
    exact h.get hok.1

/-- **The cache of file hashes tells the truth**: in every history in which no file is written with
another hash in the second that the cache has for it, each call for a file that was last modified
after 1970, or that is missing and cannot be created, gives the hash of the file or an error and
changes no file. -/
theorem md5_truthful (hs : (md5System md5).Reaches (Md5Action.Ok md5) s)
    (hcall : (Md5Action.get path creation now).Ok md5 s) :
    s.Truthful md5 path creation now := by
  have hfresh : s.Fresh md5 := by
    refine hs.invariant (fun s hinit path file entry _ hcache => ?_) fun s a s' => fresh_step
    rw [hinit.1 path] at hcache
    exact absurd hcache.symm (Option.some_ne_none _)
  exact ⟨fun file hfile => hfresh.answer hfile (hcall.2 file hfile),
    fun hmissing => answer_of_missing hmissing (hcall.1 hmissing), by rw [get_eq hcall.1]⟩

end Cache

/-- The hashes of two short files. -/
def shortMd5 (content : List UInt8) : String :=
  if content = [97] then "0cc175b9c0f1b6a831c399e269772661"
  else if content = [98] then "92eb5ffee6ae2fec3ad71c777531578f"
  else ""

/-- An empty disk and an empty cache. -/
def emptyMd5State : Md5State String := ⟨fun _ => none, fun _ => none, fun _ => none⟩

/-- The history begins with it. -/
theorem init_emptyMd5State : (md5System shortMd5).init emptyMd5State :=
  ⟨fun _ => rfl, fun _ => rfl⟩

/-- A file that is written, read and replaced at some time. -/
def replacedAt (mtime : ℤ) : List (Md5Action String) :=
  [.write "/bin/a" [97] 5000000000, .get "/bin/a" .denied 5500000000, .write "/bin/a" [98] mtime]

/-- The disk and the cache after the file was replaced. -/
def replacedState (mtime : ℤ) : Md5State String :=
  (((emptyMd5State.put "/bin/a" ⟨[97], 5000000000⟩).get shortMd5 "/bin/a" .denied
    5500000000).put "/bin/a" ⟨[98], mtime⟩)

/-- If the file is replaced in the next second, the new hash is found. -/
theorem md5_truthful_next_second :
    (md5System shortMd5).Reaches (Md5Action.Ok shortMd5) (replacedState 6000000000) ∧
      (replacedState 6000000000).answer shortMd5 "/bin/a" .denied 7000000000 =
        .ok "92eb5ffee6ae2fec3ad71c777531578f" := by
  have hwritten : (md5System shortMd5).Reaches (Md5Action.Ok shortMd5)
      (emptyMd5State.put "/bin/a" ⟨[97], 5000000000⟩) :=
    .step (.init init_emptyMd5State) (a := .write "/bin/a" [97] 5000000000)
      (fun _ hentry => absurd hentry (Option.not_mem_none _)) rfl
  have hread : (md5System shortMd5).Reaches (Md5Action.Ok shortMd5)
      ((emptyMd5State.put "/bin/a" ⟨[97], 5000000000⟩).get shortMd5 "/bin/a" .denied
        5500000000) :=
    .step hwritten (a := .get "/bin/a" .denied 5500000000)
      ⟨fun _ => rfl, fun file hfile =>
        Option.some.inj hfile ▸ (by decide : (0 : ℤ) ≤ 5000000000)⟩ rfl
  have hreplaced : (md5System shortMd5).Reaches (Md5Action.Ok shortMd5)
      (replacedState 6000000000) := by
    refine .step hread (a := .write "/bin/a" [98] 6000000000) (fun entry hentry hsecond => ?_) rfl
    obtain rfl := Option.some.inj hentry
    exact absurd hsecond (by decide)
  have htruth := @md5_truthful String _ shortMd5 _ "/bin/a" .denied 7000000000 hreplaced
    ⟨fun _ => rfl, fun file hfile => Option.some.inj hfile ▸ (by decide : (0 : ℤ) ≤ 6000000000)⟩
  exact ⟨hreplaced, htruth.hash ⟨[98], 6000000000⟩ rfl⟩

/-- If the file is replaced in the same second, the old hash is found. A file that is missing is
created. For a file that was last modified before 1970 there is no answer. -/
theorem md5_not_truthful_same_second :
    ((md5System shortMd5).exec emptyMd5State (replacedAt 5900000000) =
        some (replacedState 5900000000) ∧
      ¬(replacedState 5900000000).Truthful shortMd5 "/bin/a" .denied 7000000000) ∧
    ¬emptyMd5State.Truthful shortMd5 "/bin/missing" (.done [97]) 5000000000 ∧
    ((md5System shortMd5).exec emptyMd5State [.write "/bin/old" [97] (-1)] =
        some (emptyMd5State.put "/bin/old" ⟨[97], -1⟩) ∧
      ¬(emptyMd5State.put "/bin/old" ⟨[97], -1⟩).Truthful shortMd5 "/bin/old" .denied 0) := by
  refine ⟨⟨rfl, fun h => ?_⟩, fun h => ?_, rfl, fun h => ?_⟩
  · have hanswer := h.hash ⟨[98], 5900000000⟩ rfl
    have hstale : (replacedState 5900000000).answer shortMd5 "/bin/a" .denied 7000000000 =
        .ok "0cc175b9c0f1b6a831c399e269772661" := rfl
    rw [hstale] at hanswer
    exact absurd (Except.ok.inj hanswer) (by decide)
  · have hdisk := congrFun h.unchanged "/bin/missing"
    have hcreated : (emptyMd5State.get shortMd5 "/bin/missing" (.done [97]) 5000000000).disk
        "/bin/missing" = some ⟨[97, 10], 5000000000⟩ := rfl
    rw [hcreated] at hdisk
    exact absurd hdisk (Option.some_ne_none _)
  · have hanswer := h.hash ⟨[97], -1⟩ rfl
    have hpanic : (emptyMd5State.put "/bin/old" ⟨[97], -1⟩).answer shortMd5 "/bin/old" .denied 0 =
        .error .panicked := rfl
    rw [hpanic] at hanswer
    cases hanswer

end LinuxAgent.ProcessMgr
