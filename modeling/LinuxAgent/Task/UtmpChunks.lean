import LinuxAgent.Task.SshDelivery

/-!
# Records in pieces

A file of login records grows in pieces, and is read after each of them. The loop of
`read_utmp_file` reads the part of a record at the end of the file as well, and the offset moves
past it. So the pieces give the same logs as the whole, with every offset at the end of a record,
just if every piece is made of complete records.
-/

namespace LinuxAgent.Task.SshLogin

/-- The file grows and `read_utmp_file` is called: the logs, and the file with the new offset. -/
def UtmpFile.poll (isBtmp : Bool) (file : UtmpFile) (bytes : List UInt8) :
    List SyslogSshLog × UtmpFile :=
  let file := file.append bytes
  let r := readUtmpFile fileReads isBtmp file
  ((okOrNil r.1).map Sighting.log, { file with offset := r.2 })

/-- The file grows in pieces and is read after each of them: the logs and the offset of each
call. -/
def UtmpFile.polls (isBtmp : Bool) (file : UtmpFile) : List (List UInt8) →
    List (List SyslogSshLog × ℕ)
  | [] => []
  | bytes :: pieces =>
    let r := file.poll isBtmp bytes
    (r.1, r.2.offset) :: r.2.polls isBtmp pieces

/-- A file that was read to its end. -/
def UtmpFile.readUp (content : List UInt8) : UtmpFile := ⟨content, content.length⟩

/-- The calls after each piece give the logs of one call after all of them, and every offset is at
the end of a record. -/
structure ReadsAsOne (isBtmp : Bool) (content : List UInt8) (pieces : List (List UInt8)) :
    Prop where
  logs : ((UtmpFile.readUp content).polls isBtmp pieces).flatMap Prod.fst =
    ((UtmpFile.readUp content).poll isBtmp pieces.flatten).1
  boundary : ∀ call ∈ (UtmpFile.readUp content).polls isBtmp pieces, utmpSize ∣ call.2

variable {isBtmp : Bool} {content : List UInt8}

/-- A call finds the logs of the new bytes and reads up to the end. -/
theorem poll_readUp (isBtmp : Bool) (content bytes : List UInt8) :
    (UtmpFile.readUp content).poll isBtmp bytes =
      ((sightings isBtmp content.length bytes).map Sighting.log, .readUp (content ++ bytes)) := by
  have hle : ((UtmpFile.readUp content).append bytes).offset ≤
      ((UtmpFile.readUp content).append bytes).content.length := by
    simp [UtmpFile.readUp, UtmpFile.append]
  have hunread : ((UtmpFile.readUp content).append bytes).unread isBtmp =
      sightings isBtmp content.length bytes := by
    simp [UtmpFile.unread, UtmpFile.readUp, UtmpFile.append]
  obtain ⟨hlogs, hend⟩ := readUtmpFile_of_reads isBtmp reads_fileReads hle
  rw [UtmpFile.poll, hlogs, hend, hunread]
  rfl

/-- Pieces of complete records give the logs of the whole. -/
theorem logs_polls {pieces : List (List UInt8)} (h : ∀ bytes ∈ pieces, utmpSize ∣ bytes.length) :
    ((UtmpFile.readUp content).polls isBtmp pieces).flatMap Prod.fst =
      (sightings isBtmp content.length pieces.flatten).map Sighting.log := by
  induction pieces generalizing content with
  | nil =>
    rw [List.flatten_nil, sightings_nil]
    rfl
  | cons bytes pieces ih =>
    obtain ⟨hbytes, hpieces⟩ := List.forall_mem_cons.mp h
    rw [UtmpFile.polls, poll_readUp]
    dsimp only
    rw [List.flatMap_cons, ih hpieces, List.flatten_cons, sightings_append hbytes, List.map_append,
      List.length_append]

/-- Every offset is at the end of a record just if every piece is made of complete records. -/
theorem boundary_iff (hcontent : utmpSize ∣ content.length) (pieces : List (List UInt8)) :
    (∀ call ∈ (UtmpFile.readUp content).polls isBtmp pieces, utmpSize ∣ call.2) ↔
      ∀ bytes ∈ pieces, utmpSize ∣ bytes.length := by
  induction pieces generalizing content with
  | nil => exact iff_of_true nofun nofun
  | cons bytes pieces ih =>
    rw [UtmpFile.polls, poll_readUp]
    dsimp only
    rw [List.forall_mem_cons, List.forall_mem_cons]
    have hfirst :
        utmpSize ∣ (UtmpFile.readUp (content ++ bytes)).offset ↔ utmpSize ∣ bytes.length := by
      rw [UtmpFile.readUp, List.length_append]
      exact (Nat.dvd_add_iff_right hcontent).symm
    rw [hfirst]
    refine and_congr_right fun hbytes => ih ?_
    rw [List.length_append]
    exact Nat.dvd_add hcontent hbytes

/-- Reading the pieces of a file is reading the whole just if every piece is made of complete
records. -/
theorem readsAsOne_iff (hcontent : utmpSize ∣ content.length) (pieces : List (List UInt8)) :
    ReadsAsOne isBtmp content pieces ↔ ∀ bytes ∈ pieces, utmpSize ∣ bytes.length := by
  constructor
  · exact fun h => (boundary_iff hcontent pieces).mp h.boundary
  · intro h
    refine ⟨?_, (boundary_iff hcontent pieces).mpr h⟩
    rw [logs_polls h, poll_readUp]

/-- Two logins in one read are two logins. -/
theorem readsAsOne_two_logins : ReadsAsOne true [] [loginRecord 1, loginRecord 2] := by
  refine (readsAsOne_iff (Nat.dvd_zero _) _).mpr ?_
  intro bytes hbytes
  rcases List.mem_pair.mp hbytes with rfl | rfl
  · exact ⟨1, length_loginRecord 1⟩
  · exact ⟨1, length_loginRecord 2⟩

/-- The record of a login is written in two pieces, and is not found. -/
theorem login_in_pieces_lost :
    ¬∀ (isBtmp : Bool) (content : List UInt8), utmpSize ∣ content.length →
      ∀ pieces, ReadsAsOne isBtmp content pieces := by
  intro hall
  have hlength := length_loginRecord 1
  have hshort {bytes : List UInt8} (h : bytes.length < utmpSize) (position : ℕ) :
      sightings true position bytes = [] := by
    rw [sightings, Records.entries_of_lt h, List.map_nil]
  have htake : ((loginRecord 1).take 200).length < utmpSize := by
    rw [List.length_take, hlength]
    decide
  have hdrop : ((loginRecord 1).drop 200).length < utmpSize := by
    rw [List.length_drop, hlength]
    decide
  have hlogs := (hall true [] (Nat.dvd_zero _)
    [(loginRecord 1).take 200, (loginRecord 1).drop 200]).logs
  have hwhole : [(loginRecord 1).take 200, (loginRecord 1).drop 200].flatten = loginRecord 1 := by
    simp
  rw [hwhole, poll_readUp, sightings_loginRecord] at hlogs
  simp only [UtmpFile.polls, poll_readUp, hshort htake, hshort hdrop, List.map_nil,
    List.flatMap_cons, List.flatMap_nil, List.append_nil] at hlogs
  exact List.cons_ne_nil _ _ hlogs.symm

end LinuxAgent.Task.SshLogin
