import LinuxAgent.Reporter.NetLog

/-!
# The selection of the internal log

`handle_internal_communication_log` turns the records of an index range into log
entries. It reads the internal ring throughout, so its selection is the sequence of
the records in the range less those that repeat the connection of the record last
kept. The comparison goes on from the first loop of a range round the end to the
second one.
-/

namespace LinuxAgent.Reporter

variable {n : ℕ}

/-- Two records are of the same connection: they have the same addresses, ports and process. -/
def SameConnection (a b : OsecNetworkReport) : Prop :=
  a.src = b.src ∧ a.dst = b.dst ∧ a.srcPort = b.srcPort ∧ a.destPort = b.destPort ∧ a.pid = b.pid

instance : DecidableRel SameConnection := fun _ _ => inferInstanceAs (Decidable (_ ∧ _))

/-- Two records are not of the same connection. -/
def Differs (a b : OsecNetworkReport) : Prop := ¬SameConnection a b

instance : DecidableRel Differs := fun _ _ => inferInstanceAs (Decidable (¬_))

/-- The records at the indices of a range, counted round the internal ring. -/
def NetlinkNetlog.visited (netlog : NetlinkNetlog) (mgr : ZcopyMgr n) : List OsecNetworkReport :=
  netlog.indices.map fun idx => mgr.inNetlog (mgr.slot idx)

/-- Changing the byte order twice changes nothing. -/
theorem toBe_toBe (port : UInt16) : toBe (toBe port) = port := by
  rw [← UInt16.toBitVec_inj]
  ext i hi
  have hover : port.toBitVec.getLsbD (8 + (8 + i)) = false := BitVec.getLsbD_of_ge _ _ (by omega)
  have hbit : port.toBitVec.getLsbD i = port.toBitVec[i] := BitVec.getLsbD_eq_getElem hi
  simp only [toBe, UInt16.toBitVec_or, UInt16.toBitVec_shiftLeft, UInt16.toBitVec_shiftRight]
  by_cases hlow : i < 8
  · simp [hlow, hover, show 8 + i < 16 by omega]
  · simp [hlow, hover, hbit, show i - 8 < 8 by omega, show 8 + (i - 8) = i by omega,
      show ¬8 + i < 16 by omega]

/-- Different ports stay different in the other byte order. -/
theorem toBe_inj {a b : UInt16} : toBe a = toBe b ↔ a = b := by
  refine ⟨fun h => ?_, congrArg toBe⟩
  rw [← toBe_toBe a, h, toBe_toBe]

/-- Two addresses are the same if their words are. -/
theorem IpAddrUnion.eq_iff {a b : IpAddrUnion} :
    a = b ↔ a.firstWord = b.firstWord ∧ a.secondWord = b.secondWord := by
  refine ⟨fun h => h ▸ ⟨rfl, rfl⟩, fun ⟨hfirst, hsecond⟩ => ?_⟩
  have hlist : a.asU8.toList = b.asU8.toList := by
    rw [← List.take_append_drop 8 a.asU8.toList, ← List.take_append_drop 8 b.asU8.toList]
    exact congrArg₂ (· ++ ·) hfirst hsecond
  obtain ⟨bytes⟩ := a
  obtain ⟨bytes'⟩ := b
  exact congrArg IpAddrUnion.mk (Vector.toList_inj.mp hlist)

/-- `is_change` compares the five fields. -/
theorem isChange_iff {last current : OsecNetworkReport} :
    isChange last current = true ↔ ¬SameConnection last current := by
  simp only [isChange, SameConnection, IpAddrUnion.eq_iff, toBe_inj, Bool.or_eq_true,
    bne_iff_ne, ne_eq]
  tauto

/-- A record is taken after another one if it is of another connection. -/
theorem changes_iff_differs {pre report : OsecNetworkReport} :
    Changes pre report ↔ Differs pre report := by
  rw [Changes, isChange_iff, Differs, SameConnection, SameConnection]
  simp only [eq_comm]

/-- Leaving out what does not change is leaving out what does not differ. -/
theorem destutter_changes (reports : List OsecNetworkReport) :
    reports.destutter Changes = reports.destutter Differs := by
  have hmap : (reports.destutter Changes).map id = (reports.map id).destutter Differs :=
    List.map_destutter fun _ _ _ _ => changes_iff_differs
  rwa [List.map_id, List.map_id] at hmap

/-- Every record is of the same connection as one that is kept. -/
theorem exists_kept {reports : List OsecNetworkReport} {report : OsecNetworkReport}
    (h : report ∈ reports) : ∃ kept ∈ reports.destutter Differs, SameConnection report kept := by
  have hafter (reports : List OsecNetworkReport) (last : OsecNetworkReport) :
      ∀ report ∈ reports, ∃ kept ∈ reports.destutter' Differs last, SameConnection report kept := by
    induction reports generalizing last with
    | nil => exact fun _ hmem => absurd hmem List.not_mem_nil
    | cons next rest ih =>
      refine List.forall_mem_cons.mpr ?_
      by_cases hdiffers : Differs last next
      · rw [List.destutter'_cons_pos _ hdiffers]
        refine ⟨⟨next, List.mem_cons_of_mem _ (List.mem_destutter' _ _ _), ?_⟩, fun r hr => ?_⟩
        · exact ⟨rfl, rfl, rfl, rfl, rfl⟩
        · obtain ⟨kept, hkept, hsame⟩ := ih next r hr
          exact ⟨kept, List.mem_cons_of_mem _ hkept, hsame⟩
      · rw [List.destutter'_cons_neg _ hdiffers]
        obtain ⟨hsrc, hdst, hsrcPort, hdestPort, hpid⟩ := not_not.mp hdiffers
        exact ⟨⟨last, List.mem_destutter' _ _ _,
          hsrc.symm, hdst.symm, hsrcPort.symm, hdestPort.symm, hpid.symm⟩, ih last⟩
  cases reports with
  | nil => exact absurd h List.not_mem_nil
  | cons first rest =>
    rw [List.destutter_cons']
    rcases List.mem_cons.mp h with rfl | hrest
    · exact ⟨report, List.mem_destutter' _ _ _, rfl, rfl, rfl, rfl, rfl⟩
    · exact hafter rest first report hrest

/-- What a handler selects that reads one ring throughout. -/
theorem selectRecords_same (get : ℕ → Option OsecNetworkReport) {netlog : NetlinkNetlog}
    (h : ¬(netlog.maxIdx = 0 ∧ netlog.endIdx ≤ netlog.startIdx)) :
    selectRecords get get get netlog =
      .ok ((netlog.indices.filterMap get).destutter Changes) := by
  by_cases hplain : netlog.maxIdx = 0
  · rw [selectRecords, if_pos hplain, if_neg fun hle => h ⟨hplain, hle⟩, NetlinkNetlog.indices,
      if_pos hplain, Scan.range, Scan.records_foldl_visit]
    rfl
  · exact selectRecords_of_wrapped hplain

/-- Reading the mapped ring at the indices of a range. -/
theorem filterMap_getIn {mgr : ZcopyMgr n} (hmapped : mgr.inNetlogAuditSucceed = true)
    (netlog : NetlinkNetlog) :
    netlog.indices.filterMap mgr.getInNetlogAuditData = netlog.visited mgr := by
  have hget : mgr.getInNetlogAuditData = fun idx => some (mgr.inNetlog (mgr.slot idx)) := by
    funext idx
    rw [ZcopyMgr.getInNetlogAuditData, if_pos hmapped]
  rw [hget, NetlinkNetlog.visited, List.filterMap_eq_map']

end LinuxAgent.Reporter
