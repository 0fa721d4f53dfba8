import LinuxAgent.Lib.Utf8
import Mathlib.Data.List.Destutter

/-!
# Logs of network connections

The kernel writes connections into two rings in shared memory, one for internal and
one for external communication, and announces index ranges of them. The handlers of
`net_service_log.rs` read the records in such a range, leave out repetitions and make
log entries of the rest.
-/

namespace LinuxAgent.Reporter

/-- An address as the kernel writes it. The source's union of views is kept as its bytes. -/
structure IpAddrUnion where
  /-- The bytes, in memory order. -/
  asU8 : Vector UInt8 16
  deriving DecidableEq

/-- The first word of an address, which is only compared, as its bytes. -/
def IpAddrUnion.firstWord (addr : IpAddrUnion) : List UInt8 := addr.asU8.toList.take 8

/-- The second word of an address, as its bytes. -/
def IpAddrUnion.secondWord (addr : IpAddrUnion) : List UInt8 := addr.asU8.toList.drop 8

/-- An address of either family. -/
inductive IpAddr where
  | v4 (a b c d : UInt8)
  | v6 (bytes : Vector UInt8 16)
  deriving DecidableEq

/-- An IPv4 address has twelve zero bytes before it. -/
def ip46AddressIsIp4 (addr : IpAddrUnion) : Bool := (addr.asU8.toList.take 12).all (· == 0)

/-- The address to report. The two conversions of an IPv4 word cancel and give its
bytes in memory order. -/
def toIpaddrHostOrder (addr : IpAddrUnion) : IpAddr :=
  if ip46AddressIsIp4 addr then
    .v4 addr.asU8[12] addr.asU8[13] addr.asU8[14] addr.asU8[15]
  else .v6 addr.asU8

/-- One record of a ring. -/
structure OsecNetworkReport where
  src : IpAddrUnion
  srcPort : UInt16
  dst : IpAddrUnion
  destPort : UInt16
  pid : UInt32
  comm : Vector UInt8 128
  deriving DecidableEq

/-- `u16::to_be` on a little-endian machine. -/
def toBe (port : UInt16) : UInt16 := (port <<< 8) ||| (port >>> 8)

/-- Two records are of different connections. -/
def isChange (last current : OsecNetworkReport) : Bool :=
  let srcChanged := last.src.firstWord != current.src.firstWord ||
    last.src.secondWord != current.src.secondWord
  let dstChanged := last.dst.firstWord != current.dst.firstWord ||
    last.dst.secondWord != current.dst.secondWord
  let srcPortChanged := toBe last.srcPort != toBe current.srcPort
  let destPortChanged := toBe last.destPort != toBe current.destPort
  let pidChanged := last.pid != current.pid
  srcChanged || dstChanged || srcPortChanged || destPortChanged || pidChanged

/-- The rings of `n` records each. They are the two halves of one mapping. -/
structure ZcopyMgr (n : ℕ) where
  inNetlog : Fin n → OsecNetworkReport
  outNetlog : Fin n → OsecNetworkReport
  inNetlogAuditSucceed : Bool
  outNetlogAuditSucceed : Bool
  fileAuditSucceed : Bool
  /-- The second half is there when the mapping is. -/
  shared : outNetlogAuditSucceed = inNetlogAuditSucceed
  /-- The rings hold something. -/
  count_pos : 0 < n

variable {n : ℕ}

/-- The place of an index in rings of `n` records. -/
def ZcopyMgr.slot (mgr : ZcopyMgr n) (idx : ℕ) : Fin n := ⟨idx % n, Nat.mod_lt idx mgr.count_pos⟩

/-- The record of the internal ring at an index, counted round the ring. -/
def ZcopyMgr.getInNetlogAuditData (mgr : ZcopyMgr n) (idx : ℕ) : Option OsecNetworkReport :=
  if mgr.inNetlogAuditSucceed then some (mgr.inNetlog (mgr.slot idx)) else none

/-- The record of the external ring at an index, counted round the ring. -/
def ZcopyMgr.getOutNetlogAuditData (mgr : ZcopyMgr n) (idx : ℕ) : Option OsecNetworkReport :=
  if mgr.outNetlogAuditSucceed then some (mgr.outNetlog (mgr.slot idx)) else none

/-- The announcement of an index range. A `maxIdx` other than zero says that the range
goes round the end of the ring. -/
structure NetlinkNetlog where
  startIdx : UInt32
  endIdx : UInt32
  maxIdx : UInt32
  deriving DecidableEq

/-- `size_of::<NetlinkNetlog>()`. -/
def netlinkNetlogSize : UInt32 := 12

/-- The variables of the loops: the record last taken, and the records taken. -/
structure Scan where
  preReport : Option OsecNetworkReport := none
  records : List OsecNetworkReport := []

/-- Taking a record. -/
def Scan.take (s : Scan) (report : OsecNetworkReport) : Scan :=
  { preReport := some report, records := s.records ++ [report] }

/-- The body of the loops: a record is left out when it repeats the one last taken. -/
def Scan.visit (get : ℕ → Option OsecNetworkReport) (s : Scan) (idx : ℕ) : Scan :=
  match get idx with
  | none => s
  | some report =>
    match s.preReport with
    | some pre => if !isChange report pre then s else s.take report
    | none => s.take report

/-- The loop over the indices from `start` up to `stop`. -/
def Scan.range (get : ℕ → Option OsecNetworkReport) (start stop : UInt32) (s : Scan) : Scan :=
  (List.range' start.toNat (stop.toNat - start.toNat)).foldl (Scan.visit get) s

/-- The records that a handler takes. Each of its three loops has a ring of its own to
read from: the plain one, and the two of a range that goes round the end. -/
def selectRecords (plain low high : ℕ → Option OsecNetworkReport) (netlog : NetlinkNetlog) :
    Except String (List OsecNetworkReport) :=
  if netlog.maxIdx = 0 then
    if netlog.endIdx ≤ netlog.startIdx then
      .error ("无效索引范围: start_idx=" ++ toString netlog.startIdx.toNat ++ " >= end_idx=" ++
        toString netlog.endIdx.toNat)
    else .ok (Scan.range plain netlog.startIdx netlog.endIdx {}).records
  else
    let s := Scan.range low 0 netlog.startIdx {}
    .ok (Scan.range high netlog.endIdx netlog.maxIdx s).records

/-- The indices that a handler visits, in order. -/
def NetlinkNetlog.indices (netlog : NetlinkNetlog) : List ℕ :=
  if netlog.maxIdx = 0 then
    List.range' netlog.startIdx.toNat (netlog.endIdx.toNat - netlog.startIdx.toNat)
  else
    List.range' 0 netlog.startIdx.toNat ++
      List.range' netlog.endIdx.toNat (netlog.maxIdx.toNat - netlog.endIdx.toNat)

/-- A record is taken after another one if it is of a different connection. -/
def Changes (pre report : OsecNetworkReport) : Prop := isChange report pre = true

instance : DecidableRel Changes := fun pre report =>
  inferInstanceAs (Decidable (isChange report pre = true))

/-- What a loop adds to the records taken before it. -/
def collapseAfter (pre : Option OsecNetworkReport) (reports : List OsecNetworkReport) :
    List OsecNetworkReport :=
  match pre with
  | none => reports.destutter Changes
  | some pre => (reports.destutter' Changes pre).tail

/-- Collapsing from a record on keeps that record in front. -/
theorem cons_tail_destutter' (pre : OsecNetworkReport) (reports : List OsecNetworkReport) :
    pre :: (reports.destutter' Changes pre).tail = reports.destutter' Changes pre := by
  induction reports with
  | nil => rfl
  | cons report reports ih =>
    rw [List.destutter'_cons]
    split
    · rfl
    · exact ih

/-- Visiting a record adds what collapsing from the record last taken on keeps of it. -/
theorem Scan.records_visit_append {get : ℕ → Option OsecNetworkReport} {idx : ℕ}
    {report : OsecNetworkReport} (hget : get idx = some report) (s : Scan)
    (reports : List OsecNetworkReport) :
    (s.visit get idx).records ++ collapseAfter (s.visit get idx).preReport reports =
      s.records ++ collapseAfter s.preReport (report :: reports) := by
  cases hpre : s.preReport with
  | none =>
    have hvisit : s.visit get idx = s.take report := by simp [Scan.visit, hget, hpre]
    rw [hvisit, Scan.take]
    simp only [collapseAfter, List.append_assoc, List.singleton_append, cons_tail_destutter',
      List.destutter_cons']
  | some pre =>
    by_cases hchange : Changes pre report
    · have hvisit : s.visit get idx = s.take report := by
        simp [Scan.visit, hget, hpre, show isChange report pre = true from hchange]
      rw [hvisit, Scan.take]
      simp only [collapseAfter, List.append_assoc, List.singleton_append, cons_tail_destutter',
        List.destutter'_cons_pos _ hchange, List.tail_cons]
    · have hvisit : s.visit get idx = s := by
        simp [Scan.visit, hget, hpre,
          show isChange report pre = false by simpa [Changes] using hchange]
      rw [hvisit, hpre]
      simp only [collapseAfter, List.destutter'_cons_neg _ hchange]

/-- The records that a loop takes. -/
theorem Scan.records_foldl_visit (get : ℕ → Option OsecNetworkReport) (idxs : List ℕ) (s : Scan) :
    (idxs.foldl (Scan.visit get) s).records =
      s.records ++ collapseAfter s.preReport (idxs.filterMap get) := by
  induction idxs generalizing s with
  | nil => cases hpre : s.preReport <;> simp [collapseAfter]
  | cons idx idxs ih =>
    rw [List.foldl_cons, ih]
    cases hget : get idx with
    | none =>
      have hvisit : s.visit get idx = s := by simp [Scan.visit, hget]
      rw [List.filterMap_cons_none hget, hvisit]
    | some report =>
      rw [List.filterMap_cons_some hget, Scan.records_visit_append hget]

/-- In a range that goes round the end, the records at its indices are taken from the ring
of the last two loops, less repetitions. -/
theorem selectRecords_of_wrapped {plain get : ℕ → Option OsecNetworkReport} {netlog : NetlinkNetlog}
    (hwrapped : netlog.maxIdx ≠ 0) :
    selectRecords plain get get netlog =
      .ok ((netlog.indices.filterMap get).destutter Changes) := by
  rw [selectRecords, if_neg hwrapped, NetlinkNetlog.indices, if_neg hwrapped]
  simp only [Scan.range, UInt32.toNat_zero, Nat.sub_zero]
  rw [← List.foldl_append, Scan.records_foldl_visit]
  rfl

/-- An entry of the log. The addresses stand for their texts. -/
structure SysNetLog where
  uid : Option String
  pId : Int32
  pDir : Option String
  resIp : Option IpAddr
  rsPort : UInt16
  proto : UInt32
  time : Int32
  logType : Int32
  hash : Option String
  sourceIp : Option IpAddr
  sourcePort : UInt16
  deriving DecidableEq

/-- What is known of the process behind a port. -/
structure PortBusinessInfo where
  pid : Int32
  processPath : String

/-- What the handlers use of the rest of the agent. -/
structure Env where
  /-- The time of the call in seconds. -/
  currentTime : Int32
  /-- `get_port_from_state`. -/
  getPortFromState : UInt16 → Option PortBusinessInfo
  /-- `get_md5_global`. -/
  getMd5Global : String → Except String String
  /-- A client for the upload can be created. -/
  netClient : Bool

/-- The name of a process, up to the byte that ends it. -/
def OsecNetworkReport.commText (report : OsecNetworkReport) : String :=
  String.ofList (Utf8.lossy (report.comm.toList.takeWhile (· ≠ 0)))

/-- The entry of a record before anything is looked up for it. -/
def OsecNetworkReport.sysLog (report : OsecNetworkReport) (env : Env) (logType : Int32) :
    SysNetLog where
  uid := none
  pId := report.pid.toInt32
  pDir := some report.commText
  resIp := some (toIpaddrHostOrder report.dst)
  rsPort := toBe report.destPort
  proto := 6
  time := env.currentTime
  logType := logType
  hash := none
  sourceIp := some (toIpaddrHostOrder report.src)
  sourcePort := toBe report.srcPort

/-- Adding the hash of the program, if there is a program with a hash. -/
def SysNetLog.addHash (env : Env) (log : SysNetLog) : SysNetLog :=
  match log.pDir with
  | none => log
  | some pDir =>
    if pDir.isEmpty then log
    else { log with hash := (env.getMd5Global pDir).toOption }

/-- The entry of an internal connection names the process behind one of its ports. -/
def internalEntry (env : Env) (report : OsecNetworkReport) : SysNetLog :=
  let sysLog := report.sysLog env 3
  match (env.getPortFromState sysLog.sourcePort).or (env.getPortFromState sysLog.rsPort) with
  | some business =>
    let pId := if 0 < business.pid then business.pid else sysLog.pId
    SysNetLog.addHash env { sysLog with pId := pId, pDir := some business.processPath }
  | none => sysLog

/-- The entry of an external connection. -/
def externalEntry (env : Env) (report : OsecNetworkReport) : SysNetLog :=
  SysNetLog.addHash env (report.sysLog env 2)

/-- What a call of a handler does. -/
structure Outcome where
  /-- The records that are turned into entries. -/
  records : List OsecNetworkReport
  /-- The entries to upload. -/
  vecNetLog : List SysNetLog
  result : Except String Unit

/-- Uploading the entries. Only a missing client is an error; what the server answers
is not looked at. -/
def upload (env : Env) (entry : OsecNetworkReport → SysNetLog)
    (records : List OsecNetworkReport) : Outcome where
  records := records
  vecNetLog := records.map entry
  result := if !records.isEmpty && !env.netClient then .error "创建 NetClient 失败" else .ok ()

/-- The frame of both handlers: the checks, the selection of the records, their entries. -/
def handleCommunicationLog (env : Env) (mgr : ZcopyMgr n)
    (selection : Except String (List OsecNetworkReport)) (entry : OsecNetworkReport → SysNetLog)
    (dataLen : UInt32) : Outcome :=
  if dataLen < netlinkNetlogSize then
    { records := [], vecNetLog := [],
      result := .error ("数据长度太小，期望至少 " ++ toString netlinkNetlogSize.toNat ++
        " 字节，实际是 " ++ toString dataLen.toNat ++ " 字节") }
  else if !mgr.fileAuditSucceed then
    { records := [], vecNetLog := [], result := .error "ZcopyMgr file audit not initialized" }
  else
    match selection with
    | .error e => { records := [], vecNetLog := [], result := .error e }
    | .ok records => upload env entry records

/-- `handle_internal_communication_log`: all loops read the internal ring. -/
def handleInternalCommunicationLog (env : Env) (mgr : ZcopyMgr n) (netlog : NetlinkNetlog)
    (dataLen : UInt32) : Outcome :=
  handleCommunicationLog env mgr
    (selectRecords mgr.getInNetlogAuditData mgr.getInNetlogAuditData mgr.getInNetlogAuditData
      netlog)
    (internalEntry env) dataLen

/-- `handle_external_communication_log`: the plain loop reads the external ring, the two
others the internal one. -/
def handleExternalCommunicationLog (env : Env) (mgr : ZcopyMgr n) (netlog : NetlinkNetlog)
    (dataLen : UInt32) : Outcome :=
  handleCommunicationLog env mgr
    (selectRecords mgr.getOutNetlogAuditData mgr.getInNetlogAuditData mgr.getInNetlogAuditData
      netlog)
    (externalEntry env) dataLen

/-- Some index is visited in a range that goes round the end. -/
theorem NetlinkNetlog.indices_eq_nil_iff {netlog : NetlinkNetlog} (hwrapped : netlog.maxIdx ≠ 0) :
    netlog.indices = [] ↔ netlog.startIdx = 0 ∧ netlog.maxIdx ≤ netlog.endIdx := by
  rw [NetlinkNetlog.indices, if_neg hwrapped, List.append_eq_nil_iff, List.range'_eq_nil_iff,
    List.range'_eq_nil_iff, UInt32.le_iff_toNat_le, ← UInt32.toNat_inj, UInt32.toNat_zero]
  omega

/-- A record of another process than that of a given record. -/
def OsecNetworkReport.otherPid (report : OsecNetworkReport) : OsecNetworkReport :=
  { report with pid := report.pid + 1 }

/-- The report of another process is another one. -/
theorem OsecNetworkReport.otherPid_ne (report : OsecNetworkReport) : report ≠ report.otherPid := by
  intro h
  have hpid := congrArg (fun r => r.pid.toNat) h
  simp only [OsecNetworkReport.otherPid, UInt32.toNat_add] at hpid
  have := report.pid.toNat_lt
  simp at hpid
  omega

/-- The rings, with other contents of the internal one. -/
def ZcopyMgr.withInNetlog (mgr : ZcopyMgr n) (ring : Fin n → OsecNetworkReport) : ZcopyMgr n :=
  { mgr with inNetlog := ring }

/-- The external ring in place of the internal one. -/
theorem ZcopyMgr.getIn_withInNetlog_out (mgr : ZcopyMgr n) :
    (mgr.withInNetlog mgr.outNetlog).getInNetlogAuditData = mgr.getOutNetlogAuditData := by
  funext idx
  simp only [ZcopyMgr.getInNetlogAuditData, ZcopyMgr.getOutNetlogAuditData,
    ZcopyMgr.withInNetlog, ZcopyMgr.slot, mgr.shared]

/-- Reading a ring that is the same record throughout. -/
theorem ZcopyMgr.eq_of_getIn_constant {mgr : ZcopyMgr n} {report r : OsecNetworkReport} {idx : ℕ}
    (h : (mgr.withInNetlog fun _ => report).getInNetlogAuditData idx = some r) : r = report := by
  rw [ZcopyMgr.getInNetlogAuditData] at h
  split at h
  · exact (Option.some.inj h).symm
  · cases h

/-- Nothing is read from rings that are not mapped. -/
theorem ZcopyMgr.getIn_of_not_mapped (mgr : ZcopyMgr n) (h : mgr.inNetlogAuditSucceed = false) :
    mgr.getInNetlogAuditData = fun _ => none := by
  funext idx
  rw [ZcopyMgr.getInNetlogAuditData, h]
  rfl

/-- The records that a handler turns into entries are those of its selection, unless a
check fails. -/
theorem records_handleCommunicationLog (env : Env) (mgr : ZcopyMgr n)
    (selection : Except String (List OsecNetworkReport)) (entry : OsecNetworkReport → SysNetLog)
    (dataLen : UInt32) :
    (handleCommunicationLog env mgr selection entry dataLen).records =
      if dataLen < netlinkNetlogSize ∨ mgr.fileAuditSucceed = false then []
      else selection.toOption.getD [] := by
  by_cases hlen : dataLen < netlinkNetlogSize
  · simp [handleCommunicationLog, hlen]
  · cases haudit : mgr.fileAuditSucceed with
    | false => simp [handleCommunicationLog, hlen, haudit]
    | true =>
      cases selection <;> simp [handleCommunicationLog, hlen, haudit, upload, Except.toOption]

/-- The records of the external handler. -/
theorem records_handleExternal (env : Env) (mgr : ZcopyMgr n) (ring : Fin n → OsecNetworkReport)
    (netlog : NetlinkNetlog) (dataLen : UInt32) :
    (handleExternalCommunicationLog env (mgr.withInNetlog ring) netlog dataLen).records =
      if dataLen < netlinkNetlogSize ∨ mgr.fileAuditSucceed = false then []
      else (selectRecords mgr.getOutNetlogAuditData (mgr.withInNetlog ring).getInNetlogAuditData
        (mgr.withInNetlog ring).getInNetlogAuditData netlog).toOption.getD [] :=
  records_handleCommunicationLog ..

/-- The records of the internal handler with the external ring in place of the internal one. -/
theorem records_handleInternal_out (env : Env) (mgr : ZcopyMgr n) (netlog : NetlinkNetlog)
    (dataLen : UInt32) :
    (handleInternalCommunicationLog env (mgr.withInNetlog mgr.outNetlog) netlog dataLen).records =
      if dataLen < netlinkNetlogSize ∨ mgr.fileAuditSucceed = false then []
      else (selectRecords mgr.getOutNetlogAuditData mgr.getOutNetlogAuditData
        mgr.getOutNetlogAuditData netlog).toOption.getD [] := by
  rw [handleInternalCommunicationLog, mgr.getIn_withInNetlog_out]
  exact records_handleCommunicationLog ..

/-- In a range that goes round the end some internal ring makes a difference. -/
theorem exists_ring_of_wrapped {mgr : ZcopyMgr n} {netlog : NetlinkNetlog} {idx : ℕ}
    {idxs : List ℕ} (hmapped : mgr.inNetlogAuditSucceed = true)
    (hindices : netlog.indices = idx :: idxs) :
    ∃ ring, (netlog.indices.filterMap
        (mgr.withInNetlog ring).getInNetlogAuditData).destutter Changes ≠
      (netlog.indices.filterMap mgr.getOutNetlogAuditData).destutter Changes := by
  have hget : mgr.getOutNetlogAuditData idx = some (mgr.outNetlog (mgr.slot idx)) := by
    rw [ZcopyMgr.getOutNetlogAuditData, mgr.shared, hmapped]
    rfl
  generalize mgr.outNetlog (mgr.slot idx) = first at hget
  refine ⟨fun _ => first.otherPid, fun heq => first.otherPid_ne ?_⟩
  have hfirst : first ∈ (netlog.indices.filterMap mgr.getOutNetlogAuditData).destutter Changes := by
    rw [hindices, List.filterMap_cons_some hget, List.destutter_cons']
    exact List.mem_destutter' _ _ first
  rw [← heq] at hfirst
  obtain ⟨idx', -, hidx'⟩ :=
    List.mem_filterMap.mp ((List.destutter_sublist Changes _).subset hfirst)
  exact ZcopyMgr.eq_of_getIn_constant hidx'

/-- **The external log handler reads the external ring**, whatever the internal one
holds, exactly when it takes no record from a range that goes round the end. -/
theorem external_log_reads_out_ring_iff (env : Env) (mgr : ZcopyMgr n) (netlog : NetlinkNetlog)
    (dataLen : UInt32) :
    (∀ ring,
      (handleExternalCommunicationLog env (mgr.withInNetlog ring) netlog dataLen).records =
      (handleInternalCommunicationLog env (mgr.withInNetlog mgr.outNetlog) netlog
        dataLen).records) ↔
    dataLen < netlinkNetlogSize ∨ mgr.fileAuditSucceed = false ∨
      mgr.inNetlogAuditSucceed = false ∨ netlog.maxIdx = 0 ∨
      (netlog.startIdx = 0 ∧ netlog.maxIdx ≤ netlog.endIdx) := by
  simp only [records_handleExternal, records_handleInternal_out]
  rw [← or_assoc]
  by_cases hreject : dataLen < netlinkNetlogSize ∨ mgr.fileAuditSucceed = false
  · refine iff_of_true (fun ring => ?_) (.inl hreject)
    rw [if_pos hreject, if_pos hreject]
  rw [or_iff_right hreject, if_neg hreject]
  by_cases hplain : netlog.maxIdx = 0
  · refine iff_of_true (fun ring => ?_) (.inr (.inl hplain))
    rw [if_neg hreject, selectRecords, selectRecords, if_pos hplain, if_pos hplain]
  simp only [if_neg hreject, selectRecords_of_wrapped hplain, Except.toOption, Option.getD_some]
  rw [or_iff_right hplain, ← NetlinkNetlog.indices_eq_nil_iff hplain]
  constructor
  · intro h
    by_contra hnot
    obtain ⟨hmapped, hindices⟩ := not_or.mp hnot
    obtain ⟨idx, idxs, hcons⟩ := List.exists_cons_of_ne_nil hindices
    obtain ⟨ring, hring⟩ := exists_ring_of_wrapped (by simpa using hmapped) hcons
    exact hring (h ring)
  · rintro (hmapped | hempty) ring
    · have hnone : mgr.getOutNetlogAuditData = fun _ => none := by
        rw [← mgr.getIn_withInNetlog_out]
        exact ZcopyMgr.getIn_of_not_mapped _ hmapped
      rw [hnone, (mgr.withInNetlog ring).getIn_of_not_mapped hmapped]
    · rw [hempty, List.filterMap_nil, List.filterMap_nil]

/-- A connection of a process, otherwise all zero. -/
def connectionOf (pid : UInt32) : OsecNetworkReport where
  src := ⟨Vector.replicate 16 0⟩
  srcPort := 0
  dst := ⟨Vector.replicate 16 0⟩
  destPort := 0
  pid := pid
  comm := Vector.replicate 128 0

/-- Rings of two records: internal connections of process 1, external ones of process 2. -/
def twoRings : ZcopyMgr 2 where
  inNetlog := fun _ => connectionOf 1
  outNetlog := fun _ => connectionOf 2
  inNetlogAuditSucceed := true
  outNetlogAuditSucceed := true
  fileAuditSucceed := true
  shared := rfl
  count_pos := by decide

/-- An agent without business ports and hashes. -/
def bareEnv : Env where
  currentTime := 0
  getPortFromState := fun _ => none
  getMd5Global := fun path => .error path
  netClient := true

/-- A range that goes round the end, with the indices 0 and 1: the external handler
reports the internal connection. -/
theorem external_log_reads_in_ring :
    (handleExternalCommunicationLog bareEnv twoRings ⟨1, 1, 2⟩ 12).records = [connectionOf 1] ∧
    (handleInternalCommunicationLog bareEnv (twoRings.withInNetlog twoRings.outNetlog) ⟨1, 1, 2⟩
      12).records = [connectionOf 2] ∧
    (handleExternalCommunicationLog bareEnv twoRings ⟨1, 1, 2⟩ 12).records ≠
      (handleInternalCommunicationLog bareEnv (twoRings.withInNetlog twoRings.outNetlog) ⟨1, 1, 2⟩
        12).records := by
  refine ⟨rfl, rfl, fun h => ?_⟩
  have hpids : [(1 : UInt32)] = [2] := congrArg (List.map OsecNetworkReport.pid) h
  exact absurd hpids (by decide)

end LinuxAgent.Reporter
