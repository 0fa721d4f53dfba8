import LinuxAgent.Lib.Text

/-!
# The rings of the kernel in shared memory

`ZcopyMgr` maps five regions of a UIO device. Each of them is a ring of records of one
kind, but for the first one, which holds two rings of network reports one after the
other. The sizes of the regions are read from sysfs. An index is counted round the ring,
and the record is read without a check.
-/

namespace LinuxAgent.Zcopy

/-- The regions of the device. -/
inductive MapName
  | map0
  | map1
  | map2
  | map3
  | map4
  deriving DecidableEq

/-- The sizes of the records in bytes. -/
structure RecordSizes where
  /-- `OsecNetworkReport`. -/
  network : ℕ
  /-- `OsecOpenportReport`. -/
  openport : ℕ
  /-- `OsecDnsReport`. -/
  dns : ℕ
  /-- `AvProcessInfo`. -/
  process : ℕ
  /-- `AvFileInfo`. -/
  file : ℕ
  network_pos : 0 < network
  openport_pos : 0 < openport
  dns_pos : 0 < dns
  process_pos : 0 < process
  file_pos : 0 < file

/-- The device, and what the system calls answer. -/
structure Uio where
  /-- The device is found and can be opened. -/
  device : Except String Unit
  pageSize : Except String ℕ
  /-- The text of the file `addr` of a region. -/
  addrText : MapName → Except String String
  /-- The text of the file `size` of a region. -/
  sizeText : MapName → Except String String
  /-- The address of a mapping with a size and an offset in the device, unless it fails. -/
  mmap : ℕ → ℕ → Option ℕ
  /-- Nothing is mapped at the null pointer. -/
  mmap_ne_null : ∀ size offset, mmap size offset ≠ some 0

/-- `trim_start_matches("0x")`. -/
def trimStart0x : List Char → List Char
  | '0' :: 'x' :: cs => trimStart0x cs
  | cs => cs

/-- The value of a hexadecimal digit. -/
def hexValue (c : Char) : Option ℕ :=
  if c.isDigit then some (c.toNat - '0'.toNat)
  else if 'a' ≤ c ∧ c ≤ 'f' then some (c.toNat - 'a'.toNat + 10)
  else if 'A' ≤ c ∧ c ≤ 'F' then some (c.toNat - 'A'.toNat + 10)
  else none

/-- `u64::from_str_radix` with radix 16, which allows a sign. -/
def parseHexU64 (cs : List Char) : Option ℕ :=
  let digits := if cs.head? = some '+' then cs.tail else cs
  if digits = [] then none
  else
    (digits.foldl (fun acc c => acc.bind fun n => (hexValue c).map fun d => 16 * n + d)
      (some 0)).filter fun n => n < UInt64.size

/-- The number in a file of sysfs, of which at most 32 bytes are read. -/
def readNumber (what : String) (text : Except String String) : Except String ℕ := do
  let text ← text
  if text = "" then .error ("Failed to read " ++ what)
  else
    match parseHexU64 (trimStart0x (Text.trimChars (text.toList.take 32))) with
    | some n => .ok n
    | none => .error ("Invalid " ++ what ++ " string")

/-- `read_addr`. -/
def readAddr (text : Except String String) : Except String ℕ := readNumber "address" text

/-- `read_size`. -/
def readSize (text : Except String String) : Except String ℕ := readNumber "size" text

/-- The fields of `ZcopyMgr` for one ring. -/
structure Ring where
  /-- The size of the region, for the rings that begin one. -/
  auditSize : ℕ := 0
  /-- The address of the first record. -/
  cirBuffer : ℕ := 0
  auditTotalCount : ℕ := 0
  auditSucceed : Bool := false

/-- `ZcopyMgr`. -/
structure ZcopyMgr where
  inNetlog : Ring := {}
  inNetlogAuditAddr : ℕ := 0
  outNetlog : Ring := {}
  openportNetlog : Ring := {}
  dnsNetlog : Ring := {}
  process : Ring := {}
  file : Ring := {}

/-- The fields that `map_buffer` sets for a region. -/
def ZcopyMgr.setRing (mgr : ZcopyMgr) (mapName : MapName) (addr : ℕ) (ring : Ring) : ZcopyMgr :=
  match mapName with
  | .map0 => { mgr with inNetlog := ring, inNetlogAuditAddr := addr }
  | .map1 => { mgr with openportNetlog := ring }
  | .map2 => { mgr with dnsNetlog := ring }
  | .map3 => { mgr with process := ring }
  | .map4 => { mgr with file := ring }

/-- `map_buffer`. -/
def ZcopyMgr.mapBuffer (mgr : ZcopyMgr) (uio : Uio) (mapName : MapName) (offset : ℕ)
    (countCalculator : ℕ → ℕ) : Except String ZcopyMgr := do
  let addr ← readAddr (uio.addrText mapName)
  let size ← readSize (uio.sizeText mapName)
  match uio.mmap size offset with
  | none => .error "mmap failed"
  | some buffer => .ok (mgr.setRing mapName addr ⟨size, buffer, countCalculator size, true⟩)

/-- The ring of the external reports, in the second half of the region of the internal ones. -/
def ZcopyMgr.placeOutNetlog (mgr : ZcopyMgr) (sizes : RecordSizes) : ZcopyMgr :=
  if mgr.inNetlog.auditSucceed then
    { mgr with
      outNetlog := {
        cirBuffer := mgr.inNetlog.cirBuffer + mgr.inNetlog.auditTotalCount * sizes.network
        auditTotalCount := mgr.inNetlog.auditTotalCount
        auditSucceed := true } }
  else mgr

/-- `ZcopyMgr::new`. -/
def ZcopyMgr.new (uio : Uio) (sizes : RecordSizes) : Except String ZcopyMgr := do
  uio.device
  let pageSize ← uio.pageSize
  let mgr ← ZcopyMgr.mapBuffer {} uio .map0 0 fun size => size / sizes.network / 2
  let mgr := mgr.placeOutNetlog sizes
  let mgr ← mgr.mapBuffer uio .map1 pageSize fun size => size / sizes.openport
  let mgr ← mgr.mapBuffer uio .map2 (2 * pageSize) fun size => size / sizes.dns
  let mgr ← mgr.mapBuffer uio .map3 (3 * pageSize) fun size => size / sizes.process
  mgr.mapBuffer uio .map4 (4 * pageSize) fun size => size / sizes.file

/-- What an accessor does. -/
inductive Access
  /-- It returns `None`. -/
  | none
  /-- It computes a remainder modulo zero, which is a panic. -/
  | divisionByZero
  /-- It reads the record at an address. -/
  | read (address : ℕ)
  deriving DecidableEq

/-- The accessors, for a ring of records of some size. -/
def Ring.get (ring : Ring) (recordSize idx : ℕ) : Access :=
  if !ring.auditSucceed || ring.cirBuffer = 0 then .none
  else if ring.auditTotalCount = 0 then .divisionByZero
  else .read (ring.cirBuffer + idx % ring.auditTotalCount * recordSize)

section Accessors

variable (mgr : ZcopyMgr) (sizes : RecordSizes)

/-- `get_in_netlog_audit_data`. -/
def ZcopyMgr.getInNetlogAuditData : ℕ → Access := mgr.inNetlog.get sizes.network

/-- `get_out_netlog_audit_data`. -/
def ZcopyMgr.getOutNetlogAuditData : ℕ → Access := mgr.outNetlog.get sizes.network

/-- `get_openport_log_audit_data`. -/
def ZcopyMgr.getOpenportLogAuditData : ℕ → Access := mgr.openportNetlog.get sizes.openport

/-- `get_dns_log_audit_data`. -/
def ZcopyMgr.getDnsLogAuditData : ℕ → Access := mgr.dnsNetlog.get sizes.dns

/-- `get_process_audit_data`. -/
def ZcopyMgr.getProcessAuditData : ℕ → Access := mgr.process.get sizes.process

/-- `get_file_audit_data`. -/
def ZcopyMgr.getFileAuditData : ℕ → Access := mgr.file.get sizes.file

end Accessors

/-- An accessor divides by no zero, and reads records inside a mapped region. -/
def Inside (get : ℕ → Access) (region : Ring) (recordSize : ℕ) : Prop :=
  ∀ idx, get idx ≠ .divisionByZero ∧ ∀ address, get idx = .read address →
    ∃ offset, address = region.cirBuffer + offset ∧ offset + recordSize ≤ region.auditSize

/-- The six accessors stay inside their regions, and the records of the first two rings do
not overlap. -/
structure ZcopyMgr.Safe (mgr : ZcopyMgr) (sizes : RecordSizes) : Prop where
  inNetlog : Inside (mgr.getInNetlogAuditData sizes) mgr.inNetlog sizes.network
  outNetlog : Inside (mgr.getOutNetlogAuditData sizes) mgr.inNetlog sizes.network
  openportNetlog : Inside (mgr.getOpenportLogAuditData sizes) mgr.openportNetlog sizes.openport
  dnsNetlog : Inside (mgr.getDnsLogAuditData sizes) mgr.dnsNetlog sizes.dns
  process : Inside (mgr.getProcessAuditData sizes) mgr.process sizes.process
  file : Inside (mgr.getFileAuditData sizes) mgr.file sizes.file
  disjoint : ∀ i j a b, mgr.getInNetlogAuditData sizes i = .read a →
    mgr.getOutNetlogAuditData sizes j = .read b →
      a + sizes.network ≤ b ∨ b + sizes.network ≤ a

/-- The size of a region in sysfs is at least so many bytes. -/
def Uio.Holds (uio : Uio) (mapName : MapName) (bytes : ℕ) : Prop :=
  ∀ size, readSize (uio.sizeText mapName) = .ok size → bytes ≤ size

/-- The first region has room for two network reports, each other one for one record. -/
def Uio.HoldsRecords (uio : Uio) (sizes : RecordSizes) : Prop :=
  uio.Holds .map0 (2 * sizes.network) ∧ uio.Holds .map1 sizes.openport ∧
    uio.Holds .map2 sizes.dns ∧ uio.Holds .map3 sizes.process ∧ uio.Holds .map4 sizes.file

/-- A result of two steps comes from results of both. -/
theorem exists_of_bind_ok {α β : Type} {x : Except String α} {f : α → Except String β} {b : β}
    (h : x.bind f = .ok b) : ∃ a, x = .ok a ∧ f a = .ok b := by
  cases x with
  | error e => cases h
  | ok a => exact ⟨a, rfl, h⟩

/-- A ring that fills a mapped region of some size with records. -/
structure Ring.Mapped (ring : Ring) (uio : Uio) (mapName : MapName) (count : ℕ → ℕ) : Prop where
  size : readSize (uio.sizeText mapName) = .ok ring.auditSize
  buffer : ring.cirBuffer ≠ 0
  totalCount : ring.auditTotalCount = count ring.auditSize
  succeed : ring.auditSucceed = true

/-- What `map_buffer` sets. -/
theorem exists_of_mapBuffer {uio : Uio} {mapName : MapName} {offset : ℕ} {count : ℕ → ℕ}
    {mgr mgr' : ZcopyMgr} (h : mgr.mapBuffer uio mapName offset count = .ok mgr') :
    ∃ addr ring, mgr' = mgr.setRing mapName addr ring ∧ ring.Mapped uio mapName count := by
  obtain ⟨addr, -, h⟩ := exists_of_bind_ok h
  obtain ⟨size, hsize, h⟩ := exists_of_bind_ok h
  cases hmmap : uio.mmap size offset with
  | none =>
    rw [hmmap] at h
    cases h
  | some buffer =>
    rw [hmmap] at h
    refine ⟨addr, ⟨size, buffer, count size, true⟩, (Except.ok.inj h).symm, hsize, ?_, rfl, rfl⟩
    rintro rfl
    exact uio.mmap_ne_null size offset hmmap

/-- What `ZcopyMgr::new` maps. -/
structure ZcopyMgr.Mapped (mgr : ZcopyMgr) (uio : Uio) (sizes : RecordSizes) : Prop where
  inNetlog : mgr.inNetlog.Mapped uio .map0 fun size => size / sizes.network / 2
  outNetlog : mgr.outNetlog = {
    cirBuffer := mgr.inNetlog.cirBuffer + mgr.inNetlog.auditTotalCount * sizes.network
    auditTotalCount := mgr.inNetlog.auditTotalCount
    auditSucceed := true }
  openportNetlog : mgr.openportNetlog.Mapped uio .map1 fun size => size / sizes.openport
  dnsNetlog : mgr.dnsNetlog.Mapped uio .map2 fun size => size / sizes.dns
  process : mgr.process.Mapped uio .map3 fun size => size / sizes.process
  file : mgr.file.Mapped uio .map4 fun size => size / sizes.file

/-- A manager that has been created has mapped all its regions. -/
theorem mapped_of_new {uio : Uio} {sizes : RecordSizes} {mgr : ZcopyMgr}
    (h : ZcopyMgr.new uio sizes = .ok mgr) : mgr.Mapped uio sizes := by
  obtain ⟨-, -, h⟩ := exists_of_bind_ok h
  obtain ⟨pageSize, -, h⟩ := exists_of_bind_ok h
  obtain ⟨mgr₀, h₀, h⟩ := exists_of_bind_ok h
  obtain ⟨mgr₁, h₁, h⟩ := exists_of_bind_ok h
  obtain ⟨mgr₂, h₂, h⟩ := exists_of_bind_ok h
  obtain ⟨mgr₃, h₃, h₄⟩ := exists_of_bind_ok h
  obtain ⟨addr, ring₀, rfl, hring₀⟩ := exists_of_mapBuffer h₀
  obtain ⟨_, ring₁, rfl, hring₁⟩ := exists_of_mapBuffer h₁
  obtain ⟨_, ring₂, rfl, hring₂⟩ := exists_of_mapBuffer h₂
  obtain ⟨_, ring₃, rfl, hring₃⟩ := exists_of_mapBuffer h₃
  obtain ⟨_, ring₄, rfl, hring₄⟩ := exists_of_mapBuffer h₄
  have hplaced : (ZcopyMgr.setRing {} .map0 addr ring₀).placeOutNetlog sizes =
      { inNetlog := ring₀, inNetlogAuditAddr := addr
        outNetlog := ⟨0, ring₀.cirBuffer + ring₀.auditTotalCount * sizes.network,
          ring₀.auditTotalCount, true⟩ } := by
    rw [ZcopyMgr.placeOutNetlog]
    exact if_pos hring₀.succeed
  rw [hplaced]
  exact ⟨hring₀, rfl, hring₁, hring₂, hring₃, hring₄⟩

section Inside

variable {region : Ring} {ring : Ring} {recordSize start : ℕ}

/-- What an accessor does on a mapped ring. -/
theorem get_of_mapped (hsucceed : ring.auditSucceed = true) (hbuffer : ring.cirBuffer ≠ 0)
    (idx : ℕ) :
    ring.get recordSize idx = if ring.auditTotalCount = 0 then .divisionByZero
      else .read (ring.cirBuffer + idx % ring.auditTotalCount * recordSize) := by
  rw [Ring.get, hsucceed, if_neg]
  simpa using hbuffer

/-- A record of a ring ends inside the ring. -/
theorem record_le {count : ℕ} (recordSize : ℕ) (hcount : count ≠ 0) (idx : ℕ) :
    idx % count * recordSize + recordSize ≤ count * recordSize := by
  rw [← Nat.succ_mul]
  exact Nat.mul_le_mul_right _ (Nat.mod_lt idx (Nat.pos_of_ne_zero hcount))

/-- An accessor of a ring that lies in a region stays inside it just if the ring has a record. -/
theorem inside_iff (hsucceed : ring.auditSucceed = true) (hbuffer : ring.cirBuffer ≠ 0)
    (hstart : ring.cirBuffer = region.cirBuffer + start)
    (hend : start + ring.auditTotalCount * recordSize ≤ region.auditSize) :
    Inside (ring.get recordSize) region recordSize ↔ ring.auditTotalCount ≠ 0 := by
  constructor
  · intro h hcount
    refine (h 0).1 ?_
    rw [get_of_mapped hsucceed hbuffer, if_pos hcount]
  · intro hcount idx
    rw [get_of_mapped hsucceed hbuffer, if_neg hcount]
    refine ⟨Access.noConfusion, fun address haddress => ?_⟩
    obtain rfl := Access.read.inj haddress
    have hrecord := record_le recordSize hcount idx
    exact ⟨start + idx % ring.auditTotalCount * recordSize, by omega, by omega⟩

/-- An accessor of a ring that fills its region stays inside it just if there is room for a
record. -/
theorem Ring.Mapped.inside_iff {uio : Uio} {mapName : MapName} (hpos : 0 < recordSize)
    (h : ring.Mapped uio mapName fun size => size / recordSize) :
    Inside (ring.get recordSize) ring recordSize ↔ uio.Holds mapName recordSize := by
  have hend : 0 + ring.auditTotalCount * recordSize ≤ ring.auditSize := by
    rw [Nat.zero_add, h.totalCount]
    exact Nat.div_mul_le_self _ _
  rw [Zcopy.inside_iff h.succeed h.buffer (Nat.add_zero _).symm hend, h.totalCount, Uio.Holds]
  rw [Nat.div_ne_zero_iff, h.size]
  refine ⟨fun hroom size hsize => Except.ok.inj hsize ▸ hroom.2, fun hroom => ?_⟩
  exact ⟨hpos.ne', hroom _ rfl⟩

end Inside

/-- **Ring accesses stay inside their mapping.** The accessors divide by no zero and read
inside their regions, and the first two rings are apart, just if the first region has room
for two network reports and each other one for one record. -/
theorem accesses_inside_iff {uio : Uio} {sizes : RecordSizes} {mgr : ZcopyMgr}
    (h : ZcopyMgr.new uio sizes = .ok mgr) : mgr.Safe sizes ↔ uio.HoldsRecords sizes := by
  have hmapped := mapped_of_new h
  have hin := hmapped.inNetlog
  have hhalf : 2 * (mgr.inNetlog.auditTotalCount * sizes.network) ≤ mgr.inNetlog.auditSize := by
    rw [hin.totalCount, ← Nat.mul_assoc]
    refine le_trans (Nat.mul_le_mul_right _ (Nat.mul_div_le _ 2)) (Nat.div_mul_le_self _ _)
  have hroom : mgr.inNetlog.auditTotalCount ≠ 0 ↔ uio.Holds .map0 (2 * sizes.network) := by
    rw [hin.totalCount, Nat.div_div_eq_div_mul, Nat.div_ne_zero_iff, Uio.Holds, hin.size,
      Nat.mul_comm]
    refine ⟨fun hroom size hsize => Except.ok.inj hsize ▸ hroom.2, fun hroom => ?_⟩
    exact ⟨by have := sizes.network_pos; omega, hroom _ rfl⟩
  have hout : mgr.inNetlog.cirBuffer + mgr.inNetlog.auditTotalCount * sizes.network ≠ 0 := by
    have := hin.buffer
    omega
  have hinside : Inside (mgr.getInNetlogAuditData sizes) mgr.inNetlog sizes.network ↔
      uio.Holds .map0 (2 * sizes.network) := by
    rw [← hroom]
    exact inside_iff hin.succeed hin.buffer (Nat.add_zero _).symm (by omega)
  have houtside : Inside (mgr.getOutNetlogAuditData sizes) mgr.inNetlog sizes.network ↔
      uio.Holds .map0 (2 * sizes.network) := by
    rw [← hroom, ZcopyMgr.getOutNetlogAuditData, hmapped.outNetlog]
    refine inside_iff rfl ?_ rfl ?_
    · exact hout
    · dsimp only
      omega
  have hopenport := hmapped.openportNetlog.inside_iff sizes.openport_pos
  have hdns := hmapped.dnsNetlog.inside_iff sizes.dns_pos
  have hprocess := hmapped.process.inside_iff sizes.process_pos
  have hfile := hmapped.file.inside_iff sizes.file_pos
  constructor
  · intro hsafe
    exact ⟨hinside.mp hsafe.inNetlog, hopenport.mp hsafe.openportNetlog, hdns.mp hsafe.dnsNetlog,
      hprocess.mp hsafe.process, hfile.mp hsafe.file⟩
  · rintro ⟨hnetwork, hholds₁, hholds₂, hholds₃, hholds₄⟩
    refine ⟨hinside.mpr hnetwork, houtside.mpr hnetwork, hopenport.mpr hholds₁, hdns.mpr hholds₂,
      hprocess.mpr hholds₃, hfile.mpr hholds₄, fun i j a b ha hb => .inl ?_⟩
    have hcount := hroom.mpr hnetwork
    rw [ZcopyMgr.getInNetlogAuditData, get_of_mapped hin.succeed hin.buffer, if_neg hcount] at ha
    rw [ZcopyMgr.getOutNetlogAuditData, hmapped.outNetlog,
      get_of_mapped rfl (by exact hout), if_neg hcount] at hb
    obtain rfl := Access.read.inj ha
    obtain rfl := Access.read.inj hb
    have hrecord := record_le sizes.network hcount i
    dsimp only
    omega

/-- The sizes of the records on a 64-bit machine. -/
def sizes64 : RecordSizes :=
  ⟨176, 200, 460, 536, 1184, by decide, by decide, by decide, by decide, by decide⟩

/-- A device whose regions all have the size that a text says. -/
def deviceWith (sizeText : String) : Uio where
  device := .ok ()
  pageSize := .ok 4096
  addrText := fun _ => .ok "0x1000\n"
  sizeText := fun _ => .ok sizeText
  mmap := fun _ offset => some (65536 + offset)
  mmap_ne_null := fun _ offset h => absurd (Option.some.inj h) (by omega)

/-- Regions of 65536 bytes. -/
theorem accesses_inside_large :
    ∃ mgr, ZcopyMgr.new (deviceWith "0x10000\n") sizes64 = .ok mgr ∧ mgr.Safe sizes64 := by
  refine ⟨_, rfl, (@accesses_inside_iff (deviceWith "0x10000\n") _ _ rfl).mpr ?_⟩
  have hsize : readSize (.ok "0x10000\n") = .ok 65536 := by decide
  have hholds {mapName : MapName} {bytes : ℕ} (hbytes : bytes ≤ 65536) :
      (deviceWith "0x10000\n").Holds mapName bytes := by
    intro size hread
    exact Except.ok.inj (hsize.symm.trans hread) ▸ hbytes
  exact ⟨hholds (by decide), hholds (by decide), hholds (by decide), hholds (by decide),
    hholds (by decide)⟩

/-- With regions of 256 bytes there is no room for two network reports, and reading one
divides by zero. -/
theorem division_by_zero :
    ∃ mgr, ZcopyMgr.new (deviceWith "0x100\n") sizes64 = .ok mgr ∧
      mgr.getInNetlogAuditData sizes64 0 = .divisionByZero ∧ ¬mgr.Safe sizes64 :=
  ⟨_, rfl, rfl, fun hsafe => (hsafe.inNetlog 0).1 rfl⟩

end LinuxAgent.Zcopy
