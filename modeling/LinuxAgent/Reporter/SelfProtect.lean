import LinuxAgent.Reporter.ProcessAudit

/-!
# Alerts of the self-protection

When something touches the agent the kernel sends a record of the process, and the handler turns it
into an alert. Every long enough message is such a record with something after it. The server reads
of it the two texts up to their zero bytes, with the hash of the process.
-/

namespace LinuxAgent.Reporter.SelfProtect

open Json

/-- `AvSelfProtecNetlink`. -/
structure AvSelfProtecNetlink where
  pid : Int32
  ppid : Int32
  uid : Int32
  nType : Int32
  comm : Vector UInt8 128
  path : Vector UInt8 128
  deriving DecidableEq

/-- The size of a record. -/
def recordSize : ℕ := 272

/-- The bytes of a field of the record. -/
def field (data : List UInt8) (first size : ℕ) : List UInt8 := (data.drop first).take size

/-- `from_bytes`. -/
def fromBytes (data : List UInt8) : Option AvSelfProtecNetlink :=
  if h : recordSize ≤ data.length then
    some
      { pid := leInt32 (field data 0 4)
        ppid := leInt32 (field data 4 4)
        uid := leInt32 (field data 8 4)
        nType := leInt32 (field data 12 4)
        comm := ⟨(field data 16 128).toArray, by simp [field, recordSize] at h ⊢; omega⟩
        path := ⟨(field data 144 128).toArray, by simp [field, recordSize] at h ⊢; omega⟩ }
  else none

/-- `cstr_to_string`. -/
def cstrToString (bytes : List UInt8) : String :=
  String.ofList (Utf8.lossy (bytes.takeWhile (· ≠ 0)))

/-- `looks_like_path`. -/
def looksLikePath (s : String) : Bool := s.toList.head? = some '/'

/-- A text, unless it is empty. -/
def unlessEmpty (s : String) : Option String := if s = "" then none else some s

/-- `to_log_info`. -/
def AvSelfProtecNetlink.toLogInfo (getMd5Global : String → Except String String)
    (r : AvSelfProtecNetlink) : SelfProtectLogInfo :=
  let procDir := cstrToString r.comm.toList
  { fileDir := unlessEmpty (cstrToString r.path.toList)
    procDir := unlessEmpty procDir
    procHash := if looksLikePath procDir then (getMd5Global procDir).toOption else none
    procParam := none
    targetDir := none
    nType := r.nType.toUInt32.toUInt16
    nLevel := 3
    nTime := 1692760326 }

/-- `handle_self_protect_oper`: the body that is uploaded. -/
def handleSelfProtectOper (getMd5Global : String → Except String String) (netClient : Bool)
    (data : List UInt8) : Except String String :=
  match fromBytes data with
  | none => .error "解析失败"
  | some info =>
    if netClient then buildSelfProtectAlertLogJson [info.toLogInfo getMd5Global]
    else .error "创建 NetClient 失败"

/-- A number in four bytes, as a little-endian machine writes it. -/
def leBytes (n : Int32) : List UInt8 :=
  let m := n.toUInt32.toNat
  [.ofNat m, .ofNat (m / 256), .ofNat (m / 65536), .ofNat (m / 16777216)]

/-- The record as the kernel writes it. -/
def AvSelfProtecNetlink.bytes (r : AvSelfProtecNetlink) : List UInt8 :=
  leBytes r.pid ++ (leBytes r.ppid ++ (leBytes r.uid ++ (leBytes r.nType ++
    (r.comm.toList ++ r.path.toList))))

/-- A number is read back from its bytes. -/
theorem leInt32_leBytes (n : Int32) : leInt32 (leBytes n) = n := by
  have hlt := n.toUInt32.toNat_lt
  have hnat : (leBytes n).foldr (fun b k => b.toNat + 256 * k) 0 = n.toUInt32.toNat := by
    simp only [leBytes, List.foldr_cons, List.foldr_nil, UInt8.toNat_ofNat']
    omega
  rw [leInt32, hnat, UInt32.ofNat_toNat]
  rfl

/-- Every four bytes are a number. -/
theorem leBytes_leInt32 {bytes : List UInt8} (h : bytes.length = 4) :
    leBytes (leInt32 bytes) = bytes := by
  obtain ⟨a, b, c, d, rfl⟩ : ∃ a b c d, bytes = [a, b, c, d] := by
    match bytes, h with
    | [a, b, c, d], _ => exact ⟨a, b, c, d, rfl⟩
  have ha := a.toNat_lt
  have hb := b.toNat_lt
  have hc := c.toNat_lt
  have hd := d.toNat_lt
  have hnat : (leInt32 [a, b, c, d]).toUInt32.toNat =
      a.toNat + 256 * (b.toNat + 256 * (c.toNat + 256 * d.toNat)) := by
    have hback (m : UInt32) : m.toInt32.toUInt32 = m := rfl
    rw [leInt32, hback, UInt32.toNat_ofNat']
    simp only [List.foldr_cons, List.foldr_nil]
    omega
  have hbyte (x : UInt8) (m : ℕ) (h : m % 256 = x.toNat) : UInt8.ofNat m = x := by
    apply UInt8.toNat_inj.mp
    rw [UInt8.toNat_ofNat']
    exact h
  simp only [leBytes, hnat]
  rw [hbyte a _ (by omega), hbyte b _ (by omega), hbyte c _ (by omega), hbyte d _ (by omega)]

/-- A number has four bytes. -/
theorem length_leBytes (n : Int32) : (leBytes n).length = 4 := rfl

/-- A field is what stands at its place. -/
theorem field_append (before bytes after : List UInt8) :
    field (before ++ (bytes ++ after)) before.length bytes.length = bytes := by
  rw [field, List.drop_left, List.take_left]

/-- A record is read back, whatever comes after it. -/
theorem fromBytes_bytes (r : AvSelfProtecNetlink) (rest : List UInt8) :
    fromBytes (r.bytes ++ rest) = some r := by
  obtain ⟨pid, ppid, uid, nType, comm, path⟩ := r
  have hlength : recordSize ≤
      ((⟨pid, ppid, uid, nType, comm, path⟩ : AvSelfProtecNetlink).bytes ++ rest).length := by
    simp [AvSelfProtecNetlink.bytes, length_leBytes, recordSize]
    omega
  have hpid := field_append [] (leBytes pid)
    (leBytes ppid ++ (leBytes uid ++ (leBytes nType ++ (comm.toList ++ (path.toList ++ rest)))))
  have hppid := field_append (leBytes pid) (leBytes ppid)
    (leBytes uid ++ (leBytes nType ++ (comm.toList ++ (path.toList ++ rest))))
  have huid := field_append (leBytes pid ++ leBytes ppid) (leBytes uid)
    (leBytes nType ++ (comm.toList ++ (path.toList ++ rest)))
  have hnType := field_append (leBytes pid ++ (leBytes ppid ++ leBytes uid)) (leBytes nType)
    (comm.toList ++ (path.toList ++ rest))
  have hcomm := field_append (leBytes pid ++ (leBytes ppid ++ (leBytes uid ++ leBytes nType)))
    comm.toList (path.toList ++ rest)
  have hpath := field_append
    (leBytes pid ++ (leBytes ppid ++ (leBytes uid ++ (leBytes nType ++ comm.toList)))) path.toList
    rest
  simp only [List.append_assoc, List.nil_append, List.length_append, length_leBytes,
    List.length_nil, Vector.length_toList, Nat.reduceAdd] at hpid hppid huid hnType hcomm hpath
  rw [fromBytes, dif_pos hlength]
  simp only [AvSelfProtecNetlink.bytes, List.append_assoc, hpid, hppid, huid, hnType,
    leInt32_leBytes, Option.some.injEq, AvSelfProtecNetlink.mk.injEq, true_and]
  exact ⟨Vector.toList_inj.mp hcomm, Vector.toList_inj.mp hpath⟩

/-- Every long enough message is a record with something after it. -/
theorem exists_bytes {data : List UInt8} (h : recordSize ≤ data.length) :
    ∃ r : AvSelfProtecNetlink, ∃ rest, data = r.bytes ++ rest := by
  have hsize {first size : ℕ} (hle : first + size ≤ recordSize) :
      (field data first size).length = size := by
    rw [field, List.length_take, List.length_drop]
    omega
  have hsplit (first size : ℕ) :
      data.drop first = field data first size ++ data.drop (first + size) := by
    rw [field, ← List.drop_drop, List.take_append_drop]
  refine ⟨⟨leInt32 (field data 0 4), leInt32 (field data 4 4), leInt32 (field data 8 4),
    leInt32 (field data 12 4), ⟨(field data 16 128).toArray, hsize (by decide)⟩,
    ⟨(field data 144 128).toArray, hsize (by decide)⟩⟩, data.drop recordSize, ?_⟩
  rw [AvSelfProtecNetlink.bytes, leBytes_leInt32 (hsize (by decide)),
    leBytes_leInt32 (hsize (by decide)), leBytes_leInt32 (hsize (by decide)),
    leBytes_leInt32 (hsize (by decide))]
  calc data = data.drop 0 := rfl
    _ = _ := by
      rw [hsplit 0 4, hsplit (0 + 4) 4, hsplit (0 + 4 + 4) 4, hsplit (0 + 4 + 4 + 4) 4,
        hsplit (0 + 4 + 4 + 4 + 4) 128, hsplit (0 + 4 + 4 + 4 + 4 + 128) 128]
      simp only [List.append_assoc, Nat.reduceAdd, Vector.toList_mk, recordSize]

/-- What is read of a text that ends within its field. -/
theorem cstrToString_encode {cs : List Char} (h : '\x00' ∉ cs) (junk : List UInt8) :
    cstrToString (Utf8.encode cs ++ 0 :: junk) = String.ofList cs := by
  have hzero : (0 : UInt8) ∉ Utf8.encode cs := by
    have hcount := Utf8.count_encode (show '\x00'.toNat < 128 by decide) cs
    rw [List.count_eq_zero.mpr h] at hcount
    exact List.count_eq_zero.mp hcount
  have hpos : ∀ b ∈ Utf8.encode cs, decide (b ≠ 0) = true := by
    intro b hb
    have hne : b ≠ 0 := fun heq => hzero (heq ▸ hb)
    exact decide_eq_true hne
  have htake : (Utf8.encode cs ++ 0 :: junk).takeWhile (· ≠ 0) = Utf8.encode cs := by
    rw [List.takeWhile_append_of_pos hpos]
    simp
  rw [cstrToString, htake, Utf8.lossy_encode]

end LinuxAgent.Reporter.SelfProtect
