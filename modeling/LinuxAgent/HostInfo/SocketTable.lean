import LinuxAgent.HostInfo.NetApp

/-!
# Addresses in the socket tables

The kernel prints the addresses in `/proc/net/tcp` and `/proc/net/tcp6` as words in the order
of the machine. Three functions read them: two turn the words into text, and
`has_established_connection` turns an address into a word and looks for it in the lines.
-/

namespace LinuxAgent.HostInfo

/-- A digit as the kernel prints it. -/
def upperHexDigit (d : ℕ) : Char := if d < 10 then Char.ofNat (48 + d) else Char.ofNat (55 + d)

/-- The lowest digits of a number, `%0wX`. -/
def upperHex : (width : ℕ) → (n : ℕ) → List Char
  | 0, _ => []
  | width + 1, n => upperHex width (n / 16) ++ [upperHexDigit (n % 16)]

/-- How many numbers a numeral of some width can show. -/
def hexRange : (width : ℕ) → ℕ
  | 0 => 1
  | width + 1 => 16 * hexRange width

/-- A hexadecimal digit is read back. -/
theorem hexValue_upperHexDigit : ∀ d < 16, hexValue (upperHexDigit d) = some d := by
  decide

/-- The digits are as many as the width says. -/
theorem length_upperHex (width n : ℕ) : (upperHex width n).length = width := by
  induction width generalizing n with
  | zero => rfl
  | succ width ih => rw [upperHex, List.length_append, ih, List.length_singleton]

/-- The characters of a numeral are digits. -/
theorem mem_upperHex {width n : ℕ} {c : Char} (h : c ∈ upperHex width n) :
    ∃ d < 16, c = upperHexDigit d := by
  induction width generalizing n with
  | zero => exact absurd h List.not_mem_nil
  | succ width ih =>
    obtain h | h := List.mem_append.mp h
    · exact ih h
    · exact ⟨n % 16, Nat.mod_lt _ (by decide), List.mem_singleton.mp h⟩

/-- Reading a numeral gives its number. -/
theorem foldl_upperHex {width n : ℕ} (h : n < hexRange width) :
    (upperHex width n).foldl (fun acc c => acc.bind fun n => (hexValue c).map fun d => 16 * n + d)
      (some 0) = some n := by
  induction width generalizing n with
  | zero =>
    have hrange : n < 1 := h
    obtain rfl : n = 0 := by omega
    rfl
  | succ width ih =>
    have hrange : n < 16 * hexRange width := h
    rw [upperHex, List.foldl_append, ih (by omega), List.foldl_cons, List.foldl_nil,
      Option.bind_some, hexValue_upperHexDigit _ (Nat.mod_lt _ (by decide)), Option.map_some]
    congr 1
    omega

/-- A numeral reads back. -/
theorem fromHex_upperHex {size width n : ℕ} (hwidth : 0 < width) (hn : n < hexRange width)
    (hsize : n < size) : fromHex size (upperHex width n) = some n := by
  have hne : upperHex width n ≠ [] := by
    intro hnil
    have hlength := length_upperHex width n
    rw [hnil, List.length_nil] at hlength
    omega
  have hsign : (upperHex width n).head? ≠ some '+' := by
    intro hhead
    obtain ⟨d, hd, heq⟩ := mem_upperHex (List.mem_of_mem_head? hhead)
    revert d
    decide
  rw [fromHex, if_neg hsign, if_neg hne, foldl_upperHex hn, Option.filter_some,
    if_pos (decide_eq_true hsize)]

/-- Numerals of one width that are equal have the same number. -/
theorem upperHex_inj {width n m : ℕ} (hn : n < hexRange width) (hm : m < hexRange width)
    (h : upperHex width n = upperHex width m) : n = m := by
  have hread := foldl_upperHex hn
  rw [h, foldl_upperHex hm] at hread
  exact (Option.some.inj hread).symm

/-- Four bytes in the other order are still four bytes. -/
theorem swapBytes_lt (n : ℕ) : swapBytes n < 4294967296 := by
  rw [swapBytes]
  omega

/-- A word has four bytes. -/
theorem exists_bytes {n : ℕ} (h : n < 4294967296) :
    ∃ a < 256, ∃ b < 256, ∃ c < 256, ∃ d < 256, n = ((a * 256 + b) * 256 + c) * 256 + d := by
  refine ⟨n / 16777216, ?_, n / 65536 % 256, ?_, n / 256 % 256, ?_, n % 256, ?_, ?_⟩ <;> omega

/-- The bytes of a word in the other order. -/
theorem swapBytes_bytes {a b c d : ℕ} (ha : a < 256) (hb : b < 256) (hc : c < 256)
    (hd : d < 256) :
    swapBytes (((a * 256 + b) * 256 + c) * 256 + d) = ((d * 256 + c) * 256 + b) * 256 + a := by
  have hlast : (((a * 256 + b) * 256 + c) * 256 + d) % 256 = d := by omega
  have hthird : (((a * 256 + b) * 256 + c) * 256 + d) / 256 % 256 = c := by omega
  have hsecond : (((a * 256 + b) * 256 + c) * 256 + d) / 65536 % 256 = b := by omega
  have hfirst : (((a * 256 + b) * 256 + c) * 256 + d) / 16777216 % 256 = a := by omega
  rw [swapBytes, hlast, hthird, hsecond, hfirst]

/-- Changing the order of the bytes twice. -/
theorem swapBytes_swapBytes {n : ℕ} (h : n < 4294967296) : swapBytes (swapBytes n) = n := by
  obtain ⟨a, ha, b, hb, c, hc, d, hd, rfl⟩ := exists_bytes h
  rw [swapBytes_bytes ha hb hc hd, swapBytes_bytes hd hc hb ha]

/-- A word reads back. -/
theorem fromHex_word {n : ℕ} (h : n < 4294967296) :
    fromHex UInt32.size (upperHex 8 n) = some n :=
  fromHex_upperHex (by decide) h h

/-- A port reads back. -/
theorem fromHex_port (p : UInt16) : fromHex UInt16.size (upperHex 4 p.toNat) = some p.toNat :=
  fromHex_upperHex (by decide) p.toNat_lt p.toNat_lt

/-- There is no colon in a numeral. -/
theorem colon_not_mem_upperHex (width n : ℕ) : ':' ∉ upperHex width n := by
  intro h
  obtain ⟨d, hd, heq⟩ := mem_upperHex h
  revert d
  decide

/-- A text with one colon. -/
theorem split_colon {before after : List Char} (hbefore : ':' ∉ before) (hafter : ':' ∉ after) :
    Text.split ':' (String.ofList (before ++ ':' :: after)) =
      [String.ofList before, String.ofList after] := by
  have htext : String.ofList (before ++ ':' :: after) =
      Text.joinWith ':' [String.ofList before, String.ofList after] := by
    simp [Text.joinWith, List.intercalate]
  rw [htext, Text.split_joinWith _ (List.cons_ne_nil _ _)]
  simp [hbefore, hafter]

/-- An address and a port in `/proc/net/tcp`, on a little-endian machine. -/
def renderTcp (a : BitVec 32) (p : UInt16) : String :=
  String.ofList (upperHex 8 (swapBytes a.toNat) ++ ':' :: upperHex 4 p.toNat)

/-- The four words of an IPv6 address, in the order of the machine. -/
def ipv6Words (b : Fin 8 → UInt16) : List ℕ :=
  [(b 0, b 1), (b 2, b 3), (b 4, b 5), (b 6, b 7)].map fun w =>
    swapBytes (w.1.toNat * 65536 + w.2.toNat)

/-- An address and a port in `/proc/net/tcp6`, on a little-endian machine. -/
def renderTcp6 (b : Fin 8 → UInt16) (p : UInt16) : String :=
  String.ofList ((ipv6Words b).flatMap (upperHex 8) ++ ':' :: upperHex 4 p.toNat)

/-- The text of an IPv6 address. -/
def ipv6Text (b : Fin 8 → UInt16) : String := formatIpv6 ((List.ofFn b).map UInt16.toNat)

/-- The address of a word of the table. -/
theorem hexToIpPort_word {w : ℕ} (hw : w < 4294967296) {port : List Char} (hport : ':' ∉ port) :
    hexToIpPort (String.ofList (upperHex 8 w ++ ':' :: port)) =
      (Text.formatIpv4 (BitVec.ofNat 32 (swapBytes w)),
        toString ((fromHex UInt16.size port).getD 0)) := by
  rw [hexToIpPort, split_colon (colon_not_mem_upperHex 8 w) hport]
  simp only [String.toList_ofList, fromHex_word hw, Option.getD_some]

/-- An IPv4 address and its port are decoded. -/
theorem hexToIpPort_renderTcp (a : BitVec 32) (p : UInt16) :
    hexToIpPort (renderTcp a p) = (Text.formatIpv4 a, toString p.toNat) := by
  rw [renderTcp, hexToIpPort_word (swapBytes_lt _) (colon_not_mem_upperHex 4 _),
    swapBytes_swapBytes a.isLt, fromHex_port, Option.getD_some, BitVec.ofNat_toNat,
    BitVec.setWidth_eq]

/-- The halves of a word of an IPv6 address. -/
theorem halves_swapBytes (hi lo : UInt16) :
    swapBytes (swapBytes (hi.toNat * 65536 + lo.toNat)) / 65536 = hi.toNat ∧
      swapBytes (swapBytes (hi.toNat * 65536 + lo.toNat)) % 65536 = lo.toNat := by
  have hhi := hi.toNat_lt
  have hlo := lo.toNat_lt
  rw [swapBytes_swapBytes (by omega)]
  omega

/-- The size of a text of digits. -/
theorem utf8ByteSize_digits {cs : List Char} (h : ∀ c ∈ cs, ∃ d < 16, c = upperHexDigit d) :
    (String.ofList cs).utf8ByteSize = cs.length := by
  have hone : ∀ d < 16, (upperHexDigit d).utf8Size = 1 := by decide
  induction cs with
  | nil => rfl
  | cons c cs ih =>
    obtain ⟨d, hd, rfl⟩ := h c List.mem_cons_self
    rw [String.ofList_cons, String.utf8ByteSize_append, String.utf8ByteSize_singleton,
      ih fun c hc => h c (List.mem_cons_of_mem _ hc), hone d hd, List.length_cons]
    omega

/-- A group of eight digits is one of the words. -/
theorem take_drop_flatMap (ws : List ℕ) (i : ℕ) :
    ((ws.flatMap (upperHex 8)).drop (8 * i)).take 8 = (ws[i]?).elim [] (upperHex 8) := by
  induction ws generalizing i with
  | nil => simp
  | cons w ws ih =>
    rw [List.flatMap_cons]
    cases i with
    | zero =>
      rw [Nat.mul_zero, List.drop_zero, List.take_left' (length_upperHex 8 w)]
      rfl
    | succ i =>
      have hdrop : 8 * (i + 1) = (upperHex 8 w).length + 8 * i := by
        rw [length_upperHex]
        omega
      rw [hdrop, List.drop_length_add_append, ih]
      rfl

/-- A word of the address has two of its segments. -/
theorem getElem?_ipv6Words (b : Fin 8 → UInt16) {i : ℕ} (hi : i < 4) :
    (ipv6Words b)[i]? = some (swapBytes
      ((b (.ofNat 8 (2 * i))).toNat * 65536 + (b (.ofNat 8 (2 * i + 1))).toNat)) := by
  obtain rfl | rfl | rfl | rfl : i = 0 ∨ i = 1 ∨ i = 2 ∨ i = 3 := by omega
  all_goals rfl

/-- If each group of digits gives the segments of its word, all of them give those of the
address. -/
theorem segments_ipv6 {segments : ℕ → List ℕ} (b : Fin 8 → UInt16)
    (h : ∀ i < 4, segments i =
      [(b (.ofNat 8 (2 * i))).toNat, (b (.ofNat 8 (2 * i + 1))).toNat]) :
    (List.range 4).flatMap segments = (List.ofFn b).map UInt16.toNat := by
  have hrange : List.range 4 = [0, 1, 2, 3] := rfl
  simp only [hrange, List.flatMap_cons, List.flatMap_nil, h 0 (by decide), h 1 (by decide),
    h 2 (by decide), h 3 (by decide)]
  rfl

/-- An IPv6 address and its port are decoded. -/
theorem hexToIpv6PortCompressed_renderTcp6 (b : Fin 8 → UInt16) (p : UInt16) :
    hexToIpv6PortCompressed (renderTcp6 b p) = (ipv6Text b, toString p.toNat) := by
  have hmem {c : Char} (h : c ∈ (ipv6Words b).flatMap (upperHex 8)) :
      ∃ w, c ∈ upperHex 8 w := by
    obtain ⟨w, -, hw⟩ := List.mem_flatMap.mp h
    exact ⟨w, hw⟩
  have hcolon : ':' ∉ (ipv6Words b).flatMap (upperHex 8) := by
    intro h
    obtain ⟨w, hw⟩ := hmem h
    exact colon_not_mem_upperHex 8 w hw
  have hlength : ((ipv6Words b).flatMap (upperHex 8)).length = 32 := by
    simp [ipv6Words, length_upperHex]
  have hsize : (String.ofList ((ipv6Words b).flatMap (upperHex 8))).utf8ByteSize = 32 := by
    rw [utf8ByteSize_digits, hlength]
    intro c hc
    obtain ⟨w, hw⟩ := hmem hc
    exact mem_upperHex hw
  rw [hexToIpv6PortCompressed, renderTcp6, split_colon hcolon (colon_not_mem_upperHex 4 _)]
  dsimp only
  rw [if_neg (not_not_intro hsize), String.toList_ofList, String.toList_ofList, fromHex_port,
    Option.getD_some]
  refine Prod.ext (congrArg formatIpv6 (segments_ipv6 b fun i hi => ?_)) rfl
  obtain ⟨hhigh, hlow⟩ := halves_swapBytes (b (.ofNat 8 (2 * i))) (b (.ofNat 8 (2 * i + 1)))
  rw [take_drop_flatMap, getElem?_ipv6Words b hi, Option.elim_some, fromHex_word (swapBytes_lt _)]
  dsimp only
  rw [hhigh, hlow]

/-- An address as `has_established_connection` looks for it. -/
def targetHex (a : BitVec 32) : List Char :=
  [0, 8, 16, 24].flatMap fun k => upperHex 2 ((a >>> k).toNat % 256)

/-- A line of the table of an established connection, by its remote address. -/
def establishedLine (remote : String → Bool) (line : String) : Bool :=
  let fields := Text.words line
  3 < fields.length && remote (fields.getD 2 "") && fields.getD 3 "" == "01"

/-- `has_established_connection`, with the text of `/proc/net/tcp` if it can be read. -/
def hasEstablishedConnection (content : Option String) (targetIp : String) : Bool :=
  match Text.parseIpv4 targetIp with
  | some ip =>
    (bodyLines content).any
      (establishedLine fun remAddr => (targetHex ip).isPrefixOf remAddr.toList)
  | none => false

/-- A byte is two digits of a numeral. -/
theorem upperHex_add_two (width n : ℕ) {b : ℕ} (hb : b < 256) :
    upperHex (width + 2) (n * 256 + b) = upperHex width n ++ upperHex 2 b := by
  have hrest : (n * 256 + b) / 16 / 16 = n := by omega
  have hhigh : (n * 256 + b) / 16 % 16 = b / 16 % 16 := by omega
  have hlow : (n * 256 + b) % 16 = b % 16 := by omega
  simp only [upperHex, hrest, hhigh, hlow, List.append_assoc, List.nil_append]

/-- What the function looks for is the word of the address. -/
theorem targetHex_eq (a : BitVec 32) : targetHex a = upperHex 8 (swapBytes a.toNat) := by
  have hbyte (n : ℕ) : n % 256 < 256 := Nat.mod_lt _ (by decide)
  rw [swapBytes, upperHex_add_two 6 _ (hbyte _), upperHex_add_two 4 _ (hbyte _)]
  have hlast : a.toNat % 256 * 256 + a.toNat / 256 % 256 =
      (0 * 256 + a.toNat % 256) * 256 + a.toNat / 256 % 256 := by omega
  rw [hlast, upperHex_add_two 2 _ (hbyte _), upperHex_add_two 0 _ (hbyte _)]
  simp [targetHex, upperHex, Nat.shiftRight_eq_div_pow]

/-- A remote address in the format of the kernel: eight digits, a colon and a port. -/
def KernelAddress (remAddr : String) : Prop :=
  ∃ (w : BitVec 32) (port : List Char), ':' ∉ port ∧
    remAddr = String.ofList (upperHex 8 w.toNat ++ ':' :: port)

/-- The established connections of a table have addresses in the format of the kernel. -/
def KernelTable (content : Option String) : Prop :=
  ∀ line ∈ bodyLines content, 3 < (Text.words line).length →
    (Text.words line).getD 3 "" = "01" → KernelAddress ((Text.words line).getD 2 "")

/-- An address in the format of the kernel begins with the word of the address that it has. -/
theorem isPrefixOf_iff {remAddr : String} (h : KernelAddress remAddr) (a : BitVec 32) :
    (targetHex a).isPrefixOf remAddr.toList = true ↔
      (hexToIpPort remAddr).1 = Text.formatIpv4 a := by
  obtain ⟨w, port, hport, rfl⟩ := h
  rw [hexToIpPort_word w.isLt hport, String.toList_ofList, targetHex_eq, List.isPrefixOf_iff_prefix]
  have hlength : (upperHex 8 (swapBytes a.toNat)).length = (upperHex 8 w.toNat).length := by
    rw [length_upperHex, length_upperHex]
  constructor
  · intro hprefix
    have heq : upperHex 8 (swapBytes a.toNat) = upperHex 8 w.toNat := by
      have htake := List.prefix_iff_eq_take.mp hprefix
      rwa [hlength, List.take_left] at htake
    have hw : swapBytes a.toNat = w.toNat := @upperHex_inj 8 _ _ (swapBytes_lt _) w.isLt heq
    rw [← hw, swapBytes_swapBytes a.isLt, BitVec.ofNat_toNat, BitVec.setWidth_eq]
  · intro htext
    have ha : BitVec.ofNat 32 (swapBytes w.toNat) = a := Text.formatIpv4_injective htext
    have hw : swapBytes a.toNat = w.toNat := by
      rw [← ha, BitVec.toNat_ofNat, Nat.mod_eq_of_lt (swapBytes_lt _), swapBytes_swapBytes w.isLt]
    rw [hw]
    exact List.prefix_append _ _

/-- The three functions read the addresses of the kernel's tables in the same way. -/
theorem socketTable_addresses :
    (∀ (a : BitVec 32) (p : UInt16),
      hexToIpPort (renderTcp a p) = (Text.formatIpv4 a, toString p.toNat)) ∧
    (∀ (b : Fin 8 → UInt16) (p : UInt16),
      hexToIpv6PortCompressed (renderTcp6 b p) = (ipv6Text b, toString p.toNat)) ∧
    ∀ (content : Option String), KernelTable content → ∀ a : BitVec 32,
      (hasEstablishedConnection content (Text.formatIpv4 a) = true ↔
        ∃ line ∈ bodyLines content, 3 < (Text.words line).length ∧
          (hexToIpPort ((Text.words line).getD 2 "")).1 = Text.formatIpv4 a ∧
          (Text.words line).getD 3 "" = "01") := by
  refine ⟨hexToIpPort_renderTcp, hexToIpv6PortCompressed_renderTcp6, fun content h a => ?_⟩
  rw [hasEstablishedConnection, Text.parseIpv4_formatIpv4]
  simp only [List.any_eq_true, establishedLine, Bool.and_eq_true, decide_eq_true_eq, beq_iff_eq]
  constructor
  · rintro ⟨line, hline, ⟨hlength, hprefix⟩, hstate⟩
    exact ⟨line, hline, hlength, (isPrefixOf_iff (h line hline hlength hstate) a).mp hprefix,
      hstate⟩
  · rintro ⟨line, hline, hlength, htext, hstate⟩
    exact ⟨line, hline, ⟨hlength, (isPrefixOf_iff (h line hline hlength hstate) a).mpr htext⟩,
      hstate⟩

/-- A table with one established connection to `10.0.0.5`. -/
def sampleTable : String :=
  "  sl  local_address rem_address   st\n   0: 0100007F:0035 0500000A:0016 01 00000000:00000000\n"

/-- The line of the connection in the table. -/
theorem bodyLines_sampleTable :
    bodyLines (some sampleTable) =
      ["   0: 0100007F:0035 0500000A:0016 01 00000000:00000000"] := by
  decide +kernel

/-- The table is one of the kernel, and the connection in it is found. -/
theorem socketTable_addresses_sampleTable :
    KernelTable (some sampleTable) ∧
      hasEstablishedConnection (some sampleTable) (Text.formatIpv4 167772165#32) = true := by
  have hkernel : KernelTable (some sampleTable) := by
    rw [KernelTable, bodyLines_sampleTable]
    intro line hline _ _
    obtain rfl := List.mem_singleton.mp hline
    exact ⟨83886090#32, "0016".toList, by decide, by decide +kernel⟩
  exact ⟨hkernel, (socketTable_addresses.2.2 _ hkernel _).mpr (by decide +kernel)⟩

/-- A table whose connection has its address in small letters. -/
def lowerTable : String :=
  "  sl  local_address rem_address   st\n   0: 0100007F:0035 0500000a:0016 01 00000000:00000000\n"

/-- In a text that the kernel does not print, an address that decodes is not found. -/
theorem not_established_lowerTable :
    ¬∀ (content : Option String) (a : BitVec 32),
      (hasEstablishedConnection content (Text.formatIpv4 a) = true ↔
        ∃ line ∈ bodyLines content, 3 < (Text.words line).length ∧
          (hexToIpPort ((Text.words line).getD 2 "")).1 = Text.formatIpv4 a ∧
          (Text.words line).getD 3 "" = "01") := by
  intro h
  have hfound := (h (some lowerTable) 167772165#32).mpr (by decide +kernel)
  exact absurd hfound (by decide +kernel)

end LinuxAgent.HostInfo
