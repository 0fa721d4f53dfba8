import LinuxAgent.Lib.Text
import Mathlib.Data.List.Induction

/-!
# The addresses list of netplan

`netplan_update_primary_ip` rewrites the list of addresses of an interface: the last entry of
the source address, or else the first entry of its subnet, becomes the new address, and
without such an entry the new address is appended. The items of the written list are compared
with those of the old one. The rewrite is right for a list that is not blank, whose IPv4 items
have readable prefix lengths, in which no length over 32 comes before an entry that is chosen,
and whose other IPv4 items are not the new address and are written as the code writes them.
-/

namespace LinuxAgent.IpJump

/-- `AddrEntry`. The field `prefix` is a `u8`. -/
inductive AddrEntry
  | v4 (ip : BitVec 32) (bits : ℕ)
  | other (text : String)
  deriving DecidableEq

/-- `same_subnet`. The subtraction is of type `u8` and wraps, and the shift uses the last five
bits of its result. -/
def sameSubnet (a b : BitVec 32) (bits : ℕ) : Bool :=
  if bits = 0 then false
  else
    let mask := BitVec.allOnes 32 <<< ((32 + 256 - bits) % 256 % 32)
    a &&& mask = b &&& mask

/-- The subtraction of `same_subnet` overflows. -/
def SubnetOverflows (bits : ℕ) : Prop := 32 < bits

instance (bits : ℕ) : Decidable (SubnetOverflows bits) := inferInstanceAs (Decidable (32 < bits))

/-- `str::parse::<u8>`. -/
def parseU8 (cs : List Char) : Option ℕ := (Text.parseU64 cs).filter fun n => n < 256

/-- The address and the text of the prefix length of an item. -/
def splitV4 (item : String) : Option (BitVec 32 × List Char) :=
  (Text.splitOnce '/' item.toList).bind fun parts =>
    (Text.parseIpv4 (String.ofList parts.1)).map fun ip => (ip, parts.2)

/-- The entry that the loop makes of an item. -/
def readEntry (item : String) : AddrEntry :=
  match splitV4 item with
  | some (ip, bits) => .v4 ip ((parseU8 bits).getD 24)
  | none => .other item

/-- The state of the loop, and whether an evaluation of `same_subnet` has overflowed. -/
structure ListScan where
  entries : List AddrEntry := []
  chosenIdx : Option ℕ := none
  overflowed : Bool := false

/-- One iteration of the loop, after the item has been read. -/
def pushEntry (source : BitVec 32) (st : ListScan) (entry : AddrEntry) : ListScan :=
  let entries := st.entries ++ [entry]
  match entry with
  | .v4 ip bits =>
    let idx := st.entries.length
    if ip = source then { st with entries := entries, chosenIdx := some idx }
    else if st.chosenIdx = none then
      { entries := entries
        chosenIdx := if sameSubnet ip source bits then some idx else none
        overflowed := st.overflowed || SubnetOverflows bits }
    else { st with entries := entries }
  | .other _ => { st with entries := entries }

/-- The loop over the items of a list. -/
def scanList (source : BitVec 32) (rawList : String) : ListScan :=
  (Text.split ',' rawList).foldl
    (fun st item => pushEntry source st (readEntry (Text.trim item))) {}

/-- The entries after the new address has been put in. -/
def ListScan.update (primary : BitVec 32) (st : ListScan) : List AddrEntry :=
  match st.chosenIdx with
  | some i =>
    match st.entries[i]? with
    | some (.v4 _ bits) => st.entries.set i (.v4 primary bits)
    | _ => st.entries
  | none => st.entries ++ [.v4 primary 24]

/-- The text of an entry. -/
def AddrEntry.text : AddrEntry → String
  | .v4 ip bits => Text.formatIpv4 ip ++ "/" ++ toString bits
  | .other text => text

/-- `new_addr_list`. -/
def newAddrList (source primary : BitVec 32) (rawList : String) : String :=
  ", ".intercalate (((scanList source rawList).update primary).map AddrEntry.text)

/-- The addresses agree on so many bits. There is no subnet of length zero, and none with more
than 32 bits. -/
def InSubnet (a b : BitVec 32) (bits : ℕ) : Prop :=
  0 < bits ∧ bits ≤ 32 ∧ a >>> (32 - bits) = b >>> (32 - bits)

instance (a b : BitVec 32) (bits : ℕ) : Decidable (InSubnet a b bits) :=
  inferInstanceAs (Decidable (0 < bits ∧ bits ≤ 32 ∧ a >>> (32 - bits) = b >>> (32 - bits)))

/-- The items of a list. A blank list has none. -/
def itemsOf (rawList : String) : List String :=
  if Text.isBlank rawList then [] else (Text.split ',' rawList).map Text.trim

/-- The address and the prefix length of an IPv4 item. -/
def v4Of (item : String) : Option (BitVec 32 × ℕ) :=
  (splitV4 item).bind fun parts => (parseU8 parts.2).map fun bits => (parts.1, bits)

/-- The text of an IPv4 item. -/
def v4Text (ip : BitVec 32) (bits : ℕ) : String := Text.formatIpv4 ip ++ "/" ++ toString bits

/-- An item is this address with this prefix length. -/
def EntryAt (items : List String) (i : ℕ) (ip : BitVec 32) (bits : ℕ) : Prop :=
  items[i]?.bind v4Of = some (ip, bits)

instance (items : List String) (i : ℕ) (ip : BitVec 32) (bits : ℕ) :
    Decidable (EntryAt items i ip bits) :=
  inferInstanceAs (Decidable (items[i]?.bind v4Of = some (ip, bits)))

/-- The new address has been put in: for an entry of the source, or else for the first entry of
its subnet, with the prefix length that was there, or else at the end. All other items are the
same. -/
def Updated (source primary : BitVec 32) (old new : List String) : Prop :=
  (∃ i bits, EntryAt old i source bits ∧ new = old.set i (v4Text primary bits)) ∨
    ((∀ i bits, ¬EntryAt old i source bits) ∧
      ∃ i ip bits, EntryAt old i ip bits ∧ InSubnet ip source bits ∧
        (∀ j < i, ∀ ip' bits', EntryAt old j ip' bits' → ¬InSubnet ip' source bits') ∧
        new = old.set i (v4Text primary bits)) ∨
    ((∀ i bits, ¬EntryAt old i source bits) ∧
      (∀ i ip bits, EntryAt old i ip bits → ¬InSubnet ip source bits) ∧
      new = old ++ [v4Text primary 24])

/-- Exactly one IPv4 item is the new address. -/
def OneEntry (primary : BitVec 32) (items : List String) : Prop :=
  ∃! i, ∃ bits, EntryAt items i primary bits

/-- The rewrite of a list overflows nowhere, puts the new address into the items of the list, and
leaves it there once. -/
def RewritesWell (source primary : BitVec 32) (rawList : String) : Prop :=
  (scanList source rawList).overflowed = false ∧
    Updated source primary (itemsOf rawList) (itemsOf (newAddrList source primary rawList)) ∧
    OneEntry primary (itemsOf (newAddrList source primary rawList))

/-- Every item with an address has a `u8` after it. -/
def Readable (items : List String) : Prop :=
  ∀ item ∈ items, ∀ ip bits, splitV4 item = some (ip, bits) → (parseU8 bits).isSome = true

/-- A prefix length over 32 belongs to the source itself or comes after an entry of the source
or of its subnet. -/
def Shielded (source : BitVec 32) (items : List String) : Prop :=
  ∀ i ip bits, EntryAt items i ip bits → SubnetOverflows bits → ip ≠ source →
    ∃ j < i, ∃ ip' bits', EntryAt items j ip' bits' ∧ (ip' = source ∨ InSubnet ip' source bits')

/-- The item that gives way: the last entry of the source, or without one the first of its
subnet. -/
def Replaced (source : BitVec 32) (items : List String) (i : ℕ) : Prop :=
  (∃ bits, EntryAt items i source bits ∧ ∀ j > i, ∀ bits', ¬EntryAt items j source bits') ∨
    ((∀ j bits, ¬EntryAt items j source bits) ∧
      ∃ ip bits, EntryAt items i ip bits ∧ InSubnet ip source bits ∧
        ∀ j < i, ∀ ip' bits', EntryAt items j ip' bits' → ¬InSubnet ip' source bits')

/-- The IPv4 items that stay are not the new address, and they are written as the code writes
them: the number of the prefix length without a sign or leading zeros. -/
def OthersKept (source primary : BitVec 32) (items : List String) : Prop :=
  ∀ i ip bits, EntryAt items i ip bits → ¬Replaced source items i →
    ip ≠ primary ∧ items[i]? = some (v4Text ip bits)

/-- Words agree under a mask just if they agree after a shift. -/
theorem and_mask_eq_iff {w : ℕ} (a b : BitVec w) (s : ℕ) :
    a &&& BitVec.allOnes w <<< s = b &&& BitVec.allOnes w <<< s ↔ a >>> s = b >>> s := by
  constructor
  · intro h
    refine BitVec.eq_of_getLsbD_eq fun i hi => ?_
    have hbit := congrArg (fun x => BitVec.getLsbD x (s + i)) h
    rw [BitVec.getLsbD_ushiftRight, BitVec.getLsbD_ushiftRight]
    by_cases hlt : s + i < w
    · have hnot : ¬s + i < s := by omega
      simpa [hlt, hi, hnot] using hbit
    · rw [BitVec.getLsbD_of_ge a _ (by omega), BitVec.getLsbD_of_ge b _ (by omega)]
  · intro h
    refine BitVec.eq_of_getLsbD_eq fun i hi => ?_
    by_cases hle : s ≤ i
    · have hbit := congrArg (fun x => BitVec.getLsbD x (i - s)) h
      simp only [BitVec.getLsbD_ushiftRight, Nat.add_sub_cancel' hle] at hbit
      rw [BitVec.getLsbD_and, BitVec.getLsbD_and, hbit]
    · simp [Nat.not_le.mp hle]

/-- Where nothing overflows, `same_subnet` is what it says. -/
theorem sameSubnet_iff {a b : BitVec 32} {bits : ℕ} (h : ¬SubnetOverflows bits) :
    sameSubnet a b bits = true ↔ InSubnet a b bits := by
  have hle : bits ≤ 32 := not_lt.mp h
  rw [sameSubnet, InSubnet]
  by_cases hzero : bits = 0
  · rw [if_pos hzero, hzero]
    simp
  · have hshift : (32 + 256 - bits) % 256 % 32 = 32 - bits := by omega
    rw [if_neg hzero, hshift, decide_eq_true_iff, and_mask_eq_iff]
    exact (and_iff_right (Nat.pos_of_ne_zero hzero)).trans (and_iff_right hle) |>.symm

/-- The entry is the source or, as the code has it, in the subnet of the source. -/
def Hit (source : BitVec 32) : AddrEntry → Prop
  | .v4 ip bits => ip = source ∨ sameSubnet ip source bits = true
  | .other _ => False

/-- The index is that of the last entry of the source, or else of the first hit. -/
def Chosen (source : BitVec 32) (entries : List AddrEntry) (i : ℕ) : Prop :=
  (∃ bits, entries[i]? = some (.v4 source bits) ∧
      ∀ j > i, ∀ bits', entries[j]? ≠ some (.v4 source bits')) ∨
    ((∀ bits, .v4 source bits ∉ entries) ∧
      ∃ ip bits, entries[i]? = some (.v4 ip bits) ∧ sameSubnet ip source bits = true ∧
        ∀ entry ∈ entries.take i, ¬Hit source entry)

/-- `same_subnet` overflows at an entry before which there is no hit. -/
def ScanOverflows (source : BitVec 32) (entries : List AddrEntry) : Prop :=
  ∃ (i : ℕ) (ip : BitVec 32) (bits : ℕ), entries[i]? = some (.v4 ip bits) ∧
    SubnetOverflows bits ∧ ip ≠ source ∧ ∀ entry ∈ entries.take i, ¬Hit source entry

section Concat

variable {source : BitVec 32} {entries : List AddrEntry} {entry : AddrEntry}

/-- What stands in a list with one entry more is the last entry or stood there before. -/
theorem getElem?_concat_cases {j : ℕ} {x : AddrEntry} (h : (entries ++ [entry])[j]? = some x) :
    entries[j]? = some x ∨ (j = entries.length ∧ entry = x) := by
  rcases Nat.lt_or_ge j entries.length with hlt | hge
  · exact .inl (by rwa [List.getElem?_append_left hlt] at h)
  · have hlength := (List.getElem?_eq_some_iff.mp h).1
    rw [List.length_append, List.length_singleton] at hlength
    obtain rfl : j = entries.length := by omega
    rw [List.getElem?_concat_length, Option.some.injEq] at h
    exact .inr ⟨rfl, h⟩

/-- What is chosen stays chosen, unless the source comes. -/
theorem Chosen.concat {i : ℕ} (h : Chosen source entries i)
    (hentry : ∀ bits, entry ≠ .v4 source bits) : Chosen source (entries ++ [entry]) i := by
  have hleft {x : AddrEntry} (hx : entries[i]? = some x) : (entries ++ [entry])[i]? = some x := by
    obtain ⟨hlt, -⟩ := List.getElem?_eq_some_iff.mp hx
    rw [List.getElem?_append_left hlt, hx]
  rcases h with ⟨bits, hget, hlast⟩ | ⟨hnone, ip, bits, hget, hsame, hfirst⟩
  · refine .inl ⟨bits, hleft hget, fun j hj bits' hj' => ?_⟩
    rcases getElem?_concat_cases hj' with hj' | ⟨-, heq⟩
    · exact hlast j hj bits' hj'
    · exact hentry bits' heq
  · refine .inr ⟨fun bits' hmem => ?_, ip, bits, hleft hget, hsame, ?_⟩
    · rcases List.mem_append.mp hmem with hmem | hmem
      · exact hnone bits' hmem
      · exact hentry bits' (List.mem_singleton.mp hmem).symm
    · obtain ⟨hlt, -⟩ := List.getElem?_eq_some_iff.mp hget
      rw [List.take_append_of_le_length hlt.le]
      exact hfirst

/-- The source is chosen when it comes. -/
theorem chosen_concat_source (bits : ℕ) :
    Chosen source (entries ++ [.v4 source bits]) entries.length := by
  refine .inl ⟨bits, List.getElem?_concat_length, fun j hj bits' hj' => ?_⟩
  have hlength := (List.getElem?_eq_some_iff.mp hj').1
  rw [List.length_append, List.length_singleton] at hlength
  omega

/-- The first entry of the subnet is chosen when there has been no hit before. -/
theorem chosen_concat_of_sameSubnet {ip : BitVec 32} {bits : ℕ}
    (hnone : ∀ e ∈ entries, ¬Hit source e) (hsource : ip ≠ source)
    (hsame : sameSubnet ip source bits = true) :
    Chosen source (entries ++ [.v4 ip bits]) entries.length := by
  refine .inr ⟨fun bits' hmem => ?_, ip, bits, List.getElem?_concat_length, hsame, ?_⟩
  · rcases List.mem_append.mp hmem with hmem | hmem
    · exact hnone _ hmem (.inl rfl)
    · exact hsource (AddrEntry.v4.inj (List.mem_singleton.mp hmem)).1.symm
  · rw [List.take_left]
    exact hnone

/-- An overflow comes from an earlier entry, or there was no hit before the last one. -/
theorem scanOverflows_concat :
    ScanOverflows source (entries ++ [entry]) ↔
      ScanOverflows source entries ∨ ((∀ e ∈ entries, ¬Hit source e) ∧
        ∃ ip bits, entry = .v4 ip bits ∧ SubnetOverflows bits ∧ ip ≠ source) := by
  constructor
  · rintro ⟨i, ip, bits, hget, hover, hne, hfirst⟩
    rcases getElem?_concat_cases hget with hget | ⟨rfl, heq⟩
    · have hlt := (List.getElem?_eq_some_iff.mp hget).1
      rw [List.take_append_of_le_length hlt.le] at hfirst
      exact .inl ⟨i, ip, bits, hget, hover, hne, hfirst⟩
    · rw [List.take_left] at hfirst
      exact .inr ⟨hfirst, ip, bits, heq, hover, hne⟩
  · rintro (⟨i, ip, bits, hget, hover, hne, hfirst⟩ | ⟨hnone, ip, bits, rfl, hover, hne⟩)
    · have hlt := (List.getElem?_eq_some_iff.mp hget).1
      refine ⟨i, ip, bits, by rw [List.getElem?_append_left hlt, hget], hover, hne, ?_⟩
      rw [List.take_append_of_le_length hlt.le]
      exact hfirst
    · refine ⟨entries.length, ip, bits, List.getElem?_concat_length, hover, hne, ?_⟩
      rw [List.take_left]
      exact hnone

end Concat

/-- What the loop knows after some entries. -/
structure Scanned (source : BitVec 32) (read : List AddrEntry) (st : ListScan) : Prop where
  entries : st.entries = read
  chosen_none : st.chosenIdx = none ↔ ∀ entry ∈ read, ¬Hit source entry
  chosen_some : ∀ i, st.chosenIdx = some i → Chosen source read i
  overflowed : st.overflowed = true ↔ ScanOverflows source read

/-- There is no hit up to an entry if there was none before and it is none. -/
theorem Scanned.forall_not_hit {source : BitVec 32} {read : List AddrEntry} {st : ListScan}
    (h : Scanned source read st) (entry : AddrEntry) :
    (∀ e ∈ read ++ [entry], ¬Hit source e) ↔ st.chosenIdx = none ∧ ¬Hit source entry := by
  rw [List.forall_mem_append, List.forall_mem_singleton, h.chosen_none]

/-- An evaluation of `same_subnet` has overflowed up to an address if one did before or if it does
for this address. -/
theorem Scanned.scanOverflows_concat_v4 {source : BitVec 32} {read : List AddrEntry}
    {st : ListScan} (h : Scanned source read st) (ip : BitVec 32) (bits : ℕ) :
    ScanOverflows source (read ++ [.v4 ip bits]) ↔
      st.overflowed = true ∨ (st.chosenIdx = none ∧ SubnetOverflows bits ∧ ip ≠ source) := by
  rw [scanOverflows_concat, h.overflowed, h.chosen_none]
  refine or_congr_right (and_congr_right fun _ => ⟨?_, fun hbits => ⟨ip, bits, rfl, hbits⟩⟩)
  rintro ⟨ip', bits', heq, hbits⟩
  obtain ⟨rfl, rfl⟩ := AddrEntry.v4.inj heq
  exact hbits

/-- The loop, entry by entry. -/
theorem Scanned.push {source : BitVec 32} {read : List AddrEntry} {st : ListScan}
    (h : Scanned source read st) (entry : AddrEntry) :
    Scanned source (read ++ [entry]) (pushEntry source st entry) := by
  have hnone := h.forall_not_hit entry
  cases entry with
  | other text =>
    refine ⟨by rw [pushEntry, h.entries], ?_, fun i hi => ?_, ?_⟩
    · rw [hnone]
      exact (and_iff_left id).symm
    · exact (h.chosen_some i hi).concat fun bits => AddrEntry.noConfusion
    · rw [scanOverflows_concat, ← h.overflowed, or_iff_left]
      · rfl
      · rintro ⟨-, ip, bits, heq, -⟩
        cases heq
  | v4 ip bits =>
    have hover := h.scanOverflows_concat_v4 ip bits
    rw [pushEntry]
    by_cases hsource : ip = source
    · rw [if_pos hsource]
      refine ⟨by rw [h.entries], ?_, fun i hi => ?_, ?_⟩
      · rw [hnone]
        exact iff_of_false (Option.some_ne_none _) fun hmiss => hmiss.2 (.inl hsource)
      · obtain rfl := Option.some.inj hi
        rw [h.entries, hsource]
        exact chosen_concat_source bits
      · rw [hover]
        exact (or_iff_left fun hnew => hnew.2.2 hsource).symm
    · rw [if_neg hsource]
      by_cases hfree : st.chosenIdx = none
      · rw [if_pos hfree]
        refine ⟨by rw [h.entries], ?_, fun i hi => ?_, ?_⟩
        · rw [hnone]
          simp [Hit, hsource, hfree]
        · dsimp only at hi
          split at hi
          · next hsame =>
            obtain rfl := Option.some.inj hi
            rw [h.entries]
            exact chosen_concat_of_sameSubnet (h.chosen_none.mp hfree) hsource hsame
          · cases hi
        · rw [hover]
          simp [hfree, hsource]
      · rw [if_neg hfree]
        refine ⟨by rw [h.entries], ?_, fun i hi => (h.chosen_some i hi).concat ?_, ?_⟩
        · rw [hnone]
          exact iff_of_false hfree fun hmiss => hfree hmiss.1
        · exact fun bits' heq => hsource (AddrEntry.v4.inj heq).1
        · rw [hover]
          exact (or_iff_left fun hnew => hfree hnew.1).symm

/-- What the loop knows after the whole list. -/
theorem scanned_scanList (source : BitVec 32) (rawList : String) :
    Scanned source (((Text.split ',' rawList).map Text.trim).map readEntry)
      (scanList source rawList) := by
  have hloop (items : List String) :
      Scanned source ((items.map Text.trim).map readEntry)
        (items.foldl (fun st item => pushEntry source st (readEntry (Text.trim item))) {}) := by
    induction items using List.reverseRecOn with
    | nil =>
      refine ⟨rfl, iff_of_true rfl (by simp), fun i hi => (Option.some_ne_none i hi.symm).elim, ?_⟩
      refine iff_of_false Bool.false_ne_true ?_
      rintro ⟨i, ip, bits, hget, -⟩
      cases hget
    | append_singleton items item ih =>
      rw [List.map_append, List.map_singleton, List.map_append, List.map_singleton,
        List.foldl_append, List.foldl_cons, List.foldl_nil]
      exact ih.push _
  exact hloop _

section Items

variable {item rawList : String} {items : List String} {ip : BitVec 32} {bits i : ℕ}

/-- A prefix length is a `u8`. -/
theorem lt_of_parseU8 {cs : List Char} (h : parseU8 cs = some bits) : bits < 256 := by
  rw [parseU8, Option.filter_eq_some_iff] at h
  exact of_decide_eq_true h.2

/-- What is read of an IPv4 item. -/
theorem v4Of_eq_some_iff : v4Of item = some (ip, bits) ↔
    ∃ cs, splitV4 item = some (ip, cs) ∧ parseU8 cs = some bits := by
  rw [v4Of]
  constructor
  · intro h
    obtain ⟨⟨ip', cs⟩, hsplit, hmap⟩ := Option.bind_eq_some_iff.mp h
    obtain ⟨n, hn, heq⟩ := Option.map_eq_some_iff.mp hmap
    obtain ⟨rfl, rfl⟩ := Prod.mk.inj heq
    exact ⟨cs, hsplit, hn⟩
  · rintro ⟨cs, hsplit, hn⟩
    rw [hsplit, Option.bind_some, hn, Option.map_some]

/-- The prefix length of an IPv4 item is a `u8`. -/
theorem lt_of_v4Of (h : v4Of item = some (ip, bits)) : bits < 256 := by
  obtain ⟨cs, -, hn⟩ := v4Of_eq_some_iff.mp h
  exact lt_of_parseU8 hn

/-- The text of an IPv4 item in two. -/
theorem splitV4_v4Text (ip : BitVec 32) (bits : ℕ) :
    splitV4 (v4Text ip bits) = some (ip, Nat.toDigits 10 bits) := by
  have hlist : (v4Text ip bits).toList =
      (Text.formatIpv4 ip).toList ++ '/' :: Nat.toDigits 10 bits := by
    rw [v4Text, String.toList_append, String.toList_append, Text.toList_toString,
      List.append_assoc]
    rfl
  have hslash : '/' ∉ (Text.formatIpv4 ip).toList := fun hmem =>
    (Text.of_mem_formatIpv4 hmem).elim (fun h => absurd h (by decide)) fun h =>
      absurd h (by decide)
  rw [splitV4, hlist, Text.splitOnce_append hslash, Option.bind_some, String.ofList_toList,
    Text.parseIpv4_formatIpv4, Option.map_some]

/-- The text of an IPv4 item reads back. -/
theorem v4Of_v4Text (ip : BitVec 32) (hbits : bits < 256) :
    v4Of (v4Text ip bits) = some (ip, bits) := by
  have hsize : bits < UInt64.size := hbits.trans (by decide)
  refine v4Of_eq_some_iff.mpr ⟨_, splitV4_v4Text ip bits, ?_⟩
  rw [parseU8, Text.parseU64_toDigits hsize, Option.filter_some, if_pos (decide_eq_true hbits)]

/-- An IPv4 item is an IPv4 entry for the loop. -/
theorem readEntry_of_v4Of (h : v4Of item = some (ip, bits)) : readEntry item = .v4 ip bits := by
  obtain ⟨cs, hsplit, hn⟩ := v4Of_eq_some_iff.mp h
  rw [readEntry, hsplit]
  dsimp only
  rw [hn, Option.getD_some]

/-- Another readable item stays a text. -/
theorem readEntry_of_v4Of_eq_none
    (hread : ∀ ip bits, splitV4 item = some (ip, bits) → (parseU8 bits).isSome = true)
    (h : v4Of item = none) : readEntry item = .other item := by
  rw [readEntry]
  cases hsplit : splitV4 item with
  | none => rfl
  | some parts =>
    obtain ⟨n, hn⟩ := Option.isSome_iff_exists.mp (hread parts.1 parts.2 hsplit)
    rw [v4Of_eq_some_iff.mpr ⟨parts.2, hsplit, hn⟩] at h
    cases h

/-- An item that is not readable is an IPv4 entry for the loop, and it is none. -/
theorem exists_unreadable (h : ¬Readable items) : ∃ item ∈ items, v4Of item = none ∧
    ∃ ip, readEntry item = .v4 ip 24 := by
  rw [Readable] at h
  push Not at h
  obtain ⟨item, hitem, ip, cs, hsplit, hcs⟩ := h
  have hnone : parseU8 cs = none := Option.not_isSome_iff_eq_none.mp hcs
  refine ⟨item, hitem, ?_, ip, ?_⟩
  · rw [v4Of, hsplit, Option.bind_some, hnone, Option.map_none]
  · rw [readEntry, hsplit]
    dsimp only
    rw [hnone, Option.getD_none]

/-- In a readable list the IPv4 entries of the loop are the IPv4 items. -/
theorem Readable.getElem?_map (h : Readable items) :
    (items.map readEntry)[i]? = some (.v4 ip bits) ↔ EntryAt items i ip bits := by
  rw [List.getElem?_map, EntryAt]
  cases hget : items[i]? with
  | none => simp
  | some item =>
    rw [Option.map_some, Option.bind_some, Option.some.injEq]
    cases hv4 : v4Of item with
    | none =>
      have hother := readEntry_of_v4Of_eq_none (h item (List.mem_of_getElem? hget)) hv4
      rw [hother]
      exact iff_of_false AddrEntry.noConfusion (Option.some_ne_none _).symm
    | some entry =>
      rw [readEntry_of_v4Of hv4, AddrEntry.v4.injEq, Option.some.injEq, ← Prod.mk.injEq]

/-- An IPv4 item of a readable list is found at its place. -/
theorem Readable.mem_map (h : Readable items) :
    .v4 ip bits ∈ items.map readEntry ↔ ∃ i, EntryAt items i ip bits := by
  rw [List.mem_iff_getElem?]
  exact exists_congr fun i => h.getElem?_map

/-- The characters of an IPv4 item. -/
theorem of_mem_v4Text {c : Char} (hc : c ∈ (v4Text ip bits).toList) :
    c.isDigit = true ∨ c = '.' ∨ c = '/' := by
  rw [v4Text, String.toList_append, String.toList_append] at hc
  rcases List.mem_append.mp hc with hc | hc
  · rcases List.mem_append.mp hc with hc | hc
    · exact (Text.of_mem_formatIpv4 hc).imp_right .inl
    · exact .inr (.inr (List.mem_singleton.mp hc))
  · exact .inl (Text.isDigit_of_mem_toString hc)

/-- The text of an IPv4 item has no commas. -/
theorem comma_notMem_v4Text : ',' ∉ (v4Text ip bits).toList := by
  intro hmem
  rcases of_mem_v4Text hmem with h | h | h <;> exact absurd h (by decide)

/-- The text of an IPv4 item is not empty. -/
theorem v4Text_ne_empty : v4Text ip bits ≠ "" := by
  intro h
  have hsplit := splitV4_v4Text ip bits
  rw [h] at hsplit
  exact absurd hsplit.symm (Option.some_ne_none _)

/-- The text of an IPv4 item has no white space. -/
theorem trim_v4Text : Text.trim (v4Text ip bits) = v4Text ip bits := by
  have hne : (v4Text ip bits).toList ≠ [] := by
    intro hnil
    exact v4Text_ne_empty (String.toList_eq_nil_iff.mp hnil)
  refine Text.trim_of_words_eq_singleton (Text.words_eq_singleton hne fun c hc => ?_)
  rcases of_mem_v4Text hc with hdigit | rfl | rfl
  · exact Text.isWhiteSpace_of_isDigit hdigit
  · decide
  · decide

/-- The text of an entry that has been read has no commas and no white space at its ends. -/
theorem text_readEntry_fits (hcomma : ',' ∉ item.toList) (htrim : Text.trim item = item) :
    ',' ∉ (readEntry item).text.toList ∧
      Text.trim (readEntry item).text = (readEntry item).text := by
  rw [readEntry]
  split
  · exact ⟨comma_notMem_v4Text, trim_v4Text⟩
  · exact ⟨hcomma, htrim⟩

/-- The items of a text are trimmed and have no commas. -/
theorem of_mem_split_trim (h : item ∈ (Text.split ',' rawList).map Text.trim) :
    ',' ∉ item.toList ∧ Text.trim item = item := by
  obtain ⟨piece, hpiece, rfl⟩ := List.mem_map.mp h
  refine ⟨fun hmem => Text.not_mem_of_mem_split hpiece ?_, Text.trim_trim piece⟩
  rw [Text.trim, String.toList_ofList] at hmem
  exact Text.mem_of_mem_trimChars hmem

/-- The items of a blank text are empty. -/
theorem eq_empty_of_isBlank (hblank : Text.isBlank rawList = true)
    (h : item ∈ (Text.split ',' rawList).map Text.trim) : item = "" := by
  obtain ⟨piece, hpiece, rfl⟩ := List.mem_map.mp h
  have hall : ∀ c ∈ piece.toList, Text.isWhiteSpace c = true := fun c hc =>
    List.all_eq_true.mp hblank c (Text.mem_of_mem_split hpiece hc)
  rw [Text.trim, Text.trimChars, List.dropWhile_eq_nil_iff.mpr hall]
  rfl

end Items

section Entries

variable {items : List String} {i j : ℕ} {ip : BitVec 32} {bits : ℕ}

/-- The text of an IPv4 item is an entry. -/
theorem entryAt_of_getElem? (h : items[i]? = some (v4Text ip bits)) (hbits : bits < 256) :
    EntryAt items i ip bits := by
  rw [EntryAt, h, Option.bind_some, v4Of_v4Text ip hbits]

/-- An entry stands at a place of the list. -/
theorem EntryAt.lt_length (h : EntryAt items i ip bits) : i < items.length := by
  obtain ⟨item, hget, -⟩ := Option.bind_eq_some_iff.mp h
  exact (List.getElem?_eq_some_iff.mp hget).1

/-- The prefix length of an entry is a `u8`. -/
theorem EntryAt.lt (h : EntryAt items i ip bits) : bits < 256 := by
  obtain ⟨item, -, hv4⟩ := Option.bind_eq_some_iff.mp h
  exact lt_of_v4Of hv4

/-- The entries at other places than the changed one. -/
theorem entryAt_set_ne (hne : j ≠ i) (text : String) :
    EntryAt (items.set i text) j ip bits ↔ EntryAt items j ip bits := by
  rw [EntryAt, EntryAt, List.getElem?_set_ne hne.symm]

/-- An entry of a list with one item more is the last item or stood there before. -/
theorem EntryAt.of_concat {text : String} (h : EntryAt (items ++ [text]) j ip bits) :
    j = items.length ∨ EntryAt items j ip bits := by
  rcases Nat.lt_or_ge j items.length with hlt | hge
  · rw [EntryAt, List.getElem?_append_left hlt] at h
    exact .inr h
  · have hlength := h.lt_length
    rw [List.length_append, List.length_singleton] at hlength
    exact .inl (by omega)

/-- Only one item gives way. -/
theorem Replaced.unique {source : BitVec 32} (hi : Replaced source items i)
    (hj : Replaced source items j) : i = j := by
  rcases hi with ⟨b, hb, hlast⟩ | ⟨hnone, ip, b, hb, hin, hfirst⟩
  · rcases hj with ⟨b', hb', hlast'⟩ | ⟨hnone', -⟩
    · have hle : ¬j > i := fun hlt => hlast j hlt b' hb'
      have hge : ¬i > j := fun hlt => hlast' i hlt b hb
      omega
    · exact absurd hb (hnone' i b)
  · rcases hj with ⟨b', hb', -⟩ | ⟨-, ip', b', hb', hin', hfirst'⟩
    · exact absurd hb' (hnone j b')
    · have hle : ¬i < j := fun hlt => hfirst' i hlt ip b hb hin
      have hge : ¬j < i := fun hlt => hfirst j hlt ip' b' hb' hin'
      omega

/-- An item of the old list is in the new one, or it has given way to the new address. -/
theorem Updated.kept {source primary : BitVec 32} {new : List String} {item : String}
    (h : Updated source primary items new) (hget : items[j]? = some item) :
    new[j]? = some item ∨
      ∃ ip bits, v4Of item = some (ip, bits) ∧ new[j]? = some (v4Text primary bits) := by
  have hset {i : ℕ} {ip : BitVec 32} {bits : ℕ} (hi : EntryAt items i ip bits) :
      (items.set i (v4Text primary bits))[j]? = some item ∨
        ∃ ip' bits', v4Of item = some (ip', bits') ∧
          (items.set i (v4Text primary bits))[j]? = some (v4Text primary bits') := by
    by_cases hne : i = j
    · subst hne
      rw [EntryAt, hget, Option.bind_some] at hi
      refine .inr ⟨ip, bits, hi, ?_⟩
      rw [List.getElem?_set_self (List.getElem?_eq_some_iff.mp hget).1]
    · exact .inl (by rw [List.getElem?_set_ne hne, hget])
  rcases h with ⟨i, bits, hi, rfl⟩ | ⟨-, i, ip, bits, hi, -, -, rfl⟩ | ⟨-, -, rfl⟩
  · exact hset hi
  · exact hset hi
  · exact .inl (by rw [List.getElem?_append_left (List.getElem?_eq_some_iff.mp hget).1, hget])

end Entries

section Rewrite

variable {source primary : BitVec 32} {read : List AddrEntry} {items : List String} {st : ListScan}

/-- An entry of the subnet is a hit. -/
theorem InSubnet.hit {ip : BitVec 32} {bits : ℕ} (h : InSubnet ip source bits) :
    Hit source (.v4 ip bits) :=
  .inr ((sameSubnet_iff (not_lt.mpr h.2.1)).mpr h)

/-- Where there is a hit there is a first one. -/
theorem exists_first_hit {i : ℕ} (h : ∃ entry ∈ read.take i, Hit source entry) :
    ∃ j < i, ∃ entry, read[j]? = some entry ∧ Hit source entry ∧
      ∀ e ∈ read.take j, ¬Hit source e := by
  induction i with
  | zero =>
    obtain ⟨entry, hmem, -⟩ := h
    exact absurd hmem List.not_mem_nil
  | succ i ih =>
    by_cases hearlier : ∃ entry ∈ read.take i, Hit source entry
    · obtain ⟨j, hj, hfirst⟩ := ih hearlier
      exact ⟨j, by omega, hfirst⟩
    · obtain ⟨entry, hmem, hhit⟩ := h
      rw [List.take_add_one, List.mem_append] at hmem
      rcases hmem with hmem | hmem
      · exact absurd ⟨entry, hmem, hhit⟩ hearlier
      · refine ⟨i, Nat.lt_succ_self i, entry, Option.mem_toList.mp hmem, hhit, ?_⟩
        exact fun e he hh => hearlier ⟨e, he, hh⟩

/-- Where nothing overflows, the lengths over 32 are shielded: the first hit before one of them
has been evaluated. -/
theorem Shielded.of_not_scanOverflows (hread : Readable items)
    (h : ¬ScanOverflows source (items.map readEntry)) : Shielded source items := by
  intro i ip bits hget hover hne
  have hentry := hread.getElem?_map.mpr hget
  by_cases hhit : ∃ entry ∈ (items.map readEntry).take i, Hit source entry
  · obtain ⟨j, hj, entry, hj', hhit, hfirst⟩ := exists_first_hit hhit
    cases entry with
    | other text => exact absurd hhit id
    | v4 ip' bits' =>
      refine ⟨j, hj, ip', bits', hread.getElem?_map.mp hj', ?_⟩
      by_cases hsource : ip' = source
      · exact .inl hsource
      · have hfits : ¬SubnetOverflows bits' :=
          fun hover' => h ⟨j, ip', bits', hj', hover', hsource, hfirst⟩
        exact .inr ((sameSubnet_iff hfits).mp (hhit.resolve_left hsource))
  · exact absurd ⟨i, ip, bits, hentry, hover, hne, fun e he hh => hhit ⟨e, he, hh⟩⟩ h

/-- An earlier entry has been read before. -/
theorem mem_take_of_getElem? {i j : ℕ} {entry : AddrEntry} (hj : j < i)
    (hget : read[j]? = some entry) : entry ∈ read.take i := by
  refine List.mem_of_getElem? (i := j) ?_
  rw [List.getElem?_take, if_pos hj, hget]

/-- Where the lengths over 32 are shielded, nothing overflows. -/
theorem Shielded.not_scanOverflows (hread : Readable items) (h : Shielded source items) :
    ¬ScanOverflows source (items.map readEntry) := by
  rintro ⟨i, ip, bits, hget, hover, hne, hfirst⟩
  obtain ⟨j, hj, ip', bits', hget', hhit⟩ := h i ip bits (hread.getElem?_map.mp hget) hover hne
  exact hfirst _ (mem_take_of_getElem? hj (hread.getElem?_map.mpr hget'))
    (hhit.elim .inl InSubnet.hit)

/-- The chosen entry is an IPv4 entry. -/
theorem Chosen.exists_v4 {i : ℕ} (h : Chosen source read i) :
    ∃ ip bits, read[i]? = some (.v4 ip bits) := by
  rcases h with ⟨bits, hget, -⟩ | ⟨-, ip, bits, hget, -⟩
  · exact ⟨source, bits, hget⟩
  · exact ⟨ip, bits, hget⟩

/-- The chosen entry gets the new address. -/
theorem Scanned.update_some {i : ℕ} (h : Scanned source read st) (hchosen : st.chosenIdx = some i)
    (primary : BitVec 32) : ∃ ip bits, read[i]? = some (.v4 ip bits) ∧
      (st.update primary).map AddrEntry.text =
        (read.map AddrEntry.text).set i (v4Text primary bits) := by
  obtain ⟨ip, bits, hget⟩ := (h.chosen_some i hchosen).exists_v4
  refine ⟨ip, bits, hget, ?_⟩
  rw [ListScan.update, hchosen, h.entries]
  dsimp only
  rw [hget]
  exact List.map_set

/-- Without a chosen entry the new address is appended. -/
theorem Scanned.update_none (h : Scanned source read st) (hchosen : st.chosenIdx = none)
    (primary : BitVec 32) : (st.update primary).map AddrEntry.text =
      read.map AddrEntry.text ++ [v4Text primary 24] := by
  rw [ListScan.update, hchosen, h.entries]
  exact List.map_append

/-- The new address stands at one place, which is the chosen one or the end, and at the others
stand the texts of the entries. -/
theorem Scanned.exists_place (h : Scanned source read st) (primary : BitVec 32)
    (hfits : ∀ ip bits, .v4 ip bits ∈ read → bits < 256) :
    ∃ k bits, bits < 256 ∧
      ((st.update primary).map AddrEntry.text)[k]? = some (v4Text primary bits) ∧
      (st.chosenIdx = some k ∨ (st.chosenIdx = none ∧ k = read.length)) ∧
      ∀ j < read.length, j ≠ k →
        ((st.update primary).map AddrEntry.text)[j]? = (read.map AddrEntry.text)[j]? := by
  cases hchosen : st.chosenIdx with
  | none =>
    rw [h.update_none hchosen]
    refine ⟨read.length, 24, by decide, ?_, .inr ⟨rfl, rfl⟩, fun j hj _ => ?_⟩
    · rw [← List.length_map AddrEntry.text, List.getElem?_concat_length]
    · rw [List.getElem?_append_left (by rwa [List.length_map])]
  | some i =>
    obtain ⟨ip, bits, hget, htexts⟩ := h.update_some hchosen primary
    have hlt := (List.getElem?_eq_some_iff.mp hget).1
    rw [htexts]
    refine ⟨i, bits, hfits ip bits (List.mem_of_getElem? hget), ?_, .inl rfl, fun j _ hne => ?_⟩
    · rw [List.getElem?_set_self (by rwa [List.length_map])]
    · rw [List.getElem?_set_ne hne.symm]

/-- A prefix length that has been read is a `u8`. -/
theorem lt_of_mem_map_readEntry {ip : BitVec 32} {bits : ℕ}
    (h : .v4 ip bits ∈ items.map readEntry) : bits < 256 := by
  obtain ⟨item, -, hread⟩ := List.mem_map.mp h
  rw [readEntry] at hread
  split at hread
  · next ip' cs _ =>
    obtain ⟨-, rfl⟩ := AddrEntry.v4.inj hread
    cases hn : parseU8 cs with
    | none => exact (by decide : 24 < 256)
    | some n => exact lt_of_parseU8 hn
  · cases hread

/-- Where nothing overflows, the chosen item is the one that has to give way. -/
theorem Scanned.replaced {i : ℕ} (h : Scanned source (items.map readEntry) st)
    (hread : Readable items) (hover : ¬ScanOverflows source (items.map readEntry))
    (hchosen : st.chosenIdx = some i) : Replaced source items i := by
  rcases h.chosen_some i hchosen with ⟨bits, hget, hlast⟩ | ⟨hnone, ip, bits, hget, hsame, hfirst⟩
  · refine .inl ⟨bits, hread.getElem?_map.mp hget, fun j hj bits' hj' => ?_⟩
    exact hlast j hj bits' (hread.getElem?_map.mpr hj')
  · have hne : ip ≠ source := fun heq => hnone bits (heq ▸ List.mem_of_getElem? hget)
    have hfits : ¬SubnetOverflows bits := fun hbits =>
      hover ⟨i, ip, bits, hget, hbits, hne, hfirst⟩
    refine .inr ⟨fun j bits' hj => hnone bits' (hread.mem_map.mpr ⟨j, hj⟩), ip, bits,
      hread.getElem?_map.mp hget, (sameSubnet_iff hfits).mp hsame, fun j hj ip' bits' hj' hin => ?_⟩
    exact hfirst _ (mem_take_of_getElem? hj (hread.getElem?_map.mpr hj')) hin.hit

/-- Where no item is chosen, none is the source or in its subnet. -/
theorem Scanned.missed (h : Scanned source (items.map readEntry) st) (hread : Readable items)
    (hchosen : st.chosenIdx = none) : (∀ i bits, ¬EntryAt items i source bits) ∧
      ∀ i ip bits, EntryAt items i ip bits → ¬InSubnet ip source bits := by
  have hmiss := h.chosen_none.mp hchosen
  exact ⟨fun i bits hi => hmiss _ (hread.mem_map.mpr ⟨i, hi⟩) (.inl rfl),
    fun i ip bits hi hin => hmiss _ (hread.mem_map.mpr ⟨i, hi⟩) hin.hit⟩

/-- An item that does not give way is written as it was. -/
theorem OthersKept.text_readEntry (h : OthersKept source primary items) (hread : Readable items)
    {j : ℕ} {item : String} (hget : items[j]? = some item) (hstays : ¬Replaced source items j) :
    (readEntry item).text = item := by
  cases hv4 : v4Of item with
  | none =>
    rw [readEntry_of_v4Of_eq_none (hread item (List.mem_of_getElem? hget)) hv4, AddrEntry.text]
  | some entry =>
    have hentry : EntryAt items j entry.1 entry.2 := by rw [EntryAt, hget, Option.bind_some, hv4]
    have htext := (h j entry.1 entry.2 hentry hstays).2
    rw [hget, Option.some.injEq] at htext
    rw [readEntry_of_v4Of hv4]
    exact htext.symm

/-- The items that do not give way are written at their places. -/
theorem OthersKept.getElem?_texts (h : OthersKept source primary items) (hread : Readable items)
    {j : ℕ} (hstays : ¬Replaced source items j) :
    ((items.map readEntry).map AddrEntry.text)[j]? = items[j]? := by
  rw [List.map_map, List.getElem?_map]
  cases hget : items[j]? with
  | none => rfl
  | some item => exact congrArg some (h.text_readEntry hread hget hstays)

/-- The list that is written is right if nothing overflows and the other items can stay. -/
theorem Scanned.updated (h : Scanned source (items.map readEntry) st) (hread : Readable items)
    (hover : ¬ScanOverflows source (items.map readEntry))
    (hkept : OthersKept source primary items) :
    Updated source primary items ((st.update primary).map AddrEntry.text) ∧
      OneEntry primary ((st.update primary).map AddrEntry.text) := by
  cases hchosen : st.chosenIdx with
  | none =>
    obtain ⟨hsource, hsubnet⟩ := h.missed hread hchosen
    have hstays (j : ℕ) : ¬Replaced source items j := by
      rintro (⟨bits, hj, -⟩ | ⟨-, ip, bits, hj, hin, -⟩)
      · exact hsource j bits hj
      · exact hsubnet j ip bits hj hin
    have htexts : (items.map readEntry).map AddrEntry.text = items :=
      List.ext_getElem? fun j => hkept.getElem?_texts hread (hstays j)
    rw [h.update_none hchosen, htexts]
    refine ⟨.inr (.inr ⟨hsource, hsubnet, rfl⟩), items.length, ⟨24, ?_⟩, ?_⟩
    · exact entryAt_of_getElem? List.getElem?_concat_length (by decide)
    · rintro j ⟨bits, hj⟩
      rcases hj.of_concat with rfl | hj
      · rfl
      · exact absurd rfl (hkept j primary bits hj (hstays j)).1
  | some i =>
    have hgone := h.replaced hread hover hchosen
    have hstays {j : ℕ} (hne : j ≠ i) : ¬Replaced source items j :=
      fun hj => hne (hj.unique hgone)
    obtain ⟨ip, bits, hget, hupdate⟩ := h.update_some hchosen primary
    have hentry : EntryAt items i ip bits := hread.getElem?_map.mp hget
    have htexts : ((items.map readEntry).map AddrEntry.text).set i (v4Text primary bits) =
        items.set i (v4Text primary bits) := by
      refine List.ext_getElem? fun j => ?_
      by_cases hne : j = i
      · subst hne
        rw [List.getElem?_set_self (by simpa using hentry.lt_length),
          List.getElem?_set_self hentry.lt_length]
      · rw [List.getElem?_set_ne (Ne.symm hne), List.getElem?_set_ne (Ne.symm hne),
          hkept.getElem?_texts hread (hstays hne)]
    rw [hupdate, htexts]
    refine ⟨?_, i, ⟨bits, ?_⟩, ?_⟩
    · rcases hgone with ⟨bits', hsource, -⟩ | ⟨hnone, ip', bits', hi, hin, hfirst⟩
      · obtain ⟨rfl, rfl⟩ := Prod.mk.inj (Option.some.inj (hentry.symm.trans hsource))
        exact .inl ⟨i, bits, hsource, rfl⟩
      · obtain ⟨rfl, rfl⟩ := Prod.mk.inj (Option.some.inj (hentry.symm.trans hi))
        exact .inr (.inl ⟨hnone, i, ip, bits, hi, hin, hfirst, rfl⟩)
    · exact entryAt_of_getElem? (List.getElem?_set_self hentry.lt_length) hentry.lt
    · rintro j ⟨bits', hj⟩
      by_contra hne
      exact (hkept j primary bits' ((entryAt_set_ne hne _).mp hj) (hstays hne)).1 rfl

/-- If the list that is written is right, the items are readable. -/
theorem Scanned.readable (h : Scanned source (items.map readEntry) st)
    (hupdated : Updated source primary items ((st.update primary).map AddrEntry.text)) :
    Readable items := by
  by_contra hunreadable
  obtain ⟨item, hitem, hnone, ip, hv4⟩ := exists_unreadable hunreadable
  obtain ⟨u, hu⟩ := List.mem_iff_getElem?.mp hitem
  obtain ⟨k, bits, hbits, hk, -, hothers⟩ :=
    h.exists_place primary fun ip bits => lt_of_mem_map_readEntry
  have hwritten : ∃ ip' bits', bits' < 256 ∧
      ((st.update primary).map AddrEntry.text)[u]? = some (v4Text ip' bits') := by
    by_cases hne : u = k
    · exact ⟨primary, bits, hbits, hne ▸ hk⟩
    · refine ⟨ip, 24, by decide, ?_⟩
      rw [hothers u (by simpa using (List.getElem?_eq_some_iff.mp hu).1) hne, List.map_map,
        List.getElem?_map, hu, Option.map_some, Function.comp_apply, hv4]
      rfl
  obtain ⟨ip', bits', hbits', hwritten⟩ := hwritten
  rcases hupdated.kept hu with hsame | ⟨ip'', bits'', hsome, -⟩
  · rw [hsame, Option.some.injEq] at hwritten
    rw [hwritten, v4Of_v4Text ip' hbits'] at hnone
    cases hnone
  · rw [hnone] at hsome
    cases hsome

/-- If the list that is written is right, the other items can stay. -/
theorem Scanned.othersKept (h : Scanned source (items.map readEntry) st) (hread : Readable items)
    (hover : ¬ScanOverflows source (items.map readEntry))
    (hupdated : Updated source primary items ((st.update primary).map AddrEntry.text))
    (hone : OneEntry primary ((st.update primary).map AddrEntry.text)) :
    OthersKept source primary items := by
  intro j ip bits hj hstays
  obtain ⟨k, bits', hbits', hk, hplace, hothers⟩ :=
    h.exists_place primary fun ip bits => lt_of_mem_map_readEntry
  have hprimary := entryAt_of_getElem? hk hbits'
  have hlt : j < (items.map readEntry).length := by simpa using hj.lt_length
  have hne : j ≠ k := by
    rintro rfl
    rcases hplace with hchosen | ⟨-, hend⟩
    · exact hstays (h.replaced hread hover hchosen)
    · omega
  have hwritten : ((st.update primary).map AddrEntry.text)[j]? = some (v4Text ip bits) := by
    rw [hothers j hlt hne, List.getElem?_map, hread.getElem?_map.mpr hj]
    rfl
  have hother : ip ≠ primary := by
    rintro rfl
    exact hne (hone.unique ⟨bits, entryAt_of_getElem? hwritten hj.lt⟩ ⟨bits', hprimary⟩)
  refine ⟨hother, ?_⟩
  obtain ⟨item, hget, hv4⟩ := Option.bind_eq_some_iff.mp hj
  rcases hupdated.kept hget with hsame | ⟨ip'', bits'', -, hnew⟩
  · rw [hget, ← hsame, hwritten]
  · rw [hwritten, Option.some.injEq] at hnew
    have hsplit := congrArg splitV4 hnew
    rw [splitV4_v4Text, splitV4_v4Text] at hsplit
    exact absurd (Prod.mk.inj (Option.some.inj hsplit)).1 hother

end Rewrite

/-- An entry of the new list is one of the old list or has an address. -/
theorem of_mem_update {primary : BitVec 32} {st : ListScan} {entry : AddrEntry}
    (h : entry ∈ st.update primary) : entry ∈ st.entries ∨ ∃ ip bits, entry = .v4 ip bits := by
  rw [ListScan.update] at h
  split at h
  · split at h
    · exact (List.mem_or_eq_of_mem_set h).imp_right fun heq => ⟨_, _, heq⟩
    · exact .inl h
  · exact (List.mem_append.mp h).imp_right fun hmem => ⟨_, _, List.mem_singleton.mp hmem⟩

/-- The items of the new list are the texts of its entries. -/
theorem itemsOf_newAddrList (source primary : BitVec 32) (rawList : String) :
    itemsOf (newAddrList source primary rawList) =
      ((scanList source rawList).update primary).map AddrEntry.text := by
  have hscanned := scanned_scanList source rawList
  obtain ⟨k, bits, -, hk, -⟩ := hscanned.exists_place primary fun ip bits => lt_of_mem_map_readEntry
  have hmem := List.mem_of_getElem? hk
  have hfits : ∀ text ∈ ((scanList source rawList).update primary).map AddrEntry.text,
      ',' ∉ text.toList ∧ Text.trim text = text := by
    rw [List.forall_mem_map]
    intro entry hentry
    rcases of_mem_update hentry with hentry | ⟨ip, bits, rfl⟩
    · rw [hscanned.entries] at hentry
      obtain ⟨item, hitem, rfl⟩ := List.mem_map.mp hentry
      obtain ⟨hcomma, htrim⟩ := of_mem_split_trim hitem
      exact text_readEntry_fits hcomma htrim
    · exact ⟨comma_notMem_v4Text, trim_v4Text⟩
  have hsplit := Text.map_trim_split_intercalate (List.ne_nil_of_mem hmem)
    (fun text htext => (hfits text htext).1) fun text htext => (hfits text htext).2
  have hblank : ¬Text.isBlank (newAddrList source primary rawList) = true := by
    intro hblank
    rw [← hsplit] at hmem
    exact v4Text_ne_empty (eq_empty_of_isBlank hblank hmem)
  rw [itemsOf, if_neg hblank]
  exact hsplit

/-- In a blank list the loop leaves an empty item, so the result is not the new address alone. -/
theorem not_updated_of_blank {source primary : BitVec 32} {rawList : String}
    (hblank : Text.isBlank rawList = true) :
    ¬Updated source primary (itemsOf rawList) (itemsOf (newAddrList source primary rawList)) := by
  have hscanned := scanned_scanList source rawList
  have hnone : (scanList source rawList).chosenIdx = none := by
    rw [hscanned.chosen_none, List.forall_mem_map]
    intro item hitem
    have hempty : readEntry "" = .other "" := by decide
    rw [eq_empty_of_isBlank hblank hitem, hempty]
    exact id
  rw [itemsOf_newAddrList, hscanned.update_none hnone, itemsOf, if_pos hblank]
  rintro (⟨i, bits, hget, -⟩ | ⟨-, i, ip, bits, hget, -⟩ | ⟨-, -, hnew⟩)
  · cases hget
  · cases hget
  · have hnil := List.append_cancel_right hnew
    rw [List.map_eq_nil_iff, List.map_eq_nil_iff, List.map_eq_nil_iff, Text.split,
      List.map_eq_nil_iff] at hnil
    exact List.splitOn_ne_nil ',' rawList.toList hnil

/-- A prefix length of 33 overflows, and the entry counts as one of the subnet. -/
example : newAddrList 0x0a000001#32 0x0a000009#32 "92.168.1.2/33" = "10.0.0.9/33" := by
  decide +kernel

end LinuxAgent.IpJump
