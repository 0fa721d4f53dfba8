import Mathlib.Data.List.Basic
import Mathlib.Data.Nat.Notation
import Mathlib.Tactic.Common

/-!
# Messages from the kernel

`receive_messages_loop` hands every datagram to a callback, which takes 16 bytes of header
away and parses the rest: a type, a length and as many bytes of payload. The header is
taken away without a look at the length of the datagram, and where `usize` has 32 bits the
sum of the length field and the 8 bytes before the payload may wrap around. Either way
the callback panics, and no datagram is received after that.
-/

namespace LinuxAgent.KernelEvent

/-- What the code depends on of the machine it is compiled for. -/
structure Target where
  /-- `usize` has 64 bits, otherwise it has 32. -/
  is64Bit : Bool
  bigEndian : Bool
  deriving DecidableEq

/-- The number of values of `usize`. -/
def Target.usizeValues (t : Target) : ℕ :=
  if t.is64Bit then 18446744073709551616 else 4294967296

/-- `u32::from_ne_bytes`. -/
def fromNeBytes (t : Target) (bytes : List UInt8) : ℕ :=
  (if t.bigEndian then bytes.reverse else bytes).foldr (fun b n => b.toNat + 256 * n) 0

/-- The slice `bytes[first..last]`, where `none` is a panic. -/
def slice (first last : ℕ) (bytes : List UInt8) : Option (List UInt8) :=
  if first ≤ last ∧ last ≤ bytes.length then some ((bytes.take last).drop first) else none

/-- The slice `bytes[first..]`, where `none` is a panic. -/
def sliceFrom (first : ℕ) (bytes : List UInt8) : Option (List UInt8) :=
  slice first bytes.length bytes

/-- `KosecsMsgData`. -/
structure KosecsMsgData where
  dataType : ℕ
  dataLen : ℕ
  payload : List UInt8
  deriving DecidableEq

/-- `KosecsMsgData::parse`, where the outer `none` is a panic. -/
def KosecsMsgData.parse (t : Target) (raw : List UInt8) : Option (Option KosecsMsgData) := do
  if raw.length < 8 then
    return none
  let dataType := fromNeBytes t (← slice 0 4 raw)
  let dataLen := fromNeBytes t (← slice 4 8 raw)
  let last := (8 + dataLen) % t.usizeValues
  if raw.length < last then
    return none
  let payload ← slice 8 last raw
  return some ⟨dataType, dataLen, payload⟩

/-- What the callback does with a datagram. -/
inductive Handled
  /-- The payload is logged. -/
  | echo (payload : List UInt8)
  /-- The event is handed to its handler. -/
  | event (dataType : ℕ) (payload : List UInt8) (dataLen : ℕ)
  /-- The datagram is logged as malformed. -/
  | rejected
  deriving DecidableEq

/-- What is done with what has been parsed. -/
def dispatch : Option KosecsMsgData → Handled
  | some msg =>
    if msg.dataType = 1 then .echo msg.payload
    else .event msg.dataType msg.payload msg.dataLen
  | none => .rejected

/-- The callback of `start_kernel_rcv_handler`, where `none` is a panic. -/
def callback (t : Target) (data : List UInt8) : Option Handled := do
  let payload ← sliceFrom 16 data
  let parsed ← KosecsMsgData.parse t payload
  return dispatch parsed

/-- What `recvmsg` returns. -/
inductive Received
  | error (errno : ℕ)
  /-- A datagram, of which the buffer takes 4096 bytes at most. -/
  | datagram (bytes : List UInt8)
  deriving DecidableEq

/-- The ways in which `receive_messages_loop` ends or goes on. -/
inductive LoopEnd
  | error (errno : ℕ)
  | closed
  | panicked
  | waiting
  deriving DecidableEq

/-- `receive_messages_loop`: what the callback has done and how the loop stands. -/
def receiveMessagesLoop (t : Target) : List Received → List Handled × LoopEnd
  | [] => ([], .waiting)
  | .error errno :: _ => ([], .error errno)
  | .datagram bytes :: rest =>
    let buf := bytes.take 4096
    if buf = [] then ([], .closed)
    else match callback t buf with
      | none => ([], .panicked)
      | some handled =>
        let next := receiveMessagesLoop t rest
        (handled :: next.1, next.2)

/-- The bytes after a header of 20 bytes: the length field of a datagram. -/
def lengthField (t : Target) (data : List UInt8) : ℕ := fromNeBytes t ((data.drop 20).take 4)

/-- The type of a datagram. -/
def typeField (t : Target) (data : List UInt8) : ℕ := fromNeBytes t ((data.drop 16).take 4)

/-- The value of four bytes. -/
theorem fromNeBytes_lt (t : Target) {bytes : List UInt8} (h : bytes.length = 4) :
    fromNeBytes t bytes < 4294967296 := by
  have hcons {bytes : List UInt8} {b : UInt8} {bound : ℕ}
      (hlt : bytes.foldr (fun b n => b.toNat + 256 * n) 0 < bound) :
      (b :: bytes).foldr (fun b n => b.toNat + 256 * n) 0 < 256 * bound := by
    have hb := b.toNat_lt
    rw [List.foldr_cons]
    omega
  have hfour {bytes : List UInt8} (h : bytes.length = 4) :
      bytes.foldr (fun b n => b.toNat + 256 * n) 0 < 4294967296 := by
    have hnil : ([] : List UInt8).foldr (fun b n => b.toNat + 256 * n) 0 < 1 := Nat.zero_lt_one
    match bytes, h with
    | [_, _, _, _], _ => exact hcons (hcons (hcons (hcons hnil)))
  rw [fromNeBytes]
  split
  · exact hfour (List.length_reverse.trans h)
  · exact hfour h

/-- The sum of the length field and the 8 bytes before the payload wraps around. -/
def Wraps (t : Target) (data : List UInt8) : Prop :=
  t.is64Bit = false ∧ 4294967296 ≤ lengthField t data + 8

/-- A slice within its bounds. -/
theorem slice_eq_some {first last : ℕ} {bytes : List UInt8} (h : first ≤ last)
    (hlast : last ≤ bytes.length) : slice first last bytes = some ((bytes.take last).drop first) :=
  if_pos ⟨h, hlast⟩

/-- The callback panics on a datagram without a whole header. -/
theorem callback_of_short (t : Target) {data : List UInt8} (h : data.length < 16) :
    callback t data = none := by
  have hnot : ¬(16 ≤ data.length ∧ data.length ≤ data.length) := by omega
  rw [callback, sliceFrom, slice, if_neg hnot]
  rfl

/-- The callback on a datagram with a whole header. -/
theorem callback_of_le (t : Target) {data : List UInt8} (h : 16 ≤ data.length) :
    callback t data = (KosecsMsgData.parse t (data.drop 16)).map dispatch := by
  rw [callback, sliceFrom, slice_eq_some h (Nat.le_refl _), List.take_length]
  exact (Option.map_eq_bind).symm

/-- A datagram that ends before its length field is rejected. -/
theorem parse_of_short (t : Target) {data : List UInt8} (h : data.length < 24) :
    KosecsMsgData.parse t (data.drop 16) = some none := by
  have hlength : (data.drop 16).length < 8 := by
    rw [List.length_drop]
    omega
  rw [KosecsMsgData.parse, if_pos hlength]
  rfl

/-- The parts of a datagram with a length field. -/
theorem parse_of_le (t : Target) {data : List UInt8} (h : 24 ≤ data.length) :
    KosecsMsgData.parse t (data.drop 16) =
      if data.length < 16 + (8 + lengthField t data) % t.usizeValues then some none
      else (slice 8 ((8 + lengthField t data) % t.usizeValues) (data.drop 16)).map fun payload =>
        some ⟨typeField t data, lengthField t data, payload⟩ := by
  have hlength : ¬(data.drop 16).length < 8 := by
    rw [List.length_drop]
    omega
  have htype : slice 0 4 (data.drop 16) = some ((data.drop 16).take 4) :=
    slice_eq_some (Nat.zero_le _) (by rw [List.length_drop]; omega)
  have hfield : slice 4 8 (data.drop 16) = some ((data.drop 20).take 4) := by
    rw [slice_eq_some (by decide) (by rw [List.length_drop]; omega), List.drop_take, List.drop_drop]
  have hlast : (data.drop 16).length < (8 + lengthField t data) % t.usizeValues ↔
      data.length < 16 + (8 + lengthField t data) % t.usizeValues := by
    rw [List.length_drop]
    omega
  rw [KosecsMsgData.parse, if_neg hlength]
  have hlengthField : fromNeBytes t ((data.drop 20).take 4) = lengthField t data := rfl
  have htypeField : fromNeBytes t ((data.drop 16).take 4) = typeField t data := rfl
  simp only [htype, hfield, hlengthField, htypeField, bind, Option.bind_some, pure, hlast]
  by_cases hlt : data.length < 16 + (8 + lengthField t data) % t.usizeValues
  · rw [if_pos hlt, if_pos hlt]
  · rw [if_neg hlt, if_neg hlt]
    exact Option.map_eq_bind.symm

/-- A sum that does not wrap around. -/
theorem mod_usizeValues (t : Target) {data : List UInt8} (h : 24 ≤ data.length)
    (hwraps : ¬Wraps t data) :
    (8 + lengthField t data) % t.usizeValues = 8 + lengthField t data := by
  have hfield : lengthField t data < 4294967296 := fromNeBytes_lt t (by
    rw [List.length_take, List.length_drop]
    omega)
  refine Nat.mod_eq_of_lt ?_
  rw [Target.usizeValues]
  cases hbits : t.is64Bit with
  | true =>
    rw [if_pos rfl]
    omega
  | false =>
    rw [if_neg Bool.false_ne_true]
    by_contra hle
    exact hwraps ⟨hbits, by omega⟩

/-- The callback panics where the sum wraps around. -/
theorem callback_of_wraps (t : Target) {data : List UInt8} (h : 24 ≤ data.length)
    (hwraps : Wraps t data) : callback t data = none := by
  have hfield : lengthField t data < 4294967296 := fromNeBytes_lt t (by
    rw [List.length_take, List.length_drop]
    omega)
  obtain ⟨hbits, hsum⟩ := hwraps
  have hlast : (8 + lengthField t data) % t.usizeValues < 8 := by
    rw [Target.usizeValues, hbits, if_neg Bool.false_ne_true]
    omega
  have hslice : slice 8 ((8 + lengthField t data) % t.usizeValues) (data.drop 16) = none :=
    if_neg (by omega)
  rw [callback_of_le t (by omega), parse_of_le t h, if_neg (by omega), hslice]
  rfl

/-- What is parsed where the sum does not wrap around. -/
theorem parse_of_not_wraps (t : Target) {data : List UInt8} (h : 24 ≤ data.length)
    (hwraps : ¬Wraps t data) :
    KosecsMsgData.parse t (data.drop 16) =
      if 24 + lengthField t data ≤ data.length then
        some (some ⟨typeField t data, lengthField t data,
          (data.drop 24).take (lengthField t data)⟩)
      else some none := by
  rw [parse_of_le t h, mod_usizeValues t h hwraps]
  by_cases hlong : 24 + lengthField t data ≤ data.length
  · rw [if_pos hlong, if_neg (by omega), slice_eq_some (by omega) (by
      rw [List.length_drop]
      omega), List.drop_take, List.drop_drop, Nat.add_sub_cancel_left]
    rfl
  · rw [if_neg hlong, if_pos (by omega)]

/-- The datagrams on which the callback panics. -/
theorem callback_eq_none_iff (t : Target) (data : List UInt8) :
    callback t data = none ↔ data.length < 16 ∨ 24 ≤ data.length ∧ Wraps t data := by
  by_cases hheader : data.length < 16
  · exact iff_of_true (callback_of_short t hheader) (.inl hheader)
  · rw [or_iff_right hheader]
    by_cases hfield : 24 ≤ data.length
    · rw [and_iff_right hfield]
      refine ⟨fun hnone => ?_, callback_of_wraps t hfield⟩
      by_contra hwraps
      rw [callback_of_le t (by omega), parse_of_not_wraps t hfield hwraps] at hnone
      split at hnone
      · cases hnone
      · cases hnone
    · refine iff_of_false ?_ fun h => hfield h.1
      rw [callback_of_le t (by omega), parse_of_short t (by omega)]
      exact Option.some_ne_none _

/-- The callback does not panic on the datagram, accepts it just if the length field fits, and
then the payload is what follows the field. -/
def HandledTotally (t : Target) (data : List UInt8) : Prop :=
  callback t data ≠ none ∧
    ((∃ msg, KosecsMsgData.parse t (data.drop 16) = some (some msg)) ↔
      24 ≤ data.length ∧ 24 + lengthField t data ≤ data.length) ∧
    ∀ msg, KosecsMsgData.parse t (data.drop 16) = some (some msg) →
      msg.payload = (data.drop 24).take (lengthField t data) ∧
        msg.payload.length = lengthField t data

/-- A datagram is handled just if it has a whole header and the sum of its length field and 8
does not wrap around. -/
theorem handledTotally_iff (t : Target) (data : List UInt8) :
    HandledTotally t data ↔
      16 ≤ data.length ∧ (24 ≤ data.length → ¬Wraps t data) := by
  have hpanics : callback t data ≠ none ↔
      16 ≤ data.length ∧ (24 ≤ data.length → ¬Wraps t data) := by
    rw [Ne, callback_eq_none_iff, not_or, not_and, Nat.not_lt]
  rw [HandledTotally, hpanics]
  refine and_iff_left_of_imp ?_
  rintro ⟨-, hwraps⟩
  by_cases hfield : 24 ≤ data.length
  · rw [parse_of_not_wraps t hfield (hwraps hfield)]
    by_cases hlong : 24 + lengthField t data ≤ data.length
    · rw [if_pos hlong]
      refine ⟨iff_of_true ⟨_, rfl⟩ ⟨hfield, hlong⟩, fun msg hmsg => ?_⟩
      obtain rfl := Option.some.inj (Option.some.inj hmsg)
      refine ⟨rfl, ?_⟩
      rw [List.length_take, List.length_drop]
      omega
    · rw [if_neg hlong]
      simp [hlong]
  · rw [parse_of_short t (by omega)]
    simp [hfield]

/-- A datagram of one byte makes the callback panic, and so does, where `usize` has 32 bits, the
greatest length field. -/
theorem short_and_long_panic :
    ¬HandledTotally ⟨true, false⟩ [0] ∧
      ¬HandledTotally ⟨false, false⟩ (List.replicate 20 0 ++ [255, 255, 255, 255]) := by
  refine ⟨fun h => h.1 (callback_of_short _ (by decide)), fun h => h.1 ?_⟩
  exact callback_of_wraps _ (by decide) ⟨rfl, by decide⟩

/-- The datagrams that are delivered to the callback while it does not panic. -/
def delivered : List Received → List (List UInt8)
  | .datagram bytes :: rest =>
    if bytes.take 4096 = [] then [] else bytes.take 4096 :: delivered rest
  | _ => []

/-- A delivered datagram has between 1 and 4096 bytes. -/
theorem length_of_mem_delivered {received : List Received} {data : List UInt8}
    (h : data ∈ delivered received) : 1 ≤ data.length ∧ data.length ≤ 4096 := by
  induction received with
  | nil => exact absurd h List.not_mem_nil
  | cons r received ih =>
    cases r with
    | error errno => exact absurd h List.not_mem_nil
    | datagram bytes =>
      rw [delivered] at h
      split at h
      · exact absurd h List.not_mem_nil
      · rename_i hne
        obtain rfl | h := List.mem_cons.mp h
        · have hpos := List.length_pos_of_ne_nil hne
          rw [List.length_take] at hpos ⊢
          omega
        · exact ih h

/-- The loop ends in a panic just if the callback panics on one of the datagrams that are
delivered as long as it does not. -/
theorem receiveMessagesLoop_panicked_iff (t : Target) (received : List Received) :
    (receiveMessagesLoop t received).2 = .panicked ↔
      ∃ data ∈ delivered received, data.length < 16 ∨ 24 ≤ data.length ∧ Wraps t data := by
  induction received with
  | nil => simp [receiveMessagesLoop, delivered]
  | cons r received ih =>
    cases r with
    | error errno => simp [receiveMessagesLoop, delivered]
    | datagram bytes =>
      rw [receiveMessagesLoop, delivered]
      by_cases hnil : bytes.take 4096 = []
      · simp [hnil]
      · simp only [if_neg hnil, List.mem_cons, exists_eq_or_imp, ← callback_eq_none_iff]
        cases hcallback : callback t (bytes.take 4096) with
        | none => simp
        | some handled => simp [ih, callback_eq_none_iff]

end LinuxAgent.KernelEvent
