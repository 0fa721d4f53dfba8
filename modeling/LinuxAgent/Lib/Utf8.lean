import Mathlib.Data.Nat.Notation

/-!
# UTF-8 on lists of bytes

Encoding a text, decoding bytes that have to be valid, and decoding with
replacement characters in the places that are not. What a valid character is comes
from the standard library; the decoders here recurse over the bytes, so that they
evaluate.
-/

namespace Utf8

/-- The bytes of a text. -/
def encode (cs : List Char) : List UInt8 := cs.flatMap String.utf8EncodeChar

/-- The character at the start of some bytes. -/
def decodeChar? (bs : List UInt8) : Option Char := bs.toByteArray.utf8DecodeChar? 0

/-- The character that stands for bytes that are none. -/
def replacement : Char := '\uFFFD'

/-- A byte that continues a character. -/
def isContinuation (b : UInt8) : Bool := 0x80 ≤ b && b ≤ 0xBF

/-- A second byte that may follow the first byte of a character of three or four bytes. -/
def canFollow (b₀ b₁ : UInt8) : Bool :=
  (b₀ == 0xE0 && 0xA0 ≤ b₁ && b₁ ≤ 0xBF) || (0xE1 ≤ b₀ && b₀ ≤ 0xEC && isContinuation b₁) ||
  (b₀ == 0xED && 0x80 ≤ b₁ && b₁ ≤ 0x9F) || (0xEE ≤ b₀ && b₀ ≤ 0xEF && isContinuation b₁) ||
  (b₀ == 0xF0 && 0x90 ≤ b₁ && b₁ ≤ 0xBF) || (0xF1 ≤ b₀ && b₀ ≤ 0xF3 && isContinuation b₁) ||
  (b₀ == 0xF4 && 0x80 ≤ b₁ && b₁ ≤ 0x8F)

/-- How many bytes one replacement character stands for, where no character starts:
the longest start of a character, and at least one byte. -/
def invalidLength : List UInt8 → ℕ
  | b₀ :: b₁ :: rest =>
    if canFollow b₀ b₁ then
      match rest with
      | b₂ :: _ => if isContinuation b₂ then 3 else 2
      | [] => 2
    else 1
  | _ => 1

/-- The next character and the number of bytes that it takes. -/
def next (bs : List UInt8) : Char × ℕ :=
  match decodeChar? bs with
  | some c => (c, c.utf8Size)
  | none => (replacement, invalidLength bs)

/-- Decoding with replacement characters after the next `skip` bytes. -/
def lossyFrom (skip : ℕ) : List UInt8 → List Char
  | [] => []
  | b :: bs =>
    match skip with
    | 0 => (next (b :: bs)).1 :: lossyFrom ((next (b :: bs)).2 - 1) bs
    | skip + 1 => lossyFrom skip bs

/-- Decoding with replacement characters, the standard `from_utf8_lossy`. -/
def lossy (bs : List UInt8) : List Char := lossyFrom 0 bs

/-- Decoding valid bytes after the next `skip` ones. -/
def decodeFrom (skip : ℕ) : List UInt8 → Option (List Char)
  | [] => some []
  | b :: bs =>
    match skip with
    | 0 => (decodeChar? (b :: bs)).bind fun c => (decodeFrom (c.utf8Size - 1) bs).map (c :: ·)
    | skip + 1 => decodeFrom skip bs

/-- Decoding bytes that have to be valid, the standard `from_utf8`. -/
def decode (bs : List UInt8) : Option (List Char) := decodeFrom 0 bs

/-- No characters have no bytes. -/
@[simp]
theorem encode_nil : encode [] = [] := rfl

/-- The first character comes before the others. -/
theorem encode_cons (c : Char) (cs : List Char) :
    encode (c :: cs) = String.utf8EncodeChar c ++ encode cs := rfl

/-- The bytes of two texts one after the other. -/
@[simp]
theorem encode_append (cs ds : List Char) : encode (cs ++ ds) = encode cs ++ encode ds :=
  List.flatMap_append

/-- Reading back the bytes of a character. -/
theorem decodeChar?_utf8EncodeChar_append (c : Char) (bs : List UInt8) :
    decodeChar? (String.utf8EncodeChar c ++ bs) = some c := by
  rw [decodeChar?, List.toByteArray_append]
  exact ByteArray.utf8DecodeChar?_utf8EncodeChar_append

/-- A character that is read is encoded by the bytes that it is read from. -/
theorem exists_of_decodeChar?_eq_some {bs : List UInt8} {c : Char} (h : decodeChar? bs = some c) :
    ∃ rest, bs = String.utf8EncodeChar c ++ rest := by
  obtain ⟨tail, htail⟩ := ByteArray.exists_of_utf8DecodeChar?_eq_some h
  refine ⟨tail.data.toList, ?_⟩
  have hdata := congrArg (fun b : ByteArray => b.data.toList) htail
  simpa [List.toList_data_toByteArray] using hdata

/-- A character has a first byte. -/
theorem exists_utf8EncodeChar_eq_cons (c : Char) :
    ∃ b bs, String.utf8EncodeChar c = b :: bs ∧ bs.length = c.utf8Size - 1 := by
  have hlen := String.length_utf8EncodeChar c
  have hpos := c.utf8Size_pos
  cases h : String.utf8EncodeChar c with
  | nil =>
    rw [h, List.length_nil] at hlen
    omega
  | cons b bs =>
    rw [h, List.length_cons] at hlen
    exact ⟨b, bs, rfl, by omega⟩

/-- Skipping bytes is dropping them. -/
theorem lossyFrom_eq_lossy_drop (skip : ℕ) (bs : List UInt8) :
    lossyFrom skip bs = lossy (bs.drop skip) := by
  induction bs generalizing skip with
  | nil => simp [lossy, lossyFrom]
  | cons b bs ih =>
    cases skip with
    | zero => rfl
    | succ skip => simpa [lossyFrom] using ih skip

/-- Skipping bytes is dropping them. -/
theorem decodeFrom_eq_decode_drop (skip : ℕ) (bs : List UInt8) :
    decodeFrom skip bs = decode (bs.drop skip) := by
  induction bs generalizing skip with
  | nil => simp [decode, decodeFrom]
  | cons b bs ih =>
    cases skip with
    | zero => rfl
    | succ skip => simpa [decodeFrom] using ih skip

/-- No bytes have no characters. -/
@[simp]
theorem lossy_nil : lossy [] = [] := rfl

/-- Decoding takes one character after the other. -/
theorem lossy_cons (b : UInt8) (bs : List UInt8) :
    lossy (b :: bs) =
      (next (b :: bs)).1 :: lossy (bs.drop ((next (b :: bs)).2 - 1)) := by
  rw [← lossyFrom_eq_lossy_drop]
  rfl

/-- Decoding the bytes of a character. -/
theorem lossy_utf8EncodeChar_append (c : Char) (bs : List UInt8) :
    lossy (String.utf8EncodeChar c ++ bs) = c :: lossy bs := by
  obtain ⟨b, tail, hb, htail⟩ := exists_utf8EncodeChar_eq_cons c
  have hnext : next (b :: (tail ++ bs)) = (c, c.utf8Size) := by
    have hdecode := decodeChar?_utf8EncodeChar_append c bs
    rw [hb, List.cons_append] at hdecode
    rw [next, hdecode]
  rw [hb, List.cons_append, lossy_cons, hnext, ← htail, List.drop_left]

/-- Decoding starts with the text whose bytes come first. -/
@[simp]
theorem lossy_encode_append (cs : List Char) (bs : List UInt8) :
    lossy (encode cs ++ bs) = cs ++ lossy bs := by
  induction cs with
  | nil => rfl
  | cons c cs ih => rw [encode_cons, List.append_assoc, lossy_utf8EncodeChar_append, ih,
      List.cons_append]

/-- Decoding the bytes of a text gives the text. -/
@[simp]
theorem lossy_encode (cs : List Char) : lossy (encode cs) = cs := by
  simpa using lossy_encode_append cs []

/-- Decoding the bytes of a text gives the text. -/
@[simp]
theorem decode_encode (cs : List Char) : decode (encode cs) = some cs := by
  induction cs with
  | nil => rfl
  | cons c cs ih =>
    obtain ⟨b, tail, hb, htail⟩ := exists_utf8EncodeChar_eq_cons c
    have hdecode := decodeChar?_utf8EncodeChar_append c (encode cs)
    rw [hb, List.cons_append] at hdecode
    rw [encode_cons, hb, List.cons_append]
    change (decodeChar? (b :: (tail ++ encode cs))).bind _ = _
    rw [hdecode, Option.bind_some, decodeFrom_eq_decode_drop, ← htail, List.drop_left, ih,
      Option.map_some]

/-- Valid bytes are the bytes of what they decode to. -/
theorem eq_encode_of_decode {bs : List UInt8} {cs : List Char} (h : decode bs = some cs) :
    bs = encode cs := by
  induction hlen : bs.length using Nat.strongRecOn generalizing bs cs with
  | ind len ih =>
    cases bs with
    | nil =>
      obtain rfl := Option.some.inj h
      rfl
    | cons b bs =>
      obtain ⟨c, hc, hrest⟩ := Option.bind_eq_some_iff.mp h
      obtain ⟨ds, hds, rfl⟩ := Option.map_eq_some_iff.mp hrest
      rw [decodeFrom_eq_decode_drop] at hds
      obtain ⟨rest, hbytes⟩ := exists_of_decodeChar?_eq_some hc
      obtain ⟨b', tail, hb', htail⟩ := exists_utf8EncodeChar_eq_cons c
      rw [hb', List.cons_append] at hbytes
      obtain ⟨rfl, rfl⟩ := List.cons.inj hbytes
      rw [← htail, List.drop_left] at hds
      have hshort : rest.length < len := by
        rw [← hlen, List.length_cons, List.length_append]
        omega
      rw [encode_cons, ← ih _ hshort hds rfl, hb', List.cons_append]

/-- Different texts have different bytes. -/
theorem encode_injective {cs ds : List Char} (h : encode cs = encode ds) : cs = ds := by
  rw [← lossy_encode cs, h, lossy_encode]

/-- A character of one byte is that byte. -/
theorem utf8EncodeChar_of_lt {c : Char} (h : c.toNat < 128) :
    String.utf8EncodeChar c = [UInt8.ofNat c.toNat] := by
  have hval : c.val ≤ 127 := by
    rw [UInt32.le_iff_toNat_le]
    exact Nat.le_of_lt_succ h
  rw [String.utf8EncodeChar_eq_singleton (Char.utf8Size_eq_one_iff.mpr hval)]
  rfl

/-- The bytes of longer characters are none of the characters of one byte. -/
theorem le_of_mem_utf8EncodeChar {c : Char} (hc : 128 ≤ c.toNat) {b : UInt8}
    (hb : b ∈ String.utf8EncodeChar c) : 128 ≤ b.toNat := by
  have hval : ¬c.val.toNat ≤ 127 := by
    have : c.toNat = c.val.toNat := rfl
    omega
  rw [String.utf8EncodeChar] at hb
  simp only [if_neg hval] at hb
  split at hb
  · simp only [List.mem_cons, List.not_mem_nil, or_false] at hb
    rcases hb with rfl | rfl <;> simp only [UInt8.toNat_ofNat'] <;> omega
  · split at hb
    · simp only [List.mem_cons, List.not_mem_nil, or_false] at hb
      rcases hb with rfl | rfl | rfl <;> simp only [UInt8.toNat_ofNat'] <;> omega
    · simp only [List.mem_cons, List.not_mem_nil, or_false] at hb
      rcases hb with rfl | rfl | rfl | rfl <;> simp only [UInt8.toNat_ofNat'] <;> omega

/-- Characters of one byte differ if their bytes do. -/
theorem eq_of_ofNat_eq {c d : Char} (hc : c.toNat < 128) (hd : d.toNat < 128)
    (h : UInt8.ofNat c.toNat = UInt8.ofNat d.toNat) : c = d := by
  have hnat := congrArg UInt8.toNat h
  simp only [UInt8.toNat_ofNat'] at hnat
  exact Char.toNat_inj.mp (by omega)

/-- Bytes before a character of one byte are those of a text, if they are so together. -/
theorem exists_eq_encode_of_append {c : Char} (hc : c.toNat < 128) {bs : List UInt8}
    {after cs : List Char} (h : bs ++ encode (c :: after) = encode cs) :
    ∃ before, bs = encode before := by
  induction cs generalizing bs with
  | nil =>
    obtain ⟨rfl, -⟩ := List.append_eq_nil_iff.mp h
    exact ⟨[], rfl⟩
  | cons d cs ih =>
    cases bs with
    | nil => exact ⟨[], rfl⟩
    | cons b bs =>
      rw [encode_cons, encode_cons, utf8EncodeChar_of_lt hc, List.singleton_append] at h
      obtain ⟨rest, hfirst, hrest⟩ | ⟨rest, hd, hrest⟩ := List.append_eq_append_iff.mp h
      · cases rest with
        | nil =>
          refine ⟨[d], ?_⟩
          rw [List.append_nil] at hfirst
          rw [encode_cons, encode_nil, List.append_nil, hfirst]
        | cons b' rest =>
          obtain ⟨rfl, -⟩ := List.cons.inj hrest
          have hbyte : UInt8.ofNat c.toNat ∈ String.utf8EncodeChar d := by
            rw [hfirst]
            exact List.mem_append_right _ List.mem_cons_self
          have hlong : 128 ≤ d.toNat := by
            refine Nat.le_of_not_lt fun hshort => ?_
            have hlen := congrArg List.length hfirst
            rw [utf8EncodeChar_of_lt hshort] at hlen
            simp at hlen
          have hle := le_of_mem_utf8EncodeChar hlong hbyte
          rw [UInt8.toNat_ofNat'] at hle
          omega
      · have htail : rest ++ encode (c :: after) = encode cs := by
          rw [hrest, encode_cons, utf8EncodeChar_of_lt hc, List.singleton_append]
        obtain ⟨before, rfl⟩ := ih htail
        exact ⟨d :: before, hd⟩

/-- Bytes between two texts are those of a text, if they are so together. -/
theorem exists_eq_encode_of_between {c : Char} (hc : c.toNat < 128) {bs : List UInt8}
    {before after cs : List Char} (h : encode before ++ bs ++ encode (c :: after) = encode cs) :
    ∃ between, bs = encode between := by
  rw [List.append_assoc] at h
  have hcs : before ++ lossy (bs ++ encode (c :: after)) = cs := by
    rw [← lossy_encode_append, h, lossy_encode]
  rw [← hcs, encode_append] at h
  exact exists_eq_encode_of_append hc (List.append_cancel_left h)

/-- Bytes of characters of one byte occur in the bytes of a text as often as their
characters in the text. -/
theorem countP_encode {p : UInt8 → Bool} (hp : ∀ b, p b = true → b.toNat < 128)
    (cs : List Char) :
    (encode cs).countP p = cs.countP fun c => c.toNat < 128 && p (UInt8.ofNat c.toNat) := by
  induction cs with
  | nil => rfl
  | cons d cs ih =>
    rw [encode_cons, List.countP_append, ih, List.countP_cons]
    by_cases hd : d.toNat < 128
    · rw [utf8EncodeChar_of_lt hd]
      simp [hd, List.countP_cons, Nat.add_comm]
    · have hzero : (String.utf8EncodeChar d).countP p = 0 := by
        rw [List.countP_eq_zero]
        intro b hb hpb
        have hle := le_of_mem_utf8EncodeChar (by omega) hb
        have hlt := hp b hpb
        omega
      simp [hzero, hd]

/-- A character of one byte and its byte among the bytes of such characters. -/
theorem beq_ofNat_toNat {c : Char} (hc : c.toNat < 128) (d : Char) :
    (d.toNat < 128 && UInt8.ofNat d.toNat == UInt8.ofNat c.toNat) = (d == c) := by
  rw [Bool.eq_iff_iff, Bool.and_eq_true, decide_eq_true_iff, beq_iff_eq, beq_iff_eq]
  constructor
  · rintro ⟨hd, h⟩
    exact eq_of_ofNat_eq hd hc h
  · rintro rfl
    exact ⟨hc, rfl⟩

/-- The byte of an ASCII character is below 128. -/
theorem toNat_lt_of_beq {c : Char} (hc : c.toNat < 128) (b : UInt8)
    (h : (b == UInt8.ofNat c.toNat) = true) : b.toNat < 128 := by
  rw [beq_iff_eq.mp h, UInt8.toNat_ofNat']
  omega

/-- A character of one byte occurs in a text as often as its byte in the bytes. -/
theorem count_encode {c : Char} (hc : c.toNat < 128) (cs : List Char) :
    (encode cs).count (UInt8.ofNat c.toNat) = cs.count c := by
  rw [List.count, List.count, countP_encode (toNat_lt_of_beq hc)]
  simp only [beq_ofNat_toNat hc]

/-- The next character is one of one byte only if its byte comes first. -/
theorem head_of_next_eq {c : Char} (h : c.toNat < 128) {b : UInt8} {bs : List UInt8}
    (hnext : (next (b :: bs)).1 = c) : b = UInt8.ofNat c.toNat := by
  rw [next] at hnext
  cases hdecode : decodeChar? (b :: bs) with
  | none =>
    rw [hdecode] at hnext
    obtain rfl : replacement = c := hnext
    exact absurd h (by decide)
  | some d =>
    rw [hdecode] at hnext
    obtain rfl : d = c := hnext
    obtain ⟨rest, hrest⟩ := exists_of_decodeChar?_eq_some hdecode
    rw [utf8EncodeChar_of_lt h, List.singleton_append] at hrest
    exact (List.cons.inj hrest).1

/-- Decoding makes no new characters of one byte: there are at most as many as there are
of their bytes. -/
theorem countP_lossy_le (p : UInt8 → Bool) (bs : List UInt8) :
    (lossy bs).countP (fun c => c.toNat < 128 && p (UInt8.ofNat c.toNat)) ≤ bs.countP p := by
  induction hlen : bs.length using Nat.strongRecOn generalizing bs with
  | ind len ih =>
    cases bs with
    | nil => simp
    | cons b bs =>
      have hrest := ih (bs.drop ((next (b :: bs)).2 - 1)).length
        (by rw [← hlen, List.length_drop, List.length_cons]; omega) _ rfl
      have hdrop := (List.drop_sublist ((next (b :: bs)).2 - 1) bs).countP_le (p := p)
      rw [lossy_cons, List.countP_cons, List.countP_cons]
      by_cases hc : (next (b :: bs)).1.toNat < 128
      · have hfirst := head_of_next_eq hc rfl
        simp only [hc, decide_true, Bool.true_and, ← hfirst]
        omega
      · simp only [hc, decide_false, Bool.false_and, Bool.false_eq_true, if_false]
        omega

/-- Decoding makes no new occurrence of a character of one byte: there are at most as
many as there are of its byte. -/
theorem count_lossy_le {c : Char} (h : c.toNat < 128) (bs : List UInt8) :
    (lossy bs).count c ≤ bs.count (UInt8.ofNat c.toNat) := by
  have hle := countP_lossy_le (fun b => b == UInt8.ofNat c.toNat) bs
  simp only [beq_ofNat_toNat h] at hle
  exact hle

/-- How many bytes are characters of one byte. -/
def asciiBytes (bs : List UInt8) : ℕ := bs.countP fun b => b.toNat < 128

/-- How many characters have one byte. -/
def asciiChars (cs : List Char) : ℕ := cs.countP fun c => c.toNat < 128

/-- The byte of an ASCII character is below 128, if it is looked at. -/
theorem toNat_ofNat_lt_iff (c : Char) :
    (c.toNat < 128 && decide ((UInt8.ofNat c.toNat).toNat < 128)) = decide (c.toNat < 128) := by
  rw [Bool.and_eq_left_iff_imp]
  intro h
  rw [decide_eq_true_iff] at h ⊢
  rw [UInt8.toNat_ofNat']
  omega

/-- The bytes of a text have as many characters of one byte as the text. -/
theorem asciiBytes_encode (cs : List Char) : asciiBytes (encode cs) = asciiChars cs := by
  rw [asciiBytes, countP_encode fun b hb => of_decide_eq_true hb]
  simp only [toNat_ofNat_lt_iff, asciiChars]

/-- A decoded text has no more characters of one byte than its bytes. -/
theorem asciiChars_lossy_le (bs : List UInt8) : asciiChars (lossy bs) ≤ asciiBytes bs := by
  have hle := countP_lossy_le (fun b => b.toNat < 128) bs
  simp only [toNat_ofNat_lt_iff] at hle
  exact hle

end Utf8
