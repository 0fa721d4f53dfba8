import Mathlib.Data.List.Infix
import Mathlib.Order.Monotone.Basic

/-!
# Reading from a source in pieces

A connection or a file gives its bytes in order, but a read may return fewer bytes
than asked for. A source is what is still to be read together with how the reads cut
it; results that hold for every source hold for every way of cutting. On top of single
reads there are the usual loops: reading a number of bytes, and serving a connection
until it ends.
-/

/-- Bytes that are still to be read, and how reads cut them: the next read returns at
most `cuts 0 + 1` of them, the one after it at most `cuts 1 + 1`, and so on. -/
structure Source where
  bytes : List UInt8
  cuts : ℕ → ℕ

namespace Source

/-- How the reads cut after the next one. -/
def laterCuts (cuts : ℕ → ℕ) : ℕ → ℕ := fun i => cuts (i + 1)

/-- How many bytes the next read into a buffer of size `limit` returns, if there are as many. -/
def readSize (limit : ℕ) (cuts : ℕ → ℕ) : ℕ := min limit (cuts 0 + 1)

/-- A read into a buffer of size `limit`. It returns nothing only at the end. -/
def read (limit : ℕ) (s : Source) : List UInt8 × Source :=
  (s.bytes.take (readSize limit s.cuts), ⟨s.bytes.drop (readSize limit s.cuts), laterCuts s.cuts⟩)

/-- Where the `j`-th of several reads into a buffer of size `limit` ends. -/
def readEnd (limit : ℕ) (cuts : ℕ → ℕ) : ℕ → ℕ
  | 0 => 0
  | j + 1 => readSize limit cuts + readEnd limit (laterCuts cuts) j

/-- A read takes at least one byte. -/
theorem readSize_pos {limit : ℕ} (hlimit : 0 < limit) (cuts : ℕ → ℕ) :
    0 < readSize limit cuts := by
  rw [readSize]
  omega

/-- What is read and what is left. -/
theorem read_append (limit : ℕ) (s : Source) :
    (s.read limit).1 ++ (s.read limit).2.bytes = s.bytes :=
  List.take_append_drop _ _

/-- A read that returns just the first of two parts. -/
theorem read_of_append {limit : ℕ} {s : Source} {a b : List UInt8} (h : s.bytes = a ++ b)
    (hlen : a.length = readSize limit s.cuts) :
    (s.read limit).1 = a ∧ (s.read limit).2.bytes = b := by
  simp only [read, h, ← hlen, List.take_left, List.drop_left, and_self]

/-- A read returns nothing only at the end. -/
theorem read_eq_nil_iff {limit : ℕ} (hlimit : 0 < limit) {s : Source} :
    (s.read limit).1 = [] ↔ s.bytes = [] := by
  have hpos := readSize_pos hlimit s.cuts
  rw [read, List.take_eq_nil_iff]
  constructor
  · rintro (h | h)
    · omega
    · exact h
  · exact .inr

/-- When a read returns just the first of two parts. -/
theorem read_eq_iff {limit : ℕ} {s : Source} {a b : List UInt8} (h : s.bytes = a ++ b) :
    (s.read limit).1 = a ↔
      if b = [] then a.length ≤ readSize limit s.cuts else readSize limit s.cuts = a.length := by
  rw [read, h]
  split
  · next hb => rw [hb, List.append_nil, List.take_eq_self_iff]
  · next hb =>
    have hpos := List.length_pos_iff.mpr hb
    constructor
    · intro htake
      have hlen := congrArg List.length htake
      rw [List.length_take, List.length_append] at hlen
      omega
    · intro hsize
      rw [hsize, List.take_left]

/-- Later reads end later. -/
theorem readEnd_lt_succ {limit : ℕ} (hlimit : 0 < limit) (cuts : ℕ → ℕ) (j : ℕ) :
    readEnd limit cuts j < readEnd limit cuts (j + 1) := by
  induction j generalizing cuts with
  | zero => exact readSize_pos hlimit cuts
  | succ j ih =>
    have hlater := ih (laterCuts cuts)
    rw [readEnd, readEnd]
    omega

/-- Where a read ends says which one it is. -/
theorem readEnd_strictMono {limit : ℕ} (hlimit : 0 < limit) (cuts : ℕ → ℕ) :
    StrictMono (readEnd limit cuts) :=
  strictMono_nat_of_lt_succ (readEnd_lt_succ hlimit cuts)

/-- Successive reads return parts of these lengths, and there is nothing after them. -/
def CutInto (limit : ℕ) : List ℕ → (ℕ → ℕ) → Prop
  | [], _ => True
  | n :: ns, cuts =>
    (if ns = [] then n ≤ readSize limit cuts else readSize limit cuts = n) ∧
      CutInto limit ns (laterCuts cuts)

/-- The loop that reads until `need` bytes have come, with a buffer whose size may depend
on how many are missing. Every read returns something, so `need` iterations are enough. -/
def collectFrom (limit : ℕ → ℕ) : ℕ → ℕ → Source → List UInt8 × Source
  | 0, _, s => ([], s)
  | fuel + 1, need, s =>
    if need = 0 then ([], s)
    else
      let chunk := (s.read (limit need)).1
      if chunk = [] then ([], (s.read (limit need)).2)
      else
        let rest := collectFrom limit fuel (need - chunk.length) (s.read (limit need)).2
        (chunk ++ rest.1, rest.2)

/-- Reading until `need` bytes have come or the source ends. -/
def collect (limit : ℕ → ℕ) (need : ℕ) (s : Source) : List UInt8 × Source :=
  collectFrom limit need need s

/-- What is collected and what is left. -/
theorem collectFrom_append (limit : ℕ → ℕ) (fuel need : ℕ) (s : Source) :
    (collectFrom limit fuel need s).1 ++ (collectFrom limit fuel need s).2.bytes = s.bytes := by
  induction fuel generalizing need s with
  | zero => rfl
  | succ fuel ih =>
    rw [collectFrom]
    split
    · rfl
    · have hread := s.read_append (limit need)
      simp only
      split
      · next hnil =>
        rw [hnil] at hread
        exact hread
      · rw [List.append_assoc, ih, hread]

/-- A loop goes on until it has what it needs or the source ends. -/
theorem min_le_length_collectFrom {limit : ℕ → ℕ} (hlimit : ∀ need, 0 < need → 0 < limit need)
    {fuel need : ℕ} (hfuel : need ≤ fuel) (s : Source) :
    min need s.bytes.length ≤ (collectFrom limit fuel need s).1.length := by
  induction fuel generalizing need s with
  | zero => omega
  | succ fuel ih =>
    rw [collectFrom]
    split
    · omega
    · next hneed =>
      have hpos := hlimit need (by omega)
      have hread := congrArg List.length (s.read_append (limit need))
      rw [List.length_append] at hread
      simp only
      split
      · next hnil =>
        rw [(read_eq_nil_iff hpos).mp hnil, List.length_nil]
        omega
      · next hchunk =>
        have hlen := List.length_pos_iff.mpr hchunk
        have hrest : min (need - (s.read (limit need)).1.length)
            (s.read (limit need)).2.bytes.length ≤ _ := ih (by omega) _
        rw [List.length_append]
        omega

/-- A loop that never asks for more than is missing collects no more than it needs. -/
theorem length_collectFrom_le {limit : ℕ → ℕ} (hle : ∀ need, limit need ≤ need)
    (fuel need : ℕ) (s : Source) : (collectFrom limit fuel need s).1.length ≤ need := by
  induction fuel generalizing need s with
  | zero => exact Nat.zero_le _
  | succ fuel ih =>
    rw [collectFrom]
    split
    · exact Nat.zero_le _
    · have hsize : (s.read (limit need)).1.length ≤ need := by
        have := hle need
        rw [read, List.length_take, readSize]
        omega
      simp only
      split
      · exact Nat.zero_le _
      · have hrest := ih (need - (s.read (limit need)).1.length) (s.read (limit need)).2
        rw [List.length_append]
        omega

/-- Collecting exactly what is needed does not depend on the cuts. -/
theorem collect_eq_take {limit : ℕ → ℕ} (hlimit : ∀ need, 0 < need → 0 < limit need)
    (hle : ∀ need, limit need ≤ need) (need : ℕ) (s : Source) :
    (s.collect limit need).1 = s.bytes.take need ∧
      (s.collect limit need).2.bytes = s.bytes.drop need := by
  have happend := collectFrom_append limit need need s
  have hmin := min_le_length_collectFrom hlimit (Nat.le_refl need) s
  have hneed := length_collectFrom_le hle need need s
  rw [collect]
  generalize collectFrom limit need need s = r at happend hmin hneed
  obtain ⟨taken, left⟩ := r
  simp only at happend hmin hneed
  have hlen := congrArg List.length happend
  rw [List.length_append] at hlen
  rw [← happend]
  rcases Nat.lt_or_ge taken.length need with hshort | henough
  · have hleft : left.bytes = [] := List.length_eq_zero_iff.mp (by omega)
    rw [hleft, List.append_nil, List.take_of_length_le hneed, List.drop_of_length_le hneed]
    exact ⟨rfl, rfl⟩
  · have hexact : taken.length = need := by omega
    rw [← hexact, List.take_left, List.drop_left]
    exact ⟨rfl, rfl⟩

/-- Collecting as many bytes as there are gives all of them. -/
theorem collect_length {limit : ℕ → ℕ} (hlimit : ∀ need, 0 < need → 0 < limit need)
    (s : Source) : (s.collect limit s.bytes.length).1 = s.bytes := by
  have happend := collectFrom_append limit s.bytes.length s.bytes.length s
  have hmin := min_le_length_collectFrom hlimit (Nat.le_refl s.bytes.length) s
  have hlen := congrArg List.length happend
  rw [List.length_append] at hlen
  have hleft : (collectFrom limit s.bytes.length s.bytes.length s).2.bytes = [] :=
    List.length_eq_zero_iff.mp (by omega)
  rw [hleft, List.append_nil] at happend
  exact happend

/-- What is collected and what is left. -/
theorem collect_append (limit : ℕ → ℕ) (need : ℕ) (s : Source) :
    (s.collect limit need).1 ++ (s.collect limit need).2.bytes = s.bytes :=
  collectFrom_append limit need need s

/-- Reading with a buffer of a fixed size may take more than is needed. It takes just what
is needed exactly when a read ends there. -/
theorem length_collectFrom_eq_iff {limit : ℕ} (hlimit : 0 < limit) {fuel need : ℕ}
    (hfuel : need ≤ fuel) {s : Source} (hmore : need < s.bytes.length) :
    (collectFrom (fun _ => limit) fuel need s).1.length = need ↔
      ∃ j, readEnd limit s.cuts j = need := by
  induction fuel generalizing need s with
  | zero =>
    obtain rfl : need = 0 := by omega
    exact ⟨fun _ => ⟨0, rfl⟩, fun _ => rfl⟩
  | succ fuel ih =>
    rw [collectFrom]
    split
    · next hneed =>
      subst hneed
      exact ⟨fun _ => ⟨0, rfl⟩, fun _ => rfl⟩
    · next hneed =>
      have hpos := readSize_pos hlimit s.cuts
      have hchunk : (s.read limit).1 ≠ [] := by
        rw [Ne, read_eq_nil_iff hlimit]
        rintro hnil
        rw [hnil, List.length_nil] at hmore
        omega
      have hlength : (s.read limit).1.length = min (readSize limit s.cuts) s.bytes.length :=
        List.length_take
      have hleft : (s.read limit).2.bytes.length = s.bytes.length - readSize limit s.cuts :=
        List.length_drop
      have hcuts : (s.read limit).2.cuts = laterCuts s.cuts := rfl
      simp only
      rw [if_neg hchunk, List.length_append]
      rcases Nat.lt_or_ge need (readSize limit s.cuts) with hover | hunder
      · constructor
        · intro h
          omega
        · rintro ⟨j, hj⟩
          cases j with
          | zero =>
            rw [readEnd] at hj
            omega
          | succ j =>
            rw [readEnd] at hj
            omega
      · have hfull : (s.read limit).1.length = readSize limit s.cuts := by omega
        rw [hfull]
        have hneed' : need - readSize limit s.cuts < (s.read limit).2.bytes.length := by omega
        obtain ⟨hrest, hrest'⟩ := ih (by omega) hneed'
        rw [hcuts] at hrest hrest'
        constructor
        · intro h
          obtain ⟨j, hj⟩ := hrest (Nat.eq_sub_of_add_eq' h)
          exact ⟨j + 1, by rw [readEnd, hj, Nat.add_sub_of_le hunder]⟩
        · rintro ⟨j, hj⟩
          cases j with
          | zero => exact absurd hj.symm hneed
          | succ j =>
            rw [readEnd] at hj
            rw [hrest' ⟨j, Nat.eq_sub_of_add_eq' hj⟩, Nat.add_sub_of_le hunder]

/-- Reading just so many bytes; nothing comes of it when the source ends before. -/
def readExact (count : ℕ) (s : Source) : Option (List UInt8) × Source :=
  let r := s.collect id count
  (if r.1.length = count then some r.1 else none, r.2)

/-- Reading just so many bytes does not depend on the cuts. -/
theorem readExact_eq (count : ℕ) (s : Source) :
    (s.readExact count).1 =
        (if count ≤ s.bytes.length then some (s.bytes.take count) else none) ∧
      (s.readExact count).2.bytes = s.bytes.drop count := by
  have hlimit : ∀ need, 0 < need → 0 < id need := fun _ h => h
  obtain ⟨htaken, hleft⟩ := s.collect_eq_take hlimit (fun need => Nat.le_refl need) count
  refine ⟨?_, hleft⟩
  rw [readExact]
  simp only [htaken, List.length_take]
  by_cases h : count ≤ s.bytes.length
  · rw [if_pos h, if_pos (by omega)]
  · rw [if_neg h, if_neg (by omega)]

/-- The loop that reads up to a mark. -/
def readUntilFrom (limit : ℕ) (mark : UInt8) : ℕ → Source → List UInt8 × Source
  | 0, s => ([], s)
  | fuel + 1, s =>
    let chunk := (s.read limit).1
    if chunk = [] then ([], (s.read limit).2)
    else if mark ∈ chunk then (chunk.takeWhile (· ≠ mark) ++ [mark], (s.read limit).2)
    else
      let rest := readUntilFrom limit mark fuel (s.read limit).2
      (chunk ++ rest.1, rest.2)

/-- Reading through a buffer of size `limit` up to a mark, or to the end of the source.
What the buffer has after the mark is dropped with the buffer. -/
def readUntil (limit : ℕ) (mark : UInt8) (s : Source) : List UInt8 × Source :=
  readUntilFrom limit mark s.bytes.length s

section ReadUntil

variable {limit fuel : ℕ} {mark : UInt8} {s : Source} {a b : List UInt8}

/-- A read that ends after the mark is the last one. -/
theorem readUntilFrom_of_lt (hs : s.bytes = a ++ mark :: b) (ha : mark ∉ a)
    (hover : a.length < readSize limit s.cuts) :
    readUntilFrom limit mark (fuel + 1) s = (a ++ [mark], (s.read limit).2) := by
  obtain ⟨n, hn⟩ := Nat.exists_eq_add_of_lt hover
  have hread : (s.read limit).1 = a ++ mark :: b.take n := by
    rw [read, hs, hn, Nat.add_assoc, List.take_length_add_append, List.take_succ_cons]
  have hchunk : (s.read limit).1 ≠ [] := by
    rw [hread]
    exact List.append_ne_nil_of_right_ne_nil _ (List.cons_ne_nil _ _)
  have hmem : mark ∈ (s.read limit).1 := by
    rw [hread]
    exact List.mem_append_right _ List.mem_cons_self
  have htake : (s.read limit).1.takeWhile (· ≠ mark) = a := by
    rw [hread, List.takeWhile_append_of_pos, List.takeWhile_cons_of_neg (by simp),
      List.append_nil]
    intro c hc
    rw [decide_eq_true_iff]
    rintro rfl
    exact ha hc
  rw [readUntilFrom]
  simp only
  rw [if_neg hchunk, if_pos hmem, htake]

/-- A read that ends before the mark takes a part of what is before it. -/
theorem readUntilFrom_of_le (hlimit : 0 < limit) (hs : s.bytes = a ++ mark :: b) (ha : mark ∉ a)
    (hunder : readSize limit s.cuts ≤ a.length) :
    (s.read limit).2.bytes = a.drop (readSize limit s.cuts) ++ mark :: b ∧
      readUntilFrom limit mark (fuel + 1) s =
        (a.take (readSize limit s.cuts) ++ (readUntilFrom limit mark fuel (s.read limit).2).1,
          (readUntilFrom limit mark fuel (s.read limit).2).2) := by
  have hparts : s.bytes = a.take (readSize limit s.cuts) ++
      (a.drop (readSize limit s.cuts) ++ mark :: b) := by
    rw [hs, ← List.append_assoc, List.take_append_drop]
  obtain ⟨hread, hleft⟩ := read_of_append hparts (List.length_take_of_le hunder)
  have hchunk : (s.read limit).1 ≠ [] := by
    rw [Ne, read_eq_nil_iff hlimit, hs]
    exact List.append_ne_nil_of_right_ne_nil _ (List.cons_ne_nil _ _)
  have hnot : mark ∉ (s.read limit).1 := by
    rw [hread]
    exact fun h => ha (List.mem_of_mem_take h)
  refine ⟨hleft, ?_⟩
  rw [readUntilFrom]
  simp only
  rw [if_neg hchunk, if_neg hnot, hread]

/-- The loop stops at the first read that ends after the mark. -/
theorem exists_readUntilFrom (hlimit : 0 < limit) (hs : s.bytes = a ++ mark :: b) (ha : mark ∉ a)
    (hfuel : a.length < fuel) :
    ∃ k, a.length < readEnd limit s.cuts k ∧
      (∀ j, a.length < readEnd limit s.cuts j → k ≤ j) ∧
      readUntilFrom limit mark fuel s =
        (a ++ [mark], ⟨s.bytes.drop (readEnd limit s.cuts k), fun i => s.cuts (i + k)⟩) := by
  induction fuel generalizing s a with
  | zero => omega
  | succ fuel ih =>
    have hpos := readSize_pos hlimit s.cuts
    rcases Nat.lt_or_ge a.length (readSize limit s.cuts) with hover | hunder
    · refine ⟨1, hover, ?_, ?_⟩
      · intro j hj
        cases j with
        | zero => exact absurd hj (Nat.not_lt_zero _)
        | succ j => omega
      · rw [readUntilFrom_of_lt hs ha hover]
        rfl
    · obtain ⟨hleft, hloop⟩ := readUntilFrom_of_le hlimit hs ha hunder
      have hcuts : (s.read limit).2.cuts = laterCuts s.cuts := rfl
      have hshort : (a.drop (readSize limit s.cuts)).length =
          a.length - readSize limit s.cuts := List.length_drop
      obtain ⟨k, hk, hfirst, hrest⟩ := ih hleft (fun h => ha (List.mem_of_mem_drop h)) (by omega)
      rw [hcuts] at hk hfirst hrest
      refine ⟨k + 1, ?_, ?_, ?_⟩
      · rw [readEnd]
        omega
      · intro j hj
        cases j with
        | zero => exact absurd hj (Nat.not_lt_zero _)
        | succ j =>
          rw [readEnd] at hj
          have := hfirst j (by omega)
          omega
      · rw [hloop, hrest, ← List.append_assoc, List.take_append_drop, readEnd]
        simp only [read, List.drop_drop]
        rfl

end ReadUntil

/-- When there is a mark, reading up to it returns what is before it and the mark, and
goes on after the first read that ends after the mark. -/
theorem exists_readUntil {limit : ℕ} (hlimit : 0 < limit) {mark : UInt8} {s : Source}
    {a b : List UInt8} (hs : s.bytes = a ++ mark :: b) (ha : mark ∉ a) :
    ∃ k, a.length < readEnd limit s.cuts k ∧
      (∀ j, a.length < readEnd limit s.cuts j → k ≤ j) ∧
      s.readUntil limit mark =
        (a ++ [mark], ⟨s.bytes.drop (readEnd limit s.cuts k), fun i => s.cuts (i + k)⟩) := by
  refine exists_readUntilFrom hlimit hs ha ?_
  rw [hs, List.length_append, List.length_cons]
  omega

section Serve

variable {ε : Type*} (limit : ℕ) (handle : List UInt8 → Source → List ε × Option Source)

/-- The loop of a server: it reads, handles what has come, which may read more, and goes
on until the source ends or the handler says so. Every read returns something, so as many
iterations as there are bytes are enough. -/
def serveFrom : ℕ → Source → List ε
  | 0, _ => []
  | fuel + 1, s =>
    let chunk := (s.read limit).1
    if chunk = [] then []
    else
      let handled := handle chunk (s.read limit).2
      handled.1 ++
        match handled.2 with
        | none => []
        | some s' => serveFrom fuel s'

/-- Everything that a server does until the source ends or the handler says so. -/
def serve (s : Source) : List ε := serveFrom limit handle s.bytes.length s

/-- A handler that only reads on from where it is. -/
def ReadsOn : Prop := ∀ chunk s s', (handle chunk s).2 = some s' → s'.bytes <:+ s.bytes

variable {limit handle}

/-- As many iterations as there are bytes, or more, are as good as any. -/
theorem serveFrom_congr (hlimit : 0 < limit) (hreads : ReadsOn handle) {fuel fuel' : ℕ}
    {s : Source} (hfuel : s.bytes.length ≤ fuel) (hfuel' : s.bytes.length ≤ fuel') :
    serveFrom limit handle fuel s = serveFrom limit handle fuel' s := by
  induction fuel generalizing fuel' s with
  | zero =>
    have hnil : (s.read limit).1 = [] :=
      (read_eq_nil_iff hlimit).mpr (List.length_eq_zero_iff.mp (by omega))
    cases fuel' with
    | zero => rfl
    | succ fuel' => simp only [serveFrom, hnil, if_true]
  | succ fuel ih =>
    have hleft : (s.read limit).2.bytes.length = s.bytes.length - readSize limit s.cuts :=
      List.length_drop
    have hpos := readSize_pos hlimit s.cuts
    cases fuel' with
    | zero =>
      have hnil : (s.read limit).1 = [] :=
        (read_eq_nil_iff hlimit).mpr (List.length_eq_zero_iff.mp (by omega))
      simp only [serveFrom, hnil, if_true]
    | succ fuel' =>
      simp only [serveFrom]
      cases hnext : (handle (s.read limit).1 (s.read limit).2).2 with
      | none => rfl
      | some s' =>
        have hshort := (hreads _ _ _ hnext).length_le
        have hrest : serveFrom limit handle fuel s' = serveFrom limit handle fuel' s' :=
          ih (by omega) (by omega)
        simp only [hrest]

/-- A server whose source has ended. -/
theorem serve_of_nil {s : Source} (hbytes : s.bytes = []) : serve limit handle s = [] := by
  rw [serve, hbytes]
  rfl

/-- What a server does with what has come, and after that. -/
theorem serve_of_ne_nil (hlimit : 0 < limit) (hreads : ReadsOn handle) {s : Source}
    (hbytes : s.bytes ≠ []) :
    serve limit handle s =
      (handle (s.read limit).1 (s.read limit).2).1 ++
        match (handle (s.read limit).1 (s.read limit).2).2 with
        | none => []
        | some s' => serve limit handle s' := by
  have hleft : (s.read limit).2.bytes.length = s.bytes.length - readSize limit s.cuts :=
    List.length_drop
  have hpos := readSize_pos hlimit s.cuts
  obtain ⟨n, hn⟩ := Nat.exists_eq_succ_of_ne_zero (List.length_eq_zero_iff.not.mpr hbytes)
  rw [serve, hn, serveFrom]
  simp only
  rw [if_neg ((read_eq_nil_iff hlimit).not.mpr hbytes)]
  cases hnext : (handle (s.read limit).1 (s.read limit).2).2 with
  | none => rfl
  | some s' =>
    have hshort := (hreads _ _ _ hnext).length_le
    have hrest : serveFrom limit handle n s' = serve limit handle s' :=
      serveFrom_congr hlimit hreads (by omega) (Nat.le_refl _)
    simp only [hrest]

/-- Whatever a server does, it does with a read at some place of the source: at the
beginning, or after what the first read returns. -/
theorem exists_of_mem_serve (hlimit : 0 < limit) (hreads : ReadsOn handle) {s : Source} {e : ε}
    (he : e ∈ serve limit handle s) :
    ∃ before t, s.bytes = before ++ t.bytes ∧
      (before = [] ∧ t = s ∨ (s.read limit).1 <+: before ∧ (s.read limit).1 ≠ []) ∧
      e ∈ (handle (t.read limit).1 (t.read limit).2).1 := by
  induction hlen : s.bytes.length using Nat.strongRecOn generalizing s with
  | ind len ih =>
    by_cases hbytes : s.bytes = []
    · rw [serve_of_nil hbytes] at he
      cases he
    · rw [serve_of_ne_nil hlimit hreads hbytes, List.mem_append] at he
      rcases he with he | he
      · exact ⟨[], s, rfl, .inl ⟨rfl, rfl⟩, he⟩
      · cases hnext : (handle (s.read limit).1 (s.read limit).2).2 with
        | none =>
          rw [hnext] at he
          cases he
        | some s' =>
          rw [hnext] at he
          obtain ⟨skipped, hskipped⟩ := hreads _ _ _ hnext
          have hread := s.read_append limit
          have hchunk : (s.read limit).1 ≠ [] := (read_eq_nil_iff hlimit).not.mpr hbytes
          have hpos := List.length_pos_iff.mpr hchunk
          have hshort : s'.bytes.length < len := by
            rw [← hlen, ← hread, ← hskipped, List.length_append, List.length_append]
            omega
          obtain ⟨before, t, ht, -, hmem⟩ := ih _ hshort he rfl
          refine ⟨(s.read limit).1 ++ (skipped ++ before), t, ?_,
            .inr ⟨List.prefix_append _ _, hchunk⟩, hmem⟩
          rw [← hread, ← hskipped, ht]
          simp only [List.append_assoc]

end Serve

end Source
