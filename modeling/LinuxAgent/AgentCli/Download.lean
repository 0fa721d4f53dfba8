import LinuxAgent.AgentCli.Protocol
import Mathlib.Tactic.ByContra
import Mathlib.Tactic.NthRewrite

/-!
# Downloading files

The console takes the header of a file from a single read, drops what that read returns
after the content, and looks for the end marker in what follows. A file arrives just
when a read returns its whole header line and no more than its content, and the text
before the header in that read does not end in the start of a marker.
-/

namespace LinuxAgent.AgentCli

/-- All of the start marker but its last byte, which is also its first. -/
def openMarker : List UInt8 := startBytes.dropLast

/-- The length of the start marker with its line break. -/
theorem length_startBytes : startBytes.length = 12 := by decide

/-- The start marker overlaps with itself in one byte only. -/
theorem eq_openMarker_of_overlap {a b : List UInt8} (hne : a ≠ [])
    (hshort : a.length < startBytes.length) (h : startBytes <+: a ++ (startBytes ++ b)) :
    a = openMarker := by
  have hself : ∀ k < 12, 0 < k → startBytes.drop k = startBytes.take (12 - k) → k = 11 := by
    decide
  have hpos := List.length_pos_iff.mpr hne
  obtain ⟨c, hc⟩ := h
  have ha : startBytes.take a.length = a := by
    have := congrArg (List.take a.length) hc
    rwa [List.take_left, List.take_append_of_le_length (Nat.le_of_lt hshort)] at this
  have hrest : startBytes.drop a.length ++ c = startBytes ++ b := by
    have := congrArg (List.drop a.length) hc
    rwa [List.drop_left, List.drop_append_of_le_length (Nat.le_of_lt hshort)] at this
  have hoverlap : startBytes.drop a.length = startBytes.take (12 - a.length) := by
    have := congrArg (List.take (12 - a.length)) hrest
    have hlen : (startBytes.drop a.length).length = 12 - a.length := List.length_drop
    rwa [← hlen, List.take_left, hlen,
      List.take_append_of_le_length (by rw [length_startBytes]; omega)] at this
  rw [length_startBytes] at hshort
  rw [← ha, hself _ hshort hpos hoverlap]
  decide

/-- A marker before the end of some text and the marker after it overlap. -/
theorem openMarker_suffix_of_early_marker {pre rest : List UInt8} {j : ℕ}
    (hpre : Text.position startBytes pre = none) (hj : j < pre.length)
    (h : startBytes <+: (pre ++ (startBytes ++ rest)).drop j) : openMarker <:+ pre := by
  rw [List.drop_append_of_le_length (Nat.le_of_lt hj)] at h
  have hne : pre.drop j ≠ [] := by
    rw [Ne, List.drop_eq_nil_iff]
    omega
  by_cases hshort : (pre.drop j).length < startBytes.length
  · rw [← eq_openMarker_of_overlap hne hshort h]
    exact List.drop_suffix j pre
  · refine absurd ?_ (Text.position_eq_none hpre j)
    exact List.prefix_of_prefix_length_le h (List.prefix_append _ _) (by omega)

/-- The first marker in a read, if no earlier one is complete and the text before it
does not end in the start of one. -/
theorem position_marker {pre rest : List UInt8} (hpre : Text.position startBytes pre = none)
    (hopen : ¬openMarker <:+ pre) :
    Text.position startBytes (pre ++ (startBytes ++ rest)) = some pre.length := by
  cases hpos : Text.position startBytes (pre ++ (startBytes ++ rest)) with
  | none =>
    refine absurd ?_ (Text.position_eq_none hpos pre.length)
    rw [List.drop_left]
    exact List.prefix_append _ _
  | some i =>
    obtain ⟨hmarker, -, hmin⟩ := Text.position_eq_some hpos
    rcases Nat.lt_trichotomy i pre.length with hlt | heq | hgt
    · exact absurd (openMarker_suffix_of_early_marker hpre hlt hmarker) hopen
    · rw [heq]
    · refine absurd ?_ (hmin pre.length hgt)
      rw [List.drop_left]
      exact List.prefix_append _ _

/-- The first marker in a read does not come after the start of an overlapping one. -/
theorem not_openMarker_suffix {before rest : List UInt8}
    (hpos : Text.position startBytes (before ++ (startBytes ++ rest)) = some before.length) :
    ¬openMarker <:+ before := by
  rintro ⟨a, rfl⟩
  obtain ⟨-, -, hmin⟩ := Text.position_eq_some hpos
  have hlen : openMarker.length = 11 := by decide
  refine hmin a.length (by rw [List.length_append, hlen]; omega) ?_
  rw [List.append_assoc, List.drop_left]
  have hclose : startBytes <+: openMarker ++ startBytes := by decide
  rw [← List.append_assoc]
  exact hclose.trans (List.prefix_append _ _)

/-- A console that has created the file receives its content, if no more than the content
has come with the header. -/
theorem receiveBody_of_le {path : String} {content body more post : List UInt8} {s : Source}
    (hcontent : content = body ++ more) (hs : s.bytes = more ++ (endBytes ++ post)) :
    (receiveBody path content.length body s).1 =
      { written := some (path, content), result := .ok (), rest := post } := by
  have hbody : body.take content.length = body :=
    List.take_of_length_le (by rw [hcontent, List.length_append]; omega)
  have hmissing : content.length - body.length = more.length := by
    rw [hcontent, List.length_append]
    omega
  have hlimit : ∀ need, 0 < need → 0 < min bufferSize need := fun need h =>
    Nat.lt_min.mpr ⟨bufferSize_pos, h⟩
  obtain ⟨htaken, hleft⟩ := s.collect_eq_take hlimit (fun need => Nat.min_le_right _ _) more.length
  rw [hs, List.take_left] at htaken
  rw [hs, List.drop_left] at hleft
  rw [receiveBody]
  simp only [hbody, hmissing]
  obtain ⟨hread, hrest⟩ := Source.readExact_eq endBytes.length
    (s.collect (fun need => min bufferSize need) more.length).2
  rw [hleft, if_pos (by rw [List.length_append]; omega), List.take_left] at hread
  rw [hleft, List.drop_left] at hrest
  rw [checkEndMarker]
  simp only [hread, hrest, htaken, if_true, hcontent]

/-- The end marker was there when the console has received a file. -/
theorem eq_of_checkEndMarker {path path' : String} {content content' post : List UInt8}
    {s : Source} (h : (checkEndMarker path content s).1 =
      { written := some (path', content'), result := .ok (), rest := post }) :
    content = content' ∧ s.bytes = endBytes ++ post := by
  obtain ⟨hread, hrest⟩ := s.readExact_eq endBytes.length
  rw [checkEndMarker, Received.mk.injEq, Option.some.injEq, Prod.mk.injEq] at h
  obtain ⟨⟨-, hcontent⟩, hresult, hpost⟩ := h
  refine ⟨hcontent, ?_⟩
  rw [hrest] at hpost
  simp only [hread] at hresult
  split at hresult
  · cases hresult
  · next got hgot =>
    split at hgot
    · obtain rfl := Option.some.inj hgot
      split at hresult
      · next hmarker =>
        calc
          s.bytes = s.bytes.take endBytes.length ++ s.bytes.drop endBytes.length :=
            (List.take_append_drop _ _).symm
          _ = endBytes ++ post := by rw [hmarker, hpost]
      · cases hresult
    · cases hgot

/-- When the console has received a file, either no more than its content has come with
the header, or all of it and more, which is lost. -/
theorem eq_of_receiveBody {path path' : String} {content body post : List UInt8} {size : ℕ}
    {s : Source} (h : (receiveBody path size body s).1 =
      { written := some (path', content), result := .ok (), rest := post }) :
    (body.length ≤ content.length ∧ body ++ s.bytes = content ++ (endBytes ++ post)) ∨
      (content.length < body.length ∧ s.bytes = endBytes ++ post) := by
  have hlimit : ∀ need, 0 < need → 0 < min bufferSize need := fun need h =>
    Nat.lt_min.mpr ⟨bufferSize_pos, h⟩
  obtain ⟨htaken, hleft⟩ := s.collect_eq_take hlimit (fun need => Nat.min_le_right _ _)
    (size - (body.take size).length)
  obtain ⟨hcontent, hmarker⟩ := eq_of_checkEndMarker h
  rw [htaken] at hcontent
  rw [hleft] at hmarker
  rcases Nat.lt_or_ge size body.length with hlt | hle
  · right
    have hzero : size - (body.take size).length = 0 := by
      rw [List.length_take]
      omega
    rw [hzero, List.take_zero, List.append_nil] at hcontent
    rw [hzero, List.drop_zero] at hmarker
    rw [← hcontent, List.length_take]
    exact ⟨by omega, hmarker⟩
  · left
    rw [List.take_of_length_le hle] at hcontent hmarker
    rw [← hcontent, ← hmarker, List.append_assoc, List.take_append_drop, List.length_append]
    exact ⟨by omega, rfl⟩

/-- The console receives a file from a read that has its whole header line and no more
than its content. -/
theorem receiveFileFromBytes_of_header {fs : FileSystem} {dst : String}
    {pre content body more post : List UInt8} {s : Source}
    (hpre : Text.position startBytes pre = none) (hopen : ¬openMarker <:+ pre)
    (hsize : content.length < UInt64.size) (hdst : '\n' ∉ dst.toList)
    (hreturn : dst.toList.getLast? ≠ some '\r') (hcreate : fs.create dst = .ok ())
    (hcontent : content = body ++ more) (hs : s.bytes = more ++ (endBytes ++ post)) :
    (receiveFileFromBytes fs (pre ++ (headerBytes content.length dst ++ newline :: body)) s).1 =
      { written := some (dst, content), result := .ok (), rest := post } := by
  have hpos : Text.position startBytes
      (pre ++ (headerBytes content.length dst ++ newline :: body)) = some pre.length := by
    rw [headerBytes_eq, List.append_assoc]
    exact position_marker hpre hopen
  have hline := newline_not_mem_headerBytes hdst content.length
  rw [receiveFileFromBytes, hpos]
  simp only [List.drop_left]
  rw [Text.splitOnce_append hline]
  simp only [headerBytes, Utf8.decode_encode, parseHeader_fileHeader hsize,
    Text.trimEndMatches_eq_self_iff.mpr hreturn, String.ofList_toList, hcreate]
  exact receiveBody_of_le hcontent hs

/-- What a read must have when the console has received a file from it. -/
theorem exists_of_receiveFileFromBytes {fs : FileSystem} {dst : String}
    {rawData content post : List UInt8} {s : Source}
    (h : (receiveFileFromBytes fs rawData s).1 =
      { written := some (dst, content), result := .ok (), rest := post }) :
    ∃ before header body path size,
      rawData = before ++ (Utf8.encode header ++ newline :: body) ∧
      newline ∉ Utf8.encode header ∧
      Text.position startBytes rawData = some before.length ∧
      parseHeader header = .ok (size, path) ∧
      Text.trimEndMatches '\r' path = dst.toList ∧
      (receiveBody dst size body s).1 =
        { written := some (dst, content), result := .ok (), rest := post } := by
  rw [receiveFileFromBytes] at h
  split at h
  · cases h
  · next startIdx hpos =>
    have hle := (Text.position_eq_some hpos).2.1
    split at h
    · cases h
    · next bytes body hsplit =>
      obtain ⟨hdrop, hline⟩ := Text.eq_of_splitOnce hsplit
      split at h
      · cases h
      · next header hdecode =>
        obtain rfl := Utf8.eq_encode_of_decode hdecode
        split at h
        · cases h
        · next size path hparse =>
          simp only at h
          split at h
          · cases h
          · have hpath : String.ofList (Text.trimEndMatches '\r' path) = dst := by
              have hwritten := congrArg Received.written h
              exact (Prod.mk.inj (Option.some.inj hwritten)).1
            rw [hpath] at h
            refine ⟨rawData.take startIdx, header, body, path, size, ?_, hline, ?_, hparse, ?_, h⟩
            · rw [← hdrop, List.take_append_drop]
            · rw [List.length_take, Nat.min_eq_left hle, hpos]
            · rw [← hpath, String.toList_ofList]

/-- Something that parses as a header with the path of the file and ends where the header
of the file ends has all of that header. -/
theorem exists_append_headerBytes {x header : List UInt8} {pre : List UInt8} {size : ℕ}
    {dst : String} (hcount : dst.toList.count '\x01' + 2 ≤ header.count 1)
    (h : x ++ header = pre ++ headerBytes size dst) :
    ∃ a, pre = x ++ a ∧ header = a ++ headerBytes size dst := by
  rcases List.append_eq_append_iff.mp h with ⟨a, hpre, hheader⟩ | ⟨c, hx, hheader⟩
  · exact ⟨a, hpre, hheader⟩
  · cases c with
    | nil =>
      rw [List.append_nil] at hx
      exact ⟨[], by rw [hx, List.append_nil], hheader.symm⟩
    | cons b c =>
      have hfirst : b = 1 := by
        rw [headerBytes_eq] at hheader
        exact (List.cons.inj hheader).1.symm
      have htotal := congrArg (List.count 1) hheader
      rw [count_headerBytes, List.cons_append, List.count_cons, List.count_append, hfirst] at htotal
      simp only [beq_self_eq_true, if_true] at htotal
      omega

/-- The size of a file does not start in the middle of a marker. -/
theorem parseHeader_openMarker {size size' : ℕ} {dst : String} {path : List Char} :
    parseHeader (startMarker.dropLast ++ fileHeader size dst) ≠ .ok (size', path) := by
  intro h
  obtain ⟨sizeStr, hparse, -, heq⟩ := eq_of_parseHeader h
  have hmarker : startMarker = startMarker.dropLast ++ ['\x01'] := by decide
  have htail : startMarker = '\x01' :: startMarker.tail := by decide
  rw [fileHeader, List.append_assoc] at heq
  nth_rewrite 3 [hmarker] at heq
  rw [List.append_assoc, List.append_cancel_left_eq, htail] at heq
  simp only [List.cons_append, List.cons.injEq, true_and] at heq
  have hhead := congrArg List.head? heq
  cases sizeStr with
  | nil => simp [Text.parseU64, Text.decimal] at hparse
  | cons c cs =>
    obtain rfl : 'F' = c := Option.some.inj hhead
    exact absurd (Text.head_of_parseU64 hparse) (by decide)

/-- The first marker of the read is that of the header. -/
theorem eq_nil_of_append_headerBytes {x a pre : List UInt8} {header path : List Char}
    {size size' : ℕ} {dst : String} (hpre : Text.position startBytes pre = none)
    (hx : pre = x ++ a) (hparse : parseHeader header = .ok (size', path))
    (hheader : Utf8.encode header = a ++ headerBytes size dst) : a = [] := by
  by_contra hne
  have hmarker : startBytes <+: a ++ headerBytes size dst := by
    obtain ⟨sizeStr, -, -, rfl⟩ := eq_of_parseHeader hparse
    rw [← hheader, Utf8.encode_append]
    exact List.prefix_append _ _
  by_cases hshort : a.length < startBytes.length
  · have hopen : a = openMarker := by
      rw [headerBytes_eq] at hmarker
      exact eq_openMarker_of_overlap hne hshort hmarker
    have hbytes : openMarker = Utf8.encode startMarker.dropLast := by decide
    rw [hopen, hbytes, headerBytes, ← Utf8.encode_append] at hheader
    rw [Utf8.encode_injective hheader] at hparse
    exact parseHeader_openMarker hparse
  · refine absurd ?_ (Text.position_eq_none hpre x.length)
    rw [hx, List.drop_left]
    exact List.prefix_of_prefix_length_le hmarker (List.prefix_append _ _) (by omega)

/-- What comes after a line break in a text is not the header of the file. -/
theorem exists_of_newline {x body pre : List UInt8} {size : ℕ} {dst : String}
    (hdst : '\n' ∉ dst.toList) (h : x ++ newline :: body = pre ++ headerBytes size dst) :
    ∃ rest, pre = x ++ newline :: rest := by
  rcases List.append_eq_append_iff.mp h with ⟨a, hpre, hbody⟩ | ⟨c, -, hheader⟩
  · cases a with
    | nil =>
      refine absurd ?_ (newline_not_mem_headerBytes hdst size)
      rw [List.nil_append] at hbody
      rw [← hbody]
      exact List.mem_cons_self
    | cons b a =>
      obtain ⟨rfl, -⟩ := List.cons.inj hbody
      exact ⟨a, hpre⟩
  · refine absurd ?_ (newline_not_mem_headerBytes hdst size)
    rw [hheader]
    exact List.mem_append_right _ List.mem_cons_self

/-- When the console has received the file, and what is left is what comes after it, the
read started in the text before the header and had the whole header line and no more
than the content. -/
theorem received_from {fs : FileSystem} {dst : String}
    {pre content post earlier rawData : List UInt8} {s : Source}
    (hpre : Text.position startBytes pre = none) (hsize : content.length < UInt64.size)
    (hdst : '\n' ∉ dst.toList)
    (hall : earlier ++ (rawData ++ s.bytes) =
      pre ++ (headerBytes content.length dst ++ newline :: (content ++ (endBytes ++ post))))
    (h : (receiveFileFromBytes fs rawData s).1 =
      { written := some (dst, content), result := .ok (), rest := post }) :
    dst.toList.getLast? ≠ some '\r' ∧ ∃ before body,
      rawData = before ++ (headerBytes content.length dst ++ newline :: body) ∧
      pre = earlier ++ before ∧ body.length ≤ content.length ∧ ¬openMarker <:+ before := by
  obtain ⟨before, header, body, path, size, hraw, -, hpos, hparse, hpath, hbody⟩ :=
    exists_of_receiveFileFromBytes h
  have hcount : dst.toList.count '\x01' + 2 ≤ (Utf8.encode header).count 1 := by
    have hbytes : (Utf8.encode header).count 1 = header.count '\x01' :=
      Utf8.count_encode (c := '\x01') (by decide) _
    obtain ⟨trimmed, htrimmed⟩ := Text.trimEndMatches_append '\r' path
    have hheader := count_of_parseHeader hparse
    rw [htrimmed, hpath, List.count_append] at hheader
    omega
  rw [hraw] at hall
  rcases eq_of_receiveBody hbody with ⟨hle, hrest⟩ | ⟨hlt, hrest⟩
  · have hends : (earlier ++ before) ++ Utf8.encode header =
        pre ++ headerBytes content.length dst := by
      simp only [List.append_assoc, List.cons_append] at hall
      rw [hrest] at hall
      rw [← List.append_left_inj (newline :: (content ++ (endBytes ++ post)))]
      simpa only [List.append_assoc] using hall
    obtain ⟨a, hpre', hheader⟩ := exists_append_headerBytes hcount hends
    obtain rfl := eq_nil_of_append_headerBytes hpre hpre' hparse hheader
    rw [List.nil_append] at hheader
    rw [List.append_nil] at hpre'
    rw [headerBytes] at hheader
    rw [Utf8.encode_injective hheader, parseHeader_fileHeader hsize] at hparse
    obtain ⟨-, rfl⟩ := Prod.mk.inj (Except.ok.inj hparse)
    refine ⟨Text.trimEndMatches_eq_self_iff.mp hpath, before, body, ?_, hpre', hle, ?_⟩
    · rw [hraw, hheader, headerBytes]
    · rw [hraw, hheader, ← headerBytes, headerBytes_eq, List.append_assoc] at hpos
      exact not_openMarker_suffix hpos
  · exfalso
    have hends : (earlier ++ (before ++ Utf8.encode header)) ++ newline :: body =
        (pre ++ headerBytes content.length dst) ++ newline :: content := by
      rw [hrest] at hall
      rw [← List.append_left_inj (endBytes ++ post)]
      simpa only [List.append_assoc, List.cons_append] using hall
    rcases List.append_eq_append_iff.mp hends with ⟨a, hx, hbody'⟩ | ⟨c, -, hcontent⟩
    · cases a with
      | nil =>
        obtain rfl := (List.cons.inj hbody').2
        omega
      | cons b a =>
        obtain ⟨rfl, -⟩ := List.cons.inj hbody'
        obtain ⟨rest, hpre'⟩ := exists_of_newline hdst hx.symm
        refine Text.position_eq_none hpre (earlier ++ before).length ?_
        obtain ⟨sizeStr, -, -, rfl⟩ := eq_of_parseHeader hparse
        rw [hpre', ← List.append_assoc earlier, List.append_assoc, List.drop_left,
          Utf8.encode_append, List.append_assoc]
        exact List.prefix_append _ _
    · have hlen := congrArg List.length hcontent
      rw [List.length_append, List.length_cons, List.length_cons] at hlen
      omega

/-- A read of `client_read_loop` starts in the text `pre` or right after it, returns the
whole header line after it and no more than the content, and what it has of the text does
not end in the start of a marker. -/
def HeaderInOneRead (cuts : ℕ → ℕ) (pre : List UInt8) (line content : ℕ) : Prop :=
  ∃ j, Source.readEnd bufferSize cuts j ≤ pre.length ∧
    pre.length + line ≤ Source.readEnd bufferSize cuts (j + 1) ∧
    Source.readEnd bufferSize cuts (j + 1) ≤ pre.length + line + content ∧
    ¬openMarker <:+ pre.drop (Source.readEnd bufferSize cuts j)

/-- After a read of text alone the condition is about what is left of the text. -/
theorem headerInOneRead_of_le {cuts : ℕ → ℕ} {pre : List UInt8} {line content : ℕ}
    (hread : Source.readSize bufferSize cuts ≤ pre.length) (hline : 0 < line) :
    HeaderInOneRead cuts pre line content ↔
      HeaderInOneRead (Source.laterCuts cuts) (pre.drop (Source.readSize bufferSize cuts)) line
        content := by
  have hlen : (pre.drop (Source.readSize bufferSize cuts)).length =
      pre.length - Source.readSize bufferSize cuts := List.length_drop
  constructor
  · rintro ⟨j, hstart, hheader, hcontent, hopen⟩
    cases j with
    | zero =>
      simp only [Source.readEnd] at hheader
      omega
    | succ j =>
      rw [Source.readEnd] at hstart hheader hcontent hopen
      refine ⟨j, by omega, by omega, by omega, ?_⟩
      rwa [List.drop_drop]
  · rintro ⟨j, hstart, hheader, hcontent, hopen⟩
    refine ⟨j + 1, ?_, ?_, ?_, ?_⟩
    · rw [Source.readEnd]
      omega
    · rw [Source.readEnd]
      omega
    · rw [Source.readEnd]
      omega
    · rwa [Source.readEnd, ← List.drop_drop]

/-- A read that goes beyond the text decides by itself. -/
theorem headerInOneRead_of_lt {cuts : ℕ → ℕ} {pre : List UInt8} {line content : ℕ}
    (hread : pre.length < Source.readSize bufferSize cuts) :
    HeaderInOneRead cuts pre line content ↔
      pre.length + line ≤ Source.readSize bufferSize cuts ∧
        Source.readSize bufferSize cuts ≤ pre.length + line + content ∧ ¬openMarker <:+ pre := by
  constructor
  · rintro ⟨j, hstart, hheader, hcontent, hopen⟩
    cases j with
    | zero => exact ⟨hheader, hcontent, hopen⟩
    | succ j =>
      rw [Source.readEnd] at hstart
      omega
  · rintro ⟨hheader, hcontent, hopen⟩
    exact ⟨0, Nat.zero_le _, hheader, hcontent, hopen⟩

/-- The console receives a file from its first read. -/
theorem mem_clientReadLoop_of_received {fs : FileSystem} {s : Source} {received : Received}
    (hbytes : s.bytes ≠ [])
    (hmarker : (Text.position startBytes (s.read bufferSize).1).isSome)
    (h : (receiveFileFromBytes fs (s.read bufferSize).1 (s.read bufferSize).2).1 = received) :
    ServerEvent.file received ∈ clientReadLoop fs s := by
  rw [clientReadLoop, Source.serve_of_ne_nil bufferSize_pos (handleClientData_readsOn fs) hbytes,
    List.mem_append]
  left
  rw [handleClientData, if_pos hmarker, ← h]
  exact List.mem_cons_self

/-- A file event comes from a read. -/
theorem received_of_mem_handleClientData {fs : FileSystem} {rawData : List UInt8} {s : Source}
    {received : Received} (h : ServerEvent.file received ∈ (handleClientData fs rawData s).1) :
    (receiveFileFromBytes fs rawData s).1 = received := by
  rw [handleClientData] at h
  split at h
  · rw [List.mem_singleton, ServerEvent.file.injEq] at h
    exact h.symm
  · rw [List.mem_singleton, textEvent] at h
    split at h
    · cases h
    · split at h <;> cases h

/-- A read of text alone receives no file. -/
theorem mem_clientReadLoop_of_text {fs : FileSystem} {s : Source} {received : Received}
    (hbytes : s.bytes ≠ []) (htext : Text.position startBytes (s.read bufferSize).1 = none) :
    ServerEvent.file received ∈ clientReadLoop fs s ↔
      ServerEvent.file received ∈ clientReadLoop fs (s.read bufferSize).2 := by
  have hhandle : handleClientData fs (s.read bufferSize).1 (s.read bufferSize).2 =
      ([textEvent (String.ofList (Utf8.lossy (s.read bufferSize).1))],
        some (s.read bufferSize).2) := by
    rw [handleClientData, htext]
    rfl
  rw [clientReadLoop, Source.serve_of_ne_nil bufferSize_pos (handleClientData_readsOn fs) hbytes,
    hhandle]
  simp only [List.singleton_append, List.mem_cons]
  refine or_iff_right fun h => ?_
  rw [textEvent] at h
  split at h
  · cases h
  · split at h <;> cases h

section Stream

variable {fs : FileSystem} {dst : String} {pre content post : List UInt8} {s : Source}

/-- The bytes from some text to the end of a file and on. -/
def downloadBytes (dst : String) (pre content post : List UInt8) : List UInt8 :=
  pre ++ (headerBytes content.length dst ++ newline :: (content ++ (endBytes ++ post)))

/-- The length of all that comes over the connection. -/
theorem length_downloadBytes (dst : String) (pre content post : List UInt8) :
    (downloadBytes dst pre content post).length =
      pre.length + ((headerBytes content.length dst).length + 1) + content.length + 10 +
        post.length := by
  have hend : endBytes.length = 10 := by decide
  simp only [downloadBytes, List.length_append, List.length_cons, hend]
  omega

/-- A console that has received the file has done so from a first read that goes beyond
the text and has just what it needs of the file. -/
theorem first_read_of_mem (hs : s.bytes = downloadBytes dst pre content post)
    (hpre : Text.position startBytes pre = none) (hsize : content.length < UInt64.size)
    (hdst : '\n' ∉ dst.toList) (hread : pre.length < Source.readSize bufferSize s.cuts)
    (hmem : ServerEvent.file { written := some (dst, content), result := .ok (), rest := post } ∈
      clientReadLoop fs s) :
    (pre.length + ((headerBytes content.length dst).length + 1) ≤
          Source.readSize bufferSize s.cuts ∧
        Source.readSize bufferSize s.cuts ≤
          pre.length + ((headerBytes content.length dst).length + 1) + content.length ∧
        ¬openMarker <:+ pre) ∧ dst.toList.getLast? ≠ some '\r' := by
  have hlength : (s.read bufferSize).1.length = min (Source.readSize bufferSize s.cuts)
      s.bytes.length := List.length_take
  rw [hs, length_downloadBytes] at hlength
  obtain ⟨earlier, t, ht, hwhere, hevent⟩ :=
    Source.exists_of_mem_serve bufferSize_pos (handleClientData_readsOn fs) hmem
  have hall : earlier ++ ((t.read bufferSize).1 ++ (t.read bufferSize).2.bytes) =
      downloadBytes dst pre content post := by
    rw [t.read_append, ← ht, hs]
  obtain ⟨hreturn, before, body, hraw, hpre', hle, hopen⟩ :=
    received_from hpre hsize hdst hall (received_of_mem_handleClientData hevent)
  refine ⟨?_, hreturn⟩
  rcases hwhere with ⟨rfl, rfl⟩ | ⟨hfirst, -⟩
  · rw [List.nil_append] at hpre'
    have hlen := congrArg List.length hraw
    rw [hlength] at hlen
    simp only [List.length_append, List.length_cons, ← hpre'] at hlen
    rw [← hpre'] at hopen
    exact ⟨by omega, by omega, hopen⟩
  · have hlen := hfirst.length_le
    have hearlier := congrArg List.length hpre'
    rw [List.length_append] at hearlier
    omega

/-- The console receives the file from a first read that has just what it needs of it. -/
theorem mem_of_first_read (hs : s.bytes = downloadBytes dst pre content post)
    (hpre : Text.position startBytes pre = none) (hsize : content.length < UInt64.size)
    (hdst : '\n' ∉ dst.toList) (hcreate : fs.create dst = .ok ())
    (hheader : pre.length + ((headerBytes content.length dst).length + 1) ≤
      Source.readSize bufferSize s.cuts)
    (hcontent : Source.readSize bufferSize s.cuts ≤
      pre.length + ((headerBytes content.length dst).length + 1) + content.length)
    (hopen : ¬openMarker <:+ pre) (hreturn : dst.toList.getLast? ≠ some '\r') :
    ServerEvent.file { written := some (dst, content), result := .ok (), rest := post } ∈
      clientReadLoop fs s := by
  obtain ⟨k, hk⟩ := Nat.le.dest hheader
  have hsplit : content = content.take k ++ content.drop k := (List.take_append_drop k _).symm
  have hparts : s.bytes = (pre ++ (headerBytes content.length dst ++ newline :: content.take k)) ++
      (content.drop k ++ (endBytes ++ post)) := by
    rw [downloadBytes] at hs
    nth_rewrite 2 [hsplit] at hs
    simpa only [List.append_assoc, List.cons_append] using hs
  have hlen : (pre ++ (headerBytes content.length dst ++ newline :: content.take k)).length =
      Source.readSize bufferSize s.cuts := by
    simp only [List.length_append, List.length_cons, List.length_take]
    omega
  obtain ⟨hchunk, hleft⟩ := Source.read_of_append hparts hlen
  apply mem_clientReadLoop_of_received
  · rw [← List.length_pos_iff, hs, length_downloadBytes]
    omega
  · rw [hchunk, headerBytes_eq, List.append_assoc, position_marker hpre hopen]
    rfl
  · rw [hchunk]
    exact receiveFileFromBytes_of_header hpre hopen hsize hdst hreturn hcreate hsplit hleft

end Stream

end LinuxAgent.AgentCli
