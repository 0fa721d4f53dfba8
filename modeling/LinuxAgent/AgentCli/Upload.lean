import LinuxAgent.AgentCli.Protocol
import Mathlib.Tactic.ByContra

/-!
# Uploading files

The header of an uploaded file has no mark at its end: the agent takes a line of what
one read returns for it. The loop for the content always reads a whole buffer. A file
arrives just when the first read returns the header and nothing else, and some read ends
where the content ends; and a path that ends in white space or has a line break never
arrives.
-/

namespace LinuxAgent.AgentCli

/-- The control characters of the markers in all lines of a read together come from its
bytes. -/
theorem count_sessionLines_le (chunk : List UInt8) :
    ((sessionLines chunk).flatMap String.toList).count '\x01' ≤ chunk.count 1 :=
  calc
    _ ≤ ((Utf8.lossy chunk).filter fun c => c ≠ '\n').count '\x01' :=
      (flatMap_sessionLines_sublist chunk).count_le _
    _ ≤ (Utf8.lossy chunk).count '\x01' := List.filter_sublist.count_le _
    _ ≤ chunk.count 1 := Utf8.count_lossy_le (by decide) chunk

/-- A header does not start with white space. -/
theorem head?_fileHeader (size : ℕ) (dst : String) :
    (fileHeader size dst).head?.any Text.isWhiteSpace = false := by
  have hmarker : startMarker = '\x01' :: startMarker.tail := by decide
  rw [fileHeader, hmarker]
  rfl

/-- A header ends in white space if its path does. -/
theorem getLast?_fileHeader (size : ℕ) (dst : String) :
    (fileHeader size dst).getLast?.any Text.isWhiteSpace =
      dst.toList.getLast?.any Text.isWhiteSpace := by
  rw [fileHeader, List.getLast?_append, List.getLast?_cons]
  cases dst.toList.getLast? with
  | none => rfl
  | some c => rfl

/-- The header of a file is one line. -/
theorem sessionLines_headerBytes {dst : String} (hdst : '\n' ∉ dst.toList) (size : ℕ) :
    sessionLines (headerBytes size dst) = [Text.trim (String.ofList (fileHeader size dst))] := by
  have hline : '\n' ∉ fileHeader size dst := by
    have hmarker : startMarker.count '\n' = 0 := by decide
    rw [← List.count_eq_zero, fileHeader, List.count_append, List.count_append, List.count_cons,
      hmarker, count_toDigits (by decide), List.count_eq_zero.mpr hdst]
    decide
  have hne : fileHeader size dst ≠ [] := by
    simp [fileHeader]
  rw [sessionLines, headerBytes, Utf8.lossy_encode,
    Text.lines_eq_singleton (by rwa [String.toList_ofList]) (by rwa [String.toList_ofList]),
    List.map_singleton]

/-- A line that starts with the marker has its control character. -/
theorem one_le_count_of_marker {line : String}
    (h : startMarker.isPrefixOf line.toList = true) : 1 ≤ line.toList.count '\x01' := by
  obtain ⟨rest, hrest⟩ := List.isPrefixOf_iff_prefix.mp h
  rw [← hrest, List.count_append, count_startMarker]
  omega

/-- A file event comes from a line, and from where the read ended if no line before it
starts with a marker. -/
theorem exists_of_mem_handleLines {fs : FileSystem} {devUid : String} {lines : List String}
    {s : Source} {received : Received}
    (h : AgentEvent.file received ∈ (handleLines fs devUid lines s).1) :
    ∃ before line after t, lines = before ++ line :: after ∧
      (receiveFile fs line t).1 = received ∧ t.bytes <:+ s.bytes ∧
      ((∀ l ∈ before, startMarker.isPrefixOf l.toList = false) → t = s) := by
  induction lines generalizing s with
  | nil => cases h
  | cons line lines ih =>
    have hskip : (∃ before l after t, lines = before ++ l :: after ∧
        (receiveFile fs l t).1 = received ∧ t.bytes <:+ s.bytes ∧
        ((∀ l ∈ before, startMarker.isPrefixOf l.toList = false) → t = s)) →
        ∃ before l after t, line :: lines = before ++ l :: after ∧
          (receiveFile fs l t).1 = received ∧ t.bytes <:+ s.bytes ∧
          ((∀ l ∈ before, startMarker.isPrefixOf l.toList = false) → t = s) := by
      rintro ⟨before, l, after, t, rfl, hreceive, hsuffix, hfirst⟩
      exact ⟨line :: before, l, after, t, rfl, hreceive, hsuffix,
        fun hall => hfirst fun l hl => hall l (List.mem_cons_of_mem line hl)⟩
    rw [handleLines] at h
    split at h
    · split at h
      · rw [List.mem_singleton] at h
        cases h
      · rcases List.mem_cons.mp h with h | h
        · cases h
        · exact hskip (ih h)
    · split at h
      · next hmarker =>
        rcases List.mem_cons.mp h with h | h
        · exact ⟨[], line, lines, s, rfl, (AgentEvent.file.inj h).symm, List.suffix_refl _,
            fun _ => rfl⟩
        · obtain ⟨before, l, after, t, rfl, hreceive, hsuffix, -⟩ := ih h
          refine ⟨line :: before, l, after, t, rfl, hreceive,
            hsuffix.trans (receiveFile_suffix fs line s), fun hall => ?_⟩
          rw [hall line List.mem_cons_self] at hmarker
          cases hmarker
      · exact hskip (ih h)

/-- What the agent has received, it has read. -/
theorem exists_of_receiveFile {fs : FileSystem} {header : String} {s : Source} {dst : String}
    {content post : List UInt8} (h : (receiveFile fs header s).1 =
      { written := some (dst, content), result := .ok (), rest := post }) :
    ∃ size tail, parseHeader header.toList = .ok (size, dst.toList) ∧
      (s.collect (fun _ => bufferSize) size).1 = content ∧
      tail.length = endBytes.length ∧ s.bytes = content ++ (tail ++ post) := by
  rw [receiveFile] at h
  split at h
  · cases h
  · next size path hparse =>
    simp only at h
    split at h
    · cases h
    · rw [Received.mk.injEq, Option.some.injEq, Prod.mk.injEq] at h
      obtain ⟨⟨hpath, hcontent⟩, hresult, hpost⟩ := h
      obtain ⟨hread, hrest⟩ :=
        (s.collect (fun _ => bufferSize) size).2.readExact_eq endBytes.length
      have happend := s.collect_append (fun _ => bufferSize) size
      rw [hrest] at hpost
      split at hresult
      · cases hresult
      · next got hgot =>
        rw [hread] at hgot
        split at hgot
        · next hlong =>
          refine ⟨size, (s.collect (fun _ => bufferSize) size).2.bytes.take endBytes.length,
            ?_, hcontent, List.length_take_of_le hlong, ?_⟩
          · rw [← hpath, String.toList_ofList]
            exact hparse
          · rw [← hcontent, ← hpost, List.take_append_drop, happend]
        · cases hgot

/-- A header starts with the control character of the markers. -/
theorem headerBytes_eq_cons (size : ℕ) (dst : String) :
    ∃ rest, headerBytes size dst = 1 :: rest := by
  have hmarker : startBytes = 1 :: startBytes.tail := by decide
  rw [headerBytes_eq, hmarker]
  exact ⟨_, rfl⟩

/-- When a line of a read within the header parses with the path of the file, the read
starts with the header, and no line before starts with a marker. -/
theorem header_at_start {earlier chunk skipped : List UInt8} {size size' : ℕ} {dst line : String}
    {before after : List String} (hall : headerBytes size dst = earlier ++ (chunk ++ skipped))
    (hlines : sessionLines chunk = before ++ line :: after)
    (hparse : parseHeader line.toList = .ok (size', dst.toList)) :
    earlier = [] ∧ ∀ l ∈ before, startMarker.isPrefixOf l.toList = false := by
  have hline := count_of_parseHeader hparse
  have hsum := count_sessionLines_le chunk
  have htotal := congrArg (List.count 1) hall
  rw [count_headerBytes, List.count_append, List.count_append] at htotal
  rw [hlines, List.flatMap_append, List.flatMap_cons, List.count_append, List.count_append] at hsum
  constructor
  · cases earlier with
    | nil => rfl
    | cons b earlier =>
      obtain ⟨rest, hrest⟩ := headerBytes_eq_cons size dst
      rw [hrest] at hall
      obtain ⟨rfl, -⟩ := List.cons.inj hall
      rw [List.count_cons_self] at htotal
      omega
  · intro l hl
    obtain ⟨front, back, rfl⟩ := List.append_of_mem hl
    rw [List.flatMap_append, List.flatMap_cons, List.count_append, List.count_append] at hsum
    cases hmarker : startMarker.isPrefixOf l.toList with
    | false => rfl
    | true =>
      have hpos := one_le_count_of_marker hmarker
      omega

/-- A header in two ways, one with something behind it. -/
theorem eq_of_fileHeader_eq {size size' : ℕ} {dst : String} {sizeStr after : List Char}
    (hsize : size < UInt64.size) (hcolon : ':' ∉ sizeStr)
    (hparse : Text.parseU64 sizeStr = some size')
    (h : fileHeader size dst = startMarker ++ (sizeStr ++ ':' :: dst.toList) ++ after) :
    size' = size ∧ after = [] := by
  have hdigits : ':' ∉ Nat.toDigits 10 size := Text.not_mem_toDigits (by decide) size
  rw [fileHeader, List.append_assoc, List.append_assoc, List.append_cancel_left_eq,
    List.append_assoc, List.cons_append] at h
  have hsplit := congrArg (Text.splitOnce ':') h
  rw [Text.splitOnce_append hdigits, Text.splitOnce_append hcolon] at hsplit
  obtain ⟨hstr, hpath⟩ := Prod.mk.inj (Option.some.inj hsplit)
  rw [← hstr, Text.parseU64_toDigits hsize] at hparse
  exact ⟨(Option.some.inj hparse).symm, List.self_eq_append_right.mp hpath⟩

/-- What follows when a read is just the header and one of its lines parses with the path
of the file: the size is right, and the path has no line break and no white space at its
end. -/
theorem header_of_line {size size' : ℕ} {dst line : String} (hsize : size < UInt64.size)
    (hline : line ∈ sessionLines (headerBytes size dst))
    (hparse : parseHeader line.toList = .ok (size', dst.toList)) :
    size' = size ∧ '\n' ∉ dst.toList ∧ dst.toList.getLast?.any Text.isWhiteSpace = false := by
  obtain ⟨sizeStr, hnumber, hcolon, hheader⟩ := eq_of_parseHeader hparse
  have hdst : '\n' ∉ dst.toList := by
    have hbreak := newline_not_mem_of_mem_sessionLines hline
    intro hmem
    refine hbreak ?_
    rw [hheader]
    exact List.mem_append_right _ (List.mem_append_right _ (List.mem_cons_of_mem _ hmem))
  rw [sessionLines_headerBytes hdst, List.mem_singleton] at hline
  rw [hline, Text.trim, String.toList_ofList, String.toList_ofList] at hheader
  obtain ⟨after, hparts⟩ := Text.exists_trimChars_append (head?_fileHeader size dst)
  rw [hheader] at hparts
  obtain ⟨hsame, rfl⟩ := eq_of_fileHeader_eq hsize hcolon hnumber hparts
  refine ⟨hsame, hdst, ?_⟩
  have hlast := Text.getLast?_trimChars (fileHeader size dst)
  rw [hheader, ← List.append_nil (startMarker ++ _), ← hparts, getLast?_fileHeader] at hlast
  exact hlast

/-- A first read that returns just the header and some read that ends where the content
ends. -/
def CutAtHeaderAndContent (cuts : ℕ → ℕ) (header content : ℕ) : Prop :=
  Source.readSize bufferSize cuts = header ∧
    ∃ j, Source.readEnd bufferSize (Source.laterCuts cuts) j = content

/-- The agent collects just the content when a read ends where it ends. -/
theorem collect_content_iff {content rest : List UInt8} {s : Source}
    (hs : s.bytes = content ++ rest) (hrest : rest ≠ []) :
    (s.collect (fun _ => bufferSize) content.length).1 = content ↔
      ∃ j, Source.readEnd bufferSize s.cuts j = content.length := by
  have hpos := List.length_pos_iff.mpr hrest
  have hmore : content.length < s.bytes.length := by
    rw [hs, List.length_append]
    omega
  rw [← Source.length_collectFrom_eq_iff bufferSize_pos (Nat.le_refl _) hmore, ← Source.collect]
  constructor
  · intro h
    rw [h]
  · intro h
    have happend := s.collect_append (fun _ => bufferSize) content.length
    rw [hs] at happend
    exact (List.append_inj happend h).1

/-- The end marker is not empty. -/
theorem endBytes_append_ne_nil (post : List UInt8) : endBytes ++ post ≠ [] := by
  have hend : endBytes ≠ [] := by decide
  exact List.append_ne_nil_of_left_ne_nil hend post

/-- The agent receives a file after its header, if a read ends where its content ends. -/
theorem receiveFile_of_header {fs : FileSystem} {dst : String} {content post : List UInt8}
    {s : Source} (hsize : content.length < UInt64.size) (hcreate : fs.create dst = .ok ())
    (hs : s.bytes = content ++ (endBytes ++ post))
    (hcut : ∃ j, Source.readEnd bufferSize s.cuts j = content.length) :
    (receiveFile fs (String.ofList (fileHeader content.length dst)) s).1 =
      { written := some (dst, content), result := .ok (), rest := post } := by
  have hend := endBytes_append_ne_nil post
  have hbody := (collect_content_iff hs hend).mpr hcut
  have hleft : (s.collect (fun _ => bufferSize) content.length).2.bytes = endBytes ++ post := by
    have happend := s.collect_append (fun _ => bufferSize) content.length
    rw [hs, hbody, List.append_cancel_left_eq] at happend
    exact happend
  obtain ⟨hread, hrest⟩ :=
    (s.collect (fun _ => bufferSize) content.length).2.readExact_eq endBytes.length
  rw [hleft, if_pos (by rw [List.length_append]; omega), List.take_left] at hread
  rw [hleft, List.drop_left] at hrest
  have hutf8 : (Utf8.decode endBytes).isSome = true := by decide
  rw [receiveFile, String.toList_ofList, parseHeader_fileHeader hsize]
  simp only [String.ofList_toList, hcreate, hread, hrest, hbody, hutf8, if_true]

/-- The agent takes the header from its first read if it returns just the header. -/
theorem mem_handleSession_of_header {fs : FileSystem} {devUid dst : String} {size : ℕ}
    {s : Source} {received : Received} (hdst : '\n' ∉ dst.toList)
    (hlast : dst.toList.getLast?.any Text.isWhiteSpace = false)
    (hchunk : (s.read bufferSize).1 = headerBytes size dst)
    (h : (receiveFile fs (String.ofList (fileHeader size dst)) (s.read bufferSize).2).1 =
      received) :
    AgentEvent.file received ∈ handleSession fs devUid s := by
  obtain ⟨first, hfirst⟩ := headerBytes_eq_cons size dst
  have hbytes : s.bytes ≠ [] := by
    rw [Ne, ← Source.read_eq_nil_iff bufferSize_pos, hchunk, hfirst]
    exact List.cons_ne_nil _ _
  have htrim : Text.trim (String.ofList (fileHeader size dst)) =
      String.ofList (fileHeader size dst) := by
    rw [Text.trim, String.toList_ofList, Text.trimChars_eq_self (head?_fileHeader size dst)
      (by rwa [getLast?_fileHeader])]
  have huid : uidMark.toList.isPrefixOf (fileHeader size dst) = false := rfl
  rw [handleSession, Source.serve_of_ne_nil bufferSize_pos (handleSession_readsOn fs devUid) hbytes,
    List.mem_append, hchunk, sessionLines_headerBytes hdst, htrim]
  left
  rw [handleLines, String.toList_ofList, huid, isPrefixOf_fileHeader, ← h]
  exact List.mem_cons_self

/-- When the agent has received the file, and what is left is what comes after it, the
first read has returned just the header. -/
theorem read_of_mem_handleSession {fs : FileSystem} {devUid dst : String}
    {content post : List UInt8} {s : Source} (hsize : content.length < UInt64.size)
    (hs : s.bytes = headerBytes content.length dst ++ (content ++ (endBytes ++ post)))
    (h : AgentEvent.file { written := some (dst, content), result := .ok (), rest := post } ∈
      handleSession fs devUid s) :
    (s.read bufferSize).1 = headerBytes content.length dst ∧
      ((s.read bufferSize).2.collect (fun _ => bufferSize) content.length).1 = content ∧
      '\n' ∉ dst.toList ∧ dst.toList.getLast?.any Text.isWhiteSpace = false := by
  obtain ⟨earlier, t, ht, hwhere, hevent⟩ :=
    Source.exists_of_mem_serve bufferSize_pos (handleSession_readsOn fs devUid) h
  obtain ⟨before, line, after, u, hlines, hreceive, ⟨skipped, hskipped⟩, hfirst⟩ :=
    exists_of_mem_handleLines hevent
  obtain ⟨size, tail, hparse, hcontent, htail, hu⟩ := exists_of_receiveFile hreceive
  have hlen : (content ++ (endBytes ++ post)).length = u.bytes.length := by
    simp only [hu, List.length_append, htail]
  have hheader : headerBytes content.length dst =
      earlier ++ ((t.read bufferSize).1 ++ skipped) := by
    have hall : headerBytes content.length dst ++ (content ++ (endBytes ++ post)) =
        (earlier ++ ((t.read bufferSize).1 ++ skipped)) ++ u.bytes := by
      rw [← hs, ht, ← t.read_append bufferSize, ← hskipped]
      simp only [List.append_assoc]
    exact (List.append_inj' hall hlen).1
  obtain ⟨rfl, hunmarked⟩ := header_at_start hheader hlines hparse
  obtain rfl : t = s := by
    rcases hwhere with ⟨-, hts⟩ | ⟨hempty, hne⟩
    · exact hts
    · exact absurd (List.prefix_nil.mp hempty) hne
  obtain rfl := hfirst hunmarked
  have hchunk : (t.read bufferSize).1 = headerBytes content.length dst := by
    have hall := t.read_append bufferSize
    rw [hs] at hall
    exact (List.append_inj' hall hlen.symm).1
  have hmem : line ∈ sessionLines (headerBytes content.length dst) := by
    rw [← hchunk, hlines]
    exact List.mem_append_right _ List.mem_cons_self
  obtain ⟨rfl, hdst, hlast⟩ := header_of_line hsize hmem hparse
  exact ⟨hchunk, hcontent, hdst, hlast⟩

end LinuxAgent.AgentCli
