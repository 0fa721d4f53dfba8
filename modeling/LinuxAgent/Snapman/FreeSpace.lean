import LinuxAgent.Snapman.Backup
import Mathlib.Algebra.Order.Field.Rat

/-!
# Space for a snapshot

Before a snapshot is made, `check_free_space` compares its size with the free space of a volume
group. Both are rounded up to whole gigabytes, so that the check may pass although there is less
space than asked for. The name of the group is the whole output of `vgs`, which is the name of a
group only if there is just one. Numbers are read as exact fractions here.
-/

namespace LinuxAgent.Snapman

/-- A number with a sign, as an exponent. -/
def readExponent (cs : List Char) : Option ℤ :=
  if cs.head? = some '-' then (Text.decimal cs.tail).map fun n => -(n : ℤ)
  else if cs.head? = some '+' then (Text.decimal cs.tail).map fun n => (n : ℤ)
  else (Text.decimal cs).map fun n => (n : ℤ)

/-- `parse::<f64>()` without rounding, for a text that starts with a digit or a point. -/
def readNumber (cs : List Char) : Option ℚ :=
  let mantissa := cs.takeWhile (· ≠ 'e')
  let whole := mantissa.takeWhile (· ≠ '.')
  let fraction := (mantissa.dropWhile (· ≠ '.')).tail
  (Text.decimal (whole ++ fraction)).bind fun n =>
    (if 'e' ∈ cs then readExponent (cs.dropWhile (· ≠ 'e')).tail else some 0).map fun exponent =>
      (n : ℚ) / 10 ^ fraction.length * 10 ^ exponent

/-- `u64::MAX` -/
def u64Max : ℕ := 18446744073709551615

/-- `ceil() as u64`, for a number that is not negative. -/
def ceilU64 (q : ℚ) : ℕ := min q.ceil.toNat u64Max

/-- The arithmetic of sizes without rounding errors. -/
def exactSizes : Sizes where
  giga cs := (readNumber cs).map ceilU64
  mega cs := (readNumber cs).map fun q => ceilU64 (q / 1024)
  tera cs := (readNumber cs).map fun q => ceilU64 (q * 1024)
  tenth n := (n + 9) / 10

/-- The units of the sizes. -/
inductive SizeUnit
  | mega
  | giga
  | tera

/-- The letter of a unit, capital or small. -/
def SizeUnit.letter : SizeUnit → Bool → Char
  | .mega, true => 'M'
  | .mega, false => 'm'
  | .giga, true => 'G'
  | .giga, false => 'g'
  | .tera, true => 'T'
  | .tera, false => 't'

/-- A size: digits before and after the point, if there is one, and a unit. It may have the sign `<`
before it. -/
structure Size where
  below : Bool
  whole : List Char
  fraction : List Char
  unit : SizeUnit
  capital : Bool
  whole_ne_nil : whole ≠ []
  digits : ∀ c ∈ whole ++ fraction, c.isDigit = true

/-- The number of a size. -/
def Size.number (size : Size) : List Char :=
  size.whole ++ if size.fraction = [] then [] else '.' :: size.fraction

/-- A size as LVM prints and reads it. -/
def Size.text (size : Size) : String :=
  String.ofList ((if size.below then ['<'] else []) ++
    (size.number ++ [size.unit.letter size.capital]))

/-- The value of the number of a size. -/
def Size.value (size : Size) : ℚ :=
  (Nat.ofDigitChars 10 (size.whole ++ size.fraction) 0 : ℚ) / 10 ^ size.fraction.length

/-- A size in gigabytes. -/
def Size.gib (size : Size) : ℚ :=
  match size.unit with
  | .mega => size.value / 1024
  | .giga => size.value
  | .tera => size.value * 1024

/-- The characters of a number are digits and the dot. -/
theorem Size.isDigit_or_eq {size : Size} {c : Char} (h : c ∈ size.number) :
    c.isDigit = true ∨ c = '.' := by
  rw [Size.number, List.mem_append] at h
  obtain h | h := h
  · exact .inl (size.digits c (List.mem_append_left _ h))
  · split at h
    · exact absurd h List.not_mem_nil
    · obtain rfl | h := List.mem_cons.mp h
      · exact .inr rfl
      · exact .inl (size.digits c (List.mem_append_right _ h))

/-- A letter is not in a number. -/
theorem Size.not_mem_number {c : Char} (hdigit : c.isDigit = false) (hdot : c ≠ '.') (size : Size) :
    c ∉ size.number := by
  intro h
  obtain h | h := size.isDigit_or_eq h
  · rw [hdigit] at h
    cases h
  · exact hdot h

/-- There is no dot in the whole part. -/
theorem Size.dot_not_mem_whole (size : Size) : '.' ∉ size.whole := fun h =>
  absurd (size.digits '.' (List.mem_append_left _ h)) (by decide)

/-- A number is read. -/
theorem Size.readNumber_number (size : Size) : readNumber size.number = some size.value := by
  have he : 'e' ∉ size.number := size.not_mem_number (by decide) (by decide)
  have hmantissa : size.number.takeWhile (· ≠ 'e') = size.number := by
    refine List.takeWhile_eq_self_iff.mpr fun c hc => decide_eq_true ?_
    rintro rfl
    exact he hc
  have hwhole : ∀ c ∈ size.whole, decide (c ≠ '.') = true := by
    intro c hc
    refine decide_eq_true ?_
    rintro rfl
    exact size.dot_not_mem_whole hc
  have htake : size.number.takeWhile (· ≠ '.') = size.whole := by
    rw [Size.number, List.takeWhile_append_of_pos hwhole]
    split
    · rw [List.takeWhile_nil, List.append_nil]
    · rw [List.takeWhile_cons_of_neg (by decide), List.append_nil]
  have hdrop : (size.number.dropWhile (· ≠ '.')).tail = size.fraction := by
    rw [Size.number, List.dropWhile_append_of_pos hwhole]
    split
    · next hnil => rw [hnil, List.dropWhile_nil, List.tail_nil]
    · rw [List.dropWhile_cons_of_neg (by decide), List.tail_cons]
  have hne : size.whole ++ size.fraction ≠ [] :=
    List.append_ne_nil_of_left_ne_nil size.whole_ne_nil _
  rw [readNumber, hmantissa, htake, hdrop, Text.decimal_of_digits hne size.digits, if_neg he]
  simp [Size.value]

/-- Neither digits nor points have a small letter. -/
theorem Size.toLower_number (size : Size) : size.number.map Char.toLower = size.number := by
  have hsame : ∀ c ∈ size.number, c.toLower = c := by
    intro c hc
    obtain h | rfl := size.isDigit_or_eq hc
    · obtain ⟨hzero, hnine⟩ := Char.isDigit_iff_toNat.mp h
      have hhigh : c.val.toNat ≤ 57 := hnine
      refine dif_neg ?_
      rintro ⟨hcapital, -⟩
      have hlow : 65 ≤ c.val.toNat := hcapital
      omega
    · rfl
  exact (List.map_congr_left hsame).trans (List.map_id' _)

/-- What is left of a size without the sign before it. -/
theorem Size.dropWhile_text (size : Size) :
    size.text.toList.dropWhile (fun c => !c.isDigit && c ≠ '.') =
      size.number ++ [size.unit.letter size.capital] := by
  obtain ⟨d, rest, hwhole⟩ := List.exists_cons_of_ne_nil size.whole_ne_nil
  have hdigit : d.isDigit = true :=
    size.digits d (List.mem_append_left _ (hwhole ▸ List.mem_cons_self))
  have hnumber : size.number ++ [size.unit.letter size.capital] =
      d :: (rest ++ (if size.fraction = [] then [] else '.' :: size.fraction) ++
        [size.unit.letter size.capital]) := by
    rw [Size.number, hwhole]
    rfl
  have hstay : (size.number ++ [size.unit.letter size.capital]).dropWhile
      (fun c => !c.isDigit && c ≠ '.') = size.number ++ [size.unit.letter size.capital] := by
    rw [hnumber, List.dropWhile_cons_of_neg (by simp [hdigit])]
  rw [Size.text, String.toList_ofList]
  split
  · rw [List.singleton_append, List.dropWhile_cons_of_pos (by decide), hstay]
  · rw [List.nil_append, hstay]

/-- A letter of a unit is neither white space nor the end of a number. -/
theorem SizeUnit.letter_facts (unit : SizeUnit) (capital : Bool) :
    Text.isWhiteSpace (unit.letter capital) = false ∧
      (unit.letter capital).toLower = unit.letter false := by
  cases unit <;> cases capital <;> exact ⟨by decide, by decide⟩

/-- There is no white space in a size. -/
theorem Size.isWhiteSpace_text {size : Size} {c : Char} (h : c ∈ size.text.toList) :
    Text.isWhiteSpace c = false := by
  rw [Size.text, String.toList_ofList, List.mem_append, List.mem_append, List.mem_singleton] at h
  obtain h | h | rfl := h
  · split at h
    · obtain rfl := List.mem_singleton.mp h
      decide
    · exact absurd h List.not_mem_nil
  · obtain h | rfl := size.isDigit_or_eq h
    · exact Text.isWhiteSpace_of_isDigit h
    · decide
  · exact (size.unit.letter_facts _).1

/-- There are no blanks around a size. -/
theorem Size.trimChars_text (size : Size) : Text.trimChars size.text.toList = size.text.toList := by
  refine Text.trimChars_eq_self ?_ ?_
  · cases h : size.text.toList.head? with
    | none => rfl
    | some c => exact size.isWhiteSpace_text (List.mem_of_head? h)
  · cases h : size.text.toList.getLast? with
    | none => rfl
    | some c => exact size.isWhiteSpace_text (List.mem_of_getLast? h)

/-- The number is what stands before the unit. -/
theorem Size.trimEndMatches_number (size : Size) {c : Char} (hdigit : c.isDigit = false)
    (hdot : c ≠ '.') : Text.trimEndMatches c (size.number ++ [c]) = size.number := by
  have hlast : size.number.getLast? ≠ some c := fun h =>
    size.not_mem_number hdigit hdot (List.mem_of_getLast? h)
  rw [Text.trimEndMatches, List.reverse_append, List.reverse_singleton, List.singleton_append,
    @List.dropWhile_cons_of_pos _ (fun x => decide (x = c)) _ _ (decide_eq_true rfl)]
  exact Text.trimEndMatches_eq_self_iff.mpr hlast

/-- A size is read and rounded up. -/
theorem parseSizeToGb_text (size : Size) :
    parseSizeToGb exactSizes size.text = .ok (ceilU64 size.gib) := by
  have hcleaned : size.number ++ [size.unit.letter size.capital] ≠ [] := by simp
  have hlower : (size.number ++ [size.unit.letter size.capital]).map Char.toLower =
      size.number ++ [size.unit.letter false] := by
    rw [List.map_append, size.toLower_number, List.map_singleton, (size.unit.letter_facts _).2]
  rw [parseSizeToGb, size.trimChars_text, size.dropWhile_text]
  dsimp only
  rw [if_neg hcleaned, hlower, List.getLast?_concat, Size.gib]
  cases size.unit with
  | mega =>
    rw [SizeUnit.letter, if_neg (by decide), if_pos rfl, parseUnit,
      size.trimEndMatches_number (by decide) (by decide)]
    simp only [exactSizes, size.readNumber_number, Option.map_some]
  | giga =>
    rw [SizeUnit.letter, if_pos rfl, parseUnit,
      size.trimEndMatches_number (by decide) (by decide)]
    simp only [exactSizes, size.readNumber_number, Option.map_some]
  | tera =>
    rw [SizeUnit.letter, if_neg (by decide), if_neg (by decide), if_pos rfl, parseUnit,
      size.trimEndMatches_number (by decide) (by decide)]
    simp only [exactSizes, size.readNumber_number, Option.map_some]

/-- A volume group and its free space. -/
structure Group where
  name : String
  free : Size

/-- What `vgs` prints of the volume groups of a host when a snapshot of a volume is to be made. -/
structure VolumeGroups (env : CreateEnv) (lv : LvInfo) where
  groups : List Group
  distinct : (groups.map Group.name).Nodup
  names : ∃ stdout, env.vgs = .ok stdout ∧ Text.words stdout = groups.map Group.name
  frees : ∃ stdout, env.vgFree lv = .ok stdout ∧
    (Text.lines stdout).map Text.words = groups.map fun group => [group.name, group.free.text]

/-- The group that the volume is in. -/
def VolumeGroups.Holds {env : CreateEnv} {lv : LvInfo} (host : VolumeGroups env lv)
    (group : Group) : Prop := group ∈ host.groups ∧ group.name = lv.vg

/-- The check of the free space in `create_snapshot` passes for a volume. -/
def SpaceChecked (sizes : Sizes) (env : CreateEnv) (lv : LvInfo) (requiredSize : String) : Prop :=
  ∃ vg, getVgName env = .ok vg ∧ checkFreeSpace sizes (env.vgFree lv) vg requiredSize = .ok ()

/-- A group that is in no line is not found. -/
theorem checkLines_not_found {sizes : Sizes} {vg : String} {requiredGb : ℕ} {lines : List String}
    (h : ∀ line ∈ lines, (Text.words line).head? ≠ some vg) :
    checkLines sizes vg requiredGb lines = .error (.volumeGroupNotFound vg) := by
  induction lines with
  | nil => rfl
  | cons line lines ih =>
    obtain ⟨hline, hlines⟩ := List.forall_mem_cons.mp h
    rw [checkLines]
    split
    · next name free rest hwords =>
      rw [hwords] at hline
      rw [if_neg fun heq => hline (congrArg some heq), ih hlines]
    · exact ih hlines

section Checked

variable {env : CreateEnv} {lv : LvInfo} {host : VolumeGroups env lv}

/-- With one volume group, the sizes are compared after they are rounded up. -/
theorem spaceChecked_iff_of_one {group : Group} (hone : host.groups = [group]) (request : Size) :
    SpaceChecked exactSizes env lv request.text ↔
      ceilU64 request.gib ≤ ceilU64 group.free.gib := by
  obtain ⟨names, hnames, hwords⟩ := host.names
  obtain ⟨frees, hfrees, hlines⟩ := host.frees
  rw [hone] at hwords hlines
  have htrim : Text.trim names = group.name := Text.trim_of_words_eq_singleton hwords
  have hne : Text.trim names ≠ "" := by
    intro hempty
    rw [← Text.words_trim, hempty] at hwords
    cases hwords
  have hvg : getVgName env = .ok group.name := by
    rw [getVgName, hnames]
    dsimp only
    rw [if_neg hne, htrim]
  have hcheck : checkFreeSpace exactSizes (env.vgFree lv) group.name request.text =
      if ceilU64 group.free.gib < ceilU64 request.gib then
        .error (.notEnoughSpace group.name (ceilU64 request.gib) (ceilU64 group.free.gib))
      else .ok () := by
    obtain ⟨line, hline, hwordsLine⟩ := List.map_eq_singleton_iff.mp hlines
    rw [checkFreeSpace, parseSizeToGb_text, hfrees]
    dsimp only
    rw [hline, checkLines, hwordsLine]
    dsimp only
    rw [if_pos rfl, parseSizeToGb_text]
  rw [SpaceChecked]
  constructor
  · rintro ⟨vg, hget, hok⟩
    rw [hvg] at hget
    obtain rfl := Except.ok.inj hget
    rw [hcheck] at hok
    split at hok
    · cases hok
    · next hle => exact Nat.le_of_not_lt hle
  · intro hle
    exact ⟨group.name, hvg, by rw [hcheck, if_neg (Nat.not_lt.mpr hle)]⟩

/-- With several volume groups, the check never passes. -/
theorem not_spaceChecked_of_several (hseveral : 2 ≤ host.groups.length) (sizes : Sizes)
    (requiredSize : String) : ¬SpaceChecked sizes env lv requiredSize := by
  rintro ⟨vg, hget, hok⟩
  obtain ⟨names, hnames, hwords⟩ := host.names
  obtain ⟨frees, hfrees, hlines⟩ := host.frees
  have hvg : vg = Text.trim names := by
    rw [getVgName, hnames] at hget
    dsimp only at hget
    split at hget
    · cases hget
    · exact (Except.ok.inj hget).symm
  have hline : ∀ line ∈ Text.lines frees, (Text.words line).head? ≠ some vg := by
    intro line hmem hhead
    have hmem' := List.mem_map_of_mem (f := Text.words) hmem
    rw [hlines] at hmem'
    obtain ⟨group, hgroup, heq⟩ := List.mem_map.mp hmem'
    rw [← heq] at hhead
    have hname : group.name = vg := Option.some.inj hhead
    have hsingle : Text.words group.name = [group.name] := by
      refine Text.words_of_mem_words (s := names) ?_
      rw [hwords]
      exact List.mem_map_of_mem hgroup
    rw [hname, hvg, Text.words_trim, hwords] at hsingle
    have hlength := congrArg List.length hsingle
    rw [List.length_map, List.length_singleton] at hlength
    omega
  rw [checkFreeSpace] at hok
  split at hok
  · cases hok
  · rw [hfrees] at hok
    dsimp only at hok
    rw [checkLines_not_found hline] at hok
    cases hok

end Checked

/-- A size is not negative. -/
theorem Size.gib_nonneg (size : Size) : 0 ≤ size.gib := by
  have hvalue : 0 ≤ size.value := div_nonneg Rat.natCast_nonneg (Rat.pow_nonneg (by decide))
  rw [Size.gib]
  split
  · exact div_nonneg hvalue (by decide)
  · exact hvalue
  · exact Rat.mul_nonneg hvalue (by decide)

/-- Which numbers are rounded up to more than another one. -/
theorem ceilU64_lt_iff {a b : ℚ} (ha : 0 ≤ a) :
    ceilU64 a < ceilU64 b ↔ (a.ceil : ℚ) < b ∧ a.ceil < u64Max := by
  have hceil : 0 ≤ a.ceil := Rat.intCast_nonneg.mp (Rat.le_trans ha Rat.le_ceil)
  rw [← Rat.lt_ceil_iff, ceilU64, ceilU64]
  omega

/-- Comparing the numbers rounded up is right just if the request fits, or if it is more than the
free space rounded up. -/
theorem rounding_iff {free request : ℚ} (hfree : 0 ≤ free) :
    ((ceilU64 request ≤ ceilU64 free → request ≤ free) ∧
        ((request.ceil : ℚ) ≤ free → ceilU64 request ≤ ceilU64 free)) ↔
      (request ≤ free ∨ (free.ceil : ℚ) < request ∧ free.ceil < u64Max) := by
  have henough : (request.ceil : ℚ) ≤ free → ceilU64 request ≤ ceilU64 free := by
    intro h
    have hceil : request.ceil ≤ free.ceil := Rat.intCast_le_intCast.mp (Rat.le_trans h Rat.le_ceil)
    rw [ceilU64, ceilU64]
    omega
  rw [and_iff_left henough, ← ceilU64_lt_iff hfree]
  constructor
  · intro h
    by_cases hle : ceilU64 request ≤ ceilU64 free
    · exact .inl (h hle)
    · exact .inr (Nat.lt_of_not_le hle)
  · rintro (h | h) hle
    · exact h
    · exact absurd hle (Nat.not_le.mpr h)

/-- The check is right just if there is one volume group and the request is at most its free space,
or more than that rounded up, or if there are several and the one of the volume has less free space
than the request rounded up. -/
theorem spaceCheck_sound_iff {env : CreateEnv} {lv : LvInfo} (host : VolumeGroups env lv)
    {group : Group} (hgroup : host.Holds group) (request : Size) :
    ((SpaceChecked exactSizes env lv request.text → request.gib ≤ group.free.gib) ∧
        ((request.gib.ceil : ℚ) ≤ group.free.gib →
          SpaceChecked exactSizes env lv request.text)) ↔
      host.groups.length = 1 ∧
          (request.gib ≤ group.free.gib ∨
            (group.free.gib.ceil : ℚ) < request.gib ∧ group.free.gib.ceil < u64Max) ∨
        2 ≤ host.groups.length ∧ group.free.gib < request.gib.ceil := by
  have hpos : 0 < host.groups.length := List.length_pos_of_mem hgroup.1
  by_cases hone : host.groups.length = 1
  · obtain ⟨only, honly⟩ := List.length_eq_one_iff.mp hone
    obtain rfl : group = only := List.mem_singleton.mp (honly ▸ hgroup.1)
    have hfew : ¬(2 ≤ host.groups.length ∧ group.free.gib < request.gib.ceil) := fun h => by
      omega
    rw [spaceChecked_iff_of_one honly, rounding_iff group.free.gib_nonneg, and_iff_right hone,
      or_iff_left hfew]
  · have hseveral : 2 ≤ host.groups.length := by omega
    have hnot := not_spaceChecked_of_several hseveral exactSizes request.text
    rw [or_iff_right fun h => hone h.1, and_iff_right hseveral, ← Rat.not_le]
    exact ⟨fun h hle => hnot (h.2 hle),
      fun h => ⟨fun hok => absurd hok hnot, fun hle => absurd hle h⟩⟩

/-- A volume. -/
def rootLv : LvInfo := ⟨"root", "vg0", none⟩

/-- A host where `vgs` prints two texts. -/
def printing (names frees : String) : CreateEnv where
  vgs := .ok names
  listing := listsAll
  lvSize := fun _ => .ok "  10g\n"
  vgFree := fun _ => .ok frees
  lvcreate := fun _ => .ok true

/-- The digits of a size. -/
theorem digits_36_12 : ∀ c ∈ ['3', '6'] ++ ['1', '2'], c.isDigit = true :=
  List.all_eq_true.mp (by decide)

/-- The digits of another size. -/
theorem digits_36_5 : ∀ c ∈ ['3', '6'] ++ ['5'], c.isDigit = true :=
  List.all_eq_true.mp (by decide)

/-- The digits of a whole size. -/
theorem digits_20 : ∀ c ∈ ['2', '0'] ++ [], c.isDigit = true :=
  List.all_eq_true.mp (by decide)

/-- The size `<36.12g`. -/
def lessThan3612 : Size :=
  ⟨true, ['3', '6'], ['1', '2'], .giga, false, List.cons_ne_nil _ _, digits_36_12⟩

/-- The size `36.5G`. -/
def size365 : Size := ⟨false, ['3', '6'], ['5'], .giga, true, List.cons_ne_nil _ _, digits_36_5⟩

/-- The size `20G`. -/
def size20 : Size := ⟨false, ['2', '0'], [], .giga, true, List.cons_ne_nil _ _, digits_20⟩

/-- One volume group is distinct. -/
theorem distinct_vg0 : (["vg0"] : List String).Nodup := List.nodup_singleton _

/-- The two volume groups are distinct. -/
theorem distinct_vg0_vg1 : ["vg0", "vg1"].Nodup := by decide

/-- The name that `vgs` prints. -/
theorem names_vg0 : Text.words "  vg0\n" = ["vg0"] := by decide +kernel

/-- The names that `vgs` prints. -/
theorem names_vg0_vg1 : Text.words "  vg0\n  vg1\n" = ["vg0", "vg1"] := by decide +kernel

/-- The free space that `vgs` prints. -/
theorem frees_vg0 : (Text.lines "  vg0 <36.12g\n").map Text.words =
    [["vg0", lessThan3612.text]] := by decide +kernel

/-- The free space of two volume groups that `vgs` prints. -/
theorem frees_vg0_vg1 : (Text.lines "  vg0 <36.12g\n  vg1 <36.12g\n").map Text.words =
    [["vg0", lessThan3612.text], ["vg1", lessThan3612.text]] := by decide +kernel

/-- A host with one volume group. -/
def oneGroup : VolumeGroups (printing "  vg0\n" "  vg0 <36.12g\n") rootLv :=
  ⟨[⟨"vg0", lessThan3612⟩], distinct_vg0, ⟨_, rfl, names_vg0⟩, ⟨_, rfl, frees_vg0⟩⟩

/-- A host with two volume groups. -/
def twoGroups : VolumeGroups (printing "  vg0\n  vg1\n"
    "  vg0 <36.12g\n  vg1 <36.12g\n") rootLv :=
  ⟨[⟨"vg0", lessThan3612⟩, ⟨"vg1", lessThan3612⟩], distinct_vg0_vg1, ⟨_, rfl, names_vg0_vg1⟩,
    ⟨_, rfl, frees_vg0_vg1⟩⟩

/-- The check is right for a snapshot of `20G` on a host with one volume group. -/
theorem spaceCheck_sound_oneGroup :
    oneGroup.Holds ⟨"vg0", lessThan3612⟩ ∧
      SpaceChecked exactSizes (printing "  vg0\n" "  vg0 <36.12g\n") rootLv size20.text := by
  have hholds : oneGroup.Holds ⟨"vg0", lessThan3612⟩ := ⟨List.mem_singleton_self _, rfl⟩
  have hsound := (spaceCheck_sound_iff oneGroup hholds size20).mpr
    (.inl ⟨rfl, .inl (by decide +kernel)⟩)
  exact ⟨hholds, hsound.2 (by decide +kernel)⟩

/-- The check passes for a snapshot of `36.5G` if `36.12g` are free, and with two volume groups it
does not pass for one of `20G`. -/
theorem spaceCheck_not_sound :
    (SpaceChecked exactSizes (printing "  vg0\n" "  vg0 <36.12g\n") rootLv size365.text ∧
      lessThan3612.gib < size365.gib) ∧
    (¬SpaceChecked exactSizes (printing "  vg0\n  vg1\n" "  vg0 <36.12g\n  vg1 <36.12g\n") rootLv
        size20.text ∧
      (size20.gib.ceil : ℚ) ≤ lessThan3612.gib) := by
  refine ⟨⟨?_, by decide +kernel⟩, ?_, by decide +kernel⟩
  · have hone : oneGroup.groups = [⟨"vg0", lessThan3612⟩] := rfl
    exact (spaceChecked_iff_of_one hone size365).mpr (by decide +kernel)
  · have hseveral : 2 ≤ twoGroups.groups.length := by decide
    exact not_spaceChecked_of_several hseveral exactSizes _

end LinuxAgent.Snapman
