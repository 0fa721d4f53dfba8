import LinuxAgent.IpJump.NetplanFile

/-!
# The patterns of the netplan update

The search for a list stops at the first line that has one. The search for a gateway goes
from line to line: a match starts with a line, and white space leads to the key of the
gateway. Each replacement changes the text of one line, and the line of a list is never
taken for that of a gateway.
-/

namespace LinuxAgent.IpJump

section AddrMatch

variable {prev : Option Char} {before gap list rest : List Char}

/-- The match of a list. -/
def addrMatch (gap list rest : List Char) : Regex.Match :=
  ⟨"addresses:".toList.map ([·]) ++ [gap, ['['], list, [']']], rest⟩

/-- The text of a match. -/
theorem text_addrMatch : (addrMatch gap list rest).text =
    "addresses:".toList ++ (gap ++ '[' :: (list ++ [']'])) := by
  have htext (w : List Char) : (w.map ([·]) ++ [gap, ['['], list, [']']]).flatten =
      w ++ (gap ++ '[' :: (list ++ [']'])) := by
    rw [List.flatten_append, ← List.flatMap_def, List.flatMap_singleton']
    simp
  exact htext _

/-- The pattern matches a list that has no bracket in it. -/
theorem matchHere_addrRe (hgap : ∀ c ∈ gap, Text.isWhiteSpace c = true) (hlist : ']' ∉ list) :
    Regex.matchHere addrRe prev
        ("addresses:".toList ++ (gap ++ '[' :: (list ++ ']' :: rest))) =
      some (addrMatch gap list rest) := by
  have hclose : Regex.matchHere [.many (· != ']'), .one (· == ']')] (some '[')
      (list ++ ']' :: rest) = some ⟨[list, [']']], rest⟩ := by
    refine Regex.matchHere_many (m := ⟨[[']']], rest⟩) (fun c hc => ?_) (fun c hc => ?_) rfl
    · exact bne_iff_ne.mpr fun heq => hlist (heq ▸ hc)
    · obtain rfl := Option.some.inj hc
      rfl
  have hopen : Regex.matchHere [.many Text.isWhiteSpace, .one (· == '['), .many (· != ']'),
      .one (· == ']')] (Regex.lastOf prev "addresses:".toList)
      (gap ++ '[' :: (list ++ ']' :: rest)) = some ⟨[gap, ['['], list, [']']], rest⟩ := by
    refine Regex.matchHere_many (m := ⟨[['['], list, [']']], rest⟩) hgap (fun c hc => ?_) ?_
    · obtain rfl := Option.some.inj hc
      rfl
    · rw [Regex.matchHere, hclose]
      rfl
  rw [addrRe, Regex.matchHere_lits, hopen]
  rfl

/-- The first match is the first list. -/
theorem find_addrRe (hbefore : ¬"addresses:".toList <:+: before)
    (hgap : ∀ c ∈ gap, Text.isWhiteSpace c = true) (hlist : ']' ∉ list) :
    Regex.find addrRe prev
        (before ++ ("addresses:".toList ++ (gap ++ '[' :: (list ++ ']' :: rest)))) =
      some (before, addrMatch gap list rest) := by
  rw [Regex.find_append, Regex.find_of_matchHere (matchHere_addrRe hgap hlist)]
  · rw [Option.map_some, List.append_nil]
  · intro u c v heq
    rw [Option.eq_none_iff_forall_ne_some]
    intro m hm
    have hword : "addresses:".toList = "addresses".toList ++ [':'] := rfl
    have hkey := Regex.prefix_of_matchHere_lits hm
    have hsuffix : ¬"addresses:".toList <:+: c :: v :=
      fun hpart => hbefore (hpart.trans (heq ▸ (List.suffix_append u (c :: v)).isInfix))
    rw [hword] at hkey hsuffix
    exact Text.not_prefix_append_of_not_infix (by decide) hsuffix (List.cons_ne_nil c v) hkey

/-- A text without the key has no match. -/
theorem find_addrRe_eq_none (hbefore : ¬"addresses:".toList <:+: before) :
    Regex.find addrRe prev before = none := by
  rw [Option.eq_none_iff_forall_ne_some]
  intro found hfound
  obtain ⟨u, v, prev', rfl, hm⟩ := Regex.exists_of_find hfound
  have hkey := (Regex.prefix_of_matchHere_lits hm).isInfix
  exact hbefore (hkey.trans (List.suffix_append u v).isInfix)

end AddrMatch

section GwMatch

variable {prev : Option Char} {cs rest : List Char}

/-- The first letter of the key is no white space. -/
theorem dropWhile_gateway {ws : List Char} (hws : ∀ c ∈ ws, Text.isWhiteSpace c = true)
    (hkey : "gateway4:".toList <+: cs) : (ws ++ cs).dropWhile Text.isWhiteSpace = cs := by
  obtain ⟨after, rfl⟩ := hkey
  rw [List.dropWhile_append_of_pos hws]
  exact List.dropWhile_cons_of_neg (by decide)

/-- A match starts with a line, and the key stands after white space. -/
theorem gatewayLike_of_matchHere {m : Regex.Match} (h : Regex.matchHere gwRe prev cs = some m) :
    prev.all (· == '\n') = true ∧ GatewayLike cs := by
  rw [gwRe, Regex.matchHere] at h
  split at h
  · next hstart =>
    obtain ⟨m', hm', -⟩ := Option.map_eq_some_iff.mp h
    obtain ⟨ws, cs', prev', m'', rfl, hws, hm''⟩ := Regex.exists_of_matchHere_many hm'
    have hkey := Regex.prefix_of_matchHere_lits hm''
    refine ⟨hstart, ?_⟩
    rw [GatewayLike, dropWhile_gateway hws hkey]
    exact hkey
  · exact absurd h (by simp)

/-- The pattern matches the line of a gateway. -/
theorem matchHere_gwRe {indent gap value : List Char} {c : Char}
    (hprev : prev.all (· == '\n') = true) (hindent : ∀ c ∈ indent, Text.isWhiteSpace c = true)
    (hgap : ∀ c ∈ gap, Text.isWhiteSpace c = true) (hc : Text.isWhiteSpace c = false)
    (hvalue : '\n' ∉ c :: value) (hrest : rest.head?.all (· == '\n') = true) :
    ∃ m, Regex.matchHere gwRe prev
        (indent ++ ("gateway4:".toList ++ (gap ++ c :: (value ++ rest)))) = some m ∧
      m.text = indent ++ ("gateway4:".toList ++ (gap ++ c :: value)) ∧ m.rest = rest := by
  have hne {c' : Char} (hc' : c' ∈ c :: value) : (c' != '\n') = true :=
    bne_iff_ne.mpr fun heq => hvalue (heq ▸ hc')
  have hend : Regex.matchHere [.many (· != '\n'), .lineEnd] (some c) (value ++ rest) =
      some ⟨[value, []], rest⟩ := by
    refine Regex.matchHere_many (m := ⟨[[]], rest⟩)
      (fun c' hc' => hne (List.mem_cons_of_mem c hc')) (fun c' hc' => ?_) ?_
    · rw [Option.mem_def.mp hc'] at hrest
      rw [eq_of_beq hrest]
      rfl
    · rw [Regex.matchHere, if_pos hrest]
      rfl
  have hvalue : Regex.matchHere [.many Text.isWhiteSpace, .one (· != '\n'), .many (· != '\n'),
      .lineEnd] (Regex.lastOf (Regex.lastOf prev indent) "gateway4:".toList)
      (gap ++ c :: (value ++ rest)) = some ⟨[gap, [c], value, []], rest⟩ := by
    refine Regex.matchHere_many (m := ⟨[[c], value, []], rest⟩) hgap (fun c' hc' => ?_) ?_
    · obtain rfl := Option.some.inj hc'
      exact hc
    · rw [Regex.matchHere, if_pos (hne List.mem_cons_self), hend]
      rfl
  have hkey : Regex.matchHere (.many Text.isWhiteSpace :: (Regex.lits "gateway4:".toList ++
      [.many Text.isWhiteSpace, .one (· != '\n'), .many (· != '\n'), .lineEnd])) prev
      (indent ++ ("gateway4:".toList ++ (gap ++ c :: (value ++ rest)))) =
        some ⟨indent :: ("gateway4:".toList.map ([·]) ++ [gap, [c], value, []]), rest⟩ := by
    refine Regex.matchHere_many
      (m := ⟨"gateway4:".toList.map ([·]) ++ [gap, [c], value, []], rest⟩) hindent
      (fun c' hc' => ?_) ?_
    · obtain rfl := Option.some.inj hc'
      decide
    · rw [Regex.matchHere_lits, hvalue]
      rfl
  refine ⟨⟨[] :: indent :: ("gateway4:".toList.map ([·]) ++ [gap, [c], value, []]), rest⟩, ?_, ?_,
    rfl⟩
  · rw [gwRe, Regex.matchHere, if_pos hprev, hkey]
    rfl
  · simp [Regex.Match.text]

/-- Inside a line no match starts. -/
theorem matchHere_gwRe_inside {line u v : List Char} {c : Char} (hline : '\n' ∉ line)
    (hsplit : line ++ ['\n'] = u ++ c :: v) (hu : u ≠ []) :
    Regex.matchHere gwRe (Regex.lastOf prev u) cs = none := by
  rw [Option.eq_none_iff_forall_ne_some]
  intro m hm
  obtain ⟨hstart, -⟩ := gatewayLike_of_matchHere hm
  obtain rfl | ⟨u, x, rfl⟩ := List.eq_nil_or_concat u
  · exact hu rfl
  · have hlast : Regex.lastOf prev (u.concat x) = some x := by
      rw [Regex.lastOf, List.concat_eq_append, List.foldl_append]
      rfl
    rw [hlast] at hstart
    have hx : x ∈ line := by
      have hinit := congrArg List.dropLast hsplit
      rw [List.dropLast_concat, List.dropLast_append_of_ne_nil (List.cons_ne_nil c v)] at hinit
      rw [hinit, List.concat_eq_append]
      exact List.mem_append_left _ (List.mem_append_right _ List.mem_cons_self)
    exact hline (eq_of_beq hstart ▸ hx)

/-- A search goes past a line that is not the one of a gateway. -/
theorem find_gwRe_line {line : List Char} (hline : '\n' ∉ line)
    (hlike : ¬GatewayLike (line ++ '\n' :: rest)) :
    Regex.find gwRe prev (line ++ '\n' :: rest) =
      (Regex.find gwRe (some '\n') rest).map fun found => (line ++ '\n' :: found.1, found.2) := by
  have hbreak (after : List Char) : line ++ '\n' :: after = line ++ ['\n'] ++ after := by simp
  have hlast : Regex.lastOf prev (line ++ ['\n']) = some '\n' := by
    rw [Regex.lastOf, List.foldl_append]
    rfl
  rw [hbreak, Regex.find_append, hlast]
  · refine congrArg (Option.map · _) (funext fun found => ?_)
    rw [← hbreak]
  · intro u c v hsplit
    by_cases hu : u = []
    · obtain rfl := hu
      rw [Option.eq_none_iff_forall_ne_some]
      intro m hm
      refine hlike ?_
      rw [hbreak, hsplit]
      exact (gatewayLike_of_matchHere hm).2
    · exact matchHere_gwRe_inside hline hsplit hu

/-- A last line that is not the one of a gateway has no match. -/
theorem find_gwRe_eq_none {line : List Char} (hline : '\n' ∉ line) (hlike : ¬GatewayLike line) :
    Regex.find gwRe prev line = none := by
  rw [← List.append_nil line, Regex.find_append]
  · have hempty : Regex.matchHere gwRe (Regex.lastOf prev line) [] = none := by
      rw [Option.eq_none_iff_forall_ne_some]
      intro m hm
      exact absurd (gatewayLike_of_matchHere hm).2 (by unfold GatewayLike; decide)
    rw [Regex.find, hempty]
    rfl
  · intro u c v hsplit
    by_cases hu : u = []
    · obtain rfl := hu
      rw [Option.eq_none_iff_forall_ne_some]
      intro m hm
      refine hlike ?_
      rw [hsplit]
      simpa using (gatewayLike_of_matchHere hm).2
    · refine matchHere_gwRe_inside hline (v := v ++ ['\n']) (c := c) ?_ hu
      rw [hsplit]
      simp

end GwMatch

section GwLines

variable {line cs rest : List Char} {texts : List String}

/-- A line that is not blank decides whether the key comes next. -/
theorem gatewayLike_line (hline : ¬∀ c ∈ line, Text.isWhiteSpace c = true) :
    GatewayLike (line ++ '\n' :: rest) ↔ GatewayLike line := by
  have hdrop : (line ++ '\n' :: rest).dropWhile Text.isWhiteSpace =
      line.dropWhile Text.isWhiteSpace ++ '\n' :: rest := by
    rw [List.dropWhile_append, if_neg]
    simpa [List.dropWhile_eq_nil_iff] using hline
  rw [GatewayLike, GatewayLike, hdrop]
  exact Text.prefix_append_cons_iff (by decide)

/-- A blank line leaves it to the next one. -/
theorem gatewayLike_blank (hline : ∀ c ∈ line, Text.isWhiteSpace c = true) :
    GatewayLike (line ++ '\n' :: rest) ↔ GatewayLike rest := by
  have hdrop : (line ++ '\n' :: rest).dropWhile Text.isWhiteSpace =
      rest.dropWhile Text.isWhiteSpace := by
    rw [List.dropWhile_append_of_pos hline]
    exact List.dropWhile_cons_of_pos (by decide)
  rw [GatewayLike, GatewayLike, hdrop]

/-- Lines that are not those of a gateway, and of which none before what comes next is blank. -/
def Skipped (texts : List String) (rest : List Char) : Prop :=
  (∀ text ∈ texts, '\n' ∉ text.toList ∧ ¬GatewayLike text.toList) ∧
    ∀ text ∈ texts.getLast?, Text.isBlank text = true → ¬GatewayLike rest

/-- The first line is left out. -/
theorem Skipped.of_cons {text : String} (h : Skipped (text :: texts) rest) :
    Skipped texts rest := by
  refine ⟨fun t ht => h.1 t (List.mem_cons_of_mem _ ht), fun t ht => h.2 t ?_⟩
  cases texts with
  | nil => exact absurd ht (by simp)
  | cons next texts => exact ht

/-- The key does not come next before lines that are skipped. -/
theorem Skipped.not_gatewayLike (h : Skipped texts rest) (hne : texts ≠ []) :
    ¬GatewayLike ((Text.joinWith '\n' (texts ++ [""])).toList ++ rest) := by
  induction texts with
  | nil => exact absurd rfl hne
  | cons text texts ih =>
    have hjoin : (Text.joinWith '\n' (text :: texts ++ [""])).toList ++ rest =
        text.toList ++ '\n' :: ((Text.joinWith '\n' (texts ++ [""])).toList ++ rest) := by
      rw [List.cons_append, Text.joinWith_cons_of_ne_nil (by simp)]
      simp
    rw [hjoin]
    by_cases hblank : ∀ c ∈ text.toList, Text.isWhiteSpace c = true
    · rw [gatewayLike_blank hblank]
      by_cases htexts : texts = []
      · obtain rfl := htexts
        rw [List.nil_append, Text.joinWith_singleton]
        exact h.2 text rfl (List.all_eq_true.mpr hblank)
      · exact ih h.of_cons htexts
    · rw [gatewayLike_line hblank]
      exact (h.1 text List.mem_cons_self).2

/-- A search goes past lines that are skipped. -/
theorem Skipped.find_gwRe (h : Skipped texts rest) (prev : Option Char)
    (hprev : prev.all (· == '\n') = true) :
    ∃ prev', prev'.all (· == '\n') = true ∧
      Regex.find gwRe prev ((Text.joinWith '\n' (texts ++ [""])).toList ++ rest) =
        (Regex.find gwRe prev' rest).map fun found =>
          ((Text.joinWith '\n' (texts ++ [""])).toList ++ found.1, found.2) := by
  induction texts generalizing prev with
  | nil =>
    refine ⟨prev, hprev, ?_⟩
    rw [List.nil_append, Text.joinWith_singleton]
    exact Option.map_id'.symm
  | cons text texts ih =>
    have hlike := h.not_gatewayLike (List.cons_ne_nil _ _)
    have hjoin (cs : List Char) : (Text.joinWith '\n' (text :: texts ++ [""])).toList ++ cs =
        text.toList ++ '\n' :: ((Text.joinWith '\n' (texts ++ [""])).toList ++ cs) := by
      rw [List.cons_append, Text.joinWith_cons_of_ne_nil (by simp)]
      simp
    obtain ⟨prev', hprev', hfind⟩ := ih h.of_cons (some '\n') rfl
    refine ⟨prev', hprev', ?_⟩
    rw [hjoin] at hlike ⊢
    rw [find_gwRe_line (h.1 text List.mem_cons_self).1 hlike, hfind, Option.map_map]
    refine congrArg (Option.map · _) (funext fun found => ?_)
    rw [hjoin]
    rfl

end GwLines

/-- What the rewrite puts in the place of an addresses list. -/
def newAddrLine (source primary : BitVec 32) (gap list : String) : String :=
  String.ofList (Regex.expand [("addresses:" ++ gap ++ "[" ++ list ++ "]").toList, list.toList]
    s!"addresses: [{newAddrList source primary list}]".toList)

/-- The new text of the line of a list. -/
def Line.rewritten (source primary : BitVec 32) : Line → String
  | .addresses _ pre gap list tail => pre ++ newAddrLine source primary gap list ++ tail
  | l => l.text

/-- The new text of the line of a gateway. -/
def Line.rerouted (gw : String) (l : Line) : String :=
  String.ofList (Regex.expand [l.text.toList] s!"      gateway4: {gw}".toList)

section Replacements

variable {before after : List String}

/-- The text of a file around a piece of one of its lines. -/
theorem toList_joinWith (pre mid tail : String) :
    (Text.joinWith '\n' (before ++ (pre ++ (mid ++ tail)) :: after)).toList =
      (Text.joinWith '\n' (before ++ [pre])).toList ++
        (mid.toList ++ (Text.joinWith '\n' (tail :: after)).toList) := by
  have hmid := Text.joinWith_append_cons '\n' [] after mid tail
  rw [List.nil_append, List.nil_append, Text.joinWith_singleton] at hmid
  rw [Text.joinWith_append_cons, hmid, String.toList_append, String.toList_append]

/-- The first list of a file is rewritten. -/
theorem replace_addrRe {own : Bool} {pre gap list tail : String}
    (hbefore : ∀ text ∈ before, ¬"addresses:".toList <:+: text.toList)
    (hline : (Line.addresses own pre gap list tail).WellFormed) :
    ∃ found, Regex.captures addrRe (Text.joinWith '\n'
        (before ++ (Line.addresses own pre gap list tail).text :: after)) = some found ∧
      addrGroup found.2 = list.toList ∧ ∀ template : String,
        Regex.replace addrRe (fun m => [addrGroup m]) template (Text.joinWith '\n'
            (before ++ (Line.addresses own pre gap list tail).text :: after)) =
          Text.joinWith '\n' (before ++ (pre ++ String.ofList (Regex.expand
            [("addresses:" ++ gap ++ "[" ++ list ++ "]").toList, list.toList] template.toList) ++
              tail) :: after) := by
  obtain ⟨hpre, hgap, hlist, -⟩ := hline
  have hkey : ¬"addresses:".toList <:+: (Text.joinWith '\n' (before ++ [pre])).toList := by
    rw [Text.infix_joinWith_iff (by decide) (by decide)]
    rintro ⟨text, htext, hpart⟩
    rcases List.mem_append.mp htext with htext | htext
    · exact hbefore text htext hpart
    · exact hpre (List.mem_singleton.mp htext ▸ hpart)
  have htext : (Text.joinWith '\n'
      (before ++ (Line.addresses own pre gap list tail).text :: after)).toList =
        (Text.joinWith '\n' (before ++ [pre])).toList ++ ("addresses:".toList ++ (gap.toList ++
          '[' :: (list.toList ++ ']' :: (Text.joinWith '\n' (tail :: after)).toList))) := by
    rw [Line.text, toList_joinWith]
    simp
  have hfind := @find_addrRe none _ _ _ (Text.joinWith '\n' (tail :: after)).toList hkey
    (List.all_eq_true.mp hgap) hlist
  rw [← htext] at hfind
  refine ⟨_, hfind, rfl, fun template => String.toList_inj.mp ?_⟩
  have hmatched : ("addresses:" ++ gap ++ "[" ++ list ++ "]").toList =
      (addrMatch gap.toList list.toList (Text.joinWith '\n' (tail :: after)).toList).text := by
    rw [text_addrMatch]
    simp
  rw [Regex.toList_replace hfind, String.append_assoc, toList_joinWith, String.toList_ofList,
    hmatched]
  rfl

/-- After a whole line comes a line break or the end of the text. -/
theorem head?_joinWith_empty :
    (Text.joinWith '\n' ("" :: after)).toList.head?.all (· == '\n') = true := by
  cases after with
  | nil =>
    rw [Text.joinWith_singleton]
    rfl
  | cons next after =>
    rw [Text.joinWith_cons_cons]
    simp

/-- The first gateway of a file is replaced. -/
theorem replace_gwRe {indent gap value : String}
    (hbefore : ∀ text ∈ before, '\n' ∉ text.toList ∧ ¬GatewayLike text.toList)
    (hlast : ∀ text ∈ before.getLast?, Text.isBlank text = false)
    (hline : (Line.gateway indent gap value).WellFormed)
    (hbreak : '\n' ∉ (Line.gateway indent gap value).text.toList) (template : String) :
    ∃ found, Regex.captures gwRe (Text.joinWith '\n'
        (before ++ (Line.gateway indent gap value).text :: after)) = some found ∧
      Regex.replace gwRe (fun _ => []) template (Text.joinWith '\n'
          (before ++ (Line.gateway indent gap value).text :: after)) =
        Text.joinWith '\n' (before ++ String.ofList (Regex.expand
          [(Line.gateway indent gap value).text.toList] template.toList) :: after) := by
  obtain ⟨hindent, hgap, ⟨c, cs, hvalue, hc⟩, -⟩ := hline
  have hcut (mid : String) : (Text.joinWith '\n' (before ++ mid :: after)).toList =
      (Text.joinWith '\n' (before ++ [""])).toList ++
        (mid.toList ++ (Text.joinWith '\n' ("" :: after)).toList) := by
    rw [← toList_joinWith, String.append_empty, String.empty_append]
  have htext : (Line.gateway indent gap value).text.toList =
      indent.toList ++ ("gateway4:".toList ++ (gap.toList ++ c :: cs)) := by
    simp only [Line.text, String.toList_append, List.append_assoc, hvalue]
  have hnewline : '\n' ∉ c :: cs := by
    rw [htext] at hbreak
    simp only [List.mem_append, not_or] at hbreak
    exact hbreak.2.2.2
  have hskipped : Skipped before ((Line.gateway indent gap value).text.toList ++
      (Text.joinWith '\n' ("" :: after)).toList) :=
    ⟨hbefore, fun text htext hblank => absurd (hlast text htext ▸ hblank) Bool.false_ne_true⟩
  obtain ⟨prev, hprev, hfind⟩ := hskipped.find_gwRe none rfl
  obtain ⟨m, hm, hmtext, hrest⟩ := matchHere_gwRe hprev (List.all_eq_true.mp hindent)
    (List.all_eq_true.mp hgap) hc hnewline (@head?_joinWith_empty after)
  have hhere : Regex.matchHere gwRe prev ((Line.gateway indent gap value).text.toList ++
      (Text.joinWith '\n' ("" :: after)).toList) = some m := by
    rw [htext, ← hm]
    simp only [List.append_assoc, List.cons_append]
  rw [← hcut, Regex.find_of_matchHere hhere, Option.map_some, List.append_nil] at hfind
  refine ⟨_, hfind, String.toList_inj.mp ?_⟩
  rw [Regex.toList_replace hfind, hcut, String.toList_ofList, hmtext, ← htext, hrest]

/-- A file without gateways has no match. -/
theorem captures_gwRe_eq_none {texts : List String}
    (htexts : ∀ text ∈ texts, '\n' ∉ text.toList ∧ ¬GatewayLike text.toList) :
    Regex.captures gwRe (Text.joinWith '\n' texts) = none := by
  obtain rfl | ⟨before, last, rfl⟩ := List.eq_nil_or_concat texts
  · exact find_gwRe_eq_none List.not_mem_nil (by unfold GatewayLike; decide)
  · rw [List.concat_eq_append] at htexts ⊢
    obtain ⟨hbefore, hlast⟩ := List.forall_mem_append.mp htexts
    obtain ⟨hbreak, hlike⟩ := hlast last List.mem_cons_self
    have hskipped : Skipped before last.toList := ⟨hbefore, fun _ _ _ => hlike⟩
    obtain ⟨prev, -, hfind⟩ := hskipped.find_gwRe none rfl
    have hcut := Text.joinWith_append_cons '\n' before [] "" last
    rw [String.empty_append, Text.joinWith_singleton] at hcut
    rw [Regex.captures, hcut, String.toList_append, hfind, find_gwRe_eq_none hbreak hlike]
    rfl

end Replacements

section NewLines

variable {source primary : BitVec 32} {own : Bool} {pre gap list tail : String} {x : Char}

/-- The characters of an entry with an address. -/
theorem of_mem_v4 {ip : BitVec 32} {bits : ℕ} (hx : x ∈ (AddrEntry.v4 ip bits).text.toList) :
    x ∈ ", /.".toList ∨ x.isDigit = true := by
  rcases of_mem_v4Text hx with hdigit | rfl | rfl
  · exact .inr hdigit
  · exact .inl (by decide)
  · exact .inl (by decide)

/-- The characters of the new list are those of the old one and of addresses. -/
theorem of_mem_newAddrList (hx : x ∈ (newAddrList source primary list).toList) :
    x ∈ list.toList ∨ x ∈ ", /.".toList ∨ x.isDigit = true := by
  rw [newAddrList, String.toList_intercalate] at hx
  rcases Text.of_mem_intercalate hx with hx | ⟨cs, hcs, hx⟩
  · exact .inr (.inl ((List.prefix_append ", ".toList "/.".toList).subset hx))
  · obtain ⟨text, htext, rfl⟩ := List.mem_map.mp hcs
    obtain ⟨entry, hentry, rfl⟩ := List.mem_map.mp htext
    rcases of_mem_update hentry with hentry | ⟨ip, bits, rfl⟩
    · rw [(scanned_scanList source list).entries] at hentry
      obtain ⟨item, hitem, rfl⟩ := List.mem_map.mp hentry
      obtain ⟨piece, hpiece, rfl⟩ := List.mem_map.mp hitem
      rw [readEntry] at hx
      split at hx
      · exact .inr (of_mem_v4 hx)
      · rw [AddrEntry.text, Text.trim, String.toList_ofList] at hx
        exact .inl (Text.mem_of_mem_split hpiece (Text.mem_of_mem_trimChars hx))
    · exact .inr (of_mem_v4 hx)

/-- The new line of a list starts as the old one. -/
theorem exists_newAddrLine (source primary : BitVec 32) (gap list : String) :
    ∃ rest, (newAddrLine source primary gap list).toList = "addresses:".toList ++ rest := by
  have htemplate : s!"addresses: [{newAddrList source primary list}]".toList =
      "addresses:".toList ++ (" [" ++ newAddrList source primary list ++ "]").toList := by
    simp [toString]
  rw [newAddrLine, String.toList_ofList, htemplate, Regex.expand]
  exact ⟨_, Regex.expandFrom_append (by decide) _⟩

/-- The new line of a list has no line break. -/
theorem break_notMem_rewritten
    (hbreak : '\n' ∉ (Line.addresses own pre gap list tail).text.toList) :
    '\n' ∉ ((Line.addresses own pre gap list tail).rewritten source primary).toList := by
  simp only [Line.text, String.toList_append, List.mem_append, not_or] at hbreak
  obtain ⟨hpre, ⟨⟨⟨⟨hkey, hgap⟩, hopen⟩, hlist⟩, hclose⟩, htail⟩ := hbreak
  have hline : '\n' ∉ (newAddrLine source primary gap list).toList := by
    rw [newAddrLine, String.toList_ofList]
    intro hx
    rcases Regex.of_mem_expand hx with hx | hx | ⟨g, hg, hx⟩
    · exact absurd hx (by decide)
    · simp only [toString, String.toList_append, List.mem_append] at hx
      rcases hx with (hx | hx) | hx
      · exact absurd hx (by decide)
      · rcases of_mem_newAddrList hx with hx | hx | hx
        · exact hlist hx
        · exact absurd hx (by decide)
        · exact absurd hx (by decide)
      · exact absurd hx (by decide)
    · rcases List.mem_cons.mp hg with rfl | hg
      · simp only [String.toList_append, List.mem_append] at hx
        rcases hx with (((hx | hx) | hx) | hx) | hx
        · exact hkey hx
        · exact hgap hx
        · exact hopen hx
        · exact hlist hx
        · exact hclose hx
      · obtain rfl := List.mem_singleton.mp hg
        exact hlist hx
  simp only [Line.rewritten, String.toList_append, List.mem_append, not_or]
  exact ⟨⟨hpre, hline⟩, htail⟩

/-- White space goes as far as the key. -/
theorem dropWhile_key (pre : String) (rest : List Char) :
    (pre.toList ++ ("addresses:".toList ++ rest)).dropWhile Text.isWhiteSpace =
      pre.toList.dropWhile Text.isWhiteSpace ++ ("addresses:".toList ++ rest) := by
  rw [List.dropWhile_append]
  split
  · next hblank =>
    rw [List.isEmpty_iff.mp hblank, List.nil_append]
    exact List.dropWhile_cons_of_neg (by decide)
  · rfl

/-- The line of a list is not the one of a gateway, whatever comes after the key. -/
theorem not_gatewayLike_key (hlike : ¬GatewayLike (pre ++ "addresses:").toList)
    (rest : List Char) : ¬GatewayLike (pre.toList ++ ("addresses:".toList ++ rest)) := by
  intro hkey
  have hshort := dropWhile_key pre []
  rw [List.append_nil] at hshort
  rw [GatewayLike, dropWhile_key, ← List.append_assoc] at hkey
  rw [GatewayLike, String.toList_append, hshort] at hlike
  refine hlike (List.prefix_of_prefix_length_le hkey (List.prefix_append _ _) ?_)
  rw [List.length_append]
  exact Nat.le_add_left_of_le (by decide)

end NewLines

end LinuxAgent.IpJump
