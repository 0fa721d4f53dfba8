import LinuxAgent.IpJump.Outcome

/-!
# The presence test on the output of `ip -4 addr show`

`ip_exists_on_iface` looks for the text of an address anywhere in the listing of an
interface, where every address stands with its prefix length, its broadcast address and
the name of the interface. An address is found, too, when it is only a part of one of
these texts. Whether `add_secondary_ip` and `try_remove_ip_from_system` do their work
depends on the other addresses of the interface.
-/

namespace LinuxAgent.IpJump

/-- What the listing of an interface shows besides its addresses. -/
structure Listing where
  /-- The broadcast address of an address. -/
  brd : IfAddr → Option String
  /-- The number of an interface. -/
  index : String → ℕ
  /-- The words of the first line after the name of the interface: flags, `mtu`, `qdisc`. -/
  link : String → List String
  /-- The words after the scope of an address, such as `secondary` or `dynamic`. -/
  flags : IfAddr → List String
  /-- The lifetimes of an address. -/
  lifetime : IfAddr → List String
  /-- None of these words has a dot. -/
  no_dot : ∀ iface a, ∀ word ∈ link iface ++ flags a ++ lifetime a, '.' ∉ word.toList

namespace Listing

/-- The words of the two lines of an address. -/
def addrLines (l : Listing) (a : IfAddr) : List (List String) :=
  let brd := match l.brd a with
    | some brd => ["brd", brd]
    | none => []
  [["", "", "", "", "inet", s!"{a.ip}/{a.prefixLen}"] ++ brd ++ ["scope", "global"] ++
      l.flags a ++ [a.iface],
    ["", "", "", "", "", "", ""] ++ l.lifetime a]

/-- The words of the lines of `ip -4 addr show dev iface`. An interface without
addresses is not listed. -/
def lines (l : Listing) (addrs : List IfAddr) (iface : String) : List (List String) :=
  match addrs.filter (·.iface = iface) with
  | [] => []
  | a :: rest =>
    ([s!"{l.index iface}:", s!"{iface}:"] ++ l.link iface) ::
      ((a :: rest).flatMap l.addrLines ++ [[]])

/-- The output of `ip -4 addr show dev iface`. -/
def output (l : Listing) (addrs : List IfAddr) (iface : String) : String :=
  Text.joinWith '\n' ((l.lines addrs iface).map (Text.joinWith ' '))

/-- `ip_exists_on_iface`. -/
def ipExistsOnIface (l : Listing) (addrs : List IfAddr) (iface ip : String) : Bool :=
  Text.contains ip (l.output addrs iface)

/-- A text is a part of what the listing shows of an address. -/
def Shows (l : Listing) (ip : String) (a : IfAddr) : Prop :=
  ip.toList <:+: a.ip.toList ∨ (∃ brd ∈ l.brd a, ip.toList <:+: brd.toList) ∨
    ip.toList <:+: a.iface.toList

/-- Another address of the interface shows the text of an address. -/
def Collides (l : Listing) (addrs : List IfAddr) (iface ip : String) : Prop :=
  ∃ a ∈ addrs, a.iface = iface ∧ a.ip ≠ ip ∧ l.Shows ip a

end Listing

/-- The network with the presence test on a listing. -/
def Net.listed (net : Net) (l : Listing) : Net := { net with existsOnIface := l.ipExistsOnIface }

section Finds

variable {l : Listing} {x : BitVec 32}

/-- A word without dots does not show an address. -/
theorem not_infix_of_no_dot {word : String} (hword : '.' ∉ word.toList) :
    ¬(Text.formatIpv4 x).toList <:+: word.toList :=
  fun hpart => hword (hpart.subset (Text.dot_mem_formatIpv4 x))

/-- A separator is no part of an address. -/
theorem sep_notMem_formatIpv4 {sep : Char} (hdigit : sep.isDigit = false) (hdot : sep ≠ '.') :
    sep ∉ (Text.formatIpv4 x).toList := by
  intro hsep
  rcases Text.of_mem_formatIpv4 hsep with h | h
  · exact absurd (hdigit.symm.trans h) Bool.false_ne_true
  · exact hdot h

/-- An address is found in the words of the output. -/
theorem Listing.ipExistsOnIface_iff_words {addrs : List IfAddr} {iface : String} :
    l.ipExistsOnIface addrs iface (Text.formatIpv4 x) = true ↔
      ∃ line ∈ l.lines addrs iface, ∃ word ∈ line,
        (Text.formatIpv4 x).toList <:+: word.toList := by
  have hne : (Text.formatIpv4 x).toList ≠ [] := List.ne_nil_of_mem (Text.dot_mem_formatIpv4 x)
  have hbreak : '\n' ∉ (Text.formatIpv4 x).toList := sep_notMem_formatIpv4 (by decide) (by decide)
  have hblank : ' ' ∉ (Text.formatIpv4 x).toList := sep_notMem_formatIpv4 (by decide) (by decide)
  rw [Listing.ipExistsOnIface, Text.contains_iff, Listing.output,
    Text.infix_joinWith_iff hbreak hne]
  simp only [List.mem_map, exists_exists_and_eq_and, Text.infix_joinWith_iff hblank hne]

/-- The words of an address show its texts. -/
theorem Listing.exists_addrLines_iff {a : IfAddr} :
    (∃ line ∈ l.addrLines a, ∃ word ∈ line, (Text.formatIpv4 x).toList <:+: word.toList) ↔
      l.Shows (Text.formatIpv4 x) a := by
  have hslash : '/' ∉ (Text.formatIpv4 x).toList := sep_notMem_formatIpv4 (by decide) (by decide)
  have hcidr : (Text.formatIpv4 x).toList <:+: (s!"{a.ip}/{a.prefixLen}").toList ↔
      (Text.formatIpv4 x).toList <:+: a.ip.toList := by
    have htext : (s!"{a.ip}/{a.prefixLen}").toList =
        a.ip.toList ++ '/' :: (toString a.prefixLen.val).toList := by
      simp [toString]
    rw [htext, Text.infix_append_cons_iff hslash]
    exact or_iff_left (not_infix_of_no_dot (Text.not_mem_toString (by decide) _))
  have hflags : ¬∃ word ∈ l.flags a, (Text.formatIpv4 x).toList <:+: word.toList := by
    rintro ⟨word, hword, hpart⟩
    refine not_infix_of_no_dot (l.no_dot a.iface a word ?_) hpart
    exact List.mem_append_left _ (List.mem_append_right _ hword)
  have hlifetime : ¬∃ word ∈ l.lifetime a, (Text.formatIpv4 x).toList <:+: word.toList := by
    rintro ⟨word, hword, hpart⟩
    exact not_infix_of_no_dot (l.no_dot a.iface a word (List.mem_append_right _ hword)) hpart
  have hempty : ¬(Text.formatIpv4 x).toList <:+: "".toList := not_infix_of_no_dot (by decide)
  have hinet : ¬(Text.formatIpv4 x).toList <:+: "inet".toList := not_infix_of_no_dot (by decide)
  have hbrd : ¬(Text.formatIpv4 x).toList <:+: "brd".toList := not_infix_of_no_dot (by decide)
  have hscope : ¬(Text.formatIpv4 x).toList <:+: "scope".toList := not_infix_of_no_dot (by decide)
  have hglobal : ¬(Text.formatIpv4 x).toList <:+: "global".toList :=
    not_infix_of_no_dot (by decide)
  rw [Listing.addrLines, Listing.Shows]
  cases l.brd a <;>
    simp only [List.mem_cons, List.mem_append, List.not_mem_nil, or_and_right, exists_or,
      exists_eq_left, hcidr, hflags, hlifetime, hempty, hinet, hbrd, hscope, hglobal, false_or,
      or_false, false_and, exists_false, Option.mem_def, Option.some.injEq, exists_eq_left',
      reduceCtorEq, or_assoc]

/-- The words of the first line show an address only in the name of the interface. -/
theorem Listing.exists_header_iff {iface : String} :
    (∃ word ∈ [s!"{l.index iface}:", s!"{iface}:"] ++ l.link iface,
      (Text.formatIpv4 x).toList <:+: word.toList) ↔
        (Text.formatIpv4 x).toList <:+: iface.toList := by
  have hcolon : ':' ∉ (Text.formatIpv4 x).toList := sep_notMem_formatIpv4 (by decide) (by decide)
  have hempty : ¬(Text.formatIpv4 x).toList <:+: "".toList := not_infix_of_no_dot (by decide)
  have hname (name : String) : (Text.formatIpv4 x).toList <:+: (s!"{name}:").toList ↔
      (Text.formatIpv4 x).toList <:+: name.toList := by
    have htext : (s!"{name}:").toList = name.toList ++ ':' :: [] := String.toList_append
    rw [htext, Text.infix_append_cons_iff hcolon]
    exact or_iff_left hempty
  have hindex : ¬(Text.formatIpv4 x).toList <:+: (s!"{l.index iface}:").toList :=
    fun hpart => not_infix_of_no_dot (Text.not_mem_toString (by decide) _) ((hname _).mp hpart)
  have hlink : ¬∃ word ∈ l.link iface, (Text.formatIpv4 x).toList <:+: word.toList := by
    rintro ⟨word, hword, hpart⟩
    refine not_infix_of_no_dot (l.no_dot iface ⟨iface, "", 0⟩ word ?_) hpart
    exact List.mem_append_left _ (List.mem_append_left _ hword)
  simp only [List.mem_cons, List.mem_append, List.not_mem_nil, or_and_right, exists_or,
    exists_eq_left, hindex, hname, hlink, false_or, or_false]

/-- The test finds what is shown of an address of the interface. -/
theorem Listing.ipExistsOnIface_iff {addrs : List IfAddr} {iface : String} :
    l.ipExistsOnIface addrs iface (Text.formatIpv4 x) = true ↔
      ∃ a ∈ addrs, a.iface = iface ∧ l.Shows (Text.formatIpv4 x) a := by
  have hmem (a : IfAddr) : a ∈ addrs.filter (·.iface = iface) ↔ a ∈ addrs ∧ a.iface = iface := by
    rw [List.mem_filter, decide_eq_true_iff]
  rw [Listing.ipExistsOnIface_iff_words, Listing.lines]
  cases hown : addrs.filter (·.iface = iface) with
  | nil =>
    refine ⟨fun ⟨_, hline, _⟩ => absurd hline List.not_mem_nil, fun ⟨a, ha, hiface, _⟩ => ?_⟩
    exact absurd (hown ▸ (hmem _).mpr ⟨ha, hiface⟩) List.not_mem_nil
  | cons first rest =>
    rw [hown] at hmem
    constructor
    · rintro ⟨line, hline, hshown⟩
      rcases List.mem_cons.mp hline with rfl | hline
      · obtain ⟨hfirst, rfl⟩ := (hmem _).mp List.mem_cons_self
        exact ⟨first, hfirst, rfl, .inr (.inr (Listing.exists_header_iff.mp hshown))⟩
      · rcases List.mem_append.mp hline with hline | hline
        · obtain ⟨a, ha, hline⟩ := List.mem_flatMap.mp hline
          obtain ⟨ha, hiface⟩ := (hmem _).mp ha
          exact ⟨a, ha, hiface, Listing.exists_addrLines_iff.mp ⟨line, hline, hshown⟩⟩
        · obtain rfl := List.mem_singleton.mp hline
          obtain ⟨word, hword, -⟩ := hshown
          exact absurd hword List.not_mem_nil
    · rintro ⟨a, ha, hiface, hshows⟩
      obtain ⟨line, hline, hshown⟩ := Listing.exists_addrLines_iff.mpr hshows
      refine ⟨line, List.mem_cons_of_mem _ (List.mem_append_left _ ?_), hshown⟩
      exact List.mem_flatMap.mpr ⟨a, (hmem _).mpr ⟨ha, hiface⟩, hline⟩

/-- An address is found when it is on the interface or another one shows it. -/
theorem Listing.ipExistsOnIface_iff_has {h : Host} {iface : String} :
    l.ipExistsOnIface h.addrs iface (Text.formatIpv4 x) = true ↔
      h.Has iface (Text.formatIpv4 x) ∨ l.Collides h.addrs iface (Text.formatIpv4 x) := by
  rw [Listing.ipExistsOnIface_iff]
  constructor
  · rintro ⟨a, ha, hiface, hshows⟩
    by_cases hip : a.ip = Text.formatIpv4 x
    · exact .inl ⟨a, ha, hiface, hip⟩
    · exact .inr ⟨a, ha, hiface, hip, hshows⟩
  · rintro (⟨a, ha, hiface, hip⟩ | ⟨a, ha, hiface, -, hshows⟩)
    · exact ⟨a, ha, hiface, .inl (hip ▸ List.infix_refl _)⟩
    · exact ⟨a, ha, hiface, hshows⟩

end Finds

/-- The host after a delete command. -/
def Host.delete (h : Host) (iface ip : String) (p : Option ℕ) : Host :=
  { h with addrs := h.addrs.eraseP (IfAddr.Named iface ip p) }

section Deletes

variable {h : Host} {iface ip : String} {p : Option ℕ}

/-- A delete succeeds when it names an address of the host. -/
theorem runIpCmd_addrDel : runIpCmd false h (.addrDel iface ip p) =
    if h.addrs.any (IfAddr.Named iface ip p) = true then .ok (h.delete iface ip p)
    else .error (IpCmd.addrDel iface ip p).error := by
  rw [runIpCmd, if_neg Bool.false_ne_true, Host.run, Host.delete]
  by_cases hany : h.addrs.any (IfAddr.Named iface ip p) = true
  · rw [if_pos hany, if_pos hany]
  · rw [if_neg hany, if_neg hany]

/-- A delete that fails has nothing to take away. -/
theorem attemptIpCmd_addrDel :
    attemptIpCmd false h (.addrDel iface ip p) = h.delete iface ip p := by
  rw [attemptIpCmd, runIpCmd_addrDel]
  by_cases hany : h.addrs.any (IfAddr.Named iface ip p) = true
  · rw [if_pos hany]
  · rw [if_neg hany, Host.delete, List.eraseP_of_forall_not]
    exact fun a ha hnamed => hany (List.any_eq_true.mpr ⟨a, ha, hnamed⟩)

/-- An entry is named by its interface and its address. -/
theorem named_iff {a : IfAddr} :
    IfAddr.Named iface ip none a = true ↔ a.iface = iface ∧ a.ip = ip := by
  simp [IfAddr.Named]

/-- A delete names addresses of the text. -/
theorem named_of_named {a : IfAddr} (ha : IfAddr.Named iface ip p a = true) :
    IfAddr.Named iface ip none a = true := by
  rw [IfAddr.Named, Bool.and_eq_true] at ha
  rw [IfAddr.Named, ha.1]
  rfl

/-- The address is on the interface when a delete with any prefix names something. -/
theorem has_iff_any : h.Has iface ip ↔ h.addrs.any (IfAddr.Named iface ip none) = true := by
  rw [List.any_eq_true]
  simp only [Host.Has, named_iff]

/-- A delete keeps the other addresses, and with them the collisions. -/
theorem Listing.collides_delete {l : Listing} :
    l.Collides (h.delete iface ip p).addrs iface ip ↔ l.Collides h.addrs iface ip := by
  have hkept {a : IfAddr} (hip : a.ip ≠ ip) :
      a ∈ h.addrs.eraseP (IfAddr.Named iface ip p) ↔ a ∈ h.addrs :=
    List.mem_eraseP_of_neg fun hnamed => hip (named_iff.mp (named_of_named hnamed)).2
  constructor
  · rintro ⟨a, ha, hiface, hip, hshows⟩
    exact ⟨a, (hkept hip).mp ha, hiface, hip, hshows⟩
  · rintro ⟨a, ha, hiface, hip, hshows⟩
    exact ⟨a, (hkept hip).mpr ha, hiface, hip, hshows⟩

/-- After a delete an address is there only if it was there before. -/
theorem Host.Has.of_delete (hhas : (h.delete iface ip p).Has iface ip) : h.Has iface ip := by
  obtain ⟨a, ha, hiface, hip⟩ := hhas
  exact ⟨a, List.mem_of_mem_eraseP ha, hiface, hip⟩

/-- Taking one away leaves one just if there were two. -/
theorem any_eraseP {α : Type} {f : α → Bool} {xs : List α} :
    (xs.eraseP f).any f = true ↔ 2 ≤ xs.countP f := by
  induction xs with
  | nil => simp
  | cons a rest ih =>
    cases hf : f a with
    | true =>
      rw [List.eraseP_cons_of_pos hf, List.countP_cons_of_pos hf, List.any_eq_true]
      rw [← List.countP_pos_iff]
      omega
    | false =>
      have hneg : ¬f a = true := ne_true_of_eq_false hf
      rw [List.eraseP_cons_of_neg hneg, List.countP_cons_of_neg hneg, List.any_cons, hf,
        Bool.false_or, ih]

/-- In a list without repetitions, taking the only one of a kind away is filtering. -/
theorem eraseP_eq_filter {α : Type} {f : α → Bool} {xs : List α} (hnodup : xs.Nodup)
    (hunique : ∀ a ∈ xs, ∀ b ∈ xs, f a = true → f b = true → a = b) :
    xs.eraseP f = xs.filter fun a => !f a := by
  induction xs with
  | nil => rfl
  | cons a rest ih =>
    obtain ⟨hnotMem, hrest⟩ := List.nodup_cons.mp hnodup
    cases hf : f a with
    | true =>
      rw [List.eraseP_cons_of_pos hf, List.filter_cons_of_neg (by simp [hf])]
      refine (List.filter_eq_self.mpr fun b hb => ?_).symm
      cases hfb : f b with
      | true =>
        have heq := hunique a List.mem_cons_self b (List.mem_cons_of_mem _ hb) hf hfb
        exact absurd (heq ▸ hb) hnotMem
      | false => rfl
    | false =>
      rw [List.eraseP_cons_of_neg (by simp [hf]), List.filter_cons_of_pos (by simp [hf])]
      rw [ih hrest fun a ha b hb => hunique a (List.mem_cons_of_mem _ ha) b
        (List.mem_cons_of_mem _ hb)]

/-- The entries of an address on an interface with another prefix length. -/
def Host.others (h : Host) (iface ip : String) (p : ℕ) : ℕ :=
  h.addrs.countP fun a => a.iface = iface && a.ip = ip && a.prefixLen.val ≠ p

/-- What is left of an address after both deletes. -/
theorem has_delete_delete {p : ℕ} (hset : h.addrs.Nodup) :
    ((h.delete iface ip (some p)).delete iface ip none).Has iface ip ↔
      2 ≤ h.others iface ip p := by
  have hunique : ∀ a ∈ h.addrs, ∀ b ∈ h.addrs, IfAddr.Named iface ip (some p) a = true →
      IfAddr.Named iface ip (some p) b = true → a = b := by
    rintro ⟨_, _, q⟩ - ⟨_, _, q'⟩ - ha hb
    simp only [IfAddr.Named, Option.all_some, Bool.and_eq_true, decide_eq_true_eq] at ha hb
    obtain ⟨⟨rfl, rfl⟩, hq⟩ := ha
    obtain ⟨⟨rfl, rfl⟩, hq'⟩ := hb
    rw [Fin.ext (hq.trans hq'.symm)]
  rw [has_iff_any, Host.delete, any_eraseP, Host.delete, eraseP_eq_filter hset hunique,
    List.countP_filter, Host.others]
  have hcount (a : IfAddr) :
      (IfAddr.Named iface ip none a && !IfAddr.Named iface ip (some p) a) =
        (a.iface = iface && a.ip = ip && a.prefixLen.val ≠ p) := by
    simp only [IfAddr.Named, Option.all_none, Option.all_some, Bool.and_true]
    cases decide (a.iface = iface) <;> cases decide (a.ip = ip) <;> simp
  simp only [hcount]

end Deletes

/-- The operations that rest on the presence test do what they say for an address: adding
it puts it on the interface, and removing it succeeds just if it is gone. -/
structure ActsExactly (net : Net) (h : Host) (iface ip : String) (p : ℕ) : Prop where
  /-- `add_secondary_ip` for an address without an entry in the list. -/
  add : ∀ (m : IpJumpManager) (netmask : String) (q : Fin 33) (tick : ℕ), m.host = h →
    (∀ e ∈ m.secondaryIps, ¬e.IsFor iface ip) →
      (addSecondaryIp net false m iface ip netmask q tick).2 = .ok () →
        (addSecondaryIp net false m iface ip netmask q tick).1.host.Has iface ip
  /-- `try_remove_ip_from_system` with a prefix length. -/
  remove : (tryRemoveIpFromSystem net false false h iface ip p).2 = .ok () ↔
    ¬(tryRemoveIpFromSystem net false false h iface ip p).1.Has iface ip

section Operations

variable {net : Net} {l : Listing} {h : Host} {iface : String} {x : BitVec 32} {p : ℕ}

/-- The test finds an address that is on the interface or that another one shows. -/
theorem existsOnIface_eq_true :
    (net.listed l).existsOnIface h.addrs iface (Text.formatIpv4 x) = true ↔
      h.Has iface (Text.formatIpv4 x) ∨ l.Collides h.addrs iface (Text.formatIpv4 x) :=
  Listing.ipExistsOnIface_iff_has

/-- The test fails when the address is not on the interface and not shown. -/
theorem existsOnIface_eq_false :
    (net.listed l).existsOnIface h.addrs iface (Text.formatIpv4 x) = false ↔
      ¬h.Has iface (Text.formatIpv4 x) ∧ ¬l.Collides h.addrs iface (Text.formatIpv4 x) := by
  rw [← not_or, ← existsOnIface_eq_true, Bool.not_eq_true]

/-- Removing an address that another one shows never succeeds, and takes two entries away. -/
theorem tryRemoveIpFromSystem_of_collides (net : Net) (p : ℕ)
    (hcollides : l.Collides h.addrs iface (Text.formatIpv4 x)) :
    let result := tryRemoveIpFromSystem (net.listed l) false false h iface (Text.formatIpv4 x) p
    result.2 ≠ .ok () ∧ (result.1.Has iface (Text.formatIpv4 x) ↔
      ((h.delete iface (Text.formatIpv4 x) (some p)).delete iface (Text.formatIpv4 x) none).Has
        iface (Text.formatIpv4 x)) := by
  have hfound {g : Host} (hg : l.Collides g.addrs iface (Text.formatIpv4 x)) :
      ¬(net.listed l).existsOnIface g.addrs iface (Text.formatIpv4 x) = false :=
    fun hnone => (existsOnIface_eq_false.mp hnone).2 hg
  have hfirst := Listing.collides_delete (p := some p) |>.mpr hcollides
  have hsecond := Listing.collides_delete (p := none) |>.mpr hfirst
  dsimp only
  rw [tryRemoveIpFromSystem, if_neg (hfound hcollides), attemptIpCmd_addrDel]
  dsimp only
  rw [if_neg (hfound hfirst), runIpCmd_addrDel]
  by_cases hany : (h.delete iface (Text.formatIpv4 x) (some p)).addrs.any
      (IfAddr.Named iface (Text.formatIpv4 x) none) = true
  · rw [if_pos hany]
    dsimp only
    rw [if_neg (hfound hsecond)]
    exact ⟨(fun hok => by cases hok), Iff.rfl⟩
  · rw [if_neg hany]
    refine ⟨(fun hok => by cases hok), fun hhas => ?_, Host.Has.of_delete⟩
    exact absurd (has_iff_any.mp hhas) hany

/-- Removing an address that no other one shows succeeds just if it is gone. -/
theorem tryRemoveIpFromSystem_of_not_collides
    (hcollides : ¬l.Collides h.addrs iface (Text.formatIpv4 x)) :
    (tryRemoveIpFromSystem (net.listed l) false false h iface (Text.formatIpv4 x) p).2 = .ok () ↔
      ¬(tryRemoveIpFromSystem (net.listed l) false false h iface (Text.formatIpv4 x) p).1.Has
        iface (Text.formatIpv4 x) := by
  have hfound {g : Host} (hg : ¬l.Collides g.addrs iface (Text.formatIpv4 x)) :
      (net.listed l).existsOnIface g.addrs iface (Text.formatIpv4 x) = false ↔
        ¬g.Has iface (Text.formatIpv4 x) :=
    existsOnIface_eq_false.trans (and_iff_left hg)
  have hfirst := mt (Listing.collides_delete (p := some p)).mp hcollides
  have hsecond := mt (Listing.collides_delete (p := none)).mp hfirst
  rw [tryRemoveIpFromSystem, attemptIpCmd_addrDel]
  split
  · next habsent => exact iff_of_true rfl ((hfound hcollides).mp habsent)
  · dsimp only
    split
    · next habsent => exact iff_of_true rfl ((hfound hfirst).mp habsent)
    · next hthere =>
      have hany := has_iff_any.mp (not_not.mp (mt (hfound hfirst).mpr hthere))
      rw [runIpCmd_addrDel, if_pos hany]
      dsimp only
      split
      · next habsent => exact iff_of_true rfl ((hfound hsecond).mp habsent)
      · next hthere => exact iff_of_false (fun hok => by cases hok) (mt (hfound hsecond).mpr hthere)

/-- An address that the test finds is not added. -/
theorem addSecondaryIp_of_found {ip netmask : String} {m : IpJumpManager} {q : Fin 33} {tick : ℕ}
    (hlist : ∀ e ∈ m.secondaryIps, ¬e.IsFor iface ip)
    (hfound : net.existsOnIface m.host.addrs iface ip = true) :
    addSecondaryIp net false m iface ip netmask q tick =
      ({ m with secondaryIps := m.secondaryIps ++ [⟨iface, ip, netmask, q, tick⟩] }, .ok ()) := by
  rw [addSecondaryIp, refreshTick_eq_none.mpr hlist]
  exact if_pos hfound

/-- An address that the test finds but that is not there stays away. -/
theorem not_actsExactly_of_found {ip : String} {m : IpJumpManager}
    (hlist : ∀ e ∈ m.secondaryIps, ¬e.IsFor iface ip)
    (hfound : net.existsOnIface m.host.addrs iface ip = true) (hhas : ¬m.host.Has iface ip) :
    ¬ActsExactly net m.host iface ip p := by
  intro hexact
  have hadded := hexact.add m "" 0 0 rfl hlist
  rw [addSecondaryIp_of_found hlist hfound] at hadded
  exact hhas (hadded rfl)

/-- Adding an address that no other one shows, or that is there already, puts it on the
interface. -/
theorem has_addSecondaryIp {m : IpJumpManager} {netmask : String} {q : Fin 33} {tick : ℕ}
    (hshown : m.host.Has iface (Text.formatIpv4 x) ∨
      ¬l.Collides m.host.addrs iface (Text.formatIpv4 x))
    (hlist : ∀ e ∈ m.secondaryIps, ¬e.IsFor iface (Text.formatIpv4 x)) :
    (addSecondaryIp (net.listed l) false m iface (Text.formatIpv4 x) netmask q tick).1.host.Has
      iface (Text.formatIpv4 x) := by
  by_cases hfound :
      (net.listed l).existsOnIface m.host.addrs iface (Text.formatIpv4 x) = true
  · rw [addSecondaryIp_of_found hlist hfound]
    exact hshown.elim id fun hnot => (existsOnIface_eq_true.mp hfound).resolve_right hnot
  · obtain ⟨hhas, -⟩ := existsOnIface_eq_false.mp (eq_false_of_ne_true hfound)
    have hadd : m.host.run (.addrAdd ⟨iface, Text.formatIpv4 x, q⟩) = _ :=
      Host.run_addrAdd.mpr ⟨fun hmem => hhas ⟨_, hmem, rfl, rfl⟩, rfl⟩
    rw [addSecondaryIp, refreshTick_eq_none.mpr hlist]
    dsimp only
    rw [if_neg hfound, runIpCmd_eq_ok.mpr ⟨rfl, hadd⟩]
    exact ⟨_, List.mem_append_right _ List.mem_cons_self, rfl, rfl⟩

/-- **Address presence tests are exact.** The two operations act exactly on an address just
if no other address of the interface shows its text, or two entries of the address with
other prefix lengths than the one to be deleted are on the interface. -/
theorem actsExactly_iff (hset : h.addrs.Nodup) :
    ActsExactly (net.listed l) h iface (Text.formatIpv4 x) p ↔
      ¬l.Collides h.addrs iface (Text.formatIpv4 x) ∨ 2 ≤ h.others iface (Text.formatIpv4 x) p := by
  rw [← has_delete_delete hset]
  constructor
  · intro hexact
    by_cases hcollides : l.Collides h.addrs iface (Text.formatIpv4 x)
    · obtain ⟨hfails, hleft⟩ := tryRemoveIpFromSystem_of_collides net p hcollides
      exact .inr (hleft.mp (not_not.mp (mt hexact.remove.mpr hfails)))
    · exact .inl hcollides
  · intro hcondition
    refine ⟨fun m netmask q tick hhost hlist _ => has_addSecondaryIp ?_ hlist, ?_⟩
    · rw [hhost]
      exact hcondition.symm.imp_left fun hleft => hleft.of_delete.of_delete
    · by_cases hcollides : l.Collides h.addrs iface (Text.formatIpv4 x)
      · obtain ⟨hfails, hleft⟩ := tryRemoveIpFromSystem_of_collides net p hcollides
        have hhas := hleft.mpr (hcondition.resolve_left (not_not.mpr hcollides))
        exact iff_of_false hfails (not_not.mpr hhas)
      · exact tryRemoveIpFromSystem_of_not_collides hcollides

end Operations

/-- The listing of an interface with the network `10.0.0.0/24`. -/
def lan : Listing where
  brd := fun _ => some "10.0.0.255"
  index := fun _ => 2
  link := fun _ => ["<BROADCAST,MULTICAST,UP,LOWER_UP>", "mtu", "1500", "state", "UP"]
  flags := fun _ => []
  lifetime := fun _ => ["valid_lft", "forever", "preferred_lft", "forever"]
  no_dot := fun _ _ => by decide

/-- The address `10.0.0.7` beside `10.0.0.5`. -/
theorem actsExactly_lan : ActsExactly (Net.dotted.listed lan)
    ⟨[⟨"eth0", "10.0.0.5", 24⟩, ⟨"eth0", "10.0.0.7", 24⟩], none⟩ "eth0"
    (Text.formatIpv4 0x0a000007) 24 := by
  have hip : Text.formatIpv4 0x0a000007 = "10.0.0.7" := rfl
  refine (actsExactly_iff (by decide)).mpr (.inl ?_)
  rintro ⟨a, ha, -, hne, hshows⟩
  simp only [Listing.Shows, hip, ← Text.contains_iff] at hne hshows
  simp only [List.mem_cons, List.not_mem_nil, or_false] at ha
  rcases ha with rfl | rfl
  · exact absurd hshows (by decide)
  · exact hne rfl

/-- Beside `10.0.0.10` the address `10.0.0.1` is taken to be there: it is put on the list
but not on the interface. -/
theorem address_in_another_not_added :
    let h : Host := ⟨[⟨"eth0", "10.0.0.10", 24⟩], none⟩
    let m := IpJumpManager.new "eth0" h
    let net := Net.dotted.listed lan
    let ip := Text.formatIpv4 0x0a000001
    addSecondaryIp net false m "eth0" ip "255.255.255.0" 24 1 =
        ({ m with secondaryIps := [⟨"eth0", ip, "255.255.255.0", 24, 1⟩] }, .ok ()) ∧
      ¬h.Has "eth0" ip ∧ ¬ActsExactly net h "eth0" ip 24 := by
  intro h m net ip
  have hip : ip = "10.0.0.1" := rfl
  have hhas : ¬h.Has "eth0" ip := by
    rintro ⟨a, ha, -, haddr⟩
    obtain rfl := List.mem_singleton.mp ha
    exact absurd (haddr.trans hip) (by decide)
  have hpart : ip.toList <:+: "10.0.0.10".toList := by
    rw [hip]
    exact ⟨[], ['0'], rfl⟩
  have hcollides : lan.Collides h.addrs "eth0" ip :=
    ⟨_, List.mem_cons_self, rfl, fun heq => hhas ⟨_, List.mem_cons_self, rfl, heq⟩, .inl hpart⟩
  have hfound : net.existsOnIface h.addrs "eth0" ip = true :=
    (@existsOnIface_eq_true Net.dotted lan h "eth0" 0x0a000001).mpr (.inr hcollides)
  have hlist : ∀ e ∈ m.secondaryIps, ¬e.IsFor "eth0" ip := fun _ he => absurd he List.not_mem_nil
  refine ⟨?_, hhas, not_actsExactly_of_found hlist hfound hhas⟩
  exact addSecondaryIp_of_found hlist hfound

end LinuxAgent.IpJump
