import LinuxAgent.IpJump.NetplanSearch

/-!
# What the netplan update changes

A file is followed line by line through the update: the text of the first line with a list
is changed, and then that of the first line with a gateway. Whether other interfaces are
left alone is decided by whose these two lines are.
-/

namespace LinuxAgent.IpJump

/-- Change the first element of a kind. -/
def modifyFirst {α : Type} (p : α → Bool) (g : α → α) : List α → List α
  | [] => []
  | a :: rest => if p a then g a :: rest else a :: modifyFirst p g rest

section ModifyFirst

variable {α β : Type} {p : α → Bool} {g : α → α} {a : α} {before after xs : List α}

/-- The first element of the kind is known. -/
theorem modifyFirst_append (hbefore : ∀ x ∈ before, p x = false) (ha : p a = true) :
    modifyFirst p g (before ++ a :: after) = before ++ g a :: after := by
  induction before with
  | nil => exact if_pos ha
  | cons x before ih =>
    obtain ⟨hx, hbefore⟩ := List.forall_mem_cons.mp hbefore
    rw [List.cons_append, modifyFirst, if_neg (ne_true_of_eq_false hx), ih hbefore,
      List.cons_append]

/-- There is no element of the kind. -/
theorem modifyFirst_of_none (hxs : ∀ x ∈ xs, p x = false) : modifyFirst p g xs = xs := by
  induction xs with
  | nil => rfl
  | cons x xs ih =>
    obtain ⟨hx, hxs⟩ := List.forall_mem_cons.mp hxs
    rw [modifyFirst, if_neg (ne_true_of_eq_false hx), ih hxs]

/-- What the change leaves alone stays. -/
theorem map_modifyFirst {f : α → β} (hf : ∀ x, f (g x) = f x) (xs : List α) :
    (modifyFirst p g xs).map f = xs.map f := by
  induction xs with
  | nil => rfl
  | cons x xs ih =>
    rw [modifyFirst]
    split
    · rw [List.map_cons, List.map_cons, hf]
    · rw [List.map_cons, List.map_cons, ih]

/-- Something holds of all elements after a change, if it held of those that can be changed. -/
theorem forall_mem_modifyFirst {R : α → Prop} (hp : ∀ x ∈ xs, p x = true → R x) :
    (∀ x ∈ modifyFirst p g xs, R x) ↔ (∀ x ∈ xs.find? p, R (g x)) ∧ ∀ x ∈ xs, R x := by
  induction xs with
  | nil => simp [modifyFirst]
  | cons x xs ih =>
    obtain ⟨hx, hxs⟩ := List.forall_mem_cons.mp hp
    rw [modifyFirst]
    by_cases hpx : p x = true
    · rw [if_pos hpx, List.find?_cons_of_pos hpx, List.forall_mem_cons, List.forall_mem_cons]
      simp only [Option.mem_def, Option.some.injEq, forall_eq', hx hpx, true_and]
    · rw [if_neg hpx, List.find?_cons_of_neg hpx, List.forall_mem_cons, List.forall_mem_cons,
        ih hxs]
      exact and_left_comm

end ModifyFirst

/-- A line of a file, whether it may change with the interface, and its present text. -/
structure Entry where
  line : Line
  own : Bool
  text : String

namespace Entry

/-- The entry can be searched for a gateway: it is the line of one, or not like one. -/
structure Readable (e : Entry) : Prop where
  no_break : '\n' ∉ e.text.toList
  gateway : e.line.isGateway = true → e.line.WellFormed ∧ e.text = e.line.text
  other : e.line.isGateway = false → ¬GatewayLike e.text.toList

/-- No blank line stands before a gateway. -/
def Spaced (e next : Entry) : Prop := Text.isBlank e.text = true → next.line.isGateway = false

/-- The first list is rewritten. -/
def rewriteFirst (source primary : BitVec 32) : List Entry → List Entry :=
  modifyFirst (·.line.isAddresses) fun e => { e with text := e.line.rewritten source primary }

/-- The first gateway is replaced. -/
def rerouteFirst (gw : String) : List Entry → List Entry :=
  modifyFirst (·.line.isGateway) fun e => { e with text := e.line.rerouted gw }

/-- The text of a file. -/
def render (entries : List Entry) : String := Text.joinWith '\n' (entries.map Entry.text)

end Entry

section Steps

variable {entries : List Entry}

/-- The first gateway of a file, or nothing, is replaced. -/
theorem replace_gwRe_render (gw : String) (hread : ∀ e ∈ entries, e.Readable)
    (hspaced : entries.IsChain Entry.Spaced) :
    (if (Regex.captures gwRe (Entry.render entries)).isSome then
        Regex.replace gwRe (fun _ => []) s!"      gateway4: {gw}" (Entry.render entries)
      else Entry.render entries) = Entry.render (Entry.rerouteFirst gw entries) := by
  cases hfind : entries.find? (·.line.isGateway) with
  | none =>
    have hno : ∀ e ∈ entries, e.line.isGateway = false := by simpa using hfind
    have hcaptures : Regex.captures gwRe (Entry.render entries) = none := by
      refine captures_gwRe_eq_none (List.forall_mem_map.mpr fun e he => ?_)
      exact ⟨(hread e he).no_break, (hread e he).other (hno e he)⟩
    rw [hcaptures, Entry.rerouteFirst, modifyFirst_of_none hno]
    rfl
  | some e =>
    obtain ⟨hkind, before, after, rfl, hbefore⟩ := List.find?_eq_some_iff_append.mp hfind
    have hbefore : ∀ e ∈ before, e.line.isGateway = false := by simpa using hbefore
    obtain ⟨hbefores, hread⟩ := List.forall_mem_append.mp hread
    obtain ⟨hbreak, hline, -⟩ := hread e List.mem_cons_self
    obtain ⟨hwell, htext⟩ := hline hkind
    have hlast : ∀ text ∈ (before.map Entry.text).getLast?, Text.isBlank text = false := by
      rw [List.getLast?_map]
      intro text htext
      obtain ⟨prior, hprior, rfl⟩ := Option.map_eq_some_iff.mp htext
      have hnext := (List.isChain_append.mp hspaced).2.2 prior hprior e rfl
      exact eq_false_of_ne_true fun hblank => absurd (hnext hblank ▸ hkind) Bool.false_ne_true
    have htexts : ∀ text ∈ before.map Entry.text, '\n' ∉ text.toList ∧ ¬GatewayLike text.toList :=
      List.forall_mem_map.mpr fun e he =>
        ⟨(hbefores e he).no_break, (hbefores e he).other (hbefore e he)⟩
    rw [Entry.rerouteFirst, modifyFirst_append hbefore hkind]
    obtain ⟨line, own, text⟩ := e
    cases line with
    | addresses own' pre gap list tail => exact absurd hkind Bool.false_ne_true
    | plain text' => exact absurd hkind Bool.false_ne_true
    | gateway indent gap value =>
      obtain rfl : text = (Line.gateway indent gap value).text := htext
      obtain ⟨found, hfound, hreplace⟩ := @replace_gwRe _ (after.map Entry.text) _ _ _ htexts hlast
        hwell hbreak s!"      gateway4: {gw}"
      rw [Entry.render, List.map_append, List.map_cons, hfound, Option.isSome_some, if_pos rfl,
        hreplace, Entry.render, List.map_append, List.map_cons]
      rfl

/-- A line without a list has no key of one. -/
theorem Line.WellFormed.no_key {l : Line} (h : l.WellFormed) (hkind : l.isAddresses = false) :
    ¬"addresses:".toList <:+: l.text.toList := by
  cases l with
  | addresses own pre gap list tail => cases hkind
  | gateway indent gap value => exact h.2.2.2
  | plain text => exact h.1

/-- The first list of a file is rewritten. -/
theorem replace_addrRe_render (source primary : BitVec 32)
    (hlines : ∀ e ∈ entries, e.line.WellFormed ∧ e.text = e.line.text) {e : Entry}
    (hfirst : entries.find? (·.line.isAddresses) = some e) :
    ∃ found, Regex.captures addrRe (Entry.render entries) = some found ∧
      Regex.replace addrRe (fun m => [addrGroup m])
          s!"addresses: [{newAddrList source primary (String.ofList (addrGroup found.2))}]"
          (Entry.render entries) =
        Entry.render (Entry.rewriteFirst source primary entries) := by
  obtain ⟨hkind, before, after, rfl, hbefore⟩ := List.find?_eq_some_iff_append.mp hfirst
  have hbefore : ∀ e ∈ before, e.line.isAddresses = false := by simpa using hbefore
  obtain ⟨hbefores, hlines⟩ := List.forall_mem_append.mp hlines
  obtain ⟨hwell, htext⟩ := hlines e List.mem_cons_self
  have htexts : ∀ text ∈ before.map Entry.text, ¬"addresses:".toList <:+: text.toList := by
    refine List.forall_mem_map.mpr fun e he => ?_
    rw [(hbefores e he).2]
    exact (hbefores e he).1.no_key (hbefore e he)
  rw [Entry.rewriteFirst, modifyFirst_append hbefore hkind]
  obtain ⟨line, own, text⟩ := e
  cases line with
  | plain text' => exact absurd hkind Bool.false_ne_true
  | gateway indent gap value => exact absurd hkind Bool.false_ne_true
  | addresses own' pre gap list tail =>
    obtain rfl : text = (Line.addresses own' pre gap list tail).text := htext
    obtain ⟨found, hfound, hgroup, hreplace⟩ :=
      @replace_addrRe _ (after.map Entry.text) own' _ _ _ _ htexts hwell
    rw [Entry.render, List.map_append, List.map_cons]
    refine ⟨found, hfound, ?_⟩
    rw [hreplace, hgroup, String.ofList_toList, Entry.render, List.map_append, List.map_cons]
    rfl

/-- A file without lists has no match. -/
theorem captures_addrRe_render
    (hlines : ∀ e ∈ entries, e.line.WellFormed ∧ e.text = e.line.text)
    (hnone : ∀ e ∈ entries, e.line.isAddresses = false) :
    Regex.captures addrRe (Entry.render entries) = none := by
  refine find_addrRe_eq_none ?_
  rw [Entry.render, Text.infix_joinWith_iff (by decide) (by decide)]
  rintro ⟨text, htext, hpart⟩
  obtain ⟨e, he, rfl⟩ := List.mem_map.mp htext
  rw [(hlines e he).2] at hpart
  exact (hlines e he).1.no_key (hnone e he) hpart

end Steps

/-- The lines of a file with their texts. -/
def Layout.entries (f : Layout) (iface : String) : List Entry :=
  (f.marked iface).map fun l => ⟨l.1, l.2, l.1.text⟩

/-- The lines of a file after the update. -/
def Layout.updated (f : Layout) (iface : String) (source primary : BitVec 32) :
    Option String → List Entry
  | none => Entry.rewriteFirst source primary (f.entries iface)
  | some gw => Entry.rerouteFirst gw (Entry.rewriteFirst source primary (f.entries iface))

section Update

variable {f : NetplanFile} {iface : String} {source primary : BitVec 32} {entries : List Entry}

/-- The marks are beside the lines of the file. -/
theorem Layout.map_fst_marked (f : Layout) (iface : String) :
    (f.marked iface).map Prod.fst = f.lines := by
  rw [Layout.marked, Layout.lines, List.map_append, List.map_map, List.map_flatMap]
  refine congrArg₂ (· ++ ·) rfl (List.flatMap_congr fun s _ => ?_)
  rw [List.map_map]
  exact List.map_id _

/-- The entries make up the text of the file. -/
theorem Layout.render_entries (f : Layout) (iface : String) :
    Entry.render (f.entries iface) = f.render := by
  rw [Entry.render, Layout.entries, List.map_map, Layout.render, ← f.map_fst_marked iface,
    List.map_map]
  rfl

/-- The lines of a file are what they say. -/
theorem NetplanFile.of_mem_entries {e : Entry} (he : e ∈ f.entries iface) :
    (e.line.WellFormed ∧ '\n' ∉ e.line.text.toList) ∧ e.text = e.line.text := by
  obtain ⟨l, hl, rfl⟩ := List.mem_map.mp he
  have hmem : l.1 ∈ f.lines := by
    rw [← f.map_fst_marked iface]
    exact List.mem_map_of_mem hl
  exact ⟨f.wellFormed l.1 hmem, rfl⟩

/-- A line that is as it says can be searched for a gateway. -/
theorem Entry.readable_of_wellFormed {e : Entry} (hwell : e.line.WellFormed)
    (hbreak : '\n' ∉ e.line.text.toList) (htext : e.text = e.line.text) : e.Readable := by
  refine ⟨htext ▸ hbreak, fun _ => ⟨hwell, htext⟩, fun hkind => ?_⟩
  rw [htext]
  obtain ⟨line, own, text⟩ := e
  cases line with
  | addresses own' pre gap list tail =>
    simp only [Line.text, String.toList_append, List.append_assoc]
    exact not_gatewayLike_key hwell.2.2.2 _
  | gateway indent gap value => cases hkind
  | plain text' => exact hwell.2

/-- So can the new line of a list. -/
theorem Entry.readable_rewritten {e : Entry} (hwell : e.line.WellFormed)
    (hbreak : '\n' ∉ e.line.text.toList) (hkind : e.line.isAddresses = true) :
    { e with text := e.line.rewritten source primary : Entry }.Readable ∧
      Text.isBlank (e.line.rewritten source primary) = false := by
  obtain ⟨line, own, text⟩ := e
  cases line with
  | gateway indent gap value => cases hkind
  | plain text' => cases hkind
  | addresses own' pre gap list tail =>
    obtain ⟨rest, hrest⟩ := exists_newAddrLine source primary gap list
    have htext : ((Line.addresses own' pre gap list tail).rewritten source primary).toList =
        pre.toList ++ ("addresses:".toList ++ (rest ++ tail.toList)) := by
      simp only [Line.rewritten, String.toList_append, hrest, List.append_assoc]
    refine ⟨⟨break_notMem_rewritten hbreak, fun hkind => ?_, fun _ => ?_⟩, ?_⟩
    · cases hkind
    · rw [htext]
      exact not_gatewayLike_key hwell.2.2.2 _
    · rw [Text.isBlank, htext]
      simp +decide

/-- The lines after the rewrite of the list can be searched for a gateway. -/
theorem NetplanFile.readable_rewriteFirst (f : NetplanFile) (iface : String)
    (source primary : BitVec 32) :
    ∀ e ∈ Entry.rewriteFirst source primary (f.entries iface), e.Readable := by
  have hread : ∀ e ∈ f.entries iface, e.Readable := fun e he =>
    have hentry := NetplanFile.of_mem_entries he
    Entry.readable_of_wellFormed hentry.1.1 hentry.1.2 hentry.2
  refine (forall_mem_modifyFirst fun e he _ => hread e he).mpr ⟨fun e hfirst => ?_, hread⟩
  have hentry := NetplanFile.of_mem_entries (List.mem_of_find?_eq_some hfirst)
  have hkind := List.find?_some hfirst
  exact (Entry.readable_rewritten hentry.1.1 hentry.1.2 hkind).1

/-- No blank line stands before a gateway. -/
theorem NetplanFile.isChain_entries (f : NetplanFile) (iface : String) :
    (f.entries iface).IsChain Entry.Spaced := by
  have hlines := f.spaced
  rw [← f.map_fst_marked iface, List.isChain_map] at hlines
  rw [Layout.entries, List.isChain_map]
  exact hlines

/-- The rewrite of the list makes no line blank. -/
theorem NetplanFile.isChain_rewriteFirst (f : NetplanFile) (iface : String)
    (source primary : BitVec 32) :
    (Entry.rewriteFirst source primary (f.entries iface)).IsChain Entry.Spaced := by
  have hchain := f.isChain_entries iface
  cases hfind : (f.entries iface).find? (·.line.isAddresses) with
  | none =>
    have hno : ∀ e ∈ f.entries iface, e.line.isAddresses = false := by simpa using hfind
    rwa [Entry.rewriteFirst, modifyFirst_of_none hno]
  | some e =>
    have hentry := NetplanFile.of_mem_entries (List.mem_of_find?_eq_some hfind)
    obtain ⟨hkind, before, after, heq, hbefore⟩ := List.find?_eq_some_iff_append.mp hfind
    have hbefore : ∀ e ∈ before, e.line.isAddresses = false := by simpa using hbefore
    have hblank := (@Entry.readable_rewritten source primary e hentry.1.1 hentry.1.2 hkind).2
    rw [heq] at hchain ⊢
    obtain ⟨hleft, hright, hmiddle⟩ := List.isChain_append.mp hchain
    rw [Entry.rewriteFirst, modifyFirst_append hbefore hkind]
    refine List.isChain_append.mpr ⟨hleft, ?_, ?_⟩
    · rw [List.isChain_cons] at hright ⊢
      exact ⟨fun next _ hline => absurd (hblank ▸ hline) Bool.false_ne_true, hright.2⟩
    · intro prior hprior next hnext
      obtain rfl := Option.some.inj hnext
      exact hmiddle prior hprior e rfl

/-- The text that the update gives a file. -/
theorem NetplanFile.updateContent_render (f : NetplanFile) (iface : String)
    (source primary : BitVec 32) (gw : Option String) :
    updateContent source primary gw f.render =
      if ((f.entries iface).find? (·.line.isAddresses)).isSome then
        .ok (Entry.render (f.updated iface source primary gw))
      else .error "addresses field not found" := by
  have hlines : ∀ e ∈ f.entries iface, e.line.WellFormed ∧ e.text = e.line.text :=
    fun e he => ⟨(NetplanFile.of_mem_entries he).1.1, (NetplanFile.of_mem_entries he).2⟩
  rw [← f.render_entries iface, updateContent]
  cases hfind : (f.entries iface).find? (·.line.isAddresses) with
  | none =>
    have hno : ∀ e ∈ f.entries iface, e.line.isAddresses = false := by simpa using hfind
    rw [captures_addrRe_render hlines hno]
    rfl
  | some e =>
    obtain ⟨found, hfound, hreplace⟩ := replace_addrRe_render source primary hlines hfind
    rw [hfound]
    dsimp only
    rw [hreplace]
    cases gw with
    | none => rfl
    | some gw =>
      have hstep := replace_gwRe_render gw (f.readable_rewriteFirst iface source primary)
        (f.isChain_rewriteFirst iface source primary)
      dsimp only
      rw [← apply_ite Except.ok, hstep]
      rfl

/-- The line of an entry, and whether it may change. -/
def Entry.key (e : Entry) : Line × Bool := (e.line, e.own)

/-- The entries stand in the marked lines. -/
theorem Layout.map_key_entries (f : Layout) (iface : String) :
    (f.entries iface).map Entry.key = f.marked iface := by
  rw [Layout.entries, List.map_map]
  exact List.map_id _

/-- The rewrite of the addresses leaves every line in its place. -/
theorem Entry.map_key_rewriteFirst (entries : List Entry) :
    (Entry.rewriteFirst source primary entries).map Entry.key = entries.map Entry.key := by
  refine map_modifyFirst (fun e => ?_) entries
  rfl

/-- The rewrite of the gateway leaves every line in its place. -/
theorem Entry.map_key_rerouteFirst (gw : String) (entries : List Entry) :
    (Entry.rerouteFirst gw entries).map Entry.key = entries.map Entry.key := by
  refine map_modifyFirst (fun e => ?_) entries
  rfl

/-- The update leaves every line in its place. -/
theorem Layout.map_key_updated (f : Layout) (iface : String) (source primary : BitVec 32)
    (gw : Option String) : (f.updated iface source primary gw).map Entry.key = f.marked iface := by
  cases gw with
  | none => rw [Layout.updated, Entry.map_key_rewriteFirst, f.map_key_entries]
  | some gw =>
    rw [Layout.updated, Entry.map_key_rerouteFirst, Entry.map_key_rewriteFirst, f.map_key_entries]

/-- What holds of the first line of a kind, read off its key. -/
theorem forall_find?_key {q : Line × Bool → Bool} {S : Line × Bool → Prop} :
    (∀ e ∈ entries.find? fun e => q e.key, S e.key) ↔
      ∀ l ∈ (entries.map Entry.key).find? q, S l := by
  rw [List.find?_map]
  simp only [Option.mem_def, Option.map_eq_some_iff, Function.comp_def]
  refine ⟨fun h l ⟨e, he, heq⟩ => heq ▸ h e he, fun h e he => h _ ⟨e, he, rfl⟩⟩

/-- The new line of a gateway has no line break. -/
theorem break_notMem_rerouted {l : Line} {gw : String} (hbreak : '\n' ∉ l.text.toList)
    (hgw : '\n' ∉ gw.toList) : '\n' ∉ (l.rerouted gw).toList := by
  rw [Line.rerouted, String.toList_ofList]
  intro hx
  rcases Regex.of_mem_expand hx with hx | hx | ⟨g, hg, hx⟩
  · exact absurd hx (by decide)
  · simp only [toString, String.toList_append, List.mem_append] at hx
    rcases hx with hx | hx
    · exact absurd hx (by decide)
    · exact hgw hx
  · obtain rfl := List.mem_singleton.mp hg
    exact hbreak hx

/-- Lines that are allowed have no line breaks. -/
theorem break_notMem_of_forall₂ {ls : List (Line × Bool)} {texts : List String}
    (h : List.Forall₂ Allowed ls texts) : ∀ text ∈ texts, '\n' ∉ text.toList := by
  induction h with
  | nil => exact fun _ htext => absurd htext List.not_mem_nil
  | cons hl _ ih => exact List.forall_mem_cons.mpr ⟨hl.1, ih⟩

/-- The new text differs only in the lines of the interface just if each of its lines does. -/
theorem touchesOnly_render {f : Layout} {entries : List Entry} (hne : entries ≠ [])
    (hkeys : entries.map Entry.key = f.marked iface)
    (hbreaks : ∀ e ∈ entries, '\n' ∉ e.text.toList) :
    f.TouchesOnly iface (Entry.render entries) ↔ ∀ e ∈ entries, Allowed e.key e.text := by
  have hforall : List.Forall₂ Allowed (f.marked iface) (entries.map Entry.text) ↔
      ∀ e ∈ entries, Allowed e.key e.text := by
    rw [← hkeys, List.forall₂_map_left_iff, List.forall₂_map_right_iff, List.forall₂_same]
  rw [← hforall]
  constructor
  · rintro ⟨texts, heq, hallowed⟩
    have hlength := hallowed.length_eq
    rw [← hkeys, List.length_map] at hlength
    have htexts : texts ≠ [] := by
      rintro rfl
      exact hne (List.length_eq_zero_iff.mp hlength)
    have hsame := Text.eq_of_joinWith_eq (mt List.map_eq_nil_iff.mp hne) htexts
      (List.forall_mem_map.mpr hbreaks) (break_notMem_of_forall₂ hallowed) heq
    rwa [hsame]
  · exact fun hallowed => ⟨_, rfl, hallowed⟩

/-- The update of a file is made for an interface: the first list of the file is its own or stays
as it is, and so is the first gateway, if there is a new one. A file without lists is not
updated. -/
def Layout.Targets (f : Layout) (iface : String) (source primary : BitVec 32)
    (gw : Option String) : Prop :=
  ∀ l ∈ (f.marked iface).find? (·.1.isAddresses),
    (l.2 = true ∨ l.1.rewritten source primary = l.1.text) ∧
      ∀ g ∈ gw, ∀ l' ∈ (f.marked iface).find? (·.1.isGateway),
        l'.2 = true ∨ l'.1.rerouted g = l'.1.text

/-- The new line of a list is allowed just if the list is the interface's own or the line is the
old one. -/
theorem allowed_rewritten {l : Line × Bool} (hkind : l.1.isAddresses = true)
    (hbreak : '\n' ∉ l.1.text.toList) :
    Allowed l (l.1.rewritten source primary) ↔
      l.2 = true ∨ l.1.rewritten source primary = l.1.text := by
  obtain ⟨line, own⟩ := l
  cases line with
  | gateway indent gap value => cases hkind
  | plain text => cases hkind
  | addresses own' pre gap list tail =>
    rw [Allowed, or_comm, and_iff_right (break_notMem_rewritten hbreak)]
    exact or_congr_left (and_iff_left ⟨_, rfl⟩)

/-- The same for the new line of a gateway. -/
theorem allowed_rerouted {l : Line × Bool} {gw : String} (hkind : l.1.isGateway = true)
    (hbreak : '\n' ∉ l.1.text.toList) (hgw : '\n' ∉ gw.toList) :
    Allowed l (l.1.rerouted gw) ↔ l.2 = true ∨ l.1.rerouted gw = l.1.text := by
  obtain ⟨line, own⟩ := l
  cases line with
  | addresses own' pre gap list tail => cases hkind
  | plain text => cases hkind
  | gateway indent gap value =>
    rw [Allowed, or_comm, and_iff_right (break_notMem_rerouted hbreak hgw)]
    exact or_congr_left (and_iff_left trivial)

/-- The update of a file differs only in the lines of an interface just if it is made for it. -/
theorem NetplanFile.touchesOnly_updated (f : NetplanFile) (iface : String)
    (source primary : BitVec 32) {gw : Option String} (hgw : ∀ g ∈ gw, '\n' ∉ g.toList)
    {first : Line × Bool} (hfirst : (f.marked iface).find? (·.1.isAddresses) = some first) :
    f.TouchesOnly iface (Entry.render (f.updated iface source primary gw)) ↔
      f.Targets iface source primary gw := by
  have hlines : ∀ l ∈ f.marked iface, '\n' ∉ l.1.text.toList := by
    intro l hl
    refine (f.wellFormed l.1 ?_).2
    rw [← f.map_fst_marked iface]
    exact List.mem_map_of_mem hl
  have hentries : ∀ e ∈ f.entries iface, Allowed e.key e.text := fun e he =>
    have hentry := NetplanFile.of_mem_entries he
    ⟨hentry.2 ▸ hentry.1.2, .inl hentry.2⟩
  have hlist : (∀ e ∈ Entry.rewriteFirst source primary (f.entries iface), Allowed e.key e.text) ↔
      first.2 = true ∨ first.1.rewritten source primary = first.1.text := by
    have hone : (∀ l ∈ (f.marked iface).find? (·.1.isAddresses),
        l.2 = true ∨ l.1.rewritten source primary = l.1.text) ↔
          first.2 = true ∨ first.1.rewritten source primary = first.1.text := by
      rw [hfirst]
      exact ⟨fun h => h first rfl, fun h l hl => Option.some.inj hl ▸ h⟩
    rw [← hone, Entry.rewriteFirst, forall_mem_modifyFirst fun e he _ => hentries e he,
      and_iff_left hentries, ← f.map_key_entries iface]
    refine Iff.trans (forall₂_congr fun e he => ?_)
      (@forall_find?_key (f.entries iface) (·.1.isAddresses)
        fun l => l.2 = true ∨ l.1.rewritten source primary = l.1.text)
    have hkind := List.find?_some he
    have hbreak := (NetplanFile.of_mem_entries (List.mem_of_find?_eq_some he)).1.2
    exact @allowed_rewritten source primary e.key hkind hbreak
  have hread := f.readable_rewriteFirst iface source primary
  have hkeys := f.map_key_updated iface source primary gw
  have hupdated : f.updated iface source primary gw ≠ [] := by
    intro hnil
    rw [hnil, List.map_nil] at hkeys
    rw [← hkeys] at hfirst
    cases hfirst
  cases gw with
  | none =>
    rw [touchesOnly_render hupdated hkeys fun e he => (hread e he).no_break, Layout.updated, hlist,
      Layout.Targets, hfirst]
    refine ⟨fun h l hl => ⟨Option.some.inj hl ▸ h, fun _ hg => ?_⟩, fun h => (h first rfl).1⟩
    exact absurd hg (Option.not_mem_none _)
  | some gw =>
    have hgw := hgw gw rfl
    have hkeys' : (Entry.rewriteFirst source primary (f.entries iface)).map Entry.key =
        f.marked iface := by rw [Entry.map_key_rewriteFirst, f.map_key_entries]
    have hbreak {e : Entry} (he : e ∈ Entry.rewriteFirst source primary (f.entries iface)) :
        '\n' ∉ e.line.text.toList := by
      refine hlines e.key ?_
      rw [← hkeys']
      exact List.mem_map_of_mem he
    have hbreaks : ∀ e ∈ f.updated iface source primary (some gw), '\n' ∉ e.text.toList := by
      refine (forall_mem_modifyFirst fun e he _ => (hread e he).no_break).mpr
        ⟨fun e he => ?_, fun e he => (hread e he).no_break⟩
      exact break_notMem_rerouted (hbreak (List.mem_of_find?_eq_some he)) hgw
    have hgateways : ∀ e ∈ Entry.rewriteFirst source primary (f.entries iface),
        e.line.isGateway = true → Allowed e.key e.text := fun e he hkind =>
      ⟨(hread e he).no_break, .inl ((hread e he).gateway hkind).2⟩
    have hgateway : (∀ e ∈ (Entry.rewriteFirst source primary (f.entries iface)).find?
        (·.line.isGateway), Allowed e.key (e.line.rerouted gw)) ↔
          ∀ l ∈ (f.marked iface).find? (·.1.isGateway),
            l.2 = true ∨ l.1.rerouted gw = l.1.text := by
      rw [← hkeys']
      refine Iff.trans (forall₂_congr fun e he => ?_)
        (@forall_find?_key _ (·.1.isGateway) fun l => l.2 = true ∨ l.1.rerouted gw = l.1.text)
      have hkind := List.find?_some he
      exact @allowed_rerouted e.key gw hkind (hbreak (List.mem_of_find?_eq_some he)) hgw
    rw [touchesOnly_render hupdated hkeys hbreaks, Layout.updated, Entry.rerouteFirst,
      forall_mem_modifyFirst hgateways, hlist, and_comm, Layout.Targets, hfirst]
    refine Iff.trans (and_congr_right fun _ => hgateway) ⟨fun h l hl => ?_, fun h => ?_⟩
    · obtain rfl := Option.some.inj hl
      exact ⟨h.1, fun g hg => Option.some.inj hg ▸ h.2⟩
    · exact ⟨(h first rfl).1, (h first rfl).2 gw rfl⟩

end Update

/-- A file that has the stanza of an interface is taken for it. -/
theorem Layout.contains_name {f : Layout} {s : Stanza} (hs : s ∈ f.stanzas) :
    Text.contains s!"{s.name}:" f.render = true := by
  have hline : Line.plain (s.indent ++ s.name ++ ":") ∈ f.lines :=
    List.mem_append_right _ (List.mem_flatMap.mpr ⟨s, hs, List.mem_cons_self⟩)
  obtain ⟨before, after, hlines⟩ := List.append_of_mem hline
  have htext : (Line.plain (s.indent ++ s.name ++ ":")).text = s.indent ++ s!"{s.name}:" :=
    String.append_assoc ..
  have hcut := @toList_joinWith (before.map Line.text) (after.map Line.text) s.indent
    s!"{s.name}:" ""
  rw [String.append_empty] at hcut
  rw [Text.contains_iff, Layout.render, hlines, List.map_append, List.map_cons, htext, hcut]
  exact List.infix_append' _ _ _

/-- A directory that starts with such a file. -/
theorem chooseFile_of_mem {f : Layout} {s : Stanza} (hs : s ∈ f.stanzas) (path : String)
    (rest : List NetplanEntry) :
    chooseFile s.name (⟨path, some "yaml", .ok f.render⟩ :: rest) =
      .ok (some (path, f.render)) := by
  rw [chooseFile, if_pos (.inl rfl)]
  dsimp only
  rw [if_pos (Layout.contains_name hs)]

section Claim

variable {f : NetplanFile} {entries : List NetplanEntry} {iface path sourceIp primaryIp : String}
  {source primary : BitVec 32} {gw : Option String}

/-- What is written for a file that reads as stanzas. -/
theorem netplanUpdatePrimaryIp_eq (hsource : Text.parseIpv4 sourceIp = some source)
    (hprimary : Text.parseIpv4 primaryIp = some primary) (gw : Option String)
    (hchosen : chooseFile iface entries = .ok (some (path, f.render))) :
    netplanUpdatePrimaryIp (some entries) iface sourceIp primaryIp gw =
      if ((f.marked iface).find? (·.1.isAddresses)).isSome then
        .ok (path, Entry.render (f.updated iface source primary gw))
      else .error "addresses field not found" := by
  have hfind : ((f.entries iface).find? (·.line.isAddresses)).isSome =
      ((f.marked iface).find? (·.1.isAddresses)).isSome := by
    rw [Layout.entries, List.find?_map, Option.isSome_map]
    rfl
  have hresult : netplanUpdatePrimaryIp (some entries) iface sourceIp primaryIp gw =
      (updateContent source primary gw f.render).map fun text => (path, text) := by
    simp only [netplanUpdatePrimaryIp, hsource, hprimary, hchosen]
  rw [hresult, f.updateContent_render iface, hfind]
  split
  · rfl
  · rfl

/-- **Netplan rewrite touches only its interface.** When the file that is taken reads as
stanzas, the text that is written differs from it only in the list and the gateway of the
interface just if the first list of the file is its own or is left as it is and, with a new
gateway, the first gateway is its own or is left as it is. -/
theorem netplan_touchesOnly_iff (hsource : Text.parseIpv4 sourceIp = some source)
    (hprimary : Text.parseIpv4 primaryIp = some primary) (hgw : ∀ g ∈ gw, '\n' ∉ g.toList)
    (hchosen : chooseFile iface entries = .ok (some (path, f.render))) :
    (∀ out, netplanUpdatePrimaryIp (some entries) iface sourceIp primaryIp gw = .ok (path, out) →
      f.TouchesOnly iface out) ↔ f.Targets iface source primary gw := by
  rw [netplanUpdatePrimaryIp_eq hsource hprimary gw hchosen]
  cases hfirst : (f.marked iface).find? (·.1.isAddresses) with
  | none =>
    rw [Layout.Targets, hfirst]
    refine iff_of_true (fun out hout => ?_) fun l hl => absurd hl (Option.not_mem_none _)
    cases hout
  | some first =>
    rw [← f.touchesOnly_updated iface source primary hgw hfirst]
    refine ⟨fun h => h _ rfl, fun h out hout => ?_⟩
    obtain ⟨-, rfl⟩ := Prod.mk.inj (Except.ok.inj hout)
    exact h

end Claim

instance : DecidablePred GatewayLike := fun cs =>
  inferInstanceAs (Decidable ("gateway4:".toList <+: cs.dropWhile Text.isWhiteSpace))

/-- Whether a text is a part of another one can be computed. -/
instance decidableInfix (w s : String) : Decidable (w.toList <:+: s.toList) :=
  decidable_of_iff _ Text.contains_iff

/-- A text that begins with something else than white space. -/
theorem head?_any_iff {cs : List Char} :
    cs.head?.any (fun c => !Text.isWhiteSpace c) = true ↔
      ∃ c rest, cs = c :: rest ∧ Text.isWhiteSpace c = false := by
  cases cs <;> simp

instance (l : Line) : Decidable l.WellFormed :=
  match l with
  | .addresses _ pre gap list _ =>
    inferInstanceAs (Decidable (¬"addresses:".toList <:+: pre.toList ∧ Text.isBlank gap ∧
      ']' ∉ list.toList ∧ ¬GatewayLike (pre ++ "addresses:").toList))
  | .gateway indent gap value =>
    have : Decidable (∃ c cs, value.toList = c :: cs ∧ Text.isWhiteSpace c = false) :=
      decidable_of_iff _ head?_any_iff
    inferInstanceAs (Decidable (Text.isBlank indent ∧ Text.isBlank gap ∧
      (∃ c cs, value.toList = c :: cs ∧ Text.isWhiteSpace c = false) ∧
      ¬"addresses:".toList <:+: (indent ++ "gateway4:" ++ gap ++ value).toList))
  | .plain text =>
    inferInstanceAs (Decidable (¬"addresses:".toList <:+: text.toList ∧ ¬GatewayLike text.toList))

/-- A file with the stanzas of two interfaces. -/
def twoCards : NetplanFile where
  preamble := ["network:", "  ethernets:"]
  stanzas := [
    ⟨"eth1", "    ", [.addresses true "      " " " "10.0.1.5/24" "",
      .gateway "      " " " "10.0.1.1"]⟩,
    ⟨"eth0", "    ", [.addresses true "      " " " "10.0.0.5/24" "", .plain "      nameservers:",
      .addresses false "        " " " "8.8.8.8" ""]⟩]
  wellFormed := by decide
  spaced := by decide

/-- The directory with that file. -/
def twoCardsDir : List NetplanEntry := [⟨"/etc/netplan/01.yaml", some "yaml", .ok twoCards.render⟩]

/-- The first interface of the file gets its new address and its new gateway. -/
theorem netplan_touchesOnly_first : ∃ out,
    netplanUpdatePrimaryIp (some twoCardsDir) "eth1" "10.0.1.5" "10.0.1.9" (some "10.0.1.254") =
        .ok ("/etc/netplan/01.yaml", out) ∧ twoCards.TouchesOnly "eth1" out := by
  have hsource : Text.parseIpv4 "10.0.1.5" = some 0x0a000105 := by decide
  have hprimary : Text.parseIpv4 "10.0.1.9" = some 0x0a000109 := by decide
  have hchosen : chooseFile "eth1" twoCardsDir =
      .ok (some ("/etc/netplan/01.yaml", twoCards.render)) :=
    chooseFile_of_mem (s := ⟨"eth1", _, _⟩) List.mem_cons_self _ _
  have hresult := netplanUpdatePrimaryIp_eq hsource hprimary (some "10.0.1.254") hchosen
  have htargets : twoCards.Targets "eth1" 0x0a000105 0x0a000109 (some "10.0.1.254") := by
    rintro l hl
    obtain rfl := Option.some.inj hl
    refine ⟨.inl (by decide), fun g _ l' hl' => ?_⟩
    obtain rfl := Option.some.inj hl'
    exact .inl (by decide)
  have hgw : ∀ g ∈ some "10.0.1.254", '\n' ∉ g.toList := by
    intro g hg
    obtain rfl := Option.some.inj hg
    decide
  exact ⟨_, hresult, (netplan_touchesOnly_iff hsource hprimary hgw hchosen).mpr htargets _ hresult⟩

/-- The update for the second interface changes the list and the gateway of the first one. -/
theorem other_interface_changed :
    let out := Text.joinWith '\n' ["network:", "  ethernets:", "    eth1:",
      "      addresses: [10.0.1.5/24, 10.0.0.9/24]", "      gateway4: 10.0.0.1", "    eth0:",
      "      addresses: [10.0.0.5/24]", "      nameservers:", "        addresses: [8.8.8.8]"]
    netplanUpdatePrimaryIp (some twoCardsDir) "eth0" "10.0.0.5" "10.0.0.9" (some "10.0.0.1") =
        .ok ("/etc/netplan/01.yaml", out) ∧ ¬twoCards.TouchesOnly "eth0" out := by
  intro out
  have hsource : Text.parseIpv4 "10.0.0.5" = some 0x0a000005 := by decide
  have hprimary : Text.parseIpv4 "10.0.0.9" = some 0x0a000009 := by decide
  have hchosen : chooseFile "eth0" twoCardsDir =
      .ok (some ("/etc/netplan/01.yaml", twoCards.render)) :=
    chooseFile_of_mem (s := ⟨"eth0", _, _⟩) (List.mem_cons_of_mem _ List.mem_cons_self) _ _
  have hresult := netplanUpdatePrimaryIp_eq hsource hprimary (some "10.0.0.1") hchosen
  have htexts : (twoCards.updated "eth0" 0x0a000005 0x0a000009 (some "10.0.0.1")).map Entry.text =
      ["network:", "  ethernets:", "    eth1:", "      addresses: [10.0.1.5/24, 10.0.0.9/24]",
        "      gateway4: 10.0.0.1", "    eth0:", "      addresses: [10.0.0.5/24]",
        "      nameservers:", "        addresses: [8.8.8.8]"] := by decide +kernel
  have hout : Entry.render (twoCards.updated "eth0" 0x0a000005 0x0a000009 (some "10.0.0.1")) =
      out := by rw [Entry.render, htexts]
  rw [hout] at hresult
  refine ⟨hresult, ?_⟩
  have hgw : ∀ g ∈ some "10.0.0.1", '\n' ∉ g.toList := by
    intro g hg
    obtain rfl := Option.some.inj hg
    decide
  rw [← hout, twoCards.touchesOnly_updated "eth0" _ _ hgw rfl]
  intro htargets
  rcases (htargets _ rfl).1 with hown | hsame
  · exact absurd hown (by decide)
  · exact absurd hsame (by decide +kernel)

end LinuxAgent.IpJump
