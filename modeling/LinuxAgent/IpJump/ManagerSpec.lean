import LinuxAgent.IpJump.Manager

/-!
# What the functions of the IP-jump manager do

One specification for each function: which addresses, entries and routes it can
change, and under which conditions it fails. The results about whole runs use these
and do not unfold the functions again.
-/

namespace LinuxAgent.IpJump

variable {net : Net} {faults : Faults} {m : IpJumpManager}

/-- The netmask text of a prefix length has that many ones. -/
private theorem parse_netmask (p : Fin 33) :
    (Text.parseIpv4 (Text.formatIpv4
      (if p.val = 0 then 0 else BitVec.allOnes 32 <<< (32 - p.val)))).map
      (fun mask => mask.cpop.toNat) = some p.val := by
  revert p
  decide +kernel

/-- Writing a prefix length as a netmask and reading it back gives the prefix length. -/
theorem netmaskToPrefix_prefixToNetmask (p : Fin 33) :
    ∃ netmask, prefixToNetmask p.val = .ok netmask ∧ netmaskToPrefix netmask = .ok p := by
  refine ⟨_, if_neg (by omega), ?_⟩
  obtain ⟨mask, hparse, hones⟩ := Option.map_eq_some_iff.mp (parse_netmask p)
  simp only [netmaskToPrefix, hparse, Except.ok.injEq]
  exact Fin.ext hones

/-- A delete with its prefix names exactly one address. -/
theorem IfAddr.named_some_iff {a x : IfAddr} :
    IfAddr.Named a.iface a.ip (some a.prefixLen.val) x = true ↔ a = x := by
  obtain ⟨iface, ip, p⟩ := a
  obtain ⟨iface', ip', p'⟩ := x
  simp only [IfAddr.Named, Option.all_some, Bool.and_eq_true, decide_eq_true_eq, IfAddr.mk.injEq,
    Fin.ext_iff]
  constructor
  · rintro ⟨⟨rfl, rfl⟩, h⟩
    exact ⟨rfl, rfl, h.symm⟩
  · rintro ⟨rfl, rfl, h⟩
    exact ⟨⟨rfl, rfl⟩, h.symm⟩

/-- Deleting an address with its prefix erases it from the list. -/
theorem eraseP_named_some (addrs : List IfAddr) (a : IfAddr) :
    addrs.eraseP (IfAddr.Named a.iface a.ip (some a.prefixLen.val)) = addrs.erase a := by
  rw [List.erase_eq_eraseP]
  congr 1
  funext x
  rw [Bool.eq_iff_iff, IfAddr.named_some_iff, beq_iff_eq]

/-- A named address is on the interface with the text of the delete. -/
theorem IfAddr.Named.eq {iface ip : String} {p : Option ℕ} {a : IfAddr}
    (h : IfAddr.Named iface ip p a = true) : a.iface = iface ∧ a.ip = ip := by
  simp only [IfAddr.Named, Bool.and_eq_true, decide_eq_true_eq] at h
  exact h.1

/-- Erasing a first match keeps every selection that no match belongs to. -/
private theorem filter_eraseP {α : Type*} {p q : α → Bool} (hpq : ∀ x, p x = true → q x = false)
    (l : List α) : (l.eraseP p).filter q = l.filter q := by
  induction l with
  | nil => rfl
  | cons x l ih =>
    cases hp : p x with
    | true => simp [hp, hpq x hp]
    | false => simp [hp, List.filter_cons, ih]

/-- What removing an address from the system can change: only addresses with that
text on that interface can go, and the route stays. -/
structure RemovesOnly (iface ip : String) (h h' : Host) : Prop where
  /-- Nothing is added. -/
  sublist : h'.addrs.Sublist h.addrs
  /-- Every other address stays, in its place. -/
  others : ∀ q : IfAddr → Bool, (∀ a, a.iface = iface ∧ a.ip = ip → q a = false) →
    h'.addrs.filter q = h.addrs.filter q
  /-- The route stays. -/
  route : h'.route = h.route

/-- Removing nothing. -/
theorem RemovesOnly.refl (iface ip : String) (h : Host) : RemovesOnly iface ip h h :=
  ⟨List.Sublist.refl _, fun _ _ => rfl, rfl⟩

/-- Removing in two steps. -/
theorem RemovesOnly.trans {iface ip : String} {h₁ h₂ h₃ : Host} (h₁₂ : RemovesOnly iface ip h₁ h₂)
    (h₂₃ : RemovesOnly iface ip h₂ h₃) : RemovesOnly iface ip h₁ h₃ :=
  ⟨h₂₃.sublist.trans h₁₂.sublist, fun q hq => (h₂₃.others q hq).trans (h₁₂.others q hq),
    h₂₃.route.trans h₁₂.route⟩

/-- A delete command removes only an address that it names. -/
theorem RemovesOnly.of_run {iface ip : String} {p : Option ℕ} {fault : Bool} {h h' : Host}
    (hrun : runIpCmd fault h (.addrDel iface ip p) = .ok h') : RemovesOnly iface ip h h' := by
  obtain ⟨-, hdel⟩ := runIpCmd_eq_ok.mp hrun
  obtain ⟨-, rfl⟩ := Host.run_addrDel.mp hdel
  refine ⟨List.eraseP_sublist, fun q hq => filter_eraseP ?_ _, rfl⟩
  intro a ha
  exact hq a (IfAddr.Named.eq ha)

/-- The same for a delete command whose error is ignored. -/
theorem RemovesOnly.of_attempt (iface ip : String) (p : Option ℕ) (fault : Bool) (h : Host) :
    RemovesOnly iface ip h (attemptIpCmd fault h (.addrDel iface ip p)) := by
  unfold attemptIpCmd
  cases hrun : runIpCmd fault h (.addrDel iface ip p) with
  | ok h' => exact .of_run hrun
  | error e => exact .refl iface ip h

/-- `try_remove_ip_from_system` removes only that address. When it succeeds, the
presence test no longer finds it. -/
theorem tryRemoveIpFromSystem_spec (net : Net) (faultDel faultAny : Bool) (h : Host)
    (iface ip : String) (p : ℕ) :
    let result := tryRemoveIpFromSystem net faultDel faultAny h iface ip p
    RemovesOnly iface ip h result.1 ∧
      (result.2 = .ok () → net.existsOnIface result.1.addrs iface ip = false) := by
  have hfirst := RemovesOnly.of_attempt iface ip (some p) faultDel h
  unfold tryRemoveIpFromSystem
  split
  · next habsent => exact ⟨.refl iface ip h, fun _ => habsent⟩
  · dsimp only
    split
    · next habsent => exact ⟨hfirst, fun _ => habsent⟩
    · cases hrun : runIpCmd faultAny _ (.addrDel iface ip none) with
      | error e => exact ⟨hfirst, fun h' => by cases h'⟩
      | ok h₂ =>
        have hboth := hfirst.trans (.of_run hrun)
        dsimp only
        split
        · next habsent => exact ⟨hboth, fun _ => habsent⟩
        · exact ⟨hboth, fun h' => by cases h'⟩

/-- With a complete presence test a successful removal leaves no address with that
text on the interface. -/
theorem not_has_of_tryRemove {faultDel faultAny : Bool} {h : Host} {iface ip : String} {p : ℕ}
    (hnet : net.Complete)
    (hok : (tryRemoveIpFromSystem net faultDel faultAny h iface ip p).2 = .ok ()) :
    ¬ (tryRemoveIpFromSystem net faultDel faultAny h iface ip p).1.Has iface ip := by
  have habsent := (tryRemoveIpFromSystem_spec net faultDel faultAny h iface ip p).2 hok
  intro hhas
  rw [hnet _ _ _ hhas] at habsent
  cases habsent

/-- An address that is not there is not there after removals. -/
theorem Host.Has.mono {h h' : Host} {iface ip : String} (hhas : h'.Has iface ip)
    (hsub : h'.addrs.Sublist h.addrs) : h.Has iface ip := by
  obtain ⟨a, ha, hkey⟩ := hhas
  exact ⟨a, hsub.subset ha, hkey⟩

/-- What `cleanup_old_secondary` does: all entries of other addresses go, together
with some of their addresses on the host, and the rest stays. -/
structure CleansUp (keepIp : String) (m m' : IpJumpManager) : Prop where
  /-- Exactly the entries of the kept address stay. -/
  entries : m'.secondaryIps = m.secondaryIps.filter fun e => e.ip = keepIp
  /-- No address is added. -/
  sublist : m'.host.addrs.Sublist m.host.addrs
  /-- The addresses with the kept text stay, in their order. -/
  kept : (m'.host.addrs.filter fun a => a.ip = keepIp) = m.host.addrs.filter fun a => a.ip = keepIp
  /-- The addresses without an entry stay. -/
  unlisted : ∀ a ∈ m.host.addrs, (∀ e ∈ m.secondaryIps, ¬ e.IsFor a.iface a.ip) → a ∈ m'.host.addrs
  /-- Everything else is left alone. -/
  rest : m' = { m with secondaryIps := m'.secondaryIps, host := ⟨m'.host.addrs, m.host.route⟩ }

/-- An address of another interface or with another text survives a removal. -/
theorem RemovesOnly.mem {iface ip : String} {h h' : Host} {a : IfAddr}
    (hrem : RemovesOnly iface ip h h') (ha : a ∈ h.addrs) (hne : ¬ (a.iface = iface ∧ a.ip = ip)) :
    a ∈ h'.addrs := by
  have hothers := hrem.others (fun x => !decide (x.iface = iface ∧ x.ip = ip)) (by simp)
  have hfilter : a ∈ h.addrs.filter fun x => !decide (x.iface = iface ∧ x.ip = ip) :=
    List.mem_filter.mpr ⟨ha, by rw [decide_eq_false hne]; rfl⟩
  rw [← hothers] at hfilter
  exact (List.mem_filter.mp hfilter).1

/-- The loop of `cleanup_old_secondary` over any snapshot drops the entries of the
addresses it removes, and nothing else changes in the list. -/
private theorem cleanupEntries_spec (net : Net) (faults : Faults) (keepIp : String)
    (entries : List SecondaryIPInfo) (i : ℕ) (m : IpJumpManager) :
    let m' := cleanupEntries net faults keepIp i entries m
    (m'.secondaryIps = m.secondaryIps.filter fun x =>
        entries.all fun e => e.ip = keepIp || !x.IsFor e.interface e.ip) ∧
      m'.host.addrs.Sublist m.host.addrs ∧
      ((m'.host.addrs.filter fun a => a.ip = keepIp) =
        m.host.addrs.filter fun a => a.ip = keepIp) ∧
      (∀ a ∈ m.host.addrs, (∀ e ∈ entries, ¬ e.IsFor a.iface a.ip) → a ∈ m'.host.addrs) ∧
      m' = { m with
        secondaryIps := m'.secondaryIps, host := ⟨m'.host.addrs, m.host.route⟩ } := by
  induction entries generalizing i m with
  | nil =>
    refine ⟨?_, List.Sublist.refl _, rfl, fun a ha _ => ha, rfl⟩
    exact (List.filter_eq_self.mpr (by simp)).symm
  | cons e rest ih =>
    by_cases hkeep : e.ip = keepIp
    · obtain ⟨hlist, hsub, hkept, hunlisted, hrest⟩ := ih (i + 1) m
      simp only [cleanupEntries, if_pos hkeep]
      refine ⟨?_, hsub, hkept, ?_, hrest⟩
      · simpa [hkeep] using hlist
      · intro a ha hno
        exact hunlisted a ha fun x hx => hno x (List.mem_cons_of_mem _ hx)
    · have hremove := (tryRemoveIpFromSystem_spec net (faults (.cleanupDel i))
        (faults (.cleanupDelAny i)) m.host e.interface e.ip e.prefixLen).1
      obtain ⟨hlist, hsub, hkept, hunlisted, hrest⟩ := ih (i + 1) { m with
        host := (tryRemoveIpFromSystem net (faults (.cleanupDel i)) (faults (.cleanupDelAny i))
          m.host e.interface e.ip e.prefixLen).1
        secondaryIps := dropEntries e.interface e.ip m.secondaryIps }
      simp only [cleanupEntries, if_neg hkeep]
      refine ⟨?_, hsub.trans hremove.sublist, hkept.trans ?_, ?_, ?_⟩
      · rw [hlist]
        simp only [dropEntries, List.filter_filter]
        congr 1
        funext x
        simp [hkeep, Bool.and_comm]
      · apply hremove.others
        rintro a ⟨-, hip⟩
        simpa [hip] using hkeep
      · intro a ha hno
        refine hunlisted a (hremove.mem ha ?_) fun x hx => hno x (List.mem_cons_of_mem _ hx)
        rintro ⟨hiface, hip⟩
        exact hno e List.mem_cons_self (by simp [SecondaryIPInfo.IsFor, hiface, hip])
      · rw [hrest, hremove.route]

/-- `cleanup_old_secondary` meets its specification. -/
theorem cleanupOldSecondary_spec (net : Net) (faults : Faults) (m : IpJumpManager)
    (keepIp : String) : CleansUp keepIp m (cleanupOldSecondary net faults m keepIp) := by
  obtain ⟨hlist, hsub, hkept, hunlisted, hrest⟩ :=
    cleanupEntries_spec net faults keepIp m.secondaryIps 0 m
  refine ⟨?_, hsub, hkept, hunlisted, hrest⟩
  unfold cleanupOldSecondary
  rw [hlist]
  apply List.filter_congr
  intro x hx
  rw [Bool.eq_iff_iff, List.all_eq_true, decide_eq_true_eq]
  constructor
  · intro h
    simpa [SecondaryIPInfo.IsFor] using h x hx
  · intro hkeep e _
    simp only [SecondaryIPInfo.IsFor, Bool.or_eq_true, decide_eq_true_eq, Bool.not_eq_true',
      Bool.and_eq_false_iff, decide_eq_false_iff_not]
    by_cases he : e.ip = keepIp
    · exact .inl he
    · exact .inr (.inr fun heq => he (heq ▸ hkeep))

/-- Cleaning up keeps the history. -/
theorem CleansUp.put {keepIp : String} {m m' : IpJumpManager} (hclean : CleansUp keepIp m m') :
    m'.put = m.put := by
  rw [hclean.rest]

/-- When every entry is for the kept address, nothing happens. -/
theorem cleanupOldSecondary_of_all_kept {keepIp : String}
    (hkept : ∀ e ∈ m.secondaryIps, e.ip = keepIp) :
    cleanupOldSecondary net faults m keepIp = m := by
  have hloop : ∀ (entries : List SecondaryIPInfo) (i : ℕ), (∀ e ∈ entries, e.ip = keepIp) →
      cleanupEntries net faults keepIp i entries m = m := by
    intro entries
    induction entries with
    | nil => exact fun _ _ => rfl
    | cons e rest ih =>
      intro i hall
      rw [cleanupEntries, if_pos (hall e List.mem_cons_self)]
      exact ih (i + 1) fun x hx => hall x (List.mem_cons_of_mem _ hx)
  exact hloop m.secondaryIps 0 hkept

/-- Every removal that `cleanup_old_secondary` makes succeeds. -/
def CleanupSucceeds (net : Net) (faults : Faults) (keepIp : String) :
    ℕ → List SecondaryIPInfo → Host → Prop
  | _, [], _ => True
  | i, e :: rest, h =>
    if e.ip = keepIp then CleanupSucceeds net faults keepIp (i + 1) rest h
    else
      let result := tryRemoveIpFromSystem net (faults (.cleanupDel i)) (faults (.cleanupDelAny i))
        h e.interface e.ip e.prefixLen
      result.2 = .ok () ∧ CleanupSucceeds net faults keepIp (i + 1) rest result.1

/-- The addresses of the dropped entries are gone when all removals succeed. -/
theorem cleanupEntries_gone {keepIp : String} {entries : List SecondaryIPInfo} {i : ℕ}
    {e : SecondaryIPInfo} (hnet : net.Complete)
    (hsucceeds : CleanupSucceeds net faults keepIp i entries m.host) (he : e ∈ entries)
    (hother : e.ip ≠ keepIp) :
    ¬ (cleanupEntries net faults keepIp i entries m).host.Has e.interface e.ip := by
  induction entries generalizing i m with
  | nil => cases he
  | cons x rest ih =>
    by_cases hkeep : x.ip = keepIp
    · simp only [CleanupSucceeds, if_pos hkeep] at hsucceeds
      simp only [cleanupEntries, if_pos hkeep]
      rcases List.mem_cons.mp he with rfl | he
      · exact absurd hkeep hother
      · exact ih hsucceeds he
    · simp only [CleanupSucceeds, if_neg hkeep] at hsucceeds
      simp only [cleanupEntries, if_neg hkeep]
      rcases List.mem_cons.mp he with rfl | he
      · have hsub := (cleanupEntries_spec net faults keepIp rest (i + 1) { m with
          host := (tryRemoveIpFromSystem net (faults (.cleanupDel i)) (faults (.cleanupDelAny i))
            m.host e.interface e.ip e.prefixLen).1
          secondaryIps := dropEntries e.interface e.ip m.secondaryIps }).2.1
        exact fun hhas => not_has_of_tryRemove hnet hsucceeds.1 (hhas.mono hsub)
      · exact ih hsucceeds.2 he

/-- What ageing out the addresses of `expired` does: entries are dropped only
together with their addresses, and addresses outside `expired` stay. -/
structure AgesOut (net : Net) (expired : List (String × String × ℕ)) (m m' : IpJumpManager) :
    Prop where
  /-- No entry is added or changed. -/
  entries : m'.secondaryIps.Sublist m.secondaryIps
  /-- No address is added. -/
  sublist : m'.host.addrs.Sublist m.host.addrs
  /-- The other addresses stay. -/
  others : ∀ a ∈ m.host.addrs, (∀ x ∈ expired, ¬ (a.iface = x.1 ∧ a.ip = x.2.1)) → a ∈ m'.host.addrs
  /-- The address of a dropped entry is gone. -/
  gone : net.Complete → ∀ e ∈ m.secondaryIps, e ∉ m'.secondaryIps →
    ¬ m'.host.Has e.interface e.ip
  /-- The interface and the history stay. -/
  rest : m'.mainInterface = m.mainInterface ∧ m'.put = m.put

/-- Ageing out in two steps. -/
theorem AgesOut.trans {xs ys : List (String × String × ℕ)} {m₁ m₂ m₃ : IpJumpManager}
    (h₁₂ : AgesOut net xs m₁ m₂) (h₂₃ : AgesOut net ys m₂ m₃) : AgesOut net (xs ++ ys) m₁ m₃ := by
  refine ⟨h₂₃.entries.trans h₁₂.entries, h₂₃.sublist.trans h₁₂.sublist, ?_, ?_,
    h₂₃.rest.1.trans h₁₂.rest.1, h₂₃.rest.2.trans h₁₂.rest.2⟩
  · intro a ha hne
    have ha₂ := h₁₂.others a ha fun x hx => hne x (List.mem_append_left _ hx)
    exact h₂₃.others a ha₂ fun y hy => hne y (List.mem_append_right _ hy)
  · intro hnet e he hdropped
    by_cases he₂ : e ∈ m₂.secondaryIps
    · exact h₂₃.gone hnet e he₂ hdropped
    · exact fun hhas => h₁₂.gone hnet e he he₂ (hhas.mono h₂₃.sublist)

/-- A failed removal of an address from the system drops no entry. -/
theorem agesOut_of_tryRemove_error {faultDel faultAny : Bool} {iface ip e : String} {p : ℕ}
    {h : Host}
    (hremove : tryRemoveIpFromSystem net faultDel faultAny m.host iface ip p = (h, .error e)) :
    AgesOut net [(iface, ip, p)] m { m with host := h } := by
  have honly := (tryRemoveIpFromSystem_spec net faultDel faultAny m.host iface ip p).1
  rw [hremove] at honly
  refine ⟨List.Sublist.refl _, honly.sublist, ?_, fun _ e he hgone => absurd he hgone, rfl, rfl⟩
  intro a ha hne
  exact honly.mem ha (hne _ List.mem_cons_self)

/-- After a successful removal of an address from the system its entries can be dropped. -/
theorem agesOut_of_tryRemove_ok {faultDel faultAny : Bool} {iface ip : String} {p : ℕ} {h : Host}
    (hremove : tryRemoveIpFromSystem net faultDel faultAny m.host iface ip p = (h, .ok ())) :
    AgesOut net [(iface, ip, p)] m
      { m with host := h, secondaryIps := dropEntries iface ip m.secondaryIps } := by
  have honly := (tryRemoveIpFromSystem_spec net faultDel faultAny m.host iface ip p).1
  have hgone : net.Complete → ¬ h.Has iface ip := by
    intro hnet
    have habsent := not_has_of_tryRemove hnet (congrArg Prod.snd hremove)
    rwa [hremove] at habsent
  rw [hremove] at honly
  refine ⟨List.filter_sublist, honly.sublist, ?_, ?_, rfl, rfl⟩
  · intro a ha hne
    exact honly.mem ha (hne _ List.mem_cons_self)
  · intro hnet e he hdropped
    cases hfor : e.IsFor iface ip with
    | false => exact absurd (List.mem_filter.mpr ⟨he, by rw [hfor]; rfl⟩) hdropped
    | true =>
      simp only [SecondaryIPInfo.IsFor, Bool.and_eq_true, decide_eq_true_eq] at hfor
      rw [hfor.1, hfor.2]
      exact hgone hnet

/-- The removal loop of `do_periodic_cleanup` meets its specification. -/
theorem removeExpired_spec (net : Net) (io : CleanupIo) (expired : List (String × String × ℕ))
    (i : ℕ) (m : IpJumpManager) (removed : Bool) :
    AgesOut net expired m (removeExpired net io i expired m removed).1 := by
  induction expired generalizing i m removed with
  | nil =>
    exact ⟨List.Sublist.refl _, List.Sublist.refl _, fun a ha _ => ha,
      fun _ e he hgone => absurd he hgone, rfl, rfl⟩
  | cons x rest ih =>
    obtain ⟨iface, ip, p⟩ := x
    unfold removeExpired
    cases hremove : tryRemoveIpFromSystem net (io.delFails i) (io.delAnyFails i) m.host iface ip
        p with
    | mk h result =>
      cases result with
      | error e => exact (agesOut_of_tryRemove_error hremove).trans (ih (i + 1) _ removed)
      | ok _ => exact (agesOut_of_tryRemove_ok hremove).trans (ih (i + 1) _ true)

/-- `do_periodic_cleanup` ages out the expired entries. -/
theorem doPeriodicCleanup_spec (net : Net) (io : CleanupIo) (m : IpJumpManager) :
    AgesOut net (expiredEntries ((m.tickCounter + 1) % UInt64.size) m.secondaryIps) m
      (doPeriodicCleanup net io m) := by
  have hspec := removeExpired_spec net io
    (expiredEntries ((m.tickCounter + 1) % UInt64.size) m.secondaryIps) 0
    { m with tickCounter := (m.tickCounter + 1) % UInt64.size } false
  have hages :
      AgesOut net (expiredEntries ((m.tickCounter + 1) % UInt64.size) m.secondaryIps) m _ :=
    ⟨hspec.entries, hspec.sublist, hspec.others, hspec.gone, hspec.rest⟩
  unfold doPeriodicCleanup uploadAddresses
  dsimp only [incrementTick]
  split
  · split
    · exact ⟨hages.entries, hages.sublist, hages.others, hages.gone, hages.rest⟩
    · exact hages
  · exact hages

/-- An address without an entry is not aged out. -/
theorem mem_doPeriodicCleanup {io : CleanupIo} {a : IfAddr} (ha : a ∈ m.host.addrs)
    (hno : ∀ e ∈ m.secondaryIps, ¬ e.IsFor a.iface a.ip) :
    a ∈ (doPeriodicCleanup net io m).host.addrs := by
  apply (doPeriodicCleanup_spec net io m).others a ha
  rintro x hx ⟨hiface, hip⟩
  obtain ⟨e, he, rfl⟩ := List.mem_map.mp hx
  exact hno e (List.mem_filter.mp he).1 (by simp [SecondaryIPInfo.IsFor, hiface, hip])

/-- `remove_secondary_ip` ages out one address. -/
theorem removeSecondaryIp_spec (net : Net) (delFails delAnyFails : Bool) (m : IpJumpManager)
    (iface ip : String) :
    ∃ p, AgesOut net [(iface, ip, p)] m
      (removeSecondaryIp net delFails delAnyFails m iface ip).1 := by
  unfold removeSecondaryIp
  refine ⟨removalPrefix m iface ip, ?_⟩
  cases hremove : tryRemoveIpFromSystem net delFails delAnyFails m.host iface ip
      (removalPrefix m iface ip) with
  | mk h result =>
    cases result with
    | error e => exact agesOut_of_tryRemove_error hremove
    | ok _ => exact agesOut_of_tryRemove_ok hremove

/-- One line of the scan of `get_primary_ip` finds only what the line says. -/
private theorem PrimaryScan.line_spec {sourceIp : String} {scan : PrimaryScan}
    {line : IfAddr × Bool} {P : String → Prop} (hline : P line.1.ip)
    (hprimary : ∀ ip, scan.primaryIp = some ip → P ip)
    (hfound : scan.sourceIpFound = true → P sourceIp) :
    (∀ ip, (scan.line sourceIp line).primaryIp = some ip → P ip) ∧
      ((scan.line sourceIp line).sourceIpFound = true → P sourceIp) := by
  have hsource : line.1.ip = sourceIp → P sourceIp := fun heq => heq ▸ hline
  unfold PrimaryScan.line
  by_cases heq : line.1.ip = sourceIp <;> cases hsec : line.2 <;>
    cases hp : scan.primaryIp <;> simp_all

/-- What the scan of `get_primary_ip` has found is on the lines scanned so far. -/
private theorem primaryScan_spec {sourceIp : String} (lines : List (IfAddr × Bool))
    (scan : PrimaryScan) (P : String → Prop) (hlines : ∀ line ∈ lines, P line.1.ip)
    (hprimary : ∀ ip, scan.primaryIp = some ip → P ip)
    (hfound : scan.sourceIpFound = true → P sourceIp) :
    let scan' := lines.foldl (PrimaryScan.line sourceIp) scan
    (∀ ip, scan'.primaryIp = some ip → P ip) ∧ (scan'.sourceIpFound = true → P sourceIp) := by
  induction lines generalizing scan with
  | nil => exact ⟨hprimary, hfound⟩
  | cons line rest ih =>
    obtain ⟨hprimary', hfound'⟩ :=
      PrimaryScan.line_spec (hlines line List.mem_cons_self) hprimary hfound
    exact ih _ (fun l hl => hlines l (List.mem_cons_of_mem _ hl)) hprimary' hfound'

/-- The source that `get_primary_ip` selects is on the main interface. -/
theorem getPrimaryIp_has {sourceIp ip : String}
    (hget : getPrimaryIp net faults m sourceIp = .ok ip) :
    m.host.Has m.mainInterface ip := by
  obtain ⟨hprimary, hfound⟩ := primaryScan_spec (m.host.addrShow net m.mainInterface)
    ⟨none, false, false⟩ (m.host.Has m.mainInterface) (fun _ => Host.has_of_mem_addrShow)
    (by simp) (by simp)
  unfold getPrimaryIp at hget
  split at hget
  · cases hget
  · dsimp only at hget
    split at hget
    · next hsource =>
      cases hget
      rw [Bool.and_eq_true] at hsource
      exact hfound hsource.1
    · split at hget
      · next primary hscan =>
        cases hget
        exact hprimary _ hscan
      · cases hget

/-- `a` is the first listed address with this text. -/
def Host.FirstWith (h : Host) (ip : String) (a : IfAddr) : Prop :=
  (h.addrs.find? fun a => a.ip = ip) = some a

/-- The first listed address with a text is listed and has it. -/
theorem Host.FirstWith.mem {h : Host} {ip : String} {a : IfAddr} (hfirst : h.FirstWith ip a) :
    a ∈ h.addrs ∧ a.ip = ip :=
  ⟨List.mem_of_find?_eq_some hfirst, by simpa using List.find?_some hfirst⟩

/-- An address with a text that some interface has is listed first. -/
theorem Host.Has.exists_firstWith {h : Host} {iface ip : String} (hhas : h.Has iface ip) :
    ∃ a, h.FirstWith ip a := by
  obtain ⟨a, ha, -, hip⟩ := hhas
  apply Option.isSome_iff_exists.mp
  rw [List.find?_isSome]
  exact ⟨a, ha, by simpa using hip⟩

/-- The first address with the kept text is the same after `cleanup_old_secondary`. -/
theorem CleansUp.firstWith {keepIp : String} {m m' : IpJumpManager} {a : IfAddr}
    (hclean : CleansUp keepIp m m') :
    m'.host.FirstWith keepIp a ↔ m.host.FirstWith keepIp a := by
  unfold Host.FirstWith
  rw [← List.head?_filter, ← List.head?_filter, hclean.kept]

/-- What `backup_interface` returns: the first address with this text, its netmask
and the gateway, if one was found. -/
theorem backupInterface_eq_ok {h : Host} {ip : String} {a : IfAddr}
    (hfault : faults .backupShow = false)
    (hfirst : h.FirstWith ip a) :
    ∃ netmask, netmaskToPrefix netmask = .ok a.prefixLen ∧
      backupInterface faults h ip =
        .ok ⟨ip, netmask, (getDefaultGateway faults h).toOption, a.iface⟩ := by
  obtain ⟨netmask, hto, hfrom⟩ := netmaskToPrefix_prefixToNetmask a.prefixLen
  refine ⟨netmask, hfrom, ?_⟩
  unfold Host.FirstWith at hfirst
  simp only [backupInterface, hfault, Bool.false_eq_true, if_false, hfirst, hto]
  rw [(Host.FirstWith.mem hfirst).2]

end LinuxAgent.IpJump
