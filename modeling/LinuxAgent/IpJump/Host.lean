import LinuxAgent.Lib.Text

/-!
# The host that the IP-jump manager works on

The manager runs `ip` commands. The host is the ordered list of IPv4 addresses that
`ip -o -4 addr show` prints and the default route. A command that cannot be carried
out fails and changes nothing, and any command can be made to fail by the
environment. What the manager takes from other code, such as the CIDR parser, is a
parameter.
-/

namespace LinuxAgent.IpJump

/-- An IPv4 address configured on an interface. -/
structure IfAddr where
  /-- The interface. -/
  iface : String
  /-- The dotted address. -/
  ip : String
  /-- The prefix length. -/
  prefixLen : Fin 33
  deriving DecidableEq

/-- A default route; one that only names a device has no gateway. -/
structure Route where
  /-- The gateway. -/
  via : Option String
  /-- The device. -/
  dev : String
  deriving DecidableEq

/-- The state of the machine that `ip` commands read and write. -/
structure Host where
  /-- The addresses, in the order in which they are listed. -/
  addrs : List IfAddr
  /-- The default route. -/
  route : Option Route
  deriving DecidableEq

/-- What the manager relies on outside its own code. -/
structure Net where
  /-- `Ipv4Net::from_str`: the address and the prefix length of a CIDR text. -/
  parseNet : String → Except String (String × Fin 33)
  /-- The network that an address belongs to under a prefix length. -/
  network : String → Fin 33 → ℕ
  /-- The answer of `ip_exists_on_iface`, found in the text that `ip -4 addr show` prints. -/
  existsOnIface : List IfAddr → String → String → Bool
  /-- The addresses that `get_local_ips_exclude` reports. -/
  localIpsExclude : Host → String → List String

/-- An address with this text is on the interface. -/
def Host.Has (h : Host) (iface ip : String) : Prop := ∃ a ∈ h.addrs, a.iface = iface ∧ a.ip = ip

/-- The presence test finds every address that is there. -/
def Net.Complete (net : Net) : Prop :=
  ∀ (h : Host) (iface ip : String), h.Has iface ip → net.existsOnIface h.addrs iface ip = true

/-- The presence test is exact. -/
def Net.Exact (net : Net) : Prop :=
  ∀ (h : Host) (iface ip : String), net.existsOnIface h.addrs iface ip = true ↔ h.Has iface ip

/-- An exact presence test finds every address that is there. -/
theorem Net.Exact.complete {net : Net} (hexact : net.Exact) : net.Complete :=
  fun h iface ip => (hexact h iface ip).mpr

/-- The prefix length of a small network. -/
def slash24 : Fin 33 := 24

/-- The CIDR texts of dotted addresses. -/
def parseIpv4Net (cidr : String) : Except String (String × Fin 33) :=
  match Text.split '/' cidr with
  | [addr, len] =>
    match Text.parseIpv4 addr, Text.decimal len.toList with
    | some x, some n =>
      if h : n < 33 then .ok (Text.formatIpv4 x, ⟨n, h⟩) else .error "invalid IP address syntax"
    | _, _ => .error "invalid IP address syntax"
  | _ => .error "invalid IP address syntax"

/-- A network with dotted addresses, on which the presence test is exact. -/
def Net.dotted : Net where
  parseNet := parseIpv4Net
  network ip p := ((Text.parseIpv4 ip).map (·.toNat)).getD 0 >>> (32 - p.val)
  existsOnIface addrs iface ip := addrs.any fun a => a.iface = iface && a.ip = ip
  localIpsExclude h excluded := (h.addrs.map (·.ip)).filter fun ip =>
    ip ≠ "127.0.0.1" && !("169.254.".toList.isPrefixOf ip.toList) && ip ≠ excluded

/-- The presence test on dotted addresses is exact. -/
theorem Net.dotted_exact : Net.dotted.Exact := by
  intro h iface ip
  simp [Net.dotted, Host.Has]

/-- The `ip` commands that change the host. -/
inductive IpCmd
  /-- `ip addr add ip/prefix dev iface`. -/
  | addrAdd (a : IfAddr)
  /-- `ip addr del ip/prefix dev iface`, or `ip addr del ip dev iface` for any prefix. -/
  | addrDel (iface ip : String) (prefixLen : Option ℕ)
  /-- `ip route del default dev iface`. -/
  | routeDel (iface : String)
  /-- `ip route add default via gateway dev iface`. -/
  | routeAdd (gateway iface : String)

/-- The arguments of a command. -/
def IpCmd.args : IpCmd → List String
  | .addrAdd a => ["addr", "add", s!"{a.ip}/{a.prefixLen}", "dev", a.iface]
  | .addrDel iface ip (some p) => ["addr", "del", s!"{ip}/{p}", "dev", iface]
  | .addrDel iface ip none => ["addr", "del", ip, "dev", iface]
  | .routeDel iface => ["route", "del", "default", "dev", iface]
  | .routeAdd gateway iface => ["route", "add", "default", "via", gateway, "dev", iface]

/-- The error text of `run_cmd_status` for a command that did not succeed. -/
def IpCmd.error (c : IpCmd) : String :=
  let quoted := c.args.map fun a => "\"" ++ a ++ "\""
  "ip [" ++ ", ".intercalate quoted ++ "] exit code: exit status: 2"

/-- The address is the one that a delete command names. -/
def IfAddr.Named (iface ip : String) (prefixLen : Option ℕ) (a : IfAddr) : Bool :=
  a.iface = iface && a.ip = ip && prefixLen.all fun p => a.prefixLen.val = p

/-- Carry out a command. An address is added once, at the end of the list; a delete
removes the first address it names; there is at most one default route. -/
def Host.run (h : Host) : IpCmd → Option Host
  | .addrAdd a => if a ∈ h.addrs then none else some { h with addrs := h.addrs ++ [a] }
  | .addrDel iface ip p =>
    if h.addrs.any (IfAddr.Named iface ip p) then
      some { h with addrs := h.addrs.eraseP (IfAddr.Named iface ip p) }
    else none
  | .routeDel iface => if h.route.any (·.dev = iface) then some { h with route := none } else none
  | .routeAdd gateway iface =>
    if h.route.isSome then none else some { h with route := some ⟨some gateway, iface⟩ }

/-- Run a command, which fails when it cannot be carried out or when the
environment makes it fail. -/
def runIpCmd (fault : Bool) (h : Host) (c : IpCmd) : Except String Host :=
  if fault then .error c.error
  else
    match h.run c with
    | some h' => .ok h'
    | none => .error c.error

/-- Run a command whose error is ignored. -/
def attemptIpCmd (fault : Bool) (h : Host) (c : IpCmd) : Host :=
  match runIpCmd fault h c with
  | .ok h' => h'
  | .error _ => h

/-- The addresses with the flag `secondary`: an address is primary when it is the
first of its network on its interface. -/
def addrLines (net : Net) : List IfAddr → List IfAddr → List (IfAddr × Bool)
  | _, [] => []
  | before, a :: rest =>
    let secondary := before.any fun b =>
      b.iface = a.iface && b.prefixLen = a.prefixLen &&
        net.network b.ip b.prefixLen = net.network a.ip a.prefixLen
    (a, secondary) :: addrLines net (before ++ [a]) rest

/-- The lines of `ip -o -4 addr show dev iface`. -/
def Host.addrShow (net : Net) (h : Host) (iface : String) : List (IfAddr × Bool) :=
  (addrLines net [] h.addrs).filter fun line => line.1.iface = iface

/-- A successful command was not made to fail and could be carried out. -/
theorem runIpCmd_eq_ok {fault : Bool} {h h' : Host} {c : IpCmd} :
    runIpCmd fault h c = .ok h' ↔ fault = false ∧ h.run c = some h' := by
  unfold runIpCmd
  cases fault with
  | true => simp
  | false => cases hrun : h.run c <;> simp

/-- An address is added when it is not there yet. -/
theorem Host.run_addrAdd {h h' : Host} {a : IfAddr} :
    h.run (.addrAdd a) = some h' ↔ a ∉ h.addrs ∧ h' = { h with addrs := h.addrs ++ [a] } := by
  simp only [Host.run]
  split <;> simp_all [eq_comm]

/-- A delete that succeeds removes the first address that it names. -/
theorem Host.run_addrDel {h h' : Host} {iface ip : String} {p : Option ℕ} :
    h.run (.addrDel iface ip p) = some h' ↔
      (∃ a ∈ h.addrs, IfAddr.Named iface ip p a = true) ∧
        h' = { h with addrs := h.addrs.eraseP (IfAddr.Named iface ip p) } := by
  by_cases hany : h.addrs.any (IfAddr.Named iface ip p) = true
  · have hex := List.any_eq_true.mp hany
    simp only [Host.run, if_pos hany, Option.some.injEq]
    exact ⟨fun heq => ⟨hex, heq.symm⟩, fun hres => hres.2.symm⟩
  · have hex : ¬ ∃ a ∈ h.addrs, IfAddr.Named iface ip p a = true := by
      simpa only [List.any_eq_true] using hany
    simp only [Host.run, if_neg hany, reduceCtorEq, hex, false_and]

/-- Every line of the listing is an address of the host. -/
theorem mem_addrLines {net : Net} {line : IfAddr × Bool} {before addrs : List IfAddr}
    (hline : line ∈ addrLines net before addrs) : line.1 ∈ addrs := by
  induction addrs generalizing before with
  | nil => cases hline
  | cons a rest ih =>
    rcases List.mem_cons.mp hline with rfl | hrest
    · exact List.mem_cons_self
    · exact List.mem_cons_of_mem _ (ih hrest)

/-- Every line of the listing of an interface is an address on it. -/
theorem Host.has_of_mem_addrShow {net : Net} {h : Host} {iface : String} {line : IfAddr × Bool}
    (hline : line ∈ h.addrShow net iface) : h.Has iface line.1.ip := by
  obtain ⟨hmem, hiface⟩ := List.mem_filter.mp hline
  exact ⟨line.1, mem_addrLines hmem, by simpa using hiface, rfl⟩

end LinuxAgent.IpJump
