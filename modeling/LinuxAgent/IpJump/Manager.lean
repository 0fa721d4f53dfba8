import LinuxAgent.IpJump.Host

/-!
# The IP-jump manager

The functions of `IpJumpManager` that move the host to another address and age out
the old ones, each as a function of the manager together with the host. A site
names the place of a command in the code; the environment chooses which sites fail.
The presence tests of `ip_exists_on_iface` always get an answer.
-/

namespace LinuxAgent.IpJump

/-- An address that the manager keeps for a while after a jump. -/
structure SecondaryIPInfo where
  /-- Interface of the address. -/
  interface : String
  /-- The address. -/
  ip : String
  /-- Netmask as a dotted text. -/
  netmask : String
  /-- Prefix length, a `u8`. -/
  prefixLen : ℕ
  /-- Tick at which it was added or refreshed, a `u64`. -/
  addedTick : ℕ
  deriving DecidableEq

/-- A requested jump. -/
structure IpJumpConfig where
  /-- Address to leave. -/
  sourceIp : String
  /-- Address to take, in CIDR notation. -/
  targetIp : String
  /-- New default gateway, or blank. -/
  gateway : String
  deriving DecidableEq

/-- The report about a jump. -/
structure PutIpJumpInfo where
  sourceIp : String
  targetIp : String
  gateway : String
  agentIp : String
  status : ℕ
  reason : String
  deriving DecidableEq

/-- What `backup_interface` remembers for `restore_backup`. -/
structure NetworkBackup where
  ip : String
  netmask : String
  gateway : Option String
  interface : String
  deriving DecidableEq

/-- The manager and the host it runs on. -/
structure IpJumpManager where
  /-- Interface that jumps are made on. -/
  mainInterface : String
  /-- The list behind the lock `secondary_ips`. -/
  secondaryIps : List SecondaryIPInfo
  /-- The counter behind the lock `tick_counter`, a `u64`. -/
  tickCounter : ℕ
  /-- Whether the last periodic upload failed. -/
  lastUploadFailed : Bool
  /-- The host. -/
  host : Host
  /-- History: the addresses put on an interface as a target or as a demoted source. -/
  put : List IfAddr
  deriving DecidableEq

/-- `IpJumpManager::new`, on a host. -/
def IpJumpManager.new (mainInterface : String) (host : Host) : IpJumpManager :=
  ⟨mainInterface, [], 0, false, host, []⟩

/-- The sites of the commands of one `do_ip_jump_async` call. Removals are numbered
by the position of their entry in the snapshot. -/
inductive Site
  | primaryShow
  | cleanupDel (entry : ℕ)
  | cleanupDelAny (entry : ℕ)
  | backupShow
  | routeShow
  | addrDel
  | addrAdd
  | secondaryAdd
  | routeDel
  | routeAdd
  | restoreAdd
  | restoreRouteDel
  | restoreRouteAdd
  deriving DecidableEq

/-- The sites at which the environment makes the command fail. -/
abbrev Faults := Site → Bool

/-- `AGING_TICKS`. -/
def agingTicks : ℕ := 2

/-- `prefix_to_netmask`. -/
def prefixToNetmask (p : ℕ) : Except String String :=
  if 32 < p then .error "invalid prefix"
  else .ok (Text.formatIpv4 (if p = 0 then 0 else BitVec.allOnes 32 <<< (32 - p)))

/-- `netmask_to_prefix`: the number of ones, at most 32. -/
def netmaskToPrefix (netmask : String) : Except String (Fin 33) :=
  match Text.parseIpv4 netmask with
  | some mask => .ok ⟨mask.cpop.toNat, Nat.lt_succ_of_le (BitVec.toNat_cpop_le mask)⟩
  | none => .error "invalid IPv4 address syntax"

/-- `parse_cidr`. -/
def parseCidr (net : Net) (cidr : String) : Except String (String × Fin 33) := net.parseNet cidr

/-- The local variables of the loop of `get_primary_ip`. -/
structure PrimaryScan where
  primaryIp : Option String
  sourceIpFound : Bool
  isSourceIpSecondary : Bool

/-- One line of the loop of `get_primary_ip`. -/
def PrimaryScan.line (sourceIp : String) (scan : PrimaryScan) (line : IfAddr × Bool) :
    PrimaryScan :=
  let addr := line.1.ip
  let isSecondary := line.2
  let scan :=
    if addr = sourceIp then
      if isSecondary then { scan with sourceIpFound := true, isSourceIpSecondary := true }
      else { scan with sourceIpFound := true, primaryIp := some addr }
    else scan
  if !isSecondary && scan.primaryIp.isNone then { scan with primaryIp := some addr } else scan

/-- `get_primary_ip`: the source address if it is primary, else the primary address
of the main interface. -/
def getPrimaryIp (net : Net) (faults : Faults) (m : IpJumpManager) (sourceIp : String) :
    Except String String :=
  if faults .primaryShow then .error s!"ip addr show dev {m.mainInterface} failed"
  else
    let scan := (m.host.addrShow net m.mainInterface).foldl (PrimaryScan.line sourceIp)
      ⟨none, false, false⟩
    if scan.sourceIpFound && !scan.isSourceIpSecondary then .ok sourceIp
    else
      match scan.primaryIp with
      | some primary => .ok primary
      | none => .error s!"No primary IP found on interface {m.mainInterface}"

/-- `get_default_gateway`. -/
def getDefaultGateway (faults : Faults) (h : Host) : Except String String :=
  if faults .routeShow then .error "ip [\"route\", \"show\", \"default\"] failed"
  else
    match h.route.bind Route.via with
    | some gw => .ok gw
    | none => .error "no default gateway"

/-- `backup_interface`: the first listed address with this text, on any interface. -/
def backupInterface (faults : Faults) (h : Host) (ip : String) : Except String NetworkBackup :=
  if faults .backupShow then .error "ip addr show failed"
  else
    match h.addrs.find? fun a => a.ip = ip with
    | some a =>
      match prefixToNetmask a.prefixLen with
      | .ok netmask => .ok ⟨a.ip, netmask, (getDefaultGateway faults h).toOption, a.iface⟩
      | .error e => .error e
    | none => .error s!"interface for ip {ip} not found"

/-- `set_gateway`; a failed delete of the old route is ignored. -/
def setGateway (faultDel faultAdd : Bool) (h : Host) (gateway iface : String) :
    Host × Except String Unit :=
  let h := attemptIpCmd faultDel h (.routeDel iface)
  match runIpCmd faultAdd h (.routeAdd gateway iface) with
  | .ok h' => (h', .ok ())
  | .error e => (h, .error s!"set_gateway failed: {e}")

/-- `restore_backup`; errors of its commands are ignored. -/
def restoreBackup (faults : Faults) (h : Host) (backup : NetworkBackup) : Host :=
  match netmaskToPrefix backup.netmask with
  | .error _ => h
  | .ok p =>
    let h := attemptIpCmd (faults .restoreAdd) h (.addrAdd ⟨backup.interface, backup.ip, p⟩)
    match backup.gateway with
    | some gw =>
      (setGateway (faults .restoreRouteDel) (faults .restoreRouteAdd) h gw backup.interface).1
    | none => h

/-- `try_remove_ip_from_system`: delete with the prefix, then with any prefix, and
succeed once the address is gone. -/
def tryRemoveIpFromSystem (net : Net) (faultDel faultAny : Bool) (h : Host) (iface ip : String)
    (p : ℕ) : Host × Except String Unit :=
  if net.existsOnIface h.addrs iface ip = false then (h, .ok ())
  else
    let h₁ := attemptIpCmd faultDel h (.addrDel iface ip (some p))
    if net.existsOnIface h₁.addrs iface ip = false then (h₁, .ok ())
    else
      match runIpCmd faultAny h₁ (.addrDel iface ip none) with
      | .ok h₂ =>
        if net.existsOnIface h₂.addrs iface ip = false then (h₂, .ok ())
        else (h₂, .error s!"fallback delete executed but IP still present: {ip} on {iface}")
      | .error e => (h₁, .error s!"both delete attempts failed or ineffective: {e}")

/-- The entry is for this address on this interface. -/
def SecondaryIPInfo.IsFor (iface ip : String) (e : SecondaryIPInfo) : Bool :=
  e.interface = iface && e.ip = ip

/-- Drop the entries of an address (`list.retain`). -/
def dropEntries (iface ip : String) (list : List SecondaryIPInfo) : List SecondaryIPInfo :=
  list.filter fun e => !e.IsFor iface ip

/-- Set the tick of the first entry of an address, if there is one. -/
def refreshTick (iface ip : String) (tick : ℕ) :
    List SecondaryIPInfo → Option (List SecondaryIPInfo)
  | [] => none
  | e :: rest =>
    if e.IsFor iface ip then some ({ e with addedTick := tick } :: rest)
    else (refreshTick iface ip tick rest).map (e :: ·)

/-- The loop of `cleanup_old_secondary` over its snapshot. The entry is dropped
whether or not its address could be removed. -/
def cleanupEntries (net : Net) (faults : Faults) (keepIp : String) :
    ℕ → List SecondaryIPInfo → IpJumpManager → IpJumpManager
  | _, [], m => m
  | i, e :: rest, m =>
    if e.ip = keepIp then cleanupEntries net faults keepIp (i + 1) rest m
    else
      let h := (tryRemoveIpFromSystem net (faults (.cleanupDel i)) (faults (.cleanupDelAny i))
        m.host e.interface e.ip e.prefixLen).1
      cleanupEntries net faults keepIp (i + 1) rest
        { m with host := h, secondaryIps := dropEntries e.interface e.ip m.secondaryIps }

/-- `cleanup_old_secondary`. -/
def cleanupOldSecondary (net : Net) (faults : Faults) (m : IpJumpManager) (keepIp : String) :
    IpJumpManager :=
  cleanupEntries net faults keepIp 0 m.secondaryIps m

/-- `increment_tick`, which wraps around at `u64::MAX`. -/
def incrementTick (m : IpJumpManager) : IpJumpManager × ℕ :=
  let tick := (m.tickCounter + 1) % UInt64.size
  ({ m with tickCounter := tick }, tick)

/-- `add_secondary_ip`: refresh the entry, or add one and make sure that the address
is on the interface. -/
def addSecondaryIp (net : Net) (fault : Bool) (m : IpJumpManager) (iface ip netmask : String)
    (p : Fin 33) (tick : ℕ) : IpJumpManager × Except String Unit :=
  match refreshTick iface ip tick m.secondaryIps with
  | some list => ({ m with secondaryIps := list }, .ok ())
  | none =>
    let m := { m with secondaryIps := m.secondaryIps ++ [⟨iface, ip, netmask, p, tick⟩] }
    if net.existsOnIface m.host.addrs iface ip then (m, .ok ())
    else
      match runIpCmd fault m.host (.addrAdd ⟨iface, ip, p⟩) with
      | .ok h => ({ m with host := h, put := ⟨iface, ip, p⟩ :: m.put }, .ok ())
      | .error e => (m, .error s!"failed to add secondary ip to system: {e}")

/-- The part of `do_ip_jump_async` from the backup to the add of the target: replace
the source address by the target. The result is what the rest of the call needs. -/
def replaceAddress (net : Net) (faults : Faults) (m : IpJumpManager) (config : IpJumpConfig)
    (sourceIp : String) : IpJumpManager × Except String (NetworkBackup × Fin 33) :=
  match backupInterface faults m.host sourceIp with
  | .error e => (m, .error e)
  | .ok backup =>
    match netmaskToPrefix backup.netmask with
    | .error e => (m, .error e)
    | .ok srcPrefix =>
      match parseCidr net config.targetIp with
      | .error e => (m, .error e)
      | .ok target =>
        let targetAddr : IfAddr := ⟨backup.interface, target.1, target.2⟩
        match runIpCmd (faults .addrDel) m.host
            (.addrDel backup.interface sourceIp (some srcPrefix.val)) with
        | .error e =>
          ({ m with host := restoreBackup faults m.host backup }, .error s!"addr del failed: {e}")
        | .ok h =>
          match runIpCmd (faults .addrAdd) h (.addrAdd targetAddr) with
          | .error e =>
            ({ m with host := restoreBackup faults h backup }, .error s!"addr add failed: {e}")
          | .ok h => ({ m with host := h, put := targetAddr :: m.put }, .ok (backup, srcPrefix))

/-- The end of `do_ip_jump_async`: set the gateway and fill in the report. -/
def concludeJump (net : Net) (faults : Faults) (m : IpJumpManager) (config : IpJumpConfig)
    (sourceIp : String) (backup : NetworkBackup) : IpJumpManager × Except String PutIpJumpInfo :=
  let info (h : Host) : PutIpJumpInfo :=
    { sourceIp := sourceIp, targetIp := config.targetIp, gateway := config.gateway
      agentIp := ",".intercalate (net.localIpsExclude h sourceIp)
      status := 1, reason := "IP jump completed" }
  if Text.isBlank config.gateway then (m, .ok (info m.host))
  else
    match setGateway (faults .routeDel) (faults .routeAdd) m.host config.gateway
        backup.interface with
    | (h, .ok ()) => ({ m with host := h }, .ok (info h))
    | (h, .error e) =>
      ({ m with host := restoreBackup faults h backup }, .error s!"set gateway failed: {e}")

/-- The part of `do_ip_jump_async` after the target has been added: demote the source
to a secondary address, which may fail, and set the gateway. -/
def finishJump (net : Net) (faults : Faults) (m : IpJumpManager) (config : IpJumpConfig)
    (sourceIp : String) (backup : NetworkBackup) (srcPrefix : Fin 33) :
    IpJumpManager × Except String PutIpJumpInfo :=
  let (m, tick) := incrementTick m
  let m := (addSecondaryIp net (faults .secondaryAdd) m backup.interface sourceIp backup.netmask
    srcPrefix tick).1
  concludeJump net faults m config sourceIp backup

/-- `do_ip_jump_async`. -/
def doIpJumpAsync (net : Net) (faults : Faults) (m : IpJumpManager) (config : IpJumpConfig) :
    IpJumpManager × Except String PutIpJumpInfo :=
  match getPrimaryIp net faults m config.sourceIp with
  | .error e => (m, .error e)
  | .ok sourceIp =>
    let m := cleanupOldSecondary net faults m sourceIp
    match replaceAddress net faults m config sourceIp with
    | (m, .error e) => (m, .error e)
    | (m, .ok (backup, srcPrefix)) => finishJump net faults m config sourceIp backup srcPrefix

/-- The environment of one `do_periodic_cleanup` call: which removals fail, by the
position of the expired entry, the local addresses and the outcome of the upload. -/
structure CleanupIo where
  /-- The delete with the prefix fails. -/
  delFails : ℕ → Bool
  /-- The delete with any prefix fails. -/
  delAnyFails : ℕ → Bool
  /-- The answer of `get_local_ips_all`. -/
  localIps : Option String
  /-- The upload succeeds. -/
  uploadOk : Bool

/-- The entries that a cleanup at this tick collects as expired. -/
def expiredEntries (tick : ℕ) (list : List SecondaryIPInfo) : List (String × String × ℕ) :=
  (list.filter fun e => agingTicks ≤ tick - e.addedTick).map fun e =>
    (e.interface, e.ip, e.prefixLen)

/-- The removal loop of `do_periodic_cleanup`, with the flag `any_removed`. An entry
is dropped only when its address is gone. -/
def removeExpired (net : Net) (io : CleanupIo) :
    ℕ → List (String × String × ℕ) → IpJumpManager → Bool → IpJumpManager × Bool
  | _, [], m, removed => (m, removed)
  | i, (iface, ip, p) :: rest, m, removed =>
    match tryRemoveIpFromSystem net (io.delFails i) (io.delAnyFails i) m.host iface ip p with
    | (h, .ok ()) =>
      removeExpired net io (i + 1) rest
        { m with host := h, secondaryIps := dropEntries iface ip m.secondaryIps } true
    | (h, .error _) => removeExpired net io (i + 1) rest { m with host := h } removed

/-- The end of `do_periodic_cleanup`: upload the addresses after a removal or a failed upload. -/
def uploadAddresses (io : CleanupIo) (m : IpJumpManager) (anyRemoved : Bool) : IpJumpManager :=
  if anyRemoved || m.lastUploadFailed then
    match io.localIps with
    | some _ => { m with lastUploadFailed := !io.uploadOk }
    | none => m
  else m

/-- `do_periodic_cleanup`. -/
def doPeriodicCleanup (net : Net) (io : CleanupIo) (m : IpJumpManager) : IpJumpManager :=
  let (m, tick) := incrementTick m
  let (m, anyRemoved) := removeExpired net io 0 (expiredEntries tick m.secondaryIps) m false
  uploadAddresses io m anyRemoved

/-- The prefix length that `remove_secondary_ip` uses; an address without an entry is
tried with prefix zero. -/
def removalPrefix (m : IpJumpManager) (iface ip : String) : ℕ :=
  ((m.secondaryIps.find? (SecondaryIPInfo.IsFor iface ip)).map (·.prefixLen)).getD 0

/-- `remove_secondary_ip`. -/
def removeSecondaryIp (net : Net) (delFails delAnyFails : Bool) (m : IpJumpManager)
    (iface ip : String) : IpJumpManager × Except String Unit :=
  match tryRemoveIpFromSystem net delFails delAnyFails m.host iface ip
      (removalPrefix m iface ip) with
  | (h, .ok ()) =>
    ({ m with host := h, secondaryIps := dropEntries iface ip m.secondaryIps }, .ok ())
  | (h, .error e) => ({ m with host := h }, .error e)

end LinuxAgent.IpJump
