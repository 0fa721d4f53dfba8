import LinuxAgent.Lib.Buffered
import LinuxAgent.Lib.Text
import LinuxAgent.Reporter.Bodies

/-!
# Outreach detection

`run_outreach_detection` probes the addresses of its rules, ten at once, and collects a log of each
one that answers. The logs come in the order in which the probes are done. Whatever this order is,
each rule is probed once, and the server reads the logs of all addresses that have answered.

The answers are those of the network, one for each rule.
-/

namespace LinuxAgent.Task.Outreach

open LinuxAgent.Reporter Json

/-- `OutreachDetectRule`. -/
structure OutreachDetectRule where
  addr : String
  method : String
  type_ : ℕ
  deriving DecidableEq

/-- `DomainLog`. -/
structure DomainLog where
  nTime : ℤ
  nType : ℤ
  nLevel : ℤ
  url : String
  ipaddr : String
  deriving DecidableEq

/-- The methods of a request. -/
inductive Method
  | get
  | post
  deriving DecidableEq

/-- The address that is requested. -/
def OutreachDetectRule.requestUrl (rule : OutreachDetectRule) : String :=
  if "http://".toList.isPrefixOf rule.addr.toList || "https://".toList.isPrefixOf rule.addr.toList
  then rule.addr
  else "http://" ++ rule.addr

/-- The request of a probe; there is none where the method is not supported. -/
def OutreachDetectRule.request (rule : OutreachDetectRule) : Option (Method × String) :=
  if rule.method.toList.map Char.toLower = "get".toList then some (.get, rule.requestUrl)
  else if rule.method.toList.map Char.toLower = "post".toList then some (.post, rule.requestUrl)
  else none

/-- A rule, when it is probed, and the addresses in the answer if there is one. -/
structure Probe where
  rule : OutreachDetectRule
  now : ℤ
  answer : Option (List String)
  deriving DecidableEq

/-- The log of a probe. -/
def Probe.log (p : Probe) : Option DomainLog := do
  let _ ← p.rule.request
  let ips ← p.answer
  some ⟨p.now, 4002, 1, p.rule.addr, Text.joinWith ',' ips⟩

/-- `probe`: the request and the log. -/
def Probe.run (p : Probe) : Option (Method × String) × Option DomainLog := (p.rule.request, p.log)

/-- `run_outreach_detection`, for rules with what comes of probing them. -/
def detection (probes : List Probe) :
    Runs.System (Buffered.State Probe (Option (Method × String) × Option DomainLog))
      Buffered.Action :=
  Buffered.system 10 Probe.run probes

/-- The logs that are collected. -/
def dataList (done : List (Option (Method × String) × Option DomainLog)) : List DomainLog :=
  done.filterMap Prod.snd

/-- `DomainLogItem`. -/
structure DomainLogItem where
  level : ℤ
  time : ℤ
  logType : ℤ
  domainName : String
  resIp : String
  deriving DecidableEq

/-- The entry of a log. -/
def DomainLog.item (log : DomainLog) : DomainLogItem :=
  ⟨log.nLevel, log.nTime, log.nType, log.url, log.ipaddr⟩

/-- How the items are written and read. -/
def itemCoding : Coding DomainLogItem where
  json e := .object
    [("level", .number e.level), ("time", .number e.time), ("type", .number e.logType),
      ("domain_name", .string e.domainName), ("res_ip", .string e.resIp)]
  ofJson v := do
    some ⟨← v.int "level", ← v.int "time", ← v.int "type", ← v.str "domain_name",
      ← v.str "res_ip"⟩
  ofJson_json e := by
    simp [Json.Value.int, Json.Value.str, Json.Value.field]

/-- `build_outreach_detect_list_json`. -/
def buildOutreachDetectListJson : List DomainLog → Except String String :=
  buildBody "alert" "No valid domain log entries" itemCoding DomainLog.item

/-- What the server reads of the upload; without logs there is none. -/
def readByServer (logs : List DomainLog) : Option (List DomainLogItem) :=
  (buildOutreachDetectListJson logs).toOption.bind (readBody "alert" itemCoding)

/-- The server reads the items, and there is no upload of none. -/
theorem readByServer_eq (logs : List DomainLog) :
    readByServer logs = if logs = [] then none else some (logs.map DomainLog.item) :=
  readsBack_buildBody.entries logs

/-- However the probes take turns: no more than ten are under way, the detection cannot get stuck
and ends after two steps for each rule. At its end every rule with a supported method has been
requested once, and the server reads the logs of exactly the rules that were answered. -/
theorem outreach_detection (probes : List Probe) {actions : List Buffered.Action}
    {s : Buffered.State Probe (Option (Method × String) × Option DomainLog)}
    (hexec : (detection probes).exec ⟨probes, [], []⟩ actions = some s) :
    s.running.length ≤ 10 ∧
      actions.length + s.left = 2 * probes.length ∧
      (s.left ≠ 0 → ∃ a s', (detection probes).step s a = some s') ∧
      (s.left = 0 →
        (s.done.filterMap Prod.fst).Perm (probes.filterMap fun p => p.rule.request) ∧
          ((readByServer (dataList s.done)).getD []).Perm
            ((probes.filterMap Probe.log).map DomainLog.item)) := by
  obtain ⟨hinv, hlength⟩ := Buffered.inv_of_exec hexec
  refine ⟨hinv.bounded, hlength, Buffered.exists_step (by decide), fun hleft => ?_⟩
  have hdone := hinv.perm_of_left_eq_zero hleft
  refine ⟨?_, ?_⟩
  · have hrequests := hdone.filterMap Prod.fst
    rwa [List.filterMap_map] at hrequests
  · have hlogs := hdone.filterMap Prod.snd
    rw [List.filterMap_map] at hlogs
    have hread : (readByServer (dataList s.done)).getD [] =
        (dataList s.done).map DomainLog.item := by
      rw [readByServer_eq]
      split
      · next hnil => rw [hnil]; rfl
      · rfl
    rw [hread]
    exact hlogs.map DomainLog.item

/-- Two rules, the second of which is answered first. -/
def twoProbes : List Probe :=
  [⟨⟨"a.example", "GET", 1⟩, 7, some ["10.0.0.1", "10.0.0.2"]⟩, ⟨⟨"b.example", "Post", 1⟩, 7, none⟩]

/-- The detection with these rules. -/
def twoDone : List Buffered.Action := [.start, .start, .finish 1, .finish 0]

/-- Of two domains the one with addresses is reported. -/
theorem outreach_detection_two :
    ∃ s, (detection twoProbes).exec ⟨twoProbes, [], []⟩ twoDone = some s ∧
      dataList s.done = [⟨7, 4002, 1, "a.example", "10.0.0.1,10.0.0.2"⟩] ∧
      ((readByServer (dataList s.done)).getD []).Perm
        ((twoProbes.filterMap Probe.log).map DomainLog.item) := by
  obtain ⟨s, hexec, hleft, hdata⟩ : ∃ s,
      (detection twoProbes).exec ⟨twoProbes, [], []⟩ twoDone = some s ∧ s.left = 0 ∧
        dataList s.done = [⟨7, 4002, 1, "a.example", "10.0.0.1,10.0.0.2"⟩] :=
    ⟨_, rfl, rfl, by decide⟩
  exact ⟨s, hexec, hdata, ((outreach_detection twoProbes hexec).2.2.2 hleft).2⟩

end LinuxAgent.Task.Outreach
