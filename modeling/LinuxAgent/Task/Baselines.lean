import LinuxAgent.Lib.Text
import LinuxAgent.Reporter.Bodies

/-!
# Baselines

The server sends a list of baselines, and `process_baselines_from_client` sends it back with those
marked as passed that are for the operating system of the host. The server reads its own list, with
just these marks added.

The systems are told by words in a file, and one of them cannot be found: every text with its word
has the word of an earlier one.
-/

namespace LinuxAgent.Task.Baselines

open LinuxAgent.Reporter Json

/-- `BaselineItem`. -/
structure BaselineItem where
  val : UInt64
  name : String
  pass : Int32
  deriving DecidableEq

/-- The words of each system and its number, in the order of the tests. -/
def systems : List (List String × Int32) :=
  [(["kylin"], 1130), (["neokylin"], 1131), (["uos", "uniontech"], 1132), (["centos"], 1133),
    (["ubuntu"], 1134), (["red hat", "rhel", "rocky", "almalinux", "openeuler"], 1135)]

/-- The host and the answers of the server. -/
structure Host where
  /-- The text of `/etc/os-release`. -/
  osRelease : Except String String
  /-- `to_lowercase`. -/
  toLowercase : String → String
  /-- `serde_json::from_str`. -/
  fromStr : String → Option Json.Value
  answer : Except String String

/-- `detect_local_os_type`, whose result is kept. -/
def Host.detectLocalOsType (host : Host) : Int32 :=
  let content := host.toLowercase (host.osRelease.toOption.getD "")
  ((systems.find? fun system => system.1.any fun word => Text.contains word content).map
    Prod.snd).getD (-1)

/-- A field of a JSON value; without the field it is null. -/
def index (v : Json.Value) (key : String) : Json.Value := (v.field key).getD .null

/-- `as_u64`. -/
def asU64 (v : Json.Value) : Option UInt64 :=
  v.asInt.bind fun n => if 0 ≤ n ∧ n < UInt64.size then some (.ofNat n.toNat) else none

/-- `as_i64`. -/
def asI64 (v : Json.Value) : Option Int64 :=
  v.asInt.bind fun n => if (Int64.ofInt n).toInt = n then some (.ofInt n) else none

/-- The error where there is no value. -/
def okOr {α : Type} (value : Option α) (e : String) : Except String α :=
  value.elim (.error e) .ok

/-- An item of the list. -/
def itemOf (v : Json.Value) : Except String BaselineItem := do
  let val ← okOr (asU64 (index v "val")) "baseline.val 缺失或不是数字"
  let name ← okOr (index v "name").asStr "baseline.name 缺失或不是字符串"
  let pass ← okOr (asI64 (index v "pass")) "baseline.pass 缺失或不是数字"
  .ok ⟨val, name, pass.toInt32⟩

/-- The items of an answer. -/
def itemsOf (parsed : Json.Value) : Except String (List BaselineItem) := do
  if (index parsed "code").asStr = some "000000" then
    let list ← okOr (index (index parsed "data") "list").asArray
      "响应中缺少 data.list 或其格式不是数组"
    let baselines ← list.mapM itemOf
    if baselines = [] then .error "baseline 列表为空" else .ok baselines
  else .error ("netblock 响应代码无效: " ++ (index parsed "code").asStr.getD "未知代码")

/-- An item of the report: it has passed if it is for the system of the host. -/
def Host.mark (host : Host) (b : BaselineItem) : BaselineItem :=
  if b.val.toUInt32.toInt32 = host.detectLocalOsType then { b with pass := 1 } else b

/-- How the items are written and read. -/
def itemCoding : Coding BaselineItem where
  json e := .object
    [("val", .number e.val.toNat), ("name", .string e.name), ("pass", .number e.pass.toInt)]
  ofJson v := do
    let val ← v.int "val"
    let name ← v.str "name"
    let pass ← v.int "pass"
    some ⟨.ofNat val.toNat, name, .ofInt pass⟩
  ofJson_json e := by
    simp

/-- `process_baselines_from_client`, up to the upload of the report. -/
def Host.processBaselinesFromClient (host : Host) : Except String String := do
  let response ← host.answer.mapError ("获取 netblock 策略失败: " ++ ·)
  let parsed ← okOr (host.fromStr response) "解析 netblock 响应失败"
  let baselines ← itemsOf parsed
  .ok (body "list" ((baselines.map host.mark).map itemCoding.json))

/-- A text with the word of the second system has the word of the first one. -/
theorem contains_kylin {content : String} (h : Text.contains "neokylin" content = true) :
    Text.contains "kylin" content = true := by
  have hpart : "kylin".toList <:+: "neokylin".toList := ⟨['n', 'e', 'o'], [], by decide⟩
  exact Text.contains_iff.mpr (hpart.trans (Text.contains_iff.mp h))

/-- The second system is never found. -/
theorem detectLocalOsType_ne (host : Host) : host.detectLocalOsType ≠ 1131 := by
  rw [Host.detectLocalOsType]
  generalize host.toLowercase _ = content
  cases hfind : systems.find? fun system => system.1.any fun word => Text.contains word content with
  | none => decide
  | some system =>
    intro hnumber
    have hword := List.find?_some hfind
    have hmem := List.mem_of_find?_eq_some hfind
    have hneokylin : system = (["neokylin"], 1131) := by
      have honly : ∀ s ∈ systems, s.2 = 1131 → s = (["neokylin"], 1131) := by decide
      exact honly system hmem hnumber
    rw [hneokylin] at hword hfind
    have hkylin : Text.contains "kylin" content = true := contains_kylin (by simpa using hword)
    have hfirst :
        (systems.find? fun system => system.1.any fun word => Text.contains word content) =
          some (["kylin"], 1130) := List.find?_cons_of_pos (by simpa using hkylin)
    rw [hfirst] at hfind
    revert hfind
    decide

/-- When a report is made. -/
theorem processBaselines_eq_ok {host : Host} {text : String} :
    host.processBaselinesFromClient = .ok text ↔
      ∃ response parsed baselines, host.answer = .ok response ∧
        host.fromStr response = some parsed ∧ itemsOf parsed = .ok baselines ∧
        text = body "list" ((baselines.map host.mark).map itemCoding.json) := by
  rw [Host.processBaselinesFromClient]
  cases hanswer : host.answer with
  | error e => simp [Except.mapError, bind, Except.bind]
  | ok response =>
    cases hread : host.fromStr response with
    | none => simp [Except.mapError, okOr, bind, Except.bind, hread]
    | some parsed =>
      cases hitems : itemsOf parsed with
      | error e => simp [Except.mapError, okOr, bind, Except.bind, hread, hitems]
      | ok baselines => simp [Except.mapError, okOr, bind, Except.bind, hread, hitems, eq_comm]

/-- The report is made just if the answer has a list of items. Then the server reads its own list,
in which the items with the number of the host's system have passed. The items of the second system
stay as they were, whatever the host is. -/
theorem baselines_read_back (host : Host) :
    ((∃ text, host.processBaselinesFromClient = .ok text) ↔
        ∃ response parsed baselines, host.answer = .ok response ∧
          host.fromStr response = some parsed ∧ itemsOf parsed = .ok baselines) ∧
      ∀ text, host.processBaselinesFromClient = .ok text →
        ∃ response parsed baselines, host.answer = .ok response ∧
          host.fromStr response = some parsed ∧ itemsOf parsed = .ok baselines ∧
          readBody "list" itemCoding text = some (baselines.map host.mark) ∧
          ∀ b ∈ baselines, b.val.toUInt32.toInt32 = 1131 → host.mark b = b := by
  refine ⟨⟨?_, ?_⟩, ?_⟩
  · rintro ⟨text, h⟩
    obtain ⟨response, parsed, baselines, hanswer, hread, hitems, -⟩ := processBaselines_eq_ok.mp h
    exact ⟨response, parsed, baselines, hanswer, hread, hitems⟩
  · rintro ⟨response, parsed, baselines, hanswer, hread, hitems⟩
    exact ⟨_, processBaselines_eq_ok.mpr ⟨response, parsed, baselines, hanswer, hread, hitems, rfl⟩⟩
  · intro text h
    obtain ⟨response, parsed, baselines, hanswer, hread, hitems, rfl⟩ :=
      processBaselines_eq_ok.mp h
    refine ⟨response, parsed, baselines, hanswer, hread, hitems, readBody_body _, ?_⟩
    intro b _ hval
    exact if_neg (hval ▸ (detectLocalOsType_ne host).symm)

/-- The item of an Ubuntu system passes on it. -/
example : (Host.mark ⟨.ok "NAME=ubuntu", fun s => s, Json.read, .error ""⟩
    ⟨1134, "ubuntu", 0⟩).pass = 1 := by
  decide

end LinuxAgent.Task.Baselines
