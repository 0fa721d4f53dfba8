import Mathlib.Data.Finset.Basic
import LinuxAgent.Lib.Runs

/-!
# The process policy manager

`set_policy_process` gets the full black or white list and sends the difference to the
kernel as text rules. The two branches of the function differ only in the list that
they are about, so they are one definition with the side as a parameter. Killing the
processes of a black list only writes a log line here and is left out.
-/

namespace LinuxAgent.ProcessMgr

/-- The white and the black list. -/
inductive Side
  | white
  | black
  deriving DecidableEq

/-- The list that is not meant. -/
def Side.other : Side → Side
  | .white => .black
  | .black => .white

/-- The number of a list in the rules. -/
def Side.digit : Side → String
  | .white => "0"
  | .black => "1"

/-- `ProcessPolicyManager`. -/
structure ProcessPolicyManager where
  /-- `white_set` and `black_set`. -/
  set : Side → Finset String
  /-- `prev_white_set` and `prev_black_set`. -/
  prevSet : Side → Finset String

/-- The kernel: the two lists behind `/proc/osec/md5_rt`, and the texts written to
`/proc/osec/process_rt`. -/
structure Kernel where
  /-- The white list `W` and the black list `B`. -/
  list : Side → Finset String
  /-- The writes to `process_rt`, oldest first. -/
  processRt : List String

/-- A rule as the kernel understands it. -/
inductive Md5Rule
  /-- Put a process on a list. -/
  | add (side : Side) (path : String)
  /-- Take a process off a list. -/
  | del (side : Side) (path : String)
  deriving DecidableEq

/-- The rule of a line without its line break: `del 0 p`, `del 1 p`, `p=0` or `p=1`. -/
def parseLine (line : List Char) : Option Md5Rule :=
  if "del 0 ".toList.isPrefixOf line then some (.del .white (String.ofList (line.drop 6)))
  else if "del 1 ".toList.isPrefixOf line then some (.del .black (String.ofList (line.drop 6)))
  else
    let path := String.ofList (line.takeWhile (· ≠ '='))
    match line.dropWhile (· ≠ '=') with
    | ['=', '0'] => some (.add .white path)
    | ['=', '1'] => some (.add .black path)
    | _ => none

/-- The rule of a text that ends in a line break. -/
def parseRule (rule : String) : Option Md5Rule :=
  if rule.toList.getLast? = some '\n' then parseLine rule.toList.dropLast else none

/-- Carry out a rule. -/
def Kernel.apply (k : Kernel) : Md5Rule → Kernel
  | .add side path => { k with list := Function.update k.list side (insert path (k.list side)) }
  | .del side path => { k with list := Function.update k.list side ((k.list side).erase path) }

/-- `add_md5_rules`: write a rule to `md5_rt`. -/
def addMd5Rules (rule : String) (k : Kernel) : Kernel :=
  match parseRule rule with
  | some r => k.apply r
  | none => k

/-- `notify_kernel_update`. -/
def notifyKernelUpdate (k : Kernel) : Kernel := { k with processRt := k.processRt ++ ["update\n"] }

/-- An iteration of the first loop: take a path off the mirror of the other list. -/
def moveOver (side : Side) (acc : Finset String × Kernel × Bool) (path : String) :
    Finset String × Kernel × Bool :=
  let (prevOther, k, changed) := acc
  if path ∈ prevOther then
    (prevOther.erase path, addMd5Rules s!"del {side.other.digit} {path}\n" k, true)
  else (prevOther, k, changed)

/-- An iteration of the second loop: send a path that is new. -/
def sendNew (side : Side) (prev : Finset String) (acc : Kernel × Bool) (path : String) :
    Kernel × Bool :=
  if path ∉ prev then (addMd5Rules s!"{path}={side.digit}\n" acc.1, true) else acc

/-- An iteration of the third loop: take back a path that is no longer listed. -/
def takeBack (side : Side) (current : Finset String) (acc : Kernel × Bool) (path : String) :
    Kernel × Bool :=
  if path ∉ current then (addMd5Rules s!"del {side.digit} {path}\n" acc.1, true) else acc

/-- `set_policy_process`, with the orders in which the sets of the list and of its
mirror are iterated. -/
def setPolicyProcess (processList : List String) (side : Side) (order prevOrder : List String)
    (m : ProcessPolicyManager) (k : Kernel) : ProcessPolicyManager × Kernel :=
  let current := processList.toFinset
  let (prevOther, k, changed) := order.foldl (moveOver side) (m.prevSet side.other, k, false)
  let (k, changed) := order.foldl (sendNew side (m.prevSet side)) (k, changed)
  let (k, changed) := prevOrder.foldl (takeBack side current) (k, changed)
  let m : ProcessPolicyManager :=
    { set := Function.update m.set side current
      prevSet := Function.update m.prevSet side.other prevOther }
  if changed then
    ({ m with prevSet := Function.update m.prevSet side current }, notifyKernelUpdate k)
  else (m, k)

/-- The manager and the kernel. -/
structure Session where
  /-- The manager. -/
  mgr : ProcessPolicyManager
  /-- The kernel. -/
  kernel : Kernel

/-- A call of `set_policy_process`, with the orders in which its sets are iterated. -/
structure Call where
  processList : List String
  side : Side
  order : List String
  prevOrder : List String

/-- The list has the elements of the set, each once. -/
def Enumerates (order : List String) (s : Finset String) : Prop := order.Nodup ∧ order.toFinset = s

instance (order : List String) (s : Finset String) : Decidable (Enumerates order s) :=
  inferInstanceAs (Decidable (order.Nodup ∧ order.toFinset = s))

namespace Session

/-- Carry out a call. The orders of iteration can be any orders of the sets. -/
def step (s : Session) (call : Call) : Option Session :=
  if Enumerates call.order call.processList.toFinset ∧
      Enumerates call.prevOrder (s.mgr.prevSet call.side) then
    let result :=
      setPolicyProcess call.processList call.side call.order call.prevOrder s.mgr s.kernel
    some ⟨result.1, result.2⟩
  else none

/-- A new manager, and empty lists in the kernel. -/
def initial : Session := ⟨⟨fun _ => ∅, fun _ => ∅⟩, ⟨fun _ => ∅, []⟩⟩

/-- The calls on one manager. -/
def system : Runs.System Session Call := ⟨fun s => s = initial, step⟩

end Session

end LinuxAgent.ProcessMgr
