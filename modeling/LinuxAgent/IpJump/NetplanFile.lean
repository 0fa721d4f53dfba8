import LinuxAgent.Lib.Regex
import LinuxAgent.IpJump.Netplan
import Mathlib.Data.List.Chain

/-!
# Netplan files

`netplan_update_primary_ip` takes the first file that has the name of the interface with a
colon in it and replaces the first addresses list and the first gateway of that file. A
file is read as stanzas of interfaces with their lines. Only the stanza of the interface
is changed when the first list and the first gateway of the file are its own.
-/

namespace LinuxAgent.IpJump

/-- `addr_re`, the pattern `addresses:\s*\[([^\]]*)\]`. -/
def addrRe : List Regex.Atom :=
  Regex.lits "addresses:".toList ++
    [.many Text.isWhiteSpace, .one (· == '['), .many (· != ']'), .one (· == ']')]

/-- The group of `addr_re`. -/
def addrGroup (m : Regex.Match) : List Char := m.pieces.getD 12 []

/-- `gw_re`, the pattern `(?m)^\s*gateway4:\s*.+$`. -/
def gwRe : List Regex.Atom :=
  .lineStart :: .many Text.isWhiteSpace :: (Regex.lits "gateway4:".toList ++
    [.many Text.isWhiteSpace, .one (· != '\n'), .many (· != '\n'), .lineEnd])

/-- The new text of a file. -/
def updateContent (source primary : BitVec 32) (gw : Option String) (content : String) :
    Except String String :=
  match Regex.captures addrRe content with
  | none => .error "addresses field not found"
  | some (_, m) =>
    let newAddrLine := s!"addresses: [{newAddrList source primary (String.ofList (addrGroup m))}]"
    let content := Regex.replace addrRe (fun m => [addrGroup m]) newAddrLine content
    match gw with
    | none => .ok content
    | some gw =>
      if (Regex.captures gwRe content).isSome then
        .ok (Regex.replace gwRe (fun _ => []) s!"      gateway4: {gw}" content)
      else .ok content

/-- A file in `/etc/netplan`. -/
structure NetplanEntry where
  path : String
  extension : Option String
  content : Except String String

/-- The file that `netplan_update_primary_ip` takes, with its content. -/
def chooseFile (iface : String) : List NetplanEntry → Except String (Option (String × String))
  | [] => .ok none
  | ent :: rest =>
    if ent.extension = some "yaml" ∨ ent.extension = some "yml" then
      match ent.content with
      | .error e => .error s!"read \"{ent.path}\" failed: {e}"
      | .ok content =>
        if Text.contains s!"{iface}:" content then .ok (some (ent.path, content))
        else chooseFile iface rest
    else chooseFile iface rest

/-- `netplan_update_primary_ip`: the file that is written, and its new text. Without the
directory there is no list of entries. -/
def netplanUpdatePrimaryIp (dir : Option (List NetplanEntry)) (iface sourceIp primaryIp : String)
    (gw : Option String) : Except String (String × String) :=
  match Text.parseIpv4 sourceIp with
  | none => .error s!"invalid source_ip {sourceIp}"
  | some source =>
    match Text.parseIpv4 primaryIp with
    | none => .error s!"invalid primary_ip {primaryIp}"
    | some primary =>
      match dir with
      | none => .error "not a netplan system"
      | some entries =>
        match chooseFile iface entries with
        | .error e => .error e
        | .ok none => .error s!"no netplan yaml contains interface {iface}"
        | .ok (some (path, content)) =>
          (updateContent source primary gw content).map fun text => (path, text)

/-- A line of a stanza. -/
inductive Line
  /-- A line with an addresses list, which is the interface's own or another one, such as that
  of its name servers. -/
  | addresses (own : Bool) (pre gap list tail : String)
  /-- A line with the gateway. -/
  | gateway (indent gap value : String)
  /-- Any other line. -/
  | plain (text : String)

namespace Line

/-- The text of a line. -/
def text : Line → String
  | .addresses _ pre gap list tail => pre ++ ("addresses:" ++ gap ++ "[" ++ list ++ "]" ++ tail)
  | .gateway indent gap value => indent ++ "gateway4:" ++ gap ++ value
  | .plain text => text

/-- A line with addresses. -/
def isAddresses : Line → Bool
  | .addresses .. => true
  | _ => false

/-- A line with a gateway. -/
def isGateway : Line → Bool
  | .gateway .. => true
  | _ => false

/-- The line is one of the settings of its interface that may change. -/
def isOwn : Line → Bool
  | .addresses own .. => own
  | .gateway .. => true
  | .plain _ => false

end Line

/-- After white space the text goes on with the key of the gateway. -/
def GatewayLike (cs : List Char) : Prop := "gateway4:".toList <+: cs.dropWhile Text.isWhiteSpace

/-- The line is what its kind says: the list has no bracket in it, the gateway is on the line, and
the two keys stand nowhere else. -/
def Line.WellFormed : Line → Prop
  | .addresses _ pre gap list _ =>
    ¬"addresses:".toList <:+: pre.toList ∧ Text.isBlank gap ∧ ']' ∉ list.toList ∧
      ¬GatewayLike (pre ++ "addresses:").toList
  | .gateway indent gap value =>
    Text.isBlank indent ∧ Text.isBlank gap ∧
      (∃ c cs, value.toList = c :: cs ∧ Text.isWhiteSpace c = false) ∧
      ¬"addresses:".toList <:+: (indent ++ "gateway4:" ++ gap ++ value).toList
  | .plain text => ¬"addresses:".toList <:+: text.toList ∧ ¬GatewayLike text.toList

/-- The stanza of an interface. -/
structure Stanza where
  /-- The interface. -/
  name : String
  /-- What stands before the name. -/
  indent : String
  /-- The lines after the name. -/
  body : List Line

/-- The lines of a stanza, with the one of its name. -/
def Stanza.lines (s : Stanza) : List Line := .plain (s.indent ++ s.name ++ ":") :: s.body

/-- A file: some lines, and then the stanzas. -/
structure Layout where
  preamble : List String
  stanzas : List Stanza

/-- The lines of a file, each with whether it may change with the interface. -/
def Layout.marked (f : Layout) (iface : String) : List (Line × Bool) :=
  f.preamble.map (fun text => (.plain text, false)) ++
    f.stanzas.flatMap fun s => s.lines.map fun l => (l, s.name = iface && l.isOwn)

/-- The lines of a file. -/
def Layout.lines (f : Layout) : List Line :=
  f.preamble.map .plain ++ f.stanzas.flatMap Stanza.lines

/-- The text of a file. -/
def Layout.render (f : Layout) : String := Text.joinWith '\n' (f.lines.map Line.text)

/-- A file whose lines are what they say. The pattern of the gateway takes blank lines before it
along, so none stands there. -/
structure NetplanFile extends Layout where
  wellFormed : ∀ l ∈ toLayout.lines, l.WellFormed ∧ '\n' ∉ l.text.toList
  spaced : toLayout.lines.IsChain fun l next => Text.isBlank l.text → next.isGateway = false

/-- The text of a line has changed only in the list or in the gateway. -/
def Line.Keeps : Line → String → Prop
  | .addresses _ pre _ _ tail, text => ∃ list, text = pre ++ list ++ tail
  | .gateway .., _ => True
  | .plain _, _ => False

/-- A line of the new file: the old one, unless it is a setting of the interface. -/
def Allowed (l : Line × Bool) (text : String) : Prop :=
  '\n' ∉ text.toList ∧ (text = l.1.text ∨ l.2 = true ∧ l.1.Keeps text)

/-- A text differs from that of the file only in the list and the gateway of the interface. -/
def Layout.TouchesOnly (f : Layout) (iface out : String) : Prop :=
  ∃ texts, out = Text.joinWith '\n' texts ∧ List.Forall₂ Allowed (f.marked iface) texts

end LinuxAgent.IpJump
