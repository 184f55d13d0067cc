import Uptime.Mail.Address
/-!
The value a mail message shows for a header it was given. An address header such as
`From` or `To` is parsed and written out again: each address as its display name and
`<user@domain>`, or `user@domain` alone, names with specials and user names with
specials other than the dot put in quotes, comments and extra white space dropped;
a group as its name, a colon, its members and a semicolon; a broken mailbox as `<>`.
An unstructured header such as `Subject` keeps its text, with encoded words decoded.

Parsing may fail outright on some inputs, and so may an address part that holds a line
break.
-/
namespace Uptime.Mail

/-- A mail address as a header shows it. -/
structure Address where
  name : Glyphs
  user : Glyphs
  domain : Glyphs
deriving DecidableEq, Repr

/-- A group of addresses, or a single address when it has no name. -/
structure AddressGroup where
  name : Option Glyphs
  members : List Address
deriving DecidableEq, Repr

def joinGlyphs (sep : Glyphs) : List Glyphs → Glyphs
  | [] => []
  | [t] => t
  | t :: ts => t ++ sep ++ joinGlyphs sep ts

namespace Address

/-- The `user@domain` part: a user name with specials other than the dot in quotes, and
`<>` for an address with neither. -/
def spec (a : Address) : Glyphs :=
  let user := if a.user.any Glyph.isDotAtomEnd then Glyphs.quote a.user else a.user
  if !a.domain.isEmpty then user ++ [.char '@'] ++ a.domain
  else if user.isEmpty then Glyphs.ofString "<>" else user

/-- An address as shown: `name <user@domain>`, the name quoted when it holds specials,
or the bare `user@domain` when there is no name. -/
def render (a : Address) : Glyphs :=
  let name := if a.name.any Glyph.isSpecial then Glyphs.quote a.name else a.name
  if name.isEmpty then a.spec
  else name ++ Glyphs.ofString " <" ++
    (if a.spec = Glyphs.ofString "<>" then [] else a.spec) ++ [.char '>']

end Address

/-- A group as shown: a single unnamed address as itself, else `name: member, ...;`. -/
def AddressGroup.render (g : AddressGroup) : Glyphs :=
  match g.name, g.members with
  | none, [a] => a.render
  | name, members =>
    let shown := match name with
      | some n => if n.any Glyph.isSpecial then Glyphs.quote n else n
      | none => Glyphs.ofString "None"
    let list := joinGlyphs (Glyphs.ofString ", ") (members.map Address.render)
    shown ++ [.char ':'] ++ (if list.isEmpty then [] else .char ' ' :: list) ++ [.char ';']

/-- The mailboxes of an address: a mailbox itself, good or broken, or the mailboxes of a
group. A group taken for a broken mailbox counts as one. -/
def mailboxesOf (addr : Token) : Except Fault (List Token) :=
  match addr.parts with
  | [] => .error Fault.listIndex
  | m :: _ => match m with
    | .node (.group false) ps => match (ps[2]? : Option Token) with
      | none => .error Fault.listIndex
      | some (.node .groupList (.node .mailboxList ms :: _)) => .ok (ms.filter isSomeMailbox)
      | some _ => .ok []
    | _ => .ok [m]

/-- The name of an address: a group's display name; none for a mailbox. -/
def addressName? (addr : Token) : Except Fault (Option Glyphs) :=
  match addr.parts with
  | .node (.group false) (dn :: _) :: _ => some <$> dn.displayName
  | .node (.group false) [] :: _ => .error Fault.listIndex
  | [] => .error Fault.listIndex
  | _ => .ok none

/-- The address a mailbox shows; a line break in any of its parts is refused. -/
def addressOfMailbox (mb : Token) : Except Fault Address := do
  let name ← mb.mailboxName?
  let user ← mb.mailboxLocalPart?
  let domain ← mb.mailboxDomain?
  let a : Address := ⟨name.getD [], user.getD [], domain.getD []⟩
  if (a.name ++ a.user ++ a.domain).any (·.isOneOf ['\r', '\n']) then
    throw (.raised "ValueError" "invalid arguments; address parts cannot contain CR or LF")
  pure a

/-- The groups an address list shows, one per address. -/
def groupsOf (list : Token) : Except Fault (List AddressGroup) :=
  (list.parts.filter fun t => match t with
    | .node .address _ => true
    | _ => false).mapM fun addr => do
    let name ← addressName? addr
    let members ← (← mailboxesOf addr).mapM addressOfMailbox
    pure ⟨name, members⟩

/-- A fault as the exception that ends the parse: a mismatch that reached the top is a
parse error. -/
def Fault.exception : Fault → String × String
  | .raised c m => (c, m)
  | .mismatch _ => ("HeaderParseError", "")

def addressHeader (value : String) : Except Fault String := do
  let list ← addressList (Glyphs.ofString value)
  let groups ← groupsOf list
  if list.hasStray then throw (Fault.noAttribute "InvalidHeaderDefect" "all_defects")
  pure (Glyphs.finish (joinGlyphs (Glyphs.ofString ", ") (groups.map AddressGroup.render)))

def unstructuredHeader (value : String) : Except Fault String := do
  pure (Glyphs.finish (← unstructured (Glyphs.ofString value)).text)

end Uptime.Mail
