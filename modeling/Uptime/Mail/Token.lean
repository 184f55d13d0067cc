import Uptime.Mail.Glyph
/-!
The parse tree of a header value. A tree is read in two ways. Its *text* gives back what
was written, quoted strings and comments quoted again, and white space between two
encoded words dropped. Its *value* is what the text means: folding white space and
comments count as one blank, quoted strings as their contents, encoded words as what
they decode to.

Reading a tree can fail the way the parser's own reading does: asking for the first
part of an empty node, or for a part of a leaf, is an error that ends the parse. So is
meeting a defect record that a domain literal left among its parts where a token
belongs (`Token.stray`).

The properties the address header needs are here too: the display name, local part and
domain of a mailbox.
-/
namespace Uptime.Mail

/-- A leaf of the parse tree. -/
inductive Leaf where
  /-- folding white space, whose value is one blank -/
  | fws (text : Glyphs)
  /-- white space between two encoded words, dropped from text and value -/
  | gap (text : Glyphs)
  /-- the text of a comment, whose value is one blank -/
  | note (text : Glyphs)
  /-- the dot between atoms -/
  | dot
  /-- any other text, standing for itself -/
  | piece (text : Glyphs)
deriving DecidableEq, Repr

namespace Leaf

def glyphs : Leaf → Glyphs
  | .fws t | .gap t | .note t | .piece t => t
  | .dot => [.char '.']

/-- The text of a leaf: its glyphs, except for a gap, which reads as nothing. -/
def text : Leaf → Glyphs
  | .gap _ => []
  | l => l.glyphs

def value : Leaf → Glyphs
  | .fws _ | .note _ => [.char ' ']
  | .gap _ => []
  | .dot => [.char '.']
  | .piece t => t

def className : Leaf → String
  | .fws _ | .note _ => "WhiteSpaceTerminal"
  | .gap _ => "EWWhiteSpaceTerminal"
  | .dot | .piece _ => "ValueTerminal"

end Leaf

/-- What a node of the parse tree stands for. A phrase and a display name remember
whether the phrase found a defect of its own; a group remembers whether trailing text
made the address list take it for a broken mailbox. -/
inductive Kind where
  | plain
  | unstructured
  | phrase (flawed : Bool)
  | cfws
  | atom
  | encodedWord
  | quotedString
  | bareQuotedString
  | comment
  | addressList
  | address
  | mailboxList
  | groupList
  | group (retyped : Bool)
  | nameAddr
  | angleAddr
  | obsRoute
  | mailbox
  | invalidMailbox
  | domain
  | dotAtom
  | dotAtomText
  | addrSpec
  | obsLocalPart
  | displayName (flawed : Bool)
  | localPart
  | domainLiteral
deriving DecidableEq, Repr

/-- A parse tree. -/
inductive Token where
  | leaf (l : Leaf)
  | node (kind : Kind) (parts : List Token)
  /-- the defect record an unfinished domain literal leaves among its parts -/
  | stray
deriving Repr

/-- Why parsing stopped. -/
inductive Fault where
  /-- the text does not fit the rule tried, and the caller may try another; `badWord`
  marks an encoded word whose inside could not be decoded -/
  | mismatch (badWord : Bool)
  /-- an error that ends the whole parse, by the class and message of the exception -/
  | raised (cls : String) (msg : String)
deriving DecidableEq, Repr

namespace Fault

def stringIndex : Fault := .raised "IndexError" "string index out of range"

def listIndex : Fault := .raised "IndexError" "list index out of range"

def noAttribute (cls attr : String) : Fault :=
  .raised "AttributeError" ("'" ++ cls ++ "' object has no attribute '" ++ attr ++ "'")

def stalled : Fault := .raised "RecursionError" "parser made no progress"

end Fault

def strayMessage : String := "end of input inside domain-literal"

namespace Token

/-- The parts of a node; a leaf has none. -/
def parts : Token → List Token
  | .node _ ps => ps
  | _ => []

def isCfws : Token → Bool
  | .node .cfws _ => true
  | _ => false

def isDot : Token → Bool
  | .leaf .dot => true
  | _ => false

def isFws : Token → Bool
  | .leaf (.fws _) | .leaf (.gap _) => true
  | _ => false

def isEncodedWord : Token → Bool
  | .node .encodedWord _ => true
  | _ => false

def isQuotedString : Token → Bool
  | .node .quotedString _ => true
  | _ => false

def isNode : Token → Bool
  | .node .. => true
  | _ => false

/-- Whether the part at one end of a token is a run of comments and white space. The
end of a leaf is a character, which has no type: that is an error, as is an empty
token. -/
def endIsCfws (pick : List Token → Option Token) : Token → Except Fault Bool
  | .node _ ps => match pick ps with
    | some .stray => .error (Fault.noAttribute "InvalidHeaderDefect" "token_type")
    | some p => .ok p.isCfws
    | none => .error Fault.listIndex
  | .leaf l => .error (if l.glyphs.isEmpty then Fault.stringIndex
      else Fault.noAttribute "str" "token_type")
  | .stray => .error (.raised "TypeError" "'InvalidHeaderDefect' object is not subscriptable")

def firstIsCfws : Token → Except Fault Bool := endIsCfws List.head?

def lastIsCfws : Token → Except Fault Bool := endIsCfws List.getLast?

def escapeNote (t : Glyphs) : Glyphs :=
  t.flatMap fun g =>
    if g = .char '\\' || g = .char '(' || g = .char ')' then [.char '\\', g] else [g]

mutual
/-- The text of a token: leaves as written, quoted strings and comments quoted again,
gaps dropped. -/
def text : Token → Glyphs
  | .leaf l => l.text
  | .node .bareQuotedString ps => Glyphs.quote (textOf ps)
  | .node .comment ps => .char '(' :: commentText ps ++ [.char ')']
  | .node _ ps => textOf ps
  | .stray => Glyphs.ofString strayMessage

def textOf : List Token → Glyphs
  | [] => []
  | t :: ts => text t ++ textOf ts

/-- The texts of the parts of a comment: nested comments as they are, everything else
escaped. -/
def commentText : List Token → Glyphs
  | [] => []
  | t :: ts => (match t with
      | .node .comment _ => text t
      | _ => escapeNote (text t)) ++ commentText ts
end

mutual
/-- The value of a token. Comments and folding white space are one blank, a quoted
string is its contents. A display name with quoted parts, or whose phrase was flawed,
is its name quoted again, with a blank for comments or white space at either end; a
local part in quotes keeps its quotes; an address keeps no white space around the `@`. -/
def value : Token → Except Fault Glyphs
  | .leaf l => .ok l.value
  | .node .cfws _ => .ok [.char ' ']
  | .node .comment _ => .ok [.char ' ']
  | .node .bareQuotedString ps => .ok (textOf ps)
  | .node (.displayName flawed) ps =>
    match ps.head?, ps.getLast? with
    | some p, some z =>
      if flawed || ps.any isQuotedString then do
        let pre ← if p.isCfws then pure true else p.firstIsCfws
        let post ← if z.isCfws then pure true else z.lastIsCfws
        let name ← nameOfParts ps
        pure ((if pre then [.char ' '] else []) ++ Glyphs.quote name ++
          (if post then [.char ' '] else []))
      else valueOf ps
    | _, _ => .ok []
  | .node .localPart ps => localPartValue ps
  | .node .addrSpec ps => addrSpecValue ps
  | .node _ ps => valueOf ps
  | .stray => .error (Fault.noAttribute "InvalidHeaderDefect" "value")

def valueOf : List Token → Except Fault Glyphs
  | [] => .ok []
  | t :: ts => do pure ((← value t) ++ (← valueOf ts))

/-- The values of all tokens but the last. -/
def valueOfInit : List Token → Except Fault Glyphs
  | [] => .ok []
  | [_] => .ok []
  | t :: tl@(_ :: _) => do pure ((← value t) ++ (← valueOfInit tl))

/-- The values of tokens whose last one loses a trailing run of comments and white
space: dropped when it is one, cut off its end when it ends in one. -/
def valueWithBack : List Token → Except Fault Glyphs
  | [] => .ok []
  | [q] =>
    if q.isCfws then .ok []
    else do
      if (← q.lastIsCfws) then
        match q with
        | .node _ qs => valueOfInit qs
        | _ => pure []
      else value q
  | q :: tl@(_ :: _) => do pure ((← value q) ++ (← valueWithBack tl))

/-- The name a display name's parts spell: their value without the comments and white
space at either end. -/
def nameOfParts : List Token → Except Fault Glyphs
  | [] => .ok []
  | [p] =>
    if p.isCfws then .error Fault.listIndex
    else do
      if (← p.firstIsCfws) then
        match p with
        | .node _ (_ :: t) =>
          match t.getLast? with
          | none => .error Fault.listIndex
          | some z => if z.isCfws then valueOfInit t else valueOf t
        | _ => pure []
      else do
        if (← p.lastIsCfws) then
          match p with
          | .node _ qs => valueOfInit qs
          | _ => pure []
        else value p
  | p :: tl@(_ :: _) =>
    if p.isCfws then valueWithBack tl
    else do
      if (← p.firstIsCfws) then
        match p with
        | .node _ (_ :: t) => do pure ((← valueOf t) ++ (← valueWithBack tl))
        | _ => valueWithBack tl
      else do pure ((← value p) ++ (← valueWithBack tl))

def quotedValueOf : List Token → Except Fault Glyphs
  | [] => .ok []
  | .node .bareQuotedString qs :: ps => do
    pure (text (.node .bareQuotedString qs) ++ (← quotedValueOf ps))
  | p :: ps => do pure ((← value p) ++ (← quotedValueOf ps))

/-- The value of a local part: a quoted string keeps its quotes. -/
def localPartValue : List Token → Except Fault Glyphs
  | [] => .error Fault.listIndex
  | .node .quotedString qs :: _ => quotedValueOf qs
  | p :: _ => value p

/-- The value of an address: local part, `@` and domain, without white space around
the `@`. -/
def addrSpecValue : List Token → Except Fault Glyphs
  | a :: b :: c :: _ => do
    pure (Glyphs.stripRight (← value a) ++ (← value b) ++ Glyphs.stripLeft (← value c))
  | a :: _ => value a
  | [] => .error Fault.listIndex
end

/-- The name of a display name: the value of its parts without the comments and white
space at either end. -/
def displayName (t : Token) : Except Fault Glyphs := nameOfParts t.parts

def domainText (t : Token) : Except Fault Glyphs := do
  pure (Glyphs.squeeze (← valueOf t.parts))

/-- One step over the parts of a local part: comments and white space are skipped, and
those next to a dot are cut from the neighbouring words. The accumulated parts are kept
last first. -/
def localPartStep : List Token → List Token → Token → Bool → Except Fault (List Token)
  | [], res, _, _ => .ok res
  | tok :: toks, res, last, lastNode =>
    if tok.isCfws then localPartStep toks res last lastNode
    else do
      let res ← if lastNode && tok.isDot then do
          if (← last.lastIsCfws) then
            match res with
            | _ :: r => pure (.node .plain last.parts.dropLast :: r)
            | [] => pure res
          else pure res
        else pure res
      let added ← if tok.isNode && last.isDot then do
          if (← tok.firstIsCfws) then pure (.node .plain tok.parts.tail) else pure tok
        else pure tok
      localPartStep toks (added :: res) added tok.isNode

/-- The local part a local-part token spells: the value of its words and dots, with the
comments and white space before, after and around dots left out. -/
def localPartText (t : Token) : Except Fault Glyphs := do
  let first ← match t.parts with
    | f :: _ => pure f
    | [] => throw Fault.listIndex
  let res ← localPartStep (first.parts ++ [.leaf .dot]) [.leaf .dot] (.leaf .dot) false
  valueOf ((res.reverse.drop 1).dropLast)

/-- The part of a node of the given kind, if it has one. -/
def partOfKind (p : Kind → Bool) (t : Token) : Option Token :=
  t.parts.find? fun q => match q with
    | .node k _ => p k
    | _ => false

def isAddrSpecKind : Kind → Bool
  | .addrSpec => true
  | _ => false

/-- The display name of a mailbox or group; none for a bare address or a broken
mailbox. -/
def mailboxName? : Token → Except Fault (Option Glyphs)
  | .node .mailbox (.node .nameAddr ps :: _) =>
    match ps with
    | [_] => pure none
    | d :: _ :: _ => some <$> displayName d
    | [] => throw Fault.listIndex
  | .node (.group _) (d :: _) => some <$> displayName d
  | .node (.group _) [] => throw Fault.listIndex
  | _ => pure none

/-- The address part of a mailbox: the bare address, or the address in angle brackets. -/
def addressOf? : Token → Option Token
  | .node .mailbox (.node .addrSpec ps :: _) => some (.node .addrSpec ps)
  | .node .mailbox (.node .nameAddr ps :: _) =>
    ps.getLast?.bind (partOfKind isAddrSpecKind)
  | _ => none

/-- The local part of a mailbox; a group has none, which is an error. -/
def mailboxLocalPart? (t : Token) : Except Fault (Option Glyphs) :=
  match t with
  | .node (.group _) _ => throw (Fault.noAttribute "Group" "local_part")
  | _ => match addressOf? t with
    | some a => match a.parts with
      | lp :: _ => some <$> localPartText lp
      | [] => throw Fault.listIndex
    | none => pure none

/-- The domain of a mailbox, none when its address has no `@`. -/
def mailboxDomain? (t : Token) : Except Fault (Option Glyphs) :=
  match t with
  | .node (.group _) _ => throw (Fault.noAttribute "Group" "domain")
  | _ => match addressOf? t with
    | some a =>
      if a.parts.length < 3 then pure none
      else match a.parts.getLast? with
        | some d => some <$> domainText d
        | none => pure none
    | none => pure none

end Token

end Uptime.Mail
