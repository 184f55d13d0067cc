import Uptime.Mail.Words
/-!
The grammar of mail addresses, read leniently the way mail headers are: local parts,
domains and domain literals, addresses in angle brackets with an obsolete route in
front, mailboxes with or without a display name, groups, and lists of addresses.

An address that does not parse is not refused: the text up to the next comma becomes a
broken mailbox (`Kind.invalidMailbox`), and text after a good address is added to it.
Two kinds of input make the reader fail outright, as its reference does: a domain
literal the header ends in leaves a defect record among the tokens, which a mailbox
cannot be checked over; and several rules index into text they have not checked is
there.
-/
namespace Uptime.Mail

mutual
def Token.hasStray : Token → Bool
  | .stray => true
  | .leaf _ => false
  | .node _ ps => Token.anyStray ps

def Token.anyStray : List Token → Bool
  | [] => false
  | t :: ts => Token.hasStray t || Token.anyStray ts
end

def literal (s : String) : Token := .leaf (.piece (.ofString s))

/-- Put a leading token, if there is one, in front of a token's parts. -/
def withLead (lead : Option Token) (t : Token) : Except Fault Token :=
  match lead with
  | some l => t.prepend l
  | none => .ok t

def leadingCfws (v : Glyphs) : Except Fault (Option Token × Glyphs) := do
  let g ← headGlyph v
  if g.isCfwsLeader then do
    let (t, r) ← cfws v
    pure (some t, r)
  else pure (none, v)

/-- The words, dots, stray backslashes and comments of an obsolete local part. -/
def obsLocalPartParts : Nat → Glyphs → List Token → Except Fault (List Token × Glyphs)
  | 0, _, _ => .error Fault.stalled
  | n + 1, v, acc =>
    match v with
    | [] => .ok (acc.reverse, v)
    | g :: rest =>
      if g != .char '\\' && g.isPhraseEnd then .ok (acc.reverse, v)
      else if g = .char '.' then obsLocalPartParts n rest (.leaf .dot :: acc)
      else if g = .char '\\' then obsLocalPartParts n rest (literal "\\" :: acc)
      else match word v with
        | .ok (t, r) => obsLocalPartParts n r (t :: acc)
        | .error (.mismatch bad) =>
          if g.isCfwsLeader then do
            let (t, r) ← cfws v
            obsLocalPartParts n r (t :: acc)
          else .error (.mismatch bad)
        | .error e => .error e

/-- An obsolete local part: words joined by dots, with comments and white space. Its
ends are checked for dots, which fails on an empty one or on one that is only a
comment. -/
def obsLocalPart (v : Glyphs) : Step := do
  let (ps, r) ← obsLocalPartParts (v.length + 1) v []
  match ps with
  | [] => throw Fault.listIndex
  | [p] => if p.isDot || !p.isCfws then pure (.node .obsLocalPart ps, r) else throw Fault.listIndex
  | _ => pure (.node .obsLocalPart ps, r)

/-- A local part: a dot-atom or a word, the comments before it put in front. When more
follows that could belong to it, the whole is read again, as written, as an obsolete
local part. -/
def localPart (v : Glyphs) : Step := do
  let (lead, v) ← leadingCfws v
  if v.isEmpty then throw (.mismatch false)
  let (tok, v) ← match dotAtom v with
    | .ok r => pure r
    | .error (.mismatch _) => match word v with
      | .ok r => pure r
      | .error (.mismatch bad) => do
        let h ← headGlyph v
        if h != .char '\\' && h.isPhraseEnd then throw (.mismatch bad)
        pure (.node .plain [], v)
      | .error e => throw e
    | .error e => throw e
  let tok ← withLead lead tok
  let lp : Token := .node .localPart [tok]
  if Glyphs.startsWith (fun h => h == .char '\\' || !h.isPhraseEnd) v then do
    let (obs, r) ← obsLocalPart (lp.text ++ v)
    pure (.node .localPart [obs], r)
  else pure (lp, v)

def dtext (v : Glyphs) : Step := do
  let (t, r, _) ← quotedText (·.isOneOf ['[', ']']) v
  pure (.leaf (.piece t), r)

/-- A domain literal the header ends in: closed with a defect record before the
bracket. -/
def unfinishedLiteral (parts : List Token) (v : Glyphs) : Token × Glyphs :=
  (.node .domainLiteral (parts ++ [.stray, literal "]"]), v)

/-- Folding white space, when the text starts with a blank or tab. -/
def optionalFws (v : Glyphs) : List Token × Glyphs :=
  if Glyphs.startsWith Glyph.isWsp v then
    let (t, r) := fws v
    ([t], r)
  else ([], v)

/-- A domain literal in brackets, with the comments around it. -/
def domainLiteral (v : Glyphs) : Step := do
  let (pre, v) ← match ← leadingCfws v with
    | (some t, r) => pure ([t], r)
    | (none, r) => pure ([], r)
  match v with
  | [] => throw (.mismatch false)
  | h :: rest =>
    if h != .char '[' then throw (.mismatch false)
    if rest.isEmpty then return unfinishedLiteral pre rest
    let (blank, v) := optionalFws rest
    let (t, v) ← dtext v
    let parts := pre ++ [literal "["] ++ blank ++ [t]
    if v.isEmpty then return unfinishedLiteral parts v
    let (blank, v) := optionalFws v
    let parts := parts ++ blank
    if v.isEmpty then return unfinishedLiteral parts v
    if !Glyphs.startsWith (· == .char ']') v then throw (.mismatch false)
    let (post, v) ← optionalCfws (v.drop 1)
    pure (.node .domainLiteral (parts ++ [literal "]"] ++ post), v)

/-- Atoms after dots in an obsolete domain. -/
def domainDots : Nat → Glyphs → List Token → Except Fault (List Token × Glyphs)
  | 0, _, _ => .error Fault.stalled
  | n + 1, v, acc =>
    if Glyphs.startsWith (· == .char '.') v then do
      let (t, r) ← atom (v.drop 1)
      domainDots n r (t :: .leaf .dot :: acc)
    else .ok (acc.reverse, v)

/-- A domain: a domain literal, a dot-atom, or in the obsolete form atoms joined by dots
with comments between them. A domain may not be followed by another `@`. -/
def domain (v : Glyphs) : Step := do
  let (lead, v) ← leadingCfws v
  match v with
  | [] => throw (.mismatch false)
  | h :: _ =>
    if h = .char '[' then do
      let (t, r) ← domainLiteral v
      pure (.node .domain [← withLead lead t], r)
    else do
      let (t, r) ← orElse (dotAtom v) fun _ => atom v
      if Glyphs.startsWith (· == .char '@') r then throw (.mismatch false)
      let t ← withLead lead t
      if Glyphs.startsWith (· == .char '.') r then do
        let base := match t with
          | .node .dotAtom ps => ps
          | _ => [t]
        let (more, r) ← domainDots (r.length + 1) r []
        pure (.node .domain (base ++ more), r)
      else pure (.node .domain [t], r)

/-- An address: a local part, and after an `@` a domain. -/
def addrSpec (v : Glyphs) : Step := do
  let (lp, v) ← localPart v
  match v with
  | h :: rest =>
    if h = .char '@' then do
      let (d, r) ← domain rest
      pure (.node .addrSpec [lp, literal "@", d], r)
    else pure (.node .addrSpec [lp], v)
  | [] => pure (.node .addrSpec [lp], v)

/-- The commas and comments before the first domain of a route. -/
def routeLead : Nat → Glyphs → List Token → Except Fault (List Token × Glyphs)
  | 0, _, _ => .error Fault.stalled
  | n + 1, v, acc =>
    match v with
    | g :: rest =>
      if g.isCfwsLeader then do
        let (t, r) ← cfws v
        routeLead n r (t :: acc)
      else if g = .char ',' then routeLead n rest (literal "," :: acc)
      else .ok (acc.reverse, v)
    | [] => .ok (acc.reverse, v)

/-- The further domains of a route, each after a comma. -/
def routeMore : Nat → Glyphs → List Token → Except Fault (List Token × Glyphs)
  | 0, _, _ => .error Fault.stalled
  | n + 1, v, acc =>
    match v with
    | g :: rest =>
      if g != .char ',' then .ok (acc.reverse, v)
      else if rest.isEmpty then .ok ((literal "," :: acc).reverse, rest)
      else do
        let (blank, r) ← optionalCfws rest
        let h ← headGlyph r
        if h = .char '@' then do
          let (d, r) ← domain (r.drop 1)
          routeMore n r (d :: literal "@" :: blank.reverse ++ literal "," :: acc)
        else routeMore n r (blank.reverse ++ literal "," :: acc)
    | [] => .ok (acc.reverse, v)

/-- An obsolete route: domains each after an `@`, separated by commas, ended by a
colon. -/
def obsRoute (v : Glyphs) : Step := do
  let (lead, v) ← routeLead (v.length + 1) v []
  match v with
  | h :: rest =>
    if h != .char '@' then throw (.mismatch false)
    let (d, v) ← domain rest
    let (more, v) ← routeMore (v.length + 1) v []
    match v with
    | [] => throw (.mismatch false)
    | c :: after =>
      if c != .char ':' then throw (.mismatch false)
      pure (.node .obsRoute (lead ++ [literal "@", d] ++ more ++ [literal ":"]), after)
  | [] => throw (.mismatch false)

/-- An address in angle brackets, maybe empty, maybe with a route in front, with the
comments around it; a missing closing bracket is allowed. -/
def angleAddr (v : Glyphs) : Step := do
  let (lead, v) ← leadingCfws v
  let pre := lead.toList
  match v with
  | [] => throw (.mismatch false)
  | h :: rest =>
    if h != .char '<' then throw (.mismatch false)
    let h2 ← headGlyph rest
    if h2 = .char '>' then
      return (.node .angleAddr (pre ++ [literal "<", literal ">"]), rest.drop 1)
    let (inner, v) ← match addrSpec rest with
      | .ok (a, r) => pure ([a], r)
      | .error (.mismatch _) => do
        let (route, r) ← match obsRoute rest with
          | .ok x => pure x
          | .error (.mismatch _) => throw (.mismatch false)
          | .error e => throw e
        let (a, r) ← addrSpec r
        pure ([route, a], r)
      | .error e => throw e
    let v := if Glyphs.startsWith (· == .char '>') v then v.drop 1 else v
    let (post, v) ← optionalCfws v
    pure (.node .angleAddr (pre ++ [literal "<"] ++ inner ++ [literal ">"] ++ post), v)

/-- A display name: a phrase. -/
def displayNameToken (v : Glyphs) : Step := do
  match ← phrase v with
  | (.node (.phrase flawed) ps, r) => pure (.node (.displayName flawed) ps, r)
  | (t, r) => pure (t, r)

/-- A display name followed by an address in angle brackets, or the bracketed address
alone. Comments before the name go in front of its first word. -/
def nameAddr (v : Glyphs) : Step := do
  let (lead, v) ← leadingCfws v
  if lead.isSome && v.isEmpty then throw (.mismatch false)
  let h ← headGlyph v
  let (name, lead, v) ← if h != .char '<' then do
      if h.isPhraseEnd then throw (.mismatch false)
      let (dn, r) ← displayNameToken v
      if r.isEmpty then throw (.mismatch false)
      let dn ← match lead, dn with
        | some l, .node k (p :: ps) => do pure (.node k ((← p.prepend l) :: ps))
        | some _, _ => throw Fault.listIndex
        | none, _ => pure dn
      pure ([dn], none, r)
    else pure ([], lead, v)
  let (aa, r) ← angleAddr v
  pure (.node .nameAddr (name ++ [← withLead lead aa]), r)

/-- A mailbox: a name with an address in angle brackets, or a bare address. A mailbox
holding a defect record cannot be checked for defects, which is an error. -/
def mailbox (v : Glyphs) : Step := do
  let (t, r) ← match nameAddr v with
    | .ok x => pure x
    | .error (.mismatch _) => match addrSpec v with
      | .ok x => pure x
      | .error (.mismatch _) => throw (.mismatch false)
      | .error e => throw e
    | .error e => throw e
  if t.hasStray then throw (Fault.noAttribute "InvalidHeaderDefect" "all_defects")
  pure (.node .mailbox [t], r)

/-- The phrases and misplaced specials of a broken mailbox, up to one of `ends`. -/
def invalidParts (ends : Glyph → Bool) : Nat → Glyphs → List Token →
    Except Fault (List Token × Glyphs)
  | 0, _, _ => .error Fault.stalled
  | n + 1, v, acc =>
    match v with
    | [] => .ok (acc.reverse, v)
    | g :: rest =>
      if ends g then .ok (acc.reverse, v)
      else if g.isPhraseEnd then invalidParts ends n rest (.leaf (.piece [g]) :: acc)
      else do
        let (t, r) ← phrase v
        invalidParts ends n r (t :: acc)

/-- A broken mailbox: everything up to one of `ends`. -/
def invalidMailbox (ends : Glyph → Bool) (v : Glyphs) : Step := do
  let (ps, r) ← invalidParts ends (v.length + 1) v []
  pure (.node .invalidMailbox ps, r)

/-- A token with more parts added at its end; a group so extended is taken for a broken
mailbox. -/
def extendWith (extra : List Token) : Token → Except Fault Token
  | .node (.group _) ps => .ok (.node (.group true) (ps ++ extra))
  | .node k ps => .ok (.node k (ps ++ extra))
  | .leaf l => .error (Fault.noAttribute l.className "extend")
  | .stray => .error (Fault.noAttribute "InvalidHeaderDefect" "extend")

def isSomeMailbox : Token → Bool
  | .node .mailbox _ | .node .invalidMailbox _ => true
  | _ => false

/-- The mailboxes of a group, up to a semicolon: broken ones are kept, empty entries
dropped, text after a mailbox added to it. -/
def mailboxListParts : Nat → Glyphs → List Token → Except Fault (List Token × Glyphs)
  | 0, _, _ => .error Fault.stalled
  | n + 1, v, acc =>
    match v with
    | [] => .ok (acc.reverse, v)
    | g :: _ =>
      if g = .char ';' then .ok (acc.reverse, v)
      else do
        let ends := fun (h : Glyph) => h.isOneOf [',', ';']
        let (acc, v) ← match mailbox v with
          | .ok (t, r) => pure (t :: acc, r)
          | .error (.mismatch _) =>
            if g.isCfwsLeader then do
              let (lead, r) ← cfws v
              if r.isEmpty || Glyphs.startsWith ends r then pure (lead :: acc, r)
              else do
                let (im, r) ← invalidMailbox ends r
                pure ((← im.prepend lead) :: acc, r)
            else if g = .char ',' then pure (acc, v)
            else do
              let (im, r) ← invalidMailbox ends v
              pure (im :: acc, r)
          | .error e => throw e
        let (acc, v) ← if Glyphs.startsWith (!ends ·) v then do
            let (im, r) ← invalidMailbox ends v
            match acc with
            | m :: more => pure ((← extendWith im.parts m) :: more, r)
            | [] => throw Fault.listIndex
          else pure (acc, v)
        if Glyphs.startsWith (· == .char ',') v then mailboxListParts n (v.drop 1) (literal "," :: acc)
        else mailboxListParts n v acc

def mailboxList (v : Glyphs) : Step := do
  let (ps, r) ← mailboxListParts (v.length + 1) v []
  pure (.node .mailboxList ps, r)

/-- The members of a group: comments alone, or a mailbox list with the comments before
it put in front; a list without mailboxes is spread into the group list. -/
def groupList (v : Glyphs) : Step := do
  if v.isEmpty then return (.node .groupList [], v)
  let (lead, v) ← optionalCfws v
  if !lead.isEmpty && (v.isEmpty || Glyphs.startsWith (· == .char ';') v) then
    return (.node .groupList lead, v)
  let (ml, r) ← mailboxList v
  if (ml.parts.filter isSomeMailbox).isEmpty then
    pure (.node .groupList (lead ++ ml.parts), r)
  else match lead with
    | l :: _ => pure (.node .groupList [← ml.prepend l], r)
    | [] => pure (.node .groupList [ml], r)

/-- A group: a display name, a colon, its members and a semicolon, which the end of the
header may stand for. -/
def group (v : Glyphs) : Step := do
  let (dn, v) ← displayNameToken v
  match v with
  | [] => throw (.mismatch false)
  | h :: rest =>
    if h != .char ':' then throw (.mismatch false)
    if Glyphs.startsWith (· == .char ';') rest then
      return (.node (.group false) [dn, literal ":", literal ";"], rest.drop 1)
    let (gl, v) ← groupList rest
    if !v.isEmpty && !Glyphs.startsWith (· == .char ';') v then throw (.mismatch false)
    let (post, v) ← optionalCfws (v.drop 1)
    pure (.node (.group false) ([dn, literal ":", gl, literal ";"] ++ post), v)

/-- An address: a group, else a mailbox. -/
def address (v : Glyphs) : Step := do
  let (t, r) ← match group v with
    | .ok x => pure x
    | .error (.mismatch _) => match mailbox v with
      | .ok x => pure x
      | .error (.mismatch _) => throw (.mismatch false)
      | .error e => throw e
    | .error e => throw e
  pure (.node .address [t], r)

/-- The addresses of a list, separated by commas: text that is no address becomes a
broken mailbox, text after an address is added to it, empty entries are dropped. -/
def addressListParts : Nat → Glyphs → List Token → Except Fault (List Token)
  | 0, _, _ => .error Fault.stalled
  | n + 1, v, acc =>
    match v with
    | [] => .ok acc.reverse
    | g :: _ => do
      let comma := fun (h : Glyph) => h == .char ','
      let (acc, v) ← match address v with
        | .ok (t, r) => pure (t :: acc, r)
        | .error (.mismatch _) =>
          if g.isCfwsLeader then do
            let (lead, r) ← cfws v
            if r.isEmpty || Glyphs.startsWith comma r then pure (lead :: acc, r)
            else do
              let (im, r) ← invalidMailbox comma r
              pure (.node .address [← im.prepend lead] :: acc, r)
          else if g = .char ',' then pure (acc, v)
          else do
            let (im, r) ← invalidMailbox comma v
            pure (.node .address [im] :: acc, r)
        | .error e => throw e
      let (acc, v) ← if Glyphs.startsWith (!comma ·) v then do
          let (im, r) ← invalidMailbox comma v
          match acc with
          | .node k (m :: ms) :: more => pure (.node k ((← extendWith im.parts m) :: ms) :: more, r)
          | _ => throw Fault.listIndex
        else pure (acc, v)
      match v with
      | [] => addressListParts n v acc
      | _ :: rest => addressListParts n rest (literal "," :: acc)

def addressList (v : Glyphs) : Except Fault Token := do
  pure (.node .addressList (← addressListParts (v.length + 1) v []))

end Uptime.Mail
