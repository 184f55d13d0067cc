import Uptime.Mail.EncodedWord
/-!
The lexical rules of header values: folding white space, comments, quoted strings,
atoms, dot-atoms, words and phrases, and the free text of an unstructured header. Each
rule reads from the start of a text and gives its token and the text after it.

A rule that does not fit fails with `Fault.mismatch`, which the rule that called it may
answer by trying another. Anything else ends the whole parse: the rules index into the
text without looking first in the same places the grammar's reference reader does, so
an empty text there is an error.

Loops carry fuel: each pass reads at least one glyph, so the length of the text plus
one is always enough, and running out is an error that cannot happen.
-/
namespace Uptime.Mail

abbrev Step := Except Fault (Token × Glyphs)

/-- The first glyph of a text; indexing an empty text is an error. -/
def headGlyph : Glyphs → Except Fault Glyph
  | g :: _ => .ok g
  | [] => .error Fault.stringIndex

/-- A token with `lead` put in front of its parts. A leaf has no parts to put it in
front of, which is an error. -/
def Token.prepend (t lead : Token) : Except Fault Token :=
  match t with
  | .node k ps => .ok (.node k (lead :: ps))
  | .leaf l => .error (.raised "TypeError"
      ("'" ++ l.className ++ "' object does not support item assignment"))
  | .stray => .error (.raised "TypeError"
      "'InvalidHeaderDefect' object does not support item assignment")

/-- Run `p`, and if its text does not fit, run `q` instead. -/
def orElse (p : Except Fault α) (q : Unit → Except Fault α) : Except Fault α :=
  match p with
  | .error (.mismatch _) => q ()
  | r => r

def fws (v : Glyphs) : Token × Glyphs :=
  (.leaf (.fws (v.takeWhile Glyph.isSpace)), v.dropWhile Glyph.isSpace)

/-- The characters of a fragment up to the first of `ends`, a backslash quoting the
character after it; the position reached, and whether a backslash was quoted. -/
def scanQuoted (ends : Glyph → Bool) : Glyphs → Bool → Bool → Glyphs → Glyphs × Glyphs × Bool
  | [], _, qp, acc => (acc.reverse, [], qp)
  | g :: rest, esc, qp, acc =>
    if g = .char '\\' && !esc then scanQuoted ends rest true qp acc
    else if g = .char '\\' then
      if ends g then (acc.reverse, g :: rest, true) else scanQuoted ends rest false true (g :: acc)
    else if esc then scanQuoted ends rest false qp (g :: acc)
    else if ends g then (acc.reverse, g :: rest, qp)
    else scanQuoted ends rest false qp (g :: acc)

/-- Printable text up to one of `ends`, within the text before the first blank or tab:
the characters with quoted pairs unquoted, the text after them, and whether a
backslash was quoted. Starting at white space is an error. -/
def quotedText (ends : Glyph → Bool) (v : Glyphs) : Except Fault (Glyphs × Glyphs × Bool) :=
  let fragment := v.takeWhile (!·.isWsp)
  if fragment.isEmpty then
    .error (.raised "UnboundLocalError"
      "cannot access local variable 'pos' where it is not associated with a value")
  else
    let (chars, restOfFragment, qp) := scanQuoted ends fragment false false []
    .ok (chars, restOfFragment ++ v.dropWhile (!·.isWsp), qp)

def commentPiece (v : Glyphs) : Step := do
  let (t, r, _) ← quotedText (·.isOneOf ['(', ')']) v
  pure (.leaf (.note t), r)

def quotedPiece (v : Glyphs) : Step := do
  let (t, r, _) ← quotedText (·.isOneOf ['"']) v
  pure (.leaf (.piece t), r)

/-- Atom text: everything up to a special or white space, at least one glyph. -/
def atext (v : Glyphs) : Step :=
  let a := v.takeWhile (!·.isAtomEnd)
  if a.isEmpty then .error (.mismatch false) else .ok (.leaf (.piece a), v.drop a.length)

/-- The parts of a comment after its opening parenthesis, nested comments included, and
the text after its closing one; a comment the text ends in is closed there. -/
def commentBody : Nat → Glyphs → List Token → Except Fault (List Token × Glyphs)
  | 0, _, _ => .error Fault.stalled
  | n + 1, v, acc =>
    match v with
    | [] => .ok (acc.reverse, [])
    | g :: rest =>
      if g = .char ')' then .ok (acc.reverse, rest)
      else if g.isWsp then
        let (t, r) := fws v
        commentBody n r (t :: acc)
      else if g = .char '(' then do
        let (inner, r) ← commentBody n rest []
        commentBody n r (.node .comment inner :: acc)
      else do
        let (t, r) ← commentPiece v
        commentBody n r (t :: acc)

/-- A comment at the start of the text. -/
def comment (v : Glyphs) : Step := do
  match v with
  | g :: rest =>
    if g != .char '(' then throw (.mismatch false)
    let (ps, r) ← commentBody (rest.length + 1) rest []
    pure (.node .comment ps, r)
  | [] => pure (.node .comment [], [])

/-- The comments and white space at the start of the text. -/
def cfwsParts : Nat → Glyphs → List Token → Except Fault (List Token × Glyphs)
  | 0, _, _ => .error Fault.stalled
  | n + 1, v, acc =>
    match v with
    | g :: _ =>
      if g.isWsp then
        let (t, r) := fws v
        cfwsParts n r (t :: acc)
      else if g.isCfwsLeader then do
        let (t, r) ← comment v
        cfwsParts n r (t :: acc)
      else .ok (acc.reverse, v)
    | [] => .ok (acc.reverse, v)

def cfws (v : Glyphs) : Step := do
  let (ps, r) ← cfwsParts (v.length + 1) v []
  pure (.node .cfws ps, r)

/-- Comments and white space, when the text starts with them. -/
def optionalCfws (v : Glyphs) : Except Fault (List Token × Glyphs) :=
  if Glyphs.startsWith Glyph.isCfwsLeader v then do
    let (t, r) ← cfws v
    pure ([t], r)
  else .ok ([], v)

/-- Merge the white space before an encoded word that follows another encoded word into
a gap. -/
def closeGap : List Token → List Token
  | .leaf (.fws s) :: e :: more => if e.isEncodedWord then .leaf (.gap s) :: e :: more
      else .leaf (.fws s) :: e :: more
  | acc => acc

/-- The parts of a quoted string after its opening quote, and the text from its closing
quote on. Encoded words inside are decoded. -/
def quotedBody : Nat → Glyphs → List Token → Except Fault (List Token × Glyphs)
  | 0, _, _ => .error Fault.stalled
  | n + 1, v, acc =>
    match v with
    | [] => .ok (acc.reverse, v)
    | g :: _ =>
      if g = .char '"' then .ok (acc.reverse, v)
      else if g.isWsp then
        let (t, r) := fws v
        quotedBody n r (t :: acc)
      else if v.hasPrefix "=?" then
        match encodedWord v with
        | .ok (t, r) =>
          quotedBody n r (t :: (if acc.length > 1 then closeGap acc else acc))
        | .error (.mismatch _) => do
          let (t, r) ← quotedPiece v
          quotedBody n r (t :: acc)
        | .error e => .error e
      else do
        let (t, r) ← quotedPiece v
        quotedBody n r (t :: acc)

/-- A quoted string without the comments around it; one the text ends in is closed
there. -/
def bareQuotedString (v : Glyphs) : Step := do
  let g ← headGlyph v
  if g != .char '"' then throw (.mismatch false)
  let v := v.drop 1
  let (first, v) ← if Glyphs.startsWith (· == .char '"') v then do
      let (t, r) ← quotedPiece v
      pure ([t], r)
    else pure ([], v)
  let (ps, r) ← quotedBody (v.length + 1) v first.reverse
  pure (.node .bareQuotedString ps, r.drop 1)

def quotedString (v : Glyphs) : Step := do
  let (pre, v) ← optionalCfws v
  let (b, v) ← bareQuotedString v
  let (post, v) ← optionalCfws v
  pure (.node .quotedString (pre ++ [b] ++ post), v)

/-- An atom with the comments and white space around it; an encoded word counts as an
atom. -/
def atom (v : Glyphs) : Step := do
  let (pre, v) ← optionalCfws v
  if Glyphs.startsWith Glyph.isAtomEnd v then throw (.mismatch false)
  let (t, v) ← if v.hasPrefix "=?" then orElse (encodedWord v) fun _ => atext v else atext v
  let (post, v) ← optionalCfws v
  pure (.node .atom (pre ++ [t] ++ post), v)

/-- The atoms and dots of a dot-atom, up to a special other than the dot, or white
space. -/
def dotAtomParts : Nat → Glyphs → List Token → Except Fault (List Token × Glyphs)
  | 0, _, _ => .error Fault.stalled
  | n + 1, v, acc =>
    if Glyphs.startsWith (!·.isAtomEnd) v then do
      let (t, r) ← atext v
      if Glyphs.startsWith (· == .char '.') r then dotAtomParts n (r.drop 1) (.leaf .dot :: t :: acc)
      else dotAtomParts n r (t :: acc)
    else .ok (acc.reverse, v)

def dotAtomText (v : Glyphs) : Step := do
  if v.isEmpty || Glyphs.startsWith Glyph.isAtomEnd v then throw (.mismatch false)
  let (ps, r) ← dotAtomParts (v.length + 1) v []
  if ps.getLast?.any Token.isDot then throw (.mismatch false)
  pure (.node .dotAtomText ps, r)

/-- A dot-atom with the comments and white space around it; an encoded word counts as
one. -/
def dotAtom (v : Glyphs) : Step := do
  let g ← headGlyph v
  let (pre, v) ← if g.isCfwsLeader then do
      let (t, r) ← cfws v
      pure ([t], r)
    else pure ([], v)
  let (t, v) ← if v.hasPrefix "=?" then orElse (encodedWord v) fun _ => dotAtomText v
    else dotAtomText v
  let (post, v) ← optionalCfws v
  pure (.node .dotAtom (pre ++ [t] ++ post), v)

/-- A word: an atom or a quoted string, the comments before it put in front of it. -/
def word (v : Glyphs) : Step := do
  let g ← headGlyph v
  let (lead, v) ← if g.isCfwsLeader then do
      let (t, r) ← cfws v
      pure (some t, r)
    else pure (none, v)
  let (t, r) ← match v with
    | [] => throw (.mismatch false)
    | h :: _ =>
      if h = .char '"' then quotedString v
      else if h.isSpecial then throw (.mismatch false)
      else atom v
  match lead with
  | some l => pure (← t.prepend l, r)
  | none => pure (t, r)

/-- The words, dots and comments of a phrase after its first word, up to a special that
ends it; whether any dot or lone comment was met. -/
def phraseParts : Nat → Glyphs → List Token → Bool →
    Except Fault (List Token × Glyphs × Bool)
  | 0, _, _, _ => .error Fault.stalled
  | n + 1, v, acc, flawed =>
    match v with
    | [] => .ok (acc.reverse, v, flawed)
    | g :: rest =>
      if g.isPhraseEnd then .ok (acc.reverse, v, flawed)
      else if g = .char '.' then phraseParts n rest (.leaf .dot :: acc) true
      else match word v with
        | .ok (t, r) => phraseParts n r (t :: acc) flawed
        | .error (.mismatch bad) =>
          if g.isCfwsLeader then do
            let (t, r) ← cfws v
            phraseParts n r (t :: acc) true
          else .error (.mismatch bad)
        | .error e => .error e

/-- A phrase: words, and in the obsolete form also dots and comments. A phrase that does
not start with a word is flawed. -/
def phrase (v : Glyphs) : Step := do
  let (first, flawed, v) ← match word v with
    | .ok (t, r) => pure ([t], false, r)
    | .error (.mismatch _) => pure ([], true, v)
    | .error e => throw e
  let (ps, r, flawed) ← phraseParts (v.length + 1) v first.reverse flawed
  pure (.node (.phrase flawed) ps, r)

/-- Whether the text after the encoding letter of an encoded word holds `?=` before any
line feed. -/
def closesOnLine : Glyphs → Bool
  | [] => false
  | g :: rest => (g = .char '?' && rest.head? = some (.char '=')) ||
      (g != .char '\n' && closesOnLine rest)

/-- Whether an encoded word's shape starts here: `=?`, a charset without `?`, `?`, one
of `qQbB`, `?`, and a closing `?=` on the same line. -/
def shapedHere (t : Glyphs) : Bool :=
  t.hasPrefix "=?" &&
    let afterOpen := t.drop 2
    match afterOpen.drop (afterOpen.takeWhile (· != .char '?')).length with
    | q :: e :: p :: body =>
      q == .char '?' && e.isOneOf ['q', 'Q', 'b', 'B'] && p == .char '?' && closesOnLine body
    | _ => false

def looksEncoded : Glyphs → Bool
  | [] => false
  | g :: rest => shapedHere (g :: rest) || looksEncoded rest

/-- The tokens of unstructured text: white space, encoded words and the runs between
them. A run that holds an encoded word's shape is cut before its `=?`, unless the text
there was tried as an encoded word and failed to decode. -/
def unstructuredParts : Nat → Glyphs → List Token → Except Fault (List Token)
  | 0, _, _ => .error Fault.stalled
  | n + 1, v, acc =>
    match v with
    | [] => .ok acc.reverse
    | g :: _ =>
      if g.isWsp then
        let (t, r) := fws v
        unstructuredParts n r (t :: acc)
      else
        let tried := if v.hasPrefix "=?" then some (encodedWord v) else none
        match tried with
        | some (.ok (t, r)) =>
          let spaced := match acc with
            | [] => true
            | last :: _ => last.isFws
          unstructuredParts n r (t :: (if spaced && acc.length > 1 then closeGap acc else acc))
        | some (.error (.raised c m)) => .error (.raised c m)
        | _ =>
          let decodable := match tried with
            | some (.error (.mismatch true)) => false
            | _ => true
          let run := v.takeWhile (!·.isWsp)
          let (run, r) := if decodable && looksEncoded run then
              match splitOnce (.ofString "=?") v with
              | some (before, after) => (before, Glyphs.ofString "=?" ++ after)
              | none => (run, v.dropWhile (!·.isWsp))
            else (run, v.dropWhile (!·.isWsp))
          unstructuredParts n r (.leaf (.piece run) :: acc)

def unstructured (v : Glyphs) : Except Fault Token := do
  pure (.node .unstructured (← unstructuredParts (v.length + 1) v []))

end Uptime.Mail
