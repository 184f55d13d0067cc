import Uptime.Text.Blank
import Uptime.Encoding.Utf
/-!
The text a mail header is made of. Most of it is characters, but an encoded word whose
bytes its charset cannot read leaves those bytes in the text as they are; they travel
through parsing untouched and are read together, as UTF-8, only when the header value
is finished (`Glyphs.finish`). Two halves of one character split over two encoded words
therefore join up again.

The character classes are those the header parser uses: white space is a
blank or a tab, the specials are `()<>@,:;.\"[]`, and a phrase may hold dots, quotes and
comments.
-/
namespace Uptime.Mail

/-- A piece of header text: a character, or a byte that could not be read as one. -/
inductive Glyph where
  | char (c : Char)
  | byte (b : UInt8)
deriving DecidableEq, Repr

abbrev Glyphs := List Glyph

def Glyphs.ofString (s : String) : Glyphs := s.toList.map .char

namespace Glyph

/-- Whether a glyph is one of the given characters; a byte never is. -/
def isOneOf (g : Glyph) (cs : List Char) : Bool :=
  match g with
  | .char c => cs.contains c
  | .byte _ => false

def isWsp (g : Glyph) : Bool := g.isOneOf [' ', '\t']

def isCfwsLeader (g : Glyph) : Bool := g.isOneOf [' ', '\t', '(']

def specials : List Char := ['(', ')', '<', '>', '@', ',', ':', ';', '.', '\\', '"', '[', ']']

def isSpecial (g : Glyph) : Bool := g.isOneOf specials

def isAtomEnd (g : Glyph) : Bool := g.isSpecial || g.isWsp

def isDotAtomEnd (g : Glyph) : Bool := g.isAtomEnd && g != .char '.'

/-- A glyph that ends a phrase: a special other than the dot, the quote and the opening
parenthesis. -/
def isPhraseEnd (g : Glyph) : Bool := g.isSpecial && !g.isOneOf ['.', '"', '(']

def isSpace : Glyph → Bool
  | .char c => Uptime.Text.isBlank c
  | .byte _ => false

def utf8 : Glyph → List UInt8
  | .char c => String.utf8EncodeChar c
  | .byte b => [b]

def isByte : Glyph → Bool
  | .char _ => false
  | .byte _ => true

end Glyph

namespace Glyphs

/-- Whether a text starts with a glyph satisfying `p`; the empty text does not. -/
def startsWith (p : Glyph → Bool) : Glyphs → Bool
  | g :: _ => p g
  | [] => false

def hasPrefix (t : Glyphs) (s : String) : Bool := (ofString s).isPrefixOf t

def meets (t : Glyphs) (cs : List Char) : Bool := t.any (·.isOneOf cs)

def quote (t : Glyphs) : Glyphs :=
  .char '"' :: t.flatMap (fun g =>
    if g = .char '\\' then [.char '\\', .char '\\']
    else if g = .char '"' then [.char '\\', .char '"'] else [g]) ++ [.char '"']

def squeeze (t : Glyphs) : Glyphs := t.filter (!·.isSpace)

def stripLeft (t : Glyphs) : Glyphs := t.dropWhile Glyph.isSpace

def stripRight (t : Glyphs) : Glyphs := (t.reverse.dropWhile Glyph.isSpace).reverse

/-- The finished value of a header: text without unread bytes is its characters; text
with some is written out as UTF-8 and read back, each ill-formed run becoming one
replacement character. -/
def finish (t : Glyphs) : String :=
  if t.any Glyph.isByte then String.ofList (Encoding.replaced (Encoding.utf8Pieces (t.flatMap Glyph.utf8)))
  else String.ofList (t.filterMap fun g => match g with
    | .char c => some c
    | .byte _ => none)

end Glyphs

end Uptime.Mail
