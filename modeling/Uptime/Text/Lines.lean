/-!
Text split into lines. A line ends at a break character, `\r\n` counting as one break;
the break is not part of the line, and text ending in a break has no empty line after
it. Byte text breaks only at `\n` and `\r`; Unicode text also at the vertical tab, form
feed, the file, group and record separators, next line, and the line and paragraph
separators.
-/
namespace Uptime.Text

def isLineBreak (c : Char) : Bool :=
  ['\n', '\r', '\x0b', '\x0c', '\x1c', '\x1d', '\x1e', '\x85', '\u2028', '\u2029'].contains c

def isByteLineBreak (c : Char) : Bool :=
  c = '\n' || c = '\r'

/-- The lines of `cs`, the current line so far in `cur` (reversed), the lines found
before it in `acc` (reversed). -/
def splitLinesFrom (isBreak : Char → Bool) : List Char → List Char → List String → List String
  | [], cur, acc => (if cur.isEmpty then acc else String.ofList cur.reverse :: acc).reverse
  | '\r' :: '\n' :: rest, cur, acc =>
    if isBreak '\r' then splitLinesFrom isBreak rest [] (String.ofList cur.reverse :: acc)
    else splitLinesFrom isBreak ('\n' :: rest) ('\r' :: cur) acc
  | c :: rest, cur, acc =>
    if isBreak c then splitLinesFrom isBreak rest [] (String.ofList cur.reverse :: acc)
    else splitLinesFrom isBreak rest (c :: cur) acc

def splitLines (s : String) : List String :=
  splitLinesFrom isLineBreak s.toList [] []

def splitByteLines (s : String) : List String :=
  splitLinesFrom isByteLineBreak s.toList [] []

end Uptime.Text
