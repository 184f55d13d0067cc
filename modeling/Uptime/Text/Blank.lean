/-!
Blank characters: the ASCII blanks and separators, the information separators
`\x1c` to `\x1f`, the next-line character, and the spaces and line and paragraph
separators of Unicode 14.0. `strip` removes them from both ends of a text.
-/
namespace Uptime.Text

def isBlank (c : Char) : Bool :=
  let n := c.toNat
  (0x09 ≤ n && n ≤ 0x0D) || (0x1C ≤ n && n ≤ 0x20) || n == 0x85 || n == 0xA0 ||
    n == 0x1680 || (0x2000 ≤ n && n ≤ 0x200A) || n == 0x2028 || n == 0x2029 ||
    n == 0x202F || n == 0x205F || n == 0x3000

def dropBlanksRight (cs : List Char) : List Char :=
  (cs.reverse.dropWhile isBlank).reverse

def strip (s : String) : String :=
  String.ofList (dropBlanksRight (s.toList.dropWhile isBlank))

def stripRight (s : String) : String :=
  String.ofList (dropBlanksRight s.toList)

def stripLeft (s : String) : String :=
  String.ofList (s.toList.dropWhile isBlank)

end Uptime.Text
