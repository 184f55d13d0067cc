import Uptime.Text.Printable
/-!
Quoted text as messages show it: in single quotes, or in double quotes when the text
holds a single quote and no double quote. The chosen quote and the backslash are
escaped, tab, line feed and carriage return by their letters, other characters that
are not printable by their code in hexadecimal, two, four or eight digits wide.
-/
namespace Uptime.Text

def hexPadded (w : Nat) (n : Nat) : String :=
  let ds := Nat.toDigits 16 n
  String.ofList (List.replicate (w - ds.length) '0' ++ ds)

/-- A character inside quotes `q`. -/
def quotedChar (q : Char) (c : Char) : String :=
  if c = q ∨ c = '\\' then "\\" ++ c.toString
  else if c = '\t' then "\\t"
  else if c = '\n' then "\\n"
  else if c = '\r' then "\\r"
  else if isPrintable c then c.toString
  else if c.toNat ≤ 0xFF then "\\x" ++ hexPadded 2 c.toNat
  else if c.toNat ≤ 0xFFFF then "\\u" ++ hexPadded 4 c.toNat
  else "\\U" ++ hexPadded 8 c.toNat

def singleQuote : Char := Char.ofNat 0x27

def quoteFor (s : String) : Char :=
  if s.toList.contains singleQuote ∧ ¬ s.toList.contains '"' then '"' else singleQuote

def quoted (s : String) : String :=
  let q := quoteFor s
  q.toString ++ String.join (s.toList.map (quotedChar q)) ++ q.toString

/-- Code points in quotes, as `quoted` writes text; a surrogate, which no character
holds, is written by its code like any character that is not printable. -/
def quotedCodes (cs : List Nat) : String :=
  let isChar (n : Nat) : Bool := n < 0xD800 || (0xDFFF < n && n < 0x110000)
  let q := quoteFor (String.ofList ((cs.filter isChar).map Char.ofNat))
  q.toString ++ String.join (cs.map fun n =>
    if isChar n then quotedChar q (Char.ofNat n) else "\\u" ++ hexPadded 4 n) ++ q.toString

end Uptime.Text
