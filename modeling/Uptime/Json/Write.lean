import Uptime.Json.Value
import Uptime.Decimal.Integral
/-!
Writing JSON text. A `Layout` fixes the separators, the indentation and whether only
ASCII may appear; keys are put in order by `Value.sortKeys` before writing when a format
asks for it. Numbers with a fraction are written with their shortest digits.
-/
namespace Uptime.Json

open Uptime.Decimal

/-- Numbers in JSON text: positional while the point falls within sixteen places, else
an exponent of at least two digits with its sign. -/
def numberNotation : Notation :=
  { lowPoint := -4, highPoint := 16, expMark := "e", expWidth := 2, expPlus := true,
    pointZero := true, nanText := "NaN", infText := "Infinity" }

/-- How a document is laid out. -/
structure Layout where
  /-- between two items or members -/
  itemSep : String
  /-- between a key and its value -/
  keySep : String
  /-- spaces per level; with none, everything is on one line -/
  indent : Option Nat
  /-- characters outside printable ASCII are escaped -/
  asciiOnly : Bool

def Layout.compact : Layout := ⟨",", ":", none, false⟩

def Layout.spaced : Layout := ⟨", ", ": ", none, true⟩

def Layout.spacedUnicode : Layout := ⟨", ", ": ", none, false⟩

def Layout.indented : Layout := ⟨",", ": ", some 2, true⟩

def hex4 (n : Nat) : String :=
  let ds := Nat.toDigits 16 n
  String.ofList (List.replicate (4 - ds.length) '0' ++ ds)

def unitEscape (c : Char) : String :=
  let n := c.toNat
  if n < 0x10000 then "\\u" ++ hex4 n
  else
    let m := n - 0x10000
    "\\u" ++ hex4 (0xD800 + m / 0x400) ++ "\\u" ++ hex4 (0xDC00 + m % 0x400)

/-- A character inside a string literal. -/
def escapeChar (asciiOnly : Bool) (c : Char) : String :=
  match c with
  | '"' => "\\\""
  | '\\' => "\\\\"
  | '\n' => "\\n"
  | '\r' => "\\r"
  | '\t' => "\\t"
  | '\x08' => "\\b"
  | '\x0c' => "\\f"
  | c => if c.toNat < 0x20 || (asciiOnly && c.toNat > 0x7e) then unitEscape c else c.toString

def quote (asciiOnly : Bool) (s : String) : String :=
  "\"" ++ String.join (s.toList.map (escapeChar asciiOnly)) ++ "\""

def floatText (x : Float) : String :=
  numberNotation.render x

namespace Value

mutual

def sortKeys : Value → Value
  | .arr xs => .arr (sortItems xs)
  | .obj fs => .obj ((sortMembers fs).mergeSort (fun a b => !(b.1 < a.1)))
  | v => v

def sortItems : List Value → List Value
  | [] => []
  | x :: xs => sortKeys x :: sortItems xs

def sortMembers : List (String × Value) → List (String × Value)
  | [] => []
  | (k, v) :: fs => (k, sortKeys v) :: sortMembers fs

end

def breakAt (l : Layout) (level : Nat) : String :=
  match l.indent with
  | none => ""
  | some w => "\n" ++ String.ofList (List.replicate (w * level) ' ')

def joinAt (l : Layout) (level : Nat) (parts : List String) : String :=
  breakAt l level ++ (l.itemSep ++ breakAt l level).intercalate parts ++ breakAt l (level - 1)

mutual

/-- The text of a value whose containers open at nesting `level`. -/
def renderAt (l : Layout) (level : Nat) : Value → String
  | .null => "null"
  | .bool true => "true"
  | .bool false => "false"
  | .int n => toString n
  | .float x => floatText x
  | .str s => quote l.asciiOnly s
  | .arr [] => "[]"
  | .arr xs => "[" ++ joinAt l (level + 1) (renderItems l (level + 1) xs) ++ "]"
  | .obj [] => "\x7b\x7d"
  | .obj fs => "\x7b" ++ joinAt l (level + 1) (renderMembers l (level + 1) fs) ++ "\x7d"

def renderItems (l : Layout) (level : Nat) : List Value → List String
  | [] => []
  | x :: xs => renderAt l level x :: renderItems l level xs

def renderMembers (l : Layout) (level : Nat) : List (String × Value) → List String
  | [] => []
  | (k, v) :: fs =>
    (quote l.asciiOnly k ++ l.keySep ++ renderAt l level v) :: renderMembers l level fs

end

def render (l : Layout) (v : Value) : String :=
  renderAt l 0 v

def renderSorted (l : Layout) (v : Value) : String :=
  renderAt l 0 v.sortKeys

mutual

def strict : Value → Bool
  | .float x => isFinite x
  | .arr xs => strictItems xs
  | .obj fs => strictMembers fs
  | _ => true

def strictItems : List Value → Bool
  | [] => true
  | x :: xs => x.strict && strictItems xs

def strictMembers : List (String × Value) → Bool
  | [] => true
  | (_, v) :: fs => v.strict && strictMembers fs

end

end Value

end Uptime.Json
