import Uptime.Json.Write
import Uptime.Text.Quoted
/-!
Documents written as literals of a dynamic language, the way its `str` shows them: `None`,
`True` and `False`, numbers as in JSON except that infinity and NaN are `inf` and `nan`,
text in quotes, lists in brackets and objects in braces with `, ` and `: ` between
their parts. Text at the top is shown as it is.
-/
namespace Uptime.Json

open Uptime.Decimal Uptime.Text

/-- Numbers as literals: as in JSON, with `inf` and `nan` for the values without
digits. -/
def literalNotation : Notation :=
  { numberNotation with nanText := "nan", infText := "inf" }

namespace Value

mutual

/-- The literal of a value. -/
def literal : Value → String
  | .null => "None"
  | .bool true => "True"
  | .bool false => "False"
  | .int n => toString n
  | .float x => literalNotation.render x
  | .str s => quoted s
  | .arr xs => "[" ++ ", ".intercalate (literalItems xs) ++ "]"
  | .obj fs => "\x7b" ++ ", ".intercalate (literalMembers fs) ++ "\x7d"

def literalItems : List Value → List String
  | [] => []
  | x :: xs => x.literal :: literalItems xs

/-- Each member as the literal of its key, `: ` and the literal of its value. -/
def literalMembers : List (String × Value) → List String
  | [] => []
  | (k, v) :: fs => (quoted k ++ ": " ++ v.literal) :: literalMembers fs

end

/-- A value as text: text as it is, anything else as its literal. -/
def display : Value → String
  | .str s => s
  | v => v.literal

end Value

end Uptime.Json
