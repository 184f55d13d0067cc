import Uptime.Text.Blank
import Uptime.Text.Digit
/-!
Whole numbers written in decimal, as a command line takes them: blanks other than the
information separators around, an optional sign, and at most 4300 decimal digits of any script, where single underscores
may stand between two digits.
-/
namespace Uptime.Text

/-- The digits of a numeral with single underscores between digits, or none when an
underscore leads, trails or is doubled, or a character is no decimal digit. -/
def groupedDigits : List Char → Option (List Nat)
  | [] => some []
  | '_' :: d :: rest =>
    match decimalValue? d with
    | some v => (v :: ·) <$> groupedDigits rest
    | none => none
  | c :: rest =>
    match decimalValue? c with
    | some v => (v :: ·) <$> groupedDigits rest
    | none => none

/-- The blanks that may surround a numeral: all blanks but the information separators
`\x1c` to `\x1f`. -/
def isNumeralBlank (c : Char) : Bool :=
  isBlank c && !(0x1C ≤ c.toNat && c.toNat ≤ 0x1F)

/-- The whole number a text writes in decimal. -/
def integerOfText? (s : String) : Option Int :=
  let cs := ((s.toList.dropWhile isNumeralBlank).reverse.dropWhile isNumeralBlank).reverse
  let (negative, body) := match cs with
    | '-' :: r => (true, r)
    | '+' :: r => (false, r)
    | r => (false, r)
  match body with
  | [] | '_' :: _ => none
  | _ => do
    let ds ← groupedDigits body
    if ds.length > 4300 then none
    let n : Int := ds.foldl (fun (n : Int) (d : Nat) => n * 10 + (d : Int)) 0
    pure (if negative then -n else n)

end Uptime.Text
