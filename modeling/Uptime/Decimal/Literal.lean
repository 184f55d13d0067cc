import Uptime.Decimal.Shortest
/-!
Decimal literals read as binary64 values: an optional sign, digits with an optional
point and at least one digit in all, an optional exponent `e` or `E` with its own
optional sign, or one of the words `inf`, `infinity` and `nan` in any case. The value
is the binary64 value nearest the decimal, so reading never rounds twice.
-/
namespace Uptime.Decimal

def digitsValue (ds : List Char) : Nat :=
  ds.foldl (fun n d => n * 10 + (d.toNat - '0'.toNat)) 0

/-- A nonempty run of ASCII digits with an optional sign, as an integer. -/
def signedDigits? (cs : List Char) : Option Int :=
  let (neg, ds) := match cs with
    | '-' :: r => (true, r)
    | '+' :: r => (false, r)
    | r => (false, r)
  if ds.isEmpty ∨ ¬ ds.all Char.isDigit then none
  else
    let n : Int := digitsValue ds
    some (if neg then -n else n)

/-- The binary64 value a decimal literal stands for. -/
def ofLiteral? (cs : List Char) : Option Float :=
  let (neg, body) := match cs with
    | '-' :: r => (true, r)
    | '+' :: r => (false, r)
    | r => (false, r)
  let word := (String.ofList body).toLower
  let signed := fun (x : Float) => if neg then -x else x
  if word = "inf" ∨ word = "infinity" then some (signed (1.0 / 0.0))
  else if word = "nan" then some (0.0 / 0.0)
  else
    let whole := body.takeWhile Char.isDigit
    let (frac, r2) := match body.drop whole.length with
      | '.' :: r => (r.takeWhile Char.isDigit, r.drop (r.takeWhile Char.isDigit).length)
      | r => ([], r)
    if whole.isEmpty ∧ frac.isEmpty then none else
    let e : Option Int := match r2 with
      | [] => some 0
      | m :: r => if m = 'e' ∨ m = 'E' then signedDigits? r else none
    e.map fun e => signed (nearest (digitsValue (whole ++ frac)) (e - frac.length))

end Uptime.Decimal
