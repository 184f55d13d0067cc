/-!
Shortest decimal text of a binary64 value. The reals that round to a finite value form an
interval; the digits chosen are the fewest that land in it, and of two such candidates
the one nearer the value, a tie going to the even one. A `Notation` record then lays the
digits out: where positional notation ends, how the exponent is marked, and the words for
the values that have no digits.
-/
namespace Uptime.Decimal

/-- A finite non-negative binary64 value, `m * 2^q`. -/
structure Binary where
  m : Nat
  q : Int
  /-- the gap to the value below is half the gap to the value above -/
  narrowBelow : Bool

def Binary.ofBits (b : UInt64) : Binary :=
  let e := ((b >>> 52) &&& 0x7FF).toNat
  let f := (b &&& 0xFFFFFFFFFFFFF).toNat
  if e == 0 then ⟨f, -1074, false⟩
  else ⟨Nat.pow 2 52 + f, (e : Int) - 1075, f == 0 && e > 1⟩

/-- `digits * 10^exp`. -/
structure Dec where
  digits : Nat
  exp : Int
deriving Repr, DecidableEq

def cmpScaled (a : Nat) (i : Int) (n : Nat) (j : Int) : Ordering :=
  compare (a * Nat.pow 10 i.toNat * Nat.pow 2 (-j).toNat)
    (n * Nat.pow 2 j.toNat * Nat.pow 10 (-i).toNat)

/-- `d` lies among the reals that round to `x` (to nearest, ties to even). -/
def Binary.readsBack (x : Binary) (d : Dec) : Bool :=
  let lo := if x.narrowBelow then 4 * x.m - 1 else 4 * x.m - 2
  let hi := 4 * x.m + 2
  let incl := x.m % 2 == 0
  let cl := cmpScaled d.digits d.exp lo (x.q - 2)
  let ch := cmpScaled d.digits d.exp hi (x.q - 2)
  (cl == .gt || (incl && cl == .eq)) && (ch == .lt || (incl && ch == .eq))

def Binary.below (x : Binary) (k : Int) : Bool :=
  cmpScaled 1 k x.m x.q == .gt

/-- The least `k` with `m * 2^q < 10^k`, for `m > 0`: an estimate from the binary
logarithm, then the first of the six exponents around it that is above the value. -/
def Binary.scale (x : Binary) : Int :=
  let est : Int := (x.q + (Nat.log2 x.m : Int)) * 30103 / 100000 + 1
  (((List.range 6).map (fun (i : Nat) => est - 2 + Int.ofNat i)).find? x.below).getD (est + 3)

def Binary.floorOnGrid (x : Binary) (g : Int) : Nat :=
  (x.m * Nat.pow 2 x.q.toNat * Nat.pow 10 (-g).toNat) /
    (Nat.pow 2 (-x.q).toNat * Nat.pow 10 g.toNat)

/-- Of two neighbours on the grid `10^g` that both read back, the nearer; a tie goes to
the even one. -/
def Binary.nearer (x : Binary) (lo : Nat) (g : Int) : Nat :=
  -- twice the value against the midpoint `(2 lo + 1) * 10^g`
  match cmpScaled (2 * lo + 1) g x.m (x.q + 1) with
  | .gt => lo
  | .lt => lo + 1
  | .eq => if lo % 2 == 0 then lo else lo + 1

/-- The candidate with `n` significant digits, if one reads back. -/
def Binary.onDigits (x : Binary) (k : Int) (n : Nat) : Option Dec :=
  let g := k - n
  let lo := x.floorOnGrid g
  match x.readsBack ⟨lo, g⟩, x.readsBack ⟨lo + 1, g⟩ with
  | true, true => some ⟨x.nearer lo g, g⟩
  | true, false => some ⟨lo, g⟩
  | false, true => some ⟨lo + 1, g⟩
  | false, false => none

def Dec.trim : Nat → Dec → Dec
  | 0, d => d
  | fuel + 1, d =>
    if d.digits ≠ 0 ∧ d.digits % 10 = 0 then Dec.trim fuel ⟨d.digits / 10, d.exp + 1⟩ else d

def Binary.exact (x : Binary) : Dec :=
  if x.q ≥ 0 then ⟨x.m * Nat.pow 2 x.q.toNat, 0⟩ else ⟨x.m * Nat.pow 5 (-x.q).toNat, x.q⟩

def Binary.shortest (x : Binary) : Dec :=
  let k := x.scale
  let found := (List.range 17).findSome? (fun i => x.onDigits k (i + 1))
  Dec.trim 40 (found.getD x.exact)

/-- The binary64 value nearest `m * 10^e`; far outside the range it is zero or infinite
without computing the power. -/
def nearest (m : Nat) (e : Int) : Float :=
  let size : Int := (toString m).length
  if m = 0 then 0
  else if e + size > 400 then Float.ofScientific 1 false 400
  else if e + size < -400 then 0
  else if e ≥ 0 then Float.ofScientific m false e.toNat
  else Float.ofScientific m true (-e).toNat

def digitsOf (n : Nat) : List Char :=
  (toString n).toList

/-- How a format lays out shortest digits. -/
structure Notation where
  /-- positional notation when the point falls after more than `lowPoint` places, ... -/
  lowPoint : Int
  /-- ... and after at most `highPoint` places -/
  highPoint : Int
  /-- the mark before the exponent -/
  expMark : String
  /-- the exponent has at least this many digits -/
  expWidth : Nat
  /-- a positive exponent carries a plus sign -/
  expPlus : Bool
  /-- a whole number in positional notation ends in `.0` -/
  pointZero : Bool
  nanText : String
  infText : String

def padZeros (w : Nat) (s : String) : String :=
  String.ofList (List.replicate (w - s.length) '0') ++ s

/-- Lay out a non-zero `digits * 10^exp` as the format says. -/
def Notation.layout (f : Notation) (d : Dec) : String :=
  let ds := digitsOf d.digits
  let n := ds.length
  -- the value is 0.d1 d2 ... dn * 10^point
  let point : Int := n + d.exp
  if f.lowPoint < point ∧ point ≤ f.highPoint then
    if point ≤ 0 then
      "0." ++ String.ofList (List.replicate (-point).toNat '0') ++ String.ofList ds
    else if point ≥ n then
      String.ofList ds ++ String.ofList (List.replicate (point.toNat - n) '0') ++
        (if f.pointZero then ".0" else "")
    else
      String.ofList (ds.take point.toNat) ++ "." ++ String.ofList (ds.drop point.toNat)
  else
    let e := point - 1
    let mant := match ds with
      | [] => "0"
      | [c] => c.toString
      | c :: rest => c.toString ++ "." ++ String.ofList rest
    let sign := if e < 0 then "-" else if f.expPlus then "+" else ""
    mant ++ f.expMark ++ sign ++ padZeros f.expWidth (toString e.natAbs)

/-- The text of a binary64 value in the given notation. -/
def Notation.render (f : Notation) (x : Float) : String :=
  let bits := x.toBits
  let neg := bits >>> 63 == 1
  let sign := if neg then "-" else ""
  let mag := Binary.ofBits bits
  let e := ((bits >>> 52) &&& 0x7FF).toNat
  if e == 0x7FF then
    if mag.m == Nat.pow 2 52 then sign ++ f.infText else f.nanText
  else if mag.m == 0 then
    sign ++ (if f.pointZero then "0.0" else "0")
  else
    sign ++ f.layout mag.shortest

end Uptime.Decimal
