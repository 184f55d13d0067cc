/-!
Binary64 arithmetic done exactly on whole numbers, for computations whose results depend
on how floats round. A non-negative value is `m * 2^e`; a quotient of whole numbers is
rounded to the nearest value with a mantissa of at most 53 bits, a tie going to the even
mantissa, as IEEE 754 division does. The values met here stay far inside the normal
range of the format, so no subnormal or infinite result is modelled.
-/
namespace Uptime.Decimal

/-- A non-negative binary64 value `m * 2^e`. -/
structure Dyadic where
  m : Nat
  e : Int
deriving DecidableEq, Repr

def roundDivEven (a b : Nat) : Nat :=
  if 2 * (a % b) > b ∨ (2 * (a % b) = b ∧ (a / b) % 2 = 1) then a / b + 1 else a / b

namespace Dyadic

def scaled (p q : Nat) (e : Int) : Nat × Nat :=
  if e ≥ 0 then (p, q * Nat.pow 2 e.toNat) else (p * Nat.pow 2 (-e).toNat, q)

/-- The binary64 value nearest `p / q`; zero when either is zero. The exponent is the
one that puts `p / (q * 2^e)` in `[2^52, 2^53)`; a mantissa rounded up to `2^53` moves
to the next exponent. -/
def ofRatio (p q : Nat) : Dyadic :=
  if p = 0 ∨ q = 0 then ⟨0, 0⟩
  else
    let e₀ : Int := (Nat.log2 p : Int) - (Nat.log2 q : Int) - 52
    let e := if (scaled p q e₀).1 < (scaled p q e₀).2 * Nat.pow 2 52 then e₀ - 1 else e₀
    let m := roundDivEven (scaled p q e).1 (scaled p q e).2
    if m = Nat.pow 2 53 then ⟨Nat.pow 2 52, e + 1⟩ else ⟨m, e⟩

def div (x : Dyadic) (d : Nat) : Dyadic :=
  if x.e ≥ 0 then ofRatio (x.m * Nat.pow 2 x.e.toNat) d
  else ofRatio x.m (d * Nat.pow 2 (-x.e).toNat)

def lt (x : Dyadic) (n : Nat) : Bool :=
  if x.e ≥ 0 then x.m * Nat.pow 2 x.e.toNat < n else x.m < n * Nat.pow 2 (-x.e).toNat

def roundEven (x : Dyadic) : Nat :=
  if x.e ≥ 0 then x.m * Nat.pow 2 x.e.toNat else roundDivEven x.m (Nat.pow 2 (-x.e).toNat)

def floorDiv (x : Dyadic) (d : Nat) : Nat :=
  if x.e ≥ 0 then x.m * Nat.pow 2 x.e.toNat / d else x.m / (d * Nat.pow 2 (-x.e).toNat)

end Dyadic

end Uptime.Decimal
