import Uptime.Decimal.Shortest
/-!
The whole numbers behind binary64 values, exactly: the integer a value without fraction
stands for, the integer part of any finite value, cut toward zero, and the nearest
integer, a tie going to the even one. None exists for infinities and NaN.
-/
namespace Uptime.Decimal

def isFinite (x : Float) : Bool :=
  ((x.toBits >>> 52) &&& 0x7FF) != 0x7FF

def isNaN (x : Float) : Bool :=
  !isFinite x && (x.toBits &&& 0xFFFFFFFFFFFFF) != 0

def signBit (x : Float) : Bool :=
  x.toBits >>> 63 == 1

def Binary.floor (b : Binary) : Nat :=
  if b.q ≥ 0 then b.m * Nat.pow 2 b.q.toNat else b.m / Nat.pow 2 (-b.q).toNat

/-- The integer a float stands for, when it is finite and has no fraction. -/
def exactInt? (x : Float) : Option Int :=
  if ¬ isFinite x then none else
  let b := Binary.ofBits x.toBits
  let whole := b.q ≥ 0 ∨ b.m % Nat.pow 2 (-b.q).toNat = 0
  if whole then some (if signBit x then -(b.floor : Int) else b.floor) else none

def truncate? (x : Float) : Option Int :=
  if ¬ isFinite x then none else
  let n := (Binary.ofBits x.toBits).floor
  some (if signBit x then -(n : Int) else n)

/-- The integer nearest a finite float, a tie going to the even one. -/
def roundHalfEven? (x : Float) : Option Int :=
  if ¬ isFinite x then none else
  let b := Binary.ofBits x.toBits
  let n : Nat :=
    if b.q ≥ 0 then b.floor
    else
      let unit := Nat.pow 2 (-b.q).toNat
      let down := b.m / unit
      let rem := b.m % unit
      if 2 * rem > unit ∨ (2 * rem = unit ∧ down % 2 = 1) then down + 1 else down
  some (if signBit x then -(n : Int) else n)

def nearestInt (n : Int) (e : Int) : Float :=
  if n < 0 then -(nearest n.natAbs e) else nearest n.natAbs e

end Uptime.Decimal
