import Uptime.Time.Moment
import Uptime.Decimal.Integral
/-!
Time differences from a count of minutes. A whole count is exact. A binary64 count is
split into its whole part, taken exactly, and its fraction, which is scaled to
microseconds in binary64; the whole microseconds of that product are kept, and what is
left of it is rounded to the nearest microsecond, a half going to the even total. A
count that is NaN or infinite has no whole part, and a value of another type is no
count. The result must still be a span that a time difference can hold
(`Moment.checkSpan`).
-/
namespace Uptime.Time

open Uptime.Decimal

/-- A count of minutes, whole or binary64, or a value of another type, named as the
runtime of the documents names it, which counts nothing. -/
inductive Minutes where
  | whole (n : Int)
  | real (x : Float)
  | unsupported (typeName : String)

def truncFloat (x : Float) : Float :=
  if x ≥ 0.0 then x.floor else x.ceil

/-- `total` microseconds with `left`, a part of one strictly between -1 and 1, rounded
to the nearest whole number; a half goes to the even total. -/
def roundLeftover (total : Int) (left : Float) : Int :=
  if left == 0.5 then (if total % 2 = 0 then total else total + 1)
  else if left == -0.5 then (if total % 2 = 0 then total else total - 1)
  else if left > 0.5 then total + 1
  else if left < -0.5 then total - 1
  else total

/-- The microseconds in a count of minutes, before the check that a time difference can
hold them. -/
def Minutes.micros : Minutes → Except ClockError Int
  | .whole n => .ok (n * usMinute)
  | .unsupported t => .error (.unsupportedCount t)
  | .real x =>
    match truncate? x with
    | none => .error (if isNaN x then .nanCount else .infiniteCount)
    | some count =>
      let frac := x - truncFloat x
      if frac == 0.0 then .ok (count * usMinute) else
      let scaled := 60000000.0 * frac
      let inner := (truncate? scaled).getD 0
      .ok (roundLeftover (count * usMinute + inner) (scaled - truncFloat scaled))

def Minutes.span (m : Minutes) : Except ClockError Int := do
  Moment.checkSpan (← m.micros)

theorem Minutes.micros_whole (n : Int) : (Minutes.whole n).micros = .ok (n * usMinute) := rfl

end Uptime.Time
