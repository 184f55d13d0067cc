import Uptime.Time.Moment
import Uptime.Decimal.Integral
/-!
Moments as floating-point seconds since the epoch, the way a clock library converts
them. Going out, the exact count of microseconds is divided by a million and rounded
once; milliseconds are those seconds times a thousand, cut to an integer. Coming in,
the whole seconds are kept and the fraction is scaled to microseconds in floating point
and rounded to the nearest, a tie going to the even one.
-/
namespace Uptime.Time

open Uptime.Decimal

namespace Moment

def epochSeconds (t : Moment) : Float :=
  nearestInt t.epochMicros (-6)

/-- Milliseconds since the epoch: `epochSeconds` times a thousand, in floating point,
cut toward zero. -/
def epochMillis (t : Moment) : Int :=
  (truncate? (t.epochSeconds * 1000.0)).getD 0

/-- The moment in UTC `x` seconds after the epoch, to the nearest microsecond; the
seconds must fit the system clock and name a year from 1 to 9999. -/
def ofEpochSeconds (x : Float) : Except ClockError Moment :=
  match truncate? x with
  | none => .error .timestampOverflow
  | some whole =>
    let us := (roundHalfEven? ((x - Float.ofInt whole) * 1000000.0)).getD 0
    let (secs, us) :=
      if us ≥ usSecond then (whole + 1, us - usSecond)
      else if us < 0 then (whole - 1, us + usSecond)
      else (whole, us)
    if secs < -9223372036854775808 ∨ secs ≥ 9223372036854775808 then
      .error .timestampOverflow
    else
    let year := (civilFromDays (secs / 86400)).1
    if year - 1900 < -2147483648 ∨ year - 1900 ≥ 2147483648 then .error .yearOverflow
    else if year < 1 ∨ year > 9999 then .error (.yearOutOfRange year)
    else .ok (ofUtcMicros (secs * usSecond + us))

/-- The moment in UTC `ms` milliseconds after the epoch, through floating-point seconds;
the seconds must be a finite binary64 value. -/
def ofEpochMillis (ms : Int) : Except ClockError Moment :=
  let secs := nearestInt ms (-3)
  if isFinite secs then ofEpochSeconds secs else .error .quotientOverflow

end Moment

end Uptime.Time
