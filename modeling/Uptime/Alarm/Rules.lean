import Uptime.Time.Span
import Uptime.Monitor.Status
import Uptime.Decimal.Dyadic
/-!
The rules that decide when an alarm fires and how its messages speak of time.

* An alarm is quiet while a cooldown runs: from its last firing until `cooldown` minutes
  later, that instant excluded.
* A site crosses the down threshold only on the check that takes it from up, or from no
  earlier check, to a streak of failures at least the threshold. A streak is one on
  that check (`Status.down` follows a status other than down), so a threshold above one
  is never crossed (`crossesDown_of_lt`).
* Durations are told in whole minutes, and ages in words: "a few seconds ago", "an hour
  ago", "3 days ago", each number rounded to nearest with a tie going to the even one.
  Both work on the span in seconds as a binary64 value, and an age divides it down to
  minutes, hours and days one binary64 division at a time, so spans of centuries round
  as such values do (`Uptime.Decimal.Dyadic`).
-/
namespace Uptime.Alarm

open Uptime.Time Uptime.Monitor

/-- Whether the cooldown that began at `last` still runs at `now`; the cooldown must be a
time difference that can be held (`Minutes.span`). -/
def cooldownActive (last : Option Moment) (minutes : Minutes) (now : Moment) :
    Except ClockError Bool :=
  match last with
  | none => .ok false
  | some t => do
    let ends ← t.addMicros (← minutes.span)
    now.lt ends

/-- Whether a check with this streak of failures, after a check with status `previous`,
crosses a threshold of `threshold` failures. -/
def crossesDown (failures : Int) (previous : Option Status) (threshold : Int) : Bool :=
  decide (threshold ≤ failures) && (previous.isNone || previous == some .up)

theorem crossesDown_of_lt {failures threshold : Int} (h : failures < threshold)
    (previous : Option Status) : crossesDown failures previous threshold = false := by
  simp [crossesDown, Int.not_le.mpr h]

theorem crossesDown_after_down (failures threshold : Int) :
    crossesDown failures (some .down) threshold = false := by
  simp [crossesDown]

/-- A duration in whole minutes, never below zero: "N minutes" below an hour, else
"H hours M minutes". The minutes are the whole part of a sixtieth of the span in seconds
as the binary64 value nearest it. -/
def downtimeText (micros : Int) : String :=
  let minutes := if micros ≤ 0 then 0
    else (Decimal.Dyadic.ofRatio micros.toNat 1000000).floorDiv 60
  if minutes < 60 then s!"{minutes} minutes"
  else s!"{minutes / 60} hours {minutes % 60} minutes"

def formatDowntime (started ended : Moment) : Except ClockError String :=
  downtimeText <$> ended.diff started

/-- An age in words. Under 45 seconds it is "a few seconds ago", under 90 "a minute
ago", under 45 minutes a count of minutes, under 90 minutes "an hour ago", under 22
hours a count of hours, under 36 "a day ago", and beyond a count of days. A negative
age counts as none. The seconds are the binary64 value nearest the span, and minutes,
hours and days each the binary64 quotient of the unit before. -/
def ageText (micros : Int) : String :=
  let seconds := Decimal.Dyadic.ofRatio micros.toNat 1000000
  let minutes := seconds.div 60
  let hours := minutes.div 60
  let days := hours.div 24
  if seconds.lt 45 then "a few seconds ago"
  else if seconds.lt 90 then "a minute ago"
  else if minutes.lt 45 then s!"{minutes.roundEven} minutes ago"
  else if minutes.lt 90 then "an hour ago"
  else if hours.lt 22 then s!"{hours.roundEven} hours ago"
  else if hours.lt 36 then "a day ago"
  else s!"{days.roundEven} days ago"

def humanizeSince (moment now : Moment) : Except ClockError String :=
  ageText <$> now.diff moment

/-- The address of a monitor's page: the base without trailing slashes, a slash, the
monitor id. -/
def dashboardLink (base monitorId : String) : String :=
  String.ofList (base.toList.reverse.dropWhile (· = '/')).reverse ++ "/" ++ monitorId

end Uptime.Alarm
