/-!
Moments as clocks show them: a date and time on the proleptic Gregorian calendar to the
microsecond, with the offset from UTC when it is known. Two moments with offsets are
ordered by the instant they stand for; two without are ordered by their readings; a
moment with an offset and one without cannot be ordered or subtracted
(`Moment.compare`, `Moment.diff`), which is a `ClockError`.
-/
namespace Uptime.Time

def usSecond : Int := 1000000
def usMinute : Int := 60 * usSecond
def usHour : Int := 60 * usMinute
def usDay : Int := 24 * usHour

/-- A clock reading: microseconds since 1970-01-01T00:00 as the clock shows them, and
the clock's offset east of UTC in microseconds when it is known. -/
structure Moment where
  wall : Int
  offset : Option Int
deriving DecidableEq, Repr, Inhabited

/-- Why two moments cannot be combined, or a moment cannot be made. -/
inductive ClockError where
  /-- an ordering asked of a moment with an offset and one without -/
  | mixedCompare
  /-- a difference asked of a moment with an offset and one without -/
  | mixedSubtract
  /-- a date before year 1 or after year 9999 -/
  | outOfRange
  /-- a count of seconds that names a year before 1 or after 9999 -/
  | yearOutOfRange (year : Int)
  /-- a count of seconds too large for the system clock -/
  | timestampOverflow
  /-- a count of seconds whose year the system calendar cannot hold -/
  | yearOverflow
  /-- a quotient of whole numbers too large for a binary64 value -/
  | quotientOverflow
  /-- a time difference whose whole days do not fit 32 bits -/
  | spanTooLarge
  /-- a time difference of more than 999999999 whole days either way -/
  | spanDays (days : Int)
  /-- a count that is NaN, which has no whole part -/
  | nanCount
  /-- a count that is infinite, which has no whole part -/
  | infiniteCount
  /-- a count of minutes given as a value of another type, named by its type -/
  | unsupportedCount (typeName : String)
deriving DecidableEq, Repr

/-- The words of each clock error. -/
def ClockError.message : ClockError → String
  | .mixedCompare => "can't compare offset-naive and offset-aware datetimes"
  | .mixedSubtract => "can't subtract offset-naive and offset-aware datetimes"
  | .outOfRange => "date value out of range"
  | .yearOutOfRange y => "year " ++ toString y ++ " is out of range"
  | .timestampOverflow => "timestamp out of range for platform time_t"
  | .yearOverflow => "[Errno 75] Value too large for defined data type"
  | .quotientOverflow => "integer division result too large for a float"
  | .spanTooLarge => "Python int too large to convert to C int"
  | .spanDays d => "days=" ++ toString d ++ "; must have magnitude <= 999999999"
  | .nanCount => "cannot convert float NaN to integer"
  | .infiniteCount => "cannot convert float infinity to integer"
  | .unsupportedCount t => "unsupported type for timedelta minutes component: " ++ t

/-! ### The calendar -/

/-- A date and a time of day. -/
structure Civil where
  year : Int
  month : Nat
  day : Nat
  hour : Nat
  minute : Nat
  second : Nat
  micro : Nat
deriving DecidableEq, Repr

/-- Days from 1970-01-01 to a date of the proleptic Gregorian calendar. -/
def daysFromCivil (y : Int) (m d : Nat) : Int :=
  let y' := if m ≤ 2 then y - 1 else y
  let era := y' / 400
  let yoe := y' - era * 400
  let mp : Int := if m > 2 then (m : Int) - 3 else (m : Int) + 9
  let doy := (153 * mp + 2) / 5 + (d : Int) - 1
  let doe := yoe * 365 + yoe / 4 - yoe / 100 + doy
  era * 146097 + doe - 719468

/-- The date that lies `z` days after 1970-01-01. -/
def civilFromDays (z : Int) : Int × Nat × Nat :=
  let z := z + 719468
  let era := z / 146097
  let doe := z - era * 146097
  let yoe := (doe - doe / 1460 + doe / 36524 - doe / 146096) / 365
  let doy := doe - (365 * yoe + yoe / 4 - yoe / 100)
  let mp := (5 * doy + 2) / 153
  let d := doy - (153 * mp + 2) / 5 + 1
  let m := if mp < 10 then mp + 3 else mp - 9
  let y := yoe + era * 400 + (if m ≤ 2 then 1 else 0)
  (y, m.toNat, d.toNat)

def isLeap (y : Int) : Bool :=
  (y % 4 == 0 && y % 100 != 0) || y % 400 == 0

def monthDays (y : Int) (m : Nat) : Nat :=
  match m with
  | 2 => if isLeap y then 29 else 28
  | 4 | 6 | 9 | 11 => 30
  | _ => 31

def minWall : Int := daysFromCivil 1 1 1 * usDay
def maxWall : Int := daysFromCivil 10000 1 1 * usDay - 1

/-- The date and time a reading shows. -/
def Civil.ofWall (w : Int) : Civil :=
  let days := w / usDay
  let rest := w - days * usDay
  let (y, m, d) := civilFromDays days
  { year := y, month := m, day := d,
    hour := (rest / usHour).toNat, minute := (rest % usHour / usMinute).toNat,
    second := (rest % usMinute / usSecond).toNat, micro := (rest % usSecond).toNat }

def Civil.toWall (c : Civil) : Int :=
  daysFromCivil c.year c.month c.day * usDay + c.hour * usHour + c.minute * usMinute +
    c.second * usSecond + c.micro

/-- The fields are in range: month 1 to 12, a day of that month, a time of day. -/
def Civil.valid (c : Civil) : Bool :=
  1 ≤ c.year && c.year ≤ 9999 && 1 ≤ c.month && c.month ≤ 12 && 1 ≤ c.day &&
    c.day ≤ monthDays c.year c.month && c.hour < 24 && c.minute < 60 && c.second < 60 &&
    c.micro < 1000000

namespace Moment

def civil (t : Moment) : Civil := Civil.ofWall t.wall

def utc? (t : Moment) : Option Int :=
  t.offset.map (t.wall - ·)

def ofUtcMicros (us : Int) : Moment := ⟨us, some 0⟩

/-- The key by which moments of one kind are ordered: the instant for moments with an
offset, the reading for those without. -/
def key (t : Moment) : Int :=
  match t.offset with
  | some o => t.wall - o
  | none => t.wall

def sameKind (a b : Moment) : Bool :=
  a.offset.isSome == b.offset.isSome

def lt (a b : Moment) : Except ClockError Bool :=
  if a.sameKind b then .ok (decide (a.key < b.key)) else .error .mixedCompare

def diff (b a : Moment) : Except ClockError Int :=
  if a.sameKind b then .ok (b.key - a.key) else .error .mixedSubtract

/-- A span of microseconds as a time difference can hold it: its whole days, rounded
down, fit 32 bits with their sign and are at most 999999999 either way. -/
def checkSpan (us : Int) : Except ClockError Int :=
  let days := us.fdiv usDay
  if days < -2147483648 ∨ days ≥ 2147483648 then .error .spanTooLarge
  else if days.natAbs > 999999999 then .error (.spanDays days)
  else .ok us

/-- The moment `us` microseconds later on the same clock, if it stays in the calendar. -/
def addMicros (t : Moment) (us : Int) : Except ClockError Moment :=
  let w := t.wall + us
  if minWall ≤ w ∧ w ≤ maxWall then .ok ⟨w, t.offset⟩ else .error .outOfRange

/-- Whether the moments are the same instant (with offsets) or the same reading
(without); moments of two kinds are never equal. -/
def sameAs (a b : Moment) : Bool :=
  a.sameKind b && a.key == b.key

/-- The instant in microseconds since the epoch; a moment without an offset is read as
UTC. -/
def epochMicros (t : Moment) : Int := t.key

/-! ### Writing moments -/

def pad (w : Nat) (n : Nat) : String :=
  let s := toString n
  String.ofList (List.replicate (w - s.length) '0') ++ s

/-- The date and time, `YYYY-MM-DDTHH:MM:SS`, with six digits of fraction when the
microseconds are not zero. -/
def civilText (c : Civil) : String :=
  pad 4 c.year.toNat ++ "-" ++ pad 2 c.month ++ "-" ++ pad 2 c.day ++ "T" ++ pad 2 c.hour ++
    ":" ++ pad 2 c.minute ++ ":" ++ pad 2 c.second ++
    (if c.micro = 0 then "" else "." ++ pad 6 c.micro)

/-- An offset as `+HH:MM`, with seconds and microseconds only when they are not zero. -/
def offsetText (o : Int) : String :=
  let sign := if o < 0 then "-" else "+"
  let a := o.natAbs
  let h := a / 3600000000
  let m := a / 60000000 % 60
  let s := a / 1000000 % 60
  let us := a % 1000000
  sign ++ pad 2 h ++ ":" ++ pad 2 m ++
    (if s = 0 ∧ us = 0 then "" else ":" ++ pad 2 s) ++
    (if us = 0 then "" else "." ++ pad 6 us)

/-- The standard text of a moment: the reading, then the offset in full, so UTC is
`+00:00`. -/
def isoText (t : Moment) : String :=
  civilText t.civil ++ (t.offset.map offsetText).getD ""

/-- The offset of a record in whole seconds, rounded down, written as `Z` for none and
else as a sign and `HH:MM`, the seconds left out. -/
def recordOffsetText (o : Int) : String :=
  let secs := o.fdiv usSecond
  if secs = 0 then "Z"
  else
    let a := secs.natAbs
    (if secs < 0 then "-" else "+") ++ pad 2 (a / 3600) ++ ":" ++ pad 2 (a / 60 % 60)

/-- The text of a moment in records: the reading as `isoText` gives it, then the offset
as `recordOffsetText` writes it. -/
def recordText (t : Moment) : String :=
  civilText t.civil ++ (t.offset.map recordOffsetText).getD ""

end Moment

end Uptime.Time
