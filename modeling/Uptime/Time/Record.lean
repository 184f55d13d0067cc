import Uptime.Time.Iso
import Uptime.Decimal.Integral
import Uptime.Decimal.Literal
/-!
Moments as records and documents give them. Text is read as a stamp
`YYYY-MM-DD?HH:MM[:SS[.f]][zone]`, strictly by position; else as a count of seconds
since the epoch; else as a date alone, standing for midnight. A count beyond
`2 * 10^10` either way is taken as milliseconds, and counts are read in UTC.

The calendar of stamps and counts runs from year 0 to 9999, but a moment is kept only
in years 1 to 9999. A stamp or count of year 0 is therefore refused for a different
reason (`RecordError.outOfCalendar`) than text that is no moment at all
(`RecordError.unreadable`); a count outside years 0 to 9999 is no moment at all.

Each refusal has its words. Text that is no moment at all is refused for what is wrong
with it as a date (`dateFailure`): its first ten bytes, read as `YYYY-MM-DD`, or the
bytes after them; a count, for the end of the calendar it passes (`countFailure`).
-/
namespace Uptime.Time

open Uptime.Decimal

/-- Why a value is no moment of a record. -/
inductive RecordError where
  /-- neither a stamp, a count of seconds nor a date -/
  | unreadable
  /-- a moment of the calendar that lies before year 1 -/
  | outOfCalendar
deriving DecidableEq, Repr

/-- Seconds since the epoch at the start of year 0, at the start of year 1 and at the last
second of year 9999. -/
def yearZeroSecond : Int := -62167219200
def yearOneSecond : Int := -62135596800
def lastSecond : Int := 253402300799

def millisBeyond : Nat := 20000000000

/-- The moment `ts` seconds and `us` microseconds after the epoch in UTC, where a count
`ts` beyond `2 * 10^10` either way is milliseconds. The count must fit 64 bits with its
sign and name a second of years 0 to 9999. -/
def Moment.ofCount (ts : Int) (us : Nat) : Except RecordError Moment :=
  if ts.natAbs ≥ Nat.pow 2 63 then .error .unreadable else
  let (secs, extra) :=
    if ts.natAbs > millisBeyond then (ts / 1000, (ts % 1000).toNat * 1000) else (ts, 0)
  let total := us + extra
  let secs := secs + (total / 1000000 : Nat)
  if secs < yearZeroSecond ∨ secs > lastSecond then .error .unreadable
  else if secs < yearOneSecond then .error .outOfCalendar
  else .ok (Moment.ofUtcMicros (secs * usSecond + (total % 1000000 : Nat)))

/-- The nearest whole number to a finite float, a tie going away from zero upward; none
for infinities and NaN. -/
def roundHalfUp? (x : Float) : Option Int :=
  (exactInt? x.floor).map fun f => if x - x.floor ≥ 0.5 then f + 1 else f

/-- The moment a count of seconds written with a point stands for: the seconds (a
thousandth of the count beyond `2 * 10^10`) split into whole seconds, rounded down, and
the microseconds of the rest, rounded to nearest in floating point. The whole seconds
are then read as a count again. -/
def Moment.ofDecimalCount (x : Float) : Except RecordError Moment :=
  let t := if x.abs > Float.ofNat millisBeyond then x / 1000.0 else x
  match exactInt? t.floor, roundHalfUp? ((t - t.floor) * 1000000.0) with
  | some secs, some us => Moment.ofCount secs us.toNat
  | _, _ => .error .unreadable

/-- The moment a document number of seconds stands for: the seconds (a thousandth of the
number beyond `2 * 10^10`) scaled to microseconds in floating point and rounded to
nearest, a tie going up. -/
def Moment.ofSeconds (x : Float) : Except RecordError Moment :=
  let t := if x.abs > Float.ofNat millisBeyond then x / 1000.0 else x
  match roundHalfUp? (t * 1000000.0) with
  | none => .error .unreadable
  | some total =>
    let secs := total / usSecond
    if secs < yearZeroSecond ∨ secs > lastSecond then .error .unreadable
    else if secs < yearOneSecond then .error .outOfCalendar
    else .ok (Moment.ofUtcMicros total)

/-- A count of seconds written as text. -/
inductive Count where
  /-- digits alone, with an optional sign -/
  | whole (n : Int)
  /-- digits with a point, read as a decimal literal -/
  | decimal (x : Float)

/-- A count of seconds from text: an optional sign, then digits alone, a whole
number that must fit 64 bits; or, as soon as a point follows the digits (if any), the
whole text as a decimal literal. -/
def countOfText? (cs : List Char) : Option Count :=
  let (neg, body) := match cs with
    | '-' :: r@(_ :: _) => (true, r)
    | '+' :: r@(_ :: _) => (false, r)
    | r => (false, r)
  let lead := body.takeWhile Char.isDigit
  let n := digitsValue lead
  if n ≥ Nat.pow 2 63 then none
  else match body.drop lead.length with
    | [] => if lead.isEmpty then none else some (.whole (if neg then -(n : Int) else n))
    | '.' :: _ => (ofLiteral? cs).map .decimal
    | _ => none

/-- The date `YYYY-MM-DD` at the front of a text, of years 0 to 9999, and the rest. -/
def readStampDate (cs : List Char) : Option (Nat × Nat × Nat × List Char) := do
  let (y, r1) ← takeDigits 4 cs
  let r2 ← match r1 with
    | '-' :: r => some r
    | _ => none
  let (m, r3) ← takeDigits 2 r2
  let r4 ← match r3 with
    | '-' :: r => some r
    | _ => none
  let (d, r5) ← takeDigits 2 r4
  if 1 ≤ m ∧ m ≤ 12 ∧ 1 ≤ d ∧ d ≤ monthDays y m then pure (y, m, d, r5) else none

def isMinus (c : Char) : Bool := c = '-' ∨ c.toNat = 0x2212

/-- The offset that ends a stamp, in microseconds, none for no offset: `Z` or `z` for
UTC, or a sign and `HH:MM` or `HHMM` of less than a day, with nothing after it. -/
def readStampZone : List Char → Option (Option Int)
  | [] => some none
  | [c] => if c = 'Z' ∨ c = 'z' then some (some 0) else none
  | c :: r => do
    if !(c = '+' || isMinus c) then none
    let (h, r1) ← takeDigits 2 r
    let (m, r2) ← match r1 with
      | ':' :: r' => takeDigits 2 r'
      | r' => takeDigits 2 r'
    if !r2.isEmpty || m > 59 || h * 60 + m ≥ 24 * 60 then none
    let size : Int := (h * 60 + m) * 60000000
    pure (some (if isMinus c then -size else size))

/-- The time of a stamp and its offset: `HH:MM`, then optionally `:SS` with an optional
fraction after `.` or `,` of which the first six digits count, then the offset. -/
def readStampTime (cs : List Char) : Option (Nat × Nat × Nat × Nat × Option Int) := do
  let (h, r1) ← takeDigits 2 cs
  let r2 ← match r1 with
    | ':' :: r => some r
    | _ => none
  let (mi, r3) ← takeDigits 2 r2
  if h > 23 ∨ mi > 59 then none
  let (sec, us, r4) ← match r3 with
    | ':' :: r => do
      let (sec, r') ← takeDigits 2 r
      if sec > 59 then none
      match r' with
      | c :: fr =>
        if c = '.' ∨ c = ',' then
          let ds := fr.takeWhile Char.isDigit
          if ds.isEmpty then none else some (sec, fractionMicros (ds.take 6), fr.drop ds.length)
        else some (sec, 0, r')
      | [] => some (sec, 0, [])
    | r => some (0, 0, r)
  let zone ← readStampZone r4
  pure (h, mi, sec, us, zone)

/-- A stamp: a date, a separator `T`, `t`, `_` or a blank, and a time with its offset. -/
def readStamp (cs : List Char) : Option (Civil × Option Int) := do
  let (y, m, d, rest) ← readStampDate cs
  match rest with
  | sep :: t =>
    if !(sep = 'T' || sep = 't' || sep = '_' || sep = ' ') then none
    let (h, mi, sec, us, zone) ← readStampTime t
    pure (⟨y, m, d, h, mi, sec, us⟩, zone)
  | [] => none

/-- A moment from the text of a record: a stamp; else a count of seconds; else a date
alone, standing for midnight without an offset. -/
def Moment.ofRecordText (s : String) : Except RecordError Moment :=
  let cs := s.toList
  match readStamp cs with
  | some (c, zone) => if c.year = 0 then .error .outOfCalendar else .ok ⟨c.toWall, zone⟩
  | none =>
    let counted := match countOfText? cs with
      | some (.whole n) => Moment.ofCount n 0
      | some (.decimal x) => Moment.ofDecimalCount x
      | none => .error .unreadable
    match counted with
    | .error .unreadable =>
      match readStampDate cs with
      | some (y, m, d, []) =>
        if y = 0 then .error .outOfCalendar else .ok ⟨(Civil.mk y m d 0 0 0 0).toWall, none⟩
      | _ => .error .unreadable
    | r => r

/-- Why a count of seconds is no moment: it lies before year 0 when `negative`, else
after year 9999. -/
def countFailure (negative : Bool) : String :=
  if negative then "dates before 0000 are not supported as unix timestamps"
  else "dates after 9999 are not supported as unix timestamps"

def yearZeroFailure : String := "year 0 is out of range"

/-- Why bytes are no date `YYYY-MM-DD`: the first thing wrong with them, from their
length and their first ten bytes in order to what follows them; none for a date. -/
def dateBytesFailure (bs : List UInt8) : Option String :=
  let digitAt := fun (i : Nat) => match bs[i]? with
    | some b => 48 ≤ b ∧ b ≤ 57
    | none => false
  let valueAt := fun (i : Nat) => (bs.getD i 48).toNat - 48
  let separator := "invalid date separator, expected \x60-\x60"
  if bs.length < 10 then some "input is too short"
  else if !(digitAt 0 && digitAt 1 && digitAt 2 && digitAt 3) then some "invalid character in year"
  else if bs[4]? ≠ some 45 then some separator
  else if !(digitAt 5 && digitAt 6) then some "invalid character in month"
  else if bs[7]? ≠ some 45 then some separator
  else if !(digitAt 8 && digitAt 9) then some "invalid character in day"
  else
    let y := valueAt 0 * 1000 + valueAt 1 * 100 + valueAt 2 * 10 + valueAt 3
    let m := valueAt 5 * 10 + valueAt 6
    let d := valueAt 8 * 10 + valueAt 9
    if m < 1 ∨ m > 12 then some "month value is outside expected range of 1-12"
    else if d < 1 ∨ d > monthDays y m then some "day value is outside expected range"
    else if bs.length > 10 then some "unexpected extra characters at the end of the input"
    else none

/-- Whether text is a whole number too large for 64 bits: an optional sign and
digits. -/
def isLongCount (cs : List Char) : Bool :=
  let body := match cs with
    | '-' :: r => r
    | '+' :: r => r
    | r => r
  !body.isEmpty && body.all Char.isDigit && digitsValue body ≥ Nat.pow 2 63

/-- Why text that is no moment is no date either: a count of seconds for the end of the
calendar it passes, other text for what is wrong with it as `YYYY-MM-DD`. -/
def dateFailure (s : String) : String :=
  let cs := s.toList
  let negative := cs.head? = some '-'
  match countOfText? cs with
  | some (.whole n) => countFailure (decide (n < 0))
  | some (.decimal x) =>
    if Decimal.isNaN x then "NaN values not permitted" else countFailure (x < 0.0)
  | none =>
    if isLongCount cs then countFailure negative
    else (dateBytesFailure s.toUTF8.toList).getD ""

end Uptime.Time
