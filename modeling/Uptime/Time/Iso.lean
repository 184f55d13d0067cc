import Uptime.Time.Moment
import Uptime.Text.Quoted
/-!
Reading moments from ISO 8601 text. `Moment.ofIso` reads the text as its UTF-8 bytes:
a calendar date (`YYYY-MM-DD`, `YYYYMMDD`) or a week date (`YYYY-Www[-D]`,
`YYYYWww[D]`), then any one separator character, then a time of day whose fields may
be shortened from the right, and an optional `Z` or signed offset. Where the date ends
is decided from its first characters alone, and the fields are read by position, so
some texts outside the standard are read too (a stray character before the offset, a
fraction after fields without separators). An offset of whole seconds equal to zero
is UTC, whatever fraction follows it.
-/
namespace Uptime.Time

/-- Why a text is not a moment. -/
inductive IsoError where
  /-- the text does not have the shape of a moment -/
  | shape
  /-- a field is outside its range; the words say which -/
  | range (what : String)
deriving DecidableEq, Repr

def IsoError.message (text : String) : IsoError → String
  | .shape => "Invalid isoformat string: " ++ Text.quoted text
  | .range what => what

/-- The number written by exactly `n` ASCII digits at the front, and the rest. -/
def takeDigits : Nat → List Char → Option (Nat × List Char)
  | 0, cs => some (0, cs)
  | n + 1, c :: cs =>
    if c.isDigit then
      (takeDigits n cs).map fun (v, rest) => ((c.toNat - '0'.toNat) * Nat.pow 10 n + v, rest)
    else none
  | _ + 1, [] => none

/-- Hours, minutes, seconds and microseconds of a time of day or an offset. -/
structure Clock where
  hour : Nat := 0
  minute : Nat := 0
  second : Nat := 0
  micro : Nat := 0

def fractionMicros (ds : List Char) : Nat :=
  let v := ds.foldl (fun n d => n * 10 + (d.toNat - '0'.toNat)) 0
  v * Nat.pow 10 (6 - ds.length)

/-- The fields in range, or the words for the first that is not. -/
def checkCivil (c : Civil) : Except IsoError Civil :=
  if c.year < 1 ∨ c.year > 9999 then .error (.range s!"year {c.year} is out of range")
  else if c.month < 1 ∨ c.month > 12 then .error (.range "month must be in 1..12")
  else if c.day < 1 ∨ c.day > monthDays c.year c.month then
    .error (.range "day is out of range for month")
  else if c.hour > 23 then .error (.range "hour must be in 0..23")
  else if c.minute > 59 then .error (.range "minute must be in 0..59")
  else if c.second > 59 then .error (.range "second must be in 0..59")
  else .ok c

/-- A span of microseconds as a time difference is written: whole days, then seconds
and microseconds within the day, each named and left out when zero. -/
def spanText (us : Int) : String :=
  let days := us.fdiv usDay
  let rest := us - days * usDay
  let parts := [("days", days), ("seconds", rest / usSecond), ("microseconds", rest % usSecond)]
  let shown := (parts.filter fun (_, v) => v ≠ 0).map fun (k, v) => k ++ "=" ++ toString v
  "datetime.timedelta(" ++ (if shown.isEmpty then "0" else ", ".intercalate shown) ++ ")"

def checkOffset (o : Int) : Except IsoError Int :=
  if o.natAbs ≥ 86400000000 then
    .error (.range ("offset must be a timedelta strictly between -timedelta(hours=24) and timedelta(hours=24), not " ++ spanText o ++ "."))
  else .ok o

/-! ### Reading the bytes of ISO text -/

def isByte (c : Char) (b : UInt8) : Bool := b.toNat = c.toNat

def isDigitByte (b : UInt8) : Bool := 48 ≤ b.toNat && b.toNat ≤ 57

/-- The number written by exactly `n` digit bytes at the front, and the rest. -/
def takeDigitBytes : Nat → List UInt8 → Option (Nat × List UInt8)
  | 0, bs => some (0, bs)
  | n + 1, b :: bs =>
    if isDigitByte b then
      (takeDigitBytes n bs).map fun (v, rest) => ((b.toNat - 48) * Nat.pow 10 n + v, rest)
    else none
  | _ + 1, [] => none

/-- Clock fields read from bytes, and whether anything but the end of the text followed
them. -/
structure ClockRead where
  clock : Clock
  more : Bool

def clockOf (vals : List Nat) (micro : Nat) : Clock :=
  { hour := vals.getD 0 0, minute := vals.getD 1 0, second := vals.getD 2 0, micro }

/-- A fraction of a second from the bytes `bs` before a field's end, which is followed
by the byte `next` (0 for the end of the text): at most six digits count, the rest of
a run of digits is skipped. -/
def readFractionBytes (vals : List Nat) (bs : List UInt8) (next : UInt8) : Option ClockRead := do
  let n := min bs.length 6
  let (v, rest) ← takeDigitBytes n bs
  let after := rest.dropWhile isDigitByte
  pure ⟨clockOf vals (v * Nat.pow 10 (6 - n)), (after.head?.getD next).toNat ≠ 0⟩

/-- Read `HH[:MM[:SS]]` from the bytes `bs`, which are followed by the byte `next` (0
for the end of the text). A colon after the hours makes colons the separators; without
one, the fields follow each other directly. After each field, reaching the end stops
the reading, a point or comma starts a fraction of a second, and after the third field
any remaining bytes are read as a fraction. -/
def readClockBytes (bs : List UInt8) (next : UInt8) : Option ClockRead :=
  go 3 [] false bs
where
  go : Nat → List Nat → Bool → List UInt8 → Option ClockRead
  | 0, vals, _, bs => readFractionBytes vals bs next
  | k + 1, vals, colons, bs => do
    let (v, rest) ← takeDigitBytes 2 bs
    let vals := vals ++ [v]
    match rest with
    | [] => pure ⟨clockOf vals 0, next.toNat ≠ 0⟩
    | [c] => pure ⟨clockOf vals 0, c.toNat ≠ 0⟩
    | c :: after =>
      let colons := if vals.length = 1 then isByte ':' c else colons
      if colons && isByte ':' c then go k vals colons after
      else if isByte '.' c || isByte ',' c then readFractionBytes vals after next
      else if !colons then go k vals colons rest
      else none

/-- The time of day and the offset, as whole seconds and microseconds, from the bytes
after the separator. The offset starts at the first `Z`, `+` or `-`; `Z` must end the
text or be followed by a NUL byte, which ends the reading, and a signed offset is read
like a time of day, to the end of the text. -/
def readTimeAndZoneBytes (bs : List UInt8) : Option (Clock × Option (Int × Int)) := do
  if bs.isEmpty then none
  let isZoneMark := fun (b : UInt8) => isByte 'Z' b || isByte '+' b || isByte '-' b
  let timePart := bs.takeWhile (!isZoneMark ·)
  match bs.drop timePart.length with
  | [] =>
    let r ← readClockBytes timePart 0
    if r.more then none else pure (r.clock, none)
  | z :: rest =>
    let r ← readClockBytes timePart z
    if isByte 'Z' z then
      if rest.head?.getD 0 = 0 then pure (r.clock, some (0, 0)) else none
    else
      let t ← readClockBytes rest 0
      if t.more then none
      let sign : Int := if isByte '-' z then -1 else 1
      let secs : Int := t.clock.hour * 3600 + t.clock.minute * 60 + t.clock.second
      pure (r.clock, some (sign * secs, sign * t.clock.micro))

/-- The byte position where the date ends, decided from the bytes at positions 4, 5, 8
and 10 and the run of digits after a `W`; none when no date can end anywhere. -/
def dateEnd (bs : List UInt8) : Option Nat :=
  let at? := fun (i : Nat) (c : Char) => (bs[i]?.map (isByte c)) = some true
  let len := bs.length
  if len = 7 then some 7
  else if at? 4 '-' then
    if at? 5 'W' then
      if len > 8 ∧ at? 8 '-' then
        if len = 9 then none
        else if len > 10 ∧ (bs[10]?.map isDigitByte) = some true then some 8
        else some 10
      else some 8
    else some 10
  else if at? 4 'W' then
    let idx := 7 + ((bs.drop 7).takeWhile isDigitByte).length
    if idx < 9 then some idx else if idx % 2 = 0 then some 7 else some 8
  else some 8

def weekday (days : Int) : Int := (days + 3) % 7

/-- The Monday of the first ISO week of a year: the week that holds its first Thursday. -/
def week1Monday (y : Int) : Int :=
  let first := daysFromCivil y 1 1
  let wd := weekday first
  first - wd + (if wd > 3 then 7 else 0)

/-- The date of day `d` (1 for Monday) of ISO week `w` of year `y`; week 53 only in years
that have it. The days of year 0 are counted back from the first day of year 1 in that
year's terms, so every week date of year 0 lands in a month 0 of year 1. -/
def weekDate (y : Int) (w d : Nat) : Option (Int × Nat × Nat) :=
  let firstWd := weekday (daysFromCivil y 1 1)
  let has53 := firstWd = 3 ∨ (firstWd = 2 ∧ isLeap y)
  if (w = 0 ∨ w > 53 ∨ (w = 53 ∧ ¬ has53)) ∨ (d = 0 ∨ d > 7) then none
  else if y = 0 then some (1, 0, 1)
  else some (civilFromDays (week1Monday y + ((w : Int) - 1) * 7 + (d : Int) - 1))

/-- Read the date at the front of the bytes, `len` being where it was found to end: a
week date names its day only when the date reaches that far. -/
def readDateBytes (bs : List UInt8) (len : Nat) : Option (Int × Nat × Nat) := do
  let (y, r1) ← takeDigitBytes 4 bs
  let dashed := (r1.head?.map (isByte '-')) = some true
  let r2 := if dashed then r1.drop 1 else r1
  let dash := fun (r : List UInt8) => if dashed then
      (match r with
       | b :: rest => if isByte '-' b then some rest else none
       | [] => none)
    else some r
  match r2 with
  | w :: r3 =>
    if isByte 'W' w then
      let (week, r4) ← takeDigitBytes 2 r3
      let day ← if bs.length - r4.length < len then
          (fun (d, _) => d) <$> ((dash r4).bind (takeDigitBytes 1))
        else pure 1
      weekDate y week day
    else
      let (m, r4) ← takeDigitBytes 2 r2
      let (d, _) ← (dash r4).bind (takeDigitBytes 2)
      pure (y, m, d)
  | [] => none

/-- How many bytes the character starting with byte `b` takes, read from its first
bits. -/
def charWidth (b : UInt8) : Nat :=
  if b.toNat < 0x80 then 1
  else if b.toNat / 16 = 0xE then 3
  else if b.toNat / 16 = 0xF then 4
  else 2

/-- Read a moment: a date, then optionally one separator character and a time of day
with an optional offset. The offset is checked before the date and time fields. -/
def Moment.ofIso (s : String) : Except IsoError Moment := do
  if s.length < 7 then throw .shape
  let bs := s.toUTF8.toList
  let len ← (dateEnd bs).elim (.error .shape) .ok
  let (y, m, d) ← (readDateBytes bs len).elim (.error .shape) .ok
  let (clock, zone) ← match bs.drop len with
    | [] => pure (({} : Clock), none)
    | b :: _ => (readTimeAndZoneBytes (bs.drop (len + charWidth b))).elim (.error .shape) .ok
  let offset ← match zone with
    | none => pure none
    | some (secs, us) => if secs = 0 then pure (some 0) else some <$> checkOffset (secs * 1000000 + us)
  let c ← checkCivil ⟨y, m, d, clock.hour, clock.minute, clock.second, clock.micro⟩
  pure ⟨c.toWall, offset⟩

end Uptime.Time
