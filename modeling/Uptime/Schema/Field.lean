import Uptime.Schema.Issue
import Uptime.Decimal.Integral
import Uptime.Decimal.Literal
import Uptime.Time.Record
/-!
How document values are taken as the field types of a model. The reading is lenient in
fixed ways: a whole number may come as a float without fraction or as decimal text, a
truth value as `0`/`1` or as one of a few words, a float as a whole number or as text, a
moment as a stamp, a count of seconds or a date (`Uptime.Time.Record`). Text is never
made from other values.
-/
namespace Uptime.Schema

open Uptime.Json Uptime.Time

abbrev Members := List (String × Value)

def required (fs : Members) (name : String) (check : Value → Checked α) : Checked α :=
  match fs.lookup name with
  | none => (Checked.fail .missing (.obj fs)).under (.key name)
  | some v => (check v).under (.key name)

/-- A field that takes `dflt` when absent. -/
def withDefault (fs : Members) (name : String) (dflt : α) (check : Value → Checked α) :
    Checked α :=
  match fs.lookup name with
  | none => .ok dflt
  | some v => (check v).under (.key name)

/-- The members of an object; anything else is not the model named. -/
def members (model : String) : Value → Checked Members
  | .obj fs => .ok fs
  | v => .fail (.modelType model) v

/-- Text, and only text. -/
def text : Value → Checked String
  | .str s => .ok s
  | v => .fail .stringType v

def isWhiteSpace (c : Char) : Bool :=
  let n := c.toNat
  (0x09 ≤ n && n ≤ 0x0D) || n == 0x20 || n == 0x85 || n == 0xA0 || n == 0x1680 ||
    (0x2000 ≤ n && n ≤ 0x200A) || n == 0x2028 || n == 0x2029 || n == 0x202F ||
    n == 0x205F || n == 0x3000

def trimBlanks (s : String) : List Char :=
  ((s.toList.dropWhile isWhiteSpace).reverse.dropWhile isWhiteSpace).reverse

/-- Text with its underscores taken out, unless it starts or ends with one or has two
in a row. -/
def withoutUnderscores? (cs : List Char) : Option (List Char) :=
  if cs.head? = some '_' ∨ cs.getLast? = some '_' ∨
      (cs.zip cs.tail).any (fun (a, b) => a = '_' ∧ b = '_') then none
  else some (cs.filter (· ≠ '_'))

def underscoredDigits? : List Char → Option (List Char)
  | [] => some []
  | '_' :: d :: rest => if d.isDigit then (d :: ·) <$> underscoredDigits? rest else none
  | c :: rest => if c.isDigit then (c :: ·) <$> underscoredDigits? rest else none

/-- A numeral with an optional sign: whether it is negative, and its digits. -/
def numeral? (cs : List Char) : Option (Bool × List Char) :=
  let (neg, body) := match cs with
    | '-' :: r => (true, r)
    | '+' :: r => (false, r)
    | r => (false, r)
  match body with
  | [] | '_' :: _ => none
  | _ => (underscoredDigits? body).map (neg, ·)

/-- Why text is not a whole number: it has too many digits to be read, or it is no
number. -/
inductive WholeTextError where
  | tooLong
  | notANumber
deriving DecidableEq, Repr

def maxDigits : Nat := 4300

/-- The value of a numeral, unless it has more than `maxDigits` digits after its leading
zeros. -/
def numeralValue (neg : Bool) (ds : List Char) : Except WholeTextError Int :=
  if (ds.dropWhile (· = '0')).length > maxDigits then .error .tooLong
  else
    let n : Int := Decimal.digitsValue ds
    .ok (if neg then -n else n)

/-- A whole number written as text, white space around it allowed: a numeral with an
optional sign, where single underscores may stand between digits; else such a numeral
followed by a point and one or more zeros. -/
def intOfText? (s : String) : Except WholeTextError Int :=
  let cs := trimBlanks s
  match numeral? cs with
  | some (neg, ds) => numeralValue neg ds
  | none =>
    let before := cs.takeWhile (· ≠ '.')
    let after := cs.drop (before.length + 1)
    if before.length < cs.length ∧ !after.isEmpty ∧ after.all (· = '0') then
      match numeral? before with
      | some (neg, ds) => numeralValue neg ds
      | none => .error .notANumber
    else .error .notANumber

/-- A whole number: an integer, a truth value as `0` or `1`, a float without fraction
within the 64-bit range, or decimal text of at most 4300 significant digits. -/
def whole (v : Value) : Checked Int :=
  match v with
  | .int n => .ok n
  | .bool b => .ok (if b then 1 else 0)
  | .float x =>
    if ¬ Decimal.isFinite x then .fail .finiteNumber v
    else match Decimal.exactInt? x with
      | none => .fail .intFromFloat v
      | some n => if n.natAbs < Nat.pow 2 63 then .ok n else .fail .intParsingSize v
  | .str s => match intOfText? s with
    | .ok n => .ok n
    | .error .tooLong => .fail .intParsing v
    | .error .notANumber => .fail .intParsing v
  | _ => .fail .intType v

def atLeast (lo : Int) (v : Value) (n : Int) : Checked Int :=
  if n < lo then .fail (.greaterThanEqual lo) v else .ok n

def atMost (hi : Int) (v : Value) (n : Int) : Checked Int :=
  if n > hi then .fail (.lessThanEqual hi) v else .ok n

def falseWords : List String := ["0", "off", "f", "false", "n", "no"]
def trueWords : List String := ["1", "on", "t", "true", "y", "yes"]

/-- A truth value: itself, `0` or `1` (also as a float), or one of the words in any
case. A float with a fraction is no truth value at all. -/
def truth (v : Value) : Checked Bool :=
  match v with
  | .bool b => .ok b
  | .int 0 => .ok false
  | .int 1 => .ok true
  | .int _ => .fail .boolParsing v
  | .float x =>
    match Decimal.exactInt? x with
    | some 0 => .ok false
    | some 1 => .ok true
    | some _ => .fail .boolParsing v
    | none => .fail .boolType v
  | .str s =>
    let w := s.toLower
    if falseWords.contains w then .ok false
    else if trueWords.contains w then .ok true
    else .fail .boolParsing v
  | _ => .fail .boolType v

/-- A float read from text: the literal with white space around it, or else the whole
text as a literal once its single underscores are taken out. -/
def floatOfText? (s : String) : Option Float :=
  (Decimal.ofLiteral? (trimBlanks s)).orElse fun _ =>
    (withoutUnderscores? s.toList).bind Decimal.ofLiteral?

/-- A float: itself, a whole number that rounds to a finite float, a truth value, or
text. -/
def real (v : Value) : Checked Float :=
  match v with
  | .float x => .ok x
  | .int n =>
    let x := Decimal.nearestInt n 0
    if x.isInf then .fail .floatType v else .ok x
  | .bool b => .ok (if b then 1.0 else 0.0)
  | .str s => match floatOfText? s with
    | some x => .ok x
    | none => .fail .floatParsing v
  | _ => .fail .floatType v

def expected (allowed : List Value) : String :=
  choices (allowed.map Value.literal)

def literal (allowed : List String) (v : Value) : Checked String :=
  match v with
  | .str s => if allowed.contains s then .ok s else .fail (.literalError (expected (allowed.map .str))) v
  | _ => .fail (.literalError (expected (allowed.map .str))) v

/-- `null` for none, else a checked value. -/
def nullable (check : Value → Checked α) : Value → Checked (Option α)
  | .null => .ok none
  | v => some <$> check v

def listOf (check : Value → Checked α) (v : Value) : Checked (List α) :=
  match v with
  | .arr xs => Checked.all (xs.zipIdx.map fun (x, i) => (check x).under (.index i))
  | _ => .fail .listType v

def mapOf (check : Value → Checked α) (v : Value) : Checked (List (String × α)) :=
  match v with
  | .obj fs => Checked.all (fs.map fun (k, x) => (fun a => (k, a)) <$> (check x).under (.key k))
  | _ => .fail .dictType v

/-- A moment: the text of a record, or a number of seconds since the epoch. Text that is
no moment and no date differs from a moment outside the calendar; a number is either
a moment or outside the calendar. -/
def moment (v : Value) : Checked Moment :=
  match v with
  | .str s =>
    match Moment.ofRecordText s with
    | .ok t => .ok t
    | .error .unreadable => .fail (.datetimeFromDateParsing (dateFailure s)) v
    | .error .outOfCalendar => .fail (.datetimeParsing yearZeroFailure) v
  | .int n =>
    match Moment.ofCount n 0 with
    | .ok t => .ok t
    | .error .outOfCalendar => .fail (.datetimeParsing yearZeroFailure) v
    | .error .unreadable => .fail (.datetimeParsing (countFailure (decide (n < 0)))) v
  | .float x =>
    match Moment.ofSeconds x with
    | .ok t => .ok t
    | .error .outOfCalendar => .fail (.datetimeParsing yearZeroFailure) v
    | .error .unreadable =>
      if Decimal.isNaN x then .fail (.datetimeParsing "NaN values not permitted") v
      else .fail (.datetimeParsing (countFailure (x < 0.0))) v
  | _ => .fail .datetimeType v

end Uptime.Schema
