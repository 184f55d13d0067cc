import Uptime.Json.Value
import Uptime.Decimal.Shortest
/-!
Reading JSON text. The grammar is the usual one with three extra words, `NaN`, `Infinity`
and `-Infinity`; a number with a fraction or an exponent is a binary64 value and any other
number an integer of at most 4300 digits; a key written twice keeps its first place and
its last value. A failure names the first offending position, counted in characters, and
the reason found there; an integer with too many digits is refused by its count alone.
A surrogate escaped alone reads as the replacement character; in the stricter reading
`Value.readScalars` it is refused, and `Value.readKeeping` reads it as a private-use
character that keeps its code unit. Containers nest at most `maxNesting` deep
(`maxScalarNesting` in the stricter reading); opening one more stops the reading.
-/
namespace Uptime.Json

/-- Why a text is not a JSON document. -/
inductive Fault where
  | expectingValue
  | expectingPropertyName
  | expectingColon
  | expectingComma
  | extraData
  | unterminatedString
  | invalidControl
  | invalidEscape
  | invalidUnicodeEscape
  | byteOrderMark
  /-- a surrogate escaped alone, in a dialect that refuses it -/
  | loneSurrogate
  /-- an integer written with more digits than `maxIntDigits` -/
  | tooManyDigits (count : Nat)
  /-- a container opened deeper than the reading allows; `object` tells its kind -/
  | nestedTooDeep (object : Bool)
deriving DecidableEq, Repr

def maxIntDigits : Nat := 4300

def maxNesting : Nat := 985

def maxScalarNesting : Nat := 200

/-- The words of each fault. -/
def Fault.text : Fault → String
  | .expectingValue => "Expecting value"
  | .expectingPropertyName => "Expecting property name enclosed in double quotes"
  | .expectingColon => "Expecting ':' delimiter"
  | .expectingComma => "Expecting ',' delimiter"
  | .extraData => "Extra data"
  | .unterminatedString => "Unterminated string starting at"
  | .invalidControl => "Invalid control character at"
  | .invalidEscape => "Invalid \\escape"
  | .invalidUnicodeEscape => "Invalid \\uXXXX escape"
  | .byteOrderMark => "Unexpected UTF-8 BOM (decode using utf-8-sig)"
  | .loneSurrogate => "Lone surrogate in \\uXXXX escape"
  | .tooManyDigits n =>
    "Exceeds the limit (" ++ toString maxIntDigits ++
      " digits) for integer string conversion: value has " ++ toString n ++
      " digits; use sys.set_int_max_str_digits() to increase the limit"
  | .nestedTooDeep object =>
    "maximum recursion depth exceeded while decoding a JSON " ++
      (if object then "object" else "array") ++ " from a unicode string"

/-- A fault and the character offset where it was found. -/
structure ReadError where
  fault : Fault
  pos : Nat
deriving DecidableEq, Repr

/-- Whether the reading stopped because containers nest too deep, which is no fault of
the text's grammar. -/
def ReadError.tooDeep (e : ReadError) : Bool :=
  match e.fault with
  | .nestedTooDeep _ => true
  | _ => false

/-- The message for a fault in `doc`: its words, then the line, the column and the
offset, lines and columns counted from one; an integer with too many digits, or
containers nested too deep, have their words alone. -/
def ReadError.message (doc : String) (e : ReadError) : String :=
  if let .tooManyDigits _ := e.fault then e.fault.text else
  if e.tooDeep then e.fault.text else
  let before := doc.toList.take e.pos
  let line := before.count '\n' + 1
  let col := (before.reverse.takeWhile (· ≠ '\n')).length + 1
  s!"{e.fault.text}: line {line} column {col} (char {e.pos})"

def isBlank (c : Char) : Bool :=
  c = ' ' || c = '\t' || c = '\n' || c = '\r'

/-- The characters that remain and their offset in the whole text. -/
structure Cursor where
  rest : List Char
  pos : Nat

namespace Cursor

def skipBlanks : Cursor → Cursor
  | ⟨c :: cs, p⟩ => if isBlank c then skipBlanks ⟨cs, p + 1⟩ else ⟨c :: cs, p⟩
  | ⟨[], p⟩ => ⟨[], p⟩

def advance (cur : Cursor) (n : Nat) : Cursor :=
  ⟨cur.rest.drop n, cur.pos + n⟩

def peek? (cur : Cursor) : Option Char :=
  cur.rest.head?

end Cursor

def hexValue? (c : Char) : Option Nat :=
  if '0' ≤ c ∧ c ≤ '9' then some (c.toNat - '0'.toNat)
  else if 'a' ≤ c ∧ c ≤ 'f' then some (c.toNat - 'a'.toNat + 10)
  else if 'A' ≤ c ∧ c ≤ 'F' then some (c.toNat - 'A'.toNat + 10)
  else none

/-- The number written by four hexadecimal digits. -/
def hex4? (cs : List Char) : Option Nat :=
  match cs with
  | [a, b, c, d] => do
    let a ← hexValue? a
    let b ← hexValue? b
    let c ← hexValue? c
    let d ← hexValue? d
    pure (((a * 16 + b) * 16 + c) * 16 + d)
  | _ => none

def isHighSurrogate (u : Nat) : Bool := 0xD800 ≤ u && u ≤ 0xDBFF

def isLowSurrogate (u : Nat) : Bool := 0xDC00 ≤ u && u ≤ 0xDFFF

/-- The character of a code unit that stands alone; a lone surrogate, which no character
can hold, becomes the replacement character. -/
def unitChar (u : Nat) : Char :=
  if 0xD800 ≤ u ∧ u ≤ 0xDFFF then '\uFFFD' else Char.ofNat u

/-- The character of a simple escape such as `\n`. -/
def simpleEscape? : Char → Option Char
  | '"' => some '"'
  | '\\' => some '\\'
  | '/' => some '/'
  | 'b' => some '\x08'
  | 'f' => some '\x0c'
  | 'n' => some '\n'
  | 'r' => some '\r'
  | 't' => some '\t'
  | _ => none

/-- An escaped code unit standing alone: a surrogate is refused unless `lone` lets it
through. -/
def loneUnit (lone : Bool) (u : Nat) (p : Nat) : Except ReadError Nat :=
  if 0xD800 ≤ u ∧ u ≤ 0xDFFF ∧ !lone then .error ⟨.loneSurrogate, p⟩ else .ok u

def codesText (codes : List Nat) : String :=
  String.ofList (codes.map unitChar)

/-- What a reading makes of a surrogate escaped alone, which no character can hold:
it refuses the document, or reads the surrogate as the character `standIn` gives for
its code unit. -/
inductive LoneSurrogate where
  | refuse
  | readAs (standIn : Nat → Char)

def LoneSurrogate.allowed : LoneSurrogate → Bool
  | .refuse => false
  | .readAs _ => true

def LoneSurrogate.text (lone : LoneSurrogate) (codes : List Nat) : String :=
  match lone with
  | .refuse => codesText codes
  | .readAs standIn =>
    String.ofList (codes.map fun u => if 0xD800 ≤ u ∧ u ≤ 0xDFFF then standIn u else Char.ofNat u)

/-- The private-use character that keeps a surrogate's code unit: `U+F0000` for
`0xD800`, and on through the 2048 units. -/
def keptUnit (u : Nat) : Char := Char.ofNat (0xF0000 + (u - 0xD800))

def unitKept (c : Char) : Nat := c.toNat - 0xF0000 + 0xD800

/-- Read the body of a string whose opening quote stands at `start`, from the offset
`p` on. A `\\u` escape needs four hexadecimal digits and one more character after
them; a high surrogate followed by an escaped low surrogate makes one character, and a
surrogate escaped alone is let through only when `lone` says so.
Returns the code points of the text, a surrogate let through standing for itself, and
the cursor after the closing quote. -/
def readString (lone : Bool) (start : Nat) : List Char → Nat → List Nat →
    Except ReadError (List Nat × Cursor)
  | [], _, _ => .error ⟨.unterminatedString, start⟩
  | '"' :: cs, p, acc => .ok (acc.reverse, ⟨cs, p + 1⟩)
  | '\\' :: 'u' :: a :: b :: c :: d :: '\\' :: 'u' :: e :: f :: g :: h :: more@(_ :: _),
      p, acc =>
    match hex4? [a, b, c, d] with
    | none => .error ⟨.invalidUnicodeEscape, p + 1⟩
    | some u =>
      if isHighSurrogate u then
        match hex4? [e, f, g, h] with
        | none => .error ⟨.invalidUnicodeEscape, p + 7⟩
        | some v =>
          if isLowSurrogate v then
            let ch := 0x10000 + (u - 0xD800) * 0x400 + (v - 0xDC00)
            readString lone start more (p + 12) (ch :: acc)
          else do
            let ch ← loneUnit lone u p
            readString lone start ('\\' :: 'u' :: e :: f :: g :: h :: more) (p + 6) (ch :: acc)
      else do
        let ch ← loneUnit lone u p
        readString lone start ('\\' :: 'u' :: e :: f :: g :: h :: more) (p + 6) (ch :: acc)
  | '\\' :: 'u' :: a :: b :: c :: d :: more@(_ :: _), p, acc =>
    match hex4? [a, b, c, d] with
    | none => .error ⟨.invalidUnicodeEscape, p + 1⟩
    | some u => do
      let ch ← loneUnit lone u p
      readString lone start more (p + 6) (ch :: acc)
  | '\\' :: 'u' :: _, p, _ => .error ⟨.invalidUnicodeEscape, p + 1⟩
  | '\\' :: e :: rest, p, acc =>
    match simpleEscape? e with
    | some ch => readString lone start rest (p + 2) (ch.toNat :: acc)
    | none => .error ⟨.invalidEscape, p⟩
  | ['\\'], _, _ => .error ⟨.unterminatedString, start⟩
  | ch :: cs, p, acc =>
    if ch.toNat ≤ 0x1f then .error ⟨.invalidControl, p⟩
    else readString lone start cs (p + 1) (ch.toNat :: acc)
termination_by cs _ _ => cs.length

def leadingDigits (cs : List Char) : List Char :=
  cs.takeWhile Char.isDigit

def digitsValue (ds : List Char) : Nat :=
  ds.foldl (fun n d => n * 10 + (d.toNat - '0'.toNat)) 0

/-- The number at the front of `cur`, if one starts there: an optional minus sign, a
whole part without leading zeros, then a fraction and an exponent, each only when digits
follow its mark. -/
def readNumber? (cur : Cursor) : Option (Value × Cursor) :=
  let (neg, body) := match cur.rest with
    | '-' :: r => (true, r)
    | r => (false, r)
  let whole := match body with
    | '0' :: _ => ['0']
    | _ => leadingDigits body
  if whole.isEmpty then none else
  let afterWhole := body.drop whole.length
  let frac := match afterWhole with
    | '.' :: r => leadingDigits r
    | _ => []
  let afterFrac := if frac.isEmpty then afterWhole else afterWhole.drop (frac.length + 1)
  let (expText, expSign, expDigits) := match afterFrac with
    | m :: r =>
      if m = 'e' ∨ m = 'E' then
        match r with
        | s :: r' =>
          if s = '+' ∨ s = '-' then
            let ds := leadingDigits r'
            if ds.isEmpty then ([], false, []) else (m :: s :: ds, s = '-', ds)
          else
            let ds := leadingDigits r
            if ds.isEmpty then ([], false, []) else (m :: ds, false, ds)
        | [] => ([], false, [])
      else ([], false, [])
    | [] => ([], false, [])
  let used := (if neg then 1 else 0) + whole.length +
    (if frac.isEmpty then 0 else frac.length + 1) + expText.length
  let next := cur.advance used
  if frac.isEmpty ∧ expText.isEmpty then
    let n : Int := digitsValue whole
    some (.int (if neg then -n else n), next)
  else
    let e0 : Int := digitsValue expDigits
    let e : Int := (if expSign then -e0 else e0) - frac.length
    let x := Decimal.nearest (digitsValue (whole ++ frac)) e
    some (.float (if neg then -x else x), next)

/-- The word at the front of `cur`, if it is one of the fixed words. -/
def readWord? (cur : Cursor) : Option (Value × Cursor) :=
  let words : List (String × Value) :=
    [("null", .null), ("true", .bool true), ("false", .bool false),
     ("NaN", .float (0.0 / 0.0)), ("Infinity", .float (1.0 / 0.0)),
     ("-Infinity", .float (-1.0 / 0.0))]
  words.findSome? fun (w, v) =>
    if w.toList.isPrefixOf cur.rest then some (v, cur.advance w.length) else none

mutual

/-- Read one value at the cursor, where `room` more containers may be opened. The fuel
bounds the steps and is never the reason of a failure when it exceeds the length of
the text. -/
def readValue (lone : LoneSurrogate) (room : Nat) : Nat → Cursor → Except ReadError (Value × Cursor)
  | 0, cur => .error ⟨.expectingValue, cur.pos⟩
  | fuel + 1, cur =>
    match cur.rest with
    | '"' :: cs => do
      let (s, next) ← readString lone.allowed cur.pos cs (cur.pos + 1) []
      pure (.str (lone.text s), next)
    | '{' :: _ =>
      if room = 0 then .error ⟨.nestedTooDeep true, cur.pos⟩
      else readMembers lone (room - 1) fuel (cur.advance 1).skipBlanks []
    | '[' :: _ =>
      if room = 0 then .error ⟨.nestedTooDeep false, cur.pos⟩
      else readItems lone (room - 1) fuel (cur.advance 1).skipBlanks []
    | _ =>
      match readWord? cur with
      | some r => .ok r
      | none =>
        match readNumber? cur with
        | some (.int n, next) =>
          let digits := (toString n.natAbs).length
          if digits > maxIntDigits then .error ⟨.tooManyDigits digits, cur.pos⟩
          else .ok (.int n, next)
        | some r => .ok r
        | none => .error ⟨.expectingValue, cur.pos⟩

/-- Read the members of an object after its brace; `acc` holds those read so far. -/
def readMembers (lone : LoneSurrogate) (room : Nat) : Nat → Cursor → List (String × Value) →
    Except ReadError (Value × Cursor)
  | 0, cur, _ => .error ⟨.expectingValue, cur.pos⟩
  | fuel + 1, cur, acc =>
    match cur.rest with
    | '}' :: _ =>
      if acc.isEmpty then .ok (.obj acc, cur.advance 1)
      else .error ⟨.expectingPropertyName, cur.pos⟩
    | '"' :: cs => do
      let (k, afterKey) ← readString lone.allowed cur.pos cs (cur.pos + 1) []
      let atColon := afterKey.skipBlanks
      match atColon.rest with
      | ':' :: _ =>
        let (v, afterValue) ← readValue lone room fuel (atColon.advance 1).skipBlanks
        let acc := Value.setField acc (lone.text k) v
        let atSep := afterValue.skipBlanks
        match atSep.rest with
        | '}' :: _ => .ok (.obj acc, atSep.advance 1)
        | ',' :: _ =>
          let next := (atSep.advance 1).skipBlanks
          match next.rest with
          | '"' :: _ => readMembers lone room fuel next acc
          | _ => .error ⟨.expectingPropertyName, next.pos⟩
        | _ => .error ⟨.expectingComma, atSep.pos⟩
      | _ => .error ⟨.expectingColon, atColon.pos⟩
    | _ => .error ⟨.expectingPropertyName, cur.pos⟩

/-- Read the items of an array after its bracket; `acc` holds those read so far, last
first. -/
def readItems (lone : LoneSurrogate) (room : Nat) : Nat → Cursor → List Value →
    Except ReadError (Value × Cursor)
  | 0, cur, _ => .error ⟨.expectingValue, cur.pos⟩
  | fuel + 1, cur, acc =>
    match cur.rest, acc with
    | ']' :: _, [] => .ok (.arr [], cur.advance 1)
    | _, _ => do
      let (v, afterValue) ← readValue lone room fuel cur
      let atSep := afterValue.skipBlanks
      match atSep.rest with
      | ']' :: _ => .ok (.arr (v :: acc).reverse, atSep.advance 1)
      | ',' :: _ => readItems lone room fuel (atSep.advance 1).skipBlanks (v :: acc)
      | _ => .error ⟨.expectingComma, atSep.pos⟩

end

/-- Read a whole text as one JSON document, a surrogate escaped alone read as `lone`
says and containers nested at most `room` deep: blanks may surround it, nothing else may
follow it, and a byte order mark in front is refused. -/
def Value.readWith (lone : LoneSurrogate) (room : Nat) (doc : String) : Except ReadError Value :=
  let cs := doc.toList
  match cs with
  | '\uFEFF' :: _ => .error ⟨.byteOrderMark, 0⟩
  | _ => do
    let start := Cursor.skipBlanks ⟨cs, 0⟩
    let (v, after) ← readValue lone room (2 * cs.length + 2) start
    let tail := after.skipBlanks
    if tail.rest.isEmpty then pure v else .error ⟨.extraData, tail.pos⟩

/-- Read a whole text as one JSON document, surrogates escaped alone let through as the
replacement character. -/
def Value.read (doc : String) : Except ReadError Value :=
  Value.readWith (.readAs fun _ => '\uFFFD') maxNesting doc

/-- Read a whole text as one JSON document, each surrogate escaped alone kept as the
private-use character `keptUnit` gives for it. -/
def Value.readKeeping (doc : String) : Except ReadError Value :=
  Value.readWith (.readAs keptUnit) maxNesting doc

/-- Read a whole text as one JSON document whose escapes must all be characters: a
surrogate escaped alone is refused. -/
def Value.readScalars (doc : String) : Except ReadError Value :=
  Value.readWith .refuse maxScalarNesting doc

/-- The code points of the text member `key` among the members of an object from the
cursor on, a surrogate escaped alone kept as itself; the last member of that name
counts. `found` is what the members before gave; the scan stops where the object
cannot be read, and the fuel bounds the members. -/
def scanMembers (key : String) : Nat → Cursor → Option (List Nat) → Option (List Nat)
  | 0, _, found => found
  | fuel + 1, cur, found =>
    match cur.rest with
    | '"' :: cs =>
      match readString true cur.pos cs (cur.pos + 1) [] with
      | .error _ => found
      | .ok (k, afterKey) =>
        let atColon := afterKey.skipBlanks
        match atColon.rest with
        | ':' :: _ =>
          let atValue := (atColon.advance 1).skipBlanks
          let found := if codesText k = key then
              match atValue.rest with
              | '"' :: vs =>
                match readString true atValue.pos vs (atValue.pos + 1) [] with
                | .ok (codes, _) => some codes
                | .error _ => none
              | _ => none
            else found
          match readValue (.readAs unitChar) maxNesting (2 * atValue.rest.length + 2) atValue with
          | .ok (_, afterValue) =>
            let atSep := afterValue.skipBlanks
            match atSep.rest with
            | ',' :: _ => scanMembers key fuel (atSep.advance 1).skipBlanks found
            | _ => found
          | .error _ => found
        | _ => found
    | _ => found

/-- The code points of the text member `key` of the object a document holds, a
surrogate escaped alone kept as its code unit, which text cannot hold; none when the
document holds no object or the member is not text. -/
def memberCodes? (doc : String) (key : String) : Option (List Nat) :=
  let start := Cursor.skipBlanks ⟨doc.toList, 0⟩
  match start.rest with
  | '{' :: _ => scanMembers key doc.length (start.advance 1).skipBlanks none
  | _ => none

end Uptime.Json
