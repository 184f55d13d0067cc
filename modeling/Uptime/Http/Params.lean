import Uptime.Text.Blank
import Uptime.Text.Case
import Uptime.Encoding.Codec
/-!
The charset parameter of a content type, read as mail headers read parameters. The value
is cut at semicolons that do not stand inside quotes; in each part the text before the
first `=` is the name, stripped and in lower case, and the rest the value, stripped. The
first part, the type itself, is kept as it is; every other value loses one pair of
quotes (unescaping what they held) or of angle brackets. Parameters named `name*`,
`name*n` or `name*n*` are the pieces of one value: they are joined in order of
`n`, starred pieces unescaped from `%xx`, and when any piece was starred the whole
value is `charset'language'text`, the text read in that charset. The first parameter
named `charset` gives the charset, which must be ASCII and is put in lower case.
-/

namespace Uptime.Http

open Uptime.Text Uptime.Encoding

/-- How many times `pat`, not empty, occurs in `cs` without overlapping, counted from
the left. -/
def countOccurrences (pat : List Char) : List Char → Nat
  | [] => 0
  | c :: cs =>
    if pat ≠ [] ∧ pat.isPrefixOf (c :: cs) then
      1 + countOccurrences pat ((c :: cs).drop pat.length)
    else countOccurrences pat cs
termination_by cs => cs.length
decreasing_by
  all_goals simp only [List.length_drop, List.length_cons]
  · have : pat.length ≠ 0 := by simp_all
    omega
  · omega

/-- Whether the quotes in `cs` are unbalanced: an odd number of them, a quote after a
backslash not counting. -/
def oddQuotes (cs : List Char) : Bool :=
  (countOccurrences ['"'] cs - countOccurrences ['\\', '"'] cs) % 2 = 1

def semicolonFrom (cs : List Char) (start : Nat) : Option Nat :=
  ((cs.drop start).idxOf? ';').map (· + start)

/-- The end of the part at the front of `cs`: the first semicolon after which the
quotes before it are balanced, or the end of the text; `fuel` bounds the semicolons
looked at. -/
def partEnd (cs : List Char) : Nat → Option Nat → Nat
  | _, none => cs.length
  | 0, some e => e
  | fuel + 1, some e =>
    if e > 0 ∧ oddQuotes (cs.take e) then partEnd cs fuel (semicolonFrom cs (e + 1))
    else e

/-- A part with its name, before the first `=`, stripped and in lower case, and the rest
stripped; then stripped as a whole. -/
def tidyPart (f : List Char) : String :=
  match f.idxOf? '=' with
  | some i =>
    strip (lower (strip (String.ofList (f.take i))) ++ "=" ++ strip (String.ofList (f.drop (i + 1))))
  | none => strip (String.ofList f)

/-- The parts of text that starts with `;`, one for each semicolon that opens a part;
`fuel` bounds the parts. -/
def partsFrom : Nat → List Char → List String
  | 0, _ => []
  | fuel + 1, ';' :: s =>
    let e := partEnd s s.length (semicolonFrom s 0)
    tidyPart (s.take e) :: partsFrom fuel (s.drop e)
  | _ + 1, _ => []

def valueParts (value : String) : List String :=
  partsFrom (value.length + 1) (';' :: value.toList)

/-- A part as a name and a value, cut at its first `=`; a part without one is a name
with an empty value. -/
def nameValue (p : String) : String × String :=
  match p.toList.idxOf? '=' with
  | some i => (strip (String.ofList (p.toList.take i)), strip (String.ofList (p.toList.drop (i + 1))))
  | none => (strip p, "")

/-- A value without one pair of quotes, what they held unescaped, or without one pair of
angle brackets. -/
def unquoteValue (s : String) : String :=
  let cs := s.toList
  if cs.length > 1 ∧ cs.head? = some '"' ∧ cs.getLast? = some '"' then
    ((String.ofList (cs.drop 1).dropLast).replace "\\\\" "\\").replace "\\\"" "\""
  else if cs.length > 1 ∧ cs.head? = some '<' ∧ cs.getLast? = some '>' then
    String.ofList (cs.drop 1).dropLast
  else s

def quoteValue (s : String) : String :=
  (s.replace "\\" "\\\\").replace "\"" "\\\""

def storedValue (s : String) : String := "\"" ++ quoteValue s ++ "\""

/-- A parameter value: plain, or extended with a charset, a language and its text. -/
inductive ParamValue where
  | plain (v : String)
  | extended (charset : Option String) (language : Option String) (v : String)

def isWordChar (c : Char) : Bool := c.isAlphanum || c = '_'

/-- The name and number of a piece of an extended parameter: a word, a star, and
optionally a number and a star. -/
def continuation? (name : String) : Option (String × Option Nat) :=
  let cs := name.toList
  let word := cs.takeWhile isWordChar
  match cs.drop word.length with
  | '*' :: rest =>
    if word.isEmpty then none
    else if rest.isEmpty then some (String.ofList word, none)
    else
      let ds := rest.takeWhile Char.isDigit
      let after := rest.drop ds.length
      if ds.isEmpty then none
      else if after = [] ∨ after = ['*'] then
        some (String.ofList word, some (ds.foldl (fun n d => n * 10 + (d.toNat - 48)) 0))
      else none
  | _ => none

/-- Text with its `%xx` escapes of ASCII hexadecimal digits read as the characters of
those codes. -/
def percentDecoded : List Char → List Char
  | '%' :: a :: b :: rest =>
    match hexDigit? a, hexDigit? b with
    | some x, some y => Char.ofNat (x * 16 + y) :: percentDecoded rest
    | _, _ => '%' :: percentDecoded (a :: b :: rest)
  | c :: rest => c :: percentDecoded rest
  | [] => []
where
  /-- The value of an ASCII hexadecimal digit. -/
  hexDigit? (c : Char) : Option Nat :=
    if c.isDigit then some (c.toNat - 48)
    else if 'a' ≤ c ∧ c ≤ 'f' then some (c.toNat - 87)
    else if 'A' ≤ c ∧ c ≤ 'F' then some (c.toNat - 55)
    else none

/-- A piece of a continued parameter: its number, its value and whether it was starred. -/
structure Continuation where
  num : Option Nat
  value : String
  starred : Bool

/-- Whether one piece sorts before another: by number, then by value, then starred
last. -/
def Continuation.before (a b : Continuation) : Bool :=
  let numBefore := match a.num, b.num with
    | some x, some y => decide (x < y)
    | _, _ => false
  numBefore || (a.num == b.num && (decide (a.value < b.value) ||
    (a.value == b.value && !a.starred && b.starred)))

def Continuation.numType (c : Continuation) : String :=
  if c.num.isSome then "int" else "NoneType"

/-- Pieces in order; an error when numbered and unnumbered pieces meet, named by the
first pair of neighbours that differ so. -/
def sortPieces (ps : List Continuation) : Except ReadError (List Continuation) :=
  match (ps.zip ps.tail).find? fun (a, b) => a.num.isSome != b.num.isSome with
  | some (a, b) =>
    .error ⟨"TypeError", "'<' not supported between instances of '" ++ b.numType ++
      "' and '" ++ a.numType ++ "'"⟩
  | none => .ok (ps.mergeSort fun a b => !b.before a)

/-- The value of a continued parameter from its pieces in order. -/
def joinPieces (ps : List Continuation) : ParamValue :=
  let parts := ps.map fun p => if p.starred then String.ofList (percentDecoded p.value.toList) else p.value
  let value := quoteValue (String.join parts)
  if ps.any (·.starred) then
    match value.splitOn "'" with
    | cs :: lang :: rest@(_ :: _) =>
      .extended (some cs) (some lang) (storedValue' ("'".intercalate rest))
    | _ => .extended none none (storedValue' value)
  else .plain ("\"" ++ value ++ "\"")
where
  /-- An already escaped value in quotes. -/
  storedValue' (v : String) : String := "\"" ++ v ++ "\""

/-- The parameters of a header value in stored form, the type first: plain values
quoted, continued parameters joined after all others, in the order of their first
piece. -/
def storedParams (value : String) : Except ReadError (List (String × ParamValue)) := do
  match (valueParts value).map nameValue with
  | [] => pure []
  | (n0, v0) :: rest =>
    let plain := rest.filterMap fun (n, v) =>
      if (continuation? n).isSome then none else some (n, ParamValue.plain (storedValue (unquoteValue v)))
    let conts := rest.filterMap fun (n, v) =>
      (continuation? n).map fun (base, num) => (base, Continuation.mk num (unquoteValue v) (n.endsWith "*"))
    let names := conts.foldl (fun acc (b, _) => if acc.contains b then acc else acc ++ [b]) []
    let joined ← names.mapM fun b => do
      let ps ← sortPieces ((conts.filter (·.1 = b)).map (·.2))
      pure (b, joinPieces ps)
    pure ((n0, .plain v0) :: plain ++ joined)

/-- Text as the raw escape codec writes it: characters up to `0xFF` as their byte,
others as `\u` and four or `\U` and eight hexadecimal digits. -/
def rawEscaped (s : String) : List UInt8 :=
  s.toList.flatMap fun c =>
    let n := c.toNat
    if n < 0x100 then [n.toUInt8]
    else
      let ds := Nat.toDigits 16 n
      let (mark, width) := if n < 0x10000 then ('u', 4) else ('U', 8)
      ('\\' :: mark :: (List.replicate (width - ds.length) '0' ++ ds)).map fun ch => ch.toNat.toUInt8

/-- The charset a content type names: the first `charset` parameter, an extended value
read in its own charset when that reads it strictly; none when there is none or it is
not ASCII. In lower case. -/
def contentCharset (contentType : String) : Except ReadError (Option String) := do
  let params ← storedParams contentType
  match params.find? (fun (n, _) => lower n = "charset") with
  | none => pure none
  | some (_, v) =>
    let text := match v with
      | .plain s => unquoteValue s
      | .extended cs _ s =>
        let raw := unquoteValue s
        let name := match cs with
          | some c => if c.isEmpty then "us-ascii" else c
          | none => "us-ascii"
        match Codec.ofName? name with
        | some c =>
          if !c.isText then raw
          else match (c.readOnce (rawEscaped raw)).bind strictly? with
            | some chars => String.ofList chars
            | none => raw
        | none => raw
    pure (if text.toList.all (·.toNat < 128) then some (lower text) else none)

end Uptime.Http
