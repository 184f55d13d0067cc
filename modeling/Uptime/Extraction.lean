import Uptime.Json.Read
import Uptime.Json.Write
import Uptime.Schema.Field
import Uptime.Text.Blank
import Uptime.Text.Digit
import Uptime.Text.Quoted
import Uptime.Text.Search
/-!
Readings taken from a JSON response. In the automatic mode every scalar of the document
is kept under its dotted path, a list under `<path>.length` as its length, and objects
deeper than three levels are left out. In the manual mode each configured dotted path is
looked up, through object keys and list positions, and kept when it leads somewhere.
A body given as text, or a document that is a string, is read as JSON when it looks
like JSON or its content type does not rule JSON out; text that is not JSON gives no
readings, and a document that nests too deep to be read stops the extraction.
-/
namespace Uptime.Extraction

open Uptime.Json Uptime.Schema Uptime.Text

/-- How readings are chosen. -/
inductive Mode where
  | auto
  | manual
deriving DecidableEq, Repr

/-- What to take from a response. -/
structure Config where
  enabled : Bool := true
  mode : Mode := .auto
  fields : List String := []
deriving Repr

namespace Config

/-- A configuration from a document. -/
def check (v : Value) : Checked Config :=
  (members "JsonParsingConfig" v).andThen fun fs =>
    Config.mk <$> withDefault fs "enabled" true truth
      <*> withDefault fs "mode" .auto
        (fun v => (fun m => if m = "manual" then Mode.manual else Mode.auto) <$>
          literal ["auto", "manual"] v)
      <*> withDefault fs "fields" [] (listOf text)

def toValue (c : Config) : Value :=
  .obj [("enabled", .bool c.enabled),
    ("mode", .str (match c.mode with | .auto => "auto" | .manual => "manual")),
    ("fields", .arr (c.fields.map .str))]

end Config

def maxDepth : Nat := 3

def joinPath (path key : String) : String :=
  if path.isEmpty then key else path ++ "." ++ key

mutual

def flattenInto (path : String) (depth : Nat) (out : List (String × Value)) :
    Value → List (String × Value)
  | .obj fs => if depth ≥ maxDepth then out else flattenMembers path depth out fs
  | .arr xs => Value.setField out (joinPath path "length") (.int xs.length)
  | v => Value.setField out (if path.isEmpty then "value" else path) v

def flattenMembers (path : String) (depth : Nat) (out : List (String × Value)) :
    List (String × Value) → List (String × Value)
  | [] => out
  | (k, v) :: fs => flattenMembers path depth (flattenInto (joinPath path k) (depth + 1) out v) fs

end

def flatten (v : Value) : List (String × Value) :=
  flattenInto "" 0 [] v

/-- Why readings could not be taken. A list position written with digits of any script
that are not decimal digits cannot be read as a number, nor can one whose leading
decimal digits number more than `maxDigits`; a body whose containers nest deeper than
the reading goes cannot be read at all. -/
inductive Fault where
  | notANumber (part : String)
  | tooManyDigits (count : Nat)
  | nestedTooDeep (reason : String)
deriving DecidableEq, Repr

def maxDigits : Nat := 4300

/-- The words of a fault. -/
def Fault.message : Fault → String
  | .notANumber part => "invalid literal for int() with base 10: " ++ quoted part
  | .tooManyDigits n =>
    "Exceeds the limit (" ++ toString maxDigits ++
      " digits) for integer string conversion: value has " ++ toString n ++
      " digits; use sys.set_int_max_str_digits() to increase the limit"
  | .nestedTooDeep reason => reason

/-- One step of a path: a key of an object, or a position in a list written in
digits. -/
def step (cur : Value) (part : String) : Except Fault (Option Value) :=
  match cur with
  | .obj fs => .ok (fs.lookup part)
  | .arr xs =>
    if part.isEmpty ∨ ¬ part.toList.all isDigitChar then .ok none
    else
      let leading := (part.toList.takeWhile fun c => (decimalValue? c).isSome).length
      if leading > maxDigits then .error (.tooManyDigits leading)
      else match decimalNumber? part with
        | none => .error (.notANumber part)
        | some i => .ok xs[i]?
  | _ => .ok none

def resolveParts (cur : Value) : List String → Except Fault (Option Value)
  | [] => .ok (some cur)
  | p :: ps => do
    match ← step cur p with
    | none => pure none
    | some next => resolveParts next ps

def dottedParts (path : String) : List String :=
  (path.toList.splitOn '.').map String.ofList

def resolve (doc : Value) (path : String) : Except Fault (Option Value) :=
  resolveParts doc (dottedParts path)

/-- The manual readings: each field that leads somewhere, under its path. -/
def pick (doc : Value) : List String → Except Fault (List (String × Value))
  | [] => .ok []
  | f :: fs => do
    let here ← resolve doc f
    let rest ← pick doc fs
    pure (match here with
      | some v => (f, v) :: rest
      | none => rest)

/-- A response body: text as it came, or a document already read. -/
inductive Body where
  | text (s : String)
  | doc (v : Value)

def namesJson (contentType : String) : Bool :=
  occursIn "json".toList (contentType.toList.map Char.toLower)

/-- The document in a text: the stripped text read as JSON, unless the content type
names something else and the text does not look like JSON. -/
def textDocument? (s : String) (contentType : Option String) : Except Fault (Option Value) :=
  let t := strip s
  let looksLikeJson := t.startsWith "\x7b" || t.startsWith "["
  if contentType.any (fun ct => !namesJson ct) && !looksLikeJson then .ok none
  else match Value.read t with
    | .ok v => .ok (some v)
    | .error e => if e.tooDeep then .error (.nestedTooDeep (e.message t)) else .ok none

/-- The document in a body, if there is one. Any string is text to be read, also a
document that is a string: it is read a second time. -/
def Body.document? (b : Body) (contentType : Option String) : Except Fault (Option Value) :=
  match b with
  | .text s => textDocument? s contentType
  | .doc (.str s) => textDocument? s contentType
  | .doc v => .ok (some v)

def collect (ps : List (String × Value)) : List (String × Value) :=
  ps.foldl (fun acc (k, v) => Value.setField acc k v) []

/-- The readings of a document itself, or none when there are none. -/
def readings (doc : Value) (c : Config) : Except Fault (Option (List (String × Value))) := do
  let found ← match c.mode with
    | .manual => collect <$> pick doc c.fields
    | .auto => pure (flatten doc)
  pure (if found.isEmpty then none else some found)

/-- The readings of a body, or none when disabled, not JSON, or empty. -/
def extract (b : Body) (contentType : Option String) (c : Config) :
    Except Fault (Option (List (String × Value))) :=
  if !c.enabled then .ok none else do
  match ← b.document? contentType with
  | none => pure none
  | some doc => readings doc c

def stored (readings : List (String × Value)) : String :=
  (Value.obj readings).render Layout.compact

end Uptime.Extraction
