import Uptime.Json.Literal
/-!
Why a document does not fit a model. Each `Issue` names the place in the document,
a path of keys and list positions, the kind of mismatch and the value that did not fit.
`Checked` collects the issues of every field of a model instead of stopping at the
first, so a document is told all that is wrong with it, field after field
(`Checked.seq_issues`). A report (`report`) lists them in words, one after another.
-/
namespace Uptime.Schema

open Uptime.Json

/-- One step into a document: a key of an object or a position in a list. -/
inductive Step where
  | key (k : String)
  | index (i : Nat)
deriving DecidableEq, Repr

/-- The kinds of mismatch between a document and a model. -/
inductive Kind where
  | missing
  | intParsing
  /-- a whole number too large to be read -/
  | intParsingSize
  | intFromFloat
  | intType
  | stringType
  | boolParsing
  | boolType
  | floatParsing
  | floatType
  | finiteNumber
  /-- not one of the members of an enumeration, which `expected` lists -/
  | enumValue (expected : String)
  /-- not one of the values `expected` lists -/
  | literalError (expected : String)
  | greaterThanEqual (bound : Int)
  | lessThanEqual (bound : Int)
  /-- no moment, for the reason given -/
  | datetimeParsing (why : String)
  /-- text that is neither a moment nor a date, for the reason the date gives -/
  | datetimeFromDateParsing (why : String)
  | datetimeType
  | listType
  | dictType
  /-- not an object, where the model named was expected -/
  | modelType (model : String)
  /-- a rule of the model itself failed; the words say which -/
  | valueError (msg : String)
deriving DecidableEq, Repr

/-- The name of each kind of mismatch, as reports give it. -/
def Kind.tag : Kind → String
  | .missing => "missing"
  | .intParsing => "int_parsing"
  | .intParsingSize => "int_parsing_size"
  | .intFromFloat => "int_from_float"
  | .intType => "int_type"
  | .stringType => "string_type"
  | .boolParsing => "bool_parsing"
  | .boolType => "bool_type"
  | .floatParsing => "float_parsing"
  | .floatType => "float_type"
  | .finiteNumber => "finite_number"
  | .enumValue _ => "enum"
  | .literalError _ => "literal_error"
  | .greaterThanEqual _ => "greater_than_equal"
  | .lessThanEqual _ => "less_than_equal"
  | .datetimeParsing _ => "datetime_parsing"
  | .datetimeFromDateParsing _ => "datetime_from_date_parsing"
  | .datetimeType => "datetime_type"
  | .listType => "list_type"
  | .dictType => "dict_type"
  | .modelType _ => "model_type"
  | .valueError _ => "value_error"

/-- What each kind of mismatch says about the value. -/
def Kind.message : Kind → String
  | .missing => "Field required"
  | .intParsing => "Input should be a valid integer, unable to parse string as an integer"
  | .intParsingSize => "Unable to parse input string as an integer, exceeded maximum size"
  | .intFromFloat => "Input should be a valid integer, got a number with a fractional part"
  | .intType => "Input should be a valid integer"
  | .stringType => "Input should be a valid string"
  | .boolParsing => "Input should be a valid boolean, unable to interpret input"
  | .boolType => "Input should be a valid boolean"
  | .floatParsing => "Input should be a valid number, unable to parse string as a number"
  | .floatType => "Input should be a valid number"
  | .finiteNumber => "Input should be a finite number"
  | .enumValue e => "Input should be " ++ e
  | .literalError e => "Input should be " ++ e
  | .greaterThanEqual b => "Input should be greater than or equal to " ++ toString b
  | .lessThanEqual b => "Input should be less than or equal to " ++ toString b
  | .datetimeParsing why => "Input should be a valid datetime, " ++ why
  | .datetimeFromDateParsing why => "Input should be a valid datetime or date, " ++ why
  | .datetimeType => "Input should be a valid datetime"
  | .listType => "Input should be a valid list"
  | .dictType => "Input should be a valid dictionary"
  | .modelType m => "Input should be a valid dictionary or instance of " ++ m
  | .valueError msg => msg

/-- The choices of a list in words: separated by commas, the last two by `or`. -/
def choices : List String → String
  | [] => ""
  | [a] => a
  | [a, b] => a ++ " or " ++ b
  | a :: rest => a ++ ", " ++ choices rest

/-- A mismatch, where it is, and the value that did not fit. -/
structure Issue where
  loc : List Step
  kind : Kind
  input : Value

def Issue.under (s : Step) (i : Issue) : Issue :=
  { i with loc := s :: i.loc }

/-- The report of one issue: its place, its kind and, for a rule of the model, its
words. -/
def Issue.toValue (i : Issue) : Value :=
  let loc := Value.arr (i.loc.map fun
    | .key k => .str k
    | .index n => .int (n : Int))
  match i.kind with
  | .valueError msg => .obj [("loc", loc), ("type", .str i.kind.tag), ("msg", .str msg)]
  | k => .obj [("loc", loc), ("type", .str k.tag)]

/-- The name of the type of a value, as the runtime of the documents names it. -/
def typeName : Value → String
  | .null => "NoneType"
  | .bool _ => "bool"
  | .int _ => "int"
  | .float _ => "float"
  | .str _ => "str"
  | .arr _ => "list"
  | .obj _ => "dict"

/-- The longest run of characters from the front of `cs` whose UTF-8 takes at most `n`
bytes. -/
def prefixWithin (n : Nat) : List Char → List Char
  | [] => []
  | c :: cs => if c.utf8Size ≤ n then c :: prefixWithin (n - c.utf8Size) cs else []

/-- A value's literal as a report shows it: one longer than 50 bytes is cut to the
characters within its first 25 bytes and within its last 24, around an ellipsis. -/
def shownInput (v : Value) : String :=
  let lit := v.literal
  if lit.utf8ByteSize > 50 then
    String.ofList (prefixWithin 25 lit.toList) ++ "..." ++
      String.ofList (prefixWithin 24 lit.toList.reverse).reverse
  else lit

def explanationBase : String := "https://errors.pydantic.dev/2.14/v/"

/-- An issue in words: its place on a line of its own (none at the top), the message
with the kind, value and type, and where the kind is explained. -/
def Issue.describe (i : Issue) : String :=
  let place := match i.loc with
    | [] => ""
    | loc => ".".intercalate (loc.map fun
      | .key k => k
      | .index n => toString n) ++ "\n"
  place ++ "  " ++ i.kind.message ++ " [type=" ++ i.kind.tag ++ ", input_value=" ++
    shownInput i.input ++ ", input_type=" ++ typeName i.input ++ "]\n" ++
    "    For further information visit " ++ explanationBase ++ i.kind.tag

def issueCount (n : Nat) : String :=
  toString n ++ (if n = 1 then " validation error" else " validation errors")

/-- The report of the issues a document has with a model: their count, the model's
name and each issue in words. -/
def report (model : String) (issues : List Issue) : String :=
  issueCount issues.length ++ " for " ++ model ++ "\n" ++ "\n".intercalate (issues.map Issue.describe)

/-- A value that fits, or every issue found on the way. -/
structure Checked (α : Type) where
  run : Except (List Issue) α

namespace Checked

def ok (a : α) : Checked α := ⟨.ok a⟩

def fail (k : Kind) (input : Value) : Checked α := ⟨.error [⟨[], k, input⟩]⟩

def issues (c : Checked α) : List Issue :=
  match c.run with
  | .ok _ => []
  | .error is => is

def under (s : Step) (c : Checked α) : Checked α :=
  ⟨c.run.mapError (·.map (Issue.under s))⟩

/-- Continue with a check that needs the value; the first failure ends it. -/
def andThen (c : Checked α) (f : α → Checked β) : Checked β :=
  match c.run with
  | .ok a => f a
  | .error is => ⟨.error is⟩

instance : Functor Checked where
  map f c := ⟨c.run.map f⟩

/-- Two independent checks: the issues of the first, then those of the second. -/
instance : Applicative Checked where
  pure := ok
  seq cf cx :=
    match cf.run, (cx ()).run with
    | .ok f, .ok x => ⟨.ok (f x)⟩
    | .ok _, .error is => ⟨.error is⟩
    | .error is, .ok _ => ⟨.error is⟩
    | .error is, .error js => ⟨.error (is ++ js)⟩

def all : List (Checked α) → Checked (List α)
  | [] => ok []
  | c :: cs => (· :: ·) <$> c <*> all cs

theorem seq_issues (cf : Checked (α → β)) (cx : Checked α) :
    (cf <*> cx).issues = cf.issues ++ cx.issues := by
  obtain ⟨f⟩ := cf
  obtain ⟨x⟩ := cx
  cases f with
  | ok g => cases x <;> rfl
  | error is =>
    cases x with
    | ok _ => exact (List.append_nil is).symm
    | error js => rfl

end Checked

end Uptime.Schema
