import Uptime.Schema.Field
import Uptime.Json.Literal
import Uptime.Text.Case
/-!
A notification: a title, a message, a priority and details. Every channel shows the
details the same way (`Payload.items`): each key made readable (a space before each
capital that follows a small letter or digit, underscores as spaces, the first
character in upper case), each value as text (`yes`/`no` for truth values), and
details without a value or with empty text left out.
-/
namespace Uptime.Notify

open Uptime.Json Uptime.Schema Uptime.Text

/-- How pressing a notification is. -/
inductive Priority where
  | urgent
  | normal
deriving DecidableEq, Repr

def Priority.name : Priority → String
  | .urgent => "urgent"
  | .normal => "normal"

def Priority.check (v : Value) : Checked Priority :=
  match v with
  | .str "urgent" => .ok .urgent
  | .str "normal" => .ok .normal
  | _ => .fail (.literalError (expected [.str "urgent", .str "normal"])) v

/-- A notification. -/
structure Payload where
  title : String
  message : String
  priority : Priority := .normal
  metadata : List (String × Value) := []

namespace Payload

def check (v : Value) : Checked Payload :=
  (members "NotificationPayload" v).andThen fun fs =>
    Payload.mk <$> required fs "title" text
      <*> required fs "message" text
      <*> withDefault fs "priority" .normal Priority.check
      <*> withDefault fs "metadata" [] (mapOf Checked.ok)

def toValue (p : Payload) : Value :=
  .obj [("title", .str p.title), ("message", .str p.message),
    ("priority", .str p.priority.name), ("metadata", .obj p.metadata)]

end Payload

def isSmallOrDigit (c : Char) : Bool := ('a' ≤ c && c ≤ 'z') || ('0' ≤ c && c ≤ '9')

def isCapital (c : Char) : Bool := 'A' ≤ c && c ≤ 'Z'

def spaceCapitals : List Char → List Char
  | a :: b :: rest =>
    if isSmallOrDigit a && isCapital b then a :: ' ' :: spaceCapitals (b :: rest)
    else a :: spaceCapitals (b :: rest)
  | cs => cs

def humanizeKey (key : String) : String :=
  match (spaceCapitals key.toList).map (fun c => if c = '_' then ' ' else c) with
  | [] => ""
  | c :: rest => upperOf c ++ String.ofList rest

/-- A detail's value as text: `yes` or `no` for truth values. -/
def detailText : Value → String
  | .bool b => if b then "yes" else "no"
  | v => v.display

def Payload.items (p : Payload) : List (String × String) :=
  p.metadata.filterMap fun (k, v) =>
    match v with
    | .null | .str "" => none
    | _ => some (humanizeKey k, detailText v)

end Uptime.Notify
