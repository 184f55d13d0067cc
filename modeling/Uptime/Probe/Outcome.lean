import Uptime.Schema.Field
import Uptime.Encoding.Strict
/-!
What a reachability check finds. A success records the final status, the timings, how
many redirects were followed, the size and text of the body, its content type, for a
JSON body the document, and the surrogates the body holds or escapes alone, which keep
its text from being written as UTF-8. A failure records the status (0 when no response decided it),
the timings and why it failed.
-/
namespace Uptime.Probe

open Uptime.Json Uptime.Schema

/-- A check that reached a successful response. -/
structure Success where
  status : Int
  ttfbMs : Int
  totalMs : Int
  redirects : Int
  responseBytes : Int
  content : String
  contentType : Option String := none
  parsedJson : Value := .null
  /-- the surrogates, alone in the body or escaped alone in a JSON body, that keep the
  content from being written as UTF-8 -/
  unencodable : Option Encoding.EncodeError := none

/-- A check that failed. -/
structure Failed where
  status : Int := 0
  ttfbMs : Int := 0
  totalMs : Int
  error : String

/-- What a check finds. -/
inductive Outcome where
  | success (s : Success)
  | failure (f : Failed)

def Success.toValue (s : Success) : Value :=
  .obj [("ok", .bool true), ("status_code", .int s.status), ("ttfb_ms", .int s.ttfbMs),
    ("total_ms", .int s.totalMs), ("redirects", .int s.redirects),
    ("response_bytes", .int s.responseBytes), ("content", .str s.content),
    ("content_type", .ofOptStr s.contentType), ("parsed_json", s.parsedJson)]

def Failed.toValue (f : Failed) : Value :=
  .obj [("ok", .bool false), ("status_code", .int f.status), ("ttfb_ms", .int f.ttfbMs),
    ("total_ms", .int f.totalMs), ("error", .str f.error)]

def Outcome.toValue : Outcome → Value
  | .success s => s.toValue
  | .failure f => f.toValue

def Outcome.ok : Outcome → Bool
  | .success _ => true
  | .failure _ => false

/-- The truth value `b`, or a number equal to it: `1` for true, `0` for false. -/
def exactly (b : Bool) (v : Value) : Checked Bool :=
  let refused : Checked Bool := .fail (.literalError (expected [.bool b])) v
  match v with
  | .bool c => if b = c then .ok c else refused
  | .int n => if n = (if b then 1 else 0) then .ok b else refused
  | .float x => if x == (if b then 1.0 else 0.0) then .ok b else refused
  | _ => refused

/-- A success from a document. -/
def Success.check (v : Value) : Checked Success :=
  (members "ProbeSuccess" v).andThen fun fs =>
    (fun _ status ttfb total redirects bytes content ct parsed =>
        ({ status, ttfbMs := ttfb, totalMs := total, redirects, responseBytes := bytes,
           content, contentType := ct, parsedJson := parsed } : Success))
      <$> withDefault fs "ok" true (exactly true)
      <*> required fs "status_code" whole
      <*> required fs "ttfb_ms" whole
      <*> required fs "total_ms" whole
      <*> required fs "redirects" whole
      <*> required fs "response_bytes" whole
      <*> required fs "content" text
      <*> withDefault fs "content_type" none (nullable text)
      <*> withDefault fs "parsed_json" .null Checked.ok

/-- A failure from a document. -/
def Failed.check (v : Value) : Checked Failed :=
  (members "ProbeFailure" v).andThen fun fs =>
    (fun _ status ttfb total error => ({ status, ttfbMs := ttfb, totalMs := total, error } : Failed))
      <$> withDefault fs "ok" false (exactly false)
      <*> withDefault fs "status_code" 0 whole
      <*> withDefault fs "ttfb_ms" 0 whole
      <*> required fs "total_ms" whole
      <*> required fs "error" text

end Uptime.Probe
