import Uptime.Http.Exchange
import Uptime.Codec.Inflate
import Uptime.Json.Write
import Uptime.Text.Blank
import Uptime.Text.Quoted
/-!
A scripted HTTP transport: a list of routes, each a method (or any method) and an
address with the reply to give. A request without a route gets a 404 with no headers and
no body. A reply is built the way a client builds a response: headers must be ASCII, a
document is sent as compact JSON with its length and content type, a non-empty body gets
its length, and the content codings named by the headers are undone at once, so a body
that does not expand fails the exchange.
-/
namespace Uptime.Http

open Uptime.Json Uptime.Text Uptime.Codec

/-- The content of a scripted response: bytes, or a document sent as JSON. -/
inductive Content where
  | bytes (b : List UInt8)
  | document (v : Value)

/-- What a scripted exchange does: answer, or fail before answering. -/
inductive Reply where
  | answer (status : Int) (headers : Headers) (content : Content)
  | fail (f : Failure)

/-- A route: a method (none for any method), an address, and the reply. -/
structure Route where
  method : Option String
  url : String
  reply : Reply

abbrev Script := List Route

/-- The reply for a request: a route for its method first, then one for any method. -/
def Script.find? (s : Script) (req : Request) : Option Reply :=
  match List.find? (fun r => r.method == some req.method && r.url == req.url) s with
  | some r => some r.reply
  | none => (List.find? (fun r => r.method.isNone && r.url == req.url) s).map (·.reply)

/-! ### Building a response -/

/-- The escape of a character in an error message: `\xhh`, `\uhhhh` or `\Uhhhhhhhh`. -/
def charEscape (c : Char) : String :=
  let n := c.toNat
  if n < 0x100 then "\\x" ++ hexPadded 2 n
  else if n < 0x10000 then "\\u" ++ hexPadded 4 n
  else "\\U" ++ hexPadded 8 n

/-- Why text cannot be written in ASCII: the first run of other characters. -/
def asciiFault? (s : String) : Option String :=
  let cs := s.toList
  match cs.findIdx? (·.toNat ≥ 128) with
  | none => none
  | some i =>
    let run := (cs.drop i).takeWhile (·.toNat ≥ 128)
    let what := match run with
      | [c] => "character " ++ inQuotes (charEscape c) ++ " in position " ++ toString i
      | _ => "characters in position " ++ toString i ++ "-" ++ toString (i + run.length - 1)
    some ("'ascii' codec can't encode " ++ what ++ ": ordinal not in range(128)")
where
  /-- Quoted with single quotes, the text kept as it is. -/
  inQuotes (t : String) : String := "'" ++ t ++ "'"

def headerFault? (hs : Headers) : Option String :=
  hs.findSome? fun (k, v) => (asciiFault? k).orElse fun _ => asciiFault? v

def contentCodings (hs : Headers) : List String :=
  (hs.values "content-encoding").flatMap fun v => (v.splitOn ",").map fun c => lower (strip c)

/-- Undo one content coding; `deflate` is zlib-framed or, failing that, bare. -/
def undoCoding (coding : String) (body : List UInt8) : Except InflateError (List UInt8) :=
  match coding with
  | "gzip" => inflateGzip body
  | "deflate" =>
    match inflateZlib body with
    | .ok b => .ok b
    | .error _ => inflateRaw body
  | _ => .ok body

def decodeBody (hs : Headers) (body : List UInt8) : Except Failure (List UInt8) :=
  let known := (contentCodings hs).filter (["identity", "gzip", "deflate"].contains ·)
  known.reverse.foldlM (fun b c =>
    (undoCoding c b).mapError fun e => ⟨"DecodingError", e.message⟩) body

/-- The bytes of a content and the headers it brings. -/
def Content.encode : Content → Except Failure (List UInt8 × Headers)
  | .bytes b => .ok (b, if b.isEmpty then [] else [("Content-Length", toString b.length)])
  | .document v =>
    if !v.strict then .error ⟨"ValueError", "Out of range float values are not JSON compliant"⟩
    else
      let b := (v.render Layout.compact).toUTF8.toList
      .ok (b, [("Content-Length", toString b.length), ("Content-Type", "application/json")])

/-- A response as a client builds it: given headers first, then those the content
brings that are not given, and the body with its codings undone. -/
def Response.build (status : Int) (headers : Headers) (c : Content) :
    Except Failure Response := do
  if let some msg := headerFault? headers then throw ⟨"UnicodeEncodeError", msg⟩
  let (raw, implied) ← c.encode
  let headers := headers ++ implied.filter fun (k, _) => !headers.has k
  let body ← decodeBody headers raw
  pure ⟨status, headers, body⟩

def Reply.response : Reply → Except Failure Response
  | .fail f => .error f
  | .answer status hs c => Response.build status hs c

def notFound : Response := ⟨404, [], []⟩

def Script.send (s : Script) (req : Request) : Except Failure Response :=
  match s.find? req with
  | none => .ok notFound
  | some r => r.response

end Uptime.Http
