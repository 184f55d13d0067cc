import Uptime.Probe.Config
import Uptime.Probe.Outcome
import Uptime.Http.Exchange
import Uptime.Http.Status
import Uptime.Http.Charset
import Uptime.Url.Normal
import Uptime.Url.Join
import Uptime.Json.Read
import Uptime.Text.Digit
import Uptime.Text.Search
/-!
A reachability check. The address is completed to `https://` unless it names http or
https. The first request is a `HEAD`; a 405 switches to `GET`, and a successful `HEAD`
is repeated as `GET` to read the body unless the body is not wanted. Redirects are
followed by hand, resolved against the address that answered, and counted against the
configured limit. A JSON body is read and written back compactly; a body that is not
JSON fails the check, before the status is looked at, and one that nests too deep to be
read stops it, as does a body that holds a surrogate alone or, as JSON, escapes one,
which UTF-8 cannot measure, once a `GET` read it. Failures of the exchange become
failed outcomes: timeouts by the configured timeout, other client errors by their text.
Errors outside the client's family are not caught.
-/
namespace Uptime.Probe

open Uptime.Json Uptime.Http Uptime.Url Uptime.Text

/-- The address a check starts from: stripped, and with `https://` in front unless it
starts with `http://` or `https://`. -/
def normalizeUrl (url : String) : String :=
  let s := strip url
  if s.startsWith "http://" || s.startsWith "https://" then s else "https://" ++ s

def namesJson (contentType : Option String) : Bool :=
  contentType.any fun ct => occursIn "application/json".toList (lower ct).toList

/-- The body size a `HEAD` response declares: the `content-length` header when it is
all digits, else 0. More than `maxIntDigits` decimal digits before the first digit
without a decimal value exceed the integer limit; a digit without one cannot be read. -/
def declaredLength (hs : Headers) : Except Failure Int :=
  let d := strip ((hs.get? "content-length").getD "")
  if d.isEmpty || !d.toList.all isDigitChar then .ok 0
  else
    let leading := (d.toList.takeWhile fun c => (decimalValue? c).isSome).length
    if leading > maxIntDigits then .error ⟨"ValueError", (Fault.tooManyDigits leading).text⟩
    else match decimalNumber? d with
      | some n => .ok n
      | none => .error ⟨"ValueError", "invalid literal for int() with base 10: " ++ quoted d⟩

/-- The code points of the compact text of the JSON document `v`, read from the text of
the code points `codes`, each surrogate in it given back as its code unit, whether the
document escapes it alone or holds it alone. Read again with `keptUnit` standing in for
those surrogates, the document gives a compact text that differs from the first exactly
where they stand. -/
def compactCodes (v : Value) (codes : List Nat) : List Nat :=
  let plain := (v.render Layout.compact).toList
  let keptDoc := String.ofList (codes.map fun n =>
    if Encoding.isSurrogateCode n then keptUnit n else Char.ofNat n)
  match Value.readKeeping keptDoc with
  | .ok w =>
    let kept := (w.render Layout.compact).toList
    if plain.length = kept.length then
      List.zipWith (fun c d => if c = d then c.toNat else unitKept d) plain kept
    else plain.map Char.toNat
  | .error _ => plain.map Char.toNat

/-- The outcome of the response that ends a check, its body read as the text `content`,
the code points `codes` and the document `parsed`: a failure when the status is not
2xx, else a success. The content of a `GET` is measured in UTF-8, which fails on
surrogates that the body holds alone or, as JSON, escapes alone; a `HEAD` keeps them. -/
def answer (resp : Response) (method : String) (redirects : Nat) (contentType : Option String)
    (content : String) (codes : List Nat) (parsed : Value) : Except Failure Outcome := do
  if !isSuccess resp.status then
    return .failure
      { status := resp.status, totalMs := 0,
        error := "HTTP " ++ toString resp.status ++ ": " ++ reasonPhrase resp.status }
  let unencodable := match Encoding.encodeUtf8 codes with
    | .error e => some e
    | .ok _ => none
  let size ← if method = "HEAD" then declaredLength resp.headers
    else match unencodable with
      | some e => throw ⟨"UnicodeEncodeError", e.message⟩
      | none => pure (content.utf8ByteSize : Int)
  pure (.success
    { status := resp.status, ttfbMs := 0, totalMs := 0, redirects,
      responseBytes := size, content, contentType, parsedJson := parsed, unencodable })

/-- The outcome of the response that ends a check. A JSON body is read and written back
compactly; one that is not JSON is a failure without a status, one that nests too deep
stops the check. -/
def finish (resp : Response) (method : String) (redirects : Nat) : Except Failure Outcome := do
  let contentType := resp.headers.get? "content-type"
  let bodyCodes ← (bodyCodes contentType resp.body).mapError fun e => ⟨e.kind, e.message⟩
  let text := String.ofList (bodyCodes.map Encoding.codeChar)
  if namesJson contentType && !text.isEmpty then
    match Value.read text with
    | .error e =>
      if e.tooDeep then throw ⟨"RecursionError", e.message text⟩
      else pure (.failure { totalMs := 0, error := e.message text })
    | .ok v =>
      answer resp method redirects contentType (v.render Layout.compact) (compactCodes v bodyCodes) v
  else answer resp method redirects contentType text bodyCodes Value.null

/-- A failed exchange as the check reports it: a timeout by the configured timeout, an
error of the client by its text; any other error is not caught. -/
def caught (cfg : Config) (f : Failure) : Except Failure Outcome :=
  if f.isTimeout then
    match cfg.timeoutMs with
    | .ok ms => .ok (.failure { totalMs := 0, error := "Timeout after " ++ toString ms ++ "ms" })
    | .error e => .error ⟨e.kind, e.message⟩
  else if f.isClientError || addressKinds.contains f.kind then
    .ok (.failure { totalMs := 0, error := f.text })
  else .error f

def canonical (url : String) : Except Failure String :=
  (Address.parse url).map Address.render |>.mapError fun e => ⟨"InvalidURL", e.message⟩

/-- The address a request goes to, or the client's error; a host that does not decode
as an internationalized domain name is an error outside the client's family. -/
def requestTarget (url : String) : Except Failure String := do
  let a ← (Address.parse url).mapError fun e => ⟨"InvalidURL", e.message⟩
  a.checkHost.mapError fun e => ⟨e.kind.name, e.message⟩
  pure a.sent

/-- Where a redirect leads: the location in canonical form, resolved against the
address that answered, in canonical form again. -/
def redirectTarget (base location : String) : Except Failure String := do
  let loc ← canonical location
  let joined ← (join base loc).mapError fun e => ⟨"ValueError", e.message⟩
  canonical joined

/-- Where a check stands between two requests. -/
structure Walk where
  url : String
  redirects : Nat
  useHead : Bool

/-- Follow a check from `w` with at most `fuel` more requests, the requests made so far
in `calls`. -/
def walk (send : Request → Except Failure Response) (cfg : Config) :
    Nat → Walk → List Request → List Request × Except Failure Outcome
  | 0, _, calls => (calls, .ok (.failure { totalMs := 0, error := "ProbeError" }))
  | fuel + 1, w, calls =>
    let method := if w.useHead then "HEAD" else "GET"
    match requestTarget w.url with
    | .error f => (calls, caught cfg f)
    | .ok url =>
      let req : Request := ⟨method, url⟩
      let calls := calls ++ [req]
      match send req with
      | .error f => (calls, caught cfg f)
      | .ok resp =>
        let location := (resp.headers.get? "location").getD ""
        if isRedirectCode resp.status && !location.isEmpty then
          let redirects := w.redirects + 1
          if (redirects : Int) > cfg.maxRedirects then
            (calls, .ok (.failure
              { totalMs := 0,
                error := "Too many redirects (max " ++ toString cfg.maxRedirects ++ ")" }))
          else
            match redirectTarget url location with
            | .error f => (calls, caught cfg f)
            | .ok next => walk send cfg fuel { w with url := next, redirects } calls
        else if w.useHead && resp.status = 405 then
          walk send cfg fuel { w with useHead := false } calls
        else if w.useHead && isSuccess resp.status && cfg.captureBody then
          walk send cfg fuel { w with useHead := false } calls
        else (calls, finish resp method w.redirects)

/-- Check an address through a transport: the requests made, in order, and the outcome
or the error that was not caught. Each request either follows a redirect, of which
there are at most one more than the limit, switches from `HEAD` to `GET` once, or ends
the check. -/
def run (send : Request → Except Failure Response) (cfg : Config) (url : String) :
    List Request × Except Failure Outcome :=
  walk send cfg (cfg.maxRedirects.toNat + 3) ⟨normalizeUrl url, 0, true⟩ []

end Uptime.Probe
