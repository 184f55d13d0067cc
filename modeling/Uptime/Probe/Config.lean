import Uptime.Schema.Field
import Uptime.Json.Write
/-!
How a reachability check is made: how long it may take, how many redirects it follows,
the user agent it presents, and whether a successful `HEAD` is repeated as `GET` to read
the body. The headers sent are those of a desktop browser.
-/
namespace Uptime.Probe

open Uptime.Json Uptime.Schema

/-- The user agent presented unless another is configured. -/
def defaultUserAgent : String :=
  "Mozilla/5.0 (Macintosh; Intel Mac OS X 10_15_7) AppleWebKit/537.36 " ++
    "(KHTML, like Gecko) Chrome/122.0.0.0 Safari/537.36"

/-- How a check is made. -/
structure Config where
  timeoutSeconds : Float := 30.0
  maxRedirects : Int := 10
  userAgent : String := defaultUserAgent
  captureBody : Bool := true

/-- Why a float has no integer part. -/
structure Unconvertible where
  /-- the kind of error, as the class name of the runtime's error -/
  kind : String
  message : String
deriving DecidableEq, Repr

def wholePart (x : Float) : Except Unconvertible Int :=
  match Decimal.truncate? x with
  | some n => .ok n
  | none =>
    if Decimal.isNaN x then .error ⟨"ValueError", "cannot convert float NaN to integer"⟩
    else .error ⟨"OverflowError", "cannot convert float infinity to integer"⟩

namespace Config

def check (v : Value) : Checked Config :=
  (members "ProbeConfig" v).andThen fun fs =>
    Config.mk <$> withDefault fs "timeout_seconds" 30.0 real
      <*> withDefault fs "max_redirects" 10 whole
      <*> withDefault fs "user_agent" defaultUserAgent text
      <*> withDefault fs "capture_body" true truth

def timeoutMs (c : Config) : Except Unconvertible Int :=
  wholePart (c.timeoutSeconds * 1000.0)

/-- The headers sent with every request. -/
def browserHeaders (c : Config) : List (String × String) :=
  [("User-Agent", c.userAgent),
   ("Accept", "text/html,application/xhtml+xml,application/xml;q=0.9,image/avif,image/webp," ++
      "image/apng,*/*;q=0.8,application/signed-exchange;v=b3;q=0.7"),
   ("Accept-Language", "en-US,en;q=0.9"),
   ("Accept-Encoding", "gzip, deflate"),
   ("Cache-Control", "no-cache"),
   ("DNT", "1"),
   ("Sec-Fetch-Dest", "document"),
   ("Sec-Fetch-Mode", "navigate"),
   ("Sec-Fetch-Site", "none"),
   ("Sec-Fetch-User", "?1"),
   ("Upgrade-Insecure-Requests", "1")]

def toValue (c : Config) : Value :=
  .obj [("timeout_seconds", .float c.timeoutSeconds), ("max_redirects", .int c.maxRedirects),
    ("user_agent", .str c.userAgent), ("capture_body", .bool c.captureBody)]

end Config

end Uptime.Probe
