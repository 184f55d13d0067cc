import Uptime.Schema.Field
import Uptime.Time.Epoch
import Uptime.Url.Split
/-!
Whether the TLS certificate a site serves is unexpired. Only an `https` address with a
host and a readable port is asked (the port defaulting to 443); any failure to fetch,
or a certificate without a readable expiry, reports an invalid certificate with no
expiry. An expiry without an offset is read as UTC; the certificate is valid when it
expires strictly after now.
-/
namespace Uptime.Certificate

open Uptime.Json Uptime.Schema Uptime.Time Uptime.Url

/-- What is known of a certificate: whether it is valid, and when it expires, in
milliseconds since the epoch (0 when unknown). -/
structure Info where
  valid : Bool := false
  expiry : Int := 0
deriving DecidableEq, Repr

namespace Info

def check (v : Value) : Checked Info :=
  (members "CertificateInfo" v).andThen fun fs =>
    Info.mk <$> withDefault fs "valid" false truth <*> withDefault fs "expiry" 0 whole

def toValue (i : Info) : Value :=
  .obj [("valid", .bool i.valid), ("expiry", .int i.expiry)]

end Info

/-- Where a certificate is fetched from. -/
structure Peer where
  host : String
  port : Nat
deriving DecidableEq, Repr

/-- The peer to ask for an address's certificate; none unless the address is `https`
with a host and a port from 0 to 65535 (0 and none meaning 443). -/
def peer? (url : String) : Except SplitError (Option Peer) := do
  let p ← split url
  if p.scheme != "https" then return none
  match p.hostname? with
  | none => return none
  | some host =>
    if host.isEmpty then return none
    match p.port? with
    | .error _ => return none
    | .ok port => return some ⟨host, match port with
      | some 0 | none => 443
      | some n => n⟩

/-- What fetching a certificate gave: its expiry, or nothing usable. -/
inductive Fetched where
  | expiry (t : Moment)
  | nothing

def Info.ofFetched (f : Fetched) (now : Moment) : Except ClockError Info :=
  match f with
  | .nothing => .ok {}
  | .expiry t =>
    let t := if t.offset.isNone then { t with offset := some 0 } else t
    (fun later => { valid := later, expiry := t.epochMillis }) <$> now.lt t

/-- Why an address cannot be inspected. -/
inductive InspectError where
  | address (e : SplitError)
  | clock (e : ClockError)

/-- Inspect the certificate of an address with a fetcher: the peer asked, if any, and
the facts found. -/
def inspect (url : String) (fetch : Peer → Fetched) (now : Moment) :
    Except InspectError (Option Peer × Info) := do
  match ← (peer? url).mapError .address with
  | none => pure (none, {})
  | some peer =>
    let info ← (Info.ofFetched (fetch peer) now).mapError .clock
    pure (some peer, info)

end Uptime.Certificate
