import Uptime.Schema.Field
import Uptime.Http.Exchange
import Uptime.Http.Status
import Uptime.Http.Charset
import Uptime.Json.Read
import Uptime.Url.Normal
import Uptime.Text.Blank
/-!
Where checks are made from: the region the prober is configured for, and its public
address as an address-lookup service reports it. The lookup is one `GET`; any failure,
an answer that is not a success, a body that is not a JSON object, or an `ip` that is
not text with something besides blanks leaves the address unknown; only a body that
nests too deep to be read stops the lookup. The address is kept as the service wrote
it.
-/
namespace Uptime.Probe

open Uptime.Json Uptime.Schema Uptime.Http Uptime.Url Uptime.Text

def unknownIp : String := "unknown"

/-- Where checks are made from. -/
structure Context where
  ip : String := unknownIp
  region : String
deriving DecidableEq, Repr

namespace Context

def check (v : Value) : Checked Context :=
  (members "ProbeContext" v).andThen fun fs =>
    Context.mk <$> withDefault fs "ip" unknownIp text <*> required fs "region" text

def toValue (c : Context) : Value :=
  .obj [("ip", .str c.ip), ("region", .str c.region)]

end Context

def lookupAbsorbs (f : Failure) : Bool :=
  f.isClientError || ["ValueError", "UnicodeEncodeError", "UnicodeDecodeError"].contains f.kind

/-- The address in a lookup answer, if it gives one; an answer that nests too deep to
be read stops the lookup. -/
def ipOf (resp : Response) : Except Failure (Option String) :=
  if !isSuccess resp.status then .ok none else
  match jsonText? resp.body with
  | none => .ok none
  | some text =>
    match Value.read text with
    | .error e => if e.tooDeep then .error ⟨"RecursionError", e.message text⟩ else .ok none
    | .ok (.obj fs) =>
      match fs.lookup "ip" with
      | some (.str ip) => .ok (if (strip ip).isEmpty then none else some ip)
      | _ => .ok none
    | .ok _ => .ok none

/-- Look up the public address with a transport: the requests made and the address,
or the error that was not absorbed. A host that does not decode as an internationalized
domain name is a malformed value: no request is made. -/
def lookupIp (send : Request → Except Failure Response) (url : String) :
    Except Failure (List Request × String) :=
  match Address.parse url with
  | .error e => .error ⟨"InvalidURL", e.message⟩
  | .ok addr =>
    if !addr.checkHost.isOk then .ok ([], unknownIp) else
    let req : Request := ⟨"GET", addr.sent⟩
    match send req with
    | .ok resp => (fun ip => ([req], ip.getD unknownIp)) <$> ipOf resp
    | .error f => if lookupAbsorbs f then .ok ([req], unknownIp) else .error f

end Uptime.Probe
