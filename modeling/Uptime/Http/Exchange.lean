import Uptime.Text.Case
/-!
One HTTP exchange: a request names a method and an address, a response carries a
status, headers and a body. An exchange may also fail before a response arrives; such a
failure names its kind, by the class names an HTTP client reports, and carries a
message. Timeouts are one family of failures, and the client's own errors another.
-/
namespace Uptime.Http

open Uptime.Text

abbrev Headers := List (String × String)

def Headers.values (hs : Headers) (name : String) : List String :=
  (hs.filter fun (k, _) => lower k = lower name).map (·.2)

/-- The value of a header, in any case; several headers of one name read as their
values joined by commas. -/
def Headers.get? (hs : Headers) (name : String) : Option String :=
  match hs.values name with
  | [] => none
  | vs => some (", ".intercalate vs)

def Headers.has (hs : Headers) (name : String) : Bool :=
  (hs.get? name).isSome

/-- A request: a method and an address. -/
structure Request where
  method : String
  url : String
deriving DecidableEq, Repr

/-- A response: a status, headers, and the body as bytes after any content coding is
undone. -/
structure Response where
  status : Int
  headers : Headers
  body : List UInt8
deriving Repr

/-- An exchange that ended without a response. -/
structure Failure where
  /-- the kind of failure, as the class name the client gives it -/
  kind : String
  message : String
deriving DecidableEq, Repr

def timeoutKinds : List String :=
  ["TimeoutException", "ConnectTimeout", "ReadTimeout", "WriteTimeout", "PoolTimeout",
   "TimeoutError"]

def clientKinds : List String :=
  ["HTTPError", "RequestError", "TransportError", "TimeoutException", "ConnectTimeout",
   "ReadTimeout", "WriteTimeout", "PoolTimeout", "NetworkError", "ConnectError", "ReadError",
   "WriteError", "CloseError", "ProtocolError", "LocalProtocolError", "RemoteProtocolError",
   "ProxyError", "UnsupportedProtocol", "DecodingError", "TooManyRedirects",
   "HTTPStatusError"]

/-- Kinds of failure about addresses and streams, raised by the client outside its
error family. -/
def addressKinds : List String :=
  ["InvalidURL", "StreamError", "StreamConsumed", "StreamClosed", "ResponseNotRead",
   "RequestNotRead"]

def Failure.isTimeout (f : Failure) : Bool := timeoutKinds.contains f.kind

def Failure.isClientError (f : Failure) : Bool := clientKinds.contains f.kind

/-- The text a failure is reported by: its message, or its kind when the message is
empty. -/
def Failure.text (f : Failure) : String :=
  if f.message.isEmpty then f.kind else f.message

end Uptime.Http
