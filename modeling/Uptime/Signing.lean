import Uptime.Digest.Hmac
import Uptime.Text.Blank
import Uptime.Text.Case
/-!
Signed requests. A request body is signed by the hexadecimal HMAC-SHA256 of its bytes
under a key. A verifier holds up to two keys, the current one and the next, so that keys
can be rotated; it accepts a signature that, stripped of blanks and put in lower case,
is the signature under one of its keys. Without keys nothing is accepted.
-/
namespace Uptime.Signing

open Uptime.Digest Uptime.Text

def sign (key : String) (body : List UInt8) : String :=
  hexOf (hmacSha256 (utf8 key) body)

/-- Signatures are compared as ASCII text; other characters cannot be compared. -/
inductive Fault where
  | nonAscii
deriving DecidableEq, Repr

def Fault.message : Fault → String
  | .nonAscii => "comparing strings with non-ASCII characters is not supported"

/-- The keys a verifier accepts signatures under. -/
structure Verifier where
  keys : List String
deriving Repr

def Verifier.ofKeys (current next : Option String) : Verifier :=
  ⟨[current, next].filterMap fun k => k.filter (!·.isEmpty)⟩

def normalized (signature : String) : String :=
  lower (strip signature)

/-- Whether a signature is accepted for a body. A missing or empty signature never is;
a signature with characters outside ASCII cannot be compared with any key. -/
def Verifier.verify (v : Verifier) (body : List UInt8) (signature : Option String) :
    Except Fault Bool :=
  match signature with
  | none => .ok false
  | some s =>
    if s.isEmpty then .ok false else
    let candidate := normalized s
    if v.keys.isEmpty then .ok false
    else if candidate.toList.any (·.toNat > 0x7F) then .error .nonAscii
    else .ok (v.keys.any fun k => sign k body == candidate)

end Uptime.Signing
