import Uptime.Digest.Sha256
/-!
Keyed digests: HMAC over SHA-256. A key longer than a block is first digested; the key,
padded with zeros to a block, is combined with the inner and the outer pad and digested
around the message.
-/
namespace Uptime.Digest

def blockSize : Nat := 64

def keyBlock (key : List UInt8) : List UInt8 :=
  let k := if key.length > blockSize then sha256 key else key
  k ++ List.replicate (blockSize - k.length) 0

def hmacSha256 (key msg : List UInt8) : List UInt8 :=
  let k := keyBlock key
  let inner := sha256 (k.map (· ^^^ 0x36) ++ msg)
  sha256 (k.map (· ^^^ 0x5c) ++ inner)

def utf8 (s : String) : List UInt8 :=
  s.toUTF8.toList

end Uptime.Digest
