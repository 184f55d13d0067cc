/-!
Base64 text to bytes. Characters outside the alphabet are skipped; each group of four
characters gives three bytes, and a last group of two or three characters, padded or
not, gives one or two.
-/
namespace Uptime.Codec

/-- The value of a character of the base64 alphabet. -/
def sextet? (c : Char) : Option Nat :=
  if 'A' ≤ c ∧ c ≤ 'Z' then some (c.toNat - 'A'.toNat)
  else if 'a' ≤ c ∧ c ≤ 'z' then some (c.toNat - 'a'.toNat + 26)
  else if '0' ≤ c ∧ c ≤ '9' then some (c.toNat - '0'.toNat + 52)
  else if c = '+' then some 62
  else if c = '/' then some 63
  else none

/-- The bytes of groups of sextets. -/
def fromSextets : List Nat → List UInt8
  | a :: b :: c :: d :: rest =>
    let n := ((a * 64 + b) * 64 + c) * 64 + d
    [(n / 65536).toUInt8, (n / 256 % 256).toUInt8, (n % 256).toUInt8] ++ fromSextets rest
  | [a, b, c] =>
    let n := (a * 64 + b) * 64 + c
    [(n / 1024).toUInt8, (n / 4 % 256).toUInt8]
  | [a, b] => [((a * 64 + b) / 16).toUInt8]
  | _ => []

def decodeBase64 (s : String) : List UInt8 :=
  fromSextets (s.toList.filterMap sextet?)

end Uptime.Codec
