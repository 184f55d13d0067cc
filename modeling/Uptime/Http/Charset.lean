import Uptime.Http.Params
import Uptime.Encoding.Codec
/-!
Turning the bytes of a response into text. An empty body is empty text. Otherwise the
charset comes from the `charset` parameter of the content type; a charset no codec
answers to, or none, means UTF-8. The body is read incrementally into code points, each
run of bytes that forms no character written as the replacement character and each
surrogate alone kept (`bodyCodes`). A JSON document given as bytes tells its own encoding
by its first bytes, and surrogates in it pass (`jsonText?`).
-/

namespace Uptime.Http

open Uptime.Encoding

/-- The encoding of a JSON document given as bytes, told by its first bytes: a byte order
mark, else where the zero bytes of its first four stand, else UTF-8. -/
def jsonCodec (bs : List UInt8) : Codec :=
  let starts := fun (p : List UInt8) => bs.take p.length = p
  if starts [0, 0, 0xFE, 0xFF] || starts [0xFF, 0xFE, 0, 0] then .utf32 none
  else if starts [0xFE, 0xFF] || starts [0xFF, 0xFE] then .utf16 none
  else if starts [0xEF, 0xBB, 0xBF] then .utf8Sig
  else match bs with
    | b0 :: b1 :: b2 :: b3 :: _ =>
      if b0 = 0 then (if b1 ≠ 0 then .utf16 (some true) else .utf32 (some true))
      else if b1 = 0 then (if b2 ≠ 0 || b3 ≠ 0 then .utf16 (some false) else .utf32 (some false))
      else .utf8
    | [b0, b1] =>
      if b0 = 0 then .utf16 (some true) else if b1 = 0 then .utf16 (some false) else .utf8
    | _ => .utf8

/-- UTF-8 bytes with each encoded surrogate (`ED A0..BF 80..BF`), which no character
can hold, replaced by the encoding of the replacement character. -/
def passSurrogates : List UInt8 → List UInt8
  | 0xED :: b1 :: b2 :: rest =>
    if 0xA0 ≤ b1 && b1 ≤ 0xBF && isCont b2 then 0xEF :: 0xBF :: 0xBD :: passSurrogates rest
    else 0xED :: passSurrogates (b1 :: b2 :: rest)
  | b :: rest => b :: passSurrogates rest
  | [] => []

/-- Whether a bad run of UTF-16 or UTF-32 of known byte order is one surrogate unit,
which passes. -/
def isSurrogateUnit (c : Codec) (bs : List UInt8) : Bool :=
  let inRange := fun (u : Nat) => 0xD800 ≤ u && u ≤ 0xDFFF
  match c with
  | .utf16 (some big) => bs.length = 2 && inRange (unitOf big bs)
  | .utf32 (some big) => bs.length = 4 && inRange (unitOf big bs)
  | _ => false

/-- The byte order of UTF-16 or UTF-32 a document is read in: as named, else by its
mark, else little-endian. -/
def jsonByteOrder (c : Codec) (bs : List UInt8) : Bool :=
  match c with
  | .utf16 (some big) | .utf32 (some big) => big
  | .utf16 none => ((byteOrderMark? 2 bs).map (·.1)).getD false
  | .utf32 none => ((byteOrderMark? 4 bs).map (·.1)).getD false
  | _ => false

/-- The text of a JSON document given as bytes, in the encoding its first bytes tell;
surrogates, encoded in UTF-8 or standing alone in UTF-16 or UTF-32, pass as replacement
characters. None when other bytes are not text in that encoding. -/
def jsonText? (bs : List UInt8) : Option String :=
  let c := jsonCodec bs
  let bs := if c = .utf8 || c = .utf8Sig then passSurrogates bs else bs
  let big := jsonByteOrder c bs
  let fixed : Codec := match c with
    | .utf16 _ => .utf16 (some big)
    | .utf32 _ => .utf32 (some big)
    | other => other
  let body := match c with
    | .utf16 none => ((byteOrderMark? 2 bs).map (·.2)).getD bs
    | .utf32 none => ((byteOrderMark? 4 bs).map (·.2)).getD bs
    | _ => bs
  let pieces := fixed.pieces body
  (pieces.mapM fun (p : Piece) => match p with
    | .char ch => some ch
    | .lone _ => some '�'
    | .bad run => if isSurrogateUnit fixed run then some '�' else none).map String.ofList

def bodyCodes (contentType : Option String) (bs : List UInt8) : Except ReadError (List Nat) := do
  if bs.isEmpty then return []
  let name ← match contentType with
    | some ct => contentCharset ct
    | none => pure none
  ((name.bind Codec.ofName?).getD .utf8).readReplacing bs

end Uptime.Http
