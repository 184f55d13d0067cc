import Uptime.Mail.Token
import Uptime.Codec.Base64
import Uptime.Encoding.Codec
/-!
Encoded words: `=?charset?q?text?=` or `=?charset?b?text?=` stand for the
text they decode to. The `q` form writes a blank as `_` and any byte as `=` and two hex
digits; the `b` form is base64, read strictly first and then ever more leniently, and
left as it is when no reading works.

The decoded bytes are read in the word's charset. Bytes the charset cannot read stay in
the text as bytes, as do all bytes above ASCII when the charset is unknown or no text
encoding; the header reads them as UTF-8 when it is finished. A word the charset fails
on otherwise, or whose unreadable bytes include ASCII, is no encoded word. A word whose inside is not `charset?q?text` or
`charset?b?text` is no encoded word.
-/
namespace Uptime.Mail

open Uptime.Encoding

def splitOnce (sep : Glyphs) : Glyphs → Option (Glyphs × Glyphs)
  | [] => if sep.isEmpty then some ([], []) else none
  | g :: rest =>
    if sep.isPrefixOf (g :: rest) then some ([], (g :: rest).drop sep.length)
    else (splitOnce sep rest).map fun (a, b) => (g :: a, b)

def splitAt (c : Char) : Glyphs → List Glyphs
  | [] => [[]]
  | g :: rest =>
    match splitAt c rest with
    | piece :: more => if g = .char c then [] :: piece :: more else (g :: piece) :: more
    | [] => [[g]]

def Glyph.isHexDigit : Glyph → Bool
  | .char c => c.isDigit || ('a' ≤ c && c ≤ 'f') || ('A' ≤ c && c ≤ 'F')
  | .byte _ => false

def hexValue (b : UInt8) : Nat :=
  if b ≤ 0x39 then b.toNat - 0x30 else if b ≤ 0x46 then b.toNat - 0x37 else b.toNat - 0x57

def isHexByte (b : UInt8) : Bool :=
  (0x30 ≤ b && b ≤ 0x39) || (0x41 ≤ b && b ≤ 0x46) || (0x61 ≤ b && b ≤ 0x66)

/-- The bytes of `q` text: `_` is a blank, `=` and two hex digits are that byte. -/
def decodeQ : List UInt8 → List UInt8
  | 0x5F :: rest => 0x20 :: decodeQ rest
  | 0x3D :: h :: l :: rest =>
    if isHexByte h && isHexByte l then (hexValue h * 16 + hexValue l).toUInt8 :: decodeQ rest
    else 0x3D :: decodeQ (h :: l :: rest)
  | b :: rest => b :: decodeQ rest
  | [] => []

/-- Base64 reading, group of four by group of four. `quad` is the place in the group,
`left` the bits carried to the next byte, `pads` the padding seen at the end of the
group and `padded` whether any padding was seen. Padding that completes a group ends
the reading. Strictly read, only the alphabet is allowed, no padding may start the text
or a group or be followed by more text or data; leniently read, other characters are
skipped. Either way a group left unfinished is an error. -/
def readBase64 (strict : Bool) : List UInt8 → Nat → Nat → Nat → Bool → List UInt8 →
    Option (List UInt8)
  | [], quad, _, _, _, out => if quad = 0 then some out.reverse else none
  | b :: rest, quad, left, pads, padded, out =>
    if b = 0x3D then
      if strict && quad = 0 then none
      else if quad ≥ 2 && quad + (pads + 1) ≥ 4 then
        if strict && !rest.isEmpty then none else some out.reverse
      else readBase64 strict rest quad left (if quad ≥ 2 then pads + 1 else pads) true out
    else match Codec.sextet? (Char.ofNat b.toNat) with
      | none => if strict then none else readBase64 strict rest quad left pads padded out
      | some v =>
        if strict && padded then none
        else match quad with
          | 0 => readBase64 strict rest 1 v 0 padded out
          | 1 => readBase64 strict rest 2 (v % 16) 0 padded ((left * 4 + v / 16).toUInt8 :: out)
          | 2 => readBase64 strict rest 3 (v % 4) 0 padded ((left * 16 + v / 4).toUInt8 :: out)
          | _ => readBase64 strict rest 0 0 0 padded ((left * 64 + v).toUInt8 :: out)

def base64Bytes? (strict : Bool) (bs : List UInt8) : Option (List UInt8) :=
  if strict && bs.head? = some 0x3D then none else readBase64 strict bs 0 0 0 false []

/-- The bytes of `b` text: read strictly with the padding it lacks, else leniently as
it is, else leniently with two more pads, else left as it is. -/
def decodeB (bs : List UInt8) : List UInt8 :=
  let short := bs.length % 4
  let padded := bs ++ List.replicate (if short = 0 then 0 else 4 - short) 0x3D
  match base64Bytes? true padded with
  | some r => r
  | none => match base64Bytes? false bs with
    | some r => r
    | none => (base64Bytes? false (bs ++ [0x3D, 0x3D])).getD bs

def asciiGlyphs (bs : List UInt8) : Glyphs :=
  bs.map fun b => if b < 0x80 then .char (Char.ofNat b.toNat) else .byte b

/-- Pieces as glyphs: characters as they are, a surrogate alone as the replacement
character, the bytes of bad runs as bytes. -/
def piecesGlyphs (ps : List Piece) : Glyphs :=
  ps.flatMap fun
    | .char c => [.char c]
    | .lone _ => [.char '�']
    | .bad bs => bs.map .byte

/-- Bytes read in the charset of an encoded word: no bytes are no text in any charset,
named by a codec or not; otherwise as ASCII when no codec answers to the name or the
codec is no text encoding; else with the bytes the codec cannot read kept as bytes as
far as they can be (`Codec.readEscaping`), none when the reading fails. -/
def charsetGlyphs (name : Glyphs) (bs : List UInt8) : Option Glyphs :=
  if bs.isEmpty then some [] else
  let codec := if name.any Glyph.isByte then none
    else Codec.ofName? (String.ofList (name.filterMap fun g => match g with
      | .char c => some c
      | .byte _ => none))
  match codec with
  | some c =>
    if !c.isText then some (asciiGlyphs bs)
    else (c.readEscaping bs).map piecesGlyphs
  | none => some (asciiGlyphs bs)

/-- The byte a glyph of `q` or `b` text stands for: an ASCII character or a kept byte. -/
def Glyph.asciiByte? : Glyph → Option UInt8
  | .char c => if c.toNat < 0x80 then some c.toNat.toUInt8 else none
  | .byte b => some b

/-- The text an encoded word's inside `charset?encoding?text` decodes to; the charset
may carry a language after `*`. -/
def decodeWord (inside : Glyphs) : Option Glyphs :=
  match splitAt '?' inside with
  | [cs, enc, body] => do
    let bytes ← body.mapM Glyph.asciiByte?
    let decoded ← if enc = [.char 'q'] || enc = [.char 'Q'] then some (decodeQ bytes)
      else if enc = [.char 'b'] || enc = [.char 'B'] then some (decodeB bytes)
      else none
    charsetGlyphs (cs.takeWhile (· != .char '*')) decoded
  | _ => none

/-- Decoded text as tokens: runs of white space, and the words between them. -/
def wordParts : Glyphs → List Token
  | [] => []
  | g :: rest =>
    if g.isWsp then
      .leaf (.fws (g :: rest.takeWhile Glyph.isSpace)) :: wordParts (rest.dropWhile Glyph.isSpace)
    else .leaf (.piece (g :: rest.takeWhile (!·.isWsp))) :: wordParts (rest.dropWhile (!·.isWsp))
termination_by t => t.length
decreasing_by
  · have := (List.dropWhile_suffix Glyph.isSpace (l := rest)).length_le
    simp only [List.length_cons]; omega
  · have := (List.dropWhile_suffix (fun x : Glyph => !x.isWsp) (l := rest)).length_le
    simp only [List.length_cons]; omega

/-- An encoded word at the start of the text, and the text after it. The word ends at
the first `?=`, unless that is followed by two hex digits and the inside so far has
fewer than two `?`: then it is an escape inside the text and the word ends at the next
`?=`. -/
def encodedWord (v : Glyphs) : Except Fault (Token × Glyphs) := do
  unless v.hasPrefix "=?" do throw (.mismatch false)
  let (inside, after) ← match splitOnce (.ofString "?=") (v.drop 2) with
    | some r => pure r
    | none => throw (.mismatch false)
  let (inside, after) := match after with
    | h :: l :: _ =>
      if h.isHexDigit && l.isHexDigit && (inside.filter (· == Glyph.char '?')).length < 2 then
        match splitOnce (.ofString "?=") after with
        | some (more, rest) => (inside ++ Glyphs.ofString "?=" ++ more, rest)
        | none => (inside ++ Glyphs.ofString "?=" ++ after, [])
      else (inside, after)
    | _ => (inside, after)
  match decodeWord inside with
  | some t => pure (.node .encodedWord (wordParts t), after)
  | none => throw (.mismatch true)

end Uptime.Mail
