import Uptime.Encoding.Utf
import Uptime.Encoding.SingleByte
import Uptime.Encoding.Names
import Uptime.Encoding.EastAsian
import Uptime.Encoding.Iso2022
import Uptime.Encoding.Escapes
import Uptime.Url.Punycode
/-!
The codecs a charset name can stand for, and how each reads bytes. Most are text
encodings that read bytes into pieces. Some are not text encodings at all: the codecs
from bytes to bytes (base 64, hexadecimal, quoted-printable, uuencode, zlib and bzip2)
and ROT13, which works on text. Others refuse to read in pieces: the undefined codec
always fails, and the codec of internationalized domain names reads only strictly.

Two readings are used. A client reads a body incrementally into code points, writing
each bad run as a replacement character and keeping each surrogate alone
(`Codec.readReplacing`); there UTF-16 and UTF-32 without a byte order mark fail once a
unit is read, a UTF-8 byte order mark cut short reads as nothing, and the codecs that
cannot read that way fail with their own errors. A mail header reads
an encoded word at once, strictly (`Codec.readOnce`) or escaping the bytes it cannot
read (`Codec.readEscaping`), a UTF-16 or UTF-32 word without a mark being
little-endian.
-/

namespace Uptime.Encoding

/-- The codecs, by how they read. -/
inductive Codec where
  | utf8
  /-- UTF-8 after an optional byte order mark -/
  | utf8Sig
  /-- UTF-16 big-endian for `some true`, little-endian for `some false`, and for `none`
  told by a byte order mark -/
  | utf16 (bigEndian : Option Bool)
  | utf32 (bigEndian : Option Bool)
  | utf7
  | ascii
  | latin1
  /-- a single-byte charset, the character of each byte in a table of 256 -/
  | singleByte (table : String)
  /-- a codec from bytes to bytes -/
  | binary
  | rot13
  | undefined
  | idna
  | punycode
  /-- a charset of several bytes per character, or one that switches sets -/
  | multiByte (name : String)
  /-- text written with backslash escapes, only those of code points when `raw` -/
  | escapes (raw : Bool)
  deriving DecidableEq, Repr

def binaryCodecs : List String :=
  ["base64_codec", "bz2_codec", "hex_codec", "quopri_codec", "uu_codec", "zlib_codec"]

def multiByteCodecs : List String :=
  ["big5", "big5hkscs", "cp932", "cp949", "cp950", "euc_jis_2004", "euc_jisx0213", "euc_jp",
   "euc_kr", "gb18030", "gb2312", "gbk", "hz", "iso2022_jp", "iso2022_jp_1", "iso2022_jp_2",
   "iso2022_jp_2004", "iso2022_jp_3", "iso2022_jp_ext", "iso2022_kr", "johab", "shift_jis",
   "shift_jis_2004", "shift_jisx0213"]

/-- The codec of a codec name. -/
def Codec.ofCodecName? (m : String) : Option Codec :=
  match m with
  | "utf_8" => some .utf8
  | "utf_8_sig" => some .utf8Sig
  | "utf_16" => some (.utf16 none)
  | "utf_16_le" => some (.utf16 (some false))
  | "utf_16_be" => some (.utf16 (some true))
  | "utf_32" => some (.utf32 none)
  | "utf_32_le" => some (.utf32 (some false))
  | "utf_32_be" => some (.utf32 (some true))
  | "utf_7" => some .utf7
  | "ascii" => some .ascii
  | "latin_1" | "charmap" => some .latin1
  | "rot_13" => some .rot13
  | "undefined" => some .undefined
  | "idna" => some .idna
  | "punycode" => some .punycode
  | "unicode_escape" => some (.escapes false)
  | "raw_unicode_escape" => some (.escapes true)
  | _ =>
    if binaryCodecs.contains m then some .binary
    else if multiByteCodecs.contains m then some (.multiByte m)
    else (singleByteTables.lookup m).map .singleByte

def Codec.ofName? (name : String) : Option Codec :=
  (codecName? name).bind Codec.ofCodecName?

/-- Whether a codec reads bytes into text; the others cannot decode bytes as text. -/
def Codec.isText : Codec → Bool
  | .binary | .rot13 => false
  | _ => true

/-- The character a table of 256 gives a byte; none for U+FFFE, the mark of a byte
without one. -/
def tableChar? (table : String) (b : UInt8) : Option Char :=
  match table.toList[b.toNat]? with
  | some c => if c = '￾' then none else some c
  | none => none

/-- Bytes as pieces in a codec that reads pieces, UTF-16 and UTF-32 without a byte
order mark being little-endian. -/
def Codec.pieces (c : Codec) (bs : List UInt8) : List Piece :=
  match c with
  | .utf8 => utf8Pieces bs
  | .utf8Sig => utf8Pieces (if bs.take 3 = [0xEF, 0xBB, 0xBF] then bs.drop 3 else bs)
  | .utf16 order =>
    match order, byteOrderMark? 2 bs with
    | some big, _ => utf16Pieces big bs
    | none, some (big, rest) => utf16Pieces big rest
    | none, none => utf16Pieces false bs
  | .utf32 order =>
    match order, byteOrderMark? 4 bs with
    | some big, _ => utf32Pieces big bs
    | none, some (big, rest) => utf32Pieces big rest
    | none, none => utf32Pieces false bs
  | .utf7 => utf7Pieces bs
  | .latin1 => bs.map fun b => .char (Char.ofNat b.toNat)
  | .singleByte table => bs.map fun b => match tableChar? table b with
    | some ch => .char ch
    | none => .bad [b]
  | .multiByte name =>
    match eastAsianTable? name, switchingPieces? name with
    | some (t, f), _ => t.pieces f bs
    | none, some read => read bs
    | none, none => asciiPieces bs
  | .escapes raw => escapePieces raw bs
  | _ => asciiPieces bs
where
  /-- Bytes as ASCII, each byte above it bad. -/
  asciiPieces (bs : List UInt8) : List Piece :=
    bs.map fun b => if b < 0x80 then .char (Char.ofNat b.toNat) else .bad [b]

/-- An error a reading fails with: its kind and its words. -/
structure ReadError where
  kind : String
  message : String
  deriving DecidableEq, Repr

def asciiError (b : UInt8) (pos : Nat) : ReadError :=
  let ds := Nat.toDigits 16 b.toNat
  ⟨"UnicodeDecodeError", "'ascii' codec can't decode byte 0x" ++
    String.ofList (List.replicate (2 - ds.length) '0' ++ ds) ++ " in position " ++
    toString pos ++ ": ordinal not in range(128)"⟩

/-- Punycode bytes read leniently, as code points: the part before the last hyphen as
ASCII, bytes beyond it as replacement characters; the rest must be ASCII, and its
insertions stop at a bad number. A surrogate inserted stands alone. -/
def punycodeLenient (bs : List UInt8) : Except ReadError (List Nat) := do
  let (basic, ext) := Url.Punycode.splitBasic bs (· = 0x2D)
  match ext.findIdx? (· ≥ 0x80) with
  | some i => throw (asciiError (ext.getD i 0) i)
  | none => pure ()
  let start := basic.map fun b => if b < 0x80 then b.toNat else 0xFFFD
  let extChars := ext.map fun b => (Char.ofNat b.toNat).toUpper
  let codes := (Url.Punycode.insertAll true Url.Punycode.initialBias Url.Punycode.initialN 0
    true start extChars).getD start
  pure (codes.map fun n => if n < 0x110000 then n else 0xFFFD)

/-- The code points of a body read incrementally, every bad run a replacement character
and every surrogate alone its own code. -/
def Codec.readReplacing (c : Codec) (bs : List UInt8) : Except ReadError (List Nat) :=
  match c with
  | .utf16 none =>
    match byteOrderMark? 2 bs with
    | some (big, rest) => pure (replacedCodes (utf16Pieces big rest))
    | none =>
      if bs.length ≥ 2 then throw ⟨"UnicodeError", "UTF-16 stream does not start with BOM"⟩
      else pure (replacedCodes (utf16Pieces false bs))
  | .utf32 none =>
    match byteOrderMark? 4 bs with
    | some (big, rest) => pure (replacedCodes (utf32Pieces big rest))
    | none =>
      if bs.length ≥ 4 then throw ⟨"UnicodeError", "UTF-32 stream does not start with BOM"⟩
      else pure (replacedCodes (utf32Pieces false bs))
  | .utf8Sig =>
    if bs.length < 3 && bs = [0xEF, 0xBB, 0xBF].take bs.length then pure []
    else pure (replacedCodes (c.pieces bs))
  | .binary => throw ⟨"AssertionError", ""⟩
  | .rot13 =>
    throw ⟨"TypeError", "descriptor 'translate' for 'str' objects doesn't apply to a 'bytes' object"⟩
  | .undefined => throw ⟨"UnicodeError", "undefined encoding"⟩
  | .idna => throw ⟨"UnicodeError", "Unsupported error handling replace"⟩
  | .punycode => punycodeLenient bs
  | _ => pure (replacedCodes (c.pieces bs))

/-- Bytes read at once by a text codec, as pieces; none when the reading fails with an
error other than one on bad bytes. The codec of domain names reads ASCII without an
encoded label as it is, and is taken to fail on anything else; Punycode reads strictly
or fails. -/
def Codec.readOnce (c : Codec) (bs : List UInt8) : Option (List Piece) :=
  match c with
  | .undefined => none
  | .idna => if bs.all (· < 0x80) && !containsPrefix bs then some (c.pieces bs) else none
  | .punycode =>
    let (basic, ext) := Url.Punycode.splitBasic bs (· = 0x2D)
    if (basic ++ ext).any (· ≥ 0x80) then none
    else
      (Url.Punycode.insertAll false Url.Punycode.initialBias Url.Punycode.initialN 0 true
        (basic.map UInt8.toNat) (ext.map fun b => (Char.ofNat b.toNat).toUpper)).map
        fun codes => codes.map fun n => if n < 0x110000 then codePiece n else .char '�'
  | _ => some (c.pieces bs)
where
  /-- Whether bytes hold the prefix `xn--` of an encoded label. -/
  containsPrefix (bs : List UInt8) : Bool :=
    (List.range bs.length).any fun i => (bs.drop i).take 4 = [0x78, 0x6E, 0x2D, 0x2D]

/-- Bytes read at once by a text codec with every bad run escaped as far as it can be:
its front bytes above ASCII each a bad piece of its own, the reading resuming after
them. UTF-16 and UTF-32 start again at that byte, in the byte order found at the start;
other codecs read the rest of the run again. None when a bad run starts with an ASCII
byte or the reading fails otherwise. -/
def Codec.readEscaping (c : Codec) (bs : List UInt8) : Option (List Piece) :=
  let orderOf := fun (width : Nat) (order : Option Bool) => match order, byteOrderMark? width bs with
    | some big, _ => (big, bs)
    | none, some (big, rest) => (big, rest)
    | none, none => (false, bs)
  match c with
  | .utf16 order =>
    let (big, body) := orderOf 2 order
    escapeFixed (utf16Pieces big) (fun n => if n ≥ 0x10000 then 4 else 2)
      (body.length + 1) body
  | .utf32 order =>
    let (big, body) := orderOf 4 order
    escapeFixed (utf32Pieces big) (fun _ => 4) (body.length + 1) body
  | .undefined | .idna | .punycode => c.readOnce bs
  | _ => escapeRuns c.pieces (2 * bs.length + 2) (c.pieces bs)

end Uptime.Encoding
