import Uptime.Encoding.Japanese
import Uptime.Encoding.Korean
import Uptime.Encoding.Chinese
import Uptime.Encoding.JisPlaneTwo
import Uptime.Encoding.SingleByte
/-!
The seven-bit charsets that switch between character sets as they go: those of ISO 2022
(ISO-2022-JP with its extensions, and ISO-2022-KR), which designate sets by escape
sequences, and HZ, which switches by tildes.

An ISO 2022 reading keeps three designated sets, G0 to G2, all ASCII at first. An escape
sequence is the escape byte, an intermediate byte `(`, `)`, `$`, `.` or `&`, and bytes up
to a final byte from `@` to `Z` within sixteen; it designates the set of its final byte,
two bytes wide after `$`, to G0 after `(` or `$`, to G1 after `)` and to G2 after `.`.
A set the codec does not know, or a sequence of another shape, is an error of the whole
sequence. An escape followed by anything else passes through as text, with every byte
up to the next final byte. Bytes from `0x21` on are read in G0, or in G1 after a shift
out (`SO`) until a shift in (`SI`) or a line end; `ESC N` reads one byte in G2. Control
bytes pass, bytes with the high bit set are errors, and a set two bytes wide reads two
bytes at once, an error of both when they are no character. A sequence cut off by the
end is one error holding the rest.

The double-byte sets read as their EUC forms read the same bytes with the high bits
set, apart from a few pairs.
-/

namespace Uptime.Encoding

/-- The graphic character sets the codecs designate. -/
inductive GraphicSet where
  | jisX0208
  | jisX0212
  | ksX1001
  | gb2312Set
  /-- the first plane of JIS X 0213, in its 2004 edition or its first -/
  | jisX0213One (edition2004 : Bool)
  | jisX0213Two
  /-- the Roman half of JIS X 0201 -/
  | jisRoman
  /-- the katakana half of JIS X 0201 -/
  | jisKana
  /-- a set of 96 characters, which in G0 reads nothing -/
  | latinOrGreek
  deriving DecidableEq, Repr

def GraphicSet.isDouble : GraphicSet → Bool
  | .jisRoman | .jisKana | .latinOrGreek => false
  | _ => true

def isGraphic (b : UInt8) : Bool := 0x21 ≤ b && b ≤ 0x7E

def Reading.chars? : Reading → Option (List Char)
  | .chars cs => some cs
  | _ => none

/-- The characters a double-byte set reads two bytes as. -/
def GraphicSet.readPair (g : GraphicSet) (c1 c2 : UInt8) : Option (List Char) :=
  if !(isGraphic c1 && isGraphic c2) then none else
  let h1 := c1 + 0x80
  let h2 := c2 + 0x80
  match g with
  | .jisX0208 => (eucJp.second h1 h2).chars?
  | .jisX0212 => (eucJp.third 0x8F h1 h2).chars?
  | .ksX1001 => if c1 = 0x24 ∧ c2 = 0x54 then some ['ㅤ'] else (eucKr.second h1 h2).chars?
  | .gb2312Set => (gb2312.second h1 h2).chars?
  | .jisX0213One e =>
    if c1 = 0x22 ∧ c2 = 0x32 then some ['~']
    else ((if e then eucJis2004 else eucJisx0213).second h1 h2).chars?
  | .jisX0213Two => (jisPlaneTwo.second c1 c2).chars?
  | _ => none

def GraphicSet.readOne (g : GraphicSet) (c : UInt8) : Option Char :=
  match g with
  | .jisRoman => some (if c = 0x5C then '¥' else if c = 0x7E then '‾' else Char.ofNat c.toNat)
  | .jisKana => if 0x21 ≤ c ∧ c ≤ 0x5F then some (Char.ofNat (0xFF61 + c.toNat - 0x21)) else none
  | _ => none

def asciiMark : Nat := 0x42

def doubleMark (final : Char) : Nat := final.toNat + 0x80

/-- A codec of ISO 2022. -/
structure Iso2022 where
  /-- whether `SO` and `SI` shift between G0 and G1; else they pass as control bytes -/
  shifting : Bool := false
  /-- whether `ESC N` reads one byte in G2 and `ESC .` designates to G2 -/
  singleShift : Bool := false
  /-- whether `ESC & @` may stand before the designation of JIS X 0208 -/
  prefixed : Bool := true
  /-- the sets the codec designates, by mark -/
  sets : List (Nat × GraphicSet)

def iso2022Jp : Iso2022 where
  sets := [(doubleMark 'B', .jisX0208), (0x4A, .jisRoman), (doubleMark '@', .jisX0208)]

def iso2022Jp1 : Iso2022 where
  sets := [(doubleMark 'B', .jisX0208), (doubleMark 'D', .jisX0212), (0x4A, .jisRoman),
    (doubleMark '@', .jisX0208)]

def iso2022Jp2 : Iso2022 where
  singleShift := true
  sets := [(doubleMark 'B', .jisX0208), (doubleMark 'D', .jisX0212),
    (doubleMark 'C', .ksX1001), (doubleMark 'A', .gb2312Set), (0x4A, .jisRoman),
    (doubleMark '@', .jisX0208), (0x41, .latinOrGreek), (0x46, .latinOrGreek)]

/-- ISO-2022-JP-2004: JIS X 0213 of 2004 and JIS X 0208. -/
def iso2022Jp2004 : Iso2022 where
  sets := [(doubleMark 'Q', .jisX0213One true), (doubleMark 'B', .jisX0208),
    (doubleMark 'P', .jisX0213Two)]

/-- ISO-2022-JP-3: the first edition of JIS X 0213 and JIS X 0208. -/
def iso2022Jp3 : Iso2022 where
  sets := [(doubleMark 'O', .jisX0213One false), (doubleMark 'B', .jisX0208),
    (doubleMark 'P', .jisX0213Two)]

/-- ISO-2022-JP-EXT: ISO-2022-JP-1 with the katakana of JIS X 0201. -/
def iso2022JpExt : Iso2022 where
  sets := [(doubleMark 'B', .jisX0208), (doubleMark 'D', .jisX0212), (0x4A, .jisRoman),
    (0x49, .jisKana), (doubleMark '@', .jisX0208)]

/-- ISO-2022-KR: KS X 1001, shifted in and out. -/
def iso2022Kr : Iso2022 where
  shifting := true
  prefixed := false
  sets := [(doubleMark 'C', .ksX1001)]

/-- The designations of an ISO 2022 reading and what it is doing. -/
structure ShiftState where
  g0 : Nat := asciiMark
  g1 : Nat := asciiMark
  g2 : Nat := asciiMark
  /-- shifted out to G1 -/
  shifted : Bool := false
  /-- passing an unknown escape sequence through -/
  passing : Bool := false
  deriving DecidableEq, Repr

def ShiftState.designate (st : ShiftState) (slot mark : Nat) : ShiftState :=
  match slot with
  | 0 => { st with g0 := mark }
  | 1 => { st with g1 := mark }
  | _ => { st with g2 := mark }

def isEscapeEnd (b : UInt8) : Bool := 0x40 ≤ b && b ≤ 0x5A

/-- Whether a byte after an escape starts a designation: `(`, `)`, `$`, `.` or the `&`
of a prefix. -/
def isIntermediate (b : UInt8) : Bool :=
  b = 0x28 || b = 0x29 || b = 0x24 || b = 0x2E || b = 0x26

/-- Where an escape sequence ends: cut off by the end, or after so many bytes, zero when
no final byte comes within sixteen. -/
inductive EscapeEnd where
  | cut
  | length (n : Nat)
  deriving DecidableEq, Repr

/-- The end of the escape sequence at the front of `bs`, looking from byte `i` on; a
prefix `& @` is passed over when `prefixed`. -/
def escapeEnd (prefixed : Bool) (bs : List UInt8) : Nat → Nat → EscapeEnd
  | 0, _ => .length 0
  | fuel + 1, i =>
    if i ≥ 16 then .length 0
    else match bs[i]? with
      | none => .cut
      | some b =>
        if isEscapeEnd b then .length (i + 1)
        else if prefixed && b = 0x26 && bs[i + 1]? = some 0x40 then
          escapeEnd prefixed bs fuel (i + 3)
        else escapeEnd prefixed bs fuel (i + 1)

/-- The mark and slot an escape sequence of `n` bytes designates, if it has the shape of
a designation. -/
def Iso2022.target (cfg : Iso2022) (bs : List UInt8) (n : Nat) : Option (Nat × Nat) :=
  let byteAt := fun (i : Nat) => (bs.getD i 0).toNat
  match n with
  | 3 =>
    if byteAt 1 = 0x24 then some (byteAt 2 + 0x80, 0)
    else if byteAt 1 = 0x28 then some (byteAt 2, 0)
    else if byteAt 1 = 0x29 then some (byteAt 2, 1)
    else if cfg.singleShift && byteAt 1 = 0x2E then some (byteAt 2, 2)
    else none
  | 4 =>
    if byteAt 1 ≠ 0x24 then none
    else if byteAt 2 = 0x28 then some (byteAt 3 + 0x80, 0)
    else if byteAt 2 = 0x29 then some (byteAt 3 + 0x80, 1)
    else none
  | 6 =>
    if cfg.prefixed && byteAt 3 = 0x1B && byteAt 4 = 0x24 && byteAt 5 = 0x42 then some (doubleMark 'B', 0)
    else none
  | _ => none

/-- One step of reading: the pieces read, the state after, and one less than the number
of bytes used. -/
abbrev Step (σ : Type) := List Piece × σ × Nat

/-- The escape sequence at the front of `bs`: a designation, or an error of its bytes. -/
def Iso2022.escape (cfg : Iso2022) (st : ShiftState) (bs : List UInt8) : Step ShiftState :=
  let refuse := fun (n : Nat) => ([Piece.bad (bs.take n)], st, n - 1)
  match escapeEnd cfg.prefixed bs 16 1 with
  | .cut => ([.bad bs], st, bs.length - 1)
  | .length 0 => refuse 1
  | .length n =>
    match cfg.target bs n with
    | none => refuse n
    | some (mark, slot) =>
      if mark ≠ asciiMark ∧ (cfg.sets.lookup mark).isNone then refuse n
      else ([], st.designate slot mark, n - 1)

/-- The character a byte after `ESC N` reads as in the set designated to G2: Latin-1
and Greek read the byte with its high bit set, ASCII reads it as it is. -/
def singleShifted (mark : Nat) (c : UInt8) : Option Char :=
  if mark = 0x41 then (if c < 0x80 then some (Char.ofNat (c.toNat + 0x80)) else none)
  else if mark = 0x46 then
    let b := (c ^^^ 0x80).toNat
    if b < 0xA0 then some (Char.ofNat b)
    else if b = 0xA4 ∨ b = 0xA5 ∨ b = 0xAA then none
    else match ((singleByteTables.lookup "iso8859_7").getD "").toList[b]? with
      | some ch => if ch = '￾' then none else some ch
      | none => none
  else if mark = asciiMark then (if c < 0x80 then some (Char.ofNat c.toNat) else none)
  else none

/-- One step of an ISO 2022 reading at the front of `bs`. -/
def Iso2022.step (cfg : Iso2022) (st : ShiftState) (bs : List UInt8) : Step ShiftState :=
  match bs with
  | [] => ([], st, 0)
  | c :: rest =>
    if st.passing then ([.char (Char.ofNat c.toNat)], { st with passing := !isEscapeEnd c }, 0)
    else if c = 0x1B then
      match rest with
      | [] => ([.bad bs], st, 0)
      | c2 :: rest2 =>
        if isIntermediate c2 then cfg.escape st bs
        else if cfg.singleShift && c2 = 0x4E then
          match rest2 with
          | [] => ([.bad bs], st, 1)
          | c3 :: _ =>
            match singleShifted st.g2 c3 with
            | some ch => ([.char ch], st, 2)
            | none => ([.bad [c, c2, c3]], st, 2)
        else ([.char '\x1b'], { st with passing := true }, 0)
    else if cfg.shifting && c = 0x0F then ([], { st with shifted := false }, 0)
    else if cfg.shifting && c = 0x0E then ([], { st with shifted := true }, 0)
    else if c = 0x0A then ([.char '\n'], { st with shifted := false }, 0)
    else if c < 0x20 then ([.char (Char.ofNat c.toNat)], st, 0)
    else if c ≥ 0x80 then ([.bad [c]], st, 0)
    else
      let mark := if st.shifted then st.g1 else st.g0
      match cfg.sets.lookup mark with
      | none => ([.char (Char.ofNat c.toNat)], st, 0)
      | some g =>
        if g.isDouble then
          match rest with
          | [] => ([.bad bs], st, 0)
          | c2 :: _ =>
            match g.readPair c c2 with
            | some cs => (cs.map .char, st, 1)
            | none => ([.bad [c, c2]], st, 1)
        else
          match g.readOne c with
          | some ch => ([.char ch], st, 0)
          | none => ([.bad [c]], st, 0)

/-- Bytes read by a codec of ISO 2022 from a state, as pieces. -/
def Iso2022.piecesFrom (cfg : Iso2022) (st : ShiftState) : List UInt8 → List Piece
  | [] => []
  | b :: rest =>
    match cfg.step st (b :: rest) with
    | (ps, st', k) => ps ++ cfg.piecesFrom st' ((b :: rest).drop (k + 1))
termination_by bs => bs.length
decreasing_by simp only [List.drop_succ_cons, List.length_drop, List.length_cons]; omega

def Iso2022.pieces (cfg : Iso2022) (bs : List UInt8) : List Piece :=
  cfg.piecesFrom {} bs

/-! ### HZ -/

/-- The characters HZ reads a pair of bytes as in GB mode: GB 2312 with the high bits
set. -/
def hzPair (c1 c2 : UInt8) : Option (List Char) :=
  if c2 ≥ 0x80 then none else (gb2312.second (c1 + 0x80) (c2 + 0x80)).chars?

/-- One step of HZ at the front of `bs`, in GB mode when `gb`. A tilde starts `~~` (a
tilde, in ASCII mode), `~{` (to GB mode), `~` and a line end (nothing), or `~}` (back to
ASCII mode); any other tilde is an error of itself. -/
def hzStep (gb : Bool) (bs : List UInt8) : Step Bool :=
  match bs with
  | [] => ([], gb, 0)
  | c :: rest =>
    if c = 0x7E then
      match rest with
      | [] => ([.bad bs], gb, 0)
      | c2 :: _ =>
        if c2 = 0x7E && !gb then ([.char '~'], gb, 1)
        else if c2 = 0x7B && !gb then ([], true, 1)
        else if c2 = 0x0A && !gb then ([], gb, 1)
        else if c2 = 0x7D && gb then ([], false, 1)
        else ([.bad [c]], gb, 0)
    else if c ≥ 0x80 then ([.bad [c]], gb, 0)
    else if !gb then ([.char (Char.ofNat c.toNat)], gb, 0)
    else
      match rest with
      | [] => ([.bad bs], gb, 0)
      | c2 :: _ =>
        match hzPair c c2 with
        | some cs => (cs.map .char, gb, 1)
        | none => ([.bad [c]], gb, 0)

/-- Bytes read as HZ from a mode, as pieces. -/
def hzPiecesFrom (gb : Bool) : List UInt8 → List Piece
  | [] => []
  | b :: rest =>
    match hzStep gb (b :: rest) with
    | (ps, gb', k) => ps ++ hzPiecesFrom gb' ((b :: rest).drop (k + 1))
termination_by bs => bs.length
decreasing_by simp only [List.drop_succ_cons, List.length_drop, List.length_cons]; omega

def hzPieces (bs : List UInt8) : List Piece := hzPiecesFrom false bs

/-- The reading of a codec that switches sets, by codec name. -/
def switchingPieces? (name : String) : Option (List UInt8 → List Piece) :=
  match name with
  | "iso2022_jp" => some iso2022Jp.pieces
  | "iso2022_jp_1" => some iso2022Jp1.pieces
  | "iso2022_jp_2" => some iso2022Jp2.pieces
  | "iso2022_jp_2004" => some iso2022Jp2004.pieces
  | "iso2022_jp_3" => some iso2022Jp3.pieces
  | "iso2022_jp_ext" => some iso2022JpExt.pieces
  | "iso2022_kr" => some iso2022Kr.pieces
  | "hz" => some hzPieces
  | _ => none

end Uptime.Encoding
