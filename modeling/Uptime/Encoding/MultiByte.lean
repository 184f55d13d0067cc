import Uptime.Encoding.Piece
/-!
Charsets of one or more bytes per character, read by table. A table gives the reading of
each byte alone: a character, an error of that byte, or the need of a second byte. A lead
byte that needs one has the readings of its trail bytes from some byte on, any other
trail being an error of the lead byte alone; a reading may be two characters, or need a
third byte, read by a table of its own. Readings are written as characters in strings,
with noncharacters standing for the needs and the errors and characters of plane 16 for
the two-character readings. An error of one byte goes on at the next byte; a sequence
cut off by the end is one error holding the rest.

Two readings are formulas rather than tables: the four-byte sequences of GB 18030, and
the eight-byte Hangul syllables that EUC-KR makes up from jamo (KS X 1001 annex 3).
-/

set_option maxRecDepth 4000

namespace Uptime.Encoding

/-- The table of a multi-byte charset. -/
structure MultiByteTable where
  /-- the reading of each of the 256 bytes alone -/
  singles : String
  /-- for lead bytes, the first trail byte with a reading of its own and the readings
  from there on -/
  leads : List (Nat × Nat × String)
  /-- readings of pairs that differ from those of `leads` -/
  overrides : List (Nat × Nat × String) := []
  /-- for pairs that need a third byte, the first third byte with a reading of its own
  and the readings from there on -/
  thirds : List (Nat × Nat × Nat × String) := []
  /-- the two-character readings, in the order plane 16 numbers them -/
  pairs : List String := []

/-- A row, from its first trail byte, with a segment's readings written over its own. The
row grows to take the segment in; a trail byte that neither covers is an error of the lead
byte alone. -/
def patchRow (row seg : Nat × String) : Nat × String :=
  let old := row.2.toList.toArray
  let new := seg.2.toList.toArray
  let start := min row.1 seg.1
  let stop := max (row.1 + old.size) (seg.1 + new.size)
  (start, String.ofList ((List.range (stop - start)).map fun j =>
    if seg.1 ≤ start + j ∧ start + j < seg.1 + new.size then new.getD (start + j - seg.1) '﷑'
    else if row.1 ≤ start + j then old.getD (start + j - row.1) '﷑'
    else '﷑'))

/-- The rows of a charset that extends another: the other's rows with segments written
over them in turn, a segment for a lead byte without a row being a row of its own. -/
def patchRows (rows segs : List (Nat × Nat × String)) : List (Nat × Nat × String) :=
  segs.foldl (fun rows seg =>
    if rows.any (·.1 = seg.1) then
      rows.map fun r => if r.1 = seg.1 then (r.1, patchRow r.2 seg.2) else r
    else rows ++ [seg]) rows

/-- What a sequence of bytes reads as. -/
inductive Reading where
  | chars (cs : List Char)
  | more
  | bad (n : Nat)
  deriving DecidableEq, Repr

def pairBase : Nat := 0x10FF00

def MultiByteTable.reading (t : MultiByteTable) (c : Char) : Reading :=
  if c = '﷐' then .more
  else if c = '﷑' then .bad 1
  else if c = '﷒' then .bad 2
  else if c.toNat ≥ pairBase then .chars ((t.pairs.getD (c.toNat - pairBase) "").toList)
  else .chars [c]

/-- The reading at `i` of a row whose first entry is for `lo`; an error of one byte
outside it. -/
def MultiByteTable.rowReading (t : MultiByteTable) (lo : Nat) (row : String) (i : Nat) :
    Reading :=
  if i < lo then .bad 1
  else match row.toList[i - lo]? with
    | some c => t.reading c
    | none => .bad 1

def MultiByteTable.single (t : MultiByteTable) (b : UInt8) : Reading :=
  match t.singles.toList[b.toNat]? with
  | some c => t.reading c
  | none => .bad 1

/-- The reading of a lead byte and a trail byte. -/
def MultiByteTable.second (t : MultiByteTable) (b0 b1 : UInt8) : Reading :=
  match t.overrides.find? (fun (a, b, _) => a = b0.toNat ∧ b = b1.toNat) with
  | some (_, _, s) => match s.toList with
    | c :: _ => t.reading c
    | [] => .bad 1
  | none =>
    match t.leads.find? (·.1 = b0.toNat) with
    | some (_, lo, row) => t.rowReading lo row b1.toNat
    | none => .bad 1

def MultiByteTable.third (t : MultiByteTable) (b0 b1 b2 : UInt8) : Reading :=
  match t.thirds.find? (fun (a, b, _, _) => a = b0.toNat ∧ b = b1.toNat) with
  | some (_, _, lo, row) => t.rowReading lo row b2.toNat
  | none => .bad 1

/-! ### GB 18030 four-byte sequences -/

/-- For the four-byte sequences of the Basic Multilingual Plane, numbered in order, the
first number of each run of consecutive code points and the code point it reads as. -/
def gbFourByteRuns : Array (Nat × Nat) := #[
    (0,0x80),(36,0xA5),(38,0xA9),(45,0xB2),(50,0xB8),(81,0xD8),
    (89,0xE2),(95,0xEB),(96,0xEE),(100,0xF4),(103,0xF8),(104,0xFB),
    (105,0xFD),(109,0x102),(126,0x114),(133,0x11C),(148,0x12C),(172,0x145),
    (175,0x149),(179,0x14E),(208,0x16C),(306,0x1CF),(307,0x1D1),(308,0x1D3),
    (309,0x1D5),(310,0x1D7),(311,0x1D9),(312,0x1DB),(313,0x1DD),(341,0x1FA),
    (428,0x252),(443,0x262),(544,0x2C8),(545,0x2CC),(558,0x2DA),(741,0x3A2),
    (742,0x3AA),(749,0x3C2),(750,0x3CA),(805,0x402),(819,0x450),(820,0x452),
    (7922,0x2011),(7924,0x2017),(7925,0x201A),(7927,0x201E),(7934,0x2027),(7943,0x2031),
    (7944,0x2034),(7945,0x2036),(7950,0x203C),(8062,0x20AD),(8148,0x2104),(8149,0x2106),
    (8152,0x210A),(8164,0x2117),(8174,0x2122),(8236,0x216C),(8240,0x217A),(8262,0x2194),
    (8264,0x219A),(8374,0x2209),(8380,0x2210),(8381,0x2212),(8384,0x2216),(8388,0x221B),
    (8390,0x2221),(8392,0x2224),(8393,0x2226),(8394,0x222C),(8396,0x222F),(8401,0x2238),
    (8406,0x223E),(8416,0x2249),(8419,0x224D),(8424,0x2253),(8437,0x2262),(8439,0x2268),
    (8445,0x2270),(8482,0x2296),(8485,0x229A),(8496,0x22A6),(8521,0x22C0),(8603,0x2313),
    (8936,0x246A),(8946,0x249C),(9046,0x254C),(9050,0x2574),(9063,0x2590),(9066,0x2596),
    (9076,0x25A2),(9092,0x25B4),(9100,0x25BE),(9108,0x25C8),(9111,0x25CC),(9113,0x25D0),
    (9131,0x25E6),(9162,0x2607),(9164,0x260A),(9218,0x2641),(9219,0x2643),(11329,0x2E82),
    (11331,0x2E85),(11334,0x2E89),(11336,0x2E8D),(11346,0x2E98),(11361,0x2EA8),(11363,0x2EAB),
    (11366,0x2EAF),(11370,0x2EB4),(11372,0x2EB8),(11375,0x2EBC),(11389,0x2ECB),(11682,0x2FFC),
    (11686,0x3004),(11687,0x3018),(11692,0x301F),(11694,0x302A),(11714,0x303F),(11716,0x3094),
    (11723,0x309F),(11725,0x30F7),(11730,0x30FF),(11736,0x312A),(11982,0x322A),(11989,0x3232),
    (12102,0x32A4),(12336,0x3390),(12348,0x339F),(12350,0x33A2),(12384,0x33C5),(12393,0x33CF),
    (12395,0x33D3),(12397,0x33D6),(12510,0x3448),(12553,0x3474),(12851,0x359F),(12962,0x360F),
    (12973,0x361B),(13738,0x3919),(13823,0x396F),(13919,0x39D1),(13933,0x39E0),(14080,0x3A74),
    (14298,0x3B4F),(14585,0x3C6F),(14698,0x3CE1),(15583,0x4057),(15847,0x4160),(16318,0x4338),
    (16434,0x43AD),(16438,0x43B2),(16481,0x43DE),(16729,0x44D7),(17102,0x464D),(17122,0x4662),
    (17315,0x4724),(17320,0x472A),(17402,0x477D),(17418,0x478E),(17859,0x4948),(17909,0x497B),
    (17911,0x497E),(17915,0x4984),(17916,0x4987),(17936,0x499C),(17939,0x49A0),(17961,0x49B8),
    (18664,0x4C78),(18703,0x4CA4),(18814,0x4D1A),(18962,0x4DAF),(19043,0x9FA6),(33469,0xE76C),
    (33470,0xE7C8),(33471,0xE7E7),(33484,0xE815),(33485,0xE819),(33490,0xE81F),(33497,0xE827),
    (33501,0xE82D),(33505,0xE833),(33513,0xE83C),(33520,0xE844),(33536,0xE856),(33550,0xE865),
    (37845,0xF92D),(37921,0xF97A),(37948,0xF996),(38029,0xF9E8),(38038,0xF9F2),(38064,0xFA10),
    (38065,0xFA12),(38066,0xFA15),(38069,0xFA19),(38075,0xFA22),(38076,0xFA25),(38078,0xFA2A),
    (39108,0xFE32),(39109,0xFE45),(39113,0xFE53),(39114,0xFE58),(39115,0xFE67),(39116,0xFE6C),
    (39265,0xFF5F),(39394,0xFFE6)]

def gbFourByteCode (n : Nat) : Nat :=
  match (gbFourByteRuns.toList.filter (·.1 ≤ n)).getLast? with
  | some (start, code) => code + (n - start)
  | none => n

/-- The reading of a four-byte sequence of GB 18030 whose second byte is a digit: the
bytes must alternate between `0x81..0xFE` and digits; the first 39420 sequences are the
Basic Multilingual Plane outside the two-byte part, and those from `0x90` on count from
U+10000. -/
def gbFourByte (b0 b1 b2 b3 : UInt8) : Reading :=
  if b0 < 0x81 || b0 > 0xFE || b2 < 0x81 || b2 > 0xFE || b3 < 0x30 || b3 > 0x39 then .bad 1
  else
    let c := b0.toNat - 0x81
    let tail := (b1.toNat - 0x30) * 1260 + (b2.toNat - 0x81) * 10 + (b3.toNat - 0x30)
    if c < 4 then
      let n := c * 12600 + tail
      if n < 39420 then .chars [Char.ofNat (gbFourByteCode n)] else .bad 1
    else if c ≥ 15 then
      let code := 0x10000 + (c - 15) * 12600 + tail
      if code ≤ 0x10FFFF then .chars [Char.ofNat code] else .bad 1
    else .bad 1

/-! ### EUC-KR syllables made up from jamo -/

/-- The leading consonant of each jamo byte from `0xA1`, by its place among the leading
consonants; none for a jamo that cannot lead. -/
def leadJamo : List (Option Nat) :=
  [some 0, some 1, none, some 2, none, none, some 3, some 4, some 5, none, none, none, none,
   none, none, none, some 6, some 7, some 8, none, some 9, some 10, some 11, some 12, some 13,
   some 14, some 15, some 16, some 17, some 18]

/-- The trailing consonant of each jamo byte from `0xA1`, by its place among the
trailing consonants; none for a jamo that cannot trail. -/
def trailJamo : List (Option Nat) :=
  [some 1, some 2, some 3, some 4, some 5, some 6, some 7, none, some 8, some 9, some 10,
   some 11, some 12, some 13, some 14, some 15, some 16, some 17, none, some 18, some 19,
   some 20, some 21, some 22, none, some 23, some 24, some 25, some 26, some 27]

/-- The syllable of the eight bytes `A4 D4 A4 l A4 v A4 t`: `l` a leading consonant, `v`
a vowel from `0xBF` to `0xD3`, and `t` a trailing consonant or the filler `0xD4`. -/
def jamoSyllable (bs : List UInt8) : Reading :=
  match bs with
  | [_, _, a1, l, a2, v, a3, t] =>
    if a1 ≠ 0xA4 ∨ a2 ≠ 0xA4 ∨ a3 ≠ 0xA4 then .bad 1 else
    let lead := if 0xA1 ≤ l ∧ l ≤ 0xBE then (leadJamo.getD (l.toNat - 0xA1) none) else none
    let vowel := if 0xBF ≤ v ∧ v ≤ 0xD3 then some (v.toNat - 0xBF) else none
    let trail := if t = 0xD4 then some 0
      else if 0xA1 ≤ t ∧ t ≤ 0xBE then trailJamo.getD (t.toNat - 0xA1) none else none
    match lead, vowel, trail with
    | some l, some v, some t => .chars [Char.ofNat (0xAC00 + l * 588 + v * 28 + t)]
    | _, _, _ => .bad 1
  | _ => .bad 1

/-! ### Reading -/

/-- How a charset reads sequences longer than its tables: GB 18030 by formula after a
digit, EUC-KR its made-up syllables, the others never. -/
inductive LongForm where
  | tablesOnly
  | gbDigits
  | jamo
  deriving DecidableEq, Repr

/-- How many bytes a long sequence takes, starting with the lead and trail bytes given,
or nothing when the table reads them. -/
def LongForm.length? (f : LongForm) (b0 b1 : UInt8) : Option Nat :=
  match f with
  | .gbDigits => if 0x30 ≤ b1 && b1 ≤ 0x39 then some 4 else none
  | .jamo => if b0 = 0xA4 && b1 = 0xD4 then some 8 else none
  | .tablesOnly => none

def LongForm.read (f : LongForm) (bs : List UInt8) : Reading :=
  match f, bs with
  | .gbDigits, [b0, b1, b2, b3] => gbFourByte b0 b1 b2 b3
  | .jamo, _ => jamoSyllable bs
  | _, _ => .bad 1

/-- The pieces of a reading that took `used` of the bytes `bs` (which hold at least
one), and the bytes left to read. -/
def consume (bs : List UInt8) (r : Reading) (used : Nat) : List Piece × List UInt8 :=
  match r with
  | .chars cs => (cs.map .char, bs.drop (max used 1))
  | .bad n => ([.bad (bs.take n)], bs.drop (max n 1))
  | .more => ([.bad bs], [])

/-- One step of reading at the front of `bs`: the pieces read and the bytes left. -/
def MultiByteTable.step (t : MultiByteTable) (f : LongForm) (bs : List UInt8) :
    List Piece × List UInt8 :=
  match bs with
  | [] => ([], [])
  | b0 :: rest =>
    match t.single b0 with
    | .more =>
      match rest with
      | [] => ([.bad bs], [])
      | b1 :: rest1 =>
        match f.length? b0 b1 with
        | some n =>
          if (bs.take n).length < n then ([.bad bs], []) else consume bs (f.read (bs.take n)) n
        | none =>
          match t.second b0 b1 with
          | .more =>
            match rest1 with
            | [] => ([.bad bs], [])
            | b2 :: _ => consume bs (t.third b0 b1 b2) 3
          | r => consume bs r 2
    | r => consume bs r 1

theorem MultiByteTable.step_shorter (t : MultiByteTable) (f : LongForm) (b : UInt8)
    (rest : List UInt8) : (t.step f (b :: rest)).2.length < (b :: rest).length := by
  unfold MultiByteTable.step consume
  repeat' split
  all_goals simp_all <;> omega

def MultiByteTable.pieces (t : MultiByteTable) (f : LongForm) : List UInt8 → List Piece
  | [] => []
  | b :: rest =>
    have : (t.step f (b :: rest)).2.length < rest.length + 1 := t.step_shorter f b rest
    (t.step f (b :: rest)).1 ++ t.pieces f (t.step f (b :: rest)).2
termination_by bs => bs.length

end Uptime.Encoding
