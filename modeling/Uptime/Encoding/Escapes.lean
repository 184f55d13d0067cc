import Uptime.Encoding.Piece
import Uptime.Encoding.CharacterName
/-!
The codecs that read text written with backslash escapes. Bytes stand for the Latin-1
characters of their values, except after a backslash. The raw form reads only `\u` with
four hexadecimal digits and `\U` with eight, keeping any other backslash as it is. The
full form also reads `\x` with two digits, up to three octal digits, the escapes of single
characters (`\n`, `\t`, `\\` and the like), a backslash before a line end as nothing,
and `\N` with a character name in braces (`codeOfName?`); another backslash is kept
with the character after it.

An escape cut short by a byte that is no digit is bad up to that byte, which is read
again; one cut off by the end is bad to the end, and so is a lone backslash at the end
in the full form. A code beyond the last code point is bad through its digits, as is a
name that names no character. A code of a surrogate is read as that surrogate alone.
-/

namespace Uptime.Encoding

def isHexDigitByte (b : UInt8) : Bool :=
  (0x30 ≤ b && b ≤ 0x39) || (0x41 ≤ b && b ≤ 0x46) || (0x61 ≤ b && b ≤ 0x66)

def hexBytesValue (ds : List UInt8) : Nat :=
  ds.foldl (fun n b =>
    n * 16 + (if b ≤ 0x39 then b.toNat - 0x30 else if b ≤ 0x46 then b.toNat - 0x37 else b.toNat - 0x57)) 0

def isOctalByte (b : UInt8) : Bool := 0x30 ≤ b && b ≤ 0x37

def latin1Char (b : UInt8) : Char := Char.ofNat b.toNat

/-- The character a single-character escape stands for. -/
def simpleEscapeChar? (b : UInt8) : Option Char :=
  match b with
  | 0x5C => some '\\'
  | 0x27 => some (Char.ofNat 0x27)
  | 0x22 => some '"'
  | 0x62 => some '\x08'
  | 0x66 => some '\x0c'
  | 0x74 => some '\t'
  | 0x6E => some '\n'
  | 0x72 => some '\r'
  | 0x76 => some '\x0b'
  | 0x61 => some '\x07'
  | _ => none

/-- A hexadecimal escape `\e` of `count` digits at the front of `more`: its pieces and
the bytes it used after `\e`. -/
def hexEscape (e : UInt8) (count : Nat) (more : List UInt8) : List Piece × Nat :=
  let ds := (more.takeWhile isHexDigitByte).take count
  if ds.length < count then ([.bad (0x5C :: e :: ds)], ds.length)
  else
    let v := hexBytesValue ds
    if v > 0x10FFFF then ([.bad (0x5C :: e :: ds)], count) else ([codePiece v], count)

/-- An escape `\N` at the front of `more`: a name in braces stands for the character it
names, and one that names none is bad through its closing brace; a brace without a name
is bad up to the closing brace; no brace is bad up to the byte after `N`; an unclosed
brace is bad to the end. -/
def nameEscape (more : List UInt8) : List Piece × Nat :=
  match more with
  | 0x7B :: inner =>
    let name := inner.takeWhile (· ≠ 0x7D)
    if name.length = inner.length then ([.bad (0x5C :: 0x4E :: more)], more.length)
    else if name.isEmpty then ([.bad [0x5C, 0x4E, 0x7B]], 1)
    else
      let named := match codeOfName? name with
        | some n => codePiece n
        | none => .bad (0x5C :: 0x4E :: 0x7B :: name ++ [0x7D])
      ([named], name.length + 2)
  | _ => ([.bad [0x5C, 0x4E]], 0)

/-- The escape after a backslash, whose letter is `e` and after which `more` follows:
its pieces and the bytes it used after `e`. -/
def escapeAfter (raw : Bool) (e : UInt8) (more : List UInt8) : List Piece × Nat :=
  if e = 0x75 then hexEscape e 4 more
  else if e = 0x55 then hexEscape e 8 more
  else if raw then ([.char '\\', .char (latin1Char e)], 0)
  else if e = 0x78 then hexEscape e 2 more
  else if e = 0x0A then ([], 0)
  else if e = 0x4E then nameEscape more
  else if isOctalByte e then
    let ds := (more.takeWhile isOctalByte).take 2
    ([.char (Char.ofNat ((e :: ds).foldl (fun n d => n * 8 + (d.toNat - 0x30)) 0))], ds.length)
  else match simpleEscapeChar? e with
    | some c => ([.char c], 0)
    | none => ([.char '\\', .char (latin1Char e)], 0)

theorem hexEscape_used_le (e : UInt8) (count : Nat) (more : List UInt8) :
    (hexEscape e count more).2 ≤ more.length := by
  have hp := (List.takeWhile_prefix isHexDigitByte (l := more)).length_le
  have h : ((more.takeWhile isHexDigitByte).take count).length ≤ more.length := by
    simp only [List.length_take]; omega
  have hc : ((more.takeWhile isHexDigitByte).take count).length ≤ count := List.length_take_le _ _
  unfold hexEscape
  dsimp only
  split
  · exact h
  · split <;> omega

theorem nameEscape_used_le (more : List UInt8) : (nameEscape more).2 ≤ more.length := by
  unfold nameEscape
  split
  · rename_i inner
    have h := (List.takeWhile_prefix (fun b => b ≠ (0x7D : UInt8)) (l := inner)).length_le
    dsimp only
    split
    · simp
    · split
      · simp
      · rename_i hne _
        simp only [List.length_cons]
        omega
  · simp

theorem escapeAfter_used_le (raw : Bool) (e : UInt8) (more : List UInt8) :
    (escapeAfter raw e more).2 ≤ more.length := by
  have hoctal : ((more.takeWhile isOctalByte).take 2).length ≤ more.length :=
    Nat.le_trans (List.length_take_le' _ _) (List.takeWhile_prefix isOctalByte).length_le
  unfold escapeAfter
  split
  · exact hexEscape_used_le _ _ _
  split
  · exact hexEscape_used_le _ _ _
  split
  · exact Nat.zero_le _
  split
  · exact hexEscape_used_le _ _ _
  split
  · exact Nat.zero_le _
  split
  · exact nameEscape_used_le _
  split
  · exact hoctal
  split <;> exact Nat.zero_le _

/-- Bytes read with backslash escapes, in the raw form when `raw`, as pieces. -/
def escapePieces (raw : Bool) : List UInt8 → List Piece
  | [] => []
  | c :: rest =>
    if c ≠ 0x5C then .char (latin1Char c) :: escapePieces raw rest
    else match rest with
      | [] => if raw then [.char '\\'] else [.bad [c]]
      | e :: more =>
        have := escapeAfter_used_le raw e more
        (escapeAfter raw e more).1 ++ escapePieces raw (more.drop (escapeAfter raw e more).2)
termination_by bs => bs.length
decreasing_by
  all_goals simp only [List.length_cons, List.length_drop]
  all_goals omega

end Uptime.Encoding
