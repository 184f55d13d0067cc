import Uptime.Encoding.NameTable
import Uptime.Codec.Base64
import Uptime.Codec.Inflate
/-!
Code points from the names of characters, as the escape `\N` of text written with
backslash escapes reads them. A name in the table (`characterNameData`) matches in any
case of its ASCII letters. The names that follow a
rule must be written in capitals: a unified ideograph is `CJK UNIFIED IDEOGRAPH-` and
its code point in four or five hexadecimal digits, and a Hangul syllable is
`HANGUL SYLLABLE ` and the romanized parts of its leading consonant, vowel and trailing
consonant, each the longest that fits. A name of a sequence of characters names no
character.
-/
namespace Uptime.Encoding

/-- The value of a hexadecimal digit written in capitals; zero for any other character. -/
def upperHexValue (c : Char) : Nat :=
  if '0' ≤ c ∧ c ≤ '9' then c.toNat - '0'.toNat
  else if 'A' ≤ c ∧ c ≤ 'F' then c.toNat - 'A'.toNat + 10
  else 0

def upperHexByteValue (b : UInt8) : Nat := upperHexValue (Char.ofNat b.toNat)

/-- Where a reading of a name table stands: the code point and the name of the entry
being read, whether an entry is being read, the code point after a `+` so far, and the
entries read. -/
structure NameReading where
  code : Nat := 0
  name : Array Char := #[]
  reading : Bool := false
  jump : Option Nat := none
  entries : Array (Nat × String) := #[]

/-- The reading with the entry being read, if any, added to the entries. -/
def NameReading.close (r : NameReading) : NameReading :=
  if r.reading then
    { r with entries := r.entries.push (r.code, String.ofList r.name.toList), reading := false }
  else r

/-- The reading after one more byte of the table: a `+` starts a code point, a mark
starts an entry that keeps as much of the name before it as the mark says, and any other
byte is a digit of the code point or a character of the name. -/
def NameReading.step (r : NameReading) (b : UInt8) : NameReading :=
  if b = 0x2B then { r.close with jump := some 0 }
  else if b ≥ 0x80 then
    let r := r.close
    { r with code := r.jump.getD (r.code + 1), name := r.name.extract 0 (b.toNat - 0x80),
             reading := true, jump := none }
  else
    match r.jump with
    | some n => { r with jump := some (n * 16 + upperHexByteValue b) }
    | none => { r with name := r.name.push (Char.ofNat b.toNat) }

def nameEntries (table : List UInt8) : Array (Nat × String) :=
  (table.foldl NameReading.step {}).close.entries

def namedCodes : Array (Nat × String) :=
  nameEntries ((Codec.inflateRaw (Codec.decodeBase64 characterNameData)).toOption.getD [])

def tableCode? (name : String) : Option Nat :=
  let key := name.toUpper
  (namedCodes.find? (·.2 == key)).map (·.1)

def leadingJamo : List String :=
  ["G", "GG", "N", "D", "DD", "R", "M", "B", "BB", "S", "SS", "", "J", "JJ", "C", "K", "T",
   "P", "H"]

def vowelJamo : List String :=
  ["A", "AE", "YA", "YAE", "EO", "E", "YEO", "YE", "O", "WA", "WAE", "OE", "YO", "U", "WEO",
   "WE", "WI", "YU", "EU", "YI", "I"]

/-- The romanized parts of the trailing consonants of the Hangul syllables, in order,
none first. -/
def trailingJamo : List String :=
  ["", "G", "GG", "GS", "N", "NJ", "NH", "D", "L", "LG", "LM", "LB", "LS", "LT", "LP", "LH",
   "M", "B", "BS", "S", "SS", "NG", "J", "C", "K", "T", "P", "H"]

/-- The longest of `parts` that starts `cs`, the first of that length: its place among
them and its length. -/
def longestPart (parts : List String) (cs : List Char) : Option (Nat × Nat) :=
  parts.zipIdx.foldl (fun best (p, i) =>
    if best.any (p.length ≤ ·.2) then best
    else if cs.take p.length = p.toList then some (i, p.length) else best) none

/-- The Hangul syllable of the romanized parts `cs`: the longest leading consonant, then
the longest vowel, then the longest trailing consonant, which must take all of `cs`. -/
def hangulCode? (cs : List Char) : Option Nat := do
  let (l, n1) ← longestPart leadingJamo cs
  let (v, n2) ← longestPart vowelJamo (cs.drop n1)
  let (t, n3) ← longestPart trailingJamo (cs.drop (n1 + n2))
  if n1 + n2 + n3 = cs.length then some (0xAC00 + (l * 21 + v) * 28 + t) else none

def isUnifiedIdeograph (n : Nat) : Bool :=
  (0x3400 ≤ n && n ≤ 0x4DBF) || (0x4E00 ≤ n && n ≤ 0x9FFF) ||
    (0x20000 ≤ n && n ≤ 0x2A6DF) || (0x2A700 ≤ n && n ≤ 0x2B738) ||
    (0x2B740 ≤ n && n ≤ 0x2B81D) || (0x2B820 ≤ n && n ≤ 0x2CEA1) ||
    (0x2CEB0 ≤ n && n ≤ 0x2EBE0) || (0x30000 ≤ n && n ≤ 0x3134A)

def ideographCode? (cs : List Char) : Option Nat :=
  let isDigit := fun (c : Char) => ('0' ≤ c && c ≤ '9') || ('A' ≤ c && c ≤ 'F')
  if (cs.length = 4 ∨ cs.length = 5) ∧ cs.all isDigit then
    let n := cs.foldl (fun n c => n * 16 + upperHexValue c) 0
    if isUnifiedIdeograph n then some n else none
  else none

def codeOfName? (name : List UInt8) : Option Nat :=
  let cs := name.map fun b => Char.ofNat b.toNat
  if cs.take 16 = "HANGUL SYLLABLE ".toList then hangulCode? (cs.drop 16)
  else if cs.take 22 = "CJK UNIFIED IDEOGRAPH-".toList then ideographCode? (cs.drop 22)
  else tableCode? (String.ofList cs)

end Uptime.Encoding
