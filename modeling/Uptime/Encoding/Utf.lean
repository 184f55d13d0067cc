import Uptime.Encoding.Piece
/-!
The Unicode encoding forms as decoders into pieces. UTF-8 reports each maximal ill-formed
run, as the Unicode standard recommends. UTF-16 reports a low surrogate alone and a high
one not followed by a low one as two bytes, and a high surrogate or a single byte at the
end as the rest of the input; UTF-32 reports each unit beyond the last code point or in
the surrogates, and one to three bytes at the end. UTF-7 reads `+` sections of
modified base 64 holding UTF-16 units; a section that ends on a partial unit or on
padding bits that are not zero is bad from its `+` through the character that ends it.
A surrogate unit left alone is read as a surrogate alone.
-/

namespace Uptime.Encoding

/-! ### UTF-8 -/

def isCont (b : UInt8) : Bool := 0x80 ≤ b && b ≤ 0xBF

def secondRange (lead : UInt8) : UInt8 × UInt8 :=
  if lead = 0xE0 then (0xA0, 0xBF)
  else if lead = 0xED then (0x80, 0x9F)
  else if lead = 0xF0 then (0x90, 0xBF)
  else if lead = 0xF4 then (0x80, 0x8F)
  else (0x80, 0xBF)

/-- How many bytes follow a lead byte above ASCII; zero when it leads nothing. -/
def trailCount (b : UInt8) : Nat :=
  if 0xC2 ≤ b && b ≤ 0xDF then 1 else if 0xE0 ≤ b && b ≤ 0xEF then 2
  else if 0xF0 ≤ b && b ≤ 0xF4 then 3 else 0

/-- UTF-8 bytes as pieces. -/
def utf8Pieces : List UInt8 → List Piece
  | [] => []
  | b :: rest =>
    if b < 0x80 then .char (Char.ofNat b.toNat) :: utf8Pieces rest
    else
      let need := trailCount b
      if need = 0 then .bad [b] :: utf8Pieces rest
      else
        let (lo, hi) := secondRange b
        match rest with
        | b1 :: r1 =>
          if !(lo ≤ b1 && b1 ≤ hi) then .bad [b] :: utf8Pieces (b1 :: r1)
          else if need = 1 then
            .char (Char.ofNat ((b.toNat &&& 0x1F) * 64 + (b1.toNat &&& 0x3F))) :: utf8Pieces r1
          else
            match r1 with
            | b2 :: r2 =>
              if !isCont b2 then .bad [b, b1] :: utf8Pieces (b2 :: r2)
              else if need = 2 then
                .char (Char.ofNat (((b.toNat &&& 0x0F) * 64 + (b1.toNat &&& 0x3F)) * 64 +
                  (b2.toNat &&& 0x3F))) :: utf8Pieces r2
              else
                match r2 with
                | b3 :: r3 =>
                  if !isCont b3 then .bad [b, b1, b2] :: utf8Pieces (b3 :: r3)
                  else
                    .char (Char.ofNat ((((b.toNat &&& 0x07) * 64 + (b1.toNat &&& 0x3F)) * 64 +
                      (b2.toNat &&& 0x3F)) * 64 + (b3.toNat &&& 0x3F))) :: utf8Pieces r3
                | [] => [.bad [b, b1, b2]]
            | [] => [.bad [b, b1]]
        | [] => [.bad [b]]
termination_by bs => bs.length

/-! ### UTF-16 and UTF-32 -/

def unitOf (bigEndian : Bool) (bytes : List UInt8) : Nat :=
  let ordered := if bigEndian then bytes else bytes.reverse
  ordered.foldl (fun n b => n * 256 + b.toNat) 0

/-- UTF-16 bytes as pieces. -/
def utf16Pieces (bigEndian : Bool) : List UInt8 → List Piece
  | b0 :: b1 :: rest =>
    let u := unitOf bigEndian [b0, b1]
    if u < 0xD800 || u > 0xDFFF then .char (Char.ofNat u) :: utf16Pieces bigEndian rest
    else if u ≥ 0xDC00 then .bad [b0, b1] :: utf16Pieces bigEndian rest
    else
      match rest with
      | c0 :: c1 :: more =>
        let u2 := unitOf bigEndian [c0, c1]
        if 0xDC00 ≤ u2 && u2 ≤ 0xDFFF then
          .char (Char.ofNat (0x10000 + (u - 0xD800) * 0x400 + (u2 - 0xDC00))) ::
            utf16Pieces bigEndian more
        else .bad [b0, b1] :: utf16Pieces bigEndian (c0 :: c1 :: more)
      | tail => [.bad (b0 :: b1 :: tail)]
  | [b] => [.bad [b]]
  | [] => []
termination_by bs => bs.length
decreasing_by all_goals simp only [List.length_cons]; omega

/-- UTF-32 bytes as pieces. -/
def utf32Pieces (bigEndian : Bool) : List UInt8 → List Piece
  | b0 :: b1 :: b2 :: b3 :: rest =>
    let u := unitOf bigEndian [b0, b1, b2, b3]
    (if u > 0x10FFFF || (0xD800 ≤ u && u ≤ 0xDFFF) then .bad [b0, b1, b2, b3]
      else .char (Char.ofNat u)) :: utf32Pieces bigEndian rest
  | [] => []
  | tail => [.bad tail]

def byteOrderMark? (width : Nat) (bs : List UInt8) : Option (Bool × List UInt8) :=
  let le := if width = 2 then [0xFF, 0xFE] else [0xFF, 0xFE, 0, 0]
  let be := if width = 2 then [0xFE, 0xFF] else [0, 0, 0xFE, 0xFF]
  if bs.take width = le then some (false, bs.drop width)
  else if bs.take width = be then some (true, bs.drop width)
  else none

/-! ### UTF-7 -/

def isBase64Digit (b : UInt8) : Bool :=
  (0x41 ≤ b && b ≤ 0x5A) || (0x61 ≤ b && b ≤ 0x7A) || (0x30 ≤ b && b ≤ 0x39) ||
    b = 0x2B || b = 0x2F

def base64Value (b : UInt8) : Nat :=
  if 0x41 ≤ b && b ≤ 0x5A then b.toNat - 0x41
  else if 0x61 ≤ b && b ≤ 0x7A then b.toNat - 0x61 + 26
  else if 0x30 ≤ b && b ≤ 0x39 then b.toNat - 0x30 + 52
  else if b = 0x2B then 62 else 63

def isHighUnit (u : Nat) : Bool := 0xD800 ≤ u && u ≤ 0xDBFF

def isLowUnit (u : Nat) : Bool := 0xDC00 ≤ u && u ≤ 0xDFFF

/-- Where a UTF-7 decoder stands: inside a base-64 section or not, where the section's
`+` was, the bits not yet used and their count, and a high surrogate waiting for its
low one. -/
structure Utf7State where
  inShift : Bool
  start : Nat
  bits : Nat
  buffer : Nat
  surrogate : Option Nat

/-- The pieces of a base-64 section so far after one more digit, and the new state. -/
def Utf7State.takeDigit (st : Utf7State) (d : Nat) : Utf7State × List Piece :=
  let buffer := st.buffer * 64 + d
  let bits := st.bits + 6
  if bits < 16 then ({ st with buffer, bits }, [])
  else
    let unit := buffer / Nat.pow 2 (bits - 16)
    let bits := bits - 16
    let st := { st with buffer := buffer % Nat.pow 2 bits, bits }
    match st.surrogate with
    | some s =>
      if isLowUnit unit then
        ({ st with surrogate := none },
          [.char (Char.ofNat (0x10000 + (s - 0xD800) * 0x400 + (unit - 0xDC00)))])
      else if isHighUnit unit then ({ st with surrogate := some unit }, [.lone s])
      else ({ st with surrogate := none }, [.lone s, codePiece unit])
    | none =>
      if isHighUnit unit then ({ st with surrogate := some unit }, [])
      else (st, [codePiece unit])

/-- UTF-7 bytes from position `pos` on as pieces, after the pieces `out`. -/
def utf7From (bs : Array UInt8) (pos : Nat) (st : Utf7State) (out : Array Piece) :
    List Piece :=
  if h : pos < bs.size then
    let c := bs[pos]
    if st.inShift then
      if isBase64Digit c then
        let (st', ps) := st.takeDigit (base64Value c)
        utf7From bs (pos + 1) { st' with inShift := true } (out ++ ps.toArray)
      else if st.bits ≥ 6 || st.buffer ≠ 0 then
        utf7From bs (pos + 1) { st with inShift := false }
          (out.push (.bad (bs.extract st.start (pos + 1)).toList))
      else
        let out := match st.surrogate with
          | some s => if c < 0x80 && c ≠ 0x2B then out.push (.lone s) else out
          | none => out
        if c = 0x2D then utf7From bs (pos + 1) { st with inShift := false, surrogate := none } out
        else utf7From bs pos { st with inShift := false, surrogate := none } out
    else if c = 0x2B then
      match bs[pos + 1]? with
      | some 0x2D => utf7From bs (pos + 2) st (out.push (.char '+'))
      | some n =>
        if isBase64Digit n then utf7From bs (pos + 1) ⟨true, pos, 0, 0, none⟩ out
        else utf7From bs (pos + 2) st (out.push (.bad [c, n]))
      | none => utf7From bs (pos + 1) ⟨true, pos, 0, 0, none⟩ out
    else if c < 0x80 then utf7From bs (pos + 1) st (out.push (.char (Char.ofNat c.toNat)))
    else utf7From bs (pos + 1) st (out.push (.bad [c]))
  else
    if st.inShift && (st.surrogate.isSome || st.bits ≥ 6 || (st.bits > 0 && st.buffer ≠ 0))
    then (out.push (.bad (bs.extract st.start bs.size).toList)).toList
    else out.toList
termination_by 2 * (bs.size - pos) + st.inShift.toNat
decreasing_by
  all_goals
    have := Bool.toNat_le st.inShift
    simp_all [Bool.toNat]
    try omega

def utf7Pieces (bs : List UInt8) : List Piece :=
  utf7From bs.toArray 0 ⟨false, 0, 0, 0, none⟩ #[]

end Uptime.Encoding
