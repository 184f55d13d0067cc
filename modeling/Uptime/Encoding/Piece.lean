/-!
What a decoder reads from bytes: characters, surrogates standing alone, and runs of bytes
that form no character, each run as long as the error the decoder reports for it. A
surrogate alone is a code point of the text read but no character; some decoders let one
through, and text that must be characters holds the replacement character in its place.
How a run is written is the reader's choice: as one replacement character, as a failure
of the whole reading, or byte by byte as escapes, which only bytes above ASCII can be.
-/

namespace Uptime.Encoding

/-- A character read, a surrogate code unit read alone, or a run of bytes the decoder
finds no character in. -/
inductive Piece where
  | char (c : Char)
  | lone (unit : Nat)
  | bad (bytes : List UInt8)
  deriving DecidableEq, Repr

def isSurrogateCode (n : Nat) : Bool := 0xD800 ≤ n && n ≤ 0xDFFF

def codePiece (n : Nat) : Piece :=
  if isSurrogateCode n then .lone n else .char (Char.ofNat n)

/-- The character of a code point; a surrogate, which no character is, reads as the
replacement character. -/
def codeChar (n : Nat) : Char :=
  if isSurrogateCode n then '�' else Char.ofNat n

/-- Pieces as characters, each bad run and each surrogate alone one replacement
character. -/
def replaced (ps : List Piece) : List Char :=
  ps.map fun
    | .char c => c
    | .lone _ => '�'
    | .bad _ => '�'

/-- Pieces as code points, each bad run the replacement character and each surrogate
alone its own code. -/
def replacedCodes (ps : List Piece) : List Nat :=
  ps.map fun
    | .char c => c.toNat
    | .lone u => u
    | .bad _ => 0xFFFD

/-- Pieces as characters when there is no bad run, a surrogate alone as the replacement
character. -/
def strictly? (ps : List Piece) : Option (List Char) :=
  ps.mapM fun
    | .char c => some c
    | .lone _ => some '�'
    | .bad _ => none

/-- The bytes of a bad run that escaping writes: those above ASCII at its front, at most
four. Reading resumes after them. -/
def escapedFront (run : List UInt8) : List UInt8 :=
  (run.takeWhile (· ≥ 0x80)).take 4

def escapedPieces (bs : List UInt8) : List Piece :=
  bs.map fun b => .bad [b]

/-- Pieces with every bad run escaped: its front bytes above ASCII are kept, and the rest
of the run is read again by `read`, as reading resumes after the escaped bytes; none
when a bad run starts with an ASCII byte, which cannot be escaped. Reading the rest of
a run alone is reading on from there when the run ends the input or its rest is one
ASCII byte, which a charset of ASCII reads alone. The fuel bounds the steps. -/
def escapeRuns (read : List UInt8 → List Piece) : Nat → List Piece → Option (List Piece)
  | 0, _ => none
  | _ + 1, [] => some []
  | fuel + 1, .char c :: rest => (.char c :: ·) <$> escapeRuns read fuel rest
  | fuel + 1, .lone u :: rest => (.lone u :: ·) <$> escapeRuns read fuel rest
  | fuel + 1, .bad run :: rest =>
    let front := escapedFront run
    if front.isEmpty then none
    else
      let again := if front.length = run.length then [] else read (run.drop front.length)
      (escapedPieces front ++ ·) <$> escapeRuns read fuel (again ++ rest)

/-- Whether a piece is read as text: a character or a surrogate alone, no bad run. -/
def Piece.isText : Piece → Bool
  | .char _ | .lone _ => true
  | .bad _ => false

/-- Bytes read by a decoder whose code points take a width fixed by the code point, every
bad run escaped: the front of the run is kept and the reading starts again right after
it. The fuel bounds the runs. -/
def escapeFixed (read : List UInt8 → List Piece) (width : Nat → Nat) :
    Nat → List UInt8 → Option (List Piece)
  | 0, _ => none
  | fuel + 1, bs =>
    let ps := read bs
    let before := ps.takeWhile Piece.isText
    match ps.drop before.length with
    | .bad run :: _ =>
      let front := escapedFront run
      if front.isEmpty then none
      else
        let offset := (before.map fun p => match p with
          | .char c => width c.toNat
          | .lone u => width u
          | .bad _ => 0).sum
        (before ++ escapedPieces front ++ ·) <$>
          escapeFixed read width fuel (bs.drop (offset + front.length))
    | _ => some ps

def chars (cs : List Char) : List Piece := cs.map .char

end Uptime.Encoding
