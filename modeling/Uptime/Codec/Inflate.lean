/-!
Expanding DEFLATE data, bare or in a zlib or gzip frame. Blocks are stored, coded with
the fixed Huffman codes, or coded with codes sent in the block; every code is canonical
and must be complete, except that a code of one symbol of one bit may stand alone.
Data that ends early is not an error: what was decoded so far is the result. A frame
is checked as it is read: its header, then after the last block the checksum of the
output (Adler-32 for zlib, CRC-32 and the length for gzip). Bytes after the end are
ignored.
-/
namespace Uptime.Codec

/-- Why data cannot be expanded. -/
inductive InflateError where
  | headerCheck
  | unknownMethod
  | windowSize
  | unknownFlags
  | headerCrc
  | needDictionary
  | blockType
  | storedLengths
  | tooManySymbols
  | codeLengthsSet
  | bitLengthRepeat
  | missingEndOfBlock
  | literalLengthsSet
  | distancesSet
  | literalLengthCode
  | distanceCode
  | distanceTooFar
  | dataCheck
  | lengthCheck
deriving DecidableEq, Repr

/-- The words of an expansion error, as the compression library reports them with its
status code. -/
def InflateError.message : InflateError → String
  | .needDictionary => "Error 2 while decompressing data"
  | e => "Error -3 while decompressing data: " ++ reason e
where
  /-- The reason the library gives. -/
  reason : InflateError → String
    | .headerCheck => "incorrect header check"
    | .unknownMethod => "unknown compression method"
    | .windowSize => "invalid window size"
    | .unknownFlags => "unknown header flags set"
    | .headerCrc => "header crc mismatch"
    | .needDictionary => "need dictionary"
    | .blockType => "invalid block type"
    | .storedLengths => "invalid stored block lengths"
    | .tooManySymbols => "too many length or distance symbols"
    | .codeLengthsSet => "invalid code lengths set"
    | .bitLengthRepeat => "invalid bit length repeat"
    | .missingEndOfBlock => "invalid code -- missing end-of-block"
    | .literalLengthsSet => "invalid literal/lengths set"
    | .distancesSet => "invalid distances set"
    | .literalLengthCode => "invalid literal/length code"
    | .distanceCode => "invalid distance code"
    | .distanceTooFar => "invalid distance too far back"
    | .dataCheck => "incorrect data check"
    | .lengthCheck => "incorrect length check"

/-! ### Checksums -/

def crc32 (bytes : List UInt8) : UInt32 :=
  let step (c : UInt32) (_ : Nat) : UInt32 :=
    if c &&& 1 = 1 then (c >>> 1) ^^^ 0xEDB88320 else c >>> 1
  ~~~ (bytes.foldl (fun c b => (List.range 8).foldl step (c ^^^ b.toUInt32)) 0xFFFFFFFF)

def adler32 (bytes : List UInt8) : Nat :=
  let (a, b) := bytes.foldl (fun (a, b) x =>
    let a := (a + x.toNat) % 65521
    (a, (b + a) % 65521)) (1, 0)
  b * 65536 + a

namespace Inflate

/-! ### The machine -/

/-- The decoder's state: the input, the position in it counted in bits, and the output
so far. -/
structure Machine where
  input : ByteArray
  bit : Nat
  out : Array UInt8

/-- How decoding stops early: at the end of the input, or at an error. -/
inductive Stop where
  | ended
  | bad (e : InflateError)

/-- Decoding steps; the state survives a stop, so output decoded before the end of
the input is kept. -/
abbrev Step := ExceptT Stop (StateM Machine)

def fail (e : InflateError) : Step α := throw (.bad e)

/-- The next bit of the input, least significant first within each byte. -/
def bit : Step Nat := do
  let m ← get
  match m.input[m.bit / 8]? with
  | none => throw .ended
  | some b =>
    set { m with bit := m.bit + 1 }
    pure ((b.toNat >>> (m.bit % 8)) % 2)

def bits : Nat → Step Nat
  | 0 => pure 0
  | n + 1 => do
    let b ← bit
    let r ← bits n
    pure (b + 2 * r)

def alignByte : Step Unit :=
  modify fun m => { m with bit := (m.bit + 7) / 8 * 8 }

def byte : Step Nat := bits 8

def emit (b : UInt8) : Step Unit :=
  modify fun m => { m with out := m.out.push b }

/-! ### Huffman codes -/

/-- A canonical code: how many codes there are of each length from 1 to 15, the
symbols in code order, and the longest length used. -/
structure Code where
  counts : Array Nat
  symbols : Array Nat
  longest : Nat

def Code.slack (counts : Array Nat) : Option Nat :=
  (List.range 15).foldl (fun acc i => do
    let left ← acc
    let need := counts.getD (i + 1) 0
    if 2 * left < need then none else some (2 * left - need)) (some 1)

/-- The code of a list of lengths, in symbol order; a length of 0 leaves the symbol
out. -/
def Code.ofLengths (lens : List Nat) : Code :=
  let counts := lens.foldl (fun (c : Array Nat) l => c.modify l (· + 1)) (Array.replicate 16 0)
  let order := (List.range 16).drop 1 |>.flatMap fun l =>
    (lens.zipIdx.filter (·.1 = l)).map (·.2)
  let longest := ((List.range 16).filter fun l => l > 0 ∧ counts.getD l 0 > 0).getLast?.getD 0
  ⟨counts, order.toArray, longest⟩

/-- Whether lengths make a usable code: not over-subscribed, and complete, except that
a list with no code at all is usable and, unless `strict`, so is one code of one bit. -/
def Code.usable (lens : List Nat) (strict : Bool) : Bool :=
  let c := Code.ofLengths lens
  match Code.slack c.counts with
  | none => false
  | some left => left = 0 || c.longest = 0 || (!strict && c.longest = 1)

/-- Read one symbol, bit by bit, through the lengths `len` to the longest; none for a
bit pattern that is not a code. A code with no symbols reads one bit and finds none. -/
def Code.decodeFrom (c : Code) : Nat → Nat → Nat → Nat → Nat → Step (Option Nat)
  | 0, _, _, _, _ => pure none
  | fuel + 1, len, code, first, index => do
    let code := code + (← bit)
    let count := c.counts.getD len 0
    if code < first + count then pure (c.symbols[index + (code - first)]?)
    else if len ≥ c.longest then pure none
    else c.decodeFrom fuel (len + 1) (2 * code) (2 * (first + count)) (index + count)

def Code.decode (c : Code) : Step (Option Nat) :=
  c.decodeFrom 15 1 0 0 0

/-! ### Blocks -/

def lengthBase : Array Nat :=
  #[3, 4, 5, 6, 7, 8, 9, 10, 11, 13, 15, 17, 19, 23, 27, 31, 35, 43, 51, 59, 67, 83, 99, 115,
    131, 163, 195, 227, 258]

def lengthExtra : Array Nat :=
  #[0, 0, 0, 0, 0, 0, 0, 0, 1, 1, 1, 1, 2, 2, 2, 2, 3, 3, 3, 3, 4, 4, 4, 4, 5, 5, 5, 5, 0]

def distanceBase : Array Nat :=
  #[1, 2, 3, 4, 5, 7, 9, 13, 17, 25, 33, 49, 65, 97, 129, 193, 257, 385, 513, 769, 1025,
    1537, 2049, 3073, 4097, 6145, 8193, 12289, 16385, 24577]

def distanceExtra : Array Nat :=
  #[0, 0, 0, 0, 1, 1, 2, 2, 3, 3, 4, 4, 5, 5, 6, 6, 7, 7, 8, 8, 9, 9, 10, 10, 11, 11, 12, 12,
    13, 13]

/-- Copy `len` bytes starting `dist` bytes back, one at a time, so that a copy may
overlap what it writes. -/
def copyBack (dist : Nat) : Nat → Step Unit
  | 0 => pure ()
  | n + 1 => do
    let m ← get
    emit (m.out.getD (m.out.size - dist) 0)
    copyBack dist n

/-- Decode symbols until the end of the block. -/
def codes (lit dist : Code) : Nat → Step Unit
  | 0 => pure ()
  | fuel + 1 => do
    let some sym ← lit.decode | fail .literalLengthCode
    if sym < 256 then
      emit sym.toUInt8
      codes lit dist fuel
    else if sym = 256 then pure ()
    else if sym ≥ 286 then fail .literalLengthCode
    else
      let i := sym - 257
      let len := lengthBase.getD i 0 + (← bits (lengthExtra.getD i 0))
      let some d ← dist.decode | fail .distanceCode
      if d ≥ 30 then fail .distanceCode
      let back := distanceBase.getD d 0 + (← bits (distanceExtra.getD d 0))
      if back > (← get).out.size then fail .distanceTooFar
      copyBack back len
      codes lit dist fuel

/-- Copy the bytes of a stored block, as many as there are. -/
def stored : Step Unit := do
  alignByte
  let len ← bits 16
  let nlen ← bits 16
  if len != 65535 - nlen then fail .storedLengths
  let m ← get
  let start := m.bit / 8
  let avail := m.input.size - start
  let n := min len avail
  set { m with out := m.out ++ (m.input.extract start (start + n)).data, bit := m.bit + 8 * n }
  if n < len then throw .ended

def fixedLengths : List Nat :=
  List.replicate 144 8 ++ List.replicate 112 9 ++ List.replicate 24 7 ++ List.replicate 8 8

def lengthOrder : List Nat := [16, 17, 18, 0, 8, 7, 9, 6, 10, 5, 11, 4, 12, 3, 13, 2, 14, 1, 15]

/-- Read `total` code lengths with the code length code, each repeat bounded by the
total. -/
def readLengths (cl : Code) (total : Nat) : Nat → Array Nat → Step (Array Nat)
  | 0, acc => pure acc
  | fuel + 1, acc => do
    if acc.size ≥ total then return acc
    -- with no code length code at all, every bit reads as length 0
    let sym := (← cl.decode).getD 0
    if sym < 16 then readLengths cl total fuel (acc.push sym)
    else
      let (len, copy) ← if sym = 16 then do
          let copy := 3 + (← bits 2)
          match acc.back? with
          | none => fail .bitLengthRepeat
          | some l => pure (l, copy)
        else if sym = 17 then do pure (0, 3 + (← bits 3))
        else do pure (0, 11 + (← bits 7))
      if acc.size + copy > total then fail .bitLengthRepeat
      readLengths cl total fuel (acc ++ Array.replicate copy len)

/-- The two codes of a dynamic block. -/
def dynamicCodes : Step (Code × Code) := do
  let nlen := 257 + (← bits 5)
  let ndist := 1 + (← bits 5)
  let ncode := 4 + (← bits 4)
  if nlen > 286 || ndist > 30 then fail .tooManySymbols
  let mut clens := Array.replicate 19 0
  for i in lengthOrder.take ncode do
    clens := clens.set! i (← bits 3)
  if !Code.usable clens.toList true then fail .codeLengthsSet
  let total := nlen + ndist
  let lens ← readLengths (Code.ofLengths clens.toList) total (total + 1) #[]
  if lens.getD 256 0 = 0 then fail .missingEndOfBlock
  let litLens := (lens.extract 0 nlen).toList
  let distLens := (lens.extract nlen total).toList
  if !Code.usable litLens false then fail .literalLengthsSet
  if !Code.usable distLens false then fail .distancesSet
  pure (Code.ofLengths litLens, Code.ofLengths distLens)

/-- Decode blocks until the last one. -/
def blocks : Nat → Step Unit
  | 0 => pure ()
  | fuel + 1 => do
    let last ← bit
    let kind ← bits 2
    let symbolFuel := 8 * (← get).input.size + 1
    match kind with
    | 0 => stored
    | 1 => codes (Code.ofLengths fixedLengths) (Code.ofLengths (List.replicate 32 5)) symbolFuel
    | 2 =>
      let (lit, dist) ← dynamicCodes
      codes lit dist symbolFuel
    | _ => fail .blockType
    if last = 0 then blocks fuel

def deflated : Step Unit := do
  blocks (8 * (← get).input.size + 1)

/-! ### Frames -/

def littleEndian (n : Nat) : Step Nat := bits (8 * n)

def skipZeroEnded : Nat → Step Unit
  | 0 => pure ()
  | fuel + 1 => do
    if (← byte) != 0 then skipZeroEnded fuel

/-- A zlib frame: a two-byte header, the blocks, and the Adler-32 of the output. -/
def zlibFrame : Step Unit := do
  let cmf ← byte
  let flg ← byte
  if (cmf * 256 + flg) % 31 != 0 then fail .headerCheck
  if cmf % 16 != 8 then fail .unknownMethod
  if cmf / 16 + 8 > 15 then fail .windowSize
  if flg &&& 0x20 != 0 then
    let _ ← littleEndian 4
    fail .needDictionary
  deflated
  alignByte
  let b0 ← byte
  let b1 ← byte
  let b2 ← byte
  let b3 ← byte
  if ((b0 * 256 + b1) * 256 + b2) * 256 + b3 != adler32 (← get).out.toList then fail .dataCheck

/-- A gzip frame: magic, method and flags, optional extra field, name, comment and
header check, the blocks, then the CRC-32 and the length of the output. -/
def gzipFrame : Step Unit := do
  let magic ← littleEndian 2
  if magic != 0x8b1f then fail .headerCheck
  let method ← byte
  let flags ← byte
  if method != 8 then fail .unknownMethod
  if flags &&& 0xe0 != 0 then fail .unknownFlags
  let _ ← littleEndian 6
  let size := (← get).input.size
  if flags &&& 0x04 != 0 then
    let xlen ← littleEndian 2
    let _ ← bits (8 * xlen)
  if flags &&& 0x08 != 0 then skipZeroEnded (size + 1)
  if flags &&& 0x10 != 0 then skipZeroEnded (size + 1)
  if flags &&& 0x02 != 0 then
    let m ← get
    let header := (m.input.extract 0 (m.bit / 8)).data.toList
    let check ← littleEndian 2
    if check != (crc32 header).toNat % 65536 then fail .headerCrc
  deflated
  alignByte
  let crc ← littleEndian 4
  if crc != (crc32 (← get).out.toList).toNat then fail .dataCheck
  let len ← littleEndian 4
  if len != (← get).out.size % 4294967296 then fail .lengthCheck

/-- Run a decoder over bytes: the output when it finished or ran out of input, the
error otherwise. -/
def run (frame : Step Unit) (input : List UInt8) : Except InflateError (List UInt8) :=
  let (r, m) := (frame.run).run ⟨ByteArray.mk input.toArray, 0, #[]⟩
  match r with
  | .error (.bad e) => .error e
  | _ => .ok m.out.toList

end Inflate

def inflateRaw (input : List UInt8) : Except InflateError (List UInt8) :=
  Inflate.run Inflate.deflated input

def inflateZlib (input : List UInt8) : Except InflateError (List UInt8) :=
  Inflate.run Inflate.zlibFrame input

def inflateGzip (input : List UInt8) : Except InflateError (List UInt8) :=
  Inflate.run Inflate.gzipFrame input

end Uptime.Codec
