/-!
Punycode, the encoding of a Unicode label in the ASCII letters, digits and hyphen of
host names: the label's ASCII characters come first, then, after a hyphen, each other
character as a variable-length number telling where and what to insert, with the bias
adapted after each insertion. A host label with other characters is written as `xn--`
followed by its Punycode. Decoding reads the numbers back and inserts each character;
it fails on a character that is not a digit, on a number cut short, and on a code point
beyond Unicode.
-/
namespace Uptime.Url.Punycode

def base : Nat := 36
def tMin : Nat := 1
def tMax : Nat := 26
def skew : Nat := 38
def damp : Nat := 700
def initialBias : Nat := 72
def initialN : Nat := 128

def digitChar (d : Nat) : Char :=
  if d < 26 then Char.ofNat (97 + d) else Char.ofNat (22 + d)

/-- Divide `delta` by `base - tMin` until it is small, counting the divisions in
steps of `base`. -/
def adaptLoop : Nat → Nat → Nat → Nat × Nat
  | 0, delta, k => (delta, k)
  | fuel + 1, delta, k =>
    if delta > (base - tMin) * tMax / 2 then adaptLoop fuel (delta / (base - tMin)) (k + base)
    else (delta, k)

def adapt (delta numPoints : Nat) (first : Bool) : Nat :=
  let d := if first then delta / damp else delta / 2
  let d := d + d / numPoints
  let (d, k) := adaptLoop 64 d 0
  k + (base - tMin + 1) * d / (d + skew)

def threshold (k bias : Nat) : Nat :=
  if k ≤ bias then tMin else if k ≥ bias + tMax then tMax else k - bias

def numberDigits : Nat → Nat → Nat → Nat → List Char
  | 0, q, _, _ => [digitChar q]
  | fuel + 1, q, k, bias =>
    let t := threshold k bias
    if q < t then [digitChar q]
    else digitChar (t + (q - t) % (base - t)) :: numberDigits fuel ((q - t) / (base - t)) (k + base) bias

/-- The state of the encoder: the next code point `n`, the running `delta`, the bias,
the number `h` of characters handled, and the output so far. -/
structure Enc where
  n : Nat
  delta : Nat
  bias : Nat
  h : Nat
  out : List Char

/-- Handle every character equal to `n`, in order, for one round. -/
def roundOver (input : List Nat) (b : Nat) (st : Enc) : Enc :=
  input.foldl (fun st c =>
    if c < st.n then { st with delta := st.delta + 1 }
    else if c = st.n then
      let ds := numberDigits 64 st.delta base st.bias
      { st with out := st.out ++ ds, bias := adapt st.delta (st.h + 1) (st.h == b),
                delta := 0, h := st.h + 1 }
    else st) st

/-- Rounds until every character is handled. -/
def rounds (input : List Nat) (b : Nat) : Nat → Enc → Enc
  | 0, st => st
  | fuel + 1, st =>
    if st.h ≥ input.length then st else
    match (input.filter (· ≥ st.n)).min? with
    | none => st
    | some m =>
      let st := { st with delta := st.delta + (m - st.n) * (st.h + 1), n := m }
      let st := roundOver input b st
      rounds input b fuel { st with delta := st.delta + 1, n := st.n + 1 }

def encode (label : String) : String :=
  let input := label.toList.map Char.toNat
  let basic := label.toList.filter (·.toNat < 128)
  let b := basic.length
  let start : Enc := ⟨initialN, 0, initialBias, b, basic ++ (if b > 0 then ['-'] else [])⟩
  String.ofList (rounds input b (input.length + 1) start).out

/-- The value of a digit of the encoding, read in upper case: `A` to `Z` are 0 to 25,
`0` to `9` are 26 to 35. -/
def digitValue? (c : Char) : Option Nat :=
  if 'A' ≤ c ∧ c ≤ 'Z' then some (c.toNat - 'A'.toNat)
  else if '0' ≤ c ∧ c ≤ '9' then some (c.toNat - 22)
  else none

/-- One variable-length number, its digits least significant first: the number and the
digits left after it, or none when a digit is bad or the digits run out first. `k` is
the position of the digit in steps of `base`, `w` its weight, `acc` the value so far. -/
def readNumber (bias : Nat) : List Char → Nat → Nat → Nat → Option (Nat × List Char)
  | [], _, _, _ => none
  | c :: rest, k, w, acc => do
    let d ← digitValue? c
    let t := threshold k bias
    if d < t then pure (acc + d * w, rest)
    else readNumber bias rest (k + base) (w * (base - t)) (acc + d * w)

theorem readNumber_shorter (bias : Nat) :
    ∀ (cs : List Char) (k w acc : Nat) (r : Nat × List Char),
      readNumber bias cs k w acc = some r → r.2.length < cs.length
  | [], _, _, _, _, h => by simp [readNumber] at h
  | c :: rest, k, w, acc, r, h => by
    simp only [readNumber] at h
    cases hd : digitValue? c with
    | none => simp [hd] at h
    | some d =>
      simp only [hd, Option.bind_eq_bind, Option.bind_some] at h
      split at h
      · cases h; simp
      · have := readNumber_shorter bias rest (k + base) _ _ r h
        simp only [List.length_cons]; omega

/-- Insert the characters the numbers of `ext` tell into `out`: `n` is the code point
reached, `i` the position after the last insertion, `first` whether no number was read
yet. A strict reading fails on a bad number or a code point beyond Unicode; a lenient
one stops at a bad number with what it has, and inserts `?` for a code point beyond
Unicode, going on from there. -/
def insertAll (lenient : Bool) (bias n i : Nat) (first : Bool) (out : List Nat)
    (ext : List Char) : Option (List Nat) :=
  if ext.isEmpty then some out else
  match h : readNumber bias ext base 1 0 with
  | none => if lenient then some out else none
  | some (delta, rest) =>
    let j := i + delta
    let n' := n + j / (out.length + 1)
    if n' > 0x10FFFF ∧ !lenient then none else
    let n' := if n' > 0x10FFFF then '?'.toNat else n'
    let pos := j % (out.length + 1)
    let out' := out.take pos ++ n' :: out.drop pos
    insertAll lenient (adapt delta out'.length first) n' (pos + 1) false out' rest
termination_by ext.length
decreasing_by exact readNumber_shorter bias ext base 1 0 _ h

/-- The basic part of a Punycode text, before its last hyphen, and the rest; all of it
is the rest when there is no hyphen. -/
def splitBasic {α : Type} (text : List α) (isHyphen : α → Bool) : List α × List α :=
  match text.reverse.span (!isHyphen ·) with
  | (revExt, []) => ([], revExt.reverse)
  | (revExt, _ :: revBasic) => (revBasic.reverse, revExt.reverse)

/-- The code points a Punycode text stands for: the characters before its last hyphen
as they are, then the insertions the rest tells, read in upper case. -/
def decode? (text : List Char) : Option (List Nat) :=
  let (basic, ext) := splitBasic text (· = '-')
  insertAll false initialBias initialN 0 true (basic.map Char.toNat) (ext.map Char.toUpper)

def asciiLabel (label : String) : String :=
  if label.toList.all (·.toNat < 128) then label else "xn--" ++ encode label

def asciiHost (host : String) : String :=
  ".".intercalate ((host.splitOn ".").map asciiLabel)

end Uptime.Url.Punycode
