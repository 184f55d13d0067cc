import Uptime.Text.CombiningClass
import Uptime.Text.Decomposition
/-!
Normalization form C of Unicode 14.0. Text is decomposed canonically, the marks after
each starter are put in the order of their combining classes, and then each character
is joined to the last starter before it when the two have a primary composite and no
character between them blocks it: one of class zero, or of a class not below its own.
Hangul syllables decompose and compose by formula.
-/

namespace Uptime.Text

/-- The first Hangul syllable, and the first leading consonant, vowel and (one before
the first) trailing consonant of the conjoining jamo. -/
def syllableBase : Nat := 0xAC00
def leadBase : Nat := 0x1100
def vowelBase : Nat := 0x1161
def trailBase : Nat := 0x11A7

/-- How many leading consonants, vowels and trailing consonants (with none) there
are, and so how many syllables. -/
def leadCount : Nat := 19
def vowelCount : Nat := 21
def trailCount : Nat := 28
def syllableCount : Nat := leadCount * vowelCount * trailCount

def isSyllable (n : Nat) : Bool :=
  syllableBase ≤ n && n < syllableBase + syllableCount

/-- The full canonical decomposition of a code point: a Hangul syllable into its jamo,
another character through the table until nothing decomposes. No character needs more
than a few levels, which `fuel` bounds. -/
def decomposeFully : Nat → Nat → List Nat
  | 0, n => [n]
  | fuel + 1, n =>
    if isSyllable n then
      let s := n - syllableBase
      let l := leadBase + s / (vowelCount * trailCount)
      let v := vowelBase + s % (vowelCount * trailCount) / trailCount
      let t := s % trailCount
      if t = 0 then [l, v] else [l, v, trailBase + t]
    else match decompositionOf? n with
      | some ds => ds.flatMap (decomposeFully fuel)
      | none => [n]

/-- A mark put into a run of marks already in order of class, after every mark whose
class is not above its own, so that marks of one class keep their order. -/
def insertMark (m : Nat) : List Nat → List Nat
  | [] => [m]
  | x :: xs => if combiningClass m < combiningClass x then m :: x :: xs else x :: insertMark m xs

/-- Canonical ordering: each run of characters of nonzero class, gathered in `run`,
sorted stably by class. -/
def canonicalOrder : List Nat → List Nat → List Nat
  | run, [] => run
  | run, n :: rest =>
    if combiningClass n = 0 then run ++ n :: canonicalOrder [] rest
    else canonicalOrder (insertMark n run) rest

/-- The primary composite of two code points: a leading consonant and a vowel, or a
syllable without trailing consonant and a trailing consonant, by formula; other pairs
by the table. -/
def composite? (a b : Nat) : Option Nat :=
  if leadBase ≤ a ∧ a < leadBase + leadCount ∧ vowelBase ≤ b ∧ b < vowelBase + vowelCount then
    some (syllableBase + ((a - leadBase) * vowelCount + (b - vowelBase)) * trailCount)
  else if isSyllable a ∧ (a - syllableBase) % trailCount = 0 ∧ trailBase < b ∧
      b < trailBase + trailCount then
    some (a + (b - trailBase))
  else tabledComposite? a b

/-- Composition so far: the text before the last starter, that starter (none before
the first), the characters after it that stayed, and the class of the last of those. -/
structure Composer where
  before : List Nat
  starter : Option Nat
  after : List Nat
  lastClass : Nat

/-- The composer after one more character: joined to the starter when nothing blocks it
and the pair has a composite; else kept, becoming the starter when its class is zero. -/
def Composer.push (st : Composer) (n : Nat) : Composer :=
  let cc := combiningClass n
  let joined : Option Nat := match st.starter with
    | some s =>
      if st.after.isEmpty ∨ (st.lastClass ≠ 0 ∧ st.lastClass < cc) then composite? s n
      else none
    | none => none
  match joined with
  | some c => { st with starter := some c }
  | none =>
    if cc = 0 then ⟨st.before ++ st.starter.toList ++ st.after, some n, [], 0⟩
    else { st with after := st.after ++ [n], lastClass := cc }

def Composer.text (st : Composer) : List Nat :=
  st.before ++ st.starter.toList ++ st.after

def nfc (cs : List Nat) : List Nat :=
  let decomposed := canonicalOrder [] (cs.flatMap (decomposeFully 8))
  (decomposed.foldl Composer.push ⟨[], none, [], 0⟩).text

def isNfc (cs : List Nat) : Bool :=
  nfc cs == cs

end Uptime.Text
