import Uptime.Idna.Classes
import Uptime.Idna.Bidi
import Uptime.Text.Nfc
import Uptime.Text.Quoted
import Uptime.Url.Punycode
/-!
Internationalized domain names (IDNA 2008). A label is valid when it is not empty and
not too long, is in normalization form C, has no hyphen at either end nor in both the
third and fourth places, does not start with a combining mark, holds only
protocol-valid code points and context code points whose rules hold where they stand,
and keeps the bidirectional rule. A label of ASCII that starts with `xn--` is an
A-label: its Punycode must decode to a valid label. A name is encoded label by label,
every label beyond ASCII becoming an A-label; it is decoded by checking every label.
Labels are separated by the full stop and its ideographic, fullwidth and halfwidth
forms.
-/

namespace Uptime.Idna

open Uptime.Text

/-- The kinds of error a name is refused with: the general one, and those for a code
point that is never allowed, one not allowed where it stands, and a label that breaks
the bidirectional rule. -/
inductive ErrorKind where
  | general
  | codepoint
  | context
  | bidi
  deriving DecidableEq, Repr

def ErrorKind.name : ErrorKind → String
  | .general => "IDNAError"
  | .codepoint => "InvalidCodepoint"
  | .context => "InvalidCodepointContext"
  | .bidi => "IDNABidiError"

/-- Why a name or a label is refused. Positions count from one; labels are kept as the
code points they hold. -/
inductive IdnaError where
  | labelTooLong
  | domainTooLong
  | emptyDomain
  | emptyLabel
  | notNormalized
  | hyphensThirdFourth
  | hyphenAtEdge
  | leadingMark
  | unknownNearJoiner (cp pos : Nat) (label : List Nat)
  | contextNotAllowed (cp pos : Nat) (label : List Nat)
  | notAllowed (cp pos : Nat) (label : List Nat)
  | unknownDirection (label : List Nat) (pos : Nat)
  | badFirstDirection (label : List Nat)
  | badRightToLeft (pos : Nat)
  | badLeftToRight (pos : Nat)
  | mixedDigits
  | badEnding
  | noPunycode
  | aLabelHyphen
  | badALabel
  deriving DecidableEq, Repr

def IdnaError.kind : IdnaError → ErrorKind
  | .contextNotAllowed .. => .context
  | .notAllowed .. => .codepoint
  | .unknownDirection .. | .badFirstDirection _ | .badRightToLeft _ | .badLeftToRight _
  | .mixedDigits | .badEnding => .bidi
  | _ => .general

def codeName (n : Nat) : String :=
  "U+" ++ String.ofList ((hexPadded 4 n).toList.map Char.toUpper)

/-- The words of an error. -/
def IdnaError.message : IdnaError → String
  | .labelTooLong => "Label too long"
  | .domainTooLong => "Domain too long"
  | .emptyDomain => "Empty domain"
  | .emptyLabel => "Empty Label"
  | .notNormalized => "Label must be in Normalization Form C"
  | .hyphensThirdFourth => "Label has disallowed hyphens in 3rd and 4th position"
  | .hyphenAtEdge => "Label must not start or end with a hyphen"
  | .leadingMark => "Label begins with an illegal combining character"
  | .unknownNearJoiner cp pos l =>
    "Unknown codepoint adjacent to joiner " ++ codeName cp ++ " at position " ++
      toString pos ++ " in " ++ quotedCodes l
  | .contextNotAllowed cp pos l =>
    "Codepoint " ++ codeName cp ++ " not allowed at position " ++ toString pos ++ " in " ++
      quotedCodes l
  | .notAllowed cp pos l =>
    "Codepoint " ++ codeName cp ++ " at position " ++ toString pos ++ " of " ++
      quotedCodes l ++ " not allowed"
  | .unknownDirection l pos =>
    "Unknown directionality in label " ++ quotedCodes l ++ " at position " ++ toString pos
  | .badFirstDirection l =>
    "First codepoint in label " ++ quotedCodes l ++ " must be directionality L, R or AL"
  | .badRightToLeft pos =>
    "Invalid direction for codepoint at position " ++ toString pos ++
      " in a right-to-left label"
  | .badLeftToRight pos =>
    "Invalid direction for codepoint at position " ++ toString pos ++
      " in a left-to-right label"
  | .mixedDigits => "Can not mix numeral types in a right-to-left label"
  | .badEnding => "Label ends with illegal codepoint directionality"
  | .noPunycode => "Malformed A-label, no Punycode eligible content found"
  | .aLabelHyphen => "A-label must not end with a hyphen"
  | .badALabel => "Invalid A-label"

def maxInput : Nat := 1024

def maxName : Nat := 254

def maxLabel : Nat := 63

def hyphen : Nat := 0x2D

def viramaClass : Nat := 9

/-! ### Context rules -/

/-- Whether the first code point of `cs` that is not transparent has one of the joining
types `ok`. -/
def joinsAfterTransparent (ok : List JoiningType) (cs : List Nat) : Bool :=
  match cs.dropWhile (joiningType? · = some .t) with
  | n :: _ => (joiningType? n).any (ok.contains ·)
  | [] => false

/-- Whether the joiner at `pos` of `label` stands where its rule allows: after a virama,
or, for the zero-width non-joiner, between a character joining to the right and one
joining to the left, looking past transparent characters. None when the character
before it has class zero and no name, which the rule cannot judge. -/
def joinerAllowed? (label : List Nat) (pos : Nat) : Option Bool :=
  let cp := label.getD pos 0
  let prevClass : Option Nat :=
    if pos = 0 then some 0
    else
      let prev := label.getD (pos - 1) 0
      let cc := combiningClass prev
      if cc = 0 ∧ inRuns namelessRuns prev then none else some cc
  match prevClass with
  | none => none
  | some cc =>
    if cp = 0x200C then
      if pos > 0 ∧ cc = viramaClass then some true
      else some (joinsAfterTransparent [.l, .d] (label.take pos).reverse &&
        joinsAfterTransparent [.r, .d] (label.drop (pos + 1)))
    else if cp = 0x200D then some (pos > 0 ∧ cc = viramaClass)
    else some false

def isKana (n : Nat) : Bool :=
  inRuns hiraganaRuns n || inRuns katakanaRuns n || inRuns hanRuns n

/-- Whether the context code point at `pos` of `label` stands where its rule allows:
the middle dot between two `l`, the Greek numeral sign before a Greek letter, Hebrew
punctuation after a Hebrew letter, the katakana middle dot in a label with kana or
Han, and the Arabic-Indic digits of one kind in a label without the other kind. -/
def contextAllowed (label : List Nat) (pos : Nat) : Bool :=
  let cp := label.getD pos 0
  let next := label[pos + 1]?
  let prev := if pos = 0 then none else label[pos - 1]?
  if cp = 0xB7 then prev = some 0x6C ∧ next = some 0x6C
  else if cp = 0x375 then next.any (inRuns greekRuns ·)
  else if cp = 0x5F3 ∨ cp = 0x5F4 then prev.any (inRuns hebrewRuns ·)
  else if cp = 0x30FB then label.any fun n => n ≠ 0x30FB && isKana n
  else if 0x660 ≤ cp ∧ cp ≤ 0x669 then !label.any fun n => 0x6F0 ≤ n && n ≤ 0x6F9
  else if 0x6F0 ≤ cp ∧ cp ≤ 0x6F9 then !label.any fun n => 0x660 ≤ n && n ≤ 0x669
  else false

/-- Check the code points of `label` from position `pos` on, in order. A joiner out of
place is reported as one next to a character the rule cannot judge: the refusal of its
context is itself an error of the kind that report catches. -/
def checkCodepoints (label : List Nat) : Nat → List Nat → Except IdnaError Unit
  | _, [] => .ok ()
  | pos, cp :: rest => do
    if inRuns pvalidRuns cp then pure ()
    else if inRuns contextJoinerRuns cp then
      if joinerAllowed? label pos ≠ some true then
        throw (.unknownNearJoiner cp (pos + 1) label)
    else if inRuns contextOtherRuns cp then
      if !contextAllowed label pos then throw (.contextNotAllowed cp (pos + 1) label)
    else throw (.notAllowed cp (pos + 1) label)
    checkCodepoints label (pos + 1) rest

/-! ### The bidirectional rule -/

def isRightToLeft (c : BidiClass) : Bool := c = .r || c = .al || c = .an

/-- Where the rule stands after some characters: whether the label may end there, and
the kind of digit met so far in a right-to-left label. -/
structure BidiScan where
  validEnding : Bool
  digits : Option BidiClass

/-- Scan the classes of a label from position `pos` on, its direction given. -/
def scanBidi (rtl : Bool) : Nat → List BidiClass → BidiScan → Except IdnaError BidiScan
  | _, [], st => .ok st
  | pos, c :: rest, st => do
    let st ← if rtl then do
        if !([BidiClass.r, .al, .an, .en, .es, .cs, .et, .on, .bn, .nsm].contains c) then
          throw (.badRightToLeft pos)
        let ending := if [BidiClass.r, .al, .en, .an].contains c then true
          else if c = .nsm then st.validEnding else false
        if c = .an ∨ c = .en then
          match st.digits with
          | none => pure ⟨ending, some c⟩
          | some d => if d ≠ c then throw .mixedDigits else pure ⟨ending, st.digits⟩
        else pure ⟨ending, st.digits⟩
      else do
        if !([BidiClass.l, .en, .es, .cs, .et, .on, .bn, .nsm].contains c) then
          throw (.badLeftToRight pos)
        let ending := if c = .l ∨ c = .en then true
          else if c = .nsm then st.validEnding else false
        pure ⟨ending, st.digits⟩
    scanBidi rtl (pos + 1) rest st

/-- The bidirectional rule: a label with right-to-left characters starts with a strong
character, holds only the classes its direction allows, ends with a strong character
or a digit (marks aside), and uses one kind of digit when it runs right to left. -/
def checkBidi (label : List Nat) : Except IdnaError Unit := do
  let classes := label.map bidiClass
  match classes.findIdx? (· = .unknown) with
  | some i => throw (.unknownDirection label (i + 1))
  | none => pure ()
  if !classes.any isRightToLeft then return ()
  let rtl ← match classes.head? with
    | some .r | some .al => pure true
    | some .l => pure false
    | _ => throw (.badFirstDirection label)
  let st ← scanBidi rtl 1 classes ⟨false, none⟩
  if !st.validEnding then throw .badEnding

/-! ### Labels -/

/-- Check a label given as code points. -/
def checkLabel (label : List Nat) : Except IdnaError Unit := do
  if label.length > maxInput then throw .labelTooLong
  if label.isEmpty then throw .emptyLabel
  if label.length > maxName then throw .labelTooLong
  if !isNfc label then throw .notNormalized
  if (label.drop 2).take 2 = [hyphen, hyphen] then throw .hyphensThirdFourth
  if label.head? = some hyphen ∨ label.getLast? = some hyphen then throw .hyphenAtEdge
  if label.head?.any (inRuns markRuns ·) then throw .leadingMark
  checkCodepoints label 0 label
  checkBidi label

def isAscii (cs : List Char) : Bool := cs.all (·.toNat < 128)

def aLabelPrefix : List Char := "xn--".toList

/-- A label read as a U-label: one beyond ASCII is checked as it is; one of ASCII is put
in lower case and, when it is an A-label, decoded and its result checked, else
checked itself. The code points of the U-label. -/
def uLabel (label : String) : Except IdnaError (List Nat) := do
  let cs := label.toList
  if cs.length > maxInput then throw .labelTooLong
  if !isAscii cs then
    let codes := cs.map Char.toNat
    checkLabel codes
    return codes
  let low := cs.map Char.toLower
  if low.take 4 = aLabelPrefix then
    let rest := low.drop 4
    if rest.isEmpty then throw .noPunycode
    if rest.getLast? = some '-' then throw .aLabelHyphen
    match Url.Punycode.decode? rest with
    | none => throw .badALabel
    | some codes =>
      checkLabel codes
      return codes
  else
    let codes := low.map Char.toNat
    checkLabel codes
    return codes

/-- A label as an A-label: one of ASCII is checked as a U-label and kept as it is, one
beyond ASCII is checked and written as `xn--` and its Punycode; either must stay within
the length of a label. -/
def aLabel (label : String) : Except IdnaError String := do
  let cs := label.toList
  if cs.length > maxInput then throw .labelTooLong
  if isAscii cs then
    let _ ← uLabel label
    if cs.length > maxLabel then throw .labelTooLong
    return label
  checkLabel (cs.map Char.toNat)
  let encoded := "xn--" ++ Url.Punycode.encode label
  if encoded.length > maxLabel then throw .labelTooLong
  return encoded

/-! ### Names -/

/-- Whether a character separates labels: the full stop, or its ideographic, fullwidth
or halfwidth form. -/
def isLabelDot (c : Char) : Bool :=
  c = '.' || c = '。' || c = '．' || c = '｡'

/-- The labels of a name, and whether it ends with a dot; none for the empty name. -/
def labelsOf (s : String) : Except IdnaError (List String × Bool) :=
  let parts := splitDots s.toList
  if parts = [""] then .error .emptyDomain
  else if parts.getLast? = some "" then .ok (parts.dropLast, true)
  else .ok (parts, false)
where
  /-- The text between the dots. -/
  splitDots (cs : List Char) : List String :=
    let (cur, done) := cs.foldl (fun (cur, done) c =>
      if isLabelDot c then ([], done ++ [String.ofList cur]) else (cur ++ [c], done)) ([], [])
    done ++ [String.ofList cur]

/-- A name in ASCII, every label an A-label, or why it cannot be. -/
def encode (s : String) : Except IdnaError String := do
  if s.length > maxInput ∨ s.length > maxName then throw .domainTooLong
  let (labels, trailing) ← labelsOf s
  let encoded ← labels.mapM aLabel
  let out := ".".intercalate (encoded ++ if trailing then [""] else [])
  if out.length > (if trailing then maxName else maxName - 1) then throw .domainTooLong
  return out

/-- Check that a name decodes: every label a valid U-label or A-label. -/
def checkDecodes (s : String) : Except IdnaError Unit := do
  if s.length > maxInput ∨ s.length > maxName then throw .domainTooLong
  let (labels, _) ← labelsOf s
  labels.forM fun l => do
    let _ ← uLabel l

end Uptime.Idna
