import Uptime.Settings
import Uptime.Text.Blank
/-!
Settings files of `KEY=value` lines, read with every line end as `\n` and without a byte
order mark at the start. Blank lines and lines starting with `#` say nothing; a line may
start with `export `. A key is a run of characters other than `=`, `#` and blanks, or
anything in single quotes. A value is either quoted, in single quotes (where `\\` and
`\'` are escapes) or double quotes (where also `\"` and the escapes of control characters
count), or plain: the rest of the line, up to a `#` after a blank, without blanks at its
ends. A quoted value may span lines; in it a backslash pairs with the character after
it, unless that ends a line, and it closes at the first quote that no backslash pairs
with (`closingQuote`). A line that breaks these rules is passed over from where it
broke, and a key without `=` unsets the key. In a value, `${NAME}` and
`${NAME:-default}` stand for the value NAME was given earlier in the file, else its value
in the process, else the default, else nothing. Keys keep the place of their first
binding when bound again, which decides among keys that agree in lower case.
-/
namespace Uptime.Settings

open Uptime.Text

def isInlineBlank (c : Char) : Bool := isBlank c && c != '\n' && c != '\r'

/-- The character an escape in double quotes stands for. -/
def doubleEscape? : Char → Option Char
  | '\\' => some '\\'
  | '\'' => some '\''
  | '"' => some '"'
  | 'a' => some (Char.ofNat 7)
  | 'b' => some (Char.ofNat 8)
  | 'f' => some (Char.ofNat 12)
  | 'n' => some '\n'
  | 'r' => some '\r'
  | 't' => some '\t'
  | 'v' => some (Char.ofNat 11)
  | _ => none

def singleEscape? : Char → Option Char
  | '\\' => some '\\'
  | '\'' => some '\''
  | _ => none

/-- Where the text in quotes ends: a backslash and the character after it, unless that
ends the line, are taken together, and any other character alone; the first quote `q`
taken alone closes the text. The offset of the closing quote counts from `i`; none when
the text or the line runs out after a backslash, or the text runs out before a quote
closes it. -/
def closingQuote (q : Char) : List Char → Nat → Option Nat
  | [], _ => none
  | '\\' :: c :: rest, i => if c = '\n' then none else closingQuote q rest (i + 2)
  | ['\\'], _ => none
  | c :: rest, i => if c = q then some i else closingQuote q rest (i + 1)

/-- Text with its escapes undone from left to right: a backslash and a character that
`escape` knows stand for that character's meaning, other backslashes for themselves. -/
def unescape (escape : Char → Option Char) : List Char → List Char
  | '\\' :: c :: rest =>
    match escape c with
    | some e => e :: unescape escape rest
    | none => '\\' :: unescape escape (c :: rest)
  | c :: rest => c :: unescape escape rest
  | [] => []

/-- The text in quotes up to its closing quote `q` (`closingQuote`), escapes undone by
`escape`, and what follows the closing quote; none when no quote closes it. -/
def quotedPart (q : Char) (escape : Char → Option Char) (cs : List Char) :
    Option (String × List Char) :=
  (closingQuote q cs 0).map fun i =>
    (String.ofList (unescape escape (cs.take i)), cs.drop (i + 1))

/-- A plain value from the rest of the line after `=`: the line cut at the first `#`
after a blank (the blanks right after `=` count), blanks at either end dropped. -/
def plainValue (line : List Char) : String :=
  let rec cut : List Char → List Char
    | [] => []
    | c :: rest =>
      if isBlank c && (rest.dropWhile isBlank).head? = some '#' then [] else c :: cut rest
  strip (String.ofList (cut line))

/-- Text as a file read for text gives it: each `\r\n` and each `\r` alone becomes
`\n`. -/
def universalNewlines : List Char → List Char
  | '\r' :: '\n' :: rest => '\n' :: universalNewlines rest
  | '\r' :: rest => '\n' :: universalNewlines rest
  | c :: rest => c :: universalNewlines rest
  | [] => []

def isLineEnd (c : Char) : Bool := c = '\n' || c = '\r'

def restOfLine (cs : List Char) : List Char :=
  match cs.dropWhile (!isLineEnd ·) with
  | '\r' :: '\n' :: rest => rest
  | _ :: rest => rest
  | [] => []

/-- After a binding: blanks, an optional comment, and the end of the line; none when
something else follows. -/
def lineEnd (cs : List Char) : Option (List Char) :=
  let cs := cs.dropWhile isInlineBlank
  let cs := match cs with
    | '#' :: _ => cs.dropWhile (!isLineEnd ·)
    | _ => cs
  match cs with
  | [] => some []
  | '\r' :: '\n' :: rest => some rest
  | '\n' :: rest | '\r' :: rest => some rest
  | _ => none

/-- The value after `=`, blanks before it passed over, and what follows it, or none
when a quote is not closed. -/
def valuePart (cs : List Char) : Option (String × List Char) :=
  match cs.dropWhile isInlineBlank with
  | '\'' :: rest => quotedPart '\'' singleEscape? rest
  | '"' :: rest => quotedPart '"' doubleEscape? rest
  | [] => some ("", [])
  | here@(c :: _) =>
    if isLineEnd c then some ("", here)
    else
      let line := cs.takeWhile (!isLineEnd ·)
      some (plainValue line, cs.drop line.length)

/-- One binding from the start of the text: the key it names and the value it gives,
if any, and the text after it; when the line breaks the rules, the text from where it
broke. -/
def binding (cs : List Char) :
    Except (List Char) (Option (String × Option String) × List Char) := do
  let cs := match cs with
    | 'e' :: 'x' :: 'p' :: 'o' :: 'r' :: 't' :: c :: rest =>
      if isInlineBlank c then rest.dropWhile isInlineBlank else cs
    | _ => cs
  let (key, cs) ← match cs with
    | '#' :: _ => pure (none, cs)
    | '\'' :: rest =>
      let k := rest.takeWhile (· != '\'')
      match rest.drop k.length with
      | '\'' :: after => if k.isEmpty then throw cs else pure (some (String.ofList k), after)
      | _ => throw cs
    | _ =>
      let k := cs.takeWhile fun c => c != '=' && c != '#' && !isBlank c
      if k.isEmpty then throw cs else pure (some (String.ofList k), cs.drop k.length)
  let cs := cs.dropWhile isInlineBlank
  let (value, cs) ← match cs with
    | '=' :: rest =>
      match valuePart rest with
      | some (v, r) => pure (some v, r)
      | none => throw rest
    | _ => pure (none, cs)
  match lineEnd cs with
  | some after => pure (key.map fun k => (k, value), after)
  | none => throw cs

/-- The bindings of a settings file, in order: each key with its value, none for a key
given without one. A byte order mark at the start is no part of the text. -/
def dotenvBindings (text : String) : List (String × Option String) :=
  let cs := universalNewlines (match text.toList with
    | '\uFEFF' :: rest => rest
    | cs => cs)
  go cs.length cs []
where
  /-- Read bindings with at most `fuel` more steps, each of which reads at least one
  character. -/
  go : Nat → List Char → List (String × Option String) → List (String × Option String)
    | 0, _, acc => acc
    | fuel + 1, cs, acc =>
      match cs.dropWhile isBlank with
      | [] => acc
      | cs =>
        match binding cs with
        | .ok (entry, rest) =>
          let acc := match entry with
            | some e => acc ++ [e]
            | none => acc
          go fuel (if rest.length < cs.length then rest else restOfLine cs) acc
        | .error here => go fuel (restOfLine here) acc

/-- A reference `${NAME}` or `${NAME:-default}` at the front of the text (after its `$`),
and the text after it: the name holds neither `}` nor `:`, the default no `}`. -/
def reference? : List Char → Option ((String × Option String) × List Char)
  | '{' :: rest =>
    let name := rest.takeWhile fun c => c != '}' && c != ':'
    match rest.drop name.length with
    | '}' :: after => some ((String.ofList name, none), after)
    | ':' :: '-' :: more =>
      let dflt := more.takeWhile (· != '}')
      match more.drop dflt.length with
      | '}' :: after => some ((String.ofList name, some (String.ofList dflt)), after)
      | _ => none
    | _ => none
  | _ => none

/-- A value with each reference replaced: `find` gives what a name stands for, when it
is known at all (none inside for a key known to be unset). -/
def expand (find : String → Option (Option String)) (value : String) : String :=
  go value.length value.toList []
where
  /-- Expand with at most `fuel` more steps, each of which reads at least one
  character. -/
  go : Nat → List Char → List Char → String
    | 0, cs, acc => String.ofList (acc ++ cs)
    | _, [], acc => String.ofList acc
    | fuel + 1, '$' :: rest, acc =>
      match reference? rest with
      | some ((name, dflt), after) =>
        let v := match find name with
          | some known => known.getD ""
          | none => dflt.getD ""
        go fuel after (acc ++ v.toList)
      | none => go fuel rest (acc ++ ['$'])
    | fuel + 1, c :: rest, acc => go fuel rest (acc ++ [c])

/-- The names a value refers to, in order. -/
def referencedNames (value : String) : List String :=
  go value.length value.toList
where
  /-- Scan with at most `fuel` more steps, each of which reads at least one character. -/
  go : Nat → List Char → List String
    | 0, _ => []
    | _, [] => []
    | fuel + 1, '$' :: rest =>
      match reference? rest with
      | some ((name, _), after) => name :: go fuel after
      | none => go fuel rest
    | fuel + 1, _ :: rest => go fuel rest

/-- The bindings with their references expanded, each against the bindings before it
and then the process. -/
def expandBindings (process : Environment) (bs : List (String × Option String)) :
    List (String × Option String) :=
  bs.foldl (fun done (k, v) =>
    let find := fun (name : String) =>
      match (done.filter (·.1 == name)).getLast? with
      | some (_, known) => some known
      | none => (((process.filter (·.1 == name)).getLast?).map (·.2)).map some
    done ++ [(k, v.map (expand find))]) []

/-- Bindings as a table of keys: a key bound again keeps the place of its first binding
and takes the value of its last. -/
def bindingTable (bs : List (String × Option String)) : List (String × Option String) :=
  bs.foldl (fun acc (k, v) =>
    if acc.any (·.1 == k) then acc.map fun (k', v') => if k' == k then (k', v) else (k', v')
    else acc ++ [(k, v)]) []

/-- The settings a settings file gives, with its references expanded against the
process. The keys are taken in the order of their first binding, each with its last
value (`bindingTable`); of the keys that agree in lower case the last so taken counts,
and one without a value leaves the setting out. -/
def dotenvEntries (process : Environment) (text : String) : Environment :=
  let table := bindingTable (expandBindings process (dotenvBindings text))
  let last := table.zipIdx.filter fun ((k, _), i) =>
    !((table.drop (i + 1)).any fun (k', _) => lower k' == lower k)
  last.filterMap fun ((k, v), _) => v.map (k, ·)

end Uptime.Settings
