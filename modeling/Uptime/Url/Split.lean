import Uptime.Url.Ip
import Uptime.Text.Case
import Uptime.Text.Quoted
/-!
Splitting a URL into scheme, network location, path, query and fragment, the generic
way: leading controls and blanks are dropped and tabs and line breaks removed; a scheme
is a letter followed by letters, digits, `+`, `-` or `.` before the first colon; a
network location follows `//` up to the first `/`, `?` or `#`. Brackets in the network
location must pair up; once they do, the host (after any user information) must be a
bracketed version 6 address (or a future-format address starting with `v`) with nothing
before the bracket and only a port after it, and no character of the network location
may stand for a delimiter under compatibility normalization. The host is the location without user information
and port, in lower case.
-/
namespace Uptime.Url

open Uptime.Text

/-- Why a URL cannot be split. -/
inductive SplitError where
  /-- brackets that do not pair up, or text next to a bracketed host -/
  | unpairedBracket
  | ipv4InBrackets
  | futureAddress
  | notAnAddress (text : String)
  /-- the network location holds a character that stands for a delimiter -/
  | hiddenDelimiter (netloc : String)
deriving DecidableEq, Repr

/-- The five parts of a URL. -/
structure Parts where
  scheme : String
  netloc : String
  path : String
  query : String
  fragment : String
deriving DecidableEq, Repr, Inhabited

def isSchemeChar (c : Char) : Bool :=
  c.isAlphanum || c = '+' || c = '-' || c = '.'

/-- The text before the first `sep` and the text after it, if `sep` occurs. -/
def splitFirst (s : List Char) (sep : Char) : Option (List Char × List Char) :=
  match s.idxOf? sep with
  | some i => some (s.take i, s.drop (i + 1))
  | none => none

def splitNetloc (s : List Char) : List Char × List Char :=
  let loc := s.takeWhile fun c => c ≠ '/' ∧ c ≠ '?' ∧ c ≠ '#'
  (loc, s.drop loc.length)

/-- Whether text between brackets is an address: a future-format one starting with
`v`, or version 6. -/
def checkBracketed (h : String) : Except SplitError Unit :=
  match h.toList with
  | 'v' :: rest =>
    let hexes := rest.takeWhile fun c => c.isDigit || ('a' ≤ c && c ≤ 'f') || ('A' ≤ c && c ≤ 'F')
    let after := rest.drop hexes.length
    if !hexes.isEmpty && after.head? = some '.' && after.length ≥ 2 && !after.contains '\n'
    then .ok () else .error .futureAddress
  | _ =>
    if isIpv4 h then .error .ipv4InBrackets
    else if isIpv6 h then .ok ()
    else .error (.notAnAddress h)

/-- Whether a character's compatibility form holds one of the delimiters `/`, `?`, `#`,
`@` and `:` (of Unicode 14.0): such a character in a host name would change where
the host ends once the name is normalized. -/
def hidesDelimiter (c : Char) : Bool :=
  [0x2047, 0x2048, 0x2049, 0x2100, 0x2101, 0x2105, 0x2106, 0x2A74, 0xFE13, 0xFE16,
    0xFE55, 0xFE56, 0xFE5F, 0xFE6B, 0xFF03, 0xFF0F, 0xFF1A, 0xFF1F, 0xFF20].contains c.toNat

/-- Split a URL into its five parts; `dflt` is the scheme of a URL that names none. -/
def splitWith (dflt : String) (url : String) : Except SplitError Parts := do
  let cs0 := url.toList.dropWhile (·.toNat ≤ 0x20)
  let cs := cs0.filter fun c => c ≠ '\t' ∧ c ≠ '\r' ∧ c ≠ '\n'
  let (scheme, rest) := match cs.idxOf? ':' with
    | some i =>
      let pre := cs.take i
      match pre with
      | c :: _ =>
        if c.toNat < 0x80 && c.isAlpha && pre.all isSchemeChar then
          (lower (String.ofList pre), cs.drop (i + 1))
        else (dflt, cs)
      | [] => (dflt, cs)
    | none => (dflt, cs)
  let (netloc, rest) ← match rest with
    | '/' :: '/' :: r =>
      let (loc, after) := splitNetloc r
      let hasOpen := loc.contains '['
      let hasClose := loc.contains ']'
      if hasOpen != hasClose then throw SplitError.unpairedBracket
      if hasOpen then
        let hostPort := (loc.reverse.takeWhile (· ≠ '@')).reverse
        match splitFirst hostPort '[' with
        | some (before, bracketed) =>
          let (host, port) := (splitFirst bracketed ']').getD (bracketed, [])
          if !before.isEmpty || !(port.isEmpty || port.head? = some ':') then
            throw SplitError.unpairedBracket
          checkBracketed (String.ofList host)
        | none => checkBracketed (String.ofList (hostPort.takeWhile (· ≠ ':')))
      pure (loc, after)
    | r => pure ([], r)
  let (rest, fragment) := (splitFirst rest '#').getD (rest, [])
  let (path, query) := (splitFirst rest '?').getD (rest, [])
  if netloc.any hidesDelimiter then throw (SplitError.hiddenDelimiter (String.ofList netloc))
  pure ⟨scheme, String.ofList netloc, String.ofList path, String.ofList query,
    String.ofList fragment⟩

def split (url : String) : Except SplitError Parts :=
  splitWith "" url

/-- The host and the port text of a network location: after any user information,
and with brackets removed around an address. -/
def hostInfo (netloc : String) : String × Option String :=
  let afterAt := (netloc.toList.reverse.takeWhile (· ≠ '@')).reverse
  match splitFirst afterAt '[' with
  | some (_, bracketed) =>
    let (host, tail) := (splitFirst bracketed ']').getD (bracketed, [])
    let port := ((splitFirst tail ':').map (·.2)).getD []
    (String.ofList host, if port.isEmpty then none else some (String.ofList port))
  | none =>
    let (host, port) := (splitFirst afterAt ':').getD (afterAt, [])
    (String.ofList host, if port.isEmpty then none else some (String.ofList port))

/-- The host of a URL in lower case, a zone after `%` kept as written; none when
empty. -/
def Parts.hostname? (p : Parts) : Option String :=
  let (host, _) := hostInfo p.netloc
  if host.isEmpty then none else
  match splitFirst host.toList '%' with
  | some (h, zone) => some (lower (String.ofList h) ++ "%" ++ String.ofList zone)
  | none => some (lower host)

/-- The port of a URL: ASCII digits only, from 0 to 65535; none when absent. -/
def Parts.port? (p : Parts) : Except String (Option Nat) :=
  match (hostInfo p.netloc).2 with
  | none => .ok none
  | some t =>
    let ds := t.toList
    if ds.isEmpty ∨ ¬ ds.all Char.isDigit then
      .error ("Port could not be cast to integer value as " ++ quoted t)
    else
      let n := ds.foldl (fun n c => n * 10 + (c.toNat - 48)) 0
      if n > 65535 then .error "Port out of range 0-65535" else .ok (some n)

def SplitError.message : SplitError → String
  | .unpairedBracket => "Invalid IPv6 URL"
  | .ipv4InBrackets => "An IPv4 address cannot be in brackets"
  | .futureAddress => "IPvFuture address is invalid"
  | .notAnAddress t => quoted t ++ " does not appear to be an IPv4 or IPv6 address"
  | .hiddenDelimiter n => "netloc '" ++ n ++ "' contains invalid characters under NFKC normalization"

end Uptime.Url
