import Uptime.Url.Ip
import Uptime.Idna.Label
import Uptime.Text.Case
import Uptime.Text.Blank
import Uptime.Text.Digit
import Uptime.Text.Quoted
/-!
Web addresses in the canonical form an HTTP client sends them in. The scheme and the host
are put in lower case, a host with characters beyond ASCII is encoded as an
internationalized domain name, a
port equal to the scheme's default is dropped, `.` and `..` segments are removed from
the path of an absolute address, and characters outside each part's safe set are
percent-encoded as UTF-8, existing `%xx` escapes kept. A part keeps the printable ASCII
characters that cannot end it or be taken for markup. The fragment stays.
-/
namespace Uptime.Url

open Uptime.Text

/-- An address split into its parts, each already in canonical form. -/
structure Address where
  scheme : String
  userinfo : String
  host : String
  port : Option Int
  path : String
  query : Option String
  fragment : Option String
deriving DecidableEq, Repr, Inhabited

/-- Why text is not an address. -/
inductive AddressError where
  | tooLong
  | control (c : Char) (pos : Nat)
  | badIpv4 (host : String)
  | badIpv6 (host : String)
  | badIdna (host : String)
  | badPort (port : String)
  | pathNotAbsolute
  | relativeDoubleSlash
  | relativeColon
deriving DecidableEq, Repr

/-- The words of an address error. -/
def AddressError.message : AddressError → String
  | .tooLong => "URL too long"
  | .control c pos =>
    "Invalid non-printable ASCII character in URL, " ++ quoted c.toString ++
      " at position " ++ toString pos ++ "."
  | .badIpv4 h => "Invalid IPv4 address: " ++ quoted h
  | .badIpv6 h => "Invalid IPv6 address: " ++ quoted h
  | .badIdna h => "Invalid IDNA hostname: " ++ quoted h
  | .badPort p => "Invalid port: " ++ quoted p
  | .pathNotAbsolute => "For absolute URLs, path must be empty or begin with '/'"
  | .relativeDoubleSlash => "Relative URLs cannot have a path starting with '//'"
  | .relativeColon => "Relative URLs cannot have a path starting with ':'"

/-! ### Percent-encoding -/

def unreserved : List Char :=
  "ABCDEFGHIJKLMNOPQRSTUVWXYZabcdefghijklmnopqrstuvwxyz0123456789-._~".toList

def subDelims : List Char := "!$&()*+,;=".toList ++ [singleQuote]

/-- The printable ASCII characters, space included, except those with the listed
codes. -/
def printableExcept (excluded : List Nat) : List Char :=
  ((List.range 95).map (· + 0x20)).filterMap fun n =>
    if excluded.contains n then none else some (Char.ofNat n)

/-- Characters a fragment keeps: all printable ones but space, `"`, `<`, `>` and the
backquote. -/
def fragmentSafe : List Char := printableExcept [0x20, 0x22, 0x3C, 0x3E, 0x60]

def querySafe : List Char := printableExcept [0x20, 0x22, 0x23, 0x3C, 0x3E]

def pathSafe : List Char :=
  printableExcept [0x20, 0x22, 0x23, 0x3C, 0x3E, 0x3F, 0x60, 0x7B, 0x7D]

/-- Characters user information keeps: those a path keeps but `/`, `;`, `=`, `@`, `[`
to `^` and `|`. -/
def userinfoSafe : List Char :=
  printableExcept [0x20, 0x22, 0x23, 0x3C, 0x3E, 0x3F, 0x60, 0x7B, 0x7D,
    0x2F, 0x3B, 0x3D, 0x40, 0x5B, 0x5C, 0x5D, 0x5E, 0x7C]

def hexUpper (n : Nat) : Char :=
  if n < 10 then Char.ofNat (48 + n) else Char.ofNat (55 + n)

def percentOf (c : Char) : List Char :=
  (c.toString.toUTF8.toList).flatMap fun b => ['%', hexUpper (b.toNat / 16), hexUpper (b.toNat % 16)]

def isHexDigit (c : Char) : Bool :=
  c.isDigit || ('a' ≤ c && c ≤ 'f') || ('A' ≤ c && c ≤ 'F')

/-- Encode every character outside `safe` and the unreserved ones, keeping `%xx`
escapes as they are. -/
def quoteWith (safe : List Char) : List Char → List Char
  | '%' :: a :: b :: rest =>
    if isHexDigit a && isHexDigit b then '%' :: a :: b :: quoteWith safe rest
    else
      (if safe.contains '%' then ['%'] else percentOf '%') ++ quoteWith safe (a :: b :: rest)
  | c :: rest =>
    (if unreserved.contains c || safe.contains c then [c] else percentOf c) ++
      quoteWith safe rest
  | [] => []
termination_by cs => cs.length

def quoteText (safe : List Char) (s : String) : String :=
  String.ofList (quoteWith safe s.toList)

/-! ### Parts -/

/-- The path without `.` segments, each `..` taking away the segment before it. -/
def removeDots (path : String) : String :=
  let parts := path.splitOn "/"
  if !(parts.contains "." || parts.contains "..") then path else
  let out := parts.foldl (fun (out : List String) seg =>
    if seg = "." then out
    else if seg = ".." then (if out.isEmpty || out = [""] then out else out.dropLast)
    else out ++ [seg]) []
  "/".intercalate out

/-- The default port of a scheme. -/
def defaultPort (scheme : String) : Option Int :=
  match scheme with
  | "ftp" => some 21
  | "http" => some 80
  | "https" => some 443
  | "ws" => some 80
  | "wss" => some 443
  | _ => none

/-- A whole number written with decimal digits of any script, single underscores between
them, an optional sign and blanks around. -/
def readInteger? (s : String) : Option Int :=
  let cs := (strip s).toList
  let (neg, ds) := match cs with
    | '-' :: r => (true, r)
    | '+' :: r => (false, r)
    | r => (false, r)
  let good := !ds.isEmpty && ds.head? != some '_' && ds.getLast? != some '_' &&
    !(occursTwice ds) && ds.all (fun c => c = '_' || (decimalValue? c).isSome)
  if !good then none else
  let n : Int := ds.foldl (fun n c => match decimalValue? c with
    | some d => n * 10 + d
    | none => n) 0
  some (if neg then -n else n)
where
  occursTwice : List Char → Bool
    | '_' :: '_' :: _ => true
    | _ :: r => occursTwice r
    | [] => false

/-- A host in canonical form: an IPv4-looking host must be a valid address, a
bracketed one a valid version 6 address (written without brackets), other hosts go to
lower case and, beyond ASCII, to its encoding as an internationalized domain name. -/
def canonicalHost (host : String) : Except AddressError String :=
  let cs := host.toList
  if cs.isEmpty then .ok ""
  else if looksIpv4 cs then
    if isIpv4 host then .ok host else .error (.badIpv4 host)
  else if cs.head? = some '[' && cs.getLast? = some ']' then
    let inner := String.ofList ((cs.drop 1).dropLast)
    if isIpv6 inner then .ok inner else .error (.badIpv6 host)
  else if cs.all (·.toNat < 128) then
    .ok (quoteText (subDelims ++ "\"`%|\\".toList ++ ['\x7b', '\x7d']) (lower host))
  else (Idna.encode (lower host)).mapError fun _ => .badIdna host
where
  /-- Four runs of digits joined by dots. -/
  looksIpv4 (cs : List Char) : Bool :=
    let d1 := cs.takeWhile Char.isDigit
    let r1 := cs.drop d1.length
    match r1 with
    | '.' :: r1' =>
      let d2 := r1'.takeWhile Char.isDigit
      match r1'.drop d2.length with
      | '.' :: r2' =>
        let d3 := r2'.takeWhile Char.isDigit
        match r2'.drop d3.length with
        | '.' :: r3' =>
          !d1.isEmpty && !d2.isEmpty && !d3.isEmpty && !r3'.isEmpty && r3'.all Char.isDigit
        | _ => false
      | _ => false
    | _ => false

/-! ### Reading and writing -/

/-- Scheme, authority, path, query and fragment of text, none of them checked yet. -/
def rawParts (cs : List Char) :
    List Char × Option (List Char) × List Char × Option (List Char) × Option (List Char) :=
  let run := match cs with
    | c :: _ => if c.isAlpha then cs.takeWhile fun c => c.isAlphanum || c = '+' || c = '-' || c = '.'
      else []
    | [] => []
  let (scheme, r0) :=
    if !run.isEmpty && (cs.drop run.length).head? = some ':' then (run, cs.drop (run.length + 1))
    else match cs with
      | ':' :: r => ([], r)
      | _ => ([], cs)
  let (authority, r1) := match r0 with
    | '/' :: '/' :: r =>
      let a := r.takeWhile fun c => c ≠ '/' ∧ c ≠ '?' ∧ c ≠ '#'
      (some a, r.drop a.length)
    | _ => (none, r0)
  let path := r1.takeWhile fun c => c ≠ '?' ∧ c ≠ '#'
  let r2 := r1.drop path.length
  let (query, r3) := match r2 with
    | '?' :: r =>
      let q := r.takeWhile (· ≠ '#')
      (some q, r.drop q.length)
    | _ => (none, r2)
  let fragment := match r3 with
    | '#' :: r => some r
    | _ => none
  (scheme, authority, path, query, fragment)

/-- User information, host and port text of an authority. -/
def authorityParts (a : List Char) : List Char × List Char × List Char :=
  let (userinfo, rest) := match a.reverse.idxOf? '@' with
    | some i => (a.take (a.length - i - 1), a.drop (a.length - i))
    | none => ([], a)
  let host := match rest with
    | '[' :: _ =>
      match rest.reverse.idxOf? ']' with
      | some i => rest.take (rest.length - i)
      | none => rest.takeWhile fun c => c ≠ ':' ∧ c ≠ '@'
    | _ => rest.takeWhile fun c => c ≠ ':' ∧ c ≠ '@'
  let afterHost := rest.drop host.length
  let port := match afterHost with
    | ':' :: r => r
    | r => r
  (userinfo, host, port)

/-- Read an address, putting each part in canonical form. -/
def Address.parse (url : String) : Except AddressError Address := do
  let cs := url.toList
  if cs.length > 65536 then throw .tooLong
  match cs.findIdx? (fun c => c.toNat < 0x20 || c.toNat = 0x7F) with
  | some i => throw (.control (cs.getD i ' ') i)
  | none => pure ()
  let (scheme, authority, path, query, fragment) := rawParts cs
  let (userinfo, host, port) := authorityParts (authority.getD [])
  let schemeText := String.ofList scheme
  let pScheme := String.ofList (scheme.map Char.toLower)
  let pUser := quoteText userinfoSafe (String.ofList userinfo)
  let pHost ← canonicalHost (String.ofList host)
  let pPort ← if port.isEmpty then pure none else
    match readInteger? (String.ofList port) with
    | none => throw (.badPort (String.ofList port))
    | some p => pure (if defaultPort schemeText = some p then none else some p)
  let hasScheme := !pScheme.isEmpty
  let hasAuthority := !pUser.isEmpty || !pHost.isEmpty || pPort.isSome
  let pathText := String.ofList path
  if hasAuthority && !path.isEmpty && path.head? != some '/' then throw .pathNotAbsolute
  if !hasScheme && !hasAuthority then
    if pathText.startsWith "//" then throw .relativeDoubleSlash
    if pathText.startsWith ":" then throw .relativeColon
  let normPath := if hasScheme || hasAuthority then removeDots pathText else pathText
  pure {
    scheme := pScheme, userinfo := pUser, host := pHost, port := pPort,
    path := quoteText pathSafe normPath,
    query := query.map fun q => quoteText querySafe (String.ofList q),
    fragment := fragment.map fun f => quoteText fragmentSafe (String.ofList f) }

/-- The authority: user information, the host (bracketed when it holds a colon) and the
port. -/
def Address.authority (a : Address) : String :=
  (if a.userinfo.isEmpty then "" else a.userinfo ++ "@") ++
    (if a.host.toList.contains ':' then "[" ++ a.host ++ "]" else a.host) ++
    (match a.port with
      | some p => ":" ++ toString p
      | none => "")

/-- The text of an address. -/
def Address.render (a : Address) : String :=
  let auth := a.authority
  (if a.scheme.isEmpty then "" else a.scheme ++ ":") ++
    (if auth.isEmpty then "" else "//" ++ auth) ++ a.path ++
    (match a.query with
      | some q => "?" ++ q
      | none => "") ++
    (match a.fragment with
      | some f => "#" ++ f
      | none => "")

/-- The check a client makes of the host of every request it builds: a host that
starts with `xn--` must decode as an internationalized domain name. -/
def Address.checkHost (a : Address) : Except Idna.IdnaError Unit :=
  if a.host.startsWith "xn--" then Idna.checkDecodes a.host else .ok ()

def Address.isAbsolute (a : Address) : Bool := !a.scheme.isEmpty && !a.host.isEmpty

/-- The address a client without a base address sends a request to: an absolute
address as it is, any other taken below the root, its path and query after one slash
and its fragment dropped. -/
def Address.sent (a : Address) : String :=
  if a.isAbsolute then a.render
  else
    let rawPath := (if a.path.isEmpty then "/" else a.path) ++
      (match a.query with
        | some q => "?" ++ q
        | none => "")
    "/" ++ String.ofList (rawPath.toList.dropWhile (· = '/'))

end Uptime.Url
