/-!
Literal IP addresses. A version 4 address is four dot-separated decimal numbers up to
255, written without leading zeros. A version 6 address is eight groups of up to four
hexadecimal digits separated by colons, where one run of groups may be left out as `::`
and the last two groups may be written as a version 4 address; a zone may follow a `%`.
-/
namespace Uptime.Url

def octetOk (s : String) : Bool :=
  let cs := s.toList
  !cs.isEmpty && cs.length ≤ 3 && cs.all (fun c => '0' ≤ c && c ≤ '9') &&
    (cs.length = 1 || cs.head? != some '0') &&
    cs.foldl (fun n c => n * 10 + (c.toNat - 48)) 0 ≤ 255

def isIpv4 (s : String) : Bool :=
  let parts := s.splitOn "."
  parts.length = 4 && parts.all octetOk

/-- A group of a version 6 address: one to four hexadecimal digits. -/
def hextetOk (s : String) : Bool :=
  let cs := s.toList
  !cs.isEmpty && cs.length ≤ 4 &&
    cs.all fun c => ('0' ≤ c && c ≤ '9') || ('a' ≤ c && c ≤ 'f') || ('A' ≤ c && c ≤ 'F')

/-- Whether the groups of a version 6 address, the zone already removed, are well
formed. -/
def groupsOk (s : String) : Bool :=
  let parts0 := s.splitOn ":"
  if s.isEmpty || parts0.length < 3 then false else
  -- a trailing version 4 address stands for two groups
  let parts? : Option (List String) :=
    match parts0.getLast? with
    | some last =>
      if last.toList.contains '.' then
        if isIpv4 last then some (parts0.dropLast ++ ["0", "0"]) else none
      else some parts0
    | none => none
  match parts? with
  | none => false
  | some parts =>
    let n := parts.length
    if n > 9 then false else
    let inner := (parts.drop 1).dropLast
    let empties := inner.filter (·.isEmpty)
    if empties.length > 1 then false
    else if empties.length = 1 then
      let skip := (inner.findIdx? (·.isEmpty)).getD 0 + 1
      let hi := if (parts.head?.getD "").isEmpty then skip - 1 else skip
      let lo := if (parts.getLast?.getD "").isEmpty then n - skip - 2 else n - skip - 1
      let hiOk := !(parts.head?.getD "").isEmpty || skip - 1 = 0
      let loOk := !(parts.getLast?.getD "").isEmpty || n - skip - 1 - 1 = 0
      hiOk && loOk && hi + lo < 8 &&
        ((parts.take hi).all hextetOk) && ((parts.reverse.take lo).all hextetOk)
    else
      n = 8 && parts.all hextetOk

def isIpv6 (s : String) : Bool :=
  match s.splitOn "%" with
  | [a] => !(s.toList.contains '/') && groupsOk a
  | [a, zone] => !(s.toList.contains '/') && !zone.isEmpty && groupsOk a
  | _ => false

end Uptime.Url
