import Uptime.Url.Split
/-!
Resolving a reference against a base address, the generic way. A reference with its own
scheme (other than the base's) or its own network location stands alone; one without a
path keeps the base's path and, without a query, its query; otherwise the reference's
path is merged with the base's directory and `.` and `..` segments are resolved, never
climbing above the root. The fragment is always the reference's.
-/
namespace Uptime.Url

def relativeSchemes : List String :=
  ["", "ftp", "http", "gopher", "nntp", "imap", "wais", "file", "https", "shttp", "mms",
   "prospero", "rtsp", "rtspu", "sftp", "svn", "svn+ssh", "ws", "wss"]

def netlocSchemes : List String :=
  ["", "ftp", "http", "gopher", "nntp", "telnet", "imap", "wais", "file", "mms", "https",
   "shttp", "snews", "prospero", "rtsp", "rtspu", "rsync", "svn", "svn+ssh", "sftp", "nfs",
   "git", "git+ssh", "ws", "wss"]

/-- Schemes whose last path segment may carry parameters after `;`. -/
def paramSchemes : List String :=
  ["", "ftp", "hdl", "prospero", "http", "imap", "https", "shttp", "rtsp", "rtspu", "sip",
   "sips", "mms", "sftp", "tel"]

/-- A path and the parameters of its last segment. -/
def splitParams (path : String) : String × String :=
  let cs := path.toList
  let lastSlash := match cs.reverse.idxOf? '/' with
    | some i => cs.length - 1 - i
    | none => 0
  match ((cs.drop lastSlash).idxOf? ';') with
  | some j => (String.ofList (cs.take (lastSlash + j)), String.ofList (cs.drop (lastSlash + j + 1)))
  | none => (path, "")

/-- The six parts of an address: the five of `Parts` with the parameters apart. -/
structure Parts6 where
  parts : Parts
  params : String

def splitParts6 (dflt url : String) : Except SplitError Parts6 := do
  let p ← splitWith dflt url
  if paramSchemes.contains p.scheme && p.path.toList.contains ';' then
    let (path, params) := splitParams p.path
    pure ⟨{ p with path := path }, params⟩
  else pure ⟨p, ""⟩

/-- Put five parts together again. -/
def Parts.unsplit (p : Parts) : String :=
  let url :=
    if !p.netloc.isEmpty || (!p.scheme.isEmpty && netlocSchemes.contains p.scheme &&
        !p.path.startsWith "//") then
      let path := if !p.path.isEmpty && !p.path.startsWith "/" then "/" ++ p.path else p.path
      "//" ++ p.netloc ++ path
    else p.path
  let url := if p.scheme.isEmpty then url else p.scheme ++ ":" ++ url
  let url := if p.query.isEmpty then url else url ++ "?" ++ p.query
  if p.fragment.isEmpty then url else url ++ "#" ++ p.fragment

def Parts6.unsplit (p : Parts6) : String :=
  let path := if p.params.isEmpty then p.parts.path else p.parts.path ++ ";" ++ p.params
  { p.parts with path := path }.unsplit

def resolveSegments (segments : List String) : List String :=
  let out := segments.foldl (fun (out : List String) seg =>
    if seg = ".." then out.dropLast
    else if seg = "." then out
    else out ++ [seg]) []
  if segments.getLast? = some "." || segments.getLast? = some ".." then out ++ [""] else out

/-- Resolve a reference against a base. -/
def join (base ref : String) : Except SplitError String := do
  if base.isEmpty then return ref
  if ref.isEmpty then return base
  let b ← splitParts6 "" base
  let r ← splitParts6 b.parts.scheme ref
  let scheme := r.parts.scheme
  if scheme != b.parts.scheme || !relativeSchemes.contains scheme then return ref
  let r ← if netlocSchemes.contains scheme then
      if !r.parts.netloc.isEmpty then return r.unsplit
      else pure { r with parts := { r.parts with netloc := b.parts.netloc } }
    else pure r
  if r.parts.path.isEmpty && r.params.isEmpty then
    let query := if r.parts.query.isEmpty then b.parts.query else r.parts.query
    return ({ parts := { r.parts with path := b.parts.path, query := query },
              params := b.params } : Parts6).unsplit
  let baseParts := b.parts.path.splitOn "/"
  let baseDir := if baseParts.getLast? != some "" then baseParts.dropLast else baseParts
  let segments :=
    if r.parts.path.startsWith "/" then r.parts.path.splitOn "/"
    else
      let all := baseDir ++ r.parts.path.splitOn "/"
      match all with
      | [] => []
      | first :: rest =>
        first :: ((rest.dropLast.filter (!·.isEmpty)) ++ (rest.getLast?.toList))
  let resolved := "/".intercalate (resolveSegments segments)
  pure ({ r with parts := { r.parts with path := if resolved.isEmpty then "/" else resolved } }
    : Parts6).unsplit

end Uptime.Url
