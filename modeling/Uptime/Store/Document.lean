import Uptime.Store.Disk
import Uptime.Json.Read
import Uptime.Json.Write
import Uptime.Schema.Issue
import Uptime.Text.Blank
/-!
JSON documents kept in files. A missing file, or one holding only blanks, reads as a
given default; a file that cannot be read or does not hold one JSON document is an
error that names the file, unless its containers nest deeper than the reading goes,
which stops the reading on its own. Documents are written indented by two spaces, keys sorted,
text in ASCII, with a final line end.
-/
namespace Uptime.Store

open Uptime.Json Uptime.Schema Uptime.Text

/-- Why stored data could not be used. -/
inductive StoreError where
  /-- the file could not be read, or is not JSON; the reason is the underlying error -/
  | unreadable (p : Path) (reason : String)
  /-- the state file holds JSON other than an object -/
  | notAnObject (p : Path)
  /-- the stored state of a monitor does not fit the model -/
  | invalidState (monitorId : String) (issues : List Issue)
  /-- the file could not be written -/
  | unwritable (p : Path) (reason : String)
  /-- the document nests deeper than the reading goes -/
  | nestedTooDeep (reason : String)

/-- The words of a store error. -/
def StoreError.message : StoreError → String
  | .unreadable p reason => "Could not read " ++ p.text ++ ": " ++ reason
  | .notAnObject p => "State file " ++ p.text ++ " must contain a JSON object"
  | .invalidState m issues =>
    "Invalid state for monitor " ++ m ++ ": " ++ report "MonitorState" issues
  | .unwritable p reason => "Could not write " ++ p.text ++ ": " ++ reason
  | .nestedTooDeep reason => reason

/-- The document in a file: the default when the file is missing or blank. -/
def readDocument (d : Disk) (p : Path) (dflt : Value) : Except StoreError Value := do
  if !d.occupied p then return dflt
  let text ← (d.read p).mapError fun e => .unreadable p e.message
  let raw := strip text
  if raw.isEmpty then return dflt
  (Value.read raw).mapError fun e =>
    if e.tooDeep then .nestedTooDeep (e.message raw) else .unreadable p (e.message raw)

def storedText (v : Value) : String :=
  v.renderSorted Layout.indented ++ "\n"

def logLine (v : Value) : String :=
  v.renderSorted Layout.spaced ++ "\n"

end Uptime.Store
