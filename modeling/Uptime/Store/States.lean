import Uptime.Store.Document
import Uptime.Monitor.State
/-!
Where monitor states are kept: in memory, or in one JSON file that maps each monitor to
its state. The file is read on every access, so a broken file fails every read and
every write; a write replaces only the entry of its own monitor and keeps the others as
they were stored.
-/
namespace Uptime.Store

open Uptime.Json Uptime.Monitor

/-- A keeper of monitor states. -/
inductive StateStore where
  | memory (states : List (String × State))
  | file (path : Path)

namespace StateStore

/-- The entries of the state file: the file must hold an object. -/
def entries (d : Disk) (p : Path) : Except StoreError (List (String × Value)) := do
  match ← readDocument d p (.obj []) with
  | .obj fs => pure fs
  | _ => throw (.notAnObject p)

/-- The state of a monitor, if one is kept. -/
def get (s : StateStore) (d : Disk) (monitorId : String) : Except StoreError (Option State) :=
  match s with
  | .memory states => .ok (states.lookup monitorId)
  | .file p => do
    match (← entries d p).lookup monitorId with
    | none | some .null => pure none
    | some raw => match (State.check raw).run with
      | .ok st => pure (some st)
      | .error issues => throw (.invalidState monitorId issues)

/-- Keep a state under its monitor, replacing the one kept before. -/
def put (s : StateStore) (d : Disk) (st : State) : Except StoreError (StateStore × Disk) :=
  match s with
  | .memory states => .ok (.memory (putEntry states st.monitorId st), d)
  | .file p => do
    let fs ← entries d p
    let doc := Value.obj (Value.setField fs st.monitorId st.toValue)
    let d' ← (d.write p (storedText doc)).mapError fun e => .unwritable p e.message
    pure (s, d')

theorem get_put_memory (states : List (String × State)) (d : Disk) (st : State) :
    ((StateStore.memory states).put d st).bind (fun (s, d) => s.get d st.monitorId) =
      .ok (some st) := by
  simp [put, get, lookup_putEntry, Except.bind]

end StateStore

end Uptime.Store
