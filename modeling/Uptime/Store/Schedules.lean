import Uptime.Store.Document
import Uptime.Monitor.Schedule
/-!
The schedules file: a JSON object from schedule id to schedule. A schedule is found
when its entry is an object with an address; the id of the entry is the schedule's id
unless the entry names one itself.
-/
namespace Uptime.Store

open Uptime.Json Uptime.Schema Uptime.Monitor

/-- Why a schedule could not be had. -/
inductive ScheduleError where
  | store (e : StoreError)
  | notFound (id : String)
  | missingUrl (id : String)
  | invalid (id : String) (issues : List Issue)

def ScheduleError.message : ScheduleError → String
  | .store e => e.message
  | .notFound id => "Schedule " ++ id ++ " not found"
  | .missingUrl id => "Schedule " ++ id ++ " has invalid data (missing url)"
  | .invalid id issues =>
    "Schedule " ++ id ++ " has invalid data: " ++ report "MonitorSchedule" issues

/-- Whether a document value counts as filled in: not null, false, zero or empty. -/
def filledIn : Value → Bool
  | .null => false
  | .bool b => b
  | .int n => n != 0
  | .float x => x != 0.0
  | .str s => !s.isEmpty
  | .arr xs => !xs.isEmpty
  | .obj fs => !fs.isEmpty

/-- The schedule with an id, from the schedules file. -/
def findSchedule (d : Disk) (p : Path) (id : String) : Except ScheduleError Schedule := do
  let doc ← (readDocument d p (.obj [])).mapError .store
  match doc.get? id with
  | some (.obj fs) =>
    if !((fs.lookup "url").map filledIn).getD false then throw (.missingUrl id)
    let entry := fs.foldl (fun acc (k, v) => Value.setField acc k v) [("id", .str id)]
    match (Schedule.check (.obj entry)).run with
    | .ok s => pure s
    | .error issues => throw (.invalid id issues)
  | _ => throw (.notFound id)

end Uptime.Store
