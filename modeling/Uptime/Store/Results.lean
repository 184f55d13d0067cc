import Uptime.Store.Document
import Uptime.Monitor.Result
/-!
The time series of check results: one row per check, appended to a file as one JSON
line with sorted keys.
-/
namespace Uptime.Store

open Uptime.Monitor Uptime.Time

/-- Why a row could not be added. -/
inductive RowError where
  | clock (e : ClockError)
  | io (e : IoError)

def appendRow (d : Disk) (p : Path) (r : Result) : Except RowError Disk := do
  let row ← r.row.mapError .clock
  (d.append p (logLine row)).mapError .io

end Uptime.Store
