import Uptime.Service.Check
import Uptime.Service.Engine
import Uptime.Text.Case
import Uptime.Text.Blank
/-!
Requests to run a check. A request must carry a valid signature of its body and the id
of a schedule; the schedule is looked up and its address checked. A check that runs to
a result adds a row to the results file (a row that cannot be written is passed over)
and has its alarms weighed. Each request is answered with success and the result, or
with failure, a message and the reason.
-/
namespace Uptime.Service

open Uptime.Json Uptime.Monitor Uptime.Store Uptime.Text

/-- The answer to a request. -/
inductive Answer where
  | checked (r : Result)
  | refused (message reason : String)

namespace Answer

def success : Answer → Bool
  | .checked _ => true
  | .refused .. => false

def toValue : Answer → Value
  | .checked r =>
    .obj [("success", .bool true), ("message", .str "Uptime check complete"),
      ("data", r.toValue)]
  | .refused message reason =>
    .obj [("success", .bool false), ("message", .str message), ("error", .str reason)]

end Answer

/-- Add a result's row to the results file, if it can be written. -/
def writeRow (r : Result) : Act Unit := do
  let s ← get
  match appendRow s.disk (Path.ofText s.settings.resultsPath) r with
  | .ok disk => set { s with disk }
  | .error _ => pure ()

/-- Check a monitor's address, keep the row and weigh the alarms. -/
def runCheck (monitorId url : String) (attemptNo : Int := 1)
    (cfg : Option Extraction.Config := none) : Act Answer := do
  match ← attempt (checkUptime monitorId url attemptNo cfg) with
  | .error f => pure (.refused "Failed to check uptime" f.message)
  | .ok r =>
    writeRow r
    checkAlarms monitorId r r.failureStreak r.previousStatus
    pure (.checked r)

/-- Run the check of a schedule. A schedule that cannot be had refuses the request,
unless the schedules file nests too deep to be read at all. -/
def runSchedule (scheduleId : String) : Act Answer := do
  let s ← get
  match findSchedule s.disk (Path.ofText s.settings.schedulesPath) scheduleId with
  | .error (.store (.nestedTooDeep r)) => fail (.store (.nestedTooDeep r))
  | .error e => pure (.refused "Schedule not found" e.message)
  | .ok sch => runCheck sch.stateKey sch.url 1 sch.extraction

def headerValue (headers : List (String × String)) (name : String) : Option String :=
  ((headers.filter fun (k, _) => lower k = name).getLast?).map Prod.snd

/-- Answer a signed request to run a schedule. -/
def handle (headers : List (String × String)) (body : List UInt8) : Act Answer := do
  let settings := (← get).settings
  let verifier := Signing.Verifier.ofKeys settings.signingKey settings.nextSigningKey
  let ok ← lift (verifier.verify body (headerValue headers "x-signature")) .signature
  if !ok then return .refused "Invalid signature" "Invalid signature"
  let scheduleId := strip ((headerValue headers "x-schedule-id").getD "")
  if scheduleId.isEmpty then
    return .refused "Schedule ID is required" "Missing or invalid x-schedule-id header"
  runSchedule scheduleId

end Uptime.Service
