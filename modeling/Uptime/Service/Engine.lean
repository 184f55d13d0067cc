import Uptime.Service.Dispatch
import Uptime.Alarm.Notice
import Uptime.Alarm.Rules
/-!
The alarm engine: what a check result means for each enabled alarm of its monitor. A
down result notifies when it crosses the alarm's threshold and no down notification
went out within the cooldown; a result that is up after a down one always notifies of
the recovery. Every notification sent is recorded as a firing, whichever channels
delivered it. An alarm that fails is passed over, and so is the whole check when the
alarms cannot be listed.
-/
namespace Uptime.Service

open Uptime.Json Uptime.Monitor Uptime.Alarm Uptime.Time

def NoticeError.fault : NoticeError → Fault
  | .address e => .address e
  | .clock e => .clock e

/-- When the outage behind a down result began: the time the kept state went down,
when states are consulted and it is down, else the time of the check. -/
def outageStart (monitorId : String) (r : Result) : Act Moment := do
  if (← get).outageFromStates then
    if let some st ← stateOf monitorId then
      if st.status = .down then return st.lastChangeAt
  lift r.checkedAt .clock

def firingOf (a : Config) (monitorId : String) (event : Event) (firedAt : Moment)
    (sent : List (String × Bool)) (metadata : List (String × Value)) : Firing :=
  { id := a.id ++ ":" ++ event.name ++ ":" ++ toString firedAt.epochMicros, alarmId := a.id,
    monitorId, event, firedAt, sent, metadata }

/-- Weigh one alarm against a check result. -/
def evaluate (a : Config) (monitorId : String) (r : Result) (failures : Int)
    (previous : Option Status) : Act Unit := do
  let t ← now
  let settings := (← get).settings
  let conditions := a.conditions
  if r.status = .down then
    if !crossesDown failures previous conditions.failures then return
    let lastDown ← lastFired a.id .down
    if ← lift (cooldownActive lastDown (.whole conditions.cooldownMinutes) t) .clock then return
    let since ← outageStart monitorId r
    let payload ← lift (downPayload r failures since t settings.dashboardUrl) NoticeError.fault
    let sent ← dispatch payload (Notify.channels a settings)
    recordFiring (firingOf a monitorId .down t sent
      [("httpCode", .int r.httpCode), ("responseTime", .int r.totalMs),
       ("consecutiveFailures", .int failures), ("error", .str r.error)])
  else if r.status = .up && previous = some .down then
    let since := (← lastFired a.id .down).getD t
    let payload ← lift (recoveryPayload r since t settings.dashboardUrl) NoticeError.fault
    let sent ← dispatch payload (Notify.channels a settings)
    let downtime ← lift (formatDowntime since t) .clock
    recordFiring (firingOf a monitorId .up t sent
      [("httpCode", .int r.httpCode), ("responseTime", .int r.totalMs),
       ("downSince", .str since.isoText), ("downtimeDuration", .str downtime)])

/-- Weigh every enabled uptime alarm of a monitor against a check result. -/
def checkAlarms (monitorId : String) (r : Result) (failures : Int) (previous : Option Status) :
    Act Unit := do
  match ← attempt (alarmsOf monitorId "uptime") with
  | .error _ => pure ()
  | .ok alarms =>
    alarms.forM fun a => do
      let _ ← attempt (evaluate a monitorId r failures previous)

/-- Send an alarm's test notification: each channel and whether it delivered. -/
def testNotification (a : Config) : Act (List (String × Bool)) := do
  let settings := (← get).settings
  dispatch (testPayload a (← now)) (Notify.channels a settings)

end Uptime.Service
