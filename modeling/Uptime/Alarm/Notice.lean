import Uptime.Alarm.Rules
import Uptime.Alarm.Config
import Uptime.Monitor.Result
import Uptime.Notify.Payload
import Uptime.Url.Split
/-!
The notifications an alarm sends: that a site is down (urgent), that it has recovered,
and a test. Each names the site by the host of its address, or by the address itself
when it has no host, and links to the monitor on the dashboard.
-/
namespace Uptime.Alarm

open Uptime.Json Uptime.Time Uptime.Monitor Uptime.Notify Uptime.Url

/-- The name of a site: the host of its address, else the address. -/
def siteName (url : String) : Except SplitError String := do
  let p ← split url
  pure ((p.hostname?.filter (!·.isEmpty)).getD url)

/-- Why a notification cannot be built: the address cannot be split, or two moments
cannot be compared. -/
inductive NoticeError where
  | address (e : SplitError)
  | clock (e : ClockError)

/-- The notification that a site is down. -/
def downPayload (r : Result) (failures : Int) (downSince now : Moment) (dashboard : String) :
    Except NoticeError Payload := do
  let site ← (siteName r.url).mapError .address
  let since ← (humanizeSince downSince now).mapError .clock
  pure { title := "🔴 Site Down: " ++ site, message := "Your website is not responding.",
         priority := .urgent,
         metadata := [("url", .str r.url), ("status", .int r.httpCode),
           ("error", .str (if r.error.isEmpty then "Connection failed" else r.error)),
           ("downSince", .str since), ("consecutiveFailures", .int failures),
           ("responseTime", .str (toString r.totalMs ++ "ms")),
           ("probeRegion", .str r.probeRegion),
           ("dashboardLink", .str (dashboardLink dashboard r.monitorId))] }

/-- The notification that a site is back. -/
def recoveryPayload (r : Result) (downSince now : Moment) (dashboard : String) :
    Except NoticeError Payload := do
  let site ← (siteName r.url).mapError .address
  let downtime ← (formatDowntime downSince now).mapError .clock
  pure { title := "🟢 Site Recovered: " ++ site, message := "Your website is back online.",
         priority := .normal,
         metadata := [("url", .str r.url), ("downtimeDuration", .str downtime),
           ("recoveredAt", .str now.isoText),
           ("responseTime", .str (toString r.totalMs ++ "ms")),
           ("httpStatus", .int r.httpCode),
           ("dashboardLink", .str (dashboardLink dashboard r.monitorId))] }

def testPayload (a : Config) (now : Moment) : Payload :=
  { title := "🔔 Test Notification",
    message := "This is a test notification from alarm: " ++ a.name,
    priority := .normal,
    metadata := [("alarmId", .str a.id), ("alarmName", .str a.name),
      ("testTime", .str now.isoText)] }

end Uptime.Alarm
