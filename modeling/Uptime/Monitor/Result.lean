import Uptime.Monitor.State
import Uptime.Time.Epoch
/-!
The result of one check of a monitor: where and when it was made, the status it found,
the timings, the certificate, the readings taken from the body, and the status before.
Its record lists every field; its row, as written to the time series, leaves out the
previous status and writes the check time and the certificate expiry as dates in UTC
(no expiry when it is 0).
-/
namespace Uptime.Monitor

open Uptime.Json Uptime.Schema Uptime.Time

/-- The result of one check. -/
structure Result where
  monitorId : String
  url : String
  /-- milliseconds since the epoch -/
  timestamp : Int
  status : Status
  httpCode : Int
  ttfbMs : Int
  totalMs : Int
  attempt : Int := 1
  retries : Int := 0
  failureStreak : Int
  responseBytes : Int := 0
  contentHash : String := ""
  redirectCount : Int := 0
  probeRegion : String
  probeIp : String
  /-- milliseconds since the epoch, 0 when unknown -/
  sslExpiry : Int := 0
  sslValid : Int := 0
  env : String := "prod"
  checkType : String := "http"
  userAgent : String
  error : String := ""
  jsonData : Option String := none
  previousStatus : Option Status := none
deriving DecidableEq, Repr

namespace Result

/-- A result from a document. -/
def check (v : Value) : Checked Result :=
  (members "CheckResult" v).andThen fun fs =>
    Result.mk <$> required fs "monitor_id" text
      <*> required fs "url" text
      <*> required fs "timestamp" whole
      <*> required fs "status" State.checkStatus
      <*> required fs "http_code" whole
      <*> required fs "ttfb_ms" whole
      <*> required fs "total_ms" whole
      <*> withDefault fs "attempt" 1 whole
      <*> withDefault fs "retries" 0 whole
      <*> required fs "failure_streak" whole
      <*> withDefault fs "response_bytes" 0 whole
      <*> withDefault fs "content_hash" "" text
      <*> withDefault fs "redirect_count" 0 whole
      <*> required fs "probe_region" text
      <*> required fs "probe_ip" text
      <*> withDefault fs "ssl_expiry" 0 whole
      <*> withDefault fs "ssl_valid" 0 whole
      <*> withDefault fs "env" "prod" text
      <*> withDefault fs "check_type" "http" text
      <*> required fs "user_agent" text
      <*> withDefault fs "error" "" text
      <*> withDefault fs "json_data" none (nullable text)
      <*> withDefault fs "previous_status" none (nullable State.checkStatus)

/-- The fields of a result, the previous status apart, with the two times as given. -/
def fields (r : Result) (timestamp sslExpiry : Value) : List (String × Value) :=
  [("monitor_id", .str r.monitorId), ("url", .str r.url), ("timestamp", timestamp),
   ("status", .int r.status.code), ("http_code", .int r.httpCode), ("ttfb_ms", .int r.ttfbMs),
   ("total_ms", .int r.totalMs), ("attempt", .int r.attempt), ("retries", .int r.retries),
   ("failure_streak", .int r.failureStreak), ("response_bytes", .int r.responseBytes),
   ("content_hash", .str r.contentHash), ("redirect_count", .int r.redirectCount),
   ("probe_region", .str r.probeRegion), ("probe_ip", .str r.probeIp),
   ("ssl_expiry", sslExpiry), ("ssl_valid", .int r.sslValid), ("env", .str r.env),
   ("check_type", .str r.checkType), ("user_agent", .str r.userAgent),
   ("error", .str r.error), ("json_data", .ofOptStr r.jsonData)]

def toValue (r : Result) : Value :=
  .obj (r.fields (.int r.timestamp) (.int r.sslExpiry) ++
    [("previous_status", match r.previousStatus with
      | some s => .int s.code
      | none => .null)])

def checkedAt (r : Result) : Except ClockError Moment :=
  Moment.ofEpochMillis r.timestamp

def row (r : Result) : Except ClockError Value := do
  let checked ← r.checkedAt
  let expiry ← if r.sslExpiry = 0 then pure Value.null
    else (fun t => Value.str t.isoText) <$> Moment.ofEpochMillis r.sslExpiry
  pure (.obj (r.fields (.str checked.isoText) expiry))

end Result

end Uptime.Monitor
