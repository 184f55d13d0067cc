import Uptime.Schema.Field
import Uptime.Json.Write
/-!
The history of an alarm's firings. Each record says which alarm fired for which
monitor, whether the site went down or came back, when, which channels delivered, and
details of the check. The last firing of an alarm for an event is the latest record's
time, the first of equal times winning; times with and without an offset cannot be
compared.
-/
namespace Uptime.Alarm

open Uptime.Json Uptime.Schema Uptime.Time

/-- What made an alarm fire. -/
inductive Event where
  | down
  | up
deriving DecidableEq, Repr

def Event.name : Event → String
  | .down => "down"
  | .up => "up"

def Event.check (v : Value) : Checked Event :=
  match v with
  | .str "down" => .ok .down
  | .str "up" => .ok .up
  | _ => .fail (.literalError (expected [.str "down", .str "up"])) v

/-- One firing of an alarm. -/
structure Firing where
  id : String
  alarmId : String
  monitorId : String
  event : Event
  firedAt : Moment
  sent : List (String × Bool) := []
  metadata : List (String × Value) := []

namespace Firing

/-- A firing from a document. -/
def check (v : Value) : Checked Firing :=
  (members "AlarmTriggerHistoryRecord" v).andThen fun fs =>
    Firing.mk <$> required fs "id" text
      <*> required fs "alarm_id" text
      <*> required fs "monitor_id" text
      <*> required fs "trigger_event" Event.check
      <*> required fs "triggered_at" moment
      <*> withDefault fs "notifications_sent" [] (mapOf truth)
      <*> withDefault fs "metadata" [] (mapOf Checked.ok)

def toValue (f : Firing) : Value :=
  .obj [("id", .str f.id), ("alarm_id", .str f.alarmId), ("monitor_id", .str f.monitorId),
    ("trigger_event", .str f.event.name), ("triggered_at", .str f.firedAt.recordText),
    ("notifications_sent", .obj (f.sent.map fun (k, b) => (k, .bool b))),
    ("metadata", .obj f.metadata)]

end Firing

def laterOf (a b : Moment) : Except ClockError Moment := do
  if ← a.lt b then pure b else pure a

/-- The time of the last firing of an alarm for an event, if it ever fired. -/
def lastFiring (history : List Firing) (alarmId : String) (event : Event) :
    Except ClockError (Option Moment) :=
  let times := (history.filter fun f => f.alarmId = alarmId ∧ f.event = event).map (·.firedAt)
  match times with
  | [] => .ok none
  | t :: ts => some <$> ts.foldlM laterOf t

end Uptime.Alarm
