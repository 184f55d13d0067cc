import Uptime.Store.Document
import Uptime.Alarm.Config
import Uptime.Alarm.History
import Uptime.Text.Lines
/-!
Where alarms and their firings are kept: in memory, or in two files. The alarm file
holds a JSON list; anything else lists no alarms, and an entry that does not fit the
model is skipped. The history file holds one firing per line; blank lines and lines that
are not a firing are skipped, among them lines with a surrogate escaped alone, and a
firing is added as a new last line.
-/
namespace Uptime.Store

open Uptime.Json Uptime.Alarm Uptime.Text Uptime.Time

/-- A keeper of alarms and of their firings. -/
inductive AlarmStore where
  | memory (alarms : List Config) (history : List Firing)
  | files (alarmsPath historyPath : Path)

/-- Why the history of firings could not be searched. -/
inductive HistoryError where
  | io (e : IoError)
  | clock (e : ClockError)

namespace AlarmStore

def storedAlarms (d : Disk) (p : Path) : Except StoreError (List Config) := do
  match ← readDocument d p (.arr []) with
  | .arr items => pure (items.filterMap fun v => match (Config.check v).run with
      | .ok a => some a
      | .error _ => none)
  | _ => pure []

/-- The firings a history file records, those that fit the model. -/
def storedFirings (d : Disk) (p : Path) : Except IoError (List Firing) := do
  if !d.occupied p then return []
  let text ← d.read p
  pure ((splitLines text).filterMap fun line =>
    if (strip line).isEmpty then none
    else match Value.readScalars line with
      | .ok v => match (Firing.check v).run with
        | .ok f => some f
        | .error _ => none
      | .error _ => none)

def enabledAlarms (s : AlarmStore) (d : Disk) (monitorId triggerType : String) :
    Except StoreError (List Config) := do
  let alarms ← match s with
    | .memory alarms _ => pure alarms
    | .files p _ => storedAlarms d p
  pure (alarms.filter fun a => a.enabled && a.monitorId == monitorId && a.triggerType == triggerType)

/-- When an alarm last fired for an event, if it ever did. -/
def lastFired (s : AlarmStore) (d : Disk) (alarmId : String) (event : Event) :
    Except HistoryError (Option Moment) := do
  let history ← match s with
    | .memory _ history => pure history
    | .files _ p => (storedFirings d p).mapError .io
  (lastFiring history alarmId event).mapError .clock

def record (s : AlarmStore) (d : Disk) (f : Firing) : Except IoError (AlarmStore × Disk) :=
  match s with
  | .memory alarms history => .ok (.memory alarms (history ++ [f]), d)
  | .files _ p => do
    let d' ← d.append p (logLine f.toValue)
    pure (s, d')

/-- The firings the store gives back as added when the disk went from `before` to `after`
by recording `f`: `f` itself in memory; from a file, the firings read after as many as
were read before, each as its line reads back. -/
def recorded (s : AlarmStore) (before after : Disk) (f : Firing) : List Firing :=
  match s with
  | .memory _ _ => [f]
  | .files _ p =>
    match storedFirings before p, storedFirings after p with
    | .ok old, .ok new => new.drop old.length
    | _, _ => []

end AlarmStore

end Uptime.Store
