import Uptime.Extraction
/-!
A scheduled check: the address to check, the monitor whose state it updates (the
schedule's own id when none is named, or when the name is empty), and how readings are
taken from the body, if at all.
-/
namespace Uptime.Monitor

open Uptime.Json Uptime.Schema

/-- A scheduled check. -/
structure Schedule where
  id : String
  url : String
  monitorId : Option String := none
  extraction : Option Extraction.Config := none

namespace Schedule

def check (v : Value) : Checked Schedule :=
  (members "MonitorSchedule" v).andThen fun fs =>
    Schedule.mk <$> required fs "id" text
      <*> required fs "url" text
      <*> withDefault fs "monitor_id" none (nullable text)
      <*> withDefault fs "json_parsing_config" none (nullable Extraction.Config.check)

def toValue (s : Schedule) : Value :=
  .obj [("id", .str s.id), ("url", .str s.url), ("monitor_id", .ofOptStr s.monitorId),
    ("json_parsing_config", match s.extraction with
      | some c => c.toValue
      | none => .null)]

def stateKey (s : Schedule) : String :=
  match s.monitorId with
  | some m => if m.isEmpty then s.id else m
  | none => s.id

end Schedule

end Uptime.Monitor
