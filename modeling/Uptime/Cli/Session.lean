import Uptime.Cli
import Uptime.Settings.Dotenv
import Uptime.Service.Requests
/-!
One run of the checker from its command line. The command line is read first; then the
settings, from the named values of the process and from the settings file `.env`, the
process winning; then the service starts on the files at the configured paths, with
its states and alarms kept in files, and runs the command. The answer is printed as
JSON, indented by two spaces with keys sorted, and the run ends with code 0 when the
check was made and 1 when it was refused.
-/
namespace Uptime.Cli

open Uptime.Json Uptime.Schema Uptime.Store Uptime.Service

/-- The settings a run sees: those of the settings file, its references expanded
against the process, then those of the process, so that the process wins. -/
def environmentWith (process : Environment) (disk : Disk) : Environment :=
  let file := match disk.file? (Path.ofText ".env") with
    | some text => Settings.dotenvEntries process text
    | none => []
  file ++ process

/-- How a run of the checker ends. -/
inductive Ending where
  /-- the command line asked for help or could not be read -/
  | left (code : Nat)
  /-- the settings do not fit -/
  | unconfigured (issues : List Issue)
  /-- the directories for the files could not be made -/
  | unplaced (e : IoError)
  /-- the command failed outside the answer -/
  | failed (f : Service.Fault) (svc : Node)
  /-- the command was answered -/
  | answered (a : Answer) (svc : Node)

/-- The exit code of a run: the code the command line left with, 1 for a failure or a
refused check, 0 for a check that was made. -/
def Ending.exitCode : Ending → Nat
  | .left code => code
  | .answered a _ => if a.success then 0 else 1
  | _ => 1

def printed (a : Answer) : String := storedText a.toValue

def Command.act : Command → Act Answer
  | .check monitorId url attempt => runCheck monitorId url attempt none
  | .schedule scheduleId => runSchedule scheduleId

/-- Run the checker on a command line, with the named values of the process, the files
on disk and the world around it. -/
def session (argv : List String) (process : Environment) (disk : Disk)
    (world : Surroundings) : Ending :=
  match read argv with
  | .leave code => .left code
  | .command c =>
    match (Settings.ofEnvironment (environmentWith process disk)).run with
    | .error issues => .unconfigured issues
    | .ok settings =>
      match Node.start settings true true disk with
      | .error e => .unplaced e
      | .ok svc =>
        match c.act.run' world svc with
        | (.ok a, svc) => .answered a svc
        | (.error f, svc) => .failed f svc

end Uptime.Cli
