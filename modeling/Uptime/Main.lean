import Uptime.Cli.Session
import Std.Time.DateTime.Timestamp
/-!
The `uptime-check` program. It reads the settings named in `Settings.names` from its
process, in upper or lower case, with the names the settings file `.env` refers to,
and the settings file itself; it loads the files the
service keeps, runs the command, writes back the files that changed and prints the
answer. This program has no network transport: every exchange it would make fails to
connect, and mail cannot be delivered.
-/
open Uptime Uptime.Store Uptime.Service

/-- The text of a file, if it can be read. -/
def readText? (path : String) : IO (Option String) := do
  try
    return some (← IO.FS.readFile path)
  catch _ =>
    return none

/-- The named values the process holds: the settings, in upper or lower case, and the
names in `extra`. -/
def processEnvironment (extra : List String) : IO Environment := do
  let mut env : Environment := []
  let names := (Settings.names.flatMap fun n => [n, n.toLower]) ++ extra
  for name in names.eraseDups do
    if let some v ← IO.getEnv name then
      env := env ++ [(name, v)]
  return env

/-- The disk with the files at `paths` that can be read, and their directories. -/
def loadDisk (paths : List String) : IO Disk := do
  let mut disk : Disk := {}
  for path in paths do
    if let some text ← readText? path then
      let p := Path.ofText path
      if let .ok d := (disk.mkdirs p.parent).bind (·.write p text) then
        disk := d
  return disk

/-- Make the directories and write the files of `after` that `before` lacks or holds
with other text. -/
def saveDisk (before after : Disk) : IO Unit := do
  for p in after.dirs do
    unless before.isDir p do
      IO.FS.createDirAll p.text
  for (p, text) in after.files do
    unless before.file? p = some text do
      IO.FS.writeFile p.text text

def currentMoment : IO Time.Moment := do
  let t ← Std.Time.Timestamp.now
  return Time.Moment.ofUtcMicros (t.toNanosecondsSinceUnixEpoch.val / 1000)

def usage : String := "usage: uptime-check [-h] \x7bcheck,schedule\x7d ..."

/-- Run the program. -/
def main (args : List String) : IO UInt32 := do
  let dotenv ← loadDisk [".env"]
  let referred := match dotenv.file? (Path.ofText ".env") with
    | some text => (Settings.dotenvBindings text).flatMap fun (_, v) =>
      (v.map Settings.referencedNames).getD []
    | none => []
  let process ← processEnvironment referred
  let paths := match (Settings.ofEnvironment (Cli.environmentWith process dotenv)).run with
    | .ok s => s.paths
    | .error _ => []
  let before ← loadDisk (".env" :: paths)
  let now ← currentMoment
  let ending := Cli.session args process before (Surroundings.offline now .unreachable)
  match ending with
  | .left code =>
    if code = 0 then IO.println usage else IO.eprintln usage
  | .unconfigured issues =>
    IO.eprintln (toString issues.length ++ " validation errors for Settings")
  | .unplaced e => IO.eprintln e.message
  | .failed f svc =>
    saveDisk before svc.disk
    IO.eprintln f.message
  | .answered a svc =>
    saveDisk before svc.disk
    IO.print (Cli.printed a)
  return ending.exitCode.toUInt32
