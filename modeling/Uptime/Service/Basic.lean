import Uptime.Settings
import Uptime.Store.States
import Uptime.Store.Alarms
import Uptime.Store.Schedules
import Uptime.Store.Results
import Uptime.Http.Exchange
import Uptime.Notify.Channel
import Uptime.Notify.Email
import Uptime.Certificate
import Uptime.Extraction
import Uptime.Signing
import Uptime.Url.Split
/-!
The uptime service as a whole: its settings, the disk it keeps files on, where it keeps
monitor states and alarms, and what it has sent out. A step of the service reads the
world around it (the time, the sites it checks, the address lookup, certificates, the
notification endpoints and the mail server) from `Surroundings`, changes the service,
and may fail with a `Fault`. A failure keeps the changes made before it: a state
written before a later error stays written.
-/
namespace Uptime.Service

open Uptime.Json Uptime.Http Uptime.Store Uptime.Alarm Uptime.Notify Uptime.Time

/-- A notification request that reached an endpoint. -/
structure Post where
  url : String
  headers : Headers
  body : Value

/-- An email the mail server accepted, with the account it was sent through. -/
structure Letter where
  box : Mailbox
  email : Email

/-- What the service has sent out and recorded. -/
structure Outbox where
  probes : List Request := []
  posts : List Post := []
  letters : List Letter := []
  firings : List Firing := []

/-- How the mail server treats a delivery. -/
inductive MailServer where
  | accepting
  | unreachable
  | refusingLogin
deriving DecidableEq, Repr

/-- The world around the service during one step. -/
structure Surroundings where
  now : Moment
  sites : Request → Except Failure Response
  lookup : Request → Except Failure Response
  certificates : Certificate.Peer → Certificate.Fetched
  endpoints : Request → Except Failure Response
  mail : MailServer

def unreachable : Failure := ⟨"ConnectError", "All connection attempts failed"⟩

/-- Surroundings without a network: every exchange fails to connect and no certificate
can be fetched; mail goes to a server that treats it as `mail` says. -/
def Surroundings.offline (now : Moment) (mail : MailServer) : Surroundings :=
  { now, sites := fun _ => .error unreachable, lookup := fun _ => .error unreachable,
    certificates := fun _ => .nothing, endpoints := fun _ => .error unreachable, mail }

/-- A running node of the service and everything it keeps. -/
structure Node where
  settings : Settings
  disk : Disk
  states : StateStore
  alarms : AlarmStore
  /-- whether an outage is dated by the stored state rather than by the check -/
  outageFromStates : Bool := true
  outbox : Outbox := {}

/-- Why a step of the service failed. -/
inductive Fault where
  /-- an exchange failed in a way its caller does not absorb -/
  | exchange (f : Failure)
  | store (e : StoreError)
  | io (e : IoError)
  | clock (e : ClockError)
  | address (e : Url.SplitError)
  | reading (e : Extraction.Fault)
  | signature (e : Signing.Fault)

/-- The words of a fault. -/
def Fault.message : Fault → String
  | .exchange f => f.message
  | .store e => e.message
  | .io e => e.message
  | .clock e => e.message
  | .address e => e.message
  | .reading e => e.message
  | .signature e => e.message

abbrev Act := ReaderT Surroundings (ExceptT Fault (StateM Node))

/-- Run a step in surroundings from a service: its result or fault, and the service
after it. -/
def Act.run' (a : Act α) (env : Surroundings) (s : Node) : Except Fault α × Node :=
  ((a.run env).run).run s

def fail (f : Fault) : Act α := throw f

def lift (r : Except ε α) (f : ε → Fault) : Act α :=
  match r with
  | .ok a => pure a
  | .error e => fail (f e)

/-- Run a step and keep its failure as a value; the service keeps what the step
changed. -/
def attempt (a : Act α) : Act (Except Fault α) :=
  tryCatch (Except.ok <$> a) fun e => pure (.error e)

def now : Act Moment := do return (← read).now

def note (f : Outbox → Outbox) : Act Unit :=
  modify fun s => { s with outbox := f s.outbox }

def stateOf (monitorId : String) : Act (Option Monitor.State) := do
  let s ← get
  lift (s.states.get s.disk monitorId) .store

def keepState (st : Monitor.State) : Act Unit := do
  let s ← get
  let (states, disk) ← lift (s.states.put s.disk st) .store
  set { s with states, disk }

def alarmsOf (monitorId triggerType : String) : Act (List Config) := do
  let s ← get
  lift (s.alarms.enabledAlarms s.disk monitorId triggerType) .store

def lastFired (alarmId : String) (event : Event) : Act (Option Moment) := do
  let s ← get
  lift (s.alarms.lastFired s.disk alarmId event) fun
    | .io e => .io e
    | .clock e => .clock e

def recordFiring (f : Firing) : Act Unit := do
  let s ← get
  let (alarms, disk) ← lift (s.alarms.record s.disk f) .io
  set { s with alarms, disk }
  note fun o => { o with firings := o.firings ++ s.alarms.recorded s.disk disk f }

/-- Start a service: make the directories its files go in. Kept state goes to files
when `persistent`, to memory otherwise; results always go to a file. -/
def Node.start (settings : Settings) (persistent outageFromStates : Bool) (disk : Disk) :
    Except IoError Node := do
  let statePath := Path.ofText settings.statePath
  let historyPath := Path.ofText settings.historyPath
  let disk ← if persistent then disk.mkdirs statePath.parent else pure disk
  let disk ← if persistent then disk.mkdirs historyPath.parent else pure disk
  let disk ← disk.mkdirs (Path.ofText settings.resultsPath).parent
  pure { settings, disk, outageFromStates,
         states := if persistent then .file statePath else .memory [],
         alarms := if persistent then .files (Path.ofText settings.alarmsPath) historyPath
           else .memory [] [] }

end Uptime.Service
