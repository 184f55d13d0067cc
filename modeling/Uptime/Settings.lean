import Uptime.Schema.Field
import Uptime.Probe.Config
import Uptime.Text.Case
import Uptime.Json.Literal
/-!
The settings of the service, read from an environment of named text values or from
keyword values. In an environment a setting is found by its name in any case, the last of
several spellings winning, and its text is read as the setting's type reads text; among
keywords the exact name counts first, or else the first name that is the same in lower
case, and the value is read as a document value. An
absent setting keeps its default. Issues are placed
at the setting's name in upper case. Mail credentials come in pairs: a user name without
a password, or a password without a user name, is refused as a whole.
-/
namespace Uptime

open Uptime.Json Uptime.Schema Uptime.Text

/-- Everything the service can be configured with. -/
structure Settings where
  region : String := "default"
  environment : String := "prod"
  probeTimeoutSeconds : Float := 30.0
  probeMaxRedirects : Int := 10
  probeCaptureBody : Bool := true
  probeUserAgent : String := Probe.defaultUserAgent
  tlsTimeoutSeconds : Float := 5.0
  ipLookupUrl : String := "https://api.ipify.org?format=json"
  ipLookupTimeoutSeconds : Float := 5.0
  dashboardUrl : String := "https://app.example.com/uptime"
  statePath : String := "state/monitor_state.json"
  alarmsPath : String := "state/alarms.json"
  historyPath : String := "state/trigger_history.jsonl"
  schedulesPath : String := "state/schedules.json"
  resultsPath : String := "state/results.jsonl"
  signingKey : Option String := none
  nextSigningKey : Option String := none
  smtpHost : String := "smtp.gmail.com"
  smtpPort : Int := 465
  smtpUsername : Option String := none
  smtpPassword : Option String := none
  smtpSender : Option String := none

abbrev Environment := List (String × String)

namespace Settings

/-- The value of the setting `name`: the last entry whose name is the same in lower
case. -/
def lookup (env : Environment) (name : String) : Option String :=
  (env.filter fun (k, _) => lower k = lower name).getLast?.map Prod.snd

/-- Where settings are read from: an environment of text values, found by name in any
case, or keyword values, found by their exact name or else by the first name the same
in lower case, and read as document values. -/
inductive Source where
  | environment (env : Environment)
  | keywords (values : List (String × Value))

def Source.find? : Source → String → Option Value
  | .environment env, name => (lookup env name).map .str
  | .keywords values, name =>
    (values.lookup name).orElse fun _ =>
      (values.find? fun (k, _) => lower k = lower name).map Prod.snd

def setting (src : Source) (name : String) (dflt : α) (check : Value → Checked α) :
    Checked α :=
  match src.find? name with
  | none => .ok dflt
  | some v => (check v).under (.key name)

/-- The names of all settings. -/
def names : List String :=
  ["PROBE_REGION", "APP_ENV", "PROBE_TIMEOUT_SECONDS", "PROBE_MAX_REDIRECTS",
   "PROBE_CAPTURE_BODY", "PROBE_USER_AGENT", "TLS_TIMEOUT_SECONDS", "IP_LOOKUP_URL",
   "IP_LOOKUP_TIMEOUT_SECONDS", "DASHBOARD_BASE_URL", "STATE_PATH", "ALARMS_PATH",
   "TRIGGER_HISTORY_PATH", "SCHEDULES_PATH", "RESULTS_PATH", "SIGNING_KEY",
   "NEXT_SIGNING_KEY", "SMTP_HOST", "SMTP_PORT", "SMTP_USERNAME", "SMTP_PASSWORD",
   "SMTP_SENDER"]

def paths (s : Settings) : List String :=
  [s.statePath, s.alarmsPath, s.historyPath, s.schedulesPath, s.resultsPath]

def given : Option String → Bool
  | some s => !s.isEmpty
  | none => false

/-- The rule that a mail user name and password are both given or both left out. The
rule judges the settings as a whole, so the issue holds no single value. -/
def pairedCredentials (s : Settings) : Checked Settings :=
  if given s.smtpUsername = given s.smtpPassword then .ok s
  else .fail (.valueError "Value error, SMTP_USERNAME and SMTP_PASSWORD must be set together") .null

/-- The settings a source gives. -/
def ofSource (src : Source) : Checked Settings :=
  let optional := fun (name : String) => setting src name none (nullable text)
  (Settings.mk <$> setting src "PROBE_REGION" "default" text
    <*> setting src "APP_ENV" "prod" text
    <*> setting src "PROBE_TIMEOUT_SECONDS" 30.0 real
    <*> setting src "PROBE_MAX_REDIRECTS" 10 whole
    <*> setting src "PROBE_CAPTURE_BODY" true truth
    <*> setting src "PROBE_USER_AGENT" Probe.defaultUserAgent text
    <*> setting src "TLS_TIMEOUT_SECONDS" 5.0 real
    <*> setting src "IP_LOOKUP_URL" "https://api.ipify.org?format=json" text
    <*> setting src "IP_LOOKUP_TIMEOUT_SECONDS" 5.0 real
    <*> setting src "DASHBOARD_BASE_URL" "https://app.example.com/uptime" text
    <*> setting src "STATE_PATH" "state/monitor_state.json" text
    <*> setting src "ALARMS_PATH" "state/alarms.json" text
    <*> setting src "TRIGGER_HISTORY_PATH" "state/trigger_history.jsonl" text
    <*> setting src "SCHEDULES_PATH" "state/schedules.json" text
    <*> setting src "RESULTS_PATH" "state/results.jsonl" text
    <*> optional "SIGNING_KEY"
    <*> optional "NEXT_SIGNING_KEY"
    <*> setting src "SMTP_HOST" "smtp.gmail.com" text
    <*> setting src "SMTP_PORT" 465 whole
    <*> optional "SMTP_USERNAME"
    <*> optional "SMTP_PASSWORD"
    <*> optional "SMTP_SENDER").andThen pairedCredentials

def ofEnvironment (env : Environment) : Checked Settings :=
  ofSource (.environment env)

def ofKeywords (values : List (String × Value)) : Checked Settings :=
  ofSource (.keywords values)

def emailEnabled (s : Settings) : Bool :=
  given s.smtpUsername && given s.smtpPassword

/-- The address mail is sent from: the configured sender, else the user name, else
nothing. -/
def emailSender (s : Settings) : String :=
  match s.smtpSender, s.smtpUsername with
  | some a, _ => if a.isEmpty then (s.smtpUsername.getD "") else a
  | none, u => u.getD ""

def probeConfig (s : Settings) : Probe.Config :=
  { timeoutSeconds := s.probeTimeoutSeconds, maxRedirects := s.probeMaxRedirects,
    userAgent := s.probeUserAgent, captureBody := s.probeCaptureBody }

/-- The record of the settings, by field name. -/
def toValue (s : Settings) : Value :=
  .obj [("probe_region", .str s.region), ("app_env", .str s.environment),
    ("probe_timeout_seconds", .float s.probeTimeoutSeconds),
    ("probe_max_redirects", .int s.probeMaxRedirects),
    ("probe_capture_body", .bool s.probeCaptureBody),
    ("probe_user_agent", .str s.probeUserAgent),
    ("tls_timeout_seconds", .float s.tlsTimeoutSeconds),
    ("ip_lookup_url", .str s.ipLookupUrl),
    ("ip_lookup_timeout_seconds", .float s.ipLookupTimeoutSeconds),
    ("dashboard_base_url", .str s.dashboardUrl),
    ("state_path", .str s.statePath), ("alarms_path", .str s.alarmsPath),
    ("trigger_history_path", .str s.historyPath), ("schedules_path", .str s.schedulesPath),
    ("results_path", .str s.resultsPath),
    ("signing_key", .ofOptStr s.signingKey), ("next_signing_key", .ofOptStr s.nextSigningKey),
    ("smtp_host", .str s.smtpHost), ("smtp_port", .int s.smtpPort),
    ("smtp_username", .ofOptStr s.smtpUsername), ("smtp_password", .ofOptStr s.smtpPassword),
    ("smtp_sender", .ofOptStr s.smtpSender)]

end Settings

end Uptime
