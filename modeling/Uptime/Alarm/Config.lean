import Uptime.Schema.Field
/-!
How an alarm is configured: which monitor it watches, where it sends its notifications,
and the conditions that make it fire. A document is checked field by field; absent
optional fields take their defaults, and an alarm without conditions of its own uses the
default conditions (`Config.conditions`).
-/
namespace Uptime.Alarm

open Uptime.Json Uptime.Schema

/-- The ways a notification can travel. -/
inductive Medium where
  | slack
  | discord
  | email
  | webhook
deriving DecidableEq, Repr, Inhabited

namespace Medium

def name : Medium → String
  | .slack => "slack"
  | .discord => "discord"
  | .email => "email"
  | .webhook => "webhook"

def ofName? : String → Option Medium
  | "slack" => some .slack
  | "discord" => some .discord
  | "email" => some .email
  | "webhook" => some .webhook
  | _ => none

def mediumChoices : String := expected (["slack", "discord", "email", "webhook"].map .str)

def check (v : Value) : Checked Medium :=
  match v with
  | .str s => match ofName? s with
    | some m => .ok m
    | none => .fail (.literalError mediumChoices) v
  | _ => .fail (.literalError mediumChoices) v

end Medium

/-- When an alarm fires: after this many failed checks in a row, and not again within
the cooldown. -/
structure Conditions where
  failures : Int := 3
  cooldownMinutes : Int := 5
deriving DecidableEq, Repr

namespace Conditions

def bounded (lo hi : Int) (v : Value) : Checked Int :=
  (whole v).andThen fun n => (atLeast lo v n).andThen (atMost hi v)

/-- Conditions from a document: a threshold from 1 to 10 and a cooldown from 1 to 1440
minutes. -/
def check (v : Value) : Checked Conditions :=
  (members "TriggerConditions" v).andThen fun fs =>
    Conditions.mk <$> withDefault fs "consecutive_failures" 3 (bounded 1 10)
      <*> withDefault fs "cooldown_minutes" 5 (bounded 1 1440)

def toValue (c : Conditions) : Value :=
  .obj [("consecutive_failures", .int c.failures), ("cooldown_minutes", .int c.cooldownMinutes)]

end Conditions

/-- An alarm as configured. -/
structure Config where
  id : String
  name : String
  enabled : Bool := true
  monitorId : String
  triggerType : String := "uptime"
  media : List Medium := []
  slackUrl : Option String := none
  discordUrl : Option String := none
  emails : List String := []
  webhookUrl : Option String := none
  webhookHeaders : List (String × String) := []
  ownConditions : Option Conditions := none
deriving Repr

namespace Config

def conditions (c : Config) : Conditions :=
  c.ownConditions.getD {}

/-- An alarm from a document. -/
def check (v : Value) : Checked Config :=
  (members "AlarmConfig" v).andThen fun fs =>
    Config.mk <$> required fs "id" text
      <*> required fs "name" text
      <*> withDefault fs "enabled" true truth
      <*> required fs "monitor_id" text
      <*> withDefault fs "trigger_type" "uptime" text
      <*> withDefault fs "notification_channels" [] (listOf Medium.check)
      <*> withDefault fs "slack_webhook_url" none (nullable text)
      <*> withDefault fs "discord_webhook_url" none (nullable text)
      <*> withDefault fs "email_addresses" [] (listOf text)
      <*> withDefault fs "webhook_url" none (nullable text)
      <*> withDefault fs "webhook_headers" [] (mapOf text)
      <*> withDefault fs "trigger_conditions" none (nullable Conditions.check)

/-- The record of an alarm. -/
def toValue (c : Config) : Value :=
  .obj [("id", .str c.id), ("name", .str c.name), ("enabled", .bool c.enabled),
    ("monitor_id", .str c.monitorId), ("trigger_type", .str c.triggerType),
    ("notification_channels", .arr (c.media.map fun m => .str m.name)),
    ("slack_webhook_url", Value.ofOptStr c.slackUrl),
    ("discord_webhook_url", Value.ofOptStr c.discordUrl),
    ("email_addresses", .arr (c.emails.map .str)),
    ("webhook_url", Value.ofOptStr c.webhookUrl),
    ("webhook_headers", .obj (c.webhookHeaders.map fun (k, v) => (k, .str v))),
    ("trigger_conditions", (c.ownConditions.map Conditions.toValue).getD .null)]

end Config

end Uptime.Alarm
