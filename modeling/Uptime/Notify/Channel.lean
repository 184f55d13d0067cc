import Uptime.Alarm.Config
import Uptime.Settings
/-!
The channels an alarm notifies through. An alarm names its media in order; each medium
counts once, at its first mention, and only when it has somewhere to go: a Slack,
Discord or webhook address, or for mail a list of recipients and settings that allow
mail. A medium without a destination is left out, not refused.
-/
namespace Uptime.Notify

open Uptime.Json Uptime.Alarm

/-- A mail server account and the people it writes to. -/
structure Mailbox where
  sender : String
  password : String
  recipients : List String
  host : String
  port : Int
  username : String
deriving DecidableEq, Repr

/-- A destination for notifications. -/
inductive Channel where
  | slack (url : String)
  | discord (url : String)
  | webhook (url : String) (headers : List (String × String))
  | email (box : Mailbox)
deriving DecidableEq, Repr

namespace Channel

def medium : Channel → Medium
  | .slack _ => .slack
  | .discord _ => .discord
  | .webhook .. => .webhook
  | .email _ => .email

def name (c : Channel) : String := c.medium.name

/-- The description of a channel: its name and where it delivers. -/
def toValue : Channel → Value
  | .slack url => .obj [("name", .str "slack"), ("url", .str url)]
  | .discord url => .obj [("name", .str "discord"), ("url", .str url)]
  | .webhook url hs =>
    .obj [("name", .str "webhook"), ("url", .str url),
      ("headers", .obj (hs.map fun (k, v) => (k, .str v)))]
  | .email b =>
    .obj [("name", .str "email"), ("sender", .str b.sender), ("password", .str b.password),
      ("recipients", .arr (b.recipients.map .str)), ("host", .str b.host),
      ("port", .int b.port), ("username", .str b.username)]

end Channel

/-- An address, when one is given and not empty. -/
def present : Option String → Option String
  | some s => if s.isEmpty then none else some s
  | none => none

/-- The mail account of the settings writing to `recipients`: the user name defaults
to the sender. -/
def mailboxOf (s : Settings) (recipients : List String) : Mailbox :=
  { sender := s.emailSender, password := s.smtpPassword.getD "", recipients,
    host := s.smtpHost, port := s.smtpPort,
    username := (present s.smtpUsername).getD s.emailSender }

/-- The channel of one medium of an alarm, if it has a destination. -/
def channelOf (a : Config) (s : Settings) : Medium → Option Channel
  | .slack => Channel.slack <$> present a.slackUrl
  | .discord => Channel.discord <$> present a.discordUrl
  | .webhook => (fun url => Channel.webhook url a.webhookHeaders) <$> present a.webhookUrl
  | .email =>
    if !a.emails.isEmpty && s.emailEnabled then some (.email (mailboxOf s a.emails)) else none

/-- The channels of an alarm: each named medium once, in order of first mention, when it
has a destination. -/
def channels (a : Config) (s : Settings) : List Channel :=
  a.media.eraseDups.filterMap (channelOf a s)

end Uptime.Notify
