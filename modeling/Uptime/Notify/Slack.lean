import Uptime.Notify.Payload
/-!
The body a Slack webhook receives for a notification: a plain-text header with the
title, a section with the message and the details (`*Label:* value`, one per line, the
two parts a blank line apart when both are there), and for an urgent notification a
context line marking it urgent. The fallback text is the title and the message.
-/
namespace Uptime.Notify

open Uptime.Json

/-- The section text: the message and the details, the empty ones left out. -/
def slackText (p : Payload) : String :=
  let details := "\n".intercalate (p.items.map fun (label, value) => "*" ++ label ++ ":* " ++ value)
  "\n\n".intercalate ([p.message, details].filter (!·.isEmpty))

/-- The Slack body of a notification. -/
def slackBody (p : Payload) : Value :=
  let header : Value := .obj [("type", .str "header"),
    ("text", .obj [("type", .str "plain_text"), ("text", .str p.title), ("emoji", .bool true)])]
  let body : Value := .obj [("type", .str "section"),
    ("text", .obj [("type", .str "mrkdwn"), ("text", .str (slackText p))])]
  let context : List Value := match p.priority with
    | .urgent => [.obj [("type", .str "context"),
        ("elements", .arr [.obj [("type", .str "mrkdwn"), ("text", .str "`urgent`")]])]]
    | .normal => []
  .obj [("text", .str (p.title ++ "\n" ++ p.message)), ("blocks", .arr ([header, body] ++ context))]

end Uptime.Notify
