import Uptime.Notify.Payload
/-!
The body a Discord webhook receives for a notification: one embed with the title (at
most 256 characters), the message, a colour for the priority, and at most 25 details
as inline fields, each value at most 1024 characters.
-/
namespace Uptime.Notify

open Uptime.Json

def urgentColor : Nat := 0xE74C3C

def normalColor : Nat := 0x2ECC71

def maxEmbedFields : Nat := 25

def clip (n : Nat) (s : String) : String := String.ofList (s.toList.take n)

/-- The Discord body of a notification. -/
def discordBody (p : Payload) : Value :=
  let fields := (p.items.take maxEmbedFields).map fun (label, value) =>
    Value.obj [("name", .str label), ("value", .str (clip 1024 value)), ("inline", .bool true)]
  let color := match p.priority with
    | .urgent => urgentColor
    | .normal => normalColor
  .obj [("embeds", .arr [.obj [("title", .str (clip 256 p.title)),
    ("description", .str p.message), ("color", .int color), ("fields", .arr fields)]])]

end Uptime.Notify
