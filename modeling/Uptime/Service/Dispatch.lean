import Uptime.Service.Basic
import Uptime.Notify.Slack
import Uptime.Notify.Discord
import Uptime.Http.Script
import Uptime.Http.Status
import Uptime.Url.Normal
/-!
Sending a notification through an alarm's channels. Slack, Discord and webhooks get a
JSON `POST`: it is sent when its address can be read and its headers are ASCII, and it
is delivered when the endpoint answers with a status from 200 to 299. Mail is delivered
when the email can be composed and the server accepts the login. A channel that fails
does not stop the others: each is reported delivered or not, by name.
-/
namespace Uptime.Service

open Uptime.Json Uptime.Http Uptime.Notify Uptime.Url Uptime.Store

/-- The headers of a notification request besides those every request carries: the
given ones with their names in lower case, the values of a repeated name joined by
`, `, and JSON as the content type unless one is given. -/
def postHeaders (extra : List (String × String)) : Headers :=
  let merged := extra.foldl (fun (acc : Headers) (k, v) =>
    let k := k.toLower
    match acc.lookup k with
    | some old => putEntry acc k (old ++ ", " ++ v)
    | none => acc ++ [(k, v)]) []
  if merged.any (·.1 = "content-type") then merged
  else merged ++ [("content-type", "application/json")]

/-- Post a document to an endpoint; whether it was delivered. -/
def postJson (url : String) (body : Value) (extra : List (String × String)) : Act Bool := do
  match Address.parse url with
  | .error _ => pure false
  | .ok addr =>
    if (headerFault? extra).isSome then return false
    let req : Request := ⟨"POST", addr.sent⟩
    note fun o => { o with posts := o.posts ++ [⟨req.url, postHeaders extra, body⟩] }
    match (← read).endpoints req with
    | .error _ => pure false
    | .ok resp => pure (isSuccess resp.status)

/-- Mail a notification from an account; whether the server accepted it. -/
def mail (box : Mailbox) (p : Payload) : Act Bool := do
  match Email.compose box.sender box.recipients p with
  | .error _ => pure false
  | .ok email =>
    match (← read).mail with
    | .accepting =>
      note fun o => { o with letters := o.letters ++ [⟨box, email⟩] }
      pure true
    | _ => pure false

/-- Send a notification through one channel; whether it was delivered. -/
def deliver (p : Payload) : Channel → Act Bool
  | .slack url => postJson url (slackBody p) []
  | .discord url => postJson url (discordBody p) []
  | .webhook url hs => postJson url p.toValue hs
  | .email box => mail box p

/-- Send a notification through each channel in turn: each channel's name and whether
it was delivered. -/
def dispatch (p : Payload) (channels : List Channel) : Act (List (String × Bool)) :=
  channels.mapM fun c => (fun ok => (c.name, ok)) <$> deliver p c

end Uptime.Service
