import Uptime.Notify.Payload
import Uptime.Text.Lines
import Uptime.Mail.Header
/-!
The email sent for a notification. The subject is the title after `[Uptime Alert]`,
with `[urgent]` for an urgent one; the text is the message, then after a blank line
one `Label: value` line per detail. Header values may not hold a line break inside
them. The sender and the recipients are address headers and the subject an
unstructured one: the email keeps them as a message shows them once parsed
(`Mail.addressHeader`, `Mail.unstructuredHeader`). The text is stored with `\n` line
ends and a final line end.
-/
namespace Uptime.Notify

open Uptime.Text

/-- An email ready to send, its headers as the message shows them. -/
structure Email where
  sender : String
  «to» : String
  subject : String
  /-- the text, with `\n` line ends and a final line end -/
  content : String
deriving DecidableEq, Repr

/-- Why an email cannot be composed: a header value with a line break inside, or one the
header parser fails on, by the class and message of its exception. -/
inductive EmailError where
  | lineBreakInHeader
  | header (cls : String) (msg : String)
deriving DecidableEq, Repr

def EmailError.message : EmailError → String
  | .lineBreakInHeader => "Header values may not contain linefeed or carriage return characters"
  | .header _ m => m

def EmailError.kind : EmailError → String
  | .lineBreakInHeader => "ValueError"
  | .header c _ => c

def emailSubject (p : Payload) : String :=
  match p.priority with
  | .urgent => "[Uptime Alert][urgent] " ++ p.title
  | .normal => "[Uptime Alert] " ++ p.title

def emailText (p : Payload) : String :=
  let details := p.items.map fun (label, value) => label ++ ": " ++ value
  "\n".intercalate (p.message :: (if details.isEmpty then [] else "" :: details))

def withLineEnds (s : String) : String :=
  "\n".intercalate (splitByteLines s) ++ "\n"

def checkHeader (value : String) : Except EmailError Unit :=
  if (splitLines value).length > 1 then .error .lineBreakInHeader else .ok ()

def shownHeader (parse : String → Except Mail.Fault String) (value : String) :
    Except EmailError String := do
  checkHeader value
  match parse value with
  | .ok shown => pure shown
  | .error f => throw (.header f.exception.1 f.exception.2)

/-- Compose the email of a notification; the sender, the recipients and the subject
are set as headers in that order. -/
def Email.compose (sender : String) (recipients : List String) (p : Payload) :
    Except EmailError Email := do
  let shownSender ← shownHeader Mail.addressHeader sender
  let shownTo ← shownHeader Mail.addressHeader (", ".intercalate recipients)
  let shownSubject ← shownHeader Mail.unstructuredHeader (emailSubject p)
  pure ⟨shownSender, shownTo, shownSubject, withLineEnds (emailText p)⟩

end Uptime.Notify
