import Uptime.Alarm.Config
import Uptime.Alarm.History
import Uptime.Alarm.Notice
import Uptime.Alarm.Rules
import Uptime.Certificate
import Uptime.Cli
import Uptime.Cli.Session
import Uptime.Codec.Base64
import Uptime.Codec.Inflate
import Uptime.Decimal.Dyadic
import Uptime.Decimal.Integral
import Uptime.Decimal.Literal
import Uptime.Decimal.Shortest
import Uptime.Digest.Hmac
import Uptime.Digest.Sha256
import Uptime.Encoding.Big5
import Uptime.Encoding.CharacterName
import Uptime.Encoding.Chinese
import Uptime.Encoding.Codec
import Uptime.Encoding.EastAsian
import Uptime.Encoding.Escapes
import Uptime.Encoding.Iso2022
import Uptime.Encoding.Japanese
import Uptime.Encoding.JisPlaneTwo
import Uptime.Encoding.Korean
import Uptime.Encoding.MultiByte
import Uptime.Encoding.NameTable
import Uptime.Encoding.Names
import Uptime.Encoding.Piece
import Uptime.Encoding.SingleByte
import Uptime.Encoding.Strict
import Uptime.Encoding.Utf
import Uptime.Extraction
import Uptime.Http.Charset
import Uptime.Http.Exchange
import Uptime.Http.Params
import Uptime.Http.Script
import Uptime.Http.Status
import Uptime.Idna.Bidi
import Uptime.Idna.Classes
import Uptime.Idna.Label
import Uptime.Json.Literal
import Uptime.Json.Read
import Uptime.Json.Value
import Uptime.Json.Write
import Uptime.Mail.Address
import Uptime.Mail.EncodedWord
import Uptime.Mail.Glyph
import Uptime.Mail.Header
import Uptime.Mail.Token
import Uptime.Mail.Words
import Uptime.Main
import Uptime.Monitor.Result
import Uptime.Monitor.Schedule
import Uptime.Monitor.State
import Uptime.Monitor.Status
import Uptime.Notify.Channel
import Uptime.Notify.Delivery
import Uptime.Notify.Discord
import Uptime.Notify.Email
import Uptime.Notify.Payload
import Uptime.Notify.Slack
import Uptime.Probe.Config
import Uptime.Probe.Context
import Uptime.Probe.Outcome
import Uptime.Probe.Run
import Uptime.Proofs.AgeWords
import Uptime.Proofs.CertificateInspection
import Uptime.Proofs.Channels
import Uptime.Proofs.CheckReadings
import Uptime.Proofs.CheckStages
import Uptime.Proofs.Cooldown
import Uptime.Proofs.DownFiring
import Uptime.Proofs.Flattening
import Uptime.Proofs.HistoryFile
import Uptime.Proofs.Isolation
import Uptime.Proofs.Outage
import Uptime.Proofs.Overlap
import Uptime.Proofs.ProbeOutcomes
import Uptime.Proofs.ReadBack
import Uptime.Proofs.Reading
import Uptime.Proofs.ReadingPaths
import Uptime.Proofs.Redirects
import Uptime.Proofs.Rounding
import Uptime.Proofs.RequestGate
import Uptime.Proofs.Signatures
import Uptime.Proofs.StateFile
import Uptime.Proofs.Step
import Uptime.Proofs.Streak
import Uptime.Schema.Field
import Uptime.Schema.Issue
import Uptime.Service.Basic
import Uptime.Service.Check
import Uptime.Service.Dispatch
import Uptime.Service.Engine
import Uptime.Service.Requests
import Uptime.Settings
import Uptime.Settings.Dotenv
import Uptime.Signing
import Uptime.Store.Alarms
import Uptime.Store.Disk
import Uptime.Store.Document
import Uptime.Store.Results
import Uptime.Store.Schedules
import Uptime.Store.States
import Uptime.Text.Blank
import Uptime.Text.Case
import Uptime.Text.CaseRole
import Uptime.Text.CombiningClass
import Uptime.Text.Decomposition
import Uptime.Text.Digit
import Uptime.Text.Integer
import Uptime.Text.Lines
import Uptime.Text.Nfc
import Uptime.Text.Printable
import Uptime.Text.Quoted
import Uptime.Text.Runs
import Uptime.Text.Search
import Uptime.Time.Epoch
import Uptime.Time.Iso
import Uptime.Time.Moment
import Uptime.Time.Record
import Uptime.Time.Span
import Uptime.Url.Ip
import Uptime.Url.Join
import Uptime.Url.Normal
import Uptime.Url.Punycode
import Uptime.Url.Split
