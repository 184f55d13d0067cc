import Uptime.Service.Basic
import Uptime.Probe.Run
import Uptime.Probe.Context
import Uptime.Monitor.Result
import Uptime.Time.Epoch
import Uptime.Digest.Sha256
import Uptime.Encoding.Strict
/-!
One check of a monitor, from address to result. The site is checked and the public
address looked up side by side; an error of the check wins over one of the lookup. Then
the monitor's state moves on and is kept, the certificate is inspected, and for a
successful check the body is hashed and, when asked, readings are taken from it. Errors
of the state store, of the certificate, of the hash (a body whose surrogates UTF-8
cannot write) and of the readings fail the check; the state
written before them stays written.
-/
namespace Uptime.Service

open Uptime.Json Uptime.Monitor Uptime.Time

def contentHash (s : String) : String :=
  Digest.hexOf (Digest.sha256 (Digest.utf8 s))

/-- The hexadecimal SHA-256 digest of the UTF-8 bytes of text given by its code points;
text holding surrogates alone has no such bytes. -/
def codesHash (codes : List Nat) : Except Encoding.EncodeError String :=
  (fun bs => Digest.hexOf (Digest.sha256 bs)) <$> Encoding.encodeUtf8 codes

/-- What a check found in a body, if readings are asked for. -/
def readingsOf (s : Probe.Success) : Option Extraction.Config → Act (Option String)
  | none => pure none
  | some c =>
    let body := if s.parsedJson.isNull then Extraction.Body.text s.content
      else .doc s.parsedJson
    (·.map Extraction.stored) <$> lift (Extraction.extract body s.contentType c) .reading

/-- Check a monitor's address now: the result, with the monitor's state kept. -/
def checkUptime (monitorId url : String) (attemptNo : Int) (cfg : Option Extraction.Config) :
    Act Result := do
  let env ← read
  let settings := (← get).settings
  let normalized := Probe.normalizeUrl url
  let (calls, outcome) := Probe.run env.sites settings.probeConfig normalized
  note fun o => { o with probes := o.probes ++ calls }
  let outcome ← lift outcome .exchange
  let (_, ip) ← lift (Probe.lookupIp env.lookup settings.ipLookupUrl) .exchange
  let previous ← stateOf monitorId
  let status := if outcome.ok then Status.up else .down
  let state := State.next monitorId status previous env.now
  keepState state
  let (_, cert) ← lift (Certificate.inspect normalized env.certificates env.now) fun
    | .address e => .address e
    | .clock e => .clock e
  let base : Result :=
    { monitorId, url := normalized, timestamp := env.now.epochMillis, status,
      httpCode := 0, ttfbMs := 0, totalMs := 0, attempt := attemptNo,
      failureStreak := state.failures, probeRegion := settings.region, probeIp := ip,
      sslExpiry := cert.expiry, sslValid := if cert.valid then 1 else 0,
      env := settings.environment, userAgent := settings.probeUserAgent,
      previousStatus := previous.map (·.status) }
  match outcome with
  | .failure f =>
    pure
      { base with
        httpCode := f.status, ttfbMs := f.ttfbMs, totalMs := f.totalMs, error := f.error }
  | .success s =>
    let hash ← match s.unencodable with
      | some e => fail (.exchange ⟨"UnicodeEncodeError", e.message⟩)
      | none => pure (contentHash s.content)
    let readings ← readingsOf s cfg
    pure
      { base with
        httpCode := s.status, ttfbMs := s.ttfbMs, totalMs := s.totalMs,
        responseBytes := s.responseBytes, contentHash := hash,
        redirectCount := s.redirects, jsonData := readings }

end Uptime.Service
