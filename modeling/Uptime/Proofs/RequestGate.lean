import Uptime.Proofs.Isolation
import Uptime.Service.Requests
/-! Requests to run a check, stage by stage. A request first meets the gate: its signature
must be accepted by the keys of the settings and it must name a schedule (`gate`,
`gate_eq_none_iff`); refused there, it is answered from the request alone and the
service stays as it was. Past the gate the schedule is looked up, and a lookup that fails
changes nothing (`run'_runSchedule`). A schedule found is checked; a check that returns
has its row kept if the row can be written (`run'_writeRow`) and then has the alarms
weighed, which never fails, while a check that fails is answered at once
(`run'_runCheck`). So the alarms are weighed once per request, exactly when its check
returned, against the result with its own streak and previous status, and exactly then
does the request succeed (`handle_acts_past_gate`). -/

namespace Uptime.Service

open Uptime.Monitor Uptime.Store

variable {env : Surroundings} {s : Node}

/-- The service after the row of a result was added to the results file, or as it was
when the row cannot be written. -/
def rowWritten (r : Result) (s : Node) : Node :=
  match appendRow s.disk (Path.ofText s.settings.resultsPath) r with
  | .ok disk => { s with disk }
  | .error _ => s

theorem run'_writeRow (r : Result) : (writeRow r).run' env s = (.ok (), rowWritten r s) := by
  simp only [writeRow, Act.run'_bind, Act.run'_get, rowWritten]
  rcases appendRow s.disk (Path.ofText s.settings.resultsPath) r with e | disk <;> rfl

theorem run'_checkAlarms_ok (m : String) (r : Result) (n : Int) (prev : Option Status) :
    (checkAlarms m r n prev).run' env s = (.ok (), ((checkAlarms m r n prev).run' env s).2) := by
  rw [run'_checkAlarms]
  split
  · rfl
  · exact run'_weighEach _ env s

theorem run'_runCheck (m url : String) (n : Int) (c : Option Extraction.Config) :
    (runCheck m url n c).run' env s = match (checkUptime m url n c).run' env s with
      | (.error f, s₁) => (.ok (.refused "Failed to check uptime" f.message), s₁)
      | (.ok r, s₁) => (.ok (.checked r),
          ((checkAlarms m r r.failureStreak r.previousStatus).run' env (rowWritten r s₁)).2) := by
  unfold runCheck
  rw [Act.run'_bind, Act.run'_attempt]
  rcases (checkUptime m url n c).run' env s with ⟨_ | r, s₁⟩
  · rfl
  · simp only [Act.run'_bind, run'_writeRow]
    rw [run'_checkAlarms_ok]
    rfl


def requestedSchedule (headers : List (String × String)) : String :=
  Text.strip ((headerValue headers "x-schedule-id").getD "")

def signatureCheck (settings : Settings) (headers : List (String × String)) (body : List UInt8) :
    Except Signing.Fault Bool :=
  (Signing.Verifier.ofKeys settings.signingKey settings.nextSigningKey).verify body
    (headerValue headers "x-signature")

/-- The answer a request gets at the gate, unless it gets past: a signature that cannot
be compared fails the request, one that is not accepted refuses it, and so does a
request that names no schedule. -/
def gate (settings : Settings) (headers : List (String × String)) (body : List UInt8) :
    Option (Except Fault Answer) :=
  match signatureCheck settings headers body with
  | .error e => some (.error (.signature e))
  | .ok false => some (.ok (.refused "Invalid signature" "Invalid signature"))
  | .ok true =>
    if (requestedSchedule headers).isEmpty then
      some (.ok (.refused "Schedule ID is required" "Missing or invalid x-schedule-id header"))
    else none

/-- Past the gate go exactly the requests whose signature is accepted and that name a
schedule. -/
theorem gate_eq_none_iff (settings : Settings) (headers : List (String × String))
    (body : List UInt8) :
    gate settings headers body = none ↔
      signatureCheck settings headers body = .ok true ∧ requestedSchedule headers ≠ "" := by
  unfold gate
  rcases signatureCheck settings headers body with e | (_ | _)
  · simp
  · simp
  · by_cases h : requestedSchedule headers = "" <;> simp [h]

/-- A request is answered at the gate, with the service as it was, or runs the schedule it
names. -/
theorem run'_handle (headers : List (String × String)) (body : List UInt8) :
    (handle headers body).run' env s = match gate s.settings headers body with
      | some a => (a, s)
      | none => (runSchedule (requestedSchedule headers)).run' env s := by
  unfold handle gate signatureCheck
  simp only [Act.run'_bind, Act.run'_get, run'_lift]
  rcases (Signing.Verifier.ofKeys s.settings.signingKey s.settings.nextSigningKey).verify body
    (headerValue headers "x-signature") with e | (_ | _)
  · rfl
  · simp only [Except.mapError, Bool.not_false, if_true]
    rfl
  · simp only [Except.mapError, Bool.not_true, Bool.false_eq_true, if_false, requestedSchedule]
    by_cases h : (Text.strip ((headerValue headers "x-schedule-id").getD "")).isEmpty = true
    · simp only [h, if_true]
      rfl
    · simp only [h, Bool.false_eq_true, if_false]

/-- A schedule that cannot be had is answered with the service as it was; a schedule
found is checked. -/
theorem run'_runSchedule (id : String) :
    (runSchedule id).run' env s =
      match findSchedule s.disk (Path.ofText s.settings.schedulesPath) id with
      | .error (.store (.nestedTooDeep r)) => (.error (.store (.nestedTooDeep r)), s)
      | .error e => (.ok (.refused "Schedule not found" e.message), s)
      | .ok sch => (runCheck sch.stateKey sch.url 1 sch.extraction).run' env s := by
  unfold runSchedule
  simp only [Act.run'_bind, Act.run'_get]
  rcases findSchedule s.disk (Path.ofText s.settings.schedulesPath) id with e | sch
  · rcases e with (_ | _ | _ | _ | r) | _ | _ | _ <;> rfl
  · rfl


/-- A request acts only once past the gate. Refused there, it is answered without a look
at any store or at the world, as a failure, and the service stays as it was. Past it, a
schedule that cannot be had is answered with the service as it was, never as a success. A
schedule found is checked: when the check fails, the request fails with the service as
the check left it; when it returns a result, the row is kept if it can be, the alarms are
weighed once, last, against the result with its own streak and previous status, and the
request succeeds with the result. -/
theorem handle_acts_past_gate (headers : List (String × String)) (body : List UInt8)
    (env : Surroundings) (s : Node) :
    (∀ a, gate s.settings headers body = some a →
      (handle headers body).run' env s = (a, s) ∧ ∀ ans, a = .ok ans → ans.success = false) ∧
    (gate s.settings headers body = none ↔
      signatureCheck s.settings headers body = .ok true ∧ requestedSchedule headers ≠ "") ∧
    (gate s.settings headers body = none → ∀ e,
      findSchedule s.disk (Path.ofText s.settings.schedulesPath) (requestedSchedule headers) =
        .error e →
      ((handle headers body).run' env s).2 = s ∧
        ∀ ans, ((handle headers body).run' env s).1 = .ok ans → ans.success = false) ∧
    (gate s.settings headers body = none → ∀ sch,
      findSchedule s.disk (Path.ofText s.settings.schedulesPath) (requestedSchedule headers) =
        .ok sch →
      (handle headers body).run' env s =
        match (checkUptime sch.stateKey sch.url 1 sch.extraction).run' env s with
        | (.error f, s₁) => (.ok (.refused "Failed to check uptime" f.message), s₁)
        | (.ok r, s₁) => (.ok (.checked r),
            ((checkAlarms sch.stateKey r r.failureStreak r.previousStatus).run' env
              (rowWritten r s₁)).2)) := by
  refine ⟨fun a ha => ⟨by rw [run'_handle, ha], ?_⟩, gate_eq_none_iff _ _ _,
    fun hg e he => ?_, fun hg sch hs => ?_⟩
  · -- the gate only refuses
    intro ans hans
    unfold gate at ha
    split at ha
    · cases ha; cases hans
    · cases ha; cases hans; rfl
    · split at ha
      · cases ha; cases hans; rfl
      · cases ha
  · rw [run'_handle, hg]
    dsimp only
    rw [run'_runSchedule, he]
    rcases e with (_ | _ | _ | _ | r) | _ | _ | _
    case store.nestedTooDeep => exact ⟨rfl, fun ans h => by cases h⟩
    all_goals exact ⟨rfl, fun ans h => by cases h; rfl⟩
  · rw [run'_handle, hg]
    dsimp only
    rw [run'_runSchedule, hs]
    dsimp only
    rw [run'_runCheck]

end Uptime.Service
