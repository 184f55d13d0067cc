import Uptime.Proofs.Step
/-! The stages of a check. A check probes the site and looks up the public address; a
failure of either ends it with nothing kept but the probe's requests. Then it reads the
monitor's state and writes the next one (`Kept`), and only after that inspects the
certificate, hashes the body and takes readings (`TailFault`). So a check that fails has
either kept nothing, or kept the new state and failed in that tail
(`checkUptime_fails_early_or_writes_once`). -/

namespace Uptime.Probe

def Outcome.status (o : Outcome) : Monitor.Status := if o.ok then .up else .down

end Uptime.Probe

namespace Uptime.Service

open Uptime.Monitor Uptime.Store

variable {env : Surroundings} {s : Node} {m url : String} {n : Int}
  {cfg : Option Extraction.Config}

def Node.probing (s : Node) (calls : List Http.Request) : Node :=
  { s with outbox := { s.outbox with probes := s.outbox.probes ++ calls } }

@[simp] theorem Node.probing_states (s : Node) (calls : List Http.Request) :
    (s.probing calls).states = s.states := rfl

@[simp] theorem Node.probing_disk (s : Node) (calls : List Http.Request) :
    (s.probing calls).disk = s.disk := rfl

/-- What a check of `m` at `url` does up to its write: the probe's outcome `o`, the
address `ip` looked up, the state `prev` read, and the write of the next state, which
leaves the store `states` on the disk `disk`. -/
structure Kept (m url : String) (env : Surroundings) (s : Node) (o : Probe.Outcome)
    (ip : String) (prev : Option State) (states : StateStore) (disk : Disk) : Prop where
  probe : (Probe.run env.sites s.settings.probeConfig (Probe.normalizeUrl url)).2 = .ok o
  lookup : ∃ calls, Probe.lookupIp env.lookup s.settings.ipLookupUrl = .ok (calls, ip)
  read : s.states.get s.disk m = .ok prev
  write : s.states.put s.disk (State.next m o.status prev env.now) = .ok (states, disk)

/-- What can fail once the state is written: the certificate inspection, the hash of a
body that UTF-8 cannot write, and the readings of a body. -/
def TailFault (url : String) (cfg : Option Extraction.Config) (env : Surroundings)
    (o : Probe.Outcome) : Prop :=
  (∃ e, Certificate.inspect (Probe.normalizeUrl url) env.certificates env.now = .error e) ∨
    ∃ x, o = .success x ∧ (x.unencodable.isSome ∨ ∃ c e, cfg = some c ∧
      Extraction.extract (if x.parsedJson.isNull then .text x.content else .doc x.parsedJson)
        x.contentType c = .error e)

/-- A check fails before its write, having changed nothing but the requests noted, or it
gets through the write. -/
theorem checkUptime_run'_cases (m url : String) (n : Int) (cfg : Option Extraction.Config)
    (env : Surroundings) (s : Node) :
    (∃ e, (checkUptime m url n cfg).run' env s =
      (.error e, s.probing (Probe.run env.sites s.settings.probeConfig
        (Probe.normalizeUrl url)).1)) ∨
    ∃ o ip prev states disk, Kept m url env s o ip prev states disk := by
  simp only [checkUptime, Act.run'_bind, Act.run'_read, Act.run'_get, run'_note, run'_lift,
    run'_stateOf, run'_keepState]
  rcases hP : (Probe.run env.sites s.settings.probeConfig (Probe.normalizeUrl url)).2
    with f | o
  · exact .inl ⟨.exchange f, by simp [Except.mapError, Node.probing]⟩
  rcases hL : Probe.lookupIp env.lookup s.settings.ipLookupUrl with f | ⟨calls, ip⟩
  · exact .inl ⟨.exchange f, by simp [Except.mapError, Node.probing]⟩
  rcases hG : s.states.get s.disk m with e | prev
  · exact .inl ⟨.store e, by simp [hG, Except.mapError, Node.probing]⟩
  rcases hW : s.states.put s.disk (State.next m o.status prev env.now) with e | ⟨states, disk⟩
  · simp only [Probe.Outcome.status] at hW
    exact .inl ⟨.store e, by simp [hG, hW, Except.mapError, Node.probing]⟩
  · exact .inr ⟨o, ip, prev, states, disk, hP, ⟨calls, hL⟩, hG, hW⟩

/-- Once through the write, a check ends on the written store whatever follows; it returns
exactly when nothing in the tail fails, and then reports the state it wrote. -/
theorem checkUptime_run'_of_kept (n : Int) (cfg : Option Extraction.Config) {o : Probe.Outcome}
    {ip : String} {prev : Option State} {states : StateStore} {disk : Disk}
    (hk : Kept m url env s o ip prev states disk) :
    let run := (checkUptime m url n cfg).run' env s
    run.2 = { (s.probing (Probe.run env.sites s.settings.probeConfig
      (Probe.normalizeUrl url)).1) with states, disk } ∧
    ((∃ r, run.1 = .ok r) ↔ ¬ TailFault url cfg env o) ∧
    ∀ r, run.1 = .ok r → r.monitorId = m ∧ r.url = Probe.normalizeUrl url ∧
      r.timestamp = env.now.epochMillis ∧ r.status = o.status ∧
      r.failureStreak = (State.next m o.status prev env.now).failures ∧
      r.previousStatus = prev.map (·.status) := by
  obtain ⟨hP, ⟨calls, hL⟩, hG, hW⟩ := hk
  simp only [Probe.Outcome.status] at hW
  simp only [checkUptime, Act.run'_bind, Act.run'_read, Act.run'_get, run'_note, run'_lift,
    run'_stateOf, run'_keepState, hP, hL, hG, hW, Except.mapError]
  rcases hI : Certificate.inspect (Probe.normalizeUrl url) env.certificates env.now
    with e | ⟨peer, cert⟩
  · simp [TailFault, hI, Node.probing]
  cases o with
  | failure f => simp [TailFault, hI, Node.probing, Probe.Outcome.status, Probe.Outcome.ok]
  | success x =>
    rcases hu : x.unencodable with _ | e
    · cases cfg with
      | none =>
        simp [TailFault, hI, hu, Node.probing, Probe.Outcome.status, Probe.Outcome.ok,
          readingsOf]
      | some c =>
        rcases hx : Extraction.extract
          (if x.parsedJson.isNull then .text x.content else .doc x.parsedJson) x.contentType c
          with e | found
        · simp [TailFault, hI, hu, hx, Node.probing, readingsOf, Act.run'_map,
            Except.mapError]
        · simp [TailFault, hI, hu, hx, Node.probing, Probe.Outcome.status, Probe.Outcome.ok,
            readingsOf, Act.run'_map, Except.mapError]
    · simp [TailFault, hI, hu, Node.probing, Act.run'_bind]

/-- A check that returns got through its write, wrote the next state of its monitor once,
and reports that state's status and streak with the status read before it. -/
theorem checkUptime_ok {r : Result} {s' : Node}
    (h : (checkUptime m url n cfg).run' env s = (.ok r, s')) :
    ∃ o ip prev states disk, Kept m url env s o ip prev states disk ∧
      s' = { (s.probing (Probe.run env.sites s.settings.probeConfig
        (Probe.normalizeUrl url)).1) with states, disk } ∧
      r.monitorId = m ∧ r.url = Probe.normalizeUrl url ∧ r.timestamp = env.now.epochMillis ∧
      r.status = o.status ∧ r.failureStreak = (State.next m o.status prev env.now).failures ∧
      r.previousStatus = prev.map (·.status) ∧ ¬ TailFault url cfg env o := by
  rcases checkUptime_run'_cases m url n cfg env s with
    ⟨e, he⟩ | ⟨o, ip, prev, states, disk, hk⟩
  · rw [he] at h
    cases h
  obtain ⟨hs, hok, hr⟩ := checkUptime_run'_of_kept n cfg hk
  rw [h] at hs hok hr
  obtain ⟨hm, hu, ht, hst, hf, hp⟩ := hr r rfl
  exact ⟨o, ip, prev, states, disk, hk, hs, hm, hu, ht, hst, hf, hp, hok.1 ⟨r, rfl⟩⟩

/-- A check fails before writing, with the store as it was, or it writes the monitor's next
state exactly once and then fails exactly when the certificate inspection, the hash or the
readings fail, the written state staying written. -/
theorem checkUptime_fails_early_or_writes_once :
    let run := (checkUptime m url n cfg).run' env s
    let probed := s.probing (Probe.run env.sites s.settings.probeConfig
      (Probe.normalizeUrl url)).1
    (∃ e, run = (.error e, probed)) ∨
    ∃ o ip prev states disk, Kept m url env s o ip prev states disk ∧
      run.2 = { probed with states, disk } ∧
      ((∃ e, run.1 = .error e) ↔ TailFault url cfg env o) := by
  intro run probed
  rcases checkUptime_run'_cases m url n cfg env s with early | ⟨o, ip, prev, states, disk, hk⟩
  · exact .inl early
  obtain ⟨hs, hok, -⟩ := checkUptime_run'_of_kept n cfg hk
  refine .inr ⟨o, ip, prev, states, disk, hk, hs, ?_⟩
  have ends : (∃ e, run.1 = .error e) ↔ ¬ ∃ r, run.1 = .ok r := by
    rcases run.1 with e | r <;> simp
  rw [ends, hok, Classical.not_not]

def freshService : Node :=
  { settings := {}, disk := {}, states := .memory [], alarms := .memory [] [] }

/-- The surroundings of the counterexample: a site answering 503, a clock without an
offset at 2026-03-01T12:00, and a certificate that expires at 2027-01-01T00:00 UTC. -/
def naiveClockSurroundings : Surroundings :=
  { now := ⟨1772366400000000, none⟩, sites := fun _ => .ok ⟨503, [], []⟩,
    lookup := fun _ => .error unreachable,
    certificates := fun _ => .expiry ⟨1798761600000000, some 0⟩,
    endpoints := fun _ => .error unreachable, mail := .accepting }

set_option maxRecDepth 100000 in
/-- A failed check can leave its state written: probing a failing site with a clock
without an offset writes the down state, and then the certificate's expiry, which has an
offset, cannot be compared with the clock. -/
theorem checkUptime_fails_with_state_written :
    let run := (checkUptime "m1" "example.com" 1 none).run' naiveClockSurroundings freshService
    (∃ e, run.1 = .error e) ∧ ∃ st, run.2.states = .memory [("m1", st)] := by
  intro run
  let o : Probe.Outcome :=
    .failure { status := 503, totalMs := 0, error := "HTTP 503: Service Unavailable" }
  let st := State.next "m1" o.status none naiveClockSurroundings.now
  have hk : Kept "m1" "example.com" naiveClockSurroundings freshService o Probe.unknownIp none
      (.memory [("m1", st)]) {} :=
    ⟨by with_unfolding_all rfl, ⟨_, by with_unfolding_all rfl⟩, rfl, rfl⟩
  have hfault : TailFault "example.com" none naiveClockSurroundings o :=
    .inl ⟨.clock .mixedCompare, by with_unfolding_all rfl⟩
  obtain ⟨hs, hok, -⟩ := checkUptime_run'_of_kept 1 none hk
  refine ⟨?_, st, by rw [hs]⟩
  rcases hr : run.1 with e | r
  · exact ⟨e, rfl⟩
  · exact absurd hfault (hok.mp ⟨r, hr⟩)

end Uptime.Service
