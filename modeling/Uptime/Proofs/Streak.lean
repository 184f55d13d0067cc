import Uptime.Proofs.CheckStages
/-! Streaks and change times along a run of checks. Replaying checks that found statuses
`s₁, …, sᵢ` at times `t₁, …, tᵢ` from no state gives the state with status `sᵢ`,
checked at `tᵢ`, whose streak is the number of trailing `down` statuses and whose change
time is the time of the first of the trailing statuses equal to `sᵢ`
(`replay_concat_eq`). The two differ in what they compare: the streak asks for `down`,
the change time for the last status. A run of checks against a store in memory keeps,
for each monitor, the replay of that monitor's own checks (`Checks.states_eq`), and each
check reports the streak of that replay (`checks_keep_replayed_states`). -/

namespace Uptime.Monitor.State

variable {m : String}

/-- The state a monitor reaches from `start` through checks that found these statuses at
these times. -/
def replayFrom (m : String) (start : Option State) (checks : List (Status × Time.Moment)) :
    Option State :=
  checks.foldl (fun prev c => some (next m c.1 prev c.2)) start

def replay (m : String) (checks : List (Status × Time.Moment)) : Option State :=
  replayFrom m none checks

@[simp] theorem replayFrom_nil (start : Option State) : replayFrom m start [] = start := rfl

@[simp] theorem replayFrom_concat (start : Option State) (checks : List (Status × Time.Moment))
    (c : Status × Time.Moment) :
    replayFrom m start (checks ++ [c]) = some (next m c.1 (replayFrom m start checks) c.2) := by
  simp [replayFrom]

/-- The replay after a last check `c`: the status and time of `c`, the number of trailing
`down` checks as the streak, and as the change time the time of the first of the trailing
checks with the status of `c`. -/
theorem replay_concat_eq (checks : List (Status × Time.Moment)) (c : Status × Time.Moment) :
    replay m (checks ++ [c]) = some ⟨m, c.1,
      ((checks ++ [c]).rtakeWhile fun d => d.1 = .down).length,
      (((checks ++ [c]).rtakeWhile fun d => d.1 = c.1).head?.map Prod.snd).getD c.2, c.2⟩ := by
  induction checks using List.reverseRecOn generalizing c with
  | nil =>
    obtain ⟨st, t⟩ := c
    cases st <;> simp [replay, replayFrom, next, List.rtakeWhile]
  | append_singleton checks c' ih =>
    rw [replay, replayFrom_concat, ← replay, ih]
    obtain ⟨st, t⟩ := c
    obtain ⟨st', t'⟩ := c'
    simp only [List.rtakeWhile_concat]
    cases st <;> cases st' <;> simp [next]

theorem replay_failures_pos_iff {checks : List (Status × Time.Moment)} {st : State}
    (h : replay m checks = some st) : 0 < st.failures ↔ st.status = .down := by
  obtain rfl | ⟨checks, c, rfl⟩ := List.eq_nil_or_concat checks
  · cases h
  rw [List.concat_eq_append, replay_concat_eq, Option.some.injEq] at h
  subst h
  by_cases hc : c.1 = .down <;> simp [hc]

end Uptime.Monitor.State

namespace Uptime.Service

open Uptime.Monitor Uptime.Store

/-- A call of a check: the surroundings it runs in and its arguments. -/
structure CheckCall where
  env : Surroundings
  monitorId : String
  url : String
  attempt : Int := 1
  config : Option Extraction.Config := none

/-- The runs of checks that all return: the calls made from `s₀`, each with the result it
returned, and the service they leave. -/
inductive Checks (s₀ : Node) : List (CheckCall × Result) → Node → Prop
  | nil : Checks s₀ [] s₀
  | snoc {steps : List (CheckCall × Result)} {s s' : Node} {c : CheckCall} {r : Result} :
      Checks s₀ steps s →
      (checkUptime c.monitorId c.url c.attempt c.config).run' c.env s = (.ok r, s') →
      Checks s₀ (steps ++ [(c, r)]) s'

def observed (m : String) (steps : List (CheckCall × Result)) : List (Status × Time.Moment) :=
  (steps.filter fun p => p.1.monitorId == m).map fun p => (p.2.status, p.1.env.now)

@[simp] theorem observed_nil (m : String) : observed m [] = [] := rfl

theorem observed_concat (m : String) (steps : List (CheckCall × Result)) (c : CheckCall)
    (r : Result) :
    observed m (steps ++ [(c, r)]) =
      observed m steps ++ if c.monitorId = m then [(r.status, c.env.now)] else [] := by
  by_cases h : c.monitorId = m <;> simp [observed, h]

/-- A check that returns against states kept in memory keeps the next state of its
monitor, computed from the one kept before, and changes neither the settings nor the
disk. -/
theorem checkUptime_ok_memory {env : Surroundings} {s s' : Node} {m url : String} {n : Int}
    {cfg : Option Extraction.Config} {r : Result} {sts : List (String × State)}
    (hs : s.states = .memory sts) (h : (checkUptime m url n cfg).run' env s = (.ok r, s')) :
    s'.states = .memory (putEntry sts m (State.next m r.status (sts.lookup m) env.now)) ∧
      s'.settings = s.settings ∧ s'.disk = s.disk ∧
      (∃ o, (Probe.run env.sites s.settings.probeConfig (Probe.normalizeUrl url)).2 = .ok o ∧
        r.status = o.status) ∧
      r.failureStreak = (State.next m r.status (sts.lookup m) env.now).failures ∧
      r.previousStatus = (sts.lookup m).map (·.status) := by
  obtain ⟨o, _, prev, states, disk, hk, rfl, -, -, -, hst, hf, hp, -⟩ := checkUptime_ok h
  have hprev : prev = sts.lookup m := by
    have := hk.read
    simp only [hs, StateStore.get, Except.ok.injEq] at this
    exact this.symm
  have hw := hk.write
  simp only [hs, StateStore.put, Except.ok.injEq, Prod.mk.injEq, State.next] at hw
  subst hprev
  refine ⟨?_, rfl, ?_, ⟨o, hk.probe, hst⟩, by rw [hf, hst], by rw [hp]⟩
  · simp only [← hw.1, hst]
    rfl
  · simp [← hw.2]

/-- Along a run of checks from no kept states, the states stay in memory, the settings stay
as they were, and each monitor's kept state is the replay of its own checks. -/
theorem Checks.states_eq {s₀ s : Node} {steps : List (CheckCall × Result)}
    (h₀ : s₀.states = .memory []) (h : Checks s₀ steps s) :
    ∃ sts, s.states = .memory sts ∧ s.settings = s₀.settings ∧
      ∀ m, sts.lookup m = State.replay m (observed m steps) := by
  induction h with
  | nil => exact ⟨[], h₀, rfl, fun _ => rfl⟩
  | @snoc steps s s' c r _ hc ih =>
    obtain ⟨sts, hs, hset, hlook⟩ := ih
    obtain ⟨hs', hset', -⟩ := checkUptime_ok_memory hs hc
    refine ⟨_, hs', hset'.trans hset, fun m => ?_⟩
    rw [observed_concat]
    by_cases hm : c.monitorId = m
    · subst hm
      simp [lookup_putEntry, State.replay, hlook]
    · simp [lookup_putEntry_of_ne _ _ (Ne.symm hm), hm, hlook]

/-- The last check of a run is a check that returned on the service its earlier checks
left. -/
theorem Checks.last {s₀ s : Node} {before : List (CheckCall × Result)} {c : CheckCall}
    {r : Result} (h : Checks s₀ (before ++ [(c, r)]) s) :
    ∃ s₁, Checks s₀ before s₁ ∧
      (checkUptime c.monitorId c.url c.attempt c.config).run' c.env s₁ = (.ok r, s) := by
  generalize hsteps : before ++ [(c, r)] = steps at h
  cases h with
  | nil => simp at hsteps
  | snoc hrun hc =>
    obtain ⟨rfl, hlast⟩ := List.append_inj' hsteps.symm rfl
    simp only [List.cons.injEq, Prod.mk.injEq, and_true] at hlast
    obtain ⟨rfl, rfl⟩ := hlast
    exact ⟨_, hrun, hc⟩

/-- Replaying the statuses found by checks gives the status and time of the last check,
its trailing run of `down` statuses as the streak, and the time the last status began as
the change time; a streak is kept exactly for a `down` status. Checks that all return,
against states kept in memory from none, keep for every monitor the replay of its own
checks, and each check reports the streak of that replay and the status replayed before
it, having found `up` exactly when its probe succeeded. -/
theorem checks_keep_replayed_states :
    (∀ (m : String) (checks : List (Status × Time.Moment)) (c : Status × Time.Moment),
      State.replay m (checks ++ [c]) = some ⟨m, c.1,
        ((checks ++ [c]).rtakeWhile fun d => d.1 = .down).length,
        (((checks ++ [c]).rtakeWhile fun d => d.1 = c.1).head?.map Prod.snd).getD c.2, c.2⟩) ∧
    (∀ m checks (st : State), State.replay m checks = some st →
      (0 < st.failures ↔ st.status = .down)) ∧
    ∀ s₀ steps s, s₀.states = .memory [] → Checks s₀ steps s →
      (∀ m, s.states.get s.disk m = .ok (State.replay m (observed m steps))) ∧
      ∀ before c r, steps = before ++ [(c, r)] →
        (∃ o, (Probe.run c.env.sites s₀.settings.probeConfig
          (Probe.normalizeUrl c.url)).2 = .ok o ∧ (r.status = .up ↔ o.ok = true)) ∧
        (State.replay c.monitorId (observed c.monitorId steps)).map
          (fun st => (st.failures : Int)) = some r.failureStreak ∧
        r.previousStatus =
          (State.replay c.monitorId (observed c.monitorId before)).map (·.status) := by
  refine ⟨fun m => State.replay_concat_eq, fun m checks st => State.replay_failures_pos_iff,
    fun s₀ steps s h₀ h => ⟨fun m => ?_, fun before c r hsteps => ?_⟩⟩
  · obtain ⟨sts, hs, -, hlook⟩ := Checks.states_eq h₀ h
    simp [hs, StateStore.get, hlook]
  · subst hsteps
    obtain ⟨s₁, hrun, hc⟩ := Checks.last h
    obtain ⟨sts, hs, hset, hlook⟩ := Checks.states_eq h₀ hrun
    obtain ⟨-, -, -, ⟨o, hP, hst⟩, hf, hp⟩ := checkUptime_ok_memory hs hc
    refine ⟨⟨o, hset ▸ hP, ?_⟩, ?_, by rw [hp, hlook]⟩
    · cases ho : o.ok <;> simp [hst, Probe.Outcome.status, ho]
    · rw [hlook] at hf
      simp [observed_concat, State.replay, hf]

def offlineCall : CheckCall :=
  { env := .offline ⟨0, none⟩ .accepting, monitorId := "m1", url := "example.com" }

def laterOfflineCall : CheckCall :=
  { offlineCall with env := .offline ⟨60000000, none⟩ .accepting }

set_option maxRecDepth 100000 in
/-- Two checks from a place without a network: the second reports a streak of two after a
down status, and the state kept is down since the first check, with two failures. -/
theorem offline_checks_keep_their_replay :
    ∃ r₁ r₂ s, Checks freshService [(offlineCall, r₁), (laterOfflineCall, r₂)] s ∧
      r₂.failureStreak = 2 ∧ r₂.previousStatus = some .down ∧
      s.states.get s.disk "m1" =
        .ok (some ⟨"m1", .down, 2, offlineCall.env.now, laterOfflineCall.env.now⟩) := by
  let c := offlineCall
  have hcheck₁ : ((checkUptime c.monitorId c.url c.attempt c.config).run' c.env
      freshService).1.toOption.map (·.status) = some .down := by decide +kernel
  obtain ⟨r₁, hc₁, hd₁⟩ := Act.run'_eq_ok_of_map_toOption hcheck₁
  have hcheck₂ : ((checkUptime c.monitorId c.url c.attempt c.config).run' laterOfflineCall.env
      ((checkUptime c.monitorId c.url c.attempt c.config).run' c.env freshService).2).1.toOption.map
        (·.status) = some .down := by decide +kernel
  obtain ⟨r₂, hc₂, hd₂⟩ := Act.run'_eq_ok_of_map_toOption hcheck₂
  have hrun : Checks freshService [(offlineCall, r₁), (laterOfflineCall, r₂)] _ :=
    Checks.snoc (Checks.snoc Checks.nil hc₁) hc₂
  obtain ⟨hkept, hlast⟩ := checks_keep_replayed_states.2.2 freshService _ _ rfl hrun
  obtain ⟨-, hstreak, hprev⟩ := hlast [(offlineCall, r₁)] laterOfflineCall r₂ rfl
  have hobserved : observed "m1" [(offlineCall, r₁), (laterOfflineCall, r₂)] =
      [(.down, offlineCall.env.now), (.down, laterOfflineCall.env.now)] := by
    simp [observed, offlineCall, laterOfflineCall, hd₁, hd₂]
  refine ⟨r₁, r₂, _, hrun, ?_, ?_, ?_⟩
  · rw [show laterOfflineCall.monitorId = "m1" from rfl, hobserved] at hstreak
    simpa [State.replay, State.replayFrom, State.next] using hstreak.symm
  · simp [hprev, laterOfflineCall, offlineCall, observed, hd₁, State.replay, State.replayFrom]
  · rw [hkept, hobserved]
    rfl

end Uptime.Service
