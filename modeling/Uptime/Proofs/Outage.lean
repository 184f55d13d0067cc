import Uptime.Proofs.Streak
import Uptime.Proofs.DownFiring
/-! Down notifications along an outage. In each round a check of the monitor returns a
result and the engine weighs it. The streak a check reports is one whenever the status
before it was not down, so a threshold above one is never crossed. With one it is crossed
exactly on the first failure after a success or after nothing; the cooldown then decides,
and whether the clocks can be compared and shifted by the cooldown decides whether it can
be decided at all. -/

namespace Uptime.Service

open Uptime.Monitor Uptime.Alarm Uptime.Store Uptime.Time

variable {env : Surroundings} {s : Node} {as : List Config} {h : List Firing}

/-- A check reports a streak that crosses a threshold only for thresholds of at most one,
and only when the status before it was up or there was none: a failure after anything
but a failure starts its streak at one. -/
theorem crossesDown_of_checkUptime {env : Surroundings} {s s' : Node} {m url : String}
    {n : Int} {cfg : Option Extraction.Config} {r : Result} {threshold : Int}
    (h : (checkUptime m url n cfg).run' env s = (.ok r, s'))
    (hx : crossesDown r.failureStreak r.previousStatus threshold = true) :
    threshold ≤ 1 ∧ ∀ st ∈ r.previousStatus, st = .up := by
  obtain ⟨o, -, prev, -, -, -, -, -, -, -, -, hf, hp, -⟩ := checkUptime_ok h
  simp only [crossesDown, Bool.and_eq_true, decide_eq_true_eq, Bool.or_eq_true,
    Option.isNone_iff_eq_none, beq_iff_eq] at hx
  obtain ⟨hle, hprev⟩ := hx
  rw [hp] at hprev
  have hnot : ∀ q ∈ prev, q.status = .up := by
    intro q hq
    rw [Option.mem_def] at hq
    subst hq
    simpa using hprev
  have hstreak : (State.next m o.status prev env.now).failures ≤ 1 := by
    rw [State.next_failures_of_not_down m o.status env.now fun q hq => by simp [hnot q hq]]
    split <;> simp
  refine ⟨by omega, fun st hst => ?_⟩
  rw [hp, Option.mem_def, Option.map_eq_some_iff] at hst
  obtain ⟨q, hq, rfl⟩ := hst
  exact hnot q hq

theorem checkUptime_ok_alarms {env : Surroundings} {s s' : Node} {m url : String} {n : Int}
    {cfg : Option Extraction.Config} {r : Result}
    (h : (checkUptime m url n cfg).run' env s = (.ok r, s')) :
    s'.alarms = s.alarms ∧ s'.outageFromStates = s.outageFromStates := by
  obtain ⟨_, _, _, _, _, -, rfl, -⟩ := checkUptime_ok h
  exact ⟨rfl, rfl⟩

/-! ### Rounds of checks and alarms -/

/-- A round: a check of the monitor, then the engine weighing its result, each in its own
surroundings. -/
structure Round where
  check : Surroundings
  engine : Surroundings

def Round.outcomes (steps : List (Round × Result)) : List (Status × Moment) :=
  steps.map fun p => (p.2.status, p.1.check.now)

/-- The runs of rounds on the monitor `m` at `url` in which every check returns: the
rounds made from `s₀`, each with the result of its check, and the service they leave. -/
inductive Rounds (m url : String) (s₀ : Node) : List (Round × Result) → Node → Prop
  | nil : Rounds m url s₀ [] s₀
  | snoc {steps : List (Round × Result)} {s s₁ : Node} {rd : Round} {r : Result} :
      Rounds m url s₀ steps s → (checkUptime m url 1 none).run' rd.check s = (.ok r, s₁) →
      Rounds m url s₀ (steps ++ [(rd, r)])
        ((checkAlarms m r r.failureStreak r.previousStatus).run' rd.engine s₁).2

theorem replay_outcomes_status (m : String) (steps : List (Round × Result)) :
    (State.replay m (Round.outcomes steps)).map (·.status) = steps.getLast?.map (·.2.status) := by
  obtain rfl | ⟨steps, p, rfl⟩ := List.eq_nil_or_concat steps
  · rfl
  · simp [Round.outcomes, State.replay_concat_eq]

/-- Every down firing of `a` in `H` came at least `a`'s cooldown before `now`, the two
being of one kind. -/
def CooledDown (a : Config) (H : List Firing) (now : Moment) : Prop :=
  ∀ g ∈ H, g.alarmId = a.id → g.event = .down →
    g.firedAt.Follows now (a.conditions.cooldownMinutes * usMinute)

/-- The clocks of a round on which a down firing of `a` can be decided: the engine's clock
has an offset; so has the start of the outage, which is the check's clock when outages
are dated by the kept state and otherwise the result's time read back in UTC, which must
exist; and each earlier down firing of `a` in `H` has an offset and stays in the calendar
when moved on by the cooldown. -/
structure ClocksUsable (a : Config) (fromStates : Bool) (rd : Round) (r : Result)
    (H : List Firing) : Prop where
  engine : rd.engine.now.offset.isSome
  check : fromStates = true → rd.check.now.offset.isSome
  readBack : fromStates = false → ∃ t, Moment.ofEpochMillis r.timestamp = .ok t
  earlier : ∀ g ∈ H, g.alarmId = a.id → g.event = .down → g.firedAt.offset.isSome ∧
    minWall ≤ g.firedAt.wall + a.conditions.cooldownMinutes * usMinute ∧
    g.firedAt.wall + a.conditions.cooldownMinutes * usMinute ≤ maxWall

section Rounds

variable {m url : String} {s₀ : Node} {steps : List (Round × Result)}

theorem Rounds.last {rd : Round} {r : Result} (hrun : Rounds m url s₀ (steps ++ [(rd, r)]) s) :
    ∃ s₁ s₂, Rounds m url s₀ steps s₁ ∧
      (checkUptime m url 1 none).run' rd.check s₁ = (.ok r, s₂) ∧
      s = ((checkAlarms m r r.failureStreak r.previousStatus).run' rd.engine s₂).2 := by
  generalize hsteps : steps ++ [(rd, r)] = all at hrun
  cases hrun with
  | nil => simp at hsteps
  | snoc hrun hc =>
    obtain ⟨rfl, hlast⟩ := List.append_inj' hsteps.symm rfl
    simp only [List.cons.injEq, Prod.mk.injEq, and_true] at hlast
    obtain ⟨rfl, rfl⟩ := hlast
    exact ⟨_, _, hrun, hc, rfl⟩

theorem Rounds.eq_of_nil (hrun : Rounds m url s₀ [] s) : s = s₀ := by
  generalize hsteps : ([] : List (Round × Result)) = all at hrun
  cases hrun with
  | nil => rfl
  | snoc => simp at hsteps

/-- A first failure after a success, or after nothing, is due for an alarm with a threshold
of one once its cooldown is over, when its clocks are usable and the address splits. -/
theorem downDue_of_first_failure {s₁ s₂ : Node} {sts : List (String × State)} {rd : Round}
    {r : Result} {a : Config} {H : List Firing} (hs₁ : s₁.states = .memory sts)
    (hc : (checkUptime m url 1 none).run' rd.check s₁ = (.ok r, s₂)) (hdown : r.status = .down)
    (hprev : ∀ st ∈ (sts.lookup m).map (·.status), st = .up)
    (hthreshold : a.conditions.failures = 1)
    (hcool : CooledDown a H rd.engine.now)
    (hvalid : 1 ≤ a.conditions.cooldownMinutes ∧ a.conditions.cooldownMinutes ≤ 1440)
    (hurl : ∃ p, Url.split (Probe.normalizeUrl url) = .ok p)
    (hclocks : ClocksUsable a s₂.outageFromStates rd r H) :
    DownDue a r r.failureStreak r.previousStatus rd.engine.now (outageStartOf s₂ m r)
      s₂.settings.dashboardUrl H := by
  obtain ⟨hs₂, -, -, -, hf, hp⟩ := checkUptime_ok_memory hs₁ hc
  obtain ⟨-, -, -, -, -, -, -, -, hurl', -⟩ := checkUptime_ok hc
  rw [hdown] at hf hs₂
  have hnot : ∀ q ∈ sts.lookup m, q.status ≠ .down := by
    intro q hq hqd
    have := hprev q.status (by rw [Option.mem_def] at hq ⊢; simp [hq])
    rw [hqd] at this
    cases this
  have hnext : (State.next m .down (sts.lookup m) rd.check.now).failures = 1 ∧
      (State.next m .down (sts.lookup m) rd.check.now).lastChangeAt = rd.check.now :=
    ⟨by rw [State.next_failures_of_not_down m .down rd.check.now hnot, if_pos rfl],
      State.next_lastChangeAt_of_not_down m rd.check.now hnot⟩
  have hcross : crossesDown r.failureStreak r.previousStatus a.conditions.failures = true := by
    rw [hf, hnext.1, hthreshold, hp]
    cases hq : sts.lookup m with
    | none => rfl
    | some q =>
      have hup := hprev q.status (by simp [hq])
      simp [crossesDown, hup]
  obtain ⟨since, hsince, haware⟩ : ∃ since, outageStartOf s₂ m r = .ok since ∧
      since.offset.isSome := by
    cases hfrom : s₂.outageFromStates
    · obtain ⟨t, ht⟩ := hclocks.readBack hfrom
      refine ⟨t, by simp [outageStartOf, hfrom, Result.checkedAt, ht, Except.mapError], ?_⟩
      simp [Moment.offset_of_ofEpochMillis ht]
    · refine ⟨rd.check.now, ?_, hclocks.check hfrom⟩
      simp [outageStartOf, hfrom, hs₂, StateStore.get, lookup_putEntry, hnext.2]
  obtain ⟨last, hl, hlast⟩ := lastFiring_ok fun g hg hid hev => (hclocks.earlier g hg hid hev).1
  refine ⟨hcross, ⟨last, hl, cooldownActive_eq_false ⟨by omega, hvalid.2⟩ fun t ht => ?_⟩,
    since, hsince, downPayload_ok (by rw [hurl']; exact hurl) ?_⟩
  · obtain ⟨g, hg, hid, hev, rfl⟩ := hlast t ht
    obtain ⟨-, hlo, hhi⟩ := hclocks.earlier g hg hid hev
    exact ⟨hlo, hhi, hcool g hg hid hev⟩
  · simp [Moment.sameKind, haware, hclocks.engine]

variable (hmine : ∀ b ∈ as, b.enabled = true ∧ b.monitorId = m ∧ b.triggerType = "uptime")
  (hids : (as.map (·.id)).Nodup)
include hmine hids

/-- Along rounds from nothing kept, with alarms of the monitor only, of distinct ids: the
monitor's kept state is the replay of its checks, the settings and the way outages are
dated stay as they were, and every down firing kept is of an alarm whose threshold is at
most one. -/
theorem Rounds.inv (h₀ : s₀.states = .memory [] ∧ s₀.alarms = .memory as [])
    (hrun : Rounds m url s₀ steps s) :
    ∃ sts H, s.states = .memory sts ∧ sts.lookup m = State.replay m (Round.outcomes steps) ∧
      s.settings = s₀.settings ∧ s.outageFromStates = s₀.outageFromStates ∧
      s.alarms = .memory as H ∧
      ∀ f ∈ H, f.event = .down →
        ∃ b ∈ as, f.alarmId = b.id ∧ b.conditions.failures ≤ 1 := by
  induction hrun with
  | nil => exact ⟨[], [], h₀.1, rfl, rfl, rfl, h₀.2, by simp⟩
  | @snoc steps s s₁ rd r _ hc ih =>
    obtain ⟨sts, H, hs, hlook, hset, hout, hal, hdown⟩ := ih
    obtain ⟨hs₁, hset₁, -⟩ := checkUptime_ok_memory hs hc
    obtain ⟨hal₁, hout₁⟩ := checkUptime_ok_alarms hc
    rw [← hal₁] at hal
    obtain ⟨produced, hfin, hreads, hfrom, -⟩ :=
      checkAlarms_memory rd.engine m r r.failureStreak r.previousStatus hal
    refine ⟨_, _, hreads.states.trans hs₁, ?_, by rw [hreads.settings, hset₁, hset],
      by rw [hreads.outageFromStates, hout₁, hout], hfin, ?_⟩
    · simp [lookup_putEntry, hlook, State.replay, Round.outcomes]
    intro f hf hfd
    rcases List.mem_append.mp hf with hf | hf
    · exact hdown f hf hfd
    obtain ⟨p, hp, rfl⟩ := List.mem_map.mp hf
    obtain ⟨hmem, hid, -⟩ := hfrom p hp
    have hiff := checkAlarms_added_fires_iff rd.engine r r.failureStreak r.previousStatus
      hmine hids hmem hal hfin
    obtain ⟨hx, -⟩ := (hiff.mp ⟨p.2, List.mem_map_of_mem hp, hid, hfd⟩).2
    exact ⟨p.1, hmem, hid, (crossesDown_of_checkUptime hc hx).1⟩


/-- Down firings along rounds on one monitor, from nothing kept, with alarms of the
monitor only, enabled for uptime checks and of distinct ids. At each round: an alarm with
a threshold of two or more never has a down firing, and weighing it against a down result
changes and sends nothing; an alarm with a threshold of one gets a down firing only for a
failure after a success or after nothing, with its cooldown over since every earlier down
firing, and it does get one, at the engine's time, whenever those hold and the cooldown is
a valid one, the address splits and the clocks of the round are usable. -/
theorem rounds_fire_down_on_first_failures
    (h₀ : s₀.states = .memory [] ∧ s₀.alarms = .memory as [])
    {rd : Round} {r : Result} (hrun : Rounds m url s₀ (steps ++ [(rd, r)]) s) :
    ∃ H added, (∃ s₁, Rounds m url s₀ steps s₁ ∧ s₁.alarms = .memory as H) ∧
      s.alarms = .memory as (H ++ added) ∧
      (∃ o, (Probe.run rd.check.sites s₀.settings.probeConfig
        (Probe.normalizeUrl url)).2 = .ok o ∧
        (r.status = .down ↔ o.ok = false)) ∧
      ∀ a ∈ as,
        (2 ≤ a.conditions.failures →
          (∀ f ∈ H ++ added, f.alarmId = a.id → f.event ≠ .down) ∧
          (r.status = .down → ∀ env' s',
            ((evaluate a m r r.failureStreak r.previousStatus).run' env' s').2 = s')) ∧
        (a.conditions.failures = 1 →
          ((∃ f ∈ added, f.alarmId = a.id ∧ f.event = .down) →
            r.status = .down ∧ (∀ p ∈ steps.getLast?, p.2.status = .up) ∧
              CooledDown a H rd.engine.now) ∧
          (r.status = .down → (∀ p ∈ steps.getLast?, p.2.status = .up) →
            CooledDown a H rd.engine.now →
            1 ≤ a.conditions.cooldownMinutes ∧ a.conditions.cooldownMinutes ≤ 1440 →
            (∃ p, Url.split (Probe.normalizeUrl url) = .ok p) →
            ClocksUsable a s₀.outageFromStates rd r H →
            ∃ f ∈ added, f.alarmId = a.id ∧ f.event = .down ∧
              f.firedAt = rd.engine.now)) := by
  obtain ⟨s₁, s₂, hrun₁, hc, rfl⟩ := Rounds.last hrun
  obtain ⟨sts, H, hs₁, hlook, hset, hout, hal₁, -⟩ := Rounds.inv hmine hids h₀ hrun₁
  obtain ⟨hal₂, hout₂⟩ := checkUptime_ok_alarms hc
  rw [← hal₂] at hal₁
  obtain ⟨-, -, -, ⟨o, hP, hst⟩, -, hp⟩ := checkUptime_ok_memory hs₁ hc
  obtain ⟨produced, hfin, -, hfrom, -⟩ :=
    checkAlarms_memory rd.engine m r r.failureStreak r.previousStatus hal₁
  obtain ⟨-, H', -, -, -, -, hal, hdown'⟩ := Rounds.inv hmine hids h₀ hrun
  rw [hfin, AlarmStore.memory.injEq] at hal
  have hprev : r.previousStatus = steps.getLast?.map (·.2.status) := by
    rw [hp, hlook, replay_outcomes_status]
  have hP' : (Probe.run rd.check.sites s₀.settings.probeConfig
      (Probe.normalizeUrl url)).2 = .ok o := by
    rw [← hset]; exact hP
  have hal₁' : s₁.alarms = .memory as H := by rw [← hal₂]; exact hal₁
  refine ⟨H, produced.map Prod.snd, ⟨s₁, hrun₁, hal₁'⟩, hfin,
    ⟨o, hP', by cases ho : o.ok <;> simp [hst, Probe.Outcome.status, ho]⟩, fun a ha => ?_⟩
  have hiff := checkAlarms_added_fires_iff rd.engine r r.failureStreak r.previousStatus
    hmine hids ha hal₁ hfin
  refine ⟨fun h2 => ⟨?_, ?_⟩, fun h1 => ⟨?_, ?_⟩⟩
  · -- a down firing kept is of an alarm of threshold at most one, which `a` is not
    intro f hf hid hfd
    obtain ⟨b, hb, hbid, hble⟩ := hdown' f (by rw [← hal.2]; exact hf) hfd
    have hba : b = a := List.inj_on_of_nodup_map hids hb ha (hbid.symm.trans hid)
    subst hba
    omega
  · intro hd env' s'
    apply evaluate_of_not_crosses hd
    cases hx : crossesDown r.failureStreak r.previousStatus a.conditions.failures
    · rfl
    · have := (crossesDown_of_checkUptime hc hx).1
      omega
  · intro hfired
    obtain ⟨hd, hx, ⟨last, hl, hcd⟩, -⟩ := hiff.mp hfired
    refine ⟨hd, fun p hp' => ?_, follows_of_lastFiring_cooldown_over hl hcd⟩
    have hup := (crossesDown_of_checkUptime hc hx).2 p.2.status
    rw [hprev] at hup
    exact hup (Option.mem_map_of_mem _ hp')
  · intro hd hup hcool hvalid hurl hclocks
    have hprevup : ∀ st ∈ (sts.lookup m).map (·.status), st = .up := by
      rw [hlook, replay_outcomes_status]
      intro st hst
      rw [Option.mem_def, Option.map_eq_some_iff] at hst
      obtain ⟨p, hp', rfl⟩ := hst
      exact hup p hp'
    have hdue := downDue_of_first_failure hs₁ hc hd hprevup h1 hcool hvalid hurl
      (by rw [hout₂, hout]; exact hclocks)
    obtain ⟨f, hf, hid, hfd⟩ := hiff.mpr ⟨hd, hdue⟩
    obtain ⟨p, hp', rfl⟩ := List.mem_map.mp hf
    exact ⟨p.2, hf, hid, hfd, (hfrom p hp').2.2.1⟩

end Rounds

/-- A check of `m1` at the epoch in UTC on a site that answers every request with 200, with
the engine on the same clock. -/
def upRound : Round :=
  ⟨{ Surroundings.offline ⟨0, some 0⟩ .accepting with
      sites := fun _ => .ok ⟨200, [], []⟩ },
    .offline ⟨0, some 0⟩ .accepting⟩

/-- A check of `m1` a minute after `upRound` from a place without a network, with the engine
on the same clock. -/
def laterRound : Round :=
  ⟨.offline ⟨60000000, some 0⟩ .accepting, .offline ⟨60000000, some 0⟩ .accepting⟩

def hookStateService : Node := { hookService with outageFromStates := true }

theorem hookAlarm_of_m1 :
    ∀ b ∈ [hookAlarm],
      b.enabled = true ∧ b.monitorId = "m1" ∧ b.triggerType = "uptime" := by
  intro b hb
  rw [List.mem_singleton] at hb
  subst hb
  exact ⟨rfl, rfl, rfl⟩

set_option maxRecDepth 100000 in
/-- A success and then a failure, on clocks with an offset: the first round records no down
firing of `hookAlarm`, the second fires it at the engine's time. -/
theorem failure_after_success_fires_hookAlarm :
    ∃ r₁ r₂ s,
      Rounds "m1" "example.com" hookStateService [(upRound, r₁), (laterRound, r₂)] s ∧
      r₁.status = .up ∧ r₂.status = .down ∧ ∃ H added,
      s.alarms = .memory [hookAlarm] (H ++ added) ∧
      (¬ ∃ f ∈ H, f.alarmId = hookAlarm.id ∧ f.event = .down) ∧
      ∃ f ∈ added, f.alarmId = hookAlarm.id ∧ f.event = .down ∧
        f.firedAt = laterRound.engine.now := by
  have hcheck₁ : ((checkUptime "m1" "example.com" 1 none).run' upRound.check
      hookStateService).1.toOption.map (·.status) = some .up := by decide +kernel
  obtain ⟨r₁, hc₁, hup⟩ := Act.run'_eq_ok_of_map_toOption hcheck₁
  have hcheck₂ : (match (checkUptime "m1" "example.com" 1 none).run' upRound.check
      hookStateService with
      | (.ok r, s) => ((checkUptime "m1" "example.com" 1 none).run' laterRound.check
          ((checkAlarms "m1" r r.failureStreak r.previousStatus).run' upRound.engine s).2).1
            |>.toOption.map (·.status)
      | (.error _, _) => none) = some .down := by decide +kernel
  rw [hc₁] at hcheck₂
  obtain ⟨r₂, hc₂, hdown⟩ := Act.run'_eq_ok_of_map_toOption hcheck₂
  have hrun := Rounds.snoc (Rounds.snoc Rounds.nil hc₁) hc₂
  have hurl : ∃ p, Url.split (Probe.normalizeUrl "example.com") = .ok p := by
    have hsplit : (Url.split (Probe.normalizeUrl "example.com")).isOk = true := by decide +kernel
    revert hsplit
    cases Url.split (Probe.normalizeUrl "example.com") <;> simp [Except.isOk, Except.toBool]
  refine ⟨r₁, r₂, _, hrun, hup, hdown, ?_⟩
  obtain ⟨H, added, ⟨s₁, hrun₁, hal₁⟩, hfin, -, hall⟩ :=
    rounds_fire_down_on_first_failures hookAlarm_of_m1 (by simp) ⟨rfl, rfl⟩ hrun
  obtain ⟨H₀, added₀, ⟨s₀, hrun₀, hal₀⟩, hfin₀, -, hall₀⟩ :=
    rounds_fire_down_on_first_failures hookAlarm_of_m1 (by simp) ⟨rfl, rfl⟩
      (hrun₁ : Rounds "m1" "example.com" hookStateService ([] ++ [(upRound, r₁)]) s₁)
  rw [Rounds.eq_of_nil hrun₀] at hal₀
  obtain rfl : H₀ = [] := by simpa [hookStateService, hookService] using hal₀.symm
  obtain rfl : H = added₀ := by simpa [hal₁] using hfin₀
  have hquiet : ¬ ∃ f ∈ H, f.alarmId = hookAlarm.id ∧ f.event = .down := fun hf => by
    simpa [hup] using (((hall₀ hookAlarm (List.mem_singleton_self _)).2 rfl).1 hf).1
  refine ⟨H, added, hfin, hquiet, ?_⟩
  exact ((hall hookAlarm (List.mem_singleton_self _)).2 rfl).2 hdown (by simpa using hup)
    (fun g hg hid hev => absurd ⟨g, hg, hid, hev⟩ hquiet) ⟨by decide, by decide⟩ hurl
    ⟨rfl, fun _ => rfl, fun h => absurd h (by decide),
      fun g hg hid hev => absurd ⟨g, hg, hid, hev⟩ hquiet⟩

/-- The first check of `m1` from a place without a network, at 2026-03-01T12:00 on a clock
without an offset, with the engine on the same clock. -/
def naiveRound : Round :=
  ⟨.offline ⟨1772366400000000, none⟩ .accepting,
    .offline ⟨1772366400000000, none⟩ .accepting⟩

set_option maxRecDepth 100000 in
/-- On a clock without an offset, with outages dated by the result's time, a first failure
does not fire `hookAlarm`, whose threshold is one: the outage start is in UTC and cannot
be compared with the engine's clock. -/
theorem naive_first_failure_fires_nothing :
    ∃ r s, Rounds "m1" "example.com" hookService [(naiveRound, r)] s ∧ r.status = .down ∧
      ∃ added, s.alarms = .memory [hookAlarm] added ∧
      ¬ ∃ f ∈ added, f.alarmId = hookAlarm.id ∧ f.event = .down := by
  have hcheck : ((checkUptime "m1" "example.com" 1 none).run' naiveRound.check
      hookService).1.toOption.map (·.status) = some .down := by decide +kernel
  obtain ⟨r, hc, hdown⟩ := Act.run'_eq_ok_of_map_toOption hcheck
  refine ⟨_, _, Rounds.snoc Rounds.nil hc, hdown, ?_⟩
  obtain ⟨hal, hout⟩ := checkUptime_ok_alarms hc
  obtain ⟨added, hfin, hiff⟩ := checkAlarms_fires_iff naiveRound.engine _ _ _ hookAlarm_of_m1
    (by simp) (List.mem_singleton_self _) (hal.trans rfl)
  refine ⟨added, by simpa using hfin, fun hf => ?_⟩
  obtain ⟨-, -, -, since, hsince, p, hp⟩ := hiff.mp hf
  have hutc := offset_of_outageStartOf (hout.trans rfl) hsince
  exact downPayload_ne_ok_of_kinds
    (by simp [Moment.sameKind, hutc, naiveRound, Surroundings.offline]) p hp

end Uptime.Service
