import Uptime.Proofs.Streak
import Uptime.Proofs.DownFiring
/-! Checks that overlap, and results delivered again. A check uses the state store in two
steps, reading the state kept and keeping the next one (`StoreUse.run`,
`checkUptime_uses_store`); the event loop may switch to another check only where a step
suspends. The store in memory never
suspends, so whatever the schedule, two checks of one monitor end as if one ran after the
other (`interleave_memory`). The file store suspends at both steps, and when both checks
read before either writes, the second write keeps the next state of the state both read:
one check is lost (`interleave_file_overlap`). The alarm engine does not look at the kept
states before a recovery: every delivery of an up result after a down one records one
recovery for each alarm whose notice can be written, however often the same result
comes (`recoveries_per_delivery`). -/

namespace Uptime.Store

/-- Whether a store suspends the check at a read and at a write: the file store reads and
writes in a worker thread, the store in memory never waits. -/
def StateStore.suspends : StateStore → Bool
  | .memory _ => false
  | .file _ => true

end Uptime.Store

namespace Uptime.Service

open Uptime.Monitor Uptime.Store Uptime.Alarm

/-! ### Two checks on one store -/

/-- A check's use of the state store: the monitor, the status its probe found and its
clock. -/
structure StoreUse where
  monitorId : String
  status : Status
  now : Time.Moment

namespace StoreUse

def next (u : StoreUse) (prev : Option State) : State :=
  State.next u.monitorId u.status prev u.now

@[simp] theorem next_monitorId (u : StoreUse) (prev : Option State) :
    (u.next prev).monitorId = u.monitorId := rfl

/-- A check's use of the store without a switch: read the state kept, keep the next
one. -/
def run (u : StoreUse) : Act Unit := do
  let prev ← stateOf u.monitorId
  keepState (u.next prev)

end StoreUse

/-- Where a check stands in its use of the store: before its read, holding the state it
read, or done. -/
inductive Stage where
  | ready
  | holding (prev : Option State)
  | done

/-- One turn of a check at the store: as far as it runs before it suspends again. -/
def StoreUse.turn (u : StoreUse) (suspends : Bool) : Stage → Act Stage
  | .ready => do
    let prev ← stateOf u.monitorId
    if suspends then pure (.holding prev)
    else do
      keepState (u.next prev)
      pure .done
  | .holding prev => do
    keepState (u.next prev)
    pure .done
  | .done => pure .done

/-- Two checks at one store, turn by turn as the schedule says: `false` gives the turn to
the first, `true` to the second. -/
def interleave (a b : StoreUse) (suspends : Bool) : List Bool → Stage → Stage → Act (Stage × Stage)
  | [], x, y => pure (x, y)
  | false :: sch, x, y => do
    let x' ← a.turn suspends x
    interleave a b suspends sch x' y
  | true :: sch, x, y => do
    let y' ← b.turn suspends y
    interleave a b suspends sch x y'

section Interleave

variable (a b : StoreUse)

@[simp] theorem turn_done (u : StoreUse) (suspends : Bool) : u.turn suspends .done = pure .done :=
  rfl

theorem turn_ready_of_not_suspends (u : StoreUse) :
    u.turn false .ready = (u.run >>= fun _ => pure .done) := by
  simp [StoreUse.turn, StoreUse.run]

theorem interleave_done_done (suspends : Bool) (sch : List Bool) :
    interleave a b suspends sch .done .done = pure (.done, .done) := by
  induction sch with
  | nil => rfl
  | cons c sch ih => cases c <;> simp [interleave, ih]

/-- Once the first check is through, a store that never suspends runs the second at its
first turn, if it gets one. -/
theorem interleave_done_ready (sch : List Bool) :
    interleave a b false sch .done .ready =
      if true ∈ sch then b.run >>= fun _ => pure (.done, .done) else pure (.done, .ready) := by
  induction sch with
  | nil => rfl
  | cons c sch ih =>
    cases c with
    | false => simp [interleave, ih]
    | true => simp [interleave, turn_ready_of_not_suspends, interleave_done_done]

theorem interleave_ready_done (sch : List Bool) :
    interleave a b false sch .ready .done =
      if false ∈ sch then a.run >>= fun _ => pure (.done, .done) else pure (.ready, .done) := by
  induction sch with
  | nil => rfl
  | cons c sch ih =>
    cases c with
    | false => simp [interleave, turn_ready_of_not_suspends, interleave_done_done]
    | true => simp [interleave, ih]

/-- On a store that never suspends, any schedule that gives each check a turn runs the
check with the first turn, then the other. -/
theorem interleave_of_not_suspends {sch : List Bool} (ha : false ∈ sch) (hb : true ∈ sch) :
    interleave a b false sch .ready .ready =
      ((if sch.head? = some false then a.run >>= fun _ => b.run
        else b.run >>= fun _ => a.run) >>= fun _ => pure (.done, .done)) := by
  cases sch with
  | nil => cases ha
  | cons c sch =>
    cases c with
    | false =>
      have hb' : true ∈ sch := by simpa using hb
      simp [interleave, turn_ready_of_not_suspends, interleave_done_ready, hb']
    | true =>
      have ha' : false ∈ sch := by simpa using ha
      simp [interleave, turn_ready_of_not_suspends, interleave_ready_done, ha']

/-- On a store that suspends, a schedule where both checks read before either writes
makes both reads before the writes. -/
theorem interleave_reads_first :
    interleave a b true [false, true, false, true] .ready .ready =
      (stateOf a.monitorId >>= fun pa => stateOf b.monitorId >>= fun pb =>
        keepState (a.next pa) >>= fun _ => keepState (b.next pb) >>= fun _ =>
          pure (.done, .done)) := by
  simp [interleave, StoreUse.turn]

end Interleave

section Runs

variable {env : Surroundings} {s : Node} {m : String}

theorem StoreUse.run_memory (u : StoreUse) {sts : List (String × State)}
    (hs : s.states = .memory sts) :
    u.run.run' env s = (.ok (), { s with
      states := .memory (putEntry sts u.monitorId (u.next (sts.lookup u.monitorId))) }) := by
  simp [StoreUse.run, Act.run'_bind, run'_keepState, hs, StateStore.get, StateStore.put,
    Except.mapError]

/-- Two checks of one monitor, one after the other in memory, keep the replay of the two
checks from the state kept before. -/
theorem run_run_memory (a b : StoreUse) (ha : a.monitorId = m) (hb : b.monitorId = m)
    {sts : List (String × State)} (hs : s.states = .memory sts) :
    ∃ sts', (a.run >>= fun _ => b.run).run' env s = (.ok (), { s with states := .memory sts' }) ∧
      sts'.lookup m = State.replayFrom m (sts.lookup m) [(a.status, a.now), (b.status, b.now)] := by
  subst ha
  refine ⟨putEntry (putEntry sts a.monitorId (a.next (sts.lookup a.monitorId))) b.monitorId
    (b.next (some (a.next (sts.lookup a.monitorId)))), ?_, ?_⟩
  · rw [Act.run'_bind, StoreUse.run_memory a hs]
    simp only
    rw [StoreUse.run_memory b rfl, hb, lookup_putEntry]
  · simp [hb, lookup_putEntry, State.replayFrom, StoreUse.next]

/-- A check that got through its write used the store as the `StoreUse` of its monitor,
its probe's status and its clock does: it leaves the store as that use leaves it. -/
theorem checkUptime_uses_store {url : String} {o : Probe.Outcome} {ip : String}
    {prev : Option State} {states : StateStore} {disk : Disk} (n : Int)
    (cfg : Option Extraction.Config) (hk : Kept m url env s o ip prev states disk) :
    (StoreUse.run ⟨m, o.status, env.now⟩).run' env s = (.ok (), { s with states, disk }) ∧
    ((checkUptime m url n cfg).run' env s).2.states = states ∧
    ((checkUptime m url n cfg).run' env s).2.disk = disk := by
  have hw := hk.write
  have hrun := (checkUptime_run'_of_kept n cfg hk).1
  refine ⟨?_, by rw [hrun], by rw [hrun]⟩
  simp [StoreUse.run, Act.run'_bind, hk.read, Except.mapError, run'_keepState, StoreUse.next, hw]

/-- With the states in memory, two checks of one monitor end, whatever the schedule that
gives each a turn, as the two checks one after the other: the state kept is the replay of
both, in the order of their first turns. -/
theorem interleave_memory (a b : StoreUse) (ha : a.monitorId = m) (hb : b.monitorId = m)
    {sts : List (String × State)} (hs : s.states = .memory sts) {sch : List Bool}
    (hA : false ∈ sch) (hB : true ∈ sch) :
    ∃ first second sts', (first = a ∧ second = b ∨ first = b ∧ second = a) ∧
      (interleave a b s.states.suspends sch .ready .ready).run' env s =
        (.ok (.done, .done), { s with states := .memory sts' }) ∧
      sts'.lookup m = State.replayFrom m (sts.lookup m)
        [(first.status, first.now), (second.status, second.now)] := by
  have hsus : s.states.suspends = false := by
    rw [hs]
    rfl
  rw [hsus, interleave_of_not_suspends a b hA hB]
  split
  · obtain ⟨sts', hrun, hlook⟩ := run_run_memory a b ha hb hs
    exact ⟨a, b, sts', .inl ⟨rfl, rfl⟩, by rw [Act.run'_bind, hrun]; rfl, hlook⟩
  · obtain ⟨sts', hrun, hlook⟩ := run_run_memory b a hb ha hs
    exact ⟨b, a, sts', .inr ⟨rfl, rfl⟩, by rw [Act.run'_bind, hrun]; rfl, hlook⟩

/-- With the states in a file, two checks of one monitor that both read before either
writes read the same state `prev`, and each keeps its next state of `prev`: the second
write keeps a state that does not count the first check. -/
theorem interleave_file_overlap (a b : StoreUse) (ha : a.monitorId = m) (hb : b.monitorId = m)
    {p : Path} (hs : s.states = .file p) {prev : Option State}
    (hget : s.states.get s.disk m = .ok prev) :
    (interleave a b s.states.suspends [false, true, false, true] .ready .ready).run' env s =
      ((keepState (a.next prev) >>= fun _ => keepState (b.next prev)) >>= fun _ =>
        pure (.done, .done)).run' env s := by
  have hsus : s.states.suspends = true := by
    rw [hs]
    rfl
  rw [hsus, interleave_reads_first]
  simp [Act.run'_bind, ha, hb, hget, Except.mapError]

theorem replayFrom_down_down (st : State) (hst : st.status = .down) (t₁ t₂ : Time.Moment) :
    ∃ st', State.replayFrom m (some st) [(.down, t₁), (.down, t₂)] = some st' ∧
      st'.failures = st.failures + 2 := by
  refine ⟨_, rfl, ?_⟩
  simp [State.next, hst]

theorem next_down_failures (u : StoreUse) (hu : u.status = .down) (st : State)
    (hst : st.status = .down) :
    (u.next (some st)).failures = st.failures + 1 := by
  simp [StoreUse.next, State.next, hu, hst]

end Runs

/-! ### Recoveries delivered again -/

section Recoveries

variable {env : Surroundings} {s : Node} {as : List Config} {h : List Firing}

/-- Whether weighing the alarm `a` against an up result `r` after a down one, at `now`,
with the history `h` and the dashboard at `dashboard`, records a recovery: the alarm's
last down firing can be found and the recovery notice written. -/
def recoveryDue (a : Config) (r : Result) (now : Time.Moment) (dashboard : String)
    (h : List Firing) : Bool :=
  match lastFiring h a.id .down with
  | .ok last => (recoveryPayload r (last.getD now) now dashboard).isOk
  | .error _ => false

theorem lastFiring_append_of_not_down {fs : List Firing} {alarmId : String}
    (hup : ∀ f ∈ fs, f.event ≠ .down) :
    lastFiring (h ++ fs) alarmId .down = lastFiring h alarmId .down := by
  have hnone : (fs.filter fun f => f.alarmId = alarmId ∧ f.event = .down) = [] :=
    List.filter_eq_nil_iff.mpr fun f hf => by simp [hup f hf]
  simp only [lastFiring, List.filter_append, hnone, List.append_nil]

theorem recoveryDue_append_of_not_down {a : Config} {r : Result} {now : Time.Moment}
    {dashboard : String} {fs : List Firing} (hup : ∀ f ∈ fs, f.event ≠ .down) :
    recoveryDue a r now dashboard (h ++ fs) = recoveryDue a r now dashboard h := by
  simp only [recoveryDue, lastFiring_append_of_not_down hup]

theorem formatDowntime_of_recoveryPayload {r : Result} {since now : Time.Moment}
    {dashboard : String} {p : Notify.Payload} (hp : recoveryPayload r since now dashboard = .ok p) :
    ∃ text, formatDowntime since now = .ok text := by
  unfold recoveryPayload at hp
  rcases hs : siteName r.url with e | site <;>
    rcases hd : formatDowntime since now with e' | text <;>
    simp_all [Except.mapError, bind, Except.bind]

/-- Weighing an alarm against an up result after a down one, with the history in memory,
records one up firing of the alarm at the engine's time when its recovery is due, and
otherwise leaves the service as it was. The kept states are not read. -/
theorem evaluate_up_memory (env : Surroundings) (hs : s.alarms = .memory as h) (a : Config)
    (m : String) {r : Result} (n : Int) (hup : r.status = .up) :
    (recoveryDue a r env.now s.settings.dashboardUrl h = true ∧
      ∃ ps ls f, f.alarmId = a.id ∧ f.event = .up ∧ f.firedAt = env.now ∧ f.monitorId = m ∧
        ((evaluate a m r n (some .down)).run' env s).2 = (s.sending ps ls).recording as h f) ∨
    (recoveryDue a r env.now s.settings.dashboardUrl h = false ∧
      ((evaluate a m r n (some .down)).run' env s).2 = s) := by
  unfold evaluate
  simp only [Act.run'_bind, Act.run'_get, run'_now, hup, reduceCtorEq, if_false]
  simp only [decide_true, Bool.and_self, if_true, Act.run'_bind, run'_lastFired_memory hs,
    run'_lift]
  rcases hl : lastFiring h a.id .down with e | last <;> simp only [Except.mapError]
  · exact .inr ⟨by simp [recoveryDue, hl], trivial⟩
  rcases hp : recoveryPayload r (last.getD env.now) env.now s.settings.dashboardUrl
    with e | payload <;> simp only
  · exact .inr ⟨by simp [recoveryDue, hl, hp, Except.isOk, Except.toBool], trivial⟩
  obtain ⟨text, hf⟩ := formatDowntime_of_recoveryPayload hp
  obtain ⟨sent, ps, ls, hd⟩ :=
    dispatch_onlySends payload (Notify.channels a s.settings) env s
  simp only [hd, hf]
  rw [run'_recordFiring_memory (by simpa using hs)]
  exact .inl ⟨by simp [recoveryDue, hl, hp, Except.isOk, Except.toBool], ps, ls, _, rfl, rfl,
    rfl, rfl, rfl⟩

/-- Weighing alarms one after another against an up result after a down one, with the
history in memory, records in order one up firing at the engine's time for each alarm
whose recovery is due, and changes nothing that is read. -/
theorem forM_evaluate_up_memory (env : Surroundings) (m : String) {r : Result} (n : Int)
    (hup : r.status = .up) (L : List Config) (hs : s.alarms = .memory as h) :
    let s' := ((L.forM fun a => do let _ ← attempt (evaluate a m r n (some .down))).run' env s).2
    ∃ fs, s'.alarms = .memory as (h ++ fs) ∧ ReadsLike s' s ∧
      fs.map Firing.alarmId =
        (L.filter fun a => recoveryDue a r env.now s.settings.dashboardUrl h).map Config.id ∧
      ∀ f ∈ fs, f.event = .up ∧ f.firedAt = env.now ∧ f.monitorId = m := by
  induction L generalizing s h with
  | nil => exact ⟨[], by simpa using hs, .refl s, rfl, by simp⟩
  | cons a L ih =>
    simp only [List.forM, Act.run'_bind, Act.run'_attempt, Act.run'_pure]
    rcases evaluate_up_memory env hs a m n hup with
      ⟨hdue, ps, ls, f, hid, hev, hat, hm, hrun⟩ | ⟨hdue, hrun⟩
    · rw [hrun]
      obtain ⟨fs, hfin, hreads, hids, hups⟩ :=
        ih (s := (s.sending ps ls).recording as h f) (h := h ++ [f]) (by simp)
      have hsame : ∀ b : Config, recoveryDue b r env.now s.settings.dashboardUrl (h ++ [f]) =
          recoveryDue b r env.now s.settings.dashboardUrl h := fun b =>
        recoveryDue_append_of_not_down (by simp [hev])
      have hread₁ : ReadsLike ((s.sending ps ls).recording as h f) s := ⟨rfl, rfl, rfl, rfl⟩
      refine ⟨f :: fs, by simpa using hfin, hread₁.trans hreads, ?_, ?_⟩
      · simp only [Node.recording, Node.sending_settings] at hids
        simp [hdue, hid, hids, hsame]
      · intro g hg
        rcases List.mem_cons.mp hg with rfl | hg
        · exact ⟨hev, hat, hm⟩
        · exact hups g hg
    · rw [hrun]
      obtain ⟨fs, hfin, hreads, hids, hups⟩ := ih hs
      exact ⟨fs, hfin, hreads, by simp [hdue, hids], hups⟩

/-- The engine weighing an up result after a down one, with the history in memory,
records one up firing for each enabled uptime alarm of the monitor whose recovery is
due. -/
theorem checkAlarms_up_memory (env : Surroundings) (m : String) {r : Result} (n : Int)
    (hup : r.status = .up) (hs : s.alarms = .memory as h) :
    let s' := ((checkAlarms m r n (some .down)).run' env s).2
    ∃ fs, s'.alarms = .memory as (h ++ fs) ∧ ReadsLike s' s ∧
      fs.map Firing.alarmId =
        ((as.filter fun a => a.enabled && a.monitorId == m && a.triggerType == "uptime").filter
          fun a => recoveryDue a r env.now s.settings.dashboardUrl h).map Config.id ∧
      ∀ f ∈ fs, f.event = .up ∧ f.firedAt = env.now ∧ f.monitorId = m := by
  simp only [checkAlarms, Act.run'_bind, Act.run'_attempt, run'_alarmsOf, hs,
    Store.AlarmStore.enabledAlarms]
  exact forM_evaluate_up_memory env m n hup _ hs

/-- Along calls of the engine that each deliver an up result after a down one, with the
history in memory, each call records its own batch of recoveries: one up firing, at that
call's clock, for each enabled uptime alarm of its monitor whose recovery is due from the
history as it was. The kept states are neither read nor changed: a result delivered again
records its recoveries again. -/
theorem recoveries_per_delivery (calls : List AlarmCall) (hs : s.alarms = .memory as h)
    (hup : ∀ c ∈ calls, c.result.status = .up ∧ c.previous = some .down) :
    ∃ batches : List (List Firing), batches.length = calls.length ∧
      (weighAll s calls).alarms = .memory as (h ++ batches.flatten) ∧
      ReadsLike (weighAll s calls) s ∧
      ∀ c b, (c, b) ∈ calls.zip batches →
        b.map Firing.alarmId =
          ((as.filter fun a => a.enabled && a.monitorId == c.monitorId &&
            a.triggerType == "uptime").filter
              fun a => recoveryDue a c.result c.env.now s.settings.dashboardUrl h).map Config.id ∧
        ∀ f ∈ b, f.event = .up ∧ f.firedAt = c.env.now ∧ f.monitorId = c.monitorId := by
  induction calls generalizing s h with
  | nil => exact ⟨[], rfl, by simpa [weighAll] using hs, .refl s, by simp⟩
  | cons c calls ih =>
    obtain ⟨hstatus, hprev⟩ := hup c List.mem_cons_self
    obtain ⟨fs, hgrew, hreads, hids, hups⟩ :=
      checkAlarms_up_memory c.env c.monitorId c.failures hstatus hs
    rw [← hprev] at hgrew hreads
    obtain ⟨batches, hlen, hfin, hreads', hbatches⟩ :=
      ih hgrew fun c' hc' => hup c' (List.mem_cons_of_mem _ hc')
    have hsame : ∀ (a : Config) (c' : AlarmCall),
        recoveryDue a c'.result c'.env.now s.settings.dashboardUrl (h ++ fs) =
          recoveryDue a c'.result c'.env.now s.settings.dashboardUrl h := fun a c' =>
      recoveryDue_append_of_not_down fun f hf => by simp [(hups f hf).1]
    refine ⟨fs :: batches, by simp [hlen], by simpa [weighAll] using hfin,
      hreads.trans hreads', fun c' b hcb => ?_⟩
    rcases List.mem_cons.mp hcb with hfirst | hrest
    · obtain ⟨rfl, rfl⟩ := Prod.mk.inj hfirst
      exact ⟨hids, hups⟩
    · obtain ⟨hb, hfb⟩ := hbatches c' b hrest
      rw [hreads.settings] at hb
      simp only [hsame] at hb
      exact ⟨hb, hfb⟩

end Recoveries

/-! ### Overlapping checks and repeated deliveries -/

/-- Two checks of the monitor `m` at one store, finding `sa` at `ta` and `sb` at `tb`,
each followed by the engine weighing its result. In memory, every schedule that gives
each check a turn ends with the replay of the two checks in one order or the other. On
the file store, when both read before either writes, both keep the next state of the one
state they read. So two failing checks after a failing state add two to its streak in
memory, while on the file store the state kept last counts only one of them. The engine
does not read the kept states before a recovery: every delivery of an up result after a
down one records its recoveries, one for each enabled alarm of the monitor whose notice
can be written. -/
theorem overlapping_checks_and_repeated_recoveries (env : Surroundings) (s : Node)
    (m : String) (sa sb : Status) (ta tb : Time.Moment) :
    (∀ (sts : List (String × State)) (sch : List Bool),
      s.states = .memory sts → false ∈ sch → true ∈ sch →
      ∃ sts', (interleave ⟨m, sa, ta⟩ ⟨m, sb, tb⟩ s.states.suspends sch .ready .ready).run'
          env s = (.ok (.done, .done), { s with states := .memory sts' }) ∧
        (sts'.lookup m = State.replayFrom m (sts.lookup m) [(sa, ta), (sb, tb)] ∨
          sts'.lookup m = State.replayFrom m (sts.lookup m) [(sb, tb), (sa, ta)])) ∧
    (∀ (p : Path) (prev : Option State), s.states = .file p → s.states.get s.disk m = .ok prev →
      (interleave ⟨m, sa, ta⟩ ⟨m, sb, tb⟩ s.states.suspends [false, true, false, true]
          .ready .ready).run' env s =
        ((keepState (State.next m sa prev ta) >>= fun _ => keepState (State.next m sb prev tb))
          >>= fun _ => pure (.done, .done)).run' env s) ∧
    (∀ st : State, st.status = .down → sa = .down → sb = .down →
      (∃ st', State.replayFrom m (some st) [(sa, ta), (sb, tb)] = some st' ∧
        st'.failures = st.failures + 2) ∧
      (State.next m sb (some st) tb).failures = st.failures + 1) ∧
    ∀ (as : List Config) (h : List Firing) (calls : List AlarmCall),
      s.alarms = .memory as h → (∀ c ∈ calls, c.result.status = .up ∧ c.previous = some .down) →
      ∃ batches : List (List Firing), batches.length = calls.length ∧
        (weighAll s calls).alarms = .memory as (h ++ batches.flatten) ∧
        (weighAll s calls).states = s.states ∧
        ∀ c b, (c, b) ∈ calls.zip batches →
          b.map Firing.alarmId =
            ((as.filter fun a => a.enabled && a.monitorId == c.monitorId &&
              a.triggerType == "uptime").filter
                fun a => recoveryDue a c.result c.env.now s.settings.dashboardUrl h).map
              Config.id ∧
          ∀ f ∈ b, f.event = .up ∧ f.firedAt = c.env.now ∧ f.monitorId = c.monitorId := by
  refine ⟨fun sts sch hs hA hB => ?_, fun p prev hs hget => ?_, fun st hst ha hb => ?_,
    fun as h calls hs hup => ?_⟩
  · obtain ⟨first, second, sts', horder, hrun, hlook⟩ :=
      interleave_memory ⟨m, sa, ta⟩ ⟨m, sb, tb⟩ rfl rfl hs hA hB
    rcases horder with ⟨rfl, rfl⟩ | ⟨rfl, rfl⟩
    · exact ⟨sts', hrun, .inl hlook⟩
    · exact ⟨sts', hrun, .inr hlook⟩
  · exact interleave_file_overlap ⟨m, sa, ta⟩ ⟨m, sb, tb⟩ rfl rfl hs hget
  · subst ha hb
    exact ⟨replayFrom_down_down st hst ta tb, next_down_failures ⟨m, .down, tb⟩ rfl st hst⟩
  · obtain ⟨batches, hlen, hfin, hreads, hbatches⟩ := recoveries_per_delivery calls hs hup
    exact ⟨batches, hlen, hfin, hreads.states, hbatches⟩

/-- An alarm of `m1` with a threshold of one failure, a cooldown of five minutes and no
channel. -/
def quietAlarm : Config :=
  { id := "a1", name := "down", monitorId := "m1",
    ownConditions := some { failures := 1, cooldownMinutes := 5 } }

def noonMarch : Time.Moment := ⟨1772366400000000, some 0⟩

/-- The service after a check found `m1` up at `noonMarch` when it was kept down: the up
state kept once, `quietAlarm`, and no firings yet. -/
def recoveredService : Node :=
  { settings := {}, disk := {}, states := .memory [("m1", ⟨"m1", .up, 0, noonMarch, noonMarch⟩)],
    alarms := .memory [quietAlarm] [] }

def recoveryResult : Result :=
  { monitorId := "m1", url := "https://example.com", timestamp := 1772366400000,
    status := .up, httpCode := 200, ttfbMs := 0, totalMs := 0, failureStreak := 0,
    probeRegion := "default", probeIp := "203.0.113.7", userAgent := "",
    previousStatus := some .down }

def recoveryCall : AlarmCall :=
  { env := .offline noonMarch .accepting, monitorId := "m1", result := recoveryResult,
    failures := 0, previous := some .down }

/-- A recovery delivered again is recorded again: the kept state of `m1` changed from down
to up once, yet delivering the check's result twice records two up firings of
`quietAlarm`, and the kept state stays as it was. -/
theorem redelivered_recovery_recorded_twice :
    ∃ f₁ f₂, (weighAll recoveredService [recoveryCall, recoveryCall]).alarms =
        .memory [quietAlarm] [f₁, f₂] ∧
      f₁.alarmId = "a1" ∧ f₁.event = .up ∧ f₂.alarmId = "a1" ∧ f₂.event = .up ∧
      (weighAll recoveredService [recoveryCall, recoveryCall]).states =
        recoveredService.states := by
  obtain ⟨batches, hlen, hfin, hreads, hbatches⟩ :=
    recoveries_per_delivery [recoveryCall, recoveryCall] (s := recoveredService) rfl
      (by simp [recoveryCall, recoveryResult])
  have hdue : ((([quietAlarm].filter fun a => a.enabled && a.monitorId == recoveryCall.monitorId &&
      a.triggerType == "uptime").filter fun a => recoveryDue a recoveryCall.result
        recoveryCall.env.now recoveredService.settings.dashboardUrl []).map Config.id) =
      ["a1"] := by
    decide +kernel
  obtain ⟨b₁, b₂, rfl⟩ := List.length_eq_two.mp hlen
  have hone : ∀ b, (recoveryCall, b) ∈ [recoveryCall, recoveryCall].zip [b₁, b₂] →
      ∃ f, b = [f] ∧ f.alarmId = "a1" ∧ f.event = .up := by
    intro b hb
    obtain ⟨hids, hups⟩ := hbatches recoveryCall b hb
    rw [hdue] at hids
    obtain ⟨f, rfl, hf⟩ := List.map_eq_singleton_iff.mp hids
    exact ⟨f, rfl, hf, (hups f (by simp)).1⟩
  obtain ⟨f₁, rfl, hid₁, hev₁⟩ := hone b₁ (by simp)
  obtain ⟨f₂, rfl, hid₂, hev₂⟩ := hone b₂ (by simp)
  exact ⟨f₁, f₂, by simpa using hfin, hid₁, hev₁, hid₂, hev₂, hreads.states⟩

end Uptime.Service
