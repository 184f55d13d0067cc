import Uptime.Proofs.Cooldown
/-! When the engine records a down firing. Weighing an alarm against a down result
records one exactly when it is due (`DownDue`): the result crosses the alarm's threshold,
the last down firing of the alarm can be found and its cooldown is over, and the outage
start and the notification can be had (`evaluate_down_memory`). Each of these steps can
fail on the clocks: the last firing is the latest of moments that must be of one kind,
the cooldown moves it on within the calendar, and the notification measures the outage
from its start to the engine's time. Weighing all the alarms of a monitor, of distinct
ids, fires each exactly when it is due on the history as it was
(`checkAlarms_fires_iff`). -/

namespace Uptime.Alarm

open Uptime.Time Uptime.Time.Moment

/-! ### When the clock steps succeed -/

theorem laterOf_ok {a b : Moment} (hk : a.sameKind b = true) :
    ∃ c, laterOf a b = .ok c ∧ (c = a ∨ c = b) := by
  have hlt : a.lt b = .ok (decide (a.key < b.key)) := by simp [Moment.lt, hk]
  by_cases hab : a.key < b.key
  · exact ⟨b, by simp [laterOf, hlt, hab, bind, Except.bind, pure, Except.pure], .inr rfl⟩
  · exact ⟨a, by simp [laterOf, hlt, hab, bind, Except.bind, pure, Except.pure], .inl rfl⟩

theorem foldlM_laterOf_ok :
    ∀ (ts : List Moment) (t₀ : Moment), (∀ x ∈ ts, x.offset.isSome = t₀.offset.isSome) →
      ∃ t, ts.foldlM laterOf t₀ = .ok t ∧ t ∈ t₀ :: ts
  | [], t₀, _ => ⟨t₀, rfl, List.mem_cons_self⟩
  | u :: ts, t₀, hk => by
    have hu : t₀.sameKind u = true := by
      simp [sameKind, hk u List.mem_cons_self]
    obtain ⟨c, hc, hcw⟩ := laterOf_ok hu
    have hck : c.offset.isSome = t₀.offset.isSome := by
      rcases hcw with rfl | rfl
      · rfl
      · exact hk c List.mem_cons_self
    obtain ⟨t, ht, htm⟩ := foldlM_laterOf_ok ts c fun x hx => by
      rw [hck]
      exact hk x (List.mem_cons_of_mem _ hx)
    refine ⟨t, by simp [List.foldlM_cons, hc, ht, bind, Except.bind], ?_⟩
    rcases List.mem_cons.mp htm with rfl | htm
    · rcases hcw with rfl | rfl
      · exact List.mem_cons_self
      · exact List.mem_cons_of_mem _ List.mem_cons_self
    · exact List.mem_cons_of_mem _ (List.mem_cons_of_mem _ htm)

/-- The last firing of an alarm for an event is found when all its firings for it carry
an offset, and it is the time of one of them. -/
theorem lastFiring_ok {history : List Firing} {alarmId : String} {event : Event}
    (haware : ∀ g ∈ history, g.alarmId = alarmId → g.event = event →
      g.firedAt.offset.isSome) :
    ∃ last, lastFiring history alarmId event = .ok last ∧
      ∀ t ∈ last,
        ∃ g ∈ history, g.alarmId = alarmId ∧ g.event = event ∧ g.firedAt = t := by
  have hmem : ∀ t ∈ (history.filter fun f => f.alarmId = alarmId ∧ f.event = event).map
      (·.firedAt), t.offset.isSome ∧
        ∃ g ∈ history, g.alarmId = alarmId ∧ g.event = event ∧ g.firedAt = t := by
    intro t ht
    obtain ⟨g, hg, rfl⟩ := List.mem_map.mp ht
    obtain ⟨hg, hge⟩ := List.mem_filter.mp hg
    simp only [decide_eq_true_eq] at hge
    exact ⟨haware g hg hge.1 hge.2, g, hg, hge.1, hge.2, rfl⟩
  dsimp only [lastFiring]
  split
  · exact ⟨none, rfl, fun t ht => by cases ht⟩
  · rename_i t ts hts
    rw [hts] at hmem
    obtain ⟨t', ht', htm⟩ := foldlM_laterOf_ok ts t fun x hx => by
      rw [(hmem x (List.mem_cons_of_mem _ hx)).1, (hmem t List.mem_cons_self).1]
    refine ⟨some t', by simp [ht', Functor.map, Except.map], fun u hu => ?_⟩
    rw [Option.mem_def, Option.some.injEq] at hu
    subst hu
    exact (hmem _ htm).2

/-- A cooldown of up to a day is over at `now` when the last firing, moved on by it,
stays in the calendar and `now` is at least that long after it. -/
theorem cooldownActive_eq_false {last : Option Moment} {c : Int} {now : Moment}
    (hc : 0 ≤ c ∧ c ≤ 1440)
    (hlast : ∀ t ∈ last, minWall ≤ t.wall + c * usMinute ∧
      t.wall + c * usMinute ≤ maxWall ∧
      t.Follows now (c * usMinute)) :
    cooldownActive last (.whole c) now = .ok false := by
  cases last with
  | none => rfl
  | some t =>
    obtain ⟨hlo, hhi, hk, hle⟩ := hlast t rfl
    have hspan : checkSpan (c * usMinute) = .ok (c * usMinute) := by
      have hdays : (c * usMinute).fdiv usDay = (c * usMinute) / usDay :=
        Int.fdiv_eq_ediv_of_nonneg _ (by decide)
      -- a cooldown of up to a day spans no more than one whole day
      have h0 : 0 ≤ (c * usMinute) / usDay := by
        simp only [usDay, usHour, usMinute, usSecond]; omega
      have h1 : (c * usMinute) / usDay ≤ 1 := by
        simp only [usDay, usHour, usMinute, usSecond]; omega
      simp only [checkSpan, hdays]
      rw [if_neg (by omega), if_neg (by omega)]
    have hend : t.addMicros (c * usMinute) = .ok ⟨t.wall + c * usMinute, t.offset⟩ := by
      simp [addMicros, hlo, hhi]
    have hsame : now.sameKind ⟨t.wall + c * usMinute, t.offset⟩ = true := by
      simp only [sameKind, beq_iff_eq] at hk ⊢
      exact hk.symm
    have hkey := (key_of_addMicros hend).1
    simp only [cooldownActive, bind, Except.bind, Minutes.span, Minutes.micros_whole, hspan,
      hend, Moment.lt, hsame, if_true, Except.ok.injEq, decide_eq_false_iff_not, Int.not_lt]
    omega

/-- A down notification can be built when the address splits and the outage start can be
compared with the time of the notification. -/
theorem downPayload_ok {r : Monitor.Result} {n : Int} {since now : Moment} {dashboard : String}
    (hurl : ∃ p, Url.split r.url = .ok p) (hk : since.sameKind now = true) :
    ∃ p, downPayload r n since now dashboard = .ok p := by
  obtain ⟨p, hp⟩ := hurl
  have hdiff : now.diff since = .ok (now.key - since.key) := by simp [Moment.diff, hk]
  simp only [downPayload, siteName, humanizeSince, hp, hdiff, bind, Except.bind,
    Except.mapError, Functor.map, Except.map, pure, Except.pure]
  exact ⟨_, rfl⟩

/-- A down notification cannot be built when the outage start and the time of the
notification are of two kinds. -/
theorem downPayload_ne_ok_of_kinds {r : Monitor.Result} {n : Int} {since now : Moment}
    {dashboard : String} (hk : since.sameKind now = false) (p : Notify.Payload) :
    downPayload r n since now dashboard ≠ .ok p := by
  have hdiff : now.diff since = .error .mixedSubtract := by simp [Moment.diff, hk]
  simp only [downPayload, humanizeSince, hdiff, bind, Except.bind, Except.mapError,
    Functor.map, Except.map]
  split <;> simp

end Uptime.Alarm

namespace Uptime.Time.Moment

theorem offset_of_ofEpochMillis {ms : Int} {t : Moment} (h : ofEpochMillis ms = .ok t) :
    t.offset = some 0 := by
  dsimp only [ofEpochMillis, ofEpochSeconds] at h
  split at h
  · split at h
    · cases h
    · split at h
      repeat' split at h
      all_goals first | (cases h; rfl) | cases h
  · cases h

end Uptime.Time.Moment

namespace Uptime.Service

open Uptime.Monitor Uptime.Alarm Uptime.Store Uptime.Time

variable {env : Surroundings} {s : Node} {as : List Config} {h : List Firing}

/-- Weighing the alarm `a` against a down result `r` at `now`, with the history `h`, the
outage start `start` found and the dashboard at `dashboard`, records a down firing when
the result crosses the alarm's threshold, the cooldown from the alarm's last down firing
is over, and the outage start and the notification can be had. -/
def DownDue (a : Config) (r : Result) (n : Int) (prev : Option Status) (now : Moment)
    (start : Except Fault Moment) (dashboard : String) (h : List Firing) : Prop :=
  crossesDown n prev a.conditions.failures = true ∧
  (∃ last, lastFiring h a.id .down = .ok last ∧
    cooldownActive last (.whole a.conditions.cooldownMinutes) now = .ok false) ∧
  ∃ since, start = .ok since ∧ ∃ p, downPayload r n since now dashboard = .ok p

/-- Weighing an alarm against a down result, with the history in memory, records one
down firing of the alarm at the engine's time when it is due, and otherwise leaves the
service as it was: nothing is sent unless the firing is recorded. -/
theorem evaluate_down_memory (env : Surroundings) (hs : s.alarms = .memory as h) (a : Config)
    (m : String) {r : Result} (n : Int) (prev : Option Status) (hdown : r.status = .down) :
    (DownDue a r n prev env.now (outageStartOf s m r) s.settings.dashboardUrl h ∧
      ∃ ps ls f, f.alarmId = a.id ∧ f.event = .down ∧ f.firedAt = env.now ∧
        ((evaluate a m r n prev).run' env s).2 = (s.sending ps ls).recording as h f) ∨
    (¬ DownDue a r n prev env.now (outageStartOf s m r) s.settings.dashboardUrl h ∧
      ((evaluate a m r n prev).run' env s).2 = s) := by
  unfold evaluate
  simp only [Act.run'_bind, Act.run'_get, run'_now, hdown, if_true]
  by_cases hx : crossesDown n prev a.conditions.failures = true
  · simp only [hx, Bool.not_true, Bool.false_eq_true, if_false, Act.run'_bind,
      run'_lastFired_memory hs, run'_lift]
    rcases hl : lastFiring h a.id .down with e | last <;> simp only [Except.mapError]
    · exact .inr ⟨by rintro ⟨-, ⟨_, hl', -⟩, -⟩; simp [hl] at hl', trivial⟩
    rcases hc : cooldownActive last (.whole a.conditions.cooldownMinutes) env.now
      with e | active <;> simp only
    · exact .inr ⟨by rintro ⟨-, ⟨_, hl', hc'⟩, -⟩; simp_all, trivial⟩
    cases active
    · simp only [Bool.false_eq_true, if_false, Act.run'_bind, run'_outageStart]
      rcases ho : outageStartOf s m r with e | since <;> simp only
      · exact .inr ⟨by rintro ⟨-, -, _, ho', -⟩; simp at ho', trivial⟩
      simp only [run'_lift]
      rcases hp : downPayload r n since env.now s.settings.dashboardUrl with e | payload <;>
        simp only [Except.mapError]
      · exact .inr ⟨by rintro ⟨-, -, since', ho', p, hp'⟩; simp_all, trivial⟩
      obtain ⟨sent, ps, ls, hd⟩ :=
        dispatch_onlySends payload (Notify.channels a s.settings) env s
      simp only [hd]
      rw [run'_recordFiring_memory (by simpa using hs)]
      exact .inl ⟨⟨hx, ⟨last, hl, hc⟩, since, rfl, payload, hp⟩, ps, ls, _,
        rfl, rfl, rfl, rfl⟩
    · exact .inr ⟨by rintro ⟨-, ⟨_, hl', hc'⟩, -⟩; simp_all, rfl⟩
  · simp only [Bool.not_eq_true] at hx
    simp only [hx, Bool.not_false, if_true]
    exact .inr ⟨by rintro ⟨hx', -⟩; simp [hx] at hx', rfl⟩

theorem lastFiring_append_of_ne {h fs : List Firing} {alarmId : String} {event : Event}
    (hne : ∀ f ∈ fs, f.alarmId ≠ alarmId) :
    lastFiring (h ++ fs) alarmId event = lastFiring h alarmId event := by
  have hnone : (fs.filter fun f => f.alarmId = alarmId ∧ f.event = event) = [] :=
    List.filter_eq_nil_iff.mpr fun f hf => by simp [hne f hf]
  simp only [lastFiring, List.filter_append, hnone, List.append_nil]

theorem downDue_append_of_ne {a : Config} {r : Result} {n : Int} {prev : Option Status}
    {now : Moment} {start : Except Fault Moment} {dashboard : String} {fs : List Firing}
    (hne : ∀ f ∈ fs, f.alarmId ≠ a.id) :
    DownDue a r n prev now start dashboard (h ++ fs) ↔
      DownDue a r n prev now start dashboard h := by
  simp only [DownDue, lastFiring_append_of_ne hne]

theorem outageStartOf_of_readsLike {s' : Node} (hr : ReadsLike s' s) (m : String) (r : Result) :
    outageStartOf s' m r = outageStartOf s m r := by
  simp [outageStartOf, hr.states, hr.disk, hr.outageFromStates]

theorem forM_evaluate_ids_ne (env : Surroundings) (m : String) (r : Result) (n : Int)
    (prev : Option Status) {L : List Config} {i : String} (hi : i ∉ L.map (·.id))
    (hs : s.alarms = .memory as h) :
    ∃ added,
      ((L.forM fun b => do let _ ← attempt (evaluate b m r n prev)).run' env s).2.alarms =
        .memory as (h ++ added) ∧ ∀ f ∈ added, f.alarmId ≠ i := by
  obtain ⟨produced, hfin, -, hfrom, -⟩ := forM_evaluate_memory env m r n prev L hs
  refine ⟨produced.map Prod.snd, hfin, fun f hf => ?_⟩
  obtain ⟨p, hp, rfl⟩ := List.mem_map.mp hf
  obtain ⟨hmem, hid, -⟩ := hfrom p hp
  rw [hid]
  exact fun e => hi (e ▸ List.mem_map_of_mem hmem)

/-- Weighing `a` first and then alarms of other ids, with the history in memory: `a` gets a
down firing exactly when the result is down and the firing is due, the alarms after it
adding firings of other ids only. -/
theorem forM_evaluate_first_fires_iff (env : Surroundings) (m : String) (r : Result) (n : Int)
    (prev : Option Status) {a : Config} {L : List Config} (ha : a.id ∉ L.map (·.id))
    (hs : s.alarms = .memory as h) :
    ∃ added,
      (((a :: L).forM fun b => do let _ ← attempt (evaluate b m r n prev)).run' env s).2.alarms =
        .memory as (h ++ added) ∧
      ((∃ f ∈ added, f.alarmId = a.id ∧ f.event = .down) ↔
        r.status = .down ∧
          DownDue a r n prev env.now (outageStartOf s m r) s.settings.dashboardUrl h) := by
  simp only [List.forM, Act.run'_bind, Act.run'_attempt, Act.run'_pure]
  by_cases hdown : r.status = .down
  · rcases evaluate_down_memory env hs a m n prev hdown with
      ⟨hdue, ps, ls, f, hid, hev, -, hs'⟩ | ⟨hnot, hs'⟩
    · rw [hs']
      have hgrew : ((s.sending ps ls).recording as h f).alarms = .memory as (h ++ [f]) := by
        simp
      obtain ⟨added, hfin, -⟩ := forM_evaluate_ids_ne env m r n prev ha hgrew
      exact ⟨f :: added, by simpa using hfin,
        iff_of_true ⟨f, List.mem_cons_self, hid, hev⟩ ⟨hdown, hdue⟩⟩
    · rw [hs']
      obtain ⟨added, hfin, hne⟩ := forM_evaluate_ids_ne env m r n prev ha hs
      exact ⟨added, hfin, iff_of_false (by rintro ⟨f, hf, hid, -⟩; exact hne f hf hid)
        fun hdue => hnot hdue.2⟩
  · obtain ⟨-, hsame | ⟨f, -, -, hev, -, hgrew⟩⟩ :=
      (evaluate_memory env hs a m r n prev).effect hs
    · obtain ⟨added, hfin, hne⟩ := forM_evaluate_ids_ne env m r n prev ha hsame
      exact ⟨added, hfin, iff_of_false (by rintro ⟨f, hf, hid, -⟩; exact hne f hf hid)
        fun hdue => hdown hdue.1⟩
    · obtain ⟨added, hfin, hne⟩ := forM_evaluate_ids_ne env m r n prev ha hgrew
      refine ⟨f :: added, by simpa using hfin, iff_of_false ?_ fun hdue => hdown hdue.1⟩
      rw [List.exists_mem_cons_iff]
      rintro (⟨-, hfd⟩ | ⟨g, hg, hid, -⟩)
      · exact hdown (hev.mp hfd)
      · exact hne g hg hid

/-- Weighing alarms of distinct ids one after another, with the history in memory: the
alarm `a` among them gets a down firing exactly when the result is down and the firing is
due on the history as it was before any of them. -/
theorem forM_evaluate_fires_iff (env : Surroundings) (m : String) (r : Result) (n : Int)
    (prev : Option Status)
    {a : Config} {L : List Config} (ha : a ∈ L) (hids : (L.map (·.id)).Nodup)
    (hs : s.alarms = .memory as h) :
    ∃ added,
      ((L.forM fun b => do let _ ← attempt (evaluate b m r n prev)).run' env s).2.alarms =
        .memory as (h ++ added) ∧
      ((∃ f ∈ added, f.alarmId = a.id ∧ f.event = .down) ↔
        r.status = .down ∧
          DownDue a r n prev env.now (outageStartOf s m r) s.settings.dashboardUrl h) := by
  induction L generalizing s h with
  | nil => cases ha
  | cons b L ih =>
    rw [List.map_cons, List.nodup_cons] at hids
    obtain ⟨hb, hids⟩ := hids
    by_cases hab : b = a
    · subst hab
      exact forM_evaluate_first_fires_iff env m r n prev hb hs
    · have ha' : a ∈ L := (List.mem_cons.mp ha).resolve_left (Ne.symm hab)
      have hne : b.id ≠ a.id := fun e => hb (e ▸ List.mem_map_of_mem ha')
      simp only [List.forM, Act.run'_bind, Act.run'_attempt, Act.run'_pure]
      obtain ⟨hreads, hsame | ⟨f, hid, -, -, -, hgrew⟩⟩ :=
        (evaluate_memory env hs b m r n prev).effect hs
      · obtain ⟨added, hfin, hiff⟩ := ih ha' hids hsame
        refine ⟨added, hfin, ?_⟩
        rw [hiff, outageStartOf_of_readsLike hreads, hreads.settings]
      · obtain ⟨added, hfin, hiff⟩ := ih ha' hids hgrew
        refine ⟨f :: added, by simpa using hfin, ?_⟩
        have hf : ∀ g ∈ [f], g.alarmId ≠ a.id := by simpa [hid] using hne
        rw [outageStartOf_of_readsLike hreads, hreads.settings, downDue_append_of_ne hf] at hiff
        rw [← hiff, List.exists_mem_cons_iff, or_iff_right fun hfa => hne (hid.symm.trans hfa.1)]

/-- With alarms of the monitor only, all enabled for uptime checks and of distinct ids,
the engine gives the alarm `a` a down firing exactly when the result is down and the
firing is due on the history as it was. -/
theorem checkAlarms_fires_iff (env : Surroundings) {m : String} (r : Result) (n : Int)
    (prev : Option Status)
    (hmine : ∀ b ∈ as, b.enabled = true ∧ b.monitorId = m ∧ b.triggerType = "uptime")
    (hids : (as.map (·.id)).Nodup) {a : Config} (ha : a ∈ as) (hs : s.alarms = .memory as h) :
    ∃ added, ((checkAlarms m r n prev).run' env s).2.alarms = .memory as (h ++ added) ∧
      ((∃ f ∈ added, f.alarmId = a.id ∧ f.event = .down) ↔
        r.status = .down ∧
          DownDue a r n prev env.now (outageStartOf s m r) s.settings.dashboardUrl h) := by
  have hall :
      (as.filter fun b => b.enabled && b.monitorId == m && b.triggerType == "uptime") = as :=
    List.filter_eq_self.mpr fun b hb => by simp [hmine b hb]
  simp only [checkAlarms, Act.run'_bind, Act.run'_attempt, run'_alarmsOf, hs,
    Store.AlarmStore.enabledAlarms]
  simp only [pure, Except.pure, bind, Except.bind, Except.mapError, hall]
  exact forM_evaluate_fires_iff env m r n prev ha hids hs

/-- The firings the engine adds to the history in memory hold a down firing of `a` exactly
when the result is down and the firing is due on the history as it was. -/
theorem checkAlarms_added_fires_iff (env : Surroundings) {m : String} (r : Result) (n : Int)
    (prev : Option Status)
    (hmine : ∀ b ∈ as, b.enabled = true ∧ b.monitorId = m ∧ b.triggerType = "uptime")
    (hids : (as.map (·.id)).Nodup) {a : Config} (ha : a ∈ as) (hs : s.alarms = .memory as h)
    {added : List Firing}
    (hadded : ((checkAlarms m r n prev).run' env s).2.alarms = .memory as (h ++ added)) :
    (∃ f ∈ added, f.alarmId = a.id ∧ f.event = .down) ↔
      r.status = .down ∧
        DownDue a r n prev env.now (outageStartOf s m r) s.settings.dashboardUrl h := by
  obtain ⟨added', hfin, hiff⟩ := checkAlarms_fires_iff env r n prev hmine hids ha hs
  rw [hadded, AlarmStore.memory.injEq] at hfin
  rw [List.append_cancel_left hfin.2]
  exact hiff

/-- An alarm whose threshold a down result does not cross is passed over: weighing it
changes nothing and sends nothing. -/
theorem evaluate_of_not_crosses {a : Config} {m : String} {r : Result} {n : Int}
    {prev : Option Status} (hdown : r.status = .down)
    (hx : crossesDown n prev a.conditions.failures = false) (env : Surroundings) (s : Node) :
    ((evaluate a m r n prev).run' env s).2 = s := by
  simp [evaluate, Act.run'_bind, Act.run'_map, hdown, hx]

theorem offset_of_outageStartOf {m : String} {r : Result} {since : Moment}
    (hfrom : s.outageFromStates = false) (h : outageStartOf s m r = .ok since) :
    since.offset = some 0 := by
  simp only [outageStartOf, hfrom, Bool.false_eq_true, if_false, Result.checkedAt] at h
  rcases ht : Moment.ofEpochMillis r.timestamp with e | t
  · simp [ht, Except.mapError] at h
  · simp only [ht, Except.mapError, Except.ok.injEq] at h
    subst h
    exact Moment.offset_of_ofEpochMillis ht

end Uptime.Service
