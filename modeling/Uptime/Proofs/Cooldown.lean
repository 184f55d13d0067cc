import Uptime.Proofs.Step
/-! Cooldowns between down notifications, with the history of firings kept in memory.
The engine looks up the last down firing of an alarm as the latest of them by `laterOf`,
which fails on moments of two kinds, and lets a down result through only when the
cooldown from that firing is over at the time it then records. So every down firing it
records comes at least the cooldown of the alarm that produced it after every down
firing of the same alarm id already kept (`Clear`), for any clock readings and any list
of alarms, ids shared or not; and a down result that sends anything records its firing
(`evaluate_memory`). Along any sequence of calls the history grows only by such firings
(`weighAll_memory`). -/

namespace Uptime.Time.Moment

def Follows (a b : Moment) (us : Int) : Prop :=
  a.sameKind b = true ∧ a.key + us ≤ b.key

theorem sameKind_trans {a b c : Moment} (h₁ : a.sameKind b = true) (h₂ : b.sameKind c = true) :
    a.sameKind c = true := by
  simp only [sameKind, beq_iff_eq] at *
  exact h₁.trans h₂

theorem Follows.refl (a : Moment) : Follows a a 0 := by
  simp [Follows, sameKind]

theorem Follows.trans {a b c : Moment} {us : Int} (h₁ : Follows a b 0) (h₂ : Follows b c us) :
    Follows a c us :=
  ⟨sameKind_trans h₁.1 h₂.1, by have := h₁.2; have := h₂.2; omega⟩

theorem follows_of_lt_eq_false {a b : Moment} (h : a.lt b = .ok false) : Follows b a 0 := by
  unfold lt at h
  split at h
  · rename_i hk
    simp only [Except.ok.injEq, decide_eq_false_iff_not, Int.not_lt] at h
    refine ⟨?_, by omega⟩
    simp only [sameKind, beq_iff_eq] at hk ⊢
    exact hk.symm
  · cases h

theorem key_of_addMicros {t t' : Moment} {us : Int} (h : t.addMicros us = .ok t') :
    t'.key = t.key + us ∧ t'.offset = t.offset := by
  dsimp only [addMicros] at h
  split at h
  · cases h
    constructor
    · cases ho : t.offset with
      | none => simp [key, ho]
      | some o => simp [key, ho]; omega
    · rfl
  · cases h

theorem eq_of_checkSpan_ok {us v : Int} (h : checkSpan us = .ok v) : v = us := by
  dsimp only [checkSpan] at h
  split at h
  · cases h
  · split at h
    · cases h
    · cases h
      rfl

end Uptime.Time.Moment

namespace Uptime.Alarm

open Uptime.Time Uptime.Time.Moment

theorem follows_laterOf {a b c : Moment} (h : laterOf a b = .ok c) :
    Follows a c 0 ∧ Follows b c 0 := by
  unfold laterOf at h
  by_cases hk : a.sameKind b = true
  · have hk' : b.sameKind a = true := by
      simp only [sameKind, beq_iff_eq] at hk ⊢
      exact hk.symm
    have hlt : a.lt b = .ok (decide (a.key < b.key)) := by simp [Moment.lt, hk]
    by_cases hab : a.key < b.key
    · simp only [hlt, hab, bind, Except.bind, pure, Except.pure, decide_true, if_true,
        Except.ok.injEq] at h
      subst h
      exact ⟨⟨hk, by omega⟩, Follows.refl b⟩
    · simp only [hlt, hab, bind, Except.bind, pure, Except.pure, decide_false,
        Bool.false_eq_true, if_false, Except.ok.injEq] at h
      subst h
      exact ⟨Follows.refl a, ⟨hk', by omega⟩⟩
  · have hlt : a.lt b = .error .mixedCompare := by simp [Moment.lt, hk]
    simp [hlt, bind, Except.bind] at h

theorem follows_foldlM_laterOf :
    ∀ (ts : List Moment) (t₀ t : Moment), ts.foldlM laterOf t₀ = .ok t →
      ∀ x ∈ t₀ :: ts, Follows x t 0
  | [], t₀, t, h => by
    simp only [List.foldlM_nil, pure, Except.pure, Except.ok.injEq] at h
    subst h
    simpa using Follows.refl t₀
  | u :: ts, t₀, t, h => by
    simp only [List.foldlM_cons, bind, Except.bind] at h
    rcases hl : laterOf t₀ u with e | t₁
    · simp [hl] at h
    rw [hl] at h
    have ht₁ := follows_laterOf hl
    have hrest := follows_foldlM_laterOf ts t₁ t h
    have ht : Follows t₁ t 0 := hrest t₁ List.mem_cons_self
    intro x hx
    rcases List.mem_cons.mp hx with rfl | hx
    · exact ht₁.1.trans ht
    rcases List.mem_cons.mp hx with rfl | hx
    · exact ht₁.2.trans ht
    · exact hrest x (List.mem_cons_of_mem _ hx)

/-- The last firing of an alarm for an event is not before any of its firings for that
event, and there is none only when it never fired for it. -/
theorem follows_lastFiring {history : List Firing} {alarmId : String} {event : Event}
    {last : Option Moment} (h : lastFiring history alarmId event = .ok last) :
    ∀ g ∈ history, g.alarmId = alarmId → g.event = event →
      ∃ t ∈ last, Follows g.firedAt t 0 := by
  intro g hg hid hev
  have hmem : g.firedAt ∈
      (history.filter fun f => f.alarmId = alarmId ∧ f.event = event).map (·.firedAt) :=
    List.mem_map.mpr ⟨g, List.mem_filter.mpr ⟨hg, by simp [hid, hev]⟩, rfl⟩
  dsimp only [lastFiring] at h
  split at h
  · rename_i hnil
    rw [hnil] at hmem
    cases hmem
  · rename_i t ts hts
    rw [hts] at hmem
    rcases hfold : ts.foldlM laterOf t with e | t'
    · simp [hfold, Functor.map, Except.map] at h
    · simp only [hfold, Functor.map, Except.map, Except.ok.injEq] at h
      exact ⟨t', by simp [← h], follows_foldlM_laterOf ts t t' hfold _ hmem⟩

theorem follows_of_cooldown_over {last : Option Moment} {c : Int} {now : Moment}
    (h : cooldownActive last (.whole c) now = .ok false) :
    ∀ t ∈ last, Follows t now (c * usMinute) := by
  intro t ht
  rw [Option.mem_def] at ht
  subst ht
  simp only [cooldownActive, bind, Except.bind, Minutes.span, Minutes.micros_whole] at h
  rcases hspan : checkSpan (c * usMinute) with e | us
  · simp [hspan] at h
  obtain rfl := eq_of_checkSpan_ok hspan
  simp only [hspan] at h
  rcases hend : t.addMicros (c * usMinute) with e | ends
  · simp [hend] at h
  simp only [hend] at h
  have ⟨hk, ho⟩ := key_of_addMicros hend
  have hnow := follows_of_lt_eq_false h
  refine ⟨?_, by have := hnow.2; omega⟩
  have hsame := hnow.1
  simp only [sameKind, beq_iff_eq] at hsame ⊢
  rw [← ho, hsame]

/-- A cooldown measured from the last down firing of an alarm, over at `now`, is over
for every down firing of that alarm. -/
theorem follows_of_lastFiring_cooldown_over {history : List Firing} {alarmId : String}
    {last : Option Moment} {c : Int} {now : Moment}
    (hl : lastFiring history alarmId .down = .ok last)
    (hc : cooldownActive last (.whole c) now = .ok false) :
    ∀ g ∈ history, g.alarmId = alarmId → g.event = .down →
      Follows g.firedAt now (c * usMinute) := by
  intro g hg hid hev
  obtain ⟨t, ht, hgt⟩ := follows_lastFiring hl g hg hid hev
  exact hgt.trans (follows_of_cooldown_over hc t ht)

end Uptime.Alarm

namespace Uptime.Service

open Uptime.Monitor Uptime.Alarm Uptime.Time

variable {env : Surroundings} {s : Node} {as : List Config} {h : List Firing}

/-- A firing `f` is clear of the firings `before` under a cooldown of `c` minutes when it
comes at least that long after each down firing of its alarm among them. -/
def Clear (before : List Firing) (c : Int) (f : Firing) : Prop :=
  ∀ g ∈ before, g.alarmId = f.alarmId → g.event = .down →
    g.firedAt.Follows f.firedAt (c * usMinute)

/-- What weighing the alarm `a` against a result of status `st` at `now` may do to a
service whose history `h` is kept in memory beside the alarms `as`: nothing; send, when
the result is not down; or send and record one firing of the alarm at `now`, down
exactly for a down result and then clear of the down firings of its alarm in `h` under
the alarm's cooldown. -/
inductive Weighed (a : Config) (st : Status) (now : Moment) (as : List Config) (h : List Firing)
    (s : Node) : Node → Prop
  | quiet : Weighed a st now as h s s
  | sentUp (ps : List Post) (ls : List Letter) :
      st ≠ .down → Weighed a st now as h s (s.sending ps ls)
  | fired (ps : List Post) (ls : List Letter) (f : Firing) :
      f.alarmId = a.id → f.firedAt = now → (f.event = .down ↔ st = .down) →
      (f.event = .down → Clear h a.conditions.cooldownMinutes f) →
      Weighed a st now as h s ((s.sending ps ls).recording as h f)

/-- Weighing an alarm against a result, with the history in memory, does only what
`Weighed` allows. -/
theorem evaluate_memory (env : Surroundings) (hs : s.alarms = .memory as h) (a : Config)
    (m : String) (r : Result) (n : Int) (prev : Option Status) :
    Weighed a r.status env.now as h s ((evaluate a m r n prev).run' env s).2 := by
  unfold evaluate
  simp only [Act.run'_bind, Act.run'_get, run'_now]
  by_cases hdown : r.status = .down
  · simp only [hdown, if_true]
    split
    · exact .quiet
    simp only [Act.run'_bind, run'_lastFired_memory hs, run'_lift]
    rcases hl : lastFiring h a.id .down with e | last <;> simp only [Except.mapError]
    · exact .quiet
    rcases hc : cooldownActive last (.whole a.conditions.cooldownMinutes) env.now
      with e | active <;> simp only
    · exact .quiet
    cases active
    · simp only [Bool.false_eq_true, if_false, Act.run'_bind]
      rw [run'_outageStart]
      rcases outageStartOf s m r with e | since <;> simp only
      · exact .quiet
      simp only [run'_lift]
      rcases hp : downPayload r n since env.now s.settings.dashboardUrl with e | payload <;>
        simp only [Except.mapError]
      · exact .quiet
      obtain ⟨sent, ps, ls, hd⟩ :=
        dispatch_onlySends payload (Notify.channels a s.settings) env s
      simp only [hd]
      rw [run'_recordFiring_memory (by simpa using hs)]
      refine .fired ps ls _ rfl rfl (by simp [firingOf]) fun _ g hg hid hev => ?_
      exact follows_of_lastFiring_cooldown_over hl hc g hg hid hev
    · exact .quiet
  · simp only [hdown, if_false]
    split
    · -- an up result after a down one sends the recovery, and records it if its downtime
      simp only [Act.run'_bind, run'_lastFired_memory hs, run'_lift]
      rcases hl : lastFiring h a.id .down with e | last <;> simp only [Except.mapError]
      · exact .quiet
      rcases hp : recoveryPayload r (last.getD env.now) env.now s.settings.dashboardUrl
        with e | payload <;> simp only
      · exact .quiet
      obtain ⟨sent, ps, ls, hd⟩ :=
        dispatch_onlySends payload (Notify.channels a s.settings) env s
      simp only [hd]
      rcases hf : formatDowntime (last.getD env.now) env.now with e | downtime <;> simp only
      · exact .sentUp ps ls hdown
      rw [run'_recordFiring_memory (by simpa using hs)]
      exact .fired ps ls _ rfl rfl (by simp [firingOf, hdown]) (by simp [firingOf])
    · exact .quiet

/-- `s'` reads as `s` does: the same settings, disk, kept states and way of dating
outages; only the alarms and what went out may differ. -/
structure ReadsLike (s' s : Node) : Prop where
  settings : s'.settings = s.settings
  disk : s'.disk = s.disk
  states : s'.states = s.states
  outageFromStates : s'.outageFromStates = s.outageFromStates

theorem ReadsLike.refl (s : Node) : ReadsLike s s := ⟨rfl, rfl, rfl, rfl⟩

theorem ReadsLike.trans {s₁ s₂ s₃ : Node} (h₁ : ReadsLike s₂ s₁)
    (h₂ : ReadsLike s₃ s₂) :
    ReadsLike s₃ s₁ :=
  ⟨h₂.1.trans h₁.1, h₂.2.trans h₁.2, h₂.3.trans h₁.3, h₂.4.trans h₁.4⟩

/-- What a weighing does to the service: it reads as before, and its history gains
nothing or one firing that `Weighed.fired` allows. -/
theorem Weighed.effect {a : Config} {st : Status} {now : Moment} {s' : Node}
    (hw : Weighed a st now as h s s') (hs : s.alarms = .memory as h) :
    ReadsLike s' s ∧ (s'.alarms = .memory as h ∨ ∃ f, f.alarmId = a.id ∧ f.firedAt = now ∧
      (f.event = .down ↔ st = .down) ∧
      (f.event = .down → Clear h a.conditions.cooldownMinutes f) ∧
      s'.alarms = .memory as (h ++ [f])) := by
  cases hw with
  | quiet => exact ⟨.refl s, .inl hs⟩
  | sentUp ps ls _ => exact ⟨⟨rfl, rfl, rfl, rfl⟩, .inl (by simpa using hs)⟩
  | fired ps ls f hid hat hev hclear =>
    exact ⟨⟨rfl, rfl, rfl, rfl⟩, .inr ⟨f, hid, hat, hev, hclear, by simp⟩⟩

/-- The firings added to the history `before`, each with the alarm that produced it: each
is a firing of that alarm, and each down one is clear of the firings kept before it under
that alarm's cooldown. -/
def Spaced : List Firing → List (Config × Firing) → Prop
  | _, [] => True
  | before, (a, f) :: rest => f.alarmId = a.id ∧
      (f.event = .down → Clear before a.conditions.cooldownMinutes f) ∧
      Spaced (before ++ [f]) rest

theorem spaced_append (before : List Firing) (p q : List (Config × Firing)) :
    Spaced before (p ++ q) ↔ Spaced before p ∧ Spaced (before ++ p.map Prod.snd) q := by
  induction p generalizing before with
  | nil => simp [Spaced]
  | cons af p ih =>
    obtain ⟨a, f⟩ := af
    simp [Spaced, ih, and_assoc]

/-- Weighing alarms one after another against a result, with the history in memory, adds
spaced firings of those alarms at the engine's time, down exactly for a down result, and
leaves everything else that is read as it was. -/
theorem forM_evaluate_memory (env : Surroundings) (m : String) (r : Result) (n : Int)
    (prev : Option Status) (L : List Config) (hs : s.alarms = .memory as h) :
    let s' := ((L.forM fun a => do let _ ← attempt (evaluate a m r n prev)).run' env s).2
    ∃ produced, s'.alarms = .memory as (h ++ produced.map Prod.snd) ∧ ReadsLike s' s ∧
      (∀ p ∈ produced, p.1 ∈ L ∧ p.2.alarmId = p.1.id ∧ p.2.firedAt = env.now ∧
        (p.2.event = .down ↔ r.status = .down)) ∧ Spaced h produced := by
  induction L generalizing s h with
  | nil => exact ⟨[], by simpa using hs, .refl s, by simp, trivial⟩
  | cons a L ih =>
    simp only [List.forM, Act.run'_bind, Act.run'_attempt, Act.run'_pure]
    obtain ⟨hreads, hsame | ⟨f, hid, hat, hev, hclear, hgrew⟩⟩ :=
      (evaluate_memory env hs a m r n prev).effect hs
    · obtain ⟨produced, hfin, hreads', hfrom, hsp⟩ := ih hsame
      refine ⟨produced, hfin, hreads.trans hreads', fun p hp => ?_, hsp⟩
      obtain ⟨hmem, hrest⟩ := hfrom p hp
      exact ⟨List.mem_cons_of_mem _ hmem, hrest⟩
    · obtain ⟨produced, hfin, hreads', hfrom, hsp⟩ := ih hgrew
      refine ⟨(a, f) :: produced, by simpa using hfin, hreads.trans hreads', ?_, hid, hclear,
        hsp⟩
      intro p hp
      rcases List.mem_cons.mp hp with rfl | hp
      · exact ⟨List.mem_cons_self, hid, hat, hev⟩
      · obtain ⟨hmem, hrest⟩ := hfrom p hp
        exact ⟨List.mem_cons_of_mem _ hmem, hrest⟩

/-- The engine weighs the enabled uptime alarms of the monitor, as the alarms kept in
memory list them, and adds spaced firings of those alarms at its time. -/
theorem checkAlarms_memory (env : Surroundings) (m : String) (r : Result) (n : Int)
    (prev : Option Status) (hs : s.alarms = .memory as h) :
    let s' := ((checkAlarms m r n prev).run' env s).2
    ∃ produced, s'.alarms = .memory as (h ++ produced.map Prod.snd) ∧ ReadsLike s' s ∧
      (∀ p ∈ produced, p.1 ∈ as ∧ p.2.alarmId = p.1.id ∧ p.2.firedAt = env.now ∧
        (p.2.event = .down ↔ r.status = .down)) ∧ Spaced h produced := by
  simp only [checkAlarms, Act.run'_bind, Act.run'_attempt, run'_alarmsOf, hs,
    Store.AlarmStore.enabledAlarms]
  obtain ⟨produced, hfin, hreads, hfrom, hsp⟩ := forM_evaluate_memory env m r n prev
    (as.filter fun a => a.enabled && a.monitorId == m && a.triggerType == "uptime") hs
  refine ⟨produced, hfin, hreads, fun p hp => ?_, hsp⟩
  obtain ⟨hmem, hrest⟩ := hfrom p hp
  exact ⟨(List.mem_filter.mp hmem).1, hrest⟩

/-- A call of the alarm engine: the surroundings it runs in and the check it weighs. -/
structure AlarmCall where
  env : Surroundings
  monitorId : String
  result : Result
  failures : Int
  previous : Option Status

/-- The service after the engine weighed the calls one after another. The engine never
fails, so each call goes on from the service the one before left. -/
def weighAll (s : Node) (calls : List AlarmCall) : Node :=
  calls.foldl
    (fun s c => ((checkAlarms c.monitorId c.result c.failures c.previous).run' c.env s).2) s

/-- Along any calls of the engine, the history in memory grows only by spaced firings of
the alarms kept. -/
theorem weighAll_memory (calls : List AlarmCall) (hs : s.alarms = .memory as h) :
    ∃ produced, (weighAll s calls).alarms = .memory as (h ++ produced.map Prod.snd) ∧
      (∀ p ∈ produced, p.1 ∈ as) ∧ Spaced h produced := by
  induction calls generalizing s h with
  | nil => exact ⟨[], by simpa [weighAll] using hs, by simp, trivial⟩
  | cons c calls ih =>
    obtain ⟨p₁, hs₁, -, hfrom₁, hsp₁⟩ :=
      checkAlarms_memory c.env c.monitorId c.result c.failures c.previous hs
    obtain ⟨p₂, hs₂, hfrom₂, hsp₂⟩ := ih hs₁
    refine ⟨p₁ ++ p₂, by simpa [weighAll] using hs₂, ?_,
      (spaced_append h p₁ p₂).mpr ⟨hsp₁, hsp₂⟩⟩
    intro p hp
    rcases List.mem_append.mp hp with hp | hp
    · exact (hfrom₁ p hp).1
    · exact hfrom₂ p hp

/-- With the history of firings in memory, every down firing the engine records, along
any calls, comes at least the cooldown of the alarm that produced it after every down
firing of the same alarm id kept before it, the two being of one kind; and weighing an
alarm against a down result sends something only when it then records its down firing,
at the engine's time and so clear of the earlier ones. -/
theorem down_firings_keep_cooldown :
    (∀ (s : Node) (as : List Config) (h : List Firing) (calls : List AlarmCall),
      s.alarms = .memory as h →
      ∃ produced, (weighAll s calls).alarms = .memory as (h ++ produced.map Prod.snd) ∧
        (∀ p ∈ produced, p.1 ∈ as) ∧ Spaced h produced) ∧
    ∀ (env : Surroundings) (s : Node) (as : List Config) (h : List Firing) (a : Config)
      (m : String) (r : Result) (n : Int) (prev : Option Status),
      s.alarms = .memory as h → r.status = .down →
      let s' := ((evaluate a m r n prev).run' env s).2
      (s'.outbox.posts ≠ s.outbox.posts ∨ s'.outbox.letters ≠ s.outbox.letters) →
      ∃ f, f.alarmId = a.id ∧ f.event = .down ∧ f.firedAt = env.now ∧
        Clear h a.conditions.cooldownMinutes f ∧ s'.alarms = .memory as (h ++ [f]) := by
  refine ⟨fun s as h calls hs => weighAll_memory calls hs, ?_⟩
  intro env s as h a m r n prev hs hdown
  dsimp only
  have hw := evaluate_memory env hs a m r n prev
  generalize ((evaluate a m r n prev).run' env s).2 = s' at hw ⊢
  intro hsent
  cases hw with
  | quiet => simp at hsent
  | sentUp ps ls hup => exact absurd hdown hup
  | fired ps ls f hid hat hev hclear =>
    have hdownf := hev.mpr hdown
    exact ⟨f, hid, hdownf, hat, hclear hdownf, by simp⟩

/-- An alarm of `m1` that posts to a webhook, with a threshold of one failure and a
cooldown of five minutes. -/
def hookAlarm : Config :=
  { id := "a1", name := "site down", monitorId := "m1", media := [.webhook],
    webhookUrl := some "https://hooks.example.com/x",
    ownConditions := some { failures := 1, cooldownMinutes := 5 } }

def hookService : Node :=
  { settings := {}, disk := {}, states := .memory [], alarms := .memory [hookAlarm] [],
    outageFromStates := false }

def downResult : Result :=
  { monitorId := "m1", url := "https://example.com", timestamp := 0, status := .down,
    httpCode := 503, ttfbMs := 0, totalMs := 0, failureStreak := 1, probeRegion := "",
    probeIp := "", userAgent := "" }

def downCall : AlarmCall :=
  { env := .offline ⟨0, some 0⟩ .accepting, monitorId := "m1", result := downResult,
    failures := 1, previous := none }

/-- Weighing `hookAlarm` against a failed check posts the notification, so it records
its down firing; along repeated calls the firings are spaced. -/
theorem hookAlarm_posts_and_records :
    (∃ produced, (weighAll hookService [downCall, downCall]).alarms =
        .memory [hookAlarm] ([] ++ produced.map Prod.snd) ∧
      (∀ p ∈ produced, p.1 ∈ [hookAlarm]) ∧ Spaced [] produced) ∧
    ∃ f, f.alarmId = hookAlarm.id ∧ f.event = .down ∧ f.firedAt = downCall.env.now ∧
      Clear [] hookAlarm.conditions.cooldownMinutes f ∧
      ((evaluate hookAlarm "m1" downResult 1 none).run' downCall.env hookService).2.alarms =
        .memory [hookAlarm] ([] ++ [f]) := by
  have hposted : ((evaluate hookAlarm "m1" downResult 1 none).run' downCall.env
      hookService).2.outbox.posts.length = 1 := by
    decide +kernel
  refine ⟨down_firings_keep_cooldown.1 hookService [hookAlarm] [] _ rfl,
    down_firings_keep_cooldown.2 downCall.env hookService [hookAlarm] [] hookAlarm "m1"
      downResult 1 none rfl rfl (.inl fun heq => ?_)⟩
  rw [heq] at hposted
  cases hposted

end Uptime.Service
