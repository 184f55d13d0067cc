import Uptime.Proofs.Step
/-! Failures of one alarm stay with it. A step is `Blind` when it does not look at what
went out before it: run after anything was sent, it does what it does after nothing was
sent and puts what it sends after the rest. A step is `Quiet` when it is blind and
changes nothing but the notifications sent, and `Fenced` when it is blind and a failure
of it leaves only notifications sent. Reads of the stores, the clock and the payload
builders are quiet, so is sending; weighing an alarm is quiet up to its record, which
fails without a change, so it is fenced (`evaluate_fenced`). Hence the engine never
fails, and an alarm that fails leaves only what it sent, while the alarms after it do
and record the same as when it is left out (`alarm_failures_stay_apart`). -/

namespace Uptime.Service

open Uptime.Monitor Uptime.Alarm Uptime.Store

variable {α β : Type} {env : Surroundings} {s : Node}

/-! ### What went out -/

attribute [ext] Outbox

namespace Outbox

def append (o o' : Outbox) : Outbox where
  probes := o.probes ++ o'.probes
  posts := o.posts ++ o'.posts
  letters := o.letters ++ o'.letters
  firings := o.firings ++ o'.firings

instance : Append Outbox := ⟨append⟩

@[simp] theorem append_probes (o o' : Outbox) : (o ++ o').probes = o.probes ++ o'.probes := rfl
@[simp] theorem append_posts (o o' : Outbox) : (o ++ o').posts = o.posts ++ o'.posts := rfl
@[simp] theorem append_letters (o o' : Outbox) : (o ++ o').letters = o.letters ++ o'.letters :=
  rfl
@[simp] theorem append_firings (o o' : Outbox) : (o ++ o').firings = o.firings ++ o'.firings :=
  rfl

@[simp] theorem empty_probes : ({} : Outbox).probes = [] := rfl
@[simp] theorem empty_posts : ({} : Outbox).posts = [] := rfl
@[simp] theorem empty_letters : ({} : Outbox).letters = [] := rfl
@[simp] theorem empty_firings : ({} : Outbox).firings = [] := rfl

@[simp] theorem append_empty (o : Outbox) : o ++ {} = o := by
  ext <;> simp

end Outbox

def Node.after (s : Node) (o : Outbox) : Node := { s with outbox := o ++ s.outbox }

@[simp] theorem Node.after_settings (s : Node) (o : Outbox) :
    (s.after o).settings = s.settings := rfl
@[simp] theorem Node.after_disk (s : Node) (o : Outbox) : (s.after o).disk = s.disk := rfl
@[simp] theorem Node.after_states (s : Node) (o : Outbox) :
    (s.after o).states = s.states := rfl
@[simp] theorem Node.after_alarms (s : Node) (o : Outbox) :
    (s.after o).alarms = s.alarms := rfl
@[simp] theorem Node.after_outageFromStates (s : Node) (o : Outbox) :
    (s.after o).outageFromStates = s.outageFromStates := rfl
@[simp] theorem Node.after_outbox (s : Node) (o : Outbox) :
    (s.after o).outbox = o ++ s.outbox := rfl

theorem Node.cleared_after (s : Node) (o : Outbox) :
    ({ s with outbox := {} } : Node).after o = { s with outbox := o } := by
  simp [Node.after]

theorem Node.sending_eq (s : Node) (ps : List Post) (ls : List Letter) :
    s.sending ps ls = { s with outbox := s.outbox ++ { posts := ps, letters := ls } } := by
  cases s
  simp [Node.sending]
  ext <;> simp

/-! ### Steps blind to what went out -/

/-- A step that does not look at what went out before it: run after `o` was sent, it gives
what it gives with nothing sent, and leaves `o` in front of what it sends. -/
def Blind (x : Act α) : Prop :=
  ∀ env s o, x.run' env (s.after o) = ((x.run' env s).1, (x.run' env s).2.after o)

namespace Blind

theorem pure (a : α) : Blind (pure a : Act α) := fun _ _ _ => rfl

theorem bind {x : Act α} {f : α → Act β} (hx : Blind x) (hf : ∀ a, Blind (f a)) :
    Blind (x >>= f) := by
  intro env s o
  rw [Act.run'_bind, Act.run'_bind, hx]
  rcases x.run' env s with ⟨_ | a, s'⟩
  · rfl
  · exact hf a env s' o

theorem map (g : α → β) {x : Act α} (hx : Blind x) : Blind (g <$> x) := by
  intro env s o
  rw [Act.run'_map, Act.run'_map, hx]
  rcases x.run' env s with ⟨_ | a, s'⟩ <;> rfl

theorem attempt {x : Act α} (hx : Blind x) : Blind (attempt x) := by
  intro env s o
  rw [Act.run'_attempt, Act.run'_attempt, hx]

theorem lift {ε : Type} (r : Except ε α) (f : ε → Fault) : Blind (lift r f) := by
  intro env s o
  simp

theorem ite {c : Prop} [Decidable c] {x y : Act α} (hx : Blind x) (hy : Blind y) :
    Blind (if c then x else y) := by
  split
  · exact hx
  · exact hy

theorem read_bind {k : Surroundings → Act α} (hk : ∀ env, Blind (k env)) :
    Blind (read >>= k) := by
  intro env s o
  rw [Act.run'_bind_of_ok Act.run'_read, Act.run'_bind_of_ok Act.run'_read]
  exact hk env env s o

theorem get_bind {k : Node → Act α} (hk : ∀ s, Blind (k s))
    (hsame : ∀ s o, k (s.after o) = k s) : Blind (get >>= k) := by
  intro env s o
  rw [Act.run'_bind_of_ok Act.run'_get, Act.run'_bind_of_ok Act.run'_get, hsame]
  exact hk s env s o

theorem note {f : Outbox → Outbox} (hf : ∀ o o', f (o ++ o') = o ++ f o') : Blind (note f) := by
  intro env s o
  simp only [run'_note]
  cases s
  simp [Node.after, hf]

theorem forM {g : α → Act Unit} (hg : ∀ a, Blind (g a)) (L : List α) : Blind (L.forM g) := by
  induction L with
  | nil => exact pure ()
  | cons a L ih => exact bind (hg a) fun _ => ih

theorem postJson (url : String) (body : Json.Value) (extra : List (String × String)) :
    Blind (postJson url body extra) := by
  unfold Service.postJson
  split
  · exact pure _
  split
  · exact pure _
  refine bind (note fun o o' => ?_) fun _ => read_bind fun env => ?_
  · ext <;> simp
  · split <;> exact pure _

theorem mail (box : Notify.Mailbox) (p : Notify.Payload) : Blind (mail box p) := by
  unfold Service.mail
  split
  · exact pure _
  refine read_bind fun env => ?_
  split
  · exact bind (note fun o o' => by ext <;> simp) fun _ => pure _
  · exact pure _

theorem deliver (p : Notify.Payload) (c : Notify.Channel) : Blind (deliver p c) := by
  cases c with
  | slack url => exact postJson _ _ _
  | discord url => exact postJson _ _ _
  | webhook url hs => exact postJson _ _ _
  | email box => exact mail _ _

theorem dispatch (p : Notify.Payload) (cs : List Notify.Channel) : Blind (dispatch p cs) := by
  unfold Service.dispatch
  induction cs with
  | nil => exact pure []
  | cons c cs ih =>
    rw [List.mapM_cons]
    exact bind (map _ (deliver p c)) fun _ => bind ih fun _ => pure _

end Blind

/-! ### Quiet steps: they change nothing but what was sent -/

/-- A blind step that changes nothing but the requests and emails sent, whether it returns
or fails. -/
def Quiet (x : Act α) : Prop :=
  Blind x ∧ ∀ env s, ∃ ps ls, (x.run' env s).2 = s.sending ps ls

namespace Quiet

theorem pure (a : α) : Quiet (pure a : Act α) :=
  ⟨Blind.pure a, fun _ s => ⟨[], [], by simp⟩⟩

theorem lift {ε : Type} (r : Except ε α) (f : ε → Fault) : Quiet (lift r f) :=
  ⟨Blind.lift r f, fun _ s => ⟨[], [], by simp⟩⟩

theorem now : Quiet now :=
  ⟨fun _ _ _ => rfl, fun _ s => ⟨[], [], by simp⟩⟩

theorem bind {x : Act α} {f : α → Act β} (hx : Quiet x) (hf : ∀ a, Quiet (f a)) :
    Quiet (x >>= f) := by
  refine ⟨Blind.bind hx.1 fun a => (hf a).1, fun env s => ?_⟩
  obtain ⟨ps, ls, hs⟩ := hx.2 env s
  rw [Act.run'_bind]
  rcases hrun : x.run' env s with ⟨_ | a, s'⟩
  · rw [hrun] at hs
    exact ⟨ps, ls, hs⟩
  · obtain ⟨ps', ls', hs'⟩ := (hf a).2 env s'
    have hs : s' = s.sending ps ls := by rw [hrun] at hs; exact hs
    exact ⟨ps ++ ps', ls ++ ls', by rw [hs', hs, Node.sending_sending]⟩

theorem get_bind {k : Node → Act α} (hk : ∀ s, Quiet (k s))
    (hsame : ∀ s o, k (s.after o) = k s) : Quiet (get >>= k) := by
  refine ⟨Blind.get_bind (fun s => (hk s).1) hsame, fun env s => ?_⟩
  rw [Act.run'_bind_of_ok Act.run'_get]
  exact (hk s).2 env s

theorem of_onlySends {x : Act α} (hb : Blind x) (hx : OnlySends x) : Quiet x := by
  refine ⟨hb, fun env s => ?_⟩
  obtain ⟨a, ps, ls, hrun⟩ := hx env s
  exact ⟨ps, ls, by rw [hrun]⟩

theorem stateOf (m : String) : Quiet (stateOf m) := by
  unfold Service.stateOf
  exact get_bind (fun s => lift _ _) fun _ _ => rfl

theorem lastFired (id : String) (ev : Event) : Quiet (lastFired id ev) := by
  unfold Service.lastFired
  exact get_bind (fun s => lift _ _) fun _ _ => rfl

theorem ite {c : Prop} [Decidable c] {x y : Act α} (hx : Quiet x) (hy : Quiet y) :
    Quiet (if c then x else y) := by
  split
  · exact hx
  · exact hy

theorem outageStart (m : String) (r : Result) : Quiet (outageStart m r) := by
  refine ⟨fun env s o => ?_, fun env s => ⟨[], [], by simp [run'_outageStart]⟩⟩
  have hsame : outageStartOf (s.after o) m r = outageStartOf s m r := rfl
  simp [run'_outageStart, hsame]

theorem dispatch (p : Notify.Payload) (cs : List Notify.Channel) : Quiet (dispatch p cs) :=
  of_onlySends (Blind.dispatch p cs) (dispatch_onlySends p cs)

end Quiet

/-! ### Fenced steps: a failure leaves only what was sent -/

/-- Recording a firing writes the alarm store and notes the firings it gives back, or fails
with the service as it was. -/
theorem run'_recordFiring (f : Firing) :
    (recordFiring f).run' env s = match s.alarms.record s.disk f with
      | .ok (alarms, disk) =>
        (.ok (), { s with alarms, disk,
                          outbox := { s.outbox with
                            firings := s.outbox.firings ++ s.alarms.recorded s.disk disk f } })
      | .error e => (.error (.io e), s) := by
  simp only [recordFiring, Act.run'_bind, Act.run'_get, run'_lift]
  rcases s.alarms.record s.disk f with e | ⟨alarms, disk⟩ <;> rfl

def Fenced (x : Act α) : Prop :=
  Blind x ∧ ∀ env s e s', x.run' env s = (.error e, s') → ∃ ps ls, s' = s.sending ps ls

namespace Fenced

theorem of_quiet {x : Act α} (hx : Quiet x) : Fenced x := by
  refine ⟨hx.1, fun env s e s' hrun => ?_⟩
  obtain ⟨ps, ls, hs⟩ := hx.2 env s
  rw [hrun] at hs
  exact ⟨ps, ls, hs⟩

theorem pure (a : α) : Fenced (pure a : Act α) := of_quiet (Quiet.pure a)

theorem bind {x : Act α} {f : α → Act β} (hx : Quiet x) (hf : ∀ a, Fenced (f a)) :
    Fenced (x >>= f) := by
  refine ⟨Blind.bind hx.1 fun a => (hf a).1, fun env s e s'' hrun => ?_⟩
  obtain ⟨ps, ls, hs⟩ := hx.2 env s
  rcases Act.run'_bind_error hrun with hfail | ⟨a, s', hok, hrest⟩
  · rw [hfail] at hs
    exact ⟨ps, ls, hs⟩
  · obtain ⟨ps', ls', hs'⟩ := (hf a).2 env s' e s'' hrest
    have hs : s' = s.sending ps ls := by rw [hok] at hs; exact hs
    exact ⟨ps ++ ps', ls ++ ls', by rw [hs', hs, Node.sending_sending]⟩

theorem get_bind {k : Node → Act α} (hk : ∀ s, Fenced (k s))
    (hsame : ∀ s o, k (s.after o) = k s) : Fenced (get >>= k) := by
  refine ⟨Blind.get_bind (fun s => (hk s).1) hsame, fun env s e s' hrun => ?_⟩
  rw [Act.run'_bind_of_ok Act.run'_get] at hrun
  exact (hk s).2 env s e s' hrun

theorem ite {c : Prop} [Decidable c] {x y : Act α} (hx : Fenced x) (hy : Fenced y) :
    Fenced (if c then x else y) := by
  split
  · exact hx
  · exact hy

theorem recordFiring (f : Firing) : Fenced (recordFiring f) := by
  refine ⟨fun env s o => ?_, fun env s e s' hrun => ?_⟩
  · rw [run'_recordFiring, run'_recordFiring]
    simp only [Node.after_alarms, Node.after_disk]
    rcases s.alarms.record s.disk f with e | ⟨alarms, disk⟩
    · rfl
    · simp [Node.after, Outbox.ext_iff]
  · rw [run'_recordFiring] at hrun
    rcases hr : s.alarms.record s.disk f with e' | ⟨alarms, disk⟩ <;> rw [hr] at hrun
    · cases hrun
      exact ⟨[], [], by simp⟩
    · cases hrun

end Fenced

theorem evaluate_fenced (a : Config) (m : String) (r : Result) (n : Int)
    (prev : Option Status) : Fenced (evaluate a m r n prev) := by
  unfold evaluate
  refine Fenced.bind Quiet.now fun t => Fenced.get_bind (fun s => ?_) fun _ _ => rfl
  refine Fenced.ite (Fenced.ite (Fenced.pure ()) ?_) (Fenced.ite ?_ (Fenced.pure ()))
  · -- a down result: history, cooldown, outage start and payload, then send and record
    refine Fenced.bind (Quiet.lastFired _ _) fun _ => Fenced.bind (Quiet.lift _ _) fun _ =>
      Fenced.ite (Fenced.pure ()) ?_
    exact Fenced.bind (Quiet.outageStart _ _) fun _ => Fenced.bind (Quiet.lift _ _) fun _ =>
      Fenced.bind (Quiet.dispatch _ _) fun _ => Fenced.recordFiring _
  · -- a recovery: history and payload, then send, tell the downtime and record
    exact Fenced.bind (Quiet.lastFired _ _) fun _ => Fenced.bind (Quiet.lift _ _) fun _ =>
      Fenced.bind (Quiet.dispatch _ _) fun _ => Fenced.bind (Quiet.lift _ _) fun _ =>
        Fenced.recordFiring _

/-! ### The engine -/

/-- The alarms `L` weighed one after another against a result, each failure passed over:
what the engine does with the alarms it lists. -/
def weighEach (m : String) (r : Result) (n : Int) (prev : Option Status) (L : List Config) :
    Act Unit :=
  L.forM fun a => do let _ ← attempt (evaluate a m r n prev)

section Engine

variable {m : String} {r : Result} {n : Int} {prev : Option Status}

theorem weighEach_blind (L : List Config) : Blind (weighEach m r n prev L) :=
  Blind.forM (fun a => Blind.bind (Blind.attempt (evaluate_fenced a m r n prev).1) fun _ =>
    Blind.pure ()) L

theorem weighEach_append (L₁ L₂ : List Config) :
    weighEach m r n prev (L₁ ++ L₂) = weighEach m r n prev L₁ >>= fun _ => weighEach m r n prev L₂ :=
  List.forM_append

theorem weighEach_cons (a : Config) (L : List Config) :
    weighEach m r n prev (a :: L) =
      (do let _ ← attempt (evaluate a m r n prev)) >>= fun _ => weighEach m r n prev L :=
  rfl

theorem run'_weighOne (a : Config) (env : Surroundings) (s : Node) :
    (do let _ ← attempt (evaluate a m r n prev) : Act Unit).run' env s =
      (.ok (), ((evaluate a m r n prev).run' env s).2) := by
  simp only [Act.run'_bind, Act.run'_attempt, Act.run'_pure]

theorem run'_weighEach (L : List Config) (env : Surroundings) (s : Node) :
    (weighEach m r n prev L).run' env s = (.ok (), ((weighEach m r n prev L).run' env s).2) := by
  induction L generalizing s with
  | nil => rfl
  | cons a L ih =>
    rw [weighEach_cons, Act.run'_bind_of_ok (run'_weighOne a env s)]
    exact ih _

/-- The engine weighs the alarms it lists, in their order, and does nothing when they
cannot be listed. -/
theorem run'_checkAlarms (env : Surroundings) (s : Node) :
    (checkAlarms m r n prev).run' env s =
      match s.alarms.enabledAlarms s.disk m "uptime" with
      | .error _ => (.ok (), s)
      | .ok L => (weighEach m r n prev L).run' env s := by
  simp only [checkAlarms, Act.run'_bind, Act.run'_attempt, run'_alarmsOf]
  rcases s.alarms.enabledAlarms s.disk m "uptime" with e | L <;> rfl

/-- The engine never fails, weighs the alarms it lists in their order, and does nothing
when they cannot be listed. An alarm that fails, at whatever step, leaves only the
notifications it sent, and records nothing; the alarms after it change the stores, send
and record the same (`later`) as when it is left out of the list. -/
theorem alarm_failures_stay_apart (env : Surroundings) (s : Node) (m : String)
    (r : Result) (n : Int) (prev : Option Status) :
    ((checkAlarms m r n prev).run' env s).1 = .ok () ∧
    (checkAlarms m r n prev).run' env s =
      (match s.alarms.enabledAlarms s.disk m "uptime" with
        | .error _ => (.ok (), s)
        | .ok L => (weighEach m r n prev L).run' env s) ∧
    ∀ (pre : List Config) (a : Config) (post : List Config),
      let s₁ := ((weighEach m r n prev pre).run' env s).2
      (∃ e, ((evaluate a m r n prev).run' env s₁).1 = .error e) →
      ∃ sent : Outbox, sent.probes = [] ∧ sent.firings = [] ∧
        ((evaluate a m r n prev).run' env s₁).2 = { s₁ with outbox := s₁.outbox ++ sent } ∧
        let later := ((weighEach m r n prev post).run' env { s₁ with outbox := {} }).2
        ((weighEach m r n prev (pre ++ post)).run' env s).2 = later.after s₁.outbox ∧
        ((weighEach m r n prev (pre ++ a :: post)).run' env s).2 =
          later.after (s₁.outbox ++ sent) := by
  refine ⟨?_, run'_checkAlarms env s, ?_⟩
  · rw [run'_checkAlarms]
    split
    · rfl
    · rw [run'_weighEach]
  intro pre a post s₁ ⟨e, he⟩
  have hfail : (evaluate a m r n prev).run' env s₁ =
      (.error e, ((evaluate a m r n prev).run' env s₁).2) := by
    rw [← he]
  obtain ⟨ps, ls, hleft⟩ := (evaluate_fenced a m r n prev).2 env s₁ e _ hfail
  have hpre : (weighEach m r n prev pre).run' env s = (.ok (), s₁) := run'_weighEach pre env s
  have hpost : ∀ o : Outbox, ((weighEach m r n prev post).run' env { s₁ with outbox := o }).2 =
      ((weighEach m r n prev post).run' env { s₁ with outbox := {} }).2.after o := by
    intro o
    rw [← Node.cleared_after, weighEach_blind post env]
  refine ⟨{ posts := ps, letters := ls }, rfl, rfl, by rw [hleft, Node.sending_eq], ?_, ?_⟩
  · rw [weighEach_append, Act.run'_bind_of_ok hpre]
    exact hpost s₁.outbox
  · rw [weighEach_append, Act.run'_bind_of_ok hpre, weighEach_cons,
      Act.run'_bind_of_ok (run'_weighOne a env s₁), hleft, Node.sending_eq]
    exact hpost _

end Engine

/-- An alarm of `m1` that posts to a webhook on the first failure, with a cooldown of five
minutes. -/
def webhookAlarm (id : String) : Config :=
  { id, name := "site down", monitorId := "m1", media := [.webhook],
    webhookUrl := some "https://hooks.example.com/x",
    ownConditions := some { failures := 1, cooldownMinutes := 5 } }

/-- A service keeping the alarms `a1` and `a2`, and a down firing of `a1` at the epoch
kept without an offset. -/
def staleHistoryService : Node :=
  { settings := {}, disk := {}, states := .memory [],
    alarms := .memory [webhookAlarm "a1", webhookAlarm "a2"]
      [{ id := "f0", alarmId := "a1", monitorId := "m1", event := .down, firedAt := ⟨0, none⟩ }],
    outageFromStates := false }

def firstDownResult : Result :=
  { monitorId := "m1", url := "https://example.com", timestamp := 0, status := .down,
    httpCode := 503, ttfbMs := 0, totalMs := 0, failureStreak := 1, probeRegion := "",
    probeIp := "", userAgent := "" }

/-- Weighed against a failed check at the epoch in UTC, `a1` fails on its cooldown, whose
start has no offset; `a2` after it sends and records as it does alone. -/
theorem stale_history_alarm_passed_over :
    let env := Surroundings.offline ⟨0, some 0⟩ .accepting
    let s₁ := ((weighEach "m1" firstDownResult 1 none []).run' env staleHistoryService).2
    (∃ e, ((evaluate (webhookAlarm "a1") "m1" firstDownResult 1 none).run' env s₁).1 = .error e) ∧
    ∃ sent : Outbox, sent.probes = [] ∧ sent.firings = [] ∧
      ((evaluate (webhookAlarm "a1") "m1" firstDownResult 1 none).run' env s₁).2 =
        { s₁ with outbox := s₁.outbox ++ sent } ∧
      let later := ((weighEach "m1" firstDownResult 1 none [webhookAlarm "a2"]).run' env
        { s₁ with outbox := {} }).2
      ((weighEach "m1" firstDownResult 1 none ([] ++ [webhookAlarm "a2"])).run' env
          staleHistoryService).2 = later.after s₁.outbox ∧
      ((weighEach "m1" firstDownResult 1 none ([] ++ webhookAlarm "a1" :: [webhookAlarm "a2"])).run'
          env staleHistoryService).2 = later.after (s₁.outbox ++ sent) := by
  intro env s₁
  have hfail : ∃ e, ((evaluate (webhookAlarm "a1") "m1" firstDownResult 1 none).run' env
      s₁).1 = .error e :=
    ⟨.clock .mixedCompare, by with_unfolding_all rfl⟩
  exact ⟨hfail, (alarm_failures_stay_apart env staleHistoryService "m1" firstDownResult 1
    none).2.2 [] (webhookAlarm "a1") [webhookAlarm "a2"] hfail⟩

end Uptime.Service
