import Mathlib
import Uptime.Service.Engine
import Uptime.Service.Check
/-! Running a step of the service. A run of `x >>= f` is the run of `x` followed, when it
returns, by the run of `f` on its value, and a failure ends it with the service as the
failing step left it (`Act.run'_bind`). Each primitive step has its run here so that
later proofs never unfold one: reads leave the service as it was, `keepState` and
`recordFiring` change only the store they write, and sending notifications changes only
what went out (`OnlySends`). -/

namespace Uptime.Service

open Uptime.Monitor Uptime.Alarm Uptime.Store

variable {α β : Type} {env : Surroundings} {s : Node}

namespace Act

theorem run'_bind (x : Act α) (f : α → Act β) :
    (x >>= f).run' env s = match x.run' env s with
      | (.ok a, s') => (f a).run' env s'
      | (.error e, s') => (.error e, s') := by
  simp only [Act.run', ReaderT.run_bind, ExceptT.run_bind, StateT.run_bind]
  rcases h : ((x.run env).run).run s with ⟨_ | a, s'⟩ <;>
    simp_all [ExceptT.run, StateT.run] <;> rfl

theorem run'_bind_of_ok {x : Act α} {a : α} {s' : Node} (h : x.run' env s = (.ok a, s'))
    (f : α → Act β) : (x >>= f).run' env s = (f a).run' env s' := by
  rw [run'_bind, h]

theorem run'_bind_of_error {x : Act α} {e : Fault} {s' : Node}
    (h : x.run' env s = (.error e, s')) (f : α → Act β) :
    (x >>= f).run' env s = (.error e, s') := by
  rw [run'_bind, h]

theorem run'_bind_ok {x : Act α} {f : α → Act β} {b : β} {s'' : Node}
    (h : (x >>= f).run' env s = (.ok b, s'')) :
    ∃ a s', x.run' env s = (.ok a, s') ∧ (f a).run' env s' = (.ok b, s'') := by
  rw [run'_bind] at h
  rcases hx : x.run' env s with ⟨_ | a, s'⟩ <;> rw [hx] at h
  · cases h
  · exact ⟨a, s', rfl, h⟩

theorem run'_bind_error {x : Act α} {f : α → Act β} {e : Fault} {s'' : Node}
    (h : (x >>= f).run' env s = (.error e, s'')) :
    x.run' env s = (.error e, s'') ∨
      ∃ a s', x.run' env s = (.ok a, s') ∧ (f a).run' env s' = (.error e, s'') := by
  rw [run'_bind] at h
  rcases hx : x.run' env s with ⟨_ | a, s'⟩ <;> rw [hx] at h
  · cases h
    exact .inl rfl
  · exact .inr ⟨a, s', rfl, h⟩

theorem run'_eq_ok_of_toOption {x : Act α} {a : α} (h : (x.run' env s).1.toOption = some a) :
    x.run' env s = (.ok a, (x.run' env s).2) := by
  generalize x.run' env s = p at h ⊢
  rcases p with ⟨_ | b, s'⟩
  · cases h
  · cases h
    rfl

theorem run'_eq_ok_of_map_toOption {x : Act α} {f : α → β} {b : β}
    (h : (x.run' env s).1.toOption.map f = some b) :
    ∃ a, x.run' env s = (.ok a, (x.run' env s).2) ∧ f a = b := by
  obtain ⟨a, ha, rfl⟩ := Option.map_eq_some_iff.mp h
  exact ⟨a, run'_eq_ok_of_toOption ha, rfl⟩

@[simp] theorem run'_pure (a : α) : (pure a : Act α).run' env s = (.ok a, s) := rfl
@[simp] theorem run'_read : (read : Act Surroundings).run' env s = (.ok env, s) := rfl
@[simp] theorem run'_get : (get : Act Node).run' env s = (.ok s, s) := rfl
@[simp] theorem run'_set (s' : Node) : (set s' : Act Unit).run' env s = (.ok (), s') := rfl

theorem run'_map (g : α → β) (x : Act α) :
    (g <$> x).run' env s = match x.run' env s with
      | (.ok a, s') => (.ok (g a), s')
      | (.error e, s') => (.error e, s') := by
  rw [← bind_pure_comp, run'_bind]
  rcases x.run' env s with ⟨_ | a, s'⟩ <;> rfl

@[simp] theorem run'_attempt (x : Act α) :
    (attempt x).run' env s = (.ok (x.run' env s).1, (x.run' env s).2) := by
  simp only [attempt, Act.run', tryCatch, MonadExceptOf.tryCatch, tryCatchThe, ExceptT.tryCatch,
    ReaderT.run, ExceptT.mk, ExceptT.run, StateT.run, bind, StateT.bind, Functor.map, ExceptT.map]
  rcases x env s with ⟨_ | a, s'⟩ <;> rfl

end Act

@[simp] theorem run'_fail (e : Fault) : (fail e : Act α).run' env s = (.error e, s) := rfl

@[simp] theorem run'_lift {ε : Type} (r : Except ε α) (f : ε → Fault) :
    (lift r f).run' env s = (r.mapError f, s) := by
  cases r <;> rfl

@[simp] theorem run'_now : now.run' env s = (.ok env.now, s) := rfl

@[simp] theorem run'_note (f : Outbox → Outbox) :
    (note f).run' env s = (.ok (), { s with outbox := f s.outbox }) := rfl

/-! ### The stores -/

@[simp] theorem run'_stateOf (m : String) :
    (stateOf m).run' env s = ((s.states.get s.disk m).mapError Fault.store, s) := by
  simp [stateOf, Act.run'_bind]

theorem run'_keepState (st : State) :
    (keepState st).run' env s = match s.states.put s.disk st with
      | .ok (states, disk) => (.ok (), { s with states, disk })
      | .error e => (.error (.store e), s) := by
  simp only [keepState, Act.run'_bind, Act.run'_get, run'_lift]
  rcases s.states.put s.disk st with e | ⟨states, disk⟩ <;> rfl

@[simp] theorem run'_alarmsOf (m tt : String) :
    (alarmsOf m tt).run' env s =
      ((s.alarms.enabledAlarms s.disk m tt).mapError Fault.store, s) := by
  simp [alarmsOf, Act.run'_bind]

/-- With the history in memory, the last firing is looked up in it, and only a clock
error can come of it. -/
theorem run'_lastFired_memory {as : List Config} {h : List Firing} (hs : s.alarms = .memory as h)
    (id : String) (ev : Event) :
    (lastFired id ev).run' env s = ((lastFiring h id ev).mapError Fault.clock, s) := by
  simp only [lastFired, Act.run'_bind, Act.run'_get, run'_lift, hs, AlarmStore.lastFired]
  rcases hl : lastFiring h id ev with e | t <;>
    simp [hl, bind, Except.bind, pure, Except.pure, Except.mapError]

/-- The service after the firing `f` was recorded in a history `h` kept in memory beside
the alarms `as`. -/
def Node.recording (s : Node) (as : List Config) (h : List Firing) (f : Firing) :
    Node :=
  { s with alarms := .memory as (h ++ [f]),
           outbox := { s.outbox with firings := s.outbox.firings ++ [f] } }

@[simp] theorem Node.recording_alarms (s : Node) (as : List Config) (h : List Firing)
    (f : Firing) : (s.recording as h f).alarms = .memory as (h ++ [f]) := rfl

theorem run'_recordFiring_memory {as : List Config} {h : List Firing}
    (hs : s.alarms = .memory as h) (f : Firing) :
    (recordFiring f).run' env s = (.ok (), s.recording as h f) := by
  simp [recordFiring, Act.run'_bind, hs, AlarmStore.record, AlarmStore.recorded, Except.mapError,
    Node.recording]

/-- When the outage behind a result began, as `outageStart` finds it from a service. -/
def outageStartOf (s : Node) (m : String) (r : Result) : Except Fault Time.Moment :=
  if s.outageFromStates then
    match s.states.get s.disk m with
    | .error e => .error (.store e)
    | .ok (some st) =>
      if st.status = .down then .ok st.lastChangeAt else r.checkedAt.mapError .clock
    | .ok none => r.checkedAt.mapError .clock
  else r.checkedAt.mapError .clock

theorem run'_outageStart (m : String) (r : Result) :
    (outageStart m r).run' env s = (outageStartOf s m r, s) := by
  unfold outageStart outageStartOf
  simp only [Act.run'_bind, Act.run'_get]
  split
  · simp only [Act.run'_bind, run'_stateOf]
    rcases s.states.get s.disk m with e | (_ | st)
    · rfl
    · simp [Except.mapError]
    · simp only [Except.mapError]
      split <;> simp [Except.mapError]
  · simp

/-! ### Sending notifications -/

def Node.sending (s : Node) (posts : List Post) (letters : List Letter) : Node :=
  { s with outbox := { s.outbox with posts := s.outbox.posts ++ posts,
                                     letters := s.outbox.letters ++ letters } }

@[simp] theorem Node.sending_nil (s : Node) : s.sending [] [] = s := by
  simp [Node.sending]

@[simp] theorem Node.sending_sending (s : Node) (p₁ p₂ : List Post)
    (l₁ l₂ : List Letter) :
    (s.sending p₁ l₁).sending p₂ l₂ = s.sending (p₁ ++ p₂) (l₁ ++ l₂) := by
  simp [Node.sending]

@[simp] theorem Node.sending_alarms (s : Node) (ps : List Post) (ls : List Letter) :
    (s.sending ps ls).alarms = s.alarms := rfl

@[simp] theorem Node.sending_states (s : Node) (ps : List Post) (ls : List Letter) :
    (s.sending ps ls).states = s.states := rfl

@[simp] theorem Node.sending_settings (s : Node) (ps : List Post) (ls : List Letter) :
    (s.sending ps ls).settings = s.settings := rfl

@[simp] theorem Node.sending_disk (s : Node) (ps : List Post) (ls : List Letter) :
    (s.sending ps ls).disk = s.disk := rfl

@[simp] theorem Node.sending_outageFromStates (s : Node) (ps : List Post)
    (ls : List Letter) : (s.sending ps ls).outageFromStates = s.outageFromStates := rfl

@[simp] theorem Node.sending_firings (s : Node) (ps : List Post) (ls : List Letter) :
    (s.sending ps ls).outbox.firings = s.outbox.firings := rfl

def OnlySends (x : Act α) : Prop :=
  ∀ env s, ∃ a ps ls, x.run' env s = (.ok a, s.sending ps ls)

namespace OnlySends

theorem pure (a : α) : OnlySends (pure a : Act α) :=
  fun _ s => ⟨a, [], [], by simp⟩

theorem bind {x : Act α} {f : α → Act β} (hx : OnlySends x) (hf : ∀ a, OnlySends (f a)) :
    OnlySends (x >>= f) := by
  intro env s
  obtain ⟨a, ps, ls, hrun⟩ := hx env s
  obtain ⟨b, ps', ls', hrun'⟩ := hf a env (s.sending ps ls)
  exact ⟨b, ps ++ ps', ls ++ ls',
    by rw [Act.run'_bind_of_ok hrun, hrun', Node.sending_sending]⟩

theorem map (g : α → β) {x : Act α} (hx : OnlySends x) : OnlySends (g <$> x) := by
  intro env s
  obtain ⟨a, ps, ls, hrun⟩ := hx env s
  exact ⟨g a, ps, ls, by rw [Act.run'_map, hrun]⟩

theorem read (k : Surroundings → Act α) (hk : ∀ env, OnlySends (k env)) :
    OnlySends (MonadReader.read >>= k) := by
  intro env s
  rw [Act.run'_bind_of_ok Act.run'_read]
  exact hk env env s

end OnlySends

theorem postJson_onlySends (url : String) (body : Json.Value) (extra : List (String × String)) :
    OnlySends (postJson url body extra) := by
  intro env s
  unfold postJson
  split
  · exact ⟨false, [], [], by simp⟩
  · split
    · exact ⟨false, [], [], by simp⟩
    · rename_i addr _ _
      simp only [Act.run'_bind, run'_note, Act.run'_read]
      split
      · exact ⟨false, [⟨addr.sent, postHeaders extra, body⟩], [], by simp [Node.sending]⟩
      · rename_i resp _
        exact ⟨Http.isSuccess resp.status, [⟨addr.sent, postHeaders extra, body⟩], [],
          by simp [Node.sending]⟩

theorem mail_onlySends (box : Notify.Mailbox) (p : Notify.Payload) : OnlySends (mail box p) := by
  intro env s
  unfold mail
  split
  · exact ⟨false, [], [], by simp⟩
  · rename_i email _
    simp only [Act.run'_bind, Act.run'_read]
    split
    · exact ⟨true, [], [⟨box, email⟩], by simp [Act.run'_map, Node.sending]⟩
    · exact ⟨false, [], [], by simp⟩

theorem deliver_onlySends (p : Notify.Payload) (c : Notify.Channel) : OnlySends (deliver p c) := by
  cases c with
  | slack url => exact postJson_onlySends _ _ _
  | discord url => exact postJson_onlySends _ _ _
  | webhook url hs => exact postJson_onlySends _ _ _
  | email box => exact mail_onlySends _ _

theorem dispatch_onlySends (p : Notify.Payload) (cs : List Notify.Channel) :
    OnlySends (dispatch p cs) := by
  unfold dispatch
  induction cs with
  | nil => exact OnlySends.pure []
  | cons c cs ih =>
    rw [List.mapM_cons]
    exact OnlySends.bind (OnlySends.map _ (deliver_onlySends p c)) fun _ =>
      OnlySends.bind ih fun _ => OnlySends.pure _

end Uptime.Service
