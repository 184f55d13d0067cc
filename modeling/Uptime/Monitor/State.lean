import Uptime.Monitor.Status
import Uptime.Schema.Field
/-!
What is remembered of a monitor between checks: its latest status, how many checks in a
row have failed, when the status last changed and when it was last checked.
`State.next` is the one way a state moves: the streak grows by one on a failure after a
failure, starts at one on a failure after anything else, and is zero otherwise; the
change time moves only when the status changes (`next_failures`, `next_lastChangeAt`).
-/
namespace Uptime.Monitor

open Uptime.Json Uptime.Schema Uptime.Time

/-- The remembered state of one monitor. -/
structure State where
  monitorId : String
  status : Status
  failures : Nat
  lastChangeAt : Moment
  lastCheckedAt : Moment
deriving DecidableEq, Repr

namespace State

/-- The state after a check with status `status` at `now`, given the state before. -/
def next (monitorId : String) (status : Status) (prev : Option State) (now : Moment) :
    State :=
  let failures := match status, prev with
    | .down, some p => if p.status = .down then p.failures + 1 else 1
    | .down, none => 1
    | _, _ => 0
  let changedAt := match prev with
    | some p => if p.status = status then p.lastChangeAt else now
    | none => now
  ⟨monitorId, status, failures, changedAt, now⟩

@[simp] theorem next_status (m : String) (s : Status) (p : Option State) (now : Moment) :
    (next m s p now).status = s := rfl

@[simp] theorem next_lastCheckedAt (m : String) (s : Status) (p : Option State)
    (now : Moment) : (next m s p now).lastCheckedAt = now := rfl

theorem next_failures (m : String) (s : Status) (p : Option State) (now : Moment) :
    (next m s p now).failures =
      if s = .down then
        (match p with
          | some q => if q.status = .down then q.failures + 1 else 1
          | none => 1)
      else 0 := by
  cases s <;> cases p <;> simp [next]

theorem next_lastChangeAt (m : String) (s : Status) (p : Option State) (now : Moment) :
    (next m s p now).lastChangeAt =
      match p with
      | some q => if q.status = s then q.lastChangeAt else now
      | none => now := by
  cases p <;> rfl

/-- After anything but a failure a streak starts afresh: at one for a failure, at none
otherwise. -/
theorem next_failures_of_not_down (m : String) (s : Status) {p : Option State} (now : Moment)
    (hp : ∀ q ∈ p, q.status ≠ .down) :
    (next m s p now).failures = if s = .down then 1 else 0 := by
  rw [next_failures]
  cases p with
  | none => rfl
  | some q => simp [hp q rfl]

theorem next_lastChangeAt_of_not_down (m : String) {p : Option State} (now : Moment)
    (hp : ∀ q ∈ p, q.status ≠ .down) : (next m .down p now).lastChangeAt = now := by
  rw [next_lastChangeAt]
  cases p with
  | none => rfl
  | some q => simp [hp q rfl]

def statusChoices : String := choices ["0", "1", "2", "3"]

/-- A status from a document: its numeric code, as a whole number in any accepted
form. A code that does not fit 64 bits with its sign is too large to look up. -/
def checkStatus (v : Value) : Checked Status :=
  match (whole v).run with
  | .ok n =>
    if n < -9223372036854775808 ∨ n ≥ 9223372036854775808 then .fail .intParsingSize v
    else match Status.ofCode? n with
      | some s => .ok s
      | none => .fail (.enumValue statusChoices) v
  | .error _ => .fail (.enumValue statusChoices) v

/-- A state from a document. -/
def check (v : Value) : Checked State :=
  (members "MonitorState" v).andThen fun fs =>
    State.mk <$> required fs "monitor_id" text
      <*> required fs "status" checkStatus
      <*> withDefault fs "consecutive_failures" 0
        (fun v => (whole v).andThen fun n => (atLeast 0 v n).andThen fun n => .ok n.toNat)
      <*> required fs "last_change_at" moment
      <*> required fs "last_checked_at" moment

def toValue (s : State) : Value :=
  .obj [("monitor_id", .str s.monitorId), ("status", .int s.status.code),
    ("consecutive_failures", .int s.failures),
    ("last_change_at", .str s.lastChangeAt.recordText),
    ("last_checked_at", .str s.lastCheckedAt.recordText)]

end State

end Uptime.Monitor
