/-!
The status of a monitored site after a check. Each status has a numeric code, which is
how it is stored and sent, and a name. Codes and names determine each other
(`Status.ofCode_code`, `Status.ofName_name`).
-/
namespace Uptime.Monitor

/-- What the latest check of a site found. -/
inductive Status where
  | down
  | up
  | pending
  | maintenance
deriving DecidableEq, Repr, Inhabited

namespace Status

def code : Status → Nat
  | .down => 0
  | .up => 1
  | .pending => 2
  | .maintenance => 3

def ofCode? : Int → Option Status
  | 0 => some .down
  | 1 => some .up
  | 2 => some .pending
  | 3 => some .maintenance
  | _ => none

def name : Status → String
  | .down => "DOWN"
  | .up => "UP"
  | .pending => "PENDING"
  | .maintenance => "MAINTENANCE"

def ofName? : String → Option Status
  | "DOWN" => some .down
  | "UP" => some .up
  | "PENDING" => some .pending
  | "MAINTENANCE" => some .maintenance
  | _ => none

@[simp] theorem ofCode_code (s : Status) : ofCode? s.code = some s := by
  cases s <;> rfl

@[simp] theorem ofName_name (s : Status) : ofName? s.name = some s := by
  cases s <;> rfl

end Status

end Uptime.Monitor
