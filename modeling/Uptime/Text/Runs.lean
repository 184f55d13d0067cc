/-!
Character tables kept as sorted arrays of disjoint runs, each covering the code points
from its low to its high end. A lookup halves the part of the array left to search, so
it ends after as many steps as the size of the array has binary digits.
-/

namespace Uptime.Text

/-- The entry of `runs` whose span `(lo, hi)` holds `n`, when `runs` is sorted by span
and no two spans meet. -/
def findRun? {α : Type} (runs : Array α) (span : α → Nat × Nat) (n : Nat) : Option α :=
  go 0 runs.size
where
  /-- The search among the entries from `lo` up to, not including, `hi`. -/
  go (lo hi : Nat) : Option α :=
    if _h : lo < hi then
      match runs[(lo + hi) / 2]? with
      | none => none
      | some e =>
        if n < (span e).1 then go lo ((lo + hi) / 2)
        else if (span e).2 < n then go ((lo + hi) / 2 + 1) hi
        else some e
    else none
  termination_by hi - lo
  decreasing_by all_goals omega

def inRuns (runs : Array (Nat × Nat)) (n : Nat) : Bool :=
  (findRun? runs id n).isSome

def runValue? {α : Type} (runs : Array (Nat × Nat × α)) (n : Nat) : Option α :=
  (findRun? runs (fun (lo, hi, _) => (lo, hi)) n).map (·.2.2)

end Uptime.Text
