/-!
JSON documents as this library reads and writes them. Objects keep their members in the
order they were first inserted, whole numbers are unbounded integers and numbers with a
fraction or an exponent are binary64 values. Writing a key that is already present keeps
its place and replaces its value (`Value.setField_keys`).
-/
namespace Uptime.Json

/-- A JSON document. Objects list their members in insertion order. -/
inductive Value where
  | null
  | bool (b : Bool)
  | int (n : Int)
  | float (x : Float)
  | str (s : String)
  | arr (items : List Value)
  | obj (fields : List (String × Value))
deriving Inhabited

namespace Value

/-- Put `v` under `k`: a key already present keeps its place, a new key goes last. -/
def setField : List (String × Value) → String → Value → List (String × Value)
  | [], k, v => [(k, v)]
  | (k', v') :: rest, k, v => if k' = k then (k, v) :: rest else (k', v') :: setField rest k v

theorem setField_keys (fs : List (String × Value)) (k : String) (v : Value) :
    (setField fs k v).map Prod.fst = if k ∈ fs.map Prod.fst then fs.map Prod.fst
      else fs.map Prod.fst ++ [k] := by
  induction fs with
  | nil => simp [setField]
  | cons p rest ih =>
    obtain ⟨k', v'⟩ := p
    by_cases h : k' = k
    · subst h; simp [setField]
    · have hk : ¬ k = k' := fun e => h e.symm
      by_cases hm : k ∈ rest.map Prod.fst <;> simp_all [setField]

theorem nodup_setField {fs : List (String × Value)} (hnd : (fs.map Prod.fst).Nodup) (k : String)
    (v : Value) : ((setField fs k v).map Prod.fst).Nodup := by
  rw [setField_keys]
  split
  · exact hnd
  · rename_i hk
    refine List.nodup_append.2 ⟨hnd, List.pairwise_singleton _ k, ?_⟩
    intro a ha b hb
    rw [List.mem_singleton.1 hb]
    rintro rfl
    exact hk ha

def ofPairs (ps : List (String × Value)) : Value :=
  .obj (ps.foldl (fun acc p => setField acc p.1 p.2) [])

def get? : Value → String → Option Value
  | .obj fs, k => fs.lookup k
  | _, _ => none

def asStr? : Value → Option String
  | .str s => some s
  | _ => none

def asArr? : Value → Option (List Value)
  | .arr xs => some xs
  | _ => none

def asObj? : Value → Option (List (String × Value))
  | .obj fs => some fs
  | _ => none

def asBool? : Value → Option Bool
  | .bool b => some b
  | _ => none

def asInt? : Value → Option Int
  | .int n => some n
  | _ => none

def isNull : Value → Bool
  | .null => true
  | _ => false

def ofOptStr : Option String → Value
  | some s => .str s
  | none => .null

def ofOptInt : Option Int → Value
  | some n => .int n
  | none => .null

end Value

theorem lookup_of_mem {l : List (String × Value)} (hnd : (l.map Prod.fst).Nodup)
    {m : String × Value} (hm : m ∈ l) : l.lookup m.1 = some m.2 := by
  induction l with
  | nil => simp at hm
  | cons p l ih =>
    obtain ⟨k, v⟩ := p
    simp only [List.map_cons, List.nodup_cons] at hnd
    rcases List.mem_cons.1 hm with rfl | hm
    · simp
    · have hne : (m.1 == k) = false :=
        beq_eq_false_iff_ne.mpr fun h => hnd.1 (h ▸ List.mem_map_of_mem hm)
      rw [List.lookup_cons, hne]
      exact ih hnd.2 hm

theorem mem_of_lookup {l : List (String × Value)} {k : String} {v : Value}
    (h : l.lookup k = some v) : (k, v) ∈ l := by
  obtain ⟨l₁, l₂, rfl, -⟩ := List.lookup_eq_some_iff.1 h
  simp

end Uptime.Json
