import Uptime.Proofs.ReadingPaths
/-! Automatic readings. They are taken in order and written one over another by key
(`flattenInto_eq`), so what they hold depends on whether two of them can share a key. For a
document whose objects are dictionaries with keys that are not empty and have no dot
(`WellKeyed`), none can: a reading's dotted path gives back its keys
(`reading_value_unique`). The automatic readings of such an object are then exactly the
scalars one to three keys deep, under their dotted paths, and the lengths of the lists there
(`mem_flatten_iff`), and a scalar is one of them exactly when the manual reading of its path
finds it (`auto_readings_agree_with_manual`). -/

namespace Uptime.Extraction

open Uptime.Json

/-! ### Documents and the values under their keys -/

/-- Whether a value is a scalar: neither a list nor an object. -/
def isScalar : Value → Bool
  | .arr _ | .obj _ => false
  | _ => true

def atKeys : Value → List String → Option Value
  | v, [] => some v
  | .obj fs, k :: ks => (fs.lookup k).bind (atKeys · ks)
  | _, _ :: _ => none

/-- A document whose objects, at every depth, are dictionaries with keys that are not empty
and have no dot. -/
inductive WellKeyed : Value → Prop
  | obj {fs : List (String × Value)} (distinct : (fs.map Prod.fst).Nodup)
      (keys : ∀ kv ∈ fs, kv.1 ≠ "" ∧ '.' ∉ kv.1.toList)
      (values : ∀ kv ∈ fs, WellKeyed kv.2) : WellKeyed (.obj fs)
  | arr {xs : List Value} (items : ∀ x ∈ xs, WellKeyed x) : WellKeyed (.arr xs)
  | scalar {v : Value} (h : isScalar v = true) : WellKeyed v

def ScalarAt (d : Value) (k : String) (v : Value) : Prop :=
  ∃ ks, ks ≠ [] ∧ ks.length ≤ 3 ∧ k = dotted ks ∧ atKeys d ks = some v ∧ isScalar v = true

/-- The length of a list reached through one to three object keys, under their dotted path
and `length`. -/
def LengthAt (d : Value) (k : String) (v : Value) : Prop :=
  ∃ ks xs, ks ≠ [] ∧ ks.length ≤ 3 ∧ k = dotted ks ++ ".length" ∧
    atKeys d ks = some (.arr xs) ∧ v = .int xs.length

theorem atKeys_append (d : Value) (ks ks' : List String) :
    atKeys d (ks ++ ks') = (atKeys d ks).bind (atKeys · ks') := by
  induction ks generalizing d with
  | nil => rfl
  | cons k ks ih =>
    cases d with
    | obj fs =>
      rcases hl : fs.lookup k with _ | w
      · simp [atKeys, hl]
      · simp [atKeys, hl, ih w]
    | _ => rfl

theorem atKeys_of_not_obj {w : Value} (hw : ∀ fs, w ≠ .obj fs) {ks : List String}
    {u : Value} (h : atKeys w ks = some u) : ks = [] ∧ u = w := by
  cases ks with
  | nil => exact ⟨rfl, (Option.some.inj h).symm⟩
  | cons k ks =>
    cases w with
    | obj fs => exact absurd rfl (hw fs)
    | _ => cases h

theorem WellKeyed.atKeys_keys {d : Value} (hd : WellKeyed d) {ks : List String} {u : Value}
    (h : atKeys d ks = some u) : ∀ k ∈ ks, k ≠ "" ∧ '.' ∉ k.toList := by
  induction ks generalizing d with
  | nil => simp
  | cons k ks ih =>
    cases hd with
    | obj distinct keys values =>
      obtain ⟨w, hl, hw⟩ := Option.bind_eq_some_iff.1 h
      have hmem := mem_of_lookup hl
      intro k' hk'
      rcases List.mem_cons.1 hk' with rfl | hk'
      · exact keys _ hmem
      · exact ih (values _ hmem) hw k' hk'
    | arr => cases h
    | scalar hs => exact absurd (atKeys_of_not_obj (by rintro fs rfl; cases hs) h).1 (by simp)

/-! ### Dotted paths of readings -/

theorem dotted_append_length {ps : List String} (hne : ps ≠ []) :
    dotted ps ++ ".length" = dotted (ps ++ ["length"]) := by
  rw [dotted_append_singleton hne, String.append_assoc]
  rfl

theorem dotted_inj {ks ks' : List String} (hne : ks ≠ []) (hne' : ks' ≠ [])
    (hdot : ∀ k ∈ ks, '.' ∉ k.toList) (hdot' : ∀ k ∈ ks', '.' ∉ k.toList)
    (h : dotted ks = dotted ks') : ks = ks' := by
  rw [← dottedParts_dotted hne hdot, h, dottedParts_dotted hne' hdot']

/-- A reading of a well-keyed document sits at the dotted path of keys without dots: a
scalar at its own keys, a length at its list's keys followed by `length`. -/
theorem reading_keys {d : Value} (hd : WellKeyed d) {k : String} {v : Value}
    (h : ScalarAt d k v ∨ LengthAt d k v) :
    ∃ ks, ks ≠ [] ∧ (∀ p ∈ ks, '.' ∉ p.toList) ∧ k = dotted ks ∧
      (atKeys d ks = some v ∨
        ∃ pre xs, ks = pre ++ ["length"] ∧ atKeys d pre = some (.arr xs) ∧
          v = .int xs.length) := by
  rcases h with ⟨ks, hne, -, hk, hat, -⟩ | ⟨ks, xs, hne, -, hk, hat, hv⟩
  · exact ⟨ks, hne, fun p hp => (hd.atKeys_keys hat p hp).2, hk, .inl hat⟩
  · refine ⟨ks ++ ["length"], by simp, ?_, hk.trans (dotted_append_length hne),
      .inr ⟨ks, xs, rfl, hat, hv⟩⟩
    intro p hp
    rcases List.mem_append.1 hp with hp | hp
    · exact (hd.atKeys_keys hat p hp).2
    · rw [List.mem_singleton.1 hp]
      decide

theorem atKeys_length {d : Value} {pre : List String} {xs : List Value}
    (h : atKeys d pre = some (.arr xs)) : atKeys d (pre ++ ["length"]) = none := by
  rw [atKeys_append, h]
  rfl

/-- **No two readings at one path.** In a well-keyed document, two readings under the same
dotted path have the same value. -/
theorem reading_value_unique {d : Value} (hd : WellKeyed d) {k : String} {v v' : Value}
    (h : ScalarAt d k v ∨ LengthAt d k v) (h' : ScalarAt d k v' ∨ LengthAt d k v') :
    v = v' := by
  obtain ⟨ks, hne, hdot, hk, hv⟩ := reading_keys hd h
  obtain ⟨ks', hne', hdot', hk', hv'⟩ := reading_keys hd h'
  obtain rfl : ks = ks' := dotted_inj hne hne' hdot hdot' (hk.symm.trans hk')
  rcases hv with hat | ⟨pre, xs, rfl, hat, rfl⟩ <;>
    rcases hv' with hat' | ⟨pre', xs', hpre, hat', rfl⟩
  · exact Option.some.inj (hat.symm.trans hat')
  · rw [hpre, atKeys_length hat'] at hat
    cases hat
  · rw [atKeys_length hat] at hat'
    cases hat'
  · obtain rfl := List.append_cancel_right hpre
    obtain rfl : xs = xs' := by simpa using hat.symm.trans hat'
    rfl

/-! ### Automatic readings as a list -/

mutual

/-- The automatic readings of a value found at `path` and `depth`, in the order they are
taken, repeats included. -/
def leafSeq (path : String) (depth : Nat) : Value → List (String × Value)
  | .obj fs => if depth ≥ maxDepth then [] else memberSeq path depth fs
  | .arr xs => [(joinPath path "length", .int xs.length)]
  | v => [(if path.isEmpty then "value" else path, v)]

def memberSeq (path : String) (depth : Nat) : List (String × Value) → List (String × Value)
  | [] => []
  | (k, v) :: fs => leafSeq (joinPath path k) (depth + 1) v ++ memberSeq path depth fs

end

def setFields (out readings : List (String × Value)) : List (String × Value) :=
  readings.foldl (fun acc e => Value.setField acc e.1 e.2) out

mutual

theorem flattenInto_eq (path : String) (depth : Nat) (out : List (String × Value)) :
    ∀ v, flattenInto path depth out v = setFields out (leafSeq path depth v)
  | .obj fs => by
    rw [flattenInto, leafSeq]
    split
    · rfl
    · exact flattenMembers_eq path depth out fs
  | .arr _ | .null | .bool _ | .int _ | .float _ | .str _ => rfl

theorem flattenMembers_eq (path : String) (depth : Nat) :
    ∀ out fs, flattenMembers path depth out fs = setFields out (memberSeq path depth fs)
  | _, [] => rfl
  | out, (k, v) :: fs => by
    rw [flattenMembers, memberSeq, flattenMembers_eq, flattenInto_eq]
    simp only [setFields, List.foldl_append]

end

theorem mem_memberSeq {path : String} {depth : Nat} {fs : List (String × Value)}
    {e : String × Value} :
    e ∈ memberSeq path depth fs ↔
      ∃ kv ∈ fs, e ∈ leafSeq (joinPath path kv.1) (depth + 1) kv.2 := by
  induction fs with
  | nil => simp [memberSeq]
  | cons kv fs ih =>
    obtain ⟨k, v⟩ := kv
    simp [memberSeq, ih]

theorem leafSeq_scalar {v : Value} (h : isScalar v = true) (path : String) (depth : Nat) :
    leafSeq path depth v = [(if path.isEmpty then "value" else path, v)] := by
  cases v <;> first | rfl | cases h

/-! ### Which readings a value gives -/

/-- The automatic readings below `w`, which lies under the keys `ps`: a scalar reached
through keys `ks`, under the dotted path of `ps ++ ks`, or the length of a list so reached,
under that path and `length`, with at most three keys in all. -/
def EntryBelow (ps : List String) (w : Value) (k : String) (v : Value) : Prop :=
  ∃ ks u, ps.length + ks.length ≤ 3 ∧ atKeys w ks = some u ∧
    ((isScalar u = true ∧ k = dotted (ps ++ ks) ∧ v = u) ∨
      ∃ xs, u = .arr xs ∧ k = dotted (ps ++ ks) ++ ".length" ∧ v = .int xs.length)

/-- Below a value that is not an object there is only the value itself: a scalar under the
path it lies at, or a list's length under that path and `length`. -/
theorem entryBelow_of_not_obj {ps : List String} (hlen : ps.length ≤ 3) {w : Value}
    (hw : ∀ fs, w ≠ .obj fs) {k : String} {v : Value} :
    EntryBelow ps w k v ↔ (isScalar w = true ∧ k = dotted ps ∧ v = w) ∨
      ∃ xs, w = .arr xs ∧ k = dotted ps ++ ".length" ∧ v = .int xs.length := by
  constructor
  · rintro ⟨ks, u, -, hat, hu⟩
    obtain ⟨rfl, rfl⟩ := atKeys_of_not_obj hw hat
    simpa using hu
  · intro h
    exact ⟨[], w, by simpa using hlen, rfl, by simpa using h⟩

/-- The readings below an object are those below its members, one key further down, while
there is room for a key. -/
theorem entryBelow_obj {ps : List String} {fs : List (String × Value)}
    (hd : (fs.map Prod.fst).Nodup) {k : String} {v : Value} :
    EntryBelow ps (.obj fs) k v ↔
      ps.length < 3 ∧ ∃ kv ∈ fs, EntryBelow (ps ++ [kv.1]) kv.2 k v := by
  constructor
  · rintro ⟨_ | ⟨k', ks⟩, u, hle, hat, hu⟩
    · -- the object itself is no reading
      obtain rfl : Value.obj fs = u := Option.some.inj hat
      rcases hu with ⟨h, -⟩ | ⟨xs, h, -⟩ <;> cases h
    · obtain ⟨w, hl, hw⟩ := Option.bind_eq_some_iff.1 hat
      refine ⟨by simp at hle; omega, (k', w), mem_of_lookup hl, ks, u,
        by simp at hle ⊢; omega, hw, by simpa using hu⟩
  · rintro ⟨-, ⟨k', w⟩, hmem, ks, u, hle, hat, hu⟩
    have hl : fs.lookup k' = some w := lookup_of_mem hd hmem
    refine ⟨k' :: ks, u, by simp at hle ⊢; omega, ?_, by simpa using hu⟩
    simp [atKeys, hl, hat]

/-- The automatic readings of a well-keyed value under the keys `ps` are the readings below
it. The induction follows the value; an object hands each member one key more. -/
theorem mem_leafSeq {w : Value} (hw : WellKeyed w) :
    ∀ {ps : List String}, (∀ p ∈ ps, p ≠ "") → ps.length ≤ 3 → (ps = [] → ∃ fs, w = .obj fs) →
      ∀ {k v}, (k, v) ∈ leafSeq (dotted ps) ps.length w ↔ EntryBelow ps w k v := by
  induction hw with
  | @obj fs distinct keys values ih =>
    intro ps hps hlen _ k v
    rw [entryBelow_obj distinct, leafSeq]
    split
    · -- three keys down, an object gives nothing
      rename_i hfull
      simp only [List.not_mem_nil, false_iff, not_and]
      intro hlt
      exact absurd hfull (by unfold maxDepth; omega)
    · rename_i hroom
      have hlt : ps.length < 3 := by unfold maxDepth at hroom; omega
      rw [mem_memberSeq]
      simp only [hlt, true_and]
      refine exists_congr fun kv => and_congr_right fun hkv => ?_
      have hps' : ∀ p ∈ ps ++ [kv.1], p ≠ "" := by
        intro p hp
        rcases List.mem_append.1 hp with hp | hp
        · exact hps p hp
        · exact (List.mem_singleton.1 hp) ▸ (keys kv hkv).1
      rw [joinPath_dotted hps, show ps.length + 1 = (ps ++ [kv.1]).length by simp]
      exact @ih kv hkv (ps ++ [kv.1]) hps' (by simp; omega) (by simp) k v
  | @arr xs _ _ =>
    intro ps hps hlen hroot k v
    have hne : ps ≠ [] := fun e => by
      obtain ⟨fs, hfs⟩ := hroot e
      cases hfs
    rw [entryBelow_of_not_obj hlen (by simp), leafSeq, joinPath, dotted_isEmpty hne hps,
      dotted_append_length hne, dotted_append_singleton hne]
    simp [isScalar]
  | @scalar w h =>
    intro ps hps hlen hroot k v
    have hne : ps ≠ [] := fun e => by
      obtain ⟨fs, rfl⟩ := hroot e
      cases h
    have hnarr : ∀ xs, w ≠ .arr xs := by
      rintro xs rfl
      cases h
    rw [entryBelow_of_not_obj hlen (by rintro fs rfl; cases h), leafSeq_scalar h,
      dotted_isEmpty hne hps]
    simp [h, hnarr]

theorem entryBelow_nil_obj {fs : List (String × Value)} {k : String} {v : Value} :
    EntryBelow [] (.obj fs) k v ↔ ScalarAt (.obj fs) k v ∨ LengthAt (.obj fs) k v := by
  constructor
  · rintro ⟨ks, u, hle, hat, hu⟩
    have hne : ks ≠ [] := by
      rintro rfl
      obtain rfl : Value.obj fs = u := Option.some.inj hat
      rcases hu with ⟨h, -⟩ | ⟨xs, h, -⟩ <;> cases h
    rcases hu with ⟨hs, hk, rfl⟩ | ⟨xs, rfl, hk, hv⟩
    · exact .inl ⟨ks, hne, by simpa using hle, by simpa using hk, hat, hs⟩
    · exact .inr ⟨ks, xs, hne, by simpa using hle, by simpa using hk, hat, hv⟩
  · rintro (⟨ks, -, hle, hk, hat, hs⟩ | ⟨ks, xs, -, hle, hk, hat, hv⟩)
    · exact ⟨ks, v, by simpa using hle, hat, .inl ⟨hs, by simpa using hk, rfl⟩⟩
    · exact ⟨ks, _, by simpa using hle, hat, .inr ⟨xs, rfl, by simpa using hk, hv⟩⟩

/-! ### Writing readings by key -/

theorem mem_setField {fs : List (String × Value)} (hfs : (fs.map Prod.fst).Nodup)
    (k : String) (v : Value) {e : String × Value} :
    e ∈ Value.setField fs k v ↔ e = (k, v) ∨ (e ∈ fs ∧ e.1 ≠ k) := by
  induction fs with
  | nil => simp [Value.setField]
  | cons kv fs ih =>
    obtain ⟨k', v'⟩ := kv
    simp only [List.map_cons, List.nodup_cons] at hfs
    have hfresh : ∀ e ∈ fs, e.1 ≠ k' := fun e he h => hfs.1 (h ▸ List.mem_map_of_mem he)
    by_cases hk : k' = k
    · subst hk
      have := hfresh e
      simp only [Value.setField, List.mem_cons]
      grind
    · have := @ih hfs.2
      simp only [Value.setField, if_neg hk, List.mem_cons]
      grind

/-- Readings of which no two share a key with different values are all kept when written one
after another: each over the one of its key, which holds the same. -/
theorem mem_setFields {F : List (String × Value)}
    (hF : ∀ k v v', (k, v) ∈ F → (k, v') ∈ F → v = v') (readings : List (String × Value)) :
    ∀ {acc : List (String × Value)}, (∀ e ∈ readings, e ∈ F) → (∀ e ∈ acc, e ∈ F) →
      (acc.map Prod.fst).Nodup →
        ∀ {e}, e ∈ setFields acc readings ↔ e ∈ acc ∨ e ∈ readings := by
  induction readings with
  | nil => simp [setFields]
  | cons x readings ih =>
    intro acc hE hacc hnd e
    have hx : x ∈ F := hE x List.mem_cons_self
    have hacc' : ∀ e ∈ Value.setField acc x.1 x.2, e ∈ F := by
      intro e he
      rcases (mem_setField hnd x.1 x.2).1 he with rfl | ⟨he, -⟩
      · exact hx
      · exact hacc e he
    have hrest := @ih (Value.setField acc x.1 x.2) (fun e he => hE e (List.mem_cons_of_mem x he))
      hacc' (Value.nodup_setField hnd x.1 x.2) e
    simp only [setFields, List.foldl_cons] at hrest ⊢
    rw [hrest, mem_setField hnd, List.mem_cons]
    constructor
    · rintro ((rfl | ⟨h, -⟩) | h) <;> simp_all
    · rintro (h | rfl | h)
      · by_cases hk : e.1 = x.1
        · -- an old pair of the new key holds the new value
          have hv := hF x.1 e.2 x.2 (hk ▸ hacc e h) hx
          exact .inl (.inl (Prod.ext hk hv))
        · exact .inl (.inr ⟨h, hk⟩)
      · exact .inl (.inl rfl)
      · exact .inr h

/-- **What the automatic readings hold.** The automatic readings of a well-keyed object are
its scalars one to three keys down, under their dotted paths, and the lengths of its lists
there, under their dotted paths and `length`. -/
theorem mem_flatten_iff {fs : List (String × Value)} (hd : WellKeyed (.obj fs)) {k : String}
    {v : Value} :
    (k, v) ∈ flatten (.obj fs) ↔ ScalarAt (.obj fs) k v ∨ LengthAt (.obj fs) k v := by
  have hleaf : ∀ {k v}, (k, v) ∈ leafSeq "" 0 (.obj fs) ↔
      ScalarAt (.obj fs) k v ∨ LengthAt (.obj fs) k v := by
    intro k v
    rw [← entryBelow_nil_obj]
    exact @mem_leafSeq _ hd [] (by simp) (by simp) (fun _ => ⟨fs, rfl⟩) k v
  have hF : ∀ k v v', (k, v) ∈ leafSeq "" 0 (.obj fs) → (k, v') ∈ leafSeq "" 0 (.obj fs) →
      v = v' := fun k v v' h h' => reading_value_unique hd (hleaf.1 h) (hleaf.1 h')
  rw [flatten, flattenInto_eq, mem_setFields hF _ (fun _ h => h) (by simp) (by simp), hleaf]
  simp

/-! ### Automatic and manual readings -/

theorem atKeys_follow {d : Value} {ks : List String} {u : Value} (h : atKeys d ks = some u) :
    follow d ks = some u ∧ ¬ Snags d ks := by
  induction ks generalizing d with
  | nil =>
    exact ⟨h, id⟩
  | cons k ks ih =>
    cases d with
    | obj fs =>
      obtain ⟨w, hl, hw⟩ := Option.bind_eq_some_iff.1 h
      refine ⟨by simp [follow, hl, (ih hw).1], ?_⟩
      rintro ⟨w', hl', hs⟩
      rw [hl, Option.some.injEq] at hl'
      exact (ih hw).2 (hl' ▸ hs)
    | _ => cases h

/-- Reading the dotted path of object keys of a well-keyed object manually gives the value
there under that path. -/
theorem manual_reading_of_keys {fs : List (String × Value)} (hd : WellKeyed (.obj fs))
    {ks : List String} (hne : ks ≠ []) {u : Value} (hat : atKeys (.obj fs) ks = some u)
    (ct : Option String) :
    extract (.doc (.obj fs)) ct ⟨true, .manual, [dotted ks]⟩ = .ok (some [(dotted ks, u)]) := by
  have hparts : dottedParts (dotted ks) = ks :=
    dottedParts_dotted hne fun k hk => (hd.atKeys_keys hat k hk).2
  rw [extract_doc (by simp), direct_manual rfl rfl (by simpa [hparts] using (atKeys_follow hat).2)]
  simp [manualReadings, hparts, (atKeys_follow hat).1, collect, Value.setField]

theorem extract_auto {d : Value} (hd : ∀ t, d ≠ .str t) (ct : Option String)
    (fields : List String) :
    extract (.doc d) ct ⟨true, .auto, fields⟩ =
      .ok (if (flatten d).isEmpty then none else some (flatten d)) := by
  rw [extract_doc hd]
  rfl

/-- **Automatic and manual readings agree.** For an object whose objects, at every depth,
have distinct keys that are not empty and have no dot: the automatic readings are its
scalars one to three keys down and the lengths of its lists there, each under its dotted
path; and a scalar is one of them under a path exactly when that path is made of one to
three object keys and its manual reading returns that scalar under it. -/
theorem auto_readings_agree_with_manual {fs : List (String × Value)} (hd : WellKeyed (.obj fs))
    (ct : Option String) (fields : List String) :
    (∃ auto, extract (.doc (.obj fs)) ct ⟨true, .auto, fields⟩ = .ok auto ∧
      ∀ k v, (k, v) ∈ auto.getD [] ↔ ScalarAt (.obj fs) k v ∨ LengthAt (.obj fs) k v) ∧
    ∀ k v, ScalarAt (.obj fs) k v ↔
      (∃ ks, ks ≠ [] ∧ ks.length ≤ 3 ∧ k = dotted ks ∧ (atKeys (.obj fs) ks).isSome) ∧
        isScalar v = true ∧
        extract (.doc (.obj fs)) ct ⟨true, .manual, [k]⟩ = .ok (some [(k, v)]) := by
  refine ⟨⟨_, extract_auto (by simp) ct fields, fun k v => ?_⟩, fun k v => ⟨?_, ?_⟩⟩
  · have hall : (if (flatten (.obj fs)).isEmpty then none else some (flatten (.obj fs))).getD []
        = flatten (.obj fs) := by
      cases flatten (.obj fs) <;> rfl
    rw [hall, mem_flatten_iff hd]
  · rintro ⟨ks, hne, hle, rfl, hat, hs⟩
    exact ⟨⟨ks, hne, hle, rfl, by simp [hat]⟩, hs, manual_reading_of_keys hd hne hat ct⟩
  · rintro ⟨⟨ks, hne, hle, rfl, hsome⟩, hs, hman⟩
    obtain ⟨u, hu⟩ := Option.isSome_iff_exists.1 hsome
    rw [manual_reading_of_keys hd hne hu ct] at hman
    obtain rfl : u = v := by simpa using hman
    exact ⟨ks, hne, hle, rfl, hu, hs⟩

/-- An object with an object and a list under its keys: the scalar two keys down is read
manually under its dotted path. -/
theorem auto_readings_agree_on_nested_object :
    WellKeyed (.obj [("a", .obj [("b", .int 1)]), ("c", .arr [.bool true])]) ∧
      extract (.doc (.obj [("a", .obj [("b", .int 1)]), ("c", .arr [.bool true])])) none
        ⟨true, .manual, ["a.b"]⟩ = .ok (some [("a.b", .int 1)]) := by
  have hd : WellKeyed (.obj [("a", .obj [("b", .int 1)]), ("c", .arr [.bool true])]) := by
    refine .obj (by decide) (by decide) ?_
    intro kv hkv
    simp only [List.mem_cons, List.not_mem_nil, or_false] at hkv
    rcases hkv with rfl | rfl
    · refine .obj (by decide) (by decide) ?_
      intro kv hkv
      rw [List.mem_singleton.1 hkv]
      exact .scalar rfl
    · exact .arr fun x hx => (List.mem_singleton.1 hx) ▸ .scalar rfl
  have hpath : "a.b" = dotted ["a", "b"] := by decide
  exact ⟨hd, (((auto_readings_agree_with_manual hd none []).2 "a.b" (.int 1)).1
    ⟨["a", "b"], by simp, by simp, hpath, rfl, rfl⟩).2.2⟩

end Uptime.Extraction
