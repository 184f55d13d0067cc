import Uptime.Proofs.CheckReadings
/-! Readings by path. A manual reading walks a dotted path part by part: a part names a
key of an object, or a position of a list written in digits. The walk reaches the value
that `follow` says, unless it meets a list at a position written in digits that cannot be
read as a number (`Snags`): a digit with no decimal value, such as `²`, or more digits than
a number may have; the extraction then fails (`resolveParts_of_snags`). So the manual
readings are exactly the fields that lead somewhere, in order, when no field meets such a
position, and the extraction fails only there or on a body nested too deep
(`readings_fail_only_at_unreadable_positions`). -/

namespace Uptime.Extraction

open Uptime.Json Uptime.Text

/-! ### Dotted paths -/

def dotted (ks : List String) : String := ".".intercalate ks

theorem dottedParts_dotted {ks : List String} (hne : ks ≠ [])
    (hdot : ∀ k ∈ ks, '.' ∉ k.toList) : dottedParts (dotted ks) = ks := by
  unfold dottedParts dotted
  rw [String.toList_intercalate, show ".".toList = ['.'] from rfl,
    List.splitOn_intercalate '.' (by simpa using hdot) (by simpa using hne), List.map_map]
  simp

theorem dotted_ne_empty {ks : List String} (hne : ks ≠ []) (hks : ∀ k ∈ ks, k ≠ "") :
    dotted ks ≠ "" := by
  obtain ⟨k, ks, rfl⟩ := List.ne_nil_iff_exists_cons.1 hne
  intro h
  have hlen := congrArg String.length h
  cases ks with
  | nil => exact hks k (by simp) (by simpa [dotted] using h)
  | cons k' ks =>
    simp [dotted, String.intercalate_cons_cons, String.length_append] at hlen

theorem dotted_isEmpty {ks : List String} (hne : ks ≠ []) (hks : ∀ k ∈ ks, k ≠ "") :
    (dotted ks).isEmpty = false := by
  simpa [String.isEmpty_iff] using dotted_ne_empty hne hks

theorem dotted_append_singleton {ps : List String} (hne : ps ≠ []) (k : String) :
    dotted (ps ++ [k]) = dotted ps ++ "." ++ k := by
  rw [dotted, dotted, String.intercalate_append_of_ne_nil hne (by simp),
    String.intercalate_singleton]

theorem joinPath_dotted {ps : List String} (hps : ∀ p ∈ ps, p ≠ "") (k : String) :
    joinPath (dotted ps) k = dotted (ps ++ [k]) := by
  by_cases hne : ps = []
  · subst hne
    simp [joinPath, dotted]
  · rw [joinPath, dotted_isEmpty hne hps, dotted_append_singleton hne]
    rfl

/-! ### Walking a path -/

def positionText (p : String) : Prop := p ≠ "" ∧ ∀ c ∈ p.toList, isDigitChar c

instance (p : String) : Decidable (positionText p) :=
  inferInstanceAs (Decidable (_ ∧ _))

/-- A list position written in digits that cannot be read as a number: a digit without a
decimal value, or more digits than a number may have. -/
def unreadablePosition (p : String) : Prop :=
  positionText p ∧ ((∃ c ∈ p.toList, decimalValue? c = none) ∨ maxDigits < p.length)

/-- Where a walk through the parts of a path leads: a part names a key of an object, or,
written in digits, a position of a list below its length. -/
def follow : Value → List String → Option Value
  | v, [] => some v
  | .obj fs, p :: ps => (fs.lookup p).bind fun v => follow v ps
  | .arr xs, p :: ps =>
    if positionText p then ((decimalNumber? p).bind fun i => xs[i]?).bind fun v => follow v ps
    else none
  | _, _ :: _ => none

/-- Whether a walk through the parts of a path meets a list at a position it cannot
read. -/
def Snags : Value → List String → Prop
  | _, [] => False
  | .obj fs, p :: ps => ∃ v, fs.lookup p = some v ∧ Snags v ps
  | .arr xs, p :: ps => unreadablePosition p ∨
      (positionText p ∧ ∃ i v, decimalNumber? p = some i ∧ xs[i]? = some v ∧ Snags v ps)
  | _, _ :: _ => False

theorem decimalNumber?_eq_none_iff (p : String) :
    decimalNumber? p = none ↔ ∃ c ∈ p.toList, decimalValue? c = none := by
  unfold decimalNumber?
  rw [show (∃ c ∈ p.toList, decimalValue? c = none) ↔
    ((some 0 : Option Nat) = none ∨ ∃ c ∈ p.toList, decimalValue? c = none) by simp]
  generalize (some 0 : Option Nat) = acc
  induction p.toList generalizing acc with
  | nil => simp
  | cons c cs ih =>
    rw [List.foldl_cons, ih]
    rcases acc with _ | n <;> rcases hc : decimalValue? c with _ | d <;> simp [hc]

theorem leading_of_decimalNumber? {p : String} {i : Nat} (h : decimalNumber? p = some i) :
    (p.toList.takeWhile fun c => (decimalValue? c).isSome).length = p.length := by
  have hall : ∀ c ∈ p.toList, (decimalValue? c).isSome := by
    intro c hc
    by_contra hn
    have := (decimalNumber?_eq_none_iff p).2 ⟨c, hc, by simpa using hn⟩
    simp_all
  rw [List.takeWhile_eq_self_iff.2 hall, String.length_toList]

theorem step_arr (xs : List Value) (p : String) :
    step (.arr xs) p =
      if p.isEmpty ∨ ¬ p.toList.all isDigitChar then .ok none
      else if maxDigits < (p.toList.takeWhile fun c => (decimalValue? c).isSome).length then
        .error (.tooManyDigits (p.toList.takeWhile fun c => (decimalValue? c).isSome).length)
      else match decimalNumber? p with
        | none => .error (.notANumber p)
        | some i => .ok xs[i]? := rfl

theorem step_arr_position (xs : List Value) {p : String} (hp : positionText p) :
    (unreadablePosition p → ∃ e, step (.arr xs) p = .error e) ∧
    (¬ unreadablePosition p → step (.arr xs) p = .ok ((decimalNumber? p).bind fun i => xs[i]?)) := by
  have hpos : ¬ (p.isEmpty ∨ ¬ p.toList.all isDigitChar = true) := by
    simpa [String.isEmpty_iff, hp.1] using hp.2
  rw [step_arr, if_neg hpos]
  rcases hn : decimalNumber? p with _ | i
  · -- no number: refused, for too many digits or for a digit without a value
    have hbad : unreadablePosition p := ⟨hp, .inl ((decimalNumber?_eq_none_iff p).1 hn)⟩
    refine ⟨fun _ => ?_, fun h => absurd hbad h⟩
    split
    · exact ⟨_, rfl⟩
    · exact ⟨_, rfl⟩
  · have hiff : unreadablePosition p ↔ maxDigits < p.length := by
      simp [unreadablePosition, hp, ← decimalNumber?_eq_none_iff, hn]
    rw [leading_of_decimalNumber? hn]
    constructor
    · intro h
      exact ⟨_, if_pos (hiff.1 h)⟩
    · intro h
      rw [if_neg (mt hiff.2 h)]
      rfl

theorem step_arr_not_position (xs : List Value) {p : String} (hp : ¬ positionText p) :
    step (.arr xs) p = .ok none := by
  have hpos : p.isEmpty ∨ ¬ p.toList.all isDigitChar = true := by
    by_contra h
    exact hp ⟨by simpa [String.isEmpty_iff] using (not_or.1 h).1, by simpa using (not_or.1 h).2⟩
  rw [step_arr, if_pos hpos]

theorem resolveParts_cons {cur : Value} {p : String} {r : Option Value} (h : step cur p = .ok r)
    (ps : List String) :
    resolveParts cur (p :: ps) = r.elim (.ok none) (resolveParts · ps) := by
  simp only [resolveParts, h, bind, Except.bind]
  rcases r <;> rfl

theorem resolveParts_of_step_error {cur : Value} {p : String} {e : Fault}
    (h : step cur p = .error e) (ps : List String) : resolveParts cur (p :: ps) = .error e := by
  simp [resolveParts, h, bind, Except.bind]

theorem resolveParts_eq_follow (v : Value) (ps : List String) (h : ¬ Snags v ps) :
    resolveParts v ps = .ok (follow v ps) := by
  induction ps generalizing v with
  | nil => rfl
  | cons p ps ih =>
    cases v with
    | obj fs =>
      rw [resolveParts_cons rfl]
      rcases hl : fs.lookup p with _ | w
      · simp [follow, hl]
      · simpa [follow, hl] using ih w fun hs => h ⟨w, hl, hs⟩
    | arr xs =>
      by_cases hp : positionText p
      · have hread : ¬ unreadablePosition p := fun hu => h (.inl hu)
        rw [resolveParts_cons ((step_arr_position xs hp).2 hread)]
        rcases hn : decimalNumber? p with _ | i
        · simp [follow, hp, hn]
        rcases hx : xs[i]? with _ | w
        · simp [follow, hp, hn, hx]
        · simpa [follow, hp, hn, hx] using ih w fun hs => h (.inr ⟨hp, i, w, hn, hx, hs⟩)
      · rw [resolveParts_cons (step_arr_not_position xs hp)]
        simp [follow, hp]
    | _ => rfl

theorem resolveParts_of_snags (v : Value) (ps : List String) (h : Snags v ps) :
    ∃ e, resolveParts v ps = .error e := by
  induction ps generalizing v with
  | nil => exact h.elim
  | cons p ps ih =>
    cases v with
    | obj fs =>
      obtain ⟨w, hl, hs⟩ := h
      rw [resolveParts_cons (r := some w) (by simp [step, hl])]
      exact ih w hs
    | arr xs =>
      by_cases hu : unreadablePosition p
      · obtain ⟨e, he⟩ := (step_arr_position xs hu.1).1 hu
        exact ⟨e, resolveParts_of_step_error he ps⟩
      · obtain ⟨hp, i, w, hn, hx, hs⟩ := h.resolve_left hu
        rw [resolveParts_cons ((step_arr_position xs hp).2 hu), hn]
        simpa [hx] using ih w hs
    | _ => exact h.elim

/-! ### Manual readings -/

/-- The manual readings of a document: each field whose walk leads somewhere, with the
value it reaches, a repeated field in its first place; none when no field leads
anywhere. -/
def manualReadings (doc : Value) (fields : List String) : Option (List (String × Value)) :=
  let found := collect (fields.filterMap fun f => (follow doc (dottedParts f)).map (f, ·))
  if found.isEmpty then none else some found

theorem pick_eq (doc : Value) (fields : List String)
    (h : ∀ f ∈ fields, ¬ Snags doc (dottedParts f)) :
    pick doc fields = .ok (fields.filterMap fun f => (follow doc (dottedParts f)).map (f, ·)) := by
  induction fields with
  | nil => rfl
  | cons f fs ih =>
    have hf : resolve doc f = .ok (follow doc (dottedParts f)) :=
      resolveParts_eq_follow doc _ (h f List.mem_cons_self)
    simp only [pick, hf, ih fun g hg => h g (List.mem_cons_of_mem f hg), bind, Except.bind,
      pure, Except.pure]
    rcases hv : follow doc (dottedParts f) with _ | v <;> simp [hv]

theorem pick_of_snags (doc : Value) (fields : List String)
    (h : ∃ f ∈ fields, Snags doc (dottedParts f)) : ∃ e, pick doc fields = .error e := by
  induction fields with
  | nil => simp at h
  | cons f fs ih =>
    by_cases hf : Snags doc (dottedParts f)
    · obtain ⟨e, he⟩ := resolveParts_of_snags doc _ hf
      exact ⟨e, by simp [pick, resolve, he, bind, Except.bind]⟩
    · obtain ⟨g, hg, hs⟩ := h
      have hg' : g ∈ fs := (List.mem_cons.1 hg).resolve_left fun e => hf (e ▸ hs)
      obtain ⟨e, he⟩ := ih ⟨g, hg', hs⟩
      exact ⟨e, by simp [pick, resolveParts_eq_follow doc _ hf, resolve, he, bind, Except.bind]⟩

theorem direct_manual {doc : Value} {c : Config} (hen : c.enabled = true)
    (hm : c.mode = .manual) (h : ∀ f ∈ c.fields, ¬ Snags doc (dottedParts f)) :
    direct doc c = .ok (manualReadings doc c.fields) := by
  simp [direct, hen, readings, hm, pick_eq doc c.fields h, manualReadings, bind, Except.bind,
    pure, Except.pure, Functor.map, Except.map]

theorem direct_manual_of_snags {doc : Value} {c : Config} (hen : c.enabled = true)
    (hm : c.mode = .manual) (h : ∃ f ∈ c.fields, Snags doc (dottedParts f)) :
    ∃ e, direct doc c = .error e := by
  obtain ⟨e, he⟩ := pick_of_snags doc c.fields h
  exact ⟨e, by simp [direct, hen, readings, hm, he, bind, Except.bind, Functor.map, Except.map]⟩

theorem direct_error {doc : Value} {c : Config} {e : Fault} (h : direct doc c = .error e) :
    c.enabled = true ∧ c.mode = .manual ∧ ∃ f ∈ c.fields, Snags doc (dottedParts f) := by
  cases hen : c.enabled
  · simp [direct, hen] at h
  cases hm : c.mode
  · simp [direct, hen, readings, hm, bind, Except.bind, pure, Except.pure] at h
  · by_contra hno
    simp only [true_and, not_exists, not_and] at hno
    rw [direct_manual hen hm hno] at h
    cases h

theorem document_error {b : Body} {ct : Option String} {e : Fault}
    (h : b.document? ct = .error e) : ∃ r, e = .nestedTooDeep r := by
  have htext : ∀ t, textDocument? t ct = .error e → ∃ r, e = .nestedTooDeep r := by
    intro t ht
    dsimp only [textDocument?] at ht
    split at ht
    · cases ht
    · split at ht
      · cases ht
      · split at ht
        · cases ht
          exact ⟨_, rfl⟩
        · cases ht
  rcases b with t | v
  · exact htext t h
  · cases v with
    | str t => exact htext t h
    | _ => cases h

/-- **Where manual readings fail.** Taking readings fails only when reading is on and
either the body is nested too deep to be read, or the mode is manual and the walk of a
field meets a list at a position written in digits that cannot be read as a number. In the
manual mode, on a document, it fails when a field's walk meets such a position; when none
does, it returns, in field order, exactly the fields whose walks lead somewhere, with the
values they reach, and none when no field does. -/
theorem readings_fail_only_at_unreadable_positions (b : Body) (ct : Option String)
    (c : Config) :
    (∀ e, extract b ct c = .error e → c.enabled = true ∧
      ((∃ r, e = .nestedTooDeep r ∧ b.document? ct = .error e) ∨
        ∃ doc, b.document? ct = .ok (some doc) ∧ c.mode = .manual ∧
          ∃ f ∈ c.fields, Snags doc (dottedParts f))) ∧
    (∀ doc, b.document? ct = .ok (some doc) → c.enabled = true → c.mode = .manual →
      ((∀ f ∈ c.fields, ¬ Snags doc (dottedParts f)) →
        extract b ct c = .ok (manualReadings doc c.fields)) ∧
      ((∃ f ∈ c.fields, Snags doc (dottedParts f)) → ∃ e, extract b ct c = .error e)) := by
  refine ⟨fun e he => ?_, fun doc hdoc hen hm => ?_⟩
  · rcases hd : b.document? ct with e' | _ | doc
    · -- the body could not be read
      have hen : c.enabled = true := by
        cases hc : c.enabled
        · simp [extract, hc] at he
        · rfl
      have hee : e' = e := by
        simpa [extract, hen, hd, bind, Except.bind] using he
      subst hee
      obtain ⟨r, hr⟩ := document_error hd
      exact ⟨hen, .inl ⟨r, hr, rfl⟩⟩
    · cases hen : c.enabled <;> simp [extract, hen, hd, bind, Except.bind, pure, Except.pure] at he
    · rw [extract_of_document hd] at he
      obtain ⟨hen, hm, hf⟩ := direct_error he
      exact ⟨hen, .inr ⟨doc, rfl, hm, hf⟩⟩
  · rw [extract_of_document hdoc]
    exact ⟨direct_manual hen hm, direct_manual_of_snags hen hm⟩

/-- A position written with the digit `²` cannot be read as a number: taking it from a
list fails. -/
theorem readings_fail_at_superscript_position :
    extract (.doc (.obj [("items", .arr [.int 1])])) none ⟨true, .manual, ["items.²"]⟩ =
      .error (.notANumber "²") := by
  have hparts : dottedParts "items.²" = ["items", "²"] := by decide
  have hobj : step (.obj [("items", .arr [.int 1])]) "items" = .ok (some (.arr [.int 1])) := rfl
  have hstep : step (.arr [.int 1]) "²" = .error (.notANumber "²") := by
    rw [step_arr, if_neg (by decide +kernel), if_neg (by decide +kernel),
      show decimalNumber? "²" = none by decide +kernel]
  rw [extract_doc (by simp)]
  simp [direct, readings, pick, resolve, hparts, resolveParts, hobj, hstep, bind, Except.bind]

end Uptime.Extraction
