import Mathlib
import Uptime.Proofs.ReadBack
import Uptime.Store.States
/-! The state file. Each put reads the whole file, sets the monitor's entry and writes the
object back indented with its keys in order; each get reads the file again. A written
object is the text between its braces (`Value.renderAt_obj_braced`), a stored file is
that text with a line end, and it reads back as the object with its keys in order
(`readDocument_stored`). An entry that is a record of a state stays one through that
(`State.Dump.sortKeys_merged`) and still checks as the state (`State.Dump.check`).

So a state file that can be read, and whose entries stand for the states kept in memory,
answers every get after any run of puts as memory does, as long as each state kept is
one its record gives back (`state_file_answers_as_memory`). A record whose failure count
has more digits than the reader takes is not one of those: a file holding it cannot be
read at all (`state_file_refuses_long_failure_count`). -/
namespace Uptime.Text

theorem strip_braced (cs : List Char) :
    strip (String.ofList ('{' :: (cs ++ ['}', '\n']))) = String.ofList ('{' :: (cs ++ ['}'])) := by
  have hb : isBlank '\n' = true := by decide
  have ho : isBlank '{' = false := by decide
  have hc : isBlank '}' = false := by decide
  simp [strip, dropBlanksRight, hb, ho, hc]

end Uptime.Text

namespace Uptime.Json

namespace Value

theorem renderAt_obj_braced (l : Layout) (level : Nat) (fs : List (String × Value)) :
    ∃ mid, renderAt l level (.obj fs) = "\x7b" ++ mid ++ "\x7d" := by
  cases fs with
  | nil => exact ⟨"", by simp [renderAt]⟩
  | cons m fs =>
    exact ⟨joinAt l (level + 1) (renderMembers l (level + 1) (m :: fs)), by simp [renderAt]⟩

end Value

theorem lookup_map_of_fixed {l : List (String × Value)} {g : Value → Value}
    (h : ∀ m ∈ l, g m.2 = m.2) (k : String) : (l.lookup k).map g = l.lookup k := by
  cases hk : l.lookup k with
  | none => rfl
  | some v => simpa using h _ (mem_of_lookup hk)

namespace Value

theorem lookup_setField_self (fs : List (String × Value)) (k : String) (v : Value) :
    (setField fs k v).lookup k = some v := by
  induction fs with
  | nil => simp [setField]
  | cons m fs ih =>
    obtain ⟨k', v'⟩ := m
    by_cases h : k' = k
    · simp [setField, h]
    · simp [setField, h, List.lookup, beq_false_of_ne (Ne.symm h), ih]

theorem lookup_setField_of_ne (fs : List (String × Value)) {k j : String} (v : Value)
    (h : j ≠ k) : (setField fs k v).lookup j = fs.lookup j := by
  induction fs with
  | nil => simp [setField, List.lookup, beq_false_of_ne h]
  | cons m fs ih =>
    obtain ⟨k', v'⟩ := m
    by_cases hk : k' = k
    · subst hk
      simp [setField, List.lookup, beq_false_of_ne h]
    · simp [setField, hk, List.lookup, ih]

end Value

theorem length_toString_le_iff {n k : Nat} (hk : 0 < k) :
    (toString n).length ≤ k ↔ n < 10 ^ k := by
  rw [← String.length_toList, show (toString n).toList = Nat.toDigits 10 n from Nat.toList_repr]
  exact Nat.length_toDigits_le_iff (by decide) hk

theorem readValue_long_number {lone : LoneSurrogate} {room f q n : Nat}
    (hn : 10 ^ maxIntDigits ≤ n) {rest : List Char} (hrest : EndsNumber rest) :
    ∃ e, readValue lone room (f + 1) ⟨(toString n).toList ++ rest, q⟩ = .error e := by
  have hdigits : maxIntDigits < (toString (n : Int).natAbs).length :=
    Nat.lt_of_not_le ((length_toString_le_iff (by decide)).not.2 (Nat.not_lt.2 hn))
  obtain ⟨q', hq⟩ := @readValue_int lone room f q _ hrest n
  rw [if_pos hdigits] at hq
  exact ⟨_, hq⟩

theorem head_toString_not_blank (n : Nat) (rest : List Char) :
    ∀ c ∈ ((toString n).toList ++ rest).head?, isBlank c = false := by
  obtain ⟨d, ds, hd⟩ := List.exists_cons_of_ne_nil (Nat.toDigits_ne_nil (n := n) (b := 10))
  have hdig := toNat_of_isDigit
    (Nat.isDigit_of_mem_toDigits (by omega) (by omega) (hd ▸ List.mem_cons_self))
  simp only [show (toString n).toList = Nat.toDigits 10 n from Nat.toList_repr, hd,
    List.cons_append, List.head?_cons, Option.mem_def, Option.some.injEq, forall_eq']
  simp only [isBlank, Bool.or_eq_false_iff, decide_eq_false_iff_not]
  refine ⟨⟨⟨?_, ?_⟩, ?_⟩, ?_⟩ <;> rintro rfl <;> simp at hdig

theorem readValue_first_member_error {lone : LoneSurrogate} {room f : Nat} {k r : List Char}
    (hk : ∀ c ∈ k, Plain c) (hr : ∀ c ∈ r.head?, isBlank c = false)
    (hv : ∀ q, ∃ e, readValue lone room f ⟨r, q⟩ = .error e) (p : Nat) :
    ∃ e, readValue lone (room + 1) (f + 2) ⟨'{' :: '"' :: (k ++ '"' :: ':' :: ' ' :: r), p⟩ =
      .error e := by
  obtain ⟨e, he⟩ := hv (p + 1 + 1 + k.length + 1 + 1 + [' '].length)
  refine ⟨e, ?_⟩
  rw [readValue_openObject, if_neg (by omega), Nat.add_sub_cancel,
    Cursor.skipBlanks_of_not_blank (by decide)]
  refine readMembers_value_error (readString_plain hk)
    (Cursor.skipBlanks_of_not_blank (by decide)) ?_
  rw [show ' ' :: r = [' '] ++ r from rfl, Cursor.skipBlanks_append (by simp [isBlank]) hr]
  exact he

end Uptime.Json

namespace Uptime.Schema

variable {α : Type} {fs gs : Members} {name : String} {check : Json.Value → Checked α}

theorem required_congr (h : fs.lookup name = gs.lookup name) (hs : (gs.lookup name).isSome) :
    required fs name check = required gs name check := by
  unfold required
  rw [h]
  cases hg : gs.lookup name with
  | none => simp [hg] at hs
  | some v => rfl

theorem withDefault_congr {dflt : α} (h : fs.lookup name = gs.lookup name) :
    withDefault fs name dflt check = withDefault gs name dflt check := by
  unfold withDefault
  rw [h]

end Uptime.Schema

namespace Uptime.Monitor

open Uptime.Json Uptime.Schema

namespace State

/-- A document that holds the record of a state: an object with the record's members,
each once, in any order. -/
def Dump (st : State) (v : Value) : Prop :=
  ∃ fs, v = .obj fs ∧ (fs.map Prod.fst).Nodup ∧ ∀ k, fs.lookup k = st.toValue.get? k

/-- A state that its record gives back when checked, with a failure count short enough
to be read back. -/
structure ReadsBack (st : State) : Prop where
  check_toValue : (State.check st.toValue).run = .ok st
  failures_lt : st.failures < 10 ^ maxIntDigits

theorem dump_toValue (st : State) : st.Dump st.toValue :=
  ⟨_, rfl, by simp, fun _ => rfl⟩

theorem Dump.sortKeys_merged {st : State} {v : Value} (h : st.Dump v) :
    st.Dump v.sortKeys.merged := by
  obtain ⟨fs, rfl, hnd, hl⟩ := h
  obtain ⟨gs, hgs, hnd', hl'⟩ := Value.merged_sortKeys_obj fs hnd
  refine ⟨gs, hgs, hnd', fun k => ?_⟩
  rw [hl', hl]
  exact lookup_map_of_fixed (by simp [Value.sortKeys, Value.merged]) k

theorem Dump.fitsIn {st : State} {v : Value} (h : st.Dump v) (hf : st.failures < 10 ^ maxIntDigits)
    {room : Nat} (hroom : room ≠ 0) : v.fitsIn room = true := by
  obtain ⟨fs, rfl, hnd, hl⟩ := h
  simp only [Value.fitsIn, ne_eq, hroom, not_false_eq_true, decide_true, Value.membersFitIn_eq_all,
    List.all_eq_true, Bool.true_and]
  intro m hm
  have hrec := mem_of_lookup ((hl m.1).symm.trans (lookup_of_mem hnd hm))
  simp only [List.mem_cons, List.not_mem_nil, or_false, Prod.ext_iff] at hrec
  have hdigits : (toString st.failures).length ≤ maxIntDigits :=
    (length_toString_le_iff (by decide)).2 hf
  rcases hrec with ⟨-, h⟩ | ⟨-, h⟩ | ⟨-, h⟩ | ⟨-, h⟩ | ⟨-, h⟩ <;> rw [h]
  · rfl
  · cases st.status <;> rfl
  · simpa [Value.fitsIn] using hdigits
  · rfl
  · rfl

theorem Dump.check {st : State} {v : Value} (h : st.Dump v) :
    (State.check v).run = (State.check st.toValue).run := by
  obtain ⟨fs, rfl, -, hl⟩ := h
  set gs : List (String × Value) := [("monitor_id", .str st.monitorId),
    ("status", .int st.status.code), ("consecutive_failures", .int st.failures),
    ("last_change_at", .str st.lastChangeAt.recordText),
    ("last_checked_at", .str st.lastCheckedAt.recordText)] with hgs
  have hv : st.toValue = .obj gs := rfl
  have hl' : ∀ k, fs.lookup k = gs.lookup k := hl
  rw [hv]
  simp only [State.check, members, Checked.andThen, Checked.ok]
  rw [required_congr (hl' _) (by simp [hgs]), required_congr (hl' _) (by simp [hgs]),
    withDefault_congr (hl' _), required_congr (hl' _) (by simp [hgs]),
    required_congr (hl' _) (by simp [hgs])]

end State

end Uptime.Monitor

namespace Uptime.Store

open Uptime.Json Uptime.Monitor Uptime.Text

/-- A file holding a stored object is read back as the object with its keys put in order
and each object rebuilt, when it fits the reading. -/
theorem readDocument_stored {d : Disk} {p : Path} {fs : List (String × Value)}
    (hdir : d.isDir p = false) (hfile : d.file? p = some (storedText (.obj fs)))
    (hfit : (Value.obj fs).fitsIn maxNesting = true) (dflt : Value) :
    readDocument d p dflt = .ok (Value.obj fs).sortKeys.merged := by
  obtain ⟨mid, hmid⟩ := Value.renderAt_obj_braced Layout.indented 0
    ((Value.sortMembers fs).mergeSort fun a b => !(b.1 < a.1))
  have hbraced : "\x7b" ++ mid ++ "\x7d" = String.ofList ('{' :: (mid.toList ++ ['}'])) := by
    simp [← String.toList_inj]
  have htext : storedText (.obj fs) = String.ofList ('{' :: (mid.toList ++ ['}', '\n'])) := by
    have h : storedText (.obj fs) = "\x7b" ++ mid ++ "\x7d" ++ "\n" := by
      rw [storedText, Value.renderSorted, ← hmid]
      rfl
    simp [h, ← String.toList_inj]
  have hread : Value.read (String.ofList ('{' :: (mid.toList ++ ['}']))) =
      .ok (Value.obj fs).sortKeys.merged := by
    rw [← hbraced, ← hmid]
    exact readWith_renderAt Layout.indented_readable _ maxNesting
      ((Value.fitsIn_sortKeys maxNesting (.obj fs)).trans hfit)
  simp only [readDocument, Disk.occupied, hfile, hdir, Disk.read, Option.isSome_some,
    Bool.true_or, Bool.not_true, Bool.false_eq_true, if_false, Except.mapError, bind, Except.bind]
  rw [htext, strip_braced, hread]
  simp

namespace StateStore

/-- States kept one after another; the first that cannot be kept stops the run. -/
def putAll (s : StateStore) (d : Disk) : List State → Except StoreError (StateStore × Disk)
  | [] => .ok (s, d)
  | st :: sts => do
    let (s', d') ← s.put d st
    s'.putAll d' sts

theorem putAll_memory (states : List (String × State)) (sts : List State) (d : Disk) :
    (memory states).putAll d sts =
      .ok (.memory (sts.foldl (fun acc st => putEntry acc st.monitorId st) states), d) := by
  induction sts generalizing states with
  | nil => rfl
  | cons st sts ih => simp [putAll, put, ih, bind, Except.bind]

/-- The entries of a state file stand for states kept in memory: the same monitors, each
entry a record of its state, and each state one that its record gives back. -/
structure Mirrors (es : List (String × Value)) (states : List (String × State)) : Prop where
  nodup : (es.map Prod.fst).Nodup
  keys : ∀ m, (es.lookup m).isSome = (states.lookup m).isSome
  dumps : ∀ m v st, es.lookup m = some v → states.lookup m = some st → st.Dump v ∧ st.ReadsBack

variable {d : Disk} {p : Path} {es : List (String × Value)} {states : List (String × State)}

theorem Mirrors.state_of_entry (h : Mirrors es states) {m : String} {v : Value}
    (hv : es.lookup m = some v) : ∃ st, states.lookup m = some st ∧ st.Dump v ∧ st.ReadsBack := by
  obtain ⟨st, hst⟩ := Option.isSome_iff_exists.1 ((h.keys m).symm.trans (by simp [hv]))
  exact ⟨st, hst, h.dumps m v st hv hst⟩

theorem get_of_mirrors (hentries : entries d p = .ok es) (h : Mirrors es states) (m : String) :
    (file p).get d m = (memory states).get d m := by
  cases hv : es.lookup m with
  | none =>
    have hst : states.lookup m = none := by simpa [hv] using (h.keys m).symm
    simp [get, hentries, hv, hst, bind, Except.bind, pure, Except.pure]
  | some v =>
    obtain ⟨st, hst, hd, hr⟩ := h.state_of_entry hv
    have hcheck := hd.check.trans hr.check_toValue
    obtain ⟨fs, rfl, -⟩ := hd
    simp [get, hentries, hv, hst, hcheck, bind, Except.bind, pure, Except.pure]

/-- Keeping a state that reads back, in a file whose entries stand for states in memory,
succeeds and leaves a file whose entries stand for the states with this one kept. -/
theorem put_file {st : State} (hentries : entries d p = .ok es) (h : Mirrors es states)
    (hst : st.ReadsBack) (hdir : d.isDir p = false) (hparent : d.isDir p.parent = true) :
    ∃ d' es', (file p).put d st = .ok (.file p, d') ∧ entries d' p = .ok es' ∧
      Mirrors es' (putEntry states st.monitorId st) ∧ d'.isDir p = false ∧
      d'.isDir p.parent = true := by
  let doc := Value.obj (Value.setField es st.monitorId st.toValue)
  let d' : Disk := { d with files := putEntry d.files p (storedText doc) }
  have hput : (file p).put d st = .ok (.file p, d') := by
    simp [put, hentries, Disk.write, Disk.writable, hdir, hparent, doc, d', bind, Except.bind,
      pure, Except.pure, Except.mapError]
  have hnd := Value.nodup_setField h.nodup st.monitorId st.toValue
  have hdumps : ∀ k w, (Value.setField es st.monitorId st.toValue).lookup k = some w →
      ∃ s, (putEntry states st.monitorId st).lookup k = some s ∧ s.Dump w ∧ s.ReadsBack := by
    intro k w hk
    by_cases hkm : k = st.monitorId
    · subst hkm
      rw [Value.lookup_setField_self] at hk
      cases hk
      exact ⟨st, lookup_putEntry _ _ _, State.dump_toValue st, hst⟩
    · rw [Value.lookup_setField_of_ne _ _ hkm] at hk
      rw [lookup_putEntry_of_ne _ _ hkm]
      exact h.state_of_entry hk
  have hfit : doc.fitsIn maxNesting = true := by
    simp only [doc, Value.fitsIn, Value.membersFitIn_eq_all, Bool.and_eq_true, List.all_eq_true]
    refine ⟨by decide, fun m hm => ?_⟩
    obtain ⟨s, -, hd, hr⟩ := hdumps m.1 m.2 (lookup_of_mem hnd hm)
    exact hd.fitsIn hr.failures_lt (by decide)
  obtain ⟨gs, hgs, hndg, hlg⟩ := Value.merged_sortKeys_obj _ hnd
  have hread : readDocument d' p (.obj []) = .ok (.obj gs) := by
    rw [← hgs]
    exact readDocument_stored (d := d') hdir (by simp [d', doc, Disk.file?, lookup_putEntry]) hfit _
  refine ⟨d', gs, hput, by simp [entries, hread, bind, Except.bind, pure, Except.pure],
    ⟨hndg, fun k => ?_, fun k w s hw hs => ?_⟩, hdir, hparent⟩
  · by_cases hkm : k = st.monitorId
    · subst hkm
      simp [hlg, Value.lookup_setField_self, lookup_putEntry]
    · simp [hlg, Value.lookup_setField_of_ne _ _ hkm, lookup_putEntry_of_ne _ _ hkm, h.keys k]
  · rw [hlg] at hw
    obtain ⟨w', hw', rfl⟩ := Option.map_eq_some_iff.1 hw
    obtain ⟨s', hs', hd, hr⟩ := hdumps k w' hw'
    rw [hs] at hs'
    cases hs'
    exact ⟨hd.sortKeys_merged, hr⟩

/-- Keeping states that read back, one after another, in a file whose entries stand for
states in memory: every put succeeds, and the file's entries stand for the states that
memory keeps after the same puts. -/
theorem putAll_file {sts : List State} (hentries : entries d p = .ok es) (h : Mirrors es states)
    (hsts : ∀ st ∈ sts, st.ReadsBack) (hdir : d.isDir p = false)
    (hparent : d.isDir p.parent = true) :
    ∃ d' es', (file p).putAll d sts = .ok (.file p, d') ∧ entries d' p = .ok es' ∧
      Mirrors es' (sts.foldl (fun acc st => putEntry acc st.monitorId st) states) := by
  induction sts generalizing d es states with
  | nil => exact ⟨d, es, rfl, hentries, h⟩
  | cons st sts ih =>
    obtain ⟨d₁, es₁, hput, hentries₁, h₁, hdir₁, hparent₁⟩ :=
      put_file hentries h (hsts st (by simp)) hdir hparent
    obtain ⟨d', es', hrun, hentries', h'⟩ :=
      ih hentries₁ h₁ (fun s hs => hsts s (by simp [hs])) hdir₁ hparent₁
    exact ⟨d', es', by simp [putAll, hput, hrun, bind, Except.bind], hentries', h'⟩

/-- **A state file answers as memory does.** Start from a state file that can be read
and whose entries stand for the states kept in memory: a missing or blank file and no
states, or an object of records of states. Keep any states that read back, one after
another, in both. Every put into the file succeeds, and afterwards every monitor's state
is got from the file as from memory: the state kept last for it, the one it started with,
or none. -/
theorem state_file_answers_as_memory (p : Path) (d : Disk) (es : List (String × Value))
    (states : List (String × State)) (sts : List State) (hentries : entries d p = .ok es)
    (hmirror : Mirrors es states) (hsts : ∀ st ∈ sts, st.ReadsBack)
    (hdir : d.isDir p = false) (hparent : d.isDir p.parent = true) :
    ∃ d' mem, (file p).putAll d sts = .ok (.file p, d') ∧
      (memory states).putAll d sts = .ok (mem, d) ∧
      ∀ m, (file p).get d' m = mem.get d m := by
  obtain ⟨d', es', hrun, hentries', h'⟩ := putAll_file hentries hmirror hsts hdir hparent
  exact ⟨d', _, hrun, putAll_memory states sts d, fun m => get_of_mirrors hentries' h' m⟩

/-- Two states of `m1` kept one after the other in a state file that was missing: the file
gives back the second, as memory does. -/
theorem state_file_keeps_the_later_state :
    ∃ d', (file ⟨false, ["state.json"]⟩).putAll {}
        [⟨"m1", .up, 0, ⟨0, some 0⟩, ⟨0, some 0⟩⟩,
          ⟨"m1", .down, 1, ⟨0, some 0⟩, ⟨60000000, some 0⟩⟩] =
        .ok (.file ⟨false, ["state.json"]⟩, d') ∧
      (file ⟨false, ["state.json"]⟩).get d' "m1" =
        .ok (some ⟨"m1", .down, 1, ⟨0, some 0⟩, ⟨60000000, some 0⟩⟩) := by
  obtain ⟨d', mem, hfile, hmem, hget⟩ :=
    state_file_answers_as_memory ⟨false, ["state.json"]⟩ {} [] []
      [⟨"m1", .up, 0, ⟨0, some 0⟩, ⟨0, some 0⟩⟩,
        ⟨"m1", .down, 1, ⟨0, some 0⟩, ⟨60000000, some 0⟩⟩] rfl
      ⟨List.nodup_nil, fun _ => rfl, fun _ _ _ h => by cases h⟩
      (fun st hst => by
        simp only [List.mem_cons, List.not_mem_nil, or_false] at hst
        rcases hst with rfl | rfl
        · exact ⟨rfl, Nat.pow_pos (by decide)⟩
        · exact ⟨rfl, Nat.one_lt_pow (by decide) (by decide)⟩) rfl rfl
  rw [putAll_memory] at hmem
  obtain ⟨rfl, -⟩ := Prod.mk.inj (Except.ok.inj hmem).symm
  exact ⟨d', hfile, by rw [hget]; rfl⟩

/-- A state file whose first record opens with a failure count of more than
`maxIntDigits` digits cannot be read, whatever follows it: every get fails. -/
theorem get_refuses_long_first_count (p : Path) {n : Nat} (hn : 10 ^ maxIntDigits ≤ n)
    (rest : String) (hrest : ∀ c ∈ rest.toList.head?, continuesNumber c = false) (m : String) :
    ∃ e, (file p).get { files := [(p, "\x7b\"m1\": \x7b\"consecutive_failures\": " ++
      toString n ++ rest ++ "\x7d\n")] } m = .error e := by
  let lone : LoneSurrogate := .readAs fun _ => '\uFFFD'
  let cf := "consecutive_failures".toList
  let inner := (toString n).toList ++ (rest.toList ++ ['}'])
  let body := ['"', 'm', '1', '"', ':', ' ', '{', '"'] ++ cf ++ ['"', ':', ' '] ++
    (toString n).toList ++ rest.toList
  have htext : "\x7b\"m1\": \x7b\"consecutive_failures\": " ++ toString n ++ rest ++ "\x7d\n" =
      String.ofList ('{' :: (body ++ ['}', '\n'])) := by
    simp [body, cf, ← String.toList_inj]
  have hbody : body ++ ['}'] = '"' :: (['m', '1'] ++ '"' :: ':' :: ' ' ::
      '{' :: '"' :: (cf ++ '"' :: ':' :: ' ' :: inner)) := by
    simp [body, inner]
  have hends : EndsNumber (rest.toList ++ ['}']) := by
    cases hr : rest.toList with
    | nil => simp [EndsNumber, continuesNumber]
    | cons c cs => simpa [EndsNumber, hr] using hrest
  obtain ⟨j, hj⟩ : ∃ j, (body ++ ['}']).length = j + 1 := ⟨body.length, by simp⟩
  obtain ⟨e, he⟩ := readValue_first_member_error (k := ['m', '1']) (by simp [Plain])
    (by simp [Json.isBlank])
    (fun q => readValue_first_member_error (k := cf) (by simp [cf, Plain])
      (head_toString_not_blank n _) (fun q => readValue_long_number (f := 2 * j + 1) hn hends) q) 0
  have hread : Value.read (String.ofList ('{' :: (body ++ ['}']))) = .error e := by
    refine readWith_of_error
      (show (String.ofList ('{' :: (body ++ ['}']))).toList = '{' :: (body ++ ['}']) by simp)
      (by decide) (by decide) ?_
    rw [hj, show 2 * (j + 1 + 1) + 2 = 2 * j + 1 + 1 + 2 + 2 by omega, hbody]
    exact he
  rw [htext]
  cases hdir : ({ files := [(p, String.ofList ('{' :: (body ++ ['}', '\n'])))] } : Disk).isDir p
  · simp only [get, entries, readDocument, Disk.occupied, Disk.file?, List.lookup_cons_self,
      Option.isSome_some, Bool.true_or, Bool.not_true, Bool.false_eq_true, if_false, Disk.read,
      hdir, Except.mapError, bind, Except.bind, strip_braced]
    rw [hread]
    simp
  · simp only [get, entries, readDocument, Disk.occupied, Disk.file?, List.lookup_cons_self,
      Option.isSome_some, Bool.true_or, Bool.not_true, Bool.false_eq_true, if_false, Disk.read,
      hdir, if_true, Except.mapError, bind, Except.bind]
    exact ⟨_, rfl⟩

/-- A state file whose first record counts its failures with 4301 digits cannot be read,
so the state of the other monitor cannot be got from it, while memory keeping the same
states gives it. -/
theorem state_file_refuses_long_failure_count :
    (∃ e, (file ⟨false, ["state.json"]⟩).get
      { files := [(⟨false, ["state.json"]⟩, "\x7b\"m1\": \x7b\"consecutive_failures\": " ++
        toString (10 ^ 4300 : Nat) ++ (", \"last_change_at\": \"2026-03-01T12:00:00Z\", " ++
        "\"last_checked_at\": \"2026-03-01T12:00:00Z\", \"monitor_id\": \"m1\", \"status\": 0\x7d, " ++
        "\"m2\": \x7b\"consecutive_failures\": 0, \"last_change_at\": \"2026-03-01T12:00:00Z\", " ++
        "\"last_checked_at\": \"2026-03-01T12:00:00Z\", \"monitor_id\": \"m2\", \"status\": 1\x7d") ++
        "\x7d\n")] } "m2" = .error e) ∧
    (memory [("m1", ⟨"m1", .down, 10 ^ 4300, ⟨0, some 0⟩, ⟨0, some 0⟩⟩),
      ("m2", ⟨"m2", .up, 0, ⟨0, some 0⟩, ⟨0, some 0⟩⟩)]).get {} "m2" =
      .ok (some ⟨"m2", .up, 0, ⟨0, some 0⟩, ⟨0, some 0⟩⟩) :=
  ⟨get_refuses_long_first_count _ (Nat.le_refl _) _ (by simp [continuesNumber]) "m2", rfl⟩

end StateStore

end Uptime.Store
