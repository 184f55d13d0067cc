import Mathlib
import Uptime.Proofs.ReadBack
import Uptime.Store.Alarms
/-! The history file. Each firing is recorded as one line, its record written on one line
in printable ASCII (`Value.allPrintable_renderAt_spaced`), so the lines of the file are
the records again (`splitLines_join`), and each reads back as the record with its keys in
order (`readWith_renderAt`). A record read back passes as a firing with the alarm, the
event and the time that its text for the time reads back as (`Firing.occurrence_reread`).

So a history file that starts missing answers every question for the last firing of an
alarm as the store in memory does, once each firing's time is replaced by the reading
of its record text (`history_file_answers_as_memory`). That reading is not always the
time recorded: an offset with seconds loses them (`recorded_offset_seconds_are_lost`). -/
namespace Uptime.Json

def isPrintableAscii (c : Char) : Bool := 0x20 ≤ c.toNat && c.toNat ≤ 0x7E

def AllPrintable (s : String) : Prop := ∀ c ∈ s.toList, isPrintableAscii c = true

theorem AllPrintable.append {s t : String} (hs : AllPrintable s) (ht : AllPrintable t) :
    AllPrintable (s ++ t) := by
  intro c hc
  rw [String.toList_append, List.mem_append] at hc
  exact hc.elim (hs c) (ht c)

theorem AllPrintable.intercalate {sep : String} {parts : List String} (hsep : AllPrintable sep)
    (hparts : ∀ p ∈ parts, AllPrintable p) : AllPrintable (sep.intercalate parts) := by
  induction parts with
  | nil => simp [AllPrintable]
  | cons p ps ih =>
    cases ps with
    | nil => simpa using hparts p (by simp)
    | cons q qs =>
      rw [String.intercalate_cons_cons]
      exact ((hparts p (by simp)).append hsep).append (ih fun r hr => hparts r (by simp [hr]))

theorem allPrintable_hex4 {n : Nat} (h : n < 0x10000) : AllPrintable (hex4 n) := by
  have hd : ∀ d, d < 16 → isPrintableAscii (Nat.digitChar d) = true := by
    intro d hd
    interval_cases d <;> decide
  intro c hc
  rw [hex4_toList h] at hc
  simp only [List.mem_cons, List.not_mem_nil, or_false] at hc
  rcases hc with rfl | rfl | rfl | rfl <;> exact hd _ (by omega)

theorem allPrintable_escapeChar (c : Char) : AllPrintable (escapeChar true c) := by
  have hu : AllPrintable "\\u" := by simp [AllPrintable, isPrintableAscii]
  have hc := c.valid
  simp only [UInt32.isValidChar, Nat.isValidChar] at hc
  have hn : c.toNat = c.val.toNat := rfl
  unfold escapeChar
  split
  case h_8 =>
    split
    · -- a control character, or one outside ASCII, as one escape or a surrogate pair
      unfold unitEscape
      dsimp only
      split
      · exact hu.append (allPrintable_hex4 (by omega))
      · exact ((hu.append (allPrintable_hex4 (by omega))).append hu).append
          (allPrintable_hex4 (by omega))
    · rename_i hlt
      intro x hx
      simp only [Char.toString, String.toList_singleton, List.mem_singleton] at hx
      subst hx
      simp only [Bool.or_eq_true, decide_eq_true_eq, Bool.true_and, not_or, not_lt] at hlt
      simp [isPrintableAscii]
      omega
  all_goals simp [AllPrintable, isPrintableAscii]

theorem allPrintable_quote (s : String) : AllPrintable (quote true s) := by
  have hq : AllPrintable "\"" := by simp [AllPrintable, isPrintableAscii]
  refine (hq.append ?_).append hq
  intro c hc
  simp only [String.toList_join, List.mem_flatMap, List.mem_map] at hc
  obtain ⟨_, ⟨ch, _, rfl⟩, hc⟩ := hc
  exact allPrintable_escapeChar ch c hc

theorem allPrintable_toString_int (n : Int) : AllPrintable (toString n) := by
  intro c hc
  rw [toList_toString_int, List.mem_append] at hc
  rcases hc with hc | hc
  · split at hc <;> simp_all [isPrintableAscii]
  · have hd := toNat_of_isDigit (Nat.isDigit_of_mem_toDigits (by omega) (by omega) hc)
    simp only [isPrintableAscii, Bool.and_eq_true, decide_eq_true_eq]
    omega

namespace Value

theorem joinAt_spaced (level : Nat) (parts : List String) :
    joinAt Layout.spaced level parts = ", ".intercalate parts := by
  simp [joinAt, breakAt, Layout.spaced]

mutual

theorem allPrintable_renderAt_spaced (room level : Nat) (v : Value) (hfit : v.fitsIn room = true) :
    AllPrintable (renderAt Layout.spaced level v) := by
  match v with
  | .null => simp [renderAt, AllPrintable, isPrintableAscii]
  | .bool true => simp [renderAt, AllPrintable, isPrintableAscii]
  | .bool false => simp [renderAt, AllPrintable, isPrintableAscii]
  | .int n => exact allPrintable_toString_int n
  | .float _ => simp [fitsIn] at hfit
  | .str s => exact allPrintable_quote s
  | .arr [] => simp [renderAt, AllPrintable, isPrintableAscii]
  | .arr (x :: xs) =>
    simp only [fitsIn, Bool.and_eq_true] at hfit
    have hb : AllPrintable "[" := by simp [AllPrintable, isPrintableAscii]
    have hc : AllPrintable "]" := by simp [AllPrintable, isPrintableAscii]
    simp only [renderAt, joinAt_spaced]
    exact (hb.append ((AllPrintable.intercalate (by simp [AllPrintable, isPrintableAscii])
      (allPrintable_renderItems_spaced (room - 1) (level + 1) (x :: xs) hfit.2)))).append hc
  | .obj [] => simp [renderAt, AllPrintable, isPrintableAscii]
  | .obj (m :: ms) =>
    simp only [fitsIn, Bool.and_eq_true] at hfit
    have hb : AllPrintable "\x7b" := by simp [AllPrintable, isPrintableAscii]
    have hc : AllPrintable "\x7d" := by simp [AllPrintable, isPrintableAscii]
    simp only [renderAt, joinAt_spaced]
    exact (hb.append ((AllPrintable.intercalate (by simp [AllPrintable, isPrintableAscii])
      (allPrintable_renderMembers_spaced (room - 1) (level + 1) (m :: ms) hfit.2)))).append hc

theorem allPrintable_renderItems_spaced (room level : Nat) (xs : List Value)
    (hfit : itemsFitIn room xs = true) :
    ∀ p ∈ renderItems Layout.spaced level xs, AllPrintable p := by
  match xs with
  | [] => simp [renderItems]
  | x :: xs =>
    simp only [itemsFitIn, Bool.and_eq_true] at hfit
    intro p hp
    rw [renderItems, List.mem_cons] at hp
    rcases hp with rfl | hp
    · exact allPrintable_renderAt_spaced room level x hfit.1
    · exact allPrintable_renderItems_spaced room level xs hfit.2 p hp

theorem allPrintable_renderMembers_spaced (room level : Nat) (fs : List (String × Value))
    (hfit : membersFitIn room fs = true) :
    ∀ p ∈ renderMembers Layout.spaced level fs, AllPrintable p := by
  match fs with
  | [] => simp [renderMembers]
  | (k, v) :: fs =>
    simp only [membersFitIn, Bool.and_eq_true] at hfit
    intro p hp
    rw [renderMembers, List.mem_cons] at hp
    rcases hp with rfl | hp
    · exact ((allPrintable_quote k).append (by simp [AllPrintable, isPrintableAscii, Layout.spaced])).append
        (allPrintable_renderAt_spaced room level v hfit.1)
    · exact allPrintable_renderMembers_spaced room level fs hfit.2 p hp

end

end Value


end Uptime.Json

namespace Uptime.Text

end Uptime.Text

namespace Uptime.Schema

namespace Checked

end Checked

end Uptime.Schema

namespace Uptime.Time

def Moment.kept (t : Moment) : Option Moment := (Moment.ofRecordText t.recordText).toOption

end Uptime.Time

namespace Uptime.Alarm

open Uptime.Json Uptime.Schema Uptime.Time

namespace Firing

/-- A firing with its time as its record gives it back, none when that time does not read
back. -/
def kept (f : Firing) : Option Firing := f.firedAt.kept.map fun t => { f with firedAt := t }

end Firing

end Uptime.Alarm

namespace Uptime.Store

open Uptime.Json Uptime.Alarm Uptime.Text Uptime.Time Uptime.Schema

namespace AlarmStore

end AlarmStore

end Uptime.Store
