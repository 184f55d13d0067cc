import Mathlib
import Uptime.Json.Read
/-! JSON text read by hand. The blank skipper and the string reader recurse on what is
left of the text, so they are opened by their equations: a plain character of a string
stands for itself (`readString_plain`), a `\u` escape that no second escape follows
stands for its code unit (`readString_unit`), and a document whose first character is
not blank is the one value read from there (`readWith_of_value`); so a document that is
one quoted plain text reads back as that text (`readWith_quoted`). -/
namespace Uptime.Json

namespace Cursor

theorem skipBlanks_of_not_blank {c : Char} {cs : List Char} {p : Nat} (h : isBlank c = false) :
    skipBlanks ⟨c :: cs, p⟩ = ⟨c :: cs, p⟩ := by
  simp [skipBlanks, h]

end Cursor

/-- A character that a JSON string holds as itself: no quote, no backslash, no control
character. -/
def Plain (c : Char) : Prop := c ≠ '"' ∧ c ≠ '\\' ∧ 31 < c.toNat

instance : DecidablePred Plain := fun _ => inferInstanceAs (Decidable (_ ∧ _ ∧ _))

section StringBody

variable {lone : Bool} {start p : Nat} {acc : List Nat}

theorem readString_plain_cons {ch : Char} {cs : List Char} (h : Plain ch) :
    readString lone start (ch :: cs) p acc = readString lone start cs (p + 1) (ch.toNat :: acc) := by
  obtain ⟨hq, hb, hc⟩ := h
  rw [readString.eq_8 _ _ _ _ _ _ hq (by simp [hb]) (by simp [hb]) (by simp [hb]) (by simp [hb])
    (by simp [hb]), if_neg (by omega)]

theorem readString_plain {cs rest : List Char} (h : ∀ c ∈ cs, Plain c) :
    readString lone start (cs ++ '"' :: rest) p acc =
      .ok (acc.reverse ++ cs.map Char.toNat, ⟨rest, p + cs.length + 1⟩) := by
  induction cs generalizing p acc with
  | nil => simp [readString.eq_2]
  | cons c cs ih =>
    rw [List.cons_append, readString_plain_cons (h c (by simp)),
      ih fun d hd => h d (by simp [hd])]
    simp [Nat.add_assoc, Nat.add_comm 1]

/-- A `\u` escape of four hexadecimal digits that no second escape follows is read as
its code unit, if the reading lets it through. -/
theorem readString_unit {u : Nat} {a b c d head : Char} {tail : List Char}
    (hu : hex4? [a, b, c, d] = some u) (hb : head ≠ '\\') :
    readString lone start ('\\' :: 'u' :: a :: b :: c :: d :: head :: tail) p acc =
      (loneUnit lone u p).bind fun ch =>
        readString lone start (head :: tail) (p + 6) (ch :: acc) := by
  rw [readString.eq_4 _ _ _ _ _ _ _ _ _ _ (by simp [hb]), hu]
  rfl

end StringBody

theorem toNat_not_surrogate (c : Char) : ¬ (0xD800 ≤ c.toNat ∧ c.toNat ≤ 0xDFFF) := by
  have hc := c.valid
  simp only [UInt32.isValidChar, Nat.isValidChar] at hc
  have hn : c.toNat = c.val.toNat := rfl
  omega

theorem LoneSurrogate.text_toNat (lone : LoneSurrogate) (cs : List Char) :
    lone.text (cs.map Char.toNat) = String.ofList cs := by
  cases lone <;>
    simp [LoneSurrogate.text, codesText, unitChar, toNat_not_surrogate, Function.comp_def]

section Document

variable {lone : LoneSurrogate} {room : Nat} {doc : String} {c : Char} {cs : List Char}

/-- A document whose first character is neither blank nor a byte order mark is the value
read from there, with nothing but blanks after it. -/
theorem readWith_of_value {v : Value} {after : Cursor} (hdoc : doc.toList = c :: cs)
    (hc : isBlank c = false) (hbom : c ≠ '\uFEFF')
    (hv : readValue lone room (2 * (cs.length + 1) + 2) ⟨c :: cs, 0⟩ = .ok (v, after))
    (hafter : after.skipBlanks.rest = []) :
    Value.readWith lone room doc = .ok v := by
  unfold Value.readWith
  rw [hdoc]
  dsimp only
  split
  · simp_all
  · simp [Cursor.skipBlanks_of_not_blank hc, hv, hafter, bind, Except.bind, pure, Except.pure]

/-- A document whose first character is neither blank nor a byte order mark, and where no
value can be read, is refused for the reason the value reader gives. -/
theorem readWith_of_error {e : ReadError} (hdoc : doc.toList = c :: cs)
    (hc : isBlank c = false) (hbom : c ≠ '\uFEFF')
    (he : readValue lone room (2 * (cs.length + 1) + 2) ⟨c :: cs, 0⟩ = .error e) :
    Value.readWith lone room doc = .error e := by
  unfold Value.readWith
  rw [hdoc]
  dsimp only
  split
  · simp_all
  · simp [Cursor.skipBlanks_of_not_blank hc, he, bind, Except.bind]

/-- A document that is one string, nothing after it, reads as the text of the code points
its body reads as. -/
theorem readWith_str {codes : List Nat} {n : Nat} (hdoc : doc.toList = '"' :: cs)
    (hs : readString lone.allowed 0 cs 1 [] = .ok (codes, ⟨[], n⟩)) :
    Value.readWith lone room doc = .ok (.str (lone.text codes)) := by
  have hv : readValue lone room (2 * (cs.length + 1) + 2) ⟨'"' :: cs, 0⟩ =
      .ok (.str (lone.text codes), ⟨[], n⟩) := by
    simp [readValue, hs]
  exact readWith_of_value hdoc (by decide) (by decide) hv (by simp [Cursor.skipBlanks])

theorem readWith_quoted (hcs : ∀ c ∈ cs, Plain c) :
    Value.readWith lone room (String.ofList ('"' :: cs ++ ['"'])) = .ok (.str (String.ofList cs)) := by
  have hdoc : (String.ofList ('"' :: cs ++ ['"'])).toList = '"' :: (cs ++ ['"']) := by simp
  rw [readWith_str hdoc (readString_plain hcs), List.reverse_nil, List.nil_append,
    LoneSurrogate.text_toNat]

end Document

end Uptime.Json
