import Mathlib
import Uptime.Proofs.Reading
import Uptime.Json.Write
/-! Written documents read back. A value written in a layout whose separators are a
comma and a colon followed by blanks is read back by `Value.readWith` as the value
itself, its objects rebuilt member by member (`Value.merged`), as long as it holds no
number with a fraction, no integer of more than `maxIntDigits` digits, and no containers
nested deeper than the reading goes (`Value.fitsIn`): `readWith_renderAt`.

The proof follows the writer: a string literal is read back character by character
(`readString_escapeChar`), a whole number digit by digit (`readNumber?_int`), and a
container item by item, each step of the reader taken by a lemma of its own
(`readItems_next`, `readMembers_last`, ...) and each item by the mutual induction. -/
namespace Uptime.Json

/-! ### Hexadecimal digits -/

theorem hexValue?_digitChar {d : Nat} (h : d < 16) : hexValue? (Nat.digitChar d) = some d := by
  interval_cases d <;> rfl

theorem hex4_toList {n : Nat} (h : n < 0x10000) :
    (hex4 n).toList = [Nat.digitChar (n / 4096), Nat.digitChar (n / 256 % 16),
      Nat.digitChar (n / 16 % 16), Nat.digitChar (n % 16)] := by
  have step : ∀ m, 16 ≤ m →
      Nat.toDigits 16 m = Nat.toDigits 16 (m / 16) ++ [Nat.digitChar (m % 16)] :=
    fun m hm => Nat.toDigits_of_base_le (by omega) hm
  simp only [hex4, String.toList_ofList]
  rcases Nat.lt_or_ge n 16 with h1 | h1
  · rw [Nat.toDigits_of_lt_base h1]
    simp [Nat.div_eq_of_lt h1, Nat.mod_eq_of_lt h1, show n / 256 = 0 by omega,
      show n / 4096 = 0 by omega]
  rcases Nat.lt_or_ge n 256 with h2 | h2
  · rw [step n h1, Nat.toDigits_of_lt_base (show n / 16 < 16 by omega)]
    simp [show n / 256 = 0 by omega, show n / 4096 = 0 by omega,
      show n / 16 % 16 = n / 16 by omega]
  rcases Nat.lt_or_ge n 4096 with h3 | h3
  · rw [step n h1, step (n / 16) (by omega),
      Nat.toDigits_of_lt_base (show n / 16 / 16 < 16 by omega)]
    simp [show n / 4096 = 0 by omega, show n / 16 / 16 = n / 256 by omega,
      show n / 256 % 16 = n / 256 by omega]
  · rw [step n h1, step (n / 16) (by omega), step (n / 16 / 16) (by omega),
      Nat.toDigits_of_lt_base (show n / 16 / 16 / 16 < 16 by omega)]
    simp [show n / 16 / 16 / 16 = n / 4096 by omega, show n / 16 / 16 % 16 = n / 256 % 16 by omega]

theorem hex4?_digits {n : Nat} (h : n < 0x10000) :
    hex4? [Nat.digitChar (n / 4096), Nat.digitChar (n / 256 % 16),
      Nat.digitChar (n / 16 % 16), Nat.digitChar (n % 16)] = some n := by
  simp only [hex4?, hexValue?_digitChar (show n / 4096 < 16 by omega),
    hexValue?_digitChar (show n / 256 % 16 < 16 by omega),
    hexValue?_digitChar (show n / 16 % 16 < 16 by omega),
    hexValue?_digitChar (show n % 16 < 16 by omega)]
  show some _ = some n
  congr 1
  omega

theorem toNat_le_max_char (c : Char) : c.toNat ≤ 0x10FFFF := by
  have hc := c.valid
  simp only [UInt32.isValidChar, Nat.isValidChar] at hc
  have hn : c.toNat = c.val.toNat := rfl
  omega

/-! ### String literals -/

section StringBody

variable {lone : Bool} {start p : Nat} {acc : List Nat}

/-- A `\u` escape of a code unit that is no surrogate is read as that unit, whatever
follows it. -/
theorem readString_unit_of_not_surrogate {u : Nat} {a b c d head : Char} {tail : List Char}
    (hu : hex4? [a, b, c, d] = some u) (hs : ¬ (0xD800 ≤ u ∧ u ≤ 0xDFFF)) :
    readString lone start ('\\' :: 'u' :: a :: b :: c :: d :: head :: tail) p acc =
      readString lone start (head :: tail) (p + 6) (u :: acc) := by
  have hunit : loneUnit lone u p = .ok u := by
    unfold loneUnit
    rw [if_neg fun h => hs ⟨h.1, h.2.1⟩]
  by_cases hshape : ∃ e f g h head' tail', head = '\\' ∧
      tail = 'u' :: e :: f :: g :: h :: head' :: tail'
  · obtain ⟨e, f, g, h, head', tail', rfl, rfl⟩ := hshape
    have hhi : isHighSurrogate u = false := by simp [isHighSurrogate]; omega
    rw [readString.eq_3, hu]
    simp only [hhi, Bool.false_eq_true, if_false, hunit]
    rfl
  · rw [readString.eq_4 _ _ _ _ _ _ _ _ _ _ fun e f g h head' tail' he ht =>
      hshape ⟨e, f, g, h, head', tail', he, ht⟩, hu]
    simp only [hunit]
    rfl

/-- A surrogate pair escaped as two `\u` escapes is read as the one code point it stands
for. -/
theorem readString_pair {hi lo : Nat} {a b c d e f g h head : Char} {tail : List Char}
    (hh : hex4? [a, b, c, d] = some hi) (hl : hex4? [e, f, g, h] = some lo)
    (hhi : isHighSurrogate hi = true) (hlo : isLowSurrogate lo = true) :
    readString lone start
        ('\\' :: 'u' :: a :: b :: c :: d :: '\\' :: 'u' :: e :: f :: g :: h :: head :: tail) p acc =
      readString lone start (head :: tail) (p + 12)
        ((0x10000 + (hi - 0xD800) * 0x400 + (lo - 0xDC00)) :: acc) := by
  rw [readString.eq_3, hh]
  simp only [hhi, if_true, hl, hlo]

theorem readString_simple {e ch : Char} {rest : List Char} (he : e ≠ 'u')
    (hs : simpleEscape? e = some ch) :
    readString lone start ('\\' :: e :: rest) p acc =
      readString lone start rest (p + 2) (ch.toNat :: acc) := by
  rw [readString.eq_6 _ _ _ _ _ _ (fun _ _ _ _ _ _ _ _ _ _ h _ => he h)
    (fun _ _ _ _ _ _ h _ => he h) he, hs]

theorem readString_escapeChar (asciiOnly : Bool) (ch : Char) {tail : List Char}
    (ht : tail ≠ []) :
    ∃ p', readString lone start ((escapeChar asciiOnly ch).toList ++ tail) p acc =
      readString lone start tail p' (ch.toNat :: acc) := by
  obtain ⟨head, tail, rfl⟩ := List.exists_cons_of_ne_nil ht
  unfold escapeChar
  split
  case h_8 hq hb _ _ _ _ _ =>
    by_cases hesc : (decide (ch.toNat < 32) || asciiOnly && decide (ch.toNat > 126)) = true
    · rw [if_pos hesc]
      unfold unitEscape
      dsimp only
      split
      · -- a unit of the basic plane, which is no surrogate
        rename_i hn
        refine ⟨p + 6, ?_⟩
        rw [String.toList_append, hex4_toList hn]
        exact readString_unit_of_not_surrogate (hex4?_digits hn) (toNat_not_surrogate ch)
      · -- above the basic plane: a high and a low surrogate
        rename_i hn
        have hmax := toNat_le_max_char ch
        have hhi : 0xD800 + (ch.toNat - 0x10000) / 0x400 < 0x10000 := by omega
        have hlo : 0xDC00 + (ch.toNat - 0x10000) % 0x400 < 0x10000 := by omega
        have hu : "\\u".toList = ['\\', 'u'] := rfl
        refine ⟨p + 12, ?_⟩
        simp only [String.toList_append, hex4_toList hhi, hex4_toList hlo, hu,
          List.cons_append, List.nil_append]
        rw [readString_pair (hex4?_digits hhi) (hex4?_digits hlo)
          (by simp [isHighSurrogate]; omega) (by simp [isLowSurrogate]; omega)]
        have hch : 0x10000 + (0xD800 + (ch.toNat - 0x10000) / 0x400 - 0xD800) * 0x400 +
            (0xDC00 + (ch.toNat - 0x10000) % 0x400 - 0xDC00) = ch.toNat := by omega
        rw [hch]
    · rw [if_neg hesc]
      have hc : ¬ ch.toNat < 32 := fun h => hesc (by simp [h])
      refine ⟨p + 1, ?_⟩
      rw [Char.toString, String.toList_singleton, List.singleton_append]
      exact readString_plain_cons ⟨hq, hb, by omega⟩
  all_goals exact ⟨_, readString_simple (by decide) rfl⟩

/-- The body of a string literal, up to its closing quote, is read back as the code
points of the text. -/
theorem readString_escaped (asciiOnly : Bool) (cs rest : List Char) :
    ∃ p', readString lone start
        ((cs.flatMap fun c => (escapeChar asciiOnly c).toList) ++ '"' :: rest) p acc =
      .ok (acc.reverse ++ cs.map Char.toNat, ⟨rest, p'⟩) := by
  induction cs generalizing p acc with
  | nil => exact ⟨p + 1, by simp [readString.eq_2]⟩
  | cons c cs ih =>
    let tail := (cs.flatMap fun c => (escapeChar asciiOnly c).toList) ++ '"' :: rest
    obtain ⟨p', hp'⟩ : ∃ p', readString lone start ((escapeChar asciiOnly c).toList ++ tail) p acc =
        readString lone start tail p' (c.toNat :: acc) :=
      readString_escapeChar asciiOnly c (by simp [tail])
    obtain ⟨q, hq⟩ : ∃ q, readString lone start tail p' (c.toNat :: acc) =
        .ok ((c.toNat :: acc).reverse ++ cs.map Char.toNat, ⟨rest, q⟩) := ih
    refine ⟨q, ?_⟩
    rw [List.flatMap_cons, List.append_assoc, hp', hq]
    simp

end StringBody

theorem quote_toList (asciiOnly : Bool) (s : String) :
    (quote asciiOnly s).toList =
      '"' :: (s.toList.flatMap fun c => (escapeChar asciiOnly c).toList) ++ ['"'] := by
  simp [quote, String.toList_join, List.flatMap_map]

/-! ### Whole numbers -/

theorem toNat_of_isDigit {c : Char} (h : c.isDigit = true) : 48 ≤ c.toNat ∧ c.toNat ≤ 57 := by
  simp only [Char.isDigit, Bool.and_eq_true, decide_eq_true_eq, UInt32.le_iff_toNat_le] at h
  have hn : c.toNat = c.val.toNat := rfl
  exact ⟨by simp at h; omega, by simp at h; omega⟩

theorem digitsValue_toDigits (n : Nat) : digitsValue (Nat.toDigits 10 n) = n := by
  induction n using Nat.strong_induction_on with
  | _ n ih =>
    rcases Nat.lt_or_ge n 10 with h | h
    · rw [Nat.toDigits_of_lt_base h]
      simp [digitsValue, Nat.toNat_digitChar_sub_48_of_lt_ten h]
    · rw [Nat.toDigits_of_base_le (by omega) h, digitsValue, List.foldl_append, ← digitsValue,
        ih (n / 10) (by omega)]
      simp [Nat.toNat_digitChar_sub_48_of_lt_ten (Nat.mod_lt n (by omega : 10 > 0))]
      omega

theorem toDigits_head_ne_zero {n : Nat} (h : 0 < n) : ∀ ds, Nat.toDigits 10 n ≠ '0' :: ds := by
  induction n using Nat.strong_induction_on with
  | _ n ih =>
    intro ds hds
    rcases Nat.lt_or_ge n 10 with h10 | h10
    · rw [Nat.toDigits_of_lt_base h10] at hds
      simp at hds
      omega
    · rw [Nat.toDigits_of_base_le (by omega) h10] at hds
      obtain ⟨d, ds', hd⟩ := List.exists_cons_of_ne_nil (Nat.toDigits_ne_nil (n := n / 10) (b := 10))
      rw [hd, List.cons_append] at hds
      obtain ⟨rfl, -⟩ := List.cons.inj hds
      exact ih (n / 10) (by omega) (by omega) ds' hd

def continuesNumber (c : Char) : Bool :=
  c.isDigit || c == '.' || c == 'e' || c == 'E'

def EndsNumber (rest : List Char) : Prop :=
  ∀ c ∈ rest.head?, continuesNumber c = false

theorem leadingDigits_toDigits {rest : List Char} (hr : EndsNumber rest) (n : Nat) :
    leadingDigits (Nat.toDigits 10 n ++ rest) = Nat.toDigits 10 n := by
  have hd : ∀ c ∈ Nat.toDigits 10 n, c.isDigit = true := fun c hc =>
    Nat.isDigit_of_mem_toDigits (by omega) (by omega) hc
  unfold leadingDigits
  rw [List.takeWhile_append_of_pos hd]
  cases rest with
  | nil => simp
  | cons c cs =>
    have hc := hr c rfl
    simp only [continuesNumber, Bool.or_eq_false_iff] at hc
    simp [hc.1.1.1]

theorem readNumber?_digits {rest : List Char} (hr : EndsNumber rest) (neg : Bool) (n p : Nat) :
    readNumber? ⟨(if neg then ['-'] else []) ++ Nat.toDigits 10 n ++ rest, p⟩ =
      some (.int (if neg then -(n : Int) else n),
        ⟨rest, p + ((if neg then 1 else 0) + (Nat.toDigits 10 n).length)⟩) := by
  obtain ⟨d, ds, hd⟩ := List.exists_cons_of_ne_nil (Nat.toDigits_ne_nil (n := n) (b := 10))
  have hdig : d.isDigit = true :=
    Nat.isDigit_of_mem_toDigits (by omega) (by omega) (hd ▸ List.mem_cons_self)
  have hminus : d ≠ '-' := by rintro rfl; simp at hdig
  have hval : digitsValue (d :: ds) = n := hd ▸ digitsValue_toDigits n
  have hwhole : leadingDigits (d :: (ds ++ rest)) = d :: ds := by
    rw [← List.cons_append, ← hd]
    exact leadingDigits_toDigits hr n
  have hrest : ∀ c cs, rest = c :: cs → c ≠ '.' ∧ c ≠ 'e' ∧ c ≠ 'E' := by
    rintro c cs rfl
    have hc := hr c rfl
    simp only [continuesNumber, Bool.or_eq_false_iff, beq_eq_false_iff_ne] at hc
    exact ⟨hc.1.1.2, hc.1.2, hc.2⟩
  have hdrop : ∀ k (a : Char) l, List.drop (1 + k) (a :: l) = List.drop k l := fun k a l => by
    rw [Nat.add_comm]
    rfl
  unfold readNumber?
  rcases Nat.eq_zero_or_pos n with rfl | hn
  · rw [Nat.toDigits_zero] at hd
    obtain ⟨rfl, rfl⟩ := List.cons.inj hd
    cases rest with
    | nil => cases neg <;> simp [Cursor.advance, hval]
    | cons c cs => cases neg <;> simp [Cursor.advance, hrest c cs rfl, hval]
  · have hd0 : d ≠ '0' := fun h => toDigits_head_ne_zero hn ds (h ▸ hd)
    cases rest with
    | nil =>
      rw [List.append_nil] at hwhole
      cases neg <;> simp [hd, Cursor.advance, hminus, hd0, hwhole, hval, hdrop]
    | cons c cs =>
      obtain ⟨h1, h2, h3⟩ := hrest c cs rfl
      cases neg <;> simp [hd, Cursor.advance, hminus, hd0, hwhole, hval, h1, h2, h3, hdrop]

theorem toList_toString_int (n : Int) :
    (toString n).toList = (if n < 0 then ['-'] else []) ++ Nat.toDigits 10 n.natAbs := by
  cases n with
  | ofNat m => exact Nat.toList_repr
  | negSucc m =>
    show ("-" ++ Nat.repr (m + 1)).toList = _
    simp [Int.natAbs_negSucc]

theorem readNumber?_int {rest : List Char} (hr : EndsNumber rest) (n : Int) (p : Nat) :
    ∃ q, readNumber? ⟨(toString n).toList ++ rest, p⟩ = some (.int n, ⟨rest, q⟩) := by
  rw [toList_toString_int]
  by_cases hn : n < 0
  · have h := readNumber?_digits hr true n.natAbs p
    simp only [hn, if_true] at h ⊢
    exact ⟨_, h.trans (by congr 3; omega)⟩
  · have h := readNumber?_digits hr false n.natAbs p
    simp only [hn, Bool.false_eq_true, if_false] at h ⊢
    exact ⟨_, h.trans (by congr 3; omega)⟩

theorem readWord?_of_digit {c : Char} {cs : List Char} {p : Nat} (hc : c.isDigit = true) :
    readWord? ⟨c :: cs, p⟩ = none := by
  have hne : ∀ w ∈ ['n', 't', 'f', 'N', 'I', '-'], w ≠ c := by
    rintro w hw rfl
    simp at hw
    rcases hw with rfl | rfl | rfl | rfl | rfl | rfl <;> simp at hc
  simp only [List.mem_cons, List.not_mem_nil, or_false, forall_eq_or_imp, forall_eq] at hne
  simp [readWord?, hne]

theorem readWord?_of_minus_digit {d : Char} {cs : List Char} {p : Nat} (hd : d.isDigit = true) :
    readWord? ⟨'-' :: d :: cs, p⟩ = none := by
  have hI : 'I' ≠ d := by rintro rfl; simp at hd
  simp [readWord?, hI]

/-! ### Layouts and blanks -/

theorem continuesNumber_of_blank {c : Char} (h : isBlank c = true) : continuesNumber c = false := by
  simp only [isBlank, Bool.or_eq_true, decide_eq_true_eq] at h
  rcases h with ((rfl | rfl) | rfl) | rfl <;> rfl

theorem endsNumber_blanks_append {bs : List Char} (hbs : ∀ b ∈ bs, isBlank b = true) {c : Char}
    (hc : continuesNumber c = false) (cs : List Char) : EndsNumber (bs ++ c :: cs) := by
  cases bs with
  | nil => simpa [EndsNumber] using hc
  | cons b bs => simpa [EndsNumber] using continuesNumber_of_blank (hbs b (by simp))

namespace Cursor

theorem skipBlanks_append {bs : List Char} (hbs : ∀ b ∈ bs, isBlank b = true) {t : List Char}
    (ht : ∀ c ∈ t.head?, isBlank c = false) (p : Nat) :
    skipBlanks ⟨bs ++ t, p⟩ = ⟨t, p + bs.length⟩ := by
  induction bs generalizing p with
  | nil =>
    cases t with
    | nil => simp [skipBlanks]
    | cons c cs => exact skipBlanks_of_not_blank (ht c rfl)
  | cons b bs ih =>
    rw [List.cons_append, skipBlanks, if_pos (hbs b (by simp)),
      ih (fun b' hb' => hbs b' (by simp [hb']))]
    simp only [List.length_cons, Cursor.mk.injEq, true_and]
    omega

end Cursor

/-- A layout the reader can take apart: its separators are a comma and a colon, each
followed by blanks. -/
def Layout.Readable (l : Layout) : Prop :=
  (∃ bs, l.itemSep.toList = ',' :: bs ∧ ∀ b ∈ bs, isBlank b = true) ∧
    ∃ bs, l.keySep.toList = ':' :: bs ∧ ∀ b ∈ bs, isBlank b = true

theorem Layout.indented_readable : Layout.indented.Readable :=
  ⟨⟨[], by simp [Layout.indented], by simp [isBlank]⟩, ⟨[' '], by simp [Layout.indented], by simp [isBlank]⟩⟩

theorem breakAt_blank (l : Layout) (level : Nat) :
    ∀ b ∈ (Value.breakAt l level).toList, isBlank b = true := by
  unfold Value.breakAt
  split
  · simp
  · intro b hb
    simp only [String.toList_append, String.toList_ofList, List.mem_append,
      List.mem_replicate] at hb
    rcases hb with hb | ⟨-, rfl⟩
    · simp at hb
      subst hb
      rfl
    · rfl

/-! ### What reading gives back -/

namespace Value

mutual

/-- The document reading gives back for one written as `v`: the members of each object
set one after another, so a key written twice keeps its first place and its last
value. -/
def merged : Value → Value
  | .arr xs => .arr (mergedItems xs)
  | .obj fs => ofPairs (mergedMembers fs)
  | v => v

def mergedItems : List Value → List Value
  | [] => []
  | x :: xs => merged x :: mergedItems xs

def mergedMembers : List (String × Value) → List (String × Value)
  | [] => []
  | (k, v) :: fs => (k, merged v) :: mergedMembers fs

end

mutual

/-- Whether a document survives writing and reading: no number with a fraction, no
integer of more than `maxIntDigits` digits, and containers nested at most `room`
deep. -/
def fitsIn : Nat → Value → Bool
  | _, .float _ => false
  | _, .int n => (toString n.natAbs).length ≤ maxIntDigits
  | room, .arr xs => room ≠ 0 && itemsFitIn (room - 1) xs
  | room, .obj fs => room ≠ 0 && membersFitIn (room - 1) fs
  | _, _ => true

def itemsFitIn (room : Nat) : List Value → Bool
  | [] => true
  | x :: xs => fitsIn room x && itemsFitIn room xs

def membersFitIn (room : Nat) : List (String × Value) → Bool
  | [] => true
  | (_, v) :: fs => fitsIn room v && membersFitIn room fs

end

end Value

namespace Value

theorem membersFitIn_eq_all (room : Nat) (fs : List (String × Value)) :
    membersFitIn room fs = fs.all fun m => m.2.fitsIn room := by
  induction fs with
  | nil => rfl
  | cons m fs ih =>
    obtain ⟨k, v⟩ := m
    simp [membersFitIn, ih]

mutual

theorem fitsIn_sortKeys (room : Nat) (v : Value) : (sortKeys v).fitsIn room = v.fitsIn room := by
  match v with
  | .arr xs => rw [sortKeys, fitsIn, fitsIn, itemsFitIn_sortItems (room - 1) xs]
  | .obj fs =>
    rw [sortKeys, fitsIn, fitsIn, membersFitIn_eq_all, (List.mergeSort_perm _ _).all_eq,
      ← membersFitIn_eq_all, membersFitIn_sortMembers (room - 1) fs]
  | .null => rfl
  | .bool _ => rfl
  | .int _ => rfl
  | .float _ => rfl
  | .str _ => rfl

theorem itemsFitIn_sortItems (room : Nat) (xs : List Value) :
    itemsFitIn room (sortItems xs) = itemsFitIn room xs := by
  match xs with
  | [] => rfl
  | x :: xs => rw [sortItems, itemsFitIn, itemsFitIn, fitsIn_sortKeys room x, itemsFitIn_sortItems room xs]

theorem membersFitIn_sortMembers (room : Nat) (fs : List (String × Value)) :
    membersFitIn room (sortMembers fs) = membersFitIn room fs := by
  match fs with
  | [] => rfl
  | (k, v) :: fs =>
    rw [sortMembers, membersFitIn, membersFitIn, fitsIn_sortKeys room v,
      membersFitIn_sortMembers room fs]

end

theorem lookup_of_perm {l₁ l₂ : List (String × Value)} (hp : l₁.Perm l₂)
    (hnd : (l₁.map Prod.fst).Nodup) (k : String) : l₁.lookup k = l₂.lookup k := by
  induction hp with
  | nil => rfl
  | cons x _ ih =>
    obtain ⟨kx, vx⟩ := x
    simp only [List.map_cons, List.nodup_cons] at hnd
    simp [List.lookup, ih hnd.2]
  | swap x y l =>
    obtain ⟨kx, vx⟩ := x
    obtain ⟨ky, vy⟩ := y
    have hyx : ky ≠ kx := by
      simp only [List.map_cons, List.nodup_cons, List.mem_cons] at hnd
      exact fun h => hnd.1 (.inl h)
    by_cases hx : k = kx
    · subst hx
      simp [List.lookup, beq_false_of_ne (Ne.symm hyx)]
    · simp [List.lookup, beq_false_of_ne hx]
  | trans h₁₂ _ ih₁ ih₂ =>
    exact (ih₁ hnd).trans (ih₂ ((h₁₂.map Prod.fst).nodup_iff.1 hnd))

theorem setField_of_not_mem {acc : List (String × Value)} {k : String}
    (h : k ∉ acc.map Prod.fst) (v : Value) : setField acc k v = acc ++ [(k, v)] := by
  induction acc with
  | nil => rfl
  | cons m acc ih =>
    obtain ⟨k', v'⟩ := m
    simp only [List.map_cons, List.mem_cons, not_or] at h
    simp [setField, Ne.symm h.1, ih h.2]

theorem foldl_setField_of_nodup (ps acc : List (String × Value))
    (hnd : ((acc ++ ps).map Prod.fst).Nodup) :
    ps.foldl (fun a m => setField a m.1 m.2) acc = acc ++ ps := by
  induction ps generalizing acc with
  | nil => simp
  | cons m ps ih =>
    have hm : m.1 ∉ acc.map Prod.fst := by
      simp only [List.map_append, List.map_cons, List.nodup_append, List.nodup_cons] at hnd
      exact fun h => hnd.2.2 _ h _ (List.mem_cons_self) rfl
    rw [List.foldl_cons, setField_of_not_mem hm, ih (acc ++ [m]) (by simpa using hnd)]
    simp

theorem keys_mergedMembers (fs : List (String × Value)) :
    (mergedMembers fs).map Prod.fst = fs.map Prod.fst := by
  induction fs with
  | nil => rfl
  | cons m fs ih =>
    obtain ⟨k, v⟩ := m
    simp [mergedMembers, ih]

theorem keys_sortMembers (fs : List (String × Value)) :
    (sortMembers fs).map Prod.fst = fs.map Prod.fst := by
  induction fs with
  | nil => rfl
  | cons m fs ih =>
    obtain ⟨k, v⟩ := m
    simp [sortMembers, ih]

theorem lookup_mergedMembers (fs : List (String × Value)) (k : String) :
    (mergedMembers fs).lookup k = (fs.lookup k).map merged := by
  induction fs with
  | nil => rfl
  | cons m fs ih =>
    obtain ⟨k', v⟩ := m
    by_cases h : k = k'
    · simp [mergedMembers, List.lookup, h]
    · simp [mergedMembers, List.lookup, beq_false_of_ne h, ih]

theorem lookup_sortMembers (fs : List (String × Value)) (k : String) :
    (sortMembers fs).lookup k = (fs.lookup k).map sortKeys := by
  induction fs with
  | nil => rfl
  | cons m fs ih =>
    obtain ⟨k', v⟩ := m
    by_cases h : k = k'
    · simp [sortMembers, List.lookup, h]
    · simp [sortMembers, List.lookup, beq_false_of_ne h, ih]

/-- An object with distinct keys, its keys put in order and read back, is an object with
the same keys, each with its value put in order and read back. -/
theorem merged_sortKeys_obj (fs : List (String × Value)) (hnd : (fs.map Prod.fst).Nodup) :
    ∃ gs, (sortKeys (.obj fs)).merged = .obj gs ∧ (gs.map Prod.fst).Nodup ∧
      ∀ k, gs.lookup k = (fs.lookup k).map fun v => v.sortKeys.merged := by
  let sorted := (sortMembers fs).mergeSort fun a b => !(b.1 < a.1)
  have hperm : sorted.Perm (sortMembers fs) := List.mergeSort_perm _ _
  have hkeys : (sorted.map Prod.fst).Nodup :=
    (hperm.map Prod.fst).nodup_iff.2 (by rw [keys_sortMembers]; exact hnd)
  have hmerged : ((mergedMembers sorted).map Prod.fst).Nodup := by
    rw [keys_mergedMembers]
    exact hkeys
  refine ⟨mergedMembers sorted, ?_, hmerged, fun k => ?_⟩
  · show ofPairs (mergedMembers sorted) = _
    rw [ofPairs, foldl_setField_of_nodup _ [] (by simpa using hmerged), List.nil_append]
  · rw [lookup_mergedMembers, lookup_of_perm hperm hkeys, lookup_sortMembers, Option.map_map]
    rfl

theorem mem_setField {acc : List (String × Value)} {k : String} {v : Value}
    {m : String × Value} (h : m ∈ setField acc k v) : m ∈ acc ∨ m = (k, v) := by
  induction acc with
  | nil => simpa [setField] using h
  | cons p acc ih =>
    obtain ⟨k', v'⟩ := p
    unfold setField at h
    split at h
    · simp only [List.mem_cons] at h ⊢
      tauto
    · simp only [List.mem_cons] at h ⊢
      rcases h with h | h
      · exact .inl (.inl h)
      · rcases ih h with h | h
        · exact .inl (.inr h)
        · exact .inr h

end Value

def opensValue (c : Char) : Bool :=
  c.isDigit || ['n', 't', 'f', '"', '[', '{', '-'].contains c

theorem opensValue_not_blank {c : Char} (h : opensValue c = true) : isBlank c = false := by
  cases hb : isBlank c
  · rfl
  · simp only [isBlank, Bool.or_eq_true, decide_eq_true_eq] at hb
    rcases hb with ((rfl | rfl) | rfl) | rfl <;> simp [opensValue] at h

theorem renderAt_head (l : Layout) (level room : Nat) (v : Value) (hfit : v.fitsIn room = true) :
    ∃ c cs, (Value.renderAt l level v).toList = c :: cs ∧ opensValue c = true := by
  cases v with
  | int n =>
    obtain ⟨d, ds, hd⟩ := List.exists_cons_of_ne_nil (Nat.toDigits_ne_nil (n := n.natAbs) (b := 10))
    have hdig : d.isDigit = true :=
      Nat.isDigit_of_mem_toDigits (by omega) (by omega) (hd ▸ List.mem_cons_self)
    show ∃ c cs, (toString n).toList = c :: cs ∧ opensValue c = true
    rw [toList_toString_int, hd]
    by_cases hn : n < 0
    · exact ⟨'-', d :: ds, by simp [hn], rfl⟩
    · exact ⟨d, ds, by simp [hn], by simp [opensValue, hdig]⟩
  | float x => simp [Value.fitsIn] at hfit
  | str s => exact ⟨'"', _, quote_toList _ _, rfl⟩
  | arr xs =>
    cases xs with
    | nil => exact ⟨'[', [']'], by simp [Value.renderAt], rfl⟩
    | cons x xs =>
      exact ⟨'[', (Value.joinAt l (level + 1) (Value.renderItems l (level + 1) (x :: xs))).toList ++
        [']'], by simp [Value.renderAt], rfl⟩
  | obj fs =>
    cases fs with
    | nil => exact ⟨'{', ['}'], by simp [Value.renderAt], rfl⟩
    | cons m fs =>
      exact ⟨'{', (Value.joinAt l (level + 1) (Value.renderMembers l (level + 1) (m :: fs))).toList ++
        ['}'], by simp [Value.renderAt], rfl⟩
  | null => exact ⟨'n', ['u', 'l', 'l'], by simp [Value.renderAt], rfl⟩
  | bool b =>
    cases b
    · exact ⟨'f', ['a', 'l', 's', 'e'], by simp [Value.renderAt], rfl⟩
    · exact ⟨'t', ['r', 'u', 'e'], by simp [Value.renderAt], rfl⟩

theorem opensValue_ne_close {c : Char} (h : opensValue c = true) : c ≠ ']' := by
  rintro rfl
  simp [opensValue] at h

theorem opensValue_ne_mark {c : Char} (h : opensValue c = true) : c ≠ '\uFEFF' := by
  rintro rfl
  simp [opensValue] at h

theorem head?_intercalate (sep a : String) (as : List String) (ha : a.toList ≠ [])
    (r : List Char) : ((sep.intercalate (a :: as)).toList ++ r).head? = a.toList.head? := by
  obtain ⟨c, cs, hc⟩ := List.exists_cons_of_ne_nil ha
  cases as with
  | nil => simp [hc]
  | cons b bs => simp [String.intercalate_cons_cons, hc]

theorem renderItems_head (l : Layout) (level room : Nat) (sep : String) (x : Value)
    (xs : List Value) (hx : x.fitsIn room = true) (r : List Char) :
    ∃ c, ((sep.intercalate (Value.renderItems l level (x :: xs))).toList ++ r).head? = some c ∧
      opensValue c = true := by
  obtain ⟨c, cs, hc, hopen⟩ := renderAt_head l level room x hx
  refine ⟨c, ?_, hopen⟩
  rw [Value.renderItems, head?_intercalate _ _ _ (by simp [hc]), hc]
  rfl

theorem member_toList {l : Layout} {ks : List Char} (hks : l.keySep.toList = ':' :: ks)
    (level : Nat) (k : String) (v : Value) :
    (quote l.asciiOnly k ++ l.keySep ++ Value.renderAt l level v).toList =
      '"' :: ((k.toList.flatMap fun c => (escapeChar l.asciiOnly c).toList) ++
        '"' :: ':' :: (ks ++ (Value.renderAt l level v).toList)) := by
  simp [quote_toList, hks]

theorem renderMembers_head {l : Layout} {ks : List Char} (hks : l.keySep.toList = ':' :: ks)
    (level : Nat) (sep : String) (m : String × Value) (ms : List (String × Value))
    (r : List Char) :
    ∃ more, (sep.intercalate (Value.renderMembers l level (m :: ms))).toList ++ r = '"' :: more := by
  obtain ⟨k, v⟩ := m
  have h := head?_intercalate sep (quote l.asciiOnly k ++ l.keySep ++ Value.renderAt l level v)
    (Value.renderMembers l level ms) (by simp [member_toList hks]) r
  rw [member_toList hks] at h
  rw [Value.renderMembers]
  exact List.head?_eq_some_iff.1 h

theorem not_blank_of_head {t : List Char} {c : Char} (h : t.head? = some c)
    (hopen : opensValue c = true) : ∀ c' ∈ t.head?, isBlank c' = false := by
  intro c' hc'
  rw [h, Option.mem_some_iff] at hc'
  exact hc' ▸ opensValue_not_blank hopen

/-! ### One step of the reader -/

section Steps

variable {lone : LoneSurrogate} {room f p q : Nat} {c : Char} {cs rest : List Char}

theorem readValue_openArray :
    readValue lone room (f + 1) ⟨'[' :: cs, p⟩ =
      if room = 0 then .error ⟨.nestedTooDeep false, p⟩
      else readItems lone (room - 1) f (Cursor.skipBlanks ⟨cs, p + 1⟩) [] := rfl

theorem readValue_openObject :
    readValue lone room (f + 1) ⟨'{' :: cs, p⟩ =
      if room = 0 then .error ⟨.nestedTooDeep true, p⟩
      else readMembers lone (room - 1) f (Cursor.skipBlanks ⟨cs, p + 1⟩) [] := rfl

theorem readItems_last {acc : List Value} {v : Value} {after : Cursor} (hc : c ≠ ']')
    (hv : readValue lone room f ⟨c :: cs, p⟩ = .ok (v, after))
    (hs : after.skipBlanks = ⟨']' :: rest, q⟩) :
    readItems lone room (f + 1) ⟨c :: cs, p⟩ acc = .ok (.arr (v :: acc).reverse, ⟨rest, q + 1⟩) := by
  simp [readItems, hc, hv, hs, bind, Except.bind, Cursor.advance]

theorem readItems_next {acc : List Value} {v : Value} {after : Cursor} (hc : c ≠ ']')
    (hv : readValue lone room f ⟨c :: cs, p⟩ = .ok (v, after))
    (hs : after.skipBlanks = ⟨',' :: rest, q⟩) :
    readItems lone room (f + 1) ⟨c :: cs, p⟩ acc =
      readItems lone room f (Cursor.skipBlanks ⟨rest, q + 1⟩) (v :: acc) := by
  simp [readItems, hc, hv, hs, bind, Except.bind, Cursor.advance]

theorem readMembers_last {acc : List (String × Value)} {k : List Nat} {afterKey after : Cursor}
    {v : Value} {r : List Char} {q' : Nat}
    (hk : readString lone.allowed p cs (p + 1) [] = .ok (k, afterKey))
    (hcolon : afterKey.skipBlanks = ⟨':' :: r, q⟩)
    (hv : readValue lone room f (Cursor.skipBlanks ⟨r, q + 1⟩) = .ok (v, after))
    (hs : after.skipBlanks = ⟨'}' :: rest, q'⟩) :
    readMembers lone room (f + 1) ⟨'"' :: cs, p⟩ acc =
      .ok (.obj (Value.setField acc (lone.text k) v), ⟨rest, q' + 1⟩) := by
  simp [readMembers, hk, hcolon, hv, hs, bind, Except.bind, Cursor.advance]

theorem readMembers_next {acc : List (String × Value)} {k : List Nat} {afterKey after : Cursor}
    {v : Value} {r more : List Char} {q' q'' : Nat}
    (hk : readString lone.allowed p cs (p + 1) [] = .ok (k, afterKey))
    (hcolon : afterKey.skipBlanks = ⟨':' :: r, q⟩)
    (hv : readValue lone room f (Cursor.skipBlanks ⟨r, q + 1⟩) = .ok (v, after))
    (hs : after.skipBlanks = ⟨',' :: rest, q'⟩)
    (hnext : Cursor.skipBlanks ⟨rest, q' + 1⟩ = ⟨'"' :: more, q''⟩) :
    readMembers lone room (f + 1) ⟨'"' :: cs, p⟩ acc =
      readMembers lone room f ⟨'"' :: more, q''⟩ (Value.setField acc (lone.text k) v) := by
  simp [readMembers, hk, hcolon, hv, hs, hnext, bind, Except.bind, Cursor.advance]

theorem readMembers_value_error {acc : List (String × Value)} {k : List Nat} {afterKey : Cursor}
    {r : List Char} {e : ReadError}
    (hk : readString lone.allowed p cs (p + 1) [] = .ok (k, afterKey))
    (hcolon : afterKey.skipBlanks = ⟨':' :: r, q⟩)
    (hv : readValue lone room f (Cursor.skipBlanks ⟨r, q + 1⟩) = .error e) :
    readMembers lone room (f + 1) ⟨'"' :: cs, p⟩ acc = .error e := by
  simp [readMembers, hk, hcolon, hv, bind, Except.bind, Cursor.advance]

theorem readValue_int {rest : List Char} (hrest : EndsNumber rest) (n : Int) :
    ∃ q, readValue lone room (f + 1) ⟨(toString n).toList ++ rest, p⟩ =
      if maxIntDigits < (toString n.natAbs).length then
        .error ⟨.tooManyDigits (toString n.natAbs).length, p⟩
      else .ok (.int n, ⟨rest, q⟩) := by
  obtain ⟨q, hq⟩ := readNumber?_int hrest n p
  obtain ⟨d, ds, hd⟩ := List.exists_cons_of_ne_nil (Nat.toDigits_ne_nil (n := n.natAbs) (b := 10))
  have hdig : d.isDigit = true :=
    Nat.isDigit_of_mem_toDigits (by omega) (by omega) (hd ▸ List.mem_cons_self)
  have hopen : ∀ c ∈ ['"', '{', '['], d ≠ c := by
    rintro c hc rfl
    simp at hc
    rcases hc with rfl | rfl | rfl <;> simp at hdig
  simp only [List.mem_cons, List.not_mem_nil, or_false, forall_eq_or_imp, forall_eq] at hopen
  refine ⟨q, ?_⟩
  rw [toList_toString_int, hd] at hq ⊢
  by_cases hn : n < 0
  · simp only [hn, if_true, List.cons_append, List.nil_append] at hq ⊢
    simp [readValue, readWord?_of_minus_digit hdig, hq]
  · simp only [hn, if_false, List.nil_append, List.cons_append] at hq ⊢
    simp [readValue, readWord?_of_digit hdig, hq, hopen]

end Steps

/-! ### Reading a written document -/

section Reading

variable {lone : LoneSurrogate} {l : Layout}

mutual

theorem readValue_renderAt (hl : l.Readable) (v : Value) (room level fuel p : Nat)
    (rest : List Char) (hfit : v.fitsIn room = true)
    (hfuel : (Value.renderAt l level v).toList.length ≤ fuel) (hrest : EndsNumber rest) :
    ∃ q, readValue lone room fuel ⟨(Value.renderAt l level v).toList ++ rest, p⟩ =
      .ok (v.merged, ⟨rest, q⟩) := by
  obtain ⟨f, rfl⟩ : ∃ f, fuel = f + 1 := by
    obtain ⟨c, cs, hc, -⟩ := renderAt_head l level room v hfit
    rw [hc] at hfuel
    exact ⟨fuel - 1, by simp at hfuel; omega⟩
  -- the facts about `v` go back into the goal before the split: left in the context, the
  -- split compares their unfolded texts, which takes seconds
  revert hfit hfuel
  match v with
  | .null =>
    intro _ _
    refine ⟨p + 4, ?_⟩
    simp [Value.renderAt, readValue, readWord?, Cursor.advance, Value.merged]
    exact ⟨rfl, rfl⟩
  | .bool true =>
    intro _ _
    refine ⟨p + 4, ?_⟩
    simp [Value.renderAt, readValue, readWord?, Cursor.advance, Value.merged]
    exact ⟨rfl, rfl⟩
  | .bool false =>
    intro _ _
    refine ⟨p + 5, ?_⟩
    simp [Value.renderAt, readValue, readWord?, Cursor.advance, Value.merged]
    exact ⟨rfl, rfl⟩
  | .float x =>
    intro hfit _
    simp [Value.fitsIn] at hfit
  | .int n =>
    intro hfit _
    have hdigits : ¬ maxIntDigits < (toString n.natAbs).length := by
      simpa [Value.fitsIn] using hfit
    obtain ⟨q, hq⟩ := @readValue_int lone room f p _ hrest n
    exact ⟨q, by rw [Value.renderAt, hq, if_neg hdigits]; rfl⟩
  | .str s =>
    intro _ _
    obtain ⟨q, hq⟩ : ∃ q, readString lone.allowed p
        ((s.toList.flatMap fun c => (escapeChar l.asciiOnly c).toList) ++ '"' :: rest) (p + 1) [] =
        .ok ([].reverse ++ s.toList.map Char.toNat, ⟨rest, q⟩) :=
      readString_escaped l.asciiOnly s.toList rest
    refine ⟨q, ?_⟩
    show readValue lone room (f + 1) ⟨(quote l.asciiOnly s).toList ++ rest, p⟩ = _
    rw [quote_toList]
    simp [readValue, hq, bind, Except.bind, pure, Except.pure, LoneSurrogate.text_toNat,
      Value.merged]
  | .arr [] =>
    intro hfit hfuel
    have hroom : room ≠ 0 := by simpa [Value.fitsIn, Value.itemsFitIn] using hfit
    obtain ⟨g, rfl⟩ : ∃ g, f = g + 1 := ⟨f - 1, by simp [Value.renderAt] at hfuel; omega⟩
    refine ⟨p + 2, ?_⟩
    have htext : (Value.renderAt l level (.arr [])).toList = ['[', ']'] := by simp [Value.renderAt]
    rw [htext, List.cons_append, readValue_openArray, if_neg hroom, List.singleton_append,
      Cursor.skipBlanks_of_not_blank (by decide)]
    simp [readItems, Cursor.advance, Value.merged, Value.mergedItems]
  | .arr (x :: xs) =>
    intro hfit hfuel
    have hfits : room ≠ 0 ∧ Value.itemsFitIn (room - 1) (x :: xs) = true := by
      simpa [Value.fitsIn] using hfit
    have hx : x.fitsIn (room - 1) = true := by
      have h := hfits.2
      simp only [Value.itemsFitIn, Bool.and_eq_true] at h
      exact h.1
    have htext : (Value.renderAt l level (.arr (x :: xs))).toList =
        '[' :: ((Value.breakAt l (level + 1)).toList ++
          (((l.itemSep ++ Value.breakAt l (level + 1)).intercalate
            (Value.renderItems l (level + 1) (x :: xs))).toList ++
              (Value.breakAt l level).toList ++ [']'])) := by
      simp [Value.renderAt, Value.joinAt]
    rw [htext] at hfuel ⊢
    simp only [List.length_cons, List.length_append] at hfuel
    obtain ⟨q, hq⟩ := readItems_renderItems hl (x :: xs) (by simp) (room - 1)
      (level + 1) f (p + 1 + (Value.breakAt l (level + 1)).toList.length)
      (Value.breakAt l level).toList rest [] hfits.2 (breakAt_blank l level) (by omega)
    obtain ⟨c, hc, hopen⟩ := renderItems_head l (level + 1) (room - 1)
      (l.itemSep ++ Value.breakAt l (level + 1)) x xs hx ((Value.breakAt l level).toList ++ ']' :: rest)
    refine ⟨q, ?_⟩
    rw [List.cons_append, readValue_openArray, if_neg hfits.1]
    simp only [List.append_assoc, List.singleton_append] at hq ⊢
    rw [Cursor.skipBlanks_append (breakAt_blank l (level + 1)) (not_blank_of_head hc hopen)]
    simpa [Value.merged] using hq
  | .obj [] =>
    intro hfit hfuel
    have hroom : room ≠ 0 := by simpa [Value.fitsIn, Value.membersFitIn] using hfit
    obtain ⟨g, rfl⟩ : ∃ g, f = g + 1 := ⟨f - 1, by simp [Value.renderAt] at hfuel; omega⟩
    refine ⟨p + 2, ?_⟩
    have htext : (Value.renderAt l level (.obj [])).toList = ['{', '}'] := by simp [Value.renderAt]
    rw [htext, List.cons_append, readValue_openObject, if_neg hroom, List.singleton_append,
      Cursor.skipBlanks_of_not_blank (by decide)]
    simp [readMembers, Cursor.advance, Value.merged, Value.mergedMembers, Value.ofPairs]
  | .obj (m :: ms) =>
    intro hfit hfuel
    have hfits : room ≠ 0 ∧ Value.membersFitIn (room - 1) (m :: ms) = true := by
      simpa [Value.fitsIn] using hfit
    have htext : (Value.renderAt l level (.obj (m :: ms))).toList =
        '{' :: ((Value.breakAt l (level + 1)).toList ++
          (((l.itemSep ++ Value.breakAt l (level + 1)).intercalate
            (Value.renderMembers l (level + 1) (m :: ms))).toList ++
              (Value.breakAt l level).toList ++ ['}'])) := by
      simp [Value.renderAt, Value.joinAt]
    rw [htext] at hfuel ⊢
    simp only [List.length_cons, List.length_append] at hfuel
    obtain ⟨q, hq⟩ := readMembers_renderMembers hl (m :: ms) (by simp) (room - 1)
      (level + 1) f (p + 1 + (Value.breakAt l (level + 1)).toList.length)
      (Value.breakAt l level).toList rest [] hfits.2 (breakAt_blank l level) (by omega)
    obtain ⟨ks, hks, -⟩ := hl.2
    obtain ⟨more, hmore⟩ := renderMembers_head hks (level + 1)
      (l.itemSep ++ Value.breakAt l (level + 1)) m ms ((Value.breakAt l level).toList ++ '}' :: rest)
    refine ⟨q, ?_⟩
    rw [List.cons_append, readValue_openObject, if_neg hfits.1]
    simp only [List.append_assoc, List.singleton_append] at hq hmore ⊢
    rw [Cursor.skipBlanks_append (breakAt_blank l (level + 1)) (by rw [hmore]; simp; decide)]
    simpa [Value.merged, Value.ofPairs] using hq

theorem readItems_renderItems (hl : l.Readable) (xs : List Value) (hxs : xs ≠ [])
    (room level fuel p : Nat) (close rest : List Char) (acc : List Value)
    (hfit : Value.itemsFitIn room xs = true) (hclose : ∀ b ∈ close, isBlank b = true)
    (hfuel : ((l.itemSep ++ Value.breakAt l level).intercalate
      (Value.renderItems l level xs)).toList.length + close.length + 1 ≤ fuel) :
    ∃ q, readItems lone room fuel ⟨((l.itemSep ++ Value.breakAt l level).intercalate
        (Value.renderItems l level xs)).toList ++ close ++ ']' :: rest, p⟩ acc =
      .ok (.arr (acc.reverse ++ Value.mergedItems xs), ⟨rest, q⟩) := by
  match xs with
  | [] => exact absurd rfl hxs
  | [x] =>
    have hx : x.fitsIn room = true := by simpa [Value.itemsFitIn] using hfit
    have htext : ((l.itemSep ++ Value.breakAt l level).intercalate
        (Value.renderItems l level [x])).toList = (Value.renderAt l level x).toList := by
      simp [Value.renderItems]
    rw [htext] at hfuel ⊢
    obtain ⟨g, rfl⟩ : ∃ g, fuel = g + 1 := ⟨fuel - 1, by omega⟩
    obtain ⟨q, hq⟩ := readValue_renderAt hl x room level g p (close ++ ']' :: rest) hx (by omega)
      (endsNumber_blanks_append hclose rfl rest)
    obtain ⟨c, cs, hc, hopen⟩ := renderAt_head l level room x hx
    rw [hc] at hq ⊢
    simp only [List.cons_append, List.append_assoc] at hq ⊢
    rw [readItems_last (opensValue_ne_close hopen) hq
      (Cursor.skipBlanks_append hclose (by simp [isBlank]) q)]
    exact ⟨q + close.length + 1, by simp [Value.mergedItems]⟩
  | x :: y :: ys =>
    have hfits : x.fitsIn room = true ∧ Value.itemsFitIn room (y :: ys) = true := by
      have h := hfit
      rw [Value.itemsFitIn, Bool.and_eq_true] at h
      exact h
    obtain ⟨bs, hsep, hbs⟩ := hl.1
    have htext : ((l.itemSep ++ Value.breakAt l level).intercalate
        (Value.renderItems l level (x :: y :: ys))).toList =
          (Value.renderAt l level x).toList ++ ',' :: (bs ++ ((Value.breakAt l level).toList ++
            ((l.itemSep ++ Value.breakAt l level).intercalate
              (Value.renderItems l level (y :: ys))).toList)) := by
      rw [Value.renderItems, Value.renderItems, String.intercalate_cons_cons,
        ← Value.renderItems]
      simp [hsep]
    rw [htext] at hfuel ⊢
    simp only [List.length_append, List.length_cons] at hfuel
    obtain ⟨g, rfl⟩ : ∃ g, fuel = g + 1 := ⟨fuel - 1, by omega⟩
    obtain ⟨c, cs, hc, hopen⟩ := renderAt_head l level room x hfits.1
    have hlen : 0 < (Value.renderAt l level x).toList.length := by simp [hc]
    obtain ⟨q, hq⟩ := readValue_renderAt hl x room level g p
      (',' :: (bs ++ ((Value.breakAt l level).toList ++
        (((l.itemSep ++ Value.breakAt l level).intercalate
          (Value.renderItems l level (y :: ys))).toList ++ close ++ ']' :: rest))))
      hfits.1 (by omega) (by simp [EndsNumber]; rfl)
    obtain ⟨c', hc', hopen'⟩ := renderItems_head l level room (l.itemSep ++ Value.breakAt l level)
      y ys (by simp only [Value.itemsFitIn, Bool.and_eq_true] at hfits; exact hfits.2.1)
      (close ++ ']' :: rest)
    obtain ⟨q', hq'⟩ := readItems_renderItems hl (y :: ys) (by simp) room level g
      (q + 1 + (bs ++ (Value.breakAt l level).toList).length) close rest (x.merged :: acc) hfits.2
      hclose (by omega)
    refine ⟨q', ?_⟩
    rw [hc] at hq ⊢
    simp only [List.cons_append, List.append_assoc] at hq hq' hc' ⊢
    rw [readItems_next (opensValue_ne_close hopen) hq
      (Cursor.skipBlanks_of_not_blank (by decide)),
      ← List.append_assoc bs, Cursor.skipBlanks_append
        (fun b hb => by
          rcases List.mem_append.1 hb with hb | hb
          exacts [hbs b hb, breakAt_blank l level b hb])
        (not_blank_of_head hc' hopen'), hq']
    simp [Value.mergedItems]

theorem readMembers_renderMembers (hl : l.Readable) (fs : List (String × Value)) (hfs : fs ≠ [])
    (room level fuel p : Nat) (close rest : List Char) (acc : List (String × Value))
    (hfit : Value.membersFitIn room fs = true) (hclose : ∀ b ∈ close, isBlank b = true)
    (hfuel : ((l.itemSep ++ Value.breakAt l level).intercalate
      (Value.renderMembers l level fs)).toList.length + close.length + 1 ≤ fuel) :
    ∃ q, readMembers lone room fuel ⟨((l.itemSep ++ Value.breakAt l level).intercalate
        (Value.renderMembers l level fs)).toList ++ close ++ '}' :: rest, p⟩ acc =
      .ok (.obj ((Value.mergedMembers fs).foldl (fun a m => Value.setField a m.1 m.2) acc),
        ⟨rest, q⟩) := by
  obtain ⟨ks, hks, hksb⟩ := hl.2
  -- as for `readValue_renderAt`, the facts about `fs` go back into the goal before the split
  revert hfs hfit hfuel
  match fs with
  | [] => exact fun hfs => absurd rfl hfs
  | [(k, v)] =>
    intro _ hfit hfuel
    have hv : v.fitsIn room = true := by simpa [Value.membersFitIn] using hfit
    have htext : ((l.itemSep ++ Value.breakAt l level).intercalate
        (Value.renderMembers l level [(k, v)])).toList =
          (quote l.asciiOnly k ++ l.keySep ++ Value.renderAt l level v).toList := by
      simp [Value.renderMembers]
    rw [htext, member_toList hks] at hfuel ⊢
    simp only [List.length_cons, List.length_append] at hfuel
    obtain ⟨g, rfl⟩ : ∃ g, fuel = g + 1 := ⟨fuel - 1, by omega⟩
    simp only [List.cons_append, List.append_assoc]
    obtain ⟨pk, hk⟩ := @readString_escaped lone.allowed p (p + 1) [] l.asciiOnly k.toList
      (':' :: (ks ++ ((Value.renderAt l level v).toList ++ (close ++ '}' :: rest))))
    obtain ⟨c, cs, hc, hopen⟩ := renderAt_head l level room v hv
    obtain ⟨qv, hqv⟩ := readValue_renderAt hl v room level g (pk + 1 + ks.length)
      (close ++ '}' :: rest) hv (by omega) (endsNumber_blanks_append hclose rfl rest)
    rw [← Cursor.skipBlanks_append hksb (by rw [hc]; exact not_blank_of_head rfl hopen)] at hqv
    rw [readMembers_last hk (Cursor.skipBlanks_of_not_blank (by decide)) hqv
      (Cursor.skipBlanks_append hclose (by simp [isBlank]) qv)]
    refine ⟨qv + close.length + 1, ?_⟩
    simp [Value.mergedMembers, LoneSurrogate.text_toNat]
  | (k, v) :: m :: ms =>
    intro _ hfit hfuel
    have hfits : v.fitsIn room = true ∧ Value.membersFitIn room (m :: ms) = true := by
      have h := hfit
      rw [Value.membersFitIn, Bool.and_eq_true] at h
      exact h
    obtain ⟨bs, hsep, hbs⟩ := hl.1
    have htext : ((l.itemSep ++ Value.breakAt l level).intercalate
        (Value.renderMembers l level ((k, v) :: m :: ms))).toList =
          (quote l.asciiOnly k ++ l.keySep ++ Value.renderAt l level v).toList ++
            ',' :: (bs ++ ((Value.breakAt l level).toList ++
              ((l.itemSep ++ Value.breakAt l level).intercalate
                (Value.renderMembers l level (m :: ms))).toList)) := by
      rw [Value.renderMembers, Value.renderMembers, String.intercalate_cons_cons,
        ← Value.renderMembers]
      simp [hsep]
    rw [htext, member_toList hks] at hfuel ⊢
    simp only [List.length_cons, List.length_append] at hfuel
    obtain ⟨g, rfl⟩ : ∃ g, fuel = g + 1 := ⟨fuel - 1, by omega⟩
    simp only [List.cons_append, List.append_assoc]
    obtain ⟨more, hmore⟩ := renderMembers_head hks level (l.itemSep ++ Value.breakAt l level) m ms
      (close ++ '}' :: rest)
    obtain ⟨pk, hk⟩ := @readString_escaped lone.allowed p (p + 1) [] l.asciiOnly k.toList
      (':' :: (ks ++ ((Value.renderAt l level v).toList ++ (',' :: (bs ++
        ((Value.breakAt l level).toList ++ ('"' :: more)))))))
    obtain ⟨c, cs, hc, hopen⟩ := renderAt_head l level room v hfits.1
    have hlen : 0 < (Value.renderAt l level v).toList.length := by simp [hc]
    obtain ⟨qv, hqv⟩ := readValue_renderAt hl v room level g (pk + 1 + ks.length)
      (',' :: (bs ++ ((Value.breakAt l level).toList ++ ('"' :: more)))) hfits.1 (by omega)
      (by simp [EndsNumber]; rfl)
    rw [← Cursor.skipBlanks_append hksb (by rw [hc]; exact not_blank_of_head rfl hopen)] at hqv
    have hnext : Cursor.skipBlanks ⟨bs ++ ((Value.breakAt l level).toList ++ ('"' :: more)), qv + 1⟩ =
        ⟨'"' :: more, qv + 1 + (bs ++ (Value.breakAt l level).toList).length⟩ := by
      rw [← List.append_assoc]
      exact Cursor.skipBlanks_append
        (fun b hb => by
          rcases List.mem_append.1 hb with hb | hb
          exacts [hbs b hb, breakAt_blank l level b hb])
        (by simp [isBlank]) (qv + 1)
    obtain ⟨q, hq⟩ := readMembers_renderMembers hl (m :: ms) (by simp) room level g
      (qv + 1 + (bs ++ (Value.breakAt l level).toList).length) close rest
      (Value.setField acc k v.merged) hfits.2 hclose (by omega)
    rw [List.append_assoc, hmore] at hq
    have hkey : lone.text ([].reverse ++ k.toList.map Char.toNat) = k := by
      simp [LoneSurrogate.text_toNat]
    refine ⟨q, ?_⟩
    rw [hmore, readMembers_next hk (Cursor.skipBlanks_of_not_blank (by decide)) hqv
      (Cursor.skipBlanks_of_not_blank (by decide)) hnext, hkey, hq]
    simp [Value.mergedMembers]

end

/-- A written document is read back as the document it was, its objects rebuilt member
by member. -/
theorem readWith_renderAt (hl : l.Readable) (v : Value) (room : Nat)
    (hfit : v.fitsIn room = true) :
    Value.readWith lone room (Value.renderAt l 0 v) = .ok v.merged := by
  obtain ⟨c, cs, hc, hopen⟩ := renderAt_head l 0 room v hfit
  obtain ⟨q, hq⟩ := @readValue_renderAt lone l hl v room 0 (2 * (cs.length + 1) + 2) 0 []
    hfit (by rw [hc]; simp; omega) (by simp [EndsNumber])
  rw [hc, List.append_nil] at hq
  exact readWith_of_value hc (opensValue_not_blank hopen) (opensValue_ne_mark hopen) hq
    (by simp [Cursor.skipBlanks])

end Reading

end Uptime.Json
