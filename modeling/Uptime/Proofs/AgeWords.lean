import Mathlib
import Uptime.Alarm.Rules
import Uptime.Proofs.Rounding
/-! Ages in words never go back. `humanizeSince` tells an age in one of seven wordings
(`Age`), each standing for a duration (`Age.seconds`): none for "a few seconds ago", 60
seconds for "a minute ago", `60 * N` for "N minutes ago", and so on up to days. A count
is at least two and, for minutes and hours, at most 45 and 22 (`Age.InRange`), and each
text names one wording (`Age.text_injective`), so the duration a text stands for is well
defined.

The wording is picked by six tests on the age read in seconds, minutes, hours and days
(`wordingOf`). Each reading grows with the age, since binary64 rounding keeps order, so a
later reading passes a test only if an earlier one did and never picks an earlier
wording (`rank_wordingOf_mono`). With counts in range a later wording stands for more
time (`Age.seconds_lt_of_rank_lt`), and within one wording the counts are roundings of
readings that grow. Hence a later clock shows an age that stands for no less time
(`age_words_never_go_back`). -/

namespace Uptime.Time.Moment

theorem key_le_of_lt_eq_false {a b : Moment} (h : b.lt a = .ok false) :
    b.sameKind a ∧ a.key ≤ b.key := by
  unfold Moment.lt at h
  split_ifs at h with hk
  exact ⟨hk, by simpa using h⟩

end Uptime.Time.Moment

namespace Uptime.Alarm

open Uptime.Time

/-- The wordings of an age. -/
inductive Age where
  | fewSeconds
  | aMinute
  | minutes (n : ℕ)
  | anHour
  | hours (n : ℕ)
  | aDay
  | days (n : ℕ)
deriving DecidableEq, Repr

namespace Age

/-- How a wording is written. -/
def text : Age → String
  | fewSeconds => "a few seconds ago"
  | aMinute => "a minute ago"
  | minutes n => s!"{n} minutes ago"
  | anHour => "an hour ago"
  | hours n => s!"{n} hours ago"
  | aDay => "a day ago"
  | days n => s!"{n} days ago"

/-- The duration a wording stands for, in seconds. -/
def seconds : Age → ℕ
  | fewSeconds => 0
  | aMinute => 60
  | minutes n => 60 * n
  | anHour => 3600
  | hours n => 3600 * n
  | aDay => 86400
  | days n => 86400 * n

/-- Where a wording stands in the order its tests are tried. -/
def rank : Age → ℕ
  | fewSeconds => 0
  | aMinute => 1
  | minutes _ => 2
  | anHour => 3
  | hours _ => 4
  | aDay => 5
  | days _ => 6

/-- The counts a wording may carry: at least two, and at most 45 minutes or 22 hours. -/
def InRange : Age → Prop
  | minutes n => 2 ≤ n ∧ n ≤ 45
  | hours n => 2 ≤ n ∧ n ≤ 22
  | days n => 2 ≤ n
  | fewSeconds | aMinute | anHour | aDay => True

instance (a : Age) : Decidable a.InRange :=
  match a with
  | minutes n => inferInstanceAs (Decidable (2 ≤ n ∧ n ≤ 45))
  | hours n => inferInstanceAs (Decidable (2 ≤ n ∧ n ≤ 22))
  | days n => inferInstanceAs (Decidable (2 ≤ n))
  | fewSeconds | aMinute | anHour | aDay => isTrue trivial

/-- The wording at a place, carrying the count of minutes, hours or days it needs. -/
def atPlace : ℕ → ℕ → ℕ → ℕ → Age
  | 0, _, _, _ => fewSeconds
  | 1, _, _, _ => aMinute
  | 2, m, _, _ => minutes m
  | 3, _, _, _ => anHour
  | 4, _, h, _ => hours h
  | 5, _, _, _ => aDay
  | _ + 6, _, _, d => days d

theorem seconds_lt_of_rank_lt {a b : Age} (ha : a.InRange) (hb : b.InRange)
    (h : a.rank < b.rank) : a.seconds < b.seconds := by
  cases a <;> cases b <;> simp only [InRange, rank, seconds] at ha hb h ⊢ <;> omega

theorem seconds_atPlace_mono {r a b c a' b' c' : ℕ} (ha : a ≤ a') (hb : b ≤ b')
    (hc : c ≤ c') :
    (atPlace r a b c).seconds ≤ (atPlace r a' b' c').seconds := by
  rcases r with _ | _ | _ | _ | _ | _ | r <;> simp only [atPlace, seconds] <;> omega

/-! ### Each text names one wording -/

/-- What a wording says besides its count. -/
def words : Age → String
  | fewSeconds => "a few seconds ago"
  | aMinute => "a minute ago"
  | minutes _ => " minutes ago"
  | anHour => "an hour ago"
  | hours _ => " hours ago"
  | aDay => "a day ago"
  | days _ => " days ago"

def afterCount (s : String) : List Char :=
  s.toList.reverse.takeWhile (fun c => !c.isDigit)

theorem afterCount_count (n : ℕ) (w : String) (hw : ∀ c ∈ w.toList, c.isDigit = false) :
    afterCount (toString n ++ w) = w.toList.reverse := by
  have hdigit : ∀ c ∈ (toString n).toList, c.isDigit := by
    intro c hc
    have hc' : c ∈ Nat.toDigits 10 n := by simpa [Nat.repr] using hc
    exact Nat.isDigit_of_mem_toDigits (by decide) (by decide) hc'
  unfold afterCount
  rw [String.toList_append, List.reverse_append, List.takeWhile_append_of_pos (by simpa using hw)]
  obtain ⟨c, cs, hc⟩ : ∃ c cs, (toString n).toList.reverse = c :: cs :=
    List.exists_cons_of_ne_nil (by simp [Nat.repr, Nat.toDigits_ne_nil])
  have : c.isDigit := hdigit c (List.mem_reverse.1 (hc ▸ List.mem_cons_self))
  rw [hc, List.takeWhile_cons_of_neg (by simp [this]), List.append_nil]

theorem afterCount_text (a : Age) : afterCount a.text = a.words.toList.reverse := by
  cases a with
  | minutes n => exact afterCount_count n " minutes ago" (by simp)
  | hours n => exact afterCount_count n " hours ago" (by simp)
  | days n => exact afterCount_count n " days ago" (by simp)
  | _ => decide +kernel

theorem rank_eq_of_words {a b : Age} (h : a.words = b.words) : a.rank = b.rank := by
  cases a <;> cases b <;> revert h <;> simp only [words, rank] <;> decide

theorem count_inj {n m : ℕ} {w : String} (h : toString n ++ w = toString m ++ w) : n = m := by
  have := List.append_cancel_right
    (by simpa only [String.toList_append] using congrArg String.toList h)
  exact Nat.repr_inj.1 (String.toList_inj.1 this)

theorem text_injective : Function.Injective text := by
  intro a b h
  have hw : a.words = b.words := by
    have := congrArg afterCount h
    rwa [afterCount_text, afterCount_text, List.reverse_inj, String.toList_inj] at this
  have hr := rank_eq_of_words hw
  cases a <;> cases b <;> simp [rank] at hr
  case minutes.minutes n m => exact congrArg minutes (count_inj h)
  case hours.hours n m => exact congrArg hours (count_inj h)
  case days.days n m => exact congrArg days (count_inj h)
  all_goals rfl

end Age

/-! ### The wording of an age -/

/-- The place of the first of six tests that passes; 6 when none does. -/
def firstPassed (b₁ b₂ b₃ b₄ b₅ b₆ : Bool) : ℕ :=
  if b₁ then 0 else if b₂ then 1 else if b₃ then 2 else if b₄ then 3 else if b₅ then 4
  else if b₆ then 5 else 6

theorem firstPassed_mono : ∀ b₁ b₂ b₃ b₄ b₅ b₆ c₁ c₂ c₃ c₄ c₅ c₆ : Bool,
    (c₁ → b₁) → (c₂ → b₂) → (c₃ → b₃) → (c₄ → b₄) → (c₅ → b₅) → (c₆ → b₆) →
    firstPassed b₁ b₂ b₃ b₄ b₅ b₆ ≤ firstPassed c₁ c₂ c₃ c₄ c₅ c₆ := by
  decide

/-- The wording for an age read as `s` seconds, `m` minutes, `h` hours and `d` days, by the
tests of `ageText` in turn. -/
def wordingOf (s m h d : Decimal.Dyadic) : Age :=
  if s.lt 45 then .fewSeconds
  else if s.lt 90 then .aMinute
  else if m.lt 45 then .minutes m.roundEven
  else if m.lt 90 then .anHour
  else if h.lt 22 then .hours h.roundEven
  else if h.lt 36 then .aDay
  else .days d.roundEven

/-- The wording for an age of `s` seconds: minutes, hours and days each divide the reading
before. -/
def ageOfSeconds (s : Decimal.Dyadic) : Age :=
  wordingOf s (s.div 60) ((s.div 60).div 60) (((s.div 60).div 60).div 24)

theorem ageText_eq (micros : ℤ) :
    ageText micros = (ageOfSeconds (Decimal.Dyadic.ofRatio micros.toNat 1000000)).text := by
  unfold ageText ageOfSeconds wordingOf
  dsimp only
  split_ifs <;> rfl

-- a half is rounded to the even count: 2.5 minutes down, 3.5 up
example : ageText 150000000 = "2 minutes ago" ∧ ageText 210000000 = "4 minutes ago" := by
  decide +kernel

section Readings

open Decimal.Dyadic

variable {s m h d s' m' h' d' : Decimal.Dyadic}

theorem rank_wordingOf : (wordingOf s m h d).rank =
    firstPassed (s.lt 45) (s.lt 90) (m.lt 45) (m.lt 90) (h.lt 22) (h.lt 36) := by
  unfold wordingOf firstPassed
  split_ifs <;> rfl

theorem wordingOf_eq_atPlace : wordingOf s m h d =
    Age.atPlace (wordingOf s m h d).rank m.roundEven h.roundEven d.roundEven := by
  unfold wordingOf
  split_ifs <;> rfl

/-- The counts are in range when each reading is at least one and a half where the one
before passed its last test. -/
theorem wordingOf_inRange (hsm : 90 ≤ s.val → 3 / 2 ≤ m.val)
    (hmh : 90 ≤ m.val → 3 / 2 ≤ h.val) (hhd : 36 ≤ h.val → 3 / 2 ≤ d.val) :
    (wordingOf s m h d).InRange := by
  unfold wordingOf
  split_ifs with h₁ h₂ h₃ h₄ h₅ h₆ <;>
    simp only [Age.InRange, lt_iff, Nat.cast_ofNat] at *
  · exact ⟨two_le_roundEven (hsm (le_of_not_gt h₂)), roundEven_le_of_le h₃.le⟩
  · exact ⟨two_le_roundEven (hmh (le_of_not_gt h₄)), roundEven_le_of_le h₅.le⟩
  · exact two_le_roundEven (hhd (le_of_not_gt h₆))

/-- Readings that grow pass no test that the smaller ones failed, so their wording never
comes earlier. -/
theorem rank_wordingOf_mono (hs : s.val ≤ s'.val) (hm : m.val ≤ m'.val)
    (hh : h.val ≤ h'.val) :
    (wordingOf s m h d).rank ≤ (wordingOf s' m' h' d').rank := by
  rw [rank_wordingOf, rank_wordingOf]
  exact firstPassed_mono _ _ _ _ _ _ _ _ _ _ _ _ (lt_of_val_le hs) (lt_of_val_le hs)
    (lt_of_val_le hm) (lt_of_val_le hm) (lt_of_val_le hh) (lt_of_val_le hh)

theorem seconds_wordingOf_mono (hs : s.val ≤ s'.val) (hm : m.val ≤ m'.val)
    (hh : h.val ≤ h'.val) (hd : d.val ≤ d'.val) (hin : (wordingOf s m h d).InRange)
    (hin' : (wordingOf s' m' h' d').InRange) :
    (wordingOf s m h d).seconds ≤ (wordingOf s' m' h' d').seconds := by
  have hr : (wordingOf s m h d).rank ≤ (wordingOf s' m' h' d').rank :=
    rank_wordingOf_mono hs hm hh
  rcases hr.lt_or_eq with hlt | heq
  · exact (Age.seconds_lt_of_rank_lt hin hin' hlt).le
  · -- the same wording: only the counts can differ, each a rounding of a reading that grew
    rw [@wordingOf_eq_atPlace s m h d, @wordingOf_eq_atPlace s' m' h' d', heq]
    exact Age.seconds_atPlace_mono (roundEven_mono hm) (roundEven_mono hh) (roundEven_mono hd)

end Readings

open Decimal.Dyadic in
theorem ageOfSeconds_inRange (s : Decimal.Dyadic) : (ageOfSeconds s).InRange :=
  wordingOf_inRange (fun h => three_halves_le_div (by norm_num) (by push_cast; linarith))
    (fun h => three_halves_le_div (by norm_num) (by push_cast; linarith))
    (fun h => three_halves_le_div (by norm_num) (by push_cast; linarith))

open Decimal.Dyadic in
theorem seconds_ageOfSeconds_mono {s s' : Decimal.Dyadic} (h : s.val ≤ s'.val) :
    (ageOfSeconds s).seconds ≤ (ageOfSeconds s').seconds := by
  have hm := div_mono h 60
  have hh := div_mono hm 60
  exact seconds_wordingOf_mono h hm hh (div_mono hh 24) (ageOfSeconds_inRange s)
    (ageOfSeconds_inRange s')

theorem humanizeSince_of_sameKind {moment now : Moment} (h : moment.sameKind now) :
    humanizeSince moment now =
      .ok (ageOfSeconds (Decimal.Dyadic.ofRatio (now.key - moment.key).toNat 1000000)).text := by
  rw [humanizeSince, Moment.diff, if_pos h, ← ageText_eq]
  rfl

/-- **Ages in words never go back.** For a moment and two clock readings, all with offsets
and the second not before the first, the age of the moment is told at both readings in
words, and whatever wordings these texts are read as, the second stands for no less time
than the first; every count is at least two, and at most 45 for minutes and 22 for
hours. -/
theorem age_words_never_go_back (moment now₁ now₂ : Moment) (hmoment : moment.offset.isSome)
    (hnow : now₁.offset.isSome) (hle : now₂.lt now₁ = .ok false) :
    (∃ a₁ a₂ : Age, humanizeSince moment now₁ = .ok a₁.text ∧
      humanizeSince moment now₂ = .ok a₂.text) ∧
    ∀ a₁ a₂ : Age, humanizeSince moment now₁ = .ok a₁.text →
      humanizeSince moment now₂ = .ok a₂.text →
      a₁.seconds ≤ a₂.seconds ∧ a₁.InRange ∧ a₂.InRange := by
  obtain ⟨hkind, hkey⟩ := Moment.key_le_of_lt_eq_false hle
  have h₁ : moment.sameKind now₁ := by simp [Moment.sameKind, hmoment, hnow]
  have h₂ : moment.sameKind now₂ := by simp_all [Moment.sameKind]
  rw [humanizeSince_of_sameKind h₁, humanizeSince_of_sameKind h₂]
  refine ⟨⟨_, _, rfl, rfl⟩, fun a₁ a₂ e₁ e₂ => ?_⟩
  obtain rfl := Age.text_injective (Except.ok.inj e₁)
  obtain rfl := Age.text_injective (Except.ok.inj e₂)
  refine ⟨seconds_ageOfSeconds_mono (Decimal.Dyadic.ofRatio_mono ?_), ageOfSeconds_inRange _,
    ageOfSeconds_inRange _⟩
  gcongr
  omega

/-- Seen from 150 seconds after midnight UTC and from a clock an hour ahead of UTC a day
later. -/
theorem age_words_from_two_minutes_to_a_day :
    let moment : Moment := ⟨0, some 0⟩
    let now₁ : Moment := ⟨150000000, some 0⟩
    let now₂ : Moment := ⟨93600000000, some 3600000000⟩
    moment.offset.isSome ∧ now₁.offset.isSome ∧ now₂.lt now₁ = .ok false ∧
      (∃ a₁ a₂ : Age, humanizeSince moment now₁ = .ok a₁.text ∧
        humanizeSince moment now₂ = .ok a₂.text) ∧
      ∀ a₁ a₂ : Age, humanizeSince moment now₁ = .ok a₁.text →
        humanizeSince moment now₂ = .ok a₂.text →
        a₁.seconds ≤ a₂.seconds ∧ a₁.InRange ∧ a₂.InRange :=
  ⟨rfl, rfl, rfl, age_words_never_go_back _ _ _ rfl rfl rfl⟩

end Uptime.Alarm
