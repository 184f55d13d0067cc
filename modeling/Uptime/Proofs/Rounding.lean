import Mathlib
import Uptime.Decimal.Dyadic
/-! Rounding to binary64 keeps order. A value `m * 2^e` stands for a rational number
(`Dyadic.val`). `ofRatio p q` scales `p / q` by the power of two that puts it in
`[2^52, 2^53)` and rounds it there to a whole mantissa (`ofRatio_normal`); so a larger
quotient never rounds to a smaller value (`ofRatio_mono`): with the same exponent the
mantissas keep their order, and a larger exponent starts above every mantissa of a
smaller one. Division by a whole number, comparison with one and rounding to one follow
(`div_mono`, `lt_iff`, `roundEven_mono`), as does the one exact value the ages of alarms
need, one and a half. -/

namespace Uptime.Decimal

/-! ### Rounding a quotient to a whole number -/

theorem le_roundDivEven (a b : ℕ) : a / b ≤ roundDivEven a b := by
  unfold roundDivEven; split <;> omega

theorem roundDivEven_le (a b : ℕ) : roundDivEven a b ≤ a / b + 1 := by
  unfold roundDivEven; split <;> omega

@[simp] theorem roundDivEven_one (n : ℕ) : roundDivEven n 1 = n := by
  simp [roundDivEven, Nat.mod_one]

theorem div_le_div_of_mul_le {a b a' b' : ℕ} (hb : 0 < b) (hb' : 0 < b')
    (h : a * b' ≤ a' * b) : a / b ≤ a' / b' := by
  rw [Nat.le_div_iff_mul_le hb']
  refine Nat.le_of_mul_le_mul_right ?_ hb
  calc a / b * b' * b = b * (a / b) * b' := by ring
    _ ≤ a * b' := Nat.mul_le_mul_right _ (Nat.mul_div_le a b)
    _ ≤ a' * b := h

theorem roundDivEven_mono_of_rem {k r b r' b' : ℕ} (hr : r < b) (hr' : r' < b')
    (h : r * b' ≤ r' * b) : roundDivEven (b * k + r) b ≤ roundDivEven (b' * k + r') b' := by
  unfold roundDivEven
  rw [Nat.mul_add_mod, Nat.mul_add_div (by omega), Nat.mod_eq_of_lt hr, Nat.div_eq_of_lt hr,
    Nat.mul_add_mod, Nat.mul_add_div (by omega), Nat.mod_eq_of_lt hr', Nat.div_eq_of_lt hr']
  split_ifs with hup hup' <;> try omega
  exfalso
  rcases hup with hup | ⟨hup, hodd⟩
  · have : b' < 2 * r' := by nlinarith
    omega
  · have : b' ≤ 2 * r' := by nlinarith
    omega

theorem roundDivEven_mono {a b a' b' : ℕ} (hb : 0 < b) (hb' : 0 < b')
    (h : (a : ℚ) / b ≤ a' / b') : roundDivEven a b ≤ roundDivEven a' b' := by
  have hcross : a * b' ≤ a' * b := by
    rw [div_le_div_iff₀ (by exact_mod_cast hb) (by exact_mod_cast hb')] at h
    exact_mod_cast h
  rcases Nat.lt_or_eq_of_le (div_le_div_of_mul_le hb hb' hcross) with hlt | heq
  · calc roundDivEven a b ≤ a / b + 1 := roundDivEven_le a b
      _ ≤ a' / b' := hlt
      _ ≤ roundDivEven a' b' := le_roundDivEven a' b'
  · -- the same whole part: the remainders keep the order of the quotients
    have ha := Nat.div_add_mod a b
    have ha' := Nat.div_add_mod a' b'
    rw [heq] at ha
    have hrem : a % b * b' ≤ a' % b' * b := by
      nlinarith [congrArg (· * b') ha, congrArg (· * b) ha']
    rw [← ha', ← ha]
    exact roundDivEven_mono_of_rem (Nat.mod_lt a hb) (Nat.mod_lt a' hb') hrem

theorem roundDivEven_le_of_le {a b n : ℕ} (hb : 0 < b) (h : (a : ℚ) / b ≤ n) :
    roundDivEven a b ≤ n := by
  have hn : (a : ℚ) / b ≤ (n : ℕ) / ((1 : ℕ) : ℚ) := by simpa using h
  simpa using roundDivEven_mono hb one_pos hn

theorem le_roundDivEven_of_le {a b n : ℕ} (hb : 0 < b) (h : (n : ℚ) ≤ a / b) :
    n ≤ roundDivEven a b := by
  have hn : ((n : ℕ) : ℚ) / ((1 : ℕ) : ℚ) ≤ a / b := by simpa using h
  simpa using roundDivEven_mono one_pos hb hn

namespace Dyadic

/-! ### Values and quotients -/

def val (x : Dyadic) : ℚ := x.m * 2 ^ x.e

theorem val_nonneg (x : Dyadic) : 0 ≤ x.val := by
  unfold val; positivity

theorem cast_pow_toNat {e : ℤ} (he : 0 ≤ e) : ((Nat.pow 2 e.toNat : ℕ) : ℚ) = 2 ^ e := by
  rw [Nat.pow_eq, Nat.cast_pow, Nat.cast_ofNat, ← zpow_natCast, Int.toNat_of_nonneg he]

theorem cast_pow_neg_toNat {e : ℤ} (he : e < 0) :
    ((Nat.pow 2 (-e).toNat : ℕ) : ℚ) = (2 ^ e)⁻¹ := by
  rw [Nat.pow_eq, Nat.cast_pow, Nat.cast_ofNat, ← zpow_natCast, Int.toNat_of_nonneg (by omega),
    zpow_neg]

theorem scaled_pos (p : ℕ) {q : ℕ} (hq : 0 < q) (e : ℤ) : 0 < (scaled p q e).2 := by
  unfold scaled; split <;> simp [Nat.pow_eq, hq]

theorem scaled_ratio (p q : ℕ) (e : ℤ) :
    ((scaled p q e).1 : ℚ) / (scaled p q e).2 = p / q / 2 ^ e := by
  unfold scaled
  split_ifs with he
  · rw [Nat.cast_mul, cast_pow_toNat he, div_div]
  · rw [Nat.cast_mul, cast_pow_neg_toNat (by omega)]
    field_simp

/-- A quotient of positive whole numbers lies within a factor of two either way of
`2^(log2 p - log2 q)`. -/
theorem ratio_bounds {p q : ℕ} (hp : 0 < p) (hq : 0 < q) :
    (2 : ℚ) ^ ((p.log2 : ℤ) - q.log2 - 1) < p / q ∧
      (p : ℚ) / q < 2 ^ ((p.log2 : ℤ) - q.log2 + 1) := by
  have hp₁ : (2 : ℚ) ^ p.log2 ≤ p := by exact_mod_cast Nat.log2_self_le hp.ne'
  have hp₂ : (p : ℚ) < 2 ^ (p.log2 + 1) := by exact_mod_cast Nat.lt_log2_self
  have hq₁ : (2 : ℚ) ^ q.log2 ≤ q := by exact_mod_cast Nat.log2_self_le hq.ne'
  have hq₂ : (q : ℚ) < 2 ^ (q.log2 + 1) := by exact_mod_cast Nat.lt_log2_self
  have hq₀ : (0 : ℚ) < q := by exact_mod_cast hq
  constructor
  · calc (2 : ℚ) ^ ((p.log2 : ℤ) - q.log2 - 1) = 2 ^ p.log2 / 2 ^ (q.log2 + 1) := by
          rw [sub_sub, zpow_sub₀ two_ne_zero]; norm_cast
      _ ≤ p / 2 ^ (q.log2 + 1) := by gcongr
      _ < p / q := by gcongr
  · calc (p : ℚ) / q < 2 ^ (p.log2 + 1) / 2 ^ q.log2 := by gcongr
      _ = 2 ^ ((p.log2 : ℤ) - q.log2 + 1) := by
          rw [sub_add_eq_add_sub, zpow_sub₀ two_ne_zero]; norm_cast

/-! ### Rounding a quotient to binary64 -/

theorem val_carry (m : ℕ) (e : ℤ) :
    (if m = Nat.pow 2 53 then (⟨Nat.pow 2 52, e + 1⟩ : Dyadic) else ⟨m, e⟩).val =
      m * 2 ^ e := by
  split_ifs with h
  · rw [h, val, zpow_add_one₀ two_ne_zero]; simp [Nat.pow_eq]; ring
  · rfl

/-- The normal form of a rounded quotient: scaled by `2^e` the quotient lies in
`[2^52, 2^53)`, and the value is that scaled quotient rounded to a whole number, times
`2^e`. -/
theorem ofRatio_normal {p q : ℕ} (hp : 0 < p) (hq : 0 < q) :
    ∃ e : ℤ, 2 ^ 52 ≤ (p : ℚ) / q / 2 ^ e ∧ (p : ℚ) / q / 2 ^ e < 2 ^ 53 ∧
      (ofRatio p q).val = roundDivEven (scaled p q e).1 (scaled p q e).2 * 2 ^ e := by
  obtain ⟨hlo, hhi⟩ := ratio_bounds hp hq
  unfold ofRatio
  rw [if_neg (by omega)]
  dsimp only
  generalize he₀ : (Nat.log2 p : ℤ) - Nat.log2 q - 52 = e₀
  -- scaled by `2^e₀` the quotient lies in `(2^51, 2^53)`
  have h₁ : (2 : ℚ) ^ 51 < p / q / 2 ^ e₀ := by
    rw [lt_div_iff₀ (by positivity), ← zpow_natCast, ← zpow_add₀ two_ne_zero,
      show ((51 : ℕ) : ℤ) + e₀ = p.log2 - q.log2 - 1 by omega]
    exact hlo
  have h₂ : (p : ℚ) / q / 2 ^ e₀ < 2 ^ 53 := by
    rw [div_lt_iff₀ (by positivity), ← zpow_natCast, ← zpow_add₀ two_ne_zero,
      show ((53 : ℕ) : ℤ) + e₀ = p.log2 - q.log2 + 1 by omega]
    exact hhi
  have hsmall : (scaled p q e₀).1 < (scaled p q e₀).2 * Nat.pow 2 52 ↔
      (p : ℚ) / q / 2 ^ e₀ < 2 ^ 52 := by
    rw [← scaled_ratio, div_lt_iff₀ (by exact_mod_cast scaled_pos p hq e₀), Nat.pow_eq,
      mul_comm]
    norm_cast
  by_cases hs : (scaled p q e₀).1 < (scaled p q e₀).2 * Nat.pow 2 52
  · -- below `2^52`: one exponent lower doubles it into `[2^52, 2^53)`
    have hs' := hsmall.1 hs
    have hdouble : (p : ℚ) / q / 2 ^ (e₀ - 1) = 2 * (p / q / 2 ^ e₀) := by
      rw [zpow_sub_one₀ two_ne_zero]; field_simp
    rw [if_pos hs]
    exact ⟨e₀ - 1, by rw [hdouble]; linarith, by rw [hdouble]; linarith, val_carry _ _⟩
  · rw [if_neg hs]
    exact ⟨e₀, le_of_not_gt (mt hsmall.2 hs), h₂, val_carry _ _⟩

theorem top_le_bottom_of_lt {e e' : ℤ} (h : e < e') :
    (2 : ℚ) ^ 53 * 2 ^ e ≤ 2 ^ 52 * 2 ^ e' := by
  calc (2 : ℚ) ^ 53 * 2 ^ e = 2 ^ 52 * 2 ^ (e + 1) := by rw [zpow_add_one₀ two_ne_zero]; ring
    _ ≤ 2 ^ 52 * 2 ^ e' := by
      gcongr
      · norm_num
      · omega

theorem val_ofRatio_of_zero {p q : ℕ} (h : p = 0 ∨ q = 0) : (ofRatio p q).val = 0 := by
  simp [ofRatio, h, val]

theorem ofRatio_mono {p q p' q' : ℕ} (h : (p : ℚ) / q ≤ p' / q') :
    (ofRatio p q).val ≤ (ofRatio p' q').val := by
  rcases Nat.eq_zero_or_pos p with hp | hp
  · rw [val_ofRatio_of_zero (.inl hp)]; exact val_nonneg _
  rcases Nat.eq_zero_or_pos q with hq | hq
  · rw [val_ofRatio_of_zero (.inr hq)]; exact val_nonneg _
  have hpos : (0 : ℚ) < p' / q' := lt_of_lt_of_le (by positivity) h
  have hp' : 0 < p' := Nat.pos_of_ne_zero fun h0 => by simp [h0] at hpos
  have hq' : 0 < q' := Nat.pos_of_ne_zero fun h0 => by simp [h0] at hpos
  obtain ⟨e, hlo, hhi, hv⟩ := ofRatio_normal hp hq
  obtain ⟨e', hlo', hhi', hv'⟩ := ofRatio_normal hp' hq'
  have hb := scaled_pos p hq e
  have hb' := scaled_pos p' hq' e'
  have hee : e ≤ e' := by
    by_contra hlt
    have : (p' : ℚ) / q' < p / q := calc
      (p' : ℚ) / q' < 2 ^ 53 * 2 ^ e' := by rwa [← div_lt_iff₀ (by positivity)]
      _ ≤ 2 ^ 52 * 2 ^ e := top_le_bottom_of_lt (by omega)
      _ ≤ p / q := by rwa [← le_div_iff₀ (by positivity)]
    linarith
  rw [hv, hv']
  generalize hR : roundDivEven (scaled p q e).1 (scaled p q e).2 = R
  generalize hR' : roundDivEven (scaled p' q' e').1 (scaled p' q' e').2 = R'
  rcases hee.lt_or_eq with hlt | rfl
  · -- a larger exponent: the mantissa is at most `2^53` below and at least `2^52` above
    have hm : R ≤ 2 ^ 53 :=
      hR ▸ roundDivEven_le_of_le hb (by rw [scaled_ratio]; exact_mod_cast hhi.le)
    have hm' : 2 ^ 52 ≤ R' :=
      hR' ▸ le_roundDivEven_of_le hb' (by rw [scaled_ratio]; exact_mod_cast hlo')
    calc (R : ℚ) * 2 ^ e ≤ 2 ^ 53 * 2 ^ e := by gcongr; exact_mod_cast hm
      _ ≤ 2 ^ 52 * 2 ^ e' := top_le_bottom_of_lt hlt
      _ ≤ R' * 2 ^ e' := by gcongr; exact_mod_cast hm'
  · have hm : R ≤ R' :=
      hR ▸ hR' ▸ roundDivEven_mono hb hb' (by rw [scaled_ratio, scaled_ratio]; gcongr)
    gcongr

/-! ### Division, comparison and whole numbers -/

theorem div_eq_ofRatio (x : Dyadic) (d : ℕ) :
    ∃ p q : ℕ, x.div d = ofRatio p q ∧ (p : ℚ) / q = x.val / d := by
  unfold div val
  split_ifs with he
  · exact ⟨_, _, rfl, by rw [Nat.cast_mul, cast_pow_toNat he]⟩
  · refine ⟨_, _, rfl, ?_⟩
    rw [Nat.cast_mul, cast_pow_neg_toNat (by omega), div_mul_eq_div_div, div_inv_eq_mul,
      div_mul_eq_mul_div]

theorem div_mono {x y : Dyadic} (h : x.val ≤ y.val) (d : ℕ) :
    (x.div d).val ≤ (y.div d).val := by
  obtain ⟨p, q, hx, hpq⟩ := div_eq_ofRatio x d
  obtain ⟨p', q', hy, hpq'⟩ := div_eq_ofRatio y d
  rw [hx, hy]
  exact ofRatio_mono (by rw [hpq, hpq']; gcongr)

theorem lt_iff (x : Dyadic) (n : ℕ) : x.lt n = true ↔ x.val < n := by
  unfold lt val
  split_ifs with he
  · rw [decide_eq_true_iff, ← cast_pow_toNat he]
    exact_mod_cast Iff.rfl
  · rw [decide_eq_true_iff, ← inv_inv ((2 : ℚ) ^ x.e), ← cast_pow_neg_toNat (by omega),
      ← div_eq_mul_inv, div_lt_iff₀ (by simp [Nat.pow_eq])]
    exact_mod_cast Iff.rfl

theorem lt_of_val_le {x y : Dyadic} {n : ℕ} (hxy : x.val ≤ y.val) : y.lt n → x.lt n := by
  simp only [lt_iff]
  exact hxy.trans_lt

theorem roundEven_eq (x : Dyadic) :
    ∃ a b : ℕ, 0 < b ∧ (a : ℚ) / b = x.val ∧ x.roundEven = roundDivEven a b := by
  unfold roundEven val
  split_ifs with he
  · exact ⟨_, 1, one_pos, by rw [Nat.cast_one, div_one, Nat.cast_mul, cast_pow_toNat he],
      (roundDivEven_one _).symm⟩
  · exact ⟨x.m, _, by simp [Nat.pow_eq],
      by rw [cast_pow_neg_toNat (by omega), div_inv_eq_mul], rfl⟩

theorem roundEven_mono {x y : Dyadic} (h : x.val ≤ y.val) : x.roundEven ≤ y.roundEven := by
  obtain ⟨a, b, hb, hab, hx⟩ := roundEven_eq x
  obtain ⟨a', b', hb', hab', hy⟩ := roundEven_eq y
  rw [hx, hy]
  exact roundDivEven_mono hb hb' (hab ▸ hab' ▸ h)

theorem roundEven_le_of_le {x : Dyadic} {n : ℕ} (h : x.val ≤ n) : x.roundEven ≤ n := by
  obtain ⟨a, b, hb, hab, hx⟩ := roundEven_eq x
  exact hx ▸ roundDivEven_le_of_le hb (hab ▸ h)

theorem two_le_roundEven {x : Dyadic} (h : 3 / 2 ≤ x.val) : 2 ≤ x.roundEven := by
  obtain ⟨a, b, hb, hab, hx⟩ := roundEven_eq x
  have h32 : roundDivEven 3 2 = 2 := by decide
  exact h32 ▸ hx ▸ roundDivEven_mono two_pos hb (by rw [hab]; exact_mod_cast h)

theorem val_ofRatio_three_halves : (ofRatio 3 2).val = 3 / 2 := by
  rw [show ofRatio 3 2 = ⟨3 * Nat.pow 2 51, -52⟩ by decide, val]
  norm_num [Nat.pow_eq]

theorem three_halves_le_div {x : Dyadic} {d : ℕ} (hd : 0 < d) (h : 3 / 2 * (d : ℚ) ≤ x.val) :
    3 / 2 ≤ (x.div d).val := by
  obtain ⟨p, q, hx, hpq⟩ := div_eq_ofRatio x d
  rw [hx, ← val_ofRatio_three_halves]
  refine ofRatio_mono ?_
  rw [hpq, le_div_iff₀ (by exact_mod_cast hd)]
  push_cast
  linarith

end Dyadic

end Uptime.Decimal
