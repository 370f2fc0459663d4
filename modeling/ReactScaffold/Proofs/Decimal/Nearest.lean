import ReactScaffold.Decimal.Binary64
import ReactScaffold.Proofs.Decimal.Quotient

/-!
# Nearest binary numbers

Reading a decimal gives a canonical binary number, and it depends on the value of the decimal
alone. A decimal that is close enough to a canonical number is read as that number
(`ofQuotient_eq_of_near`).
-/

namespace ReactScaffold.Decimal

namespace Binary64

/-- A finite number in its one form: the significand is full unless the exponent is the least. -/
def Canonical : Binary64 → Prop
  | .finite _ significand exponent =>
    significand < 2 ^ 53 ∧ minExponent ≤ exponent ∧ exponent ≤ maxExponent ∧
      (2 ^ 52 ≤ significand ∨ exponent = minExponent)
  | _ => True

theorem canonical_zero (negative : Bool) : (finite negative 0 minExponent).Canonical := by
  simp [Canonical, minExponent, maxExponent]

/-- The binary number nearest to a positive quotient, by its value. -/
theorem ofQuotient_of_positive (negative : Bool) {x : Quotient} (h : x.Positive) :
    let exponent := max (Int.log 2 x.value - 52) minExponent
    let significand := (x.scale 2 (-exponent)).round
    ofQuotient negative x =
      if significand = 2 ^ 53 then
        if maxExponent < exponent + 1 then .infinite negative
        else .finite negative (2 ^ 52) (exponent + 1)
      else if maxExponent < exponent then .infinite negative
      else .finite negative significand exponent := by
  intro exponent significand
  have hlog : max (x.log2 - 52) minExponent = exponent := by rw [Quotient.log2_eq h]
  unfold ofQuotient
  rw [if_neg h.num_pos.ne', hlog]
  simp only [Nat.pow_eq]
  split_ifs <;> rfl

theorem ofQuotient_congr (negative : Bool) {x y : Quotient} (hx : x.Positive) (hy : y.Positive)
    (h : x.value = y.value) : ofQuotient negative x = ofQuotient negative y := by
  have hround (k : Int) : (x.scale 2 k).round = (y.scale 2 k).round :=
    Quotient.round_congr (hx.scale two_pos k) (hy.scale two_pos k) (by
      rw [Quotient.value_scale x two_pos, Quotient.value_scale y two_pos, h])
  rw [ofQuotient_of_positive negative hx, ofQuotient_of_positive negative hy, h]
  simp only [hround]

/-- The significand of a rounded quotient before it is brought into range. -/
theorem significand_bounds {x : Quotient} (h : x.Positive) {e : Int}
    (he : e = max (Int.log 2 x.value - 52) minExponent) :
    (x.scale 2 (-e)).round ≤ 2 ^ 53 ∧
      (2 ^ 52 ≤ (x.scale 2 (-e)).round ∨ e = minExponent) := by
  have hpos := h.scale two_pos (-e)
  have hle := Int.zpow_log_le_self one_lt_two h.value_pos
  have hlt := Int.lt_zpow_succ_log_self one_lt_two x.value
  have hvalue : (x.scale 2 (-e)).value * 2 ^ e = x.value := by
    rw [Quotient.value_scale x two_pos, Nat.cast_ofNat, mul_assoc, ← zpow_add₀ two_ne_zero,
      neg_add_cancel, zpow_zero, mul_one]
  have hpow : (0 : ℚ) < 2 ^ e := zpow_pos two_pos e
  rw [Nat.cast_ofNat] at hle hlt
  constructor
  · refine Quotient.round_le hpos (le_of_mul_le_mul_right ?_ hpow)
    rw [hvalue]
    calc x.value ≤ 2 ^ (Int.log 2 x.value + 1) := hlt.le
      _ ≤ 2 ^ ((53 : Nat) + e) := zpow_le_zpow_right₀ one_le_two (by push_cast; omega)
      _ = ((2 ^ 53 : Nat) : ℚ) * 2 ^ e := by
        rw [zpow_add₀ two_ne_zero, zpow_natCast, Nat.cast_pow, Nat.cast_ofNat]
  · by_cases hmin : e = minExponent
    · exact .inr hmin
    · refine .inl (Quotient.le_round hpos (le_of_mul_le_mul_right ?_ hpow))
      rw [hvalue]
      calc ((2 ^ 52 : Nat) : ℚ) * 2 ^ e = 2 ^ ((52 : Nat) + e) := by
            rw [zpow_add₀ two_ne_zero, zpow_natCast, Nat.cast_pow, Nat.cast_ofNat]
        _ = 2 ^ Int.log 2 x.value := by
            congr 1
            push_cast
            omega
        _ ≤ x.value := hle

theorem ofQuotient_canonical (negative : Bool) {x : Quotient} (hden : 0 < x.den) :
    (ofQuotient negative x).Canonical := by
  by_cases hnum : x.num = 0
  · unfold ofQuotient
    rw [if_pos hnum]
    exact canonical_zero negative
  · have h : x.Positive := ⟨Nat.pos_of_ne_zero hnum, hden⟩
    rw [ofQuotient_of_positive negative h]
    generalize he : max (Int.log 2 x.value - 52) minExponent = e
    obtain ⟨hle, hfull⟩ := significand_bounds h he.symm
    have hmin : minExponent ≤ e := he ▸ le_max_right _ _
    split_ifs with hcarry hover hover
    · trivial
    · exact ⟨by norm_num, by omega, by omega, .inl le_rfl⟩
    · trivial
    · exact ⟨by omega, hmin, by omega, hfull⟩

@[simp] theorem ofDecimal_zero (negative : Bool) (scale : Int) :
    ofDecimal negative 0 scale = finite negative 0 minExponent := by
  unfold ofDecimal
  rw [if_pos rfl]

theorem ofDecimal_canonical (negative : Bool) (digits : Nat) (scale : Int) :
    (ofDecimal negative digits scale).Canonical := by
  unfold ofDecimal
  dsimp only
  split_ifs with hzero
  · exact canonical_zero negative
  · trivial
  · exact canonical_zero negative
  · have h := (Quotient.positive_ofNat (Nat.pos_of_ne_zero hzero)).scale
      (show 0 < 10 by norm_num) scale
    exact ofQuotient_canonical negative h.den_pos

/-- A quotient closer to a multiple of a power of two than half the power is rounded to it. -/
theorem round_scale_of_near {x : Quotient} (h : x.Positive) {n : Nat} {e : Int}
    (hnear : |x.value - n * 2 ^ e| < 2 ^ e / 2) : (x.scale 2 (-e)).round = n := by
  have hpow : (0 : ℚ) < 2 ^ e := zpow_pos two_pos e
  have hscaled : (x.scale 2 (-e)).value = x.value / 2 ^ e := by
    rw [Quotient.value_scale x two_pos, Nat.cast_ofNat, zpow_neg, div_eq_mul_inv]
  refine Quotient.round_eq_of_abs_sub_lt (h.scale two_pos _) ?_
  rw [abs_lt] at hnear
  obtain ⟨hlow, hhigh⟩ := hnear
  rw [hscaled, abs_lt]
  constructor
  · rw [lt_sub_iff_add_lt, lt_div_iff₀ hpow]
    linarith
  · rw [sub_lt_iff_lt_add, div_lt_iff₀ hpow]
    linarith

section Near

variable {significand : Nat} {exponent : Int} {x : Quotient}

/-- A quotient near a canonical number lies in the binade of the number or in the one below. -/
theorem log_lt_of_near (hc : (finite false significand exponent).Canonical) (h : x.Positive)
    (hnear : |x.value - significand * 2 ^ exponent| < significand * 2 ^ exponent / 2 ^ 54) :
    Int.log 2 x.value < exponent + 53 := by
  have hpow : (0 : ℚ) < 2 ^ exponent := zpow_pos two_pos exponent
  have hlt : (significand : ℚ) + 1 ≤ 2 ^ 53 := by exact_mod_cast hc.1
  obtain ⟨-, hhigh⟩ := abs_lt.1 hnear
  have habove : x.value < 2 ^ (exponent + 53) := by
    rw [zpow_add₀ two_ne_zero]
    norm_num at hlt ⊢
    nlinarith
  exact (Int.lt_zpow_iff_log_lt one_lt_two h.value_pos).1 (by exact_mod_cast habove)

/-- A number that has a near quotient in the binade below is the least of its own. -/
theorem significand_eq_of_near_below (hfull : 2 ^ 52 ≤ significand)
    (hnear : |x.value - significand * 2 ^ exponent| < significand * 2 ^ exponent / 2 ^ 54)
    (hlow : x.value < 2 ^ (exponent + 52)) : significand = 2 ^ 52 := by
  have hpow : (0 : ℚ) < 2 ^ exponent := zpow_pos two_pos exponent
  obtain ⟨hnear_low, -⟩ := abs_lt.1 hnear
  by_contra hgreater
  have hmore : (2 ^ 52 : ℚ) + 1 ≤ significand := by
    exact_mod_cast lt_of_le_of_ne hfull (Ne.symm hgreater)
  have hmul := mul_le_mul_of_nonneg_right hmore hpow.le
  rw [zpow_add₀ two_ne_zero] at hlow
  norm_num at hlow hmul
  linarith

/-- A quotient near a canonical number, in the binade of the number. -/
theorem ofQuotient_of_near (hc : (finite false significand exponent).Canonical) (h : x.Positive)
    (hnear : |x.value - significand * 2 ^ exponent| < significand * 2 ^ exponent / 2 ^ 54)
    (he : max (Int.log 2 x.value - 52) minExponent = exponent) :
    ofQuotient false x = finite false significand exponent := by
  obtain ⟨hlt, -, hmax, -⟩ := hc
  have hpow : (0 : ℚ) < 2 ^ exponent := zpow_pos two_pos exponent
  have hltq : (significand : ℚ) + 1 ≤ 2 ^ 53 := by exact_mod_cast hlt
  have hgap : (significand : ℚ) * 2 ^ exponent / 2 ^ 54 < 2 ^ exponent / 2 := by
    rw [div_lt_div_iff₀ (by norm_num) two_pos]
    nlinarith
  rw [ofQuotient_of_positive false h, he]
  simp only [round_scale_of_near h (hnear.trans hgap)]
  rw [if_neg hlt.ne, if_neg (not_lt.2 hmax)]

/-- A quotient near the least number of a binade, in the binade below. -/
theorem ofQuotient_of_near_below (hc : (finite false (2 ^ 52) exponent).Canonical)
    (h : x.Positive) (hmin : minExponent < exponent)
    (hnear : |x.value - (2 ^ 52 : Nat) * 2 ^ exponent| < (2 ^ 52 : Nat) * 2 ^ exponent / 2 ^ 54)
    (hlow : x.value < 2 ^ (exponent + 52)) :
    ofQuotient false x = finite false (2 ^ 52) exponent := by
  obtain ⟨-, -, hmax, -⟩ := hc
  have hpow : (0 : ℚ) < 2 ^ exponent := zpow_pos two_pos exponent
  have hpred : (2 : ℚ) ^ (exponent - 1) = 2 ^ exponent / 2 := by
    rw [zpow_sub₀ two_ne_zero, zpow_one]
  have hlog : Int.log 2 x.value = exponent + 51 := by
    obtain ⟨hnear_low, -⟩ := abs_lt.1 hnear
    refine Quotient.log_eq_of_zpow_le_of_lt one_lt_two h.value_pos ?_ ?_
    · rw [Nat.cast_ofNat, zpow_add₀ two_ne_zero]
      norm_num at hnear_low ⊢
      linarith
    · rw [Nat.cast_ofNat, add_assoc]
      exact hlow
  have he : max (Int.log 2 x.value - 52) minExponent = exponent - 1 := by omega
  have hround : (x.scale 2 (-(exponent - 1))).round = 2 ^ 53 := by
    have hcentre : ((2 ^ 53 : Nat) : ℚ) * 2 ^ (exponent - 1) = (2 ^ 52 : Nat) * 2 ^ exponent := by
      rw [hpred]
      push_cast
      ring
    refine round_scale_of_near h ?_
    rw [hcentre, hpred]
    refine lt_of_lt_of_eq hnear ?_
    push_cast
    ring
  rw [ofQuotient_of_positive false h, he]
  simp only [hround, if_true]
  rw [sub_add_cancel, if_neg (not_lt.2 hmax)]

/-- A quotient closer to a canonical number than half the gap beside it is rounded to that
number. A full significand has the smaller gap below it, which is why `2 ^ 54` divides. -/
theorem ofQuotient_eq_of_near (hc : (finite false significand exponent).Canonical)
    (h : x.Positive)
    (hnear : |x.value - significand * 2 ^ exponent| < significand * 2 ^ exponent / 2 ^ 54) :
    ofQuotient false x = finite false significand exponent := by
  have hlog := log_lt_of_near hc h hnear
  have hmin : minExponent ≤ exponent := hc.2.1
  by_cases hbelow : exponent = minExponent ∨ (2 : ℚ) ^ (exponent + 52) ≤ x.value
  · refine ofQuotient_of_near hc h hnear ?_
    rcases hbelow with rfl | hle
    · omega
    · have := (Int.zpow_le_iff_le_log one_lt_two h.value_pos).1 (by exact_mod_cast hle)
      omega
  · push Not at hbelow
    obtain ⟨hne, hlow⟩ := hbelow
    obtain rfl := significand_eq_of_near_below (hc.2.2.2.resolve_right hne) hnear hlow
    exact ofQuotient_of_near_below hc h (lt_of_le_of_ne hmin (Ne.symm hne)) hnear hlow

end Near

end Binary64

end ReactScaffold.Decimal
