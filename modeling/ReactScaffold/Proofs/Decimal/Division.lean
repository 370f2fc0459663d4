import ReactScaffold.Decimal.Duration
import ReactScaffold.Proofs.Decimal.Nearest
import ReactScaffold.Proofs.Decimal.ReadBack

/-!
# Whole quotients of binary numbers

How often a whole number goes into a binary number is found by two operations that round: what is
left without the remainder is rounded, and so is its quotient. Each is off by at most half a unit in
the last place. As long as the two errors together stay below a half, the whole number next to the
result is the true one (`timesRounded_eq_floor`).
-/

namespace ReactScaffold.Decimal

open Binary64

namespace Quotient

/-! ## Rounding to a binary number -/

/-- The value of the nearest binary number. A quotient that is too great for one stands for
itself. -/
def toBinary (y : Quotient) : Quotient := (ofQuotient false y).magnitude?.getD y

theorem den_pos_scale {x : Quotient} (h : 0 < x.den) {base : Nat} (hbase : 0 < base) (k : Int) :
    0 < (x.scale base k).den := by
  unfold Quotient.scale
  split_ifs
  · exact h
  · exact Nat.mul_pos h (Nat.pow_pos hbase)

theorem den_pos_toBinary {y : Quotient} (h : 0 < y.den) : 0 < y.toBinary.den := by
  unfold toBinary
  cases ofQuotient false y with
  | nan => exact h
  | infinite negative => exact h
  | finite negative significand exponent => exact den_pos_scale Nat.one_pos two_pos exponent

theorem value_toBinary_of_num_eq_zero {y : Quotient} (h : y.num = 0) : y.toBinary.value = 0 := by
  rw [toBinary, ofQuotient, if_pos h]
  show (binaryQuotient 0 minExponent).value = 0
  rw [value_binaryQuotient, Nat.cast_zero, zero_mul]

/-- The nearest binary number is off by at most half a unit in the last place. -/
theorem abs_toBinary_sub_le {y : Quotient} (h : y.Positive) :
    |y.toBinary.value - y.value| ≤ 2 ^ max (Int.log 2 y.value - 52) minExponent / 2 := by
  have hnearest := ofQuotient_of_positive false h
  dsimp only at hnearest
  generalize max (Int.log 2 y.value - 52) minExponent = e at hnearest ⊢
  have hpow : (0 : ℚ) < 2 ^ e := zpow_pos two_pos e
  have hround := abs_round_sub_value_le (h.scale two_pos (-e))
  rw [value_scale y two_pos, Nat.cast_ofNat, zpow_neg] at hround
  generalize (y.scale 2 (-e)).round = m at hnearest hround
  have hnear : |(m : ℚ) * 2 ^ e - y.value| ≤ 2 ^ e / 2 := by
    have hfactor : (m : ℚ) * 2 ^ e - y.value = (m - y.value * (2 ^ e)⁻¹) * 2 ^ e := by
      field_simp
    rw [hfactor, abs_mul, abs_of_pos hpow]
    linarith [mul_le_mul_of_nonneg_right hround hpow.le]
  have hfinite {significand : Nat} {exponent : Int}
      (hvalue : (significand : ℚ) * 2 ^ exponent = m * 2 ^ e) :
      |((finite false significand exponent).magnitude?.getD y).value - y.value| ≤ 2 ^ e / 2 := by
    show |(binaryQuotient significand exponent).value - y.value| ≤ 2 ^ e / 2
    rwa [value_binaryQuotient, hvalue]
  have hinfinite : |((Binary64.infinite false).magnitude?.getD y).value - y.value| ≤ 2 ^ e / 2 := by
    show |y.value - y.value| ≤ 2 ^ e / 2
    rw [sub_self, abs_zero]
    positivity
  rw [toBinary, hnearest]
  split_ifs with hcarry
  · exact hinfinite
  · refine hfinite ?_
    rw [hcarry, zpow_add₀ two_ne_zero, zpow_one]
    push_cast
    ring
  · exact hinfinite
  · exact hfinite rfl

theorem num_eq_zero_or_positive {y : Quotient} (h : 0 < y.den) : y.num = 0 ∨ y.Positive :=
  (Nat.eq_zero_or_pos y.num).imp_right fun hnum => ⟨hnum, h⟩

theorem value_of_num_eq_zero {y : Quotient} (h : y.num = 0) : y.value = 0 := by
  rw [value, h, Nat.cast_zero, zero_div]

/-- The error of the nearest binary number in a range that ends at a power of two. -/
theorem abs_toBinary_sub_le_of_lt {y : Quotient} (h : 0 < y.den) {k : Nat} (hk : y.value < 2 ^ k) :
    |y.toBinary.value - y.value| ≤ 2 ^ k / 2 ^ 54 := by
  rcases num_eq_zero_or_positive h with hzero | hpos
  · rw [value_toBinary_of_num_eq_zero hzero, value_of_num_eq_zero hzero, sub_zero, abs_zero]
    positivity
  · have hlog : Int.log 2 y.value < k :=
      (Int.lt_zpow_iff_log_lt one_lt_two hpos.value_pos).1 (by exact_mod_cast hk)
    have hexponent : max (Int.log 2 y.value - 52) minExponent ≤ (k : Int) - 53 := by
      rw [minExponent]
      omega
    calc |y.toBinary.value - y.value|
        ≤ 2 ^ max (Int.log 2 y.value - 52) minExponent / 2 := abs_toBinary_sub_le hpos
      _ ≤ 2 ^ ((k : Int) - 53) / 2 := by
        have := zpow_le_zpow_right₀ (one_le_two (α := ℚ)) hexponent
        linarith
      _ = 2 ^ k / 2 ^ 54 := by
        rw [zpow_sub₀ two_ne_zero, zpow_natCast, div_div]
        norm_num

/-- The nearest binary number is at least a half of a quotient that is not below one. -/
theorem half_le_toBinary {y : Quotient} (h : 0 < y.den) (hone : 1 ≤ y.value) :
    y.value / 2 ≤ y.toBinary.value := by
  have hpos : y.Positive := by
    refine (num_eq_zero_or_positive h).resolve_left fun hzero => ?_
    rw [value_of_num_eq_zero hzero] at hone
    linarith
  have hlog : 0 ≤ Int.log 2 y.value := by
    rw [← Int.zpow_le_iff_le_log one_lt_two hpos.value_pos]
    simpa using hone
  have hbound : (2 : ℚ) ^ max (Int.log 2 y.value - 52) minExponent ≤ y.value :=
    calc (2 : ℚ) ^ max (Int.log 2 y.value - 52) minExponent ≤ 2 ^ Int.log 2 y.value :=
          zpow_le_zpow_right₀ one_le_two (by rw [minExponent]; omega)
      _ ≤ y.value := by exact_mod_cast Int.zpow_log_le_self one_lt_two hpos.value_pos
  have herror := (abs_le.1 (abs_toBinary_sub_le hpos)).1
  linarith

/-! ## The whole number next to a quotient -/

/-- The whole number next to a quotient, the lower one of two. -/
def nearestDown (t : Quotient) : Nat :=
  if t.den < 2 * (t.num % t.den) then t.floor + 1 else t.floor

theorem value_eq_floor_add {t : Quotient} (h : 0 < t.den) :
    t.value = t.floor + ((t.num % t.den : Nat) : ℚ) / t.den := by
  have hden : (t.den : ℚ) ≠ 0 := by exact_mod_cast h.ne'
  have hsplit : (t.den : ℚ) * (t.num / t.den : Nat) + (t.num % t.den : Nat) = t.num := by
    exact_mod_cast Nat.div_add_mod t.num t.den
  rw [value, Quotient.floor, ← hsplit]
  field_simp

/-- Whole numbers less than one apart are the same. -/
theorem eq_of_cast_lt_cast_add_one {a b : Nat} (hab : (a : ℚ) < b + 1) (hba : (b : ℚ) < a + 1) :
    a = b := by
  have hab : a < b + 1 := by exact_mod_cast hab
  have hba : b < a + 1 := by exact_mod_cast hba
  omega

theorem nearestDown_eq {t : Quotient} (h : 0 < t.den) {q : Nat} (hq : |t.value - q| < 1 / 2) :
    t.nearestDown = q := by
  have hden : (0 : ℚ) < t.den := by exact_mod_cast h
  have hrest_nonneg : (0 : ℚ) ≤ ((t.num % t.den : Nat) : ℚ) / t.den := by positivity
  have hrest_lt : ((t.num % t.den : Nat) : ℚ) / t.den < 1 := by
    rw [div_lt_one hden]
    exact_mod_cast Nat.mod_lt t.num h
  have habove : t.den < 2 * (t.num % t.den) ↔ 1 / 2 < ((t.num % t.den : Nat) : ℚ) / t.den := by
    rw [lt_div_iff₀ hden, ← Nat.cast_lt (α := ℚ)]
    push_cast
    constructor <;> intro _ <;> linarith
  rw [value_eq_floor_add h, abs_lt] at hq
  obtain ⟨hlow, hhigh⟩ := hq
  unfold nearestDown
  simp only [habove]
  generalize ((t.num % t.den : Nat) : ℚ) / t.den = rest at *
  split_ifs with hrest
  · refine eq_of_cast_lt_cast_add_one ?_ ?_ <;> push_cast <;> linarith
  · exact eq_of_cast_lt_cast_add_one (by linarith) (by linarith)

theorem floor_le_nearestDown (t : Quotient) : t.floor ≤ t.nearestDown := by
  unfold nearestDown
  split_ifs <;> omega

/-- A quotient is rounded to less than an even number up to a half below it. -/
theorem round_lt_iff {x : Quotient} (h : x.Positive) {m : Nat} (hpos : 0 < m) (heven : m % 2 = 0) :
    x.round < m ↔ x.value < m - 1 / 2 := by
  constructor
  · intro hlt
    by_contra hnot
    push Not at hnot
    have hbelow : x.value < m := by
      by_contra hle
      exact absurd (le_round h (not_lt.1 hle)) (by omega)
    have hpred : ((m - 1 : Nat) : ℚ) = m - 1 := by push_cast [hpos]; ring
    have hfloor : ⌊x.value⌋₊ = m - 1 := by
      rw [Nat.floor_eq_iff h.value_pos.le, hpred]
      constructor <;> linarith
    -- the half below an even number belongs to the even number
    rw [round_eq h, hfloor, hpred] at hlt
    split_ifs at hlt <;> first | omega | linarith
  · intro hlt
    have hround := (abs_le.1 (abs_round_sub_value_le h)).2
    have hlt : (x.round : ℚ) < m := by linarith
    exact_mod_cast hlt

/-! ## Remainders -/

section Modulo

variable {x : Quotient} {n : Nat}

theorem value_nonneg (x : Quotient) : 0 ≤ x.value :=
  div_nonneg (Nat.cast_nonneg _) (Nat.cast_nonneg _)

theorem div_mul_den (x : Quotient) (n : Nat) : x.num / (n * x.den) = ⌊x.value / n⌋₊ := by
  rw [value, div_div, mul_comm n, ← Nat.cast_mul, Nat.floor_div_eq_div]

theorem value_withoutModulo (x : Quotient) (n : Nat) :
    (x.withoutModulo n).value = ⌊x.value / n⌋₊ * n := by
  rw [withoutModulo, div_mul_den, value_ofNat, Nat.cast_mul]

theorem value_withoutModulo_le (x : Quotient) (hn : 0 < n) :
    (x.withoutModulo n).value ≤ x.value := by
  rw [value_withoutModulo, ← le_div_iff₀ (by exact_mod_cast hn)]
  exact Nat.floor_le (div_nonneg x.value_nonneg (Nat.cast_nonneg n))

theorem value_modulo (hden : 0 < x.den) (n : Nat) :
    (x.modulo n).value = x.value - ⌊x.value / n⌋₊ * n := by
  have hd : (x.den : ℚ) ≠ 0 := by exact_mod_cast hden.ne'
  have hvalue : x.value * x.den = x.num := div_mul_cancel₀ _ hd
  have hsplit : (n * x.den : ℚ) * ⌊x.value / n⌋₊ + (x.num % (n * x.den) : Nat) = x.num := by
    rw [← div_mul_den]
    exact_mod_cast Nat.div_add_mod x.num (n * x.den)
  show ((x.num % (n * x.den) : Nat) : ℚ) / x.den = _
  rw [div_eq_iff hd]
  linear_combination hsplit - hvalue

theorem value_modulo_lt (hden : 0 < x.den) (hn : 0 < n) : (x.modulo n).value < n := by
  have hd : (0 : ℚ) < x.den := by exact_mod_cast hden
  rw [modulo, value, div_lt_iff₀ hd]
  exact_mod_cast Nat.mod_lt x.num (Nat.mul_pos hn hden)

theorem timesRounded_eq (x : Quotient) (n : Nat) :
    x.timesRounded n =
      (⟨(x.withoutModulo n).toBinary.num, (x.withoutModulo n).toBinary.den * n⟩ :
        Quotient).toBinary.nearestDown := rfl

theorem value_mul_den (x : Quotient) (n : Nat) :
    (⟨x.num, x.den * n⟩ : Quotient).value = x.value / n := by
  rw [value, value, div_div, Nat.cast_mul]

/-- A whole number goes into a number as often as it should when the errors of the two operations
that round make less than a half. -/
theorem timesRounded_eq_floor (hn : 0 < n) {j k : Nat} (hx : x.value < 2 ^ j)
    (hk : (2 : ℚ) ^ j + 2 ^ j / 2 ^ 54 < 2 ^ k * n)
    (hsmall : (2 : ℚ) ^ j / 2 ^ 54 / n + 2 ^ k / 2 ^ 54 < 1 / 2) :
    x.timesRounded n = ⌊x.value / n⌋₊ := by
  have hnq : (0 : ℚ) < n := by exact_mod_cast hn
  have hmultiple_lt : (x.withoutModulo n).value < 2 ^ j :=
    lt_of_le_of_lt (x.value_withoutModulo_le hn) hx
  have hmultiple := abs_toBinary_sub_le_of_lt Nat.one_pos hmultiple_lt
  have hmultiple_pos := den_pos_toBinary (y := x.withoutModulo n) Nat.one_pos
  have hquotient : (x.withoutModulo n).value / n = ⌊x.value / n⌋₊ := by
    rw [value_withoutModulo, mul_div_cancel_right₀ _ hnq.ne']
  rw [timesRounded_eq]
  generalize (x.withoutModulo n).value = exact at *
  generalize (x.withoutModulo n).toBinary = multiple at *
  have hratio_pos : 0 < (⟨multiple.num, multiple.den * n⟩ : Quotient).den :=
    Nat.mul_pos hmultiple_pos hn
  have hratio_lt : (⟨multiple.num, multiple.den * n⟩ : Quotient).value < 2 ^ k := by
    rw [value_mul_den, div_lt_iff₀ hnq]
    linarith [(abs_le.1 hmultiple).2]
  have htimes := abs_toBinary_sub_le_of_lt hratio_pos hratio_lt
  refine nearestDown_eq (den_pos_toBinary hratio_pos) ?_
  rw [value_mul_den] at htimes
  rw [← hquotient]
  generalize (⟨multiple.num, multiple.den * n⟩ : Quotient).toBinary.value = times at htimes ⊢
  calc |times - exact / n| = |times - multiple.value / n + (multiple.value - exact) / n| := by
        congr 1
        ring
    _ ≤ |times - multiple.value / n| + |(multiple.value - exact) / n| := abs_add_le _ _
    _ ≤ 2 ^ k / 2 ^ 54 + 2 ^ j / 2 ^ 54 / n := by
        rw [abs_div, abs_of_pos hnq]
        exact add_le_add htimes (div_le_div_of_nonneg_right hmultiple hnq.le)
    _ < 1 / 2 := by linarith

/-- Rounding does not make a quotient vanish. -/
theorem timesRounded_pos (hn : 0 < n) (hx : 4 ≤ ⌊x.value / n⌋₊) : 0 < x.timesRounded n := by
  have hnq : (0 : ℚ) < n := by exact_mod_cast hn
  have hone : (1 : ℚ) ≤ n := by exact_mod_cast hn
  have hfour : (4 : ℚ) ≤ ⌊x.value / n⌋₊ := by exact_mod_cast hx
  have hmultiple : 4 * (n : ℚ) ≤ (x.withoutModulo n).value := by
    rw [value_withoutModulo]
    exact mul_le_mul_of_nonneg_right hfour hnq.le
  have hhalf := half_le_toBinary (y := x.withoutModulo n) Nat.one_pos (by linarith)
  have hmultiple_pos := den_pos_toBinary (y := x.withoutModulo n) Nat.one_pos
  rw [timesRounded_eq]
  generalize (x.withoutModulo n).toBinary = multiple at *
  have hratio_pos : 0 < (⟨multiple.num, multiple.den * n⟩ : Quotient).den :=
    Nat.mul_pos hmultiple_pos hn
  have hratio : 2 ≤ (⟨multiple.num, multiple.den * n⟩ : Quotient).value := by
    rw [value_mul_den, le_div_iff₀ hnq]
    linarith
  have htimes := half_le_toBinary hratio_pos (by linarith)
  refine lt_of_lt_of_le ?_ (floor_le_nearestDown _)
  rw [floor_eq, Nat.floor_pos]
  linarith

end Modulo

end Quotient

end ReactScaffold.Decimal
