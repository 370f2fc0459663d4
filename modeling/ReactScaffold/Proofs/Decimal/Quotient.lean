import Mathlib
import ReactScaffold.Decimal.Rounding

/-!
# The values of quotients

A quotient stands for a rational number. Scaling, rounding and the two logarithms are described
by that number alone, so that two quotients of one value are rounded alike.
-/

namespace ReactScaffold.Decimal

namespace Quotient

/-- The rational number that a quotient stands for. -/
def value (x : Quotient) : ℚ := x.num / x.den

/-- Both parts of the quotient are positive. -/
structure Positive (x : Quotient) : Prop where
  num_pos : 0 < x.num
  den_pos : 0 < x.den

theorem Positive.value_pos {x : Quotient} (h : x.Positive) : 0 < x.value :=
  div_pos (by exact_mod_cast h.num_pos) (by exact_mod_cast h.den_pos)

theorem positive_ofNat {n : Nat} (h : 0 < n) : (⟨n, 1⟩ : Quotient).Positive := ⟨h, Nat.one_pos⟩

@[simp] theorem value_ofNat (n : Nat) : (⟨n, 1⟩ : Quotient).value = n := by
  simp [value]

theorem Positive.scale {x : Quotient} (h : x.Positive) {base : Nat} (hbase : 0 < base) (k : Int) :
    (x.scale base k).Positive := by
  unfold Quotient.scale
  by_cases hk : 0 ≤ k
  · rw [if_pos hk]
    exact ⟨Nat.mul_pos h.num_pos (Nat.pow_pos hbase), h.den_pos⟩
  · rw [if_neg hk]
    exact ⟨h.num_pos, Nat.mul_pos h.den_pos (Nat.pow_pos hbase)⟩

theorem value_scale (x : Quotient) {base : Nat} (hbase : 0 < base) (k : Int) :
    (x.scale base k).value = x.value * (base : ℚ) ^ k := by
  have hb : (base : ℚ) ≠ 0 := by exact_mod_cast hbase.ne'
  unfold Quotient.scale
  by_cases hk : 0 ≤ k
  · rw [if_pos hk]
    obtain ⟨n, rfl⟩ := Int.eq_ofNat_of_zero_le hk
    simp only [value, Int.toNat_natCast, Nat.pow_eq, Nat.cast_mul, Nat.cast_pow, zpow_natCast]
    ring
  · rw [if_neg hk]
    obtain ⟨n, hn⟩ := Int.eq_ofNat_of_zero_le (show 0 ≤ -k by omega)
    obtain rfl : k = -(n : Int) := by omega
    simp only [value, neg_neg, Int.toNat_natCast, Nat.pow_eq, Nat.cast_mul, Nat.cast_pow, zpow_neg,
      zpow_natCast]
    rw [← div_div, div_eq_mul_inv (_ / _)]

theorem reaches_iff {x : Quotient} (h : x.Positive) {base : Nat} (hbase : 0 < base) (k : Int) :
    x.reaches base k = true ↔ (base : ℚ) ^ k ≤ x.value := by
  have hb : (0 : ℚ) < base := by exact_mod_cast hbase
  have hden : (0 : ℚ) < x.den := by exact_mod_cast h.den_pos
  unfold Quotient.reaches value
  by_cases hk : 0 ≤ k
  · obtain ⟨n, rfl⟩ := Int.eq_ofNat_of_zero_le hk
    simp only [hk, if_true, decide_eq_true_eq, Int.toNat_natCast, Nat.pow_eq, zpow_natCast]
    rw [le_div_iff₀ hden, mul_comm]
    exact_mod_cast Iff.rfl
  · obtain ⟨n, hn⟩ := Int.eq_ofNat_of_zero_le (show 0 ≤ -k by omega)
    obtain rfl : k = -(n : Int) := by omega
    simp only [hk, if_false, decide_eq_true_eq, neg_neg, Int.toNat_natCast, Nat.pow_eq, zpow_neg,
      zpow_natCast]
    rw [inv_le_comm₀ (pow_pos hb n) (div_pos (by exact_mod_cast h.num_pos) hden), inv_div,
      div_le_iff₀ (by exact_mod_cast h.num_pos), mul_comm]
    exact_mod_cast Iff.rfl

theorem floor_eq (x : Quotient) : x.floor = ⌊x.value⌋₊ := by
  rw [Quotient.floor, value, Nat.floor_div_eq_div]

/-- What is left above the whole part of a quotient, as a share of its denominator. -/
theorem value_sub_floor {x : Quotient} (h : x.Positive) :
    x.value - ⌊x.value⌋₊ = (x.num % x.den : Nat) / x.den := by
  have hden : (x.den : ℚ) ≠ 0 := by exact_mod_cast h.den_pos.ne'
  have hsplit : (x.den : ℚ) * (x.num / x.den : Nat) + (x.num % x.den : Nat) = x.num := by
    exact_mod_cast Nat.div_add_mod x.num x.den
  rw [← floor_eq, Quotient.floor, value, eq_div_iff hden, sub_mul, div_mul_cancel₀ _ hden,
    ← hsplit]
  ring

/-- Rounding by the value alone. -/
theorem round_eq {x : Quotient} (h : x.Positive) :
    x.round =
      if 2 * (x.value - ⌊x.value⌋₊) < 1 then ⌊x.value⌋₊
      else if 1 < 2 * (x.value - ⌊x.value⌋₊) then ⌊x.value⌋₊ + 1
      else if ⌊x.value⌋₊ % 2 = 0 then ⌊x.value⌋₊ else ⌊x.value⌋₊ + 1 := by
  have hden : (0 : ℚ) < x.den := by exact_mod_cast h.den_pos
  have hbelow : 2 * ((x.num % x.den : Nat) / x.den : ℚ) < 1 ↔ 2 * (x.num % x.den) < x.den := by
    rw [← mul_div_assoc, div_lt_one hden]
    exact_mod_cast Iff.rfl
  have habove : 1 < 2 * ((x.num % x.den : Nat) / x.den : ℚ) ↔ x.den < 2 * (x.num % x.den) := by
    rw [← mul_div_assoc, one_lt_div hden]
    exact_mod_cast Iff.rfl
  simp only [value_sub_floor h, hbelow, habove]
  rw [← floor_eq]
  rfl

theorem round_congr {x y : Quotient} (hx : x.Positive) (hy : y.Positive)
    (h : x.value = y.value) : x.round = y.round := by
  rw [round_eq hx, round_eq hy, h]

theorem abs_round_sub_value_le {x : Quotient} (h : x.Positive) :
    |(x.round : ℚ) - x.value| ≤ 1 / 2 := by
  have hfloor : (⌊x.value⌋₊ : ℚ) ≤ x.value := Nat.floor_le h.value_pos.le
  have hlt : x.value < ⌊x.value⌋₊ + 1 := Nat.lt_floor_add_one x.value
  rw [round_eq h, abs_le]
  split_ifs <;> push_cast <;> constructor <;> linarith

theorem round_eq_of_abs_sub_lt {x : Quotient} (h : x.Positive) {n : Nat}
    (hn : |x.value - n| < 1 / 2) : x.round = n := by
  have hround := abs_round_sub_value_le h
  rw [abs_lt] at hn
  rw [abs_le] at hround
  have hupper : (x.round : ℚ) < n + 1 := by linarith
  have hlower : (n : ℚ) < x.round + 1 := by linarith
  have hupper : x.round < n + 1 := by exact_mod_cast hupper
  have hlower : n < x.round + 1 := by exact_mod_cast hlower
  omega

theorem round_le {x : Quotient} (h : x.Positive) {n : Nat} (hn : x.value ≤ n) : x.round ≤ n := by
  have hround := abs_le.1 (abs_round_sub_value_le h)
  have hlt : (x.round : ℚ) < n + 1 := by linarith
  have hlt : x.round < n + 1 := by exact_mod_cast hlt
  omega

theorem le_round {x : Quotient} (h : x.Positive) {n : Nat} (hn : (n : ℚ) ≤ x.value) :
    n ≤ x.round := by
  have hround := abs_le.1 (abs_round_sub_value_le h)
  have hlt : (n : ℚ) < x.round + 1 := by linarith
  have hlt : n < x.round + 1 := by exact_mod_cast hlt
  omega

theorem log_eq_of_zpow_le_of_lt {base : Nat} (hbase : 1 < base) {v : ℚ} (hv : 0 < v) {k : Int}
    (hle : (base : ℚ) ^ k ≤ v) (hlt : v < (base : ℚ) ^ (k + 1)) : Int.log base v = k := by
  rw [Int.zpow_le_iff_le_log hbase hv] at hle
  rw [Int.lt_zpow_iff_log_lt hbase hv] at hlt
  omega

/-- A guess that is off by at most one, put right. -/
theorem reaches_eq_log {x : Quotient} (h : x.Positive) {base : Nat} (hbase : 1 < base) {k : Int}
    (hlow : (base : ℚ) ^ (k - 1) ≤ x.value) (hhigh : x.value < (base : ℚ) ^ (k + 1)) :
    (if x.reaches base k then k else k - 1) = Int.log base x.value := by
  rw [Int.zpow_le_iff_le_log hbase h.value_pos] at hlow
  rw [Int.lt_zpow_iff_log_lt hbase h.value_pos] at hhigh
  have hk := (reaches_iff h (Nat.zero_lt_of_lt hbase) k).trans
    (Int.zpow_le_iff_le_log hbase h.value_pos)
  split_ifs with hr
  · have := hk.1 hr
    omega
  · have := mt hk.2 hr
    omega

theorem log2_eq {x : Quotient} (h : x.Positive) : x.log2 = Int.log 2 x.value := by
  have hden : (0 : ℚ) < x.den := by exact_mod_cast h.den_pos
  have hnum_low : (2 : ℚ) ^ x.num.log2 ≤ x.num := by
    exact_mod_cast Nat.log2_self_le h.num_pos.ne'
  have hnum_high : (x.num : ℚ) < 2 ^ (x.num.log2 + 1) := by
    exact_mod_cast Nat.lt_log2_self (n := x.num)
  have hden_low : (2 : ℚ) ^ x.den.log2 ≤ x.den := by
    exact_mod_cast Nat.log2_self_le h.den_pos.ne'
  have hden_high : (x.den : ℚ) < 2 ^ (x.den.log2 + 1) := by
    exact_mod_cast Nat.lt_log2_self (n := x.den)
  refine reaches_eq_log h one_lt_two ?_ ?_
  · have hsplit : ((2 : Nat) : ℚ) ^ ((x.num.log2 : Int) - x.den.log2 - 1) =
        2 ^ x.num.log2 / 2 ^ (x.den.log2 + 1) := by
      rw [show (x.num.log2 : Int) - x.den.log2 - 1 =
          (x.num.log2 : Int) - ((x.den.log2 + 1 : Nat) : Int) by push_cast; ring]
      rw [Nat.cast_ofNat, zpow_sub₀ two_ne_zero, zpow_natCast, zpow_natCast]
    rw [hsplit, value, div_le_div_iff₀ (by positivity) hden]
    exact mul_le_mul hnum_low hden_high.le hden.le (Nat.cast_nonneg _)
  · have hsplit : ((2 : Nat) : ℚ) ^ ((x.num.log2 : Int) - x.den.log2 + 1) =
        2 ^ (x.num.log2 + 1) / 2 ^ x.den.log2 := by
      rw [show (x.num.log2 : Int) - x.den.log2 + 1 =
          ((x.num.log2 + 1 : Nat) : Int) - (x.den.log2 : Int) by push_cast; ring]
      rw [Nat.cast_ofNat, zpow_sub₀ two_ne_zero, zpow_natCast, zpow_natCast]
    rw [hsplit, value, div_lt_div_iff₀ hden (by positivity)]
    exact mul_lt_mul hnum_high hden_low (by positivity) (by positivity)

/-- Two powers compare as their exponents do, when the bases compare at some exponents. -/
theorem zpow_le_zpow_of_pow_le {a b : ℚ} (ha : 1 ≤ a) (hb : 1 ≤ b) {p q : Nat} (hq : q ≠ 0)
    (hpq : a ^ p ≤ b ^ q) {k l : Int} (hl : 0 ≤ l) (hkl : q * k ≤ p * l) : a ^ k ≤ b ^ l := by
  obtain ⟨n, rfl⟩ := Int.eq_ofNat_of_zero_le hl
  refine le_of_pow_le_pow_left₀ hq (by positivity) ?_
  calc (a ^ k) ^ q = a ^ ((q : Int) * k) := by rw [mul_comm, zpow_mul, zpow_natCast]
    _ ≤ a ^ ((p : Int) * n) := zpow_le_zpow_right₀ ha hkl
    _ = (a ^ p) ^ n := by rw [zpow_mul, zpow_natCast, zpow_natCast]
    _ ≤ (b ^ q) ^ n := pow_le_pow_left₀ (by positivity) hpq n
    _ = (b ^ (n : Int)) ^ q := by rw [zpow_natCast, ← pow_mul, ← pow_mul, mul_comm]

theorem two_zpow_le_ten_zpow {k l : Int} (hl : 0 ≤ l) (h : 28 * k ≤ 93 * l) :
    (2 : ℚ) ^ k ≤ 10 ^ l :=
  zpow_le_zpow_of_pow_le (p := 93) (q := 28) (by norm_num) (by norm_num) (by norm_num)
    (by norm_num) hl (by exact_mod_cast h)

theorem ten_zpow_le_two_zpow {k l : Int} (hl : 0 ≤ l) (h : 196 * k ≤ 59 * l) :
    (10 : ℚ) ^ k ≤ 2 ^ l :=
  zpow_le_zpow_of_pow_le (p := 59) (q := 196) (by norm_num) (by norm_num) (by norm_num)
    (by norm_num) hl (by exact_mod_cast h)

theorem zpow_le_zpow_of_neg {a b : ℚ} (ha : 0 < a) (hb : 0 < b) {k l : Int}
    (h : a ^ (-k) ≤ b ^ (-l)) : b ^ l ≤ a ^ k := by
  rw [zpow_neg, zpow_neg] at h
  exact (inv_le_inv₀ (zpow_pos ha k) (zpow_pos hb l)).1 h

/-- The first guess at a decimal logarithm is off by at most one. The bounds on the exponent are
those of binary numbers. -/
theorem log10_guess {k : Int} (hlow : -1074 ≤ k) (hhigh : k ≤ 1024) :
    (10 : ℚ) ^ (k * 30103 / 100000 - 1) ≤ 2 ^ k ∧
      (2 : ℚ) ^ (k + 1) ≤ 10 ^ (k * 30103 / 100000 + 2) := by
  have hten : (0 : ℚ) < 10 := by norm_num
  generalize hg : k * 30103 / 100000 = g
  constructor
  · by_cases hk : 0 ≤ k
    · exact ten_zpow_le_two_zpow hk (by omega)
    · exact zpow_le_zpow_of_neg two_pos hten (two_zpow_le_ten_zpow (by omega) (by omega))
  · by_cases hg2 : 0 ≤ g + 2
    · exact two_zpow_le_ten_zpow hg2 (by omega)
    · exact zpow_le_zpow_of_neg hten two_pos (ten_zpow_le_two_zpow (by omega) (by omega))

theorem log10_eq {x : Quotient} (h : x.Positive) (hlow : -1074 ≤ x.log2) (hhigh : x.log2 ≤ 1024) :
    x.log10 = Int.log 10 x.value := by
  obtain ⟨hbelow, habove⟩ := log10_guess hlow hhigh
  have hpow_le : (2 : ℚ) ^ x.log2 ≤ x.value := by
    rw [log2_eq h]
    exact_mod_cast Int.zpow_log_le_self one_lt_two h.value_pos
  have hlt_pow : x.value < (2 : ℚ) ^ (x.log2 + 1) := by
    rw [log2_eq h]
    exact_mod_cast Int.lt_zpow_succ_log_self one_lt_two x.value
  unfold Quotient.log10
  generalize x.log2 * 30103 / 100000 = guess at hbelow habove ⊢
  have hten : (1 : Nat) < 10 := by norm_num
  have hcast (k : Int) : ((10 : Nat) : ℚ) ^ k = 10 ^ k := by norm_num
  have hreaches := reaches_iff h (Nat.zero_lt_of_lt hten) (guess + 1)
  rw [hcast] at hreaches
  show (if x.reaches 10 (guess + 1) then guess + 1
    else if x.reaches 10 guess then guess else guess - 1) = _
  by_cases hnext : x.reaches 10 (guess + 1) = true
  · rw [if_pos hnext]
    rw [hreaches] at hnext
    refine (log_eq_of_zpow_le_of_lt hten h.value_pos ?_ ?_).symm
    · rw [hcast]
      exact hnext
    · rw [hcast, add_assoc]
      exact lt_of_lt_of_le hlt_pow habove
  · rw [if_neg hnext]
    rw [hreaches, not_le] at hnext
    refine reaches_eq_log h hten ?_ ?_
    · rw [hcast]
      exact le_trans hbelow hpow_le
    · rw [hcast]
      exact hnext

end Quotient

end ReactScaffold.Decimal
