import ReactScaffold.Decimal.Shortest
import ReactScaffold.Proofs.Decimal.Nearest

/-!
# Shortest decimals read back

Seventeen digits are enough to tell a canonical number from all others, so the search for the
shortest decimal always finds one (`ofDecimal_shortest`). Zeros at the end of the digits can be
moved into the exponent without changing what is read.
-/

namespace ReactScaffold.Decimal

theorem toDigits_mul_pow_ten {n : Nat} (hn : 0 < n) (k : Nat) :
    Nat.toDigits 10 (n * 10 ^ k) = Nat.toDigits 10 n ++ List.replicate k '0' := by
  induction k with
  | zero => simp
  | succ k ih =>
      have hsplit : n * 10 ^ (k + 1) = 10 * (n * 10 ^ k) + 0 := by ring
      have hpos : 0 < n * 10 ^ k := Nat.mul_pos hn (Nat.pow_pos (by norm_num))
      rw [hsplit, ← Nat.toDigits_append_toDigits (by norm_num) hpos (by norm_num), ih,
        Nat.toDigits_zero, List.append_assoc, List.replicate_succ']

namespace Binary64

theorem ofDecimal_mul_pow_ten (negative : Bool) (digits k : Nat) (scale : Int) :
    ofDecimal negative (digits * 10 ^ k) scale = ofDecimal negative digits (scale + k) := by
  by_cases hzero : digits = 0
  · simp [ofDecimal, hzero]
  · have hpos : 0 < digits := Nat.pos_of_ne_zero hzero
    have hpos' : 0 < digits * 10 ^ k := Nat.mul_pos hpos (Nat.pow_pos (by norm_num))
    have hlength : scale + ((Nat.toDigits 10 (digits * 10 ^ k)).length : Int) =
        scale + k + ((Nat.toDigits 10 digits).length : Int) := by
      rw [toDigits_mul_pow_ten hpos, List.length_append, List.length_replicate]
      push_cast
      ring
    have hten : 0 < 10 := by norm_num
    have hquotient (negative : Bool) :
        ofQuotient negative ((⟨digits * 10 ^ k, 1⟩ : Quotient).scale 10 scale) =
          ofQuotient negative ((⟨digits, 1⟩ : Quotient).scale 10 (scale + k)) := by
      refine ofQuotient_congr negative ((Quotient.positive_ofNat hpos').scale hten _)
        ((Quotient.positive_ofNat hpos).scale hten _) ?_
      rw [Quotient.value_scale _ hten, Quotient.value_scale _ hten, Quotient.value_ofNat,
        Quotient.value_ofNat, zpow_add₀ (by norm_num), zpow_natCast]
      push_cast
      ring
    unfold ofDecimal
    rw [if_neg hzero, if_neg hpos'.ne', hlength, hquotient]

/-- The number with the given sign. -/
def withSign (negative : Bool) : Binary64 → Binary64
  | .nan => .nan
  | .infinite _ => .infinite negative
  | .finite _ significand exponent => .finite negative significand exponent

theorem withSign_ofQuotient (negative given : Bool) (x : Quotient) :
    (ofQuotient given x).withSign negative = ofQuotient negative x := by
  unfold ofQuotient
  dsimp only
  split_ifs <;> rfl

theorem withSign_ofDecimal (negative given : Bool) (digits : Nat) (scale : Int) :
    (ofDecimal given digits scale).withSign negative = ofDecimal negative digits scale := by
  unfold ofDecimal
  dsimp only
  split_ifs
  · rfl
  · rfl
  · rfl
  · exact withSign_ofQuotient negative given _

end Binary64

open Binary64

/-- The quotient that a number is written from. -/
abbrev binaryQuotient (significand : Nat) (exponent : Int) : Quotient :=
  (⟨significand, 1⟩ : Quotient).scale 2 exponent

section

variable {significand : Nat} {exponent : Int}

theorem binaryQuotient_positive (hpos : 0 < significand) (exponent : Int) :
    (binaryQuotient significand exponent).Positive :=
  (Quotient.positive_ofNat hpos).scale two_pos exponent

theorem value_binaryQuotient (significand : Nat) (exponent : Int) :
    (binaryQuotient significand exponent).value = significand * 2 ^ exponent := by
  rw [Quotient.value_scale _ two_pos, Quotient.value_ofNat, Nat.cast_ofNat]

/-- The binary exponents of canonical numbers. -/
theorem log2_binaryQuotient (hpos : 0 < significand)
    (hc : (finite false significand exponent).Canonical) :
    -1074 ≤ (binaryQuotient significand exponent).log2 ∧
      (binaryQuotient significand exponent).log2 < 1024 := by
  have h := binaryQuotient_positive hpos exponent
  obtain ⟨hlt, hmin, hmax, -⟩ := hc
  have hone : (1 : ℚ) ≤ significand := by exact_mod_cast hpos
  have hltq : (significand : ℚ) < 2 ^ 53 := by exact_mod_cast hlt
  have hpow : (0 : ℚ) < 2 ^ exponent := zpow_pos two_pos exponent
  rw [Quotient.log2_eq h]
  constructor
  · rw [← Int.zpow_le_iff_le_log one_lt_two h.value_pos, value_binaryQuotient, Nat.cast_ofNat]
    calc (2 : ℚ) ^ (-1074 : Int) ≤ 2 ^ exponent := zpow_le_zpow_right₀ one_le_two hmin
      _ ≤ significand * 2 ^ exponent := le_mul_of_one_le_left hpow.le hone
  · rw [← Int.lt_zpow_iff_log_lt one_lt_two h.value_pos, value_binaryQuotient, Nat.cast_ofNat]
    calc (significand : ℚ) * 2 ^ exponent < 2 ^ 53 * 2 ^ exponent :=
          mul_lt_mul_of_pos_right hltq hpow
      _ = 2 ^ ((53 : Nat) + exponent) := by rw [zpow_add₀ two_ne_zero, zpow_natCast]
      _ ≤ 2 ^ (1024 : Int) := zpow_le_zpow_right₀ one_le_two (by
          rw [maxExponent] at hmax
          push_cast
          omega)

theorem log10_binaryQuotient (hpos : 0 < significand)
    (hc : (finite false significand exponent).Canonical) :
    (binaryQuotient significand exponent).log10 =
        Int.log 10 (binaryQuotient significand exponent).value ∧
      -324 ≤ (binaryQuotient significand exponent).log10 ∧
      (binaryQuotient significand exponent).log10 < 309 := by
  have h := binaryQuotient_positive hpos exponent
  obtain ⟨hlow, hhigh⟩ := log2_binaryQuotient hpos hc
  have hlog := Quotient.log10_eq h hlow hhigh.le
  rw [Quotient.log2_eq h] at hlow hhigh
  have hten : 1 < 10 := by norm_num
  refine ⟨hlog, ?_, ?_⟩
  · rw [hlog, ← Int.zpow_le_iff_le_log hten h.value_pos]
    rw [← Int.zpow_le_iff_le_log one_lt_two h.value_pos] at hlow
    refine le_trans ?_ hlow
    exact Quotient.zpow_le_zpow_of_neg (by norm_num) (by norm_num)
      (Quotient.two_zpow_le_ten_zpow (by norm_num) (by norm_num))
  · rw [hlog, ← Int.lt_zpow_iff_log_lt hten h.value_pos]
    rw [← Int.lt_zpow_iff_log_lt one_lt_two h.value_pos] at hhigh
    exact lt_of_lt_of_le hhigh (Quotient.two_zpow_le_ten_zpow (by norm_num) (by norm_num))

/-- The nearest decimal of seventeen digits has as many or one more, and is off by at most half of
its last digit. -/
theorem round_seventeen {x : Quotient} (h : x.Positive) (hlog : x.log10 = Int.log 10 x.value)
    {last : Int} (hlast : last = x.log10 - 16) :
    10 ^ 16 ≤ (x.scale 10 (-last)).round ∧ (x.scale 10 (-last)).round ≤ 10 ^ 17 ∧
      (10 : ℚ) ^ 16 * 10 ^ last ≤ x.value ∧
      |((x.scale 10 (-last)).round : ℚ) * 10 ^ last - x.value| ≤ 1 / 2 * 10 ^ last := by
  have hten : 0 < 10 := by norm_num
  have hpow : (0 : ℚ) < 10 ^ last := zpow_pos (by norm_num) last
  have hscaled : (x.scale 10 (-last)).value = x.value / 10 ^ last := by
    rw [Quotient.value_scale x hten, zpow_neg, div_eq_mul_inv, Nat.cast_ofNat]
  have hsplit (k : Nat) : (10 : ℚ) ^ (last + k) = 10 ^ k * 10 ^ last := by
    rw [zpow_add₀ (by norm_num), zpow_natCast, mul_comm]
  have hlow : (10 : ℚ) ^ 16 * 10 ^ last ≤ x.value := by
    rw [← hsplit]
    have := Int.zpow_log_le_self (b := 10) (by norm_num) h.value_pos
    rw [← hlog, show x.log10 = last + (16 : Nat) by push_cast; omega] at this
    exact_mod_cast this
  have hhigh : x.value < (10 : ℚ) ^ 17 * 10 ^ last := by
    rw [← hsplit]
    have := Int.lt_zpow_succ_log_self (b := 10) (by norm_num) x.value
    rw [← hlog, show x.log10 + 1 = last + (17 : Nat) by push_cast; omega] at this
    exact_mod_cast this
  refine ⟨?_, ?_, hlow, ?_⟩
  · refine Quotient.le_round (h.scale hten _) ?_
    rw [hscaled, le_div_iff₀ hpow]
    exact_mod_cast hlow
  · refine Quotient.round_le (h.scale hten _) ?_
    rw [hscaled, div_le_iff₀ hpow]
    exact_mod_cast hhigh.le
  · have hround := Quotient.abs_round_sub_value_le (h.scale hten (-last))
    rw [hscaled] at hround
    generalize (x.scale 10 (-last)).round = n at hround ⊢
    have hfactor : (n : ℚ) * 10 ^ last - x.value = (n - x.value / 10 ^ last) * 10 ^ last := by
      field_simp
    rw [hfactor, abs_mul, abs_of_pos hpow]
    exact mul_le_mul_of_nonneg_right hround hpow.le

/-- The nearest decimal of seventeen digits reads back. -/
theorem ofDecimal_seventeen (hpos : 0 < significand)
    (hc : (finite false significand exponent).Canonical) {last : Int}
    (hlast : last = (binaryQuotient significand exponent).log10 - 16) :
    ofDecimal false ((binaryQuotient significand exponent).scale 10 (-last)).round last =
      finite false significand exponent := by
  have hten : 0 < 10 := by norm_num
  have hpow : (0 : ℚ) < 10 ^ last := zpow_pos (by norm_num) last
  obtain ⟨hlog, hlow, hhigh⟩ := log10_binaryQuotient hpos hc
  obtain ⟨hnlow, hnhigh, hvlow, herror⟩ :=
    round_seventeen (binaryQuotient_positive hpos exponent) hlog hlast
  have hvalue := value_binaryQuotient significand exponent
  generalize ((binaryQuotient significand exponent).scale 10 (-last)).round = n
    at hnlow hnhigh herror ⊢
  have hn : 0 < n := by omega
  have hlength_high : (Nat.toDigits 10 n).length ≤ 18 :=
    (Nat.length_toDigits_le_iff (by norm_num) (by norm_num)).2 (by omega)
  have hlength_low : ¬(Nat.toDigits 10 n).length ≤ 16 := fun hle =>
    absurd ((Nat.length_toDigits_le_iff (by norm_num) (by norm_num)).1 hle) (by omega)
  unfold ofDecimal
  rw [if_neg hn.ne']
  dsimp only
  rw [if_neg (by omega), if_neg (by omega)]
  refine ofQuotient_eq_of_near hc ((Quotient.positive_ofNat hn).scale hten last) ?_
  rw [Quotient.value_scale _ hten, Quotient.value_ofNat, ← hvalue, Nat.cast_ofNat]
  refine lt_of_le_of_lt herror ?_
  rw [lt_div_iff₀ (by norm_num)]
  linarith

theorem ofDecimal_of_nearestReadingBack? {target : Binary64} {x : Quotient} {count : Nat}
    {digits : Nat} {last : Int} (h : nearestReadingBack? target x count = some (digits, last)) :
    ofDecimal false digits last = target := by
  unfold nearestReadingBack? at h
  simp only [decide_eq_true_eq] at h
  split_ifs at h
  all_goals
    cases h
    assumption

theorem nearestReadingBack?_seventeen (hpos : 0 < significand)
    (hc : (finite false significand exponent).Canonical) :
    (nearestReadingBack? (finite false significand exponent)
      (binaryQuotient significand exponent) 17).isSome := by
  have hlast : (binaryQuotient significand exponent).log10 - (17 : Nat) + 1 =
      (binaryQuotient significand exponent).log10 - 16 := by omega
  have hread := ofDecimal_seventeen hpos hc hlast
  unfold nearestReadingBack?
  dsimp only
  rw [if_pos (decide_eq_true hread)]
  rfl

/-- The shortest decimal of a number reads back as the number. -/
theorem ofDecimal_shortest (hpos : 0 < significand)
    (hc : (finite false significand exponent).Canonical) :
    ofDecimal false (shortest significand exponent).1 (shortest significand exponent).2 =
      finite false significand exponent := by
  let attempt (n : Nat) := nearestReadingBack? (finite false significand exponent)
    (binaryQuotient significand exponent) (n + 1)
  have hsome : ((List.range 17).findSome? attempt).isSome :=
    List.findSome?_isSome_iff.2
      ⟨16, List.mem_range.2 (by norm_num), nearestReadingBack?_seventeen hpos hc⟩
  obtain ⟨found, hfound⟩ := Option.isSome_iff_exists.1 hsome
  have hshortest : shortest significand exponent = found := by
    show ((List.range 17).findSome? attempt).getD (0, 0) = found
    rw [hfound, Option.getD_some]
  obtain ⟨n, -, hn⟩ := List.exists_of_findSome?_eq_some hfound
  rw [hshortest]
  exact ofDecimal_of_nearestReadingBack? hn

end

end ReactScaffold.Decimal
