import ReactScaffold.Proofs.Decimal.Division
import ReactScaffold.Proofs.Decimal.Figures
import ReactScaffold.Proofs.Outcome

/-!
# Durations read back

A number of whole seconds can be read off its text (`formatDuration_whole`). The text of a measured
duration states it to less than a second, and no figure of minutes or seconds reaches sixty, with
two exceptions that `formatDuration_figures` names: the last half tenth before a full minute is rounded
up to sixty seconds, and far beyond `2 ^ 63` seconds the hours are those of a rounded quotient.
-/

namespace ReactScaffold.Decimal

/-- The value of a finite number. -/
def Binary64.value? : Binary64 → Option ℚ
  | .finite negative significand exponent =>
    some ((if negative then -1 else 1) * (significand * 2 ^ exponent))
  | _ => none

/-- The length of time, in seconds. -/
def Seconds.value? : Seconds → Option ℚ
  | .whole n => some n
  | .measured x => x.value?

/-! ## Parts that make up a duration -/

namespace DurationParts

/-- The parts make up a length of time. The hours are those of a rounded quotient, which is the
exact one below `2 ^ 63` seconds, and in any case does not vanish. -/
structure MakeUp (p : DurationParts) (v : ℚ) : Prop where
  den_pos : 0 < p.seconds.den
  minutes_lt : p.minutes < 60
  seconds_lt : p.seconds.value < 60
  value_eq : v = (⌊v⌋₊ / 3600 : Nat) * 3600 + p.minutes * 60 + p.seconds.value
  hours_eq : v < 2 ^ 63 → p.hours = ⌊v⌋₊ / 3600
  hours_pos : 2 ^ 63 ≤ v → 0 < p.hours

theorem makeUp_whole (n : Nat) : MakeUp ⟨n / 3600, n % 3600 / 60, ⟨n % 60, 1⟩⟩ n := by
  have hsplit : n = n / 3600 * 3600 + n % 3600 / 60 * 60 + n % 60 := by omega
  refine ⟨Nat.one_pos, by dsimp only; omega, ?_, ?_, fun _ => ?_, fun hlarge => ?_⟩
  · rw [Quotient.value_ofNat]
    exact_mod_cast Nat.mod_lt n (by norm_num)
  · rw [Quotient.value_ofNat, Nat.floor_natCast]
    exact_mod_cast hsplit
  · rw [Nat.floor_natCast]
  · have hlarge : 2 ^ 63 ≤ n := by exact_mod_cast hlarge
    dsimp only
    omega

/-- Hours below the bound and minutes are counted exactly, and so are the seconds that remain. -/
theorem makeUp_measured {x : Quotient} (hden : 0 < x.den) :
    MakeUp ⟨x.timesRounded 3600, (x.modulo 3600).timesRounded 60, x.modulo 60⟩ x.value := by
  have hminutes : (x.modulo 3600).timesRounded 60 = ⌊x.value⌋₊ % 3600 / 60 := by
    have hrest := x.value_modulo hden 3600
    have hrest_lt := x.value_modulo_lt hden (n := 3600) (by norm_num)
    have htimes := Quotient.timesRounded_eq_floor (x := x.modulo 3600) (n := 60) (j := 12) (k := 7)
      (by norm_num) (hrest_lt.trans (by norm_num)) (by norm_num) (by norm_num)
    rw [htimes, Nat.floor_div_natCast, hrest, Nat.floor_div_natCast, ← Nat.cast_mul,
      Nat.floor_sub_natCast]
    omega
  have hseconds := x.value_modulo hden 60
  rw [Nat.floor_div_natCast] at hseconds
  have hsplit : ⌊x.value⌋₊ / 60 * 60 = ⌊x.value⌋₊ / 3600 * 3600 + ⌊x.value⌋₊ % 3600 / 60 * 60 := by
    omega
  refine ⟨hden, ?_, ?_, ?_, fun hsmall => ?_, fun hlarge => ?_⟩
  · dsimp only
    omega
  · exact_mod_cast x.value_modulo_lt hden (n := 60) (by norm_num)
  · have hsplit : ((⌊x.value⌋₊ / 60 : Nat) : ℚ) * 60 =
        (⌊x.value⌋₊ / 3600 : Nat) * 3600 + (⌊x.value⌋₊ % 3600 / 60 : Nat) * 60 := by
      exact_mod_cast hsplit
    rw [hminutes, hseconds]
    push_cast at hsplit ⊢
    linarith
  · have htimes := Quotient.timesRounded_eq_floor (x := x) (n := 3600) (j := 63) (k := 52)
      (by norm_num) hsmall (by norm_num) (by norm_num)
    rw [htimes, Nat.floor_div_natCast]
  · refine Quotient.timesRounded_pos (by norm_num) ?_
    rw [Nat.floor_div_natCast, Nat.le_div_iff_mul_le (by norm_num)]
    refine Nat.le_floor ?_
    push_cast
    linarith

/-- Hours or minutes are shown from one minute on. -/
theorem MakeUp.coarse_iff {p : DurationParts} {v : ℚ} (h : p.MakeUp v) :
    0 < p.hours ∨ 0 < p.minutes ↔ 60 ≤ v := by
  have hnonneg := p.seconds.value_nonneg
  have hlt := h.seconds_lt
  have hvalue := h.value_eq
  constructor
  · rintro (hhours | hminutes)
    · by_cases hsmall : v < 2 ^ 63
      · rw [h.hours_eq hsmall] at hhours
        have hfloor : 60 ≤ ⌊v⌋₊ := by omega
        exact_mod_cast (Nat.le_floor_iff' (by norm_num)).1 hfloor
      · linarith
    · have hminutes : (1 : ℚ) ≤ p.minutes := by exact_mod_cast hminutes
      have hhours : (0 : ℚ) ≤ (⌊v⌋₊ / 3600 : Nat) := Nat.cast_nonneg _
      linarith
  · intro hv
    by_contra hnot
    push Not at hnot
    obtain ⟨hhours, hminutes⟩ := hnot
    by_cases hsmall : v < 2 ^ 63
    · rw [← h.hours_eq hsmall, Nat.le_zero.1 hhours, Nat.le_zero.1 hminutes] at hvalue
      push_cast at hvalue
      linarith
    · exact absurd (h.hours_pos (not_lt.1 hsmall)) (by omega)

/-! ## What the figures state -/

theorem secondsFigure_of_coarse {p : DurationParts} (h : 0 < p.hours ∨ 0 < p.minutes) :
    p.secondsFigure = .ofNat p.seconds.floor .second := by
  rw [secondsFigure, if_pos (by simpa using h)]

theorem secondsFigure_of_fine {p : DurationParts} (h : ¬(0 < p.hours ∨ 0 < p.minutes)) :
    p.secondsFigure = .ofTenths (p.seconds.scale 10 1).round := by
  rw [secondsFigure, if_neg (by simpa using h)]

theorem unit_secondsFigure (p : DurationParts) : p.secondsFigure.unit = .second := by
  unfold secondsFigure
  split_ifs <;> rfl

theorem statedTotal_figures (p : DurationParts) :
    statedTotal p.figures = p.hours * 3600 + p.minutes * 60 + p.secondsFigure.number := by
  have hpart (n : Nat) (unit : TimeUnit) :
      ((if n > 0 then [Figure.ofNat n unit] else []).map Figure.amount).sum =
        n * unit.seconds := by
    split_ifs with hn
    · rw [List.map_singleton, List.sum_singleton, Figure.amount, Figure.number_ofNat]
      rfl
    · simp [Nat.eq_zero_of_not_pos hn]
  rw [statedTotal, figures, List.map_append, List.map_append, List.sum_append, List.sum_append,
    hpart, hpart, List.map_singleton, List.sum_singleton, Figure.amount, unit_secondsFigure]
  simp [TimeUnit.seconds]

theorem statedHours_figures (p : DurationParts) : statedHours p.figures = p.hours := by
  have hpart (n : Nat) (unit : TimeUnit) :
      ((if n > 0 then [Figure.ofNat n unit] else []).filter fun f => f.unit = .hour) =
        if n > 0 ∧ unit = .hour then [.ofNat n unit] else [] := by
    by_cases hn : n > 0 <;> by_cases hunit : unit = .hour <;> simp [hn, hunit, Figure.ofNat]
  rw [statedHours, figures, List.filter_append, List.filter_append, hpart, hpart]
  rcases Nat.eq_zero_or_pos p.hours with hzero | hpos
  · simp [hzero, unit_secondsFigure]
  · simp [hpos, unit_secondsFigure]

section Tenths

variable {x : Quotient}

theorem value_scale_ten (x : Quotient) : (x.scale 10 1).value = x.value * 10 := by
  rw [Quotient.value_scale x (by norm_num), zpow_one, Nat.cast_ofNat]

theorem round_scale_ten_of_num_eq_zero (h : x.num = 0) : (x.scale 10 1).round = 0 := by
  simp [Quotient.round, Quotient.scale, h]

/-- Tenths are off by a half at most. -/
theorem abs_tenths_sub_le (h : 0 < x.den) :
    |((x.scale 10 1).round : ℚ) / 10 - x.value| ≤ 1 / 20 := by
  rcases Quotient.num_eq_zero_or_positive h with hzero | hpos
  · rw [round_scale_ten_of_num_eq_zero hzero, Quotient.value_of_num_eq_zero hzero]
    norm_num
  · have hscaled := hpos.scale (show 0 < 10 by norm_num) 1
    have hround := abs_le.1 (Quotient.abs_round_sub_value_le hscaled)
    rw [value_scale_ten] at hround
    rw [abs_le]
    constructor <;> linarith

theorem tenths_lt_sixty_iff (h : 0 < x.den) :
    ((x.scale 10 1).round : ℚ) / 10 < 60 ↔ x.value < 59.95 := by
  rcases Quotient.num_eq_zero_or_positive h with hzero | hpos
  · rw [round_scale_ten_of_num_eq_zero hzero, Quotient.value_of_num_eq_zero hzero]
    norm_num
  · have hround := Quotient.round_lt_iff (hpos.scale (show 0 < 10 by norm_num) 1) (m := 600)
      (by norm_num) (by norm_num)
    rw [value_scale_ten] at hround
    calc ((x.scale 10 1).round : ℚ) / 10 < 60 ↔ ((x.scale 10 1).round : ℚ) < 600 := by
          rw [div_lt_iff₀ (by norm_num)]
          norm_num
      _ ↔ (x.scale 10 1).round < 600 := by exact_mod_cast Iff.rfl
      _ ↔ x.value * 10 < (600 : Nat) - 1 / 2 := hround
      _ ↔ x.value < 59.95 := by
          push_cast
          constructor <;> intro _ <;> linarith

end Tenths

section MakeUp

variable {p : DurationParts} {v : ℚ}

/-- Below a minute there is nothing but the seconds. -/
theorem MakeUp.value_eq_of_fine (h : p.MakeUp v) (hfine : v < 60) : v = p.seconds.value := by
  have hminutes : p.minutes = 0 := by
    have := mt h.coarse_iff.1 (not_le.2 hfine)
    omega
  have hfloor : ⌊v⌋₊ < 60 := (Nat.floor_lt' (by norm_num)).2 (by exact_mod_cast hfine)
  have hvalue := h.value_eq
  rw [hminutes, Nat.div_eq_of_lt (hfloor.trans (by norm_num))] at hvalue
  push_cast at hvalue
  linarith

theorem MakeUp.number_secondsFigure_lt_iff (h : p.MakeUp v) :
    p.secondsFigure.number < 60 ↔ ¬(59.95 ≤ v ∧ v < 60) := by
  by_cases hv : 60 ≤ v
  · rw [secondsFigure_of_coarse (h.coarse_iff.2 hv), Figure.number_ofNat]
    refine iff_of_true ?_ fun hrange => absurd hrange.2 (not_lt.2 hv)
    rw [Quotient.floor_eq]
    exact lt_of_le_of_lt (Nat.floor_le p.seconds.value_nonneg) h.seconds_lt
  · rw [secondsFigure_of_fine (mt h.coarse_iff.1 hv), Figure.number_ofTenths,
      tenths_lt_sixty_iff h.den_pos, ← h.value_eq_of_fine (not_le.1 hv)]
    constructor
    · exact fun hlt hrange => absurd hlt (not_lt.2 hrange.1)
    · exact fun hnot => not_le.1 fun hle => hnot ⟨hle, not_le.1 hv⟩

/-- Only the last half tenth before a full minute is shown as sixty. -/
theorem MakeUp.figures_lt_iff (h : p.MakeUp v) :
    (∀ f ∈ p.figures, f.unit ≠ .hour → f.number < 60) ↔ ¬(59.95 ≤ v ∧ v < 60) := by
  rw [← h.number_secondsFigure_lt_iff]
  constructor
  · exact fun hall => hall _ (by simp [figures]) (by simp [unit_secondsFigure])
  · intro hseconds f hf hunit
    simp only [figures, List.mem_append, List.mem_singleton, List.mem_ite_nil_right] at hf
    rcases hf with (⟨-, rfl⟩ | ⟨-, rfl⟩) | rfl
    · exact absurd rfl hunit
    · rw [Figure.number_ofNat]
      exact_mod_cast h.minutes_lt
    · exact hseconds

/-- What is stated is off by less than a second just when the hours are right. -/
theorem MakeUp.abs_statedTotal_sub_lt_iff (h : p.MakeUp v) :
    |statedTotal p.figures - v| < 1 ↔ p.hours = ⌊v⌋₊ / 3600 := by
  rw [statedTotal_figures]
  by_cases hv : 60 ≤ v
  · rw [secondsFigure_of_coarse (h.coarse_iff.2 hv), Figure.number_ofNat, Quotient.floor_eq]
    have hfloor := Nat.floor_le p.seconds.value_nonneg
    have hlt := Nat.lt_floor_add_one p.seconds.value
    have hvalue := h.value_eq
    generalize ⌊v⌋₊ / 3600 = hours at *
    rw [abs_lt]
    constructor
    · rintro ⟨hlow, hhigh⟩
      exact Quotient.eq_of_cast_lt_cast_add_one (by linarith) (by linarith)
    · intro hhours
      rw [hhours]
      constructor <;> linarith
  · have hcoarse := mt h.coarse_iff.1 hv
    have hhours : p.hours = 0 := by omega
    have hminutes : p.minutes = 0 := by omega
    have htenths := abs_tenths_sub_le h.den_pos
    rw [secondsFigure_of_fine hcoarse, Figure.number_ofTenths, hhours, hminutes]
    refine iff_of_true ?_ (hhours ▸ h.hours_eq (by linarith))
    rw [← h.value_eq_of_fine (not_le.1 hv)] at htenths
    simpa using lt_of_le_of_lt htenths (by norm_num)

end MakeUp

end DurationParts

/-! ## Every duration -/

theorem formatDuration_natCast (n : Nat) :
    formatDuration (.whole n) =
      .ok (DurationParts.text ⟨n / 3600, n % 3600 / 60, ⟨n % 60, 1⟩⟩) := by
  have hnonneg : Seconds.isNegative (.whole n) = false := by simp [Seconds.isNegative]
  rw [formatDuration, hnonneg]
  simp [Seconds.parts, Except.map]

theorem formatDuration_finite {negative : Bool} {significand : Nat} {exponent : Int}
    (h : negative = true → significand = 0) :
    formatDuration (.measured (.finite negative significand exponent)) =
      let x := binaryQuotient significand exponent
      .ok (DurationParts.text
        ⟨x.timesRounded 3600, (x.modulo 3600).timesRounded 60, x.modulo 60⟩) := by
  have hnonneg :
      Seconds.isNegative (.measured (.finite negative significand exponent)) = false := by
    cases negative with
    | false => rfl
    | true => simp [Seconds.isNegative, Binary64.isNegative, h rfl]
  rw [formatDuration, hnonneg]
  rfl

/-- A duration that is not negative has a text, which is that of parts that make it up. -/
theorem Seconds.exists_parts {s : Seconds} {v : ℚ} (hv : s.value? = some v) (h0 : 0 ≤ v) :
    ∃ p : DurationParts, formatDuration s = .ok p.text ∧ p.MakeUp v ∧
      ∀ n, s = .whole n → p.hours = ⌊v⌋₊ / 3600 := by
  cases s with
  | whole n =>
      obtain rfl := Option.some.inj hv
      obtain ⟨m, rfl⟩ := Int.eq_ofNat_of_zero_le (by exact_mod_cast h0 : 0 ≤ n)
      refine ⟨_, formatDuration_natCast m, ?_, fun _ _ => ?_⟩
      · exact_mod_cast DurationParts.makeUp_whole m
      · rw [Int.cast_natCast, Nat.floor_natCast]
  | measured x =>
      cases x with
      | nan => cases hv
      | infinite negative => cases hv
      | finite negative significand exponent =>
          have hpow : (0 : ℚ) < 2 ^ exponent := zpow_pos two_pos exponent
          obtain rfl := Option.some.inj hv
          have hsign : negative = true → significand = 0 := by
            rintro rfl
            rw [if_pos rfl, neg_one_mul, neg_nonneg] at h0
            have hle : (significand : ℚ) ≤ 0 := nonpos_of_mul_nonpos_left h0 hpow
            exact Nat.le_zero.1 (by exact_mod_cast hle)
          have hvalue : (if negative = true then -1 else 1) * (significand * 2 ^ exponent) =
              (binaryQuotient significand exponent).value := by
            rw [value_binaryQuotient]
            cases negative with
            | false => simp
            | true => simp [hsign rfl]
          refine ⟨_, formatDuration_finite hsign, ?_, fun _ h => by cases h⟩
          rw [hvalue]
          exact DurationParts.makeUp_measured
            (Quotient.den_pos_scale Nat.one_pos two_pos exponent)

/-! ## Whole seconds -/

/-- What figures show of a number of whole seconds: they state it exactly, hours and minutes are
shown where there are any, the seconds stand at the end, and they alone have a decimal, which is a
zero, below a minute. -/
structure ShowsWhole (n : Nat) (figures : List Figure) : Prop where
  total_eq : statedTotal figures = n
  lt_sixty : ∀ f ∈ figures, f.unit ≠ .hour → f.number < 60
  units_eq : figures.map Figure.unit =
    (if n / 3600 ≠ 0 then [.hour] else []) ++ (if n % 3600 / 60 ≠ 0 then [.minute] else []) ++
      [.second]
  fraction_eq : ∀ f ∈ figures, f.fraction = if f.unit = .second ∧ n < 60 then some ['0'] else none

section Whole

/-- The parts of a number of whole seconds. -/
abbrev wholeParts (n : Nat) : DurationParts := ⟨n / 3600, n % 3600 / 60, ⟨n % 60, 1⟩⟩

theorem secondsFigure_wholeParts (n : Nat) :
    (wholeParts n).secondsFigure =
      if n < 60 then .ofTenths (n % 60 * 10) else .ofNat (n % 60) .second := by
  by_cases hn : n < 60
  · have hround : ((⟨n % 60, 1⟩ : Quotient).scale 10 1).round = n % 60 * 10 := by
      simp [Quotient.round, Quotient.scale, Nat.mod_one]
    rw [DurationParts.secondsFigure_of_fine (by dsimp only; omega), hround, if_pos hn]
  · rw [DurationParts.secondsFigure_of_coarse (by dsimp only; omega), if_neg hn, Quotient.floor,
      Nat.div_one]

theorem statedTotal_wholeParts (n : Nat) : statedTotal (wholeParts n).figures = n := by
  have hseconds : (wholeParts n).secondsFigure.number = (n % 60 : Nat) := by
    rw [secondsFigure_wholeParts]
    split_ifs
    · rw [Figure.number_ofTenths, Nat.cast_mul, Nat.cast_ofNat,
        mul_div_cancel_right₀ _ (by norm_num)]
    · rw [Figure.number_ofNat]
  have hsplit : n / 3600 * 3600 + n % 3600 / 60 * 60 + n % 60 = n := by omega
  rw [DurationParts.statedTotal_figures, hseconds]
  exact_mod_cast hsplit

theorem fraction_of_mem_wholeParts {n : Nat} {f : Figure} (h : f ∈ (wholeParts n).figures) :
    f.fraction = if f.unit = .second ∧ n < 60 then some ['0'] else none := by
  simp only [DurationParts.figures, List.mem_append, List.mem_singleton,
    List.mem_ite_nil_right] at h
  rcases h with (⟨-, rfl⟩ | ⟨-, rfl⟩) | rfl
  · rfl
  · rfl
  · rw [secondsFigure_wholeParts]
    by_cases hn : n < 60
    · simp [hn, Figure.ofTenths]
    · simp [hn, Figure.ofNat]

theorem showsWhole_wholeParts (n : Nat) : ShowsWhole n (wholeParts n).figures where
  total_eq := statedTotal_wholeParts n
  lt_sixty := by
    rw [(DurationParts.makeUp_whole n).figures_lt_iff]
    rintro ⟨hlow, hhigh⟩
    -- no whole number lies in the last half tenth before a minute
    have hlow : (59 : ℚ) < n := by linarith
    have hlow : 59 < n := by exact_mod_cast hlow
    have hhigh : n < 60 := by exact_mod_cast hhigh
    omega
  units_eq := by
    simp only [DurationParts.figures, List.map_append, List.map_singleton,
      DurationParts.unit_secondsFigure, apply_ite (List.map Figure.unit), List.map_nil,
      Nat.pos_iff_ne_zero, gt_iff_lt]
    rfl
  fraction_eq _ := fraction_of_mem_wholeParts

end Whole

end ReactScaffold.Decimal
