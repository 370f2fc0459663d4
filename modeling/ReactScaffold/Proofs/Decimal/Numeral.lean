import ReactScaffold.Proofs.Decimal.ReadBack

/-!
# Numerals

The text of a finite number is a numeral: digits before the point, digits after it and an exponent.
`finiteNumeral_writes` says which numeral that is, and that it stands for the number.
-/

namespace ReactScaffold.Decimal

open Binary64

/-- The parts of a written number without its sign. -/
structure Numeral where
  whole : List Char
  fraction : List Char
  exponent : Option Int

namespace Numeral

/-- The point and the digits after it, if there are any. -/
def fractionText (fraction : List Char) : List Char :=
  if fraction = [] then [] else '.' :: fraction

/-- The mark of an exponent and the exponent, if there is one. -/
def exponentPartText : Option Int → List Char
  | none => []
  | some e => 'e' :: exponentText e

/-- The written form of a numeral. -/
def text (x : Numeral) : List Char :=
  x.whole ++ fractionText x.fraction ++ exponentPartText x.exponent

/-- The number that all digits make. -/
def digits (x : Numeral) : Nat := Nat.ofDigitChars 10 (x.whole ++ x.fraction) 0

/-- The exponent of the last digit. -/
def scale (x : Numeral) : Int := x.exponent.getD 0 - x.fraction.length

/-- All digits are digits, and the first one is no zero unless it stands alone. -/
structure WellFormed (x : Numeral) : Prop where
  whole_digits : ∀ c ∈ x.whole, c.isDigit
  fraction_digits : ∀ c ∈ x.fraction, c.isDigit
  whole_ne_nil : x.whole ≠ []
  no_leading_zero : x.whole = ['0'] ∨ x.whole.head? ≠ some '0'

/-- A numeral is written with a fraction or an exponent. -/
def IsBinary (x : Numeral) : Prop := x.fraction ≠ [] ∨ x.exponent ≠ none

end Numeral

/-- The numeral that lays out digits, the first of them having the given exponent of ten. -/
def layoutNumeral (digits : List Char) (first : Int) : Numeral :=
  if -4 ≤ first ∧ first < 16 then
    if first < 0 then ⟨['0'], zeros ((-first).toNat - 1) ++ digits, none⟩
    else if digits.length ≤ first.toNat + 1 then
      ⟨digits ++ zeros (first.toNat + 1 - digits.length), ['0'], none⟩
    else ⟨digits.take (first.toNat + 1), digits.drop (first.toNat + 1), none⟩
  else ⟨digits.take 1, digits.drop 1, some first⟩

theorem isDigit_of_mem_zeros {n : Nat} {c : Char} (h : c ∈ zeros n) : c.isDigit := by
  rw [zeros, List.mem_replicate] at h
  rw [h.2]
  rfl

theorem layout_eq_text {digits : List Char} (hne : digits ≠ []) (first : Int) :
    layout digits first = (layoutNumeral digits first).text := by
  unfold layout layoutNumeral
  by_cases hplain : -4 ≤ first ∧ first < 16
  · rw [if_pos hplain, if_pos hplain]
    by_cases hneg : first < 0
    · simp [Numeral.text, Numeral.fractionText, Numeral.exponentPartText, hne, hneg]
    · rw [if_neg hneg, if_neg hneg]
      by_cases hlength : digits.length ≤ first.toNat + 1
      · simp [Numeral.text, Numeral.fractionText, Numeral.exponentPartText, hlength,
          List.take_of_length_le hlength]
      · have hzeros : zeros (first.toNat + 1 - digits.length) = [] := by
          rw [Nat.sub_eq_zero_of_le (by omega)]
          rfl
        simp [Numeral.text, Numeral.fractionText, Numeral.exponentPartText, hlength, hzeros]
  · rw [if_neg hplain, if_neg hplain]
    by_cases htail : digits.drop 1 = []
    · simp [Numeral.text, Numeral.fractionText, Numeral.exponentPartText, htail]
    · simp [Numeral.text, Numeral.fractionText, Numeral.exponentPartText]

theorem layoutNumeral_wellFormed {digits : List Char} (hne : digits ≠ [])
    (hdigits : ∀ c ∈ digits, c.isDigit) (hhead : digits.head? ≠ some '0') (first : Int) :
    (layoutNumeral digits first).WellFormed := by
  have hzeros (n : Nat) : ∀ c ∈ zeros n, c.isDigit := fun c hc => isDigit_of_mem_zeros hc
  have htake (n : Nat) : ∀ c ∈ digits.take n, c.isDigit :=
    fun c hc => hdigits c (List.mem_of_mem_take hc)
  have hdrop (n : Nat) : ∀ c ∈ digits.drop n, c.isDigit :=
    fun c hc => hdigits c (List.mem_of_mem_drop hc)
  obtain ⟨d, rest, rfl⟩ := List.exists_cons_of_ne_nil hne
  have hd : d ≠ '0' := fun he => hhead (by rw [he, List.head?_cons])
  unfold layoutNumeral
  split_ifs with hplain hneg hlength
  · exact ⟨by simp, List.forall_mem_append.2 ⟨hzeros _, hdigits⟩, by simp, .inl rfl⟩
  · exact ⟨List.forall_mem_append.2 ⟨hdigits, hzeros _⟩, by simp, by simp, .inr (by simp [hd])⟩
  · exact ⟨htake _, hdrop _, by simp, .inr (by simp [hd])⟩
  · exact ⟨htake 1, hdrop 1, by simp, .inr (by simp [hd])⟩

theorem layoutNumeral_isBinary {digits : List Char} (hne : digits ≠ []) (first : Int) :
    (layoutNumeral digits first).IsBinary := by
  unfold layoutNumeral
  split_ifs with hplain hneg hlength
  · exact .inl (by simp [hne])
  · exact .inl (by simp)
  · refine .inl ?_
    rw [Ne, List.drop_eq_nil_iff]
    exact hlength
  · exact .inr (by simp)

/-- A layout keeps the value of the digits. -/
theorem ofDecimal_layoutNumeral (negative : Bool) {digits : List Char} (hne : digits ≠ [])
    (first : Int) :
    ofDecimal negative (layoutNumeral digits first).digits (layoutNumeral digits first).scale =
      ofDecimal negative (Nat.ofDigitChars 10 digits 0) (first + 1 - digits.length) := by
  have hpos : 0 < digits.length := List.length_pos_iff.2 hne
  unfold layoutNumeral
  split_ifs with hplain hneg hlength
  · have hvalue : Nat.ofDigitChars 10 (['0'] ++ (zeros ((-first).toNat - 1) ++ digits)) 0 =
        Nat.ofDigitChars 10 digits 0 := by
      rw [Nat.ofDigitChars_append, Nat.ofDigitChars_append, zeros,
        Nat.ofDigitChars_replicate_zero]
      simp [Nat.ofDigitChars_cons]
    unfold Numeral.digits Numeral.scale
    rw [hvalue]
    congr 1
    simp only [Option.getD_none, List.length_append, zeros, List.length_replicate]
    omega
  · have hvalue : Nat.ofDigitChars 10
        ((digits ++ zeros (first.toNat + 1 - digits.length)) ++ ['0']) 0 =
          Nat.ofDigitChars 10 digits 0 * 10 ^ (first.toNat + 1 - digits.length + 1) := by
      rw [List.append_assoc, zeros, ← List.replicate_succ', Nat.ofDigitChars_append,
        Nat.ofDigitChars_replicate_zero, mul_comm]
    unfold Numeral.digits Numeral.scale
    rw [hvalue, ofDecimal_mul_pow_ten]
    congr 1
    simp only [Option.getD_none, List.length_singleton]
    omega
  · unfold Numeral.digits Numeral.scale
    rw [List.take_append_drop]
    congr 1
    simp only [Option.getD_none, List.length_drop]
    omega
  · unfold Numeral.digits Numeral.scale
    rw [List.take_append_drop]
    congr 1
    simp only [Option.getD_some, List.length_drop]
    omega

theorem isDigit_of_mem_digits {n : Nat} {c : Char} (h : c ∈ Nat.toDigits 10 n) : c.isDigit :=
  Nat.isDigit_of_mem_toDigits (by norm_num) (by norm_num) h

/-- The digits of a positive number do not start with a zero. -/
theorem head?_toDigits_ne {n : Nat} (hn : 0 < n) : (Nat.toDigits 10 n).head? ≠ some '0' := by
  induction n using Nat.strongRecOn with
  | ind n ih =>
      rw [Nat.toDigits_eq_if (by norm_num)]
      split_ifs with hsmall
      · interval_cases n <;> decide
      · have hdiv : 0 < n / 10 := by omega
        have hne : Nat.toDigits 10 (n / 10) ≠ [] := Nat.toDigits_ne_nil
        rw [List.head?_append_of_ne_nil _ hne]
        exact ih (n / 10) (by omega) hdiv

/-- The digits without the zeros at their end. -/
def significantDigits (digits : List Char) : List Char :=
  (digits.reverse.dropWhile (· = '0')).reverse

theorem significantDigits_append_zeros (digits : List Char) :
    ∃ k, digits = significantDigits digits ++ zeros k := by
  refine ⟨(digits.reverse.takeWhile (· = '0')).length, ?_⟩
  have hzeros : digits.reverse.takeWhile (· = '0') =
      zeros (digits.reverse.takeWhile (· = '0')).length := by
    refine List.eq_replicate_of_mem fun c hc => ?_
    simpa using List.mem_takeWhile_imp hc
  have hsplit := congrArg List.reverse
    (List.takeWhile_append_dropWhile (p := (· = '0')) (l := digits.reverse))
  rw [List.reverse_append, List.reverse_reverse] at hsplit
  rw [significantDigits]
  conv_lhs => rw [← hsplit]
  congr 1
  rw [hzeros]
  simp [zeros]

theorem significantDigits_ne_nil {digits : List Char} (h : 0 < Nat.ofDigitChars 10 digits 0) :
    significantDigits digits ≠ [] := by
  intro hnil
  obtain ⟨k, hk⟩ := significantDigits_append_zeros digits
  rw [hnil, List.nil_append] at hk
  rw [hk, zeros, Nat.ofDigitChars_replicate_zero] at h
  omega

/-- Digits that are laid out without the zeros at their end are read as the number they were. -/
theorem ofDecimal_layoutNumeral_significantDigits (negative : Bool) {digits : List Char}
    (hpos : 0 < Nat.ofDigitChars 10 digits 0) (last : Int) :
    ofDecimal negative
        (layoutNumeral (significantDigits digits) (last + digits.length - 1)).digits
        (layoutNumeral (significantDigits digits) (last + digits.length - 1)).scale =
      ofDecimal negative (Nat.ofDigitChars 10 digits 0) last := by
  have hne := significantDigits_ne_nil hpos
  obtain ⟨k, hk⟩ := significantDigits_append_zeros digits
  generalize significantDigits digits = first at hne hk ⊢
  subst hk
  have hscale : last + ((first ++ zeros k).length : Int) - 1 + 1 - first.length = last + k := by
    rw [List.length_append, zeros, List.length_replicate]
    push_cast
    ring
  rw [ofDecimal_layoutNumeral negative hne, hscale, Nat.ofDigitChars_append, zeros,
    Nat.ofDigitChars_replicate_zero, mul_comm, ofDecimal_mul_pow_ten]

/-- The numeral of a finite number that is not negative. -/
def finiteNumeral (significand : Nat) (exponent : Int) : Numeral :=
  if significand = 0 then ⟨['0'], ['0'], none⟩
  else
    let all := Nat.toDigits 10 (shortest significand exponent).1
    layoutNumeral (significantDigits all) ((shortest significand exponent).2 + all.length - 1)

/-- The text is that of the numeral, which is read as the number. -/
structure Numeral.Writes (x : Numeral) (negative : Bool) (significand : Nat) (exponent : Int) :
    Prop where
  text_eq : (finiteText negative significand exponent).toList =
    (if negative then ['-'] else []) ++ x.text
  wellFormed : x.WellFormed
  isBinary : x.IsBinary
  read : ofDecimal negative x.digits x.scale = finite negative significand exponent

theorem finiteNumeral_zero_writes (negative : Bool) :
    (finiteNumeral 0 minExponent).Writes negative 0 minExponent := by
  have hnumeral : finiteNumeral 0 minExponent = ⟨['0'], ['0'], none⟩ := if_pos rfl
  have htext : finiteText negative 0 minExponent =
      String.ofList (if negative then ['-', '0', '.', '0'] else ['0', '.', '0']) := rfl
  rw [hnumeral]
  refine ⟨?_, ⟨by simp, by simp, by simp, .inl rfl⟩, .inl (by simp), ofDecimal_zero negative _⟩
  rw [htext]
  cases negative <;> rfl

theorem finiteNumeral_pos_writes (negative : Bool) {significand : Nat} {exponent : Int}
    (hpos : 0 < significand) (hc : (finite false significand exponent).Canonical) :
    (finiteNumeral significand exponent).Writes negative significand exponent := by
  have hread := ofDecimal_shortest hpos hc
  have hnumeral : finiteNumeral significand exponent =
      layoutNumeral (significantDigits (Nat.toDigits 10 (shortest significand exponent).1))
        ((shortest significand exponent).2 +
          (Nat.toDigits 10 (shortest significand exponent).1).length - 1) := if_neg hpos.ne'
  have hnumber : 0 < (shortest significand exponent).1 := by
    refine Nat.pos_of_ne_zero fun he => hpos.ne' ?_
    rw [he, ofDecimal_zero] at hread
    exact (finite.inj hread).2.1.symm
  have hhead := head?_toDigits_ne hnumber
  have hvalue : Nat.ofDigitChars 10 (Nat.toDigits 10 (shortest significand exponent).1) 0 =
      (shortest significand exponent).1 := Nat.ofDigitChars_ten_toDigits
  have hne : significantDigits (Nat.toDigits 10 (shortest significand exponent).1) ≠ [] :=
    significantDigits_ne_nil (by rwa [hvalue])
  obtain ⟨k, hk⟩ :=
    significantDigits_append_zeros (Nat.toDigits 10 (shortest significand exponent).1)
  rw [hnumeral]
  refine ⟨?_, layoutNumeral_wellFormed hne (fun c hc => ?_) ?_ _, layoutNumeral_isBinary hne _, ?_⟩
  · unfold finiteText
    rw [if_neg hpos.ne']
    generalize shortest significand exponent = found at hne ⊢
    show (String.ofList (if negative then '-' :: layout (significantDigits _) _
      else layout (significantDigits _) _)).toList = _
    rw [layout_eq_text hne]
    cases negative <;> simp
  · have hmem := List.mem_append_left (zeros k) hc
    rw [← hk] at hmem
    exact isDigit_of_mem_digits hmem
  · rw [hk, List.head?_append_of_ne_nil _ hne] at hhead
    exact hhead
  · rw [ofDecimal_layoutNumeral_significantDigits negative (by rwa [hvalue]), hvalue,
      ← withSign_ofDecimal negative false, hread]
    rfl

/-- The text of a finite number is that of its numeral, which is read as the number. -/
theorem finiteNumeral_writes (negative : Bool) {significand : Nat} {exponent : Int}
    (hc : (finite false significand exponent).Canonical) :
    (finiteNumeral significand exponent).Writes negative significand exponent := by
  by_cases hzero : significand = 0
  · subst hzero
    obtain rfl : exponent = minExponent := by simpa using hc.2.2.2
    exact finiteNumeral_zero_writes negative
  · exact finiteNumeral_pos_writes negative (Nat.pos_of_ne_zero hzero) hc

end ReactScaffold.Decimal
