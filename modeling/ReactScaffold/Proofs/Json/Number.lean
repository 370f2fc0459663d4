import ReactScaffold.Json.Parser
import ReactScaffold.Json.Printer
import ReactScaffold.Proofs.Decimal.Numeral

/-!
# Written numbers are read back

The readers of the parts of a number take exactly the characters of that part, as long as what
follows cannot continue the number. Hence `readScalar` reads a written whole number and a written
binary number as the number itself.
-/

namespace ReactScaffold.Json

open Decimal Text

/-- The text does not begin with a character that could continue a number. -/
def NumberEnd (cs : List Char) : Prop :=
  ∀ c ∈ cs.head?, c.isDigit = false ∧ c ≠ '.' ∧ c ≠ 'e' ∧ c ≠ 'E'

theorem numberEnd_cons {c : Char} (h : c.isDigit = false ∧ c ≠ '.' ∧ c ≠ 'e' ∧ c ≠ 'E')
    (cs : List Char) : NumberEnd (c :: cs) := by
  intro d hd
  obtain rfl : c = d := by simpa using hd
  exact h

theorem NumberEnd.no_digit {cs : List Char} (h : NumberEnd cs) :
    ∀ c ∈ cs.head?, c.isDigit = false := fun c hc => (h c hc).1

theorem ne_of_isDigit {c d : Char} (hc : c.isDigit) (hd : d.isDigit = false) : c ≠ d := by
  rintro rfl
  rw [hc] at hd
  cases hd

theorem spanDigits_append {digits rest : List Char} (hdigits : ∀ c ∈ digits, c.isDigit)
    (hrest : ∀ c ∈ rest.head?, c.isDigit = false) :
    spanDigits (digits ++ rest) = (digits, rest) := by
  unfold spanDigits
  induction digits with
  | nil =>
      cases rest with
      | nil => rfl
      | cons c rest =>
        have hc : c.isDigit = false := hrest c (by simp)
        simp [hc]
  | cons d digits ih =>
      have hd : d.isDigit := hdigits d (by simp)
      have ih := ih fun c hc => hdigits c (List.mem_cons_of_mem d hc)
      rw [Prod.mk.injEq] at ih
      simp [hd, ih.1, ih.2]

theorem wholePart_append {x : Numeral} (hx : x.WellFormed) {rest : List Char}
    (hrest : ∀ c ∈ rest.head?, c.isDigit = false) :
    wholePart (x.whole ++ rest) = some (x.whole, rest) := by
  rcases hx.no_leading_zero with hzero | hhead
  · rw [hzero]
    rfl
  · obtain ⟨d, ds, hwhole⟩ := List.exists_cons_of_ne_nil hx.whole_ne_nil
    have hne : d ≠ '0' := fun he => hhead (by rw [hwhole, he, List.head?_cons])
    have hd : d.isDigit := hx.whole_digits d (by simp [hwhole])
    have hspan := spanDigits_append hx.whole_digits hrest
    rw [hwhole, List.cons_append] at hspan ⊢
    rw [wholePart, if_neg hne, if_pos hd, hspan]

theorem fractionPart_append {fraction rest : List Char} (hdigits : ∀ c ∈ fraction, c.isDigit)
    (hrest : ∀ c ∈ rest.head?, c.isDigit = false) (hpoint : fraction = [] → rest.head? ≠ some '.') :
    fractionPart (Numeral.fractionText fraction ++ rest) = (fraction, rest) := by
  unfold Numeral.fractionText
  by_cases hnil : fraction = []
  · subst hnil
    rw [if_pos rfl, List.nil_append]
    cases rest with
    | nil => rfl
    | cons c rest =>
      have hc : c ≠ '.' := fun he => hpoint rfl (by rw [he, List.head?_cons])
      simp [fractionPart, hc]
  · rw [if_neg hnil, List.cons_append, fractionPart, spanDigits_append hdigits hrest]
    simp [hnil]

theorem exponentPart_append (exponent : Option Int) {rest : List Char} (hrest : NumberEnd rest) :
    exponentPart (Numeral.exponentPartText exponent ++ rest) = (exponent, rest) := by
  cases exponent with
  | none =>
      rw [Numeral.exponentPartText, List.nil_append]
      cases rest with
      | nil => rfl
      | cons c rest =>
        obtain ⟨-, -, he, hE⟩ := hrest c (by simp)
        simp [exponentPart, he, hE]
  | some e =>
      have hdigits : ∀ c ∈ zeros (2 - (Nat.toDigits 10 e.natAbs).length) ++
          Nat.toDigits 10 e.natAbs, c.isDigit :=
        List.forall_mem_append.2 ⟨fun c hc => isDigit_of_mem_zeros hc,
          fun c hc => isDigit_of_mem_digits hc⟩
      have hspan := spanDigits_append hdigits hrest.no_digit
      have hvalue : Nat.ofDigitChars 10 (zeros (2 - (Nat.toDigits 10 e.natAbs).length) ++
          Nat.toDigits 10 e.natAbs) 0 = e.natAbs := by
        rw [Nat.ofDigitChars_append, zeros, Nat.ofDigitChars_replicate_zero, Nat.mul_zero,
          Nat.ofDigitChars_ten_toDigits]
      have hne :
          zeros (2 - (Nat.toDigits 10 e.natAbs).length) ++ Nat.toDigits 10 e.natAbs ≠ [] := by
        simp
      have htext : Numeral.exponentPartText (some e) ++ rest =
          'e' :: (if e < 0 then '-' else '+') ::
            ((zeros (2 - (Nat.toDigits 10 e.natAbs).length) ++ Nat.toDigits 10 e.natAbs) ++
              rest) := by
        simp [Numeral.exponentPartText, exponentText]
      rw [htext]
      by_cases hneg : e < 0
      · have hback : -((e.natAbs : Nat) : Int) = e := by omega
        simp only [hneg, if_true, exponentPart, true_or, hspan, hvalue, List.isEmpty_iff, hne,
          if_false, hback]
      · have hback : ((e.natAbs : Nat) : Int) = e := by omega
        simp only [hneg, if_false, exponentPart, true_or, if_true, hspan, hvalue,
          List.isEmpty_iff, hne, hback]
        rfl

/-- The sign in front of a written number. -/
def signText (negative : Bool) : List Char := if negative then ['-'] else []

theorem printInt_append (n : Int) (rest : List Char) :
    printInt n ++ rest = signText (decide (n < 0)) ++ (Nat.toDigits 10 n.natAbs ++ rest) := by
  by_cases hneg : n < 0
  · simp [printInt, signText, hneg]
  · simp [printInt, signText, hneg]

theorem splitSign_append (negative : Bool) {cs : List Char} (h : cs.head? ≠ some '-') :
    splitSign (signText negative ++ cs) = (negative, cs) := by
  cases negative with
  | true => rfl
  | false =>
      unfold splitSign
      split
      · exact absurd (by simp_all [signText]) h
      · rfl

theorem numberEnd_fraction (x : Numeral) {rest : List Char} (hrest : NumberEnd rest) :
    (∀ c ∈ (Numeral.exponentPartText x.exponent ++ rest).head?, c.isDigit = false) ∧
      (Numeral.exponentPartText x.exponent ++ rest).head? ≠ some '.' := by
  cases x.exponent with
  | none => exact ⟨hrest.no_digit, fun he => (hrest '.' he).2.1 rfl⟩
  | some e => simp [Numeral.exponentPartText]

theorem no_digit_after_whole (x : Numeral) {rest : List Char} (hrest : NumberEnd rest) :
    ∀ c ∈ (Numeral.fractionText x.fraction ++
      (Numeral.exponentPartText x.exponent ++ rest)).head?, c.isDigit = false := by
  unfold Numeral.fractionText
  split_ifs
  · exact (numberEnd_fraction x hrest).1
  · simp

theorem head?_ne_of_digit {cs : List Char} {c : Char} (hne : cs ≠ [])
    (hdigits : ∀ d ∈ cs, d.isDigit) (hc : c.isDigit = false) (rest : List Char) :
    (cs ++ rest).head? ≠ some c := by
  obtain ⟨d, ds, rfl⟩ := List.exists_cons_of_ne_nil hne
  have hd := ne_of_isDigit (hdigits d (by simp)) hc
  simpa using hd

/-- A numeral with a fraction or an exponent is read as the number nearest to it. -/
theorem readNumber_numeral {rules : Rules} (hrules : rules.limitsFractions = false) {x : Numeral}
    (hx : x.WellFormed) (hbinary : x.IsBinary) (negative : Bool) {rest : List Char}
    (hrest : NumberEnd rest) :
    readNumber rules (signText negative ++ (x.text ++ rest)) =
      .ok (.float (.ofDecimal negative x.digits x.scale), rest) := by
  have hsign := splitSign_append negative
    (head?_ne_of_digit hx.whole_ne_nil hx.whole_digits (c := '-') rfl
      (Numeral.fractionText x.fraction ++ (Numeral.exponentPartText x.exponent ++ rest)))
  have hwhole := wholePart_append hx (no_digit_after_whole x hrest)
  have hfraction := fractionPart_append hx.fraction_digits (numberEnd_fraction x hrest).1
    fun _ => (numberEnd_fraction x hrest).2
  have hexponent := exponentPart_append x.exponent hrest
  have hnot_whole : (x.fraction.isEmpty && x.exponent.isNone) = false := by
    rcases hbinary with h | h
    · rw [List.isEmpty_eq_false_iff.2 h, Bool.false_and]
    · rw [Option.isNone_eq_false_iff.2 (Option.isSome_iff_ne_none.2 h), Bool.and_false]
  rw [Numeral.text, List.append_assoc, List.append_assoc]
  simp only [readNumber, hsign, hwhole, hfraction, hexponent, hnot_whole, hrules]
  rfl

/-- A written whole number is read as the number when its digits are not too many. -/
theorem readNumber_printInt (rules : Rules) {n : Int}
    (hn : (Nat.toDigits 10 n.natAbs).length ≤ maxDigits) {rest : List Char}
    (hrest : NumberEnd rest) :
    readNumber rules (printInt n ++ rest) = .ok (.int n, rest) := by
  have hdigits : ∀ c ∈ Nat.toDigits 10 n.natAbs, c.isDigit := fun _ => isDigit_of_mem_digits
  have hx : (Numeral.mk (Nat.toDigits 10 n.natAbs) [] none).WellFormed := by
    refine ⟨hdigits, by simp, Nat.toDigits_ne_nil, ?_⟩
    by_cases hzero : n.natAbs = 0
    · exact .inl (by rw [hzero]; rfl)
    · exact .inr (head?_toDigits_ne (Nat.pos_of_ne_zero hzero))
  have hsign := splitSign_append (decide (n < 0))
    (head?_ne_of_digit Nat.toDigits_ne_nil hdigits (c := '-') rfl rest)
  have hwhole := wholePart_append hx hrest.no_digit
  have hfraction : fractionPart (Numeral.fractionText [] ++ rest) = ([], rest) :=
    fractionPart_append (by simp) hrest.no_digit fun _ he => (hrest '.' he).2.1 rfl
  have hexponent := exponentPart_append none hrest
  have hvalue : Nat.ofDigitChars 10 (Nat.toDigits 10 n.natAbs) 0 = n.natAbs :=
    Nat.ofDigitChars_ten_toDigits
  have hsize : ¬ maxDigits < (Nat.toDigits 10 n.natAbs).length := by omega
  have hback : (if decide (n < 0) = true then -((n.natAbs : Nat) : Int) else n.natAbs) = n := by
    split_ifs with h
    · have : n < 0 := of_decide_eq_true h
      omega
    · have : ¬ n < 0 := fun hlt => h (decide_eq_true hlt)
      omega
  simp only [Numeral.fractionText, if_true, List.nil_append, Numeral.exponentPartText] at *
  rw [printInt_append]
  simp only [readNumber, hsign, hwhole, hfraction, hexponent, hvalue, hsize, hback]
  rfl

/-- A text that begins with a digit, or with a sign and a digit, is read as a number. -/
theorem readScalar_of_digit (rules : Rules) (negative : Bool) {digits : List Char}
    (hne : digits ≠ []) (hdigits : ∀ c ∈ digits, c.isDigit) (rest : List Char) :
    readScalar rules (signText negative ++ (digits ++ rest)) =
      readNumber rules (signText negative ++ (digits ++ rest)) := by
  obtain ⟨d, ds, rfl⟩ := List.exists_cons_of_ne_nil hne
  have hd : d.isDigit := hdigits d (by simp)
  have hname (c : Char) (hc : c.isDigit = false) : d ≠ c := ne_of_isDigit hd hc
  cases negative with
  | true =>
      have := hname 'I' rfl
      simp [signText, readScalar, this]
  | false =>
      have hn := hname 'n' rfl
      have ht := hname 't' rfl
      have hf := hname 'f' rfl
      have hN := hname 'N' rfl
      have hI := hname 'I' rfl
      have hminus := hname '-' rfl
      simp [signText, readScalar, hn, ht, hf, hN, hI, hminus]

/-- A written whole number is read as the number. -/
theorem readScalar_printInt (rules : Rules) {n : Int}
    (hn : (Nat.toDigits 10 n.natAbs).length ≤ maxDigits) {rest : List Char}
    (hrest : NumberEnd rest) :
    readScalar rules (printInt n ++ rest) = .ok (.int n, rest) := by
  have hdigits : ∀ c ∈ Nat.toDigits 10 n.natAbs, c.isDigit := fun _ => isDigit_of_mem_digits
  rw [← readNumber_printInt rules hn hrest, printInt_append]
  exact readScalar_of_digit rules _ Nat.toDigits_ne_nil hdigits rest

/-- The text of a binary number is read as the number. -/
theorem readScalar_text {rules : Rules} (hrules : rules.limitsFractions = false) {x : Binary64}
    (hx : x.Canonical) {rest : List Char} (hrest : NumberEnd rest) :
    readScalar rules ((x.text floatNames).toList ++ rest) = .ok (.float x, rest) := by
  cases x with
  | nan => rfl
  | infinite negative => cases negative <;> rfl
  | finite negative significand exponent =>
      obtain ⟨htext, hwell, hbinary, hvalue⟩ := finiteNumeral_writes negative hx
      show readScalar rules ((Decimal.finiteText negative significand exponent).toList ++ rest) = _
      rw [htext, List.append_assoc]
      have hnumber := readNumber_numeral hrules hwell hbinary negative hrest
      rw [hvalue] at hnumber
      rw [← hnumber, Numeral.text, List.append_assoc, List.append_assoc]
      exact readScalar_of_digit rules negative hwell.whole_ne_nil hwell.whole_digits _

end ReactScaffold.Json
