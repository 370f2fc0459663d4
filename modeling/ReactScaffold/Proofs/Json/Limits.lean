import ReactScaffold.Proofs.Decimal.Nearest
import ReactScaffold.Proofs.Json.Steps
import ReactScaffold.Proofs.OrderedMap

/-!
# What a reader yields

A value that was read keeps the limits of the reader: its whole numbers have no more digits than
allowed, its binary numbers are in canonical form, the names in each object differ, and its nesting
is no deeper than allowed. `parse_readable` says so of every text.
-/

namespace ReactScaffold

namespace Json

open Decimal Text

/-- The value is within the limits of the reader, with so many levels that may be opened. -/
inductive Readable : Nat → Document → Prop where
  | null {depth : Nat} : Readable depth .null
  | bool {depth : Nat} {b : Bool} : Readable depth (.bool b)
  | int {depth : Nat} {n : Int} (digits : (Nat.toDigits 10 n.natAbs).length ≤ maxDigits) :
      Readable depth (.int n)
  | float {depth : Nat} {x : Binary64} (canonical : x.Canonical) : Readable depth (.float x)
  | str {depth : Nat} {t : WideText} : Readable depth (.str t)
  | arr {depth : Nat} {items : List Document} (each : ∀ v ∈ items, Readable depth v) :
      Readable (depth + 1) (.arr items)
  | obj {depth : Nat} {members : List (WideText × Document)}
      (names : (OrderedMap.keys members).Nodup) (each : ∀ m ∈ members, Readable depth m.2) :
      Readable (depth + 1) (.obj members)

theorem ofDigitChars_lt {digits : List Char} (hdigits : ∀ c ∈ digits, c.isDigit) (start : Nat) :
    Nat.ofDigitChars 10 digits start < (start + 1) * 10 ^ digits.length := by
  induction digits generalizing start with
  | nil => simp
  | cons d digits ih =>
      have hd : d.toNat - '0'.toNat ≤ 9 := by
        have := Char.isDigit_iff_toNat.1 (hdigits d (by simp))
        simp only [Char.reduceToNat] at this ⊢
        omega
      have hrest := ih (fun c hc => hdigits c (List.mem_cons_of_mem d hc))
        (10 * start + (d.toNat - '0'.toNat))
      rw [Nat.ofDigitChars_cons, List.length_cons, pow_succ']
      refine lt_of_lt_of_le hrest ?_
      rw [← mul_assoc]
      exact Nat.mul_le_mul_right _ (by omega)

theorem wholePart_digits {cs whole left : List Char} (h : wholePart cs = some (whole, left)) :
    ∀ c ∈ whole, c.isDigit := by
  unfold wholePart at h
  split at h
  · cases h
  · split_ifs at h with hzero hdigit
    · obtain ⟨rfl, -⟩ := Prod.mk.inj (Option.some.inj h)
      simp
    · obtain ⟨rfl, -⟩ := Prod.mk.inj (Option.some.inj h)
      exact fun c hc => List.mem_takeWhile_imp hc

/-- A number of at most so many digits is written with no more. -/
theorem length_toDigits_ofDigitChars {digits : List Char} (hdigits : ∀ c ∈ digits, c.isDigit)
    (hlength : digits.length ≤ maxDigits) :
    (Nat.toDigits 10 (Nat.ofDigitChars 10 digits 0)).length ≤ maxDigits := by
  have hlt := ofDigitChars_lt hdigits 0
  rw [Nat.length_toDigits_le_iff (by norm_num) (by norm_num [maxDigits])]
  calc
    Nat.ofDigitChars 10 digits 0 < (0 + 1) * 10 ^ digits.length := hlt
    _ = 10 ^ digits.length := by rw [Nat.zero_add, Nat.one_mul]
    _ ≤ 10 ^ maxDigits := Nat.pow_le_pow_right (by norm_num) hlength

theorem readNumber_readable {rules : Rules} {cs left : List Char} {v : Document} {depth : Nat}
    (h : readNumber rules cs = .ok (v, left)) : Readable depth v := by
  unfold readNumber at h
  generalize splitSign cs = sign at h
  obtain ⟨negative, unsigned⟩ := sign
  dsimp only at h
  cases hwhole : wholePart unsigned with
  | none =>
      rw [hwhole] at h
      cases h
  | some parts =>
      obtain ⟨whole, afterWhole⟩ := parts
      rw [hwhole] at h
      dsimp only at h
      generalize fractionPart afterWhole = fraction at h
      generalize exponentPart fraction.2 = exponent at h
      have hsmall (hlimit : ¬ maxDigits < whole.length) :
          (Nat.toDigits 10 (Nat.ofDigitChars 10 whole 0)).length ≤ maxDigits :=
        length_toDigits_ofDigitChars (wholePart_digits hwhole) (by omega)
      split_ifs at h with hlimit hkind hsign
      · obtain ⟨rfl, -⟩ := Prod.mk.inj (Except.ok.inj h)
        rw [hkind, Bool.true_or, Bool.true_and, decide_eq_true_iff] at hlimit
        exact .int (by simpa using hsmall hlimit)
      · obtain ⟨rfl, -⟩ := Prod.mk.inj (Except.ok.inj h)
        rw [hkind, Bool.true_or, Bool.true_and, decide_eq_true_iff] at hlimit
        exact .int (by simpa using hsmall hlimit)
      · obtain ⟨rfl, -⟩ := Prod.mk.inj (Except.ok.inj h)
        exact .float (Binary64.ofDecimal_canonical _ _ _)

theorem readScalar_readable {rules : Rules} {cs left : List Char} {v : Document} {depth : Nat}
    (h : readScalar rules cs = .ok (v, left)) : Readable depth v := by
  unfold readScalar at h
  split at h
  · obtain ⟨rfl, -⟩ := Prod.mk.inj (Except.ok.inj h)
    exact .null
  · obtain ⟨rfl, -⟩ := Prod.mk.inj (Except.ok.inj h)
    exact .bool
  · obtain ⟨rfl, -⟩ := Prod.mk.inj (Except.ok.inj h)
    exact .bool
  · obtain ⟨rfl, -⟩ := Prod.mk.inj (Except.ok.inj h)
    exact .float trivial
  · obtain ⟨rfl, -⟩ := Prod.mk.inj (Except.ok.inj h)
    exact .float trivial
  · obtain ⟨rfl, -⟩ := Prod.mk.inj (Except.ok.inj h)
    exact .float trivial
  · exact readNumber_readable h

variable {rules : Rules}

/-- What each of the three readers yields, given so many steps. -/
structure YieldsReadable (rules : Rules) (fuel : Nat) : Prop where
  value {depth : Nat} {cs left : List Char} {v : Document}
    (h : readValue rules fuel depth cs = .ok (v, left)) : Readable depth v
  items {depth : Nat} {cs left : List Char} {vs : List Document}
    (h : readItems rules fuel depth cs = .ok (vs, left)) : ∀ v ∈ vs, Readable depth v
  members {depth : Nat} {cs left : List Char} {ms : List (WideText × Document)}
    (h : readMembers rules fuel depth cs = .ok (ms, left)) : ∀ m ∈ ms, Readable depth m.2

theorem readValue_readable (hrules : rules.emptyNests = true) {fuel depth : Nat}
    (ih : YieldsReadable rules fuel) {cs left : List Char} {v : Document}
    (h : readValue rules (fuel + 1) depth cs = .ok (v, left)) : Readable depth v := by
  cases readValue_step hrules h with
  | str hstring => exact .str
  | objEmpty hclosed => exact .obj List.nodup_nil (by simp)
  | @obj _ _ _ ms hmembers =>
    refine .obj (OrderedMap.nodup_keys_insertAll (m := []) List.nodup_nil ms) fun m hm => ?_
    rcases OrderedMap.mem_insertAll hm with hnil | hmem
    · cases hnil
    · exact ih.members hmembers m hmem
  | arrEmpty hclosed => exact .arr (by simp)
  | arr hitems => exact .arr (ih.items hitems)
  | scalar hscalar => exact readScalar_readable hscalar

theorem readItems_readable {fuel depth : Nat} (ih : YieldsReadable rules fuel)
    {cs left : List Char} {vs : List Document}
    (h : readItems rules (fuel + 1) depth cs = .ok (vs, left)) : ∀ v ∈ vs, Readable depth v := by
  cases readItems_step h with
  | last hvalue hclosed =>
    rw [List.forall_mem_singleton]
    exact ih.value hvalue
  | more hvalue hcomma hitems =>
    rw [List.forall_mem_cons]
    exact ⟨ih.value hvalue, ih.items hitems⟩

theorem readMembers_readable {fuel depth : Nat} (ih : YieldsReadable rules fuel)
    {cs left : List Char} {ms : List (WideText × Document)}
    (h : readMembers rules (fuel + 1) depth cs = .ok (ms, left)) :
    ∀ m ∈ ms, Readable depth m.2 := by
  cases readMembers_step h with
  | last hname hcolon hvalue hclosed =>
    rw [List.forall_mem_singleton]
    exact ih.value hvalue
  | more hname hcolon hvalue hcomma hmembers =>
    rw [List.forall_mem_cons]
    exact ⟨ih.value hvalue, ih.members hmembers⟩

theorem yieldsReadable (hrules : rules.emptyNests = true) (fuel : Nat) :
    YieldsReadable rules fuel := by
  induction fuel with
  | zero => exact ⟨(nomatch ·), (nomatch ·), (nomatch ·)⟩
  | succ fuel ih =>
      exact ⟨readValue_readable hrules ih, readItems_readable ih, readMembers_readable ih⟩

/-- A value that was read is within the limits of the reader. -/
theorem parse_readable {cs : List Char} {v : Document} (h : parse cs = .ok v) :
    Readable Rules.lenient.maxNesting v := by
  unfold parse parseBy at h
  split at h
  · cases h
  · obtain ⟨⟨v, afterValue⟩, hv, h⟩ := bind_eq_ok h
    dsimp only at h
    split at h
    · obtain rfl := Except.ok.inj h
      exact (yieldsReadable rfl _).value hv
    · cases h

end Json

end ReactScaffold
