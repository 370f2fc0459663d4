import ReactScaffold.Proofs.Json.Layout

/-!
# Line endings of written documents

A written document has no carriage returns, so reading its file changes no line endings.
-/

namespace ReactScaffold.Json

open Decimal Text

theorem notMem_numeral {x : Numeral} (hx : x.WellFormed) : '\r' ∉ x.text := by
  have hdigits {cs : List Char} (h : ∀ c ∈ cs, c.isDigit) : '\r' ∉ cs :=
    fun hmem => absurd (h _ hmem) (by decide)
  have hfraction : '\r' ∉ Numeral.fractionText x.fraction := by
    unfold Numeral.fractionText
    split_ifs
    · exact List.not_mem_nil
    · exact List.not_mem_cons_of_ne_of_not_mem (by decide) (hdigits hx.fraction_digits)
  have hexponent : '\r' ∉ Numeral.exponentPartText x.exponent := by
    cases x.exponent with
    | none => exact List.not_mem_nil
    | some e =>
        have hzeros : '\r' ∉ zeros (2 - (Nat.toDigits 10 e.natAbs).length) :=
          hdigits fun c hc => isDigit_of_mem_zeros hc
        have hnumber : '\r' ∉ Nat.toDigits 10 e.natAbs :=
          hdigits fun c hc => isDigit_of_mem_digits hc
        have hsign : '\r' ≠ if e < 0 then '-' else '+' := by
          split_ifs <;> decide
        simp [Numeral.exponentPartText, exponentText, hzeros, hnumber, hsign]
  rw [Numeral.text, List.mem_append, List.mem_append]
  rintro ((h | h) | h)
  · exact hdigits hx.whole_digits h
  · exact hfraction h
  · exact hexponent h

theorem notMem_text {x : Binary64} (hx : x.Canonical) :
    '\r' ∉ (x.text floatNames).toList := by
  cases x with
  | nan => decide
  | infinite negative => cases negative <;> decide
  | finite negative significand exponent =>
      obtain ⟨htext, hwell, -, -⟩ := finiteNumeral_writes negative hx
      show '\r' ∉ (Decimal.finiteText negative significand exponent).toList
      rw [htext, List.mem_append]
      rintro (hsign | hnumber)
      · cases negative with
        | true => exact absurd hsign (by decide)
        | false => exact absurd hsign (by decide)
      · exact notMem_numeral hwell hnumber

theorem notMem_escapeChar (c : Char) : '\r' ∉ escapeChar c := by
  unfold escapeChar
  split_ifs with h1 h2 h3 h4 h5 h6 h7 hcontrol
  · decide
  · decide
  · decide
  · decide
  · decide
  · decide
  · decide
  · generalize c.toNat = n at hcontrol
    interval_cases n <;> decide
  · rw [List.mem_singleton]
    exact Ne.symm h4

theorem notMem_printString (t : WideText) : .scalar '\r' ∉ printString t := by
  have hbody : .scalar '\r' ∉ t.flatMap escapePoint := by
    rw [List.mem_flatMap]
    rintro ⟨p, -, hp⟩
    cases p with
    | half n => exact absurd hp (by simp [escapePoint])
    | scalar c =>
        obtain ⟨d, hd, heq⟩ := List.mem_map.1 hp
        exact notMem_escapeChar c (CodePoint.scalar.inj heq ▸ hd)
  simp [printString, hbody]

theorem notMem_printInt (n : Int) : '\r' ∉ printInt n := by
  have hdigits : '\r' ∉ Nat.toDigits 10 n.natAbs := fun hmem =>
    absurd (isDigit_of_mem_digits hmem) (by decide)
  unfold printInt
  split_ifs
  · exact List.not_mem_cons_of_ne_of_not_mem (by decide) hdigits
  · exact hdigits

theorem notMem_ofChars {cs : List Char} (h : '\r' ∉ cs) :
    .scalar '\r' ∉ WideText.ofChars cs := by
  intro hmem
  obtain ⟨c, hc, heq⟩ := List.mem_map.1 hmem
  exact h (CodePoint.scalar.inj heq ▸ hc)

theorem notMem_lineBreak (level : Nat) : .scalar '\r' ∉ Layout.indented.lineBreak level := by
  refine notMem_ofChars (List.not_mem_cons_of_ne_of_not_mem (by decide) fun hmem => ?_)
  exact absurd (List.eq_of_mem_replicate hmem) (by decide)

theorem notMem_printItems {items : List Document}
    (h : ∀ v ∈ items, ∀ level, .scalar '\r' ∉ print .indented level v) (level : Nat) :
    .scalar '\r' ∉ printItems .indented level items := by
  induction items with
  | nil => exact List.not_mem_nil
  | cons v items ih =>
      have hv := h v List.mem_cons_self level
      have hitems := ih fun w hw => h w (List.mem_cons_of_mem v hw)
      have hcomma : .scalar '\r' ∉ Layout.indented.separator := notMem_ofChars (by decide)
      simp [printItems, hcomma, notMem_lineBreak, hv, hitems]

theorem notMem_printMembers {members : List (WideText × Document)}
    (h : ∀ m ∈ members, ∀ level, .scalar '\r' ∉ print .indented level m.2) (level : Nat) :
    .scalar '\r' ∉ printMembers .indented level members := by
  induction members with
  | nil => exact List.not_mem_nil
  | cons m members ih =>
      obtain ⟨k, v⟩ := m
      have hv := h (k, v) List.mem_cons_self level
      have hmembers := ih fun x hx => h x (List.mem_cons_of_mem _ hx)
      have hcomma : .scalar '\r' ∉ Layout.indented.separator := notMem_ofChars (by decide)
      have hcolon : .scalar '\r' ∉ WideText.ofString ": " := notMem_ofChars (by decide)
      simp [printMembers, hcomma, notMem_lineBreak, notMem_printString, hcolon, hv, hmembers]

/-- No carriage return is written: inside strings it is escaped. -/
theorem notMem_print {depth : Nat} {v : Document} (hv : Readable depth v) (level : Nat) :
    .scalar '\r' ∉ print .indented level v := by
  induction hv generalizing level with
  | null => exact notMem_ofChars (by decide)
  | @bool _ b =>
      cases b with
      | true => exact notMem_ofChars (by decide)
      | false => exact notMem_ofChars (by decide)
  | int => exact notMem_ofChars (notMem_printInt _)
  | float canonical => exact notMem_ofChars (notMem_text canonical)
  | str => exact notMem_printString _
  | @arr _ items each ih =>
      cases items with
      | nil => exact notMem_ofChars (by decide)
      | cons v items =>
          have hv := ih v List.mem_cons_self (level + 1)
          have hitems :=
            notMem_printItems (fun w hw => ih w (List.mem_cons_of_mem v hw)) (level + 1)
          simp [print, notMem_lineBreak, hv, hitems]
  | @obj _ members names each ih =>
      cases members with
      | nil => exact notMem_ofChars (by decide)
      | cons m members =>
          obtain ⟨k, v⟩ := m
          have hv := ih (k, v) List.mem_cons_self (level + 1)
          have hmembers :=
            notMem_printMembers (fun x hx => ih x (List.mem_cons_of_mem _ hx)) (level + 1)
          have hcolon : .scalar '\r' ∉ WideText.ofString ": " := notMem_ofChars (by decide)
          simp [print, notMem_lineBreak, notMem_printString, hcolon, hv, hmembers]

end ReactScaffold.Json
