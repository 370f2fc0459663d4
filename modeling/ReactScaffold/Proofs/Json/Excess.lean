import ReactScaffold.Proofs.Json.Completeness

/-!
# What goes beyond the limits

The reader fails because of a limit only on a text with too many digits in a row or with too many
opening brackets. A text that is spelled is read unless it goes beyond a limit, and then the reader
says so.
-/

namespace ReactScaffold.Json

open Decimal Text

/-- What a text has too much of when a limit is passed, given the levels that may be opened. -/
def Flaw.Excess (depth : Nat) (cs : List Char) : Flaw → Prop
  | .miss _ _ => True
  | .tooManyDigits count => ∃ digits, digits <:+: cs ∧ (∀ c ∈ digits, c.isDigit) ∧
      digits.length = count ∧ maxDigits < count
  | .nestedTooDeeply _ => depth < cs.countP fun c => c = '[' ∨ c = '\x7b'

variable {flaw : Flaw} {fuel depth : Nat} {cs ds : List Char}

/-- What there is too much of in a part of a text there is too much of in the text. -/
theorem Flaw.Excess.of_isInfix (h : flaw.Excess depth cs) (hpart : cs <:+: ds) :
    flaw.Excess depth ds := by
  cases flaw with
  | miss expected left => trivial
  | tooManyDigits count =>
    obtain ⟨digits, hdigits, hall, hcount⟩ := h
    exact ⟨digits, hdigits.trans hpart, hall, hcount⟩
  | nestedTooDeeply container => exact lt_of_lt_of_le h (hpart.sublist.countP_le)

/-- An opening bracket takes up a level. -/
theorem Flaw.Excess.opened {bracket : Char} (h : flaw.Excess depth cs) (hpart : cs <:+: ds)
    (hbracket : bracket = '[' ∨ bracket = '\x7b') : flaw.Excess (depth + 1) (bracket :: ds) := by
  cases flaw with
  | miss expected left => trivial
  | tooManyDigits count => exact h.of_isInfix (hpart.trans (List.suffix_cons bracket ds).isInfix)
  | nestedTooDeeply container =>
    have hcount := lt_of_lt_of_le h hpart.sublist.countP_le
    rw [Flaw.Excess, List.countP_cons_of_pos (by simpa using hbracket)]
    omega

/-- Where no level is left, an opening bracket is one too many. -/
theorem excess_nested {bracket : Char} {container : Container} {empty : Bool}
    (henter : Rules.lenient.enter? depth empty = none)
    (hbracket : bracket = '[' ∨ bracket = '\x7b') :
    (Flaw.nestedTooDeeply container).Excess depth (bracket :: cs) := by
  obtain rfl : depth = 0 := by
    cases depth with
    | zero => rfl
    | succ inner => cases henter
  rw [Flaw.Excess, List.countP_cons_of_pos (by simpa using hbracket)]
  exact Nat.succ_pos _

/-- The flaw is none of a limit. -/
theorem excess_of_miss {expected : Expected} {left : Nat} (h : flaw = .miss expected left) :
    flaw.Excess depth cs := by
  subst h
  trivial

theorem stringTail_eq_error {opened : Nat} (h : stringTail opened cs = .error flaw) :
    ∃ expected left, flaw = .miss expected left := by
  fun_induction stringTail opened cs with
  | case1 | case3 | case4 | case6 | case7 | case9 => exact ⟨_, _, (Except.error.inj h).symm⟩
  | case2 => cases h
  | case5 _ _ _ _ _ _ _ _ ih | case8 _ _ _ _ _ _ ih | case10 _ _ _ _ _ _ _ ih =>
    rcases bind_eq_error h with herror | ⟨⟨tail, left⟩, -, hok⟩
    · exact ih herror
    · cases hok

theorem readString_eq_error (h : readString .lenient cs = .error flaw) :
    ∃ expected left, flaw = .miss expected left := by
  rcases bind_eq_error h with herror | ⟨⟨tail, left⟩, -, hok⟩
  · exact stringTail_eq_error herror
  · cases hok

theorem readName_eq_error (h : readName .lenient cs = .error flaw) :
    ∃ expected left, flaw = .miss expected left := by
  unfold readName at h
  split at h
  · exact readString_eq_error h
  · exact ⟨_, _, (Except.error.inj h).symm⟩

theorem passColon_eq_error (h : passColon cs = .error flaw) :
    ∃ expected left, flaw = .miss expected left := by
  unfold passColon at h
  split at h
  · cases h
  · exact ⟨_, _, (Except.error.inj h).symm⟩

theorem excess_readNumber (h : readNumber .lenient cs = .error flaw) : flaw.Excess depth cs := by
  rcases hsign : splitSign cs with ⟨negative, unsigned⟩
  cases hwhole : wholePart unsigned with
  | none =>
    rw [readNumber, hsign] at h
    dsimp only at h
    rw [hwhole] at h
    exact excess_of_miss (Except.error.inj h).symm
  | some parts =>
    obtain ⟨whole, afterWhole⟩ := parts
    rcases hfraction : fractionPart afterWhole with ⟨fraction, afterFraction⟩
    rcases hexponent : exponentPart afterFraction with ⟨exponent, after⟩
    rw [readNumber_of_parts hsign hwhole hfraction hexponent] at h
    obtain ⟨rfl, hwell⟩ := wholePart_sound hwhole
    split_ifs at h with hint hmany
    obtain rfl := Except.error.inj h
    refine ⟨whole, ?_, hwell.whole_digits, rfl, hmany⟩
    rw [splitSign_sound hsign]
    exact ⟨signText negative, afterWhole, by simp⟩

theorem excess_readScalar (h : readScalar .lenient cs = .error flaw) : flaw.Excess depth cs := by
  unfold readScalar at h
  split at h
  case h_7 => exact excess_readNumber h
  all_goals cases h

/-- With the given fuel, the readers fail because of a limit only where there is too much. -/
structure FailsByExcess (fuel : Nat) : Prop where
  value {depth : Nat} {cs : List Char} {flaw : Flaw}
    (h : readValue .lenient fuel depth cs = .error flaw) : flaw.Excess depth cs
  items {depth : Nat} {cs : List Char} {flaw : Flaw}
    (h : readItems .lenient fuel depth cs = .error flaw) : flaw.Excess depth cs
  members {depth : Nat} {cs : List Char} {flaw : Flaw}
    (h : readMembers .lenient fuel depth cs = .error flaw) : flaw.Excess depth cs

theorem skipSpace_suffix (cs : List Char) : skipSpace cs <:+ cs := List.dropWhile_suffix _

theorem readValue_suffix {v : Document} {left : List Char}
    (h : readValue .lenient fuel depth cs = .ok (v, left)) : left <:+ cs := by
  obtain ⟨lit, rfl, -⟩ := (readsSpelled fuel).value h
  exact List.suffix_append lit left

theorem readName_suffix {k : WideText} {left : List Char}
    (h : readName .lenient cs = .ok (k, left)) : left <:+ cs := by
  obtain ⟨name, rfl, -⟩ := readName_sound h
  exact List.suffix_append name left

theorem passColon_suffix {left : List Char} (h : passColon cs = .ok left) : left <:+ cs := by
  obtain ⟨b, c, -, -, rfl⟩ := passColon_sound h
  exact ⟨b ++ ':' :: c, by simp⟩

/-- What follows a comma behind blanks is at the end of the text. -/
theorem suffix_of_comma {c : Char} {more : List Char} (h : skipSpace cs = c :: more) :
    skipSpace more <:+ cs :=
  ((skipSpace_suffix more).trans (List.suffix_cons c more)).trans (h ▸ skipSpace_suffix cs)

theorem excess_readItems (ih : FailsByExcess fuel)
    (h : readItems .lenient (fuel + 1) depth cs = .error flaw) : flaw.Excess depth cs := by
  unfold readItems at h
  rcases bind_eq_error h with herror | ⟨⟨v, after⟩, hv, h⟩
  · exact ih.value herror
  · dsimp only at h
    split at h
    · cases h
    · rename_i more hcomma
      rcases bind_eq_error h with herror | ⟨⟨vs, left⟩, -, hok⟩
      · exact (ih.items herror).of_isInfix
          ((suffix_of_comma hcomma).trans (readValue_suffix hv)).isInfix
      · cases hok
    · exact excess_of_miss (Except.error.inj h).symm

theorem excess_readMembers (ih : FailsByExcess fuel)
    (h : readMembers .lenient (fuel + 1) depth cs = .error flaw) : flaw.Excess depth cs := by
  unfold readMembers at h
  rcases bind_eq_error h with herror | ⟨⟨k, afterName⟩, hname, h⟩
  · obtain ⟨expected, left, hmiss⟩ := readName_eq_error herror
    exact excess_of_miss hmiss
  rcases bind_eq_error h with herror | ⟨afterColon, hcolon, h⟩
  · obtain ⟨expected, left, hmiss⟩ := passColon_eq_error herror
    exact excess_of_miss hmiss
  have hvalue : afterColon <:+ cs := (passColon_suffix hcolon).trans (readName_suffix hname)
  rcases bind_eq_error h with herror | ⟨⟨v, after⟩, hv, h⟩
  · exact (ih.value herror).of_isInfix hvalue.isInfix
  · dsimp only at h
    split at h
    · cases h
    · rename_i more hcomma
      rcases bind_eq_error h with herror | ⟨⟨vs, left⟩, -, hok⟩
      · exact (ih.members herror).of_isInfix
          (((suffix_of_comma hcomma).trans (readValue_suffix hv)).trans hvalue).isInfix
      · cases hok
    · exact excess_of_miss (Except.error.inj h).symm

theorem excess_readValue (ih : FailsByExcess fuel)
    (h : readValue .lenient (fuel + 1) depth cs = .error flaw) : flaw.Excess depth cs := by
  unfold readValue at h
  split at h
  · obtain ⟨expected, left, hmiss⟩ := readString_eq_error (map_eq_error h)
    exact excess_of_miss hmiss
  · rename_i rest
    dsimp only at h
    split at h
    · rename_i henter
      obtain rfl := Except.error.inj h
      exact excess_nested henter (.inr rfl)
    · rename_i inner henter
      obtain rfl := enter?_eq_some rfl henter
      split at h
      · cases h
      · exact (ih.members (map_eq_error h)).opened (skipSpace_suffix rest).isInfix (.inr rfl)
  · rename_i rest
    dsimp only at h
    split at h
    · rename_i henter
      obtain rfl := Except.error.inj h
      exact excess_nested henter (.inl rfl)
    · rename_i inner henter
      obtain rfl := enter?_eq_some rfl henter
      split at h
      · cases h
      · exact (ih.items (map_eq_error h)).opened (skipSpace_suffix rest).isInfix (.inl rfl)
  · exact excess_readScalar h

theorem failsByExcess (fuel : Nat) : FailsByExcess fuel := by
  induction fuel with
  | zero =>
    exact ⟨fun h => excess_of_miss (Except.error.inj h).symm,
      fun h => excess_of_miss (Except.error.inj h).symm,
      fun h => excess_of_miss (Except.error.inj h).symm⟩
  | succ fuel ih => exact ⟨excess_readValue ih, excess_readItems ih, excess_readMembers ih⟩

/-- The reader fails because of a limit only on a text that has too much of something. -/
theorem excess_parse (h : parse cs = .error flaw) :
    flaw.Excess Rules.lenient.maxNesting cs := by
  unfold parse parseBy at h
  split at h
  · exact excess_of_miss (Except.error.inj h).symm
  · rcases bind_eq_error h with herror | ⟨⟨v, after⟩, -, h⟩
    · exact ((failsByExcess _).value herror).of_isInfix (skipSpace_suffix _).isInfix
    · dsimp only at h
      split at h
      · cases h
      · exact excess_of_miss (Except.error.inj h).symm

/-- A text that is spelled only beyond a limit makes the reader fail because of a limit. -/
theorem exists_limit_of_spells {most depth : Nat} {v : Document}
    (h : Spells most depth cs (.padded v))
    (hbeyond : ∀ w, ¬ Spells maxDigits Rules.lenient.maxNesting cs (.padded w)) :
    ∃ flaw : Flaw, flaw.IsLimit ∧ parse cs = .error flaw := by
  rcases gives_parse h with hok | ⟨-, hlimit⟩
  · exact absurd (parse_sound hok) (hbeyond v)
  · exact hlimit

end ReactScaffold.Json
