import ReactScaffold.Proofs.Json.Grammar
import ReactScaffold.Proofs.Json.Limits

/-!
# What is read is spelled

A reader that succeeds has passed over a text of the grammar, and what it gives is what that text
stands for. `parse_sound` says so of a whole text.
-/

namespace ReactScaffold.Json

open Decimal Text

/-! ## Blanks and strings -/

/-- The blanks that are skipped. -/
theorem exists_skipSpace (cs : List Char) : ∃ a, Blank a ∧ cs = a ++ skipSpace cs := by
  refine ⟨cs.takeWhile isSpace, fun c hc => ?_, List.takeWhile_append_dropWhile.symm⟩
  simpa [isSpace, or_assoc] using List.mem_takeWhile_imp hc

theorem exists_of_tail_eq_ok {x : Except Flaw (WideText × List Char)} {p : CodePoint}
    {t : WideText} {left : List Char}
    (h : (do let (tail, left) ← x; return (p :: tail, left)) = Except.ok (ε := Flaw) (t, left)) :
    ∃ tail, x = .ok (tail, left) ∧ t = p :: tail := by
  obtain ⟨⟨tail, after⟩, hx, heq⟩ := bind_eq_ok h
  obtain ⟨rfl, rfl⟩ := Prod.mk.inj (Except.ok.inj heq)
  exact ⟨tail, hx, rfl⟩

theorem stringTail_sound {opened : Nat} {cs left : List Char} {t : WideText}
    (h : stringTail opened cs = .ok (t, left)) :
    ∃ body, cs = body ++ '"' :: left ∧ SpellsHalves body t := by
  fun_induction stringTail opened cs generalizing t with
  | case1 | case3 | case4 | case6 | case7 | case9 => cases h
  | case2 rest =>
    obtain ⟨rfl, rfl⟩ := Prod.mk.inj (Except.ok.inj h)
    exact ⟨[], rfl, .nil⟩
  | case5 a b c d next rest n hdigits ih =>
    obtain ⟨tail, htail, rfl⟩ := exists_of_tail_eq_ok h
    obtain ⟨body, hbody, hspells⟩ := ih htail
    exact ⟨'\\' :: 'u' :: a :: b :: c :: d :: body, by rw [hbody]; rfl, .number hdigits hspells⟩
  | case8 e rest _ _ c hletter ih =>
    obtain ⟨tail, htail, rfl⟩ := exists_of_tail_eq_ok h
    obtain ⟨body, rfl, hspells⟩ := ih htail
    exact ⟨'\\' :: e :: body, rfl, .escape hletter hspells⟩
  | case10 c rest hquote hlast _ hescape hcontrol ih =>
    obtain ⟨tail, htail, rfl⟩ := exists_of_tail_eq_ok h
    have hplain : c ≠ '\\' := by
      rintro rfl
      cases rest with
      | nil => exact hlast rfl rfl
      | cons e rest => exact hescape e rest rfl rfl
    obtain ⟨body, rfl, hspells⟩ := ih htail
    exact ⟨c :: body, rfl, .plain (by omega) hquote hplain hspells⟩

theorem readString_sound {cs left : List Char} {t : WideText}
    (h : readString .lenient cs = .ok (t, left)) :
    ∃ lit, '"' :: cs = lit ++ left ∧ SpellsString lit t := by
  obtain ⟨⟨halves, after⟩, htail, heq⟩ := bind_eq_ok h
  obtain ⟨rfl, rfl⟩ := Prod.mk.inj (Except.ok.inj heq)
  obtain ⟨body, rfl, hspells⟩ := stringTail_sound htail
  exact ⟨'"' :: (body ++ ['"']), by simp, .quoted hspells⟩

/-! ## Numbers -/

theorem splitSign_sound {cs rest : List Char} {negative : Bool}
    (h : splitSign cs = (negative, rest)) : cs = signText negative ++ rest := by
  unfold splitSign at h
  split at h
  · obtain ⟨rfl, rfl⟩ := Prod.mk.inj h
    rfl
  · obtain ⟨rfl, rfl⟩ := Prod.mk.inj h
    rfl

theorem spanDigits_sound {cs digits left : List Char} (h : spanDigits cs = (digits, left)) :
    cs = digits ++ left ∧ ∀ c ∈ digits, c.isDigit := by
  obtain ⟨rfl, rfl⟩ := Prod.mk.inj h
  exact ⟨List.takeWhile_append_dropWhile.symm, fun c hc => List.mem_takeWhile_imp hc⟩

theorem wholePart_sound {cs whole left : List Char} (h : wholePart cs = some (whole, left)) :
    cs = whole ++ left ∧ (Numeral.mk whole [] none).WellFormed := by
  have hdigits := wholePart_digits h
  unfold wholePart at h
  split at h
  · cases h
  · rename_i c rest
    split_ifs at h with hzero hdigit
    · obtain ⟨rfl, rfl⟩ := Prod.mk.inj (Option.some.inj h)
      exact ⟨by rw [hzero]; rfl, hdigits, by simp, by simp, .inl rfl⟩
    · obtain ⟨hsplit, -⟩ := spanDigits_sound (Option.some.inj h)
      have hwhole : whole = c :: rest.takeWhile Char.isDigit := by
        rw [← (Prod.mk.inj (Option.some.inj h)).1, List.takeWhile_cons_of_pos hdigit]
      refine ⟨hsplit, hdigits, by simp, by simp [hwhole], .inr ?_⟩
      rw [hwhole]
      simpa using hzero

theorem fractionPart_sound {cs fraction left : List Char}
    (h : fractionPart cs = (fraction, left)) :
    cs = Numeral.fractionText fraction ++ left ∧ ∀ c ∈ fraction, c.isDigit := by
  unfold fractionPart at h
  split at h
  · rename_i rest
    split_ifs at h with hnone
    · obtain ⟨rfl, rfl⟩ := Prod.mk.inj h
      exact ⟨rfl, by simp⟩
    · obtain ⟨hsplit, hdigits⟩ := spanDigits_sound h
      have hne : fraction ≠ [] := by
        rw [h] at hnone
        simpa [List.isEmpty_iff] using hnone
      rw [Numeral.fractionText, if_neg hne, hsplit]
      exact ⟨rfl, hdigits⟩
  · obtain ⟨rfl, rfl⟩ := Prod.mk.inj h
    exact ⟨rfl, by simp⟩

/-- The digits of an exponent, behind its mark and its sign. -/
theorem exponentDigits_sound (front : List Char) {cs unsigned left : List Char}
    {exponent : Option Int} {value : List Char → Int} (hcs : cs = front ++ unsigned)
    (h : (if (spanDigits unsigned).1.isEmpty then (none, cs)
      else (some (value (spanDigits unsigned).1), (spanDigits unsigned).2)) = (exponent, left))
    (hspells : ∀ digits, digits ≠ [] → (∀ c ∈ digits, c.isDigit) →
      SpellsExponent (front ++ digits) (some (value digits))) :
    ∃ text, cs = text ++ left ∧ SpellsExponent text exponent := by
  have hsplit : unsigned = (spanDigits unsigned).1 ++ (spanDigits unsigned).2 :=
    List.takeWhile_append_dropWhile.symm
  have hdigits : ∀ c ∈ (spanDigits unsigned).1, c.isDigit := fun c hc => List.mem_takeWhile_imp hc
  split_ifs at h with hnone
  · obtain ⟨rfl, rfl⟩ := Prod.mk.inj h
    exact ⟨[], rfl, .missing⟩
  · obtain ⟨rfl, rfl⟩ := Prod.mk.inj h
    refine ⟨front ++ (spanDigits unsigned).1, ?_, hspells _ (mt List.isEmpty_iff.2 hnone) hdigits⟩
    rw [hcs, List.append_assoc, ← hsplit]

/-- Whether a minus sign leads an exponent, and what follows its sign. -/
def exponentSign : List Char → Bool × List Char
  | '-' :: r => (true, r)
  | '+' :: r => (false, r)
  | r => (false, r)

theorem exponentPart_cons (mark : Char) (rest : List Char) :
    exponentPart (mark :: rest) =
      if mark = 'e' ∨ mark = 'E' then
        if (spanDigits (exponentSign rest).2).1.isEmpty then (none, mark :: rest)
        else
          (some (if (exponentSign rest).1 then
              -(Nat.ofDigitChars 10 (spanDigits (exponentSign rest).2).1 0 : Int)
            else Nat.ofDigitChars 10 (spanDigits (exponentSign rest).2).1 0),
            (spanDigits (exponentSign rest).2).2)
      else (none, mark :: rest) := rfl

theorem exponentSign_cases (cs : List Char) :
    (∃ rest, cs = '-' :: rest ∧ exponentSign cs = (true, rest)) ∨
      (∃ rest, cs = '+' :: rest ∧ exponentSign cs = (false, rest)) ∨
      exponentSign cs = (false, cs) := by
  unfold exponentSign
  split
  · exact .inl ⟨_, rfl, rfl⟩
  · exact .inr (.inl ⟨_, rfl, rfl⟩)
  · exact .inr (.inr rfl)

theorem exponentPart_sound {cs left : List Char} {exponent : Option Int}
    (h : exponentPart cs = (exponent, left)) :
    ∃ text, cs = text ++ left ∧ SpellsExponent text exponent := by
  cases cs with
  | nil =>
    obtain ⟨rfl, rfl⟩ := Prod.mk.inj h
    exact ⟨[], rfl, .missing⟩
  | cons mark rest =>
    rw [exponentPart_cons] at h
    by_cases hmark : mark = 'e' ∨ mark = 'E'
    · rw [if_pos hmark] at h
      rcases exponentSign_cases rest with ⟨r, rfl, hsign⟩ | ⟨r, rfl, hsign⟩ | hsign
      · rw [hsign] at h
        exact exponentDigits_sound [mark, '-'] rfl h fun _ hne hdigits =>
          .minus hmark hne hdigits
      · rw [hsign] at h
        exact exponentDigits_sound [mark, '+'] rfl h fun _ hne hdigits =>
          .plus hmark hne hdigits
      · rw [hsign] at h
        exact exponentDigits_sound [mark] rfl h fun _ hne hdigits =>
          .plain hmark hne hdigits
    · rw [if_neg hmark] at h
      obtain ⟨rfl, rfl⟩ := Prod.mk.inj h
      exact ⟨[], rfl, .missing⟩

/-- The number that parts of a text make up. The limit on digits holds for whole numbers only. -/
theorem readNumber_of_parts {cs unsigned whole afterWhole fraction afterFraction left : List Char}
    {negative : Bool} {exponent : Option Int} (hsign : splitSign cs = (negative, unsigned))
    (hwhole : wholePart unsigned = some (whole, afterWhole))
    (hfraction : fractionPart afterWhole = (fraction, afterFraction))
    (hexponent : exponentPart afterFraction = (exponent, left)) :
    readNumber .lenient cs =
      if fraction = [] ∧ exponent = none then
        if maxDigits < whole.length then .error (.tooManyDigits whole.length)
        else
          .ok (.int (withSign negative (Nat.ofDigitChars 10 whole 0)), left)
      else
        .ok (.float (.ofDecimal negative (Numeral.mk whole fraction exponent).digits
          (Numeral.mk whole fraction exponent).scale), left) := by
  have hlimits : Rules.lenient.limitsFractions = false := rfl
  unfold readNumber
  rw [hsign]
  dsimp only
  rw [hwhole]
  dsimp only
  rw [hfraction]
  dsimp only
  rw [hexponent]
  by_cases hint : fraction = [] ∧ exponent = none
  · obtain ⟨rfl, rfl⟩ := hint
    by_cases hmany : maxDigits < whole.length <;> simp [hmany, withSign]
  · have hkind : (fraction.isEmpty && exponent.isNone) = false := by
      rw [← Bool.not_eq_true, Bool.and_eq_true, List.isEmpty_iff, Option.isNone_iff_eq_none]
      exact hint
    dsimp only
    rw [if_neg hint, hkind, hlimits]
    rfl

theorem readNumber_sound {cs left : List Char} {v : Document} {depth : Nat}
    (h : readNumber .lenient cs = .ok (v, left)) :
    ∃ lit, cs = lit ++ left ∧ Spells maxDigits depth lit (.value v) := by
  rcases hsign : splitSign cs with ⟨negative, unsigned⟩
  cases hwhole : wholePart unsigned with
  | none =>
    rw [readNumber, hsign] at h
    dsimp only at h
    rw [hwhole] at h
    cases h
  | some parts =>
    obtain ⟨whole, afterWhole⟩ := parts
    rcases hfraction : fractionPart afterWhole with ⟨fraction, afterFraction⟩
    rcases hexponent : exponentPart afterFraction with ⟨exponent, after⟩
    rw [readNumber_of_parts hsign hwhole hfraction hexponent] at h
    obtain ⟨rfl, hwell⟩ := wholePart_sound hwhole
    obtain ⟨rfl, hdigits⟩ := fractionPart_sound hfraction
    obtain ⟨text, rfl, hspells⟩ := exponentPart_sound hexponent
    rw [splitSign_sound hsign]
    split_ifs at h with hint hmany
    · obtain ⟨rfl, rfl⟩ := hint
      cases hspells
      obtain ⟨rfl, rfl⟩ := Prod.mk.inj (Except.ok.inj h)
      refine ⟨signText negative ++ whole, ?_, .int negative hwell (not_lt.1 hmany)⟩
      rw [Numeral.fractionText, if_pos rfl, List.nil_append, List.nil_append, List.append_assoc]
    · obtain ⟨rfl, rfl⟩ := Prod.mk.inj (Except.ok.inj h)
      have hx : (Numeral.mk whole fraction exponent).WellFormed :=
        ⟨hwell.whole_digits, hdigits, hwell.whole_ne_nil, hwell.no_leading_zero⟩
      refine ⟨signText negative ++ (whole ++ (Numeral.fractionText fraction ++ text)), by simp,
        .float negative hx (not_and_or.1 hint) hspells⟩

theorem readScalar_sound {cs left : List Char} {v : Document} {depth : Nat}
    (h : readScalar .lenient cs = .ok (v, left)) :
    ∃ lit, cs = lit ++ left ∧ Spells maxDigits depth lit (.value v) := by
  unfold readScalar at h
  split at h
  · obtain ⟨rfl, rfl⟩ := Prod.mk.inj (Except.ok.inj h)
    exact ⟨_, rfl, .null⟩
  · obtain ⟨rfl, rfl⟩ := Prod.mk.inj (Except.ok.inj h)
    exact ⟨_, rfl, .true⟩
  · obtain ⟨rfl, rfl⟩ := Prod.mk.inj (Except.ok.inj h)
    exact ⟨_, rfl, .false⟩
  · obtain ⟨rfl, rfl⟩ := Prod.mk.inj (Except.ok.inj h)
    exact ⟨_, rfl, .nan⟩
  · obtain ⟨rfl, rfl⟩ := Prod.mk.inj (Except.ok.inj h)
    exact ⟨_, rfl, .infinity false⟩
  · obtain ⟨rfl, rfl⟩ := Prod.mk.inj (Except.ok.inj h)
    exact ⟨_, rfl, .infinity true⟩
  · exact readNumber_sound h

/-! ## Values, arrays and objects -/

/-- With the given fuel, all that is read is spelled. -/
structure ReadsSpelled (fuel : Nat) : Prop where
  value {depth : Nat} {cs left : List Char} {v : Document}
    (h : readValue .lenient fuel depth cs = .ok (v, left)) :
    ∃ lit, cs = lit ++ left ∧ Spells maxDigits depth lit (.value v)
  items {depth : Nat} {cs left : List Char} {vs : List Document}
    (h : readItems .lenient fuel depth cs = .ok (vs, left)) :
    ∃ lit, cs = lit ++ ']' :: left ∧ Spells maxDigits depth lit (.items vs)
  members {depth : Nat} {cs left : List Char} {ms : List (WideText × Document)}
    (h : readMembers .lenient fuel depth cs = .ok (ms, left)) :
    ∃ lit, cs = lit ++ '\x7d' :: left ∧ Spells maxDigits depth lit (.members ms)

theorem blank_nil : Blank [] := fun _ h => by cases h

/-- The parts that may begin with blanks: all but bare values. -/
def Part.TakesBlanks : Part → Prop
  | .value _ => False
  | .padded _ | .items _ | .member _ _ | .members _ => True

theorem Spells.blank_append {most depth : Nat} {a cs : List Char} {part : Part}
    (h : Spells most depth cs part) (ha : Blank a) (hpart : part.TakesBlanks) :
    Spells most depth (a ++ cs) part := by
  induction h with
  | padded before value after =>
    rw [← List.append_assoc]
    exact .padded (List.forall_mem_append.2 ⟨ha, before⟩) value after
  | lastItem value ih => exact .lastItem (ih trivial)
  | moreItems value others ih =>
    rw [← List.append_assoc]
    exact .moreItems (ih trivial) others
  | member before string after value =>
    rw [← List.append_assoc]
    exact .member (List.forall_mem_append.2 ⟨ha, before⟩) string after value
  | lastMember member ih => exact .lastMember (ih trivial)
  | moreMembers member others ih =>
    rw [← List.append_assoc]
    exact .moreMembers (ih trivial) others
  | _ => exact hpart.elim

theorem readItems_sound {fuel depth : Nat} (ih : ReadsSpelled fuel) {cs left : List Char}
    {vs : List Document} (h : readItems .lenient (fuel + 1) depth cs = .ok (vs, left)) :
    ∃ lit, cs = lit ++ ']' :: left ∧ Spells maxDigits depth lit (.items vs) := by
  have hpadded {v : Document} {after : List Char}
      (hv : readValue .lenient fuel depth cs = .ok (v, after)) :
      ∃ lit, cs = lit ++ skipSpace after ∧ Spells maxDigits depth lit (.padded v) := by
    obtain ⟨lit, rfl, hlit⟩ := ih.value hv
    obtain ⟨b, hb, hafter⟩ := exists_skipSpace after
    exact ⟨lit ++ b, by rw [List.append_assoc, ← hafter], .padded blank_nil hlit hb⟩
  cases readItems_step h with
  | last hvalue hclosed =>
    obtain ⟨lit, hcs, hlit⟩ := hpadded hvalue
    exact ⟨lit, by rw [hcs, hclosed], .lastItem hlit⟩
  | @more v others after more left hvalue hcomma hitems =>
    obtain ⟨lit, hcs, hlit⟩ := hpadded hvalue
    obtain ⟨rest, hrest, hspells⟩ := ih.items hitems
    obtain ⟨a, ha, hmore⟩ := exists_skipSpace more
    refine ⟨lit ++ ',' :: (a ++ rest), ?_, .moreItems hlit (hspells.blank_append ha trivial)⟩
    rw [hcs, hcomma, hmore, hrest]
    simp

theorem readName_sound {cs left : List Char} {k : WideText}
    (h : readName .lenient cs = .ok (k, left)) :
    ∃ name, cs = name ++ left ∧ SpellsString name k := by
  unfold readName at h
  split at h
  · exact readString_sound h
  · cases h

theorem passColon_sound {cs left : List Char} (h : passColon cs = .ok left) :
    ∃ b c, Blank b ∧ Blank c ∧ cs = b ++ ':' :: (c ++ left) := by
  obtain ⟨b, hb, hcs⟩ := exists_skipSpace cs
  unfold passColon at h
  split at h
  · rename_i rest hcolon
    obtain rfl := Except.ok.inj h
    obtain ⟨c, hc, hrest⟩ := exists_skipSpace rest
    refine ⟨b, c, hb, hc, ?_⟩
    rw [hcs, hcolon, ← hrest]
  · cases h

theorem readMembers_sound {fuel depth : Nat} (ih : ReadsSpelled fuel) {cs left : List Char}
    {ms : List (WideText × Document)}
    (h : readMembers .lenient (fuel + 1) depth cs = .ok (ms, left)) :
    ∃ lit, cs = lit ++ '\x7d' :: left ∧ Spells maxDigits depth lit (.members ms) := by
  have hmember {k : WideText} {v : Document} {afterName afterColon after : List Char}
      (hname : readName .lenient cs = .ok (k, afterName))
      (hcolon : passColon afterName = .ok afterColon)
      (hvalue : readValue .lenient fuel depth afterColon = .ok (v, after)) :
      ∃ lit, cs = lit ++ skipSpace after ∧ Spells maxDigits depth lit (.member k v) := by
    obtain ⟨name, rfl, hstring⟩ := readName_sound hname
    obtain ⟨b, c, hb, hc, rfl⟩ := passColon_sound hcolon
    obtain ⟨lit, rfl, hlit⟩ := ih.value hvalue
    obtain ⟨d, hd, hafter⟩ := exists_skipSpace after
    refine ⟨name ++ (b ++ ':' :: (c ++ (lit ++ d))), ?_,
      .member blank_nil hstring hb (.padded hc hlit hd)⟩
    simp only [List.append_assoc, List.cons_append, ← hafter]
  cases readMembers_step h with
  | last hname hcolon hvalue hclosed =>
    obtain ⟨lit, hcs, hlit⟩ := hmember hname hcolon hvalue
    exact ⟨lit, by rw [hcs, hclosed], .lastMember hlit⟩
  | @more _ _ _ _ _ _ more _ hname hcolon hvalue hcomma hmembers =>
    obtain ⟨lit, hcs, hlit⟩ := hmember hname hcolon hvalue
    obtain ⟨rest, hrest, hspells⟩ := ih.members hmembers
    obtain ⟨a, ha, hmore⟩ := exists_skipSpace more
    refine ⟨lit ++ ',' :: (a ++ rest), ?_, .moreMembers hlit (hspells.blank_append ha trivial)⟩
    rw [hcs, hcomma, hmore, hrest]
    simp

theorem readValue_sound {fuel depth : Nat} (ih : ReadsSpelled fuel) {cs left : List Char}
    {v : Document} (h : readValue .lenient (fuel + 1) depth cs = .ok (v, left)) :
    ∃ lit, cs = lit ++ left ∧ Spells maxDigits depth lit (.value v) := by
  cases readValue_step rfl h with
  | str hstring =>
    obtain ⟨lit, hcs, hspells⟩ := readString_sound hstring
    exact ⟨lit, hcs, .str hspells⟩
  | @objEmpty depth rest left hclosed =>
    obtain ⟨a, ha, hrest⟩ := exists_skipSpace rest
    refine ⟨_, ?_, .objEmpty ha⟩
    rw [hrest, hclosed]
    simp
  | @obj depth rest left ms hmembers =>
    obtain ⟨a, ha, hrest⟩ := exists_skipSpace rest
    obtain ⟨lit, hlit, hspells⟩ := ih.members hmembers
    refine ⟨_, ?_, .obj (hspells.blank_append ha trivial) (OrderedMap.collapses_ofEntries ms)⟩
    rw [hrest, hlit]
    simp
  | @arrEmpty depth rest left hclosed =>
    obtain ⟨a, ha, hrest⟩ := exists_skipSpace rest
    refine ⟨_, ?_, .arrEmpty ha⟩
    rw [hrest, hclosed]
    simp
  | @arr depth rest left vs hitems =>
    obtain ⟨a, ha, hrest⟩ := exists_skipSpace rest
    obtain ⟨lit, hlit, hspells⟩ := ih.items hitems
    refine ⟨_, ?_, .arr (hspells.blank_append ha trivial)⟩
    rw [hrest, hlit]
    simp
  | scalar hscalar => exact readScalar_sound hscalar

theorem readsSpelled (fuel : Nat) : ReadsSpelled fuel := by
  induction fuel with
  | zero => exact ⟨nofun, nofun, nofun⟩
  | succ fuel ih => exact ⟨readValue_sound ih, readItems_sound ih, readMembers_sound ih⟩

/-- A text that is read is spelled. -/
theorem parse_sound {cs : List Char} {v : Document} (h : parse cs = .ok v) :
    Spells maxDigits Rules.lenient.maxNesting cs (.padded v) := by
  unfold parse parseBy at h
  split at h
  · cases h
  · obtain ⟨⟨w, afterValue⟩, hv, h⟩ := bind_eq_ok h
    obtain ⟨a, ha, hcs⟩ := exists_skipSpace cs
    obtain ⟨b, hb, hafter⟩ := exists_skipSpace afterValue
    obtain ⟨lit, hlit, hspells⟩ := (readsSpelled _).value hv
    dsimp only at h
    split at h
    · rename_i hend
      obtain rfl := Except.ok.inj h
      rw [hend, List.append_nil] at hafter
      rw [hcs, hlit, hafter]
      exact .padded ha hspells hb
    · cases h

end ReactScaffold.Json
