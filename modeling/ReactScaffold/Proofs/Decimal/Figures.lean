import Mathlib
import ReactScaffold.Decimal.Duration

/-!
# Written durations

A written duration is a list of figures with blanks between them. A figure is a number, with one
point at most, and the letter of its unit. A reader takes such a text apart again, and what it finds
in the text of a duration are the figures of its parts (`DurationParts.readFigures?_text`).
-/

namespace ReactScaffold.Decimal

/-- The units of a written duration. -/
inductive TimeUnit where
  | hour
  | minute
  | second
deriving DecidableEq, Repr

namespace TimeUnit

/-- The letter of the unit. -/
def letter : TimeUnit → Char
  | .hour => 'h'
  | .minute => 'm'
  | .second => 's'

/-- How many seconds the unit has. -/
def seconds : TimeUnit → Nat
  | .hour => 3600
  | .minute => 60
  | .second => 1

/-- The unit of the given letter. -/
def ofLetter? (c : Char) : Option TimeUnit := [hour, minute, second].find? fun u => u.letter = c

@[simp] theorem ofLetter?_letter (u : TimeUnit) : ofLetter? u.letter = some u := by
  cases u <;> rfl

end TimeUnit

/-! ## Figures -/

/-- One figure of a written duration: the digits before the point, those after it if there is a
point, and the unit. -/
structure Figure where
  whole : List Char
  fraction : Option (List Char) := none
  unit : TimeUnit
deriving DecidableEq, Repr

/-- Whether the characters are digits, one at least. -/
def isDigits (cs : List Char) : Bool := !cs.isEmpty && cs.all Char.isDigit

namespace Figure

/-- The digits on either side of the point. -/
def parts (f : Figure) : List (List Char) := f.whole :: f.fraction.toList

/-- The number that the digits make. -/
def number (f : Figure) : ℚ :=
  Nat.ofDigitChars 10 f.parts.flatten 0 / 10 ^ (f.fraction.getD []).length

/-- The length of time that the figure stands for, in seconds. -/
def amount (f : Figure) : ℚ := f.number * f.unit.seconds

/-- The written form of a figure. -/
def text (f : Figure) : List Char := ['.'].intercalate f.parts ++ [f.unit.letter]

/-- The figure of a written form. -/
def read? (cs : List Char) : Option Figure :=
  let parts := cs.dropLast.splitOn '.'
  if parts.all isDigits then
    (cs.getLast?.bind TimeUnit.ofLetter?).bind fun unit =>
      match parts with
      | [whole] => some { whole, unit }
      | [whole, fraction] => some { whole, fraction := some fraction, unit }
      | _ => none
  else none

/-- There are digits before the point, and after it if there is one. -/
def WellFormed (f : Figure) : Prop := ∀ part ∈ f.parts, isDigits part = true

theorem read?_text {f : Figure} (h : f.WellFormed) : read? f.text = some f := by
  have hpoint : ∀ part ∈ f.parts, '.' ∉ part := by
    intro part hpart hmem
    have hdigits := h part hpart
    rw [isDigits, Bool.and_eq_true] at hdigits
    cases List.all_eq_true.1 hdigits.2 _ hmem
  have hparts : f.text.dropLast.splitOn '.' = f.parts := by
    rw [text, List.dropLast_concat, List.splitOn_intercalate '.' hpoint (List.cons_ne_nil _ _)]
  have hunit : f.text.getLast?.bind TimeUnit.ofLetter? = some f.unit := by
    rw [text, List.getLast?_concat, Option.bind_some, TimeUnit.ofLetter?_letter]
  rw [read?, hparts, hunit, if_pos (List.all_eq_true.2 h)]
  obtain ⟨whole, fraction, unit⟩ := f
  cases fraction <;> rfl

/-- A digit is neither the point nor the letter of a unit, so that none of a figure is a blank. -/
theorem blank_notMem_text {f : Figure} (h : f.WellFormed) : ' ' ∉ f.text := by
  obtain ⟨whole, fraction, unit⟩ := f
  have hdigits {part : List Char} (hpart : isDigits part = true) : ' ' ∉ part := by
    intro hmem
    rw [isDigits, Bool.and_eq_true] at hpart
    cases List.all_eq_true.1 hpart.2 _ hmem
  have hletter : ' ' ≠ unit.letter := by cases unit <;> decide
  have hwhole : ' ' ∉ whole := hdigits (h whole List.mem_cons_self)
  cases fraction with
  | none => simp [text, parts, hwhole, hletter]
  | some fraction =>
      have hfraction : ' ' ∉ fraction := hdigits (h fraction (by simp [parts]))
      simp [text, parts, List.intercalate_cons_cons, hwhole, hfraction, hletter]

/-- The figure of a whole number. -/
def ofNat (n : Nat) (unit : TimeUnit) : Figure := { whole := Nat.toDigits 10 n, unit }

/-- The figure of a number of tenths of a second. -/
def ofTenths (n : Nat) : Figure where
  whole := Nat.toDigits 10 (n / 10)
  fraction := some (Nat.toDigits 10 (n % 10))
  unit := .second

theorem isDigits_toDigits (n : Nat) : isDigits (Nat.toDigits 10 n) = true := by
  have hall : ∀ c ∈ Nat.toDigits 10 n, c.isDigit = true := fun c hc =>
    Nat.isDigit_of_mem_toDigits (by norm_num) (by norm_num) hc
  rw [isDigits, Bool.and_eq_true, Bool.not_eq_true', List.isEmpty_eq_false_iff]
  exact ⟨Nat.toDigits_ne_nil, List.all_eq_true.2 hall⟩

theorem wellFormed_ofNat (n : Nat) (unit : TimeUnit) : (ofNat n unit).WellFormed := by
  simp [WellFormed, ofNat, parts, isDigits_toDigits]

theorem wellFormed_ofTenths (n : Nat) : (ofTenths n).WellFormed := by
  simp [WellFormed, ofTenths, parts, isDigits_toDigits]

@[simp] theorem number_ofNat (n : Nat) (unit : TimeUnit) : (ofNat n unit).number = n := by
  simp [number, ofNat, parts, Nat.ofDigitChars_ten_toDigits]

@[simp] theorem number_ofTenths (n : Nat) : (ofTenths n).number = n / 10 := by
  have hone : Nat.toDigits 10 (n % 10) = [(n % 10).digitChar] :=
    Nat.toDigits_of_lt_base (Nat.mod_lt n (by norm_num))
  have hvalue : Nat.ofDigitChars 10 (Nat.toDigits 10 (n / 10) ++ [(n % 10).digitChar]) 0 = n := by
    have hdigit := Nat.toNat_digitChar_sub_48_of_lt_ten (Nat.mod_lt n (show 0 < 10 by norm_num))
    have hzero : '0'.toNat = 48 := rfl
    rw [Nat.ofDigitChars_append, Nat.ofDigitChars_ten_toDigits, Nat.ofDigitChars_cons,
      Nat.ofDigitChars_nil]
    omega
  simp [number, ofTenths, parts, hvalue, hone]

end Figure

/-! ## Durations -/

/-- The written form of figures. -/
def figuresText (figures : List Figure) : List Char := [' '].intercalate (figures.map Figure.text)

/-- The figures of a written form. -/
def readFigures? (cs : List Char) : Option (List Figure) := (cs.splitOn ' ').mapM Figure.read?

/-- The length of time that figures state, in seconds. -/
def statedTotal (figures : List Figure) : ℚ := (figures.map Figure.amount).sum

/-- The number of hours that figures state. -/
def statedHours (figures : List Figure) : ℚ :=
  ((figures.filter fun f => f.unit = .hour).map Figure.number).sum

theorem readFigures?_figuresText {figures : List Figure} (hne : figures ≠ [])
    (h : ∀ f ∈ figures, f.WellFormed) : readFigures? (figuresText figures) = some figures := by
  have hblank : ∀ cs ∈ figures.map Figure.text, ' ' ∉ cs := by
    simp only [List.forall_mem_map]
    exact fun f hf => Figure.blank_notMem_text (h f hf)
  rw [readFigures?, figuresText, List.splitOn_intercalate ' ' hblank (by simpa using hne)]
  clear hne hblank
  induction figures with
  | nil => rfl
  | cons f figures ih =>
      obtain ⟨hf, hrest⟩ := List.forall_mem_cons.1 h
      simp [List.mapM_cons, Figure.read?_text hf, ih hrest]

namespace DurationParts

/-- The figure of the seconds. -/
def secondsFigure (p : DurationParts) : Figure :=
  if p.hours > 0 || p.minutes > 0 then .ofNat p.seconds.floor .second
  else .ofTenths (p.seconds.scale 10 1).round

/-- The figures of the parts of a duration. -/
def figures (p : DurationParts) : List Figure :=
  (if p.hours > 0 then [.ofNat p.hours .hour] else []) ++
    (if p.minutes > 0 then [.ofNat p.minutes .minute] else []) ++ [p.secondsFigure]

theorem toList_text (p : DurationParts) : p.text.toList = figuresText p.figures := by
  have hwhole (n : Nat) (unit : TimeUnit) (word : String) (hword : word.toList = [unit.letter]) :
      (toString n ++ word).toList = (Figure.ofNat n unit).text := by
    simp [Figure.text, Figure.ofNat, Figure.parts, Nat.toString_eq_repr, Nat.toList_repr, hword]
  have htenths :
      (tenths p.seconds).toList = (Figure.ofTenths (p.seconds.scale 10 1).round).text := by
    simp [tenths, Figure.text, Figure.ofTenths, Figure.parts, List.intercalate_cons_cons,
      Nat.toString_eq_repr, Nat.toList_repr, TimeUnit.letter]
  rw [text, String.toList_intercalate, figuresText]
  refine congrArg [' '].intercalate ?_
  simp only [figures, secondsFigure, List.map_append, List.map_cons, List.map_nil,
    apply_ite (List.map String.toList), apply_ite (List.map Figure.text), apply_ite String.toList,
    apply_ite Figure.text, hwhole _ .hour "h" rfl, hwhole _ .minute "m" rfl,
    hwhole _ .second "s" rfl, htenths]

theorem wellFormed_of_mem_figures {p : DurationParts} {f : Figure} (h : f ∈ p.figures) :
    f.WellFormed := by
  have hseconds : p.secondsFigure.WellFormed := by
    unfold secondsFigure
    split_ifs
    · exact Figure.wellFormed_ofNat _ _
    · exact Figure.wellFormed_ofTenths _
  simp only [figures, List.mem_append, List.mem_singleton, List.mem_ite_nil_right] at h
  rcases h with (⟨-, rfl⟩ | ⟨-, rfl⟩) | rfl
  · exact Figure.wellFormed_ofNat _ _
  · exact Figure.wellFormed_ofNat _ _
  · exact hseconds

theorem readFigures?_text (p : DurationParts) :
    readFigures? p.text.toList = some p.figures := by
  rw [p.toList_text]
  exact readFigures?_figuresText (by simp [figures]) fun f hf => wellFormed_of_mem_figures hf

end DurationParts

end ReactScaffold.Decimal
