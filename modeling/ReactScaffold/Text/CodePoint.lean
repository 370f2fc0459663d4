/-!
# Code points

An escape in a data file may name one half of a surrogate pair, which is no character. Text read
from such a file is a list of code points: characters and lone halves.
-/

namespace ReactScaffold.Text

/-- A character, or the surrogate half `0xD800 + n`. -/
inductive CodePoint where
  | scalar (c : Char)
  | half (n : Fin 0x800)
deriving DecidableEq, Repr

/-- A text that may hold lone surrogate halves. -/
abbrev WideText := List CodePoint

/-- The number of the code point. -/
def CodePoint.toNat : CodePoint → Nat
  | .scalar c => c.toNat
  | .half n => 0xD800 + n

/-- The code point of a number, which is a surrogate half only between `0xD800` and `0xDFFF`. -/
def CodePoint.ofNat (n : Nat) : CodePoint :=
  if h : 0xD800 ≤ n ∧ n < 0xE000 then .half ⟨n - 0xD800, by omega⟩ else .scalar (Char.ofNat n)

/-- The character, when the code point is one. -/
def CodePoint.char? : CodePoint → Option Char
  | .scalar c => some c
  | .half _ => none

/-- The code points of a list of characters. -/
def WideText.ofChars (cs : List Char) : WideText := cs.map .scalar

/-- The code points of a text. -/
def WideText.ofString (s : String) : WideText := WideText.ofChars s.toList

/-- The characters of a wide text that has no lone half. -/
def WideText.chars? (t : WideText) : Option (List Char) := t.mapM CodePoint.char?

/-- The text, when it has no lone half. -/
def WideText.string? (t : WideText) : Option String := (WideText.chars? t).map String.ofList

@[simp] theorem WideText.chars?_ofChars (cs : List Char) :
    WideText.chars? (WideText.ofChars cs) = some cs := by
  induction cs with
  | nil => rfl
  | cons c rest ih =>
    simp only [WideText.chars?, WideText.ofChars, List.map_cons, List.mapM_cons] at ih ⊢
    simp [CodePoint.char?, ih]

end ReactScaffold.Text
