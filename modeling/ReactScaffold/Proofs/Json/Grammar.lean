import ReactScaffold.Proofs.Json.Number
import ReactScaffold.Proofs.OrderedMap

/-!
# The grammar of data files

`Spells` says which texts stand for which values: scalars, strings with their escapes, arrays and
objects, with blanks around values and commas between them. An object may repeat names; a name has
the place of its first member and the value of its last. Two bounds are carried along: the digits of
a whole number, and the depth to which arrays and objects are nested.
-/

namespace ReactScaffold.Json

open Decimal Text

/-- Blanks that may stand around values. -/
def Blank (cs : List Char) : Prop := ∀ c ∈ cs, c = ' ' ∨ c = '\t' ∨ c = '\n' ∨ c = '\r'

/-- The inside of a string, for what it stands for when surrogate halves are left as they are. -/
inductive SpellsHalves : List Char → WideText → Prop where
  | nil : SpellsHalves [] []
  | plain {c : Char} {cs : List Char} {t : WideText} (control : 0x20 ≤ c.toNat) (quote : c ≠ '"')
      (escape : c ≠ '\\') (rest : SpellsHalves cs t) : SpellsHalves (c :: cs) (.scalar c :: t)
  | escape {e c : Char} {cs : List Char} {t : WideText} (letter : escapedChar? e = some c)
      (rest : SpellsHalves cs t) : SpellsHalves ('\\' :: e :: cs) (.scalar c :: t)
  | number {a b c d : Char} {n : Nat} {cs : List Char} {t : WideText}
      (digits : hexNumber? a b c d = some n) (rest : SpellsHalves cs t) :
      SpellsHalves ('\\' :: 'u' :: a :: b :: c :: d :: cs) (CodePoint.ofNat n :: t)

/-- The text of a string, for what it stands for. -/
inductive SpellsString : List Char → WideText → Prop where
  | quoted {cs : List Char} {t : WideText} (inside : SpellsHalves cs t) :
      SpellsString ('"' :: (cs ++ ['"'])) (joinHalves t)

/-- The exponent of a number. It may be missing. -/
inductive SpellsExponent : List Char → Option Int → Prop where
  | missing : SpellsExponent [] none
  | plain {mark : Char} {digits : List Char} (isMark : mark = 'e' ∨ mark = 'E')
      (ne_nil : digits ≠ []) (isDigit : ∀ c ∈ digits, c.isDigit) :
      SpellsExponent (mark :: digits) (some (Nat.ofDigitChars 10 digits 0))
  | plus {mark : Char} {digits : List Char} (isMark : mark = 'e' ∨ mark = 'E')
      (ne_nil : digits ≠ []) (isDigit : ∀ c ∈ digits, c.isDigit) :
      SpellsExponent (mark :: '+' :: digits) (some (Nat.ofDigitChars 10 digits 0))
  | minus {mark : Char} {digits : List Char} (isMark : mark = 'e' ∨ mark = 'E')
      (ne_nil : digits ≠ []) (isDigit : ∀ c ∈ digits, c.isDigit) :
      SpellsExponent (mark :: '-' :: digits) (some (-Nat.ofDigitChars 10 digits 0))

/-- A whole number, negative if it is led by a minus sign. -/
def withSign (negative : Bool) (n : Nat) : Int := if negative then -n else n

/-- What a stretch of a text may be: a value, a value with blanks around it, the items of an array,
or a member or all members of an object. -/
inductive Part where
  | value (v : Document)
  | padded (v : Document)
  | items (vs : List Document)
  | member (k : WideText) (v : Document)
  | members (ms : List (WideText × Document))

/-- The text of a part, in which whole numbers have at most the given number of digits and arrays
and objects are nested at most to the given depth. -/
inductive Spells (most : Nat) : Nat → List Char → Part → Prop where
  | null {depth : Nat} : Spells most depth ['n', 'u', 'l', 'l'] (.value .null)
  | true {depth : Nat} : Spells most depth ['t', 'r', 'u', 'e'] (.value (.bool true))
  | false {depth : Nat} : Spells most depth ['f', 'a', 'l', 's', 'e'] (.value (.bool false))
  | nan {depth : Nat} : Spells most depth ['N', 'a', 'N'] (.value (.float .nan))
  | infinity {depth : Nat} (negative : Bool) :
      Spells most depth (signText negative ++ ['I', 'n', 'f', 'i', 'n', 'i', 't', 'y'])
        (.value (.float (.infinite negative)))
  | int {depth : Nat} (negative : Bool) {digits : List Char}
      (isWhole : (Numeral.mk digits [] none).WellFormed) (fits : digits.length ≤ most) :
      Spells most depth (signText negative ++ digits)
        (.value (.int (withSign negative (Nat.ofDigitChars 10 digits 0))))
  | float {depth : Nat} (negative : Bool) {x : Numeral} {exponent : List Char}
      (wellFormed : x.WellFormed) (isBinary : x.IsBinary)
      (spelled : SpellsExponent exponent x.exponent) :
      Spells most depth
        (signText negative ++ (x.whole ++ (Numeral.fractionText x.fraction ++ exponent)))
        (.value (.float (.ofDecimal negative x.digits x.scale)))
  | str {depth : Nat} {cs : List Char} {t : WideText} (string : SpellsString cs t) :
      Spells most depth cs (.value (.str t))
  | arrEmpty {depth : Nat} {a : List Char} (blank : Blank a) :
      Spells most (depth + 1) ('[' :: (a ++ [']'])) (.value (.arr []))
  | arr {depth : Nat} {cs : List Char} {vs : List Document}
      (items : Spells most depth cs (.items vs)) :
      Spells most (depth + 1) ('[' :: (cs ++ [']'])) (.value (.arr vs))
  | objEmpty {depth : Nat} {a : List Char} (blank : Blank a) :
      Spells most (depth + 1) ('\x7b' :: (a ++ ['\x7d'])) (.value (.obj []))
  | obj {depth : Nat} {cs : List Char} {ms : List (WideText × Document)}
      {m : OrderedMap WideText Document} (members : Spells most depth cs (.members ms))
      (collapses : OrderedMap.Collapses ms m) :
      Spells most (depth + 1) ('\x7b' :: (cs ++ ['\x7d'])) (.value (.obj m))
  | padded {depth : Nat} {a cs b : List Char} {v : Document} (before : Blank a)
      (value : Spells most depth cs (.value v)) (after : Blank b) :
      Spells most depth (a ++ (cs ++ b)) (.padded v)
  | lastItem {depth : Nat} {cs : List Char} {v : Document}
      (value : Spells most depth cs (.padded v)) : Spells most depth cs (.items [v])
  | moreItems {depth : Nat} {cs ds : List Char} {v : Document} {vs : List Document}
      (value : Spells most depth cs (.padded v)) (others : Spells most depth ds (.items vs)) :
      Spells most depth (cs ++ ',' :: ds) (.items (v :: vs))
  | member {depth : Nat} {a name b cs : List Char} {k : WideText} {v : Document} (before : Blank a)
      (string : SpellsString name k) (after : Blank b) (value : Spells most depth cs (.padded v)) :
      Spells most depth (a ++ (name ++ (b ++ ':' :: cs))) (.member k v)
  | lastMember {depth : Nat} {cs : List Char} {k : WideText} {v : Document}
      (member : Spells most depth cs (.member k v)) : Spells most depth cs (.members [(k, v)])
  | moreMembers {depth : Nat} {cs ds : List Char} {k : WideText} {v : Document}
      {ms : List (WideText × Document)} (member : Spells most depth cs (.member k v))
      (others : Spells most depth ds (.members ms)) :
      Spells most depth (cs ++ ',' :: ds) (.members ((k, v) :: ms))

end ReactScaffold.Json
