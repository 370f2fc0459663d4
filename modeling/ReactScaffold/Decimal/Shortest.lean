import ReactScaffold.Decimal.Binary64

/-!
# Shortest decimal text

A binary number is written with the fewest significant digits that read back as the same number;
of two such decimals the nearer one is taken, and of two that are equally near the one whose last
digit is even. The layout is positional from `10 ^ -4` up to `10 ^ 16` and exponential outside.
-/

namespace ReactScaffold.Decimal

/-- The decimals of `count` significant digits next to `x` that read back as `target`, as a
number of digits and the exponent of its last digit. -/
def nearestReadingBack? (target : Binary64) (x : Quotient) (count : Nat) : Option (Nat × Int) :=
  let last := x.log10 - count + 1
  let scaled := x.scale 10 (-last)
  let below := scaled.floor
  let readsBack (digits : Nat) : Bool := Binary64.ofDecimal false digits last = target
  let near := scaled.round
  let far := if near = below then below + 1 else below
  if readsBack near then some (near, last)
  else if readsBack far then some (far, last)
  else none

/-- The shortest decimal that reads back as a positive number: its digits and the exponent of the
last one. Seventeen digits are always enough. -/
def shortest (significand : Nat) (exponent : Int) : Nat × Int :=
  let x := (⟨significand, 1⟩ : Quotient).scale 2 exponent
  let target := Binary64.finite false significand exponent
  ((List.range 17).findSome? fun n => nearestReadingBack? target x (n + 1)).getD (0, 0)

/-- Zeros. -/
def zeros (n : Nat) : List Char := List.replicate n '0'

/-- The exponent of an exponential layout, with a sign and two digits or more. -/
def exponentText (e : Int) : List Char :=
  let digits := Nat.toDigits 10 e.natAbs
  [if e < 0 then '-' else '+'] ++ zeros (2 - digits.length) ++ digits

/-- Significant digits laid out, the first of them having the given exponent of ten. -/
def layout (digits : List Char) (first : Int) : List Char :=
  if -4 ≤ first ∧ first < 16 then
    if first < 0 then
      ['0', '.'] ++ zeros ((-first).toNat - 1) ++ digits
    else
      let whole := first.toNat + 1
      let left := digits.take whole ++ zeros (whole - digits.length)
      let right := digits.drop whole
      left ++ ['.'] ++ (if right.isEmpty then ['0'] else right)
  else
    let tail := digits.drop 1
    digits.take 1 ++ (if tail.isEmpty then [] else '.' :: tail) ++ ['e'] ++ exponentText first

/-- The text of a finite number. -/
def finiteText (negative : Bool) (significand : Nat) (exponent : Int) : String :=
  let body :=
    if significand = 0 then ['0', '.', '0']
    else
      let (number, last) := shortest significand exponent
      let all := Nat.toDigits 10 number
      let digits := (all.reverse.dropWhile (· = '0')).reverse
      layout digits (last + (all.length : Int) - 1)
  String.ofList (if negative then '-' :: body else body)

/-- The words for the numbers that are not finite. -/
structure SpecialNames where
  nan : String
  infinity : String

/-- The text of a number, given the words for those that are not finite. -/
def Binary64.text (names : SpecialNames) : Binary64 → String
  | .nan => names.nan
  | .infinite negative => (if negative then "-" else "") ++ names.infinity
  | .finite negative significand exponent => finiteText negative significand exponent

/-- The words used where a number is shown to a reader. -/
def displayNames : SpecialNames := ⟨"nan", "inf"⟩

end ReactScaffold.Decimal
