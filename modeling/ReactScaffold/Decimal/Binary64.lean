import ReactScaffold.Decimal.Rounding

/-!
# Binary numbers of 64 bits

A finite number is a sign, a significand below `2 ^ 53` and an exponent of two. Every operation
rounds its exact result to the nearest such number, a half going to the even significand.
-/

namespace ReactScaffold.Decimal

/-- A binary number. A finite one is `significand * 2 ^ exponent` with its sign. -/
inductive Binary64 where
  | nan
  | infinite (negative : Bool)
  | finite (negative : Bool) (significand : Nat) (exponent : Int)
deriving DecidableEq, Repr

namespace Binary64

/-- The least exponent, that of numbers too small for a full significand. -/
def minExponent : Int := -1074

/-- The greatest exponent. -/
def maxExponent : Int := 971

/-- The binary number nearest to a quotient, with the given sign. -/
def ofQuotient (negative : Bool) (x : Quotient) : Binary64 :=
  if x.num = 0 then .finite negative 0 minExponent
  else
    let exponent := max (x.log2 - 52) minExponent
    let significand := (x.scale 2 (-exponent)).round
    let (significand, exponent) :=
      if significand = Nat.pow 2 53 then (Nat.pow 2 52, exponent + 1)
      else (significand, exponent)
    if maxExponent < exponent then .infinite negative
    else .finite negative significand exponent

/-- The binary number nearest to `digits * 10 ^ scale`. Values far outside the range are decided
by their count of digits alone. -/
def ofDecimal (negative : Bool) (digits : Nat) (scale : Int) : Binary64 :=
  if digits = 0 then .finite negative 0 minExponent
  else
    let magnitude := scale + ((Nat.toDigits 10 digits).length : Int)
    if 400 < magnitude then .infinite negative
    else if magnitude < -400 then .finite negative 0 minExponent
    else ofQuotient negative ((⟨digits, 1⟩ : Quotient).scale 10 scale)

/-- The binary number nearest to a whole number. -/
def ofInt (n : Int) : Binary64 := ofQuotient (n < 0) ⟨n.natAbs, 1⟩

/-- The number zero. -/
def zero : Binary64 := .finite false 0 minExponent

/-- The distance of a finite number from zero. -/
def magnitude? : Binary64 → Option Quotient
  | .finite _ significand exponent => some ((⟨significand, 1⟩ : Quotient).scale 2 exponent)
  | _ => none

/-- Whether the number is zero, of either sign. -/
def isZero : Binary64 → Bool
  | .finite _ significand _ => significand = 0
  | _ => false

/-- The whole number that equals a finite number, if there is one. -/
def int? : Binary64 → Option Int
  | .finite negative significand exponent =>
    let x := (⟨significand, 1⟩ : Quotient).scale 2 exponent
    if x.num % x.den = 0 then
      let n : Int := (x.num / x.den : Nat)
      some (if negative then -n else n)
    else none
  | _ => none

/-- Whether the number lies below zero. -/
def isNegative : Binary64 → Bool
  | .nan => false
  | .infinite negative => negative
  | .finite negative significand _ => negative && significand != 0

end Binary64

end ReactScaffold.Decimal
