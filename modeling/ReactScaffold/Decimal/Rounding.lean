/-!
# Rounding quotients

Quotients of natural numbers rounded to whole numbers, a half going to the even neighbour, and
the scales that powers of two and ten set up.
-/

namespace ReactScaffold.Decimal

/-- A non-negative rational number as a quotient. The denominator is positive wherever this
library builds one. -/
structure Quotient where
  num : Nat
  den : Nat
deriving DecidableEq, Repr

/-- The quotient times `base ^ k`. -/
def Quotient.scale (x : Quotient) (base : Nat) (k : Int) : Quotient :=
  if 0 ≤ k then ⟨x.num * Nat.pow base k.toNat, x.den⟩
  else ⟨x.num, x.den * Nat.pow base (-k).toNat⟩

/-- The greatest whole number that is not above the quotient. -/
def Quotient.floor (x : Quotient) : Nat := x.num / x.den

/-- The whole number nearest to the quotient, the even one of two. -/
def Quotient.round (x : Quotient) : Nat :=
  let q := x.num / x.den
  let r := x.num % x.den
  if 2 * r < x.den then q
  else if x.den < 2 * r then q + 1
  else if q % 2 = 0 then q else q + 1

/-- Whether `base ^ k` is at most the quotient. -/
def Quotient.reaches (x : Quotient) (base : Nat) (k : Int) : Bool :=
  if 0 ≤ k then x.den * Nat.pow base k.toNat ≤ x.num
  else x.den ≤ x.num * Nat.pow base (-k).toNat

/-- The exponent of the greatest power of two that is not above a positive quotient. -/
def Quotient.log2 (x : Quotient) : Int :=
  let guess : Int := (x.num.log2 : Int) - (x.den.log2 : Int)
  if x.reaches 2 guess then guess else guess - 1

/-- The exponent of the greatest power of ten that is not above a positive quotient. The first
guess takes the logarithm of two as 0.30103 and is off by at most one. -/
def Quotient.log10 (x : Quotient) : Int :=
  let guess := x.log2 * 30103 / 100000
  if x.reaches 10 (guess + 1) then guess + 1
  else if x.reaches 10 guess then guess
  else guess - 1

end ReactScaffold.Decimal
