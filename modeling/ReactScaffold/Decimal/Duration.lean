import ReactScaffold.Decimal.Binary64

/-!
# Durations

A duration is shown as hours, minutes and seconds, parts that are zero left out. Whole seconds
are split exactly. A measured duration is a binary number: its quotients are rounded to binary
numbers before their whole part is taken, and below a minute the seconds show one decimal.
-/

namespace ReactScaffold.Decimal

/-- A length of time in seconds, counted or measured. -/
inductive Seconds where
  | whole (n : Int)
  | measured (x : Binary64)
deriving DecidableEq, Repr

/-- A length of time that cannot be split into hours, minutes and seconds. -/
inductive DurationError where
  | notFinite
deriving DecidableEq, Repr

/-- The description of the failure. -/
def DurationError.message : DurationError → String
  | .notFinite => "cannot convert float NaN to integer"

/-- The parts of a duration: hours, minutes and the seconds that remain. -/
structure DurationParts where
  hours : Nat
  minutes : Nat
  seconds : Quotient
deriving DecidableEq, Repr

/-- The remainder of a quotient by a whole number. -/
def Quotient.modulo (x : Quotient) (n : Nat) : Quotient := ⟨x.num % (n * x.den), x.den⟩

/-- The quotient without its remainder by a whole number. -/
def Quotient.withoutModulo (x : Quotient) (n : Nat) : Quotient :=
  ⟨x.num / (n * x.den) * n, 1⟩

/-- How often `n` goes into `x` when the difference and the quotient are rounded to binary
numbers on the way; a quotient that rounds to more than a half above its whole part counts up. -/
def Quotient.timesRounded (x : Quotient) (n : Nat) : Nat :=
  let toBinary (y : Quotient) : Quotient := (Binary64.ofQuotient false y).magnitude?.getD y
  let multiple := toBinary (x.withoutModulo n)
  let times := toBinary ⟨multiple.num, multiple.den * n⟩
  let rest := times.num % times.den
  if times.den < 2 * rest then times.floor + 1 else times.floor

/-- The parts of a number of seconds that is not negative. -/
def Seconds.parts : Seconds → Except DurationError DurationParts
  | .whole n =>
    let n := n.toNat
    .ok ⟨n / 3600, n % 3600 / 60, ⟨n % 60, 1⟩⟩
  | .measured x =>
    match x.magnitude? with
    | none => .error .notFinite
    | some x => .ok ⟨x.timesRounded 3600, (x.modulo 3600).timesRounded 60, x.modulo 60⟩

/-- Seconds with one decimal. -/
def tenths (x : Quotient) : String :=
  let n := (x.scale 10 1).round
  toString (n / 10) ++ "." ++ toString (n % 10) ++ "s"

/-- The text of the parts of a duration. -/
def DurationParts.text (p : DurationParts) : String :=
  let hours := if p.hours > 0 then [toString p.hours ++ "h"] else []
  let minutes := if p.minutes > 0 then [toString p.minutes ++ "m"] else []
  let seconds :=
    if p.hours > 0 || p.minutes > 0 then toString p.seconds.floor ++ "s" else tenths p.seconds
  " ".intercalate (hours ++ minutes ++ [seconds])

/-- Whether the duration lies below zero. -/
def Seconds.isNegative : Seconds → Bool
  | .whole n => n < 0
  | .measured x => x.isNegative

/-- The text of a duration. A negative one reads as none at all. -/
def formatDuration (s : Seconds) : Except DurationError String :=
  if s.isNegative then .ok "0.0s" else s.parts.map DurationParts.text

end ReactScaffold.Decimal
