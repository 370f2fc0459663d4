import ReactScaffold.Project.Axis
import ReactScaffold.Validation.Issue

/-!
# Reading checked values

How a data value is taken for a text, a truth value, a choice, or an object's member. Truth values
are read leniently: from zero and one, and from a few words in any case.
-/

namespace ReactScaffold

/-- The words that are read as true. -/
def trueWords : List String := ["1", "on", "t", "true", "y", "yes"]

/-- The words that are read as false. -/
def falseWords : List String := ["0", "off", "f", "false", "n", "no"]

/-- The text with its ASCII letters in lower case. -/
def asciiLower (s : String) : String := String.ofList (s.toList.map Char.toLower)

/-- The truth value that a word stands for. -/
def boolOfWord? (s : String) : Option Bool :=
  let word := asciiLower s
  if trueWords.contains word then some true
  else if falseWords.contains word then some false
  else none

/-- Whether a whole number fits a signed word of 64 bits. -/
def fitsWord (n : Int) : Bool :=
  let bound : Int := Nat.pow 2 63
  n < bound && -bound ≤ n

/-- The truth value of a whole number. -/
def readBoolInt (path : List Locator) (n : Int) : Checked Bool :=
  if n = 0 then .pass false
  else if n = 1 then .pass true
  else if fitsWord n then .fail path .unreadableBool
  else .fail path .notBool

/-- Reads a truth value. A binary number stands for the whole number that it equals, if there is
one and its distance from zero is below `2 ^ 63`. -/
def readBool (path : List Locator) : Json String → Checked Bool
  | .bool b => .pass b
  | .int n => readBoolInt path n
  | .float x =>
    match x.int? with
    | some n => if n.natAbs < Nat.pow 2 63 then readBoolInt path n else .fail path .notBool
    | none => .fail path .notBool
  | .str s =>
    match boolOfWord? s with
    | some b => .pass b
    | none => .fail path .unreadableBool
  | _ => .fail path .notBool

/-- Reads a text. -/
def readText (path : List Locator) : Json String → Checked String
  | .str s => .pass s
  | _ => .fail path .notString

/-- Reads a choice of an axis. -/
def readChoice (α : Type) [Axis α] (path : List Locator) (v : Json String) : Checked α :=
  match Axis.choose α v with
  | .ok a => .pass a
  | .error _ => .fail path (.notOneOf (Axis.values α))

/-- Reads a choice of an axis, or nothing from the missing value. -/
def readOptional (α : Type) [Axis α] (path : List Locator) : Json String → Checked (Option α)
  | .null => .pass none
  | v => (readChoice α path v).map some

/-- Reads a member that may be left out. -/
def memberOr {α : Type} (members : List (String × Json String)) (path : List Locator)
    (name : String) (default : α) (read : List Locator → Json String → Checked α) : Checked α :=
  match OrderedMap.get? members name with
  | none => .pass default
  | some v => read (path ++ [.field name]) v

/-- Reads a member that must be given. -/
def requiredMember {α : Type} (members : List (String × Json String)) (path : List Locator)
    (name : String) (read : List Locator → Json String → Checked α) : Checked α :=
  match OrderedMap.get? members name with
  | none => .fail (path ++ [.field name]) .missing
  | some v => read (path ++ [.field name]) v

end ReactScaffold
