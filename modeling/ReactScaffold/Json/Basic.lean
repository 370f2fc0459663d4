import ReactScaffold.Decimal.Shortest
import ReactScaffold.OrderedMap
import ReactScaffold.Text.CodePoint

/-!
# Data values

The values of the JSON data format. Whole numbers and binary numbers stay apart, and an object is
the list of its members in order. The type of strings is a parameter: data read from a file holds
wide text, in which lone surrogate halves may occur, and all other data holds plain strings.
-/

namespace ReactScaffold

open Decimal Text

/-- A data value whose strings have type `τ`. -/
inductive Json (τ : Type) where
  | null
  | bool (b : Bool)
  | int (n : Int)
  | float (x : Binary64)
  | str (s : τ)
  | arr (items : List (Json τ))
  | obj (members : List (τ × Json τ))
deriving BEq, Repr

namespace Json

/-- A value as a file may hold it. -/
abbrev Document := Json WideText

variable {τ σ : Type}

mutual

/-- The value with every string and member name mapped. -/
def map (f : τ → σ) : Json τ → Json σ
  | null => null
  | bool b => bool b
  | int n => int n
  | float x => float x
  | str s => str (f s)
  | arr items => arr (mapItems f items)
  | obj members => obj (mapMembers f members)

/-- The items of an array, mapped. -/
def mapItems (f : τ → σ) : List (Json τ) → List (Json σ)
  | [] => []
  | v :: rest => map f v :: mapItems f rest

/-- The members of an object, mapped. -/
def mapMembers (f : τ → σ) : List (τ × Json τ) → List (σ × Json σ)
  | [] => []
  | (k, v) :: rest => (f k, map f v) :: mapMembers f rest

end

mutual

/-- The value over plain strings, when no string holds a lone surrogate half. -/
def plain? : Document → Option (Json String)
  | null => some null
  | bool b => some (bool b)
  | int n => some (int n)
  | float x => some (float x)
  | str s => (WideText.string? s).map str
  | arr items => (plainItems? items).map arr
  | obj members => (plainMembers? members).map obj

/-- The items of an array over plain strings. -/
def plainItems? : List Document → Option (List (Json String))
  | [] => some []
  | v :: rest => do return (← plain? v) :: (← plainItems? rest)

/-- The members of an object over plain strings. -/
def plainMembers? : List (WideText × Document) → Option (List (String × Json String))
  | [] => some []
  | (k, v) :: rest => do
    return (← WideText.string? k, ← plain? v) :: (← plainMembers? rest)

end

/-- The document of a value over plain strings. -/
def toDocument (v : Json String) : Document := v.map WideText.ofString

/-- The member of an object with the given name. -/
def get? [DecidableEq τ] (v : Json τ) (k : τ) : Option (Json τ) :=
  match v with
  | obj members => OrderedMap.get? members k
  | _ => none

end Json

end ReactScaffold
