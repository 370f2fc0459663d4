import ReactScaffold.Json.Literal

/-!
# Axes of choice

An axis is a closed set of choices, each written by one word. A table over an axis has an entry
for every choice.
-/

namespace ReactScaffold

/-- A closed set of choices with their written form, in the order in which they are offered. -/
class Axis (α : Type) where
  name : String
  all : List α
  value : α → String

/-- The choice that a word stands for. -/
def Axis.ofValue? (α : Type) [Axis α] (s : String) : Option α :=
  (Axis.all : List α).find? fun a => Axis.value a == s

/-- The words for all choices of an axis. -/
def Axis.values (α : Type) [Axis α] : List String := (Axis.all : List α).map Axis.value

/-- A value that stands for none of the choices of an axis. -/
structure UnknownChoice where
  value : Json String
  axis : String

/-- The description of an unknown choice. -/
def UnknownChoice.message (e : UnknownChoice) : String :=
  e.value.literal ++ " is not a valid " ++ e.axis

/-- The choice that a value stands for. -/
def Axis.choose (α : Type) [Axis α] (v : Json String) : Except UnknownChoice α :=
  match v with
  | .str s =>
    match Axis.ofValue? α s with
    | some a => .ok a
    | none => .error ⟨v, Axis.name α⟩
  | _ => .error ⟨v, Axis.name α⟩

/-- A table over an axis that has no entry for some of the choices. -/
structure IncompleteTable where
  axis : String
  missing : List String
deriving DecidableEq, Repr

/-- The description of an incomplete table. -/
def IncompleteTable.message (e : IncompleteTable) : String :=
  e.axis ++ " fragments missing for: " ++ ", ".intercalate e.missing

/-- Requires an entry for each choice of an axis. -/
def Axis.requireTotal {α : Type} [Axis α] [DecidableEq α] (present : List α) :
    Except IncompleteTable Unit :=
  let missing := (Axis.all : List α).filter fun a => !present.contains a
  if missing.isEmpty then .ok () else .error ⟨Axis.name α, missing.map Axis.value⟩

end ReactScaffold
