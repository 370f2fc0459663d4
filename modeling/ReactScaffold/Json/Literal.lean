import ReactScaffold.Json.Printer

/-!
# Values as shown to a reader

In messages and in rendered text a value is shown as a literal: truth values and the missing value
by name, strings in quotes when they stand inside another value or in a message.
-/

namespace ReactScaffold.Json

open Decimal Text

mutual

/-- The literal of a value. -/
def literal : Json String → String
  | null => "None"
  | bool b => if b then "True" else "False"
  | int n => String.ofList (printInt n)
  | float x => x.text displayNames
  | str s => quoted s
  | arr items => "[" ++ ", ".intercalate (literalItems items) ++ "]"
  | obj members => "\x7b" ++ ", ".intercalate (literalMembers members) ++ "\x7d"

/-- The literals of the items of an array. -/
def literalItems : List (Json String) → List String
  | [] => []
  | v :: rest => literal v :: literalItems rest

/-- The literals of the members of an object. -/
def literalMembers : List (String × Json String) → List String
  | [] => []
  | (k, v) :: rest => (quoted k ++ ": " ++ literal v) :: literalMembers rest

end

/-- The text of a value in running text: a string as it is, anything else as a literal. -/
def display : Json String → String
  | str s => s
  | v => v.literal

/-- The name of the kind of a value. -/
def kindName {τ : Type} : Json τ → String
  | null => "NoneType"
  | bool _ => "bool"
  | int _ => "int"
  | float _ => "float"
  | str _ => "str"
  | arr _ => "list"
  | obj _ => "dict"

/-- Whether a condition on the value holds: it is neither missing, false, zero nor empty. -/
def truthy : Json String → Bool
  | null => false
  | bool b => b
  | int n => n != 0
  | float x => !x.isZero
  | str s => !s.isEmpty
  | arr items => !items.isEmpty
  | obj members => !members.isEmpty

end ReactScaffold.Json
