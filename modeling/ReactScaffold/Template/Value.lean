import ReactScaffold.Template.Call
import ReactScaffold.Text.Title

/-!
# Values in templates

A template sees data and dialects, and what their members are. A name or a member that does not
exist fails as soon as it is used.
-/

namespace ReactScaffold

open Text

namespace Value

/-- The name of the kind of a value. -/
def kindName : Value → String
  | data v => v.kindName
  | dialect f => f.kindName
  | method _ => "method"
  | undefined _ => "StrictUndefined"

/-- The name of the owner of a member, as a missing member reports it. -/
def ownerName : Value → String
  | data .null => "None"
  | v => v.kindName ++ " object"

/-- The member of a value. -/
def member (v : Value) (m : Member) : Except TemplateFault Value :=
  match v with
  | undefined missing => .error (.undefined missing)
  | data (.obj members) =>
    match OrderedMap.get? members m.text with
    | some v => .ok (data v)
    | none => .ok (undefined (.attribute "dict object" m.text))
  | dialect f =>
    match f.member? m with
    | some v => .ok v
    | none => .ok (undefined (.attribute f.kindName m.text))
  | v => .ok (undefined (.attribute v.ownerName m.text))

/-- The data of a value. -/
def get : Value → Except TemplateFault (Json String)
  | data v => .ok v
  | undefined missing => .error (.undefined missing)
  | v => .error (.notText v.kindName)

/-- The text of a value. -/
def display (v : Value) : Except TemplateFault String := v.get.map Json.display

/-- Whether a condition on the value holds. -/
def holds : Value → Except TemplateFault Bool
  | data v => .ok v.truthy
  | undefined missing => .error (.undefined missing)
  | _ => .ok true

/-- Calls a value with arguments given by position and by name. -/
def call (v : Value) (args : List Value) (named : List (String × Value)) :
    Except TemplateFault Value :=
  match v with
  | method m => do
    let args ← args.mapM get
    let named ← named.mapM fun a => return (a.1, ← a.2.get)
    return data (← m.call args named)
  | undefined missing => .error (.undefined missing)
  | v => .error (.notCallable v.kindName)

/-- The title made of a value. -/
def title : Value → Except TemplateFault Value
  | data (.str s) => .ok (data (.str (titleCase s)))
  | v => .error (.notText v.kindName)

/-- The items of a value: of a list, the characters of a text, or the names of members. -/
def items : Value → Except TemplateFault (List (Json String))
  | data v => itemsOf v
  | undefined missing => .error (.undefined missing)
  | v => .error (.notIterable v.kindName)

/-- The members of a mapping. -/
def entries : Value → Except TemplateFault (List (String × Json String))
  | data (.obj members) => .ok members
  | undefined missing => .error (.undefined missing)
  | v => .error (.undefined (.attribute v.ownerName "items"))

end Value

end ReactScaffold
