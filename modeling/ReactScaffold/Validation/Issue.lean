/-!
# Issues with given values

Values from outside are checked against what is expected of them. Each issue says where it was
found and what is wrong there; the issues of one check are reported together.
-/

namespace ReactScaffold

/-- One step into a nested value: a member by name or an item by index. -/
inductive Locator where
  | field (name : String)
  | index (n : Nat)
deriving DecidableEq, Repr

/-- What is wrong with a value. -/
inductive Defect where
  | missing
  | notString
  | emptyString
  | patternMismatch
  | notOneOf (values : List String)
  | notBool
  | unreadableBool
  | notTuple
  | notMapping
  | notObject
  | notInstance (type : String)
  | noTag
  | unknownTag (tag : String)
  | notTagged
  | malformedJson
deriving DecidableEq, Repr

/-- A defect and the place where it is. -/
structure Issue where
  path : List Locator
  defect : Defect
deriving DecidableEq, Repr

/-- The issues found in a value of the named type. -/
structure Invalid where
  type : String
  issues : List Issue
deriving DecidableEq, Repr

/-- Words in quotes, listed with an "or" before the last. -/
def alternatives (values : List String) : String :=
  let inQuotes := values.map fun v => "'" ++ v ++ "'"
  match inQuotes.reverse with
  | [] => ""
  | [v] => v
  | last :: earlier => ", ".intercalate earlier.reverse ++ " or " ++ last

/-- The code of a defect. -/
def Defect.code : Defect → String
  | .missing => "missing"
  | .notString => "string_type"
  | .emptyString => "string_too_short"
  | .patternMismatch => "string_pattern_mismatch"
  | .notOneOf _ => "enum"
  | .notBool => "bool_type"
  | .unreadableBool => "bool_parsing"
  | .notTuple => "tuple_type"
  | .notMapping => "dict_type"
  | .notObject => "model_type"
  | .notInstance _ => "model_type"
  | .noTag => "union_tag_not_found"
  | .unknownTag _ => "union_tag_invalid"
  | .notTagged => "model_attributes_type"
  | .malformedJson => "json_invalid"

/-- The words for a defect. For text that is no JSON there are none of its own. -/
def Defect.message? : Defect → Option String
  | .missing => some "Field required"
  | .notString => some "Input should be a valid string"
  | .emptyString => some "String should have at least 1 character"
  | .patternMismatch => some "String should match pattern '^[A-Za-z0-9_-]+$'"
  | .notOneOf values => some ("Input should be " ++ alternatives values)
  | .notBool => some "Input should be a valid boolean"
  | .unreadableBool => some "Input should be a valid boolean, unable to interpret input"
  | .notTuple => some "Input should be a valid tuple"
  | .notMapping => some "Input should be a valid dictionary"
  | .notObject => some "Input should be an object"
  | .notInstance type => some ("Input should be a valid dictionary or instance of " ++ type)
  | .noTag => some "Unable to extract tag using discriminator 'kind'"
  | .unknownTag tag =>
    some ("Input tag '" ++ tag ++ "' found using 'kind' does not match any of the expected " ++
      "tags: 'ensure_directory', 'install_dependencies', 'write_file', 'merge_manifest_scripts'")
  | .notTagged => some "Input should be a valid dictionary or object to extract fields from"
  | .malformedJson => none

/-- The line that introduces the issues. -/
def Invalid.headline (e : Invalid) : String :=
  let n := e.issues.length
  toString n ++ " validation error" ++ (if n = 1 then "" else "s") ++ " for " ++ e.type

/-- The outcome of a check: what was read, and the issues. A value is usable when there are no
issues. -/
structure Checked (α : Type) where
  value? : Option α
  issues : List Issue

namespace Checked

/-- A value without issues. -/
def pass {α : Type} (a : α) : Checked α := ⟨some a, []⟩

/-- A value with one defect. -/
def fail {α : Type} (path : List Locator) (d : Defect) : Checked α := ⟨none, [⟨path, d⟩]⟩

/-- The outcome with the value mapped. -/
def map {α β : Type} (f : α → β) (c : Checked α) : Checked β := ⟨c.value?.map f, c.issues⟩

/-- Applies a checked function to a checked value; the issues of both are kept in order. -/
def app {α β : Type} (f : Checked (α → β)) (a : Checked α) : Checked β :=
  ⟨do return (← f.value?) (← a.value?), f.issues ++ a.issues⟩

/-- Checks each item of a list. -/
def all {α : Type} (cs : List (Checked α)) : Checked (List α) :=
  cs.foldr (fun c rest => (c.map fun a as => a :: as).app rest) (pass [])

/-- The value, or all issues. -/
def get {α : Type} (type : String) (c : Checked α) : Except Invalid α :=
  match c.value?, c.issues with
  | some a, [] => .ok a
  | _, issues => .error ⟨type, issues⟩

end Checked

end ReactScaffold
