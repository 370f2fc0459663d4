import ReactScaffold.Template.Fault

/-!
# Calls of methods

A method of a dialect has one parameter or takes any number of arguments, and some methods have a
switch that is set by name only. `Signature.bind` matches the arguments of a call with these; what
a method gives for arguments that match is `Method.apply`.
-/

namespace ReactScaffold

/-- How a method is called: its full name, its parameter, and its switch. A method without a
parameter takes any number of arguments. -/
structure Signature where
  method : String
  parameter : Option String
  switch : Option String
deriving DecidableEq, Repr

/-- The arguments of a call that a method takes. -/
structure Arguments where
  values : List (Json String)
  switch : Option (Json String) := none

/-- The value for the parameter of the method. -/
def Arguments.value (a : Arguments) : Json String := a.values.headD .null

/-- Whether the switch of the method is on. -/
def Arguments.isOn (a : Arguments) : Bool := a.switch.any Json.truthy

/-- How each method is called. -/
def Method.signature : Method → Signature
  | .typeMark _ => ⟨"LanguageFragment.ts", some "annotation", none⟩
  | .attr _ => ⟨"StylingFragment.attr", some "role", none⟩
  | .value _ => ⟨"StylingFragment.value", some "text", none⟩
  | .stylesBlock _ => ⟨"StylingFragment.styles_block", none, some "annotate"⟩
  | .importFor _ => ⟨"IconFragment.import_for", none, none⟩
  | .glyph _ => ⟨"IconFragment.glyph", some "role", none⟩
  | .addCommand _ => ⟨"PackageManagerCommands.add_command", some "packages", some "dev"⟩

namespace Signature

/-- Adds an argument that is given by name. The dialect itself goes by the name `self`. -/
def bindName (s : Signature) (a : Arguments) (argument : String × Json String) :
    Except CallFault Arguments :=
  let (name, v) := argument
  if s.switch = some name then .ok { a with switch := some v }
  else if s.parameter = some name then
    if a.values.isEmpty then .ok { a with values := [v] }
    else .error (.repeatedName s.method name)
  else if name = "self" then .error (.repeatedName s.method name)
  else .error (.unknownName s.method name)

/-- Requires one value for the parameter, if there is one. -/
def checkCount (s : Signature) (a : Arguments) : Except CallFault Arguments :=
  match s.parameter, a.values with
  | none, _ | some _, [_] => .ok a
  | some parameter, [] => .error (.missing s.method parameter)
  | some _, vs => .error (.tooMany s.method vs.length a.switch.isSome)

/-- The arguments of a call, given by position and by name. -/
def bind (s : Signature) (values : List (Json String)) (named : List (String × Json String)) :
    Except CallFault Arguments := do
  s.checkCount (← named.foldlM s.bindName { values })

end Signature

/-- The key of a table that a value is: a text, or something that is in no table. -/
def tableKey {α : Type} (find : String → Option α) (v : Json String) : Except TemplateFault α :=
  match v with
  | .str s => (find s).elim (.error (.noEntry v)) .ok
  | .arr _ | .obj _ => .error (.unhashable v.kindName)
  | v => .error (.noEntry v)

/-- The items of data: of a list, the characters of a text, or the names of members. -/
def itemsOf (v : Json String) : Except TemplateFault (List (Json String)) :=
  match v with
  | .arr vs => .ok vs
  | .str s => .ok (s.toList.map fun c => .str (String.singleton c))
  | .obj members => .ok (members.map fun m => .str m.1)
  | v => .error (.notIterable v.kindName)

/-- What a method gives for arguments that it takes. -/
def Method.apply (m : Method) (a : Arguments) : Except TemplateFault (Json String) :=
  match m with
  | .typeMark f => .ok (if f.annotate then a.value else .str "")
  | .attr f =>
    if f.isInline then .ok (.str (StylingDialect.inlineAttr a.value.display))
    else do return .str (f.attr (← tableKey Role.ofName? a.value))
  | .value f => .ok (if f.isInline then a.value else .str (f.value a.value.display))
  | .stylesBlock f =>
    if f.isInline then do
      return .str (f.stylesBlock (← a.values.mapM (tableKey Role.ofName?)) a.isOn)
    else .ok (.str "")
  | .importFor f =>
    if f.style = .named then do
      return .str (f.importFor (← a.values.mapM (tableKey IconRole.ofName?)))
    else .ok (.str (f.importFor []))
  | .glyph f => do return .str (f.glyph (← tableKey IconRole.ofName? a.value))
  | .addCommand c => do
    return .arr ((c.addCommand [] a.isOn).map .str ++ (← itemsOf a.value))

/-- Calls a method with arguments given by position and by name. -/
def Method.call (m : Method) (values : List (Json String)) (named : List (String × Json String)) :
    Except TemplateFault (Json String) := do
  m.apply (← (m.signature.bind values named).mapError .badCall)

end ReactScaffold
