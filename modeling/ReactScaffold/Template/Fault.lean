import ReactScaffold.Template.Member

/-!
# Faults of templates

Why a template cannot be rendered, and why a method does not take the arguments of a call.
-/

namespace ReactScaffold

open Text

/-- Why a method does not take the arguments of a call. -/
inductive CallFault where
  | unknownName (method name : String)
  | repeatedName (method name : String)
  | tooMany (method : String) (given : Nat) (withSwitch : Bool)
  | missing (method parameter : String)
deriving DecidableEq, Repr

/-- The description of a call that is not taken. The dialect itself counts as an argument, so a
method with one parameter takes two. -/
def CallFault.message : CallFault → String
  | .unknownName method name =>
    method ++ "() got an unexpected keyword argument '" ++ name ++ "'"
  | .repeatedName method name =>
    method ++ "() got multiple values for argument '" ++ name ++ "'"
  | .tooMany method given withSwitch =>
    let switch :=
      if withSwitch then " positional arguments (and 1 keyword-only argument)" else ""
    method ++ "() takes 2 positional arguments but " ++ toString (given + 1) ++ switch ++
      " were given"
  | .missing method parameter =>
    method ++ "() missing 1 required positional argument: '" ++ parameter ++ "'"

/-- Why a template cannot be rendered. -/
inductive TemplateFault where
  | undefined (missing : Missing)
  | notCallable (kind : String)
  | notIterable (kind : String)
  | notText (kind : String)
  | badCall (f : CallFault)
  | noEntry (key : Json String)
  | unhashable (kind : String)
  | unknownTemplate (name : String)
  | outsideTemplate (name : String)

/-- The description of a missing value. -/
def Missing.message : Missing → String
  | .name n => "'" ++ n ++ "' is undefined"
  | .attribute owner n => "'" ++ owner ++ "' has no attribute '" ++ n ++ "'"

/-- The description of a fault, for templates that are kept in the given directory. -/
def TemplateFault.message (directory : String) : TemplateFault → String
  | .undefined missing => missing.message
  | .notCallable kind => "'" ++ kind ++ "' object is not callable"
  | .notIterable kind => "'" ++ kind ++ "' object is not iterable"
  | .notText kind => "expected string or bytes-like object, got '" ++ kind ++ "'"
  | .badCall f => f.message
  | .noEntry key => key.literal
  | .unhashable kind => "unhashable type: '" ++ kind ++ "'"
  | .unknownTemplate name =>
    quoted name ++ " not found in search path: " ++ quoted directory
  | .outsideTemplate name => name

end ReactScaffold
