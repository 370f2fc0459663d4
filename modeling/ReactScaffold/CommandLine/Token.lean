import ReactScaffold.CommandLine.Invocation
import ReactScaffold.Text.DecimalDigit
import ReactScaffold.Text.Quoted

/-!
# Tokens of a command line

Each argument is an operand, an option, possibly with a value attached, or something that looks
like an option and is none. A long option may be shortened as long as no other one begins with the
same letters. After two dashes all arguments are operands.
-/

namespace ReactScaffold

open Text

/-- Why a command line cannot be used. -/
inductive UsageError where
  | ambiguous (argument : String) (candidates : List String)
  | valueExpected (title : String)
  | valueIgnored (title value : String)
  | invalidChoice (title value : String) (choices : List String)
  | unrecognized (arguments : List String)
deriving DecidableEq, Repr

/-- The description of a usage error. -/
def UsageError.message : UsageError → String
  | .ambiguous argument candidates =>
    "ambiguous option: " ++ argument ++ " could match " ++ ", ".intercalate candidates
  | .valueExpected title => "argument " ++ title ++ ": expected one argument"
  | .valueIgnored title value =>
    "argument " ++ title ++ ": ignored explicit argument " ++ quoted value
  | .invalidChoice title value choices =>
    "argument " ++ title ++ ": invalid choice: " ++ quoted value ++ " (choose from " ++
      ", ".intercalate (choices.map quoted) ++ ")"
  | .unrecognized arguments => "unrecognized arguments: " ++ " ".intercalate arguments

/-- An argument as it is understood. What is attached to an option stands behind an equals sign or
directly behind its letter. -/
inductive Token where
  | operand (text : String)
  | terminator
  | option (flag : Flag) (attached : Option (List Char))
  | unknown (text : String)
deriving DecidableEq, Repr

/-- The characters before the first equals sign, and those after it if there is one. -/
def splitEquals (cs : List Char) : List Char × Option (List Char) :=
  match cs.dropWhile (· ≠ '=') with
  | [] => (cs, none)
  | _ :: value => (cs.takeWhile (· ≠ '='), some value)

/-- Whether digits, at least one, make up the characters. -/
def areDigits (cs : List Char) : Bool := !cs.isEmpty && cs.all isDecimalDigit

/-- Whether the characters write a negative number, with a fraction or without. A line feed at the
end is overlooked. -/
def isNegativeNumber (cs : List Char) : Bool :=
  match dropFinalLineFeed cs with
  | '-' :: digits =>
    areDigits digits ||
      (match digits.dropWhile isDecimalDigit with
      | '.' :: fraction => areDigits fraction
      | _ => false)
  | _ => false

/-- The options that an argument may be a shortened form of. -/
def candidates (cs : List Char) : List (Flag × Option (List Char)) :=
  match cs with
  | '-' :: '-' :: _ =>
    let (start, value) := splitEquals cs
    (Flag.all.filter fun f => start.isPrefixOf f.name.toList).map fun f => (f, value)
  | '-' :: c :: value =>
    (Flag.all.filter fun f => f.name.toList = ['-', c]).map fun f => (f, some value)
  | _ => []

/-- The token for an argument that no option matches. -/
def unmatchedToken (argument : String) : Token :=
  if isNegativeNumber argument.toList || argument.toList.contains ' ' then .operand argument
  else .unknown argument

/-- The token for an argument that starts with a dash and is no spelling of an option. -/
def dashedToken (argument : String) : Except UsageError Token :=
  let (name, value) := splitEquals argument.toList
  match value, Flag.ofName? (String.ofList name) with
  | some v, some f => .ok (.option f (some v))
  | _, _ =>
    match candidates argument.toList with
    | [] => .ok (unmatchedToken argument)
    | [(f, attached)] => .ok (.option f attached)
    | several => .error (.ambiguous argument (several.map (·.1.name)))

/-- The token for an argument in front of two dashes. -/
def Token.ofArgument (argument : String) : Except UsageError Token :=
  if argument.toList.head? ≠ some '-' then .ok (.operand argument)
  else
    match Flag.ofName? argument with
    | some f => .ok (.option f none)
    | none => if argument = "-" then .ok (.operand argument) else dashedToken argument

/-- The tokens of a command line. -/
def tokens : List String → Except UsageError (List Token)
  | [] => .ok []
  | argument :: rest =>
    if argument = "--" then .ok (.terminator :: rest.map .operand)
    else do return (← Token.ofArgument argument) :: (← tokens rest)

end ReactScaffold
