import ReactScaffold.Decimal.Duration
import ReactScaffold.Host.OsError
import ReactScaffold.Json.Parser
import ReactScaffold.Manifest
import ReactScaffold.Plan.Compile
import ReactScaffold.Text.Blank
import ReactScaffold.Text.Utf8
import ReactScaffold.Validation.Issue

/-!
# Failures

A run ends early for one of two sorts of reasons. A scaffold error is one that the program reports
in its own words: answers that contradict each other, a command that fails, a file that cannot be
used, a step that fails for one of these. Anything else is a fault that it passes on as it is.
-/

namespace ReactScaffold

open Text

/-- An error that is reported in the program's own words. -/
inductive ScaffoldError where
  | invalidConfiguration (field reason : String)
  | process (command : List String) (code : Int) (errors : String)
  | fileSystem (path reason : String)
  | step (index : Int) (step : Step) (cause : ScaffoldError)
  | other (text : String)
deriving DecidableEq, Repr

/-- The description of a scaffold error. -/
def ScaffoldError.message : ScaffoldError → String
  | .invalidConfiguration field reason =>
    "Invalid configuration for '" ++ field ++ "': " ++ reason
  | .process command code errors =>
    let detail := strip errors
    "Command '" ++ " ".intercalate command ++ "' failed with exit code " ++ toString code ++
      (if detail.isEmpty then "" else ": " ++ detail)
  | .fileSystem path reason => path ++ ": " ++ reason
  | .step index stopped cause =>
    "Step " ++ toString (index + 1) ++ " (" ++ stopped.label ++ ") failed: " ++ cause.message
  | .other text => text

/-- A reason to stop that is not put into words of its own. -/
inductive Fault where
  | unknownChoice (e : UnknownChoice)
  | invalid (e : Invalid)
  | template (f : TemplateFault)
  | undecodable (e : Utf8.Undecodable)
  | unencodable (e : Utf8.Unencodable)
  | json (f : Json.Flaw)
  | scripts (f : ScriptsFault)
  | nulInPath
  | notAPath
  | noDirectory
  | os (e : OsError)
  | duration (e : Decimal.DurationError)
  | endOfInput
  | interrupted

/-- Why a run ends early. -/
inductive Failure where
  | scaffold (e : ScaffoldError)
  | fault (f : Fault)

/-- The error that a gating fault is. -/
def Project.GatingFault.error (f : Project.GatingFault) : ScaffoldError :=
  .invalidConfiguration f.field f.reason

/-- The failure that a compile fault is. -/
def CompileFault.failure : CompileFault → Failure
  | .gating f => .scaffold f.error
  | .template f => .fault (.template f)

/-- The description of a fault, for templates that are kept in the given directory. -/
def Fault.message (templates : String) : Fault → String
  | .unknownChoice e => e.message
  | .invalid e => e.headline
  | .template f => f.message templates
  | .undecodable e => e.message
  | .unencodable e => e.message
  | .json f => f.message []
  | .scripts f => f.message
  | .nulInPath => "embedded null byte"
  | .notAPath => "expected str, bytes or os.PathLike object, not list"
  | .noDirectory => "unsupported operand type(s) for /: 'list' and 'str'"
  | .os e => e.message
  | .duration e => e.message
  | .endOfInput => "EOF when reading a line"
  | .interrupted => ""

end ReactScaffold
