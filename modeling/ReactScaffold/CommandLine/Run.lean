import ReactScaffold.CommandLine.Help
import ReactScaffold.CommandLine.Parse
import ReactScaffold.Dialogue.Collect
import ReactScaffold.Project.Saved
import ReactScaffold.Session.Scaffold

/-!
# A run from its command line

The answers come from a saved file, or from options and questions. They are saved if that is asked
for, and the project is scaffolded. Failures that the program knows are shown, and each way to end
has its exit code.
-/

namespace ReactScaffold

/-- What a run is started with, beside its session. `elapsed` is how long it takes to scaffold. -/
structure Start where
  arguments : List String
  environment : Environment := []
  programs : Programs := fun _ => .started {}
  elapsed : Decimal.Binary64 := .zero

/-- How a run ends. -/
inductive Ending where
  | finished
  | helped
  | misused (e : UsageError)
  | reported
  | aborted
  | escaped (f : Failure)

/-- The exit code of an ending. A failure that escapes has none. -/
def Ending.exitCode? : Ending → Option Nat
  | .finished | .helped => some 0
  | .misused _ => some 2
  | .reported => some 1
  | .aborted => some 130
  | .escaped _ => none

namespace Session

/-- The failure that a saved fault is. -/
def savedFailure : SavedFault → Failure
  | .undecodable e => .fault (.undecodable e)
  | .invalid e => .fault (.invalid e)

/-- Loads a saved project. -/
def loadProject (path : Path) : Action Session Project := do
  match ← readOctets path with
  | .error e => throw (e.report path.text)
  | .ok octets => Action.ofExcept savedFailure (Project.ofSavedFile octets)

/-- The project with the name that an invocation gives it, unless it gives none. -/
def renameProject (p : Project) (answers : Answers) : Action Session Project :=
  match answers.given? "project_name" with
  | some (.str name) =>
    if name.isEmpty then pure p
    else
      Action.ofExcept (fun e => .fault (.invalid e))
        (Project.ofAnswers (OrderedMap.insert p.toAnswers "project_name" (.str name)))
  | _ => pure p

/-- The path that is given for a file. -/
def requireGiven : PathArgument → Action Session Path
  | .path p => pure p
  | .dashes => Action.fail .notAPath

/-- The project that an invocation describes. -/
def resolveProject (i : Invocation) (settings : Settings) : Action Session Project :=
  match i.replayFrom with
  | some given => do renameProject (← loadProject (← requireGiven given)) i.answers
  | none =>
    Collector.collect
      { interactive := !i.assumeDefaults, packageManager := settings.defaultPackageManager }
      i.answers

/-- Saves a project. -/
def saveProject (p : Project) (path : Path) : Action Session Unit := do
  requireNone (← makeDirectories path.parent)
  requireNone (← writeOctets path (Text.Utf8.encode p.savedText.toList))
  remark .info .run ("Saved answers to " ++ path.text)

/-- Does what an invocation asks for. -/
def carryOut (start : Start) (i : Invocation) (settings : Settings) : Action Session Unit := do
  let p ← resolveProject i settings
  if let some given := i.saveTo then saveProject p (← requireGiven given)
  scaffold start.programs settings start.elapsed p

/-- The events that show a failure and how the run ends by it. -/
def failureEnding : Failure → List Event × Ending
  | .fault .interrupted => ([.error "Aborted."], .aborted)
  | .fault (.invalid e) => ([.err ("[bold red]Invalid answers: " ++ e.headline)], .reported)
  | .fault (.os e) => ([.error e.message], .reported)
  | .fault f => ([], .escaped (.fault f))
  | .scaffold e =>
    let advice := match e with
      | .step _ _ _ => [.warning "The project was left as is; remove it before retrying."]
      | _ => []
    (.error e.message :: advice, .reported)

/-- Does what an invocation asks for, and shows the failure by which that ends. -/
def conclude (start : Start) (i : Invocation) (settings : Settings) (s : Session) :
    Ending × Session :=
  match (carryOut start i settings).perform s with
  | (.ok (), s) => (.finished, s)
  | (.error f, s) =>
    let (events, ending) := failureEnding f
    (ending, { s with shown := s.shown ++ events })

end Session

/-- A run that is over: how it ended, the session after it, and whether all remarks are kept. -/
structure Result where
  ending : Ending
  session : Session
  verbose : Bool

/-- The remarks that are kept. -/
def Result.remarks (r : Result) : List Remark := if r.verbose then r.session.remarks else []

/-- What a run writes to its standard output as plain text. -/
def Result.helpShown (r : Result) : String :=
  match r.ending with
  | .helped => helpText
  | _ => ""

/-- The settings of an invocation in an environment. -/
def Invocation.resolveSettings (i : Invocation) (env : Environment) :
    Except UnknownChoice Settings :=
  (Settings.ofEnvironment env).map i.settings

/-- A run of the program. -/
def Start.run (start : Start) (s : Session) : Result :=
  match Invocation.parse start.arguments with
  | .error .help => ⟨.helped, s, false⟩
  | .error (.misuse e) => ⟨.misused e, s, false⟩
  | .ok i =>
    match i.resolveSettings start.environment with
    | .error e => ⟨.escaped (.fault (.unknownChoice e)), s, false⟩
    | .ok settings =>
      let (ending, s) := Session.conclude start i settings s
      ⟨ending, s, settings.verbose⟩

end ReactScaffold
