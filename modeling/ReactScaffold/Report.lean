import ReactScaffold.Console
import ReactScaffold.Dialect.Commands
import ReactScaffold.Plan.Basic
import ReactScaffold.Project.Basic

/-!
# Reports on a project

What is shown about a project and its plan: the panel at the start of a run, the table of all
steps, and the table of what to do next.
-/

namespace ReactScaffold

/-- The events that show the steps of a plan. -/
def Plan.events (plan : Plan) : List Event :=
  let row (i : Nat) (step : Step) : List String := [toString (i + 1), step.kind, step.label]
  [.table "Generation plan" ["#", "Kind", "Step"] (plan.steps.mapIdx row), .blank]

namespace Project

/-- The framework with its router, if it has one. -/
def frameworkText (p : Project) : String :=
  Axis.value p.framework ++
    match p.router with
    | some r => " (" ++ Axis.value r ++ " router)"
    | none => ""

/-- The panel that announces a project at the given place with so many steps. -/
def panel (p : Project) (place : String) (steps : Nat) : Event :=
  .panel "[bold]Scaffold[/bold]"
    ("[bold bright_cyan]create-prtw[/bold bright_cyan]\n" ++
      "Project   : " ++ p.name.text ++ "\n" ++
      "Framework : " ++ p.frameworkText ++ "\n" ++
      "Output    : " ++ place ++ "\n" ++
      "Steps     : " ++ toString steps)

/-- What to do with a new project, each with the command for it. -/
def nextSteps (p : Project) : List (String × String) :=
  let script (s : String) : String := scriptCommand (Axis.value p.packageManager) s
  [("cd", p.name.text), ("Start dev server", script "dev"), ("Build", script "build")] ++
    (if p.testing then [("Run tests", script "test")] else []) ++
    (if p.codeQuality then [("Lint", script "lint")] else [])

/-- The events that show what to do with a new project. -/
def nextStepsEvents (p : Project) : List Event :=
  [.table "Next steps" ["Item", "Value"] (p.nextSteps.map fun s => [s.1, s.2]), .blank]

end Project

end ReactScaffold
