import ReactScaffold.BaseProject
import ReactScaffold.Execution.Run
import ReactScaffold.Report
import ReactScaffold.Session.Operations

/-!
# Scaffolding a project

A project is compiled to its plan before anything is touched. A dry run shows the plan. Otherwise
the base project is created in a directory that must not exist yet, and the plan is run inside it.
-/

namespace ReactScaffold

namespace Session

/-- The absolute path that a path names. -/
def resolvePath (p : Path) : Action Session Path := do
  requirePath p
  return p.resolve (← get).cwd

/-- Stops with an error of the operating system, if there is one. -/
def requireNone (e : Option OsError) : Action Session Unit :=
  match e with
  | some e => Action.fail (.os e)
  | none => pure ()

/-- Refuses a path that leads to something. -/
def requireVacant (p : Path) : Action Session Unit := do
  match (← get).disk.contains (← get).cwd p with
  | .ok true => Action.refuse (.fileSystem p.text "directory already exists")
  | .ok false => pure ()
  | .error r => Action.fail (.os (r.error p.text))

/-- Makes a directory the working directory. -/
def changeDirectory (p : Path) : Action Session Unit := do
  requirePath p
  let s ← get
  match s.disk.walk s.cwd p with
  | .error r => Action.fail (.os (r.error p.text))
  | .ok place =>
    match s.disk.get? place with
    | some .directory => set (s.moveTo place)
    | some (.file _) => Action.fail (.os (Refusal.notDirectory.error p.text))
    | none => Action.fail (.os (Refusal.notFound.error p.text))

/-- Compiles a project to its plan. -/
def compile (p : Project) : Action Session Plan := do
  let plan ← Action.ofExcept CompileFault.failure (Plan.compile p)
  remark .debug .plan
    ("Compiled plan for " ++ p.name.text ++ ": " ++ toString plan.directories.length ++
      " directories, " ++ toString plan.installs.length ++ " installs, " ++
      toString plan.files.length ++ " files")
  return plan

/-- Runs a plan on the session and shows how many of its steps have succeeded. -/
def runPlan (programs : Programs) (plan : Plan) : Action Session Unit := do
  let course := plan.run (operations programs) (← get)
  set course.state
  let reports ← Action.ofExcept id course.outcome
  display (.out (summaryText reports))

/-- Creates the base project and moves into it. -/
def createAndInstall (programs : Programs) (p : Project) (parent root : Path) :
    Action Session Unit := do
  displayAll (headingEvents "Bootstrap")
  display (.status ("Creating " ++ Axis.value p.framework ++ " project..."))
  createBase programs p parent.text
  changeDirectory root
  remark .debug .run ("Working directory is now " ++ root.text)
  display (.status "Installing base dependencies...")
  installBase programs p
  display (.out "  [green]+[/green] Base project created")

/-- Scaffolds a project. `elapsed` is how long that takes. -/
def scaffold (programs : Programs) (settings : Settings) (elapsed : Decimal.Binary64)
    (p : Project) : Action Session Unit := do
  let plan ← compile p
  let .path parent := settings.outputDir | Action.fail .noDirectory
  let root := parent.join (Path.ofText p.name.text)
  display (p.panel (← resolvePath root).text plan.steps.length)
  if settings.dryRun then
    displayAll plan.events
    display (.success "Dry run: nothing was written.")
  else
    requireVacant root
    requireNone (← makeDirectories parent)
    createAndInstall programs p parent root
    displayAll (headingEvents "Generate")
    runPlan programs plan
    let duration ← Action.ofExcept (fun e => .fault (.duration e))
      (Decimal.formatDuration (.measured elapsed))
    display (.success ("Created " ++ p.name.text ++ " in " ++ duration))
    displayAll p.nextStepsEvents

end Session

end ReactScaffold
