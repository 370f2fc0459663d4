import ReactScaffold.Dialect.Commands
import ReactScaffold.Project.Basic
import ReactScaffold.Session.Processes

/-!
# The base project

Before a plan is run, the framework's own tool creates the base project, and its dependencies are
installed.
-/

namespace ReactScaffold

namespace Project

/-- The template from which a Vite project is created. -/
def viteTemplate (p : Project) : String := if p.isTypescript then "react-ts" else "react"

/-- The command that creates the base project. -/
def createCommand (p : Project) : List String :=
  let commands := p.packageManager.commands
  match p.framework with
  | .reactVite =>
    commands.createVite ++ [p.name.text] ++
      (if commands.createViteSeparator then ["--"] else []) ++ ["--template", p.viteTemplate]
  | .nextjs =>
    commands.dlx ++
      ["create-next-app@latest", p.name.text, if p.isTypescript then "--ts" else "--js",
        if p.isAppRouter then "--app" else "--no-app", "--src-dir", "--no-tailwind", "--eslint",
        "--import-alias", "@/*", commands.nextFlag, "--yes"]

/-- The command that installs the dependencies of the base project. -/
def installCommand (p : Project) : List String :=
  let commands := p.packageManager.commands
  commands.binary :: commands.installAll

end Project

namespace Session

/-- Creates the base project in a directory. -/
def createBase (programs : Programs) (p : Project) (parent : String) : Action Session Unit := do
  remark .info .baseProject
    ("Bootstrapping " ++ p.name.text ++ " with " ++ " ".intercalate p.createCommand)
  let _ ← runProcess programs p.createCommand (some parent)

/-- Installs the dependencies of the base project. -/
def installBase (programs : Programs) (p : Project) : Action Session Unit := do
  remark .info .baseProject
    ("Installing base dependencies with " ++ " ".intercalate p.installCommand)
  let _ ← runProcess programs p.installCommand none

end Session

end ReactScaffold
