import ReactScaffold.Project.Choices

/-!
# Package manager commands

The command lines by which each package manager is driven.
-/

namespace ReactScaffold

/-- How one package manager is called. `exec` runs an installed program, `execNoInstall` does so
without ever installing it first, and `dlx` runs a program that is not installed. -/
structure ManagerCommands where
  binary : String
  installAll : List String
  add : List String
  devFlag : String
  exec : String
  execNoInstall : String
  dlx : List String
  createVite : List String
  createViteSeparator : Bool
  nextFlag : String
deriving DecidableEq, Repr

/-- The command line that adds packages, as development packages or not. -/
def ManagerCommands.addCommand (c : ManagerCommands) (packages : List String) (dev : Bool) :
    List String :=
  c.binary :: c.add ++ (if dev then [c.devFlag] else []) ++ packages

/-- The commands of each package manager. -/
def PackageManager.commands : PackageManager → ManagerCommands
  | .npm => {
      binary := "npm"
      installAll := ["install"]
      add := ["install"]
      devFlag := "-D"
      exec := "npx"
      execNoInstall := "npx --no --"
      dlx := ["npx"]
      createVite := ["npm", "create", "vite@latest"]
      createViteSeparator := true
      nextFlag := "--use-npm" }
  | .yarn => {
      binary := "yarn"
      installAll := ["install"]
      add := ["add"]
      devFlag := "-D"
      exec := "yarn"
      execNoInstall := "yarn"
      dlx := ["yarn", "dlx"]
      createVite := ["yarn", "create", "vite"]
      createViteSeparator := false
      nextFlag := "--use-yarn" }
  | .bun => {
      binary := "bun"
      installAll := ["install"]
      add := ["add"]
      devFlag := "-d"
      exec := "bunx"
      execNoInstall := "bunx"
      dlx := ["bunx"]
      createVite := ["bun", "create", "vite"]
      createViteSeparator := false
      nextFlag := "--use-bun" }

/-- The command that runs a script of the manifest with the named package manager. -/
def scriptCommand (manager script : String) : String :=
  if manager = "yarn" then "yarn " ++ script else manager ++ " run " ++ script

end ReactScaffold
