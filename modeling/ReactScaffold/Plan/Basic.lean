import ReactScaffold.Dialect.Commands
import ReactScaffold.OrderedMap

/-!
# Generation plans

A plan is the list of steps that turn a base project into the project asked for.
-/

namespace ReactScaffold

/-- A package to install. Its name may end in a version. -/
structure Dependency where
  name : String
  dev : Bool := false
deriving DecidableEq, Repr

/-- One step of a plan. -/
inductive Step where
  | ensureDirectory (path : String)
  | installDependencies (manager : PackageManager) (packages : List Dependency)
      (description : String)
  | writeFile (path content : String)
  | mergeManifestScripts (entries : OrderedMap String String) (manifest : String)
deriving DecidableEq, Repr

namespace Step

/-- The word for the kind of a step. -/
def kind : Step → String
  | ensureDirectory _ => "ensure_directory"
  | installDependencies _ _ _ => "install_dependencies"
  | writeFile _ _ => "write_file"
  | mergeManifestScripts _ _ => "merge_manifest_scripts"

/-- The words that announce a step. -/
def label : Step → String
  | ensureDirectory path => "Create " ++ path ++ "/"
  | installDependencies _ _ description => "Install " ++ description
  | writeFile path _ => "Write " ++ path
  | mergeManifestScripts _ manifest => "Update " ++ manifest ++ " scripts"

end Step

/-- The names of the packages that are development packages, or of those that are not. -/
def packageNames (packages : List Dependency) (dev : Bool) : List String :=
  (packages.filter fun p => p.dev == dev).map (·.name)

/-- An ordered list of steps. -/
structure Plan where
  steps : List Step
deriving DecidableEq, Repr

namespace Plan

/-- The directories that the plan ensures. -/
def directories (plan : Plan) : List String :=
  plan.steps.filterMap fun
    | .ensureDirectory path => some path
    | _ => none

/-- The files that the plan writes, with their contents. A path that is written again keeps its
place and takes the later content. -/
def files (plan : Plan) : OrderedMap String String :=
  OrderedMap.ofEntries <| plan.steps.filterMap fun
    | .writeFile path content => some (path, content)
    | _ => none

/-- The packages that the plan installs with the description of their batch. -/
def installs (plan : Plan) : List (String × List Dependency) :=
  plan.steps.filterMap fun
    | .installDependencies _ packages description => some (description, packages)
    | _ => none

/-- The names of all packages that the plan installs. -/
def packages (plan : Plan) : List String :=
  plan.installs.flatMap fun batch => batch.2.map (·.name)

end Plan

end ReactScaffold
