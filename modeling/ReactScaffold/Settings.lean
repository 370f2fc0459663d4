import ReactScaffold.Host.Path
import ReactScaffold.Project.Choices
import ReactScaffold.Text.Blank
import ReactScaffold.Text.Case

/-!
# Settings

How the tool itself runs: where projects are put, whether anything is done at all, and how much is
reported. Settings come from the environment and are overridden on the command line.
-/

namespace ReactScaffold

open Text

/-- A path as it is given on a command line: a path, or two dashes that stand where a path should
be. -/
inductive PathArgument where
  | path (p : Path)
  | dashes
deriving DecidableEq, Repr

/-- The path, if one is given. -/
def PathArgument.path? : PathArgument → Option Path
  | .path p => some p
  | .dashes => none

/-- The settings of a run. -/
structure Settings where
  outputDir : PathArgument := .path ⟨.here, []⟩
  dryRun : Bool := false
  verbose : Bool := false
  defaultPackageManager : PackageManager := .npm
deriving DecidableEq, Repr

/-- Named texts that a process is started with. -/
abbrev Environment := List (String × String)

/-- The words that switch a setting on. -/
def onWords : List String := ["1", "true", "yes", "on"]

/-- A variable in normal form: blanks around it dropped, in lower case. -/
def normalWord (s : String) : String := lower (strip s)

namespace Settings

/-- The value of a variable that is set and not empty. -/
def lookup (env : Environment) (name : String) : Option String :=
  (env.lookup name).filter fun s => !s.isEmpty

/-- Whether a variable switches its setting on. -/
def switchedOn (env : Environment) (name : String) : Bool :=
  match lookup env name with
  | some s => onWords.contains (normalWord s)
  | none => false

/-- The settings that the environment asks for. -/
def ofEnvironment (env : Environment) : Except UnknownChoice Settings := do
  let manager ← match lookup env "PRTW_PACKAGE_MANAGER" with
    | some s => Axis.choose PackageManager (.str (normalWord s))
    | none => pure .npm
  return {
    outputDir := .path (match lookup env "PRTW_OUTPUT_DIR" with
      | some s => Path.ofText s
      | none => ⟨.here, []⟩)
    dryRun := switchedOn env "PRTW_DRY_RUN"
    verbose := switchedOn env "PRTW_VERBOSE"
    defaultPackageManager := manager }

/-- The directory that a project of the given name is created as, if it is to be put anywhere. -/
def projectRoot? (s : Settings) (name : String) : Option Path :=
  s.outputDir.path?.map fun p => p.join (Path.ofText name)

end Settings

end ReactScaffold
