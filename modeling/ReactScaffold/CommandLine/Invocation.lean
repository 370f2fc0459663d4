import ReactScaffold.Project.Answers
import ReactScaffold.Settings

/-!
# Invocations

An invocation is what a command line asks for: answers that need not be asked for, files that
answers are read from and saved to, and settings. The options are listed in the order in which an
ambiguity names them.
-/

namespace ReactScaffold

/-- What a command line asks for. -/
structure Invocation where
  answers : Answers := []
  assumeDefaults : Bool := false
  replayFrom : Option PathArgument := none
  saveTo : Option PathArgument := none
  outputDir : Option PathArgument := none
  dryRun : Bool := false
  verbose : Bool := false
deriving BEq, Repr

/-- What an option does. -/
inductive Effect where
  | showHelp
  | choose (answer : String) (choices : List String)
  | switch (answer : String) (on : Bool)
  | assumeDefaults
  | replayFrom
  | saveTo
  | outputDir
  | dryRun
  | verbose
deriving DecidableEq, Repr

/-- Whether an option is followed by a value. -/
def Effect.takesValue : Effect → Bool
  | .choose _ _ | .replayFrom | .saveTo | .outputDir => true
  | _ => false

/-- One spelling of an option, and what the option is called in messages. -/
structure Flag where
  name : String
  title : String
  effect : Effect
deriving DecidableEq, Repr

/-- An option that chooses along an axis. -/
def Flag.choice (α : Type) [Axis α] (name answer : String) : Flag :=
  ⟨name, name, .choose answer (Axis.values α)⟩

/-- The two spellings of a switch. -/
def Flag.switches (word answer : String) : List Flag :=
  let on := "--" ++ word
  let off := "--no-" ++ word
  let title := on ++ "/" ++ off
  [⟨on, title, .switch answer true⟩, ⟨off, title, .switch answer false⟩]

/-- A long and a short spelling of an option. -/
def Flag.spellings (long short : String) (effect : Effect) : List Flag :=
  let title := long ++ "/" ++ short
  [⟨long, title, effect⟩, ⟨short, title, effect⟩]

/-- All options. -/
def Flag.all : List Flag :=
  [⟨"-h", "-h/--help", .showHelp⟩, ⟨"--help", "-h/--help", .showHelp⟩,
    .choice Framework "--framework" "framework",
    .choice Router "--router" "router",
    .choice Language "--language" "language",
    .choice PackageManager "--package-manager" "package_manager",
    .choice Styling "--styling" "styling",
    .choice TailwindVersion "--tailwind-version" "tailwind_version",
    .choice StateManagement "--state" "state_management",
    .choice Icons "--icons" "icons"] ++
  Flag.switches "code-quality" "code_quality" ++
  Flag.switches "testing" "testing" ++
  Flag.switches "api-client" "api_client" ++
  Flag.spellings "--yes" "-y" .assumeDefaults ++
  [⟨"--config", "--config", .replayFrom⟩, ⟨"--save-config", "--save-config", .saveTo⟩] ++
  Flag.spellings "--output" "-o" .outputDir ++
  [⟨"--dry-run", "--dry-run", .dryRun⟩] ++
  Flag.spellings "--verbose" "-v" .verbose

/-- The option of the given spelling. -/
def Flag.ofName? (name : String) : Option Flag := Flag.all.find? fun f => f.name == name

/-- The settings that an invocation asks for, on top of those of the environment. -/
def Invocation.settings (i : Invocation) (s : Settings) : Settings :=
  { s with
    outputDir := i.outputDir.getD s.outputDir
    dryRun := s.dryRun || i.dryRun
    verbose := s.verbose || i.verbose }

end ReactScaffold
