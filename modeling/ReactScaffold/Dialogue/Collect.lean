import ReactScaffold.Dialogue.Ask
import ReactScaffold.Project.Answers

/-!
# Collecting the answers

Answers that are given are taken, and the others are asked for in a fixed order, or take their
defaults when nobody is there to be asked. The router and the Tailwind version are asked for only
where they apply; given elsewhere they are kept, so that the contradiction can be reported.
-/

namespace ReactScaffold

open Text

/-- How answers are collected. -/
structure Collector where
  interactive : Bool := true
  packageManager : PackageManager := .npm
deriving DecidableEq, Repr

/-- The answer that is given under a name. The missing value counts as none. -/
def Answers.given? (answers : Answers) (name : String) : Option (Json String) :=
  match OrderedMap.get? answers name with
  | some .null => none
  | v => v

/-- The choice that a given value stands for. -/
def takeChoice (α : Type) [Axis α] (v : Json String) : Action Session α :=
  Action.ofExcept (fun e => .fault (.unknownChoice e)) (Axis.choose α v)

namespace Collector

/-- The choice under a name: given, asked for, or the default. -/
def choose {α : Type} [Axis α] (c : Collector) (answers : Answers) (name text : String)
    (default : α) : Action Session α :=
  match answers.given? name with
  | some v => takeChoice α v
  | none => if c.interactive then (choiceQuestion text default).ask else pure default

/-- The choice under a name that only applies if `applies`. -/
def chooseGated {α : Type} [Axis α] (c : Collector) (answers : Answers) (applies : Bool)
    (name text : String) (default : α) : Action Session (Option α) :=
  if applies then some <$> c.choose answers name text default
  else
    match answers.given? name with
    | some v => some <$> takeChoice α v
    | none => pure none

/-- The switch under a name: given, asked for, or off. -/
def confirm (c : Collector) (answers : Answers) (name text : String) : Action Session Bool :=
  match answers.given? name with
  | some v => pure v.truthy
  | none => if c.interactive then (switchQuestion text).ask else pure false

/-- The project name, as it is given or typed. -/
def projectName (c : Collector) (answers : Answers) : Action Session (Json String) :=
  match answers.given? "project_name" with
  | some v => pure v
  | none =>
    if c.interactive then .str <$> nameQuestion.ask
    else
      Action.refuse
        (.invalidConfiguration "project_name" "a project name is required without prompts")

/-- Collects the answers of a project. The name is checked last. -/
def collect (c : Collector) (answers : Answers) : Action Session Project := do
  let name ← c.projectName answers
  let framework ← c.choose answers "framework" "Which framework?" Framework.reactVite
  let router ← c.chooseGated answers (framework = .nextjs) "router" "Which Next.js router?"
    Router.app
  let language ← c.choose answers "language" "Which language?" Language.typescript
  let packageManager ← c.choose answers "package_manager" "Which package manager?"
    c.packageManager
  let styling ← c.choose answers "styling" "Which styling solution?" Styling.tailwind
  let tailwindVersion ← c.chooseGated answers (styling = .tailwind) "tailwind_version"
    "Which Tailwind CSS version?" TailwindVersion.v3
  let stateManagement ← c.choose answers "state_management" "Which state management library?"
    StateManagement.none
  let icons ← c.choose answers "icons" "Which icon library?" Icons.none
  let codeQuality ← c.confirm answers "code_quality"
    "Set up ESLint, Prettier, Husky and Commitlint?"
  let testing ← c.confirm answers "testing" "Set up Vitest and Testing Library?"
  let apiClient ← c.confirm answers "api_client" "Add an Axios API client?"
  let name ← Action.ofExcept (fun e => .fault (.invalid e))
    ((readName [.field "project_name"] name).get "ProjectConfig")
  let project : Project :=
    { name, framework, router, language, packageManager, styling, tailwindVersion,
      stateManagement, icons, codeQuality, testing, apiClient }
  Session.remark .debug .answers
    ("Collected configuration: " ++ (Json.obj project.toAnswers).literal)
  return project

end Collector

end ReactScaffold
