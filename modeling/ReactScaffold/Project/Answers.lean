import ReactScaffold.Project.Basic
import ReactScaffold.Validation.Reading

/-!
# Projects from answers

Answers are named values. Each answer is read on its own, so that all issues are found at once, in
the order of the answers of a project. Names that are not known are passed over.
-/

namespace ReactScaffold

/-- Named values. -/
abbrev Answers := List (String × Json String)

/-- Reads a project name. -/
def readName (path : List Locator) (v : Json String) : Checked ProjectName :=
  match v with
  | .str s =>
    match ProjectName.ofText? s with
    | some name => .pass name
    | none => .fail path (if s.isEmpty then .emptyString else .patternMismatch)
  | _ => .fail path .notString

/-- Checks all answers of a project. -/
def Project.check (answers : Answers) : Checked Project :=
  let choice (α : Type) [Axis α] (name : String) (default : α) : Checked α :=
    memberOr answers [] name default (readChoice α)
  let optional (α : Type) [Axis α] (name : String) : Checked (Option α) :=
    memberOr answers [] name none (readOptional α)
  let switch (name : String) : Checked Bool := memberOr answers [] name false readBool
  ((requiredMember answers [] "project_name" readName).map Project.mk)
    |>.app (choice Framework "framework" .reactVite)
    |>.app (optional Router "router")
    |>.app (choice Language "language" .typescript)
    |>.app (choice PackageManager "package_manager" .npm)
    |>.app (choice Styling "styling" .tailwind)
    |>.app (optional TailwindVersion "tailwind_version")
    |>.app (choice StateManagement "state_management" .none)
    |>.app (choice Icons "icons" .none)
    |>.app (switch "code_quality")
    |>.app (switch "testing")
    |>.app (switch "api_client")

/-- The project that the answers describe. -/
def Project.ofAnswers (answers : Answers) : Except Invalid Project :=
  (Project.check answers).get "ProjectConfig"

/-- The answers of a project in their fixed order, each by its word. -/
def Project.toAnswers (p : Project) : Answers :=
  let choice {α : Type} [Axis α] (a : α) : Json String := .str (Axis.value a)
  let optional {α : Type} [Axis α] (a : Option α) : Json String :=
    match a with
    | some a => .str (Axis.value a)
    | none => .null
  [("project_name", .str p.name.text), ("framework", choice p.framework),
    ("router", optional p.router), ("language", choice p.language),
    ("package_manager", choice p.packageManager), ("styling", choice p.styling),
    ("tailwind_version", optional p.tailwindVersion),
    ("state_management", choice p.stateManagement), ("icons", choice p.icons),
    ("code_quality", .bool p.codeQuality), ("testing", .bool p.testing),
    ("api_client", .bool p.apiClient)]

end ReactScaffold
