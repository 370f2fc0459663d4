import ReactScaffold.Project.Choices
import ReactScaffold.Project.Name

/-!
# Projects

A project is the full set of answers that decide what is generated. The router applies to Next.js
projects alone and the Tailwind version to Tailwind styling alone: these two answers are gated. A
project may break the gates; `gatingFault?` says where, and `normalized` mends it.
-/

namespace ReactScaffold

/-- The answers that decide what is generated. -/
structure Project where
  name : ProjectName
  framework : Framework := .reactVite
  router : Option Router := none
  language : Language := .typescript
  packageManager : PackageManager := .npm
  styling : Styling := .tailwind
  tailwindVersion : Option TailwindVersion := none
  stateManagement : StateManagement := .none
  icons : Icons := .none
  codeQuality : Bool := false
  testing : Bool := false
  apiClient : Bool := false
deriving DecidableEq, Repr

namespace Project

/-- Whether Next.js creates the project. -/
def isNextjs (p : Project) : Bool := p.framework = .nextjs

/-- Whether the project routes by its `app` directory. -/
def isAppRouter (p : Project) : Bool := p.isNextjs && p.router = some .app

/-- Whether the sources carry types. -/
def isTypescript (p : Project) : Bool := p.language = .typescript

/-- Whether the styling needs Tailwind installed. -/
def usesTailwind (p : Project) : Bool := p.styling = .tailwind || p.styling = .shadcn

/-- Whether the state library ships an authentication store. -/
def hasAuthStore (p : Project) : Bool :=
  p.stateManagement = .redux || p.stateManagement = .zustand

/-- The extension of files that contain elements. -/
def componentExt (p : Project) : String := if p.isTypescript then "tsx" else "jsx"

/-- The extension of modules without elements. -/
def moduleExt (p : Project) : String := if p.isTypescript then "ts" else "js"

/-- Whether the theme can be switched, which takes Tailwind's dark mode. -/
def hasThemeToggle (p : Project) : Bool := p.usesTailwind

/-- Whether routes can be protected, which takes the client router and an authentication store. -/
def hasProtectedRoute (p : Project) : Bool := p.framework = .reactVite && p.hasAuthStore

/-- Whether the state library needs a context provider. -/
def needsProviders (p : Project) : Bool :=
  p.stateManagement = .redux || p.stateManagement = .tanstackQuery

/-- A gated answer that is given where it does not apply, or not given where it does. -/
inductive GatingFault where
  | routerMissing
  | routerUnused
  | tailwindVersionMissing
  | tailwindVersionUnused
deriving DecidableEq, Repr

/-- The answer that a gating fault concerns. -/
def GatingFault.field : GatingFault → String
  | .routerMissing | .routerUnused => "router"
  | .tailwindVersionMissing | .tailwindVersionUnused => "tailwind_version"

/-- The words for a gating fault. -/
def GatingFault.reason : GatingFault → String
  | .routerMissing => "a router must be selected for Next.js projects"
  | .routerUnused => "router only applies to Next.js projects"
  | .tailwindVersionMissing => "a Tailwind version must be selected for Tailwind styling"
  | .tailwindVersionUnused => "tailwind_version only applies to Tailwind styling"

/-- The first gated answer that disagrees with the answer that governs it. -/
def gatingFault? (p : Project) : Option GatingFault :=
  if p.isNextjs && p.router.isNone then some .routerMissing
  else if !p.isNextjs && p.router.isSome then some .routerUnused
  else if p.styling = .tailwind && p.tailwindVersion.isNone then some .tailwindVersionMissing
  else if p.styling ≠ .tailwind && p.tailwindVersion.isSome then some .tailwindVersionUnused
  else none

/-- The project with its gated answers filled in where they apply and dropped where they do
not. -/
def normalized (p : Project) : Project :=
  { p with
    router := if p.isNextjs then some (p.router.getD .app) else none
    tailwindVersion :=
      if p.styling = .tailwind then some (p.tailwindVersion.getD .v3) else none }

end Project

end ReactScaffold
