import ReactScaffold.Plan.Basic
import ReactScaffold.Project.Basic

/-!
# Dependencies of a project

Each axis contributes at most one batch of packages. Batches are installed in a fixed order:
styling, state, icons, routing, API client, tests, code quality.
-/

namespace ReactScaffold

/-- Packages that are installed together. -/
structure Batch where
  description : String
  packages : List Dependency
deriving DecidableEq, Repr

/-- Packages that the application needs to run. -/
def production (names : List String) : List Dependency := names.map fun n => ⟨n, false⟩

/-- Packages that are needed for development alone. -/
def development (names : List String) : List Dependency := names.map fun n => ⟨n, true⟩

/-- The packages of Tailwind in its third version. -/
def tailwindV3Packages : List Dependency :=
  development ["tailwindcss@^3", "postcss", "autoprefixer"]

namespace Project

/-- The packages of the styling. -/
def stylingBatch? (p : Project) : Option Batch :=
  match p.styling with
  | .tailwind =>
    let packages :=
      if p.tailwindVersion = some .v4 then
        if p.framework = .reactVite then development ["tailwindcss@^4", "@tailwindcss/vite"]
        else development ["tailwindcss@^4", "@tailwindcss/postcss", "postcss"]
      else tailwindV3Packages
    some ⟨"Tailwind CSS", packages⟩
  | .shadcn =>
    some ⟨"Shadcn/UI", tailwindV3Packages ++
      production ["class-variance-authority", "clsx", "tailwind-merge", "tailwindcss-animate"] ++
      (if p.isTypescript then development ["@types/node"] else [])⟩
  | .vanillaCss | .none => none

/-- The packages of the state library. -/
def stateBatch? (p : Project) : Option Batch :=
  match p.stateManagement with
  | .redux => some ⟨"Redux Toolkit", production ["@reduxjs/toolkit", "react-redux"]⟩
  | .zustand => some ⟨"Zustand", production ["zustand"]⟩
  | .tanstackQuery =>
    some ⟨"TanStack Query", production ["@tanstack/react-query"] ++
      development ["@tanstack/react-query-devtools"]⟩
  | .none => none

/-- The packages of the icon library. -/
def iconBatch? (p : Project) : Option Batch :=
  match p.icons with
  | .lucide => some ⟨"Lucide React", production ["lucide-react"]⟩
  | .reactIcons => some ⟨"React Icons", production ["react-icons"]⟩
  | .iconify => some ⟨"Iconify", production ["@iconify/react"]⟩
  | .none => none

/-- The packages of the router. Next.js has one of its own. -/
def routingBatch? (p : Project) : Option Batch :=
  match p.framework with
  | .reactVite => some ⟨"React Router", production ["react-router-dom"]⟩
  | .nextjs => none

/-- The packages of the API client. -/
def apiClientBatch? (p : Project) : Option Batch :=
  if p.apiClient then some ⟨"Axios", production ["axios"]⟩ else none

/-- The packages that tests need. -/
def testingBatch? (p : Project) : Option Batch :=
  if p.testing then
    some ⟨"Vitest & Testing Library",
      development ["vitest", "jsdom", "@testing-library/react", "@testing-library/dom",
        "@testing-library/jest-dom"] ++
      (if p.isNextjs then development ["@vitejs/plugin-react"] else [])⟩
  else none

/-- The packages that check and format code. Next.js projects come with ESLint. -/
def codeQualityBatch? (p : Project) : Option Batch :=
  if p.codeQuality then
    some ⟨"ESLint, Prettier, Husky & Commitlint",
      development [if p.isNextjs then "@eslint/eslintrc" else "eslint"] ++
      development ["prettier", "eslint-config-prettier", "eslint-plugin-prettier", "husky",
        "lint-staged", "@commitlint/cli", "@commitlint/config-conventional"]⟩
  else none

/-- The batches of a project in the order of installation. -/
def batches (p : Project) : List Batch :=
  [p.stylingBatch?, p.stateBatch?, p.iconBatch?, p.routingBatch?, p.apiClientBatch?,
    p.testingBatch?, p.codeQualityBatch?].filterMap id

end Project

end ReactScaffold
