import ReactScaffold.Project.Axis

/-!
# The choices of a project

One type for each axis along which a project is configured.
-/

namespace ReactScaffold

/-- The framework that creates the base project. -/
inductive Framework where
  | reactVite
  | nextjs
deriving DecidableEq, Repr

/-- The routing system of a Next.js project. -/
inductive Router where
  | app
  | pages
deriving DecidableEq, Repr

/-- The language of the sources. -/
inductive Language where
  | javascript
  | typescript
deriving DecidableEq, Repr

/-- The tool that installs packages. -/
inductive PackageManager where
  | npm
  | yarn
  | bun
deriving DecidableEq, Repr

/-- The way elements are styled. Shadcn builds on Tailwind. -/
inductive Styling where
  | tailwind
  | shadcn
  | vanillaCss
  | none
deriving DecidableEq, Repr

/-- The major version of Tailwind. -/
inductive TailwindVersion where
  | v3
  | v4
deriving DecidableEq, Repr

/-- The library that holds the state of the application. -/
inductive StateManagement where
  | redux
  | zustand
  | tanstackQuery
  | none
deriving DecidableEq, Repr

/-- The icon library. -/
inductive Icons where
  | lucide
  | reactIcons
  | iconify
  | none
deriving DecidableEq, Repr

instance : Axis Framework where
  name := "Framework"
  all := [.reactVite, .nextjs]
  value
    | .reactVite => "react-vite"
    | .nextjs => "nextjs"

instance : Axis Router where
  name := "Router"
  all := [.app, .pages]
  value
    | .app => "app"
    | .pages => "pages"

instance : Axis Language where
  name := "Language"
  all := [.javascript, .typescript]
  value
    | .javascript => "javascript"
    | .typescript => "typescript"

instance : Axis PackageManager where
  name := "PackageManager"
  all := [.npm, .yarn, .bun]
  value
    | .npm => "npm"
    | .yarn => "yarn"
    | .bun => "bun"

instance : Axis Styling where
  name := "Styling"
  all := [.tailwind, .shadcn, .vanillaCss, .none]
  value
    | .tailwind => "tailwind"
    | .shadcn => "shadcn"
    | .vanillaCss => "vanilla-css"
    | .none => "none"

instance : Axis TailwindVersion where
  name := "TailwindVersion"
  all := [.v3, .v4]
  value
    | .v3 => "v3"
    | .v4 => "v4"

instance : Axis StateManagement where
  name := "StateManagement"
  all := [.redux, .zustand, .tanstackQuery, .none]
  value
    | .redux => "redux"
    | .zustand => "zustand"
    | .tanstackQuery => "tanstack-query"
    | .none => "none"

instance : Axis Icons where
  name := "Icons"
  all := [.lucide, .reactIcons, .iconify, .none]
  value
    | .lucide => "lucide"
    | .reactIcons => "react-icons"
    | .iconify => "iconify"
    | .none => "none"

end ReactScaffold
