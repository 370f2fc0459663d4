import ReactScaffold.File.Path
import ReactScaffold.Template.All

/-!
# Contents of generated files

Each kind of file has one template. What varies between projects comes in through the scope: the
dialects of the chosen framework, language, styling, icons and package manager, and what follows
from the answers.
-/

namespace ReactScaffold

/-- The template of a styling's stylesheet. -/
def Styling.stylesheetTemplate : Styling → Template
  | .tailwind => .tailwindStyles
  | .shadcn => .shadcnStyles
  | .vanillaCss => .vanillaStyles
  | .none => .plainStyles

/-- The template of a kind of file in a project. -/
def FileKind.template (kind : FileKind) (p : Project) : Template :=
  match kind with
  | .button => .button
  | .navbar => .navbar
  | .footer => .footer
  | .layout => .layout
  | .themeToggle => .themeToggle
  | .protectedRoute => .protectedRoute
  | .app => .app
  | .appRoutes => .appRoutes
  | .homePage => .homePage
  | .aboutPage => .aboutPage
  | .dashboardPage => .dashboardPage
  | .rootLayout => .rootLayout
  | .providers => .providers
  | .customApp => .customApp
  | .zustandStore => .zustandStore
  | .reduxSlice => .reduxSlice
  | .reduxStore => .reduxStore
  | .reduxHooks => .reduxHooks
  | .queryClient => .queryClient
  | .currentUserHook => .currentUserHook
  | .localStorageHook => .localStorageHook
  | .utils => .utilities
  | .types => .types
  | .apiClient => .apiClient
  | .envExample => .envExample
  | .stylesheet => p.styling.stylesheetTemplate
  | .tailwindConfig => .tailwindConfig
  | .postcssConfig => .postcssConfig
  | .shadcnConfig => .shadcnConfig
  | .shadcnUtils => .classNames
  | .viteConfig => .viteConfig
  | .eslintConfig => if p.isNextjs then .nextEslintConfig else .eslintConfig
  | .prettierConfig => .prettierConfig
  | .prettierIgnore => .prettierIgnore
  | .lintStagedConfig => .lintStagedConfig
  | .commitlintConfig => .commitlintConfig
  | .huskyPreCommit => .preCommitHook
  | .huskyCommitMsg => .commitMsgHook
  | .vitestConfig => .vitestConfig
  | .testSetup => .testSetup
  | .buttonTest => .buttonTest

/-- What a styling is called among the features of a project. -/
def Styling.label : Styling → String
  | .tailwind => "Tailwind CSS"
  | .shadcn => "shadcn/ui"
  | .vanillaCss => "plain CSS"
  | .none => "inline styles"

/-- What a state library is called among the features of a project. -/
def StateManagement.label? : StateManagement → Option String
  | .redux => some "Redux Toolkit"
  | .zustand => some "Zustand"
  | .tanstackQuery => some "TanStack Query"
  | .none => Option.none

/-- What a project is built with, as its pages list it. -/
def Project.features (p : Project) : List String :=
  [p.framework.dialect.name, if p.isTypescript then "TypeScript" else "JavaScript",
    p.styling.label] ++ p.stateManagement.label?.toList ++
    (if p.apiClient then ["Axios"] else []) ++
    (if p.testing then ["Vitest"] else []) ++
    (if p.codeQuality then ["ESLint & Prettier"] else [])

/-- The name of the component that a kind of file exports by default. Only pages have one. -/
def FileKind.componentName (kind : FileKind) (p : Project) : String :=
  match kind with
  | .homePage => if p.isNextjs then "Home" else "HomePage"
  | .aboutPage => if p.isNextjs then "About" else "AboutPage"
  | .dashboardPage => if p.isNextjs then "Dashboard" else "DashboardPage"
  | _ => ""

/-- The plain values that a template of the given kind of file sees. -/
def FileKind.datum? (kind : FileKind) (p : Project) : Var → Option (Json String)
  | .projectName => some (.str p.name.text)
  | .typescript => some (.bool p.language.dialect.annotate)
  | .isVite => some (.bool (p.framework = .reactVite))
  | .isAppRouter => some (.bool p.isAppRouter)
  | .useClient => some (.bool p.isAppRouter)
  | .srcRoot => some (.str p.framework.dialect.srcRootFromPages)
  | .componentName => some (.str (kind.componentName p))
  | .usesTailwind => some (.bool p.usesTailwind)
  | .shadcn => some (.bool (p.styling = .shadcn))
  | .tailwindV4 => some (.bool (p.styling = .tailwind && p.tailwindVersion = some .v4))
  | .themeToggle => some (.bool p.hasThemeToggle)
  | .stylesheetPath => some (.str p.stylesheetPath)
  | .tailwindConfigPath => some (.str (FileKind.tailwindConfig.path p))
  | .redux => some (.bool (p.stateManagement = .redux))
  | .zustand => some (.bool (p.stateManagement = .zustand))
  | .tanstack => some (.bool (p.stateManagement = .tanstackQuery))
  | .protectedRoute => some (.bool p.hasProtectedRoute)
  | .providers => some (.bool p.needsProviders)
  | .apiClient => some (.bool p.apiClient)
  | .testing => some (.bool p.testing)
  | .stackFeatures => some (texts p.features)
  | _ => none

/-- The plain values that a template of the given kind of file sees, each with its name. -/
def FileKind.data (kind : FileKind) (p : Project) : List (String × Json String) :=
  Var.all.filterMap fun v => (kind.datum? p v).map fun x => (v.text, x)

/-- What the names stand for in a template of the given kind of file. -/
def FileKind.scope (kind : FileKind) (p : Project) : Scope := fun v =>
  match v with
  | .fw => some (.dialect (.framework p.framework.dialect))
  | .lang => some (.dialect (.language p.language.dialect))
  | .ts => some (.method (.typeMark p.language.dialect))
  | .style => some (.dialect (.styling p.styling.dialect))
  | .icons => some (.dialect (.icons p.icons.dialect))
  | .pm => some (.dialect (.manager p.packageManager.commands))
  | v => (kind.datum? p v).map .data

/-- The content of a kind of file in a project. -/
def FileKind.render (kind : FileKind) (p : Project) : Except TemplateFault String :=
  (kind.template p).render (kind.scope p)

end ReactScaffold
