import ReactScaffold.File.Kind
import ReactScaffold.Dialect.Framework
import ReactScaffold.Project.Basic

/-!
# Paths of generated files

Where each kind of file goes in a project, relative to the project's directory.
-/

namespace ReactScaffold

namespace Project

/-- The path of the stylesheet. -/
def stylesheetPath (p : Project) : String :=
  if !p.isNextjs then "src/index.css"
  else if p.isAppRouter then "src/app/globals.css"
  else "src/styles/globals.css"

/-- The extension of configuration files that may carry types. -/
def configExt (p : Project) : String :=
  if p.isTypescript then "ts" else p.framework.dialect.esmConfigExt

/-- The path of a page, given its file name in a Vite project and its route. -/
def pagePath (p : Project) (viteName route : String) : String :=
  let ext := p.componentExt
  if !p.isNextjs then "src/pages/" ++ viteName ++ "." ++ ext
  else if p.isAppRouter then
    (if route = "" then "src/app/" else "src/app/" ++ route ++ "/") ++ "page." ++ ext
  else "src/pages/" ++ (if route = "" then "index" else route) ++ "." ++ ext

end Project

/-- The path of a kind of file in a project. -/
def FileKind.path (kind : FileKind) (p : Project) : String :=
  let component (stem : String) : String := stem ++ "." ++ p.componentExt
  let module (stem : String) : String := stem ++ "." ++ p.moduleExt
  let esm (stem : String) : String := stem ++ "." ++ p.framework.dialect.esmConfigExt
  match kind with
  | .button => component "src/components/ui/Button"
  | .navbar => component "src/components/layout/Navbar"
  | .footer => component "src/components/layout/Footer"
  | .layout => component "src/components/layout/Layout"
  | .themeToggle => component "src/components/common/ThemeToggle"
  | .protectedRoute => component "src/components/common/ProtectedRoute"
  | .app => component "src/App"
  | .appRoutes => component "src/routes/AppRoutes"
  | .homePage => p.pagePath "HomePage" ""
  | .aboutPage => p.pagePath "AboutPage" "about"
  | .dashboardPage => p.pagePath "DashboardPage" "dashboard"
  | .rootLayout => component "src/app/layout"
  | .providers => component "src/app/providers"
  | .customApp => component "src/pages/_app"
  | .zustandStore => module "src/store/useAuth"
  | .reduxSlice => module "src/store/authSlice"
  | .reduxStore => module "src/store/store"
  | .reduxHooks => module "src/store/hooks"
  | .queryClient => module "src/store/queryClient"
  | .currentUserHook => module "src/hooks/useCurrentUser"
  | .localStorageHook => module "src/hooks/useLocalStorage"
  | .utils => module "src/utils/index"
  | .types => "src/types/index.ts"
  | .apiClient => module "src/lib/api"
  | .envExample => ".env.example"
  | .stylesheet => p.stylesheetPath
  | .tailwindConfig => "tailwind.config." ++ p.configExt
  | .postcssConfig => esm "postcss.config"
  | .shadcnConfig => "components.json"
  | .shadcnUtils => module "src/lib/utils"
  | .viteConfig => module "vite.config"
  | .eslintConfig => esm "eslint.config"
  | .prettierConfig => ".prettierrc"
  | .prettierIgnore => ".prettierignore"
  | .lintStagedConfig => ".lintstagedrc.json"
  | .commitlintConfig => esm "commitlint.config"
  | .huskyPreCommit => ".husky/pre-commit"
  | .huskyCommitMsg => ".husky/commit-msg"
  | .vitestConfig => "vitest.config." ++ p.configExt
  | .testSetup => module "src/test/setup"
  | .buttonTest => component "src/__tests__/Button.test"

end ReactScaffold
