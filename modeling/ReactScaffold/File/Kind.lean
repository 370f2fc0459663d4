import ReactScaffold.Project.Axis

/-!
# Kinds of generated files

Every file that can be generated, whatever the project.
-/

namespace ReactScaffold

/-- The kinds of files. -/
inductive FileKind where
  | button
  | navbar
  | footer
  | layout
  | themeToggle
  | protectedRoute
  | app
  | appRoutes
  | homePage
  | aboutPage
  | dashboardPage
  | rootLayout
  | providers
  | customApp
  | zustandStore
  | reduxSlice
  | reduxStore
  | reduxHooks
  | queryClient
  | currentUserHook
  | localStorageHook
  | utils
  | types
  | apiClient
  | envExample
  | stylesheet
  | tailwindConfig
  | postcssConfig
  | shadcnConfig
  | shadcnUtils
  | viteConfig
  | eslintConfig
  | prettierConfig
  | prettierIgnore
  | lintStagedConfig
  | commitlintConfig
  | huskyPreCommit
  | huskyCommitMsg
  | vitestConfig
  | testSetup
  | buttonTest
deriving DecidableEq, Repr

instance : Axis FileKind where
  name := "FileKind"
  all := [
    .button, .navbar, .footer, .layout, .themeToggle, .protectedRoute, .app, .appRoutes, .homePage,
    .aboutPage, .dashboardPage, .rootLayout, .providers, .customApp, .zustandStore, .reduxSlice,
    .reduxStore, .reduxHooks, .queryClient, .currentUserHook, .localStorageHook, .utils, .types,
    .apiClient, .envExample, .stylesheet, .tailwindConfig, .postcssConfig, .shadcnConfig,
    .shadcnUtils, .viteConfig, .eslintConfig, .prettierConfig, .prettierIgnore, .lintStagedConfig,
    .commitlintConfig, .huskyPreCommit, .huskyCommitMsg, .vitestConfig, .testSetup, .buttonTest]
  value
    | .button => "button"
    | .navbar => "navbar"
    | .footer => "footer"
    | .layout => "layout"
    | .themeToggle => "theme-toggle"
    | .protectedRoute => "protected-route"
    | .app => "app"
    | .appRoutes => "app-routes"
    | .homePage => "home-page"
    | .aboutPage => "about-page"
    | .dashboardPage => "dashboard-page"
    | .rootLayout => "root-layout"
    | .providers => "providers"
    | .customApp => "custom-app"
    | .zustandStore => "zustand-store"
    | .reduxSlice => "redux-slice"
    | .reduxStore => "redux-store"
    | .reduxHooks => "redux-hooks"
    | .queryClient => "query-client"
    | .currentUserHook => "current-user-hook"
    | .localStorageHook => "local-storage-hook"
    | .utils => "utils"
    | .types => "types"
    | .apiClient => "api-client"
    | .envExample => "env-example"
    | .stylesheet => "stylesheet"
    | .tailwindConfig => "tailwind-config"
    | .postcssConfig => "postcss-config"
    | .shadcnConfig => "shadcn-config"
    | .shadcnUtils => "shadcn-utils"
    | .viteConfig => "vite-config"
    | .eslintConfig => "eslint-config"
    | .prettierConfig => "prettier-config"
    | .prettierIgnore => "prettier-ignore"
    | .lintStagedConfig => "lint-staged-config"
    | .commitlintConfig => "commitlint-config"
    | .huskyPreCommit => "husky-pre-commit"
    | .huskyCommitMsg => "husky-commit-msg"
    | .vitestConfig => "vitest-config"
    | .testSetup => "test-setup"
    | .buttonTest => "button-test"

end ReactScaffold
