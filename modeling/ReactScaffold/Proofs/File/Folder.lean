import ReactScaffold.Plan.Compile
import ReactScaffold.Proofs.Host.Directories

/-!
# The folders of a project

Every generated file goes into one of a few folders. Its path is spelled by the names of the folder
and its own name, which depend on the router and the language alone. No two kinds of files go to the
same place.
-/

namespace ReactScaffold

/-- The folders that a project may have. -/
inductive Folder where
  | root | src | components | ui | layout | common | hooks | lib | utils | routes | pages | app
  | about | dashboard | styles | store | types | tests | test | husky
deriving DecidableEq, Repr

namespace Folder

/-- All folders. -/
def all : List Folder := [
  root, src, components, ui, layout, common, hooks, lib, utils, routes, pages, app, about,
  dashboard, styles, store, types, tests, test, husky
]

theorem mem_all (f : Folder) : f ∈ all := by
  cases f
  all_goals decide

/-- The path of a folder. -/
def path : Folder → String
  | root => ""
  | src => "src"
  | components => "src/components"
  | ui => "src/components/ui"
  | layout => "src/components/layout"
  | common => "src/components/common"
  | hooks => "src/hooks"
  | lib => "src/lib"
  | utils => "src/utils"
  | routes => "src/routes"
  | pages => "src/pages"
  | app => "src/app"
  | about => "src/app/about"
  | dashboard => "src/app/dashboard"
  | styles => "src/styles"
  | store => "src/store"
  | types => "src/types"
  | tests => "src/__tests__"
  | test => "src/test"
  | husky => ".husky"

/-- The names that lead to a folder. -/
def names : Folder → List String
  | root => []
  | src => ["src"]
  | components => ["src", "components"]
  | ui => ["src", "components", "ui"]
  | layout => ["src", "components", "layout"]
  | common => ["src", "components", "common"]
  | hooks => ["src", "hooks"]
  | lib => ["src", "lib"]
  | utils => ["src", "utils"]
  | routes => ["src", "routes"]
  | pages => ["src", "pages"]
  | app => ["src", "app"]
  | about => ["src", "app", "about"]
  | dashboard => ["src", "app", "dashboard"]
  | styles => ["src", "styles"]
  | store => ["src", "store"]
  | types => ["src", "types"]
  | tests => ["src", "__tests__"]
  | test => ["src", "test"]
  | husky => [".husky"]

/-- The folder above a folder, and the name of the folder in it. -/
def entry : Folder → Folder × String
  | root => (root, "")
  | src => (root, "src")
  | components => (src, "components")
  | ui => (components, "ui")
  | layout => (components, "layout")
  | common => (components, "common")
  | hooks => (src, "hooks")
  | lib => (src, "lib")
  | utils => (src, "utils")
  | routes => (src, "routes")
  | pages => (src, "pages")
  | app => (src, "app")
  | about => (app, "about")
  | dashboard => (app, "dashboard")
  | styles => (src, "styles")
  | store => (src, "store")
  | types => (src, "types")
  | tests => (src, "__tests__")
  | test => (src, "test")
  | husky => (root, ".husky")

/-- The folders on the way to a folder, the last being the folder itself. -/
def chain : Folder → List Folder
  | root => []
  | src => [src]
  | components => [src, components]
  | ui => [src, components, ui]
  | layout => [src, components, layout]
  | common => [src, components, common]
  | hooks => [src, hooks]
  | lib => [src, lib]
  | utils => [src, utils]
  | routes => [src, routes]
  | pages => [src, pages]
  | app => [src, app]
  | about => [src, app, about]
  | dashboard => [src, app, dashboard]
  | styles => [src, styles]
  | store => [src, store]
  | types => [src, types]
  | tests => [src, tests]
  | test => [src, test]
  | husky => [husky]

theorem spells_path {f : Folder} (h : f ≠ root) : Path.Spells 60 f.path f.names := by
  cases f with
  | root => exact absurd rfl h
  | _ => exact Path.spells_ofList _ (by decide) (by decide)

theorem root_notMem_chain (f : Folder) : root ∉ f.chain := by
  cases f
  all_goals decide

/-- What is on the way to a folder on the way is on the way. -/
theorem mem_chain_trans {f g h : Folder} (hf : f ∈ g.chain) (hh : h ∈ f.chain) : h ∈ g.chain := by
  have hall : ∀ g ∈ all, ∀ f ∈ g.chain, ∀ h ∈ f.chain, h ∈ g.chain := by decide +kernel
  exact hall g g.mem_all f hf h hh

theorem names_injective : Function.Injective names := by
  have hnodup : (all.map names).Nodup := by decide +kernel
  intro f g h
  exact List.inj_on_of_nodup_map hnodup f.mem_all g.mem_all h

/-- The names that lead to a name in a folder. -/
def leadTo (e : Folder × String) : List String := e.1.names ++ [e.2]

theorem leadTo_injective : Function.Injective leadTo := by
  rintro ⟨f, name⟩ ⟨g, other⟩ h
  obtain ⟨hnames, hlast⟩ := List.append_inj' h rfl
  obtain rfl := names_injective hnames
  obtain rfl := List.singleton_inj.1 hlast
  rfl

theorem leadTo_entry {f : Folder} (h : f ≠ root) : leadTo f.entry = f.names := by
  cases f with
  | root => exact absurd rfl h
  | _ => rfl

theorem placesAlong_names (f : Folder) : placesAlong [] f.names = f.chain.map names := by
  cases f
  all_goals rfl

end Folder

/-- What the paths of files depend on. -/
structure Flavor where
  nextjs : Bool
  appRouter : Bool
  typescript : Bool
deriving DecidableEq, Repr

/-- What the paths of the files of a project depend on. -/
def Project.flavor (p : Project) : Flavor := ⟨p.isNextjs, p.isAppRouter, p.isTypescript⟩

namespace Flavor

/-- The extension of files that contain elements. -/
def componentExt (f : Flavor) : String := if f.typescript then "tsx" else "jsx"

/-- The extension of modules without elements. -/
def moduleExt (f : Flavor) : String := if f.typescript then "ts" else "js"

/-- The extension of configuration files that are modules. -/
def esmExt (f : Flavor) : String := if f.nextjs then "mjs" else "js"

/-- The extension of configuration files that may carry types. -/
def configExt (f : Flavor) : String := if f.typescript then "ts" else f.esmExt

end Flavor

/-- The folder of a page with the given folder in a project with an `app` directory. -/
def pageFolder (f : Flavor) (routed : Folder) : Folder :=
  if f.nextjs && f.appRouter then routed else .pages

/-- The name of a page's file, given its names in a Vite project and without an `app` directory. -/
def pageName (f : Flavor) (viteName routeName : String) : String :=
  if !f.nextjs then viteName ++ "." ++ f.componentExt
  else if f.appRouter then "page." ++ f.componentExt
  else routeName ++ "." ++ f.componentExt

/-- The folder that a kind of file goes into. -/
def FileKind.folder (kind : FileKind) (f : Flavor) : Folder :=
  match kind with
  | .button => .ui
  | .navbar | .footer | .layout => .layout
  | .themeToggle | .protectedRoute => .common
  | .app => .src
  | .appRoutes => .routes
  | .homePage => pageFolder f .app
  | .aboutPage => pageFolder f .about
  | .dashboardPage => pageFolder f .dashboard
  | .rootLayout | .providers => .app
  | .customApp => .pages
  | .zustandStore | .reduxSlice | .reduxStore | .reduxHooks | .queryClient => .store
  | .currentUserHook | .localStorageHook => .hooks
  | .utils => .utils
  | .types => .types
  | .apiClient | .shadcnUtils => .lib
  | .stylesheet => if !f.nextjs then .src else if f.appRouter then .app else .styles
  | .testSetup => .test
  | .buttonTest => .tests
  | .huskyPreCommit | .huskyCommitMsg => .husky
  | .envExample | .tailwindConfig | .postcssConfig | .shadcnConfig | .viteConfig | .eslintConfig
  | .prettierConfig | .prettierIgnore | .lintStagedConfig | .commitlintConfig | .vitestConfig =>
    .root

/-- The name of a kind of file in its folder. -/
def FileKind.fileName (kind : FileKind) (f : Flavor) : String :=
  match kind with
  | .button => "Button" ++ "." ++ f.componentExt
  | .navbar => "Navbar" ++ "." ++ f.componentExt
  | .footer => "Footer" ++ "." ++ f.componentExt
  | .layout => "Layout" ++ "." ++ f.componentExt
  | .themeToggle => "ThemeToggle" ++ "." ++ f.componentExt
  | .protectedRoute => "ProtectedRoute" ++ "." ++ f.componentExt
  | .app => "App" ++ "." ++ f.componentExt
  | .appRoutes => "AppRoutes" ++ "." ++ f.componentExt
  | .homePage => pageName f "HomePage" "index"
  | .aboutPage => pageName f "AboutPage" "about"
  | .dashboardPage => pageName f "DashboardPage" "dashboard"
  | .rootLayout => "layout" ++ "." ++ f.componentExt
  | .providers => "providers" ++ "." ++ f.componentExt
  | .customApp => "_app" ++ "." ++ f.componentExt
  | .zustandStore => "useAuth" ++ "." ++ f.moduleExt
  | .reduxSlice => "authSlice" ++ "." ++ f.moduleExt
  | .reduxStore => "store" ++ "." ++ f.moduleExt
  | .reduxHooks => "hooks" ++ "." ++ f.moduleExt
  | .queryClient => "queryClient" ++ "." ++ f.moduleExt
  | .currentUserHook => "useCurrentUser" ++ "." ++ f.moduleExt
  | .localStorageHook => "useLocalStorage" ++ "." ++ f.moduleExt
  | .utils => "index" ++ "." ++ f.moduleExt
  | .types => "index.ts"
  | .apiClient => "api" ++ "." ++ f.moduleExt
  | .envExample => ".env.example"
  | .stylesheet => if f.nextjs then "globals.css" else "index.css"
  | .tailwindConfig => "tailwind.config." ++ f.configExt
  | .postcssConfig => "postcss.config" ++ "." ++ f.esmExt
  | .shadcnConfig => "components.json"
  | .shadcnUtils => "utils" ++ "." ++ f.moduleExt
  | .viteConfig => "vite.config" ++ "." ++ f.moduleExt
  | .eslintConfig => "eslint.config" ++ "." ++ f.esmExt
  | .prettierConfig => ".prettierrc"
  | .prettierIgnore => ".prettierignore"
  | .lintStagedConfig => ".lintstagedrc.json"
  | .commitlintConfig => "commitlint.config" ++ "." ++ f.esmExt
  | .huskyPreCommit => "pre-commit"
  | .huskyCommitMsg => "commit-msg"
  | .vitestConfig => "vitest.config." ++ f.configExt
  | .testSetup => "setup" ++ "." ++ f.moduleExt
  | .buttonTest => "Button.test" ++ "." ++ f.componentExt

namespace Project

variable (p : Project)

theorem esmConfigExt_eq : p.framework.dialect.esmConfigExt = p.flavor.esmExt := by
  cases h : p.framework with
  | reactVite => simp [flavor, isNextjs, h, Flavor.esmExt, Framework.dialect]
  | nextjs => simp [flavor, isNextjs, h, Flavor.esmExt, Framework.dialect]

theorem configExt_eq : p.configExt = p.flavor.configExt := by
  rw [configExt, esmConfigExt_eq]
  rfl

end Project

/-- The extensions of modules and of files that contain elements. -/
def extensions : List String := ["tsx", "jsx", "ts", "js", "mjs"]

namespace Flavor

variable (f : Flavor)

theorem componentExt_mem : f.componentExt ∈ extensions := by
  unfold componentExt
  split_ifs
  · decide
  · decide

theorem moduleExt_mem : f.moduleExt ∈ extensions := by
  unfold moduleExt
  split_ifs
  · decide
  · decide

theorem esmExt_mem : f.esmExt ∈ extensions := by
  unfold esmExt
  split_ifs
  · decide
  · decide

theorem configExt_mem : f.configExt ∈ extensions := by
  unfold configExt
  split_ifs
  · decide
  · exact f.esmExt_mem

end Flavor

namespace Path

variable {stem ext : String} {init : List String} {last : String}

theorem spells_append {limit : Nat} (cs ds : List Char)
    (hplain : (splitSlashes (cs ++ ds)).all isPlainName = true)
    (hshort : (cs ++ ds).length ≤ limit) :
    Spells limit (String.ofList cs ++ String.ofList ds)
      ((splitSlashes (cs ++ ds)).map String.ofList) := by
  rw [← String.ofList_append]
  exact spells_ofList _ hplain hshort

/-- An extension makes the last name longer. -/
theorem Spells.extend_ext (h : Spells 55 stem (init ++ [last])) (hext : ext ∈ extensions) :
    Spells 60 (stem ++ ext) (init ++ [last ++ ext]) := by
  have hplain : ext.toList.all isPlainChar = true ∧ ext.length ≤ 4 := by
    revert ext
    decide
  exact (h.extend hplain.1).mono (by omega)

theorem Spells.extend_dot_ext (h : Spells 50 stem (init ++ [last])) (hext : ext ∈ extensions) :
    Spells 60 (stem ++ "." ++ ext) (init ++ [last ++ "." ++ ext]) :=
  ((h.extend (by decide)).mono (by decide)).extend_ext hext

end Path

namespace Project

variable (p : Project)

theorem spells_stylesheetPath :
    Path.Spells 60 p.stylesheetPath ((FileKind.stylesheet.folder p.flavor).names ++
      [FileKind.stylesheet.fileName p.flavor]) := by
  unfold stylesheetPath FileKind.folder FileKind.fileName flavor
  cases p.isNextjs with
  | false => exact Path.spells_ofList _ (by decide) (by decide)
  | true =>
      cases p.isAppRouter with
      | true => exact Path.spells_ofList _ (by decide) (by decide)
      | false => exact Path.spells_ofList _ (by decide) (by decide)

/-- The path of a page, given how its names without extension are spelled in each kind of
project. -/
theorem spells_pagePath {viteName route routeDirectory routeName : String} {routed : Folder}
    (hvite : Path.Spells 50 ("src/pages/" ++ viteName) (Folder.pages.names ++ [viteName]))
    (hdirectory : (if route = "" then "src/app/" else "src/app/" ++ route ++ "/") = routeDirectory)
    (happ : Path.Spells 55 (routeDirectory ++ "page.") (routed.names ++ ["page."]))
    (hname : (if route = "" then "index" else route) = routeName)
    (hpages : Path.Spells 50 ("src/pages/" ++ routeName) (Folder.pages.names ++ [routeName])) :
    Path.Spells 60 (p.pagePath viteName route)
      ((pageFolder p.flavor routed).names ++ [pageName p.flavor viteName routeName]) := by
  subst hdirectory hname
  have hext : p.componentExt ∈ extensions := p.flavor.componentExt_mem
  rw [pagePath, pageFolder, pageName, flavor]
  cases p.isNextjs with
  | false => exact hvite.extend_dot_ext hext
  | true =>
      cases p.isAppRouter with
      | true => exact happ.extend_ext hext
      | false => exact hpages.extend_dot_ext hext

end Project

/-- The folder and the name of a kind of file. -/
def FileKind.entry (kind : FileKind) (f : Flavor) : Folder × String :=
  (kind.folder f, kind.fileName f)

/-- The path of a kind of file is spelled by the names of its folder and its own name. -/
theorem FileKind.spells_path (kind : FileKind) (p : Project) :
    Path.Spells 60 (kind.path p) (Folder.leadTo (kind.entry p.flavor)) := by
  cases kind with
  | button | navbar | footer | layout | themeToggle | protectedRoute | app | appRoutes | rootLayout
  | providers | customApp | buttonTest =>
      exact (Path.spells_ofList _ (by decide) (by decide)).extend_dot_ext
        p.flavor.componentExt_mem
  | zustandStore | reduxSlice | reduxStore | reduxHooks | queryClient | currentUserHook
  | localStorageHook | utils | apiClient | shadcnUtils | viteConfig | testSetup =>
      exact (Path.spells_ofList _ (by decide) (by decide)).extend_dot_ext p.flavor.moduleExt_mem
  | postcssConfig | eslintConfig | commitlintConfig =>
      show Path.Spells 60 (_ ++ "." ++ p.framework.dialect.esmConfigExt) _
      rw [p.esmConfigExt_eq]
      exact (Path.spells_ofList _ (by decide) (by decide)).extend_dot_ext p.flavor.esmExt_mem
  | tailwindConfig | vitestConfig =>
      show Path.Spells 60 (_ ++ p.configExt) _
      rw [p.configExt_eq]
      exact (Path.spells_ofList _ (by decide) (by decide)).extend_ext p.flavor.configExt_mem
  | types | envExample | shadcnConfig | prettierConfig | prettierIgnore | lintStagedConfig
  | huskyPreCommit | huskyCommitMsg => exact Path.spells_ofList _ (by decide) (by decide)
  | stylesheet => exact p.spells_stylesheetPath
  | homePage =>
      exact p.spells_pagePath (Path.spells_append _ _ (by decide) (by decide)) (if_pos rfl)
        (Path.spells_append _ _ (by decide) (by decide)) (if_pos rfl)
        (Path.spells_append _ _ (by decide) (by decide))
  | aboutPage =>
      have hdirectory : "src/app/" ++ "about" ++ "/" = "src/app/about/" := by decide
      exact p.spells_pagePath (Path.spells_append _ _ (by decide) (by decide))
        ((if_neg (by decide)).trans hdirectory)
        (Path.spells_append _ _ (by decide) (by decide)) (if_neg (by decide))
        (Path.spells_append _ _ (by decide) (by decide))
  | dashboardPage =>
      have hdirectory : "src/app/" ++ "dashboard" ++ "/" = "src/app/dashboard/" := by decide
      exact p.spells_pagePath (Path.spells_append _ _ (by decide) (by decide))
        ((if_neg (by decide)).trans hdirectory)
        (Path.spells_append _ _ (by decide) (by decide)) (if_neg (by decide))
        (Path.spells_append _ _ (by decide) (by decide))

end ReactScaffold
