import ReactScaffold.File.Content
import ReactScaffold.Plan.Batches

/-!
# From a project to its plan

A plan ensures the directories, installs the batches, writes the files and merges the scripts, in
this order. A project that breaks a gate has no plan.
-/

namespace ReactScaffold

namespace Project

/-- The directories that every project has. -/
def baseDirectories : List String :=
  ["src/components/ui", "src/components/layout", "src/components/common", "src/hooks", "src/lib",
    "src/utils"]

/-- The directories that routing needs. -/
def routingDirectories (p : Project) : List String :=
  if !p.isNextjs then ["src/routes", "src/pages"]
  else if p.isAppRouter then ["src/app", "src/app/about"]
  else ["src/pages", "src/styles"]

/-- The directories of a project in the order of creation. -/
def directories (p : Project) : List String :=
  baseDirectories ++ p.routingDirectories ++
    (if p.stateManagement ≠ .none then ["src/store"] else []) ++
    (if p.isTypescript then ["src/types"] else []) ++
    (if p.testing then ["src/__tests__", "src/test"] else []) ++
    (if p.codeQuality then [".husky"] else [])

/-- The files that routing needs. -/
def routingFiles (p : Project) : List FileKind :=
  if !p.isNextjs then
    [.layout, .app, .appRoutes, .homePage, .aboutPage, .viteConfig] ++
      (if p.hasProtectedRoute then [.protectedRoute, .dashboardPage] else [])
  else if p.isAppRouter then
    [.rootLayout, .homePage, .aboutPage] ++ (if p.needsProviders then [.providers] else [])
  else [.layout, .customApp, .homePage, .aboutPage]

/-- The files that the styling needs. The fourth version of Tailwind is loaded by PostCSS in
Next.js projects and by a plugin in Vite projects. -/
def stylingFiles (p : Project) : List FileKind :=
  .stylesheet ::
    match p.styling with
    | .shadcn => [.tailwindConfig, .postcssConfig, .shadcnConfig, .shadcnUtils]
    | .tailwind =>
      if p.tailwindVersion = some .v3 then [.tailwindConfig, .postcssConfig]
      else if p.isNextjs then [.postcssConfig]
      else []
    | .vanillaCss | .none => []

/-- The files that the state library needs. -/
def stateFiles (p : Project) : List FileKind :=
  match p.stateManagement with
  | .redux => [.reduxSlice, .reduxStore, .reduxHooks]
  | .zustand => [.zustandStore]
  | .tanstackQuery => [.queryClient, .currentUserHook]
  | .none => []

/-- The files of a project in the order of writing. -/
def files (p : Project) : List FileKind :=
  [.button, .navbar, .footer] ++ (if p.hasThemeToggle then [.themeToggle] else []) ++
    p.routingFiles ++ p.stylingFiles ++ p.stateFiles ++ [.utils, .localStorageHook] ++
    (if p.isTypescript then [.types] else []) ++
    (if p.apiClient then [.apiClient, .envExample] else []) ++
    (if p.testing then [.vitestConfig, .testSetup, .buttonTest] else []) ++
    (if p.codeQuality then
      [.eslintConfig, .prettierConfig, .prettierIgnore, .lintStagedConfig, .commitlintConfig,
        .huskyPreCommit, .huskyCommitMsg]
    else [])

/-- The scripts that the manifest of a project gets. -/
def scripts (p : Project) : OrderedMap String String :=
  let typeCheck := if p.isTypescript then [("type-check", "tsc --noEmit")] else []
  let quality :=
    if p.codeQuality then
      [("lint", "eslint ."), ("lint:fix", "eslint . --fix"), ("format", "prettier --write ."),
        ("format:check", "prettier --check ."), ("prepare", "husky")]
    else []
  let tests := if p.testing then [("test", "vitest run"), ("test:watch", "vitest")] else []
  OrderedMap.insertAll p.framework.dialect.scripts (typeCheck ++ quality ++ tests)

end Project

/-- Why a project has no plan. -/
inductive CompileFault where
  | gating (f : Project.GatingFault)
  | template (f : TemplateFault)

/-- The steps that write the files of a project. -/
def Project.writeSteps (p : Project) : Except TemplateFault (List Step) :=
  p.files.mapM fun kind => do return .writeFile (kind.path p) (← kind.render p)

/-- The plan of a project. -/
def Plan.compile (p : Project) : Except CompileFault Plan :=
  match p.gatingFault? with
  | some f => .error (.gating f)
  | none => do
    let writes ← p.writeSteps.mapError .template
    return {
      steps := p.directories.map .ensureDirectory ++
        p.batches.map (fun b => .installDependencies p.packageManager b.packages b.description) ++
        writes ++ [.mergeManifestScripts p.scripts "package.json"] }

end ReactScaffold
