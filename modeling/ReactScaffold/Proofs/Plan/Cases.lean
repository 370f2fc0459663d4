import ReactScaffold.Plan.Compile
import ReactScaffold.Proofs.Project.Cases

/-!
# Files and packages by cases

What a plan writes and installs is put together from what the answers ask for. `fileCases` and
`packageCases` list it with the facts that ask for it.
-/

namespace ReactScaffold

/-! ## Files -/

/-- The files that routing needs, by cases. -/
def routingCases : Cases FileKind :=
  .of [.lacks .nextjs] [.layout, .app, .appRoutes, .homePage, .aboutPage, .viteConfig] ++
    .of [.has .protectedRoute] [.protectedRoute, .dashboardPage] ++
    .of [.has .appRouter] [.rootLayout, .homePage, .aboutPage] ++
    .of [.has .appRouter, .has .providers] [.providers] ++
    .of [.has .nextjs, .lacks .appRouter] [.layout, .customApp, .homePage, .aboutPage]

/-- The files that the styling needs, by cases. -/
def stylingCases : Cases FileKind :=
  .of [] [.stylesheet] ++
    .of [.has .shadcn] [.tailwindConfig, .postcssConfig, .shadcnConfig, .shadcnUtils] ++
    .of [.styling .tailwind, .lacks .tailwindV4] [.tailwindConfig, .postcssConfig] ++
    .of [.has .tailwindV4, .has .nextjs] [.postcssConfig]

/-- The files that the state library needs, by cases. -/
def stateCases : Cases FileKind :=
  .of [.has .redux] [.reduxSlice, .reduxStore, .reduxHooks] ++
    .of [.has .zustand] [.zustandStore] ++
    .of [.has .tanstack] [.queryClient, .currentUserHook]

/-- The files that are generated, by cases. -/
def fileCases : Cases FileKind :=
  .of [] [.button, .navbar, .footer] ++ .of [.has .tailwind] [.themeToggle] ++ routingCases ++
    stylingCases ++ stateCases ++ .of [] [.utils, .localStorageHook] ++
    .of [.has .typescript] [.types] ++ .of [.has .apiClient] [.apiClient, .envExample] ++
    .of [.has .testing] [.vitestConfig, .testSetup, .buttonTest] ++
    .of [.has .codeQuality] [.eslintConfig, .prettierConfig, .prettierIgnore, .lintStagedConfig,
      .commitlintConfig, .huskyPreCommit, .huskyCommitMsg]

namespace Project

variable {p : Project} {kind : FileKind}

theorem routingFiles_eq (p : Project) : p.routingFiles = routingCases.given p := by
  simp only [routingFiles, routingCases, Cases.given_append, Cases.given_of, List.all_cons,
    List.all_nil, Bool.and_true, meets, has]
  cases hnext : p.isNextjs with
  | false =>
      have happ : p.isAppRouter = false := by rw [isAppRouter, hnext, Bool.false_and]
      simp [happ]
  | true =>
      have hroute : p.hasProtectedRoute = false := by
        have hframework : p.framework = .nextjs := of_decide_eq_true hnext
        simp [hasProtectedRoute, hframework]
      cases p.isAppRouter
      all_goals simp [hroute]

/-- The files of the styling are among the cases, even if no version of Tailwind is given. -/
theorem stylingFiles_subset (p : Project) : p.stylingFiles ⊆ stylingCases.given p := by
  simp only [stylingFiles, stylingCases, Cases.given_append, Cases.given_of, List.all_cons,
    List.all_nil, Bool.and_true, meets, has]
  cases p.styling <;> cases p.isNextjs <;> rcases p.tailwindVersion with _ | _ | _
  all_goals decide

theorem stateFiles_eq (p : Project) : p.stateFiles = stateCases.given p := by
  simp only [stateFiles, stateCases, Cases.given_append, Cases.given_of, List.all_cons,
    List.all_nil, Bool.and_true, meets, has]
  cases p.stateManagement
  all_goals simp

theorem mem_fileCases (h : kind ∈ p.files) : kind ∈ fileCases.given p := by
  simp only [files, fileCases, Cases.given_append, Cases.given_of, routingFiles_eq, stateFiles_eq,
    List.all_cons, List.all_nil, Bool.and_true, if_true, List.mem_append] at h ⊢
  have hstyling : kind ∈ p.stylingFiles → kind ∈ stylingCases.given p :=
    fun hmem => p.stylingFiles_subset hmem
  tauto

end Project

/-! ## Packages -/

/-- The packages of the styling, by cases. -/
def stylingPackages : Cases Dependency :=
  .of [.has .tailwindV4, .lacks .nextjs] (development ["tailwindcss@^4", "@tailwindcss/vite"]) ++
    .of [.has .tailwindV4, .has .nextjs]
      (development ["tailwindcss@^4", "@tailwindcss/postcss", "postcss"]) ++
    .of [.styling .tailwind, .lacks .tailwindV4] tailwindV3Packages ++
    .of [.has .shadcn] (tailwindV3Packages ++ production
      ["class-variance-authority", "clsx", "tailwind-merge", "tailwindcss-animate"]) ++
    .of [.has .shadcn, .has .typescript] (development ["@types/node"])

/-- The packages of the state library, by cases. -/
def statePackages : Cases Dependency :=
  .of [.has .redux] (production ["@reduxjs/toolkit", "react-redux"]) ++
    .of [.has .zustand] (production ["zustand"]) ++
    .of [.has .tanstack]
      (production ["@tanstack/react-query"] ++ development ["@tanstack/react-query-devtools"])

/-- The packages of the icon library, by cases. -/
def iconPackages : Cases Dependency :=
  .of [.icons .lucide] (production ["lucide-react"]) ++
    .of [.icons .reactIcons] (production ["react-icons"]) ++
    .of [.icons .iconify] (production ["@iconify/react"])

/-- The packages that tests need, by cases. -/
def testingPackages : Cases Dependency :=
  .of [.has .testing] (development ["vitest", "jsdom", "@testing-library/react",
      "@testing-library/dom", "@testing-library/jest-dom"]) ++
    .of [.has .testing, .has .nextjs] (development ["@vitejs/plugin-react"])

/-- The packages that check and format code, by cases. -/
def codeQualityPackages : Cases Dependency :=
  .of [.has .codeQuality, .has .nextjs] (development ["@eslint/eslintrc"]) ++
    .of [.has .codeQuality, .lacks .nextjs] (development ["eslint"]) ++
    .of [.has .codeQuality] (development ["prettier", "eslint-config-prettier",
      "eslint-plugin-prettier", "husky", "lint-staged", "@commitlint/cli",
      "@commitlint/config-conventional"])

/-- The packages that are installed, by cases. -/
def packageCases : Cases Dependency :=
  stylingPackages ++ statePackages ++ iconPackages ++
    .of [.lacks .nextjs] (production ["react-router-dom"]) ++
    .of [.has .apiClient] (production ["axios"]) ++ testingPackages ++ codeQualityPackages

namespace Project

variable (p : Project)

/-- The packages of a batch, if there is one. -/
def packagesOf (batch : Option Batch) : List Dependency := batch.toList.flatMap (·.packages)

theorem packagesOf_stylingBatch? : packagesOf p.stylingBatch? = stylingPackages.given p := by
  simp only [stylingBatch?, stylingPackages, Cases.given_append, Cases.given_of, List.all_cons,
    List.all_nil, Bool.and_true, meets, has]
  cases p.styling with
  | tailwind =>
      by_cases hversion : p.tailwindVersion = some .v4
      · by_cases hvite : p.framework = .reactVite
        · simp [packagesOf, isNextjs, hversion, hvite]
        · have hnext : p.framework = .nextjs := by
            cases h : p.framework
            · exact absurd h hvite
            · rfl
          simp [packagesOf, isNextjs, hversion, hnext]
      · simp [packagesOf, hversion]
  | shadcn =>
      cases p.isTypescript
      all_goals simp [packagesOf]
  | vanillaCss | none => simp [packagesOf]

theorem packagesOf_stateBatch? : packagesOf p.stateBatch? = statePackages.given p := by
  simp only [stateBatch?, statePackages, Cases.given_append, Cases.given_of, List.all_cons,
    List.all_nil, Bool.and_true, meets, has]
  cases p.stateManagement
  all_goals simp [packagesOf]

theorem packagesOf_iconBatch? : packagesOf p.iconBatch? = iconPackages.given p := by
  simp only [iconBatch?, iconPackages, Cases.given_append, Cases.given_of, List.all_cons,
    List.all_nil, Bool.and_true, meets]
  cases p.icons
  all_goals simp [packagesOf]

theorem packagesOf_testingBatch? : packagesOf p.testingBatch? = testingPackages.given p := by
  simp only [testingBatch?, testingPackages, Cases.given_append, Cases.given_of, List.all_cons,
    List.all_nil, Bool.and_true, meets, has]
  cases p.testing <;> cases p.isNextjs
  all_goals simp [packagesOf]

theorem packagesOf_codeQualityBatch? :
    packagesOf p.codeQualityBatch? = codeQualityPackages.given p := by
  simp only [codeQualityBatch?, codeQualityPackages, Cases.given_append, Cases.given_of,
    List.all_cons, List.all_nil, Bool.and_true, meets, has]
  cases p.codeQuality <;> cases p.isNextjs
  all_goals simp [packagesOf, development]

/-- The packages of a project are those of the cases that apply. -/
theorem packages_eq : p.batches.flatMap (·.packages) = packageCases.given p := by
  have hbatches (batches : List (Option Batch)) :
      (batches.filterMap id).flatMap (·.packages) = batches.flatMap packagesOf := by
    rw [List.filterMap_eq_flatMap_toList, List.flatMap_assoc]
    rfl
  have hrouting : packagesOf p.routingBatch? =
      (Cases.of [.lacks .nextjs] (production ["react-router-dom"])).given p := by
    rw [routingBatch?, Cases.given_of]
    cases h : p.framework
    all_goals simp [packagesOf, meets, has, isNextjs, h]
  have hclient : packagesOf p.apiClientBatch? =
      (Cases.of [.has .apiClient] (production ["axios"])).given p := by
    rw [apiClientBatch?, Cases.given_of]
    cases h : p.apiClient
    all_goals simp [packagesOf, meets, has, h]
  rw [batches, hbatches]
  simp only [List.flatMap_cons, List.flatMap_nil, List.append_nil, packageCases,
    Cases.given_append, packagesOf_stylingBatch?, packagesOf_stateBatch?, packagesOf_iconBatch?,
    packagesOf_testingBatch?, packagesOf_codeQualityBatch?, hrouting, hclient, List.append_assoc]

end Project

end ReactScaffold
