import ReactScaffold.Proofs.File.Survey
import ReactScaffold.Proofs.Text.Mentions

/-!
# What generated files mention

`FileKind.mentions` lists by cases the modules that a kind of file imports and the directives that
it writes for Tailwind. Every template is read once, and so the list is right for every project
whatever its name is: `FileKind.mentions_of_render`.
-/

namespace ReactScaffold

open Text

/-- A module that is imported, or a directive. -/
abbrev Mention := String ⊕ Directive

/-- The modules for the elements of the icon library. -/
def iconMentions : Cases Mention := [
  ([.icons .lucide], .inl "lucide-react"),
  ([.icons .reactIcons], .inl "react-icons/hi"),
  ([.icons .iconify], .inl "@iconify/react")]

/-- The modules of the types that a module uses. -/
def typeMentions : Cases Mention := [
  ([.has .typescript, .has .nextjs], .inl "@/types"),
  ([.has .typescript, .lacks .nextjs], .inl "../types")]

/-- The modules of the state library that provides a context, given where the store is. -/
def providerMentions (store : String) : Cases Mention := [
  ([.has .redux], .inl "react-redux"),
  ([.has .redux], .inl (store ++ "/store")),
  ([.lacks .redux, .has .tanstack], .inl "@tanstack/react-query"),
  ([.lacks .redux, .has .tanstack], .inl "@tanstack/react-query-devtools"),
  ([.lacks .redux, .has .tanstack], .inl (store ++ "/queryClient"))]

/-- What the stylesheet of each styling mentions. -/
def Styling.mentions : Styling → Cases Mention
  | .tailwind => [
    ([.has .tailwindV4], .inl "tailwindcss"),
    ([.has .tailwindV4], .inr .importTailwind),
    ([.has .tailwindV4], .inr .customVariant),
    ([.lacks .tailwindV4], .inr .tailwind),
    ([.lacks .tailwindV4], .inr .base),
    ([.lacks .tailwindV4], .inr .tailwind),
    ([.lacks .tailwindV4], .inr .components),
    ([.lacks .tailwindV4], .inr .tailwind),
    ([.lacks .tailwindV4], .inr .utilities)]
  | .shadcn => .of [] [
    .inr .tailwind, .inr .base, .inr .tailwind, .inr .components, .inr .tailwind, .inr .utilities,
    .inr .apply, .inr .apply]
  | .vanillaCss | .none => []

/-- What the configuration of ESLint mentions in Next.js projects. -/
def nextEslintMentions : Cases Mention := .of [] [
  .inl "path", .inl "url", .inl "@eslint/eslintrc", .inl "eslint-plugin-prettier/recommended"]

/-- What the configuration of ESLint mentions in Vite projects. -/
def viteEslintMentions : Cases Mention := [
  ([], .inl "@eslint/js"),
  ([], .inl "globals"),
  ([], .inl "eslint-plugin-react-hooks"),
  ([], .inl "eslint-plugin-react-refresh"),
  ([.has .typescript], .inl "typescript-eslint"),
  ([], .inl "eslint-plugin-prettier/recommended")]

/-- What a kind of file mentions. -/
def FileKind.mentions : FileKind → Cases Mention
  | .button => [([], .inl "react")]
  | .navbar => [
      ([], .inl "react"),
      ([.has .nextjs], .inl "next/link"),
      ([.lacks .nextjs], .inl "react-router-dom")] ++ iconMentions ++ [
      ([.has .tailwind], .inl "../common/ThemeToggle")]
  | .footer => []
  | .layout => [
      ([.has .nextjs, .has .typescript], .inl "react"),
      ([.lacks .nextjs], .inl "react-router-dom"),
      ([], .inl "./Navbar"),
      ([], .inl "./Footer")]
  | .themeToggle => ([], .inl "react") :: iconMentions
  | .protectedRoute => [
      ([], .inl "react-router-dom"),
      ([.has .zustand], .inl "../../store/useAuth"),
      ([.lacks .zustand], .inl "../../store/hooks")]
  | .app => providerMentions "./store" ++ [([], .inl "./routes/AppRoutes")]
  | .appRoutes => [
      ([], .inl "react-router-dom"),
      ([], .inl "../components/layout/Layout"),
      ([.has .protectedRoute], .inl "../components/common/ProtectedRoute"),
      ([], .inl "../pages/HomePage"),
      ([], .inl "../pages/AboutPage"),
      ([.has .protectedRoute], .inl "../pages/DashboardPage")]
  | .homePage => [
      ([.has .nextjs], .inl "next/link"),
      ([.lacks .nextjs], .inl "react-router-dom"),
      ([.has .nextjs], .inl "@/components/ui/Button"),
      ([.lacks .nextjs], .inl "../components/ui/Button")]
  | .aboutPage => []
  | .dashboardPage => [
      ([.has .zustand], .inl "../store/useAuth"),
      ([.lacks .zustand], .inl "../store/hooks"),
      ([.lacks .zustand], .inl "../store/authSlice"),
      ([], .inl "../components/ui/Button")]
  | .rootLayout => [
      ([.has .typescript], .inl "next"),
      ([.has .typescript], .inl "react"),
      ([], .inl "./globals.css"),
      ([], .inl "@/components/layout/Navbar"),
      ([], .inl "@/components/layout/Footer"),
      ([.has .providers], .inl "./providers")]
  | .providers => [
      ([.has .tanstack], .inl "react"),
      ([.has .typescript], .inl "react")] ++ providerMentions "@/store"
  | .customApp => [
      ([], .inl "@/styles/globals.css"),
      ([.has .typescript], .inl "next/app"),
      ([.has .tanstack], .inl "react")] ++ providerMentions "@/store" ++ [
      ([], .inl "@/components/layout/Layout")]
  | .zustandStore => ([], .inl "zustand") :: typeMentions
  | .reduxSlice => [
      ([], .inl "@reduxjs/toolkit"),
      ([.has .typescript], .inl "@reduxjs/toolkit")] ++ typeMentions
  | .reduxStore => .of [] [.inl "@reduxjs/toolkit", .inl "./authSlice"]
  | .reduxHooks => [
      ([], .inl "react-redux"),
      ([.has .typescript], .inl "react-redux"),
      ([.has .typescript], .inl "./store")]
  | .queryClient => [([], .inl "@tanstack/react-query")]
  | .currentUserHook => [
      ([], .inl "@tanstack/react-query"),
      ([.has .apiClient, .has .nextjs], .inl "@/lib/api"),
      ([.has .apiClient, .lacks .nextjs], .inl "../lib/api")] ++ typeMentions
  | .localStorageHook => [([], .inl "react")]
  | .apiClient => [([], .inl "axios")]
  | .stylesheet =>
    (Axis.all : List Styling).flatMap fun styling => styling.mentions.under [.styling styling]
  | .tailwindConfig => [
      ([.has .typescript], .inl "tailwindcss"),
      ([.has .shadcn], .inl "tailwindcss-animate"),
      ([.lacks .typescript], .inl "tailwindcss")]
  | .shadcnUtils => [
      ([], .inl "clsx"),
      ([.has .typescript], .inl "clsx"),
      ([], .inl "tailwind-merge")]
  | .viteConfig => [
      ([.has .shadcn], .inl "node:url"),
      ([], .inl "vite"),
      ([], .inl "@vitejs/plugin-react"),
      ([.has .tailwindV4], .inr .tailwind),
      ([.has .tailwindV4], .inl "@tailwindcss/vite")]
  | .postcssConfig => [([.has .tailwindV4], .inr .tailwind)]
  | .eslintConfig =>
    nextEslintMentions.under [.has .nextjs] ++ viteEslintMentions.under [.lacks .nextjs]
  | .vitestConfig => [
      ([.has .nextjs], .inl "node:url"),
      ([], .inl "vitest/config"),
      ([], .inl "@vitejs/plugin-react")]
  | .testSetup => [([], .inl "@testing-library/jest-dom/vitest")]
  | .buttonTest => .of [] [
      .inl "vitest", .inl "@testing-library/react", .inl "../components/ui/Button"]
  | .utils | .types | .envExample | .shadcnConfig | .prettierConfig | .prettierIgnore
  | .lintStagedConfig | .commitlintConfig | .huskyPreCommit | .huskyCommitMsg => []

/-! ## Reading the templates -/

/-- The template of the kind of file mentions what is listed for the kind, as is found by reading it
for some project. -/
def FileKind.Listed (kind : FileKind) (p : Project) : Prop :=
  (kind.template p).scan mentionReader kind.survey = some kind.mentions

instance (kind : FileKind) (p : Project) : Decidable (kind.Listed p) :=
  inferInstanceAs (Decidable (_ = _))

/-- A project, to take templates from that are the same in all projects. -/
def someProject : Project := { name := ⟨"app", rfl⟩ }

/-- Kinds of files whose templates have been read. -/
abbrev ListedKinds := { kinds : List FileKind // ∀ kind ∈ kinds, kind.Listed someProject }

/-- The elements around a page. -/
def listedElements : ListedKinds where
  val := [.button, .navbar, .footer, .layout, .themeToggle, .protectedRoute]
  property := by decide +kernel

/-- The pages and what leads to them. -/
def listedPages : ListedKinds where
  val := [.app, .appRoutes, .rootLayout, .providers, .customApp, .homePage, .aboutPage,
    .dashboardPage]
  property := by decide +kernel

/-- The modules that elements use. -/
def listedModules : ListedKinds where
  val := [.zustandStore, .reduxSlice, .reduxStore, .reduxHooks, .queryClient, .currentUserHook,
    .localStorageHook, .utils, .types, .apiClient, .envExample, .shadcnUtils, .testSetup,
    .buttonTest]
  property := by decide +kernel

/-- The configurations of tools. -/
def listedConfigs : ListedKinds where
  val := [.tailwindConfig, .postcssConfig, .shadcnConfig, .viteConfig, .vitestConfig,
    .prettierConfig, .prettierIgnore, .lintStagedConfig, .commitlintConfig, .huskyPreCommit,
    .huskyCommitMsg]
  property := by decide +kernel

theorem Styling.scan_stylesheetTemplate (styling : Styling) :
    styling.stylesheetTemplate.scan mentionReader FileKind.stylesheet.survey =
      some styling.mentions := by
  cases styling
  all_goals decide +kernel

theorem scan_nextEslintConfig :
    Template.nextEslintConfig.scan mentionReader FileKind.eslintConfig.survey =
      some nextEslintMentions := by
  decide +kernel

theorem scan_eslintConfig :
    Template.eslintConfig.scan mentionReader FileKind.eslintConfig.survey =
      some viteEslintMentions := by
  decide +kernel

variable {p : Project}

theorem Cases.given_stylesheetMentions :
    FileKind.stylesheet.mentions.given p = p.styling.mentions.given p := by
  rw [FileKind.mentions, given_flatMap]
  simp only [given_under, List.all_cons, List.all_nil, Bool.and_true, Project.meets,
    decide_eq_true_eq]
  cases p.styling
  all_goals simp [Axis.all]

theorem Cases.given_eslintMentions :
    FileKind.eslintConfig.mentions.given p =
      (if p.isNextjs then nextEslintMentions else viteEslintMentions).given p := by
  rw [FileKind.mentions, given_append, given_under, given_under]
  cases h : p.isNextjs
  all_goals simp [Project.meets, Project.has, h]

theorem FileKind.Listed.exists_scan {kind : FileKind} (h : kind.Listed someProject)
    (ht : kind.template p = kind.template someProject) :
    ∃ c, (kind.template p).scan mentionReader kind.survey = some c ∧
      c.given p = kind.mentions.given p := by
  rw [ht]
  exact ⟨kind.mentions, h, rfl⟩

/-- The template of every kind of file mentions what is listed for the kind. -/
theorem FileKind.exists_scan (kind : FileKind) (p : Project) :
    ∃ c, (kind.template p).scan mentionReader kind.survey = some c ∧
      c.given p = kind.mentions.given p := by
  cases kind with
  | stylesheet =>
      exact ⟨_, p.styling.scan_stylesheetTemplate, Cases.given_stylesheetMentions.symm⟩
  | eslintConfig =>
      refine ⟨_, ?_, Cases.given_eslintMentions.symm⟩
      rw [template]
      split_ifs
      · exact scan_nextEslintConfig
      · exact scan_eslintConfig
  | button | navbar | footer | layout | themeToggle | protectedRoute =>
      exact Listed.exists_scan (listedElements.2 _ (by decide)) rfl
  | app | appRoutes | rootLayout | providers | customApp | homePage | aboutPage | dashboardPage =>
      exact Listed.exists_scan (listedPages.2 _ (by decide)) rfl
  | zustandStore | reduxSlice | reduxStore | reduxHooks | queryClient | currentUserHook
  | localStorageHook | utils | types | apiClient | envExample | shadcnUtils | testSetup
  | buttonTest => exact Listed.exists_scan (listedModules.2 _ (by decide)) rfl
  | tailwindConfig | postcssConfig | shadcnConfig | viteConfig | vitestConfig | prettierConfig
  | prettierIgnore | lintStagedConfig | commitlintConfig | huskyPreCommit | huskyCommitMsg =>
      exact Listed.exists_scan (listedConfigs.2 _ (by decide)) rfl

/-! ## What files mention -/

/-- A file of a project mentions what is listed for its kind in the cases that apply. -/
theorem FileKind.read_of_render {kind : FileKind} {p : Project} {content : String}
    (h : kind.render p = .ok content) :
    mentionReader.read content.toList = kind.mentions.given p := by
  obtain ⟨c, hscan, hgiven⟩ := kind.exists_scan p
  rw [read_of_scan passesTitles_mentionReader hscan h, hgiven]

end ReactScaffold
