import ReactScaffold.File.Content
import ReactScaffold.Proofs.Template.Scan
import ReactScaffold.Proofs.Text.Titles

/-!
# What templates of files see, by cases

What the names of a template stand for depends on a few facts about the project. `FileKind.survey`
lists it for each kind of file, before a project is known. A reader that passes titles finds in a
file what it finds in the template: `FileKind.run_of_scan`.
-/

namespace ReactScaffold

/-- What there is for projects with a trait and for those without. -/
def byTrait {α : Type} (t : Trait) (yes no : α) : Cases α := [([.has t], yes), ([.lacks t], no)]

/-- What there is for each choice of an axis. -/
def byChoice {α β : Type} [Axis α] (fact : α → Fact) (f : α → β) : Cases β :=
  (Axis.all : List α).map fun a => ([fact a], f a)

/-- What there is for each framework. -/
def byFramework {β : Type} (f : Framework → β) : Cases β :=
  byTrait .nextjs (f .nextjs) (f .reactVite)

/-- What there is for each language. -/
def byLanguage {β : Type} (f : Language → β) : Cases β :=
  byTrait .typescript (f .typescript) (f .javascript)

namespace Cases

variable {α β : Type} {p : Project}

@[simp] theorem given_byTrait (t : Trait) (yes no : α) :
    (byTrait t yes no).given p = [if p.has t then yes else no] := by
  cases h : p.has t
  all_goals simp [byTrait, given, Project.meets, h]

theorem given_byChoice [Axis α] {fact : α → Fact} {x : α}
    (h : (Axis.all : List α).filter (fun a => p.meets (fact a)) = [x]) (f : α → β) :
    (byChoice fact f).given p = [f x] := by
  rw [byChoice, given, List.filter_map, List.map_map]
  simp only [Function.comp_def, List.all_cons, List.all_nil, Bool.and_true]
  rw [h]
  rfl

@[simp] theorem given_byFramework (f : Framework → β) :
    (byFramework f).given p = [f p.framework] := by
  cases h : p.framework
  all_goals simp [byFramework, Project.has, Project.isNextjs, h]

@[simp] theorem given_byLanguage (f : Language → β) :
    (byLanguage f).given p = [f p.language] := by
  cases h : p.language
  all_goals simp [byLanguage, Project.has, Project.isTypescript, h]

@[simp] theorem given_byStyling (f : Styling → β) :
    (byChoice Fact.styling f).given p = [f p.styling] := by
  refine given_byChoice ?_ f
  cases h : p.styling
  all_goals simp [Axis.all, Project.meets, h]

@[simp] theorem given_byIcons (f : Icons → β) : (byChoice Fact.icons f).given p = [f p.icons] := by
  refine given_byChoice ?_ f
  cases h : p.icons
  all_goals simp [Axis.all, Project.meets, h]

@[simp] theorem given_byManager (f : PackageManager → β) :
    (byChoice Fact.manager f).given p = [f p.packageManager] := by
  refine given_byChoice ?_ f
  cases h : p.packageManager
  all_goals simp [Axis.all, Project.meets, h]

end Cases

/-- A text as a value. -/
def Value.word (s : String) : Value := .data (.str s)

/-- Whether projects have the trait, as a value. -/
def Trait.values (t : Trait) : Cases Value := byTrait t (.data (.bool true)) (.data (.bool false))

/-- A feature of the projects that have a trait. -/
def Trait.feature (t : Trait) (name : String) : Cases (List (Json String)) :=
  byTrait t [.str name] []

/-- The name of the component that a kind of file exports by default, by cases. -/
def FileKind.componentNames : FileKind → Cases Value
  | .homePage => byTrait .nextjs (.word "Home") (.word "HomePage")
  | .aboutPage => byTrait .nextjs (.word "About") (.word "AboutPage")
  | .dashboardPage => byTrait .nextjs (.word "Dashboard") (.word "DashboardPage")
  | _ => .pure (.word "")

/-- The path of the stylesheet, by cases. -/
def stylesheetPaths : Cases Value := [
  ([.lacks .nextjs], .word "src/index.css"),
  ([.has .nextjs, .has .appRouter], .word "src/app/globals.css"),
  ([.has .nextjs, .lacks .appRouter], .word "src/styles/globals.css")]

/-- The path of the configuration of Tailwind, by cases. -/
def tailwindConfigPaths : Cases Value := [
  ([.has .typescript], .word ("tailwind.config." ++ "ts")),
  ([.lacks .typescript, .has .nextjs], .word ("tailwind.config." ++ "mjs")),
  ([.lacks .typescript, .lacks .nextjs], .word ("tailwind.config." ++ "js"))]

/-- The features of a project, one after the other, by cases. -/
def featureParts : List (Cases (List (Json String))) := [
  byFramework fun x => [.str x.dialect.name],
  byTrait .typescript [.str "TypeScript"] [.str "JavaScript"],
  byChoice Fact.styling fun x => [.str x.label],
  Trait.redux.feature "Redux Toolkit", Trait.zustand.feature "Zustand",
  Trait.tanstack.feature "TanStack Query", Trait.apiClient.feature "Axios",
  Trait.testing.feature "Vitest", Trait.codeQuality.feature "ESLint & Prettier"]

namespace FileKind

/-- What a name stands for in the template of a kind of file, by cases. -/
def values (kind : FileKind) : Var → Option (Cases Value)
  | .fw => some (byFramework fun x => .dialect (.framework x.dialect))
  | .lang => some (byLanguage fun x => .dialect (.language x.dialect))
  | .ts => some (byLanguage fun x => .method (.typeMark x.dialect))
  | .style => some (byChoice Fact.styling fun x => .dialect (.styling x.dialect))
  | .icons => some (byChoice Fact.icons fun x => .dialect (.icons x.dialect))
  | .pm => some (byChoice Fact.manager fun x => .dialect (.manager x.commands))
  | .typescript => some (byLanguage fun x => .data (.bool x.dialect.annotate))
  | .isVite => some (byFramework fun x => .data (.bool (x = .reactVite)))
  | .isAppRouter | .useClient => some Trait.appRouter.values
  | .usesTailwind | .themeToggle => some Trait.tailwind.values
  | .shadcn => some Trait.shadcn.values
  | .tailwindV4 => some Trait.tailwindV4.values
  | .redux => some Trait.redux.values
  | .zustand => some Trait.zustand.values
  | .tanstack => some Trait.tanstack.values
  | .protectedRoute => some Trait.protectedRoute.values
  | .providers => some Trait.providers.values
  | .apiClient => some Trait.apiClient.values
  | .testing => some Trait.testing.values
  | .srcRoot => some (byFramework fun x => .word x.dialect.srcRootFromPages)
  | .componentName => some kind.componentNames
  | .stylesheetPath => some stylesheetPaths
  | .tailwindConfigPath => some tailwindConfigPaths
  | .projectName | .stackFeatures | .iconImport | .entryName | .entryValue | .feature | .pattern
  | .token => none

/-- What is known of the names in the template of a kind of file. -/
def survey (kind : FileKind) : Survey where
  values := kind.values
  lists v := if v = .stackFeatures then some featureParts else none
  titled v := decide (v = .projectName)

end FileKind

variable {p : Project}

theorem Cases.given_traitValues (t : Trait) :
    t.values.given p = [.data (.bool (p.has t))] := by
  rw [Trait.values, given_byTrait]
  cases p.has t
  all_goals rfl

theorem Cases.given_componentNames (kind : FileKind) :
    kind.componentNames.given p = [.word (kind.componentName p)] := by
  cases kind with
  | homePage | aboutPage | dashboardPage =>
      rw [FileKind.componentNames, given_byTrait, FileKind.componentName, Project.has]
      cases p.isNextjs
      all_goals rfl
  | _ => rfl

theorem Cases.given_stylesheetPaths : stylesheetPaths.given p = [.word p.stylesheetPath] := by
  rw [Project.stylesheetPath]
  cases hnext : p.isNextjs <;> cases happ : p.isAppRouter
  all_goals simp [stylesheetPaths, given, Project.meets, Project.has, hnext, happ]

theorem Cases.given_tailwindConfigPaths :
    tailwindConfigPaths.given p = [.word (FileKind.tailwindConfig.path p)] := by
  have hpath : FileKind.tailwindConfig.path p = "tailwind.config." ++ p.configExt := rfl
  rw [hpath, Project.configExt]
  cases hlang : p.isTypescript <;> cases hfw : p.framework
  all_goals
    simp only [tailwindConfigPaths, given_cons, given_nil, List.all_cons, List.all_nil,
      Project.meets, Project.has, Project.isNextjs, hlang, hfw]
    rfl

/-- The features of a project are those of the parts that apply. -/
theorem map_features :
    p.features.map Json.str = featureParts.flatMap fun c => (c.given p).flatten := by
  have hlanguage : [Json.str (if p.isTypescript then "TypeScript" else "JavaScript")] =
      if p.has .typescript then [Json.str "TypeScript"] else [Json.str "JavaScript"] := by
    rw [Project.has]
    cases p.isTypescript
    all_goals rfl
  have hstate : p.stateManagement.label?.toList =
      (if p.has .redux then ["Redux Toolkit"] else []) ++
        (if p.has .zustand then ["Zustand"] else []) ++
          (if p.has .tanstack then ["TanStack Query"] else []) := by
    cases h : p.stateManagement
    all_goals simp [StateManagement.label?, Project.has, h]
  have hfeature (t : Trait) (name : String) : ((t.feature name).given p).flatten =
      (if p.has t then [name] else []).map Json.str := by
    rw [Trait.feature, Cases.given_byTrait]
    cases p.has t
    all_goals rfl
  simp only [Project.features, featureParts, List.flatMap_cons, List.flatMap_nil, hfeature, hstate,
    Cases.given_byFramework, Cases.given_byTrait, Cases.given_byStyling, List.flatten_cons,
    List.flatten_nil, List.append_nil, ← hlanguage, List.map_append, List.append_assoc]
  rfl

/-- In every project the names stand for what the survey gives. -/
theorem FileKind.scope_meets (kind : FileKind) (p : Project) :
    (kind.scope p).Meets kind.survey p where
  values v c h := by
    cases v
    all_goals first
      | cases h; done
      | obtain rfl := Option.some.inj h
        first
        | exact Cases.given_traitValues _
        | exact Cases.given_byFramework _
        | exact Cases.given_byLanguage _
        | exact Cases.given_byStyling _
        | exact Cases.given_byIcons _
        | exact Cases.given_byManager _
        | exact Cases.given_componentNames kind
        | exact Cases.given_stylesheetPaths
        | exact Cases.given_tailwindConfigPaths
  lists v parts h := by
    obtain ⟨rfl, hparts⟩ := Option.ite_none_right_eq_some.1 h
    obtain rfl := Option.some.inj hparts
    exact congrArg Except.ok map_features

/-! ## Reading files -/

namespace FileKind

section Scan

variable {σ ρ : Type} {R : Reader σ ρ}

theorem scope_suits (kind : FileKind) (p : Project) (hR : R.PassesTitles) :
    (kind.scope p).Suits R kind.survey p where
  toMeets := kind.scope_meets p
  titles v h x t hx ht := by
    obtain rfl := of_decide_eq_true h
    obtain rfl := Except.ok.inj hx
    obtain rfl := Except.ok.inj ht
    exact hR p.name

variable [DecidableEq σ] [DecidableEq ρ] {kind : FileKind} {c : Cases ρ} {content : String}

/-- In a file a reader finds what it finds in the template, in the cases that apply, and is left
where it starts. -/
theorem run_of_scan (hR : R.PassesTitles) (hscan : (kind.template p).scan R kind.survey = some c)
    (h : kind.render p = .ok content) : R.run R.start content.toList = (c.given p, R.start) :=
  Template.run_of_scan (kind.scope_suits p hR) hscan h

theorem read_of_scan (hR : R.PassesTitles) (hscan : (kind.template p).scan R kind.survey = some c)
    (h : kind.render p = .ok content) : R.read content.toList = c.given p :=
  congrArg Prod.fst (run_of_scan hR hscan h)

end Scan

end FileKind

end ReactScaffold
