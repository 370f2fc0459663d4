import ReactScaffold.Proofs.Plan.Imports

/-!
# Imported packages are installed

A module that is not local belongs to a package. The package is installed by the plan, or it is part
of the runtime or of what the framework starts a project with. The plan installs no package twice.
-/

namespace ReactScaffold

open Text

/-! ## Packages -/

/-- The package that a module belongs to: the first part of its name, or the first two if the
package is scoped. -/
def packageOf (m : List Char) : List Char :=
  match splitSlashes m with
  | first :: second :: _ => if first.head? = some '@' then first ++ '/' :: second else first
  | parts => parts.headD []

/-- The name of a package without the version. -/
def baseName : List Char → List Char
  | [] => []
  | c :: cs => c :: cs.takeWhile fun d => d ≠ '@'

example : packageOf "react-icons/hi".toList = "react-icons".toList ∧
    packageOf "@testing-library/jest-dom/vitest".toList = "@testing-library/jest-dom".toList ∧
    baseName "tailwindcss@^3".toList = "tailwindcss".toList ∧
    baseName "@types/node".toList = "@types/node".toList := by
  decide +kernel

/-- The modules of the runtime. -/
def runtimeModules : List String := ["node:url", "path", "url"]

/-- The packages that the framework starts a project with. -/
def Project.bootstrapPackages (p : Project) : List String :=
  if p.isNextjs then ["react", "next"]
  else ["react", "vite", "@vitejs/plugin-react", "@eslint/js", "globals",
    "eslint-plugin-react-hooks", "eslint-plugin-react-refresh"] ++
      if p.isTypescript then ["typescript-eslint"] else []

/-- The module is one that a file can import without the plan writing it. -/
def Plan.Provides (plan : Plan) (p : Project) (m : List Char) : Prop :=
  packageOf m ∈ plan.packages.map (fun name => baseName name.toList) ∨
    packageOf m ∈ runtimeModules.map String.toList ∨
    packageOf m ∈ p.bootstrapPackages.map String.toList

/-! ## Packages by cases -/

/-- The packages that the framework starts a project with, by cases. -/
def bootstrapCases : Cases String :=
  .of [.has .nextjs] ["react", "next"] ++
    .of [.lacks .nextjs] ["react", "vite", "@vitejs/plugin-react", "@eslint/js", "globals",
      "eslint-plugin-react-hooks", "eslint-plugin-react-refresh"] ++
    .of [.lacks .nextjs, .has .typescript] ["typescript-eslint"]

/-- The plugins of PostCSS in the projects that have its configuration, by cases. -/
def pluginCases : Cases String :=
  fileCases.bind fun kind => if kind = .postcssConfig then postcssPlugins else []

variable {p : Project} {plan : Plan}

theorem Cases.given_bootstrapCases : bootstrapCases.given p = p.bootstrapPackages := by
  rw [bootstrapCases, given_append, given_append, given_of, given_of, given_of,
    Project.bootstrapPackages]
  cases hnext : p.isNextjs <;> cases hlang : p.isTypescript
  all_goals simp [Project.meets, Project.has, hnext, hlang]

/-- Whether the package of a module is there in a case. -/
def providedIn (known : List Fact) (m : List Char) : Bool :=
  let package := packageOf m
  packageCases.offers known (fun d => baseName (charsOf d.name) = package) ||
    (runtimeModules.any fun name => charsOf name = package) ||
    bootstrapCases.offers known fun name => charsOf name = package

/-- Whether the package of a module that is mentioned is there in a case, unless it is local. -/
def mentionProvidedIn (known : List Fact) : Mention → Bool
  | .inl name =>
    let m := charsOf name
    isAliased m || isRelative m || providedIn known m
  | .inr _ => true

/-- Every module that is mentioned is there in its case. -/
def provision : mentionCases.Check where
  test _ known o := mentionProvidedIn known o.2
  always := by decide +kernel

theorem pluginCases_provided : pluginCases.Always fun _ known plugin =>
    providedIn known (charsOf plugin) := by
  decide +kernel

theorem Plan.Realizes.provides (hplan : plan.Realizes p) {known : List Fact} {m : List Char}
    (hknown : known.all p.meets = true) (h : providedIn known m = true) : plan.Provides p m := by
  rw [providedIn, Bool.or_eq_true, Bool.or_eq_true] at h
  rcases h with (hinstalled | hruntime) | hbootstrap
  · obtain ⟨d, hd, hname⟩ := Cases.exists_of_offers hknown hinstalled
    refine .inl (List.mem_map.2 ⟨d.name, ?_, ?_⟩)
    · rw [← hplan.packages, List.mem_flatMap] at hd
      obtain ⟨batch, hbatch, hd⟩ := hd
      exact List.mem_flatMap.2 ⟨batch, hbatch, List.mem_map_of_mem hd⟩
    · rw [← charsOf_eq]
      exact of_decide_eq_true hname
  · obtain ⟨name, hname, heq⟩ := List.any_eq_true.1 hruntime
    refine .inr (.inl (List.mem_map.2 ⟨name, hname, ?_⟩))
    rw [← charsOf_eq]
    exact of_decide_eq_true heq
  · obtain ⟨name, hname, heq⟩ := Cases.exists_of_offers hknown hbootstrap
    rw [Cases.given_bootstrapCases] at hname
    refine .inr (.inr (List.mem_map.2 ⟨name, hname, ?_⟩))
    rw [← charsOf_eq]
    exact of_decide_eq_true heq

/-! ## No package is installed twice -/

/-- What there is in two cases has different keys, unless the cases exclude one another. -/
def Cases.Apart {α β : Type} (c : Cases α) (key : α → β) : Prop :=
  c.Pairwise fun o o' => key o.2 ≠ key o'.2 ∨ Fact.clash (Fact.close (o.1 ++ o'.1)) = true

instance {α β : Type} [DecidableEq β] (c : Cases α) (key : α → β) : Decidable (c.Apart key) :=
  inferInstanceAs (Decidable (List.Pairwise _ _))

theorem Cases.Apart.nodup {α β : Type} {c : Cases α} {key : α → β} (h : c.Apart key) :
    ((c.given p).map key).Nodup := by
  rw [given, List.map_map, List.Nodup, List.pairwise_map]
  refine (List.Pairwise.filter _ h).imp_of_mem ?_
  rintro o o' ho ho' (hne | hclash)
  · exact hne
  · have hfacts : (o.1 ++ o'.1).all p.meets = true := by
      rw [List.all_append, (List.mem_filter.1 ho).2, (List.mem_filter.1 ho').2]
      rfl
    rw [Fact.clash_eq_false (Fact.all_close hfacts)] at hclash
    cases hclash

theorem packageCases_apart : packageCases.Apart fun d => baseName (charsOf d.name) := by
  decide +kernel

/-- The packages that the plan installs. -/
def Plan.installed (plan : Plan) : List Dependency := plan.installs.flatMap (·.2)

theorem Plan.packages_eq (plan : Plan) : plan.packages = plan.installed.map (·.name) := by
  rw [packages, installed, List.map_flatMap]

theorem Plan.Realizes.mem_packages (hplan : plan.Realizes p) {facts : List Fact} {d : Dependency}
    (h : (facts, d) ∈ packageCases) (hfacts : facts.all p.meets = true) :
    d.name ∈ plan.packages := by
  rw [packages_eq, installed, hplan.packages]
  exact List.mem_map_of_mem (Cases.mem_given.2 ⟨facts, h, hfacts⟩)

theorem Plan.Realizes.nodup_installed (hplan : plan.Realizes p) :
    (plan.installed.map fun d => baseName d.name.toList).Nodup := by
  have hkey : (fun d : Dependency => baseName d.name.toList) =
      fun d => baseName (charsOf d.name) := funext fun d => by rw [charsOf_eq]
  rw [installed, hplan.packages, hkey]
  exact packageCases_apart.nodup

/-! ## Imports and packages -/

/-- In the plan of a project within the gates the package of every module that a file imports and
that is not local, and every plugin that the configuration of PostCSS names, is provided. No package
is installed twice, be it in two versions, nor both for the application and for development. -/
theorem Plan.compile_imports_provided (hgates : p.gatingFault? = none) :
    ∃ plan, Plan.compile p = .ok plan ∧
      (∀ file ∈ plan.files, ∀ m ∈ importsOf file.2,
        (isAliased m.toList || isRelative m.toList) = false → plan.Provides p m.toList) ∧
      (∀ content, (FileKind.postcssConfig.path p, content) ∈ plan.files →
        ∀ plugin ∈ itemsBehind pluginTable content, plan.Provides p plugin.toList) ∧
      (plan.installed.map fun d => baseName d.name.toList).Nodup ∧
      ∀ d ∈ plan.installed, ∀ e ∈ plan.installed,
        baseName d.name.toList = baseName e.name.toList → d.dev = e.dev := by
  have hp := Project.gated_of_gatingFault? hgates
  obtain ⟨plan, hcompile, hplan⟩ := Plan.exists_realizes hgates
  have hnodup := hplan.nodup_installed
  refine ⟨plan, hcompile, fun file hfile m hm hbare => ?_, fun content hfile plugin hplugin => ?_,
    hnodup, fun d hd e he heq => congrArg Dependency.dev ?_⟩
  · obtain ⟨kind, -, hmem⟩ := hplan.exists_mention hp hfile (mem_importsOf.1 hm)
    obtain ⟨known, hknown, htest⟩ := provision.always.exists_facts hmem
    change mentionProvidedIn known (.inl m) = true at htest
    rw [mentionProvidedIn, charsOf_eq, hbare, Bool.false_or] at htest
    exact hplan.provides hknown htest
  · obtain ⟨hkind, hrender⟩ := hplan.render_of_mem hfile
    rw [FileKind.postcssPlugins_of_render hrender] at hplugin
    have hmem : plugin ∈ pluginCases.given p := by
      rw [pluginCases, Cases.given_bind, List.mem_flatMap]
      exact ⟨.postcssConfig, by rwa [← Project.files_eq hp], hplugin⟩
    obtain ⟨known, hknown, htest⟩ := pluginCases_provided.exists_facts hmem
    rw [charsOf_eq] at htest
    exact hplan.provides hknown htest
  · exact List.inj_on_of_nodup_map hnodup hd he heq

/-- A configuration of PostCSS names plugins that are installed. -/
theorem Plan.compile_imports_provided_app :
    appProject.gatingFault? = none ∧ ∃ plan, Plan.compile appProject = .ok plan ∧
      (∃ file ∈ plan.files, "axios" ∈ importsOf file.2 ∧ plan.Provides appProject "axios".toList) ∧
      ∃ content, (FileKind.postcssConfig.path appProject, content) ∈ plan.files ∧
        itemsBehind pluginTable content = ["tailwindcss", "autoprefixer"] ∧
        plan.Provides appProject "autoprefixer".toList := by
  have hgates : appProject.gatingFault? = none := by decide
  obtain ⟨plan, hcompile, himports, hplugins, -⟩ := Plan.compile_imports_provided hgates
  obtain ⟨other, hother, hplan⟩ := Plan.exists_realizes hgates
  obtain rfl := Except.ok.inj (hother.symm.trans hcompile)
  obtain ⟨client, hclient⟩ := FileKind.apiClient.exists_render appProject
  obtain ⟨config, hconfig⟩ := FileKind.postcssConfig.exists_render appProject
  have hfile := (hplan.mem_files _ client).2 ⟨.apiClient, by decide, rfl, hclient⟩
  have hmodule : "axios" ∈ importsOf client := by
    rw [mem_importsOf, FileKind.read_of_render hclient, Cases.mem_given]
    exact ⟨[], by simp [FileKind.mentions], rfl⟩
  have hwritten := (hplan.mem_files _ config).2 ⟨.postcssConfig, by decide, rfl, hconfig⟩
  have hitems : itemsBehind pluginTable config = ["tailwindcss", "autoprefixer"] := by
    rw [FileKind.postcssPlugins_of_render hconfig]
    decide +kernel
  exact ⟨hgates, _, hcompile, ⟨_, hfile, hmodule, himports _ hfile _ hmodule (by decide)⟩, config,
    hwritten, hitems, hplugins config hwritten "autoprefixer" (by rw [hitems]; decide)⟩

end ReactScaffold
