import ReactScaffold.Proofs.Plan.Packages

/-!
# Tailwind appears where it is selected

The styling and its version decide about packages, files, stylesheet and plugins in different
places. Without Tailwind none of them mentions it; with Tailwind all of them agree on one version.
-/

namespace ReactScaffold

open Text

/-- The name of the library as it stands in names of packages, paths and modules. -/
def tailwindWord : List Char := ['t', 'a', 'i', 'l', 'w', 'i', 'n', 'd']

/-- The name of the configuration without its extension. -/
def tailwindConfigStem : List Char := tailwindWord ++ ['.', 'c', 'o', 'n', 'f', 'i', 'g']

/-- The name of the package without a version. -/
def tailwindPackage : List Char := tailwindWord ++ ['c', 's', 's']

/-- The versions of the package that the plan installs. -/
def Plan.tailwindVersions (plan : Plan) : List String :=
  plan.packages.filter fun name => baseName (charsOf name) = tailwindPackage

/-- Nothing in the plan has to do with Tailwind. -/
structure Plan.AvoidsTailwind (plan : Plan) : Prop where
  packages (name : String) (h : name ∈ plan.packages) : ¬tailwindWord <:+: name.toList
  paths (path : String) (h : path ∈ OrderedMap.keys plan.files) : ¬tailwindWord <:+: path.toList
  directives (file : String × String) (h : file ∈ plan.files) (word : String)
    (hword : word ∈ ["@tailwind", "@apply", "@custom-variant"]) :
    ¬word.toList <:+: file.2.toList
  imports (file : String × String) (h : file ∈ plan.files) (m : String)
    (hm : m ∈ importsOf file.2) : ¬tailwindWord <+: m.toList

/-- The plan sets up the third version of Tailwind. -/
structure Plan.UsesThirdTailwind (plan : Plan) (p : Project) : Prop where
  versions : plan.tailwindVersions = ["tailwindcss@^3"]
  stylesheet : ∃ content, (FileKind.stylesheet.path p, content) ∈ plan.files ∧
    (∀ word ∈ ["@tailwind base;", "@tailwind components;", "@tailwind utilities;"],
      word.toList <:+: content.toList) ∧
    ¬"@import \"tailwindcss\"".toList <:+: content.toList
  config : FileKind.tailwindConfig.path p ∈ OrderedMap.keys plan.files
  plugin : ∃ content, (FileKind.postcssConfig.path p, content) ∈ plan.files ∧
    "tailwindcss" ∈ itemsBehind pluginTable content

/-- The plan sets up the fourth version of Tailwind. -/
structure Plan.UsesFourthTailwind (plan : Plan) (p : Project) : Prop where
  versions : plan.tailwindVersions = ["tailwindcss@^4"]
  stylesheet : ∃ content, (FileKind.stylesheet.path p, content) ∈ plan.files ∧
    "@import \"tailwindcss\"".toList <:+: content.toList ∧ ¬"@tailwind".toList <:+: content.toList
  config (path : String) (h : path ∈ OrderedMap.keys plan.files) :
    ¬tailwindConfigStem <:+: path.toList
  vite (h : p.framework = .reactVite) :
    "@tailwindcss/vite" ∈ plan.packages ∧
    FileKind.postcssConfig.path p ∉ OrderedMap.keys plan.files ∧
    ∃ content, (FileKind.viteConfig.path p, content) ∈ plan.files ∧
      "@tailwindcss/vite" ∈ importsOf content ∧ "tailwindcss" ∈ itemsBehind pluginList content
  next (h : p.framework = .nextjs) :
    "@tailwindcss/postcss" ∈ plan.packages ∧
    FileKind.viteConfig.path p ∉ OrderedMap.keys plan.files ∧
    ∃ content, (FileKind.postcssConfig.path p, content) ∈ plan.files ∧
      itemsBehind pluginTable content = ["@tailwindcss/postcss"]

/-! ## Where Tailwind is mentioned -/

/-- The characters of the path of a kind of file in projects of a flavor. -/
def FileKind.pathChars (kind : FileKind) (f : Flavor) : List Char :=
  ['/'].intercalate ((Folder.leadTo (kind.entry f)).map charsOf)

theorem FileKind.toList_path (kind : FileKind) (p : Project) :
    (kind.path p).toList = kind.pathChars p.flavor := by
  have hchars : charsOf = String.toList := funext charsOf_eq
  rw [path_eq, pathIn, pathChars, String.toList_intercalate, hchars]
  rfl

/-- Packages of Tailwind are installed only where it is used. -/
def tailwindPackages : packageCases.Mark (.has .tailwind) where
  marked _ d := tailwindWord <:+: charsOf d.name
  always := by decide +kernel

/-- Paths with the name of Tailwind are written only where it is used. -/
def tailwindPaths : fileCases.Mark (.has .tailwind) where
  marked f kind := tailwindWord <:+: kind.pathChars f
  always := by decide +kernel

/-- The configuration of Tailwind is not written for the fourth version. -/
def tailwindConfigs : fileCases.Mark (.lacks .tailwindV4) where
  marked f kind := tailwindConfigStem <:+: kind.pathChars f
  always := by decide +kernel

/-- The tool that does not load the plugin of the fourth version in projects of a flavor. -/
def idleConfig (f : Flavor) : FileKind := if f.nextjs then .viteConfig else .postcssConfig

/-- The tool that does not load the plugin has no configuration for the fourth version. -/
def idleConfigs : fileCases.Mark (.lacks .tailwindV4) where
  marked f kind := kind = idleConfig f
  always := by decide +kernel

/-- Whether what is mentioned has to do with Tailwind. -/
def Mention.isTailwind : Mention → Bool
  | .inl m => tailwindWord.isPrefixOf (charsOf m)
  | .inr _ => true

/-- Tailwind is mentioned only where it is used. -/
def tailwindMentions : mentionCases.Mark (.has .tailwind) where
  marked _ o := Mention.isTailwind o.2
  always := by decide +kernel

variable {p : Project} {plan : Plan} {kind : FileKind} {content : String}

theorem Plan.Realizes.avoidsTailwind (hplan : plan.Realizes p) (hp : p.Gated)
    (hstyling : p.usesTailwind = false) : plan.AvoidsTailwind := by
  have hmention {file : String × String} (hfile : file ∈ plan.files) {m : Mention}
      (hm : m ∈ mentionReader.read file.2.toList) : m.isTailwind = false := by
    obtain ⟨kind, -, hmem⟩ := hplan.exists_mention hp hfile hm
    exact tailwindMentions.eq_false hstyling hmem
  constructor
  · intro name hname
    rw [packages_eq, installed, hplan.packages] at hname
    obtain ⟨d, hd, rfl⟩ := List.mem_map.1 hname
    rw [← charsOf_eq]
    exact of_decide_eq_false (tailwindPackages.eq_false hstyling hd)
  · intro path hpath
    obtain ⟨kind, hkind, rfl⟩ := hplan.exists_kind_of_path hpath
    rw [kind.toList_path]
    rw [Project.files_eq hp] at hkind
    exact of_decide_eq_false (tailwindPaths.eq_false hstyling hkind)
  · intro file hfile word hword hpart
    have hdirective (d : Directive) (hd : d.text = word) : False := by
      rw [← hd, Directive.isInfix_iff] at hpart
      cases hmention hfile hpart
    fin_cases hword
    · exact hdirective .tailwind (by decide)
    · exact hdirective .apply (by decide)
    · exact hdirective .customVariant (by decide)
  · intro file hfile m hm hprefix
    have hfalse := hmention hfile (mem_importsOf.1 hm)
    rw [Mention.isTailwind, charsOf_eq, List.isPrefixOf_iff_prefix.2 hprefix] at hfalse
    cases hfalse

/-! ## Where Tailwind is set up -/

/-- The versions of the package that are installed, by cases. -/
def versionCases : Cases String :=
  .of [.has .tailwindV4, .lacks .nextjs] ["tailwindcss@^4"] ++
    .of [.has .tailwindV4, .has .nextjs] ["tailwindcss@^4"] ++
    .of [.styling .tailwind, .lacks .tailwindV4] ["tailwindcss@^3"] ++
    .of [.has .shadcn] ["tailwindcss@^3"]

theorem packageCases_versions : (packageCases.filterMap fun d =>
    if baseName (charsOf d.name) = tailwindPackage then some d.name else none) = versionCases := by
  decide +kernel

theorem Plan.Realizes.tailwindVersions_eq (hplan : plan.Realizes p) :
    plan.tailwindVersions = versionCases.given p := by
  rw [← packageCases_versions, Cases.given_filterMap, ← hplan.packages, tailwindVersions,
    packages_eq, installed, ← List.filterMap_eq_filter, List.filterMap_map]
  congr 1
  funext d
  simp [Option.guard]

/-- The styling uses the third version of Tailwind. -/
def Project.UsesThird (p : Project) : Prop :=
  p.styling = .shadcn ∨ p.styling = .tailwind ∧ p.tailwindVersion = some .v3

/-- The styling uses the fourth version of Tailwind. -/
def Project.UsesFourth (p : Project) : Prop :=
  p.styling = .tailwind ∧ p.tailwindVersion = some .v4

theorem Project.UsesThird.has_tailwindV4 (h : p.UsesThird) : p.has .tailwindV4 = false := by
  rcases h with h | ⟨h, hversion⟩
  · simp [has, h]
  · simp [has, hversion]

theorem Project.UsesFourth.has_tailwindV4 (h : p.UsesFourth) : p.has .tailwindV4 = true := by
  simp [has, h.1, h.2]

/-- A directive is part of the stylesheet just if the stylesheet of the styling mentions it. -/
theorem isInfix_stylesheet (h : FileKind.stylesheet.render p = .ok content) (d : Directive) :
    d.text.toList <:+: content.toList ↔ .inr d ∈ p.styling.mentions.given p := by
  rw [Directive.isInfix_iff, FileKind.read_of_render h, Cases.given_stylesheetMentions]

theorem Cases.given_tailwindMentions : Styling.tailwind.mentions.given p =
    if p.has .tailwindV4 then [.inl "tailwindcss", .inr .importTailwind, .inr .customVariant]
    else [.inr .tailwind, .inr .base, .inr .tailwind, .inr .components, .inr .tailwind,
      .inr .utilities] := by
  cases h : p.has .tailwindV4
  all_goals simp [Styling.mentions, given_cons, Project.meets, h]

/-- The stylesheet of the third version has the directives for all layers. -/
theorem Project.UsesThird.mem_mentions (h : p.UsesThird) {d : Directive}
    (hd : d ∈ [Directive.base, .components, .utilities]) :
    .inr d ∈ p.styling.mentions.given p := by
  have hversion := h.has_tailwindV4
  rcases h with hstyling | ⟨hstyling, -⟩
  · rw [hstyling, Styling.mentions, Cases.given_of_nil]
    fin_cases hd
    all_goals simp
  · rw [hstyling, Cases.given_tailwindMentions, hversion]
    fin_cases hd
    all_goals simp

theorem Project.UsesThird.notMem_mentions (h : p.UsesThird) :
    .inr .importTailwind ∉ p.styling.mentions.given p := by
  have hversion := h.has_tailwindV4
  rcases h with hstyling | ⟨hstyling, -⟩
  · rw [hstyling, Styling.mentions, Cases.given_of_nil]
    simp
  · rw [hstyling, Cases.given_tailwindMentions, hversion]
    simp

theorem stylesheet_mem_files (p : Project) : .stylesheet ∈ p.files := by
  simp [Project.files, Project.stylingFiles]

theorem Plan.Realizes.usesThirdTailwind (hplan : plan.Realizes p) (h : p.UsesThird) :
    plan.UsesThirdTailwind p := by
  have hversion := h.has_tailwindV4
  have hfiles : FileKind.tailwindConfig ∈ p.files ∧ FileKind.postcssConfig ∈ p.files := by
    rcases h with h | ⟨h, hthird⟩
    · simp [Project.files, Project.stylingFiles, h]
    · simp [Project.files, Project.stylingFiles, h, hthird]
  constructor
  · rw [hplan.tailwindVersions_eq, versionCases]
    rcases h with h | ⟨h, hthird⟩
    · simp [Project.meets, Project.has, h]
    · simp [Project.meets, Project.has, h, hthird]
  · obtain ⟨content, hfile, hcontent⟩ := hplan.exists_content (stylesheet_mem_files p)
    have hpart := isInfix_stylesheet hcontent
    refine ⟨content, hfile, fun word hword => ?_,
      fun himport => h.notMem_mentions ((hpart .importTailwind).1 ?_)⟩
    · have hdirective (d : Directive) (hd : d ∈ [Directive.base, .components, .utilities])
          (htext : d.text = word) : word.toList <:+: content.toList := by
        rw [← htext, hpart]
        exact h.mem_mentions hd
      fin_cases hword
      · exact hdirective .base (by decide) (by decide)
      · exact hdirective .components (by decide) (by decide)
      · exact hdirective .utilities (by decide) (by decide)
    · have htext : Directive.importTailwind.text = "@import \"tailwindcss\"" := by decide
      rwa [htext]
  · exact hplan.path_mem hfiles.1
  · obtain ⟨content, hfile, hcontent⟩ := hplan.exists_content hfiles.2
    refine ⟨content, hfile, ?_⟩
    rw [FileKind.postcssPlugins_of_render hcontent, postcssPlugins]
    simp [Project.meets, hversion]

/-- With the fourth version the tool that does not load the plugin has no configuration. -/
theorem Plan.Realizes.idle (hplan : plan.Realizes p) (hp : p.Gated) (h : p.UsesFourth) :
    (idleConfig p.flavor).path p ∉ OrderedMap.keys plan.files := by
  intro hpath
  have hkind := hplan.kind_mem hpath
  rw [Project.files_eq hp] at hkind
  refine of_decide_eq_false (idleConfigs.eq_false ?_ hkind) rfl
  simp [Project.meets, h.has_tailwindV4]

/-- The stylesheet of the fourth version imports the library, and has no directive of the third. -/
theorem Plan.Realizes.exists_fourthStylesheet (hplan : plan.Realizes p) (h : p.UsesFourth) :
    ∃ content, (FileKind.stylesheet.path p, content) ∈ plan.files ∧
      "@import \"tailwindcss\"".toList <:+: content.toList ∧
      ¬"@tailwind".toList <:+: content.toList := by
  obtain ⟨content, hfile, hcontent⟩ := hplan.exists_content (stylesheet_mem_files p)
  have hpart := isInfix_stylesheet hcontent
  refine ⟨content, hfile, ?_⟩
  have himport : Directive.importTailwind.text = "@import \"tailwindcss\"" := by decide
  have hdirective : Directive.tailwind.text = "@tailwind" := by decide
  rw [← himport, ← hdirective, hpart, hpart, h.1, Cases.given_tailwindMentions, h.has_tailwindV4]
  simp

/-- The plugin of Vite loads the fourth version. -/
theorem Plan.Realizes.exists_fourthPlugin_vite (hplan : plan.Realizes p) (h : p.UsesFourth)
    (hnext : p.isNextjs = false) :
    "@tailwindcss/vite" ∈ plan.packages ∧
      ∃ content, (FileKind.viteConfig.path p, content) ∈ plan.files ∧
        "@tailwindcss/vite" ∈ importsOf content ∧
        "tailwindcss" ∈ itemsBehind pluginList content := by
  have hversion := h.has_tailwindV4
  have hkind : FileKind.viteConfig ∈ p.files := by
    simp [Project.files, Project.routingFiles, hnext]
  have hlisted : ([.has .tailwindV4, .lacks .nextjs], ⟨"@tailwindcss/vite", true⟩) ∈
      packageCases := by decide +kernel
  obtain ⟨content, hfile, hcontent⟩ := hplan.exists_content hkind
  refine ⟨hplan.mem_packages hlisted ?_, content, hfile, ?_, ?_⟩
  · simp [Project.meets, Project.has, hnext, h.1, h.2]
  · rw [mem_importsOf, FileKind.read_of_render hcontent, Cases.mem_given]
    exact ⟨[.has .tailwindV4], by simp [FileKind.mentions], by simp [Project.meets, hversion]⟩
  · rw [FileKind.vitePlugins_of_render hcontent, vitePlugins]
    simp [Project.meets, hversion]

/-- The plugin of PostCSS loads the fourth version in Next.js projects. -/
theorem Plan.Realizes.exists_fourthPlugin_next (hplan : plan.Realizes p) (h : p.UsesFourth)
    (hnext : p.isNextjs = true) :
    "@tailwindcss/postcss" ∈ plan.packages ∧
      ∃ content, (FileKind.postcssConfig.path p, content) ∈ plan.files ∧
        itemsBehind pluginTable content = ["@tailwindcss/postcss"] := by
  have hkind : FileKind.postcssConfig ∈ p.files := by
    simp [Project.files, Project.stylingFiles, h.1, h.2, hnext]
  have hlisted : ([.has .tailwindV4, .has .nextjs], ⟨"@tailwindcss/postcss", true⟩) ∈
      packageCases := by decide +kernel
  obtain ⟨content, hfile, hcontent⟩ := hplan.exists_content hkind
  refine ⟨hplan.mem_packages hlisted ?_, content, hfile, ?_⟩
  · simp [Project.meets, Project.has, hnext, h.1, h.2]
  · rw [FileKind.postcssPlugins_of_render hcontent, postcssPlugins]
    simp [Project.meets, h.has_tailwindV4]

theorem Plan.Realizes.usesFourthTailwind (hplan : plan.Realizes p) (hp : p.Gated)
    (h : p.UsesFourth) : plan.UsesFourthTailwind p := by
  have hversion := h.has_tailwindV4
  have hidle := hplan.idle hp h
  constructor
  · rw [hplan.tailwindVersions_eq, versionCases]
    cases hnext : p.isNextjs
    all_goals simp [Project.meets, Project.has, h.1, h.2, hnext]
  · exact hplan.exists_fourthStylesheet h
  · intro path hpath
    obtain ⟨kind, hkind, rfl⟩ := hplan.exists_kind_of_path hpath
    rw [kind.toList_path]
    rw [Project.files_eq hp] at hkind
    refine of_decide_eq_false (tailwindConfigs.eq_false ?_ hkind)
    simp [Project.meets, hversion]
  · intro hvite
    have hnext : p.isNextjs = false := by simp [Project.isNextjs, hvite]
    rw [show idleConfig p.flavor = .postcssConfig by simp [idleConfig, Project.flavor, hnext]]
      at hidle
    obtain ⟨hpackage, hconfig⟩ := hplan.exists_fourthPlugin_vite h hnext
    exact ⟨hpackage, hidle, hconfig⟩
  · intro hframework
    have hnext : p.isNextjs = true := by simp [Project.isNextjs, hframework]
    rw [show idleConfig p.flavor = .viteConfig by simp [idleConfig, Project.flavor, hnext]]
      at hidle
    obtain ⟨hpackage, hconfig⟩ := hplan.exists_fourthPlugin_next h hnext
    exact ⟨hpackage, hidle, hconfig⟩

/-- In the plan of a project within the gates Tailwind appears where it is selected and in the
version that is selected: without it nothing in the plan has to do with it, and with it packages,
stylesheet and configuration are those of one version. -/
theorem Plan.compile_tailwind (hgates : p.gatingFault? = none) :
    ∃ plan, Plan.compile p = .ok plan ∧
      (p.styling ≠ .tailwind → p.styling ≠ .shadcn → plan.AvoidsTailwind) ∧
      (p.styling = .shadcn ∨ p.styling = .tailwind ∧ p.tailwindVersion = some .v3 →
        plan.UsesThirdTailwind p) ∧
      (p.styling = .tailwind ∧ p.tailwindVersion = some .v4 → plan.UsesFourthTailwind p) ∧
      (p.styling = .tailwind → p.tailwindVersion = some .v3 ∨ p.tailwindVersion = some .v4) := by
  have hp := Project.gated_of_gatingFault? hgates
  obtain ⟨plan, hcompile, hplan⟩ := Plan.exists_realizes hgates
  refine ⟨plan, hcompile, fun htailwind hshadcn => hplan.avoidsTailwind hp ?_,
    fun h => hplan.usesThirdTailwind h, fun h => hplan.usesFourthTailwind hp h, fun h => ?_⟩
  · simp [Project.usesTailwind, htailwind, hshadcn]
  · have hversion := hp.tailwindVersion
    rw [h, decide_eq_true rfl, Option.isSome_iff_exists] at hversion
    obtain ⟨v, hv⟩ := hversion
    cases v with
    | v3 => exact .inl hv
    | v4 => exact .inr hv

/-- An application in three stylings: the selected version decides, and without Tailwind nothing
is left of it. -/
theorem Plan.compile_tailwind_app :
    (∃ plan, Plan.compile appProject = .ok plan ∧ plan.UsesThirdTailwind appProject) ∧
    (∃ plan, Plan.compile { appProject with styling := .tailwind, tailwindVersion := some .v4 } =
        .ok plan ∧ plan.tailwindVersions = ["tailwindcss@^4"] ∧
      "@tailwindcss/postcss" ∈ plan.packages) ∧
    ∃ plan, Plan.compile { appProject with styling := .vanillaCss } = .ok plan ∧
      plan.AvoidsTailwind := by
  refine ⟨?_, ?_, ?_⟩
  · obtain ⟨plan, hcompile, -, hthird, -⟩ :=
      Plan.compile_tailwind (p := appProject) (by decide)
    exact ⟨plan, hcompile, hthird (.inl rfl)⟩
  · obtain ⟨plan, hcompile, -, -, hfourth, -⟩ := Plan.compile_tailwind
      (p := { appProject with styling := .tailwind, tailwindVersion := some .v4 }) (by decide)
    have huses := hfourth ⟨rfl, rfl⟩
    exact ⟨plan, hcompile, huses.versions, (huses.next rfl).1⟩
  · obtain ⟨plan, hcompile, havoids, -⟩ :=
      Plan.compile_tailwind (p := { appProject with styling := .vanillaCss }) (by decide)
    exact ⟨plan, hcompile, havoids (by decide) (by decide)⟩

end ReactScaffold
