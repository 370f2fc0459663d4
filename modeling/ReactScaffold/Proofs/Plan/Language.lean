import ReactScaffold.Proofs.File.Usage
import ReactScaffold.Proofs.Plan.Contents

/-!
# What the language changes

A project in TypeScript has the files of the same project in JavaScript, and one more for its types.
The files go by the same paths up to their extensions, carry the same class names and load the same
modules. Only the configuration of ESLint loads a module for the language.
-/

namespace ReactScaffold

open Text

/-! ## Files -/

namespace Project

/-- The project in another language. -/
def inLanguage (p : Project) (l : Language) : Project := { p with language := l }

variable (p : Project)

theorem meets_inLanguage (l : Language) {f : Fact} (hhas : f ≠ .has .typescript)
    (hlacks : f ≠ .lacks .typescript) : (p.inLanguage l).meets f = p.meets f := by
  cases f with
  | has t => cases t <;> first | rfl | exact absurd rfl hhas
  | lacks t => cases t <;> first | rfl | exact absurd rfl hlacks
  | styling | icons | manager => rfl

/-- What there is in the cases of both languages is the same, if it is the same but for the facts
about the language. -/
theorem given_inLanguage {α : Type} {c : Cases α}
    (h : c.resolve .typescript true = c.resolve .typescript false) :
    c.given (p.inLanguage .typescript) = c.given (p.inLanguage .javascript) := by
  rw [← c.given_resolve (t := .typescript) (b := true) rfl,
    ← c.given_resolve (t := .typescript) (b := false) rfl, ← h]
  refine Cases.given_congr fun o ho f hf => ?_
  obtain ⟨o, -, rfl⟩ := List.mem_map.1 ho
  obtain ⟨-, hf⟩ := List.mem_filter.1 hf
  simp only [Bool.and_eq_true, decide_eq_true_eq] at hf
  rw [p.meets_inLanguage _ hf.1 hf.2, p.meets_inLanguage _ hf.1 hf.2]

end Project

/-! ## Contents -/

/-- All files but the configuration of ESLint name the same classes and load the same modules in
both languages. -/
theorem FileKind.read_inLanguage {kind : FileKind} (hkind : kind ≠ .eslintConfig) {p : Project}
    {content other : String} (h : kind.render (p.inLanguage .typescript) = .ok content)
    (h' : kind.render (p.inLanguage .javascript) = .ok other) :
    sourceReader.read content.toList = sourceReader.read other.toList := by
  obtain ⟨c, hscan, hc⟩ := kind.exists_inOrder (p.inLanguage .typescript)
  rw [read_sourceReader, read_sourceReader, read_of_scan passesTitles_usageReader hscan h,
    read_of_scan (p := p.inLanguage .javascript) passesTitles_usageReader hscan h',
    p.given_inLanguage (hc.1.resolve_left hkind)]

/-! ## Paths -/

/-- The extensions of files in TypeScript, each with the one that it stands for in JavaScript. -/
def extensionPairs : List (String × String) := [("tsx", "jsx"), ("ts", "js"), ("ts", "mjs")]

/-- The paths are the same, or end in extensions that stand for one another. -/
def SameStem (path other : String) : Prop :=
  path = other ∨ ∃ stem, ∃ e ∈ extensionPairs,
    path = stem ++ "." ++ e.1 ∧ other = stem ++ "." ++ e.2

theorem sameStem_of_mem {e : String × String} (stem : String) (he : e ∈ extensionPairs) :
    SameStem (stem ++ "." ++ e.1) (stem ++ "." ++ e.2) := .inr ⟨stem, e, he, rfl, rfl⟩

namespace Project

variable (p : Project)

theorem sameStem_component (stem : String) :
    SameStem (stem ++ "." ++ (p.inLanguage .typescript).componentExt)
      (stem ++ "." ++ (p.inLanguage .javascript).componentExt) :=
  sameStem_of_mem (e := ("tsx", "jsx")) stem (by decide)

theorem sameStem_module (stem : String) :
    SameStem (stem ++ "." ++ (p.inLanguage .typescript).moduleExt)
      (stem ++ "." ++ (p.inLanguage .javascript).moduleExt) :=
  sameStem_of_mem (e := ("ts", "js")) stem (by decide)

theorem sameStem_config (stem : String) :
    SameStem (stem ++ "." ++ (p.inLanguage .typescript).configExt)
      (stem ++ "." ++ (p.inLanguage .javascript).configExt) := by
  have htypescript : (p.inLanguage .typescript).configExt = "ts" := rfl
  have hjavascript : (p.inLanguage .javascript).configExt = p.framework.dialect.esmConfigExt := rfl
  rw [htypescript, hjavascript]
  cases p.framework with
  | reactVite => exact sameStem_of_mem (e := ("ts", "js")) stem (by decide)
  | nextjs => exact sameStem_of_mem (e := ("ts", "mjs")) stem (by decide)

theorem pagePath_eq (viteName route : String) :
    ∃ stem, ∀ l, (p.inLanguage l).pagePath viteName route =
      stem ++ "." ++ (p.inLanguage l).componentExt := by
  have hnext (l : Language) : (p.inLanguage l).isNextjs = p.isNextjs := rfl
  have happ (l : Language) : (p.inLanguage l).isAppRouter = p.isAppRouter := rfl
  have hpage (x ext : String) : x ++ "page" ++ "." ++ ext = x ++ "page." ++ ext := by
    have hdot : "page." = "page" ++ "." := rfl
    rw [hdot, ← String.append_assoc]
  simp only [pagePath, hnext, happ]
  split_ifs
  · exact ⟨"src/pages/" ++ viteName, fun _ => rfl⟩
  · exact ⟨_, fun _ => (hpage _ _).symm⟩
  · exact ⟨_, fun _ => (hpage _ _).symm⟩
  · exact ⟨_, fun _ => rfl⟩
  · exact ⟨_, fun _ => rfl⟩

theorem sameStem_page (viteName route : String) :
    SameStem ((p.inLanguage .typescript).pagePath viteName route)
      ((p.inLanguage .javascript).pagePath viteName route) := by
  obtain ⟨stem, hstem⟩ := p.pagePath_eq viteName route
  rw [hstem, hstem]
  exact p.sameStem_component stem

/-- Each kind of file goes by the same path in both languages, up to the extension. -/
theorem sameStem_path (kind : FileKind) :
    SameStem (kind.path (p.inLanguage .typescript)) (kind.path (p.inLanguage .javascript)) := by
  cases kind with
  | button | navbar | footer | layout | themeToggle | protectedRoute | app | appRoutes | rootLayout
  | providers | customApp | buttonTest => exact p.sameStem_component _
  | zustandStore | reduxSlice | reduxStore | reduxHooks | queryClient | currentUserHook
  | localStorageHook | utils | apiClient | shadcnUtils | viteConfig | testSetup =>
    exact p.sameStem_module _
  | homePage | aboutPage | dashboardPage => exact p.sameStem_page _ _
  | tailwindConfig => exact p.sameStem_config "tailwind.config"
  | vitestConfig => exact p.sameStem_config "vitest.config"
  | _ => exact .inl rfl

/-- The language changes types only. -/
structure TypesOnly : Prop where
  /-- The files are the same, but for one more that holds the types. -/
  files : ∃ before after, .types ∉ before ++ after ∧
    (p.inLanguage .typescript).files = before ++ .types :: after ∧
    (p.inLanguage .javascript).files = before ++ after
  /-- The paths are the same, but for the extensions. -/
  paths (kind : FileKind) :
    SameStem (kind.path (p.inLanguage .typescript)) (kind.path (p.inLanguage .javascript))
  /-- The contents name the same classes and load the same modules. -/
  contents (kind : FileKind) (hkind : kind ≠ .eslintConfig) : ∃ content other,
    kind.render (p.inLanguage .typescript) = .ok content ∧
    kind.render (p.inLanguage .javascript) = .ok other ∧
    classNamesOf content = classNamesOf other ∧ loadsOf content = loadsOf other

theorem exists_files_inLanguage : ∃ before after, .types ∉ before ++ after ∧
    (p.inLanguage .typescript).files = before ++ .types :: after ∧
    (p.inLanguage .javascript).files = before ++ after := by
  let before : List FileKind := [.button, .navbar, .footer] ++
    (if p.hasThemeToggle then [.themeToggle] else []) ++ p.routingFiles ++ p.stylingFiles ++
      p.stateFiles ++ [.utils, .localStorageHook]
  let after : List FileKind := (if p.apiClient then [.apiClient, .envExample] else []) ++
    ((if p.testing then [.vitestConfig, .testSetup, .buttonTest] else []) ++
      (if p.codeQuality then
        [.eslintConfig, .prettierConfig, .prettierIgnore, .lintStagedConfig, .commitlintConfig,
          .huskyPreCommit, .huskyCommitMsg]
      else []))
  have hfiles (l : Language) : (p.inLanguage l).files =
      before ++ (if (p.inLanguage l).isTypescript then [.types] else []) ++ after := by
    simp only [before, after, List.append_assoc]
    simp only [files, List.append_assoc]
    rfl
  have htypescript : (p.inLanguage .typescript).files = before ++ .types :: after := by
    rw [hfiles, List.append_assoc]
    rfl
  have hjavascript : (p.inLanguage .javascript).files = before ++ after := by
    rw [hfiles]
    exact congrArg (· ++ after) (List.append_nil before)
  have hnodup := (p.inLanguage .typescript).nodup_files
  rw [htypescript, List.nodup_middle] at hnodup
  exact ⟨before, after, (List.nodup_cons.1 hnodup).1, htypescript, hjavascript⟩

/-- Choosing TypeScript or JavaScript changes types only. -/
theorem typesOnly (p : Project) : p.TypesOnly where
  files := p.exists_files_inLanguage
  paths := p.sameStem_path
  contents kind hkind := by
    obtain ⟨content, hcontent⟩ := kind.exists_render (p.inLanguage .typescript)
    obtain ⟨other, hother⟩ := kind.exists_render (p.inLanguage .javascript)
    have hread := FileKind.read_inLanguage hkind hcontent hother
    refine ⟨content, other, hcontent, hother, ?_, ?_⟩
    · rw [classNamesOf_eq, classNamesOf_eq, hread]
    · rw [loadsOf_eq, loadsOf_eq, hread]

end Project

end ReactScaffold
