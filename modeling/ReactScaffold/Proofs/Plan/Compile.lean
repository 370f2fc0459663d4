import ReactScaffold.Report
import ReactScaffold.Proofs.File.Content
import ReactScaffold.Proofs.OrderedMap
import ReactScaffold.Proofs.Plan.Layout

/-!
# Plans of projects within the gates

A project within the gates has a plan. Its scripts are named once each, and the scripts that a user
is told to run are among them.
-/

namespace ReactScaffold

/-- The path of the file that a step writes. -/
def Step.target? : Step → Option String
  | .writeFile path _ => some path
  | .mergeManifestScripts _ manifest => some manifest
  | _ => none

namespace Project

variable {p : Project}

/-- The steps that install the batches of a project. -/
def installSteps (p : Project) : List Step :=
  p.batches.map fun b => .installDependencies p.packageManager b.packages b.description

/-- The steps of a project whose files have the given paths and contents. -/
def stepsWith (p : Project) (files : List (String × String)) : List Step :=
  p.directories.map Step.ensureDirectory ++ p.installSteps ++
    files.map (fun file => Step.writeFile file.1 file.2) ++
      [Step.mergeManifestScripts p.scripts manifestPath]

section Steps

variable {files : List (String × String)}

theorem mem_installSteps {step : Step} (h : step ∈ p.installSteps) :
    ∃ packages description, step = .installDependencies p.packageManager packages description := by
  obtain ⟨b, -, rfl⟩ := List.mem_map.1 h
  exact ⟨b.packages, b.description, rfl⟩

theorem ensureDirectory_mem_stepsWith {path : String} :
    .ensureDirectory path ∈ p.stepsWith files ↔ path ∈ p.directories := by
  simp [stepsWith, installSteps]

theorem writeFile_mem_stepsWith {path content : String} :
    .writeFile path content ∈ p.stepsWith files ↔ (path, content) ∈ files := by
  simp [stepsWith, installSteps]

theorem mergeManifestScripts_mem_stepsWith {entries : OrderedMap String String} {path : String} :
    .mergeManifestScripts entries path ∈ p.stepsWith files ↔
      entries = p.scripts ∧ path = manifestPath := by
  simp [stepsWith, installSteps]

theorem filterMap_target?_stepsWith :
    (p.stepsWith files).filterMap Step.target? = files.map Prod.fst ++ [manifestPath] := by
  have hnone (steps : List Step) (h : ∀ step ∈ steps, step.target? = none) :
      steps.filterMap Step.target? = [] := List.filterMap_eq_nil_iff.2 h
  have hdirectories : (p.directories.map Step.ensureDirectory).filterMap Step.target? = [] :=
    hnone _ fun step h => by
      obtain ⟨path, -, rfl⟩ := List.mem_map.1 h
      rfl
  have hinstalls : p.installSteps.filterMap Step.target? = [] := hnone _ fun step h => by
    obtain ⟨packages, description, rfl⟩ := mem_installSteps h
    rfl
  have hfiles : (files.map fun file => Step.writeFile file.1 file.2).filterMap Step.target? =
      files.map Prod.fst := by
    rw [List.filterMap_map, ← List.filterMap_eq_map]
    rfl
  rw [stepsWith, List.filterMap_append, List.filterMap_append, List.filterMap_append,
    hdirectories, hinstalls, hfiles]
  rfl

end Steps

/-- Every file of a project can be rendered. -/
theorem exists_writeSteps (p : Project) :
    ∃ files : List (String × String),
      p.writeSteps = .ok (files.map fun file => .writeFile file.1 file.2) ∧
      files.map Prod.fst = p.files.map fun kind => kind.path p := by
  rw [writeSteps]
  induction p.files with
  | nil => exact ⟨[], rfl, rfl⟩
  | cons kind kinds ih =>
      obtain ⟨text, htext⟩ := kind.exists_render p
      obtain ⟨files, hwrites, hpaths⟩ := ih
      refine ⟨(kind.path p, text) :: files, ?_, by rw [List.map_cons, List.map_cons, hpaths]⟩
      rw [List.mapM_cons, hwrites, htext]
      rfl

/-- The scripts that a user is told to run. -/
def nextScripts (p : Project) : List String :=
  ["dev", "build"] ++ (if p.testing then ["test"] else []) ++
    (if p.codeQuality then ["lint"] else [])

/-- What a user is told to do is to go into the project and to run scripts. -/
theorem mem_nextSteps {item : String × String} (h : item ∈ p.nextSteps) :
    item = ("cd", p.name.text) ∨
      ∃ script ∈ p.nextScripts, item.2 = scriptCommand (Axis.value p.packageManager) script := by
  simp only [nextSteps, List.mem_append] at h
  rcases h with (h | h) | h
  · fin_cases h
    · exact .inl rfl
    · exact .inr ⟨"dev", by simp [nextScripts], rfl⟩
    · exact .inr ⟨"build", by simp [nextScripts], rfl⟩
  · split_ifs at h with ht
    · fin_cases h
      exact .inr ⟨"test", by simp [nextScripts, ht], rfl⟩
    · cases h
  · split_ifs at h with hq
    · fin_cases h
      exact .inr ⟨"lint", by simp [nextScripts, hq], rfl⟩
    · cases h

/-- The scripts that a user is told to run are scripts of the project. -/
theorem exists_script {script : String} (h : script ∈ p.nextScripts) :
    ∃ command, OrderedMap.get? p.scripts script = some command := by
  rw [← Option.isSome_iff_exists]
  unfold nextScripts at h
  unfold scripts
  revert script
  cases p.framework <;> cases p.isTypescript <;> cases p.codeQuality <;> cases p.testing
  all_goals decide

theorem nodup_keys_scripts (p : Project) : (OrderedMap.keys p.scripts).Nodup := by
  refine OrderedMap.nodup_keys_insertAll ?_ _
  cases p.framework
  all_goals decide

/-- The gated answers are given just where they apply. -/
structure Gated (p : Project) : Prop where
  router : p.router.isSome = p.isNextjs
  tailwindVersion : p.tailwindVersion.isSome = decide (p.styling = .tailwind)

theorem gated_of_gatingFault? {p : Project} (hgates : p.gatingFault? = none) : p.Gated := by
  unfold gatingFault? at hgates
  split_ifs at hgates with hmissing hunused hversion hother
  constructor
  · cases hn : p.isNextjs <;> cases hr : p.router <;> simp [hn, hr] at hmissing hunused ⊢
  · by_cases hs : p.styling = .tailwind <;> cases hv : p.tailwindVersion <;>
      simp [hs, hv] at hversion hother ⊢

theorem stylingFiles_eq {p : Project} (hp : p.Gated) : p.stylingFiles = stylingCases.given p := by
  have hversion := hp.tailwindVersion
  simp only [stylingFiles, stylingCases, Cases.given_append, Cases.given_of, List.all_cons,
    List.all_nil, Bool.and_true, meets, has]
  cases hstyling : p.styling with
  | tailwind =>
      rw [hstyling] at hversion
      cases hv : p.tailwindVersion with
      | none => simp [hv] at hversion
      | some v =>
          cases v with
          | v3 => simp
          | v4 => simp
  | shadcn | vanillaCss | none => simp

/-- The files of a project are those of the cases that apply. -/
theorem files_eq {p : Project} (hp : p.Gated) : p.files = fileCases.given p := by
  simp only [files, fileCases, Cases.given_append, Cases.given_of, routingFiles_eq,
    stylingFiles_eq hp, stateFiles_eq, List.all_cons, List.all_nil, Bool.and_true, if_true]
  rfl

end Project

/-- A project within the gates has a plan. -/
theorem Plan.exists_compile {p : Project} (hgates : p.gatingFault? = none) :
    ∃ files : List (String × String), Plan.compile p = .ok ⟨p.stepsWith files⟩ ∧
      files.map Prod.fst = p.files.map fun kind => kind.path p := by
  obtain ⟨files, hwrites, hpaths⟩ := p.exists_writeSteps
  refine ⟨files, ?_, hpaths⟩
  rw [compile, hgates]
  dsimp only
  rw [hwrites]
  rfl

/-- A plan that was compiled has the steps of its project. -/
theorem Plan.exists_files_of_compile {p : Project} {plan : Plan} (h : Plan.compile p = .ok plan) :
    ∃ files : List (String × String), plan = ⟨p.stepsWith files⟩ ∧
      files.map Prod.fst = p.files.map fun kind => kind.path p := by
  have hgates : p.gatingFault? = none := by
    unfold Plan.compile at h
    split at h
    · cases h
    · assumption
  obtain ⟨files, hcompile, hfiles⟩ := Plan.exists_compile hgates
  exact ⟨files, Except.ok.inj (h.symm.trans hcompile), hfiles⟩

end ReactScaffold
