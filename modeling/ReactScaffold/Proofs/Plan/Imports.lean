import ReactScaffold.Proofs.File.Wiring
import ReactScaffold.Proofs.Plan.Contents

/-!
# Local imports resolve inside the plan

A file imports modules of its own project by relative names, or behind the sign for the sources. The
names that such a module denotes lead to a file that the same plan writes, once an extension or the
name of an index is added. Both the imports and the files are known by cases, so that it is enough
to look at each import in each case.
-/

namespace ReactScaffold

open Text

/-! ## Where a module is looked for -/

/-- Whether the module is given by its place among the sources. -/
def isAliased (m : List Char) : Bool := ['@', '/'].isPrefixOf m

/-- Whether the module is given by its place relative to the file that imports it. -/
def isRelative (m : List Char) : Bool :=
  ['.', '/'].isPrefixOf m || ['.', '.', '/'].isPrefixOf m

/-- The names along which a text leads. -/
def partsOf (cs : List Char) : List String :=
  ((splitSlashes cs).filter isPathPart).map String.ofList

/-- Follows names from a folder. Double dots lead out of a folder, but not out of the project. -/
def follow? (folder : List String) : List String → Option (List String)
  | [] => some folder
  | name :: names =>
    if name = ".." then (if folder = [] then none else follow? folder.dropLast names)
    else follow? (folder ++ [name]) names

/-- The names that a local module denotes when it is imported from a folder. -/
def denoted? (folder : List String) (m : List Char) : Option (List String) :=
  if isAliased m then follow? ["src"] (partsOf (m.drop 2)) else follow? folder (partsOf m)

/-- The extensions that the name of a module leaves out. -/
def moduleExtensions : List String := [".ts", ".tsx", ".js", ".jsx"]

/-- The files that are looked for under the names of a module: the module as it stands if it is a
stylesheet, the module with an extension, and the index of the folder of this name. -/
def moduleFiles (names : List String) : List (List String) :=
  let last := names.getLastD ""
  (if ['.', 'c', 's', 's'].isSuffixOf (charsOf last) then [names] else []) ++
    moduleExtensions.map (fun ext => names.dropLast ++ [last ++ ext]) ++ [names ++ ["index.ts"]]

/-- The module that a file imports is a file of the plan. -/
def Plan.Resolves (plan : Plan) (importer : String) (m : List Char) : Prop :=
  ∃ names, denoted? (namesOf importer).dropLast m = some names ∧
    ∃ path ∈ OrderedMap.keys plan.files, namesOf path ∈ moduleFiles names

example : ["src/store/useAuth.ts", "src/types/index.ts"].map namesOf =
    [["src", "store", "useAuth.ts"], ["src", "types", "index.ts"]] ∧
    denoted? ["src", "store"] "../types".toList = some ["src", "types"] ∧
    ["src", "types", "index.ts"] ∈ moduleFiles ["src", "types"] := by
  decide +kernel

/-! ## Mentions by cases -/

/-- What the files of a project mention, by cases, each with the kind of file. -/
def mentionCases : Cases (FileKind × Mention) :=
  fileCases.bind fun kind => kind.mentions.map fun m => (kind, m)

variable {p : Project} {plan : Plan}

/-- What is mentioned in a file is listed in a case that applies. -/
theorem Plan.Realizes.exists_mention (hplan : plan.Realizes p) (hp : p.Gated)
    {file : String × String} (hfile : file ∈ plan.files) {m : Mention}
    (hm : m ∈ mentionReader.read file.2.toList) :
    ∃ kind, kind.path p = file.1 ∧ (kind, m) ∈ mentionCases.given p := by
  obtain ⟨kind, hkind, hpath, hrender⟩ := hplan.exists_kind hfile
  rw [FileKind.read_of_render hrender] at hm
  refine ⟨kind, hpath, ?_⟩
  rw [mentionCases, Cases.given_bind, List.mem_flatMap]
  refine ⟨kind, by rwa [← Project.files_eq hp], ?_⟩
  rw [Cases.given_map]
  exact List.mem_map_of_mem hm

/-- Whether a local import leads to a file that is written in the same case, and is given by its
place among the sources in Next.js projects alone. -/
def resolvesIn (f : Flavor) (known : List Fact) : FileKind × Mention → Bool
  | (kind, .inl name) =>
    let m := charsOf name
    if isAliased m || isRelative m then
      (!isAliased m || known.contains (.has .nextjs)) &&
        (denoted? (kind.folder f).names m).any fun names => fileCases.offers known fun target =>
          (moduleFiles names).contains (Folder.leadTo (target.entry f))
    else true
  | (_, .inr _) => true

/-- Every local import resolves in its case. -/
def resolution : mentionCases.Check where
  test := resolvesIn
  always := by decide +kernel

theorem Plan.Realizes.resolves (hplan : plan.Realizes p) (hp : p.Gated) {file : String × String}
    (hfile : file ∈ plan.files) {m : String} (hm : m ∈ importsOf file.2)
    (hlocal : (isAliased m.toList || isRelative m.toList) = true) :
    plan.Resolves file.1 m.toList ∧ (isAliased m.toList = true → p.isNextjs = true) := by
  obtain ⟨kind, hpath, hmem⟩ := hplan.exists_mention hp hfile (mem_importsOf.1 hm)
  obtain ⟨known, hknown, htest⟩ := resolution.always.exists_facts hmem
  change resolvesIn p.flavor known (kind, .inl m) = true at htest
  rw [resolvesIn, charsOf_eq, if_pos hlocal, Bool.and_eq_true] at htest
  obtain ⟨halias, htarget⟩ := htest
  refine ⟨?_, fun haliased => ?_⟩
  · obtain ⟨names, hnames, hoffers⟩ := (Option.any_eq_true _ _).1 htarget
    obtain ⟨target, htarget, hmember⟩ := Cases.exists_of_offers hknown hoffers
    refine ⟨names, ?_, target.path p, ?_, ?_⟩
    · rw [← hpath, kind.namesOf_path, Folder.leadTo, List.dropLast_concat]
      exact hnames
    · exact hplan.path_mem (by rwa [Project.files_eq hp])
    · rw [target.namesOf_path]
      simpa using hmember
  · rw [haliased, Bool.not_true, Bool.false_or] at halias
    exact List.all_eq_true.1 hknown _ (by simpa using halias)

/-! ## Files that configurations name -/

/-- The kinds of files that a configuration names. -/
def FileKind.named : FileKind → List FileKind
  | .vitestConfig => [.testSetup]
  | .shadcnConfig => [.tailwindConfig, .stylesheet]
  | _ => []

theorem fileCases_named : fileCases.Always fun _ known kind =>
    kind.named.all fun other => fileCases.offers known fun target => target = other := by
  decide +kernel

/-- A project has the files that its configurations name. -/
theorem Project.mem_files_of_named (hp : p.Gated) {kind other : FileKind} (h : kind ∈ p.files)
    (hnamed : other ∈ kind.named) : other ∈ p.files := by
  rw [files_eq hp] at h ⊢
  obtain ⟨known, hknown, htest⟩ := fileCases_named.exists_facts h
  obtain ⟨target, htarget, heq⟩ :=
    Cases.exists_of_offers hknown (List.all_eq_true.1 htest other hnamed)
  rwa [← of_decide_eq_true heq]

/-- The set-up file of the tests, as the configuration names it. -/
theorem denoted?_setupFiles {name : String} (h : name ∈ setupFiles.given p) :
    denoted? [] name.toList = some (namesOf (FileKind.testSetup.path p)) := by
  have hall : setupFiles.Always fun f _ name => denoted? [] (charsOf name) =
      some (Folder.leadTo (FileKind.testSetup.entry f)) := by decide +kernel
  obtain ⟨-, -, htest⟩ := hall.exists_facts h
  rw [FileKind.namesOf_path, ← charsOf_eq]
  exact of_decide_eq_true htest

theorem length_setupFiles (p : Project) : (setupFiles.given p).length = 1 := by
  rw [setupFiles, Cases.given_append, Cases.given_of, Cases.given_of]
  cases h : p.has .typescript
  all_goals simp [Project.meets, h]

/-- In the plan of a project within the gates every local module that a file imports is written by
the plan, and so are the set-up file that the configuration of the tests names and the two files
that the configuration of Shadcn names. Modules are given by their place among the sources in
Next.js projects alone. -/
theorem Plan.compile_imports_resolve (hgates : p.gatingFault? = none) :
    ∃ plan, Plan.compile p = .ok plan ∧
      (∀ file ∈ plan.files, ∀ m ∈ importsOf file.2,
        (isAliased m.toList || isRelative m.toList) = true → plan.Resolves file.1 m.toList) ∧
      (∀ file ∈ plan.files, ∀ m ∈ importsOf file.2, isAliased m.toList = true →
        p.framework = .nextjs) ∧
      (∀ content, (FileKind.vitestConfig.path p, content) ∈ plan.files →
        ∃ name, itemsBehind setupList content = [name] ∧
          ∃ path ∈ OrderedMap.keys plan.files,
            denoted? (namesOf (FileKind.vitestConfig.path p)).dropLast name.toList =
              some (namesOf path)) ∧
      ∀ content, (FileKind.shadcnConfig.path p, content) ∈ plan.files →
        ∃ config ∈ OrderedMap.keys plan.files, ∃ stylesheet ∈ OrderedMap.keys plan.files,
          textIn content.toList ["tailwind", "config"] = some config ∧
            textIn content.toList ["tailwind", "css"] = some stylesheet := by
  have hp := Project.gated_of_gatingFault? hgates
  obtain ⟨plan, hcompile, hplan⟩ := Plan.exists_realizes hgates
  refine ⟨plan, hcompile, fun file hfile m hm hlocal => (hplan.resolves hp hfile hm hlocal).1,
    fun file hfile m hm haliased => ?_, fun content hfile => ?_, fun content hfile => ?_⟩
  · have hlocal : (isAliased m.toList || isRelative m.toList) = true := by rw [haliased]; rfl
    exact of_decide_eq_true ((hplan.resolves hp hfile hm hlocal).2 haliased)
  · obtain ⟨hkind, hrender⟩ := hplan.render_of_mem hfile
    obtain ⟨name, hname⟩ := List.length_eq_one_iff.1 (length_setupFiles p)
    have hroot : (namesOf (FileKind.vitestConfig.path p)).dropLast = [] := by
      rw [FileKind.namesOf_path]
      rfl
    refine ⟨name, by rw [FileKind.setupFiles_of_render hrender, hname],
      FileKind.testSetup.path p, ?_, ?_⟩
    · exact hplan.path_mem (Project.mem_files_of_named hp hkind (by decide))
    · rw [hroot]
      exact denoted?_setupFiles (by rw [hname]; exact List.mem_singleton_self name)
  · obtain ⟨hkind, hrender⟩ := hplan.render_of_mem hfile
    obtain ⟨hconfig, hstylesheet⟩ := FileKind.textIn_of_render hrender
    exact ⟨_, hplan.path_mem (Project.mem_files_of_named hp hkind (by decide)),
      _, hplan.path_mem (Project.mem_files_of_named hp hkind (by decide)), hconfig, hstylesheet⟩

/-- A project in which modules are given by their place among the sources. -/
def appProject : Project where
  name := ⟨"import_from-require", by decide⟩
  framework := .nextjs
  router := some .app
  styling := .shadcn
  stateManagement := .tanstackQuery
  apiClient := true
  testing := true

/-- A hook imports the client of the API, which is written. -/
theorem Plan.compile_imports_resolve_app :
    appProject.gatingFault? = none ∧ ∃ plan, Plan.compile appProject = .ok plan ∧
      ∃ file ∈ plan.files, file.1 = FileKind.currentUserHook.path appProject ∧
        "@/lib/api" ∈ importsOf file.2 ∧ plan.Resolves file.1 "@/lib/api".toList := by
  have hgates : appProject.gatingFault? = none := by decide
  obtain ⟨plan, hcompile, hresolve, -⟩ := Plan.compile_imports_resolve hgates
  obtain ⟨other, hother, hplan⟩ := Plan.exists_realizes hgates
  obtain rfl := Except.ok.inj (hother.symm.trans hcompile)
  obtain ⟨content, hcontent⟩ := FileKind.currentUserHook.exists_render appProject
  have hfile := (hplan.mem_files _ content).2 ⟨.currentUserHook, by decide, rfl, hcontent⟩
  have hm : "@/lib/api" ∈ importsOf content := by
    rw [mem_importsOf, FileKind.read_of_render hcontent, Cases.mem_given]
    exact ⟨[.has .apiClient, .has .nextjs], by simp [FileKind.mentions], by decide⟩
  exact ⟨hgates, _, hcompile, _, hfile, rfl, hm, hresolve _ hfile _ hm (by decide)⟩

end ReactScaffold
