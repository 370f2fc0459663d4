import ReactScaffold.Proofs.CommandLine.Routes
import ReactScaffold.Proofs.CommandLine.Saving
import ReactScaffold.Proofs.Text.NormalForm
import ReactScaffold.Proofs.Text.Titles

/-!
# What a project name is good for

The name of a project is a word of the command that creates the base project, and its title stands
in the files. It is good for both if it does not begin with a hyphen and has a letter or a digit. No
way to a project asks for either, so that each name which is one gets as far as the command and the
files (`Project.name_use`).
-/

namespace ReactScaffold

open ReactScaffold.Action Text

namespace Project

/-! ## The name in the command -/

/-- The words of the command that creates the base project in front of the name. -/
def beforeName (p : Project) : List String :=
  match p.framework with
  | .reactVite => p.packageManager.commands.createVite
  | .nextjs => p.packageManager.commands.dlx ++ ["create-next-app@latest"]

/-- The words of the command that creates the base project behind the name. -/
def afterName (p : Project) : List String :=
  match p.framework with
  | .reactVite =>
    (if p.packageManager.commands.createViteSeparator then ["--"] else []) ++
      ["--template", p.viteTemplate]
  | .nextjs =>
    [if p.isTypescript then "--ts" else "--js", if p.isAppRouter then "--app" else "--no-app",
      "--src-dir", "--no-tailwind", "--eslint", "--import-alias", "@/*",
      p.packageManager.commands.nextFlag, "--yes"]

variable (p : Project)

theorem createCommand_eq : p.createCommand = p.beforeName ++ p.name.text :: p.afterName := by
  unfold createCommand beforeName afterName
  cases p.framework with
  | reactVite => simp
  | nextjs => simp

theorem getElem?_createCommand :
    p.createCommand[p.beforeName.length]? = some p.name.text := by
  rw [createCommand_eq, List.getElem?_append_right le_rfl, Nat.sub_self, List.getElem?_cons_zero]

/-- Nothing in front of the name is an option, or the mark after which there are none. -/
theorem head?_ne_of_mem_beforeName : ∀ word ∈ p.beforeName, word.toList.head? ≠ some '-' := by
  unfold beforeName
  cases p.framework <;> cases p.packageManager <;> decide

/-! ## Names that are good for both uses -/

/-- The project can be created under its name and shown under its title: the word of the command
that is the name is an operand and not an option, and the title is not empty. -/
structure Usable : Prop where
  isOperand : ∃ word, p.createCommand[p.beforeName.length]? = some word ∧
    word.toList.head? ≠ some '-'
  title_ne : titleCase p.name.text ≠ ""

theorem titleCase_ne_iff (name : ProjectName) :
    titleCase name.text ≠ "" ↔ ∃ c ∈ name.text.toList, c.isAlphanum = true := by
  have hvalid := name.valid
  rw [isProjectName, Bool.and_eq_true, List.all_eq_true] at hvalid
  rw [ne_eq, titleCase_eq_empty_iff]
  push Not
  refine exists_congr fun c => and_congr_right fun hc => ?_
  rw [← isSeparator_eq_false_iff (hvalid.2 c hc), ne_eq, Bool.not_eq_true]

theorem usable_iff :
    p.Usable ↔ p.name.text.toList.head? ≠ some '-' ∧
      ∃ c ∈ p.name.text.toList, c.isAlphanum = true := by
  rw [← titleCase_ne_iff]
  constructor
  · rintro ⟨⟨word, hword, hhead⟩, htitle⟩
    obtain rfl := Option.some.inj (p.getElem?_createCommand.symm.trans hword)
    exact ⟨hhead, htitle⟩
  · rintro ⟨hhead, htitle⟩
    exact ⟨⟨_, p.getElem?_createCommand, hhead⟩, htitle⟩

/-! ## Ways to a project -/

/-- After two dashes a name is read from the command line, whatever it begins with. -/
theorem parse_dashes (text : String) :
    Invocation.parse ["--", text] = .ok { answers := [("project_name", .str text)] } := rfl

theorem gives_name : Gives [("project_name", .str p.name.text)] p := by
  intro name v hv
  obtain ⟨hget, -⟩ := given?_eq_some_iff.1 hv
  obtain ⟨rfl, rfl⟩ : name = "project_name" ∧ v = .str p.name.text := by
    simpa using OrderedMap.mem_of_get?_eq_some hget
  rfl

/-- The ways to a project: its name on the command line and the other answers at the prompts, all
answers at the prompts, and the file that it is saved in. -/
structure Reached : Prop where
  named (h : p.gatingFault? = none) : ∃ i, Invocation.parse ["--", p.name.text] = .ok i ∧
    ∀ settings, (Session.resolveProject i settings).Takes
      (p.exchanges settings.defaultPackageManager i.answers) [p.collected] p
  typed (h : p.gatingFault? = none) : ∃ i, Invocation.parse [] = .ok i ∧
    ∀ settings, (Session.resolveProject i settings).Takes
      (p.exchanges settings.defaultPackageManager []) [p.collected] p
  saved {s : Session} {path : Path} (hpath : Session.Admissible path)
    (h : s.disk.readFile s.cwd path = .ok (Utf8.encode p.savedText.toList)) (settings : Settings) :
    (Session.resolveProject { replayFrom := some (.path path) } settings).perform s = (.ok p, s)

theorem reached : p.Reached where
  named h := ⟨_, parse_dashes _, takes_resolveProject h _ p.gives_name⟩
  typed h := ⟨{}, rfl, takes_resolveProject h [] nofun⟩
  saved hpath h settings := by
    have hload := Session.perform_loadProject_of_readFile hpath h
    rw [Session.perform_resolveProject_of_replayFrom settings rfl hload]
    rfl

/-- What becomes of the name of a project, which every way leads to. -/
structure NameUse : Prop where
  createCommand_eq (name : ProjectName) :
    { p with name }.createCommand = p.beforeName ++ name.text :: p.afterName
  operands_before : ∀ word ∈ p.beforeName, word.toList.head? ≠ some '-'
  usable_iff : p.Usable ↔ p.name.text.toList.head? ≠ some '-' ∧
    ∃ c ∈ p.name.text.toList, c.isAlphanum = true
  reached : p.Reached

/-- The command that creates the base project has the name as a word of its own among words that do
not depend on it. A project is usable if its name does not begin with a hyphen and has a letter or a
digit; but it is reached under every name. -/
theorem name_use : p.NameUse where
  createCommand_eq name := createCommand_eq { p with name }
  operands_before := p.head?_ne_of_mem_beforeName
  usable_iff := p.usable_iff
  reached := p.reached

/-- A name that is good for both uses, on the command line, at the prompt, and in a file. -/
theorem name_use_pages :
    pagesProject.gatingFault? = none ∧ pagesProject.Usable ∧
      (∃ i, Invocation.parse ["--", "my-shop_2"] = .ok i ∧
        (Session.resolveProject i {}).Takes (pagesProject.exchanges .npm i.answers)
          [pagesProject.collected] pagesProject) ∧
      ∃ path s, (Session.saveProject pagesProject path).perform {} = (.ok (), s) ∧
        (Session.resolveProject { replayFrom := some (.path path) } {}).perform s =
          (.ok pagesProject, s) := by
  have hgates : pagesProject.gatingFault? = none := by decide
  obtain ⟨-, -, husable, hreached⟩ := name_use pagesProject
  obtain ⟨i, hi, hresolve⟩ := hreached.named hgates
  obtain ⟨path, s, hsave⟩ : ∃ path s,
      (Session.saveProject pagesProject path).perform {} = (.ok (), s) :=
    ⟨Path.ofText "answers.json", _, Session.perform_eq_of_isOk (by decide +kernel)⟩
  obtain ⟨hpath, hfile⟩ := Session.readFile_of_saveProject hsave
  exact ⟨hgates, husable.2 ⟨by decide, 'm', by decide, by decide⟩, ⟨i, hi, hresolve {}⟩, path, s,
    hsave, hreached.saved hpath hfile {}⟩

/-- A project whose name is an option of the tool that is to create it. -/
def helpProject : Project where
  name := ⟨"--help", rfl⟩
  tailwindVersion := some .v3

/-- A project whose name has no word. -/
def wordlessProject : Project where
  name := ⟨"_", rfl⟩
  tailwindVersion := some .v3

/-- The lines that answer all questions but the first with their defaults. -/
def plainLines : List String :=
  ["react-vite", "typescript", "npm", "tailwind", "v3", "none", "none", "n", "n", "n"]

/-- Two names that are good for one use and not for the other: the first is given on the command
line and the second typed at the prompt. -/
theorem name_unusable :
    (∃ i, Invocation.parse ["--", "--help"] = .ok i ∧
      ((Session.resolveProject i {}).perform { input := plainLines.map some }).1 =
        .ok helpProject) ∧
    helpProject.createCommand =
      ["npm", "create", "vite@latest", "--help", "--", "--template", "react-ts"] ∧
    ¬ helpProject.Usable ∧
    ((Session.resolveProject {} {}).perform { input := ("_" :: plainLines).map some }).1 =
      .ok wordlessProject ∧
    titleCase wordlessProject.name.text = "" ∧ ¬ wordlessProject.Usable := by
  have htitle : titleCase wordlessProject.name.text = "" := by decide +kernel
  obtain ⟨i, hi, hnamed⟩ := helpProject.reached.named (by decide)
  obtain ⟨j, hj, htyped⟩ := wordlessProject.reached.typed (by decide)
  obtain rfl : {} = j := Except.ok.inj hj
  refine ⟨⟨i, hi, ?_⟩, rfl, fun h => ?_, ?_, htitle, fun h => h.title_ne htitle⟩
  · obtain rfl := Except.ok.inj ((parse_dashes _).symm.trans hi)
    rw [hnamed {} _ [] rfl]
  · obtain ⟨word, hword, hhead⟩ := h.isOperand
    obtain rfl : "--help" = word := Option.some.inj hword
    exact hhead rfl
  · rw [htyped {} _ [] rfl]

end Project

end ReactScaffold
