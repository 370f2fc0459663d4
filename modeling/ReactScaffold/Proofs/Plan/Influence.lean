import ReactScaffold.Proofs.File.Mentions
import ReactScaffold.Proofs.Plan.Compile
import ReactScaffold.Proofs.Template.Fixed

/-!
# What an answer has an influence on

The name of a project shows in a few files, and only as a title. The package manager installs the
packages and is called by two hooks. The icons have packages of their own and show in two files.
Everything else in a plan is the same for all names, all package managers and all icons.
-/

namespace ReactScaffold

open Text

/-! ## Templates of kinds of files -/

namespace FileKind

/-- The templates that a kind of file may have. -/
def templates : FileKind → List Template
  | .stylesheet => (Axis.all : List Styling).map Styling.stylesheetTemplate
  | .eslintConfig => [.nextEslintConfig, .eslintConfig]
  | kind => [kind.template someProject]

theorem template_mem_templates (kind : FileKind) (p : Project) :
    kind.template p ∈ kind.templates := by
  cases kind with
  | stylesheet => exact List.mem_map_of_mem (by cases p.styling <;> decide)
  | eslintConfig =>
    rw [template]
    split_ifs
    · exact List.mem_cons_self
    · exact List.mem_cons_of_mem _ List.mem_cons_self
  | _ => exact List.mem_singleton_self _

/-- Whether all templates of a kind of file mention the name in open pieces only. -/
def isFixed (v : Var) (isOpen : Piece → Bool) (kind : FileKind) : Bool :=
  kind.templates.all fun t => Node.allFixed v isOpen t.body

/-- The kinds of files that show the title of the project. -/
def titled : List FileKind := [.navbar, .footer, .homePage, .aboutPage, .rootLayout]

/-- The kinds of files that call the package manager. -/
def managed : List FileKind := [.huskyPreCommit, .huskyCommitMsg]

/-- The kinds of files that show icons. -/
def iconic : List FileKind := [.navbar, .themeToggle]

/-- The names that stand for answers, each with the kinds of files that mention it. -/
def mentioned : List (Var × List FileKind) :=
  [(.projectName, titled), (.pm, managed), (.icons, iconic)]

end FileKind

/-- Whether a piece shows the title of the project. -/
def Piece.isTitle : Piece → Bool
  | .hole (.title (.var .projectName)) => true
  | _ => false

theorem Piece.shows_title (name : String) :
    Shows .projectName Piece.isTitle (.data (.str name)) (titleCase name) := by
  intro piece hpiece s
  unfold isTitle at hpiece
  split at hpiece
  · rfl
  · cases hpiece

namespace FileKind

theorem isFixed_projectName (kind : FileKind) : kind.isFixed .projectName Piece.isTitle = true := by
  have hall : ∀ kind ∈ (Axis.all : List FileKind),
      kind.isFixed .projectName Piece.isTitle = true := by decide +kernel
  exact hall kind kind.mem_all

/-- All other kinds of files are the same whatever the name stands for. -/
theorem isFixed_of_notMem {v : Var} {kinds : List FileKind} (hv : (v, kinds) ∈ mentioned)
    {kind : FileKind} (hkind : kind ∉ kinds) : kind.isFixed v (fun _ => false) = true := by
  have hall : ∀ e ∈ mentioned, ∀ kind ∈ (Axis.all : List FileKind), kind ∉ e.2 →
      kind.isFixed e.1 (fun _ => false) = true := by decide +kernel
  exact hall _ hv kind kind.mem_all hkind

/-! ## Contents -/

/-- The content of a kind of file in a project. -/
def content (kind : FileKind) (p : Project) : String := (kind.render p).toOption.getD ""

theorem render_eq (kind : FileKind) (p : Project) : kind.render p = .ok (kind.content p) := by
  obtain ⟨t, ht⟩ := kind.exists_render p
  rw [content, ht]
  rfl

theorem allFixed_template {v : Var} {isOpen : Piece → Bool} {kind : FileKind}
    (h : kind.isFixed v isOpen = true) (p : Project) :
    Node.allFixed v isOpen (kind.template p).body = true :=
  List.all_eq_true.1 h _ (kind.template_mem_templates p)

/-- A file has the same content in projects that differ in what a name stands for, if no template
of its kind mentions the name. -/
theorem content_eq_of_isFixed {v : Var} {kind : FileKind}
    (h : kind.isFixed v (fun _ => false) = true) {p q : Project} {s : Scope} {x y : Value}
    (htemplate : kind.template p = kind.template q) (hp : kind.scope p = s.set v x)
    (hq : kind.scope q = s.set v y) : kind.content p = kind.content q := by
  rw [content, content, render, render, htemplate, hp, hq,
    Template.render_set (allFixed_template h q) s x y]

variable (kind : FileKind) (p : Project)

theorem scope_name (name : ProjectName) :
    kind.scope { p with name } = (kind.scope p).set .projectName (.data (.str name.text)) := by
  funext v
  cases v <;> rfl

theorem scope_packageManager (m : PackageManager) :
    kind.scope { p with packageManager := m } =
      (kind.scope p).set .pm (.dialect (.manager m.commands)) := by
  funext v
  cases v <;> rfl

theorem scope_icons (i : Icons) :
    kind.scope { p with icons := i } = (kind.scope p).set .icons (.dialect (.icons i.dialect)) := by
  funext v
  cases v <;> rfl

/-- The content of a file is one pattern, filled with the title of the project. The pattern has
places for the title in a few kinds of files only. -/
theorem exists_pattern : ∃ pattern : Pattern, (kind ∉ titled → none ∉ pattern) ∧
    ∀ name : ProjectName, kind.content { p with name } = pattern.fill (titleCase name.text) := by
  by_cases htitled : kind ∈ titled
  · obtain ⟨r, hr⟩ := Template.woven (allFixed_template kind.isFixed_projectName p) (kind.scope p)
    have hrender (name : ProjectName) :
        kind.render { p with name } = r.map (Pattern.fill (titleCase name.text)) := by
      rw [render, scope_name]
      exact hr _ _ (Piece.shows_title name.text)
    obtain ⟨pattern, rfl, -⟩ := map_eq_ok ((hrender p.name).symm.trans (kind.render_eq p))
    refine ⟨pattern, fun hnot => absurd htitled hnot, fun name => ?_⟩
    rw [content, hrender]
    rfl
  · -- Without a title, the pattern is the content as a whole.
    refine ⟨.ofText (kind.content p), fun _ => by simp [Pattern.ofText], fun name => ?_⟩
    rw [Pattern.fill_ofText]
    exact content_eq_of_isFixed (isFixed_of_notMem (v := .projectName) (by decide) htitled) rfl
      (kind.scope_name p name) (kind.scope_name p p.name)

end FileKind

/-! ## Plans -/

namespace Project

/-- The steps of a project with the batches and the contents that are given, the batches being
installed by a package manager. -/
def stepsBy (p : Project) (manager : PackageManager) (batches : List Batch)
    (content : FileKind → String) : List Step :=
  p.directories.map .ensureDirectory ++
    batches.map (fun b => .installDependencies manager b.packages b.description) ++
    p.files.map (fun kind => .writeFile (kind.path p) (content kind)) ++
    [.mergeManifestScripts p.scripts manifestPath]

theorem compile_eq {p : Project} (hgates : p.gatingFault? = none) :
    Plan.compile p = .ok ⟨p.stepsBy p.packageManager p.batches fun kind => kind.content p⟩ := by
  have hwrites : p.writeSteps =
      .ok (p.files.map fun kind => .writeFile (kind.path p) (kind.content p)) := by
    simp only [writeSteps, FileKind.render_eq]
    exact List.mapM_pure
  rw [Plan.compile, hgates]
  dsimp only
  rw [hwrites]
  rfl

/-- The name, the package manager and the icons of a project have an influence on their own part of
the plan only, the other answers staying as they are. -/
structure Separates (p : Project) : Prop where
  /-- Contents are fixed texts with the title of the project put in, in a few files only. -/
  names : ∃ pattern : FileKind → Pattern, (∀ kind ∉ FileKind.titled, none ∉ pattern kind) ∧
    ∀ name : ProjectName, Plan.compile { p with name } = .ok ⟨p.stepsBy p.packageManager p.batches
      fun kind => (pattern kind).fill (titleCase name.text)⟩
  /-- The package manager installs the same batches, and changes the hooks only. -/
  managers : ∃ content : PackageManager → FileKind → String,
    (∀ kind ∉ FileKind.managed, ∀ m m', content m kind = content m' kind) ∧
    ∀ m, Plan.compile { p with packageManager := m } = .ok ⟨p.stepsBy m p.batches (content m)⟩
  /-- The icons have a batch of their own, and change two files only. -/
  icons : ∃ (before after : List Batch) (content : Icons → FileKind → String),
    (∀ kind ∉ FileKind.iconic, ∀ i j, content i kind = content j kind) ∧
    ∀ i, Plan.compile { p with icons := i } = .ok ⟨p.stepsBy p.packageManager
      (before ++ ({ p with icons := i } : Project).iconBatch?.toList ++ after) (content i)⟩

theorem batches_eq (p : Project) : p.batches =
    [p.stylingBatch?, p.stateBatch?].filterMap id ++ p.iconBatch?.toList ++
      [p.routingBatch?, p.apiClientBatch?, p.testingBatch?, p.codeQualityBatch?].filterMap id := by
  rw [batches]
  cases p.stylingBatch? <;> cases p.stateBatch? <;> cases p.iconBatch? <;> rfl

/-- What an answer has no influence on is the same for all values of the answer. -/
theorem separates {p : Project} (hgates : p.gatingFault? = none) : p.Separates where
  names := by
    choose pattern hplaces hpattern using fun kind : FileKind => kind.exists_pattern p
    refine ⟨pattern, hplaces, fun name => ?_⟩
    have hcompile := compile_eq (p := { p with name }) hgates
    simp only [hpattern] at hcompile
    exact hcompile
  managers := by
    refine ⟨fun m kind => kind.content { p with packageManager := m }, fun kind hkind m m' => ?_,
      fun m => compile_eq (p := { p with packageManager := m }) hgates⟩
    exact FileKind.content_eq_of_isFixed
      (FileKind.isFixed_of_notMem (v := .pm) (by decide) hkind) rfl
      (kind.scope_packageManager p m) (kind.scope_packageManager p m')
  icons := by
    refine ⟨[p.stylingBatch?, p.stateBatch?].filterMap id,
      [p.routingBatch?, p.apiClientBatch?, p.testingBatch?, p.codeQualityBatch?].filterMap id,
      fun i kind => kind.content { p with icons := i }, fun kind hkind i j => ?_, fun i => ?_⟩
    · exact FileKind.content_eq_of_isFixed
        (FileKind.isFixed_of_notMem (v := .icons) (by decide) hkind) rfl
        (kind.scope_icons p i) (kind.scope_icons p j)
    · have hcompile := compile_eq (p := { p with icons := i }) hgates
      rw [batches_eq] at hcompile
      exact hcompile

/-- A styled project with all switches on. -/
theorem separates_someProject : ({ someProject with
    tailwindVersion := some .v4, codeQuality := true, testing := true, apiClient := true } :
      Project).Separates :=
  separates rfl

end Project

end ReactScaffold
