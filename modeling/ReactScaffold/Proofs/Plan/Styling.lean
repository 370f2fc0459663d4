import ReactScaffold.Proofs.File.Usage
import ReactScaffold.Proofs.Plan.Imports

/-!
# Styling holds together

What elements refer to is defined by the plan that writes them: style objects in the same file, and
classes in the plain stylesheet. What belongs to another styling does not occur.
-/

namespace ReactScaffold

open Text

/-- Elements are styled by objects that their own file declares, and carry no classes. -/
structure Plan.StyledInline (plan : Plan) : Prop where
  declared (file : String × String) (h : file ∈ plan.files) (name : String)
    (huse : .use name ∈ stylesOf file.2) : .entry name ∈ stylesOf file.2
  plain (file : String × String) (h : file ∈ plan.files) :
    ¬"className=\"".toList <:+: file.2.toList

/-- No file declares style objects or refers to one. -/
def Plan.StyledByClasses (plan : Plan) : Prop := ∀ file ∈ plan.files, stylesOf file.2 = []

/-- The stylesheet that the plan writes has rules for all classes. -/
structure Plan.StyledByRules (plan : Plan) (p : Project) (stylesheet : String) : Prop where
  written : (FileKind.stylesheet.path p, stylesheet) ∈ plan.files
  /-- Class attributes of all files have rules. -/
  attributes (file : String × String) (h : file ∈ plan.files) (value : String)
    (hvalue : value ∈ classNamesOf file.2) : HasRules (selectorsOf stylesheet) value
  /-- The tables of the button are those of the styling, and their classes have rules. -/
  button : ∃ content, (FileKind.button.path p, content) ∈ plan.files ∧
    tableTextsOf content = p.styling.dialect.tableTexts ∧
    ∀ value ∈ tableTextsOf content, HasRules (selectorsOf stylesheet) value

variable {p : Project} {plan : Plan}

theorem Plan.Realizes.isStyled (hplan : plan.Realizes p) (hp : p.Gated) {file : String × String}
    (hfile : file ∈ plan.files) : IsStyled p.styling file.2 := by
  obtain ⟨kind, hkind, -, hrender⟩ := hplan.exists_kind hfile
  exact FileKind.isStyled_of_render hp hkind hrender

theorem Plan.Realizes.styledInline (hplan : plan.Realizes p) (hp : p.Gated)
    (hstyling : p.styling = .none) : plan.StyledInline where
  declared _ h name huse := (hplan.isStyled hp h).declared name huse
  plain file h := by
    have hcue : "className=\"".toList = classCue := by decide
    rw [hcue]
    exact (hplan.isStyled hp h).plain hstyling

theorem Plan.Realizes.styledByClasses (hplan : plan.Realizes p) (hp : p.Gated)
    (hstyling : p.styling ≠ .none) : plan.StyledByClasses := fun _ h =>
  List.eq_nil_iff_forall_not_mem.2 fun m hm => hstyling ((hplan.isStyled hp h).inline m hm)

theorem Plan.Realizes.exists_styledByRules (hplan : plan.Realizes p) (hp : p.Gated)
    (hstyling : p.styling = .vanillaCss) : ∃ stylesheet, plan.StyledByRules p stylesheet := by
  have hwritten : .stylesheet ∈ p.files ∧ .button ∈ p.files := by
    simp [Project.files, Project.stylingFiles]
  obtain ⟨stylesheet, hsheet, hstylesheet⟩ := hplan.exists_content hwritten.1
  obtain ⟨button, hfile, hbutton⟩ := hplan.exists_content hwritten.2
  have hrules {value : String} (hvalue : value ∈ p.styling.dialect.roleClasses ++
      p.styling.dialect.tableTexts) : HasRules (selectorsOf stylesheet) value :=
    FileKind.hasRules_of_render hstyling hstylesheet hvalue
  have htables := FileKind.tableTexts_of_render hstyling hbutton
  refine ⟨stylesheet, hsheet, fun file h value hvalue => ?_, button, hfile, htables,
    fun value hvalue => ?_⟩
  · exact hrules (List.mem_append_left _ ((hplan.isStyled hp h).classes value hvalue))
  · exact hrules (List.mem_append_right _ (htables ▸ hvalue))

/-- In the plan of a project within the gates styling holds together. Without a styling, every style
object that a file refers to is declared in the file, and there are no class attributes. With a
styling by classes there are no style objects. With the plain stylesheet, every class of an
attribute and of the tables of the button has a rule in it. -/
theorem Plan.compile_styled (hgates : p.gatingFault? = none) :
    ∃ plan, Plan.compile p = .ok plan ∧
      (p.styling = .none → plan.StyledInline) ∧
      (p.styling ≠ .none → plan.StyledByClasses) ∧
      (p.styling = .vanillaCss → ∃ stylesheet, plan.StyledByRules p stylesheet) := by
  have hp := Project.gated_of_gatingFault? hgates
  obtain ⟨plan, hcompile, hplan⟩ := Plan.exists_realizes hgates
  exact ⟨plan, hcompile, hplan.styledInline hp, hplan.styledByClasses hp,
    hplan.exists_styledByRules hp⟩

/-- What a template offers in a known case is found in a file of the plan. -/
theorem Plan.exists_usage (kind : FileKind) (known : List Fact) (x : Usage)
    (hcompile : Plan.compile p = .ok plan) (hgates : p.gatingFault? = none) (hkind : kind ∈ p.files)
    (hknown : known.all p.meets = true) (hoffers : ((kind.template p).scan usageReader
      kind.survey).any (fun c => c.offers known fun y => y = x) = true) :
    ∃ file ∈ plan.files, x ∈ usageReader.read file.2.toList := by
  obtain ⟨other, hother, hplan⟩ := Plan.exists_realizes hgates
  obtain rfl := Except.ok.inj (hother.symm.trans hcompile)
  obtain ⟨content, hfile, hcontent⟩ := hplan.exists_content hkind
  obtain ⟨c, hscan, hc⟩ := (Option.any_eq_true _ _).1 hoffers
  obtain ⟨y, hy, heq⟩ := Cases.exists_of_offers hknown hc
  refine ⟨_, hfile, ?_⟩
  rw [FileKind.read_of_scan passesTitles_usageReader hscan hcontent, ← of_decide_eq_true heq]
  exact hy

/-- An application in three stylings: without a styling an element refers to a style object, which
is declared; with Shadcn there are no style objects; and with the plain stylesheet an element has a
class, which has a rule. -/
theorem Plan.compile_styled_app :
    (∃ plan, Plan.compile { appProject with styling := .none } = .ok plan ∧
      ∃ file ∈ plan.files, .use "footer" ∈ stylesOf file.2 ∧ .entry "footer" ∈ stylesOf file.2) ∧
    (∃ plan, Plan.compile appProject = .ok plan ∧ plan.StyledByClasses) ∧
    ∃ plan, Plan.compile { appProject with styling := .vanillaCss } = .ok plan ∧
      ∃ stylesheet, plan.StyledByRules { appProject with styling := .vanillaCss } stylesheet ∧
        ∃ file ∈ plan.files, "footer" ∈ classNamesOf file.2 ∧
          HasRules (selectorsOf stylesheet) "footer" := by
  refine ⟨?_, ?_, ?_⟩
  · have hgates : { appProject with styling := .none }.gatingFault? = none := by decide
    obtain ⟨plan, hcompile, hinline, -, -⟩ := Plan.compile_styled hgates
    obtain ⟨file, hfile, huse⟩ := Plan.exists_usage .footer [.styling .none] (.inr (.use "footer"))
      hcompile hgates (by decide) (by decide) (by decide +kernel)
    have hstyle := mem_stylesOf.2 huse
    exact ⟨plan, hcompile, file, hfile, hstyle, (hinline rfl).declared file hfile _ hstyle⟩
  · obtain ⟨plan, hcompile, -, hclasses, -⟩ := Plan.compile_styled (p := appProject) (by decide)
    exact ⟨plan, hcompile, hclasses (by decide)⟩
  · have hgates : { appProject with styling := .vanillaCss }.gatingFault? = none := by decide
    obtain ⟨plan, hcompile, -, -, hrules⟩ := Plan.compile_styled hgates
    obtain ⟨stylesheet, hstylesheet⟩ := hrules rfl
    obtain ⟨file, hfile, hclass⟩ := Plan.exists_usage .footer [.styling .vanillaCss]
      (.inl (.inl "footer")) hcompile hgates (by decide) (by decide) (by decide +kernel)
    have hvalue := mem_classNamesOf.2 hclass
    exact ⟨plan, hcompile, stylesheet, hstylesheet, file, hfile, hvalue,
      hstylesheet.attributes file hfile _ hvalue⟩

end ReactScaffold
