import ReactScaffold.File.Content
import ReactScaffold.Proofs.Template.Render

/-!
# Every file has a content

What a template sees has the same shapes in every project, and with these shapes every template is
checked. So each kind of file can be rendered in each project.
-/

namespace ReactScaffold

/-- The shapes of the names that a template of a file sees. -/
def FileKind.context : Context
  | .fw => some (.dialect .framework)
  | .lang => some (.dialect .language)
  | .ts => some (.method .typeMark)
  | .style => some (.dialect .styling)
  | .icons => some (.dialect .icons)
  | .pm => some (.dialect .manager)
  | .projectName | .srcRoot | .componentName | .stylesheetPath | .tailwindConfigPath => some .text
  | .typescript | .isVite | .isAppRouter | .useClient | .usesTailwind | .shadcn | .tailwindV4
  | .themeToggle | .redux | .zustand | .tanstack | .protectedRoute | .providers | .apiClient
  | .testing => some .datum
  | .stackFeatures => some .list
  | .iconImport | .entryName | .entryValue | .feature | .pattern | .token => none

theorem FileKind.scope_conforms (kind : FileKind) (p : Project) :
    (kind.scope p).Conforms context := by
  intro v sh h
  cases v
  all_goals first | exact ⟨_, rfl, Value.has_of_shape? h⟩ | cases h

theorem Styling.stylesheetTemplate_checks (styling : Styling) :
    styling.stylesheetTemplate.checks FileKind.context = true := by
  cases styling
  all_goals decide

/-- The template of each kind of file is checked. -/
theorem FileKind.template_checks (kind : FileKind) (p : Project) :
    (kind.template p).checks context = true := by
  cases kind with
  | stylesheet => exact p.styling.stylesheetTemplate_checks
  | eslintConfig =>
      rw [template]
      split_ifs
      · decide
      · decide
  | _ => rfl

/-- Every kind of file can be rendered in every project. -/
theorem FileKind.exists_render (kind : FileKind) (p : Project) :
    ∃ text, kind.render p = .ok text :=
  Template.exists_render (kind.scope_conforms p) (kind.template_checks p)

end ReactScaffold
