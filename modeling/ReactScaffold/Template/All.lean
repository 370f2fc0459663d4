import ReactScaffold.Host.Path
import ReactScaffold.Template.Components
import ReactScaffold.Template.Config
import ReactScaffold.Template.Entry
import ReactScaffold.Template.Pages
import ReactScaffold.Template.Quality
import ReactScaffold.Template.Shared
import ReactScaffold.Template.State
import ReactScaffold.Template.Styles
import ReactScaffold.Template.Testing

/-!
# All templates

Templates are found by name. A name is taken apart at slashes; empty parts and single dots do not
matter, and a double dot is refused because it might lead outside.
-/

namespace ReactScaffold

namespace Template

/-- All templates. -/
def all : List Template := [
  button, navbar, footer, layout, themeToggle, protectedRoute, app, appRoutes, rootLayout,
  providers, customApp, homePage, aboutPage, dashboardPage, zustandStore, reduxSlice, reduxStore,
  reduxHooks, queryClient, currentUserHook, localStorageHook, utilities, types, apiClient,
  classNames, envExample, tailwindConfig, postcssConfig, shadcnConfig, viteConfig, eslintConfig,
  nextEslintConfig, prettierConfig, prettierIgnore, lintStagedConfig, commitlintConfig,
  preCommitHook, commitMsgHook, vitestConfig, testSetup, buttonTest, tailwindStyles,
  shadcnStyles, vanillaStyles, plainStyles
]

/-- The parts of a template name that lead somewhere. -/
def nameParts (name : String) : List (List Char) :=
  (splitSlashes name.toList).filter isPathPart

/-- The template of the given name. -/
def find (name : String) : Except TemplateFault Template :=
  let parts := nameParts name
  if parts.contains ['.', '.'] then .error (.outsideTemplate name)
  else
    match all.find? fun t => nameParts t.name == parts with
    | some t => .ok t
    | none => .error (.unknownTemplate name)

end Template

end ReactScaffold
