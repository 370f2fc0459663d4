import ReactScaffold.Project.Choices

/-!
# Styling dialects

A styling says how the elements of the layout and of the pages look. Each element plays a role.
Styling by classes gives every role a list of class names; inline styling gives it a style object,
and the objects that a file uses stand in a constant at its head.
-/

namespace ReactScaffold

/-- The parts that the elements of layouts and pages play. -/
inductive Role where
  | layout
  | main
  | navbar
  | navbarInner
  | brand
  | navLinks
  | navLink
  | navActions
  | menuButton
  | mobileMenu
  | mobileLink
  | themeToggle
  | footer
  | page
  | pageTitle
  | pageText
  | pageActions
deriving DecidableEq, Repr

namespace Role

/-- All roles, in the order of the page from top to bottom. -/
def all : List Role := [
  .layout, .main, .navbar, .navbarInner, .brand, .navLinks,
  .navLink, .navActions, .menuButton, .mobileMenu, .mobileLink, .themeToggle,
  .footer, .page, .pageTitle, .pageText, .pageActions
]

/-- The name of a role in generated sources. -/
def name : Role → String
  | .layout => "layout"
  | .main => "main"
  | .navbar => "navbar"
  | .navbarInner => "navbar_inner"
  | .brand => "brand"
  | .navLinks => "nav_links"
  | .navLink => "nav_link"
  | .navActions => "nav_actions"
  | .menuButton => "menu_button"
  | .mobileMenu => "mobile_menu"
  | .mobileLink => "mobile_link"
  | .themeToggle => "theme_toggle"
  | .footer => "footer"
  | .page => "page"
  | .pageTitle => "page_title"
  | .pageText => "page_text"
  | .pageActions => "page_actions"

/-- The role of the given name. -/
def ofName? (s : String) : Option Role := all.find? fun r => r.name == s

end Role

/-- Whether a styling gives class names or style objects. -/
inductive StyleMode where
  | classes
  | inline
deriving DecidableEq, Repr

/-- The word for a mode. -/
def StyleMode.name : StyleMode → String
  | .classes => "class"
  | .inline => "inline"

/-- How one styling is written in generated sources. -/
structure StylingDialect where
  mode : StyleMode
  stylesheetTemplate : String
  role : Role → String
  buttonBase : String
  buttonVariants : List (String × String)
  buttonSizes : List (String × String)
  usesTailwind : Bool

namespace StylingDialect

/-- Whether style objects are used. -/
def isInline (f : StylingDialect) : Bool := f.mode = .inline

/-- The attribute that styles an element by the constant's entry of the given name. -/
def inlineAttr (entry : String) : String := r#"style={styles."# ++ entry ++ r#"}"#

/-- The attribute that gives an element its class names. -/
def classAttr (classes : String) : String := "className=\"" ++ classes ++ "\""

/-- The attribute that styles an element of the given role. -/
def attr (f : StylingDialect) (r : Role) : String :=
  if f.isInline then inlineAttr r.name else classAttr (f.role r)

/-- An entry of a table of the button: a style object, or class names in quotes. -/
def value (f : StylingDialect) (text : String) : String :=
  if f.isInline then text else "'" ++ text ++ "'"

/-- The type of the entries of the button's tables. -/
def buttonValueType (f : StylingDialect) : String :=
  if f.isInline then "React.CSSProperties" else "string"

/-- The constant that holds the style objects of the given roles, and an empty line after it.
Styling by classes needs none. -/
def stylesBlock (f : StylingDialect) (roles : List Role) (annotate : Bool) : String :=
  if f.isInline then
    let typeMark := if annotate then ": Record<string, React.CSSProperties>" else ""
    let entry (r : Role) : String := "  " ++ r.name ++ ": " ++ f.role r ++ ",\n"
    "const styles" ++ typeMark ++ " = \x7b\n" ++ String.join (roles.map entry) ++
      "\x7d;\n\n"
  else ""

end StylingDialect

/-- Tailwind classes of each role. -/
def tailwindRoles : Role → String
  | .layout =>
    "flex min-h-screen flex-col bg-white text-gray-900 dark:bg-gray-950 dark:text-gray-100"
  | .main => "flex-1"
  | .navbar => "border-b border-gray-200 bg-white dark:border-gray-800 dark:bg-gray-900"
  | .navbarInner => "mx-auto flex h-16 max-w-6xl items-center justify-between px-4"
  | .brand => "text-lg font-semibold text-gray-900 dark:text-white"
  | .navLinks => "hidden items-center gap-6 md:flex"
  | .navLink =>
    "text-sm font-medium text-gray-600 hover:text-gray-900 dark:text-gray-300 " ++
    "dark:hover:text-white"
  | .navActions => "flex items-center gap-2"
  | .menuButton =>
    "inline-flex items-center justify-center rounded-md p-2 text-gray-700 hover:bg-gray-100 " ++
    "md:hidden dark:text-gray-200 dark:hover:bg-gray-800"
  | .mobileMenu => "border-t border-gray-200 px-4 py-3 md:hidden dark:border-gray-800"
  | .mobileLink => "block py-2 text-sm font-medium text-gray-700 dark:text-gray-200"
  | .themeToggle =>
    "inline-flex items-center justify-center rounded-md p-2 text-gray-700 hover:bg-gray-100 " ++
    "dark:text-gray-200 dark:hover:bg-gray-800"
  | .footer =>
    "border-t border-gray-200 py-6 text-center text-sm text-gray-500 dark:border-gray-800 " ++
    "dark:text-gray-400"
  | .page => "mx-auto max-w-6xl px-4 py-12"
  | .pageTitle => "text-3xl font-bold tracking-tight"
  | .pageText => "mt-4 text-gray-600 dark:text-gray-300"
  | .pageActions => "mt-8 flex gap-3"

/-- Tailwind classes of each role that follow the Shadcn theme. -/
def shadcnRoles : Role → String
  | .layout => "flex min-h-screen flex-col bg-background text-foreground"
  | .main => "flex-1"
  | .navbar => "border-b bg-background"
  | .navbarInner => "container mx-auto flex h-16 items-center justify-between px-4"
  | .brand => "text-lg font-semibold"
  | .navLinks => "hidden items-center gap-6 md:flex"
  | .navLink =>
    "text-sm font-medium text-muted-foreground transition-colors hover:text-foreground"
  | .navActions => "flex items-center gap-2"
  | .menuButton =>
    "inline-flex items-center justify-center rounded-md p-2 hover:bg-accent " ++
    "hover:text-accent-foreground md:hidden"
  | .mobileMenu => "border-t px-4 py-3 md:hidden"
  | .mobileLink => "block py-2 text-sm font-medium text-muted-foreground hover:text-foreground"
  | .themeToggle =>
    "inline-flex items-center justify-center rounded-md p-2 hover:bg-accent " ++
    "hover:text-accent-foreground"
  | .footer => "border-t py-6 text-center text-sm text-muted-foreground"
  | .page => "container mx-auto px-4 py-12"
  | .pageTitle => "text-3xl font-bold tracking-tight"
  | .pageText => "mt-4 text-muted-foreground"
  | .pageActions => "mt-8 flex gap-3"

/-- Classes of each role that the plain stylesheet defines. -/
def vanillaRoles : Role → String
  | .layout => "layout"
  | .main => "layout__main"
  | .navbar => "navbar"
  | .navbarInner => "navbar__inner"
  | .brand => "navbar__brand"
  | .navLinks => "navbar__links"
  | .navLink => "navbar__link"
  | .navActions => "navbar__actions"
  | .menuButton => "navbar__toggle"
  | .mobileMenu => "navbar__mobile"
  | .mobileLink => "navbar__mobile-link"
  | .themeToggle => "navbar__toggle"
  | .footer => "footer"
  | .page => "page"
  | .pageTitle => "page__title"
  | .pageText => "page__text"
  | .pageActions => "page__actions"

/-- Style objects of each role. -/
def inlineRoles : Role → String
  | .layout => r#"{ display: 'flex', flexDirection: 'column', minHeight: '100vh' }"#
  | .main => r#"{ flex: 1 }"#
  | .navbar => r#"{ borderBottom: '1px solid #e5e7eb', backgroundColor: '#ffffff' }"#
  | .navbarInner =>
    r#"{ display: 'flex', alignItems: 'center', justifyContent: 'space-between', maxWidth: "# ++
    r#"'72rem', height: '4rem', margin: '0 auto', padding: '0 1rem' }"#
  | .brand =>
    r#"{ fontSize: '1.125rem', fontWeight: 600, color: '#111827', textDecoration: 'none' }"#
  | .navLinks => r#"{ display: 'flex', alignItems: 'center', gap: '1.5rem' }"#
  | .navLink =>
    r#"{ fontSize: '0.875rem', fontWeight: 500, color: '#4b5563', textDecoration: 'none' }"#
  | .navActions => r#"{ display: 'flex', alignItems: 'center', gap: '0.5rem' }"#
  | .menuButton =>
    r#"{ background: 'none', border: 'none', padding: '0.5rem', fontSize: '1.25rem', cursor: "# ++
    r#"'pointer' }"#
  | .mobileMenu => r#"{ borderTop: '1px solid #e5e7eb', padding: '0.75rem 1rem' }"#
  | .mobileLink =>
    r#"{ display: 'block', padding: '0.5rem 0', color: '#374151', textDecoration: 'none' }"#
  | .themeToggle =>
    r#"{ background: 'none', border: 'none', padding: '0.5rem', cursor: 'pointer' }"#
  | .footer =>
    r#"{ borderTop: '1px solid #e5e7eb', padding: '1.5rem 0', textAlign: 'center', fontSize: "# ++
    r#"'0.875rem', color: '#6b7280' }"#
  | .page => r#"{ maxWidth: '72rem', margin: '0 auto', padding: '3rem 1rem' }"#
  | .pageTitle => r#"{ fontSize: '1.875rem', fontWeight: 700, margin: 0 }"#
  | .pageText => r#"{ marginTop: '1rem', color: '#4b5563' }"#
  | .pageActions => r#"{ display: 'flex', gap: '0.75rem', marginTop: '2rem' }"#

/-- The dialect of each styling. -/
def Styling.dialect : Styling → StylingDialect
  | .tailwind => {
      mode := .classes
      stylesheetTemplate := "styles/tailwind.css.j2"
      role := tailwindRoles
      buttonBase :=
        "inline-flex items-center justify-center rounded-md font-medium transition-colors " ++
        "focus-visible:outline-none focus-visible:ring-2 focus-visible:ring-blue-500 " ++
        "focus-visible:ring-offset-2 disabled:pointer-events-none disabled:opacity-50"
      buttonVariants := [
        ("primary", "bg-blue-600 text-white hover:bg-blue-700"),
        ("secondary", "bg-gray-600 text-white hover:bg-gray-700"),
        ("outline",
          "border border-gray-300 bg-transparent text-gray-900 hover:bg-gray-100 " ++
          "dark:border-gray-700 dark:text-gray-100 dark:hover:bg-gray-800")]
      buttonSizes := [
        ("sm", "h-9 px-3 text-sm"),
        ("md", "h-10 px-4 py-2"),
        ("lg", "h-11 px-8 text-lg")]
      usesTailwind := true }
  | .shadcn => {
      mode := .classes
      stylesheetTemplate := "styles/shadcn.css.j2"
      role := shadcnRoles
      buttonBase :=
        "inline-flex items-center justify-center rounded-md font-medium transition-colors " ++
        "focus-visible:outline-none focus-visible:ring-2 focus-visible:ring-ring " ++
        "focus-visible:ring-offset-2 disabled:pointer-events-none disabled:opacity-50"
      buttonVariants := [
        ("primary", "bg-primary text-primary-foreground hover:bg-primary/90"),
        ("secondary", "bg-secondary text-secondary-foreground hover:bg-secondary/80"),
        ("outline",
          "border border-input bg-background hover:bg-accent hover:text-accent-foreground")]
      buttonSizes := [
        ("sm", "h-9 px-3 text-sm"),
        ("md", "h-10 px-4 py-2"),
        ("lg", "h-11 px-8 text-lg")]
      usesTailwind := true }
  | .vanillaCss => {
      mode := .classes
      stylesheetTemplate := "styles/vanilla.css.j2"
      role := vanillaRoles
      buttonBase :=
        "btn"
      buttonVariants := [
        ("primary", "btn--primary"),
        ("secondary", "btn--secondary"),
        ("outline", "btn--outline")]
      buttonSizes := [
        ("sm", "btn--sm"),
        ("md", "btn--md"),
        ("lg", "btn--lg")]
      usesTailwind := false }
  | .none => {
      mode := .inline
      stylesheetTemplate := "styles/plain.css.j2"
      role := inlineRoles
      buttonBase :=
        r#"{ display: 'inline-flex', alignItems: 'center', justifyContent: 'center', "# ++
        r#"borderRadius: '6px', fontWeight: 500 }"#
      buttonVariants := [
        ("primary", r#"{ backgroundColor: '#3b82f6', color: '#ffffff', border: 'none' }"#),
        ("secondary", r#"{ backgroundColor: '#6b7280', color: '#ffffff', border: 'none' }"#),
        ("outline",
          r#"{ backgroundColor: 'transparent', color: '#3b82f6', border: '1px solid #3b82f6' }"#)]
      buttonSizes := [
        ("sm", r#"{ padding: '8px 16px', fontSize: '14px' }"#),
        ("md", r#"{ padding: '10px 20px', fontSize: '16px' }"#),
        ("lg", r#"{ padding: '12px 24px', fontSize: '18px' }"#)]
      usesTailwind := false }

end ReactScaffold
