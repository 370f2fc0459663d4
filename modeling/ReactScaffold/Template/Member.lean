import ReactScaffold.Dialect.Commands
import ReactScaffold.Dialect.Framework
import ReactScaffold.Dialect.Icons
import ReactScaffold.Dialect.Styling
import ReactScaffold.Json.Literal

/-!
# Members of dialects

A template names members of dialects. A member is data, or a method that gives data when it is
called. A name or a member that does not exist is a value of its own.
-/

namespace ReactScaffold

/-- The members of dialects that templates may name. -/
inductive Member where
  | name | isVite | linkImport | linkAttr | srcRootFromPages | esmConfigExt | envApiUrl
  | envApiVar | tailwindContent | scripts
  | annotate | componentExt | moduleExt | ts
  | mode | stylesheetTemplate | roles | buttonBase | buttonVariants | buttonSizes | usesTailwind
  | inline | attr | value | buttonValueType | stylesBlock
  | package | names | style | importFor | glyph
  | binary | installAll | add | devFlag | exec | execNoInstall | dlx | createVite
  | createViteSeparator | nextFlag | addCommand
deriving DecidableEq, Repr

/-- The written form of a member. -/
def Member.text : Member → String
  | .name => "name"
  | .isVite => "is_vite"
  | .linkImport => "link_import"
  | .linkAttr => "link_attr"
  | .srcRootFromPages => "src_root_from_pages"
  | .esmConfigExt => "esm_config_ext"
  | .envApiUrl => "env_api_url"
  | .envApiVar => "env_api_var"
  | .tailwindContent => "tailwind_content"
  | .scripts => "scripts"
  | .annotate => "annotate"
  | .componentExt => "component_ext"
  | .moduleExt => "module_ext"
  | .ts => "ts"
  | .mode => "mode"
  | .stylesheetTemplate => "stylesheet_template"
  | .roles => "roles"
  | .buttonBase => "button_base"
  | .buttonVariants => "button_variants"
  | .buttonSizes => "button_sizes"
  | .usesTailwind => "uses_tailwind"
  | .inline => "inline"
  | .attr => "attr"
  | .value => "value"
  | .buttonValueType => "button_value_type"
  | .stylesBlock => "styles_block"
  | .package => "package"
  | .names => "names"
  | .style => "style"
  | .importFor => "import_for"
  | .glyph => "glyph"
  | .binary => "binary"
  | .installAll => "install_all"
  | .add => "add"
  | .devFlag => "dev_flag"
  | .exec => "exec"
  | .execNoInstall => "exec_no_install"
  | .dlx => "dlx"
  | .createVite => "create_vite"
  | .createViteSeparator => "create_vite_separator"
  | .nextFlag => "next_flag"
  | .addCommand => "add_command"

/-- All members. -/
def Member.all : List Member := [
  .name, .isVite, .linkImport, .linkAttr, .srcRootFromPages, .esmConfigExt, .envApiUrl,
  .envApiVar, .tailwindContent, .scripts, .annotate, .componentExt, .moduleExt, .ts, .mode,
  .stylesheetTemplate, .roles, .buttonBase, .buttonVariants, .buttonSizes, .usesTailwind, .inline,
  .attr, .value, .buttonValueType, .stylesBlock, .package, .names, .style, .importFor, .glyph,
  .binary, .installAll, .add, .devFlag, .exec, .execNoInstall, .dlx, .createVite,
  .createViteSeparator, .nextFlag, .addCommand
]

/-- The member of the given written form. -/
def Member.ofText? (s : String) : Option Member := all.find? fun m => m.text == s

/-- The part of a choice of an axis that sources are generated from. -/
inductive Dialect where
  | framework (f : FrameworkDialect)
  | language (f : LanguageDialect)
  | styling (f : StylingDialect)
  | icons (f : IconDialect)
  | manager (c : ManagerCommands)

/-- The name of the kind of a dialect. -/
def Dialect.kindName : Dialect → String
  | .framework _ => "FrameworkFragment"
  | .language _ => "LanguageFragment"
  | .styling _ => "StylingFragment"
  | .icons _ => "IconFragment"
  | .manager _ => "PackageManagerCommands"

/-- A member that gives data when it is called. -/
inductive Method where
  | typeMark (f : LanguageDialect)
  | attr (f : StylingDialect)
  | value (f : StylingDialect)
  | stylesBlock (f : StylingDialect)
  | importFor (f : IconDialect)
  | glyph (f : IconDialect)
  | addCommand (c : ManagerCommands)

/-- A name without a value, or a member that its owner does not have. -/
inductive Missing where
  | name (name : String)
  | attribute (owner name : String)
deriving DecidableEq, Repr

/-- What an expression of a template stands for. -/
inductive Value where
  | data (v : Json String)
  | dialect (f : Dialect)
  | method (m : Method)
  | undefined (missing : Missing)

/-- A list of texts as data. -/
def texts (ss : List String) : Json String := .arr (ss.map .str)

/-- A mapping of texts as data. -/
def mapping (entries : List (String × String)) : Json String :=
  .obj (entries.map fun e => (e.1, .str e.2))

/-- The member of a framework dialect. -/
def FrameworkDialect.member? (f : FrameworkDialect) : Member → Option Value
  | .name => some (.data (.str f.name))
  | .isVite => some (.data (.bool f.isVite))
  | .linkImport => some (.data (.str f.linkImport))
  | .linkAttr => some (.data (.str f.linkAttr))
  | .srcRootFromPages => some (.data (.str f.srcRootFromPages))
  | .esmConfigExt => some (.data (.str f.esmConfigExt))
  | .envApiUrl => some (.data (.str f.envApiUrl))
  | .envApiVar => some (.data (.str f.envApiVar))
  | .tailwindContent => some (.data (texts f.tailwindContent))
  | .scripts => some (.data (mapping f.scripts))
  | _ => none

/-- The member of a language dialect. -/
def LanguageDialect.member? (f : LanguageDialect) : Member → Option Value
  | .annotate => some (.data (.bool f.annotate))
  | .componentExt => some (.data (.str f.componentExt))
  | .moduleExt => some (.data (.str f.moduleExt))
  | .ts => some (.method (.typeMark f))
  | _ => none

/-- The member of a styling dialect. -/
def StylingDialect.member? (f : StylingDialect) : Member → Option Value
  | .mode => some (.data (.str f.mode.name))
  | .stylesheetTemplate => some (.data (.str f.stylesheetTemplate))
  | .roles => some (.data (mapping (Role.all.map fun r => (r.name, f.role r))))
  | .buttonBase => some (.data (.str f.buttonBase))
  | .buttonVariants => some (.data (mapping f.buttonVariants))
  | .buttonSizes => some (.data (mapping f.buttonSizes))
  | .usesTailwind => some (.data (.bool f.usesTailwind))
  | .inline => some (.data (.bool f.isInline))
  | .attr => some (.method (.attr f))
  | .value => some (.method (.value f))
  | .buttonValueType => some (.data (.str f.buttonValueType))
  | .stylesBlock => some (.method (.stylesBlock f))
  | _ => none

/-- The member of an icon dialect. -/
def IconDialect.member? (f : IconDialect) : Member → Option Value
  | .package =>
    some (.data (match f.package with
      | some p => .str p
      | none => .null))
  | .names => some (.data (mapping (IconRole.all.map fun r => (r.name, f.symbol r))))
  | .style => some (.data (.str f.style.name))
  | .importFor => some (.method (.importFor f))
  | .glyph => some (.method (.glyph f))
  | _ => none

/-- The member of the commands of a package manager. -/
def ManagerCommands.member? (c : ManagerCommands) : Member → Option Value
  | .binary => some (.data (.str c.binary))
  | .installAll => some (.data (texts c.installAll))
  | .add => some (.data (texts c.add))
  | .devFlag => some (.data (.str c.devFlag))
  | .exec => some (.data (.str c.exec))
  | .execNoInstall => some (.data (.str c.execNoInstall))
  | .dlx => some (.data (texts c.dlx))
  | .createVite => some (.data (texts c.createVite))
  | .createViteSeparator => some (.data (.bool c.createViteSeparator))
  | .nextFlag => some (.data (.str c.nextFlag))
  | .addCommand => some (.method (.addCommand c))
  | _ => none

/-- The member of a dialect. -/
def Dialect.member? : Dialect → Member → Option Value
  | .framework f => f.member?
  | .language f => f.member?
  | .styling f => f.member?
  | .icons f => f.member?
  | .manager c => c.member?

end ReactScaffold
