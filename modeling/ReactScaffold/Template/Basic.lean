import ReactScaffold.Template.Value

/-!
# Templates

A template is a list of nodes: lines of text with holes, branches, repetitions and local names.
Rendering gives the text of a file, or the first fault met on the way.
-/

namespace ReactScaffold

/-- The names that templates use. -/
inductive Var where
  | projectName | fw | lang | ts | typescript | style | icons | pm
  | isVite | isAppRouter | useClient | srcRoot | componentName
  | usesTailwind | shadcn | tailwindV4 | themeToggle | stylesheetPath | tailwindConfigPath
  | redux | zustand | tanstack | protectedRoute | providers
  | apiClient | testing | stackFeatures
  | iconImport | entryName | entryValue | feature | pattern | token
deriving DecidableEq, Repr

/-- All names. -/
def Var.all : List Var := [
  .projectName, .fw, .lang, .ts, .typescript, .style, .icons, .pm, .isVite, .isAppRouter,
  .useClient, .srcRoot, .componentName, .usesTailwind, .shadcn, .tailwindV4, .themeToggle,
  .stylesheetPath, .tailwindConfigPath, .redux, .zustand, .tanstack, .protectedRoute, .providers,
  .apiClient, .testing, .stackFeatures, .iconImport, .entryName, .entryValue, .feature, .pattern,
  .token
]

/-- The written form of a name. -/
def Var.text : Var → String
  | .projectName => "project_name"
  | .fw => "fw"
  | .lang => "lang"
  | .ts => "ts"
  | .typescript => "typescript"
  | .style => "style"
  | .icons => "icons"
  | .pm => "pm"
  | .isVite => "is_vite"
  | .isAppRouter => "is_app_router"
  | .useClient => "use_client"
  | .srcRoot => "src_root"
  | .componentName => "component_name"
  | .usesTailwind => "uses_tailwind"
  | .shadcn => "shadcn"
  | .tailwindV4 => "tailwind_v4"
  | .themeToggle => "theme_toggle"
  | .stylesheetPath => "stylesheet_path"
  | .tailwindConfigPath => "tailwind_config_path"
  | .redux => "redux"
  | .zustand => "zustand"
  | .tanstack => "tanstack"
  | .protectedRoute => "protected_route"
  | .providers => "providers"
  | .apiClient => "api_client"
  | .testing => "testing"
  | .stackFeatures => "stack_features"
  | .iconImport => "icon_import"
  | .entryName => "name"
  | .entryValue => "value"
  | .feature => "feature"
  | .pattern => "pattern"
  | .token => "token"

/-- What the names of a template stand for. -/
abbrev Scope := Var → Option Value

/-- The scope in which one more name has a value. -/
def Scope.set (s : Scope) (v : Var) (x : Value) : Scope := fun w => if w = v then some x else s w

/-- What a name stands for. -/
def Scope.get (s : Scope) (v : Var) : Value := (s v).getD (.undefined (.name v.text))

/-- The scope that data gives to the names of its members. -/
def Scope.ofMembers (members : List (String × Json String)) : Scope :=
  fun v => (OrderedMap.get? members v.text).map .data

/-- An expression of a template. -/
inductive Expr where
  | var (v : Var)
  | str (s : String)
  | list (items : List String)
  | member (e : Expr) (m : Member)
  | call (callee : Expr) (args : List Expr) (annotate : Option Var)
  | join (parts : List Expr)
  | title (e : Expr)
  | choose (v : Var) (yes no : Expr)

/-- A condition on which a branch depends. -/
inductive Condition where
  | holds (e : Expr)
  | not (c : Condition)
  | both (c d : Condition)

/-- A piece of a line. -/
inductive Piece where
  | text (s : String)
  | hole (e : Expr)

/-- A node of a template. `line` ends with a line feed and `inline` does not. -/
inductive Node where
  | text (s : String)
  | line (pieces : List Piece)
  | inline (pieces : List Piece)
  | branch (c : Condition) (yes no : List Node)
  | each (v : Var) (source : Expr) (body : List Node)
  | eachEntry (k v : Var) (source : Expr) (body : List Node)
  | bind (v : Var) (value : Expr) (body : List Node)

/-- A type annotation, which only languages with types write. -/
abbrev Piece.typed (type : String) : Piece :=
  .hole (.call (.var .ts) [.str type] none)

/-- The attribute that styles an element of the given role. -/
abbrev Piece.styled (role : String) : Piece :=
  .hole (.call (.member (.var .style) .attr) [.str role] none)

/-- The constant that holds the style objects of the given roles. -/
abbrev Piece.styles (roles : List String) : Piece :=
  .hole (.call (.member (.var .style) .stylesBlock) (roles.map .str) (some .typescript))

/-- The expression that shows a glyph. -/
abbrev Piece.glyph (role : String) : Piece :=
  .hole (.call (.member (.var .icons) .glyph) [.str role] none)

/-- The value of a name. -/
abbrev Piece.var (v : Var) : Piece := .hole (.var v)

/-- The value of a member of a named dialect. -/
abbrev Piece.member (v : Var) (m : Member) : Piece := .hole (.member (.var v) m)

/-- The project name as a title. -/
abbrev Piece.title : Piece := .hole (.title (.var .projectName))

/-- Nodes that are there when the value of a name holds. -/
abbrev Node.when (v : Var) (body : List Node) : Node := .branch (.holds (.var v)) body []

/-- Nodes that are there unless the value of a name holds. -/
abbrev Node.unless (v : Var) (body : List Node) : Node := .branch (.not (.holds (.var v))) body []

/-- The first nodes when the value of a name holds, the second otherwise. -/
abbrev Node.either (v : Var) (yes no : List Node) : Node := .branch (.holds (.var v)) yes no

/-- A named template. -/
structure Template where
  name : String
  body : List Node

mutual

/-- What an expression stands for in a scope. -/
def Expr.eval (s : Scope) : Expr → Except TemplateFault Value
  | .var v => .ok (s.get v)
  | .str t => .ok (.data (.str t))
  | .list items => .ok (.data (texts items))
  | .member e m => do (← e.eval s).member m
  | .call callee args annotate => do
    let callee ← callee.eval s
    let args ← Expr.evalAll s args
    callee.call args (annotate.toList.map fun v => ("annotate", s.get v))
  | .join parts => do
    let parts ← Expr.evalAll s parts
    return .data (.str (String.join (← parts.mapM Value.display)))
  | .title e => do (← e.eval s).title
  | .choose v yes no => do if ← (s.get v).holds then yes.eval s else no.eval s

/-- What each of some expressions stands for. -/
def Expr.evalAll (s : Scope) : List Expr → Except TemplateFault (List Value)
  | [] => .ok []
  | e :: rest => do return (← e.eval s) :: (← Expr.evalAll s rest)

end

/-- Whether a condition holds in a scope. The second of two is looked at only if the first
holds. -/
def Condition.eval (s : Scope) : Condition → Except TemplateFault Bool
  | .holds e => do (← e.eval s).holds
  | .not c => (c.eval s).map (!·)
  | .both c d => do if ← c.eval s then d.eval s else return false

/-- The text of a piece of a line. -/
def Piece.render (s : Scope) : Piece → Except TemplateFault String
  | .text t => .ok t
  | .hole e => do (← e.eval s).display

/-- The text of the pieces of a line. -/
def Piece.renderAll (s : Scope) (pieces : List Piece) : Except TemplateFault String :=
  return String.join (← pieces.mapM (Piece.render s))

mutual

/-- The text of a node. -/
def Node.render (s : Scope) : Node → Except TemplateFault String
  | .text t => .ok (t ++ "\n")
  | .line pieces => do return (← Piece.renderAll s pieces) ++ "\n"
  | .inline pieces => Piece.renderAll s pieces
  | .branch c yes no => do
    if ← c.eval s then Node.renderAll s yes else Node.renderAll s no
  | .each v source body => do
    let items ← (← source.eval s).items
    return String.join (← items.mapM fun x => Node.renderAll (s.set v (.data x)) body)
  | .eachEntry k v source body => do
    let entries ← (← source.eval s).entries
    return String.join (← entries.mapM fun e =>
      Node.renderAll ((s.set k (.data (.str e.1))).set v (.data e.2)) body)
  | .bind v value body => do Node.renderAll (s.set v (← value.eval s)) body

/-- The text of some nodes, one after the other. -/
def Node.renderAll (s : Scope) : List Node → Except TemplateFault String
  | [] => .ok ""
  | n :: rest => do return (← Node.render s n) ++ (← Node.renderAll s rest)

end

/-- The text that a template gives in a scope. -/
def Template.render (t : Template) (s : Scope) : Except TemplateFault String :=
  Node.renderAll s t.body

end ReactScaffold
