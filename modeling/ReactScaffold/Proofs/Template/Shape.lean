import ReactScaffold.Template.Basic

/-!
# Shapes of values

A shape is what can be said of a value before a project is known: that it is data, a text or a
given text, a list, a mapping, or a dialect or method of some kind. `Expr.shape?` and
`Node.checks` follow a template with shapes in place of values. They refuse a name without a shape,
a member that its owner may not have, a call that may fail and a role that does not exist.
-/

namespace ReactScaffold

/-- The kinds of dialects. -/
inductive DialectKind where
  | framework | language | styling | icons | manager
deriving DecidableEq, Repr

/-- The kind of a dialect. -/
def Dialect.kind : Dialect → DialectKind
  | .framework _ => .framework
  | .language _ => .language
  | .styling _ => .styling
  | .icons _ => .icons
  | .manager _ => .manager

/-- The kinds of methods. -/
inductive MethodKind where
  | typeMark | attr | value | stylesBlock | importFor | glyph | addCommand
deriving DecidableEq, Repr

/-- The kind of a method. -/
def Method.kind : Method → MethodKind
  | .typeMark _ => .typeMark
  | .attr _ => .attr
  | .value _ => .value
  | .stylesBlock _ => .stylesBlock
  | .importFor _ => .importFor
  | .glyph _ => .glyph
  | .addCommand _ => .addCommand

/-- What is known of a value. -/
inductive Shape where
  | datum
  | text
  | word (s : String)
  | list
  | mapping
  | dialect (kind : DialectKind)
  | method (kind : MethodKind)
deriving DecidableEq, Repr

/-- The value is of the shape. -/
inductive Value.Has : Value → Shape → Prop
  | datum (v : Json String) : Has (.data v) .datum
  | text (s : String) : Has (.data (.str s)) .text
  | word (s : String) : Has (.data (.str s)) (.word s)
  | list (vs : List (Json String)) : Has (.data (.arr vs)) .list
  | mapping (members : List (String × Json String)) : Has (.data (.obj members)) .mapping
  | dialect (f : Dialect) : Has (.dialect f) (.dialect f.kind)
  | method (m : Method) : Has (.method m) (.method m.kind)

/-- The shape of a value that is all data alike or is told by its constructor. -/
def Value.shape? : Value → Option Shape
  | .data (.str _) => some .text
  | .data (.arr _) => some .list
  | .data (.obj _) => some .mapping
  | .data _ => some .datum
  | .dialect f => some (.dialect f.kind)
  | .method m => some (.method m.kind)
  | .undefined _ => none

theorem Value.has_of_shape? {v : Value} {sh : Shape} (h : v.shape? = some sh) : v.Has sh := by
  cases v with
  | data j =>
      cases j
      all_goals
        obtain rfl := Option.some.inj h
        constructor
  | dialect f =>
      obtain rfl := Option.some.inj h
      exact .dialect f
  | method m =>
      obtain rfl := Option.some.inj h
      exact .method m
  | undefined missing => cases h

namespace Shape

/-- Whether values of the shape are data. -/
def isData : Shape → Bool
  | datum | text | word _ | list | mapping => true
  | dialect _ | method _ => false

/-- Whether values of the shape are texts. -/
def isText : Shape → Bool
  | text | word _ => true
  | _ => false

/-- Whether values of the shape have items. -/
def isIterable : Shape → Bool
  | text | word _ | list | mapping => true
  | _ => false

/-- Whether the shape is that of a given text which is found in a table. -/
def isKey {α : Type} (find : String → Option α) : Shape → Bool
  | word s => (find s).isSome
  | _ => false

end Shape

/-- The shapes of the members that a dialect of the kind has. -/
def DialectKind.member? : DialectKind → Member → Option Shape
  | .framework, .name | .framework, .linkImport | .framework, .linkAttr
  | .framework, .srcRootFromPages | .framework, .esmConfigExt | .framework, .envApiUrl
  | .framework, .envApiVar => some .text
  | .framework, .isVite => some .datum
  | .framework, .tailwindContent => some .list
  | .framework, .scripts => some .mapping
  | .language, .annotate => some .datum
  | .language, .componentExt | .language, .moduleExt => some .text
  | .language, .ts => some (.method .typeMark)
  | .styling, .mode | .styling, .stylesheetTemplate | .styling, .buttonBase
  | .styling, .buttonValueType => some .text
  | .styling, .roles | .styling, .buttonVariants | .styling, .buttonSizes => some .mapping
  | .styling, .usesTailwind | .styling, .inline => some .datum
  | .styling, .attr => some (.method .attr)
  | .styling, .value => some (.method .value)
  | .styling, .stylesBlock => some (.method .stylesBlock)
  | .icons, .names => some .mapping
  | .icons, .style => some .text
  | .icons, .importFor => some (.method .importFor)
  | .icons, .glyph => some (.method .glyph)
  | .manager, .binary | .manager, .devFlag | .manager, .exec | .manager, .execNoInstall
  | .manager, .nextFlag => some .text
  | .manager, .installAll | .manager, .add | .manager, .dlx | .manager, .createVite => some .list
  | .manager, .createViteSeparator => some .datum
  | .manager, .addCommand => some (.method .addCommand)
  | _, _ => none

/-- The shape of a member of values of the shape, if all of them have it. -/
def Shape.member? : Shape → Member → Option Shape
  | .dialect kind, m => kind.member? m
  | _, _ => none

/-- The shape of what a method of the kind gives for arguments of the shapes, with or without its
switch, if no such call can fail. -/
def MethodKind.call? : MethodKind → List Shape → Bool → Option Shape
  | .typeMark, [a], false | .value, [a], false => if a.isData then some .datum else none
  | .attr, [a], false => if a.isKey Role.ofName? then some .text else none
  | .glyph, [a], false => if a.isKey IconRole.ofName? then some .text else none
  | .stylesBlock, args, _ => if args.all (Shape.isKey Role.ofName?) then some .text else none
  | .importFor, args, false =>
    if args.all (Shape.isKey IconRole.ofName?) then some .text else none
  | _, _, _ => none

/-- The shape of what values of the shape give when they are called. -/
def Shape.call? : Shape → List Shape → Bool → Option Shape
  | .method kind, args, switched => kind.call? args switched
  | _, _, _ => none

/-- The shapes of what the names of a template stand for. -/
abbrev Context := Var → Option Shape

/-- The context in which one more name has a shape. -/
def Context.set (Γ : Context) (v : Var) (sh : Shape) : Context :=
  fun w => if w = v then some sh else Γ w

/-- Whether the value of a name is data. -/
def Context.isDatum (Γ : Context) (v : Var) : Bool := (Γ v).any Shape.isData

mutual

/-- The shape of what an expression stands for. -/
def Expr.shape? (Γ : Context) : Expr → Option Shape
  | .var v => Γ v
  | .str s => some (.word s)
  | .list _ => some .list
  | .member e m => (e.shape? Γ).bind fun sh => sh.member? m
  | .call callee args annotate =>
    if annotate.all Γ.isDatum then
      (callee.shape? Γ).bind fun sh =>
        (Expr.shapes? Γ args).bind fun shapes => sh.call? shapes annotate.isSome
    else none
  | .join parts =>
    (Expr.shapes? Γ parts).bind fun shapes => if shapes.all Shape.isData then some .text else none
  | .title e => (e.shape? Γ).bind fun sh => if sh.isText then some .text else none
  | .choose v yes no =>
    (Γ v).bind fun _ => (yes.shape? Γ).bind fun first => (no.shape? Γ).bind fun second =>
      if first.isData && second.isData then some .datum else none

/-- The shapes of what expressions stand for. -/
def Expr.shapes? (Γ : Context) : List Expr → Option (List Shape)
  | [] => some []
  | e :: rest => (e.shape? Γ).bind fun sh => (Expr.shapes? Γ rest).map fun shapes => sh :: shapes

end

/-- Whether it can be told if a condition holds. -/
def Condition.checks (Γ : Context) : Condition → Bool
  | .holds e => (e.shape? Γ).isSome
  | .not c => c.checks Γ
  | .both c d => c.checks Γ && d.checks Γ

/-- Whether a piece of a line can be written. -/
def Piece.checks (Γ : Context) : Piece → Bool
  | .text _ => true
  | .hole e => (e.shape? Γ).any Shape.isData

mutual

/-- Whether a node can be rendered. -/
def Node.checks (Γ : Context) : Node → Bool
  | .text _ => true
  | .line pieces => pieces.all (Piece.checks Γ)
  | .inline pieces => pieces.all (Piece.checks Γ)
  | .branch c yes no => c.checks Γ && Node.checkAll Γ yes && Node.checkAll Γ no
  | .each v source body =>
    (source.shape? Γ).any Shape.isIterable && Node.checkAll (Γ.set v .datum) body
  | .eachEntry k v source body =>
    source.shape? Γ = some .mapping && Node.checkAll ((Γ.set k .text).set v .datum) body
  | .bind v value body => (value.shape? Γ).any fun sh => Node.checkAll (Γ.set v sh) body

/-- Whether nodes can be rendered one after the other. -/
def Node.checkAll (Γ : Context) : List Node → Bool
  | [] => true
  | n :: rest => n.checks Γ && Node.checkAll Γ rest

end

/-- Whether a template can be rendered. -/
def Template.checks (Γ : Context) (t : Template) : Bool := Node.checkAll Γ t.body

end ReactScaffold
