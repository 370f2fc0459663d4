import ReactScaffold.Project.Choices

/-!
# Icon dialects

An icon library gives each glyph an element and one import statement for all glyphs of a file.
Without a library the glyphs are characters.
-/

namespace ReactScaffold

/-- The glyphs that generated elements show. -/
inductive IconRole where
  | menu
  | close
  | sun
  | moon
deriving DecidableEq, Repr

namespace IconRole

/-- All glyphs. -/
def all : List IconRole := [.menu, .close, .sun, .moon]

/-- The name of a glyph. -/
def name : IconRole → String
  | .menu => "menu"
  | .close => "close"
  | .sun => "sun"
  | .moon => "moon"

/-- The glyph of the given name. -/
def ofName? (s : String) : Option IconRole := all.find? fun r => r.name == s

end IconRole

/-- How glyphs are shown: by an element of their own each, by one element that takes the name of
a glyph, or as a character. -/
inductive IconStyle where
  | named
  | iconify
  | text
deriving DecidableEq, Repr

/-- The word for a style. -/
def IconStyle.name : IconStyle → String
  | .named => "named"
  | .iconify => "iconify"
  | .text => "text"

/-- How one icon library is written in generated sources. -/
structure IconDialect where
  package : Option String
  symbol : IconRole → String
  style : IconStyle

namespace IconDialect

/-- An import of symbols from the library's module. -/
def importFrom (f : IconDialect) (symbols : String) : String :=
  r#"import { "# ++ symbols ++ r#" } from '"# ++ f.package.getD "" ++ "';"

/-- The import statement for the given glyphs. -/
def importFor (f : IconDialect) (roles : List IconRole) : String :=
  match f.style with
  | .text => ""
  | .iconify => f.importFrom "Icon"
  | .named => f.importFrom (", ".intercalate (roles.map f.symbol))

/-- The expression that shows a glyph. -/
def glyph (f : IconDialect) (r : IconRole) : String :=
  match f.style with
  | .text => "'" ++ f.symbol r ++ "'"
  | .iconify =>
    "<Icon icon=\"" ++ f.symbol r ++ r#"" width={20} height={20} aria-hidden="true" />"#
  | .named => "<" ++ f.symbol r ++ r#" size={20} aria-hidden="true" />"#

end IconDialect

/-- The dialect of each icon library. -/
def Icons.dialect : Icons → IconDialect
  | .lucide => {
      package := some "lucide-react"
      symbol
        | .menu => "Menu"
        | .close => "X"
        | .sun => "Sun"
        | .moon => "Moon"
      style := .named }
  | .reactIcons => {
      package := some "react-icons/hi"
      symbol
        | .menu => "HiMenu"
        | .close => "HiX"
        | .sun => "HiSun"
        | .moon => "HiMoon"
      style := .named }
  | .iconify => {
      package := some "@iconify/react"
      symbol
        | .menu => "mdi:menu"
        | .close => "mdi:close"
        | .sun => "mdi:weather-sunny"
        | .moon => "mdi:weather-night"
      style := .iconify }
  | .none => {
      package := Option.none
      symbol
        | .menu => "☰"
        | .close => "✕"
        | .sun => "☀"
        | .moon => "☾"
      style := .text }

end ReactScaffold
