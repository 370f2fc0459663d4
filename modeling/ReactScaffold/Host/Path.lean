/-!
# Paths

A path is a root, if any, and a list of names. Empty names and single dots are dropped when a path
is read; double dots stay, as they cannot be resolved without looking at the disk.
-/

namespace ReactScaffold

/-- What a path starts from: the working directory, the root, or the root written twice. -/
inductive Anchor where
  | here
  | root
  | doubleRoot
deriving DecidableEq, Repr

/-- A path. -/
structure Path where
  anchor : Anchor
  parts : List String
deriving DecidableEq, Repr

/-- The text of an anchor. -/
def Anchor.text : Anchor → String
  | .here => ""
  | .root => "/"
  | .doubleRoot => "//"

/-- Splits characters at each slash. -/
def splitSlashes : List Char → List (List Char)
  | [] => [[]]
  | c :: rest =>
    match c, splitSlashes rest with
    | '/', parts => [] :: parts
    | c, [] => [[c]]
    | c, part :: parts => (c :: part) :: parts

/-- The anchor that a text begins with. Three slashes or more count as one. -/
def anchorOf : List Char → Anchor
  | '/' :: '/' :: '/' :: _ => .root
  | '/' :: '/' :: _ => .doubleRoot
  | '/' :: _ => .root
  | _ => .here

/-- Whether a piece of a path is a name that moves somewhere. -/
def isPathPart (part : List Char) : Bool := !(part.isEmpty || part == ['.'])

namespace Path

/-- The path that a text writes. -/
def ofText (s : String) : Path where
  anchor := anchorOf s.toList
  parts := ((splitSlashes s.toList).filter isPathPart).map String.ofList

/-- The text of a path. A path that goes nowhere is a single dot. -/
def text (p : Path) : String :=
  if p.anchor = .here && p.parts.isEmpty then "."
  else p.anchor.text ++ "/".intercalate p.parts

/-- Whether the path does not depend on the working directory. -/
def isAbsolute (p : Path) : Bool := p.anchor != .here

/-- The second path as seen from the first. -/
def join (p q : Path) : Path := if q.isAbsolute then q else ⟨p.anchor, p.parts ++ q.parts⟩

/-- The path without its last part. -/
def parent (p : Path) : Path := ⟨p.anchor, p.parts.dropLast⟩

/-- Follows parts from a place, a double dot leading one step back. -/
def walkUp (start : List String) (parts : List String) : List String :=
  parts.foldl (fun place part => if part = ".." then place.dropLast else place ++ [part]) start

/-- The absolute path that a path names when double dots are taken lexically. -/
def resolve (cwd : List String) (p : Path) : Path :=
  ⟨.root, walkUp (if p.isAbsolute then [] else cwd) p.parts⟩

end Path

end ReactScaffold
