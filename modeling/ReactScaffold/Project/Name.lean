import ReactScaffold.Text.Blank

/-!
# Project names

A project name is a non-empty text of ASCII letters, digits, underscores and hyphens, so it is
one component of a path. The check that answers at a prompt is laxer by one line feed at the end.
-/

namespace ReactScaffold

open Text

/-- Whether a project name may hold the character. -/
def isNameChar (c : Char) : Bool := c.isAlphanum || c = '_' || c = '-'

/-- Whether the characters make a project name. -/
def isProjectName (cs : List Char) : Bool := !cs.isEmpty && cs.all isNameChar

/-- A project name. -/
structure ProjectName where
  text : String
  valid : isProjectName text.toList = true
deriving DecidableEq, Repr

/-- The name that a text is, if it is one. -/
def ProjectName.ofText? (s : String) : Option ProjectName :=
  if h : isProjectName s.toList = true then some ⟨s, h⟩ else none

/-- Why a text is no project name. -/
inductive NameFault where
  | empty
  | characters
deriving DecidableEq, Repr

/-- The description of a name fault. -/
def NameFault.message : NameFault → String
  | .empty => "Project name cannot be empty"
  | .characters => "Project name can only contain letters, numbers, hyphens, and underscores"

/-- The characters without one line feed at the end. -/
def dropFinalLineFeed (cs : List Char) : List Char :=
  if cs.getLast? = some '\n' then cs.dropLast else cs

/-- What is wrong with a name typed by hand. A line feed at its end is overlooked. -/
def nameFault? (s : String) : Option NameFault :=
  if (stripBlank s.toList).isEmpty then some .empty
  else if isProjectName s.toList || isProjectName (dropFinalLineFeed s.toList) then none
  else some .characters

end ReactScaffold
