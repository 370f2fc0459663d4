import ReactScaffold.Text.Blank
import ReactScaffold.Text.Case

/-!
# Titles

A title is the list of words of a name, each with its first character in upper case, joined by
single blanks. Words are separated by hyphens, underscores and blank characters.
-/

namespace ReactScaffold.Text

/-- Whether the character stands between words. -/
def isSeparator (c : Char) : Bool := c == '-' || c == '_' || isBlank c

/-- Puts a word in front of others unless it is empty. -/
def consWord (word : List Char) (others : List (List Char)) : List (List Char) :=
  if word.isEmpty then others else word :: others

/-- The word that the text begins with, possibly empty, and the words after it. -/
def leadingWord : List Char → List Char × List (List Char)
  | [] => ([], [])
  | c :: rest =>
    let (word, others) := leadingWord rest
    if isSeparator c then ([], consWord word others) else (c :: word, others)

/-- The maximal runs of characters that are not separators. -/
def words (cs : List Char) : List (List Char) :=
  consWord (leadingWord cs).1 (leadingWord cs).2

/-- The word with its first character in upper case. -/
def capitalize : List Char → List Char
  | [] => []
  | c :: rest => upperChar c ++ rest

/-- The words joined by single blanks. -/
def joinWords (ws : List (List Char)) : List Char := [' '].intercalate ws

/-- The title made of the words of a name. -/
def titleCase (s : String) : String :=
  String.ofList (joinWords ((words s.toList).map capitalize))

end ReactScaffold.Text
