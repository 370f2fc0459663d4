import ReactScaffold.Json.Basic
import ReactScaffold.Text.Quoted

/-!
# Writing data values

A document is written either over several lines, each level two blanks further in, or on one
line. Characters outside ASCII are written as they are; quotes, backslashes and control characters
are escaped.
-/

namespace ReactScaffold.Json

open Decimal Text

/-- How members and items are laid out. -/
inductive Layout where
  | indented
  | inline
deriving DecidableEq, Repr

/-- What starts a new line at the given level. -/
def Layout.lineBreak (l : Layout) (level : Nat) : WideText :=
  match l with
  | .indented => WideText.ofChars ('\n' :: List.replicate (2 * level) ' ')
  | .inline => []

/-- What stands between two items, in front of the line break. -/
def Layout.separator : Layout → WideText
  | .indented => WideText.ofChars [',']
  | .inline => WideText.ofChars [',', ' ']

/-- The words for the numbers that are not finite. -/
def floatNames : SpecialNames := ⟨"NaN", "Infinity"⟩

/-- A character inside a written string. -/
def escapeChar (c : Char) : List Char :=
  if c = '"' then ['\\', '"']
  else if c = '\\' then ['\\', '\\']
  else if c = '\n' then ['\\', 'n']
  else if c = '\r' then ['\\', 'r']
  else if c = '\t' then ['\\', 't']
  else if c = '\x08' then ['\\', 'b']
  else if c = '\x0c' then ['\\', 'f']
  else if c.toNat < 0x20 then '\\' :: 'u' :: (hexDigits 4 c.toNat).toList
  else [c]

/-- A code point inside a written string. A lone half is not escaped. -/
def escapePoint : CodePoint → WideText
  | .scalar c => WideText.ofChars (escapeChar c)
  | .half n => [.half n]

/-- A written string. -/
def printString (t : WideText) : WideText :=
  .scalar '"' :: t.flatMap escapePoint ++ [.scalar '"']

/-- A written whole number. -/
def printInt (n : Int) : List Char :=
  if n < 0 then '-' :: Nat.toDigits 10 n.natAbs else Nat.toDigits 10 n.natAbs

mutual

/-- The text of a document whose first line stands at the given level. -/
def print (l : Layout) (level : Nat) : Document → WideText
  | null => WideText.ofString "null"
  | bool true => WideText.ofString "true"
  | bool false => WideText.ofString "false"
  | int n => WideText.ofChars (printInt n)
  | float x => WideText.ofString (x.text floatNames)
  | str s => printString s
  | arr [] => WideText.ofString "[]"
  | arr (v :: rest) =>
    .scalar '[' :: l.lineBreak (level + 1) ++ print l (level + 1) v ++
      printItems l (level + 1) rest ++ l.lineBreak level ++ [.scalar ']']
  | obj [] => WideText.ofString "\x7b\x7d"
  | obj ((k, v) :: rest) =>
    .scalar '\x7b' :: l.lineBreak (level + 1) ++ printString k ++ WideText.ofString ": " ++
      print l (level + 1) v ++ printMembers l (level + 1) rest ++ l.lineBreak level ++
      [.scalar '\x7d']

/-- The items after the first, each after a separator. -/
def printItems (l : Layout) (level : Nat) : List Document → WideText
  | [] => []
  | v :: rest => l.separator ++ l.lineBreak level ++ print l level v ++ printItems l level rest

/-- The members after the first, each after a separator. -/
def printMembers (l : Layout) (level : Nat) : List (WideText × Document) → WideText
  | [] => []
  | (k, v) :: rest =>
    l.separator ++ l.lineBreak level ++ printString k ++ WideText.ofString ": " ++
      print l level v ++ printMembers l level rest

end

/-- The content of a file that holds the document: indented, with a line feed at the end. -/
def dumpDocument (d : Document) : WideText := print .indented 0 d ++ [.scalar '\n']

/-- The content of a file that holds a value over plain strings. -/
def dump (v : Json String) : String :=
  String.ofList ((dumpDocument v.toDocument).filterMap CodePoint.char?)

/-- The document on one line. -/
def inlineText (d : Document) : WideText := print .inline 0 d

end ReactScaffold.Json
