import ReactScaffold.Json.Parser
import ReactScaffold.Json.Printer
import ReactScaffold.Project.Answers
import ReactScaffold.Text.LineEnding
import ReactScaffold.Text.Utf8

/-!
# Saved answers

A project is saved as an object with one member for each answer, and read back from it. The file
must be one object that keeps to the strict rules for data; anything else it holds beside the
known answers is passed over.
-/

namespace ReactScaffold

open Text

/-- The content of the file that saves a project. -/
def Project.savedText (p : Project) : String :=
  String.ofList
    ((Json.print .indented 0 (Json.obj p.toAnswers).toDocument).filterMap CodePoint.char?)

/-- Why a saved file cannot be used. -/
inductive SavedFault where
  | undecodable (e : Utf8.Undecodable)
  | invalid (e : Invalid)
deriving DecidableEq, Repr

/-- The project saved as the given text. -/
def Project.ofSavedText (cs : List Char) : Except Invalid Project :=
  let issue (d : Defect) : Except Invalid Project := .error ⟨"ProjectConfig", [⟨[], d⟩]⟩
  match (Json.parseBy .strict cs).toOption.bind Json.plain? with
  | none => issue .malformedJson
  | some (.obj members) => Project.ofAnswers members
  | some _ => issue .notObject

/-- The project saved in a file of the given content. -/
def Project.ofSavedFile (octets : List UInt8) : Except SavedFault Project :=
  match Utf8.decode octets with
  | .error e => .error (.undecodable e)
  | .ok cs => (Project.ofSavedText (normalizeLineEndings cs)).mapError .invalid

end ReactScaffold
