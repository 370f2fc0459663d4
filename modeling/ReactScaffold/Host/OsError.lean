import ReactScaffold.Text.Quoted

/-!
# Errors of the operating system

The disk refuses an operation for one of a few reasons. A process that cannot be started reports
an error of its own, with or without a code, and waiting for a process may time out.
-/

namespace ReactScaffold

open Text

/-- Why the disk refuses an operation. -/
inductive Refusal where
  | notFound
  | exists
  | notDirectory
  | isDirectory
  | nameTooLong
deriving DecidableEq, Repr

/-- The code of a refusal. -/
def Refusal.code : Refusal → Int
  | .notFound => 2
  | .exists => 17
  | .notDirectory => 20
  | .isDirectory => 21
  | .nameTooLong => 36

/-- The words for a refusal. -/
def Refusal.text : Refusal → String
  | .notFound => "No such file or directory"
  | .exists => "File exists"
  | .notDirectory => "Not a directory"
  | .isDirectory => "Is a directory"
  | .nameTooLong => "File name too long"

/-- An error of the operating system: a code with its words and the path that it concerns, words
alone, or a wait that has timed out. -/
inductive OsError where
  | system (code : Int) (text : String) (path : Option String)
  | plain (text : String)
  | timeout
deriving DecidableEq, Repr

/-- The error that a refusal is when it concerns the given path. -/
def Refusal.error (r : Refusal) (path : String) : OsError := .system r.code r.text (some path)

/-- The description of an error. -/
def OsError.message : OsError → String
  | .system code text path =>
    let place := match path with
      | some p => ": " ++ quoted p
      | none => ""
    "[Errno " ++ toString code ++ "] " ++ text ++ place
  | .plain text => text
  | .timeout => ""

/-- The words of an error, or its whole description when there are none. -/
def OsError.reason (e : OsError) : String :=
  match e with
  | .system _ text _ => if text.isEmpty then e.message else text
  | e => e.message

/-- Whether the error says that something does not exist. -/
def OsError.isNotFound : OsError → Bool
  | .system code _ _ => code = Refusal.notFound.code
  | _ => false

end ReactScaffold
