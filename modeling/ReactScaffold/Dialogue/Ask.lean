import ReactScaffold.Project.Name
import ReactScaffold.Session.Basic
import ReactScaffold.Text.Case

/-!
# Questions

A question is asked until a line is accepted. Each line that is not accepted is answered by an
event that says why, and the question is asked again.
-/

namespace ReactScaffold

open Text

/-- How a question is put, and what a line answers to it: a value, or the event that rejects
it. -/
structure Question (α : Type) where
  prompt : String
  accept : String → Except Event α

/-- Puts a question to typed lines: the events shown, the value or what ended the dialogue, and
the lines that are left. -/
def Question.put {α : Type} (q : Question α) :
    List (Option String) → List Event × Except Failure α × List (Option String)
  | [] => ([.prompt q.prompt], .error (.fault .endOfInput), [])
  | none :: rest => ([.prompt q.prompt], .error (.fault .interrupted), rest)
  | some line :: rest =>
    match q.accept line with
    | .ok a => ([.prompt q.prompt], .ok a, rest)
    | .error rejection =>
      let (events, result, left) := q.put rest
      (.prompt q.prompt :: rejection :: events, result, left)

/-- Asks a question. -/
def Question.ask {α : Type} (q : Question α) : Action Session α := do
  let result ← modifyGet fun s =>
    let (events, result, left) := q.put s.input
    (result, { s with shown := s.shown ++ events, input := left })
  Action.ofExcept id result

/-- The event that rejects a line which is none of the choices. -/
def notAChoice : Event :=
  .invalid "[prompt.invalid.choice]Please select one of the available options"

/-- The event that rejects a line which is neither yes nor no. -/
def notYesOrNo : Event := .invalid "[prompt.invalid]Please enter Y or N"

/-- The question for a choice. An empty line stands for the default. -/
def choiceQuestion {α : Type} [Axis α] (text : String) (default : α) : Question α where
  prompt :=
    text ++ " [" ++ "/".intercalate (Axis.values α) ++ "] (" ++ Axis.value default ++ "): "
  accept line :=
    if line.isEmpty then .ok default
    else
      match Axis.ofValue? α (strip line) with
      | some a => .ok a
      | none => .error notAChoice

/-- The question for a yes or a no. An empty line stands for no. -/
def switchQuestion (text : String) : Question Bool where
  prompt := text ++ " [y/n] (n): "
  accept line :=
    if line.isEmpty then .ok false
    else
      let word := lower (strip line)
      if word = "y" then .ok true
      else if word = "n" then .ok false
      else .error notYesOrNo

/-- The question for a project name. Blanks around it do not matter. -/
def nameQuestion : Question String where
  prompt := "Project name: "
  accept line :=
    let name := strip line
    match nameFault? name with
    | none => .ok name
    | some f => .error (.error f.message)

end ReactScaffold
