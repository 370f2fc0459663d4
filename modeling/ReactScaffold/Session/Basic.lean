import ReactScaffold.Action
import ReactScaffold.Console
import ReactScaffold.Host.Disk
import ReactScaffold.Host.Process

/-!
# Sessions

A session is what a run can see and change: the disk, the working directory, the processes that
were started and the moves to another working directory in their order, the lines that are still to
be typed, and what was shown and remarked so far.
-/

namespace ReactScaffold

/-- What a run does to the world outside its disk. -/
inductive Happening where
  | started (l : Launch)
  | moved (place : Place)
deriving DecidableEq, Repr

/-- The process start that a happening is. -/
def Happening.launch? : Happening → Option Launch
  | .started l => some l
  | .moved _ => none

/-- The state of a run. A typed line that is missing stands for an interruption. -/
structure Session where
  disk : Disk := {}
  cwd : Place := []
  history : List Happening := []
  input : List (Option String) := []
  shown : List Event := []
  remarks : List Remark := []
deriving DecidableEq, Repr

namespace Session

/-- The processes that were started, in order. -/
def launches (s : Session) : List Launch := s.history.filterMap Happening.launch?

/-- The session after a process is started. -/
def addLaunch (s : Session) (l : Launch) : Session :=
  { s with history := s.history ++ [.started l] }

/-- The session after its working directory is changed. -/
def moveTo (s : Session) (place : Place) : Session :=
  { s with cwd := place, history := s.history ++ [.moved place] }

/-- The session after an event is shown. -/
def addEvent (s : Session) (e : Event) : Session := { s with shown := s.shown ++ [e] }

/-- The session after a remark is made. -/
def addRemark (s : Session) (level : Level) (topic : Topic) (text : String) : Session :=
  { s with remarks := s.remarks ++ [⟨level, topic, text⟩] }

/-- Shows an event. -/
def display (e : Event) : Action Session Unit := modify fun s => s.addEvent e

/-- Shows events, one after the other. -/
def displayAll (es : List Event) : Action Session Unit := es.forM display

/-- Makes a remark. -/
def remark (level : Level) (topic : Topic) (text : String) : Action Session Unit :=
  modify fun s => s.addRemark level topic text

/-- Reads the next typed line. -/
def readLine : Action Session String := do
  match (← get).input with
  | [] => Action.fail .endOfInput
  | none :: rest =>
    modify fun s => { s with input := rest }
    Action.fail .interrupted
  | some line :: rest =>
    modify fun s => { s with input := rest }
    return line

end Session

end ReactScaffold
