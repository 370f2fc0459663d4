import ReactScaffold.Decimal.Duration
import ReactScaffold.Decimal.Shortest
import ReactScaffold.Host.OsError
import ReactScaffold.Settings
import ReactScaffold.Text.Utf8

/-!
# Processes

What the outside world does with a command line is a function from it: the start is refused, or the
process ends in some way. Output is decoded leniently and stripped of blanks. Waiting for a process
that hangs times out: under a time limit the process is killed, without one that is an error.
-/

namespace ReactScaffold

open Decimal Text

/-- What a process leaves behind: its exit code, what it wrote to its two outputs, and files and
directories relative to its working directory. A process that hangs does not end on its own. -/
structure Finish where
  code : Option Int := some 0
  output : Option (List UInt8) := none
  errors : Option (List UInt8) := none
  created : List (String × Option (List UInt8)) := []
  hangs : Bool := false
deriving DecidableEq, Repr

/-- What becomes of a command line: it is not started, for an error that may be one of the class for
missing files, or it is. The class of an error goes by its code unless something else is said. -/
inductive Outcome where
  | refused (e : OsError) (missing : Bool := e.isNotFound)
  | started (f : Finish)
deriving DecidableEq, Repr

/-- The programs of a machine. -/
abbrev Programs := List String → Outcome

/-- The start of a process: its command line and the working directory that was asked for. -/
structure Launch where
  command : List String
  cwd : Option String
deriving DecidableEq, Repr

/-- The working directory to ask for. An empty one counts as none. -/
def launchDirectory (cwd : Option String) : Option String := cwd.filter fun s => !s.isEmpty

/-- The end of a process as its caller sees it. -/
structure Completion where
  code : Int
  output : String
  errors : String
  killed : Bool := false
deriving DecidableEq, Repr

/-- The text of an output. -/
def outputText (octets : Option (List UInt8)) : String :=
  String.ofList (stripBlank (Utf8.decodeLossy (octets.getD [])))

/-- The text of a number of seconds. -/
def secondsText : Seconds → String
  | .whole n => toString n
  | .measured x => x.text displayNames

/-- Whether a time limit is over at once. -/
def isOver : Seconds → Bool
  | .whole n => n ≤ 0
  | .measured x => x.isNegative || x.isZero

/-- How a process ends, under a time limit if there is one. -/
def Finish.complete (f : Finish) (command : List String) (limit : Option Seconds) :
    Except OsError Completion :=
  let ended : Completion := ⟨f.code.getD 0, outputText f.output, outputText f.errors, false⟩
  match limit with
  | none => if f.hangs then .error .timeout else .ok ended
  | some t =>
    if f.hangs || isOver t then
      .ok ⟨-1, "", "Command timed out after " ++ secondsText t ++ "s: " ++ " ".intercalate command,
        true⟩
    else .ok ended

/-- The environment of a process when variables are added to the one of its parent. With nothing
to add the process inherits the parent's. -/
def childEnvironment (parent extra : Environment) : Option Environment :=
  if extra.isEmpty then none
  else some (OrderedMap.insertAll parent extra)

end ReactScaffold
