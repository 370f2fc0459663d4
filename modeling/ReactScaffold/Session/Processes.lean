import ReactScaffold.Session.Basic

/-!
# Processes of a session

A command line is started in the working directory, or in one that is asked for. A command that
cannot be run to its end or ends with another code than zero is a scaffold error.
-/

namespace ReactScaffold

namespace Session

/-- The disk after a process has left a file or a directory, given by its path as seen from the
process, together with the directories above it. -/
def leave (cwd : Place) (disk : Disk) (entry : String × Option (List UInt8)) : Disk :=
  let p := Path.ofText entry.1
  match entry.2 with
  | none => (disk.ensureDirectory cwd p).1
  | some content =>
    let disk := (disk.ensureDirectory cwd p.parent).1
    (disk.writeFile cwd p content).toOption.getD disk

/-- The place that a process works in. -/
def processPlace (s : Session) (directory : Option String) : Place :=
  match directory with
  | some d => ((Path.ofText d).resolve s.cwd).parts
  | none => s.cwd

/-- Starts a process and waits for its end. -/
def launch (programs : Programs) (command : List String) (cwd : Option String) :
    Action Session Outcome := do
  let directory := launchDirectory cwd
  modify fun s => s.addLaunch ⟨command, directory⟩
  let outcome := programs command
  if let .started f := outcome then
    modify fun s =>
      { s with disk := f.created.foldl (leave (s.processPlace directory)) s.disk }
  return outcome

/-- Runs a command, with a time limit if one is given. -/
def runCommand (programs : Programs) (command : List String) (cwd : Option String)
    (limit : Option Decimal.Seconds) : Action Session Completion := do
  match ← launch programs command cwd with
  | .refused e _ => Action.fail (.os e)
  | .started f => Action.ofExcept (fun e => .fault (.os e)) (f.complete command limit)

/-- The error that a command is which cannot be run to its end, because something is missing or for
another reason. -/
def launchError (command : List String) (e : OsError) (missing : Bool) : ScaffoldError :=
  let program := command.headD ""
  if missing then .process command 127 ("executable not found: " ++ program)
  else .process command 126 ("cannot run " ++ program ++ ": " ++ e.reason)

/-- Runs a command that has to succeed. -/
def runProcess (programs : Programs) (command : List String) (cwd : Option String) :
    Action Session Completion := do
  let shownDirectory := (launchDirectory cwd).getD "."
  remark .debug .processes
    ("Running " ++ " ".intercalate command ++ " (cwd=" ++ shownDirectory ++ ")")
  match ← launch programs command cwd with
  | .refused e missing => Action.refuse (launchError command e missing)
  | .started f =>
    let ended ← Action.ofExcept (fun e => .scaffold (launchError command e false))
      (f.complete command none)
    if ended.code ≠ 0 then Action.refuse (.process command ended.code ended.errors)
    else return ended

end Session

end ReactScaffold
