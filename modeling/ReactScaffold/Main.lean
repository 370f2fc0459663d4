import ReactScaffold.CommandLine.Run

/-!
# The program

The program takes over the files that a run looks at, carries out the run on them, shows what the
run shows and writes what it changes. Lines are read only when a question asks for one: the run is
carried out again with each line that is typed. Package managers are not started, so a run that is
not dry ends where the first of them is needed.
-/

namespace ReactScaffold

/-- A text without the tags of its markup. -/
def plainText (s : String) : String :=
  let isTagChar (c : Char) : Bool := c.isAlpha || c = '/' || c = '_' || c = ' ' || c = '.'
  let pieces := s.splitOn "["
  let withoutTag (piece : String) : String :=
    match piece.splitOn "]" with
    | tag :: rest@(_ :: _) => if tag.all isTagChar then "]".intercalate rest else "[" ++ piece
    | _ => "[" ++ piece
  String.join (pieces.take 1 ++ (pieces.drop 1).map withoutTag)

/-- Shows an event. -/
def Event.print : Event → IO Unit
  | .out text => IO.println (plainText text)
  | .err text => IO.eprintln (plainText text)
  | .prompt text => do
    IO.print text
    (← IO.getStdout).flush
  | .invalid text => IO.println (plainText text)
  | .rule title _ => IO.println (plainText title)
  | .panel title text => do
    IO.println (plainText title)
    IO.println (plainText text)
  | .table title _ rows => do
    IO.println title
    for row in rows do
      IO.println ("  ".intercalate row)
  | .status text => IO.println text

/-- Takes over what is at a place. -/
def takeOver (disk : Disk) (place : Place) : IO Disk := do
  let path := (← IO.currentDir) / ("/" ++ "/".intercalate place)
  if ← path.isDir then return disk.set place .directory
  else if ← path.pathExists then
    return disk.set place (.file (← IO.FS.readBinFile path).toList)
  else return disk

/-- Takes over what is at a place and at the places above it. -/
def takeOverWithParents (disk : Disk) (place : Place) : IO Disk :=
  (List.range place.length).foldlM (fun disk n => takeOver disk (place.take (n + 1))) disk

/-- Takes over which names there are in a directory. Their contents do not matter. -/
def takeOverNames (disk : Disk) (place : Place) : IO Disk := do
  let path := (← IO.currentDir) / ("/" ++ "/".intercalate place)
  if ← path.isDir then
    let entries ← path.readDir
    return entries.foldl (fun disk e => disk.set (place ++ [e.fileName]) (.file [])) disk
  else return disk

/-- Writes what is on the second disk and was not on the first. -/
def writeBack (before after : Disk) : IO Unit :=
  after.inodes.forM fun (place, inode) => do
    if before.get? place ≠ some inode then
      let path := (← IO.currentDir) / ("/" ++ "/".intercalate place)
      match inode with
      | .directory => IO.FS.createDirAll path
      | .file content => IO.FS.writeBinFile path ⟨content.toArray⟩

/-- The variables that settings are read from. -/
def settingNames : List String :=
  ["PRTW_OUTPUT_DIR", "PRTW_DRY_RUN", "PRTW_VERBOSE", "PRTW_PACKAGE_MANAGER"]

/-- The settings of the environment. -/
def readEnvironment : IO Environment :=
  settingNames.filterMapM fun name => return (← IO.getEnv name).map fun value => (name, value)

/-- The session in which a run starts, with the files that it looks at. -/
def startSession (start : Start) : IO Session := do
  let cwd := ((← IO.currentDir).toString.splitOn "/").filter fun part => !part.isEmpty
  let disk ← takeOverWithParents {} cwd
  match Invocation.parse start.arguments with
  | .error _ => return { disk, cwd }
  | .ok i =>
    let settings := (i.resolveSettings start.environment).toOption.getD {}
    let place (p : Path) : Place := (p.resolve cwd).parts
    let outputDirs := settings.outputDir.path?.toList
    let disk ← (outputDirs.map place).foldlM takeOverNames disk
    let paths := outputDirs ++ [i.replayFrom, i.saveTo].filterMap (·.bind PathArgument.path?)
    let disk ← (paths.map place).foldlM takeOverWithParents disk
    return { disk, cwd }

/-- Carries out a run, given the lines typed so far and how many events have been shown. -/
partial def interact (start : Start) (session : Session) (typed : List String) (shown : Nat) :
    IO Result := do
  let r := start.run { session with input := typed.map some }
  (r.session.shown.drop shown).forM Event.print
  match r.ending with
  | .escaped (.fault .endOfInput) =>
    let line ← (← IO.getStdin).getLine
    if line.isEmpty then return r
    else
      let line := (line.dropEndWhile (· = '\n')).toString
      interact start session (typed ++ [line]) r.session.shown.length
  | _ => return r

/-- Reports how a run ended and gives its exit code. -/
def Result.finish (r : Result) : IO UInt32 := do
  r.remarks.forM fun remark => IO.eprintln remark.text
  IO.print r.helpShown
  match r.ending with
  | .misused e =>
    helpLines.takeWhile (fun l => !l.isEmpty) |>.forM IO.eprintln
    IO.eprintln ("create-prtw: error: " ++ e.message)
  | .escaped (.scaffold e) => IO.eprintln e.message
  | .escaped (.fault f) => IO.eprintln (f.message "templates")
  | _ => pure ()
  return UInt32.ofNat (r.ending.exitCode?.getD 1)

/-- Runs the program with the given arguments. -/
def runProgram (arguments : List String) : IO UInt32 := do
  let noProgram : OsError := .plain "package managers are not started by this program"
  let start : Start :=
    { arguments, environment := ← readEnvironment, programs := fun _ => .refused noProgram }
  let session ← startSession start
  let r ← interact start session [] 0
  writeBack session.disk r.session.disk
  r.finish

end ReactScaffold

/-- The entry point. -/
def main (arguments : List String) : IO UInt32 := ReactScaffold.runProgram arguments
