import ReactScaffold.Session.Basic
import ReactScaffold.Text.LineEnding

/-!
# Files of a session

Directories are ensured and files are read and written below a root, which is the working
directory unless another one is given. What the disk refuses is reported with the path as it was
given.
-/

namespace ReactScaffold

open Text

/-- The report of an error that concerns the given path. -/
def OsError.report (e : OsError) (path : String) : Failure := .scaffold (.fileSystem path e.reason)

namespace Session

/-- The path that is meant by a text below a root. -/
def target (root : Option Path) (path : String) : Path :=
  match root with
  | some r => r.join (Path.ofText path)
  | none => Path.ofText path

/-- Requires a path that can be handed to the operating system. -/
def requirePath (p : Path) : Action Session Unit :=
  if p.text.toList.contains '\x00' then Action.fail .nulInPath else pure ()

/-- Makes a directory and the missing ones above it. Errors are those of the operating system. -/
def makeDirectories (p : Path) : Action Session (Option OsError) := do
  requirePath p
  modifyGet fun s =>
    let (disk, failed) := s.disk.ensureDirectory s.cwd p
    (failed, { s with disk })

/-- Writes octets to a file. Errors are those of the operating system. -/
def writeOctets (p : Path) (octets : List UInt8) : Action Session (Option OsError) := do
  requirePath p
  modifyGet fun s =>
    match s.disk.writeFile s.cwd p octets with
    | .ok disk => (none, { s with disk })
    | .error r => (some (r.error p.text), s)

/-- Reads the octets of a file. Errors are those of the operating system. -/
def readOctets (p : Path) : Action Session (Except OsError (List UInt8)) := do
  requirePath p
  return match (← get).disk.readFile (← get).cwd p with
    | .ok octets => .ok octets
    | .error r => .error (r.error p.text)

/-- Stops with an error that concerns a path, if there is one. -/
def reportFor (path : String) (e : Option OsError) : Action Session Unit :=
  match e with
  | some e => throw (e.report path)
  | none => pure ()

/-- Ensures that there is a directory. -/
def ensureDirectory (root : Option Path) (path : String) : Action Session Unit := do
  reportFor path (← makeDirectories (target root path))

/-- Writes a text to a file. The file is emptied before the text is turned into octets. -/
def writeFile (root : Option Path) (path : String) (content : WideText) : Action Session Unit := do
  let p := target root path
  match Utf8.encodeWide content with
  | .ok octets => reportFor path (← writeOctets p octets)
  | .error e =>
    reportFor path (← writeOctets p [])
    Action.fail (.unencodable e)

/-- The members of the object that a text is. -/
def parseObject (path : String) (cs : List Char) : Except Failure Members :=
  let failed (reason : String) : Failure := .scaffold (.fileSystem path reason)
  match Json.parse cs with
  | .ok (.obj members) => .ok members
  | .ok _ => .error (failed "expected a JSON object")
  | .error (.miss expected left) =>
    .error (failed ("invalid JSON: " ++ (Json.Flaw.miss expected left).message cs))
  | .error f => .error (.fault (.json f))

/-- Reads a file that holds an object. -/
def readJson (root : Option Path) (path : String) : Action Session Members := do
  match ← readOctets (target root path) with
  | .error e => throw (e.report path)
  | .ok octets =>
    match Utf8.decode octets with
    | .error e =>
      Action.refuse (.fileSystem path ("not valid UTF-8: " ++ e.flaw.reason))
    | .ok cs => Action.ofExcept id (parseObject path (normalizeLineEndings cs))

/-- Writes a document to a file. -/
def writeJson (root : Option Path) (path : String) (d : Json.Document) : Action Session Unit :=
  writeFile root path (Json.dumpDocument d)

end Session

end ReactScaffold
