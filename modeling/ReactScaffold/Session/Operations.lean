import ReactScaffold.Execution.Run
import ReactScaffold.Session.Files
import ReactScaffold.Session.Processes

/-!
# The operations of a session

Plans are run on the disk of a session, below its working directory, with the given programs.
-/

namespace ReactScaffold

open Text

/-- The operations on a session. -/
def Session.operations (programs : Programs) : Operations Session where
  runCommand command := do
    let _ ← Session.runProcess programs command none
  ensureDirectory path := Session.ensureDirectory none path
  writeFile path content := Session.writeFile none path (WideText.ofString content)
  readJson path := Session.readJson none path
  writeJson path members := Session.writeJson none path (.obj members)
  remark text s := s.addRemark .debug .steps text

end ReactScaffold
