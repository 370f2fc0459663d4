import ReactScaffold.CommandLine.Run
import ReactScaffold.Proofs.Project.Saved
import ReactScaffold.Proofs.Session.Timeline

/-!
# Saving a project and replaying it

A project is saved by making the missing directories above a file and writing the file.
`Session.saveProject_replays` says what a later run makes of the file: the same project, or the same
project under another name.
-/

namespace ReactScaffold

open Text ReactScaffold.Action

namespace Session

variable {s s' : Session} {path : Path}

theorem perform_makeDirectories_of_admissible {p : Path} (h : Admissible p) (s : Session) :
    (makeDirectories p).perform s =
      (.ok (s.disk.ensureDirectory s.cwd p).2,
        { s with disk := (s.disk.ensureDirectory s.cwd p).1 }) := by
  rw [makeDirectories, perform_bind, perform_requirePath_of_admissible h]
  rfl

/-- All that saving a project can come to: it fails before anything is touched, it fails after
missing directories were made, or the file is written. -/
theorem perform_saveProject_cases (p : Project) (path : Path) (s : Session) :
    (∃ f, (saveProject p path).perform s = (.error f, s)) ∨
      ∃ d, d = (s.disk.ensureDirectory s.cwd path.parent).1 ∧
        ((∃ f, (saveProject p path).perform s = (.error f, { s with disk := d })) ∨
          ∃ place remarks, Admissible path ∧ d.walk s.cwd path = .ok place ∧
            d.get? place ≠ some .directory ∧
            (saveProject p path).perform s =
              (.ok (), { s with
                disk := d.set place (.file (Utf8.encode p.savedText.toList)), remarks })) := by
  rw [saveProject, perform_bind]
  by_cases hparent : Admissible path.parent
  · rw [perform_makeDirectories_of_admissible hparent]
    refine .inr ⟨_, rfl, ?_⟩
    generalize s.disk.ensureDirectory s.cwd path.parent = made
    obtain ⟨d, e⟩ := made
    dsimp only
    cases e with
    | some e => exact .inl ⟨_, rfl⟩
    | none =>
        by_cases hpath : Admissible path
        · simp only [requireNone, perform_bind, perform_pure,
            perform_writeOctets_of_admissible hpath]
          cases hwrite : d.writeFile s.cwd path (Utf8.encode p.savedText.toList) with
          | error r => exact .inl ⟨_, rfl⟩
          | ok disk =>
              obtain ⟨place, hwalk, hnot, rfl⟩ := Disk.writeFile_eq_ok_iff.1 hwrite
              exact .inr ⟨place, _, hpath, hwalk, hnot, rfl⟩
        · simp only [requireNone, perform_bind, perform_pure, writeOctets,
            perform_requirePath_of_not_admissible hpath]
          exact .inl ⟨_, rfl⟩
  · rw [makeDirectories, perform_bind, perform_requirePath_of_not_admissible hparent]
    exact .inl ⟨_, rfl⟩

/-- A saved project is in the file that it was saved in. -/
theorem readFile_of_saveProject {p : Project}
    (h : (saveProject p path).perform s = (.ok (), s')) :
    Admissible path ∧ s'.disk.readFile s'.cwd path = .ok (Utf8.encode p.savedText.toList) := by
  rcases perform_saveProject_cases p path s with
    ⟨f, heq⟩ | ⟨d, -, ⟨f, heq⟩ | ⟨place, remarks, hpath, hwalk, hnot, heq⟩⟩
  · cases heq.symm.trans h
  · cases heq.symm.trans h
  · obtain ⟨-, rfl⟩ := Prod.mk.inj (heq.symm.trans h)
    exact ⟨hpath, Disk.readFile_set hwalk hnot _⟩

/-- A project is loaded from a file that it is saved in. -/
theorem perform_loadProject_of_readFile {p : Project} (hpath : Admissible path)
    (h : s.disk.readFile s.cwd path = .ok (Utf8.encode p.savedText.toList)) :
    (loadProject path).perform s = (.ok p, s) := by
  rw [loadProject, perform_bind, perform_readOctets_of_admissible hpath, h]
  simp only [Except.mapError, Project.ofSavedFile_savedText]
  rfl

theorem perform_renameProject (p : Project) {answers : Answers} {name : String} (hne : name ≠ "")
    (hgiven : answers.given? "project_name" = some (.str name)) (s : Session) :
    (renameProject p answers).perform s =
      ((Project.ofAnswers (OrderedMap.insert p.toAnswers "project_name" (.str name))).mapError
        fun e => .fault (.invalid e), s) := by
  have hempty : name.isEmpty = false := by simpa using hne
  rw [renameProject, hgiven]
  simp only [hempty]
  exact perform_ofExcept _ _ s

/-- An invocation that replays a file which holds a project resolves to that project, under the name
that it gives. -/
theorem perform_resolveProject_of_replayFrom {i : Invocation} (settings : Settings) {p : Project}
    (hreplay : i.replayFrom = some (.path path))
    (hload : (loadProject path).perform s = (.ok p, s)) :
    (resolveProject i settings).perform s = (renameProject p i.answers).perform s := by
  rw [resolveProject, hreplay]
  show (loadProject path >>= fun q => renameProject q i.answers).perform s = _
  rw [perform_bind, hload]

/-- The file of a saved project holds its text. The project is loaded from there as it was, and
saving what was loaded leaves the same octets. A run that replays the file has the same project,
with the name that its command line gives in place of its own; a name that is none is the one issue
of the replay. -/
theorem saveProject_replays {p : Project}
    (h : (saveProject p path).perform s = (.ok (), s')) :
    s'.disk.readFile s'.cwd path = .ok (Utf8.encode p.savedText.toList) ∧
      (loadProject path).perform s' = (.ok p, s') ∧
      (∀ other t, (loadProject path >>= fun q => saveProject q other).perform s' = (.ok (), t) →
        t.disk.readFile t.cwd other = s'.disk.readFile s'.cwd path) ∧
      ∀ (i : Invocation) (settings : Settings), i.replayFrom = some (.path path) →
        (i.answers.given? "project_name" = none →
          (resolveProject i settings).perform s' = (.ok p, s')) ∧
        (∀ name : ProjectName, i.answers.given? "project_name" = some (.str name.text) →
          (resolveProject i settings).perform s' = (.ok { p with name }, s')) ∧
        ∀ text : String, text ≠ "" → isProjectName text.toList = false →
          i.answers.given? "project_name" = some (.str text) →
            (resolveProject i settings).perform s' =
              (.error (.fault (.invalid
                ⟨"ProjectConfig", [⟨[.field "project_name"], .patternMismatch⟩]⟩)), s') := by
  obtain ⟨hpath, hfile⟩ := readFile_of_saveProject h
  have hload := perform_loadProject_of_readFile hpath hfile
  refine ⟨hfile, hload, fun other t hsave => ?_, fun i settings hreplay => ⟨fun hgiven => ?_,
    fun name hgiven => ?_, fun text hne hinvalid hgiven => ?_⟩⟩
  · rw [perform_bind, hload] at hsave
    exact (readFile_of_saveProject hsave).2.trans hfile.symm
  · rw [perform_resolveProject_of_replayFrom settings hreplay hload, renameProject, hgiven]
    rfl
  · have hne : name.text ≠ "" := by
      intro hempty
      have hvalid := name.valid
      rw [hempty] at hvalid
      cases hvalid
    rw [perform_resolveProject_of_replayFrom settings hreplay hload,
      perform_renameProject p hne hgiven, Project.ofAnswers_insert_name]
    rfl
  · rw [perform_resolveProject_of_replayFrom settings hreplay hload,
      perform_renameProject p hne hgiven,
      Project.ofAnswers_insert_of_not_isProjectName p hne hinvalid]
    rfl

/-- A project that breaks both gates. -/
def ungatedProject : Project where
  name := ⟨"my_app-1", rfl⟩
  framework := .nextjs
  styling := .vanillaCss
  tailwindVersion := some .v4
  testing := true

/-- An invocation that replays a file, and gives a name beside. -/
def replaying (path : Path) (name : String) : Invocation where
  answers := [("project_name", .str name)]
  replayFrom := some (.path path)

theorem perform_eq_of_isOk {a : Action Session Unit} (h : (a.perform s).1.isOk = true) :
    a.perform s = (.ok (), (a.perform s).2) := by
  cases hperform : a.perform s with
  | mk result t =>
      rw [hperform] at h
      cases result with
      | error f => cases h
      | ok x => rfl

/-- The project is saved in a directory that is not there yet. It is replayed under its own name,
under another one, and under one that is none. -/
theorem saveProject_replays_ungated :
    ∃ path s' t,
      (saveProject ungatedProject path).perform {} = (.ok (), s') ∧
      s'.disk.readFile s'.cwd path = .ok (Utf8.encode ungatedProject.savedText.toList) ∧
      (loadProject path).perform s' = (.ok ungatedProject, s') ∧
      (loadProject path >>= fun q => saveProject q path).perform s' = (.ok (), t) ∧
      t.disk.readFile t.cwd path = s'.disk.readFile s'.cwd path ∧
      (resolveProject { replayFrom := some (.path path) } {}).perform s' =
        (.ok ungatedProject, s') ∧
      (resolveProject (replaying path "other") {}).perform s' =
        (.ok { ungatedProject with name := ⟨"other", rfl⟩ }, s') ∧
      (resolveProject (replaying path "a/b") {}).perform s' =
        (.error (.fault (.invalid
          ⟨"ProjectConfig", [⟨[.field "project_name"], .patternMismatch⟩]⟩)), s') := by
  obtain ⟨path, s', t, hsave, hsecond⟩ : ∃ path s' t,
      (saveProject ungatedProject path).perform {} = (.ok (), s') ∧
      (saveProject ungatedProject path).perform s' = (.ok (), t) :=
    ⟨Path.ofText "saved/answers.json", _, _, perform_eq_of_isOk (by decide +kernel),
      perform_eq_of_isOk (by decide +kernel)⟩
  obtain ⟨hfile, hload, hagain, hreplay⟩ := saveProject_replays hsave
  have hboth : (loadProject path >>= fun q => saveProject q path).perform s' = (.ok (), t) := by
    rw [perform_bind, hload]
    exact hsecond
  exact ⟨path, s', t, hsave, hfile, hload, hboth, hagain _ _ hboth, (hreplay _ {} rfl).1 rfl,
    (hreplay (replaying _ "other") {} rfl).2.1 ⟨"other", rfl⟩ rfl,
    (hreplay (replaying _ "a/b") {} rfl).2.2 "a/b" (by decide) (by decide) rfl⟩

end Session

end ReactScaffold
