import ReactScaffold.Proofs.Execution.Timeline
import ReactScaffold.Proofs.Host.Directories
import ReactScaffold.Proofs.Plan.Layout
import ReactScaffold.Proofs.Session.Files

/-!
# Steps of one kind in a session

What a session is like after several steps of one kind: directories that were ensured, packages
that were installed by commands which leave nothing behind, and files that were written.
-/

namespace ReactScaffold

open ReactScaffold.Action Session Text

variable {programs : Programs} {s t : Session}

/-- A command that succeeds and leaves no files behind. -/
def Programs.SucceedsQuietly (programs : Programs) (command : List String) : Prop :=
  ∃ f, programs command = .started f ∧ f.hangs = false ∧ f.code.getD 0 = 0 ∧ f.created = []

/-- The place that a path names below a directory. -/
def placeOf (cwd : Place) (path : String) : Place := cwd ++ namesOf path

/-- The places on the way to the one that a path names below a directory, which is the last. -/
def placesTo (cwd : Place) (path : String) : List Place := placesAlong cwd (namesOf path)

theorem mem_placesTo {cwd : Place} {path : String} (h : Path.Plain path) :
    placeOf cwd path ∈ placesTo cwd path :=
  mem_placesAlong.2 ⟨namesOf path, List.prefix_rfl, h.nonempty, rfl⟩

theorem Path.Plain.ofText_eq {path : String} (h : Path.Plain path) :
    Path.ofText path = ⟨.here, namesOf path⟩ := Path.Spells.ofText_eq h

theorem Path.Plain.admissible {path : String} (h : Path.Plain path) :
    Admissible (Path.ofText path) := by
  rw [h.ofText_eq]
  exact Path.Spells.notMem_text h

theorem Path.Plain.walk_eq {path : String} (h : Path.Plain path) {d : Disk} {cwd : Place}
    (hcwd : d.get? cwd = some .directory)
    (hdirs : d.DirectoriesAt (placesAlong cwd (namesOf path).dropLast)) :
    d.walk cwd (Path.ofText path) = .ok (placeOf cwd path) := by
  rw [h.ofText_eq]
  exact Disk.walk_of_directories (Path.Spells.fits h) hcwd hdirs

/-- A directory is ensured where no file is on the way. -/
theorem perform_ensureDirectory {path : String} (hplain : Path.Plain path)
    (hcwd : s.disk.get? s.cwd = some .directory) (hfile : s.disk.NoFileAt (placesTo s.cwd path)) :
    ∃ d', ((Step.ensureDirectory path).apply (operations programs)).perform s =
        (.ok (), { s with disk := d' }) ∧
      Disk.Adds s.disk d' (placesTo s.cwd path) := by
  obtain ⟨d', hd', hadds⟩ :=
    Disk.ensureDirectory_of_noFileAt (Path.Spells.fits hplain) hcwd hfile
  refine ⟨d', ?_, hadds⟩
  rw [← hplain.ofText_eq] at hd'
  show (Session.ensureDirectory none path).perform s = _
  simp only [Session.ensureDirectory, makeDirectories, target, perform_bind,
    perform_requirePath_of_admissible hplain.admissible, perform_modifyGet, hd']
  rfl

/-- Directories are ensured one after the other where no file is on the way to any of them. -/
theorem perform_ensureDirectories {paths : List String} (hplain : ∀ path ∈ paths, Path.Plain path)
    (hcwd : s.disk.get? s.cwd = some .directory)
    (hfile : s.disk.NoFileAt (paths.flatMap (placesTo s.cwd))) :
    ∃ d', (Step.applyAll (operations programs) (paths.map .ensureDirectory)).perform s =
        (.ok (), { s with disk := d' }) ∧
      Disk.Adds s.disk d' (paths.flatMap (placesTo s.cwd)) := by
  induction paths generalizing s with
  | nil => exact ⟨s.disk, rfl, .refl s.disk⟩
  | cons path paths ih =>
      rw [List.flatMap_cons] at hfile ⊢
      obtain ⟨hhead, htail⟩ := List.forall_mem_cons.1 hplain
      obtain ⟨d₁, hd₁, hadds⟩ := perform_ensureDirectory hhead hcwd fun place hplace =>
        hfile place (List.mem_append_left _ hplace)
      have hrest : s.disk.NoFileAt (paths.flatMap (placesTo s.cwd)) := fun place hplace =>
        hfile place (List.mem_append_right _ hplace)
      obtain ⟨d', hd', hadds'⟩ := @ih { s with disk := d₁ } htail
        (hadds.keepsDirectories s.cwd hcwd) (hadds.noFileAt hrest)
      refine ⟨d', ?_, hadds.append hadds'⟩
      rw [List.map_cons, Step.perform_applyAll_cons_of_ok hd₁, hd']

/-- The second session has the disk and the working directory of the first. -/
def Session.Alike (s t : Session) : Prop := t.disk = s.disk ∧ t.cwd = s.cwd

theorem Session.Alike.trans {u : Session} (h : s.Alike t) (h' : t.Alike u) : s.Alike u :=
  ⟨h'.1.trans h.1, h'.2.trans h.2⟩

/-- A process that succeeds quietly leaves the disk and the working directory as they were. -/
theorem perform_runProcess_of_quiet {command : List String}
    (h : programs.SucceedsQuietly command) (s : Session) :
    ∃ c t, (runProcess programs command none).perform s = (.ok c, t) ∧ s.Alike t := by
  obtain ⟨f, hf, hhangs, hcode, hcreated⟩ := h
  have hcomplete : f.complete command none =
      .ok ⟨f.code.getD 0, outputText f.output, outputText f.errors, false⟩ := by
    rw [Finish.complete]
    simp [hhangs]
  simp only [runProcess, launch, remark, perform_bind, perform_modify, hf, perform_pure, hcreated,
    List.foldl_nil, hcomplete, perform_ofExcept, Except.mapError, hcode, ne_eq,
    not_true_eq_false, if_false]
  exact ⟨_, _, rfl, rfl, rfl⟩

theorem perform_installSort {manager : PackageManager} {packages : List Dependency} {dev : Bool}
    (h : packageNames packages dev ≠ [] →
      programs.SucceedsQuietly (manager.commands.addCommand (packageNames packages dev) dev))
    (s : Session) :
    ∃ t, (installSort (operations programs) manager packages dev).perform s = (.ok (), t) ∧
      s.Alike t := by
  unfold installSort
  by_cases hnone : packageNames packages dev = []
  · rw [hnone]
    exact ⟨s, rfl, rfl, rfl⟩
  · simp only [List.isEmpty_iff, hnone, if_false, perform_bind, perform_modify]
    obtain ⟨c, t, hrun, halike⟩ := perform_runProcess_of_quiet (h hnone)
      ((operations programs).remark ("Installing: " ++ " ".intercalate
        (manager.commands.addCommand (packageNames packages dev) dev)) s)
    refine ⟨t, ?_, halike⟩
    show ((runProcess programs _ none >>= fun _ => pure ()) : Action Session Unit).perform _ = _
    rw [perform_bind, hrun]
    rfl

theorem perform_installDependencies {manager : PackageManager} {packages : List Dependency}
    {description : String}
    (h : ∀ command ∈ addCommands manager packages, programs.SucceedsQuietly command)
    (s : Session) :
    ∃ t, ((Step.installDependencies manager packages description).apply
        (operations programs)).perform s = (.ok (), t) ∧ s.Alike t := by
  have hsort (dev : Bool) (hnames : packageNames packages dev ≠ []) :
      programs.SucceedsQuietly (manager.commands.addCommand (packageNames packages dev) dev) :=
    h _ (List.mem_filterMap.2 ⟨dev, by cases dev <;> simp, by rw [if_neg hnames]⟩)
  obtain ⟨t, ht, halike⟩ := perform_installSort (hsort false) s
  obtain ⟨u, hu, halike'⟩ := perform_installSort (hsort true) t
  refine ⟨u, ?_, halike.trans halike'⟩
  rw [Step.apply, perform_bind, ht]
  exact hu

/-- Whether the step installs packages. -/
def Step.Installs : Step → Prop
  | .installDependencies _ _ _ => True
  | _ => False

/-- Packages are installed one after the other. -/
theorem perform_installAll {steps : List Step} (hinstalls : ∀ step ∈ steps, step.Installs)
    (h : ∀ command ∈ steps.flatMap Step.commands, programs.SucceedsQuietly command)
    (s : Session) :
    ∃ t, (Step.applyAll (operations programs) steps).perform s = (.ok (), t) ∧ s.Alike t := by
  induction steps generalizing s with
  | nil => exact ⟨s, rfl, rfl, rfl⟩
  | cons step steps ih =>
      rw [List.flatMap_cons] at h
      obtain ⟨hhead, htail⟩ := List.forall_mem_cons.1 hinstalls
      cases step with
      | installDependencies manager packages description =>
          obtain ⟨t, ht, halike⟩ := @perform_installDependencies programs manager packages
            description (fun command hcommand => h command (List.mem_append_left _ hcommand)) s
          obtain ⟨u, hu, halike'⟩ :=
            ih htail (fun command hcommand => h command (List.mem_append_right _ hcommand)) t
          refine ⟨u, ?_, halike.trans halike'⟩
          rw [Step.perform_applyAll_cons_of_ok ht, hu]
      | ensureDirectory path => cases hhead
      | writeFile path content => cases hhead
      | mergeManifestScripts entries manifest => cases hhead

/-- Paths below a directory that lead through directories to no directory. -/
structure Disk.Takes (d : Disk) (cwd : Place) (path : String) : Prop where
  plain : Path.Plain path
  above : d.DirectoriesAt (placesAlong cwd (namesOf path).dropLast)
  vacant : d.get? (placeOf cwd path) ≠ some .directory

/-- The place of a file and its octets. -/
def fileAt (cwd : Place) (file : String × String) : Place × List UInt8 :=
  (placeOf cwd file.1, Utf8.encode file.2.toList)

theorem perform_writeFile {path content : String} (hcwd : s.disk.get? s.cwd = some .directory)
    (h : s.disk.Takes s.cwd path) :
    ((Step.writeFile path content).apply (operations programs)).perform s =
      (.ok (), { s with
        disk := s.disk.set (placeOf s.cwd path) (.file (Utf8.encode content.toList)) }) :=
  perform_writeFile_of_walk h.plain.admissible (Utf8.encodeWide_ofString _)
    (h.plain.walk_eq hcwd h.above) h.vacant

theorem Disk.Takes.set {d : Disk} {cwd place : Place} {path : String} (h : d.Takes cwd path)
    (hplace : d.get? place ≠ some .directory) (content : List UInt8) :
    (d.set place (.file content)).Takes cwd path where
  plain := h.plain
  above other hother := Disk.keepsDirectories_set hplace _ other (h.above other hother)
  vacant := by
    by_cases heq : place = placeOf cwd path
    · rw [heq, Disk.get?_set_self d _ (Disk.ne_nil_of_get?_ne_directory h.vacant)]
      simp
    · rw [Disk.get?_set_of_ne d _ heq]
      exact h.vacant

/-- Files are written one after the other where directories are and no directory is in the place of
a file. -/
theorem perform_writeAll {files : List (String × String)}
    (hcwd : s.disk.get? s.cwd = some .directory)
    (h : ∀ file ∈ files, s.disk.Takes s.cwd file.1) :
    (Step.applyAll (operations programs)
      (files.map fun file => .writeFile file.1 file.2)).perform s =
        (.ok (), { s with disk := s.disk.writeAll (files.map (fileAt s.cwd)) }) := by
  induction files generalizing s with
  | nil => rfl
  | cons file files ih =>
      obtain ⟨hhead, htail⟩ := List.forall_mem_cons.1 h
      rw [List.map_cons, Step.perform_applyAll_cons_of_ok (perform_writeFile hcwd hhead), ih]
      · rfl
      · exact Disk.keepsDirectories_set hhead.vacant _ s.cwd hcwd
      · intro other hother
        exact (htail other hother).set hhead.vacant _

end ReactScaffold
