import ReactScaffold.Proofs.Execution.Phases
import ReactScaffold.Proofs.Manifest
import ReactScaffold.Proofs.Plan.Compile

/-!
# Applying a plan

The plan of a project can be applied wherever no file is in the way of a directory, no directory is
in the place of a file and the manifest can be read. `Plan.compile_applies` says what is there
afterwards.
-/

namespace ReactScaffold

open Session Text

variable {programs : Programs} {s t : Session} {d d' : Disk} {cwd : Place} {path : String}
variable {directories : List String} {files : List (String × String)}

theorem placeOf_mem_placesTo {directory : String} :
    placeOf cwd path ∈ placesTo cwd directory ↔
      namesOf path ∈ placesAlong [] (namesOf directory) := by
  rw [placesTo, placesAlong_eq_map]
  exact List.mem_map_of_injective (List.append_right_injective cwd)

theorem namesOf_manifestPath : namesOf manifestPath = [manifestPath] :=
  spells_manifestPath.namesOf_eq

theorem walk_manifestPath (hcwd : d.get? cwd = some .directory) :
    d.walk cwd (Path.ofText manifestPath) = .ok (placeOf cwd manifestPath) :=
  spells_manifestPath.isPlain.walk_eq hcwd fun place hplace => by
    rw [namesOf_manifestPath] at hplace
    cases hplace

theorem get?_of_holdsObject {manifest : Members} (hcwd : s.disk.get? s.cwd = some .directory)
    (h : s.HoldsObject (Path.ofText manifestPath) manifest) :
    s.disk.get? (placeOf s.cwd manifestPath) ≠ some .directory := by
  obtain ⟨-, octets, cs, hread, -, -⟩ := h
  obtain ⟨place, hwalk, hfile⟩ := Disk.readFile_eq_ok_iff.1 hread
  rw [walk_manifestPath hcwd] at hwalk
  rw [Except.ok.inj hwalk, hfile]
  simp

/-- An object is held as long as its file stays. -/
theorem HoldsObject.of_get?_eq {manifest : Members} (hcwd : s.disk.get? s.cwd = some .directory)
    (htcwd : t.cwd = s.cwd) (ht : t.disk.get? t.cwd = some .directory)
    (hfile : t.disk.get? (placeOf s.cwd manifestPath) = s.disk.get? (placeOf s.cwd manifestPath))
    (h : s.HoldsObject (Path.ofText manifestPath) manifest) :
    t.HoldsObject (Path.ofText manifestPath) manifest := by
  obtain ⟨hadmissible, octets, cs, hread, hdecode, hparse⟩ := h
  refine ⟨hadmissible, octets, cs, ?_, hdecode, hparse⟩
  obtain ⟨place, hwalk, hplace⟩ := Disk.readFile_eq_ok_iff.1 hread
  rw [walk_manifestPath hcwd] at hwalk
  obtain rfl := Except.ok.inj hwalk
  rw [Disk.readFile_eq_ok_iff]
  refine ⟨placeOf t.cwd manifestPath, walk_manifestPath ht, ?_⟩
  rw [htcwd, hfile, hplace]

namespace Layout

variable {paths : List String}

theorem notMem_placesTo (h : Layout directories paths) (hpath : path ∈ paths) :
    placeOf cwd path ∉ directories.flatMap (placesTo cwd) := by
  intro hmem
  obtain ⟨directory, hd, hplace⟩ := List.mem_flatMap.1 hmem
  exact h.apart path hpath directory hd (placeOf_mem_placesTo.1 hplace)

/-- What is in the place of a file stays when the directories are added. -/
theorem get?_of_adds (h : Layout directories paths) (hpath : path ∈ paths)
    (hadds : Disk.Adds d d' (directories.flatMap (placesTo cwd))) :
    d'.get? (placeOf cwd path) = d.get? (placeOf cwd path) := by
  rw [hadds, if_neg (h.notMem_placesTo hpath)]

/-- With the directories added, a path whose place is free leads there. -/
theorem takes (h : Layout directories paths) (hpath : path ∈ paths)
    (hadds : Disk.Adds d d' (directories.flatMap (placesTo cwd)))
    (hvacant : d.get? (placeOf cwd path) ≠ some .directory) : d'.Takes cwd path where
  plain := h.file_plain path hpath
  above place hplace := by
    rw [placesAlong_eq_map] at hplace
    obtain ⟨names, hnames, rfl⟩ := List.mem_map.1 hplace
    obtain ⟨directory, hd, hmem⟩ := h.above path hpath names hnames
    refine hadds.directoriesAt _ (List.mem_flatMap.2 ⟨directory, hd, ?_⟩)
    rw [placesTo, placesAlong_eq_map]
    exact List.mem_map_of_mem hmem
  vacant := by
    rw [h.get?_of_adds hpath hadds]
    exact hvacant

theorem nodup_placeOf (h : Layout directories paths) (cwd : Place) :
    (paths.map (placeOf cwd)).Nodup := by
  have hplaces : paths.map (placeOf cwd) = (paths.map namesOf).map (cwd ++ ·) := by
    rw [List.map_map]
    rfl
  rw [hplaces]
  exact h.distinct.map (List.append_right_injective cwd)

end Layout

theorem map_fst_fileAt (cwd : Place) (files : List (String × String)) :
    (files.map (fileAt cwd)).map Prod.fst = (files.map Prod.fst).map (placeOf cwd) := by
  rw [List.map_map, List.map_map]
  rfl

/-- Directories, packages and files that fit together are put on a disk one after the other. -/
theorem exists_applied {installs : List Step}
    (hlayout : Layout directories (manifestPath :: files.map Prod.fst))
    (hinstalls : ∀ step ∈ installs, step.Installs)
    (hquiet : ∀ command ∈ installs.flatMap Step.commands, programs.SucceedsQuietly command)
    (hcwd : s.disk.get? s.cwd = some .directory)
    (hclear : s.disk.NoFileAt (directories.flatMap (placesTo s.cwd)))
    (hvacant : ∀ file ∈ files, s.disk.get? (placeOf s.cwd file.1) ≠ some .directory) :
    ∃ d' t, (Step.applyAll (operations programs) (directories.map Step.ensureDirectory ++
        installs ++ files.map fun file => Step.writeFile file.1 file.2)).perform s = (.ok (), t) ∧
      t.cwd = s.cwd ∧ t.disk.get? t.cwd = some .directory ∧
      Disk.Adds s.disk d' (directories.flatMap (placesTo s.cwd)) ∧
      t.disk = d'.writeAll (files.map (fileAt s.cwd)) := by
  obtain ⟨d', hensured, hadds⟩ :=
    @perform_ensureDirectories programs s directories hlayout.directory_plain hcwd hclear
  obtain ⟨u, hinstalled, hdisk, hucwd⟩ :=
    perform_installAll hinstalls hquiet { s with disk := d' }
  have htakes : ∀ file ∈ files, u.disk.Takes u.cwd file.1 := by
    intro file hfile
    rw [hdisk, hucwd]
    exact hlayout.takes (List.mem_cons_of_mem _ (List.mem_map_of_mem hfile)) hadds
      (hvacant file hfile)
  have hucwd' : u.disk.get? u.cwd = some .directory := by
    rw [hdisk, hucwd]
    exact hadds.keepsDirectories s.cwd hcwd
  have hkeeps : Disk.KeepsDirectories u.disk (u.disk.writeAll (files.map (fileAt u.cwd))) := by
    refine Disk.keepsDirectories_writeAll fun e he => ?_
    obtain ⟨file, hfile, rfl⟩ := List.mem_map.1 he
    exact (htakes file hfile).vacant
  refine ⟨d', { u with disk := u.disk.writeAll (files.map (fileAt u.cwd)) }, ?_, hucwd,
    hkeeps u.cwd hucwd', hadds, ?_⟩
  · rw [List.append_assoc, Step.perform_applyAll_append hensured,
      Step.perform_applyAll_append hinstalled, perform_writeAll hucwd' htakes]
  · rw [hdisk, hucwd]

/-- A session in which the steps of the plan find what they need: no file is in the way of a
directory, and no directory is in the place of a file. -/
structure Session.Receives (s : Session) (plan : Plan) : Prop where
  here : s.disk.get? s.cwd = some .directory
  clear (path : String) (h : .ensureDirectory path ∈ plan.steps) :
    s.disk.NoFileAt (placesTo s.cwd path)
  vacant (path content : String) (h : .writeFile path content ∈ plan.steps) :
    s.disk.get? (placeOf s.cwd path) ≠ some .directory

/-- The second session has the directories and files of the plan. What is neither the place of a
file nor on the way to a directory of the plan is as it was in the first. -/
structure Session.HasReceived (s : Session) (plan : Plan) (t : Session) : Prop where
  here : t.cwd = s.cwd
  directory (path : String) (h : .ensureDirectory path ∈ plan.steps) :
    t.disk.get? (placeOf s.cwd path) = some .directory
  file (path content : String) (h : .writeFile path content ∈ plan.steps) :
    t.disk.readFile t.cwd (Path.ofText path) = .ok (Utf8.encode content.toList)
  others (place : Place)
    (hfile : ∀ path ∈ plan.steps.filterMap Step.target?, place ≠ placeOf s.cwd path)
    (hdirectory : ∀ path, .ensureDirectory path ∈ plan.steps → place ∉ placesTo s.cwd path) :
    t.disk.get? place = s.disk.get? place

/-- A path that leads through directories leads to the file at its place. -/
theorem Disk.Takes.readFile_eq {content : List UInt8} (h : d.Takes cwd path)
    (hcwd : d.get? cwd = some .directory) (hkeeps : Disk.KeepsDirectories d d')
    (hfile : d'.get? (placeOf cwd path) = some (.file content)) :
    d'.readFile cwd (Path.ofText path) = .ok content :=
  Disk.readFile_eq_ok_iff.2
    ⟨placeOf cwd path, hkeeps.walk (h.plain.walk_eq hcwd h.above), hfile⟩

section Compiled

variable {p : Project} {manifest old : Members}

theorem Session.Receives.noFileAt (h : s.Receives ⟨p.stepsWith files⟩) :
    s.disk.NoFileAt (p.directories.flatMap (placesTo s.cwd)) := by
  intro place hplace
  obtain ⟨path, hpath, hmem⟩ := List.mem_flatMap.1 hplace
  exact h.clear path (Project.ensureDirectory_mem_stepsWith.2 hpath) place hmem

/-- The places and octets of what a plan writes, the manifest last. -/
def entriesOf (cwd : Place) (files : List (String × String)) (octets : List UInt8) :
    List (Place × List UInt8) :=
  files.map (fileAt cwd) ++ [(placeOf cwd manifestPath, octets)]

section Written

variable {octets : List UInt8}
  (hlayout : Layout directories (manifestPath :: files.map Prod.fst))

theorem map_fst_entriesOf :
    (entriesOf cwd files octets).map Prod.fst =
      (files.map Prod.fst ++ [manifestPath]).map (placeOf cwd) := by
  rw [entriesOf, List.map_append, List.map_append, map_fst_fileAt]
  rfl

include hlayout in
theorem nodup_entriesOf : ((entriesOf cwd files octets).map Prod.fst).Nodup := by
  rw [map_fst_entriesOf]
  exact ((List.perm_append_singleton ..).map _).nodup_iff.2 (hlayout.nodup_placeOf cwd)

include hlayout in
/-- Writing the files keeps the directories when no directory is in the place of a file. -/
theorem keepsDirectories_entriesOf
    (hvacant : ∀ path ∈ manifestPath :: files.map Prod.fst,
      d.get? (placeOf cwd path) ≠ some .directory)
    (hadds : Disk.Adds d d' (directories.flatMap (placesTo cwd))) :
    Disk.KeepsDirectories d' (d'.writeAll (entriesOf cwd files octets)) := by
  refine Disk.keepsDirectories_writeAll fun e he => ?_
  have hmem : e.1 ∈ (files.map Prod.fst ++ [manifestPath]).map (placeOf cwd) := by
    rw [← map_fst_entriesOf]
    exact List.mem_map_of_mem he
  obtain ⟨path, hpath, hplace⟩ := List.mem_map.1 hmem
  rw [(List.perm_append_singleton ..).mem_iff] at hpath
  rw [← hplace, hlayout.get?_of_adds hpath hadds]
  exact hvacant path hpath

end Written

/-- With its directories added and its files written, the manifest last, a plan is received. -/
theorem hasReceived_of_disk {octets : List UInt8}
    (hlayout : Layout p.directories (manifestPath :: files.map Prod.fst))
    (hcwd : s.disk.get? s.cwd = some .directory)
    (hvacant : ∀ path ∈ manifestPath :: files.map Prod.fst,
      s.disk.get? (placeOf s.cwd path) ≠ some .directory)
    (hadds : Disk.Adds s.disk d' (p.directories.flatMap (placesTo s.cwd)))
    (htcwd : t.cwd = s.cwd) (ht : t.disk = d'.writeAll (entriesOf s.cwd files octets)) :
    s.HasReceived ⟨p.stepsWith files⟩ t := by
  have hkeeps : Disk.KeepsDirectories d' t.disk := by
    rw [ht]
    exact keepsDirectories_entriesOf hlayout hvacant hadds
  refine ⟨htcwd, fun path h => ?_, fun path content h => ?_, fun place hfile hdirectory => ?_⟩
  · have hpath : path ∈ p.directories := Project.ensureDirectory_mem_stepsWith.1 h
    refine hkeeps _ (hadds.directoriesAt _ (List.mem_flatMap.2 ⟨path, hpath, ?_⟩))
    exact mem_placesTo (hlayout.directory_plain path hpath)
  · have hwritten : (path, content) ∈ files := Project.writeFile_mem_stepsWith.1 h
    have hpath : path ∈ manifestPath :: files.map Prod.fst :=
      List.mem_cons_of_mem _ (List.mem_map_of_mem hwritten)
    have htakes := hlayout.takes hpath hadds (hvacant path hpath)
    have hentry : fileAt s.cwd (path, content) ∈ entriesOf s.cwd files octets :=
      List.mem_append_left _ (List.mem_map_of_mem hwritten)
    rw [htcwd]
    refine htakes.readFile_eq (hadds.keepsDirectories s.cwd hcwd) hkeeps ?_
    rw [ht]
    exact Disk.get?_writeAll_of_mem (nodup_entriesOf hlayout) hentry
      (Disk.ne_nil_of_get?_ne_directory htakes.vacant)
  · rw [Project.filterMap_target?_stepsWith] at hfile
    rw [ht, Disk.get?_writeAll_of_notMem, hadds, if_neg]
    · intro hmem
      obtain ⟨path, hpath, hplace⟩ := List.mem_flatMap.1 hmem
      exact hdirectory path (Project.ensureDirectory_mem_stepsWith.2 hpath) hplace
    · rw [map_fst_entriesOf]
      intro hmem
      obtain ⟨path, hpath, rfl⟩ := List.mem_map.1 hmem
      exact hfile path hpath rfl

theorem installs_of_mem_installSteps {step : Step} (h : step ∈ p.installSteps) :
    step.Installs := by
  obtain ⟨packages, description, rfl⟩ := Project.mem_installSteps h
  trivial

theorem mem_commands_stepsWith {command : List String}
    (h : command ∈ p.installSteps.flatMap Step.commands) :
    command ∈ (p.stepsWith files).flatMap Step.commands := by
  rw [Project.stepsWith, List.flatMap_append, List.flatMap_append, List.flatMap_append]
  exact List.mem_append_left _ (List.mem_append_left _ (List.mem_append_right _ h))

/-- The steps of a project are carried out where they find what they need: its directories are
added and its files are written, the manifest last. -/
theorem exists_written (hfiles : files.map Prod.fst = p.files.map fun kind => kind.path p)
    (hreceives : s.Receives ⟨p.stepsWith files⟩)
    (hquiet : ∀ command ∈ (p.stepsWith files).flatMap Step.commands,
      programs.SucceedsQuietly command)
    (hholds : s.HoldsObject (Path.ofText manifestPath) manifest)
    (hplain : Json.Plain (.obj manifest)) (hold : scriptsOf? manifest = some old) :
    ∃ d' octets t,
      Utf8.encodeWide (Json.dumpDocument (.obj (mergedManifest manifest old p.scripts))) =
        .ok octets ∧
      (Step.applyAll (operations programs) (p.stepsWith files)).perform s = (.ok (), t) ∧
      t.cwd = s.cwd ∧ Disk.Adds s.disk d' (p.directories.flatMap (placesTo s.cwd)) ∧
      t.disk = d'.writeAll (entriesOf s.cwd files octets) ∧
      t.HoldsObject (Path.ofText manifestPath) (mergedManifest manifest old p.scripts) := by
  have hlayout : Layout p.directories (manifestPath :: files.map Prod.fst) := by
    rw [hfiles]
    exact p.layout
  obtain ⟨d', u, happlied, hucwd, huhere, hadds, hdisk⟩ := exists_applied hlayout
    (fun _ => installs_of_mem_installSteps)
    (fun command hcommand => hquiet command (mem_commands_stepsWith hcommand))
    hreceives.here hreceives.noFileAt fun file hfile =>
      hreceives.vacant file.1 file.2 (Project.writeFile_mem_stepsWith.2 hfile)
  -- the manifest is what it was, since no step before the last has written it
  have honce : placeOf s.cwd manifestPath ∉ (files.map (fileAt s.cwd)).map Prod.fst := by
    rw [map_fst_fileAt]
    exact (List.nodup_cons.1 (hlayout.nodup_placeOf s.cwd)).1
  have hkept : u.disk.get? (placeOf s.cwd manifestPath) =
      s.disk.get? (placeOf s.cwd manifestPath) := by
    rw [hdisk, Disk.get?_writeAll_of_notMem honce, hlayout.get?_of_adds List.mem_cons_self hadds]
  have hheld : u.HoldsObject (Path.ofText manifestPath) manifest :=
    HoldsObject.of_get?_eq hreceives.here hucwd huhere hkept hholds
  obtain ⟨octets, place, t, hencode, hmerge, hwalk, ht, hmerged⟩ :=
    @perform_mergeManifestScripts_of_plain manifest old p.scripts programs manifestPath u hheld
      hplain hold
  rw [walk_manifestPath huhere] at hwalk
  obtain rfl := Except.ok.inj hwalk
  refine ⟨d', octets, t, hencode, ?_, ?_, hadds, ?_, hmerged⟩
  · rw [Project.stepsWith, Step.perform_applyAll_append happlied,
      Step.perform_applyAll_cons_of_ok hmerge]
    rfl
  · rw [ht]
    exact hucwd
  · rw [entriesOf, Disk.writeAll_concat, ht, hucwd, hdisk]

/-- No directory is in the place of a file of the plan or of the manifest. -/
theorem Session.Receives.get?_ne_directory (h : s.Receives ⟨p.stepsWith files⟩)
    (hholds : s.HoldsObject (Path.ofText manifestPath) manifest) :
    ∀ path ∈ manifestPath :: files.map Prod.fst,
      s.disk.get? (placeOf s.cwd path) ≠ some .directory := by
  refine List.forall_mem_cons.2 ⟨get?_of_holdsObject h.here hholds, fun path hpath => ?_⟩
  obtain ⟨file, hfile, rfl⟩ := List.mem_map.1 hpath
  exact h.vacant file.1 file.2 (Project.writeFile_mem_stepsWith.2 hfile)

/-- The plan of a project is applied where it finds what it needs. -/
theorem exists_hasReceived (hfiles : files.map Prod.fst = p.files.map fun kind => kind.path p)
    (hreceives : s.Receives ⟨p.stepsWith files⟩)
    (hquiet : ∀ command ∈ (p.stepsWith files).flatMap Step.commands,
      programs.SucceedsQuietly command)
    (hholds : s.HoldsObject (Path.ofText manifestPath) manifest)
    (hplain : Json.Plain (.obj manifest)) (hold : scriptsOf? manifest = some old) :
    ∃ t merged, (Step.applyAll (operations programs) (p.stepsWith files)).perform s = (.ok (), t) ∧
      s.HasReceived ⟨p.stepsWith files⟩ t ∧
      t.HoldsObject (Path.ofText manifestPath) merged ∧
      IsMerged manifest old p.scripts merged := by
  have hlayout : Layout p.directories (manifestPath :: files.map Prod.fst) := by
    rw [hfiles]
    exact p.layout
  obtain ⟨d', octets, t, -, happlied, htcwd, hadds, htdisk, hmerged⟩ :=
    exists_written hfiles hreceives hquiet hholds hplain hold
  exact ⟨t, _, happlied, hasReceived_of_disk hlayout hreceives.here
    (hreceives.get?_ne_directory hholds) hadds htcwd htdisk, hmerged,
    isMerged_mergedManifest p.nodup_keys_scripts⟩

/-- The scripts that a user is told to run are among those of the merged manifest. -/
theorem IsMerged.exists_nextScript {merged : Members} (h : IsMerged manifest old p.scripts merged) :
    ∃ scripts, OrderedMap.get? merged scriptsName = some (.obj scripts) ∧
      ∀ item ∈ p.nextSteps, item = ("cd", p.name.text) ∨
        ∃ script command, item.2 = scriptCommand (Axis.value p.packageManager) script ∧
          OrderedMap.get? scripts (WideText.ofString script) =
            some (.str (WideText.ofString command)) := by
  obtain ⟨scripts, hscripts, -, hget⟩ := h.scripts
  refine ⟨scripts, hscripts, fun item hitem => ?_⟩
  rcases Project.mem_nextSteps hitem with hcd | ⟨script, hscript, hitem⟩
  · exact .inl hcd
  · obtain ⟨command, hcommand⟩ := Project.exists_script hscript
    refine .inr ⟨script, command, hitem, ?_⟩
    rw [hget, get?_scriptMembers, hcommand]
    rfl

theorem nodup_targets (hfiles : files.map Prod.fst = p.files.map fun kind => kind.path p) :
    (((p.stepsWith files).filterMap Step.target?).map namesOf).Nodup := by
  rw [Project.filterMap_target?_stepsWith, hfiles]
  exact ((List.perm_append_singleton ..).map namesOf).nodup_iff.2 p.layout.distinct

end Compiled

/-- The plan of a project exists when the project is within the gates, and it applies cleanly: each
step succeeds wherever no file is in the way of a directory, no directory is in the place of a file,
the manifest holds a plain object with scripts to merge into and the commands leave no files
behind. Its directories and files are there afterwards, the manifest is the merged one and has the
scripts that a user is told to run, and everything else is as it was. -/
theorem Plan.compile_applies {p : Project} (hgates : p.gatingFault? = none) :
    ∃ plan, Plan.compile p = .ok plan ∧
      ((plan.steps.filterMap Step.target?).map namesOf).Nodup ∧
      (∀ entries path, .mergeManifestScripts entries path ∈ plan.steps ↔
        entries = p.scripts ∧ path = manifestPath) ∧
      ∀ (programs : Programs) (s : Session) (manifest old : Members),
        s.Receives plan →
        (∀ command ∈ plan.steps.flatMap Step.commands, programs.SucceedsQuietly command) →
        (readJson none manifestPath).perform s = (.ok manifest, s) →
        Json.Plain (.obj manifest) → scriptsOf? manifest = some old →
        let course := plan.run (operations programs) s
        course.outcome = .ok (reportsFrom [.succeeded] 0 plan.steps) ∧
        s.HasReceived plan course.state ∧
        ∃ merged, (readJson none manifestPath).perform course.state = (.ok merged, course.state) ∧
          IsMerged manifest old p.scripts merged ∧
          ∃ scripts, OrderedMap.get? merged scriptsName = some (.obj scripts) ∧
            ∀ item ∈ p.nextSteps, item = ("cd", p.name.text) ∨
              ∃ script command, item.2 = scriptCommand (Axis.value p.packageManager) script ∧
                OrderedMap.get? scripts (WideText.ofString script) =
                  some (.str (WideText.ofString command)) := by
  obtain ⟨files, hcompile, hfiles⟩ := Plan.exists_compile hgates
  refine ⟨_, hcompile, nodup_targets hfiles,
    fun entries path => Project.mergeManifestScripts_mem_stepsWith, ?_⟩
  intro programs s manifest old hreceives hquiet hread hplain hold
  obtain ⟨-, hholds⟩ := perform_readJson_eq_ok_iff.1 hread
  obtain ⟨t, merged, happlied, hreceived, hmerged, his⟩ :=
    exists_hasReceived hfiles hreceives hquiet hholds hplain hold
  have hrun : runSteps (operations programs) 0 (p.stepsWith files) s = _ :=
    runSteps_of_ok (operations programs) 0 happlied
  simp only [Plan.run, hrun]
  exact ⟨trivial, hreceived, merged, readJson_of_holdsObject hmerged, his, his.exists_nextScript⟩

/-- A project with all that the defaults leave out. -/
def viteProject : Project where
  name := ⟨"a", by decide⟩
  tailwindVersion := some .v4
  stateManagement := .redux
  codeQuality := true
  testing := true
  apiClient := true

theorem get?_sampleSession {place : Place} (h : place ≠ []) :
    sampleSession.disk.get? place =
      if placeOf [] manifestPath = place then some (.file (Utf8.encode sampleText)) else none := by
  rw [placeOf, namesOf_manifestPath, Disk.get?, if_neg h]
  rfl

theorem sampleSession_receives {plan : Plan} (h : Plan.compile viteProject = .ok plan) :
    sampleSession.Receives plan := by
  obtain ⟨files, hcompile, hfiles⟩ := Plan.exists_compile (p := viteProject) (by decide)
  rw [hcompile] at h
  obtain rfl := Except.ok.inj h
  have hlayout := viteProject.layout
  refine ⟨rfl, fun path hpath place hplace content => ?_, fun path content hpath => ?_⟩
  · have hdirectory := Project.ensureDirectory_mem_stepsWith.1 hpath
    obtain ⟨first, -, hne, rfl⟩ := mem_placesAlong.1 hplace
    rw [get?_sampleSession (by simpa using hne), if_neg]
    · simp
    · rintro heq
      rw [← heq] at hplace
      exact hlayout.notMem_placesTo List.mem_cons_self
        (List.mem_flatMap.2 ⟨path, hdirectory, hplace⟩)
  · have hwritten := Project.writeFile_mem_stepsWith.1 hpath
    have hmem : path ∈ viteProject.touched := by
      rw [Project.touched, ← hfiles]
      exact List.mem_cons_of_mem _ (List.mem_map_of_mem hwritten)
    have hne : placeOf [] path ≠ [] := (hlayout.file_plain path hmem).nonempty
    show sampleSession.disk.get? (placeOf [] path) ≠ _
    rw [get?_sampleSession hne]
    split_ifs
    · simp
    · simp

/-- The plan of a Vite application is applied to a directory with nothing but a manifest. -/
theorem Plan.compile_applies_sample :
    ∃ plan merged scripts, viteProject.gatingFault? = none ∧
      Plan.compile viteProject = .ok plan ∧
      sampleSession.Receives plan ∧
      (readJson none manifestPath).perform sampleSession = (.ok sampleManifest, sampleSession) ∧
      (plan.run (operations fun _ => .started {}) sampleSession).outcome =
        .ok (reportsFrom [.succeeded] 0 plan.steps) ∧
      sampleSession.HasReceived plan
        (plan.run (operations fun _ => .started {}) sampleSession).state ∧
      IsMerged sampleManifest (scriptMembers [("a", "x"), ("b", "y")]) viteProject.scripts merged ∧
      OrderedMap.get? merged scriptsName = some (.obj scripts) := by
  have hgates : viteProject.gatingFault? = none := by decide
  have hholds : (readJson none manifestPath).perform sampleSession =
      (.ok sampleManifest, sampleSession) := readJson_of_holdsObject sampleSession_holdsObject
  have hplain : Json.Plain (.obj sampleManifest) :=
    Json.plain_of_plain? (.obj sampleManifest) rfl
  have hold : scriptsOf? sampleManifest = some (scriptMembers [("a", "x"), ("b", "y")]) := by cbv
  obtain ⟨plan, hcompile, -, -, happlies⟩ := Plan.compile_applies hgates
  have hreceives := sampleSession_receives hcompile
  obtain ⟨houtcome, hreceived, merged, -, his, scripts, hscripts, -⟩ :=
    happlies (fun _ => .started {}) sampleSession sampleManifest _ hreceives
      (fun command _ => ⟨{}, rfl, rfl, rfl, rfl⟩) hholds hplain hold
  exact ⟨plan, merged, scripts, hgates, hcompile, hreceives, hholds, houtcome, hreceived, his,
    hscripts⟩

end ReactScaffold
