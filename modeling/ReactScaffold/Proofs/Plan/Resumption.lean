import ReactScaffold.Proofs.Plan.Application

/-!
# Applying a plan again

A plan that was stopped between two steps has made some of its directories and, when all of them are
there, written some of its files. The plan finds what it needs on such a disk, and what it adds and
writes does not depend on where it was stopped, as merging the same scripts again changes nothing.
`Plan.run_again` says that the plan leaves the same disk as without the interruption.
-/

namespace ReactScaffold

open Session Text

variable {programs : Programs} {s t u : Session} {d d' : Disk} {cwd : Place}
variable {p : Project} {directories : List String} {files written : List (String × String)}

theorem flatMap_subset {α β : Type} {f : α → List β} {as bs : List α} (h : as ⊆ bs) :
    as.flatMap f ⊆ bs.flatMap f := by
  intro b hb
  obtain ⟨a, ha, hmem⟩ := List.mem_flatMap.1 hb
  exact List.mem_flatMap.2 ⟨a, h ha, hmem⟩

/-- Fewer files fit together with the same directories, and the manifest with any of them. -/
theorem Layout.of_prefix (h : Layout p.directories (manifestPath :: files.map Prod.fst))
    (hdirectories : directories ⊆ p.directories) (hwritten : written <+: files)
    (hall : written = [] ∨ directories = p.directories) :
    Layout directories (manifestPath :: written.map Prod.fst) := by
  have hpaths : (manifestPath :: written.map Prod.fst).Sublist
      (manifestPath :: files.map Prod.fst) := (hwritten.sublist.map Prod.fst).cons_cons manifestPath
  refine ⟨fun path hpath => h.directory_plain path (hdirectories hpath),
    fun path hpath => h.file_plain path (hpaths.subset hpath), fun path hpath place hplace => ?_,
    fun path hpath directory hd => h.apart path (hpaths.subset hpath) directory (hdirectories hd),
    h.distinct.sublist (hpaths.map namesOf)⟩
  rcases hall with rfl | rfl
  · obtain rfl := List.mem_singleton.1 hpath
    rw [namesOf_manifestPath] at hplace
    cases hplace
  · exact h.above path (hpaths.subset hpath) place hplace

/-- A plan that is stopped before its end is stopped among its directories, its packages or its
files. -/
theorem Project.take_stepsWith {k : Nat} (hk : k < (p.stepsWith files).length) :
    ∃ directories installs written,
      (p.stepsWith files).take k = directories.map Step.ensureDirectory ++ installs ++
        written.map (fun file => Step.writeFile file.1 file.2) ∧
      directories ⊆ p.directories ∧ installs ⊆ p.installSteps ∧ written <+: files ∧
      (written = [] ∨ directories = p.directories) := by
  refine ⟨p.directories.take k, p.installSteps.take (k - p.directories.length),
    files.take (k - (p.directories.length + p.installSteps.length)), ?_, List.take_subset _ _,
    List.take_subset _ _, List.take_prefix _ _, ?_⟩
  · simp only [stepsWith, List.length_append, List.length_map, List.length_singleton] at hk
    have hlast : k - (p.directories.length + p.installSteps.length + files.length) = 0 := by omega
    simp only [stepsWith, List.take_append, List.length_append, List.length_map, hlast,
      List.take_zero, List.append_nil, List.map_take]
  · by_cases hshort : k ≤ p.directories.length
    · left
      rw [Nat.sub_eq_zero_of_le (by omega), List.take_zero]
    · right
      exact List.take_of_length_le (by omega)

/-- The second session has come from the first by adding directories of a plan and writing its
files: the plan finds what it needs there, and everything else is as it was. -/
structure Session.Midway (s : Session) (p : Project) (files : List (String × String))
    (u : Session) : Prop where
  cwd : u.cwd = s.cwd
  receives : u.Receives ⟨p.stepsWith files⟩
  others (place : Place) (hfile : place ∉ (manifestPath :: files.map Prod.fst).map (placeOf s.cwd))
    (hdirectory : place ∉ p.directories.flatMap (placesTo s.cwd)) :
    u.disk.get? place = s.disk.get? place

/-- With some directories of a plan added and some of its files written, it is on its way. -/
theorem midway_of_disk {entries : List (Place × List UInt8)}
    (hlayout : Layout p.directories (manifestPath :: files.map Prod.fst))
    (hreceives : s.Receives ⟨p.stepsWith files⟩)
    (hvacant : ∀ path ∈ manifestPath :: files.map Prod.fst,
      s.disk.get? (placeOf s.cwd path) ≠ some .directory)
    (hdirectories : directories ⊆ p.directories)
    (hentries : entries.map Prod.fst ⊆ (manifestPath :: files.map Prod.fst).map (placeOf s.cwd))
    (hadds : Disk.Adds s.disk d' (directories.flatMap (placesTo s.cwd)))
    (hcwd : u.cwd = s.cwd) (hdisk : u.disk = d'.writeAll entries) : s.Midway p files u := by
  have hplaces : directories.flatMap (placesTo s.cwd) ⊆ p.directories.flatMap (placesTo s.cwd) :=
    flatMap_subset hdirectories
  have hadded (path : String) (hpath : path ∈ manifestPath :: files.map Prod.fst) :
      d'.get? (placeOf s.cwd path) ≠ some .directory := by
    rw [hadds, if_neg fun hmem => hlayout.notMem_placesTo hpath (hplaces hmem)]
    exact hvacant path hpath
  have hkeeps : Disk.KeepsDirectories d' u.disk := by
    rw [hdisk]
    refine Disk.keepsDirectories_writeAll fun e he => ?_
    obtain ⟨path, hpath, hplace⟩ := List.mem_map.1 (hentries (List.mem_map_of_mem he))
    rw [← hplace]
    exact hadded path hpath
  refine ⟨hcwd, ⟨?_, fun path h place hplace content => ?_, fun path content h => ?_⟩,
    fun place hfile hdirectory => ?_⟩
  · rw [hcwd]
    exact hkeeps _ (hadds.keepsDirectories s.cwd hreceives.here)
  · rw [hcwd] at hplace
    have hmem : place ∈ p.directories.flatMap (placesTo s.cwd) :=
      List.mem_flatMap.2 ⟨path, Project.ensureDirectory_mem_stepsWith.1 h, hplace⟩
    have hnone : place ∉ entries.map Prod.fst := by
      intro hentry
      obtain ⟨path, hpath, rfl⟩ := List.mem_map.1 (hentries hentry)
      exact hlayout.notMem_placesTo hpath hmem
    rw [hdisk, Disk.get?_writeAll_of_notMem hnone]
    exact hadds.noFileAt (hreceives.clear path h) place hplace content
  · rw [hcwd, hdisk]
    refine Disk.get?_writeAll_ne_directory (hadded path (List.mem_cons_of_mem _ ?_))
    exact List.mem_map_of_mem (Project.writeFile_mem_stepsWith.1 h)
  · rw [hdisk, Disk.get?_writeAll_of_notMem fun hentry => hfile (hentries hentry), hadds,
      if_neg fun hmem => hdirectory (hplaces hmem)]

section Compiled

variable {manifest old : Members}

/-- A plan that is stopped before its last step is on its way, and its manifest is as it was. -/
theorem exists_midway_of_lt (hlayout : Layout p.directories (manifestPath :: files.map Prod.fst))
    (hreceives : s.Receives ⟨p.stepsWith files⟩)
    (hquiet : ∀ command ∈ (p.stepsWith files).flatMap Step.commands,
      programs.SucceedsQuietly command)
    (hholds : s.HoldsObject (Path.ofText manifestPath) manifest) {k : Nat}
    (hk : k < (p.stepsWith files).length) :
    ∃ u, (Step.applyAll (operations programs) ((p.stepsWith files).take k)).perform s = (.ok (), u) ∧
      s.Midway p files u ∧ u.HoldsObject (Path.ofText manifestPath) manifest := by
  have hvacant := hreceives.get?_ne_directory hholds
  obtain ⟨directories, installs, written, htake, hdirectories, hinstalls, hwritten, hall⟩ :=
    Project.take_stepsWith hk
  have hpart := hlayout.of_prefix hdirectories hwritten hall
  obtain ⟨d', u, happlied, hucwd, huhere, hadds, hdisk⟩ := exists_applied hpart
    (fun step hstep => installs_of_mem_installSteps (hinstalls hstep))
    (fun command hcommand => hquiet command (mem_commands_stepsWith
      (flatMap_subset hinstalls hcommand)))
    hreceives.here
    (fun place hplace => hreceives.noFileAt place
      (flatMap_subset hdirectories hplace))
    (fun file hfile => hvacant file.1 (List.mem_cons_of_mem _
      (List.mem_map_of_mem (hwritten.subset hfile))))
  have hentries : (written.map (fileAt s.cwd)).map Prod.fst ⊆
      (files.map Prod.fst).map (placeOf s.cwd) := by
    rw [map_fst_fileAt]
    exact List.map_subset _ (List.map_subset _ hwritten.subset)
  -- the manifest is merged by the last step only
  have hkept : u.disk.get? (placeOf s.cwd manifestPath) =
      s.disk.get? (placeOf s.cwd manifestPath) := by
    rw [hdisk, Disk.get?_writeAll_of_notMem, hpart.get?_of_adds List.mem_cons_self hadds]
    exact fun hmem => (List.nodup_cons.1 (hlayout.nodup_placeOf s.cwd)).1 (hentries hmem)
  refine ⟨u, ?_, ?_, ?_⟩
  · rw [htake]
    exact happlied
  · exact midway_of_disk hlayout hreceives hvacant hdirectories
      (fun place hplace => List.mem_cons_of_mem _ (hentries hplace)) hadds hucwd hdisk
  · exact HoldsObject.of_get?_eq hreceives.here hucwd huhere hkept hholds

/-- A plan that is stopped between two steps is on its way, and its manifest is one that merges into
the same as the first. -/
theorem exists_midway (hfiles : files.map Prod.fst = p.files.map fun kind => kind.path p)
    (hreceives : s.Receives ⟨p.stepsWith files⟩)
    (hquiet : ∀ command ∈ (p.stepsWith files).flatMap Step.commands,
      programs.SucceedsQuietly command)
    (hholds : s.HoldsObject (Path.ofText manifestPath) manifest)
    (hplain : Json.Plain (.obj manifest)) (hold : scriptsOf? manifest = some old) (k : Nat) :
    ∃ u found scripts,
      (Step.applyAll (operations programs) ((p.stepsWith files).take k)).perform s = (.ok (), u) ∧
      s.Midway p files u ∧ u.HoldsObject (Path.ofText manifestPath) found ∧
      Json.Plain (.obj found) ∧ scriptsOf? found = some scripts ∧
      mergedManifest found scripts p.scripts = mergedManifest manifest old p.scripts := by
  have hlayout : Layout p.directories (manifestPath :: files.map Prod.fst) := by
    rw [hfiles]
    exact p.layout
  by_cases hk : k < (p.stepsWith files).length
  · obtain ⟨u, happlied, hmidway, hfound⟩ :=
      exists_midway_of_lt hlayout hreceives hquiet hholds hk
    exact ⟨u, manifest, old, happlied, hmidway, hfound, hplain, hold, rfl⟩
  · obtain ⟨d', octets, t, -, happlied, htcwd, hadds, hdisk, hmerged⟩ :=
      exists_written hfiles hreceives hquiet hholds hplain hold
    refine ⟨t, _, _, ?_, ?_, hmerged, plain_merged hplain hold p.scripts, scriptsOf?_mergedManifest,
      mergedManifest_again p.nodup_keys_scripts⟩
    · rw [List.take_of_length_le (by omega)]
      exact happlied
    · refine midway_of_disk hlayout hreceives (hreceives.get?_ne_directory hholds)
        (List.Subset.refl _) ?_ hadds htcwd hdisk
      rw [map_fst_entriesOf]
      exact fun place hplace =>
        ((List.perm_append_singleton ..).map (placeOf s.cwd)).mem_iff.1 hplace

/-- Where a plan was on its way, its files and directories leave the same as where it started. -/
theorem Session.Midway.get?_eq {octets : List UInt8} {d₁ d₂ : Disk} (h : s.Midway p files u)
    (hadds₁ : Disk.Adds s.disk d₁ (p.directories.flatMap (placesTo s.cwd)))
    (hadds₂ : Disk.Adds u.disk d₂ (p.directories.flatMap (placesTo s.cwd))) (place : Place) :
    (d₂.writeAll (entriesOf s.cwd files octets)).get? place =
      (d₁.writeAll (entriesOf s.cwd files octets)).get? place := by
  refine Disk.get?_writeAll_congr fun hmem => ?_
  rw [hadds₁, hadds₂]
  split_ifs with hdirectory
  · rfl
  · refine h.others place (fun hfile => hmem ?_) hdirectory
    rw [map_fst_entriesOf]
    exact ((List.perm_append_singleton ..).map (placeOf s.cwd)).mem_iff.2 hfile

end Compiled

/-- The plan of a project within the gates can be applied again after an interruption. Wherever it
applies cleanly, so do its first `k` steps. The whole plan succeeds after them as well, and what is
at each place is then the same as after the plan alone. -/
theorem Plan.run_again {p : Project} (hgates : p.gatingFault? = none) :
    ∃ plan, Plan.compile p = .ok plan ∧
      ∀ (programs : Programs) (s : Session) (manifest old : Members),
        s.Receives plan →
        (∀ command ∈ plan.steps.flatMap Step.commands, programs.SucceedsQuietly command) →
        (readJson none manifestPath).perform s = (.ok manifest, s) →
        Json.Plain (.obj manifest) → scriptsOf? manifest = some old →
        ∀ k : Nat,
          let once := plan.run (operations programs) s
          let part := (Plan.mk (plan.steps.take k)).run (operations programs) s
          let again := plan.run (operations programs) part.state
          once.outcome = .ok (reportsFrom [.succeeded] 0 plan.steps) ∧
          part.outcome = .ok (reportsFrom [.succeeded] 0 (plan.steps.take k)) ∧
          again.outcome = .ok (reportsFrom [.succeeded] 0 plan.steps) ∧
          again.state.cwd = once.state.cwd ∧
          ∀ place, again.state.disk.get? place = once.state.disk.get? place := by
  obtain ⟨files, hcompile, hfiles⟩ := Plan.exists_compile hgates
  refine ⟨_, hcompile, fun programs s manifest old hreceives hquiet hread hplain hold k => ?_⟩
  obtain ⟨-, hholds⟩ := perform_readJson_eq_ok_iff.1 hread
  obtain ⟨d₁, octets, t, hencode, happlied, htcwd, hadds₁, ht, -⟩ :=
    exists_written hfiles hreceives hquiet hholds hplain hold
  obtain ⟨u, found, scripts, hpart, hmidway, hfound, hplain', hscripts, hsame⟩ :=
    exists_midway hfiles hreceives hquiet hholds hplain hold k
  obtain ⟨d₂, octets', t', hencode', happlied', htcwd', hadds₂, ht', -⟩ :=
    exists_written hfiles hmidway.receives hquiet hfound hplain' hscripts
  obtain rfl : octets = octets' := by
    rw [hsame, hencode] at hencode'
    exact Except.ok.inj hencode'
  have honce : runSteps (operations programs) 0 (p.stepsWith files) s = _ :=
    runSteps_of_ok (operations programs) 0 happlied
  have hstopped : runSteps (operations programs) 0 ((p.stepsWith files).take k) s = _ :=
    runSteps_of_ok (operations programs) 0 hpart
  have hagain : runSteps (operations programs) 0 (p.stepsWith files) u = _ :=
    runSteps_of_ok (operations programs) 0 happlied'
  simp only [Plan.run, honce, hstopped, hagain]
  rw [hmidway.cwd] at hadds₂ ht' htcwd'
  refine ⟨trivial, trivial, trivial, htcwd'.trans htcwd.symm, fun place => ?_⟩
  rw [ht, ht']
  exact hmidway.get?_eq hadds₁ hadds₂ place

/-- The plan of a Vite application is applied to a directory with nothing but a manifest, up to any
of its steps and then from the start. -/
theorem Plan.run_again_sample :
    ∃ plan, viteProject.gatingFault? = none ∧ Plan.compile viteProject = .ok plan ∧
      sampleSession.Receives plan ∧
      (readJson none manifestPath).perform sampleSession = (.ok sampleManifest, sampleSession) ∧
      ∀ k : Nat,
        let run (plan : Plan) := plan.run (operations fun _ => .started {})
        let again := run plan (run ⟨plan.steps.take k⟩ sampleSession).state
        again.outcome = .ok (reportsFrom [.succeeded] 0 plan.steps) ∧
        ∀ place, again.state.disk.get? place = (run plan sampleSession).state.disk.get? place := by
  have hgates : viteProject.gatingFault? = none := by decide
  have hread : (readJson none manifestPath).perform sampleSession =
      (.ok sampleManifest, sampleSession) := readJson_of_holdsObject sampleSession_holdsObject
  have hplain : Json.Plain (.obj sampleManifest) :=
    Json.plain_of_plain? (.obj sampleManifest) rfl
  have hold : scriptsOf? sampleManifest = some (scriptMembers [("a", "x"), ("b", "y")]) := by cbv
  obtain ⟨plan, hcompile, hagain⟩ := Plan.run_again hgates
  have hreceives := sampleSession_receives hcompile
  refine ⟨plan, hgates, hcompile, hreceives, hread, fun k => ?_⟩
  obtain ⟨-, -, houtcome, -, hdisk⟩ := hagain (fun _ => .started {}) sampleSession sampleManifest _
    hreceives (fun command _ => ⟨{}, rfl, rfl, rfl, rfl⟩) hread hplain hold k
  exact ⟨houtcome, hdisk⟩

end ReactScaffold
