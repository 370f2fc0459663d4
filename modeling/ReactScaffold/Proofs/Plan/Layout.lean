import ReactScaffold.Proofs.Plan.Cases
import ReactScaffold.Proofs.Project.Entails

/-!
# The layout of a plan

The directories and files of a project fit together: each file goes into a directory that is
ensured or is above one that is, and no file is in the place of another file, of a directory or of
the manifest. That there is a directory for each file is checked in every case of `fileCases`.
-/

namespace ReactScaffold

/-- The path that changes are merged into. -/
def manifestPath : String := "package.json"

/-- The names that the text of a relative path leads along. -/
def namesOf (path : String) : List String := (Path.ofText path).parts

/-- The text joins plain names and is short. -/
def Path.Plain (path : String) : Prop := Path.Spells 60 path (namesOf path)

theorem Path.Spells.namesOf_eq {path : String} {names : List String}
    (h : Path.Spells 60 path names) : namesOf path = names := by
  rw [namesOf, h.ofText_eq]

theorem Path.Spells.isPlain {path : String} {names : List String}
    (h : Path.Spells 60 path names) : Path.Plain path := by
  rw [Path.Plain, h.namesOf_eq]
  exact h

/-- Directories and files that fit together. -/
structure Layout (directories files : List String) : Prop where
  directory_plain (path : String) (h : path ∈ directories) : Path.Plain path
  file_plain (path : String) (h : path ∈ files) : Path.Plain path
  above (path : String) (h : path ∈ files) (place : Place)
    (hplace : place ∈ placesAlong [] (namesOf path).dropLast) :
    ∃ directory ∈ directories, place ∈ placesAlong [] (namesOf directory)
  apart (path : String) (h : path ∈ files) (directory : String) (hd : directory ∈ directories) :
    namesOf path ∉ placesAlong [] (namesOf directory)
  distinct : (files.map namesOf).Nodup

namespace FileKind

/-- No two of the manifest, the folders and the kinds of files have the same name in the same
folder. -/
theorem nodup_entries (f : Flavor) :
    ((.root, manifestPath) :: (Folder.all.map Folder.entry ++
      (Axis.all : List FileKind).map fun kind => kind.entry f)).Nodup := by
  obtain ⟨nextjs, appRouter, typescript⟩ := f
  revert nextjs appRouter typescript
  decide +kernel

theorem mem_all (kind : FileKind) : kind ∈ (Axis.all : List FileKind) := by
  cases kind
  all_goals decide +kernel

theorem entry_injective (f : Flavor) : Function.Injective fun kind : FileKind => kind.entry f := by
  have hnodup := nodup_entries f
  rw [List.nodup_cons, List.nodup_append] at hnodup
  obtain ⟨-, -, hkinds, -⟩ := hnodup
  intro kind other h
  exact List.inj_on_of_nodup_map hkinds kind.mem_all other.mem_all h

theorem entry_ne_folder (kind : FileKind) (f : Flavor) (g : Folder) : kind.entry f ≠ g.entry := by
  have hnodup := nodup_entries f
  rw [List.nodup_cons, List.nodup_append] at hnodup
  obtain ⟨-, -, -, happart⟩ := hnodup
  exact (happart _ (List.mem_map_of_mem g.mem_all) _ (List.mem_map_of_mem kind.mem_all)).symm

theorem manifest_ne_folder (g : Folder) : g.entry ≠ (.root, manifestPath) := by
  have hnodup := nodup_entries ⟨false, false, false⟩
  rw [List.nodup_cons, List.mem_append, not_or] at hnodup
  obtain ⟨⟨hfolders, -⟩, -⟩ := hnodup
  intro h
  exact hfolders (List.mem_map.2 ⟨g, g.mem_all, h⟩)

theorem entry_ne_manifest (kind : FileKind) (f : Flavor) :
    kind.entry f ≠ (.root, manifestPath) := by
  have hnodup := nodup_entries f
  rw [List.nodup_cons, List.mem_append, not_or] at hnodup
  obtain ⟨⟨-, hkinds⟩, -⟩ := hnodup
  intro h
  exact hkinds (List.mem_map.2 ⟨kind, kind.mem_all, h⟩)

end FileKind

namespace Project

variable (p : Project)

/-- The folders that every project ensures. -/
def baseFolders : List Folder := [.ui, .layout, .common, .hooks, .lib, .utils]

/-- The folders that routing needs. -/
def routingFolders : List Folder :=
  if !p.isNextjs then [.routes, .pages]
  else if p.isAppRouter then [.app, .about]
  else [.pages, .styles]

/-- The folders that a project ensures. -/
def folders : List Folder :=
  baseFolders ++ p.routingFolders ++
    (if p.stateManagement ≠ .none then [Folder.store] else []) ++
    (if p.isTypescript then [Folder.types] else []) ++
    (if p.testing then [Folder.tests, Folder.test] else []) ++
    (if p.codeQuality then [Folder.husky] else [])

theorem directories_eq : p.directories = p.folders.map Folder.path := by
  simp only [directories, folders, routingDirectories, routingFolders, List.map_append,
    apply_ite (List.map _)]
  rfl

theorem ne_root_of_mem_folders {g : Folder} (h : g ∈ p.folders) : g ≠ .root := by
  rintro rfl
  simp [folders, baseFolders, routingFolders] at h
  split_ifs at h
  all_goals simp at h

/-- The folder is the root, or on the way to one that the project ensures. -/
def HasFolder (f : Folder) : Prop := f = .root ∨ ∃ g ∈ p.folders, f ∈ g.chain

/-- The folders that a project ensures, by cases. -/
def folderCases : Cases Folder :=
  .of [] baseFolders ++ .of [.lacks .nextjs] [.routes, .pages] ++
    .of [.has .appRouter] [.app, .about] ++
    .of [.has .nextjs, .lacks .appRouter] [.pages, .styles] ++
    .of [.has .redux] [.store] ++ .of [.has .zustand] [.store] ++ .of [.has .tanstack] [.store] ++
    .of [.has .typescript] [.types] ++ .of [.has .testing] [.tests, .test] ++
    .of [.has .codeQuality] [.husky]

theorem folders_eq (p : Project) : p.folders = folderCases.given p := by
  have happ : p.isAppRouter = true → p.isNextjs = true := fun h => (Bool.and_eq_true_iff.1 h).1
  simp only [folders, routingFolders, folderCases, Cases.given_append, Cases.given_of,
    List.all_cons, List.all_nil, Bool.and_true, meets, has, if_true]
  cases hn : p.isNextjs <;> cases ha : p.isAppRouter <;> cases p.stateManagement
  all_goals simp_all

/-- In every case a file goes into the root, or into a folder on the way to one that is ensured. -/
theorem fileCases_folders : fileCases.Always fun f known kind =>
    kind.folder f = .root || folderCases.offers known fun g => g.chain.contains (kind.folder f) := by
  decide +kernel

/-- Every file of a project goes into the root or into a folder that the project ensures, or into
one above it. -/
theorem hasFolder_of_mem_files {p : Project} {kind : FileKind} (h : kind ∈ p.files) :
    p.HasFolder (kind.folder p.flavor) := by
  obtain ⟨known, hknown, hfolder⟩ := fileCases_folders.exists_facts (mem_fileCases h)
  rcases Bool.or_eq_true_iff.1 hfolder with hroot | hoffers
  · exact .inl (of_decide_eq_true hroot)
  · obtain ⟨g, hg, hchain⟩ := Cases.exists_of_offers hknown hoffers
    exact .inr ⟨g, by rwa [folders_eq], List.contains_iff_mem.1 hchain⟩

theorem routingFiles_sublist (p : Project) : p.routingFiles.Sublist
    [.rootLayout, .layout, .customApp, .app, .appRoutes, .homePage, .aboutPage, .viteConfig,
      .protectedRoute, .dashboardPage, .providers] := by
  unfold routingFiles
  split_ifs
  all_goals decide

theorem stylingFiles_sublist (p : Project) : p.stylingFiles.Sublist
    [.stylesheet, .tailwindConfig, .postcssConfig, .shadcnConfig, .shadcnUtils] := by
  unfold stylingFiles
  split
  · decide
  · split_ifs
    all_goals decide
  · decide
  · decide

theorem stateFiles_sublist (p : Project) : p.stateFiles.Sublist
    [.reduxSlice, .reduxStore, .reduxHooks, .zustandStore, .queryClient, .currentUserHook] := by
  unfold stateFiles
  split
  all_goals decide

theorem ite_sublist (c : Bool) (kinds : List FileKind) :
    (if c then kinds else []).Sublist kinds := by
  split_ifs
  · exact List.Sublist.refl kinds
  · exact List.nil_sublist kinds

/-- No kind of file is generated twice. -/
theorem nodup_files (p : Project) : p.files.Nodup := by
  have hshown := (List.Sublist.refl [FileKind.button, .navbar, .footer]).append
    (ite_sublist p.hasThemeToggle [.themeToggle])
  have haxes := ((hshown.append p.routingFiles_sublist).append p.stylingFiles_sublist).append
    p.stateFiles_sublist
  have hmodules := ((haxes.append (List.Sublist.refl [.utils, .localStorageHook])).append
    (ite_sublist p.isTypescript [.types])).append
      (ite_sublist p.apiClient [.apiClient, .envExample])
  have htests := hmodules.append
    (ite_sublist p.testing [.vitestConfig, .testSetup, .buttonTest])
  have hall := htests.append (ite_sublist p.codeQuality [.eslintConfig, .prettierConfig,
    .prettierIgnore, .lintStagedConfig, .commitlintConfig, .huskyPreCommit, .huskyCommitMsg])
  refine List.Nodup.sublist hall ?_
  decide +kernel

end Project

theorem spells_manifestPath : Path.Spells 60 manifestPath (Folder.leadTo (.root, manifestPath)) :=
  Path.spells_ofList _ (by decide) (by decide)

theorem FileKind.namesOf_path (kind : FileKind) (p : Project) :
    namesOf (kind.path p) = Folder.leadTo (kind.entry p.flavor) := (kind.spells_path p).namesOf_eq

/-- The folders and names of the files that a plan touches. -/
def Project.entries (p : Project) : List (Folder × String) :=
  (.root, manifestPath) :: p.files.map fun kind => kind.entry p.flavor

/-- The paths of the files that a plan touches, the manifest among them. -/
def Project.touched (p : Project) : List String :=
  manifestPath :: p.files.map fun kind => kind.path p

theorem Project.map_namesOf_touched (p : Project) :
    p.touched.map namesOf = p.entries.map Folder.leadTo := by
  rw [touched, entries, List.map_cons, List.map_cons, List.map_map, List.map_map,
    spells_manifestPath.namesOf_eq]
  congr 1
  exact List.map_congr_left fun kind _ => kind.namesOf_path p

theorem Project.nodup_entries (p : Project) : p.entries.Nodup := by
  rw [entries, List.nodup_cons]
  refine ⟨fun hmem => ?_, p.nodup_files.map (FileKind.entry_injective p.flavor)⟩
  obtain ⟨kind, -, hkind⟩ := List.mem_map.1 hmem
  exact kind.entry_ne_manifest p.flavor hkind

theorem Project.entry_ne_folder {p : Project} {e : Folder × String} (h : e ∈ p.entries)
    (g : Folder) : e ≠ g.entry := by
  rcases List.mem_cons.1 h with rfl | hmem
  · exact (FileKind.manifest_ne_folder g).symm
  · obtain ⟨kind, -, rfl⟩ := List.mem_map.1 hmem
    exact kind.entry_ne_folder p.flavor g

theorem Project.hasFolder_of_mem_entries {p : Project} {e : Folder × String}
    (h : e ∈ p.entries) : p.HasFolder e.1 := by
  rcases List.mem_cons.1 h with rfl | hmem
  · exact .inl rfl
  · obtain ⟨kind, hkind, rfl⟩ := List.mem_map.1 hmem
    exact hasFolder_of_mem_files hkind

theorem Project.exists_entry {p : Project} {path : String} (h : path ∈ p.touched) :
    ∃ e ∈ p.entries, Path.Spells 60 path (Folder.leadTo e) := by
  rcases List.mem_cons.1 h with rfl | hmem
  · exact ⟨_, List.mem_cons_self, spells_manifestPath⟩
  · obtain ⟨kind, hkind, rfl⟩ := List.mem_map.1 hmem
    exact ⟨_, List.mem_cons_of_mem _ (List.mem_map_of_mem hkind), kind.spells_path p⟩

theorem Project.exists_folder {p : Project} {path : String} (h : path ∈ p.directories) :
    ∃ g ∈ p.folders, Path.Spells 60 path g.names := by
  rw [directories_eq] at h
  obtain ⟨g, hg, rfl⟩ := List.mem_map.1 h
  exact ⟨g, hg, Folder.spells_path (p.ne_root_of_mem_folders hg)⟩

/-- The directories and files of a project fit together. -/
theorem Project.layout (p : Project) : Layout p.directories p.touched where
  directory_plain path h := by
    obtain ⟨g, -, hspells⟩ := exists_folder h
    exact hspells.isPlain
  file_plain path h := by
    obtain ⟨e, -, hspells⟩ := exists_entry h
    exact hspells.isPlain
  above path h place hplace := by
    obtain ⟨e, he, hspells⟩ := exists_entry h
    rw [hspells.namesOf_eq, Folder.leadTo, List.dropLast_concat, Folder.placesAlong_names] at hplace
    obtain ⟨f, hf, rfl⟩ := List.mem_map.1 hplace
    rcases hasFolder_of_mem_entries he with hroot | ⟨g, hg, hchain⟩
    · rw [hroot] at hf
      cases hf
    · refine ⟨g.path, by rw [directories_eq]; exact List.mem_map_of_mem hg, ?_⟩
      rw [(Folder.spells_path (p.ne_root_of_mem_folders hg)).namesOf_eq, Folder.placesAlong_names]
      exact List.mem_map_of_mem (Folder.mem_chain_trans hchain hf)
  apart path h directory hd hmem := by
    obtain ⟨e, he, hspells⟩ := exists_entry h
    obtain ⟨g, -, hfolder⟩ := exists_folder hd
    rw [hspells.namesOf_eq, hfolder.namesOf_eq, Folder.placesAlong_names] at hmem
    obtain ⟨f, hf, hnames⟩ := List.mem_map.1 hmem
    have hroot : f ≠ .root := by
      rintro rfl
      exact g.root_notMem_chain hf
    rw [← Folder.leadTo_entry hroot] at hnames
    exact entry_ne_folder he f (Folder.leadTo_injective hnames).symm
  distinct := by
    rw [map_namesOf_touched]
    exact p.nodup_entries.map Folder.leadTo_injective

end ReactScaffold
