import ReactScaffold.Proofs.Outcome
import ReactScaffold.Proofs.Plan.Compile

/-!
# What a plan writes and installs

The plan of a project writes each file of the project under its path, and installs the packages that
the answers ask for.
-/

namespace ReactScaffold

/-- The plan writes the files of the project and installs its packages. -/
structure Plan.Realizes (plan : Plan) (p : Project) : Prop where
  mem_files (path content : String) : (path, content) ∈ plan.files ↔
    ∃ kind ∈ p.files, kind.path p = path ∧ kind.render p = .ok content
  packages : plan.installs.flatMap (·.2) = packageCases.given p

namespace Project

variable {p : Project}

theorem nodup_paths (p : Project) : (p.files.map fun kind => kind.path p).Nodup :=
  (List.nodup_cons.1 (List.Nodup.of_map _ p.layout.distinct)).2

theorem path_injective (p : Project) : Function.Injective fun kind : FileKind => kind.path p := by
  intro kind other h
  refine FileKind.entry_injective p.flavor (Folder.leadTo_injective ?_)
  exact (kind.namesOf_path p).symm.trans ((congrArg namesOf h).trans (other.namesOf_path p))

/-- What is written are the contents of the files. -/
theorem mem_of_writeSteps {kinds : List FileKind} {files : List (String × String)}
    (h : kinds.mapM (fun kind => do return Step.writeFile (kind.path p) (← kind.render p)) =
      (.ok (files.map fun file => .writeFile file.1 file.2) : Except TemplateFault _))
    {path content : String} : (path, content) ∈ files ↔
      ∃ kind ∈ kinds, kind.path p = path ∧ kind.render p = .ok content := by
  induction kinds generalizing files with
  | nil =>
      obtain rfl := List.map_eq_nil_iff.1 (Except.ok.inj h).symm
      simp
  | cons kind kinds ih =>
      rw [List.mapM_cons] at h
      obtain ⟨step, hstep, h⟩ := bind_eq_ok h
      obtain ⟨steps, hsteps, h⟩ := bind_eq_ok h
      obtain ⟨text, htext, hstep⟩ := bind_eq_ok hstep
      obtain rfl := Except.ok.inj hstep
      obtain ⟨⟨first, body⟩, rest, rfl, hfirst, hrest⟩ :=
        List.map_eq_cons_iff.1 (Except.ok.inj h).symm
      obtain ⟨rfl, rfl⟩ := Step.writeFile.inj hfirst
      rw [← hrest] at hsteps
      rw [List.mem_cons, ih hsteps, List.exists_mem_cons_iff, htext]
      refine or_congr_left ?_
      rw [Prod.mk.injEq, Except.ok.injEq]
      exact and_congr eq_comm eq_comm

theorem filesOf_stepsWith {files : List (String × String)}
    (hnodup : (OrderedMap.keys files).Nodup) : (⟨p.stepsWith files⟩ : Plan).files = files := by
  unfold Plan.files
  refine (congrArg OrderedMap.ofEntries ?_).trans (OrderedMap.ofEntries_of_nodup hnodup)
  simp [stepsWith, installSteps, List.filterMap_append, List.filterMap_map]

theorem packages_stepsWith (files : List (String × String)) :
    (⟨p.stepsWith files⟩ : Plan).installs.flatMap (·.2) = packageCases.given p := by
  rw [← p.packages_eq, Plan.installs]
  simp [stepsWith, installSteps, List.filterMap_append, List.filterMap_map, List.flatMap_map]

end Project

namespace Plan.Realizes

variable {plan : Plan} {p : Project} {kind : FileKind}

theorem exists_kind (h : plan.Realizes p) {file : String × String} (hfile : file ∈ plan.files) :
    ∃ kind ∈ p.files, kind.path p = file.1 ∧ kind.render p = .ok file.2 :=
  (h.mem_files file.1 file.2).1 hfile

theorem exists_kind_of_path (h : plan.Realizes p) {path : String}
    (hpath : path ∈ OrderedMap.keys plan.files) : ∃ kind ∈ p.files, kind.path p = path := by
  obtain ⟨file, hfile, rfl⟩ := List.mem_map.1 hpath
  obtain ⟨kind, hkind, hkey, -⟩ := h.exists_kind hfile
  exact ⟨kind, hkind, hkey⟩

/-- Each kind of file of the project is written with its content. -/
theorem exists_content (h : plan.Realizes p) (hkind : kind ∈ p.files) :
    ∃ content, (kind.path p, content) ∈ plan.files ∧ kind.render p = .ok content := by
  obtain ⟨content, hcontent⟩ := kind.exists_render p
  exact ⟨content, (h.mem_files _ content).2 ⟨kind, hkind, rfl, hcontent⟩, hcontent⟩

theorem path_mem (h : plan.Realizes p) (hkind : kind ∈ p.files) :
    kind.path p ∈ OrderedMap.keys plan.files := by
  obtain ⟨content, hfile, -⟩ := h.exists_content hkind
  exact List.mem_map_of_mem hfile

/-- What is written under the path of a kind of file is the content of this kind. -/
theorem render_of_mem (h : plan.Realizes p) {content : String}
    (hfile : (kind.path p, content) ∈ plan.files) :
    kind ∈ p.files ∧ kind.render p = .ok content := by
  obtain ⟨other, hother, hpath, hrender⟩ := h.exists_kind hfile
  obtain rfl := p.path_injective hpath
  exact ⟨hother, hrender⟩

theorem kind_mem (h : plan.Realizes p) (hpath : kind.path p ∈ OrderedMap.keys plan.files) :
    kind ∈ p.files := by
  obtain ⟨other, hother, hkey⟩ := h.exists_kind_of_path hpath
  obtain rfl := p.path_injective hkey
  exact hother

end Plan.Realizes

/-- A project within the gates has a plan, which writes its files and installs its packages. -/
theorem Plan.exists_realizes {p : Project} (hgates : p.gatingFault? = none) :
    ∃ plan, Plan.compile p = .ok plan ∧ plan.Realizes p := by
  obtain ⟨files, hwrites, hpaths⟩ := p.exists_writeSteps
  have hnodup : (OrderedMap.keys files).Nodup := by
    rw [OrderedMap.keys, hpaths]
    exact p.nodup_paths
  refine ⟨⟨p.stepsWith files⟩, ?_, ?_⟩
  · rw [compile, hgates]
    dsimp only
    rw [hwrites]
    rfl
  · constructor
    · intro path content
      rw [Project.filesOf_stepsWith hnodup]
      exact Project.mem_of_writeSteps hwrites
    · exact Project.packages_stepsWith files

end ReactScaffold
