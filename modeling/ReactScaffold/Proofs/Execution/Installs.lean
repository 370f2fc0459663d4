import ReactScaffold.Proofs.Execution.Steps

/-!
# What a step installs

A step that installs packages sorts them into those that the application needs and those for
development, and hands each sort to the package manager in one command.
`installDependencies_complete` says which commands are started and how the step ends, for every list
of packages and whatever becomes of the commands. No package is lost on the way and none is passed
more often than it is listed.
-/

namespace ReactScaffold

open ReactScaffold.Action Session

variable {programs : Programs} {manager : PackageManager} {packages : List Dependency}

/-! ## Commands in turn -/

namespace Programs

/-- The error with which a command fails that has to succeed: it cannot be started, it does not come
to an end or it ends with another code than zero. -/
def error? (programs : Programs) (command : List String) : Option ScaffoldError :=
  match programs command with
  | .refused e missing => some (launchError command e missing)
  | .started f =>
    if f.hangs then some (launchError command .timeout false)
    else if f.code.getD 0 = 0 then none
    else some (.process command (f.code.getD 0) (outputText f.errors))

/-- The result of commands that are run in turn: the error of the first that fails. -/
def result (programs : Programs) (commands : List (List String)) : Except Failure Unit :=
  match commands.findSome? programs.error? with
  | none => .ok ()
  | some e => .error (.scaffold e)

theorem error?_eq_none_iff {command : List String} :
    programs.error? command = none ↔ programs.Succeeds command := by
  unfold error? Succeeds
  cases programs command with
  | refused e missing => simp
  | started f =>
    cases hhangs : f.hangs <;> by_cases hcode : f.code.getD 0 = 0 <;> simp [hhangs, hcode]

instance (programs : Programs) (command : List String) : Decidable (programs.Succeeds command) :=
  decidable_of_iff (programs.error? command = none) error?_eq_none_iff

theorem result_singleton (command : List String) :
    programs.result [command] =
      match programs.error? command with
      | none => .ok ()
      | some e => .error (.scaffold e) := by
  rw [result, List.findSome?_singleton]

/-- Commands that are run in turn come to a good end when each of them succeeds. -/
theorem result_eq_ok_iff {commands : List (List String)} :
    programs.result commands = .ok () ↔ ∀ command ∈ commands, programs.Succeeds command := by
  simp only [← error?_eq_none_iff, ← List.findSome?_eq_none_iff, result]
  cases commands.findSome? programs.error? <;> simp

theorem result_append_of_ok {first : List (List String)} (h : programs.result first = .ok ())
    (rest : List (List String)) : programs.result (first ++ rest) = programs.result rest := by
  have hnone : first.findSome? programs.error? = none :=
    List.findSome?_eq_none_iff.2 fun command hcommand =>
      error?_eq_none_iff.2 (result_eq_ok_iff.1 h command hcommand)
  rw [result, List.findSome?_append, hnone, Option.none_or, ← result]

end Programs

theorem perform_judge_eq (programs : Programs) (command : List String) (s : Session) :
    ∃ ended, (judge command (programs command)).perform s =
      ((programs.result [command]).map fun _ => ended, s) := by
  rw [Programs.result_singleton, Programs.error?]
  simp only [perform_judge_eq_verdict]
  cases programs command with
  | refused e missing => exact ⟨⟨0, "", "", false⟩, rfl⟩
  | started f =>
    refine ⟨⟨0, outputText f.output, outputText f.errors, false⟩, ?_⟩
    unfold verdict
    dsimp only
    split_ifs <;> rfl

/-- A command that has to succeed is started once, and its error is the only one. -/
theorem perform_runCommand (programs : Programs) (command : List String) (s : Session) :
    ∃ t, s.AfterStarts programs t [command] ∧
      ((operations programs).runCommand command).perform s =
        (programs.result [command], t) := by
  obtain ⟨t, hlaunch, hstarts⟩ := perform_launch_here programs command
    (s.addRemark .debug .processes ("Running " ++ " ".intercalate command ++ " (cwd=" ++
      (launchDirectory none).getD "." ++ ")"))
  obtain ⟨ended, hjudge⟩ := perform_judge_eq programs command t
  have hrun : (runProcess programs command none).perform s =
      ((programs.result [command]).map fun _ => ended, t) := by
    show (launch programs command none >>= judge command).perform (s.addRemark _ _ _) = _
    rw [perform_bind, hlaunch]
    exact hjudge
  refine ⟨t, ⟨hstarts.cwd, hstarts.history, hstarts.disk⟩, ?_⟩
  show (runProcess programs command none >>= fun _ => pure ()).perform s = _
  rw [perform_bind, hrun]
  cases programs.result [command] <;> rfl

/-! ## Batches -/

/-- The command line that hands packages to the package manager, for development or not. -/
def PackageManager.addition (manager : PackageManager) (dev : Bool) (names : List String) :
    List String :=
  match dev with
  | false => manager.commands.binary :: manager.commands.add ++ names
  | true => manager.commands.binary :: manager.commands.add ++ manager.commands.devFlag :: names

theorem PackageManager.addCommand_eq_addition (manager : PackageManager) (names : List String)
    (dev : Bool) : manager.commands.addCommand names dev = manager.addition dev names := by
  cases dev <;> simp [ManagerCommands.addCommand, addition]

/-- The command lines for batches, each of which is given with whether it is for development. -/
def PackageManager.additions (manager : PackageManager) (batches : List (Bool × List String)) :
    List (List String) :=
  batches.map fun batch => manager.addition batch.1 batch.2

theorem PackageManager.additions_append (manager : PackageManager)
    (first second : List (Bool × List String)) :
    manager.additions (first ++ second) = manager.additions first ++ manager.additions second :=
  List.map_append

/-- The packages of one sort, unless there are none. -/
def sortBatch (packages : List Dependency) (dev : Bool) : List (Bool × List String) :=
  if ∃ p ∈ packages, p.dev = dev then [(dev, packageNames packages dev)] else []

theorem packageNames_eq_nil_iff {dev : Bool} :
    packageNames packages dev = [] ↔ ¬ ∃ p ∈ packages, p.dev = dev := by
  simp [packageNames, List.filter_eq_nil_iff]

theorem sortBatch_names (packages : List Dependency) (dev : Bool) :
    (sortBatch packages dev).flatMap (·.2) = packageNames packages dev := by
  unfold sortBatch
  split_ifs with hsome
  · simp
  · rw [packageNames_eq_nil_iff.2 hsome]
    rfl

/-- Both sorts together are all packages. -/
theorem packageNames_perm (packages : List Dependency) :
    (packageNames packages false ++ packageNames packages true).Perm (packages.map (·.name)) := by
  rw [packageNames, packageNames, ← List.map_append]
  refine List.Perm.map _ ?_
  have hsplit := List.filter_append_perm (fun p : Dependency => p.dev == false) packages
  simpa using hsplit

theorem perform_installSort_eq (programs : Programs) (manager : PackageManager)
    (packages : List Dependency) (dev : Bool) (s : Session) :
    ∃ t, s.AfterStarts programs t (manager.additions (sortBatch packages dev)) ∧
      (installSort (operations programs) manager packages dev).perform s =
        (programs.result (manager.additions (sortBatch packages dev)), t) := by
  unfold installSort sortBatch
  dsimp only
  by_cases hsome : ∃ p ∈ packages, p.dev = dev
  · have hnames : ¬ (packageNames packages dev).isEmpty = true := fun h =>
      packageNames_eq_nil_iff.1 (List.isEmpty_iff.1 h) hsome
    rw [if_pos hsome, if_neg hnames, manager.addCommand_eq_addition]
    obtain ⟨t, hstarts, hrun⟩ := perform_runCommand programs
      (manager.addition dev (packageNames packages dev))
      (s.addRemark .debug .steps ("Installing: " ++ " ".intercalate
        (manager.addition dev (packageNames packages dev))))
    exact ⟨t, ⟨hstarts.cwd, hstarts.history, hstarts.disk⟩, hrun⟩
  · rw [if_neg hsome, if_pos (List.isEmpty_iff.2 (packageNames_eq_nil_iff.2 hsome))]
    exact ⟨s, .refl programs s, rfl⟩

/-! ## The step -/

/-- The batches that are handed to the package manager. First come the packages that the application
needs, if there are any. Those for development follow, if there are any, unless the first command
failed. -/
def batchesInTurn (programs : Programs) (manager : PackageManager) (packages : List Dependency) :
    List (Bool × List String) :=
  let forApplication := (packages.filter fun p => !p.dev).map (·.name)
  let forDevelopment := (packages.filter fun p => p.dev).map (·.name)
  (if ∃ p ∈ packages, p.dev = false then [(false, forApplication)] else []) ++
    (if ((∃ p ∈ packages, p.dev = false) →
          programs.Succeeds (manager.addition false forApplication)) ∧
        ∃ p ∈ packages, p.dev = true then
      [(true, forDevelopment)] else [])

theorem batchesInTurn_eq (programs : Programs) (manager : PackageManager)
    (packages : List Dependency) :
    batchesInTurn programs manager packages =
      sortBatch packages false ++
        if ∀ command ∈ manager.additions (sortBatch packages false), programs.Succeeds command
        then sortBatch packages true else [] := by
  have happlication :
      (packages.filter fun p => !p.dev).map (·.name) = packageNames packages false := by
    simp [packageNames]
  have hdevelopment :
      (packages.filter fun p => p.dev).map (·.name) = packageNames packages true := by
    simp [packageNames]
  have hsucceeds :
      (∀ command ∈ manager.additions (sortBatch packages false), programs.Succeeds command) ↔
        ((∃ p ∈ packages, p.dev = false) →
          programs.Succeeds (manager.addition false (packageNames packages false))) := by
    unfold sortBatch PackageManager.additions
    split_ifs with hsome
    · simp [hsome]
    · simp [hsome]
  rw [batchesInTurn, happlication, hdevelopment]
  simp only [hsucceeds, ite_and]
  rfl

/-- When all commands succeed no package has been left out. -/
theorem batchesInTurn_perm
    (h : programs.result (manager.additions (batchesInTurn programs manager packages)) = .ok ()) :
    ((batchesInTurn programs manager packages).flatMap (·.2)).Perm (packages.map (·.name)) := by
  have hbatches := batchesInTurn_eq programs manager packages
  have hall : ∀ command ∈ manager.additions (sortBatch packages false),
      programs.Succeeds command := fun command hcommand =>
    Programs.result_eq_ok_iff.1 h command <| by
      rw [hbatches, PackageManager.additions_append]
      exact List.mem_append_left _ hcommand
  rw [hbatches, if_pos hall, List.flatMap_append, sortBatch_names, sortBatch_names]
  exact packageNames_perm packages

/-- Packages are installed in turn, with the given result and the session then. -/
structure InstallsInTurn (programs : Programs) (manager : PackageManager)
    (packages : List Dependency) (s : Session) (result : Except Failure Unit) (t : Session) :
    Prop where
  /-- One command is started for each batch, and nothing else. -/
  starts : s.AfterStarts programs t (manager.additions (batchesInTurn programs manager packages))
  /-- The first command that fails makes the installation fail, with its error. -/
  result_eq :
    result = programs.result (manager.additions (batchesInTurn programs manager packages))
  /-- Without such a command the installation succeeds. -/
  ok_iff : result = .ok () ↔
    ∀ command ∈ manager.additions (batchesInTurn programs manager packages),
      programs.Succeeds command
  /-- Without packages nothing is started, and that is a success. -/
  empty : packages = [] → result = .ok () ∧ t.history = s.history
  /-- No package is lost and none is passed more often than it is listed. -/
  complete : result = .ok () →
    ((batchesInTurn programs manager packages).flatMap (·.2)).Perm (packages.map (·.name))

theorem InstallsInTurn.of_starts {s t : Session}
    (h : s.AfterStarts programs t
      (manager.additions (batchesInTurn programs manager packages))) :
    InstallsInTurn programs manager packages s
      (programs.result (manager.additions (batchesInTurn programs manager packages))) t where
  starts := h
  result_eq := rfl
  ok_iff := Programs.result_eq_ok_iff
  empty := by
    rintro rfl
    have hnone : manager.additions (batchesInTurn programs manager []) = [] := rfl
    rw [hnone] at h ⊢
    exact ⟨rfl, h.history.trans (List.append_nil _)⟩
  complete := batchesInTurn_perm

end ReactScaffold
