import ReactScaffold.Proofs.Execution.Timeline
import ReactScaffold.Proofs.Session.Files

/-!
# How steps end

A run goes through all its steps or ends with the first that fails. For each kind of step it is said
what becomes of the session then: what commands leave that were started, and when a manifest is
read, merged and written.
-/

namespace ReactScaffold

open ReactScaffold.Action Session Text

/-- A run goes through all its steps, or ends with the first that fails. -/
theorem runSteps_cases {σ : Type} (ops : Operations σ) (index : Nat) (steps : List Step) (s : σ) :
    (∃ t, (Step.applyAll ops steps).perform s = (.ok (), t) ∧
      runSteps ops index steps s = ⟨reportsFrom [.running, .succeeded] index steps,
        .ok (reportsFrom [.succeeded] index steps), t⟩) ∨
      ∃ done step rest t failure u, steps = done ++ step :: rest ∧
        (Step.applyAll ops done).perform s = (.ok (), t) ∧
        (step.apply ops).perform t = (.error failure, u) ∧
        runSteps ops index steps s =
          { failedCourse ops (index + done.length) step failure u with
            reports := reportsFrom [.running, .succeeded] index done ++
              ⟨index + done.length, step.label, .running, none⟩ ::
                (failedCourse ops (index + done.length) step failure u).reports } := by
  rcases Step.applyAll_ok_or_first_failure ops steps s with
    ⟨t, hall⟩ | ⟨done, step, rest, t, failure, u, rfl, hdone, hstep⟩
  · exact .inl ⟨t, hall, runSteps_of_ok ops index hall⟩
  · refine .inr ⟨done, step, rest, t, failure, u, rfl, hdone, hstep, ?_⟩
    rw [runSteps_append ops index _ hdone, runSteps_cons_of_error ops _ rest hstep]
    cases failure with
    | fault f => rfl
    | scaffold e => rfl

variable {programs : Programs} {s t u : Session}

/-! ## Commands -/

/-- The disk after a command has been started in the working directory. -/
def Programs.leaves (programs : Programs) (cwd : Place) (d : Disk) (command : List String) : Disk :=
  match programs command with
  | .refused _ _ => d
  | .started f => f.created.foldl (leave cwd) d

/-- The second session is the first after commands have been started, one after the other. -/
structure Session.AfterStarts (programs : Programs) (s t : Session)
    (commands : List (List String)) : Prop where
  cwd : t.cwd = s.cwd
  history : t.history = s.history ++ startsHere commands
  disk : t.disk = commands.foldl (programs.leaves s.cwd) s.disk

theorem Session.AfterStarts.refl (programs : Programs) (s : Session) :
    s.AfterStarts programs s [] := ⟨rfl, (List.append_nil _).symm, rfl⟩

theorem Session.AfterStarts.trans {first second : List (List String)}
    (h : s.AfterStarts programs t first) (h' : t.AfterStarts programs u second) :
    s.AfterStarts programs u (first ++ second) where
  cwd := h'.cwd.trans h.cwd
  history := by rw [h'.history, h.history, List.append_assoc, startsHere, startsHere, startsHere,
    List.map_append]
  disk := by rw [h'.disk, h.disk, h.cwd, List.foldl_append]

/-- An error that a command or a file has caused. -/
def ScaffoldError.IsOutside : ScaffoldError → Prop
  | .process _ _ _ | .fileSystem _ _ => True
  | _ => False

theorem isOutside_launchError (command : List String) (e : OsError) (missing : Bool) :
    (launchError command e missing).IsOutside := by
  unfold launchError
  dsimp only
  split_ifs
  · trivial
  · trivial

theorem perform_launch_here (programs : Programs) (command : List String) (s : Session) :
    ∃ t, (launch programs command none).perform s = (.ok (programs command), t) ∧
      s.AfterStarts programs t [command] := by
  unfold launch
  cases houtcome : programs command with
  | refused e missing =>
    exact ⟨_, rfl, rfl, rfl, by rw [List.foldl_cons, Programs.leaves, houtcome]; rfl⟩
  | started f =>
    exact ⟨_, rfl, rfl, rfl, by rw [List.foldl_cons, Programs.leaves, houtcome]; rfl⟩

/-- What is made of the outcome of a command changes nothing and fails with an outside error. -/
theorem perform_judge_cases (command : List String) (outcome : Outcome) (s : Session) :
    (∃ ended, (judge command outcome).perform s = (.ok ended, s)) ∨
      ∃ e, (judge command outcome).perform s = (.error (.scaffold e), s) ∧ e.IsOutside := by
  rw [perform_judge_eq_verdict]
  cases outcome with
  | refused e missing => exact .inr ⟨_, rfl, isOutside_launchError command e missing⟩
  | started f =>
      unfold verdict
      dsimp only
      split_ifs
      · exact .inr ⟨_, rfl, isOutside_launchError command .timeout false⟩
      · exact .inl ⟨_, rfl⟩
      · exact .inr ⟨_, rfl, trivial⟩

/-- A command that is run has been started, and fails with an outside error. -/
theorem perform_runCommand_cases (programs : Programs) (command : List String) (s : Session) :
    ∃ t, s.AfterStarts programs t [command] ∧
      (((operations programs).runCommand command).perform s = (.ok (), t) ∨
        ∃ e, ((operations programs).runCommand command).perform s = (.error (.scaffold e), t) ∧
          e.IsOutside) := by
  obtain ⟨t, hlaunch, hstarts⟩ := perform_launch_here programs command
    (s.addRemark .debug .processes ("Running " ++ " ".intercalate command ++ " (cwd=" ++
      (launchDirectory none).getD "." ++ ")"))
  have hrun : (runProcess programs command none).perform s =
      (judge command (programs command)).perform t := by
    show (launch programs command none >>= judge command).perform (s.addRemark _ _ _) = _
    rw [perform_bind, hlaunch]
  refine ⟨t, ⟨hstarts.cwd, hstarts.history, hstarts.disk⟩, ?_⟩
  show (runProcess programs command none >>= fun _ => pure ()).perform s = _ ∨
    ∃ e, (runProcess programs command none >>= fun _ => pure ()).perform s = _ ∧ _
  rw [perform_bind, hrun]
  rcases perform_judge_cases command (programs command) t with ⟨ended, heq⟩ | ⟨e, heq, houtside⟩
  · rw [heq]
    exact .inl rfl
  · rw [heq]
    exact .inr ⟨e, rfl, houtside⟩

theorem perform_installSort_cases (programs : Programs) (manager : PackageManager)
    (packages : List Dependency) (dev : Bool) (s : Session) :
    ∃ commands t, s.AfterStarts programs t commands ∧
      ((installSort (operations programs) manager packages dev).perform s = (.ok (), t) ∨
        ∃ e, (installSort (operations programs) manager packages dev).perform s =
          (.error (.scaffold e), t) ∧ e.IsOutside) := by
  unfold installSort
  dsimp only
  split_ifs with hnone
  · exact ⟨[], s, .refl programs s, .inl rfl⟩
  · obtain ⟨t, hstarts, hend⟩ := perform_runCommand_cases programs
      (manager.commands.addCommand (packageNames packages dev) dev)
      (s.addRemark .debug .steps ("Installing: " ++ " ".intercalate
        (manager.commands.addCommand (packageNames packages dev) dev)))
    exact ⟨_, t, ⟨hstarts.cwd, hstarts.history, hstarts.disk⟩, hend⟩

/-- A step that installs packages starts the first of its commands, and fails with an outside
error. -/
theorem perform_installDependencies_cases (programs : Programs) (manager : PackageManager)
    (packages : List Dependency) (description : String) (s : Session) :
    ∃ commands t, commands <+: addCommands manager packages ∧
      s.AfterStarts programs t commands ∧
      (((Step.installDependencies manager packages description).apply
          (operations programs)).perform s = (.ok (), t) ∨
        ∃ e, ((Step.installDependencies manager packages description).apply
          (operations programs)).perform s = (.error (.scaffold e), t) ∧ e.IsOutside) := by
  suffices h : ∃ commands t, s.AfterStarts programs t commands ∧
      (((Step.installDependencies manager packages description).apply
          (operations programs)).perform s = (.ok (), t) ∨
        ∃ e, ((Step.installDependencies manager packages description).apply
          (operations programs)).perform s = (.error (.scaffold e), t) ∧ e.IsOutside) by
    obtain ⟨commands, t, hstarts, hend⟩ := h
    refine ⟨commands, t, ?_, hstarts, hend⟩
    obtain ⟨h, hhistory, hbegins, -⟩ := @follows_apply programs s.cwd
      (.installDependencies manager packages description) s rfl
    have hstate : (((Step.installDependencies manager packages description).apply
        (operations programs)).perform s).2 = t := by
      rcases hend with heq | ⟨e, heq, -⟩
      · rw [heq]
      · rw [heq]
    rw [hstate, hstarts.history] at hhistory
    obtain ⟨first, hfirst, heq⟩ := List.prefix_map_iff.1 hbegins
    have hsame := (List.append_cancel_left hhistory).trans heq
    have hinjective : Function.Injective fun command : List String =>
        Happening.started ⟨command, none⟩ := fun a b hab => by
      simpa using hab
    rwa [List.map_injective_iff.2 hinjective hsame]
  obtain ⟨first, t, hfirst, hend⟩ := perform_installSort_cases programs manager packages false s
  rw [Step.apply, perform_bind]
  rcases hend with heq | ⟨e, heq, houtside⟩
  · obtain ⟨second, u, hsecond, hend'⟩ := perform_installSort_cases programs manager packages true t
    rw [heq]
    exact ⟨_, u, hfirst.trans hsecond, hend'⟩
  · rw [heq]
    exact ⟨_, t, hfirst, .inr ⟨e, rfl, houtside⟩⟩

/-! ## Manifests -/

/-- Nothing is merged into a manifest that cannot be read. -/
theorem perform_mergeManifestScripts_of_error {entries : OrderedMap String String}
    {manifest : String} {failure : Failure}
    (h : (readJson none manifest).perform s = (.error failure, t)) :
    ((Step.mergeManifestScripts entries manifest).apply (operations programs)).perform s =
      (.error failure, t) := by
  show ((readJson none manifest >>= fun members => _) : Action Session Unit).perform s = _
  rw [perform_bind, h]

/-- Scripts are merged into a manifest that is held, and the result is written. -/
theorem perform_mergeManifestScripts_of_holdsObject {entries : OrderedMap String String}
    {manifest : String} {members : Members}
    (hholds : HoldsObject s (target none manifest) members) :
    ((Step.mergeManifestScripts entries manifest).apply (operations programs)).perform s =
      match mergeIntoManifest members entries with
      | .error f => (.error (.fault (.scripts f)), s)
      | .ok merged => (writeJson none manifest (.obj merged)).perform s := by
  show ((readJson none manifest >>= fun members => _) : Action Session Unit).perform s = _
  rw [perform_bind, readJson_of_holdsObject hholds]
  dsimp only
  rw [perform_bind, perform_ofExcept]
  cases mergeIntoManifest members entries with
  | error f => rfl
  | ok merged => rfl

/-- A step that merges scripts stops where the manifest cannot be read or merged, and ends as the
merged manifest is written. -/
theorem perform_mergeManifestScripts_cases (programs : Programs)
    (entries : OrderedMap String String) (manifest : String) (s : Session) :
    (∃ failure, (readJson none manifest).perform s = (.error failure, s) ∧
        ((Step.mergeManifestScripts entries manifest).apply (operations programs)).perform s =
          (.error failure, s)) ∨
      ∃ members, HoldsObject s (target none manifest) members ∧
        ((∃ f, mergeIntoManifest members entries = .error f ∧
            ((Step.mergeManifestScripts entries manifest).apply (operations programs)).perform s =
              (.error (.fault (.scripts f)), s)) ∨
          ∃ merged, mergeIntoManifest members entries = .ok merged ∧
            ((Step.mergeManifestScripts entries manifest).apply (operations programs)).perform s =
              (writeJson none manifest (.obj merged)).perform s) := by
  cases hread : (readJson none manifest).perform s with
  | mk result t =>
      cases result with
      | error failure =>
          obtain ⟨rfl, -⟩ := perform_readJson_eq_error hread
          exact .inl ⟨failure, rfl, perform_mergeManifestScripts_of_error hread⟩
      | ok members =>
          obtain ⟨rfl, hholds⟩ := holdsObject_of_readJson hread
          refine .inr ⟨members, hholds, ?_⟩
          rw [perform_mergeManifestScripts_of_holdsObject hholds]
          cases hmerge : mergeIntoManifest members entries with
          | error f => exact .inl ⟨f, rfl, rfl⟩
          | ok merged => exact .inr ⟨merged, rfl, rfl⟩

end ReactScaffold
