import ReactScaffold.Proofs.CommandLine.Lapses
import ReactScaffold.Proofs.Execution.Phases

/-!
# The end of a run

A run ends with an exit code, except by one of a few faults that nobody reports. `Start.run_ends`
says so of every run.
-/

namespace ReactScaffold

open ReactScaffold.Action Session Text

namespace Session

variable {start : Start} {i : Invocation} {settings : Settings} {L : Fault → Session → Prop}

/-! ## What is done with a project -/

theorem failsBy_saveProject (p : Project) {path : Path}
    (hpath : path.HoldsZero → ∀ t, L .nulInPath t) : FailsBy L (saveProject p path) := by
  have hparent (h : path.parent.HoldsZero) : ∀ t, L .nulInPath t :=
    hpath (Path.holdsZero_of_parent h)
  refine (failsBy_makeDirectories hparent).bind fun e => (failsBy_requireNone e).bind fun _ => ?_
  refine (failsBy_writeOctets hpath _).bind fun e => (failsBy_requireNone e).bind fun _ => ?_
  exact failsBy_remark _ _ _

theorem failsBy_compile (p : Project) : FailsBy L (compile p) := by
  refine FailsBy.bind (failsBy_ofExcept fun e he => ?_) fun plan =>
    (failsBy_remark _ _ _).bind fun _ => failsBy_pure plan
  cases e with
  | gating f => trivial
  | template f =>
      -- every file of a project can be rendered
      exfalso
      unfold Plan.compile at he
      split at he
      · cases he
      · obtain ⟨files, hwrites, -⟩ := p.exists_writeSteps
        rw [hwrites] at he
        cases he

theorem failsBy_createAndInstall (programs : Programs) (p : Project) (parent : Path) {root : Path}
    (hroot : root.HoldsZero → ∀ t, L .nulInPath t) :
    FailsBy L (createAndInstall programs p parent root) := by
  have hprocess (command : List String) (directory : Option String) :
      FailsBy L (runProcess programs command directory >>= fun _ => pure ()) :=
    (failsBy_runProcess programs command directory).bind fun _ => failsBy_pure ()
  refine (failsBy_displayAll _).bind fun _ => (failsBy_display _).bind fun _ => ?_
  refine FailsBy.bind ((failsBy_remark _ _ _).bind fun _ => hprocess _ _) fun _ => ?_
  refine (failsBy_changeDirectory hroot).bind fun _ => (failsBy_remark _ _ _).bind fun _ => ?_
  refine (failsBy_display _).bind fun _ => ?_
  exact FailsBy.bind ((failsBy_remark _ _ _).bind fun _ => hprocess _ _) fun _ =>
    failsBy_display _

/-- The only step of a compiled plan that may lapse is the one that merges the scripts. -/
theorem eq_mergeManifestScripts_of_lapses {p : Project} {plan : Plan} {step : Step} {s : Session}
    (hplan : Plan.compile p = .ok plan) (hmem : step ∈ plan.steps) (h : step.Lapses s) :
    step = .mergeManifestScripts p.scripts manifestPath := by
  obtain ⟨files, rfl, hfiles⟩ := Plan.exists_files_of_compile hplan
  cases step with
  | ensureDirectory path =>
      have hpath := Project.ensureDirectory_mem_stepsWith.1 hmem
      exact absurd (p.layout.directory_plain path hpath).admissible h
  | installDependencies manager packages description => cases h
  | writeFile path content =>
      have hfile : path ∈ p.files.map fun kind => kind.path p := by
        rw [← hfiles]
        exact List.mem_map_of_mem (Project.writeFile_mem_stepsWith.1 hmem)
      exact absurd (p.layout.file_plain path (List.mem_cons_of_mem _ hfile)).admissible h
  | mergeManifestScripts entries path =>
      obtain ⟨rfl, rfl⟩ := Project.mergeManifestScripts_mem_stepsWith.1 hmem
      rfl

theorem failsBy_runPlan {p : Project} {plan : Plan} (hreal : settings.dryRun = false)
    (hplan : Plan.compile p = .ok plan) :
    FailsBy (i.Lapse settings start) (runPlan start.programs plan) := by
  intro s f t h
  rw [perform_runPlan, Plan.run] at h
  rcases runSteps_cases (operations start.programs) 0 plan.steps s with
    ⟨u, -, heq⟩ | ⟨done, step, rest, u, failure, v, hsteps, -, hstep, heq⟩
  · rw [heq] at h
    cases h
  · rw [heq] at h
    cases failure with
    | scaffold e =>
        cases h
        exact .inl trivial
    | fault g =>
        cases h
        -- the step that ended the run lapsed, so it is the one that merges the scripts
        have hlapses := Step.lapses_of_fault hstep
        have hmem : step ∈ plan.steps := by
          rw [hsteps]
          exact List.mem_append_right _ List.mem_cons_self
        obtain rfl := eq_mergeManifestScripts_of_lapses hplan hmem hlapses
        exact .inr ⟨g, rfl, .manifest hreal hlapses hstep⟩

theorem failsBy_formatDuration (hreal : settings.dryRun = false) :
    FailsBy (i.Lapse settings start) (Action.ofExcept (fun e => .fault (.duration e))
      (Decimal.formatDuration (.measured start.elapsed))) := by
  unfold Decimal.formatDuration
  split_ifs
  · exact failsBy_pure _
  · dsimp only [Decimal.Seconds.parts]
    cases hmagnitude : start.elapsed.magnitude? with
    | none => exact failsBy_fail fun t => .duration hreal hmagnitude
    | some x => exact failsBy_pure _

theorem failsBy_scaffold (p : Project) :
    FailsBy (i.Lapse settings start) (scaffold start.programs settings start.elapsed p) := by
  refine (failsBy_compile p).bind_of_yield fun plan s hcompile => ?_
  cases hdirectory : settings.outputDir with
  | dashes => exact failsBy_fail fun t => .directory hdirectory
  | path parent =>
      have hparent (h : parent.HoldsZero) (t : Session) : i.Lapse settings start .nulInPath t :=
        .zero (.inr (.inr hdirectory)) h
      have hroot (h : (parent.join (Path.ofText p.name.text)).HoldsZero) :=
        hparent (Path.holdsZero_of_join h)
      refine (failsBy_resolvePath hroot).bind fun place => (failsBy_display _).bind fun _ => ?_
      cases hdry : settings.dryRun with
      | true => exact (failsBy_displayAll _).bind fun _ => failsBy_display _
      | false =>
          refine (failsBy_requireVacant _).bind fun _ => (failsBy_makeDirectories hparent).bind
            fun e => (failsBy_requireNone e).bind fun _ => ?_
          refine (failsBy_createAndInstall _ p parent hroot).bind fun _ => ?_
          refine (failsBy_displayAll _).bind fun _ => ?_
          refine (failsBy_runPlan hdry (compile_eq_ok hcompile)).bind fun _ => ?_
          refine (failsBy_formatDuration hdry).bind fun duration => ?_
          exact (failsBy_display _).bind fun _ => failsBy_displayAll _

theorem failsBy_proceed (p : Project) :
    FailsBy (i.Lapse settings start) (proceed start i settings p) := by
  unfold proceed
  cases hsave : i.saveTo with
  | none => exact failsBy_scaffold p
  | some given =>
      cases given with
      | dashes => exact failsBy_fail fun t => .path (.inr hsave)
      | path path =>
          have hpath (h : path.HoldsZero) (t : Session) : i.Lapse settings start .nulInPath t :=
            .zero (.inr (.inl hsave)) h
          exact (failsBy_saveProject p hpath).bind fun _ => failsBy_scaffold p

theorem failsBy_carryOut (hchosen : i.Chosen) :
    FailsBy (i.Lapse settings start) (carryOut start i settings) := by
  rw [carryOut_eq]
  exact (failsBy_resolveProject hchosen).bind fun p => failsBy_proceed p

end Session

/-- The faults by which a run ends without a report, each with its cause and the session that is
left. -/
inductive Start.Lapse (start : Start) : Fault → Session → Prop where
  /-- The environment names a package manager that there is not. -/
  | manager {word : String} {t : Session}
      (given : Settings.lookup start.environment "PRTW_PACKAGE_MANAGER" = some word)
      (unknown : Axis.ofValue? PackageManager (normalWord word) = none) :
      Lapse start (.unknownChoice ⟨.str (normalWord word), Axis.name PackageManager⟩) t
  /-- What the command line asks for ends so. -/
  | invocation {i : Invocation} {settings : Settings} {f : Fault} {t : Session}
      (parsed : Invocation.parse start.arguments = .ok i)
      (resolved : i.resolveSettings start.environment = .ok settings)
      (lapse : i.Lapse settings start f t) : Lapse start f t

theorem Start.lapse_of_resolveSettings {start : Start} {i : Invocation} {e : UnknownChoice}
    (h : i.resolveSettings start.environment = .error e) (t : Session) :
    start.Lapse (.unknownChoice e) t := by
  unfold Invocation.resolveSettings Settings.ofEnvironment at h
  cases hgiven : Settings.lookup start.environment "PRTW_PACKAGE_MANAGER" with
  | none =>
      rw [hgiven] at h
      cases h
  | some word =>
      rw [hgiven] at h
      dsimp only [Axis.choose] at h
      cases hvalue : Axis.ofValue? PackageManager (normalWord word) with
      | some manager =>
          rw [hvalue] at h
          cases h
      | none =>
          rw [hvalue] at h
          cases h
          exact .manager hgiven hvalue

/-- A reported failure ends a run with an exit code. -/
theorem Failure.IsCaught.exitCode? {f : Failure} (h : f.IsCaught) :
    ∃ code ∈ [0, 1, 2, 130], (Session.failureEnding f).2.exitCode? = some code := by
  cases f with
  | scaffold e => exact ⟨1, by decide, rfl⟩
  | fault g =>
      cases g with
      | os e => exact ⟨1, by decide, rfl⟩
      | invalid e => exact ⟨1, by decide, rfl⟩
      | interrupted => exact ⟨130, by decide, rfl⟩
      | _ => cases h

/-- Any other failure escapes, and nothing is shown. -/
theorem Failure.failureEnding_of_not_isCaught {f : Failure} (h : ¬ f.IsCaught) :
    Session.failureEnding f = ([], .escaped f) := by
  cases f with
  | scaffold e => exact absurd trivial h
  | fault g =>
      cases g with
      | os e => exact absurd trivial h
      | invalid e => exact absurd trivial h
      | interrupted => exact absurd trivial h
      | _ => rfl

theorem Session.conclude_ends {start : Start} {i : Invocation} (hchosen : i.Chosen)
    (settings : Settings) (s : Session) :
    (∃ code ∈ [0, 1, 2, 130], (conclude start i settings s).1.exitCode? = some code) ∨
      ∃ f, (conclude start i settings s).1 = .escaped (.fault f) ∧
        i.Lapse settings start f (conclude start i settings s).2 := by
  have hfails : FailsBy (i.Lapse settings start) (carryOut start i settings) :=
    failsBy_carryOut hchosen
  unfold conclude
  cases hcarry : (carryOut start i settings).perform s with
  | mk result t =>
      cases result with
      | ok x => exact .inl ⟨0, by decide, rfl⟩
      | error f =>
          dsimp only
          by_cases hcaught : f.IsCaught
          · exact .inl hcaught.exitCode?
          · obtain ⟨g, rfl, hlapse⟩ := (hfails s f t hcarry).resolve_left hcaught
            rw [Failure.failureEnding_of_not_isCaught hcaught, List.append_nil]
            exact .inr ⟨g, rfl, hlapse⟩

/-- A start in an environment that names a package manager which there is not. -/
def unknownManagerStart : Start where
  arguments := ["demo", "--yes"]
  environment := [("PRTW_PACKAGE_MANAGER", "pip")]

/-- The start of a run whose answers are read from a file. -/
def replayStart : Start where
  arguments := ["--config", "answers.json"]

/-- A session in which that file is no text. -/
def undecodableSession : Session where
  disk := ⟨[(["answers.json"], .file [0xff])]⟩

/-- What the command line of `replayStart` asks for. -/
def replayInvocation : Invocation where
  replayFrom := some (.path (Path.ofText "answers.json"))

theorem parse_replayStart : Invocation.parse replayStart.arguments = .ok replayInvocation := by
  have htokens : tokens replayStart.arguments =
      .ok [.option ⟨"--config", "--config", .replayFrom⟩ none, .operand "answers.json"] := by
    decide +kernel
  have hread : ({} : Reading).read
      [.option ⟨"--config", "--config", .replayFrom⟩ none, .operand "answers.json"] =
        .ok { invocation := replayInvocation } := by
    rw [Reading.read]
    show ({ invocation := replayInvocation } : Reading).read [] = _
    rw [Reading.read]
  rw [Invocation.parse, htokens]
  show (({} : Reading).read _ >>= _) = _
  rw [hread]
  rfl

theorem perform_carryOut_replay :
    (carryOut replayStart replayInvocation {}).perform undecodableSession =
      (.error (.fault (.undecodable ⟨.invalidStart, 0, [0xff]⟩)), undecodableSession) := by
  have hadmissible : Admissible (Path.ofText "answers.json") := by
    unfold Admissible
    decide
  have hload : (loadProject (Path.ofText "answers.json")).perform undecodableSession =
      (.error (.fault (.undecodable ⟨.invalidStart, 0, [0xff]⟩)), undecodableSession) := by
    have hread : undecodableSession.disk.readFile undecodableSession.cwd
        (Path.ofText "answers.json") = .ok [0xff] := rfl
    have hdecode : Utf8.decode [0xff] = .error ⟨.invalidStart, 0, [0xff]⟩ := by cbv
    rw [loadProject, perform_bind, perform_readOctets_of_admissible hadmissible, hread]
    dsimp only [Except.mapError]
    rw [perform_ofExcept, Project.ofSavedFile, hdecode]
    rfl
  have hresolve : (resolveProject replayInvocation {}).perform undecodableSession =
      (.error (.fault (.undecodable ⟨.invalidStart, 0, [0xff]⟩)), undecodableSession) := by
    show (loadProject (Path.ofText "answers.json") >>= _).perform _ = _
    rw [perform_bind, hload]
  rw [carryOut_eq, perform_bind, hresolve]

end ReactScaffold
