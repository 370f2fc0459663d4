import ReactScaffold.Proofs.CommandLine.Stages
import ReactScaffold.Proofs.Execution.Steps

/-!
# Failures before anything is done

The failures that a run meets before its base project is created are told apart from those that may
come later. A dry run, and a run that fails in one of the first ways, leaves the world as it is but
for the project that it was asked to save.
-/

namespace ReactScaffold

open ReactScaffold.Action Session Text

/-- The fault is one that a run meets before its base project is created. -/
def Fault.IsEarly : Fault → Prop
  | .unknownChoice _ | .invalid _ | .template _ | .undecodable _ | .notAPath | .noDirectory
  | .endOfInput | .interrupted => True
  | _ => False

/-- The failure is one that a run meets before its base project is created: the answers contradict
each other or are none, a file cannot be loaded or is in the place of the project, or nobody
answers. -/
def Failure.IsEarly : Failure → Prop
  | .scaffold (.invalidConfiguration _ _) | .scaffold (.fileSystem _ _) => True
  | .scaffold _ => False
  | .fault f => f.IsEarly

namespace Action

variable {α β : Type}

/-- The action fails in none of the ways that are met early. -/
def FailsLate (a : Action Session α) : Prop :=
  ∀ s f t, a.perform s = (.error f, t) → ¬ f.IsEarly

theorem failsLate_of_ok {a : Action Session α} (h : ∀ s, (a.perform s).1.isOk = true) :
    FailsLate a := by
  intro s f t hfailed
  have hok := h s
  rw [hfailed] at hok
  cases hok

theorem failsLate_pure (x : α) : FailsLate (pure x) := failsLate_of_ok fun _ => rfl

theorem failsLate_throw {f : Failure} (hf : ¬ f.IsEarly) :
    FailsLate (throw f : Action Session α) := by
  intro s g t h
  cases h
  exact hf

theorem failsLate_ofExcept {ε : Type} {f : ε → Failure} (hf : ∀ e, ¬ (f e).IsEarly)
    (x : Except ε α) : FailsLate (ofExcept f x) := by
  cases x with
  | ok a => exact failsLate_pure a
  | error e => exact failsLate_throw (hf e)

theorem failsLate_get {f : Session → Action Session β} (hf : ∀ x, FailsLate (f x)) :
    FailsLate (get >>= f) := fun s => hf s s

theorem FailsLate.bind {a : Action Session α} {f : α → Action Session β} (ha : FailsLate a)
    (hf : ∀ x, FailsLate (f x)) : FailsLate (a >>= f) := by
  intro s e t h
  rcases perform_bind_eq_error h with hfailed | ⟨x, u, -, hrest⟩
  · exact ha s e t hfailed
  · exact hf x u e t hrest

end Action

namespace Session

variable {programs : Programs} {s t : Session}

/-! ## What comes after a run has begun -/

theorem failsLate_display (e : Event) : FailsLate (display e) := failsLate_of_ok fun _ => rfl

theorem failsLate_displayAll (es : List Event) : FailsLate (displayAll es) :=
  failsLate_of_ok fun s => by rw [perform_displayAll]; rfl

theorem failsLate_remark (level : Level) (topic : Topic) (text : String) :
    FailsLate (remark level topic text) := failsLate_of_ok fun _ => rfl

theorem failsLate_requirePath (p : Path) : FailsLate (requirePath p) := by
  unfold requirePath
  split_ifs
  · exact failsLate_throw id
  · exact failsLate_pure ()

theorem failsLate_makeDirectories (p : Path) : FailsLate (makeDirectories p) :=
  (failsLate_requirePath p).bind fun _ => failsLate_of_ok fun _ => rfl

theorem failsLate_requireNone (e : Option OsError) : FailsLate (requireNone e) := by
  cases e with
  | none => exact failsLate_pure ()
  | some e => exact failsLate_throw id

theorem failsLate_changeDirectory (p : Path) : FailsLate (changeDirectory p) := by
  refine (failsLate_requirePath p).bind fun _ => failsLate_get fun s => ?_
  split
  · exact failsLate_throw id
  · split
    · exact failsLate_of_ok fun _ => rfl
    · exact failsLate_throw id
    · exact failsLate_throw id

theorem not_isEarly_launchError (command : List String) (e : OsError) (missing : Bool) :
    ¬ (Failure.scaffold (launchError command e missing)).IsEarly := by
  unfold launchError
  dsimp only
  split_ifs
  · exact id
  · exact id

theorem failsLate_judge (command : List String) (outcome : Outcome) :
    FailsLate (judge command outcome) := by
  cases outcome with
  | refused e missing => exact failsLate_throw (not_isEarly_launchError command e missing)
  | started f =>
      refine FailsLate.bind
        (failsLate_ofExcept (fun e => not_isEarly_launchError command e false) _) fun ended => ?_
      split_ifs
      · exact failsLate_throw id
      · exact failsLate_pure ended

theorem failsLate_runProcess (programs : Programs) (command : List String)
    (directory : Option String) : FailsLate (runProcess programs command directory) := by
  refine (failsLate_remark _ _ _).bind fun _ => ?_
  show FailsLate (launch programs command directory >>= judge command)
  refine (failsLate_of_ok fun s => ?_).bind fun outcome => failsLate_judge command outcome
  obtain ⟨after, hlaunch, -⟩ := perform_launch programs command directory s
  rw [hlaunch]
  rfl

theorem failsLate_createAndInstall (programs : Programs) (p : Project) (parent root : Path) :
    FailsLate (createAndInstall programs p parent root) := by
  have hprocess (command : List String) (directory : Option String) :
      FailsLate (runProcess programs command directory >>= fun _ => pure ()) :=
    (failsLate_runProcess programs command directory).bind fun _ => failsLate_pure ()
  refine (failsLate_displayAll _).bind fun _ => (failsLate_display _).bind fun _ => ?_
  refine FailsLate.bind ((failsLate_remark _ _ _).bind fun _ => hprocess _ _) fun _ => ?_
  refine (failsLate_changeDirectory root).bind fun _ => (failsLate_remark _ _ _).bind fun _ => ?_
  refine (failsLate_display _).bind fun _ => ?_
  exact FailsLate.bind ((failsLate_remark _ _ _).bind fun _ => hprocess _ _) fun _ =>
    failsLate_display _

theorem failsLate_prepare (programs : Programs) (p : Project) (parent : Path) :
    FailsLate (prepare programs p parent) := by
  refine (failsLate_makeDirectories parent).bind fun e => (failsLate_requireNone e).bind fun _ => ?_
  exact (failsLate_createAndInstall programs p parent _).bind fun _ => failsLate_displayAll _

theorem not_isEarly_of_writeFile {path : String} {content : WideText} {f : Fault}
    (h : (Session.writeFile none path content).perform s = (.error (.fault f), t)) :
    ¬ f.IsEarly := by
  rcases perform_writeFile_cases none path content s with
    ⟨-, heq⟩ | ⟨reason, heq⟩ | ⟨-, place, -, -, ⟨octets, -, heq⟩ | ⟨e, -, heq⟩⟩
  · cases heq.symm.trans h
    exact id
  · cases heq.symm.trans h
  · cases heq.symm.trans h
  · cases heq.symm.trans h
    exact id

/-- A fault that ends a step is not an early one. -/
theorem not_isEarly_of_apply {step : Step} {f : Fault}
    (h : (step.apply (operations programs)).perform s = (.error (.fault f), t)) :
    ¬ f.IsEarly := by
  cases step with
  | writeFile path content => exact not_isEarly_of_writeFile h
  | ensureDirectory path =>
      rcases perform_ensureDirectory_cases none path s with
        ⟨-, heq⟩ | ⟨-, ⟨d, -, heq⟩ | ⟨d, e, -, heq⟩⟩
      · cases heq.symm.trans h
        exact id
      · cases heq.symm.trans h
      · cases heq.symm.trans h
  | installDependencies manager packages description =>
      obtain ⟨commands, u, -, -, heq | ⟨e, heq, -⟩⟩ :=
        perform_installDependencies_cases programs manager packages description s
      · cases heq.symm.trans h
      · cases heq.symm.trans h
  | mergeManifestScripts entries manifest =>
      rcases perform_mergeManifestScripts_cases programs entries manifest s with
        ⟨failure, hread, heq⟩ | ⟨members, -, ⟨g, -, heq⟩ | ⟨merged, -, heq⟩⟩
      · cases heq.symm.trans h
        obtain ⟨-, ⟨reason, hreason⟩ | ⟨-, hreason⟩ | ⟨flaw, -, hreason⟩⟩ :=
          perform_readJson_eq_error hread
        · cases hreason
        · cases hreason
          exact id
        · cases hreason
          exact id
      · cases heq.symm.trans h
        exact id
      · exact not_isEarly_of_writeFile (heq.symm.trans h)

theorem failsLate_runPlan (programs : Programs) (plan : Plan) :
    FailsLate (runPlan programs plan) := by
  intro s f t h
  rw [perform_runPlan, Plan.run] at h
  rcases runSteps_cases (operations programs) 0 plan.steps s with
    ⟨u, -, heq⟩ | ⟨done, step, rest, u, failure, v, -, -, hstep, heq⟩
  · rw [heq] at h
    cases h
  · rw [heq] at h
    cases failure with
    | scaffold e =>
        cases h
        exact id
    | fault g =>
        cases h
        exact not_isEarly_of_apply hstep

theorem failsLate_celebrate (elapsed : Decimal.Binary64) (p : Project) :
    FailsLate (celebrate elapsed p) :=
  FailsLate.bind (failsLate_ofExcept (fun _ => id) _) fun _ =>
    (failsLate_display _).bind fun _ => failsLate_displayAll _

theorem failsLate_construct (programs : Programs) (elapsed : Decimal.Binary64) (p : Project)
    (plan : Plan) (parent : Path) : FailsLate (construct programs elapsed p plan parent) :=
  (failsLate_prepare programs p parent).bind fun _ =>
    (failsLate_runPlan programs plan).bind fun _ => failsLate_celebrate elapsed p

/-! ## Runs that leave the world as it is -/

variable {settings : Settings} {p : Project} {elapsed : Decimal.Binary64}

/-- A project that is only shown, or is turned down before its base project is created, leaves the
world as it is. -/
theorem untouched_scaffold
    (h : settings.dryRun = true ∨
      ∃ f t, (scaffold programs settings elapsed p).perform s = (.error f, t) ∧ f.IsEarly) :
    Untouched s ((scaffold programs settings elapsed p).perform s).2 := by
  obtain ⟨t, hannounced, ⟨f, heq⟩ | ⟨plan, parent, -, -, ⟨-, heq⟩ | ⟨hreal, heq⟩⟩⟩ :=
    perform_scaffold_cases programs settings elapsed p s
  · rw [heq]
    exact hannounced.toUntouched
  · rw [heq, perform_preview]
    exact hannounced.toUntouched.trans ⟨rfl, rfl, rfl⟩
  · obtain ⟨f, u, hfailed, hearly⟩ := h.resolve_left (by simp [hreal])
    exact absurd hearly (failsLate_construct programs elapsed p plan parent t f u
      (heq.symm.trans hfailed))

theorem gathers_carryOut {start : Start} {i : Invocation}
    (h : settings.dryRun = true ∨
      ∃ f t, (carryOut start i settings).perform s = (.error f, t) ∧ f.IsEarly) :
    ((carryOut start i settings).perform s).2.cwd = s.cwd ∧
      ((carryOut start i settings).perform s).2.history = s.history ∧
      i.Saves s.cwd s.disk ((carryOut start i settings).perform s).2.disk := by
  obtain ⟨t, hgathered, ⟨f, heq⟩ | ⟨p, s₁, -, heq⟩⟩ := perform_carryOut_cases start i settings s
  · rw [heq]
    exact ⟨hgathered.cwd, hgathered.history, hgathered.disk⟩
  · rw [heq] at h ⊢
    have huntouched := untouched_scaffold h
    rw [huntouched.cwd, huntouched.history, huntouched.disk]
    exact ⟨hgathered.cwd, hgathered.history, hgathered.disk⟩

end Session

end ReactScaffold
