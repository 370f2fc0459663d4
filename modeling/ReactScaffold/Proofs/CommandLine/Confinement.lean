import ReactScaffold.Proofs.CommandLine.Early
import ReactScaffold.Proofs.Session.Confinement

/-!
# Runs stay inside their project

After the create command a run works inside the directory of the project.
`Start.run_stays_inside` says so, together with what makes it so: names of projects are single
components of paths, and the paths of plans lead downwards.
-/

namespace ReactScaffold

open ReactScaffold.Action Session Text

namespace Session

variable {programs : Programs} {settings : Settings} {p : Project} {plan : Plan} {s t : Session}

/-! ## Work in the directory of a project -/

/-- What is done in the directory of a project. -/
def settle (programs : Programs) (elapsed : Decimal.Binary64) (p : Project) (plan : Plan)
    (root : Path) : Action Session Unit := do
  remark .debug .run ("Working directory is now " ++ root.text)
  display (.status "Installing base dependencies...")
  installBase programs p
  display (.out "  [green]+[/green] Base project created")
  displayAll (headingEvents "Generate")
  runPlan programs plan
  celebrate elapsed p

theorem construct_eq (programs : Programs) (elapsed : Decimal.Binary64) (p : Project)
    (plan : Plan) (parent : Path) :
    construct programs elapsed p plan parent = (do
      requireNone (← makeDirectories parent)
      displayAll (headingEvents "Bootstrap")
      display (.status ("Creating " ++ Axis.value p.framework ++ " project..."))
      createBase programs p parent.text
      changeDirectory (p.rootIn parent)
      settle programs elapsed p plan (p.rootIn parent)) := by
  simp only [construct, prepare, createAndInstall, settle, bind_assoc]

theorem inside_celebrate (elapsed : Decimal.Binary64) (p : Project) :
    Leads (Inside programs) (celebrate elapsed p) :=
  Leads.bind (leads_ofExcept _ _) fun _ => (inside_display _).bind fun _ => inside_displayAll _

/-- What is done in the directory of a project is work inside it. -/
theorem inside_settle (elapsed : Decimal.Binary64) (root : Path)
    (hplan : Plan.compile p = .ok plan) :
    Leads (Inside programs) (settle programs elapsed p plan root) := by
  refine (inside_remark _ _ _).bind fun _ => (inside_display _).bind fun _ => ?_
  refine Leads.bind ((inside_remark _ _ _).bind fun _ => inside_runCommand _) fun _ => ?_
  refine (inside_display _).bind fun _ => (inside_displayAll _).bind fun _ => ?_
  refine Leads.bind (inside_runPlan fun step hstep path => ?_) fun _ => inside_celebrate elapsed p
  exact Plan.plain_of_compile hplan hstep

/-! ## The create command -/

/-- The session after a command has been started in the given directory, on the given disk. -/
def afterStart (programs : Programs) (s : Session) (made : Disk) (command : List String)
    (directory : String) : Session :=
  { s.addLaunch ⟨command, some directory⟩ with
    disk := programs.leaves (s.processPlace (some directory)) made command }

theorem perform_launch_there (programs : Programs) (command : List String) {directory : String}
    (hdirectory : directory ≠ "") (s : Session) :
    (launch programs command (some directory)).perform s =
      (.ok (programs command), afterStart programs s s.disk command directory) := by
  have hlaunch : launchDirectory (some directory) = some directory := by
    simp [launchDirectory, Option.filter, hdirectory]
  unfold launch afterStart Programs.leaves
  rw [hlaunch]
  cases programs command with
  | refused e missing => rfl
  | started f => rfl

/-- The create command is started, and nothing is done beside. -/
theorem perform_createBase_cases (programs : Programs) (p : Project) {directory : String}
    (hdirectory : directory ≠ "") (s : Session) :
    ∃ t, Untouched (afterStart programs s s.disk p.createCommand directory) t ∧
      ((createBase programs p directory).perform s = (.ok (), t) ∨
        ∃ f, (createBase programs p directory).perform s = (.error f, t)) := by
  obtain ⟨remarks, hremarked⟩ : ∃ remarks, (createBase programs p directory).perform s =
      ((launch programs p.createCommand (some directory) >>= judge p.createCommand) >>=
        fun _ => pure ()).perform { s with remarks } := ⟨_, rfl⟩
  refine ⟨afterStart programs { s with remarks } s.disk p.createCommand directory,
    ⟨rfl, rfl, rfl⟩, ?_⟩
  rw [hremarked, perform_bind, perform_bind, perform_launch_there programs _ hdirectory]
  dsimp only
  rcases perform_judge_cases p.createCommand (programs p.createCommand) (afterStart programs
    { s with remarks } s.disk p.createCommand directory) with ⟨ended, heq⟩ | ⟨e, heq, -⟩
  · rw [heq]
    exact .inl rfl
  · rw [heq]
    exact .inr ⟨_, rfl⟩

/-- A change of the working directory fails, or is a move to the directory that the path leads
to. -/
theorem perform_changeDirectory_cases (path : Path) (s : Session) :
    (∃ f, (changeDirectory path).perform s = (.error f, s)) ∨
      s.disk.get? (path.resolve s.cwd).parts = some .directory ∧
        (changeDirectory path).perform s = (.ok (), s.moveTo (path.resolve s.cwd).parts) := by
  rw [changeDirectory, perform_bind]
  by_cases hpath : Admissible path
  · rw [perform_requirePath_of_admissible hpath]
    dsimp only
    rw [perform_bind, perform_get]
    dsimp only
    cases hwalk : s.disk.walk s.cwd path with
    | error r => exact .inl ⟨_, rfl⟩
    | ok place =>
        obtain rfl := Disk.walk_eq_resolve hwalk
        dsimp only
        split
        · exact .inr ⟨‹_›, rfl⟩
        · exact .inl ⟨_, rfl⟩
        · exact .inl ⟨_, rfl⟩
  · rw [perform_requirePath_of_not_admissible hpath]
    exact .inl ⟨_, rfl⟩

/-! ## Building a project -/

/-- What is done from the create command on, which is started on the given disk: nothing beside it,
or work inside the directory of the project. -/
def Builds (programs : Programs) (p : Project) (parent : Path) (s : Session) (made : Disk)
    (t : Session) : Prop :=
  Untouched (afterStart programs s made p.createCommand parent.text) t ∨
    WorksInside programs ((afterStart programs s made p.createCommand parent.text).moveTo
      ((parent.resolve s.cwd).parts ++ [p.name.text])) t

theorem Untouched.moveTo (h : Untouched s t) (place : Place) :
    Untouched (s.moveTo place) (t.moveTo place) where
  disk := h.disk
  cwd := rfl
  history := congrArg (· ++ _) h.history

theorem untouched_afterStart (hcwd : t.cwd = s.cwd) (hhistory : t.history = s.history)
    (made : Disk) (command : List String) (directory : String) :
    Untouched (afterStart programs s made command directory)
      (afterStart programs t made command directory) where
  disk := by
    show programs.leaves ((Path.ofText directory).resolve t.cwd).parts made command =
      programs.leaves ((Path.ofText directory).resolve s.cwd).parts made command
    rw [hcwd]
  cwd := hcwd
  history := congrArg (· ++ _) hhistory

/-- Sessions in the same place and with the same history are built from alike. -/
theorem Builds.of_eq {parent : Path} {made : Disk} {u : Session}
    (h : Builds programs p parent t made u) (hcwd : t.cwd = s.cwd)
    (hhistory : t.history = s.history) : Builds programs p parent s made u := by
  have hstarted : Untouched (afterStart programs s made p.createCommand parent.text)
      (afterStart programs t made p.createCommand parent.text) :=
    untouched_afterStart hcwd hhistory made p.createCommand parent.text
  unfold Builds at h
  rw [hcwd] at h
  exact h.imp hstarted.trans (hstarted.moveTo _).worksInside.trans

theorem builds_createBase {parent : Path} (elapsed : Decimal.Binary64)
    (hplan : Plan.compile p = .ok plan) (hparent : parent.text ≠ "") {made : Disk}
    (hmade : s.disk = made) :
    Builds programs p parent s made ((do
      createBase programs p parent.text
      changeDirectory (p.rootIn parent)
      settle programs elapsed p plan (p.rootIn parent)).perform s).2 := by
  subst hmade
  obtain ⟨t, hcreated, heq | ⟨f, heq⟩⟩ := perform_createBase_cases programs p hparent s
  · rw [perform_bind, heq]
    dsimp only
    rw [perform_bind]
    rcases perform_changeDirectory_cases (p.rootIn parent) t with ⟨f, hmove⟩ | ⟨hhere, hmove⟩
    · rw [hmove]
      exact .inl hcreated
    · have hroot : ((p.rootIn parent).resolve t.cwd).parts =
          (parent.resolve s.cwd).parts ++ [p.name.text] := by
        rw [hcreated.cwd]
        exact Path.resolve_join_name parent p.name s.cwd
      rw [hmove]
      rw [hroot] at hhere ⊢
      exact .inr ((hcreated.moveTo _).worksInside.trans (inside_settle elapsed _ hplan _ hhere))
  · rw [perform_bind, heq]
    exact .inl hcreated

/-- A project is built when its directory can be made. -/
theorem builds_construct {parent : Path} (elapsed : Decimal.Binary64)
    (hplan : Plan.compile p = .ok plan) (hparent : parent.text ≠ "") (s : Session) :
    let t := ((construct programs elapsed p plan parent).perform s).2
    t.history = s.history ∨
      ∃ made, Disk.Fills s.disk made (parent.placesOnWay s.cwd) ∧
        Builds programs p parent s made t := by
  dsimp only
  rw [construct_eq, perform_bind]
  by_cases hadmissible : Admissible parent
  · have hfills := s.disk.fills_ensureDirectory s.cwd parent
    rw [perform_makeDirectories_of_admissible hadmissible]
    cases (s.disk.ensureDirectory s.cwd parent).2 with
    | some e => exact .inl rfl
    | none =>
        dsimp only
        refine .inr ⟨_, hfills, ?_⟩
        rw [requireNone, perform_bind, perform_pure]
        dsimp only
        rw [perform_bind, perform_displayAll]
        dsimp only
        rw [perform_bind, display, perform_modify]
        dsimp only
        refine (builds_createBase elapsed hplan hparent ?_).of_eq ?_ ?_
        all_goals rfl
  · rw [makeDirectories, perform_bind, perform_requirePath_of_not_admissible hadmissible]
    exact .inl rfl

/-- A project that is scaffolded is built, unless no process is started. -/
theorem builds_scaffold (elapsed : Decimal.Binary64)
    (hparent : ∀ parent, settings.outputDir = .path parent → parent.text ≠ "") (s : Session) :
    let t := ((scaffold programs settings elapsed p).perform s).2
    t.history = s.history ∨
      ∃ parent made, settings.outputDir = .path parent ∧
        Disk.Fills s.disk made (parent.placesOnWay s.cwd) ∧ Builds programs p parent s made t := by
  obtain ⟨u, hannounced, hends⟩ := perform_scaffold_cases programs settings elapsed p s
  dsimp only
  rcases hends with ⟨f, heq⟩ | ⟨plan, parent, hplan, hdirectory, ⟨-, heq⟩ | ⟨-, heq⟩⟩
  · rw [heq]
    exact .inl hannounced.history
  · rw [heq, perform_preview]
    exact .inl hannounced.history
  · rw [heq]
    rcases builds_construct elapsed hplan (hparent parent hdirectory) u with
      hidle | ⟨made, hfills, hbuilds⟩
    · exact .inl (hidle.trans hannounced.history)
    · rw [hannounced.disk, hannounced.cwd] at hfills
      exact .inr ⟨parent, made, hdirectory, hfills,
        hbuilds.of_eq hannounced.cwd hannounced.history⟩

theorem Builds.trans_untouched {parent : Path} {made : Disk} {u : Session}
    (h : Builds programs p parent s made t) (h' : Untouched t u) :
    Builds programs p parent s made u :=
  h.imp (fun h => h.trans h') fun h => h.trans h'.worksInside

end Session

/-! ## Whole runs -/

/-- What a run has done to the world: it has started no process, or the project that the answers
make up was saved where that was asked for, the directory for projects was made, the create command
was started there, and from then on nothing was done but work inside the directory of the
project. -/
inductive Start.StaysInside (start : Start) (s t : Session) : Prop where
  | idle (history : t.history = s.history)
  | built {i : Invocation} {settings : Settings} {p : Project} {parent : Path} {s₁ : Session}
      {saved made : Disk} (parsed : Invocation.parse start.arguments = .ok i)
      (resolved : i.resolveSettings start.environment = .ok settings)
      (project : (resolveProject i settings).perform s = (.ok p, s₁))
      (output : settings.outputDir = .path parent) (saves : i.Saves s.cwd s.disk saved)
      (fills : Disk.Fills saved made (parent.placesOnWay s.cwd))
      (builds : Builds start.programs p parent s made t)

theorem Start.staysInside_carryOut {start : Start} {i : Invocation} {settings : Settings}
    (hparse : Invocation.parse start.arguments = .ok i)
    (hsettings : i.resolveSettings start.environment = .ok settings) (s : Session) :
    start.StaysInside s ((carryOut start i settings).perform s).2 := by
  obtain ⟨u, hgathered, ⟨f, heq⟩ | ⟨p, s₁, hproject, heq⟩⟩ :=
    perform_carryOut_cases start i settings s
  · rw [heq]
    exact .idle hgathered.history
  · rw [heq]
    rcases builds_scaffold start.elapsed
        (fun parent => text_outputDir_ne_empty hparse hsettings) u with
      hidle | ⟨parent, made, hdirectory, hfills, hbuilds⟩
    · exact .idle (hidle.trans hgathered.history)
    · rw [hgathered.cwd] at hfills
      exact .built hparse hsettings hproject hdirectory hgathered.disk hfills
        (hbuilds.of_eq hgathered.cwd hgathered.history)

/-- Every run stays inside its project. -/
theorem Start.staysInside_run (start : Start) (s : Session) :
    start.StaysInside s (start.run s).session := by
  cases hparse : Invocation.parse start.arguments with
  | error stop => exact .idle (by rw [session_run_of_misuse hparse])
  | ok i =>
      cases hsettings : i.resolveSettings start.environment with
      | error e => exact .idle (by rw [session_run_of_unknownChoice hparse hsettings])
      | ok settings =>
          obtain ⟨⟨shown, hshown⟩, -⟩ := conclude_eq start i settings s
          rw [run_eq_conclude hparse hsettings]
          dsimp only
          rw [hshown]
          cases staysInside_carryOut hparse hsettings s with
          | idle hhistory => exact .idle hhistory
          | built hparse hsettings hproject houtput hsaves hfills hbuilds =>
              exact .built hparse hsettings hproject houtput hsaves hfills
                (hbuilds.trans_untouched ⟨rfl, rfl, rfl⟩)

/-- Whichever way a project is made up, its name is checked, so that the project is put at a child
of the directory for projects; the paths of its plan are relative and do not lead upwards. Hence, in
every run, all that the tool itself changes after the create command is inside the directory of the
project. -/
theorem Start.run_stays_inside (start : Start) (s : Session) :
    Project.NamesAreChecked ∧
      (∀ (p : Project) (parent : Path) (cwd : Place),
        p.rootIn parent = ⟨parent.anchor, parent.parts ++ [p.name.text]⟩ ∧
          ((p.rootIn parent).resolve cwd).parts = (parent.resolve cwd).parts ++ [p.name.text]) ∧
      (∀ p plan, Plan.compile p = .ok plan → ∀ step ∈ plan.steps, ∀ path,
        step.path? = some path → Path.IsInner path) ∧
      start.StaysInside s (start.run s).session := by
  refine ⟨Project.namesAreChecked, fun p parent cwd => ⟨?_, ?_⟩, ?_, start.staysInside_run s⟩
  · exact Path.join_name parent p.name
  · exact Path.resolve_join_name parent p.name cwd
  · intro p plan hplan step hstep path hpath
    exact Path.Plain.isInner (Plan.plain_of_compile hplan hstep hpath)

/-- The start of a run on a machine where the base project is made but cannot be installed. -/
def stuckStart : Start where
  arguments := sampleStart.arguments
  programs command := .started
    (if command = sampleProject.createCommand then { created := [("demo", none)] }
      else { code := some 1 })

/-- A run with the default answers on an empty disk, where the base project is made but cannot be
installed: it ends in the directory of the project. -/
theorem Start.run_stays_inside_sample :
    sampleProject.IsNamed "demo" ∧ sampleProject.rootIn ⟨.here, []⟩ = ⟨.here, ["demo"]⟩ ∧
      Path.IsInner manifestPath ∧
      ∃ made, WorksInside stuckStart.programs ((afterStart stuckStart.programs {} made
        sampleProject.createCommand ".").moveTo ["demo"]) (stuckStart.run {}).session := by
  have hparse : Invocation.parse stuckStart.arguments = .ok sampleInvocation := by cbv
  have hsettings : sampleInvocation.resolveSettings stuckStart.environment = .ok {} := by cbv
  have hproject : ((resolveProject sampleInvocation {}).perform {}).1 = .ok sampleProject := rfl
  have hhistory : (stuckStart.run {}).session.history.length = 3 := by decide +kernel
  obtain ⟨files, hplan, -⟩ := Plan.exists_compile (p := sampleProject) rfl
  obtain ⟨hnames, hroot, hpaths, hinside⟩ := Start.run_stays_inside stuckStart {}
  refine ⟨hnames.normalized sampleProject, (hroot sampleProject ⟨.here, []⟩ []).1,
    hpaths _ _ hplan (.mergeManifestScripts sampleProject.scripts manifestPath)
      (Project.mergeManifestScripts_mem_stepsWith.2 ⟨rfl, rfl⟩) _ rfl, ?_⟩
  cases hinside with
  | idle hidle =>
      rw [hidle] at hhistory
      cases hhistory
  | @built i settings p parent s₁ saved made parsed resolved project output saves fills builds =>
      obtain rfl := Except.ok.inj (hparse.symm.trans parsed)
      obtain rfl := Except.ok.inj (hsettings.symm.trans resolved)
      obtain rfl := PathArgument.path.inj output
      obtain rfl := Except.ok.inj (hproject.symm.trans (congrArg Prod.fst project))
      rcases builds with hbegun | hworks
      · rw [hbegun.history] at hhistory
        cases hhistory
      · exact ⟨made, hworks⟩

end ReactScaffold
