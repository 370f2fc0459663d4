import ReactScaffold.Proofs.CommandLine.Directory
import ReactScaffold.Proofs.Execution.Timeline
import ReactScaffold.Proofs.Host.Disk

/-!
# The order of processes in a run

A run creates the base project, moves into it, installs its dependencies and starts the commands of
the plan, in this order, and stops at the first of these that fails. `Start.run_follows_timeline`
says so of every run in which the answers make up a project.
-/

namespace ReactScaffold

open ReactScaffold.Action

/-- Everything that happens in a run that scaffolds a project and does not fail. -/
def Project.timeline (p : Project) (settings : Settings) (cwd : Place) : List Happening :=
  match settings.outputDir, Plan.compile p with
  | .path parent, .ok plan =>
    [.started ⟨p.createCommand, some parent.text⟩,
      .moved ((parent.join (Path.ofText p.name.text)).resolve cwd).parts,
      .started ⟨p.installCommand, none⟩] ++
    startsHere (plan.steps.flatMap Step.commands)
  | _, _ => []

namespace Session

variable {programs : Programs} {cwd : Place}

theorem follows_resolvePath (p : Path) : Follows programs cwd (resolvePath p) [] :=
  (follows_requirePath p).after fun _ => follows_get fun _ => follows_pure _

theorem follows_requireNone (e : Option OsError) : Follows programs cwd (requireNone e) [] := by
  cases e with
  | none => exact follows_pure ()
  | some e => exact follows_throw _

theorem follows_requireVacant (p : Path) : Follows programs cwd (requireVacant p) [] := by
  refine follows_get fun x => follows_get fun y => ?_
  split
  · exact follows_throw _
  · exact follows_pure ()
  · exact follows_throw _

/-- A change of the working directory is a move to where the path leads. -/
theorem follows_changeDirectory (p : Path) :
    Follows programs cwd (changeDirectory p) [.moved (p.resolve cwd).parts] := by
  refine (follows_requirePath p).after fun _ => ?_
  rintro s rfl
  have hstay (f : Failure) : ∃ h, s.history = s.history ++ h ∧
      h <+: [Happening.moved (p.resolve s.cwd).parts] ∧ InOrder programs h ∧
      s.cwd = placeAfter s.cwd h ∧
      ∀ x, (.error f : Except Failure Unit) = .ok x →
        h = [.moved (p.resolve s.cwd).parts] ∧ AllSucceed programs h :=
    ⟨[], (List.append_nil _).symm, List.nil_prefix, .nil, rfl, fun x hx => by cases hx⟩
  rw [perform_bind, perform_get]
  dsimp only
  cases hwalk : s.disk.walk s.cwd p with
  | error r => exact hstay _
  | ok place =>
      obtain rfl := Disk.walk_eq_resolve hwalk
      cases hnode : s.disk.get? (p.resolve s.cwd).parts with
      | none =>
          simp only [hnode]
          exact hstay _
      | some node =>
          cases node with
          | file content =>
              simp only [hnode]
              exact hstay _
          | directory =>
              simp only [hnode]
              refine ⟨[.moved (p.resolve s.cwd).parts], rfl, List.prefix_rfl, inOrder_singleton _,
                rfl, fun x _ => ⟨rfl, fun l hl => ?_⟩⟩
              cases List.mem_singleton.1 hl

theorem follows_createBase (p : Project) {parent : String} (hparent : parent ≠ "") :
    Follows programs cwd (createBase programs p parent)
      [.started ⟨p.createCommand, some parent⟩] := by
  have hdirectory : launchDirectory (some parent) = some parent := by
    simp [launchDirectory, Option.filter, hparent]
  have hcreate : Follows programs cwd (runProcess programs p.createCommand (some parent))
      [.started ⟨p.createCommand, some parent⟩] := by
    have h : Follows programs cwd _ _ := follows_runProcess p.createCommand (some parent)
    rwa [hdirectory] at h
  exact (follows_remark _ _ _).after fun _ => hcreate.before fun _ => follows_pure ()

theorem follows_installBase (p : Project) :
    Follows programs cwd (installBase programs p) [.started ⟨p.installCommand, none⟩] :=
  (follows_remark _ _ _).after fun _ =>
    (follows_runProcess _ none).before fun _ => follows_pure ()

/-- The base project is created, moved into and installed. -/
theorem follows_createAndInstall (p : Project) {parent : Path} (hparent : parent.text ≠ "")
    (root : Path) :
    Follows programs cwd (createAndInstall programs p parent root)
      [.started ⟨p.createCommand, some parent.text⟩, .moved (root.resolve cwd).parts,
        .started ⟨p.installCommand, none⟩] := by
  refine (follows_displayAll _).after fun _ => (follows_display _).after fun _ => ?_
  refine Follows.bind (follows_createBase p hparent) fun _ => ?_
  refine Follows.bind (follows_changeDirectory root) fun _ => ?_
  refine (follows_remark _ _ _).after fun _ => (follows_display _).after fun _ => ?_
  exact (follows_installBase p).before fun _ => follows_display _

theorem follows_compile (p : Project) : Follows programs cwd (compile p) [] :=
  (follows_ofExcept _ _).after fun _ => (follows_remark _ _ _).after fun _ => follows_pure _

theorem compile_eq_ok {p : Project} {plan : Plan} {s : Session}
    (h : ((compile p).perform s).1 = .ok plan) : Plan.compile p = .ok plan := by
  unfold compile at h
  cases hcompile : Plan.compile p with
  | error e =>
      rw [hcompile] at h
      cases h
  | ok found =>
      rw [hcompile] at h
      obtain rfl := Except.ok.inj h
      rfl

/-- A dry run starts nothing. -/
theorem follows_scaffold_of_dryRun (p : Project) {settings : Settings}
    (elapsed : Decimal.Binary64) (hdry : settings.dryRun = true) :
    Follows programs cwd (scaffold programs settings elapsed p) [] := by
  refine (follows_compile p).after fun plan => ?_
  cases settings.outputDir with
  | dashes => exact follows_throw _
  | path parent =>
      refine (follows_resolvePath _).after fun place => (follows_display _).after fun _ => ?_
      rw [if_pos hdry]
      exact (follows_displayAll _).after fun _ => follows_display _

/-- Otherwise a project is scaffolded along its timeline. -/
theorem follows_scaffold (p : Project) {settings : Settings} (elapsed : Decimal.Binary64)
    (hdry : settings.dryRun = false)
    (htext : ∀ parent, settings.outputDir = .path parent → parent.text ≠ "") :
    Follows programs cwd (scaffold programs settings elapsed p) (p.timeline settings cwd) := by
  rw [← List.nil_append (p.timeline settings cwd)]
  refine (follows_compile p).bind_of_yield fun plan s hplan => ?_
  unfold Project.timeline
  rw [compile_eq_ok hplan]
  cases hdirectory : settings.outputDir with
  | dashes => exact follows_throw _
  | path parent =>
      refine (follows_resolvePath _).after fun place => (follows_display _).after fun _ => ?_
      rw [if_neg (by simp [hdry])]
      refine (follows_requireVacant _).after fun _ => ?_
      refine (follows_makeDirectories _).after fun e => (follows_requireNone e).after fun _ => ?_
      refine Follows.bind (follows_createAndInstall p (htext parent hdirectory) _) fun _ => ?_
      refine (follows_displayAll _).after fun _ => Follows.before (follows_runPlan plan) fun _ => ?_
      refine (follows_ofExcept _ _).after fun duration => (follows_display _).after fun _ => ?_
      exact follows_displayAll _

/-! ## The answers -/

theorem follows_ask {α : Type} (q : Question α) : Follows programs cwd q.ask [] :=
  (follows_modifyGet fun _ => ⟨rfl, rfl⟩).after fun _ => follows_ofExcept _ _

theorem follows_choose {α : Type} [Axis α] (c : Collector) (answers : Answers)
    (name text : String) (default : α) :
    Follows programs cwd (c.choose answers name text default) [] := by
  unfold Collector.choose
  split
  · exact follows_ofExcept _ _
  · split_ifs
    · exact follows_ask _
    · exact follows_pure _

theorem follows_chooseGated {α : Type} [Axis α] (c : Collector) (answers : Answers) (applies : Bool)
    (name text : String) (default : α) :
    Follows programs cwd (c.chooseGated answers applies name text default) [] := by
  unfold Collector.chooseGated
  split_ifs
  · exact (follows_choose c answers name text default).map _
  · split
    · exact (follows_ofExcept _ _).map _
    · exact follows_pure _

theorem follows_confirm (c : Collector) (answers : Answers) (name text : String) :
    Follows programs cwd (c.confirm answers name text) [] := by
  unfold Collector.confirm
  split
  · exact follows_pure _
  · split_ifs
    · exact follows_ask _
    · exact follows_pure _

theorem follows_projectName (c : Collector) (answers : Answers) :
    Follows programs cwd (c.projectName answers) [] := by
  unfold Collector.projectName
  split
  · exact follows_pure _
  · split_ifs
    · exact (follows_ask _).map _
    · exact follows_throw _

theorem follows_collect (c : Collector) (answers : Answers) :
    Follows programs cwd (c.collect answers) [] := by
  refine (follows_projectName c answers).after fun name => ?_
  refine (follows_choose c answers _ _ _).after fun framework => ?_
  refine (follows_chooseGated c answers _ _ _ _).after fun router => ?_
  refine (follows_choose c answers _ _ _).after fun language => ?_
  refine (follows_choose c answers _ _ _).after fun packageManager => ?_
  refine (follows_choose c answers _ _ _).after fun styling => ?_
  refine (follows_chooseGated c answers _ _ _ _).after fun tailwindVersion => ?_
  refine (follows_choose c answers _ _ _).after fun stateManagement => ?_
  refine (follows_choose c answers _ _ _).after fun icons => ?_
  refine (follows_confirm c answers _ _).after fun codeQuality => ?_
  refine (follows_confirm c answers _ _).after fun testing => ?_
  refine (follows_confirm c answers _ _).after fun apiClient => ?_
  refine (follows_ofExcept _ _).after fun name => (follows_remark _ _ _).after fun _ => ?_
  exact follows_pure _

theorem follows_loadProject (path : Path) : Follows programs cwd (loadProject path) [] := by
  refine (follows_readOctets path).after fun octets => ?_
  cases octets with
  | error e => exact follows_throw _
  | ok octets => exact follows_ofExcept _ _

theorem follows_renameProject (p : Project) (answers : Answers) :
    Follows programs cwd (renameProject p answers) [] := by
  unfold renameProject
  split
  · split_ifs
    · exact follows_pure _
    · exact follows_ofExcept _ _
  · exact follows_pure _

theorem follows_requireGiven (a : PathArgument) : Follows programs cwd (requireGiven a) [] := by
  cases a with
  | path p => exact follows_pure _
  | dashes => exact follows_throw _

/-- Nothing happens while the project is made up. -/
theorem follows_resolveProject (i : Invocation) (settings : Settings) :
    Follows programs cwd (resolveProject i settings) [] := by
  unfold resolveProject
  split
  · refine (follows_requireGiven _).after fun path => (follows_loadProject path).after fun p => ?_
    exact follows_renameProject p i.answers
  · exact follows_collect _ _

theorem follows_saveProject (p : Project) (path : Path) :
    Follows programs cwd (saveProject p path) [] := by
  refine (follows_makeDirectories _).after fun e => (follows_requireNone e).after fun _ => ?_
  refine (follows_writeOctets path _).after fun e => (follows_requireNone e).after fun _ => ?_
  exact follows_remark _ _ _

/-! ## The end of a run -/

theorem perform_displayAll (es : List Event) (s : Session) :
    (displayAll es).perform s = (.ok (), { s with shown := s.shown ++ es }) := by
  induction es generalizing s with
  | nil =>
      rw [List.append_nil]
      rfl
  | cons e es ih =>
      show (display e >>= fun _ => displayAll es).perform s = _
      rw [perform_bind]
      show (displayAll es).perform (s.addEvent e) = _
      rw [ih]
      simp [Session.addEvent]

theorem perform_ofExcept_eq_ok {ε α : Type} {f : ε → Failure} {x : Except ε α} {a : α}
    {s s' : Session} (h : (Action.ofExcept f x).perform s = (.ok a, s')) : s' = s := by
  rw [perform_ofExcept] at h
  exact (Prod.mk.inj h).2.symm

/-- When a project has been scaffolded, its plan was run to the end in the project's directory, and
the disk is as the plan has left it. -/
theorem exists_run_of_scaffold {p : Project} {settings : Settings} {elapsed : Decimal.Binary64}
    {s s' : Session} (hdry : settings.dryRun = false)
    (h : (scaffold programs settings elapsed p).perform s = (.ok (), s')) :
    ∃ parent plan middle, settings.outputDir = .path parent ∧ Plan.compile p = .ok plan ∧
      (plan.run (operations programs) middle).outcome =
        .ok (reportsFrom [.succeeded] 0 plan.steps) ∧
      middle.cwd = s'.cwd ∧ s'.disk = (plan.run (operations programs) middle).state.disk := by
  unfold scaffold at h
  obtain ⟨plan, s₁, hcompile, h⟩ := exists_of_perform_bind h
  have hplan := compile_eq_ok (congrArg Prod.fst hcompile)
  cases hdirectory : settings.outputDir with
  | dashes =>
      rw [hdirectory] at h
      cases h
  | path parent =>
      rw [hdirectory] at h
      obtain ⟨place, s₂, -, h⟩ := exists_of_perform_bind h
      obtain ⟨_, s₃, -, h⟩ := exists_of_perform_bind h
      rw [if_neg (by simp [hdry])] at h
      obtain ⟨_, s₄, -, h⟩ := exists_of_perform_bind h
      obtain ⟨e, s₅, -, h⟩ := exists_of_perform_bind h
      obtain ⟨_, s₆, -, h⟩ := exists_of_perform_bind h
      obtain ⟨_, s₇, -, h⟩ := exists_of_perform_bind h
      obtain ⟨_, middle, -, h⟩ := exists_of_perform_bind h
      obtain ⟨_, after, hrun, h⟩ := exists_of_perform_bind h
      obtain ⟨duration, s₈, hduration, hshown⟩ := exists_of_perform_bind h
      obtain ⟨_, s₉, hsuccess, hadvice⟩ := exists_of_perform_bind hshown
      rw [perform_displayAll] at hadvice
      obtain rfl := (Prod.mk.inj hadvice).2
      obtain rfl := (Prod.mk.inj hsuccess).2
      obtain rfl := perform_ofExcept_eq_ok hduration
      refine ⟨parent, plan, middle, rfl, hplan, ?_⟩
      rw [perform_runPlan] at hrun
      cases houtcome : (plan.run (operations programs) middle).outcome with
      | error failure =>
          rw [houtcome] at hrun
          cases hrun
      | ok reports =>
          rw [houtcome] at hrun
          obtain rfl := (Prod.mk.inj hrun).2
          obtain ⟨-, -, hreports⟩ := runSteps_applyAll programs 0 plan.steps middle
          obtain ⟨-, rfl⟩ := hreports reports houtcome
          exact ⟨rfl, (runSteps_cwd 0 plan.steps middle).symm, rfl⟩

/-- What is done with a project once it is made up. -/
def proceed (start : Start) (i : Invocation) (settings : Settings) (p : Project) :
    Action Session Unit := do
  if let some given := i.saveTo then saveProject p (← requireGiven given)
  scaffold start.programs settings start.elapsed p

theorem carryOut_eq (start : Start) (i : Invocation) (settings : Settings) :
    carryOut start i settings = resolveProject i settings >>= proceed start i settings := rfl

theorem follows_proceed {start : Start} {i : Invocation} {settings : Settings} {p : Project}
    {t : List Happening}
    (h : Follows start.programs cwd (scaffold start.programs settings start.elapsed p) t) :
    Follows start.programs cwd (proceed start i settings p) t := by
  unfold proceed
  cases i.saveTo with
  | none => exact h
  | some given =>
      refine (follows_requireGiven given).after fun path => ?_
      exact (follows_saveProject p path).after fun _ => h

theorem exists_scaffold_of_proceed {start : Start} {i : Invocation} {settings : Settings}
    {p : Project} {s s' : Session} (h : (proceed start i settings p).perform s = (.ok (), s')) :
    ∃ middle, (scaffold start.programs settings start.elapsed p).perform middle = (.ok (), s') := by
  unfold proceed at h
  cases hsave : i.saveTo with
  | none =>
      rw [hsave] at h
      exact ⟨s, h⟩
  | some given =>
      rw [hsave] at h
      obtain ⟨path, s₁, -, hsaved⟩ := exists_of_perform_bind h
      obtain ⟨_, s₂, -, hscaffold⟩ := exists_of_perform_bind hsaved
      exact ⟨s₂, hscaffold⟩

/-- Only a failure keeps a run from finishing, and what the end of a run shows changes nothing
else. -/
theorem conclude_eq (start : Start) (i : Invocation) (settings : Settings) (s : Session) :
    (∃ shown, (conclude start i settings s).2 =
      { ((carryOut start i settings).perform s).2 with shown }) ∧
    ((conclude start i settings s).1 = .finished →
      ((carryOut start i settings).perform s).1 = .ok ()) := by
  unfold conclude
  cases (carryOut start i settings).perform s with
  | mk result after =>
      cases result with
      | ok x => exact ⟨⟨after.shown, rfl⟩, fun _ => rfl⟩
      | error f =>
          refine ⟨⟨_, rfl⟩, fun h => ?_⟩
          have hfinished : (failureEnding f).2 = .finished := h
          unfold failureEnding at hfinished
          split at hfinished
          all_goals cases hfinished

end Session

/-- A run keeps to the timeline of a project. What happens in it is a beginning of the timeline,
with nothing after a command that does not succeed. A run that is no dry run finishes only when the
whole timeline has happened, each command has succeeded, each step of the plan has succeeded and the
working directory is that of the project. -/
structure KeepsToTimeline (start : Start) (settings : Settings) (p : Project) (s : Session)
    (r : Result) (h : List Happening) : Prop where
  history : r.session.history = s.history ++ h
  beginning : h <+: p.timeline settings s.cwd
  order (before : List Happening) (l : Launch) (after : List Happening)
    (split : h = before ++ .started l :: after) (more : after ≠ []) :
    start.programs.Succeeds l.command
  place : r.session.cwd = placeAfter s.cwd h
  whole (finished : r.ending = .finished) (real : settings.dryRun = false) :
    h = p.timeline settings s.cwd ∧ ∀ l, .started l ∈ h → start.programs.Succeeds l.command
  plan (finished : r.ending = .finished) (real : settings.dryRun = false) :
    ∃ parent plan middle, settings.outputDir = .path parent ∧ Plan.compile p = .ok plan ∧
      r.session.cwd = ((parent.join (Path.ofText p.name.text)).resolve s.cwd).parts ∧
      middle.cwd = r.session.cwd ∧
      (plan.run (Session.operations start.programs) middle).outcome =
        .ok (reportsFrom [.succeeded] 0 plan.steps) ∧
      r.session.disk = (plan.run (Session.operations start.programs) middle).state.disk

/-- A run whose command line is not understood does nothing. -/
theorem Start.session_run_of_misuse {start : Start} {stop : Stop}
    (hparse : Invocation.parse start.arguments = .error stop) (s : Session) :
    (start.run s).session = s := by
  unfold Start.run
  rw [hparse]
  cases stop with
  | help => rfl
  | misuse e => rfl

/-- A run whose settings are rejected does nothing. -/
theorem Start.session_run_of_unknownChoice {start : Start} {i : Invocation} {e : UnknownChoice}
    (hparse : Invocation.parse start.arguments = .ok i)
    (hsettings : i.resolveSettings start.environment = .error e) (s : Session) :
    (start.run s).session = s := by
  unfold Start.run
  rw [hparse]
  dsimp only
  rw [hsettings]

/-- A run whose command line is understood does what it asks for. -/
theorem Start.run_eq_conclude {start : Start} {i : Invocation} {settings : Settings}
    (hparse : Invocation.parse start.arguments = .ok i)
    (hsettings : i.resolveSettings start.environment = .ok settings) (s : Session) :
    start.run s = ⟨(Session.conclude start i settings s).1, (Session.conclude start i settings s).2,
      settings.verbose⟩ := by
  unfold Start.run
  rw [hparse]
  dsimp only
  rw [hsettings]

/-- A run in which the answers make up a project goes on with the project, and nothing has happened
before. -/
theorem Start.run_proceeds (start : Start) (s : Session) {i : Invocation} {settings : Settings}
    {p : Project} {s₁ : Session}
    (hparse : Invocation.parse start.arguments = .ok i)
    (hsettings : i.resolveSettings start.environment = .ok settings)
    (hproject : (Session.resolveProject i settings).perform s = (.ok p, s₁)) :
    s₁.history = s.history ∧ s₁.cwd = s.cwd ∧
      (∃ shown, (start.run s).session =
        { ((Session.proceed start i settings p).perform s₁).2 with shown }) ∧
      ((start.run s).ending = .finished →
        ((Session.proceed start i settings p).perform s₁).1 = .ok ()) := by
  have hquiet : Follows start.programs s.cwd (Session.resolveProject i settings) [] :=
    Session.follows_resolveProject i settings
  obtain ⟨none, hhistory, hnone, -, hcwd, -⟩ := hquiet s rfl
  obtain rfl := List.prefix_nil.1 hnone
  rw [hproject, List.append_nil] at hhistory
  rw [hproject] at hcwd
  have hcarry : (Session.carryOut start i settings).perform s =
      (Session.proceed start i settings p).perform s₁ := by
    rw [Session.carryOut_eq, perform_bind, hproject]
  have hconclude := Session.conclude_eq start i settings s
  rw [hcarry] at hconclude
  rw [run_eq_conclude hparse hsettings]
  exact ⟨hhistory, hcwd, hconclude⟩

/-- In every run in which the answers make up a project, what happens is the creation of the base
project in the output directory, the move into the project's directory, the installation of the
base dependencies and the commands of the plan, in this order and up to the first failure. -/
theorem Start.run_follows_timeline (start : Start) (s : Session) {i : Invocation}
    {settings : Settings} {p : Project} {s₁ : Session}
    (hparse : Invocation.parse start.arguments = .ok i)
    (hsettings : i.resolveSettings start.environment = .ok settings)
    (hproject : (Session.resolveProject i settings).perform s = (.ok p, s₁)) :
    ∃ h, KeepsToTimeline start settings p s (start.run s) h := by
  obtain ⟨hhistory, hcwd, ⟨shown, hshown⟩, hfinished⟩ :=
    start.run_proceeds s hparse hsettings hproject
  have htext (parent : Path) (h : settings.outputDir = .path parent) : parent.text ≠ "" :=
    text_outputDir_ne_empty hparse hsettings h
  cases hdry : settings.dryRun with
  | true =>
      have hscaffold : Follows start.programs s.cwd
          (Session.scaffold start.programs settings start.elapsed p) [] :=
        Session.follows_scaffold_of_dryRun p start.elapsed hdry
      obtain ⟨h, hafter, hbegins, horder, hplace, -⟩ :=
        Session.follows_proceed (i := i) hscaffold s₁ hcwd
      obtain rfl := List.prefix_nil.1 hbegins
      refine ⟨[], by rw [hshown]; exact hafter.trans (by rw [hhistory]), List.nil_prefix, horder,
        by rw [hshown]; exact hplace, fun _ hreal => ?_, fun _ hreal => ?_⟩
      · rw [hdry] at hreal
        cases hreal
      · rw [hdry] at hreal
        cases hreal
  | false =>
      have hscaffold : Follows start.programs s.cwd
          (Session.scaffold start.programs settings start.elapsed p)
            (p.timeline settings s.cwd) :=
        Session.follows_scaffold p start.elapsed hdry htext
      obtain ⟨h, hafter, hbegins, horder, hplace, hok⟩ :=
        Session.follows_proceed (i := i) hscaffold s₁ hcwd
      refine ⟨h, by rw [hshown]; exact hafter.trans (by rw [hhistory]), hbegins, horder,
        by rw [hshown]; exact hplace, fun hend _ => hok () (hfinished hend), fun hend _ => ?_⟩
      have hsuccess := hfinished hend
      obtain ⟨rfl, -⟩ := hok () hsuccess
      obtain ⟨before, hdone⟩ := Session.exists_scaffold_of_proceed
        (Prod.ext hsuccess rfl : (Session.proceed start i settings p).perform s₁ = (.ok (), _))
      obtain ⟨parent, plan, middle, hparent, hplan, houtcome, hmiddle, hdisk⟩ :=
        Session.exists_run_of_scaffold hdry hdone
      rw [hshown]
      refine ⟨parent, plan, middle, hparent, hplan, ?_, hmiddle, houtcome, hdisk⟩
      dsimp only
      rw [hplace, Project.timeline, hparent, hplan, placeAfter_append, placeAfter_startsHere]
      rfl

/-- The start of a run in which only the name is given. -/
def sampleStart : Start where
  arguments := ["demo", "--yes"]

/-- What its command line asks for. -/
def sampleInvocation : Invocation where
  answers := [("project_name", .str "demo")]
  assumeDefaults := true

/-- The project of the run. -/
def sampleProject : Project where
  name := ⟨"demo", by cbv⟩
  tailwindVersion := some .v3

/-- A run with the default answers on an empty disk. -/
theorem Start.run_follows_timeline_sample :
    ∃ s₁ h, Invocation.parse sampleStart.arguments = .ok sampleInvocation ∧
      sampleInvocation.resolveSettings sampleStart.environment = .ok {} ∧
      (Session.resolveProject sampleInvocation {}).perform {} = (.ok sampleProject, s₁) ∧
      KeepsToTimeline sampleStart {} sampleProject {} (sampleStart.run {}) h := by
  have hparse : Invocation.parse sampleStart.arguments = .ok sampleInvocation := by cbv
  have hsettings : sampleInvocation.resolveSettings sampleStart.environment = .ok {} := by cbv
  have hproject : (Session.resolveProject sampleInvocation {}).perform {} =
      (.ok sampleProject, _) := Prod.ext rfl rfl
  obtain ⟨h, hkeeps⟩ := Start.run_follows_timeline sampleStart {} hparse hsettings hproject
  exact ⟨_, h, hparse, hsettings, hproject, hkeeps⟩

end ReactScaffold
