import ReactScaffold.Proofs.CommandLine.Saving
import ReactScaffold.Proofs.CommandLine.Timeline
import ReactScaffold.Proofs.Host.Way
import ReactScaffold.Proofs.Session.Conversation

/-!
# The stages of a run

A run gathers its project, which may be saved, and announces it. A dry run shows the plan then and
is over. Any other run prepares the base project, runs the plan in it and tells what to do next.
-/

namespace ReactScaffold

open ReactScaffold.Action Text

/-- The second disk is the first on which a project has been saved: the file at the path holds it,
and missing directories on the way to the file have been made. -/
def Path.Saves (path : Path) (cwd : Place) (d d' : Disk) : Prop :=
  ∀ place, d'.get? place = d.get? place ∨
    (place = (path.resolve cwd).parts ∧
      ∃ p : Project, d'.get? place = some (.file (Utf8.encode p.savedText.toList))) ∨
    place ∈ path.parent.placesOnWay cwd ∧ d.get? place = none ∧ d'.get? place = some .directory

theorem Disk.Fills.saves {d d' : Disk} {cwd : Place} {path : Path}
    (h : Disk.Fills d d' (path.parent.placesOnWay cwd)) : path.Saves cwd d d' :=
  fun place => (h place).imp_right .inr

/-- The second disk is the first, or the invocation has saved a project on it. -/
def Invocation.Saves (i : Invocation) (cwd : Place) (d d' : Disk) : Prop :=
  d' = d ∨ ∃ path, i.saveTo = some (.path path) ∧ path.Saves cwd d d'

/-- The path that a project is put at. -/
def Project.rootIn (p : Project) (parent : Path) : Path := parent.join (Path.ofText p.name.text)

namespace Session

variable {programs : Programs} {settings : Settings} {p : Project} {s t : Session}

/-- Makes up the project of an invocation, and saves it if that is asked for. -/
def gather (i : Invocation) (settings : Settings) : Action Session Project := do
  let p ← resolveProject i settings
  if let some given := i.saveTo then saveProject p (← requireGiven given)
  return p

/-- Compiles a project to its plan and shows where the project is put. -/
def announce (settings : Settings) (p : Project) : Action Session (Plan × Path) := do
  let plan ← compile p
  let .path parent := settings.outputDir | Action.fail .noDirectory
  display (p.panel (← resolvePath (p.rootIn parent)).text plan.steps.length)
  return (plan, parent)

/-- Shows a plan that is not run. -/
def preview (plan : Plan) : Action Session Unit := do
  displayAll plan.events
  display (.success "Dry run: nothing was written.")

/-- Creates the base project of a project. -/
def prepare (programs : Programs) (p : Project) (parent : Path) : Action Session Unit := do
  requireNone (← makeDirectories parent)
  createAndInstall programs p parent (p.rootIn parent)
  displayAll (headingEvents "Generate")

/-- Tells how long the project has taken and what to do next. -/
def celebrate (elapsed : Decimal.Binary64) (p : Project) : Action Session Unit := do
  let duration ← Action.ofExcept (fun e => .fault (.duration e))
    (Decimal.formatDuration (.measured elapsed))
  display (.success ("Created " ++ p.name.text ++ " in " ++ duration))
  displayAll p.nextStepsEvents

/-- Creates the base project of a project and runs the plan in it. -/
def construct (programs : Programs) (elapsed : Decimal.Binary64) (p : Project) (plan : Plan)
    (parent : Path) : Action Session Unit := do
  prepare programs p parent
  runPlan programs plan
  celebrate elapsed p

theorem scaffold_eq (programs : Programs) (settings : Settings) (elapsed : Decimal.Binary64)
    (p : Project) :
    scaffold programs settings elapsed p = (do
      let announced ← announce settings p
      if settings.dryRun then preview announced.1
      else
        requireVacant (p.rootIn announced.2)
        construct programs elapsed p announced.1 announced.2) := by
  unfold scaffold announce
  cases settings.outputDir with
  | dashes =>
      rw [bind_assoc]
      rfl
  | path parent =>
      simp only [construct, prepare, bind_assoc, pure_bind]
      rfl

/-- What comes before the plan in a run that is no dry run. -/
def prepared (start : Start) (i : Invocation) (settings : Settings) :
    Action Session (Project × Plan) := do
  let p ← gather i settings
  let announced ← announce settings p
  requireVacant (p.rootIn announced.2)
  prepare start.programs p announced.2
  return (p, announced.1)

theorem carryOut_eq_gather (start : Start) (i : Invocation) (settings : Settings) :
    carryOut start i settings =
      gather i settings >>= scaffold start.programs settings start.elapsed := by
  unfold carryOut gather
  cases i.saveTo with
  | none => simp only [bind_assoc, pure_bind]
  | some given => simp only [bind_assoc, pure_bind]

/-- A run that is no dry run gets ready, runs the plan and tells what to do next. -/
theorem carryOut_of_real (start : Start) (i : Invocation) (hreal : settings.dryRun = false) :
    carryOut start i settings = (do
      let ready ← prepared start i settings
      runPlan start.programs ready.2
      celebrate start.elapsed ready.1) := by
  rw [carryOut_eq_gather]
  simp only [prepared, bind_assoc, pure_bind]
  refine bind_congr fun p => ?_
  rw [scaffold_eq]
  simp only [hreal, construct]
  rfl

/-! ## Gathering the project -/

/-- What gathering a project may change: the project is saved, and no table is shown. -/
structure Gathers (i : Invocation) (s t : Session) : Prop where
  cwd : t.cwd = s.cwd
  history : t.history = s.history
  disk : i.Saves s.cwd s.disk t.disk
  shown : ∃ events, t.shown = s.shown ++ events ∧ ∀ e ∈ events, e.isTable = false

theorem Converses.gathers (h : Converses s t) (i : Invocation) : Gathers i s t :=
  ⟨h.cwd, h.history, .inl h.disk, h.shown⟩

/-- Saving a project changes nothing but its file and the missing directories above it. -/
theorem saves_saveProject (p : Project) (path : Path) (s : Session) :
    ∃ disk remarks, ((saveProject p path).perform s).2 = { s with disk, remarks } ∧
      path.Saves s.cwd s.disk disk := by
  rcases perform_saveProject_cases p path s with ⟨f, heq⟩ | ⟨d, rfl, hrest⟩
  · rw [heq]
    exact ⟨s.disk, s.remarks, rfl, fun place => .inl rfl⟩
  · have hfills := s.disk.fills_ensureDirectory s.cwd path.parent
    rcases hrest with ⟨f, heq⟩ | ⟨place, remarks, -, hwalk, hnot, heq⟩
    · rw [heq]
      exact ⟨_, s.remarks, rfl, hfills.saves⟩
    · obtain rfl := Disk.walk_eq_resolve hwalk
      rw [heq]
      refine ⟨_, remarks, rfl, fun other => ?_⟩
      by_cases hplace : (path.resolve s.cwd).parts = other
      · subst hplace
        exact .inr (.inl ⟨rfl, p, Disk.get?_set_self _ _ (Disk.ne_nil_of_get?_ne_directory hnot)⟩)
      · rw [Disk.get?_set_of_ne _ _ hplace]
        exact hfills.saves other

theorem gathers_gather (i : Invocation) (settings : Settings) (s : Session) :
    Gathers i s ((gather i settings).perform s).2 := by
  have hconverses := converses_resolveProject i settings s
  rw [gather, perform_bind]
  generalize (resolveProject i settings).perform s = resolved at hconverses ⊢
  obtain ⟨result, s₁⟩ := resolved
  cases result with
  | error f => exact hconverses.gathers i
  | ok p =>
      cases hsave : i.saveTo with
      | none => exact hconverses.gathers i
      | some given =>
          cases given with
          | dashes => exact hconverses.gathers i
          | path path =>
              obtain ⟨disk, remarks, heq, hsaves⟩ := saves_saveProject p path s₁
              have hdone : ((saveProject p path >>= fun _ => pure p).perform s₁).2 =
                  { s₁ with disk, remarks } := by
                rw [← heq, perform_bind]
                generalize (saveProject p path).perform s₁ = saved
                obtain ⟨result, s₂⟩ := saved
                cases result with
                | error f => rfl
                | ok x => rfl
              show Gathers i s ((saveProject p path >>= fun _ => pure p).perform s₁).2
              rw [hdone]
              rw [hconverses.disk, hconverses.cwd] at hsaves
              exact ⟨hconverses.cwd, hconverses.history, .inr ⟨path, hsave, hsaves⟩,
                hconverses.shown⟩

theorem resolveProject_of_gather {i : Invocation}
    (h : (gather i settings).perform s = (.ok p, t)) :
    ∃ s₁, (resolveProject i settings).perform s = (.ok p, s₁) := by
  obtain ⟨q, s₁, hresolve, hrest⟩ := exists_of_perform_bind h
  suffices q = p by
    subst this
    exact ⟨s₁, hresolve⟩
  cases hsave : i.saveTo with
  | none =>
      rw [hsave] at hrest
      exact Except.ok.inj (Prod.mk.inj hrest).1
  | some given =>
      rw [hsave] at hrest
      obtain ⟨path, s₂, -, hrest⟩ := exists_of_perform_bind hrest
      obtain ⟨_, s₃, -, hrest⟩ := exists_of_perform_bind hrest
      exact Except.ok.inj (Prod.mk.inj hrest).1

/-- A run ends when its project is gathered, or scaffolds the project. -/
theorem perform_carryOut_cases (start : Start) (i : Invocation) (settings : Settings)
    (s : Session) :
    ∃ t, Gathers i s t ∧
      ((∃ f, (carryOut start i settings).perform s = (.error f, t)) ∨
        ∃ p s₁, (resolveProject i settings).perform s = (.ok p, s₁) ∧
          (carryOut start i settings).perform s =
            (scaffold start.programs settings start.elapsed p).perform t) := by
  have hgathered := gathers_gather i settings s
  rw [carryOut_eq_gather, perform_bind]
  cases hgather : (gather i settings).perform s with
  | mk result t =>
      rw [hgather] at hgathered
      refine ⟨t, hgathered, ?_⟩
      cases result with
      | error f => exact .inl ⟨f, rfl⟩
      | ok p =>
          obtain ⟨s₁, hresolve⟩ := resolveProject_of_gather hgather
          exact .inr ⟨p, s₁, hresolve, rfl⟩

/-! ## Announcing the project -/

theorem converses_announce (settings : Settings) (p : Project) :
    Leads Converses (announce settings p) := by
  refine (converses_compile p).bind fun plan => ?_
  cases settings.outputDir with
  | dashes => exact leads_throw _
  | path parent =>
      refine Leads.bind ((leads_requirePath _).bind fun _ => leads_get fun _ => leads_pure _)
        fun place => ?_
      exact (converses_display rfl).bind fun _ => leads_pure _

/-- A project that has been announced has a plan and a directory to be put in. -/
theorem announce_eq_ok {plan : Plan} {parent : Path}
    (h : (announce settings p).perform s = (.ok (plan, parent), t)) :
    Plan.compile p = .ok plan ∧ settings.outputDir = .path parent := by
  obtain ⟨found, s₁, hcompile, hrest⟩ := exists_of_perform_bind h
  have hplan := compile_eq_ok (congrArg Prod.fst hcompile)
  cases hdirectory : settings.outputDir with
  | dashes =>
      rw [hdirectory] at hrest
      cases hrest
  | path directory =>
      rw [hdirectory] at hrest
      obtain ⟨place, s₂, -, hrest⟩ := exists_of_perform_bind hrest
      obtain ⟨_, s₃, -, hrest⟩ := exists_of_perform_bind hrest
      cases hrest
      exact ⟨hplan, rfl⟩

theorem perform_preview (plan : Plan) (s : Session) :
    (preview plan).perform s = (.ok (), { s with
      shown := s.shown ++ plan.events ++ [.success "Dry run: nothing was written."] }) := by
  rw [preview, perform_bind, perform_displayAll]
  rfl

theorem leads_requireVacant {R : Session → Session → Prop} [IsPreorder Session R] (root : Path) :
    Leads R (requireVacant root) := by
  refine leads_get fun x => leads_get fun y => ?_
  split
  · exact leads_throw _
  · exact leads_pure ()
  · exact leads_throw _

theorem perform_requireVacant (root : Path) (s : Session) :
    ∃ result, (requireVacant root).perform s = (result, s) :=
  ⟨_, Prod.ext rfl (leads_requireVacant (R := Eq) root s).symm⟩

/-- A project that is scaffolded is turned down, or its plan is shown in a dry run, or it is
constructed. -/
theorem perform_scaffold_cases (programs : Programs) (settings : Settings)
    (elapsed : Decimal.Binary64) (p : Project) (s : Session) :
    ∃ t, Converses s t ∧
      ((∃ f, (scaffold programs settings elapsed p).perform s = (.error f, t)) ∨
        ∃ plan parent, Plan.compile p = .ok plan ∧ settings.outputDir = .path parent ∧
          (settings.dryRun = true ∧
              (scaffold programs settings elapsed p).perform s = (preview plan).perform t ∨
            settings.dryRun = false ∧
              (scaffold programs settings elapsed p).perform s =
                (construct programs elapsed p plan parent).perform t)) := by
  have hannounced := converses_announce settings p s
  rw [scaffold_eq, perform_bind]
  cases hannounce : (announce settings p).perform s with
  | mk result t =>
      rw [hannounce] at hannounced
      refine ⟨t, hannounced, ?_⟩
      cases result with
      | error f => exact .inl ⟨f, rfl⟩
      | ok announced =>
          obtain ⟨plan, parent⟩ := announced
          obtain ⟨hplan, hdirectory⟩ := announce_eq_ok hannounce
          dsimp only
          cases settings.dryRun with
          | true =>
              rw [if_pos rfl]
              exact .inr ⟨plan, parent, hplan, hdirectory, .inl ⟨rfl, rfl⟩⟩
          | false =>
              obtain ⟨result, hvacant⟩ := perform_requireVacant (p.rootIn parent) t
              rw [if_neg (by simp), perform_bind, hvacant]
              cases result with
              | error f => exact .inl ⟨f, rfl⟩
              | ok x => exact .inr ⟨plan, parent, hplan, hdirectory, .inr ⟨rfl, rfl⟩⟩

/-- A run is ready for its plan when the project is made up and has been compiled to the plan. -/
theorem prepared_eq_ok {start : Start} {i : Invocation} {ready : Project × Plan}
    (h : (prepared start i settings).perform s = (.ok ready, t)) :
    (∃ s₁, (resolveProject i settings).perform s = (.ok ready.1, s₁)) ∧
      Plan.compile ready.1 = .ok ready.2 := by
  obtain ⟨p, s₁, hgather, h⟩ := exists_of_perform_bind h
  obtain ⟨announced, s₂, hannounce, h⟩ := exists_of_perform_bind h
  obtain ⟨_, s₃, -, h⟩ := exists_of_perform_bind h
  obtain ⟨_, s₄, -, h⟩ := exists_of_perform_bind h
  cases h
  exact ⟨resolveProject_of_gather hgather, (announce_eq_ok hannounce).1⟩

end Session

/-- The course of the plan in a run, if the run gets so far. -/
def Start.course? (start : Start) (s : Session) : Option (Course Session) :=
  match Invocation.parse start.arguments with
  | .error _ => none
  | .ok i =>
    match i.resolveSettings start.environment with
    | .error _ => none
    | .ok settings =>
      if settings.dryRun then none
      else
        match (Session.prepared start i settings).perform s with
        | (.ok ready, t) => some (ready.2.run (Session.operations start.programs) t)
        | (.error _, _) => none

theorem Start.course?_eq_some {start : Start} {s : Session} {i : Invocation}
    {settings : Settings} {course : Course Session}
    (hparse : Invocation.parse start.arguments = .ok i)
    (hsettings : i.resolveSettings start.environment = .ok settings)
    (h : start.course? s = some course) :
    ∃ ready t, (Session.prepared start i settings).perform s = (.ok ready, t) ∧
      course = ready.2.run (Session.operations start.programs) t := by
  unfold course? at h
  rw [hparse] at h
  dsimp only at h
  rw [hsettings] at h
  dsimp only at h
  split_ifs at h
  split at h
  · rename_i ready t hready
    exact ⟨ready, t, hready, (Option.some.inj h).symm⟩
  · cases h

end ReactScaffold
