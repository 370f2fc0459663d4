import ReactScaffold.Proofs.CommandLine.Early

/-!
# Runs that stop early

A run that is rejected, is interrupted at a question or only shows its plan leaves nothing behind
but the project that it was asked to save. `Start.run_leaves_no_trace` says so, and that the steps
which a dry run shows are those that are announced otherwise.
-/

namespace ReactScaffold

open ReactScaffold.Action Session Text

/-! ## What a dry run shows -/

/-- The table of the steps of a plan, each with its number, its kind and its label. -/
def Plan.table (plan : Plan) : Event :=
  .table "Generation plan" ["#", "Kind", "Step"]
    (plan.steps.mapIdx fun k step => [toString (k + 1), step.kind, step.label])

theorem filter_isTable_eq_nil {events : List Event} (h : ∀ e ∈ events, e.isTable = false) :
    events.filter Event.isTable = [] :=
  List.filter_eq_nil_iff.2 fun e he => by simp [h e he]

theorem filter_isTable_preview (plan : Plan) (text : String) :
    (plan.events ++ [Event.success text]).filter Event.isTable = [plan.table] := rfl

namespace Session

variable {settings : Settings} {s : Session}

/-- A dry run that does not fail shows the plan of its project and no other table. -/
theorem tables_carryOut (start : Start) (i : Invocation) (hdry : settings.dryRun = true)
    (s : Session) :
    ∃ events, ((carryOut start i settings).perform s).2.shown = s.shown ++ events ∧
      ((∃ f, ((carryOut start i settings).perform s).1 = .error f) ∧
          events.filter Event.isTable = [] ∨
        ((carryOut start i settings).perform s).1 = .ok () ∧
          ∃ p plan s₁, (resolveProject i settings).perform s = (.ok p, s₁) ∧
            Plan.compile p = .ok plan ∧ events.filter Event.isTable = [plan.table]) := by
  obtain ⟨u, hgathered, ⟨f, heq⟩ | ⟨p, s₁, hresolve, hcarry⟩⟩ :=
    perform_carryOut_cases start i settings s
  all_goals obtain ⟨first, hfirst, hplain⟩ := hgathered.shown
  · rw [heq]
    exact ⟨first, hfirst, .inl ⟨⟨f, rfl⟩, filter_isTable_eq_nil hplain⟩⟩
  · obtain ⟨v, hannounced, hends⟩ :=
      perform_scaffold_cases start.programs settings start.elapsed p u
    obtain ⟨second, hsecond, hplain'⟩ := hannounced.shown
    have hboth : (first ++ second).filter Event.isTable = [] := by
      rw [List.filter_append, filter_isTable_eq_nil hplain, filter_isTable_eq_nil hplain']
      rfl
    rw [hfirst, List.append_assoc] at hsecond
    rw [hcarry]
    rcases hends with ⟨f, heq⟩ | ⟨plan, parent, hplan, -, ⟨-, heq⟩ | ⟨hreal, -⟩⟩
    · rw [heq]
      exact ⟨_, hsecond, .inl ⟨⟨f, rfl⟩, hboth⟩⟩
    · rw [heq, perform_preview]
      dsimp only
      rw [hsecond, List.append_assoc, List.append_assoc]
      refine ⟨_, rfl, .inr ⟨rfl, p, plan, s₁, hresolve, hplan, ?_⟩⟩
      rw [List.filter_append, hboth, filter_isTable_preview]
      rfl
    · cases hdry.symm.trans hreal

/-- The end of a failed run shows no table, and the run has not finished. -/
theorem failureEnding_plain (f : Failure) :
    (failureEnding f).1.filter Event.isTable = [] ∧ (failureEnding f).2 ≠ .finished := by
  unfold failureEnding
  split
  · exact ⟨rfl, by simp⟩
  · exact ⟨rfl, by simp⟩
  · exact ⟨rfl, by simp⟩
  · exact ⟨rfl, by simp⟩
  · rename_i e
    refine ⟨?_, by simp⟩
    cases e with
    | step index step cause => rfl
    | _ => rfl

end Session

/-- The reports that a course begins to announce its steps with. -/
def Course.announced {σ : Type} (c : Course σ) : List StepReport :=
  c.reports.filter fun r => r.status = .pending

/-- A plan that is run announces all of its steps, in order and before anything else. -/
theorem Plan.announced_run {σ : Type} (ops : Operations σ) (plan : Plan) (s : σ) :
    (plan.run ops s).announced = plan.announcements := by
  have hannounced : plan.announcements.filter (fun r => r.status = .pending) =
      plan.announcements := by
    rw [List.filter_eq_self]
    intro r hr
    obtain ⟨i, hi, rfl⟩ := List.mem_mapIdx.1 hr
    rfl
  have hrest : (runSteps ops 0 plan.steps s).reports.filter (fun r => r.status = .pending) = [] :=
    List.filter_eq_nil_iff.2 fun r hr => by
      simpa using ne_pending_of_mem_runSteps ops 0 plan.steps s r hr
  rw [Course.announced, Plan.run, List.filter_append, hannounced, hrest, List.append_nil]

/-! ## Whole runs -/

/-- The run stops before its base project is created: its command line is not understood, its
settings or its answers are rejected, it is interrupted, the project is there already, or it is a
dry run. -/
inductive Start.StopsEarly (start : Start) (s : Session) : Prop where
  | misused {stop : Stop} (parsed : Invocation.parse start.arguments = .error stop)
  | unsettled {i : Invocation} {e : UnknownChoice}
      (parsed : Invocation.parse start.arguments = .ok i)
      (resolved : i.resolveSettings start.environment = .error e)
  | dry {i : Invocation} {settings : Settings}
      (parsed : Invocation.parse start.arguments = .ok i)
      (resolved : i.resolveSettings start.environment = .ok settings)
      (dry : settings.dryRun = true)
  | rejected {i : Invocation} {settings : Settings} {f : Failure} {t : Session}
      (parsed : Invocation.parse start.arguments = .ok i)
      (resolved : i.resolveSettings start.environment = .ok settings)
      (ended : (carryOut start i settings).perform s = (.error f, t)) (early : f.IsEarly)

/-- In the second session the world is as it is in the first, but for the project that the command
line asks to be saved. -/
structure Start.SavesOnly (start : Start) (s t : Session) : Prop where
  cwd : t.cwd = s.cwd
  history : t.history = s.history
  disk : t.disk = s.disk ∨ ∃ i path, Invocation.parse start.arguments = .ok i ∧
    i.saveTo = some (.path path) ∧ path.Saves s.cwd s.disk t.disk

theorem Start.savesOnly_run {start : Start} {i : Invocation} {settings : Settings} {s : Session}
    (hparse : Invocation.parse start.arguments = .ok i)
    (hsettings : i.resolveSettings start.environment = .ok settings)
    (h : settings.dryRun = true ∨
      ∃ f t, (carryOut start i settings).perform s = (.error f, t) ∧ f.IsEarly) :
    start.SavesOnly s (start.run s).session := by
  obtain ⟨⟨shown, hshown⟩, -⟩ := conclude_eq start i settings s
  obtain ⟨hcwd, hhistory, hdisk⟩ := gathers_carryOut h
  rw [run_eq_conclude hparse hsettings]
  dsimp only
  rw [hshown]
  refine ⟨hcwd, hhistory, ?_⟩
  rcases hdisk with hsame | ⟨path, hsave, hsaves⟩
  · exact .inl hsame
  · exact .inr ⟨i, path, hparse, hsave, hsaves⟩

/-- What a dry run shows: no table when it fails, and otherwise the table of the plan of its project
alone. A run of the same invocation that is no dry run announces the steps of this plan, if it gets
so far. -/
def Start.Previews (start : Start) (i : Invocation) (settings : Settings) (s : Session) : Prop :=
  ∃ events, (start.run s).session.shown = s.shown ++ events ∧
    ((start.run s).ending ≠ .finished ∧ events.filter Event.isTable = [] ∨
      (start.run s).ending = .finished ∧
        ∃ p plan s₁, (resolveProject i settings).perform s = (.ok p, s₁) ∧
          Plan.compile p = .ok plan ∧ events.filter Event.isTable = [plan.table] ∧
          ∀ start' : Start, Invocation.parse start'.arguments = .ok { i with dryRun := false } →
            { i with dryRun := false }.resolveSettings start'.environment =
              .ok { settings with dryRun := false } →
            ∀ course, start'.course? s = some course →
              course.announced = plan.steps.mapIdx fun k step => ⟨k, step.label, .pending, none⟩)

theorem Start.previews_of_dryRun {start : Start} {i : Invocation} {settings : Settings}
    (hparse : Invocation.parse start.arguments = .ok i)
    (hsettings : i.resolveSettings start.environment = .ok settings)
    (hdry : settings.dryRun = true) (s : Session) : start.Previews i settings s := by
  obtain ⟨events, hshown, hend⟩ := tables_carryOut start i hdry s
  unfold Previews
  rw [run_eq_conclude hparse hsettings, conclude]
  cases hcarry : (carryOut start i settings).perform s with
  | mk result t =>
      rw [hcarry] at hshown hend
      rcases hend with ⟨⟨f, rfl⟩, hnone⟩ | ⟨rfl, p, plan, s₁, hresolve, hplan, htable⟩
      · obtain ⟨hplain, hfailed⟩ := failureEnding_plain f
        refine ⟨events ++ (failureEnding f).1, ?_, .inl ⟨hfailed, ?_⟩⟩
        · dsimp only at hshown ⊢
          rw [hshown, List.append_assoc]
        · rw [List.filter_append, hnone, hplain]
          rfl
      · refine ⟨events, hshown, .inr ⟨rfl, p, plan, s₁, hresolve, hplan, htable, ?_⟩⟩
        intro start' hparse' hsettings' course hcourse
        obtain ⟨ready, t', hready, rfl⟩ := course?_eq_some hparse' hsettings' hcourse
        obtain ⟨⟨s₂, hresolve'⟩, hplan'⟩ := prepared_eq_ok hready
        -- whether a run is a dry run makes no difference to its project
        have hsame := hresolve'.symm.trans hresolve
        rw [Except.ok.inj (Prod.mk.inj hsame).1, hplan] at hplan'
        rw [Plan.announced_run, ← Except.ok.inj hplan']
        rfl

/-- A run that stops before its base project is created starts no process, stays in its working
directory and leaves the disk as it was, but for the file that the answers are saved in and the
missing directories above it. A dry run that does not fail shows, as its only table, all steps of
the plan of its project, and these are the steps that the same run announces when it is no dry
run. -/
theorem Start.run_leaves_no_trace (start : Start) (s : Session) :
    (start.StopsEarly s → start.SavesOnly s (start.run s).session) ∧
      ∀ i settings, Invocation.parse start.arguments = .ok i →
        i.resolveSettings start.environment = .ok settings → settings.dryRun = true →
          start.Previews i settings s := by
  refine ⟨fun h => ?_, fun i settings hparse hsettings hdry =>
    previews_of_dryRun hparse hsettings hdry s⟩
  cases h with
  | misused hparse =>
      rw [session_run_of_misuse hparse]
      exact ⟨rfl, rfl, .inl rfl⟩
  | unsettled hparse hsettings =>
      rw [session_run_of_unknownChoice hparse hsettings]
      exact ⟨rfl, rfl, .inl rfl⟩
  | dry hparse hsettings hdry => exact savesOnly_run hparse hsettings (.inl hdry)
  | rejected hparse hsettings hended hearly =>
      exact savesOnly_run hparse hsettings (.inr ⟨_, _, hended, hearly⟩)

/-- The start of a dry run in which only the name is given. -/
def previewStart : Start where
  arguments := sampleStart.arguments
  environment := [("PRTW_DRY_RUN", "1")]

/-- The start of a run in which only the name is given, on a machine where the base project is
made. -/
def makingStart : Start where
  arguments := sampleStart.arguments
  programs command := .started { created :=
    if command = sampleProject.createCommand then [("demo", none)] else [] }

/-- A dry run with the default answers, and the same run when it is no dry run. -/
theorem Start.run_leaves_no_trace_sample :
    previewStart.SavesOnly {} (previewStart.run {}).session ∧
      ∃ (plan : Plan) (course : Course Session),
        (previewStart.run {}).session.shown.filter Event.isTable = [plan.table] ∧
        makingStart.course? {} = some course ∧
        course.announced = plan.steps.mapIdx fun k step => ⟨k, step.label, .pending, none⟩ := by
  have hparse : Invocation.parse sampleStart.arguments = .ok sampleInvocation := by cbv
  have hdry : sampleInvocation.resolveSettings previewStart.environment =
      .ok { dryRun := true } := by cbv
  have hreal : sampleInvocation.resolveSettings makingStart.environment = .ok {} := by cbv
  have htable : (previewStart.run {}).session.shown.any Event.isTable = true := by decide +kernel
  have hcourse : (makingStart.course? {}).isSome = true := by decide +kernel
  obtain ⟨hstops, hpreviews⟩ := Start.run_leaves_no_trace previewStart {}
  refine ⟨hstops (.dry hparse hdry rfl), ?_⟩
  obtain ⟨events, hshown, ⟨-, hnone⟩ | ⟨-, p, plan, s₁, -, -, hplan, hannounced⟩⟩ :=
    hpreviews _ _ hparse hdry rfl
  · rw [hshown, List.any_eq_true] at htable
    obtain ⟨e, he, htrue⟩ := htable
    exact absurd htrue (List.filter_eq_nil_iff.1 hnone e he)
  · obtain ⟨course, hcourse⟩ := Option.isSome_iff_exists.1 hcourse
    rw [← List.nil_append events] at hplan
    exact ⟨plan, course, by rw [hshown]; exact hplan, hcourse,
      hannounced makingStart hparse hreal course hcourse⟩

end ReactScaffold
