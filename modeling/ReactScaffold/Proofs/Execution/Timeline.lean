import ReactScaffold.Session.Scaffold
import ReactScaffold.Proofs.Execution.Course
import ReactScaffold.Proofs.Outcome
import ReactScaffold.Proofs.Session.Timeline

/-!
# The processes of a plan

A plan starts the commands of its steps in order, each in the working directory, and starts nothing
after a command that fails.
-/

namespace ReactScaffold

open ReactScaffold.Action Session

/-- The commands that install packages: those that the application needs first. -/
def addCommands (manager : PackageManager) (packages : List Dependency) : List (List String) :=
  [false, true].filterMap fun dev =>
    if packageNames packages dev = [] then none
    else some (manager.commands.addCommand (packageNames packages dev) dev)

/-- The commands of a step. -/
def Step.commands : Step → List (List String)
  | .installDependencies manager packages _ => addCommands manager packages
  | _ => []

/-- The starts of processes in the working directory. -/
def startsHere (commands : List (List String)) : List Happening :=
  commands.map fun command => .started ⟨command, none⟩

variable {programs : Programs} {cwd : Place}

theorem placeAfter_startsHere (cwd : Place) (commands : List (List String)) :
    placeAfter cwd (startsHere commands) = cwd := by
  induction commands with
  | nil => rfl
  | cons command commands ih => exact ih

theorem placeAfter_of_prefix {h : List Happening} {commands : List (List String)}
    (hbegins : h <+: startsHere commands) : placeAfter cwd h = cwd := by
  obtain ⟨first, -, rfl⟩ := List.prefix_map_iff.1 hbegins
  exact placeAfter_startsHere cwd first

theorem follows_bind_startsHere {α β : Type} {a : Action Session α} {f : α → Action Session β}
    {first second : List (List String)} (ha : Follows programs cwd a (startsHere first))
    (hf : ∀ x, Follows programs cwd (f x) (startsHere second)) :
    Follows programs cwd (a >>= f) (startsHere (first ++ second)) := by
  rw [startsHere, List.map_append]
  refine Follows.bind ha fun x => ?_
  rw [← startsHere, placeAfter_startsHere]
  exact hf x

theorem follows_installSort (manager : PackageManager) (packages : List Dependency) (dev : Bool) :
    Follows programs cwd (installSort (operations programs) manager packages dev)
      (startsHere (if packageNames packages dev = [] then []
        else [manager.commands.addCommand (packageNames packages dev) dev])) := by
  unfold installSort
  by_cases hnone : packageNames packages dev = []
  · rw [if_pos hnone, hnone]
    exact follows_pure ()
  · rw [if_neg hnone]
    simp only [List.isEmpty_iff, hnone, if_false]
    have hremark (text : String) :
        Follows programs cwd (modify ((operations programs).remark text)) [] :=
      follows_modify fun _ => ⟨rfl, rfl⟩
    exact (hremark _).after fun _ => (follows_runProcess _ none).before fun _ => follows_pure ()

/-- The processes of a step are its commands. -/
theorem follows_apply (step : Step) :
    Follows programs cwd (step.apply (operations programs)) (startsHere step.commands) := by
  cases step with
  | ensureDirectory path => exact follows_ensureDirectory none path
  | writeFile path content => exact follows_writeFile none path _
  | mergeManifestScripts entries manifest =>
      refine (follows_readJson none manifest).after fun members => ?_
      exact (follows_ofExcept _ _).after fun merged => follows_writeFile none manifest _
  | installDependencies manager packages description =>
      have hcommands : addCommands manager packages =
          (if packageNames packages false = [] then []
            else [manager.commands.addCommand (packageNames packages false) false]) ++
          (if packageNames packages true = [] then []
            else [manager.commands.addCommand (packageNames packages true) true]) := by
        by_cases hfirst : packageNames packages false = []
        · by_cases hsecond : packageNames packages true = []
          · simp [addCommands, hfirst, hsecond]
          · simp [addCommands, hfirst, hsecond]
        · by_cases hsecond : packageNames packages true = []
          · simp [addCommands, hfirst, hsecond]
          · simp [addCommands, hfirst, hsecond]
      rw [Step.commands, hcommands]
      exact follows_bind_startsHere (follows_installSort manager packages false) fun _ =>
        follows_installSort manager packages true

/-- The processes of steps are their commands in order. -/
theorem follows_applyAll (programs : Programs) (steps : List Step) :
    Follows programs cwd (Step.applyAll (operations programs) steps)
      (startsHere (steps.flatMap Step.commands)) := by
  induction steps with
  | nil => exact follows_pure ()
  | cons step steps ih =>
      rw [List.flatMap_cons]
      exact follows_bind_startsHere (follows_apply step) fun _ => ih

/-- A run does what its steps do one after the other, and succeeds when they do. -/
theorem runSteps_applyAll (programs : Programs) (index : Nat) (steps : List Step) (s : Session) :
    (runSteps (operations programs) index steps s).state.history =
        ((Step.applyAll (operations programs) steps).perform s).2.history ∧
      (runSteps (operations programs) index steps s).state.cwd =
        ((Step.applyAll (operations programs) steps).perform s).2.cwd ∧
      ∀ reports, (runSteps (operations programs) index steps s).outcome = .ok reports →
        ((Step.applyAll (operations programs) steps).perform s).1 = .ok () ∧
          reports = reportsFrom [.succeeded] index steps := by
  induction steps generalizing index s with
  | nil =>
      refine ⟨rfl, rfl, fun reports h => ⟨rfl, ?_⟩⟩
      exact (Except.ok.inj h).symm
  | cons step steps ih =>
      rw [Step.perform_applyAll_cons]
      cases hstep : (step.apply (operations programs)).perform s with
      | mk result after =>
          cases result with
          | ok x =>
              obtain ⟨hhistory, hcwd, hok⟩ := ih (index + 1) after
              rw [runSteps_cons_of_ok _ index steps hstep]
              refine ⟨hhistory, hcwd, fun reports h => ?_⟩
              obtain ⟨rest, hrest, rfl⟩ := map_eq_ok h
              obtain ⟨hall, rfl⟩ := hok rest hrest
              exact ⟨hall, rfl⟩
          | error failure =>
              rw [runSteps_cons_of_error _ index steps hstep]
              cases failure with
              | fault f => exact ⟨rfl, rfl, fun reports h => by cases h⟩
              | scaffold e => exact ⟨rfl, rfl, fun reports h => by cases h⟩

theorem perform_runPlan (plan : Plan) (s : Session) :
    (runPlan programs plan).perform s =
      match (plan.run (operations programs) s).outcome with
      | .ok reports =>
        (.ok (), (plan.run (operations programs) s).state.addEvent (.out (summaryText reports)))
      | .error failure => (.error failure, (plan.run (operations programs) s).state) := by
  have hset (course : Course Session) :
      ((do
        set course.state
        let reports ← Action.ofExcept id course.outcome
        display (.out (summaryText reports)) : Action Session Unit).perform s) =
      match course.outcome with
      | .ok reports => (.ok (), course.state.addEvent (.out (summaryText reports)))
      | .error failure => (.error failure, course.state) := by
    obtain ⟨reports, outcome, state⟩ := course
    cases outcome with
    | ok reports => rfl
    | error failure => rfl
  exact hset (plan.run (operations programs) s)

/-- A run stays in the working directory. -/
theorem runSteps_cwd (index : Nat) (steps : List Step) (s : Session) :
    (runSteps (operations programs) index steps s).state.cwd = s.cwd := by
  obtain ⟨-, hplace, -⟩ := runSteps_applyAll programs index steps s
  obtain ⟨h, -, hbegins, -, hcwd, -⟩ := follows_applyAll programs steps s rfl
  rw [hplace, hcwd, placeAfter_of_prefix hbegins]

/-- A plan that is run in a session starts the commands of its steps in order. -/
theorem follows_runPlan (plan : Plan) :
    Follows programs cwd (runPlan programs plan)
      (startsHere (plan.steps.flatMap Step.commands)) := by
  intro s hs
  obtain ⟨h, hhistory, hbegins, horder, hcwd, hok⟩ :=
    follows_applyAll programs plan.steps s hs
  obtain ⟨hsame, hplace, hreports⟩ := runSteps_applyAll programs 0 plan.steps s
  rw [perform_runPlan]
  cases houtcome : (plan.run (operations programs) s).outcome with
  | error failure =>
      exact ⟨h, hsame.trans hhistory, hbegins, horder, hplace.trans hcwd, fun x hx => by cases hx⟩
  | ok reports =>
      obtain ⟨hall, -⟩ := hreports reports houtcome
      exact ⟨h, hsame.trans hhistory, hbegins, horder, hplace.trans hcwd, fun x _ => hok () hall⟩

end ReactScaffold
