import ReactScaffold.Action
import ReactScaffold.Execution.Status

/-!
# Running a plan

A plan is run by operations that start commands and keep files. The steps run in order. The first
scaffold error ends the run as the failure of its step; any other failure ends it as it is, while
its step is still running. Work that is done stays.
-/

namespace ReactScaffold

/-- What a run needs from outside, over the state `σ`. -/
structure Operations (σ : Type) where
  runCommand : List String → Action σ Unit
  ensureDirectory : String → Action σ Unit
  writeFile : String → String → Action σ Unit
  readJson : String → Action σ Members
  writeJson : String → Members → Action σ Unit
  remark : String → σ → σ

variable {σ : Type}

/-- Installs the packages of one sort, if there are any. -/
def installSort (ops : Operations σ) (manager : PackageManager) (packages : List Dependency)
    (dev : Bool) : Action σ Unit := do
  let names := packageNames packages dev
  if names.isEmpty then pure ()
  else
    let command := manager.commands.addCommand names dev
    modify (ops.remark ("Installing: " ++ " ".intercalate command))
    ops.runCommand command

/-- Carries out a step. Packages that the application needs are installed before those for
development. -/
def Step.apply (ops : Operations σ) : Step → Action σ Unit
  | .ensureDirectory path => ops.ensureDirectory path
  | .installDependencies manager packages _ => do
    installSort ops manager packages false
    installSort ops manager packages true
  | .writeFile path content => ops.writeFile path content
  | .mergeManifestScripts entries manifest => do
    let members ← ops.readJson manifest
    let merged ← Action.ofExcept (fun f => .fault (.scripts f))
      (mergeIntoManifest members entries)
    ops.writeJson manifest merged

/-- The course of a run: the reports made, how it ended and the state after it. -/
structure Course (σ : Type) where
  reports : List StepReport
  outcome : Except Failure (List StepReport)
  state : σ

/-- The course in which a report is made first. -/
def Course.after (r : StepReport) (c : Course σ) : Course σ :=
  { c with reports := r :: c.reports }

/-- The course in which a step has succeeded first. -/
def Course.afterSuccess (r : StepReport) (c : Course σ) : Course σ :=
  { reports := r :: c.reports, outcome := c.outcome.map fun rs => r :: rs, state := c.state }

/-- The end of a run by the failure of a step. -/
def failedCourse (ops : Operations σ) (index : Nat) (step : Step) (failure : Failure) (s : σ) :
    Course σ :=
  match failure with
  | .fault f => ⟨[], .error (.fault f), s⟩
  | .scaffold e =>
    let text := "Step " ++ toString (index + 1) ++ " (" ++ step.label ++ ") failed: " ++ e.message
    ⟨[⟨index, step.label, .failed, some e.message⟩],
      .error (.scaffold (.step index step e)), ops.remark text s⟩

/-- Runs steps, the first of which has the given index. -/
def runSteps (ops : Operations σ) (index : Nat) (steps : List Step) (s : σ) : Course σ :=
  match steps with
  | [] => ⟨[], .ok [], s⟩
  | step :: rest =>
    let course :=
      match (step.apply ops).perform s with
      | (.ok (), s) =>
        (runSteps ops (index + 1) rest s).afterSuccess ⟨index, step.label, .succeeded, none⟩
      | (.error failure, s) => failedCourse ops index step failure s
    course.after ⟨index, step.label, .running, none⟩

/-- The reports that announce all steps. -/
def Plan.announcements (plan : Plan) : List StepReport :=
  plan.steps.mapIdx fun i step => ⟨i, step.label, .pending, none⟩

/-- Runs a plan. -/
def Plan.run (ops : Operations σ) (plan : Plan) (s : σ) : Course σ :=
  let course := runSteps ops 0 plan.steps s
  { course with reports := plan.announcements ++ course.reports }

end ReactScaffold
