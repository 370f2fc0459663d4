import ReactScaffold.Execution.Run
import Mathlib

/-!
# The course of a run

A run carries out its steps in order up to the first that fails. `Plan.run_course` says what is
reported on the way, how the run ends and which operations it has called by then. The operations
are arbitrary: each call may succeed, stop with a scaffold error or stop with a fault, and may
change the state in any way.
-/

namespace ReactScaffold

variable {σ : Type}

/-- The reports that each step has come to the given statuses, one step after the other. -/
def reportsFrom (statuses : List StepStatus) (index : Nat) : List Step → List StepReport
  | [] => []
  | step :: rest =>
    statuses.map (fun status => ⟨index, step.label, status, none⟩) ++
      reportsFrom statuses (index + 1) rest

@[simp] theorem reportsFrom_nil (statuses : List StepStatus) (index : Nat) :
    reportsFrom statuses index [] = [] := rfl

theorem mapIdx_report_eq_reportsFrom (status : StepStatus) (index : Nat) (steps : List Step) :
    steps.mapIdx (fun i step => (⟨index + i, step.label, status, none⟩ : StepReport)) =
      reportsFrom [status] index steps := by
  induction steps generalizing index with
  | nil => rfl
  | cons step rest ih =>
      rw [List.mapIdx_cons, reportsFrom, ← ih]
      simp only [List.map_cons, List.map_nil, List.singleton_append, Nat.add_zero]
      congr 2
      funext i step
      congr 1
      omega

theorem Plan.announcements_eq (plan : Plan) :
    plan.announcements = reportsFrom [.pending] 0 plan.steps := by
  rw [← mapIdx_report_eq_reportsFrom, Plan.announcements]
  simp only [Nat.zero_add]

/-- Carries out steps in order, up to the first failure. -/
def Step.applyAll (ops : Operations σ) : List Step → Action σ Unit
  | [] => pure ()
  | step :: rest => do
    step.apply ops
    applyAll ops rest

@[simp] theorem Step.perform_applyAll_nil (ops : Operations σ) (s : σ) :
    (Step.applyAll ops []).perform s = (.ok (), s) := rfl

theorem Step.perform_applyAll_cons (ops : Operations σ) (step : Step) (rest : List Step) (s : σ) :
    (Step.applyAll ops (step :: rest)).perform s =
      match (step.apply ops).perform s with
      | (.ok (), t) => (Step.applyAll ops rest).perform t
      | (.error failure, t) => (.error failure, t) := by
  rw [Step.applyAll, Action.perform_bind]
  cases (step.apply ops).perform s with
  | mk r t => cases r <;> rfl

theorem Step.perform_applyAll_cons_of_ok {ops : Operations σ} {step : Step} {s t : σ}
    (h : (step.apply ops).perform s = (.ok (), t)) (rest : List Step) :
    (Step.applyAll ops (step :: rest)).perform s = (Step.applyAll ops rest).perform t := by
  rw [perform_applyAll_cons, h]

/-- Steps succeed when the first does and the rest do after it. -/
theorem Step.exists_of_applyAll_cons {ops : Operations σ} {step : Step} {rest : List Step} {s t : σ}
    (h : (Step.applyAll ops (step :: rest)).perform s = (.ok (), t)) :
    ∃ u, (step.apply ops).perform s = (.ok (), u) ∧
      (Step.applyAll ops rest).perform u = (.ok (), t) := by
  rw [perform_applyAll_cons] at h
  cases hstep : (step.apply ops).perform s with
  | mk result u =>
      rw [hstep] at h
      cases result with
      | error failure => cases h
      | ok _ => exact ⟨u, rfl, h⟩

theorem Step.perform_applyAll_append {ops : Operations σ} {first : List Step} {s t : σ}
    (h : (Step.applyAll ops first).perform s = (.ok (), t)) (rest : List Step) :
    (Step.applyAll ops (first ++ rest)).perform s = (Step.applyAll ops rest).perform t := by
  induction first generalizing s with
  | nil =>
      obtain rfl : s = t := congrArg Prod.snd h
      rfl
  | cons step first ih =>
      obtain ⟨u, hstep, hrest⟩ := exists_of_applyAll_cons h
      rw [List.cons_append, perform_applyAll_cons_of_ok hstep]
      exact ih hrest

/-- Either all steps succeed, or there is a first one that fails. -/
theorem Step.applyAll_ok_or_first_failure (ops : Operations σ) (steps : List Step) (s : σ) :
    (∃ t, (Step.applyAll ops steps).perform s = (.ok (), t)) ∨
      ∃ done step rest t failure u, steps = done ++ step :: rest ∧
        (Step.applyAll ops done).perform s = (.ok (), t) ∧
        (step.apply ops).perform t = (.error failure, u) := by
  induction steps generalizing s with
  | nil => exact .inl ⟨s, rfl⟩
  | cons step rest ih =>
      cases h : (step.apply ops).perform s with
      | mk r t =>
        cases r with
        | error failure => exact .inr ⟨[], step, rest, s, failure, t, rfl, rfl, h⟩
        | ok _ =>
          rcases ih t with ⟨u, hu⟩ | ⟨done, next, rest', t', failure, u, hrest, hdone, hnext⟩
          · exact .inl ⟨u, by rw [perform_applyAll_cons, h]; exact hu⟩
          · refine .inr ⟨step :: done, next, rest', t', failure, u, ?_, ?_, hnext⟩
            · rw [hrest, List.cons_append]
            · rw [perform_applyAll_cons, h]
              exact hdone

theorem runSteps_cons_of_ok (ops : Operations σ) (index : Nat) {step : Step}
    (rest : List Step) {s u : σ} (h : (step.apply ops).perform s = (.ok (), u)) :
    runSteps ops index (step :: rest) s =
      ((runSteps ops (index + 1) rest u).afterSuccess ⟨index, step.label, .succeeded, none⟩).after
        ⟨index, step.label, .running, none⟩ := by
  rw [runSteps, h]

theorem runSteps_cons_of_error (ops : Operations σ) (index : Nat) {step : Step}
    (rest : List Step) {s u : σ} {failure : Failure}
    (h : (step.apply ops).perform s = (.error failure, u)) :
    runSteps ops index (step :: rest) s =
      (failedCourse ops index step failure u).after ⟨index, step.label, .running, none⟩ := by
  rw [runSteps, h]

/-- Steps that succeed are reported as running and as succeeded, and the run goes on after
them. -/
theorem runSteps_append (ops : Operations σ) (index : Nat) {done : List Step}
    (rest : List Step) {s t : σ}
    (h : (Step.applyAll ops done).perform s = (.ok (), t)) :
    runSteps ops index (done ++ rest) s =
      { reports := reportsFrom [.running, .succeeded] index done ++
          (runSteps ops (index + done.length) rest t).reports
        outcome := (runSteps ops (index + done.length) rest t).outcome.map
          (reportsFrom [.succeeded] index done ++ ·)
        state := (runSteps ops (index + done.length) rest t).state } := by
  induction done generalizing index s with
  | nil =>
      obtain rfl : s = t := congrArg Prod.snd h
      cases hrun : runSteps ops index rest s with
      | mk reports outcome state => cases outcome <;> simp [hrun, Except.map]
  | cons step done ih =>
      obtain ⟨u, hstep, hdone⟩ := Step.exists_of_applyAll_cons h
      have hlength : index + (step :: done).length = index + 1 + done.length := by
        rw [List.length_cons]
        omega
      rw [List.cons_append, runSteps_cons_of_ok ops index _ hstep, ih (index + 1) hdone, hlength]
      cases hrun : runSteps ops (index + 1 + done.length) rest t with
      | mk reports outcome state =>
        cases outcome <;>
          simp [Course.after, Course.afterSuccess, reportsFrom, Except.map]

theorem runSteps_of_ok (ops : Operations σ) (index : Nat) {steps : List Step} {s t : σ}
    (h : (Step.applyAll ops steps).perform s = (.ok (), t)) :
    runSteps ops index steps s =
      ⟨reportsFrom [.running, .succeeded] index steps,
        .ok (reportsFrom [.succeeded] index steps), t⟩ := by
  have hrun := runSteps_append ops index [] h
  rw [List.append_nil] at hrun
  rw [hrun]
  simp [runSteps, Except.map]

/-- Steps that are carried out are not announced any more. -/
theorem ne_pending_of_mem_runSteps (ops : Operations σ) (index : Nat) (steps : List Step) (s : σ) :
    ∀ r ∈ (runSteps ops index steps s).reports, r.status ≠ .pending := by
  induction steps generalizing index s with
  | nil => exact fun r hr => by cases hr
  | cons step rest ih =>
      cases hstep : (step.apply ops).perform s with
      | mk result t =>
          cases result with
          | ok _ =>
              rw [runSteps_cons_of_ok ops index rest hstep]
              exact List.forall_mem_cons.2 ⟨by simp, List.forall_mem_cons.2 ⟨by simp, ih _ t⟩⟩
          | error failure =>
              rw [runSteps_cons_of_error ops index rest hstep]
              cases failure with
              | fault f => simp [failedCourse, Course.after]
              | scaffold e => simp [failedCourse, Course.after]

/-- A call of one of the operations that a run needs from outside. -/
inductive Call where
  | runCommand (command : List String)
  | ensureDirectory (path : String)
  | writeFile (path content : String)
  | readJson (path : String)
  | writeJson (path : String) (members : Members)

/-- The action with a call recorded beside its state. -/
def Action.recorded {α : Type} (call : Call) (a : Action σ α) : Action (σ × List Call) α :=
  ExceptT.mk fun s => ((a.perform s.1).1, (a.perform s.1).2, s.2 ++ [call])

@[simp] theorem Action.perform_recorded {α : Type} (call : Call) (a : Action σ α) (s : σ)
    (calls : List Call) :
    (a.recorded call).perform (s, calls) =
      ((a.perform s).1, (a.perform s).2, calls ++ [call]) := rfl

/-- The same operations with every call recorded, whatever comes of it. -/
def Operations.recorded (ops : Operations σ) : Operations (σ × List Call) where
  runCommand command := (ops.runCommand command).recorded (.runCommand command)
  ensureDirectory path := (ops.ensureDirectory path).recorded (.ensureDirectory path)
  writeFile path content := (ops.writeFile path content).recorded (.writeFile path content)
  readJson path := (ops.readJson path).recorded (.readJson path)
  writeJson path members := (ops.writeJson path members).recorded (.writeJson path members)
  remark text s := (ops.remark text s.1, s.2)

/-- Whether a call belongs to a step. -/
def Step.Owns : Step → Call → Prop
  | .ensureDirectory path, .ensureDirectory p => p = path
  | .installDependencies manager packages _, .runCommand command =>
    ∃ dev, packageNames packages dev ≠ [] ∧
      command = manager.commands.addCommand (packageNames packages dev) dev
  | .writeFile path content, .writeFile p c => p = path ∧ c = content
  | .mergeManifestScripts _ manifest, .readJson p => p = manifest
  | .mergeManifestScripts _ manifest, .writeJson p _ => p = manifest
  | _, _ => False

/-- The second action does what the first does and records calls with the property beside it. -/
def Action.RecordedBy {α : Type} (a : Action σ α) (b : Action (σ × List Call) α)
    (P : Call → Prop) : Prop :=
  ∀ s, ∃ log : List Call, (∀ call ∈ log, P call) ∧
    ∀ earlier, b.perform (s, earlier) = ((a.perform s).1, (a.perform s).2, earlier ++ log)

namespace Action

variable {α β : Type} {P : Call → Prop}

theorem recordedBy_pure (x : α) : RecordedBy (pure x : Action σ α) (pure x) P :=
  fun s => ⟨[], by simp, fun earlier => by simp⟩

theorem recordedBy_ofExcept {ε : Type} (f : ε → Failure) (x : Except ε α) :
    RecordedBy (ofExcept f x : Action σ α) (ofExcept f x) P :=
  fun s => ⟨[], by simp, fun earlier => by simp⟩

theorem recordedBy_modify (f : σ → σ) (g : σ × List Call → σ × List Call)
    (h : ∀ s calls, g (s, calls) = (f s, calls)) :
    RecordedBy (modify f : Action σ Unit) (modify g) P :=
  fun s => ⟨[], by simp, fun earlier => by simp [h]⟩

theorem recordedBy_recorded (a : Action σ α) {call : Call} (h : P call) :
    RecordedBy a (a.recorded call) P :=
  fun s => ⟨[call], by simpa using h, fun earlier => a.perform_recorded call s earlier⟩

theorem recordedBy_bind {a : Action σ α} {b : Action (σ × List Call) α} {f : α → Action σ β}
    {g : α → Action (σ × List Call) β} (h : RecordedBy a b P)
    (hf : ∀ x, RecordedBy (f x) (g x) P) : RecordedBy (a >>= f) (b >>= g) P := by
  intro s
  obtain ⟨log, hlog, hb⟩ := h s
  cases ha : a.perform s with
  | mk r t =>
    cases r with
    | error failure =>
      refine ⟨log, hlog, fun earlier => ?_⟩
      rw [perform_bind, perform_bind, hb, ha]
    | ok x =>
      obtain ⟨more, hmore, hg⟩ := hf x t
      refine ⟨log ++ more, ?_, fun earlier => ?_⟩
      · intro call hcall
        rcases List.mem_append.1 hcall with hcall | hcall
        · exact hlog call hcall
        · exact hmore call hcall
      · rw [perform_bind, perform_bind, hb, ha]
        simp only [hg, List.append_assoc]

end Action

theorem installSort_recordedBy (ops : Operations σ) (manager : PackageManager)
    (packages : List Dependency) (dev : Bool) (description : String) :
    (installSort ops manager packages dev).RecordedBy
      (installSort ops.recorded manager packages dev)
      (Step.installDependencies manager packages description).Owns := by
  unfold installSort
  by_cases h : (packageNames packages dev).isEmpty
  · simp only [h, if_true]
    exact Action.recordedBy_pure ()
  · simp only [h, if_false, Bool.false_eq_true]
    have hnames : packageNames packages dev ≠ [] := fun he => h (List.isEmpty_iff.2 he)
    exact Action.recordedBy_bind (Action.recordedBy_modify _ _ fun _ _ => rfl)
      fun _ => Action.recordedBy_recorded _ ⟨dev, hnames, rfl⟩

/-- A step does the same whether its calls are recorded or not, and all of them are its own. -/
theorem Step.apply_recordedBy (ops : Operations σ) (step : Step) :
    (step.apply ops).RecordedBy (step.apply ops.recorded) step.Owns := by
  cases step with
  | ensureDirectory path => exact Action.recordedBy_recorded _ rfl
  | writeFile path content => exact Action.recordedBy_recorded _ ⟨rfl, rfl⟩
  | installDependencies manager packages description =>
    exact Action.recordedBy_bind (installSort_recordedBy ops manager packages false description)
      fun _ => installSort_recordedBy ops manager packages true description
  | mergeManifestScripts entries manifest =>
    refine Action.recordedBy_bind (Action.recordedBy_recorded _ rfl) fun members => ?_
    exact Action.recordedBy_bind (Action.recordedBy_ofExcept _ _)
      fun merged => Action.recordedBy_recorded _ rfl

/-- The calls of steps that succeed, step by step. -/
theorem Step.perform_applyAll_recorded (ops : Operations σ) {steps : List Step} {s t : σ}
    (h : (Step.applyAll ops steps).perform s = (.ok (), t)) :
    ∃ logs, List.Forall₂ (fun step log => ∀ call ∈ log, Step.Owns step call) steps logs ∧
      ∀ earlier, (Step.applyAll ops.recorded steps).perform (s, earlier) =
        (.ok (), t, earlier ++ logs.flatten) := by
  induction steps generalizing s with
  | nil =>
      obtain rfl : s = t := congrArg Prod.snd h
      exact ⟨[], .nil, fun earlier => by simp⟩
  | cons step rest ih =>
      obtain ⟨log, hlog, hstep⟩ := step.apply_recordedBy ops s
      obtain ⟨u, hs, h⟩ := exists_of_applyAll_cons h
      obtain ⟨logs, hlogs, hrest⟩ := ih h
      refine ⟨log :: logs, .cons hlog hlogs, fun earlier => ?_⟩
      rw [perform_applyAll_cons, hstep, hs]
      simp only [hrest, List.flatten_cons, List.append_assoc]

/-- The course of a run. Either all steps succeed, or the first that fails ends the run. In both
cases `reached` are the steps that were begun, and the calls that were made are those of these
steps, step by step. -/
theorem Plan.run_course (ops : Operations σ) (plan : Plan) (s : σ) :
    let course := plan.run ops s
    let recorded := plan.run ops.recorded (s, [])
    recorded.reports = course.reports ∧ recorded.outcome = course.outcome ∧
    recorded.state.1 = course.state ∧
    ∃ reached, (∃ logs,
        List.Forall₂ (fun step log => ∀ call ∈ log, Step.Owns step call) reached logs ∧
        recorded.state.2 = logs.flatten) ∧
      ((reached = plan.steps ∧
          (Step.applyAll ops plan.steps).perform s = (.ok (), course.state) ∧
          course.reports = reportsFrom [.pending] 0 plan.steps ++
            reportsFrom [.running, .succeeded] 0 plan.steps ∧
          course.outcome = .ok (reportsFrom [.succeeded] 0 plan.steps)) ∨
        ∃ done step rest t failure u,
          plan.steps = done ++ step :: rest ∧ reached = done ++ [step] ∧
          (Step.applyAll ops done).perform s = (.ok (), t) ∧
          (step.apply ops).perform t = (.error failure, u) ∧
          match failure with
          | .scaffold e =>
            course.reports = reportsFrom [.pending] 0 plan.steps ++
              reportsFrom [.running, .succeeded] 0 done ++
              [⟨done.length, step.label, .running, none⟩,
                ⟨done.length, step.label, .failed, some e.message⟩] ∧
            course.outcome = .error (.scaffold (.step done.length step e)) ∧
            ∃ text, course.state = ops.remark text u
          | .fault f =>
            course.reports = reportsFrom [.pending] 0 plan.steps ++
              reportsFrom [.running, .succeeded] 0 done ++
              [⟨done.length, step.label, .running, none⟩] ∧
            course.outcome = .error (.fault f) ∧ course.state = u) := by
  simp only [Plan.run, Plan.announcements_eq]
  rcases Step.applyAll_ok_or_first_failure ops plan.steps s with
    ⟨t, hall⟩ | ⟨done, step, rest, t, failure, u, hsteps, hdone, hstep⟩
  · obtain ⟨logs, hlogs, hrecorded⟩ := Step.perform_applyAll_recorded ops hall
    rw [runSteps_of_ok ops 0 hall, runSteps_of_ok ops.recorded 0 (hrecorded [])]
    exact ⟨rfl, rfl, rfl, plan.steps, ⟨logs, hlogs, rfl⟩, .inl ⟨rfl, hall, rfl, rfl⟩⟩
  · obtain ⟨logs, hlogs, hrecorded⟩ := Step.perform_applyAll_recorded ops hdone
    obtain ⟨log, hlog, hfailed⟩ := step.apply_recordedBy ops t
    have hfailed := hfailed logs.flatten
    rw [hstep] at hfailed
    have hreached : List.Forall₂ (fun step log => ∀ call ∈ log, Step.Owns step call)
        (done ++ [step]) (logs ++ [log]) :=
      List.rel_append hlogs (.cons hlog .nil)
    rw [hsteps, runSteps_append ops 0 _ hdone, runSteps_append ops.recorded 0 _ (hrecorded []),
      runSteps_cons_of_error ops _ rest hstep, List.nil_append,
      runSteps_cons_of_error ops.recorded _ rest hfailed]
    cases failure with
    | scaffold e =>
      refine ⟨rfl, rfl, rfl, done ++ [step], ⟨logs ++ [log], hreached, by
        simp [failedCourse, Course.after, Operations.recorded]⟩, .inr
        ⟨done, step, rest, t, .scaffold e, u, rfl, rfl, hdone, hstep, ?_, ?_, ?_⟩⟩
      · simp [failedCourse, Course.after]
      · simp [failedCourse, Course.after, Except.map]
      · exact ⟨_, rfl⟩
    | fault f =>
      refine ⟨rfl, rfl, rfl, done ++ [step], ⟨logs ++ [log], hreached, by
        simp [failedCourse, Course.after]⟩, .inr
        ⟨done, step, rest, t, .fault f, u, rfl, rfl, hdone, hstep, ?_, ?_, rfl⟩⟩
      · simp [failedCourse, Course.after]
      · simp [failedCourse, Course.after, Except.map]

end ReactScaffold
