import ReactScaffold.Execution.Progress
import ReactScaffold.Proofs.Execution.Course

/-!
# The display of a run

The reports of a run move the steps of the plan from status to status: a step is announced, started
and ended, each once at most and in this order. A display that observes such reports never meets
one on a step it does not know, and shows for each step what its last status asks for. So does the
display of a run, however the run ends and wherever it is looked at.
-/

namespace ReactScaffold

variable {σ : Type}

/-! ## Statuses -/

/-- The task that the display has for a step, given the label and the status of the step. -/
def StepStatus.task (label : String) : StepStatus → ProgressTask
  | .pending => ⟨label, false, 0, false⟩
  | .running => ⟨label, true, 0, true⟩
  | .succeeded => ⟨"[green]+[/green] " ++ label, true, 1, true⟩
  | .failed => ⟨"[red]x[/red] " ++ label, true, 1, true⟩

/-- The status of a step by the last of the reports on it. -/
def latestStatus? : List StepReport → Nat → Option StepStatus
  | [], _ => none
  | r :: rest, index =>
    (latestStatus? rest index).or (if r.index = index then some r.status else none)

namespace Plan

/-- The label of the step with the index. -/
def labelAt (plan : Plan) (index : Nat) : String := (plan.steps[index]?.map Step.label).getD ""

theorem labelAt_eq {plan : Plan} {index : Nat} {step : Step}
    (h : plan.steps[index]? = some step) : plan.labelAt index = step.label := by
  rw [labelAt, h]
  rfl

/-- What a report does to the statuses of the steps that are announced: it announces the next step,
starts one that waits or ends one that runs. -/
inductive Move (plan : Plan) : List StepStatus → StepReport → List StepStatus → Prop where
  | announce {statuses : List StepStatus} {step : Step}
      (hstep : plan.steps[statuses.length]? = some step) :
      Move plan statuses ⟨statuses.length, step.label, .pending, none⟩ (statuses ++ [.pending])
  | start {statuses : List StepStatus} {index : Nat} {step : Step}
      (hstep : plan.steps[index]? = some step) (hstatus : statuses[index]? = some .pending) :
      Move plan statuses ⟨index, step.label, .running, none⟩ (statuses.set index .running)
  | finish {statuses : List StepStatus} {index : Nat} {step : Step} {status : StepStatus}
      {error : Option String} (hstep : plan.steps[index]? = some step)
      (hstatus : statuses[index]? = some .running)
      (hends : status = .succeeded ∨ status = .failed) :
      Move plan statuses ⟨index, step.label, status, error⟩ (statuses.set index status)

/-- What reports do to the statuses, one after the other. -/
inductive Moves (plan : Plan) : List StepStatus → List StepReport → List StepStatus → Prop where
  | nil {statuses : List StepStatus} : Moves plan statuses [] statuses
  | cons {before between after : List StepStatus} {r : StepReport} {rest : List StepReport}
      (first : Move plan before r between) (more : Moves plan between rest after) :
      Moves plan before (r :: rest) after

variable {plan : Plan} {before after : List StepStatus} {r : StepReport} {reports : List StepReport}

theorem Moves.append {between : List StepStatus} {more : List StepReport}
    (h : plan.Moves before reports between) (h' : plan.Moves between more after) :
    plan.Moves before (reports ++ more) after := by
  induction h with
  | nil => exact h'
  | cons first _ ih => exact .cons first (ih h')

theorem Moves.take (h : plan.Moves before reports after) (n : Nat) :
    ∃ between, plan.Moves before (reports.take n) between := by
  induction h generalizing n with
  | nil => exact ⟨_, by rw [List.take_nil]; exact .nil⟩
  | cons first _ ih =>
      cases n with
      | zero => exact ⟨_, .nil⟩
      | succ n =>
          obtain ⟨between, hmore⟩ := ih n
          exact ⟨between, .cons first hmore⟩

/-- As many steps are announced as there are reports that announce one. -/
theorem Moves.length_eq (h : plan.Moves before reports after) :
    after.length = before.length + reports.countP fun r => r.status = .pending := by
  induction h with
  | nil => rfl
  | cons first _ ih =>
      rw [ih, List.countP_cons]
      cases first with
      | announce hstep => simp; omega
      | start hstep hstatus => simp
      | finish hstep hstatus hends => rcases hends with rfl | rfl <;> simp

theorem Move.getElem?_eq (h : plan.Move before r after) (index : Nat) :
    after[index]? = (if r.index = index then some r.status else none).or before[index]? := by
  cases h with
  | announce hstep =>
      rw [List.getElem?_append]
      rcases Nat.lt_trichotomy index before.length with hlt | rfl | hgt
      · simp [hlt, hlt.ne']
      · simp
      · obtain ⟨k, rfl⟩ := Nat.exists_eq_add_of_lt hgt
        simp [Nat.add_assoc]
  | start hstep hstatus =>
      have hlt := (List.getElem?_eq_some_iff.1 hstatus).1
      rw [List.getElem?_set]
      split_ifs <;> simp
  | finish hstep hstatus hends =>
      have hlt := (List.getElem?_eq_some_iff.1 hstatus).1
      rw [List.getElem?_set]
      split_ifs <;> simp

/-- The statuses are those that the last reports give. -/
theorem Moves.getElem?_eq (h : plan.Moves before reports after) (index : Nat) :
    after[index]? = (latestStatus? reports index).or before[index]? := by
  induction h with
  | nil => rfl
  | cons first _ ih => rw [ih, first.getElem?_eq, latestStatus?, Option.or_assoc]

end Plan

/-! ## Boards -/

namespace Plan

variable {plan : Plan} {before after : List StepStatus} {r : StepReport} {reports : List StepReport}

/-- The tasks of steps with the given statuses, the first of which has the given index. -/
def boardFrom (plan : Plan) (index : Nat) : List StepStatus → Progress
  | [] => []
  | status :: rest => (index, status.task (plan.labelAt index)) :: boardFrom plan (index + 1) rest

theorem boardFrom_concat (index : Nat) (statuses : List StepStatus) (status : StepStatus) :
    plan.boardFrom index (statuses ++ [status]) = plan.boardFrom index statuses ++
      [(index + statuses.length, status.task (plan.labelAt (index + statuses.length)))] := by
  induction statuses generalizing index with
  | nil => rfl
  | cons first rest ih =>
      have hlength : index + (first :: rest).length = index + 1 + rest.length := by
        rw [List.length_cons]
        omega
      rw [List.cons_append, boardFrom, boardFrom, ih, hlength, List.cons_append]

theorem map_fst_boardFrom (index : Nat) (statuses : List StepStatus) :
    (plan.boardFrom index statuses).map Prod.fst = List.range' index statuses.length := by
  induction statuses generalizing index with
  | nil => rfl
  | cons first rest ih => rw [boardFrom, List.map_cons, ih, List.length_cons, List.range'_succ]

theorem task?_boardFrom_of_lt {index first : Nat} (h : index < first)
    (statuses : List StepStatus) : (plan.boardFrom first statuses).task? index = none := by
  induction statuses generalizing first with
  | nil => rfl
  | cons status rest ih =>
      rw [boardFrom, Progress.task?, ih (by omega), if_neg h.ne']
      rfl

/-- A board has for a step the task of its status. -/
theorem task?_boardFrom (plan : Plan) (first : Nat) (statuses : List StepStatus) (offset : Nat) :
    (plan.boardFrom first statuses).task? (first + offset) =
      statuses[offset]?.map (StepStatus.task (plan.labelAt (first + offset))) := by
  induction statuses generalizing first offset with
  | nil => rfl
  | cons status rest ih =>
      rw [boardFrom, Progress.task?]
      cases offset with
      | zero =>
          have hbefore : first + 0 < first + 1 := by omega
          rw [task?_boardFrom_of_lt hbefore, if_pos (Nat.add_zero first).symm]
          rfl
      | succ offset =>
          have hoffset : first + (offset + 1) = first + 1 + offset := by omega
          rw [hoffset, ih, if_neg (by omega), Option.or_none]
          rfl

theorem update_boardFrom_of_lt {index first : Nat} (h : index < first)
    (statuses : List StepStatus) (f : ProgressTask → ProgressTask) :
    (plan.boardFrom first statuses).update index f = none := by
  induction statuses generalizing first with
  | nil => rfl
  | cons status rest ih =>
      rw [boardFrom, Progress.update, ih (by omega)]
      exact if_neg h.ne'

/-- Changing the task of a step from one status to another changes the status on the board. -/
theorem update_boardFrom (plan : Plan) (first : Nat) {offset : Nat} {statuses : List StepStatus}
    {old : StepStatus} (new : StepStatus) (f : ProgressTask → ProgressTask)
    (hold : statuses[offset]? = some old)
    (hf : f (old.task (plan.labelAt (first + offset))) =
      new.task (plan.labelAt (first + offset))) :
    (plan.boardFrom first statuses).update (first + offset) f =
      some (plan.boardFrom first (statuses.set offset new)) := by
  induction statuses generalizing first offset with
  | nil => cases hold
  | cons status rest ih =>
      rw [boardFrom, Progress.update]
      cases offset with
      | zero =>
          obtain rfl := Option.some.inj hold
          rw [update_boardFrom_of_lt (show first + 0 < first + 1 by omega)]
          dsimp only
          rw [if_pos (Nat.add_zero first).symm]
          exact congrArg (fun task => some ((first, task) :: _)) hf
      | succ offset =>
          have hoffset : first + (offset + 1) = first + 1 + offset := by omega
          rw [hoffset] at hf ⊢
          rw [ih _ hold hf]
          rfl

/-- A report that moves the statuses moves the board. -/
theorem Move.observe (h : plan.Move before r after) :
    (plan.boardFrom 0 before).observe r = some (plan.boardFrom 0 after) := by
  cases h with
  | announce hstep =>
      rw [boardFrom_concat, Nat.zero_add, labelAt_eq hstep]
      rfl
  | @start index step hstep hstatus =>
      have hupdate := plan.update_boardFrom 0 .running
        (fun t => { t with started := true, visible := true }) hstatus rfl
      rwa [Nat.zero_add] at hupdate
  | @finish index step status error hstep hstatus hends =>
      rcases hends with rfl | rfl
      · have hupdate := plan.update_boardFrom 0 .succeeded
          (fun t => { t with completed := 1, description := "[green]+[/green] " ++ step.label })
          hstatus (by rw [Nat.zero_add, labelAt_eq hstep]; rfl)
        rwa [Nat.zero_add] at hupdate
      · have hupdate := plan.update_boardFrom 0 .failed
          (fun t => { t with completed := 1, description := "[red]x[/red] " ++ step.label })
          hstatus (by rw [Nat.zero_add, labelAt_eq hstep]; rfl)
        rwa [Nat.zero_add] at hupdate

end Plan

/-- The display after reports, if it does not fail at one of them. -/
def Progress.observeAll (p : Progress) (reports : List StepReport) : Option Progress :=
  reports.foldlM Progress.observe p

namespace Plan

variable {plan : Plan} {before after : List StepStatus} {r : StepReport} {reports : List StepReport}

theorem Moves.observeAll (h : plan.Moves before reports after) :
    (plan.boardFrom 0 before).observeAll reports = some (plan.boardFrom 0 after) := by
  induction h with
  | nil => rfl
  | cons first _ ih =>
      rw [Progress.observeAll, List.foldlM_cons, first.observe]
      exact ih

theorem Move.task?_eq (h : plan.Move before r after) :
    (plan.boardFrom 0 after).task? r.index = some (r.status.task r.label) := by
  have htask := plan.task?_boardFrom 0 after r.index
  rw [Nat.zero_add, h.getElem?_eq, if_pos rfl] at htask
  rw [htask]
  cases h with
  | announce hstep | start hstep _ | finish hstep _ _ =>
      rw [labelAt_eq hstep]
      rfl

theorem Moves.follow (h : plan.Moves before reports after) :
    Progress.follow (plan.boardFrom 0 before) reports =
      reports.map fun r => (r, some (r.status.task r.label)) := by
  induction h with
  | nil => rfl
  | cons first _ ih =>
      rw [Progress.follow, first.observe]
      dsimp only
      rw [first.task?_eq, ih, List.map_cons]

end Plan

/-! ## Runs -/

namespace Plan

variable (ops : Operations σ) {plan : Plan}

theorem moves_announcements {done rest : List Step} (hsteps : plan.steps = done ++ rest) :
    plan.Moves (List.replicate done.length .pending) (reportsFrom [.pending] done.length rest)
      (List.replicate plan.steps.length .pending) := by
  induction rest generalizing done with
  | nil =>
      rw [hsteps, List.append_nil]
      exact .nil
  | cons step rest ih =>
      have hstep : plan.steps[(List.replicate done.length StepStatus.pending).length]? =
          some step := by
        rw [List.length_replicate, hsteps, List.getElem?_append_right le_rfl, Nat.sub_self]
        rfl
      have hrest : plan.steps = done ++ [step] ++ rest := by rw [hsteps, List.append_assoc]; rfl
      have hmore := ih hrest
      rw [List.length_append, List.length_singleton, List.replicate_succ'] at hmore
      have hannounce := Move.announce hstep
      rw [List.length_replicate] at hannounce
      exact .cons hannounce hmore

/-- The statuses when the steps before one have succeeded, and those after it wait. -/
def stage (done : List Step) (status : StepStatus) (rest : List Step) : List StepStatus :=
  List.replicate done.length .succeeded ++ status :: List.replicate rest.length .pending

theorem getElem?_stage (done : List Step) (status : StepStatus) (rest : List Step) :
    (stage done status rest)[done.length]? = some status := by
  simp [stage]

theorem set_stage (done : List Step) (old new : StepStatus) (rest : List Step) :
    (stage done old rest).set done.length new = stage done new rest := by
  simp [stage]

theorem stage_succeeded (done : List Step) (step : Step) (rest : List Step) :
    stage done .succeeded rest = List.replicate (done ++ [step]).length .succeeded ++
      List.replicate rest.length .pending := by
  rw [stage, List.length_append, List.length_singleton, List.replicate_succ', List.append_assoc]
  rfl

/-- The reports of a run on its steps move the statuses, however the run ends. -/
theorem exists_moves_runSteps {done rest : List Step} (hsteps : plan.steps = done ++ rest)
    (s : σ) : ∃ after, plan.Moves
      (List.replicate done.length .succeeded ++ List.replicate rest.length .pending)
      (runSteps ops done.length rest s).reports after := by
  induction rest generalizing done s with
  | nil => exact ⟨_, .nil⟩
  | cons step rest ih =>
      have hstep : plan.steps[done.length]? = some step := by simp [hsteps]
      have hstart := Move.start hstep (getElem?_stage done .pending rest)
      have hfinish (status : StepStatus) (error : Option String)
          (hends : status = .succeeded ∨ status = .failed) :
          plan.Move (stage done .running rest) ⟨done.length, step.label, status, error⟩
            ((stage done .running rest).set done.length status) :=
        .finish hstep (getElem?_stage done .running rest) hends
      simp only [set_stage] at hstart hfinish
      cases happly : (step.apply ops).perform s with
      | mk result t =>
          cases result with
          | ok _ =>
              have hrest : plan.steps = done ++ [step] ++ rest := by
                rw [hsteps, List.append_assoc]
                rfl
              obtain ⟨after, hmore⟩ := ih hrest t
              rw [← stage_succeeded, List.length_append, List.length_singleton] at hmore
              rw [runSteps_cons_of_ok ops _ rest happly]
              exact ⟨after, .cons hstart (.cons (hfinish _ none (.inl rfl)) hmore)⟩
          | error failure =>
              rw [runSteps_cons_of_error ops _ rest happly]
              cases failure with
              | fault f => exact ⟨_, .cons hstart .nil⟩
              | scaffold e => exact ⟨_, .cons hstart (.cons (hfinish _ _ (.inr rfl)) .nil)⟩

theorem exists_moves_run (plan : Plan) (s : σ) :
    ∃ after, plan.Moves [] (plan.run ops s).reports after := by
  have hsteps : plan.steps = [] ++ plan.steps := rfl
  have hannounce := moves_announcements hsteps
  obtain ⟨after, hrun⟩ := exists_moves_runSteps ops hsteps s
  refine ⟨after, Moves.append ?_ hrun⟩
  rw [announcements_eq]
  exact hannounce

theorem countP_announcements (plan : Plan) (n : Nat) :
    ((plan.announcements.take n).countP fun r => r.status = .pending) =
      min n plan.steps.length := by
  have hall : ∀ r ∈ plan.announcements.take n, (r.status = .pending : Bool) := by
    intro r hr
    obtain ⟨i, hi, rfl⟩ := List.mem_mapIdx.1 (List.mem_of_mem_take hr)
    rfl
  rw [List.countP_eq_length.2 hall, List.length_take, announcements, List.length_mapIdx]

/-- Of the first reports of a run as many announce a step as there are, up to the steps. -/
theorem countP_reports_run (plan : Plan) (s : σ) (n : Nat) :
    (((plan.run ops s).reports.take n).countP fun r => r.status = .pending) =
      min n plan.steps.length := by
  have hnone : (((runSteps ops 0 plan.steps s).reports.take
      (n - plan.announcements.length)).countP fun r => r.status = .pending) = 0 := by
    refine List.countP_eq_zero.2 fun r hr => ?_
    simpa using ne_pending_of_mem_runSteps ops 0 plan.steps s r (List.mem_of_mem_take hr)
  show ((plan.announcements ++ _).take n).countP _ = _
  rw [List.take_append, List.countP_append, countP_announcements, hnone, Nat.add_zero]

end Plan

/-- A display that observes the reports on a plan from the first one on mirrors them: at no report
does it fail, it has one task for each step that has been announced, in their order, and the task of
a step is given by the label and the last status of the step. -/
structure Progress.Mirrors (plan : Plan) (reports : List StepReport) : Prop where
  displays (n : Nat) : ∃ p, Progress.observeAll [] (reports.take n) = some p ∧
    p.map Prod.fst = List.range (min n plan.steps.length) ∧
    ∀ index step, plan.steps[index]? = some step →
      p.task? index = (latestStatus? (reports.take n) index).map (StepStatus.task step.label)
  follows : Progress.follow [] reports =
    reports.map fun r => (r, some (r.status.task r.label))

/-- The display of a run mirrors its reports. -/
theorem Plan.mirrors_run (ops : Operations σ) (plan : Plan) (s : σ) :
    Progress.Mirrors plan (plan.run ops s).reports := by
  obtain ⟨after, hmoves⟩ := exists_moves_run ops plan s
  refine ⟨fun n => ?_, hmoves.follow⟩
  obtain ⟨statuses, hseen⟩ := hmoves.take n
  refine ⟨plan.boardFrom 0 statuses, hseen.observeAll, ?_, fun index step hstep => ?_⟩
  · have hlength := hseen.length_eq
    rw [List.length_nil, Nat.zero_add, countP_reports_run] at hlength
    rw [map_fst_boardFrom, hlength, List.range_eq_range']
  · have htask := plan.task?_boardFrom 0 statuses index
    rw [Nat.zero_add, hseen.getElem?_eq, labelAt_eq hstep, List.getElem?_nil, Option.or_none]
      at htask
    exact htask

end ReactScaffold
