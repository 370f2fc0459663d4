import ReactScaffold.Execution.Status

/-!
# Progress display

The display adds a task for each step that is announced. A task is hidden until its step starts, and
its description changes when the step ends. A report on a step that was not announced has no task
to go to, and the display fails.
-/

namespace ReactScaffold

/-- What the display shows for one step. -/
structure ProgressTask where
  description : String
  visible : Bool := false
  completed : Nat := 0
  started : Bool := false
deriving DecidableEq, Repr

/-- The tasks of a display in the order in which they were added, each with the index of its
step. -/
abbrev Progress := List (Nat × ProgressTask)

namespace Progress

/-- The task of a step, the one that was added last if there are several. -/
def task? (p : Progress) (index : Nat) : Option ProgressTask :=
  match p with
  | [] => none
  | (i, task) :: rest => (task? rest index).or (if i = index then some task else none)

/-- Changes the task of a step, the one that was added last if there are several. -/
def update (p : Progress) (index : Nat) (f : ProgressTask → ProgressTask) : Option Progress :=
  match p with
  | [] => none
  | (i, task) :: rest =>
    match update rest index f with
    | some rest => some ((i, task) :: rest)
    | none => if i = index then some ((i, f task) :: rest) else none

/-- The display after a report on a step. -/
def observe (p : Progress) (r : StepReport) : Option Progress :=
  match r.status with
  | .pending => some (p ++ [(r.index, { description := r.label })])
  | .running => p.update r.index fun t => { t with started := true, visible := true }
  | .succeeded =>
    p.update r.index fun t =>
      { t with completed := 1, description := "[green]+[/green] " ++ r.label }
  | .failed =>
    p.update r.index fun t => { t with completed := 1, description := "[red]x[/red] " ++ r.label }

/-- Each report with the task of its step after it, up to the one at which the display fails. -/
def follow (p : Progress) : List StepReport → List (StepReport × Option ProgressTask)
  | [] => []
  | r :: rest =>
    match p.observe r with
    | some p => (r, p.task? r.index) :: follow p rest
    | none => [(r, none)]

end Progress

end ReactScaffold
