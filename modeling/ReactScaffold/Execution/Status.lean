import ReactScaffold.Project.Axis

/-!
# Status of steps

A step waits, runs, and ends in one of two ways. Each change of status is a report on the step.
-/

namespace ReactScaffold

/-- How far a step has come. -/
inductive StepStatus where
  | pending
  | running
  | succeeded
  | failed
deriving DecidableEq, Repr

instance : Axis StepStatus where
  name := "StepStatus"
  all := [.pending, .running, .succeeded, .failed]
  value
    | .pending => "pending"
    | .running => "running"
    | .succeeded => "succeeded"
    | .failed => "failed"

/-- The status of one step of a plan at some time. -/
structure StepReport where
  index : Nat
  label : String
  status : StepStatus
  error : Option String := none
deriving DecidableEq, Repr

/-- The line that tells how many steps have succeeded. -/
def summaryText (reports : List StepReport) : String :=
  let succeeded := reports.countP fun r => r.status = .succeeded
  "  [green]+[/green] " ++ toString succeeded ++ "/" ++ toString reports.length ++
    " steps completed"

end ReactScaffold
