import CloudScaffold.Provision.Stage
/-!
# Reports

How a process ends, what is known of the stage that it ran, and the events of a whole operation. An
operation is done well when every one of its stages has a result and every result is good.

`StageResult`, `Event` and `Report` are TerraForge's `RunResult`, `StageEvent` and `RunReport`.
-/
namespace CloudScaffold.Provision

/-- How a process ends. -/
inductive Outcome where
  | exited (code : Int) (stdout stderr : String)
  /-- The process could not be started. -/
  | notStarted (text : String)
  | timedOut
  deriving DecidableEq, Repr

/-- What is known of a stage that ran. -/
structure StageResult where
  ok : Bool
  stdout : String := ""
  stderr : String := ""
  exitCode : Int := 0
  stage : String
  deriving DecidableEq, Repr

inductive Status where
  | started
  | succeeded
  | failed
  deriving DecidableEq, Repr

def Status.name : Status → String
  | started => "started"
  | succeeded => "succeeded"
  | failed => "failed"

/-- A step in the life of a stage. -/
structure Event where
  stage : Stage
  status : Status
  result : Option StageResult := none
  deriving DecidableEq, Repr

/-- The events of an operation, and those that its listener heard. -/
structure Report where
  environment : String
  operation : Operation
  events : List Event
  heard : List Event
  deriving DecidableEq, Repr

namespace Report

/-- The results of the stages that ran. -/
def results (r : Report) : List StageResult := r.events.filterMap (·.result)

/-- Whether every stage of the operation ran and succeeded. -/
def ok (r : Report) : Bool :=
  !r.results.isEmpty && r.results.all (·.ok) && r.results.length == r.operation.stages.length

end Report

end CloudScaffold.Provision
