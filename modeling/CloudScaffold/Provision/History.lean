import CloudScaffold.Provision.World
/-!
# Histories

What there is to see of a runner, in order of time. A deed is an action that was performed. Its
moments are the events that its listener was told and the jobs that it started. A job is a process
of the terraform binary; it holds the deeds that were done while it ran.
-/
namespace CloudScaffold.Provision

/-- Why an action fails. -/
inductive RunError where
  | busy (environment : String)
  | unknownStage (name : String)
  | file (fault : FileFault)
  /-- The listener of events failed. -/
  | listener
  /-- An environment to be freed that nobody has taken. -/
  | notTaken (environment : String)
  /-- An environment that was freed while its operation ran. -/
  | lost (environment : String)
  deriving DecidableEq, Repr

def RunError.message : RunError → String
  | busy e => s!"A provisioning run is already in progress for '{e}'"
  | unknownStage s => s!"Unknown terraform stage '{s}'"
  | file f => f.message
  | listener => "The listener failed"
  | notTaken e => Text.literal e
  | lost e => s!"The environment '{e}' was freed by another"

/-- What an action gives. -/
inductive Reply where
  | report (r : Report)
  | result (r : StageResult)
  | busy (b : Bool)
  | acquired
  | released
  deriving DecidableEq, Repr

abbrev Answer := Except RunError Reply

mutual

/-- A process that was started: its command, its time limit in seconds, the directory that it ran in
with the files that it found there, how it ended, and what was done while it ran. -/
structure Job where
  stage : Stage
  argv : List String
  timeout : Int
  dir : Nat
  files : Directory
  outcome : Outcome
  during : List Deed

/-- A moment of an action, with the world at that moment. -/
inductive Moment where
  | told (world : World) (event : Event)
  | ran (world : World) (job : Job)

/-- An action that was performed. -/
structure Deed where
  action : Action
  before : World
  answer : Answer
  moments : List Moment
  after : World

end

mutual

/-- A job, followed by those of the deeds done while it ran. -/
def Job.all : Job → List Job
  | ⟨stage, argv, timeout, dir, files, outcome, during⟩ =>
    ⟨stage, argv, timeout, dir, files, outcome, during⟩ :: jobsOf during

def Moment.jobs : Moment → List Job
  | .told _ _ => []
  | .ran _ job => job.all

def Deed.jobs : Deed → List Job
  | ⟨_, _, _, moments, _⟩ => jobs moments

/-- All jobs, in the order in which they were started. -/
def jobs : List Moment → List Job
  | [] => []
  | m :: ms => m.jobs ++ jobs ms

def jobsOf : List Deed → List Job
  | [] => []
  | d :: ds => d.jobs ++ jobsOf ds

end

/-- What a computation gives, its moments, and the world after it. -/
structure Done (α : Type) where
  value : α
  moments : List Moment
  world : World

/-- The deed that an action was in a world. -/
def Done.deed (d : Done Answer) (a : Action) (w : World) : Deed :=
  { action := a, before := w, answer := d.value, moments := d.moments, after := d.world }

end CloudScaffold.Provision
