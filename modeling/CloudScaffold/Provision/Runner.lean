import CloudScaffold.Number.Numeral
import CloudScaffold.Provision.History
import CloudScaffold.Settings
/-!
# The runner

The runner runs stages over files in work directories of their own, and operations as sequences of
stages that stop at the first failure. At most one operation runs for an environment at a time, and
only processes that could not be started are tried again.

Actions nest, since others may be performed while a process runs. `perform` is total because every
nested action has used up a step of the script.

The runner is TerraForge's `TerraformRunner`: `execute` is its `_execute`, with `spawn` for the process
that it starts, `operate` its `_run_sequence`, and `runStage` its `run`.
-/
namespace CloudScaffold.Provision

open Number

structure Runner where
  binary : String
  timeout : Int
  /-- How often a process that could not be started is tried again. -/
  retries : Nat
  deriving DecidableEq, Repr

/-- A runner from settings of its own over those of the environment: empty texts and zero times
count as not set. -/
def Runner.configure (s : RunnerSettings) (binary : Option String) (timeout retries : Option Int) :
    Runner where
  binary := (binary.bind nonEmpty?).getD s.binary
  timeout := (timeout.filter (· != 0)).getD s.timeout
  retries := (retries.getD s.retries).toNat

namespace Runner

/-- Performs actions in turn, each as `each` does. -/
def performEach (each : Action → World → Done Answer) : List Action → World → List Deed × World
  | [], w => ([], w)
  | a :: as, w =>
    let d := each a w
    let rest := performEach each as d.world
    (d.deed a w :: rest.1, rest.2)

/-- Starts a process; `nested` performs the actions that its step asks for. -/
def spawn (r : Runner) (nested : Action → World → Done Answer) (stage : Stage)
    (extra : List String) (dir : Nat) (w : World) : Done Outcome :=
  let (step, w) := w.nextStep
  let nested := performEach nested step.during w
  let job : Job :=
    { stage := stage, argv := r.binary :: (stage.arguments ++ extra), timeout := r.timeout
      dir := dir, files := w.filesIn dir, outcome := step.outcome stage, during := nested.1 }
  ⟨job.outcome, [.ran w job], nested.2⟩

/-- The result of a stage whose process came to an end. -/
def resultOf (r : Runner) (stage : Stage) : Outcome → StageResult
  | .exited code out err =>
    { ok := code == 0, stdout := out, stderr := err, exitCode := code, stage := stage.name }
  | .notStarted text => { ok := false, stderr := text, exitCode := -1, stage := stage.name }
  | .timedOut =>
    { ok := false, exitCode := -1, stage := stage.name
      stderr := s!"terraform {stage.name} timed out after {showInt r.timeout}s" }

/-- Whether a process may be tried again. -/
def isRetried : Outcome → Bool
  | .notStarted _ => true
  | _ => false

/-- Runs a stage, with some retries left for processes that cannot be started. -/
def execute (r : Runner) (nested : Action → World → Done Answer) (stage : Stage)
    (extra : List String) (dir : Nat) : Nat → World → Done StageResult
  | 0, w =>
    let d := r.spawn nested stage extra dir w
    ⟨r.resultOf stage d.value, d.moments, d.world⟩
  | left + 1, w =>
    let d := r.spawn nested stage extra dir w
    if isRetried d.value then
      let d' := r.execute nested stage extra dir left d.world
      ⟨d'.value, d.moments ++ d'.moments, d'.world⟩
    else ⟨r.resultOf stage d.value, d.moments, d.world⟩

/-- The events of a sequence so far, and whether its listener has failed. -/
structure Progress where
  events : List Event := []
  heard : List Event := []
  broken : Bool := false

/-- Notes an event and tells the listener. -/
def Progress.emit (p : Progress) (listener : Listener) (e : Event) : Progress :=
  let heard := p.heard ++ [e]
  { events := p.events ++ [e], heard := heard, broken := listener heard }

/-- The event that starts a stage. -/
def starting (stage : Stage) : Event := { stage := stage, status := .started }

/-- The event that ends a stage. -/
def ending (stage : Stage) (result : StageResult) : Event :=
  { stage := stage, status := if result.ok then .succeeded else .failed, result := some result }

/-- Runs stages up to the first that fails, or until the listener fails. -/
def runStages (r : Runner) (nested : Action → World → Done Answer) (op : Operation)
    (listener : Listener) (dir : Nat) : List Stage → Progress → World → Done Progress
  | [], p, w => ⟨p, [], w⟩
  | s :: ss, p, w =>
    let p := p.emit listener (starting s)
    if p.broken then ⟨p, [.told w (starting s)], w⟩
    else
      let d := r.execute nested s (op.extraArguments s) dir r.retries w
      let p := p.emit listener (ending s d.value)
      let moments := .told w (starting s) :: (d.moments ++ [.told d.world (ending s d.value)])
      if p.broken || !d.value.ok then ⟨p, moments, d.world⟩
      else
        let d' := r.runStages nested op listener dir ss p d.world
        ⟨d'.value, moments ++ d'.moments, d'.world⟩

/-- Does something in a directory of its own that holds the given files, and removes it. -/
def inDirectory {α : Type} (w : World) (files : FileList) (act : Nat → World → Done α) :
    Done (Except RunError α) :=
  let (dir, w) := w.makeDir
  match Directory.write [] files with
  | .error e => ⟨.error (.file e), [], w.removeDir dir⟩
  | .ok content =>
    let d := act dir (w.setDir dir content)
    ⟨.ok d.value, d.moments, d.world.removeDir dir⟩

/-- Frees the environment of an operation that has ended. -/
def conclude (environment : String) (d : Done Answer) : Done Answer :=
  if d.world.isBusy environment then { d with world := d.world.free environment }
  else { d with value := .error (.lost environment) }

/-- The answer to an operation. -/
def answerOf (op : Operation) (environment : String) : Except RunError Progress → Answer
  | .error e => .error e
  | .ok p =>
    if p.broken then .error .listener
    else .ok (.report
      { environment := environment, operation := op, events := p.events, heard := p.heard })

/-- Runs the stages of an operation for an environment that is not busy. -/
def operate (r : Runner) (nested : Action → World → Done Answer) (op : Operation)
    (environment : String) (files : FileList) (listener : Listener) (w : World) : Done Answer :=
  if w.isBusy environment then ⟨.error (.busy environment), [], w⟩
  else
    let d := inDirectory (w.take environment) files fun dir w =>
      r.runStages nested op listener dir op.stages {} w
    conclude environment ⟨answerOf op environment d.value, d.moments, d.world⟩

/-- Runs one stage. -/
def runStage (r : Runner) (nested : Action → World → Done Answer) (name : String)
    (files : FileList) (w : World) : Done Answer :=
  match Stage.ofName? name with
  | none => ⟨.error (.unknownStage name), [], w⟩
  | some s =>
    let d := inDirectory w files fun dir w => r.execute nested s [] dir r.retries w
    ⟨d.value.map .result, d.moments, d.world⟩

/-- Performs an action; `nested` performs what happens while its processes run. -/
def performWith (r : Runner) (nested : Action → World → Done Answer) (a : Action) (w : World) :
    Done Answer :=
  match a with
  | .operate op env files listener => r.operate nested op env files listener w
  | .run stage files => r.runStage nested stage files w
  | .isBusy env => ⟨.ok (.busy (w.isBusy env)), [], w⟩
  | .acquire env =>
    if w.isBusy env then ⟨.error (.busy env), [], w⟩ else ⟨.ok .acquired, [], w.take env⟩
  | .release env =>
    if w.isBusy env then ⟨.ok .released, [], w.free env⟩ else ⟨.error (.notTaken env), [], w⟩

/-- Performs an action, with actions nested up to a depth. -/
def performTo (r : Runner) : Nat → Action → World → Done Answer
  | 0 => r.performWith fun _ w => ⟨.ok .released, [], w⟩
  | depth + 1 => r.performWith (r.performTo depth)

/-- Performs an action. A nested action has used up a step, so that steps bound the depth. -/
def perform (r : Runner) (a : Action) (w : World) : Done Answer :=
  r.performTo w.script.steps.length a w

/-- Performs actions in turn. -/
def performAll (r : Runner) : List Action → World → List Deed × World := performEach r.perform

end Runner

/-- The position of each number among the distinct ones, in order of their first occurrence. -/
def firstUse (dirs : List Nat) : List Nat :=
  dirs.map fun d => dirs.eraseDups.idxOf d

end CloudScaffold.Provision
