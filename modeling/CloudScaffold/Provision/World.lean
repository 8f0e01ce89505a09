import CloudScaffold.Provision.Directory
import CloudScaffold.Provision.Report
import CloudScaffold.Text.Literal
/-!
# The world of a runner

A world holds the environments that are taken, the work directories that exist, and the script that
says what processes do: each process takes the next step. While it runs, a step may perform actions
of its own.

The environments that are taken are the locks of TerraForge's `TerraformRunner`, which `_acquire` takes.
-/
namespace CloudScaffold.Provision

/-- Whether a listener fails on the last of the events that it has heard. -/
abbrev Listener := List Event → Bool

/-- The listener that never fails. -/
def Listener.patient : Listener := fun _ => false

abbrev FileList := List (String × String)

/-- What can be asked of a runner. -/
inductive Action where
  | operate (operation : Operation) (environment : String) (files : FileList) (listener : Listener)
  /-- One stage, by name, in a fresh directory of its own. To run it in a directory that the caller names is
  left out. -/
  | run (stage : String) (files : FileList)
  | isBusy (environment : String)
  /-- Takes an environment. -/
  | acquire (environment : String)
  /-- Frees an environment. -/
  | release (environment : String)

/-- A step of a script: how a process that runs a stage ends, and what is done while it runs. -/
structure Step where
  outcome : Stage → Outcome
  during : List Action := []

structure Script where
  steps : List Step
  /-- How processes end when no step is left. -/
  otherwise : Stage → Outcome

/-- The state of a runner. Directories are numbered as they are made. -/
structure World where
  script : Script
  busy : List String := []
  dirs : List (Nat × Directory) := []
  fresh : Nat := 0

namespace World

def isBusy (w : World) (environment : String) : Bool := w.busy.contains environment

def take (w : World) (environment : String) : World :=
  { w with busy := environment :: w.busy }

def free (w : World) (environment : String) : World :=
  { w with busy := w.busy.erase environment }

/-- The files in a directory. -/
def filesIn (w : World) (dir : Nat) : Directory := (w.dirs.lookup dir).getD []

/-- Makes an empty directory: its number. -/
def makeDir (w : World) : Nat × World :=
  (w.fresh, { w with dirs := (w.fresh, []) :: w.dirs, fresh := w.fresh + 1 })

def setDir (w : World) (dir : Nat) (files : Directory) : World :=
  { w with dirs := w.dirs.map fun d => if d.1 = dir then (dir, files) else d }

def removeDir (w : World) (dir : Nat) : World :=
  { w with dirs := w.dirs.filter fun d => d.1 ≠ dir }

/-- The next step of the script. -/
def nextStep (w : World) : Step × World :=
  match w.script.steps with
  | [] => ({ outcome := w.script.otherwise }, w)
  | s :: ss => (s, { w with script := { w.script with steps := ss } })

end World

end CloudScaffold.Provision
