import CloudScaffold.Command.Run
import CloudScaffold.Settings
/-!
# The program

The program carries out the session of its command line at a terminal. It has no connection to an
assistant, so no question gets a reply, and files come from the templates.

It is TerraForge's `main`.
-/
namespace CloudScaffold.Command

/-- A line of the input; none at its end. -/
def nextLine : IO (Option String) := do
  let line ← (← IO.getStdin).getLine
  pure (if line.isEmpty then none else some (Text.trim line))

/-- Prints a text that no line break ends. -/
def put (text : String) : IO Unit := do
  let out ← IO.getStdout
  out.putStr text
  out.flush

/-- Lets the user choose, up to an answer that picks an option. -/
partial def chooseAtTerminal (options : List String) : IO (Except Stop String) := do
  put choiceMark
  match ← nextLine with
  | none => do
    put farewell
    pure (.error (.exit 0))
  | some l =>
    match pick options l with
    | .error e => pure (.error (.numeral e))
    | .ok (some o) => pure (.ok o)
    | .ok none => do
      put choiceHint
      chooseAtTerminal options

/-- Carries out a session at the terminal. -/
def perform {α : Type} : Session α → IO (Except Stop α)
  | .done a => pure (.ok a)
  | .stop c => pure (.error c)
  | .say t n => do
    put t
    perform n
  | .line n => do
    match ← nextLine with
    | some l => perform (n l)
    | none => do
      put farewell
      pure (.error (.exit 0))
  | .choice os n => do
    match ← chooseAtTerminal os with
    | .ok o => perform (n o)
    | .error c => pure (.error c)
  | .readFile p n => do perform (n (← IO.FS.readFile p.text))
  | .makeDirectory p n => do
    IO.FS.createDirAll p.text
    perform n
  | .writeFile p t n => do
    IO.FS.writeFile p.text t
    perform n
  | .consult _ n => perform (n none)

/-- The part of the environment that settings are read from. -/
def environment : IO Environment :=
  Environment.names.filterMapM fun n => do pure ((← IO.getEnv n).map fun v => (n, v))

/-- Says what is wrong. -/
def complain (message : String) : IO Unit := do (← IO.getStderr).putStrLn ("Error: " ++ message)

/-- Runs the command of some arguments: its exit code. -/
def start (args : List String) : IO UInt32 := do
  match Settings.ofEnvironment (← environment) with
  | .error e => do
    complain e.message
    pure 1
  | .ok settings =>
    match ← perform (command settings.assistant.enabled args) with
    | .ok () => pure 0
    | .error c => do
      c.message?.forM complain
      pure (.ofNat c.code)

end CloudScaffold.Command

def main (args : List String) : IO UInt32 := CloudScaffold.Command.start args
