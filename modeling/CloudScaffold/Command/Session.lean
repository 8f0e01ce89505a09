import CloudScaffold.Command.Folder
import CloudScaffold.Command.Options
import CloudScaffold.Command.Values
import CloudScaffold.Generation
/-!
# Sessions

A session is what a command does, step by step: it says something, waits for a line, lets the user
choose, reads and writes files, and asks the assistant. How the steps are carried out is left open.
`Session.run` carries them out on a desk, where the lines to come and the files are known in
advance.

A choice is repeated until the answer is one of the options, by name or by number. The end of the
input ends a session that waits for a line.

The loop of TerraForge's `choose` is `Desk.choose`, and `pick` decides about one answer.
-/
namespace CloudScaffold.Command

open Text Number

/-- Why a session ends early. -/
inductive Stop where
  /-- With a code for the caller. -/
  | exit (code : Nat)
  | usage (cause : UsageError)
  /-- An option that is needed where nobody can be asked. -/
  | required (option : String)
  | values (cause : ValuesError)
  /-- A numeral in an answer that cannot be read. -/
  | numeral (cause : NumberError)
  | path (cause : PathFault)
  | generation (cause : GenerationError)

namespace Stop

/-- The code for the caller: two for a command line that is wrong, one for what goes wrong later. -/
def code : Stop → Nat
  | exit n => n
  | usage _ | required _ | values (.noAssignment _) | values .noMapping => 2
  | _ => 1

/-- What is wrong; a session that ends with a code has said so. -/
def message? : Stop → Option String
  | exit _ => none
  | usage e => some e.message
  | required o => some s!"{o} is required"
  | values e => some e.message
  | numeral e => some e.message
  | path e => some e.message
  | generation e => some e.message

end Stop

inductive Session (α : Type) where
  | done (a : α)
  | stop (cause : Stop)
  | say (text : String) (next : Session α)
  /-- A line, without the blanks at its ends. -/
  | line (next : String → Session α)
  /-- One of some options. -/
  | choice (options : List String) (next : String → Session α)
  | readFile (path : Path) (next : String → Session α)
  /-- Makes a directory and those above it. -/
  | makeDirectory (path : Path) (next : Session α)
  | writeFile (path : Path) (text : String) (next : Session α)
  /-- The assistant's reply to a question, if it has one. -/
  | consult (q : Question) (next : Option String → Session α)

namespace Session

variable {α β : Type}

/-- One session after another. -/
def bind (s : Session α) (f : α → Session β) : Session β :=
  match s with
  | done a => f a
  | stop c => stop c
  | say t n => say t (n.bind f)
  | line n => line fun l => (n l).bind f
  | choice os n => choice os fun o => (n o).bind f
  | readFile p n => readFile p fun t => (n t).bind f
  | makeDirectory p n => makeDirectory p (n.bind f)
  | writeFile p t n => writeFile p t (n.bind f)
  | consult q n => consult q fun r => (n r).bind f

instance : Monad Session where
  pure := done
  bind := bind

instance : LawfulMonad Session := LawfulMonad.mk' Session
  (fun s => by
    induction s with
    | done _ => rfl
    | stop _ => rfl
    | say t _ ih => exact congrArg (say t) ih
    | line _ ih => exact congrArg line (funext ih)
    | choice os _ ih => exact congrArg (choice os) (funext ih)
    | readFile p _ ih => exact congrArg (readFile p) (funext ih)
    | makeDirectory p _ ih => exact congrArg (makeDirectory p) ih
    | writeFile p t _ ih => exact congrArg (writeFile p t) ih
    | consult q _ ih => exact congrArg (consult q) (funext ih))
  (fun _ _ => rfl)
  (fun s _ _ => by
    induction s with
    | done _ => rfl
    | stop _ => rfl
    | say t _ ih => exact congrArg (say t) ih
    | line _ ih => exact congrArg line (funext ih)
    | choice os _ ih => exact congrArg (choice os) (funext ih)
    | readFile p _ ih => exact congrArg (readFile p) (funext ih)
    | makeDirectory p _ ih => exact congrArg (makeDirectory p) ih
    | writeFile p t _ ih => exact congrArg (writeFile p t) ih
    | consult q _ ih => exact congrArg (consult q) (funext ih))

/-- A result, or an early end. -/
def ofExcept {ε : Type} (cause : ε → Stop) : Except ε α → Session α
  | .ok a => done a
  | .error e => stop (cause e)

end Session

/-! ## Answers -/

/-- The option that an answer picks, if it picks one: by its name, or by its number from one on. -/
def pick (options : List String) (answer : String) : Except NumberError (Option String) := do
  if options.contains answer then .ok (some answer)
  else if answer != "" && answer.toList.all isDigitSign then
    let n ← readInt answer
    .ok (if 1 ≤ n then options[n.toNat - 1]? else none)
  else .ok none

/-- What stands before an answer to a choice. -/
def choiceMark : String := "> "

/-- What is said to an answer that picks nothing. -/
def choiceHint : String := "(Please choose one of the listed options)\n"

/-- What is said at the end of the input. -/
def farewell : String := "\n\nExiting...\n"

/-! ## Desks -/

/-- What a session finds and leaves behind. -/
structure Desk where
  /-- The lines to come. -/
  input : List String := []
  output : String := ""
  folder : Folder := {}
  /-- The assistant's reply to a question, if it has one. -/
  reply : Question → Option String := fun _ => none
  questions : List Question := []

namespace Desk

/-- The lines of a text; a line break at its end starts no line. -/
def linesOf : List Char → List (List Char)
  | [] => []
  | c :: r =>
    if c = '\n' then [] :: linesOf r
    else match linesOf r with
      | [] => [[c]]
      | l :: ls => (c :: l) :: ls

/-- The lines that a text types. -/
def typed (text : String) : List String :=
  (linesOf (plainBreaks text.toList)).map .ofList

def say (d : Desk) (text : String) : Desk := { d with output := d.output ++ text }

/-- Lets the user choose, up to an answer that picks an option. -/
def choose (options : List String) : List String → Desk → Except Stop String × Desk
  | [], d => (.error (.exit 0), { (d.say choiceMark).say farewell with input := [] })
  | l :: ls, d =>
    let d := { d.say choiceMark with input := ls }
    match pick options (trim l) with
    | .error e => (.error (.numeral e), d)
    | .ok (some o) => (.ok o, d)
    | .ok none => choose options ls (d.say choiceHint)

end Desk

/-- Carries out a session on a desk. -/
def Session.run {α : Type} (s : Session α) (d : Desk) : Except Stop α × Desk :=
  match s with
  | done a => (.ok a, d)
  | stop c => (.error c, d)
  | say t n => n.run (d.say t)
  | line n =>
    match d.input with
    | [] => (.error (.exit 0), d.say farewell)
    | l :: ls => (n (trim l)).run { d with input := ls }
  | choice os n =>
    match d.choose os d.input with
    | (.ok o, d) => (n o).run d
    | (.error c, d) => (.error c, d)
  | readFile p n =>
    match d.folder.read p with
    | .ok t => (n t).run d
    | .error e => (.error (.path e), d)
  | makeDirectory p n =>
    match d.folder.makeDirectory p with
    | .ok f => n.run { d with folder := f }
    | .error e => (.error (.path e), d)
  | writeFile p t n =>
    match d.folder.write p t with
    | .ok f => n.run { d with folder := f }
    | .error e => (.error (.path e), d)
  | consult q n => (n (d.reply q)).run { d with questions := d.questions ++ [q] }

/-- One session after another, on the desk that the first one leaves. -/
theorem Session.run_bind {α β : Type} (s : Session α) (f : α → Session β) (d : Desk) :
    (s >>= f).run d =
      match s.run d with
      | (.ok a, e) => (f a).run e
      | (.error c, e) => (.error c, e) := by
  change (s.bind f).run d = _
  induction s generalizing d with
  | done _ => rfl
  | stop _ => rfl
  | say t _ ih => exact ih _
  | line n ih =>
    cases h : d.input with
    | nil => simp [Session.bind, run, h]
    | cons l ls => simpa [Session.bind, run, h] using ih _ _
  | choice os n ih =>
    rcases h : d.choose os d.input with ⟨_ | o, e⟩
    · simp [Session.bind, run, h]
    · simpa [Session.bind, run, h] using ih _ _
  | readFile p n ih =>
    cases h : d.folder.read p with
    | error _ => simp [Session.bind, run, h]
    | ok t => simpa [Session.bind, run, h] using ih _ _
  | makeDirectory p n ih =>
    cases h : d.folder.makeDirectory p with
    | error _ => simp [Session.bind, run, h]
    | ok t => simpa [Session.bind, run, h] using ih _
  | writeFile p t n ih =>
    cases h : d.folder.write p t with
    | error _ => simp [Session.bind, run, h]
    | ok t => simpa [Session.bind, run, h] using ih _
  | consult q n ih => exact ih _ _

end CloudScaffold.Command
